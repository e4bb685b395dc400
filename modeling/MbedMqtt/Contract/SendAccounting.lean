import MbedMqtt.Client.Transport
import MbedMqtt.Network.Script
import MbedMqtt.Network.Tap

namespace MbedMqtt

variable {σ τ κ : Type} [Network σ] [Timer τ κ]

-- from `sent` to `sent'` the writes offer ends of the packet and hand over what lies between
structure Accounts (packet : Bytes) (sent sent' : Nat) (writes : List (Bytes × Int)) : Prop where
  forward : sent ≤ sent'
  inside : sent' ≤ packet.length
  accepted : accepted writes = (packet.drop sent).take (sent' - sent)
  offered : ∀ write ∈ writes, ∃ k < packet.length, write.1 = packet.drop k

namespace Accounts

variable {packet : Bytes} {sent sent' : Nat} {writes : List (Bytes × Int)} {rc : Int}

theorem refl (h : sent ≤ packet.length) : Accounts packet sent sent [] :=
  ⟨le_rfl, h, by simp, by simp⟩

theorem failed (h : sent < packet.length) (hrc : rc < 0) :
    Accounts packet sent sent [(packet.drop sent, rc)] := by
  refine ⟨le_rfl, h.le, ?_, ?_⟩
  · rw [accepted_error hrc, Nat.sub_self, List.take_zero]
  · simpa using ⟨sent, h, rfl⟩

theorem write (h : sent < packet.length) (hrest : Accounts packet (sent + rc.toNat) sent' writes) :
    Accounts packet sent sent' ((packet.drop sent, rc) :: writes) := by
  obtain ⟨hforward, hinside, haccepted, hoffered⟩ := hrest
  refine ⟨by omega, hinside, ?_, List.forall_mem_cons.mpr ⟨⟨sent, h, rfl⟩, hoffered⟩⟩
  rw [accepted_cons, haccepted, ← List.drop_drop, ← List.take_add]
  congr 1
  omega

end Accounts

def InRange (writes : List (Bytes × Int)) : Prop :=
  ∀ write ∈ writes, write.2 ≤ write.1.length

instance (writes : List (Bytes × Int)) : Decidable (InRange writes) :=
  inferInstanceAs (Decidable (∀ write ∈ writes, _))

theorem sendLoop_accounts (timer : τ) (packet : Bytes) (fuel sent : Nat) (w : World (Tap σ) τ κ) :
    ∃ writes, (sendLoop timer packet fuel sent w).2.net.writes = w.net.writes ++ writes ∧
      (InRange writes → sent ≤ packet.length →
        Accounts packet sent (sendLoop timer packet fuel sent w).1 writes) := by
  induction fuel generalizing sent w with
  | zero => exact ⟨[], by simp [sendLoop], fun _ h => .refl h⟩
  | succ fuel ih =>
    rcases hwrite : Network.write w.net.net (packet.drop sent) with ⟨rc, net⟩
    have hroom (hless : sent < packet.length) {writes : List (Bytes × Int)}
        (hrange : InRange ((packet.drop sent, rc) :: writes)) : sent + rc.toNat ≤ packet.length := by
      have hle := hrange _ List.mem_cons_self
      simp only [List.length_drop] at hle
      omega
    simp only [sendLoop, Tap.write_eq, hwrite]
    split_ifs with hless hfailed hexpired
    · exact ⟨_, rfl, fun _ _ => .failed hless hfailed⟩
    · exact ⟨_, rfl, fun hrange _ => .write hless (.refl (hroom hless hrange))⟩
    · obtain ⟨writes, hwrites, haccounts⟩ := ih (sent + rc.toNat)
        ({ w with net := ⟨net, w.net.writes ++ [(packet.drop sent, rc)]⟩ } : World (Tap σ) τ κ).tick
      refine ⟨(packet.drop sent, rc) :: writes, ?_, fun hrange _ => .write hless ?_⟩
      · exact hwrites.trans (List.append_assoc w.net.writes _ _)
      · exact haccounts (fun write hmem => hrange write (List.mem_cons_of_mem _ hmem))
          (hroom hless hrange)
    · exact ⟨[], by simp, fun _ h => .refl h⟩

theorem sendLoop_untapped (timer : τ) (packet : Bytes) (fuel sent : Nat)
    (w : World (Tap σ) τ κ) :
    ((sendLoop timer packet fuel sent w).1, (sendLoop timer packet fuel sent w).2.untapped) =
      sendLoop timer packet fuel sent w.untapped := by
  induction fuel generalizing sent w with
  | zero => rfl
  | succ fuel ih =>
    rcases hwrite : Network.write w.net.net (packet.drop sent) with ⟨rc, net⟩
    have huntapped : Network.write w.untapped.net (packet.drop sent) = (rc, net) := hwrite
    have hexpired : ({ w.untapped with net := net } : World σ τ κ).expired timer =
        ({ w with net := ⟨net, w.net.writes ++ [(packet.drop sent, rc)]⟩ } :
          World (Tap σ) τ κ).expired timer := rfl
    simp only [sendLoop, Tap.write_eq, hwrite, huntapped, hexpired]
    split_ifs
    · rfl
    · rfl
    · exact ih _ _
    · rfl

theorem sendPacket_untapped (c : Client τ) (w : World σ τ κ) (length : Nat) (timer : τ) :
    (sendPacket c w.tapped length timer).rc = (sendPacket c w length timer).rc ∧
      (sendPacket c w.tapped length timer).client = (sendPacket c w length timer).client ∧
      (sendPacket c w.tapped length timer).world.untapped = (sendPacket c w length timer).world := by
  have hloop := sendLoop_untapped timer (c.sendbuf.take length) (w.clock.length + 1) 0 w.tapped
  rw [show w.tapped.untapped = w from rfl] at hloop
  simp only [sendPacket, ← hloop, show w.tapped.clock = w.clock from rfl]
  split_ifs
  · exact ⟨rfl, rfl, rfl⟩
  · exact ⟨rfl, rfl, rfl⟩
  · exact ⟨rfl, rfl, rfl⟩

structure SentExactly (sendbuf : Bytes) (length : Nat) (rc : Int) (writes : List (Bytes × Int)) :
    Prop where
  accepted : accepted writes <+: sendbuf.take length
  offered : ∀ write ∈ writes, ∃ k < length, write.1 = (sendbuf.take length).drop k
  success : rc = SUCCESS ↔ MbedMqtt.accepted writes = sendbuf.take length

theorem Accounts.sentExactly {sendbuf : Bytes} {length sent : Nat} {writes : List (Bytes × Int)}
    {rc : Int} (h : Accounts (sendbuf.take length) 0 sent writes)
    (hrc : rc = SUCCESS ↔ sent = (sendbuf.take length).length) :
    SentExactly sendbuf length rc writes := by
  obtain ⟨-, hinside, haccepted, hoffered⟩ := h
  rw [List.drop_zero, Nat.sub_zero] at haccepted
  refine ⟨haccepted ▸ List.take_prefix sent _, ?_, ?_⟩
  · intro write hwrite
    obtain ⟨k, hk, hdrop⟩ := hoffered write hwrite
    exact ⟨k, hk.trans_le (List.length_take_le length sendbuf), hdrop⟩
  · rw [hrc, haccepted]
    constructor
    · rintro rfl
      exact List.take_length
    · intro htake
      have hlength := congrArg List.length htake
      rwa [List.length_take_of_le hinside] at hlength

theorem sendPacket_exact (c : Client τ) (w : World σ τ κ) (length : Nat) (timer : τ)
    (hrange : InRange (sendPacket c w.tapped length timer).world.net.writes) :
    SentExactly c.sendbuf length (sendPacket c w length timer).rc
      (sendPacket c w.tapped length timer).world.net.writes := by
  obtain ⟨writes, hwrites, haccounts⟩ :=
    sendLoop_accounts timer (c.sendbuf.take length) (w.clock.length + 1) 0 w.tapped
  have hnet : (sendPacket c w.tapped length timer).world.net.writes = writes := by
    rw [show w.tapped.net.writes = [] from rfl, List.nil_append] at hwrites
    rw [← hwrites]
    simp only [sendPacket]
    split_ifs
    · rfl
    · rfl
    · rfl
  have hrc : (sendPacket c w.tapped length timer).rc = SUCCESS ↔
      (sendLoop timer (c.sendbuf.take length) (w.clock.length + 1) 0 w.tapped).1 =
        (c.sendbuf.take length).length := by
    simp only [sendPacket]
    split_ifs with hsent
    · exact iff_of_true rfl hsent
    · exact iff_of_true rfl hsent
    · exact iff_of_false (by simp) hsent
  rw [hnet] at hrange
  rw [hnet, ← (sendPacket_untapped c w length timer).1]
  exact (haccounts hrange (Nat.zero_le _)).sentExactly hrc

def partialWrites : World Script OracleTimer Bool :=
  { World.calm [] 9 with net := ⟨[], [], [1, 0, 1]⟩ }

def pinging : Client OracleTimer :=
  { Client.construct (.standard .qos0) 30000 .oracle with sendbuf := [192, 0, 7] }

theorem sendPacket_exact_split :
    SentExactly [192, 0, 7] 2 (sendPacket pinging partialWrites 2 .oracle).rc
      (sendPacket pinging partialWrites.tapped 2 .oracle).world.net.writes :=
  sendPacket_exact pinging partialWrites 2 .oracle (by decide)

end MbedMqtt
