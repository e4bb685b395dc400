import MbedMqtt.Client.Transport
import MbedMqtt.Network.Script

namespace MbedMqtt

structure CompletePacket (s : Script) (header : UInt8) (field body : Bytes) (s' : Script) :
    Prop where
  reads : ∃ s₁ s₂, s.read 1 = (⟨1, [header]⟩, s₁) ∧ Base128.Feeds netchar field s₁ s₂ ∧
    readBody s₂ body.length = (⟨body.length, body⟩, s')
  terminated : Base128.Terminated field
  short : field.length ≤ 4
  remaining : Base128.value field = body.length

def overflows (cfg : Config) (remLen : Nat) : Prop :=
  cfg.maxPacketSize < 1 + (packetEncode remLen).length + remLen

structure ReadContract {τ κ : Type} (cfg : Config) (w : World Script τ κ) (r : Outcome Script τ κ) :
    Prop where
  packet : 0 < r.rc → ∃ header field body, CompletePacket w.net header field body r.world.net ∧
    r.rc = headerType header
  none : r.rc = 0 → (w.net.read 1).1.rc = 0 ∧ r.world.net.stream = w.net.stream
  oversized : ∀ header field s₁ s₂, w.net.read 1 = (⟨1, [header]⟩, s₁) →
    Base128.Feeds netchar field s₁ s₂ → Base128.Terminated field → field.length ≤ 4 →
      overflows cfg (Base128.value field) → r.rc < 0

def ReadableScript (cfg : Config) (s : Script) : Prop :=
  let h := s.read 1
  let d := decodePacket h.2
  h.1.rc = 0 ∨ h.1.rc = 1 ∧
    (overflows cfg d.1.2 ∨ (readBody d.2 d.1.2).1.rc ≠ d.1.2 ∨
      headerType (h.1.bytes.headD 0) ≠ 0 ∧ Base128.completes netchar 4 h.2 = true)

instance (cfg : Config) (s : Script) : Decidable (ReadableScript cfg s) :=
  inferInstanceAs (Decidable (_ ∨ _ ∧ ((_ < _) ∨ _)))

theorem Script.read_timeout {s : Script} {n : Nat} (hn : 0 < n) (h : (s.read n).1.rc = 0) :
    (s.read n).2.stream = s.stream := by
  unfold read at h ⊢
  split at h
  · rfl
  · simp only at h
    omega
  · split at h
    · simp only at h
      omega
    · rename_i hlen
      rw [if_neg hlen]

theorem Script.read_one {s : Script} (h : (s.read 1).1.rc = 1) :
    s.read 1 = (⟨1, [(s.read 1).1.bytes.headD 0]⟩, (s.read 1).2) := by
  have hlen := s.read_length 1 (by omega)
  rcases hr : s.read 1 with ⟨⟨rc, bytes⟩, s'⟩
  rw [hr] at h hlen
  simp only at h hlen ⊢
  obtain ⟨b, rfl⟩ : ∃ b, bytes = [b] := List.length_eq_one_iff.mp (by omega)
  rw [h]
  rfl

theorem CompletePacket.completes {s s' : Script} {header : UInt8} {field body : Bytes}
    (h : CompletePacket s header field body s') :
    Base128.completes netchar 4 (s.read 1).2 = true := by
  obtain ⟨s₁, s₂, hheader, hfeeds, -⟩ := h.reads
  rw [hheader]
  exact Base128.completes_iff.mpr ⟨field, s₂, h.terminated, h.short, hfeeds⟩

variable {τ κ : Type} [Timer τ κ]

theorem readPacket_no_header (cfg : Config) (c : Client τ) {w : World Script τ κ}
    (h : (w.net.read 1).1.rc ≠ 1) :
    (readPacket cfg c w).rc = 0 ∧ (readPacket cfg c w).world.net = (w.net.read 1).2 := by
  change (Network.read w.net 1).1.rc ≠ 1 at h
  simp only [readPacket, ne_eq, h, not_false_eq_true, if_true]
  exact ⟨trivial, rfl⟩

theorem readPacket_rejected (cfg : Config) (c : Client τ) {w : World Script τ κ} {header : UInt8}
    {s₁ : Script} (hheader : w.net.read 1 = (⟨1, [header]⟩, s₁))
    (h : overflows cfg (decodePacket s₁).1.2 ∨
      (readBody (decodePacket s₁).2 (decodePacket s₁).1.2).1.rc ≠ (decodePacket s₁).1.2) :
    (readPacket cfg c w).rc < 0 := by
  change Network.read w.net 1 = _ at hheader
  simp only [readPacket, hheader, ne_eq, not_true_eq_false, if_false]
  split
  · exact (by decide : BUFFER_OVERFLOW < 0)
  · rename_i hfit
    rcases h with h | h
    · exact absurd h hfit
    · rw [if_pos h]
      exact (by decide : FAILURE < 0)

theorem readPacket_oversized (cfg : Config) (c : Client τ) {w : World Script τ κ} (header : UInt8)
    (field : Bytes) (s₁ s₂ : Script) (hheader : w.net.read 1 = (⟨1, [header]⟩, s₁))
    (hfeeds : Base128.Feeds netchar field s₁ s₂) (hterm : Base128.Terminated field)
    (hlen : field.length ≤ 4) (hover : overflows cfg (Base128.value field)) :
    (readPacket cfg c w).rc < 0 := by
  have hdecode : decodePacket s₁ = _ := Base128.decode_terminated hterm hlen 0 0 1 hfeeds
  refine readPacket_rejected cfg c hheader (.inl ?_)
  rw [hdecode]
  simpa using hover

theorem decodePacket_complete {s₁ : Script} (h : Base128.completes netchar 4 s₁ = true) :
    ∃ field, Base128.Terminated field ∧ field.length ≤ 4 ∧
      Base128.Feeds netchar field s₁ (decodePacket s₁).2 ∧
      Base128.value field = (decodePacket s₁).1.2 := by
  obtain ⟨field, s₂, hterm, hlen, hfeeds⟩ := Base128.completes_iff.mp h
  have hdecode : decodePacket s₁ = _ := Base128.decode_terminated hterm hlen 0 0 1 hfeeds
  rw [hdecode]
  exact ⟨field, hterm, hlen, hfeeds, by simp⟩

theorem readContract_accepted {cfg : Config} {c : Client τ} {w : World Script τ κ} {header : UInt8}
    {body : Bytes} {s₁ s₂ s₃ : Script} {len : Nat}
    (hheader : w.net.read 1 = (⟨1, [header]⟩, s₁))
    (hlength : decodePacket s₁ = ((len, body.length), s₂))
    (hbody : readBody s₂ body.length = (⟨body.length, body⟩, s₃))
    (hread : readPacket cfg c w = received c { w with net := s₃ } header body) :
    ReadContract cfg w (readPacket cfg c w) ↔
      headerType header ≠ 0 ∧ Base128.completes netchar 4 s₁ = true := by
  have hrc : (readPacket cfg c w).rc = headerType header := by
    rw [hread, received]
    split <;> rfl
  have hnet : (readPacket cfg c w).world.net = s₃ := by
    rw [hread, received]
    split <;> rfl
  constructor
  · intro h
    have htype : headerType header ≠ 0 := by
      intro hzero
      have htimeout := (h.none (by rw [hrc, hzero]; rfl)).1
      rw [hheader] at htimeout
      cases htimeout
    obtain ⟨header', field, body', hpacket, -⟩ := h.packet (by rw [hrc]; omega)
    have hcomplete := hpacket.completes
    rw [hheader] at hcomplete
    exact ⟨htype, hcomplete⟩
  · rintro ⟨htype, hcomplete⟩
    obtain ⟨field, hterm, hlen, hfeeds, hvalue⟩ := decodePacket_complete hcomplete
    rw [hlength] at hfeeds hvalue
    refine ⟨fun _ => ⟨header, field, body, ⟨⟨s₁, s₂, hheader, hfeeds, ?_⟩, hterm, hlen, hvalue⟩,
      hrc⟩, fun hzero => ?_, readPacket_oversized cfg c⟩
    · rw [hnet]
      exact hbody
    · exact absurd (by exact_mod_cast hrc.symm.trans hzero) htype

theorem readPacket_contract_iff (cfg : Config) (c : Client τ) (w : World Script τ κ) :
    ReadContract cfg w (readPacket cfg c w) ↔ ReadableScript cfg w.net := by
  by_cases hrc : (w.net.read 1).1.rc = 1
  · have hheader := Script.read_one hrc
    have hreadable : ReadableScript cfg w.net ↔
        overflows cfg (decodePacket (w.net.read 1).2).1.2 ∨
          (readBody (decodePacket (w.net.read 1).2).2 (decodePacket (w.net.read 1).2).1.2).1.rc ≠
            (decodePacket (w.net.read 1).2).1.2 ∨
          headerType ((w.net.read 1).1.bytes.headD 0) ≠ 0 ∧
            Base128.completes netchar 4 (w.net.read 1).2 = true := by
      simp [ReadableScript, hrc]
    rw [hreadable]
    generalize (w.net.read 1).1.bytes.headD 0 = header at *
    generalize (w.net.read 1).2 = s₁ at *
    by_cases hreject : overflows cfg (decodePacket s₁).1.2 ∨
        (readBody (decodePacket s₁).2 (decodePacket s₁).1.2).1.rc ≠ (decodePacket s₁).1.2
    · have hneg := readPacket_rejected cfg c hheader hreject
      refine ⟨fun _ => ?_, fun _ =>
        ⟨fun h => by omega, fun h => by omega, readPacket_oversized cfg c⟩⟩
      rcases hreject with h | h
      · exact .inl h
      · exact .inr (.inl h)
    · obtain ⟨hfit, hbody⟩ := not_or.mp hreject
      have hbody := not_not.mp hbody
      rw [or_iff_right hfit, or_iff_right (not_not_intro hbody)]
      have hlen := readBody_length (decodePacket s₁).2 hbody
      rcases hd : decodePacket s₁ with ⟨⟨len, remLen⟩, s₂⟩
      rw [hd] at hfit hbody hlen
      rcases hr : readBody s₂ remLen with ⟨⟨rc, body⟩, s₃⟩
      rw [hr] at hbody hlen
      simp only at hbody hlen hfit
      subst hbody hlen
      exact readContract_accepted hheader hd hr
        (readPacket_received hheader hd (by rw [framed_length]; exact Nat.not_lt.mp hfit) hr)
  · obtain ⟨hzero, hnet⟩ := readPacket_no_header cfg c hrc
    constructor
    · intro h
      exact .inl (h.none hzero).1
    · rintro (h | ⟨h, -⟩)
      · refine ⟨fun hpos => by omega, fun _ => ⟨h, ?_⟩, readPacket_oversized cfg c⟩
        rw [hnet]
        exact Script.read_timeout (by decide) h
      · exact absurd h hrc

def interruptedLength : World Script OracleTimer Bool :=
  ⟨⟨[64, 130, 0, 7], [.full, .full, .timeout, .full], []⟩, [], [], .oracle, []⟩

theorem readPacket_accepts_interrupted :
    ¬ReadContract (.standard .qos1) interruptedLength (readPacket (.standard .qos1)
      (.construct (.standard .qos1) 30000 OracleTimer.oracle) interruptedLength) := by
  intro h
  obtain ⟨header, field, body, hpacket, -⟩ := h.packet (by decide)
  exact absurd hpacket.completes (by decide)

end MbedMqtt
