import MbedMqtt.Client.Transport
import MbedMqtt.ClientC.Transport
import MbedMqtt.Network.Script
import MbedMqtt.Network.Tap
import MbedMqtt.SNClient.Transport

namespace MbedMqtt

open MQTTClientC (slice)

section Slices

variable (memory : Nat → UInt8)

theorem slice_length (start len : Nat) : (slice memory start len).length = len := by
  simp [slice]

theorem slice_append (start a b : Nat) :
    slice memory start a ++ slice memory (start + a) b = slice memory start (a + b) := by
  simp only [slice, List.range_add, List.map_append, List.map_map]
  congr 1
  refine List.map_congr_left fun i _ => ?_
  rw [Function.comp_apply, Nat.add_assoc]

theorem take_slice (start : Nat) {k len : Nat} (h : k ≤ len) :
    (slice memory start len).take k = slice memory start k := by
  rw [slice, ← List.map_take, List.take_range, Nat.min_eq_left h, slice]

theorem slice_congr {memory memory' : Nat → UInt8} {len : Nat}
    (h : ∀ i < len, memory i = memory' i) : slice memory 0 len = slice memory' 0 len := by
  refine List.map_congr_left fun i hi => ?_
  rw [Nat.zero_add]
  exact h i (List.mem_range.mp hi)

theorem drop_eq_slice (bytes : Bytes) {start len : Nat} (h : start + len ≤ bytes.length) :
    (bytes.drop start).take len = slice (fun i => bytes.getD i 0) start len := by
  refine List.ext_getElem ?_ fun i hi hi' => ?_
  · rw [slice_length, List.length_take, List.length_drop]
    omega
  · rw [slice_length] at hi'
    simp [slice, List.getElem?_eq_getElem (show start + i < bytes.length by omega)]

end Slices

-- what a sender hands over that offers `size sent` bytes from `sent` on with each write
def handOver (memory : Nat → UInt8) (size : Nat → Nat) (length : Nat) :
    Nat → List WriteAnswer → Nat × List (Bytes × Int)
  | sent, [] => (sent, if sent < length then [(slice memory sent (size sent), -1)] else [])
  | sent, .error code :: _ =>
      (sent, if sent < length then [(slice memory sent (size sent), -(code : Int) - 1)] else [])
  | sent, .accept limit :: rest =>
      if sent < length then
        let rc := min limit (size sent)
        let r := handOver memory size length (sent + rc) rest
        (r.1, (slice memory sent (size sent), (rc : Int)) :: r.2)
      else (sent, [])

section HandOver

variable (memory : Nat → UInt8) (size : Nat → Nat) (length : Nat)

theorem handOver_done {sent : Nat} (h : ¬sent < length) (answers : List WriteAnswer) :
    handOver memory size length sent answers = (sent, []) := by
  cases answers with
  | nil => rw [handOver, if_neg h]
  | cons answer rest =>
    cases answer with
    | accept limit => rw [handOver, if_neg h]
    | error code => rw [handOver, if_neg h]

theorem handOver_accepted (sent : Nat) (answers : List WriteAnswer) :
    sent ≤ (handOver memory size length sent answers).1 ∧
      accepted (handOver memory size length sent answers).2 =
        slice memory sent ((handOver memory size length sent answers).1 - sent) := by
  induction answers generalizing sent with
  | nil =>
    rw [handOver, Nat.sub_self]
    split_ifs
    · exact ⟨le_rfl, accepted_error (by decide) _⟩
    · exact ⟨le_rfl, rfl⟩
  | cons answer rest ih =>
    cases answer with
    | error code =>
      rw [handOver, Nat.sub_self]
      split_ifs
      · exact ⟨le_rfl, accepted_error (by omega) _⟩
      · exact ⟨le_rfl, rfl⟩
    | accept limit =>
      rw [handOver]
      split_ifs
      · obtain ⟨hle, haccepted⟩ := ih (sent + min limit (size sent))
        simp only at hle ⊢
        refine ⟨by omega, ?_⟩
        rw [accepted_cons, haccepted, Int.toNat_natCast, take_slice _ _ (Nat.min_le_right _ _),
          slice_append]
        congr 1
        omega
      · exact ⟨le_rfl, by simp [slice]⟩

end HandOver

-- after the limits `pre` part of the packet is left, and the next write takes more than that
def OverTaken (length sent : Nat) (answers : List WriteAnswer) : Prop :=
  ∃ (pre : List Nat) (limit : Nat) (post : List WriteAnswer),
    answers = pre.map .accept ++ .accept limit :: post ∧
    0 < sent + pre.sum ∧ sent + pre.sum < length ∧ length < sent + pre.sum + limit

section OverTaken

variable {length sent : Nat}

theorem overTaken_nil : ¬OverTaken length sent [] := by
  rintro ⟨pre, limit, post, h, -⟩
  cases pre <;> cases h

theorem overTaken_error {code : Nat} {rest : List WriteAnswer} :
    ¬OverTaken length sent (.error code :: rest) := by
  rintro ⟨pre, limit, post, h, -⟩
  cases pre <;> cases h

theorem overTaken_accept {limit : Nat} {rest : List WriteAnswer} :
    OverTaken length sent (.accept limit :: rest) ↔
      0 < sent ∧ sent < length ∧ length < sent + limit ∨ OverTaken length (sent + limit) rest := by
  constructor
  · rintro ⟨pre, limit', post, h, h0, h1, h2⟩
    cases pre with
    | nil =>
      cases h
      exact .inl ⟨by simpa using h0, by simpa using h1, by simpa using h2⟩
    | cons first pre =>
      cases h
      simp only [List.sum_cons, ← Nat.add_assoc] at h0 h1 h2
      exact .inr ⟨pre, limit', post, rfl, h0, h1, h2⟩
  · rintro (⟨h0, h1, h2⟩ | ⟨pre, limit', post, rfl, h0, h1, h2⟩)
    · exact ⟨[], limit, rest, rfl, by simpa using h0, by simpa using h1, by simpa using h2⟩
    · refine ⟨limit :: pre, limit', post, rfl, ?_⟩
      simp only [List.sum_cons, ← Nat.add_assoc]
      exact ⟨h0, h1, h2⟩

theorem overTaken_done (h : length ≤ sent) (answers : List WriteAnswer) :
    ¬OverTaken length sent answers := by
  rintro ⟨pre, limit, post, -, -, h1, -⟩
  omega

end OverTaken

-- the sender that offers the rest of the packet and the one that always offers `length` bytes
theorem handOver_eq_iff (memory memory' : Nat → UInt8) {length sent : Nat} (h : sent ≤ length)
    (answers : List WriteAnswer) :
    (handOver memory (length - ·) length sent answers).1 ≤ length ∧
      ((handOver memory (length - ·) length sent answers).1 =
        (handOver memory' (fun _ => length) length sent answers).1 ↔
          ¬OverTaken length sent answers) := by
  induction answers generalizing sent with
  | nil => exact ⟨h, iff_of_true rfl overTaken_nil⟩
  | cons answer rest ih =>
    cases answer with
    | error code => exact ⟨h, iff_of_true rfl overTaken_error⟩
    | accept limit =>
      rw [overTaken_accept, not_or]
      rcases h.lt_or_eq with hless | rfl
      swap
      · rw [handOver_done _ _ _ (lt_irrefl sent), handOver_done _ _ _ (lt_irrefl sent)]
        exact ⟨le_rfl, iff_of_true rfl ⟨by omega, overTaken_done (by omega) rest⟩⟩
      simp only [handOver, if_pos hless]
      by_cases hover : 0 < sent ∧ length < sent + limit
      · have hexact : sent + min limit (length - sent) = length := by omega
        have hfull : ¬sent + min limit length < length := by omega
        rw [hexact, handOver_done _ _ _ (lt_irrefl length), handOver_done _ _ _ hfull]
        refine ⟨le_rfl, iff_of_false ?_ fun hnot => hnot.1 ⟨hover.1, hless, hover.2⟩⟩
        simp only
        omega
      · have hsame : min limit length = min limit (length - sent) := by omega
        obtain ⟨hle, hrest⟩ := ih (show sent + min limit (length - sent) ≤ length by omega)
        have hover' : OverTaken length (sent + min limit (length - sent)) rest ↔
            OverTaken length (sent + limit) rest := by
          rcases Nat.le_total limit (length - sent) with hlimit | hlimit
          · rw [Nat.min_eq_left hlimit]
          · exact iff_of_false (overTaken_done (by omega) rest) (overTaken_done (by omega) rest)
        rw [hsame, hrest, hover']
        refine ⟨hle, ?_⟩
        constructor
        · exact fun hnot => ⟨fun hnow => hover ⟨hnow.1, hnow.2.2⟩, hnot⟩
        · exact fun hnot => hnot.2

-- the answers the network will give, and a timer that expires at none of the readings
structure Unhurried {τ κ : Type} [Timer τ κ] (timer : τ) (answers : List WriteAnswer)
    (net : Acceptor) (clock : List κ) : Prop where
  given : net.answers = answers
  unexpired : ∀ now ∈ clock, Timer.expired timer now = false
  enough : answers.length < clock.length

namespace Unhurried

variable {τ κ : Type} [Timer τ κ] {timer : τ} {answers rest : List WriteAnswer}
variable {net net' : Acceptor} {clock : List κ} {answer : WriteAnswer}

theorem tail (h : Unhurried timer (answer :: rest) net clock) (hnet : net'.answers = rest) :
    Unhurried timer rest net' clock.tail := by
  refine ⟨hnet, fun now hnow => h.unexpired now (List.mem_of_mem_tail hnow), ?_⟩
  have hlt := h.enough
  rw [List.length_cons] at hlt
  rw [List.length_tail]
  omega

theorem not_expired {σ : Type} {w : World σ τ κ} (h : Unhurried timer answers net w.clock) :
    w.expired timer = false := by
  obtain ⟨now, later, hclock⟩ := List.exists_cons_of_length_pos (Nat.zero_lt_of_lt h.enough)
  rw [World.expired, hclock]
  exact h.unexpired now (hclock ▸ List.mem_cons_self)

theorem sn_not_expired {σ : Type} {w : MQTTSN.World σ κ} (h : Unhurried timer answers net w.clock) :
    w.expired timer = false := by
  obtain ⟨now, later, hclock⟩ := List.exists_cons_of_length_pos (Nat.zero_lt_of_lt h.enough)
  rw [MQTTSN.World.expired, hclock]
  exact h.unexpired now (hclock ▸ List.mem_cons_self)

end Unhurried

section Write

variable {net : Acceptor} {bytes : Bytes} {rest : List WriteAnswer}

theorem write_exhausted (h : net.answers = []) : Network.write net bytes = ((-1 : Int), net) := by
  obtain ⟨answers⟩ := net
  cases h
  rfl

theorem write_error {code : Nat} (h : net.answers = .error code :: rest) :
    Network.write net bytes = (-(code : Int) - 1, (⟨rest⟩ : Acceptor)) := by
  obtain ⟨answers⟩ := net
  cases h
  rfl

theorem write_accept {limit : Nat} (h : net.answers = .accept limit :: rest) :
    Network.write net bytes = (((min limit bytes.length : Nat) : Int), (⟨rest⟩ : Acceptor)) := by
  obtain ⟨answers⟩ := net
  cases h
  rfl

end Write

-- the bytes on the wire and the return code of one sender
structure HandsOver (memory : Nat → UInt8) (length sent : Nat) (rc : Int)
    (writes : List (Bytes × Int)) : Prop where
  bytes : accepted writes = slice memory 0 sent
  rc : rc = if sent = length then SUCCESS else FAILURE

-- a loop that writes `offer sent` as long as less than `length` bytes are sent
structure WritesAll {ω : Type} (loop : Nat → Nat → ω → Nat × ω) (net : ω → Tap Acceptor)
    (offer : Nat → Bytes) (length : Nat) (ready : List WriteAnswer → ω → Prop) : Prop where
  given : ∀ {answers w}, ready answers w → (net w).net.answers = answers
  done : ∀ {answers w fuel sent}, ready answers w → ¬sent < length →
    loop (fuel + 1) sent w = (sent, w)
  refused : ∀ {answers w fuel sent rc tap}, ready answers w → sent < length →
    Network.write (net w) (offer sent) = (rc, tap) → rc < 0 →
    (loop (fuel + 1) sent w).1 = sent ∧ net (loop (fuel + 1) sent w).2 = tap
  taken : ∀ {answer rest w fuel sent rc tap}, ready (answer :: rest) w → sent < length →
    Network.write (net w) (offer sent) = (rc, tap) → ¬rc < 0 → tap.net.answers = rest →
    ∃ w', loop (fuel + 1) sent w = loop fuel (sent + rc.toNat) w' ∧ net w' = tap ∧ ready rest w'

namespace WritesAll

variable {ω : Type} {loop : Nat → Nat → ω → Nat × ω} {net : ω → Tap Acceptor}
variable {offer : Nat → Bytes} {length : Nat} {ready : List WriteAnswer → ω → Prop}

theorem write_eq {w : ω} {sent : Nat} {rc : Int} {inner : Acceptor}
    (hwrite : Network.write (net w).net (offer sent) = (rc, inner)) :
    Network.write (net w) (offer sent) =
      (rc, (⟨inner, (net w).writes ++ [(offer sent, rc)]⟩ : Tap Acceptor)) := by
  rw [Tap.write_eq, hwrite]

theorem handOver_eq (h : WritesAll loop net offer length ready) {memory : Nat → UInt8}
    {size : Nat → Nat} (hoffer : ∀ sent < length, offer sent = slice memory sent (size sent))
    {answers : List WriteAnswer} {fuel : Nat} (hfuel : answers.length < fuel) (sent : Nat) {w : ω}
    (hw : ready answers w) :
    (loop fuel sent w).1 = (handOver memory size length sent answers).1 ∧
      (net (loop fuel sent w).2).writes =
        (net w).writes ++ (handOver memory size length sent answers).2 := by
  induction answers generalizing fuel sent w with
  | nil =>
    obtain ⟨fuel, rfl⟩ : ∃ k, fuel = k + 1 := ⟨fuel - 1, by omega⟩
    by_cases hless : sent < length
    · obtain ⟨hsent, htap⟩ := h.refused hw hless (write_eq (write_exhausted (h.given hw)))
        (by decide)
      rw [hsent, htap, handOver, if_pos hless, hoffer sent hless]
      exact ⟨rfl, rfl⟩
    · rw [h.done hw hless, handOver_done _ _ _ hless, List.append_nil]
      exact ⟨rfl, rfl⟩
  | cons answer rest ih =>
    obtain ⟨fuel, rfl⟩ : ∃ k, fuel = k + 1 := ⟨fuel - 1, by omega⟩
    by_cases hless : sent < length
    swap
    · rw [h.done hw hless, handOver_done _ _ _ hless, List.append_nil]
      exact ⟨rfl, rfl⟩
    cases answer with
    | error code =>
      obtain ⟨hsent, htap⟩ := h.refused hw hless (write_eq (write_error (h.given hw))) (by omega)
      rw [hsent, htap, handOver, if_pos hless, hoffer sent hless]
      exact ⟨rfl, rfl⟩
    | accept limit =>
      obtain ⟨w', hloop, htap, hw'⟩ := h.taken hw hless
        (write_eq (write_accept (h.given hw))) (by omega) rfl
      obtain ⟨hsent, hwrites⟩ := ih (Nat.lt_of_succ_lt_succ hfuel)
        (sent + min limit (offer sent).length) hw'
      rw [hloop, handOver, if_pos hless, Int.toNat_natCast, hsent, hwrites, htap,
        hoffer sent hless, slice_length]
      exact ⟨rfl, List.append_assoc _ _ _⟩

theorem handsOver (h : WritesAll loop net offer length ready) {memory : Nat → UInt8}
    {size : Nat → Nat} (hoffer : ∀ sent < length, offer sent = slice memory sent (size sent))
    {answers : List WriteAnswer} {fuel : Nat} (hfuel : answers.length < fuel) {w : ω}
    (hw : ready answers w) (hfresh : (net w).writes = []) (rc : Int)
    (hrc : rc = if (loop fuel 0 w).1 = length then SUCCESS else FAILURE) :
    HandsOver memory length (handOver memory size length 0 answers).1 rc
      (net (loop fuel 0 w).2).writes := by
  obtain ⟨hsent, hwrites⟩ := h.handOver_eq hoffer hfuel 0 hw
  refine ⟨?_, hsent ▸ hrc⟩
  rw [hwrites, hfresh, List.nil_append, (handOver_accepted memory size length 0 answers).2,
    Nat.sub_zero]

end WritesAll

section Senders

variable {τ κ : Type} [Timer τ κ] {timer : τ}

theorem drop_slice {packet : Bytes} {sent : Nat} (h : sent ≤ packet.length) :
    packet.drop sent = slice (fun i => packet.getD i 0) sent (packet.length - sent) := by
  rw [← drop_eq_slice packet (show sent + (packet.length - sent) ≤ packet.length by omega),
    ← List.length_drop, List.take_length]

theorem sendLoop_writesAll (packet : Bytes) :
    WritesAll (sendLoop timer packet) World.net packet.drop packet.length
      fun answers (w : World (Tap Acceptor) τ κ) => Unhurried timer answers w.net.net w.clock where
  given h := h.given
  done _ hdone := by rw [sendLoop, if_neg hdone]
  refused _ hless hwrite hrc := by
    simp only [sendLoop, if_pos hless, hwrite, if_pos hrc, and_self]
  taken := by
    intro answer rest w fuel sent rc tap h hless hwrite hrc hrest
    have hexpired : ({ w with net := tap } : World (Tap Acceptor) τ κ).expired timer = false :=
      Unhurried.not_expired (w := { w with net := tap }) h
    refine ⟨({ w with net := tap } : World (Tap Acceptor) τ κ).tick, ?_, rfl, h.tail hrest⟩
    simp only [sendLoop, if_pos hless, hwrite, if_neg hrc, hexpired, Bool.false_eq_true, if_false]

theorem c_sendLoop_writesAll (memory : Nat → UInt8) (length : Nat) :
    WritesAll (MQTTClientC.sendLoop timer memory length) World.net (slice memory · length) length
      fun answers (w : World (Tap Acceptor) τ κ) => Unhurried timer answers w.net.net w.clock where
  given h := h.given
  done _ hdone := by rw [MQTTClientC.sendLoop, if_neg hdone]
  refused h hless hwrite hrc := by
    simp only [MQTTClientC.sendLoop, if_pos hless, h.not_expired, Bool.false_eq_true, if_false,
      hwrite, if_pos hrc, and_self]
  taken := by
    intro answer rest w fuel sent rc tap h hless hwrite hrc hrest
    refine ⟨{ w.tick with net := tap }, ?_, rfl, h.tail hrest⟩
    simp only [MQTTClientC.sendLoop, if_pos hless, h.not_expired, Bool.false_eq_true, if_false,
      hwrite, if_neg hrc]

instance : MQTTSN.DatagramNetwork (Tap Acceptor) where
  read_le _ n := Int.natCast_nonneg n

theorem sn_sendLoop_writesAll (memory : Bytes) (length : Nat) :
    WritesAll (MQTTSN.sendLoop timer memory length) MQTTSN.World.net
      (fun sent => (memory.drop sent).take length) length
      fun answers (w : MQTTSN.World (Tap Acceptor) κ) =>
        Unhurried timer answers w.net.net w.clock where
  given h := h.given
  done _ hdone := by rw [MQTTSN.sendLoop, if_neg hdone]
  refused h hless hwrite hrc := by
    simp only [MQTTSN.sendLoop, if_pos hless, h.sn_not_expired, Bool.false_eq_true, if_false,
      hwrite, if_pos hrc, and_self]
  taken := by
    intro answer rest w fuel sent rc tap h hless hwrite hrc hrest
    refine ⟨{ w.tick with net := tap }, ?_, rfl, h.tail hrest⟩
    simp only [MQTTSN.sendLoop, if_pos hless, h.sn_not_expired, Bool.false_eq_true, if_false,
      hwrite, if_neg hrc]

end Senders

def MQTTSN.World.tapped {σ κ : Type} (w : MQTTSN.World σ κ) : MQTTSN.World (Tap σ) κ :=
  ⟨⟨w.net, []⟩, w.clock, w.stack, w.log⟩

section Agreement

variable {τ κ : Type} [Timer τ κ] {timer timer' timer'' : τ}

-- the three clients hold one packet, and the datagram client's buffers are of one size
structure Holding (packet : Bytes) (cpp : Client τ) (c : MQTTClientC.MQTTClient τ)
    (sn : MQTTSN.Client τ) : Prop where
  cpp_packet : cpp.sendbuf.take packet.length = packet
  c_packet : c.buf.take packet.length = packet
  sn_packet : sn.sendbuf.take packet.length = packet
  sn_room : packet.length ≤ sn.readbuf.length

structure AgreeOnWire {σ : Type} (cpp : Outcome (Tap σ) τ κ)
    (c : MQTTClientC.Outcome (Tap σ) τ κ) (sn : MQTTSN.Outcome (Tap σ) τ κ) : Prop where
  c_bytes : accepted c.world.net.writes = accepted cpp.world.net.writes
  sn_bytes : accepted sn.world.net.writes = accepted cpp.world.net.writes
  c_rc : c.rc = cpp.rc
  sn_rc : sn.rc = cpp.rc

theorem getD_of_take {bytes packet : Bytes} (h : bytes.take packet.length = packet) {i : Nat}
    (hi : i < packet.length) (d : UInt8) : bytes.getD i d = packet.getD i 0 := by
  have hlength : packet.length ≤ bytes.length := by
    have htake := congrArg List.length h
    rw [List.length_take] at htake
    omega
  have hget : bytes[i]? = packet[i]? := by
    rw [← List.getElem?_take_of_lt hi, h]
  rw [List.getD_eq_getElem?_getD, List.getD_eq_getElem?_getD, hget,
    List.getElem?_eq_getElem hi]
  rfl

theorem sendPacket_handsOver (c : Client τ) {packet : Bytes} {answers : List WriteAnswer}
    {w : World Acceptor τ κ} (hheld : c.sendbuf.take packet.length = packet)
    (h : Unhurried timer answers w.net w.clock) :
    HandsOver (fun i => packet.getD i 0) packet.length
      (handOver (fun i => packet.getD i 0) (packet.length - ·) packet.length 0 answers).1
      (sendPacket c w.tapped packet.length timer).rc
      (sendPacket c w.tapped packet.length timer).world.net.writes := by
  have hready : Unhurried timer answers w.tapped.net.net w.tapped.clock := h
  have hloop := (sendLoop_writesAll packet).handsOver (fun sent hless => drop_slice hless.le)
    (Nat.lt_succ_of_lt h.enough) hready rfl
  simp only [sendPacket, hheld]
  split_ifs with hdone
  · exact hloop _ (if_pos hdone).symm
  · exact hloop _ (if_pos hdone).symm
  · exact hloop _ (if_neg hdone).symm

theorem c_sendPacket_handsOver (beyond : Nat → UInt8) (c : MQTTClientC.MQTTClient τ) (length : Nat)
    {answers : List WriteAnswer} {w : World Acceptor τ κ}
    (h : Unhurried timer answers w.net w.clock) :
    HandsOver (c.memory beyond) length
      (handOver (c.memory beyond) (fun _ => length) length 0 answers).1
      (MQTTClientC.sendPacket beyond c w.tapped length timer).rc
      (MQTTClientC.sendPacket beyond c w.tapped length timer).world.net.writes := by
  have hready : Unhurried timer answers w.tapped.net.net w.tapped.clock := h
  have hloop := (c_sendLoop_writesAll (c.memory beyond) length).handsOver (fun _ _ => rfl)
    (Nat.lt_succ_of_lt h.enough) hready rfl
  simp only [MQTTClientC.sendPacket]
  split_ifs with hdone
  · exact hloop _ (if_pos hdone).symm
  · exact hloop _ (if_neg hdone).symm

theorem sn_sendPacket_handsOver (c : MQTTSN.Client τ) {length : Nat}
    (hroom : 2 * length ≤ (c.sendbuf ++ c.readbuf).length) {answers : List WriteAnswer}
    {w : MQTTSN.World Acceptor κ} (h : Unhurried timer answers w.net w.clock) :
    HandsOver (fun i => (c.sendbuf ++ c.readbuf).getD i 0) length
      (handOver (fun i => (c.sendbuf ++ c.readbuf).getD i 0) (fun _ => length) length 0 answers).1
      (MQTTSN.sendPacket c w.tapped length timer).rc
      (MQTTSN.sendPacket c w.tapped length timer).world.net.writes := by
  have hready : Unhurried timer answers w.tapped.net.net w.tapped.clock := h
  have hoffer (sent : Nat) (hless : sent < length) :
      ((c.sendbuf ++ c.readbuf).drop sent).take length =
        slice (fun i => (c.sendbuf ++ c.readbuf).getD i 0) sent length :=
    drop_eq_slice _ (by omega)
  have hloop := (sn_sendLoop_writesAll (c.sendbuf ++ c.readbuf) length).handsOver hoffer
    (Nat.lt_succ_of_lt h.enough) hready rfl
  simp only [MQTTSN.sendPacket]
  split_ifs with hdone
  · exact hloop _ (if_pos hdone).symm
  · exact hloop _ (if_pos hdone).symm
  · exact hloop _ (if_neg hdone).symm

-- two senders of one packet, the first of which never runs past its end
theorem HandsOver.agree_iff {memory memory' : Nat → UInt8} {length sent sent' : Nat} {rc rc' : Int}
    {writes writes' : List (Bytes × Int)} (h : HandsOver memory length sent rc writes)
    (h' : HandsOver memory' length sent' rc' writes') (hle : sent ≤ length)
    (hsame : ∀ i < length, memory' i = memory i) :
    accepted writes' = accepted writes ∧ rc' = rc ↔ sent = sent' := by
  rw [h.bytes, h'.bytes, h.rc, h'.rc]
  constructor
  · rintro ⟨hbytes, -⟩
    simpa only [slice_length] using (congrArg List.length hbytes).symm
  · rintro rfl
    exact ⟨slice_congr fun i hi => hsame i (hi.trans_le hle), rfl⟩

theorem sendPacket_agree_iff {packet : Bytes} {cpp : Client τ} {c : MQTTClientC.MQTTClient τ}
    {sn : MQTTSN.Client τ} (hheld : Holding packet cpp c sn) (beyond : Nat → UInt8)
    {answers : List WriteAnswer} {w w' : World Acceptor τ κ} {w'' : MQTTSN.World Acceptor κ}
    (h : Unhurried timer answers w.net w.clock) (h' : Unhurried timer' answers w'.net w'.clock)
    (h'' : Unhurried timer'' answers w''.net w''.clock) :
    AgreeOnWire (sendPacket cpp w.tapped packet.length timer)
      (MQTTClientC.sendPacket beyond c w'.tapped packet.length timer')
      (MQTTSN.sendPacket sn w''.tapped packet.length timer'') ↔
        ¬OverTaken packet.length 0 answers := by
  have hsn : packet.length ≤ sn.sendbuf.length := by
    have htake := congrArg List.length hheld.sn_packet
    rw [List.length_take] at htake
    omega
  have hroom : 2 * packet.length ≤ (sn.sendbuf ++ sn.readbuf).length := by
    rw [List.length_append, Nat.two_mul]
    exact Nat.add_le_add hsn hheld.sn_room
  have hc (i : Nat) (hi : i < packet.length) : c.memory beyond i = packet.getD i 0 :=
    getD_of_take hheld.c_packet hi _
  have hmemory (i : Nat) (hi : i < packet.length) :
      (sn.sendbuf ++ sn.readbuf).getD i 0 = packet.getD i 0 := by
    rw [List.getD_eq_getElem?_getD, List.getElem?_append_left (hi.trans_le hsn),
      ← List.getD_eq_getElem?_getD, getD_of_take hheld.sn_packet hi]
  have hcpp := sendPacket_handsOver cpp hheld.cpp_packet h
  obtain ⟨hle, hiff⟩ := handOver_eq_iff (fun i => packet.getD i 0) (c.memory beyond)
    (Nat.zero_le packet.length) answers
  have hiff' := (handOver_eq_iff (fun i => packet.getD i 0)
    (fun i => (sn.sendbuf ++ sn.readbuf).getD i 0) (Nat.zero_le packet.length) answers).2
  have hagree := hcpp.agree_iff (c_sendPacket_handsOver beyond c packet.length h') hle hc
  have hagree' := hcpp.agree_iff (sn_sendPacket_handsOver sn hroom h'') hle hmemory
  constructor
  · rintro ⟨hbytes, -, hrc, -⟩
    exact hiff.mp (hagree.mp ⟨hbytes, hrc⟩)
  · intro hnot
    obtain ⟨hbytes, hrc⟩ := hagree.mpr (hiff.mpr hnot)
    obtain ⟨hbytes', hrc'⟩ := hagree'.mpr (hiff'.mpr hnot)
    exact ⟨hbytes, hbytes', hrc, hrc'⟩

end Agreement

def pingSender : Client OracleTimer :=
  { Client.construct (.standard .qos0) 30000 .oracle with sendbuf := [192, 0] }

def pingSenderC : MQTTClientC.MQTTClient OracleTimer := ⟨[192, 0], 60, .oracle⟩

def pingSenderSN : MQTTSN.Client OracleTimer :=
  { MQTTSN.Client.construct (.standard .qos0) 30000 .oracle 60 true with
    sendbuf := [192, 0], readbuf := [13, 10] }

theorem pingSender_holding : Holding [192, 0] pingSender pingSenderC pingSenderSN :=
  ⟨by decide, by decide, by decide, by decide⟩

def answering (answers : List WriteAnswer) : World Acceptor OracleTimer Bool :=
  ⟨⟨answers⟩, List.replicate 4 false, [], .oracle, []⟩

def answeringSN (answers : List WriteAnswer) : MQTTSN.World Acceptor Bool :=
  ⟨⟨answers⟩, List.replicate 4 false, [], []⟩

theorem sendPacket_agree_split :
    AgreeOnWire (sendPacket pingSender (answering [.accept 1, .accept 1]).tapped 2 .oracle)
      (MQTTClientC.sendPacket (fun _ => 7) pingSenderC (answering [.accept 1, .accept 1]).tapped 2
        .oracle)
      (MQTTSN.sendPacket pingSenderSN (answeringSN [.accept 1, .accept 1]).tapped 2 .oracle) ↔
        ¬OverTaken 2 0 [.accept 1, .accept 1] :=
  sendPacket_agree_iff pingSender_holding (fun _ => 7) ⟨rfl, by decide, by decide⟩
    ⟨rfl, by decide, by decide⟩ ⟨rfl, by decide, by decide⟩

-- after one byte the C++ sender offers the other, and the two others offer two
theorem sendPacket_disagree :
    Holding [192, 0] pingSender pingSenderC pingSenderSN ∧
      (sendPacket pingSender (answering [.accept 1, .accept 2]).tapped 2 .oracle).rc = SUCCESS ∧
      (MQTTClientC.sendPacket (fun _ => 7) pingSenderC (answering [.accept 1, .accept 2]).tapped 2
        .oracle).rc = FAILURE ∧
      accepted (MQTTClientC.sendPacket (fun _ => 7) pingSenderC
        (answering [.accept 1, .accept 2]).tapped 2 .oracle).world.net.writes = [192, 0, 7] ∧
      ¬AgreeOnWire (sendPacket pingSender (answering [.accept 1, .accept 2]).tapped 2 .oracle)
        (MQTTClientC.sendPacket (fun _ => 7) pingSenderC (answering [.accept 1, .accept 2]).tapped
          2 .oracle)
        (MQTTSN.sendPacket pingSenderSN (answeringSN [.accept 1, .accept 2]).tapped 2 .oracle) :=
  ⟨pingSender_holding, by decide, by decide, by decide,
    fun h => absurd h.c_rc (by decide)⟩

end MbedMqtt
