import MbedMqtt.Client.Transport
import MbedMqtt.Packet.Reader
import MbedMqtt.Packet.Writer

namespace MbedMqtt

-- a source that hands over the bytes one at a time, `gaps` times asking to be called again
inductive Trickles {γ : Type} (getfn : γ → Nat → Option Bytes × γ) : Nat → Bytes → γ → γ → Prop
  | nil (g : γ) : Trickles getfn 0 [] g g
  | again {gaps : Nat} {bs : Bytes} {g g' g'' : γ} :
      getfn g 1 = (some [], g') → Trickles getfn gaps bs g' g'' →
      Trickles getfn (gaps + 1) bs g g''
  | byte {gaps : Nat} {b : UInt8} {bs : Bytes} {g g' g'' : γ} :
      getfn g 1 = (some [b], g') → Trickles getfn gaps bs g' g'' →
      Trickles getfn gaps (b :: bs) g g''

section Nonblocking

variable {γ : Type} (getfn : γ → Nat → Option Bytes × γ)

def decodenbUntil : Nat → MQTTTransport γ → Option (Int × MQTTTransport γ)
  | 0, _ => none
  | calls + 1, trp =>
      let r := packetDecodenb getfn trp
      if r.1 = 0 then decodenbUntil calls r.2 else some r

def resume (calls : Nat) (r : Int × MQTTTransport γ) : Option (Int × MQTTTransport γ) :=
  if r.1 = 0 then decodenbUntil getfn calls r.2 else some r

variable {getfn}

theorem decodenbUntil_succ (calls : Nat) (trp : MQTTTransport γ) :
    decodenbUntil getfn (calls + 1) trp = resume getfn calls (packetDecodenb getfn trp) := rfl

structure Decoded (n : Nat) (len : Nat) (trp : MQTTTransport γ) (r : Int × MQTTTransport γ) :
    Prop where
  rc : r.1 = trp.len + len
  len : r.2.len = trp.len + len
  value : r.2.remLen = trp.remLen + n * trp.multiplier

theorem field_cons {field : Bytes} {tries : Nat} (ht : Base128.Terminated field)
    (htries : field.length ≤ tries) : ∃ k, tries = k + 1 := by
  cases field with
  | nil => exact ht.elim
  | cons b field => exact ⟨tries - 1, by simp at htries; omega⟩

section Loop

variable {trp : MQTTTransport γ} {tries : Nat} {b : UInt8} {sck : γ}

theorem added_room (h : trp.len + (tries + 1) = maxNoOfRemainingLengthBytes) :
    (trp.added b sck).len + tries = maxNoOfRemainingLengthBytes := by
  rw [← h, Nat.add_comm tries, ← Nat.add_assoc]
  rfl

theorem decoded_last : Decoded (Base128.value [b]) 1 trp ((trp.added b sck).len, trp.added b sck) := by
  refine ⟨rfl, rfl, ?_⟩
  simp [MQTTTransport.added, Base128.value]

theorem Decoded.cons {field : Bytes} {r : Int × MQTTTransport γ}
    (h : Decoded (Base128.value field) field.length (trp.added b sck) r) :
    Decoded (Base128.value (b :: field)) (b :: field).length trp r := by
  constructor
  · rw [h.rc, List.length_cons]
    simp only [MQTTTransport.added]
    omega
  · rw [h.len, List.length_cons]
    simp only [MQTTTransport.added]
    omega
  · rw [h.value, Base128.value, MQTTTransport.added]
    ring

end Loop

theorem decodenb_trickles {gaps : Nat} {bs : Bytes} {sck stop : γ}
    (h : Trickles getfn gaps bs sck stop) {field s : Bytes} (hbs : bs = field ++ s)
    (ht : Base128.Terminated field) {tries : Nat} (htries : field.length ≤ tries)
    {trp : MQTTTransport γ} (hlen : trp.len + tries = maxNoOfRemainingLengthBytes)
    (hprimed : trp.primed = trp) (hsck : trp.sck = sck) :
    ∃ r, resume getfn gaps (decodenbLoop getfn tries trp) = some r ∧
      Decoded (Base128.value field) field.length trp r ∧
      ∃ rest, Trickles getfn rest s r.2.sck stop := by
  induction h generalizing field tries trp with
  | nil g =>
    obtain ⟨rfl, -⟩ := List.append_eq_nil_iff.mp hbs.symm
    exact ht.elim
  | @again gaps bs g g' g'' hget hrest ih =>
    obtain ⟨tries, rfl⟩ := field_cons ht htries
    rw [← hsck] at hget
    let after : MQTTTransport γ := { trp with sck := g' }
    have hlen' : after.len + (tries + 1) = maxNoOfRemainingLengthBytes := hlen
    have hprimed' : after.primed = after := primed_step hprimed
    have hcall : packetDecodenb getfn after = decodenbLoop getfn (tries + 1) after := by
      rw [packetDecodenb, hprimed', ← hlen', Nat.add_sub_cancel_left]
    rw [decodenbLoop_again hget, resume, if_pos rfl, decodenbUntil_succ, hcall]
    obtain ⟨r, hr, hdecoded, hleft⟩ := ih hbs ht htries hlen' hprimed' rfl
    exact ⟨r, hr, ⟨hdecoded.rc, hdecoded.len, hdecoded.value⟩, hleft⟩
  | @byte gaps b bs g g' g'' hget hrest ih =>
    obtain ⟨tries, rfl⟩ := field_cons ht htries
    rw [← hsck] at hget
    rw [decodenbLoop_byte hget]
    cases field with
    | nil => exact ht.elim
    | cons c field =>
      obtain ⟨rfl, rfl⟩ := List.cons.inj hbs
      rcases Base128.terminated_cons ht with ⟨hb, rfl⟩ | ⟨hb, hfield⟩
      · have hdone : ((trp.added b g').len : Int) ≠ 0 := Int.natCast_ne_zero.mpr (Nat.succ_ne_zero _)
        rw [if_neg (Nat.not_le.mpr hb), resume, if_neg hdone]
        exact ⟨_, rfl, decoded_last, gaps, hrest⟩
      · rw [if_pos hb]
        obtain ⟨r, hr, hdecoded, hleft⟩ := ih rfl hfield (Nat.le_of_succ_le_succ htries)
          (added_room hlen) (trp.added_primed b g') rfl
        exact ⟨r, hr, hdecoded.cons, hleft⟩

end Nonblocking

structure RemainingLengthCodec (n : Nat) : Prop where
  written : (Writer.start.packetEncode n).result =
    (((packetEncode n).length : Int), indexed (packetEncode n))
  size : 1 ≤ (packetEncode n).length ∧ (packetEncode n).length ≤ 4
  fewest : ∀ bs, Base128.Terminated bs → Base128.value bs = n →
    (packetEncode n).length ≤ bs.length
  continuation : ∃ front last, packetEncode n = front ++ [last] ∧
    (∀ b ∈ front, 128 ≤ b.toNat) ∧ last.toNat < 128
  decode : ∀ {γ : Type} {getchar : γ → Option UInt8 × γ} {s : Bytes} {g stop : γ},
    Base128.Feeds getchar (packetEncode n ++ s) g stop →
    ∃ g', packetDecode getchar g = (((packetEncode n).length, n), g') ∧
      Base128.Feeds getchar s g' stop
  decodenb : ∀ {γ : Type} {getfn : γ → Nat → Option Bytes × γ} {gaps : Nat} {s : Bytes}
    {trp : MQTTTransport γ} {stop : γ}, trp.len = 0 →
    Trickles getfn gaps (packetEncode n ++ s) trp.sck stop →
    ∃ trp', decodenbUntil getfn (gaps + 1) trp = some (((packetEncode n).length : Int), trp') ∧
      trp'.remLen = n ∧ trp'.len = (packetEncode n).length ∧
      ∃ rest, Trickles getfn rest s trp'.sck stop
  decodePacket : ∀ {σ : Type} [Network σ] {s : Bytes} {net stop : σ},
    Base128.Feeds netchar (packetEncode n ++ s) net stop →
    ∃ net', MbedMqtt.decodePacket net = (((packetEncode n).length, n), net') ∧
      Base128.Feeds netchar s net' stop

theorem decode_remainingLength {n : Nat} (hn : n < 268435456) {γ : Type}
    {getchar : γ → Option UInt8 × γ} {s : Bytes} {g stop : γ}
    (h : Base128.Feeds getchar (packetEncode n ++ s) g stop) :
    ∃ g', packetDecode getchar g = (((packetEncode n).length, n), g') ∧
      Base128.Feeds getchar s g' stop := by
  obtain ⟨g', hencoded, hrest⟩ := Base128.feeds_append.mp h
  exact ⟨g', packetDecode_encode hn hencoded, hrest⟩

theorem decodenb_remainingLength {n : Nat} (hlength : (packetEncode n).length ≤ 4) {γ : Type}
    {getfn : γ → Nat → Option Bytes × γ} {gaps : Nat} {s : Bytes} {trp : MQTTTransport γ} {stop : γ}
    (hfresh : trp.len = 0) (h : Trickles getfn gaps (packetEncode n ++ s) trp.sck stop) :
    ∃ trp', decodenbUntil getfn (gaps + 1) trp = some (((packetEncode n).length : Int), trp') ∧
      trp'.remLen = n ∧ trp'.len = (packetEncode n).length ∧
      ∃ rest, Trickles getfn rest s trp'.sck stop := by
  let first : MQTTTransport γ := { trp with multiplier := 1, remLen := 0 }
  have hfirst : trp.primed = first := if_pos hfresh
  have hcall : packetDecodenb getfn trp = decodenbLoop getfn 4 first := by
    rw [packetDecodenb, hfirst, hfresh]
    rfl
  have hlen : first.len + 4 = maxNoOfRemainingLengthBytes := by
    rw [show first.len = 0 from hfresh]
    rfl
  obtain ⟨⟨rc, trp'⟩, hr, hdecoded, hleft⟩ := decodenb_trickles h rfl
    (Base128.encode_terminated n) hlength hlen (if_pos hfresh) rfl
  have hrc : rc = (packetEncode n).length := by
    have hrc := hdecoded.rc
    rwa [show first.len = 0 from hfresh, Int.natCast_zero, Int.zero_add] at hrc
  have hlen' : trp'.len = (packetEncode n).length := by
    have hlen := hdecoded.len
    rwa [show first.len = 0 from hfresh, Nat.zero_add] at hlen
  have hvalue : trp'.remLen = n := by
    have hvalue := hdecoded.value
    rwa [packetEncode, Base128.value_encode, Nat.zero_add, Nat.mul_one] at hvalue
  rw [decodenbUntil_succ, hcall, hr, hrc]
  exact ⟨trp', rfl, hvalue, hlen', hleft⟩

theorem remainingLength_codec {n : Nat} (hn : n ≤ 268435455) : RemainingLengthCodec n where
  written := (Wrote.start.packetEncode n).result
  size := by
    have hle : (packetEncode n).length ≤ 4 :=
      Base128.encode_length_le (by decide) (Nat.lt_of_le_of_lt hn (by decide))
    refine ⟨?_, hle⟩
    cases hbytes : packetEncode n with
    | nil => exact (hbytes ▸ Base128.encode_terminated n : Base128.Terminated []).elim
    | cons b bs => exact Nat.succ_pos _
  fewest := by
    rintro bs hbs rfl
    exact Base128.encode_shortest hbs
  continuation := Base128.terminated_iff.mp (Base128.encode_terminated n)
  decode := decode_remainingLength (Nat.lt_of_le_of_lt hn (by decide))
  decodenb := decodenb_remainingLength
    (Base128.encode_length_le (by decide) (Nat.lt_of_le_of_lt hn (by decide)))
  decodePacket := decode_remainingLength (Nat.lt_of_le_of_lt hn (by decide))

theorem remainingLength_codec_321 : RemainingLengthCodec 321 :=
  remainingLength_codec (by decide)

end MbedMqtt
