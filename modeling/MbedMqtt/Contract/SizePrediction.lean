import MbedMqtt.Contract.LengthAgreement
import MbedMqtt.Contract.ServerWriters

namespace MbedMqtt

-- the remaining lengths for which `MQTTPacket_len` counts a length byte too many
def misplaced : List Int := [127, 16383, 2097150, 2097151]

def excess (remLen : Int) : Int := if remLen ∈ misplaced then 1 else 0

theorem packetEncode_length {n : Nat} (h : n ≤ 268435455) :
    (packetEncode n).length =
      if n < 128 then 1 else if n < 16384 then 2 else if n < 2097152 then 3 else 4 := by
  have hle (digits : Nat) (hdigits : 0 < digits) (hn : n < 128 ^ digits) :
      (packetEncode n).length ≤ digits := Base128.encode_length_le hdigits hn
  have hlt (digits : Nat) (hn : 128 ^ digits ≤ n) : digits < (packetEncode n).length :=
    Base128.lt_encode_length hn
  split_ifs with h1 h2 h3
  · have hfirst := hle 1 (by decide) h1
    rcases Nat.eq_zero_or_pos n with rfl | hpos
    · rfl
    · exact Nat.le_antisymm hfirst (hlt 0 hpos)
  · exact Nat.le_antisymm (hle 2 (by decide) h2) (hlt 1 (Nat.not_lt.mp h1))
  · exact Nat.le_antisymm (hle 3 (by decide) h3) (hlt 2 (Nat.not_lt.mp h2))
  · exact Nat.le_antisymm (hle 4 (by decide) (by omega)) (hlt 3 (Nat.not_lt.mp h3))

theorem packetLen_excess {n : Nat} (h : n ≤ 268435455) :
    (packetLen n : Int) = 1 + (packetEncode n).length + n + excess n := by
  rw [packetEncode_length h]
  simp only [packetLen, excess, misplaced, List.mem_cons, List.not_mem_nil, or_false]
  split_ifs <;> omega

theorem packetLen_eq_iff {n : Nat} (h : n ≤ 268435455) :
    packetLen n = 1 + (packetEncode n).length + n ↔ (n : Int) ∉ misplaced := by
  have hlen := packetLen_excess h
  rw [excess] at hlen
  split_ifs at hlen with hbad
  · refine iff_of_false ?_ (not_not.mpr hbad)
    omega
  · refine iff_of_true ?_ hbad
    omega

namespace Signed

theorem packetLen_excess {remLen : Int} (h : remLen ≤ 268435455) :
    packetLen remLen = 1 + (encodeInt remLen).length + remLen + excess remLen := by
  rcases Int.lt_or_le remLen 0 with hneg | hpos
  · have hfield : (encodeInt remLen).length = 1 := by
      rw [encodeInt, if_pos hneg]
      rfl
    have hbad : remLen ∉ misplaced := by
      simp only [misplaced, List.mem_cons, List.not_mem_nil, or_false]
      omega
    rw [hfield, excess, if_neg hbad, packetLen]
    split_ifs <;> omega
  · obtain ⟨n, rfl⟩ := Int.eq_ofNat_of_zero_le hpos
    have hn := MbedMqtt.packetLen_excess (n := n) (by omega)
    rw [packetLen_cast, encodeInt_length, Int.toNat_natCast]
    exact hn

def Call.size (call : Call) : Int :=
  1 + (encodeInt call.remLen).length + call.remLen - call.surplus

theorem Writes.size {buflen remLen surplus : Int} {r : Int × List (Nat × UInt8)} {header : UInt8}
    {body : Bytes} (h : Writes buflen remLen surplus r header body) :
    r = Writer.tooShort ∨ r.1 = 1 + (encodeInt remLen).length + remLen - surplus := by
  have hlength := h.length
  rw [h.result]
  split_ifs
  · exact .inl rfl
  · refine .inr ?_
    simp only [List.length_append, List.length_cons]
    omega

end Signed

def Judges (buflen size : Int) (r : Int × List (Nat × UInt8)) : Prop :=
  r = Writer.tooShort ↔ buflen < size

-- `buflen` is at least one of two sizes and below the other
def Between (buflen size checked : Int) : Prop := min size checked ≤ buflen ∧ buflen < max size checked

instance (buflen size checked : Int) : Decidable (Between buflen size checked) :=
  inferInstanceAs (Decidable (_ ∧ _))

theorem judges_iff {buflen size checked : Int} {r : Int × List (Nat × UInt8)}
    (h : r = Writer.tooShort ↔ buflen < checked) :
    Judges buflen size r ↔ ¬Between buflen size checked := by
  rw [Judges, h, Between]
  omega

theorem judges_checked {buflen size checked : Int} {packet : Bytes} {r : Int × List (Nat × UInt8)}
    (hr : r = ((packet.length : Int), indexed packet)) :
    Judges buflen size (if buflen < checked then Writer.tooShort else r) ↔
      ¬Between buflen size checked := by
  refine judges_iff ?_
  split_ifs with hshort
  · exact iff_of_true rfl hshort
  · refine iff_of_false ?_ hshort
    intro hresult
    have hrc := congrArg Prod.fst (hr.symm.trans hresult)
    simp only [Writer.tooShort, MQTTPACKET_BUFFER_TOO_SHORT] at hrc
    omega

section Fixed

variable (buflen : Int) (packettype dup packetid : Nat)

theorem serializeAck_judges : Judges buflen 4 (Writer.serializeAck buflen packettype dup packetid) :=
  (judges_checked (((Wrote.start.writeChar
    (headerByte packettype dup (if packettype = PUBREL then 1 else 0) 0)).packetEncode 2).writeInt
      packetid).result).mpr (by rw [Between]; omega)

theorem serializeZero_judges : Judges buflen 2 (Writer.serializeZero buflen packettype) :=
  (judges_checked ((Wrote.start.writeChar (headerByte packettype 0 0 0)).packetEncode 0).result).mpr
    (by rw [Between]; omega)

theorem serializeConnack_judges (connackRc sessionPresent : UInt8) :
    Judges buflen 4 (Writer.serializeConnack buflen connackRc sessionPresent) ↔
      ¬Between buflen 4 2 :=
  judges_checked ((((Wrote.start.writeChar (headerByte CONNACK 0 0 0)).packetEncode 2).writeChar
    (sessionPresent % 2)).writeChar connackRc).result

theorem serializeUnsuback_judges :
    Judges buflen 4 (Writer.serializeUnsuback buflen packetid) ↔ ¬Between buflen 4 2 :=
  judges_checked (((Wrote.start.writeChar (headerByte UNSUBACK 0 0 0)).packetEncode 2).writeInt
    packetid).result

theorem serializeSuback_judges (count : Int) (grantedQoSs : List Int) :
    Judges buflen (subackSize count) (Writer.serializeSuback buflen packetid count grantedQoSs) ↔
      ¬Between buflen (subackSize count) (2 + count) := by
  rw [serializeSuback_writes]
  exact judges_checked rfl

end Fixed

theorem Signed.Call.judges_iff (buflen : Int) {call : Signed.Call} (h : call.remLen ≤ 268435455) :
    Judges buflen call.size (call.run buflen) ↔
      ¬Between buflen call.size (call.size + call.surplus + excess call.remLen) := by
  obtain ⟨header, body, hwrites⟩ := call.writes buflen
  refine MbedMqtt.judges_iff ?_
  have hchecked : packetLen call.remLen = call.size + call.surplus + excess call.remLen := by
    rw [Signed.packetLen_excess h, size]
    omega
  rw [hwrites.tooShort_iff, hchecked]

theorem size_prediction_iff (buflen : Int) :
    (∀ n ≤ 268435455, packetLen n = 1 + (packetEncode n).length + n ↔ (n : Int) ∉ misplaced) ∧
    (∀ call : Signed.Call, call.remLen ≤ 268435455 →
      (call.run buflen = Writer.tooShort ∨ (call.run buflen).1 = call.size) ∧
      (Judges buflen call.size (call.run buflen) ↔
        ¬Between buflen call.size (call.size + call.surplus + excess call.remLen))) ∧
    (∀ packettype dup packetid : Nat,
      Judges buflen 4 (Writer.serializeAck buflen packettype dup packetid) ∧
      Judges buflen 2 (Writer.serializeZero buflen packettype) ∧
      (Judges buflen 4 (Writer.serializeUnsuback buflen packetid) ↔ ¬Between buflen 4 2)) ∧
    (∀ connackRc sessionPresent : UInt8,
      Judges buflen 4 (Writer.serializeConnack buflen connackRc sessionPresent) ↔
        ¬Between buflen 4 2) ∧
    (∀ (packetid : Nat) (count : Int) (grantedQoSs : List Int),
      Judges buflen (subackSize count) (Writer.serializeSuback buflen packetid count grantedQoSs) ↔
        ¬Between buflen (subackSize count) (2 + count)) := by
  refine ⟨fun n hn => packetLen_eq_iff hn, ?_, ?_, serializeConnack_judges buflen,
    serializeSuback_judges buflen⟩
  · intro call hlen
    obtain ⟨header, body, hwrites⟩ := call.writes buflen
    exact ⟨hwrites.size, call.judges_iff buflen hlen⟩
  · intro packettype dup packetid
    exact ⟨serializeAck_judges buflen packettype dup packetid,
      serializeZero_judges buflen packettype, serializeUnsuback_judges buflen packetid⟩

def fullPublish : Signed.Call :=
  .publish 0 0 0 0 ⟨some [0x74], 0, none⟩ (List.replicate 124 0)

-- a packet of 129 bytes is refused for a buffer of 129 bytes
theorem size_misjudged :
    packetLen 127 = 130 ∧ 1 + (packetEncode 127).length + 127 = 129 ∧
      fullPublish.size = 129 ∧ ¬Judges 129 fullPublish.size (fullPublish.run 129) := by
  have hlen : fullPublish.remLen = 127 := by
    simp [fullPublish, Signed.Call.remLen, Signed.publishLength, Signed.mqttstrlen]
  have hsize : fullPublish.size = 129 := by
    rw [Signed.Call.size, hlen]
    decide
  refine ⟨rfl, by decide, hsize, ?_⟩
  rw [fullPublish.judges_iff 129 (by rw [hlen]; decide), hlen, hsize, not_not]
  decide

end MbedMqtt
