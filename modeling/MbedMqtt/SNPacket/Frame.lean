import MbedMqtt.Packet.Text
import MbedMqtt.SNPacket.Wire

namespace MbedMqtt.MQTTSN

open MQTTSNGW

variable {mem : Int → UInt8}

theorem readInt_laidOut {i : Int} {n : Nat} (h : LaidOut mem i (writeInt n)) :
    (readInt i).value mem = n % 65536 := by
  obtain ⟨hhigh, hrest⟩ := LaidOut.cons.mp h
  obtain ⟨hlow, -⟩ := LaidOut.cons.mp hrest
  simp only [readInt, Fetch.value_bind, Fetch.value_item, Fetch.value_pure, hhigh, hlow,
    UInt8.toNat_ofNat']
  omega

theorem readInt_uint16 {i : Int} {n : UInt16} (h : LaidOut mem i (writeInt n.toNat)) :
    (readInt i).value mem = n.toNat := by
  rw [readInt_laidOut h, Nat.mod_eq_of_lt n.toNat_lt]

theorem writeInt_append_laidOut {i : Int} {n : Nat} {bytes : Bytes} :
    LaidOut mem i (writeInt n ++ bytes) ↔
      LaidOut mem i (writeInt n) ∧ LaidOut mem (i + 2) bytes := LaidOut.append

def lengthSize (length : Nat) : Nat := if 255 < snPacketLen length then 3 else 1

theorem snPacketEncode_length (length : Nat) :
    (snPacketEncode (snPacketLen length)).length = lengthSize length := by
  rw [snPacketEncode, lengthSize]
  split_ifs <;> rfl

theorem wire_total (type : UInt8) {length : Nat} {body : Bytes} (hbody : body.length + 1 = length) :
    (wire type length body).length = lengthSize length + length := by
  rw [wire, List.length_append, snPacketEncode_length, List.length_cons, hbody]

theorem total_eq_snPacketLen (length : Nat) :
    lengthSize length + length = snPacketLen length ↔ length ≠ 255 := by
  simp only [lengthSize, snPacketLen]
  split_ifs <;> omega

theorem lengthSize_le {length : Nat} (h : 0 < length) : lengthSize length < snPacketLen length := by
  simp only [lengthSize, snPacketLen]
  split_ifs <;> omega

theorem withinBuflen_wire (length : Nat) {total : Int} (h : total = lengthSize length + length) :
    withinBuflen ⟨lengthSize length, snPacketLen length⟩ total = true := by
  simp only [withinBuflen, decide_eq_true_eq, h, lengthSize, snPacketLen]
  split_ifs <;> omega

structure Framed (mem : Int → UInt8) (type : UInt8) (body : Bytes) (lenlen field : Int) : Prop where
  positive : 0 < lenlen
  decodes : ∀ buflen value : Int, lenlen ≤ buflen →
    (packetDecode buflen value).value mem = ⟨lenlen, field⟩
  type : mem lenlen = type
  body : LaidOut mem (lenlen + 1) body

theorem lengthFieldSize_pos (mem : Int → UInt8) : 0 < lengthFieldSize mem := by
  rw [lengthFieldSize]
  split_ifs <;> decide

theorem packetDecode_value {buflen value : Int} (hbuflen : lengthFieldSize mem ≤ buflen) :
    (packetDecode buflen value).value mem = ⟨lengthFieldSize mem, lengthField mem⟩ := by
  have hpos := lengthFieldSize_pos mem
  rw [lengthFieldSize] at hbuflen hpos ⊢
  rw [lengthField]
  have hnot : ¬buflen ≤ 0 := by omega
  split_ifs at hbuflen ⊢ with hone
  · simp [packetDecode, hnot, hone, Int.not_lt.mpr hbuflen]
  · simp [packetDecode, hnot, hone]

theorem packetDecode_error {buflen value : Int} (hpos : 0 < buflen) (hbuflen : buflen < 3)
    (h : mem 0 = 1) : (packetDecode buflen value).value mem = ⟨MQTTSNPACKET_READ_ERROR, value⟩ := by
  simp [packetDecode, Int.not_le.mpr hpos, h, hbuflen]

theorem lengthField_wire {type : UInt8} {length : Nat} {body : Bytes} (hlength : 0 < length)
    (hmem : LaidOut mem 0 (wire type length body)) :
    (mem 0 = 1 ↔ 255 < snPacketLen length) ∧
      lengthField mem = (snPacketLen length % 65536 : Nat) := by
  obtain ⟨hfield, -⟩ := LaidOut.append.mp hmem
  rw [snPacketEncode] at hfield
  have hbig := lengthSize_le hlength
  rw [lengthSize] at hbig
  split_ifs at hfield hbig with hlong
  · obtain ⟨hone, hint⟩ := LaidOut.cons.mp hfield
    refine ⟨iff_of_true hone hlong, ?_⟩
    rw [Int.zero_add] at hint
    rw [lengthField, if_pos hone, readInt_laidOut hint]
  · obtain ⟨hone, -⟩ := LaidOut.cons.mp hfield
    have hval : (mem 0).toNat = snPacketLen length := by
      rw [hone, UInt8.toNat_ofNat', Nat.mod_eq_of_lt (by omega)]
    have hne : mem 0 ≠ 1 := by
      intro h
      rw [h] at hval
      rw [← hval] at hbig
      simp at hbig
    refine ⟨iff_of_false hne hlong, ?_⟩
    rw [lengthField, if_neg hne, hval, Nat.mod_eq_of_lt (by omega)]

theorem framed_wire {type : UInt8} {length : Nat} {body : Bytes} (hlength : 0 < length)
    (hmax : snPacketLen length ≤ 65535) (hmem : LaidOut mem 0 (wire type length body)) :
    Framed mem type body (lengthSize length) (snPacketLen length) := by
  obtain ⟨-, hrest⟩ := LaidOut.append.mp hmem
  rw [snPacketEncode_length, Int.zero_add] at hrest
  obtain ⟨htype, hbody⟩ := LaidOut.cons.mp hrest
  obtain ⟨hone, hvalue⟩ := lengthField_wire hlength hmem
  rw [Nat.mod_eq_of_lt (by omega)] at hvalue
  have hsize : (lengthSize length : Int) = lengthFieldSize mem := by
    rw [lengthSize, lengthFieldSize]
    split_ifs <;> simp_all
  refine ⟨?_, fun buflen value hbuflen => ?_, htype, hbody⟩
  · rw [hsize]
    exact lengthFieldSize_pos mem
  · rw [packetDecode_value (by omega), hsize, hvalue]

def Returns {α β : Type} (mem : Int → UInt8) (see : α → β) (b : β) (p : Fetch UInt8 (Parsed α)) :
    Prop :=
  (p.value mem).rc = 1 ∧ (p.value mem).fields.map see = some b

namespace Framed

variable {type : UInt8} {body : Bytes} {lenlen field buflen uninitialised : Int} {α β : Type}
variable {admits : PacketLength → Int → Bool} {rejected : PacketLength → Int}
variable {expected : UInt8 → Bool} {fields : UInt8 → Int → Int → Fetch UInt8 (Option α)}
variable {f : α} {see : α → β} {b : β}

theorem deserialize (h : Framed mem type body lenlen field) (hbuflen : lenlen ≤ buflen)
    (hadmits : admits ⟨lenlen, field⟩ buflen = true) (hexpected : expected type = true)
    (hfields : (fields type (lenlen + 1) field).value mem = some f) :
    (deserialize admits rejected expected fields uninitialised buflen).value mem = ⟨1, some f⟩ := by
  simp [MQTTSN.deserialize, h.decodes buflen uninitialised hbuflen, hadmits, h.type, hexpected,
    hfields]

theorem returns_iff (h : Framed mem type body lenlen field) (hbuflen : lenlen ≤ buflen)
    (hadmits : admits ⟨lenlen, field⟩ buflen = true) (hexpected : expected type = true)
    (hfields : (fields type (lenlen + 1) field).value mem = some f) :
    Returns mem see b (MQTTSN.deserialize admits rejected expected fields uninitialised buflen) ↔
      see f = b := by
  rw [Returns, h.deserialize hbuflen hadmits hexpected hfields]
  simp

theorem returns (h : Framed mem type body lenlen field) (hbuflen : lenlen ≤ buflen)
    (hadmits : admits ⟨lenlen, field⟩ buflen = true) (hexpected : expected type = true)
    (hfields : ((fields type (lenlen + 1) field).value mem).map see = some b) :
    Returns mem see b (MQTTSN.deserialize admits rejected expected fields uninitialised buflen) := by
  obtain ⟨f, hf, hsee⟩ := Option.map_eq_some_iff.mp hfields
  exact (h.returns_iff hbuflen hadmits hexpected hf).mpr hsee

end Framed

def RoundTrips (serialized : Serialized) (reads : (Int → UInt8) → Int → Prop) : Prop :=
  0 < serialized.rc → ∀ mem, LaidOut mem 0 serialized.written → reads mem serialized.rc

theorem roundTrips_serialize_iff {buflen length : Nat} {type : UInt8} {body : Bytes}
    {reads : (Int → UInt8) → Int → Prop} {condition : Prop}
    (h : snPacketLen length ≤ buflen → ∀ mem, LaidOut mem 0 (wire type length body) →
      (reads mem (wire type length body).length ↔ condition)) :
    RoundTrips (serialize buflen type length body) reads ↔
      buflen < snPacketLen length ∨ condition := by
  rw [RoundTrips, serialize]
  split_ifs with hshort
  · exact ⟨fun _ => .inl hshort, fun _ hpos => absurd hpos (by decide)⟩
  have hfit := Nat.not_lt.mp hshort
  constructor
  · intro htrip
    have hmem := laidOut_memoryOf 0 (wire type length body)
    exact .inr ((h hfit _ hmem).mp (htrip (by simp [wire]; omega) _ hmem))
  · rintro (habsurd | hcondition) _ mem hmem
    · exact absurd habsurd hshort
    · exact (h hfit mem hmem).mpr hcondition

end MbedMqtt.MQTTSN
