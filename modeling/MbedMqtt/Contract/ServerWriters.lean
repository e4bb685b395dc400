import MbedMqtt.Contract.Extent
import MbedMqtt.Packet.ServerWriter

namespace MbedMqtt

def Within (buflen : Int) (r : Int × List (Nat × UInt8)) : Prop :=
  r = Writer.tooShort ∨ ∀ write ∈ r.2, (write.1 : Int) < buflen

instance (buflen : Int) (r : Int × List (Nat × UInt8)) : Decidable (Within buflen r) :=
  inferInstanceAs (Decidable (_ ∨ _))

theorem indexed_within {packet : Bytes} (h : packet ≠ []) (buflen : Int) :
    (∀ write ∈ indexed packet, (write.1 : Int) < buflen) ↔ packet.length ≤ buflen := by
  have hpos := List.length_pos_of_ne_nil h
  constructor
  · intro hall
    have hlast : (packet.length - 1, byteAt packet (packet.length - 1)) ∈ indexed packet :=
      List.mem_map_of_mem (List.mem_range.mpr (by omega))
    have hbound := hall _ hlast
    simp only at hbound
    omega
  · intro hle write hwrite
    obtain ⟨i, hi, rfl⟩ := List.mem_map.mp hwrite
    have hlt := List.mem_range.mp hi
    simp only
    omega

-- the check compares with `checked`, whatever the packet needs
theorem within_if {buflen checked : Int} {packet : Bytes} {r : Int × List (Nat × UInt8)}
    (hr : r = ((packet.length : Int), indexed packet)) (h : packet ≠ []) :
    Within buflen (if buflen < checked then Writer.tooShort else r) ↔
      buflen < checked ∨ packet.length ≤ buflen := by
  by_cases hshort : buflen < checked
  · rw [if_pos hshort]
    exact iff_of_true (.inl rfl) (.inl hshort)
  · have hwritten : r ≠ Writer.tooShort := by
      intro hshort
      have hrc : (packet.length : Int) = MQTTPACKET_BUFFER_TOO_SHORT :=
        congrArg Prod.fst (hr.symm.trans hshort)
      rw [MQTTPACKET_BUFFER_TOO_SHORT] at hrc
      omega
    rw [if_neg hshort, Within, or_iff_right hwritten, or_iff_right hshort, hr,
      indexed_within h]

theorem serializeConnack_within (buflen : Int) (connackRc sessionPresent : UInt8) :
    Within buflen (Writer.serializeConnack buflen connackRc sessionPresent) ↔
      buflen < 2 ∨ 4 ≤ buflen :=
  within_if ((((Wrote.start.writeChar (headerByte CONNACK 0 0 0)).packetEncode 2).writeChar
    (sessionPresent % 2)).writeChar connackRc).result (by simp)

theorem serializeUnsuback_within (buflen : Int) (packetid : Nat) :
    Within buflen (Writer.serializeUnsuback buflen packetid) ↔ buflen < 2 ∨ 4 ≤ buflen :=
  within_if (((Wrote.start.writeChar (headerByte UNSUBACK 0 0 0)).packetEncode 2).writeInt
    packetid).result (by simp)

def subackPacket (packetid : Nat) (count : Int) (grantedQoSs : List Int) : Bytes :=
  headerByte SUBACK 0 0 0 :: encodeInt (2 + count) ++ writeInt packetid ++
    (List.range count.toNat).flatMap fun i => [writeChar (grantedQoSs.getD i 0)]

def subackSize (count : Int) : Int :=
  3 + (packetEncode (2 + count).toNat).length + count.toNat

theorem subackPacket_length (packetid : Nat) (count : Int) (grantedQoSs : List Int) :
    ((subackPacket packetid count grantedQoSs).length : Int) = subackSize count := by
  have hcodes : ((List.range count.toNat).flatMap
      fun i => [writeChar (grantedQoSs.getD i 0)]).length = count.toNat := by
    simp [List.length_flatMap]
  rw [subackPacket, List.length_append, hcodes, List.length_append, List.length_cons,
    encodeInt_length, subackSize, writeInt]
  simp only [List.length_cons, List.length_nil]
  omega

theorem serializeSuback_writes (buflen : Int) (packetid : Nat) (count : Int)
    (grantedQoSs : List Int) :
    Writer.serializeSuback buflen packetid count grantedQoSs =
      if buflen < 2 + count then Writer.tooShort
      else (((subackPacket packetid count grantedQoSs).length : Int),
        indexed (subackPacket packetid count grantedQoSs)) := by
  have hid := ((Wrote.start.writeChar (headerByte SUBACK 0 0 0)).packetEncodeInt
    (2 + count)).writeInt packetid
  have hstep : ∀ i ∈ List.range count.toNat, ∀ {w bs}, Wrote w bs →
      Wrote (w.writeChar (writeChar (grantedQoSs.getD i 0)))
        (bs ++ [writeChar (grantedQoSs.getD i 0)]) := fun _ _ _ _ h => h.writeChar _
  have hcodes := hid.foldl (fun w i => w.writeChar (writeChar (grantedQoSs.getD i 0)))
    (fun i => [writeChar (grantedQoSs.getD i 0)]) hstep
  rw [Writer.serializeSuback]
  exact congrArg _ hcodes.result

theorem serializeSuback_within (buflen : Int) (packetid : Nat) (count : Int)
    (grantedQoSs : List Int) :
    Within buflen (Writer.serializeSuback buflen packetid count grantedQoSs) ↔
      buflen < 2 + count ∨ subackSize count ≤ buflen := by
  rw [serializeSuback_writes, within_if rfl (by simp [subackPacket]), subackPacket_length]

-- the bytes of a call whose array holds `count` codes
theorem writer_serializeSuback (buflen : Int) (packetid : Nat) (grantedQoSs : List Int) :
    Writer.serializeSuback buflen packetid grantedQoSs.length grantedQoSs =
      written (serializeSuback buflen.toNat packetid grantedQoSs) := by
  have hcodes : ((List.range grantedQoSs.length).flatMap
      fun i => [writeChar (grantedQoSs.getD i 0)]) = grantedQoSs.map writeChar := by
    rw [← List.map_eq_flatMap]
    refine List.ext_getElem (by simp) fun i _ hi => ?_
    rw [List.length_map] at hi
    simp [List.getElem?_eq_getElem hi]
  have hlength : encodeInt (2 + (grantedQoSs.length : Int)) =
      packetEncode (2 + grantedQoSs.length) := by
    rw [encodeInt, if_neg (by omega)]
    congr 1
  have hpacket : subackPacket packetid grantedQoSs.length grantedQoSs =
      headerByte SUBACK 0 0 0 :: packetEncode (2 + grantedQoSs.length) ++ writeInt packetid ++
        grantedQoSs.map writeChar := by
    rw [subackPacket, hlength, Int.toNat_natCast, hcodes]
  rw [serializeSuback_writes, hpacket]
  exact written_if (2 + grantedQoSs.length) (by omega) rfl

theorem acknowledgements_within_iff (buflen : Int) (connackRc sessionPresent : UInt8)
    (packetid : Nat) (count : Int) (grantedQoSs : List Int) :
    (Within buflen (Writer.serializeConnack buflen connackRc sessionPresent) ↔
      buflen < 2 ∨ 4 ≤ buflen) ∧
    (Within buflen (Writer.serializeSuback buflen packetid count grantedQoSs) ↔
      buflen < 2 + count ∨ subackSize count ≤ buflen) ∧
    (Within buflen (Writer.serializeUnsuback buflen packetid) ↔ buflen < 2 ∨ 4 ≤ buflen) :=
  ⟨serializeConnack_within buflen connackRc sessionPresent,
    serializeSuback_within buflen packetid count grantedQoSs,
    serializeUnsuback_within buflen packetid⟩

theorem acknowledgements_overrun :
    (Writer.serializeConnack 2 0 1).2 = [(0, 32), (1, 2), (2, 1), (3, 0)] ∧
      ¬Within 2 (Writer.serializeConnack 2 0 1) ∧
      ¬Within 3 (Writer.serializeSuback 3 7 1 [0]) ∧
      ¬Within 3 (Writer.serializeUnsuback 3 7) := by
  decide

end MbedMqtt
