import MbedMqtt.Gateway.PacketBuffer

namespace MbedMqtt.MQTTSNGW

open MQTTSN

-- what lies behind the datagram in memory is left open
structure EncapsulatedDatagram where
  bytes : Bytes
  mem : Int → UInt8
  laid : LaidOut mem 0 bytes
  size : bytes.length < 65536
  type : (PacketBuffer.getType bytes.length).value mem = PacketBuffer.MQTTSN_ENCAPSULATED

namespace EncapsulatedDatagram

variable (datagram : EncapsulatedDatagram)

def parsed : Fetch UInt8 PacketBuffer.Encapsulation :=
  PacketBuffer.desirializeEncapsulated (UInt16.ofNat datagram.bytes.length)

structure ParsedInside : Prop where
  header : 3 ≤ (datagram.parsed.value datagram.mem).header ∧
    (datagram.parsed.value datagram.mem).header ≤ datagram.bytes.length
  nodeId : (datagram.parsed.value datagram.mem).id =
    (datagram.bytes.drop 3).take ((datagram.parsed.value datagram.mem).header - 3)
  inner : (datagram.parsed.value datagram.mem).mqttsn =
    datagram.bytes.drop (datagram.parsed.value datagram.mem).header
  reads : Fetch.Inside datagram.mem datagram.bytes.length datagram.parsed

def first : Nat := (byteAt datagram.bytes 0).toNat

theorem bytes_ne_nil : datagram.bytes ≠ [] := by
  intro hnil
  have htype := datagram.type
  rw [hnil] at htype
  cases htype

theorem first_mem : (datagram.mem 0).toNat = datagram.first := by
  have hpos : 0 < datagram.bytes.length := List.length_pos_of_ne_nil datagram.bytes_ne_nil
  have hmem := datagram.laid 0 hpos
  rw [Int.natCast_zero, Int.zero_add] at hmem
  rw [hmem, first, byteAt, List.getD_eq_getElem?_getD, List.getElem?_eq_getElem hpos,
    Option.getD_some]

theorem parsed_header : (datagram.parsed.value datagram.mem).header = datagram.first := by
  simp only [parsed, PacketBuffer.desirializeEncapsulated, Fetch.value_bind, Fetch.value_item,
    Fetch.value_pure, first_mem]

theorem idLength (h : 3 ≤ datagram.first) : (datagram.mem 0 - 3).toNat = datagram.first - 3 := by
  have hfirst := datagram.first_mem
  rw [UInt8.toNat_sub_of_le]
  · rw [hfirst]
    rfl
  · rw [UInt8.le_iff_toNat_le, hfirst]
    exact h

theorem innerLength (h : datagram.first ≤ datagram.bytes.length) :
    (UInt16.ofNat datagram.bytes.length - (datagram.mem 0).toUInt16).toNat =
      datagram.bytes.length - datagram.first := by
  have hsize : (UInt16.ofNat datagram.bytes.length).toNat = datagram.bytes.length := by
    rw [UInt16.toNat_ofNat', Nat.mod_eq_of_lt datagram.size]
  have hfirst : (datagram.mem 0).toUInt16.toNat = datagram.first := by
    rw [UInt8.toNat_toUInt16, first_mem]
  rw [UInt16.toNat_sub_of_le, hsize, hfirst]
  rw [UInt16.le_iff_toNat_le, hsize, hfirst]
  exact h

theorem parsedInside_of_first (hlow : 3 ≤ datagram.first)
    (hhigh : datagram.first ≤ datagram.bytes.length) : datagram.ParsedInside where
  header := by
    rw [parsed_header]
    exact ⟨hlow, hhigh⟩
  nodeId := by
    have hid : (Fetch.copy (3 : Nat) (datagram.first - 3)).value datagram.mem =
        (datagram.bytes.drop 3).take (datagram.first - 3) :=
      value_copy_slice datagram.laid (by omega)
    rw [parsed_header, ← hid]
    simp only [parsed, PacketBuffer.desirializeEncapsulated, PacketBuffer.setId, Fetch.value_bind,
      Fetch.value_item, Fetch.value_pure, datagram.idLength hlow]
    rfl
  inner := by
    have hinner : (Fetch.copy datagram.first (datagram.bytes.length - datagram.first)).value
        datagram.mem = datagram.bytes.drop datagram.first := by
      rw [value_copy_slice datagram.laid (by omega), List.take_of_length_le]
      rw [List.length_drop]
    rw [parsed_header, ← hinner]
    simp only [parsed, PacketBuffer.desirializeEncapsulated, PacketBuffer.desirialize,
      Fetch.value_bind, Fetch.value_item, Fetch.value_pure, first_mem, datagram.innerLength hhigh]
  reads := by
    have hid : Fetch.Inside datagram.mem datagram.bytes.length
        (Fetch.copy 3 (datagram.first - 3)) := by
      apply Fetch.inside_copy (by decide)
      omega
    have hinner : Fetch.Inside datagram.mem datagram.bytes.length
        (Fetch.copy datagram.first (datagram.bytes.length - datagram.first)) :=
      Fetch.inside_copy (Int.natCast_nonneg _) (by omega)
    simp only [parsed, PacketBuffer.desirializeEncapsulated, PacketBuffer.setId,
      PacketBuffer.desirialize, Fetch.inside_bind, Fetch.inside_item, Fetch.value_item,
      datagram.idLength hlow, first_mem, datagram.innerLength hhigh]
    exact ⟨by omega, by omega, hid, hinner, Fetch.inside_pure _ _⟩

theorem parsedInside_iff :
    datagram.ParsedInside ↔ 3 ≤ datagram.first ∧ datagram.first ≤ datagram.bytes.length := by
  constructor
  · intro h
    rw [← parsed_header]
    exact h.header
  · rintro ⟨hlow, hhigh⟩
    exact datagram.parsedInside_of_first hlow hhigh

end EncapsulatedDatagram

-- three bytes that announce five
def shortEncapsulation : EncapsulatedDatagram where
  bytes := [5, 0xfe, 0]
  mem := memoryOf 0 [5, 0xfe, 0]
  laid := laidOut_memoryOf 0 _
  size := by decide
  type := by decide

theorem shortEncapsulation_not_inside : ¬shortEncapsulation.ParsedInside := by
  intro h
  have hheader : (shortEncapsulation.parsed.value shortEncapsulation.mem).header = 5 :=
    shortEncapsulation.parsed_header
  have hsize := h.header.2
  rw [hheader] at hsize
  exact absurd hsize (by decide)

end MbedMqtt.MQTTSNGW
