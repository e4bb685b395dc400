import MbedMqtt.Network.Script
import MbedMqtt.SNClient.Transport

namespace MbedMqtt.MQTTSN

open MQTTSNGW

-- the length field at the head of a datagram, where the datagram holds all of it
def lengthFieldOf : Bytes → Option PacketLength
  | [] => none
  | first :: rest =>
      if first = 1 then
        match rest with
        | high :: low :: _ => some ⟨3, (256 * high.toNat + low.toNat : Nat)⟩
        | _ => none
      else some ⟨1, first.toNat⟩

structure TypeInside (datagram : Bytes) (rc : Int) (field : PacketLength) : Prop where
  held : lengthFieldOf datagram = some field
  value : field.value = datagram.length
  index : field.lenlen < datagram.length
  type : ∃ byte : UInt8, datagram[field.lenlen.toNat]? = some byte ∧ rc = byte.toNat

def TakesType (datagram : Bytes) (rc : Int) : Prop :=
  rc ≠ MQTTSNPACKET_READ_ERROR → ∃ field, TypeInside datagram rc field

-- what the three readers return once they have decoded the length field of `len` bytes
def typeOrError (mem : Int → UInt8) (len : Int) : Int :=
  let length := (packetDecode len 0).value mem
  if length.value ≠ len then MQTTSNPACKET_READ_ERROR else (mem length.lenlen).toNat

variable {mem : Int → UInt8} {datagram : Bytes}

theorem lengthFieldOf_short {first : UInt8} (rest : Bytes) (h : first ≠ 1) :
    lengthFieldOf (first :: rest) = some ⟨1, first.toNat⟩ := by
  simp only [lengthFieldOf, if_neg h]

theorem packetDecode_lengthFieldOf (h : LaidOut mem 0 datagram) :
    (packetDecode datagram.length 0).value mem =
      (lengthFieldOf datagram).getD ⟨MQTTSNPACKET_READ_ERROR, 0⟩ := by
  match datagram with
  | [] => rfl
  | first :: rest =>
    obtain ⟨hfirst, hrest⟩ := LaidOut.cons.mp h
    rw [Int.zero_add] at hrest
    rcases eq_or_ne first 1 with hone | hone
    · have hsize : lengthFieldSize mem = 3 := if_pos (hfirst.trans hone)
      subst hone
      match rest with
      | [] | [_] => exact packetDecode_error (by simp) (by simp) hfirst
      | high :: low :: rest =>
        obtain ⟨hhigh, hrest⟩ := LaidOut.cons.mp hrest
        obtain ⟨hlow, -⟩ := LaidOut.cons.mp hrest
        rw [packetDecode_value (by rw [hsize]; simp; omega), hsize, lengthField, if_pos hfirst]
        simp only [readInt, Fetch.value_bind, Fetch.value_item, Fetch.value_pure, hhigh, hlow]
        rfl
    · have hne : mem 0 ≠ 1 := hfirst ▸ hone
      have hsize : lengthFieldSize mem = 1 := if_neg hne
      rw [packetDecode_value (by rw [hsize]; simp), hsize, lengthField, if_neg hne, hfirst,
        lengthFieldOf_short rest hone]
      rfl

theorem type_index {field : PacketLength} (hfield : lengthFieldOf datagram = some field)
    (hvalue : field.value = datagram.length) :
    0 ≤ field.lenlen ∧ (field.lenlen < datagram.length ↔ datagram ≠ [1, 0, 3]) := by
  match datagram with
  | [] => cases hfield
  | first :: rest =>
    rcases eq_or_ne first 1 with hone | hone
    · subst hone
      match rest with
      | [] | [_] => cases hfield
      | [high, low] =>
        obtain rfl := Option.some.inj hfield
        have hend : ¬(3 : Int) < 3 := by decide
        refine ⟨Int.zero_le_ofNat 3, iff_of_false hend ?_⟩
        have hhigh := high.toNat_lt
        have hthree : 256 * high.toNat + low.toNat = 3 := Int.ofNat.inj hvalue
        have hzero : high = 0 := UInt8.toNat_inj.mp (by simp; omega)
        have hlow : low = 3 := UInt8.toNat_inj.mp (by simp; omega)
        rw [hzero, hlow, not_not]
      | high :: low :: type :: rest =>
        obtain rfl := Option.some.inj hfield
        refine ⟨Int.zero_le_ofNat 3, iff_of_true ?_ (by simp)⟩
        simp only [List.length_cons]
        omega
    · rw [lengthFieldOf_short rest hone] at hfield
      obtain rfl := Option.some.inj hfield
      refine ⟨Int.zero_le_ofNat 1, iff_of_true ?_ ?_⟩
      · cases rest with
        | nil =>
          have hfirst : first.toNat = 1 := Int.ofNat.inj hvalue
          exact absurd (UInt8.toNat_inj.mp hfirst) hone
        | cons type rest =>
          simp only [List.length_cons]
          omega
      · intro h
        exact hone (List.cons.inj h).1

theorem takesType_iff (h : LaidOut mem 0 datagram) :
    TakesType datagram (typeOrError mem datagram.length) ↔
      datagram ≠ [] ∧ datagram ≠ [1, 0, 3] := by
  rw [typeOrError, packetDecode_lengthFieldOf h]
  cases hfield : lengthFieldOf datagram with
  | none =>
    simp only [Option.getD_none]
    split_ifs with hlen
    · refine iff_of_true (fun hrc => absurd rfl hrc) ⟨?_, ?_⟩
      · rintro rfl
        exact hlen rfl
      · rintro rfl
        cases hfield
    · have hnil : datagram = [] := List.length_eq_zero_iff.mp (by omega)
      refine iff_of_false (fun htakes => ?_) (fun hne => hne.1 hnil)
      obtain ⟨field, hinside⟩ := htakes (by simp only [MQTTSNPACKET_READ_ERROR]; omega)
      rw [hnil] at hinside
      cases hinside.held
  | some field =>
    have hnil : datagram ≠ [] := by
      rintro rfl
      cases hfield
    simp only [Option.getD_some]
    split_ifs with hvalue
    · refine iff_of_true (fun hrc => absurd rfl hrc) ⟨hnil, ?_⟩
      rintro rfl
      obtain rfl := Option.some.inj hfield
      exact hvalue rfl
    · rw [not_not] at hvalue
      obtain ⟨hpos, hindex⟩ := type_index hfield hvalue
      constructor
      · intro htakes
        obtain ⟨field', hinside⟩ := htakes (by simp only [MQTTSNPACKET_READ_ERROR]; omega)
        obtain rfl := Option.some.inj (hfield.symm.trans hinside.held)
        exact ⟨hnil, hindex.mp hinside.index⟩
      · rintro ⟨-, hne⟩ -
        have hlt := hindex.mpr hne
        have hlt' : field.lenlen.toNat < datagram.length := by omega
        have hbyte := h field.lenlen.toNat hlt'
        rw [Int.zero_add, Int.toNat_of_nonneg hpos] at hbyte
        exact ⟨field, hfield, hvalue, hlt, _, List.getElem?_eq_getElem hlt', by rw [hbyte]⟩

theorem packetReadNb_value (buflen : Int) :
    (packetReadNb buflen).value mem = typeOrError mem buflen := by
  rw [packetReadNb, Fetch.value_bind, typeOrError]
  split_ifs <;> rfl

theorem packetRead_value (len : Int) :
    (packetRead len).value mem =
      if len < MQTTSN_MIN_PACKET_LENGTH then MQTTSNPACKET_READ_ERROR else typeOrError mem len := by
  rw [packetRead, Fetch.value_ite]
  split_ifs
  · rfl
  · exact packetReadNb_value len

theorem takesType_min (h : LaidOut mem 0 datagram) {len : Int} (hlen : len = datagram.length) :
    TakesType datagram
        (if len < MQTTSN_MIN_PACKET_LENGTH then MQTTSNPACKET_READ_ERROR else typeOrError mem len) ↔
      datagram ≠ [1, 0, 3] := by
  subst hlen
  split_ifs with hmin
  · refine iff_of_true (fun hrc => absurd rfl hrc) ?_
    rintro rfl
    exact absurd hmin (by decide)
  · rw [takesType_iff h]
    refine and_iff_right ?_
    rintro rfl
    exact hmin (by decide)

theorem readPacket_rc {σ τ κ : Type} [DatagramNetwork σ] [Timer τ κ] (cfg : Config) (c : Client τ)
    (w : World σ κ) :
    (readPacket cfg c w).rc =
      if (Network.read w.net cfg.maxPacketSize).1.rc < MQTTSN_MIN_PACKET_LENGTH then
        MQTTSNPACKET_READ_ERROR
      else
        typeOrError ((c.fillReadbuf (Network.read w.net cfg.maxPacketSize).1.bytes).memory cfg)
          (Network.read w.net cfg.maxPacketSize).1.rc := by
  simp only [readPacket, typeOrError]
  split_ifs <;> rfl

theorem fillReadbuf_laidOut {τ : Type} (cfg : Config) (c : Client τ) (bytes : Bytes) :
    LaidOut ((c.fillReadbuf bytes).memory cfg) 0 bytes := by
  intro i hi
  have hbuf : (c.fillReadbuf bytes).readbuf = bytes ++ c.readbuf.drop bytes.length :=
    store_zero c.readbuf bytes
  rw [Int.zero_add, Client.memory, if_neg (by omega), hbuf, Int.toNat_natCast,
    List.getD_eq_getElem?_getD, List.getElem?_append_left hi, List.getElem?_eq_getElem hi]
  rfl

theorem type_inside_iff (datagram : Bytes) :
    (∀ mem : Int → UInt8, LaidOut mem 0 datagram →
      (TakesType datagram ((packetRead datagram.length).value mem) ↔ datagram ≠ [1, 0, 3]) ∧
      (TakesType datagram ((packetReadNb datagram.length).value mem) ↔
        datagram ≠ [] ∧ datagram ≠ [1, 0, 3])) ∧
    ∀ (σ τ κ : Type) [DatagramNetwork σ] [Timer τ κ] (cfg : Config) (c : Client τ)
      (w : World σ κ),
      let r := (Network.read w.net cfg.maxPacketSize).1
      (TakesType r.bytes (readPacket cfg c w).rc ↔ r ≠ ⟨3, [1, 0, 3]⟩) := by
  refine ⟨fun mem hmem => ⟨?_, ?_⟩, ?_⟩
  · rw [packetRead_value]
    exact takesType_min hmem rfl
  · rw [packetReadNb_value]
    exact takesType_iff hmem
  · intro σ τ κ _ _ cfg c w
    simp only [readPacket_rc]
    have hlength := Network.read_length w.net cfg.maxPacketSize
    generalize (Network.read w.net cfg.maxPacketSize).1 = answer at hlength
    obtain ⟨rc, bytes⟩ := answer
    simp only [ne_eq, ReadResult.mk.injEq, not_and] at hlength ⊢
    rcases Int.lt_or_le 0 rc with hpos | hneg
    · have hlen := (hlength hpos).symm
      rw [takesType_min (fillReadbuf_laidOut cfg c bytes) hlen]
      constructor
      · intro hne _
        exact hne
      · rintro hne rfl
        exact hne hlen rfl
    · rw [if_pos (by simp only [MQTTSN_MIN_PACKET_LENGTH]; omega)]
      refine iff_of_true (fun hrc => absurd rfl hrc) ?_
      rintro rfl
      exact absurd hneg (by decide)

theorem type_read_behind :
    let mem := memoryOf 0x18 [1, 0, 3]
    let w := World.answered [[1, 0, 3]] 9
    let c := Client.construct (.standard .qos1) 30000 OracleTimer.oracle 0 false
    (packetRead 3).value mem = 0x18 ∧ (packetReadNb 3).value mem = 0x18 ∧
    (packetReadNb 0).value mem = 1 ∧ (readPacket (.standard .qos1) c w).rc = 0 ∧
    ¬((∀ (mem : Int → UInt8) (datagram : Bytes), LaidOut mem 0 datagram →
        TakesType datagram ((packetRead datagram.length).value mem) ∧
        TakesType datagram ((packetReadNb datagram.length).value mem)) ∧
      ∀ (σ τ κ : Type) [DatagramNetwork σ] [Timer τ κ] (cfg : Config) (c : Client τ)
        (w : World σ κ),
        TakesType (Network.read w.net cfg.maxPacketSize).1.bytes (readPacket cfg c w).rc) := by
  refine ⟨by decide, by decide, by decide, by decide, ?_⟩
  rintro ⟨h, -⟩
  have htakes := (h (memoryOf 0x18 [1, 0, 3]) [1, 0, 3] (laidOut_memoryOf 0x18 [1, 0, 3])).1
  obtain ⟨field, hinside⟩ := htakes (by decide)
  obtain rfl := Option.some.inj hinside.held
  exact absurd hinside.index (by decide)

end MbedMqtt.MQTTSN
