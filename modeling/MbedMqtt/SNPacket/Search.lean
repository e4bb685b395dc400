import MbedMqtt.SNPacket.Frame

namespace MbedMqtt.MQTTSN

open MQTTSNGW

variable {σ τ : Type} {mem : Int → UInt8}

structure AdvertiseFields where
  gatewayid : UInt8
  duration : Nat
  deriving DecidableEq, Repr

def serializeAdvertise (buflen : Nat) (gatewayid : UInt8) (duration : UInt16) : Serialized :=
  serialize buflen MQTTSN_ADVERTISE 4 (gatewayid :: writeInt duration.toNat)

def readAdvertise (_ : UInt8) (curdata _ : Int) : Fetch UInt8 (Option AdvertiseFields) := do
  let gatewayid ← Fetch.item curdata
  let duration ← readInt (curdata + 1)
  pure (some ⟨gatewayid, duration⟩)

def deserializeAdvertise (buflen : Int) : Fetch UInt8 (Parsed AdvertiseFields) :=
  deserialize withinBuflen returnZero (isType MQTTSN_ADVERTISE) readAdvertise 0 buflen

def serializeSearchgw (buflen : Nat) (radius : UInt8) : Serialized :=
  serialize buflen MQTTSN_SEARCHGW 2 [radius]

def readSearchgw (_ : UInt8) (curdata _ : Int) : Fetch UInt8 (Option UInt8) := do
  let radius ← Fetch.item curdata
  pure (some radius)

def deserializeSearchgw (buflen : Int) : Fetch UInt8 (Parsed UInt8) :=
  deserialize withinBuflen returnZero (isType MQTTSN_SEARCHGW) readSearchgw 0 buflen

structure GatewayAddress where
  len : UInt16
  pointer : Option Bytes
  held : len.toNat ≤ (pointer.getD []).length

namespace GatewayAddress

def bytes (address : GatewayAddress) : Bytes := (address.pointer.getD []).take address.len.toNat

theorem bytes_length (address : GatewayAddress) : address.bytes.length = address.len.toNat := by
  rw [bytes, List.length_take, Nat.min_eq_left address.held]

end GatewayAddress

structure GwinfoFields (σ : Type) where
  gatewayid : UInt8
  gatewayaddress : σ
  deriving DecidableEq, Repr

def GwinfoFields.map (f : σ → τ) (fields : GwinfoFields σ) : GwinfoFields τ :=
  ⟨fields.gatewayid, f fields.gatewayaddress⟩

def serializeGwinfo (buflen : Nat) (gatewayid : UInt8) (gatewayaddress : GatewayAddress) :
    Serialized :=
  serialize buflen MQTTSN_GWINFO (2 + gatewayaddress.len.toNat)
    (gatewayid ::
      (if 0 < gatewayaddress.len ∧ gatewayaddress.pointer ≠ none then gatewayaddress.bytes else []))

-- the source tests the pointer `gatewayaddress_len`, so the address is never set to NULL, and
-- stores the length in an `unsigned short`
def readGwinfo (_ : UInt8) (curdata enddata : Int) :
    Fetch UInt8 (Option (GwinfoFields Slice)) := do
  let gatewayid ← Fetch.item curdata
  pure (some ⟨gatewayid, ⟨curdata + 1, (enddata - (curdata + 1)) % 65536⟩⟩)

def deserializeGwinfo (buflen : Int) : Fetch UInt8 (Parsed (GwinfoFields Slice)) :=
  deserialize withinBuflen returnZero (isType MQTTSN_GWINFO) readGwinfo 0 buflen

section LaidOut

variable {curdata enddata : Int} {gatewayid : UInt8}

theorem readAdvertise_laidOut {duration : UInt16} (type : UInt8)
    (h : LaidOut mem curdata (gatewayid :: writeInt duration.toNat)) :
    (readAdvertise type curdata enddata).value mem = some ⟨gatewayid, duration.toNat⟩ := by
  obtain ⟨hgatewayid, hduration⟩ := LaidOut.cons.mp h
  simp only [readAdvertise, Fetch.value_bind, Fetch.value_item, Fetch.value_pure, hgatewayid,
    readInt_uint16 hduration]

theorem serializeGwinfo_body (address : GatewayAddress) :
    (if 0 < address.len ∧ address.pointer ≠ none then address.bytes else []) = address.bytes := by
  split_ifs with hgiven
  · rfl
  obtain ⟨len, pointer, held⟩ := address
  rcases Nat.eq_zero_or_pos len.toNat with hzero | hpos
  · simp [GatewayAddress.bytes, hzero]
  · cases pointer with
    | none => exact absurd held (by simpa using hpos.ne')
    | some bytes => exact absurd ⟨UInt16.lt_iff_toNat_lt.mpr hpos, Option.some_ne_none _⟩ hgiven

theorem readGwinfo_laidOut {address : Bytes} (type : UInt8)
    (h : LaidOut mem curdata (gatewayid :: address))
    (hend : curdata + 1 + address.length = enddata) (hlen : address.length < 65536) :
    ((readGwinfo type curdata enddata).value mem).map (GwinfoFields.map (Slice.items mem)) =
      some ⟨gatewayid, some address⟩ := by
  obtain ⟨hgatewayid, haddress⟩ := LaidOut.cons.mp h
  have hvalue : (enddata - (curdata + 1)) % 65536 = address.length := by omega
  simp only [readGwinfo, Fetch.value_bind, Fetch.value_item, Fetch.value_pure, hgatewayid,
    hvalue, Option.map_some, GwinfoFields.map, Slice.items_laidOut haddress]

end LaidOut

end MbedMqtt.MQTTSN
