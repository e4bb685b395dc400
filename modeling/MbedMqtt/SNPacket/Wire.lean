import MbedMqtt.Gateway.Buffer
import MbedMqtt.Library.Fetch

namespace MbedMqtt.MQTTSN

open MQTTSNGW

abbrev MQTTSNPACKET_READ_ERROR : Int := -1
abbrev MQTTSN_PROTOCOL_VERSION : UInt8 := 0x01

abbrev MQTTSN_ADVERTISE : UInt8 := 0
abbrev MQTTSN_SEARCHGW : UInt8 := 1
abbrev MQTTSN_GWINFO : UInt8 := 2
abbrev MQTTSN_CONNECT : UInt8 := 4
abbrev MQTTSN_CONNACK : UInt8 := 5
abbrev MQTTSN_WILLTOPICREQ : UInt8 := 6
abbrev MQTTSN_WILLTOPIC : UInt8 := 7
abbrev MQTTSN_WILLMSGREQ : UInt8 := 8
abbrev MQTTSN_WILLMSG : UInt8 := 9
abbrev MQTTSN_REGACK : UInt8 := 11
abbrev MQTTSN_PUBACK : UInt8 := 13
abbrev MQTTSN_PUBCOMP : UInt8 := 14
abbrev MQTTSN_PUBREC : UInt8 := 15
abbrev MQTTSN_PUBREL : UInt8 := 16
abbrev MQTTSN_SUBSCRIBE : UInt8 := 18
abbrev MQTTSN_SUBACK : UInt8 := 19
abbrev MQTTSN_UNSUBSCRIBE : UInt8 := 20
abbrev MQTTSN_UNSUBACK : UInt8 := 21
abbrev MQTTSN_PINGREQ : UInt8 := 22
abbrev MQTTSN_PINGRESP : UInt8 := 23
abbrev MQTTSN_DISCONNECT : UInt8 := 24
abbrev MQTTSN_WILLTOPICUPD : UInt8 := 26
abbrev MQTTSN_WILLTOPICRESP : UInt8 := 27
abbrev MQTTSN_WILLMSGUPD : UInt8 := 28
abbrev MQTTSN_WILLMSGRESP : UInt8 := 29

def readInt (i : Int) : Fetch UInt8 Nat := do
  let high ← Fetch.item i
  let low ← Fetch.item (i + 1)
  pure (256 * high.toNat + low.toNat)

structure PacketLength where
  lenlen : Int
  value : Int
  deriving DecidableEq, Repr

def packetDecode (buflen value : Int) : Fetch UInt8 PacketLength :=
  if buflen ≤ 0 then pure ⟨MQTTSNPACKET_READ_ERROR, value⟩
  else do
    let first ← Fetch.item 0
    if first = 1 then
      if buflen < 3 then pure ⟨MQTTSNPACKET_READ_ERROR, value⟩
      else do
        let value ← readInt 1
        pure ⟨3, value⟩
    else pure ⟨1, first.toNat⟩

def packetReadNb (buflen : Int) : Fetch UInt8 Int := do
  let length ← packetDecode buflen 0
  if length.value ≠ buflen then pure MQTTSNPACKET_READ_ERROR
  else do
    let type ← Fetch.item length.lenlen
    pure type.toNat

abbrev MQTTSN_MIN_PACKET_LENGTH : Int := 2

-- `len` is what `getfn` returned, and the memory holds what it stored in `buf`
def packetRead (len : Int) : Fetch UInt8 Int :=
  if len < MQTTSN_MIN_PACKET_LENGTH then pure MQTTSNPACKET_READ_ERROR
  else do
    let length ← packetDecode len 0
    if length.value ≠ len then pure MQTTSNPACKET_READ_ERROR
    else do
      let type ← Fetch.item length.lenlen
      pure type.toNat

def lengthField (mem : Int → UInt8) : Int :=
  if mem 0 = 1 then ((readInt 1).value mem : Nat) else (mem 0).toNat

def lengthFieldSize (mem : Int → UInt8) : Int := if mem 0 = 1 then 3 else 1

def flagsTopicIdType (flags : UInt8) : TopicType :=
  match flags.toNat % 4 with
  | 0 => .normal
  | 1 => .predefined
  | 2 => .short
  | _ => .reserved

def flagsCleanSession (flags : UInt8) : Nat := flags.toNat / 4 % 2
def flagsWill (flags : UInt8) : Nat := flags.toNat / 8 % 2
def flagsRetain (flags : UInt8) : Nat := flags.toNat / 16 % 2
def flagsQoS (flags : UInt8) : Nat := flags.toNat / 32 % 4

-- `int dup : 1` is signed or not as the compiler decides; signed, a set bit reads as -1
def flagsDup (bitsSigned : Bool) (flags : UInt8) : UInt8 :=
  if flags.toNat / 128 = 0 then 0 else if bitsSigned then 255 else 1

def flagsByte (topicIdType cleanSession will retain qos dup : Nat) : UInt8 :=
  UInt8.ofNat (topicIdType % 4 + cleanSession % 2 * 4 + will % 2 * 8 + retain % 2 * 16 +
    qos % 4 * 32 + dup % 2 * 128)

theorem flagsByte_toNat (topicIdType cleanSession will retain qos dup : Nat) :
    (flagsByte topicIdType cleanSession will retain qos dup).toNat =
      topicIdType % 4 + cleanSession % 2 * 4 + will % 2 * 8 + retain % 2 * 16 + qos % 4 * 32 +
        dup % 2 * 128 := by
  rw [flagsByte, UInt8.toNat_ofNat']
  omega

section Flags

variable (topicIdType cleanSession will retain qos dup : Nat)

@[simp] theorem flagsCleanSession_flagsByte :
    flagsCleanSession (flagsByte topicIdType cleanSession will retain qos dup) = cleanSession % 2 := by
  rw [flagsCleanSession, flagsByte_toNat]
  omega

@[simp] theorem flagsWill_flagsByte :
    flagsWill (flagsByte topicIdType cleanSession will retain qos dup) = will % 2 := by
  rw [flagsWill, flagsByte_toNat]
  omega

@[simp] theorem flagsRetain_flagsByte :
    flagsRetain (flagsByte topicIdType cleanSession will retain qos dup) = retain % 2 := by
  rw [flagsRetain, flagsByte_toNat]
  omega

@[simp] theorem flagsQoS_flagsByte :
    flagsQoS (flagsByte topicIdType cleanSession will retain qos dup) = qos % 4 := by
  rw [flagsQoS, flagsByte_toNat]
  omega

@[simp] theorem flagsTopicIdType_flagsByte (type : TopicType) :
    flagsTopicIdType (flagsByte type.bits cleanSession will retain qos dup) = type := by
  have hbits : (flagsByte type.bits cleanSession will retain qos dup).toNat % 4 = type.bits := by
    have hlt := type.bits_lt
    rw [flagsByte_toNat]
    omega
  rw [flagsTopicIdType, hbits]
  cases type <;> rfl

theorem flagsDup_flagsByte (bitsSigned : Bool) :
    flagsDup bitsSigned (flagsByte topicIdType cleanSession will retain qos dup) =
      if dup % 2 = 0 then 0 else if bitsSigned then 255 else 1 := by
  have hdup : (flagsByte topicIdType cleanSession will retain qos dup).toNat / 128 = dup % 2 := by
    rw [flagsByte_toNat]
    omega
  rw [flagsDup, hdup]

theorem flagsQoS_toInt (qos : QoS) :
    flagsQoS (flagsByte topicIdType cleanSession will retain qos.toInt dup) = qos.toInt := by
  rw [flagsQoS_flagsByte, Nat.mod_eq_of_lt qos.toInt_lt]

theorem flagsRetain_toNat (retain : Bool) :
    flagsRetain (flagsByte topicIdType cleanSession will retain.toNat qos dup) = retain.toNat := by
  rw [flagsRetain_flagsByte, Nat.mod_eq_of_lt retain.toNat_lt]

def readDup (bitsSigned dup : Bool) : UInt8 := if dup then if bitsSigned then 255 else 1 else 0

theorem flagsDup_toNat (bitsSigned dup : Bool) :
    flagsDup bitsSigned (flagsByte topicIdType cleanSession will retain qos dup.toNat) =
      readDup bitsSigned dup := by
  rw [flagsDup_flagsByte]
  cases dup <;> rfl

end Flags

def mqttsnstrlen (s : MQTTString) : Nat :=
  match s.cstring with
  | some text => text.length
  | none => s.len

-- `writeCString` is the one of the MQTT library: it writes the length of the string first
def writeMQTTSNString (s : MQTTString) : Bytes :=
  if 0 < s.len then (s.data.getD []).take s.len
  else match s.cstring with
    | some text => writeCString text
    | none => []

structure ReadString where
  cstring : Option Bytes
  data : Option Int
  len : Int
  deriving DecidableEq, Repr

def ReadString.slice (s : ReadString) : Slice := ⟨s.data.getD 0, s.len⟩

def readMQTTSNString (cstring : Option Bytes) (curdata enddata : Int) : ReadString :=
  if 0 < enddata - curdata then ⟨cstring, some curdata, enddata - curdata⟩
  else ⟨none, none, enddata - curdata⟩

structure Parsed (α : Type) where
  rc : Int
  fields : Option α
  deriving DecidableEq, Repr

def deserialize {α : Type} (admits : PacketLength → Int → Bool) (rejected : PacketLength → Int)
    (expected : UInt8 → Bool) (fields : UInt8 → Int → Int → Fetch UInt8 (Option α))
    (uninitialised buflen : Int) : Fetch UInt8 (Parsed α) := do
  let length ← packetDecode buflen uninitialised
  if admits length buflen then do
    let type ← Fetch.item length.lenlen
    if expected type then do
      let fields ← fields type (length.lenlen + 1) length.value
      pure ⟨if fields.isSome then 1 else rejected length, fields⟩
    else pure ⟨rejected length, none⟩
  else pure ⟨rejected length, none⟩

def withinBuflen (length : PacketLength) (buflen : Int) : Bool :=
  length.value - length.lenlen ≤ buflen

def returnZero (_ : PacketLength) : Int := 0

def isType (type : UInt8) (read : UInt8) : Bool := read = type

end MbedMqtt.MQTTSN
