import MbedMqtt.SNPacket.Publish

namespace MbedMqtt.MQTTSN

open MQTTSNGW

variable {σ τ : Type} {mem : Int → UInt8}

structure ConnectData where
  clientID : MQTTString
  duration : UInt16
  cleansession : Bool
  willFlag : Bool
  deriving DecidableEq, Repr

structure ConnectFields (σ : Type) where
  cleansession : Nat
  willFlag : Nat
  duration : Nat
  clientID : σ
  deriving DecidableEq, Repr

def ConnectFields.map (f : σ → τ) (fields : ConnectFields σ) : ConnectFields τ :=
  ⟨fields.cleansession, fields.willFlag, fields.duration, f fields.clientID⟩

def serializeConnect (buflen : Nat) (options : ConnectData) : Serialized :=
  serialize buflen MQTTSN_CONNECT (5 + mqttsnstrlen options.clientID)
    (flagsByte 0 options.cleansession.toNat options.willFlag.toNat 0 0 0 :: MQTTSN_PROTOCOL_VERSION ::
      (writeInt options.duration.toNat ++ writeMQTTSNString options.clientID))

def hasBytes (n : Int) (length : PacketLength) (_ : Int) : Bool := n ≤ length.value - length.lenlen

-- `cstring` is what the caller's string held before
def readConnect (cstring : Option Bytes) (_ : UInt8) (curdata enddata : Int) :
    Fetch UInt8 (Option (ConnectFields ReadString)) := do
  let flags ← Fetch.item curdata
  let version ← Fetch.item (curdata + 1)
  if version = MQTTSN_PROTOCOL_VERSION then do
    let duration ← readInt (curdata + 2)
    pure (some ⟨flagsCleanSession flags, flagsWill flags, duration,
      readMQTTSNString cstring (curdata + 4) enddata⟩)
  else pure none

def deserializeConnect (cstring : Option Bytes) (len : Int) :
    Fetch UInt8 (Parsed (ConnectFields ReadString)) :=
  deserialize (hasBytes 2) returnZero (isType MQTTSN_CONNECT) (readConnect cstring) 0 len

-- the packet lengths of the requests and responses of the server are written out in the source
def serializeConnack (buflen : Nat) (connackRc : UInt8) : Serialized :=
  serialize buflen MQTTSN_CONNACK 2 [connackRc]

def serializeWilltopicreq (buflen : Nat) : Serialized :=
  serialize buflen MQTTSN_WILLTOPICREQ 1 []

def serializeWillmsgreq (buflen : Nat) : Serialized :=
  serialize buflen MQTTSN_WILLMSGREQ 1 []

def serializePingresp (buflen : Nat) : Serialized :=
  serialize buflen MQTTSN_PINGRESP 1 []

def serializeWilltopicresp (buflen : Nat) (respRc : UInt8) : Serialized :=
  serialize buflen MQTTSN_WILLTOPICRESP 2 [respRc]

def serializeWillmsgresp (buflen : Nat) (respRc : UInt8) : Serialized :=
  serialize buflen MQTTSN_WILLMSGRESP 2 [respRc]

def admitsConnack (length : PacketLength) (_ : Int) : Bool := 3 ≤ length.value

def readConnack (_ : UInt8) (curdata _ : Int) : Fetch UInt8 (Option UInt8) := do
  let connackRc ← Fetch.item curdata
  pure (some connackRc)

-- `rc` holds what `MQTTSNPacket_decode` returned until the end, and `mylen` starts uninitialised
def deserializeConnack (uninitialised buflen : Int) : Fetch UInt8 (Parsed UInt8) :=
  deserialize admitsConnack PacketLength.lenlen (isType MQTTSN_CONNACK) readConnack uninitialised
    buflen

def serializePingreq (buflen : Nat) (clientid : MQTTString) : Serialized :=
  serialize buflen MQTTSN_PINGREQ (mqttsnstrlen clientid + 1) (writeMQTTSNString clientid)

def readString (cstring : Option Bytes) (_ : UInt8) (curdata enddata : Int) :
    Fetch UInt8 (Option ReadString) :=
  pure (some (readMQTTSNString cstring curdata enddata))

def deserializePingreq (cstring : Option Bytes) (len : Int) : Fetch UInt8 (Parsed ReadString) :=
  deserialize (hasBytes 1) returnZero (isType MQTTSN_PINGREQ) (readString cstring) 0 len

def serializeDisconnectLength (duration : Int) : Nat := if 0 < duration then 3 else 1

def serializeDisconnect (buflen : Nat) (duration : Int) : Serialized :=
  serialize buflen MQTTSN_DISCONNECT (serializeDisconnectLength duration)
    (if 0 < duration then writeInt duration.toNat else [])

structure WilltopicFields (σ : Type) where
  willQoS : Nat
  willRetain : Nat
  willTopic : σ
  deriving DecidableEq, Repr

def WilltopicFields.map (f : σ → τ) (fields : WilltopicFields σ) : WilltopicFields τ :=
  ⟨fields.willQoS, fields.willRetain, f fields.willTopic⟩

def serializeWilltopic1 (buflen willQoS willRetain : Nat) (willTopic : MQTTString)
    (packetType : UInt8) : Serialized :=
  serialize buflen packetType (mqttsnstrlen willTopic + 2)
    (flagsByte 0 0 0 willRetain willQoS 0 :: writeMQTTSNString willTopic)

def serializeWilltopic (buflen willQoS willRetain : Nat) (willTopic : MQTTString) : Serialized :=
  serializeWilltopic1 buflen willQoS willRetain willTopic MQTTSN_WILLTOPIC

def serializeWilltopicupd (buflen willQoS willRetain : Nat) (willTopic : MQTTString) : Serialized :=
  serializeWilltopic1 buflen willQoS willRetain willTopic MQTTSN_WILLTOPICUPD

def endsInside (length : PacketLength) (len : Int) : Bool := length.value ≤ len

def readWilltopic1 (cstring : Option Bytes) (_ : UInt8) (curdata enddata : Int) :
    Fetch UInt8 (Option (WilltopicFields ReadString)) := do
  let flags ← Fetch.item curdata
  pure (some ⟨flagsQoS flags, flagsRetain flags, readMQTTSNString cstring (curdata + 1) enddata⟩)

def deserializeWilltopic1 (cstring : Option Bytes) (packetType : UInt8) (len : Int) :
    Fetch UInt8 (Parsed (WilltopicFields ReadString)) :=
  deserialize endsInside returnZero (isType packetType) (readWilltopic1 cstring) 0 len

def deserializeWilltopic (cstring : Option Bytes) (len : Int) :
    Fetch UInt8 (Parsed (WilltopicFields ReadString)) :=
  deserializeWilltopic1 cstring MQTTSN_WILLTOPIC len

def deserializeWilltopicupd (cstring : Option Bytes) (len : Int) :
    Fetch UInt8 (Parsed (WilltopicFields ReadString)) :=
  deserializeWilltopic1 cstring MQTTSN_WILLTOPICUPD len

def serializeWillmsg1 (buflen : Nat) (willMsg : MQTTString) (packetType : UInt8) : Serialized :=
  serialize buflen packetType (mqttsnstrlen willMsg + 1) (writeMQTTSNString willMsg)

def serializeWillmsg (buflen : Nat) (willMsg : MQTTString) : Serialized :=
  serializeWillmsg1 buflen willMsg MQTTSN_WILLMSG

def serializeWillmsgupd (buflen : Nat) (willMsg : MQTTString) : Serialized :=
  serializeWillmsg1 buflen willMsg MQTTSN_WILLMSGUPD

def deserializeWillmsg1 (cstring : Option Bytes) (packetType : UInt8) (len : Int) :
    Fetch UInt8 (Parsed ReadString) :=
  deserialize endsInside returnZero (isType packetType) (readString cstring) 0 len

def deserializeWillmsg (cstring : Option Bytes) (len : Int) : Fetch UInt8 (Parsed ReadString) :=
  deserializeWillmsg1 cstring MQTTSN_WILLMSG len

def deserializeWillmsgupd (cstring : Option Bytes) (len : Int) :
    Fetch UInt8 (Parsed ReadString) :=
  deserializeWillmsg1 cstring MQTTSN_WILLMSGUPD len

section LaidOut

variable {curdata enddata : Int} {cstring : Option Bytes} {text : Bytes}

@[simp] theorem mqttsnstrlen_ofLenString (text : Bytes) :
    mqttsnstrlen (.ofLenString text) = text.length := rfl

@[simp] theorem writeMQTTSNString_ofLenString (text : Bytes) :
    writeMQTTSNString (.ofLenString text) = text := by
  simp only [writeMQTTSNString, MQTTString.ofLenString, Option.getD_some, List.take_length]
  split_ifs with hpos
  · rfl
  · exact (List.length_eq_zero_iff.mp (by omega)).symm

def readBytes (mem : Int → UInt8) (s : ReadString) : Option Bytes := s.slice.items mem

theorem readMQTTSNString_laidOut (h : LaidOut mem curdata text)
    (hend : curdata + text.length = enddata) :
    readBytes mem (readMQTTSNString cstring curdata enddata) = some text := by
  have hlen : enddata - curdata = text.length := by omega
  simp only [readBytes, readMQTTSNString, hlen]
  split_ifs with hpos
  · exact Slice.items_laidOut h
  · obtain rfl : text = [] := List.length_eq_zero_iff.mp (by omega)
    rfl

theorem readWilltopic1_laidOut {qos : QoS} {retain : Bool} (type : UInt8)
    (h : LaidOut mem curdata (flagsByte 0 0 0 retain.toNat qos.toInt 0 :: text))
    (hend : curdata + 1 + text.length = enddata) :
    ((readWilltopic1 cstring type curdata enddata).value mem).map
        (WilltopicFields.map (readBytes mem)) = some ⟨qos.toInt, retain.toNat, some text⟩ := by
  obtain ⟨hflags, htext⟩ := LaidOut.cons.mp h
  simp only [readWilltopic1, Fetch.value_bind, Fetch.value_item, Fetch.value_pure, hflags,
    flagsQoS_toInt, flagsRetain_toNat, Option.map_some, WilltopicFields.map,
    readMQTTSNString_laidOut htext hend]

theorem readString_laidOut (type : UInt8) (h : LaidOut mem curdata text)
    (hend : curdata + text.length = enddata) :
    ((readString cstring type curdata enddata).value mem).map (readBytes mem) =
      some (some text) := by
  simp only [readString, Fetch.value_pure, Option.map_some, readMQTTSNString_laidOut h hend]

end LaidOut

end MbedMqtt.MQTTSN
