import MbedMqtt.SNPacket.Frame

namespace MbedMqtt.MQTTSN

open MQTTSNGW

variable {σ τ : Type} {mem : Int → UInt8}

inductive ReadTopic (σ : Type) where
  | id (value : Nat)
  | shortName (first second : UInt8)
  | long (name : σ)
  | untouched
  deriving DecidableEq, Repr

namespace ReadTopic

def map (f : σ → τ) : ReadTopic σ → ReadTopic τ
  | id value => id value
  | shortName first second => shortName first second
  | long name => long (f name)
  | untouched => untouched

def strings : ReadTopic σ → List σ
  | long name => [name]
  | _ => []

end ReadTopic

structure PublishFields (σ : Type) where
  dup : UInt8
  qos : Nat
  retained : Nat
  packetid : Nat
  type : TopicType
  topic : ReadTopic σ
  payload : σ
  deriving DecidableEq, Repr

namespace PublishFields

def map (f : σ → τ) (fields : PublishFields σ) : PublishFields τ :=
  ⟨fields.dup, fields.qos, fields.retained, fields.packetid, fields.type, fields.topic.map f,
    f fields.payload⟩

def strings (fields : PublishFields σ) : List σ := fields.topic.strings ++ [fields.payload]

end PublishFields

-- with both QoS bits set the topic id field of a normal topic holds the length of its name
def readTopicField (type : TopicType) (qos : Nat) (curdata : Int) : Fetch UInt8 (ReadTopic Nat) :=
  if type = .normal ∧ qos = 3 then do
    let len ← readInt curdata
    pure (.long len)
  else if type = .normal ∨ type = .predefined then do
    let id ← readInt curdata
    pure (.id id)
  else do
    let first ← Fetch.item curdata
    let second ← Fetch.item (curdata + 1)
    pure (.shortName first second)

def readPublish (bitsSigned : Bool) (_ : UInt8) (curdata enddata : Int) :
    Fetch UInt8 (Option (PublishFields Slice)) := do
  let flags ← Fetch.item curdata
  let type := flagsTopicIdType flags
  let qos := flagsQoS flags
  let topic ← readTopicField type qos (curdata + 1)
  let packetid ← readInt (curdata + 3)
  let payload := curdata + 5 + topic.strings.sum
  pure (some ⟨flagsDup bitsSigned flags, qos, flagsRetain flags, packetid, type,
    topic.map fun (len : Nat) => ⟨curdata + 5, len⟩, ⟨payload, enddata - payload⟩⟩)

def deserializePublish (bitsSigned : Bool) (buflen : Int) :
    Fetch UInt8 (Parsed (PublishFields Slice)) :=
  deserialize withinBuflen returnZero (isType MQTTSN_PUBLISH) (readPublish bitsSigned) 0 buflen

structure TopicAckFields where
  topicid : Nat
  packetid : Nat
  returncode : UInt8
  deriving DecidableEq, Repr

def topicAckBody (topicid packetid : UInt16) (returncode : UInt8) : Bytes :=
  writeInt topicid.toNat ++ writeInt packetid.toNat ++ [returncode]

def readTopicAck (_ : UInt8) (curdata _ : Int) : Fetch UInt8 (Option TopicAckFields) := do
  let topicid ← readInt curdata
  let packetid ← readInt (curdata + 2)
  let returncode ← Fetch.item (curdata + 4)
  pure (some ⟨topicid, packetid, returncode⟩)

def serializePuback (buflen : Nat) (topicid packetid : UInt16) (returncode : UInt8) : Serialized :=
  serialize buflen MQTTSN_PUBACK 6 (topicAckBody topicid packetid returncode)

def deserializePuback (buflen : Int) : Fetch UInt8 (Parsed TopicAckFields) :=
  deserialize withinBuflen returnZero (isType MQTTSN_PUBACK) readTopicAck 0 buflen

def serializeRegack (buflen : Nat) (topicid packetid : UInt16) (returnCode : UInt8) : Serialized :=
  serialize buflen MQTTSN_REGACK 6 (topicAckBody topicid packetid returnCode)

def deserializeRegack (buflen : Int) : Fetch UInt8 (Parsed TopicAckFields) :=
  deserialize withinBuflen returnZero (isType MQTTSN_REGACK) readTopicAck 0 buflen

structure AckFields where
  type : UInt8
  packetid : Nat
  deriving DecidableEq, Repr

def isAck (type : UInt8) : Bool :=
  type = MQTTSN_PUBREL ∨ type = MQTTSN_PUBREC ∨ type = MQTTSN_PUBCOMP

def readAck (type : UInt8) (curdata _ : Int) : Fetch UInt8 (Option AckFields) := do
  let packetid ← readInt curdata
  pure (some ⟨type, packetid⟩)

-- the length 4 is written out in the source
def serializeAck (buflen : Nat) (packetType : UInt8) (packetid : UInt16) : Serialized :=
  serialize buflen packetType 3 (writeInt packetid.toNat)

def serializePubrec (buflen : Nat) (packetid : UInt16) : Serialized :=
  serializeAck buflen MQTTSN_PUBREC packetid

def serializePubrel (buflen : Nat) (packetid : UInt16) : Serialized :=
  serializeAck buflen MQTTSN_PUBREL packetid

def serializePubcomp (buflen : Nat) (packetid : UInt16) : Serialized :=
  serializeAck buflen MQTTSN_PUBCOMP packetid

def deserializeAck (buflen : Int) : Fetch UInt8 (Parsed AckFields) :=
  deserialize withinBuflen returnZero isAck readAck 0 buflen

structure RegisterFields (σ : Type) where
  topicid : Nat
  packetid : Nat
  topicname : σ
  deriving DecidableEq, Repr

def RegisterFields.map (f : σ → τ) (fields : RegisterFields σ) : RegisterFields τ :=
  ⟨fields.topicid, fields.packetid, f fields.topicname⟩

def serializeRegister (buflen : Nat) (topicid packetid : UInt16) (topicname : MQTTString) :
    Serialized :=
  serialize buflen MQTTSN_REGISTER (mqttsnstrlen topicname + 5)
    (writeInt topicid.toNat ++ writeInt packetid.toNat ++ topicname.text)

def readRegister (_ : UInt8) (curdata enddata : Int) :
    Fetch UInt8 (Option (RegisterFields Slice)) := do
  let topicid ← readInt curdata
  let packetid ← readInt (curdata + 2)
  pure (some ⟨topicid, packetid, ⟨curdata + 4, enddata - (curdata + 4)⟩⟩)

def deserializeRegister (buflen : Int) : Fetch UInt8 (Parsed (RegisterFields Slice)) :=
  deserialize withinBuflen returnZero (isType MQTTSN_REGISTER) readRegister 0 buflen

section LaidOut

variable {curdata : Int} {topicid packetid : UInt16}

theorem readTopicAck_laidOut {returncode : UInt8} (type : UInt8) (enddata : Int)
    (h : LaidOut mem curdata (topicAckBody topicid packetid returncode)) :
    (readTopicAck type curdata enddata).value mem =
      some ⟨topicid.toNat, packetid.toNat, returncode⟩ := by
  rw [topicAckBody, List.append_assoc, writeInt_append_laidOut, writeInt_append_laidOut,
    LaidOut.cons] at h
  obtain ⟨htopicid, hpacketid, hreturncode, -⟩ := h
  rw [Int.add_assoc] at hreturncode
  simp only [readTopicAck, Fetch.value_bind, readInt_uint16 htopicid, readInt_uint16 hpacketid]
  rw [← hreturncode]
  rfl

theorem readAck_laidOut (type : UInt8) (enddata : Int)
    (h : LaidOut mem curdata (writeInt packetid.toNat)) :
    (readAck type curdata enddata).value mem = some ⟨type, packetid.toNat⟩ := by
  simp only [readAck, Fetch.value_bind, Fetch.value_pure, readInt_uint16 h]

theorem readRegister_laidOut {name : Bytes} {enddata : Int} (type : UInt8)
    (h : LaidOut mem curdata (writeInt topicid.toNat ++ writeInt packetid.toNat ++ name))
    (hend : curdata + 4 + name.length = enddata) :
    ((readRegister type curdata enddata).value mem).map (RegisterFields.map (Slice.items mem)) =
      some ⟨topicid.toNat, packetid.toNat, some name⟩ := by
  rw [List.append_assoc, writeInt_append_laidOut, writeInt_append_laidOut, Int.add_assoc] at h
  obtain ⟨htopicid, hpacketid, (hname : LaidOut mem (curdata + 4) name)⟩ := h
  have hlen : enddata - (curdata + 4) = name.length := by omega
  simp only [readRegister, Fetch.value_bind, Fetch.value_pure, readInt_uint16 htopicid,
    readInt_uint16 hpacketid, hlen, Option.map_some, RegisterFields.map, Slice.items_laidOut hname]

end LaidOut

end MbedMqtt.MQTTSN
