import MbedMqtt.Gateway.PublishHandler

namespace MbedMqtt.MQTTSNGW

abbrev MQTTSNGW_MAX_PACKET_SIZE : Nat := 1024
abbrev MQTTSNPACKET_BUFFER_TOO_SHORT : Int := -2
abbrev MQTTSN_REGISTER : UInt8 := 10
abbrev MQTTSN_PUBLISH : UInt8 := 12

def snPacketLen (length : Nat) : Nat := if 255 < length then length + 3 else length + 1

def snPacketEncode (length : Nat) : Bytes :=
  if 255 < length then 0x01 :: writeInt length else [UInt8.ofNat length]

structure Serialized where
  rc : Int
  written : Bytes
  deriving DecidableEq, Repr

def wire (type : UInt8) (length : Nat) (body : Bytes) : Bytes :=
  snPacketEncode (snPacketLen length) ++ type :: body

def serialize (buflen : Nat) (type : UInt8) (length : Nat) (body : Bytes) : Serialized :=
  if buflen < snPacketLen length then ⟨MQTTSNPACKET_BUFFER_TOO_SHORT, []⟩
  else ⟨(wire type length body).length, wire type length body⟩

def TopicType.bits : TopicType → Nat
  | .normal => 0
  | .predefined => 1
  | .short => 2
  | .reserved => 3

theorem TopicType.bits_lt (type : TopicType) : type.bits < 4 := by
  cases type <;> decide

def TopicData.longField : TopicData → Bytes
  | .long name _ => name.bytes
  | _ => []

namespace SNPublish

def flags (packet : SNPublish) : UInt8 :=
  UInt8.ofNat (packet.topic.type.bits + 16 * packet.retained.toNat + 32 * packet.qos.toInt +
    128 * packet.dup.toNat)

def longTopic (packet : SNPublish) : Bytes :=
  if packet.topic.type = .normal ∧ packet.qos = .reserved then packet.topic.data.longField else []

def topicField (packet : SNPublish) : Bytes :=
  if packet.topic.type = .normal ∧ packet.qos = .reserved then
    writeInt packet.topic.data.longField.length
  else if packet.topic.type = .normal ∨ packet.topic.type = .predefined then
    writeInt packet.topic.data.idField.toNat
  else packet.topic.data.shortField

def length (packet : SNPublish) : Nat := packet.payload.length + (6 + packet.longTopic.length)

def body (packet : SNPublish) : Bytes :=
  packet.flags :: (packet.topicField ++ writeInt packet.msgId.toNat ++ packet.longTopic ++
    packet.payload)

end SNPublish

namespace SNRegister

def length (packet : SNRegister) : Nat := packet.topicName.bytes.length + 5

def body (packet : SNRegister) : Bytes :=
  writeInt packet.topicId.toNat ++ writeInt packet.msgId.toNat ++ packet.topicName.bytes

end SNRegister

def serializePublish (buflen : Nat) (packet : SNPublish) : Serialized :=
  serialize buflen MQTTSN_PUBLISH packet.length packet.body

def serializeRegister (buflen : Nat) (packet : SNRegister) : Serialized :=
  serialize buflen MQTTSN_REGISTER packet.length packet.body

def desirialize (stack : Nat → UInt8) (serialized : Serialized) : Bytes :=
  (List.range (serialized.rc % 65536).toNat).map fun i => serialized.written.getD i (stack i)

namespace MQTTSNPacket

def serialized : MQTTSNPacket → Option Serialized
  | .publish (some packet) => some (serializePublish MQTTSNGW_MAX_PACKET_SIZE packet)
  | .register (some packet) => some (serializeRegister MQTTSNGW_MAX_PACKET_SIZE packet)
  | _ => none

def wire : MQTTSNPacket → Option Bytes
  | .publish (some packet) => some (MQTTSNGW.wire MQTTSN_PUBLISH packet.length packet.body)
  | .register (some packet) => some (MQTTSNGW.wire MQTTSN_REGISTER packet.length packet.body)
  | _ => none

end MQTTSNPacket

def MQTTGWPacket.getPacketData (packet : MQTTGWPacket) : Bytes :=
  packet.header :: (packetEncode packet.remainingLength.toNat ++
    packet.data.take packet.remainingLength.toNat)

section Sizes

theorem wire_length {type : UInt8} {length : Nat} {body : Bytes} (h : body.length + 1 = length) :
    (wire type length body).length ≤ MQTTSNGW_MAX_PACKET_SIZE ↔
      snPacketLen length ≤ MQTTSNGW_MAX_PACKET_SIZE := by
  simp only [MQTTSNGW_MAX_PACKET_SIZE, wire, snPacketEncode, snPacketLen, List.length_append,
    List.length_cons]
  split_ifs <;> simp only [List.length_cons, List.length_nil, writeInt_length] <;> omega

theorem snPacketLen_le {length : Nat} :
    snPacketLen length ≤ MQTTSNGW_MAX_PACKET_SIZE ↔ length ≤ 1021 := by
  simp only [MQTTSNGW_MAX_PACKET_SIZE, snPacketLen]
  split_ifs <;> omega

theorem topicField_length (packet : SNPublish) : packet.topicField.length = 2 := by
  unfold SNPublish.topicField
  split_ifs
  · exact writeInt_length _
  · exact writeInt_length _
  · cases packet.topic.data <;> rfl

theorem publish_body_length (packet : SNPublish) : packet.body.length + 1 = packet.length := by
  simp only [SNPublish.body, SNPublish.length, List.length_cons, List.length_append,
    topicField_length, writeInt_length]
  omega

theorem register_body_length (packet : SNRegister) : packet.body.length + 1 = packet.length := by
  simp only [SNRegister.body, SNRegister.length, List.length_append, writeInt_length]
  omega

theorem desirialize_written (stack : Nat → UInt8) {bytes : Bytes} (h : bytes.length < 65536) :
    desirialize stack ⟨bytes.length, bytes⟩ = bytes := by
  have hlen : ((bytes.length : Int) % 65536).toNat = bytes.length := by omega
  simp only [desirialize, hlen]
  refine List.ext_getElem (by simp) ?_
  intro i hi hbytes
  simp [List.getElem?_eq_getElem hbytes]

theorem desirialize_tooShort (stack : Nat → UInt8) :
    (desirialize stack ⟨MQTTSNPACKET_BUFFER_TOO_SHORT, []⟩).length = 65534 := by
  simp only [desirialize, List.length_map, List.length_range]
  rfl

theorem getPacketData_length {packet : MQTTGWPacket} {size : Nat}
    (hlen : packet.remainingLength = size) (hdata : size ≤ packet.data.length) :
    packet.getPacketData.length ≤ MQTTSNGW_MAX_PACKET_SIZE ↔ size ≤ 1021 := by
  have hsize : packet.remainingLength.toNat = size := by omega
  simp only [MQTTSNGW_MAX_PACKET_SIZE, MQTTGWPacket.getPacketData, hsize, packetEncode,
    List.length_cons, List.length_append, List.length_take, Nat.min_eq_left hdata]
  rcases Nat.lt_or_ge size 128 with hsmall | hlarge
  · rw [Base128.encode_small hsmall, List.length_singleton]
    omega
  rw [Base128.encode_step hlarge, List.length_cons]
  rcases Nat.lt_or_ge (size / 128) 128 with hsmall | hlarge'
  · rw [Base128.encode_small hsmall, List.length_singleton]
    omega
  · omega

end Sizes

end MbedMqtt.MQTTSNGW
