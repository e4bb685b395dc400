import MbedMqtt.SNPacket.Connect
import MbedMqtt.SNPacket.Search
import MbedMqtt.SNPacket.Subscribe

namespace MbedMqtt.MQTTSN

open MQTTSNGW

inductive AckType where
  | pubrec
  | pubrel
  | pubcomp
  deriving DecidableEq, Repr

def AckType.type : AckType → UInt8
  | pubrec => MQTTSN_PUBREC
  | pubrel => MQTTSN_PUBREL
  | pubcomp => MQTTSN_PUBCOMP

inductive ShortPacket where
  | register (topicid packetid : UInt16) (topicname : {s : MQTTString // s.Single})
  | regack (topicid packetid : UInt16) (returnCode : UInt8)
  | puback (topicid packetid : UInt16) (returncode : UInt8)
  | suback (qos : QoS) (topicid packetid : UInt16) (returncode : UInt8)
  | unsubscribe (packetid : UInt16) (topicFilter : {topic : TopicId // IsFilter topic})
  | unsuback (packetid : UInt16)
  | ack (type : AckType) (packetid : UInt16)
  | advertise (gatewayid : UInt8) (duration : UInt16)
  | searchgw (radius : UInt8)
  | gwinfo (gatewayid : UInt8) (gatewayaddress : GatewayAddress)
  | willtopic (willQoS : QoS) (willRetain : Bool) (willTopic : Bytes)
  | willtopicupd (willQoS : QoS) (willRetain : Bool) (willTopic : Bytes)
  | willmsg (willMsg : Bytes)
  | willmsgupd (willMsg : Bytes)

namespace ShortPacket

def serialize (buflen : Nat) : ShortPacket → Serialized
  | register topicid packetid topicname => serializeRegister buflen topicid packetid topicname
  | regack topicid packetid returnCode => serializeRegack buflen topicid packetid returnCode
  | puback topicid packetid returncode => serializePuback buflen topicid packetid returncode
  | suback qos topicid packetid returncode =>
    serializeSuback buflen qos.toInt topicid packetid returncode
  | unsubscribe packetid topicFilter => serializeUnsubscribe buflen packetid topicFilter
  | unsuback packetid => serializeUnsuback buflen packetid
  | ack .pubrec packetid => serializePubrec buflen packetid
  | ack .pubrel packetid => serializePubrel buflen packetid
  | ack .pubcomp packetid => serializePubcomp buflen packetid
  | advertise gatewayid duration => serializeAdvertise buflen gatewayid duration
  | searchgw radius => serializeSearchgw buflen radius
  | gwinfo gatewayid gatewayaddress => serializeGwinfo buflen gatewayid gatewayaddress
  | willtopic willQoS willRetain willTopic =>
    serializeWilltopic buflen willQoS.toInt willRetain.toNat (.ofLenString willTopic)
  | willtopicupd willQoS willRetain willTopic =>
    serializeWilltopicupd buflen willQoS.toInt willRetain.toNat (.ofLenString willTopic)
  | willmsg willMsg => serializeWillmsg buflen (.ofLenString willMsg)
  | willmsgupd willMsg => serializeWillmsgupd buflen (.ofLenString willMsg)

-- `cstring` is what the reader's string held before the call
def Returned (mem : Int → UInt8) (cstring : Option Bytes) (len : Int) : ShortPacket → Prop
  | register topicid packetid topicname =>
    Returns mem (RegisterFields.map (Slice.items mem))
      ⟨topicid.toNat, packetid.toNat, some topicname.val.text⟩ (deserializeRegister len)
  | regack topicid packetid returnCode =>
    Returns mem id ⟨topicid.toNat, packetid.toNat, returnCode⟩ (deserializeRegack len)
  | puback topicid packetid returncode =>
    Returns mem id ⟨topicid.toNat, packetid.toNat, returncode⟩ (deserializePuback len)
  | suback qos topicid packetid returncode =>
    Returns mem id ⟨qos.toInt, topicid.toNat, packetid.toNat, returncode⟩ (deserializeSuback len)
  | unsubscribe packetid topicFilter =>
    Returns mem (UnsubscribeFields.map (Slice.items mem))
      ⟨packetid.toNat, topicFilter.val.type, topicView topicFilter⟩ (deserializeUnsubscribe len)
  | unsuback packetid => Returns mem id packetid.toNat (deserializeUnsuback len)
  | ack type packetid => Returns mem id ⟨type.type, packetid.toNat⟩ (deserializeAck len)
  | advertise gatewayid duration =>
    Returns mem id ⟨gatewayid, duration.toNat⟩ (deserializeAdvertise len)
  | searchgw radius => Returns mem id radius (deserializeSearchgw len)
  | gwinfo gatewayid gatewayaddress =>
    Returns mem (GwinfoFields.map (Slice.items mem)) ⟨gatewayid, some gatewayaddress.bytes⟩
      (deserializeGwinfo len)
  | willtopic willQoS willRetain willTopic =>
    Returns mem (WilltopicFields.map (readBytes mem))
      ⟨willQoS.toInt, willRetain.toNat, some willTopic⟩ (deserializeWilltopic cstring len)
  | willtopicupd willQoS willRetain willTopic =>
    Returns mem (WilltopicFields.map (readBytes mem))
      ⟨willQoS.toInt, willRetain.toNat, some willTopic⟩ (deserializeWilltopicupd cstring len)
  | willmsg willMsg => Returns mem (readBytes mem) (some willMsg) (deserializeWillmsg cstring len)
  | willmsgupd willMsg => Returns mem (readBytes mem) (some willMsg) (deserializeWillmsgupd cstring len)

def type : ShortPacket → UInt8
  | register .. => MQTTSN_REGISTER
  | regack .. => MQTTSN_REGACK
  | puback .. => MQTTSN_PUBACK
  | suback .. => MQTTSN_SUBACK
  | unsubscribe .. => MQTTSN_UNSUBSCRIBE
  | unsuback .. => MQTTSN_UNSUBACK
  | ack type _ => type.type
  | advertise .. => MQTTSN_ADVERTISE
  | searchgw .. => MQTTSN_SEARCHGW
  | gwinfo .. => MQTTSN_GWINFO
  | willtopic .. => MQTTSN_WILLTOPIC
  | willtopicupd .. => MQTTSN_WILLTOPICUPD
  | willmsg .. => MQTTSN_WILLMSG
  | willmsgupd .. => MQTTSN_WILLMSGUPD

def body : ShortPacket → Bytes
  | register topicid packetid topicname =>
    writeInt topicid.toNat ++ writeInt packetid.toNat ++ topicname.val.text
  | regack topicid packetid returncode => topicAckBody topicid packetid returncode
  | puback topicid packetid returncode => topicAckBody topicid packetid returncode
  | suback qos topicid packetid returncode =>
    flagsByte 0 0 0 0 qos.toInt 0 :: topicAckBody topicid packetid returncode
  | unsubscribe packetid topicFilter =>
    flagsByte topicFilter.val.type.bits 0 0 0 0 0 ::
      (writeInt packetid.toNat ++ topicFilterBytes topicFilter)
  | unsuback packetid => writeInt packetid.toNat
  | ack _ packetid => writeInt packetid.toNat
  | advertise gatewayid duration => gatewayid :: writeInt duration.toNat
  | searchgw radius => [radius]
  | gwinfo gatewayid gatewayaddress => gatewayid :: gatewayaddress.bytes
  | willtopic willQoS willRetain willTopic =>
    flagsByte 0 0 0 willRetain.toNat willQoS.toInt 0 :: willTopic
  | willtopicupd willQoS willRetain willTopic =>
    flagsByte 0 0 0 willRetain.toNat willQoS.toInt 0 :: willTopic
  | willmsg willMsg => willMsg
  | willmsgupd willMsg => willMsg

theorem register_length (topicname : {s : MQTTString // s.Single}) :
    mqttsnstrlen topicname = topicname.val.text.length := topicname.property.strlen

theorem serialize_body (buflen : Nat) (packet : ShortPacket) :
    packet.serialize buflen =
      MQTTSNGW.serialize buflen packet.type (packet.body.length + 1) packet.body := by
  cases packet with
  | register topicid packetid topicname =>
    simp only [serialize, serializeRegister, register_length, type, body, List.length_append,
      writeInt_length]
    congr 1
    omega
  | unsubscribe packetid topicFilter =>
    simp only [serialize, serializeUnsubscribe, ← topicFilter_length topicFilter.property, type,
      body, List.length_cons, List.length_append, writeInt_length]
    congr 1
    omega
  | gwinfo gatewayid gatewayaddress =>
    simp only [serialize, serializeGwinfo, serializeGwinfo_body, type, body, List.length_cons,
      GatewayAddress.bytes_length]
    congr 1
    omega
  | ack type packetid => cases type <;> rfl
  | willtopic willQoS willRetain willTopic =>
    simp only [serialize, serializeWilltopic, serializeWilltopic1, mqttsnstrlen_ofLenString,
      writeMQTTSNString_ofLenString, type, body, List.length_cons]
  | willtopicupd willQoS willRetain willTopic =>
    simp only [serialize, serializeWilltopicupd, serializeWilltopic1, mqttsnstrlen_ofLenString,
      writeMQTTSNString_ofLenString, type, body, List.length_cons]
  | willmsg willMsg =>
    simp only [serialize, serializeWillmsg, serializeWillmsg1, mqttsnstrlen_ofLenString,
      writeMQTTSNString_ofLenString, type, body]
  | willmsgupd willMsg =>
    simp only [serialize, serializeWillmsgupd, serializeWillmsg1, mqttsnstrlen_ofLenString,
      writeMQTTSNString_ofLenString, type, body]
  | regack | puback | suback | unsuback | advertise | searchgw => rfl

variable {mem : Int → UInt8}

theorem returned_of_framed {packet : ShortPacket} (cstring : Option Bytes)
    (hlen : packet.body.length < 65536)
    (h : Framed mem packet.type packet.body 1 (packet.body.length + 2)) :
    packet.Returned mem cstring (packet.body.length + 2) := by
  have hone : (1 : Int) ≤ packet.body.length + 2 := by omega
  have hadmits : withinBuflen ⟨1, packet.body.length + 2⟩ (packet.body.length + 2) = true := by
    simp only [withinBuflen, decide_eq_true_eq]
    omega
  have hends : endsInside ⟨1, packet.body.length + 2⟩ (packet.body.length + 2) = true :=
    decide_eq_true (Int.le_refl _)
  have hbody : LaidOut mem 2 packet.body := h.body
  cases packet with
  | register topicid packetid topicname =>
    refine h.returns hone hadmits rfl (readRegister_laidOut _ hbody ?_)
    simp only [body, List.length_append, writeInt_length]
    omega
  | regack topicid packetid returncode | puback topicid packetid returncode =>
    refine h.returns hone hadmits rfl ?_
    exact congrArg (Option.map id) (readTopicAck_laidOut _ _ hbody)
  | suback qos topicid packetid returncode =>
    refine h.returns hone hadmits rfl ?_
    exact congrArg (Option.map id) (readSuback_laidOut _ hbody)
  | unsubscribe packetid topicFilter =>
    refine h.returns hone hadmits rfl (readUnsubscribe_laidOut _ topicFilter.property hbody ?_)
    simp only [body, List.length_cons, List.length_append, writeInt_length]
    omega
  | unsuback packetid =>
    refine h.returns hone hadmits rfl ?_
    exact congrArg (some ∘ id) (readInt_uint16 hbody)
  | ack type packetid =>
    have hexpected : isAck type.type = true := by cases type <;> rfl
    refine h.returns hone hadmits hexpected ?_
    exact congrArg (Option.map id) (readAck_laidOut _ _ hbody)
  | advertise gatewayid duration =>
    refine h.returns hone hadmits rfl ?_
    exact congrArg (Option.map id) (readAdvertise_laidOut _ hbody)
  | searchgw radius =>
    refine h.returns hone hadmits rfl ?_
    exact congrArg some (LaidOut.cons.mp hbody).1
  | gwinfo gatewayid gatewayaddress =>
    refine h.returns hone hadmits rfl (readGwinfo_laidOut _ hbody ?_ ?_)
    · simp only [body, List.length_cons]
      omega
    · simp only [body, List.length_cons] at hlen
      omega
  | willtopic willQoS willRetain willTopic | willtopicupd willQoS willRetain willTopic =>
    refine h.returns hone hends rfl (readWilltopic1_laidOut _ hbody ?_)
    simp only [body, List.length_cons]
    omega
  | willmsg willMsg | willmsgupd willMsg =>
    refine h.returns hone hends rfl (readString_laidOut _ hbody ?_)
    simp only [body]
    omega

theorem serialize_returned (packet : ShortPacket) (buflen : Nat) (cstring : Option Bytes)
    (hshort : buflen ≤ 255) (hpos : 0 < (packet.serialize buflen).rc)
    (hmem : LaidOut mem 0 (packet.serialize buflen).written) :
    (packet.serialize buflen).rc ≤ buflen ∧ (mem 0).toNat = (packet.serialize buflen).rc ∧
      packet.Returned mem cstring (packet.serialize buflen).rc := by
  rw [serialize_body, MQTTSNGW.serialize] at hpos hmem ⊢
  split_ifs at hpos hmem ⊢ with hfit
  · exact absurd hpos (by decide)
  have hsize : snPacketLen (packet.body.length + 1) = packet.body.length + 2 ∧
      packet.body.length + 2 ≤ 255 := by
    rw [snPacketLen] at hfit ⊢
    split_ifs at hfit ⊢ <;> omega
  have hone : lengthSize (packet.body.length + 1) = 1 := if_neg (by omega)
  have hrc : ((wire packet.type (packet.body.length + 1) packet.body).length : Int) =
      packet.body.length + 2 := by
    rw [wire_total _ rfl, hone]
    omega
  have hframed := framed_wire (Nat.succ_pos _) (hsize.1.trans_le (hsize.2.trans (by decide))) hmem
  rw [hone, hsize.1] at hframed
  have hfirst : mem 0 = UInt8.ofNat (packet.body.length + 2) := by
    rw [wire, hsize.1, snPacketEncode, if_neg (by omega), List.singleton_append] at hmem
    exact (LaidOut.cons.mp hmem).1
  simp only [hrc, hfirst, UInt8.toNat_ofNat']
  exact ⟨by omega, by omega, returned_of_framed cstring (by omega) hframed⟩

theorem serialize_returned_register :
    let packet := register 1 2 ⟨.ofCString [97, 47, 98], single_ofCString _⟩
    let written := (packet.serialize 255).written
    packet.Returned (memoryOf 0 written) none (packet.serialize 255).rc :=
  (serialize_returned (register 1 2 ⟨.ofCString [97, 47, 98], single_ofCString _⟩) 255 none
    (by decide) (by decide) (laidOut_memoryOf 0 _)).2.2

end ShortPacket

end MbedMqtt.MQTTSN
