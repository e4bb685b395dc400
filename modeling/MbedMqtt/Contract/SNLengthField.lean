import MbedMqtt.SNPacket.Connect
import MbedMqtt.SNPacket.Search
import MbedMqtt.SNPacket.Subscribe

namespace MbedMqtt

def MQTTString.Held (s : MQTTString) : Prop := s.len ≤ (s.data.getD []).length

namespace MQTTSN

open MQTTSNGW

-- `MQTTSNPacket_encode` writes as many bytes as `MQTTSNPacket_len` adds, and
-- `MQTTSNPacket_decode` takes these back
structure LengthFieldAgrees (n : Nat) : Prop where
  encoded : (snPacketEncode (snPacketLen n)).length + n = snPacketLen n
  decoded : ∀ (mem : Int → UInt8) (buflen value : Int),
    LaidOut mem 0 (snPacketEncode (snPacketLen n)) →
      (snPacketEncode (snPacketLen n)).length ≤ buflen →
        (packetDecode buflen value).value mem =
          ⟨(snPacketEncode (snPacketLen n)).length, snPacketLen n⟩

theorem decode_snPacketEncode {mem : Int → UInt8} {total : Nat} {buflen : Int} (value : Int)
    (hmin : 2 ≤ total) (hmax : total ≤ 65535) (hmem : LaidOut mem 0 (snPacketEncode total))
    (hbuflen : (snPacketEncode total).length ≤ buflen) :
    (packetDecode buflen value).value mem = ⟨(snPacketEncode total).length, total⟩ := by
  rw [snPacketEncode] at hmem hbuflen ⊢
  split_ifs at hmem hbuflen ⊢ with hlong
  · obtain ⟨hone, hint⟩ := LaidOut.cons.mp hmem
    rw [Int.zero_add] at hint
    have hsize : lengthFieldSize mem = 3 := if_pos hone
    have hfield : lengthField mem = total := by
      rw [lengthField, if_pos hone, readInt_laidOut hint, Nat.mod_eq_of_lt (by omega)]
    rw [List.length_cons, writeInt_length] at hbuflen ⊢
    rw [packetDecode_value (by omega), hsize, hfield]
    rfl
  · obtain ⟨hone, -⟩ := LaidOut.cons.mp hmem
    have hval : (mem 0).toNat = total := by
      rw [hone, UInt8.toNat_ofNat', Nat.mod_eq_of_lt (by omega)]
    have hne : mem 0 ≠ 1 := by
      intro h
      rw [h] at hval
      simp at hval
      omega
    have hsize : lengthFieldSize mem = 1 := if_neg hne
    have hfield : lengthField mem = total := by rw [lengthField, if_neg hne, hval]
    rw [List.length_singleton] at hbuflen ⊢
    rw [packetDecode_value (by omega), hsize, hfield]
    rfl

theorem lengthField_agrees_iff {n : Nat} (hmin : 1 ≤ n) (hmax : n ≤ 65532) :
    LengthFieldAgrees n ↔ n ≠ 255 := by
  have htotal : (snPacketEncode (snPacketLen n)).length + n = snPacketLen n ↔ n ≠ 255 := by
    rw [snPacketEncode_length]
    exact total_eq_snPacketLen n
  have hbounds : 2 ≤ snPacketLen n ∧ snPacketLen n ≤ 65535 := by
    rw [snPacketLen]
    split_ifs <;> omega
  constructor
  · intro h
    exact htotal.mp h.encoded
  · intro hne
    exact ⟨htotal.mpr hne, fun _ _ value hmem hbuflen =>
      decode_snPacketEncode value hbounds.1 hbounds.2 hmem hbuflen⟩

inductive SerializerCall where
  | connect (options : ConnectData) (held : options.clientID.Held)
  | connack (connackRc : UInt8)
  | willtopicreq
  | willtopic1 (willQoS willRetain : Nat) (willTopic : MQTTString) (packetType : UInt8)
      (held : willTopic.Held)
  | willmsgreq
  | willmsg1 (willMsg : MQTTString) (packetType : UInt8) (held : willMsg.Held)
  | register (topicid packetid : UInt16) (topicname : MQTTString) (held : topicname.Held)
  | regack (topicid packetid : UInt16) (returnCode : UInt8)
  | publish (packet : SNPublish)
  | puback (topicid packetid : UInt16) (returncode : UInt8)
  | ack (packetType : UInt8) (packetid : UInt16)
  | subscribe (packet : SNSubscribe)
  | suback (qos : Nat) (topicid packetid : UInt16) (returncode : UInt8)
  | unsubscribe (packetid : UInt16) (topicFilter : TopicId)
  | unsuback (packetid : UInt16)
  | pingreq (clientid : MQTTString) (held : clientid.Held)
  | pingresp
  | disconnect (duration : Int)
  | willtopicresp (respRc : UInt8)
  | willmsgresp (respRc : UInt8)
  | advertise (gatewayid : UInt8) (duration : UInt16)
  | searchgw (radius : UInt8)
  | gwinfo (gatewayid : UInt8) (gatewayaddress : GatewayAddress)

namespace SerializerCall

def run (buflen : Nat) : SerializerCall → Serialized
  | .connect options _ => serializeConnect buflen options
  | .connack connackRc => serializeConnack buflen connackRc
  | .willtopicreq => serializeWilltopicreq buflen
  | .willtopic1 willQoS willRetain willTopic packetType _ =>
      serializeWilltopic1 buflen willQoS willRetain willTopic packetType
  | .willmsgreq => serializeWillmsgreq buflen
  | .willmsg1 willMsg packetType _ => serializeWillmsg1 buflen willMsg packetType
  | .register topicid packetid topicname _ => serializeRegister buflen topicid packetid topicname
  | .regack topicid packetid returnCode => serializeRegack buflen topicid packetid returnCode
  | .publish packet => MQTTSNGW.serializePublish buflen packet
  | .puback topicid packetid returncode => serializePuback buflen topicid packetid returncode
  | .ack packetType packetid => serializeAck buflen packetType packetid
  | .subscribe packet => serializeSubscribe buflen packet
  | .suback qos topicid packetid returncode =>
      serializeSuback buflen qos topicid packetid returncode
  | .unsubscribe packetid topicFilter => serializeUnsubscribe buflen packetid topicFilter
  | .unsuback packetid => serializeUnsuback buflen packetid
  | .pingreq clientid _ => serializePingreq buflen clientid
  | .pingresp => serializePingresp buflen
  | .disconnect duration => serializeDisconnect buflen duration
  | .willtopicresp respRc => serializeWilltopicresp buflen respRc
  | .willmsgresp respRc => serializeWillmsgresp buflen respRc
  | .advertise gatewayid duration => serializeAdvertise buflen gatewayid duration
  | .searchgw radius => serializeSearchgw buflen radius
  | .gwinfo gatewayid gatewayaddress => serializeGwinfo buflen gatewayid gatewayaddress

-- the length that the call hands to `MQTTSNPacket_len`
def length : SerializerCall → Nat
  | .connect options _ => 5 + mqttsnstrlen options.clientID
  | .willtopic1 _ _ willTopic _ _ => mqttsnstrlen willTopic + 2
  | .willmsg1 willMsg _ _ => mqttsnstrlen willMsg + 1
  | .register _ _ topicname _ => mqttsnstrlen topicname + 5
  | .publish packet => packet.length
  | .subscribe packet => topicFilterLength packet.topicFilter
  | .unsubscribe _ topicFilter => topicFilterLength topicFilter
  | .pingreq clientid _ => mqttsnstrlen clientid + 1
  | .disconnect duration => serializeDisconnectLength duration
  | .gwinfo _ gatewayaddress => 2 + gatewayaddress.len.toNat
  | .connack _ | .willtopicresp _ | .willmsgresp _ | .searchgw _ => 2
  | .willtopicreq | .willmsgreq | .pingresp => 1
  | .regack _ _ _ | .puback _ _ _ => 6
  | .ack _ _ | .unsuback _ => 3
  | .suback _ _ _ _ => 7
  | .advertise _ _ => 4

end SerializerCall

-- what `writeMQTTSNString` writes beyond the bytes that `MQTTSNstrlen` counts
def stringExcess (s : MQTTString) : Int :=
  match s.cstring with
  | some text => if 0 < s.len then s.len - text.length else 2
  | none => 0

def SerializerCall.excess : SerializerCall → Int
  | .connect options _ => stringExcess options.clientID
  | .willtopic1 _ _ willTopic _ _ => stringExcess willTopic
  | .willmsg1 willMsg _ _ => stringExcess willMsg
  | .pingreq clientid _ => stringExcess clientid
  | _ => 0

theorem writeMQTTSNString_length {s : MQTTString} (h : s.Held) :
    ((writeMQTTSNString s).length : Int) = mqttsnstrlen s + stringExcess s := by
  obtain ⟨cstring, len, data⟩ := s
  simp only [MQTTString.Held] at h
  cases cstring with
  | some text =>
    simp only [writeMQTTSNString, mqttsnstrlen, stringExcess]
    split_ifs
    · rw [List.length_take_of_le h]
      omega
    · rw [writeCString, List.length_append, writeInt_length]
      omega
  | none =>
    simp only [writeMQTTSNString, mqttsnstrlen, stringExcess]
    split_ifs
    · rw [List.length_take_of_le h]
      omega
    · rw [List.length_nil]
      omega

theorem text_length {s : MQTTString} (h : s.Held) : s.text.length = mqttsnstrlen s := by
  obtain ⟨cstring, len, data⟩ := s
  cases cstring with
  | some text => rfl
  | none => exact List.length_take_of_le h

theorem topicFilterBytes_length (topicFilter : TopicId) :
    3 + (topicFilterBytes topicFilter).length + 1 = topicFilterLength topicFilter := by
  rw [topicFilterBytes, topicFilterLength]
  cases topicFilter.type with
  | normal => simp only; omega
  | predefined => simp only [writeInt_length]
  | short => cases topicFilter.data <;> rfl
  | reserved => rfl

structure Writes (buflen : Nat) (call : SerializerCall) (type : UInt8) (body : Bytes) : Prop where
  run : call.run buflen = serialize buflen type call.length body
  length : (body.length : Int) + 1 = call.length + call.excess

theorem call_writes (buflen : Nat) (call : SerializerCall) :
    ∃ type body, Writes buflen call type body := by
  cases call with
  | connect options held =>
    have htext := writeMQTTSNString_length held
    refine ⟨_, _, rfl, ?_⟩
    simp only [SerializerCall.length, SerializerCall.excess, List.length_cons, List.length_append,
      writeInt_length]
    omega
  | willtopic1 willQoS willRetain willTopic packetType held =>
    have htext := writeMQTTSNString_length held
    refine ⟨_, _, rfl, ?_⟩
    simp only [SerializerCall.length, SerializerCall.excess, List.length_cons]
    omega
  | willmsg1 willMsg packetType held =>
    have htext := writeMQTTSNString_length held
    refine ⟨_, _, rfl, ?_⟩
    simp only [SerializerCall.length, SerializerCall.excess]
    omega
  | pingreq clientid held =>
    have htext := writeMQTTSNString_length held
    refine ⟨_, _, rfl, ?_⟩
    simp only [SerializerCall.length, SerializerCall.excess]
    omega
  | register topicid packetid topicname held =>
    have htext := text_length held
    refine ⟨_, _, rfl, ?_⟩
    simp only [SerializerCall.length, SerializerCall.excess, List.length_append, writeInt_length]
    omega
  | publish packet =>
    have hbody := publish_body_length packet
    refine ⟨_, _, rfl, ?_⟩
    simp only [SerializerCall.length, SerializerCall.excess]
    omega
  | subscribe packet =>
    have hfilter := topicFilterBytes_length packet.topicFilter
    refine ⟨_, _, rfl, ?_⟩
    simp only [SerializerCall.length, SerializerCall.excess, List.length_cons, List.length_append,
      writeInt_length]
    omega
  | unsubscribe packetid topicFilter =>
    have hfilter := topicFilterBytes_length topicFilter
    refine ⟨_, _, rfl, ?_⟩
    simp only [SerializerCall.length, SerializerCall.excess, List.length_cons, List.length_append,
      writeInt_length]
    omega
  | gwinfo gatewayid gatewayaddress =>
    refine ⟨_, _, rfl, ?_⟩
    simp only [SerializerCall.length, SerializerCall.excess, List.length_cons,
      serializeGwinfo_body, GatewayAddress.bytes_length]
    omega
  | disconnect duration =>
    refine ⟨_, _, rfl, ?_⟩
    simp only [SerializerCall.length, SerializerCall.excess, serializeDisconnectLength]
    split_ifs <;> rfl
  | connack _ | willtopicresp _ | willmsgresp _ | searchgw _ => exact ⟨_, _, rfl, rfl⟩
  | willtopicreq | willmsgreq | pingresp => exact ⟨_, _, rfl, rfl⟩
  | regack _ _ _ | puback _ _ _ | ack _ _ | unsuback _ => exact ⟨_, _, rfl, rfl⟩
  | suback _ _ _ _ | advertise _ _ => exact ⟨_, _, rfl, rfl⟩

-- what a call returns when it kept to the size that it checked its buffer for
def Exact (buflen total : Nat) (r : Serialized) : Prop :=
  r.rc = MQTTSNPACKET_BUFFER_TOO_SHORT ∨
    r.rc = total ∧ r.written.length = total ∧ total ≤ buflen

theorem serialize_exact_iff (buflen : Nat) (type : UInt8) {length : Nat} {body : Bytes}
    {excess : Int} (hbody : (body.length : Int) + 1 = length + excess) :
    Exact buflen (snPacketLen length) (serialize buflen type length body) ↔
      buflen < snPacketLen length ∨ excess = if length = 255 then -2 else 0 := by
  have htotal : ((wire type length body).length : Int) = lengthSize length + length + excess := by
    rw [wire, List.length_append, snPacketEncode_length, List.length_cons]
    omega
  have hfits : (wire type length body).length = snPacketLen length ↔
      excess = if length = 255 then -2 else 0 := by
    have hcast : (wire type length body).length = snPacketLen length ↔
        ((wire type length body).length : Int) = snPacketLen length := by omega
    rw [hcast, htotal, lengthSize, snPacketLen]
    split_ifs <;> omega
  rw [serialize, Exact]
  by_cases hshort : buflen < snPacketLen length
  · rw [if_pos hshort]
    exact iff_of_true (Or.inl rfl) (Or.inl hshort)
  · rw [if_neg hshort]
    have hrc : ((wire type length body).length : Int) ≠ MQTTSNPACKET_BUFFER_TOO_SHORT := by
      simp only [MQTTSNPACKET_BUFFER_TOO_SHORT]
      omega
    constructor
    · rintro (h | ⟨-, hwritten, -⟩)
      · exact absurd h hrc
      · exact Or.inr (hfits.mp hwritten)
    · rintro (h | h)
      · exact absurd h hshort
      · have hwritten := hfits.mpr h
        exact Or.inr ⟨congrArg Nat.cast hwritten, hwritten, Nat.not_lt.mp hshort⟩

theorem length_field_consistent_iff (buflen : Nat) :
    (∀ n : Nat, 1 ≤ n → n ≤ 65532 → (LengthFieldAgrees n ↔ n ≠ 255)) ∧
    ∀ call : SerializerCall,
      Exact buflen (snPacketLen call.length) (call.run buflen) ↔
        buflen < snPacketLen call.length ∨
          call.excess = if call.length = 255 then -2 else 0 := by
  refine ⟨fun n hmin hmax => lengthField_agrees_iff hmin hmax, ?_⟩
  intro call
  obtain ⟨type, body, hwrites⟩ := call_writes buflen call
  rw [hwrites.run]
  exact serialize_exact_iff buflen type hwrites.length

def payloadOf (size : Nat) : SNPublish :=
  { dup := false, qos := .QOS0, retained := false, msgId := 0, topic := ⟨.predefined, .id 7⟩
    payload := List.replicate size 0 }

theorem payloadOf_length (size : Nat) : (payloadOf size).length = size + 6 := by
  show (List.replicate size (0 : UInt8)).length + 6 = size + 6
  rw [List.length_replicate]

theorem length_field_disagrees :
    snPacketLen 255 = 256 ∧ snPacketEncode 256 = [0x01, 0x01, 0x00] ∧
    (payloadOf 249).length = 255 ∧
    ((SerializerCall.publish (payloadOf 249)).run 256).rc = 258 ∧
    ¬((∀ n : Nat, 1 ≤ n → n ≤ 65532 → LengthFieldAgrees n) ∧
      ∀ (buflen : Nat) (call : SerializerCall),
        Exact buflen (snPacketLen call.length) (call.run buflen)) := by
  have hlength := payloadOf_length 249
  have hrc : ((SerializerCall.publish (payloadOf 249)).run 256).rc = 258 := by
    have hwire := wire_total MQTTSN_PUBLISH (publish_body_length (payloadOf 249))
    rw [hlength] at hwire
    simp only [SerializerCall.run, MQTTSNGW.serializePublish, serialize, hlength]
    exact congrArg Nat.cast hwire
  refine ⟨rfl, rfl, hlength, hrc, ?_⟩
  rintro ⟨-, h⟩
  have hexact := h 256 (.publish (payloadOf 249))
  rw [Exact, hrc, SerializerCall.length, hlength] at hexact
  obtain hshort | ⟨htotal, -⟩ := hexact
  · exact absurd hshort (by decide)
  · exact absurd htotal (by decide)

end MQTTSN

end MbedMqtt
