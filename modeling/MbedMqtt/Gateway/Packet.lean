import MbedMqtt.Gateway.Topic
import MbedMqtt.Packet.Text

namespace MbedMqtt.MQTTSNGW

abbrev MQTTSN_RC_ACCEPTED : Nat := 0
abbrev MQTTSN_RC_REJECTED_CONGESTED : Nat := 1
abbrev MQTTSN_RC_REJECTED_INVALID_TOPIC_ID : Nat := 2
abbrev MQTTSN_RC_NOT_SUPPORTED : Nat := 3

structure Publish where
  header : UInt8
  topic : Bytes
  topiclen : Nat
  msgId : Nat
  payload : Bytes
  payloadlen : Int
  bounded : topiclen < 65536
  deriving DecidableEq, Repr

def Publish.name (pub : Publish) : TopicName where
  bytes := pub.topic.take pub.topiclen
  bounded := Nat.lt_of_le_of_lt (List.length_take_le _ _) pub.bounded

def Publish.qos (pub : Publish) : Nat := headerQoS pub.header

def Publish.body (pub : Publish) : Bytes := pub.payload.take pub.payloadlen.toNat

structure Connect where
  cleanstart : Bool
  will : Bool
  willQoS : QoS
  willRetain : Bool
  password : Bool
  username : Bool
  clientID : Bytes
  willTopic : Bytes
  willMsg : Bytes
  keepAliveTimer : Nat
  version : Nat
  deriving DecidableEq, Repr

def Connect.zero : Connect := ⟨false, false, .QOS0, false, false, false, [], [], [], 0, 0⟩

def Connect.flags (connect : Connect) : UInt8 :=
  UInt8.ofNat (connect.cleanstart.toNat * 2 + connect.will.toNat * 4 + connect.willQoS.toInt * 8 +
    connect.willRetain.toNat * 32 + connect.password.toNat * 64 + connect.username.toNat * 128)

structure MQTTGWPacket where
  header : UInt8
  remainingLength : Int
  data : Bytes
  deriving DecidableEq, Repr

namespace MQTTGWPacket

def getType (packet : MQTTGWPacket) : Nat := headerType packet.header

def getPUBLISH (packet : MQTTGWPacket) : Publish :=
  let topiclen := readInt packet.data 0
  if 0 < headerQoS packet.header then
    { header := packet.header
      topic := packet.data.drop 2
      topiclen := topiclen
      msgId := readInt packet.data (2 + topiclen)
      payload := packet.data.drop (4 + topiclen)
      payloadlen := packet.remainingLength - topiclen - 4
      bounded := readInt_lt packet.data 0 }
  else
    { header := packet.header
      topic := packet.data.drop 2
      topiclen := topiclen
      msgId := 0
      payload := packet.data.drop (2 + topiclen)
      payloadlen := packet.remainingLength - topiclen - 2
      bounded := readInt_lt packet.data 0 }

def getAck (packet : MQTTGWPacket) : UInt16 := UInt16.ofNat (readInt packet.data 0)

def getCONNACK (packet : MQTTGWPacket) : UInt8 := byteAt packet.data 1

def getSUBACK (packet : MQTTGWPacket) : UInt16 × UInt8 :=
  (UInt16.ofNat (readInt packet.data 0), byteAt packet.data 2)

def getMsgId (packet : MQTTGWPacket) : UInt16 :=
  if packet.getType = PUBLISH then UInt16.ofNat packet.getPUBLISH.msgId
  else if packet.getType ∈ [PUBACK, PUBREC, PUBREL, PUBCOMP, SUBSCRIBE, UNSUBSCRIBE, SUBACK, UNSUBACK] then
    UInt16.ofNat (readInt packet.data 0)
  else 0

def setMsgId (packet : MQTTGWPacket) (msgId : UInt16) : MQTTGWPacket :=
  if packet.getType = PUBLISH then
    { packet with
      data := store (store packet.data packet.getPUBLISH.topiclen (writeInt msgId.toNat))
        (packet.getPUBLISH.topiclen + 2) (writeInt msgId.toNat) }
  else if packet.getType ∈ [SUBSCRIBE, UNSUBSCRIBE, PUBACK, PUBREC, PUBREL, PUBCOMP, SUBACK, UNSUBACK] then
    { packet with data := store packet.data 0 (writeInt msgId.toNat) }
  else packet

def setPUBLISH (pub : Publish) : MQTTGWPacket :=
  let header := headerByte PUBLISH (headerDup pub.header) (headerQoS pub.header) (headerRetain pub.header)
  let front := writeInt pub.topiclen ++ pub.topic.take pub.topiclen
  if 0 < headerQoS header then
    ⟨header, 4 + pub.topiclen + pub.payloadlen, front ++ writeInt pub.msgId ++ pub.body⟩
  else ⟨header, 4 + pub.topiclen + pub.payloadlen - 2, front ++ pub.body ++ [0, 0]⟩

def setAck (msgType : Nat) (msgid : UInt16) : MQTTGWPacket :=
  ⟨headerByte msgType 0 (if msgType = PUBREL then 1 else 0) 0, 2, writeInt msgid.toNat⟩

def setHeader (msgType : Nat) : MQTTGWPacket :=
  ⟨if msgType < CONNECT ∨ DISCONNECT < msgType then 0 else headerByte msgType 0 0 0, 0, []⟩

def setSUBSCRIBE (topic : Bytes) (qos : QoS) (msgId : UInt16) : MQTTGWPacket :=
  let topic := cStr topic
  ⟨headerByte SUBSCRIBE 0 1 0, topic.length + 5,
    writeInt msgId.toNat ++ writeCString topic ++ [UInt8.ofNat qos.toInt]⟩

def setUNSUBSCRIBE (topic : Bytes) (msgid : UInt16) : MQTTGWPacket :=
  let topic := cStr topic
  ⟨headerByte UNSUBSCRIBE 0 1 0, topic.length + 4, writeInt msgid.toNat ++ writeCString topic⟩

def protocol : Nat → Bytes
  | 3 => writeCString [0x4d, 0x51, 0x49, 0x73, 0x64, 0x70] ++ [3]
  | _ => writeCString [0x4d, 0x51, 0x54, 0x54] ++ [4]

def setCONNECT (connect : Connect) (username password : Option Bytes) : MQTTGWPacket :=
  let options :=
    (if connect.will then writeCString connect.willTopic ++ writeCString connect.willMsg else []) ++
    (if connect.username then writeCString (username.getD []) else []) ++
    (if connect.password then writeCString (password.getD []) else [])
  let rest := connect.flags :: writeInt connect.keepAliveTimer ++ writeCString connect.clientID ++ options
  let remainingLength := (if connect.version = 3 then 12 else 10) + connect.clientID.length + 2 + options.length
  let data :=
    if connect.version = 3 ∨ connect.version = 4 then protocol connect.version ++ rest
    else List.replicate remainingLength 0
  ⟨headerByte CONNECT 0 0 0, remainingLength, data⟩

section PublishRoundTrip

variable {pub : Publish}

theorem getPUBLISH_topiclen (packet : MQTTGWPacket) :
    packet.getPUBLISH.topiclen = readInt packet.data 0 := by
  simp only [getPUBLISH]
  split
  · rfl
  · rfl

theorem getPUBLISH_topic (packet : MQTTGWPacket) : packet.getPUBLISH.topic = packet.data.drop 2 := by
  simp only [getPUBLISH]
  split
  · rfl
  · rfl

theorem setPUBLISH_header (pub : Publish) :
    (setPUBLISH pub).header =
      headerByte PUBLISH (headerDup pub.header) (headerQoS pub.header) (headerRetain pub.header) := by
  simp only [setPUBLISH]
  split
  · rfl
  · rfl

theorem headerQoS_lt (header : UInt8) : headerQoS header < 4 := Nat.mod_lt _ (by decide)

theorem setPUBLISH_qos (pub : Publish) : headerQoS (setPUBLISH pub).header = headerQoS pub.header := by
  rw [setPUBLISH_header, headerQoS_headerByte, Nat.mod_eq_of_lt (headerQoS_lt pub.header)]

theorem setPUBLISH_retain (pub : Publish) :
    headerRetain (setPUBLISH pub).header = headerRetain pub.header := by
  rw [setPUBLISH_header, headerRetain_headerByte, headerRetain, Nat.mod_mod]

theorem setPUBLISH_getType (pub : Publish) : (setPUBLISH pub).getType = PUBLISH := by
  rw [getType, setPUBLISH_header, headerType_headerByte]
  rfl

def publishFront (pub : Publish) : Bytes := writeInt pub.topiclen ++ pub.topic.take pub.topiclen

theorem setPUBLISH_identified (h : 0 < headerQoS pub.header) :
    (setPUBLISH pub).data = publishFront pub ++ writeInt pub.msgId ++ pub.body ∧
      (setPUBLISH pub).remainingLength = 4 + pub.topiclen + pub.payloadlen := by
  have hqos := setPUBLISH_qos pub
  rw [setPUBLISH_header] at hqos
  simp only [setPUBLISH, hqos, if_pos h, publishFront, and_self]

theorem setPUBLISH_plain (h : ¬0 < headerQoS pub.header) :
    (setPUBLISH pub).data = publishFront pub ++ pub.body ++ [0, 0] ∧
      (setPUBLISH pub).remainingLength = 4 + pub.topiclen + pub.payloadlen - 2 := by
  have hqos := setPUBLISH_qos pub
  rw [setPUBLISH_header] at hqos
  simp only [setPUBLISH, hqos, if_neg h, publishFront, and_self]

theorem setPUBLISH_front (pub : Publish) : LaidAt (setPUBLISH pub).data 0 (publishFront pub) := by
  by_cases h : 0 < headerQoS pub.header
  · rw [(setPUBLISH_identified h).1, List.append_assoc]
    exact List.prefix_append _ _
  · rw [(setPUBLISH_plain h).1, List.append_assoc]
    exact List.prefix_append _ _

theorem setPUBLISH_topiclen (pub : Publish) :
    (setPUBLISH pub).getPUBLISH.topiclen = pub.topiclen := by
  obtain ⟨hlen, -⟩ := LaidAt.append.mp (setPUBLISH_front pub)
  rw [getPUBLISH_topiclen, readInt_laidAt hlen, Nat.mod_eq_of_lt pub.bounded]

theorem setPUBLISH_name (htopic : pub.topiclen ≤ pub.topic.length) :
    (setPUBLISH pub).getPUBLISH.name = pub.name := by
  obtain ⟨-, htext⟩ := LaidAt.append.mp (setPUBLISH_front pub)
  have hslice := htext.slice
  rw [List.length_take_of_le htopic] at hslice
  simp only [Publish.name, setPUBLISH_topiclen, getPUBLISH_topic, TopicName.mk.injEq]
  exact hslice

theorem publishFront_length (htopic : pub.topiclen ≤ pub.topic.length) :
    (publishFront pub).length = 2 + pub.topiclen := by
  rw [publishFront, List.length_append, writeInt_length, List.length_take_of_le htopic]

theorem setPUBLISH_msgId (htopic : pub.topiclen ≤ pub.topic.length) (hmsgId : pub.msgId < 65536)
    (hqos : 0 < headerQoS pub.header) : (setPUBLISH pub).getPUBLISH.msgId = pub.msgId := by
  have hlaid : LaidAt (setPUBLISH pub).data (2 + pub.topiclen) (writeInt pub.msgId) := by
    rw [(setPUBLISH_identified hqos).1, ← publishFront_length htopic]
    exact LaidAt.within _ _ _
  have htopiclen := setPUBLISH_topiclen pub
  rw [getPUBLISH_topiclen] at htopiclen
  simp only [getPUBLISH, setPUBLISH_qos, if_pos hqos, htopiclen]
  rw [readInt_laidAt hlaid, Nat.mod_eq_of_lt hmsgId]

theorem setPUBLISH_body (htopic : pub.topiclen ≤ pub.topic.length)
    (hpayload : pub.payloadlen = pub.payload.length) :
    (setPUBLISH pub).getPUBLISH.body = pub.payload := by
  have htopiclen := setPUBLISH_topiclen pub
  rw [getPUBLISH_topiclen] at htopiclen
  have hbody : pub.body = pub.payload := by
    rw [Publish.body, hpayload, Int.toNat_natCast, List.take_length]
  have hfront := publishFront_length htopic
  by_cases hqos : 0 < headerQoS pub.header
  · obtain ⟨hdata, hlen⟩ := setPUBLISH_identified hqos
    have hstart : (publishFront pub ++ writeInt pub.msgId).length = 4 + pub.topiclen := by
      rw [List.length_append, hfront, writeInt_length]
      omega
    have hsize : ((4 + pub.topiclen + pub.payloadlen : Int) - pub.topiclen - 4).toNat =
        pub.payload.length := by omega
    simp only [Publish.body, getPUBLISH, setPUBLISH_qos, if_pos hqos, htopiclen, hlen, hsize]
    rw [hdata, hbody, ← hstart, List.drop_left, List.take_length]
  · obtain ⟨hdata, hlen⟩ := setPUBLISH_plain hqos
    have hsize : ((4 + pub.topiclen + pub.payloadlen - 2 : Int) - pub.topiclen - 2).toNat =
        pub.payload.length := by omega
    simp only [Publish.body, getPUBLISH, setPUBLISH_qos, if_neg hqos, htopiclen, hlen, hsize]
    rw [hdata, hbody, ← hfront, List.append_assoc, List.drop_left, List.take_left]

end PublishRoundTrip

end MQTTGWPacket

structure SNConnect where
  cleansession : Bool
  willFlag : Bool
  duration : UInt16
  deriving DecidableEq, Repr

structure SNWilltopic where
  qos : QoS
  retain : Bool
  topic : Bytes
  deriving DecidableEq, Repr

structure SNRegister where
  topicId : UInt16
  msgId : UInt16
  topicName : TopicName
  deriving DecidableEq, Repr

structure SNAck where
  topicId : UInt16
  msgId : UInt16
  returnCode : Nat
  deriving DecidableEq, Repr

structure SNPublish where
  dup : Bool
  qos : QoS
  retained : Bool
  msgId : UInt16
  topic : TopicId
  payload : Bytes
  deriving DecidableEq, Repr

structure SNSubscribe where
  dup : Bool
  qos : QoS
  msgId : UInt16
  topicFilter : TopicId
  deriving DecidableEq, Repr

inductive MQTTSNPacket where
  | connect (data : Option SNConnect)
  | connack (returnCode : Nat)
  | willtopicreq
  | willtopic (data : Option SNWilltopic)
  | willmsgreq
  | willmsg (data : Option Bytes)
  | willmsgupd
  | willmsgresp (returnCode : Nat)
  | register (data : Option SNRegister)
  | regack (data : Option SNAck)
  | publish (data : Option SNPublish)
  | puback (data : Option SNAck)
  | pubrec (msgId : Option UInt16)
  | pubrel (msgId : Option UInt16)
  | pubcomp (msgId : Option UInt16)
  | subscribe (data : Option SNSubscribe)
  | suback (qos : Nat) (topicId msgId : UInt16) (returnCode : Nat)
  | unsubscribe (data : Option SNSubscribe)
  | unsuback (msgId : UInt16)
  | pingreq
  | pingresp
  | disconnect (duration : UInt16)
  | unhandled
  deriving DecidableEq, Repr

end MbedMqtt.MQTTSNGW
