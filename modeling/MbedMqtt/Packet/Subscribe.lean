import MbedMqtt.Packet.Publish

namespace MbedMqtt

def subscribeLength (topicFilters : List MQTTString) : Nat :=
  topicFilters.foldl (fun len t => len + (2 + mqttstrlen t + 1)) 2

def serializeSubscribe (buflen dup packetid : Nat) (topicFilters : List MQTTString)
    (requestedQoSs : List Nat) : Int × Bytes :=
  let remLen := subscribeLength topicFilters
  if buflen < packetLen remLen then (MQTTPACKET_BUFFER_TOO_SHORT, [])
  else
    let packet := headerByte SUBSCRIBE dup 1 0 :: packetEncode remLen ++ writeInt packetid ++
      (topicFilters.zip requestedQoSs).flatMap
        (fun tq => writeMQTTString tq.1 ++ [UInt8.ofNat tq.2])
    (packet.length, packet)

theorem serializeSubscribe_serializes (buflen dup packetid : Nat) (topicFilters : List MQTTString)
    (requestedQoSs : List Nat) :
    Serializes (serializeSubscribe buflen dup packetid topicFilters requestedQoSs) SUBSCRIBE :=
  serializes_short SUBSCRIBE _ (headerType_headerByte ..) rfl

def unsubscribeLength (topicFilters : List MQTTString) : Nat :=
  topicFilters.foldl (fun len t => len + (2 + mqttstrlen t)) 2

def serializeUnsubscribe (buflen dup packetid : Nat) (topicFilters : List MQTTString) :
    Int × Bytes :=
  let remLen := unsubscribeLength topicFilters
  if buflen < packetLen remLen then (MQTTPACKET_BUFFER_TOO_SHORT, [])
  else
    let packet := headerByte UNSUBSCRIBE dup 1 0 :: packetEncode remLen ++ writeInt packetid ++
      topicFilters.flatMap writeMQTTString
    (packet.length, packet)

theorem serializeUnsubscribe_serializes (buflen dup packetid : Nat)
    (topicFilters : List MQTTString) :
    Serializes (serializeUnsubscribe buflen dup packetid topicFilters) UNSUBSCRIBE :=
  serializes_short UNSUBSCRIBE _ (headerType_headerByte ..) rfl

structure SubackFields where
  packetid : Nat
  grantedQoSs : List Int
  deriving DecidableEq, Repr

def subackLoop (charSigned : Bool) (maxcount : Nat) (buf : Bytes) (enddata : Nat) :
    Nat → Nat → List Int → Int × List Int
  | 0, _, granted => (1, granted)
  | fuel + 1, curdata, granted =>
      if curdata < enddata then
        if maxcount < granted.length then (-1, granted)
        else subackLoop charSigned maxcount buf enddata fuel (curdata + 1)
          (granted ++ [readChar charSigned (byteAt buf curdata)])
      else (1, granted)

def deserializeSuback (charSigned : Bool) (maxcount : Nat) (fields : SubackFields) (buf : Bytes) :
    Int × SubackFields :=
  let header := byteAt buf 0
  if headerType header ≠ SUBACK then (0, fields)
  else
    let (rc, mylen) := decodeBuf buf 1
    if mylen < 2 then (rc, fields)
    else
      let curdata := 1 + rc
      let (rc, granted) := subackLoop charSigned maxcount buf (curdata + mylen) mylen (curdata + 2) []
      (rc, ⟨readInt buf curdata, granted⟩)

def deserializeUnsuback (packetid : Nat) (buf : Bytes) : Int × Nat :=
  let (rc, ack) := deserializeAck packetid buf
  (if ack.packettype = UNSUBACK then 1 else rc, ack.packetid)

end MbedMqtt
