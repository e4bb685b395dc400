import Mathlib.Algebra.BigOperators.Group.List.Basic
import MbedMqtt.Packet.ServerWriter

namespace MbedMqtt.Signed

-- an `MQTTString` as the caller fills it in: `lenstring.len` is an `int`, and both members may be set
structure MQTTString where
  cstring : Option Bytes
  len : Int
  data : Option Bytes
  deriving DecidableEq, Repr

namespace MQTTString

def present (s : MQTTString) : Bool := s.cstring.isSome || s.data.isSome

def unsigned (s : MQTTString) : MbedMqtt.MQTTString := ⟨s.cstring, s.len.toNat, s.data⟩

end MQTTString

structure WillOptions where
  topicName : MQTTString
  message : MQTTString
  retained : Nat
  qos : Nat
  deriving DecidableEq, Repr

structure ConnectData where
  mqttVersion : Nat
  clientID : MQTTString
  keepAliveInterval : Nat
  cleansession : Bool
  willFlag : Bool
  will : WillOptions
  username : MQTTString
  password : MQTTString
  deriving DecidableEq, Repr

def ConnectData.unsigned (options : ConnectData) : MbedMqtt.ConnectData where
  mqttVersion := options.mqttVersion
  clientID := options.clientID.unsigned
  keepAliveInterval := options.keepAliveInterval
  cleansession := options.cleansession
  willFlag := options.willFlag
  will :=
    { topicName := options.will.topicName.unsigned
      message := options.will.message.unsigned
      retained := options.will.retained
      qos := options.will.qos }
  username := options.username.unsigned
  password := options.password.unsigned

def mqttstrlen (s : MQTTString) : Int :=
  match s.cstring with
  | some text => text.length
  | none => s.len

def packetLen (remLen : Int) : Int :=
  let remLen := remLen + 1
  if remLen < 128 then remLen + 1
  else if remLen < 16384 then remLen + 2
  else if remLen < 2097151 then remLen + 3
  else remLen + 4

def connectLength (options : ConnectData) : Int :=
  (if options.mqttVersion = 3 then 12 else if options.mqttVersion = 4 then 10 else 0) +
    (mqttstrlen options.clientID + 2) +
    (if options.willFlag then
      mqttstrlen options.will.topicName + 2 + mqttstrlen options.will.message + 2 else 0) +
    (if options.username.present then mqttstrlen options.username + 2 else 0) +
    (if options.password.present then mqttstrlen options.password + 2 else 0)

def publishLength (qos : Nat) (topicName : MQTTString) (payloadlen : Nat) : Int :=
  2 + mqttstrlen topicName + payloadlen + (if 0 < qos then 2 else 0)

def subscribeLength (requests : List (MQTTString × Nat)) : Int :=
  requests.foldl (fun len r => len + (2 + mqttstrlen r.1 + 1)) 2

def unsubscribeLength (topicFilters : List MQTTString) : Int :=
  topicFilters.foldl (fun len t => len + (2 + mqttstrlen t)) 2

def writeMQTTString (w : Writer) (s : MQTTString) : Writer :=
  if 0 < s.len then (w.writeInt s.len.toNat).memcpy (s.data.getD []) s.len.toNat
  else match s.cstring with
    | some text => w.writeCString text
    | none => w.writeInt 0

def serializePublish (buflen : Int) (dup qos retained packetid : Nat) (topicName : MQTTString)
    (payload : Bytes) : Int × List (Nat × UInt8) :=
  let remLen := publishLength qos topicName payload.length
  if buflen < packetLen remLen then Writer.tooShort
  else
    let w := Writer.start.writeChar (headerByte PUBLISH dup qos retained)
    let w := w.packetEncodeInt remLen
    let w := writeMQTTString w topicName
    let w := if 0 < qos then w.writeInt packetid else w
    (w.memcpy payload payload.length).result

def serializeConnect (buflen : Int) (options : ConnectData) : Int × List (Nat × UInt8) :=
  let len := connectLength options
  if buflen < packetLen len then Writer.tooShort
  else
    let w := Writer.start.writeChar (headerByte CONNECT 0 0 0)
    let w := w.packetEncodeInt len
    let w := if options.mqttVersion = 4 then (w.writeCString [77, 81, 84, 84]).writeChar 4
      else (w.writeCString [77, 81, 73, 115, 100, 112]).writeChar 3
    let w := w.writeChar (connectFlags options.unsigned)
    let w := w.writeInt options.keepAliveInterval
    let w := writeMQTTString w options.clientID
    let w := if options.willFlag then
        writeMQTTString (writeMQTTString w options.will.topicName) options.will.message
      else w
    let w := if options.username.present then writeMQTTString w options.username else w
    let w := if options.password.present then writeMQTTString w options.password else w
    w.result

def serializeSubscribe (buflen : Int) (dup packetid : Nat) (requests : List (MQTTString × Nat)) :
    Int × List (Nat × UInt8) :=
  let remLen := subscribeLength requests
  if buflen < packetLen remLen then Writer.tooShort
  else
    let w := Writer.start.writeChar (headerByte SUBSCRIBE dup 1 0)
    let w := w.packetEncodeInt remLen
    let w := w.writeInt packetid
    (requests.foldl (fun w r => (writeMQTTString w r.1).writeChar (UInt8.ofNat r.2)) w).result

def serializeUnsubscribe (buflen : Int) (dup packetid : Nat) (topicFilters : List MQTTString) :
    Int × List (Nat × UInt8) :=
  let remLen := unsubscribeLength topicFilters
  if buflen < packetLen remLen then Writer.tooShort
  else
    let w := Writer.start.writeChar (headerByte UNSUBSCRIBE dup 1 0)
    let w := w.packetEncodeInt remLen
    let w := w.writeInt packetid
    (topicFilters.foldl writeMQTTString w).result

inductive Call where
  | connect (options : ConnectData)
  | publish (dup qos retained packetid : Nat) (topicName : MQTTString) (payload : Bytes)
  | subscribe (dup packetid : Nat) (requests : List (MQTTString × Nat))
  | unsubscribe (dup packetid : Nat) (topicFilters : List MQTTString)
  deriving DecidableEq, Repr

namespace Call

def run (buflen : Int) : Call → Int × List (Nat × UInt8)
  | .connect options => serializeConnect buflen options
  | .publish dup qos retained packetid topicName payload =>
      serializePublish buflen dup qos retained packetid topicName payload
  | .subscribe dup packetid requests => serializeSubscribe buflen dup packetid requests
  | .unsubscribe dup packetid topicFilters => serializeUnsubscribe buflen dup packetid topicFilters

def remLen : Call → Int
  | .connect options => connectLength options
  | .publish _ qos _ _ topicName payload => publishLength qos topicName payload.length
  | .subscribe _ _ requests => subscribeLength requests
  | .unsubscribe _ _ topicFilters => unsubscribeLength topicFilters

end Call

section Unsigned

theorem packetLen_cast (n : Nat) : packetLen n = MbedMqtt.packetLen n := by
  simp only [packetLen, MbedMqtt.packetLen]
  split_ifs <;> omega

end Unsigned

end MbedMqtt.Signed
