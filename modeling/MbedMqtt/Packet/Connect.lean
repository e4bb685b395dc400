import MbedMqtt.Packet.Publish

namespace MbedMqtt

structure WillOptions where
  topicName : MQTTString
  message : MQTTString
  retained : Nat
  qos : Nat
  deriving DecidableEq, Repr

def WillOptions.initializer : WillOptions :=
  ⟨MQTTString.initializer, MQTTString.initializer, 0, 0⟩

structure ConnectData where
  mqttVersion : Nat
  clientID : MQTTString
  keepAliveInterval : Nat
  cleansession : Bool
  willFlag : Bool
  will : WillOptions
  username : MQTTString
  password : MQTTString
  deriving DecidableEq, Repr

def ConnectData.initializer : ConnectData :=
  { mqttVersion := 4
    clientID := MQTTString.initializer
    keepAliveInterval := 60
    cleansession := true
    willFlag := false
    will := WillOptions.initializer
    username := MQTTString.initializer
    password := MQTTString.initializer }

def MQTTString.present (s : MQTTString) : Bool := s.cstring.isSome || s.data.isSome

def connectLength (options : ConnectData) : Nat :=
  (if options.mqttVersion = 3 then 12 else if options.mqttVersion = 4 then 10 else 0) +
    (mqttstrlen options.clientID + 2) +
    (if options.willFlag then
      mqttstrlen options.will.topicName + 2 + mqttstrlen options.will.message + 2 else 0) +
    (if options.username.present then mqttstrlen options.username + 2 else 0) +
    (if options.password.present then mqttstrlen options.password + 2 else 0)

def connectFlags (options : ConnectData) : UInt8 :=
  UInt8.ofNat
    (options.cleansession.toNat * 2 + options.willFlag.toNat * 4 +
      (if options.willFlag then options.will.qos % 4 * 8 + options.will.retained % 2 * 32 else 0) +
      options.password.present.toNat * 64 + options.username.present.toNat * 128)

def protocolName (options : ConnectData) : Bytes :=
  if options.mqttVersion = 4 then writeCString [77, 81, 84, 84] ++ [4]
  else writeCString [77, 81, 73, 115, 100, 112] ++ [3]

def serializeConnect (buflen : Nat) (options : ConnectData) : Int × Bytes :=
  let len := connectLength options
  if buflen < packetLen len then (MQTTPACKET_BUFFER_TOO_SHORT, [])
  else
    let packet := headerByte CONNECT 0 0 0 :: packetEncode len ++ protocolName options ++
      connectFlags options :: writeInt options.keepAliveInterval ++
      writeMQTTString options.clientID ++
      (if options.willFlag then
        writeMQTTString options.will.topicName ++ writeMQTTString options.will.message else []) ++
      (if options.username.present then writeMQTTString options.username else []) ++
      (if options.password.present then writeMQTTString options.password else [])
    (packet.length, packet)

theorem serializeConnect_serializes (buflen : Nat) (options : ConnectData) :
    Serializes (serializeConnect buflen options) CONNECT :=
  serializes_short CONNECT _ (headerType_headerByte ..) rfl

structure ConnackData where
  rc : Nat
  sessionPresent : Bool
  deriving DecidableEq, Repr

def deserializeConnack (data : ConnackData) (buf : Bytes) : Int × ConnackData :=
  let header := byteAt buf 0
  if headerType header ≠ CONNACK then (0, data)
  else
    let (rc, mylen) := decodeBuf buf 1
    if mylen < 2 then (rc, data)
    else (1, ⟨(byteAt buf (2 + rc)).toNat, (byteAt buf (1 + rc)).toNat % 2 = 1⟩)

def serializeZero (buflen packettype : Nat) : Int × Bytes :=
  if buflen < 2 then (MQTTPACKET_BUFFER_TOO_SHORT, [])
  else
    let packet := headerByte packettype 0 0 0 :: packetEncode 0
    (packet.length, packet)

theorem serializeZero_serializes (buflen : Nat) {packettype : Nat} (h : packettype < 16) :
    Serializes (serializeZero buflen packettype) packettype :=
  serializes_short packettype _ ((headerType_headerByte ..).trans (Nat.mod_eq_of_lt h)) rfl

def serializeDisconnect (buflen : Nat) : Int × Bytes := serializeZero buflen DISCONNECT
def serializePingreq (buflen : Nat) : Int × Bytes := serializeZero buflen PINGREQ

theorem deserializeConnack_framed (data : ConnackData) (header : UInt8) (body tail : Bytes)
    (hb : body.length < 268435456) (ht : headerType header = CONNACK) :
    deserializeConnack data (framed header body ++ tail) =
      (1, if 2 ≤ body.length then ⟨(byteAt body 1).toNat, (byteAt body 0).toNat % 2 = 1⟩
        else data) := by
  unfold deserializeConnack
  rw [decodeBuf_framed header body tail hb, byteAt_framed]
  by_cases hlen : body.length < 2
  · have henc : (packetEncode body.length).length = 1 := by
      unfold packetEncode
      rw [Base128.encode_small (by omega)]
      rfl
    simp [ht, hlen, henc, show ¬2 ≤ body.length by omega]
  · have hflag := byteAt_framed_body header body tail 0 (by omega)
    have hcode := byteAt_framed_body header body tail 1 (by omega)
    simp only [Nat.add_zero] at hflag
    rw [show 1 + (packetEncode body.length).length + 1 = 2 + (packetEncode body.length).length
      by omega] at hcode
    simp [ht, hlen, hflag, hcode, show 2 ≤ body.length by omega]

end MbedMqtt
