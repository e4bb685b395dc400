import MbedMqtt.Packet.Connect
import MbedMqtt.Packet.Subscribe
import MbedMqtt.ClientC.Cycle

namespace MbedMqtt.MQTTClientC

variable {σ τ κ : Type} [Network σ] [Timer τ κ]

def Client.configured (c : Client τ) (options : ConnectData) : Client τ :=
  { c with keepAliveInterval := options.keepAliveInterval, cleansession := options.cleansession }

structure ConnectResult (σ τ κ : Type) extends Result σ τ κ where
  data : ConnackData

def connackResult (r : Result σ τ κ) (data : ConnackData) : Int × ConnackData :=
  if r.rc = CONNACK then
    let (ok, data) := deserializeConnack ⟨0, false⟩ r.client.readbuf
    (if ok = 1 then data.rc else FAILURE, data)
  else (FAILURE, data)

def connectExit (r : Result σ τ κ) : Result σ τ κ :=
  if r.rc = SUCCESS then { r with client := r.client.onSession Session.opened } else r

def MQTTConnectWithResults (target : Target) (c : Client τ) (w : World σ τ κ)
    (options : Option ConnectData) (data : ConnackData) : ConnectResult σ τ κ :=
  if c.isconnected then ⟨⟨FAILURE, c, w⟩, data⟩
  else
    let timer := w.countdownMs c.commandTimeoutMs
    let options := options.getD ConnectData.initializer
    let c := c.configured options
    let c := { c with lastReceived := w.tick.countdown c.keepAliveInterval }
    let w := w.tick.tick
    let s := serializeConnect c.bufSize options
    let c := c.fillBuf s.2
    if s.1 ≤ 0 then ⟨⟨FAILURE, c, w⟩, data⟩
    else
      let r := send target c w s.1.toNat timer
      if r.rc ≠ SUCCESS then ⟨r, data⟩
      else
        let v := waitfor target r.client r.world CONNACK timer
        let (rc, data) := connackResult v data
        ⟨connectExit { v with rc := rc }, data⟩

def closeOnFailure (r : Result σ τ κ) : Result σ τ κ :=
  if r.rc = FAILURE then { r with client := r.client.closeSession } else r

-- a request under the next packet id, and the wait for its acknowledgement
def request {δ : Type} (target : Target) (c : Client τ) (w : World σ τ κ) (packet : Int × Bytes)
    (ackType : Nat) (data : δ) (ack : Result σ τ κ → Result σ τ κ × δ) : Result σ τ κ × δ :=
  let timer := w.countdownMs c.commandTimeoutMs
  let w := w.tick
  let c := (c.onSession Session.numbered).fillBuf packet.2
  if packet.1 ≤ 0 then (⟨FAILURE, c, w⟩, data)
  else
    let r := send target c w packet.1.toNat timer
    if r.rc ≠ SUCCESS then (r, data)
    else
      let v := waitfor target r.client r.world ackType timer
      if v.rc = ackType then ack v else ({ v with rc := FAILURE }, data)

-- a SUBACK that does not parse leaves `rc` at SUCCESS
def subscribeAck (target : Target) (topicFilter : Bytes) (mh : Option Nat) (v : Result σ τ κ) :
    Result σ τ κ × Int :=
  let (ok, fields) := deserializeSuback target.charSigned 1 ⟨v.world.uninitialised, []⟩
    v.client.readbuf
  let w := v.world.pop
  let grantedQoS := fields.grantedQoSs.headD 0
  if ok = 1 ∧ grantedQoS ≠ 128 then
    let (rc, slots) := setMessageHandler v.client.messageHandlers topicFilter mh
    (⟨rc, v.client.onSession fun s => { s with messageHandlers := slots }, w⟩, grantedQoS)
  else (⟨SUCCESS, v.client, w⟩, grantedQoS)

def MQTTSubscribeWithResults (target : Target) (c : Client τ) (w : World σ τ κ)
    (topicFilter : Bytes) (qos : QoS) (mh : Option Nat) (grantedQoS : Int) :
    Result σ τ κ × Int :=
  if ¬c.isconnected then (closeOnFailure ⟨FAILURE, c, w⟩, grantedQoS)
  else
    let r := request target c w
      (serializeSubscribe c.bufSize 0 (getNextPacketId c.nextPacketid)
        [MQTTString.ofCString topicFilter] [qos.toInt])
      SUBACK grantedQoS (subscribeAck target topicFilter mh)
    (closeOnFailure r.1, r.2)

def unsubscribeAck (topicFilter : Bytes) (v : Result σ τ κ) : Result σ τ κ × Unit :=
  let (ok, _) := deserializeUnsuback v.world.uninitialised v.client.readbuf
  let w := v.world.pop
  if ok = 1 then
    let (_, slots) := setMessageHandler v.client.messageHandlers topicFilter none
    (⟨SUCCESS, v.client.onSession fun s => { s with messageHandlers := slots }, w⟩, ())
  else (⟨SUCCESS, v.client, w⟩, ())

def MQTTUnsubscribe (target : Target) (c : Client τ) (w : World σ τ κ) (topicFilter : Bytes) :
    Result σ τ κ :=
  if ¬c.isconnected then closeOnFailure ⟨FAILURE, c, w⟩
  else
    let r := request target c w
      (serializeUnsubscribe c.bufSize 0 (getNextPacketId c.nextPacketid)
        [MQTTString.ofCString topicFilter])
      UNSUBACK () (unsubscribeAck topicFilter)
    closeOnFailure r.1

def publishAck (target : Target) (c : Client τ) (w : World σ τ κ) (ackType : Nat) (timer : τ) :
    Result σ τ κ :=
  let v := waitfor target c w ackType timer
  if v.rc = ackType then
    let (ok, _) := deserializeAck v.world.uninitialised v.client.readbuf
    ⟨if ok ≠ 1 then FAILURE else SUCCESS, v.client, v.world.pop⟩
  else { v with rc := FAILURE }

def awaitedAck : QoS → Option Nat
  | .QOS1 => some PUBACK
  | .QOS2 => some PUBCOMP
  | _ => none

namespace Session

def numberedFor (s : Session) (qos : QoS) : Session :=
  if (awaitedAck qos).isSome then s.numbered else s

def publishId (s : Session) (id : Nat) (qos : QoS) : Nat :=
  if (awaitedAck qos).isSome then getNextPacketId s.nextPacketid else id

end Session

def publishSend (target : Target) (c : Client τ) (w : World σ τ κ) (packet : Int × Bytes)
    (qos : QoS) (timer : τ) : Result σ τ κ :=
  let c := c.fillBuf packet.2
  if packet.1 ≤ 0 then ⟨FAILURE, c, w⟩
  else
    let r := send target c w packet.1.toNat timer
    if r.rc ≠ SUCCESS then r
    else
      match awaitedAck qos with
      | some ackType => publishAck target r.client r.world ackType timer
      | none => r

structure PublishResult (σ τ κ : Type) extends Result σ τ κ where
  id : Nat

def MQTTPublish (target : Target) (c : Client τ) (w : World σ τ κ) (topicName payload : Bytes)
    (id : Nat) (qos : QoS) (retained : Nat) : PublishResult σ τ κ :=
  if ¬c.isconnected then ⟨closeOnFailure ⟨FAILURE, c, w⟩, id⟩
  else
    let timer := w.countdownMs c.commandTimeoutMs
    let id := c.publishId id qos
    let packet := serializePublish c.bufSize 0 qos.toInt retained id
      (MQTTString.ofCString topicName) payload
    let c := c.onSession (·.numberedFor qos)
    ⟨closeOnFailure (publishSend target c w.tick packet qos timer), id⟩

def MQTTDisconnect (target : Target) (c : Client τ) (w : World σ τ κ) : Result σ τ κ :=
  let timer := w.countdownMs c.commandTimeoutMs
  let w := w.tick
  let s := serializeDisconnect c.bufSize
  let c := c.fillBuf s.2
  let r := if 0 < s.1 then send target c w s.1.toNat timer else ⟨FAILURE, c, w⟩
  { r with client := r.client.closeSession }

def MQTTSetMessageHandler (c : Client τ) (w : World σ τ κ) (topicFilter : Bytes)
    (mh : Option Nat) : Result σ τ κ :=
  let (rc, slots) := setMessageHandler c.messageHandlers topicFilter mh
  ⟨rc, c.onSession fun s => { s with messageHandlers := slots }, w⟩

end MbedMqtt.MQTTClientC
