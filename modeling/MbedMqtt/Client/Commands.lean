import MbedMqtt.Client.Cycle

namespace MbedMqtt

variable {σ τ κ : Type} [Network σ] [Timer τ κ]

def publishAck (cfg : Config) (c : Client τ) (w : World σ τ κ) (packetType : Nat) (timer : τ) :
    Outcome σ τ κ :=
  let r := waitfor cfg c w packetType timer
  if r.rc = packetType then
    let (rc, ack) := deserializeAck r.world.uninitialised r.client.readbuf
    let w := r.world.pop
    if rc ≠ 1 then ⟨FAILURE, r.client.closeSession cfg, w⟩
    else if r.client.inflightMsgid = ack.packetid then
      ⟨SUCCESS, { r.client with inflightMsgid := 0 }, w⟩
    else ⟨SUCCESS, r.client, w⟩
  else ⟨FAILURE, r.client.closeSession cfg, r.world⟩

def publishLen (cfg : Config) (c : Client τ) (w : World σ τ κ) (len : Nat) (timer : τ) (qos : QoS) :
    Outcome σ τ κ :=
  let r := sendPacket c w len timer
  if r.rc ≠ SUCCESS then { r with client := r.client.closeSession cfg }
  else if cfg.qos1 ∧ qos = .QOS1 then publishAck cfg r.client r.world PUBACK timer
  else if cfg.qos2 ∧ qos = .QOS2 then publishAck cfg r.client r.world PUBCOMP timer
  else r

structure PublishOutcome (σ τ κ : Type) extends Outcome σ τ κ where
  id : Nat

namespace Session

def numbered (s : Session) : Session := { s with packetid := getNext s.packetid }

def publishId (cfg : Config) (s : Session) (id : Nat) (qos : QoS) : Nat :=
  if cfg.qos1 && (qos = .QOS1 || qos = .QOS2) then getNext s.packetid else id

def numberedFor (cfg : Config) (s : Session) (qos : QoS) : Session :=
  if cfg.qos1 && (qos = .QOS1 || qos = .QOS2) then s.numbered else s

def stored (cfg : Config) (s : Session) (id len : Nat) (bytes : Bytes) (qos : QoS) : Session :=
  { s with
    pubbuf := store s.pubbuf 0 bytes
    inflightMsgid := id
    inflightLen := len
    inflightQoS := qos
    pubrel := if cfg.qos2 then false else s.pubrel }

end Session

def Client.storeInflight (cfg : Config) (c : Client τ) (id len : Nat) (qos : QoS) : Client τ :=
  if cfg.qos1 && !c.cleansession then
    { c with toSession := c.stored cfg id len (c.sendbuf.take len) qos }
  else c

def publish (cfg : Config) (c : Client τ) (w : World σ τ κ) (topicName payload : Bytes) (id : Nat)
    (qos : QoS) (retained : Bool) : PublishOutcome σ τ κ :=
  let timer := w.countdownMs c.commandTimeoutMs
  let w := w.tick
  if ¬c.isconnected then ⟨⟨FAILURE, c, w⟩, id⟩
  else
    let id := c.publishId cfg id qos
    let c := { c with toSession := c.numberedFor cfg qos }
    let s := serializePublish cfg.maxPacketSize 0 qos.toInt retained.toNat id
      (MQTTString.ofCString topicName) payload
    let c := c.fillSendbuf s.2
    if s.1 ≤ 0 then ⟨⟨FAILURE, c, w⟩, id⟩
    else ⟨publishLen cfg (c.storeInflight cfg id s.1.toNat qos) w s.1.toNat timer qos, id⟩

structure ConnectOutcome (σ τ κ : Type) extends Outcome σ τ κ where
  data : ConnackData

def Session.configured (s : Session) (options : ConnectData) : Session :=
  { s with keepAliveInterval := options.keepAliveInterval, cleansession := options.cleansession }

def connectResend (cfg : Config) (r : Outcome σ τ κ) (timer : τ) : Outcome σ τ κ :=
  let c := r.client
  if cfg.qos2 ∧ 0 < c.inflightMsgid ∧ c.inflightQoS = .QOS2 ∧ c.pubrel then
    let s := serializeAck cfg.maxPacketSize PUBREL 0 c.inflightMsgid
    let c := c.fillSendbuf s.2
    if s.1 ≤ 0 then ⟨FAILURE, c, r.world⟩
    else publishLen cfg c r.world s.1.toNat timer c.inflightQoS
  else if cfg.qos1 ∧ 0 < c.inflightMsgid then
    let c := c.fillSendbuf (c.pubbuf.take cfg.maxPacketSize)
    publishLen cfg c r.world c.inflightLen timer c.inflightQoS
  else r

def connectExit (r : Outcome σ τ κ) : Outcome σ τ κ :=
  if r.rc = SUCCESS then
    { r with client := { r.client with isconnected := true, pingOutstanding := false } }
  else r

def connackResult (r : Outcome σ τ κ) (data : ConnackData) : Int × ConnackData :=
  if r.rc = CONNACK then
    let (ok, data) := deserializeConnack ⟨0, false⟩ r.client.readbuf
    (if ok = 1 then data.rc else FAILURE, data)
  else (FAILURE, data)

def awaitConnack (cfg : Config) (c : Client τ) (w : World σ τ κ) (timer : τ) : Outcome σ τ κ :=
  if 0 < c.keepAliveInterval then
    waitfor cfg { c with lastReceived := w.countdown c.keepAliveInterval } w.tick CONNACK timer
  else waitfor cfg c w CONNACK timer

def connect (cfg : Config) (c : Client τ) (w : World σ τ κ) (options : ConnectData)
    (data : ConnackData) : ConnectOutcome σ τ κ :=
  let timer := w.countdownMs c.commandTimeoutMs
  let w := w.tick
  if c.isconnected then ⟨⟨FAILURE, c, w⟩, data⟩
  else
    let c := { c with toSession := c.configured options }
    let s := serializeConnect cfg.maxPacketSize options
    let c := c.fillSendbuf s.2
    if s.1 ≤ 0 then ⟨⟨FAILURE, c, w⟩, data⟩
    else
      let r := sendPacket c w s.1.toNat timer
      if r.rc ≠ SUCCESS then ⟨r, data⟩
      else
        let v := awaitConnack cfg r.client r.world timer
        let (rc, data) := connackResult v data
        ⟨connectExit (connectResend cfg { v with rc := rc } timer), data⟩

structure SubscribeOutcome (σ τ κ : Type) extends Outcome σ τ κ where
  grantedQoS : Int

def closeOn (cfg : Config) (failed : Bool) (r : Outcome σ τ κ) : Outcome σ τ κ :=
  if failed then { r with client := r.client.closeSession cfg } else r

def subscribeAck (cfg : Config) (r : Outcome σ τ κ) (topicFilter : Bytes) (mh : Option Nat)
    (grantedQoS : Int) : SubscribeOutcome σ τ κ :=
  if r.rc = SUBACK then
    let (ok, fields) := deserializeSuback cfg.charSigned 1 ⟨r.world.uninitialised, []⟩ r.client.readbuf
    let w := r.world.pop
    let granted := fields.grantedQoSs.headD 0
    if ok = 1 ∧ granted ≠ 128 then
      let (rc, slots) := setMessageHandler r.client.messageHandlers topicFilter mh
      ⟨⟨rc, { r.client with messageHandlers := slots }, w⟩, granted⟩
    else ⟨⟨SUCCESS, r.client, w⟩, granted⟩
  else ⟨{ r with rc := FAILURE }, grantedQoS⟩

def subscribe (cfg : Config) (c : Client τ) (w : World σ τ κ) (topicFilter : Bytes) (qos : QoS)
    (mh : Option Nat) (grantedQoS : Int) : SubscribeOutcome σ τ κ :=
  let timer := w.countdownMs c.commandTimeoutMs
  let w := w.tick
  if ¬c.isconnected then ⟨⟨FAILURE, c.closeSession cfg, w⟩, grantedQoS⟩
  else
    let s := serializeSubscribe cfg.maxPacketSize 0 (getNext c.packetid)
      [MQTTString.ofCString topicFilter] [qos.toInt]
    let c := { c with toSession := c.numbered }.fillSendbuf s.2
    if s.1 ≤ 0 then ⟨⟨FAILURE, c.closeSession cfg, w⟩, grantedQoS⟩
    else
      let r := sendPacket c w s.1.toNat timer
      if r.rc ≠ SUCCESS then ⟨{ r with client := r.client.closeSession cfg }, grantedQoS⟩
      else
        let a := subscribeAck cfg (waitfor cfg r.client r.world SUBACK timer) topicFilter mh grantedQoS
        ⟨closeOn cfg (a.rc = FAILURE) a.toOutcome, a.grantedQoS⟩

def unsubscribeAck (r : Outcome σ τ κ) (topicFilter : Bytes) : Outcome σ τ κ :=
  if r.rc = UNSUBACK then
    let (ok, _) := deserializeUnsuback r.world.uninitialised r.client.readbuf
    let w := r.world.pop
    if ok = 1 then
      let (_, slots) := setMessageHandler r.client.messageHandlers topicFilter none
      ⟨SUCCESS, { r.client with messageHandlers := slots }, w⟩
    else ⟨SUCCESS, r.client, w⟩
  else { r with rc := FAILURE }

def unsubscribe (cfg : Config) (c : Client τ) (w : World σ τ κ) (topicFilter : Bytes) :
    Outcome σ τ κ :=
  let timer := w.countdownMs c.commandTimeoutMs
  let w := w.tick
  if ¬c.isconnected then ⟨FAILURE, c.closeSession cfg, w⟩
  else
    let s := serializeUnsubscribe cfg.maxPacketSize 0 (getNext c.packetid)
      [MQTTString.ofCString topicFilter]
    let c := { c with toSession := c.numbered }.fillSendbuf s.2
    if s.1 ≤ 0 then ⟨FAILURE, c.closeSession cfg, w⟩
    else
      let r := sendPacket c w s.1.toNat timer
      if r.rc ≠ SUCCESS then { r with client := r.client.closeSession cfg }
      else
        let a := unsubscribeAck (waitfor cfg r.client r.world UNSUBACK timer) topicFilter
        closeOn cfg (a.rc ≠ SUCCESS) a

def disconnect (cfg : Config) (c : Client τ) (w : World σ τ κ) : Outcome σ τ κ :=
  let timer := w.countdownMs c.commandTimeoutMs
  let w := w.tick
  let s := serializeDisconnect cfg.maxPacketSize
  let c := c.fillSendbuf s.2
  let r := if 0 < s.1 then sendPacket c w s.1.toNat timer else ⟨FAILURE, c, w⟩
  { r with client := r.client.closeSession cfg }

end MbedMqtt
