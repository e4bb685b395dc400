import MbedMqtt.SNClient.Cycle

namespace MbedMqtt.MQTTSN

open MQTTSNGW

namespace Session

def numbered (s : Session) : Session := { s with packetid := getNext s.packetid }

def publishId (cfg : Config) (s : Session) (id : Nat) (qos : QoS) : Nat :=
  if cfg.qos1 && (qos = .QOS1 || qos = .QOS2) then getNext s.packetid else id

def numberedFor (cfg : Config) (s : Session) (qos : QoS) : Session :=
  if cfg.qos1 && (qos = .QOS1 || qos = .QOS2) then s.numbered else s

def stored (cfg : Config) (s : Session) (id len : Nat) (bytes : Bytes) (qos : QoS) : Session :=
  { s with
    pubbuf := store s.pubbuf 0 bytes
    inflightMsgid := id
    inflightLen := len
    inflightQoS := qos
    pubrel := if cfg.qos2 then false else s.pubrel }

-- the id is written over the first bytes of the union, whatever the topic held there
def setTopicId (s : Session) (topicFilter id : Nat) : Session :=
  { s with
    topics := Function.update s.topics topicFilter
      ⟨(s.topics topicFilter).type, .id (UInt16.ofNat id)⟩ }

def freeHandler (s : Session) : Bool := s.messageHandlers.any fun slot => slot.topicFilter = none

end Session

variable {σ τ κ : Type}

def Client.storeInflight (cfg : Config) (c : Client τ) (id len : Nat) (qos : QoS) : Client τ :=
  if cfg.qos1 && !c.cleansession then
    { c with toSession := c.stored cfg id len (c.sendbuf.take len) qos }
  else c

def disconnectOnFailure (r : Outcome σ τ κ) : Outcome σ τ κ :=
  if r.rc ≠ SUCCESS then { r with client := { r.client with isconnected := false } } else r

-- a PUBACK is read with the parser of PUBREC, PUBREL and PUBCOMP
def publishAck (cfg : Config) (r : Outcome σ τ κ) : Outcome σ τ κ :=
  if r.rc = MQTTSN_PUBACK.toNat then
    match ((deserializeAck cfg.maxPacketSize).value (r.client.memory cfg)).accepted with
    | none => { r with rc := FAILURE }
    | some ack =>
        if r.client.inflightMsgid = ack.packetid then
          { r with rc := SUCCESS, client := { r.client with inflightMsgid := 0 } }
        else { r with rc := SUCCESS }
  else { r with rc := FAILURE }

-- the `rc` of the SUBACK is a variable of its own: the outer one stays SUCCESS
def subscribeAck (cfg : Config) (r : Outcome σ τ κ) (topicFilter : Nat) (qos : QoS)
    (messageHandler : Option Nat) : Outcome σ τ κ :=
  if r.rc = MQTTSN_SUBACK.toNat then
    match ((deserializeSuback cfg.maxPacketSize).value (r.client.memory cfg)).accepted with
    | none => { r with rc := SUCCESS }
    | some fields =>
        let s := r.client.setTopicId topicFilter fields.topicid
        if qos.toInt ≠ fields.qos then { r with rc := SUCCESS, client.toSession := s }
        else if fields.returncode.toNat = MQTTSN_RC_ACCEPTED then
          { r with
            rc := SUCCESS
            client.toSession :=
              { s with messageHandlers := attach s.messageHandlers topicFilter messageHandler } }
        else { r with rc := SUCCESS, client.toSession := s }
  else { r with rc := FAILURE }

-- `rc` still holds the SUCCESS of the send when the UNSUBACK does not parse
def unsubscribeAck (cfg : Config) (r : Outcome σ τ κ) (rc : Int) : Outcome σ τ κ :=
  if r.rc = MQTTSN_UNSUBACK.toNat then
    if ((deserializeUnsuback cfg.maxPacketSize).value (r.client.memory cfg)).rc = 1 then
      { r with rc := 0 }
    else { r with rc := rc }
  else { r with rc := FAILURE }

variable [DatagramNetwork σ] [Timer τ κ]

def publishLen (cfg : Config) (c : Client τ) (w : World σ κ) (len : Nat) (timer : τ) (qos : QoS) :
    Outcome σ τ κ :=
  let r := sendPacket c w len timer
  disconnectOnFailure
    (if r.rc ≠ SUCCESS then r
    else if cfg.qos1 ∧ qos = .QOS1 then
      publishAck cfg (waitfor cfg r.client r.world MQTTSN_PUBACK.toNat timer)
    else r)

structure PublishOutcome (σ τ κ : Type) extends Outcome σ τ κ where
  id : Nat

def publish (cfg : Config) (c : Client τ) (w : World σ κ) (topic : TopicId) (payload : Bytes)
    (id : Nat) (qos : QoS) (retained : Bool) : PublishOutcome σ τ κ :=
  let timer := w.countdownMs c.commandTimeoutMs
  let w := w.tick
  if ¬c.isconnected then ⟨⟨FAILURE, c, w⟩, id⟩
  else
    let id := c.publishId cfg id qos
    let c := { c with toSession := c.numberedFor cfg qos }
    let s := MQTTSNGW.serializePublish cfg.maxPacketSize
      ⟨false, qos, retained, UInt16.ofNat id, topic, payload⟩
    let c := c.fillSendbuf s.written
    if s.rc ≤ 0 then ⟨⟨FAILURE, c, w⟩, id⟩
    else ⟨publishLen cfg (c.storeInflight cfg id s.rc.toNat qos) w s.rc.toNat timer qos, id⟩

def subscribeSend (cfg : Config) (c : Client τ) (w : World σ κ) (topicFilter : Nat) (qos : QoS)
    (messageHandler : Option Nat) (timer : τ) : Outcome σ τ κ :=
  if ¬c.freeHandler then ⟨MAX_SUBSCRIPTIONS_EXCEEDED, c, w⟩
  else
    let s := MQTTSN.serializeSubscribe cfg.maxPacketSize
      ⟨false, qos, UInt16.ofNat (getNext c.packetid), c.topics topicFilter⟩
    let c := { c with toSession := c.numbered }.fillSendbuf s.written
    if s.rc ≤ 0 then ⟨FAILURE, c, w⟩
    else
      let r := sendPacket c w s.rc.toNat timer
      if r.rc ≠ SUCCESS then r
      else
        subscribeAck cfg (waitfor cfg r.client r.world MQTTSN_SUBACK.toNat timer) topicFilter qos
          messageHandler

def subscribe (cfg : Config) (c : Client τ) (w : World σ κ) (topicFilter : Nat) (qos : QoS)
    (messageHandler : Option Nat) : Outcome σ τ κ :=
  let timer := w.countdownMs c.commandTimeoutMs
  let w := w.tick
  if ¬c.isconnected then ⟨FAILURE, c, w⟩
  else disconnectOnFailure (subscribeSend cfg c w topicFilter qos messageHandler timer)

def unsubscribeSend (cfg : Config) (c : Client τ) (w : World σ κ) (topicFilter : Nat) (timer : τ) :
    Outcome σ τ κ :=
  let s := MQTTSN.serializeUnsubscribe cfg.maxPacketSize (UInt16.ofNat (getNext c.packetid))
    (c.topics topicFilter)
  let c := { c with toSession := c.numbered }.fillSendbuf s.written
  if s.rc ≤ 0 then ⟨FAILURE, c, w⟩
  else
    let r := sendPacket c w s.rc.toNat timer
    if r.rc ≠ SUCCESS then r
    else unsubscribeAck cfg (waitfor cfg r.client r.world MQTTSN_UNSUBACK.toNat timer) r.rc

-- the handler of the topic keeps its slot
def unsubscribe (cfg : Config) (c : Client τ) (w : World σ κ) (topicFilter : Nat) :
    Outcome σ τ κ :=
  let timer := w.countdownMs c.commandTimeoutMs
  let w := w.tick
  disconnectOnFailure
    (if ¬c.isconnected then ⟨FAILURE, c, w⟩ else unsubscribeSend cfg c w topicFilter timer)

def yieldLoop (cfg : Config) (timer : τ) : Nat → Client τ → World σ κ → Outcome σ τ κ
  | 0, c, w => ⟨SUCCESS, c, w⟩
  | fuel + 1, c, w =>
      if w.expired timer then ⟨SUCCESS, c, w.tick⟩
      else
        let r := cycle cfg c w.tick timer
        if r.rc = FAILURE then { r with rc := FAILURE }
        else yieldLoop cfg timer fuel r.client r.world

def yield (cfg : Config) (c : Client τ) (w : World σ κ) (timeoutMs : Nat) : Outcome σ τ κ :=
  let timer := w.countdownMs timeoutMs
  let w := w.tick
  yieldLoop cfg timer (w.clock.length + 1) c w

end MbedMqtt.MQTTSN
