import MbedMqtt.Client.Transport

namespace MbedMqtt

variable {σ τ κ : Type}

structure Branch (σ τ κ : Type) extends Outcome σ τ κ where
  leave : Bool

def Client.fillSendbuf (c : Client τ) (packet : Bytes) : Client τ :=
  { c with sendbuf := store c.sendbuf 0 packet }

@[simp] theorem fillSendbuf_toSession (c : Client τ) (packet : Bytes) :
    (c.fillSendbuf packet).toSession = c.toSession := rfl
@[simp] theorem fillSendbuf_readbuf (c : Client τ) (packet : Bytes) :
    (c.fillSendbuf packet).readbuf = c.readbuf := rfl

def cycleDeliver (cfg : Config) (c : Client τ) (w : World σ τ κ) (topicName : MQTTString)
    (msg : Message) : Outcome σ τ κ :=
  if cfg.qos2 ∧ msg.qos = .QOS2 then
    if isQoS2msgidFree c.incomingQoS2messages msg.id then
      let (stored, table) := useQoS2msgid c.incomingQoS2messages msg.id
      if stored then deliverMessage { c with incomingQoS2messages := table } w topicName msg
      else ⟨SUCCESS, c, w⟩
    else ⟨SUCCESS, c, w⟩
  else deliverMessage c w topicName msg

def publishReply (cfg : Config) (msg : Message) : Int × Bytes :=
  match msg.qos with
  | .QOS1 => serializeAck cfg.maxPacketSize PUBACK 0 msg.id
  | .QOS2 => serializeAck cfg.maxPacketSize PUBREC 0 msg.id
  | _ => (0, [])

def PublishFields.message (fields : PublishFields) (uninitialised : Nat) : Message :=
  { qos := .ofInt fields.qos
    retained := fields.retained
    dup := fields.dup
    id := fields.packetid.getD uninitialised
    payload := fields.payload
    payloadlen := fields.payloadlen }

variable [Network σ] [Timer τ κ]

def cyclePublish (cfg : Config) (c : Client τ) (w : World σ τ κ) (timer : τ) : Branch σ τ κ :=
  match deserializePublish c.readbuf with
  | none => ⟨⟨FAILURE, c, w⟩, true⟩
  | some fields =>
      let msg := fields.message w.uninitialised
      let d := cycleDeliver cfg c w.pop fields.topicName msg
      if cfg.qos1 then
        if msg.qos ≠ .QOS0 then
          let reply := publishReply cfg msg
          if reply.1 ≤ 0 then ⟨⟨FAILURE, d.client.fillSendbuf reply.2, d.world⟩, true⟩
          else
            let r := sendPacket (d.client.fillSendbuf reply.2) d.world reply.1.toNat timer
            ⟨r, r.rc = FAILURE⟩
        else ⟨⟨SUCCESS, d.client, d.world⟩, false⟩
      else ⟨⟨SUCCESS, { d.client with pingOutstanding := false }, d.world⟩, false⟩

def cycleAck (cfg : Config) (packetType : Int) (c : Client τ) (w : World σ τ κ) (timer : τ) :
    Branch σ τ κ :=
  let (rc, ack) := deserializeAck w.uninitialised c.readbuf
  let w := w.pop
  if rc ≠ 1 then ⟨⟨FAILURE, c, w⟩, true⟩
  else
    let reply := serializeAck cfg.maxPacketSize (if packetType = PUBREC then PUBREL else PUBCOMP) 0
      ack.packetid
    if reply.1 ≤ 0 then ⟨⟨FAILURE, c.fillSendbuf reply.2, w⟩, true⟩
    else
      let r := sendPacket (c.fillSendbuf reply.2) w reply.1.toNat timer
      if r.rc ≠ SUCCESS then ⟨⟨FAILURE, r.client, r.world⟩, true⟩
      else if packetType = PUBREL then
        let table := freeQoS2msgid r.client.incomingQoS2messages ack.packetid
        ⟨⟨SUCCESS, { r.client with incomingQoS2messages := table }, r.world⟩, false⟩
      else ⟨⟨SUCCESS, r.client, r.world⟩, false⟩

def cycleSwitch (cfg : Config) (packetType : Int) (c : Client τ) (w : World σ τ κ) (timer : τ) :
    Branch σ τ κ :=
  if packetType = 0 ∨ packetType = CONNACK ∨ packetType = PUBACK ∨ packetType = SUBACK ∨
      packetType = UNSUBACK then ⟨⟨SUCCESS, c, w⟩, false⟩
  else if packetType = PUBLISH then cyclePublish cfg c w timer
  else if cfg.qos2 ∧ (packetType = PUBREC ∨ packetType = PUBREL) then
    cycleAck cfg packetType c w timer
  else if cfg.qos2 ∧ packetType = PUBCOMP then ⟨⟨SUCCESS, c, w⟩, false⟩
  else if packetType = PINGRESP then ⟨⟨SUCCESS, { c with pingOutstanding := false }, w⟩, false⟩
  else ⟨⟨packetType, c, w⟩, true⟩

def sendPing (cfg : Config) (c : Client τ) (w : World σ τ κ) : Outcome σ τ κ :=
  let timer := w.countdownMs 1000
  let w := w.tick
  let ping := serializePingreq cfg.maxPacketSize
  let c := c.fillSendbuf ping.2
  if 0 < ping.1 then
    let r := sendPacket c w ping.1.toNat timer
    if r.rc = SUCCESS then
      { rc := SUCCESS
        client := { r.client with pingOutstanding := true }
        world := { r.world.tick with pingSent := r.world.countdown c.keepAliveInterval } }
    else r
  else ⟨SUCCESS, c, w⟩

def keepalive (cfg : Config) (c : Client τ) (w : World σ τ κ) : Outcome σ τ κ :=
  if c.keepAliveInterval = 0 then ⟨SUCCESS, c, w⟩
  else if c.pingOutstanding then
    ⟨if w.expired w.pingSent then FAILURE else SUCCESS, c, w.tick⟩
  else if w.expired c.lastSent then sendPing cfg c w.tick
  else if w.tick.expired c.lastReceived then sendPing cfg c w.tick.tick
  else ⟨SUCCESS, c, w.tick.tick⟩

def cycleExit (cfg : Config) (packetType : Int) (r : Outcome σ τ κ) : Outcome σ τ κ :=
  if r.rc = SUCCESS then { r with rc := packetType }
  else if r.client.isconnected then { r with client := r.client.closeSession cfg }
  else r

def cycleKeepalive (cfg : Config) (b : Branch σ τ κ) : Outcome σ τ κ :=
  if b.leave then b.toOutcome
  else
    let k := keepalive cfg b.client b.world
    if k.rc ≠ SUCCESS then { k with rc := FAILURE } else { k with rc := b.rc }

def cycle (cfg : Config) (c : Client τ) (w : World σ τ κ) (timer : τ) : Outcome σ τ κ :=
  let p := readPacket cfg c w
  cycleExit cfg p.rc (cycleKeepalive cfg (cycleSwitch cfg p.rc p.client p.world timer))

def waitforLoop (cfg : Config) (packetType : Int) (timer : τ) :
    Nat → Int → Client τ → World σ τ κ → Outcome σ τ κ
  | 0, rc, c, w => ⟨rc, c, w⟩
  | fuel + 1, rc, c, w =>
      if w.expired timer then ⟨rc, c, w.tick⟩
      else
        let r := cycle cfg c w.tick timer
        if r.rc ≠ packetType ∧ 0 ≤ r.rc then
          waitforLoop cfg packetType timer fuel r.rc r.client r.world
        else r

def waitfor (cfg : Config) (c : Client τ) (w : World σ τ κ) (packetType : Int) (timer : τ) :
    Outcome σ τ κ :=
  waitforLoop cfg packetType timer (w.clock.length + 1) FAILURE c w

def yieldLoop (cfg : Config) (timer : τ) : Nat → Client τ → World σ τ κ → Outcome σ τ κ
  | 0, c, w => ⟨SUCCESS, c, w⟩
  | fuel + 1, c, w =>
      if w.expired timer then ⟨SUCCESS, c, w.tick⟩
      else
        let r := cycle cfg c w.tick timer
        if r.rc < 0 then { r with rc := FAILURE }
        else yieldLoop cfg timer fuel r.client r.world

def yield (cfg : Config) (c : Client τ) (w : World σ τ κ) (timeoutMs : Nat) : Outcome σ τ κ :=
  yieldLoop cfg (w.countdownMs timeoutMs) (w.clock.length + 1) c w.tick

end MbedMqtt
