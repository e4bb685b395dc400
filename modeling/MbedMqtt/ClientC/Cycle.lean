import MbedMqtt.Client.Cycle
import MbedMqtt.ClientC.Session

namespace MbedMqtt.MQTTClientC

class Ipstack (σ : Type) extends Network σ where
  read_le : ∀ (s : σ) (n : Nat), (read s n).1.rc ≤ n

structure Branch (σ τ κ : Type) extends Result σ τ κ where
  leave : Bool

variable {σ τ κ : Type}

def publishReply (bufSize : Nat) (msg : Message) : Int × Bytes :=
  match msg.qos with
  | .QOS1 => serializeAck bufSize PUBACK 0 msg.id
  | .QOS2 => serializeAck bufSize PUBREC 0 msg.id
  | _ => (0, [])

section

variable [Network σ] [Timer τ κ]

def send (target : Target) (c : Client τ) (w : World σ τ κ) (length : Nat) (timer : τ) :
    Result σ τ κ :=
  let r := sendPacket target.beyond c.toMQTTClient w length timer
  let packet := c.buf.take length
  { rc := r.rc
    client := { c with toMQTTClient := r.client }
    world := r.world.record [if r.rc = SUCCESS then .sent packet else .unsent packet] }

def readPacket (c : Client τ) (w : World σ τ κ) : Result σ τ κ :=
  let (r, net) := Network.read w.net 1
  let readbuf := store c.readbuf 0 r.bytes
  if r.rc ≠ 1 then ⟨r.rc, { c with readbuf := readbuf }, { w with net := net }⟩
  else
    let ((_, remLen), net) := decodePacket net
    let readbuf := store readbuf 1 (packetEncode remLen)
    let len := 1 + (packetEncode remLen).length
    -- below len the unsigned difference wraps past every rem_len
    if len ≤ c.readbufSize ∧ c.readbufSize - len < remLen then
      ⟨BUFFER_OVERFLOW, { c with readbuf := readbuf }, { w with net := net }⟩
    else
      let (r, net) := readBody net remLen
      let readbuf := store readbuf len r.bytes
      if r.rc ≠ remLen then ⟨0, { c with readbuf := readbuf }, { w with net := net }⟩
      else
        let header := byteAt readbuf 0
        let w := { w with net := net }.record [.received header ((readbuf.drop len).take remLen)]
        if 0 < c.keepAliveInterval then
          { rc := headerType header
            client := { c with readbuf := readbuf, lastReceived := w.countdown c.keepAliveInterval }
            world := w.tick }
        else { rc := headerType header, client := { c with readbuf := readbuf }, world := w }

def sendPing (target : Target) (c : Client τ) (w : World σ τ κ) : Result σ τ κ :=
  let timer := w.countdownMs 1000
  let w := w.tick
  let ping := serializePingreq c.bufSize
  let c := c.fillBuf ping.2
  if 0 < ping.1 then
    let r := send target c w ping.1.toNat timer
    if r.rc = SUCCESS then
      { r with client := r.client.onSession fun s => { s with pingOutstanding := true } }
    else r
  else ⟨SUCCESS, c, w⟩

def keepaliveDue (target : Target) (c : Client τ) (w : World σ τ κ) : Result σ τ κ :=
  if c.pingOutstanding then ⟨FAILURE, c, w⟩ else sendPing target c w

def keepalive (target : Target) (c : Client τ) (w : World σ τ κ) : Result σ τ κ :=
  if c.keepAliveInterval = 0 then ⟨SUCCESS, c, w⟩
  else if w.expired c.lastSent then keepaliveDue target c w.tick
  else if w.tick.expired c.lastReceived then keepaliveDue target c w.tick.tick
  else ⟨SUCCESS, c, w.tick.tick⟩

def cyclePublish (target : Target) (c : Client τ) (w : World σ τ κ) (timer : τ) : Branch σ τ κ :=
  match deserializePublish c.readbuf with
  -- `rc` still holds SUCCESS here
  | none => ⟨⟨SUCCESS, c, w⟩, true⟩
  | some fields =>
      let msg := fields.message w.uninitialised
      let d := deliverMessage c w.pop fields.topicName msg
      if msg.qos ≠ .QOS0 then
        let reply := publishReply c.bufSize msg
        if reply.1 ≤ 0 then ⟨⟨FAILURE, d.client.fillBuf reply.2, d.world⟩, true⟩
        else
          let r := send target (d.client.fillBuf reply.2) d.world reply.1.toNat timer
          ⟨r, r.rc = FAILURE⟩
      else ⟨⟨SUCCESS, d.client, d.world⟩, false⟩

def cycleAck (target : Target) (packetType : Int) (c : Client τ) (w : World σ τ κ) (timer : τ) :
    Branch σ τ κ :=
  let (rc, ack) := deserializeAck w.uninitialised c.readbuf
  let w := w.pop
  if rc ≠ 1 then ⟨⟨FAILURE, c, w⟩, true⟩
  else
    let reply := serializeAck c.bufSize (if packetType = PUBREC then PUBREL else PUBCOMP) 0
      ack.packetid
    if reply.1 ≤ 0 then ⟨⟨FAILURE, c.fillBuf reply.2, w⟩, true⟩
    else
      let r := send target (c.fillBuf reply.2) w reply.1.toNat timer
      if r.rc ≠ SUCCESS then ⟨⟨FAILURE, r.client, r.world⟩, true⟩
      else ⟨⟨SUCCESS, r.client, r.world⟩, false⟩

def cycleSwitch (target : Target) (packetType : Int) (c : Client τ) (w : World σ τ κ) (timer : τ) :
    Branch σ τ κ :=
  if packetType = 0 ∨ packetType = CONNACK ∨ packetType = PUBACK ∨ packetType = SUBACK ∨
      packetType = UNSUBACK then ⟨⟨SUCCESS, c, w⟩, false⟩
  else if packetType = PUBLISH then cyclePublish target c w timer
  else if packetType = PUBREC ∨ packetType = PUBREL then cycleAck target packetType c w timer
  else if packetType = PUBCOMP then ⟨⟨SUCCESS, c, w⟩, false⟩
  else if packetType = PINGRESP then ⟨⟨SUCCESS, c.onSession Session.ponged, w⟩, false⟩
  else ⟨⟨packetType, c, w⟩, true⟩

def cycleKeepalive (target : Target) (b : Branch σ τ κ) : Result σ τ κ :=
  if b.leave then b.toResult
  else
    let k := keepalive target b.client b.world
    if k.rc ≠ SUCCESS then { k with rc := FAILURE } else { k with rc := b.rc }

def cycleExit (packetType : Int) (r : Result σ τ κ) : Result σ τ κ :=
  if r.rc = SUCCESS then { r with rc := packetType }
  else if r.client.isconnected then { r with client := r.client.closeSession }
  else r

def cycle (target : Target) (c : Client τ) (w : World σ τ κ) (timer : τ) : Result σ τ κ :=
  let p := readPacket c w
  cycleExit p.rc (cycleKeepalive target (cycleSwitch target p.rc p.client p.world timer))

def waitforLoop (target : Target) (packetType : Int) (timer : τ) :
    Nat → Int → Client τ → World σ τ κ → Result σ τ κ
  | 0, rc, c, w => ⟨rc, c, w⟩
  | fuel + 1, rc, c, w =>
      if w.expired timer then ⟨rc, c, w.tick⟩
      else
        let r := cycle target c w.tick timer
        if r.rc ≠ packetType ∧ 0 ≤ r.rc then
          waitforLoop target packetType timer fuel r.rc r.client r.world
        else r

def waitfor (target : Target) (c : Client τ) (w : World σ τ κ) (packetType : Int) (timer : τ) :
    Result σ τ κ :=
  waitforLoop target packetType timer (w.clock.length + 1) FAILURE c w

def yieldLoop (target : Target) (timer : τ) : Nat → Client τ → World σ τ κ → Result σ τ κ
  | 0, c, w => ⟨SUCCESS, c, w⟩
  | fuel + 1, c, w =>
      let r := cycle target c w timer
      if r.rc < 0 then { r with rc := FAILURE }
      else if r.world.expired timer then { r with rc := SUCCESS, world := r.world.tick }
      else yieldLoop target timer fuel r.client r.world.tick

def MQTTYield (target : Target) (c : Client τ) (w : World σ τ κ) (timeoutMs : Nat) :
    Result σ τ κ :=
  yieldLoop target (w.countdownMs timeoutMs) (w.clock.length + 1) c w.tick

-- one round of the loop of MQTTRun, which holds the mutex
def MQTTRun (target : Target) (c : Client τ) (w : World σ τ κ) : Result σ τ κ :=
  cycle target c w.tick (w.countdownMs 500)

end

end MbedMqtt.MQTTClientC
