import MbedMqtt.SNClient.Calls
import MbedMqtt.SNClient.Wait

namespace MbedMqtt.MQTTSN

open MQTTSNGW

-- the publish that a later connect sends again
structure Slot where
  pubbuf : Bytes
  inflightLen : Nat
  inflightMsgid : Nat
  inflightQoS : QoS
  pubrel : Bool
  deriving DecidableEq, Repr

namespace Session

def slot (s : Session) : Slot :=
  ⟨s.pubbuf, s.inflightLen, s.inflightMsgid, s.inflightQoS, s.pubrel⟩

def opened (s : Session) (options : ConnectData) : Session :=
  { s with duration := options.duration.toNat, cleansession := options.cleansession }

def kept (s : Session) (rc : Int) : Session :=
  if rc = SUCCESS then s else { s with isconnected := false }

def publication (cfg : Config) (s : Session) (topic : TopicId) (payload : Bytes) (id : Nat)
    (qos : QoS) (retained : Bool) : Serialized :=
  MQTTSNGW.serializePublish cfg.maxPacketSize
    ⟨false, qos, retained, UInt16.ofNat (s.publishId cfg id qos), topic, payload⟩

@[simp] theorem kept_success (s : Session) : s.kept SUCCESS = s := if_pos rfl

theorem kept_failure {s : Session} {rc : Int} (h : rc ≠ SUCCESS) :
    s.kept rc = { s with isconnected := false } := if_neg h

@[simp] theorem kept_slot (s : Session) (rc : Int) : (s.kept rc).slot = s.slot := by
  unfold kept
  split <;> rfl

theorem kept_isconnected (s : Session) (rc : Int) :
    (s.kept rc).isconnected = (s.isconnected && decide (rc = SUCCESS)) := by
  unfold kept
  split
  · rename_i h
    simp [h]
  · rename_i h
    simp [h]

end Session

variable {σ τ κ : Type}

def Client.opened (c : Client τ) (options : ConnectData) : Client τ :=
  { c with toSession := c.toSession.opened options }

-- `connack_rc` starts at 255, which a CONNACK too short for a return code leaves
def connectAck (cfg : Config) (r : Outcome σ τ κ) : Outcome σ τ κ :=
  if r.rc = MQTTSN_CONNACK.toNat then
    let parsed := (deserializeConnack r.world.uninitialised cfg.maxPacketSize).value
      (r.client.memory cfg)
    { r with
      rc := if parsed.rc = 1 then ((parsed.fields.map UInt8.toNat).getD 255 : Nat) else FAILURE
      world := r.world.pop }
  else { r with rc := FAILURE }

def connectExit (r : Outcome σ τ κ) : Outcome σ τ κ :=
  if r.rc = SUCCESS then { r with client := { r.client with isconnected := true } } else r

variable [DatagramNetwork σ] [Timer τ κ]

def countReceived (r : Outcome σ τ κ) : Outcome σ τ κ :=
  if 0 < r.client.duration then
    { r with
      client := { r.client with lastReceived := r.world.countdown r.client.duration }
      world := r.world.tick }
  else r

def resendPubrel (cfg : Config) (c : Client τ) (w : World σ κ) (timer : τ) : Outcome σ τ κ :=
  let (len, written) := MbedMqtt.serializeAck cfg.maxPacketSize PUBREL 0 c.inflightMsgid
  let c := c.fillSendbuf written
  if len ≤ 0 then ⟨FAILURE, c, w⟩ else publishLen cfg c w len.toNat timer c.inflightQoS

def resendPublish (cfg : Config) (c : Client τ) (w : World σ κ) (timer : τ) : Outcome σ τ κ :=
  publishLen cfg (c.fillSendbuf c.pubbuf) w c.inflightLen timer c.inflightQoS

-- the return code of the publish replaces the one of the CONNACK
def connectResend (cfg : Config) (r : Outcome σ τ κ) (timer : τ) : Outcome σ τ κ :=
  if cfg.qos2 ∧ 0 < r.client.inflightMsgid ∧ r.client.inflightQoS = .QOS2 ∧ r.client.pubrel then
    resendPubrel cfg r.client r.world timer
  else if cfg.qos1 ∧ 0 < r.client.inflightMsgid then
    resendPublish cfg r.client r.world timer
  else r

def connectWait (cfg : Config) (r : Outcome σ τ κ) (timer : τ) : Outcome σ τ κ :=
  let r := countReceived r
  connectResend cfg (connectAck cfg (waitfor cfg r.client r.world MQTTSN_CONNACK.toNat timer)) timer

def connectSend (cfg : Config) (c : Client τ) (w : World σ κ) (options : ConnectData) (timer : τ) :
    Outcome σ τ κ :=
  let s := serializeConnect cfg.maxPacketSize options
  let c := (c.opened options).fillSendbuf s.written
  if s.rc ≤ 0 then ⟨FAILURE, c, w⟩
  else
    let r := sendPacket c w s.rc.toNat timer
    if r.rc ≠ SUCCESS then r else connectWait cfg r timer

def connect (cfg : Config) (c : Client τ) (w : World σ κ) (options : ConnectData) :
    Outcome σ τ κ :=
  let timer := w.countdownMs c.commandTimeoutMs
  let w := w.tick
  connectExit (if c.isconnected then ⟨FAILURE, c, w⟩ else connectSend cfg c w options timer)

def disconnect (cfg : Config) (c : Client τ) (w : World σ κ) (duration : UInt16) :
    Outcome σ τ κ :=
  let timer := w.countdownMs c.commandTimeoutMs
  let w := w.tick
  let intDuration : Int := if duration = 0 then -1 else duration.toNat
  let s := serializeDisconnect cfg.maxPacketSize intDuration
  let c := c.fillSendbuf s.written
  let r := if 0 < s.rc then sendPacket c w s.rc.toNat timer else ⟨FAILURE, c, w⟩
  { r with client := { r.client with isconnected := false } }

inductive Op where
  | connect (options : ConnectData)
  | publish (topic : TopicId) (payload : Bytes) (id : Nat) (qos : QoS) (retained : Bool)
  | disconnect (duration : UInt16)
  | setDefaultMessageHandler (messageHandler : Option Nat)
  | other (call : Call)
  deriving DecidableEq, Repr

def Op.perform (cfg : Config) (c : Client τ) (w : World σ κ) : Op → Outcome σ τ κ
  | .connect options => MQTTSN.connect cfg c w options
  | .publish topic payload id qos retained =>
      (MQTTSN.publish cfg c w topic payload id qos retained).toOutcome
  | .disconnect duration => MQTTSN.disconnect cfg c w duration
  | .setDefaultMessageHandler messageHandler =>
      ⟨SUCCESS, { c with defaultMessageHandler := messageHandler }, w⟩
  | .other call => call.perform cfg ⟨c, w⟩

-- between two calls the application may connect the network anew
structure Request (σ κ : Type) where
  op : Op
  net : σ
  clock : List κ
  stack : List Nat

structure System (τ : Type) where
  client : Client τ
  log : List Event

namespace System

def start (cfg : Config) (commandTimeoutMs : Nat) (idle : τ) (duration : Nat)
    (cleansession : Bool) : System τ :=
  ⟨.construct cfg commandTimeoutMs idle duration cleansession, []⟩

def enter (y : System τ) (request : Request σ κ) : World σ κ :=
  ⟨request.net, request.clock, request.stack, y.log⟩

def outcome (cfg : Config) (y : System τ) (request : Request σ κ) : Outcome σ τ κ :=
  request.op.perform cfg y.client (y.enter request)

def rc (cfg : Config) (y : System τ) (request : Request σ κ) : Int := (y.outcome cfg request).rc

def perform (cfg : Config) (y : System τ) (request : Request σ κ) : System τ :=
  ⟨(y.outcome cfg request).client, (y.outcome cfg request).world.log⟩

def run (cfg : Config) (y : System τ) (requests : List (Request σ κ)) : System τ :=
  requests.foldl (perform cfg) y

def events (cfg : Config) (y : System τ) (request : Request σ κ) : List Event :=
  (y.perform cfg request).log.drop y.log.length

end System

-- a packet put on the network, or the part of it that went out before an error
inductive Attempt (packet : Bytes) : Int → List Event → Prop
  | sent : Attempt packet SUCCESS [.sent packet]
  | unsent : Attempt packet FAILURE [.unsent packet]

section Publish

omit [DatagramNetwork σ] [Timer τ κ] in
theorem disconnectOnFailure_session (r : Outcome σ τ κ) :
    (disconnectOnFailure r).client.toSession = r.client.toSession.kept r.rc := by
  unfold disconnectOnFailure
  split
  · rename_i h
    exact (Session.kept_failure h).symm
  · rename_i h
    rw [not_not.mp h, Session.kept_success]

omit [DatagramNetwork σ] [Timer τ κ] in
theorem disconnectOnFailure_rc (r : Outcome σ τ κ) : (disconnectOnFailure r).rc = r.rc := by
  unfold disconnectOnFailure
  split <;> rfl

omit [DatagramNetwork σ] [Timer τ κ] in
theorem disconnectOnFailure_world (r : Outcome σ τ κ) :
    (disconnectOnFailure r).world = r.world := by
  unfold disconnectOnFailure
  split <;> rfl

theorem sendPacket_session (c : Client τ) (w : World σ κ) (length : Nat) (timer : τ) :
    (sendPacket c w length timer).client.toSession = c.toSession := by
  obtain ⟨⟨t, hclient⟩, -, -⟩ := sendPacket_sends c w length timer
  rw [hclient]

theorem sendPacket_attempt (c : Client τ) (w : World σ κ) (length : Nat) (timer : τ) :
    ∃ ev, (sendPacket c w length timer).world.log = w.log ++ ev ∧
      Attempt (c.sendbuf.take length) (sendPacket c w length timer).rc ev := by
  have hlog := sendLoop_log timer (c.sendbuf ++ c.readbuf) length (w.clock.length + 1) 0 w
  simp only [sendPacket]
  split_ifs
  · exact ⟨_, congrArg (· ++ _) hlog, .sent⟩
  · exact ⟨_, congrArg (· ++ _) hlog, .sent⟩
  · exact ⟨_, congrArg (· ++ _) hlog, .unsent⟩

theorem sendPacket_fill (c : Client τ) (w : World σ κ) (packet : Bytes) (timer : τ) :
    (sendPacket (c.fillSendbuf packet) w packet.length timer).client.toSession = c.toSession ∧
    ∃ ev, (sendPacket (c.fillSendbuf packet) w packet.length timer).world.log = w.log ++ ev ∧
      Attempt packet (sendPacket (c.fillSendbuf packet) w packet.length timer).rc ev := by
  obtain ⟨ev, hlog, hattempt⟩ := sendPacket_attempt (c.fillSendbuf packet) w packet.length timer
  have htake : (c.fillSendbuf packet).sendbuf.take packet.length = packet := by
    rw [Client.fillSendbuf, store_zero, List.take_left]
  rw [htake] at hattempt
  exact ⟨sendPacket_session _ w _ timer, ev, hlog, hattempt⟩

end Publish

end MbedMqtt.MQTTSN
