import MbedMqtt.Library.Steps
import MbedMqtt.Client.Calls

namespace MbedMqtt

inductive Op where
  | connect (options : ConnectData)
  | publish (topicName payload : Bytes) (id : Nat) (qos : QoS) (retained : Bool)
  | subscribe (topicFilter : Bytes) (qos : QoS) (mh : Option Nat)
  | unsubscribe (topicFilter : Bytes)
  | yield (timeoutMs : Nat)
  | disconnect
  | setMessageHandler (topicFilter : Bytes) (mh : Option Nat)
  | setDefaultMessageHandler (mh : Option Nat)
  deriving DecidableEq, Repr

inductive Runs (cfg : Config) (s : Session) : Op → Int → List Event → Session → Prop
  | connect {options : ConnectData} {rc : Int} {ev : List Event} {t : Session}
      (h : Connects cfg options s rc ev t) : Runs cfg s (.connect options) rc ev t
  | publish {topicName payload : Bytes} {id : Nat} {qos : QoS} {retained : Bool} {rc : Int}
      {ev : List Event} {t : Session}
      (h : Publishes cfg s topicName payload id qos retained rc ev t) :
      Runs cfg s (.publish topicName payload id qos retained) rc ev t
  | subscribe {topicFilter : Bytes} {qos : QoS} {mh : Option Nat} {rc : Int} {ev : List Event}
      {t : Session}
      (h : Requests cfg (serializeSubscribe cfg.maxPacketSize 0 (getNext s.packetid)
        [.ofCString topicFilter] [qos.toInt]) SUBACK topicFilter mh s rc ev t) :
      Runs cfg s (.subscribe topicFilter qos mh) rc ev t
  | unsubscribe {topicFilter : Bytes} {rc : Int} {ev : List Event} {t : Session}
      (h : Requests cfg (serializeUnsubscribe cfg.maxPacketSize 0 (getNext s.packetid)
        [.ofCString topicFilter]) UNSUBACK topicFilter none s rc ev t) :
      Runs cfg s (.unsubscribe topicFilter) rc ev t
  | yield {timeoutMs : Nat} {rc : Int} {ev : List Event} {t : Session} (h : Waits cfg s ev t)
      (hl : rc = SUCCESS → t.isconnected = (s.isconnected && allExpected cfg (heard ev))) :
      Runs cfg s (.yield timeoutMs) rc ev t
  | disconnect {rc : Int} {ev : List Event} {t : Session} (h : Disconnects cfg s ev t) :
      Runs cfg s .disconnect rc ev t
  | setMessageHandler {topicFilter : Bytes} {mh : Option Nat} :
      Runs cfg s (.setMessageHandler topicFilter mh)
        (setMessageHandler s.messageHandlers topicFilter mh).1 []
        { s with messageHandlers := (setMessageHandler s.messageHandlers topicFilter mh).2 }
  | setDefaultMessageHandler {mh : Option Nat} :
      Runs cfg s (.setDefaultMessageHandler mh) SUCCESS []
        { s with defaultMessageHandler := mh }

variable {σ τ κ : Type} [Network σ] [Timer τ κ]

def Op.run (cfg : Config) (c : Client τ) (w : World σ τ κ) : Op → Outcome σ τ κ
  | .connect options => (MbedMqtt.connect cfg c w options ⟨0, false⟩).toOutcome
  | .publish topicName payload id qos retained =>
      (MbedMqtt.publish cfg c w topicName payload id qos retained).toOutcome
  | .subscribe topicFilter qos mh => (MbedMqtt.subscribe cfg c w topicFilter qos mh 0).toOutcome
  | .unsubscribe topicFilter => MbedMqtt.unsubscribe cfg c w topicFilter
  | .yield timeoutMs => MbedMqtt.yield cfg c w timeoutMs
  | .disconnect => MbedMqtt.disconnect cfg c w
  | .setMessageHandler topicFilter mh =>
      let r := MbedMqtt.setMessageHandler c.messageHandlers topicFilter mh
      ⟨r.1, { c with messageHandlers := r.2 }, w⟩
  | .setDefaultMessageHandler mh => ⟨SUCCESS, { c with defaultMessageHandler := mh }, w⟩

theorem run_runs (cfg : Config) (c : Client τ) (w : World σ τ κ) (op : Op) :
    ∃ ev, (op.run cfg c w).world.log = w.log ++ ev ∧
      Runs cfg c.toSession op (op.run cfg c w).rc ev (op.run cfg c w).client.toSession := by
  cases op with
  | connect options =>
    obtain ⟨ev, hlog, h⟩ := connect_connects cfg c w options ⟨0, false⟩
    exact ⟨ev, hlog, .connect h⟩
  | publish topicName payload id qos retained =>
    obtain ⟨ev, hlog, h⟩ := publish_publishes cfg c w topicName payload id qos retained
    exact ⟨ev, hlog, .publish h⟩
  | subscribe topicFilter qos mh =>
    obtain ⟨ev, hlog, h⟩ := subscribe_requests cfg c w topicFilter qos mh 0
    exact ⟨ev, hlog, .subscribe h⟩
  | unsubscribe topicFilter =>
    obtain ⟨ev, hlog, h⟩ := unsubscribe_requests cfg c w topicFilter
    exact ⟨ev, hlog, .unsubscribe h⟩
  | yield timeoutMs =>
    obtain ⟨ev, h⟩ := yield_yield cfg c w timeoutMs
    exact ⟨ev, h.log, .yield h.waits h.alive⟩
  | disconnect =>
    obtain ⟨ev, hlog, h⟩ := disconnect_disconnects cfg c w
    exact ⟨ev, hlog, .disconnect h⟩
  | setMessageHandler topicFilter mh => exact ⟨[], by simp [Op.run], .setMessageHandler⟩
  | setDefaultMessageHandler mh => exact ⟨[], by simp [Op.run], .setDefaultMessageHandler⟩

structure System (τ : Type) where
  client : Client τ
  pingSent : τ
  log : List Event
  deriving DecidableEq, Repr

structure Call (σ κ : Type) where
  op : Op
  net : σ
  clock : List κ
  stack : List Nat
  deriving DecidableEq, Repr

namespace System

def start (cfg : Config) (commandTimeoutMs : Nat) (idle : τ) : System τ :=
  ⟨.construct cfg commandTimeoutMs idle, idle, []⟩

def enter (y : System τ) (call : Call σ κ) : World σ τ κ :=
  ⟨call.net, call.clock, call.stack, y.pingSent, y.log⟩

def rc (cfg : Config) (y : System τ) (call : Call σ κ) : Int :=
  (call.op.run cfg y.client (y.enter call)).rc

def perform (cfg : Config) (y : System τ) (call : Call σ κ) : System τ :=
  let r := call.op.run cfg y.client (y.enter call)
  ⟨r.client, r.world.pingSent, r.world.log⟩

def run (cfg : Config) (y : System τ) (calls : List (Call σ κ)) : System τ :=
  calls.foldl (perform cfg) y

def events (cfg : Config) (y : System τ) (call : Call σ κ) : List Event :=
  (y.perform cfg call).log.drop y.log.length

theorem perform_runs (cfg : Config) (y : System τ) (call : Call σ κ) :
    (y.perform cfg call).log = y.log ++ y.events cfg call ∧
      Runs cfg y.client.toSession call.op (y.rc cfg call) (y.events cfg call)
        (y.perform cfg call).client.toSession := by
  obtain ⟨ev, hlog, h⟩ := run_runs cfg y.client (y.enter call) call.op
  have hlog : (y.perform cfg call).log = y.log ++ ev := hlog
  have hev : y.events cfg call = ev := by simp [events, hlog]
  rw [hev]
  exact ⟨hlog, h⟩

def rcs (cfg : Config) (y : System τ) : List (Call σ κ) → List Int
  | [] => []
  | call :: calls => y.rc cfg call :: rcs cfg (y.perform cfg call) calls

def since (cfg : Config) (y : System τ) : List (Call σ κ) → List Event
  | [] => []
  | call :: calls => y.events cfg call ++ since cfg (y.perform cfg call) calls

theorem run_log (cfg : Config) (y : System τ) (calls : List (Call σ κ)) :
    (run cfg y calls).log = y.log ++ y.since cfg calls := by
  induction calls generalizing y with
  | nil => simp [run, since]
  | cons call calls ih =>
    rw [since, ← List.append_assoc, ← (y.perform_runs cfg call).1]
    exact ih (y.perform cfg call)

end System

end MbedMqtt
