import MbedMqtt.Packet.Publish

namespace MbedMqtt

structure ReadResult where
  rc : Int
  bytes : Bytes
  deriving DecidableEq, Repr

class Network (σ : Type) where
  read : σ → Nat → ReadResult × σ
  write : σ → Bytes → Int × σ
  read_length : ∀ s n, 0 < (read s n).1.rc → ((read s n).1.bytes.length : Int) = (read s n).1.rc

class Timer (τ : Type) (κ : outParam Type) where
  countdownMs : Nat → Option κ → τ
  expired : τ → κ → Bool

structure Message where
  qos : QoS
  retained : Nat
  dup : Nat
  id : Nat
  payload : Bytes
  payloadlen : Int
  deriving DecidableEq, Repr

inductive Event where
  | received (header : UInt8) (body : Bytes)
  | delivered (topicName : MQTTString) (message : Message) (handlers : List Nat)
  | sent (packet : Bytes)
  | unsent (packet : Bytes)
  deriving DecidableEq, Repr

structure World (σ τ κ : Type) where
  net : σ
  clock : List κ
  stack : List Nat
  pingSent : τ
  log : List Event
  deriving DecidableEq, Repr

namespace World

variable {σ τ κ : Type}

def tick (w : World σ τ κ) : World σ τ κ := { w with clock := w.clock.tail }

def countdownMs [Timer τ κ] (w : World σ τ κ) (ms : Nat) : τ := Timer.countdownMs ms w.clock.head?

def countdown [Timer τ κ] (w : World σ τ κ) (seconds : Nat) : τ := w.countdownMs (seconds * 1000)

def expired [Timer τ κ] (w : World σ τ κ) (timer : τ) : Bool :=
  match w.clock with
  | [] => true
  | now :: _ => Timer.expired timer now

def uninitialised (w : World σ τ κ) : Nat := w.stack.headD 0

def pop (w : World σ τ κ) : World σ τ κ := { w with stack := w.stack.tail }

def record (w : World σ τ κ) (events : List Event) : World σ τ κ :=
  { w with log := w.log ++ events }

def since (w w' : World σ τ κ) : List Event := w'.log.drop w.log.length

@[simp] theorem tick_log (w : World σ τ κ) : w.tick.log = w.log := rfl
@[simp] theorem pop_log (w : World σ τ κ) : w.pop.log = w.log := rfl
@[simp] theorem record_log (w : World σ τ κ) (events : List Event) :
    (w.record events).log = w.log ++ events := rfl

theorem since_eq {w w' : World σ τ κ} {events : List Event} (h : w'.log = w.log ++ events) :
    w.since w' = events := by
  simp [since, h]

end World

end MbedMqtt
