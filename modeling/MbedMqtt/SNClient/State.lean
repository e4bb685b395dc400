import MbedMqtt.Client.State
import MbedMqtt.SNPacket.Connect
import MbedMqtt.SNPacket.Subscribe

namespace MbedMqtt.MQTTSN

open MQTTSNGW

abbrev MAX_SUBSCRIPTIONS_EXCEEDED : Int := -3

-- `past` is the memory outside `readbuf`, `stray` the text found behind a topic id that is taken
-- for a pointer to a name
structure Config extends MbedMqtt.Config where
  bitsSigned : Bool
  past : Int → UInt8
  stray : Nat → Bytes
  readbufAddress : Nat

def Config.standard (build : Build) : Config where
  toConfig := .standard build
  bitsSigned := true
  past := fun _ => 0
  stray := fun _ => []
  readbufAddress := 0

inductive Event where
  | received (type : UInt8) (packet : Bytes)
  | delivered (topic : TopicId) (message : Message) (handlers : List Nat)
  | sent (packet : Bytes)
  | unsent (packet : Bytes)
  deriving DecidableEq, Repr

structure World (σ κ : Type) where
  net : σ
  clock : List κ
  stack : List Nat
  log : List Event
  deriving DecidableEq, Repr

namespace World

variable {σ τ κ : Type}

def tick (w : World σ κ) : World σ κ := { w with clock := w.clock.tail }

def countdownMs [Timer τ κ] (w : World σ κ) (ms : Nat) : τ := Timer.countdownMs ms w.clock.head?

def countdown [Timer τ κ] (w : World σ κ) (seconds : Nat) : τ := w.countdownMs (seconds * 1000)

def expired [Timer τ κ] (w : World σ κ) (timer : τ) : Bool :=
  match w.clock with
  | [] => true
  | now :: _ => Timer.expired timer now

def uninitialised (w : World σ κ) : Nat := w.stack.headD 0

def pop (w : World σ κ) : World σ κ := { w with stack := w.stack.tail }

def record (w : World σ κ) (events : List Event) : World σ κ := { w with log := w.log ++ events }

def since (w w' : World σ κ) : List Event := w'.log.drop w.log.length

@[simp] theorem tick_log (w : World σ κ) : w.tick.log = w.log := rfl
@[simp] theorem pop_log (w : World σ κ) : w.pop.log = w.log := rfl
@[simp] theorem record_log (w : World σ κ) (events : List Event) :
    (w.record events).log = w.log ++ events := rfl

theorem since_append {w w' : World σ κ} {events : List Event} (h : w'.log = w.log ++ events) :
    w.since w' = events := by
  rw [since, h, List.drop_left]

end World

def heard (events : List Event) : List (UInt8 × Bytes) :=
  events.filterMap fun
    | .received type packet => some (type, packet)
    | _ => none

@[simp] theorem heard_append (ev ev' : List Event) : heard (ev ++ ev') = heard ev ++ heard ev' :=
  List.filterMap_append

-- a handler keeps the address of the caller's topic, not a copy
structure MessageHandlers where
  topicFilter : Option Nat
  fp : Option Nat
  deriving DecidableEq, Repr

structure Session where
  commandTimeoutMs : Nat
  duration : Nat
  cleansession : Bool
  packetid : Nat
  messageHandlers : List MessageHandlers
  defaultMessageHandler : Option Nat
  isconnected : Bool
  pubbuf : Bytes
  inflightLen : Nat
  inflightMsgid : Nat
  inflightQoS : QoS
  pubrel : Bool
  topics : Nat → TopicId

structure Client (τ : Type) extends Session where
  sendbuf : Bytes
  readbuf : Bytes
  lastSent : τ
  lastReceived : τ
  pingOutstanding : Bool
  incomingQoS2messages : List Nat

structure Outcome (σ τ κ : Type) where
  rc : Int
  client : Client τ
  world : World σ κ

namespace Client

variable {τ : Type}

-- `duration`, `cleansession` and the buffers are what the memory held before
def construct (cfg : Config) (commandTimeoutMs : Nat) (idle : τ) (duration : Nat)
    (cleansession : Bool) : Client τ where
  commandTimeoutMs := commandTimeoutMs
  duration := duration
  cleansession := cleansession
  packetid := 0
  messageHandlers := List.replicate cfg.maxMessageHandlers ⟨none, none⟩
  defaultMessageHandler := none
  isconnected := false
  pubbuf := List.replicate cfg.maxPacketSize 0
  inflightLen := 0
  inflightMsgid := 0
  inflightQoS := .QOS0
  pubrel := false
  topics := fun _ => ⟨.normal, .id 0⟩
  sendbuf := List.replicate cfg.maxPacketSize 0
  readbuf := List.replicate cfg.maxPacketSize 0
  lastSent := idle
  lastReceived := idle
  pingOutstanding := false
  incomingQoS2messages := List.replicate cfg.maxIncomingQoS2Messages 0

def memory (cfg : Config) (c : Client τ) (i : Int) : UInt8 :=
  if i < 0 then cfg.past i else c.readbuf.getD i.toNat (cfg.past i)

def fillSendbuf (c : Client τ) (packet : Bytes) : Client τ :=
  { c with sendbuf := store c.sendbuf 0 packet }

def fillReadbuf (c : Client τ) (bytes : Bytes) : Client τ :=
  { c with readbuf := store c.readbuf 0 bytes }

@[simp] theorem fillSendbuf_toSession (c : Client τ) (packet : Bytes) :
    (c.fillSendbuf packet).toSession = c.toSession := rfl
@[simp] theorem fillSendbuf_readbuf (c : Client τ) (packet : Bytes) :
    (c.fillSendbuf packet).readbuf = c.readbuf := rfl

theorem memory_congr (cfg : Config) {c c' : Client τ} (h : c'.readbuf = c.readbuf) :
    c'.memory cfg = c.memory cfg := by
  funext i
  rw [memory, memory, h]

theorem memory_laidOut (cfg : Config) {c : Client τ} {packet tail : Bytes}
    (h : c.readbuf = packet ++ tail) : LaidOut (c.memory cfg) 0 packet := by
  intro n hn
  have hnot : ¬(0 + (n : Int)) < 0 := by omega
  rw [memory, if_neg hnot, h]
  simp [List.getElem?_append_left hn, hn]

end Client

def TopicName.ofBytes (bytes : Bytes) : TopicName where
  bytes := bytes.take 65535
  bounded := by
    rw [List.length_take]
    omega

-- the topic that `MQTTSNDeserialize_publish` leaves in the caller's union
def ReadTopic.data (cfg : Config) (mem : Int → UInt8) : ReadTopic Slice → TopicData
  | .id value => .id (UInt16.ofNat value)
  | .shortName first second => .shortName first second
  | .long name => .long (TopicName.ofBytes ((name.items mem).getD []))
      (cfg.readbufAddress + name.start.toNat)
  | .untouched => .id 0

def TopicData.longName (cfg : Config) : TopicData → Bytes
  | .long name _ => name.bytes
  | data => cfg.stray data.idField.toNat

def topicEquals (a b : TopicId) : Bool :=
  a.type = b.type && a.data.idField = b.data.idField && a.data.shortField = b.data.shortField

def isTopicMatched (topicFilter topicName : Bytes) : Bool :=
  topicScan (cStr topicFilter) topicName = ([], [])

def matchedHandlers (cfg : Config) (topics : Nat → TopicId) (slots : List MessageHandlers)
    (topic : TopicId) : List Nat :=
  slots.filterMap fun slot =>
    match slot.topicFilter with
    | none => none
    | some address =>
        if topicEquals topic (topics address) ||
            isTopicMatched (TopicData.longName cfg (topics address).data)
              (TopicData.longName cfg topic.data) then slot.fp
        else none

def Session.invoked (cfg : Config) (s : Session) (topic : TopicId) : List Nat :=
  let handlers := matchedHandlers cfg s.topics s.messageHandlers topic
  if handlers.isEmpty then s.defaultMessageHandler.toList else handlers

variable {σ τ κ : Type}

def deliverMessage (cfg : Config) (c : Client τ) (w : World σ κ) (topic : TopicId)
    (message : Message) : Outcome σ τ κ :=
  let handlers := c.invoked cfg topic
  { rc := if handlers.isEmpty then FAILURE else SUCCESS
    client := c
    world := w.record [.delivered topic message handlers] }

def attach (slots : List MessageHandlers) (topicFilter : Nat) (messageHandler : Option Nat) :
    List MessageHandlers :=
  let i := slots.findIdx fun slot => slot.topicFilter = none
  if i < slots.length then slots.set i ⟨some topicFilter, messageHandler⟩ else slots

end MbedMqtt.MQTTSN
