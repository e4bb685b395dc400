import MbedMqtt.Library.SlotTable
import MbedMqtt.Packet.Connect
import MbedMqtt.Packet.Subscribe
import MbedMqtt.Network.Platform

namespace MbedMqtt

structure MessageHandlers where
  topicFilter : Option Bytes
  fp : Option Nat
  deriving DecidableEq, Repr

structure Session where
  commandTimeoutMs : Nat
  keepAliveInterval : Nat
  cleansession : Bool
  isconnected : Bool
  packetid : Nat
  messageHandlers : List MessageHandlers
  defaultMessageHandler : Option Nat
  pubbuf : Bytes
  inflightLen : Nat
  inflightMsgid : Nat
  inflightQoS : QoS
  pubrel : Bool
  incomingQoS2messages : List Nat
  deriving DecidableEq, Repr

structure Client (τ : Type) extends Session where
  sendbuf : Bytes
  readbuf : Bytes
  lastSent : τ
  lastReceived : τ
  pingOutstanding : Bool
  deriving DecidableEq, Repr

structure Outcome (σ τ κ : Type) where
  rc : Int
  client : Client τ
  world : World σ τ κ
  deriving DecidableEq, Repr

def maxPacketId : Nat := 65535

def getNext (next : Nat) : Nat := if next = maxPacketId then 1 else next + 1

def Session.cleanSession (cfg : Config) (s : Session) : Session :=
  { s with
    messageHandlers := s.messageHandlers.map fun slot => { slot with topicFilter := none }
    inflightMsgid := if cfg.qos1 then 0 else s.inflightMsgid
    inflightQoS := if cfg.qos1 then .QOS0 else s.inflightQoS
    pubrel := if cfg.qos2 then false else s.pubrel
    incomingQoS2messages :=
      if cfg.qos2 then s.incomingQoS2messages.map fun _ => 0 else s.incomingQoS2messages }

def Session.close (cfg : Config) (s : Session) : Session :=
  let s := { s with isconnected := false }
  if s.cleansession then s.cleanSession cfg else s

def isQoS2msgidFree (table : List Nat) (id : Nat) : Bool := !table.contains id

def useQoS2msgid (table : List Nat) (id : Nat) : Bool × List Nat := SlotTable.fill 0 id table

def freeQoS2msgid (table : List Nat) (id : Nat) : List Nat := SlotTable.vacate 0 id table

def setMessageHandler (slots : List MessageHandlers) (topicFilter : Bytes) (mh : Option Nat) :
    Int × List MessageHandlers :=
  let i := slots.findIdx fun slot => slot.topicFilter = some topicFilter
  if i < slots.length then
    match mh with
    | none => (SUCCESS, slots.set i ⟨none, none⟩)
    | some h => (SUCCESS, slots.set i ⟨some topicFilter, some h⟩)
  else
    match mh with
    | none => (FAILURE, slots)
    | some h =>
        let i := slots.findIdx fun slot => slot.topicFilter = none
        if i < slots.length then (SUCCESS, slots.set i ⟨some topicFilter, some h⟩)
        else (FAILURE, slots)

def packetEquals (a : MQTTString) (b : Bytes) : Bool :=
  match a.cstring with
  | some text => text = b
  | none => (a.data.getD []).take a.len = b

def topicScan : Bytes → Bytes → Bytes × Bytes
  | [], name => ([], name)
  | curf :: filter, [] => (curf :: filter, [])
  | curf :: filter, curn :: name =>
      if curn = 47 ∧ curf ≠ 47 then (curf :: filter, curn :: name)
      else if curf ≠ 43 ∧ curf ≠ 35 ∧ curf ≠ curn then (curf :: filter, curn :: name)
      else if curf = 43 then topicScan filter (name.dropWhile (· ≠ 47))
      else if curf = 35 then topicScan filter []
      else topicScan filter name

def isTopicMatched (topicFilter : Bytes) (topicName : MQTTString) : Bool :=
  let (curf, curn) := topicScan topicFilter ((topicName.data.getD []).take topicName.len)
  let curf := match curf with
    | 47 :: 35 :: rest => rest
    | 47 :: rest => rest
    | rest => rest
  curn = [] && curf = []

def matchedHandlers (slots : List MessageHandlers) (topicName : MQTTString) : List Nat :=
  slots.filterMap fun slot =>
    match slot.topicFilter with
    | none => none
    | some f => if packetEquals topicName f || isTopicMatched f topicName then slot.fp else none

def Session.invoked (s : Session) (topicName : MQTTString) : List Nat :=
  let handlers := matchedHandlers s.messageHandlers topicName
  if handlers.isEmpty then s.defaultMessageHandler.toList else handlers

def Session.initial (cfg : Config) (commandTimeoutMs : Nat) : Session where
  commandTimeoutMs := commandTimeoutMs
  keepAliveInterval := 0
  cleansession := true
  isconnected := false
  packetid := 0
  messageHandlers := List.replicate cfg.maxMessageHandlers ⟨none, none⟩
  defaultMessageHandler := none
  pubbuf := List.replicate cfg.maxPacketSize 0
  inflightLen := 0
  inflightMsgid := 0
  inflightQoS := .QOS0
  pubrel := false
  incomingQoS2messages := List.replicate cfg.maxIncomingQoS2Messages 0

namespace Client

variable {τ : Type}

def closeSession (cfg : Config) (c : Client τ) : Client τ :=
  { c with toSession := c.toSession.close cfg, pingOutstanding := false }

def construct (cfg : Config) (commandTimeoutMs : Nat) (idle : τ) : Client τ :=
  closeSession cfg
    { toSession := .initial cfg commandTimeoutMs
      sendbuf := List.replicate cfg.maxPacketSize 0
      readbuf := List.replicate cfg.maxPacketSize 0
      lastSent := idle
      lastReceived := idle
      pingOutstanding := false }

theorem construct_toSession (cfg : Config) (commandTimeoutMs : Nat) (idle : τ) :
    (construct cfg commandTimeoutMs idle).toSession = .initial cfg commandTimeoutMs := by
  simp [construct, closeSession, Session.close, Session.cleanSession, Session.initial]

end Client

variable {σ τ κ : Type}

def deliverMessage (c : Client τ) (w : World σ τ κ) (topicName : MQTTString) (message : Message) :
    Outcome σ τ κ :=
  let handlers := c.invoked topicName
  { rc := if handlers.isEmpty then FAILURE else SUCCESS
    client := c
    world := w.record [.delivered topicName message handlers] }

end MbedMqtt
