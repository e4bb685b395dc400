import MbedMqtt.ClientC.Transport

namespace MbedMqtt.MQTTClientC

structure Session where
  nextPacketid : Nat
  commandTimeoutMs : Nat
  pingOutstanding : Bool
  isconnected : Bool
  cleansession : Bool
  messageHandlers : List MessageHandlers
  defaultMessageHandler : Option Nat
  deriving DecidableEq, Repr

structure Client (τ : Type) extends MQTTClient τ, Session where
  bufSize : Nat
  readbuf : Bytes
  readbufSize : Nat
  lastReceived : τ

structure Result (σ τ κ : Type) where
  rc : Int
  client : Client τ
  world : World σ τ κ

-- the signedness of plain char and the memory behind `buf`
structure Target where
  charSigned : Bool
  beyond : Nat → UInt8

def getNextPacketId (nextPacketid : Nat) : Nat :=
  if nextPacketid = maxPacketId then 1 else nextPacketid + 1

namespace Session

def cleanSession (s : Session) : Session :=
  { s with messageHandlers := s.messageHandlers.map fun slot => { slot with topicFilter := none } }

def close (s : Session) : Session :=
  let s := { s with pingOutstanding := false, isconnected := false }
  if s.cleansession then s.cleanSession else s

def numbered (s : Session) : Session := { s with nextPacketid := getNextPacketId s.nextPacketid }

def opened (s : Session) : Session := { s with isconnected := true, pingOutstanding := false }

def ponged (s : Session) : Session := { s with pingOutstanding := false }

theorem close_cases (s : Session) :
    s.cleansession = false ∧
        s.close = { s with pingOutstanding := false, isconnected := false } ∨
      s.cleansession = true ∧
        s.close = cleanSession { s with pingOutstanding := false, isconnected := false } := by
  cases hs : s.cleansession with
  | false => exact .inl ⟨rfl, by simp [close, hs]⟩
  | true => exact .inr ⟨rfl, by simp [close, hs]⟩

@[simp] theorem close_isconnected (s : Session) : s.close.isconnected = false := by
  rcases s.close_cases with ⟨-, h⟩ | ⟨-, h⟩
  · rw [h]
  · rw [h]
    rfl

end Session

def findHandler (slots : List MessageHandlers) (topicFilter : Option Bytes) : Nat :=
  slots.findIdx fun slot => slot.topicFilter = topicFilter

def setMessageHandler (slots : List MessageHandlers) (topicFilter : Bytes) (mh : Option Nat) :
    Int × List MessageHandlers :=
  let i := findHandler slots (some topicFilter)
  let rc := if i < slots.length then SUCCESS else FAILURE
  match mh with
  | none => (rc, if rc = SUCCESS then slots.set i ⟨none, none⟩ else slots)
  | some h =>
      let i := if rc = FAILURE then findHandler slots none else i
      let rc := if i < slots.length then SUCCESS else rc
      (rc, if i < slots.length then slots.set i ⟨some topicFilter, some h⟩ else slots)

theorem setMessageHandler_eq (slots : List MessageHandlers) (topicFilter : Bytes)
    (mh : Option Nat) :
    setMessageHandler slots topicFilter mh = MbedMqtt.setMessageHandler slots topicFilter mh := by
  unfold setMessageHandler MbedMqtt.setMessageHandler findHandler
  generalize slots.findIdx (fun slot => decide (slot.topicFilter = some topicFilter)) = i
  generalize slots.findIdx (fun slot => decide (slot.topicFilter = none)) = j
  by_cases hi : i < slots.length
  · cases mh <;> simp [hi]
  · cases mh with
    | none => simp [hi]
    | some h => by_cases hj : j < slots.length <;> simp [hi, hj]

def matchedHandlers (slots : List MessageHandlers) (topicName : MQTTString) : List Nat :=
  slots.filterMap fun slot =>
    match slot.topicFilter with
    | none => none
    | some f => if packetEquals topicName f || isTopicMatched f topicName then slot.fp else none

def Session.invoked (s : Session) (topicName : MQTTString) : List Nat :=
  let handlers := matchedHandlers s.messageHandlers topicName
  if handlers.isEmpty then s.defaultMessageHandler.toList else handlers

variable {σ τ κ : Type}

-- the fields that MQTTClientInit leaves as they are come from `c`
def MQTTClientInit (c : Client τ) (commandTimeoutMs : Nat) (sendbuf : Bytes) (sendbufSize : Nat)
    (readbuf : Bytes) (readbufSize : Nat) (idle : τ) : Client τ :=
  { buf := sendbuf
    keepAliveInterval := c.keepAliveInterval
    lastSent := idle
    nextPacketid := 1
    commandTimeoutMs := commandTimeoutMs
    pingOutstanding := false
    isconnected := false
    cleansession := false
    messageHandlers := c.messageHandlers.map fun slot => { slot with topicFilter := none }
    defaultMessageHandler := none
    bufSize := sendbufSize
    readbuf := readbuf
    readbufSize := readbufSize
    lastReceived := idle }

namespace Client

def onSession (c : Client τ) (f : Session → Session) : Client τ := { c with toSession := f c.toSession }

def closeSession (c : Client τ) : Client τ := c.onSession Session.close

def fillBuf (c : Client τ) (packet : Bytes) : Client τ := { c with buf := store c.buf 0 packet }

@[simp] theorem onSession_toSession (c : Client τ) (f : Session → Session) :
    (c.onSession f).toSession = f c.toSession := rfl
@[simp] theorem onSession_bufSize (c : Client τ) (f : Session → Session) :
    (c.onSession f).bufSize = c.bufSize := rfl
@[simp] theorem onSession_readbuf (c : Client τ) (f : Session → Session) :
    (c.onSession f).readbuf = c.readbuf := rfl
@[simp] theorem fillBuf_toSession (c : Client τ) (packet : Bytes) :
    (c.fillBuf packet).toSession = c.toSession := rfl
@[simp] theorem fillBuf_bufSize (c : Client τ) (packet : Bytes) :
    (c.fillBuf packet).bufSize = c.bufSize := rfl
@[simp] theorem fillBuf_readbuf (c : Client τ) (packet : Bytes) :
    (c.fillBuf packet).readbuf = c.readbuf := rfl

theorem take_fillBuf (c : Client τ) (packet : Bytes) :
    (c.fillBuf packet).buf.take packet.length = packet := by
  simp [fillBuf, store_zero]

end Client

def deliverMessage (c : Client τ) (w : World σ τ κ) (topicName : MQTTString) (message : Message) :
    Result σ τ κ :=
  let handlers := c.invoked topicName
  { rc := if handlers.isEmpty then FAILURE else SUCCESS
    client := c
    world := w.record [.delivered topicName message handlers] }

end MbedMqtt.MQTTClientC
