import MbedMqtt.Gateway.ClientRecvTask
import MbedMqtt.Library.DoublyLinked

-- the gateway's linked containers as they are linked, the tail as the code leaves it
namespace MbedMqtt.MQTTSNGW

variable {α : Type}

structure LinkedQue (α : Type) where
  list : DList α
  cnt : Int
  maxSize : Int

namespace LinkedQue

def initial : LinkedQue α := ⟨.empty, 0, 0⟩

def pop (que : LinkedQue α) : Option (LinkedQue α) :=
  match que.list.head with
  | none => some que
  | some head =>
      if que.list.head = que.list.tail then
        some ⟨⟨que.list.heap.free head, none, none⟩, que.cnt - 1, que.maxSize⟩
      else
        match que.list.heap.read head with
        | none => none
        | some link =>
            (que.list.heap.setPrev head none).map fun heap =>
              ⟨⟨heap.free head, link.next, que.list.tail⟩, que.cnt - 1, que.maxSize⟩

def front (que : LinkedQue α) : Option (Option α) :=
  match que.list.head with
  | none => some none
  | some head => (que.list.heap.read head).map fun link => some link.value

def link (list : DList α) (t : α) : Option (DList α) :=
  let elm := list.heap.brk
  match list.head with
  | some head =>
      if list.tail = list.head then
        ((list.heap.alloc ⟨t, list.tail, none⟩).setNext head (some elm)).map fun heap =>
          ⟨heap, list.head, some elm⟩
      else
        match list.tail with
        | none => none
        | some tail =>
            ((list.heap.alloc ⟨t, some tail, none⟩).setNext tail (some elm)).map fun heap =>
              ⟨heap, list.head, some elm⟩
  | none => some ⟨list.heap.alloc ⟨t, none, none⟩, some elm, some elm⟩

def post (que : LinkedQue α) (t : Option α) : Option (LinkedQue α × Int) :=
  match t with
  | none => some (que, 0)
  | some t =>
      if que.maxSize = 0 ∨ que.cnt < que.maxSize then
        (link que.list t).map fun list => (⟨list, que.cnt + 1, que.maxSize⟩, que.cnt + 1)
      else some (que, 0)

def size (que : LinkedQue α) : Int := que.cnt

def setMaxSize (que : LinkedQue α) (maxSize : Int) : LinkedQue α := { que with maxSize := maxSize }

end LinkedQue

structure LinkedList (α : Type) where
  list : DList α
  size : Int

namespace LinkedList

def initial : LinkedList α := ⟨.empty, 0⟩

def add (l : LinkedList α) (t : α) : Option (LinkedList α × Int) :=
  (l.list.append t).map fun list => (⟨list, l.size + 1⟩, 1)

def erase (l : LinkedList α) (elm : Nat) : Option (LinkedList α) :=
  match l.list.heap.read elm with
  | none => none
  | some link =>
      if l.list.head = some elm then
        some ⟨⟨l.list.heap.free elm, link.next, l.list.tail⟩, l.size - 1⟩
      else if l.list.tail = some elm then
        match link.prev with
        | none => none
        | some prev =>
            (l.list.heap.setNext prev none).map fun heap =>
              ⟨⟨heap.free elm, l.list.head, link.prev⟩, l.size - 1⟩
      else
        match link.prev, link.next with
        | some prev, some next =>
            ((l.list.heap.setNext prev link.next).bind fun heap => heap.setPrev next link.prev).map
              fun heap => ⟨⟨heap.free elm, l.list.head, l.list.tail⟩, l.size - 1⟩
        | _, _ => none

def clear (l : LinkedList α) : Option (LinkedList α) := l.list.clear.map fun list => ⟨list, 0⟩

def getElm (l : LinkedList α) : Option Nat := l.list.head

def getNext (l : LinkedList α) (elm : Nat) : Option (Option Nat) :=
  (l.list.heap.read elm).map (·.next)

def getSize (l : LinkedList α) : Int := l.size

-- the element a caller has after `k` steps of `getNext` from `getElm`
def walk (l : LinkedList α) : Nat → Option (Option Nat)
  | 0 => some l.getElm
  | k + 1 =>
      match l.walk k with
      | none => none
      | some none => some none
      | some (some elm) => l.getNext elm

end LinkedList

structure LinkedWaitREGACK where
  list : DList WaitREGACKPacket
  cnt : UInt8

namespace LinkedWaitREGACK

def initial : LinkedWaitREGACK := ⟨.empty, 0⟩

def find (waiting : LinkedWaitREGACK) (msgId : UInt16) : Option (Option Nat) :=
  waiting.list.find (·.msgId = msgId)

def setPacket (waiting : LinkedWaitREGACK) (packet : MQTTSNPacket) (msgId : UInt16) :
    Option (LinkedWaitREGACK × Int) :=
  (waiting.list.append ⟨msgId, packet⟩).map fun list => (⟨list, waiting.cnt + 1⟩, 1)

def getPacket (waiting : LinkedWaitREGACK) (msgId : UInt16) : Option (Option MQTTSNPacket) :=
  match waiting.find msgId with
  | none => none
  | some none => some none
  | some (some p) => (waiting.list.heap.read p).map fun link => some link.value.packet

-- the element itself is left allocated
def erase (waiting : LinkedWaitREGACK) (msgId : UInt16) : Option LinkedWaitREGACK :=
  match waiting.find msgId with
  | none => none
  | some none => some waiting
  | some (some p) => (waiting.list.detach p).map fun list => ⟨list, waiting.cnt - 1⟩

def getCount (waiting : LinkedWaitREGACK) : UInt8 := waiting.cnt

end LinkedWaitREGACK

structure LinkedClientList where
  list : DList ListedClient
  clientCnt : UInt16
  authorize : Bool

namespace LinkedClientList

def initial : LinkedClientList := ⟨.empty, 0, false⟩

def getClient (l : LinkedClientList) : Option SensorNetAddress → Option (Option Nat)
  | some addr => l.list.find (·.sensorNetAddr.isMatch addr)
  | none => some none

def getClientById (l : LinkedClientList) (clientId : Bytes) : Option (Option Nat) :=
  l.list.find fun listed => strncmpEqual clientId.length listed.clientId clientId

def walk (heap : LinkHeap (DLink ListedClient)) : Nat → Option Nat → Option (Option Nat)
  | _, none => some none
  | 0, some client => some (some client)
  | p + 1, some client =>
      match heap.read client with
      | none => none
      | some link => walk heap p link.next

def getClientAt (l : LinkedClientList) (index : Nat) : Option (Option Nat) :=
  walk l.list.heap index l.list.head

def add (l : LinkedClientList) (addr : Option SensorNetAddress) (clientId : Bytes) (type : Nat) :
    Option (LinkedClientList × Option Nat) :=
  let client := l.list.heap.brk
  (l.list.append ⟨client, clientId, addr.getD .zero, type = QOSM1PROXY_TYPE, false, false⟩).map
    fun list => (⟨list, l.clientCnt + 1, l.authorize⟩, some client)

def createClient (l : LinkedClientList) (addr : Option SensorNetAddress) (clientId : Bytes)
    (type : Nat) : Option (LinkedClientList × Option Nat) :=
  if MAX_CLIENTS < l.clientCnt.toNat then some (l, none)
  else
    match l.getClient addr with
    | none => none
    | some (some client) => some (l, some client)
    | some none => l.add addr clientId type

def modify (l : LinkedClientList) (client : Nat) (change : ListedClient → ListedClient) :
    Option (LinkedClientList × Option Nat) :=
  (l.list.modify client change).map fun list => ({ l with list := list }, some client)

def hasPredefTopic (listed : ListedClient) : ListedClient := { listed with hasPredefTopic := true }

-- the topic goes to a table of the client's own
def createPredefinedTopic (l : LinkedClientList) (clientId : Bytes) :
    Option (LinkedClientList × Option Nat) :=
  match l.getClientById clientId with
  | none => none
  | some found =>
      if l.authorize && found.isNone then some (l, none)
      else if MAX_CLIENTS < l.clientCnt.toNat then some (l, none)
      else
        match found with
        | some client => l.modify client hasPredefTopic
        | none =>
            (l.add none clientId 0).bind fun added =>
              added.1.modify l.list.heap.brk hasPredefTopic

def createList (l : LinkedClientList) (type : Nat) :
    List (SensorNetAddress × Bytes) → Option LinkedClientList
  | [] => some l
  | (addr, clientId) :: lines =>
      match l.createClient (some addr) clientId type with
      | none => none
      | some created => created.1.createList type lines

-- with client authentication on
def initializeClients (l : LinkedClientList) (type : Nat) (lines : List (SensorNetAddress × Bytes)) :
    Option LinkedClientList :=
  (l.createList type lines).map fun l => { l with authorize := true }

def setClientAddress (l : LinkedClientList) (client : Nat) (addr : SensorNetAddress) :
    Option (LinkedClientList × Option Nat) :=
  l.modify client fun listed => { listed with sensorNetAddr := addr }

def setForwarder (l : LinkedClientList) (client : Nat) : Option (LinkedClientList × Option Nat) :=
  l.modify client fun listed => { listed with isQoSm1 := false, isForwarded := true }

-- a client that is erasable has no forwarder to be taken from; the pointer is what is left of it
def erase (l : LinkedClientList) (client : Nat) (sessionStatus : Bool) :
    Option (LinkedClientList × Option Nat) :=
  if l.authorize then some (l, some client)
  else
    match l.list.heap.read client with
    | none => none
    | some link =>
        if sessionStatus && !link.value.hasPredefTopic && !link.value.isForwarded then
          (l.list.detach client).map fun list =>
            (⟨list.free client, l.clientCnt - 1, l.authorize⟩, none)
        else some (l, some client)

-- `BrokerRecvTask::run` over the clients, `closed` those whose socket reads 0
def sweepFrom (closed sessionStatus : Nat → Bool) :
    Nat → LinkedClientList → Option Nat → Option (LinkedClientList × List Nat)
  | 0, _, _ => none
  | _ + 1, l, none => some (l, [])
  | fuel + 1, l, some client =>
      let erased :=
        if closed client then l.erase client (sessionStatus client) else some (l, some client)
      match erased with
      | none => none
      | some (l, none) => some (l, [client])
      | some (l, some client) =>
          match l.list.heap.read client with
          | none => none
          | some link =>
              (sweepFrom closed sessionStatus fuel l link.next).map fun r => (r.1, client :: r.2)

def sweep (l : LinkedClientList) (closed sessionStatus : Nat → Bool) :
    Option (LinkedClientList × List Nat) :=
  match l.getClientAt 0 with
  | none => none
  | some first => sweepFrom closed sessionStatus (l.list.heap.brk + 1) l first

def getClientCount (l : LinkedClientList) : UInt16 := l.clientCnt

end LinkedClientList

end MbedMqtt.MQTTSNGW
