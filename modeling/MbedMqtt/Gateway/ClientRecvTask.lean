import MbedMqtt.Gateway.PacketHandleTask

namespace MbedMqtt.MQTTSNGW

structure SensorNetAddress where
  portNo : UInt16
  ipAddr : UInt32
  deriving DecidableEq, Repr

namespace SensorNetAddress

def zero : SensorNetAddress := ⟨0, 0⟩

def isMatch (address other : SensorNetAddress) : Bool :=
  address.portNo = other.portNo && address.ipAddr = other.ipAddr

end SensorNetAddress

abbrev WirelessNodeId := Bytes

structure ForwarderElement where
  client : Nat
  wirelessNodeId : WirelessNodeId
  deriving DecidableEq, Repr

structure Forwarder where
  sensorNetAddr : SensorNetAddress
  elements : List ForwarderElement
  deriving DecidableEq, Repr

namespace Forwarder

def addClient (forwarder : Forwarder) (c : Nat) (id : WirelessNodeId) : Forwarder :=
  if forwarder.elements.any (·.client = c) then forwarder
  else { forwarder with elements := forwarder.elements ++ [⟨c, id⟩] }

def getClient (forwarder : Forwarder) (id : WirelessNodeId) : Option Nat :=
  (forwarder.elements.find? (·.wirelessNodeId = id)).map (·.client)

end Forwarder

structure ListedClient where
  client : Nat
  clientId : Bytes
  sensorNetAddr : SensorNetAddress
  isQoSm1 : Bool
  hasPredefTopic : Bool
  isForwarded : Bool
  deriving DecidableEq, Repr

def strncmpEqual : Nat → Bytes → Bytes → Bool
  | 0, _, _ => true
  | n + 1, s, t => s.headD 0 = t.headD 0 && (s.headD 0 = 0 || strncmpEqual n s.tail t.tail)

abbrev QOSM1PROXY_TYPE : Nat := 1

structure ClientList where
  clients : List ListedClient
  nextClient : Nat
  authorize : Bool
  fresh : ∀ listed ∈ clients, listed.client < nextClient

namespace ClientList

def getClient (list : ClientList) (addr : SensorNetAddress) : Option Nat :=
  (list.clients.find? (·.sensorNetAddr.isMatch addr)).map (·.client)

def getClientById (list : ClientList) (clientId : Bytes) : Option Nat :=
  (list.clients.find? fun listed => strncmpEqual clientId.length listed.clientId clientId).map
    (·.client)

def isQoSm1At (list : ClientList) (addr : SensorNetAddress) : Bool :=
  (list.clients.find? (·.sensorNetAddr.isMatch addr)).any (·.isQoSm1)

def newClient (list : ClientList) (addr : Option SensorNetAddress) (clientId : Bytes)
    (type : Nat) : ClientList where
  clients := list.clients ++
    [⟨list.nextClient, clientId, addr.getD .zero, type = QOSM1PROXY_TYPE, false, false⟩]
  nextClient := list.nextClient + 1
  authorize := list.authorize
  fresh := by
    intro listed hmem
    rcases List.mem_append.mp hmem with hmem | hmem
    · exact Nat.lt_succ_of_lt (list.fresh listed hmem)
    · rw [List.mem_singleton.mp hmem]
      exact Nat.lt_succ_self _

def createClient (list : ClientList) (addr : Option SensorNetAddress) (clientId : Bytes)
    (type : Nat) : ClientList × Option Nat :=
  if list.clients.length > MAX_CLIENTS then (list, none)
  else
    match addr.bind list.getClient with
    | some c => (list, some c)
    | none => (list.newClient addr clientId type, some list.nextClient)

def update (list : ClientList) (c : Nat) (change : ListedClient → ListedClient)
    (hchange : ∀ listed, (change listed).client = listed.client) : ClientList where
  clients := list.clients.map fun listed => if listed.client = c then change listed else listed
  nextClient := list.nextClient
  authorize := list.authorize
  fresh := by
    intro listed hmem
    obtain ⟨before, hbefore, rfl⟩ := List.mem_map.mp hmem
    split
    · rw [hchange]
      exact list.fresh before hbefore
    · exact list.fresh before hbefore

def setClientAddress (list : ClientList) (c : Nat) (addr : SensorNetAddress) : ClientList :=
  list.update c (fun listed => { listed with sensorNetAddr := addr }) fun _ => rfl

def setForwarder (list : ClientList) (c : Nat) : ClientList :=
  list.update c (fun listed => { listed with isQoSm1 := false, isForwarded := true }) fun _ => rfl

def erasable (list : ClientList) (c : Nat) (sessionStatus : Bool) : Bool :=
  !list.authorize && sessionStatus &&
    (list.clients.find? (·.client = c)).any fun listed => !listed.hasPredefTopic && !listed.isForwarded

def remove (list : ClientList) (c : Nat) : ClientList where
  clients := list.clients.filter (·.client ≠ c)
  nextClient := list.nextClient
  authorize := list.authorize
  fresh := fun listed hmem => list.fresh listed (List.mem_of_mem_filter hmem)

end ClientList

inductive SNMessage where
  | advertise
  | gwinfo
  | searchgw
  | connect (clientID : Bytes) (data : SNConnect)
  | malformedConnect
  | publish (flags : UInt8) (data : Option SNPublish)
  | other (packet : MQTTSNPacket)
  | encapsulated (nodeId : WirelessNodeId) (inner : SNMessage)
  deriving DecidableEq, Repr

namespace SNMessage

def toPacket : SNMessage → MQTTSNPacket
  | .connect _ data => .connect (some data)
  | .malformedConnect => .connect none
  | .publish _ data => .publish data
  | .other packet => packet
  | _ => .unhandled

def isQoSMinusPUBLISH : SNMessage → Bool
  | .publish flags _ => flags &&& 0x60 = 0x60
  | _ => false

def isEncapsulated : SNMessage → Bool
  | .encapsulated _ _ => true
  | _ => false

end SNMessage

namespace ClientRecvTask

structure State where
  clientList : ClientList
  forwarders : List Forwarder
  posted : List Event
  registry : Nat → WirelessNodeId → Option Nat
  fault : Bool

inductive Act where
  | receive (sender : SensorNetAddress) (message : SNMessage)
  | erase (client : Nat) (sessionStatus : Bool)
  deriving DecidableEq, Repr

def initial (clientList : ClientList) (addresses : List SensorNetAddress) : State where
  clientList := clientList
  forwarders := addresses.map fun address => ⟨address, []⟩
  posted := []
  registry := fun _ _ => none
  fault := false

def getForwarder (s : State) (addr : SensorNetAddress) : Option Nat :=
  s.forwarders.findIdx? (·.sensorNetAddr.isMatch addr)

def post (s : State) (ev : Event) : State := { s with posted := s.posted ++ [ev] }

def addClient (s : State) (f : Nat) (c : Nat) (id : WirelessNodeId) : State :=
  { s with
    clientList := s.clientList.setForwarder c
    forwarders := s.forwarders.modify f (·.addClient c id)
    registry := Function.update s.registry f (Function.update (s.registry f) id (some c)) }

def unwrap (s : State) (sender : SensorNetAddress) :
    SNMessage → Option (Nat × WirelessNodeId) × Option Nat × SNMessage
  | .encapsulated nodeId inner =>
      match getForwarder s sender with
      | some f => (some (f, nodeId), (s.forwarders[f]?).bind (·.getClient nodeId), inner)
      | none => (none, none, .encapsulated nodeId inner)
  | message => (none, none, message)

def createType (gw : Gateway) : Nat := gw.aggregaterActive.toNat

def connectForwarded (gw : Gateway) (s : State) (f : Nat) (nodeId : WirelessNodeId)
    (clientID : Bytes) (packet : MQTTSNPacket) : State :=
  match s.clientList.getClientById clientID with
  | some c => post (addClient s f c nodeId) (.clientRecv c packet)
  | none =>
      match s.clientList.createClient none clientID (createType gw) with
      | (list, some c) => post (addClient { s with clientList := list } f c nodeId) (.clientRecv c packet)
      | (_, none) => { s with fault := true }

def connectDirect (gw : Gateway) (s : State) (sender : SensorNetAddress) (clientID : Bytes)
    (packet : MQTTSNPacket) : State :=
  match s.clientList.getClientById clientID with
  | some c =>
      post { s with clientList := s.clientList.setClientAddress c sender } (.clientRecv c packet)
  | none =>
      match s.clientList.createClient (some sender) clientID (createType gw) with
      | (list, some c) => post { s with clientList := list } (.clientRecv c packet)
      | (_, none) => s

def newClient (gw : Gateway) (s : State) (sender : SensorNetAddress)
    (fwd : Option (Nat × WirelessNodeId)) : SNMessage → State
  | .connect clientID data =>
      match fwd with
      | some (f, nodeId) => connectForwarded gw s f nodeId clientID (.connect (some data))
      | none => connectDirect gw s sender clientID (.connect (some data))
  | _ => s

def rejected (gw : Gateway) (s : State) (sender : SensorNetAddress) (message : SNMessage) : Bool :=
  !message.isEncapsulated && gw.qosm1ProxyActive && s.clientList.isQoSm1At sender &&
    !message.isQoSMinusPUBLISH

-- The client found by node id is overwritten by the one found by sender address.
def handover (gw : Gateway) (s : State) (sender : SensorNetAddress) (message : SNMessage) : State :=
  let (fwd, _, packet) := unwrap s sender message
  match s.clientList.getClient sender with
  | some c => post s (.clientRecv c packet.toPacket)
  | none => newClient gw s sender fwd packet

def receive (gw : Gateway) (s : State) (sender : SensorNetAddress) : SNMessage → State
  | .advertise => s
  | .gwinfo => s
  | .searchgw => post s .broadcast
  | message => if rejected gw s sender message then s else handover gw s sender message

def erase (s : State) (c : Nat) (sessionStatus : Bool) : State :=
  if s.clientList.erasable c sessionStatus then
    { s with
      clientList := s.clientList.remove c
      registry := fun f id => if s.registry f id = some c then none else s.registry f id }
  else s

def step (gw : Gateway) (s : State) (act : Act) : State :=
  if s.fault then s
  else
    match act with
    | .receive sender message => receive gw s sender message
    | .erase c sessionStatus => erase s c sessionStatus

end ClientRecvTask

end MbedMqtt.MQTTSNGW
