import MbedMqtt.Gateway.Adapter
import MbedMqtt.Gateway.Identity

namespace MbedMqtt.MQTTSNGW

inductive Connection where
  | unopened
  | established
  | closed
  deriving DecidableEq, Repr

namespace Connection

def isValid : Connection → Bool
  | .established => true
  | _ => false

def close : Connection → Connection
  | .established => .closed
  | connection => connection

end Connection

structure Config where
  gw : Gateway
  secureNetwork : Nat → Bool
  authorize : Bool
  hasPredefTopic : Nat → Bool

structure Sending where
  client : Nat
  managed : Option AdapterType
  connection : Nat
  packet : MQTTGWPacket
  deriving DecidableEq, Repr

structure Relay where
  client : Nat
  channel : Channel
  packet : MQTTSNPacket
  deriving DecidableEq, Repr

structure Process where
  task : PacketHandleTask.State
  network : Nat → Connection
  erased : Nat → Bool
  adapters : AdapterType → Adapter
  brokerSendQue : List (Nat × MQTTGWPacket)
  clientSendQue : List (Nat × MQTTSNPacket)
  sent : List Sending
  relayed : List Relay

def Client.setForwarder (client : Client) : Client := { client with clientType := .forwarded }

def Client.managedBy (client : Client) : Option AdapterType :=
  if client.isQoSm1 then some .qosm1Proxy else if client.isAggregated then some .aggregater else none

def Client.adapterType (client : Client) : Option AdapterType :=
  if client.isQoSm1Proxy then some .qosm1Proxy
  else if client.isAggregater then some .aggregater
  else none

inductive Reading where
  | packet (packet : MQTTGWPacket)
  | disconnected
  | failed
  | noMemory
  deriving DecidableEq, Repr

structure Attempt where
  connected : Bool
  sent : Bool
  deriving DecidableEq, Repr

inductive SendOutcome where
  | refused
  | broken
  | sent
  deriving DecidableEq, Repr

namespace Process

inductive Act where
  | searchgw
  | clientRecv (client : Nat) (packet : MQTTSNPacket)
  | setForwarder (client : Nat)
  | brokerRecv (client : Nat) (reading : Reading)
  | packetHandle (ids : MessageIds)
  | checkConnection (timeup : AdapterType → Channel → Timeup)
  | brokerSend (attempt : Attempt)
  | clientSend

def initial (clients : Nat → Client) (adapters : AdapterType → Adapter) : Process where
  task := PacketHandleTask.initial clients
  network := fun _ => .unopened
  erased := fun _ => false
  adapters := adapters
  brokerSendQue := []
  clientSendQue := []
  sent := []
  relayed := []

def crash (s : Process) : Process := { s with task := { s.task with fault := true } }

def post (s : Process) (events : List Event) : Process :=
  { s with task := { s.task with packetEventQue := s.task.packetEventQue.postAll events } }

def setClient (s : Process) (c : Nat) (client : Client) : Process :=
  { s with task := MQTTSNGW.setClient s.task c client }

def setNetwork (s : Process) (c : Nat) (connection : Connection) : Process :=
  { s with network := Function.update s.network c connection }

def setAdapter (s : Process) (type : AdapterType) (adapter : Adapter) : Process :=
  { s with adapters := Function.update s.adapters type adapter }

def Idle (s : Process) : Prop :=
  s.task.packetEventQue.items = [] ∧ s.brokerSendQue = [] ∧ s.clientSendQue = []

instance (s : Process) : Decidable s.Idle :=
  inferInstanceAs (Decidable (s.task.packetEventQue.items = [] ∧ s.brokerSendQue = [] ∧
    s.clientSendQue = []))

end Process

theorem Proxy.checkConnection_stands (proxy : Proxy) (timeup : Timeup) (c : Nat) (client : Client) :
    Stands client (proxy.checkConnection timeup c client).2.1 := by
  unfold Proxy.checkConnection
  split
  · exact .connectSended client
  split
  · simp only
    split
    · exact .disconnected client
    · exact .refl client
  · exact .refl client

namespace BrokerRecvTask

open Process

def logs (packet : MQTTGWPacket) : Bool :=
  packet.getType ∈
    [CONNACK, PUBLISH, PUBACK, PUBREC, PUBREL, PUBCOMP, SUBACK, UNSUBACK, PINGRESP]

def erasable (cfg : Config) (s : Process) (c : Nat) : Bool :=
  (s.task.clients c).sessionStatus && !cfg.hasPredefTopic c &&
    (s.task.clients c).clientType ≠ .forwarded

def erase (cfg : Config) (s : Process) (c : Nat) : Process :=
  if !cfg.authorize && erasable cfg s c then { s with erased := Function.update s.erased c true }
  else s

def receive (cfg : Config) (s : Process) (c : Nat) : Reading → Process
  | .packet packet => if logs packet then s.post [.brokerRecv c packet] else s
  | .disconnected => erase cfg (s.setNetwork c (s.network c).close) c
  | .failed =>
      if (s.task.clients c).isActive then s.post [.brokerRecv c (.setHeader DISCONNECT)] else s
  | .noMemory => s

def run (cfg : Config) (s : Process) (c : Nat) (reading : Reading) : Process :=
  if s.erased c || !(s.network c).isValid then s else receive cfg s c reading

end BrokerRecvTask

namespace BrokerSendTask

open Process

def getClient (cfg : Config) (s : Process) (c : Nat) : Nat :=
  match (s.task.clients c).managedBy with
  | some type => (s.adapters type).getAdapterClient (cfg.secureNetwork c)
  | none => c

def renewed (packet : MQTTGWPacket) (connection : Connection) : Connection :=
  if packet.getType = CONNECT then connection.close else connection

def exchange (packet : MQTTGWPacket) (connection : Connection) (attempt : Attempt) : SendOutcome :=
  if (renewed packet connection).isValid || attempt.connected then
    if attempt.sent then .sent else .broken
  else .refused

def conclude (s : Process) (c d : Nat) (packet : MQTTGWPacket) : SendOutcome → Process
  | .refused => s.setNetwork d (renewed packet (s.network d))
  | .broken => (s.setNetwork d .closed).post [.brokerRecv d (.setHeader DISCONNECT)]
  | .sent =>
      let s := s.setNetwork d .established
      let s := { s with sent := s.sent ++ [⟨c, (s.task.clients c).managedBy, d, packet⟩] }
      if packet.getType = CONNECT then s.setClient d (s.task.clients d).connectSended else s

def run (cfg : Config) (s : Process) (attempt : Attempt) : Process :=
  match s.brokerSendQue with
  | [] => s
  | (c, packet) :: rest =>
      let d := getClient cfg s c
      if s.erased c || s.erased d then s.crash
      else
        conclude { s with brokerSendQue := rest } c d packet (exchange packet (s.network d) attempt)

end BrokerSendTask

namespace ClientSendTask

open Process

def unicastToClient (cfg : Config) (s : Process) (c : Nat) (packet : MQTTSNPacket) : Process :=
  match (s.task.clients c).adapterType with
  | none => s
  | some type =>
      match (s.adapters type).selected (cfg.secureNetwork c) with
      | none => s
      | some channel =>
          let received := (s.adapters type).recv packet channel
          let s := (s.setAdapter type received.1).post received.2
          { s with relayed := s.relayed ++ [⟨c, channel, packet⟩] }

def run (cfg : Config) (s : Process) : Process :=
  match s.clientSendQue with
  | [] => s
  | (c, packet) :: rest =>
      if s.erased c then s.crash
      else unicastToClient cfg { s with clientSendQue := rest } c packet

end ClientSendTask

namespace Process

def checkProxy (s : Process) (type : AdapterType) (timeup : Timeup) (channel : Channel) : Process :=
  let adapter := s.adapters type
  let c := adapter.clientOf channel
  if s.erased c then s.crash
  else
    let checked := (adapter.proxyOf channel).checkConnection timeup c (s.task.clients c)
    ((s.setClient c checked.2.1).setAdapter type (adapter.setProxy checked.1 channel)).post
      checked.2.2

def checkAdapter (s : Process) (timeup : AdapterType → Channel → Timeup) (type : AdapterType) :
    Process :=
  let s := checkProxy s type (timeup type .plain) .plain
  if (s.adapters type).isSecure then checkProxy s type (timeup type .secure) .secure else s

def checkConnection (cfg : Config) (s : Process) (timeup : AdapterType → Channel → Timeup) :
    Process :=
  let s := if cfg.gw.aggregaterActive then checkAdapter s timeup .aggregater else s
  if cfg.gw.qosm1ProxyActive then checkAdapter s timeup .qosm1Proxy else s

def dangling (s : Process) : Event → Bool
  | .clientRecv c _ => s.erased c
  | .brokerRecv c _ => s.erased c
  | .broadcast => false

def dispatch (cfg : Config) (s : Process) (c : Nat) (handled : Handled) : Process :=
  { s.setAdapter .qosm1Proxy (handled.suspended.foldl
      (fun adapter packet => adapter.savePacket (cfg.secureNetwork c) c packet)
      (s.adapters .qosm1Proxy)) with
    brokerSendQue := s.brokerSendQue ++ handled.brokerSend.map fun packet => (c, packet)
    clientSendQue := s.clientSendQue ++ handled.clientSend.map fun packet => (c, packet) }

def conclude (cfg : Config) (s : Process) (result : PacketHandleTask.Result) : Process :=
  let after := { s with task := PacketHandleTask.finish s.task result }
  match result with
  | .done c handled => if s.erased c then s.crash else dispatch cfg after c handled
  | _ => after

def packetHandle (cfg : Config) (s : Process) (ids : MessageIds) : Process :=
  match s.task.packetEventQue.items with
  | [] => s
  | ev :: _ =>
      if s.dangling ev then s.crash
      else conclude cfg s (PacketHandleTask.handleEvent cfg.gw ids s.task.clients ev)

def step (cfg : Config) (s : Process) (act : Act) : Process :=
  if s.task.fault then s
  else
    match act with
    | .searchgw => s.post [.broadcast]
    | .clientRecv c packet => if s.erased c then s else s.post [.clientRecv c packet]
    | .setForwarder c => if s.erased c then s else s.setClient c (s.task.clients c).setForwarder
    | .brokerRecv c reading => BrokerRecvTask.run cfg s c reading
    | .packetHandle ids => packetHandle cfg s ids
    | .checkConnection timeup =>
        if s.task.packetEventQue.items.isEmpty then checkConnection cfg s timeup else s
    | .brokerSend attempt => BrokerSendTask.run cfg s attempt
    | .clientSend => ClientSendTask.run cfg s

def run (cfg : Config) (s : Process) (acts : List Act) : Process := acts.foldl (step cfg) s

end Process

end MbedMqtt.MQTTSNGW
