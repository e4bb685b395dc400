import Mathlib.Logic.Function.Basic
import MbedMqtt.Gateway.ConnectionHandler
import MbedMqtt.Gateway.SubscribeHandler

namespace MbedMqtt.MQTTSNGW

abbrev MAX_CLIENTS : Nat := 100

inductive Event where
  | clientRecv (client : Nat) (packet : MQTTSNPacket)
  | brokerRecv (client : Nat) (packet : MQTTGWPacket)
  | broadcast
  deriving DecidableEq, Repr

def Event.concerns (ev : Event) (c : Nat) : Bool :=
  match ev with
  | .clientRecv client _ => client = c
  | .brokerRecv client _ => client = c
  | .broadcast => false

namespace PacketHandleTask

def aggregateClientPacket (gw : Gateway) (ids : MessageIds) (client : Client) :
    MQTTSNPacket → Option Handled
  | .connect data => some (MQTTSNAggregateConnectionHandler.handleConnect client data)
  | .willtopic data => some (MQTTSNConnectionHandler.handleWilltopic client data)
  | .willmsg data => some (MQTTSNAggregateConnectionHandler.handleWillmsg client data)
  | .disconnect _ => some (MQTTSNAggregateConnectionHandler.handleDisconnect client)
  | .willmsgupd => some (MQTTSNConnectionHandler.handleWillmsgupd client)
  | .pingreq => some (MQTTSNAggregateConnectionHandler.handlePingreq client)
  | .publish data => some (MQTTSNPublishHandler.handleAggregatePublish gw ids client data)
  | .pubrec msgId => some (MQTTSNPublishHandler.handleAggregateAck client msgId)
  | .register data => MQTTSNPublishHandler.handleRegister client data
  | .regack data => some (MQTTSNPublishHandler.handleRegAck client data)
  | .subscribe data => MQTTSNSubscribeHandler.handleAggregateSubscribe gw ids client data
  | .unsubscribe data => some (MQTTSNSubscribeHandler.handleAggregateUnsubscribe ids client data)
  | _ => some (.unchanged client)

def transparentClientPacket (gw : Gateway) (client : Client) : MQTTSNPacket → Option Handled
  | .connect data => some (MQTTSNConnectionHandler.handleConnect gw client data)
  | .willtopic data => some (MQTTSNConnectionHandler.handleWilltopic client data)
  | .willmsg data => some (MQTTSNConnectionHandler.handleWillmsg gw client data)
  | .disconnect duration => some (MQTTSNConnectionHandler.handleDisconnect client duration)
  | .willmsgupd => some (MQTTSNConnectionHandler.handleWillmsgupd client)
  | .pingreq => some (MQTTSNConnectionHandler.handlePingreq client)
  | .publish data => some (MQTTSNPublishHandler.handlePublish gw client data).1
  | .puback data => some (MQTTSNPublishHandler.handlePuback gw client data)
  | .pubrec msgId => some (MQTTSNPublishHandler.handleAck client PUBREC msgId)
  | .pubrel msgId => some (MQTTSNPublishHandler.handleAck client PUBREL msgId)
  | .pubcomp msgId => some (MQTTSNPublishHandler.handleAck client PUBCOMP msgId)
  | .register data => MQTTSNPublishHandler.handleRegister client data
  | .regack data => some (MQTTSNPublishHandler.handleRegAck client data)
  | .subscribe data => (MQTTSNSubscribeHandler.handleSubscribe gw client data).map (·.1)
  | .unsubscribe data => some (MQTTSNSubscribeHandler.handleUnsubscribe client data).1
  | _ => some (.unchanged client)

def isAggregatedClient (gw : Gateway) (client : Client) : Bool :=
  !(!gw.aggregaterActive || client.isQoSm1 || client.isAggregater || client.isQoSm1Proxy)

def clientPacket (gw : Gateway) (ids : MessageIds) (client : Client) (packet : MQTTSNPacket) :
    Option Handled :=
  if isAggregatedClient gw client then aggregateClientPacket gw ids client packet
  else transparentClientPacket gw client packet

def transparentBrokerPacket (client : Client) (packet : MQTTGWPacket) : Option Handled :=
  if packet.getType = CONNACK then some (MQTTGWConnectionHandler.handleConnack client packet)
  else if packet.getType = PINGRESP then some (MQTTGWConnectionHandler.handlePingresp client)
  else if packet.getType = PUBLISH then MQTTGWPublishHandler.handlePublish client packet
  else if packet.getType = PUBACK then some (MQTTGWPublishHandler.handlePuback client packet)
  else if packet.getType ∈ [PUBREC, PUBREL, PUBCOMP] then
    some (MQTTGWPublishHandler.handleAck client packet packet.getType)
  else if packet.getType = SUBACK then some (MQTTGWSubscribeHandler.handleSuback client packet)
  else if packet.getType = UNSUBACK then some (MQTTGWSubscribeHandler.handleUnsuback client packet)
  else some (.unchanged client)

def convertedPacket (client : Client) (packet : MQTTGWPacket) : Handled :=
  if packet.getType = PUBACK then MQTTGWPublishHandler.handlePuback client packet
  else if packet.getType ∈ [PUBREC, PUBCOMP] then
    MQTTGWPublishHandler.handleAck client packet packet.getType
  else if packet.getType = SUBACK then MQTTGWSubscribeHandler.handleSuback client packet
  else MQTTGWSubscribeHandler.handleUnsuback client packet

def aggregateBrokerPacket (ids : MessageIds) (clients : Nat → Client) (c : Nat)
    (packet : MQTTGWPacket) : Nat × Handled :=
  if packet.getType = CONNACK then (c, MQTTGWConnectionHandler.handleConnack (clients c) packet)
  else if packet.getType = PINGRESP then (c, MQTTGWConnectionHandler.handlePingresp (clients c))
  else if packet.getType = PUBLISH then
    (c, MQTTGWPublishHandler.handleAggregatePublish (clients c) packet)
  else if packet.getType = PUBREL then
    (c, MQTTGWPublishHandler.handleAggregatePubrel ids (clients c))
  else if packet.getType ∈ [PUBACK, PUBREC, PUBCOMP, SUBACK, UNSUBACK] then
    match ids.convertClient packet.getMsgId with
    | some (newClient, clientMsgId) =>
        (newClient, convertedPacket (clients newClient) (packet.setMsgId clientMsgId))
    | none => (c, .unchanged (clients c))
  else (c, .unchanged (clients c))

inductive Result where
  | nothing
  | fault
  | done (client : Nat) (handled : Handled)

def Result.ofOption (c : Nat) : Option Handled → Result
  | some handled => .done c handled
  | none => .fault

def handleEvent (gw : Gateway) (ids : MessageIds) (clients : Nat → Client) : Event → Result
  | .broadcast => .nothing
  | .clientRecv c packet =>
      .ofOption c ((clientPacket gw ids (clients c) packet).map fun handled =>
        { handled with client := handled.client.updateStatus packet })
  | .brokerRecv c packet =>
      if (clients c).isAggregater then
        let (target, handled) := aggregateBrokerPacket ids clients c packet
        .done target handled
      else .ofOption c (transparentBrokerPacket (clients c) packet)

structure State where
  clients : Nat → Client
  packetEventQue : Que Event
  fault : Bool

def initial (clients : Nat → Client) : State where
  clients := clients
  packetEventQue := ⟨MAX_INFLIGHTMESSAGES.toNat * MAX_CLIENTS, []⟩
  fault := false

inductive Act where
  | post (ev : Event)
  | handle (ids : MessageIds)
  | connectSended (client : Nat)
  | disconnected (client : Nat)

def take (s : State) : State := { s with packetEventQue := s.packetEventQue.pop }

def apply (s : State) (c : Nat) (handled : Handled) : State :=
  { s with
    clients := Function.update s.clients c handled.client
    packetEventQue := s.packetEventQue.postAll (handled.packetEvents.map (.brokerRecv c)) }

def finish (s : State) : Result → State
  | .nothing => take s
  | .fault => { s with fault := true }
  | .done c handled => apply (take s) c handled

def step (gw : Gateway) (s : State) (act : Act) : State :=
  if s.fault then s
  else
    match act with
    | .post ev => { s with packetEventQue := s.packetEventQue.post ev }
    | .handle ids =>
        match s.packetEventQue.items with
        | [] => s
        | ev :: _ => finish s (handleEvent gw ids s.clients ev)
    | .connectSended c =>
        { s with clients := Function.update s.clients c (s.clients c).connectSended }
    | .disconnected c =>
        { s with clients := Function.update s.clients c (s.clients c).disconnected }

def run (gw : Gateway) (s : State) (acts : List Act) : State := acts.foldl (step gw) s

section Lemmas

variable {gw : Gateway} {s : State} {ids : MessageIds} {ev : Event} {rest : List Event}

theorem clientPacket_cases {client : Client} {packet : MQTTSNPacket} {handled : Handled}
    (h : clientPacket gw ids client packet = some handled) :
    isAggregatedClient gw client = true ∧
        aggregateClientPacket gw ids client packet = some handled ∨
      isAggregatedClient gw client = false ∧
        transparentClientPacket gw client packet = some handled := by
  cases haggregated : isAggregatedClient gw client with
  | true => exact .inl ⟨rfl, by rwa [clientPacket, if_pos haggregated] at h⟩
  | false =>
    exact .inr ⟨rfl, by rwa [clientPacket, if_neg (by rw [haggregated]; decide)] at h⟩

theorem take_items (hitems : s.packetEventQue.items = ev :: rest) :
    (take s).packetEventQue.items = rest := by
  simp [take, Fifo.pop, hitems]

theorem apply_client (s : State) (c : Nat) (handled : Handled) :
    (apply (take s) c handled).clients c = handled.client := Function.update_self c _ _

theorem apply_other {c target : Nat} (h : target ≠ c) (handled : Handled) :
    (apply (take s) target handled).clients c = s.clients c :=
  Function.update_of_ne (Ne.symm h) _ _

theorem update_related {R : Client → Client → Prop} (hrefl : ∀ client, R client client)
    {clients : Nat → Client} {target : Nat} {client : Client} (h : R (clients target) client)
    (c : Nat) : R (clients c) (Function.update clients target client c) :=
  (Function.forall_update_iff clients fun c after => R (clients c) after).mpr
    ⟨h, fun _ _ => hrefl _⟩ c

theorem step_fault {act : Act} (h : s.fault = true) : step gw s act = s := by simp [step, h]

theorem step_empty (hfault : s.fault = false) (hitems : s.packetEventQue.items = []) :
    step gw s (.handle ids) = s := by
  simp [step, hfault, hitems]

theorem step_handle (hfault : s.fault = false) (hitems : s.packetEventQue.items = ev :: rest) :
    step gw s (.handle ids) = finish s (handleEvent gw ids s.clients ev) := by
  simp [step, hfault, hitems]

end Lemmas

end PacketHandleTask

end MbedMqtt.MQTTSNGW
