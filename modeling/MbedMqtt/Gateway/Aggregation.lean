import MbedMqtt.Gateway.Identity
import MbedMqtt.Gateway.MessageIdTable

namespace MbedMqtt.MQTTSNGW

open PacketHandleTask

inductive Query where
  | getMsgId (client : Nat) (clientMsgId : UInt16)
  | addMessageIdTable (client : Nat) (clientMsgId : UInt16)
  | convertClient (msgId : UInt16)
  deriving DecidableEq, Repr

def request (gw : Gateway) (client : Client) : MQTTSNPacket → Option (Bool × UInt16)
  | .publish (some packet) =>
      match (MQTTSNPublishHandler.handlePublish gw client (some packet)).2 with
      | some publish => if publish.getMsgId ≠ 0 then some (packet.dup, packet.msgId) else none
      | none => none
  | .subscribe (some packet) =>
      match MQTTSNSubscribeHandler.handleSubscribe gw client (some packet) with
      | some (_, some _) => some (packet.dup, packet.msgId)
      | _ => none
  | .unsubscribe (some packet) =>
      match (MQTTSNSubscribeHandler.handleUnsubscribe client (some packet)).2 with
      | some _ => some (packet.dup, packet.msgId)
      | none => none
  | _ => none

def query (gw : Gateway) (clients : Nat → Client) : Event → Option Query
  | .clientRecv c packet =>
      if isAggregatedClient gw (clients c) then
        match request gw (clients c) packet with
        | some (true, msgId) => some (.getMsgId c msgId)
        | some (false, msgId) => some (.addMessageIdTable c msgId)
        | none => none
      else none
  | .brokerRecv c packet =>
      if (clients c).isAggregater ∧ packet.getType ∈ [PUBACK, PUBREC, PUBCOMP, SUBACK, UNSUBACK] then
        some (.convertClient packet.getMsgId)
      else none
  | .broadcast => none

structure Answer where
  aggregater : Aggregater
  convertClient : Option (Nat × UInt16)
  msgId : UInt16

def Answer.ids (answer : Answer) (uninitialised : UInt16) : MessageIds where
  convertClient := fun _ => answer.convertClient
  msgId := fun _ => answer.msgId
  uninitialised := uninitialised

def Aggregater.answer (aggregater : Aggregater) : Option Query → Option Answer
  | none => some ⟨aggregater, none, 0⟩
  | some (.getMsgId client clientMsgId) =>
      (aggregater.getMsgId client clientMsgId).map fun msgId => ⟨aggregater, none, msgId⟩
  | some (.addMessageIdTable client clientMsgId) =>
      (aggregater.addMessageIdTable client clientMsgId).map fun added => ⟨added.1, none, added.2⟩
  | some (.convertClient msgId) =>
      (aggregater.convertClient msgId).map fun converted => ⟨converted.1, converted.2, 0⟩

def Answer.allocated (answer : Answer) : Option Query → Option UInt16
  | some (.addMessageIdTable _ _) => if answer.msgId ≠ 0 then some answer.msgId else none
  | _ => none

def Answer.released (answer : Answer) : Option Query → Option UInt16
  | some (.convertClient msgId) => answer.convertClient.map fun _ => msgId
  | _ => none

def PacketHandleTask.Result.clientSend (c : Nat) : Result → List MQTTSNPacket
  | .done target handled => if target = c then handled.clientSend else []
  | _ => []

def PacketHandleTask.Result.brokerSend (c : Nat) : Result → List MQTTGWPacket
  | .done target handled => if target = c then handled.brokerSend else []
  | _ => []

structure Entry where
  event : Event
  result : Result
  allocated : Option UInt16
  released : Option UInt16

structure Aggregating where
  task : State
  aggregater : Aggregater
  log : List Entry

namespace Aggregating

def initial (clients : Nat → Client) : Aggregating := ⟨PacketHandleTask.initial clients, .initial, []⟩

inductive Act where
  | post (ev : Event)
  | handle (uninitialised : UInt16)
  | connectSended (client : Nat)
  | disconnected (client : Nat)

def handle (gw : Gateway) (s : Aggregating) (uninitialised : UInt16) (ev : Event) : Aggregating :=
  let asked := query gw s.task.clients ev
  match s.aggregater.answer asked with
  | none => { s with task := { s.task with fault := true } }
  | some answer =>
      let ids := answer.ids uninitialised
      { task := PacketHandleTask.step gw s.task (.handle ids)
        aggregater := answer.aggregater
        log := s.log ++ [⟨ev, handleEvent gw ids s.task.clients ev, answer.allocated asked,
          answer.released asked⟩] }

def step (gw : Gateway) (s : Aggregating) : Act → Aggregating
  | .post ev => { s with task := PacketHandleTask.step gw s.task (.post ev) }
  | .connectSended c => { s with task := PacketHandleTask.step gw s.task (.connectSended c) }
  | .disconnected c => { s with task := PacketHandleTask.step gw s.task (.disconnected c) }
  | .handle uninitialised =>
      if s.task.fault then s
      else
        match s.task.packetEventQue.items with
        | [] => s
        | ev :: _ => handle gw s uninitialised ev

def run (gw : Gateway) (s : Aggregating) (acts : List Act) : Aggregating := acts.foldl (step gw) s

end Aggregating

end MbedMqtt.MQTTSNGW
