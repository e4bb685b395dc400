import MbedMqtt.Gateway.PacketHandleTask
import MbedMqtt.Gateway.TopicTable

namespace MbedMqtt.MQTTSNGW

structure Same (client after : Client) : Prop where
  stored : after.clientSleepPacketQue = client.clientSleepPacketQue
  waiting : after.waitREGACKList = client.waitREGACKList
  hold : after.holdPingRequest = client.holdPingRequest
  sound : client.topics.Sound → after.topics.Sound

structure Keeps (client : Client) (handled : Handled) : Prop where
  same : Same client handled.client
  events : handled.packetEvents = []

structure Drained (client : Client) (handled : Handled) : Prop where
  stored : handled.client.clientSleepPacketQue = { client.clientSleepPacketQue with items := [] }
  waiting : handled.client.waitREGACKList = client.waitREGACKList
  events : handled.packetEvents = client.clientSleepPacketQue.items
  sound : client.topics.Sound → handled.client.topics.Sound

namespace Same

theorem prepareConnect (gw : Gateway) (client : Client) (data : SNConnect) :
    Same client (MQTTSNConnectionHandler.prepareConnect gw client data) := by
  simp only [MQTTSNConnectionHandler.prepareConnect, MQTTSNConnectionHandler.cleanSession,
    Client.disconnected]
  split_ifs
  · exact ⟨rfl, rfl, rfl, .eraseNormal⟩
  · exact ⟨rfl, rfl, rfl, .eraseNormal⟩
  · exact ⟨rfl, rfl, rfl, id⟩
  · exact ⟨rfl, rfl, rfl, id⟩

theorem connackSended (client : Client) (rc : Nat) : Same client (client.connackSended rc) := by
  simp only [Client.connackSended, Client.disconnected]
  split_ifs <;> exact ⟨rfl, rfl, rfl, id⟩

theorem updateStatus (client : Client) (packet : MQTTSNPacket) :
    Same client (client.updateStatus packet) := by
  unfold Client.updateStatus Client.updateActive Client.updateSleeping Client.disconnected
  cases client.status <;> cases packet <;> try exact ⟨rfl, rfl, rfl, id⟩
  · simp only
    split_ifs <;> exact ⟨rfl, rfl, rfl, id⟩

end Same

namespace Keeps

variable {client : Client} {gw : Gateway} {ids : MessageIds}

theorem unchanged (client : Client) : Keeps client (.unchanged client) := ⟨⟨rfl, rfl, rfl, id⟩, rfl⟩

theorem toClient (client : Client) (packet : MQTTSNPacket) : Keeps client (.toClient client packet) :=
  ⟨⟨rfl, rfl, rfl, id⟩, rfl⟩

theorem toBroker (client : Client) (packet : MQTTGWPacket) : Keeps client (.toBroker client packet) :=
  ⟨⟨rfl, rfl, rfl, id⟩, rfl⟩

theorem of_some {handled after : Handled} (h : some handled = some after)
    (hkeeps : Keeps client handled) : Keeps client after := by
  obtain rfl := Option.some.inj h
  exact hkeeps

theorem handleWilltopic (data : Option SNWilltopic) :
    Keeps client (MQTTSNConnectionHandler.handleWilltopic client data) := by
  cases data with
  | none => exact unchanged client
  | some data => exact ⟨⟨rfl, rfl, rfl, id⟩, rfl⟩

theorem handleWillmsg (data : Option Bytes) :
    Keeps client (MQTTSNConnectionHandler.handleWillmsg gw client data) := by
  unfold MQTTSNConnectionHandler.handleWillmsg
  split_ifs
  · exact unchanged client
  · cases data with
    | none => exact unchanged client
    | some willmsg => exact ⟨⟨rfl, rfl, rfl, id⟩, rfl⟩
  · exact unchanged client

theorem handleDisconnect (duration : UInt16) :
    Keeps client (MQTTSNConnectionHandler.handleDisconnect client duration) := ⟨⟨rfl, rfl, rfl, id⟩, rfl⟩

theorem handleConnect (data : SNConnect) (hawake : (client.isSleep || client.isAwake) = false) :
    Keeps client (MQTTSNConnectionHandler.handleConnect gw client (some data)) := by
  simp only [MQTTSNConnectionHandler.handleConnect, hawake, Bool.false_eq_true, if_false]
  split_ifs
  · exact ⟨.prepareConnect gw client data, rfl⟩
  · exact ⟨.prepareConnect gw client data, rfl⟩

theorem forward {packet : SNPublish} {topic : Bytes} {topiclen : Nat} (bounded : topiclen < 65536) :
    Keeps client (MQTTSNPublishHandler.forward gw client packet topic topiclen bounded).1 := by
  simp only [MQTTSNPublishHandler.forward, MQTTSNPublishHandler.setWaitedPubTopicId]
  split_ifs <;> exact ⟨⟨rfl, rfl, rfl, id⟩, rfl⟩

theorem withTopics {topics : Topics} {handled : Handled}
    (h : Keeps { client with topics := topics } handled)
    (hsound : client.topics.Sound → topics.Sound) : Keeps client handled :=
  ⟨⟨h.same.stored, h.same.waiting, h.same.hold, fun hs => h.same.sound (hsound hs)⟩, h.events⟩

theorem resolve_sound (topicid : TopicId) (h : client.topics.Sound) :
    (MQTTSNPublishHandler.resolve gw client topicid).1.Sound := by
  unfold MQTTSNPublishHandler.resolve
  split
  · exact h
  · split
    · exact h.addId
    · exact h

theorem add_sound {type : TopicType} {name : TopicName} {topics : Topics} {topic : Option Topic}
    (h : client.topics.add type name = (topics, topic)) (hsound : client.topics.Sound) :
    topics.Sound := by
  have hadd : (client.topics.add type name).1.Sound := hsound.add type
  rwa [h] at hadd

theorem handlePublish (data : Option SNPublish) :
    Keeps client (MQTTSNPublishHandler.handlePublish gw client data).1 := by
  unfold MQTTSNPublishHandler.handlePublish
  split
  · exact ⟨⟨rfl, rfl, rfl, id⟩, rfl⟩
  cases data with
  | none => exact unchanged client
  | some packet =>
    simp only
    split
    · exact forward _
    cases (MQTTSNPublishHandler.resolve gw client packet.topic).2 with
    | some topic => exact (forward _).withTopics (resolve_sound _)
    | none =>
      simp only
      split_ifs
      · exact (unchanged _).withTopics (resolve_sound _)
      · exact (toClient _ _).withTopics (resolve_sound _)
      · exact (forward _).withTopics (resolve_sound _)

theorem handlePuback (data : Option SNAck) :
    Keeps client (MQTTSNPublishHandler.handlePuback gw client data) := by
  cases data with
  | none => exact unchanged client
  | some ack =>
    simp only [MQTTSNPublishHandler.handlePuback]
    split
    · exact toBroker client _
    · exact unchanged client

theorem handleAck (type : Nat) (msgId : Option UInt16) :
    Keeps client (MQTTSNPublishHandler.handleAck client type msgId) := by
  cases msgId with
  | none => exact unchanged client
  | some msgId =>
    simp only [MQTTSNPublishHandler.handleAck]
    split
    · exact toBroker client _
    · exact unchanged client

theorem handleRegister {data : Option SNRegister} {handled : Handled}
    (h : MQTTSNPublishHandler.handleRegister client data = some handled) : Keeps client handled := by
  cases data with
  | none =>
    exact .of_some h (unchanged client)
  | some data =>
    simp only [MQTTSNPublishHandler.handleRegister] at h
    split at h
    · split at h
      · cases h
      · rename_i hadd
        exact .of_some h ((toClient _ _).withTopics (add_sound hadd))
    · exact .of_some h (unchanged client)

theorem handleAggregatePublish (data : Option SNPublish) :
    Keeps client (MQTTSNPublishHandler.handleAggregatePublish gw ids client data) := by
  have hkeeps : Keeps client (MQTTSNPublishHandler.handlePublish gw client data).1 :=
    handlePublish data
  simp only [MQTTSNPublishHandler.handleAggregatePublish]
  split
  · rename_i hresult
    rw [hresult] at hkeeps
    exact hkeeps
  · rename_i hresult
    rw [hresult] at hkeeps
    exact ⟨hkeeps.same, hkeeps.events⟩

theorem handleAggregateAck (msgId : Option UInt16) :
    Keeps client (MQTTSNPublishHandler.handleAggregateAck client msgId) := by
  cases msgId with
  | none => exact unchanged client
  | some msgId => exact toClient client _

theorem sendSubscribe (packet : SNSubscribe) (topicId : UInt16) (topic : Bytes) :
    Keeps client (MQTTSNSubscribeHandler.sendSubscribe client packet topicId topic).1 := by
  simp only [MQTTSNSubscribeHandler.sendSubscribe]
  split
  · exact ⟨⟨rfl, rfl, rfl, id⟩, rfl⟩
  · exact ⟨⟨rfl, rfl, rfl, id⟩, rfl⟩

theorem subscribeNormal (packet : SNSubscribe) (name : TopicName) :
    Keeps client (MQTTSNSubscribeHandler.subscribeNormal client packet name).1 := by
  simp only [MQTTSNSubscribeHandler.subscribeNormal]
  split
  · rename_i hadd
    exact (unchanged _).withTopics (add_sound hadd)
  · rename_i hadd
    exact (sendSubscribe _ _ _).withTopics (add_sound hadd)

theorem handleSubscribe {data : Option SNSubscribe} {result : Handled × Option MQTTGWPacket}
    (h : MQTTSNSubscribeHandler.handleSubscribe gw client data = some result) :
    Keeps client result.1 := by
  cases data with
  | none =>
    obtain rfl := Option.some.inj h
    exact unchanged client
  | some packet =>
    simp only [MQTTSNSubscribeHandler.handleSubscribe] at h
    split at h
    · obtain rfl := Option.some.inj h
      exact unchanged client
    split at h
    · split at h
      · obtain rfl := Option.some.inj h
        exact sendSubscribe _ _ _
      · split at h
        · cases h
        · obtain rfl := Option.some.inj h
          exact toClient client _
    · obtain rfl := Option.some.inj h
      exact subscribeNormal _ _
    · obtain rfl := Option.some.inj h
      exact unchanged client
    · obtain rfl := Option.some.inj h
      exact sendSubscribe _ _ _

theorem handleUnsubscribe (data : Option SNSubscribe) :
    Keeps client (MQTTSNSubscribeHandler.handleUnsubscribe client data).1 := by
  cases data with
  | none => exact unchanged client
  | some packet =>
    simp only [MQTTSNSubscribeHandler.handleUnsubscribe]
    split
    · exact unchanged client
    split
    · exact toClient client _
    · split
      · exact unchanged client
      · exact toBroker client _

theorem renumber {result : Handled × Option MQTTGWPacket} (h : Keeps client result.1)
    (msgId : UInt16) : Keeps client (MQTTSNSubscribeHandler.renumber ids msgId result) := by
  obtain ⟨handled, request⟩ := result
  cases request with
  | none => exact h
  | some request =>
    simp only [MQTTSNSubscribeHandler.renumber]
    split
    · exact h
    · exact ⟨⟨h.same.stored, h.same.waiting, h.same.hold, h.same.sound⟩, h.events⟩

theorem handleAggregateSubscribe {data : Option SNSubscribe} {handled : Handled}
    (h : MQTTSNSubscribeHandler.handleAggregateSubscribe gw ids client data = some handled) :
    Keeps client handled := by
  obtain ⟨result, hresult, rfl⟩ := Option.map_eq_some_iff.mp h
  exact (handleSubscribe hresult).renumber _

theorem handleConnack (packet : MQTTGWPacket) :
    Keeps client (MQTTGWConnectionHandler.handleConnack client packet) :=
  ⟨.connackSended client _, rfl⟩

theorem handlePingresp : Keeps client (MQTTGWConnectionHandler.handlePingresp client) :=
  ⟨.updateStatus client .pingresp, rfl⟩

theorem handleBrokerPuback (packet : MQTTGWPacket) :
    Keeps client (MQTTGWPublishHandler.handlePuback client packet) := by
  simp only [MQTTGWPublishHandler.handlePuback]
  split
  · exact ⟨⟨rfl, rfl, rfl, id⟩, rfl⟩
  · exact unchanged client

theorem handleBrokerAck (packet : MQTTGWPacket) (type : Nat) :
    Keeps client (MQTTGWPublishHandler.handleAck client packet type) := by
  simp only [MQTTGWPublishHandler.handleAck]
  split_ifs
  · exact toClient client _
  · exact toBroker client _
  · exact unchanged client

theorem acknowledge (pub : Publish) :
    Keeps client (MQTTGWPublishHandler.acknowledge client pub) := by
  simp only [MQTTGWPublishHandler.acknowledge]
  split_ifs
  · exact toBroker client _
  · exact toBroker client _
  · exact unchanged client

theorem handleSuback (packet : MQTTGWPacket) :
    Keeps client (MQTTGWSubscribeHandler.handleSuback client packet) := by
  simp only [MQTTGWSubscribeHandler.handleSuback]
  split
  · exact unchanged client
  · split
    · exact ⟨⟨rfl, rfl, rfl, id⟩, rfl⟩
    · exact ⟨⟨rfl, rfl, rfl, id⟩, rfl⟩

theorem transparentBrokerPacket {packet : MQTTGWPacket} {handled : Handled}
    (htype : packet.getType ≠ PUBLISH)
    (h : PacketHandleTask.transparentBrokerPacket client packet = some handled) :
    Keeps client handled := by
  simp only [PacketHandleTask.transparentBrokerPacket, if_neg htype] at h
  split_ifs at h <;> obtain rfl := Option.some.inj h
  · exact handleConnack packet
  · exact handlePingresp
  · exact handleBrokerPuback packet
  · exact handleBrokerAck packet _
  · exact handleSuback packet
  · exact toClient client _
  · exact unchanged client

theorem convertedPacket (packet : MQTTGWPacket) :
    Keeps client (PacketHandleTask.convertedPacket client packet) := by
  unfold PacketHandleTask.convertedPacket
  split_ifs
  · exact handleBrokerPuback packet
  · exact handleBrokerAck packet _
  · exact handleSuback packet
  · exact toClient client _

theorem aggregateBrokerPacket (clients : Nat → Client) (c : Nat) (packet : MQTTGWPacket) :
    Keeps (clients (PacketHandleTask.aggregateBrokerPacket ids clients c packet).1)
      (PacketHandleTask.aggregateBrokerPacket ids clients c packet).2 := by
  unfold PacketHandleTask.aggregateBrokerPacket
  split_ifs
  · exact handleConnack packet
  · exact handlePingresp
  · exact acknowledge _
  · exact toBroker _ _
  · cases ids.convertClient packet.getMsgId with
    | none => exact unchanged _
    | some target => exact convertedPacket _
  · exact unchanged _

end Keeps

def drains (gw : Gateway) (client : Client) : MQTTSNPacket → Bool
  | .pingreq => MQTTSNConnectionHandler.holdsPing client
  | .connect (some data) =>
      client.isSleep || client.isAwake ||
        (PacketHandleTask.isAggregatedClient gw client && !data.willFlag)
  | .willmsg (some _) =>
      PacketHandleTask.isAggregatedClient gw client && client.waitWillMsgFlg &&
        client.isConnectSendable
  | _ => false

def regacks (client : Client) : MQTTSNPacket → Bool
  | .regack (some _) => client.isActive || client.isAwake
  | _ => false

section ClientPackets

variable {gw : Gateway} {ids : MessageIds} {client : Client} {packet : MQTTSNPacket} {handled : Handled}

theorem holdPing_drained (client : Client) :
    Drained client (MQTTSNConnectionHandler.holdPing client) := ⟨rfl, rfl, rfl, id⟩

theorem Same.drained {after : Client} (h : Same client after) (packets : List MQTTSNPacket) :
    Drained client { sendStoredPublish after with clientSend := packets } where
  stored := by simp [sendStoredPublish, Handled.unchanged, h.stored]
  waiting := h.waiting
  events := by simp [sendStoredPublish, h.stored]
  sound := h.sound

theorem Same.refl (client : Client) : Same client client := ⟨rfl, rfl, rfl, id⟩

theorem Same.trans {middle after : Client} (h : Same client middle) (k : Same middle after) :
    Same client after :=
  ⟨k.stored.trans h.stored, k.waiting.trans h.waiting, k.hold.trans h.hold,
    fun hs => k.sound (h.sound hs)⟩

def aggregateReset (client : Client) (data : SNConnect) : Client :=
  if data.cleansession then MQTTSNConnectionHandler.cleanSession
      { client.disconnected with connectData := .zero, sessionStatus := false }
  else { client.disconnected with connectData := .zero, sessionStatus := false }

theorem Same.aggregateReset (client : Client) (data : SNConnect) :
    Same client (aggregateReset client data) := by
  unfold MQTTSNGW.aggregateReset
  split_ifs
  · exact ⟨rfl, rfl, rfl, .eraseNormal⟩
  · exact ⟨rfl, rfl, rfl, id⟩

theorem aggregateConnect_eq (data : SNConnect) :
    MQTTSNAggregateConnectionHandler.handleConnect client (some data) =
      if client.isSleep || client.isAwake then
        { sendStoredPublish client with clientSend := [.connack MQTTSN_RC_ACCEPTED] }
      else if data.willFlag then .toClient (aggregateReset client data) .willtopicreq
      else
        { sendStoredPublish ((aggregateReset client data).connackSended MQTTSN_RC_ACCEPTED) with
          clientSend := [.connack MQTTSN_RC_ACCEPTED] } := rfl

theorem transparent_drained (hagg : PacketHandleTask.isAggregatedClient gw client = false)
    (hdrains : drains gw client packet = true)
    (h : PacketHandleTask.transparentClientPacket gw client packet = some handled) :
    Drained client handled ∧
      handled.client.holdPingRequest = (client.holdPingRequest || packet = .pingreq) := by
  cases packet with
  | pingreq =>
    obtain rfl := Option.some.inj h
    simp only [drains] at hdrains
    simp only [MQTTSNConnectionHandler.handlePingreq, hdrains, if_true]
    exact ⟨holdPing_drained client, by simp [MQTTSNConnectionHandler.holdPing, sendStoredPublish,
      Handled.unchanged]⟩
  | connect data =>
    cases data with
    | none => cases hdrains
    | some data =>
      obtain rfl := Option.some.inj h
      simp only [drains, hagg, Bool.false_and, Bool.or_false] at hdrains
      simp only [MQTTSNConnectionHandler.handleConnect, hdrains, if_true]
      exact ⟨(Same.refl client).drained _, by simp [sendStoredPublish, Handled.unchanged]⟩
  | willmsg data => cases data <;> simp [drains, hagg] at hdrains
  | _ => cases hdrains

theorem aggregate_drained (hagg : PacketHandleTask.isAggregatedClient gw client = true)
    (hdrains : drains gw client packet = true)
    (h : PacketHandleTask.aggregateClientPacket gw ids client packet = some handled) :
    Drained client handled ∧
      handled.client.holdPingRequest = (client.holdPingRequest || packet = .pingreq) := by
  cases packet with
  | pingreq =>
    obtain rfl := Option.some.inj h
    simp only [drains] at hdrains
    simp only [MQTTSNAggregateConnectionHandler.handlePingreq, hdrains, if_true]
    exact ⟨holdPing_drained client, by simp [MQTTSNConnectionHandler.holdPing, sendStoredPublish,
      Handled.unchanged]⟩
  | connect data =>
    cases data with
    | none => cases hdrains
    | some data =>
      obtain rfl := Option.some.inj h
      rw [aggregateConnect_eq]
      simp only [drains, hagg, Bool.true_and] at hdrains
      split_ifs with hawake hwill
      · exact ⟨(Same.refl client).drained _, by simp [sendStoredPublish, Handled.unchanged]⟩
      · simp [hawake, hwill] at hdrains
      · have hsame := (Same.aggregateReset client data).trans (Same.connackSended _ MQTTSN_RC_ACCEPTED)
        refine ⟨hsame.drained _, ?_⟩
        simpa [sendStoredPublish, Handled.unchanged] using hsame.hold
  | willmsg data =>
    cases data with
    | none => cases hdrains
    | some data =>
      obtain rfl := Option.some.inj h
      simp only [drains, hagg, Bool.true_and, Bool.and_eq_true] at hdrains
      simp only [MQTTSNAggregateConnectionHandler.handleWillmsg, hdrains.1, hdrains.2, Bool.not_true,
        Bool.false_eq_true, if_false, if_true]
      exact ⟨(Same.refl client).drained _, by simp [sendStoredPublish, Handled.unchanged]⟩
  | _ => cases hdrains

theorem clientPacket_drained (hdrains : drains gw client packet = true)
    (h : PacketHandleTask.clientPacket gw ids client packet = some handled) :
    Drained client handled ∧
      handled.client.holdPingRequest = (client.holdPingRequest || packet = .pingreq) := by
  rcases PacketHandleTask.clientPacket_cases h with ⟨hagg, h⟩ | ⟨hagg, h⟩
  · exact aggregate_drained hagg hdrains h
  · exact transparent_drained hagg hdrains h

theorem Keeps.handleRegAck {data : Option SNAck} (h : regacks client (.regack data) = false) :
    Keeps client (MQTTSNPublishHandler.handleRegAck client data) := by
  cases data with
  | none => exact .unchanged client
  | some ack =>
    simp only [regacks] at h
    rw [MQTTSNPublishHandler.handleRegAck, if_neg (by simp [h])]
    exact .unchanged client

theorem transparent_kept (hagg : PacketHandleTask.isAggregatedClient gw client = false)
    (hdrains : drains gw client packet = false) (hping : packet ≠ .pingreq)
    (hregack : regacks client packet = false)
    (h : PacketHandleTask.transparentClientPacket gw client packet = some handled) :
    Keeps client handled := by
  cases packet with
  | pingreq => exact absurd rfl hping
  | register data => exact .handleRegister h
  | subscribe data =>
    obtain ⟨result, hresult, rfl⟩ := Option.map_eq_some_iff.mp h
    exact .handleSubscribe hresult
  | connect data =>
    obtain rfl := Option.some.inj h
    cases data with
    | none => exact .unchanged client
    | some data =>
      simp only [drains, hagg, Bool.false_and, Bool.or_false] at hdrains
      exact .handleConnect data hdrains
  | willtopic data => exact .of_some h (.handleWilltopic data)
  | willmsg data => exact .of_some h (.handleWillmsg data)
  | disconnect duration => exact .of_some h (.handleDisconnect duration)
  | willmsgupd => exact .of_some h (.toClient client _)
  | publish data => exact .of_some h (.handlePublish data)
  | puback data => exact .of_some h (.handlePuback data)
  | pubrec msgId => exact .of_some h (.handleAck _ msgId)
  | pubrel msgId => exact .of_some h (.handleAck _ msgId)
  | pubcomp msgId => exact .of_some h (.handleAck _ msgId)
  | regack data => exact .of_some h (.handleRegAck hregack)
  | unsubscribe data => exact .of_some h (.handleUnsubscribe data)
  | _ => exact .of_some h (.unchanged client)

theorem Keeps.aggregateConnect {data : SNConnect}
    (hagg : PacketHandleTask.isAggregatedClient gw client = true)
    (h : drains gw client (.connect (some data)) = false) :
    Keeps client (MQTTSNAggregateConnectionHandler.handleConnect client (some data)) := by
  simp only [drains, hagg, Bool.true_and, Bool.or_eq_false_iff] at h
  rw [aggregateConnect_eq, if_neg (by simp [h.1]), if_pos (by simpa using h.2)]
  exact ⟨.aggregateReset client data, rfl⟩

theorem Keeps.aggregateWillmsg {data : Option Bytes}
    (hagg : PacketHandleTask.isAggregatedClient gw client = true)
    (h : drains gw client (.willmsg data) = false) :
    Keeps client (MQTTSNAggregateConnectionHandler.handleWillmsg client data) := by
  unfold MQTTSNAggregateConnectionHandler.handleWillmsg
  split_ifs with hflag hsendable
  · exact .unchanged client
  · cases data with
    | none => exact .unchanged client
    | some data =>
      simp only [drains, hagg, hsendable, Bool.true_and, Bool.and_true] at h
      simp [h] at hflag
  · exact .unchanged client

theorem aggregate_kept (hagg : PacketHandleTask.isAggregatedClient gw client = true)
    (hdrains : drains gw client packet = false) (hping : packet ≠ .pingreq)
    (hregack : regacks client packet = false)
    (h : PacketHandleTask.aggregateClientPacket gw ids client packet = some handled) :
    Keeps client handled := by
  cases packet with
  | pingreq => exact absurd rfl hping
  | register data => exact .handleRegister h
  | subscribe data => exact .handleAggregateSubscribe h
  | connect data =>
    obtain rfl := Option.some.inj h
    cases data with
    | none => exact .unchanged client
    | some data => exact .aggregateConnect hagg hdrains
  | willtopic data => exact .of_some h (.handleWilltopic data)
  | willmsg data => exact .of_some h (.aggregateWillmsg hagg hdrains)
  | disconnect duration => exact .of_some h (.toClient client _)
  | willmsgupd => exact .of_some h (.toClient client _)
  | publish data => exact .of_some h (.handleAggregatePublish data)
  | pubrec msgId => exact .of_some h (.handleAggregateAck msgId)
  | regack data => exact .of_some h (.handleRegAck hregack)
  | unsubscribe data =>
    exact .of_some h ((Keeps.handleUnsubscribe data).renumber _)
  | _ => exact .of_some h (.unchanged client)

theorem clientPacket_kept (hdrains : drains gw client packet = false) (hping : packet ≠ .pingreq)
    (hregack : regacks client packet = false)
    (h : PacketHandleTask.clientPacket gw ids client packet = some handled) :
    Keeps client handled := by
  rcases PacketHandleTask.clientPacket_cases h with ⟨hagg, h⟩ | ⟨hagg, h⟩
  · exact aggregate_kept hagg hdrains hping hregack h
  · exact transparent_kept hagg hdrains hping hregack h

theorem clientPacket_pingreq (hdrains : drains gw client .pingreq = false)
    (h : PacketHandleTask.clientPacket gw ids client .pingreq = some handled) :
    handled.client = { client with holdPingRequest := false } ∧
      (handled.packetEvents = [] ∨ handled.packetEvents = [.setHeader PINGRESP]) := by
  simp only [drains] at hdrains
  rcases PacketHandleTask.clientPacket_cases h with ⟨-, h⟩ | ⟨-, h⟩
  · obtain rfl := Option.some.inj h
    rw [MQTTSNAggregateConnectionHandler.handlePingreq, if_neg (by simp [hdrains])]
    exact ⟨rfl, .inr rfl⟩
  · obtain rfl := Option.some.inj h
    rw [MQTTSNConnectionHandler.handlePingreq, if_neg (by simp [hdrains])]
    exact ⟨rfl, .inl rfl⟩

theorem clientPacket_regack (hregack : regacks client packet = true)
    (h : PacketHandleTask.clientPacket gw ids client packet = some handled) :
    ∃ msgId, handled =
      MQTTSNPublishHandler.releasePing (MQTTSNPublishHandler.release client msgId) := by
  cases packet with
  | regack data =>
    cases data with
    | none => cases hregack
    | some ack =>
      have hhandled : MQTTSNPublishHandler.handleRegAck client (some ack) = handled := by
        rcases PacketHandleTask.clientPacket_cases h with ⟨-, h⟩ | ⟨-, h⟩
        · exact Option.some.inj h
        · exact Option.some.inj h
      simp only [regacks] at hregack
      rw [MQTTSNPublishHandler.handleRegAck, if_pos hregack] at hhandled
      exact ⟨ack.msgId, hhandled.symm⟩
  | _ => cases hregack

end ClientPackets

end MbedMqtt.MQTTSNGW
