import MbedMqtt.Gateway.Trace

namespace MbedMqtt.MQTTSNGW

open PacketHandleTask

def Client.identity (client : Client) : ClientType × Bytes := (client.clientType, client.clientId)

theorem isAggregatedClient_of_identity (gw : Gateway) {client other : Client}
    (h : client.identity = other.identity) :
    isAggregatedClient gw client = isAggregatedClient gw other := by
  have htype : client.clientType = other.clientType := congrArg Prod.fst h
  simp only [isAggregatedClient, Client.isQoSm1, Client.isAggregater, Client.isQoSm1Proxy, htype]

theorem isAggregater_of_identity {client other : Client} (h : client.identity = other.identity) :
    client.isAggregater = other.isAggregater := by
  have htype : client.clientType = other.clientType := congrArg Prod.fst h
  simp only [Client.isAggregater, htype]

theorem isAggregated_of_identity {client other : Client} (h : client.identity = other.identity) :
    client.isAggregated = other.isAggregated := by
  have htype : client.clientType = other.clientType := congrArg Prod.fst h
  simp only [Client.isAggregated, htype]

def ClientStatus.isUp : ClientStatus → Bool
  | .active => true
  | .asleep => true
  | .awake => true
  | _ => false

structure Stands (client after : Client) : Prop where
  identity : after.identity = client.identity
  down : client.status.isUp = false → after.status.isUp = false

namespace Stands

variable {client middle after : Client}

theorem same (hidentity : after.identity = client.identity) (hstatus : after.status = client.status) :
    Stands client after :=
  ⟨hidentity, fun hdown => hstatus ▸ hdown⟩

theorem refl (client : Client) : Stands client client := same rfl rfl

theorem trans (h : Stands client middle) (k : Stands middle after) : Stands client after :=
  ⟨k.identity.trans h.identity, fun hdown => k.down (h.down hdown)⟩

theorem of_some {handled answer : Handled} (h : some handled = some answer)
    (hstands : Stands client handled.client) : Stands client answer.client :=
  Option.some.inj h ▸ hstands

theorem disconnected (client : Client) : Stands client client.disconnected := ⟨rfl, fun _ => rfl⟩

theorem connectSended (client : Client) : Stands client client.connectSended := ⟨rfl, fun _ => rfl⟩

theorem withTopics (client : Client) (topics : Topics) :
    Stands client { client with topics := topics } :=
  same rfl rfl

end Stands

section Statuses

variable (client : Client)

theorem Client.updateStatus_down (packet : MQTTSNPacket) (h : client.status.isUp = false) :
    client.updateStatus packet = client := by
  cases hstatus : client.status with
  | active => cases hstatus ▸ h
  | asleep => cases hstatus ▸ h
  | awake => cases hstatus ▸ h
  | _ => simp only [updateStatus, hstatus]

theorem Client.updateActive_identity (packet : MQTTSNPacket) :
    (client.updateActive packet).identity = client.identity := by
  cases packet with
  | disconnect duration =>
    simp only [updateActive]
    split_ifs <;> rfl
  | _ => rfl

theorem Client.updateSleeping_identity (packet : MQTTSNPacket) :
    (client.updateSleeping packet).identity = client.identity := by
  cases packet <;> rfl

theorem Client.updateStatus_identity (packet : MQTTSNPacket) :
    (client.updateStatus packet).identity = client.identity := by
  unfold updateStatus
  split
  · exact updateActive_identity client packet
  · exact updateSleeping_identity client packet
  · exact updateSleeping_identity client packet
  · rfl

theorem Client.updateStatus_stands (packet : MQTTSNPacket) :
    Stands client (client.updateStatus packet) := by
  refine ⟨updateStatus_identity client packet, ?_⟩
  intro hdown
  rwa [updateStatus_down client packet hdown]

theorem Client.connackSended_identity (rc : Nat) :
    (client.connackSended rc).identity = client.identity := by
  unfold connackSended
  split_ifs <;> rfl

theorem Client.connackSended_stands {rc : Nat} (h : rc ≠ MQTTSN_RC_ACCEPTED) :
    Stands client (client.connackSended rc) := by
  rw [connackSended, if_neg h]
  exact .disconnected client

end Statuses

section ConnectionHandler

variable (gw : Gateway) (client : Client)

theorem prepareConnect_stands (data : SNConnect) :
    Stands client (MQTTSNConnectionHandler.prepareConnect gw client data) := by
  unfold MQTTSNConnectionHandler.prepareConnect
  cases client.isAdapter with
  | true => cases data.cleansession <;> exact .same rfl rfl
  | false =>
    refine (Stands.disconnected client).trans ?_
    cases data.cleansession <;> exact .same rfl rfl

theorem handleConnect_stands (data : Option SNConnect) :
    Stands client (MQTTSNConnectionHandler.handleConnect gw client data).client := by
  cases data with
  | none => exact .refl client
  | some data =>
    simp only [MQTTSNConnectionHandler.handleConnect]
    split_ifs
    · exact .same rfl rfl
    · exact prepareConnect_stands gw client data
    · exact prepareConnect_stands gw client data

theorem handleWilltopic_stands (data : Option SNWilltopic) :
    Stands client (MQTTSNConnectionHandler.handleWilltopic client data).client := by
  cases data <;> exact .same rfl rfl

theorem handleWillmsg_stands (data : Option Bytes) :
    Stands client (MQTTSNConnectionHandler.handleWillmsg gw client data).client := by
  unfold MQTTSNConnectionHandler.handleWillmsg
  cases data <;> split_ifs <;> exact .same rfl rfl

theorem handlePingreq_stands :
    Stands client (MQTTSNConnectionHandler.handlePingreq client).client := by
  unfold MQTTSNConnectionHandler.handlePingreq
  split_ifs <;> exact .same rfl rfl

theorem handleAggregateConnect_identity (data : Option SNConnect) :
    (MQTTSNAggregateConnectionHandler.handleConnect client data).client.identity =
      client.identity := by
  cases data with
  | none => rfl
  | some data =>
    simp only [MQTTSNAggregateConnectionHandler.handleConnect]
    split_ifs
    all_goals rfl

theorem handleAggregateWillmsg_stands (data : Option Bytes) :
    Stands client (MQTTSNAggregateConnectionHandler.handleWillmsg client data).client := by
  unfold MQTTSNAggregateConnectionHandler.handleWillmsg
  cases data <;> split_ifs <;> exact .same rfl rfl

theorem handleAggregatePingreq_stands :
    Stands client (MQTTSNAggregateConnectionHandler.handlePingreq client).client := by
  unfold MQTTSNAggregateConnectionHandler.handlePingreq
  split_ifs <;> exact .same rfl rfl

end ConnectionHandler

section PublishHandler

variable (gw : Gateway) (ids : MessageIds) (client : Client)

theorem setWaitedPubTopicId_stands (packet : SNPublish) :
    Stands client (MQTTSNPublishHandler.setWaitedPubTopicId client packet) := by
  unfold MQTTSNPublishHandler.setWaitedPubTopicId
  split_ifs <;> exact .same rfl rfl

theorem forward_stands (packet : SNPublish) (topic : Bytes) (topiclen : Nat)
    (bounded : topiclen < 65536) :
    Stands client
      (MQTTSNPublishHandler.forward gw client packet topic topiclen bounded).1.client := by
  simp only [MQTTSNPublishHandler.forward]
  split_ifs
  · exact setWaitedPubTopicId_stands client packet
  · exact setWaitedPubTopicId_stands client packet

theorem handlePublish_stands (data : Option SNPublish) :
    Stands client (MQTTSNPublishHandler.handlePublish gw client data).1.client := by
  unfold MQTTSNPublishHandler.handlePublish
  split_ifs
  · exact .refl client
  cases data with
  | none => exact .refl client
  | some packet =>
    simp only
    split
    · exact forward_stands gw client packet _ _ _
    split
    · exact (Stands.withTopics client _).trans (forward_stands gw _ packet _ _ _)
    split
    · exact .withTopics client _
    split
    · exact .withTopics client _
    · exact (Stands.withTopics client _).trans (forward_stands gw _ packet _ _ _)

theorem handleAggregatePublish_client (data : Option SNPublish) :
    (MQTTSNPublishHandler.handleAggregatePublish gw ids client data).client =
      (MQTTSNPublishHandler.handlePublish gw client data).1.client := by
  unfold MQTTSNPublishHandler.handleAggregatePublish
  split
  · rename_i hresult
    rw [hresult]
  · rename_i hresult
    rw [hresult]

theorem handlePuback_stands (data : Option SNAck) :
    Stands client (MQTTSNPublishHandler.handlePuback gw client data).client := by
  cases data with
  | none => exact .refl client
  | some ack =>
    simp only [MQTTSNPublishHandler.handlePuback]
    split_ifs <;> exact .same rfl rfl

theorem handleAck_stands (packetType : Nat) (msgId : Option UInt16) :
    Stands client (MQTTSNPublishHandler.handleAck client packetType msgId).client := by
  cases msgId with
  | none => exact .refl client
  | some msgId =>
    simp only [MQTTSNPublishHandler.handleAck]
    split_ifs <;> exact .same rfl rfl

theorem handleRegister_stands (data : Option SNRegister) {handled : Handled}
    (h : MQTTSNPublishHandler.handleRegister client data = some handled) :
    Stands client handled.client := by
  cases data with
  | none => exact .of_some h (.refl client)
  | some data =>
    simp only [MQTTSNPublishHandler.handleRegister] at h
    split_ifs at h
    · split at h
      · exact absurd h (by simp)
      · exact .of_some h (.withTopics client _)
    · exact .of_some h (.refl client)

theorem releasePing_stands (handled : Handled) :
    Stands handled.client (MQTTSNPublishHandler.releasePing handled).client := by
  obtain ⟨hold, hclient⟩ := MQTTSNPublishHandler.releasePing_client handled
  rw [hclient]
  exact .same rfl rfl

theorem release_stands (msgId : UInt16) :
    Stands client (MQTTSNPublishHandler.release client msgId).client := by
  unfold MQTTSNPublishHandler.release
  split <;> exact .same rfl rfl

theorem handleRegAck_stands (data : Option SNAck) :
    Stands client (MQTTSNPublishHandler.handleRegAck client data).client := by
  cases data with
  | none => exact .refl client
  | some ack =>
    simp only [MQTTSNPublishHandler.handleRegAck]
    split_ifs
    · exact (release_stands client ack.msgId).trans (releasePing_stands _)
    · exact .refl client

theorem handleAggregateAck_stands (msgId : Option UInt16) :
    Stands client (MQTTSNPublishHandler.handleAggregateAck client msgId).client := by
  cases msgId <;> exact .refl client

theorem handleAwake_stands (pub : Publish) {handled : Handled}
    (h : MQTTGWPublishHandler.handleAwake client pub = some handled) :
    Stands client handled.client := by
  obtain ⟨-, rfl⟩ | ⟨-, tp, -, rfl⟩ | ⟨-, -, ⟨-, rfl⟩ | ⟨-, topics, topic, -, ⟨-, rfl⟩ | ⟨-, rfl⟩⟩⟩ :=
    MQTTGWPublishHandler.handleAwake_cases h
  · exact .refl client
  · exact .refl client
  · rw [MQTTGWPublishHandler.acknowledge_client]
    exact .refl client
  · exact .same rfl rfl
  · exact .same rfl rfl

theorem handleBrokerPublish_stands (packet : MQTTGWPacket) {handled : Handled}
    (h : MQTTGWPublishHandler.handlePublish client packet = some handled) :
    Stands client handled.client := by
  unfold MQTTGWPublishHandler.handlePublish at h
  split_ifs at h
  · exact .of_some h (.refl client)
  · refine .of_some h ?_
    rw [MQTTGWPublishHandler.acknowledge_client]
    exact .same rfl rfl
  · exact handleAwake_stands client _ h

theorem handleBrokerPuback_stands (packet : MQTTGWPacket) :
    Stands client (MQTTGWPublishHandler.handlePuback client packet).client := by
  simp only [MQTTGWPublishHandler.handlePuback]
  split <;> exact .same rfl rfl

theorem handleBrokerAck_stands (packet : MQTTGWPacket) (type : Nat) :
    Stands client (MQTTGWPublishHandler.handleAck client packet type).client := by
  unfold MQTTGWPublishHandler.handleAck
  split_ifs <;> exact .refl client

end PublishHandler

section SubscribeHandler

variable (gw : Gateway) (ids : MessageIds) (client : Client)

theorem sendSubscribe_stands (packet : SNSubscribe) (topicId : UInt16) (topic : Bytes) :
    Stands client (MQTTSNSubscribeHandler.sendSubscribe client packet topicId topic).1.client := by
  simp only [MQTTSNSubscribeHandler.sendSubscribe]
  split_ifs <;> exact .same rfl rfl

theorem subscribeNormal_stands (packet : SNSubscribe) (name : TopicName) :
    Stands client (MQTTSNSubscribeHandler.subscribeNormal client packet name).1.client := by
  unfold MQTTSNSubscribeHandler.subscribeNormal
  split
  · exact .withTopics client _
  · exact (Stands.withTopics client _).trans (sendSubscribe_stands _ packet _ _)

theorem handleSubscribe_stands (data : Option SNSubscribe)
    {result : Handled × Option MQTTGWPacket}
    (h : MQTTSNSubscribeHandler.handleSubscribe gw client data = some result) :
    Stands client result.1.client := by
  cases data with
  | none => exact Option.some.inj h ▸ .refl client
  | some packet =>
    simp only [MQTTSNSubscribeHandler.handleSubscribe] at h
    split at h
    · exact Option.some.inj h ▸ .refl client
    split at h
    · split at h
      · exact Option.some.inj h ▸ sendSubscribe_stands client packet _ _
      · split at h
        · exact absurd h (by simp)
        · exact Option.some.inj h ▸ .refl client
    · exact Option.some.inj h ▸ subscribeNormal_stands client packet _
    · exact Option.some.inj h ▸ .refl client
    · exact Option.some.inj h ▸ sendSubscribe_stands client packet _ _

theorem handleUnsubscribe_stands (data : Option SNSubscribe) :
    Stands client (MQTTSNSubscribeHandler.handleUnsubscribe client data).1.client := by
  cases data with
  | none => exact .refl client
  | some packet =>
    simp only [MQTTSNSubscribeHandler.handleUnsubscribe]
    split
    · exact .refl client
    split
    · exact .refl client
    · split_ifs <;> exact .refl client

theorem renumber_client (msgId : UInt16) (result : Handled × Option MQTTGWPacket) :
    (MQTTSNSubscribeHandler.renumber ids msgId result).client = result.1.client := by
  unfold MQTTSNSubscribeHandler.renumber
  split
  · rfl
  · split_ifs <;> rfl

theorem handleSuback_stands (packet : MQTTGWPacket) :
    Stands client (MQTTGWSubscribeHandler.handleSuback client packet).client := by
  simp only [MQTTGWSubscribeHandler.handleSuback]
  split
  · exact .same rfl rfl
  · split_ifs <;> exact .same rfl rfl

end SubscribeHandler

def accepts (packet : MQTTGWPacket) : Bool :=
  packet.getType = CONNACK &&
    MQTTGWConnectionHandler.returnCode packet.getCONNACK = MQTTSN_RC_ACCEPTED

section Dispatch

variable {gw : Gateway} {ids : MessageIds} {client : Client} {clients : Nat → Client}
  {handled : Handled}

theorem aggregateClientPacket_stands {packet : MQTTSNPacket}
    (hconnect : ∀ data, packet ≠ .connect (some data))
    (h : aggregateClientPacket gw ids client packet = some handled) :
    Stands client handled.client := by
  cases packet with
  | connect data =>
    cases data with
    | none => exact .of_some h (.refl client)
    | some data => exact absurd rfl (hconnect data)
  | willtopic data => exact .of_some h (handleWilltopic_stands client data)
  | willmsg data => exact .of_some h (handleAggregateWillmsg_stands client data)
  | pingreq => exact .of_some h (handleAggregatePingreq_stands client)
  | publish data =>
    refine .of_some h ?_
    rw [handleAggregatePublish_client]
    exact handlePublish_stands gw client data
  | pubrec msgId => exact .of_some h (handleAggregateAck_stands client msgId)
  | register data => exact handleRegister_stands client data h
  | regack data => exact .of_some h (handleRegAck_stands client data)
  | subscribe data =>
    obtain ⟨result, hresult, rfl⟩ := Option.map_eq_some_iff.mp h
    rw [renumber_client]
    exact handleSubscribe_stands gw client data hresult
  | unsubscribe data =>
    refine .of_some h ?_
    rw [MQTTSNSubscribeHandler.handleAggregateUnsubscribe, renumber_client]
    exact handleUnsubscribe_stands client data
  | _ => exact .of_some h (.refl client)

theorem aggregateClientPacket_identity {packet : MQTTSNPacket}
    (h : aggregateClientPacket gw ids client packet = some handled) :
    handled.client.identity = client.identity := by
  by_cases hconnect : ∀ data, packet ≠ .connect (some data)
  · exact (aggregateClientPacket_stands hconnect h).identity
  · push Not at hconnect
    obtain ⟨data, rfl⟩ := hconnect
    exact Option.some.inj h ▸ handleAggregateConnect_identity client (some data)

theorem transparentClientPacket_stands {packet : MQTTSNPacket}
    (h : transparentClientPacket gw client packet = some handled) :
    Stands client handled.client := by
  cases packet with
  | connect data => exact .of_some h (handleConnect_stands gw client data)
  | willtopic data => exact .of_some h (handleWilltopic_stands client data)
  | willmsg data => exact .of_some h (handleWillmsg_stands gw client data)
  | pingreq => exact .of_some h (handlePingreq_stands client)
  | publish data => exact .of_some h (handlePublish_stands gw client data)
  | puback data => exact .of_some h (handlePuback_stands gw client data)
  | pubrec msgId => exact .of_some h (handleAck_stands client PUBREC msgId)
  | pubrel msgId => exact .of_some h (handleAck_stands client PUBREL msgId)
  | pubcomp msgId => exact .of_some h (handleAck_stands client PUBCOMP msgId)
  | register data => exact handleRegister_stands client data h
  | regack data => exact .of_some h (handleRegAck_stands client data)
  | subscribe data =>
    obtain ⟨result, hresult, rfl⟩ := Option.map_eq_some_iff.mp h
    exact handleSubscribe_stands gw client data hresult
  | unsubscribe data => exact .of_some h (handleUnsubscribe_stands client data)
  | _ => exact .of_some h (.refl client)

theorem clientPacket_stands {packet : MQTTSNPacket}
    (hconnect : isAggregatedClient gw client = true → ∀ data, packet ≠ .connect (some data))
    (h : clientPacket gw ids client packet = some handled) : Stands client handled.client := by
  rcases clientPacket_cases h with ⟨haggregated, h⟩ | ⟨-, h⟩
  · exact aggregateClientPacket_stands (hconnect haggregated) h
  · exact transparentClientPacket_stands h

theorem clientPacket_identity {packet : MQTTSNPacket}
    (h : clientPacket gw ids client packet = some handled) :
    handled.client.identity = client.identity := by
  rcases clientPacket_cases h with ⟨-, h⟩ | ⟨-, h⟩
  · exact aggregateClientPacket_identity h
  · exact (transparentClientPacket_stands h).identity

theorem handleConnack_stands {packet : MQTTGWPacket} (h : accepts packet = false)
    (htype : packet.getType = CONNACK) :
    Stands client (MQTTGWConnectionHandler.handleConnack client packet).client := by
  refine Client.connackSended_stands client ?_
  simpa [accepts, htype] using h

theorem transparentBrokerPacket_stands {packet : MQTTGWPacket} (haccepts : accepts packet = false)
    (h : transparentBrokerPacket client packet = some handled) : Stands client handled.client := by
  unfold transparentBrokerPacket at h
  split_ifs at h with hconnack
  · exact .of_some h (handleConnack_stands haccepts hconnack)
  · exact .of_some h (Client.updateStatus_stands client .pingresp)
  · exact handleBrokerPublish_stands client packet h
  · exact .of_some h (handleBrokerPuback_stands client packet)
  · exact .of_some h (handleBrokerAck_stands client packet _)
  · exact .of_some h (handleSuback_stands client packet)
  · exact .of_some h (.refl client)
  · exact .of_some h (.refl client)

theorem convertedPacket_stands (packet : MQTTGWPacket) :
    Stands client (convertedPacket client packet).client := by
  unfold convertedPacket
  split_ifs
  · exact handleBrokerPuback_stands client packet
  · exact handleBrokerAck_stands client packet _
  · exact handleSuback_stands client packet
  · exact .refl client

theorem aggregateBrokerPacket_stands (c : Nat) {packet : MQTTGWPacket}
    (haccepts : accepts packet = false) :
    Stands (clients (aggregateBrokerPacket ids clients c packet).1)
      (aggregateBrokerPacket ids clients c packet).2.client := by
  unfold aggregateBrokerPacket
  split
  · rename_i hconnack
    exact handleConnack_stands haccepts hconnack
  split
  · exact Client.updateStatus_stands _ .pingresp
  split
  · rw [MQTTGWPublishHandler.handleAggregatePublish, MQTTGWPublishHandler.acknowledge_client]
    exact .refl _
  split
  · exact .refl _
  split
  · split
    · exact convertedPacket_stands _
    · exact .refl _
  · exact .refl _

theorem accepts_connack {packet : MQTTGWPacket} (h : accepts packet = true) :
    packet.getType = CONNACK := by
  simp only [accepts, Bool.and_eq_true, decide_eq_true_eq] at h
  exact h.1

theorem transparentBrokerPacket_identity {packet : MQTTGWPacket}
    (h : transparentBrokerPacket client packet = some handled) :
    handled.client.identity = client.identity := by
  cases haccepts : accepts packet with
  | false => exact (transparentBrokerPacket_stands haccepts h).identity
  | true =>
    rw [transparentBrokerPacket, if_pos (accepts_connack haccepts)] at h
    exact Option.some.inj h ▸ Client.connackSended_identity client _

theorem aggregateBrokerPacket_identity (c : Nat) (packet : MQTTGWPacket) :
    (aggregateBrokerPacket ids clients c packet).2.client.identity =
      (clients (aggregateBrokerPacket ids clients c packet).1).identity := by
  cases haccepts : accepts packet with
  | false => exact (aggregateBrokerPacket_stands c haccepts).identity
  | true =>
    rw [aggregateBrokerPacket, if_pos (accepts_connack haccepts)]
    exact Client.connackSended_identity _ _

theorem handleEvent_clientRecv {c : Nat} {packet : MQTTSNPacket} {answer : Handled}
    (h : clientPacket gw ids (clients c) packet = some answer) :
    handleEvent gw ids clients (.clientRecv c packet) =
      .done c { answer with client := answer.client.updateStatus packet } := by
  simp only [handleEvent, h, Option.map_some, Result.ofOption]

inductive Dispatched (gw : Gateway) (ids : MessageIds) (clients : Nat → Client) :
    Event → Nat → Handled → Prop
  | client {c : Nat} {packet : MQTTSNPacket} {answer : Handled}
      (h : clientPacket gw ids (clients c) packet = some answer) :
      Dispatched gw ids clients (.clientRecv c packet) c
        { answer with client := answer.client.updateStatus packet }
  | transparent {c : Nat} {packet : MQTTGWPacket} {handled : Handled}
      (plain : (clients c).isAggregater = false)
      (h : transparentBrokerPacket (clients c) packet = some handled) :
      Dispatched gw ids clients (.brokerRecv c packet) c handled
  | aggregate {c : Nat} {packet : MQTTGWPacket} (aggregater : (clients c).isAggregater = true) :
      Dispatched gw ids clients (.brokerRecv c packet)
        (aggregateBrokerPacket ids clients c packet).1 (aggregateBrokerPacket ids clients c packet).2

theorem handleEvent_dispatched {ev : Event} {target : Nat}
    (h : handleEvent gw ids clients ev = .done target handled) :
    Dispatched gw ids clients ev target handled := by
  cases ev with
  | broadcast => cases h
  | clientRecv c packet =>
    cases hpacket : clientPacket gw ids (clients c) packet with
    | none => simp [handleEvent, hpacket, Result.ofOption] at h
    | some answer =>
      rw [handleEvent_clientRecv hpacket] at h
      obtain ⟨rfl, rfl⟩ := Result.done.inj h
      exact .client hpacket
  | brokerRecv c packet =>
    simp only [handleEvent] at h
    split at h
    · rename_i haggregater
      simp only [Result.done.injEq] at h
      obtain ⟨rfl, rfl⟩ := h
      exact .aggregate haggregater
    · rename_i hplain
      cases hpacket : transparentBrokerPacket (clients c) packet with
      | none => simp [hpacket, Result.ofOption] at h
      | some answer =>
        simp only [hpacket, Result.ofOption, Result.done.injEq] at h
        obtain ⟨rfl, rfl⟩ := h
        exact .transparent (Bool.eq_false_iff.mpr hplain) hpacket

theorem handleEvent_identity {ev : Event} {target : Nat}
    (h : handleEvent gw ids clients ev = .done target handled) :
    handled.client.identity = (clients target).identity := by
  cases handleEvent_dispatched h with
  | client hpacket =>
    exact (Client.updateStatus_identity _ _).trans (clientPacket_identity hpacket)
  | transparent _ hpacket => exact transparentBrokerPacket_identity hpacket
  | aggregate _ => exact aggregateBrokerPacket_identity _ _

def activated (gw : Gateway) (clients : Nat → Client) : Event → Option Nat
  | .clientRecv c (.connect (some _)) => if isAggregatedClient gw (clients c) then some c else none
  | .brokerRecv c packet => if accepts packet then some c else none
  | _ => none

theorem handleEvent_stands {ev : Event} {target : Nat}
    (hactivated : activated gw clients ev ≠ some target)
    (h : handleEvent gw ids clients ev = .done target handled) :
    Stands (clients target) handled.client := by
  cases handleEvent_dispatched h with
  | client hpacket =>
    refine (clientPacket_stands ?_ hpacket).trans (Client.updateStatus_stands _ _)
    rintro haggregated data rfl
    exact hactivated (if_pos haggregated)
  | @transparent _ packet _ _ hpacket =>
    refine transparentBrokerPacket_stands ?_ hpacket
    by_contra haccepts
    exact hactivated (if_pos (Bool.eq_true_of_not_eq_false haccepts))
  | @aggregate c packet _ =>
    cases haccepts : accepts packet with
    | false => exact aggregateBrokerPacket_stands c haccepts
    | true =>
      rw [aggregateBrokerPacket, if_pos (accepts_connack haccepts)] at hactivated
      exact absurd (if_pos haccepts) hactivated

end Dispatch

section Runs

variable {gw : Gateway} {s : State} {R : Client → Client → Prop}

theorem step_client (hrefl : ∀ client, R client client)
    (hconnect : ∀ client, R client (Client.connectSended client))
    (hdisconnect : ∀ client, R client (Client.disconnected client))
    (hhandled : ∀ {ids ev target handled},
      handleEvent gw ids s.clients ev = .done target handled →
        R (s.clients target) handled.client)
    (act : Act) (c : Nat) :
    R (s.clients c) ((step gw s act).clients c) := by
  unfold step
  split
  · exact hrefl _
  cases act with
  | post ev => exact hrefl _
  | connectSended target => exact update_related hrefl (hconnect _) c
  | disconnected target => exact update_related hrefl (hdisconnect _) c
  | handle ids =>
    simp only
    split
    · exact hrefl _
    rename_i ev rest hitems
    cases hresult : handleEvent gw ids s.clients ev with
    | nothing => exact hrefl _
    | fault => exact hrefl _
    | done target handled => exact update_related hrefl (hhandled hresult) c

end Runs

theorem step_identity (gw : Gateway) (s : State) (act : Act)
    (c : Nat) : ((step gw s act).clients c).identity = (s.clients c).identity :=
  step_client (R := fun client after => after.identity = client.identity)
    (fun _ => rfl) (fun _ => rfl) (fun _ => rfl) handleEvent_identity act c

end MbedMqtt.MQTTSNGW
