import MbedMqtt.Gateway.EventEffect

namespace MbedMqtt.MQTTSNGW

inductive Evolves (before : Topics) : Topics → Prop
  | refl : Evolves before before
  | addId {topics : Topics} (h : Evolves before topics) (name : TopicName) (id : UInt16) :
      Evolves before (topics.addId name id).1
  | add {topics : Topics} (h : Evolves before topics) (type : TopicType) (name : TopicName) :
      Evolves before (topics.add type name).1
  | eraseNormal {topics : Topics} (h : Evolves before topics) : Evolves before topics.eraseNormal

namespace Evolves

variable {before middle after : Topics}

theorem trans (h : Evolves before middle) (k : Evolves middle after) : Evolves before after := by
  induction k with
  | refl => exact h
  | addId _ name id ih => exact ih.addId name id
  | add _ type name ih => exact ih.add type name
  | eraseNormal _ ih => exact ih.eraseNormal

theorem of_add {type : TopicType} {name : TopicName} {found : Option Topic}
    (h : before.add type name = (after, found)) : Evolves before after := by
  have hadd : Evolves before (before.add type name).1 := Evolves.refl.add type name
  rwa [h] at hadd

theorem sound (h : Evolves before after) (hsound : before.Sound) : after.Sound := by
  induction h with
  | refl => exact hsound
  | addId _ name id ih => exact ih.addId
  | add _ type name ih => exact ih.add type
  | eraseNormal _ ih => exact ih.eraseNormal

end Evolves

section Types

@[simp] theorem setAck_getType (msgId : UInt16) {type : Nat} (h : type < 16) :
    (MQTTGWPacket.setAck type msgId).getType = type := by
  rw [MQTTGWPacket.getType, MQTTGWPacket.setAck, headerType_headerByte, Nat.mod_eq_of_lt h]

theorem setCONNECT_getType (connect : Connect) (username password : Option Bytes) :
    (MQTTGWPacket.setCONNECT connect username password).getType = CONNECT := by
  rw [MQTTGWPacket.getType, MQTTGWPacket.setCONNECT, headerType_headerByte]
  rfl

theorem setSUBSCRIBE_getType (topic : Bytes) (qos : QoS) (msgId : UInt16) :
    (MQTTGWPacket.setSUBSCRIBE topic qos msgId).getType = SUBSCRIBE := by
  rw [MQTTGWPacket.getType, MQTTGWPacket.setSUBSCRIBE, headerType_headerByte]
  rfl

theorem setUNSUBSCRIBE_getType (topic : Bytes) (msgId : UInt16) :
    (MQTTGWPacket.setUNSUBSCRIBE topic msgId).getType = UNSUBSCRIBE := by
  rw [MQTTGWPacket.getType, MQTTGWPacket.setUNSUBSCRIBE, headerType_headerByte]
  rfl

theorem setMsgId_getType (packet : MQTTGWPacket) (msgId : UInt16) :
    (packet.setMsgId msgId).getType = packet.getType := by
  unfold MQTTGWPacket.setMsgId
  split_ifs <;> rfl

end Types

def MQTTSNPacket.isPublish : MQTTSNPacket → Bool
  | .publish _ => true
  | _ => false

structure Quiet (client : Client) (handled : Handled) : Prop where
  topics : Evolves client.topics handled.client.topics
  waited : handled.client.waitedPubTopicIdMap = client.waitedPubTopicIdMap
  acks : ∀ packet ∈ handled.brokerSend, packet.getType ≠ PUBACK
  publishes : ∀ data, MQTTSNPacket.publish data ∉ handled.clientSend

namespace Quiet

variable {client : Client} {gw : Gateway} {ids : MessageIds}

theorem unchanged (client : Client) : Quiet client (.unchanged client) :=
  ⟨.refl, rfl, List.forall_mem_nil _, fun _ => List.not_mem_nil⟩

theorem toClient {after : Client} {packet : MQTTSNPacket}
    (htopics : Evolves client.topics after.topics)
    (hwaited : after.waitedPubTopicIdMap = client.waitedPubTopicIdMap)
    (hpacket : packet.isPublish = false) : Quiet client (.toClient after packet) := by
  refine ⟨htopics, hwaited, List.forall_mem_nil _, ?_⟩
  intro data hmem
  obtain rfl := List.mem_singleton.mp hmem
  cases hpacket

theorem toBroker {after : Client} {packet : MQTTGWPacket}
    (htopics : Evolves client.topics after.topics)
    (hwaited : after.waitedPubTopicIdMap = client.waitedPubTopicIdMap)
    (hpacket : packet.getType ≠ PUBACK) : Quiet client (.toBroker after packet) := by
  refine ⟨htopics, hwaited, ?_, fun _ => List.not_mem_nil⟩
  intro sent hmem
  rwa [List.mem_singleton.mp hmem]

theorem of_some {handled after : Handled} (h : some handled = some after)
    (hquiet : Quiet client handled) : Quiet client after := by
  obtain rfl := Option.some.inj h
  exact hquiet

theorem stored {after : Client} (htopics : Evolves client.topics after.topics)
    (hwaited : after.waitedPubTopicIdMap = client.waitedPubTopicIdMap) (rc : Nat) :
    Quiet client { sendStoredPublish after with clientSend := [.connack rc] } := by
  refine ⟨htopics, hwaited, List.forall_mem_nil _, ?_⟩
  intro data hmem
  cases List.mem_singleton.mp hmem

theorem handleWilltopic (data : Option SNWilltopic) :
    Quiet client (MQTTSNConnectionHandler.handleWilltopic client data) := by
  cases data with
  | none => exact unchanged client
  | some data => exact toClient .refl rfl rfl

theorem handleWillmsg (data : Option Bytes) :
    Quiet client (MQTTSNConnectionHandler.handleWillmsg gw client data) := by
  unfold MQTTSNConnectionHandler.handleWillmsg
  split_ifs
  · exact unchanged client
  · cases data with
    | none => exact unchanged client
    | some willmsg =>
      refine toBroker .refl rfl ?_
      rw [setCONNECT_getType]
      decide
  · exact unchanged client

theorem aggregateWillmsg (data : Option Bytes) :
    Quiet client (MQTTSNAggregateConnectionHandler.handleWillmsg client data) := by
  unfold MQTTSNAggregateConnectionHandler.handleWillmsg
  split_ifs
  · exact unchanged client
  · cases data with
    | none => exact unchanged client
    | some willmsg => exact stored .refl rfl _
  · exact unchanged client

theorem handleDisconnect (duration : UInt16) :
    Quiet client (MQTTSNConnectionHandler.handleDisconnect client duration) := by
  refine ⟨.refl, rfl, ?_, ?_⟩
  · intro packet hmem
    simp only [MQTTSNConnectionHandler.handleDisconnect] at hmem
    split at hmem
    · rw [List.mem_singleton.mp hmem]
      decide
    · exact absurd hmem List.not_mem_nil
  · intro data hmem
    cases List.mem_singleton.mp hmem

theorem holdPing (client : Client) : Quiet client (MQTTSNConnectionHandler.holdPing client) :=
  ⟨.refl, rfl, List.forall_mem_nil _, fun _ => List.not_mem_nil⟩

theorem handlePingreq : Quiet client (MQTTSNConnectionHandler.handlePingreq client) := by
  unfold MQTTSNConnectionHandler.handlePingreq
  split
  · exact holdPing client
  · exact toBroker .refl rfl (by decide)

theorem aggregatePingreq : Quiet client (MQTTSNAggregateConnectionHandler.handlePingreq client) := by
  unfold MQTTSNAggregateConnectionHandler.handlePingreq
  split
  · exact holdPing client
  · exact ⟨.refl, rfl, List.forall_mem_nil _, fun _ => List.not_mem_nil⟩

theorem handleAck {type : Nat} (htype : type < 16) (hne : type ≠ PUBACK) (msgId : Option UInt16) :
    Quiet client (MQTTSNPublishHandler.handleAck client type msgId) := by
  cases msgId with
  | none => exact unchanged client
  | some msgId =>
    simp only [MQTTSNPublishHandler.handleAck]
    split
    · refine toBroker .refl rfl ?_
      rwa [setAck_getType msgId htype]
    · exact unchanged client

theorem handleRegister {data : Option SNRegister} {handled : Handled}
    (h : MQTTSNPublishHandler.handleRegister client data = some handled) : Quiet client handled := by
  cases data with
  | none => exact .of_some h (unchanged client)
  | some data =>
    simp only [MQTTSNPublishHandler.handleRegister] at h
    split at h
    · split at h
      · cases h
      · rename_i hadd
        exact .of_some h (toClient (.of_add hadd) rfl rfl)
    · exact .of_some h (unchanged client)

theorem handleAggregateAck (msgId : Option UInt16) :
    Quiet client (MQTTSNPublishHandler.handleAggregateAck client msgId) := by
  cases msgId with
  | none => exact unchanged client
  | some msgId => exact toClient .refl rfl rfl

theorem append {handled : Handled} (h : Quiet client handled) {packet : MQTTGWPacket}
    (hpacket : packet.getType ≠ PUBACK) :
    Quiet client { handled with brokerSend := handled.brokerSend ++ [packet] } := by
  refine ⟨h.topics, h.waited, ?_, h.publishes⟩
  intro sent hmem
  rcases List.mem_append.mp hmem with hmem | hmem
  · exact h.acks sent hmem
  · rwa [List.mem_singleton.mp hmem]

end Quiet

structure QuietRequest (client : Client) (result : Handled × Option MQTTGWPacket) : Prop where
  quiet : Quiet client result.1
  request : ∀ packet ∈ result.2, packet.getType ≠ PUBACK

namespace QuietRequest

variable {client : Client} {gw : Gateway} {ids : MessageIds}

theorem answered {handled : Handled} (h : Quiet client handled) : QuietRequest client (handled, none) :=
  ⟨h, nofun⟩

theorem sendSubscribe {topics : Topics} (htopics : Evolves client.topics topics)
    (packet : SNSubscribe) (topicId : UInt16) (topic : Bytes) :
    QuietRequest client
      (MQTTSNSubscribeHandler.sendSubscribe { client with topics := topics } packet topicId topic) := by
  have htype : (MQTTGWPacket.setSUBSCRIBE topic packet.qos packet.msgId).getType ≠ PUBACK := by
    rw [setSUBSCRIBE_getType]
    decide
  simp only [MQTTSNSubscribeHandler.sendSubscribe]
  split
  · refine ⟨⟨htopics, rfl, List.forall_mem_nil _, fun _ => List.not_mem_nil⟩, ?_⟩
    rintro _ ⟨⟩
    exact htype
  · exact answered (.toBroker htopics rfl htype)

theorem subscribeNormal (packet : SNSubscribe) (name : TopicName) :
    QuietRequest client (MQTTSNSubscribeHandler.subscribeNormal client packet name) := by
  simp only [MQTTSNSubscribeHandler.subscribeNormal]
  split
  · rename_i hadd
    exact answered ⟨.of_add hadd, rfl, List.forall_mem_nil _, fun _ => List.not_mem_nil⟩
  · rename_i hadd
    exact sendSubscribe (.of_add hadd) _ _ _

theorem handleSubscribe {data : Option SNSubscribe} {result : Handled × Option MQTTGWPacket}
    (h : MQTTSNSubscribeHandler.handleSubscribe gw client data = some result) :
    QuietRequest client result := by
  cases data with
  | none =>
    obtain rfl := Option.some.inj h
    exact answered (.unchanged client)
  | some packet =>
    simp only [MQTTSNSubscribeHandler.handleSubscribe] at h
    split at h
    · obtain rfl := Option.some.inj h
      exact answered (.unchanged client)
    split at h
    · split at h
      · obtain rfl := Option.some.inj h
        exact sendSubscribe .refl _ _ _
      · split at h
        · cases h
        · obtain rfl := Option.some.inj h
          exact answered (.toClient .refl rfl rfl)
    · obtain rfl := Option.some.inj h
      exact subscribeNormal _ _
    · obtain rfl := Option.some.inj h
      exact answered (.unchanged client)
    · obtain rfl := Option.some.inj h
      exact sendSubscribe .refl _ _ _

theorem handleUnsubscribe (data : Option SNSubscribe) :
    QuietRequest client (MQTTSNSubscribeHandler.handleUnsubscribe client data) := by
  cases data with
  | none => exact answered (.unchanged client)
  | some packet =>
    simp only [MQTTSNSubscribeHandler.handleUnsubscribe]
    split
    · exact answered (.unchanged client)
    split
    · exact answered (.toClient .refl rfl rfl)
    · rename_i topic _
      have htype : (MQTTGWPacket.setUNSUBSCRIBE topic packet.msgId).getType ≠ PUBACK := by
        rw [setUNSUBSCRIBE_getType]
        decide
      split
      · refine ⟨.unchanged client, ?_⟩
        rintro _ ⟨⟩
        exact htype
      · exact answered (.toBroker .refl rfl htype)

theorem renumber {result : Handled × Option MQTTGWPacket} (h : QuietRequest client result)
    (msgId : UInt16) : Quiet client (MQTTSNSubscribeHandler.renumber ids msgId result) := by
  obtain ⟨handled, request⟩ := result
  cases request with
  | none => exact h.quiet
  | some request =>
    simp only [MQTTSNSubscribeHandler.renumber]
    split
    · exact h.quiet
    · refine h.quiet.append ?_
      rw [setMsgId_getType]
      exact h.request request rfl

end QuietRequest

namespace Quiet

variable {client : Client} {gw : Gateway} {ids : MessageIds}

theorem handleConnack (packet : MQTTGWPacket) :
    Quiet client (MQTTGWConnectionHandler.handleConnack client packet) := by
  simp only [MQTTGWConnectionHandler.handleConnack, Client.connackSended, Client.disconnected]
  split
  · exact toClient .refl rfl rfl
  · exact toClient .refl rfl rfl

theorem updateStatus (client : Client) (packet : MQTTSNPacket) :
    (client.updateStatus packet).topics = client.topics ∧
      (client.updateStatus packet).waitedPubTopicIdMap = client.waitedPubTopicIdMap := by
  unfold Client.updateStatus Client.updateActive Client.updateSleeping Client.disconnected
  cases client.status <;> cases packet <;> try exact ⟨rfl, rfl⟩
  · simp only
    split_ifs <;> exact ⟨rfl, rfl⟩

theorem handlePingresp : Quiet client (MQTTGWConnectionHandler.handlePingresp client) := by
  obtain ⟨htopics, hwaited⟩ := updateStatus client .pingresp
  exact toClient (htopics ▸ .refl) hwaited rfl

theorem ackPacket_isPublish (type : Nat) (msgId : UInt16) :
    (MQTTGWPublishHandler.ackPacket type msgId).isPublish = false := by
  unfold MQTTGWPublishHandler.ackPacket
  split_ifs <;> rfl

theorem handleBrokerAck (packet : MQTTGWPacket) (type : Nat) :
    Quiet client (MQTTGWPublishHandler.handleAck client packet type) := by
  simp only [MQTTGWPublishHandler.handleAck]
  split_ifs
  · exact toClient .refl rfl (ackPacket_isPublish _ _)
  · refine toBroker .refl rfl ?_
    rw [setAck_getType _ (by decide)]
    decide
  · exact unchanged client

theorem handleSuback (packet : MQTTGWPacket) :
    Quiet client (MQTTGWSubscribeHandler.handleSuback client packet) := by
  simp only [MQTTGWSubscribeHandler.handleSuback]
  split
  · exact unchanged client
  · split
    · exact toClient .refl rfl rfl
    · exact toClient .refl rfl rfl

theorem handleUnsuback (packet : MQTTGWPacket) :
    Quiet client (MQTTGWSubscribeHandler.handleUnsuback client packet) :=
  toClient .refl rfl rfl

theorem transparentBrokerPacket {packet : MQTTGWPacket} {handled : Handled}
    (hpublish : packet.getType ≠ PUBLISH) (hpuback : packet.getType ≠ PUBACK)
    (h : PacketHandleTask.transparentBrokerPacket client packet = some handled) :
    Quiet client handled := by
  simp only [PacketHandleTask.transparentBrokerPacket, if_neg hpublish, if_neg hpuback] at h
  split_ifs at h <;> obtain rfl := Option.some.inj h
  · exact handleConnack packet
  · exact handlePingresp
  · exact handleBrokerAck packet _
  · exact handleSuback packet
  · exact handleUnsuback packet
  · exact unchanged client

theorem aggregateBrokerPacket (clients : Nat → Client) (c : Nat) {packet : MQTTGWPacket}
    (hpublish : packet.getType ≠ PUBLISH) (hpuback : packet.getType ≠ PUBACK) :
    Quiet (clients (PacketHandleTask.aggregateBrokerPacket ids clients c packet).1)
      (PacketHandleTask.aggregateBrokerPacket ids clients c packet).2 := by
  simp only [PacketHandleTask.aggregateBrokerPacket, if_neg hpublish]
  split_ifs
  · exact handleConnack packet
  · exact handlePingresp
  · refine toBroker .refl rfl ?_
    rw [setAck_getType _ (by decide)]
    decide
  · cases ids.convertClient packet.getMsgId with
    | none => exact unchanged _
    | some target =>
      simp only [PacketHandleTask.convertedPacket, setMsgId_getType, if_neg hpuback]
      split_ifs
      · exact handleBrokerAck _ _
      · exact handleSuback _
      · exact handleUnsuback _
  · exact unchanged _

end Quiet

def loud : MQTTSNPacket → Bool
  | .connect (some _) => true
  | .publish (some _) => true
  | .puback (some _) => true
  | .regack (some _) => true
  | _ => false

section ClientPackets

variable {gw : Gateway} {ids : MessageIds} {client : Client} {packet : MQTTSNPacket}
  {handled : Handled}

theorem handlePublish_none (gw : Gateway) (client : Client) :
    (MQTTSNPublishHandler.handlePublish gw client none).2 = none ∧
      Quiet client (MQTTSNPublishHandler.handlePublish gw client none).1 := by
  unfold MQTTSNPublishHandler.handlePublish
  split
  · exact ⟨rfl, .refl, rfl, List.forall_mem_nil _, fun _ => List.not_mem_nil⟩
  · exact ⟨rfl, .unchanged client⟩

theorem transparent_quiet (hloud : loud packet = false)
    (h : PacketHandleTask.transparentClientPacket gw client packet = some handled) :
    Quiet client handled := by
  cases packet with
  | connect data =>
    cases data with
    | none => exact .of_some h (.unchanged client)
    | some data => cases hloud
  | publish data =>
    cases data with
    | none => exact .of_some h (handlePublish_none gw client).2
    | some data => cases hloud
  | puback data =>
    cases data with
    | none => exact .of_some h (.unchanged client)
    | some data => cases hloud
  | regack data =>
    cases data with
    | none => exact .of_some h (.unchanged client)
    | some data => cases hloud
  | register data => exact .handleRegister h
  | subscribe data =>
    obtain ⟨result, hresult, rfl⟩ := Option.map_eq_some_iff.mp h
    exact (QuietRequest.handleSubscribe hresult).quiet
  | willtopic data => exact .of_some h (.handleWilltopic data)
  | willmsg data => exact .of_some h (.handleWillmsg data)
  | disconnect duration => exact .of_some h (.handleDisconnect duration)
  | willmsgupd => exact .of_some h (.toClient .refl rfl rfl)
  | pingreq => exact .of_some h .handlePingreq
  | pubrec msgId => exact .of_some h (.handleAck (by decide) (by decide) msgId)
  | pubrel msgId => exact .of_some h (.handleAck (by decide) (by decide) msgId)
  | pubcomp msgId => exact .of_some h (.handleAck (by decide) (by decide) msgId)
  | unsubscribe data => exact .of_some h (QuietRequest.handleUnsubscribe data).quiet
  | _ => exact .of_some h (.unchanged client)

theorem aggregate_quiet (hloud : loud packet = false)
    (h : PacketHandleTask.aggregateClientPacket gw ids client packet = some handled) :
    Quiet client handled := by
  cases packet with
  | connect data =>
    cases data with
    | none => exact .of_some h (.unchanged client)
    | some data => cases hloud
  | publish data =>
    cases data with
    | none =>
      obtain ⟨hnone, hquiet⟩ := handlePublish_none gw client
      refine .of_some h ?_
      rw [MQTTSNPublishHandler.handleAggregatePublish]
      split
      · rename_i hresult
        rwa [hresult] at hquiet
      · rename_i hresult
        rw [hresult] at hnone
        cases hnone
    | some data => cases hloud
  | regack data =>
    cases data with
    | none => exact .of_some h (.unchanged client)
    | some data => cases hloud
  | register data => exact .handleRegister h
  | subscribe data =>
    obtain ⟨result, hresult, rfl⟩ := Option.map_eq_some_iff.mp h
    exact (QuietRequest.handleSubscribe hresult).renumber _
  | willtopic data => exact .of_some h (.handleWilltopic data)
  | willmsg data => exact .of_some h (.aggregateWillmsg data)
  | disconnect duration => exact .of_some h (.toClient .refl rfl rfl)
  | willmsgupd => exact .of_some h (.toClient .refl rfl rfl)
  | pingreq => exact .of_some h .aggregatePingreq
  | pubrec msgId => exact .of_some h (.handleAggregateAck msgId)
  | unsubscribe data => exact .of_some h ((QuietRequest.handleUnsubscribe data).renumber _)
  | _ => exact .of_some h (.unchanged client)

theorem clientPacket_quiet (hloud : loud packet = false)
    (h : PacketHandleTask.clientPacket gw ids client packet = some handled) :
    Quiet client handled := by
  rcases PacketHandleTask.clientPacket_cases h with ⟨-, h⟩ | ⟨-, h⟩
  · exact aggregate_quiet hloud h
  · exact transparent_quiet hloud h

end ClientPackets

def identified (packet : SNPublish) : Bool :=
  packet.msgId ≠ 0 && (packet.qos = .QOS1 || packet.qos = .QOS2)

section ClientPublish

variable {gw : Gateway} {ids : MessageIds} {client : Client} {packet : SNPublish}

inductive Publication (gw : Gateway) (client : Client) (packet : SNPublish) :
    Handled × Option MQTTGWPacket → Prop
  | dropped {handled : Handled} (quiet : Quiet client handled) (unsent : handled.brokerSend = []) :
      Publication gw client packet (handled, none)
  | forwarded {topics : Topics} (evolves : Evolves client.topics topics)
      (named : identified packet = true → gw.topics.Sound → client.topics.Sound →
        packet.topic.type = .short ∨ packet.topic.data.idField ≠ 0)
      (topic : Bytes) (topiclen : Nat) (bounded : topiclen < 65536) :
      Publication gw client packet
        (MQTTSNPublishHandler.forward gw { client with topics := topics } packet topic topiclen bounded)

theorem resolve_evolves (gw : Gateway) (client : Client) (topicid : TopicId) :
    Evolves client.topics (MQTTSNPublishHandler.resolve gw client topicid).1 := by
  unfold MQTTSNPublishHandler.resolve
  split
  · exact .refl
  · split
    · exact Evolves.refl.addId _ _
    · exact .refl

theorem getTopicById_id {topics : Topics} {topicid : TopicId} {topic : Topic}
    (h : topics.getTopicById topicid = some topic) :
    topic ∈ topics.list ∧ topic.type = topicid.type ∧ topic.topicId = topicid.data.idField := by
  have hfound := List.find?_some h
  simp only [decide_eq_true_eq] at hfound
  exact ⟨List.mem_of_find?_eq_some h, hfound⟩

theorem resolve_ne_zero {topicid : TopicId} {topic : Topic} (hgw : gw.topics.Sound)
    (hclient : client.topics.Sound)
    (h : (MQTTSNPublishHandler.resolve gw client topicid).2 = some topic) :
    topicid.data.idField ≠ 0 := by
  unfold MQTTSNPublishHandler.resolve at h
  split at h
  · rename_i hknown
    obtain ⟨hmem, -, hid⟩ := getTopicById_id hknown
    exact hid ▸ hclient.nonzero _ hmem
  · split at h
    · rename_i hknown
      obtain ⟨hmem, -, hid⟩ := getTopicById_id hknown
      exact hid ▸ hgw.nonzero _ hmem
    · cases h

theorem handlePublish_publication (gw : Gateway) (client : Client) (packet : SNPublish) :
    Publication gw client packet (MQTTSNPublishHandler.handlePublish gw client (some packet)) := by
  unfold MQTTSNPublishHandler.handlePublish
  split
  · exact .dropped ⟨.refl, rfl, List.forall_mem_nil _, fun _ => List.not_mem_nil⟩ rfl
  simp only
  split
  · rename_i hshort
    exact .forwarded .refl (fun _ _ _ => .inl hshort) _ _ _
  have hevolves := resolve_evolves gw client packet.topic
  cases hresolved : (MQTTSNPublishHandler.resolve gw client packet.topic).2 with
  | some topic =>
    exact .forwarded hevolves (fun _ hgw hclient => .inr (resolve_ne_zero hgw hclient hresolved)) _ _ _
  | none =>
    simp only
    split_ifs with hreserved hidentified
    · exact .dropped ⟨hevolves, rfl, List.forall_mem_nil _, fun _ => List.not_mem_nil⟩ rfl
    · exact .dropped (.toClient hevolves rfl rfl) rfl
    · refine .forwarded hevolves ?_ _ _ _
      intro hid
      simp only [identified, Bool.and_eq_true, Bool.or_eq_true, decide_eq_true_eq] at hid
      exact absurd hid hidentified

structure Forwarded (gw : Gateway) (client : Client) (packet : SNPublish) (handled : Handled) : Prop where
  named : identified packet = true → gw.topics.Sound → client.topics.Sound →
    packet.topic.type = .short ∨ packet.topic.data.idField ≠ 0
  client : ∃ topics, Evolves client.topics topics ∧
    handled.client = MQTTSNPublishHandler.setWaitedPubTopicId { client with topics := topics } packet
  sent : ∃ publish, handled.brokerSend = [publish] ∧ publish.getType = PUBLISH
  unanswered : handled.clientSend = []

theorem transparent_publish {handled : Handled}
    (hagg : PacketHandleTask.isAggregatedClient gw client = false)
    (h : PacketHandleTask.transparentClientPacket gw client (.publish (some packet)) = some handled) :
    (Quiet client handled ∧ handled.brokerSend = []) ∨ Forwarded gw client packet handled := by
  obtain rfl := Option.some.inj h
  have hpublication := handlePublish_publication gw client packet
  generalize MQTTSNPublishHandler.handlePublish gw client (some packet) = result at hpublication
  cases hpublication with
  | dropped quiet unsent => exact .inl ⟨quiet, unsent⟩
  | @forwarded topics evolves named topic topiclen bounded =>
    have hdirect : (gw.aggregaterActive && (MQTTSNPublishHandler.setWaitedPubTopicId
        { client with topics := topics } packet).isAggregated) = false := by
      have htype : (MQTTSNPublishHandler.setWaitedPubTopicId { client with topics := topics }
          packet).clientType = client.clientType := by
        unfold MQTTSNPublishHandler.setWaitedPubTopicId
        split <;> rfl
      simp only [PacketHandleTask.isAggregatedClient, Client.isQoSm1, Client.isAggregater,
        Client.isQoSm1Proxy] at hagg
      rw [Client.isAggregated, htype]
      cases hactive : gw.aggregaterActive with
      | false => rfl
      | true =>
        cases hkind : client.clientType <;> simp_all
    have hforward : MQTTSNPublishHandler.forward gw { client with topics := topics } packet topic
        topiclen bounded = (.toBroker (MQTTSNPublishHandler.setWaitedPubTopicId
          { client with topics := topics } packet)
          (MQTTSNPublishHandler.translate packet topic topiclen bounded), none) := by
      simp only [MQTTSNPublishHandler.forward, hdirect, Bool.false_eq_true, if_false]
    rw [hforward]
    exact .inr ⟨named, ⟨topics, evolves, rfl⟩, ⟨_, rfl, MQTTGWPacket.setPUBLISH_getType _⟩, rfl⟩

theorem aggregate_publish {handled : Handled}
    (h : PacketHandleTask.aggregateClientPacket gw ids client (.publish (some packet)) = some handled) :
    (Quiet client handled ∧ handled.brokerSend = []) ∨ Forwarded gw client packet handled := by
  obtain rfl := Option.some.inj h
  have hpublication := handlePublish_publication gw client packet
  rw [MQTTSNPublishHandler.handleAggregatePublish]
  generalize MQTTSNPublishHandler.handlePublish gw client (some packet) = result at hpublication
  cases hpublication with
  | dropped quiet unsent => exact .inl ⟨quiet, unsent⟩
  | @forwarded topics evolves named topic topiclen bounded =>
    simp only [MQTTSNPublishHandler.forward]
    split_ifs
    · refine .inr ⟨named, ⟨topics, evolves, rfl⟩, ⟨_, rfl, ?_⟩, rfl⟩
      split
      · rw [setMsgId_getType]
        exact MQTTGWPacket.setPUBLISH_getType _
      · exact MQTTGWPacket.setPUBLISH_getType _
    · exact .inr ⟨named, ⟨topics, evolves, rfl⟩, ⟨_, rfl, MQTTGWPacket.setPUBLISH_getType _⟩, rfl⟩

theorem clientPacket_publish {handled : Handled}
    (h : PacketHandleTask.clientPacket gw ids client (.publish (some packet)) = some handled) :
    (Quiet client handled ∧ handled.brokerSend = []) ∨ Forwarded gw client packet handled := by
  rcases PacketHandleTask.clientPacket_cases h with ⟨-, h⟩ | ⟨hagg, h⟩
  · exact aggregate_publish h
  · exact transparent_publish hagg h

end ClientPublish

def startsClean (client : Client) (data : SNConnect) : Bool :=
  data.cleansession && !(client.isSleep || client.isAwake)

section ClientConnect

variable {gw : Gateway} {ids : MessageIds} {client : Client} {data : SNConnect} {handled : Handled}

structure Connected (client : Client) (data : SNConnect) (handled : Handled) : Prop where
  topics : Evolves client.topics handled.client.topics
  waited : handled.client.waitedPubTopicIdMap =
    if startsClean client data then .initial else client.waitedPubTopicIdMap
  acks : ∀ packet ∈ handled.brokerSend, packet.getType ≠ PUBACK
  publishes : ∀ data, MQTTSNPacket.publish data ∉ handled.clientSend

theorem prepareConnect_reset (gw : Gateway) (client : Client) (data : SNConnect) :
    Evolves client.topics (MQTTSNConnectionHandler.prepareConnect gw client data).topics ∧
      (MQTTSNConnectionHandler.prepareConnect gw client data).waitedPubTopicIdMap =
        if data.cleansession then .initial else client.waitedPubTopicIdMap := by
  simp only [MQTTSNConnectionHandler.prepareConnect, MQTTSNConnectionHandler.cleanSession,
    Client.disconnected]
  split_ifs
  · exact ⟨Evolves.refl.eraseNormal, rfl⟩
  · exact ⟨Evolves.refl.eraseNormal, rfl⟩
  · exact ⟨.refl, rfl⟩
  · exact ⟨.refl, rfl⟩

theorem aggregateReset_reset (client : Client) (data : SNConnect) :
    Evolves client.topics (aggregateReset client data).topics ∧
      (aggregateReset client data).waitedPubTopicIdMap =
        if data.cleansession then .initial else client.waitedPubTopicIdMap := by
  simp only [aggregateReset, MQTTSNConnectionHandler.cleanSession, Client.disconnected]
  split_ifs
  · exact ⟨Evolves.refl.eraseNormal, rfl⟩
  · exact ⟨.refl, rfl⟩

theorem connected_awake (hawake : (client.isSleep || client.isAwake) = true) :
    Connected client data { sendStoredPublish client with clientSend := [.connack MQTTSN_RC_ACCEPTED] } := by
  have hquiet : Quiet client
      { sendStoredPublish client with clientSend := [.connack MQTTSN_RC_ACCEPTED] } :=
    .stored .refl rfl _
  refine ⟨hquiet.topics, ?_, hquiet.acks, hquiet.publishes⟩
  rw [startsClean, hawake]
  simpa using hquiet.waited

theorem startsClean_restart (hawake : (client.isSleep || client.isAwake) = false) :
    startsClean client data = data.cleansession := by
  rw [startsClean, hawake, Bool.not_false, Bool.and_true]

theorem transparent_connect
    (h : PacketHandleTask.transparentClientPacket gw client (.connect (some data)) = some handled) :
    Connected client data handled := by
  obtain rfl := Option.some.inj h
  rw [MQTTSNConnectionHandler.handleConnect]
  cases hawake : client.isSleep || client.isAwake with
  | true => exact connected_awake hawake
  | false =>
    obtain ⟨htopics, hwaited⟩ := prepareConnect_reset gw client data
    rw [← startsClean_restart hawake] at hwaited
    simp only [Bool.false_eq_true, if_false]
    split
    · refine ⟨htopics, hwaited, List.forall_mem_nil _, ?_⟩
      intro data hmem
      cases List.mem_singleton.mp hmem
    · refine ⟨htopics, hwaited, ?_, fun _ => List.not_mem_nil⟩
      intro packet hmem
      rw [List.mem_singleton.mp hmem, setCONNECT_getType]
      decide

theorem connackSended_kept (client : Client) (rc : Nat) :
    (client.connackSended rc).topics = client.topics ∧
      (client.connackSended rc).waitedPubTopicIdMap = client.waitedPubTopicIdMap := by
  simp only [Client.connackSended, Client.disconnected]
  split
  · exact ⟨rfl, rfl⟩
  · exact ⟨rfl, rfl⟩

theorem aggregate_connect
    (h : PacketHandleTask.aggregateClientPacket gw ids client (.connect (some data)) = some handled) :
    Connected client data handled := by
  obtain rfl := Option.some.inj h
  rw [aggregateConnect_eq]
  cases hawake : client.isSleep || client.isAwake with
  | true => exact connected_awake hawake
  | false =>
    obtain ⟨htopics, hwaited⟩ := aggregateReset_reset client data
    obtain ⟨hkept, hkeptWaited⟩ := connackSended_kept (aggregateReset client data) MQTTSN_RC_ACCEPTED
    rw [← startsClean_restart hawake] at hwaited
    simp only [Bool.false_eq_true, if_false]
    split
    · refine ⟨htopics, hwaited, List.forall_mem_nil _, ?_⟩
      intro data hmem
      cases List.mem_singleton.mp hmem
    · refine ⟨?_, hkeptWaited.trans hwaited, List.forall_mem_nil _, ?_⟩
      · exact hkept.symm ▸ htopics
      · intro data hmem
        cases List.mem_singleton.mp hmem

theorem clientPacket_connect
    (h : PacketHandleTask.clientPacket gw ids client (.connect (some data)) = some handled) :
    Connected client data handled := by
  rcases PacketHandleTask.clientPacket_cases h with ⟨-, h⟩ | ⟨-, h⟩
  · exact aggregate_connect h
  · exact transparent_connect h

end ClientConnect

section ClientAcks

variable {gw : Gateway} {ids : MessageIds} {client : Client} {ack : SNAck} {handled : Handled}

def passesPuback (gw : Gateway) (client : Client) (ack : SNAck) : Bool :=
  client.isActive && ack.returnCode = MQTTSN_RC_ACCEPTED && !gw.aggregaterActive

theorem clientPacket_puback
    (h : PacketHandleTask.clientPacket gw ids client (.puback (some ack)) = some handled) :
    handled = if passesPuback gw client ack then .toBroker client (.setAck PUBACK ack.msgId)
      else .unchanged client := by
  rcases PacketHandleTask.clientPacket_cases h with ⟨hagg, h⟩ | ⟨-, h⟩
  · obtain rfl := Option.some.inj h
    have hactive : gw.aggregaterActive = true := by
      simp only [PacketHandleTask.isAggregatedClient, Bool.not_eq_true', Bool.or_eq_false_iff,
        Bool.not_eq_false'] at hagg
      exact hagg.1.1.1
    rw [passesPuback, hactive, Bool.not_true, Bool.and_false, if_neg Bool.false_ne_true]
  · obtain rfl := Option.some.inj h
    rfl

theorem clientPacket_regacked
    (h : PacketHandleTask.clientPacket gw ids client (.regack (some ack)) = some handled) :
    handled = if client.isActive || client.isAwake then
        MQTTSNPublishHandler.releasePing (MQTTSNPublishHandler.release client ack.msgId)
      else .unchanged client := by
  rcases PacketHandleTask.clientPacket_cases h with ⟨-, h⟩ | ⟨-, h⟩
  · exact (Option.some.inj h).symm
  · exact (Option.some.inj h).symm

theorem release_kept (client : Client) (msgId : UInt16) :
    (MQTTSNPublishHandler.releasePing (MQTTSNPublishHandler.release client msgId)).client.topics =
        client.topics ∧
      (MQTTSNPublishHandler.releasePing
        (MQTTSNPublishHandler.release client msgId)).client.waitedPubTopicIdMap =
        client.waitedPubTopicIdMap := by
  obtain ⟨hold, hclient⟩ := MQTTSNPublishHandler.releasePing_client
    (MQTTSNPublishHandler.release client msgId)
  rw [hclient, MQTTSNPublishHandler.release]
  cases client.waitREGACKList.getPacket msgId with
  | some packet => exact ⟨rfl, rfl⟩
  | none => exact ⟨rfl, rfl⟩

theorem release_acks (client : Client) (msgId : UInt16) :
    ∀ packet ∈ (MQTTSNPublishHandler.releasePing
      (MQTTSNPublishHandler.release client msgId)).brokerSend, packet.getType ≠ PUBACK := by
  have hnone : (MQTTSNPublishHandler.release client msgId).brokerSend = [] := by
    unfold MQTTSNPublishHandler.release
    split <;> rfl
  intro packet hmem
  simp only [MQTTSNPublishHandler.releasePing] at hmem
  split at hmem
  · simp only [hnone, List.nil_append, List.mem_singleton] at hmem
    rw [hmem]
    decide
  · rw [hnone] at hmem
    exact absurd hmem List.not_mem_nil

theorem clientPacket_evolves {packet : MQTTSNPacket}
    (h : PacketHandleTask.clientPacket gw ids client packet = some handled) :
    Evolves client.topics handled.client.topics := by
  cases hloud : loud packet with
  | false => exact (clientPacket_quiet hloud h).topics
  | true =>
    cases packet with
    | connect data =>
      cases data with
      | none => cases hloud
      | some data => exact (clientPacket_connect h).topics
    | publish data =>
      cases data with
      | none => cases hloud
      | some data =>
        rcases clientPacket_publish h with ⟨hquiet, -⟩ | hforwarded
        · exact hquiet.topics
        · obtain ⟨topics, hevolves, hclient⟩ := hforwarded.client
          rw [hclient, MQTTSNPublishHandler.setWaitedPubTopicId]
          split
          · exact hevolves
          · exact hevolves
    | puback data =>
      cases data with
      | none => cases hloud
      | some ack =>
        rw [clientPacket_puback h]
        split
        · exact .refl
        · exact .refl
    | regack data =>
      cases data with
      | none => cases hloud
      | some ack =>
        rw [clientPacket_regacked h]
        split
        · rw [(release_kept client ack.msgId).1]
          exact .refl
        · exact .refl
    | _ => cases hloud

end ClientAcks

section BrokerPackets

variable {client : Client} {packet : MQTTGWPacket} {handled : Handled}

theorem handlePublish_published_kept (h : MQTTGWPublishHandler.handlePublish client packet = some handled) :
    Evolves client.topics handled.client.topics ∧
      handled.client.waitedPubTopicIdMap = client.waitedPubTopicIdMap := by
  unfold MQTTGWPublishHandler.handlePublish at h
  split at h
  · obtain rfl := Option.some.inj h
    exact ⟨.refl, rfl⟩
  split at h
  · obtain rfl := Option.some.inj h
    simp only [MQTTGWPublishHandler.acknowledge_client]
    exact ⟨.refl, rfl⟩
  · rcases MQTTGWPublishHandler.handleAwake_cases h with ⟨-, rfl⟩ | ⟨-, tp, -, rfl⟩ | ⟨-, -, hnew⟩
    · exact ⟨.refl, rfl⟩
    · exact ⟨.refl, rfl⟩
    · rcases hnew with ⟨-, rfl⟩ | ⟨-, topics, topic, hadd, ⟨-, rfl⟩ | ⟨-, rfl⟩⟩
      · rw [MQTTGWPublishHandler.acknowledge_client]
        exact ⟨.refl, rfl⟩
      · exact ⟨.of_add hadd, rfl⟩
      · exact ⟨.of_add hadd, rfl⟩

theorem handlePuback_cases (client : Client) (packet : MQTTGWPacket) :
    (∃ element, client.waitedPubTopicIdMap.getElement packet.getAck = some element ∧
      MQTTGWPublishHandler.handlePuback client packet =
        .toClient { client with
          waitedPubTopicIdMap := client.waitedPubTopicIdMap.erase packet.getAck }
          (.puback (some ⟨element.topicId, packet.getAck, 0⟩))) ∨
    (client.waitedPubTopicIdMap.getElement packet.getAck = none ∧
      MQTTGWPublishHandler.handlePuback client packet = .unchanged client) := by
  cases hknown : client.waitedPubTopicIdMap.getElement packet.getAck with
  | some element =>
    refine .inl ⟨element, rfl, ?_⟩
    simp only [MQTTGWPublishHandler.handlePuback, hknown]
  | none =>
    refine .inr ⟨rfl, ?_⟩
    simp only [MQTTGWPublishHandler.handlePuback, hknown]

theorem handlePuback_topics (client : Client) (packet : MQTTGWPacket) :
    (MQTTGWPublishHandler.handlePuback client packet).client.topics = client.topics := by
  rcases handlePuback_cases client packet with ⟨element, -, hanswer⟩ | ⟨-, hanswer⟩
  · rw [hanswer]
    rfl
  · rw [hanswer]
    rfl

theorem setMsgId_getAck {packet : MQTTGWPacket}
    (h : packet.getType = PUBACK ∨ packet.getType = PUBCOMP) (msgId : UInt16) :
    (packet.setMsgId msgId).getAck = msgId := by
  have hdata : (packet.setMsgId msgId).data = store packet.data 0 (writeInt msgId.toNat) := by
    rcases h with h | h
    · simp [MQTTGWPacket.setMsgId, h]
    · simp [MQTTGWPacket.setMsgId, h]
  have hlaid : LaidAt (packet.setMsgId msgId).data 0 (writeInt msgId.toNat) := by
    rw [hdata, store_zero]
    exact List.prefix_append _ _
  rw [MQTTGWPacket.getAck, readInt_laidAt hlaid, Nat.mod_eq_of_lt msgId.toNat_lt]
  exact UInt16.ofNat_toNat

end BrokerPackets

def brokerAck (ids : MessageIds) (clients : Nat → Client) : Event → Option (Nat × Nat × UInt16)
  | .brokerRecv c packet =>
      if packet.getType = PUBACK ∨ packet.getType = PUBCOMP then
        if (clients c).isAggregater then
          (ids.convertClient packet.getMsgId).map fun target =>
            (target.1, packet.getType, target.2)
        else some (c, packet.getType, packet.getAck)
      else none
  | _ => none

section Events

variable {gw : Gateway} {ids : MessageIds} {clients : Nat → Client} {ev : Event} {target : Nat}
  {handled : Handled}

theorem brokerAck_handled (gw : Gateway) {type : Nat} {msgId : UInt16}
    (h : brokerAck ids clients ev = some (target, type, msgId)) :
    (type = PUBACK ∨ type = PUBCOMP) ∧ ∃ packet : MQTTGWPacket, packet.getAck = msgId ∧
      PacketHandleTask.handleEvent gw ids clients ev = .done target
        (if type = PUBACK then MQTTGWPublishHandler.handlePuback (clients target) packet
        else MQTTGWPublishHandler.handleAck (clients target) packet PUBCOMP) := by
  cases ev with
  | broadcast => cases h
  | clientRecv c packet => cases h
  | brokerRecv c packet =>
    simp only [brokerAck] at h
    split at h
    · rename_i htype
      split at h
      · rename_i hagg
        obtain ⟨⟨newClient, clientMsgId⟩, hconvert, heq⟩ := Option.map_eq_some_iff.mp h
        simp only [Prod.mk.injEq] at heq
        obtain ⟨rfl, rfl, rfl⟩ := heq
        refine ⟨htype, packet.setMsgId clientMsgId, setMsgId_getAck htype clientMsgId, ?_⟩
        rcases htype with htype | htype
        · simp [PacketHandleTask.handleEvent, hagg, PacketHandleTask.aggregateBrokerPacket, htype,
            hconvert, PacketHandleTask.convertedPacket, setMsgId_getType]
        · simp [PacketHandleTask.handleEvent, hagg, PacketHandleTask.aggregateBrokerPacket, htype,
            hconvert, PacketHandleTask.convertedPacket, setMsgId_getType]
      · rename_i hagg
        simp only [Option.some.injEq, Prod.mk.injEq] at h
        obtain ⟨rfl, rfl, rfl⟩ := h
        refine ⟨htype, packet, rfl, ?_⟩
        rcases htype with htype | htype
        · simp [PacketHandleTask.handleEvent, hagg, PacketHandleTask.transparentBrokerPacket, htype,
            PacketHandleTask.Result.ofOption]
        · simp [PacketHandleTask.handleEvent, hagg, PacketHandleTask.transparentBrokerPacket, htype,
            PacketHandleTask.Result.ofOption]
    · cases h

theorem brokerAck_unanswered {c : Nat} {packet : MQTTGWPacket}
    (hnone : brokerAck ids clients (.brokerRecv c packet) = none) (hpublish : packet.getType ≠ PUBLISH)
    (h : PacketHandleTask.handleEvent gw ids clients (.brokerRecv c packet) = .done target handled) :
    Quiet (clients target) handled := by
  by_cases htype : packet.getType = PUBACK ∨ packet.getType = PUBCOMP
  · simp only [brokerAck, if_pos htype] at hnone
    split at hnone
    · rename_i hagg
      rw [Option.map_eq_none_iff] at hnone
      simp only [PacketHandleTask.handleEvent, hagg, if_true] at h
      cases h
      rcases htype with htype | htype
      · simp only [PacketHandleTask.aggregateBrokerPacket, htype, hnone]
        exact .unchanged _
      · simp only [PacketHandleTask.aggregateBrokerPacket, htype, hnone]
        exact .unchanged _
    · cases hnone
  · rw [not_or] at htype
    simp only [PacketHandleTask.handleEvent] at h
    split at h
    · cases h
      exact .aggregateBrokerPacket clients c hpublish htype.1
    · obtain ⟨rfl, hanswer⟩ := ofOption_done h
      exact .transparentBrokerPacket hpublish htype.1 hanswer

theorem brokerRecv_published {c : Nat} {packet : MQTTGWPacket} (hpublish : packet.getType = PUBLISH)
    (h : PacketHandleTask.handleEvent gw ids clients (.brokerRecv c packet) = .done target handled) :
    target = c ∧ if (clients c).isAggregater then
        handled = MQTTGWPublishHandler.acknowledge (clients c) packet.getPUBLISH
      else MQTTGWPublishHandler.handlePublish (clients c) packet = some handled := by
  simp only [PacketHandleTask.handleEvent] at h
  split at h
  · rename_i hagg
    have hanswer : PacketHandleTask.aggregateBrokerPacket ids clients c packet =
        (c, MQTTGWPublishHandler.acknowledge (clients c) packet.getPUBLISH) := by
      simp [PacketHandleTask.aggregateBrokerPacket, hpublish,
        MQTTGWPublishHandler.handleAggregatePublish]
    rw [hanswer] at h
    cases h
    exact ⟨rfl, by rw [if_pos hagg]⟩
  · rename_i hagg
    obtain ⟨rfl, hanswer⟩ := ofOption_done h
    refine ⟨rfl, ?_⟩
    rw [if_neg hagg]
    simpa [PacketHandleTask.transparentBrokerPacket, hpublish] using hanswer

theorem brokerRecv_kept {c : Nat} {packet : MQTTGWPacket} (hpublish : packet.getType = PUBLISH)
    (h : PacketHandleTask.handleEvent gw ids clients (.brokerRecv c packet) = .done target handled) :
    Evolves (clients target).topics handled.client.topics ∧
      handled.client.waitedPubTopicIdMap = (clients target).waitedPubTopicIdMap := by
  obtain ⟨rfl, hanswer⟩ := brokerRecv_published hpublish h
  split at hanswer
  · subst hanswer
    rw [MQTTGWPublishHandler.acknowledge_client]
    exact ⟨.refl, rfl⟩
  · exact handlePublish_published_kept hanswer

theorem handleEvent_evolves
    (h : PacketHandleTask.handleEvent gw ids clients ev = .done target handled) :
    Evolves (clients target).topics handled.client.topics := by
  cases ev with
  | broadcast => cases h
  | clientRecv c packet =>
    obtain ⟨rfl, hanswer⟩ := ofOption_done h
    obtain ⟨answer, hpacket, rfl⟩ := Option.map_eq_some_iff.mp hanswer
    simp only
    rw [(Quiet.updateStatus answer.client packet).1]
    exact clientPacket_evolves hpacket
  | brokerRecv c packet =>
    by_cases hpublish : packet.getType = PUBLISH
    · exact (brokerRecv_kept hpublish h).1
    cases hack : brokerAck ids clients (.brokerRecv c packet) with
    | none => exact (brokerAck_unanswered hack hpublish h).topics
    | some ack =>
      obtain ⟨-, answer, -, hanswer⟩ := brokerAck_handled gw hack
      rw [hanswer] at h
      cases h
      split
      · rw [handlePuback_topics]
        exact .refl
      · exact (Quiet.handleBrokerAck answer PUBCOMP).topics

end Events

end MbedMqtt.MQTTSNGW
