import MbedMqtt.Gateway.EventEffect
import MbedMqtt.Gateway.Identity
import MbedMqtt.Gateway.Quiet

namespace MbedMqtt.MQTTSNGW

open PacketHandleTask

structure Login (client after : Client) : Prop where
  connectData : after.connectData = client.connectData
  waitWillMsgFlg : after.waitWillMsgFlg = client.waitWillMsgFlg
  status : after.status = client.status

-- a turn that leaves the client's connection alone and brings the broker no CONNECT or PUBLISH
structure Settled (client : Client) (handled : Handled) : Prop where
  login : Login client handled.client
  upstream : ∀ packet ∈ handled.brokerSend, packet.getType ≠ CONNECT ∧ packet.getType ≠ PUBLISH
  suspended : client.isQoSm1 = false → handled.suspended = []

namespace Login

variable {client middle after : Client}

theorem refl (client : Client) : Login client client := ⟨rfl, rfl, rfl⟩

theorem trans (h : Login client middle) (k : Login middle after) : Login client after :=
  ⟨k.connectData.trans h.connectData, k.waitWillMsgFlg.trans h.waitWillMsgFlg,
    k.status.trans h.status⟩

end Login

namespace Settled

variable {gw : Gateway} {client : Client} {handled : Handled}

theorem unchanged (client : Client) : Settled client (.unchanged client) :=
  ⟨.refl client, List.forall_mem_nil _, fun _ => rfl⟩

theorem of_some {answer : Handled} (h : some handled = some answer) (hsettled : Settled client handled) :
    Settled client answer := by
  obtain rfl := Option.some.inj h
  exact hsettled

theorem silent {after : Client} {sent : List MQTTSNPacket} {events : List MQTTGWPacket}
    (h : Login client after) : Settled client ⟨after, sent, [], events, []⟩ :=
  ⟨h, List.forall_mem_nil _, fun _ => rfl⟩

theorem toClient {after : Client} {packet : MQTTSNPacket} (h : Login client after) :
    Settled client (.toClient after packet) := silent h

theorem toBroker {after : Client} {packet : MQTTGWPacket} (h : Login client after)
    (hconnect : packet.getType ≠ CONNECT) (hpublish : packet.getType ≠ PUBLISH) :
    Settled client (.toBroker after packet) :=
  ⟨h, (List.forall_mem_singleton (p := fun packet : MQTTGWPacket =>
    packet.getType ≠ CONNECT ∧ packet.getType ≠ PUBLISH)).mpr ⟨hconnect, hpublish⟩, fun _ => rfl⟩

theorem setAck {after : Client} {type : Nat} {msgId : UInt16} (h : Login client after)
    (htype : type ∈ [PUBACK, PUBREC, PUBREL, PUBCOMP]) :
    Settled client (.toBroker after (.setAck type msgId)) := by
  have htypes : type < 16 ∧ type ≠ CONNECT ∧ type ≠ PUBLISH := by
    simp only [List.mem_cons, List.not_mem_nil, or_false] at htype
    rcases htype with rfl | rfl | rfl | rfl <;> decide
  have hget := setAck_getType msgId htypes.1
  exact toBroker h (by rw [hget]; exact htypes.2.1) (by rw [hget]; exact htypes.2.2)

theorem handleDisconnect (client : Client) (duration : UInt16) :
    Settled client (MQTTSNConnectionHandler.handleDisconnect client duration) := by
  refine ⟨.refl client, ?_, fun _ => rfl⟩
  intro packet hmem
  simp only [MQTTSNConnectionHandler.handleDisconnect] at hmem
  split at hmem
  · rw [List.mem_singleton.mp hmem]
    decide
  · exact absurd hmem List.not_mem_nil

theorem handlePingreq (client : Client) :
    Settled client (MQTTSNConnectionHandler.handlePingreq client) := by
  unfold MQTTSNConnectionHandler.handlePingreq
  split
  · exact silent ⟨rfl, rfl, rfl⟩
  · exact toBroker ⟨rfl, rfl, rfl⟩ (by decide) (by decide)

theorem handlePuback (gw : Gateway) (client : Client) (data : Option SNAck) :
    Settled client (MQTTSNPublishHandler.handlePuback gw client data) := by
  cases data with
  | none => exact unchanged client
  | some ack =>
    simp only [MQTTSNPublishHandler.handlePuback]
    split
    · exact setAck (.refl client) (by simp)
    · exact unchanged client

theorem handleAck (client : Client) {type : Nat} (htype : type ∈ [PUBACK, PUBREC, PUBREL, PUBCOMP])
    (msgId : Option UInt16) : Settled client (MQTTSNPublishHandler.handleAck client type msgId) := by
  cases msgId with
  | none => exact unchanged client
  | some msgId =>
    simp only [MQTTSNPublishHandler.handleAck]
    split
    · exact setAck (.refl client) htype
    · exact unchanged client

theorem handleRegister {data : Option SNRegister}
    (h : MQTTSNPublishHandler.handleRegister client data = some handled) :
    Settled client handled := by
  cases data with
  | none =>
    obtain rfl := Option.some.inj h
    exact unchanged client
  | some data =>
    simp only [MQTTSNPublishHandler.handleRegister] at h
    split at h
    · split at h
      · cases h
      · obtain rfl := Option.some.inj h
        exact toClient ⟨rfl, rfl, rfl⟩
    · obtain rfl := Option.some.inj h
      exact unchanged client

theorem release (client : Client) (msgId : UInt16) :
    Settled client (MQTTSNPublishHandler.release client msgId) := by
  unfold MQTTSNPublishHandler.release
  split
  · exact toClient ⟨rfl, rfl, rfl⟩
  · exact unchanged client

theorem releasePing (h : Settled client handled) :
    Settled client (MQTTSNPublishHandler.releasePing handled) := by
  simp only [MQTTSNPublishHandler.releasePing]
  split
  · refine ⟨h.login.trans ⟨rfl, rfl, rfl⟩, ?_, h.suspended⟩
    intro packet hmem
    rcases List.mem_append.mp hmem with hmem | hmem
    · exact h.upstream packet hmem
    · rw [List.mem_singleton.mp hmem]
      decide
  · exact h

theorem handleRegAck (client : Client) (data : Option SNAck) :
    Settled client (MQTTSNPublishHandler.handleRegAck client data) := by
  cases data with
  | none => exact unchanged client
  | some ack =>
    simp only [MQTTSNPublishHandler.handleRegAck]
    split
    · exact (release client ack.msgId).releasePing
    · exact unchanged client

theorem sendSubscribe {after : Client} {packet : SNSubscribe} {topicId : UInt16} {topic : Bytes}
    (h : Login client after) :
    Settled client (MQTTSNSubscribeHandler.sendSubscribe after packet topicId topic).1 := by
  have htype := setSUBSCRIBE_getType topic packet.qos packet.msgId
  have hlogin : Login client { after with
      waitedSubTopicIdMap := after.waitedSubTopicIdMap.add packet.msgId topicId
        packet.topicFilter.type } := h.trans ⟨rfl, rfl, rfl⟩
  simp only [MQTTSNSubscribeHandler.sendSubscribe]
  split
  · exact silent hlogin
  · exact toBroker hlogin (by rw [htype]; decide) (by rw [htype]; decide)

theorem subscribeNormal (client : Client) (packet : SNSubscribe) (name : TopicName) :
    Settled client (MQTTSNSubscribeHandler.subscribeNormal client packet name).1 := by
  simp only [MQTTSNSubscribeHandler.subscribeNormal]
  split
  · exact silent ⟨rfl, rfl, rfl⟩
  · exact sendSubscribe ⟨rfl, rfl, rfl⟩

theorem handleSubscribe {data : Option SNSubscribe} {result : Handled × Option MQTTGWPacket}
    (h : MQTTSNSubscribeHandler.handleSubscribe gw client data = some result) :
    Settled client result.1 := by
  cases data with
  | none =>
    obtain rfl := Option.some.inj h
    exact unchanged client
  | some packet =>
    simp only [MQTTSNSubscribeHandler.handleSubscribe] at h
    split at h
    · obtain rfl := Option.some.inj h
      exact unchanged client
    split at h
    · split at h
      · obtain rfl := Option.some.inj h
        exact sendSubscribe (.refl client)
      · split at h
        · cases h
        · obtain rfl := Option.some.inj h
          exact toClient (.refl client)
    · obtain rfl := Option.some.inj h
      exact subscribeNormal client _ _
    · obtain rfl := Option.some.inj h
      exact unchanged client
    · obtain rfl := Option.some.inj h
      exact sendSubscribe (.refl client)

theorem handleUnsubscribe (client : Client) (data : Option SNSubscribe) :
    Settled client (MQTTSNSubscribeHandler.handleUnsubscribe client data).1 := by
  cases data with
  | none => exact unchanged client
  | some packet =>
    simp only [MQTTSNSubscribeHandler.handleUnsubscribe]
    split
    · exact unchanged client
    split
    · exact toClient (.refl client)
    · rename_i topic _
      have htype := setUNSUBSCRIBE_getType topic packet.msgId
      split
      · exact unchanged client
      · exact toBroker (.refl client) (by rw [htype]; decide) (by rw [htype]; decide)

theorem acknowledge (client : Client) (pub : Publish) :
    Settled client (MQTTGWPublishHandler.acknowledge client pub) := by
  unfold MQTTGWPublishHandler.acknowledge MQTTGWPublishHandler.replyACK
  split_ifs
  · exact setAck (.refl client) (by simp)
  · exact setAck (.refl client) (by simp)
  · exact unchanged client

theorem handleBrokerPublish {packet : MQTTGWPacket}
    (h : MQTTGWPublishHandler.handlePublish client packet = some handled) :
    Settled client handled := by
  unfold MQTTGWPublishHandler.handlePublish at h
  split at h
  · obtain rfl := Option.some.inj h
    exact unchanged client
  split at h
  · obtain rfl := Option.some.inj h
    have hacked := acknowledge client packet.getPUBLISH
    exact ⟨hacked.login.trans ⟨rfl, rfl, rfl⟩, hacked.upstream, hacked.suspended⟩
  rcases MQTTGWPublishHandler.handleAwake_cases h with ⟨-, rfl⟩ | ⟨-, tp, -, rfl⟩ |
    ⟨-, -, ⟨-, rfl⟩ | ⟨-, topics, topic, -, ⟨-, rfl⟩ | ⟨-, rfl⟩⟩⟩
  · exact toClient (.refl client)
  · exact toClient (.refl client)
  · exact acknowledge client _
  · exact toClient ⟨rfl, rfl, rfl⟩
  · exact silent ⟨rfl, rfl, rfl⟩

theorem handleBrokerPuback (client : Client) (packet : MQTTGWPacket) :
    Settled client (MQTTGWPublishHandler.handlePuback client packet) := by
  rcases handlePuback_cases client packet with ⟨element, -, heq⟩ | ⟨-, heq⟩
  · rw [heq]
    exact toClient ⟨rfl, rfl, rfl⟩
  · rw [heq]
    exact unchanged client

theorem handleBrokerAck (client : Client) (packet : MQTTGWPacket) (type : Nat) :
    Settled client (MQTTGWPublishHandler.handleAck client packet type) := by
  unfold MQTTGWPublishHandler.handleAck
  split
  · exact toClient (.refl client)
  · split
    · exact setAck (.refl client) (by simp)
    · exact unchanged client

theorem handleSuback (client : Client) (packet : MQTTGWPacket) :
    Settled client (MQTTGWSubscribeHandler.handleSuback client packet) := by
  simp only [MQTTGWSubscribeHandler.handleSuback]
  split
  · exact unchanged client
  · split
    · exact toClient ⟨rfl, rfl, rfl⟩
    · exact toClient ⟨rfl, rfl, rfl⟩

theorem handlePublish_none (gw : Gateway) (client : Client) :
    Settled client (MQTTSNPublishHandler.handlePublish gw client none).1 := by
  unfold MQTTSNPublishHandler.handlePublish
  split
  · rename_i hqosm1
    simp only [Bool.and_eq_true, Bool.not_eq_true'] at hqosm1
    exact ⟨.refl client, List.forall_mem_nil _, fun hregular => absurd (hregular.symm.trans hqosm1.2) Bool.noConfusion⟩
  · exact unchanged client

end Settled

-- what a client's PUBLISH comes to
structure Carried (client : Client) (packet : SNPublish) (handled : Handled) : Prop where
  login : Login client handled.client
  upstream : handled.brokerSend = [] ∨ ∃ topic topiclen bounded,
    handled.brokerSend = [MQTTSNPublishHandler.translate packet topic topiclen bounded]
  suspended : client.isQoSm1 = false → handled.suspended = []

namespace Carried

variable {gw : Gateway} {client : Client} {packet : SNPublish}

theorem quiet {handled : Handled} (h : Settled client handled) (hsent : handled.brokerSend = []) :
    Carried client packet handled := ⟨h.login, .inl hsent, h.suspended⟩

theorem forward {after : Client} {topic : Bytes} {topiclen : Nat} {bounded : topiclen < 65536}
    (h : Login client after) :
    Carried client packet
      (MQTTSNPublishHandler.forward gw after packet topic topiclen bounded).1 := by
  have hlogin : Login client (MQTTSNPublishHandler.setWaitedPubTopicId after packet) := by
    unfold MQTTSNPublishHandler.setWaitedPubTopicId
    split
    · exact h.trans ⟨rfl, rfl, rfl⟩
    · exact h
  simp only [MQTTSNPublishHandler.forward]
  split
  · exact ⟨hlogin, .inl rfl, fun _ => rfl⟩
  · exact ⟨hlogin, .inr ⟨topic, topiclen, bounded, rfl⟩, fun _ => rfl⟩

theorem handlePublish (gw : Gateway) (client : Client) (packet : SNPublish) :
    Carried client packet (MQTTSNPublishHandler.handlePublish gw client (some packet)).1 := by
  unfold MQTTSNPublishHandler.handlePublish
  split
  · rename_i hqosm1
    simp only [Bool.and_eq_true, Bool.not_eq_true'] at hqosm1
    exact ⟨.refl client, .inl rfl, fun hregular => absurd (hregular.symm.trans hqosm1.2) Bool.noConfusion⟩
  simp only
  split
  · exact forward (.refl client)
  split
  · exact forward ⟨rfl, rfl, rfl⟩
  · split_ifs
    · exact ⟨⟨rfl, rfl, rfl⟩, .inl rfl, fun _ => rfl⟩
    · exact ⟨⟨rfl, rfl, rfl⟩, .inl rfl, fun _ => rfl⟩
    · exact forward ⟨rfl, rfl, rfl⟩

end Carried

def MQTTSNPacket.opens : MQTTSNPacket → Bool
  | .connect data => data.isSome
  | .willtopic data => data.isSome
  | .willmsg data => data.isSome
  | .publish data => data.isSome
  | _ => false

inductive ClientTurn (gw : Gateway) (client : Client) : MQTTSNPacket → Handled → Prop
  | connect (data : SNConnect) : ClientTurn gw client (.connect (some data))
      (MQTTSNConnectionHandler.handleConnect gw client (some data))
  | willtopic (data : SNWilltopic) : ClientTurn gw client (.willtopic (some data))
      (MQTTSNConnectionHandler.handleWilltopic client (some data))
  | willmsg (willmsg : Bytes) : ClientTurn gw client (.willmsg (some willmsg))
      (MQTTSNConnectionHandler.handleWillmsg gw client (some willmsg))
  | publish (packet : SNPublish) {handled : Handled} (relayed : Carried client packet handled) :
      ClientTurn gw client (.publish (some packet)) handled
  | settled {packet : MQTTSNPacket} {handled : Handled} (opens : packet.opens = false)
      (settled : Settled client handled) : ClientTurn gw client packet handled

theorem transparentClientPacket_turn {gw : Gateway} {client : Client} {packet : MQTTSNPacket}
    {handled : Handled} (h : transparentClientPacket gw client packet = some handled) :
    ClientTurn gw client packet handled := by
  cases packet with
  | connect data =>
    obtain rfl := Option.some.inj h
    cases data with
    | none => exact .settled rfl (.unchanged client)
    | some data => exact .connect data
  | willtopic data =>
    obtain rfl := Option.some.inj h
    cases data with
    | none => exact .settled rfl (.unchanged client)
    | some data => exact .willtopic data
  | willmsg data =>
    obtain rfl := Option.some.inj h
    cases data with
    | none =>
      refine .settled rfl ?_
      unfold MQTTSNConnectionHandler.handleWillmsg
      split_ifs
      · exact .unchanged client
      · exact .unchanged client
      · exact .unchanged client
    | some data => exact .willmsg data
  | publish data =>
    obtain rfl := Option.some.inj h
    cases data with
    | none => exact .settled rfl (.handlePublish_none gw client)
    | some data => exact .publish data (.handlePublish gw client data)
  | disconnect duration =>
    exact .settled rfl (.of_some h (.handleDisconnect client duration))
  | pingreq =>
    exact .settled rfl (.of_some h (.handlePingreq client))
  | puback data =>
    exact .settled rfl (.of_some h (.handlePuback gw client data))
  | pubrec msgId =>
    exact .settled rfl (.of_some h (.handleAck client (by simp) msgId))
  | pubrel msgId =>
    exact .settled rfl (.of_some h (.handleAck client (by simp) msgId))
  | pubcomp msgId =>
    exact .settled rfl (.of_some h (.handleAck client (by simp) msgId))
  | register data => exact .settled rfl (.handleRegister h)
  | regack data =>
    exact .settled rfl (.of_some h (.handleRegAck client data))
  | subscribe data =>
    obtain ⟨result, hresult, rfl⟩ := Option.map_eq_some_iff.mp h
    exact .settled rfl (.handleSubscribe hresult)
  | unsubscribe data =>
    exact .settled rfl (.of_some h (.handleUnsubscribe client data))
  | willmsgupd =>
    have hsettled : Settled client (MQTTSNConnectionHandler.handleWillmsgupd client) :=
      .toClient (.refl client)
    exact .settled rfl (.of_some h hsettled)
  | _ => exact .settled rfl (.of_some h (.unchanged client))

inductive BrokerTurn (client : Client) (packet : MQTTGWPacket) : Handled → Prop
  | connack (type : packet.getType = CONNACK) :
      BrokerTurn client packet (MQTTGWConnectionHandler.handleConnack client packet)
  | pingresp (type : packet.getType = PINGRESP) :
      BrokerTurn client packet (MQTTGWConnectionHandler.handlePingresp client)
  | settled {handled : Handled} (connack : packet.getType ≠ CONNACK)
      (pingresp : packet.getType ≠ PINGRESP) (settled : Settled client handled) :
      BrokerTurn client packet handled

theorem transparentBrokerPacket_turn {client : Client} {packet : MQTTGWPacket} {handled : Handled}
    (h : transparentBrokerPacket client packet = some handled) :
    BrokerTurn client packet handled := by
  unfold transparentBrokerPacket at h
  split at h
  · rename_i htype
    obtain rfl := Option.some.inj h
    exact .connack htype
  rename_i hconnack
  split at h
  · rename_i htype
    obtain rfl := Option.some.inj h
    exact .pingresp htype
  rename_i hpingresp
  refine .settled hconnack hpingresp ?_
  split_ifs at h
  · exact .handleBrokerPublish h
  · obtain rfl := Option.some.inj h
    exact .handleBrokerPuback client packet
  · obtain rfl := Option.some.inj h
    exact .handleBrokerAck client packet _
  · obtain rfl := Option.some.inj h
    exact .handleSuback client packet
  · obtain rfl := Option.some.inj h
    exact .toClient (.refl client)
  · obtain rfl := Option.some.inj h
    exact .unchanged client

section Locality

variable {gw : Gateway} {ids : MessageIds} {clients others : Nat → Client} {ev : Event} {c : Nat}

theorem handleEvent_congr (hconcerns : ev.concerns c = true)
    (hplain : (clients c).isAggregater = false) (hsame : others c = clients c) :
    handleEvent gw ids others ev = handleEvent gw ids clients ev := by
  cases ev with
  | broadcast => rfl
  | clientRecv d packet =>
    obtain rfl : d = c := by simpa [Event.concerns] using hconcerns
    simp only [handleEvent, hsame]
  | brokerRecv d packet =>
    obtain rfl : d = c := by simpa [Event.concerns] using hconcerns
    simp [handleEvent, hsame, hplain]

theorem handleEvent_target (hplain : ∀ d, (clients d).isAggregater = false) {target : Nat}
    {handled : Handled} (h : handleEvent gw ids clients ev = .done target handled) (c : Nat) :
    ev.concerns c = decide (target = c) := by
  cases handleEvent_dispatched h with
  | client _ => rfl
  | transparent _ _ => rfl
  | @aggregate d _ haggregater => simp [hplain d] at haggregater

end Locality

end MbedMqtt.MQTTSNGW
