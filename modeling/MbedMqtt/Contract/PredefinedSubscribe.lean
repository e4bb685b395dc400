import MbedMqtt.Contract.SubscribePairing

namespace MbedMqtt.MQTTSNGW

structure PredefinedSubscribe where
  dup : Bool
  qos : QoS
  msgId : UInt16
  id : UInt16
  identified : msgId ≠ 0

namespace PredefinedSubscribe

def topicFilter (request : PredefinedSubscribe) : TopicId := ⟨.predefined, .id request.id⟩

def packet (request : PredefinedSubscribe) : SNSubscribe :=
  ⟨request.dup, request.qos, request.msgId, request.topicFilter⟩

end PredefinedSubscribe

-- the topic of the id: the client's own before the gateway's
def registeredTopic (gw : Gateway) (client : Client) (topicFilter : TopicId) : Option Topic :=
  (client.topics.getTopicById topicFilter).or (gw.topics.getTopicById topicFilter)

structure Subscribes (client : Client) (topic : Topic) (handled : Handled)
    (returned : Option MQTTGWPacket) : Prop where
  quiet : handled.clientSend = []
  sent : ∃ subscribe : MQTTGWPacket, subscribe.getType = SUBSCRIBE ∧
    subscribe.getTopic = topic.topicName.bytes ∧
    handled.brokerSend = (if client.isAggregated then [] else [subscribe]) ∧
    returned = if client.isAggregated then some subscribe else none

structure Rejects (request : PredefinedSubscribe) (handled : Handled)
    (returned : Option MQTTGWPacket) : Prop where
  reply : ∃ returnCode, returnCode ≠ MQTTSN_RC_ACCEPTED ∧
    handled.clientSend = [.suback request.qos.toInt request.id request.msgId returnCode]
  silent : handled.brokerSend = [] ∧ returned = none

-- what a run without a null pointer answers
def Answered (gw : Gateway) (client : Client) (request : PredefinedSubscribe) : Prop :=
  ∃ handled returned,
    MQTTSNSubscribeHandler.handleSubscribe gw client (some request.packet) =
      some (handled, returned) ∧
    match registeredTopic gw client request.topicFilter with
    | some topic => Subscribes client topic handled returned
    | none => Rejects request handled returned

theorem sendSubscribe_subscribes (client : Client) (packet : SNSubscribe) (topic : Topic) :
    Subscribes client topic
      (MQTTSNSubscribeHandler.sendSubscribe client packet topic.topicId topic.topicName.bytes).1
      (MQTTSNSubscribeHandler.sendSubscribe client packet topic.topicId
        topic.topicName.bytes).2 := by
  have htype := setSUBSCRIBE_getType topic.topicName.bytes packet.qos packet.msgId
  have htopic := setSUBSCRIBE_getTopic packet.qos packet.msgId topic.topicName.bounded
  rw [Topic.cStr_name] at htopic
  cases haggregated : client.isAggregated with
  | true =>
    have hkept : ∀ map, ({ client with waitedSubTopicIdMap := map } : Client).isAggregated = true :=
      fun _ => haggregated
    simp only [MQTTSNSubscribeHandler.sendSubscribe, hkept, if_true]
    exact ⟨rfl, _, htype, htopic, by rw [haggregated]; rfl, by rw [haggregated]; rfl⟩
  | false =>
    have hkept : ∀ map, ({ client with waitedSubTopicIdMap := map } : Client).isAggregated = false :=
      fun _ => haggregated
    simp only [MQTTSNSubscribeHandler.sendSubscribe, hkept, Bool.false_eq_true, if_false]
    exact ⟨rfl, _, htype, htopic, by rw [haggregated]; rfl, by rw [haggregated]; rfl⟩

section Lookups

variable {gw : Gateway} {client : Client} {request : PredefinedSubscribe}

theorem handleSubscribe_predefined (gw : Gateway) (client : Client)
    (request : PredefinedSubscribe) :
    MQTTSNSubscribeHandler.handleSubscribe gw client (some request.packet) =
      match client.topics.getTopicById request.topicFilter with
      | some topic =>
          some (MQTTSNSubscribeHandler.sendSubscribe client request.packet topic.topicId
            topic.topicName.bytes)
      | none =>
          match gw.topics.getTopicById request.topicFilter with
          | none => none
          | some _ =>
              some (.toClient client (.suback request.qos.toInt request.id request.msgId
                MQTTSN_RC_NOT_SUPPORTED), none) :=
  if_neg request.identified

theorem answered_own {topic : Topic}
    (h : client.topics.getTopicById request.topicFilter = some topic) :
    Answered gw client request := by
  have hhandled : MQTTSNSubscribeHandler.handleSubscribe gw client (some request.packet) =
      some (MQTTSNSubscribeHandler.sendSubscribe client request.packet topic.topicId
        topic.topicName.bytes) := by
    rw [handleSubscribe_predefined, h]
  refine ⟨_, _, hhandled, ?_⟩
  rw [registeredTopic, h, Option.some_or]
  exact sendSubscribe_subscribes client request.packet topic

theorem not_answered_gateway {topic : Topic}
    (hclient : client.topics.getTopicById request.topicFilter = none)
    (hgateway : gw.topics.getTopicById request.topicFilter = some topic) :
    ¬Answered gw client request := by
  rintro ⟨handled, returned, hhandled, hanswer⟩
  rw [registeredTopic, hclient, hgateway, Option.none_or] at hanswer
  rw [handleSubscribe_predefined, hclient, hgateway] at hhandled
  obtain ⟨rfl, -⟩ := Prod.mk.inj (Option.some.inj hhandled)
  exact absurd hanswer.quiet (List.cons_ne_nil _ _)

theorem handleSubscribe_null (hclient : client.topics.getTopicById request.topicFilter = none)
    (hgateway : gw.topics.getTopicById request.topicFilter = none) :
    MQTTSNSubscribeHandler.handleSubscribe gw client (some request.packet) = none := by
  rw [handleSubscribe_predefined, hclient, hgateway]

end Lookups

theorem predefined_answered_iff (gw : Gateway) (client : Client) (request : PredefinedSubscribe) :
    Answered gw client request ↔
      client.topics.getTopicById request.topicFilter ≠ none := by
  cases hclient : client.topics.getTopicById request.topicFilter with
  | some topic => exact iff_of_true (answered_own hclient) (Option.some_ne_none topic)
  | none =>
    refine iff_of_false ?_ fun h => h rfl
    cases hgateway : gw.topics.getTopicById request.topicFilter with
    | some topic => exact not_answered_gateway hclient hgateway
    | none =>
      rintro ⟨handled, returned, hhandled, -⟩
      cases (handleSubscribe_null hclient hgateway).symm.trans hhandled

def topicSeven : Topic := ⟨.predefined, 7, ⟨[0x61, 0x62, 0x63], by decide⟩, by decide⟩

def subscribeSeven : PredefinedSubscribe := ⟨false, .QOS0, 1, 7, by decide⟩

theorem predefined_unanswered :
    let client : Client := .initial .regular [0x63] .initial
    let gw := { bareGateway with topics := ⟨[topicSeven], 0, 1⟩ }
    (∃ handled, MQTTSNSubscribeHandler.handleSubscribe gw client (some subscribeSeven.packet) =
        some (handled, none) ∧
      handled.clientSend = [.suback 0 7 1 MQTTSN_RC_NOT_SUPPORTED] ∧ handled.brokerSend = []) ∧
    MQTTSNSubscribeHandler.handleSubscribe bareGateway client (some subscribeSeven.packet) = none ∧
    ¬Answered gw client subscribeSeven ∧ ¬Answered bareGateway client subscribeSeven := by
  refine ⟨⟨_, rfl, rfl, rfl⟩, rfl, not_answered_gateway rfl rfl, ?_⟩
  rintro ⟨handled, returned, hhandled, -⟩
  cases hhandled

end MbedMqtt.MQTTSNGW
