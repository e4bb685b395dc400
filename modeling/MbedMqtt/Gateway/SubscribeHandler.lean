import MbedMqtt.Gateway.PublishHandler

namespace MbedMqtt.MQTTSNGW

namespace MQTTSNSubscribeHandler

def sendSubscribe (client : Client) (packet : SNSubscribe) (topicId : UInt16) (topic : Bytes) :
    Handled × Option MQTTGWPacket :=
  let client := { client with
    waitedSubTopicIdMap :=
      client.waitedSubTopicIdMap.add packet.msgId topicId packet.topicFilter.type }
  let subscribe := MQTTGWPacket.setSUBSCRIBE topic packet.qos packet.msgId
  if client.isAggregated then (.unchanged client, some subscribe)
  else (.toBroker client subscribe, none)

def subscribeNormal (client : Client) (packet : SNSubscribe) (name : TopicName) :
    Handled × Option MQTTGWPacket :=
  match client.topics.add .normal name with
  | (topics, none) => (.unchanged { client with topics := topics }, none)
  | (topics, some topic) =>
      sendSubscribe { client with topics := topics } packet topic.topicId topic.topicName.bytes

def handleSubscribe (gw : Gateway) (client : Client) :
    Option SNSubscribe → Option (Handled × Option MQTTGWPacket)
  | none => some (.unchanged client, none)
  | some packet =>
      if packet.msgId = 0 then some (.unchanged client, none)
      else
        match packet.topicFilter.type, packet.topicFilter.data with
        | .predefined, data =>
            match client.topics.getTopicById packet.topicFilter with
            | some topic => some (sendSubscribe client packet topic.topicId topic.topicName.bytes)
            | none =>
                match gw.topics.getTopicById packet.topicFilter with
                | none => none
                | some _ =>
                    some (.toClient client (.suback packet.qos.toInt data.idField packet.msgId
                      MQTTSN_RC_NOT_SUPPORTED), none)
        | .normal, .long name _ => some (subscribeNormal client packet name)
        | .normal, _ => some (.unchanged client, none)
        | _, data => some (sendSubscribe client packet 0 data.shortField)

def handleUnsubscribe (client : Client) : Option SNSubscribe → Handled × Option MQTTGWPacket
  | none => (.unchanged client, none)
  | some packet =>
      if packet.msgId = 0 then (.unchanged client, none)
      else
        let topic :=
          if packet.topicFilter.type = .short then some packet.topicFilter.data.shortField
          else (client.topics.getTopicById packet.topicFilter).map (·.topicName.bytes)
        match topic with
        | none => (.toClient client (.unsuback packet.msgId), none)
        | some topic =>
            let unsubscribe := MQTTGWPacket.setUNSUBSCRIBE topic packet.msgId
            if client.isAggregated then (.unchanged client, some unsubscribe)
            else (.toBroker client unsubscribe, none)

def renumber (ids : MessageIds) (msgId : UInt16) : Handled × Option MQTTGWPacket → Handled
  | (handled, none) => handled
  | (handled, some request) =>
      if ids.msgId msgId = 0 then handled
      else { handled with brokerSend := handled.brokerSend ++ [request.setMsgId (ids.msgId msgId)] }

def handleAggregateSubscribe (gw : Gateway) (ids : MessageIds) (client : Client)
    (data : Option SNSubscribe) : Option Handled :=
  (handleSubscribe gw client data).map (renumber ids ((data.map (·.msgId)).getD 0))

def handleAggregateUnsubscribe (ids : MessageIds) (client : Client) (data : Option SNSubscribe) :
    Handled :=
  renumber ids ((data.map (·.msgId)).getD 0) (handleUnsubscribe client data)

end MQTTSNSubscribeHandler

namespace MQTTGWSubscribeHandler

def handleSuback (client : Client) (packet : MQTTGWPacket) : Handled :=
  let msgId := packet.getSUBACK.1
  let rc := packet.getSUBACK.2
  match client.waitedSubTopicIdMap.getElement msgId with
  | none => .unchanged client
  | some topicId =>
      let client := { client with waitedSubTopicIdMap := client.waitedSubTopicIdMap.erase msgId }
      if rc = 0x80 then
        .toClient client (.suback 0 topicId.topicId msgId MQTTSN_RC_REJECTED_INVALID_TOPIC_ID)
      else .toClient client (.suback rc.toNat topicId.topicId msgId MQTTSN_RC_ACCEPTED)

def handleUnsuback (client : Client) (packet : MQTTGWPacket) : Handled :=
  .toClient client (.unsuback packet.getAck)

end MQTTGWSubscribeHandler

end MbedMqtt.MQTTSNGW
