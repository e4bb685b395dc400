import MbedMqtt.Gateway.Client

namespace MbedMqtt.MQTTSNGW

structure MessageIds where
  convertClient : UInt16 → Option (Nat × UInt16)
  msgId : UInt16 → UInt16
  uninitialised : UInt16

namespace MQTTSNPublishHandler

def resolve (gw : Gateway) (client : Client) (topicid : TopicId) : Topics × Option Topic :=
  match client.topics.getTopicById topicid with
  | some topic => (client.topics, some topic)
  | none =>
      match gw.topics.getTopicById topicid with
      | some topic => client.topics.addId topic.topicName topic.topicId
      | none => (client.topics, none)

def setWaitedPubTopicId (client : Client) (packet : SNPublish) : Client :=
  if packet.msgId ≠ 0 ∧ (packet.qos = .QOS1 ∨ packet.qos = .QOS2) then
    { client with
      waitedPubTopicIdMap := client.waitedPubTopicIdMap.add packet.msgId
        packet.topic.data.idField packet.topic.type }
  else client

def translate (packet : SNPublish) (topic : Bytes) (topiclen : Nat) (bounded : topiclen < 65536) :
    MQTTGWPacket :=
  let qos := if packet.qos = .reserved then 0 else packet.qos.toInt
  .setPUBLISH
    { header := headerByte 0 packet.dup.toNat qos packet.retained.toNat
      topic := topic
      topiclen := topiclen
      msgId := packet.msgId.toNat
      payload := packet.payload
      payloadlen := packet.payload.length
      bounded := bounded }

def forward (gw : Gateway) (client : Client) (packet : SNPublish) (topic : Bytes) (topiclen : Nat)
    (bounded : topiclen < 65536) : Handled × Option MQTTGWPacket :=
  let client := setWaitedPubTopicId client packet
  let publish := translate packet topic topiclen bounded
  if gw.aggregaterActive && client.isAggregated then (.unchanged client, some publish)
  else (.toBroker client publish, none)

def handlePublish (gw : Gateway) (client : Client) (data : Option SNPublish) :
    Handled × Option MQTTGWPacket :=
  if !gw.qosm1ProxyActive && client.isQoSm1 then
    ({ Handled.unchanged client with suspended := [.publish data] }, none)
  else
    match data with
    | none => (.unchanged client, none)
    | some packet =>
        if packet.topic.type = .short then
          forward gw client packet packet.topic.data.shortField 2 (by decide)
        else
          let resolved := resolve gw client packet.topic
          let client := { client with topics := resolved.1 }
          match resolved.2 with
          | some topic =>
              forward gw client packet topic.topicName.bytes topic.topicName.bytes.length
                topic.topicName.bounded
          | none =>
              if packet.qos = .reserved then (.unchanged client, none)
              else if packet.msgId ≠ 0 ∧ (packet.qos = .QOS1 ∨ packet.qos = .QOS2) then
                (.toClient client (.puback (some ⟨packet.topic.data.idField, packet.msgId,
                  MQTTSN_RC_REJECTED_INVALID_TOPIC_ID⟩)), none)
              else forward gw client packet [] 0 (by decide)

def handlePuback (gw : Gateway) (client : Client) : Option SNAck → Handled
  | none => .unchanged client
  | some ack =>
      if client.isActive && ack.returnCode = MQTTSN_RC_ACCEPTED && !gw.aggregaterActive then
        .toBroker client (.setAck PUBACK ack.msgId)
      else .unchanged client

def handleAck (client : Client) (packetType : Nat) : Option UInt16 → Handled
  | none => .unchanged client
  | some msgId =>
      if client.isActive then .toBroker client (.setAck packetType msgId) else .unchanged client

def handleRegister (client : Client) : Option SNRegister → Option Handled
  | none => some (.unchanged client)
  | some data =>
      if client.isActive || client.isAwake then
        match client.topics.add .normal data.topicName with
        | (_, none) => none
        | (topics, some topic) =>
            some (.toClient { client with topics := topics }
              (.regack (some ⟨topic.topicId, data.msgId, MQTTSN_RC_ACCEPTED⟩)))
      else some (.unchanged client)

def releasePing (handled : Handled) : Handled :=
  let client := handled.client
  if client.holdPingRequest && client.waitREGACKList.getCount = 0 then
    { handled with
      client := { client with holdPingRequest := false }
      brokerSend := handled.brokerSend ++ [.setHeader PINGREQ] }
  else handled

@[simp] theorem releasePing_clientSend (handled : Handled) :
    (releasePing handled).clientSend = handled.clientSend := by
  simp only [releasePing]
  split_ifs <;> rfl

theorem releasePing_client (handled : Handled) :
    ∃ hold, (releasePing handled).client = { handled.client with holdPingRequest := hold } := by
  simp only [releasePing]
  split_ifs
  · exact ⟨false, rfl⟩
  · exact ⟨handled.client.holdPingRequest, rfl⟩

def release (client : Client) (msgId : UInt16) : Handled :=
  match client.waitREGACKList.getPacket msgId with
  | some packet =>
      .toClient { client with waitREGACKList := client.waitREGACKList.erase msgId } packet
  | none => .unchanged client

def handleRegAck (client : Client) : Option SNAck → Handled
  | none => .unchanged client
  | some ack =>
      if client.isActive || client.isAwake then releasePing (release client ack.msgId)
      else .unchanged client

@[simp] theorem release_status (client : Client) (msgId : UInt16) :
    (release client msgId).client.status = client.status := by
  unfold release
  split
  · rfl
  · rfl

@[simp] theorem handleRegAck_status (client : Client) (data : Option SNAck) :
    (handleRegAck client data).client.status = client.status := by
  cases data with
  | none => rfl
  | some ack =>
    obtain ⟨hold, hclient⟩ := releasePing_client (release client ack.msgId)
    simp only [handleRegAck]
    split
    · rw [hclient]
      exact release_status client ack.msgId
    · rfl

def handleAggregatePublish (gw : Gateway) (ids : MessageIds) (client : Client)
    (data : Option SNPublish) : Handled :=
  match handlePublish gw client data with
  | (handled, none) => handled
  | (handled, some publish) =>
      let publish := if publish.getMsgId ≠ 0 then
          publish.setMsgId (ids.msgId ((data.map (·.msgId)).getD 0)) else publish
      { handled with brokerSend := handled.brokerSend ++ [publish] }

def handleAggregateAck (client : Client) : Option UInt16 → Handled
  | none => .unchanged client
  | some msgId => .toClient client (.pubrel (some msgId))

end MQTTSNPublishHandler

namespace MQTTGWPublishHandler

def replyACK (client : Client) (pub : Publish) (type : Nat) : Handled :=
  .toBroker client (.setAck type (UInt16.ofNat pub.msgId))

def acknowledge (client : Client) (pub : Publish) : Handled :=
  if pub.qos = 1 then replyACK client pub PUBACK
  else if pub.qos = 2 then replyACK client pub PUBREC
  else .unchanged client

@[simp] theorem acknowledge_client (client : Client) (pub : Publish) :
    (acknowledge client pub).client = client := by
  unfold acknowledge
  split_ifs <;> rfl

@[simp] theorem acknowledge_clientSend (client : Client) (pub : Publish) :
    (acknowledge client pub).clientSend = [] := by
  unfold acknowledge
  split_ifs <;> rfl

@[simp] theorem acknowledge_packetEvents (client : Client) (pub : Publish) :
    (acknowledge client pub).packetEvents = [] := by
  unfold acknowledge
  split_ifs <;> rfl

def snPublish (pub : Publish) (topic : TopicId) : MQTTSNPacket :=
  .publish (some
    { dup := headerDup pub.header = 1
      qos := .ofInt pub.qos
      retained := headerRetain pub.header = 1
      msgId := UInt16.ofNat pub.msgId
      topic := topic
      payload := pub.payload.take (pub.payloadlen % 65536).toNat })

def register (client : Client) (pub : Publish) (topics : Topics) (id : UInt16) : Handled :=
  let msgId := Client.getNextSnMsgId client.snMsgId
  let regackMsgId := UInt16.ofNat msgId.toNat
  let parked := snPublish pub ⟨.normal, .id id⟩
  .toClient
    { client with
      topics := topics
      snMsgId := msgId
      waitREGACKList := client.waitREGACKList.setPacket parked regackMsgId }
    (.register (some ⟨id, regackMsgId, pub.name⟩))

def handleAwake (client : Client) (pub : Publish) : Option Handled :=
  if pub.topiclen ≤ 2 then
    some (.toClient client
      (snPublish pub ⟨.short, .shortName (byteAt pub.topic 0) (byteAt pub.topic 1)⟩))
  else
    match client.topics.getTopicByName pub.name with
    | some tp => some (.toClient client (snPublish pub ⟨tp.type, .id tp.topicId⟩))
    | none =>
        match client.topics.matchTopic .normal pub.name with
        | none => some (acknowledge client pub)
        | some _ =>
            match client.topics.add .normal pub.name with
            | (_, none) => none
            | (topics, some topic) =>
                if topic.topicId ≠ 0 then some (register client pub topics topic.topicId)
                else some (.unchanged { client with topics := topics })

theorem handleAwake_cases {client : Client} {pub : Publish} {handled : Handled}
    (h : handleAwake client pub = some handled) :
    (pub.topiclen ≤ 2 ∧ handled = .toClient client
      (snPublish pub ⟨.short, .shortName (byteAt pub.topic 0) (byteAt pub.topic 1)⟩)) ∨
    (2 < pub.topiclen ∧ ∃ tp, client.topics.getTopicByName pub.name = some tp ∧
      handled = .toClient client (snPublish pub ⟨tp.type, .id tp.topicId⟩)) ∨
    (2 < pub.topiclen ∧ client.topics.getTopicByName pub.name = none ∧
      ((client.topics.matchTopic .normal pub.name = none ∧ handled = acknowledge client pub) ∨
      (client.topics.matchTopic .normal pub.name ≠ none ∧
        ∃ topics topic, client.topics.add .normal pub.name = (topics, some topic) ∧
          ((topic.topicId ≠ 0 ∧ handled = register client pub topics topic.topicId) ∨
          (topic.topicId = 0 ∧ handled = .unchanged { client with topics := topics }))))) := by
  unfold handleAwake at h
  by_cases hshort : pub.topiclen ≤ 2
  · rw [if_pos hshort] at h
    exact .inl ⟨hshort, (Option.some.inj h).symm⟩
  rw [if_neg hshort] at h
  have hlong : 2 < pub.topiclen := Nat.lt_of_not_le hshort
  cases hname : client.topics.getTopicByName pub.name with
  | some tp =>
    rw [hname] at h
    exact .inr (.inl ⟨hlong, tp, rfl, (Option.some.inj h).symm⟩)
  | none =>
    rw [hname] at h
    refine .inr (.inr ⟨hlong, rfl, ?_⟩)
    cases hmatch : client.topics.matchTopic .normal pub.name with
    | none =>
      rw [hmatch] at h
      exact .inl ⟨rfl, (Option.some.inj h).symm⟩
    | some filter =>
      rw [hmatch] at h
      refine .inr ⟨by simp, ?_⟩
      match hadd : client.topics.add .normal pub.name with
      | (topics, none) => simp [hadd] at h
      | (topics, some topic) =>
        refine ⟨topics, topic, rfl, ?_⟩
        simp only [hadd] at h
        by_cases hid : topic.topicId ≠ 0
        · rw [if_pos hid] at h
          exact .inl ⟨hid, (Option.some.inj h).symm⟩
        · rw [if_neg hid] at h
          exact .inr ⟨not_ne_iff.mp hid, (Option.some.inj h).symm⟩

def handlePublish (client : Client) (packet : MQTTGWPacket) : Option Handled :=
  if !client.isActive && !client.isSleep && !client.isAwake then some (.unchanged client)
  else if client.isSleep then
    let acked := acknowledge client packet.getPUBLISH
    some { acked with client := acked.client.setClientSleepPacket packet }
  else handleAwake client packet.getPUBLISH

def handlePuback (client : Client) (packet : MQTTGWPacket) : Handled :=
  let msgId := packet.getAck
  match client.waitedPubTopicIdMap.getElement msgId with
  | some topicId =>
      .toClient { client with waitedPubTopicIdMap := client.waitedPubTopicIdMap.erase msgId }
        (.puback (some ⟨topicId.topicId, msgId, 0⟩))
  | none => .unchanged client

def ackPacket (type : Nat) (msgId : UInt16) : MQTTSNPacket :=
  if type = PUBREC then .pubrec (some msgId)
  else if type = PUBREL then .pubrel (some msgId)
  else .pubcomp (some msgId)

def handleAck (client : Client) (packet : MQTTGWPacket) (type : Nat) : Handled :=
  if client.isActive || client.isAwake then .toClient client (ackPacket type packet.getAck)
  else if client.isSleep && type = PUBREL then .toBroker client (.setAck PUBCOMP packet.getAck)
  else .unchanged client

def handleAggregatePublish (client : Client) (packet : MQTTGWPacket) : Handled :=
  acknowledge client packet.getPUBLISH

def handleAggregatePubrel (ids : MessageIds) (client : Client) : Handled :=
  .toBroker client (.setAck PUBCOMP ids.uninitialised)

end MQTTGWPublishHandler

end MbedMqtt.MQTTSNGW
