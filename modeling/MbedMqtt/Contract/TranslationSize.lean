import MbedMqtt.Contract.SleepQueue
import MbedMqtt.Gateway.Buffer

namespace MbedMqtt.MQTTSNGW

structure WirePublish where
  packet : MQTTGWPacket
  publish : packet.getType = PUBLISH
  qos : headerQoS packet.header ≤ 2
  complete : packet.remainingLength = packet.data.length
  framed : 2 + readInt packet.data 0 + (if 0 < headerQoS packet.header then 2 else 0) ≤
    packet.data.length
  bounded : packet.data.length ≤ 2097151

def WirePublish.pub (message : WirePublish) : Publish := message.packet.getPUBLISH

def translated (pub : Publish) : MQTTSNPacket → MQTTSNPacket
  | .publish (some packet) => .publish (some { packet with payload := pub.body })
  | packet => packet

def built (client : Client) (handled : Handled) : List MQTTSNPacket :=
  handled.clientSend ++
    (handled.client.waitREGACKList.list.drop client.waitREGACKList.list.length).map (·.packet)

structure Faithful (stack : Nat → UInt8) (message built : MQTTSNPacket) : Prop where
  translation : ∃ serialized bytes, built.serialized = some serialized ∧ message.wire = some bytes ∧
    0 ≤ serialized.rc ∧ desirialize stack serialized = bytes ∧
    bytes.length ≤ MQTTSNGW_MAX_PACKET_SIZE

def SizeSafe (stack : Nat → UInt8) (client : Client) (message : WirePublish) : Prop :=
  ∀ handled, MQTTGWPublishHandler.handlePublish client message.packet = some handled →
    ∀ packet ∈ built client handled, Faithful stack (translated message.pub packet) packet

def known (client : Client) (pub : Publish) : Bool :=
  pub.topiclen ≤ 2 || (client.topics.getTopicByName pub.name).isSome

def announces (client : Client) (pub : Publish) : Bool :=
  !known client pub && (client.topics.matchTopic .normal pub.name).isSome &&
    (client.topics.add .normal pub.name).2.any (·.topicId ≠ 0)

def SizeFits (client : Client) (pub : Publish) : Prop :=
  client.isActive || client.isAwake →
    (known client pub || announces client pub → pub.payload.length ≤ 1015) ∧
    (announces client pub → pub.topiclen ≤ 1016)

namespace WirePublish

variable (message : WirePublish)

theorem payload_length : message.pub.payloadlen = message.pub.payload.length := by
  have hframed := message.framed
  have hcomplete := message.complete
  simp only [pub, MQTTGWPacket.getPUBLISH]
  split_ifs at hframed ⊢
  · simp only [List.length_drop]
    omega
  · simp only [List.length_drop]
    omega

theorem body_eq : message.pub.body = message.pub.payload := by
  rw [Publish.body, message.payload_length, Int.toNat_natCast, List.take_length]

theorem name_length : message.pub.name.bytes.length = message.pub.topiclen := by
  have hframed := message.framed
  simp only [Publish.name, pub, MQTTGWPacket.getPUBLISH_topic, MQTTGWPacket.getPUBLISH_topiclen,
    List.length_take, List.length_drop]
  split_ifs at hframed <;> omega

theorem qos_ne : QoS.ofInt message.pub.qos ≠ .reserved := by
  have hheader : message.pub.header = message.packet.header := by
    simp only [pub, MQTTGWPacket.getPUBLISH]
    split <;> rfl
  have hqos := message.qos
  rw [← hheader] at hqos
  unfold Publish.qos
  generalize headerQoS message.pub.header = qos at hqos
  obtain rfl | rfl | rfl : qos = 0 ∨ qos = 1 ∨ qos = 2 := by omega
  · decide
  · decide
  · decide

end WirePublish

section Packets

variable {stack : Nat → UInt8}

theorem faithful_of_fits {type : UInt8} {length : Nat} {body : Bytes}
    (hbody : body.length + 1 = length) (h : length ≤ 1021) :
    let serialized := serialize MQTTSNGW_MAX_PACKET_SIZE type length body
    0 ≤ serialized.rc ∧ desirialize stack serialized = wire type length body ∧
      (wire type length body).length ≤ MQTTSNGW_MAX_PACKET_SIZE := by
  have hlen := snPacketLen_le.mpr h
  have hwire := (@wire_length type length body hbody).mpr hlen
  have hserialize : serialize MQTTSNGW_MAX_PACKET_SIZE type length body =
      ⟨(wire type length body).length, wire type length body⟩ := by
    rw [serialize, if_neg (Nat.not_lt.mpr hlen)]
  rw [hserialize]
  refine ⟨Int.natCast_nonneg _, desirialize_written stack (Nat.lt_of_le_of_lt hwire (by decide)), hwire⟩

theorem Faithful.size {message packet : MQTTSNPacket} (h : Faithful stack message packet) :
    ∃ bytes, message.wire = some bytes ∧ bytes.length ≤ MQTTSNGW_MAX_PACKET_SIZE := by
  obtain ⟨serialized, bytes, -, hwire, -, -, hsize⟩ := h.translation
  exact ⟨bytes, hwire, hsize⟩

theorem faithful_publish (stack : Nat → UInt8) (message : WirePublish) (topic : TopicId) :
    let packet := MQTTGWPublishHandler.snPublish message.pub topic
    Faithful stack (translated message.pub packet) packet ↔ message.pub.payload.length ≤ 1015 := by
  intro packet
  let full : SNPublish :=
    { dup := headerDup message.pub.header = 1
      qos := .ofInt message.pub.qos
      retained := headerRetain message.pub.header = 1
      msgId := UInt16.ofNat message.pub.msgId
      topic := topic
      payload := message.pub.payload }
  have hlong : full.longTopic = [] := by
    rw [SNPublish.longTopic, if_neg]
    exact fun hboth => message.qos_ne hboth.2
  have hlength : full.length = message.pub.payload.length + 6 := by
    rw [SNPublish.length, hlong, List.length_nil]
  have htranslated : translated message.pub packet = .publish (some full) := by
    simp only [translated, packet, MQTTGWPublishHandler.snPublish, message.body_eq, full]
  rw [htranslated]
  constructor
  · intro h
    obtain ⟨bytes, hwire, hsize⟩ := h.size
    obtain rfl := Option.some.inj hwire
    have hle := snPacketLen_le.mp ((wire_length (publish_body_length full)).mp hsize)
    omega
  · intro hpayload
    have hwhole : packet = .publish (some full) := by
      have hlen : (message.pub.payloadlen % 65536).toNat = message.pub.payload.length := by
        rw [message.payload_length]
        omega
      simp only [packet, MQTTGWPublishHandler.snPublish, hlen, List.take_length, full]
    rw [hwhole]
    exact ⟨_, _, rfl, rfl, faithful_of_fits (publish_body_length full) (by omega)⟩

theorem faithful_register (stack : Nat → UInt8) (packet : SNRegister) :
    Faithful stack (.register (some packet)) (.register (some packet)) ↔
      packet.topicName.bytes.length ≤ 1016 := by
  constructor
  · intro h
    obtain ⟨bytes, hwire, hsize⟩ := h.size
    obtain rfl := Option.some.inj hwire
    have hle := snPacketLen_le.mp ((wire_length (register_body_length packet)).mp hsize)
    rw [SNRegister.length] at hle
    omega
  · intro hname
    refine ⟨_, _, rfl, rfl, faithful_of_fits (register_body_length packet) ?_⟩
    rw [SNRegister.length]
    omega

end Packets

section Broker

variable {client : Client} {pub : Publish} {handled : Handled}

theorem handleAwake_known (h : known client pub = true) :
    ∃ topic, MQTTGWPublishHandler.handleAwake client pub =
      some (.toClient client (MQTTGWPublishHandler.snPublish pub topic)) := by
  simp only [known, Bool.or_eq_true, decide_eq_true_eq] at h
  unfold MQTTGWPublishHandler.handleAwake
  split_ifs with hshort
  · exact ⟨_, rfl⟩
  · obtain ⟨tp, htp⟩ := Option.isSome_iff_exists.mp (h.resolve_left hshort)
    rw [htp]
    exact ⟨_, rfl⟩

theorem handleAwake_announces (h : announces client pub = true) :
    ∃ topics id, MQTTGWPublishHandler.handleAwake client pub =
      some (MQTTGWPublishHandler.register client pub topics id) := by
  simp only [announces, known, Bool.and_eq_true, Bool.not_eq_true', Bool.or_eq_false_iff,
    decide_eq_false_iff_not, Option.isSome_eq_false_iff, Option.isNone_iff_eq_none] at h
  obtain ⟨⟨⟨hlong, hname⟩, hmatch⟩, hadd⟩ := h
  obtain ⟨filter, hfilter⟩ := Option.isSome_iff_exists.mp hmatch
  unfold MQTTGWPublishHandler.handleAwake
  rw [if_neg hlong, hname, hfilter]
  match htopics : client.topics.add .normal pub.name with
  | (topics, none) => simp [htopics] at hadd
  | (topics, some topic) =>
    simp only [htopics, Option.any_some, decide_eq_true_eq] at hadd
    exact ⟨topics, topic.topicId, if_pos hadd⟩

theorem handleAwake_silent (hknown : known client pub = false) (h : announces client pub = false)
    (hdone : MQTTGWPublishHandler.handleAwake client pub = some handled) :
    built client handled = [] := by
  simp only [known, Bool.or_eq_false_iff, decide_eq_false_iff_not, Option.isSome_eq_false_iff,
    Option.isNone_iff_eq_none] at hknown
  obtain ⟨hshort, -⟩ | ⟨-, tp, htp, -⟩ | ⟨-, -, ⟨-, rfl⟩ | ⟨hmatch, topics, topic, hadd, hid⟩⟩ :=
    MQTTGWPublishHandler.handleAwake_cases hdone
  · exact absurd hshort hknown.1
  · simp [hknown.2] at htp
  · simp [built]
  · obtain ⟨hid, -⟩ | ⟨-, rfl⟩ := hid
    · have hmatched := Option.isSome_iff_ne_none.mpr hmatch
      simp [announces, known, hknown, hmatched, hadd, hid] at h
    · simp [built, Handled.unchanged]

theorem built_register (client : Client) (pub : Publish) (topics : Topics) (id : UInt16) :
    ∃ msgId, built client (MQTTGWPublishHandler.register client pub topics id) =
      [.register (some ⟨id, msgId, pub.name⟩),
        MQTTGWPublishHandler.snPublish pub ⟨.normal, .id id⟩] := by
  refine ⟨UInt16.ofNat (Client.getNextSnMsgId client.snMsgId).toNat, ?_⟩
  simp only [built, MQTTGWPublishHandler.register, Handled.toClient, WaitREGACKPacketList.setPacket,
    List.drop_left, List.map_cons, List.map_nil, List.singleton_append]

theorem handlePublish_awake (client : Client) (packet : MQTTGWPacket)
    (h : (client.isActive || client.isAwake) = true) :
    MQTTGWPublishHandler.handlePublish client packet =
      MQTTGWPublishHandler.handleAwake client packet.getPUBLISH := by
  have hsleep : client.isSleep = false := by
    cases hstatus : client.status <;>
      simp_all [Client.isActive, Client.isAwake, Client.isSleep]
  simp only [MQTTGWPublishHandler.handlePublish, hsleep]
  cases hactive : client.isActive <;> simp_all

theorem handlePublish_unsent {packet : MQTTGWPacket}
    (h : (client.isActive || client.isAwake) = false)
    (hdone : MQTTGWPublishHandler.handlePublish client packet = some handled) :
    built client handled = [] := by
  simp only [Bool.or_eq_false_iff] at h
  simp only [MQTTGWPublishHandler.handlePublish, h.1, h.2] at hdone
  split_ifs at hdone with hidle hsleep
  · obtain rfl := Option.some.inj hdone
    simp [built, Handled.unchanged]
  · obtain rfl := Option.some.inj hdone
    simp [built, Client.setClientSleepPacket]
  · simp_all

end Broker

theorem sizeSafe_iff (stack : Nat → UInt8) (client : Client) (message : WirePublish) :
    SizeSafe stack client message ↔ SizeFits client message.pub := by
  cases hawake : client.isActive || client.isAwake with
  | false =>
    refine iff_of_true ?_ (fun htrue => absurd (hawake.symm.trans htrue) Bool.false_ne_true)
    intro handled hdone packet hpacket
    rw [handlePublish_unsent hawake hdone] at hpacket
    exact absurd hpacket List.not_mem_nil
  | true =>
    simp only [SizeSafe, SizeFits, hawake, handlePublish_awake client message.packet hawake,
      forall_const]
    cases hknown : known client message.pub with
    | true =>
      have hannounces : announces client message.pub = false := by simp [announces, hknown]
      obtain ⟨topic, hdone⟩ := handleAwake_known hknown
      have hbuilt : built client (.toClient client
          (MQTTGWPublishHandler.snPublish message.pub topic)) =
          [MQTTGWPublishHandler.snPublish message.pub topic] := by
        simp [built, Handled.toClient]
      have hpublish := faithful_publish stack message topic
      simp only [WirePublish.pub] at hdone hbuilt hpublish hannounces ⊢
      simp [hdone, hbuilt, hpublish, hannounces]
    | false =>
      cases hannounces : announces client message.pub with
      | true =>
        obtain ⟨topics, id, hdone⟩ := handleAwake_announces hannounces
        obtain ⟨msgId, hbuilt⟩ := built_register client message.pub topics id
        have hpublish := faithful_publish stack message ⟨.normal, .id id⟩
        have hregister := faithful_register stack ⟨id, msgId, message.pub.name⟩
        rw [message.name_length] at hregister
        have hsame : translated message.pub (.register (some ⟨id, msgId, message.pub.name⟩)) =
          .register (some ⟨id, msgId, message.pub.name⟩) := rfl
        simp only [WirePublish.pub] at hdone hbuilt hpublish hregister hsame ⊢
        simp [hdone, hbuilt, hpublish, hsame, hregister, and_comm]
      | false =>
        refine iff_of_true ?_ (by simp)
        intro handled hdone packet hpacket
        rw [handleAwake_silent hknown hannounces hdone] at hpacket
        exact absurd hpacket List.not_mem_nil

def forwards (gw : Gateway) (client : Client) (packet : SNPublish) : List MQTTGWPacket :=
  (MQTTSNPublishHandler.handlePublish gw client (some packet)).1.brokerSend ++
    (MQTTSNPublishHandler.handlePublish gw client (some packet)).2.toList

def SendSafe (gw : Gateway) (client : Client) (packet : SNPublish) : Prop :=
  ∀ publish ∈ forwards gw client packet,
    publish.getPacketData.length ≤ MQTTSNGW_MAX_PACKET_SIZE

def forwardedTopic (gw : Gateway) (client : Client) (packet : SNPublish) : Option Nat :=
  if !gw.qosm1ProxyActive && client.isQoSm1 then none
  else if packet.topic.type = .short then some 2
  else
    match (MQTTSNPublishHandler.resolve gw client packet.topic).2 with
    | some topic => some topic.topicName.bytes.length
    | none =>
        if packet.qos = .reserved ∨ (packet.msgId ≠ 0 ∧ (packet.qos = .QOS1 ∨ packet.qos = .QOS2)) then
          none
        else some 0

def overhead (packet : SNPublish) : Nat := if packet.qos = .QOS1 ∨ packet.qos = .QOS2 then 4 else 2

def SendFits (gw : Gateway) (client : Client) (packet : SNPublish) : Prop :=
  ∀ topiclen ∈ forwardedTopic gw client packet,
    topiclen + packet.payload.length + overhead packet ≤ 1021

section Client

variable {gw : Gateway} {client : Client} {packet : SNPublish}

theorem translate_size (packet : SNPublish) (topic : Bytes) {topiclen : Nat}
    (bounded : topiclen < 65536) (h : topic.length = topiclen) :
    (MQTTSNPublishHandler.translate packet topic topiclen bounded).getPacketData.length ≤
        MQTTSNGW_MAX_PACKET_SIZE ↔
      topiclen + packet.payload.length + overhead packet ≤ 1021 := by
  let qos := if packet.qos = .reserved then 0 else packet.qos.toInt
  let pub : Publish :=
    { header := headerByte 0 packet.dup.toNat qos packet.retained.toNat
      topic := topic
      topiclen := topiclen
      msgId := packet.msgId.toNat
      payload := packet.payload
      payloadlen := packet.payload.length
      bounded := bounded }
  have hfront : (MQTTGWPacket.publishFront pub).length = 2 + topiclen :=
    MQTTGWPacket.publishFront_length (Nat.le_of_eq h.symm)
  have hbody : pub.body = packet.payload := by
    rw [Publish.body, Int.toNat_natCast, List.take_length]
  have hheader : headerQoS pub.header = qos % 4 := headerQoS_headerByte _ _ _ _
  rcases Nat.eq_zero_or_pos (headerQoS pub.header) with hzero | hpos
  · have hoverhead : overhead packet = 2 := by
      rw [hzero] at hheader
      unfold overhead
      cases hqos : packet.qos <;> simp_all [qos, QoS.toInt]
    obtain ⟨hdata, hlen⟩ := @MQTTGWPacket.setPUBLISH_plain pub (by omega)
    refine (@getPacketData_length _ (topiclen + packet.payload.length + 2) ?_ ?_).trans (by omega)
    · refine hlen.trans ?_
      simp only [pub]
      omega
    · rw [show (MQTTSNPublishHandler.translate packet topic topiclen bounded).data =
        MQTTGWPacket.publishFront pub ++ pub.body ++ [0, 0] from hdata]
      simp only [List.length_append, hfront, hbody, List.length_cons, List.length_nil]
      omega
  · have hoverhead : overhead packet = 4 := by
      unfold overhead
      cases hqos : packet.qos <;> simp_all [qos, QoS.toInt]
    obtain ⟨hdata, hlen⟩ := @MQTTGWPacket.setPUBLISH_identified pub hpos
    refine (@getPacketData_length _ (topiclen + packet.payload.length + 4) ?_ ?_).trans (by omega)
    · refine hlen.trans ?_
      simp only [pub]
      omega
    · rw [show (MQTTSNPublishHandler.translate packet topic topiclen bounded).data =
        MQTTGWPacket.publishFront pub ++ writeInt pub.msgId ++ pub.body from hdata]
      simp only [List.length_append, hfront, hbody, writeInt_length]
      omega

theorem forward_sent (client : Client) (topic : Bytes) {topiclen : Nat} (bounded : topiclen < 65536) :
    let result := MQTTSNPublishHandler.forward gw client packet topic topiclen bounded
    result.1.brokerSend ++ result.2.toList =
      [MQTTSNPublishHandler.translate packet topic topiclen bounded] := by
  simp only [MQTTSNPublishHandler.forward]
  split_ifs <;> rfl

theorem forwards_eq (gw : Gateway) (client : Client) (packet : SNPublish) :
    (forwardedTopic gw client packet = none ∧ forwards gw client packet = []) ∨
    ∃ topic topiclen bounded, topic.length = topiclen ∧
      forwardedTopic gw client packet = some topiclen ∧ forwards gw client packet =
        [MQTTSNPublishHandler.translate packet topic topiclen bounded] := by
  simp only [forwardedTopic, forwards, MQTTSNPublishHandler.handlePublish]
  cases hproxy : !gw.qosm1ProxyActive && client.isQoSm1 with
  | true => exact .inl ⟨rfl, rfl⟩
  | false =>
    simp only [Bool.false_eq_true, if_false]
    by_cases hshort : packet.topic.type = .short
    · simp only [if_pos hshort]
      refine .inr ⟨packet.topic.data.shortField, 2, by decide, ?_, rfl, forward_sent client _ _⟩
      cases packet.topic.data <;> rfl
    simp only [if_neg hshort]
    cases (MQTTSNPublishHandler.resolve gw client packet.topic).2 with
    | some topic =>
      exact .inr ⟨topic.topicName.bytes, _, topic.topicName.bounded, rfl, rfl, forward_sent _ _ _⟩
    | none =>
      by_cases hreserved : packet.qos = .reserved
      · simp only [hreserved, true_or, if_true]
        exact .inl ⟨trivial, rfl⟩
      by_cases hidentified : packet.msgId ≠ 0 ∧ (packet.qos = .QOS1 ∨ packet.qos = .QOS2)
      · simp only [if_neg hreserved, if_pos hidentified, if_pos (Or.inr hidentified)]
        exact .inl ⟨trivial, rfl⟩
      · simp only [if_neg hreserved, if_neg hidentified,
          if_neg (not_or.mpr ⟨hreserved, hidentified⟩)]
        exact .inr ⟨[], 0, by decide, rfl, rfl, forward_sent _ _ _⟩

end Client

theorem sendSafe_iff (gw : Gateway) (client : Client) (packet : SNPublish) :
    SendSafe gw client packet ↔ SendFits gw client packet := by
  rcases forwards_eq gw client packet with ⟨htopic, hsent⟩ | ⟨topic, topiclen, bounded, hlen, htopic, hsent⟩
  · simp [SendSafe, SendFits, htopic, hsent]
  · have hsize := translate_size packet topic bounded hlen
    simp only [SendSafe, SendFits, htopic, hsent, List.mem_singleton, forall_eq, Option.mem_some_iff,
      forall_eq', hsize]

theorem translation_size_iff (stack : Nat → UInt8) (gw : Gateway) (client : Client)
    (message : WirePublish) (packet : SNPublish) :
    (SizeSafe stack client message ↔ SizeFits client message.pub) ∧
    (SendSafe gw client packet ↔ SendFits gw client packet) :=
  ⟨sizeSafe_iff stack client message, sendSafe_iff gw client packet⟩

def activeClient : Client := { Client.initial .regular [0x63] .initial with status := .active }

def longMessage : WirePublish where
  packet := ⟨0x30, 1020, [0, 2, 0x61, 0x62] ++ List.replicate 1016 0x68⟩
  publish := by decide
  qos := by decide
  complete := by decide +kernel
  framed := by decide +kernel
  bounded := by decide +kernel

def longName : Topic where
  type := .normal
  topicId := 1
  topicName := ⟨List.replicate 600 0x61, by decide +kernel⟩
  terminated := by decide +kernel

def longNameClient : Client := { activeClient with topics := ⟨[longName], 1, 1⟩ }

def longPublish : SNPublish := ⟨false, .QOS0, false, 0, ⟨.normal, .id 1⟩, List.replicate 600 0x68⟩

theorem translation_overrun :
    (¬∀ stack, SizeSafe stack activeClient longMessage) ∧
      ¬SendSafe bareGateway longNameClient longPublish := by
  constructor
  · intro h
    let packet := MQTTGWPublishHandler.snPublish longMessage.pub ⟨.short, .shortName 0x61 0x62⟩
    have hdone : MQTTGWPublishHandler.handlePublish activeClient longMessage.packet =
        some (.toClient activeClient packet) := by rfl
    have hbuilt : packet ∈ built activeClient (.toClient activeClient packet) := by
      simp [built, Handled.toClient]
    obtain ⟨serialized, bytes, hserialized, -, hrc, -⟩ :=
      (h (fun _ => 0) _ hdone packet hbuilt).translation
    have hshort : packet.serialized = some ⟨MQTTSNPACKET_BUFFER_TOO_SHORT, []⟩ := by
      decide +kernel
    obtain rfl := Option.some.inj (hserialized.symm.trans hshort)
    revert hrc
    decide
  · intro h
    have hsent : ∃ publish, forwards bareGateway longNameClient longPublish = [publish] ∧
        publish.getPacketData.length = 1205 := by
      refine ⟨_, rfl, ?_⟩
      decide +kernel
    obtain ⟨publish, hforwards, hlength⟩ := hsent
    have hle := h publish (by rw [hforwards]; exact List.mem_singleton_self _)
    rw [hlength] at hle
    revert hle
    decide

end MbedMqtt.MQTTSNGW
