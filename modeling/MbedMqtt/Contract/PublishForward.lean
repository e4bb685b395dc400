import MbedMqtt.Gateway.PublishHandler

namespace MbedMqtt.MQTTSNGW

open MQTTSNPublishHandler

def forwarded (result : Handled × Option MQTTGWPacket) : List MQTTGWPacket :=
  result.1.brokerSend ++ result.2.toList

def RegisteredName (gw : Gateway) (client : Client) (topicid : TopicId) (name : Bytes) : Prop :=
  if topicid.type = .short then name = topicid.data.shortField
  else ∃ topic, (client.topics.getTopicById topicid).or (gw.topics.getTopicById topicid) = some topic ∧
    topic.topicName.bytes = name

structure Carries (packet : SNPublish) (name : Bytes) (publish : MQTTGWPacket) : Prop where
  type : publish.getType = PUBLISH
  topic : publish.getPUBLISH.name.bytes = name
  payload : publish.getPUBLISH.body = packet.payload
  retain : headerRetain publish.header = packet.retained.toNat
  qos : headerQoS publish.header = if packet.qos = .reserved then 0 else packet.qos.toInt
  msgId : packet.qos = .QOS1 ∨ packet.qos = .QOS2 → publish.getPUBLISH.msgId = packet.msgId.toNat

structure ForwardsFaithfully (gw : Gateway) (client : Client) (packet : SNPublish) : Prop where
  translated : ∀ publish ∈ forwarded (handlePublish gw client (some packet)),
    ∃ name, RegisteredName gw client packet.topic name ∧ Carries packet name publish
  unregistered : packet.topic.type ≠ .short → client.topics.getTopicById packet.topic = none →
    gw.topics.getTopicById packet.topic = none →
    forwarded (handlePublish gw client (some packet)) = []

def KeptForProxy (gw : Gateway) (client : Client) : Prop :=
  gw.qosm1ProxyActive = false ∧ client.isQoSm1 = true

def Resolvable (gw : Gateway) (client : Client) (packet : SNPublish) : Prop :=
  packet.topic.type = .short ∨ (client.topics.getTopicById packet.topic).isSome ∨
    ∃ topic, gw.topics.getTopicById packet.topic = some topic ∧
      (client.topics.cnt < MAX_TOPIC_PAR_CLIENT ∨ topic.topicName.bytes = [])

def Refusable (packet : SNPublish) : Prop :=
  packet.qos = .reserved ∨ (packet.msgId ≠ 0 ∧ (packet.qos = .QOS1 ∨ packet.qos = .QOS2))

section Forward

variable {gw : Gateway} {client : Client} {packet : SNPublish}

theorem sentQoS_lt (packet : SNPublish) :
    (if packet.qos = .reserved then 0 else packet.qos.toInt) < 4 := by
  cases packet.qos <;> decide

theorem carries_translate (packet : SNPublish) {topic : Bytes} {topiclen : Nat}
    (bounded : topiclen < 65536) (hlen : topiclen ≤ topic.length) :
    Carries packet (topic.take topiclen)
      (MQTTSNPublishHandler.translate packet topic topiclen bounded) where
  type := MQTTGWPacket.setPUBLISH_getType _
  topic := by rw [MQTTSNPublishHandler.translate, MQTTGWPacket.setPUBLISH_name hlen]; rfl
  payload := MQTTGWPacket.setPUBLISH_body hlen rfl
  retain := by
    rw [MQTTSNPublishHandler.translate, MQTTGWPacket.setPUBLISH_retain, headerRetain_headerByte]
    cases packet.retained <;> rfl
  qos := by
    rw [MQTTSNPublishHandler.translate, MQTTGWPacket.setPUBLISH_qos, headerQoS_headerByte,
      Nat.mod_eq_of_lt (sentQoS_lt packet)]
  msgId := by
    intro hqos
    apply MQTTGWPacket.setPUBLISH_msgId hlen packet.msgId.toNat_lt
    rw [headerQoS_headerByte, Nat.mod_eq_of_lt (sentQoS_lt packet)]
    rcases hqos with hqos | hqos <;> simp [hqos, QoS.toInt]

theorem forwarded_forward {topic : Bytes} {topiclen : Nat} (bounded : topiclen < 65536) :
    forwarded (forward gw client packet topic topiclen bounded) =
      [MQTTSNPublishHandler.translate packet topic topiclen bounded] := by
  simp only [forward]
  split
  · rfl
  · rfl

theorem resolve_name {topics : Topics} {topic : Topic}
    (h : resolve gw client packet.topic = (topics, some topic)) :
    ∃ known, (client.topics.getTopicById packet.topic).or (gw.topics.getTopicById packet.topic) =
      some known ∧ known.topicName = topic.topicName := by
  unfold resolve at h
  cases hown : client.topics.getTopicById packet.topic with
  | some own =>
    rw [hown] at h
    simp only [Prod.mk.injEq, Option.some.injEq] at h
    exact ⟨own, rfl, by rw [h.2]⟩
  | none =>
    cases hshared : gw.topics.getTopicById packet.topic with
    | none => simp [hown, hshared] at h
    | some shared =>
      rw [hown, hshared] at h
      have hname := Topics.addId_name (congrArg Prod.snd h)
      exact ⟨shared, rfl, by rw [hname, shared.terminated]⟩

theorem resolve_eq_none_iff :
    (resolve gw client packet.topic).2 = none ↔
      client.topics.getTopicById packet.topic = none ∧
        ((gw.topics.getTopicById packet.topic).isSome → MAX_TOPIC_PAR_CLIENT ≤ client.topics.cnt) := by
  unfold resolve
  cases hown : client.topics.getTopicById packet.topic with
  | some own => simp
  | none =>
    cases hshared : gw.topics.getTopicById packet.topic with
    | none => simp
    | some shared =>
      simp only [Option.isSome_some, forall_const, true_and]
      constructor
      · intro hnone
        by_contra hroom
        have hsome : (client.topics.addId shared.topicName shared.topicId).2.isSome :=
          Topics.addId_isSome hroom
        simp [hnone] at hsome
      · intro hfull
        rw [Topics.addId_full hfull]

theorem handlePublish_kept (h : KeptForProxy gw client) :
    forwarded (handlePublish gw client (some packet)) = [] := by
  simp only [handlePublish, h.1, h.2]
  rfl

theorem not_kept (h : ¬KeptForProxy gw client) :
    (!gw.qosm1ProxyActive && client.isQoSm1) = false := by
  simpa [KeptForProxy] using h

theorem handlePublish_short (hproxy : ¬KeptForProxy gw client) (hshort : packet.topic.type = .short) :
    forwarded (handlePublish gw client (some packet)) =
      [MQTTSNPublishHandler.translate packet packet.topic.data.shortField 2 (by decide)] := by
  simp only [handlePublish, not_kept hproxy, Bool.false_eq_true, if_false, hshort, if_true]
  exact forwarded_forward _

section Named

variable (hproxy : ¬KeptForProxy gw client) (hnamed : packet.topic.type ≠ .short)

include hproxy hnamed

theorem handlePublish_resolved {topic : Topic} (h : (resolve gw client packet.topic).2 = some topic) :
    forwarded (handlePublish gw client (some packet)) =
      [MQTTSNPublishHandler.translate packet topic.topicName.bytes topic.topicName.bytes.length
        topic.topicName.bounded] := by
  simp only [handlePublish, not_kept hproxy, Bool.false_eq_true, if_false, hnamed, h]
  exact forwarded_forward _

theorem handlePublish_refused (h : (resolve gw client packet.topic).2 = none)
    (hrefuse : Refusable packet) : forwarded (handlePublish gw client (some packet)) = [] := by
  simp only [handlePublish, not_kept hproxy, Bool.false_eq_true, if_false, hnamed, h]
  rcases hrefuse with hqos | hack
  · rw [if_pos hqos]
    rfl
  · rw [if_pos hack]
    split
    · rfl
    · rfl

theorem handlePublish_blank (h : (resolve gw client packet.topic).2 = none)
    (hrefuse : ¬Refusable packet) :
    forwarded (handlePublish gw client (some packet)) =
      [MQTTSNPublishHandler.translate packet [] 0 (by decide)] := by
  obtain ⟨hqos, hack⟩ := not_or.mp hrefuse
  simp only [handlePublish, not_kept hproxy, Bool.false_eq_true, if_false, hnamed, h, hqos, hack]
  exact forwarded_forward _

end Named

theorem forwards_of_empty (h : forwarded (handlePublish gw client (some packet)) = []) :
    ForwardsFaithfully gw client packet where
  translated := by simp [h]
  unregistered := fun _ _ _ => h

theorem forwards_short (hproxy : ¬KeptForProxy gw client) (hshort : packet.topic.type = .short) :
    ForwardsFaithfully gw client packet where
  translated := by
    rw [handlePublish_short hproxy hshort]
    intro publish hmem
    obtain rfl := List.mem_singleton.mp hmem
    have hlen : packet.topic.data.shortField.length = 2 := by cases packet.topic.data <;> rfl
    refine ⟨packet.topic.data.shortField, by simp [RegisteredName, hshort], ?_⟩
    have hcarries := carries_translate packet (by decide : 2 < 65536) hlen.ge
    rwa [List.take_of_length_le hlen.le] at hcarries
  unregistered := fun hnamed => absurd hshort hnamed

theorem forwards_resolved (hproxy : ¬KeptForProxy gw client) (hnamed : packet.topic.type ≠ .short)
    {topic : Topic} (h : (resolve gw client packet.topic).2 = some topic) :
    ForwardsFaithfully gw client packet where
  translated := by
    rw [handlePublish_resolved hproxy hnamed h]
    intro publish hmem
    obtain rfl := List.mem_singleton.mp hmem
    obtain ⟨known, hknown, hname⟩ := resolve_name (Prod.ext rfl h)
    refine ⟨topic.topicName.bytes, ?_, ?_⟩
    · rw [RegisteredName, if_neg hnamed]
      exact ⟨known, hknown, by rw [hname]⟩
    · have hcarries := carries_translate packet topic.topicName.bounded le_rfl
      rwa [List.take_length] at hcarries
  unregistered := by
    intro _ hown hshared
    have hnone : (resolve gw client packet.topic).2 = none :=
      resolve_eq_none_iff.mpr ⟨hown, by simp [hshared]⟩
    simp [h] at hnone

section Blank

variable (hproxy : ¬KeptForProxy gw client) (hnamed : packet.topic.type ≠ .short)
  (h : (resolve gw client packet.topic).2 = none) (hrefuse : ¬Refusable packet)

include hproxy hnamed h hrefuse

theorem blank_carries :
    ∃ publish, forwarded (handlePublish gw client (some packet)) = [publish] ∧
      Carries packet [] publish :=
  ⟨_, handlePublish_blank hproxy hnamed h hrefuse, carries_translate packet _ (Nat.zero_le _)⟩

theorem forwards_blank {topic : Topic} (hshared : gw.topics.getTopicById packet.topic = some topic)
    (hblank : topic.topicName.bytes = []) : ForwardsFaithfully gw client packet := by
  obtain ⟨publish, hforwarded, hcarries⟩ := blank_carries hproxy hnamed h hrefuse
  obtain ⟨hown, -⟩ := resolve_eq_none_iff.mp h
  refine ⟨?_, by simp [hshared]⟩
  rw [hforwarded]
  intro sent hsent
  obtain rfl := List.mem_singleton.mp hsent
  refine ⟨[], ?_, hcarries⟩
  rw [RegisteredName, if_neg hnamed, hown, Option.none_or]
  exact ⟨topic, hshared, hblank⟩

theorem blank_unfaithful
    (hblank : ∀ topic, gw.topics.getTopicById packet.topic = some topic → topic.topicName.bytes ≠ []) :
    ¬ForwardsFaithfully gw client packet := by
  intro hforwards
  obtain ⟨publish, hforwarded, hcarries⟩ := blank_carries hproxy hnamed h hrefuse
  obtain ⟨hown, -⟩ := resolve_eq_none_iff.mp h
  obtain ⟨name, hname, hsent⟩ := hforwards.translated publish (by simp [hforwarded])
  rw [RegisteredName, if_neg hnamed, hown, Option.none_or] at hname
  obtain ⟨topic, htopic, rfl⟩ := hname
  apply hblank topic htopic
  rw [← hsent.topic, hcarries.topic]

end Blank

theorem resolvable_of_resolved {topic : Topic} (h : (resolve gw client packet.topic).2 = some topic) :
    Resolvable gw client packet := by
  by_contra hunresolvable
  simp only [Resolvable, not_or, not_exists, not_and, Option.not_isSome_iff_eq_none] at hunresolvable
  obtain ⟨-, hown, hshared⟩ := hunresolvable
  have hnone : (resolve gw client packet.topic).2 = none := by
    apply resolve_eq_none_iff.mpr
    refine ⟨hown, fun hsome => ?_⟩
    obtain ⟨shared, hfound⟩ := Option.isSome_iff_exists.mp hsome
    exact UInt8.not_lt.mp (hshared shared hfound).1
  simp [h] at hnone

theorem resolvable_unresolved (hnamed : packet.topic.type ≠ .short)
    (h : (resolve gw client packet.topic).2 = none) (hresolvable : Resolvable gw client packet) :
    ∃ topic, gw.topics.getTopicById packet.topic = some topic ∧ topic.topicName.bytes = [] := by
  obtain ⟨hown, hfull⟩ := resolve_eq_none_iff.mp h
  rcases hresolvable with hshort | hsome | ⟨topic, hshared, hroom | hblank⟩
  · exact absurd hshort hnamed
  · simp [hown] at hsome
  · exact absurd hroom (UInt8.not_lt.mpr (hfull (by simp [hshared])))
  · exact ⟨topic, hshared, hblank⟩

end Forward

theorem publish_forwarded_iff (gw : Gateway) (client : Client) (packet : SNPublish) :
    ForwardsFaithfully gw client packet ↔
      KeptForProxy gw client ∨ Resolvable gw client packet ∨ Refusable packet := by
  by_cases hproxy : KeptForProxy gw client
  · exact iff_of_true (forwards_of_empty (handlePublish_kept hproxy)) (.inl hproxy)
  by_cases hshort : packet.topic.type = .short
  · exact iff_of_true (forwards_short hproxy hshort) (.inr (.inl (.inl hshort)))
  cases hresolved : (resolve gw client packet.topic).2 with
  | some topic =>
    exact iff_of_true (forwards_resolved hproxy hshort hresolved)
      (.inr (.inl (resolvable_of_resolved hresolved)))
  | none =>
    by_cases hrefuse : Refusable packet
    · exact iff_of_true (forwards_of_empty (handlePublish_refused hproxy hshort hresolved hrefuse))
        (.inr (.inr hrefuse))
    constructor
    · intro hforwards
      by_contra hcondition
      simp only [not_or] at hcondition
      apply blank_unfaithful hproxy hshort hresolved hrefuse ?_ hforwards
      intro topic hshared hblank
      exact hcondition.2.1 (.inr (.inr ⟨topic, hshared, .inr hblank⟩))
    · rintro (hkept | hresolvable | hrefused)
      · exact absurd hkept hproxy
      · obtain ⟨topic, hshared, hblank⟩ := resolvable_unresolved hshort hresolved hresolvable
        exact forwards_blank hproxy hshort hresolved hrefuse hshared hblank
      · exact absurd hrefused hrefuse

def plainGateway : Gateway := ⟨.initial, none, none, 4, false, false⟩

def unregisteredPublish : SNPublish :=
  ⟨false, .QOS0, false, 0, ⟨.predefined, .id 7⟩, [0x68, 0x69]⟩

theorem unregistered_forwarded :
    ¬ForwardsFaithfully plainGateway (.initial .regular [0x63] .initial) unregisteredPublish := by
  apply blank_unfaithful
  · simp [KeptForProxy, Client.isQoSm1, Client.initial]
  · decide
  · rfl
  · simp [Refusable, unregisteredPublish]
  · intro topic hfound
    simp [plainGateway, Topics.getTopicById, Topics.initial] at hfound

end MbedMqtt.MQTTSNGW
