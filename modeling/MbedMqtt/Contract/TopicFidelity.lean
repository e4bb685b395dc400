import MbedMqtt.Contract.SNPublishCodec
import MbedMqtt.Contract.TranslationSize
import MbedMqtt.Gateway.TopicTable

namespace MbedMqtt.MQTTSNGW

-- the name a client takes a topic of a PUBLISH for, with the ids of its table
def resolveTopic (topics : Topics) (type : TopicType) :
    MQTTSN.ReadTopic (Option Bytes) → Option Bytes
  | .id value => (topics.getTopicById ⟨type, .id (UInt16.ofNat value)⟩).map (·.topicName.bytes)
  | .shortName first second => some [first, second]
  | .long name => name
  | .untouched => none

structure ResolvedPublish where
  qos : Nat
  retained : Nat
  msgId : Nat
  topic : Option Bytes
  payload : Option Bytes
  deriving DecidableEq, Repr

def received (topics : Topics) (mem : Int → UInt8) (fields : MQTTSN.PublishFields Slice) :
    ResolvedPublish where
  qos := fields.qos
  retained := fields.retained
  msgId := fields.packetid
  topic := resolveTopic topics fields.type (fields.topic.map (Slice.items mem))
  payload := fields.payload.items mem

def WirePublish.sent (message : WirePublish) : ResolvedPublish where
  qos := message.pub.qos
  retained := headerRetain message.pub.header
  msgId := message.pub.msgId
  topic := some message.pub.name.bytes
  payload := some message.pub.payload

def ReceivedAs (stack : Nat → UInt8) (bitsSigned : Bool) (topics : Topics) (message : WirePublish)
    (packet : SNPublish) : Prop :=
  let datagram := desirialize stack (serializePublish MQTTSNGW_MAX_PACKET_SIZE packet)
  ∀ mem, LaidOut mem 0 datagram →
    MQTTSN.Returns mem (received topics mem) message.sent
      (MQTTSN.deserializePublish bitsSigned datagram.length)

-- the PUBLISH may wait for the REGACK of its topic
def TopicKept (client : Client) (message : WirePublish) : Prop :=
  ∀ handled, MQTTGWPublishHandler.handlePublish client message.packet = some handled →
    ∀ packet, .publish (some packet) ∈ built client handled →
      ∀ stack bitsSigned, ReceivedAs stack bitsSigned handled.client.topics message packet

def sends (client : Client) (pub : Publish) : Bool := known client pub || announces client pub

structure TopicFits (client : Client) (pub : Publish) : Prop where
  size : pub.payload.length ≤ 1015 ∧ pub.payload.length ≠ 249
  short : pub.topiclen ≠ 1
  registered : 2 < pub.topiclen → ∀ tp, client.topics.getTopicByName pub.name = some tp →
    client.topics.getTopicById ⟨tp.type, .id tp.topicId⟩ = some tp
  text : announces client pub = true → pub.name.cString = pub.name

theorem WirePublish.msgId_lt (message : WirePublish) : message.pub.msgId < 65536 := by
  simp only [pub, MQTTGWPacket.getPUBLISH]
  split_ifs
  · exact readInt_lt _ _
  · exact Nat.zero_lt_succ _

section Wire

variable {mem : Int → UInt8} {bitsSigned : Bool} {topics : Topics} {expected : ResolvedPublish}

def seen (topics : Topics) (packet : SNPublish) : ResolvedPublish where
  qos := packet.qos.toInt
  retained := packet.retained.toNat
  msgId := packet.msgId.toNat
  topic := resolveTopic topics packet.topic.type (MQTTSN.topicView packet.topic)
  payload := some packet.payload

theorem returns_received_iff {packet : SNPublish}
    (htopic : MQTTSN.PublishTopic packet.qos packet.topic)
    (hmax : snPacketLen packet.length ≤ 65535)
    (hmem : LaidOut mem 0 (wire MQTTSN_PUBLISH packet.length packet.body))
    (hpayload : expected.payload = some packet.payload) :
    MQTTSN.Returns mem (received topics mem) expected
        (MQTTSN.deserializePublish bitsSigned
          (wire MQTTSN_PUBLISH packet.length packet.body).length) ↔
      packet.length ≠ 255 ∧ seen topics packet = expected := by
  obtain ⟨qos, retained, msgId, topic, payload⟩ := expected
  subst hpayload
  have htotal := MQTTSN.wire_total MQTTSN_PUBLISH (publish_body_length packet)
  have hlength : packet.length = packet.payload.length + (6 + packet.longTopic.length) := rfl
  have hframed := MQTTSN.framed_wire (by omega) hmax hmem
  obtain ⟨-, -, -, hlong, hpayload⟩ := MQTTSN.body_laidOut hframed.body
  rw [htotal, MQTTSN.deserializePublish, hframed.returns_iff (by omega)
    (MQTTSN.withinBuflen_wire _ (Nat.cast_add ..)) rfl
    (MQTTSN.readPublish_laidOut htopic _ hframed.body)]
  simp only [received, seen, ResolvedPublish.mk.injEq, MQTTSN.topicLength_items htopic hlong,
    Slice.items_eq_iff hpayload, and_true]
  rw [← MQTTSN.total_eq_snPacketLen]
  constructor
  · rintro ⟨hqos, hretained, hmsgId, hresolved, hsize⟩
    exact ⟨by omega, hqos, hretained, hmsgId, hresolved⟩
  · rintro ⟨hsize, hqos, hretained, hmsgId, hresolved⟩
    exact ⟨hqos, hretained, hmsgId, hresolved, by omega⟩

theorem returned_payload_le {buflen : Int} {payload : Bytes}
    (h : MQTTSN.Returns mem (received topics mem) expected
      (MQTTSN.deserializePublish bitsSigned buflen)) (hpayload : expected.payload = some payload) :
    (payload.length : Int) ≤ buflen := by
  obtain ⟨-, hfields⟩ := h
  rw [MQTTSN.deserializePublish, MQTTSN.deserialize, Fetch.value_bind] at hfields
  generalize (MQTTSN.packetDecode buflen 0).value mem = length at hfields
  cases hadmits : MQTTSN.withinBuflen length buflen with
  | false => simp [hadmits] at hfields
  | true =>
    rw [if_pos hadmits, Fetch.value_bind, Fetch.value_item] at hfields
    cases htype : MQTTSN.isType MQTTSN_PUBLISH (mem length.lenlen) with
    | false => simp [htype] at hfields
    | true =>
      rw [if_pos htype] at hfields
      simp only [MQTTSN.readPublish, Fetch.value_bind, Fetch.value_pure, Option.map_some,
        Option.some.injEq] at hfields
      rw [← hfields] at hpayload
      have hlen := Slice.len_eq_of_items hpayload
      simp only at hlen
      simp only [MQTTSN.withinBuflen, decide_eq_true_eq] at hadmits
      omega

end Wire

section Sent

variable {stack : Nat → UInt8} {bitsSigned : Bool} {topics : Topics}

def translation (pub : Publish) (topic : TopicId) : SNPublish where
  dup := headerDup pub.header = 1
  qos := .ofInt pub.qos
  retained := headerRetain pub.header = 1
  msgId := UInt16.ofNat pub.msgId
  topic := topic
  payload := pub.payload.take (pub.payloadlen % 65536).toNat

theorem snPublish_translation (pub : Publish) (topic : TopicId) :
    MQTTGWPublishHandler.snPublish pub topic = .publish (some (translation pub topic)) := rfl

theorem translation_length (message : WirePublish) (topic : TopicId) :
    (translation message.pub topic).length =
      (translation message.pub topic).payload.length + 6 := by
  rw [SNPublish.length, SNPublish.longTopic, if_neg (fun h => message.qos_ne h.2)]
  rfl

theorem translation_payload (message : WirePublish) (topic : TopicId)
    (h : message.pub.payload.length < 65536) :
    (translation message.pub topic).payload = message.pub.payload := by
  have hlen : (message.pub.payloadlen % 65536).toNat = message.pub.payload.length := by
    rw [message.payload_length]
    omega
  rw [translation, hlen, List.take_length]

theorem seen_translation (message : WirePublish) (topic : TopicId)
    (hpayload : (translation message.pub topic).payload = message.pub.payload) :
    seen topics (translation message.pub topic) = message.sent ↔
      resolveTopic topics topic.type (MQTTSN.topicView topic) =
        some message.pub.name.bytes := by
  have hqos : (QoS.ofInt message.pub.qos).toInt = message.pub.qos := by
    have hne := message.qos_ne
    have hlt : message.pub.qos < 4 := Nat.mod_lt _ (by decide)
    generalize message.pub.qos = qos at hne hlt
    match qos, hlt with
    | 0, _ => rfl
    | 1, _ => rfl
    | 2, _ => rfl
    | 3, _ => exact absurd rfl hne
  have hretain : (decide (headerRetain message.pub.header = 1)).toNat =
      headerRetain message.pub.header := by
    have hlt : headerRetain message.pub.header < 2 := Nat.mod_lt _ (by decide)
    generalize headerRetain message.pub.header = retain at hlt
    match retain, hlt with
    | 0, _ => rfl
    | 1, _ => rfl
  have hmsgId : (UInt16.ofNat message.pub.msgId).toNat = message.pub.msgId := by
    rw [UInt16.toNat_ofNat', Nat.mod_eq_of_lt message.msgId_lt]
  simp only [seen, WirePublish.sent, hpayload, ResolvedPublish.mk.injEq, and_true]
  constructor
  · rintro ⟨-, -, -, hresolved⟩
    exact hresolved
  · intro hresolved
    exact ⟨hqos, hretain, hmsgId, hresolved⟩

theorem desirialize_fits (stack : Nat → UInt8) {packet : SNPublish} (h : packet.length ≤ 1021) :
    desirialize stack (serializePublish MQTTSNGW_MAX_PACKET_SIZE packet) =
      wire MQTTSN_PUBLISH packet.length packet.body :=
  (faithful_of_fits (publish_body_length packet) h).2.1

theorem zeros_not_received {packet : SNPublish} (message : WirePublish)
    (h : ¬packet.length ≤ 1021) : ¬ReceivedAs (fun _ => 0) false topics message packet := by
  have hshort : serializePublish MQTTSNGW_MAX_PACKET_SIZE packet =
      ⟨MQTTSNPACKET_BUFFER_TOO_SHORT, []⟩ :=
    if_pos (Nat.lt_of_not_le fun hle => h (snPacketLen_le.mp hle))
  intro hreceived
  simp only [ReceivedAs, hshort] at hreceived
  have hreturns := hreceived (fun _ => 0) fun i hi => by simp [desirialize]
  rw [desirialize_tooShort] at hreturns
  exact absurd hreturns.1 (by decide)

theorem receivedAs_iff (topics : Topics) (message : WirePublish) {topic : TopicId}
    (htopic : MQTTSN.PublishTopic (.ofInt message.pub.qos) topic) :
    (∀ stack bitsSigned,
      ReceivedAs stack bitsSigned topics message (translation message.pub topic)) ↔
    (message.pub.payload.length ≤ 1015 ∧ message.pub.payload.length ≠ 249) ∧
      resolveTopic topics topic.type (MQTTSN.topicView topic) =
        some message.pub.name.bytes := by
  have hlength := translation_length message topic
  have hwire {mem : Int → UInt8} {bitsSigned : Bool}
      (hfit : (translation message.pub topic).length ≤ 1021)
      (hpayload : (translation message.pub topic).payload = message.pub.payload)
      (hmem : LaidOut mem 0 (wire MQTTSN_PUBLISH (translation message.pub topic).length
        (translation message.pub topic).body)) :
      MQTTSN.Returns mem (received topics mem) message.sent
          (MQTTSN.deserializePublish bitsSigned (wire MQTTSN_PUBLISH
            (translation message.pub topic).length (translation message.pub topic).body).length) ↔
        (translation message.pub topic).length ≠ 255 ∧
          seen topics (translation message.pub topic) = message.sent :=
    returns_received_iff htopic ((snPacketLen_le.mpr hfit).trans (by decide)) hmem
      (congrArg some hpayload.symm)
  constructor
  · intro hreceived
    have hfit : (translation message.pub topic).length ≤ 1021 :=
      by_contra fun h => zeros_not_received message h (hreceived _ _)
    have hreturns := hreceived (fun _ => 0) false
    simp only [ReceivedAs, desirialize_fits _ hfit] at hreturns
    have hmem := laidOut_memoryOf 0 (wire MQTTSN_PUBLISH (translation message.pub topic).length
      (translation message.pub topic).body)
    have hsmall : message.pub.payload.length < 65536 := by
      have hle := returned_payload_le (hreturns _ hmem) rfl
      rw [MQTTSN.wire_total _ (publish_body_length _), MQTTSN.lengthSize] at hle
      split_ifs at hle <;> omega
    have hpayload := translation_payload message topic hsmall
    obtain ⟨hlen, hseen⟩ := (hwire hfit hpayload hmem).mp (hreturns _ hmem)
    rw [hlength, hpayload] at hfit hlen
    exact ⟨⟨by omega, by omega⟩, (seen_translation message topic hpayload).mp hseen⟩
  · rintro ⟨⟨hsize, hlen⟩, hresolved⟩ stack bitsSigned
    have hpayload := translation_payload message topic (by omega)
    rw [hpayload] at hlength
    have hfit : (translation message.pub topic).length ≤ 1021 := by omega
    simp only [ReceivedAs, desirialize_fits _ hfit]
    intro mem hmem
    exact (hwire hfit hpayload hmem).mpr
      ⟨by omega, (seen_translation message topic hpayload).mpr hresolved⟩

end Sent

section Table

variable {topics : Topics} {name : TopicName}

theorem Topics.Built.kinds (h : topics.Built) :
    ∀ topic ∈ topics.list, topic.type = .normal ∨ topic.type = .predefined := by
  have haddId (topics : Topics) (name : TopicName) (id : UInt16)
      (hkinds : ∀ topic ∈ topics.list, topic.type = .normal ∨ topic.type = .predefined) :
      ∀ topic ∈ (topics.addId name id).1.list,
        topic.type = .normal ∨ topic.type = .predefined := by
    simp only [Topics.addId]
    split_ifs with hfull hid
    · exact hkinds
    · cases topics.getTopicByName name.cString with
      | some known => exact hkinds
      | none => exact List.forall_mem_append.mpr ⟨hkinds, by simp⟩
    · cases topics.getTopicByName name.cString with
      | some known => exact hkinds
      | none => exact List.forall_mem_append.mpr ⟨hkinds, by simp⟩
  induction h with
  | initial => simp [Topics.initial]
  | addId _ name id ih => exact haddId _ name id ih
  | add _ type name ih =>
    simp only [Topics.add]
    split_ifs with htype
    · exact ih
    · cases Topics.getTopicByName _ name with
      | some known => exact ih
      | none => exact haddId _ name 0 ih
  | eraseNormal _ ih => exact fun topic htopic => ih topic (List.mem_of_mem_filter htopic)

theorem resolveTopic_id (topics : Topics) (type : TopicType) (id : UInt16) :
    resolveTopic topics type (MQTTSN.topicView ⟨type, .id id⟩) =
      (topics.getTopicById ⟨type, .id id⟩).map (·.topicName.bytes) := by
  simp only [MQTTSN.topicView, resolveTopic, UInt16.ofNat_toNat]

theorem getTopicById_key {type : TopicType} {id : UInt16} {found : Topic}
    (h : topics.getTopicById ⟨type, .id id⟩ = some found) :
    found.type = type ∧ found.topicId = id := by
  have hfound := List.find?_some h
  exact of_decide_eq_true hfound

theorem resolveTopic_known {tp : Topic} (htp : topics.getTopicByName name = some tp) :
    resolveTopic topics tp.type (MQTTSN.topicView ⟨tp.type, .id tp.topicId⟩) = some name.bytes ↔
      topics.getTopicById ⟨tp.type, .id tp.topicId⟩ = some tp := by
  have hname := Topics.getTopicByName_name htp
  rw [resolveTopic_id]
  constructor
  · intro h
    obtain ⟨found, hfound, hbytes⟩ := Option.map_eq_some_iff.mp h
    obtain ⟨htype, hid⟩ := getTopicById_key hfound
    rw [hfound]
    obtain ⟨type, id, ⟨bytes, bounded⟩, terminated⟩ := found
    obtain ⟨type', id', ⟨bytes', bounded'⟩, terminated'⟩ := tp
    subst hname
    simp only at htype hid hbytes
    subst htype hid hbytes
    rfl
  · intro h
    rw [h, Option.map_some, hname]

theorem resolveTopic_added (hbuilt : topics.Built) (hnew : topics.getTopicByName name = none)
    {added : Topics} {topic : Topic} (hadd : topics.add .normal name = (added, some topic)) :
    resolveTopic added .normal (MQTTSN.topicView ⟨.normal, .id topic.topicId⟩) =
        some name.bytes ↔ name.cString = name := by
  rw [resolveTopic_id]
  constructor
  · intro h
    obtain ⟨found, -, hbytes⟩ := Option.map_eq_some_iff.mp h
    have hname : found.topicName = name := by
      obtain ⟨bytes, bounded⟩ := name
      obtain ⟨type, id, ⟨bytes', bounded'⟩, terminated⟩ := found
      subst hbytes
      rfl
    rw [← hname]
    exact found.terminated
  · intro htext
    obtain ⟨-, htype, -, hname, -⟩ := Topics.add_fresh hnew htext hadd
    have hsound : added.Sound := by
      have h : (topics.add .normal name).1.Sound := hbuilt.sound.add .normal
      rwa [hadd] at h
    have hmem : topic ∈ added.list := by
      have h : (topics.add .normal name).2 = some topic →
          topic ∈ (topics.add .normal name).1.list := Topics.add_mem
      rw [hadd] at h
      exact h rfl
    obtain ⟨found, hfound⟩ : ∃ found,
        added.getTopicById ⟨.normal, .id topic.topicId⟩ = some found :=
      Option.isSome_iff_exists.mp
        (List.find?_isSome.mpr ⟨topic, hmem, by simp [htype, TopicData.idField]⟩)
    obtain ⟨hfoundType, hfoundId⟩ := getTopicById_key hfound
    have hsame : found = topic :=
      hsound.normal_inj (List.mem_of_find?_eq_some hfound) hmem hfoundType htype hfoundId
    rw [hfound, hsame, Option.map_some, hname]

end Table

section Routes

variable {client : Client} {message : WirePublish}

theorem topicKept_of_built {handled : Handled} {topic : TopicId}
    (htopic : MQTTSN.PublishTopic (.ofInt message.pub.qos) topic)
    (hdone : MQTTGWPublishHandler.handlePublish client message.packet = some handled)
    (hbuilt : ∀ packet, .publish (some packet) ∈ built client handled ↔
      packet = translation message.pub topic) :
    TopicKept client message ↔
      (message.pub.payload.length ≤ 1015 ∧ message.pub.payload.length ≠ 249) ∧
        resolveTopic handled.client.topics topic.type (MQTTSN.topicView topic) =
          some message.pub.name.bytes := by
  rw [← receivedAs_iff handled.client.topics message htopic]
  constructor
  · intro h
    exact h handled hdone _ ((hbuilt _).mpr rfl)
  · intro h handled' hdone' packet hpacket
    obtain rfl := Option.some.inj (hdone.symm.trans hdone')
    rw [(hbuilt packet).mp hpacket]
    exact h

theorem built_toClient (client : Client) (pub : Publish) (topic : TopicId) (packet : SNPublish) :
    .publish (some packet) ∈
        built client (.toClient client (MQTTGWPublishHandler.snPublish pub topic)) ↔
      packet = translation pub topic := by
  simp [built, Handled.toClient, snPublish_translation]

theorem built_registered (client : Client) (pub : Publish) (topics : Topics) (id : UInt16)
    (packet : SNPublish) :
    .publish (some packet) ∈ built client (MQTTGWPublishHandler.register client pub topics id) ↔
      packet = translation pub ⟨.normal, .id id⟩ := by
  obtain ⟨msgId, hbuilt⟩ := built_register client pub topics id
  simp [hbuilt, snPublish_translation]

theorem short_name (message : WirePublish) (hpos : 1 ≤ message.pub.topiclen)
    (hshort : message.pub.topiclen ≤ 2) :
    some [byteAt message.pub.topic 0, byteAt message.pub.topic 1] =
        some message.pub.name.bytes ↔ message.pub.topiclen ≠ 1 := by
  have hlen := message.name_length
  rw [Option.some.injEq]
  constructor
  · intro h hone
    rw [← h, hone] at hlen
    simp at hlen
  · intro hne
    have htwo : message.pub.topiclen = 2 := by omega
    rw [htwo] at hlen
    have hbytes : message.pub.name.bytes = message.pub.topic.take 2 :=
      congrArg message.pub.topic.take htwo
    rw [hbytes] at hlen ⊢
    match htopic : message.pub.topic with
    | [] | [_] =>
      rw [htopic] at hlen
      simp at hlen
    | first :: second :: rest => rfl

theorem handlePublish_active (hactive : client.isActive = true) :
    MQTTGWPublishHandler.handlePublish client message.packet =
      MQTTGWPublishHandler.handleAwake client message.pub :=
  handlePublish_awake client message.packet (by simp [hactive])

theorem topicKept_short (hactive : client.isActive = true) (hpos : 1 ≤ message.pub.topiclen)
    (hshort : message.pub.topiclen ≤ 2) :
    TopicKept client message ↔ TopicFits client message.pub := by
  have hdone : MQTTGWPublishHandler.handlePublish client message.packet =
      some (.toClient client (MQTTGWPublishHandler.snPublish message.pub
        ⟨.short, .shortName (byteAt message.pub.topic 0) (byteAt message.pub.topic 1)⟩)) := by
    rw [handlePublish_active hactive]
    exact if_pos hshort
  have hannounces : announces client message.pub = false := by simp [announces, known, hshort]
  have hname := short_name message hpos hshort
  rw [topicKept_of_built (.short _ _ _) hdone (built_toClient client message.pub _)]
  constructor
  · rintro ⟨hsize, hresolved⟩
    refine ⟨hsize, hname.mp hresolved, fun hlong => absurd hlong (by omega), fun h => ?_⟩
    exact absurd (hannounces.symm.trans h) (by decide)
  · intro h
    exact ⟨h.size, hname.mpr h.short⟩

theorem topicKept_known (hactive : client.isActive = true) (hbuilt : client.topics.Built)
    (hlong : 2 < message.pub.topiclen) {tp : Topic}
    (htp : client.topics.getTopicByName message.pub.name = some tp) :
    TopicKept client message ↔ TopicFits client message.pub := by
  have hdone : MQTTGWPublishHandler.handlePublish client message.packet =
      some (.toClient client (MQTTGWPublishHandler.snPublish message.pub
        ⟨tp.type, .id tp.topicId⟩)) := by
    rw [handlePublish_active hactive]
    simp only [MQTTGWPublishHandler.handleAwake, if_neg (Nat.not_le.mpr hlong), htp]
  have htopic : MQTTSN.PublishTopic (.ofInt message.pub.qos) ⟨tp.type, .id tp.topicId⟩ := by
    rcases hbuilt.kinds tp (List.mem_of_find?_eq_some htp) with htype | htype
    · rw [htype]
      exact .normal _ _ message.qos_ne
    · rw [htype]
      exact .predefined _ _
  have hannounces : announces client message.pub = false := by simp [announces, known, htp]
  rw [topicKept_of_built htopic hdone (built_toClient client message.pub _)]
  have hresolve := resolveTopic_known htp
  constructor
  · rintro ⟨hsize, hresolved⟩
    refine ⟨hsize, by omega, fun _ tp' htp' => ?_, fun h => ?_⟩
    · obtain rfl := Option.some.inj (htp.symm.trans htp')
      exact hresolve.mp hresolved
    · exact absurd (hannounces.symm.trans h) (by decide)
  · intro h
    exact ⟨h.size, hresolve.mpr (h.registered hlong tp htp)⟩

theorem topicKept_announced (hactive : client.isActive = true) (hbuilt : client.topics.Built)
    (hannounces : announces client message.pub = true) :
    TopicKept client message ↔ TopicFits client message.pub := by
  have hsent := hannounces
  simp only [announces, known, Bool.and_eq_true, Bool.not_eq_true', Bool.or_eq_false_iff,
    decide_eq_false_iff_not, Option.isSome_eq_false_iff, Option.isNone_iff_eq_none] at hsent
  obtain ⟨⟨⟨hlong, hname⟩, hmatch⟩, hadd⟩ := hsent
  obtain ⟨filter, hfilter⟩ := Option.isSome_iff_exists.mp hmatch
  obtain ⟨topics, added, htopics⟩ : ∃ topics added,
      client.topics.add .normal message.pub.name = (topics, added) := ⟨_, _, rfl⟩
  cases added with
  | none => simp [htopics] at hadd
  | some topic =>
    have hid : topic.topicId ≠ 0 := by simpa [htopics] using hadd
    have hdone : MQTTGWPublishHandler.handlePublish client message.packet =
        some (MQTTGWPublishHandler.register client message.pub topics topic.topicId) := by
      rw [handlePublish_active hactive]
      simp only [MQTTGWPublishHandler.handleAwake, if_neg hlong, hname, hfilter, htopics, hid,
        ne_eq, not_false_eq_true, if_true]
    rw [topicKept_of_built (.normal _ _ message.qos_ne) hdone
      (built_registered client message.pub topics topic.topicId)]
    have hresolve := resolveTopic_added hbuilt hname htopics
    constructor
    · rintro ⟨hsize, hresolved⟩
      refine ⟨hsize, by omega, fun _ tp htp => ?_, fun _ => hresolve.mp hresolved⟩
      cases hname.symm.trans htp
    · intro h
      exact ⟨h.size, hresolve.mpr (h.text hannounces)⟩

theorem topicKept_silent (hactive : client.isActive = true)
    (hsends : sends client message.pub = false) : TopicKept client message := by
  intro handled hdone packet hpacket
  rw [handlePublish_active hactive] at hdone
  obtain ⟨hknown, hannounces⟩ := Bool.or_eq_false_iff.mp hsends
  rw [handleAwake_silent hknown hannounces hdone] at hpacket
  exact absurd hpacket List.not_mem_nil

end Routes

theorem broker_topic_kept_iff (client : Client) (message : WirePublish)
    (hbuilt : client.topics.Built) (hactive : client.isActive = true)
    (hnamed : 1 ≤ message.pub.topiclen) :
    TopicKept client message ↔
      (sends client message.pub = true → TopicFits client message.pub) := by
  cases hsends : sends client message.pub with
  | false => exact iff_of_true (topicKept_silent hactive hsends) fun h => absurd h (by decide)
  | true =>
    simp only [forall_const]
    rcases Nat.lt_or_ge 2 message.pub.topiclen with hlong | hshort
    · cases htp : client.topics.getTopicByName message.pub.name with
      | some tp => exact topicKept_known hactive hbuilt hlong htp
      | none =>
        have hknown : known client message.pub = false := by
          simp [known, htp, Nat.not_le.mpr hlong]
        rw [sends, hknown, Bool.false_or] at hsends
        exact topicKept_announced hactive hbuilt hsends
    · exact topicKept_short hactive hnamed hshort

def messageOnAb : WirePublish where
  packet := ⟨0x30, 5, [0, 2, 0x61, 0x62, 0x68]⟩
  publish := by decide
  qos := by decide
  complete := by decide
  framed := by decide
  bounded := by decide

theorem broker_topic_kept_two : TopicKept activeClient messageOnAb :=
  (broker_topic_kept_iff activeClient messageOnAb .initial rfl (by decide)).mpr fun _ =>
    ⟨by decide, by decide, fun h => absurd h (by decide), fun h => absurd h (by decide)⟩

def messageOnA : WirePublish where
  packet := ⟨0x30, 4, [0, 1, 0x61, 0x68]⟩
  publish := by decide
  qos := by decide
  complete := by decide
  framed := by decide
  bounded := by decide

theorem broker_topic_lengthened :
    MQTTGWPublishHandler.handlePublish activeClient messageOnA.packet =
      some (.toClient activeClient (.publish (some
        ⟨false, .QOS0, false, 0, ⟨.short, .shortName 0x61 0x68⟩, [0x68]⟩))) ∧
    messageOnA.pub.name.bytes = [0x61] ∧ ¬TopicKept activeClient messageOnA := by
  refine ⟨by rfl, by decide, fun h => ?_⟩
  have hfits := (topicKept_short rfl (by decide) (by decide)).mp h
  exact absurd hfits.short (by decide)

end MbedMqtt.MQTTSNGW
