import MbedMqtt.SNPacket.Subscribe

namespace MbedMqtt.MQTTSN

open MQTTSNGW

-- the topics a PUBLISH can name: with both QoS bits set a normal topic is a long name
inductive PublishTopic : QoS → TopicId → Prop
  | longName (name : TopicName) (address : Nat) :
    PublishTopic .reserved ⟨.normal, .long name address⟩
  | normal (qos : QoS) (id : UInt16) (h : qos ≠ .reserved) : PublishTopic qos ⟨.normal, .id id⟩
  | predefined (qos : QoS) (id : UInt16) : PublishTopic qos ⟨.predefined, .id id⟩
  | short (qos : QoS) (first second : UInt8) :
    PublishTopic qos ⟨.short, .shortName first second⟩

theorem toInt_eq_three {qos : QoS} : qos.toInt = 3 ↔ qos = .reserved := by
  cases qos <;> decide

theorem flags_eq_flagsByte (packet : SNPublish) :
    packet.flags = flagsByte packet.topic.type.bits 0 0 packet.retained.toNat packet.qos.toInt
      packet.dup.toNat := by
  have htype := packet.topic.type.bits_lt
  have hretained := packet.retained.toNat_lt
  have hqos := packet.qos.toInt_lt
  have hdup := packet.dup.toNat_lt
  refine congrArg UInt8.ofNat ?_
  omega

theorem readDup_eq {bitsSigned dup : Bool} :
    readDup bitsSigned dup = readDup false dup ↔ dup = false ∨ bitsSigned = false := by
  cases dup <;> cases bitsSigned <;> decide

def publishView (packet : SNPublish) : PublishFields (Option Bytes) :=
  ⟨readDup false packet.dup, packet.qos.toInt, packet.retained.toNat, packet.msgId.toNat,
    packet.topic.type, topicView packet.topic, some packet.payload⟩

def subscribeView (packet : SNSubscribe) : SubscribeFields (Option Bytes) :=
  ⟨readDup false packet.dup, packet.qos.toInt, packet.msgId.toNat, packet.topicFilter.type,
    topicView packet.topicFilter⟩

def topicLength (topic : TopicId) : ReadTopic Nat :=
  match topic.data with
  | .id value => .id value.toNat
  | .shortName first second => .shortName first second
  | .long name _ => .long name.bytes.length

section Read

variable {mem : Int → UInt8} {curdata enddata : Int} {bitsSigned : Bool}

theorem body_laidOut {packet : SNPublish} (h : LaidOut mem curdata packet.body) :
    mem curdata = packet.flags ∧ LaidOut mem (curdata + 1) packet.topicField ∧
      LaidOut mem (curdata + 3) (writeInt packet.msgId.toNat) ∧
      LaidOut mem (curdata + 5) packet.longTopic ∧
      LaidOut mem (curdata + 5 + packet.longTopic.length) packet.payload := by
  rw [SNPublish.body, LaidOut.cons, LaidOut.append, LaidOut.append, LaidOut.append] at h
  simp only [List.length_append, topicField_length, writeInt_length, Nat.cast_add, Nat.cast_ofNat,
    Int.add_assoc] at h
  obtain ⟨hflags, ⟨⟨htopic, hmsgId⟩, hlong⟩, hpayload⟩ := h
  refine ⟨hflags, htopic, hmsgId, hlong, ?_⟩
  convert hpayload using 1
  omega

theorem readTopicField_laidOut {packet : SNPublish} (htopic : PublishTopic packet.qos packet.topic)
    (h : LaidOut mem curdata packet.topicField) :
    (readTopicField packet.topic.type packet.qos.toInt curdata).value mem =
      topicLength packet.topic := by
  obtain ⟨dup, qos, retained, msgId, topic, payload⟩ := packet
  simp only [readTopicField, Fetch.value_ite, Fetch.value_bind, Fetch.value_item,
    Fetch.value_pure, toInt_eq_three]
  cases htopic with
  | longName name address =>
    have hlen := readInt_laidOut (n := name.bytes.length) h
    rw [if_pos ⟨rfl, rfl⟩, hlen, Nat.mod_eq_of_lt name.bounded, topicLength]
  | normal qos id hqos =>
    have hnot : ¬(TopicType.normal = .normal ∧ qos = .reserved) := fun hlong => hqos hlong.2
    rw [SNPublish.topicField, if_neg hnot, if_pos (.inl rfl)] at h
    rw [if_neg hnot, if_pos (.inl rfl), readInt_uint16 h, topicLength, TopicData.idField]
  | predefined qos id =>
    rw [SNPublish.topicField, if_neg (by simp), if_pos (.inr rfl)] at h
    rw [if_neg (by simp), if_pos (.inr rfl), readInt_uint16 h, topicLength, TopicData.idField]
  | short qos first second =>
    rw [SNPublish.topicField, if_neg (by simp), if_neg (by simp), TopicData.shortField,
      LaidOut.cons, LaidOut.cons] at h
    rw [if_neg (by simp), if_neg (by simp), h.1, h.2.1, topicLength]

theorem longTopic_strings {packet : SNPublish} (htopic : PublishTopic packet.qos packet.topic) :
    (topicLength packet.topic).strings.sum = packet.longTopic.length := by
  obtain ⟨dup, qos, retained, msgId, topic, payload⟩ := packet
  cases htopic with
  | longName name address => rfl
  | normal qos id hqos =>
    simp [topicLength, ReadTopic.strings, SNPublish.longTopic, hqos]
  | predefined qos id => rfl
  | short qos first second => rfl

theorem readPublish_laidOut {packet : SNPublish} (htopic : PublishTopic packet.qos packet.topic)
    (type : UInt8) (h : LaidOut mem curdata packet.body) :
    (readPublish bitsSigned type curdata enddata).value mem =
      some ⟨readDup bitsSigned packet.dup, packet.qos.toInt, packet.retained.toNat,
        packet.msgId.toNat, packet.topic.type,
        (topicLength packet.topic).map fun (len : Nat) => ⟨curdata + 5, len⟩,
        ⟨curdata + 5 + packet.longTopic.length,
          enddata - (curdata + 5 + packet.longTopic.length)⟩⟩ := by
  obtain ⟨hflags, hfield, hmsgId, hlong, -⟩ := body_laidOut h
  rw [flags_eq_flagsByte] at hflags
  simp only [readPublish, Fetch.value_bind, Fetch.value_item, Fetch.value_pure, hflags,
    flagsTopicIdType_flagsByte, flagsQoS_toInt, flagsRetain_toNat, flagsDup_toNat,
    readInt_uint16 hmsgId, readTopicField_laidOut htopic hfield, longTopic_strings htopic]

theorem topicLength_items {packet : SNPublish} (htopic : PublishTopic packet.qos packet.topic)
    (h : LaidOut mem curdata packet.longTopic) :
    ((topicLength packet.topic).map fun (len : Nat) => Slice.mk curdata len).map
      (Slice.items mem) = topicView packet.topic := by
  obtain ⟨dup, qos, retained, msgId, topic, payload⟩ := packet
  cases htopic with
  | longName name address => exact congrArg ReadTopic.long (Slice.items_laidOut h)
  | normal | predefined | short => rfl

theorem publish_returns_iff {packet : SNPublish} (htopic : PublishTopic packet.qos packet.topic)
    (hmax : snPacketLen packet.length ≤ 65535)
    (hmem : LaidOut mem 0 (wire MQTTSN_PUBLISH packet.length packet.body)) :
    Returns mem (PublishFields.map (Slice.items mem)) (publishView packet)
        (deserializePublish bitsSigned (wire MQTTSN_PUBLISH packet.length packet.body).length) ↔
      (packet.dup = false ∨ bitsSigned = false) ∧ packet.length ≠ 255 := by
  have htotal := wire_total MQTTSN_PUBLISH (publish_body_length packet)
  have hlength : packet.length = packet.payload.length + (6 + packet.longTopic.length) := rfl
  have hframed := framed_wire (by omega) hmax hmem
  obtain ⟨-, -, -, hlong, hpayload⟩ := body_laidOut hframed.body
  rw [htotal, deserializePublish, hframed.returns_iff (by omega)
    (withinBuflen_wire _ (Nat.cast_add ..)) rfl (readPublish_laidOut htopic _ hframed.body)]
  simp only [PublishFields.map, publishView, PublishFields.mk.injEq, topicLength_items htopic hlong,
    Slice.items_eq_iff hpayload, readDup_eq, true_and]
  refine and_congr_right fun _ => ?_
  rw [← total_eq_snPacketLen]
  omega

end Read

section Subscribe

variable {mem : Int → UInt8} {bitsSigned : Bool}

def subscribeBody (packet : SNSubscribe) : Bytes :=
  flagsByte packet.topicFilter.type.bits 0 0 0 packet.qos.toInt packet.dup.toNat ::
    (writeInt packet.msgId.toNat ++ topicFilterBytes packet.topicFilter)

theorem subscribe_body_length {packet : SNSubscribe} (hfilter : IsFilter packet.topicFilter) :
    (subscribeBody packet).length + 1 = topicFilterLength packet.topicFilter := by
  rw [← topicFilter_length hfilter, subscribeBody, List.length_cons, List.length_append,
    writeInt_length]
  omega

theorem normal_of_length_eq {topicFilter : TopicId} (h : topicFilterLength topicFilter = 255) :
    topicFilter.type = .normal := by
  obtain ⟨type, data⟩ := topicFilter
  cases type with
  | normal => rfl
  | predefined | short | reserved => cases h

theorem subscribe_returns_iff {packet : SNSubscribe} (hfilter : IsFilter packet.topicFilter)
    (hmax : snPacketLen (topicFilterLength packet.topicFilter) ≤ 65535)
    (hmem : LaidOut mem 0
      (wire MQTTSN_SUBSCRIBE (topicFilterLength packet.topicFilter) (subscribeBody packet))) :
    Returns mem (SubscribeFields.map (Slice.items mem)) (subscribeView packet)
        (deserializeSubscribe bitsSigned (wire MQTTSN_SUBSCRIBE
          (topicFilterLength packet.topicFilter) (subscribeBody packet)).length) ↔
      (packet.dup = false ∨ bitsSigned = false) ∧ topicFilterLength packet.topicFilter ≠ 255 := by
  have hlength := topicFilter_length hfilter
  have htotal := wire_total MQTTSN_SUBSCRIBE (subscribe_body_length hfilter)
  have hframed := framed_wire (by omega) hmax hmem
  have hbody := hframed.body
  rw [subscribeBody, LaidOut.cons, writeInt_append_laidOut, Int.add_assoc _ 1 2] at hbody
  obtain ⟨-, -, htopic⟩ := hbody
  rw [htotal, deserializeSubscribe, hframed.returns_iff (by omega)
    (withinBuflen_wire _ (Nat.cast_add ..)) rfl (readSubscribe_laidOut bitsSigned _ hframed.body)]
  have hfield := total_eq_snPacketLen (topicFilterLength packet.topicFilter)
  have hitems := readTopicFilter_iff (snPacketLen (topicFilterLength packet.topicFilter)) hfilter
    htopic
  simp only [SubscribeFields.map, subscribeView, SubscribeFields.mk.injEq, readDup_eq, true_and]
  refine and_congr_right fun _ => hitems.trans ?_
  constructor
  · intro h hlong
    have hend := h (normal_of_length_eq hlong)
    exact hfield.mp (by omega) hlong
  · intro hshort _
    have hend := hfield.mpr hshort
    omega

end Subscribe

def PublishRoundTrips (bitsSigned : Bool) (buflen : Nat) (packet : SNPublish) : Prop :=
  RoundTrips (MQTTSNGW.serializePublish buflen packet) fun mem rc =>
    Returns mem (PublishFields.map (Slice.items mem)) (publishView packet)
      (deserializePublish bitsSigned rc)

def SubscribeRoundTrips (bitsSigned : Bool) (buflen : Nat) (packet : SNSubscribe) : Prop :=
  RoundTrips (serializeSubscribe buflen packet) fun mem rc =>
    Returns mem (SubscribeFields.map (Slice.items mem)) (subscribeView packet)
      (deserializeSubscribe bitsSigned rc)

theorem publishRoundTrips_iff (bitsSigned : Bool) (buflen : Nat) {packet : SNPublish}
    (htopic : PublishTopic packet.qos packet.topic) (hmax : snPacketLen packet.length ≤ 65535) :
    PublishRoundTrips bitsSigned buflen packet ↔
      buflen < snPacketLen packet.length ∨
        (packet.dup = false ∨ bitsSigned = false) ∧ packet.length ≠ 255 :=
  roundTrips_serialize_iff fun _ _ hmem => publish_returns_iff htopic hmax hmem

theorem subscribeRoundTrips_iff (bitsSigned : Bool) (buflen : Nat) {packet : SNSubscribe}
    (hfilter : IsFilter packet.topicFilter)
    (hmax : snPacketLen (topicFilterLength packet.topicFilter) ≤ 65535) :
    SubscribeRoundTrips bitsSigned buflen packet ↔
      buflen < snPacketLen (topicFilterLength packet.topicFilter) ∨
        (packet.dup = false ∨ bitsSigned = false) ∧ topicFilterLength packet.topicFilter ≠ 255 :=
  roundTrips_serialize_iff fun _ _ hmem => subscribe_returns_iff hfilter hmax hmem

theorem publish_and_subscribe_roundTrip (bitsSigned : Bool) (buflen : Nat) :
    (∀ packet : SNPublish, PublishTopic packet.qos packet.topic →
      snPacketLen packet.length ≤ 65535 →
      (PublishRoundTrips bitsSigned buflen packet ↔
        buflen < snPacketLen packet.length ∨
          (packet.dup = false ∨ bitsSigned = false) ∧ packet.length ≠ 255)) ∧
    (∀ packet : SNSubscribe, IsFilter packet.topicFilter →
      snPacketLen (topicFilterLength packet.topicFilter) ≤ 65535 →
      (SubscribeRoundTrips bitsSigned buflen packet ↔
        buflen < snPacketLen (topicFilterLength packet.topicFilter) ∨
          (packet.dup = false ∨ bitsSigned = false) ∧
            topicFilterLength packet.topicFilter ≠ 255)) :=
  ⟨fun _ => publishRoundTrips_iff bitsSigned buflen,
    fun _ => subscribeRoundTrips_iff bitsSigned buflen⟩

theorem publish_and_subscribe_roundTrip_first :
    PublishRoundTrips true 20 ⟨false, .QOS1, true, 1, ⟨.normal, .id 7⟩, [97, 98]⟩ :=
  (((publish_and_subscribe_roundTrip true 20).1 _ (.normal _ _ (by decide)) (by decide)).mpr
    (.inr (by decide)))

def payloadOf249 : SNPublish :=
  ⟨false, .QOS1, false, 1, ⟨.normal, .id 7⟩, List.replicate 249 97⟩

theorem payloadOf249_not_roundTrip :
    ¬∀ bitsSigned, PublishRoundTrips bitsSigned 300 payloadOf249 := by
  intro h
  have hlength : payloadOf249.length = 255 := by
    rw [SNPublish.length, payloadOf249, List.length_replicate]
    rfl
  have htopic : PublishTopic payloadOf249.qos payloadOf249.topic := .normal _ _ (by decide)
  have htrip := (publishRoundTrips_iff false 300 htopic (by rw [hlength]; decide)).mp (h false)
  rw [hlength] at htrip
  exact absurd htrip (by decide)

end MbedMqtt.MQTTSN
