import MbedMqtt.SNPacket.Publish

namespace MbedMqtt.MQTTSN

open MQTTSNGW

variable {σ τ : Type} {mem : Int → UInt8}

def topicFilterLength (topicFilter : TopicId) : Nat :=
  match topicFilter.type with
  | .normal => 4 + topicFilter.data.longField.length
  | .short | .predefined => 4 + 2
  | .reserved => 4

def topicFilterBytes (topicFilter : TopicId) : Bytes :=
  match topicFilter.type with
  | .normal => topicFilter.data.longField
  | .predefined => writeInt topicFilter.data.idField.toNat
  | .short => topicFilter.data.shortField
  | .reserved => []

def readTopicFilter (type : TopicType) (curdata enddata : Int) : Fetch UInt8 (ReadTopic Slice) :=
  match type with
  | .normal => pure (.long ⟨curdata, enddata - curdata⟩)
  | .predefined => do
    let id ← readInt curdata
    pure (.id id)
  | .short => do
    let first ← Fetch.item curdata
    let second ← Fetch.item (curdata + 1)
    pure (.shortName first second)
  | .reserved => pure .untouched

structure SubscribeFields (σ : Type) where
  dup : UInt8
  qos : Nat
  packetid : Nat
  type : TopicType
  topicFilter : ReadTopic σ
  deriving DecidableEq, Repr

def SubscribeFields.map (f : σ → τ) (fields : SubscribeFields σ) : SubscribeFields τ :=
  ⟨fields.dup, fields.qos, fields.packetid, fields.type, fields.topicFilter.map f⟩

def serializeSubscribe (buflen : Nat) (packet : SNSubscribe) : Serialized :=
  serialize buflen MQTTSN_SUBSCRIBE (topicFilterLength packet.topicFilter)
    (flagsByte packet.topicFilter.type.bits 0 0 0 packet.qos.toInt packet.dup.toNat ::
      (writeInt packet.msgId.toNat ++ topicFilterBytes packet.topicFilter))

def readSubscribe (bitsSigned : Bool) (_ : UInt8) (curdata enddata : Int) :
    Fetch UInt8 (Option (SubscribeFields Slice)) := do
  let flags ← Fetch.item curdata
  let packetid ← readInt (curdata + 1)
  let topicFilter ← readTopicFilter (flagsTopicIdType flags) (curdata + 3) enddata
  pure (some ⟨flagsDup bitsSigned flags, flagsQoS flags, packetid, flagsTopicIdType flags,
    topicFilter⟩)

def deserializeSubscribe (bitsSigned : Bool) (buflen : Int) :
    Fetch UInt8 (Parsed (SubscribeFields Slice)) :=
  deserialize withinBuflen returnZero (isType MQTTSN_SUBSCRIBE) (readSubscribe bitsSigned) 0 buflen

structure SubackFields where
  qos : Nat
  topicid : Nat
  packetid : Nat
  returncode : UInt8
  deriving DecidableEq, Repr

def serializeSuback (buflen qos : Nat) (topicid packetid : UInt16) (returncode : UInt8) :
    Serialized :=
  serialize buflen MQTTSN_SUBACK 7
    (flagsByte 0 0 0 0 qos 0 :: topicAckBody topicid packetid returncode)

def readSuback (type : UInt8) (curdata enddata : Int) : Fetch UInt8 (Option SubackFields) := do
  let flags ← Fetch.item curdata
  let ack ← readTopicAck type (curdata + 1) enddata
  pure (ack.map fun ack => ⟨flagsQoS flags, ack.topicid, ack.packetid, ack.returncode⟩)

def deserializeSuback (buflen : Int) : Fetch UInt8 (Parsed SubackFields) :=
  deserialize withinBuflen returnZero (isType MQTTSN_SUBACK) readSuback 0 buflen

structure UnsubscribeFields (σ : Type) where
  packetid : Nat
  type : TopicType
  topicFilter : ReadTopic σ
  deriving DecidableEq, Repr

def UnsubscribeFields.map (f : σ → τ) (fields : UnsubscribeFields σ) : UnsubscribeFields τ :=
  ⟨fields.packetid, fields.type, fields.topicFilter.map f⟩

def serializeUnsubscribe (buflen : Nat) (packetid : UInt16) (topicFilter : TopicId) : Serialized :=
  serialize buflen MQTTSN_UNSUBSCRIBE (topicFilterLength topicFilter)
    (flagsByte topicFilter.type.bits 0 0 0 0 0 ::
      (writeInt packetid.toNat ++ topicFilterBytes topicFilter))

def readUnsubscribe (_ : UInt8) (curdata enddata : Int) :
    Fetch UInt8 (Option (UnsubscribeFields Slice)) := do
  let flags ← Fetch.item curdata
  let packetid ← readInt (curdata + 1)
  let topicFilter ← readTopicFilter (flagsTopicIdType flags) (curdata + 3) enddata
  pure (some ⟨packetid, flagsTopicIdType flags, topicFilter⟩)

def deserializeUnsubscribe (buflen : Int) :
    Fetch UInt8 (Parsed (UnsubscribeFields Slice)) :=
  deserialize withinBuflen returnZero (isType MQTTSN_UNSUBSCRIBE) readUnsubscribe 0 buflen

def serializeUnsuback (buflen : Nat) (packetid : UInt16) : Serialized :=
  serialize buflen MQTTSN_UNSUBACK 3 (writeInt packetid.toNat)

def readUnsuback (_ : UInt8) (curdata _ : Int) : Fetch UInt8 (Option Nat) := do
  let packetid ← readInt curdata
  pure (some packetid)

def deserializeUnsuback (buflen : Int) : Fetch UInt8 (Parsed Nat) :=
  deserialize withinBuflen returnZero (isType MQTTSN_UNSUBACK) readUnsuback 0 buflen

-- the topics a SUBSCRIBE or UNSUBSCRIBE can name: a normal one by its long name
inductive IsFilter : TopicId → Prop
  | normal (name : TopicName) (address : Nat) : IsFilter ⟨.normal, .long name address⟩
  | predefined (id : UInt16) : IsFilter ⟨.predefined, .id id⟩
  | short (first second : UInt8) : IsFilter ⟨.short, .shortName first second⟩

def topicView (topic : TopicId) : ReadTopic (Option Bytes) :=
  match topic.data with
  | .id value => .id value.toNat
  | .shortName first second => .shortName first second
  | .long name _ => .long (some name.bytes)

section LaidOut

variable {curdata enddata : Int} {topicid packetid : UInt16} {topicFilter : TopicId}

theorem readSuback_laidOut {qos : QoS} {returncode : UInt8} (type : UInt8)
    (h : LaidOut mem curdata
      (flagsByte 0 0 0 0 qos.toInt 0 :: topicAckBody topicid packetid returncode)) :
    (readSuback type curdata enddata).value mem =
      some ⟨qos.toInt, topicid.toNat, packetid.toNat, returncode⟩ := by
  obtain ⟨hflags, hack⟩ := LaidOut.cons.mp h
  simp only [readSuback, Fetch.value_bind, Fetch.value_item, Fetch.value_pure, hflags,
    readTopicAck_laidOut type enddata hack, flagsQoS_toInt, Option.map_some]

theorem topicFilter_length (h : IsFilter topicFilter) :
    (topicFilterBytes topicFilter).length + 4 = topicFilterLength topicFilter := by
  cases h
  · exact Nat.add_comm ..
  · rfl
  · rfl

theorem readTopicFilter_iff (enddata : Int) (hfilter : IsFilter topicFilter)
    (h : LaidOut mem curdata (topicFilterBytes topicFilter)) :
    ((readTopicFilter topicFilter.type curdata enddata).value mem).map (Slice.items mem) =
        topicView topicFilter ↔
      (topicFilter.type = .normal →
        enddata - curdata = (topicFilterBytes topicFilter).length) := by
  cases hfilter with
  | normal name address =>
    have hname : LaidOut mem curdata name.bytes := h
    have hitems := Slice.items_eq_iff hname (enddata - curdata)
    simpa [readTopicFilter, ReadTopic.map, topicView, topicFilterBytes, TopicData.longField] using
      hitems
  | predefined id =>
    simp only [readTopicFilter, Fetch.value_bind, Fetch.value_pure, ReadTopic.map, topicView]
    refine iff_of_true (congrArg ReadTopic.id (readInt_uint16 h)) ?_
    simp
  | short first second =>
    obtain ⟨hfirst, hrest⟩ := LaidOut.cons.mp h
    obtain ⟨hsecond, -⟩ := LaidOut.cons.mp hrest
    simp [readTopicFilter, ReadTopic.map, topicView, hfirst, hsecond]

theorem readTopicFilter_laidOut (hfilter : IsFilter topicFilter)
    (h : LaidOut mem curdata (topicFilterBytes topicFilter))
    (hend : curdata + (topicFilterBytes topicFilter).length = enddata) :
    ((readTopicFilter topicFilter.type curdata enddata).value mem).map (Slice.items mem) =
      topicView topicFilter :=
  (readTopicFilter_iff enddata hfilter h).mpr fun _ => by omega

theorem readUnsubscribe_laidOut (type : UInt8) (hfilter : IsFilter topicFilter)
    (h : LaidOut mem curdata (flagsByte topicFilter.type.bits 0 0 0 0 0 ::
      (writeInt packetid.toNat ++ topicFilterBytes topicFilter)))
    (hend : curdata + 3 + (topicFilterBytes topicFilter).length = enddata) :
    ((readUnsubscribe type curdata enddata).value mem).map
        (UnsubscribeFields.map (Slice.items mem)) =
      some ⟨packetid.toNat, topicFilter.type, topicView topicFilter⟩ := by
  rw [LaidOut.cons, writeInt_append_laidOut, Int.add_assoc] at h
  obtain ⟨hflags, hpacketid,
    (htopic : LaidOut mem (curdata + 3) (topicFilterBytes topicFilter))⟩ := h
  simp only [readUnsubscribe, Fetch.value_bind, Fetch.value_item, Fetch.value_pure, hflags,
    readInt_uint16 hpacketid, flagsTopicIdType_flagsByte, Option.map_some, UnsubscribeFields.map,
    readTopicFilter_laidOut hfilter htopic hend]

theorem readSubscribe_laidOut {packet : SNSubscribe} (bitsSigned : Bool) (type : UInt8)
    (h : LaidOut mem curdata
      (flagsByte packet.topicFilter.type.bits 0 0 0 packet.qos.toInt packet.dup.toNat ::
        (writeInt packet.msgId.toNat ++ topicFilterBytes packet.topicFilter))) :
    (readSubscribe bitsSigned type curdata enddata).value mem =
      some ⟨readDup bitsSigned packet.dup, packet.qos.toInt, packet.msgId.toNat,
        packet.topicFilter.type,
        (readTopicFilter packet.topicFilter.type (curdata + 3) enddata).value mem⟩ := by
  rw [LaidOut.cons, writeInt_append_laidOut] at h
  obtain ⟨hflags, hpacketid, -⟩ := h
  simp only [readSubscribe, Fetch.value_bind, Fetch.value_item, Fetch.value_pure, hflags,
    readInt_uint16 hpacketid, flagsTopicIdType_flagsByte, flagsQoS_toInt, flagsDup_toNat]

end LaidOut

end MbedMqtt.MQTTSN
