import MbedMqtt.Gateway.PacketBuffer

namespace MbedMqtt.MQTTSN

open MQTTSNGW

inductive IdType where
  | publish
  | puback
  | register
  | regack
  | pubrec
  | pubrel
  | pubcomp
  | subscribe
  | unsubscribe
  | suback
  | unsuback
  deriving DecidableEq, Repr

inductive Reported (σ : Type) where
  | publish (fields : PublishFields σ)
  | topicAck (fields : TopicAckFields)
  | register (fields : RegisterFields σ)
  | ack (fields : AckFields)
  | subscribe (fields : SubscribeFields σ)
  | unsubscribe (fields : UnsubscribeFields σ)
  | suback (fields : SubackFields)
  | unsuback (packetid : Nat)
  deriving DecidableEq, Repr

namespace Reported

variable {σ : Type}

def packetid : Reported σ → Nat
  | publish fields => fields.packetid
  | topicAck fields => fields.packetid
  | register fields => fields.packetid
  | ack fields => fields.packetid
  | subscribe fields => fields.packetid
  | unsubscribe fields => fields.packetid
  | suback fields => fields.packetid
  | unsuback packetid => packetid

def withPacketid (packetid : Nat) : Reported σ → Reported σ
  | publish fields => publish { fields with packetid := packetid }
  | topicAck fields => topicAck { fields with packetid := packetid }
  | register fields => register { fields with packetid := packetid }
  | ack fields => ack { fields with packetid := packetid }
  | subscribe fields => subscribe { fields with packetid := packetid }
  | unsubscribe fields => unsubscribe { fields with packetid := packetid }
  | suback fields => suback { fields with packetid := packetid }
  | unsuback _ => unsuback packetid

theorem packetid_withPacketid (packetid : Nat) (r : Reported σ) :
    (r.withPacketid packetid).packetid = packetid := by
  cases r <;> rfl

end Reported

namespace IdType

def code : IdType → UInt8
  | publish => MQTTSN_PUBLISH
  | puback => MQTTSN_PUBACK
  | register => MQTTSN_REGISTER
  | regack => MQTTSN_REGACK
  | pubrec => MQTTSN_PUBREC
  | pubrel => MQTTSN_PUBREL
  | pubcomp => MQTTSN_PUBCOMP
  | subscribe => MQTTSN_SUBSCRIBE
  | unsubscribe => MQTTSN_UNSUBSCRIBE
  | suback => MQTTSN_SUBACK
  | unsuback => MQTTSN_UNSUBACK

-- the types whose id the accessors look for behind the length field as it is
def Follows (type : IdType) : Prop := type ∈ [publish, subscribe, unsubscribe]

instance (type : IdType) : Decidable type.Follows := inferInstanceAs (Decidable (_ ∈ _))

-- where the parser finds the packet id, counted from behind the type byte
def idAfter : IdType → Nat
  | publish | suback => 3
  | puback | register | regack => 2
  | subscribe | unsubscribe => 1
  | pubrec | pubrel | pubcomp | unsuback => 0

variable (bitsSigned : Bool) (mem : Int → UInt8)

def reports (buflen : Int) : IdType → Option (Reported (Option Bytes))
  | publish => (((deserializePublish bitsSigned buflen).value mem).fields.map
      (PublishFields.map (Slice.items mem))).map .publish
  | puback => ((deserializePuback buflen).value mem).fields.map .topicAck
  | register => (((deserializeRegister buflen).value mem).fields.map
      (RegisterFields.map (Slice.items mem))).map .register
  | regack => ((deserializeRegack buflen).value mem).fields.map .topicAck
  | pubrec | pubrel | pubcomp => ((deserializeAck buflen).value mem).fields.map .ack
  | subscribe => (((deserializeSubscribe bitsSigned buflen).value mem).fields.map
      (SubscribeFields.map (Slice.items mem))).map .subscribe
  | unsubscribe => (((deserializeUnsubscribe buflen).value mem).fields.map
      (UnsubscribeFields.map (Slice.items mem))).map .unsubscribe
  | suback => ((deserializeSuback buflen).value mem).fields.map .suback
  | unsuback => ((deserializeUnsuback buflen).value mem).fields.map .unsuback

def expected : IdType → UInt8 → Bool
  | pubrec | pubrel | pubcomp => isAck
  | type => isType type.code

def read (byte : UInt8) (curdata enddata : Int) : IdType → Option (Reported (Option Bytes))
  | publish => (((readPublish bitsSigned byte curdata enddata).value mem).map
      (PublishFields.map (Slice.items mem))).map .publish
  | puback | regack => ((readTopicAck byte curdata enddata).value mem).map .topicAck
  | register => (((readRegister byte curdata enddata).value mem).map
      (RegisterFields.map (Slice.items mem))).map .register
  | pubrec | pubrel | pubcomp => ((readAck byte curdata enddata).value mem).map .ack
  | subscribe => (((readSubscribe bitsSigned byte curdata enddata).value mem).map
      (SubscribeFields.map (Slice.items mem))).map .subscribe
  | unsubscribe => (((readUnsubscribe byte curdata enddata).value mem).map
      (UnsubscribeFields.map (Slice.items mem))).map .unsubscribe
  | suback => ((readSuback byte curdata enddata).value mem).map .suback
  | unsuback => ((readUnsuback byte curdata enddata).value mem).map .unsuback

end IdType

theorem deserialize_fields {α : Type} {expected : UInt8 → Bool}
    {fields : UInt8 → Int → Int → Fetch UInt8 (Option α)} {mem : Int → UInt8}
    {uninitialised buflen : Int} (h : lengthFieldSize mem ≤ buflen) :
    ((deserialize withinBuflen returnZero expected fields uninitialised buflen).value mem).fields =
      if withinBuflen ⟨lengthFieldSize mem, lengthField mem⟩ buflen ∧
          expected (mem (lengthFieldSize mem)) then
        (fields (mem (lengthFieldSize mem)) (lengthFieldSize mem + 1) (lengthField mem)).value mem
      else none := by
  have hdecode : (packetDecode buflen uninitialised).value mem =
      ⟨lengthFieldSize mem, lengthField mem⟩ := packetDecode_value h
  cases hadmits : withinBuflen ⟨lengthFieldSize mem, lengthField mem⟩ buflen with
  | false => simp [deserialize, hdecode, hadmits]
  | true =>
    cases hexpected : expected (mem (lengthFieldSize mem)) with
    | false => simp [deserialize, hdecode, hadmits, hexpected]
    | true => simp [deserialize, hdecode, hadmits, hexpected]

variable {mem mem' : Int → UInt8} {buflen : Int}

theorem map_lift {α ρ : Type} (con : α → ρ) {f : α → α} {g : ρ → ρ} {x y : Option α}
    (hcon : ∀ a, con (f a) = g (con a)) (h : x = y.map f) : x.map con = (y.map con).map g := by
  rw [h, Option.map_map, Option.map_map]
  exact congrArg (fun k => y.map k) (funext hcon)

theorem IdType.reports_eq (bitsSigned : Bool) (type : IdType) (h : lengthFieldSize mem ≤ buflen) :
    type.reports bitsSigned mem buflen =
      if withinBuflen ⟨lengthFieldSize mem, lengthField mem⟩ buflen ∧
          type.expected (mem (lengthFieldSize mem)) then
        type.read bitsSigned mem (mem (lengthFieldSize mem)) (lengthFieldSize mem + 1)
          (lengthField mem)
      else none := by
  cases type
  all_goals
    simp only [IdType.reports, IdType.read, IdType.expected, IdType.code, deserializePublish,
      deserializePuback, deserializeRegister, deserializeRegack, deserializeAck,
      deserializeSubscribe, deserializeUnsubscribe, deserializeSuback, deserializeUnsuback,
      deserialize_fields h, apply_ite (Option.map _), Option.map_none]
    congr

-- the second memory is the first with the two bytes at `i` set to an id
structure Renumbered (mem mem' : Int → UInt8) (i : Int) (m : UInt16) : Prop where
  id : (readInt i).value mem' = m.toNat
  rest : ∀ j, j ≠ i → j ≠ i + 1 → mem' j = mem j

theorem renumbered_write (mem : Int → UInt8) (i : Int) (m : UInt16) :
    Renumbered mem (storeAll mem (PacketBuffer.writeMsgId i m)) i m where
  id := by
    apply readInt_uint16
    intro n hn
    match n, hn with
    | 0, _ => simp [storeAll, PacketBuffer.writeMsgId, writeInt]
    | 1, _ => simp [storeAll, PacketBuffer.writeMsgId, writeInt]
  rest := by
    intro j hfirst hsecond
    simp [storeAll, PacketBuffer.writeMsgId, hfirst, hsecond]

namespace Renumbered

variable {i j : Int} {m : UInt16}

theorem readInt (h : Renumbered mem mem' i m) (hj : j + 1 < i ∨ i + 1 < j) :
    (MQTTSN.readInt j).value mem' = (MQTTSN.readInt j).value mem := by
  simp only [MQTTSN.readInt, Fetch.value_bind, Fetch.value_item, Fetch.value_pure]
  rw [h.rest j (by omega) (by omega), h.rest (j + 1) (by omega) (by omega)]

theorem items (h : Renumbered mem mem' i m) {s : Slice} (hs : i + 1 < s.start) :
    Slice.items mem' s = Slice.items mem s := by
  simp only [Slice.items]
  split_ifs
  · congr 1
    refine List.map_congr_left ?_
    intro n _
    have hafter : i + 1 < s.start + (n : Int) := by omega
    exact h.rest _ (by omega) (by omega)
  · rfl

theorem lengthField (h : Renumbered mem mem' i m) (hi : lengthFieldSize mem < i) :
    lengthFieldSize mem' = lengthFieldSize mem ∧ MQTTSN.lengthField mem' = MQTTSN.lengthField mem ∧
      mem' (lengthFieldSize mem) = mem (lengthFieldSize mem) := by
  have hpos := lengthFieldSize_pos mem
  have hfirst : mem' 0 = mem 0 := h.rest 0 (by omega) (by omega)
  have hsize : lengthFieldSize mem' = lengthFieldSize mem := by
    rw [lengthFieldSize, hfirst, lengthFieldSize]
  refine ⟨hsize, ?_, h.rest _ (by omega) (by omega)⟩
  rw [MQTTSN.lengthField, MQTTSN.lengthField, hfirst]
  rw [lengthFieldSize] at hi
  split_ifs at hi ⊢
  · rw [h.readInt (by omega)]
  · rfl

end Renumbered

theorem ReadTopic.strings_map {σ τ : Type} (f : σ → τ) (topic : ReadTopic σ) :
    (topic.map f).strings = topic.strings.map f := by
  cases topic <;> rfl

theorem Renumbered.topic_items {i : Int} {m : UInt16} (h : Renumbered mem mem' i m)
    {topic : ReadTopic Slice} (htopic : ∀ s ∈ topic.strings, i + 1 < s.start) :
    topic.map (Slice.items mem') = topic.map (Slice.items mem) := by
  cases topic with
  | long name => exact congrArg ReadTopic.long (h.items (htopic name (List.mem_singleton_self name)))
  | id value => rfl
  | shortName first second => rfl
  | untouched => rfl

namespace Renumbered

variable {curdata : Int} {m : UInt16} (byte : UInt8) (enddata : Int)

theorem topicField (h : Renumbered mem mem' (curdata + 2) m) (type : TopicType) (qos : Nat) :
    (readTopicField type qos curdata).value mem' = (readTopicField type qos curdata).value mem := by
  simp only [readTopicField]
  split_ifs
  · simp only [Fetch.value_bind, Fetch.value_pure, h.readInt (by omega : curdata + 1 < _ ∨ _)]
  · simp only [Fetch.value_bind, Fetch.value_pure, h.readInt (by omega : curdata + 1 < _ ∨ _)]
  · simp only [Fetch.value_bind, Fetch.value_pure, Fetch.value_item,
      h.rest curdata (by omega) (by omega), h.rest (curdata + 1) (by omega) (by omega)]

theorem topicFilter (h : Renumbered mem mem' (curdata - 2) m) (type : TopicType) :
    ((readTopicFilter type curdata enddata).value mem').map (Slice.items mem') =
      ((readTopicFilter type curdata enddata).value mem).map (Slice.items mem) := by
  cases type with
  | normal => exact congrArg ReadTopic.long (h.items (by simp; omega))
  | predefined =>
    simp only [readTopicFilter, Fetch.value_bind, Fetch.value_pure,
      h.readInt (by omega : curdata + 1 < _ ∨ _)]
    rfl
  | short =>
    simp only [readTopicFilter, Fetch.value_bind, Fetch.value_pure, Fetch.value_item,
      h.rest curdata (by omega) (by omega), h.rest (curdata + 1) (by omega) (by omega)]
    rfl
  | reserved => rfl

theorem readPublish (h : Renumbered mem mem' (curdata + 3) m) (bitsSigned : Bool) :
    ((MQTTSN.readPublish bitsSigned byte curdata enddata).value mem').map
        (PublishFields.map (Slice.items mem')) =
      (((MQTTSN.readPublish bitsSigned byte curdata enddata).value mem).map
        (PublishFields.map (Slice.items mem))).map fun fields =>
          { fields with packetid := m.toNat } := by
  have hflags : mem' curdata = mem curdata := h.rest curdata (by omega) (by omega)
  have hafter : Renumbered mem mem' (curdata + 1 + 2) m := by rwa [Int.add_assoc]
  have htopic := hafter.topicField (flagsTopicIdType (mem curdata)) (flagsQoS (mem curdata))
  simp only [MQTTSN.readPublish, Fetch.value_bind, Fetch.value_item, Fetch.value_pure, hflags, h.id,
    htopic]
  generalize (readTopicField (flagsTopicIdType (mem curdata)) (flagsQoS (mem curdata))
    (curdata + 1)).value mem = topic
  have hname : (topic.map fun (len : Nat) => (⟨curdata + 5, len⟩ : Slice)).map (Slice.items mem') =
      (topic.map fun (len : Nat) => ⟨curdata + 5, len⟩).map (Slice.items mem) := by
    apply h.topic_items
    intro s hs
    rw [ReadTopic.strings_map] at hs
    obtain ⟨len, -, rfl⟩ := List.mem_map.mp hs
    simp only
    omega
  have hpayload : Slice.items mem' ⟨curdata + 5 + (topic.strings.sum : Nat),
        enddata - (curdata + 5 + (topic.strings.sum : Nat))⟩ =
      Slice.items mem ⟨curdata + 5 + (topic.strings.sum : Nat),
        enddata - (curdata + 5 + (topic.strings.sum : Nat))⟩ := by
    apply h.items
    simp only
    omega
  simp only [Option.map_some, PublishFields.map, hname, hpayload]

theorem readTopicAck (h : Renumbered mem mem' (curdata + 2) m) :
    (MQTTSN.readTopicAck byte curdata enddata).value mem' =
      ((MQTTSN.readTopicAck byte curdata enddata).value mem).map fun fields =>
        { fields with packetid := m.toNat } := by
  simp only [MQTTSN.readTopicAck, Fetch.value_bind, Fetch.value_item, Fetch.value_pure, h.id,
    h.readInt (by omega : curdata + 1 < _ ∨ _), h.rest (curdata + 4) (by omega) (by omega),
    Option.map_some]

theorem readRegister (h : Renumbered mem mem' (curdata + 2) m) :
    ((MQTTSN.readRegister byte curdata enddata).value mem').map
        (RegisterFields.map (Slice.items mem')) =
      (((MQTTSN.readRegister byte curdata enddata).value mem).map
        (RegisterFields.map (Slice.items mem))).map fun fields =>
          { fields with packetid := m.toNat } := by
  have hname : Slice.items mem' ⟨curdata + 4, enddata - (curdata + 4)⟩ =
      Slice.items mem ⟨curdata + 4, enddata - (curdata + 4)⟩ := by
    apply h.items
    simp only
    omega
  simp only [MQTTSN.readRegister, Fetch.value_bind, Fetch.value_pure, h.id,
    h.readInt (by omega : curdata + 1 < _ ∨ _), Option.map_some, RegisterFields.map, hname]

theorem readAck (h : Renumbered mem mem' curdata m) :
    (MQTTSN.readAck byte curdata enddata).value mem' =
      ((MQTTSN.readAck byte curdata enddata).value mem).map fun fields =>
        { fields with packetid := m.toNat } := by
  simp only [MQTTSN.readAck, Fetch.value_bind, Fetch.value_pure, h.id, Option.map_some]

theorem readSubscribe (h : Renumbered mem mem' (curdata + 1) m) (bitsSigned : Bool) :
    ((MQTTSN.readSubscribe bitsSigned byte curdata enddata).value mem').map
        (SubscribeFields.map (Slice.items mem')) =
      (((MQTTSN.readSubscribe bitsSigned byte curdata enddata).value mem).map
        (SubscribeFields.map (Slice.items mem))).map fun fields =>
          { fields with packetid := m.toNat } := by
  have hbefore : Renumbered mem mem' (curdata + 3 - 2) m := by rwa [Int.add_sub_assoc]
  have hflags : mem' curdata = mem curdata := h.rest curdata (by omega) (by omega)
  have hfilter : ((readTopicFilter (flagsTopicIdType (mem curdata)) (curdata + 3) enddata).value
      mem').map (Slice.items mem') = _ := hbefore.topicFilter enddata _
  simp only [MQTTSN.readSubscribe, Fetch.value_bind, Fetch.value_item, Fetch.value_pure, hflags, h.id,
    Option.map_some, SubscribeFields.map, hfilter]

theorem readUnsubscribe (h : Renumbered mem mem' (curdata + 1) m) :
    ((MQTTSN.readUnsubscribe byte curdata enddata).value mem').map
        (UnsubscribeFields.map (Slice.items mem')) =
      (((MQTTSN.readUnsubscribe byte curdata enddata).value mem).map
        (UnsubscribeFields.map (Slice.items mem))).map fun fields =>
          { fields with packetid := m.toNat } := by
  have hbefore : Renumbered mem mem' (curdata + 3 - 2) m := by rwa [Int.add_sub_assoc]
  have hflags : mem' curdata = mem curdata := h.rest curdata (by omega) (by omega)
  have hfilter : ((readTopicFilter (flagsTopicIdType (mem curdata)) (curdata + 3) enddata).value
      mem').map (Slice.items mem') = _ := hbefore.topicFilter enddata _
  simp only [MQTTSN.readUnsubscribe, Fetch.value_bind, Fetch.value_item, Fetch.value_pure, hflags,
    h.id, Option.map_some, UnsubscribeFields.map, hfilter]

theorem readSuback (h : Renumbered mem mem' (curdata + 3) m) :
    (MQTTSN.readSuback byte curdata enddata).value mem' =
      ((MQTTSN.readSuback byte curdata enddata).value mem).map fun fields =>
        { fields with packetid := m.toNat } := by
  have hafter : Renumbered mem mem' (curdata + 1 + 2) m := by rwa [Int.add_assoc]
  simp only [MQTTSN.readSuback, Fetch.value_bind, Fetch.value_item, Fetch.value_pure,
    h.rest curdata (by omega) (by omega), hafter.readTopicAck byte enddata]
  rfl

theorem read {type : IdType} (h : Renumbered mem mem' (curdata + type.idAfter) m)
    (bitsSigned : Bool) :
    type.read bitsSigned mem' byte curdata enddata =
      (type.read bitsSigned mem byte curdata enddata).map (Reported.withPacketid m.toNat) := by
  have hread (n : Nat) (hn : type.idAfter = n) : Renumbered mem mem' (curdata + n) m := hn ▸ h
  have hack (hn : type.idAfter = 0) : Renumbered mem mem' curdata m := by
    have hzero := hread 0 hn
    rwa [Int.natCast_zero, Int.add_zero] at hzero
  cases type with
  | publish => exact map_lift Reported.publish (fun _ => rfl) ((hread 3 rfl).readPublish byte enddata bitsSigned)
  | puback => exact map_lift Reported.topicAck (fun _ => rfl) ((hread 2 rfl).readTopicAck byte enddata)
  | register => exact map_lift Reported.register (fun _ => rfl) ((hread 2 rfl).readRegister byte enddata)
  | regack => exact map_lift Reported.topicAck (fun _ => rfl) ((hread 2 rfl).readTopicAck byte enddata)
  | pubrec => exact map_lift Reported.ack (fun _ => rfl) ((hack rfl).readAck byte enddata)
  | pubrel => exact map_lift Reported.ack (fun _ => rfl) ((hack rfl).readAck byte enddata)
  | pubcomp => exact map_lift Reported.ack (fun _ => rfl) ((hack rfl).readAck byte enddata)
  | subscribe => exact map_lift Reported.subscribe (fun _ => rfl) ((hread 1 rfl).readSubscribe byte enddata bitsSigned)
  | unsubscribe => exact map_lift Reported.unsubscribe (fun _ => rfl) ((hread 1 rfl).readUnsubscribe byte enddata)
  | suback => exact map_lift Reported.suback (fun _ => rfl) ((hread 3 rfl).readSuback byte enddata)
  | unsuback =>
    simp only [IdType.read, readUnsuback, Fetch.value_bind, Fetch.value_pure, (hack rfl).id]
    rfl

end Renumbered

theorem IdType.read_packetid (bitsSigned : Bool) (byte : UInt8) (curdata enddata : Int)
    (type : IdType) :
    ∃ r, type.read bitsSigned mem byte curdata enddata = some r ∧
      r.packetid = (readInt (curdata + type.idAfter)).value mem := by
  cases type
  all_goals
    simp only [IdType.read, IdType.idAfter, readPublish, readTopicAck, readRegister, readAck,
      readSubscribe, readUnsubscribe, readSuback, readUnsuback, Fetch.value_bind, Fetch.value_item,
      Fetch.value_pure, Option.map_some]
    refine ⟨_, rfl, ?_⟩
    simp [Reported.packetid, PublishFields.map, RegisterFields.map, SubscribeFields.map,
      UnsubscribeFields.map, Int.add_assoc]

-- a packet of `bufLen` bytes that begin at 0 and reach to the end of its packet id
structure IdentifiedPacket where
  type : IdType
  mem : Int → UInt8
  bufLen : Nat
  length : lengthField mem = bufLen
  typed : mem (lengthFieldSize mem) = type.code
  room : lengthFieldSize mem + 1 + type.idAfter + 2 ≤ bufLen

namespace IdentifiedPacket

variable (packet : IdentifiedPacket) (bitsSigned : Bool)

def getMsgId : Nat := (PacketBuffer.getMsgId packet.bufLen).value packet.mem

def setMsgId (m : UInt16) : Int → UInt8 :=
  storeAll packet.mem ((PacketBuffer.setMsgId packet.bufLen m).value packet.mem)

def AccessorsAgree : Prop :=
  ∃ r, packet.type.reports bitsSigned packet.mem packet.bufLen = some r ∧
    packet.getMsgId = r.packetid ∧
    ∀ m : UInt16, packet.type.reports bitsSigned (packet.setMsgId m) packet.bufLen =
      some (r.withPacketid m.toNat)

-- where the accessors look, the parsers at `lengthFieldSize + 1 + idAfter`
def accessed : Int :=
  if packet.type.Follows then lengthFieldSize packet.mem + 1 + packet.type.idAfter
  else 2 + packet.type.idAfter

theorem size_le : lengthFieldSize packet.mem ≤ packet.bufLen := by
  have hroom := packet.room
  omega

theorem decoded : (packetDecode packet.bufLen 0).value packet.mem =
    ⟨lengthFieldSize packet.mem, lengthField packet.mem⟩ := packetDecode_value packet.size_le

theorem getType_value : (PacketBuffer.getType packet.bufLen).value packet.mem = packet.type.code := by
  have hpos := lengthFieldSize_pos packet.mem
  have hroom := packet.room
  have hne : ¬(packet.bufLen : Int) = 0 := by omega
  simp only [PacketBuffer.getType, if_neg hne, Fetch.value_bind, packet.decoded, Fetch.value_item,
    packet.typed]

theorem getMsgId_eq : packet.getMsgId = (readInt packet.accessed).value packet.mem := by
  simp only [getMsgId, PacketBuffer.getMsgId, Fetch.value_bind, packet.getType_value,
    Fetch.value_ite, packet.decoded, accessed]
  cases packet.type
  all_goals simp +decide [IdType.idAfter, Int.add_assoc]

theorem setMsgId_eq (m : UInt16) : packet.setMsgId m =
    storeAll packet.mem (PacketBuffer.writeMsgId packet.accessed m) := by
  simp only [setMsgId, PacketBuffer.setMsgId, Fetch.value_bind, packet.getType_value,
    Fetch.value_ite, packet.decoded, accessed, Fetch.value_pure]
  cases packet.type
  all_goals simp +decide [IdType.idAfter, Int.add_assoc]

theorem expected_code (type : IdType) : type.expected type.code = true := by
  cases type <;> rfl

theorem reports_read {mem' : Int → UInt8} (hsize : lengthFieldSize mem' = lengthFieldSize packet.mem)
    (hfield : lengthField mem' = lengthField packet.mem)
    (hbyte : mem' (lengthFieldSize packet.mem) = packet.mem (lengthFieldSize packet.mem)) :
    packet.type.reports bitsSigned mem' packet.bufLen =
      packet.type.read bitsSigned mem' packet.type.code (lengthFieldSize packet.mem + 1)
        packet.bufLen := by
  have hpos := lengthFieldSize_pos packet.mem
  have hadmits : withinBuflen ⟨lengthFieldSize packet.mem, packet.bufLen⟩ packet.bufLen = true := by
    rw [withinBuflen, decide_eq_true_eq]
    simp only
    omega
  have hexpected := expected_code packet.type
  rw [IdType.reports_eq bitsSigned packet.type (by rw [hsize]; exact packet.size_le), hsize, hfield,
    packet.length, hbyte, packet.typed, if_pos ⟨hadmits, hexpected⟩]

theorem reports_some : ∃ r, packet.type.reports bitsSigned packet.mem packet.bufLen = some r ∧
    r.packetid =
      (readInt (lengthFieldSize packet.mem + 1 + packet.type.idAfter)).value packet.mem := by
  rw [packet.reports_read bitsSigned rfl rfl rfl]
  exact IdType.read_packetid bitsSigned _ _ _ packet.type

theorem agree_of_accessed
    (h : packet.accessed = lengthFieldSize packet.mem + 1 + packet.type.idAfter) :
    packet.AccessorsAgree bitsSigned := by
  obtain ⟨r, hr, hid⟩ := packet.reports_some bitsSigned
  refine ⟨r, hr, ?_, ?_⟩
  · rw [packet.getMsgId_eq, h, hid]
  · intro m
    have hwritten := renumbered_write packet.mem packet.accessed m
    obtain ⟨hsize, hfield, hbyte⟩ := hwritten.lengthField (by omega)
    rw [h] at hwritten
    rw [packet.setMsgId_eq, packet.reports_read bitsSigned hsize hfield hbyte, h,
      hwritten.read packet.type.code packet.bufLen bitsSigned,
      ← packet.reports_read bitsSigned rfl rfl rfl, hr, Option.map_some]

-- two bytes short of the id the accessors write over other fields
theorem not_agree_of_short (hone : packet.mem 0 = 1) (hfixed : ¬packet.type.Follows) :
    ¬packet.AccessorsAgree bitsSigned := by
  have hsize : lengthFieldSize packet.mem = 3 := if_pos hone
  have haccessed : packet.accessed = 2 + packet.type.idAfter := if_neg hfixed
  rintro ⟨r, -, -, hset⟩
  have hkept (m : UInt16) :
      (readInt (4 + packet.type.idAfter)).value packet.mem = m.toNat := by
    have hwritten := renumbered_write packet.mem packet.accessed m
    rw [← packet.setMsgId_eq, haccessed] at hwritten
    have hsize' : lengthFieldSize (packet.setMsgId m) = 3 := by
      rw [lengthFieldSize, hwritten.rest 0 (by omega) (by omega), if_pos hone]
    have hset := hset m
    rw [IdType.reports_eq bitsSigned packet.type (by rw [hsize', ← hsize]; exact packet.size_le),
      hsize'] at hset
    split_ifs at hset
    obtain ⟨r', hr', hid⟩ := IdType.read_packetid bitsSigned (packet.setMsgId m 3) (3 + 1)
      (lengthField (packet.setMsgId m)) packet.type
    obtain rfl := Option.some.inj (hr'.symm.trans hset)
    rw [Reported.packetid_withPacketid, hwritten.readInt (by omega)] at hid
    exact hid.symm
  have hzero := hkept 0
  rw [hkept 1] at hzero
  exact absurd hzero (by decide)

theorem accessorsAgree_iff :
    packet.AccessorsAgree bitsSigned ↔ packet.mem 0 ≠ 1 ∨ packet.type.Follows := by
  constructor
  · intro h
    rw [or_iff_not_imp_right]
    intro hfixed hone
    exact packet.not_agree_of_short bitsSigned hone hfixed h
  · intro h
    apply packet.agree_of_accessed bitsSigned
    rw [accessed]
    split_ifs with hfollows
    · rfl
    · rw [lengthFieldSize, if_neg (h.resolve_right hfollows)]
      rfl

end IdentifiedPacket

-- a PUBACK with topic id 1, message id 2 and return code 0 behind a three-byte length field
def longPuback : IdentifiedPacket where
  type := .puback
  mem := memoryOf 0 [1, 0, 9, 13, 0, 1, 0, 2, 0]
  bufLen := 9
  length := by decide
  typed := by decide
  room := by decide

theorem longPuback_disagrees :
    longPuback.getMsgId = 1 ∧
      longPuback.type.reports false longPuback.mem longPuback.bufLen =
        some (.topicAck ⟨1, 2, 0⟩) ∧
      ¬longPuback.AccessorsAgree false := by
  have hreports : longPuback.type.reports false longPuback.mem longPuback.bufLen =
      some (.topicAck ⟨1, 2, 0⟩) := by decide
  refine ⟨by decide, hreports, ?_⟩
  rintro ⟨r, hr, hget, -⟩
  obtain rfl := Option.some.inj (hreports.symm.trans hr)
  exact absurd hget (by decide)

end MbedMqtt.MQTTSN
