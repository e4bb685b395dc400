import MbedMqtt.SNPacket.Connect
import MbedMqtt.SNPacket.Search
import MbedMqtt.SNPacket.Subscribe

namespace MbedMqtt.MQTTSN

open MQTTSNGW

variable {mem : Int → UInt8} {buflen limit uninitialised : Int}

def within (mem : Int → UInt8) (buflen : Int) : Int := min buflen (lengthField mem)

def Safe {α : Type} (mem : Int → UInt8) (buflen : Int) (expected : UInt8 → Bool)
    (strings : α → List Slice) (p : Fetch UInt8 (Parsed α)) : Prop :=
  (p.value mem).rc = 1 →
    expected (mem (lengthFieldSize mem)) = true ∧ p.Inside mem (within mem buflen) ∧
      ∀ fields ∈ (p.value mem).fields, ∀ s ∈ strings fields, s.Inside (within mem buflen)

-- where the parser looks for the type: a three byte length field cut short moves it back
def typeIndex (mem : Int → UInt8) (buflen : Int) : Int :=
  if mem 0 = 1 ∧ buflen < 3 then MQTTSNPACKET_READ_ERROR else lengthFieldSize mem

def decodedLength (uninitialised : Int) (mem : Int → UInt8) (buflen : Int) : Int :=
  if mem 0 = 1 ∧ buflen < 3 then uninitialised else lengthField mem

def decodedHeader (uninitialised : Int) (mem : Int → UInt8) (buflen : Int) : PacketLength :=
  ⟨typeIndex mem buflen, decodedLength uninitialised mem buflen⟩

section Header

theorem packetDecode_header (hbuflen : 0 < buflen) :
    (packetDecode buflen uninitialised).value mem = decodedHeader uninitialised mem buflen := by
  rw [decodedHeader, typeIndex, decodedLength]
  split_ifs with hcut
  · exact packetDecode_error hbuflen hcut.2 hcut.1
  · rw [packetDecode_value]
    rw [lengthFieldSize]
    split_ifs with hone
    · exact Int.not_lt.mp fun hlt => hcut ⟨hone, hlt⟩
    · exact hbuflen

theorem inside_readInt {i : Int} :
    (readInt i).Inside mem limit ↔ 0 ≤ i ∧ i + 1 < limit := by
  rw [readInt, Fetch.inside_bind, Fetch.inside_bind, Fetch.inside_item, Fetch.inside_item]
  constructor
  · rintro ⟨⟨h0, -⟩, ⟨-, h1⟩, -⟩
    exact ⟨h0, h1⟩
  · rintro ⟨h0, h1⟩
    exact ⟨⟨h0, by omega⟩, ⟨by omega, h1⟩, Fetch.inside_pure _ _⟩

theorem packetDecode_inside (hbuflen : 0 < buflen) (hpos : 0 < typeIndex mem buflen)
    (hlimit : typeIndex mem buflen < limit) :
    (packetDecode buflen uninitialised).Inside mem limit := by
  rw [typeIndex, lengthFieldSize] at hpos hlimit
  rw [packetDecode, if_neg (by omega), Fetch.inside_bind, Fetch.inside_item,
    Fetch.value_item]
  refine ⟨?_, ?_⟩
  · split_ifs at hlimit hpos <;> omega
  · split_ifs with hone hshort
    · exact Fetch.inside_pure _ _
    · rw [if_neg (by omega), if_pos hone] at hlimit
      rw [Fetch.inside_bind, inside_readInt]
      exact ⟨by omega, Fetch.inside_pure _ _⟩
    · exact Fetch.inside_pure _ _

end Header

section Skeleton

variable {α : Type} {admits : PacketLength → Int → Bool} {expected : UInt8 → Bool}
variable {rejected : PacketLength → Int}
variable {fields : UInt8 → Int → Int → Fetch UInt8 (Option α)} {strings : α → List Slice}

def Entered (admits : PacketLength → Int → Bool) (expected : UInt8 → Bool) (uninitialised : Int)
    (mem : Int → UInt8) (buflen : Int) : Prop :=
  admits (decodedHeader uninitialised mem buflen) buflen = true ∧
    expected (mem (typeIndex mem buflen)) = true

-- the fields, as read once the header is accepted
def body (fields : UInt8 → Int → Int → Fetch UInt8 (Option α)) (uninitialised : Int)
    (mem : Int → UInt8) (buflen : Int) : Fetch UInt8 (Option α) :=
  fields (mem (typeIndex mem buflen)) (typeIndex mem buflen + 1)
    (decodedLength uninitialised mem buflen)

theorem deserialize_value (hbuflen : 0 < buflen)
    (h : Entered admits expected uninitialised mem buflen) :
    (deserialize admits rejected expected fields uninitialised buflen).value mem =
      let read := (body fields uninitialised mem buflen).value mem
      ⟨if read.isSome then 1 else rejected (decodedHeader uninitialised mem buflen), read⟩ := by
  obtain ⟨hadmits, hexpected⟩ := h
  replace hexpected : expected (mem (decodedHeader uninitialised mem buflen).lenlen) = true :=
    hexpected
  simp only [deserialize, Fetch.value_bind, packetDecode_header hbuflen, hadmits, if_true,
    Fetch.value_item, hexpected]
  rfl

theorem deserialize_rejected (hbuflen : 0 < buflen)
    (h : ¬Entered admits expected uninitialised mem buflen) :
    (deserialize admits rejected expected fields uninitialised buflen).value mem =
      ⟨rejected (decodedHeader uninitialised mem buflen), none⟩ := by
  simp only [deserialize, Fetch.value_bind, packetDecode_header hbuflen]
  split_ifs with hadmits
  · have hexpected : ¬expected (mem (decodedHeader uninitialised mem buflen).lenlen) = true :=
      fun hexpected => h ⟨hadmits, hexpected⟩
    rw [Fetch.value_bind, Fetch.value_item, if_neg hexpected]
    rfl
  · rfl

theorem deserialize_inside (hbuflen : 0 < buflen)
    (h : Entered admits expected uninitialised mem buflen) :
    (deserialize admits rejected expected fields uninitialised buflen).Inside mem limit ↔
      0 < typeIndex mem buflen ∧ typeIndex mem buflen < limit ∧
        (body fields uninitialised mem buflen).Inside mem limit := by
  obtain ⟨hadmits, hexpected⟩ := h
  replace hexpected : expected (mem (decodedHeader uninitialised mem buflen).lenlen) = true :=
    hexpected
  simp only [deserialize, Fetch.inside_bind, packetDecode_header hbuflen, hadmits, if_true,
    Fetch.value_item, Fetch.inside_item, hexpected, and_true, Fetch.inside_pure]
  constructor
  · rintro ⟨-, hindex, hbody⟩
    have hne : typeIndex mem buflen ≠ 0 := by
      rw [typeIndex, lengthFieldSize]
      split_ifs <;> decide
    exact ⟨lt_of_le_of_ne hindex.1 hne.symm, hindex.2, hbody⟩
  · rintro ⟨hpos, hlimit, hbody⟩
    exact ⟨packetDecode_inside hbuflen hpos hlimit, ⟨hpos.le, hlimit⟩, hbody⟩

theorem safe_deserialize_iff (hbuflen : 0 < buflen) :
    Safe mem buflen expected strings
        (deserialize admits returnZero expected fields uninitialised buflen) ↔
      (Entered admits expected uninitialised mem buflen →
        ∀ read, (body fields uninitialised mem buflen).value mem = some read →
          0 < typeIndex mem buflen ∧ typeIndex mem buflen < within mem buflen ∧
            (body fields uninitialised mem buflen).Inside mem (within mem buflen) ∧
            ∀ s ∈ strings read, s.Inside (within mem buflen)) := by
  rw [Safe]
  by_cases henter : Entered admits expected uninitialised mem buflen
  · rw [deserialize_value hbuflen henter, deserialize_inside hbuflen henter]
    cases hread : (body fields uninitialised mem buflen).value mem with
    | none => simp [returnZero]
    | some read =>
      constructor
      · rintro hsafe - read' hread'
        obtain rfl := Option.some.inj hread'
        obtain ⟨-, ⟨hpos, hlimit, hbody⟩, hstrings⟩ := hsafe rfl
        exact ⟨hpos, hlimit, hbody, hstrings read rfl⟩
      · rintro hcovered -
        obtain ⟨hpos, hlimit, hbody, hstrings⟩ := hcovered henter read rfl
        refine ⟨?_, ⟨hpos, hlimit, hbody⟩, ?_⟩
        · have hexpected := henter.2
          rw [typeIndex] at hpos hexpected
          split_ifs at hpos hexpected with hcut
          · exact absurd hpos (by decide)
          · exact hexpected
        · intro fields hfields
          obtain rfl := Option.some.inj hfields
          exact hstrings
  · rw [deserialize_rejected hbuflen henter]
    simp [returnZero, henter]

end Skeleton

-- what a parser needs after the type byte: `extent` bytes, all of them if it returns a string
structure Covers {α : Type} (fields : UInt8 → Int → Int → Fetch UInt8 (Option α))
    (strings : α → List Slice) (extent : (Int → UInt8) → Int → Int)
    (sliced accepts : (Int → UInt8) → Int → Prop) : Prop where
  nonneg : ∀ mem cur, 0 ≤ extent mem cur
  accepts : ∀ mem type cur end',
    ((fields type cur end').value mem).isSome = true ↔ accepts mem cur
  inside : ∀ {mem type cur end' limit}, 0 < cur → end' < 65536 →
    ∀ {read}, (fields type cur end').value mem = some read →
      ((fields type cur end').Inside mem (min limit end') ∧
          (∀ s ∈ strings read, s.Inside (min limit end')) ↔
        cur + extent mem cur ≤ min limit end' ∧ (sliced mem cur → end' ≤ limit))

section Covers

variable {α : Type} {admits : PacketLength → Int → Bool} {expected : UInt8 → Bool}
variable {fields : UInt8 → Int → Int → Fetch UInt8 (Option α)} {strings : α → List Slice}
variable {extent : (Int → UInt8) → Int → Int} {sliced accepts : (Int → UInt8) → Int → Prop}

def Covered (extent : (Int → UInt8) → Int → Int) (sliced : (Int → UInt8) → Int → Prop)
    (mem : Int → UInt8) (buflen : Int) : Prop :=
  lengthFieldSize mem + 1 + extent mem (lengthFieldSize mem + 1) ≤ within mem buflen ∧
    (sliced mem (lengthFieldSize mem + 1) → lengthField mem ≤ buflen)

theorem lengthField_lt (mem : Int → UInt8) : lengthField mem < 65536 := by
  have h1 := (mem 1).toNat_lt
  have h2 := (mem (1 + 1)).toNat_lt
  have h0 := (mem 0).toNat_lt
  rw [lengthField]
  split_ifs
  · simp only [readInt, Fetch.value_bind, Fetch.value_item, Fetch.value_pure]
    omega
  · omega

theorem Covers.deserializer_safe_iff (h : Covers fields strings extent sliced accepts)
    (hbuflen : 0 < buflen) :
    Safe mem buflen expected strings
        (deserialize admits returnZero expected fields uninitialised buflen) ↔
      (Entered admits expected uninitialised mem buflen →
        accepts mem (typeIndex mem buflen + 1) →
          0 < typeIndex mem buflen ∧ Covered extent sliced mem buflen) := by
  rw [safe_deserialize_iff hbuflen]
  refine imp_congr_right fun _ => ?_
  have hread : (∀ read, (body fields uninitialised mem buflen).value mem = some read →
      0 < typeIndex mem buflen ∧ typeIndex mem buflen < within mem buflen ∧
        (body fields uninitialised mem buflen).Inside mem (within mem buflen) ∧
        ∀ s ∈ strings read, s.Inside (within mem buflen)) ↔
      ∀ read, (body fields uninitialised mem buflen).value mem = some read →
        0 < typeIndex mem buflen ∧ Covered extent sliced mem buflen := by
    refine forall₂_congr fun read hread => and_congr_right fun hpos => ?_
    have hstart : typeIndex mem buflen = lengthFieldSize mem ∧
        decodedLength uninitialised mem buflen = lengthField mem := by
      rw [typeIndex] at hpos ⊢
      rw [decodedLength]
      split_ifs at hpos ⊢
      · exact absurd hpos (by decide)
      · exact ⟨rfl, rfl⟩
    have hlt := lengthField_lt mem
    have hnonneg := h.nonneg mem (lengthFieldSize mem + 1)
    rw [body, hstart.1, hstart.2] at hread
    rw [hstart.1] at hpos
    rw [body, hstart.1, hstart.2, within, h.inside (by omega) hlt hread, Covered, within]
    constructor
    · exact fun hcovered => hcovered.2
    · exact fun hcovered => ⟨by omega, hcovered⟩
  rw [hread, ← h.accepts mem (mem (typeIndex mem buflen)) (typeIndex mem buflen + 1)
    (decodedLength uninitialised mem buflen), Option.isSome_iff_exists]
  exact ⟨fun hall ⟨read, hsome⟩ => hall read hsome, fun himp read hsome => himp ⟨read, hsome⟩⟩

end Covers

section Fields

variable {cur end' : Int} {type : UInt8}

theorem inside_readTopicField {topicType : TopicType} {qos : Nat} {i : Int} :
    (readTopicField topicType qos i).Inside mem limit ↔ 0 ≤ i ∧ i + 1 < limit := by
  rw [readTopicField]
  split_ifs
  · simp only [Fetch.inside_bind, inside_readInt, Fetch.inside_pure, and_true]
  · simp only [Fetch.inside_bind, inside_readInt, Fetch.inside_pure, and_true]
  · simp only [Fetch.inside_bind, Fetch.inside_item, Fetch.inside_pure, and_true]
    omega

def always (_ : Int → UInt8) (_ : Int) : Prop := True

theorem Covers.always_safe_iff {α : Type} {admits : PacketLength → Int → Bool}
    {expected : UInt8 → Bool} {fields : UInt8 → Int → Int → Fetch UInt8 (Option α)}
    {strings : α → List Slice} {extent : (Int → UInt8) → Int → Int}
    {sliced : (Int → UInt8) → Int → Prop} (h : Covers fields strings extent sliced always)
    (hbuflen : 0 < buflen) :
    Safe mem buflen expected strings
        (deserialize admits returnZero expected fields uninitialised buflen) ↔
      (Entered admits expected uninitialised mem buflen →
        0 < typeIndex mem buflen ∧ Covered extent sliced mem buflen) := by
  rw [h.deserializer_safe_iff hbuflen]
  refine imp_congr_right fun _ => ?_
  rw [always, true_imp_iff]

def never (_ : Int → UInt8) (_ : Int) : Prop := False

def publishExtent (mem : Int → UInt8) (cur : Int) : Int :=
  5 + ((readTopicField (flagsTopicIdType (mem cur)) (flagsQoS (mem cur))
    (cur + 1)).value mem).strings.sum

theorem covers_publish (bitsSigned : Bool) :
    Covers (readPublish bitsSigned) PublishFields.strings publishExtent always always where
  nonneg mem cur := by rw [publishExtent]; omega
  accepts mem type cur end' := by simp [readPublish, always]
  inside {mem type cur end' limit} hcur hend {read} hread := by
    simp only [readPublish, Fetch.value_bind, Fetch.value_item, Fetch.value_pure,
      Option.some.injEq] at hread
    subst hread
    simp only [readPublish, Fetch.inside_bind, Fetch.inside_item, Fetch.value_item,
      inside_readTopicField, inside_readInt, Fetch.inside_pure, and_true, PublishFields.strings,
      publishExtent, always, true_imp_iff]
    generalize (readTopicField (flagsTopicIdType (mem cur)) (flagsQoS (mem cur))
        (cur + 1)).value mem = topic
    cases topic <;>
      simp only [ReadTopic.map, ReadTopic.strings, Slice.Inside, List.nil_append,
        List.singleton_append, List.forall_mem_cons, List.mem_singleton, forall_eq, List.sum_nil,
        List.sum_cons] <;>
      omega

theorem covers_topicAck : Covers readTopicAck (fun _ => []) (fun _ _ => 5) never always where
  nonneg _ _ := by decide
  accepts mem type cur end' := by simp [readTopicAck, always]
  inside {mem type cur end' limit} hcur hend {read} hread := by
    simp only [readTopicAck, Fetch.inside_bind, Fetch.inside_item, inside_readInt,
      Fetch.inside_pure, and_true, List.not_mem_nil, false_imp_iff, implies_true, never]
    omega

theorem covers_ack : Covers readAck (fun _ => []) (fun _ _ => 2) never always where
  nonneg _ _ := by decide
  accepts mem type cur end' := by simp [readAck, always]
  inside {mem type cur end' limit} hcur hend {read} hread := by
    simp only [readAck, Fetch.inside_bind, inside_readInt, Fetch.inside_pure, and_true,
      List.not_mem_nil, false_imp_iff, implies_true, never]
    omega

theorem covers_register :
    Covers readRegister (fun read => [read.topicname]) (fun _ _ => 4) always always where
  nonneg _ _ := by decide
  accepts mem type cur end' := by simp [readRegister, always]
  inside {mem type cur end' limit} hcur hend {read} hread := by
    simp only [readRegister, Fetch.value_bind, Fetch.value_pure, Option.some.injEq] at hread
    subst hread
    simp only [readRegister, Fetch.inside_bind, inside_readInt, Fetch.inside_pure, and_true,
      List.mem_singleton, forall_eq, Slice.Inside, always, true_imp_iff]
    omega

def isNormal (mem : Int → UInt8) (cur : Int) : Prop := flagsTopicIdType (mem cur) = .normal

def filterExtent (mem : Int → UInt8) (cur : Int) : Int :=
  match flagsTopicIdType (mem cur) with
  | .predefined | .short => 5
  | .normal | .reserved => 3

theorem inside_topicFilter {mem : Int → UInt8} {cur end' limit : Int} (hcur : 0 < cur) :
    ((Fetch.item cur).Inside mem (min limit end') ∧
        (readInt (cur + 1)).Inside mem (min limit end') ∧
        (readTopicFilter (flagsTopicIdType (mem cur)) (cur + 3) end').Inside mem
          (min limit end')) ∧
        (∀ s ∈ ((readTopicFilter (flagsTopicIdType (mem cur)) (cur + 3) end').value mem).strings,
          s.Inside (min limit end')) ↔
      cur + filterExtent mem cur ≤ min limit end' ∧ (isNormal mem cur → end' ≤ limit) := by
  simp only [filterExtent, isNormal]
  cases flagsTopicIdType (mem cur) <;>
    simp only [readTopicFilter, Fetch.inside_bind, Fetch.inside_item, inside_readInt,
      Fetch.inside_pure, Fetch.value_bind, Fetch.value_pure, ReadTopic.strings,
      List.mem_singleton, forall_eq, Slice.Inside, true_imp_iff, and_true, List.not_mem_nil,
      false_imp_iff, implies_true, reduceCtorEq] <;>
    omega

theorem covers_subscribe (bitsSigned : Bool) :
    Covers (readSubscribe bitsSigned) (fun read => read.topicFilter.strings) filterExtent isNormal
      always where
  nonneg mem cur := by
    rw [filterExtent]
    split <;> decide
  accepts mem type cur end' := by simp [readSubscribe, always]
  inside {mem type cur end' limit} hcur hend {read} hread := by
    simp only [readSubscribe, Fetch.value_bind, Fetch.value_item, Fetch.value_pure,
      Option.some.injEq] at hread
    subst hread
    simp only [readSubscribe, Fetch.inside_bind, Fetch.value_item, Fetch.inside_pure, and_true]
    exact inside_topicFilter hcur

theorem covers_suback : Covers readSuback (fun _ => []) (fun _ _ => 6) never always where
  nonneg _ _ := by decide
  accepts mem type cur end' := by simp [readSuback, readTopicAck, always]
  inside {mem type cur end' limit} hcur hend {read} hread := by
    simp only [readSuback, readTopicAck, Fetch.inside_bind, Fetch.inside_item, inside_readInt,
      Fetch.inside_pure, and_true, List.not_mem_nil, false_imp_iff, implies_true, never]
    omega

theorem covers_unsubscribe :
    Covers readUnsubscribe (fun read => read.topicFilter.strings) filterExtent isNormal
      always where
  nonneg mem cur := by
    rw [filterExtent]
    split <;> decide
  accepts mem type cur end' := by simp [readUnsubscribe, always]
  inside {mem type cur end' limit} hcur hend {read} hread := by
    simp only [readUnsubscribe, Fetch.value_bind, Fetch.value_item, Fetch.value_pure,
      Option.some.injEq] at hread
    subst hread
    simp only [readUnsubscribe, Fetch.inside_bind, Fetch.value_item, Fetch.inside_pure, and_true]
    exact inside_topicFilter hcur

theorem covers_unsuback : Covers readUnsuback (fun _ => []) (fun _ _ => 2) never always where
  nonneg _ _ := by decide
  accepts mem type cur end' := by simp [readUnsuback, always]
  inside {mem type cur end' limit} hcur hend {read} hread := by
    simp only [readUnsuback, Fetch.inside_bind, inside_readInt, Fetch.inside_pure, and_true,
      List.not_mem_nil, false_imp_iff, implies_true, never]
    omega

def hasVersion (mem : Int → UInt8) (cur : Int) : Prop := mem (cur + 1) = MQTTSN_PROTOCOL_VERSION

theorem covers_connect (cstring : Option Bytes) :
    Covers (readConnect cstring) (fun read => [read.clientID.slice]) (fun _ _ => 4) always
      hasVersion where
  nonneg _ _ := by decide
  accepts mem type cur end' := by
    rcases eq_or_ne (mem (cur + 1)) MQTTSN_PROTOCOL_VERSION with hversion | hversion <;>
      simp [readConnect, hasVersion, hversion]
  inside {mem type cur end' limit} hcur hend {read} hread := by
    rcases eq_or_ne (mem (cur + 1)) MQTTSN_PROTOCOL_VERSION with hversion | hversion
    · simp only [readConnect, Fetch.value_bind, Fetch.value_item, hversion, if_true,
        Fetch.value_pure, Option.some.injEq] at hread
      subst hread
      simp only [readConnect, Fetch.inside_bind, Fetch.inside_item, Fetch.value_item,
        hversion, if_true, inside_readInt, Fetch.inside_pure, and_true, List.mem_singleton,
        forall_eq, readMQTTSNString, always, true_imp_iff]
      split_ifs <;> simp only [ReadString.slice, Slice.Inside, Option.getD_some, Option.getD_none] <;>
        omega
    · simp [readConnect, hversion] at hread

theorem covers_gwinfo :
    Covers readGwinfo (fun read => [read.gatewayaddress]) (fun _ _ => 1) always always where
  nonneg _ _ := by decide
  accepts mem type cur end' := by simp [readGwinfo, always]
  inside {mem type cur end' limit} hcur hend {read} hread := by
    simp only [readGwinfo, Fetch.value_bind, Fetch.value_item, Fetch.value_pure,
      Option.some.injEq] at hread
    subst hread
    simp only [readGwinfo, Fetch.inside_bind, Fetch.inside_item, Fetch.inside_pure, and_true,
      List.mem_singleton, forall_eq, Slice.Inside, always, true_imp_iff]
    omega

end Fields

-- the result starts as the length the decoder returns, so a rejected packet whose length field is
-- one byte is reported as read
def ConnackCondition (uninitialised : Int) (mem : Int → UInt8) (buflen : Int) : Prop :=
  (Entered admitsConnack (isType MQTTSN_CONNACK) uninitialised mem buflen →
    0 < typeIndex mem buflen ∧ Covered (fun _ _ => 1) never mem buflen) ∧
  (¬Entered admitsConnack (isType MQTTSN_CONNACK) uninitialised mem buflen → mem 0 ≠ 1 →
    mem 1 = MQTTSN_CONNACK ∧ 0 < lengthField mem)

section Connack

theorem connack_value (hbuflen : 0 < buflen)
    (h : Entered admitsConnack (isType MQTTSN_CONNACK) uninitialised mem buflen) :
    (deserializeConnack uninitialised buflen).value mem =
      ⟨1, some (mem (typeIndex mem buflen + 1))⟩ := by
  rw [deserializeConnack, deserialize_value hbuflen h]
  rfl

theorem connack_entered_iff (hbuflen : 0 < buflen)
    (h : Entered admitsConnack (isType MQTTSN_CONNACK) uninitialised mem buflen) :
    Safe mem buflen (isType MQTTSN_CONNACK) (fun _ => []) (deserializeConnack uninitialised buflen) ↔
      0 < typeIndex mem buflen ∧ Covered (fun _ _ => 1) never mem buflen := by
  have hfields : (body readConnack uninitialised mem buflen).Inside mem (within mem buflen) ↔
      0 ≤ typeIndex mem buflen + 1 ∧ typeIndex mem buflen + 1 < within mem buflen := by
    simp only [body, readConnack, Fetch.inside_bind, Fetch.inside_item, Fetch.inside_pure,
      and_true]
  rw [Safe, connack_value hbuflen h, deserializeConnack, deserialize_inside hbuflen h, hfields]
  have hsize : 0 < typeIndex mem buflen → typeIndex mem buflen = lengthFieldSize mem := by
    intro hpos
    rw [typeIndex] at hpos ⊢
    split_ifs at hpos ⊢
    · exact absurd hpos (by decide)
    · rfl
  have hcovered : Covered (fun _ _ => 1) never mem buflen ↔
      lengthFieldSize mem + 1 < within mem buflen := by
    simp only [Covered, never, false_imp_iff, and_true]
    omega
  rw [hcovered]
  constructor
  · intro hsafe
    obtain ⟨-, ⟨hpos, -, -, hlimit⟩, -⟩ := hsafe rfl
    rw [hsize hpos] at hlimit
    exact ⟨hpos, hlimit⟩
  · rintro ⟨hpos, hlimit⟩ -
    have hexpected := h.2
    have heq := hsize hpos
    rw [heq] at hpos hexpected ⊢
    exact ⟨hexpected, ⟨hpos, by omega, by omega, hlimit⟩, by simp⟩

theorem connack_rejected_iff (hbuflen : 0 < buflen)
    (h : ¬Entered admitsConnack (isType MQTTSN_CONNACK) uninitialised mem buflen) :
    Safe mem buflen (isType MQTTSN_CONNACK) (fun _ => []) (deserializeConnack uninitialised buflen) ↔
      (mem 0 ≠ 1 → mem 1 = MQTTSN_CONNACK ∧ 0 < lengthField mem) := by
  rw [Safe, deserializeConnack, deserialize_rejected hbuflen h]
  have hone : (decodedHeader uninitialised mem buflen).lenlen = 1 ↔ mem 0 ≠ 1 := by
    simp only [decodedHeader, typeIndex, lengthFieldSize]
    split_ifs with hcut hfirst
    · exact iff_of_false (by decide) fun hne => hne hcut.1
    · exact iff_of_false (by decide) fun hne => hne hfirst
    · exact iff_of_true rfl hfirst
  refine imp_congr_ctx hone fun hfirst => ?_
  have hsize : lengthFieldSize mem = 1 := if_neg hfirst
  have hdecode : (packetDecode buflen uninitialised).Inside mem (within mem buflen) ↔
      0 < within mem buflen := by
    rw [packetDecode, if_neg (by omega), Fetch.inside_bind, Fetch.inside_item,
      Fetch.value_item, if_neg hfirst]
    simp only [Fetch.inside_pure, and_true, le_refl, true_and]
  rw [hsize]
  constructor
  · rintro ⟨hexpected, hinside, -⟩
    rw [deserialize, Fetch.inside_bind, hdecode] at hinside
    exact ⟨of_decide_eq_true hexpected, lt_of_lt_of_le hinside.1 (min_le_right ..)⟩
  · rintro ⟨htype, hlength⟩
    refine ⟨decide_eq_true htype, ?_, by simp⟩
    have hheader : decodedHeader uninitialised mem buflen = ⟨1, lengthField mem⟩ := by
      rw [decodedHeader, typeIndex, decodedLength, if_neg (fun hcut => hfirst hcut.1),
        if_neg (fun hcut => hfirst hcut.1), hsize]
    have hnot : ¬admitsConnack ⟨1, lengthField mem⟩ buflen = true := by
      intro hadmits
      refine h ⟨hheader ▸ hadmits, ?_⟩
      rw [typeIndex, if_neg (fun hcut => hfirst hcut.1), hsize]
      exact decide_eq_true htype
    rw [deserialize, Fetch.inside_bind, hdecode, packetDecode_header hbuflen, hheader,
      if_neg hnot]
    exact ⟨lt_min hbuflen hlength, Fetch.inside_pure _ _⟩

theorem connack_safe_iff (hbuflen : 0 < buflen) :
    Safe mem buflen (isType MQTTSN_CONNACK) (fun _ => []) (deserializeConnack uninitialised buflen) ↔
      ConnackCondition uninitialised mem buflen := by
  rw [ConnackCondition]
  rcases Classical.em (Entered admitsConnack (isType MQTTSN_CONNACK) uninitialised mem buflen)
    with h | h
  · rw [connack_entered_iff hbuflen h]
    exact ⟨fun hsafe => ⟨fun _ => hsafe, fun hnot => absurd h hnot⟩, fun hsafe => hsafe.1 h⟩
  · rw [connack_rejected_iff hbuflen h]
    exact ⟨fun hsafe => ⟨fun hentered => absurd hentered h, fun _ => hsafe⟩, fun hsafe => hsafe.2 h⟩

end Connack

inductive Deserializer where
  | publish
  | puback
  | ack
  | register
  | regack
  | subscribe
  | suback
  | unsubscribe
  | unsuback
  | connack
  | connect
  | gwinfo
  deriving DecidableEq, Repr

namespace Deserializer

def expected : Deserializer → UInt8 → Bool
  | publish => isType MQTTSN_PUBLISH
  | puback => isType MQTTSN_PUBACK
  | ack => isAck
  | register => isType MQTTSN_REGISTER
  | regack => isType MQTTSN_REGACK
  | subscribe => isType MQTTSN_SUBSCRIBE
  | suback => isType MQTTSN_SUBACK
  | unsubscribe => isType MQTTSN_UNSUBSCRIBE
  | unsuback => isType MQTTSN_UNSUBACK
  | connack => isType MQTTSN_CONNACK
  | connect => isType MQTTSN_CONNECT
  | gwinfo => isType MQTTSN_GWINFO

def extent : Deserializer → (Int → UInt8) → Int → Int
  | publish => publishExtent
  | puback | regack => fun _ _ => 5
  | ack | unsuback => fun _ _ => 2
  | register | connect => fun _ _ => 4
  | subscribe | unsubscribe => filterExtent
  | suback => fun _ _ => 6
  | connack | gwinfo => fun _ _ => 1

def sliced : Deserializer → (Int → UInt8) → Int → Prop
  | publish | register | connect | gwinfo => always
  | subscribe | unsubscribe => isNormal
  | puback | regack | ack | suback | unsuback | connack => never

def Safe (bitsSigned : Bool) (cstring : Option Bytes) (uninitialised : Int) (mem : Int → UInt8)
    (buflen : Int) (d : Deserializer) : Prop :=
  match d with
  | publish => MQTTSN.Safe mem buflen d.expected PublishFields.strings
    (deserializePublish bitsSigned buflen)
  | puback => MQTTSN.Safe mem buflen d.expected (fun _ => []) (deserializePuback buflen)
  | ack => MQTTSN.Safe mem buflen d.expected (fun _ => []) (deserializeAck buflen)
  | register => MQTTSN.Safe mem buflen d.expected (fun read => [read.topicname])
    (deserializeRegister buflen)
  | regack => MQTTSN.Safe mem buflen d.expected (fun _ => []) (deserializeRegack buflen)
  | subscribe => MQTTSN.Safe mem buflen d.expected (fun read => read.topicFilter.strings)
    (deserializeSubscribe bitsSigned buflen)
  | suback => MQTTSN.Safe mem buflen d.expected (fun _ => []) (deserializeSuback buflen)
  | unsubscribe => MQTTSN.Safe mem buflen d.expected (fun read => read.topicFilter.strings)
    (deserializeUnsubscribe buflen)
  | unsuback => MQTTSN.Safe mem buflen d.expected (fun _ => []) (deserializeUnsuback buflen)
  | connack => MQTTSN.Safe mem buflen d.expected (fun _ => [])
    (deserializeConnack uninitialised buflen)
  | connect => MQTTSN.Safe mem buflen d.expected (fun read => [read.clientID.slice])
    (deserializeConnect cstring buflen)
  | gwinfo => MQTTSN.Safe mem buflen d.expected (fun read => [read.gatewayaddress])
    (deserializeGwinfo buflen)

def Condition (uninitialised : Int) (mem : Int → UInt8) (buflen : Int) (d : Deserializer) : Prop :=
  match d with
  | connack => ConnackCondition uninitialised mem buflen
  | connect => Entered (hasBytes 2) d.expected 0 mem buflen →
    hasVersion mem (typeIndex mem buflen + 1) →
      0 < typeIndex mem buflen ∧ Covered d.extent d.sliced mem buflen
  | d => Entered withinBuflen d.expected 0 mem buflen →
      0 < typeIndex mem buflen ∧ Covered d.extent d.sliced mem buflen

theorem safe_iff (d : Deserializer) (bitsSigned : Bool) (cstring : Option Bytes)
    (uninitialised : Int) (mem : Int → UInt8) {buflen : Int} (hbuflen : 2 ≤ buflen) :
    d.Safe bitsSigned cstring uninitialised mem buflen ↔ d.Condition uninitialised mem buflen := by
  have hpos : 0 < buflen := by omega
  cases d with
  | publish => exact (covers_publish bitsSigned).always_safe_iff hpos
  | puback | regack => exact covers_topicAck.always_safe_iff hpos
  | ack => exact covers_ack.always_safe_iff hpos
  | register => exact covers_register.always_safe_iff hpos
  | subscribe => exact (covers_subscribe bitsSigned).always_safe_iff hpos
  | suback => exact covers_suback.always_safe_iff hpos
  | unsubscribe => exact covers_unsubscribe.always_safe_iff hpos
  | unsuback => exact covers_unsuback.always_safe_iff hpos
  | connack => exact connack_safe_iff hpos
  | connect => exact (covers_connect cstring).deserializer_safe_iff hpos
  | gwinfo => exact covers_gwinfo.always_safe_iff hpos

theorem safe_iff_ack : ack.Safe false none 0 (memoryOf 0 [4, 15, 0, 7]) 4 :=
  (ack.safe_iff false none 0 _ (by decide)).mpr fun _ => ⟨by decide, by decide, False.elim⟩

theorem puback_not_safe : ¬puback.Safe false none 0 (memoryOf 0 [2, 13]) 2 := by
  intro h
  obtain ⟨-, hinside, -⟩ := h (by decide)
  exact absurd (hinside 2 (by decide)).2 (by decide)

end Deserializer

end MbedMqtt.MQTTSN
