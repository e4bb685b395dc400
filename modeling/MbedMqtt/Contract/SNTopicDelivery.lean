import MbedMqtt.Network.Script
import MbedMqtt.SNClient.Cycle

namespace List

variable {α β : Type} {f g : α → Option β}

theorem filterMap_length_le (h : ∀ x, f x = none ∨ f x = g x) (l : List α) :
    (l.filterMap f).length ≤ (l.filterMap g).length := by
  induction l with
  | nil => rfl
  | cons x l ih =>
    rw [filterMap_cons, filterMap_cons]
    rcases h x with hnone | hsame
    · rw [hnone]
      cases g x with
      | none => exact ih
      | some b => exact Nat.le_succ_of_le ih
    · rw [hsame]
      cases g x with
      | none => exact ih
      | some b => exact Nat.succ_le_succ ih

theorem filterMap_eq_iff (h : ∀ x, f x = none ∨ f x = g x) (l : List α) :
    l.filterMap g = l.filterMap f ↔ ∀ x ∈ l, g x = f x := by
  induction l with
  | nil => simp
  | cons x l ih =>
    rw [filterMap_cons, filterMap_cons, forall_mem_cons, ← ih]
    rcases h x with hnone | hsame
    · rw [hnone]
      cases g x with
      | none => exact (and_iff_right rfl).symm
      | some b =>
        refine iff_of_false (fun heq => ?_) (fun hboth => absurd hboth.1 (Option.some_ne_none b))
        have hlen := congrArg length heq
        have hle := filterMap_length_le h l
        simp only [length_cons] at hlen
        omega
    · rw [hsame, and_iff_right rfl]
      cases g x with
      | none => rfl
      | some b => exact cons_inj_right b

end List

namespace MbedMqtt.MQTTSN

open MQTTSNGW

-- the topics of a PUBLISH that are no names
inductive IdTopic where
  | normal (id : UInt16)
  | predefined (id : UInt16)
  | short (first second : UInt8)
  deriving DecidableEq, Repr

def IdTopic.topicId : IdTopic → TopicId
  | normal id => ⟨.normal, .id id⟩
  | predefined id => ⟨.predefined, .id id⟩
  | short first second => ⟨.short, .shortName first second⟩

def SameTopic (topic filter : TopicId) : Prop :=
  topic.type = filter.type ∧
    match filter.data with
    | .id value => topic.data.idField = value
    | .shortName first second => topic.data.shortField = [first, second]
    | .long _ _ => False

instance (topic filter : TopicId) : Decidable (SameTopic topic filter) :=
  match filter with
  | ⟨_, .id _⟩ => inferInstanceAs (Decidable (_ ∧ _))
  | ⟨_, .shortName _ _⟩ => inferInstanceAs (Decidable (_ ∧ _))
  | ⟨_, .long _ _⟩ => inferInstanceAs (Decidable (_ ∧ False))

def registeredHandler (topics : Nat → TopicId) (topic : TopicId) (slot : MessageHandlers) :
    Option Nat :=
  match slot.topicFilter with
  | none => none
  | some address => if SameTopic topic (topics address) then slot.fp else none

def registeredHandlers (topics : Nat → TopicId) (slots : List MessageHandlers) (topic : TopicId) :
    List Nat :=
  slots.filterMap (registeredHandler topics topic)

def calledHandler (cfg : Config) (topics : Nat → TopicId) (topic : TopicId)
    (slot : MessageHandlers) : Option Nat :=
  match slot.topicFilter with
  | none => none
  | some address =>
      if topicEquals topic (topics address) ||
          isTopicMatched (TopicData.longName cfg (topics address).data)
            (TopicData.longName cfg topic.data) then slot.fp
      else none

theorem matchedHandlers_called (cfg : Config) (topics : Nat → TopicId)
    (slots : List MessageHandlers) (topic : TopicId) :
    matchedHandlers cfg topics slots topic = slots.filterMap (calledHandler cfg topics topic) := rfl

-- the filters whose names `deliverMessage` hands to `isTopicMatched` with the one of the topic
def comparedNames (topics : Nat → TopicId) (slots : List MessageHandlers) (topic : TopicId) :
    List TopicId :=
  slots.filterMap fun slot =>
    match slot.topicFilter with
    | none => none
    | some address =>
        if topicEquals topic (topics address) then none else some (topics address)

variable {σ τ κ : Type}

structure DeliversById (cfg : Config) (c : Client τ) (w : World σ κ) (topic : TopicId)
    (message : Message) : Prop where
  handlers : matchedHandlers cfg c.topics c.messageHandlers topic =
    registeredHandlers c.topics c.messageHandlers topic
  delivered : (deliverMessage cfg c w topic message).world =
    w.record [.delivered topic message
      (if (registeredHandlers c.topics c.messageHandlers topic).isEmpty then
        c.defaultMessageHandler.toList
      else registeredHandlers c.topics c.messageHandlers topic)]
  names : comparedNames c.topics c.messageHandlers topic = []

theorem shortField_idField (data : TopicData) :
    data.shortField =
      [UInt8.ofNat data.idField.toNat, UInt8.ofNat (data.idField.toNat / 256)] := by
  have hbyte {m n : Nat} (h : m % 256 = n % 256) : UInt8.ofNat m = UInt8.ofNat n :=
    UInt8.toNat_inj.mp (by simpa using h)
  cases data with
  | id value => rfl
  | shortName first second =>
    have hfirst := first.toNat_lt
    have hsecond := second.toNat_lt
    simp only [TopicData.shortField, TopicData.idField, UInt16.toNat_ofNat']
    have h₁ : UInt8.ofNat ((first.toNat + 256 * second.toNat) % 2 ^ 16) = first :=
      UInt8.toNat_inj.mp (by rw [UInt8.toNat_ofNat']; omega)
    have h₂ : UInt8.ofNat ((first.toNat + 256 * second.toNat) % 2 ^ 16 / 256) = second :=
      UInt8.toNat_inj.mp (by rw [UInt8.toNat_ofNat']; omega)
    rw [h₁, h₂]
  | long name address =>
    simp only [TopicData.shortField, TopicData.idField, UInt16.toNat_ofNat']
    rw [hbyte (m := address) (n := address % 2 ^ 16) (by omega),
      hbyte (m := address / 256) (n := address % 2 ^ 16 / 256) (by omega)]

theorem topicEquals_iff (a b : TopicId) :
    topicEquals a b = true ↔ a.type = b.type ∧ a.data.idField = b.data.idField := by
  rw [topicEquals, Bool.and_eq_true, Bool.and_eq_true, decide_eq_true_eq, decide_eq_true_eq,
    decide_eq_true_eq, shortField_idField a.data, shortField_idField b.data]
  refine and_iff_left_of_imp ?_
  rintro ⟨-, hid⟩
  rw [hid]

theorem SameTopic.equals {topic filter : TopicId} (h : SameTopic topic filter) :
    topicEquals topic filter = true := by
  obtain ⟨type, data⟩ := filter
  obtain ⟨htype, hdata⟩ := h
  refine (topicEquals_iff _ _).mpr ⟨htype, ?_⟩
  cases data with
  | id value => exact hdata
  | shortName first second =>
    rw [shortField_idField topic.data] at hdata
    obtain ⟨hfirst, hrest⟩ := List.cons.inj hdata
    obtain ⟨hsecond, -⟩ := List.cons.inj hrest
    generalize topic.data.idField = id at hfirst hsecond ⊢
    have hlt := id.toNat_lt
    have h₁ := congrArg UInt8.toNat hfirst
    have h₂ := congrArg UInt8.toNat hsecond
    rw [UInt8.toNat_ofNat'] at h₁ h₂
    refine UInt16.toNat_inj.mp ?_
    simp only [TopicData.idField, UInt16.toNat_ofNat']
    omega
  | long name address => exact absurd hdata not_false

theorem registeredHandler_called (cfg : Config) (topics : Nat → TopicId) (topic : TopicId)
    (slot : MessageHandlers) :
    registeredHandler topics topic slot = none ∨
      registeredHandler topics topic slot = calledHandler cfg topics topic slot := by
  rw [registeredHandler, calledHandler]
  cases slot.topicFilter with
  | none => exact .inl rfl
  | some address =>
    simp only
    split_ifs with hsame hmatched
    · exact .inr rfl
    · rw [hsame.equals, Bool.true_or] at hmatched
      exact absurd rfl hmatched
    · exact .inl rfl
    · exact .inl rfl

-- a slot that passes `MQTTSNTopic_equals` is called, so it is to hold the topic or no handler
theorem calledHandler_registered_iff (cfg : Config) {topics : Nat → TopicId} {topic : TopicId}
    {slot : MessageHandlers} {address : Nat} (hfilter : slot.topicFilter = some address)
    (hequals : topicEquals topic (topics address) = true) :
    calledHandler cfg topics topic slot = registeredHandler topics topic slot ↔
      (slot.fp ≠ none → SameTopic topic (topics address)) := by
  simp only [calledHandler, registeredHandler, hfilter, hequals, Bool.true_or, if_true]
  split_ifs with hsame
  · exact iff_of_true rfl fun _ => hsame
  · cases slot.fp with
    | none => exact iff_of_true rfl fun h => absurd rfl h
    | some handler =>
      exact iff_of_false (Option.some_ne_none handler)
        fun h => hsame (h (Option.some_ne_none handler))

theorem comparedNames_nil_iff (topics : Nat → TopicId) (slots : List MessageHandlers)
    (topic : TopicId) :
    comparedNames topics slots topic = [] ↔
      ∀ slot ∈ slots, ∀ address, slot.topicFilter = some address →
        topicEquals topic (topics address) = true := by
  rw [comparedNames, List.filterMap_eq_nil_iff]
  refine forall₂_congr fun slot hslot => ?_
  cases slot.topicFilter with
  | none => simp
  | some address => simp

theorem deliverMessage_byId_iff (cfg : Config) (c : Client τ) (w : World σ κ) (topic : IdTopic)
    (message : Message) :
    DeliversById cfg c w topic.topicId message ↔
      ∀ slot ∈ c.messageHandlers, ∀ address, slot.topicFilter = some address →
        topicEquals topic.topicId (c.topics address) = true ∧
          (slot.fp ≠ none → SameTopic topic.topicId (c.topics address)) := by
  generalize topic.topicId = topic
  have hhandlers : matchedHandlers cfg c.topics c.messageHandlers topic =
      registeredHandlers c.topics c.messageHandlers topic ↔
      ∀ slot ∈ c.messageHandlers,
        calledHandler cfg c.topics topic slot = registeredHandler c.topics topic slot := by
    rw [matchedHandlers_called, registeredHandlers]
    exact List.filterMap_eq_iff (registeredHandler_called cfg c.topics topic) c.messageHandlers
  have hnames := comparedNames_nil_iff c.topics c.messageHandlers topic
  constructor
  · intro h slot hslot address hfilter
    have hequals := hnames.mp h.names slot hslot address hfilter
    have hcalled := hhandlers.mp h.handlers slot hslot
    exact ⟨hequals, (calledHandler_registered_iff cfg hfilter hequals).mp hcalled⟩
  · intro h
    have hsame : matchedHandlers cfg c.topics c.messageHandlers topic =
        registeredHandlers c.topics c.messageHandlers topic := by
      refine hhandlers.mpr fun slot hslot => ?_
      cases hfilter : slot.topicFilter with
      | none => rw [calledHandler, registeredHandler, hfilter]
      | some address =>
        obtain ⟨hequals, hattached⟩ := h slot hslot address hfilter
        exact (calledHandler_registered_iff cfg hfilter hequals).mpr hattached
    refine ⟨hsame, ?_, hnames.mpr fun slot hslot address hfilter =>
      (h slot hslot address hfilter).1⟩
    rw [← hsame]
    rfl

def predefinedSeven : Client OracleTimer :=
  { Client.construct (.standard .qos1) 30000 .oracle 0 false with
    messageHandlers := [⟨some 100, some 1⟩]
    topics := fun _ => (IdTopic.predefined 7).topicId }

theorem deliverMessage_reads_ids :
    let topic := (IdTopic.predefined 8).topicId
    let message : Message := ⟨.QOS0, 0, 0, 0, [42], 1⟩
    comparedNames predefinedSeven.topics predefinedSeven.messageHandlers topic =
      [(IdTopic.predefined 7).topicId] ∧
    matchedHandlers (.standard .qos1) predefinedSeven.topics predefinedSeven.messageHandlers topic =
      [1] ∧
    ¬DeliversById (.standard .qos1) predefinedSeven (.answered [] 0) topic message :=
  ⟨by decide, by decide, fun h => absurd h.names (by decide)⟩

end MbedMqtt.MQTTSN
