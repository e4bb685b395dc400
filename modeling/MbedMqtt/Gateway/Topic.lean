import Mathlib.Data.List.TakeWhile
import MbedMqtt.Packet.Wire

namespace MbedMqtt.MQTTSNGW

abbrev MAX_TOPIC_PAR_CLIENT : UInt8 := 50
abbrev MAX_INFLIGHTMESSAGES : Int := 10

inductive TopicType where
  | normal
  | predefined
  | short
  | reserved
  deriving DecidableEq, Repr

structure TopicName where
  bytes : Bytes
  bounded : bytes.length < 65536
  deriving DecidableEq, Repr

inductive TopicData where
  | id (value : UInt16)
  | shortName (first second : UInt8)
  | long (name : TopicName) (address : Nat)
  deriving DecidableEq, Repr

def TopicData.idField : TopicData → UInt16
  | .id value => value
  | .shortName first second => UInt16.ofNat (first.toNat + 256 * second.toNat)
  | .long _ address => UInt16.ofNat address

def TopicData.shortField : TopicData → Bytes
  | .shortName first second => [first, second]
  | .id value => [UInt8.ofNat value.toNat, UInt8.ofNat (value.toNat / 256)]
  | .long _ address => [UInt8.ofNat address, UInt8.ofNat (address / 256)]

structure TopicId where
  type : TopicType
  data : TopicData
  deriving DecidableEq, Repr

def cStr (s : Bytes) : Bytes := s.takeWhile (· ≠ 0)

theorem cStr_eq {text : Bytes} (h : 0 ∉ text) : cStr text = text := by
  rw [cStr, List.takeWhile_eq_self_iff]
  intro byte hbyte
  rw [decide_eq_true_iff]
  rintro rfl
  exact h hbyte

theorem zero_not_mem_cStr (text : Bytes) : 0 ∉ cStr text := by
  intro h
  simpa using List.mem_takeWhile_imp h

def TopicName.cString (name : TopicName) : TopicName where
  bytes := cStr name.bytes
  bounded := Nat.lt_of_le_of_lt (List.takeWhile_prefix _).length_le name.bounded

theorem TopicName.cString_cString (name : TopicName) : name.cString.cString = name.cString := by
  simp only [cString, cStr, List.takeWhile_idem]

structure Topic where
  type : TopicType
  topicId : UInt16
  topicName : TopicName
  terminated : topicName.cString = topicName
  deriving DecidableEq, Repr

def find (s : Bytes) (c : UInt8) (pos : Nat) : Option Nat :=
  ((s.drop pos).findIdx? (· = c)).map (pos + ·)

def substr (s : Bytes) (pos : Nat) (len : Nat) : Bytes := (s.drop pos).take len

def slash : UInt8 := 0x2f
def wildcard : Bytes := [0x23]
def wildcards : Bytes := [0x2b]

def isMatchLoop (filter topicName : Bytes) : Nat → Nat → Nat → Bool
  | 0, _, _ => false
  | fuel + 1, tpos, pos =>
      match find topicName slash pos, find filter slash tpos with
      | some loc, some tloc =>
          let subtopic := substr topicName pos (loc - pos)
          let subtopict := substr filter tpos (tloc - tpos)
          if subtopict = wildcard then true
          else if subtopict = wildcards then
            if filter.length < tloc + 1 then (find topicName slash (loc + 1)).isNone
            else isMatchLoop filter topicName fuel (tloc + 1) (loc + 1)
          else if subtopic ≠ subtopict then false
          else if filter.length < tloc + 1 then false
          else isMatchLoop filter topicName fuel (tloc + 1) (loc + 1)
      | none, none =>
          let subtopic := topicName.drop pos
          let subtopict := filter.drop tpos
          if subtopict = wildcard ∨ subtopict = wildcards then true else subtopic = subtopict
      | none, some tloc =>
          let subtopic := topicName.drop pos
          let subtopict := substr filter tpos (tloc - tpos)
          if subtopic ≠ subtopict then false else filter.drop (tloc + 1) = wildcard
      | some _, none => filter.drop tpos = wildcard

-- one round of the loop: its result, or `tpos` and `pos` of the next round
def isMatchRound (filter topicName : Bytes) (tpos pos : Nat) : Bool ⊕ Nat × Nat :=
  match find topicName slash pos, find filter slash tpos with
  | some loc, some tloc =>
      let subtopic := substr topicName pos (loc - pos)
      let subtopict := substr filter tpos (tloc - tpos)
      if subtopict = wildcard then .inl true
      else if subtopict = wildcards then
        if filter.length < tloc + 1 then .inl (find topicName slash (loc + 1)).isNone
        else .inr (tloc + 1, loc + 1)
      else if subtopic ≠ subtopict then .inl false
      else if filter.length < tloc + 1 then .inl false
      else .inr (tloc + 1, loc + 1)
  | none, none =>
      let subtopic := topicName.drop pos
      let subtopict := filter.drop tpos
      if subtopict = wildcard ∨ subtopict = wildcards then .inl true
      else .inl (subtopic = subtopict)
  | none, some tloc =>
      let subtopic := topicName.drop pos
      let subtopict := substr filter tpos (tloc - tpos)
      if subtopic ≠ subtopict then .inl false else .inl (filter.drop (tloc + 1) = wildcard)
  | some _, none => .inl (filter.drop tpos = wildcard)

theorem isMatchLoop_round (filter topicName : Bytes) (fuel tpos pos : Nat) :
    isMatchLoop filter topicName (fuel + 1) tpos pos =
      match isMatchRound filter topicName tpos pos with
      | .inl result => result
      | .inr (tpos, pos) => isMatchLoop filter topicName fuel tpos pos := by
  rw [isMatchLoop, isMatchRound]
  rcases find topicName slash pos with _ | loc
  · rcases find filter slash tpos with _ | tloc
    · simp only
      split_ifs <;> rfl
    · simp only
      split_ifs <;> rfl
  · rcases find filter slash tpos with _ | tloc
    · rfl
    · simp only
      split_ifs <;> rfl

def Topic.isMatch (topic : Topic) (topicName : TopicName) : Bool :=
  isMatchLoop topic.topicName.bytes topicName.bytes (topicName.bytes.length + 1) 0 0

structure Topics where
  list : List Topic
  nextTopicId : UInt16
  cnt : UInt8
  deriving DecidableEq, Repr

namespace Topics

def initial : Topics := ⟨[], 0, 0⟩

def getTopicByName (topics : Topics) (name : TopicName) : Option Topic :=
  topics.list.find? (·.topicName = name)

def getTopicById (topics : Topics) (topicid : TopicId) : Option Topic :=
  topics.list.find? fun p => p.type = topicid.type ∧ p.topicId = topicid.data.idField

def getNextTopicId (nextTopicId : UInt16) : UInt16 :=
  if nextTopicId + 1 = 0xffff then nextTopicId + 1 + 2 else nextTopicId + 1

def push (topics : Topics) (topic : Topic) (nextTopicId : UInt16) : Topics × Option Topic :=
  (⟨topics.list ++ [topic], nextTopicId, topics.cnt + 1⟩, some topic)

def addId (topics : Topics) (topicName : TopicName) (id : UInt16) : Topics × Option Topic :=
  if MAX_TOPIC_PAR_CLIENT ≤ topics.cnt then (topics, none)
  else
    let name := topicName.cString
    match topics.getTopicByName name with
    | some topic => (topics, some topic)
    | none =>
        if id = 0 then
          let next := getNextTopicId topics.nextTopicId
          topics.push ⟨.normal, next, name, topicName.cString_cString⟩ next
        else topics.push ⟨.predefined, id, name, topicName.cString_cString⟩ topics.nextTopicId

def add (topics : Topics) (type : TopicType) (name : TopicName) : Topics × Option Topic :=
  if type ≠ .normal then (topics, none)
  else
    match topics.getTopicByName name with
    | some topic => (topics, some topic)
    | none => topics.addId name 0

def matchTopic (topics : Topics) (type : TopicType) (name : TopicName) : Option Topic :=
  if type ≠ .normal then none else topics.list.find? (·.isMatch name)

def eraseNormal (topics : Topics) : Topics where
  list := topics.list.filter (·.type ≠ .normal)
  nextTopicId := topics.nextTopicId
  cnt := topics.cnt - UInt8.ofNat (topics.list.countP (·.type = .normal))

variable {topics : Topics} {name : TopicName} {id : UInt16} {topic : Topic}

theorem addId_full (h : MAX_TOPIC_PAR_CLIENT ≤ topics.cnt) : topics.addId name id = (topics, none) :=
  if_pos h

theorem addId_known (h : ¬MAX_TOPIC_PAR_CLIENT ≤ topics.cnt)
    (hknown : topics.getTopicByName name.cString = some topic) :
    topics.addId name id = (topics, some topic) := by
  simp only [addId, if_neg h, hknown]

theorem addId_new (h : ¬MAX_TOPIC_PAR_CLIENT ≤ topics.cnt)
    (hnew : topics.getTopicByName name.cString = none) :
    topics.addId name 0 =
      topics.push ⟨.normal, getNextTopicId topics.nextTopicId, name.cString, name.cString_cString⟩
        (getNextTopicId topics.nextTopicId) := by
  simp only [addId, if_neg h, hnew, if_true]

theorem addId_predefined (h : ¬MAX_TOPIC_PAR_CLIENT ≤ topics.cnt)
    (hnew : topics.getTopicByName name.cString = none) (hid : id ≠ 0) :
    topics.addId name id =
      topics.push ⟨.predefined, id, name.cString, name.cString_cString⟩ topics.nextTopicId := by
  simp only [addId, if_neg h, hnew, if_neg hid]

theorem getTopicByName_name (h : topics.getTopicByName name = some topic) :
    topic.topicName = name := by
  simpa using List.find?_some h

theorem addId_name (h : (topics.addId name id).2 = some topic) : topic.topicName = name.cString := by
  by_cases hfull : MAX_TOPIC_PAR_CLIENT ≤ topics.cnt
  · simp [addId_full hfull] at h
  · cases hknown : topics.getTopicByName name.cString with
    | some known =>
      rw [addId_known hfull hknown] at h
      obtain rfl : known = topic := by simpa using h
      exact getTopicByName_name hknown
    | none =>
      by_cases hid : id = 0
      · subst hid
        rw [addId_new hfull hknown] at h
        obtain rfl := Option.some.inj h
        rfl
      · rw [addId_predefined hfull hknown hid] at h
        obtain rfl := Option.some.inj h
        rfl

theorem addId_isSome (h : ¬MAX_TOPIC_PAR_CLIENT ≤ topics.cnt) : (topics.addId name id).2.isSome := by
  cases hknown : topics.getTopicByName name.cString with
  | some known => rw [addId_known h hknown]; rfl
  | none =>
    by_cases hid : id = 0
    · subst hid
      rw [addId_new h hknown]
      rfl
    · rw [addId_predefined h hknown hid]
      rfl

theorem getTopicByName_push_known {other : Topic} {next : UInt16}
    (h : topics.getTopicByName name = some topic) :
    (topics.push other next).1.getTopicByName name = some topic := by
  simp only [getTopicByName, push, List.find?_append] at h ⊢
  rw [h, Option.some_or]

theorem getTopicByName_push_new {next : UInt16} (h : topics.getTopicByName topic.topicName = none) :
    (topics.push topic next).1.getTopicByName topic.topicName = some topic := by
  simp only [getTopicByName, push, List.find?_append] at h ⊢
  rw [h, Option.none_or]
  simp

theorem add_fresh {added : Topics} (hnew : topics.getTopicByName name = none)
    (htext : name.cString = name) (h : topics.add .normal name = (added, some topic)) :
    ¬MAX_TOPIC_PAR_CLIENT ≤ topics.cnt ∧ topic.type = .normal ∧
      topic.topicId = getNextTopicId topics.nextTopicId ∧ topic.topicName = name ∧
      added = (topics.push topic topic.topicId).1 := by
  simp only [add, ne_eq, not_true_eq_false, if_false, hnew] at h
  by_cases hfull : MAX_TOPIC_PAR_CLIENT ≤ topics.cnt
  · simp [addId_full hfull] at h
  · rw [addId_new hfull (by rw [htext]; exact hnew)] at h
    simp only [push, Prod.mk.injEq, Option.some.injEq] at h
    obtain ⟨rfl, rfl⟩ := h
    exact ⟨hfull, rfl, rfl, htext, rfl⟩

end Topics

structure TopicIdMapElement where
  msgId : UInt16
  topicId : UInt16
  type : TopicType
  deriving DecidableEq, Repr

structure TopicIdMap where
  elements : List TopicIdMapElement
  cnt : Int
  deriving DecidableEq, Repr

namespace TopicIdMap

def initial : TopicIdMap := ⟨[], 0⟩

def getElement (map : TopicIdMap) (msgId : UInt16) : Option TopicIdMapElement :=
  map.elements.find? (·.msgId = msgId)

def erase (map : TopicIdMap) (msgId : UInt16) : TopicIdMap where
  elements := map.elements.eraseP (·.msgId = msgId)
  cnt := map.cnt - 1

def add (map : TopicIdMap) (msgId topicId : UInt16) (type : TopicType) : TopicIdMap :=
  if MAX_INFLIGHTMESSAGES * 2 < map.cnt ∨ (topicId = 0 ∧ type ≠ .short) then map
  else
    let map := if (map.getElement msgId).isSome then map.erase msgId else map
    ⟨map.elements ++ [⟨msgId, topicId, type⟩], map.cnt + 1⟩

end TopicIdMap

end MbedMqtt.MQTTSNGW
