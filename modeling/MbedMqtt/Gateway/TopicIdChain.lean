import MbedMqtt.Gateway.MessageIdTable
import MbedMqtt.Gateway.TopicIdMap
import MbedMqtt.Library.DoublyLinked

namespace MbedMqtt.MQTTSNGW

-- TopicIdMap as it is linked: the head and the tail of the list are `_first` and `_end`
structure TopicIdChain where
  list : DList TopicIdMapElement
  cnt : Int

namespace TopicIdChain

def initial : TopicIdChain := ⟨.empty, 0⟩

def getElement (map : TopicIdChain) (msgId : UInt16) : Option (Option Nat) :=
  map.list.find (·.msgId = msgId)

def erase (map : TopicIdChain) (msgId : UInt16) : Option TopicIdChain :=
  match map.getElement msgId with
  | none => none
  | some none => some ⟨map.list, map.cnt - 1⟩
  | some (some p) => (map.list.detach p).map fun list => ⟨list.free p, map.cnt - 1⟩

def eraseKnown (map : TopicIdChain) (msgId : UInt16) : Option TopicIdChain :=
  match map.getElement msgId with
  | none => none
  | some none => some map
  | some (some _) => map.erase msgId

def add (map : TopicIdChain) (msgId topicId : UInt16) (type : TopicType) : Option TopicIdChain :=
  if MAX_INFLIGHTMESSAGES * 2 < map.cnt ∨ (topicId = 0 ∧ type ≠ .short) then some map
  else (map.eraseKnown msgId).bind fun map =>
    (map.list.append ⟨msgId, topicId, type⟩).map fun list => ⟨list, map.cnt + 1⟩

def clear (map : TopicIdChain) : Option TopicIdChain := map.list.clear.map fun list => ⟨list, 0⟩

end TopicIdChain

def TopicIdMap.clear (_ : TopicIdMap) : TopicIdMap := .initial

structure TopicIdChain.Represents (chain : TopicIdChain) (map : TopicIdMap) : Prop where
  carries : ∃ cells, chain.list.Carries cells ∧ cells.map (·.2) = map.elements
  cnt : chain.cnt = map.cnt

namespace TopicIdChain

variable {chain : TopicIdChain} {map : TopicIdMap}

theorem represents_initial : initial.Represents .initial :=
  ⟨⟨[], DList.carries_empty, rfl⟩, rfl⟩

theorem Represents.getElement (h : chain.Represents map) (msgId : UInt16) :
    ∃ p, chain.getElement msgId = some p ∧ (p.isSome ↔ (map.getElement msgId).isSome) := by
  obtain ⟨cells, hcarries, hcells⟩ := h.carries
  refine ⟨_, hcarries.chained.find _, ?_⟩
  rw [TopicIdMap.getElement, ← hcells, List.find?_map, Option.isSome_map, Option.isSome_map]
  rfl

theorem Represents.erase (h : chain.Represents map) (msgId : UInt16) :
    ∃ erased, chain.erase msgId = some erased ∧ erased.Represents (map.erase msgId) := by
  obtain ⟨cells, hcarries, hcells⟩ := h.carries
  have hfind : chain.getElement msgId = _ := hcarries.chained.find _
  simp only [TopicIdChain.erase, hfind]
  cases hfound : cells.find? (fun entry => decide (entry.2.msgId = msgId)) with
  | none =>
    refine ⟨⟨chain.list, chain.cnt - 1⟩, rfl, ⟨cells, hcarries, ?_⟩, congrArg (· - 1) h.cnt⟩
    rw [TopicIdMap.erase, ← hcells, List.eraseP_of_forall_not]
    intro element helement
    obtain ⟨entry, hentry, rfl⟩ := List.mem_map.mp helement
    exact List.find?_eq_none.mp hfound entry hentry
  | some entry =>
    obtain ⟨xs, ys, rfl, -, herase, -⟩ := find?_eraseP_split
      (p := fun element : TopicIdMapElement => decide (element.msgId = msgId)) hfound
    obtain ⟨-, detached, hdetach, -, hfreed⟩ := hcarries.detach
    refine ⟨⟨detached.free entry.1, chain.cnt - 1⟩, ?_, ⟨xs ++ ys, hfreed, ?_⟩,
      congrArg (· - 1) h.cnt⟩
    · simp only [Option.map_some, hdetach]
    · rw [TopicIdMap.erase, ← hcells, herase]

theorem Represents.eraseKnown (h : chain.Represents map) (msgId : UInt16) :
    ∃ erased, chain.eraseKnown msgId = some erased ∧
      erased.Represents (if (map.getElement msgId).isSome then map.erase msgId else map) := by
  obtain ⟨p, hget, hknown⟩ := h.getElement msgId
  simp only [TopicIdChain.eraseKnown, hget]
  cases p with
  | none =>
    rw [if_neg (by simpa using hknown)]
    exact ⟨chain, rfl, h⟩
  | some p =>
    rw [if_pos (by simpa using hknown)]
    exact h.erase msgId

theorem Represents.push (h : chain.Represents map) (element : TopicIdMapElement) :
    ∃ added, ((chain.list.append element).map fun list =>
        (⟨list, chain.cnt + 1⟩ : TopicIdChain)) = some added ∧
      added.Represents ⟨map.elements ++ [element], map.cnt + 1⟩ := by
  obtain ⟨cells, hcarries, hcells⟩ := h.carries
  obtain ⟨list, happend, hadded⟩ := hcarries.append element
  refine ⟨⟨list, chain.cnt + 1⟩, by rw [happend]; rfl, ⟨_, hadded, ?_⟩, congrArg (· + 1) h.cnt⟩
  rw [List.map_append, hcells]
  rfl

theorem Represents.add (h : chain.Represents map) (msgId topicId : UInt16) (type : TopicType) :
    ∃ added, chain.add msgId topicId type = some added ∧
      added.Represents (map.add msgId topicId type) := by
  obtain ⟨erased, herased, hreps⟩ := h.eraseKnown msgId
  obtain ⟨added, hadd, hpushed⟩ := hreps.push ⟨msgId, topicId, type⟩
  rw [TopicIdChain.add, TopicIdMap.add, h.cnt, herased, Option.bind_some, hadd]
  split
  · exact ⟨chain, rfl, h⟩
  · exact ⟨added, rfl, hpushed⟩

theorem Represents.clear (h : chain.Represents map) :
    ∃ cleared, chain.clear = some cleared ∧ cleared.Represents map.clear := by
  obtain ⟨cells, hcarries, -⟩ := h.carries
  obtain ⟨list, hclear, hempty⟩ := hcarries.clear
  exact ⟨⟨list, 0⟩, by rw [TopicIdChain.clear, hclear]; rfl, ⟨[], hempty, rfl⟩, rfl⟩

end TopicIdChain

end MbedMqtt.MQTTSNGW
