import MbedMqtt.Gateway.TopicIdChain
import MbedMqtt.Library.Steps

namespace MbedMqtt.MQTTSNGW

inductive TopicIdOp where
  | add (msgId topicId : UInt16) (type : TopicType)
  | erase (msgId : UInt16)
  | clear
  deriving DecidableEq, Repr

def TopicIdChain.step (chain : TopicIdChain) : TopicIdOp → Option TopicIdChain
  | .add msgId topicId type => chain.add msgId topicId type
  | .erase msgId => chain.erase msgId
  | .clear => chain.clear

def TopicIdChain.advance (s : Option TopicIdChain) (op : TopicIdOp) : Option TopicIdChain :=
  s.bind (·.step op)

def TopicIdMap.step (map : TopicIdMap) : TopicIdOp → TopicIdMap
  | .add msgId topicId type => map.add msgId topicId type
  | .erase msgId => map.erase msgId
  | .clear => map.clear

-- `cells` are linked forwards and backwards between `_first` and `_end`
structure TopicIdInvariant (chain : TopicIdChain) (cells : List (Nat × TopicIdMapElement)) :
    Prop where
  linked : chain.list.Carries cells
  counted : chain.cnt = cells.length
  distinct : (cells.map (·.2.msgId)).Nodup
  bounded : (cells.length : Int) ≤ 2 * MAX_INFLIGHTMESSAGES + 1

def TopicIdSound (s : Option TopicIdChain) : Prop :=
  ∃ chain cells, s = some chain ∧ TopicIdInvariant chain cells

def ErasesKnown (s : Option TopicIdChain) : TopicIdOp → Prop
  | .erase msgId => ∀ chain ∈ s, chain.getElement msgId ≠ some none
  | _ => True

section Bounded

variable {map : TopicIdMap}

structure TopicIdMap.Bounded (map : TopicIdMap) : Prop extends map.WellKept where
  limit : (map.elements.length : Int) ≤ 2 * MAX_INFLIGHTMESSAGES + 1

theorem TopicIdMap.Bounded.add (h : map.Bounded) (msgId topicId : UInt16) (type : TopicType) :
    (map.add msgId topicId type).Bounded := by
  have hkept := h.toWellKept.add msgId topicId type
  refine ⟨hkept, ?_⟩
  rw [← hkept.counted]
  by_cases hrefuses : map.refuses topicId type
  · rw [TopicIdMap.add_refused hrefuses, h.counted]
    exact h.limit
  · have hroom : map.cnt ≤ MAX_INFLIGHTMESSAGES * 2 :=
      Int.not_lt.mp (not_or.mp hrefuses).1
    cases hknown : map.getElement msgId with
    | none =>
      rw [TopicIdMap.add_fresh hrefuses hknown]
      simp only
      omega
    | some element =>
      rw [TopicIdMap.add_known hrefuses hknown]
      simp only [TopicIdMap.erase]
      omega

theorem TopicIdMap.Bounded.erase_iff (h : map.Bounded) (msgId : UInt16) :
    (map.erase msgId).Bounded ↔ (map.getElement msgId).isSome := by
  cases hknown : map.getElement msgId with
  | none =>
    refine iff_of_false ?_ Bool.false_ne_true
    intro herased
    have hsame : (map.erase msgId).elements = map.elements := by
      apply List.eraseP_of_forall_not
      intro element helement
      exact List.find?_eq_none.mp hknown element helement
    have hcnt := herased.counted
    rw [hsame, ← h.counted] at hcnt
    simp only [TopicIdMap.erase] at hcnt
    omega
  | some element =>
    refine iff_of_true ⟨h.toWellKept.erase hknown, ?_⟩ rfl
    have hle : (map.erase msgId).elements.length ≤ map.elements.length :=
      List.length_eraseP_le
    have hlimit := h.limit
    omega

theorem TopicIdMap.bounded_initial : TopicIdMap.initial.Bounded :=
  ⟨.initial, by decide⟩

end Bounded

variable {chain : TopicIdChain} {map : TopicIdMap}

theorem TopicIdChain.Represents.step (h : chain.Represents map) (op : TopicIdOp) :
    ∃ after, chain.step op = some after ∧ after.Represents (map.step op) := by
  cases op with
  | add msgId topicId type => exact h.add msgId topicId type
  | erase msgId => exact h.erase msgId
  | clear => exact h.clear

theorem topicIdSound_iff (h : chain.Represents map) : TopicIdSound (some chain) ↔ map.Bounded := by
  obtain ⟨cells, hcarries, hcells⟩ := h.carries
  constructor
  · rintro ⟨same, cells', heq, hinv⟩
    obtain rfl := Option.some.inj heq
    have hcells' : cells'.map (·.2) = map.elements := by
      have hcontents := hinv.linked.chained.contents
      rw [hcarries.chained.contents, hcells] at hcontents
      exact (Option.some.inj hcontents).symm
    have hlength : cells'.length = map.elements.length := by rw [← hcells', List.length_map]
    refine ⟨⟨?_, ?_⟩, ?_⟩
    · rw [← hcells', List.map_map]
      exact hinv.distinct
    · rw [← h.cnt, hinv.counted, hlength]
    · rw [← hlength]
      exact hinv.bounded
  · intro hbounded
    have hlength : cells.length = map.elements.length := by rw [← hcells, List.length_map]
    refine ⟨chain, cells, rfl, hcarries, ?_, ?_, ?_⟩
    · rw [h.cnt, hbounded.counted, hlength]
    · have hdistinct := hbounded.distinct
      rw [← hcells, List.map_map] at hdistinct
      exact hdistinct
    · rw [hlength]
      exact hbounded.limit

theorem erasesKnown_iff (h : chain.Represents map) (msgId : UInt16) :
    ErasesKnown (some chain) (.erase msgId) ↔ (map.getElement msgId).isSome := by
  obtain ⟨p, hget, hknown⟩ := h.getElement msgId
  rw [← hknown]
  constructor
  · intro hknows
    cases p with
    | none => exact absurd hget (hknows chain rfl)
    | some p => rfl
  · rintro hp same heq hnone
    obtain rfl := Option.some.inj heq
    rw [hget] at hnone
    rw [Option.some.inj hnone] at hp
    cases hp

theorem sound_step (h : chain.Represents map) (hbounded : map.Bounded) (op : TopicIdOp) :
    (map.step op).Bounded ↔ ErasesKnown (some chain) op := by
  cases op with
  | add msgId topicId type => exact iff_of_true (hbounded.add msgId topicId type) trivial
  | erase msgId =>
    rw [erasesKnown_iff h]
    exact hbounded.erase_iff msgId
  | clear => exact iff_of_true TopicIdMap.bounded_initial trivial

theorem topicIdMap_sound_iff (ops : List TopicIdOp) :
    (∀ n, TopicIdSound ((ops.take n).foldl TopicIdChain.advance (some .initial))) ↔
      Steps TopicIdChain.advance ErasesKnown (some .initial) ops := by
  refine Steps.iff_prefixes_under
    (J := fun s => ∃ chain map, s = some chain ∧ chain.Represents map) ?_ ?_ ?_ ?_
  · rintro s op ⟨chain, map, rfl, h⟩
    obtain ⟨after, hstep, hafter⟩ := h.step op
    exact ⟨after, map.step op, hstep, hafter⟩
  · rintro s op ⟨chain, map, rfl, h⟩ hsound
    obtain ⟨after, hstep, hafter⟩ := h.step op
    have hadvance : TopicIdChain.advance (some chain) op = some after := hstep
    rw [hadvance, topicIdSound_iff hafter]
    exact sound_step h ((topicIdSound_iff h).mp hsound) op
  · exact ⟨.initial, .initial, rfl, TopicIdChain.represents_initial⟩
  · exact (topicIdSound_iff TopicIdChain.represents_initial).mpr TopicIdMap.bounded_initial

theorem erase_absent_uncounted :
    ¬∀ n, TopicIdSound
      (([TopicIdOp.erase 1].take n).foldl TopicIdChain.advance (some .initial)) := by
  intro hall
  obtain ⟨chain, cells, heq, hinv⟩ := hall 1
  obtain rfl : ⟨.empty, -1⟩ = chain := Option.some.inj heq
  have hcounted := hinv.counted
  simp only at hcounted
  omega

end MbedMqtt.MQTTSNGW
