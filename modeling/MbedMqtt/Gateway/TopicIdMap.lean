import Mathlib.Data.List.Nodup
import MbedMqtt.Gateway.Topic

namespace MbedMqtt.MQTTSNGW

namespace TopicIdMap

structure WellKept (map : TopicIdMap) : Prop where
  distinct : (map.elements.map (·.msgId)).Nodup
  counted : map.cnt = map.elements.length

variable {map : TopicIdMap} {msgId other topicId : UInt16} {type : TopicType}
  {element : TopicIdMapElement}

theorem WellKept.initial : TopicIdMap.initial.WellKept := ⟨List.nodup_nil, rfl⟩

theorem eraseP_eq_filter {elements : List TopicIdMapElement}
    (h : (elements.map (·.msgId)).Nodup) (msgId : UInt16) :
    elements.eraseP (·.msgId = msgId) = elements.filter (·.msgId ≠ msgId) := by
  induction elements with
  | nil => rfl
  | cons element elements ih =>
    obtain ⟨hfirst, hrest⟩ := List.nodup_cons.mp h
    by_cases hid : element.msgId = msgId
    · have hall : elements.filter (·.msgId ≠ msgId) = elements := by
        rw [List.filter_eq_self]
        intro later hlater
        have hne : later.msgId ≠ msgId := by
          intro heq
          exact hfirst (List.mem_map.mpr ⟨later, hlater, heq.trans hid.symm⟩)
        simpa using hne
      rw [List.eraseP_cons_of_pos (by simpa using hid), List.filter_cons_of_neg (by simpa using hid),
        hall]
    · rw [List.eraseP_cons_of_neg (by simpa using hid), List.filter_cons_of_pos (by simpa using hid),
        ih hrest]

theorem getElement_eq_none : map.getElement msgId = none ↔ msgId ∉ map.elements.map (·.msgId) := by
  rw [getElement, List.find?_eq_none, List.mem_map]
  simp

theorem WellKept.erase_elements (h : map.WellKept) (msgId : UInt16) :
    (map.erase msgId).elements = map.elements.filter (·.msgId ≠ msgId) :=
  eraseP_eq_filter h.distinct msgId

theorem WellKept.erase (h : map.WellKept) (hknown : map.getElement msgId = some element) :
    (map.erase msgId).WellKept := by
  refine ⟨h.distinct.sublist (List.eraseP_sublist.map _), ?_⟩
  have hmem := List.mem_of_find?_eq_some hknown
  have hid := List.find?_some hknown
  have hlen : (map.elements.eraseP (·.msgId = msgId)).length = map.elements.length - 1 :=
    List.length_eraseP_of_mem hmem hid
  have hpos := List.length_pos_of_mem hmem
  simp only [TopicIdMap.erase, h.counted, hlen]
  omega

theorem WellKept.mem_erase (h : map.WellKept) :
    other ∈ (map.erase msgId).elements.map (·.msgId) ↔
      other ∈ map.elements.map (·.msgId) ∧ other ≠ msgId := by
  simp only [h.erase_elements, List.mem_map, List.mem_filter, decide_eq_true_eq]
  constructor
  · rintro ⟨element, ⟨hmem, hne⟩, rfl⟩
    exact ⟨⟨element, hmem, rfl⟩, hne⟩
  · rintro ⟨⟨element, hmem, rfl⟩, hne⟩
    exact ⟨element, ⟨hmem, hne⟩, rfl⟩

def refuses (map : TopicIdMap) (topicId : UInt16) (type : TopicType) : Prop :=
  MAX_INFLIGHTMESSAGES * 2 < map.cnt ∨ (topicId = 0 ∧ type ≠ .short)

theorem add_refused (h : map.refuses topicId type) : map.add msgId topicId type = map := if_pos h

theorem add_fresh (h : ¬map.refuses topicId type) (hnew : map.getElement msgId = none) :
    map.add msgId topicId type = ⟨map.elements ++ [⟨msgId, topicId, type⟩], map.cnt + 1⟩ := by
  simp only [refuses] at h
  simp only [add, if_neg h, hnew]
  rfl

theorem add_known (h : ¬map.refuses topicId type) (hknown : map.getElement msgId = some element) :
    map.add msgId topicId type =
      ⟨(map.erase msgId).elements ++ [⟨msgId, topicId, type⟩], (map.erase msgId).cnt + 1⟩ := by
  simp only [refuses] at h
  simp only [add, if_neg h, hknown]
  rfl

theorem WellKept.push (h : map.WellKept) (hnew : map.getElement msgId = none) :
    WellKept ⟨map.elements ++ [⟨msgId, topicId, type⟩], map.cnt + 1⟩ := by
  rw [getElement_eq_none] at hnew
  refine ⟨?_, ?_⟩
  · rw [List.map_append, List.nodup_append_comm]
    exact List.nodup_cons.mpr ⟨hnew, h.distinct⟩
  · simp [h.counted]

theorem WellKept.getElement_erase (h : map.WellKept) : (map.erase msgId).getElement msgId = none := by
  rw [getElement_eq_none, h.mem_erase]
  exact fun hmem => hmem.2 rfl

theorem WellKept.add (h : map.WellKept) (msgId topicId : UInt16) (type : TopicType) :
    (map.add msgId topicId type).WellKept := by
  by_cases hrefuses : map.refuses topicId type
  · rwa [add_refused hrefuses]
  · cases hknown : map.getElement msgId with
    | none =>
      rw [add_fresh hrefuses hknown]
      exact h.push hknown
    | some element =>
      rw [add_known hrefuses hknown]
      exact (h.erase hknown).push h.getElement_erase

theorem WellKept.mem_add (h : map.WellKept) (hrefuses : ¬map.refuses topicId type) :
    other ∈ (map.add msgId topicId type).elements.map (·.msgId) ↔
      other ∈ map.elements.map (·.msgId) ∨ other = msgId := by
  cases hknown : map.getElement msgId with
  | none =>
    rw [add_fresh hrefuses hknown, List.map_append, List.mem_append]
    simp
  | some element =>
    rw [add_known hrefuses hknown, List.map_append, List.mem_append, h.mem_erase]
    by_cases hother : other = msgId
    · simp [hother]
    · simp [hother]

end TopicIdMap

end MbedMqtt.MQTTSNGW
