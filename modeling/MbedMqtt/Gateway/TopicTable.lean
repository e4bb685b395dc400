import Mathlib.Data.List.Nodup
import Mathlib.Data.List.Range
import MbedMqtt.Gateway.Topic

namespace MbedMqtt.MQTTSNGW

def idAt (n : Nat) : UInt16 := UInt16.ofNat (n % 65534 + 1)

theorem idAt_toNat (n : Nat) : (idAt n).toNat = n % 65534 + 1 := by
  rw [idAt, UInt16.toNat_ofNat']
  omega

theorem idAt_ne_zero (n : Nat) : idAt n ≠ 0 := by
  intro h
  have hn := congrArg UInt16.toNat h
  rw [idAt_toNat] at hn
  simp at hn

theorem idAt_eq_iff {n m : Nat} : idAt n = idAt m ↔ n % 65534 = m % 65534 := by
  constructor
  · intro h
    have hnat := congrArg UInt16.toNat h
    rw [idAt_toNat, idAt_toNat] at hnat
    exact Nat.add_right_cancel hnat
  · intro h
    rw [idAt, idAt, h]

theorem idAt_add_mod (n k : Nat) : idAt (n + k % 65534) = idAt (n + k) :=
  idAt_eq_iff.mpr (Nat.add_mod_mod ..)

theorem idAt_inj {base n m : Nat} (hn : base ≤ n ∧ n ≤ base + 50) (hm : base ≤ m ∧ m ≤ base + 50)
    (h : idAt n = idAt m) : n = m := by
  rw [idAt_eq_iff] at h
  omega

theorem nodup_idAt (base : Nat) {len : Nat} (h : len ≤ 50) :
    ((List.range' base len).map idAt).Nodup := by
  apply List.Nodup.map_on ?_ List.nodup_range'
  intro n hn m hm hid
  rw [List.mem_range'_1] at hn hm
  exact idAt_inj ⟨hn.1, by omega⟩ ⟨hm.1, by omega⟩ hid

theorem getNextTopicId_zero : Topics.getNextTopicId 0 = idAt 0 := rfl

theorem getNextTopicId_idAt (n : Nat) : Topics.getNextTopicId (idAt n) = idAt (n + 1) := by
  have hadd : (idAt n + 1).toNat = n % 65534 + 2 := by
    rw [UInt16.toNat_add, idAt_toNat, UInt16.toNat_one]
    omega
  unfold Topics.getNextTopicId
  split
  · rename_i hlast
    have hn := congrArg UInt16.toNat hlast
    rw [hadd] at hn
    have hwrap : n % 65534 = 65533 := by simpa using hn
    apply UInt16.toNat_inj.mp
    rw [hlast, idAt_toNat]
    have hzero : (n + 1) % 65534 = 0 := by omega
    rw [hzero]
    rfl
  · rename_i hnext
    apply UInt16.toNat_inj.mp
    rw [hadd, idAt_toNat]
    have hne : n % 65534 ≠ 65533 := by
      intro hwrap
      apply hnext
      apply UInt16.toNat_inj.mp
      rw [hadd, hwrap]
      rfl
    omega

namespace Topics

def normal (topics : Topics) : List Topic := topics.list.filter (·.type = .normal)

structure Sound (topics : Topics) : Prop where
  counted : topics.cnt.toNat = topics.list.length
  fits : topics.list.length ≤ 50
  nonzero : ∀ topic ∈ topics.list, topic.topicId ≠ 0
  numbered : ∃ base, getNextTopicId topics.nextTopicId = idAt (base + topics.normal.length) ∧
    topics.normal.map (·.topicId) = (List.range' base topics.normal.length).map idAt

theorem sound_initial : initial.Sound where
  counted := rfl
  fits := Nat.zero_le 50
  nonzero := by simp [initial]
  numbered := ⟨0, getNextTopicId_zero, rfl⟩

section Sound

variable {topics : Topics} {name : TopicName} {id : UInt16}

theorem normal_length_le (topics : Topics) : topics.normal.length ≤ topics.list.length :=
  List.length_filter_le _ _

theorem Sound.getNextTopicId_ne_zero (h : topics.Sound) : getNextTopicId topics.nextTopicId ≠ 0 := by
  obtain ⟨base, hnext, -⟩ := h.numbered
  rw [hnext]
  exact idAt_ne_zero _

theorem Sound.room (h : topics.Sound) (hroom : ¬MAX_TOPIC_PAR_CLIENT ≤ topics.cnt) :
    topics.list.length < 50 := by
  have hlt := UInt8.lt_iff_toNat_lt.mp (UInt8.not_le.mp hroom)
  rw [h.counted] at hlt
  exact hlt

theorem Sound.counted_push (h : topics.Sound) (hroom : ¬MAX_TOPIC_PAR_CLIENT ≤ topics.cnt)
    (topic : Topic) : (topics.cnt + 1).toNat = (topics.list ++ [topic]).length := by
  have hlt := h.room hroom
  rw [UInt8.toNat_add, h.counted, List.length_append, List.length_singleton, UInt8.toNat_one]
  omega

theorem Sound.fits_push (h : topics.Sound) (hroom : ¬MAX_TOPIC_PAR_CLIENT ≤ topics.cnt)
    (topic : Topic) : (topics.list ++ [topic]).length ≤ 50 := by
  have hlt := h.room hroom
  rw [List.length_append, List.length_singleton]
  exact hlt

theorem Sound.nonzero_push (h : topics.Sound) {topic : Topic} (hid : topic.topicId ≠ 0) :
    ∀ t ∈ topics.list ++ [topic], t.topicId ≠ 0 := by
  intro t ht
  rcases List.mem_append.mp ht with ht | ht
  · exact h.nonzero t ht
  · obtain rfl := List.mem_singleton.mp ht
    exact hid

theorem Sound.pushNormal (h : topics.Sound) (hroom : ¬MAX_TOPIC_PAR_CLIENT ≤ topics.cnt)
    {topic : Topic} (htype : topic.type = .normal)
    (hid : topic.topicId = getNextTopicId topics.nextTopicId) :
    (topics.push topic topic.topicId).1.Sound := by
  obtain ⟨base, hnext, hids⟩ := h.numbered
  have hnormal : (topics.push topic topic.topicId).1.normal = topics.normal ++ [topic] := by
    simp [push, normal, htype]
  have hne : topic.topicId ≠ 0 := by
    rw [hid]
    exact h.getNextTopicId_ne_zero
  refine ⟨h.counted_push hroom topic, h.fits_push hroom topic, h.nonzero_push hne, base, ?_, ?_⟩
  · rw [hnormal, List.length_append, List.length_singleton]
    simp only [push]
    rw [hid, hnext, getNextTopicId_idAt]
    rfl
  · rw [hnormal, List.map_append, hids, List.length_append, List.length_singleton,
      List.range'_1_concat, List.map_append, List.map_singleton, List.map_singleton, hid, hnext]

theorem Sound.pushPredefined (h : topics.Sound) (hroom : ¬MAX_TOPIC_PAR_CLIENT ≤ topics.cnt)
    {topic : Topic} (htype : topic.type = .predefined) (hid : topic.topicId ≠ 0) :
    (topics.push topic topics.nextTopicId).1.Sound := by
  have hnormal : (topics.push topic topics.nextTopicId).1.normal = topics.normal := by
    simp [push, normal, htype]
  refine ⟨h.counted_push hroom topic, h.fits_push hroom topic, h.nonzero_push hid, ?_⟩
  rw [hnormal]
  exact h.numbered

theorem Sound.addId (h : topics.Sound) : (topics.addId name id).1.Sound := by
  by_cases hfull : MAX_TOPIC_PAR_CLIENT ≤ topics.cnt
  · rwa [addId_full hfull]
  · cases hknown : topics.getTopicByName name.cString with
    | some known => rwa [addId_known hfull hknown]
    | none =>
      by_cases hid : id = 0
      · subst hid
        rw [addId_new hfull hknown]
        exact h.pushNormal hfull rfl rfl
      · rw [addId_predefined hfull hknown hid]
        exact h.pushPredefined hfull rfl hid

theorem Sound.add (h : topics.Sound) (type : TopicType) : (topics.add type name).1.Sound := by
  unfold Topics.add
  split
  · exact h
  · split
    · exact h
    · exact h.addId

theorem addId_mem {topic : Topic} (h : (topics.addId name id).2 = some topic) :
    topic ∈ (topics.addId name id).1.list := by
  by_cases hfull : MAX_TOPIC_PAR_CLIENT ≤ topics.cnt
  · simp [addId_full hfull] at h
  · cases hknown : topics.getTopicByName name.cString with
    | some known =>
      rw [addId_known hfull hknown] at h ⊢
      obtain rfl := Option.some.inj h
      exact List.mem_of_find?_eq_some hknown
    | none =>
      by_cases hid : id = 0
      · subst hid
        rw [addId_new hfull hknown] at h ⊢
        obtain rfl := Option.some.inj h
        exact List.mem_append_right _ (List.mem_singleton_self _)
      · rw [addId_predefined hfull hknown hid] at h ⊢
        obtain rfl := Option.some.inj h
        exact List.mem_append_right _ (List.mem_singleton_self _)

theorem add_mem {type : TopicType} {topic : Topic} (h : (topics.add type name).2 = some topic) :
    topic ∈ (topics.add type name).1.list := by
  unfold Topics.add at h ⊢
  split at h
  · cases h
  · cases hknown : topics.getTopicByName name with
    | some known =>
      rw [hknown] at h
      obtain rfl := Option.some.inj h
      rw [if_neg ‹_›]
      exact List.mem_of_find?_eq_some hknown
    | none =>
      rw [hknown] at h
      rw [if_neg ‹_›]
      exact addId_mem h

theorem Sound.added_ne_zero (h : topics.Sound) {type : TopicType} {added : Topics} {topic : Topic}
    (hadd : topics.add type name = (added, some topic)) : topic.topicId ≠ 0 := by
  apply (h.add type).nonzero
  apply add_mem
  rw [hadd]

theorem Sound.counted_eraseNormal (h : topics.Sound) :
    topics.eraseNormal.cnt.toNat = topics.eraseNormal.list.length := by
  have hsplit := List.length_eq_countP_add_countP (fun t : Topic => decide (t.type = .normal))
    (l := topics.list)
  have hkept : topics.eraseNormal.list.length =
      topics.list.countP (fun t => ¬decide (t.type = .normal)) := by
    simp [Topics.eraseNormal, List.countP_eq_length_filter]
  have hfits := h.fits
  have hcount : (UInt8.ofNat (topics.list.countP (·.type = .normal))).toNat =
      topics.list.countP (·.type = .normal) := by
    rw [UInt8.toNat_ofNat']
    omega
  rw [Topics.eraseNormal, UInt8.toNat_sub_of_le, hcount, h.counted, ← Topics.eraseNormal, hkept]
  · omega
  · rw [UInt8.le_iff_toNat_le, hcount, h.counted]
    omega

theorem Sound.eraseNormal (h : topics.Sound) : topics.eraseNormal.Sound := by
  obtain ⟨base, hnext, -⟩ := h.numbered
  have hnone : topics.eraseNormal.normal = [] := by
    simp [Topics.eraseNormal, normal, List.filter_filter]
  refine ⟨h.counted_eraseNormal, ?_, ?_, base + topics.normal.length, ?_, ?_⟩
  · exact (List.length_filter_le _ _).trans h.fits
  · intro t ht
    exact h.nonzero t (List.mem_of_mem_filter ht)
  · rw [hnone, List.length_nil, Nat.add_zero]
    exact hnext
  · rw [hnone]
    rfl

theorem Sound.nodup_normal (h : topics.Sound) : (topics.normal.map (·.topicId)).Nodup := by
  obtain ⟨base, -, hids⟩ := h.numbered
  rw [hids]
  exact nodup_idAt base ((normal_length_le topics).trans h.fits)

theorem Sound.normal_inj (h : topics.Sound) {t u : Topic} (ht : t ∈ topics.list)
    (hu : u ∈ topics.list) (htype : t.type = .normal) (hutype : u.type = .normal)
    (hid : t.topicId = u.topicId) : t = u :=
  List.inj_on_of_nodup_map h.nodup_normal (List.mem_filter.mpr ⟨ht, by simpa using htype⟩)
    (List.mem_filter.mpr ⟨hu, by simpa using hutype⟩) hid

end Sound

inductive Built : Topics → Prop
  | initial : Built .initial
  | addId {topics : Topics} (h : Built topics) (name : TopicName) (id : UInt16) :
      Built (topics.addId name id).1
  | add {topics : Topics} (h : Built topics) (type : TopicType) (name : TopicName) :
      Built (topics.add type name).1
  | eraseNormal {topics : Topics} (h : Built topics) : Built topics.eraseNormal

theorem Built.sound {topics : Topics} (h : Built topics) : topics.Sound := by
  induction h with
  | initial => exact sound_initial
  | addId _ name id ih => exact ih.addId
  | add _ type name ih => exact ih.add type
  | eraseNormal _ ih => exact ih.eraseNormal

end Topics

end MbedMqtt.MQTTSNGW
