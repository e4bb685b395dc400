import MbedMqtt.Gateway.TopicChain

namespace MbedMqtt.MQTTSNGW

inductive TopicsOp where
  | add (type : TopicType) (name : CharString)
  | addName (name : CharString) (id : UInt16)
  | eraseNormal
  deriving DecidableEq, Repr

namespace TopicChain

def step (topics : TopicChain) : TopicsOp → Option TopicChain
  | .add type name => (topics.add type name.bytes).map (·.1)
  | .addName name id => (topics.addName name.bytes id).map (·.1)
  | .eraseNormal => topics.eraseNormal

def run (topics : TopicChain) (ops : List TopicsOp) : Option TopicChain := ops.foldlM step topics

end TopicChain

namespace TopicTable

def step (table : TopicTable) : TopicsOp → TopicTable
  | .add type name => table.add type name.bytes
  | .addName name id => table.addName name.bytes id
  | .eraseNormal => table.eraseNormal

def run (table : TopicTable) (ops : List TopicsOp) : TopicTable := ops.foldl step table

end TopicTable

section Refinement

variable {topics : TopicChain} {table : TopicTable}

theorem TopicChain.step_represents (h : Represents topics table) (op : TopicsOp) :
    ∃ after, topics.step op = some after ∧ Represents after (table.step op) := by
  cases op with
  | add type name =>
    obtain ⟨added, found, hadd, hrep⟩ := add_represents h type name.bytes
    exact ⟨added, by rw [step, hadd, Option.map_some], hrep⟩
  | addName name id =>
    obtain ⟨added, found, hadd, hrep⟩ := addName_represents h name.bytes id
    exact ⟨added, by rw [step, hadd, Option.map_some], hrep⟩
  | eraseNormal => exact eraseNormal_represents h

theorem TopicChain.run_represents (h : Represents topics table) (ops : List TopicsOp) :
    ∃ after, topics.run ops = some after ∧ Represents after (table.run ops) := by
  induction ops generalizing topics table with
  | nil => exact ⟨topics, rfl, h⟩
  | cons op ops ih =>
    obtain ⟨middle, hstep, hmiddle⟩ := step_represents h op
    obtain ⟨after, hrun, hafter⟩ := ih hmiddle
    refine ⟨after, ?_, hafter⟩
    rw [run, List.foldlM_cons, hstep]
    exact hrun

end Refinement

def Numbered (nextTopicId : UInt16) (ids : List UInt16) : Prop :=
  ∃ base, Topics.getNextTopicId nextTopicId = idAt (base + ids.length) ∧
    ids = (List.range' base ids.length).map idAt

namespace Numbered

variable {nextTopicId : UInt16} {ids : List UInt16}

theorem initial : Numbered 0 [] := ⟨0, getNextTopicId_zero, rfl⟩

theorem next (h : Numbered nextTopicId ids) :
    Numbered (Topics.getNextTopicId nextTopicId) (ids ++ [Topics.getNextTopicId nextTopicId]) := by
  obtain ⟨base, hnext, hids⟩ := h
  refine ⟨base, ?_, ?_⟩
  · rw [List.length_append, List.length_singleton, hnext, getNextTopicId_idAt, Nat.add_assoc]
  · rw [List.length_append, List.length_singleton, List.range'_1_concat, List.map_append, ← hids,
      List.map_singleton, hnext]

theorem forget (h : Numbered nextTopicId ids) : Numbered nextTopicId [] := by
  obtain ⟨base, hnext, -⟩ := h
  exact ⟨base + ids.length, hnext, rfl⟩

theorem nodup (h : Numbered nextTopicId ids) (hlen : ids.length ≤ 50) : ids.Nodup := by
  obtain ⟨base, -, hids⟩ := h
  rw [hids]
  exact nodup_idAt base hlen

theorem bounds (h : Numbered nextTopicId ids) {id : UInt16} (hid : id ∈ ids) :
    1 ≤ id.toNat ∧ id.toNat ≤ 0xfffe := by
  obtain ⟨base, -, hids⟩ := h
  rw [hids] at hid
  obtain ⟨n, -, rfl⟩ := List.mem_map.mp hid
  rw [idAt_toNat]
  omega

end Numbered

namespace TopicTable

def normalIds (entries : List TopicEntry) : List UInt16 :=
  (entries.filter (·.type = .normal)).map (·.topicId)

structure Orderly (table : TopicTable) : Prop where
  counted : table.cnt.toNat = table.entries.length
  fits : table.entries.length ≤ 50
  named : (table.entries.map (·.topicName)).Nodup
  typed : ∀ entry ∈ table.entries, entry.type = .normal ∨ entry.type = .predefined
  numbered : Numbered table.nextTopicId (normalIds table.entries)

theorem orderly_initial : initial.Orderly where
  counted := rfl
  fits := Nat.zero_le 50
  named := List.nodup_nil
  typed := nofun
  numbered := .initial

section Orderly

variable {table : TopicTable} {name : Bytes} {id : UInt16}

theorem normalIds_length_le (entries : List TopicEntry) :
    (normalIds entries).length ≤ entries.length := by
  rw [normalIds, List.length_map]
  exact List.length_filter_le _ _

theorem Orderly.push (h : table.Orderly) (hroom : ¬MAX_TOPIC_PAR_CLIENT ≤ table.cnt)
    (hnew : table.known name = false) (id : UInt16) : (table.push name id).Orderly := by
  have hlt : table.entries.length < 50 := by
    have hcnt := UInt8.lt_iff_toNat_lt.mp (UInt8.not_le.mp hroom)
    rwa [h.counted] at hcnt
  refine ⟨?_, ?_, ?_, ?_, ?_⟩
  · rw [TopicTable.push, UInt8.toNat_add, h.counted, List.length_append, List.length_singleton,
      UInt8.toNat_one]
    omega
  · rw [TopicTable.push, List.length_append, List.length_singleton]
    exact hlt
  · have hfresh : name ∉ table.entries.map (·.topicName) := by
      simpa [known] using hnew
    have hname : (TopicChain.newEntry table.nextTopicId name id).1.topicName = name := by
      simp only [TopicChain.newEntry]
      split <;> rfl
    simp only [TopicTable.push, List.map_append, List.map_singleton, hname]
    rw [List.nodup_append_comm]
    exact List.nodup_cons.mpr ⟨hfresh, h.named⟩
  · intro entry hentry
    rcases List.mem_append.mp hentry with hold | hfresh
    · exact h.typed entry hold
    · rw [List.mem_singleton.mp hfresh, TopicChain.newEntry]
      split
      · exact .inl rfl
      · exact .inr rfl
  · by_cases hid : id = 0
    · have hnumbered := h.numbered.next
      simpa [TopicTable.push, TopicChain.newEntry, hid, normalIds] using hnumbered
    · have hnumbered := h.numbered
      simpa [TopicTable.push, TopicChain.newEntry, hid, normalIds] using hnumbered

theorem Orderly.addName (h : table.Orderly) (name : Bytes) (id : UInt16) :
    (table.addName name id).Orderly := by
  by_cases hfull : MAX_TOPIC_PAR_CLIENT ≤ table.cnt
  · rwa [addName_same (.inl hfull)]
  · cases hknown : table.known (cStr name) with
    | true => rwa [addName_same (.inr hknown)]
    | false =>
      rw [addName_push hfull hknown]
      exact h.push hfull hknown id

theorem Orderly.add (h : table.Orderly) (type : TopicType) (name : Bytes) :
    (table.add type name).Orderly := by
  rw [TopicTable.add]
  split
  · exact h
  · exact h.addName name 0

theorem Orderly.eraseNormal (h : table.Orderly) : table.eraseNormal.Orderly := by
  have hnormal : normalIds table.eraseNormal.entries = [] := by
    simp [normalIds, TopicTable.eraseNormal, List.filter_filter]
  refine ⟨?_, ?_, ?_, ?_, ?_⟩
  · have hsplit := List.length_eq_countP_add_countP
      (fun entry : TopicEntry => decide (entry.type = .normal)) (l := table.entries)
    have hkept : (table.entries.filter (·.type ≠ .normal)).length =
        table.entries.countP (fun entry => ¬decide (entry.type = .normal)) := by
      simp [List.countP_eq_length_filter]
    have hfits := h.fits
    have hcount : (UInt8.ofNat (table.entries.countP (·.type = .normal))).toNat =
        table.entries.countP (·.type = .normal) := by
      rw [UInt8.toNat_ofNat']
      omega
    rw [TopicTable.eraseNormal, UInt8.toNat_sub_of_le, hcount, h.counted, hkept]
    · omega
    · rw [UInt8.le_iff_toNat_le, hcount, h.counted]
      omega
  · exact (List.length_filter_le _ _).trans h.fits
  · exact h.named.sublist (List.filter_sublist.map _)
  · intro entry hentry
    exact h.typed entry (List.mem_of_mem_filter hentry)
  · rw [hnormal]
    exact h.numbered.forget

theorem Orderly.step (h : table.Orderly) (op : TopicsOp) : (table.step op).Orderly := by
  cases op with
  | add type name => exact h.add type name.bytes
  | addName name id => exact h.addName name.bytes id
  | eraseNormal => exact h.eraseNormal

theorem Orderly.run (h : table.Orderly) (ops : List TopicsOp) : (table.run ops).Orderly := by
  induction ops generalizing table with
  | nil => exact h
  | cons op ops ih => exact ih (h.step op)

end Orderly

end TopicTable

theorem topics_table_invariant (ops : List TopicsOp) :
    ∃ topics entries, TopicChain.initial.run ops = some topics ∧ topics.entries = some entries ∧
      (entries.map (·.topicName)).Nodup ∧
      ((entries.filter (·.type = .normal)).map (·.topicId)).Nodup ∧
      (∀ entry ∈ entries, entry.type = .normal →
        1 ≤ entry.topicId.toNat ∧ entry.topicId.toNat ≤ 0xfffe) ∧
      topics.cnt.toNat = entries.length ∧ topics.cnt ≤ MAX_TOPIC_PAR_CLIENT ∧
      (∀ entry ∈ entries, entry.type = .normal ∨ entry.type = .predefined) ∧
      ∃ erased, topics.eraseNormal = some erased ∧
        erased.entries = some (entries.filter (·.type = .predefined)) := by
  obtain ⟨topics, hrun, hrep⟩ := TopicChain.run_represents TopicChain.represents_initial ops
  obtain ⟨erased, herase, herased⟩ := TopicChain.eraseNormal_represents hrep
  have h := TopicTable.orderly_initial.run ops
  have hids := (TopicTable.normalIds_length_le _).trans h.fits
  refine ⟨topics, _, hrun, TopicChain.represented_entries hrep, h.named, h.numbered.nodup hids,
    ?_, ?_, ?_, h.typed, erased, herase, ?_⟩
  · intro entry hentry htype
    apply h.numbered.bounds
    exact List.mem_map_of_mem (List.mem_filter.mpr ⟨hentry, by simpa using htype⟩)
  · rw [hrep.cnt, h.counted]
  · rw [UInt8.le_iff_toNat_le, hrep.cnt, h.counted]
    exact h.fits
  · rw [TopicChain.represented_entries herased]
    refine congrArg some (List.filter_congr ?_)
    intro entry hentry
    rcases h.typed entry hentry with htype | htype
    · simp [htype]
    · simp [htype]

end MbedMqtt.MQTTSNGW
