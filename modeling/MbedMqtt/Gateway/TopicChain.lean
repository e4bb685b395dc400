import MbedMqtt.Gateway.TopicTable
import MbedMqtt.Library.LinkedList

namespace MbedMqtt.MQTTSNGW

structure CharString where
  bytes : Bytes
  fits : bytes.length ≤ 0x7fffffff
  deriving DecidableEq, Repr

structure TopicEntry where
  type : TopicType
  topicId : UInt16
  topicName : Bytes
  deriving DecidableEq, Repr

structure TopicNode where
  entry : TopicEntry
  next : Option Nat
  deriving DecidableEq, Repr

def TopicNode.linked (_ : Option Nat) (entry : TopicEntry) (next : Option Nat) : TopicNode :=
  ⟨entry, next⟩

structure TopicChain where
  heap : LinkHeap TopicNode
  first : Option Nat
  nextTopicId : UInt16
  cnt : UInt8

namespace TopicChain

def initial : TopicChain := ⟨.empty, none, 0, 0⟩

def fuel (topics : TopicChain) : Nat := topics.heap.brk + 1

def getTopicByName (topics : TopicChain) (name : Bytes) : Option (Option Nat) :=
  topics.heap.search TopicNode.entry TopicNode.next (·.topicName = name) topics.fuel topics.first

def entries (topics : TopicChain) : Option (List TopicEntry) :=
  topics.heap.collect TopicNode.entry TopicNode.next topics.fuel topics.first

def appendLoop (heap : LinkHeap TopicNode) (topic : Nat) :
    Nat → Option Nat → Option (LinkHeap TopicNode)
  | 0, _ => none
  | _ + 1, none => some heap
  | fuel + 1, some tp =>
      match heap.read tp with
      | none => none
      | some node =>
          match node.next with
          | none => some (heap.write tp { node with next := some topic })
          | some next => appendLoop heap topic fuel (some next)

def link (topics : TopicChain) (topic : Nat) : Option TopicChain :=
  match topics.first with
  | none => some { topics with first := some topic }
  | some first =>
      (appendLoop topics.heap topic topics.fuel (some first)).map fun heap =>
        { topics with heap := heap }

def newEntry (nextTopicId : UInt16) (name : Bytes) (id : UInt16) : TopicEntry × UInt16 :=
  if id = 0 then
    let nextTopicId := Topics.getNextTopicId nextTopicId
    (⟨.normal, nextTopicId, name⟩, nextTopicId)
  else (⟨.predefined, id, name⟩, nextTopicId)

def addName (topics : TopicChain) (topicName : Bytes) (id : UInt16) :
    Option (TopicChain × Option Nat) :=
  if MAX_TOPIC_PAR_CLIENT ≤ topics.cnt then some (topics, none)
  else
    let name := cStr topicName
    match topics.getTopicByName name with
    | none => none
    | some (some topic) => some (topics, some topic)
    | some none =>
        let topic := topics.heap.brk
        let fresh := newEntry topics.nextTopicId name id
        let heap := topics.heap.alloc ⟨fresh.1, none⟩
        (link ⟨heap, topics.first, fresh.2, topics.cnt + 1⟩ topic).map fun added =>
          (added, some topic)

def add (topics : TopicChain) (type : TopicType) (name : Bytes) :
    Option (TopicChain × Option Nat) :=
  if type ≠ .normal then some (topics, none)
  else
    match topics.getTopicByName name with
    | none => none
    | some (some topic) => some (topics, some topic)
    | some none => topics.addName name 0

def setNext (heap : LinkHeap TopicNode) (prev next : Option Nat) : Option (LinkHeap TopicNode) :=
  match prev with
  | none => some heap
  | some b => (heap.read b).map fun node => heap.write b { node with next := next }

def eraseNormalLoop : Nat → TopicChain → Option Nat → Option Nat → Option TopicChain
  | 0, _, _, _ => none
  | _ + 1, topics, _, none => some topics
  | fuel + 1, topics, prev, some topic =>
      match topics.heap.read topic with
      | none => none
      | some node =>
          if node.entry.type = .normal then
            match setNext topics.heap prev node.next with
            | none => none
            | some heap =>
                let first := if topics.first = some topic then node.next else topics.first
                eraseNormalLoop fuel ⟨heap.free topic, first, topics.nextTopicId, topics.cnt - 1⟩
                  prev node.next
          else eraseNormalLoop fuel topics (some topic) node.next

def eraseNormal (topics : TopicChain) : Option TopicChain :=
  eraseNormalLoop topics.fuel topics none topics.first

end TopicChain

structure TopicTable where
  entries : List TopicEntry
  nextTopicId : UInt16
  cnt : UInt8
  deriving DecidableEq, Repr

namespace TopicTable

def initial : TopicTable := ⟨[], 0, 0⟩

def known (table : TopicTable) (name : Bytes) : Bool := table.entries.any (·.topicName = name)

def push (table : TopicTable) (name : Bytes) (id : UInt16) : TopicTable :=
  let fresh := TopicChain.newEntry table.nextTopicId name id
  ⟨table.entries ++ [fresh.1], fresh.2, table.cnt + 1⟩

def addName (table : TopicTable) (name : Bytes) (id : UInt16) : TopicTable :=
  if MAX_TOPIC_PAR_CLIENT ≤ table.cnt ∨ table.known (cStr name) then table
  else table.push (cStr name) id

def add (table : TopicTable) (type : TopicType) (name : Bytes) : TopicTable :=
  if type ≠ .normal ∨ table.known name then table else table.addName name 0

def eraseNormal (table : TopicTable) : TopicTable where
  entries := table.entries.filter (·.type ≠ .normal)
  nextTopicId := table.nextTopicId
  cnt := table.cnt - UInt8.ofNat (table.entries.countP (·.type = .normal))

variable {table : TopicTable} {name : Bytes} {id : UInt16}

theorem addName_same (h : MAX_TOPIC_PAR_CLIENT ≤ table.cnt ∨ table.known (cStr name) = true) :
    table.addName name id = table := if_pos h

theorem addName_push (hroom : ¬MAX_TOPIC_PAR_CLIENT ≤ table.cnt)
    (hnew : table.known (cStr name) = false) :
    table.addName name id = table.push (cStr name) id := by
  rw [addName, if_neg (by simp [hroom, hnew])]

theorem add_same {type : TopicType} (h : type ≠ .normal ∨ table.known name = true) :
    table.add type name = table := if_pos h

theorem add_new (h : table.known name = false) : table.add .normal name = table.addName name 0 := by
  rw [add, if_neg (by simp [h])]

end TopicTable

structure Represents (topics : TopicChain) (table : TopicTable) : Prop where
  holds : ∃ tail cells, Holds TopicNode.linked topics.heap topics.first tail cells ∧
    cells.map (·.2) = table.entries
  next : topics.nextTopicId = table.nextTopicId
  cnt : topics.cnt = table.cnt

namespace TopicChain

variable {topics : TopicChain} {table : TopicTable} {heap : LinkHeap TopicNode}
  {first tail prev p : Option Nat} {cells xs ys : List (Nat × TopicEntry)} {a : Nat}
  {entry : TopicEntry} {name : Bytes} {id : UInt16}

theorem represents_initial : Represents initial .initial :=
  ⟨⟨none, [], .empty, rfl⟩, rfl, rfl⟩

theorem linked_prev (m k : Option Nat) (entry : TopicEntry) (n : Option Nat) :
    TopicNode.linked m entry n = TopicNode.linked k entry n := rfl

theorem represented_entries (h : Represents topics table) : topics.entries = some table.entries := by
  obtain ⟨tail, cells, hholds, hcells⟩ := h.holds
  rw [← hcells]
  exact hholds.chain.collect (fun _ _ _ => rfl) (fun _ _ _ => rfl)
    (Nat.lt_succ_of_le hholds.length_le)

theorem represented_name (h : Represents topics table) (name : Bytes) :
    ∃ found, topics.getTopicByName name = some found ∧ found.isSome = table.known name := by
  obtain ⟨tail, cells, hholds, hcells⟩ := h.holds
  refine ⟨_, hholds.chain.search (fun _ _ _ => rfl) (fun _ _ _ => rfl) _
    (Nat.lt_succ_of_le hholds.length_le), ?_⟩
  rw [TopicTable.known, ← hcells, List.any_map, Option.isSome_map, List.isSome_find?]
  rfl

theorem appendLoop_last {last : Option Nat}
    (h : Segment TopicNode.linked heap last none prev p (xs ++ [(a, entry)])) (topic : Nat)
    {fuel : Nat} (hfuel : xs.length < fuel) :
    appendLoop heap topic fuel p = some (heap.write a ⟨entry, some topic⟩) := by
  induction xs generalizing prev p fuel with
  | nil =>
    obtain ⟨rfl, n, hread, -, rfl⟩ := h
    obtain ⟨fuel, rfl⟩ := Nat.exists_eq_add_of_lt hfuel
    simp [appendLoop, hread, TopicNode.linked]
  | cons head xs ih =>
    obtain ⟨b, other⟩ := head
    obtain ⟨rfl, n, hread, hrest⟩ := h
    cases fuel with
    | zero => exact absurd hfuel (Nat.not_lt_zero _)
    | succ fuel =>
      have hnext := ih hrest (Nat.lt_of_succ_lt_succ hfuel)
      have hsome := hrest.first_eq
      cases n with
      | none => simp [List.head?_append] at hsome
      | some n => simp only [appendLoop, hread, TopicNode.linked, hnext]

theorem link_holds (h : Holds TopicNode.linked heap first tail cells) (entry : TopicEntry)
    (next : UInt16) (cnt : UInt8) :
    ∃ after, link ⟨heap.alloc ⟨entry, none⟩, first, next, cnt⟩ heap.brk = some after ∧
      (∃ final, Holds TopicNode.linked after.heap after.first final (cells ++ [(heap.brk, entry)])) ∧
      after.nextTopicId = next ∧ after.cnt = cnt := by
  cases first with
  | none =>
    obtain ⟨rfl, rfl⟩ := h.head_none
    exact ⟨_, rfl, ⟨_, .single heap entry⟩, rfl, rfl⟩
  | some first =>
    obtain ⟨xs, ⟨a, last⟩, rfl⟩ := (List.eq_nil_or_concat' cells).resolve_left h.head_some
    have hfuel : xs.length < heap.brk + 2 := by
      have hlen := h.length_le
      rw [List.length_append, List.length_singleton] at hlen
      omega
    have hloop := appendLoop_last (h.chain.alloc h.allocated ⟨entry, none⟩) heap.brk hfuel
    obtain ⟨-, m, -, hholds⟩ := h.snoc entry
    refine ⟨⟨_, some first, next, cnt⟩, ?_, ⟨_, hholds⟩, rfl, rfl⟩
    have hfuelEq : (heap.alloc (⟨entry, none⟩ : TopicNode)).brk + 1 = heap.brk + 2 := rfl
    simp only [link, fuel, hfuelEq, hloop]
    rfl

theorem push_represents (h : Represents topics table) (name : Bytes) (id : UInt16) :
    ∃ added, link ⟨topics.heap.alloc ⟨(newEntry topics.nextTopicId name id).1, none⟩, topics.first,
        (newEntry topics.nextTopicId name id).2, topics.cnt + 1⟩ topics.heap.brk = some added ∧
      Represents added (table.push name id) := by
  obtain ⟨tail, cells, hholds, hcells⟩ := h.holds
  obtain ⟨added, hlink, ⟨final, hadded⟩, hnext, hcnt⟩ := link_holds hholds
    (newEntry topics.nextTopicId name id).1 (newEntry topics.nextTopicId name id).2 (topics.cnt + 1)
  refine ⟨added, hlink, ⟨final, _, hadded, ?_⟩, ?_, ?_⟩
  · rw [List.map_append, hcells, h.next]
    rfl
  · rw [hnext, h.next]
    rfl
  · rw [hcnt, h.cnt]
    rfl

theorem addName_represents (h : Represents topics table) (name : Bytes) (id : UInt16) :
    ∃ added found, topics.addName name id = some (added, found) ∧
      Represents added (table.addName name id) := by
  by_cases hfull : MAX_TOPIC_PAR_CLIENT ≤ topics.cnt
  · refine ⟨topics, none, by rw [addName, if_pos hfull], ?_⟩
    rwa [TopicTable.addName_same (.inl (h.cnt ▸ hfull))]
  · obtain ⟨found, hfound, hknown⟩ := represented_name h (cStr name)
    rw [addName, if_neg hfull]
    simp only [hfound]
    cases found with
    | some topic =>
      refine ⟨topics, some topic, rfl, ?_⟩
      rwa [TopicTable.addName_same (.inr hknown.symm)]
    | none =>
      obtain ⟨added, hlink, hadded⟩ := push_represents h (cStr name) id
      refine ⟨added, some topics.heap.brk, by simp only [hlink, Option.map_some], ?_⟩
      rwa [TopicTable.addName_push (h.cnt ▸ hfull) hknown.symm]

theorem add_represents (h : Represents topics table) (type : TopicType) (name : Bytes) :
    ∃ added found, topics.add type name = some (added, found) ∧
      Represents added (table.add type name) := by
  by_cases htype : type = .normal
  · subst htype
    obtain ⟨found, hfound, hknown⟩ := represented_name h name
    simp only [add, ne_eq, not_true_eq_false, if_false, hfound]
    cases found with
    | some topic =>
      refine ⟨topics, some topic, rfl, ?_⟩
      rwa [TopicTable.add_same (.inr hknown.symm)]
    | none =>
      rw [TopicTable.add_new hknown.symm]
      exact addName_represents h name 0
  · refine ⟨topics, none, by rw [add, if_pos htype], ?_⟩
    rwa [TopicTable.add_same (.inl htype)]

theorem unlink_holds {kept rest : List (Nat × TopicEntry)}
    (h : Holds TopicNode.linked topics.heap topics.first tail (kept ++ (a, entry) :: rest)) :
    ∃ (n : Option Nat) (heap : LinkHeap TopicNode) (erased : TopicChain),
      topics.heap.read a = some ⟨entry, n⟩ ∧ n = rest.head?.map (·.1) ∧
      setNext topics.heap (kept.getLast?.map (·.1)) n = some heap ∧
      erased = ⟨heap.free a, if topics.first = some a then n else topics.first, topics.nextTopicId,
        topics.cnt - 1⟩ ∧
      ∃ final, Holds TopicNode.linked erased.heap erased.first final (kept ++ rest) := by
  rcases List.eq_nil_or_concat' kept with rfl | ⟨xs, ⟨b, before⟩, rfl⟩
  · obtain ⟨hfirst, n, hread, hn, final, hholds⟩ := h.unlinkFirst linked_prev
    refine ⟨n, topics.heap, _, hread, hn, rfl, rfl, final, ?_⟩
    rwa [if_pos hfirst]
  · obtain ⟨hfirst, m, n, hprev, hread, hn, final, hholds⟩ := h.unlinkNext linked_prev
    refine ⟨n, topics.heap.write b ⟨before, n⟩, _, hread, hn, ?_, rfl, final, ?_⟩
    · simp [setNext, hprev, TopicNode.linked]
    · rwa [if_neg hfirst]

theorem sub_one_sub (cnt : UInt8) (n : Nat) :
    cnt - 1 - UInt8.ofNat n = cnt - UInt8.ofNat (n + 1) := by
  rw [UInt8.ofNat_add]
  grind

theorem eraseNormalLoop_holds {kept rest : List (Nat × TopicEntry)}
    (h : Holds TopicNode.linked topics.heap topics.first tail (kept ++ rest)) {fuel : Nat}
    (hfuel : rest.length < fuel) :
    ∃ after, eraseNormalLoop fuel topics (kept.getLast?.map (·.1)) (rest.head?.map (·.1)) =
        some after ∧
      (∃ final, Holds TopicNode.linked after.heap after.first final
        (kept ++ rest.filter (·.2.type ≠ .normal))) ∧
      after.nextTopicId = topics.nextTopicId ∧
      after.cnt = topics.cnt - UInt8.ofNat (rest.countP (·.2.type = .normal)) := by
  induction rest generalizing kept topics tail fuel with
  | nil =>
    obtain ⟨fuel, rfl⟩ := Nat.exists_eq_add_of_lt hfuel
    exact ⟨topics, rfl, ⟨tail, h⟩, rfl, by simp⟩
  | cons head rest ih =>
    obtain ⟨a, entry⟩ := head
    cases fuel with
    | zero => exact absurd hfuel (Nat.not_lt_zero _)
    | succ fuel =>
      have hfuel : rest.length < fuel := Nat.lt_of_succ_lt_succ hfuel
      by_cases hnormal : entry.type = .normal
      · obtain ⟨n, heap, erased, hread, hn, hset, rfl, final, hholds⟩ := unlink_holds h
        obtain ⟨after, hloop, hafter, hnext, hcnt⟩ := ih hholds hfuel
        refine ⟨after, ?_, ?_, hnext, ?_⟩
        · simp only [eraseNormalLoop, List.head?_cons, Option.map_some, hread, if_pos hnormal, hset]
          rw [← hn] at hloop
          exact hloop
        · rwa [List.filter_cons_of_neg (by simpa using hnormal)]
        · rw [hcnt, List.countP_cons_of_pos (by simpa using hnormal)]
          exact sub_one_sub _ _
      · have hread : topics.heap.read a = some ⟨entry, rest.head?.map (·.1)⟩ := by
          obtain ⟨m, r, -, rfl, n, hread, hright⟩ := Segment.append.mp h.chain
          rw [hread, ← hright.first_eq]
          rfl
        rw [List.append_cons] at h
        obtain ⟨after, hloop, hafter, hnext, hcnt⟩ := ih h hfuel
        refine ⟨after, ?_, ?_, hnext, ?_⟩
        · simp only [eraseNormalLoop, List.head?_cons, Option.map_some, hread, if_neg hnormal]
          simpa using hloop
        · rw [List.filter_cons_of_pos (by simpa using hnormal), List.append_cons]
          exact hafter
        · rw [hcnt, List.countP_cons_of_neg (by simpa using hnormal)]

theorem eraseNormal_represents (h : Represents topics table) :
    ∃ erased, topics.eraseNormal = some erased ∧ Represents erased table.eraseNormal := by
  obtain ⟨tail, cells, hholds, hcells⟩ := h.holds
  rw [← List.nil_append cells] at hholds
  obtain ⟨erased, hloop, ⟨final, herased⟩, hnext, hcnt⟩ := eraseNormalLoop_holds hholds
    (Nat.lt_succ_of_le hholds.length_le)
  refine ⟨erased, ?_, ⟨final, _, herased, ?_⟩, hnext.trans h.next, ?_⟩
  · rw [eraseNormal, hholds.chain.first_eq]
    exact hloop
  · simp only [List.nil_append, TopicTable.eraseNormal, ← hcells, List.filter_map]
    rfl
  · simp only [hcnt, h.cnt, TopicTable.eraseNormal, ← hcells, List.countP_map]
    rfl

end TopicChain

theorem TopicName.bytes_inj {name other : TopicName} : name.bytes = other.bytes ↔ name = other := by
  cases name
  cases other
  simp

def Topic.entry (topic : Topic) : TopicEntry := ⟨topic.type, topic.topicId, topic.topicName.bytes⟩

def Topics.table (topics : Topics) : TopicTable :=
  ⟨topics.list.map Topic.entry, topics.nextTopicId, topics.cnt⟩

namespace Topics

variable {topics : Topics} {name : TopicName} {id : UInt16}

theorem table_known (topics : Topics) (name : TopicName) :
    topics.table.known name.bytes = (topics.getTopicByName name).isSome := by
  have hsame : ∀ topic : Topic, decide (topic.entry.topicName = name.bytes) =
      decide (topic.topicName = name) := by
    intro topic
    rw [decide_eq_decide, Topic.entry, TopicName.bytes_inj]
  simp only [TopicTable.known, table, List.any_map, getTopicByName, List.isSome_find?, hsame,
    Function.comp_def]

theorem addId_table (topics : Topics) (name : TopicName) (id : UInt16) :
    (topics.addId name id).1.table = topics.table.addName name.bytes id := by
  by_cases hfull : MAX_TOPIC_PAR_CLIENT ≤ topics.cnt
  · rw [addId_full hfull, TopicTable.addName_same (.inl hfull)]
  · have hknown := table_known topics name.cString
    cases hname : topics.getTopicByName name.cString with
    | some known =>
      rw [addId_known hfull hname, TopicTable.addName_same (.inr (by rw [hname] at hknown; exact hknown))]
    | none =>
      rw [TopicTable.addName_push hfull (by rw [hname] at hknown; exact hknown)]
      by_cases hid : id = 0
      · subst hid
        rw [addId_new hfull hname]
        simp [push, table, TopicTable.push, TopicChain.newEntry, Topic.entry, TopicName.cString]
      · rw [addId_predefined hfull hname hid]
        simp [push, table, TopicTable.push, TopicChain.newEntry, Topic.entry, TopicName.cString, hid]

theorem add_table (topics : Topics) (type : TopicType) (name : TopicName) :
    (topics.add type name).1.table = topics.table.add type name.bytes := by
  by_cases htype : type = .normal
  · subst htype
    have hknown := table_known topics name
    cases hname : topics.getTopicByName name with
    | some known =>
      rw [hname] at hknown
      simp only [add, ne_eq, not_true_eq_false, if_false, hname]
      rw [TopicTable.add_same (.inr hknown)]
    | none =>
      rw [hname] at hknown
      simp only [add, ne_eq, not_true_eq_false, if_false, hname]
      rw [TopicTable.add_new hknown, addId_table]
  · rw [TopicTable.add_same (.inl htype), add, if_pos htype]

theorem eraseNormal_table (topics : Topics) : topics.eraseNormal.table = topics.table.eraseNormal := by
  simp only [table, eraseNormal, TopicTable.eraseNormal, List.filter_map, List.countP_map]
  rfl

end Topics

namespace TopicChain

variable {chain : TopicChain} {topics : Topics}

theorem addName_refines (h : Represents chain topics.table) (name : TopicName) (id : UInt16) :
    ∃ added found, chain.addName name.bytes id = some (added, found) ∧
      Represents added (topics.addId name id).1.table := by
  rw [Topics.addId_table]
  exact addName_represents h name.bytes id

theorem add_refines (h : Represents chain topics.table) (type : TopicType) (name : TopicName) :
    ∃ added found, chain.add type name.bytes = some (added, found) ∧
      Represents added (topics.add type name).1.table := by
  rw [Topics.add_table]
  exact add_represents h type name.bytes

theorem eraseNormal_refines (h : Represents chain topics.table) :
    ∃ erased, chain.eraseNormal = some erased ∧ Represents erased topics.eraseNormal.table := by
  rw [Topics.eraseNormal_table]
  exact eraseNormal_represents h

end TopicChain

end MbedMqtt.MQTTSNGW
