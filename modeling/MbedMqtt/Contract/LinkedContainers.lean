import MbedMqtt.Gateway.Containers
import MbedMqtt.Gateway.MessageIdTable
import MbedMqtt.Library.Simulation

namespace MbedMqtt.MQTTSNGW

section Que

inductive QueOp (α : Type) where
  | post (t : Option α)
  | pop
  | front
  | setMaxSize (maxSize : Int)
  deriving DecidableEq, Repr

-- what `post` returns, what `front` gives and what `size` gives afterwards
structure QueSeen (α : Type) where
  rc : Int
  front : Option α
  size : Int
  deriving DecidableEq, Repr

variable {α : Type}

def LinkedQue.seen (que : LinkedQue α) (rc : Int) : Option (LinkedQue α × QueSeen α) :=
  que.front.map fun front => (que, ⟨rc, front, que.size⟩)

def LinkedQue.step (que : LinkedQue α) : QueOp α → Option (LinkedQue α × QueSeen α)
  | .post t => (que.post t).bind fun posted => posted.1.seen posted.2
  | .pop => que.pop.bind fun popped => popped.seen 0
  | .front => que.seen 0
  | .setMaxSize maxSize => (que.setMaxSize maxSize).seen 0

structure QueSpec (α : Type) where
  maxSize : Int
  items : List α
  deriving DecidableEq, Repr

namespace QueSpec

def initial : QueSpec α := ⟨0, []⟩

def accepts (que : QueSpec α) : Prop := que.maxSize = 0 ∨ (que.items.length : Int) < que.maxSize

instance (que : QueSpec α) : Decidable que.accepts := inferInstanceAs (Decidable (_ ∨ _))

def post (que : QueSpec α) : Option α → QueSpec α × Int
  | some t =>
      if que.accepts then ({ que with items := que.items ++ [t] }, que.items.length + 1)
      else (que, 0)
  | none => (que, 0)

def seen (que : QueSpec α) (rc : Int) : QueSpec α × QueSeen α :=
  (que, ⟨rc, que.items.head?, que.items.length⟩)

def step (que : QueSpec α) : QueOp α → QueSpec α × QueSeen α
  | .post t => (que.post t).1.seen (que.post t).2
  | .pop => { que with items := que.items.tail }.seen 0
  | .front => que.seen 0
  | .setMaxSize maxSize => { que with maxSize := maxSize }.seen 0

end QueSpec

structure LinkedQue.Represents (que : LinkedQue α) (spec : QueSpec α) : Prop where
  chained : ∃ before cells, que.list.Chained before cells ∧ cells.map (·.2) = spec.items
  cnt : que.cnt = spec.items.length
  maxSize : que.maxSize = spec.maxSize

namespace LinkedQue

variable {que : LinkedQue α} {spec : QueSpec α}

theorem represents_initial : (initial : LinkedQue α).Represents .initial :=
  ⟨⟨none, [], DList.carries_empty.chained, rfl⟩, rfl, rfl⟩

theorem Represents.front (h : que.Represents spec) : que.front = some spec.items.head? := by
  obtain ⟨before, cells, hchained, hcells⟩ := h.chained
  have hhead := hchained.head_eq
  cases cells with
  | nil =>
    rw [← hcells, LinkedQue.front, hhead]
    rfl
  | cons entry cells =>
    obtain ⟨a, x⟩ := entry
    obtain ⟨hhead, n, hread, -⟩ := hchained.dropFirst
    rw [← hcells, LinkedQue.front, hhead]
    simp only [hread]
    rfl

theorem Represents.seen (h : que.Represents spec) (rc : Int) :
    ∃ after, que.seen rc = some (after, (spec.seen rc).2) ∧ after.Represents (spec.seen rc).1 := by
  refine ⟨que, ?_, h⟩
  rw [LinkedQue.seen, h.front, LinkedQue.size, h.cnt]
  rfl

theorem link_eq (list : DList α) (t : α) : link list t = list.append t := by
  obtain ⟨heap, head, tail⟩ := list
  cases head with
  | none => rfl
  | some head =>
    simp only [link, DList.append]
    split_ifs with hsame
    · rw [hsame]
    · rfl

theorem Represents.post (h : que.Represents spec) (t : Option α) :
    ∃ posted, que.post t = some (posted, (spec.post t).2) ∧
      posted.Represents (spec.post t).1 := by
  cases t with
  | none => exact ⟨que, rfl, h⟩
  | some t =>
    have haccepts : (que.maxSize = 0 ∨ que.cnt < que.maxSize) ↔ spec.accepts := by
      rw [h.cnt, h.maxSize, QueSpec.accepts]
    simp only [LinkedQue.post, QueSpec.post, haccepts]
    split_ifs
    · obtain ⟨before, cells, hchained, hcells⟩ := h.chained
      obtain ⟨added, happend, hadded⟩ := hchained.append t
      refine ⟨⟨added, que.cnt + 1, que.maxSize⟩, ?_, ⟨_, _, hadded, ?_⟩, ?_, h.maxSize⟩
      · rw [link_eq, happend, h.cnt]
        rfl
      · rw [List.map_append, hcells]
        rfl
      · simp [h.cnt]
    · exact ⟨que, rfl, h⟩

theorem chained_none (heap : LinkHeap (DLink α)) : DList.Chained none ⟨heap, none, none⟩ [] :=
  DList.Carries.chained Holds.empty

theorem pop_single {a : Nat} (hhead : que.list.head = some a) (htail : que.list.tail = some a) :
    que.pop = some ⟨⟨que.list.heap.free a, none, none⟩, que.cnt - 1, que.maxSize⟩ := by
  simp only [LinkedQue.pop, hhead, htail, if_true]

theorem pop_more {a b : Nat} {x : α} {prev next : Option Nat} (hhead : que.list.head = some a)
    (htail : que.list.tail = some b) (hne : b ≠ a)
    (hread : que.list.heap.read a = some ⟨x, prev, next⟩) :
    que.pop = some ⟨⟨(que.list.heap.write a ⟨x, none, next⟩).free a, next, que.list.tail⟩,
      que.cnt - 1, que.maxSize⟩ := by
  have hdiffer : ¬some a = some b := fun h => hne (Option.some.inj h).symm
  simp only [LinkedQue.pop, hhead, htail, if_neg hdiffer, hread, LinkHeap.setPrev, Option.map_some]

theorem Represents.pop (h : que.Represents spec) :
    ∃ popped, que.pop = some popped ∧
      popped.Represents { spec with items := spec.items.tail } := by
  obtain ⟨before, cells, hchained, hcells⟩ := h.chained
  rcases cells with _ | ⟨⟨a, x⟩, cells⟩
  · refine ⟨que, ?_, ⟨before, [], hchained, ?_⟩, ?_, h.maxSize⟩
    · rw [LinkedQue.pop, hchained.head_eq]
      rfl
    · rw [← hcells]
      rfl
    · rw [h.cnt, ← hcells]
      rfl
  · obtain ⟨hhead, next, hread, hkeep⟩ := hchained.dropFirst
    have hcnt : que.cnt - 1 = (spec.items.tail.length : Int) := by
      rw [h.cnt, ← hcells]
      simp
    rcases List.eq_nil_or_concat' cells with rfl | ⟨ys, ⟨b, y⟩, rfl⟩
    · have hsingle : que.list.Chained before ([] ++ [(a, x)]) := hchained
      have htail : que.list.tail = some a := hsingle.tail_eq
      refine ⟨_, pop_single hhead htail, ⟨none, [], chained_none _, ?_⟩, hcnt, h.maxSize⟩
      rw [← hcells]
      rfl
    · rw [← List.cons_append] at hchained
      have htail : que.list.tail = some b := hchained.tail_eq
      have hne : b ≠ a := by
        rintro rfl
        exact hchained.head_ne (List.cons_ne_nil _ ys) hhead
      refine ⟨_, pop_more hhead htail hne hread, ⟨some a, ys ++ [(b, y)], hkeep _ ?_ rfl, ?_⟩, hcnt,
        h.maxSize⟩
      · intro c hc
        rw [LinkHeap.read_free_other hc, LinkHeap.read_write_other hc]
      · rw [← hcells]
        rfl

theorem simulates : Simulates (fun _ _ => True) Represents (step (α := α)) QueSpec.step where
  step := by
    intro que spec op _ h
    cases op with
    | post t =>
      obtain ⟨posted, hpost, hafter⟩ := h.post t
      obtain ⟨after, hseen, hreps⟩ := hafter.seen (spec.post t).2
      exact ⟨after, by rw [LinkedQue.step, hpost]; exact hseen, hreps⟩
    | pop =>
      obtain ⟨popped, hpop, hafter⟩ := h.pop
      obtain ⟨after, hseen, hreps⟩ := hafter.seen 0
      exact ⟨after, by rw [LinkedQue.step, hpop]; exact hseen, hreps⟩
    | front => exact h.seen 0
    | setMaxSize maxSize =>
      have hset : (que.setMaxSize maxSize).Represents { spec with maxSize := maxSize } :=
        ⟨h.chained, h.cnt, rfl⟩
      exact hset.seen 0

end LinkedQue

end Que

section Elements

inductive ListOp (α : Type) where
  | add (t : α)
  | erase (k : Nat)
  | clear
  deriving DecidableEq, Repr

structure ListSeen (α : Type) where
  rc : Int
  contents : List α
  size : Int
  deriving DecidableEq, Repr

variable {α : Type}

namespace LinkedList

def seen (l : LinkedList α) (rc : Int) : Option (LinkedList α × ListSeen α) :=
  l.list.contents.map fun contents => (l, ⟨rc, contents, l.getSize⟩)

-- erases the element that `k` steps of `getNext` lead to, nothing where they lead past the end
def eraseAt (l : LinkedList α) (k : Nat) : Option (LinkedList α) :=
  match l.walk k with
  | none => none
  | some none => some l
  | some (some elm) => l.erase elm

def step (l : LinkedList α) : ListOp α → Option (LinkedList α × ListSeen α)
  | .add t => (l.add t).bind fun added => added.1.seen added.2
  | .erase k => (l.eraseAt k).bind fun erased => erased.seen 0
  | .clear => l.clear.bind fun cleared => cleared.seen 0

end LinkedList

def listSeen (items : List α) (rc : Int) : List α × ListSeen α := (items, ⟨rc, items, items.length⟩)

def listStep (items : List α) : ListOp α → List α × ListSeen α
  | .add t => listSeen (items ++ [t]) 1
  | .erase k => listSeen (items.eraseIdx k) 0
  | .clear => listSeen [] 0

structure LinkedList.Represents (l : LinkedList α) (items : List α) : Prop where
  chained : ∃ before cells, l.list.Chained before cells ∧ cells.map (·.2) = items
  size : l.size = items.length

namespace LinkedList

variable {l : LinkedList α} {items : List α}

theorem represents_initial : (initial : LinkedList α).Represents [] :=
  ⟨⟨none, [], DList.carries_empty.chained, rfl⟩, rfl⟩

theorem Represents.seen (h : l.Represents items) (rc : Int) :
    ∃ after, l.seen rc = some (after, (listSeen items rc).2) ∧
      after.Represents (listSeen items rc).1 := by
  obtain ⟨before, cells, hchained, hcells⟩ := h.chained
  refine ⟨l, ?_, h⟩
  rw [LinkedList.seen, hchained.contents, hcells, getSize, h.size]
  rfl

theorem Represents.add (h : l.Represents items) (t : α) :
    ∃ added, l.add t = some (added, 1) ∧ added.Represents (items ++ [t]) := by
  obtain ⟨before, cells, hchained, hcells⟩ := h.chained
  obtain ⟨list, happend, hadded⟩ := hchained.append t
  refine ⟨⟨list, l.size + 1⟩, ?_, ⟨_, _, hadded, ?_⟩, ?_⟩
  · rw [LinkedList.add, happend]
    rfl
  · rw [List.map_append, hcells]
    rfl
  · simp [h.size]

theorem Represents.clear (h : l.Represents items) :
    ∃ cleared, l.clear = some cleared ∧ cleared.Represents [] := by
  obtain ⟨before, cells, hchained, -⟩ := h.chained
  obtain ⟨heap, hclear⟩ := hchained.clear
  refine ⟨⟨⟨heap, none, none⟩, 0⟩, ?_, ⟨none, [], DList.Carries.chained Holds.empty, rfl⟩, rfl⟩
  rw [LinkedList.clear, hclear]
  rfl

theorem walk_eq {before : Option Nat} {cells : List (Nat × α)} (h : l.list.Chained before cells)
    (k : Nat) : l.walk k = some ((cells[k]?).map (·.1)) := by
  induction k with
  | zero =>
    rw [walk, getElm, h.head_eq, List.head?_eq_getElem?]
  | succ k ih =>
    simp only [walk, ih]
    rcases Nat.lt_or_ge k cells.length with hk | hk
    · obtain ⟨prev, hread⟩ := h.readAt hk
      rw [List.getElem?_eq_getElem hk]
      simp only [Option.map_some, getNext, hread]
    · rw [List.getElem?_eq_none hk, List.getElem?_eq_none (Nat.le_succ_of_le hk)]
      rfl

theorem erase_chained {before : Option Nat} {xs ys : List (Nat × α)} {a : Nat} {x : α}
    (h : l.list.Chained before (xs ++ (a, x) :: ys)) :
    ∃ erased, l.erase a = some erased ∧ erased.size = l.size - 1 ∧
      ∃ before, erased.list.Chained before (xs ++ ys) := by
  cases xs with
  | nil =>
    obtain ⟨hhead, n, hread, hkeep⟩ := h.dropFirst
    refine ⟨⟨⟨l.list.heap.free a, n, l.list.tail⟩, l.size - 1⟩, ?_, rfl, some a, hkeep _ ?_ rfl⟩
    · simp only [LinkedList.erase, hread, hhead, if_true]
    · intro b hb
      exact LinkHeap.read_free_other hb
  | cons entry xs =>
    obtain ⟨p, n, hread, hn, heap, hunlink, hkeep⟩ := h.dropInner (List.cons_ne_nil entry xs)
    have hhead : ¬l.list.head = some a := h.head_ne (List.cons_ne_nil entry xs)
    refine ⟨⟨⟨heap.free a, l.list.head, if n = none then some p else l.list.tail⟩, l.size - 1⟩, ?_,
      rfl, before, hkeep⟩
    rcases ys with _ | ⟨⟨b, y⟩, ys⟩
    · have htail : l.list.tail = some a := h.tail_eq
      obtain rfl : n = none := hn
      have hset : l.list.heap.setNext p none = some heap := by
        simpa [LinkHeap.unlink, LinkHeap.setNext?, LinkHeap.setPrev?] using hunlink
      simp only [LinkedList.erase, hread, if_neg hhead, htail, if_true, hset, Option.map_some]
    · have htail : ¬l.list.tail = some a := h.tail_ne (List.cons_ne_nil (b, y) ys)
      obtain rfl : n = some b := hn
      have hset : ((l.list.heap.setNext p (some b)).bind fun heap => heap.setPrev b (some p)) =
          some heap := hunlink
      simp only [LinkedList.erase, hread, if_neg hhead, if_neg htail, hset, Option.map_some,
        if_neg (Option.some_ne_none b)]

theorem Represents.eraseAt (h : l.Represents items) (k : Nat) :
    ∃ erased, l.eraseAt k = some erased ∧ erased.Represents (items.eraseIdx k) := by
  obtain ⟨before, cells, hchained, hcells⟩ := h.chained
  simp only [LinkedList.eraseAt, walk_eq hchained]
  rcases Nat.lt_or_ge k cells.length with hk | hk
  · rw [List.getElem?_eq_getElem hk]
    have hsplit := hchained
    rw [← List.take_append_drop k cells, List.drop_eq_getElem_cons hk] at hsplit
    obtain ⟨erased, herase, hsize, before', hkept⟩ := erase_chained hsplit
    refine ⟨erased, herase, ⟨before', _, hkept, ?_⟩, ?_⟩
    · rw [← hcells, ← List.eraseIdx_eq_take_drop_succ, List.eraseIdx_map]
    · rw [hsize, h.size, ← hcells, List.length_eraseIdx_of_lt (by simpa using hk), List.length_map]
      omega
  · rw [List.getElem?_eq_none hk]
    refine ⟨l, rfl, ?_⟩
    rwa [List.eraseIdx_of_length_le (by rwa [← hcells, List.length_map])]

theorem simulates : Simulates (fun _ _ => True) Represents (step (α := α)) listStep where
  step := by
    intro l items op _ h
    cases op with
    | add t =>
      obtain ⟨added, hadd, hafter⟩ := h.add t
      obtain ⟨after, hseen, hreps⟩ := hafter.seen 1
      exact ⟨after, by rw [LinkedList.step, hadd]; exact hseen, hreps⟩
    | erase k =>
      obtain ⟨erased, herase, hafter⟩ := h.eraseAt k
      obtain ⟨after, hseen, hreps⟩ := hafter.seen 0
      exact ⟨after, by rw [LinkedList.step, herase]; exact hseen, hreps⟩
    | clear =>
      obtain ⟨cleared, hclear, hafter⟩ := h.clear
      obtain ⟨after, hseen, hreps⟩ := hafter.seen 0
      exact ⟨after, by rw [LinkedList.step, hclear]; exact hseen, hreps⟩

end LinkedList

end Elements

section Waiting

inductive WaitOp where
  | setPacket (packet : MQTTSNPacket) (msgId : UInt16)
  | getPacket (msgId : UInt16)
  | erase (msgId : UInt16)
  deriving DecidableEq, Repr

structure WaitSeen where
  rc : Int
  packet : Option MQTTSNPacket
  count : Nat
  contents : List WaitREGACKPacket
  deriving DecidableEq, Repr

namespace LinkedWaitREGACK

def seen (waiting : LinkedWaitREGACK) (rc : Int) (packet : Option MQTTSNPacket) :
    Option (LinkedWaitREGACK × WaitSeen) :=
  waiting.list.contents.map fun contents =>
    (waiting, ⟨rc, packet, waiting.getCount.toNat, contents⟩)

def step (waiting : LinkedWaitREGACK) : WaitOp → Option (LinkedWaitREGACK × WaitSeen)
  | .setPacket packet msgId =>
      (waiting.setPacket packet msgId).bind fun added => added.1.seen added.2 none
  | .getPacket msgId => (waiting.getPacket msgId).bind fun packet => waiting.seen 0 packet
  | .erase msgId => (waiting.erase msgId).bind fun erased => erased.seen 0 none

end LinkedWaitREGACK

namespace WaitREGACKPacketList

def initial : WaitREGACKPacketList := ⟨[]⟩

def seen (waiting : WaitREGACKPacketList) (rc : Int) (packet : Option MQTTSNPacket) :
    WaitREGACKPacketList × WaitSeen :=
  (waiting, ⟨rc, packet, waiting.list.length, waiting.list⟩)

def step (waiting : WaitREGACKPacketList) : WaitOp → WaitREGACKPacketList × WaitSeen
  | .setPacket packet msgId => (waiting.setPacket packet msgId).seen 1 none
  | .getPacket msgId => waiting.seen 0 (waiting.getPacket msgId)
  | .erase msgId => (waiting.erase msgId).seen 0 none

def after (waiting : WaitREGACKPacketList) (op : WaitOp) : WaitREGACKPacketList :=
  (waiting.step op).1

def fits (waiting : WaitREGACKPacketList) (op : WaitOp) : Prop :=
  (waiting.after op).list.length ≤ 255

instance (waiting : WaitREGACKPacketList) (op : WaitOp) : Decidable (waiting.fits op) :=
  inferInstanceAs (Decidable (_ ≤ 255))

end WaitREGACKPacketList

structure LinkedWaitREGACK.Represents (waiting : LinkedWaitREGACK)
    (spec : WaitREGACKPacketList) : Prop where
  carries : ∃ cells, waiting.list.Carries cells ∧ cells.map (·.2) = spec.list
  cnt : waiting.cnt = UInt8.ofNat spec.list.length

namespace LinkedWaitREGACK

variable {waiting : LinkedWaitREGACK} {spec : WaitREGACKPacketList}

theorem represents_initial : initial.Represents .initial :=
  ⟨⟨[], DList.carries_empty, rfl⟩, rfl⟩

theorem Represents.seen (h : waiting.Represents spec) (hfits : spec.list.length ≤ 255) (rc : Int)
    (packet : Option MQTTSNPacket) :
    ∃ after, waiting.seen rc packet = some (after, (spec.seen rc packet).2) ∧
      after.Represents (spec.seen rc packet).1 := by
  obtain ⟨cells, hcarries, hcells⟩ := h.carries
  have hcount : waiting.getCount.toNat = spec.list.length := by
    rw [getCount, h.cnt, UInt8.toNat_ofNat_of_lt' (Nat.lt_succ_of_le hfits)]
  refine ⟨waiting, ?_, h⟩
  rw [LinkedWaitREGACK.seen, hcarries.chained.contents, hcells, hcount]
  rfl

theorem Represents.setPacket (h : waiting.Represents spec) (packet : MQTTSNPacket)
    (msgId : UInt16) :
    ∃ added, waiting.setPacket packet msgId = some (added, 1) ∧
      added.Represents (spec.setPacket packet msgId) := by
  obtain ⟨cells, hcarries, hcells⟩ := h.carries
  obtain ⟨list, happend, hadded⟩ := hcarries.append ⟨msgId, packet⟩
  refine ⟨⟨list, waiting.cnt + 1⟩, ?_, ⟨_, hadded, ?_⟩, ?_⟩
  · rw [LinkedWaitREGACK.setPacket, happend]
    rfl
  · rw [List.map_append, hcells]
    rfl
  · rw [h.cnt, WaitREGACKPacketList.setPacket, List.length_append, UInt8.ofNat_add]
    rfl

theorem Represents.getPacket (h : waiting.Represents spec) (msgId : UInt16) :
    waiting.getPacket msgId = some (spec.getPacket msgId) := by
  obtain ⟨cells, hcarries, hcells⟩ := h.carries
  have hfind : waiting.find msgId = _ := hcarries.chained.find _
  simp only [LinkedWaitREGACK.getPacket, hfind, WaitREGACKPacketList.getPacket, ← hcells]
  cases hfound : cells.find? (fun entry => decide (entry.2.msgId = msgId)) with
  | none =>
    rw [List.find?_eq_none.mpr]
    · rfl
    · intro parked hparked
      obtain ⟨entry, hentry, rfl⟩ := List.mem_map.mp hparked
      exact List.find?_eq_none.mp hfound entry hentry
  | some entry =>
    obtain ⟨xs, ys, rfl, -, -, hfirst⟩ := find?_eraseP_split
      (p := fun parked : WaitREGACKPacket => decide (parked.msgId = msgId)) hfound
    obtain ⟨⟨prev, next, hread⟩, -⟩ := hcarries.detach
    simp only [Option.map_some, hread, hfirst]

theorem Represents.erase (h : waiting.Represents spec) (msgId : UInt16) :
    ∃ erased, waiting.erase msgId = some erased ∧ erased.Represents (spec.erase msgId) := by
  obtain ⟨cells, hcarries, hcells⟩ := h.carries
  have hfind : waiting.find msgId = _ := hcarries.chained.find _
  simp only [LinkedWaitREGACK.erase, hfind]
  cases hfound : cells.find? (fun entry => decide (entry.2.msgId = msgId)) with
  | none =>
    have hkept : spec.erase msgId = spec := by
      rw [WaitREGACKPacketList.erase, List.eraseP_of_forall_not]
      intro parked hparked
      rw [← hcells] at hparked
      obtain ⟨entry, hentry, rfl⟩ := List.mem_map.mp hparked
      exact List.find?_eq_none.mp hfound entry hentry
    exact ⟨waiting, rfl, by rwa [hkept]⟩
  | some entry =>
    obtain ⟨xs, ys, rfl, -, herase, -⟩ := find?_eraseP_split
      (p := fun parked : WaitREGACKPacket => decide (parked.msgId = msgId)) hfound
    obtain ⟨-, detached, hdetach, hkept, -⟩ := hcarries.detach
    refine ⟨⟨detached, waiting.cnt - 1⟩, ?_, ⟨xs ++ ys, hkept, ?_⟩, ?_⟩
    · simp only [Option.map_some, hdetach]
    · rw [WaitREGACKPacketList.erase, ← hcells, herase]
    · have hlength : spec.list.length = (xs ++ ys).length + 1 := by
        rw [← hcells]
        simp
        omega
      rw [h.cnt, WaitREGACKPacketList.erase, ← hcells, herase, hcells, hlength, List.length_map,
        UInt8.ofNat_add]
      exact UInt8.add_sub_cancel _ _

theorem simulates :
    Simulates WaitREGACKPacketList.fits Represents step WaitREGACKPacketList.step where
  step := by
    intro waiting spec op hfits h
    cases op with
    | setPacket packet msgId =>
      obtain ⟨added, hset, hafter⟩ := h.setPacket packet msgId
      obtain ⟨after, hseen, hreps⟩ := hafter.seen hfits 1 none
      exact ⟨after, by rw [LinkedWaitREGACK.step, hset]; exact hseen, hreps⟩
    | getPacket msgId =>
      obtain ⟨after, hseen, hreps⟩ := h.seen hfits 0 (spec.getPacket msgId)
      exact ⟨after, by rw [LinkedWaitREGACK.step, h.getPacket]; exact hseen, hreps⟩
    | erase msgId =>
      obtain ⟨erased, herase, hafter⟩ := h.erase msgId
      obtain ⟨after, hseen, hreps⟩ := hafter.seen hfits 0 none
      exact ⟨after, by rw [LinkedWaitREGACK.step, herase]; exact hseen, hreps⟩

end LinkedWaitREGACK

end Waiting

theorem linkedContainers_refine {α : Type} :
    (∀ ops : List (QueOp α), ∃ que, runTrace LinkedQue.step .initial ops =
      some (que, (specTrace QueSpec.step .initial ops).2)) ∧
    (∀ ops : List (ListOp α), ∃ list, runTrace LinkedList.step .initial ops =
      some (list, (specTrace listStep [] ops).2)) ∧
    ∀ ops, Steps WaitREGACKPacketList.after WaitREGACKPacketList.fits .initial ops →
      ∃ waiting, runTrace LinkedWaitREGACK.step .initial ops =
        some (waiting, (specTrace WaitREGACKPacketList.step .initial ops).2) := by
  refine ⟨?_, ?_, ?_⟩
  · intro ops
    obtain ⟨que, hrun, -⟩ := LinkedQue.simulates.run (Steps.of_forall fun _ _ => trivial)
      (LinkedQue.represents_initial (α := α))
    exact ⟨que, hrun⟩
  · intro ops
    obtain ⟨list, hrun, -⟩ := LinkedList.simulates.run (Steps.of_forall fun _ _ => trivial)
      (LinkedList.represents_initial (α := α))
    exact ⟨list, hrun⟩
  · intro ops hfits
    obtain ⟨waiting, hrun, -⟩ := LinkedWaitREGACK.simulates.run hfits
      LinkedWaitREGACK.represents_initial
    exact ⟨waiting, hrun⟩

theorem linkedContainers_refine_parked :
    ∃ waiting, runTrace LinkedWaitREGACK.step .initial
        [.setPacket .pingresp 4, .setPacket .unhandled 4, .erase 4, .getPacket 4] =
      some (waiting, (specTrace WaitREGACKPacketList.step .initial
        [.setPacket .pingresp 4, .setPacket .unhandled 4, .erase 4, .getPacket 4]).2) :=
  (linkedContainers_refine (α := Nat)).2.2 _ (by decide)

end MbedMqtt.MQTTSNGW
