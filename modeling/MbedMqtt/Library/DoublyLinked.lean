import MbedMqtt.Library.LinkedList

structure DList (α : Type) where
  heap : LinkHeap (DLink α)
  head : Option Nat
  tail : Option Nat

namespace LinkHeap

variable {α : Type}

-- frees every cell from the given one on, each after its `next` has been read
def freeAll : Nat → LinkHeap (DLink α) → Option Nat → Option (LinkHeap (DLink α))
  | 0, _, _ => none
  | _ + 1, heap, none => some heap
  | fuel + 1, heap, some a =>
      match heap.read a with
      | none => none
      | some link => freeAll fuel (heap.free a) link.next

theorem freeAll_segment {heap : LinkHeap (DLink α)} {last prev p : Option Nat}
    {cells : List (Nat × α)} (h : Segment DLink.cell heap last none prev p cells)
    (hdistinct : (addresses cells).Nodup) {fuel : Nat} (hfuel : cells.length < fuel) :
    ∃ after, heap.freeAll fuel p = some after := by
  induction cells generalizing heap prev p fuel with
  | nil =>
    obtain ⟨-, rfl⟩ := h
    obtain ⟨fuel, rfl⟩ := Nat.exists_eq_add_of_lt hfuel
    exact ⟨heap, rfl⟩
  | cons entry cells ih =>
    obtain ⟨a, x⟩ := entry
    obtain ⟨rfl, n, hread, hrest⟩ := h
    obtain ⟨ha, hdistinct⟩ := List.nodup_cons.mp hdistinct
    cases fuel with
    | zero => exact absurd hfuel (Nat.not_lt_zero _)
    | succ fuel =>
      simp only [freeAll, hread]
      exact ih (hrest.free ha) hdistinct (Nat.lt_of_succ_lt_succ hfuel)

end LinkHeap

namespace DList

variable {α : Type}

def empty : DList α := ⟨.empty, none, none⟩

def find (l : DList α) (p : α → Bool) : Option (Option Nat) :=
  l.heap.search DLink.value DLink.next p (l.heap.brk + 1) l.head

def contents (l : DList α) : Option (List α) :=
  l.heap.collect DLink.value DLink.next (l.heap.brk + 1) l.head

def append (l : DList α) (x : α) : Option (DList α) :=
  let address := l.heap.brk
  match l.head with
  | none => some ⟨l.heap.alloc ⟨x, none, none⟩, some address, some address⟩
  | some _ =>
      match l.tail with
      | none => none
      | some p =>
          ((l.heap.alloc ⟨x, some p, none⟩).setNext p (some address)).map fun heap =>
            ⟨heap, l.head, some address⟩

def detach (l : DList α) (a : Nat) : Option (DList α) :=
  (l.heap.read a).bind fun link =>
    (l.heap.unlink link.prev link.next).map fun heap =>
      ⟨heap, if link.prev = none then link.next else l.head,
        if link.next = none then link.prev else l.tail⟩

def free (l : DList α) (a : Nat) : DList α := { l with heap := l.heap.free a }

def modify (l : DList α) (a : Nat) (change : α → α) : Option (DList α) :=
  (l.heap.read a).map fun link =>
    { l with heap := l.heap.write a { link with value := change link.value } }

def clear (l : DList α) : Option (DList α) :=
  (l.heap.freeAll (l.heap.brk + 1) l.head).map fun heap => ⟨heap, none, none⟩

def Carries (l : DList α) (cells : List (Nat × α)) : Prop :=
  Holds DLink.cell l.heap l.head l.tail cells

-- the first cell's back pointer and, with no cell left, the tail may be anything
structure Chained (before : Option Nat) (l : DList α) (cells : List (Nat × α)) : Prop where
  chain : ∃ last, Segment DLink.cell l.heap last none before l.head cells ∧
    (cells ≠ [] → l.tail = last)
  distinct : (addresses cells).Nodup
  allocated : ∀ a ∈ addresses cells, a < l.heap.brk

variable {l : DList α} {before : Option Nat} {cells xs ys : List (Nat × α)} {a : Nat} {x : α}

theorem carries_empty : (empty : DList α).Carries [] := Holds.empty

theorem Carries.chained (h : l.Carries cells) : l.Chained none cells :=
  ⟨⟨l.tail, h.chain, fun _ => rfl⟩, h.distinct, h.allocated⟩

namespace Chained

theorem carries (h : l.Chained none cells) (hne : cells ≠ []) : l.Carries cells := by
  obtain ⟨last, hchain, htail⟩ := h.chain
  exact ⟨htail hne ▸ hchain, h.distinct, h.allocated⟩

theorem length_le (h : l.Chained before cells) : cells.length ≤ l.heap.brk := by
  have hsub : (addresses cells).Subperm (List.range l.heap.brk) :=
    h.distinct.subperm fun a ha => List.mem_range.mpr (h.allocated a ha)
  simpa [addresses] using hsub.length_le

theorem head_eq (h : l.Chained before cells) : l.head = cells.head?.map (·.1) := by
  obtain ⟨last, hchain, -⟩ := h.chain
  exact hchain.first_eq

theorem find (h : l.Chained before cells) (p : α → Bool) :
    l.find p = some ((cells.find? fun entry => p entry.2).map (·.1)) := by
  obtain ⟨last, hchain, -⟩ := h.chain
  exact hchain.search (fun _ _ _ => rfl) (fun _ _ _ => rfl) p (Nat.lt_succ_of_le h.length_le)

theorem contents (h : l.Chained before cells) : l.contents = some (cells.map (·.2)) := by
  obtain ⟨last, hchain, -⟩ := h.chain
  exact hchain.collect (fun _ _ _ => rfl) (fun _ _ _ => rfl) (Nat.lt_succ_of_le h.length_le)

theorem append (h : l.Chained before cells) (x : α) :
    ∃ added, l.append x = some added ∧
      added.Chained (if cells = [] then none else before) (cells ++ [(l.heap.brk, x)]) := by
  have hhead := h.head_eq
  rcases List.eq_nil_or_concat' cells with rfl | ⟨xs, ⟨b, y⟩, rfl⟩
  · have hnone : l.head = none := hhead
    refine ⟨⟨_, some l.heap.brk, some l.heap.brk⟩, ?_, Carries.chained (Holds.single l.heap x)⟩
    simp only [DList.append, hnone]
    rfl
  · obtain ⟨first, hfirst⟩ : ∃ first, (xs ++ [(b, y)]).head? = some first :=
      Option.isSome_iff_exists.mp (by simp)
    have hsome : l.head = some first.1 := hhead.trans (congrArg (Option.map (·.1)) hfirst)
    obtain ⟨last, hchain, htail⟩ := h.chain
    obtain ⟨hlast, m, hread, hadded⟩ := hchain.snoc h.distinct h.allocated x
    have hend : l.tail = some b := (htail (by simp)).trans hlast
    have happend : l.append x = some ⟨(l.heap.alloc (DLink.cell (some b) x none)).write b
        (DLink.cell m y (some l.heap.brk)), l.head, some l.heap.brk⟩ := by
      simp only [DList.append, hsome, hend, LinkHeap.setNext]
      rw [show (⟨x, some b, none⟩ : DLink α) = DLink.cell (some b) x none from rfl, hread]
      rfl
    refine ⟨_, happend, ?_⟩
    rw [if_neg (by simp)]
    exact ⟨⟨_, hadded, fun _ => rfl⟩, nodup_fresh h.distinct h.allocated x,
      below_fresh h.allocated x⟩

theorem tail_eq (h : l.Chained before (xs ++ [(a, x)])) : l.tail = some a := by
  obtain ⟨last, hchain, htail⟩ := h.chain
  obtain ⟨m, r, -, -, n, -, hlast, -⟩ := Segment.append.mp hchain
  rw [htail (by simp), ← hlast]

theorem apart (h : l.Chained before (xs ++ (a, x) :: ys)) :
    a ∉ addresses xs ∧ a ∉ addresses ys := by
  have hdistinct := h.distinct
  rw [addresses_append, addresses_cons, List.nodup_middle, List.nodup_cons, List.mem_append,
    not_or] at hdistinct
  exact hdistinct.1

theorem head_ne (h : l.Chained before (xs ++ (a, x) :: ys)) (hne : xs ≠ []) :
    l.head ≠ some a := by
  obtain ⟨last, hchain, -⟩ := h.chain
  obtain ⟨m, r, hleft, -⟩ := Segment.append.mp hchain
  exact hleft.head_ne h.apart.1 hne

theorem tail_ne (h : l.Chained before (xs ++ (a, x) :: ys)) (hne : ys ≠ []) :
    l.tail ≠ some a := by
  have hlast := h.apart.2
  obtain ⟨ys, ⟨b, y⟩, rfl⟩ := (List.eq_nil_or_concat' ys).resolve_left hne
  rw [← List.cons_append, ← List.append_assoc] at h
  rw [h.tail_eq]
  rintro heq
  obtain rfl := Option.some.inj heq
  exact hlast (by simp)

theorem readAt {k : Nat} (h : l.Chained before cells) (hk : k < cells.length) :
    ∃ prev, l.heap.read cells[k].1 = some ⟨cells[k].2, prev, (cells[k + 1]?).map (·.1)⟩ := by
  obtain ⟨last, hchain, -⟩ := h.chain
  rw [← List.take_append_drop k cells, List.drop_eq_getElem_cons hk] at hchain
  obtain ⟨m, r, -, -, n, hread, hright⟩ := Segment.append.mp hchain
  refine ⟨m, hread.trans ?_⟩
  rw [hright.first_eq, List.head?_drop]
  rfl

theorem dropFirst (h : l.Chained before ((a, x) :: ys)) :
    l.head = some a ∧ ∃ n, l.heap.read a = some ⟨x, before, n⟩ ∧
      ∀ heap : LinkHeap (DLink α), (∀ b, b ≠ a → heap.read b = l.heap.read b) →
        heap.brk = l.heap.brk → Chained (some a) ⟨heap, n, l.tail⟩ ys := by
  obtain ⟨last, ⟨hhead, n, hread, hrest⟩, htail⟩ := h.chain
  obtain ⟨ha, hdistinct⟩ := List.nodup_cons.mp h.distinct
  refine ⟨hhead, n, hread, ?_⟩
  intro heap hsame hbrk
  refine ⟨⟨last, hrest.frame ?_, fun _ => htail (by simp)⟩, hdistinct, ?_⟩
  · intro b hb
    apply hsame
    rintro rfl
    exact ha hb
  · intro b hb
    rw [hbrk]
    exact h.allocated b (List.mem_cons_of_mem a hb)

theorem dropInner (h : l.Chained before (xs ++ (a, x) :: ys)) (hne : xs ≠ []) :
    ∃ p n, l.heap.read a = some ⟨x, some p, n⟩ ∧ n = ys.head?.map (·.1) ∧
      ∃ heap, l.heap.unlink (some p) n = some heap ∧
        Chained before ⟨heap.free a, l.head, if n = none then some p else l.tail⟩ (xs ++ ys) := by
  obtain ⟨last, hchain, htail⟩ := h.chain
  obtain ⟨m, r, hleft, rfl, n, hread, hright⟩ := Segment.append.mp hchain
  have hdistinct := h.distinct
  rw [addresses_append, addresses_cons, List.nodup_middle, List.nodup_cons, ← addresses_append]
    at hdistinct
  obtain ⟨heap, hunlink, hbrk, hjoined⟩ := hleft.unlink hright (fun hnil => absurd hnil hne)
    (addresses_append ▸ hdistinct.2)
  obtain ⟨p, rfl⟩ : ∃ p, m = some p := by
    obtain ⟨front, ⟨b, y⟩, rfl⟩ := (List.eq_nil_or_concat' xs).resolve_left hne
    obtain ⟨k, q, -, -, next, -, rfl, -⟩ := Segment.append.mp hleft
    exact ⟨b, rfl⟩
  rw [if_neg hne] at hjoined
  refine ⟨p, n, hread, hright.first_eq, heap, hunlink, ⟨_, hjoined.free hdistinct.1, ?_⟩,
    hdistinct.2, ?_⟩
  · intro _
    rw [htail (by simp)]
  · intro b hb
    change b < heap.brk
    rw [hbrk]
    apply h.allocated b
    rw [addresses_append, List.mem_append] at hb ⊢
    exact hb.imp_right (List.mem_cons_of_mem a)

theorem clear (h : l.Chained before cells) : ∃ heap, l.clear = some ⟨heap, none, none⟩ := by
  obtain ⟨last, hchain, -⟩ := h.chain
  obtain ⟨heap, hfreed⟩ := LinkHeap.freeAll_segment hchain h.distinct
    (Nat.lt_succ_of_le h.length_le)
  exact ⟨heap, by rw [DList.clear, hfreed]; rfl⟩

end Chained

theorem Carries.append (h : l.Carries cells) (x : α) :
    ∃ added, l.append x = some added ∧ added.Carries (cells ++ [(l.heap.brk, x)]) := by
  obtain ⟨added, happend, hadded⟩ := h.chained.append x
  rw [ite_self] at hadded
  exact ⟨added, happend, hadded.carries (by simp)⟩

theorem Carries.detach (h : l.Carries (xs ++ (a, x) :: ys)) :
    (∃ prev next, l.heap.read a = some ⟨x, prev, next⟩) ∧
      ∃ detached, l.detach a = some detached ∧ detached.Carries (xs ++ ys) ∧
        (detached.free a).Carries (xs ++ ys) := by
  obtain ⟨m, n, hparts⟩ := Holds.parts h
  obtain ⟨heap, hunlink, hholds⟩ := hparts.unlink
  refine ⟨⟨m, n, hparts.read⟩, ⟨heap, if m = none then n else l.head,
    if n = none then m else l.tail⟩, ?_, hholds, hholds.free hparts.fresh⟩
  rw [DList.detach, hparts.read]
  simp only [Option.bind_some, hunlink, Option.map_some]

theorem Carries.clear (h : l.Carries cells) :
    ∃ cleared, l.clear = some cleared ∧ cleared.Carries [] := by
  obtain ⟨heap, hclear⟩ := h.chained.clear
  exact ⟨_, hclear, Holds.empty⟩

theorem Carries.modify (h : l.Carries (xs ++ (a, x) :: ys)) (change : α → α) :
    ∃ modified, l.modify a change = some modified ∧
      modified.Carries (xs ++ (a, change x) :: ys) ∧ modified.heap.brk = l.heap.brk := by
  obtain ⟨m, n, hparts⟩ := Holds.parts h
  have hdistinct := h.distinct
  have hallocated := h.allocated
  rw [addresses_append, addresses_cons] at hdistinct hallocated
  refine ⟨⟨l.heap.write a (DLink.cell m (change x) n), l.head, l.tail⟩, ?_, ⟨?_, ?_, ?_⟩, rfl⟩
  · rw [DList.modify, hparts.read]
    rfl
  · exact Segment.append.mpr ⟨m, some a, hparts.left.write hparts.leftFree _, rfl, n,
      LinkHeap.read_write, hparts.right.write hparts.rightFree _⟩
  · rwa [addresses_append, addresses_cons]
  · rwa [addresses_append, addresses_cons]

theorem append_brk {added : DList α} (h : l.append x = some added) :
    added.heap.brk = l.heap.brk + 1 := by
  unfold append at h
  cases hhead : l.head with
  | none =>
    rw [hhead] at h
    obtain rfl := Option.some.inj h
    rfl
  | some first =>
    rw [hhead] at h
    cases htail : l.tail with
    | none =>
      rw [htail] at h
      cases h
    | some last =>
      rw [htail] at h
      obtain ⟨heap, hset, rfl⟩ := Option.map_eq_some_iff.mp h
      obtain ⟨link, -, rfl⟩ := Option.map_eq_some_iff.mp hset
      rfl

theorem detach_brk {detached : DList α} (h : l.detach a = some detached) :
    detached.heap.brk = l.heap.brk := by
  obtain ⟨link, -, hdetached⟩ := Option.bind_eq_some_iff.mp h
  obtain ⟨heap, hunlink, rfl⟩ := Option.map_eq_some_iff.mp hdetached
  obtain ⟨middle, hnext, hprev⟩ := Option.bind_eq_some_iff.mp hunlink
  have hmiddle : middle.brk = l.heap.brk := by
    cases hlink : link.prev with
    | none =>
      rw [hlink] at hnext
      obtain rfl := Option.some.inj hnext
      rfl
    | some b =>
      rw [hlink] at hnext
      obtain ⟨cell, -, rfl⟩ := Option.map_eq_some_iff.mp hnext
      rfl
  cases hlink : link.next with
  | none =>
    rw [hlink] at hprev
    obtain rfl := Option.some.inj hprev
    exact hmiddle
  | some c =>
    rw [hlink] at hprev
    obtain ⟨cell, -, rfl⟩ := Option.map_eq_some_iff.mp hprev
    exact hmiddle

end DList
