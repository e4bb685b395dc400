import Mathlib.Data.List.Nodup
import Mathlib.Data.List.Range
import Mathlib.Data.List.Perm.Subperm
import Mathlib.Logic.Function.Basic

structure LinkHeap (β : Type) where
  cells : Nat → Option β
  brk : Nat

namespace LinkHeap

variable {β : Type} {heap : LinkHeap β} {a b : Nat} {c : β}

def empty : LinkHeap β := ⟨fun _ => none, 0⟩

def read (heap : LinkHeap β) (a : Nat) : Option β := heap.cells a

def write (heap : LinkHeap β) (a : Nat) (c : β) : LinkHeap β :=
  { heap with cells := Function.update heap.cells a (some c) }

def free (heap : LinkHeap β) (a : Nat) : LinkHeap β :=
  { heap with cells := Function.update heap.cells a none }

def alloc (heap : LinkHeap β) (c : β) : LinkHeap β :=
  ⟨Function.update heap.cells heap.brk (some c), heap.brk + 1⟩

@[simp] theorem read_write : (heap.write a c).read a = some c := Function.update_self _ _ _

theorem read_write_other (h : b ≠ a) : (heap.write a c).read b = heap.read b :=
  Function.update_of_ne h _ _

theorem read_free_other (h : b ≠ a) : (heap.free a).read b = heap.read b :=
  Function.update_of_ne h _ _

@[simp] theorem read_alloc : (heap.alloc c).read heap.brk = some c := Function.update_self _ _ _

theorem read_alloc_other (h : b < heap.brk) : (heap.alloc c).read b = heap.read b :=
  Function.update_of_ne (Nat.ne_of_lt h) _ _

end LinkHeap

section Segment

variable {α β : Type}

def Segment (cell : Option Nat → α → Option Nat → β) (heap : LinkHeap β) (last q : Option Nat) :
    Option Nat → Option Nat → List (Nat × α) → Prop
  | prev, p, [] => prev = last ∧ p = q
  | prev, p, (a, x) :: cells =>
      p = some a ∧ ∃ next, heap.read a = some (cell prev x next) ∧
        Segment cell heap last q (some a) next cells

def addresses (cells : List (Nat × α)) : List Nat := cells.map (·.1)

variable {cell : Option Nat → α → Option Nat → β} {heap after : LinkHeap β}
  {last q prev p : Option Nat} {xs ys cells : List (Nat × α)} {a : Nat} {x : α}

@[simp] theorem addresses_append :
    addresses (xs ++ ys) = addresses xs ++ addresses ys := List.map_append

@[simp] theorem addresses_cons : addresses ((a, x) :: xs) = a :: addresses xs := rfl

@[simp] theorem addresses_nil : addresses ([] : List (Nat × α)) = [] := rfl

namespace Segment

theorem append : Segment cell heap last q prev p (xs ++ ys) ↔
    ∃ m r, Segment cell heap m r prev p xs ∧ Segment cell heap last q m r ys := by
  induction xs generalizing prev p with
  | nil =>
    constructor
    · intro h
      exact ⟨prev, p, ⟨rfl, rfl⟩, h⟩
    · rintro ⟨m, r, ⟨rfl, rfl⟩, h⟩
      exact h
  | cons entry xs ih =>
    obtain ⟨a, x⟩ := entry
    constructor
    · rintro ⟨rfl, next, hread, hrest⟩
      obtain ⟨m, r, hleft, hright⟩ := ih.mp hrest
      exact ⟨m, r, ⟨rfl, next, hread, hleft⟩, hright⟩
    · rintro ⟨m, r, ⟨rfl, next, hread, hleft⟩, hright⟩
      exact ⟨rfl, next, hread, ih.mpr ⟨m, r, hleft, hright⟩⟩

theorem frame (h : Segment cell heap last q prev p cells)
    (hsame : ∀ a ∈ addresses cells, after.read a = heap.read a) :
    Segment cell after last q prev p cells := by
  induction cells generalizing prev p with
  | nil => exact h
  | cons entry cells ih =>
    obtain ⟨a, x⟩ := entry
    obtain ⟨rfl, next, hread, hrest⟩ := h
    refine ⟨rfl, next, ?_, ih hrest ?_⟩
    · rw [hsame a List.mem_cons_self, hread]
    · intro b hb
      exact hsame b (List.mem_cons_of_mem a hb)

theorem write (h : Segment cell heap last q prev p cells) (ha : a ∉ addresses cells) (c : β) :
    Segment cell (heap.write a c) last q prev p cells := by
  apply h.frame
  intro b hb
  apply LinkHeap.read_write_other
  rintro rfl
  exact ha hb

theorem free (h : Segment cell heap last q prev p cells) (ha : a ∉ addresses cells) :
    Segment cell (heap.free a) last q prev p cells := by
  apply h.frame
  intro b hb
  apply LinkHeap.read_free_other
  rintro rfl
  exact ha hb

theorem alloc (h : Segment cell heap last q prev p cells)
    (hbelow : ∀ b ∈ addresses cells, b < heap.brk) (c : β) :
    Segment cell (heap.alloc c) last q prev p cells := by
  apply h.frame
  intro b hb
  exact LinkHeap.read_alloc_other (hbelow b hb)

theorem setNext (h : Segment cell heap last q prev p (xs ++ [(a, x)])) (ha : a ∉ addresses xs)
    (next : Option Nat) :
    last = some a ∧ ∃ m, heap.read a = some (cell m x q) ∧
      Segment cell (heap.write a (cell m x next)) last next prev p (xs ++ [(a, x)]) := by
  obtain ⟨m, r, hleft, rfl, n, hread, rfl, rfl⟩ := append.mp h
  refine ⟨rfl, m, hread, append.mpr ⟨m, some a, hleft.write ha _, rfl, next, ?_, rfl, rfl⟩⟩
  exact LinkHeap.read_write

theorem setPrev (h : Segment cell heap last q prev p ((a, x) :: xs)) (ha : a ∉ addresses xs)
    (before : Option Nat) :
    p = some a ∧ ∃ n, heap.read a = some (cell prev x n) ∧
      Segment cell (heap.write a (cell before x n)) last q before p ((a, x) :: xs) := by
  obtain ⟨rfl, n, hread, hrest⟩ := h
  exact ⟨rfl, n, hread, rfl, n, LinkHeap.read_write, hrest.write ha _⟩

theorem first_eq (h : Segment cell heap last none prev p cells) :
    p = cells.head?.map (·.1) := by
  cases cells with
  | nil => exact h.2
  | cons entry cells => exact h.1

theorem head_ne (h : Segment cell heap last q prev p cells) (ha : a ∉ addresses cells)
    (hne : cells ≠ []) : p ≠ some a := by
  cases cells with
  | nil => exact absurd rfl hne
  | cons entry cells =>
    rw [h.1]
    rintro heq
    exact ha (Option.some.inj heq ▸ List.mem_cons_self)

theorem reprev (hcell : ∀ m k x n, cell m x n = cell k x n)
    (h : Segment cell heap last q prev p cells) (before : Option Nat) :
    ∃ final, Segment cell heap final q before p cells := by
  cases cells with
  | nil => exact ⟨before, rfl, h.2⟩
  | cons entry cells =>
    obtain ⟨rfl, next, hread, hrest⟩ := h
    exact ⟨last, rfl, next, hcell prev before _ _ ▸ hread, hrest⟩

end Segment

theorem nodup_fresh (hdistinct : (addresses cells).Nodup)
    (hbelow : ∀ b ∈ addresses cells, b < heap.brk) (y : α) :
    (addresses (cells ++ [(heap.brk, y)])).Nodup := by
  rw [addresses_append, List.nodup_append_comm]
  exact List.nodup_cons.mpr ⟨fun hmem => Nat.lt_irrefl _ (hbelow _ hmem), hdistinct⟩

theorem below_fresh (hbelow : ∀ b ∈ addresses cells, b < heap.brk) (y : α) :
    ∀ b ∈ addresses (cells ++ [(heap.brk, y)]), b < heap.brk + 1 := by
  intro b hb
  rw [addresses_append, List.mem_append] at hb
  rcases hb with hb | hb
  · exact Nat.lt_succ_of_lt (hbelow b hb)
  · obtain rfl := List.mem_singleton.mp hb
    exact Nat.lt_succ_self _

theorem Segment.snoc (h : Segment cell heap last none prev p (xs ++ [(a, x)]))
    (hdistinct : (addresses (xs ++ [(a, x)])).Nodup)
    (hbelow : ∀ b ∈ addresses (xs ++ [(a, x)]), b < heap.brk) (y : α) :
    last = some a ∧ ∃ m, (heap.alloc (cell (some a) y none)).read a = some (cell m x none) ∧
      Segment cell ((heap.alloc (cell (some a) y none)).write a (cell m x (some heap.brk)))
        (some heap.brk) none prev p (xs ++ [(a, x)] ++ [(heap.brk, y)]) := by
  have hfresh : heap.brk ∉ addresses (xs ++ [(a, x)]) := fun hmem =>
    Nat.lt_irrefl _ (hbelow _ hmem)
  rw [addresses_append, List.nodup_append_comm] at hdistinct
  have ha : a ∉ addresses xs := (List.nodup_cons.mp hdistinct).1
  have hne : heap.brk ≠ a := by
    rintro heq
    exact hfresh (heq ▸ by simp)
  obtain ⟨rfl, m, hread, hchain⟩ :=
    (h.alloc hbelow (cell (some a) y none)).setNext ha (some heap.brk)
  refine ⟨rfl, m, hread, Segment.append.mpr ⟨some a, some heap.brk, hchain, rfl, none, ?_, rfl, rfl⟩⟩
  rw [LinkHeap.read_write_other hne, LinkHeap.read_alloc]

structure Holds (cell : Option Nat → α → Option Nat → β) (heap : LinkHeap β)
    (head tail : Option Nat) (cells : List (Nat × α)) : Prop where
  chain : Segment cell heap tail none none head cells
  distinct : (addresses cells).Nodup
  allocated : ∀ a ∈ addresses cells, a < heap.brk

namespace Holds

variable {head tail : Option Nat}

theorem empty : Holds cell heap none none [] := ⟨⟨rfl, rfl⟩, List.nodup_nil, nofun⟩

theorem length_le (h : Holds cell heap head tail cells) : cells.length ≤ heap.brk := by
  have hsub : (addresses cells).Subperm (List.range heap.brk) :=
    h.distinct.subperm fun a ha => List.mem_range.mpr (h.allocated a ha)
  simpa [addresses] using hsub.length_le

theorem head_none (h : Holds cell heap none tail cells) : cells = [] ∧ tail = none := by
  cases cells with
  | nil => exact ⟨rfl, h.chain.1.symm⟩
  | cons entry cells => exact absurd h.chain.1 nofun

theorem head_some (h : Holds cell heap (some a) tail cells) : cells ≠ [] := by
  rintro rfl
  exact absurd h.chain.2 nofun

theorem single (heap : LinkHeap β) (x : α) :
    Holds cell (heap.alloc (cell none x none)) (some heap.brk) (some heap.brk)
      [(heap.brk, x)] where
  chain := ⟨rfl, none, LinkHeap.read_alloc, rfl, rfl⟩
  distinct := List.nodup_singleton _
  allocated := by simp [LinkHeap.alloc, addresses]

theorem snoc (h : Holds cell heap head tail (xs ++ [(a, x)])) (y : α) :
    tail = some a ∧ ∃ m, (heap.alloc (cell (some a) y none)).read a = some (cell m x none) ∧
      Holds cell ((heap.alloc (cell (some a) y none)).write a (cell m x (some heap.brk)))
        head (some heap.brk) (xs ++ [(a, x)] ++ [(heap.brk, y)]) := by
  obtain ⟨htail, m, hread, hchain⟩ := h.chain.snoc h.distinct h.allocated y
  exact ⟨htail, m, hread, hchain, nodup_fresh h.distinct h.allocated y,
    below_fresh h.allocated y⟩

section Forward

variable (hcell : ∀ m k x n, cell m x n = cell k x n)

include hcell

theorem cutThrough (h : Holds cell heap head tail (xs ++ (a, x) :: ys)) :
    ∃ m n, heap.read a = some (cell m x n) ∧ n = ys.head?.map (·.1) ∧
      ∃ final, Holds cell (heap.free a) n final ys := by
  obtain ⟨m, r, -, rfl, n, hread, hright⟩ := Segment.append.mp h.chain
  have hdistinct := h.distinct
  rw [addresses_append, addresses_cons, List.nodup_append] at hdistinct
  obtain ⟨ha, hnodup⟩ := List.nodup_cons.mp hdistinct.2.1
  obtain ⟨final, hchain⟩ := hright.reprev hcell none
  refine ⟨m, n, hread, hright.first_eq, final, hchain.free ha, hnodup, ?_⟩
  intro b hb
  apply h.allocated b
  rw [addresses_append]
  exact List.mem_append_right _ (List.mem_cons_of_mem a hb)

theorem unlinkFirst (h : Holds cell heap head tail ((a, x) :: ys)) :
    head = some a ∧ ∃ n, heap.read a = some (cell none x n) ∧ n = ys.head?.map (·.1) ∧
      ∃ final, Holds cell (heap.free a) n final ys := by
  have hfirst : head = some a := h.chain.1
  rw [← List.nil_append ((a, x) :: ys)] at h
  obtain ⟨m, n, hread, hrest⟩ := h.cutThrough hcell
  exact ⟨hfirst, n, hcell m none x n ▸ hread, hrest⟩

theorem unlinkNext {b : Nat} {y : α}
    (h : Holds cell heap head tail (xs ++ [(b, y)] ++ (a, x) :: ys)) :
    head ≠ some a ∧ ∃ m n, heap.read b = some (cell m y (some a)) ∧
      heap.read a = some (cell (some b) x n) ∧ n = ys.head?.map (·.1) ∧
      ∃ final, Holds cell ((heap.write b (cell m y n)).free a) head final
        (xs ++ [(b, y)] ++ ys) := by
  obtain ⟨m, r, hleft, rfl, n, hread, hright⟩ := Segment.append.mp h.chain
  have hdistinct := h.distinct
  rw [addresses_append, addresses_cons, List.nodup_middle, List.nodup_cons, List.mem_append,
    not_or] at hdistinct
  obtain ⟨⟨haleft, haright⟩, hnodup⟩ := hdistinct
  have hb := hnodup
  rw [addresses_append, addresses_cons, addresses_nil, List.append_assoc, List.singleton_append,
    List.nodup_middle, List.nodup_cons, List.mem_append, not_or] at hb
  obtain ⟨rfl, k, hprev, hrelinked⟩ := hleft.setNext hb.1.1 n
  obtain ⟨final, hsuffix⟩ := hright.reprev hcell (some b)
  refine ⟨hleft.head_ne haleft (by simp), k, n, hprev, hread, hright.first_eq, final, ?_, ?_, ?_⟩
  · exact Segment.append.mpr ⟨some b, n, hrelinked.free haleft, (hsuffix.write hb.1.2 _).free haright⟩
  · rwa [addresses_append]
  · intro c hc
    apply h.allocated c
    rw [addresses_append, List.mem_append] at hc ⊢
    exact hc.imp_right (List.mem_cons_of_mem a)

end Forward

end Holds

end Segment

def LinkHeap.search {α β : Type} (value : β → α) (next : β → Option Nat) (heap : LinkHeap β)
    (p : α → Bool) : Nat → Option Nat → Option (Option Nat)
  | 0, _ => none
  | _ + 1, none => some none
  | fuel + 1, some a =>
      match heap.read a with
      | none => none
      | some c => if p (value c) then some (some a) else search value next heap p fuel (next c)

def LinkHeap.collect {α β : Type} (value : β → α) (next : β → Option Nat) (heap : LinkHeap β) :
    Nat → Option Nat → Option (List α)
  | 0, _ => none
  | _ + 1, none => some []
  | fuel + 1, some a =>
      match heap.read a with
      | none => none
      | some c => (collect value next heap fuel (next c)).map (value c :: ·)

section Walks

variable {α β : Type} {cell : Option Nat → α → Option Nat → β} {value : β → α}
  {next : β → Option Nat} {heap : LinkHeap β} {last prev p : Option Nat} {cells : List (Nat × α)}

theorem Segment.walk {motive : Nat → Option Nat → Option Nat → List (Nat × α) → Prop}
    (nil : ∀ fuel, motive (fuel + 1) last none [])
    (cons : ∀ {fuel prev a x n cells}, heap.read a = some (cell prev x n) →
      Segment cell heap last none (some a) n cells → motive fuel (some a) n cells →
      motive (fuel + 1) prev (some a) ((a, x) :: cells))
    (h : Segment cell heap last none prev p cells) {fuel : Nat} (hfuel : cells.length < fuel) :
    motive fuel prev p cells := by
  induction cells generalizing prev p fuel with
  | nil =>
    obtain ⟨rfl, rfl⟩ := h
    obtain ⟨fuel, rfl⟩ := Nat.exists_eq_add_of_lt hfuel
    exact nil _
  | cons entry cells ih =>
    obtain ⟨a, x⟩ := entry
    obtain ⟨rfl, n, hread, hrest⟩ := h
    cases fuel with
    | zero => exact absurd hfuel (Nat.not_lt_zero _)
    | succ fuel => exact cons hread hrest (ih hrest (Nat.lt_of_succ_lt_succ hfuel))

theorem Segment.collect (hvalue : ∀ m x n, value (cell m x n) = x)
    (hnext : ∀ m x n, next (cell m x n) = n) (h : Segment cell heap last none prev p cells)
    {fuel : Nat} (hfuel : cells.length < fuel) :
    heap.collect value next fuel p = some (cells.map (·.2)) := by
  refine h.walk (motive := fun fuel _ p cells =>
    heap.collect value next fuel p = some (cells.map (·.2))) ?_ ?_ hfuel
  · intro fuel
    rfl
  · intro fuel prev a x n cells hread hrest ih
    simp only [LinkHeap.collect, hread, hvalue, hnext, ih, Option.map_some, List.map_cons]

theorem Segment.search (hvalue : ∀ m x n, value (cell m x n) = x)
    (hnext : ∀ m x n, next (cell m x n) = n) (pred : α → Bool)
    (h : Segment cell heap last none prev p cells) {fuel : Nat} (hfuel : cells.length < fuel) :
    heap.search value next pred fuel p =
      some ((cells.find? fun entry => pred entry.2).map (·.1)) := by
  refine h.walk (motive := fun fuel _ p cells => heap.search value next pred fuel p =
    some ((cells.find? fun entry => pred entry.2).map (·.1))) ?_ ?_ hfuel
  · intro fuel
    rfl
  · intro fuel prev a x n cells hread hrest ih
    simp only [LinkHeap.search, hread, hvalue, hnext, ih, List.find?_cons]
    cases pred x with
    | true => rfl
    | false => rfl

end Walks

structure DLink (α : Type) where
  value : α
  prev : Option Nat
  next : Option Nat
  deriving DecidableEq, Repr

def DLink.cell {α : Type} (prev : Option Nat) (value : α) (next : Option Nat) : DLink α :=
  ⟨value, prev, next⟩

namespace LinkHeap

variable {α : Type}

def setNext (heap : LinkHeap (DLink α)) (a : Nat) (next : Option Nat) :
    Option (LinkHeap (DLink α)) :=
  (heap.read a).map fun link => heap.write a { link with next := next }

def setPrev (heap : LinkHeap (DLink α)) (a : Nat) (prev : Option Nat) :
    Option (LinkHeap (DLink α)) :=
  (heap.read a).map fun link => heap.write a { link with prev := prev }

def setNext? (heap : LinkHeap (DLink α)) (prev next : Option Nat) : Option (LinkHeap (DLink α)) :=
  match prev with
  | none => some heap
  | some b => heap.setNext b next

def setPrev? (heap : LinkHeap (DLink α)) (next prev : Option Nat) : Option (LinkHeap (DLink α)) :=
  match next with
  | none => some heap
  | some c => heap.setPrev c prev

def unlink (heap : LinkHeap (DLink α)) (prev next : Option Nat) : Option (LinkHeap (DLink α)) :=
  (heap.setNext? prev next).bind fun heap => heap.setPrev? next prev

end LinkHeap

section Doubly

variable {α : Type} {heap : LinkHeap (DLink α)} {head tail : Option Nat} {xs ys : List (Nat × α)}
  {a b c : Nat} {x y z : α}

structure Parts (heap : LinkHeap (DLink α)) (head tail : Option Nat) (xs : List (Nat × α)) (a : Nat)
    (x : α) (ys : List (Nat × α)) (m n : Option Nat) : Prop where
  left : Segment DLink.cell heap m (some a) none head xs
  read : heap.read a = some ⟨x, m, n⟩
  right : Segment DLink.cell heap tail none (some a) n ys
  leftFree : a ∉ addresses xs
  rightFree : a ∉ addresses ys
  apart : (addresses xs ++ addresses ys).Nodup
  below : ∀ b ∈ addresses xs ++ addresses ys, b < heap.brk

theorem Holds.parts (h : Holds DLink.cell heap head tail (xs ++ (a, x) :: ys)) :
    ∃ m n, Parts heap head tail xs a x ys m n := by
  obtain ⟨m, r, hleft, rfl, n, hread, hright⟩ := Segment.append.mp h.chain
  have hdistinct := h.distinct
  rw [addresses_append, addresses_cons, List.nodup_middle, List.nodup_cons, List.mem_append,
    not_or] at hdistinct
  refine ⟨m, n, hleft, hread, hright, hdistinct.1.1, hdistinct.1.2, hdistinct.2, ?_⟩
  intro b hb
  apply h.allocated b
  rw [addresses_append, addresses_cons, List.mem_append, List.mem_cons]
  exact (List.mem_append.mp hb).imp_right .inr

theorem Segment.setNext_last {last q prev p : Option Nat}
    (h : Segment DLink.cell heap last q prev p (xs ++ [(b, y)])) (hb : b ∉ addresses xs)
    (next : Option Nat) :
    last = some b ∧ ∃ m, heap.setNext b next = some (heap.write b ⟨y, m, next⟩) ∧
      Segment DLink.cell (heap.write b ⟨y, m, next⟩) last next prev p (xs ++ [(b, y)]) := by
  obtain ⟨hlast, m, hread, hchain⟩ := h.setNext hb next
  refine ⟨hlast, m, ?_, hchain⟩
  rw [LinkHeap.setNext, hread]
  rfl

theorem Segment.setPrev_first {last q prev p : Option Nat}
    (h : Segment DLink.cell heap last q prev p ((c, z) :: ys)) (hc : c ∉ addresses ys)
    (before : Option Nat) :
    p = some c ∧ ∃ n, heap.setPrev c before = some (heap.write c ⟨z, before, n⟩) ∧
      Segment DLink.cell (heap.write c ⟨z, before, n⟩) last q before p ((c, z) :: ys) := by
  obtain ⟨hfirst, n, hread, hchain⟩ := h.setPrev hc before
  refine ⟨hfirst, n, ?_, hchain⟩
  rw [LinkHeap.setPrev, hread]
  rfl

theorem Segment.setNext_left {last prev p m n : Option Nat}
    (hleft : Segment DLink.cell heap m (some a) prev p xs)
    (hright : Segment DLink.cell heap last none (some a) n ys) (hstart : xs = [] → prev = none)
    (hapart : (addresses xs ++ addresses ys).Nodup) :
    ∃ after, heap.setNext? m n = some after ∧ after.brk = heap.brk ∧
      Segment DLink.cell after m n prev (if xs = [] then n else p) xs ∧
      Segment DLink.cell after last none (some a) n ys := by
  rcases List.eq_nil_or_concat' xs with rfl | ⟨xs, ⟨b, y⟩, rfl⟩
  · obtain ⟨rfl, -⟩ := hleft
    obtain rfl := hstart rfl
    exact ⟨heap, rfl, rfl, ⟨rfl, rfl⟩, hright⟩
  · rw [addresses_append, addresses_cons, addresses_nil, List.append_assoc, List.singleton_append,
      List.nodup_middle, List.nodup_cons, List.mem_append, not_or] at hapart
    obtain ⟨rfl, k, hset, hchain⟩ := hleft.setNext_last hapart.1.1 n
    rw [if_neg (by simp)]
    exact ⟨_, hset, rfl, hchain, hright.write hapart.1.2 _⟩

theorem Segment.unlink {last prev p m n : Option Nat}
    (hleft : Segment DLink.cell heap m (some a) prev p xs)
    (hright : Segment DLink.cell heap last none (some a) n ys) (hstart : xs = [] → prev = none)
    (hapart : (addresses xs ++ addresses ys).Nodup) :
    ∃ after, heap.unlink m n = some after ∧ after.brk = heap.brk ∧
      Segment DLink.cell after (if n = none then m else last) none prev
        (if xs = [] then n else p) (xs ++ ys) := by
  obtain ⟨middle, hset, hbrk, hleft', hright'⟩ := hleft.setNext_left hright hstart hapart
  simp only [LinkHeap.unlink, hset, Option.bind_some]
  cases ys with
  | nil =>
    obtain ⟨-, rfl⟩ := hright'
    exact ⟨middle, rfl, hbrk, Segment.append.mpr ⟨m, none, hleft', rfl, rfl⟩⟩
  | cons entry ys =>
    obtain ⟨c, z⟩ := entry
    rw [addresses_cons, List.nodup_middle, List.nodup_cons, List.mem_append, not_or] at hapart
    obtain ⟨rfl, l, hprev, hchain⟩ := hright'.setPrev_first hapart.1.2 m
    exact ⟨_, hprev, hbrk, Segment.append.mpr ⟨m, some c, hleft'.write hapart.1.1 _, hchain⟩⟩

theorem Segment.left_nil {heap : LinkHeap (DLink α)} {m q p : Option Nat}
    (h : Segment DLink.cell heap m q none p xs) : m = none ↔ xs = [] := by
  rcases List.eq_nil_or_concat' xs with rfl | ⟨xs, ⟨b, y⟩, rfl⟩
  · exact iff_of_true h.1.symm rfl
  · obtain ⟨k, r, -, -, next, -, rfl, -⟩ := Segment.append.mp h
    simp

theorem Parts.unlink {m n : Option Nat} (h : Parts heap head tail xs a x ys m n) :
    ∃ after, heap.unlink m n = some after ∧
      Holds DLink.cell after (if m = none then n else head) (if n = none then m else tail)
        (xs ++ ys) := by
  obtain ⟨after, hunlink, hbrk, hchain⟩ := h.left.unlink h.right (fun _ => rfl) h.apart
  rw [if_congr h.left.left_nil.symm rfl rfl] at hchain
  exact ⟨after, hunlink, hchain, addresses_append ▸ h.apart, addresses_append ▸ hbrk ▸ h.below⟩

theorem Holds.free (h : Holds DLink.cell heap head tail xs) (ha : a ∉ addresses xs) :
    Holds DLink.cell (heap.free a) head tail xs := ⟨h.chain.free ha, h.distinct, h.allocated⟩

theorem Parts.fresh {m n : Option Nat} (h : Parts heap head tail xs a x ys m n) :
    a ∉ addresses (xs ++ ys) := by
  rw [addresses_append, List.mem_append, not_or]
  exact ⟨h.leftFree, h.rightFree⟩

end Doubly
