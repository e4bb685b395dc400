import Mathlib.Data.List.Basic
import Mathlib.Logic.Function.Basic

inductive Fetch (α β : Type) where
  | done (b : β)
  | ask (i : Int) (k : α → Fetch α β)

namespace Fetch

variable {α β γ : Type}

def bind : Fetch α β → (β → Fetch α γ) → Fetch α γ
  | done b, f => f b
  | ask i k, f => ask i fun a => (k a).bind f

instance : Monad (Fetch α) where
  pure := done
  bind := bind

def item (i : Int) : Fetch α α := ask i done

def value (mem : Int → α) : Fetch α β → β
  | done b => b
  | ask i k => (k (mem i)).value mem

def reads (mem : Int → α) : Fetch α β → List Int
  | done _ => []
  | ask i k => i :: (k (mem i)).reads mem

variable {mem : Int → α}

@[simp] theorem value_pure (b : β) : (pure b : Fetch α β).value mem = b := rfl

@[simp] theorem reads_pure (b : β) : (pure b : Fetch α β).reads mem = [] := rfl

@[simp] theorem value_item (i : Int) : (item i).value mem = mem i := rfl

@[simp] theorem reads_item (i : Int) : (item i).reads mem = [i] := rfl

@[simp] theorem value_bind (p : Fetch α β) (f : β → Fetch α γ) :
    (p >>= f).value mem = (f (p.value mem)).value mem := by
  induction p with
  | done b => rfl
  | ask i k ih => exact ih (mem i)

@[simp] theorem reads_bind (p : Fetch α β) (f : β → Fetch α γ) :
    (p >>= f).reads mem = p.reads mem ++ (f (p.value mem)).reads mem := by
  induction p with
  | done b => rfl
  | ask i k ih => exact congrArg (i :: ·) (ih (mem i))

@[simp] theorem value_ite (c : Prop) [Decidable c] (p q : Fetch α β) :
    (if c then p else q).value mem = if c then p.value mem else q.value mem := apply_ite _ c p q

def Inside (mem : Int → α) (limit : Int) (p : Fetch α β) : Prop :=
  ∀ i ∈ p.reads mem, 0 ≤ i ∧ i < limit

theorem inside_pure (limit : Int) (b : β) : Inside mem limit (pure b) := by
  intro i hi
  cases hi

theorem inside_item {limit i : Int} : Inside mem limit (item i) ↔ 0 ≤ i ∧ i < limit := by
  simp [Inside]

theorem inside_bind {limit : Int} {p : Fetch α β} {f : β → Fetch α γ} :
    Inside mem limit (p >>= f) ↔ Inside mem limit p ∧ Inside mem limit (f (p.value mem)) := by
  simp only [Inside, reads_bind, List.forall_mem_append]

def copy (i : Int) : Nat → Fetch α (List α)
  | 0 => pure []
  | n + 1 => do
      let a ← item i
      let rest ← copy (i + 1) n
      pure (a :: rest)

theorem inside_copy {limit i : Int} {n : Nat} (hstart : 0 ≤ i) (hend : i + n ≤ limit) :
    Inside mem limit (copy i n) := by
  induction n generalizing i with
  | zero => exact inside_pure limit []
  | succ n ih =>
    rw [copy, inside_bind, inside_item, inside_bind]
    exact ⟨⟨hstart, by omega⟩, ih (by omega) (by omega), inside_pure limit _⟩

-- goes on where `p` gives a value
def andThen (p : Fetch α (Option β)) (f : β → Fetch α (Option γ)) : Fetch α (Option γ) :=
  p >>= fun
    | none => pure none
    | some b => f b

@[simp] theorem value_andThen (p : Fetch α (Option β)) (f : β → Fetch α (Option γ)) :
    (p.andThen f).value mem = (p.value mem).bind fun b => (f b).value mem := by
  rw [andThen, value_bind]
  cases p.value mem <;> rfl

theorem inside_andThen {limit : Int} {p : Fetch α (Option β)} {f : β → Fetch α (Option γ)} :
    Inside mem limit (p.andThen f) ↔
      Inside mem limit p ∧ ∀ b, p.value mem = some b → Inside mem limit (f b) := by
  rw [andThen, inside_bind]
  cases p.value mem with
  | none => simp [inside_pure]
  | some b => simp

end Fetch

def LaidOut {α : Type} (mem : Int → α) (i : Int) (xs : List α) : Prop :=
  ∀ (n : Nat) (h : n < xs.length), mem (i + n) = xs[n]

namespace LaidOut

variable {α : Type} {mem : Int → α} {i : Int} {x : α} {xs ys : List α}

theorem append : LaidOut mem i (xs ++ ys) ↔ LaidOut mem i xs ∧ LaidOut mem (i + xs.length) ys := by
  constructor
  · intro h
    constructor
    · intro n hn
      rw [h n (by simp; omega), List.getElem_append_left hn]
    · intro n hn
      have hval := h (xs.length + n) (by simp [hn])
      rw [List.getElem_append_right (by omega)] at hval
      simpa [Int.add_assoc] using hval
  · rintro ⟨hx, hy⟩ n hn
    rcases Nat.lt_or_ge n xs.length with hlt | hge
    · rw [List.getElem_append_left hlt, hx n hlt]
    · rw [List.getElem_append_right hge, ← hy (n - xs.length) (by simp at hn; omega)]
      congr 1
      omega

theorem cons : LaidOut mem i (x :: xs) ↔ mem i = x ∧ LaidOut mem (i + 1) xs := by
  rw [← List.singleton_append, append]
  refine and_congr_left fun _ => ?_
  constructor
  · intro h
    simpa using h 0 (by simp)
  · intro h n hn
    obtain rfl : n = 0 := by simpa using hn
    simpa using h

end LaidOut

theorem value_copy_laidOut {α : Type} {mem : Int → α} {i : Int} {xs : List α}
    (h : LaidOut mem i xs) : (Fetch.copy i xs.length).value mem = xs := by
  induction xs generalizing i with
  | nil => rfl
  | cons x xs ih =>
    obtain ⟨hx, hxs⟩ := LaidOut.cons.mp h
    simp only [Fetch.copy, List.length_cons, Fetch.value_bind, Fetch.value_item, Fetch.value_pure,
      hx, ih hxs]

theorem value_copy_slice {α : Type} {mem : Int → α} {xs : List α} (h : LaidOut mem 0 xs)
    {i n : Nat} (hend : i + n ≤ xs.length) :
    (Fetch.copy i n).value mem = (xs.drop i).take n := by
  have hsplit : xs = xs.take i ++ ((xs.drop i).take n ++ (xs.drop i).drop n) := by
    rw [List.take_append_drop, List.take_append_drop]
  have hfront : (xs.take i).length = i := List.length_take_of_le (by omega)
  have hslice : ((xs.drop i).take n).length = n :=
    List.length_take_of_le (by rw [List.length_drop]; omega)
  rw [hsplit] at h
  have hlaid := (LaidOut.append.mp (LaidOut.append.mp h).2).1
  rw [hfront, Int.zero_add] at hlaid
  have hvalue := value_copy_laidOut hlaid
  rwa [hslice] at hvalue

def storeAll {α : Type} (mem : Int → α) (writes : List (Int × α)) : Int → α :=
  writes.foldl (fun mem write => Function.update mem write.1 write.2) mem

def memoryOf {α : Type} (fill : α) (xs : List α) (i : Int) : α := xs.getD i.toNat fill

theorem laidOut_memoryOf {α : Type} (fill : α) (xs : List α) : LaidOut (memoryOf fill xs) 0 xs := by
  intro n hn
  simp [memoryOf, hn]

structure Slice where
  start : Int
  len : Int
  deriving DecidableEq, Repr

namespace Slice

variable {α : Type} {mem : Int → α} {i : Int} {xs : List α}

def items (mem : Int → α) (s : Slice) : Option (List α) :=
  if 0 ≤ s.len then some ((List.range s.len.toNat).map fun (n : Nat) => mem (s.start + n)) else none

def Inside (limit : Int) (s : Slice) : Prop := 0 ≤ s.len ∧ 0 ≤ s.start ∧ s.start + s.len ≤ limit

instance (limit : Int) (s : Slice) : Decidable (s.Inside limit) :=
  inferInstanceAs (Decidable (_ ∧ _ ∧ _))

theorem len_eq_of_items {s : Slice} (h : s.items mem = some xs) : s.len = xs.length := by
  rw [items] at h
  split_ifs at h with hlen
  · have hxs := congrArg List.length (Option.some.inj h)
    rw [List.length_map, List.length_range] at hxs
    omega

theorem items_laidOut (h : LaidOut mem i xs) : Slice.items mem ⟨i, xs.length⟩ = some xs := by
  rw [items, if_pos (Int.natCast_nonneg _)]
  refine congrArg some (List.ext_getElem (by simp) ?_)
  intro n hn hxs
  simp [h n hxs]

theorem items_eq_iff (h : LaidOut mem i xs) (n : Int) :
    Slice.items mem ⟨i, n⟩ = some xs ↔ n = xs.length := by
  constructor
  · exact len_eq_of_items
  · rintro rfl
    exact items_laidOut h

end Slice
