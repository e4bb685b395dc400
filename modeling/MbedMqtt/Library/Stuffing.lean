import Mathlib.Data.List.Basic

-- escaping of symbols in a stream, the escape itself among the escaped ones
structure Stuffing (α : Type) where
  esc : α
  special : α → Bool
  mask : α → α
  special_esc : special esc = true
  mask_mask : ∀ a, mask (mask a) = a

namespace Stuffing

variable {α : Type} (s : Stuffing α)

def stuff (a : α) : List α := if s.special a then [s.esc, s.mask a] else [a]

variable [DecidableEq α]

def next : List α → Option (α × List α)
  | [] => none
  | [a] => if a = s.esc then none else some (a, [])
  | a :: b :: rest => if a = s.esc then some (s.mask b, rest) else some (a, b :: rest)

def take : Nat → List α → Option (List α × List α)
  | 0, input => some ([], input)
  | n + 1, input =>
      match s.next input with
      | none => none
      | some (a, rest) => (take n rest).map fun more => (a :: more.1, more.2)

theorem next_plain {a : α} (h : a ≠ s.esc) (rest : List α) : s.next (a :: rest) = some (a, rest) := by
  cases rest with
  | nil => rw [next, if_neg h]
  | cons b rest => rw [next, if_neg h]

theorem next_stuff (a : α) (rest : List α) : s.next (s.stuff a ++ rest) = some (a, rest) := by
  rw [stuff]
  split_ifs with hspecial
  · rw [List.cons_append, List.singleton_append, next, if_pos rfl, s.mask_mask]
  · apply s.next_plain
    rintro rfl
    exact hspecial s.special_esc

theorem take_stuffed (xs rest : List α) :
    s.take xs.length (xs.flatMap s.stuff ++ rest) = some (xs, rest) := by
  induction xs with
  | nil => rfl
  | cons x xs ih =>
    simp only [List.length_cons, take, List.flatMap_cons, List.append_assoc, s.next_stuff, ih,
      Option.map_some]

end Stuffing
