import Mathlib.Data.List.Basic

namespace Levels

variable {α β : Type}

section Cover

variable [DecidableEq β] (one many : β)

def covers : List β → List β → Bool
  | [], names => names.isEmpty
  | f :: fs, names =>
      if f = many ∧ fs = [] then true
      else
        match names with
        | [] => false
        | n :: ns => (f = one || f = n) && covers fs ns

theorem covers_many (names : List β) : covers one many [many] names = true := by
  simp [covers]

theorem covers_cons_nil {f : β} {fs : List β} :
    covers one many (f :: fs) [] = true ↔ f = many ∧ fs = [] := by
  simp [covers]

theorem covers_cons_cons {f : β} (n : β) {fs ns : List β} (h : ¬(f = many ∧ fs = [])) :
    covers one many (f :: fs) (n :: ns) = ((f = one || f = n) && covers one many fs ns) := by
  simp [covers, h]

end Cover

variable [DecidableEq α] {sep : α}

theorem split_cases (sep : α) (xs : List α) :
    sep ∉ xs ∧ xs.splitOn sep = [xs] ∨
      ∃ a b, xs = a ++ sep :: b ∧ sep ∉ a ∧ xs.splitOn sep = a :: b.splitOn sep := by
  by_cases h : sep ∈ xs
  · obtain ⟨a, b, rfl, ha⟩ := List.eq_append_cons_of_mem h
    exact .inr ⟨a, b, rfl, ha, List.splitOn_append_cons_self_of_not_mem ha b⟩
  · exact .inl ⟨h, List.splitOn_eq_singleton h⟩

theorem split_induction {motive : List α → Prop} (sep : α)
    (last : ∀ a, sep ∉ a → a.splitOn sep = [a] → motive a)
    (more : ∀ a b, sep ∉ a → (a ++ sep :: b).splitOn sep = a :: b.splitOn sep → motive b →
      motive (a ++ sep :: b)) (xs : List α) : motive xs := by
  induction hn : xs.length using Nat.strongRecOn generalizing xs with
  | ind n ih =>
    rcases split_cases sep xs with ⟨hnot, hsplit⟩ | ⟨a, b, rfl, ha, hsplit⟩
    · exact last xs hnot hsplit
    · refine more a b ha hsplit (ih b.length ?_ b rfl)
      rw [← hn, List.length_append, List.length_cons]
      omega

theorem splitOn_eq_singleton_iff {xs a : List α} (ha : sep ∉ a) :
    xs.splitOn sep = [a] ↔ xs = a := by
  constructor
  · intro h
    have hjoin : [sep].intercalate (xs.splitOn sep) = xs := List.intercalate_splitOn sep
    rw [h] at hjoin
    simpa using hjoin.symm
  · rintro rfl
    exact List.splitOn_eq_singleton ha

end Levels
