import Mathlib.Data.List.Basic

namespace KeyedOrder

variable {α κ : Type} [DecidableEq κ] {key : α → κ} {arrived sent parked early late : List α} {a : α}

def Follows (key : α → κ) (arrived settled : List α) : Prop :=
  ∀ k, (settled.filter (key · = k)).Sublist (arrived.filter (key · = k))

theorem filter_eq_nil_of_free {k : κ} (h : ∀ p ∈ parked, key p ≠ k) :
    parked.filter (key · = k) = [] := by
  rw [List.filter_eq_nil_iff]
  intro p hp
  simpa using h p hp

theorem Follows.nil (key : α → κ) : Follows key [] [] := fun _ => .slnil

theorem Follows.of_append (h : Follows key arrived (sent ++ parked)) : Follows key arrived sent := by
  intro k
  have hk := h k
  rw [List.filter_append] at hk
  exact (List.sublist_append_left _ _).trans hk

theorem Follows.drop (h : Follows key arrived sent) : Follows key (arrived ++ [a]) sent := by
  intro k
  rw [List.filter_append]
  exact (h k).trans (List.sublist_append_left _ _)

theorem Follows.park (h : Follows key arrived (sent ++ parked)) :
    Follows key (arrived ++ [a]) (sent ++ (parked ++ [a])) := by
  intro k
  rw [← List.append_assoc, List.filter_append _ [a], List.filter_append arrived]
  exact (h k).append (List.Sublist.refl _)

theorem Follows.send (h : Follows key arrived (sent ++ parked))
    (hfree : ∀ p ∈ parked, key p ≠ key a) :
    Follows key (arrived ++ [a]) (sent ++ [a] ++ parked) := by
  intro k
  have hk := h k
  simp only [List.filter_append] at hk ⊢
  by_cases ha : key a = k
  · subst ha
    rw [filter_eq_nil_of_free hfree, List.append_nil] at hk ⊢
    exact hk.append (List.Sublist.refl _)
  · have hnone : [a].filter (key · = k) = [] := by simp [ha]
    rw [hnone, List.append_nil, List.append_nil]
    exact hk

theorem Follows.release (h : Follows key arrived (sent ++ (early ++ a :: late)))
    (hfree : ∀ p ∈ early, key p ≠ key a) :
    Follows key arrived (sent ++ [a] ++ (early ++ late)) := by
  intro k
  have hk := h k
  rw [← List.singleton_append] at hk
  simp only [List.filter_append] at hk ⊢
  by_cases ha : key a = k
  · subst ha
    rw [filter_eq_nil_of_free hfree, List.nil_append] at hk ⊢
    rwa [List.append_assoc]
  · have hnone : [a].filter (key · = k) = [] := by simp [ha]
    rw [hnone, List.nil_append] at hk
    rwa [hnone, List.append_nil]

end KeyedOrder
