import Mathlib.Data.List.Perm.Basic
import Mathlib.Data.List.Nodup

namespace SlotTable

variable {α : Type} [DecidableEq α]

def fill (free x : α) : List α → Bool × List α
  | [] => (false, [])
  | y :: ys =>
      if y = free then (true, x :: ys)
      else ((fill free x ys).1, y :: (fill free x ys).2)

def vacate (free x : α) : List α → List α
  | [] => []
  | y :: ys => if y = x then free :: ys else y :: vacate free x ys

def entries (free : α) (table : List α) : List α := table.filter (· ≠ free)

theorem mem_entries {free x : α} {table : List α} (hx : x ≠ free) :
    x ∈ entries free table ↔ x ∈ table := by
  simp [entries, hx]

theorem fill_length (free x : α) (table : List α) :
    (fill free x table).2.length = table.length := by
  induction table with
  | nil => rfl
  | cons y ys ih =>
    simp only [fill]
    split
    · rfl
    · simpa using ih

theorem vacate_length (free x : α) (table : List α) :
    (vacate free x table).length = table.length := by
  induction table with
  | nil => rfl
  | cons y ys ih =>
    simp only [vacate]
    split
    · rfl
    · simpa using ih

theorem fill_eq_false {free x : α} {table : List α} :
    (fill free x table).1 = false ↔ free ∉ table := by
  induction table with
  | nil => simp [fill]
  | cons y ys ih =>
    by_cases hy : y = free
    · simp [fill, hy]
    · have hne : free ≠ y := Ne.symm hy
      simp [fill, hy, ih, hne]

theorem fill_entries {free x : α} {table : List α} (hx : x ≠ free)
    (h : (fill free x table).1 = true) :
    List.Perm (entries free (fill free x table).2) (x :: entries free table) := by
  induction table with
  | nil => simp [fill] at h
  | cons y ys ih =>
    by_cases hy : y = free
    · simp [fill, hy, entries, hx]
    · simp only [fill, hy, if_false] at h ⊢
      have hperm := ih h
      simp only [entries, hy, List.filter_cons, ne_eq, not_false_eq_true, decide_true,
        if_true] at hperm ⊢
      exact (hperm.cons y).trans (List.Perm.swap x y _)

theorem vacate_entries {free x : α} (table : List α) (hx : x ≠ free) :
    entries free (vacate free x table) = (entries free table).erase x := by
  induction table with
  | nil => rfl
  | cons y ys ih =>
    by_cases hy : y = x
    · subst hy
      simp [vacate, entries, hx]
    · by_cases hf : y = free
      · subst hf
        simp only [vacate, hy, if_false, entries] at ih ⊢
        simpa using ih
      · simp only [vacate, hy, if_false, entries] at ih ⊢
        rw [List.filter_cons_of_pos (by simpa using hf), List.filter_cons_of_pos (by simpa using hf),
          List.erase_cons_tail (by simpa using hy), ih]

theorem vacate_free (free : α) (table : List α) : vacate free free table = table := by
  induction table with
  | nil => rfl
  | cons y ys ih =>
    by_cases hy : y = free
    · simp [vacate, hy]
    · simp [vacate, hy, ih]

theorem mem_fill {free x y : α} {table : List α} (hx : x ≠ free) (hy : y ≠ free)
    (h : free ∈ table) : y ∈ (fill free x table).2 ↔ y = x ∨ y ∈ table := by
  have hstored : (fill free x table).1 = true := by
    rw [← Bool.not_eq_false, fill_eq_false]
    exact not_not_intro h
  rw [← mem_entries hy, (fill_entries hx hstored).mem_iff, List.mem_cons, mem_entries hy]

theorem fill_nodup {free x : α} {table : List α} (hx : x ≠ free) (h : free ∈ table)
    (hnew : x ∉ table) (hnodup : (entries free table).Nodup) :
    (entries free (fill free x table).2).Nodup := by
  have hstored : (fill free x table).1 = true := by
    rw [← Bool.not_eq_false, fill_eq_false]
    exact not_not_intro h
  rw [(fill_entries hx hstored).nodup_iff, List.nodup_cons, mem_entries hx]
  exact ⟨hnew, hnodup⟩

theorem mem_vacate_of_ne {free x y : α} {table : List α} (hy : y ≠ free) (hne : y ≠ x) :
    y ∈ vacate free x table ↔ y ∈ table := by
  by_cases hx : x = free
  · rw [hx, vacate_free]
  · rw [← mem_entries hy, vacate_entries table hx, List.mem_erase_of_ne hne, mem_entries hy]

theorem vacate_nodup {free : α} (x : α) {table : List α} (hnodup : (entries free table).Nodup) :
    (entries free (vacate free x table)).Nodup := by
  by_cases hx : x = free
  · rwa [hx, vacate_free]
  · rw [vacate_entries table hx]
    exact hnodup.erase x

theorem not_mem_vacate {free x : α} {table : List α} (hx : x ≠ free)
    (hnodup : (entries free table).Nodup) : x ∉ vacate free x table := by
  rw [← mem_entries hx, vacate_entries table hx]
  exact hnodup.not_mem_erase

theorem mem_of_mem_vacate {free x y : α} {table : List α} (h : y ∈ vacate free x table) :
    y = free ∨ y ∈ table := by
  by_cases hy : y = free
  · exact .inl hy
  · refine .inr ?_
    by_cases hx : x = free
    · rwa [hx, vacate_free] at h
    · rw [← mem_entries hy, vacate_entries table hx] at h
      exact (mem_entries hy).mp (List.mem_of_mem_erase h)

theorem mem_of_entries_length_lt {free : α} {table : List α}
    (h : (entries free table).length < table.length) : free ∈ table := by
  by_contra hfree
  have hall : entries free table = table := by
    rw [entries, List.filter_eq_self]
    intro y hy
    have hne : y ≠ free := fun heq => hfree (heq ▸ hy)
    simpa using hne
  rw [hall] at h
  omega

end SlotTable
