import Mathlib.Data.List.Basic
import Mathlib.Logic.Function.Basic

structure TotalCompare {K : Type} (cmp : K → K → Int) : Prop where
  eq_zero : ∀ {a b}, cmp a b = 0 ↔ a = b
  swap : ∀ {a b}, cmp a b < 0 ↔ 0 < cmp b a
  trans : ∀ {a b c}, cmp a b < 0 → cmp b c < 0 → cmp a c < 0

namespace OrderedAssoc

variable {K V : Type} (cmp : K → K → Int)

def Sorted (xs : List (K × V)) : Prop := xs.Pairwise fun a b => cmp a.1 b.1 < 0

def insert (e : K × V) : List (K × V) → List (K × V)
  | [] => [e]
  | x :: xs =>
      if cmp e.1 x.1 < 0 then e :: x :: xs
      else if cmp e.1 x.1 = 0 then e :: xs
      else x :: insert e xs

def erase (k : K) (xs : List (K × V)) : List (K × V) := xs.filter fun x => cmp k x.1 ≠ 0

def lookup (k : K) (xs : List (K × V)) : Option V :=
  (xs.find? fun x => cmp k x.1 = 0).map Prod.snd

variable {cmp} {xs ys : List (K × V)} {e x : K × V} {k : K}

theorem sorted_append : Sorted cmp (xs ++ x :: ys) ↔
    Sorted cmp xs ∧ Sorted cmp ys ∧ (∀ a ∈ xs, cmp a.1 x.1 < 0) ∧ (∀ b ∈ ys, cmp x.1 b.1 < 0) ∧
      ∀ a ∈ xs, ∀ b ∈ ys, cmp a.1 b.1 < 0 := by
  rw [Sorted, List.pairwise_append, List.pairwise_cons]
  constructor
  · rintro ⟨hxs, ⟨hx, hys⟩, hcross⟩
    exact ⟨hxs, hys, fun a ha => hcross a ha x List.mem_cons_self, hx,
      fun a ha b hb => hcross a ha b (List.mem_cons_of_mem x hb)⟩
  · rintro ⟨hxs, hys, hlow, hhigh, hcross⟩
    refine ⟨hxs, ⟨hhigh, hys⟩, ?_⟩
    intro a ha b hb
    rcases List.mem_cons.mp hb with rfl | hb
    · exact hlow a ha
    · exact hcross a ha b hb

theorem insert_before (h : cmp e.1 x.1 < 0) :
    insert cmp e (xs ++ x :: ys) = insert cmp e xs ++ x :: ys := by
  induction xs with
  | nil => simp [insert, h]
  | cons a xs ih =>
    simp only [List.cons_append, insert, ih]
    split
    · rfl
    · split
      · rfl
      · rfl

theorem insert_after (h : ∀ a ∈ xs, 0 < cmp e.1 a.1) :
    insert cmp e (xs ++ ys) = xs ++ insert cmp e ys := by
  induction xs with
  | nil => rfl
  | cons a xs ih =>
    have ha := h a List.mem_cons_self
    simp only [List.cons_append, insert]
    rw [if_neg (by omega), if_neg (by omega), ih fun b hb => h b (List.mem_cons_of_mem a hb)]

theorem insert_at (h : ∀ a ∈ xs, 0 < cmp e.1 a.1) (hx : cmp e.1 x.1 = 0) :
    insert cmp e (xs ++ x :: ys) = xs ++ e :: ys := by
  rw [insert_after h, insert, if_neg (by omega), if_pos hx]

theorem insert_beyond (h : ∀ a ∈ xs, 0 < cmp e.1 a.1) (hx : 0 < cmp e.1 x.1) :
    insert cmp e (xs ++ x :: ys) = xs ++ x :: insert cmp e ys := by
  rw [insert_after h, insert, if_neg (by omega), if_neg (by omega)]

theorem insert_ne_nil (e : K × V) (xs : List (K × V)) : insert cmp e xs ≠ [] := by
  cases xs with
  | nil => simp [insert]
  | cons x xs =>
    simp only [insert]
    split
    · simp
    · split <;> simp

theorem erase_none (h : ∀ a ∈ xs, cmp k a.1 ≠ 0) : erase cmp k xs = xs := by
  rw [erase, List.filter_eq_self]
  intro a ha
  simpa using h a ha

theorem erase_append (k : K) (xs ys : List (K × V)) :
    erase cmp k (xs ++ ys) = erase cmp k xs ++ erase cmp k ys :=
  List.filter_append xs ys

theorem erase_cons_of_ne (h : cmp k x.1 ≠ 0) (xs : List (K × V)) :
    erase cmp k (x :: xs) = x :: erase cmp k xs :=
  List.filter_cons_of_pos (by simpa using h)

theorem erase_cons_of_eq (h : cmp k x.1 = 0) (xs : List (K × V)) :
    erase cmp k (x :: xs) = erase cmp k xs :=
  List.filter_cons_of_neg (by simpa using h)

theorem lookup_append_left (h : ∀ b ∈ ys, cmp k b.1 ≠ 0) :
    lookup cmp k (xs ++ ys) = lookup cmp k xs := by
  have hnone : ys.find? (fun b => cmp k b.1 = 0) = none := by
    rw [List.find?_eq_none]
    intro b hb
    simpa using h b hb
  rw [lookup, List.find?_append, hnone, Option.or_none, lookup]

theorem lookup_append_right (h : ∀ a ∈ xs, cmp k a.1 ≠ 0) :
    lookup cmp k (xs ++ ys) = lookup cmp k ys := by
  have hnone : xs.find? (fun a => cmp k a.1 = 0) = none := by
    rw [List.find?_eq_none]
    intro a ha
    simpa using h a ha
  rw [lookup, List.find?_append, hnone, Option.none_or, lookup]

theorem lookup_cons_of_eq (h : cmp k x.1 = 0) : lookup cmp k (x :: xs) = some x.2 := by
  simp [lookup, h]

theorem lookup_cons_of_ne (h : cmp k x.1 ≠ 0) : lookup cmp k (x :: xs) = lookup cmp k xs := by
  simp [lookup, h]

theorem mem_insert {a : K × V} (h : a ∈ insert cmp e xs) : a = e ∨ a ∈ xs := by
  induction xs with
  | nil => simpa [insert] using h
  | cons x xs ih =>
    simp only [insert] at h
    split at h
    · simpa using h
    · split at h
      · rcases List.mem_cons.mp h with h | h
        · exact .inl h
        · exact .inr (List.mem_cons_of_mem x h)
      · rcases List.mem_cons.mp h with rfl | h
        · exact .inr List.mem_cons_self
        · exact (ih h).imp_right (List.mem_cons_of_mem x)

section Total

variable (hc : TotalCompare cmp)

include hc

theorem cmp_self (k : K) : cmp k k = 0 := hc.eq_zero.mpr rfl

theorem below_ne (h : ∀ b ∈ ys, cmp x.1 b.1 < 0) (hk : cmp k x.1 < 0) : ∀ b ∈ ys, cmp k b.1 ≠ 0 := by
  intro b hb
  have hlt := hc.trans hk (h b hb)
  omega

theorem above_pos (h : ∀ a ∈ xs, cmp a.1 x.1 < 0) (hk : 0 ≤ cmp k x.1) :
    ∀ a ∈ xs, 0 < cmp k a.1 := by
  intro a ha
  rcases Int.lt_or_eq_of_le hk with hk | hk
  · exact hc.swap.mp (hc.trans (h a ha) (hc.swap.mpr hk))
  · have hkx : k = x.1 := hc.eq_zero.mp hk.symm
    rw [hkx]
    exact hc.swap.mp (h a ha)

theorem erase_before (h : ∀ b ∈ ys, cmp x.1 b.1 < 0) (hk : cmp k x.1 < 0) :
    erase cmp k (xs ++ x :: ys) = erase cmp k xs ++ x :: ys := by
  rw [erase_append, erase_cons_of_ne (by omega), erase_none (below_ne hc h hk)]

theorem erase_at (hlow : ∀ a ∈ xs, cmp a.1 x.1 < 0) (hhigh : ∀ b ∈ ys, cmp x.1 b.1 < 0)
    (hk : cmp k x.1 = 0) : erase cmp k (xs ++ x :: ys) = xs ++ ys := by
  have hbelow : ∀ a ∈ xs, cmp k a.1 ≠ 0 := by
    intro a ha
    have hpos := above_pos hc hlow (by omega : 0 ≤ cmp k x.1) a ha
    omega
  have habove : ∀ b ∈ ys, cmp k b.1 ≠ 0 := by
    intro b hb
    have hlt := hhigh b hb
    rw [← hc.eq_zero.mp hk] at hlt
    omega
  rw [erase_append, erase_cons_of_eq hk, erase_none hbelow, erase_none habove]

theorem erase_beyond (h : ∀ a ∈ xs, cmp a.1 x.1 < 0) (hk : 0 < cmp k x.1) :
    erase cmp k (xs ++ x :: ys) = xs ++ x :: erase cmp k ys := by
  have hbelow : ∀ a ∈ xs, cmp k a.1 ≠ 0 := by
    intro a ha
    have hpos := above_pos hc h (by omega : 0 ≤ cmp k x.1) a ha
    omega
  rw [erase_append, erase_cons_of_ne (by omega), erase_none hbelow]

theorem lookup_before (h : ∀ b ∈ ys, cmp x.1 b.1 < 0) (hk : cmp k x.1 < 0) :
    lookup cmp k (xs ++ x :: ys) = lookup cmp k xs := by
  apply lookup_append_left
  intro b hb
  rcases List.mem_cons.mp hb with rfl | hb
  · omega
  · exact below_ne hc h hk b hb

theorem lookup_at (h : ∀ a ∈ xs, cmp a.1 x.1 < 0) (hk : cmp k x.1 = 0) :
    lookup cmp k (xs ++ x :: ys) = some x.2 := by
  rw [lookup_append_right, lookup_cons_of_eq hk]
  intro a ha
  have hpos := above_pos hc h (by omega : 0 ≤ cmp k x.1) a ha
  omega

theorem lookup_beyond (h : ∀ a ∈ xs, cmp a.1 x.1 < 0) (hk : 0 < cmp k x.1) :
    lookup cmp k (xs ++ x :: ys) = lookup cmp k ys := by
  rw [lookup_append_right, lookup_cons_of_ne (by omega)]
  intro a ha
  have hpos := above_pos hc h (by omega : 0 ≤ cmp k x.1) a ha
  omega

theorem insert_sorted (hs : Sorted cmp xs) : Sorted cmp (insert cmp e xs) := by
  induction xs with
  | nil => simp [insert, Sorted]
  | cons x xs ih =>
    obtain ⟨hx, hxs⟩ := List.pairwise_cons.mp hs
    simp only [insert]
    split
    · rename_i hlt
      refine List.pairwise_cons.mpr ⟨?_, hs⟩
      intro a ha
      rcases List.mem_cons.mp ha with rfl | ha
      · exact hlt
      · exact hc.trans hlt (hx a ha)
    · split
      · rename_i heq
        rw [hc.eq_zero] at heq
        refine List.pairwise_cons.mpr ⟨?_, hxs⟩
        intro a ha
        rw [heq]
        exact hx a ha
      · rename_i hge hne
        refine List.pairwise_cons.mpr ⟨?_, ih hxs⟩
        intro a ha
        rcases mem_insert ha with rfl | ha
        · exact hc.swap.mpr (by omega)
        · exact hx a ha

omit hc in
theorem erase_sorted (hs : Sorted cmp xs) (k : K) : Sorted cmp (erase cmp k xs) :=
  List.Pairwise.filter _ hs

theorem lookup_insert [DecidableEq K] (e : K × V) (xs : List (K × V)) :
    (fun k => lookup cmp k (insert cmp e xs)) =
      Function.update (fun k => lookup cmp k xs) e.1 (some e.2) := by
  funext k
  by_cases hk : k = e.1
  · subst hk
    rw [Function.update_self]
    induction xs with
    | nil => simp [insert, lookup, cmp_self hc]
    | cons x xs ih =>
      simp only [insert]
      split
      · exact lookup_cons_of_eq (cmp_self hc _)
      · split
        · exact lookup_cons_of_eq (cmp_self hc _)
        · rename_i hne
          rw [lookup_cons_of_ne hne, ih]
  · rw [Function.update_of_ne hk]
    have hke : cmp k e.1 ≠ 0 := mt hc.eq_zero.mp hk
    induction xs with
    | nil => rw [insert, lookup_cons_of_ne hke]
    | cons x xs ih =>
      simp only [insert]
      split
      · rw [lookup_cons_of_ne hke]
      · split
        · rename_i heq
          rw [lookup_cons_of_ne hke, lookup_cons_of_ne]
          rwa [← hc.eq_zero.mp heq]
        · by_cases hkx : cmp k x.1 = 0
          · rw [lookup_cons_of_eq hkx, lookup_cons_of_eq hkx]
          · rw [lookup_cons_of_ne hkx, lookup_cons_of_ne hkx, ih]

theorem lookup_erase [DecidableEq K] (k₀ : K) (xs : List (K × V)) :
    (fun k => lookup cmp k (erase cmp k₀ xs)) =
      Function.update (fun k => lookup cmp k xs) k₀ none := by
  funext k
  by_cases hk : k = k₀
  · subst hk
    rw [Function.update_self, lookup, Option.map_eq_none_iff, List.find?_eq_none]
    intro a ha
    simpa using (List.mem_filter.mp ha).2
  · rw [Function.update_of_ne hk]
    induction xs with
    | nil => rfl
    | cons x xs ih =>
      by_cases hx : cmp k₀ x.1 = 0
      · rw [erase_cons_of_eq hx, ih, lookup_cons_of_ne]
        rw [← hc.eq_zero.mp hx]
        exact mt hc.eq_zero.mp hk
      · rw [erase_cons_of_ne hx]
        by_cases hkx : cmp k x.1 = 0
        · rw [lookup_cons_of_eq hkx, lookup_cons_of_eq hkx]
        · rw [lookup_cons_of_ne hkx, lookup_cons_of_ne hkx, ih]

end Total

end OrderedAssoc
