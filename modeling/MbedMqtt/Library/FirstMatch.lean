import Mathlib.Data.List.Basic

section Placing

variable {α κ : Type} {key : α → κ} {covers : κ → κ → Bool} {fresh : κ → α} {f : α → α} {k : κ}
  {as : List α} {a b : α}

-- changes the first entry whose key covers `k`, where none does a fresh one put at the end
def place (key : α → κ) (covers : κ → κ → Bool) (fresh : κ → α) (f : α → α) (k : κ) :
    List α → List α
  | [] => [f (fresh k)]
  | a :: as => if covers (key a) k then f a :: as else a :: place key covers fresh f k as

def Separate (key : α → κ) (covers : κ → κ → Bool) (as : List α) : Prop :=
  as.Pairwise fun a b => ¬covers (key a) (key b)

theorem place_findIdx? : place key covers fresh f k as =
    match as.findIdx? fun a => covers (key a) k with
    | some i => as.modify i f
    | none => as ++ [f (fresh k)] := by
  induction as with
  | nil => rfl
  | cons a as ih =>
    rw [place, List.findIdx?_cons, ih]
    cases covers (key a) k with
    | true => rfl
    | false =>
      cases as.findIdx? fun a => covers (key a) k with
      | none => rfl
      | some i => rfl

theorem mem_place_origin (hb : b ∈ place key covers fresh f k as) :
    b ∈ as ∨ (∃ a ∈ as, b = f a) ∨ b = f (fresh k) := by
  induction as with
  | nil => exact .inr (.inr (List.mem_singleton.mp hb))
  | cons a as ih =>
    rw [place] at hb
    split_ifs at hb
    · rcases List.mem_cons.mp hb with rfl | hb
      · exact .inr (.inl ⟨a, List.mem_cons_self, rfl⟩)
      · exact .inl (List.mem_cons_of_mem a hb)
    · rcases List.mem_cons.mp hb with rfl | hb
      · exact .inl List.mem_cons_self
      · rcases ih hb with hold | ⟨c, hc, rfl⟩ | hnew
        · exact .inl (List.mem_cons_of_mem a hold)
        · exact .inr (.inl ⟨c, List.mem_cons_of_mem a hc, rfl⟩)
        · exact .inr (.inr hnew)

theorem Separate.nodup (h : Separate key covers as) (hself : ∀ k, covers k k = true) :
    (as.map key).Nodup := by
  refine List.pairwise_map.mpr (h.imp ?_)
  intro a b hcovers heq
  exact hcovers (heq ▸ hself _)

variable (hf : ∀ a, key (f a) = key a) (hfresh : ∀ k, key (fresh k) = k)

include hf hfresh

theorem keys_place_subset {x : κ} (h : x ∈ (place key covers fresh f k as).map key) :
    x ∈ as.map key ∨ x = k := by
  induction as with
  | nil =>
    rw [place, List.map_singleton, List.mem_singleton, hf, hfresh] at h
    exact .inr h
  | cons a as ih =>
    rw [place] at h
    split_ifs at h
    · rw [List.map_cons, hf] at h
      exact .inl h
    · rw [List.map_cons, List.mem_cons] at h
      rcases h with rfl | h
      · exact .inl List.mem_cons_self
      · exact (ih h).imp_left (List.mem_cons_of_mem _)

omit hfresh in
theorem keys_subset_place {x : κ} (h : x ∈ as.map key) :
    x ∈ (place key covers fresh f k as).map key := by
  induction as with
  | nil => cases h
  | cons a as ih =>
    rw [place]
    split_ifs
    · rwa [List.map_cons, hf]
    · rw [List.map_cons, List.mem_cons] at h ⊢
      exact h.imp_right ih

theorem place_covers (hself : covers k k = true) :
    ∃ x ∈ (place key covers fresh f k as).map key, covers x k = true := by
  induction as with
  | nil =>
    refine ⟨k, ?_, hself⟩
    rw [place, List.map_singleton, hf, hfresh]
    exact List.mem_singleton_self k
  | cons a as ih =>
    rw [place]
    split_ifs with hcovers
    · refine ⟨key a, ?_, hcovers⟩
      rw [List.map_cons, hf]
      exact List.mem_cons_self
    · obtain ⟨x, hx, hcover⟩ := ih
      exact ⟨x, List.mem_cons_of_mem _ hx, hcover⟩

-- a key that another one covers is not placed
theorem place_shadowed {x : κ} (hnew : x ∉ as.map key) (hcovered : ∃ a ∈ as, covers (key a) x) :
    x ∉ (place key covers fresh f k as).map key := by
  intro hx
  rcases keys_place_subset hf hfresh hx with hold | rfl
  · exact hnew hold
  · induction as with
    | nil =>
      obtain ⟨a, ha, -⟩ := hcovered
      cases ha
    | cons a as ih =>
      rw [List.map_cons, List.mem_cons, not_or] at hnew
      rw [place] at hx
      split_ifs at hx with hcovers
      · rw [List.map_cons, hf, List.mem_cons] at hx
        exact hx.elim hnew.1 hnew.2
      · rw [List.map_cons, List.mem_cons] at hx
        obtain ⟨b, hb, hcover⟩ := hcovered
        rcases List.mem_cons.mp hb with rfl | hb
        · exact hcovers hcover
        · exact hx.elim hnew.1 (ih hnew.2 ⟨b, hb, hcover⟩)

theorem separate_place (h : Separate key covers as) : Separate key covers (place key covers fresh f k as) := by
  induction as with
  | nil => exact List.pairwise_singleton _ _
  | cons a as ih =>
    obtain ⟨hfirst, hrest⟩ := List.pairwise_cons.mp h
    rw [place]
    split_ifs with hcovers
    · refine List.pairwise_cons.mpr ⟨?_, hrest⟩
      intro b hb
      rw [hf]
      exact hfirst b hb
    · refine List.pairwise_cons.mpr ⟨?_, ih hrest⟩
      intro b hb
      rcases keys_place_subset hf hfresh (List.mem_map_of_mem hb) with hold | hnew
      · obtain ⟨c, hc, hkey⟩ := List.mem_map.mp hold
        rw [← hkey]
        exact hfirst c hc
      · rw [hnew]
        exact hcovers

omit hf hfresh in
theorem mem_place (hself : ∀ k, covers k k = true) (h : Separate key covers as)
    (hreached : k ∈ as.map key ∨ ∀ a ∈ as, ¬covers (key a) k)
    (hb : b ∈ place key covers fresh f k as) :
    (b ∈ as ∧ key b ≠ k) ∨ (∃ a ∈ as, key a = k ∧ b = f a) ∨
      (∀ a ∈ as, key a ≠ k) ∧ b = f (fresh k) := by
  induction as with
  | nil =>
    refine .inr (.inr ⟨nofun, List.mem_singleton.mp hb⟩)
  | cons a as ih =>
    obtain ⟨hfirst, hrest⟩ := List.pairwise_cons.mp h
    rw [place] at hb
    split_ifs at hb with hcovers
    · have hkey : key a = k := by
        rcases hreached with hmem | hnone
        · rw [List.map_cons, List.mem_cons] at hmem
          rcases hmem with rfl | hmem
          · rfl
          · obtain ⟨c, hc, rfl⟩ := List.mem_map.mp hmem
            exact absurd hcovers (hfirst c hc)
        · exact absurd hcovers (hnone a List.mem_cons_self)
      rcases List.mem_cons.mp hb with rfl | hb
      · exact .inr (.inl ⟨a, List.mem_cons_self, hkey, rfl⟩)
      · refine .inl ⟨List.mem_cons_of_mem a hb, ?_⟩
        rintro heq
        exact hfirst b hb (heq ▸ hkey ▸ hself k)
    · have hkey : key a ≠ k := by
        rintro rfl
        exact hcovers (hself _)
      have hreached : k ∈ as.map key ∨ ∀ a ∈ as, ¬covers (key a) k := by
        rcases hreached with hmem | hnone
        · rw [List.map_cons, List.mem_cons] at hmem
          exact .inl (hmem.resolve_left fun heq => hkey heq.symm)
        · exact .inr fun b hb => hnone b (List.mem_cons_of_mem a hb)
      rcases List.mem_cons.mp hb with rfl | hb
      · exact .inl ⟨List.mem_cons_self, hkey⟩
      · rcases ih hrest hreached hb with ⟨hold, hne⟩ | ⟨c, hc, hfound⟩ | ⟨hnone, hnew⟩
        · exact .inl ⟨List.mem_cons_of_mem a hold, hne⟩
        · exact .inr (.inl ⟨c, List.mem_cons_of_mem a hc, hfound⟩)
        · refine .inr (.inr ⟨?_, hnew⟩)
          intro c hc
          rcases List.mem_cons.mp hc with rfl | hc
          · exact hkey
          · exact hnone c hc

end Placing
