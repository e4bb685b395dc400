import Mathlib.Data.List.Induction

def Steps {S C : Type} (step : S → C → S) (P : S → C → Prop) : S → List C → Prop
  | _, [] => True
  | s, c :: cs => P s c ∧ Steps step P (step s c) cs

namespace Steps

def tally {S C : Type} (step : S → C → S) (p : S → C → Bool) : S → List C → Nat
  | _, [] => 0
  | s, c :: cs => (p s c).toNat + tally step p (step s c) cs

variable {S C : Type} {step : S → C → S} {P Q : S → C → Prop} {p : S → C → Bool}

instance decidable [∀ s c, Decidable (P s c)] : ∀ s cs, Decidable (Steps step P s cs)
  | _, [] => .isTrue trivial
  | s, c :: cs =>
      have := decidable (step s c) cs
      inferInstanceAs (Decidable (P s c ∧ Steps step P (step s c) cs))

theorem append {s : S} {cs ds : List C} :
    Steps step P s (cs ++ ds) ↔ Steps step P s cs ∧ Steps step P (cs.foldl step s) ds := by
  induction cs generalizing s with
  | nil => simp [Steps]
  | cons c cs ih => simp [Steps, ih, and_assoc]

theorem tally_append {s : S} {cs ds : List C} :
    tally step p s (cs ++ ds) = tally step p s cs + tally step p (cs.foldl step s) ds := by
  induction cs generalizing s with
  | nil => simp [tally]
  | cons c cs ih => simp [tally, ih, Nat.add_assoc]

theorem iff_splits {s : S} {cs : List C} : Steps step P s cs ↔
    ∀ pre c post, cs = pre ++ c :: post → P (pre.foldl step s) c := by
  constructor
  · rintro h pre c post rfl
    exact (append.mp h).2.1
  · intro h
    induction cs generalizing s with
    | nil => trivial
    | cons c cs ih =>
      refine ⟨h [] c cs rfl, ih ?_⟩
      rintro pre d post rfl
      exact h (c :: pre) d post rfl

theorem of_forall {Q : C → Prop} {s : S} {cs : List C} (h : ∀ c ∈ cs, Q c) :
    Steps step (fun _ c => Q c) s cs := by
  induction cs generalizing s with
  | nil => trivial
  | cons c cs ih =>
    exact ⟨h c List.mem_cons_self, ih fun d hd => h d (List.mem_cons_of_mem c hd)⟩

theorem invariant {I : S → Prop} (hstep : ∀ {s c}, P s c → I s → I (step s c)) {s : S}
    {cs : List C} (h : Steps step P s cs) (hi : I s) : I (cs.foldl step s) := by
  induction cs generalizing s with
  | nil => exact hi
  | cons c cs ih => exact ih h.2 (hstep h.1 hi)

theorem congr_under {J : S → Prop} (hkeep : ∀ {s c}, J s → J (step s c))
    (hPQ : ∀ {s c}, J s → (P s c ↔ Q s c)) {s : S} (hj : J s) {cs : List C} :
    Steps step P s cs ↔ Steps step Q s cs := by
  induction cs generalizing s with
  | nil => exact Iff.rfl
  | cons c cs ih => exact and_congr (hPQ hj) (ih (hkeep hj))

theorem iff_prefixes_bounded {B : S → C → Prop} {J I : S → Prop}
    (hkeep : ∀ {s c}, J s → B s c → P s c → J (step s c))
    (hstep : ∀ {s c}, J s → B s c → (I (step s c) ↔ P s c)) {s : S} (hj : J s) (hi : I s)
    {cs : List C} (hb : Steps step B s cs) :
    (∀ n, I ((cs.take n).foldl step s)) ↔ Steps step P s cs := by
  induction cs generalizing s with
  | nil => simpa [Steps] using hi
  | cons c cs ih =>
    obtain ⟨hfirst, hrest⟩ := hb
    constructor
    · intro hall
      have hi₁ : I (step s c) := hall 1
      have hp : P s c := (hstep hj hfirst).mp hi₁
      exact ⟨hp, (ih (hkeep hj hfirst hp) hi₁ hrest).mp fun n => hall (n + 1)⟩
    · intro h n
      cases n with
      | zero => exact hi
      | succ n =>
        exact (ih (hkeep hj hfirst h.1) ((hstep hj hfirst).mpr h.1) hrest).mpr h.2 n

theorem iff_prefixes_under {J I : S → Prop} (hkeep : ∀ {s c}, J s → J (step s c))
    (hstep : ∀ {s c}, J s → I s → (I (step s c) ↔ P s c)) {s : S} (hj : J s) (hi : I s)
    {cs : List C} : (∀ n, I ((cs.take n).foldl step s)) ↔ Steps step P s cs := by
  refine iff_prefixes_bounded (J := fun s => J s ∧ I s) ?_ ?_ ⟨hj, hi⟩ hi
    (of_forall (Q := fun _ => True) fun _ _ => trivial)
  · rintro s c ⟨hj, hi⟩ - hp
    exact ⟨hkeep hj, (hstep hj hi).mpr hp⟩
  · rintro s c ⟨hj, hi⟩ -
    exact hstep hj hi

theorem iff_prefixes {I : S → Prop} (hstep : ∀ {s c}, I s → (I (step s c) ↔ P s c)) {s : S}
    (hi : I s) {cs : List C} :
    (∀ n, I ((cs.take n).foldl step s)) ↔ Steps step P s cs :=
  iff_prefixes_under (J := fun _ => True) (fun _ => trivial) (fun _ hi => hstep hi) trivial hi

theorem history {I : List C → S → Prop} {s : S}
    (hstep : ∀ {cs c}, P (cs.foldl step s) c → I cs (cs.foldl step s) →
      I (cs ++ [c]) (step (cs.foldl step s) c))
    {cs : List C} (h : Steps step P s cs) (hi : I [] s) : I cs (cs.foldl step s) := by
  induction cs using List.reverseRecOn with
  | nil => exact hi
  | append_singleton cs c ih =>
    rw [append] at h
    rw [List.foldl_append]
    exact hstep h.2.1 (ih h.1)

section Simulation

variable {T : Type} {next : T → C → T} {R : S → T → Prop}

theorem simulate {Q : T → C → Prop} (hstep : ∀ {s t c}, R s t → R (step s c) (next t c))
    (hPQ : ∀ {s t c}, R s t → (P s c ↔ Q t c)) {s : S} {t : T} (h : R s t) (cs : List C) :
    Steps step P s cs ↔ Steps next Q t cs := by
  induction cs generalizing s t with
  | nil => exact Iff.rfl
  | cons c cs ih => exact and_congr (hPQ h) (ih (hstep h))

theorem tally_simulate {q : T → C → Bool} (hstep : ∀ {s t c}, R s t → R (step s c) (next t c))
    (hpq : ∀ {s t c}, R s t → p s c = q t c) {s : S} {t : T} (h : R s t) (cs : List C) :
    tally step p s cs = tally next q t cs := by
  induction cs generalizing s t with
  | nil => rfl
  | cons c cs ih => rw [tally, tally, hpq h, ih (hstep h)]

end Simulation

end Steps

-- a flag that some steps set and every other step keeps or clears, in the states that `J` allows
structure Latch {S C : Type} (step : S → C → S) (J F : S → Prop) (sets keeps : S → C → Prop) :
    Prop where
  stays : ∀ s c, J s → J (step s c)
  intro : ∀ s c, J s → (F (step s c) ↔ F s ∧ keeps s c ∨ sets s c)

namespace Latch

variable {S C : Type} {step : S → C → S} {J F : S → Prop} {sets keeps : S → C → Prop}

theorem iff_foldl (h : Latch step J F sets keeps) {s : S} (hj : J s) (cs : List C) :
    F (cs.foldl step s) ↔ F s ∧ Steps step keeps s cs ∨
      ∃ pre c post, cs = pre ++ c :: post ∧ sets (pre.foldl step s) c ∧
        Steps step keeps (step (pre.foldl step s) c) post := by
  induction cs generalizing s with
  | nil => simp [Steps]
  | cons c cs ih =>
    rw [List.foldl_cons, ih (h.stays s c hj), h.intro s c hj]
    constructor
    · rintro (⟨⟨hF, hk⟩ | hs, hsteps⟩ | ⟨pre, d, post, rfl, hd, hpost⟩)
      · exact .inl ⟨hF, hk, hsteps⟩
      · exact .inr ⟨[], c, cs, rfl, hs, hsteps⟩
      · exact .inr ⟨c :: pre, d, post, rfl, hd, hpost⟩
    · rintro (⟨hF, hk, hsteps⟩ | ⟨pre, d, post, heq, hd, hpost⟩)
      · exact .inl ⟨.inl ⟨hF, hk⟩, hsteps⟩
      · cases pre with
        | nil =>
          obtain ⟨rfl, rfl⟩ := List.cons.inj heq
          exact .inl ⟨.inr hd, hpost⟩
        | cons e pre =>
          obtain ⟨rfl, rfl⟩ := List.cons.inj heq
          exact .inr ⟨pre, d, post, rfl, hd, hpost⟩

theorem iff_set (h : Latch step J F sets keeps) {s : S} (hj : J s) (hF : ¬F s) (cs : List C) :
    F (cs.foldl step s) ↔ ∃ pre c post, cs = pre ++ c :: post ∧ sets (pre.foldl step s) c ∧
      Steps step keeps (step (pre.foldl step s) c) post := by
  rw [h.iff_foldl hj]
  simp [hF]

end Latch
