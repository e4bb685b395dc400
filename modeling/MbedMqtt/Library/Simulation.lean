import MbedMqtt.Library.Steps

variable {S A C O : Type}

-- a run that may fault, and what each of its steps shows
def runTrace (step : S → C → Option (S × O)) : S → List C → Option (S × List O)
  | s, [] => some (s, [])
  | s, c :: cs =>
      match step s c with
      | none => none
      | some (s', o) => (runTrace step s' cs).map fun r => (r.1, o :: r.2)

def specTrace (spec : A → C → A × O) : A → List C → A × List O
  | a, [] => (a, [])
  | a, c :: cs => ((specTrace spec (spec a c).1 cs).1, (spec a c).2 :: (specTrace spec (spec a c).1 cs).2)

structure Simulates (P : A → C → Prop) (R : S → A → Prop) (step : S → C → Option (S × O))
    (spec : A → C → A × O) : Prop where
  step : ∀ {s a c}, P a c → R s a → ∃ s', step s c = some (s', (spec a c).2) ∧ R s' (spec a c).1

theorem Simulates.run {P : A → C → Prop} {R : S → A → Prop} {step : S → C → Option (S × O)}
    {spec : A → C → A × O} (h : Simulates P R step spec) {s : S} {a : A} {cs : List C}
    (hp : Steps (fun a c => (spec a c).1) P a cs) (hr : R s a) :
    ∃ s', runTrace step s cs = some (s', (specTrace spec a cs).2) ∧ R s' (specTrace spec a cs).1 := by
  induction cs generalizing s a with
  | nil => exact ⟨s, rfl, hr⟩
  | cons c cs ih =>
    obtain ⟨hfirst, hrest⟩ := hp
    obtain ⟨s₁, hstep, hr₁⟩ := h.step hfirst hr
    obtain ⟨s', htrace, hr'⟩ := ih hrest hr₁
    refine ⟨s', ?_, hr'⟩
    simp only [runTrace, hstep, htrace, Option.map_some, specTrace]

-- what is left of a run when the steps that an observer does not see are taken out
def purge {S C : Type} (step : S → C → S) (seen : S → C → Bool) : S → List C → List C
  | _, [] => []
  | s, c :: cs =>
      if seen s c then c :: purge step seen (step s c) cs else purge step seen (step s c) cs

section Purge

variable {step : S → C → S} {seen : S → C → Bool}

theorem purge_sublist (s : S) (cs : List C) : List.Sublist (purge step seen s cs) cs := by
  induction cs generalizing s with
  | nil => exact .slnil
  | cons c cs ih =>
    rw [purge]
    split
    · exact (ih _).cons_cons c
    · exact (ih _).cons c

theorem purge_filter {p q : C → Bool} {P : S → C → Prop} {s : S} {cs : List C}
    (hpq : ∀ {s c}, P s c → p c = true → seen s c = q c) (h : Steps step P s cs) :
    (purge step seen s cs).filter p = (cs.filter p).filter q := by
  induction cs generalizing s with
  | nil => rfl
  | cons c cs ih =>
    have hrest := ih h.2
    rw [purge]
    cases hp : p c with
    | false =>
      split
      · simpa [hp] using hrest
      · simpa [hp] using hrest
    | true =>
      have hseen := hpq h.1 hp
      split
      · rename_i hs
        rw [hseen] at hs
        simpa [hp, hs] using hrest
      · rename_i hs
        rw [hseen] at hs
        simpa [hp, hs] using hrest

-- the unwinding conditions: a step that is seen is matched, any other changes nothing
structure Unwinds (step : S → C → S) (P : S → C → Prop) (seen : S → C → Bool)
    (R : S → S → Prop) : Prop where
  noticed : ∀ {s t c}, P s c → R s t → seen s c = true → R (step s c) (step t c)
  unnoticed : ∀ {s t c}, P s c → R s t → seen s c = false → R (step s c) t

theorem Unwinds.run {P : S → C → Prop} {R : S → S → Prop} (h : Unwinds step P seen R) {s t : S}
    {cs : List C} (hsteps : Steps step P s cs) (hr : R s t) :
    R (cs.foldl step s) ((purge step seen s cs).foldl step t) := by
  induction cs generalizing s t with
  | nil => exact hr
  | cons c cs ih =>
    obtain ⟨hfirst, hrest⟩ := hsteps
    rw [purge]
    split
    · rename_i hseen
      exact ih hrest (h.noticed hfirst hr hseen)
    · rename_i hseen
      exact ih hrest (h.unnoticed hfirst hr (Bool.eq_false_iff.mpr hseen))

end Purge
