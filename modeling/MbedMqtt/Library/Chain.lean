import Mathlib.Data.List.Basic

inductive Chain {S E : Type} (R : S → List E → S → Prop) : S → List E → S → Prop
  | nil (s : S) : Chain R s [] s
  | snoc {s t u : S} {es fs : List E} : Chain R s es t → R t fs u → Chain R s (es ++ fs) u

namespace Chain

variable {S E : Type} {R Q : S → List E → S → Prop} {s t u : S} {es fs : List E}

theorem single (h : R s es t) : Chain R s es t := by
  simpa using Chain.snoc (Chain.nil s) h

theorem trans (h : Chain R s es t) (k : Chain R t fs u) : Chain R s (es ++ fs) u := by
  induction k with
  | nil => simpa using h
  | snoc _ hr ih =>
    rw [← List.append_assoc]
    exact .snoc ih hr

theorem mono (hRQ : ∀ {s es t}, R s es t → Q s es t) (h : Chain R s es t) : Chain Q s es t := by
  induction h with
  | nil => exact .nil _
  | snoc _ hr ih => exact .snoc ih (hRQ hr)

theorem preserves {I : S → Prop} (hstep : ∀ {s es t}, I s → R s es t → I t)
    (h : Chain R s es t) (hi : I s) : I t := by
  induction h with
  | nil => exact hi
  | snoc _ hr ih => exact hstep ih hr

theorem forall_events {P : E → Prop} (hstep : ∀ {s es t}, R s es t → ∀ e ∈ es, P e)
    (h : Chain R s es t) : ∀ e ∈ es, P e := by
  induction h with
  | nil => simp
  | snoc _ hr ih =>
    intro e he
    rcases List.mem_append.mp he with he | he
    · exact ih e he
    · exact hstep hr e he

end Chain
