import Mathlib.Data.List.Forall2
import Mathlib.Data.List.Basic

-- the second list comes of the first in order: some of it is dropped, the rest turned by `T`
def Sifted {α β : Type} (T : α → β → Prop) (ins : List α) (outs : List β) : Prop :=
  ∃ kept, List.Sublist kept ins ∧ List.Forall₂ T kept outs

namespace Sifted

variable {α β : Type} {T : α → β → Prop} {ins ins' : List α} {outs outs' : List β}

theorem nil (ins : List α) : Sifted T ins [] := ⟨[], List.nil_sublist _, .nil⟩

theorem single {a : α} {b : β} (h : T a b) : Sifted T [a] [b] :=
  ⟨[a], .refl _, .cons h .nil⟩

theorem append (h : Sifted T ins outs) (k : Sifted T ins' outs') :
    Sifted T (ins ++ ins') (outs ++ outs') := by
  obtain ⟨kept, hsub, hkept⟩ := h
  obtain ⟨kept', hsub', hkept'⟩ := k
  exact ⟨kept ++ kept', hsub.append hsub', List.rel_append hkept hkept'⟩

theorem more (h : Sifted T ins outs) (ins' : List α) : Sifted T (ins ++ ins') outs := by
  simpa using h.append (nil ins')

theorem fewer (h : Sifted T ins outs) (hsub : List.Sublist outs' outs) : Sifted T ins outs' := by
  obtain ⟨kept, hins, hkept⟩ := h
  have hshrink : ∃ kept', List.Sublist kept' kept ∧ List.Forall₂ T kept' outs' := by
    clear hins
    induction hsub generalizing kept with
    | slnil => exact ⟨kept, .refl _, hkept⟩
    | cons b _ ih =>
      cases hkept with
      | @cons a _ as _ _ hrest =>
        obtain ⟨kept', hsub', hkept'⟩ := ih _ hrest
        exact ⟨kept', hsub'.cons a, hkept'⟩
    | cons_cons b _ ih =>
      cases hkept with
      | @cons a _ as _ hab hrest =>
        obtain ⟨kept', hsub', hkept'⟩ := ih _ hrest
        exact ⟨a :: kept', hsub'.cons_cons a, .cons hab hkept'⟩
  obtain ⟨kept', hsub', hkept'⟩ := hshrink
  exact ⟨kept', hsub'.trans hins, hkept'⟩

theorem of_sublist (h : Sifted T ins outs) (hsub : List.Sublist ins ins') : Sifted T ins' outs := by
  obtain ⟨kept, hins, hkept⟩ := h
  exact ⟨kept, hins.trans hsub, hkept⟩

end Sifted
