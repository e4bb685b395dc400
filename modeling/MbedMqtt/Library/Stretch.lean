import Mathlib.Data.List.Infix

namespace Stretch

variable {E : Type}

def Free (R : List E → Prop) (es : List E) : Prop := ∀ r, R r → ¬r <:+: es

def Pending (D : E → Bool) (R : List E → Prop) (log : List E) : Prop :=
  ∃ a d b, log = a ++ d :: b ∧ D d = true ∧ Free R b

def AtMostOnce (D : E → Bool) (R : List E → Prop) (log : List E) : Prop :=
  ∀ stretch, stretch <:+: log → Free R stretch → stretch.countP D ≤ 1

def Taken (A D : E → Bool) (R : List E → Prop) (log : List E) : Prop :=
  ∃ a x d b, log = a ++ x :: d :: b ∧ A x = true ∧ D d = true ∧ ¬Pending A R a ∧ Free R b

def Justified (S : E → Prop) (J : List E → Prop) (log : List E) : Prop :=
  ∀ pre e post, log = pre ++ e :: post → S e → J pre

variable {A D : E → Bool} {R : List E → Prop} {S : E → Prop} {J : List E → Prop}
  {log es : List E} {e : E}

theorem Free.mono {xs ys : List E} (h : Free R ys) (hxs : xs <:+: ys) : Free R xs :=
  fun r hr hrx => h r hr (hrx.trans hxs)

theorem Free.nil (hR : ¬R []) : Free R [] := by
  intro r hr hnil
  rw [List.infix_nil] at hnil
  exact hR (hnil ▸ hr)

theorem Free.concat (h : Free R es) (he : ∀ r, R r → r.getLast? ≠ some e) : Free R (es ++ [e]) := by
  intro r hr hsub
  rcases List.infix_concat_iff.mp hsub with hsuffix | hsub
  · rcases List.suffix_concat_iff.mp hsuffix with rfl | ⟨t, rfl, -⟩
    · exact h [] hr (List.nil_infix)
    · exact he _ hr (by simp)
  · exact h r hr hsub

theorem Free.append (h : Free R log) (hes : ∀ e ∈ es, ∀ r, R r → r.getLast? ≠ some e) :
    Free R (log ++ es) := by
  induction es generalizing log with
  | nil => simpa using h
  | cons e es ih =>
    rw [← List.singleton_append, ← List.append_assoc]
    exact ih (h.concat (hes e List.mem_cons_self)) fun d hd => hes d (List.mem_cons_of_mem e hd)

theorem Free.cons (h : Free R es) (he : ∀ r, R r → r.head? ≠ some e) : Free R (e :: es) := by
  intro r hr hsub
  rcases List.infix_cons_iff.mp hsub with ⟨t, ht⟩ | hsub
  · cases r with
    | nil => exact h [] hr List.nil_infix
    | cons d r =>
      rw [List.cons_append, List.cons.injEq] at ht
      exact he _ hr (by rw [List.head?_cons, ht.1])
  · exact h r hr hsub

theorem split_append {a b : List E} {d : E} (h : a ++ d :: b = log ++ es) :
    (∃ b', log = a ++ d :: b' ∧ b = b' ++ es) ∨ d ∈ es := by
  rcases List.append_eq_append_iff.mp h with ⟨c, hlog, hc⟩ | ⟨c, ha, hc⟩
  · cases c with
    | nil =>
      refine .inr ?_
      rw [List.nil_append] at hc
      rw [← hc]
      exact List.mem_cons_self
    | cons d' b' =>
      rw [List.cons_append, List.cons.injEq] at hc
      obtain ⟨rfl, rfl⟩ := hc
      exact .inl ⟨b', hlog, rfl⟩
  · refine .inr ?_
    rw [hc]
    simp

theorem Pending.mem (h : Pending D R log) : ∃ d ∈ log, D d = true := by
  obtain ⟨a, d, b, rfl, hd, -⟩ := h
  exact ⟨d, by simp, hd⟩

theorem Pending.of_append (hquiet : ∀ e ∈ es, D e = false) (h : Pending D R (log ++ es)) :
    Pending D R log := by
  obtain ⟨a, d, b, heq, hd, hfree⟩ := h
  rcases split_append heq.symm with ⟨b', hlog, rfl⟩ | hmem
  · exact ⟨a, d, b', hlog, hd, hfree.mono (List.prefix_append b' es).isInfix⟩
  · simp [hquiet d hmem] at hd

theorem not_pending_release (hquiet : ∀ e ∈ es, D e = false) (hR : R es) :
    ¬Pending D R (log ++ es) := by
  rintro ⟨a, d, b, heq, hd, hfree⟩
  rcases split_append heq.symm with ⟨b', hlog, rfl⟩ | hmem
  · exact hfree es hR (List.suffix_append b' es).isInfix
  · simp [hquiet d hmem] at hd

theorem Pending.deliver (hR : ¬R []) (he : D e = true) : Pending D R (log ++ [e]) :=
  ⟨log, e, [], rfl, he, Free.nil hR⟩

theorem Taken.first {x d : E} (hR : ¬R []) (hx : A x = true) (hd : D d = true)
    (hnew : ¬Pending A R log) : Taken A D R (log ++ [x, d]) :=
  ⟨log, x, d, [], rfl, hx, hd, hnew, Free.nil hR⟩

theorem Taken.append (h : Taken A D R log) (hes : ∀ e ∈ es, ∀ r, R r → r.getLast? ≠ some e) :
    Taken A D R (log ++ es) := by
  obtain ⟨a, x, d, b, rfl, hx, hd, hnew, hfree⟩ := h
  exact ⟨a, x, d, b ++ es, by simp, hx, hd, hnew, hfree.append hes⟩

theorem Taken.pending (h : Taken A D R log) (hD : ∀ d, D d = true → ∀ r, R r → r.head? ≠ some d) :
    Pending A R log := by
  obtain ⟨a, x, d, b, rfl, hx, hd, -, hfree⟩ := h
  exact ⟨a, x, d :: b, rfl, hx, hfree.cons (hD d hd)⟩

theorem Taken.mem (h : Taken A D R log) : ∃ d ∈ log, D d = true := by
  obtain ⟨a, x, d, b, rfl, -, hd, -⟩ := h
  exact ⟨d, by simp, hd⟩

theorem justified_nil : Justified S J [] := by
  intro pre e post h
  cases pre <;> cases h

theorem Justified.concat (h : Justified S J log) (he : S e → J log) : Justified S J (log ++ [e]) := by
  intro pre d post heq hd
  rcases List.eq_nil_or_concat post with rfl | ⟨post, e', rfl⟩
  · obtain ⟨rfl, hed⟩ := List.append_inj' heq rfl
    rw [List.cons.injEq] at hed
    exact he (hed.1 ▸ hd)
  · rw [List.concat_eq_append, ← List.cons_append, ← List.append_assoc] at heq
    exact h pre d post (List.append_inj' heq rfl).1 hd

theorem Justified.append (h : Justified S J log) (hes : ∀ e ∈ es, ¬S e) :
    Justified S J (log ++ es) := by
  induction es generalizing log with
  | nil => simpa using h
  | cons e es ih =>
    rw [← List.singleton_append, ← List.append_assoc]
    exact ih (h.concat fun hS => absurd hS (hes e List.mem_cons_self))
      fun d hd => hes d (List.mem_cons_of_mem e hd)

theorem atMostOnce_nil : AtMostOnce D R [] := by
  intro stretch hsub _
  rw [List.infix_nil] at hsub
  simp [hsub]

theorem AtMostOnce.quiet (h : AtMostOnce D R log) (he : D e = false) :
    AtMostOnce D R (log ++ [e]) := by
  intro stretch hsub hfree
  rcases List.infix_concat_iff.mp hsub with hsuffix | hsub
  · rcases List.suffix_concat_iff.mp hsuffix with rfl | ⟨t, rfl, ht⟩
    · simp
    · rw [List.countP_append, List.countP_singleton, he]
      exact h t ht.isInfix (hfree.mono (List.prefix_append t [e]).isInfix)
  · exact h stretch hsub hfree

theorem AtMostOnce.append_quiet (h : AtMostOnce D R log) (hquiet : ∀ e ∈ es, D e = false) :
    AtMostOnce D R (log ++ es) := by
  induction es generalizing log with
  | nil => simpa using h
  | cons e es ih =>
    rw [← List.singleton_append, ← List.append_assoc]
    exact ih (h.quiet (hquiet e List.mem_cons_self))
      fun d hd => hquiet d (List.mem_cons_of_mem e hd)

theorem AtMostOnce.fresh (h : AtMostOnce D R log) (hp : ¬Pending D R log) :
    AtMostOnce D R (log ++ [e]) := by
  intro stretch hsub hfree
  rcases List.infix_concat_iff.mp hsub with hsuffix | hsub
  · rcases List.suffix_concat_iff.mp hsuffix with rfl | ⟨t, rfl, ⟨a, rfl⟩⟩
    · simp
    · have hnone : t.countP D = 0 := by
        rw [List.countP_eq_zero]
        intro d hd hD
        obtain ⟨x, y, rfl⟩ := List.append_of_mem hd
        refine hp ⟨a ++ x, d, y, by simp, hD, hfree.mono ⟨x ++ [d], [e], by simp⟩⟩
      rw [List.countP_append, hnone, Nat.zero_add]
      exact List.countP_le_length
  · exact h stretch hsub hfree

end Stretch
