import MbedMqtt.Gateway.Tree23
import MbedMqtt.Library.Steps

namespace MbedMqtt

open Tree23Node

section Shapes

variable {K V : Type}

def Tree23Node.toList : Tree23Node K V → List (K × V)
  | null => []
  | node _ telm0 telm1 left midle right =>
      left.toList ++ telm0.toList ++ midle.toList ++ telm1.toList ++ right.toList

inductive Balanced : Nat → Tree23Node K V → Prop
  | null : Balanced 0 .null
  | bi {n : Nat} {e : K × V} {left right : Tree23Node K V} : Balanced n left → Balanced n right →
      Balanced (n + 1) (.node TREE23_BI_NODE (some e) none left .null right)
  | tri {n : Nat} {e0 e1 : K × V} {left midle right : Tree23Node K V} : Balanced n left →
      Balanced n midle → Balanced n right →
      Balanced (n + 1) (.node TREE23_TRI_NODE (some e0) (some e1) left midle right)

inductive Grown : Nat → Tree23Node K V → Prop
  | fits {n : Nat} {t : Tree23Node K V} : Balanced n t → Grown n t
  | tall {n : Nat} {e : K × V} {left right : Tree23Node K V} : Balanced n left →
      Balanced n right → Grown n (.node TREE23_INSERT_ACTIVE (some e) none left .null right)

inductive Shrunk : Nat → Tree23Node K V → Prop
  | fits {n : Nat} {t : Tree23Node K V} : Balanced n t → Shrunk n t
  | short {n : Nat} {midle : Tree23Node K V} : Balanced n midle →
      Shrunk (n + 1) (.node TREE23_DELETE_ACTIVE none none .null midle .null)

def Results (P : Tree23Node K V → Prop) (xs : List (K × V)) (r : Option (Tree23Node K V)) : Prop :=
  ∃ t, r = some t ∧ P t ∧ t.toList = xs

variable {n : Nat} {e e0 e1 : K × V} {left midle right : Tree23Node K V}

@[simp] theorem toList_null : (Tree23Node.null : Tree23Node K V).toList = [] := rfl

theorem toList_bi (type : Int) (e : K × V) (left right : Tree23Node K V) :
    (Tree23Node.node type (some e) none left .null right).toList =
      left.toList ++ e :: right.toList := by
  simp [toList]

theorem toList_tri (type : Int) (e0 e1 : K × V) (left midle right : Tree23Node K V) :
    (Tree23Node.node type (some e0) (some e1) left midle right).toList =
      left.toList ++ e0 :: (midle.toList ++ e1 :: right.toList) := by
  simp [toList]

theorem addLeft2_grown (hl : Grown n left) (hr : Balanced n right) :
    Results (Balanced (n + 1)) (left.toList ++ e :: right.toList)
      (addLeft2 (.node TREE23_BI_NODE (some e) none left .null right)) := by
  cases hl with
  | fits hl =>
    refine ⟨_, ?_, .bi hl hr, toList_bi ..⟩
    cases hl <;> rfl
  | tall hll hlr =>
    refine ⟨_, rfl, .tri hll hlr hr, ?_⟩
    simp [toList]

theorem addRight2_grown (hl : Balanced n left) (hr : Grown n right) :
    Results (Balanced (n + 1)) (left.toList ++ e :: right.toList)
      (addRight2 (.node TREE23_BI_NODE (some e) none left .null right)) := by
  cases hr with
  | fits hr =>
    refine ⟨_, ?_, .bi hl hr, toList_bi ..⟩
    cases hr <;> rfl
  | tall hrl hrr =>
    refine ⟨_, rfl, .tri hl hrl hrr, ?_⟩
    simp [toList]

theorem addLeft3_grown (hl : Grown n left) (hm : Balanced n midle) (hr : Balanced n right) :
    Results (Grown (n + 1)) (left.toList ++ e0 :: (midle.toList ++ e1 :: right.toList))
      (addLeft3 (.node TREE23_TRI_NODE (some e0) (some e1) left midle right)) := by
  cases hl with
  | fits hl =>
    refine ⟨_, ?_, .fits (.tri hl hm hr), toList_tri ..⟩
    cases hl <;> rfl
  | tall hll hlr =>
    refine ⟨_, rfl, .tall (.bi hll hlr) (.bi hm hr), ?_⟩
    simp [toList]

theorem addMidle3_grown (hl : Balanced n left) (hm : Grown n midle) (hr : Balanced n right) :
    Results (Grown (n + 1)) (left.toList ++ e0 :: (midle.toList ++ e1 :: right.toList))
      (addMidle3 (.node TREE23_TRI_NODE (some e0) (some e1) left midle right)) := by
  cases hm with
  | fits hm =>
    refine ⟨_, ?_, .fits (.tri hl hm hr), toList_tri ..⟩
    cases hm <;> rfl
  | tall hml hmr =>
    refine ⟨_, rfl, .tall (.bi hl hml) (.bi hmr hr), ?_⟩
    simp [toList]

theorem addRight3_grown (hl : Balanced n left) (hm : Balanced n midle) (hr : Grown n right) :
    Results (Grown (n + 1)) (left.toList ++ e0 :: (midle.toList ++ e1 :: right.toList))
      (addRight3 (.node TREE23_TRI_NODE (some e0) (some e1) left midle right)) := by
  cases hr with
  | fits hr =>
    refine ⟨_, ?_, .fits (.tri hl hm hr), toList_tri ..⟩
    cases hr <;> rfl
  | tall hrl hrr =>
    refine ⟨_, rfl, .tall (.bi hl hm) (.bi hrl hrr), ?_⟩
    simp [toList]

theorem removeLeft2_shrunk (hl : Shrunk n left) (hr : Balanced n right) :
    Results (Shrunk (n + 1)) (left.toList ++ e :: right.toList)
      (removeLeft2 (.node TREE23_BI_NODE (some e) none left .null right)) := by
  cases hl with
  | fits hl =>
    refine ⟨_, ?_, .fits (.bi hl hr), toList_bi ..⟩
    cases hl <;> rfl
  | short hm =>
    cases hr with
    | bi hrl hrr =>
      refine ⟨_, rfl, .short (.tri hm hrl hrr), ?_⟩
      simp [toList]
    | tri hrl hrm hrr =>
      refine ⟨_, rfl, .fits (.bi (.bi hm hrl) (.bi hrm hrr)), ?_⟩
      simp [toList]

theorem removeRight2_shrunk (hl : Balanced n left) (hr : Shrunk n right) :
    Results (Shrunk (n + 1)) (left.toList ++ e :: right.toList)
      (removeRight2 (.node TREE23_BI_NODE (some e) none left .null right)) := by
  cases hr with
  | fits hr =>
    refine ⟨_, ?_, .fits (.bi hl hr), toList_bi ..⟩
    cases hr <;> rfl
  | short hm =>
    cases hl with
    | bi hll hlr =>
      refine ⟨_, rfl, .short (.tri hll hlr hm), ?_⟩
      simp [toList]
    | tri hll hlm hlr =>
      refine ⟨_, rfl, .fits (.bi (.bi hll hlm) (.bi hlr hm)), ?_⟩
      simp [toList]

theorem removeLeft3_shrunk (hl : Shrunk n left) (hm : Balanced n midle) (hr : Balanced n right) :
    Results (Shrunk (n + 1)) (left.toList ++ e0 :: (midle.toList ++ e1 :: right.toList))
      (removeLeft3 (.node TREE23_TRI_NODE (some e0) (some e1) left midle right)) := by
  cases hl with
  | fits hl =>
    refine ⟨_, ?_, .fits (.tri hl hm hr), toList_tri ..⟩
    cases hl <;> rfl
  | short hlm =>
    cases hm with
    | bi hml hmr =>
      refine ⟨_, rfl, .fits (.bi (.tri hlm hml hmr) hr), ?_⟩
      simp [toList]
    | tri hml hmm hmr =>
      refine ⟨_, rfl, .fits (.tri (.bi hlm hml) (.bi hmm hmr) hr), ?_⟩
      simp [toList]

theorem removeMidle3_shrunk (hl : Balanced n left) (hm : Shrunk n midle) (hr : Balanced n right) :
    Results (Shrunk (n + 1)) (left.toList ++ e0 :: (midle.toList ++ e1 :: right.toList))
      (removeMidle3 (.node TREE23_TRI_NODE (some e0) (some e1) left midle right)) := by
  cases hm with
  | fits hm =>
    refine ⟨_, ?_, .fits (.tri hl hm hr), toList_tri ..⟩
    cases hm <;> rfl
  | short hmm =>
    cases hr with
    | bi hrl hrr =>
      refine ⟨_, rfl, .fits (.bi hl (.tri hmm hrl hrr)), ?_⟩
      simp [toList]
    | tri hrl hrm hrr =>
      refine ⟨_, rfl, .fits (.tri hl (.bi hmm hrl) (.bi hrm hrr)), ?_⟩
      simp [toList]

theorem removeRight3_shrunk (hl : Balanced n left) (hm : Balanced n midle) (hr : Shrunk n right) :
    Results (Shrunk (n + 1)) (left.toList ++ e0 :: (midle.toList ++ e1 :: right.toList))
      (removeRight3 (.node TREE23_TRI_NODE (some e0) (some e1) left midle right)) := by
  cases hr with
  | fits hr =>
    refine ⟨_, ?_, .fits (.tri hl hm hr), toList_tri ..⟩
    cases hr <;> rfl
  | short hrm =>
    cases hm with
    | bi hml hmr =>
      refine ⟨_, rfl, .fits (.bi hl (.tri hml hmr hrm)), ?_⟩
      simp [toList]
    | tri hml hmm hmr =>
      refine ⟨_, rfl, .fits (.tri hl (.bi hml hmm) (.bi hmr hrm)), ?_⟩
      simp [toList]

theorem Balanced.eq_null {t : Tree23Node K V} (h : Balanced 0 t) : t = .null := by
  cases h
  rfl

theorem Balanced.isNull {t : Tree23Node K V} (h : Balanced n t) : t.isNull = true ↔ n = 0 := by
  cases h with
  | null => simp [Tree23Node.isNull]
  | bi _ _ => simp [Tree23Node.isNull]
  | tri _ _ _ => simp [Tree23Node.isNull]

theorem Results.mono {P Q : Tree23Node K V → Prop} {xs : List (K × V)}
    {r : Option (Tree23Node K V)} (h : Results P xs r) (hPQ : ∀ {t}, P t → Q t) : Results Q xs r := by
  obtain ⟨t, hr, ht, hxs⟩ := h
  exact ⟨t, hr, hPQ ht, hxs⟩

theorem removeMax_bi {right : Tree23Node K V} (h : right.isNull = false) (e : K × V)
    (left : Tree23Node K V) :
    removeMax (.node TREE23_BI_NODE (some e) none left .null right) =
      (removeMax right).bind fun r =>
        (removeRight2 (.node TREE23_BI_NODE (some e) none left .null r.1)).map fun n => (n, r.2) := by
  rw [removeMax, h]
  cases removeMax right <;> rfl

theorem removeMax_tri {right : Tree23Node K V} (h : right.isNull = false) (e0 e1 : K × V)
    (left midle : Tree23Node K V) :
    removeMax (.node TREE23_TRI_NODE (some e0) (some e1) left midle right) =
      (removeMax right).bind fun r =>
        (removeRight3 (.node TREE23_TRI_NODE (some e0) (some e1) left midle r.1)).map
          fun n => (n, r.2) := by
  rw [removeMax, h]
  cases removeMax right <;> rfl

theorem Balanced.isNull_false {t : Tree23Node K V} (h : Balanced (n + 1) t) : t.isNull = false := by
  cases h <;> rfl

theorem removeMax_shrunk {t : Tree23Node K V} (h : Balanced n t) (hn : n ≠ 0) :
    ∃ t' e, removeMax t = some (t', some e) ∧ Shrunk n t' ∧ t.toList = t'.toList ++ [e] := by
  induction h with
  | null => exact absurd rfl hn
  | @bi n e left right hl hr _ ihr =>
    cases n with
    | zero =>
      rw [hl.eq_null, hr.eq_null]
      exact ⟨_, e, rfl, .short .null, rfl⟩
    | succ n =>
      obtain ⟨right', m, hmax, hshrunk, hlist⟩ := ihr (Nat.succ_ne_zero n)
      obtain ⟨t', hfix, ht', hxs⟩ := removeRight2_shrunk hl hshrunk
      refine ⟨t', m, ?_, ht', ?_⟩
      · rw [removeMax_bi hr.isNull_false, hmax, Option.bind_some, hfix, Option.map_some]
      · rw [toList_bi, hlist, hxs]
        simp
  | @tri n e0 e1 left midle right hl hm hr _ _ ihr =>
    cases n with
    | zero =>
      rw [hl.eq_null, hm.eq_null, hr.eq_null]
      exact ⟨_, e1, rfl, .fits (.bi .null .null), rfl⟩
    | succ n =>
      obtain ⟨right', m, hmax, hshrunk, hlist⟩ := ihr (Nat.succ_ne_zero n)
      obtain ⟨t', hfix, ht', hxs⟩ := removeRight3_shrunk hl hm hshrunk
      refine ⟨t', m, ?_, ht', ?_⟩
      · rw [removeMax_tri hr.isNull_false, hmax, Option.bind_some, hfix, Option.map_some]
      · rw [toList_tri, hlist, hxs]
        simp

end Shapes

section Operations

open OrderedAssoc

variable {K V : Type} {cmp : K → K → Int}

theorem addNode_bi (elm e : K × V) (left right : Tree23Node K V) :
    addNode cmp elm (.node TREE23_BI_NODE (some e) none left .null right) =
      if cmp elm.1 e.1 < 0 then
        (addNode cmp elm left).bind fun left =>
          addLeft2 (.node TREE23_BI_NODE (some e) none left .null right)
      else if cmp elm.1 e.1 = 0 then some (.node TREE23_BI_NODE (some elm) none left .null right)
      else
        (addNode cmp elm right).bind fun right =>
          addRight2 (.node TREE23_BI_NODE (some e) none left .null right) := rfl

theorem addNode_tri (elm e0 e1 : K × V) (left midle right : Tree23Node K V) :
    addNode cmp elm (.node TREE23_TRI_NODE (some e0) (some e1) left midle right) =
      if cmp elm.1 e0.1 < 0 then
        (addNode cmp elm left).bind fun left =>
          addLeft3 (.node TREE23_TRI_NODE (some e0) (some e1) left midle right)
      else if cmp elm.1 e0.1 = 0 then
        some (.node TREE23_TRI_NODE (some elm) (some e1) left midle right)
      else if cmp elm.1 e1.1 < 0 then
        (addNode cmp elm midle).bind fun midle =>
          addMidle3 (.node TREE23_TRI_NODE (some e0) (some e1) left midle right)
      else if cmp elm.1 e1.1 = 0 then
        some (.node TREE23_TRI_NODE (some e0) (some elm) left midle right)
      else
        (addNode cmp elm right).bind fun right =>
          addRight3 (.node TREE23_TRI_NODE (some e0) (some e1) left midle right) := rfl

theorem removeNode_bi (k : K) (e : K × V) (left right : Tree23Node K V) :
    removeNode cmp k (.node TREE23_BI_NODE (some e) none left .null right) =
      if cmp k e.1 < 0 then
        (removeNode cmp k left).bind fun left =>
          removeLeft2 (.node TREE23_BI_NODE (some e) none left .null right)
      else if cmp k e.1 = 0 then
        if left.isNull then some (.node TREE23_DELETE_ACTIVE none none .null .null .null)
        else
          (removeMax left).bind fun r =>
            removeLeft2 (.node TREE23_BI_NODE r.2 none r.1 .null right)
      else
        (removeNode cmp k right).bind fun right =>
          removeRight2 (.node TREE23_BI_NODE (some e) none left .null right) := rfl

theorem removeNode_tri (k : K) (e0 e1 : K × V) (left midle right : Tree23Node K V) :
    removeNode cmp k (.node TREE23_TRI_NODE (some e0) (some e1) left midle right) =
      if cmp k e0.1 < 0 then
        (removeNode cmp k left).bind fun left =>
          removeLeft3 (.node TREE23_TRI_NODE (some e0) (some e1) left midle right)
      else if cmp k e0.1 = 0 then
        if left.isNull then some (.node TREE23_BI_NODE (some e1) none .null .null .null)
        else
          (removeMax left).bind fun r =>
            removeLeft3 (.node TREE23_TRI_NODE r.2 (some e1) r.1 midle right)
      else if cmp k e1.1 < 0 then
        (removeNode cmp k midle).bind fun midle =>
          removeMidle3 (.node TREE23_TRI_NODE (some e0) (some e1) left midle right)
      else if cmp k e1.1 = 0 then
        if midle.isNull then some (.node TREE23_BI_NODE (some e0) none .null .null .null)
        else
          (removeMax midle).bind fun r =>
            removeMidle3 (.node TREE23_TRI_NODE (some e0) r.2 left r.1 right)
      else
        (removeNode cmp k right).bind fun right =>
          removeRight3 (.node TREE23_TRI_NODE (some e0) (some e1) left midle right) := rfl

theorem getVal_bi (k : K) (e : K × V) (left right : Tree23Node K V) :
    getVal cmp k (.node TREE23_BI_NODE (some e) none left .null right) =
      if cmp k e.1 < 0 then getVal cmp k left
      else if cmp k e.1 = 0 then some (some e.2)
      else getVal cmp k right := rfl

theorem getVal_tri (k : K) (e0 e1 : K × V) (left midle right : Tree23Node K V) :
    getVal cmp k (.node TREE23_TRI_NODE (some e0) (some e1) left midle right) =
      if cmp k e0.1 < 0 then getVal cmp k left
      else if cmp k e0.1 = 0 then some (some e0.2)
      else if cmp k e1.1 < 0 then getVal cmp k midle
      else if cmp k e1.1 = 0 then some (some e1.2)
      else getVal cmp k right := rfl

variable (hc : TotalCompare cmp) {n : Nat} {t : Tree23Node K V}

include hc

theorem addNode_grown (elm : K × V) (h : Balanced n t) (hs : Sorted cmp t.toList) :
    Results (Grown n) (OrderedAssoc.insert cmp elm t.toList) (addNode cmp elm t) := by
  induction h with
  | null => exact ⟨_, rfl, .tall .null .null, rfl⟩
  | @bi n e left right hl hr ihl ihr =>
    rw [toList_bi] at hs ⊢
    rw [addNode_bi]
    obtain ⟨hsl, hsr, hlow, -, -⟩ := sorted_append.mp hs
    rcases Int.lt_trichotomy (cmp elm.1 e.1) 0 with hlt | heq | hgt
    · obtain ⟨left', hadd, hgrown, hlist⟩ := ihl hsl
      rw [insert_before hlt, ← hlist, if_pos hlt, hadd]
      exact (addLeft2_grown hgrown hr).mono .fits
    · rw [insert_at (above_pos hc hlow (by omega)) heq, if_neg (by omega), if_pos heq]
      exact ⟨_, rfl, .fits (.bi hl hr), toList_bi ..⟩
    · obtain ⟨right', hadd, hgrown, hlist⟩ := ihr hsr
      rw [insert_beyond (above_pos hc hlow (by omega)) hgt, ← hlist, if_neg (by omega),
        if_neg (by omega), hadd]
      exact (addRight2_grown hl hgrown).mono .fits
  | @tri n e0 e1 left midle right hl hm hr ihl ihm ihr =>
    rw [toList_tri] at hs ⊢
    rw [addNode_tri]
    obtain ⟨hsl, hsrest, hlow, -, -⟩ := sorted_append.mp hs
    obtain ⟨hsm, hsr, hmid, -, -⟩ := sorted_append.mp hsrest
    rcases Int.lt_trichotomy (cmp elm.1 e0.1) 0 with hlt0 | heq0 | hgt0
    · obtain ⟨left', hadd, hgrown, hlist⟩ := ihl hsl
      rw [insert_before hlt0, ← hlist, if_pos hlt0, hadd]
      exact addLeft3_grown hgrown hm hr
    · rw [insert_at (above_pos hc hlow (by omega)) heq0, if_neg (by omega), if_pos heq0]
      exact ⟨_, rfl, .fits (.tri hl hm hr), toList_tri ..⟩
    · rw [insert_beyond (above_pos hc hlow (by omega)) hgt0, if_neg (by omega),
        if_neg (by omega)]
      rcases Int.lt_trichotomy (cmp elm.1 e1.1) 0 with hlt1 | heq1 | hgt1
      · obtain ⟨midle', hadd, hgrown, hlist⟩ := ihm hsm
        rw [insert_before hlt1, ← hlist, if_pos hlt1, hadd]
        exact addMidle3_grown hl hgrown hr
      · rw [insert_at (above_pos hc hmid (by omega)) heq1, if_neg (by omega), if_pos heq1]
        exact ⟨_, rfl, .fits (.tri hl hm hr), toList_tri ..⟩
      · obtain ⟨right', hadd, hgrown, hlist⟩ := ihr hsr
        rw [insert_beyond (above_pos hc hmid (by omega)) hgt1, ← hlist, if_neg (by omega),
          if_neg (by omega), hadd]
        exact addRight3_grown hl hm hgrown

theorem removeNode_shrunk (k : K) (h : Balanced n t) (hs : Sorted cmp t.toList) :
    Results (Shrunk n) (erase cmp k t.toList) (removeNode cmp k t) := by
  induction h with
  | null => exact ⟨_, rfl, .fits .null, rfl⟩
  | @bi n e left right hl hr ihl ihr =>
    rw [toList_bi] at hs ⊢
    rw [removeNode_bi]
    obtain ⟨hsl, hsr, hlow, hhigh, -⟩ := sorted_append.mp hs
    rcases Int.lt_trichotomy (cmp k e.1) 0 with hlt | heq | hgt
    · obtain ⟨left', hremove, hshrunk, hlist⟩ := ihl hsl
      rw [erase_before hc hhigh hlt, ← hlist, if_pos hlt, hremove]
      exact removeLeft2_shrunk hshrunk hr
    · rw [erase_at hc hlow hhigh heq, if_neg (by omega), if_pos heq]
      cases n with
      | zero =>
        rw [hl.eq_null, hr.eq_null]
        exact ⟨_, rfl, .short .null, rfl⟩
      | succ n =>
        obtain ⟨left', m, hmax, hshrunk, hlist⟩ := removeMax_shrunk hl (Nat.succ_ne_zero n)
        rw [hl.isNull_false, hlist, hmax, List.append_assoc]
        exact removeLeft2_shrunk hshrunk hr
    · obtain ⟨right', hremove, hshrunk, hlist⟩ := ihr hsr
      rw [erase_beyond hc hlow hgt, ← hlist, if_neg (by omega), if_neg (by omega), hremove]
      exact removeRight2_shrunk hl hshrunk
  | @tri n e0 e1 left midle right hl hm hr ihl ihm ihr =>
    rw [toList_tri] at hs ⊢
    rw [removeNode_tri]
    obtain ⟨hsl, hsrest, hlow, hhigh, -⟩ := sorted_append.mp hs
    obtain ⟨hsm, hsr, hmid, htop, -⟩ := sorted_append.mp hsrest
    rcases Int.lt_trichotomy (cmp k e0.1) 0 with hlt0 | heq0 | hgt0
    · obtain ⟨left', hremove, hshrunk, hlist⟩ := ihl hsl
      rw [erase_before hc hhigh hlt0, ← hlist, if_pos hlt0, hremove]
      exact removeLeft3_shrunk hshrunk hm hr
    · rw [erase_at hc hlow hhigh heq0, if_neg (by omega), if_pos heq0]
      cases n with
      | zero =>
        rw [hl.eq_null, hm.eq_null, hr.eq_null]
        exact ⟨_, rfl, .fits (.bi .null .null), rfl⟩
      | succ n =>
        obtain ⟨left', m, hmax, hshrunk, hlist⟩ := removeMax_shrunk hl (Nat.succ_ne_zero n)
        rw [hl.isNull_false, hlist, hmax, List.append_assoc]
        exact removeLeft3_shrunk hshrunk hm hr
    · rw [erase_beyond hc hlow hgt0, if_neg (by omega), if_neg (by omega)]
      rcases Int.lt_trichotomy (cmp k e1.1) 0 with hlt1 | heq1 | hgt1
      · obtain ⟨midle', hremove, hshrunk, hlist⟩ := ihm hsm
        rw [erase_before hc htop hlt1, ← hlist, if_pos hlt1, hremove]
        exact removeMidle3_shrunk hl hshrunk hr
      · rw [erase_at hc hmid htop heq1, if_neg (by omega), if_pos heq1]
        cases n with
        | zero =>
          rw [hl.eq_null, hm.eq_null, hr.eq_null]
          exact ⟨_, rfl, .fits (.bi .null .null), rfl⟩
        | succ n =>
          obtain ⟨midle', m, hmax, hshrunk, hlist⟩ := removeMax_shrunk hm (Nat.succ_ne_zero n)
          rw [hm.isNull_false, hlist, hmax, List.append_assoc]
          exact removeMidle3_shrunk hl hshrunk hr
      · obtain ⟨right', hremove, hshrunk, hlist⟩ := ihr hsr
        rw [erase_beyond hc hmid hgt1, ← hlist, if_neg (by omega), if_neg (by omega), hremove]
        exact removeRight3_shrunk hl hm hshrunk

theorem getVal_lookup (k : K) (h : Balanced n t) (hs : Sorted cmp t.toList) :
    getVal cmp k t = some (lookup cmp k t.toList) := by
  induction h with
  | null => rfl
  | @bi n e left right hl hr ihl ihr =>
    rw [toList_bi] at hs ⊢
    obtain ⟨hsl, hsr, hlow, hhigh, -⟩ := sorted_append.mp hs
    rw [getVal_bi]
    rcases Int.lt_trichotomy (cmp k e.1) 0 with hlt | heq | hgt
    · rw [lookup_before hc hhigh hlt, if_pos hlt, ihl hsl]
    · rw [lookup_at hc hlow heq, if_neg (by omega), if_pos heq]
    · rw [lookup_beyond hc hlow hgt, if_neg (by omega), if_neg (by omega), ihr hsr]
  | @tri n e0 e1 left midle right hl hm hr ihl ihm ihr =>
    rw [toList_tri] at hs ⊢
    obtain ⟨hsl, hsrest, hlow, hhigh, -⟩ := sorted_append.mp hs
    obtain ⟨hsm, hsr, hmid, htop, -⟩ := sorted_append.mp hsrest
    rw [getVal_tri]
    rcases Int.lt_trichotomy (cmp k e0.1) 0 with hlt0 | heq0 | hgt0
    · rw [lookup_before hc hhigh hlt0, if_pos hlt0, ihl hsl]
    · rw [lookup_at hc hlow heq0, if_neg (by omega), if_pos heq0]
    · rw [lookup_beyond hc hlow hgt0, if_neg (by omega), if_neg (by omega)]
      rcases Int.lt_trichotomy (cmp k e1.1) 0 with hlt1 | heq1 | hgt1
      · rw [lookup_before hc htop hlt1, if_pos hlt1, ihm hsm]
      · rw [lookup_at hc hmid heq1, if_neg (by omega), if_pos heq1]
      · rw [lookup_beyond hc hmid hgt1, if_neg (by omega), if_neg (by omega), ihr hsr]

omit hc in
theorem find_getVal (k : K) (t : Tree23Node K V) :
    find cmp k t = (getVal cmp k t).map Option.isSome := by
  induction t with
  | null => rfl
  | node type telm0 telm1 left midle right ihl ihm ihr =>
    cases telm0 with
    | none => rfl
    | some e0 =>
      cases telm1 with
      | none =>
        simp only [find, getVal, ihl, ihr]
        split
        · split
          · rfl
          · split <;> rfl
        · split <;> rfl
      | some e1 =>
        simp only [find, getVal, ihl, ihm, ihr]
        split
        · split
          · rfl
          · split <;> rfl
        · split
          · split
            · rfl
            · split
              · rfl
              · split
                · rfl
                · split <;> rfl
          · rfl

end Operations

inductive TreeOp (K V : Type) where
  | add (key : K) (val : V)
  | remove (key : K)
  deriving DecidableEq, Repr

def TreeOp.apply {K V : Type} (cmp : K → K → Int) (root : Tree23Node K V) :
    TreeOp K V → Option (Tree23Node K V)
  | add key val => Tree23Node.add cmp root key val
  | remove key => Tree23Node.remove cmp root key

def treeRun {K V : Type} (cmp : K → K → Int) (ops : List (TreeOp K V)) :
    Option (Tree23Node K V) :=
  ops.foldlM (TreeOp.apply cmp) .null

def TreeOp.meaning {K V : Type} [DecidableEq K] (m : K → Option V) : TreeOp K V → K → Option V
  | add key val => Function.update m key (some val)
  | remove key => Function.update m key none

def finiteMap {K V : Type} [DecidableEq K] (ops : List (TreeOp K V)) : K → Option V :=
  ops.foldl TreeOp.meaning fun _ => none

structure WellBuilt {K V : Type} (cmp : K → K → Int) (root : Tree23Node K V) : Prop where
  balanced : ∃ n, Balanced n root
  sorted : OrderedAssoc.Sorted cmp root.toList

section Runs

open OrderedAssoc

variable {K V : Type} {cmp : K → K → Int} (hc : TotalCompare cmp)

include hc

theorem add_builds {root : Tree23Node K V} (h : WellBuilt cmp root) (key : K) (val : V) :
    ∃ root', Tree23Node.add cmp root key val = some root' ∧ WellBuilt cmp root' ∧
      root'.toList = OrderedAssoc.insert cmp (key, val) root.toList := by
  obtain ⟨n, hb⟩ := h.balanced
  obtain ⟨t, hadd, hgrown, hlist⟩ := addNode_grown hc (key, val) hb h.sorted
  have hsorted : Sorted cmp t.toList := by
    rw [hlist]
    exact insert_sorted hc h.sorted
  cases hgrown with
  | fits ht =>
    refine ⟨t, ?_, ⟨⟨n, ht⟩, hsorted⟩, hlist⟩
    cases ht with
    | null => exact absurd hlist.symm (insert_ne_nil _ _)
    | bi _ _ =>
      rw [Tree23Node.add, hadd]
      rfl
    | tri _ _ _ =>
      rw [Tree23Node.add, hadd]
      rfl
  | @tall e left right hl hr =>
    rw [toList_bi] at hsorted hlist
    refine ⟨.node TREE23_BI_NODE (some e) none left .null right, ?_, ⟨⟨n + 1, .bi hl hr⟩, ?_⟩, ?_⟩
    · rw [Tree23Node.add, hadd]
      rfl
    · rwa [toList_bi]
    · rwa [toList_bi]

theorem remove_builds {root : Tree23Node K V} (h : WellBuilt cmp root) (key : K) :
    ∃ root', Tree23Node.remove cmp root key = some root' ∧ WellBuilt cmp root' ∧
      root'.toList = erase cmp key root.toList := by
  obtain ⟨n, hb⟩ := h.balanced
  obtain ⟨t, hremove, hshrunk, hlist⟩ := removeNode_shrunk hc key hb h.sorted
  have hsorted : Sorted cmp t.toList := by
    rw [hlist]
    exact erase_sorted h.sorted key
  cases hshrunk with
  | fits ht =>
    refine ⟨t, ?_, ⟨⟨n, ht⟩, hsorted⟩, hlist⟩
    rw [Tree23Node.remove, hremove]
    cases ht <;> rfl
  | @short n midle hm =>
    have hsame : (Tree23Node.node TREE23_DELETE_ACTIVE none none .null midle .null).toList =
        midle.toList := by
      simp [toList]
    rw [hsame] at hsorted hlist
    refine ⟨midle, ?_, ⟨⟨n, hm⟩, hsorted⟩, hlist⟩
    rw [Tree23Node.remove, hremove]
    rfl

theorem apply_builds [DecidableEq K] {root : Tree23Node K V} (h : WellBuilt cmp root)
    (op : TreeOp K V) : ∃ root', op.apply cmp root = some root' ∧ WellBuilt cmp root' ∧
      (fun k => lookup cmp k root'.toList) = op.meaning fun k => lookup cmp k root.toList := by
  cases op with
  | add key val =>
    obtain ⟨root', hrun, hbuilt, hlist⟩ := add_builds hc h key val
    exact ⟨root', hrun, hbuilt, by rw [hlist]; exact lookup_insert hc (key, val) root.toList⟩
  | remove key =>
    obtain ⟨root', hrun, hbuilt, hlist⟩ := remove_builds hc h key
    exact ⟨root', hrun, hbuilt, by rw [hlist]; exact lookup_erase hc key root.toList⟩

theorem run_builds [DecidableEq K] (ops : List (TreeOp K V)) {root : Tree23Node K V}
    (h : WellBuilt cmp root) : ∃ root', ops.foldlM (TreeOp.apply cmp) root = some root' ∧
      WellBuilt cmp root' ∧ (fun k => lookup cmp k root'.toList) =
        ops.foldl TreeOp.meaning fun k => lookup cmp k root.toList := by
  induction ops generalizing root with
  | nil => exact ⟨root, rfl, h, rfl⟩
  | cons op ops ih =>
    obtain ⟨next, hstep, hnext, hmeaning⟩ := apply_builds hc h op
    obtain ⟨root', hrun, hbuilt, hlookup⟩ := ih hnext
    refine ⟨root', ?_, hbuilt, ?_⟩
    · rw [List.foldlM_cons, hstep]
      exact hrun
    · rw [hlookup, hmeaning, List.foldl_cons]

theorem treeRun_builds [DecidableEq K] (ops : List (TreeOp K V)) :
    ∃ root, treeRun cmp ops = some root ∧ WellBuilt cmp root ∧
      (fun k => lookup cmp k root.toList) = finiteMap ops :=
  run_builds hc ops ⟨⟨0, .null⟩, List.Pairwise.nil⟩

theorem WellBuilt.getVal {root : Tree23Node K V} (h : WellBuilt cmp root) (k : K) :
    Tree23Node.getVal cmp k root = some (lookup cmp k root.toList) := by
  obtain ⟨n, hb⟩ := h.balanced
  exact getVal_lookup hc k hb h.sorted

theorem WellBuilt.find {root : Tree23Node K V} (h : WellBuilt cmp root) (k : K) :
    Tree23Node.find cmp k root = some (lookup cmp k root.toList).isSome := by
  rw [find_getVal, h.getVal hc, Option.map_some]

omit hc

theorem tree23_finite_map [DecidableEq K] (hc : TotalCompare cmp) (ops : List (TreeOp K V)) :
    ∃ root, treeRun cmp ops = some root ∧
      (∀ k, Tree23Node.getVal cmp k root = some (finiteMap ops k)) ∧
      (∀ k, Tree23Node.find cmp k root = some (finiteMap ops k).isSome) ∧
      ∀ k, finiteMap ops k = none → ∃ root', Tree23Node.remove cmp root k = some root' ∧
        ∀ k', Tree23Node.getVal cmp k' root' = Tree23Node.getVal cmp k' root ∧
          Tree23Node.find cmp k' root' = Tree23Node.find cmp k' root := by
  obtain ⟨root, hrun, hbuilt, hlookup⟩ := treeRun_builds hc ops
  refine ⟨root, hrun, ?_, ?_, ?_⟩
  · intro k
    rw [hbuilt.getVal hc, ← hlookup]
  · intro k
    rw [hbuilt.find hc, ← hlookup]
  · intro k hk
    obtain ⟨root', hremove, hbuilt', hmeaning⟩ := apply_builds hc hbuilt (.remove k)
    have hsame : (fun k => lookup cmp k root'.toList) = fun k => lookup cmp k root.toList := by
      rw [hmeaning, hlookup]
      exact Function.update_eq_self_iff.mpr hk.symm
    refine ⟨root', hremove, fun k' => ?_⟩
    have hk' : lookup cmp k' root'.toList = lookup cmp k' root.toList := congrFun hsame k'
    rw [hbuilt'.getVal hc, hbuilt.getVal hc, hbuilt'.find hc, hbuilt.find hc, hk']
    exact ⟨rfl, rfl⟩

end Runs

def Tree23Node.Shaped {K V : Type} : Tree23Node K V → Prop
  | null => True
  | node type telm0 telm1 left midle right =>
      (type = TREE23_BI_NODE ∧ telm0.isSome = true ∧ midle.isNull = true ∧
          left.isNull = right.isNull ∨
        type = TREE23_TRI_NODE ∧ telm0.isSome = true ∧ telm1.isSome = true ∧
          left.isNull = midle.isNull ∧ midle.isNull = right.isNull) ∧
      left.Shaped ∧ midle.Shaped ∧ right.Shaped

def Tree23Node.leafDepths {K V : Type} (depth : Nat) : Tree23Node K V → List Nat
  | null => []
  | node _ _ _ left midle right =>
      if left.isNull && midle.isNull && right.isNull then [depth]
      else left.leafDepths (depth + 1) ++ midle.leafDepths (depth + 1) ++
        right.leafDepths (depth + 1)

structure WellFormed23 {K V : Type} (cmp : K → K → Int) (root : Tree23Node K V) : Prop where
  shaped : root.Shaped
  level : ∃ depth, ∀ d ∈ root.leafDepths 0, d = depth
  increasing : (root.toList.map Prod.fst).Pairwise fun a b => cmp a b < 0

theorem Balanced.shaped {K V : Type} {n : Nat} {t : Tree23Node K V} (h : Balanced n t) :
    t.Shaped := by
  induction h with
  | null => trivial
  | @bi n e left right hl hr ihl ihr =>
    refine ⟨.inl ⟨rfl, rfl, rfl, ?_⟩, ihl, trivial, ihr⟩
    rw [Bool.eq_iff_iff, hl.isNull, hr.isNull]
  | @tri n e0 e1 left midle right hl hm hr ihl ihm ihr =>
    refine ⟨.inr ⟨rfl, rfl, rfl, ?_, ?_⟩, ihl, ihm, ihr⟩
    · rw [Bool.eq_iff_iff, hl.isNull, hm.isNull]
    · rw [Bool.eq_iff_iff, hm.isNull, hr.isNull]

theorem Balanced.leafDepths {K V : Type} {n : Nat} {t : Tree23Node K V} (h : Balanced n t)
    (depth : Nat) : ∀ d ∈ t.leafDepths depth, d + 1 = depth + n := by
  induction h generalizing depth with
  | null => simp [Tree23Node.leafDepths]
  | @bi n e left right hl hr ihl ihr =>
    intro d hd
    cases n with
    | zero =>
      rw [hl.eq_null, hr.eq_null] at hd
      simpa [Tree23Node.leafDepths, Tree23Node.isNull] using hd
    | succ n =>
      simp only [Tree23Node.leafDepths, hl.isNull_false, Bool.false_and, Bool.false_eq_true,
        if_false, List.append_nil, List.mem_append] at hd
      rcases hd with hd | hd
      · have hleft := ihl (depth + 1) d hd
        omega
      · have hright := ihr (depth + 1) d hd
        omega
  | @tri n e0 e1 left midle right hl hm hr ihl ihm ihr =>
    intro d hd
    cases n with
    | zero =>
      rw [hl.eq_null, hm.eq_null, hr.eq_null] at hd
      simpa [Tree23Node.leafDepths, Tree23Node.isNull] using hd
    | succ n =>
      simp only [Tree23Node.leafDepths, hl.isNull_false, Bool.false_and, Bool.false_eq_true,
        if_false, List.mem_append] at hd
      rcases hd with (hd | hd) | hd
      · have hleft := ihl (depth + 1) d hd
        omega
      · have hmidle := ihm (depth + 1) d hd
        omega
      · have hright := ihr (depth + 1) d hd
        omega

theorem WellBuilt.wellFormed {K V : Type} {cmp : K → K → Int} {root : Tree23Node K V}
    (h : WellBuilt cmp root) : WellFormed23 cmp root := by
  obtain ⟨n, hb⟩ := h.balanced
  refine ⟨hb.shaped, ⟨n - 1, fun d hd => ?_⟩, List.pairwise_map.mpr h.sorted⟩
  have hdepth := hb.leafDepths 0 d hd
  omega

theorem tree23_wellFormed {K V : Type} {cmp : K → K → Int} (hc : TotalCompare cmp)
    (ops : List (TreeOp K V)) :
    ∃ root, treeRun cmp ops = some root ∧ WellFormed23 cmp root ∧
      ∀ k, (Tree23Node.find cmp k root).isSome = true ∧
        (Tree23Node.getVal cmp k root).isSome = true := by
  classical
  obtain ⟨root, hrun, hbuilt, -⟩ := treeRun_builds hc ops
  refine ⟨root, hrun, hbuilt.wellFormed, fun k => ?_⟩
  rw [hbuilt.find hc, hbuilt.getVal hc]
  exact ⟨rfl, rfl⟩

def natCompare (a b : Nat) : Int := a - b

theorem natCompare_total : TotalCompare natCompare where
  eq_zero := by
    intro a b
    simp only [natCompare]
    omega
  swap := by
    intro a b
    simp only [natCompare]
    omega
  trans := by
    intro a b c
    simp only [natCompare]
    omega

def sampleOps : List (TreeOp Nat Nat) :=
  [.add 4 40, .add 2 20, .add 6 60, .add 1 10, .add 3 30, .add 5 50, .add 2 21, .remove 4, .remove 9]

theorem tree23_finite_map_sample :
    ∃ root, treeRun natCompare sampleOps = some root ∧
      Tree23Node.getVal natCompare 2 root = some (some 21) ∧
      Tree23Node.find natCompare 4 root = some false := by
  obtain ⟨root, hrun, hval, hfind, -⟩ := tree23_finite_map natCompare_total sampleOps
  exact ⟨root, hrun, hval 2, hfind 4⟩

theorem tree23_wellFormed_sample :
    ∃ root, treeRun natCompare sampleOps = some root ∧ WellFormed23 natCompare root := by
  obtain ⟨root, hrun, hwell, -⟩ := tree23_wellFormed natCompare_total sampleOps
  exact ⟨root, hrun, hwell⟩

end MbedMqtt
