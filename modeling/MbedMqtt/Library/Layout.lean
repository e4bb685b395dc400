import Mathlib.Algebra.BigOperators.Group.List.Basic
import Mathlib.Algebra.GroupWithZero.Nat

def LaidAt {α : Type} (buf : List α) (i : Nat) (xs : List α) : Prop := xs <+: buf.drop i

namespace LaidAt

variable {α : Type} {buf xs ys : List α} {i : Nat} {x : α}

theorem within (front tail xs : List α) : LaidAt (front ++ xs ++ tail) front.length xs := by
  rw [LaidAt, List.append_assoc, List.drop_left]
  exact List.prefix_append xs tail

theorem append : LaidAt buf i (xs ++ ys) ↔ LaidAt buf i xs ∧ LaidAt buf (i + xs.length) ys := by
  unfold LaidAt
  constructor
  · rintro ⟨tail, h⟩
    rw [List.append_assoc] at h
    refine ⟨⟨ys ++ tail, h⟩, tail, ?_⟩
    rw [← List.drop_drop, ← h, List.drop_left]
  · rintro ⟨⟨rest, hx⟩, tail, hy⟩
    rw [← List.drop_drop, ← hx, List.drop_left] at hy
    exact ⟨tail, by rw [List.append_assoc, hy, hx]⟩

theorem cons : LaidAt buf i (x :: xs) ↔ LaidAt buf i [x] ∧ LaidAt buf (i + 1) xs := by
  rw [← List.singleton_append, append, List.length_singleton]

theorem getD (h : LaidAt buf i (x :: xs)) (d : α) : buf.getD i d = x := by
  obtain ⟨tail, h⟩ := h
  have hx : (buf.drop i).getD 0 d = x := by rw [← h]; rfl
  rwa [List.getD_eq_getElem?_getD, List.getElem?_drop, Nat.add_zero,
    ← List.getD_eq_getElem?_getD] at hx

theorem slice (h : LaidAt buf i xs) : (buf.drop i).take xs.length = xs := by
  obtain ⟨tail, h⟩ := h
  rw [← h, List.take_left]

end LaidAt

def readWhile {α : Type} (read : Nat → Option (α × Nat)) (enddata : Nat) :
    Nat → Nat → List α → Bool × List α
  | 0, _, acc => (true, acc)
  | fuel + 1, curdata, acc =>
      if curdata < enddata then
        match read curdata with
        | none => (false, acc)
        | some (a, next) => readWhile read enddata fuel next (acc ++ [a])
      else (true, acc)

theorem readWhile_laidAt {α β γ : Type} {read : Nat → Option (β × Nat)} {buf : List γ}
    {enc : α → List γ} {out : α → β} {enddata : Nat} {es : List α}
    (hread : ∀ e ∈ es, ∀ curdata, LaidAt buf curdata (enc e) →
      curdata + (enc e).length ≤ enddata → read curdata = some (out e, curdata + (enc e).length))
    (hpos : ∀ e ∈ es, 0 < (enc e).length) {fuel curdata : Nat} (acc : List β)
    (hlaid : LaidAt buf curdata (es.flatMap enc))
    (hend : curdata + (es.flatMap enc).length = enddata) (hfuel : es.length ≤ fuel) :
    readWhile read enddata fuel curdata acc = (true, acc ++ es.map out) := by
  induction es generalizing fuel curdata acc with
  | nil =>
    have hstop : ¬curdata < enddata := by simp at hend; omega
    cases fuel with
    | zero => simp [readWhile]
    | succ fuel => simp [readWhile, hstop]
  | cons e es ih =>
    rw [List.flatMap_cons] at hlaid hend
    rw [List.length_append] at hend
    obtain ⟨hhead, htail⟩ := LaidAt.append.mp hlaid
    have he := hpos e List.mem_cons_self
    have hstep := hread e List.mem_cons_self curdata hhead (by omega)
    obtain ⟨fuel, rfl⟩ : ∃ k, fuel = k + 1 := ⟨fuel - 1, by simp at hfuel; omega⟩
    simp only [readWhile, if_pos (show curdata < enddata by omega), hstep]
    rw [ih (fun d hd => hread d (List.mem_cons_of_mem e hd))
      (fun d hd => hpos d (List.mem_cons_of_mem e hd)) _ htail (by omega) (by simpa using hfuel)]
    simp

theorem readWhile_size {β : Type} (read : Nat → Option (β × Nat)) (size : β → Nat) {enddata : Nat}
    (hread : ∀ {curdata b next}, read curdata = some (b, next) →
      curdata + size b ≤ next ∧ next ≤ enddata) (fuel curdata : Nat) (acc : List β) :
    ∃ es, (readWhile read enddata fuel curdata acc).2 = acc ++ es ∧
      curdata + (es.map size).sum ≤ max curdata enddata := by
  induction fuel generalizing curdata acc with
  | zero => exact ⟨[], by simp [readWhile], Nat.le_max_left curdata enddata⟩
  | succ fuel ih =>
    simp only [readWhile]
    split
    · cases h : read curdata with
      | none => exact ⟨[], by simp, Nat.le_max_left curdata enddata⟩
      | some r =>
        obtain ⟨b, next⟩ := r
        obtain ⟨hnext, hle⟩ := hread h
        obtain ⟨es, hes, hsum⟩ := ih next (acc ++ [b])
        refine ⟨b :: es, by simpa using hes, ?_⟩
        rw [List.map_cons, List.sum_cons]
        omega
    · exact ⟨[], by simp, Nat.le_max_left curdata enddata⟩

theorem readWhile_forall {β : Type} {read : Nat → Option (β × Nat)} {enddata : Nat} {P : β → Prop}
    (start : Nat) (hread : ∀ {curdata b next}, start ≤ curdata → read curdata = some (b, next) →
      P b ∧ curdata ≤ next) (fuel : Nat) {curdata : Nat} {acc : List β} (hstart : start ≤ curdata)
    (hacc : ∀ b ∈ acc, P b) : ∀ b ∈ (readWhile read enddata fuel curdata acc).2, P b := by
  induction fuel generalizing curdata acc with
  | zero => exact hacc
  | succ fuel ih =>
    simp only [readWhile]
    split
    · cases h : read curdata with
      | none => exact hacc
      | some r =>
        obtain ⟨b, next⟩ := r
        obtain ⟨hb, hnext⟩ := hread hstart h
        refine ih (Nat.le_trans hstart hnext) ?_
        intro c hc
        rcases List.mem_append.mp hc with hc | hc
        · exact hacc c hc
        · rw [List.mem_singleton.mp hc]
          exact hb
    · exact hacc

theorem readWhile_done {β : Type} (read : Nat → Option (β × Nat)) {enddata curdata : Nat}
    (h : enddata ≤ curdata) (fuel : Nat) (acc : List β) :
    readWhile read enddata fuel curdata acc = (true, acc) := by
  cases fuel with
  | zero => rfl
  | succ fuel => rw [readWhile, if_neg (Nat.not_lt.mpr h)]

-- the slots of an array that the rounds of `readWhile` begin with, and the ones they end with
def slotsWhile {α : Type} (read : Nat → Option (α × Nat)) (enddata : Nat) :
    Nat → Nat → Nat → Bool × List Nat × List Nat
  | 0, _, _ => (true, [], [])
  | fuel + 1, curdata, count =>
      if curdata < enddata then
        match read curdata with
        | none => (false, [count], [])
        | some (_, next) =>
            let (done, begun, ended) := slotsWhile read enddata fuel next (count + 1)
            (done, count :: begun, count :: ended)
      else (true, [], [])

theorem slotsWhile_readWhile {α : Type} (read : Nat → Option (α × Nat)) (enddata fuel curdata : Nat)
    (acc : List α) :
    (slotsWhile read enddata fuel curdata acc.length).1 =
        (readWhile read enddata fuel curdata acc).1 ∧
      acc.length + (slotsWhile read enddata fuel curdata acc.length).2.2.length =
        (readWhile read enddata fuel curdata acc).2.length := by
  induction fuel generalizing curdata acc with
  | zero => exact ⟨rfl, rfl⟩
  | succ fuel ih =>
    simp only [slotsWhile, readWhile]
    split_ifs
    · cases read curdata with
      | none => exact ⟨rfl, rfl⟩
      | some r =>
        obtain ⟨hdone, hlength⟩ := ih r.2 (acc ++ [r.1])
        rw [List.length_append, List.length_singleton] at hdone hlength
        exact ⟨hdone, (Nat.add_right_comm acc.length _ 1).trans hlength⟩
    · exact ⟨rfl, rfl⟩

-- how many entries begin before `enddata`, where the one at `curdata` ends at `next curdata`
def entriesFrom (next : Nat → Nat) (enddata : Nat) : Nat → Nat → Nat
  | 0, _ => 0
  | fuel + 1, curdata =>
      if curdata < enddata then
        if next curdata ≤ enddata then entriesFrom next enddata fuel (next curdata) + 1 else 1
      else 0

theorem slotsWhile_entries {α : Type} {read : Nat → Option (α × Nat)} {next : Nat → Nat}
    {enddata : Nat} (hread : ∀ curdata,
      (read curdata).map Prod.snd = if next curdata ≤ enddata then some (next curdata) else none)
    (fuel curdata count : Nat) :
    (slotsWhile read enddata fuel curdata count).2.1 =
        List.range' count (entriesFrom next enddata fuel curdata) ∧
      (slotsWhile read enddata fuel curdata count).2.2 ⊆
        (slotsWhile read enddata fuel curdata count).2.1 := by
  induction fuel generalizing curdata count with
  | zero => exact ⟨rfl, List.Subset.refl _⟩
  | succ fuel ih =>
    have hnext := hread curdata
    simp only [slotsWhile, entriesFrom]
    split_ifs with hless hfits
    · rw [if_pos hfits] at hnext
      obtain ⟨r, hr, hr2⟩ := Option.map_eq_some_iff.mp hnext
      obtain ⟨hbegun, hended⟩ := ih (next curdata) (count + 1)
      rw [hr]
      simp only [hr2, hbegun, List.range'_succ]
      exact ⟨trivial, List.cons_subset_cons count (hbegun ▸ hended)⟩
    · rw [if_neg hfits, Option.map_eq_none_iff] at hnext
      rw [hnext]
      exact ⟨rfl, List.nil_subset _⟩
    · exact ⟨rfl, List.Subset.refl _⟩
