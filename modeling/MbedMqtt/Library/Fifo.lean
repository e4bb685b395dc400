import Mathlib.Data.List.Basic

structure Fifo (α : Type) where
  maxSize : Nat
  items : List α
  deriving DecidableEq, Repr

namespace Fifo

variable {α : Type} {q : Fifo α} {a : α} {as : List α}

def Room (q : Fifo α) (n : Nat) : Prop := q.maxSize = 0 ∨ q.items.length + n ≤ q.maxSize

instance (q : Fifo α) (n : Nat) : Decidable (q.Room n) :=
  inferInstanceAs (Decidable (q.maxSize = 0 ∨ q.items.length + n ≤ q.maxSize))

def post (q : Fifo α) (a : α) : Fifo α :=
  if q.Room 1 then { q with items := q.items ++ [a] } else q

def pop (q : Fifo α) : Fifo α := { q with items := q.items.tail }

def postAll (q : Fifo α) (as : List α) : Fifo α := as.foldl post q

@[simp] theorem post_maxSize (q : Fifo α) (a : α) : (q.post a).maxSize = q.maxSize := by
  unfold post
  split
  · rfl
  · rfl

theorem post_items (h : q.Room 1) : (q.post a).items = q.items ++ [a] := by
  rw [post, if_pos h]

theorem post_full (h : ¬q.Room 1) : q.post a = q := if_neg h

theorem post_cases (q : Fifo α) (a : α) : (q.post a).items = q.items ++ [a] ∨ q.post a = q := by
  unfold post
  split
  · exact .inl rfl
  · exact .inr rfl

@[simp] theorem postAll_nil (q : Fifo α) : q.postAll [] = q := rfl

theorem postAll_cons (q : Fifo α) (a : α) (as : List α) :
    q.postAll (a :: as) = (q.post a).postAll as := rfl

def free (q : Fifo α) (as : List α) : Nat :=
  if q.maxSize = 0 then as.length else q.maxSize - q.items.length

def accepted (q : Fifo α) (as : List α) : List α := as.take (q.free as)

def refused (q : Fifo α) (as : List α) : List α := as.drop (q.free as)

theorem accepted_append_refused (q : Fifo α) (as : List α) :
    q.accepted as ++ q.refused as = as := List.take_append_drop _ as

@[simp] theorem accepted_nil (q : Fifo α) : q.accepted [] = [] := List.take_nil

theorem accepted_full (h : ¬q.Room 1) : q.accepted as = [] := by
  simp only [Room, not_or] at h
  have hfree : q.free as = 0 := by
    rw [free, if_neg h.1]
    omega
  rw [accepted, hfree, List.take_zero]

theorem accepted_post (h : q.Room 1) : q.accepted (a :: as) = a :: (q.post a).accepted as := by
  have hfree : q.free (a :: as) = (q.post a).free as + 1 := by
    simp only [Room] at h
    simp only [free, post_maxSize, post_items h, List.length_cons, List.length_append,
      List.length_nil]
    split_ifs
    · rfl
    · omega
  rw [accepted, hfree, List.take_succ_cons, accepted]

theorem items_postAll (q : Fifo α) (as : List α) :
    (q.postAll as).items = q.items ++ q.accepted as := by
  induction as generalizing q with
  | nil => simp
  | cons a as ih =>
    rw [postAll_cons, ih]
    by_cases hroom : q.Room 1
    · rw [post_items hroom, accepted_post hroom, List.append_assoc, List.singleton_append]
    · rw [post_full hroom, accepted_full hroom, accepted_full hroom]

theorem accepted_room (h : q.Room as.length) : q.accepted as = as := by
  apply List.take_of_length_le
  simp only [Room] at h
  simp only [free]
  split_ifs
  · exact Nat.le_refl _
  · omega

theorem postAll_items (h : q.Room as.length) : (q.postAll as).items = q.items ++ as := by
  rw [items_postAll, accepted_room h]

@[simp] theorem postAll_maxSize (q : Fifo α) (as : List α) :
    (q.postAll as).maxSize = q.maxSize := by
  induction as generalizing q with
  | nil => rfl
  | cons a as ih => rw [postAll_cons, ih, post_maxSize]

theorem Room.mono {p : Fifo α} {n : Nat} (hmax : p.maxSize = q.maxSize)
    (hlen : p.items.length ≤ q.items.length) (h : q.Room n) : p.Room n := by
  simp only [Room] at h ⊢
  omega

theorem mem_post {b : α} (h : b ∈ q.items) : b ∈ (q.post a).items := by
  rcases post_cases q a with hpost | hpost
  · rw [hpost]
    exact List.mem_append_left _ h
  · rwa [hpost]

theorem mem_postAll {b : α} (h : b ∈ q.items) : b ∈ (q.postAll as).items := by
  rw [items_postAll]
  exact List.mem_append_left _ h

theorem head_mem_postAll (h : q.Room 1) : a ∈ (q.postAll (a :: as)).items := by
  rw [postAll_cons]
  apply mem_postAll
  simp [post_items h]

def Bounded (q : Fifo α) : Prop := q.maxSize = 0 ∨ q.items.length ≤ q.maxSize

theorem Bounded.post (h : q.Bounded) : (q.post a).Bounded := by
  by_cases hroom : q.Room 1
  · simp only [Room] at hroom
    simp only [Bounded, post_maxSize, post_items hroom, List.length_append, List.length_singleton]
    exact hroom
  · rwa [post_full hroom]

theorem Bounded.postAll (h : q.Bounded) : (q.postAll as).Bounded := by
  induction as generalizing q with
  | nil => exact h
  | cons a as ih => exact ih h.post

theorem Bounded.pop (h : q.Bounded) : q.pop.Bounded := by
  simp only [Bounded, Fifo.pop, List.length_tail] at h ⊢
  omega

theorem Bounded.room_pop (h : q.Bounded) (hne : q.items ≠ []) : q.pop.Room 1 := by
  have hpos := List.length_pos_of_ne_nil hne
  simp only [Bounded, Room, Fifo.pop, List.length_tail] at h ⊢
  omega

end Fifo
