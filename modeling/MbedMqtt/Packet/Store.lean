import MbedMqtt.Library.Layout
import MbedMqtt.Packet.Wire

namespace MbedMqtt

variable {buf other xs ys : Bytes} {i j n : Nat}

theorem store_nil (buf : Bytes) (i : Nat) : store buf i [] = buf := by
  simp [store]

theorem store_length {buf bytes : Bytes} {i : Nat} (h : i + bytes.length ≤ buf.length) :
    (store buf i bytes).length = buf.length := by
  simp only [store, List.length_append, List.length_take, List.length_drop]
  omega

theorem store_store {buf : Bytes} {i : Nat} (h : i ≤ buf.length) (a b : Bytes) :
    store (store buf i a) (i + a.length) b = store buf i (a ++ b) := by
  have hfront : (buf.take i).length = i := by simp [h]
  have hi : i + a.length = (buf.take i ++ a).length := by simp [h]
  conv_lhs => rw [hi, store.eq_def buf i a]
  rw [store_append]
  simp [store, List.drop_drop, Nat.add_assoc]

theorem byteAt_store {buf : Bytes} {i : Nat} (h : 0 < i) (hlen : 0 < buf.length) (bytes : Bytes) :
    byteAt (store buf i bytes) 0 = byteAt buf 0 := by
  obtain ⟨i, rfl⟩ : ∃ k, i = k + 1 := ⟨i - 1, by omega⟩
  cases buf with
  | nil => simp at hlen
  | cons b bs => simp [store, byteAt]

theorem store_take (h : n ≤ i) (hi : i ≤ buf.length) : (store buf i xs).take n = buf.take n := by
  have hfront : n ≤ (buf.take i).length := by rw [List.length_take_of_le hi]; exact h
  rw [store, List.append_assoc, List.take_append_of_le_length hfront, List.take_take,
    Nat.min_eq_left h]

theorem store_drop (h : i + xs.length ≤ n) (hi : i ≤ buf.length) :
    (store buf i xs).drop n = buf.drop n := by
  obtain ⟨k, rfl⟩ := Nat.exists_eq_add_of_le h
  have hfront : (buf.take i ++ xs).length = i + xs.length := by
    rw [List.length_append, List.length_take_of_le hi]
  rw [store, ← hfront, ← List.drop_drop, List.drop_left, hfront, List.drop_drop]

theorem laidAt_store (hi : i ≤ buf.length) : LaidAt (store buf i xs) i xs := by
  have h := LaidAt.within (buf.take i) (buf.drop (i + xs.length)) xs
  rwa [List.length_take_of_le hi] at h

theorem laidAt_iff : LaidAt buf i xs ↔ (buf.drop i).take xs.length = xs := by
  rw [LaidAt, List.prefix_iff_eq_take]
  exact eq_comm

theorem store_of_laidAt (h : LaidAt buf i xs) : store buf i xs = buf := by
  have hxs : (buf.drop i).take xs.length = xs := laidAt_iff.mp h
  calc store buf i xs
      = buf.take i ++ ((buf.drop i).take xs.length ++ (buf.drop i).drop xs.length) := by
        rw [store, List.append_assoc, hxs, List.drop_drop]
    _ = buf := by rw [List.take_append_drop, List.take_append_drop]

theorem laidAt_congr (hsame : buf.take (i + xs.length) = other.take (i + xs.length))
    (h : LaidAt buf i xs) : LaidAt other i xs := by
  have hslice (l : Bytes) : (l.take (i + xs.length)).drop i = (l.drop i).take xs.length := by
    rw [List.drop_take, Nat.add_sub_cancel_left]
  rw [laidAt_iff, ← hslice] at h ⊢
  rw [← hsame]
  exact h

theorem laidAt_before_store (h : LaidAt buf j ys) (hj : j + ys.length ≤ i) (hi : i ≤ buf.length) :
    LaidAt (store buf i xs) j ys :=
  laidAt_congr (store_take hj hi).symm h

theorem laidAt_after_store (h : LaidAt buf j ys) (hj : i + xs.length ≤ j) (hi : i ≤ buf.length) :
    LaidAt (store buf i xs) j ys := by
  rw [LaidAt, store_drop hj hi]
  exact h

end MbedMqtt
