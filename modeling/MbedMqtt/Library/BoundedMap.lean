import Mathlib.Data.Finmap

structure BoundedMap (α β : Type) (n : Nat) where
  map : Finmap fun _ : α => β
  bounded : map.keys.card ≤ n

namespace BoundedMap

variable {α β : Type} [DecidableEq α] {n : Nat}

def empty : BoundedMap α β n := ⟨∅, Nat.zero_le n⟩

theorem card_insert_le {m : Finmap fun _ : α => β} {k : α} {v : β} (hm : m.keys.card ≤ n)
    (h : k ∈ m ∨ m.keys.card < n) : (m.insert k v).keys.card ≤ n := by
  have hkeys : (m.insert k v).keys = insert k m.keys := by
    ext a
    rw [Finmap.mem_keys, Finmap.mem_insert, Finset.mem_insert, Finmap.mem_keys]
  rw [hkeys]
  rcases h with hk | hroom
  · rwa [Finset.insert_eq_of_mem (Finmap.mem_keys.mpr hk)]
  · exact (Finset.card_insert_le k m.keys).trans hroom

theorem card_erase_le {m : Finmap fun _ : α => β} (k : α) (hm : m.keys.card ≤ n) :
    (m.erase k).keys.card ≤ n := by
  rw [Finmap.keys_erase]
  exact (Finset.card_erase_le).trans hm

def set (m : BoundedMap α β n) (k : α) (v : β) : Bool × BoundedMap α β n :=
  if h : k ∈ m.map ∨ m.map.keys.card < n then
    (true, ⟨m.map.insert k v, card_insert_le m.bounded h⟩)
  else (false, m)

def remove (m : BoundedMap α β n) (k : α) : Bool × BoundedMap α β n :=
  if k ∈ m.map then (true, ⟨m.map.erase k, card_erase_le k m.bounded⟩) else (false, m)

end BoundedMap
