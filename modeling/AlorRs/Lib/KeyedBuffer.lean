import Mathlib.Algebra.BigOperators.Group.Multiset.Basic
import Mathlib.Data.List.AList

/-!
# Buffers of items by key

A buffer holds lists of items under keys: items are pushed one at a time and all items of a key
are taken at once.  `held` is the multiset of everything in it, and what is pushed and taken
accounts for its changes (`held_push`, `held_erase`).
-/

abbrev KeyedBuffer (K A : Type) := AList fun _ : K => List A

namespace KeyedBuffer

variable {K A : Type} [DecidableEq K] (buffer : KeyedBuffer K A) (key : K)

def items : List A := (buffer.lookup key).getD []

def push (item : A) : KeyedBuffer K A :=
  buffer.insert key (buffer.items key ++ [item])

/-- All items of the buffer. -/
def held : Multiset A :=
  (buffer.entries.map fun entry => (entry.2 : Multiset A)).sum

/-- Taking out a key splits the sum, whatever the order of the entries. -/
theorem sum_kerase (entries : List (Sigma fun _ : K => List A)) :
    (entries.map fun entry => (entry.2 : Multiset A)).sum =
      (((entries.dlookup key).getD [] : List A) : Multiset A) +
        ((entries.kerase key).map fun entry => (entry.2 : Multiset A)).sum := by
  induction entries with
  | nil => rfl
  | cons entry entries ih =>
    rcases entry with ⟨key', items⟩
    by_cases h : key = key'
    · subst h
      have herase : List.kerase key (⟨key, items⟩ :: entries) = entries := List.kerase_cons_eq rfl
      rw [List.dlookup_cons_eq, herase]
      rfl
    · rw [List.dlookup_cons_ne _ _ h, List.kerase_cons_ne h, List.map_cons, List.sum_cons, ih,
        List.map_cons, List.sum_cons, add_left_comm]

theorem held_erase : buffer.held = (buffer.items key : Multiset A) + held (buffer.erase key) :=
  sum_kerase key buffer.entries

theorem held_insert (items : List A) :
    held (buffer.insert key items) = (items : Multiset A) + held (buffer.erase key) := by
  unfold held
  rw [AList.entries_insert, List.map_cons, List.sum_cons]
  rfl

theorem held_push (item : A) : held (buffer.push key item) = item ::ₘ buffer.held := by
  rw [push, held_insert, held_erase buffer key, ← Multiset.coe_add, add_right_comm, add_comm,
    Multiset.coe_singleton, Multiset.singleton_add]

theorem mem_push {buffer : KeyedBuffer K A} {key key' : K} {item : A} :
    key' ∈ buffer.push key item ↔ key' = key ∨ key' ∈ buffer := AList.mem_insert _

theorem items_push (key' : K) (item : A) :
    (buffer.push key item).items key' =
      if key' = key then buffer.items key ++ [item] else buffer.items key' := by
  unfold push items
  split
  · next h => rw [h, AList.lookup_insert]; rfl
  · next h => rw [AList.lookup_insert_ne h]

theorem items_erase (key' : K) :
    items (buffer.erase key) key' = if key' = key then [] else buffer.items key' := by
  unfold items
  split
  · next h => rw [h, AList.lookup_erase]; rfl
  · next h => rw [AList.lookup_erase_ne h]

end KeyedBuffer
