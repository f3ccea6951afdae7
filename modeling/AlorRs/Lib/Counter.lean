import Mathlib.Algebra.BigOperators.Group.List.Basic
import Mathlib.Data.List.AList
import Mathlib.Tactic.Ring

/-!
# Counters by key

A map from keys to counts, in which a key that is absent counts zero.  One more of a key adds one to
its count and to each total that it belongs to (`count_bump`, `totalOf_bump`).
-/

abbrev Counter (K : Type) : Type := AList fun _ : K => ℕ

namespace Counter

variable {K : Type} [DecidableEq K] (m : Counter K) (p : K → Bool) (key : K)

def count : ℕ := (m.lookup key).getD 0

def bump : Counter K := m.insert key (m.count key + 1)

/-- The counts of the keys with a property, in all. -/
def totalOf : ℕ :=
  ((m.entries.filter fun entry => p entry.1).map fun entry => entry.2).sum

theorem count_insert (key' : K) (n : ℕ) :
    count (m.insert key n) key' = if key' = key then n else m.count key' := by
  unfold count
  split_ifs with h
  · rw [h, AList.lookup_insert]
    rfl
  · rw [AList.lookup_insert_ne h]

theorem count_bump (key' : K) :
    (m.bump key).count key' = m.count key' + if key' = key then 1 else 0 := by
  unfold bump
  rw [count_insert]
  split_ifs with h
  · rw [h]
  · rfl

/-- What a key leaves when it is taken out of a list of entries. -/
theorem sum_filter_kerase (entries : List (Sigma fun _ : K => ℕ)) :
    ((entries.filter fun entry => p entry.1).map fun entry => entry.2).sum =
      (if p key then (entries.dlookup key).getD 0 else 0) +
        (((entries.kerase key).filter fun entry => p entry.1).map fun entry => entry.2).sum := by
  induction entries with
  | nil => simp
  | cons entry entries ih =>
    by_cases hkey : key = entry.1
    · subst hkey
      rw [List.kerase_cons_eq rfl, List.dlookup_cons_eq]
      by_cases hp : p entry.1 = true <;> simp [hp]
    · rw [List.kerase_cons_ne hkey, List.dlookup_cons_ne _ _ hkey]
      by_cases hp : p entry.1 = true
      · simp only [List.filter_cons, hp, if_true, List.map_cons, List.sum_cons, ih]
        omega
      · simp only [List.filter_cons, hp, if_false, ih, Bool.false_eq_true]

theorem totalOf_bump : (m.bump key).totalOf p = m.totalOf p + if p key then 1 else 0 := by
  have hsplit := sum_filter_kerase p key m.entries
  have hentries : (m.bump key).entries = ⟨key, m.count key + 1⟩ :: m.entries.kerase key := rfl
  have hcount : m.count key = (m.entries.dlookup key).getD 0 := rfl
  unfold totalOf
  rw [hentries, hsplit, hcount]
  by_cases hp : p key = true
  · simp only [List.filter_cons, hp, if_true, List.map_cons, List.sum_cons]
    omega
  · simp only [List.filter_cons, hp, if_false, Bool.false_eq_true]
    omega

end Counter
