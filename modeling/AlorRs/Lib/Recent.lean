import Mathlib.Data.List.DropRight
import Mathlib.Data.List.Infix

/-!
# The recent entries that count

Of a list that grows at its end, a reader sees only a part at the end.  When that part holds the
last `k` entries that satisfy `p`, or all of them, it is as good as the list (`Covers`).
-/

namespace Recent

variable {V : Type} {p : V → Bool} {k : ℕ} {seen all : List V}

/-- The end of a list that holds all or at least `k` of the entries that satisfy `p`. -/
structure Covers (p : V → Bool) (k : ℕ) (seen all : List V) : Prop where
  suffix : seen <:+ all
  enough : min k (all.filter p).length ≤ (seen.filter p).length

/-- The last entries of a list are those of an end that holds all or enough of it. -/
theorem rtake_of_suffix (h : seen <:+ all) (henough : min k all.length ≤ seen.length) :
    seen.rtake k = all.rtake k := by
  obtain ⟨before, rfl⟩ := h
  rw [List.length_append] at henough
  unfold List.rtake
  by_cases hk : k ≤ seen.length
  · have hdrop : (before ++ seen).length - k = before.length + (seen.length - k) := by
      rw [List.length_append]
      omega
    rw [hdrop, List.drop_append]
    simp
  · have hnil : before = [] := List.eq_nil_of_length_eq_zero (by omega)
    rw [hnil, List.nil_append]

/-- New entries take the place of the oldest of the last ones. -/
theorem rtake_append {new : List V} (h : new.length ≤ k) :
    (all ++ new).rtake k = all.rtake (k - new.length) ++ new := by
  unfold List.rtake
  have hdrop : (all ++ new).length - k = all.length - (k - new.length) := by
    rw [List.length_append]
    omega
  rw [hdrop, List.drop_append_of_le_length (Nat.sub_le ..)]

theorem length_rtake (all : List V) (k : ℕ) : (all.rtake k).length = min k all.length := by
  unfold List.rtake
  rw [List.length_drop]
  omega

/-- The last of the entries that count can be seen. -/
theorem Covers.rtake_filter (h : Covers p k seen all) :
    (seen.filter p).rtake k = (all.filter p).rtake k :=
  rtake_of_suffix (h.suffix.filter p) h.enough

/-- Whether there are up to `k` entries that count can be seen. -/
theorem Covers.le_length_iff (h : Covers p k seen all) {m : ℕ} (hm : m ≤ k) :
    m ≤ (seen.filter p).length ↔ m ≤ (all.filter p).length := by
  have hle : (seen.filter p).length ≤ (all.filter p).length := (h.suffix.filter p).length_le
  have henough := h.enough
  omega

/-- A new entry can be seen. -/
theorem Covers.concat (h : Covers p k seen all) (v : V) : Covers p k (seen ++ [v]) (all ++ [v]) := by
  refine ⟨?_, ?_⟩
  · obtain ⟨before, rfl⟩ := h.suffix
    exact ⟨before, by rw [List.append_assoc]⟩
  · have henough := h.enough
    rw [List.filter_append, List.filter_append, List.length_append, List.length_append]
    omega

end Recent
