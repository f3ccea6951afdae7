import Mathlib.Data.List.Sort

/-!
# Parts of a sorted list

Insertion sort is stable: a part of a list that is sorted is that part of the list, sorted
(`filter_insertionSort`).
-/

namespace Sorting

variable {α : Type} {r : α → α → Prop} [DecidableRel r]

/-- What comes before all items goes in front of them. -/
theorem orderedInsert_of_forall {a : α} {items : List α} (h : ∀ b ∈ items, r a b) :
    items.orderedInsert r a = a :: items := by
  cases items with
  | nil => rfl
  | cons b items => exact List.orderedInsert_cons_of_le r items (h b List.mem_cons_self)

variable [IsTrans α r] (p : α → Bool)

theorem filter_orderedInsert (a : α) {items : List α} (h : items.Pairwise r) :
    (items.orderedInsert r a).filter p =
      if p a then (items.filter p).orderedInsert r a else items.filter p := by
  induction items with
  | nil => simp [List.filter_cons]
  | cons b items ih =>
    obtain ⟨hb, hitems⟩ := List.pairwise_cons.mp h
    by_cases hab : r a b
    · -- what comes after `a` in the list does so in its part
      have hfirst : ∀ c ∈ (b :: items).filter p, r a c := by
        intro c hmem
        rcases List.mem_cons.mp (List.mem_of_mem_filter hmem) with rfl | hmem
        · exact hab
        · exact IsTrans.trans _ _ _ hab (hb c hmem)
      rw [List.orderedInsert_cons_of_le r items hab, orderedInsert_of_forall hfirst, List.filter_cons]
    · rw [List.orderedInsert_of_not_le r items hab, List.filter_cons, ih hitems, List.filter_cons]
      split_ifs
      · rw [List.orderedInsert_of_not_le r _ hab]
      all_goals rfl

/-- A part of a list that is sorted is the part, sorted. -/
theorem filter_insertionSort [Std.Total r] (items : List α) :
    (items.insertionSort r).filter p = (items.filter p).insertionSort r := by
  induction items with
  | nil => rfl
  | cons a items ih =>
    rw [List.insertionSort_cons, filter_orderedInsert p a (List.pairwise_insertionSort r items), ih,
      List.filter_cons]
    split_ifs <;> rfl

end Sorting
