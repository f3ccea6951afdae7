import AlorRs.Lib.Sorting
import Mathlib.Data.List.Nodup

/-!
# Items that are reported once

Items come again and again, and one is reported when its key is not known yet.  A key is reported at
most once (`nodup_knownAfter`), and every key that came is known afterwards (`key_mem_knownAfter`).
Items that are sorted before are reported as if they were afterwards (`reports_insertionSort`).
-/

namespace Reports

variable {α κ : Type} [DecidableEq κ] {key : α → κ} {known : List κ} {items : List α} {item : α}

/-- The items whose keys are new, where some keys are known. -/
def reports (key : α → κ) : List κ → List α → List α
  | _, [] => []
  | known, item :: items =>
    if known.contains (key item) then reports key known items
    else item :: reports key (key item :: known) items

theorem reports_sublist : (reports key known items).Sublist items := by
  induction items generalizing known with
  | nil => exact List.Sublist.refl _
  | cons item items ih =>
    unfold reports
    split_ifs
    · exact ih.cons item
    · exact ih.cons_cons item

def knownAfter (key : α → κ) (known : List κ) (items : List α) : List κ :=
  ((reports key known items).map key).reverse ++ known

theorem knownAfter_cons (known : List κ) (item : α) (items : List α) :
    knownAfter key known (item :: items) =
      if known.contains (key item) then knownAfter key known items
      else knownAfter key (key item :: known) items := by
  unfold knownAfter
  rw [reports]
  split_ifs
  · rfl
  · rw [List.map_cons, List.reverse_cons, List.append_assoc]
    rfl

theorem mem_knownAfter {k : κ} : k ∈ known → k ∈ knownAfter key known items :=
  List.mem_append_right _

/-- Every key that came is known. -/
theorem key_mem_knownAfter (h : item ∈ items) : key item ∈ knownAfter key known items := by
  induction items generalizing known with
  | nil => exact absurd h List.not_mem_nil
  | cons head items ih =>
    rw [knownAfter_cons]
    split_ifs with hknown
    · rcases List.mem_cons.mp h with rfl | hmem
      · exact mem_knownAfter (by simpa using hknown)
      · exact ih hmem
    · rcases List.mem_cons.mp h with rfl | hmem
      · exact mem_knownAfter List.mem_cons_self
      · exact ih hmem

/-- A key that came and was not known is reported. -/
theorem exists_mem_reports (h : item ∈ items) (hnew : key item ∉ known) :
    ∃ reported ∈ reports key known items, key reported = key item := by
  have hafter : key item ∈ knownAfter key known items := key_mem_knownAfter h
  rcases List.mem_append.mp hafter with hreported | hknown
  · obtain ⟨reported, hmem, heq⟩ := List.mem_map.mp (List.mem_reverse.mp hreported)
    exact ⟨reported, hmem, heq⟩
  · exact absurd hknown hnew

/-- What is reported was not known. -/
theorem key_notMem_of_mem_reports (h : item ∈ reports key known items) : key item ∉ known := by
  induction items generalizing known with
  | nil => exact absurd h List.not_mem_nil
  | cons head items ih =>
    unfold reports at h
    split_ifs at h with hknown
    · exact ih h
    · rcases List.mem_cons.mp h with rfl | hmem
      · simpa using hknown
      · exact fun hold => ih hmem (List.mem_cons_of_mem _ hold)

theorem nodup_knownAfter (h : known.Nodup) : (knownAfter key known items).Nodup := by
  induction items generalizing known with
  | nil => exact h
  | cons head items ih =>
    rw [knownAfter_cons]
    split_ifs with hknown
    · exact ih h
    · exact ih (List.nodup_cons.mpr ⟨by simpa using hknown, h⟩)

theorem nodup_map_reports : ((reports key [] items).map key).Nodup := by
  have hnodup : (knownAfter key [] items).Nodup := nodup_knownAfter List.nodup_nil
  simpa [knownAfter] using hnodup

/-- Only what the known keys are matters. -/
theorem reports_congr {known' : List κ} (h : ∀ k, k ∈ known ↔ k ∈ known') :
    reports key known items = reports key known' items := by
  induction items generalizing known known' with
  | nil => rfl
  | cons item items ih =>
    have hcons : ∀ k, k ∈ key item :: known ↔ k ∈ key item :: known' := by simp [h]
    simp only [reports, List.contains_iff_mem, h, ih h, ih hcons]

theorem reports_append (items' : List α) :
    reports key known (items ++ items') =
      reports key known items ++ reports key (knownAfter key known items) items' := by
  induction items generalizing known with
  | nil => rfl
  | cons item items ih =>
    rw [List.cons_append, knownAfter_cons, reports, reports]
    split_ifs
    · exact ih
    · exact congrArg (item :: ·) ih

/-- Items with keys of their own, none of which is known, are all reported. -/
theorem reports_eq_self (h : (items.map key ++ known).Nodup) : reports key known items = items := by
  induction items generalizing known with
  | nil => rfl
  | cons item items ih =>
    obtain ⟨hnew, hrest⟩ := List.nodup_cons.mp h
    have hknown : ¬known.contains (key item) := by
      simpa using fun hmem => hnew (List.mem_append_right _ hmem)
    rw [reports, if_neg hknown, ih (List.nodup_middle.mpr h)]

/-- Nothing is reported when all keys are known. -/
theorem reports_eq_nil (h : ∀ item ∈ items, key item ∈ known) : reports key known items = [] :=
  List.eq_nil_iff_forall_not_mem.mpr fun item hmem =>
    key_notMem_of_mem_reports hmem (h item (reports_sublist.subset hmem))

section Sorted

variable {r : α → α → Prop} [DecidableRel r] [IsTrans α r] (hkey : ∀ {a b}, key a = key b → r a b)
include hkey

theorem reports_orderedInsert (a : α) (h : items.Pairwise r) :
    reports key known (items.orderedInsert r a) =
      if known.contains (key a) then reports key known items
      else (reports key (key a :: known) items).orderedInsert r a := by
  induction items generalizing known with
  | nil => rfl
  | cons b items ih =>
    obtain ⟨hb, hitems⟩ := List.pairwise_cons.mp h
    by_cases hab : r a b
    · have hfirst : ∀ c ∈ reports key (key a :: known) (b :: items), r a c := by
        intro c hmem
        rcases List.mem_cons.mp (reports_sublist.subset hmem) with rfl | hmem
        · exact hab
        · exact IsTrans.trans _ _ _ hab (hb c hmem)
      rw [List.orderedInsert_cons_of_le r items hab, Sorting.orderedInsert_of_forall hfirst, reports]
    · -- the keys differ, as an item does not come before another one with its key
      have hne : key b ≠ key a := fun heq => hab (hkey heq.symm)
      have hswap : reports key (key a :: key b :: known) items =
          reports key (key b :: key a :: known) items :=
        reports_congr fun k => (List.Perm.swap ..).mem_iff
      rw [List.orderedInsert_of_not_le r items hab]
      simp only [reports, ih hitems, List.contains_cons, beq_false_of_ne hne, Bool.false_or, hswap,
        beq_false_of_ne hne.symm]
      split_ifs
      · rfl
      · rfl
      · rfl
      · rw [List.orderedInsert_of_not_le r _ hab]

/-- The first ones of the sorted items are the first ones of the items, sorted. -/
theorem reports_insertionSort [Std.Total r] (items : List α) :
    reports key known (items.insertionSort r) = (reports key known items).insertionSort r := by
  induction items generalizing known with
  | nil => rfl
  | cons a items ih =>
    rw [List.insertionSort_cons, reports_orderedInsert hkey a (List.pairwise_insertionSort r items),
      reports, ih, ih]
    split_ifs <;> rfl

end Sorted

end Reports
