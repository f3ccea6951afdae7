import Mathlib.Data.List.Sort
import Mathlib.Order.Interval.Set.Disjoint
import Mathlib.Order.CompletePartialOrder

/-!
# Intervals that are taken greedily

Intervals come in the order of their starts, and one is taken when it starts after the end of the
last one taken.  Those taken lie apart (`pairwise_takeApart`), and every one of them all starts
within one taken (`exists_takeApart_covers`).
-/

namespace Intervals

variable {ι τ : Type} [LinearOrder τ]

/-- The open intervals of two items meet, on a dense line. -/
def Overlap {κ : Type} (start finish : ι → τ) (start' finish' : κ → τ) (a : ι) (b : κ) : Prop :=
  max (start a) (start' b) < min (finish a) (finish' b)

/-- Items that do not overlap have no moment strictly inside both. -/
theorem disjoint_of_not_overlap {κ : Type} {start finish : ι → τ} {start' finish' : κ → τ} {a : ι}
    {b : κ} (h : ¬Overlap start finish start' finish' a b) :
    Disjoint (Set.Ioo (start a) (finish a)) (Set.Ioo (start' b) (finish' b)) := by
  rw [Set.disjoint_left]
  rintro t ⟨ha, ha'⟩ ⟨hb, hb'⟩
  exact h ((max_lt ha hb).trans (lt_min ha' hb'))

/-- The items that start after the end of the last one taken. -/
def takeApart (start finish : ι → τ) : Option τ → List ι → List ι
  | _, [] => []
  | last, item :: items =>
    if last.any (start item ≤ ·) then takeApart start finish last items
    else item :: takeApart start finish (some (finish item)) items

variable {start finish : ι → τ} {last : Option τ} {items : List ι}

theorem takeApart_sublist : (takeApart start finish last items).Sublist items := by
  induction items generalizing last with
  | nil => exact List.Sublist.refl _
  | cons item items ih =>
    unfold takeApart
    split_ifs
    · exact ih.cons item
    · exact ih.cons_cons item

theorem lt_start_of_mem_takeApart (hlength : ∀ item ∈ items, start item ≤ finish item) {t : τ} :
    ∀ item ∈ takeApart start finish (some t) items, t < start item := by
  induction items generalizing t with
  | nil => exact fun item hitem => absurd hitem List.not_mem_nil
  | cons item items ih =>
    obtain ⟨hitem, hitems⟩ := List.forall_mem_cons.mp hlength
    unfold takeApart
    split_ifs with hlast
    · exact ih hitems
    · have hlt : t < start item := by simpa using hlast
      refine List.forall_mem_cons.mpr ⟨hlt, ?_⟩
      intro item' hitem'
      exact (hlt.trans_le hitem).trans (ih hitems item' hitem')

/-- Those taken lie one after another. -/
theorem pairwise_takeApart (hlength : ∀ item ∈ items, start item ≤ finish item) :
    (takeApart start finish last items).Pairwise fun a b => finish a < start b := by
  induction items generalizing last with
  | nil => exact List.Pairwise.nil
  | cons item items ih =>
    have hitems := (List.forall_mem_cons.mp hlength).2
    unfold takeApart
    split_ifs
    · exact ih hitems
    · exact List.pairwise_cons.mpr ⟨lt_start_of_mem_takeApart hitems, ih hitems⟩

/-- An item starts within one taken, or before the end of the last one taken before them all. -/
theorem takeApart_covers (last : Option τ) (hsorted : items.Pairwise fun a b => start a ≤ start b)
    (hlength : ∀ item ∈ items, start item ≤ finish item) :
    ∀ item ∈ items, last.any (start item ≤ ·) = true ∨ ∃ taken ∈ takeApart start finish last items,
        start taken ≤ start item ∧ start item ≤ finish taken := by
  induction items generalizing last with
  | nil => exact fun item hitem => absurd hitem List.not_mem_nil
  | cons head items ih =>
    obtain ⟨hhead, hitems⟩ := List.pairwise_cons.mp hsorted
    obtain ⟨hlong, hlengths⟩ := List.forall_mem_cons.mp hlength
    intro item hitem
    unfold takeApart
    split_ifs with hlast
    · rcases List.mem_cons.mp hitem with rfl | hmem
      · exact .inl hlast
      · exact ih last hitems hlengths item hmem
    · right
      rcases List.mem_cons.mp hitem with rfl | hmem
      · exact ⟨item, List.mem_cons_self, le_rfl, hlong⟩
      · rcases ih (some (finish head)) hitems hlengths item hmem with hwithin | htaken
        · exact ⟨head, List.mem_cons_self, hhead item hmem, by simpa using hwithin⟩
        · obtain ⟨taken, htaken, hcovers⟩ := htaken
          exact ⟨taken, List.mem_cons_of_mem _ htaken, hcovers⟩

/-- Every item starts within one taken. -/
theorem exists_takeApart_covers (hsorted : items.Pairwise fun a b => start a ≤ start b)
    (hlength : ∀ item ∈ items, start item ≤ finish item) {item : ι} (hitem : item ∈ items) :
    ∃ taken ∈ takeApart start finish none items,
      start taken ≤ start item ∧ start item ≤ finish taken :=
  (takeApart_covers none hsorted hlength item hitem).resolve_left Bool.false_ne_true

theorem takeApart_cons (last : Option τ) (item : ι) (items : List ι) :
    takeApart start finish last (item :: items) =
      if last.any (start item ≤ ·) then takeApart start finish last items
      else item :: takeApart start finish (some (finish item)) items := rfl

/-- Where the items of a part lie apart from the others, those of them that are taken are taken from
the part alone. -/
theorem filter_takeApart (p : ι → Bool) {last' : Option τ}
    (hapart : items.Pairwise fun a b => p a ≠ p b → finish a < start b)
    (hlength : ∀ item ∈ items, start item ≤ finish item)
    (hlast : ∀ item ∈ items, p item = true →
      last.any (start item ≤ ·) = last'.any (start item ≤ ·)) :
    (takeApart start finish last items).filter p =
      takeApart start finish last' (items.filter p) := by
  induction items generalizing last last' with
  | nil => rfl
  | cons head items ih =>
    obtain ⟨hhead, hitems⟩ := List.pairwise_cons.mp hapart
    obtain ⟨hlong, hlengths⟩ := List.forall_mem_cons.mp hlength
    obtain ⟨hfirst, hlater⟩ := List.forall_mem_cons.mp hlast
    rw [List.filter_cons, takeApart_cons]
    -- an item of the part is taken, or lies within the last one
    by_cases hp : p head = true
    · rw [if_pos hp, takeApart_cons, hfirst hp]
      split_ifs with hwithin
      · exact ih hitems hlengths hlater
      · rw [List.filter_cons, if_pos hp, ih hitems hlengths fun _ _ _ => rfl]
    · rw [if_neg hp]
      split_ifs with hwithin
      · exact ih hitems hlengths hlater
      · rw [List.filter_cons, if_neg hp]
        refine ih hitems hlengths ?_
        -- what another part takes ends before the items of this one
        intro item hitem hpart
        have hlt : finish head < start item := by
          refine hhead item hitem ?_
          rw [hpart]
          exact hp
        rw [← hlater item hitem hpart, Option.any_some, decide_eq_false hlt.not_ge]
        cases hlast' : last with
        | none => rfl
        | some t =>
          rw [hlast'] at hwithin
          have hbefore : t < start head := by simpa using hwithin
          have hend : t < start item := (hbefore.trans_le hlong).trans hlt
          simp [hend]

end Intervals
