import Mathlib.Data.List.SplitBy

/-!
# Lists that are cut

`List.splitBy` cuts a list where neighbours are not related.  One more value belongs to the last run or
begins one (`splitBy_concat`).  A list cut at the last occurrence of a separator is determined by the
whole (`append_sep_inj`).
-/

namespace Separated

variable {α : Type*} {c : α}

/-- What stands before and after the last separator is determined by the list. -/
theorem append_sep_inj {a a' b b' : List α} (hb : c ∉ b) (hb' : c ∉ b')
    (h : a ++ c :: b = a' ++ c :: b') : a = a' ∧ b = b' := by
  rcases List.append_eq_append_iff.mp h with ⟨m, ha, hm⟩ | ⟨m, ha, hm⟩
  · cases m with
    | nil =>
      rw [List.append_nil] at ha
      exact ⟨ha.symm, (List.cons.inj hm).2⟩
    | cons x m =>
      have htail := (List.cons.inj hm).2
      exact absurd (htail ▸ List.mem_append_right m (List.mem_cons_self ..)) hb
  · cases m with
    | nil =>
      rw [List.append_nil] at ha
      exact ⟨ha, (List.cons.inj hm).2.symm⟩
    | cons x m =>
      have htail := (List.cons.inj hm).2
      exact absurd (htail ▸ List.mem_append_right m (List.mem_cons_self ..)) hb'

end Separated

namespace Runs

variable {α : Type*} {r : α → α → Bool} {values run : List α} {runs : List (List α)} {last value : α}

theorem splitBy_concat_of_rel (h : values.splitBy r = runs ++ [run]) (hlast : run.getLast? = some last)
    (hrel : r last value = true) : (values ++ [value]).splitBy r = runs ++ [run ++ [value]] := by
  obtain ⟨hvalues, hnil, hchain, hcuts⟩ := List.splitBy_eq_iff.mp h
  have hne : run ≠ [] := by
    rintro rfl
    exact (nomatch hlast)
  refine List.splitBy_eq_iff.mpr ⟨?_, ?_, ?_, ?_⟩
  · rw [hvalues]
    simp
  · intro hmem
    rcases List.mem_append.mp hmem with hmem | hmem
    · exact hnil (List.mem_append_left _ hmem)
    · exact List.append_ne_nil_of_left_ne_nil hne _ (List.mem_singleton.mp hmem).symm
  · intro part hmem
    rcases List.mem_append.mp hmem with hmem | hmem
    · exact hchain part (List.mem_append_left _ hmem)
    · obtain rfl := List.mem_singleton.mp hmem
      refine List.isChain_append.mpr ⟨hchain run (by simp), List.isChain_singleton _, ?_⟩
      intro x hx y hy
      obtain rfl := Option.some.inj (hlast.symm.trans hx)
      obtain rfl := Option.some.inj hy
      exact hrel
  -- the cut before the last run stays where it was
  · rw [List.isChain_append] at hcuts ⊢
    refine ⟨hcuts.1, List.isChain_singleton _, ?_⟩
    intro part hpart last' hlast'
    obtain ⟨hp, hr, hcut⟩ := hcuts.2.2 part hpart run rfl
    obtain rfl := Option.some.inj hlast'
    refine ⟨hp, List.append_ne_nil_of_left_ne_nil hr _, ?_⟩
    rw [List.head_append_of_ne_nil hr]
    exact hcut

theorem getLast?_of_splitBy (h : values.splitBy r = runs ++ [run]) (hlast : run.getLast? = some last) :
    values.getLast? = some last := by
  rw [(List.splitBy_eq_iff.mp h).1, List.flatten_append, List.getLast?_append]
  simp [hlast]

/-- One more value belongs to the last run or begins one. -/
theorem splitBy_concat (h : values.splitBy r = runs ++ [run]) (hlast : run.getLast? = some last) :
    (values ++ [value]).splitBy r =
      if r last value then runs ++ [run ++ [value]] else runs ++ [run] ++ [[value]] := by
  split_ifs with hrel
  · exact splitBy_concat_of_rel h hlast hrel
  · rw [List.splitBy_append_cons [], h]
    · rfl
    · intro x hx
      obtain rfl := Option.some.inj ((getLast?_of_splitBy h hlast).symm.trans hx)
      exact Bool.eq_false_iff.mpr hrel

end Runs
