import Mathlib.Data.List.Basic

/-!
# Lists of events with their history

`EachAfter P log` says that every event of a log is related by `P` to the events before it.
-/

namespace History

variable {V : Type} {P Q : List V → V → Prop} {log new : List V} {v : V}

/-- Every event is related to the ones before it. -/
def EachAfter (P : List V → V → Prop) (log : List V) : Prop :=
  ∀ i v, log[i]? = some v → P (log.take i) v

theorem eachAfter_nil : EachAfter P [] := fun _ _ h => by cases h

/-- The events of a longer log come after those of the shorter one. -/
theorem eachAfter_append :
    EachAfter P (log ++ new) ↔ EachAfter P log ∧ EachAfter (fun before => P (log ++ before)) new := by
  constructor
  · intro h
    refine ⟨fun i v hi => ?_, fun i v hi => ?_⟩
    · obtain ⟨hlt, -⟩ := List.getElem?_eq_some_iff.mp hi
      have hv := h i v (by rw [List.getElem?_append_left hlt, hi])
      rwa [List.take_append_of_le_length (by omega)] at hv
    · have hv := h (log.length + i) v (by
        rw [List.getElem?_append_right (by omega), Nat.add_sub_cancel_left, hi])
      rwa [List.take_length_add_append] at hv
  · rintro ⟨hlog, hnew⟩ i v hi
    by_cases hlt : i < log.length
    · rw [List.getElem?_append_left hlt] at hi
      rw [List.take_append_of_le_length (by omega)]
      exact hlog i v hi
    · obtain ⟨k, rfl⟩ := Nat.exists_eq_add_of_le (Nat.le_of_not_lt hlt)
      rw [List.getElem?_append_right (by omega), Nat.add_sub_cancel_left] at hi
      rw [List.take_length_add_append]
      exact hnew k v hi

theorem eachAfter_singleton : EachAfter P [v] ↔ P [] v := by
  refine ⟨fun h => h 0 v rfl, fun h i w hi => ?_⟩
  cases i with
  | zero =>
    rw [← Option.some.inj hi]
    exact h
  | succ i => cases hi

/-- The last event comes after all others. -/
theorem eachAfter_concat : EachAfter P (log ++ [v]) ↔ EachAfter P log ∧ P log v := by
  rw [eachAfter_append, eachAfter_singleton, List.append_nil]

/-- New events that are right after any history that starts with the log. -/
theorem EachAfter.append (h : EachAfter P log) (hnew : ∀ v ∈ new, ∀ before, P (log ++ before) v) :
    EachAfter P (log ++ new) :=
  eachAfter_append.mpr ⟨h, fun _ v hi => hnew v (List.mem_of_getElem? hi) _⟩

end History
