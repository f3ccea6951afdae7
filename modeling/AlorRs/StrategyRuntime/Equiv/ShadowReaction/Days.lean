import AlorRs.StrategyRuntime.Equiv.ShadowReaction.Session

/-!
# The days of a replay

A replay goes on from day to day where a session starts anew.  Both loops over many days are loops over
their days (`daysOf`).
-/

namespace AlorRs.ShadowReaction

variable {date : NaiveDate} {secs : ℕ} {b : Bar} {bars day : List Bar} {days : List (List Bar)}

def daysOf : List Bar → List (List Bar)
  | [] => []
  | b :: bars =>
    (b :: bars.takeWhile (·.date = b.date)) :: daysOf (bars.dropWhile (·.date = b.date))
  termination_by bars => bars.length
  decreasing_by
    have hle : (bars.dropWhile (·.date = b.date)).length ≤ bars.length :=
      (List.dropWhile_sublist _).length_le
    simp only [List.length_cons]
    omega

theorem daysOf_nil : daysOf [] = [] := by rw [daysOf]

theorem daysOf_cons :
    daysOf (b :: bars) =
      (b :: bars.takeWhile (·.date = b.date)) :: daysOf (bars.dropWhile (·.date = b.date)) := by
  rw [daysOf]

theorem IsSessionFrom.next (h : IsSessionFrom date secs (b :: day)) :
    day.head?.map (·.tsLocal) = nextOf secs b := by
  obtain ⟨hb, -, hrest⟩ := h
  cases day with
  | nil =>
    have hsecs : secs + 600 = 85800 := hrest
    unfold nextOf
    rw [if_neg (by omega)]
    rfl
  | cons next day =>
    obtain ⟨hnext, hle, -⟩ := hrest
    have hboundary : b.boundary = label date (secs + 600) := by
      unfold Bar.boundary
      rw [hb, addSecs_label (by omega)]
    rw [nextOf_of_lt (by omega), hboundary]
    exact congrArg some hnext

theorem IsSessionFrom.date_eq (h : IsSessionFrom date secs day) : ∀ b ∈ day, b.date = date := by
  induction day generalizing secs with
  | nil => exact fun _ hmem => absurd hmem List.not_mem_nil
  | cons b day ih =>
    obtain ⟨hb, -, hrest⟩ := h
    exact List.forall_mem_cons.mpr ⟨congrArg NaiveDateTime.date hb, ih hrest⟩

theorem ne_of_mem_head?_dropWhile {next : Bar}
    (h : next ∈ (bars.dropWhile (·.date = b.date)).head?) : next.date ≠ b.date := by
  cases hrest : bars.dropWhile (·.date = b.date) with
  | nil =>
    rw [hrest] at h
    exact (nomatch h)
  | cons first rest =>
    rw [hrest] at h
    obtain rfl := Option.some.inj h
    have hne : bars.dropWhile (·.date = b.date) ≠ [] := by
      rw [hrest]
      exact List.cons_ne_nil _ _
    have hnot := List.head_dropWhile_not (fun bar : Bar => bar.date = b.date) hne
    simp only [hrest, List.head_cons, decide_eq_false_iff_not] at hnot
    exact hnot

theorem head?_of_daysOf {days : List (List Bar)} (h : daysOf bars = day :: days) :
    day.head? = bars.head? := by
  cases bars with
  | nil =>
    rw [daysOf_nil] at h
    exact (nomatch h)
  | cons b bars =>
    rw [daysOf_cons] at h
    obtain ⟨rfl, -⟩ := List.cons.inj h
    rfl

variable {earlier later : List (List Bar)}

theorem date_ne_of_daysOf {next : Bar} {nextDay : List Bar}
    (h : daysOf bars = earlier ++ (b :: day) :: (next :: nextDay) :: later) : next.date ≠ b.date := by
  induction bars using daysOf.induct generalizing earlier with
  | case1 =>
    rw [daysOf_nil] at h
    exact (nomatch List.append_ne_nil_of_right_ne_nil earlier (List.cons_ne_nil _ _) h.symm)
  | case2 first bars ih =>
    rw [daysOf_cons] at h
    cases earlier with
    | nil =>
      obtain ⟨hday, hrest⟩ := List.cons.inj h
      obtain ⟨rfl, -⟩ := List.cons.inj hday
      exact ne_of_mem_head?_dropWhile (head?_of_daysOf hrest).symm
    | cons d earlier =>
      obtain ⟨-, hrest⟩ := List.cons.inj h
      exact ih hrest

theorem ne_nil_of_mem_daysOf (h : day ∈ daysOf bars) : day ≠ [] := by
  induction bars using daysOf.induct with
  | case1 =>
    rw [daysOf_nil] at h
    exact absurd h List.not_mem_nil
  | case2 b bars ih =>
    rw [daysOf_cons] at h
    rcases List.mem_cons.mp h with rfl | hlater
    · exact List.cons_ne_nil _ _
    · exact ih hlater

theorem exists_third_of_logged {S L : Type} {step : S → List Bar → Except String (S × List L)}
    {s last : S} {log : List L} {first second : List Bar}
    (h : Outcome.logged step s (earlier ++ first :: second :: day :: later) = .ok (last, log)) :
    ∃ mid before after logEarlier logTwo logDay logLater,
      Outcome.logged step s earlier = .ok (mid, logEarlier) ∧
        Outcome.logged step mid [first, second] = .ok (before, logTwo) ∧
          step before day = .ok (after, logDay) ∧
            log = logEarlier ++ logTwo ++ logDay ++ logLater := by
  obtain ⟨mid, logEarlier, _, hearlier, hrest, rfl⟩ := Outcome.logged_append_eq_ok.mp h
  rw [← List.singleton_append, ← List.singleton_append (l := day :: later), ← List.append_assoc] at hrest
  obtain ⟨before, logTwo, _, htwo, hthird, rfl⟩ := Outcome.logged_append_eq_ok.mp hrest
  obtain ⟨after, logDay, logLater, hday, -, rfl⟩ := Outcome.logged_cons_eq_ok.mp hthird
  refine ⟨mid, before, after, logEarlier, logTwo, logDay, logLater, hearlier, htwo, hday, ?_⟩
  rw [List.append_assoc, List.append_assoc]

theorem daysOf_append (hday : ∀ bar ∈ day, bar.date = b.date)
    (hrest : ∀ next ∈ bars.head?, next.date ≠ b.date) :
    daysOf ((b :: day) ++ bars) = (b :: day) :: daysOf bars := by
  have hall : ∀ bar ∈ day, decide (bar.date = b.date) = true := fun bar hbar =>
    decide_eq_true (hday bar hbar)
  have htake : bars.takeWhile (·.date = b.date) = [] := by
    cases bars with
    | nil => rfl
    | cons next bars => exact List.takeWhile_cons_of_neg (by simpa using hrest next rfl)
  have hdrop : bars.dropWhile (·.date = b.date) = bars := by
    cases bars with
    | nil => rfl
    | cons next bars => exact List.dropWhile_cons_of_neg (by simpa using hrest next rfl)
  rw [List.cons_append, daysOf_cons, List.takeWhile_append_of_pos hall,
    List.dropWhile_append_of_pos hall, htake, hdrop, List.append_nil]

theorem daysOf_day (hday : ∀ bar ∈ day, bar.date = b.date) : daysOf (b :: day) = [b :: day] := by
  have h : daysOf ((b :: day) ++ []) = (b :: day) :: daysOf [] :=
    daysOf_append hday fun _ hnone => (nomatch hnone)
  rw [List.append_nil, daysOf_nil] at h
  exact h

end AlorRs.ShadowReaction
