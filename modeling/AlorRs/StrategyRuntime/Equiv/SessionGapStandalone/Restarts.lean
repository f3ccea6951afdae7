import AlorRs.StrategyRuntime.Equiv.SessionGapStandalone.Entries
import AlorRs.StrategyRuntime.Equiv.SessionGapStandalone.Sessions
import AlorRs.StrategyRuntime.Equiv.SessionGapStandalone.Simulated

/-!
# The session-gap strategy after a restart

What is saved leaves out the stored entry, the simulated position and the cash, and takes the last bar of
the symbol for the clock of the session, also one that belongs to no session.  A cut at which none of this
matters (`IsCut`) is not noticed: the sessions and the intents after it are those of a strategy that was
not restarted (`isUnnoticed_of_isCut`).
-/

namespace AlorRs.SessionGap

open SessionGapStandaloneStrategy

/-! ### The phases of a strategy that sees only bars -/

def IsOfBars : SessionGapLivePhase → Prop
  | .flat | .pendingEntry _ | .blocked _ _ => True
  | _ => False

/-- A phase that bars do not leave for `Flat`. -/
def IsWaiting : SessionGapLivePhase → Prop
  | .pendingEntry _ => True
  | .blocked reason _ => reason ≠ "indicators_not_warmed"
  | _ => False

variable {phase : SessionGapLivePhase}

theorem IsWaiting.isOfBars (h : IsWaiting phase) : IsOfBars phase := by
  cases phase with
  | pendingEntry | blocked => trivial
  | _ => exact h.elim

/-- The test hook enters from no such phase. -/
theorem IsWaiting.isUnforced (h : IsWaiting phase) : phase ≠ .flat ∧ notWarmed phase = false := by
  cases phase with
  | pendingEntry phase => exact ⟨nofun, rfl⟩
  | blocked reason tsUtc => exact ⟨nofun, decide_eq_false h⟩
  | _ => exact h.elim

section Phases

variable (s : SessionGapStandaloneStrategy) (ctx : StrategyCtx) (bar : BarEvent)
  (barDt : LocalDateTime) (sessionDate : NaiveDate) {phase : SessionGapLivePhase}

theorem barPhase_blocked (forced : Bool) (reason : String) (tsUtc : ℤ) :
    s.barPhase ctx sessionDate barDt bar forced (.blocked reason tsUtc) =
      if reason = "indicators_not_warmed" && s.signalsWarmed then (s, .flat, [])
      else (s, .blocked reason tsUtc, []) := rfl

theorem isWaiting_barPendingEntry (phase : PendingEntryPhase) :
    IsWaiting (s.barPendingEntry ctx phase) := by
  unfold barPendingEntry
  dsimp only
  split_ifs
  · show "entry_ack_timeout" ≠ "indicators_not_warmed"
    decide
  · show "entry_fill_timeout" ≠ "indicators_not_warmed"
    decide
  · trivial

theorem isWaiting_barPhase (h : IsWaiting phase) (forced : Bool) :
    IsWaiting (s.barPhase ctx sessionDate barDt bar forced phase).2.1 := by
  cases phase with
  | pendingEntry phase => exact isWaiting_barPendingEntry s ctx phase
  | blocked reason tsUtc =>
    rw [barPhase_blocked, decide_eq_false h, Bool.false_and, if_neg Bool.false_ne_true]
    exact h
  | _ => exact h.elim

theorem isOfBars_barPhase (h : IsOfBars phase) (forced : Bool) :
    IsOfBars (s.barPhase ctx sessionDate barDt bar forced phase).2.1 := by
  cases phase with
  | flat =>
    show IsOfBars (s.barFlat ctx bar forced).2.1
    unfold barFlat
    split_ifs
    · trivial
    · cases s.pendingEntry <;> trivial
  | pendingEntry phase => exact (isWaiting_barPendingEntry s ctx phase).isOfBars
  | blocked reason tsUtc =>
    rw [barPhase_blocked]
    split_ifs <;> trivial
  | _ => exact h.elim

end Phases

/-! ### Another last bar and other flags of the test hook -/

/-- The strategy with another time of the last bar seen and another test hook. -/
def resumed (s : SessionGapStandaloneStrategy) (lastTs : Option ℤ)
    (testHook : SessionGapTestHookState) : SessionGapStandaloneStrategy :=
  { s with lastProcessedBarTs := lastTs, testHook := testHook }

section Resumed

variable (s : SessionGapStandaloneStrategy) (lastTs : Option ℤ) (testHook : SessionGapTestHookState)
  (ctx : StrategyCtx) (bar : BarEvent) (barDt : LocalDateTime) (sessionDate : NaiveDate)

theorem resumed_updateSession :
    (resumed s lastTs testHook).updateSession barDt bar =
      resumed (s.updateSession barDt bar) lastTs testHook := by
  unfold updateSession resumed
  cases s.lastDt with
  | none => rfl
  | some lastDt =>
    dsimp only
    split_ifs
    · rfl
    · unfold continueSession
      cases s.sessionStartDt with
      | none => rfl
      | some sessionStartDt =>
        dsimp only
        split_ifs <;> rfl

theorem resumed_maybeGenerateSignal (force : Bool) :
    (resumed s lastTs testHook).maybeGenerateSignal barDt bar force =
      resumed (s.maybeGenerateSignal barDt bar force) lastTs testHook := by
  have hsignal (price yesterdayClose yesterdayRange prePrevClose : ℚ) :
      (resumed s lastTs testHook).signal price yesterdayClose yesterdayRange prePrevClose =
        s.signal price yesterdayClose yesterdayRange prePrevClose := rfl
  unfold maybeGenerateSignal
  simp only [hsignal]
  unfold resumed
  dsimp only
  repeat' split
  all_goals rfl

theorem resumed_maybeOpenPosition :
    (resumed s lastTs testHook).maybeOpenPosition bar =
      (resumed (s.maybeOpenPosition bar).1 lastTs testHook, (s.maybeOpenPosition bar).2) := by
  obtain ⟨⟩ := s
  unfold maybeOpenPosition resumed
  dsimp only
  split <;> rfl

theorem resumed_maybeClosePosition :
    (resumed s lastTs testHook).maybeClosePosition barDt bar =
      (resumed (s.maybeClosePosition barDt bar).1 lastTs testHook, (s.maybeClosePosition barDt bar).2) := by
  have hprice (position : Position) : (resumed s lastTs testHook).simulatedExitPrice position barDt bar =
      s.simulatedExitPrice position barDt bar := rfl
  have hposition : (resumed s lastTs testHook).position = s.position := rfl
  unfold maybeClosePosition
  rw [hposition]
  cases s.position with
  | none => rfl
  | some position =>
    dsimp only
    rw [hprice]
    cases s.simulatedExitPrice position barDt bar <;> rfl

theorem resumed_noteTransition (phase phase' : SessionGapLivePhase) (tsUtc : ℤ) :
    (resumed s lastTs testHook).noteTransition phase phase' tsUtc =
      resumed (s.noteTransition phase phase' tsUtc) lastTs testHook := by
  unfold noteTransition
  split_ifs <;> rfl

/-- Outside live mode the test hook is not looked at. -/
theorem resumed_simulateBar :
    (resumed s lastTs testHook).simulateBar sessionDate barDt bar =
      (resumed (s.simulateBar sessionDate barDt bar).1 (some bar.closeTimeUtc) testHook,
        (s.simulateBar sessionDate barDt bar).2) := by
  unfold simulateBar
  rw [resumed_maybeOpenPosition]
  dsimp only
  rw [resumed_maybeClosePosition]
  rw [resumed_maybeGenerateSignal]
  rfl

theorem resumed_barPhase (h : IsOfBars phase) (forced : Bool) :
    (resumed s lastTs testHook).barPhase ctx sessionDate barDt bar forced phase =
      (resumed (s.barPhase ctx sessionDate barDt bar forced phase).1 lastTs testHook,
        (s.barPhase ctx sessionDate barDt bar forced phase).2) := by
  have hsignals : (resumed s lastTs testHook).signalsWarmed = s.signalsWarmed := rfl
  have hpending : (resumed s lastTs testHook).pendingEntry = s.pendingEntry := rfl
  cases phase with
  | flat =>
    show barFlat _ _ _ _ = (resumed (barFlat _ _ _ _).1 _ _, (barFlat _ _ _ _).2)
    unfold barFlat
    by_cases hwarm : (!s.signalsWarmed && !forced) = true
    · rw [if_pos hwarm]
      exact if_pos hwarm
    · rw [if_neg hwarm]
      refine (if_neg hwarm).trans ?_
      rw [hpending]
      cases s.pendingEntry <;> rfl
  | pendingEntry phase => rfl
  | blocked reason tsUtc =>
    rw [barPhase_blocked, barPhase_blocked, hsignals]
    split_ifs <;> rfl
  | _ => exact h.elim

end Resumed

/-! ### Bars that are answered alike -/

def finished (sessionDate : NaiveDate) (bar : BarEvent) (phase : SessionGapLivePhase)
    (answer : SessionGapStandaloneStrategy × SessionGapLivePhase × List Intent) :
    SessionGapStandaloneStrategy × List Intent :=
  ({ (answer.1.noteTransition phase answer.2.1 bar.closeTimeUtc).persistStateSnapshot sessionDate
        answer.2.1 bar.closeTimeUtc with
      lastProcessedBarTs := some bar.closeTimeUtc }, answer.2.2)

variable {s' : SessionGapStandaloneStrategy} {testHook : SessionGapTestHookState}

section Live

variable (s : SessionGapStandaloneStrategy) (ctx : StrategyCtx) (bar : BarEvent)
  (barDt : LocalDateTime) (sessionDate : NaiveDate)

theorem liveBar_of_unarmed
    (h : s.maybeForceTestHookEntry s.persistedPhaseOrFlat ctx sessionDate = (s, false)) :
    s.liveBar ctx sessionDate barDt bar = finished sessionDate bar s.persistedPhaseOrFlat
      ((s.maybeGenerateSignal barDt bar true).barPhase ctx sessionDate barDt bar false
        s.persistedPhaseOrFlat) := by
  unfold liveBar
  dsimp only
  rw [h]
  rfl

/-- An entry that the test hook arms is sent at once. -/
theorem liveBar_of_armed
    (h : s.maybeForceTestHookEntry s.persistedPhaseOrFlat ctx sessionDate = (s', true))
    (hphase : s.persistedPhaseOrFlat = .flat ∨ notWarmed s.persistedPhaseOrFlat = true) :
    s.liveBar ctx sessionDate barDt bar = finished sessionDate bar s.persistedPhaseOrFlat
      (s'.barFlat ctx bar true) := by
  have hflat : (if true && notWarmed s.persistedPhaseOrFlat then SessionGapLivePhase.flat
      else s.persistedPhaseOrFlat) = .flat := by
    rcases hphase with hphase | hphase
    all_goals
      rw [hphase]
      rfl
  unfold liveBar
  dsimp only
  rw [h]
  rw [hflat]
  rfl

theorem isWaiting_barFlat_of_forced {pending : PendingEntry} (hpending : s.pendingEntry = some pending) :
    IsWaiting (s.barFlat ctx bar true).2.1 := by
  unfold barFlat
  rw [Bool.not_true, Bool.and_false, if_neg Bool.false_ne_true, hpending]
  trivial

theorem testHook_finished (phase : SessionGapLivePhase)
    (answer : SessionGapStandaloneStrategy × SessionGapLivePhase × List Intent) :
    (finished sessionDate bar phase answer).1.testHook = answer.1.testHook :=
  (congrArg SessionGapStandaloneStrategy.testHook
    (resumed_noteTransition answer.1 answer.1.lastProcessedBarTs answer.1.testHook phase answer.2.1
      bar.closeTimeUtc) :)

theorem testHook_maybeGenerateSignal (force : Bool) :
    (s.maybeGenerateSignal barDt bar force).testHook = s.testHook :=
  (congrArg SessionGapStandaloneStrategy.testHook
    (resumed_maybeGenerateSignal s s.lastProcessedBarTs s.testHook bar barDt force) :)

theorem testHook_barPhase (h : IsOfBars phase) (forced : Bool) :
    (s.barPhase ctx sessionDate barDt bar forced phase).1.testHook = s.testHook :=
  congrArg (fun answer => answer.1.testHook)
    (resumed_barPhase s s.lastProcessedBarTs s.testHook ctx bar barDt sessionDate h forced)

/-- What a bar does to a strategy that has seen only bars: its test hook changes only with an entry. -/
structure Stays (s s' : SessionGapStandaloneStrategy) : Prop where
  ofBars : IsOfBars s'.persistedPhaseOrFlat
  waiting : IsWaiting s.persistedPhaseOrFlat → IsWaiting s'.persistedPhaseOrFlat
  testHook : s'.testHook = s.testHook ∨ IsWaiting s'.persistedPhaseOrFlat

theorem stays_liveBar (h : IsOfBars s.persistedPhaseOrFlat) :
    Stays s (s.liveBar ctx sessionDate barDt bar).1 := by
  rcases maybeForceTestHookEntry_cases s s.persistedPhaseOrFlat ctx sessionDate with
    hforce | ⟨hphase, direction, testHook, hforce⟩
  · rw [liveBar_of_unarmed s ctx bar barDt sessionDate hforce]
    refine ⟨isOfBars_barPhase _ ctx bar barDt sessionDate h false,
      fun hwaiting => isWaiting_barPhase _ ctx bar barDt sessionDate hwaiting false, .inl ?_⟩
    rw [testHook_finished, testHook_barPhase _ ctx bar barDt sessionDate h,
      testHook_maybeGenerateSignal]
  · have hwaiting : IsWaiting (s.liveBar ctx sessionDate barDt bar).1.persistedPhaseOrFlat := by
      rw [liveBar_of_armed s ctx bar barDt sessionDate hforce hphase]
      exact isWaiting_barFlat_of_forced _ ctx bar rfl
    exact ⟨hwaiting.isOfBars, fun _ => hwaiting, .inr hwaiting⟩

variable (lastTs : Option ℤ)

theorem resumed_finished (testHook : SessionGapTestHookState) (phase : SessionGapLivePhase)
    (answer : SessionGapStandaloneStrategy × SessionGapLivePhase × List Intent) :
    finished sessionDate bar phase (resumed answer.1 lastTs testHook, answer.2) =
      (resumed (finished sessionDate bar phase answer).1 (some bar.closeTimeUtc) testHook,
        answer.2.2) := by
  unfold finished
  rw [resumed_noteTransition]
  rfl

theorem resumed_liveBar_of_unarmed {lastTs : Option ℤ} (hphase : IsOfBars s.persistedPhaseOrFlat)
    (h : s.maybeForceTestHookEntry s.persistedPhaseOrFlat ctx sessionDate = (s, false))
    (h' : (resumed s lastTs testHook).maybeForceTestHookEntry s.persistedPhaseOrFlat ctx sessionDate =
      (resumed s lastTs testHook, false)) :
    (resumed s lastTs testHook).liveBar ctx sessionDate barDt bar =
      (resumed (s.liveBar ctx sessionDate barDt bar).1 (some bar.closeTimeUtc) testHook,
        (s.liveBar ctx sessionDate barDt bar).2) := by
  rw [liveBar_of_unarmed s ctx bar barDt sessionDate h, liveBar_of_unarmed _ ctx bar barDt sessionDate h',
    resumed_maybeGenerateSignal]
  show finished sessionDate bar s.persistedPhaseOrFlat (barPhase _ ctx sessionDate barDt bar false
    s.persistedPhaseOrFlat) = _
  rw [resumed_barPhase _ _ _ _ _ _ _ hphase, resumed_finished]
  rfl

theorem resumed_maybeForceTestHookEntry (phase : SessionGapLivePhase) :
    (resumed s lastTs s.testHook).maybeForceTestHookEntry phase ctx sessionDate =
      (resumed (s.maybeForceTestHookEntry phase ctx sessionDate).1 lastTs
          (s.maybeForceTestHookEntry phase ctx sessionDate).1.testHook,
        (s.maybeForceTestHookEntry phase ctx sessionDate).2) := by
  unfold maybeForceTestHookEntry resumed
  cases s.testHook.shouldForceEntry sessionDate with
  | none => rfl
  | some direction =>
    split_ifs <;> rfl

theorem resumed_liveBar (h : IsOfBars s.persistedPhaseOrFlat) :
    (resumed s lastTs s.testHook).liveBar ctx sessionDate barDt bar =
      (resumed (s.liveBar ctx sessionDate barDt bar).1 (some bar.closeTimeUtc)
          (s.liveBar ctx sessionDate barDt bar).1.testHook,
        (s.liveBar ctx sessionDate barDt bar).2) := by
  have hforced := resumed_maybeForceTestHookEntry s ctx sessionDate lastTs s.persistedPhaseOrFlat
  rcases maybeForceTestHookEntry_cases s s.persistedPhaseOrFlat ctx sessionDate with
    hforce | ⟨hphase, direction, testHook, hforce⟩
  · rw [hforce] at hforced
    rw [resumed_liveBar_of_unarmed s ctx bar barDt sessionDate h hforce hforced]
    have htest : (s.liveBar ctx sessionDate barDt bar).1.testHook = s.testHook := by
      rw [liveBar_of_unarmed s ctx bar barDt sessionDate hforce, testHook_finished,
        testHook_barPhase _ ctx bar barDt sessionDate h, testHook_maybeGenerateSignal]
    rw [htest]
  · obtain ⟨s', hforce⟩ : ∃ s', s.maybeForceTestHookEntry s.persistedPhaseOrFlat ctx sessionDate =
        (s', true) := ⟨_, hforce⟩
    rw [hforce] at hforced
    have hofBars : IsOfBars .flat := trivial
    have htest : (finished sessionDate bar s.persistedPhaseOrFlat (s'.barFlat ctx bar true)).1.testHook =
        s'.testHook :=
      (testHook_finished bar sessionDate _ _).trans
        (testHook_barPhase s' ctx bar barDt sessionDate hofBars true)
    rw [liveBar_of_armed s ctx bar barDt sessionDate hforce hphase,
      liveBar_of_armed _ ctx bar barDt sessionDate hforced hphase, htest]
    show finished sessionDate bar s.persistedPhaseOrFlat (barPhase _ ctx sessionDate barDt bar true
      .flat) = _
    rw [resumed_barPhase _ _ _ _ _ _ _ hofBars, resumed_finished]
    rfl

theorem resumed_liveBar_of_waiting (testHook : SessionGapTestHookState)
    (h : IsWaiting s.persistedPhaseOrFlat) :
    (resumed s lastTs testHook).liveBar ctx sessionDate barDt bar =
      (resumed (s.liveBar ctx sessionDate barDt bar).1 (some bar.closeTimeUtc) testHook,
        (s.liveBar ctx sessionDate barDt bar).2) :=
  resumed_liveBar_of_unarmed s ctx bar barDt sessionDate h.isOfBars
    (maybeForceTestHookEntry_of_unforced (.inr h.isUnforced) sessionDate)
    (maybeForceTestHookEntry_of_unforced (.inr h.isUnforced) sessionDate)

end Live

section OnBar

variable {s r : SessionGapStandaloneStrategy} {bar : BarEvent}

theorem testHook_simulateBar (s : SessionGapStandaloneStrategy) (bar : BarEvent)
    (barDt : LocalDateTime) (sessionDate : NaiveDate) :
    (s.simulateBar sessionDate barDt bar).1.testHook = s.testHook :=
  (congrArg (fun answer => answer.1.testHook)
    (resumed_simulateBar s s.lastProcessedBarTs s.testHook bar barDt sessionDate) :)

theorem Stays.of_same (h : IsOfBars s.persistedPhaseOrFlat)
    (hphase : s'.persistedPhaseOrFlat = s.persistedPhaseOrFlat) (htest : s'.testHook = s.testHook) :
    Stays s s' := by
  refine ⟨?_, fun hwaiting => ?_, .inl htest⟩
  · rw [hphase]
    exact h
  · rw [hphase]
    exact hwaiting

theorem Stays.of_updated (h : Stays (updated s bar) s') : Stays s s' := by
  have hphase : (updated s bar).persistedPhaseOrFlat = s.persistedPhaseOrFlat :=
    (sameCore_updateSession s _ bar).phase
  have htest : (updated s bar).testHook = s.testHook := testHook_updateSession s _ bar
  obtain ⟨hof, hwaiting, hhook⟩ := h
  rw [hphase] at hwaiting
  rw [htest] at hhook
  exact ⟨hof, hwaiting, hhook⟩

theorem isOfBars_updated (h : IsOfBars s.persistedPhaseOrFlat) (bar : BarEvent) :
    IsOfBars (updated s bar).persistedPhaseOrFlat := by
  rw [show (updated s bar).persistedPhaseOrFlat = s.persistedPhaseOrFlat from
    (sameCore_updateSession s _ bar).phase]
  exact h

theorem stays_onBar (h : IsOfBars s.persistedPhaseOrFlat) (ctx : StrategyCtx) (hnew : IsNew s bar) :
    Stays s (s.onBar ctx bar).1 := by
  have hupdated := isOfBars_updated h bar
  by_cases hown : IsOwn s.config bar
  · by_cases hmode : ctx.tradeMode = .live
    · cases hblock : shouldBlockLive ctx bar with
      | false =>
        rw [onBar_of_acts ⟨⟨hown, hnew⟩, hmode, hblock⟩]
        exact (stays_liveBar (updated s bar) ctx bar _ _ hupdated).of_updated
      | true =>
        rw [onBar_of_blocked ⟨hown, hnew⟩ hmode hblock]
        have hkept : Stays (updated s bar) ((updated s bar).keepPhase (localTime s.config bar).date bar) :=
          .of_same hupdated rfl rfl
        exact hkept.of_updated
    · rw [onBar_of_simulated ⟨hown, hnew⟩ hmode]
      exact (Stays.of_same hupdated (simulateBar_keeps (updated s bar) _ _ bar).2
        (testHook_simulateBar (updated s bar) bar _ _)).of_updated
  · rw [onBar_of_not_own hnew hown]
    split_ifs <;> exact .of_same h rfl rfl

theorem resumed_onBar (h : IsOfBars s.persistedPhaseOrFlat) (ctx : StrategyCtx) {lastTs : Option ℤ}
    (hhook : testHook = s.testHook ∨ IsWaiting s.persistedPhaseOrFlat) (hnew : IsNew s bar)
    (hnew' : IsNew (resumed s lastTs testHook) bar) :
    ∃ testHook', (resumed s lastTs testHook).onBar ctx bar =
        (resumed (s.onBar ctx bar).1 (some bar.closeTimeUtc) testHook', (s.onBar ctx bar).2) ∧
      (testHook' = (s.onBar ctx bar).1.testHook ∨ IsWaiting s.persistedPhaseOrFlat) := by
  have hphase : (updated s bar).persistedPhaseOrFlat = s.persistedPhaseOrFlat :=
    (sameCore_updateSession s _ bar).phase
  have htest : (updated s bar).testHook = s.testHook := testHook_updateSession s _ bar
  have hupdated := isOfBars_updated h bar
  have hresumed : (resumed s lastTs testHook).updateSession (localTime s.config bar) bar =
      resumed (updated s bar) lastTs testHook := resumed_updateSession s lastTs testHook bar _
  by_cases hown : IsOwn s.config bar
  · by_cases hmode : ctx.tradeMode = .live
    · cases hblock : shouldBlockLive ctx bar with
      | false =>
        rw [onBar_of_acts ⟨⟨hown, hnew⟩, hmode, hblock⟩,
          onBar_of_acts (s := resumed s lastTs testHook) ⟨⟨hown, hnew'⟩, hmode, hblock⟩]
        show ∃ testHook', ((resumed s lastTs testHook).updateSession (localTime s.config bar) bar).liveBar
          _ _ _ _ = _ ∧ _
        rw [hresumed]
        rcases hhook with rfl | hwaiting
        · rw [← htest]
          exact ⟨_, resumed_liveBar (updated s bar) ctx bar _ _ lastTs hupdated, .inl rfl⟩
        · rw [← hphase] at hwaiting ⊢
          exact ⟨testHook, resumed_liveBar_of_waiting (updated s bar) ctx bar _ _ lastTs testHook hwaiting,
            .inr hwaiting⟩
      | true =>
        rw [onBar_of_blocked ⟨hown, hnew⟩ hmode hblock,
          onBar_of_blocked (s := resumed s lastTs testHook) ⟨hown, hnew'⟩ hmode hblock]
        show ∃ testHook', (((resumed s lastTs testHook).updateSession (localTime s.config bar)
          bar).keepPhase _ bar, []) = _ ∧ _
        rw [hresumed]
        refine ⟨testHook, rfl, hhook.imp_left fun hsame => ?_⟩
        exact hsame.trans htest.symm
    · rw [onBar_of_simulated ⟨hown, hnew⟩ hmode,
        onBar_of_simulated (s := resumed s lastTs testHook) ⟨hown, hnew'⟩ hmode]
      show ∃ testHook', ((resumed s lastTs testHook).updateSession (localTime s.config bar)
        bar).simulateBar _ _ bar = _ ∧ _
      rw [hresumed]
      refine ⟨testHook, resumed_simulateBar (updated s bar) lastTs testHook bar _ _,
        hhook.imp_left fun hsame => ?_⟩
      exact hsame.trans (htest.symm.trans (testHook_simulateBar (updated s bar) bar _ _).symm)
  · rw [onBar_of_not_own hnew hown, onBar_of_not_own (s := resumed s lastTs testHook) hnew' hown]
    refine ⟨testHook, ?_, hhook.imp_left fun hsame => ?_⟩
    · show (if bar.symbol ≠ s.config.symbol then _ else _) = _
      split_ifs <;> rfl
    · split_ifs <;> exact hsame

/-- Strategies that differ only in what makes no difference. -/
structure Alike (s r : SessionGapStandaloneStrategy) : Prop where
  ofBars : IsOfBars s.persistedPhaseOrFlat
  same : ∃ lastTs testHook, r = resumed s lastTs testHook ∧
    (testHook = s.testHook ∨ IsWaiting s.persistedPhaseOrFlat)

theorem Alike.onBar (h : Alike s r) (ctx : StrategyCtx) (hnew : IsNew s bar) (hnew' : IsNew r bar) :
    Alike (s.onBar ctx bar).1 (r.onBar ctx bar).1 ∧ (r.onBar ctx bar).2 = (s.onBar ctx bar).2 := by
  obtain ⟨lastTs, testHook, rfl, hhook⟩ := h.same
  have hstays := stays_onBar h.ofBars ctx hnew
  obtain ⟨testHook', hanswer, hhook'⟩ := resumed_onBar h.ofBars ctx hhook hnew hnew'
  rw [hanswer]
  exact ⟨⟨hstays.ofBars, _, testHook', rfl, hhook'.imp_right hstays.waiting⟩, rfl⟩

theorem Alike.features (h : Alike s r) : features r = features s := by
  obtain ⟨lastTs, testHook, rfl, -⟩ := h.same
  rfl

theorem Alike.feed (h : Alike s r) (events : List (StrategyCtx × BarEvent))
    (hnew : ∀ e ∈ events, IsNew s e.2) (hnew' : ∀ e ∈ events, IsNew r e.2)
    (hincreasing : (events.map fun e => e.2.closeTimeUtc).Pairwise (· < ·)) :
    Alike (Reaction.after feed s events) (Reaction.after feed r events) ∧
      Reaction.outputs feed r events = Reaction.outputs feed s events := by
  induction events generalizing s r with
  | nil => exact ⟨h, rfl⟩
  | cons e events ih =>
    obtain ⟨halike, hintents⟩ := h.onBar e.1 (hnew e (List.mem_cons_self ..))
      (hnew' e (List.mem_cons_self ..))
    obtain ⟨hafter, houtputs⟩ := ih halike (isNew_feed hnew hincreasing) (isNew_feed hnew' hincreasing)
      (List.pairwise_cons.mp hincreasing).2
    refine ⟨hafter, ?_⟩
    exact congrArg₂ (· ++ ·) hintents houtputs

end OnBar

/-! ### What is saved -/

variable {config : SessionGapStandaloneConfig} {testHook : SessionGapTestHookState}
  {s : SessionGapStandaloneStrategy} {bar : BarEvent}

structure IsLocal (config : SessionGapStandaloneConfig) (dt : LocalDateTime) : Prop where
  offset : dt.offset = config.timezoneOffsetHours * 3600
  inRange : timestampInRange dt.timestamp = true

theorem isLocal_localTime (config : SessionGapStandaloneConfig) (bar : BarEvent) :
    IsLocal config (localTime config bar) := by
  refine ⟨rfl, ?_⟩
  show timestampInRange (if timestampInRange bar.closeTimeUtc then bar.closeTimeUtc else 0) = true
  split_ifs with hrange
  · exact hrange
  · decide

theorem IsLocal.restoredDt {dt : LocalDateTime} (h : IsLocal config dt) :
    restoredDt config dt.timestamp = some dt := by
  unfold SessionGapStandaloneStrategy.restoredDt
  rw [if_pos h.inRange, ← h.offset]

theorem bind_restoredDt {dt : Option LocalDateTime} (h : ∀ dt' ∈ dt, IsLocal config dt') :
    (dt.map LocalDateTime.timestamp).bind (restoredDt config) = dt := by
  cases dt with
  | none => rfl
  | some dt' => exact (h dt' rfl).restoredDt

structure HasLocalTimes (s : SessionGapStandaloneStrategy) : Prop where
  lastDt : ∀ dt ∈ s.lastDt, IsLocal s.config dt
  sessionStartDt : ∀ dt ∈ s.sessionStartDt, IsLocal s.config dt
  sessionEndDt : ∀ dt ∈ s.sessionEndDt, IsLocal s.config dt

theorem HasLocalTimes.congr (h : HasLocalTimes s) (hconfig : s'.config = s.config)
    (hfeatures : features s' = features s) : HasLocalTimes s' := by
  obtain ⟨hlast, hstart, hend⟩ := h
  refine ⟨?_, ?_, ?_⟩
  · rw [hconfig, show s'.lastDt = s.lastDt from congrArg SessionFeatures.lastDt hfeatures]
    exact hlast
  · rw [hconfig, show s'.sessionStartDt = s.sessionStartDt from
      congrArg SessionFeatures.sessionStartDt hfeatures]
    exact hstart
  · rw [hconfig, show s'.sessionEndDt = s.sessionEndDt from
      congrArg SessionFeatures.sessionEndDt hfeatures]
    exact hend

theorem HasLocalTimes.resetSession (s : SessionGapStandaloneStrategy) (bar : BarEvent) :
    HasLocalTimes { s.resetSession (localTime s.config bar) bar with
      lastDt := some (localTime s.config bar) } := by
  have hlocal := isLocal_localTime s.config bar
  refine ⟨?_, ?_, ?_⟩
  · rintro dt ⟨⟩
    exact hlocal
  · rintro dt ⟨⟩
    exact hlocal
  · rintro dt ⟨⟩
    refine ⟨rfl, ?_⟩
    split_ifs
    · unfold timestampOfLocal
      dsimp only
      split_ifs with hrange
      · exact hrange
      · exact hlocal.inRange
    · exact hlocal.inRange

theorem HasLocalTimes.updated (h : HasLocalTimes s) (bar : BarEvent) :
    HasLocalTimes (updated s bar) := by
  unfold SessionGap.updated updateSession
  cases s.lastDt with
  | none => exact resetSession s bar
  | some lastDt =>
    dsimp only
    split_ifs
    · exact resetSession { s with
        prePrevClose := s.yesterdayClose
        yesterdayClose := s.sessionClose
        yesterdayRange := _ } bar
    · have hcontinue : (s.continueSession (localTime s.config bar) bar).sessionStartDt = s.sessionStartDt ∧
          (s.continueSession (localTime s.config bar) bar).sessionEndDt = s.sessionEndDt ∧
          (s.continueSession (localTime s.config bar) bar).config = s.config := by
        unfold continueSession
        dsimp only
        repeat' split
        all_goals exact ⟨rfl, rfl, rfl⟩
      obtain ⟨hstart, hend, hconfig⟩ := hcontinue
      refine ⟨?_, ?_, ?_⟩
      · rintro dt ⟨⟩
        rw [hconfig]
        exact isLocal_localTime s.config bar
      · rw [hstart, hconfig]
        exact h.sessionStartDt
      · rw [hend, hconfig]
        exact h.sessionEndDt

def IsSaved (s : SessionGapStandaloneStrategy) : Option SavedState → Prop
  | none => features s = features (new s.config s.testHook) ∧ s.tradedSession = false ∧
      s.phaseLastChangeTsUtc = none
  | some saved =>
    saved = s.savedWith saved.sessionDate saved.lastDtTsUtc saved.phase saved.lastBarTs ∧
      ∀ lastBarTs ∈ saved.lastBarTs, ∃ lastTs ∈ s.lastProcessedBarTs, lastBarTs ≤ lastTs

/-- What the bars keep of a strategy that is saved. -/
structure Savable (testHook : SessionGapTestHookState) (s : SessionGapStandaloneStrategy) : Prop where
  times : HasLocalTimes s
  saved : IsSaved s s.state
  ofBars : IsOfBars s.persistedPhaseOrFlat
  testHook : s.testHook = testHook ∨ IsWaiting s.persistedPhaseOrFlat

theorem savable_new (config : SessionGapStandaloneConfig) (testHook : SessionGapTestHookState) :
    Savable testHook (new config testHook) :=
  ⟨⟨nofun, nofun, nofun⟩, ⟨rfl, rfl, rfl⟩, trivial, .inl rfl⟩

theorem isSaved_onBar_of_symbol (s : SessionGapStandaloneStrategy) (ctx : StrategyCtx)
    (hnew : IsNew s bar) (hsymbol : bar.symbol = s.config.symbol) :
    IsSaved (s.onBar ctx bar).1 (s.onBar ctx bar).1.state := by
  have hlast (lastTs : ℤ) : ∀ lastBarTs ∈ some lastTs, ∃ lastTs' ∈ some lastTs,
      lastBarTs ≤ lastTs' := by
    rintro lastBarTs ⟨⟩
    exact ⟨lastTs, rfl, le_rfl⟩
  by_cases hown : IsOwn s.config bar
  · by_cases hmode : ctx.tradeMode = .live
    · cases hblock : shouldBlockLive ctx bar with
      | false =>
        rw [onBar_of_acts ⟨⟨hown, hnew⟩, hmode, hblock⟩]
        exact ⟨rfl, hlast _⟩
      | true =>
        rw [onBar_of_blocked ⟨hown, hnew⟩ hmode hblock]
        exact ⟨rfl, hlast _⟩
    · rw [onBar_of_simulated ⟨hown, hnew⟩ hmode]
      exact ⟨rfl, hlast _⟩
  · rw [onBar_of_not_own hnew hown, if_neg (not_not.mpr hsymbol)]
    exact ⟨rfl, hlast _⟩

theorem Savable.onBar (h : Savable testHook s) (ctx : StrategyCtx) (hnew : IsNew s bar) :
    Savable testHook (s.onBar ctx bar).1 := by
  have hstays := stays_onBar h.ofBars ctx hnew
  refine ⟨?_, ?_, hstays.ofBars, ?_⟩
  · have hconfig := onBar_config s ctx bar
    have hfeatures := features_onBar s ctx bar hnew
    split_ifs at hfeatures
    · exact (h.times.updated bar).congr (hconfig.trans (config_updated s bar).symm) hfeatures
    · exact h.times.congr hconfig hfeatures
  · by_cases hsymbol : bar.symbol = s.config.symbol
    · exact isSaved_onBar_of_symbol s ctx hnew hsymbol
    · rw [onBar_of_not_own hnew fun hown => hsymbol hown.symbol, if_pos hsymbol]
      show IsSaved { s with lastProcessedBarTs := some bar.closeTimeUtc } s.state
      have hsaved := h.saved
      cases hstate : s.state with
      | none =>
        rw [hstate] at hsaved
        exact hsaved
      | some saved =>
        rw [hstate] at hsaved
        obtain ⟨hsame, hle⟩ := hsaved
        refine ⟨hsame, ?_⟩
        intro lastBarTs hmem
        obtain ⟨lastTs, hlast, hle⟩ := hle lastBarTs hmem
        exact ⟨bar.closeTimeUtc, rfl, hle.trans (hnew lastTs hlast).le⟩
  · rcases h.testHook with hsame | hwaiting
    · exact hstays.testHook.imp_left fun hkept => hkept.trans hsame
    · exact .inr (hstays.waiting hwaiting)

/-! ### Restarts -/

def restored (config : SessionGapStandaloneConfig) (testHook : SessionGapTestHookState)
    (state : Option SavedState) (ctx : StrategyCtx) (event : RuntimeStateRestored) :
    SessionGapStandaloneStrategy :=
  (strategy.onRuntimeStateRestored (strategy.setState (new config testHook) state) ctx event).1

/-- A strategy of which everything that matters is saved. -/
structure IsCut (s : SessionGapStandaloneStrategy) : Prop where
  pendingEntry : s.pendingEntry = none
  position : s.position = none
  cash : s.cash = s.config.startCash
  clock : ∀ saved ∈ s.state, saved.lastDtTsUtc = s.lastDt.map LocalDateTime.timestamp

theorem restored_none (h : IsSaved s none) (hcut : IsCut s) (hstate : s.state = none)
    (ctx : StrategyCtx) (event : RuntimeStateRestored) :
    restored s.config testHook none ctx event = resumed s none testHook := by
  obtain ⟨hfeatures, htraded, hchange⟩ := h
  obtain ⟨hpending, hposition, hcash, -⟩ := hcut
  obtain ⟨config, state, lastProcessedBarTs, cash, lastDt, sessionStartDt, sessionEndDt, sessionHigh,
    sessionLow, sessionClose, yesterdayClose, yesterdayRange, prePrevClose, firstMinHigh, firstMinLow,
    firstHourPrice, phaseLastChangeTsUtc, tradedSession, pendingEntry, position, testHook'⟩ := s
  dsimp only at *
  subst hpending hposition hcash hstate htraded hchange
  have hnew : (⟨lastDt, sessionStartDt, sessionEndDt, sessionHigh, sessionLow, sessionClose,
      yesterdayClose, yesterdayRange, prePrevClose, firstMinHigh, firstMinLow, firstHourPrice⟩ :
        SessionFeatures) = features (new config testHook') := hfeatures
  obtain ⟨rfl, rfl, rfl, rfl, rfl, rfl, rfl, rfl, rfl, rfl, rfl, rfl⟩ := SessionFeatures.mk.inj hnew
  rfl

theorem restored_savedWith (testHook : SessionGapTestHookState) (htimes : HasLocalTimes s)
    (hcut : IsCut s) (sessionDate : Option NaiveDate) (phase : SessionGapLivePhase)
    (lastBarTs : Option ℤ) (ctx : StrategyCtx) (event : RuntimeStateRestored) :
    let saved := s.savedWith sessionDate (s.lastDt.map LocalDateTime.timestamp) phase lastBarTs
    restored s.config testHook (some saved) ctx event =
      { s with state := some saved, lastProcessedBarTs := lastBarTs, testHook := testHook } := by
  have hstart := bind_restoredDt htimes.sessionStartDt
  have hend := bind_restoredDt htimes.sessionEndDt
  have hlast := bind_restoredDt htimes.lastDt
  obtain ⟨hpending, hposition, hcash, -⟩ := hcut
  obtain ⟨config, state, lastProcessedBarTs, cash, lastDt, sessionStartDt, sessionEndDt, sessionHigh,
    sessionLow, sessionClose, yesterdayClose, yesterdayRange, prePrevClose, firstMinHigh, firstMinLow,
    firstHourPrice, phaseLastChangeTsUtc, tradedSession, pendingEntry, position, testHook'⟩ := s
  clear htimes
  dsimp only at *
  subst hpending hposition hcash
  show (SessionGapStandaloneStrategy.mk config _ lastBarTs config.startCash
    ((lastDt.map LocalDateTime.timestamp).bind (restoredDt config))
    ((sessionStartDt.map LocalDateTime.timestamp).bind (restoredDt config))
    ((sessionEndDt.map LocalDateTime.timestamp).bind (restoredDt config)) _ _ _ _ _ _ _ _ _ _ _ none
    none testHook) = _
  rw [hstart, hend, hlast]
  rfl

/-- At such a cut only the time of the last bar seen differs, by bars of another symbol, and the flags of
the test hook. -/
theorem restored_eq_resumed (h : Savable testHook s) (hcut : IsCut s) (ctx : StrategyCtx)
    (event : RuntimeStateRestored) :
    restored s.config testHook s.state ctx event =
      resumed s (s.state.bind SavedState.lastBarTs) testHook := by
  have hsaved := h.saved
  cases hstate : s.state with
  | none =>
    rw [hstate] at hsaved
    exact restored_none hsaved hcut hstate ctx event
  | some saved =>
    rw [hstate] at hsaved
    obtain ⟨hsame, -⟩ := hsaved
    rw [hcut.clock saved hstate] at hsame
    have hrestored := restored_savedWith testHook h.times hcut saved.sessionDate saved.phase
      saved.lastBarTs ctx event
    rw [← hsame] at hrestored
    rw [hrestored]
    unfold resumed
    rw [hstate]
    rfl

theorem isNew_restored (h : Savable testHook s) (hnew : IsNew s bar) :
    IsNew (resumed s (s.state.bind SavedState.lastBarTs) testHook) bar := by
  intro lastTs hlast
  have hsaved := h.saved
  obtain ⟨saved, hstate, hmem⟩ := Option.bind_eq_some_iff.mp hlast
  rw [hstate] at hsaved
  obtain ⟨lastTs', hlast', hle⟩ := hsaved.2 lastTs hmem
  exact hle.trans_lt (hnew lastTs' hlast')

theorem savable_feed (s : SessionGapStandaloneStrategy) (before rest : List (StrategyCtx × BarEvent))
    (h : Savable testHook s) (hnew : ∀ e ∈ before ++ rest, IsNew s e.2)
    (hincreasing : ((before ++ rest).map fun e => e.2.closeTimeUtc).Pairwise (· < ·)) :
    let s' := Reaction.after feed s before
    Savable testHook s' ∧ s'.config = s.config ∧ ∀ e ∈ rest, IsNew s' e.2 := by
  induction before generalizing s with
  | nil => exact ⟨h, rfl, hnew⟩
  | cons e before ih =>
    have hfirst := hnew e (List.mem_cons_self ..)
    have hconfig : (feed s e).1.config = s.config := onBar_config s e.1 e.2
    obtain ⟨hsavable, hsame, hlater⟩ := ih (feed s e).1 (h.onBar e.1 hfirst)
      (isNew_feed hnew hincreasing) (List.pairwise_cons.mp hincreasing).2
    exact ⟨hsavable, hsame.trans hconfig, hlater⟩

/-- A restart between some bars and others is not noticed after the others. -/
structure IsUnnoticed (config : SessionGapStandaloneConfig) (testHook : SessionGapTestHookState)
    (before rest : List (StrategyCtx × BarEvent)) (r : SessionGapStandaloneStrategy) : Prop where
  sessions : features (Reaction.after feed r rest) =
    features (Reaction.after feed (new config testHook) (before ++ rest))
  intents : Reaction.outputs feed (new config testHook) (before ++ rest) =
    Reaction.outputs feed (new config testHook) before ++ Reaction.outputs feed r rest

/-- A cut at which everything that matters is saved is not noticed. -/
theorem isUnnoticed_of_isCut (config : SessionGapStandaloneConfig) (testHook : SessionGapTestHookState)
    (before rest : List (StrategyCtx × BarEvent)) (ctx : StrategyCtx) (event : RuntimeStateRestored)
    (hincreasing : ((before ++ rest).map fun e => e.2.closeTimeUtc).Pairwise (· < ·))
    (hcut : IsCut (Reaction.after feed (new config testHook) before)) :
    IsUnnoticed config testHook before rest (restored config testHook
      (Reaction.after feed (new config testHook) before).state ctx event) := by
  obtain ⟨hsavable, hconfig, hnew⟩ := savable_feed (new config testHook) before rest
    (savable_new config testHook) (fun e _ => nofun) hincreasing
  have hlater : (rest.map fun e => e.2.closeTimeUtc).Pairwise (· < ·) := by
    rw [List.map_append] at hincreasing
    exact (List.pairwise_append.mp hincreasing).2.1
  have hafter : Reaction.after feed (new config testHook) (before ++ rest) =
      Reaction.after feed (Reaction.after feed (new config testHook) before) rest :=
    Reaction.after_append rest
  have houtputs : Reaction.outputs feed (new config testHook) (before ++ rest) =
      Reaction.outputs feed (new config testHook) before ++
        Reaction.outputs feed (Reaction.after feed (new config testHook) before) rest :=
    Reaction.outputs_append rest
  generalize Reaction.after feed (new config testHook) before = s at *
  have hrestored := restored_eq_resumed hsavable hcut ctx event
  rw [show s.config = config from hconfig] at hrestored
  rw [hrestored]
  have halike : Alike s (resumed s (s.state.bind SavedState.lastBarTs) testHook) :=
    ⟨hsavable.ofBars, _, testHook, rfl, hsavable.testHook.imp_left Eq.symm⟩
  obtain ⟨hlast, hintents⟩ := halike.feed rest hnew
    (fun e hmem => isNew_restored hsavable (hnew e hmem)) hlater
  refine ⟨?_, ?_⟩
  · rw [hafter]
    exact hlast.features
  · rw [houtputs, hintents]

instance (s : SessionGapStandaloneStrategy) : Decidable (IsCut s) :=
  decidable_of_iff (s.pendingEntry.isNone ∧ s.position.isNone ∧ s.cash = s.config.startCash ∧
      ∀ saved ∈ s.state, saved.lastDtTsUtc = s.lastDt.map LocalDateTime.timestamp)
    ⟨fun h => ⟨Option.isNone_iff_eq_none.mp h.1, Option.isNone_iff_eq_none.mp h.2.1, h.2.2.1, h.2.2.2⟩,
      fun h => ⟨Option.isNone_iff_eq_none.mpr h.pendingEntry,
        Option.isNone_iff_eq_none.mpr h.position, h.cash, h.clock⟩⟩

namespace Sample

def restart (before : List (StrategyCtx × BarEvent)) : SessionGapStandaloneStrategy :=
  restored .default ⟨none, false, false⟩ (Reaction.after feed Sample.fresh before).state
    (Sample.ctx 0 0) ⟨∅, ∅⟩

def weekend : List (StrategyCtx × BarEvent) :=
  [priced 1699869540 100 100 101 100, priced 1700425800 100 100 101 100]

def monday : List (StrategyCtx × BarEvent) := [priced 1700428500 100 100 101 100]

def IsNoticed (before rest : List (StrategyCtx × BarEvent)) : Prop :=
  ((before ++ rest).map fun e => e.2.closeTimeUtc).Pairwise (· < ·) ∧
    ¬IsUnnoticed .default ⟨none, false, false⟩ before rest (restart before)

end Sample

/-- A restart between the warm-up and the session that opens a position. -/
theorem isUnnoticed_of_isCut_warm :
    IsUnnoticed .default ⟨none, false, false⟩ (Sample.opened.take 2) (Sample.opened.drop 2)
      (Sample.restart (Sample.opened.take 2)) :=
  isUnnoticed_of_isCut .default ⟨none, false, false⟩ (Sample.opened.take 2) (Sample.opened.drop 2)
    (Sample.ctx 0 0) ⟨∅, ∅⟩ (by decide +kernel) (by decide +kernel)

/-- A restart loses an entry that is stored and a position that is open, it forgets what was earned, and
after a weekend it takes a new session for the old one. -/
theorem not_isUnnoticed :
    Sample.IsNoticed (Sample.opened.take 6) (Sample.opened.drop 6) ∧
      Sample.IsNoticed Sample.opened (Sample.taken.drop 7) ∧
      Sample.IsNoticed Sample.taken (Sample.breakout 1700128740 103 109) ∧
      Sample.IsNoticed Sample.weekend Sample.monday := by
  refine ⟨⟨by decide +kernel, fun h => ?_⟩, ⟨by decide +kernel, fun h => ?_⟩,
    ⟨by decide +kernel, fun h => ?_⟩, ⟨by decide +kernel, fun h => ?_⟩⟩
  · exact absurd h.intents (by decide +kernel)
  · exact absurd h.intents (by decide +kernel)
  · exact absurd h.intents (by decide +kernel)
  · exact absurd (congrArg SessionFeatures.sessionStartDt h.sessions) (by decide +kernel)

end AlorRs.SessionGap
