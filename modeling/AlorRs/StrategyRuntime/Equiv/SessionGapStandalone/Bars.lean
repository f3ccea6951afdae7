import AlorRs.StrategyRuntime.Equiv.SessionGapStandalone.Phases

/-!
# The bars that the session-gap strategy takes

Bars of another symbol, bars that are not new and bars of a weekend are passed over; all others belong to
a session (`Accepts`).  In live mode a bar that is not blocked moves the phase (`onBar_of_acts`).
-/

namespace AlorRs.SessionGap

open SessionGapStandaloneStrategy

variable {s : SessionGapStandaloneStrategy} {ctx : StrategyCtx} {bar : BarEvent}

def localTime (config : SessionGapStandaloneConfig) (bar : BarEvent) : LocalDateTime :=
  toSessionDt config bar.closeTimeUtc

/-- A bar of the symbol, on a day that the strategy works on. -/
structure IsOwn (config : SessionGapStandaloneConfig) (bar : BarEvent) : Prop where
  symbol : bar.symbol = config.symbol
  day : (!config.workWeekends &&
    ((localTime config bar).weekday = .sat || (localTime config bar).weekday = .sun)) = false

instance (config : SessionGapStandaloneConfig) (bar : BarEvent) : Decidable (IsOwn config bar) :=
  decidable_of_iff (bar.symbol = config.symbol ∧ (!config.workWeekends &&
    ((localTime config bar).weekday = .sat || (localTime config bar).weekday = .sun)) = false)
    ⟨fun h => ⟨h.1, h.2⟩, fun h => ⟨h.symbol, h.day⟩⟩

def IsNew (s : SessionGapStandaloneStrategy) (bar : BarEvent) : Prop :=
  ∀ lastTs ∈ s.lastProcessedBarTs, lastTs < bar.closeTimeUtc

structure Accepts (s : SessionGapStandaloneStrategy) (bar : BarEvent) : Prop where
  own : IsOwn s.config bar
  later : IsNew s bar

instance (s : SessionGapStandaloneStrategy) (bar : BarEvent) : Decidable (Accepts s bar) :=
  decidable_of_iff (IsOwn s.config bar ∧ ∀ lastTs ∈ s.lastProcessedBarTs, lastTs < bar.closeTimeUtc)
    ⟨fun h => ⟨h.1, h.2⟩, fun h => ⟨h.own, h.later⟩⟩

/-- A bar that moves the phase. -/
structure Acts (s : SessionGapStandaloneStrategy) (ctx : StrategyCtx) (bar : BarEvent) : Prop where
  accepts : Accepts s bar
  live : ctx.tradeMode = .live
  passes : shouldBlockLive ctx bar = false

theorem not_isOld (h : IsNew s bar) :
    ¬s.lastProcessedBarTs.any (fun lastTs => bar.closeTimeUtc ≤ lastTs) = true := by
  intro hany
  obtain ⟨lastTs, hlast, hle⟩ := (Option.any_eq_true ..).mp hany
  have hlt := h lastTs hlast
  rw [decide_eq_true_iff] at hle
  omega

theorem onBar_of_not_new (h : ¬IsNew s bar) :
    (s.onBar ctx bar).2 = [] ∧ (s.onBar ctx bar).1 =
      if bar.symbol ≠ s.config.symbol then { s with lastProcessedBarTs := some bar.closeTimeUtc } else s := by
  have hold : s.lastProcessedBarTs.any (fun lastTs => bar.closeTimeUtc ≤ lastTs) = true := by
    by_contra hnone
    refine h fun lastTs hmem => ?_
    by_contra hle
    exact hnone ((Option.any_eq_true ..).mpr ⟨lastTs, hmem, decide_eq_true (not_lt.mp hle)⟩)
  unfold onBar
  rw [if_pos hold]
  split_ifs <;> exact ⟨rfl, rfl⟩

theorem onBar_of_acts (h : Acts s ctx bar) :
    s.onBar ctx bar = (s.updateSession (localTime s.config bar) bar).liveBar ctx
      (localTime s.config bar).date (localTime s.config bar) bar := by
  have hday := h.accepts.own.day
  have hpasses := h.passes
  unfold localTime at hday
  unfold onBar localTime
  rw [if_neg (not_not.mpr h.accepts.own.symbol), if_neg (not_isOld h.accepts.later)]
  dsimp only
  rw [hday, hpasses, if_neg Bool.false_ne_true, if_neg (not_not.mpr h.live),
    if_neg Bool.false_ne_true]

theorem onBar_of_simulated (h : Accepts s bar) (hmode : ctx.tradeMode ≠ .live) :
    s.onBar ctx bar = (s.updateSession (localTime s.config bar) bar).simulateBar
      (localTime s.config bar).date (localTime s.config bar) bar := by
  have hday := h.own.day
  unfold localTime at hday
  unfold onBar localTime
  rw [if_neg (not_not.mpr h.own.symbol), if_neg (not_isOld h.later)]
  dsimp only
  rw [hday, if_neg Bool.false_ne_true, if_pos hmode]

theorem onBar_of_blocked (h : Accepts s bar) (hmode : ctx.tradeMode = .live)
    (hblock : shouldBlockLive ctx bar = true) :
    s.onBar ctx bar = ((s.updateSession (localTime s.config bar) bar).keepPhase
      (localTime s.config bar).date bar, []) := by
  have hday := h.own.day
  unfold localTime at hday
  unfold onBar localTime
  rw [if_neg (not_not.mpr h.own.symbol), if_neg (not_isOld h.later)]
  dsimp only
  rw [hday, if_neg Bool.false_ne_true, if_neg (not_not.mpr hmode), if_pos hblock]

theorem onBar_of_not_own (hnew : IsNew s bar) (hown : ¬IsOwn s.config bar) :
    s.onBar ctx bar =
      if bar.symbol ≠ s.config.symbol then ({ s with lastProcessedBarTs := some bar.closeTimeUtc }, [])
      else (s.keepPhase (localTime s.config bar).date bar, []) := by
  unfold onBar
  by_cases hsymbol : bar.symbol = s.config.symbol
  · have hweekend := Bool.eq_true_of_not_eq_false fun hday => hown ⟨hsymbol, hday⟩
    unfold localTime at hweekend
    rw [if_neg (not_not.mpr hsymbol), if_neg (not_isOld hnew), if_neg (not_not.mpr hsymbol)]
    rw [if_pos hweekend]
    rfl
  · rw [if_pos hsymbol, if_pos hsymbol]

/-! ### The session of a bar -/

def BeginsSession (s : SessionGapStandaloneStrategy) (bar : BarEvent) : Prop :=
  ∀ lastDt ∈ s.lastDt, s.config.sessionGapMin <
    (((localTime s.config bar).timestamp - lastDt.timestamp : ℤ) : ℚ) / 60

instance (s : SessionGapStandaloneStrategy) (bar : BarEvent) : Decidable (BeginsSession s bar) :=
  inferInstanceAs (Decidable (∀ lastDt ∈ s.lastDt, _ < _))

def updated (s : SessionGapStandaloneStrategy) (bar : BarEvent) : SessionGapStandaloneStrategy :=
  s.updateSession (localTime s.config bar) bar

theorem config_updated (s : SessionGapStandaloneStrategy) (bar : BarEvent) :
    (updated s bar).config = s.config :=
  (sameCore_updateSession s _ bar).config

/-! ### The simulated position -/

variable (position : Position)

def Position.entry (fillPrice : ℚ) : Intent :=
  .market position.size (entrySide position.direction) (some fillPrice) none

def Position.exit (fillPrice : ℚ) : Intent :=
  .market position.size (exitSide position.direction) (some fillPrice) none

theorem maybeOpenPosition_cases (s : SessionGapStandaloneStrategy) (bar : BarEvent) :
    ((s.maybeOpenPosition bar).2 = [] ∧ (s.maybeOpenPosition bar).1.position = s.position) ∨
      s.position = none ∧ ∃ position, (s.maybeOpenPosition bar).1.position = some position ∧
        (s.maybeOpenPosition bar).2 = [position.entry bar.o] := by
  unfold maybeOpenPosition
  split
  · exact .inl ⟨rfl, rfl⟩
  · exact .inl ⟨rfl, rfl⟩
  · exact .inl ⟨rfl, rfl⟩
  · rename_i pending range hposition hpending hrange
    exact .inr ⟨hposition, _, rfl, rfl⟩

theorem maybeClosePosition_cases (s : SessionGapStandaloneStrategy) (barDt : LocalDateTime)
    (bar : BarEvent) :
    ((s.maybeClosePosition barDt bar).2 = [] ∧
        (s.maybeClosePosition barDt bar).1.position = s.position) ∨
      ∃ position fillPrice, s.position = some position ∧
        s.simulatedExitPrice position barDt bar = some fillPrice ∧
        (s.maybeClosePosition barDt bar).1.position = none ∧
        (s.maybeClosePosition barDt bar).2 = [position.exit fillPrice] := by
  unfold maybeClosePosition
  split
  · exact .inl ⟨rfl, rfl⟩
  · rename_i position hposition
    split
    · exact .inl ⟨rfl, rfl⟩
    · rename_i fillPrice hprice
      exact .inr ⟨position, fillPrice, hposition, hprice, rfl, rfl⟩

/-! ### Without a forced entry -/

def signalled (s : SessionGapStandaloneStrategy) (bar : BarEvent) : SessionGapStandaloneStrategy :=
  (s.updateSession (localTime s.config bar) bar).maybeGenerateSignal (localTime s.config bar) bar true

theorem sameCore_signalled (s : SessionGapStandaloneStrategy) (bar : BarEvent) :
    SameCore s (signalled s bar) :=
  (sameCore_updateSession s _ bar).trans (sameCore_maybeGenerateSignal _ _ bar true)

def phaseAfter (s : SessionGapStandaloneStrategy) (ctx : StrategyCtx) (bar : BarEvent) :
    SessionGapStandaloneStrategy × SessionGapLivePhase × List Intent :=
  (signalled s bar).barPhase ctx (localTime s.config bar).date (localTime s.config bar) bar false
    s.persistedPhaseOrFlat

/-- A strategy whose test hook forces no entry. -/
def IsUnforced (s : SessionGapStandaloneStrategy) : Prop :=
  s.testHook.config = none ∨
    (s.persistedPhaseOrFlat ≠ .flat ∧ notWarmed s.persistedPhaseOrFlat = false)

theorem testHook_updateSession (s : SessionGapStandaloneStrategy) (barDt : LocalDateTime)
    (bar : BarEvent) : (s.updateSession barDt bar).testHook = s.testHook := by
  unfold updateSession
  split
  · rfl
  · split
    · rfl
    · unfold continueSession
      dsimp only
      repeat' split
      all_goals rfl

theorem maybeForceTestHookEntry_of_unforced {phase : SessionGapLivePhase}
    (h : s.testHook.config = none ∨ (phase ≠ .flat ∧ notWarmed phase = false))
    (sessionDate : NaiveDate) : s.maybeForceTestHookEntry phase ctx sessionDate = (s, false) := by
  unfold maybeForceTestHookEntry
  rcases h with hnone | ⟨hflat, hwarm⟩
  · unfold SessionGapTestHookState.shouldForceEntry
    rw [hnone]
  · have hphase : (!(phase = .flat || notWarmed phase)) = true := by
      rw [hwarm, decide_eq_false hflat]
      rfl
    rw [hphase, Bool.true_or, Bool.true_or]
    split
    · rfl
    · exact if_pos rfl

theorem onBar_of_unforced (h : Acts s ctx bar) (hunforced : IsUnforced s) :
    s.onBar ctx bar =
      ({ ((phaseAfter s ctx bar).1.noteTransition s.persistedPhaseOrFlat (phaseAfter s ctx bar).2.1
            bar.closeTimeUtc).persistStateSnapshot (localTime s.config bar).date
            (phaseAfter s ctx bar).2.1 bar.closeTimeUtc with
          lastProcessedBarTs := some bar.closeTimeUtc },
        (phaseAfter s ctx bar).2.2) := by
  have hcore := sameCore_updateSession s (localTime s.config bar) bar
  have hhook := testHook_updateSession s (localTime s.config bar) bar
  have hunforced' : (s.updateSession (localTime s.config bar) bar).testHook.config = none ∨
      (s.persistedPhaseOrFlat ≠ .flat ∧ notWarmed s.persistedPhaseOrFlat = false) := by
    rw [hhook]
    exact hunforced
  rw [onBar_of_acts h]
  unfold liveBar
  rw [hcore.phase]
  dsimp only
  rw [maybeForceTestHookEntry_of_unforced hunforced']
  rfl

end AlorRs.SessionGap
