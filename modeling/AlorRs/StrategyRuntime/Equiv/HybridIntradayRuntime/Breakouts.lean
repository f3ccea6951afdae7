import AlorRs.Lib.Groups
import AlorRs.StrategyRuntime.HybridIntraday.Orchestrator

/-!
# When the orchestrator enters a breakout

The breakout engine keeps a few numbers of the days that it has seen.  Whatever the orchestrator is
told, they are those of the last three of the days that its bars make (`follows_run`), so a breakout
entry is always one beyond the range of the day before, on a side that was not filled that day
(`breakout_submitted`).
-/

namespace AlorRs.HybridIntraday

/-! ### Days -/

/-- The bars of a day, and the sides of the breakout entries that were filled on it. -/
structure BreakoutDay where
  bars : ValueGroup BarInput
  filled : List Side

namespace BreakoutDay

variable (day : BreakoutDay)

def date : NaiveDate := day.bars.first.dt.date

def high : ℚ := day.bars.all.foldl (fun high bar => max high bar.high) day.bars.first.openPrice

def low : ℚ := day.bars.all.foldl (fun low bar => min low bar.low) day.bars.first.openPrice

def close : ℚ := day.bars.last.close

def range : ℚ := day.high - day.low

end BreakoutDay

/-- What an orchestrator is told. -/
inductive OrchestratorEvent where
  | bar (bar : BarInput) (mrEntrySignal : Option EntrySignal) (mrExitReason : Option ReasonCode)
  | warm (bar : BarInput)
  | filled (role : OrderRole) (owner : Owner) (side : Option Side)
  | rejected (role : OrderRole)
  | reset
  | restore (snapshot : HybridSnapshot)

def HybridOrchestrator.handle (orchestrator : HybridOrchestrator) :
    OrchestratorEvent → HybridOrchestrator
  | .bar bar mrEntrySignal mrExitReason =>
    (orchestrator.onBarWithMrOverride bar mrEntrySignal mrExitReason).1
  | .warm bar => orchestrator.warmBar bar
  | .filled role owner side => orchestrator.onOrderFilled role owner side
  | .rejected role => orchestrator.onOrderRejected role
  | .reset => orchestrator.reset
  | .restore snapshot => orchestrator.restore snapshot

/-- The days that a bar leaves, the latest first. -/
def addBar (excludeWeekends : Bool) (days : List BreakoutDay) (bar : BarInput) : List BreakoutDay :=
  if excludeWeekends && isWeekendDay bar.dt.date then days
  else
    match days with
    | [] => [⟨⟨bar, []⟩, []⟩]
    | day :: before =>
      if bar.dt.date = day.date then { day with bars := day.bars.concat bar } :: before
      else ⟨⟨bar, []⟩, []⟩ :: day :: before

def addFill (side : Side) : List BreakoutDay → List BreakoutDay
  | [] => []
  | day :: before => { day with filled := side :: day.filled } :: before

def OrchestratorEvent.days (excludeWeekends : Bool) (days : List BreakoutDay) :
    OrchestratorEvent → List BreakoutDay
  | .bar input _ _ | .warm input => addBar excludeWeekends days input
  | .filled .entry .intradayBreakout (some side) => addFill side days
  | _ => days

def daysOf (excludeWeekends : Bool) (events : List OrchestratorEvent) : List BreakoutDay :=
  events.foldl (OrchestratorEvent.days excludeWeekends) []

def IntradayBreakoutEngine.wasToday (engine : IntradayBreakoutEngine) : Side → Bool
  | .long => engine.wasLongToday
  | .short => engine.wasShortToday

/-- What the engine keeps of some days, the latest first. -/
structure Follows (config : IntradayBreakoutConfig) (days : List BreakoutDay)
    (engine : IntradayBreakoutEngine) : Prop where
  config_eq : engine.config = config
  date : engine.curDayDate = days[0]?.map (·.date)
  high : engine.curDayHigh = days[0]?.map (·.high)
  low : engine.curDayLow = days[0]?.map (·.low)
  close : engine.curDayClose = days[0]?.map (·.close)
  start : engine.todayStart = days[0]?.map (·.bars.first.dt)
  yesterdayClose : engine.yesterdayClose = days[1]?.map (·.close)
  yesterdayRange : engine.yesterdayRange = days[1]?.map (·.range)
  dayBeforeClose : engine.dayBeforeClose = days[1]?.map (·.close)
  yesterdayReturn : engine.yesterdayReturn =
    IntradayBreakoutEngine.dayReturn (days[2]?.map (·.close)) (days[1]?.map (·.close))
  filled : ∀ day ∈ days[0]?, ∀ side, engine.wasToday side = decide (side ∈ day.filled)

section Engine

variable {config : IntradayBreakoutConfig} {days : List BreakoutDay}
  {engine : IntradayBreakoutEngine}

/-- A bar joins the last day, or begins another one. -/
theorem Follows.onBar (h : Follows config days engine) (bar : BarInput) :
    Follows config (addBar config.excludeWeekends days bar)
      (engine.onBar bar.dt bar.openPrice bar.high bar.low bar.close) := by
  unfold addBar IntradayBreakoutEngine.onBar
  rw [h.config_eq]
  split_ifs with hweekend
  · exact h
  unfold IntradayBreakoutEngine.turnDay
  rw [h.date]
  cases days with
  | nil =>
    exact ⟨h.config_eq, rfl, rfl, rfl, rfl, rfl, h.yesterdayClose, h.yesterdayRange,
      h.dayBeforeClose, h.yesterdayReturn, fun _ hday side => by
        obtain rfl := Option.some.inj hday
        cases side <;> rfl⟩
  | cons day before =>
    obtain ⟨bars, filled⟩ := day
    show Follows config _ (IntradayBreakoutEngine.updateCurDay (if _ then _ else _) _ _ _)
    dsimp only
    by_cases hdate : bar.dt.date = BreakoutDay.date ⟨bars, filled⟩
    · rw [if_neg (not_not_intro hdate), if_pos hdate]
      have hall : (bars.concat bar).all = bars.all ++ [bar] := rfl
      refine ⟨h.config_eq, h.date, ?_, ?_, ?_, h.start, h.yesterdayClose, h.yesterdayRange,
        h.dayBeforeClose, h.yesterdayReturn,
        fun _ hday => Option.some.inj hday ▸ h.filled ⟨bars, filled⟩ rfl⟩
      · show some (max (engine.curDayHigh.getD _) _) = some (BreakoutDay.high _)
        rw [h.high]
        unfold BreakoutDay.high
        rw [hall, List.foldl_append]
        rfl
      · show some (min (engine.curDayLow.getD _) _) = some (BreakoutDay.low _)
        rw [h.low]
        unfold BreakoutDay.low
        rw [hall, List.foldl_append]
        rfl
      · show some bar.close = some (BreakoutDay.close _)
        exact congrArg (fun last => some last.close) (ValueGroup.last_concat bars bar).symm
    · rw [if_pos hdate, if_neg hdate]
      refine ⟨h.config_eq, rfl, rfl, rfl, rfl, rfl, h.close, ?_, h.close, ?_, fun _ hday side => by
        obtain rfl := Option.some.inj hday
        cases side <;> rfl⟩
      · show engine.onDayClose.yesterdayRange = _
        unfold IntradayBreakoutEngine.onDayClose
        rw [h.high, h.low]
        rfl
      · show IntradayBreakoutEngine.dayReturn engine.dayBeforeClose engine.curDayClose = _
        rw [h.dayBeforeClose, h.close]
        rfl

theorem wasToday_markEntry (side other : Side) :
    (engine.markEntry side).wasToday other = (decide (other = side) || engine.wasToday other) := by
  cases side <;> cases other <;> rfl

/-- A fill marks its side for the day. -/
theorem Follows.markEntry (h : Follows config days engine) (side : Side) :
    Follows config (addFill side days) (engine.markEntry side) := by
  have hfilled : ∀ day ∈ (addFill side days)[0]?, ∀ other,
      (engine.markEntry side).wasToday other = decide (other ∈ day.filled) := by
    cases days with
    | nil => exact nofun
    | cons day before =>
      rintro _ ⟨⟩ other
      rw [wasToday_markEntry, h.filled day rfl]
      simp [List.mem_cons]
  cases days with
  | nil | cons =>
    cases side <;> exact ⟨h.config_eq, h.date, h.high, h.low, h.close, h.start, h.yesterdayClose,
      h.yesterdayRange, h.dayBeforeClose, h.yesterdayReturn, hfilled⟩

end Engine

/-! ### Runs -/

section Runs

variable {config : IntradayBreakoutConfig} {meanReversion : MeanReversionEngine}
  {orchestratorConfig : HybridOrchestratorConfig} {orchestrator : HybridOrchestrator}
  {events : List OrchestratorEvent} {bar : BarInput} {mrEntrySignal : Option EntrySignal}
  {mrExitReason : Option ReasonCode} {signal : EntrySignal}

/-- What is decided on a bar leaves the engine alone. -/
theorem decideAction_engine :
    (orchestrator.decideAction bar mrEntrySignal mrExitReason).1.intradayBreakout =
      orchestrator.intradayBreakout := by
  have hentry : (orchestrator.decideEntry bar mrEntrySignal).1.intradayBreakout =
      orchestrator.intradayBreakout := by
    unfold HybridOrchestrator.decideEntry
    split_ifs
    · rfl
    · split <;> rfl
  unfold HybridOrchestrator.decideAction
  split_ifs
  · rfl
  · split <;> rfl
  · split
    · unfold HybridOrchestrator.emitBreakoutExit
      split_ifs <;> rfl
    · exact hentry
  · exact hentry

/-- The engine follows the days, whatever the orchestrator is told. -/
theorem Follows.handle {days : List BreakoutDay}
    (h : Follows config days orchestrator.intradayBreakout) (event : OrchestratorEvent) :
    Follows config (event.days config.excludeWeekends days)
      (orchestrator.handle event).intradayBreakout := by
  cases event with
  | bar bar mrEntrySignal mrExitReason =>
    show Follows config _ (HybridOrchestrator.decideAction _ _ _ _).1.intradayBreakout
    rw [decideAction_engine]
    exact h.onBar bar
  | warm bar => exact h.onBar bar
  | filled role owner side =>
    cases role with
    | exit => exact h
    | entry =>
      cases owner with
      | meanReversion => exact h
      | intradayBreakout =>
        cases side with
        | none => exact h
        | some side => exact h.markEntry side
  | rejected role =>
    cases role with
    | entry | exit => exact h
  | reset | restore => exact h

/-- The orchestrator after a run from a new one. -/
def hybridRun (meanReversion : MeanReversionEngine) (config : IntradayBreakoutConfig)
    (orchestratorConfig : HybridOrchestratorConfig) (events : List OrchestratorEvent) :
    HybridOrchestrator :=
  events.foldl HybridOrchestrator.handle
    (.new meanReversion (.new config) orchestratorConfig)

theorem follows_run : Follows config (daysOf config.excludeWeekends events)
    (hybridRun meanReversion config orchestratorConfig events).intradayBreakout := by
  unfold daysOf hybridRun
  induction events using List.reverseRecOn with
  | nil => exact ⟨rfl, rfl, rfl, rfl, rfl, rfl, rfl, rfl, rfl, rfl, nofun⟩
  | append_singleton events event ih =>
    rw [List.foldl_append, List.foldl_append]
    exact ih.handle event

/-- An entry is submitted where nothing is open or under way, and it is one of the two engines'. -/
theorem mem_onBarWithMrOverride
    (h : .submitEntry signal ∈
      (orchestrator.onBarWithMrOverride bar mrEntrySignal mrExitReason).2) :
    bar.hasOpenPosition = false ∧ bar.hasLiveOrders = false ∧ orchestrator.state ≠ .pending ∧
      (signal ∈ mrEntrySignal ∨ (orchestrator.intradayBreakout.onBar bar.dt bar.openPrice bar.high
        bar.low bar.close).evaluateEntry bar.dt bar.close = some signal) := by
  have hentry : .submitEntry signal ∈
      ((orchestrator.warmBar bar).decideEntry bar mrEntrySignal).2 := by
    unfold HybridOrchestrator.onBarWithMrOverride HybridOrchestrator.decideAction at h
    split_ifs at h
    · simp at h
    · split at h <;> simp at h
    · split at h
      · unfold HybridOrchestrator.emitBreakoutExit at h
        split_ifs at h <;> simp at h
      · exact h
    · exact h
  unfold HybridOrchestrator.decideEntry at hentry
  split_ifs at hentry with hbusy
  · cases hentry
  · simp only [Bool.or_eq_true, decide_eq_true_eq, not_or, Bool.not_eq_true] at hbusy
    refine ⟨hbusy.1.1, hbusy.1.2, hbusy.2, ?_⟩
    split at hentry
    · next found hfound =>
      obtain rfl : signal = found := by
        simpa [HybridOrchestrator.emitEntryAction] using hentry
      exact (Option.or_eq_some_iff.mp hfound).imp_right And.right
    · cases hentry

theorem of_canCheckEntry {engine : IntradayBreakoutEngine} {dt : NaiveDateTime}
    (h : engine.canCheckEntry dt = true) :
    (engine.config.excludeWeekends && isWeekendDay dt.date) = false ∧ ∃ start,
      engine.todayStart = some start ∧
        engine.config.waitHours ≤ ((dt.secs - start.secs : ℤ) : ℚ) / 3600 := by
  unfold IntradayBreakoutEngine.canCheckEntry at h
  split_ifs at h with hweekend
  refine ⟨Bool.not_eq_true _ ▸ hweekend, ?_⟩
  split at h
  · cases h
  · next start hstart => exact ⟨start, hstart, of_decide_eq_true h⟩

/-- What an entry of the engine was found to be. -/
theorem evaluateEntry_cases {engine : IntradayBreakoutEngine} {dt : NaiveDateTime} {close : ℚ}
    (h : engine.evaluateEntry dt close = some signal) :
    engine.canCheckEntry dt = true ∧ ∃ yesterdayClose yesterdayRange,
      engine.yesterdayClose = some yesterdayClose ∧ engine.yesterdayRange = some yesterdayRange ∧
        ((signal.side = .long ∧ engine.wasLongToday = false ∧
            yesterdayClose + engine.config.k * yesterdayRange < close ∧
              ∀ ret ∈ engine.yesterdayReturn, -engine.config.bigMoveThreshold ≤ ret) ∨
          (signal.side = .short ∧ engine.wasShortToday = false ∧
            close < yesterdayClose - engine.config.k * yesterdayRange ∧
              ∀ ret ∈ engine.yesterdayReturn, ret ≤ engine.config.bigMoveThreshold)) := by
  unfold IntradayBreakoutEngine.evaluateEntry at h
  split at h
  · cases h
  · next hcheck =>
    refine ⟨by simpa using hcheck, ?_⟩
    split at h
    · next yesterdayClose yesterdayRange hclose hrange =>
      refine ⟨yesterdayClose, yesterdayRange, hclose, hrange, ?_⟩
      dsimp only at h
      split_ifs at h with hfilter hlong hshort
      · obtain rfl := Option.some.inj h
        simp only [Bool.and_eq_true, Bool.not_eq_true', decide_eq_true_eq,
          Option.all_eq_true] at hlong
        exact .inl ⟨rfl, hlong.1.2, hlong.2, hlong.1.1⟩
      · obtain rfl := Option.some.inj h
        simp only [Bool.and_eq_true, Bool.not_eq_true', decide_eq_true_eq,
          Option.all_eq_true] at hshort
        exact .inr ⟨rfl, hshort.1.2, hshort.2, hshort.1.1⟩
    · cases h

/-- A close beyond the range of the day before, which was no large move against the side. -/
def Beyond (config : IntradayBreakoutConfig) (yesterday : BreakoutDay)
    (dayBefore : Option BreakoutDay) (close : ℚ) : Side → Prop
  | .long => yesterday.close + config.k * yesterday.range < close ∧
    ∀ ret ∈ IntradayBreakoutEngine.dayReturn (dayBefore.map (·.close)) (some yesterday.close),
      -config.bigMoveThreshold ≤ ret
  | .short => close < yesterday.close - config.k * yesterday.range ∧
    ∀ ret ∈ IntradayBreakoutEngine.dayReturn (dayBefore.map (·.close)) (some yesterday.close),
      ret ≤ config.bigMoveThreshold

theorem last_addBar {excludeWeekends : Bool} {days before : List BreakoutDay} {today : BreakoutDay}
    (hweekend : (excludeWeekends && isWeekendDay bar.dt.date) = false)
    (h : addBar excludeWeekends days bar = today :: before) : today.bars.last = bar := by
  unfold addBar at h
  rw [hweekend, if_neg Bool.false_ne_true] at h
  cases days with
  | nil =>
    obtain ⟨rfl, -⟩ := List.cons.inj h
    rfl
  | cons day days =>
    dsimp only at h
    split_ifs at h
    · obtain ⟨rfl, -⟩ := List.cons.inj h
      exact ValueGroup.last_concat day.bars bar
    · obtain ⟨rfl, -⟩ := List.cons.inj h
      rfl

/-- In every run a breakout entry is submitted only where nothing is open or under way, at a close
beyond the range of the day before, on a side that was not filled that day, and not before the hours
to wait are over. -/
theorem breakout_submitted (hmr : ∀ s ∈ mrEntrySignal, s.owner = .meanReversion)
    (h : .submitEntry signal ∈ ((hybridRun meanReversion config orchestratorConfig
      events).onBarWithMrOverride bar mrEntrySignal mrExitReason).2)
    (howner : signal.owner = .intradayBreakout) :
    bar.hasOpenPosition = false ∧ bar.hasLiveOrders = false ∧ ∃ today yesterday before,
      addBar config.excludeWeekends (daysOf config.excludeWeekends events) bar =
          today :: yesterday :: before ∧
        today.bars.last = bar ∧ signal.side ∉ today.filled ∧
          config.waitHours ≤ ((bar.dt.secs - today.bars.first.dt.secs : ℤ) : ℚ) / 3600 ∧
            Beyond config yesterday before[0]? bar.close signal.side := by
  obtain ⟨hposition, horders, -, hsignal⟩ := mem_onBarWithMrOverride h
  refine ⟨hposition, horders, ?_⟩
  have hentry := hsignal.resolve_left fun hmem => (nomatch (hmr signal hmem).symm.trans howner)
  have hfollows : Follows config (daysOf config.excludeWeekends events)
      (hybridRun meanReversion config orchestratorConfig events).intradayBreakout := follows_run
  have hbar := hfollows.onBar bar
  generalize IntradayBreakoutEngine.onBar _ bar.dt bar.openPrice bar.high bar.low bar.close = engine
    at hentry hbar
  generalize hdays : addBar config.excludeWeekends (daysOf config.excludeWeekends events) bar = days
    at hbar
  obtain ⟨hcheck, yesterdayClose, yesterdayRange, hclose, hrange, hside⟩ :=
    evaluateEntry_cases hentry
  obtain ⟨hweekend, start, hstart, hwait⟩ := of_canCheckEntry hcheck
  rw [hbar.config_eq] at hweekend hwait hside
  match days with
  | [] | [_] => exact (nomatch hbar.yesterdayClose.symm.trans hclose)
  | today :: yesterday :: before =>
    obtain rfl := Option.some.inj (hbar.yesterdayClose.symm.trans hclose)
    obtain rfl := Option.some.inj (hbar.yesterdayRange.symm.trans hrange)
    obtain rfl := Option.some.inj (hbar.start.symm.trans hstart)
    rw [hbar.yesterdayReturn] at hside
    refine ⟨today, yesterday, before, rfl, last_addBar hweekend hdays, ?_⟩
    have hfilled := hbar.filled today rfl
    rcases hside with ⟨hside, hfree, hbeyond⟩ | ⟨hside, hfree, hbeyond⟩
    · rw [hside]
      exact ⟨of_decide_eq_false ((hfilled .long).symm.trans hfree), hwait, hbeyond⟩
    · rw [hside]
      exact ⟨of_decide_eq_false ((hfilled .short).symm.trans hfree), hwait, hbeyond⟩

end Runs


/-! ### A breakout -/

namespace Sample

def breakoutConfig : IntradayBreakoutConfig := ⟨1 / 2, 1, 1, 1, 0, .disabled, true, 1⟩

/-- A bar of a day of July 2026. -/
def julyBar (day hour : ℕ) (high low close : ℚ) : BarInput :=
  ⟨⟨.fromYmd 2026 7 day, .fromHms hour 0 0⟩, 100, high, low, close, 0, 0, false, false⟩

/-- A Friday with a range of four, and the first bar of the Monday after it. -/
def julyEvents : List OrchestratorEvent :=
  [.bar (julyBar 3 12 102 98 100) none none, .bar (julyBar 6 10 101 99 100) none none]

def julyMeanReversion : MeanReversionEngine :=
  ⟨⟨0, 0, 0, 0, 0, 0, 0, 0, 0, 0, 1, .fromHms 23 50 0, 0⟩⟩

/-- At eleven the price is three above the close of the Friday. -/
theorem breakout_submitted_july : ∃ today yesterday before,
    addBar true (daysOf true julyEvents) (julyBar 6 11 103 100 103) =
        today :: yesterday :: before ∧
      today.bars.last = julyBar 6 11 103 100 103 ∧ .long ∉ today.filled ∧
        1 ≤ (((julyBar 6 11 103 100 103).dt.secs - today.bars.first.dt.secs : ℤ) : ℚ) / 3600 ∧
          Beyond breakoutConfig yesterday before[0]? 103 .long := by
  have hsubmit : .submitEntry (IntradayBreakoutEngine.entrySignal .long .breakoutLong) ∈
      ((hybridRun julyMeanReversion breakoutConfig ⟨.sameDay, .fromHms 10 0 0⟩
        julyEvents).onBarWithMrOverride (julyBar 6 11 103 100 103) none none).2 := by
    decide +kernel
  exact (breakout_submitted (by nofun) hsubmit (by rfl)).2.2

end Sample

end AlorRs.HybridIntraday
