import AlorRs.Lib.Groups
import AlorRs.StrategyRuntime.MoexAuthor4142.Author41

/-!
# The batch engine of Author42

A breakout of the range of the day before, replayed day by day.  Entries and stops are carried out
at the open of the next bar, the time exit at the close of its own bar, and a position that the last
bar of the day leaves is closed there.
-/

namespace AlorRs.MoexAuthor4142

/-! ### The context of a day -/

/-- The context of a day; a ratio is absent where the division has no finite result. -/
structure Author42DailyContext where
  prevClose : ℚ
  prev2Close : ℚ
  prevRange : ℚ
  prevHlRatio : Option ℚ
  prevRet : Option ℚ
deriving DecidableEq

def finiteQuotient (a b : ℚ) : Option ℚ := if b = 0 then none else some (a / b)

def Author42DailyContext.ofStats (prev : DayStats) (prev2Close : ℚ) : Author42DailyContext where
  prevClose := prev.close
  prev2Close := prev2Close
  prevRange := prev.high - prev.low
  prevHlRatio := finiteQuotient prev.high prev.low
  prevRet := (finiteQuotient prev.close prev2Close).map (· - 1)

/-- What the loop of `build_author42_daily_context` keeps. -/
structure Author42Contexts where
  contexts : OrderedMap NaiveDate Author42DailyContext
  prev2Close : Option ℚ
  prev : Option DayStats

def Author42Contexts.addDay (c : Author42Contexts) (day : NaiveDate × DayStats) :
    Author42Contexts where
  contexts :=
    match c.prev, c.prev2Close with
    | some prev, some prev2Close => c.contexts.insert day.1 (.ofStats prev prev2Close)
    | _, _ => c.contexts
  prev2Close := c.prev.map DayStats.close
  prev := some day.2

variable (bars : List ModelBar)

def buildAuthor42DailyContext : OrderedMap NaiveDate Author42DailyContext :=
  ((dayStats bars).entries.foldl Author42Contexts.addDay ⟨.empty, none, none⟩).contexts

/-! ### A day -/

structure Author42Trade where
  side : ShadowSide
  entryTs : NaiveDateTime
  exitTs : NaiveDateTime
  entryPrice : ℚ
  exitPrice : ℚ
  grossPoints : ℚ
  pnlPoints : ℚ
  exitReason : String
  barsHeld : ℕ
deriving DecidableEq

structure OpenAuthor42Position where
  side : ShadowSide
  entryTs : NaiveDateTime
  entryPrice : ℚ
  barsHeld : ℕ
deriving DecidableEq

inductive Author42Pending where
  | entry (side : ShadowSide)
  | exit (reason : String)
deriving DecidableEq

def closeAuthor42Position (pos : OpenAuthor42Position) (exitTs : NaiveDateTime) (exitPrice : ℚ)
    (reason : String) (costPoints : ℚ) : Author42Trade :=
  let grossPoints := match pos.side with
    | .long => exitPrice - pos.entryPrice
    | .short => pos.entryPrice - exitPrice
  { side := pos.side
    entryTs := pos.entryTs
    exitTs := exitTs
    entryPrice := pos.entryPrice
    exitPrice := exitPrice
    grossPoints := grossPoints
    pnlPoints := grossPoints - costPoints
    exitReason := reason
    barsHeld := pos.barsHeld }

/-- What the loop of `run_author42_day` keeps; the extremes of the day are absent where they are the
infinities of an empty day. -/
structure Author42Day where
  longLevel : Option ℚ
  shortLevel : Option ℚ
  tradeAllowed : Bool
  wasLongToday : Bool
  wasShortToday : Bool
  entriesToday : ℕ
  pos : Option OpenAuthor42Position
  pending : Option Author42Pending
  dayHh : Option ℚ
  dayLl : Option ℚ
  pnl : ℚ
  trades : List Author42Trade
deriving DecidableEq

/-- What does not change within a day: its context and configuration, the sides that may be entered,
its first bar, and the bar after which there are levels. -/
structure Author42DayPlan where
  ctx : Author42DailyContext
  config : Author42Config
  buyTrig : Bool
  shortTrig : Bool
  firstBar : ModelBar
  firstIdx : Option ℕ

structure DayBar where
  index : ℕ
  bar : ModelBar
  next : Option ModelBar

namespace Author42Day

def start : Author42Day where
  longLevel := none
  shortLevel := none
  tradeAllowed := true
  wasLongToday := false
  wasShortToday := false
  entriesToday := 0
  pos := none
  pending := none
  dayHh := none
  dayLl := none
  pnl := 0
  trades := []

variable (s : Author42Day) (plan : Author42DayPlan)

def close (pos : OpenAuthor42Position) (config : Author42Config) (exitTs : NaiveDateTime)
    (exitPrice : ℚ) (reason : String) : Author42Day :=
  let trade := closeAuthor42Position pos exitTs exitPrice reason config.roundtripCostPoints
  { s with pos := none, pnl := s.pnl + trade.pnlPoints, trades := s.trades ++ [trade] }

variable (config : Author42Config) (bar : ModelBar)

/-- What is pending is carried out at the open of a bar. -/
def carryOut : Author42Day :=
  let pendingAction := s.pending
  let s := { s with pending := none }
  match pendingAction with
  | none => s
  | some (.exit reason) =>
    match s.pos with
    | none => s
    | some pos => s.close pos config bar.tsLocal bar.opened reason
  | some (.entry side) =>
    match s.pos with
    | some _ => s
    | none =>
      { s with
        pos := some ⟨side, bar.tsLocal, bar.opened, 0⟩
        wasLongToday := side = .long || s.wasLongToday
        wasShortToday := side = .short || s.wasShortToday
        entriesToday := s.entriesToday + 1 }

def addExtremes : Author42Day :=
  { s with
    dayHh := some (s.dayHh.elim bar.high fun high => max high bar.high)
    dayLl := some (s.dayLl.elim bar.low fun low => min low bar.low) }

/-- The stop that a position makes pending. -/
def stopReason (side : ShadowSide) (bar : ModelBar) : Option String :=
  let hourCheck := isAuthor42HourCheck bar.tsLocal plan.firstBar.tsLocal
  let prevClose := plan.ctx.prevClose
  let prevRange := plan.ctx.prevRange
  match side with
  | .long =>
    if bar.close < prevClose + plan.config.stopK * prevRange then
      some "stop_emergency_long_next_open"
    else if hourCheck ∧ bar.close < prevClose + plan.config.stopHourK * prevRange then
      some "stop_hour_long_next_open"
    else none
  | .short =>
    if prevClose - plan.config.stopK * prevRange < bar.close then
      some "stop_emergency_short_next_open"
    else if hourCheck ∧ prevClose - plan.config.stopHourK * prevRange < bar.close then
      some "stop_hour_short_next_open"
    else none

/-- The part of a bar for the position that is held; the answer tells whether the bar closes it by
its time. -/
def manage : Author42Day × Bool :=
  match s.pos with
  | none => (s, false)
  | some pos =>
    let pos := { pos with barsHeld := pos.barsHeld + 1 }
    if plan.config.exitTime ≤ bar.tsLocal.time then
      (s.close pos plan.config bar.tsLocal bar.close "time_exit_same_bar_close", true)
    else
      let pending := (stopReason plan pos.side bar).map Author42Pending.exit
      ({ s with pos := some pos, pending := pending.or s.pending }, false)

def setLevels (b : DayBar) : Author42Day :=
  let prevClose := plan.ctx.prevClose
  let prevRange := plan.ctx.prevRange
  if some b.index = plan.firstIdx then
    { s with
      longLevel :=
        some (max (max (prevClose + plan.config.k * prevRange) b.bar.close) plan.firstBar.high)
      shortLevel :=
        some (min (min (prevClose - plan.config.k * prevRange) b.bar.close) plan.firstBar.low)
      tradeAllowed :=
        if plan.config.useFirstHourExtremeFilter ∧
            plan.config.firstHourExtremeK * prevRange < |b.bar.close - prevClose| then false
        else s.tradeAllowed }
  else s

/-- The entry that a bar without position makes pending. -/
def entrySignal (b : DayBar) : Option ShadowSide :=
  if s.pending.isSome || s.pos.isSome || !s.tradeAllowed then none
  else
    match s.longLevel, s.shortLevel, b.next with
    | some longLevel, some shortLevel, some next =>
      if plan.config.exitTime ≤ b.bar.tsLocal.time then none
      else if plan.config.maxEntriesPerDay.any (· ≤ s.entriesToday) then none
      else
        let nextEntryAllowed := plan.config.lastEntryTime.all (next.tsLocal.time ≤ ·)
        if plan.config.allowReentryOnDayExtreme && nextEntryAllowed && s.wasLongToday &&
            s.dayHh.all (· ≤ b.bar.high) then some .long
        else if plan.config.allowReentryOnDayExtreme && nextEntryAllowed && s.wasShortToday &&
            s.dayLl.all (b.bar.low ≤ ·) then some .short
        else if isAuthor42HourCheck b.bar.tsLocal plan.firstBar.tsLocal && nextEntryAllowed then
          if plan.buyTrig && longLevel < b.bar.close then some .long
          else if plan.shortTrig && b.bar.close < shortLevel then some .short
          else none
        else none
    | _, _, _ => none

def onBar (s : Author42Day) (b : DayBar) : Author42Day :=
  let (s, closed) := ((s.carryOut plan.config b.bar).addExtremes b.bar).manage plan b.bar
  if closed then s
  else
    let s := s.setLevels plan b
    match s.entrySignal plan b with
    | none => s
    | some side => { s with pending := some (.entry side) }

def forceClose (last : ModelBar) : Author42Day :=
  match s.pos with
  | none => s
  | some pos => s.close pos config last.tsLocal last.close "forced_last_bar_close"

end Author42Day

def dayBars : ℕ → List ModelBar → List DayBar
  | _, [] => []
  | index, bar :: rest => ⟨index, bar, rest.head?⟩ :: dayBars (index + 1) rest

structure Author42DailyPnl where
  date : NaiveDate
  pnlPoints : ℚ
  trades : ℕ
  skipped : String
deriving DecidableEq

def skipReason (date : NaiveDate) (ctx : Author42DailyContext) (config : Author42Config) :
    Option String :=
  if config.excludeFriday ∧ date.weekday = .fri then some "friday"
  else if config.excludeJuneWindow ∧ inAuthorJuneWindow date then some "june_window"
  else if ctx.prevHlRatio.isNone ∨ ctx.prevRet.isNone then some "missing_context"
  else if ctx.prevRange ≤ 0 ∨ ctx.prevClose ≤ 0 then some "bad_context"
  else none

def dayPlan (ctx : Author42DailyContext) (config : Author42Config) (firstBar : ModelBar)
    (length : ℕ) : Author42DayPlan :=
  let rangeOk := ctx.prevHlRatio.any (config.minPrevHlRatio < ·)
  let buyTrig := rangeOk && ctx.prevRet.any (-config.prevExtremeMove < ·)
  let shortTrig := rangeOk && ctx.prevRet.any (· < config.prevExtremeMove)
  { ctx := ctx
    config := config
    buyTrig := config.sideMode ≠ .short && buyTrig
    shortTrig := config.sideMode ≠ .long && shortTrig
    firstBar := firstBar
    firstIdx := if 6 ≤ length then some 5 else none }

def runAuthor42Day (date : NaiveDate) (day : ValueGroup ModelBar) (ctx : Author42DailyContext)
    (config : Author42Config) : List Author42Trade × Author42DailyPnl :=
  match skipReason date ctx config with
  | some reason => ([], ⟨date, 0, 0, reason⟩)
  | none =>
    let plan := dayPlan ctx config day.first day.all.length
    let s := ((dayBars 0 day.all).foldl (Author42Day.onBar plan) .start).forceClose config day.last
    (s.trades, ⟨date, s.pnl, s.trades.length, ""⟩)

/-! ### The replay -/

structure Author42ReplayResult where
  trades : List Author42Trade
  daily : List Author42DailyPnl
deriving DecidableEq

def replayAuthor42Day (contexts : OrderedMap NaiveDate Author42DailyContext)
    (config : Author42Config) (day : NaiveDate × ValueGroup ModelBar) :
    List Author42Trade × Author42DailyPnl :=
  match contexts.get? day.1 with
  | none => ([], ⟨day.1, 0, 0, "missing_context"⟩)
  | some ctx => runAuthor42Day day.1 day.2 ctx config

def replayAuthor42 (config : Author42Config) (policy : RegularSessionPolicy)
    : Author42ReplayResult :=
  let filtered := modelBars policy bars
  let byDay := OrderedMap.group (filtered.map fun bar => (bar.tsLocal.date, bar))
  let days := byDay.entries.map (replayAuthor42Day (buildAuthor42DailyContext filtered) config)
  ⟨days.flatMap Prod.fst, days.map Prod.snd⟩

end AlorRs.MoexAuthor4142
