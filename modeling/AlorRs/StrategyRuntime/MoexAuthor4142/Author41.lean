import AlorRs.Lib.Rows
import AlorRs.StrategyRuntime.MoexAuthor4142

/-!
# The batch engine of Author41

A mean reversion on the range of the day before.  The engine holds one position at a time, looks at
the exits of a position on every later bar of its date, and lets a position go without a trade when
the date changes.
-/

namespace AlorRs.MoexAuthor4142

inductive ShadowSide where
  | long | short
deriving DecidableEq

/-! ### Bars by day -/

def modelBars (policy : RegularSessionPolicy) (bars : List ModelBar) : List ModelBar :=
  (bars.filter fun bar => policy.isModelBar bar.tsLocal).insertionSort fun bar bar' =>
    bar.tsLocal ≤ bar'.tsLocal

structure DayStats where
  high : ℚ
  low : ℚ
  close : ℚ
deriving DecidableEq

def DayStats.add (stats : Option DayStats) (bar : ModelBar) : DayStats :=
  match stats with
  | none => ⟨bar.high, bar.low, bar.close⟩
  | some stats => ⟨max stats.high bar.high, min stats.low bar.low, bar.close⟩

variable (bars : List ModelBar)

/-- `by_day` of `build_daily_anchors` and of `build_author42_daily_context`. -/
def dayStats : OrderedMap NaiveDate DayStats :=
  OrderedMap.addAll (fun bar => bar.tsLocal.date) DayStats.add .empty bars

structure DailyAnchor where
  prevClose : ℚ
  prevLow : ℚ
  prevRange : ℚ
deriving DecidableEq

def DailyAnchor.ofStats (prev : DayStats) : DailyAnchor := ⟨prev.close, prev.low, prev.high - prev.low⟩

def addAnchor (acc : OrderedMap NaiveDate DailyAnchor × Option DayStats)
    (day : NaiveDate × DayStats) : OrderedMap NaiveDate DailyAnchor × Option DayStats :=
  match acc.2 with
  | none => (acc.1, some day.2)
  | some prev => (acc.1.insert day.1 (.ofStats prev), some day.2)

def buildDailyAnchors : OrderedMap NaiveDate DailyAnchor :=
  ((dayStats bars).entries.foldl addAnchor (.empty, none)).1

/-! ### The engine -/

structure Author41Trade where
  side : ShadowSide
  entryTs : NaiveDateTime
  exitTs : NaiveDateTime
  entryPrice : ℚ
  exitPrice : ℚ
  grossPoints : ℚ
  netPoints : ℚ
  exitReason : String
  barsHeld : ℕ
  entryIndexForDay : ℕ
deriving DecidableEq

structure OpenAuthor41Position where
  side : ShadowSide
  entryTs : NaiveDateTime
  entryPrice : ℚ
  prevClose : ℚ
  prevRange : ℚ
  barsHeld : ℕ
  entryIndexForDay : ℕ
deriving DecidableEq

structure Author41Engine where
  config : Author41Config
  currentDate : Option NaiveDate
  dayEntries : ℕ
  position : Option OpenAuthor41Position
deriving DecidableEq

namespace Author41Engine

variable (engine : Author41Engine) (config : Author41Config)

def new : Author41Engine := ⟨config, none, 0, none⟩

def entrySide (close : ℚ) (anchor : DailyAnchor) : Option ShadowSide :=
  let shortSignal := anchor.prevClose < close &&
    close < anchor.prevClose + engine.config.k * anchor.prevRange
  let longSignal := close < anchor.prevClose &&
    anchor.prevClose - engine.config.k * anchor.prevRange < close
  match engine.config.sideMode with
  | .short => if shortSignal then some .short else none
  | .long => if longSignal then some .long else none
  | .dual => if shortSignal then some .short else if longSignal then some .long else none

variable (pos : OpenAuthor41Position) (bar : ModelBar)

def exitSignal : Option (ℚ × String) :=
  match pos.side with
  | .short =>
    let stopPrice := pos.prevClose + config.stopK * pos.prevRange
    let takePrice := pos.prevClose - config.k2 * pos.prevRange
    if stopPrice ≤ bar.high then some (stopPrice, "stop")
    else if bar.close < takePrice then some (bar.close, "take_author_close")
    else if config.timeExit ≤ bar.tsLocal.time then some (bar.close, "time_exit")
    else if config.breakevenAfterBars < pos.barsHeld ∧ bar.low ≤ pos.entryPrice then
      some (pos.entryPrice, "breakeven_limit")
    else none
  | .long =>
    let stopPrice := pos.prevClose - config.stopK * pos.prevRange
    let takePrice := pos.prevClose + config.k2 * pos.prevRange
    if bar.low ≤ stopPrice then some (stopPrice, "stop")
    else if takePrice < bar.close then some (bar.close, "take_author_close")
    else if config.timeExit ≤ bar.tsLocal.time then some (bar.close, "time_exit")
    else if config.breakevenAfterBars < pos.barsHeld ∧ pos.entryPrice ≤ bar.high then
      some (pos.entryPrice, "breakeven_limit")
    else none

def closePosition (exitTs : NaiveDateTime) (exitPrice : ℚ) (reason : String) : Author41Trade :=
  let grossPoints := match pos.side with
    | .short => pos.entryPrice - exitPrice
    | .long => exitPrice - pos.entryPrice
  { side := pos.side
    entryTs := pos.entryTs
    exitTs := exitTs
    entryPrice := pos.entryPrice
    exitPrice := exitPrice
    grossPoints := grossPoints
    netPoints := grossPoints - config.roundtripCostPoints
    exitReason := reason
    barsHeld := pos.barsHeld
    entryIndexForDay := pos.entryIndexForDay }

/-- The start of `on_bar`: a new date forgets the entries and the position of the one before. -/
def startDate (date : NaiveDate) : Author41Engine :=
  if engine.currentDate = some date then engine
  else { engine with currentDate := some date, dayEntries := 0, position := none }

/-- The part of `on_bar` for the position that is held. -/
def manage : Author41Engine × List Author41Trade :=
  match engine.position with
  | none => (engine, [])
  | some pos =>
    let pos := { pos with barsHeld := pos.barsHeld + 1 }
    match exitSignal engine.config pos bar with
    | none => ({ engine with position := some pos }, [])
    | some (exitPrice, reason) =>
      ({ engine with position := none },
        [closePosition engine.config pos bar.tsLocal exitPrice reason])

/-- The anchor has a range, and its relative range lies inside the bounds. -/
def admits (anchor : DailyAnchor) : Bool :=
  let relRange := anchor.prevRange / anchor.prevLow
  0 < anchor.prevRange && 0 < anchor.prevLow && config.minRange < relRange &&
    relRange < config.maxRange

/-- The part of `on_bar` for a new entry. -/
def enter (anchor : Option DailyAnchor) : Author41Engine :=
  if engine.position.isSome then engine
  else if engine.config.maxEntriesPerDay ≤ engine.dayEntries then engine
  else if engine.config.entryEnd < bar.tsLocal.time then engine
  else
    match anchor with
    | none => engine
    | some anchor =>
      if !admits engine.config anchor then engine
      else
        match engine.entrySide bar.close anchor with
        | none => engine
        | some side =>
          { engine with
            dayEntries := engine.dayEntries + 1
            position := some
              { side := side
                entryTs := bar.tsLocal
                entryPrice := bar.close
                prevClose := anchor.prevClose
                prevRange := anchor.prevRange
                barsHeld := 0
                entryIndexForDay := engine.dayEntries + 1 } }

def onBar (anchor : Option DailyAnchor) : Author41Engine × List Author41Trade :=
  let (engine, trades) := (engine.startDate bar.tsLocal.date).manage bar
  (engine.enter bar anchor, trades)

end Author41Engine

/-! ### The replay -/

structure Author41DailyPnl where
  date : NaiveDate
  pnlPoints : ℚ
  trades : ℕ
deriving DecidableEq

def Author41DailyPnl.add (row : Option Author41DailyPnl) (trade : Author41Trade) :
    Author41DailyPnl :=
  let row := row.getD ⟨trade.exitTs.date, 0, 0⟩
  { row with pnlPoints := row.pnlPoints + trade.netPoints, trades := row.trades + 1 }

def author41Rows : OrderedMap NaiveDate Author41DailyPnl :=
  OrderedMap.addAll (fun bar => bar.tsLocal.date) (fun _ bar => ⟨bar.tsLocal.date, 0, 0⟩) .empty bars

def addAuthor41Trades (rows : OrderedMap NaiveDate Author41DailyPnl)
    (trades : List Author41Trade) : OrderedMap NaiveDate Author41DailyPnl :=
  OrderedMap.addAll (fun trade => trade.exitTs.date) Author41DailyPnl.add rows trades

structure Author41ReplayResult where
  trades : List Author41Trade
  daily : List Author41DailyPnl
deriving DecidableEq

structure Author41Replay where
  engine : Author41Engine
  trades : List Author41Trade
  dailyMap : OrderedMap NaiveDate Author41DailyPnl

def Author41Replay.onBar (anchors : OrderedMap NaiveDate DailyAnchor) (r : Author41Replay)
    (bar : ModelBar) : Author41Replay :=
  let (engine, closed) := r.engine.onBar bar (anchors.get? bar.tsLocal.date)
  ⟨engine, r.trades ++ closed, addAuthor41Trades r.dailyMap closed⟩

def replayAuthor41 (config : Author41Config) (policy : RegularSessionPolicy)
    : Author41ReplayResult :=
  let filtered := modelBars policy bars
  let r := filtered.foldl (Author41Replay.onBar (buildDailyAnchors filtered))
    ⟨.new config, [], author41Rows filtered⟩
  ⟨r.trades, r.dailyMap.values⟩

end AlorRs.MoexAuthor4142
