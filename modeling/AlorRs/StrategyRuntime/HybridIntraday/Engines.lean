import AlorRs.Chrono
import Mathlib.Algebra.Order.Ring.Rat
import Mathlib.Data.Rat.Floor

/-!
# The signal engines of the hybrid strategy

`IntradayBreakoutEngine` follows the local day and trades a break of yesterday's close by a part of
yesterday's range, at most once a day on each side (`wasLongToday`, `wasShortToday`).
`MeanReversionEngine` and `High180MrEngine` trade against a small move in the morning.
-/

namespace AlorRs.HybridIntraday

/-! ### Types -/

/-- The engine that a position belongs to. -/
inductive Owner where
  | meanReversion | intradayBreakout
deriving DecidableEq, Repr

/-- The direction of a position. -/
inductive Side where
  | long | short
deriving DecidableEq, Repr

inductive EntryStyle where
  | bracket | market
deriving DecidableEq, Repr

inductive ReasonCode where
  | morningMeanReversionLong | morningMeanReversionShort
  | breakoutLong | breakoutShort | breakoutEodExit
  | breakoutStop2Long | breakoutStop1Long | breakoutStop2Short | breakoutStop1Short
  | meanRevTimeCutoff | waitfixOvernightExit
deriving DecidableEq, Repr

structure EntrySignal where
  owner : Owner
  side : Side
  entryStyle : EntryStyle
  reason : ReasonCode
  stopPrice : Option ℚ
  takePrice : Option ℚ
deriving DecidableEq, Repr

structure ExitSignal where
  owner : Owner
  reason : ReasonCode
deriving DecidableEq, Repr

inductive Action where
  | submitEntry (entry : EntrySignal)
  | submitExit (owner : Owner) (reason : ReasonCode)
  | armOvernightExit (owner : Owner) (reason : ReasonCode) (armedDate : NaiveDate)
      (exitTime : NaiveTime)
deriving DecidableEq, Repr

def isWeekendDay (date : NaiveDate) : Bool := date.weekday = .sat || date.weekday = .sun

/-! ### The breakout engine -/

inductive MinRangeMode where
  | disabled | absolute | relativePrevClose
deriving DecidableEq, Repr

structure IntradayBreakoutConfig where
  k : ℚ
  stop1Range : ℚ
  stop2Range : ℚ
  bigMoveThreshold : ℚ
  minRange : ℚ
  minRangeMode : MinRangeMode
  excludeWeekends : Bool
  waitHours : ℚ
deriving DecidableEq, Repr

structure IntradayBreakoutSnapshot where
  curDayDate : Option NaiveDate
  curDayHigh : Option ℚ
  curDayLow : Option ℚ
  curDayClose : Option ℚ
  yesterdayClose : Option ℚ
  yesterdayRange : Option ℚ
  yesterdayReturn : Option ℚ
  dayBeforeClose : Option ℚ
  wasLongToday : Bool
  wasShortToday : Bool
  todayStart : Option NaiveDateTime
deriving DecidableEq, Repr

structure IntradayBreakoutEngine extends IntradayBreakoutSnapshot where
  config : IntradayBreakoutConfig
deriving DecidableEq, Repr

namespace IntradayBreakoutEngine

variable (config : IntradayBreakoutConfig)

def new : IntradayBreakoutEngine where
  config := config
  curDayDate := none
  curDayHigh := none
  curDayLow := none
  curDayClose := none
  yesterdayClose := none
  yesterdayRange := none
  yesterdayReturn := none
  dayBeforeClose := none
  wasLongToday := false
  wasShortToday := false
  todayStart := none

variable (engine : IntradayBreakoutEngine) (dt : NaiveDateTime)

def initNewDay (openPrice : ℚ) : IntradayBreakoutEngine :=
  { engine with
    curDayDate := some dt.date
    curDayHigh := some openPrice
    curDayLow := some openPrice
    curDayClose := some openPrice
    todayStart := some dt
    wasLongToday := false
    wasShortToday := false }

def updateCurDay (high low close : ℚ) : IntradayBreakoutEngine :=
  { engine with
    curDayHigh := some (max (engine.curDayHigh.getD high) high)
    curDayLow := some (min (engine.curDayLow.getD low) low)
    curDayClose := some close }

def dayReturn (dayBeforeClose yesterdayClose : Option ℚ) : Option ℚ :=
  match dayBeforeClose, yesterdayClose with
  | some before, some yesterday => if before ≠ 0 then some ((yesterday - before) / before) else none
  | _, _ => none

def onDayClose : IntradayBreakoutEngine :=
  { engine with
    yesterdayClose := engine.curDayClose
    yesterdayRange :=
      match engine.curDayHigh, engine.curDayLow with
      | some high, some low => some (high - low)
      | _, _ => none
    yesterdayReturn := dayReturn engine.dayBeforeClose engine.curDayClose
    dayBeforeClose := engine.curDayClose }

def turnDay (openPrice : ℚ) : IntradayBreakoutEngine :=
  match engine.curDayDate with
  | none => engine.initNewDay dt openPrice
  | some day => if dt.date ≠ day then engine.onDayClose.initNewDay dt openPrice else engine

def onBar (openPrice high low close : ℚ) : IntradayBreakoutEngine :=
  if engine.config.excludeWeekends && isWeekendDay dt.date then engine
  else (engine.turnDay dt openPrice).updateCurDay high low close

def markEntry : Side → IntradayBreakoutEngine
  | .long => { engine with wasLongToday := true }
  | .short => { engine with wasShortToday := true }

def snapshot : IntradayBreakoutSnapshot :=
  engine.toIntradayBreakoutSnapshot

def restoreSnapshot (snapshot : IntradayBreakoutSnapshot) : IntradayBreakoutEngine :=
  { engine with toIntradayBreakoutSnapshot := snapshot }

def canCheckEntry : Bool :=
  if engine.config.excludeWeekends && isWeekendDay dt.date then false
  else
    match engine.todayStart with
    | none => false
    | some todayStart => engine.config.waitHours ≤ ((dt.secs - todayStart.secs : ℤ) : ℚ) / 3600

def passesMinRangeFilter : Bool :=
  match engine.config.minRangeMode with
  | .disabled => true
  | .absolute => engine.config.minRange ≤ engine.yesterdayRange.getD 0
  | .relativePrevClose =>
    match engine.yesterdayClose with
    | none => false
    | some yesterdayClose =>
      if yesterdayClose = 0 then false
      else engine.config.minRange ≤ engine.yesterdayRange.getD 0 / yesterdayClose

def entrySignal (side : Side) (reason : ReasonCode) : EntrySignal :=
  ⟨.intradayBreakout, side, .market, reason, none, none⟩

def evaluateEntry (close : ℚ) : Option EntrySignal :=
  if !engine.canCheckEntry dt then none
  else
    match engine.yesterdayClose, engine.yesterdayRange with
    | some yesterdayClose, some yesterdayRange =>
      if !engine.passesMinRangeFilter then none
      else
        let canLong := engine.yesterdayReturn.all fun ret => -engine.config.bigMoveThreshold ≤ ret
        let canShort := engine.yesterdayReturn.all fun ret => ret ≤ engine.config.bigMoveThreshold
        let longLevel := yesterdayClose + engine.config.k * yesterdayRange
        let shortLevel := yesterdayClose - engine.config.k * yesterdayRange
        if canLong && !engine.wasLongToday && decide (longLevel < close) then
          some (entrySignal .long .breakoutLong)
        else if canShort && !engine.wasShortToday && decide (close < shortLevel) then
          some (entrySignal .short .breakoutShort)
        else none
    | _, _ => none

/-- The stops of `evaluate_exit`; the first one is only looked at ten minutes before the hour. -/
def stopReason (yesterdayClose yesterdayRange : ℚ) (dt : NaiveDateTime) (close : ℚ)
    : Side → Option ReasonCode
  | .long =>
    if close < yesterdayClose - config.stop2Range * yesterdayRange then some .breakoutStop2Long
    else if dt.minute = 50 ∧ close < yesterdayClose + config.stop1Range * yesterdayRange then
      some .breakoutStop1Long
    else none
  | .short =>
    if yesterdayClose + config.stop2Range * yesterdayRange < close then some .breakoutStop2Short
    else if dt.minute = 50 ∧ yesterdayClose - config.stop1Range * yesterdayRange < close then
      some .breakoutStop1Short
    else none

def evaluateExit (close : ℚ) (side : Side) : Option ExitSignal :=
  if engine.config.excludeWeekends && isWeekendDay dt.date then none
  else
    match engine.yesterdayClose, engine.yesterdayRange with
    | some yesterdayClose, some yesterdayRange =>
      if dt.hour = 23 ∧ dt.minute = 30 then some ⟨.intradayBreakout, .breakoutEodExit⟩
      else
        (stopReason engine.config yesterdayClose yesterdayRange dt close side).map
          fun reason => ⟨.intradayBreakout, reason⟩
    | _, _ => none

end IntradayBreakoutEngine

/-! ### The mean-reversion engine -/

structure MeanReversionConfig where
  minRangeLong : ℚ
  maxRangeLong : ℚ
  kLong : ℚ
  takeKLong : ℚ
  stopKLong : ℚ
  minRangeShort : ℚ
  maxRangeShort : ℚ
  kShort : ℚ
  takeKShort : ℚ
  stopKShort : ℚ
  tickSize : ℚ
  sessionEndTime : NaiveTime
  /-- in seconds -/
  exitOffset : ℤ
deriving DecidableEq, Repr

structure MeanReversionEngine where
  config : MeanReversionConfig
deriving DecidableEq, Repr

namespace MeanReversionEngine

def isActiveWindow (dt : NaiveDateTime) : Bool := dt.hour < 12

variable (engine : MeanReversionEngine)

def shouldForceExit (dt : NaiveDateTime) : Bool :=
  let sessionEndDt : NaiveDateTime := ⟨dt.date, engine.config.sessionEndTime⟩
  (sessionEndDt.subSecs engine.config.exitOffset).le dt

def roundToTick (price : ℚ) : ℚ :=
  let tick := engine.config.tickSize
  if tick ≤ 0 then price else (⌊price / tick + 1 / 2⌋ : ℤ) * tick

def evaluateEntry (dt : NaiveDateTime) (close closePrev dayRangePrev : ℚ) : Option EntrySignal :=
  let config := engine.config
  if !isActiveWindow dt || close == 0 then none
  else
    let relDayRange := dayRangePrev / close
    if (config.minRangeLong < relDayRange ∧ relDayRange < config.maxRangeLong) ∧
        close < closePrev ∧ closePrev - config.kLong * dayRangePrev < close then
      some
        { owner := .meanReversion
          side := .long
          entryStyle := .bracket
          reason := .morningMeanReversionLong
          stopPrice := some (engine.roundToTick (close - config.stopKLong * dayRangePrev))
          takePrice := some (engine.roundToTick (close + config.takeKLong * dayRangePrev)) }
    else if (config.minRangeShort < relDayRange ∧ relDayRange < config.maxRangeShort) ∧
        closePrev < close ∧ close < closePrev + config.kShort * dayRangePrev then
      some
        { owner := .meanReversion
          side := .short
          entryStyle := .bracket
          reason := .morningMeanReversionShort
          stopPrice := some (engine.roundToTick (close + config.stopKShort * dayRangePrev))
          takePrice := some (engine.roundToTick (close - config.takeKShort * dayRangePrev)) }
    else none

end MeanReversionEngine

/-! ### The `High180` engine -/

structure High180MrConfig where
  minRelRange : ℚ
  maxRelRange : ℚ
  kLong : ℚ
  kShort : ℚ
  stopLossMult : ℚ
  /-- in seconds -/
  maxHold : ℤ
  entryEndTime : NaiveTime
deriving DecidableEq, Repr

def High180MrConfig.default : High180MrConfig where
  minRelRange := 5 / 1000
  maxRelRange := 50 / 1000
  kLong := 85 / 1000
  kShort := 90 / 1000
  stopLossMult := 7
  maxHold := 180 * 60
  entryEndTime := .fromHms 11 59 59

structure High180Signal where
  side : Side
  targetPrice : ℚ
  stopPrice : ℚ
  reason : ReasonCode
deriving DecidableEq, Repr

structure High180Open where
  targetPrice : ℚ
  stopPrice : ℚ
  maxHold : ℤ
deriving DecidableEq, Repr

def High180Open.fromSignal (signal : High180Signal) (config : High180MrConfig) : High180Open :=
  ⟨signal.targetPrice, signal.stopPrice, config.maxHold⟩

structure High180MrEngine where
  config : High180MrConfig
  currentDay : Option NaiveDate
  dayHigh : Option ℚ
  dayLow : Option ℚ
deriving DecidableEq, Repr

namespace High180MrEngine

variable (config : High180MrConfig) (engine : High180MrEngine) (openTrade : High180Open)

def new : High180MrEngine := ⟨config, none, none, none⟩

def onBar (ts : NaiveDateTime) (high low : ℚ) : High180MrEngine :=
  if engine.currentDay ≠ some ts.date then
    { engine with currentDay := some ts.date, dayHigh := some high, dayLow := some low }
  else
    { engine with
      dayHigh := some (max (engine.dayHigh.getD high) high)
      dayLow := some (min (engine.dayLow.getD low) low) }

/-- The signal of `evaluate_entry` towards the middle of the day's range. -/
def midpointSignal (midpoint close closePrev dayRangePrev : ℚ) : Option High180Signal :=
  if close < closePrev ∧ closePrev - config.kLong * dayRangePrev < close then
    if midpoint ≤ close then none
    else
      some ⟨.long, midpoint, close - config.stopLossMult * (midpoint - close),
        .morningMeanReversionLong⟩
  else if closePrev < close ∧ close < closePrev + config.kShort * dayRangePrev then
    if close ≤ midpoint then none
    else
      some ⟨.short, midpoint, close + config.stopLossMult * (close - midpoint),
        .morningMeanReversionShort⟩
  else none

def evaluateEntry (ts : NaiveDateTime) (close closePrev dayRangePrev : ℚ) : Option High180Signal :=
  let config := engine.config
  if !ts.time.le config.entryEndTime || close == 0 then none
  else
    let relRange := dayRangePrev / close
    if !(decide (config.minRelRange < relRange) && decide (relRange < config.maxRelRange)) then none
    else
      match engine.dayHigh, engine.dayLow with
      | some dayHigh, some dayLow =>
        midpointSignal config ((dayHigh + dayLow) / 2) close closePrev dayRangePrev
      | _, _ => none

/-- Whether a close takes the profit or the loss of an open trade. -/
def closesAt (close : ℚ) : Side → Bool
  | .long => openTrade.targetPrice ≤ close || close ≤ openTrade.stopPrice
  | .short => close ≤ openTrade.targetPrice || openTrade.stopPrice ≤ close

/-- `evaluate_exit`, without the name of the reason: the price of the exit. -/
def evaluateExit (entryTs : NaiveDateTime) (side : Side) (ts : NaiveDateTime) (close : ℚ)
    : Option ℚ :=
  if ts.le entryTs then none
  else if closesAt openTrade close side then some close
  else if openTrade.maxHold ≤ ts.secs - entryTs.secs then some close
  else none

end High180MrEngine

end AlorRs.HybridIntraday
