import AlorRs.StrategyRuntime.RequestId
import AlorRs.StrategyRuntime.StrategyHost
import AlorRs.StrategyRuntime.TradeLedger
import Mathlib.Data.Rat.Floor

/-!
# The session-gap strategy: configuration, state and signals

`SessionGapStandaloneStrategy` follows the trading sessions of one symbol.  In live mode its orders
go through the phases of `SessionGapLivePhase`, which are saved with the features of the session.
-/

namespace AlorRs.SessionGap

/-! ### Configuration -/

structure SessionGapStandaloneConfig where
  symbol : String
  timezoneOffsetHours : ℤ
  signalMinute : ℕ
  kLong : ℚ
  kShort : ℚ
  waitHours : ℤ
  kTpLong : ℚ
  kSlLong : ℚ
  kTpShort : ℚ
  kSlShort : ℚ
  longExPct : ℚ
  shortExPct : ℚ
  maxEntryHour : ℕ
  closeHour : ℕ
  closeMinute : ℕ
  sessionGapMin : ℚ
  exitOffsetMin : ℤ
  workWeekends : Bool
  cashFactor : ℚ
  startCash : ℚ
  entryAckTimeoutMs : ℕ
  entryFillTimeoutMs : ℕ
  exitAckTimeoutMs : ℕ
  exitFillTimeoutMs : ℕ
  placeOffsetTicks : ℤ
  tickSize : ℚ

def SessionGapStandaloneConfig.default : SessionGapStandaloneConfig where
  symbol := "USDRUBF"
  timezoneOffsetHours := 3
  signalMinute := 59
  kLong := 1 / 2
  kShort := 46 / 100
  waitHours := 3
  kTpLong := 28 / 100
  kSlLong := 68 / 100
  kTpShort := 28 / 100
  kSlShort := 65 / 100
  longExPct := 22 / 10
  shortExPct := 22 / 10
  maxEntryHour := 19
  closeHour := 23
  closeMinute := 49
  sessionGapMin := 60
  exitOffsetMin := 20
  workWeekends := false
  cashFactor := 9 / 10
  startCash := 30000
  entryAckTimeoutMs := 15000
  entryFillTimeoutMs := 60000
  exitAckTimeoutMs := 15000
  exitFillTimeoutMs := 60000
  placeOffsetTicks := 0
  tickSize := 1 / 100

inductive Direction where
  | long | short
deriving DecidableEq

/-! ### Phases -/

structure PendingEntryPhase where
  requestId : Uuid
  side : Side
  qty : ℚ
  baselineQty : ℚ
  tp : Option ℚ
  sl : Option ℚ
  sentTs : ℤ
  acked : Bool
deriving DecidableEq

/-- An entry that was refused outside the trading window. -/
structure EntryDeferredPhase where
  side : Side
  qty : ℚ
  deferredTsUtc : ℤ
  originalRequestId : Uuid
  lastErrorCode : Option String
  lastErrorMsg : Option String
deriving DecidableEq

/-- An entry of which it is not known whether it reached the broker. -/
structure EntryRecoveryPhase where
  requestId : Uuid
  side : Side
  qty : ℚ
  baselineQty : ℚ
  tp : Option ℚ
  sl : Option ℚ
  verificationStartedTs : ℤ
  transportErrorCode : Option String
  transportErrorMsg : Option String
deriving DecidableEq

structure InPositionPhase where
  side : Side
  qty : ℚ
  avgPrice : ℚ
  baselineQty : ℚ
  tp : Option ℚ
  sl : Option ℚ
  openedTs : ℤ
deriving DecidableEq

structure PendingExitPhase where
  requestId : Uuid
  side : Side
  qty : ℚ
  price : ℚ
  baselineQty : ℚ
  reason : String
  sentTs : ℤ
  acked : Bool
deriving DecidableEq

/-- An exit that was refused outside the trading window. -/
structure ExitDeferredPhase where
  side : Side
  qty : ℚ
  baselineQty : ℚ
  reason : String
  deferredTsUtc : ℤ
  originalRequestId : Uuid
  lastErrorCode : Option String
  lastErrorMsg : Option String
deriving DecidableEq

/-- An exit that was sent again. -/
structure ExitRecoveryPhase where
  requestId : Uuid
  side : Side
  qty : ℚ
  price : ℚ
  baselineQty : ℚ
  reason : String
  sentTs : ℤ
  acked : Bool
  retryAttempt : ℕ
  lastErrorCode : Option String
  lastErrorMsg : Option String
deriving DecidableEq

/-- An exit that failed for good. -/
structure CloseOnlyPhase where
  side : Side
  qty : ℚ
  baselineQty : ℚ
  reason : String
  enteredTsUtc : ℤ
  retryAttemptsExhausted : ℕ
  lastErrorCode : Option String
  lastErrorMsg : Option String
  operatorInterventionRequired : Bool
deriving DecidableEq

inductive SessionGapLivePhase where
  | flat
  | pendingEntry (phase : PendingEntryPhase)
  | entryDeferredWindowClosed (phase : EntryDeferredPhase)
  | entryRecoveryVerificationPending (phase : EntryRecoveryPhase)
  | inPosition (phase : InPositionPhase)
  | pendingExit (phase : PendingExitPhase)
  | exitDeferredWindowClosed (phase : ExitDeferredPhase)
  | exitRecoveryPending (phase : ExitRecoveryPhase)
  | closeOnlyDegraded (phase : CloseOnlyPhase)
  | blocked (reason : String) (tsUtc : ℤ)
deriving DecidableEq

namespace SessionGapLivePhase

def phaseName : SessionGapLivePhase → String
  | .flat => "Flat"
  | .pendingEntry _ => "PendingEntry"
  | .entryDeferredWindowClosed _ => "EntryDeferredWindowClosed"
  | .entryRecoveryVerificationPending _ => "EntryRecoveryVerificationPending"
  | .inPosition _ => "InPosition"
  | .pendingExit _ => "PendingExit"
  | .exitDeferredWindowClosed _ => "ExitDeferredWindowClosed"
  | .exitRecoveryPending _ => "ExitRecoveryPending"
  | .closeOnlyDegraded _ => "CloseOnlyDegraded"
  | .blocked _ _ => "Blocked"

end SessionGapLivePhase

/-! ### State -/

structure PendingEntry where
  direction : Direction
  size : ℤ

/-- The position that is simulated outside live mode. -/
structure Position where
  direction : Direction
  size : ℤ
  tp : ℚ
  sl : ℚ

/-- The test hook of the environment, with the date whose text it is set to. -/
structure SessionGapTestHookConfig where
  sessionDate : NaiveDate
  direction : Direction
  autoFlattenNextBar : Bool

structure SessionGapTestHookState where
  config : Option SessionGapTestHookConfig
  entryDispatched : Bool
  exitDispatched : Bool

/-- `StrategyState::SessionGapStandalone`; the date stands for its text. -/
structure SavedState where
  sessionDate : Option NaiveDate
  tradedSession : Bool
  prevClose : Option ℚ
  yesterdayRange : Option ℚ
  prePrevClose : Option ℚ
  firstMinHigh : Option ℚ
  firstMinLow : Option ℚ
  firstHourPrice : Option ℚ
  sessionStartTsUtc : Option ℤ
  sessionEndTsUtc : Option ℤ
  sessionHigh : Option ℚ
  sessionLow : Option ℚ
  sessionClose : Option ℚ
  lastDtTsUtc : Option ℤ
  phase : SessionGapLivePhase
  phaseLastChangeTsUtc : Option ℤ
  lastBarTs : Option ℤ

/-- `SessionGapStandaloneStrategy`; the state is absent while it is that of no session-gap
strategy. -/
structure SessionGapStandaloneStrategy where
  config : SessionGapStandaloneConfig
  state : Option SavedState
  lastProcessedBarTs : Option ℤ
  cash : ℚ
  lastDt : Option LocalDateTime
  sessionStartDt : Option LocalDateTime
  sessionEndDt : Option LocalDateTime
  sessionHigh : Option ℚ
  sessionLow : Option ℚ
  sessionClose : Option ℚ
  yesterdayClose : Option ℚ
  yesterdayRange : Option ℚ
  prePrevClose : Option ℚ
  firstMinHigh : Option ℚ
  firstMinLow : Option ℚ
  firstHourPrice : Option ℚ
  phaseLastChangeTsUtc : Option ℤ
  tradedSession : Bool
  pendingEntry : Option PendingEntry
  position : Option Position
  testHook : SessionGapTestHookState

namespace SessionGapTestHookState

def shouldForceEntry (hook : SessionGapTestHookState) (sessionDate : NaiveDate) :
    Option Direction :=
  match hook.config with
  | none => none
  | some config =>
    if hook.entryDispatched || config.sessionDate ≠ sessionDate then none
    else some config.direction

def shouldForceExit (hook : SessionGapTestHookState) (sessionDate : NaiveDate)
    (openedTs barTs : ℤ) : Bool :=
  match hook.config with
  | none => false
  | some config =>
    config.autoFlattenNextBar && hook.entryDispatched && !hook.exitDispatched &&
      config.sessionDate = sessionDate && openedTs < barTs

end SessionGapTestHookState

namespace SessionGapStandaloneStrategy

def minEntryRecoveryVerificationMs : ℕ := 5000

def exitRecoveryMaxRetries : ℕ := 1

variable (s : SessionGapStandaloneStrategy) (config : SessionGapStandaloneConfig)
  (barDt : LocalDateTime) (bar : BarEvent)

def new (testHook : SessionGapTestHookState) :
    SessionGapStandaloneStrategy where
  config := config
  state := none
  lastProcessedBarTs := none
  cash := config.startCash
  lastDt := none
  sessionStartDt := none
  sessionEndDt := none
  sessionHigh := none
  sessionLow := none
  sessionClose := none
  yesterdayClose := none
  yesterdayRange := none
  prePrevClose := none
  firstMinHigh := none
  firstMinLow := none
  firstHourPrice := none
  phaseLastChangeTsUtc := none
  tradedSession := false
  pendingEntry := none
  position := none
  testHook := testHook

def signalsWarmed : Bool :=
  s.yesterdayClose.isSome && s.yesterdayRange.isSome && s.prePrevClose.isSome

/-- `to_session_dt`; the offset of the configuration is taken to be a valid one. -/
def toSessionDt (tsUtc : ℤ) : LocalDateTime where
  timestamp := if timestampInRange tsUtc then tsUtc else 0
  offset := config.timezoneOffsetHours * 3600

def hour (dt : LocalDateTime) : ℕ := dt.time.secs / 3600

def minute (dt : LocalDateTime) : ℕ := dt.time.secs % 3600 / 60

/-! ### Sessions -/

def resetSession : SessionGapStandaloneStrategy :=
  let closeTs : Option ℤ :=
    if s.config.closeHour < 24 && s.config.closeMinute < 60 then
      timestampOfLocal barDt.offset barDt.date (.fromHms s.config.closeHour s.config.closeMinute 0)
    else none
  { s with
    sessionStartDt := some barDt
    sessionEndDt := some { barDt with timestamp := closeTs.getD barDt.timestamp }
    sessionHigh := some bar.h
    sessionLow := some bar.l
    sessionClose := some bar.close
    firstMinHigh := some bar.h
    firstMinLow := some bar.l
    firstHourPrice := none
    tradedSession := false
    pendingEntry := none
    position := none }

def continueSession : SessionGapStandaloneStrategy :=
  let s := { s with
    sessionHigh := some (max (s.sessionHigh.getD bar.h) bar.h)
    sessionLow := some (min (s.sessionLow.getD bar.l) bar.l)
    sessionClose := some bar.close }
  match s.sessionStartDt with
  | none => s
  | some sessionStartDt =>
    let s :=
      if barDt.time = sessionStartDt.time then
        { s with firstMinHigh := some bar.h, firstMinLow := some bar.l }
      else s
    if s.firstHourPrice.isNone && 3600 ≤ barDt.timestamp - sessionStartDt.timestamp then
      { s with firstHourPrice := some bar.close }
    else s

def updateSession : SessionGapStandaloneStrategy :=
  let s :=
    match s.lastDt with
    | none => s.resetSession barDt bar
    | some lastDt =>
      if s.config.sessionGapMin < ((barDt.timestamp - lastDt.timestamp : ℤ) : ℚ) / 60 then
        let range := s.sessionHigh.bind fun high => s.sessionLow.map fun low => high - low
        resetSession
          { s with
            prePrevClose := s.yesterdayClose
            yesterdayClose := s.sessionClose
            yesterdayRange := range }
          barDt bar
      else s.continueSession barDt bar
  { s with lastDt := some barDt }

/-! ### Signals -/

def entrySide : Direction → Side
  | .long => .buy
  | .short => .sell

def exitSide : Direction → Side
  | .long => .sell
  | .short => .buy

def signal (price yesterdayClose yesterdayRange prePrevClose : ℚ) : Option Direction :=
  if yesterdayClose + s.config.kLong * yesterdayRange < price &&
      s.firstMinHigh.any (fun high => high < price) &&
      s.firstHourPrice.any (fun firstHour => firstHour < price) &&
      (1 - s.config.longExPct / 100) * prePrevClose < yesterdayClose then some .long
  else if price < yesterdayClose - s.config.kShort * yesterdayRange &&
      s.firstMinLow.any (fun low => price < low) &&
      s.firstHourPrice.any (fun firstHour => price < firstHour) &&
      yesterdayClose < (1 + s.config.shortExPct / 100) * prePrevClose then some .short
  else none

variable (forceSingleSize : Bool) (direction : Direction)

/-- The size of an entry; in live mode it is forced to one. -/
def entrySize : ℤ :=
  if forceSingleSize then 1 else max 1 ⌊s.config.cashFactor * s.cash / bar.close⌋

def maybeGenerateSignal : SessionGapStandaloneStrategy :=
  if s.tradedSession then s
  else
    match s.sessionStartDt, s.sessionEndDt with
    | some sessionStartDt, some sessionEndDt =>
      if sessionEndDt.timestamp ≤ barDt.timestamp || s.config.maxEntryHour ≤ hour barDt then s
      else
        match s.yesterdayClose, s.yesterdayRange, s.prePrevClose with
        | some yesterdayClose, some yesterdayRange, some prePrevClose =>
          if minute barDt = s.config.signalMinute &&
              s.config.waitHours * 3600 ≤ barDt.timestamp - sessionStartDt.timestamp then
            match s.signal bar.close yesterdayClose yesterdayRange prePrevClose, s.pendingEntry with
            | some direction, none =>
              { s with
                pendingEntry := some ⟨direction, s.entrySize bar forceSingleSize⟩
                tradedSession := true }
            | _, _ => s
          else s
        | _, _, _ => s
    | _, _ => s

/-- The take-profit and the stop-loss of an entry at a price. -/
def tpSl (open' range : ℚ) : ℚ × ℚ :=
  match direction with
  | .long => (open' + config.kTpLong * range, open' - config.kSlLong * range)
  | .short => (open' - config.kTpShort * range, open' + config.kSlShort * range)

def computeTpSl (open' : ℚ) : Option ℚ × Option ℚ :=
  match s.yesterdayRange with
  | none => (none, none)
  | some range =>
    let (tp, sl) := tpSl s.config direction open' range
    (some tp, some sl)

/-! ### The simulated position -/

def maybeOpenPosition : SessionGapStandaloneStrategy × List Intent :=
  match s.position, s.pendingEntry, s.yesterdayRange with
  | some _, _, _ => ({ s with pendingEntry := none }, [])
  | none, none, _ => (s, [])
  | none, some _, none => ({ s with pendingEntry := none }, [])
  | none, some pending, some range =>
    let (tp, sl) := tpSl s.config pending.direction bar.o range
    let cost := bar.o * pending.size
    ({ s with
        pendingEntry := none
        cash := if pending.direction = .long then s.cash - cost else s.cash + cost
        position := some ⟨pending.direction, pending.size, tp, sl⟩ },
      [.market pending.size (entrySide pending.direction) (some bar.o) none])

def simulatedExitPrice (position : Position) (barDt : LocalDateTime) (bar : BarEvent) : Option ℚ :=
  if s.sessionEndDt.any (fun sessionEndDt =>
      sessionEndDt.timestamp - s.config.exitOffsetMin * 60 ≤ barDt.timestamp) then some bar.close
  else
    match position.direction with
    | .long =>
      if position.tp ≤ bar.h then some position.tp
      else if bar.l ≤ position.sl then some position.sl
      else none
    | .short =>
      if bar.l ≤ position.tp then some position.tp
      else if position.sl ≤ bar.h then some position.sl
      else none

def maybeClosePosition : SessionGapStandaloneStrategy × List Intent :=
  match s.position with
  | none => (s, [])
  | some position =>
    match s.simulatedExitPrice position barDt bar with
    | none => (s, [])
    | some exitPrice =>
      let value := exitPrice * position.size
      ({ s with
          cash := if position.direction = .long then s.cash + value else s.cash - value
          position := none },
        [.market position.size (exitSide position.direction) (some exitPrice) none])

/-! ### The saved state -/

def persistedPhaseOrFlat : SessionGapLivePhase :=
  (s.state.map SavedState.phase).getD .flat

def syncedLastDtTsUtc (lastBarTs : ℤ) : Option ℤ :=
  some (max ((s.lastDt.map LocalDateTime.timestamp).getD lastBarTs) lastBarTs)

/-- The saved state with the features of the strategy. -/
def savedWith (sessionDate : Option NaiveDate) (lastDtTsUtc : Option ℤ)
    (phase : SessionGapLivePhase) (lastBarTs : Option ℤ) : SavedState where
  sessionDate := sessionDate
  tradedSession := s.tradedSession
  prevClose := s.yesterdayClose
  yesterdayRange := s.yesterdayRange
  prePrevClose := s.prePrevClose
  firstMinHigh := s.firstMinHigh
  firstMinLow := s.firstMinLow
  firstHourPrice := s.firstHourPrice
  sessionStartTsUtc := s.sessionStartDt.map LocalDateTime.timestamp
  sessionEndTsUtc := s.sessionEndDt.map LocalDateTime.timestamp
  sessionHigh := s.sessionHigh
  sessionLow := s.sessionLow
  sessionClose := s.sessionClose
  lastDtTsUtc := lastDtTsUtc
  phase := phase
  phaseLastChangeTsUtc := s.phaseLastChangeTsUtc
  lastBarTs := lastBarTs

def persistStateSnapshot (sessionDate : NaiveDate) (phase : SessionGapLivePhase) (lastBarTs : ℤ)
    : SessionGapStandaloneStrategy :=
  { s with
    state := some <|
      s.savedWith (some sessionDate) (s.syncedLastDtTsUtc lastBarTs) phase (some lastBarTs) }

def persistStateWithExistingLastBar (phase : SessionGapLivePhase) : SessionGapStandaloneStrategy :=
  match s.state with
  | none => s
  | some saved =>
    { s with
      state := some <|
        s.savedWith saved.sessionDate
          ((s.syncedLastDtTsUtc (saved.lastBarTs.getD 0)).or saved.lastBarTs) phase
          saved.lastBarTs }

/-- The time of the last change of the phase, at which its name changes. -/
def noteTransition (previousPhase phase : SessionGapLivePhase) (tsUtc : ℤ)
    : SessionGapStandaloneStrategy :=
  if previousPhase.phaseName ≠ phase.phaseName then
    { s with phaseLastChangeTsUtc := some tsUtc }
  else s

end SessionGapStandaloneStrategy

end AlorRs.SessionGap
