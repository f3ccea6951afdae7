import AlorRs.RustText
import AlorRs.StrategyRuntime.StrategyHost
import Mathlib.Data.Rat.Floor

/-!
# The USDRUBF strategy: configuration, state and signals

Two owners, a mean reversion (MR) and a breakout (BO), open at most one position.  The strategy
keeps what it expects of the broker in memory and a copy of most of it, without the orders that
protect the position, in its saved state.
-/

namespace AlorRs.AlorUsdrubfHybrid

/-! ### Configuration and state -/

structure AlorUsdrubfHybridConfig where
  symbol : String
  timezoneOffsetHours : ℤ
  tickSize : ℚ
  modelSessionStartTime : NaiveTime
  modelSessionEndTime : NaiveTime
  mrMinRelRange : ℚ
  mrMaxRelRange : ℚ
  mrKShort : ℚ
  mrTakeKShort : ℚ
  mrStopKShort : ℚ
  mrLastEntryTime : NaiveTime
  mrForceExitTime : NaiveTime
  boK : ℚ
  boStop1Range : ℚ
  boStop2Range : ℚ
  boBigMoveThreshold : ℚ
  boWaitHours : ℚ
  boEodExitTime : NaiveTime
  commissionPctPerSide : ℚ
  positionSizeFraction : ℚ
  initialCash : ℚ
  enableLiveExecution : Bool
  useFixedLiveSize : Bool
  liveFixedUnits : ℚ
  maxSilenceBarsSec : ℤ

inductive HybridState where
  | flat | pending | opened
deriving DecidableEq, Repr

inductive Owner where
  | meanRev | breakout
deriving DecidableEq, Repr

def Owner.asStr : Owner → String
  | .meanRev => "mean_rev"
  | .breakout => "day_breakout_waitfix"

inductive PositionSide where
  | long | short
deriving DecidableEq, Repr

namespace PositionSide

def entrySide : PositionSide → Side
  | .long => .buy
  | .short => .sell

def exitSide : PositionSide → Side
  | .long => .sell
  | .short => .buy

def sign : PositionSide → ℚ
  | .long => 1
  | .short => -1

end PositionSide

inductive ProtectionRole where
  | tp | sl
deriving DecidableEq, Repr

def ProtectionRole.asStr : ProtectionRole → String
  | .tp => "TP"
  | .sl => "SL"

structure PendingEntry where
  owner : Owner
  side : PositionSide
  reason : String
  scaleAtSignal : ℚ
  signalPrice : ℚ
  stop1 : Option ℚ
  stop2 : Option ℚ
  targetQty : ℚ
  partialStartedAtMs : Option ℤ
deriving DecidableEq, Repr

structure OpenPosition where
  owner : Owner
  side : PositionSide
  entryTs : NaiveDateTime
  entryPrice : ℚ
  size : ℤ
  stopPrice : Option ℚ
  takePrice : Option ℚ
  stop1 : Option ℚ
  stop2 : Option ℚ
deriving DecidableEq, Repr

/-- The quantity of a position as the broker counts it. -/
def OpenPosition.signedQty (pos : OpenPosition) : ℚ :=
  match pos.side with
  | .long => pos.size
  | .short => -pos.size

structure ResearchSnapshot where
  close : ℚ
  high : ℚ
  low : ℚ
  localDt : NaiveDateTime
  sessionOpen : Option ℚ
  sessionVwap : ℚ
  sessionRange : Option ℚ
  elapsedHours : Option ℚ
  retFromOpen : Option ℚ
  boWasLongToday : Bool
  boWasShortToday : Bool

/-- What the strategy knows of the orders that protect an MR position. -/
structure MrProtection where
  pendingTpBarTsUtc : Option ℤ
  pendingSlBarTsUtc : Option ℤ
  tpOrderId : Option ℤ
  slStopOrderId : Option String
  slExchangeOrderId : Option ℤ
deriving DecidableEq, Repr

structure DayAggregates where
  currentDateLocal : Option NaiveDate
  dayOpen : Option ℚ
  dayHigh : Option ℚ
  dayLow : Option ℚ
  dayVolumeSum : ℚ
  dayVwapNum : ℚ
  sessionStartLocal : Option NaiveDateTime
  boWasLongToday : Bool
  boWasShortToday : Bool
deriving DecidableEq, Repr

/-- `StrategyState::AlorUsdrubfHybrid`, its texts read; an owner, a side or a date is absent where
its text cannot be read. -/
structure SavedState where
  lifecycleStage : String
  lastBarTs : Option ℤ
  lastProcessedBarTs : Option ℤ
  bootstrapSeen : Bool
  runtimeStateRestored : Bool
  liveReady : Bool
  hybridState : HybridState
  day : DayAggregates
  cash : ℚ
  pendingEntryOwner : Option Owner
  pendingEntrySide : Option PositionSide
  pendingRequestIds : Finset Uuid
  trackedOrderIds : Finset ℤ
  entryIntentInflight : Bool
  pendingEntryReason : Option String
  pendingEntryScaleAtSignal : Option ℚ
  pendingEntrySignalPrice : Option ℚ
  pendingEntryStop1 : Option ℚ
  pendingEntryStop2 : Option ℚ
  openPositionOwner : Option Owner
  openPositionSide : Option PositionSide
  exitIntentInflight : Bool
  openPositionQty : ℚ
  openPositionEntryTs : Option NaiveDateTime
  openPositionEntryPrice : Option ℚ
  openPositionStopPrice : Option ℚ
  openPositionTakePrice : Option ℚ
  openPositionStop1 : Option ℚ
  openPositionStop2 : Option ℚ
deriving DecidableEq

/-- `AlorUsdrubfHybridStrategy`, less what only the logs use; the saved state is absent while it is
that of another strategy. -/
structure AlorUsdrubfHybridStrategy where
  config : AlorUsdrubfHybridConfig
  state : Option SavedState
  lifecycleStage : String
  lastBarTs : Option ℤ
  lastProcessedBarTs : Option ℤ
  bootstrapSeen : Bool
  runtimeStateRestored : Bool
  liveReady : Bool
  hybridState : HybridState
  day : DayAggregates
  pendingEntry : Option PendingEntry
  pendingRequestIds : Finset Uuid
  trackedOrderIds : Finset ℤ
  entryIntentInflight : Bool
  entryRejectDeferredUntilBarTs : Option ℤ
  openPosition : Option OpenPosition
  exitIntentInflight : Bool
  exitRejectDeferredUntilBarTs : Option ℤ
  deferredExitReason : Option String
  ownerConfirmedByLiveEvent : Bool
  protection : MrProtection
  bracketTerminalReconcileStartedMs : Option ℤ
  cash : ℚ

/-! ### Numbers and times -/

def epsilon : ℚ := 1 / 2 ^ 52

/-- The bound under which a quantity counts as none. -/
def flatQty : ℚ := 1 / 10 ^ 9

def signum (x : ℚ) : ℚ := if 0 ≤ x then 1 else -1

/-- `as i64` of a float without a fraction. -/
def asI64 (n : ℤ) : ℤ := max (-2 ^ 63) (min n (2 ^ 63 - 1))

def wholeUnits (qty : ℚ) : ℤ := asI64 (max ⌊|qty|⌋ 1)

/-- `utc_to_local`: an instant or an offset out of range is replaced by zero. -/
def utcToLocal (tsUtc timezoneOffsetHours : ℤ) : NaiveDateTime :=
  (LocalDateTime.mk (if timestampInRange tsUtc then tsUtc else 0)
    ((fixedOffset timezoneOffsetHours).getD 0)).naiveLocal

def roundToTick (price tickSize : ℚ) : ℚ :=
  if tickSize ≤ 0 then price else ⌊price / tickSize + 1 / 2⌋ * tickSize

namespace MrProtection

/-- No order is known or expected. -/
def none : MrProtection := ⟨.none, .none, .none, .none, .none⟩

end MrProtection

namespace DayAggregates

def start (currentDateLocal : Option NaiveDate) : DayAggregates :=
  ⟨currentDateLocal, none, none, none, 0, 0, none, false, false⟩

variable (day : DayAggregates)

def update (bar : BarEvent) (localDt : NaiveDateTime) : DayAggregates :=
  let volume := max bar.v 0
  { day with
    dayOpen := some (day.dayOpen.getD bar.o)
    dayHigh := some (max (day.dayHigh.getD bar.h) bar.h)
    dayLow := some (min (day.dayLow.getD bar.l) bar.l)
    dayVolumeSum := day.dayVolumeSum + volume
    dayVwapNum := day.dayVwapNum + (bar.h + bar.l + bar.close) / 3 * volume
    sessionStartLocal := some (day.sessionStartLocal.getD localDt) }

def sessionVwap (fallbackClose : ℚ) : ℚ :=
  if 0 < day.dayVolumeSum then day.dayVwapNum / day.dayVolumeSum else fallbackClose

def sessionRange : Option ℚ :=
  match day.dayHigh, day.dayLow with
  | some high, some low => some (high - low)
  | _, _ => none

/-- `elapsed_hours`: whole minutes since the start, in hours. -/
def elapsedHours (localDt : NaiveDateTime) : Option ℚ :=
  day.sessionStartLocal.map fun start => (max ((localDt.secs - start.secs) / 60) 0 : ℤ) / 60

def retFromOpen (close : ℚ) : Option ℚ :=
  match day.dayOpen with
  | none => none
  | some opened => if |opened| ≤ epsilon then none else some ((close - opened) / opened)

end DayAggregates

namespace AlorUsdrubfHybridStrategy

/-! ### The saved state -/

variable (s : AlorUsdrubfHybridStrategy) (rs : ResearchSnapshot)

def syncState : AlorUsdrubfHybridStrategy :=
  { s with
    state := some
      { lifecycleStage := s.lifecycleStage
        lastBarTs := s.lastBarTs
        lastProcessedBarTs := s.lastProcessedBarTs
        bootstrapSeen := s.bootstrapSeen
        runtimeStateRestored := s.runtimeStateRestored
        liveReady := s.liveReady
        hybridState := s.hybridState
        day := s.day
        cash := s.cash
        pendingEntryOwner := s.pendingEntry.map (·.owner)
        pendingEntrySide := s.pendingEntry.map (·.side)
        pendingRequestIds := s.pendingRequestIds
        trackedOrderIds := s.trackedOrderIds
        entryIntentInflight := s.entryIntentInflight
        pendingEntryReason := s.pendingEntry.map (·.reason)
        pendingEntryScaleAtSignal := s.pendingEntry.map (·.scaleAtSignal)
        pendingEntrySignalPrice := s.pendingEntry.map (·.signalPrice)
        pendingEntryStop1 := s.pendingEntry.bind (·.stop1)
        pendingEntryStop2 := s.pendingEntry.bind (·.stop2)
        openPositionOwner := s.openPosition.map (·.owner)
        openPositionSide := s.openPosition.map (·.side)
        exitIntentInflight := s.exitIntentInflight
        openPositionQty := ((s.openPosition.map (·.size)).getD 0 : ℤ)
        openPositionEntryTs := s.openPosition.map (·.entryTs)
        openPositionEntryPrice := s.openPosition.map (·.entryPrice)
        openPositionStopPrice := s.openPosition.bind (·.stopPrice)
        openPositionTakePrice := s.openPosition.bind (·.takePrice)
        openPositionStop1 := s.openPosition.bind (·.stop1)
        openPositionStop2 := s.openPosition.bind (·.stop2) } }

def new (config : AlorUsdrubfHybridConfig) : AlorUsdrubfHybridStrategy :=
  syncState
    { config := config
      state := none
      lifecycleStage := "created"
      lastBarTs := none
      lastProcessedBarTs := none
      bootstrapSeen := false
      runtimeStateRestored := false
      liveReady := false
      hybridState := .flat
      day := .start none
      pendingEntry := none
      pendingRequestIds := ∅
      trackedOrderIds := ∅
      entryIntentInflight := false
      entryRejectDeferredUntilBarTs := none
      openPosition := none
      exitIntentInflight := false
      exitRejectDeferredUntilBarTs := none
      deferredExitReason := none
      ownerConfirmedByLiveEvent := true
      protection := .none
      bracketTerminalReconcileStartedMs := none
      cash := config.initialCash }

def configuredLiveTargetQty : ℚ :=
  if s.config.useFixedLiveSize then ⌊max s.config.liveFixedUnits 1⌋ else 1

def restoredEntry (saved : SavedState) : Option PendingEntry :=
  match saved.pendingEntryOwner, saved.pendingEntrySide with
  | some owner, some side => some
    { owner := owner
      side := side
      reason := saved.pendingEntryReason.getD "restored"
      scaleAtSignal := saved.pendingEntryScaleAtSignal.getD 0
      signalPrice := saved.pendingEntrySignalPrice.getD 0
      stop1 := saved.pendingEntryStop1
      stop2 := saved.pendingEntryStop2
      targetQty := s.configuredLiveTargetQty
      partialStartedAtMs := none }
  | _, _ => none

def restoredPosition (saved : SavedState) : Option OpenPosition :=
  match saved.openPositionOwner, saved.openPositionSide with
  | some owner, some side =>
    if 1 ≤ saved.openPositionQty then some
      { owner := owner
        side := side
        entryTs := saved.openPositionEntryTs.getD
          (utcToLocal (saved.lastBarTs.getD 0) s.config.timezoneOffsetHours)
        entryPrice := saved.openPositionEntryPrice.getD 0
        size := asI64 ⌊saved.openPositionQty⌋
        stopPrice := saved.openPositionStopPrice
        takePrice := saved.openPositionTakePrice
        stop1 := saved.openPositionStop1
        stop2 := saved.openPositionStop2 }
    else none
  | _, _ => none

/-- `set_state`; the orders that protect a position are forgotten, and what a reconciliation waits
for is kept. -/
def setState (state : Option SavedState) : AlorUsdrubfHybridStrategy :=
  match state with
  | none => { s with protection := .none, state := none }
  | some saved =>
    { s with
      state := some saved
      lifecycleStage := saved.lifecycleStage
      lastBarTs := saved.lastBarTs
      lastProcessedBarTs := saved.lastProcessedBarTs
      bootstrapSeen := saved.bootstrapSeen
      runtimeStateRestored := saved.runtimeStateRestored
      liveReady := saved.liveReady
      hybridState := saved.hybridState
      day := saved.day
      pendingEntry := s.restoredEntry saved
      pendingRequestIds := saved.pendingRequestIds
      trackedOrderIds := saved.trackedOrderIds
      entryIntentInflight := saved.entryIntentInflight
      entryRejectDeferredUntilBarTs := none
      openPosition := s.restoredPosition saved
      exitIntentInflight := saved.exitIntentInflight
      exitRejectDeferredUntilBarTs := none
      deferredExitReason := none
      ownerConfirmedByLiveEvent := saved.lifecycleStage ≠ "bootstrap_non_flat_owner_unconfirmed"
      protection := .none
      cash := if 0 < saved.cash then saved.cash else s.cash }

/-! ### The day -/

def isLiveStartupBarStale (ctx : StrategyCtx) (barTsUtc : ℤ) : Bool :=
  s.config.maxSilenceBarsSec < ctx.nowTsUtc - barTsUtc

def isModelSessionBar (localDt : NaiveDateTime) : Bool :=
  s.config.modelSessionStartTime.le localDt.time && localDt.time.le s.config.modelSessionEndTime

def resetDay (localDate : NaiveDate) : AlorUsdrubfHybridStrategy :=
  { s with
    day := .start (some localDate)
    pendingEntry := none
    openPosition := none
    pendingRequestIds := ∅
    trackedOrderIds := ∅
    entryIntentInflight := false
    exitIntentInflight := false
    exitRejectDeferredUntilBarTs := none
    deferredExitReason := none
    hybridState := .flat }

def buildResearchSnapshot (bar : BarEvent) (localDt : NaiveDateTime) : ResearchSnapshot where
  close := bar.close
  high := bar.h
  low := bar.l
  localDt := localDt
  sessionOpen := s.day.dayOpen
  sessionVwap := s.day.sessionVwap bar.close
  sessionRange := s.day.sessionRange
  elapsedHours := s.day.elapsedHours localDt
  retFromOpen := s.day.retFromOpen bar.close
  boWasLongToday := s.day.boWasLongToday
  boWasShortToday := s.day.boWasShortToday

/-! ### Signals -/

/-- `compute_entry_size`; a price of zero has an infinite quotient. -/
def computeEntrySize (barOpen : ℚ) : ℤ :=
  if s.config.useFixedLiveSize then asI64 ⌊max s.config.liveFixedUnits 1⌋
  else
    let budget := s.cash * s.config.positionSizeFraction
    if barOpen = 0 then if 0 < budget then 2 ^ 63 - 1 else 1
    else asI64 (max ⌊budget / barOpen⌋ 1)

def evaluateMrFromSnapshot : Option PendingEntry :=
  if !rs.localDt.time.le s.config.mrLastEntryTime then none
  else
    match rs.sessionRange with
    | none => none
    | some scale =>
      if scale ≤ 0 || |rs.close| ≤ epsilon then none
      else
        let relScale := scale / rs.close
        let dist := rs.close - rs.sessionVwap
        if !(s.config.mrMinRelRange < relScale && relScale < s.config.mrMaxRelRange) then none
        else if !(0 < dist && dist < s.config.mrKShort * scale) then none
        else some
          { owner := .meanRev
            side := .short
            reason := "mr_short_signal"
            scaleAtSignal := scale
            signalPrice := rs.close
            stop1 := none
            stop2 := none
            targetQty := s.configuredLiveTargetQty
            partialStartedAtMs := none }

variable (side : PositionSide)

def boEntry (reason : String) (scale stop1 stop2 : ℚ) : PendingEntry where
  owner := .breakout
  side := side
  reason := reason
  scaleAtSignal := scale
  signalPrice := rs.close
  stop1 := some stop1
  stop2 := some stop2
  targetQty := s.configuredLiveTargetQty
  partialStartedAtMs := none

def evaluateBoFromSnapshot : Option PendingEntry :=
  match rs.sessionRange, rs.elapsedHours, rs.sessionOpen, rs.retFromOpen with
  | some scale, some elapsedHours, some sessionOpen, some retFromOpen =>
    if scale ≤ 0 then none
    else if elapsedHours < s.config.boWaitHours then none
    else
      let canLong := -s.config.boBigMoveThreshold ≤ retFromOpen
      let canShort := retFromOpen ≤ s.config.boBigMoveThreshold
      if canLong && !rs.boWasLongToday && sessionOpen + s.config.boK * scale < rs.close then
        some (s.boEntry rs .long "bo_long_signal" scale
          (sessionOpen + s.config.boStop1Range * scale)
          (sessionOpen - s.config.boStop2Range * scale))
      else if canShort && !rs.boWasShortToday && rs.close < sessionOpen - s.config.boK * scale then
        some (s.boEntry rs .short "bo_short_signal" scale
          (sessionOpen - s.config.boStop1Range * scale)
          (sessionOpen + s.config.boStop2Range * scale))
      else none
  | _, _, _, _ => none

def evaluateSignalResearch : Option PendingEntry :=
  (s.evaluateMrFromSnapshot rs).or (s.evaluateBoFromSnapshot rs)

def mrExit (stopPrice takePrice : ℚ) : Option (String × ℚ) :=
  if stopPrice ≤ rs.high then some ("mr_stop", stopPrice)
  else if rs.low ≤ takePrice then some ("mr_take", takePrice)
  else if s.config.mrForceExitTime.le rs.localDt.time then some ("mr_time_cutoff", rs.close)
  else none

def boExit (stop1 stop2 : ℚ) : Option (String × ℚ) :=
  match side with
  | .long =>
    if rs.low ≤ stop2 then some ("bo_stop2_long", stop2)
    else if rs.localDt.minute = 50 && rs.close < stop1 then some ("bo_stop1_long", rs.close)
    else if s.config.boEodExitTime.le rs.localDt.time then some ("bo_eod_exit", rs.close)
    else none
  | .short =>
    if stop2 ≤ rs.high then some ("bo_stop2_short", stop2)
    else if rs.localDt.minute = 50 && stop1 < rs.close then some ("bo_stop1_short", rs.close)
    else if s.config.boEodExitTime.le rs.localDt.time then some ("bo_eod_exit", rs.close)
    else none

/-- `evaluate_exit_research`; a position without both of its prices has no exit. -/
def evaluateExitResearch : Option (String × ℚ) :=
  match s.openPosition with
  | none => none
  | some pos =>
    if !s.ownerConfirmedByLiveEvent then none
    else
      match pos.owner with
      | .meanRev =>
        match pos.stopPrice, pos.takePrice with
        | some stopPrice, some takePrice => s.mrExit rs stopPrice takePrice
        | _, _ => none
      | .breakout =>
        match pos.stop1, pos.stop2 with
        | some stop1, some stop2 => s.boExit rs pos.side stop1 stop2
        | _, _ => none

end AlorUsdrubfHybridStrategy

end AlorRs.AlorUsdrubfHybrid
