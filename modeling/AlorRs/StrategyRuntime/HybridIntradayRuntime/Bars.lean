import AlorRs.StrategyRuntime.HybridIntradayRuntime.Intents

/-!
# The bars of the hybrid strategy

`onBar` drops bars of other symbols, bars that it has seen and bars outside the model's session
(`receiveBar`), takes the rest into the features of the day and into the shadow account of the risk
gate (`observeBar`), and then, unless the bar is a replay of the start, clears requests that nobody
answered (`prepareBar`) and trades (`tradeBar`): a deferred exit or entry first, then the
orchestrator's action.
-/

namespace AlorRs.HybridIntraday

/-- `update_day_aggregates`, without the readiness for entries. -/
def DayFeatures.update (features : DayFeatures) (dtLocal : NaiveDateTime) (high low : ℚ) :
    DayFeatures :=
  match features.lastDayLocal with
  | none =>
    { features with
      lastDayLocal := some dtLocal.date
      currentDayHigh := some high
      currentDayLow := some low }
  | some prevDay =>
    if prevDay = dtLocal.date then
      { features with
        currentDayHigh := some (max (features.currentDayHigh.getD high) high)
        currentDayLow := some (min (features.currentDayLow.getD low) low) }
    else
      { features with
        prevDayRange :=
          match features.currentDayHigh, features.currentDayLow with
          | some h, some l => some (max (h - l) 0)
          | _, _ => features.prevDayRange
        prevDayClose := features.lastBarClose
        lastDayLocal := some dtLocal.date
        currentDayHigh := some high
        currentDayLow := some low }

namespace HybridIntradayRuntimeStrategy

/-! ### Sessions -/

variable (s : HybridIntradayRuntimeStrategy) (config : HybridIntradayRuntimeConfig)
  (ctx : StrategyCtx) (nowTs : ℤ) (dtLocal : NaiveDateTime) (bar : BarEvent)

def suppressWeekendSignalGeneration : Bool :=
  config.weekendsOff && config.weekendStatePolicy = .skip && isWeekendDay dtLocal.date

def weekendStateOnlyBar : Bool :=
  config.weekendsOff && config.weekendStatePolicy = .stateOnly && isWeekendDay dtLocal.date

def suppressNonModelSessionBar : Bool :=
  (config.modelSessionStartTime.any fun start => !start.le dtLocal.time) ||
    config.modelSessionEndTime.any fun sessionEnd => !dtLocal.time.le sessionEnd

/-! ### Features -/

def updateDayAggregates (high low : ℚ) : HybridIntradayRuntimeStrategy :=
  let s := { s with toDayFeatures := s.toDayFeatures.update dtLocal high low }
  { s with entryReady := s.signalsWarmed }

def usesHigh180Mr : Bool := config.mrVariant = .high180

def riskGateShadowEnabled : Bool :=
  usesHigh180Mr config && config.mrGatePolicy = .shadowPnlLb120Positive

variable (sessionDate : NaiveDate)

def finalizeRiskGateShadowSession : HybridIntradayRuntimeStrategy :=
  if isWeekendDay sessionDate ||
      s.pendingRiskGateFinalizations.any fun finalization => finalization.sessionDate = sessionDate then
    s
  else
    { s with
      pendingRiskGateFinalizations := s.pendingRiskGateFinalizations ++
        [⟨sessionDate, s.riskGateShadowPnlPoints, s.riskGateShadowTradeCount⟩] }

/-- The part of `update_risk_gate_shadow` that turns the session over. -/
def turnShadowSession : HybridIntradayRuntimeStrategy :=
  match s.riskGateShadowSessionDate with
  | none => { s with riskGateShadowSessionDate := some sessionDate }
  | some prevDate =>
    if prevDate = sessionDate then s
    else
      { s.finalizeRiskGateShadowSession prevDate with
        riskGateShadowSessionDate := some sessionDate
        riskGateShadowPnlPoints := 0
        riskGateShadowTradeCount := 0
        riskGateShadowPosition := none
        riskGateShadowOpen := none }

def riskGateMakerCostPoints : ℚ := 1 / 10

variable (close : ℚ)

def shadowExitPrice : Option (ShadowHigh180Position × ℚ) :=
  match s.riskGateShadowPosition, s.riskGateShadowOpen with
  | some position, some openTrade =>
    let entryDt := (utcToLocalNaive s.config position.entryTsUtc).getD dtLocal
    (High180MrEngine.evaluateExit openTrade entryDt position.side dtLocal close).map
      fun price => (position, price)
  | _, _ => none

def closeShadow (position : ShadowHigh180Position) (exitPrice : ℚ)
    : HybridIntradayRuntimeStrategy :=
  let points :=
    match position.side with
    | .long => exitPrice - position.entryPrice
    | .short => position.entryPrice - exitPrice
  { s with
    riskGateShadowPnlPoints := s.riskGateShadowPnlPoints + (points - riskGateMakerCostPoints)
    riskGateShadowTradeCount := min (s.riskGateShadowTradeCount + 1) (2 ^ 32 - 1)
    riskGateShadowPosition := none
    riskGateShadowOpen := none }

def openShadow (tsUtc : ℤ) (close closePrev dayRangePrev : ℚ) : HybridIntradayRuntimeStrategy :=
  match s.riskGateShadowMr.evaluateEntry dtLocal close closePrev dayRangePrev with
  | none => s
  | some signal =>
    { s with
      riskGateShadowPosition := some ⟨signal.side, tsUtc, close⟩
      riskGateShadowOpen := some (.fromSignal signal s.riskGateShadowMr.config) }

def updateRiskGateShadow (closePrev dayRangePrev : ℚ) : HybridIntradayRuntimeStrategy :=
  if !riskGateShadowEnabled s.config || bar.close == 0 then s
  else
    let turned := s.turnShadowSession dtLocal.date
    let s := { turned with riskGateShadowMr := turned.riskGateShadowMr.onBar dtLocal bar.h bar.l }
    match s.shadowExitPrice dtLocal bar.close with
    | some (position, exitPrice) => s.closeShadow position exitPrice
    | none =>
      if s.riskGateShadowPosition.isSome then s
      else s.openShadow dtLocal bar.closeTimeUtc bar.close closePrev dayRangePrev

/-- The previous day's close, or the bar's own where there is none. -/
def closePrev : ℚ :=
  s.prevDayClose.getD bar.close

def dayRangePrev : ℚ := s.prevDayRange.getD 0

/-- The part of `on_bar` that takes the bar into the features of the day. -/
def observeBar : HybridIntradayRuntimeStrategy :=
  let s := s.updateDayAggregates dtLocal bar.h bar.l
  let s :=
    if usesHigh180Mr s.config then { s with high180Mr := s.high180Mr.onBar dtLocal bar.h bar.l }
    else s
  s.updateRiskGateShadow dtLocal bar (s.closePrev bar) s.dayRangePrev

/-! ### Unanswered requests -/

def pendingTimeoutSec (config : HybridIntradayRuntimeConfig) : ℤ :=
  asI64 (max config.pendingTimeoutSec 1)

/-- Whether a request of a time has not been answered for too long. -/
def timedOut (createdTs : ℤ) : Bool :=
  pendingTimeoutSec config < saturatingSub nowTs createdTs

/-- The entry's part of `clear_stale_pending_tail`. -/
def clearStaleEntry : HybridIntradayRuntimeStrategy :=
  let created := (s.pendingEntryCreatedTsUtc.or (s.pendingEntry.map (·.cycleId.tsUtc))).getD nowTs
  if s.pendingEntryRequestId.isSome && timedOut s.config nowTs created then
    { s with
      orchestrator := s.orchestrator.onOrderRejected .entry
      pendingEntry := none
      pendingEntryRequestId := none
      pendingEntryCreatedTsUtc := none
      deferredEntry := none
      activeCycleId := if |s.lastPositionQty| ≤ epsilon then none else s.activeCycleId }
  else s

/-- The exit's part of `clear_stale_pending_tail`. -/
def clearStaleExit : HybridIntradayRuntimeStrategy :=
  if s.pendingExitRequestId.isSome && timedOut s.config nowTs (s.pendingExitCreatedTsUtc.getD nowTs)
  then { s with pendingExit := none, pendingExitRequestId := none, pendingExitCreatedTsUtc := none }
  else s

/-- The take-profit's part of `clear_stale_pending_tail`. -/
def clearStaleTp : HybridIntradayRuntimeStrategy :=
  if s.pendingTpRequestId.isSome && timedOut s.config nowTs (s.pendingTpCreatedTsUtc.getD nowTs)
  then { s with pendingTpRequestId := none, pendingTpCreatedTsUtc := none }
  else s

/-- The stop-loss's part of `clear_stale_pending_tail`. -/
def clearStaleSl : HybridIntradayRuntimeStrategy :=
  if s.pendingSlRequestId.isSome && timedOut s.config nowTs (s.pendingSlCreatedTsUtc.getD nowTs)
  then { s with pendingSlRequestId := none, pendingSlCreatedTsUtc := none }
  else s

def clearStalePendingTail (positionQty : ℚ) (tradeMode : TradeMode)
    : HybridIntradayRuntimeStrategy :=
  if tradeMode ≠ .live ∨ epsilon < |positionQty| ∨ s.workingOrders ≠ [] ∨ s.workingStopOrders ≠ []
  then s
  else (((s.clearStaleEntry nowTs).clearStaleExit nowTs).clearStaleTp nowTs).clearStaleSl nowTs

/-! ### The replay of the start -/

def armStartupReplayGuard : HybridIntradayRuntimeStrategy :=
  if ctx.tradeMode ≠ .live ∨ !ctx.allowLiveOrders then
    { s with startupLiveReplayBoundaryTsUtc := none }
  else
    let toleranceSec := max (pendingTimeoutSec s.config) 60
    { s with startupLiveReplayBoundaryTsUtc := some (saturatingSub ctx.nowTsUtc toleranceSec) }

/-- Whether `suppress_startup_replay_bar` takes a bar for a replay. -/
def isStartupReplay : Bool :=
  ctx.tradeMode = .live &&
    s.startupLiveReplayBoundaryTsUtc.any fun boundaryTsUtc =>
      !(bar.origin = .live && decide (boundaryTsUtc ≤ bar.closeTimeUtc))

/-! ### Signals -/

def roundToTick (price tickSize : ℚ) : ℚ :=
  if tickSize ≤ 0 then price
  else
    let ticks := price / tickSize
    (if 0 ≤ ticks then ⌊ticks + 1 / 2⌋ else ⌈ticks - 1 / 2⌉ : ℤ) * tickSize

def mrTakeDistanceTicksAfterRounding (referencePrice : ℚ) (signal : EntrySignal) : Option ℚ :=
  if signal.owner ≠ .meanReversion ∨ signal.entryStyle ≠ .bracket then none
  else
    match signal.takePrice with
    | none => none
    | some takePrice =>
      if config.tickSize ≤ 0 then none
      else
        let entry := roundToTick referencePrice config.tickSize
        let take := roundToTick takePrice config.tickSize
        match signal.side with
        | .long => some ((take - entry) / config.tickSize)
        | .short => some ((entry - take) / config.tickSize)

def minMrTakeDistanceTicks : ℚ := 2

def filterNearZeroMrBracketEntry (referencePrice : ℚ) (signal : Option EntrySignal)
    : Option EntrySignal :=
  signal.filter fun signal =>
    (mrTakeDistanceTicksAfterRounding config referencePrice signal).all
      fun distanceTicks => minMrTakeDistanceTicks ≤ distanceTicks

def applyLiveMrEntryPolicy (signal : Option EntrySignal) : Option EntrySignal :=
  if config.liveMrEntriesEnabled then signal else none

def mrGateAllowsCurrentSession : Bool :=
  match s.config.mrGatePolicy, s.config.riskGateMode with
  | .disabled, _ => true
  | .shadowPnlLb120Positive, .enforced => s.riskGateMrEnabledCurrentSession.getD false
  | .shadowPnlLb120Positive, _ => true

def high180EntrySignal (closePrev dayRangePrev : ℚ) : Option EntrySignal :=
  (s.high180Mr.evaluateEntry dtLocal close closePrev dayRangePrev).map fun signal =>
    { owner := .meanReversion
      side := signal.side
      entryStyle := .bracket
      reason := signal.reason
      stopPrice := some signal.stopPrice
      takePrice := some signal.targetPrice }

def high180ExitReason : Option ReasonCode :=
  if s.currentOwner ≠ some .meanReversion then none
  else
    match s.activeCycleId.bind fun cycleId => utcToLocalNaive s.config cycleId.tsUtc with
    | none => none
    | some entryTs =>
      if s.high180Mr.config.maxHold ≤ dtLocal.secs - entryTs.secs then some .meanRevTimeCutoff
      else none

def author41BoundaryShortEntrySignal (closePrev dayRangePrev : ℚ) : Option EntrySignal :=
  if !dtLocal.time.le config.mrConfig.sessionEndTime ∨ closePrev ≤ 0 ∨ dayRangePrev ≤ 0 then none
  else
    let relRange := dayRangePrev / closePrev
    if !(decide (5 / 1000 < relRange) && decide (relRange < 75 / 1000)) then none
    else if closePrev < close ∧ close < closePrev + 16 / 100 * dayRangePrev then
      some
        { owner := .meanReversion
          side := .short
          entryStyle := .bracket
          reason := .morningMeanReversionShort
          stopPrice := some (closePrev + 58 / 100 * dayRangePrev)
          takePrice := some (closePrev - 2 / 100 * dayRangePrev) }
    else none

def author41BoundaryShortExitReason : Option ReasonCode :=
  if s.currentOwner ≠ some .meanReversion then none
  else if (NaiveTime.fromHms 20 0 0).le dtLocal.time then some .meanRevTimeCutoff
  else none

/-- The mean-reversion entry of the variants that have an engine of their own. -/
def mrOverrideEntry (closePrev dayRangePrev : ℚ) : Option EntrySignal :=
  let signal :=
    if usesHigh180Mr s.config then
      if s.mrGateAllowsCurrentSession then
        s.high180EntrySignal dtLocal close closePrev dayRangePrev
      else none
    else author41BoundaryShortEntrySignal s.config dtLocal close closePrev dayRangePrev
  applyLiveMrEntryPolicy s.config (filterNearZeroMrBracketEntry s.config close signal)

/-- The mean-reversion exit of these variants. -/
def mrOverrideExit : Option ReasonCode :=
  if usesHigh180Mr s.config then s.high180ExitReason dtLocal
  else s.author41BoundaryShortExitReason dtLocal

def barInput : BarInput where
  dt := dtLocal
  openPrice := bar.o
  high := bar.h
  low := bar.l
  close := bar.close
  closePrev := s.closePrev bar
  dayRangePrev := s.dayRangePrev
  hasOpenPosition := epsilon < |ctxQty ctx|
  hasLiveOrders := s.hasLiveOrders

def orchestrate (input : BarInput) : HybridOrchestrator × List Action :=
  if s.config.mrVariant = .classicPrevDayRange then s.orchestrator.onBar input
  else
    s.orchestrator.onBarWithMrOverride input
      (s.mrOverrideEntry input.dt input.close input.closePrev input.dayRangePrev)
      (s.mrOverrideExit input.dt)

variable (actions : List Action)

def hasBreakoutExitAction : Bool :=
  actions.any fun action =>
    match action with
    | .submitExit .intradayBreakout _ => true
    | _ => false

def activeCycleLocalDay : Option NaiveDate :=
  (s.activeCycleId.bind fun cycleId => utcToLocalNaive s.config cycleId.tsUtc).map (·.date)

def breakoutOutlivesDay (previousDayLocal : Option NaiveDate) : Bool :=
  let currentDay := dtLocal.date
  let activeCycleDay := s.activeCycleLocalDay.filter fun day => day ≤ currentDay
  let referenceDay := activeCycleDay.or (previousDayLocal.filter fun day => day ≤ currentDay)
  (referenceDay.any fun day => day < currentDay) || (NaiveTime.fromHms 23 30 0).le dtLocal.time

variable (dtLocal : NaiveDateTime)

def appendBreakoutNoOvernightGuard (previousDayLocal : Option NaiveDate) (hasOpenPosition : Bool)
    : List Action :=
  if !hasOpenPosition || s.currentOwner ≠ some .intradayBreakout ||
      s.config.orchestratorConfig.breakoutEodMode ≠ .sameDay || s.pendingExitRequestId.isSome ||
      s.deferredExit.isSome || hasBreakoutExitAction actions then
    actions
  else if !s.breakoutOutlivesDay dtLocal previousDayLocal then actions
  else actions ++ [.submitExit .intradayBreakout .breakoutEodExit]

/-! ### Deferred orders -/

def deferredEntryExpired (deferred : DeferredEntry) (dtLocal : NaiveDateTime) : Bool :=
  (utcToLocalNaive config deferred.deferredTsUtc).any fun deferredLocal =>
    deferredLocal.date < dtLocal.date

def reissueDeferredEntry (createdTsUtc : ℤ) (dtLocal : NaiveDateTime) (canEmit canExecute : Bool)
    (referencePrice : ℚ) (deferred : DeferredEntry) :
    HybridIntradayRuntimeStrategy × Option (List Intent) :=
  if epsilon < |ctxQty ctx| ∨ deferredEntryExpired s.config deferred dtLocal then
    ({ s with deferredEntry := none }, none)
  else if !s.entryReady || s.safeModeCloseOnly || !canEmit || !canExecute ||
      s.pendingEntryRequestId.isSome then
    (s, some [])
  else
    let mapped :=
      ({ s with activeCycleId := some deferred.cycleId }).mapActionToIntentsWithReference ctx
        createdTsUtc canEmit canExecute referencePrice (.submitEntry deferred.signal)
    (if mapped.1.pendingEntryRequestId.isSome then { mapped.1 with deferredEntry := none }
      else mapped.1,
      some mapped.2)

def maybeReissueDeferredEntry (createdTsUtc : ℤ) (dtLocal : NaiveDateTime)
    (canEmit canExecute : Bool) (referencePrice : ℚ) :
    HybridIntradayRuntimeStrategy × Option (List Intent) :=
  match s.deferredEntry with
  | none => (s, none)
  | some deferred =>
    s.reissueDeferredEntry ctx createdTsUtc dtLocal canEmit canExecute referencePrice deferred

def reissueDeferredExit (createdTsUtc : ℤ) (canEmit canExecute : Bool) (referencePrice : ℚ)
    (deferred : DeferredExit) : HybridIntradayRuntimeStrategy × Option (List Intent) :=
  if |ctxQty ctx| ≤ epsilon then ({ s with deferredExit := none }, none)
  else if !canEmit || !canExecute || s.pendingExitRequestId.isSome then (s, some [])
  else
    let mapped :=
      ({ s with
        activeCycleId := some deferred.cycleId
        currentOwner := some deferred.owner }).mapActionToIntentsWithReference ctx createdTsUtc
        canEmit canExecute referencePrice (.submitExit deferred.owner deferred.reason)
    (if mapped.1.pendingExitRequestId.isSome then { mapped.1 with deferredExit := none }
      else mapped.1,
      some mapped.2)

def maybeReissueDeferredExit (createdTsUtc : ℤ) (canEmit canExecute : Bool) (referencePrice : ℚ) :
    HybridIntradayRuntimeStrategy × Option (List Intent) :=
  match s.deferredExit with
  | none => (s, none)
  | some deferred =>
    s.reissueDeferredExit ctx createdTsUtc canEmit canExecute referencePrice deferred

/-! ### `on_bar` -/

/-- The orchestrator sees a bar without acting on it. -/
def warmBar (s : HybridIntradayRuntimeStrategy) (input : BarInput) : HybridIntradayRuntimeStrategy :=
  { s with orchestrator := s.orchestrator.warmBar input }

/-- What stays the same while a bar is traded. -/
structure BarScene where
  ctx : StrategyCtx
  bar : BarEvent
  dtLocal : NaiveDateTime
  previousDayLocal : Option NaiveDate
deriving DecidableEq, Repr

namespace BarScene

variable (scene : BarScene)

def canEmit : Bool := canEmitNow scene.ctx (scene.bar.origin = .live)

def canExecute : Bool := canExecuteNow scene.ctx (scene.bar.origin = .live)

def createdTsUtc : ℤ := effectiveCreatedTsUtc scene.ctx scene.bar.closeTimeUtc

end BarScene

variable (scene : BarScene)

/-- The part of `on_bar` in which the orchestrator decides. -/
def actOnBar (input : BarInput) : HybridIntradayRuntimeStrategy × List Intent :=
  let decided := s.orchestrate input
  let acting := { s with orchestrator := decided.1 }
  let actions := acting.appendBreakoutNoOvernightGuard decided.2 scene.dtLocal
    scene.previousDayLocal input.hasOpenPosition
  let repaired := acting.maybeEmitRepairIntents scene.ctx scene.createdTsUtc
  let mapped := repaired.1.mapActionsToIntents scene.ctx scene.createdTsUtc scene.canEmit
    scene.canExecute actions
  (mapped.1.syncState, repaired.2 ++ mapped.2)

def tradeEntry (input : BarInput) (referencePrice : ℚ)
    : HybridIntradayRuntimeStrategy × List Intent :=
  if s.deferredEntry.isSome then
    match (s.warmBar input).maybeReissueDeferredEntry scene.ctx scene.createdTsUtc scene.dtLocal
        scene.canEmit scene.canExecute referencePrice with
    | (s, some intents) => (s.syncState, intents)
    | (s, none) => s.actOnBar scene input
  else s.actOnBar scene input

def tradeExit (input : BarInput) (referencePrice : ℚ)
    : HybridIntradayRuntimeStrategy × List Intent :=
  if s.deferredExit.isSome then
    match (s.warmBar input).maybeReissueDeferredExit scene.ctx scene.createdTsUtc scene.canEmit
        scene.canExecute referencePrice with
    | (s, some intents) => (s.syncState, intents)
    | (s, none) => s.tradeEntry scene input referencePrice
  else s.tradeEntry scene input referencePrice

def tradeBar : HybridIntradayRuntimeStrategy × List Intent :=
  let input := s.barInput scene.ctx scene.dtLocal scene.bar
  if weekendStateOnlyBar s.config scene.dtLocal then ((s.warmBar input).syncState, [])
  else s.tradeExit scene input s.liveReferencePrice

/-- The bar is the last one, and requests that nobody answered are given up. -/
def prepareBar : HybridIntradayRuntimeStrategy :=
  ({ s with
    lastProcessedBarTs := some bar.closeTimeUtc
    lastBarClose := some bar.close }).clearStalePendingTail bar.closeTimeUtc (ctxQty ctx)
    ctx.tradeMode

def modelBar : HybridIntradayRuntimeStrategy × List Intent :=
  let observed := s.observeBar dtLocal bar
  if observed.isStartupReplay ctx bar then
    -- the replay warms the breakout engine and is not acted on
    (((observed.warmBar (observed.barInput ctx dtLocal bar)).prepareBar ctx bar).syncState, [])
  else
    -- no replay: the guard is off, or this bar or the mode takes it off
    (({ observed with startupLiveReplayBoundaryTsUtc := none }).prepareBar ctx bar).tradeBar
      ⟨ctx, bar, dtLocal, s.lastDayLocal⟩

/-- Whether `on_bar` drops a bar unseen: another symbol, or not later than the last one. -/
def dropsBar : Bool :=
  bar.symbol ≠ s.config.symbol || s.lastProcessedBarTs.any fun lastTs => bar.closeTimeUtc ≤ lastTs

def onBar : HybridIntradayRuntimeStrategy × List Intent :=
  if s.dropsBar bar then (s, [])
  else
    match utcToLocalNaive s.config bar.closeTimeUtc with
    | none => (s, [])
    | some dtLocal =>
      if suppressWeekendSignalGeneration s.config dtLocal ||
          suppressNonModelSessionBar s.config dtLocal then
        ({ s with lastProcessedBarTs := some bar.closeTimeUtc }, [])
      else s.modelBar ctx bar dtLocal

end HybridIntradayRuntimeStrategy

end AlorRs.HybridIntraday
