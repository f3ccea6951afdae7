import AlorRs.StrategyRuntime.HybridIntradayRuntime.Basic

/-!
# What is saved of the hybrid strategy

`syncState` writes the saved state and `setState` reads it.  The live state has more than what is
saved: the style and the prices of a pending entry, the pending exit, the time at which a bracket
began to settle, the working orders, and all finalized sessions of the risk gate but the first.
-/

namespace AlorRs.HybridIntraday

namespace HybridIntradayRuntimeStrategy

variable (s : HybridIntradayRuntimeStrategy)

def breakoutSnapshot : IntradayBreakoutSnapshot :=
  s.orchestrator.intradayBreakout.snapshot

def signalsWarmed : Bool :=
  s.prevDayRange.isSome && s.prevDayClose.isSome

/-! ### `sync_state` -/

def saved : HybridIntradayRuntimeState where
  toDayFeatures := s.toDayFeatures
  toProtection := s.toProtection
  activeCycleId := s.activeCycleId.map (·.text)
  nextCycleSeq := s.nextCycleSeq
  lastPositionQty := s.lastPositionQty
  currentOwner := s.currentOwner
  currentSide := s.currentSide
  pendingEntryOwner := s.pendingEntry.map (·.owner)
  pendingEntrySide := s.pendingEntry.map (·.side)
  pendingEntryCycleId := s.pendingEntry.map (·.cycleId.text)
  pendingEntryRequestId := s.pendingEntryRequestId
  pendingEntryCreatedTsUtc := s.pendingEntryCreatedTsUtc
  deferredEntryOwner := s.deferredEntry.map (·.signal.owner)
  deferredEntrySide := s.deferredEntry.map (·.signal.side)
  deferredEntryCycleId := s.deferredEntry.map (·.cycleId.text)
  deferredEntryEntryStyle := s.deferredEntry.map (·.signal.entryStyle)
  deferredEntryReason := s.deferredEntry.map (·.signal.reason)
  deferredEntryStopPrice := s.deferredEntry.bind (·.signal.stopPrice)
  deferredEntryTakePrice := s.deferredEntry.bind (·.signal.takePrice)
  deferredEntryTsUtc := s.deferredEntry.map (·.deferredTsUtc)
  deferredEntryRequestId := s.deferredEntry.map (·.originalRequestId)
  pendingExitRequestId := s.pendingExitRequestId
  pendingExitCreatedTsUtc := s.pendingExitCreatedTsUtc
  deferredExitOwner := s.deferredExit.map (·.owner)
  deferredExitReason := s.deferredExit.map (·.reason)
  deferredExitCycleId := s.deferredExit.map (·.cycleId.text)
  deferredExitTsUtc := s.deferredExit.map (·.deferredTsUtc)
  deferredExitRequestId := s.deferredExit.map (·.originalRequestId)
  safeModeCloseOnly := s.safeModeCloseOnly
  safeModeReason := s.safeModeReason
  entryReady := s.entryReady
  currentDayClose := s.breakoutSnapshot.curDayClose
  prevDayReturn := s.breakoutSnapshot.yesterdayReturn
  dayBeforeClose := s.breakoutSnapshot.dayBeforeClose
  todayStartLocal := s.breakoutSnapshot.todayStart
  wasLongToday := s.breakoutSnapshot.wasLongToday
  wasShortToday := s.breakoutSnapshot.wasShortToday
  overnightExitArmedDate := s.orchestrator.snapshot.overnightExitArmedDate
  riskGateShadowSessionDate := s.riskGateShadowSessionDate
  riskGateShadowPnlPoints := s.riskGateShadowPnlPoints
  riskGateShadowTradeCount := s.riskGateShadowTradeCount
  riskGateShadowEntryTsUtc := s.riskGateShadowPosition.map (·.entryTsUtc)
  riskGateShadowEntryPrice := s.riskGateShadowPosition.map (·.entryPrice)
  riskGateShadowSide := s.riskGateShadowPosition.map (·.side)
  riskGateShadowTargetPrice := s.riskGateShadowOpen.map (·.targetPrice)
  riskGateShadowStopPrice := s.riskGateShadowOpen.map (·.stopPrice)
  riskGatePendingSessionDate := s.pendingRiskGateFinalizations.head?.map (·.sessionDate)
  riskGatePendingShadowPnlPoints :=
    (s.pendingRiskGateFinalizations.head?.map (·.shadowPnlPoints)).getD 0
  riskGatePendingShadowTradeCount :=
    (s.pendingRiskGateFinalizations.head?.map (·.shadowTradeCount)).getD 0
  riskGateMrEnabledCurrentSession := s.riskGateMrEnabledCurrentSession
  riskGateRollingSumLb120 := s.riskGateRollingSumLb120
  riskGateLastFinalizedSessionDate := s.riskGateLastFinalizedSessionDate
  riskGateLedgerRowsCount := s.riskGateLedgerRowsCount

def syncState : HybridIntradayRuntimeStrategy :=
  { s with state := .hybridIntradayRuntime s.saved }

end HybridIntradayRuntimeStrategy

/-! ### `set_state` -/

namespace HybridIntradayRuntimeState

/-- The pending entry of a saved state: its style, its prices and its reason are not kept. -/
def pendingEntry (saved : HybridIntradayRuntimeState) (config : HybridIntradayRuntimeConfig) :
    Option PendingEntry :=
  match saved.pendingEntryOwner, saved.pendingEntrySide,
      saved.pendingEntryCycleId.bind CycleId.parse with
  | some owner, some side, some cycleId =>
    some
      { owner := owner
        side := side
        cycleId := cycleId
        reason := .morningMeanReversionLong
        entryStyle := .market
        stopPrice := none
        takePrice := none
        targetQty := config.targetQty
        partialStartedAtMs := none }
  | _, _, _ => none

def deferredEntry (saved : HybridIntradayRuntimeState) : Option DeferredEntry :=
  match saved.deferredEntryOwner, saved.deferredEntrySide,
      saved.deferredEntryCycleId.bind CycleId.parse, saved.deferredEntryEntryStyle,
      saved.deferredEntryReason, saved.deferredEntryTsUtc, saved.deferredEntryRequestId with
  | some owner, some side, some cycleId, some entryStyle, some reason, some deferredTsUtc,
      some originalRequestId =>
    some
      { signal := ⟨owner, side, entryStyle, reason, saved.deferredEntryStopPrice,
          saved.deferredEntryTakePrice⟩
        cycleId := cycleId
        deferredTsUtc := deferredTsUtc
        originalRequestId := originalRequestId }
  | _, _, _, _, _, _, _ => none

def deferredExit (saved : HybridIntradayRuntimeState) : Option DeferredExit :=
  match saved.deferredExitOwner, saved.deferredExitReason,
      saved.deferredExitCycleId.bind CycleId.parse, saved.deferredExitTsUtc,
      saved.deferredExitRequestId with
  | some owner, some reason, some cycleId, some deferredTsUtc, some originalRequestId =>
    some ⟨owner, reason, cycleId, deferredTsUtc, originalRequestId⟩
  | _, _, _, _, _ => none

def shadowPosition (saved : HybridIntradayRuntimeState) : Option ShadowHigh180Position :=
  match saved.riskGateShadowEntryTsUtc, saved.riskGateShadowEntryPrice, saved.riskGateShadowSide with
  | some entryTsUtc, some entryPrice, some side => some ⟨side, entryTsUtc, entryPrice⟩
  | _, _, _ => none

/-- The shadow trade of a saved state, which is held for the default time. -/
def shadowOpen (saved : HybridIntradayRuntimeState) : Option High180Open :=
  match saved.riskGateShadowTargetPrice, saved.riskGateShadowStopPrice with
  | some targetPrice, some stopPrice =>
    some ⟨targetPrice, stopPrice, High180MrConfig.default.maxHold⟩
  | _, _ => none

def finalizations (saved : HybridIntradayRuntimeState) : List RiskGateSessionFinalization :=
  match saved.riskGatePendingSessionDate with
  | some sessionDate =>
    [⟨sessionDate, saved.riskGatePendingShadowPnlPoints, saved.riskGatePendingShadowTradeCount⟩]
  | none => []

def hybridState (saved : HybridIntradayRuntimeState) (config : HybridIntradayRuntimeConfig) :
    HybridState :=
  if (saved.pendingEntry config).isSome || saved.pendingEntryRequestId.isSome then .pending
  else if epsilon < |saved.lastPositionQty| ∧ saved.currentOwner.isSome ∧ saved.currentSide.isSome then
    .opened
  else .flat

def orchestratorSnapshot (saved : HybridIntradayRuntimeState)
    (config : HybridIntradayRuntimeConfig) : HybridSnapshot where
  state := saved.hybridState config
  currentOwner := saved.currentOwner
  currentSide := saved.currentSide
  hasPendingEntry := (saved.pendingEntry config).isSome
  overnightExitArmedDate := saved.overnightExitArmedDate

/-- The breakout engine of a saved state: its day and its range are the strategy's. -/
def breakoutSnapshot (saved : HybridIntradayRuntimeState) : IntradayBreakoutSnapshot where
  curDayDate := saved.lastDayLocal
  curDayHigh := saved.currentDayHigh
  curDayLow := saved.currentDayLow
  curDayClose := saved.currentDayClose
  yesterdayClose := saved.prevDayClose
  yesterdayRange := saved.prevDayRange
  yesterdayReturn := saved.prevDayReturn
  dayBeforeClose := saved.dayBeforeClose
  wasLongToday := saved.wasLongToday
  wasShortToday := saved.wasShortToday
  todayStart := saved.todayStartLocal

end HybridIntradayRuntimeState

namespace HybridIntradayRuntimeStrategy

/-- The part of `set_state` that reads the saved fields. -/
def restore (s : HybridIntradayRuntimeStrategy) (saved : HybridIntradayRuntimeState) :
    HybridIntradayRuntimeStrategy :=
  { s with
    toDayFeatures := saved.toDayFeatures
    toProtection := saved.toProtection
    activeCycleId := saved.activeCycleId.bind CycleId.parse
    nextCycleSeq := saved.nextCycleSeq
    lastPositionQty := saved.lastPositionQty
    currentOwner := saved.currentOwner
    currentSide := saved.currentSide
    pendingEntry := saved.pendingEntry s.config
    pendingEntryRequestId := saved.pendingEntryRequestId
    pendingEntryCreatedTsUtc := saved.pendingEntryCreatedTsUtc
    deferredEntry := saved.deferredEntry
    pendingExit := none
    pendingExitRequestId := saved.pendingExitRequestId
    pendingExitCreatedTsUtc := saved.pendingExitCreatedTsUtc
    deferredExit := saved.deferredExit
    safeModeCloseOnly := saved.safeModeCloseOnly
    safeModeReason := saved.safeModeReason
    orchestrator :=
      { s.orchestrator.restore (saved.orchestratorSnapshot s.config) with
        intradayBreakout := s.orchestrator.intradayBreakout.restoreSnapshot saved.breakoutSnapshot }
    entryReady := saved.entryReady && (saved.prevDayRange.isSome && saved.prevDayClose.isSome)
    riskGateShadowSessionDate := saved.riskGateShadowSessionDate
    riskGateShadowPnlPoints := saved.riskGateShadowPnlPoints
    riskGateShadowTradeCount := saved.riskGateShadowTradeCount
    riskGateShadowPosition := saved.shadowPosition
    riskGateShadowOpen := saved.shadowOpen
    pendingRiskGateFinalizations := saved.finalizations
    riskGateMrEnabledCurrentSession := saved.riskGateMrEnabledCurrentSession
    riskGateRollingSumLb120 := saved.riskGateRollingSumLb120
    riskGateLastFinalizedSessionDate := saved.riskGateLastFinalizedSessionDate
    riskGateLedgerRowsCount := saved.riskGateLedgerRowsCount
    state := .hybridIntradayRuntime saved }

/-- `set_state`; an entry readiness that the restored features do not bear out is saved as lost. -/
def setState (s : HybridIntradayRuntimeStrategy) (state : StrategyState) :
    HybridIntradayRuntimeStrategy :=
  match state with
  | .idle => { s with state := .idle }
  | .hybridIntradayRuntime saved =>
    let s := s.restore saved
    if saved.entryReady && !s.signalsWarmed then s.syncState else s

end HybridIntradayRuntimeStrategy

end AlorRs.HybridIntraday
