import AlorRs.StrategyRuntime.HybridIntradayRuntime.Bars

/-!
# The other events of the hybrid strategy

Acknowledgments, order and position events, the timer, the callbacks of a start, and the strategy
as a record of callbacks.  Two callbacks look at the clock, which is an argument here.
-/

namespace AlorRs.HybridIntraday

/-- The statuses of an acknowledgment that ends a request without an order. -/
def isNegative (status : AckStatus) : Bool :=
  status = .rejected || status = .expired || status = .error

def isWindowClosedRecoverableReject (ack : CommandAck) : Bool :=
  ack.errorCode = some "trading_window_closed" && ack.brokerOrderId.isNone

def insertId {α : Type} [DecidableEq α] (id : α) (ids : List α) : List α :=
  if id ∈ ids then ids else ids ++ [id]

def removeId {α : Type} [DecidableEq α] (id : α) (ids : List α) : List α :=
  ids.filter (· ≠ id)

namespace HybridIntradayRuntimeStrategy

/-! ### Acknowledgments -/

/-- The entry that a closed trading window puts off. -/
def deferEntry (entry : PendingEntry) (ack : CommandAck) : DeferredEntry where
  signal :=
    { owner := entry.owner
      side := entry.side
      entryStyle := entry.entryStyle
      reason := entry.reason
      stopPrice := entry.stopPrice
      takePrice := entry.takePrice }
  cycleId := entry.cycleId
  deferredTsUtc := ack.processedTsUtc
  originalRequestId := ack.requestId

variable (s : HybridIntradayRuntimeStrategy) (ack : CommandAck)

/-- `on_ack` for an entry that was turned down. -/
def rejectEntry : HybridIntradayRuntimeStrategy :=
  let recoverable := isWindowClosedRecoverableReject ack
  let rejected :=
    { s with
      orchestrator := s.orchestrator.onOrderRejected .entry
      deferredEntry :=
        if recoverable then (s.pendingEntry.map fun entry => deferEntry entry ack).or s.deferredEntry
        else s.deferredEntry
      pendingEntry := none
      pendingEntryRequestId := none
      pendingEntryCreatedTsUtc := none
      activeCycleId := none
      tpOrderId := none
      slStopOrderId := none
      slExchangeOrderId := none }
  if recoverable then rejected else rejected.enterSafeMode "entry_rejected"

/-- The exit that a closed trading window puts off. -/
def deferExit (exit : PendingExit) (cycleId : CycleId) (ack : CommandAck) : DeferredExit where
  owner := exit.owner
  reason := exit.reason
  cycleId := cycleId
  deferredTsUtc := ack.processedTsUtc
  originalRequestId := ack.requestId

/-- `on_ack` for an exit that was turned down. -/
def rejectExit : HybridIntradayRuntimeStrategy :=
  let deferring :=
    if isWindowClosedRecoverableReject ack then
      { s.takeCycleId with
        deferredExit :=
          s.pendingExit.map fun exit => deferExit exit (s.cycleIdOrNext ack.processedTsUtc) ack }
    else s
  { deferring with
    orchestrator := deferring.orchestrator.onOrderRejected .exit
    pendingExit := none
    pendingExitRequestId := none
    pendingExitCreatedTsUtc := none }

/-- `on_ack` for a take-profit that was turned down. -/
def rejectTp : HybridIntradayRuntimeStrategy :=
  ({ s with pendingTpRequestId := none, pendingTpCreatedTsUtc := none }).scheduleNextRepair
    ack.processedTsUtc

/-- `on_ack` for a stop-loss that was turned down. -/
def rejectSl : HybridIntradayRuntimeStrategy :=
  ({ s with pendingSlRequestId := none, pendingSlCreatedTsUtc := none }).scheduleNextRepair
    ack.processedTsUtc

def maxCleanupStopRetries : ℕ := 3

/-- Whether a failed command leaves stop orders behind while the strategy is flat. -/
def needsStopCleanup : Bool :=
  isNegative ack.status && decide (|s.lastPositionQty| ≤ epsilon) && !s.workingStopOrders.isEmpty &&
    decide (s.cleanupStopRetryAttempts < maxCleanupStopRetries)

def onAck : HybridIntradayRuntimeStrategy × List Intent :=
  let negative := isNegative ack.status
  if some ack.requestId = s.pendingEntryRequestId then
    ((if negative then s.rejectEntry ack else s).syncState, [])
  else if some ack.requestId = s.pendingExitRequestId then
    ((if negative then s.rejectExit ack else s).syncState, [])
  else if some ack.requestId = s.pendingTpRequestId then
    ((if negative then s.rejectTp ack else s).syncState, [])
  else if some ack.requestId = s.pendingSlRequestId then
    ((if negative then s.rejectSl ack else s).syncState, [])
  else if s.needsStopCleanup ack then
    (({ s with cleanupStopRetryAttempts := s.cleanupStopRetryAttempts + 1 }).syncState,
      (s.workingStopOrders.insertionSort (· ≤ ·)).map fun id => deleteStopIntent id none)
  else (s, [])

/-! ### Orders -/

/-- `on_order`'s part for a take-profit. -/
def seeTpOrder (ord : OrderEvent) (status : String) (nowMs : ℤ) : HybridIntradayRuntimeStrategy :=
  let seen :=
    { s with
      pendingTpRequestId := none
      pendingTpCreatedTsUtc := none
      tpOrderId :=
        if isTerminalOrderStatus status then none
        else if 0 < ord.orderId then some ord.orderId else s.tpOrderId }
  if status = "filled" then seen.markBracketTerminalReconcile nowMs else seen

/-- `on_order`; `nowMs` is the clock. -/
def onOrder (ctx : StrategyCtx) (ord : OrderEvent) (nowMs : ℤ) :
    HybridIntradayRuntimeStrategy × List Intent :=
  if ord.symbol ≠ s.config.symbol ∨ !isOurTag ctx ord.comment then (s, [])
  else
    let status := toAsciiLowercaseText ord.status
    let terminal := isTerminalOrderStatus status
    let s := if terminal then s else s.ensureActiveCycleFromComment ord.comment
    let s := if tagRole ord.comment = some .tp then s.seeTpOrder ord status nowMs else s
    let s :=
      { s with
        workingOrders :=
          if terminal then removeId ord.orderId s.workingOrders
          else if 0 < ord.orderId then insertId ord.orderId s.workingOrders
          else s.workingOrders }
    (s.syncState, [])

def seeSlOrder (ord : StopOrderEvent) (status : String) (nowMs : ℤ)
    : HybridIntradayRuntimeStrategy × List Intent :=
  let seen :=
    { s with
      pendingSlRequestId := none
      pendingSlCreatedTsUtc := none
      slStopOrderId :=
        if isTerminalStopOrderStatus status then none
        else if !isBlank ord.stopOrderId then some ord.stopOrderId else s.slStopOrderId
      slExchangeOrderId :=
        if isCanceledStatus status then none else ord.exchangeOrderId.or s.slExchangeOrderId }
  if isTriggeredStatus status then
    ({ seen.markBracketTerminalReconcile nowMs with
        slTriggeredTs := some (max ord.tsUtc 0)
        tpOrderId := none },
      (s.tpOrderId.map cancelIntent).toList)
  else (seen, [])

def onStopOrder (ctx : StrategyCtx) (ord : StopOrderEvent) (nowMs : ℤ)
    : HybridIntradayRuntimeStrategy × List Intent :=
  if ord.symbol ≠ s.config.symbol ∨ !isOurTag ctx ord.comment then (s, [])
  else
    let status := toAsciiLowercaseText ord.status
    let terminal := isTerminalStopOrderStatus status
    let s := if terminal then s else s.ensureActiveCycleFromComment ord.comment
    let seen := if tagRole ord.comment = some .sl then s.seeSlOrder ord status nowMs else (s, [])
    let working :=
      if terminal then removeId ord.stopOrderId seen.1.workingStopOrders
      else if !isBlank ord.stopOrderId then insertId ord.stopOrderId seen.1.workingStopOrders
      else seen.1.workingStopOrders
    let s :=
      { seen.1 with
        workingStopOrders := working
        cleanupStopRetryAttempts :=
          if terminal && working.isEmpty then 0 else seen.1.cleanupStopRetryAttempts }
    (s.syncState, seen.2)

/-! ### Positions -/

def seePosition (cur : ℚ) : HybridIntradayRuntimeStrategy :=
  ({ s with lastPositionQty := cur }).syncState

def invalidProgressReason (entry : PendingEntry) (cur : ℚ) : String :=
  if signum cur ≠ signum (expectedEntryQty entry) then "partial_entry_sign_mismatch"
  else if entry.targetQty + epsilon < |cur| then "partial_entry_overfill"
  else "partial_entry_position_reduced"

def abortEntry (ctx : StrategyCtx) (pos : PositionEvent) (entry : PendingEntry)
    : HybridIntradayRuntimeStrategy × List Intent :=
  let exited := s.emitBrokerResidualEmergencyExit ctx pos (invalidProgressReason entry pos.qty)
  (({ exited.1 with pendingEntry := none }).seePosition pos.qty, exited.2)

def waitForEntry (pos : PositionEvent) (entry : PendingEntry) (nowMs : ℤ)
    : HybridIntradayRuntimeStrategy :=
  ({ s with
    pendingEntry := some
      { entry with partialStartedAtMs := entry.partialStartedAtMs.or (some nowMs) } }).seePosition
    pos.qty

/-- `on_position` for a change of size that no entry explains. -/
def resizePosition (ctx : StrategyCtx) (pos : PositionEvent) (nowMs : ℤ)
    : HybridIntradayRuntimeStrategy × List Intent :=
  let prev := s.lastPositionQty
  if s.mrBracketProtectivePartialProgress prev pos.qty then
    ((s.markBracketTerminalReconcile nowMs).seePosition pos.qty, [])
  else if s.bracketTerminalReconcileActive nowMs then (s.seePosition pos.qty, [])
  else
    let reason :=
      if signum prev ≠ signum pos.qty then "broker_position_sign_flip"
      else "broker_position_size_changed"
    let exited := s.emitBrokerResidualEmergencyExit ctx pos reason
    (exited.1.seePosition pos.qty, exited.2)

def fillEntry (ctx : StrategyCtx) (pos : PositionEvent) (entry : PendingEntry)
    : HybridIntradayRuntimeStrategy × List Intent :=
  let filled :=
    { s with
      cleanupStopRetryAttempts := 0
      pendingEntry := none
      deferredEntry := none
      currentOwner := some entry.owner
      currentSide := some entry.side
      activeCycleId := some entry.cycleId
      pendingEntryRequestId := none
      pendingEntryCreatedTsUtc := none
      repairAttempts := 0
      repairBackoffLevel := 0
      nextRepairAtTs := some pos.tsUtc
      repairDeadlineTs := some (saturatingAdd pos.tsUtc (asI64 s.config.repairDeadlineSec))
      mrTakePrice := entry.takePrice
      mrStopPrice := entry.stopPrice
      orchestrator := s.orchestrator.onOrderFilled .entry entry.owner (some entry.side) }
  let bracketed := filled.emitMrBracketIntents ctx pos entry
  (bracketed.1.seePosition pos.qty, bracketed.2)

def adoptPosition (ctx : StrategyCtx) (pos : PositionEvent) :
    HybridIntradayRuntimeStrategy × List Intent :=
  let adopted :=
    ({ s.takeCycleId with
      cleanupStopRetryAttempts := 0
      deferredEntry := none
      currentOwner := none
      currentSide := none
      activeCycleId := some (s.cycleIdOrNext pos.tsUtc) }).enterSafeMode
      "recovered_position_owner_unknown"
  let exited :=
    if pos.existing then (adopted, [])
    else adopted.emitBrokerResidualEmergencyExit ctx pos "unexpected_broker_residual"
  (exited.1.seePosition pos.qty, exited.2)

def closePosition (pos : PositionEvent) : HybridIntradayRuntimeStrategy × List Intent :=
  let closed :=
    { s with
      cleanupStopRetryAttempts := 0
      orchestrator :=
        s.orchestrator.onOrderFilled .exit (s.currentOwner.getD .meanReversion) none
      currentOwner := none
      currentSide := none
      pendingEntry := none
      pendingEntryRequestId := none
      pendingEntryCreatedTsUtc := none
      deferredEntry := none
      pendingExit := none
      pendingExitRequestId := none
      pendingExitCreatedTsUtc := none
      deferredExit := none
      bracketTerminalReconcileStartedMs := none
      activeCycleId := none
      safeModeCloseOnly := false
      safeModeReason := none
      slTriggeredTs := none }
  let canceled := closed.emitCancelAllProtection s.currentSide
  (canceled.1.resetRepairTracking.seePosition pos.qty, canceled.2)

/-- `on_position` once a pending entry has had its say; `filled` is the entry that it completes. -/
def movePosition (ctx : StrategyCtx) (pos : PositionEvent) (nowMs : ℤ)
    : HybridIntradayRuntimeStrategy × List Intent :=
  let prev := s.lastPositionQty
  if epsilon < |prev| ∧ epsilon < |pos.qty| ∧ epsilon < |prev - pos.qty| then
    s.resizePosition ctx pos nowMs
  else if |prev| ≤ epsilon ∧ epsilon < |pos.qty| then s.adoptPosition ctx pos
  else if epsilon < |prev| ∧ |pos.qty| ≤ epsilon then s.closePosition pos
  else (s.seePosition pos.qty, [])

/-- `on_position`; `nowMs` is the clock. -/
def onPosition (ctx : StrategyCtx) (pos : PositionEvent) (nowMs : ℤ)
    : HybridIntradayRuntimeStrategy × List Intent :=
  if pos.symbol ≠ s.config.symbol then (s, [])
  else
    match s.pendingEntry with
    | none => s.movePosition ctx pos nowMs
    | some entry =>
      if |pos.qty| ≤ epsilon then s.movePosition ctx pos nowMs
      else if !partialEntryProgressIsValid entry s.lastPositionQty pos.qty then
        s.abortEntry ctx pos entry
      else if waitsForPartialEntryTarget entry ∧ |pos.qty| + epsilon < entry.targetQty then
        (s.waitForEntry pos entry nowMs, [])
      else s.fillEntry ctx pos entry

/-! ### The timer -/

def onTimer (ctx : StrategyCtx) (nowTsUtcMs : ℤ) : HybridIntradayRuntimeStrategy × List Intent :=
  let reconciled := s.emitBracketReconcileTimeoutExit ctx nowTsUtcMs
  let partially := reconciled.1.emitPartialEntryTimeoutExit ctx nowTsUtcMs
  (partially.1, reconciled.2 ++ partially.2)

/-! ### The start -/

def clearBrokerLifecycleForPaperBootstrap : HybridIntradayRuntimeStrategy :=
  { s with
    toProtection := .none
    lastPositionQty := 0
    currentOwner := none
    currentSide := none
    pendingEntry := none
    pendingEntryRequestId := none
    pendingEntryCreatedTsUtc := none
    deferredEntry := none
    pendingExit := none
    pendingExitRequestId := none
    pendingExitCreatedTsUtc := none
    deferredExit := none
    activeCycleId := none
    safeModeCloseOnly := false
    safeModeReason := none
    workingOrders := []
    workingStopOrders := []
    orchestrator := s.orchestrator.reset }

/-- What the tags of the broker's orders say of the owner: the strategy, and the owner so far. -/
def readOwnerTag (owner : Option Owner) (comment : Option String)
    : HybridIntradayRuntimeStrategy × Option Owner :=
  match parseHybridTag comment with
  | none => (s, owner)
  | some tag =>
    match owner with
    | none => (s, tag.owner)
    | some _ =>
      if tag.owner.isSome ∧ tag.owner ≠ owner then
        (s.enterSafeMode "bootstrap_conflicting_owner_tags", owner)
      else (s, owner)

def adoptOrder (ctx : StrategyCtx) (acc : HybridIntradayRuntimeStrategy × Option Owner)
    (orderId : ℤ) (order : OrderEvent) : HybridIntradayRuntimeStrategy × Option Owner :=
  if order.symbol ≠ acc.1.config.symbol ∨ !isOurTag ctx order.comment then acc
  else
    let s := { acc.1 with workingOrders := insertId orderId acc.1.workingOrders }
    let read := (s.ensureActiveCycleFromComment order.comment).readOwnerTag acc.2 order.comment
    (if tagRole order.comment = some .tp then { read.1 with tpOrderId := some orderId } else read.1,
      read.2)

def adoptStopOrder (ctx : StrategyCtx) (acc : HybridIntradayRuntimeStrategy × Option Owner)
    (stopOrderId : String) (stopOrder : StopOrderEvent) :
    HybridIntradayRuntimeStrategy × Option Owner :=
  if stopOrder.symbol ≠ acc.1.config.symbol ∨ !isOurTag ctx stopOrder.comment then acc
  else
    let s := { acc.1 with workingStopOrders := insertId stopOrderId acc.1.workingStopOrders }
    let read :=
      (s.ensureActiveCycleFromComment stopOrder.comment).readOwnerTag acc.2 stopOrder.comment
    (if tagRole stopOrder.comment = some .sl then
        { read.1 with
          slStopOrderId := some stopOrderId
          slExchangeOrderId := stopOrder.exchangeOrderId }
      else read.1,
      read.2)

/-- The broker's position at the start. -/
def adoptBootPosition (position : Option PositionEvent) : HybridIntradayRuntimeStrategy :=
  match position with
  | none => s
  | some position =>
    let seen :=
      { s with
        lastPositionQty := position.qty
        currentSide :=
          if s.currentSide.isNone ∧ epsilon < |position.qty| then
            some (if 0 ≤ position.qty then .long else .short)
          else s.currentSide }
    if epsilon < |position.qty| ∧ seen.pendingEntry.isNone ∧ seen.currentOwner.isNone then
      seen.enterSafeMode "bootstrap_position_owner_unknown"
    else seen

def onBootstrapSnapshot (ctx : StrategyCtx) (snapshot : BootstrapSnapshot)
    : HybridIntradayRuntimeStrategy × List Intent :=
  if ctx.tradeMode ≠ .live then (s.clearBrokerLifecycleForPaperBootstrap.syncState, [])
  else
    let cleared :=
      { s with
        workingOrders := []
        workingStopOrders := []
        tpOrderId := none
        slStopOrderId := none
        slExchangeOrderId := none }
    let orders := snapshot.workingOrdersStrategy.entries.foldl
      (fun acc order => adoptOrder ctx acc order.1 order.2) (cleared, none)
    let stopOrders := snapshot.workingStopOrdersStrategy.entries.foldl
      (fun acc stopOrder => adoptStopOrder ctx acc stopOrder.1 stopOrder.2) orders
    let owned :=
      { stopOrders.1 with currentOwner := stopOrders.1.currentOwner.or stopOrders.2 }
    ((owned.adoptBootPosition (snapshot.positionsStrategy.lookup s.config.symbol)).syncState, [])

/-- Whether anything is left of a cycle that the broker knows nothing of. -/
def hasStaleTail : Bool :=
  s.pendingEntry.isSome || s.pendingEntryRequestId.isSome || s.pendingExitRequestId.isSome ||
    s.pendingTpRequestId.isSome || s.pendingSlRequestId.isSome || s.currentOwner.isSome ||
    s.currentSide.isSome || s.activeCycleId.isSome

def clearBootStalePendingTail : HybridIntradayRuntimeStrategy :=
  if epsilon < |s.lastPositionQty| ∨ s.workingOrders ≠ [] ∨ s.workingStopOrders ≠ [] ∨
      !s.hasStaleTail then s
  else
    { s with
      toProtection := .none
      pendingEntry := none
      pendingEntryRequestId := none
      pendingEntryCreatedTsUtc := none
      deferredEntry := none
      pendingExit := none
      pendingExitRequestId := none
      pendingExitCreatedTsUtc := none
      deferredExit := none
      currentOwner := none
      currentSide := none
      activeCycleId := none
      orchestrator := s.orchestrator.reset }.syncState

def onRuntimeStateRestored (ctx : StrategyCtx) : HybridIntradayRuntimeStrategy × List Intent :=
  ((s.clearBootStalePendingTail.armStartupReplayGuard ctx).syncState, [])

/-! ### The risk gate -/

def acknowledgeRiskGateSessionFinalizations (sessionDates : List NaiveDate)
    : HybridIntradayRuntimeStrategy :=
  if sessionDates.isEmpty then s
  else
    ({ s with
      pendingRiskGateFinalizations := s.pendingRiskGateFinalizations.filter
        fun finalization => !sessionDates.contains finalization.sessionDate }).syncState

def onRiskGateState (state : RiskGateRuntimeState) : HybridIntradayRuntimeStrategy :=
  if !riskGateShadowEnabled s.config then s
  else
    ({ s with
      riskGateMrEnabledCurrentSession := state.mrEnabledCurrentSession
      riskGateRollingSumLb120 := state.rollingSumLb120
      riskGateLastFinalizedSessionDate := state.lastFinalizedSessionDate
      riskGateLedgerRowsCount := state.ledgerRowsCount }).syncState

/-! ### Warm-up -/

/-- A bar that the warm-up takes, and the number of bars taken so far. -/
def warmupBar (acc : HybridIntradayRuntimeStrategy × ℕ) (bar : BarEvent) :
    HybridIntradayRuntimeStrategy × ℕ :=
  let warmup := acc.1
  if bar.symbol ≠ warmup.config.symbol then acc
  else
    match utcToLocalNaive warmup.config bar.closeTimeUtc with
    | none => acc
    | some dtLocal =>
      if suppressWeekendSignalGeneration warmup.config dtLocal ||
          suppressNonModelSessionBar warmup.config dtLocal then
        ({ warmup with lastProcessedBarTs := some bar.closeTimeUtc }, acc.2)
      else
        let updated := warmup.updateDayAggregates dtLocal bar.h bar.l
        let engaged :=
          if usesHigh180Mr updated.config then
            { updated with
              high180Mr := updated.high180Mr.onBar dtLocal bar.h bar.l
              riskGateShadowMr := updated.riskGateShadowMr.onBar dtLocal bar.h bar.l }
          else updated
        ({ engaged with
            orchestrator := { engaged.orchestrator with
              intradayBreakout :=
                engaged.orchestrator.intradayBreakout.onBar dtLocal bar.o bar.h bar.l bar.close }
            lastBarClose := some bar.close
            lastProcessedBarTs := some bar.closeTimeUtc },
          acc.2 + 1)

/-- `warmup_from_history`: the features and the engines of a new strategy that saw the bars. -/
def warmupFromHistory (bars : List BarEvent) : HybridIntradayRuntimeStrategy × ℕ :=
  let (warmup, processed) := bars.foldl warmupBar (new s.config, 0)
  if processed = 0 then (s, 0)
  else
    let warmed :=
      { s with
        toDayFeatures := warmup.toDayFeatures
        high180Mr := warmup.high180Mr
        riskGateShadowMr := warmup.riskGateShadowMr
        orchestrator := { s.orchestrator with
          intradayBreakout :=
            s.orchestrator.intradayBreakout.restoreSnapshot warmup.breakoutSnapshot } }
    (({ warmed with entryReady := warmed.signalsWarmed }).syncState, processed)

/-! ### The callbacks together -/

def hexPadded (n : ℕ) : String := String.ofList (hexText (max 8 (n.log2 / 4 + 1)) n)

def intentCommentTag (ctx : StrategyCtx) (createdTsUtc : ℤ) (intentClass : IntentClass) : String :=
  let role :=
    match intentClass with
    | .entry => "ENTRY"
    | .exit => "EXIT"
    | .cancelCleanup => "CANCEL"
    | .protectiveRepair => "REPAIR"
  let comment :=
    "HYB|sid=" ++ ctx.strategyId ++ "|c=" ++ hexPadded (max createdTsUtc 0).toNat ++ "|r=" ++ role
  String.ofList ((comment.toList.filter isAscii).take 100)

end HybridIntradayRuntimeStrategy

/-- An event of a run, with what the callback reads from the clock. -/
inductive HybridEvent where
  | bar (ctx : StrategyCtx) (bar : BarEvent)
  | ack (ctx : StrategyCtx) (ack : CommandAck)
  | order (ctx : StrategyCtx) (ord : OrderEvent) (nowMs : ℤ)
  | stopOrder (ctx : StrategyCtx) (ord : StopOrderEvent) (nowMs : ℤ)
  | position (ctx : StrategyCtx) (pos : PositionEvent) (nowMs : ℤ)
  | timer (ctx : StrategyCtx) (nowTsUtcMs : ℤ)

/-- A call of the host: an event, or one of the calls of a start and of the risk gate. -/
inductive HybridCall where
  | event (event : HybridEvent)
  | bootstrapSnapshot (ctx : StrategyCtx) (snapshot : BootstrapSnapshot)
  | runtimeStateRestored (ctx : StrategyCtx)
  | warmupFromHistory (bars : List BarEvent)
  | acknowledgeFinalizations (sessionDates : List NaiveDate)
  | riskGateState (state : RiskGateRuntimeState)
  | setState (state : StrategyState)

namespace HybridEvent

def ctx : HybridEvent → StrategyCtx
  | .bar ctx _ => ctx
  | .ack ctx _ => ctx
  | .order ctx _ _ => ctx
  | .stopOrder ctx _ _ => ctx
  | .position ctx _ _ => ctx
  | .timer ctx _ => ctx

end HybridEvent

namespace HybridIntradayRuntimeStrategy

def react (s : HybridIntradayRuntimeStrategy) : HybridEvent →
    HybridIntradayRuntimeStrategy × List Intent
  | .bar ctx bar => s.onBar ctx bar
  | .ack _ ack => s.onAck ack
  | .order ctx ord nowMs => s.onOrder ctx ord nowMs
  | .stopOrder ctx ord nowMs => s.onStopOrder ctx ord nowMs
  | .position ctx pos nowMs => s.onPosition ctx pos nowMs
  | .timer ctx nowTsUtcMs => s.onTimer ctx nowTsUtcMs

def answer (s : HybridIntradayRuntimeStrategy) : HybridCall →
    HybridIntradayRuntimeStrategy × List Intent
  | .event event => s.react event
  | .bootstrapSnapshot ctx snapshot => s.onBootstrapSnapshot ctx snapshot
  | .runtimeStateRestored ctx => s.onRuntimeStateRestored ctx
  | .warmupFromHistory bars => ((s.warmupFromHistory bars).1, [])
  | .acknowledgeFinalizations sessionDates =>
    (s.acknowledgeRiskGateSessionFinalizations sessionDates, [])
  | .riskGateState state => (s.onRiskGateState state, [])
  | .setState state => (s.setState state, [])

end HybridIntradayRuntimeStrategy

/-- The strategy with the number of times that it read the clock. -/
structure HybridHost where
  strategy : HybridIntradayRuntimeStrategy
  clockReads : ℕ

namespace HybridHost

def reading (clockMs : ℕ → ℤ) (host : HybridHost)
    (callback : HybridIntradayRuntimeStrategy → ℤ → HybridIntradayRuntimeStrategy × List Intent) :
    HybridHost × List Intent :=
  let answered := callback host.strategy (clockMs host.clockReads)
  (⟨answered.1, host.clockReads + 1⟩, answered.2)

def calling (host : HybridHost)
    (callback : HybridIntradayRuntimeStrategy → HybridIntradayRuntimeStrategy × List Intent) :
    HybridHost × List Intent :=
  let answered := callback host.strategy
  ({ host with strategy := answered.1 }, answered.2)

end HybridHost

def hybridStrategy (clockMs : ℕ → ℤ) : Strategy HybridHost StrategyState where
  onBar host ctx bar := host.calling fun s => s.onBar ctx bar
  onAck host _ ack := host.calling fun s => s.onAck ack
  onOrder host ctx ord := host.reading clockMs fun s nowMs => s.onOrder ctx ord nowMs
  onStopOrder host ctx ord := host.reading clockMs fun s nowMs => s.onStopOrder ctx ord nowMs
  onPosition host ctx pos := host.reading clockMs fun s nowMs => s.onPosition ctx pos nowMs
  onTimer host ctx nowTsUtcMs := host.calling fun s => s.onTimer ctx nowTsUtcMs
  onBootstrapSnapshot host ctx snapshot := host.calling fun s => s.onBootstrapSnapshot ctx snapshot
  onRuntimeStateRestored host ctx _ := host.calling fun s => s.onRuntimeStateRestored ctx
  warmupFromHistory host _ bars :=
    let warmed := host.strategy.warmupFromHistory bars
    ({ host with strategy := warmed.1 }, warmed.2)
  trackedOrderIds _ := []
  intentCommentTag _ ctx createdTsUtc intentClass :=
    some (HybridIntradayRuntimeStrategy.intentCommentTag ctx createdTsUtc intentClass)
  onCommandPrepared host _ _ := host
  onIntentBlocked host _ _ := (host, .rollback)
  pendingRequestIds _ := []
  riskGateSessionFinalizations host := host.strategy.pendingRiskGateFinalizations
  acknowledgeRiskGateSessionFinalizations host sessionDates :=
    { host with
      strategy := host.strategy.acknowledgeRiskGateSessionFinalizations sessionDates }
  onRiskGateState host state := { host with strategy := host.strategy.onRiskGateState state }
  drainObservationJournalRecords host := (host, [])
  state host := host.strategy.state
  setState host state := { host with strategy := host.strategy.setState state }

end AlorRs.HybridIntraday
