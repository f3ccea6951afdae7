import AlorRs.StrategyRuntime.RiAuthor4142Live.Components

/-!
# The events of the RI strategy

Acks and positions settle what was sent; what a start finds that the strategy cannot account for is
left to an operator.  The strategy is given to the runtime as its callbacks (`strategy`).
-/

namespace AlorRs.RiAuthor4142

namespace RiAuthor4142LiveStrategy

/-! ### Acks -/

def ackReason (start : String) (ack : CommandAck) : String :=
  start ++ ":" ++ ack.errorCode.getD "unknown" ++ ":" ++ ack.errorMsg.getD "unknown"

/-- `qty.abs() <= f64::EPSILON`. -/
def isFlatQty (qty : ℚ) : Bool := |qty| ≤ 1 / 2 ^ 52

def isSkewed (expectedRequestId : Option Uuid) (ack : CommandAck) : Bool :=
  expectedRequestId.isSome && expectedRequestId ≠ some ack.requestId

variable (env : Environment) (s : RiAuthor4142LiveStrategy) (ctx : StrategyCtx)
  (state : RuntimeStateRestored) (ack : CommandAck)

/-- The branch of `on_ack` for an exit; an unknown position is not a flat one. -/
def ackExit : RiAuthor4142LiveStrategy :=
  if isSkewed s.pendingExitRequestId ack then s
  else if ctx.positionQty.any isFlatQty then
    s.transitionLiveFlatWithReason (ackReason "live_exit_ack_rejected_but_broker_flat" ack)
  else if ack.errorCode = some "trading_window_closed" then
    s.transitionLiveDeferredExit (ackReason "live_exit_deferred" ack)
  else
    s.enterManualInterventionRequired
      (ackReason "live_exit_ack_rejected_with_broker_position" ack)

/-- The branch of `on_ack` for an entry; an unknown position is a flat one. -/
def ackEntry : RiAuthor4142LiveStrategy :=
  if isSkewed s.pendingEntryRequestId ack then s
  else if isFlatQty (ctx.positionQty.getD 0) then
    s.transitionLiveFlatWithReason (ackReason "live_entry_ack_rejected" ack)
  else
    s.enterManualInterventionRequired (ackReason "live_ack_rejected_with_broker_position" ack)

def onAck : RiAuthor4142LiveStrategy × List Intent :=
  if !s.config.canEmitOrders then (s, [])
  else if !(ack.status = .rejected || ack.status = .expired || ack.status = .error) then (s, [])
  else if s.phaseIs .livePendingExit || s.phaseIs .liveDeferredExit then (s.ackExit ctx ack, [])
  else if s.phaseIs .livePendingEntry || s.phaseIs .liveInPosition then (s.ackEntry ctx ack, [])
  else (s, [])

def onOrder (_ctx : StrategyCtx) (_order : OrderEvent) : RiAuthor4142LiveStrategy × List Intent :=
  (s, [])

/-! ### Positions -/

def onPosition (_ctx : StrategyCtx) (pos : PositionEvent) :
    RiAuthor4142LiveStrategy × List Intent :=
  if !s.config.canEmitOrders then (s, [])
  else
    match s.phaseForTest with
    | some .livePendingEntry =>
      if isFlatQty pos.qty then (s, [])
      else
        (s.updateState fun saved =>
          { saved with
            phase := .liveInPosition
            lastTransitionReason := some "live_position_confirmed"
            pendingEntryRequestId := none }, [])
    | some .livePendingExit | some .liveDeferredExit | some .liveInPosition =>
      if isFlatQty pos.qty then
        (s.transitionLiveFlatWithReason "live_position_flat_confirmed", [])
      else (s, [])
    | _ => (s, [])

/-! ### The start -/

/-- What the strategy cannot account for in a snapshot of the broker. -/
def snapshotReason (text : RustText) (symbol : String) (snapshot : BootstrapSnapshot) :
    Option String :=
  let positionQty := ((snapshot.positionsStrategy.lookup symbol).map PositionEvent.qty).getD 0
  let workingOrders := (snapshot.workingOrdersStrategy.entries.filter fun entry =>
    entry.2.symbol = symbol).length
  let workingStopOrders := (snapshot.workingStopOrdersStrategy.entries.filter fun entry =>
    entry.2.symbol = symbol).length
  if !isFlatQty positionQty then
    some ("bootstrap_non_flat_position_qty:" ++ text.showF64 positionQty)
  else if 0 < workingOrders then some ("bootstrap_working_orders:" ++ toString workingOrders)
  else if 0 < workingStopOrders then
    some ("bootstrap_working_stop_orders:" ++ toString workingStopOrders)
  else none

def handleBootstrapSnapshot (snapshot : BootstrapSnapshot) : RiAuthor4142LiveStrategy :=
  match snapshotReason env.text s.config.symbol snapshot with
  | some reason => s.enterManualInterventionRequired reason
  | none => s

def onBootstrapSnapshot (_ctx : StrategyCtx) (snapshot : BootstrapSnapshot)
    : RiAuthor4142LiveStrategy × List Intent :=
  if s.config.runsProspectiveAdapter then (s, []) else (handleBootstrapSnapshot env s snapshot, [])

/-- What the strategy cannot account for in a restored runtime. -/
def restoredReason : Option String :=
  if state.pendingRequests.card ≠ 0 then
    some ("runtime_restore_pending_requests:" ++ toString state.pendingRequests.card)
  else if state.knownOrderIds.card ≠ 0 then
    some ("runtime_restore_known_order_ids:" ++ toString state.knownOrderIds.card)
  else none

def handleRuntimeStateRestored : RiAuthor4142LiveStrategy :=
  match restoredReason state with
  | some reason => s.enterManualInterventionRequired reason
  | none => s

def onRuntimeStateRestored (_ctx : StrategyCtx) (state : RuntimeStateRestored)
    : RiAuthor4142LiveStrategy × List Intent :=
  if s.config.runsProspectiveAdapter then (s, []) else (s.handleRuntimeStateRestored state, [])

def warmupFromHistory (_ctx : StrategyCtx) (bars : List BarEvent) : RiAuthor4142LiveStrategy × ℕ :=
  (bars.foldl (fun s bar => s.updateBarState env bar) s, bars.length)

/-! ### The state and the runtime's emission -/

def keepLivePositions : Phase → RiAuthor4142LiveStrategy
  | .liveInPosition | .livePendingExit | .liveDeferredExit => s
  | _ => s.clearLivePositions

def setState (state : Option SavedState) : RiAuthor4142LiveStrategy :=
  match state with
  | none => { s with state := none }
  | some saved =>
    { s.keepLivePositions saved.phase with
      state := some
        { saved with
          pendingEntryRequestId :=
            if saved.phase = .livePendingEntry then saved.pendingEntryRequestId else none
          pendingExitRequestId :=
            if saved.phase = .livePendingExit || saved.phase = .liveDeferredExit then
              saved.pendingExitRequestId
            else none } }

def setPendingRequestId (intentClass : IntentClass) (requestId : Uuid) : RiAuthor4142LiveStrategy :=
  s.updateState fun saved =>
    match saved.phase, intentClass with
    | .livePendingEntry, .entry => { saved with pendingEntryRequestId := some requestId }
    | .livePendingExit, .exit | .liveDeferredExit, .exit =>
      { saved with pendingExitRequestId := some requestId }
    | _, _ => saved

def onCommandPrepared (_ctx : StrategyCtx) (command : CommandPrepared) : RiAuthor4142LiveStrategy :=
  if !s.config.canEmitOrders then s
  else s.setPendingRequestId command.intentClass command.requestId

def guardReasonsAreRuntimeReadinessOnly (reasons : List String) : Bool :=
  !reasons.isEmpty && reasons.all fun reason =>
    reason = "gateway_ready=false" || reason = "gateway_health_stale" ||
      reason = "ws_connected=false" || reason = "cws_authorized=false" ||
      reason = "bootstrap:not_ready" || startsWith reason "phase="

/-- `transition_live_entry_missed_runtime_not_ready`; the cycle of the entry stays. -/
def transitionLiveEntryMissedRuntimeNotReady (event : IntentBlocked) : RiAuthor4142LiveStrategy :=
  s.clearLivePositions.updateState fun saved =>
    { saved with
      phase := .liveEntryMissedRuntimeNotReady
      lastTransitionReason := some ("missed_due_runtime_not_ready:" ++
        toString event.createdTsUtc ++ ":" ++ ",".intercalate event.guardReasons)
      pendingEntryRequestId := none
      pendingExitRequestId := none }

def onIntentBlocked (_ctx : StrategyCtx) (event : IntentBlocked) :
    RiAuthor4142LiveStrategy × IntentBlockDisposition :=
  if !s.config.canEmitOrders then (s, .rollback)
  else if event.reason = "live_guard" && event.intentClass = .entry &&
      s.phaseIs .livePendingEntry && guardReasonsAreRuntimeReadinessOnly event.guardReasons then
    (s.transitionLiveEntryMissedRuntimeNotReady event, .keepStrategyState)
  else (s, .rollback)

def pendingRequestIds : List Uuid :=
  s.pendingEntryRequestId.toList ++ s.pendingExitRequestId.toList

/-- The callbacks. -/
def strategy : Strategy RiAuthor4142LiveStrategy (Option SavedState) :=
  { Strategy.withDefaults (onBar env) onAck onOrder onPosition (fun s => s.state) setState with
    onBootstrapSnapshot := onBootstrapSnapshot env
    onRuntimeStateRestored := onRuntimeStateRestored
    warmupFromHistory := warmupFromHistory env
    onCommandPrepared := onCommandPrepared
    onIntentBlocked := onIntentBlocked
    pendingRequestIds := pendingRequestIds
    drainObservationJournalRecords := fun s =>
      ({ s with journalRecords := [] }, s.journalRecords.map env.recordText) }

end RiAuthor4142LiveStrategy

end AlorRs.RiAuthor4142
