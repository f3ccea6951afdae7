import AlorRs.StrategyRuntime.AlorUsdrubfHybrid.Intents
import Mathlib.Data.Finset.Sort

/-!
# The events of the USDRUBF strategy

A bar passes the guards of the start and of the session before the strategy looks at it.  Acks,
orders, stop orders and positions of the broker settle what was sent; of these, the handlers that
look at the clock take it as an argument.
-/

namespace AlorRs.AlorUsdrubfHybrid

namespace AlorUsdrubfHybridStrategy

/-! ### Bars -/

variable (s : AlorUsdrubfHybridStrategy) (ctx : StrategyCtx) (bar : BarEvent) (pos : PositionEvent)

def gateBar : AlorUsdrubfHybridStrategy × Bool :=
  let live : Bool := ctx.tradeMode = .live
  let localDt := utcToLocal bar.closeTimeUtc s.config.timezoneOffsetHours
  let s := { s with lifecycleStage := "live", lastBarTs := some bar.closeTimeUtc }
  if live && !s.config.enableLiveExecution then (s, false)
  else if live && !s.liveReady && s.isLiveStartupBarStale ctx bar.closeTimeUtc then
    ({ s with lifecycleStage := "replay_tail_suppressed" }, false)
  else if live && !s.liveReady && bar.origin ≠ .live then
    ({ s with lifecycleStage := "awaiting_fresh_live_origin_bar" }, false)
  else
    let s :=
      if live && !s.liveReady then { s with liveReady := true, lifecycleStage := "live_ready" }
      else s
    if live && bar.origin ≠ .live then
      ({ s with lifecycleStage := "recovered_bar_suppressed" }, false)
    else if !s.isModelSessionBar localDt then
      ({ s with lifecycleStage := "outside_model_session_suppressed" }, false)
    else (s, true)

def acceptSignal (signal : PendingEntry) : AlorUsdrubfHybridStrategy :=
  { s with
    day := { s.day with
      boWasLongToday := s.day.boWasLongToday || (signal.owner = .breakout && signal.side = .long)
      boWasShortToday :=
        s.day.boWasShortToday || (signal.owner = .breakout && signal.side = .short) }
    pendingEntry := some signal
    hybridState := .pending }

variable (rs : ResearchSnapshot)

/-- The end of `on_bar`: a new signal, which live trading enters on at once. -/
def lookForSignal : AlorUsdrubfHybridStrategy × List Intent :=
  if s.openPosition.isNone && s.pendingEntry.isNone &&
      !(ctx.tradeMode = .live && s.entryIntentInflight) then
    match s.evaluateSignalResearch rs with
    | none => (s, [])
    | some signal =>
      let s := s.acceptSignal signal
      if ctx.tradeMode = .live then s.maybeEmitLiveEntryIntent bar bar.close else (s, [])
  else (s, [])

def isBracketExit (reason : String) : Bool :=
  s.openPosition.any fun pos =>
    pos.owner = .meanRev && (reason = "mr_take" || reason = "mr_stop")

def tradeLiveBar : AlorUsdrubfHybridStrategy × List Intent :=
  let (s, brackets) := s.maybeEmitLiveMrBrackets ctx bar.closeTimeUtc
  match s.evaluateExitResearch rs with
  | some (reason, exitPrice) =>
    if s.isBracketExit reason then (s, brackets)
    else
      let (s, exits) := s.maybeEmitLiveExitIntent reason exitPrice bar.closeTimeUtc
      (s, brackets ++ exits)
  | none =>
    let (s, entries) := s.maybeEmitLiveEntryIntent bar bar.o
    let (s, signals) := s.lookForSignal ctx bar rs
    (s, brackets ++ (entries ++ signals))

/-- The live part of `on_bar`: first the deferrals that are over. -/
def tradeLive (s : AlorUsdrubfHybridStrategy) (ctx : StrategyCtx) (bar : BarEvent)
    (rs : ResearchSnapshot) : AlorUsdrubfHybridStrategy × List Intent :=
  let s :=
    if s.entryRejectDeferredUntilBarTs.any (· < bar.closeTimeUtc) then
      { s with entryRejectDeferredUntilBarTs := none }
    else s
  if s.exitRejectDeferredUntilBarTs.any (· < bar.closeTimeUtc) then
    let deferredReason := s.deferredExitReason.getD "deferred_exit_retry"
    let s := { s with exitRejectDeferredUntilBarTs := none }
    if s.openPosition.isSome && !s.exitIntentInflight then
      s.maybeEmitLiveExitIntent deferredReason bar.close bar.closeTimeUtc
    else ({ s with deferredExitReason := none } : AlorUsdrubfHybridStrategy).tradeLiveBar ctx bar rs
  else s.tradeLiveBar ctx bar rs

/-- The rest of `on_bar` outside live trading. -/
def tradePaper : AlorUsdrubfHybridStrategy × List Intent :=
  let (s, entries) := s.maybeFillPendingEntry bar
  match s.evaluateExitResearch rs with
  | some (reason, exitPrice) =>
    let (s, exits) := s.applyExit reason exitPrice
    (s, entries ++ exits)
  | none =>
    let (s, signals) := s.lookForSignal ctx bar rs
    (s, entries ++ signals)

def enterDay (localDt : NaiveDateTime) : AlorUsdrubfHybridStrategy :=
  let s := if s.day.currentDateLocal ≠ some localDt.date then s.resetDay localDt.date else s
  { s with day := s.day.update bar localDt }

def tradeBar : AlorUsdrubfHybridStrategy × List Intent :=
  let localDt := utcToLocal bar.closeTimeUtc s.config.timezoneOffsetHours
  let s := s.enterDay bar localDt
  let rs := s.buildResearchSnapshot bar localDt
  if ctx.tradeMode = .live then s.tradeLive ctx bar rs else s.tradePaper ctx bar rs

def onBar : AlorUsdrubfHybridStrategy × List Intent :=
  if bar.symbol ≠ s.config.symbol then (s, [])
  else if s.lastProcessedBarTs.any (bar.closeTimeUtc ≤ ·) then (s, [])
  else
    let (s, admitted) := s.gateBar ctx bar
    let (s, intents) := if admitted then s.tradeBar ctx bar else (s, [])
    (({ s with lastProcessedBarTs := some bar.closeTimeUtc } : AlorUsdrubfHybridStrategy
      ).syncState, intents)

/-! ### Acks -/

def noteAck (ack : CommandAck) : AlorUsdrubfHybridStrategy :=
  { s with
    pendingRequestIds := s.pendingRequestIds.erase ack.requestId
    trackedOrderIds := s.trackedOrderIds ∪ (ack.brokerOrderId.map fun orderId => {orderId}).getD ∅ }

def rejectCommand : AlorUsdrubfHybridStrategy :=
  let rejectTs := s.lastBarTs.getD 0
  let cleared := { s with entryIntentInflight := false, exitIntentInflight := false }
  if s.exitIntentInflight && s.openPosition.isSome then
    { cleared with
      exitRejectDeferredUntilBarTs := some rejectTs
      lifecycleStage := "exit_reject_deferred_retry" }
  else if s.entryIntentInflight && s.pendingEntry.isSome then
    { cleared with
      entryRejectDeferredUntilBarTs := some rejectTs
      lifecycleStage := "entry_reject_deferred_retry" }
  else { cleared with lifecycleStage := "broker_ack_rejected" }

def isRejection (ack : CommandAck) : Bool :=
  ack.status = .rejected || ack.status = .expired || ack.status = .error

def onAck (_ctx : StrategyCtx) (ack : CommandAck) : AlorUsdrubfHybridStrategy × List Intent :=
  let s := s.noteAck ack
  if isRejection ack then (s.rejectCommand.syncState, []) else (s, [])

/-! ### Orders -/

/-- The statuses of an order that was cancelled or refused. -/
def isDeadStatus (status : String) : Bool :=
  ["cancelled", "canceled", "rejected", "expired"].contains status

def isTriggeredStatus (status : String) : Bool :=
  ["filled", "executed", "triggered", "done", "completed"].contains status

def holdsMr : Bool :=
  s.openPosition.any fun pos => pos.owner = .meanRev

/-- A TP of the MR position; `nowMs` is the clock. -/
def seeTpOrder (orderId : ℤ) (status : String) (nowMs : ℤ) : AlorUsdrubfHybridStrategy :=
  if status = "filled" then
    { s.markBracketTerminalReconcile nowMs with
      protection := { s.protection with pendingTpBarTsUtc := none, tpOrderId := none }
      exitIntentInflight := true
      lifecycleStage := "mr_tp_filled_awaiting_broker_flat" }
  else
    { s with
      protection :=
        { s.protection with
          pendingTpBarTsUtc := none
          tpOrderId := if isDeadStatus status then none else some orderId } }

/-- The order in the tracked ones, unless it is over; an expired order stays. -/
def trackOrder (orderId : ℤ) (status : String) : AlorUsdrubfHybridStrategy :=
  { s with
    trackedOrderIds :=
      if ["filled", "cancelled", "canceled", "rejected"].contains status then
        s.trackedOrderIds.erase orderId
      else insert orderId s.trackedOrderIds }

/-- Without a tracked order and a position no entry is on its way. -/
def settleEntry : AlorUsdrubfHybridStrategy :=
  if s.trackedOrderIds = ∅ && s.openPosition.isNone then
    { s with
      entryIntentInflight := false
      hybridState := if s.pendingEntry.isNone then .flat else s.hybridState }
  else s

/-- What an order says of its request and of the TP; `nowMs` is the clock. -/
def noteOrder (ord : OrderEvent) (nowMs : ℤ) : AlorUsdrubfHybridStrategy :=
  let s :=
    { s with
      pendingRequestIds := s.pendingRequestIds \ (ord.requestId.map fun id => {id}).getD ∅ }
  if s.holdsMr && parseMrProtectionRole ord.comment = some .tp then
    s.seeTpOrder ord.orderId (toAsciiLowercaseText ord.status) nowMs
  else s

/-- `on_order`; `nowMs` is the clock. -/
def onOrder (_ctx : StrategyCtx) (ord : OrderEvent) (nowMs : ℤ) :
    AlorUsdrubfHybridStrategy × List Intent :=
  if ord.symbol = s.config.symbol && decide (0 < ord.orderId) then
    (((s.noteOrder ord nowMs).trackOrder ord.orderId
      (toAsciiLowercaseText ord.status)).settleEntry.syncState, [])
  else (s, [])

variable (ord : StopOrderEvent)

/-- What a stop order that protects the MR position says of its identifiers. -/
def noteSlOrder : AlorUsdrubfHybridStrategy :=
  { s with
    protection :=
      { s.protection with
        pendingSlBarTsUtc := none
        slStopOrderId :=
          if isBlank ord.stopOrderId then s.protection.slStopOrderId else some ord.stopOrderId
        slExchangeOrderId := ord.exchangeOrderId.or s.protection.slExchangeOrderId } }

variable (nowMs : ℤ)

/-- A stop order that was triggered takes the place of the TP. -/
def triggerSl : AlorUsdrubfHybridStrategy × List Intent :=
  ({ s.markBracketTerminalReconcile nowMs with
      exitIntentInflight := true
      lifecycleStage := "mr_sl_filled_awaiting_broker_flat"
      protection := { s.protection with tpOrderId := none } },
    (s.protection.tpOrderId.map fun orderId =>
      (Intent.cancel orderId).withClass .cancelCleanup).toList)

/-- A stop order of the MR position; `nowMs` is the clock. -/
def seeSlOrder : AlorUsdrubfHybridStrategy × List Intent :=
  let status := toAsciiLowercaseText ord.status
  let s := s.noteSlOrder ord
  let (s, intents) := if isTriggeredStatus status then s.triggerSl nowMs else (s, [])
  ({ s with
      protection :=
        { s.protection with
          slStopOrderId :=
            if isTriggeredStatus status || isDeadStatus status then none
            else s.protection.slStopOrderId
          slExchangeOrderId :=
            if isDeadStatus status then none else s.protection.slExchangeOrderId } },
    intents)

def onStopOrder (_ctx : StrategyCtx) (ord : StopOrderEvent) (nowMs : ℤ)
    : AlorUsdrubfHybridStrategy × List Intent :=
  let (s, intents) :=
    if ord.symbol = s.config.symbol && s.holdsMr &&
        parseMrProtectionRole ord.comment = some .sl then
      s.seeSlOrder ord nowMs
    else (s, [])
  (s.syncState, intents)

/-! ### Positions -/

def seeFlat : AlorUsdrubfHybridStrategy × List Intent :=
  let (s, intents) := s.emitCancelAllProtection (s.openPosition.map fun pos => pos.side.exitSide)
  ({ s with
      openPosition := none
      ownerConfirmedByLiveEvent := true
      exitIntentInflight := false
      exitRejectDeferredUntilBarTs := none
      deferredExitReason := none
      bracketTerminalReconcileStartedMs := none
      trackedOrderIds := ∅
      hybridState := if s.pendingEntry.isSome then .pending else .flat
      lifecycleStage := "broker_position_flat" }, intents)

def brokerSide (qty : ℚ) : PositionSide := if 0 < qty then .long else .short

variable (pending : PendingEntry)

/-- A fill of an entry of more than one unit that is not what was asked for. -/
def isInvalidPartial (qty : ℚ) : Bool :=
  signum qty ≠ pending.side.sign || pending.targetQty + epsilon < |qty|

def isPartial (qty : ℚ) : Bool := |qty| + epsilon < pending.targetQty

/-- A position that nothing accounts for. -/
def seeResidual : AlorUsdrubfHybridStrategy × List Intent :=
  let s := { s with
    openPosition := some (s.buildOpenPositionFromPending
      (syntheticPending (brokerSide pos.qty) "unexpected_broker_residual" pos.avgPrice)
      pos.tsUtc pos.avgPrice (wholeUnits pos.qty)) }
  let (s, intents) := s.emitBrokerResidualEmergencyExit pos.qty "unexpected_broker_residual"
  ({ s with ownerConfirmedByLiveEvent := true, hybridState := .opened }, intents)

variable (opened : OpenPosition)

def seeChanged (pos : PositionEvent) : AlorUsdrubfHybridStrategy × List Intent :=
  let reason :=
    if signum opened.signedQty ≠ signum pos.qty then "broker_position_sign_flip"
    else "broker_position_size_changed"
  let (s, intents) := s.emitBrokerResidualEmergencyExit pos.qty reason
  ({ s with
      openPosition := some
        { opened with
          side := brokerSide pos.qty
          size := wholeUnits pos.qty
          entryPrice := if 0 < pos.avgPrice then pos.avgPrice else opened.entryPrice }
      ownerConfirmedByLiveEvent := true
      hybridState := .opened }, intents)

def brokerEntryPrice : ℚ :=
  if 0 < pos.avgPrice then pos.avgPrice
  else
    match s.openPosition with
    | some opened => opened.entryPrice
    | none => (s.pendingEntry.map (·.signalPrice)).getD 0

/-- The position of the strategy once it is the broker's: of a pending entry, which keeps its own
side, of the position before, or of nothing. -/
def adoptedPosition : OpenPosition :=
  let entryPrice := s.brokerEntryPrice pos
  match s.pendingEntry, s.openPosition with
  | some pending, _ =>
    s.buildOpenPositionFromPending pending pos.tsUtc entryPrice (wholeUnits pos.qty)
  | none, some opened =>
    { opened with
      side := brokerSide pos.qty, size := wholeUnits pos.qty, entryPrice := entryPrice }
  | none, none =>
    s.buildOpenPositionFromPending
      (syntheticPending (brokerSide pos.qty) "broker_position_restore" entryPrice)
      pos.tsUtc entryPrice (wholeUnits pos.qty)

def adopt (s : AlorUsdrubfHybridStrategy) (ctx : StrategyCtx) (pos : PositionEvent) :
    AlorUsdrubfHybridStrategy × List Intent :=
  let opened := s.adoptedPosition pos
  ({ s with
      openPosition := some opened
      pendingEntry := none
      entryIntentInflight := false
      exitIntentInflight := false
      ownerConfirmedByLiveEvent := true
      protection := if opened.owner ≠ .meanRev then .none else s.protection
      hybridState := .opened
      lifecycleStage := "broker_position_open" } : AlorUsdrubfHybridStrategy
    ).maybeEmitLiveMrBrackets ctx pos.tsUtc

/-- A position of the broker where the strategy has one; `nowMs` is the clock. -/
def compareOpen (pos : PositionEvent) (nowMs : ℤ) : AlorUsdrubfHybridStrategy × List Intent :=
  if s.exitIntentInflight || s.bracketTerminalReconcileActive nowMs then
    ({ s with lifecycleStage := "exit_filled_awaiting_broker_flat" }, [])
  else if mrBracketProtectivePartialProgress opened pos.qty then
    (s.markMrBracketPartialReconcile nowMs, [])
  else if 1 / 2 ≤ |opened.signedQty - pos.qty| then s.seeChanged opened pos
  else s.adopt ctx pos

/-- A position of the broker that is no part of an entry; `nowMs` is the clock. -/
def compareBroker : AlorUsdrubfHybridStrategy × List Intent :=
  match s.openPosition with
  | some opened => s.compareOpen ctx opened pos nowMs
  | none =>
    if s.pendingEntry.isNone && !pos.existing then s.seeResidual pos else s.adopt ctx pos

/-- A position of the broker while an entry of more than one unit waits. -/
def seePartial (pos : PositionEvent) (nowMs : ℤ) : AlorUsdrubfHybridStrategy × List Intent :=
  if isInvalidPartial pending pos.qty then
    ({ s with pendingEntry := none } : AlorUsdrubfHybridStrategy
      ).emitBrokerResidualEmergencyExit pos.qty "partial_entry_invalid"
  else if isPartial pending pos.qty then
    ({ s with
        pendingEntry := some
          { pending with partialStartedAtMs := pending.partialStartedAtMs.or (some nowMs) }
        lifecycleStage := "partial_entry_waiting_target" }, [])
  else s.compareBroker ctx pos nowMs

/-- A position of the broker that is not flat; only an entry of more than one unit is compared with
what was asked for. -/
def seeOpen : AlorUsdrubfHybridStrategy × List Intent :=
  match s.pendingEntry with
  | some pending =>
    if 1 < pending.targetQty then s.seePartial ctx pending pos nowMs
    else s.compareBroker ctx pos nowMs
  | none => s.compareBroker ctx pos nowMs

/-- `on_position`; `nowMs` is the clock. -/
def onPosition : AlorUsdrubfHybridStrategy × List Intent :=
  if pos.symbol ≠ s.config.symbol then (s, [])
  else
    let (s, intents) := if |pos.qty| < flatQty then s.seeFlat else s.seeOpen ctx pos nowMs
    (s.syncState, intents)

/-! ### Timers -/

def trackedCancels : List Intent :=
  (s.trackedOrderIds.sort (· ≤ ·)).map fun orderId =>
    (Intent.cancel orderId).withClass .cancelCleanup

/-- A partial entry that has waited too long. -/
def isPartialOverdue (positionQty : ℚ) (nowTsUtcMs : ℤ) : Bool :=
  pending.partialStartedAtMs.any fun startedAtMs =>
    1 < pending.targetQty && epsilon < |positionQty| && 3000 ≤ nowTsUtcMs - startedAtMs

def timeoutPartialEntry (nowTsUtcMs : ℤ) : AlorUsdrubfHybridStrategy × List Intent :=
  let positionQty := ctx.positionQty.getD 0
  match s.pendingEntry with
  | none => (s, [])
  | some pending =>
    if isPartialOverdue pending positionQty nowTsUtcMs then
      let cancels := s.trackedCancels
      let (s, exits) := ({ s with pendingEntry := none } : AlorUsdrubfHybridStrategy
        ).emitBrokerResidualEmergencyExit positionQty "partial_entry_fill_timeout"
      (({ s with lifecycleStage := "partial_entry_timeout_flatten" } : AlorUsdrubfHybridStrategy
        ).syncState, cancels ++ exits)
    else (s, [])

def onTimer (nowTsUtcMs : ℤ) : AlorUsdrubfHybridStrategy × List Intent :=
  let (s, reconcileIntents) := s.emitBracketReconcileTimeoutExit ctx nowTsUtcMs
  if !reconcileIntents.isEmpty then (s.syncState, reconcileIntents)
  else s.timeoutPartialEntry ctx nowTsUtcMs

/-! ### The start -/

variable (symbol : String) (snapshot : BootstrapSnapshot)

def snapshotOrders : List (ℤ × OrderEvent) :=
  (snapshot.workingOrdersStrategy.entries.map fun entry => (entry.1, entry.2)).filter
    fun entry => entry.2.symbol = symbol

def snapshotStopOrders : List (String × StopOrderEvent) :=
  (snapshot.workingStopOrdersStrategy.entries.map fun entry => (entry.1, entry.2)).filter
    fun entry => entry.2.symbol = symbol

/-- The orders of a snapshot that protect an MR position; of several the last one counts. -/
def snapshotProtection : MrProtection :=
  let tp := ((snapshotOrders symbol snapshot).filter fun entry =>
    parseMrProtectionRole entry.2.comment = some .tp).getLast?
  let sl := ((snapshotStopOrders symbol snapshot).filter fun entry =>
    parseMrProtectionRole entry.2.comment = some .sl).getLast?
  { MrProtection.none with
    tpOrderId := tp.map Prod.fst
    slStopOrderId := sl.map Prod.fst
    slExchangeOrderId := sl.bind fun entry : String × StopOrderEvent => entry.2.exchangeOrderId }

/-- The position of a snapshot that is not flat; it has no prices to exit at. -/
def adoptSnapshot (position : PositionEvent) : AlorUsdrubfHybridStrategy :=
  let inferredOwner := (s.openPosition.map (·.owner)).or (s.pendingEntry.map (·.owner))
  { s with
    pendingEntry := none
    entryIntentInflight := false
    exitIntentInflight := false
    openPosition := some
      { owner := inferredOwner.getD .breakout
        side := if 0 ≤ position.qty then .long else .short
        entryTs := utcToLocal position.tsUtc s.config.timezoneOffsetHours
        entryPrice :=
          if 0 < position.avgPrice then position.avgPrice
          else (s.openPosition.map (·.entryPrice)).getD 0
        size := wholeUnits position.qty
        stopPrice := none
        takePrice := none
        stop1 := none
        stop2 := none }
    hybridState := .opened
    ownerConfirmedByLiveEvent := inferredOwner.isSome
    lifecycleStage :=
      if inferredOwner.isSome then "bootstrap_non_flat_adopted"
      else "bootstrap_non_flat_owner_unconfirmed" }

/-- A flat position in a snapshot; working orders hold entries back. -/
def flattenSnapshot : AlorUsdrubfHybridStrategy :=
  let s := { s with openPosition := none, ownerConfirmedByLiveEvent := true, pendingEntry := none }
  if s.trackedOrderIds = ∅ then { s with entryIntentInflight := false, hybridState := .flat }
  else
    { s with
      entryIntentInflight := true
      hybridState := .pending
      lifecycleStage := "bootstrap_working_orders_pending_reconcile" }

def onBootstrapSnapshot (_ctx : StrategyCtx) (snapshot : BootstrapSnapshot)
    : AlorUsdrubfHybridStrategy × List Intent :=
  let s :=
    { s with
      lifecycleStage := "bootstrapped"
      bootstrapSeen := true
      liveReady := false
      entryIntentInflight := false
      exitIntentInflight := false
      entryRejectDeferredUntilBarTs := none
      exitRejectDeferredUntilBarTs := none
      deferredExitReason := none
      pendingRequestIds := ∅
      trackedOrderIds := ((snapshotOrders s.config.symbol snapshot).map Prod.fst).toFinset
      protection := snapshotProtection s.config.symbol snapshot }
  let s :=
    match snapshot.positionsStrategy.lookup s.config.symbol with
    | none => s
    | some position =>
      if |position.qty| < flatQty then s.flattenSnapshot else s.adoptSnapshot position
  (s.syncState, [])

def onRuntimeStateRestored (_ctx : StrategyCtx) (state : RuntimeStateRestored)
    : AlorUsdrubfHybridStrategy × List Intent :=
  (({ s with
      lifecycleStage := "runtime_state_restored"
      runtimeStateRestored := true
      liveReady := false
      pendingRequestIds := state.pendingRequests
      trackedOrderIds := state.knownOrderIds
      entryIntentInflight := false
      exitIntentInflight := false
      entryRejectDeferredUntilBarTs := none
      exitRejectDeferredUntilBarTs := none
      deferredExitReason := none
      protection := .none
      ownerConfirmedByLiveEvent := true } : AlorUsdrubfHybridStrategy).syncState, [])

def warmupBar : AlorUsdrubfHybridStrategy × Bool :=
  if bar.symbol ≠ s.config.symbol then (s, false)
  else if s.lastProcessedBarTs.any (bar.closeTimeUtc ≤ ·) then (s, false)
  else
    let localDt := utcToLocal bar.closeTimeUtc s.config.timezoneOffsetHours
    if !s.isModelSessionBar localDt then
      ({ s with lastProcessedBarTs := some bar.closeTimeUtc }, false)
    else
      let day :=
        if s.day.currentDateLocal ≠ some localDt.date then .start (some localDt.date) else s.day
      ({ s with
          day := day.update bar localDt
          lastBarTs := some bar.closeTimeUtc
          lastProcessedBarTs := some bar.closeTimeUtc }, true)

/-- The bars of the history, and how many of them count. -/
def warmupBars (s : AlorUsdrubfHybridStrategy) : List BarEvent → AlorUsdrubfHybridStrategy × ℕ
  | [] => (s, 0)
  | bar :: bars =>
    let (s, counts) := s.warmupBar bar
    let (s, processed) := s.warmupBars bars
    (s, processed + counts.toNat)

def warmupFromHistory (_ctx : StrategyCtx) (bars : List BarEvent) : AlorUsdrubfHybridStrategy × ℕ :=
  if s.pendingEntry.isSome || s.openPosition.isSome then (s, 0)
  else
    let (s, processed) := s.warmupBars bars
    if 0 < processed then
      (({ s with lifecycleStage := "warmed_up" } : AlorUsdrubfHybridStrategy).syncState, processed)
    else (s, processed)

end AlorUsdrubfHybridStrategy

end AlorRs.AlorUsdrubfHybrid
