import AlorRs.RustText
import AlorRs.StrategyRuntime.SessionGapStandalone.Bars

/-!
# The events of the session-gap strategy

Acks, orders, positions and the snapshots of the start move the phase; the strategy is given to the
runtime as its callbacks (`strategy`).
-/

namespace AlorRs.SessionGap

def statusText : AckStatus → String
  | .accepted => "Accepted"
  | .confirmed => "Confirmed"
  | .rejected => "Rejected"
  | .duplicate => "Duplicate"
  | .expired => "Expired"
  | .error => "Error"

namespace SessionGapStandaloneStrategy

/-! ### Acks -/

def isTransientEntryTransportError (ack : CommandAck) : Bool :=
  ack.status = .error && ack.errorCode = some "cws_error" && ack.brokerOrderId.isNone

def isWindowClosedRecoverableReject (ack : CommandAck) : Bool :=
  ack.errorCode = some "trading_window_closed" && ack.brokerOrderId.isNone

def isRetryableExitRecycleFailure (ack : CommandAck) : Bool :=
  ack.status = .error && ack.errorCode = some "control_path_recycle_failed" &&
    ack.brokerOrderId.isNone

def ackPendingEntry (phase : PendingEntryPhase) (ack : CommandAck) : SessionGapLivePhase :=
  let failed : SessionGapLivePhase :=
    .blocked ("ack_failed:" ++ statusText ack.status) ack.processedTsUtc
  if isWindowClosedRecoverableReject ack then
    .entryDeferredWindowClosed
      { side := phase.side
        qty := phase.qty
        deferredTsUtc := ack.processedTsUtc
        originalRequestId := phase.requestId
        lastErrorCode := ack.errorCode
        lastErrorMsg := ack.errorMsg }
  else
    match ack.status with
    | .accepted | .confirmed | .duplicate => .pendingEntry { phase with acked := true }
    | .rejected | .expired => failed
    | .error =>
      if isTransientEntryTransportError ack then
        .entryRecoveryVerificationPending
          { requestId := phase.requestId
            side := phase.side
            qty := phase.qty
            baselineQty := phase.baselineQty
            tp := phase.tp
            sl := phase.sl
            verificationStartedTs := ack.processedTsUtc
            transportErrorCode := ack.errorCode
            transportErrorMsg := ack.errorMsg }
      else failed

/-- An exit that waits for the trading window. -/
def deferExit (requestId : Uuid) (side : Side) (qty baselineQty : ℚ) (reason : String)
    (ack : CommandAck) : SessionGapLivePhase :=
  .exitDeferredWindowClosed
    { side := side
      qty := qty
      baselineQty := baselineQty
      reason := reason
      deferredTsUtc := ack.processedTsUtc
      originalRequestId := requestId
      lastErrorCode := ack.errorCode
      lastErrorMsg := ack.errorMsg }

/-- An exit that an ack ends for good. -/
def failExit (side : Side) (qty baselineQty : ℚ) (reason : String) (retries : ℕ)
    (ack : CommandAck) : SessionGapLivePhase :=
  closeOnlyDegradedPhase side qty baselineQty
    ("ack_failed:" ++ statusText ack.status ++ ":" ++ reason) ack.processedTsUtc retries
    ack.errorCode ack.errorMsg

def ackPendingExit (phase : PendingExitPhase) (ctx : StrategyCtx) (ack : CommandAck) :
    SessionGapLivePhase × List Intent :=
  let failed : SessionGapLivePhase :=
    failExit phase.side phase.qty phase.baselineQty phase.reason 0 ack
  if isWindowClosedRecoverableReject ack then
    (deferExit phase.requestId phase.side phase.qty phase.baselineQty phase.reason ack, [])
  else
    match ack.status with
    | .accepted | .confirmed | .duplicate => (.pendingExit { phase with acked := true }, [])
    | .rejected | .expired => (failed, [])
    | .error =>
      if isRetryableExitRecycleFailure ack && decide (0 < exitRecoveryMaxRetries) then
        (.exitRecoveryPending
            { requestId := exitRetryRequestId ctx ack.processedTsUtc
              side := phase.side
              qty := phase.qty
              price := phase.price
              baselineQty := phase.baselineQty
              reason := phase.reason
              sentTs := ack.processedTsUtc
              acked := false
              retryAttempt := 1
              lastErrorCode := ack.errorCode
              lastErrorMsg := ack.errorMsg },
          [buildLiveExitIntent phase.price phase.qty phase.side])
      else (failed, [])

def ackExitRecovery (phase : ExitRecoveryPhase) (ack : CommandAck) : SessionGapLivePhase :=
  if isWindowClosedRecoverableReject ack then
    deferExit phase.requestId phase.side phase.qty phase.baselineQty phase.reason ack
  else
    match ack.status with
    | .accepted | .confirmed | .duplicate => .exitRecoveryPending { phase with acked := true }
    | .rejected | .expired | .error =>
      failExit phase.side phase.qty phase.baselineQty phase.reason phase.retryAttempt ack

variable (s : SessionGapStandaloneStrategy) (phase : SessionGapLivePhase) (ctx : StrategyCtx)

/-- The phase after an ack, with the intents of the ack; an ack of another request is ignored. -/
def ackPhase (ack : CommandAck) : SessionGapLivePhase × List Intent :=
  match phase with
  | .pendingEntry pending =>
    if pending.requestId = ack.requestId then (ackPendingEntry pending ack, []) else (phase, [])
  | .pendingExit pending =>
    if pending.requestId = ack.requestId then ackPendingExit pending ctx ack else (phase, [])
  | .exitRecoveryPending pending =>
    if pending.requestId = ack.requestId then (ackExitRecovery pending ack, []) else (phase, [])
  | _ => (phase, [])

/-- The end of the handlers: the phase is saved, unless the state is of no session-gap strategy. -/
def settlePhase (tsUtc : ℤ) (next : SessionGapLivePhase → SessionGapLivePhase)
    : SessionGapStandaloneStrategy :=
  match s.state with
  | none => s
  | some saved =>
    (s.noteTransition saved.phase (next saved.phase) tsUtc).persistStateWithExistingLastBar
      (next saved.phase)

def onAck (ack : CommandAck) : SessionGapStandaloneStrategy × List Intent :=
  (s.settlePhase ack.processedTsUtc fun phase => (ackPhase phase ctx ack).1,
    (s.state.map fun saved => (ackPhase saved.phase ctx ack).2).getD [])

/-! ### Orders -/

def orderPhase (order : OrderEvent) : SessionGapLivePhase :=
  match phase with
  | .entryRecoveryVerificationPending pending =>
    if order.requestId = some pending.requestId then
      let status := toAsciiLowercaseText order.status
      if status = "filled" then
        .inPosition
          { side := pending.side
            qty := pending.qty
            avgPrice := order.price
            baselineQty := pending.baselineQty
            tp := pending.tp
            sl := pending.sl
            openedTs := max order.tsUtc pending.verificationStartedTs }
      else if status = "working" then
        .pendingEntry
          { requestId := pending.requestId
            side := pending.side
            qty := pending.qty
            baselineQty := pending.baselineQty
            tp := pending.tp
            sl := pending.sl
            sentTs := pending.verificationStartedTs
            acked := true }
      else phase
    else phase
  | _ => phase

def onOrder (_ctx : StrategyCtx) (order : OrderEvent) :
    SessionGapStandaloneStrategy × List Intent :=
  (s.settlePhase order.tsUtc fun phase => orderPhase phase order, [])

/-! ### Positions -/

variable (position : PositionEvent)

def openedBy (baselineQty : ℚ) (tp sl : Option ℚ) (nowTs : ℤ) : SessionGapLivePhase :=
  .inPosition
    { side := sideOfDelta (position.qty - baselineQty)
      qty := |position.qty - baselineQty|
      avgPrice := position.avgPrice
      baselineQty := baselineQty
      tp := tp
      sl := sl
      openedTs := nowTs }

def positionPhase (nowTs : ℤ) : SessionGapLivePhase :=
  let flatAt (baselineQty : ℚ) : SessionGapLivePhase :=
    if |position.qty - baselineQty| ≤ epsilon then .flat else phase
  match phase with
  | .pendingEntry pending =>
    if epsilon < |position.qty - pending.baselineQty| then
      openedBy position pending.baselineQty pending.tp pending.sl nowTs
    else phase
  | .entryDeferredWindowClosed _ => phase
  | .entryRecoveryVerificationPending pending =>
    if epsilon < |position.qty - pending.baselineQty| then
      openedBy position pending.baselineQty pending.tp pending.sl nowTs
    else phase
  | .inPosition inPosition => flatAt inPosition.baselineQty
  | .pendingExit pending => flatAt pending.baselineQty
  | .exitDeferredWindowClosed deferred => flatAt deferred.baselineQty
  | .exitRecoveryPending pending => flatAt pending.baselineQty
  | .closeOnlyDegraded degraded => flatAt degraded.baselineQty
  | .flat =>
    if epsilon < |position.qty| then
      .inPosition
        { side := sideOfDelta position.qty
          qty := |position.qty|
          avgPrice := position.avgPrice
          baselineQty := 0
          tp := none
          sl := none
          openedTs := nowTs }
    else phase
  | .blocked _ _ => phase

def onPosition : SessionGapStandaloneStrategy × List Intent :=
  if position.symbol ≠ s.config.symbol then (s, [])
  else
    let nowTs := ctx.lastBarTs.getD position.tsUtc
    (s.settlePhase nowTs fun phase => positionPhase phase position nowTs, [])

/-! ### The start -/

def snapshotPhase (snapshotQty : ℚ) (hasWorkingOrder : Bool) (tsUtc : ℤ)
    : Option SessionGapLivePhase :=
  let opened (side : Side) (qty baselineQty : ℚ) (tp sl : Option ℚ) : SessionGapLivePhase :=
    .inPosition
      { side := side
        qty := qty
        avgPrice := 0
        baselineQty := baselineQty
        tp := tp
        sl := sl
        openedTs := tsUtc }
  let flatAt (baselineQty : ℚ) : Option SessionGapLivePhase :=
    if |snapshotQty - baselineQty| ≤ epsilon then some .flat else none
  match phase with
  | .pendingEntry pending =>
    if epsilon < |snapshotQty - pending.baselineQty| then
      some (opened pending.side pending.qty pending.baselineQty pending.tp pending.sl)
    else none
  | .entryRecoveryVerificationPending pending =>
    if epsilon < |snapshotQty - pending.baselineQty| then
      some (opened pending.side pending.qty pending.baselineQty pending.tp pending.sl)
    else if !hasWorkingOrder then some .flat
    else none
  | .entryDeferredWindowClosed _ => none
  | .inPosition inPosition => flatAt inPosition.baselineQty
  | .pendingExit pending => flatAt pending.baselineQty
  | .exitDeferredWindowClosed deferred => flatAt deferred.baselineQty
  | .exitRecoveryPending pending => flatAt pending.baselineQty
  | .closeOnlyDegraded degraded => flatAt degraded.baselineQty
  | .flat | .blocked _ _ => none

def transitionLiveReconcileWithSnapshot (snapshotQty : ℚ) (hasWorkingOrder : Bool) (tsUtc : ℤ)
    : SessionGapStandaloneStrategy :=
  match s.state with
  | none => s
  | some saved =>
    match snapshotPhase saved.phase snapshotQty hasWorkingOrder tsUtc with
    | none => s
    | some phase =>
      let fresh := s.savedWith (some (toSessionDt s.config tsUtc).date)
        (((s.syncedLastDtTsUtc (saved.lastBarTs.getD tsUtc)).or saved.lastDtTsUtc).or
          saved.lastBarTs) phase saved.lastBarTs
      { s with
        state := some
          { fresh with
            sessionStartTsUtc := fresh.sessionStartTsUtc.or saved.sessionStartTsUtc
            sessionEndTsUtc := fresh.sessionEndTsUtc.or saved.sessionEndTsUtc
            phaseLastChangeTsUtc := fresh.phaseLastChangeTsUtc.or saved.phaseLastChangeTsUtc } }

def onBootstrapSnapshot (_ctx : StrategyCtx) (snapshot : BootstrapSnapshot)
    : SessionGapStandaloneStrategy × List Intent :=
  let snapshotQty :=
    ((snapshot.positionsStrategy.lookup s.config.symbol).map PositionEvent.qty).getD 0
  let hasWorkingOrder := snapshot.workingOrdersStrategy.entries.any fun entry =>
    entry.2.symbol = s.config.symbol
  (s.transitionLiveReconcileWithSnapshot snapshotQty hasWorkingOrder
    (snapshot.snapshotTsUtc.getD 0), [])

variable (config : SessionGapStandaloneConfig)

/-- An instant of the saved state. -/
def restoredDt (tsUtc : ℤ) : Option LocalDateTime :=
  if timestampInRange tsUtc then some ⟨tsUtc, config.timezoneOffsetHours * 3600⟩ else none

def onRuntimeStateRestored (_ctx : StrategyCtx) (_event : RuntimeStateRestored)
    : SessionGapStandaloneStrategy × List Intent :=
  match s.state with
  | none => (s, [])
  | some saved =>
    ({ s with
        tradedSession := saved.tradedSession
        yesterdayClose := saved.prevClose
        yesterdayRange := saved.yesterdayRange
        prePrevClose := saved.prePrevClose
        firstMinHigh := saved.firstMinHigh
        firstMinLow := saved.firstMinLow
        firstHourPrice := saved.firstHourPrice
        sessionHigh := saved.sessionHigh
        sessionLow := saved.sessionLow
        sessionClose := saved.sessionClose
        phaseLastChangeTsUtc := saved.phaseLastChangeTsUtc
        sessionStartDt := saved.sessionStartTsUtc.bind (restoredDt s.config)
        sessionEndDt := saved.sessionEndTsUtc.bind (restoredDt s.config)
        lastDt := saved.lastDtTsUtc.bind (restoredDt s.config)
        lastProcessedBarTs := saved.lastBarTs }, [])

def warmupBars (bars : List BarEvent) : List BarEvent :=
  bars.filter fun bar =>
    let barDt := toSessionDt config bar.closeTimeUtc
    bar.symbol = config.symbol &&
      (config.workWeekends || !(barDt.weekday = .sat || barDt.weekday = .sun))

def warmupFromHistory (_ctx : StrategyCtx) (bars : List BarEvent)
    : SessionGapStandaloneStrategy × ℕ :=
  let taken := warmupBars s.config bars
  match taken.getLast? with
  | none => (s, 0)
  | some last =>
    let warmup := taken.foldl
      (fun warmup bar => warmup.updateSession (toSessionDt s.config bar.closeTimeUtc) bar)
      (new s.config ⟨none, false, false⟩)
    let s := { s with
      yesterdayClose := warmup.yesterdayClose
      yesterdayRange := warmup.yesterdayRange
      prePrevClose := warmup.prePrevClose
      firstMinHigh := warmup.firstMinHigh
      firstMinLow := warmup.firstMinLow
      firstHourPrice := warmup.firstHourPrice
      sessionStartDt := warmup.sessionStartDt
      sessionEndDt := warmup.sessionEndDt
      sessionHigh := warmup.sessionHigh
      sessionLow := warmup.sessionLow
      sessionClose := warmup.sessionClose
      lastDt := warmup.lastDt }
    let previousPhase := s.persistedPhaseOrFlat
    let nextPhase := if notWarmed previousPhase && s.signalsWarmed then .flat else previousPhase
    ((s.noteTransition previousPhase nextPhase last.closeTimeUtc).persistStateSnapshot
        (toSessionDt s.config last.closeTimeUtc).date nextPhase last.closeTimeUtc,
      taken.length)

def pendingRequestIds : List Uuid :=
  match s.persistedPhaseOrFlat with
  | .pendingEntry pending => [pending.requestId]
  | .pendingExit pending => [pending.requestId]
  | .exitRecoveryPending pending => [pending.requestId]
  | _ => []

/-- The callbacks. -/
def strategy : Strategy SessionGapStandaloneStrategy (Option SavedState) :=
  { Strategy.withDefaults onBar onAck onOrder onPosition (fun s => s.state)
      (fun s state => { s with state := state }) with
    onBootstrapSnapshot := onBootstrapSnapshot
    onRuntimeStateRestored := onRuntimeStateRestored
    warmupFromHistory := warmupFromHistory
    pendingRequestIds := pendingRequestIds }

end SessionGapStandaloneStrategy

end AlorRs.SessionGap
