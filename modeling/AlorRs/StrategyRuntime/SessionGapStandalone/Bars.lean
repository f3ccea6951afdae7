import AlorRs.StrategyRuntime.SessionGapStandalone.Basic

/-!
# The bars of the session-gap strategy

In live mode a bar moves the phase: it sends entries and exits, and it notices what took too long.
Outside live mode the strategy trades a simulated position.
-/

namespace AlorRs.SessionGap

namespace SessionGapStandaloneStrategy

/-! ### Helpers of the phases -/

variable (config : SessionGapStandaloneConfig)

def liveMarketablePrice (side : Side) (bar : BarEvent) : ℚ :=
  if config.tickSize ≤ 0 then bar.close
  else
    let aggressiveTicks := max config.placeOffsetTicks 0 + 1
    let shift := aggressiveTicks * config.tickSize
    match side with
    | .buy => bar.close + shift
    | .sell => bar.close - shift

def entryRecoveryVerificationWindowMs : ℕ :=
  max config.entryAckTimeoutMs minEntryRecoveryVerificationMs

/-- An `i64` result that is clipped. -/
def saturate (n : ℤ) : ℤ := max (-2 ^ 63) (min (2 ^ 63 - 1) n)

/-- `now.saturating_sub(since).saturating_mul(1000) as u64`: a negative number wraps around. -/
def elapsedMs (now since : ℤ) : ℕ := (saturate (saturate (now - since) * 1000) % 2 ^ 64).toNat

variable (s : SessionGapStandaloneStrategy) (ctx : StrategyCtx) (sessionDate : NaiveDate)
  (bar : BarEvent) (barDt : LocalDateTime)

/-- The identifier of an order that is sent at a bar. -/
def barRequestId : Uuid :=
  deterministicRequestId ctx.strategyId ctx.portfolio bar.symbol "place" ctx.eventTsUtc 0

def exitRetryRequestId (tsUtc : ℤ) : Uuid :=
  deterministicRequestId ctx.strategyId ctx.portfolio ctx.symbol "place" tsUtc 0

def buildLiveExitIntent (price qty : ℚ) (side : Side) : Intent :=
  (Intent.place price qty side none).withClass .exit

def shouldBlockLive : Bool :=
  ctx.tradeMode = .live &&
    (bar.origin ≠ .live || !ctx.allowLiveOrders || ctx.gatewayPhase ≠ .liveReady)

def oppositeSide : Side → Side
  | .buy => .sell
  | .sell => .buy

def sideOfDelta (delta : ℚ) : Side := if 0 ≤ delta then .buy else .sell

def closeOnlyDegradedPhase (side : Side) (qty baselineQty : ℚ) (reason : String)
    (enteredTsUtc : ℤ) (retryAttemptsExhausted : ℕ) (lastErrorCode lastErrorMsg : Option String) :
    SessionGapLivePhase :=
  .closeOnlyDegraded
    { side := side
      qty := qty
      baselineQty := baselineQty
      reason := reason
      enteredTsUtc := enteredTsUtc
      retryAttemptsExhausted := retryAttemptsExhausted
      lastErrorCode := lastErrorCode
      lastErrorMsg := lastErrorMsg
      operatorInterventionRequired := true }

/-! ### The phases at a bar -/

/-- An entry of a size, sent at a bar. -/
def sendEntry (direction : Direction) (side : Side) (qty : ℚ) : SessionGapLivePhase × List Intent :=
  let (tp, sl) := s.computeTpSl direction bar.o
  (.pendingEntry
      { requestId := barRequestId ctx bar
        side := side
        qty := qty
        baselineQty := ctx.positionQty.getD 0
        tp := tp
        sl := sl
        sentTs := ctx.nowTsUtc
        acked := false },
    [.place (liveMarketablePrice s.config side bar) qty side none])

def sendExit (side : Side) (qty baselineQty : ℚ) (reason : String)
    : SessionGapLivePhase × List Intent :=
  let price := liveMarketablePrice s.config side bar
  (.pendingExit
      { requestId := barRequestId ctx bar
        side := side
        qty := qty
        price := price
        baselineQty := baselineQty
        reason := reason
        sentTs := ctx.nowTsUtc
        acked := false },
    [buildLiveExitIntent price qty side])

def barFlat (forcedEntryArmed : Bool) :
    SessionGapStandaloneStrategy × SessionGapLivePhase × List Intent :=
  if !s.signalsWarmed && !forcedEntryArmed then
    (s, .blocked "indicators_not_warmed" bar.closeTimeUtc, [])
  else
    match s.pendingEntry with
    | none => (s, .flat, [])
    | some pending =>
      ({ s with pendingEntry := none },
        s.sendEntry ctx bar pending.direction (entrySide pending.direction) pending.size)

variable (bar : BarEvent)

def barEntryDeferred (phase : EntryDeferredPhase) : SessionGapLivePhase × List Intent :=
  let sessionClosed := s.sessionEndDt.any fun sessionEndDt =>
    sessionEndDt.timestamp ≤ barDt.timestamp
  if sessionClosed || s.config.maxEntryHour ≤ hour barDt then (.flat, [])
  else
    let direction := if phase.side = .buy then Direction.long else .short
    s.sendEntry ctx bar direction phase.side phase.qty

def barPendingEntry (phase : PendingEntryPhase) : SessionGapLivePhase :=
  let elapsed := elapsedMs ctx.nowTsUtc phase.sentTs
  if !phase.acked && s.config.entryAckTimeoutMs < elapsed then
    .blocked "entry_ack_timeout" ctx.nowTsUtc
  else if phase.acked && s.config.entryFillTimeoutMs < elapsed then
    .blocked "entry_fill_timeout" ctx.nowTsUtc
  else .pendingEntry phase

def barEntryRecovery (phase : EntryRecoveryPhase) : SessionGapLivePhase :=
  let delta := ctx.positionQty.getD phase.baselineQty - phase.baselineQty
  if epsilon < |delta| then
    .inPosition
      { side := sideOfDelta delta
        qty := max |delta| phase.qty
        avgPrice := 0
        baselineQty := phase.baselineQty
        tp := phase.tp
        sl := phase.sl
        openedTs := ctx.nowTsUtc }
  else if entryRecoveryVerificationWindowMs s.config <
      elapsedMs ctx.nowTsUtc phase.verificationStartedTs then .flat
  else .entryRecoveryVerificationPending phase

variable (phase : InPositionPhase)

/-- The reason for which a bar closes the position, if there is one. -/
def exitReason : Option String :=
  if s.testHook.shouldForceExit sessionDate phase.openedTs bar.closeTimeUtc then
    some "test_hook_exit"
  else if s.sessionEndDt.any (fun sessionEndDt =>
      sessionEndDt.timestamp - s.config.exitOffsetMin * 60 ≤ barDt.timestamp) then
    some "session_exit"
  else
    match phase.side with
    | .buy =>
      if phase.tp.any (fun tp => tp ≤ bar.h) then some "tp"
      else if phase.sl.any (fun sl => bar.l ≤ sl) then some "sl"
      else none
    | .sell =>
      if phase.tp.any (fun tp => bar.l ≤ tp) then some "tp"
      else if phase.sl.any (fun sl => sl ≤ bar.h) then some "sl"
      else none

/-- The branch for `InPosition`. -/
def barInPosition : SessionGapStandaloneStrategy × SessionGapLivePhase × List Intent :=
  match s.exitReason sessionDate barDt bar phase with
  | none => (s, .inPosition phase, [])
  | some reason =>
    if phase.openedTs < bar.closeTimeUtc then
      let s :=
        if reason = "test_hook_exit" then
          { s with testHook := { s.testHook with exitDispatched := true } }
        else s
      (s, s.sendExit ctx bar (oppositeSide phase.side) phase.qty phase.baselineQty reason)
    else (s, .inPosition phase, [])

def barExitDeferred (phase : ExitDeferredPhase) : SessionGapLivePhase × List Intent :=
  let delta := ctx.positionQty.getD phase.baselineQty - phase.baselineQty
  if |delta| ≤ epsilon then (.flat, [])
  else
    s.sendExit ctx bar (oppositeSide (sideOfDelta delta)) |delta| phase.baselineQty phase.reason

def barPendingExit (phase : PendingExitPhase) : SessionGapLivePhase :=
  let elapsed := elapsedMs ctx.nowTsUtc phase.sentTs
  if !phase.acked && s.config.exitAckTimeoutMs < elapsed then
    closeOnlyDegradedPhase phase.side phase.qty phase.baselineQty
      ("exit_ack_timeout:" ++ phase.reason) ctx.nowTsUtc 0 (some "exit_ack_timeout")
      (some "exit ack timeout exceeded")
  else if phase.acked && s.config.exitFillTimeoutMs < elapsed then
    closeOnlyDegradedPhase phase.side phase.qty phase.baselineQty
      ("exit_fill_timeout:" ++ phase.reason) ctx.nowTsUtc 0 (some "exit_fill_timeout")
      (some "exit fill timeout exceeded")
  else .pendingExit phase

def barExitRecovery (phase : ExitRecoveryPhase) : SessionGapLivePhase :=
  let elapsed := elapsedMs ctx.nowTsUtc phase.sentTs
  if !phase.acked && s.config.exitAckTimeoutMs < elapsed then
    closeOnlyDegradedPhase phase.side phase.qty phase.baselineQty
      ("exit_recovery_ack_timeout:" ++ phase.reason) ctx.nowTsUtc phase.retryAttempt
      (some "exit_recovery_ack_timeout") (some "exit recovery ack timeout exceeded")
  else if phase.acked && s.config.exitFillTimeoutMs < elapsed then
    closeOnlyDegradedPhase phase.side phase.qty phase.baselineQty
      ("exit_recovery_fill_timeout:" ++ phase.reason) ctx.nowTsUtc phase.retryAttempt
      (some "exit_recovery_fill_timeout") (some "exit recovery fill timeout exceeded")
  else .exitRecoveryPending phase

def notWarmed : SessionGapLivePhase → Bool
  | .blocked reason _ => reason = "indicators_not_warmed"
  | _ => false

def maybeForceTestHookEntry (phase : SessionGapLivePhase) (ctx : StrategyCtx)
    (sessionDate : NaiveDate) : SessionGapStandaloneStrategy × Bool :=
  match s.testHook.shouldForceEntry sessionDate with
  | none => (s, false)
  | some direction =>
    if !(phase = .flat || notWarmed phase) || s.pendingEntry.isSome ||
        epsilon < |ctx.positionQty.getD 0| then (s, false)
    else
      ({ s with
          pendingEntry := some ⟨direction, 1⟩
          tradedSession := true
          testHook := { s.testHook with entryDispatched := true } }, true)

def barPhase (forcedEntryArmed : Bool) :
    SessionGapLivePhase → SessionGapStandaloneStrategy × SessionGapLivePhase × List Intent
  | .flat => s.barFlat ctx bar forcedEntryArmed
  | .entryDeferredWindowClosed phase => (s, s.barEntryDeferred ctx barDt bar phase)
  | .blocked reason tsUtc =>
    if reason = "indicators_not_warmed" && s.signalsWarmed then (s, .flat, [])
    else (s, .blocked reason tsUtc, [])
  | .closeOnlyDegraded phase => (s, .closeOnlyDegraded phase, [])
  | .pendingEntry phase => (s, s.barPendingEntry ctx phase, [])
  | .entryRecoveryVerificationPending phase => (s, s.barEntryRecovery ctx phase, [])
  | .inPosition phase => s.barInPosition ctx sessionDate barDt bar phase
  | .exitDeferredWindowClosed phase => (s, s.barExitDeferred ctx bar phase)
  | .pendingExit phase => (s, s.barPendingExit ctx phase, [])
  | .exitRecoveryPending phase => (s, s.barExitRecovery ctx phase, [])

/-! ### Bars -/

def keepPhase : SessionGapStandaloneStrategy :=
  let s := { s with lastProcessedBarTs := some bar.closeTimeUtc }
  s.persistStateSnapshot sessionDate s.persistedPhaseOrFlat bar.closeTimeUtc

/-- The part of `on_bar` outside live mode. -/
def simulateBar : SessionGapStandaloneStrategy × List Intent :=
  let (s, entries) := s.maybeOpenPosition bar
  let (s, exits) := s.maybeClosePosition barDt bar
  ((s.maybeGenerateSignal barDt bar false).keepPhase sessionDate bar, entries ++ exits)

def liveBar : SessionGapStandaloneStrategy × List Intent :=
  let actualPhase := s.persistedPhaseOrFlat
  let (s, forcedEntryArmed) := s.maybeForceTestHookEntry actualPhase ctx sessionDate
  let s := if forcedEntryArmed then s else s.maybeGenerateSignal barDt bar true
  let phase := if forcedEntryArmed && notWarmed actualPhase then .flat else actualPhase
  let (s, nextPhase, intents) := s.barPhase ctx sessionDate barDt bar forcedEntryArmed phase
  let s := s.noteTransition actualPhase nextPhase bar.closeTimeUtc
  ({ s.persistStateSnapshot sessionDate nextPhase bar.closeTimeUtc with
      lastProcessedBarTs := some bar.closeTimeUtc }, intents)

def onBar : SessionGapStandaloneStrategy × List Intent :=
  if bar.symbol ≠ s.config.symbol then
    ({ s with lastProcessedBarTs := some bar.closeTimeUtc }, [])
  else if s.lastProcessedBarTs.any (fun lastTs => bar.closeTimeUtc ≤ lastTs) then (s, [])
  else
    let barDt := toSessionDt s.config bar.closeTimeUtc
    let sessionDate := barDt.date
    if !s.config.workWeekends && (barDt.weekday = .sat || barDt.weekday = .sun) then
      (s.keepPhase sessionDate bar, [])
    else
      let s := s.updateSession barDt bar
      if ctx.tradeMode ≠ .live then s.simulateBar sessionDate barDt bar
      else if shouldBlockLive ctx bar then (s.keepPhase sessionDate bar, [])
      else s.liveBar ctx sessionDate barDt bar

end SessionGapStandaloneStrategy

end AlorRs.SessionGap
