import AlorRs.StrategyRuntime.RequestId
import AlorRs.StrategyRuntime.Runtime.Basic

/-!
# From intents to commands

`intentToCommand` makes a command of an intent, and `applyIntents` takes the intents that a
callback returned through the gates, publishes what passes, and tells the strategy about the
rest.  The gates are the trading window, which looks at the market's hours and at how long the bars
have been silent, and the live guard with its wait for a gateway that is about to be ready.
-/

namespace AlorRs

open RuntimeM

namespace StrategyRuntime

variable {σ P : Type}

def guardReadinessGraceAttempts : ℕ := 240

/-! ### The trading window -/

variable (config : RuntimeConfig) (ctx : StrategyCtx) (decision : LiveGuardDecision)
  (createdTsUtc dispatchTsUtc : ℤ) (intent : Intent) (intents : List Intent)
  (intentClass : IntentClass)

def schedulerOf (periods : TradingPeriods) : Scheduler :=
  Scheduler.newWithFallbackOffsetHours periods config.strategy.timezoneOffsetHours

/-- `trading_window_allows_order`: entries need an open market and bars that are not silent. -/
def tradingWindowAllowsOrder : Bool :=
  if intentClass ≠ .entry then true
  else
    match config.strategy.tradingPeriods with
    | none => true
    | some periods =>
      let scheduler := schedulerOf config periods
      if !timestampInRange createdTsUtc then true
      else if scheduler.marketStateUtc createdTsUtc ≠ .opened then false
      else
        let maxSilence := asI64 config.strategy.maxSilenceBarsSec
        if maxSilence = 0 then true
        else
          match ctx.lastBarTs with
          | none => false
          | some lastBarTs =>
            if !timestampInRange lastBarTs then true
            else scheduler.checkSilencePeriodAt createdTsUtc lastBarTs maxSilence

def currentMarketState : Option MarketState :=
  config.strategy.tradingPeriods.map fun periods =>
    (schedulerOf config periods).marketStateUtc createdTsUtc

/-! ### The class of an intent -/

/-- `resolve_intent_class`: the explicit class, or the one of the base intent; a market order
against the position is an exit. -/
def resolveIntentClass : IntentClass :=
  match intent.explicitClass with
  | some explicit => explicit
  | none =>
    match intent.baseIntent with
    | .cancel _ => .cancelCleanup
    | .replace _ _ _ => .entry
    | .place _ _ _ _ => .entry
    | .createStopLimit _ _ _ _ _ _ _ _ _ => .protectiveRepair
    | .deleteStopLimit _ _ _ => .cancelCleanup
    | .market _ side _ _ =>
      let qty := ctx.positionQty.getD 0
      if (0 < qty ∧ side = .sell) ∨ (qty < 0 ∧ side = .buy) then .exit else .entry
    -- `baseIntent` leaves no wrapper
    | .classified _ intentClass => intentClass
    | .routed _ _ => .entry

def intentActionName : String :=
  match intent.baseIntent with
  | .place _ _ _ _ => "place"
  | .market _ _ _ _ => "market"
  | .cancel _ => "cancel"
  | .replace _ _ _ => "replace"
  | .createStopLimit _ _ _ _ _ _ _ _ _ => "create_stop_limit"
  | .deleteStopLimit _ _ _ => "delete_stop_limit"
  | .classified _ _ | .routed _ _ => ""

/-! ### The live guard -/

/-- `guard_allows_intent_when_blocked`: with a position open, what closes or protects it. -/
def guardAllowsIntentWhenBlocked (hasOpenPosition : Bool) : Bool :=
  hasOpenPosition &&
    (intentClass = .exit || intentClass = .cancelCleanup || intentClass = .protectiveRepair)

def guardBlockMayBeReadinessRace : Bool :=
  !decision.allowed && !decision.reasons.isEmpty &&
    decision.reasons.all fun reason =>
      reason == "gateway_ready=false" || reason == "gateway_health_stale" ||
        reason == "ws_connected=false" || reason == "cws_authorized=false" ||
        reason == "bootstrap:not_ready" || startsWith reason "phase="

def guardDecisionAt (rt : StrategyRuntime σ P) (now : ℤ) : LiveGuardDecision :=
  let decision := rt.liveGuard.evaluate config.tradeMode config.allowLiveOrders
    (0 < rt.barsReadTotal) (0 < rt.barsStreamXlenLast.getD 0) now config.gatewayHealthStaleSec
    config.requireGatewayReady
  let reasons := decision.reasons ++ rt.bootstrapState.reasons
  ⟨reasons.isEmpty, reasons⟩

def evaluateGuardDecision : RuntimeM σ P LiveGuardDecision := do
  let env ← Eff.read
  let rt ← Eff.get
  let decision := rt.guardDecisionAt env.config (← now)
  record (.guardEvaluated decision)
  return decision

def refreshHealthNow : RuntimeM σ P Unit := do
  let env ← Eff.read
  match env.config.streams.health with
  | none => return ()
  | some _ =>
    match ← readFrom fun env tick => env.health tick with
    | none => return ()
    | some health => Eff.modify fun rt => { rt with liveGuard := ⟨some health⟩ }

/-- The polling loop of `maybe_wait_for_guard_readiness_race`. -/
def pollGuard : ℕ → RuntimeM σ P LiveGuardDecision
  | 0 => evaluateGuardDecision
  | attempts + 1 => do
    refreshHealthNow
    let current ← evaluateGuardDecision
    if current.allowed then return current
    else if !guardBlockMayBeReadinessRace current then return current
    else pollGuard attempts

def maybeWaitForGuardReadinessRace :
    RuntimeM σ P LiveGuardDecision := do
  let env ← Eff.read
  if !guardBlockMayBeReadinessRace decision then return decision
  else if env.config.streams.health.isNone then return decision
  else pollGuard guardReadinessGraceAttempts

def maybeWaitForLiveBarReadiness (bar : BarEvent) : RuntimeM σ P Unit := do
  let env ← Eff.read
  if env.config.tradeMode ≠ .live ∨ bar.origin ≠ .live then return ()
  let decision ← evaluateGuardDecision
  if decision.allowed || !guardBlockMayBeReadinessRace decision then return ()
  let _ ← maybeWaitForGuardReadinessRace decision
  return ()

/-! ### Commands -/

def stopEndBufferSec : ℤ := 60

/-- The loop of `compute_intraday_stop_end_utc`: the first session end after `createdTsUtc`,
over at most `days` days.  A day after `maxDate`, where the loop panics, has no session end. -/
def findStopEnd (offset createdTsUtc : ℤ) (sessionEnd : NaiveTime) (weekendsOff : Bool)
    (day : NaiveDate) : ℕ → Option ℤ
  | 0 => none
  | days + 1 =>
    if weekendsOff && (day.weekday = .sat || day.weekday = .sun) then
      findStopEnd offset createdTsUtc sessionEnd weekendsOff (day + 1) days
    else
      match timestampOfLocal offset day sessionEnd with
      | some close =>
        let stopEnd := min i64Max (close + stopEndBufferSec)
        if createdTsUtc < stopEnd then some stopEnd
        else findStopEnd offset createdTsUtc sessionEnd weekendsOff (day + 1) days
      | none => findStopEnd offset createdTsUtc sessionEnd weekendsOff (day + 1) days

def computeIntradayStopEndUtc : Option ℤ :=
  if createdTsUtc ≤ 0 then none
  else
    let periods := config.strategy.tradingPeriods
    let offsetHours := match periods with
      | some periods => (schedulerOf config periods).timezoneOffsetHours
      | none => config.strategy.timezoneOffsetHours
    match localDateTime offsetHours createdTsUtc with
    | none => none
    | some localDt =>
      let sessionEnd := (periods.map (·.sessionEnd)).getD
        (NaiveTime.fromHms (min config.strategy.sessionCloseHour 23)
          (min config.strategy.sessionCloseMinute 59) 0)
      let weekendsOff := (periods.map (·.weekendsOff)).getD false
      findStopEnd localDt.offset createdTsUtc sessionEnd weekendsOff localDt.date 8

/-- `sanitize_comment`: the first 100 characters that are ASCII and no line break. -/
def sanitizeComment (raw : Option String) : Option String :=
  match raw with
  | none => none
  | some raw =>
    let comment := String.ofList
      ((raw.toList.filter fun c => isAscii c && c ≠ '\n' && c ≠ '\r').take 100)
    if isBlank comment then none else some comment

def orderCommand (action : CommandAction) (seq : ℕ) (actionName : String) : OrderCommand where
  requestId :=
    match action with
    | .market order =>
      deterministicMarketRequestId ctx.strategyId ctx.portfolio ctx.symbol createdTsUtc order.side
    | _ =>
      deterministicRequestId ctx.strategyId ctx.portfolio ctx.symbol actionName createdTsUtc seq
  createdTsUtc := createdTsUtc
  strategyId := ctx.strategyId
  portfolio := ctx.portfolio
  exchange := ctx.exchange
  symbol := ctx.symbol
  action := action
  intentClass := some intentClass
  ttlMs := none

/-- `intent_to_command`: a routed intent goes to its own symbol; `tag` is the strategy's
comment for a context, `stopEnd` the computed end of a stop order. -/
def commandOf (tag : StrategyCtx → Option String) (stopEnd : Option ℤ) (createdTsUtc : ℤ)
    (intentClass : IntentClass) (ctx : StrategyCtx) : Intent → OrderCommand
  | .classified intent _ => commandOf tag stopEnd createdTsUtc intentClass ctx intent
  | .routed intent symbol =>
    commandOf tag stopEnd createdTsUtc intentClass { ctx with symbol := symbol } intent
  | .place price qty side comment =>
    orderCommand ctx createdTsUtc intentClass
      (.place ⟨price, qty, side, sanitizeComment (comment.or (tag ctx))⟩) 0 "place"
  | .market qty side _ comment =>
    orderCommand ctx createdTsUtc intentClass
      (.market ⟨qty, side, sanitizeComment (comment.or (tag ctx))⟩) (marketRequestSeq side) "market"
  | .cancel orderId => orderCommand ctx createdTsUtc intentClass (.cancel ⟨orderId⟩) 1 "cancel"
  | .replace orderId newPrice newQty =>
    orderCommand ctx createdTsUtc intentClass (.replace ⟨orderId, newPrice, newQty⟩) 2 "replace"
  | .createStopLimit side qty triggerPrice price condition stopEndUnixTime comment
      instrumentGroup checkDuplicates =>
    orderCommand ctx createdTsUtc intentClass
      (.createStopLimit ⟨side, qty, triggerPrice, price, condition,
        stopEnd.getD stopEndUnixTime, sanitizeComment (comment.or (tag ctx)), instrumentGroup,
        checkDuplicates⟩) 5 "create_stop_limit"
  | .deleteStopLimit orderId side checkDuplicates =>
    orderCommand ctx createdTsUtc intentClass
      (.deleteStopLimit ⟨orderId, side, checkDuplicates⟩) 6 "delete_stop_limit"

def intentToCommand (env : Env σ P) (s : σ) (ctx : StrategyCtx) (createdTsUtc : ℤ)
    (intent : Intent) (intentClass : IntentClass) : OrderCommand :=
  commandOf (fun ctx => env.strategy.intentCommentTag s ctx createdTsUtc intentClass)
    (computeIntradayStopEndUtc env.config createdTsUtc) createdTsUtc intentClass ctx intent

def commandActionName : CommandAction → String
  | .place _ => "place"
  | .market _ => "market"
  | .cancel _ => "cancel"
  | .replace _ => "replace"
  | .createStopLimit _ => "create_stop_limit"
  | .deleteStopLimit _ => "delete_stop_limit"

def commandTargetOrderId : CommandAction → Option String
  | .cancel order => some (toString order.orderId)
  | .replace order => some (toString order.orderId)
  | .deleteStopLimit order => some order.orderId
  | .place _ | .market _ | .createStopLimit _ => none

/-! ### Telling the strategy -/

def notifyCommandPrepared (command : OrderCommand) (intentClass : IntentClass) :
    RuntimeM σ P Unit := do
  let env ← Eff.read
  let event : CommandPrepared :=
    { requestId := command.requestId
      intentClass := intentClass
      createdTsUtc := command.createdTsUtc
      symbol := command.symbol
      action := commandActionName command.action
      targetOrderId := commandTargetOrderId command.action }
  Eff.modify fun rt =>
    let s := env.strategy.onCommandPrepared rt.strategy ctx event
    { rt with strategy := s, state := { rt.state with strategyState := env.strategy.state s } }

def notifyIntentsBlocked (ctx : StrategyCtx) : List IntentBlocked → RuntimeM σ P Bool
  | [] => return false
  | event :: events => do
    let env ← Eff.read
    let rt ← Eff.get
    let (s, disposition) := env.strategy.onIntentBlocked rt.strategy ctx event
    record (.called (.intentBlocked event))
    Eff.modify (afterCallback env.strategy s)
    let kept ← notifyIntentsBlocked ctx events
    return (disposition = .keepStrategyState) || kept

variable (previousState : P)

def restoreStrategyState (reason : String) : RuntimeM σ P Unit := do
  let env ← Eff.read
  record (.called (.stateReverted reason))
  Eff.modify fun rt =>
    { rt with
      strategy := env.strategy.setState rt.strategy previousState
      state := { rt.state with strategyState := previousState } }

/-- The answer to an exit outside market hours: a rejection that the runtime makes up. -/
def deferExit : RuntimeM σ P Unit := do
  let env ← Eff.read
  let rt ← Eff.get
  let command := intentToCommand env rt.strategy ctx createdTsUtc intent intentClass
  notifyCommandPrepared ctx command intentClass
  let ack := CommandAck.rejected command.requestId "trading_window_closed" "validation failed"
    dispatchTsUtc
  let rt ← Eff.get
  let ackCtx ← strategyCtx (rt.lastBarTs env.config) dispatchTsUtc
  -- intents that the answer gives rise to are dropped
  record (.called (.preEmitAck ack))
  let _ ← invokeStrategyCallback fun s => env.strategy.onAck s ackCtx ack
  flushStrategyJournalRecords
  persistState none

/-- `maybe_defer_exit_before_emit`: whether the intent was an exit outside market hours. -/
def maybeDeferExitBeforeEmit : RuntimeM σ P Bool := do
  let env ← Eff.read
  if intentClass ≠ .exit then return false
  else
    match currentMarketState env.config dispatchTsUtc with
    | none => return false
    | some .opened => return false
    | some _ =>
      deferExit ctx createdTsUtc dispatchTsUtc intent intentClass
      return true

/-! ### Emission -/

def publishIntent : RuntimeM σ P Unit := do
  let env ← Eff.read
  let rt ← Eff.get
  let command := intentToCommand env rt.strategy ctx createdTsUtc intent intentClass
  notifyCommandPrepared ctx command intentClass
  persistState (some command)
  Eff.modify fun rt => { rt with ourRequestIds := insert command.requestId rt.ourRequestIds }

/-- One round of the emission loops. -/
def emitIntent : RuntimeM σ P Unit := do
  if ← maybeDeferExitBeforeEmit ctx createdTsUtc dispatchTsUtc intent intentClass then return ()
  else publishIntent ctx createdTsUtc intent intentClass

/-- The emission loops of `apply_intents`. -/
def emitIntents (ctx : StrategyCtx) (createdTsUtc dispatchTsUtc : ℤ) :
    List (Intent × IntentClass) → RuntimeM σ P Unit
  | [] => return ()
  | (intent, intentClass) :: intents => do
    emitIntent ctx createdTsUtc dispatchTsUtc intent intentClass
    emitIntents ctx createdTsUtc dispatchTsUtc intents

def intentBlocked (intent : Intent × IntentClass) : IntentBlocked where
  reason := "live_guard"
  action := intentActionName intent.1
  intentClass := intent.2
  createdTsUtc := createdTsUtc
  guardReasons := decision.reasons

def passesBlockedGuard : Bool :=
  guardAllowsIntentWhenBlocked intentClass (decide (0 < |ctx.positionQty.getD 0|))

def emitDecided (decision : LiveGuardDecision) (accepted : List (Intent × IntentClass))
    (previousState : P) :
    RuntimeM σ P Unit := do
  if decision.allowed then emitIntents ctx createdTsUtc dispatchTsUtc accepted
  else
    let passthrough := accepted.filter fun intent => passesBlockedGuard ctx intent.2
    let blocked := accepted.filter fun intent => !passesBlockedGuard ctx intent.2
    if passthrough.isEmpty then
      if ← notifyIntentsBlocked ctx (blocked.map (intentBlocked decision createdTsUtc)) then
        flushStrategyJournalRecords
        persistState none
      else
        restoreStrategyState previousState "intent_dropped_by_guard"
        persistState none
    else emitIntents ctx createdTsUtc dispatchTsUtc passthrough

/-- The guard's decision in `apply_intents`: a gateway that is about to be ready is waited for. -/
def guardDecision : RuntimeM σ P LiveGuardDecision := do
  let decision ← evaluateGuardDecision
  if decision.allowed then return decision
  else maybeWaitForGuardReadinessRace decision

/-- The intents that the trading window lets through, with their classes. -/
def acceptedIntents : List (Intent × IntentClass) :=
  (intents.map fun intent => (intent, resolveIntentClass ctx intent)).filter fun intent =>
    tradingWindowAllowsOrder config ctx dispatchTsUtc intent.2

def applyIntentsLive : RuntimeM σ P Unit := do
  let env ← Eff.read
  let accepted := acceptedIntents env.config ctx dispatchTsUtc intents
  if accepted.isEmpty then
    restoreStrategyState previousState "intent_dropped_before_emit"
    persistState none
  else
    let decision ← guardDecision
    emitDecided ctx createdTsUtc dispatchTsUtc decision accepted previousState

def keepsVirtualTrades : Bool :=
  match config.tradeMode with
  | .paper => config.paperEnabled
  | .backtest => config.backtestEnabled
  | .live => true

def logVirtualTrade : RuntimeM σ P Unit := do
  let env ← Eff.read
  match env.config.tradeMode, env.config.paperOutput with
  | .paper, .stdout => return ()
  | .paper, .file => write (.virtualTrade createdTsUtc intent)
  | .backtest, _ => write (.virtualTrade createdTsUtc intent)
  | .live, _ => return ()

def logVirtualTrades : RuntimeM σ P Unit := do
  let env ← Eff.read
  if keepsVirtualTrades env.config then logAll intents else return ()
where
  /-- The intents in order, until one cannot be written. -/
  logAll : List Intent → RuntimeM σ P Unit
    | [] => return ()
    | intent :: intents => do
      logVirtualTrade createdTsUtc intent
      logAll intents

def applyIntents : RuntimeM σ P Unit := do
  flushStrategyJournalRecords
  if intents.isEmpty then persistState none
  else
    let env ← Eff.read
    match env.config.tradeMode with
    | .live => applyIntentsLive ctx createdTsUtc dispatchTsUtc intents previousState
    | .paper | .backtest => do
      logVirtualTrades createdTsUtc intents
      persistState none

def invokeAndApply (callback : σ → σ × List Intent) :
    RuntimeM σ P Unit := do
  let (intents, previousState) ← invokeStrategyCallback callback
  let dispatchTsUtc := max (← now) createdTsUtc
  applyIntents ctx createdTsUtc dispatchTsUtc intents previousState

end StrategyRuntime

end AlorRs
