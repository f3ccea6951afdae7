import AlorRs.StrategyRuntime.Runtime.Handlers
import AlorRs.StrategyRuntime.Runtime.Simulation

/-!
# Bars and the timer

A bar is fed to the strategy once its close time is above the last processed one; the mark is
moved after the bar's intents are applied, just before the bar is acknowledged.
-/

namespace AlorRs

open RuntimeM

namespace StrategyRuntime

variable {σ P : Type}

/-! ### The risk gate -/

def riskGateSessionPersistenceEnabled (config : RuntimeConfig) : Bool :=
  config.tradeMode = .live || (config.tradeMode = .paper && config.strategy.riskGatePersistInShadow)

def applyRiskGateMaterializedState (profileId : String) (state : RiskGateRuntimeState) :
    RuntimeM σ P Unit := do
  let env ← Eff.read
  Eff.modify fun rt =>
    let s := env.strategy.onRiskGateState rt.strategy { state with profileId := profileId }
    { rt with strategy := s, state := { rt.state with strategyState := env.strategy.state s } }

/-- `append_risk_gate_runtime_session`: a session that the ledger already has is not written. -/
def appendRiskGateRuntimeSession (finalization : RiskGateSessionFinalization) :
    RuntimeM σ P (Option RiskGateRuntimeState) := do
  match ← readFrom fun env tick => env.riskGateState tick with
  | none => return none
  | some state => do
    write (.riskGateAppended finalization)
    return some state

/-- The loop of `flush_risk_gate_session_finalizations`. -/
def appendFinalizations (profileId : String) :
    List RiskGateSessionFinalization → RuntimeM σ P Unit
  | [] => return ()
  | finalization :: finalizations => do
    match ← appendRiskGateRuntimeSession finalization with
    | none => appendFinalizations profileId finalizations
    | some state => do
      applyRiskGateMaterializedState profileId state
      appendFinalizations profileId finalizations

def acknowledgeFinalizations (finalizations : List RiskGateSessionFinalization) :
    RuntimeM σ P Unit := do
  let env ← Eff.read
  Eff.modify fun rt =>
    let s := env.strategy.acknowledgeRiskGateSessionFinalizations rt.strategy
      (finalizations.map (·.sessionDate))
    { rt with strategy := s, state := { rt.state with strategyState := env.strategy.state s } }

/-- `startup_store_config_from_strategy_config`: the profile of the risk gate, where there is one. -/
def riskGateProfile : RuntimeM σ P (Option String) := do
  let env ← Eff.read
  let _ ← now
  match env.config.strategy.riskGateProfile with
  | .ok profile => return profile
  | .error error => Eff.fail error

def flushRiskGateSessionFinalizations : RuntimeM σ P Unit := do
  let env ← Eff.read
  let rt ← Eff.get
  let finalizations := env.strategy.riskGateSessionFinalizations rt.strategy
  if finalizations.isEmpty then return ()
  else if !riskGateSessionPersistenceEnabled env.config then acknowledgeFinalizations finalizations
  else
    match ← riskGateProfile with
    | none => return ()
    | some profileId => do
      appendFinalizations profileId finalizations
      acknowledgeFinalizations finalizations
      persistState none

/-! ### Bars -/

/-- The branch of `handle_bar` outside live mode. -/
def simulateBar (ctx : StrategyCtx) (eventTs : ℤ) (bar : BarEvent) (intents : List Intent)
    (previousState : P) : RuntimeM σ P Unit := do
  let env ← Eff.read
  flushStrategyJournalRecords
  if canAdvancePaperExecution env.config bar.origin then
    simulateFills bar
    let executable ← filterPaperIntentsForSimulation ctx eventTs intents previousState
    recordNonLiveIntents eventTs executable
    simulateIntents bar executable
  persistState none

/-- The branch of `handle_bar` in live mode: the bar itself is the proof of freshness for the
order gates. -/
def emitBar (eventTs : ℤ) (bar : BarEvent) (intents : List Intent) (previousState : P) :
    RuntimeM σ P Unit := do
  let emitCtx ← strategyCtx (some bar.closeTimeUtc) eventTs
  let dispatchTsUtc := max (← now) eventTs
  applyIntents emitCtx eventTs dispatchTsUtc intents previousState

def seeLiveBar (bar : BarEvent) (rt : StrategyRuntime σ P) : StrategyRuntime σ P :=
  if bar.origin = .live then
    { rt with bootstrapState := { rt.bootstrapState with seenLiveBar := true } }
  else rt

/-- The part of `handle_bar` before the callback: the bar's time and the callback's context. -/
def prepareBar (bar : BarEvent) : RuntimeM σ P (StrategyCtx × ℤ) := do
  let rt ← Eff.get
  let eventTs ← normalizeEventTs bar.closeTimeUtc
  Eff.modify (seeLiveBar bar)
  maybeWaitForLiveBarReadiness bar
  let ctx ← strategyCtx (rt.state.lastProcessedBarTs.lookup bar.symbol) eventTs
  return (ctx, eventTs)

/-- The part of `handle_bar` after the callback, up to the acknowledgment. -/
def settleBar (ctx : StrategyCtx) (eventTs : ℤ) (bar : BarEvent) (intents : List Intent)
    (previousState : P) : RuntimeM σ P Unit := do
  let env ← Eff.read
  if env.config.tradeMode ≠ .live then simulateBar ctx eventTs bar intents previousState
  else emitBar eventTs bar intents previousState
  flushRiskGateSessionFinalizations

def handleBar (stream messageId : String) (bar : BarEvent) : RuntimeM σ P Unit := do
  let env ← Eff.read
  let rt ← Eff.get
  if rt.state.isDuplicateBar bar.symbol bar.closeTimeUtc then xack stream messageId
  else
    let (ctx, eventTs) ← prepareBar bar
    let (intents, previousState) ← invokeStrategyCallback fun s => env.strategy.onBar s ctx bar
    settleBar ctx eventTs bar intents previousState
    modifyState fun state => state.updateLastBarTs bar.symbol bar.closeTimeUtc
    xack stream messageId

def pollTimer : RuntimeM σ P Unit := do
  let env ← Eff.read
  let rt ← Eff.get
  let nowTsUtcMs ← nowMs
  let eventTs := nowTsUtcMs / 1000
  let ctx ← strategyCtx (rt.lastBarTs env.config) eventTs
  invokeAndApply ctx eventTs fun s => env.strategy.onTimer s ctx nowTsUtcMs

end StrategyRuntime

end AlorRs
