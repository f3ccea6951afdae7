import AlorRs.StrategyRuntime.Runtime.Bars
import Mathlib.Data.List.Destutter

/-!
# The start of the runtime

The broker's snapshots and the newest snapshot of the runtime's own state are loaded, the
strategy is told of both, and its indicators are warmed up from the history of bars.
-/

namespace AlorRs

open RuntimeM

namespace StrategyRuntime

variable {σ P : Type}

/-! ### The broker's snapshots -/

def nonWorkingOrderStatuses : List String :=
  ["filled", "canceled", "cancelled", "expired", "rejected"]

def nonWorkingStopOrderStatuses : List String :=
  ["canceled", "cancelled", "rejected", "expired", "filled", "executed", "triggered", "done",
    "completed"]

variable (text : RustText) (config : RuntimeConfig) (strategy : Strategy σ P) (bars : List BarEvent)
  (snapshots : BrokerSnapshots) (rt : StrategyRuntime σ P)

def isWorkingOrder (order : OrderEvent) : Bool :=
  decide (0 < order.orderId) && !nonWorkingOrderStatuses.contains (text.toLowercase order.status)

def isWorkingStopOrder (stopOrder : StopOrderEvent) : Bool :=
  !isBlank stopOrder.stopOrderId &&
    !nonWorkingStopOrderStatuses.contains (text.toLowercase stopOrder.status)

def latestTs (times : List ℤ) : Option ℤ := (times.filter (0 < ·)).max?

/-- The part of a snapshot whose entries satisfy a test. -/
def restrict {K V : Type} [DecidableEq K] (entries : AList fun _ : K => V) (p : K → V → Bool) :
    AList fun _ : K => V :=
  (entries.entries.filter fun entry => p entry.1 entry.2).toAList

def values {K V : Type} (entries : AList fun _ : K => V) : List V := entries.entries.map (·.2)

/-- The entries of the strategy's symbols in the broker's snapshots. -/
def strategySnapshots : BrokerSnapshots where
  orders := snapshots.orders.map fun orders =>
    restrict orders fun _ order => matchesStrategySymbol config order.symbol
  stopOrders := snapshots.stopOrders.map fun stopOrders =>
    restrict stopOrders fun _ stopOrder => matchesStrategySymbol config stopOrder.symbol
  positions := snapshots.positions.map fun positions =>
    restrict positions fun symbol _ => matchesStrategySymbol config symbol

def bootstrapSnapshotOf : BootstrapSnapshot where
  positionsStrategy := snapshots.positions.getD ∅
  workingOrdersStrategy := restrict (snapshots.orders.getD ∅) fun _ order => isWorkingOrder text order
  workingStopOrdersStrategy :=
    restrict (snapshots.stopOrders.getD ∅) fun _ stopOrder => isWorkingStopOrder text stopOrder
  snapshotTsUtc := latestTs ((values (snapshots.orders.getD ∅)).map (·.tsUtc) ++
    (values (snapshots.stopOrders.getD ∅)).map (·.tsUtc) ++
    (values (snapshots.positions.getD ∅)).map (·.tsUtc))

/-- The end of `load_snapshots` in live mode. -/
def loadBrokerState : StrategyRuntime σ P :=
  let told := bootstrapSnapshotOf text snapshots
  { rt with
    state := { rt.state with
      orders := snapshots.orders.getD rt.state.orders
      stopOrders := snapshots.stopOrders.getD rt.state.stopOrders
      positions := snapshots.positions.getD rt.state.positions }
    ourOrderIds := rt.ourOrderIds ∪ told.workingOrdersStrategy.keys.toFinset
    bootstrapState := { rt.bootstrapState with
      ordersSnapshotLoaded := rt.bootstrapState.ordersSnapshotLoaded || snapshots.orders.isSome
      positionsSnapshotLoaded :=
        rt.bootstrapState.positionsSnapshotLoaded || snapshots.positions.isSome }
    bootstrapSnapshot :=
      if snapshots.orders.isSome || snapshots.positions.isSome then some told
      else rt.bootstrapSnapshot }

/-- Outside live mode the broker's state is not taken over. -/
def ignoreBrokerState : StrategyRuntime σ P :=
  { rt with
    state := { rt.state with orders := ∅, stopOrders := ∅, positions := ∅ }
    bootstrapState := { rt.bootstrapState with
      ordersSnapshotLoaded := snapshots.orders.isSome
      positionsSnapshotLoaded := snapshots.positions.isSome }
    bootstrapSnapshot := some ⟨∅, ∅, ∅, none⟩ }

def loadSnapshots : RuntimeM σ P Unit := do
  let env ← Eff.read
  match env.config.streams.snapshots with
  | none => return ()
  | some _ => do
    let snapshots ← readFrom fun env tick => env.brokerSnapshots tick
    if env.config.tradeMode ≠ .live then Eff.modify (ignoreBrokerState snapshots)
    else
      Eff.modify (loadBrokerState env.text (strategySnapshots env.config snapshots))
      let rt ← Eff.get
      if rt.bootstrapState.ordersSnapshotLoaded && rt.bootstrapState.positionsSnapshotLoaded then
        return ()
      else Eff.fail .snapshotsMissing

/-! ### The runtime's own snapshot -/

def latestSnapshot (log : List (HostEvent P)) : Option (RuntimeStateSnapshot P) :=
  (log.filterMap HostEvent.snapshot?).getLast?

def restoreSnapshot (snapshot : RuntimeStateSnapshot P) (rt : StrategyRuntime σ P)
    : StrategyRuntime σ P :=
  let s := strategy.setState rt.strategy snapshot.strategyState
  { rt with
    state := { rt.state with
      lastProcessedBarTs := snapshot.lastProcessedBarTs
      strategyState := snapshot.strategyState
      lastTradeTs := snapshot.lastTradeTs
      lastTradeId := snapshot.lastTradeId
      seenTradeIds := snapshot.seenTradeIds }
    strategy := s
    ourRequestIds := rt.ourRequestIds ∪ (strategy.pendingRequestIds s).toFinset }

def loadRuntimeState : RuntimeM σ P Unit := do
  let env ← Eff.read
  if env.config.resetStateOnStart then return ()
  else
    readFrom fun _ _ => ()
    let rt ← Eff.get
    match latestSnapshot rt.log with
    | none => return ()
    | some snapshot => Eff.modify (restoreSnapshot env.strategy snapshot)

/-! ### Telling the strategy -/

def bootstrapRiskGateStartupStore : RuntimeM σ P Unit := do
  match ← riskGateProfile with
  | none => return ()
  | some profileId => do
    match ← readFrom fun env tick => env.riskGateState tick with
    | none => Eff.fail .transport
    | some state => applyRiskGateMaterializedState profileId state

def startCallback (eventTsUtc : ℤ) (callback : Strategy σ P → σ → StrategyCtx → σ × List Intent) :
    RuntimeM σ P Unit := do
  let env ← Eff.read
  let createdTs ← normalizeEventTs eventTsUtc
  let rt ← Eff.get
  let ctx ← strategyCtx (rt.lastBarTs env.config) createdTs
  invokeAndApply ctx createdTs fun s => callback env.strategy s ctx

def notifyBootstrapSnapshot : RuntimeM σ P Unit := do
  let env ← Eff.read
  let rt ← Eff.get
  if !env.config.capabilities.usesBootstrapSnapshot then return ()
  else
    match rt.bootstrapSnapshot with
    | none => return ()
    | some snapshot =>
      startCallback (snapshot.snapshotTsUtc.getD 0) fun strategy s ctx =>
        strategy.onBootstrapSnapshot s ctx snapshot

def notifyRuntimeStateRestored : RuntimeM σ P Unit := do
  let env ← Eff.read
  let rt ← Eff.get
  if !env.config.capabilities.usesRuntimeStateRestore then return ()
  else
    startCallback ((rt.lastBarTs env.config).getD 0) fun strategy s ctx =>
      strategy.onRuntimeStateRestored s ctx ⟨rt.ourOrderIds, rt.ourRequestIds⟩

/-! ### Warm-up -/

/-- The bars that the warm-up takes from the history: those of the symbol in the order of time,
one for each time. -/
def warmupBars (history : List BarEvent) : List BarEvent :=
  ((history.filter (·.symbol = config.strategy.symbol)).mergeSort
    fun a b => a.closeTimeUtc ≤ b.closeTimeUtc).destutter fun a b => a.closeTimeUtc ≠ b.closeTimeUtc

/-- The end of the warm-up: the mark moves to the last bar if the strategy took any. -/
def finishWarmup (processed : ℕ) (rt : StrategyRuntime σ P) : StrategyRuntime σ P :=
  let state :=
    match bars.getLast? with
    | some lastBar =>
      if 0 < processed then rt.state.updateLastBarTs lastBar.symbol lastBar.closeTimeUtc
      else rt.state
    | none => rt.state
  { rt with state := { state with strategyState := strategy.state rt.strategy } }

def warmStrategy : RuntimeM σ P ℕ := do
  let env ← Eff.read
  let rt ← Eff.get
  let ctx ← strategyCtx (rt.strategyLastBarTs env.config) rt.strategyNowTsUtc
  let rt ← Eff.get
  let (s, processed) :=
    env.strategy.warmupFromHistory rt.strategy { ctx with allowLiveOrders := false } bars
  let (s, records) := env.strategy.drainObservationJournalRecords s
  Eff.modify fun rt =>
    { rt with
      strategy := s
      pendingStrategyJournalRecords := rt.pendingStrategyJournalRecords ++ records }
  return processed

def warmupStrategyIndicatorsFromHistory : RuntimeM σ P Unit := do
  let env ← Eff.read
  if !env.config.capabilities.usesHistoryWarmup then return ()
  else
    let history ← readFrom fun env tick => env.history tick
    let bars := warmupBars env.config history
    if bars.isEmpty then return ()
    else
      let processed ← warmStrategy bars
      flushStrategyJournalRecords
      Eff.modify (finishWarmup env.strategy bars processed)

/-- The part of `bootstrap` in which the strategy learns what was loaded. -/
def announceStart : RuntimeM σ P Unit := do
  bootstrapRiskGateStartupStore
  flushRiskGateSessionFinalizations
  notifyBootstrapSnapshot
  notifyRuntimeStateRestored

/-- The part of `bootstrap` before the recovery of pending entries. -/
def startUp : RuntimeM σ P Unit := do
  loadSnapshots
  loadRuntimeState
  announceStart
  warmupStrategyIndicatorsFromHistory

end StrategyRuntime

end AlorRs
