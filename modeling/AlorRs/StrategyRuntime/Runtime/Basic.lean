import AlorRs.Lib.Effect
import AlorRs.StrategyRuntime.LiveGuard
import AlorRs.StrategyRuntime.RedisTransport
import AlorRs.StrategyRuntime.State
import AlorRs.StrategyRuntime.TradeLedger
import AlorRs.Types.Scheduler

/-!
# The strategy runtime: state and effects

The runtime is a computation over its own state (`Eff`).  What it takes from outside, the
clock, the outcome of each write and the health events, comes from an environment that answers
by the number of questions asked so far (`tick`); what it does to the outside and to the strategy
is written to a log.
-/

namespace AlorRs

/-! ### Configuration -/

structure StreamNames where
  bars : String
  orders : String
  trades : String
  positions : String
  acks : String
  health : Option String
  snapshots : Option String
deriving DecidableEq, Repr

inductive PaperOutput where
  | stdout | file
deriving DecidableEq, Repr

/-- Which lifecycle callbacks the strategy takes. -/
structure StrategyCapabilities where
  usesBootstrapSnapshot : Bool
  usesRuntimeStateRestore : Bool
  usesHistoryWarmup : Bool
  usesStopOrders : Bool
deriving DecidableEq, Repr

/-- What can end a handler: a write or a read that failed, a payload that does not decode, an
invalid configuration, or broker snapshots that are missing at the start. -/
inductive RuntimeError where
  | transport | decode | config | snapshotsMissing
deriving DecidableEq, Repr

/-- `StrategyConfig`.  `orderSymbol` and `decisionJournalPath` are the settings of the one
strategy kind that has them, `riskGateProfile` is what
`startup_store_config_from_strategy_config` makes of the settings. -/
structure StrategyConfig where
  strategyId : String
  symbol : String
  orderSymbol : Option String
  tickSize : ℚ
  tradingPeriods : Option TradingPeriods
  timezoneOffsetHours : ℤ
  maxSilenceBarsSec : ℕ
  sessionCloseHour : ℕ
  sessionCloseMinute : ℕ
  decisionJournalPath : Option String
  riskGateProfile : Except RuntimeError (Option String)
  riskGatePersistInShadow : Bool

structure RuntimeConfig where
  strategy : StrategyConfig
  streams : StreamNames
  portfolio : String
  exchange : String
  tradeMode : TradeMode
  allowLiveOrders : Bool
  gatewayHealthStaleSec : ℕ
  requireGatewayReady : Bool
  resetStateOnStart : Bool
  claimBatch : ℕ
  paperEnabled : Bool
  paperExecutionMode : PaperExecutionMode
  paperOutput : PaperOutput
  backtestEnabled : Bool
  capabilities : StrategyCapabilities

/-! ### State -/

structure RuntimeStateSnapshot (P : Type) where
  tsUtc : ℤ
  lastProcessedBarTs : AList fun _ : String => ℤ
  strategyState : P
  lastTradeTs : Option ℤ
  lastTradeId : Option String
  seenTradeIds : List String

/-- The fills still expected for an order. -/
structure PendingExecution where
  orderId : ℤ
  symbol : String
  side : String
  targetQty : ℚ
  filledQty : ℚ
  orderPrice : ℚ
deriving DecidableEq, Repr

inductive SimOrderType where
  | market | limit
deriving DecidableEq, Repr

structure SimOrder where
  orderId : ℤ
  symbol : String
  side : String
  intentClass : Option IntentClass
  orderType : SimOrderType
  qty : ℚ
  price : Option ℚ
  comment : Option String
  createdBarTs : ℤ
deriving DecidableEq, Repr

/-- The calls to the strategy that answer for an intent, and the roll-back of its state. -/
inductive StrategyCall where
  | preEmitAck (ack : CommandAck)
  | intentBlocked (event : IntentBlocked)
  | stateReverted (reason : String)
deriving DecidableEq, Repr

/-- What the runtime does to the outside, which stream entries it hands to a handler, what the live
guard decides and, of the strategy calls, those that answer for an intent. -/
inductive HostEvent (P : Type) where
  | published (command : OrderCommand) (snapshot : RuntimeStateSnapshot P)
  | persisted (snapshot : RuntimeStateSnapshot P)
  | acked (stream messageId : String)
  | dispatched (stream messageId : String)
  | deadLetter (stream messageId reason : String)
  | journalled (record : String)
  | virtualTrade (createdTsUtc : ℤ) (intent : Intent)
  | reportsWritten
  | riskGateAppended (finalization : RiskGateSessionFinalization)
  | guardEvaluated (decision : LiveGuardDecision)
  | called (call : StrategyCall)

def HostEvent.snapshot? {P : Type} : HostEvent P → Option (RuntimeStateSnapshot P)
  | .published _ snapshot => some snapshot
  | .persisted snapshot => some snapshot
  | _ => none

/-- `StrategyRuntime`, with the number of questions asked of the environment and the log. -/
structure StrategyRuntime (σ P : Type) where
  state : RuntimeState P
  strategy : σ
  liveGuard : LiveGuardState
  bootstrapState : BootstrapState
  barsReadTotal : ℕ
  barsStreamXlenLast : Option ℕ
  ledger : TradeLedger
  ourRequestIds : Finset Uuid
  ourOrderIds : Finset ℤ
  bootstrapSnapshot : Option BootstrapSnapshot
  pendingTradesByOrderId : AList fun _ : ℤ => List TradeEvent
  pendingExec : AList fun _ : ℤ => PendingExecution
  simOrders : List SimOrder
  nextSimOrderId : ℤ
  strategyNowTsUtc : ℤ
  pendingStrategyJournalRecords : List String
  tick : ℕ
  log : List (HostEvent P)

/-- The fields of `StrategyRuntime::new`; `strategyState` is `StrategyState::default()`, `s` the
state of the strategy that the registry creates. -/
def StrategyRuntime.new {σ P : Type} (strategyState : P) (s : σ) : StrategyRuntime σ P where
  state := .initial strategyState
  strategy := s
  liveGuard := ⟨none⟩
  bootstrapState := ⟨false, false, false⟩
  barsReadTotal := 0
  barsStreamXlenLast := none
  ledger := .default
  ourRequestIds := ∅
  ourOrderIds := ∅
  bootstrapSnapshot := none
  pendingTradesByOrderId := ∅
  pendingExec := ∅
  simOrders := []
  nextSimOrderId := 1
  strategyNowTsUtc := 0
  pendingStrategyJournalRecords := []
  tick := 0
  log := []

/-! ### Effects -/

/-- The newest snapshots of the broker's state that the bootstrap finds. -/
structure BrokerSnapshots where
  orders : Option (AList fun _ : ℤ => OrderEvent)
  stopOrders : Option (AList fun _ : String => StopOrderEvent)
  positions : Option (AList fun _ : String => PositionEvent)

/-- What the runtime runs with: its configuration, the strategy's callbacks, and the answers of
the clock, the transport, the health stream, the risk-gate store, the snapshot stream and the
history of bars (newest first) to each question. -/
structure Env (σ P : Type) where
  config : RuntimeConfig
  strategy : Strategy σ P
  text : RustText
  nowMs : ℕ → ℤ
  delivery : ℕ → Delivery
  transport : RedisTransport
  health : ℕ → Option HealthEvent
  riskGateState : ℕ → Option RiskGateRuntimeState
  brokerSnapshots : ℕ → BrokerSnapshots
  history : ℕ → List BarEvent

abbrev RuntimeM (σ P : Type) := Eff (Env σ P) RuntimeError (StrategyRuntime σ P)

namespace RuntimeM

variable {σ P : Type}

/-- A question to the environment. -/
def ask {α : Type} (answer : Env σ P → ℕ → α) : RuntimeM σ P α := do
  let env ← Eff.read
  let rt ← Eff.get
  Eff.modify fun rt => { rt with tick := rt.tick + 1 }
  return answer env rt.tick

/-- `Utc::now().timestamp_millis()`. -/
def nowMs : RuntimeM σ P ℤ := ask fun env tick => env.nowMs tick

/-- `Utc::now().timestamp()`. -/
def now : RuntimeM σ P ℤ := return (← nowMs) / 1000

variable (event : HostEvent P)

/-- Writes to the log. -/
def record : RuntimeM σ P Unit :=
  Eff.modify fun rt => { rt with log := rt.log ++ [event] }

/-- A write to the outside: it may be refused, or be done and still report a failure. -/
def write : RuntimeM σ P Unit := do
  match ← ask fun env tick => env.delivery tick with
  | .done => record event
  | .refused => Eff.fail .transport
  | .lost => do
    record event
    Eff.fail .transport

/-- A read from the outside, which may fail. -/
def readFrom {α : Type} (answer : Env σ P → ℕ → α) : RuntimeM σ P α := do
  match ← ask fun env tick => (env.delivery tick, answer env tick) with
  | (.done, a) => return a
  | (_, _) => Eff.fail .transport

def modifyState (f : RuntimeState P → RuntimeState P) : RuntimeM σ P Unit :=
  Eff.modify fun rt => { rt with state := f rt.state }

end RuntimeM

open RuntimeM

namespace StrategyRuntime

variable {σ P : Type}

/-! ### Small accessors -/

variable (config : RuntimeConfig) (rt : StrategyRuntime σ P)

/-- `strategy_symbols`: the symbol of the bars, and the one of the orders where it differs. -/
def strategySymbols : List String :=
  config.strategy.symbol :: match config.strategy.orderSymbol with
    | some orderSymbol => if orderSymbol ≠ config.strategy.symbol then [orderSymbol] else []
    | none => []

def matchesStrategySymbol (symbol : String) : Bool :=
  (strategySymbols config).contains symbol

/-- The loop of `strategy_position_qty`: the first open position, else the first position. -/
def firstPositionQty (positions : AList fun _ : String => PositionEvent) (fallback : Option ℚ) :
    List String → Option ℚ
  | [] => fallback
  | symbol :: symbols =>
    match positions.lookup symbol with
    | none => firstPositionQty positions fallback symbols
    | some position =>
      if epsilon < |position.qty| then some position.qty
      else firstPositionQty positions (fallback.or (some position.qty)) symbols

def strategyPositionQty : Option ℚ :=
  firstPositionQty rt.state.positions none (strategySymbols config)

def strategyLastBarTs : Option ℤ :=
  (strategySymbols config).findSome? rt.state.lastProcessedBarTs.lookup

/-- The last processed bar of the strategy's own symbol. -/
def lastBarTs : Option ℤ :=
  rt.state.lastProcessedBarTs.lookup config.strategy.symbol

def strategyCtx (lastBarTs : Option ℤ) (eventTsUtc : ℤ) : RuntimeM σ P StrategyCtx := do
  let env ← Eff.read
  let rt ← Eff.get
  let nowTsUtc ← now
  return {
    strategyId := env.config.strategy.strategyId
    portfolio := env.config.portfolio
    exchange := env.config.exchange
    symbol := env.config.strategy.symbol
    tickSize := env.config.strategy.tickSize
    tradeMode := env.config.tradeMode
    paperExecutionMode := env.config.paperExecutionMode
    allowLiveOrders := env.config.allowLiveOrders
    gatewayPhase := (rt.liveGuard.health.map (·.gatewayPhase)).getD .syncingHistory
    positionQty := rt.strategyPositionQty env.config
    eventTsUtc := eventTsUtc
    nowTsUtc := nowTsUtc
    lastBarTs := lastBarTs }

/-- `normalize_event_ts`: the event's time, or the current one where it has none, and never
back. -/
def normalizeEventTs (eventTsUtc : ℤ) : RuntimeM σ P ℤ := do
  let rt ← Eff.get
  let candidate := if 0 < eventTsUtc then eventTsUtc else rt.strategyNowTsUtc
  let ts := max rt.strategyNowTsUtc candidate
  Eff.modify fun rt => { rt with strategyNowTsUtc := ts }
  return ts

def flushStrategyJournalRecords : RuntimeM σ P Unit := do
  let env ← Eff.read
  let rt ← Eff.get
  if rt.pendingStrategyJournalRecords.isEmpty then return ()
  Eff.modify fun rt => { rt with pendingStrategyJournalRecords := [] }
  match env.config.strategy.decisionJournalPath with
  | none => return ()
  | some path => if isBlank path then return () else appendAll rt.pendingStrategyJournalRecords
where
  /-- The records in order, until one cannot be written. -/
  appendAll : List String → RuntimeM σ P Unit
    | [] => return ()
    | record :: records => do
      write (.journalled record)
      appendAll records

def afterCallback (strategy : Strategy σ P) (s : σ) (rt : StrategyRuntime σ P) :
    StrategyRuntime σ P :=
  let (s, records) := strategy.drainObservationJournalRecords s
  { rt with
    strategy := s
    pendingStrategyJournalRecords := rt.pendingStrategyJournalRecords ++ records
    state := { rt.state with strategyState := strategy.state s } }

/-- `invoke_strategy_callback`: the intents, and the persisted state before the call. -/
def invokeStrategyCallback (callback : σ → σ × List Intent) : RuntimeM σ P (List Intent × P) := do
  let env ← Eff.read
  let rt ← Eff.get
  let (s, intents) := callback rt.strategy
  Eff.modify (afterCallback env.strategy s)
  return (intents, rt.state.strategyState)

/-! ### Persistence -/

def snapshot (tsUtc : ℤ) : RuntimeStateSnapshot P where
  tsUtc := tsUtc
  lastProcessedBarTs := rt.state.lastProcessedBarTs
  strategyState := rt.state.strategyState
  lastTradeTs := rt.state.lastTradeTs
  lastTradeId := rt.state.lastTradeId
  seenTradeIds := rt.state.seenTradeIds

/-- `persist_state`: the snapshot alone, or with the command in one transaction. -/
def persistState (command : Option OrderCommand) : RuntimeM σ P Unit := do
  let tsUtc ← now
  let rt ← Eff.get
  match command with
  | some command => write (.published command (rt.snapshot tsUtc))
  | none => write (.persisted (rt.snapshot tsUtc))

def xack (stream messageId : String) : RuntimeM σ P Unit := write (.acked stream messageId)

end StrategyRuntime

end AlorRs
