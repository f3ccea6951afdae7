import AlorRs.Gateway.Router
import AlorRs.Gateway.WsHub
import AlorRs.StrategyRuntime.StrategyHost

/-!
# The supervisor

Tasks that run at the same time: the hub, the task of its events, the router, the managers of
the positions, orders and stop orders, the task of the bars, and the watch for silence.  The phase
becomes `LiveReady` in the task of the bars, from what the other tasks have stored.
-/

namespace AlorRs.Gateway

structure SupervisorConfig where
  hub : HubConfig
  tfSec : ℤ
  closeGraceSec : ℤ
  allowFourPriceDoji : Bool
  warmReconnectMaxGapSec : ℕ
  gapBackfillPaddingBars : ℕ

/-! ### Bars -/

variable (config : SupervisorConfig)

def validateBar (now : ℤ) (bar : BarEvent) (lastEmittedTs : Option ℤ) : Bool :=
  !lastEmittedTs.any (fun last => decide (bar.closeTimeUtc ≤ last)) &&
    !(decide (0 < config.tfSec) && decide (bar.closeTimeUtc.tmod config.tfSec ≠ 0)) &&
    decide (bar.closeTimeUtc ≤ now + config.closeGraceSec) &&
    decide (max bar.o bar.c ≤ bar.h) && decide (bar.l ≤ min bar.o bar.c) && decide (bar.l ≤ bar.h) &&
    decide (0 ≤ bar.v) && (config.allowFourPriceDoji || decide (bar.h ≠ bar.l))

def emitBar (sent : Bool) (lastEmitted : AList fun _ : String => ℤ) (bar : BarEvent) :
    Bool × AList fun _ : String => ℤ :=
  if (lastEmitted.lookup bar.symbol).any fun last => decide (bar.closeTimeUtc ≤ last) then
    (false, lastEmitted)
  else if sent then (true, lastEmitted.insert bar.symbol bar.closeTimeUtc)
  else (false, lastEmitted)

/-- `flush_pending_live`: the live bars that were kept back, symbol by symbol, in order. -/
def flushPendingLive (sent : Bool) (pending : AList fun _ : String => List BarEvent)
    (lastEmitted : AList fun _ : String => ℤ) : AList fun _ : String => ℤ :=
  (pending.entries.mergeSort fun entry entry' => entry.1 ≤ entry'.1).foldl
    (fun lastEmitted entry =>
      (entry.2.mergeSort fun bar bar' => bar.closeTimeUtc ≤ bar'.closeTimeUtc).foldl
        (fun lastEmitted bar => (emitBar sent lastEmitted bar).2) lastEmitted) lastEmitted

def computeBackfillPlan (now : ℤ) (lastEmitted : AList fun _ : String => ℤ) : BackfillPlan :=
  let nowAligned := now.tdiv config.tfSec * config.tfSec
  let fromTs := config.hub.symbols.mapM fun symbol => (lastEmitted.lookup symbol).map fun last =>
    max (last - config.gapBackfillPaddingBars * config.tfSec) 0
  match fromTs.bind List.min? with
  | none => .cold
  | some fromTs =>
    let gapSec := (nowAligned - fromTs) % 2 ^ 64
    if config.warmReconnectMaxGapSec < gapSec.toNat then .cold
    else ⟨.warm, some fromTs, gapSec.toNat⟩

/-! ### State -/

/-- What the supervisor does to be seen from outside, and what it is told about the
subscriptions. -/
inductive SupervisorEvent where
  | subscribed
  | acknowledged (subscriptionType : String)
  | counted
  | liveBar (symbol : String)
  | phase (next : GatewayPhase) (cwsAuthorized : Bool)
deriving DecidableEq, Repr

/-- A bar that the task of the bars has looked at and is about to emit. -/
structure BarCheck where
  bar : BarEvent
  buffered : Bool
  liveReady : Bool
deriving DecidableEq, Repr

structure Supervisor where
  hub : Hub
  hubCommands : List HubCommand
  wsEvents : List WsEvent
  backfillPlan : BackfillPlan
  currentGeneration : ℕ
  raw : List Json
  routerCommands : List (ℤ × DataOrigin)
  router : RouterState
  bars : List BarEvent
  positions : List PositionEvent
  orders : List OrderEvent
  stopOrders : List StopOrderEvent
  positionsSynced : Bool
  ordersSynced : Bool
  stopOrdersSynced : Bool
  desiredSubscriptionsCount : ℕ
  activeSubscriptionsCount : ℕ
  wsConnected : Bool
  cwsAuthorized : Bool
  liveSymbols : List String
  lastEmittedBarTs : AList fun _ : String => ℤ
  checking : Option BarCheck
  pendingLiveUpdates : AList fun _ : String => List BarEvent
  resyncInProgress : Bool
  phase : GatewayPhase
  log : List SupervisorEvent

namespace Supervisor

/-- `run_with_hooks`, before the first event. -/
def start (config : SupervisorConfig) : Supervisor where
  hub := .start
  hubCommands := []
  wsEvents := []
  backfillPlan := .cold
  currentGeneration := 0
  raw := []
  routerCommands := []
  router := .initial
  bars := []
  positions := []
  orders := []
  stopOrders := []
  positionsSynced := false
  ordersSynced := false
  stopOrdersSynced := false
  desiredSubscriptionsCount := 0
  activeSubscriptionsCount := 0
  wsConnected := false
  cwsAuthorized := false
  liveSymbols := []
  lastEmittedBarTs := ∅
  checking := none
  pendingLiveUpdates := ∅
  resyncInProgress := false
  phase := if config.hub.skipHistoryBars then .reconnecting else .syncingHistory
  log := []

variable (config : SupervisorConfig) (supervisor : Supervisor)

def record (event : SupervisorEvent) : Supervisor :=
  { supervisor with log := supervisor.log ++ [event] }

def transitionPhase (next : GatewayPhase) : Supervisor :=
  if supervisor.phase = next then supervisor
  else { supervisor with phase := next }.record (.phase next supervisor.cwsAuthorized)

/-! ### The task of the hub's events -/

def rawCapacity : ℕ := 1024

variable (now : ℤ) (sent : Bool) (supervisor : Supervisor)

/-- The branch of the task for an event of the current generation. -/
def handleCurrent :
    WsEvent → Supervisor
  | .raw value _ =>
    if supervisor.raw.length < rawCapacity then { supervisor with raw := supervisor.raw ++ [value] }
    else supervisor
  | .conn .connected _ => { supervisor with wsConnected := true }
  | .conn .disconnected _ => { supervisor with wsConnected := false }
  | .conn .reconnecting _ =>
    let supervisor := { supervisor with wsConnected := false }
    let supervisor :=
      if supervisor.phase ≠ .syncingHistory then supervisor.transitionPhase .reconnecting
      else supervisor
    { supervisor with
      backfillPlan := computeBackfillPlan config now supervisor.lastEmittedBarTs }
  | .subscribed wallclockTs historyOrigin _ =>
    let supervisor := supervisor.record .subscribed
    let supervisor :=
      match historyOrigin with
      | .historyGap => supervisor.transitionPhase .syncingGap
      | .history => supervisor.transitionPhase .syncingHistory
      | .live => supervisor
    { supervisor with
      routerCommands := supervisor.routerCommands ++ [(wallclockTs, historyOrigin)] }
  | .subscriptionAck subscriptionType _ =>
    let supervisor := supervisor.record (.acknowledged subscriptionType)
    { supervisor with
      positionsSynced := supervisor.positionsSynced || subscriptionType == "positions"
      ordersSynced := supervisor.ordersSynced || subscriptionType == "orders"
      stopOrdersSynced := supervisor.stopOrdersSynced || subscriptionType == "stop_orders" }
  | .subscriptionStats desired active _ _ =>
    { supervisor.record .counted with
      desiredSubscriptionsCount := desired
      activeSubscriptionsCount := active }
  | .wsRx _ _ => supervisor

/-- The body of the loop of the task: a `Reconnecting` begins a generation, and other events of
another generation are dropped. -/
def handleWsEvent (event : WsEvent) : Supervisor :=
  match event with
  | .conn .reconnecting generation =>
    { supervisor with currentGeneration := generation }.handleCurrent config now event
  | _ =>
    if event.generation ≠ supervisor.currentGeneration then supervisor
    else supervisor.handleCurrent config now event

/-! ### The router -/

/-- An output of the router goes to its channel; an auth error asks for a reconnect. -/
def deliver : RouterOutput → Supervisor
  | .bar bar => { supervisor with bars := supervisor.bars ++ [bar] }
  | .position position => { supervisor with positions := supervisor.positions ++ [position] }
  | .order order => { supervisor with orders := supervisor.orders ++ [order] }
  | .stopOrder stopOrder => { supervisor with stopOrders := supervisor.stopOrders ++ [stopOrder] }
  | .trade _ => supervisor
  | .authError _ => { supervisor with hubCommands := supervisor.hubCommands ++ [.reconnect] }

def routeRaw (text : RouterText) (now : ℤ) (supervisor : Supervisor) : Option Supervisor :=
  match supervisor.raw with
  | [] => none
  | value :: raw =>
    let (router, outputs) := route text now supervisor.router value
    some (outputs.foldl deliver { supervisor with raw := raw, router := router })

/-! ### The task of the bars -/

def liveReady : Bool :=
  decide (config.hub.symbols.length ≤ supervisor.liveSymbols.length) &&
    supervisor.positionsSynced && supervisor.ordersSynced && supervisor.stopOrdersSynced &&
    decide (supervisor.desiredSubscriptionsCount ≤ supervisor.activeSubscriptionsCount) &&
    supervisor.cwsAuthorized

/-- A bar is taken: its symbol may be live from now on, and the bar is kept back during a gap;
then it is decided whether the gateway is ready. -/
def checkBar (bar : BarEvent) : Supervisor :=
  let supervisor :=
    if bar.origin = .live then
      { supervisor.record (.liveBar bar.symbol) with
        liveSymbols := supervisor.liveSymbols.insert bar.symbol }
    else supervisor
  if supervisor.phase = .syncingGap ∧ bar.origin = .live then
    { supervisor with
      pendingLiveUpdates := supervisor.pendingLiveUpdates.insert bar.symbol
        ((supervisor.pendingLiveUpdates.lookup bar.symbol).getD [] ++ [bar])
      checking := some ⟨bar, true, supervisor.liveReady config⟩ }
  else { supervisor with checking := some ⟨bar, false, supervisor.liveReady config⟩ }

def becomeLiveReady : Supervisor :=
  if supervisor.phase = .syncingGap then
    { supervisor with
      lastEmittedBarTs :=
        flushPendingLive sent supervisor.pendingLiveUpdates supervisor.lastEmittedBarTs
      pendingLiveUpdates := ∅
      resyncInProgress := false }.transitionPhase .liveReady
  else if supervisor.phase ≠ .liveReady then
    { supervisor with resyncInProgress := false }.transitionPhase .liveReady
  else supervisor

/-- The bar that was looked at is emitted, unless it was kept back or is not valid: whether the task
goes on with it, and the times of the bars that were emitted. -/
def emitChecked (check : BarCheck) : Bool × AList fun _ : String => ℤ :=
  let last := supervisor.lastEmittedBarTs
  if check.buffered then (true, last)
  else if validateBar config now check.bar (last.lookup check.bar.symbol) then
    emitBar sent last check.bar
  else (false, last)

/-- The gateway becomes ready after a bar, if that was decided. -/
def finishBar (check : BarCheck) : Supervisor :=
  let (emitted, lastEmitted) := supervisor.emitChecked config now sent check
  let supervisor := { supervisor with checking := none, lastEmittedBarTs := lastEmitted }
  if emitted && check.liveReady then supervisor.becomeLiveReady sent else supervisor

/-- The bars have been silent for too long: the hub is asked to subscribe again. -/
def resubscribe (config : SupervisorConfig) (now : ℤ) (supervisor : Supervisor) : Supervisor :=
  let plan := computeBackfillPlan config now supervisor.lastEmittedBarTs
  let supervisor := { supervisor with backfillPlan := plan }
  let supervisor := supervisor.transitionPhase <|
    match plan.mode with
    | .warm => .syncingGap
    | .cold => .syncingHistory
  { supervisor with
    resyncInProgress := true
    hubCommands := supervisor.hubCommands ++ [.resubscribe] }

/-! ### Steps -/

/-- What one of the tasks does next, or the authorization of the command websocket. -/
inductive Step where
  | hub (step : HubStep)
  | wsEvent (now : ℤ)
  | routerCommand
  | routeRaw (now : ℤ)
  | managePosition
  | manageOrder
  | manageStopOrder
  | checkBar
  | finishBar (now : ℤ) (sent : Bool)
  | silence (now : ℤ)
  | shutdown
  | authorize (authorized : Bool)

def step (text : RouterText) (config : SupervisorConfig) (supervisor : Supervisor) :
    Step → Option Supervisor
  | .hub step =>
    (supervisor.hub.step config.hub supervisor.backfillPlan supervisor.hubCommands step).map
      fun (hub, events, commands) =>
        { supervisor with
          hub := hub, wsEvents := supervisor.wsEvents ++ events, hubCommands := commands }
  | .wsEvent now =>
    match supervisor.wsEvents with
    | [] => none
    | event :: wsEvents =>
      some ({ supervisor with wsEvents := wsEvents }.handleWsEvent config now event)
  | .routerCommand =>
    match supervisor.routerCommands with
    | [] => none
    | (wallclockTs, historyOrigin) :: routerCommands =>
      some { supervisor with
        routerCommands := routerCommands
        router := updateSubscribeWallclock config.tfSec wallclockTs historyOrigin supervisor.router }
  | .routeRaw now => supervisor.routeRaw text now
  | .managePosition =>
    match supervisor.positions with
    | [] => none
    | _ :: positions => some { supervisor with positions := positions, positionsSynced := true }
  | .manageOrder =>
    match supervisor.orders with
    | [] => none
    | _ :: orders => some { supervisor with orders := orders, ordersSynced := true }
  | .manageStopOrder =>
    match supervisor.stopOrders with
    | [] => none
    | _ :: stopOrders => some { supervisor with stopOrders := stopOrders, stopOrdersSynced := true }
  | .checkBar =>
    match supervisor.checking, supervisor.bars with
    | none, bar :: bars => some ({ supervisor with bars := bars }.checkBar config bar)
    | _, _ => none
  | .finishBar now sent =>
    supervisor.checking.map fun check => supervisor.finishBar config now sent check
  | .silence now =>
    if supervisor.phase = .liveReady ∧ supervisor.wsConnected ∧ !supervisor.resyncInProgress then
      some (supervisor.resubscribe config now)
    else none
  | .shutdown => some { supervisor with hubCommands := supervisor.hubCommands ++ [.shutdown] }
  | .authorize authorized => some { supervisor with cwsAuthorized := authorized }

/-- The supervisor after steps that are all allowed. -/
inductive Reached (text : RouterText) (config : SupervisorConfig)
    (allowed : Supervisor → Step → Prop) : Supervisor → Prop
  | start : Reached text config allowed (.start config)
  | step {supervisor supervisor' : Supervisor} (step : Step) :
    Reached text config allowed supervisor → allowed supervisor step →
      supervisor.step text config step = some supervisor' → Reached text config allowed supervisor'

end Supervisor

end AlorRs.Gateway
