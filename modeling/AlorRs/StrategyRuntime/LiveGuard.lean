import AlorRs.StrategyRuntime.StrategyHost

/-!
# The live guard

`evaluateLiveGuard` lists the reasons why live orders are held back; none means they are not.
-/

namespace AlorRs

def asI64 (n : ℕ) : ℤ := (BitVec.ofNat 64 n).toInt

def i64Max : ℤ := 2 ^ 63 - 1

def saturatingAdd (a b : ℤ) : ℤ := max (-2 ^ 63) (min i64Max (a + b))

def saturatingSub (a b : ℤ) : ℤ := max (-2 ^ 63) (min i64Max (a - b))

structure HealthEvent where
  gatewayPhase : GatewayPhase
  readiness : Bool
  wsConnected : Bool
  cwsAuthorized : Bool
  lastEventTs : ℤ
deriving DecidableEq, Repr

/-- The last health event seen. -/
structure LiveGuardState where
  health : Option HealthEvent
deriving DecidableEq, Repr

structure LiveGuardDecision where
  allowed : Bool
  reasons : List String
deriving DecidableEq, Repr

def GatewayPhase.debug : GatewayPhase → String
  | .syncingHistory => "SyncingHistory"
  | .reconnecting => "Reconnecting"
  | .syncingGap => "SyncingGap"
  | .liveReady => "LiveReady"

def TradeMode.debug : TradeMode → String
  | .live => "Live"
  | .paper => "Paper"
  | .backtest => "Backtest"

namespace LiveGuardState

variable (state : LiveGuardState)

/-- `is_stale`: no health event, or one that is too old. -/
def isStale (now : ℤ) (gatewayHealthStaleSec : ℕ) : Bool :=
  match state.health with
  | none => true
  | some health =>
    health.lastEventTs ≤ 0 ||
      min (gatewayHealthStaleSec : ℤ) i64Max < saturatingSub now health.lastEventTs

def evaluate (tradeMode : TradeMode) (allowLiveOrders hasBars barsStreamHasData : Bool) (now : ℤ)
    (gatewayHealthStaleSec : ℕ) (requireGatewayReady : Bool) : LiveGuardDecision :=
  let phase := (state.health.map (·.gatewayPhase)).getD .syncingHistory
  let reasons :=
    (if tradeMode ≠ .live then ["trade_mode=" ++ tradeMode.debug] else []) ++
    (if !allowLiveOrders then ["allow_live_orders=false"] else []) ++
    (if tradeMode = .live && !hasBars then
      (if barsStreamHasData then ["waiting_for_next_bar_after_restart"]
        else ["waiting_for_first_bar"])
      else []) ++
    (if phase ≠ .liveReady then ["phase=" ++ phase.debug] else []) ++
    (if state.isStale now gatewayHealthStaleSec then ["gateway_health_stale"] else []) ++
    (if requireGatewayReady then
      (if !(state.health.any (·.readiness)) then ["gateway_ready=false"] else []) ++
      (if !(state.health.any (·.wsConnected)) then ["ws_connected=false"] else []) ++
      (if !(state.health.any (·.cwsAuthorized)) then ["cws_authorized=false"] else [])
      else [])
  ⟨reasons.isEmpty, reasons⟩

end LiveGuardState

/-- What the bootstrap has seen so far. -/
structure BootstrapState where
  ordersSnapshotLoaded : Bool
  positionsSnapshotLoaded : Bool
  seenLiveBar : Bool
deriving DecidableEq, Repr

namespace BootstrapState

variable (state : BootstrapState)

def ready : Bool :=
  state.ordersSnapshotLoaded && state.positionsSnapshotLoaded && state.seenLiveBar

def reasons : List String :=
  if state.ready then []
  else
    ["bootstrap:not_ready"] ++
    (if !state.ordersSnapshotLoaded then ["bootstrap:missing_orders_snapshot"] else []) ++
    (if !state.positionsSnapshotLoaded then ["bootstrap:missing_positions_snapshot"] else []) ++
    (if !state.seenLiveBar then ["bootstrap:missing_live_bar"] else [])

end BootstrapState

end AlorRs
