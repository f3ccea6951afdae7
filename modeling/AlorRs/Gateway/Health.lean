import AlorRs.Gateway.Supervisor
import AlorRs.StrategyRuntime.LiveGuard

/-!
# The health of the gateway

The supervisor with what it reports of itself: whether the queue of the raw messages overflowed,
when the websocket was last heard, and whether the gateway is ready.  The task of the hub's events
writes the first two as it goes, and a ticker computes the readiness every few seconds.
-/

namespace AlorRs.Gateway

structure HealthConfig extends SupervisorConfig where
  wsIdleTimeoutSec : ℕ

/-- The fields of `HealthState` that the readiness depends on and that are nobody else's. -/
structure HealthState where
  backpressureLagged : Bool
  readiness : Bool
  wsLastRxTs : ℤ
deriving DecidableEq, Repr

def HealthState.default : HealthState := ⟨false, false, 0⟩

/-- What the task of the hub's events reports of an event of the current generation. -/
def HealthState.handleCurrent (supervisor : Supervisor) (health : HealthState) :
    WsEvent → HealthState
  | .raw _ _ =>
    if supervisor.raw.length < Supervisor.rawCapacity then { health with backpressureLagged := false }
    else { health with backpressureLagged := true, readiness := false }
  | .wsRx ts _ => { health with wsLastRxTs := ts }
  | _ => health

def HealthState.handle (supervisor : Supervisor) (health : HealthState) (event : WsEvent) :
    HealthState :=
  if event.generation ≠ supervisor.currentGeneration then health
  else health.handleCurrent supervisor event

def HealthState.wsLastRxAgeSec (health : HealthState) (now : ℤ) : ℕ :=
  if 0 < health.wsLastRxTs then (saturatingSub now health.wsLastRxTs % 2 ^ 64).toNat else 0

/-- The supervisor with its health. -/
structure MonitoredGateway where
  supervisor : Supervisor
  health : HealthState

namespace MonitoredGateway

def start (config : HealthConfig) : MonitoredGateway := ⟨.start config.toSupervisorConfig, .default⟩

def readiness (config : HealthConfig) (gateway : MonitoredGateway) (now : ℤ) : Bool :=
  decide (gateway.supervisor.phase = .liveReady) && gateway.supervisor.wsConnected &&
    !gateway.health.backpressureLagged &&
    decide (gateway.health.wsLastRxAgeSec now ≤ config.wsIdleTimeoutSec) &&
    decide (gateway.supervisor.desiredSubscriptionsCount ≤
      gateway.supervisor.activeSubscriptionsCount) &&
    gateway.supervisor.cwsAuthorized

/-- A step of one of the supervisor's tasks, or a tick. -/
inductive MonitorStep where
  | supervise (step : Supervisor.Step)
  | tick (now : ℤ)

def healthAfter (gateway : MonitoredGateway) : Supervisor.Step → HealthState
  | .wsEvent _ =>
    match gateway.supervisor.wsEvents with
    | [] => gateway.health
    | event :: _ => gateway.health.handle gateway.supervisor event
  | _ => gateway.health

/-- One step; one that cannot be taken changes nothing. -/
def act (text : RouterText) (config : HealthConfig) (gateway : MonitoredGateway) :
    MonitorStep → MonitoredGateway × Unit
  | .supervise step =>
    (match gateway.supervisor.step text config.toSupervisorConfig step with
      | some supervisor => ⟨supervisor, gateway.healthAfter step⟩
      | none => gateway,
      ())
  | .tick now =>
    ({ gateway with health := { gateway.health with readiness := gateway.readiness config now } }, ())

end MonitoredGateway

end AlorRs.Gateway
