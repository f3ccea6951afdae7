import AlorRs.Gateway.CommandConsumer
import AlorRs.Gateway.CwsClient

/-!
# The control path

Before a limit command goes through the long-lived websocket, its control path must be fresh.  A path
that is stale is recycled: the session is told to reconnect, and the call waits for a new connection.
After that an entry still needs a fresh path, while an exit is armed: it may be sent once, through the
new connection and within a window, although nothing has shown the path to be fresh.

The calls, the session and the ticker share the health of the gateway.  Each step is what one of them
does to it under one lock, so that the steps come in any order.
-/

namespace AlorRs.Gateway

/-! ### Clocks and totals -/

/-- An instant of the monotonic clock, which counts nanoseconds in 64 bits. -/
structure Instant where
  nanos : ℕ
  inRange : nanos < 2 ^ 64
deriving DecidableEq

namespace Instant

def elapsed (since now : Instant) : ℕ := now.nanos - since.nanos

def elapsedMs (since now : Instant) : ℕ := since.elapsed now / 10 ^ 6 % 2 ^ 64

end Instant

def bump (total : ℕ) : ℕ := min (total + 1) (2 ^ 64 - 1)

/-! ### Health -/

structure ControlPathHealth where
  readiness : Bool
  cwsAuthorized : Bool
  cwsConnectionInstanceId : Option String
  cwsLastAuthorizeTsUtc : Option ℤ
  cwsLastRxAt : Option Instant
  cwsLastTxAt : Option Instant
  cwsLastControlSuccessAt : Option Instant
  cwsLastControlFailureAt : Option Instant
  cwsLastPingAt : Option Instant
  cwsLastPongAt : Option Instant
  controlPathStaleAfterSec : ℕ
  controlPathStaleDetectedTotal : ℕ
  controlPathRecycleTotal : ℕ
  controlPathRecycleSuccessTotal : ℕ
  controlPathRecycleFailedTotal : ℕ
  controlPathStaleBlockedSendTotal : ℕ
  postRecycleExitSendArmed : Bool
  postRecycleExitSendUsed : Bool
  postRecycleExitSendWindowMs : Option ℕ
  postRecycleExitSendResult : Option String
  freshCwsAuthorizedAfterRecycle : Bool
  freshCwsConnInstanceId : Option String
  freshCwsAuthorizeTsUtc : Option ℤ
  staleBlockReason : Option String
  postRecycleExitSendArmedTotal : ℕ
  postRecycleExitSendAttemptTotal : ℕ
  postRecycleExitSendSuccessTotal : ℕ
  postRecycleExitSendFailedTotal : ℕ
  postRecycleExitSendBlockedTotal : ℕ
  postRecycleExitSendArmedAt : Option Instant
  postRecycleExitSendExpectedConnInstanceId : Option String
  postRecycleExitSendRequestId : Option Uuid
deriving DecidableEq

structure ControlPathStaleStatus where
  stale : Bool
  reason : Option String
  staleForMs : Option ℕ
  lastRxAgeMs : Option ℕ
  lastTxAgeMs : Option ℕ
  lastControlSuccessAgeMs : Option ℕ
  lastControlFailureAgeMs : Option ℕ
  lastPingPongAgeMs : Option ℕ
deriving DecidableEq, Repr

def ageMs (value : Option Instant) (now : Instant) : Option ℕ :=
  value.map fun instant => instant.elapsedMs now

def minAgeMs (first second : Option Instant) (now : Instant) : Option ℕ :=
  match ageMs first now, ageMs second now with
  | some left, some right => some (min left right)
  | some left, none => some left
  | none, some right => some right
  | none, none => none

namespace ControlPathHealth

def start (controlPathStaleAfterSec : ℕ) : ControlPathHealth where
  readiness := false
  cwsAuthorized := false
  cwsConnectionInstanceId := none
  cwsLastAuthorizeTsUtc := none
  cwsLastRxAt := none
  cwsLastTxAt := none
  cwsLastControlSuccessAt := none
  cwsLastControlFailureAt := none
  cwsLastPingAt := none
  cwsLastPongAt := none
  controlPathStaleAfterSec := controlPathStaleAfterSec
  controlPathStaleDetectedTotal := 0
  controlPathRecycleTotal := 0
  controlPathRecycleSuccessTotal := 0
  controlPathRecycleFailedTotal := 0
  controlPathStaleBlockedSendTotal := 0
  postRecycleExitSendArmed := false
  postRecycleExitSendUsed := false
  postRecycleExitSendWindowMs := none
  postRecycleExitSendResult := none
  freshCwsAuthorizedAfterRecycle := false
  freshCwsConnInstanceId := none
  freshCwsAuthorizeTsUtc := none
  staleBlockReason := none
  postRecycleExitSendArmedTotal := 0
  postRecycleExitSendAttemptTotal := 0
  postRecycleExitSendSuccessTotal := 0
  postRecycleExitSendFailedTotal := 0
  postRecycleExitSendBlockedTotal := 0
  postRecycleExitSendArmedAt := none
  postRecycleExitSendExpectedConnInstanceId := none
  postRecycleExitSendRequestId := none

/-- Why and since when the path is stale. -/
def staleReason (thresholdMs : ℕ) (lastControlSuccessAgeMs lastTxAgeMs : Option ℕ) :
    Option (String × ℕ) :=
  match lastControlSuccessAgeMs, lastTxAgeMs with
  | some age, none =>
    if thresholdMs < age then some ("cws_last_control_success_age_ms_exceeded", age - thresholdMs)
    else none
  | some age, some txAge =>
    if thresholdMs < age then some ("cws_last_control_success_age_ms_exceeded", age - thresholdMs)
    else if thresholdMs < txAge then some ("cws_last_tx_age_ms_exceeded", txAge - thresholdMs)
    else none
  | none, some txAge =>
    if thresholdMs < txAge then
      some ("cws_last_control_success_missing_and_cws_last_tx_age_ms_exceeded", txAge - thresholdMs)
    else none
  | none, none => none

variable (health : ControlPathHealth)

def evaluateControlPathStale (now : Instant) : ControlPathStaleStatus :=
  let thresholdMs := min (health.controlPathStaleAfterSec * 1000) (2 ^ 64 - 1)
  let lastTxAgeMs := ageMs health.cwsLastTxAt now
  let lastControlSuccessAgeMs := ageMs health.cwsLastControlSuccessAt now
  let reason :=
    if thresholdMs = 0 then none else staleReason thresholdMs lastControlSuccessAgeMs lastTxAgeMs
  { stale := reason.isSome
    reason := reason.map Prod.fst
    staleForMs := reason.map Prod.snd
    lastRxAgeMs := ageMs health.cwsLastRxAt now
    lastTxAgeMs := lastTxAgeMs
    lastControlSuccessAgeMs := lastControlSuccessAgeMs
    lastControlFailureAgeMs := ageMs health.cwsLastControlFailureAt now
    lastPingPongAgeMs := minAgeMs health.cwsLastPingAt health.cwsLastPongAt now }

def resetPostRecycleExitSendState : ControlPathHealth :=
  { health with
    postRecycleExitSendArmed := false
    postRecycleExitSendUsed := false
    postRecycleExitSendWindowMs := none
    postRecycleExitSendResult := none
    freshCwsAuthorizedAfterRecycle := false
    freshCwsConnInstanceId := none
    freshCwsAuthorizeTsUtc := none
    staleBlockReason := none
    postRecycleExitSendArmedAt := none
    postRecycleExitSendExpectedConnInstanceId := none
    postRecycleExitSendRequestId := none }

def markCwsUnauthorized : ControlPathHealth :=
  { health with cwsAuthorized := false }.resetPostRecycleExitSendState

/-! ### The send of an exit after a recycle -/

def blockedReason (requestId : Uuid) (currentConnectionInstanceId : Option String) (now : Instant)
    : Option String :=
  let windowExpired :=
    match health.postRecycleExitSendArmedAt, health.postRecycleExitSendWindowMs with
    | some armedAt, some limitMs => decide (limitMs < armedAt.elapsedMs now)
    | _, _ => false
  if !health.postRecycleExitSendArmed then some "not_armed"
  else if health.postRecycleExitSendUsed then some "already_used"
  else if health.postRecycleExitSendRequestId ≠ some requestId then some "request_mismatch"
  else if health.postRecycleExitSendExpectedConnInstanceId ≠ currentConnectionInstanceId then
    some "connection_mismatch"
  else if windowExpired then some "window_expired"
  else none

def beginPostRecycleExitSend (requestId : Uuid) (currentConnectionInstanceId : Option String)
    (now : Instant) : Except ControlPathFailure Unit × ControlPathHealth :=
  match health.blockedReason requestId currentConnectionInstanceId now with
  | some reason =>
    (.error ⟨"control_path_recycle_failed", "post-recycle exit send unavailable: " ++ reason⟩,
      { health with
        postRecycleExitSendArmed := false
        postRecycleExitSendResult :=
          some (if reason = "window_expired" then "window_expired" else "blocked")
        postRecycleExitSendBlockedTotal := bump health.postRecycleExitSendBlockedTotal
        postRecycleExitSendRequestId := none
        postRecycleExitSendExpectedConnInstanceId := none
        postRecycleExitSendArmedAt := none })
  | none =>
    (.ok (),
      { health with
        postRecycleExitSendUsed := true
        postRecycleExitSendArmed := false
        postRecycleExitSendResult := some "attempted"
        postRecycleExitSendAttemptTotal := bump health.postRecycleExitSendAttemptTotal
        postRecycleExitSendRequestId := none
        postRecycleExitSendExpectedConnInstanceId := none
        postRecycleExitSendArmedAt := none })

def finishPostRecycleExitSend (success : Bool) : ControlPathHealth :=
  if success then
    { health with
      postRecycleExitSendSuccessTotal := bump health.postRecycleExitSendSuccessTotal
      postRecycleExitSendResult := some "success" }
  else
    { health with
      postRecycleExitSendFailedTotal := bump health.postRecycleExitSendFailedTotal
      postRecycleExitSendResult := some "failed" }

end ControlPathHealth

/-! ### Calls -/

inductive ControlPathAdmissionPolicy where
  | entry | exitRiskReducing
deriving DecidableEq, Repr

def ControlPathAdmissionPolicy.allowsPostRecycleExitSend : ControlPathAdmissionPolicy → Bool
  | .entry => false
  | .exitRiskReducing => true

structure ControlPathRecycleOutcome where
  recycled : Bool
  staleReason : Option String
  staleForMs : Option ℕ
  previousConnectionInstanceId : Option String
  currentConnectionInstanceId : Option String
  postRecycleExitSendArmed : Bool
deriving DecidableEq, Repr

/-- Where a call of `ensure_fresh_control_path_for_live_limit_command` is: what it does at its next
lock, and what it has seen so far. -/
inductive EnsurePhase where
  | checking
  | detected (stale : ControlPathStaleStatus) (connectionInstanceId : Option String)
  | locking
  | rechecking
  | recycling (stale : ControlPathStaleStatus) (connectionInstanceId : Option String)
  | sending (stale : ControlPathStaleStatus) (connectionInstanceId : Option String)
  | polling (stale : ControlPathStaleStatus) (connectionInstanceId : Option String)
    (startedAt : Instant)
  | ready (stale : ControlPathStaleStatus) (connectionInstanceId : Option String)
    (freshConnInstanceId : Option String) (authorizeTsUtc : Option ℤ)
  | expired (reason : Option String)
  | returned
deriving DecidableEq

/-- The call waits for a lock, for room in the channel or for the next poll, and may be dropped. -/
def EnsurePhase.awaits : EnsurePhase → Bool
  | .locking | .sending _ _ | .polling _ _ _ => true
  | .checking | .detected _ _ | .rechecking | .recycling _ _ | .ready _ _ _ _ | .expired _
  | .returned => false

/-- A call with its arguments; the durations are in nanoseconds. -/
structure EnsureCall where
  requestId : Uuid
  policy : ControlPathAdmissionPolicy
  recycleTimeout : ℕ
  postRecycleExitSendWindow : ℕ
  logOnly : Bool
  phase : EnsurePhase
deriving DecidableEq

/-- What is recorded: a call looks at the path, asks for a recycle, arms a send or returns; a send
begins, is blocked or is finished; the session is unauthorized, perhaps as it takes a recycle. -/
inductive ControlPathEntry where
  | looked (call : ℕ) (stale : Bool)
  | recycling (call : ℕ) (reason : String)
  | armed (requestId : Uuid) (connectionInstanceId : Option String) (windowMs : ℕ) (at' : Instant)
  | returned (call : ℕ) (policy : ControlPathAdmissionPolicy) (logOnly : Bool)
    (result : Except ControlPathFailure ControlPathRecycleOutcome)
  | began (requestId : Uuid) (connectionInstanceId : Option String) (at' : Instant)
  | blocked (requestId : Uuid) (failure : ControlPathFailure)
  | finished (requestId : Uuid) (success : Bool)
  | unauthorized (recycled : Bool)

/-- The health, the channel of the session with the lock of the recycles, and the calls. -/
structure ControlPath where
  health : ControlPathHealth
  queue : List SessionCommand
  loopAlive : Bool
  recycleGuard : Option ℕ
  calls : List EnsureCall

namespace ControlPath

def start (controlPathStaleAfterSec : ℕ) : ControlPath :=
  ⟨.start controlPathStaleAfterSec, [], true, none, []⟩

variable (path : ControlPath) (n : ℕ) (health : ControlPathHealth) (call : EnsureCall)
  (stale : ControlPathStaleStatus) (connectionInstanceId : Option String)

def setPhase (phase : EnsurePhase) : ControlPath :=
  { path with calls := path.calls.set n { call with phase := phase } }

/-- The lock of the recycles is released, if the call has it. -/
def release : ControlPath :=
  if path.recycleGuard = some n then { path with recycleGuard := none } else path

/-- A call returns. -/
def answer (result : Except ControlPathFailure ControlPathRecycleOutcome) :
    ControlPath × List ControlPathEntry :=
  ((path.setPhase n call .returned).release n, [.returned n call.policy call.logOnly result])

def notRecycled (staleReason : Option String) (staleForMs : Option ℕ)
    (connectionInstanceId : Option String) : ControlPathRecycleOutcome :=
  ⟨false, staleReason, staleForMs, connectionInstanceId, connectionInstanceId, false⟩

/-- A call looks at the path before it recycles it. -/
def check (now : Instant) (next : ControlPathStaleStatus → Option String → EnsurePhase) :
    ControlPath × List ControlPathEntry :=
  let stale := path.health.evaluateControlPathStale now
  let connectionInstanceId := path.health.cwsConnectionInstanceId
  if stale.stale then
    (path.setPhase n call (next stale connectionInstanceId), [.looked n true])
  else
    let (path, entries) := path.answer n call (.ok (notRecycled none none connectionInstanceId))
    (path, .looked n false :: entries)

def armPostRecycleExitSend (staleReason freshConnInstanceId : Option String)
    (authorizeTsUtc : Option ℤ) (now : Instant) (nowTsUtc : ℤ) : ControlPathHealth :=
  { health with
    postRecycleExitSendArmed := true
    postRecycleExitSendUsed := false
    postRecycleExitSendWindowMs := some (min (call.postRecycleExitSendWindow / 10 ^ 6) (2 ^ 64 - 1))
    postRecycleExitSendResult := none
    freshCwsAuthorizedAfterRecycle := true
    freshCwsConnInstanceId := freshConnInstanceId
    freshCwsAuthorizeTsUtc := some (authorizeTsUtc.getD nowTsUtc)
    staleBlockReason := staleReason
    postRecycleExitSendArmedTotal := bump health.postRecycleExitSendArmedTotal
    postRecycleExitSendArmedAt := some now
    postRecycleExitSendExpectedConnInstanceId := freshConnInstanceId
    postRecycleExitSendRequestId := some call.requestId }

/-- The recycle is done: an exit is armed, and the call returns. -/
def finishRecycle (freshConnInstanceId : Option String) (authorizeTsUtc : Option ℤ) (now : Instant)
    (nowTsUtc : ℤ) : ControlPath × List ControlPathEntry :=
  let arms := call.policy.allowsPostRecycleExitSend
  let health : ControlPathHealth :=
    { path.health with
      controlPathRecycleSuccessTotal := bump path.health.controlPathRecycleSuccessTotal }
  let outcome : ControlPathRecycleOutcome :=
    ⟨true, stale.reason, stale.staleForMs, connectionInstanceId, freshConnInstanceId, arms⟩
  if arms then
    let (path, entries) :=
      { path with
        health := armPostRecycleExitSend health call stale.reason freshConnInstanceId
          authorizeTsUtc now nowTsUtc }.answer n call (.ok outcome)
    (path, .armed call.requestId freshConnInstanceId
      (min (call.postRecycleExitSendWindow / 10 ^ 6) (2 ^ 64 - 1)) now :: entries)
  else { path with health := health }.answer n call (.ok outcome)

def failRecycle (health : ControlPathHealth) (message : String)
    : ControlPath × List ControlPathEntry :=
  { path with
    health :=
      { health with
        controlPathRecycleFailedTotal := bump health.controlPathRecycleFailedTotal
        controlPathStaleBlockedSendTotal := bump health.controlPathStaleBlockedSendTotal } }.answer n
    call (.error ⟨"control_path_recycle_failed", message⟩)

/-- A new connection is there; an entry also needs a fresh path. -/
def isReady (policy : ControlPathAdmissionPolicy) (previousConnectionInstanceId : Option String)
    (stale : Bool) : Bool :=
  let established := health.readiness && health.cwsAuthorized &&
    health.cwsConnectionInstanceId.isSome &&
    decide (health.cwsConnectionInstanceId ≠ previousConnectionInstanceId)
  if policy.allowsPostRecycleExitSend then established else established && !stale

/-- A call waits for a new connection. -/
def poll (startedAt now : Instant) : ControlPath × List ControlPathEntry :=
  let health := path.health
  let status := health.evaluateControlPathStale now
  let looked := [ControlPathEntry.looked n status.stale]
  if isReady health call.policy connectionInstanceId status.stale then
    (path.setPhase n call (.ready stale connectionInstanceId health.cwsConnectionInstanceId
      health.cwsLastAuthorizeTsUtc), looked)
  else if call.recycleTimeout ≤ startedAt.elapsed now then
    (path.setPhase n call (.expired status.reason), looked)
  else (path, looked)

/-- What a call of `ensure_fresh_control_path_for_live_limit_command` does at its next lock. -/
def advance (now : Instant) (nowTsUtc : ℤ) : ControlPath × List ControlPathEntry :=
  match call.phase with
  | .checking => path.check n call now .detected
  | .detected stale connectionInstanceId =>
    let path : ControlPath :=
      { path with
        health :=
          { path.health with
            controlPathStaleDetectedTotal := bump path.health.controlPathStaleDetectedTotal } }
    if call.logOnly then
      path.answer n call (.ok (notRecycled stale.reason stale.staleForMs connectionInstanceId))
    else (path.setPhase n call .locking, [])
  | .locking =>
    if path.recycleGuard.isNone then
      ({ path with recycleGuard := some n }.setPhase n call .rechecking, [])
    else (path, [])
  | .rechecking => path.check n call now .recycling
  | .recycling stale connectionInstanceId =>
    ({ path with
        health :=
          { path.health with
            controlPathRecycleTotal := bump path.health.controlPathRecycleTotal } }.setPhase n call
      (.sending stale connectionInstanceId), [])
  | .sending stale connectionInstanceId =>
    let reason := stale.reason.getD "control_path_stale"
    if !path.loopAlive then
      path.failRecycle n call path.health "cws recycle command channel closed"
    else if path.queue.length < CwsClient.channelCapacity then
      ({ path with queue := path.queue ++ [SessionCommand.recycle reason] }.setPhase n call
        (.polling stale connectionInstanceId now), [.recycling n reason])
    else (path, [])
  | .polling stale connectionInstanceId startedAt =>
    path.poll n call stale connectionInstanceId startedAt now
  | .ready stale connectionInstanceId freshConnInstanceId authorizeTsUtc =>
    path.finishRecycle n call stale connectionInstanceId freshConnInstanceId authorizeTsUtc now nowTsUtc
  | .expired reason =>
    path.failRecycle n call { path.health with staleBlockReason := reason }
      "fresh cws session was not ready before recycle timeout"
  | .returned => (path, [])

/-! ### The session -/

/-- What the task of the session does to the health. -/
inductive SessionEvent where
  | connected (connectionInstanceId : String)
  | authorizing (at' : Instant)
  | received (at' : Instant)
  | authorized (tsUtc : ℤ)
  | takes (at' : Instant)
  | resolved (success : Bool) (at' : Instant)
  | ping (at' : Instant)
  | pong (at' : Instant)
  | lost
  | ended

def unauthorize (path : ControlPath) (recycled : Bool) : ControlPath × List ControlPathEntry :=
  ({ path with health := path.health.markCwsUnauthorized }, [.unauthorized recycled])

/-- One lock of `run_session`, of `authorize` or of the loop around them. -/
def sessionStep : SessionEvent → ControlPath × List ControlPathEntry
  | .connected connectionInstanceId =>
    let (path, entries) := path.unauthorize false
    ({ path with
        health :=
          { path.health with
            cwsConnectionInstanceId := some connectionInstanceId
            cwsLastRxAt := none
            cwsLastTxAt := none
            cwsLastPingAt := none
            cwsLastPongAt := none } }, entries)
  | .authorizing at' => ({ path with health := { path.health with cwsLastTxAt := some at' } }, [])
  | .received at' => ({ path with health := { path.health with cwsLastRxAt := some at' } }, [])
  | .authorized tsUtc =>
    ({ path with
        health := { path.health with cwsAuthorized := true, cwsLastAuthorizeTsUtc := some tsUtc } }, [])
  | .takes at' =>
    match path.queue with
    | [] => (path, [])
    | .send _ :: queue =>
      ({ path with queue := queue, health := { path.health with cwsLastTxAt := some at' } }, [])
    | .recycle _ :: queue => { path with queue := queue }.unauthorize true
  | .resolved success at' =>
    -- `update_control_result_counters`
    if success then
      ({ path with health := { path.health with cwsLastControlSuccessAt := some at' } }, [])
    else ({ path with health := { path.health with cwsLastControlFailureAt := some at' } }, [])
  | .ping at' => ({ path with health := { path.health with cwsLastPingAt := some at' } }, [])
  | .pong at' => ({ path with health := { path.health with cwsLastPongAt := some at' } }, [])
  | .lost => path.unauthorize false
  | .ended => ({ path with loopAlive := false }, [])

/-! ### Steps -/

/-- What happens next: a call begins, goes on, or is dropped while it waits; a send of an exit begins or
is finished; a command is queued; the session goes on; the ticker tells whether the gateway is ready. -/
inductive Step where
  | ensure (requestId : Uuid) (policy : ControlPathAdmissionPolicy)
    (recycleTimeout postRecycleExitSendWindow : ℕ) (logOnly : Bool)
  | advance (n : ℕ) (now : Instant) (nowTsUtc : ℤ)
  | drop (n : ℕ)
  | beginSend (requestId : Uuid) (currentConnectionInstanceId : Option String) (now : Instant)
  | finishSend (requestId : Uuid) (success : Bool)
  | send (command : CwsCommand)
  | session (event : SessionEvent)
  | tick (readiness : Bool)

def beginSend (requestId : Uuid) (currentConnectionInstanceId : Option String) (now : Instant)
    : ControlPath × List ControlPathEntry :=
  match path.health.beginPostRecycleExitSend requestId currentConnectionInstanceId now with
  | (.ok (), health) =>
    ({ path with health := health }, [.began requestId currentConnectionInstanceId now])
  | (.error failure, health) => ({ path with health := health }, [.blocked requestId failure])

/-- One step; a step that cannot be taken does nothing. -/
def step : Step → ControlPath × List ControlPathEntry
  | .ensure requestId policy recycleTimeout postRecycleExitSendWindow logOnly =>
    ({ path with
        calls := path.calls ++
          [⟨requestId, policy, recycleTimeout, postRecycleExitSendWindow, logOnly, .checking⟩] }, [])
  | .advance n now nowTsUtc =>
    match path.calls[n]? with
    | some call => path.advance n call now nowTsUtc
    | none => (path, [])
  | .drop n =>
    match path.calls[n]? with
    | some call =>
      if call.phase.awaits then ((path.setPhase n call .returned).release n, []) else (path, [])
    | none => (path, [])
  | .beginSend requestId currentConnectionInstanceId now =>
    path.beginSend requestId currentConnectionInstanceId now
  | .finishSend requestId success =>
    ({ path with health := path.health.finishPostRecycleExitSend success },
      [.finished requestId success])
  | .send command =>
    if path.loopAlive && decide (path.queue.length < CwsClient.channelCapacity) then
      ({ path with queue := path.queue ++ [.send command] }, [])
    else (path, [])
  | .session event => path.sessionStep event
  | .tick readiness => ({ path with health := { path.health with readiness := readiness } }, [])

end ControlPath

end AlorRs.Gateway
