import AlorRs.Gateway.CwsFailure
import AlorRs.Gateway.Json
import AlorRs.Lib.Effect
import AlorRs.StrategyRuntime.StrategyHost
import AlorRs.Types.Scheduler
import Mathlib.Data.List.AList
import Mathlib.Data.Rat.Floor

/-!
# The command consumer

A command is marked as seen, validated, sent through the command websocket and answered; its
message is acknowledged last.  Each of these steps may be the last one that the process takes.
-/

namespace AlorRs.Gateway

/-! ### Configuration -/

inductive ControlCwsMode where
  | legacyLongLived | actionScoped
deriving DecidableEq, Repr

/-- The part of `CommandConsumerConfig` that decides how a command is sent. -/
structure CommandConsumerConfig where
  pauseWhenDegraded : Bool
  controlPathPreEntryRecycleEnabled : Bool
  controlPathPreExitRecycleEnabled : Bool
  controlCwsMode : ControlCwsMode
  actionScopeEnableCreateLimit : Bool
  actionScopeEnableMarket : Bool
  actionScopeEnableDeleteLimit : Bool
  actionScopeEnableExit : Bool
deriving DecidableEq, Repr

/-- What the consumer reads of the gateway's health. -/
structure ConsumerHealth where
  gatewayPhase : GatewayPhase
  eventSinkDegraded : Bool
  schedulerState : Option MarketState
deriving DecidableEq, Repr

inductive ControlPathHardeningPolicy where
  | entry | exit
deriving DecidableEq, Repr

inductive CommandExecutionPath where
  | legacyLongLived | actionScoped
deriving DecidableEq, Repr

variable (command : OrderCommand) (envelope : CommandEnvelope) (config : CommandConsumerConfig)

def effectiveIntentClass : IntentClass :=
  inferIntentClass command.intentClass command.action

def controlPathHardeningPolicy : Option ControlPathHardeningPolicy :=
  match command.action, effectiveIntentClass command with
  | .place _, .entry => if config.controlPathPreEntryRecycleEnabled then some .entry else none
  | .place _, .exit => if config.controlPathPreExitRecycleEnabled then some .exit else none
  | _, _ => none

def executionPathForCommand : CommandExecutionPath :=
  let enabled : Bool :=
    match command.action, effectiveIntentClass command with
    | .place _, .entry => config.actionScopeEnableCreateLimit
    | .place _, .exit => config.actionScopeEnableExit
    | .place _, .protectiveRepair => config.actionScopeEnableCreateLimit
    | .market _, .entry | .market _, .exit => config.actionScopeEnableMarket
    | .createStopLimit _, .protectiveRepair => config.actionScopeEnableCreateLimit
    | .cancel _, _ => config.actionScopeEnableDeleteLimit
    | .deleteStopLimit _, _ => config.actionScopeEnableDeleteLimit
    | _, _ => false
  if config.controlCwsMode = .actionScoped && enabled then .actionScoped else .legacyLongLived

/-- The hardening policy of a command that is sent on the long-lived connection. -/
def legacyHardeningPolicy : Option ControlPathHardeningPolicy :=
  match executionPathForCommand command config with
  | .legacyLongLived => controlPathHardeningPolicy command config
  | .actionScoped => none

/-! ### Validation -/

/-- `f64::round`: to the nearest integer, halves away from zero. -/
def roundHalfAway (x : ℚ) : ℤ := if 0 ≤ x then ⌊x + 1 / 2⌋ else ⌈x - 1 / 2⌉

def normalizePrice (price step : ℚ) (side : Side) : ℚ :=
  if step ≤ 0 then price
  else
    match side with
    | .buy => ⌊price / step⌋ * step
    | .sell => ⌈price / step⌉ * step

def decimalPlacesLoop : ℕ → ℕ → ℚ → ℕ
  | 0, _, _ => 8
  | left + 1, decimals, scaled =>
    if |scaled - roundHalfAway scaled| ≤ 1 / 10 ^ 9 then decimals
    else decimalPlacesLoop left (decimals + 1) (scaled * 10)

def decimalPlacesForStep (step : ℚ) : ℕ := decimalPlacesLoop 9 0 |step|

def normalizeStepRound (value step : ℚ) : ℚ :=
  if step ≤ 0 then value
  else
    let normalized := roundHalfAway (value / step) * step
    let scale := (10 : ℚ) ^ decimalPlacesForStep step
    roundHalfAway (normalized * scale) / scale

def normalizeQty (value step : ℚ) : ℚ := if step ≤ 0 then value else ⌊value / step⌋ * step

def validateAction (action : CommandAction) (priceStep volumeStep : ℚ) : Option String :=
  let failsIf (failed : Bool) : Option String := if failed then some "validation_failed" else none
  match action with
  | .place payload =>
    failsIf (payload.price ≤ 0 || payload.qty ≤ 0 ||
      normalizePrice payload.price priceStep payload.side ≤ 0 ||
      normalizeQty payload.qty volumeStep ≤ 0)
  | .market payload => failsIf (payload.qty ≤ 0 || normalizeQty payload.qty volumeStep ≤ 0)
  | .cancel payload => failsIf (payload.orderId ≤ 0)
  | .replace payload =>
    failsIf (payload.orderId ≤ 0 || payload.newPrice ≤ 0 || payload.newQty ≤ 0 ||
      normalizeStepRound payload.newPrice priceStep ≤ 0 || normalizeQty payload.newQty volumeStep ≤ 0)
  | .createStopLimit payload =>
    failsIf (payload.qty ≤ 0 || payload.price ≤ 0 || payload.triggerPrice ≤ 0 ||
      payload.stopEndUnixTime ≤ 0 || normalizeStepRound payload.price priceStep ≤ 0 ||
      normalizeStepRound payload.triggerPrice priceStep ≤ 0 || normalizeQty payload.qty volumeStep ≤ 0)
  | .deleteStopLimit payload => failsIf (isBlank payload.orderId)

/-- `validate_command`: the code of the error that the command is rejected with. -/
def validateCommand (priceStep volumeStep : ℚ) (health : ConsumerHealth) (pauseWhenDegraded : Bool)
    : Option String :=
  if health.gatewayPhase ≠ .liveReady then some "gateway_not_ready"
  else if pauseWhenDegraded && health.eventSinkDegraded then some "gateway_degraded"
  else
    let cancels : Bool :=
      match command.action with
      | .cancel _ | .deleteStopLimit _ => true
      | _ => false
    if !cancels && health.schedulerState ≠ some .opened then some "trading_window_closed"
    else validateAction command.action priceStep volumeStep

def wrapI64 (n : ℤ) : ℤ := n.bmod (2 ^ 64)

def saturatingThousand (n : ℤ) : ℤ := max (-2 ^ 63) (min (2 ^ 63 - 1) (n * 1000))

def isCommandExpired (nowMs : ℤ) : Bool :=
  match command.ttlMs with
  | none => false
  | some ttlMs =>
    if ttlMs = 0 || command.createdTsUtc ≤ 0 then false
    else decide (wrapI64 (saturatingThousand command.createdTsUtc + wrapI64 ttlMs) < nowMs)

/-! ### Responses -/

variable (value : Json)

def responseI64 : Option ℤ :=
  value.asI64.or <| value.asU64AsI64.or <| value.asStr.bind parseI64

/-- The part of `CwsResponseInfo` that the ack takes over. -/
structure CwsResponseInfo where
  httpCode : Option ℤ
  message : Option String
  requestGuid : Option String
  orderId : Option ℤ
  orderIdStr : Option String
deriving DecidableEq, Repr

/-- The order in a response or, where there is none, in its data. -/
def extractOrder {α : Type} (value : Json) (read : Json → Option α) : Option α :=
  ((value.getFirst ["orderNumber", "orderId"]).bind read).or <|
    (value.get "data").bind fun data => (data.getFirst ["orderNumber", "orderId"]).bind read

def parseCwsResponse : CwsResponseInfo where
  httpCode := (value.get "httpCode").bind responseI64
  message := (value.get "message").bind Json.asStr
  requestGuid := (value.getFirst ["requestGuid", "guid"]).bind Json.asStr
  orderId := extractOrder value responseI64
  orderIdStr := extractOrder value Json.asStr

def classifyResponse (info : CwsResponseInfo) : AckStatus × Option String × Option String :=
  let httpCode := info.httpCode.getD 0
  if httpCode = 200 then (.accepted, none, none)
  else if 0 < httpCode then (.rejected, some ("cws_http_" ++ toString httpCode), info.message)
  else (.error, some "cws_error", some "missing httpCode")

def buildCwsAck (requestId : Uuid) (info : CwsResponseInfo) (now : ℤ) : CommandAck :=
  let (status, errorCode, errorMsg) := classifyResponse info
  { requestId := requestId
    status := status
    brokerOrderId := info.orderId
    brokerOrderIdStr := info.orderIdStr.or (info.orderId.map toString)
    errorCode := errorCode
    errorMsg := errorMsg
    cwsHttpCode := info.httpCode
    cwsMessage := info.message
    cwsRequestGuid := info.requestGuid
    processedTsUtc := now }

/-! ### State and effects -/

inductive ConsumerEvent where
  | marked (requestId : Uuid)
  | executing (command : OrderCommand) (path : CommandExecutionPath)
  | executed (requestId : Uuid)
  | published (ack : CommandAck)
  | acked (messageId : String)
deriving DecidableEq, Repr

/-- The consumer's state: the keys of the idempotency store, which outlive the process, the map
of the broker's orders, and the log. -/
structure CommandConsumer where
  marks : List Uuid
  requestMap : AList fun _ : ℤ => Uuid
  tick : ℕ
  log : List ConsumerEvent

def CommandConsumer.new : CommandConsumer := ⟨[], ∅, 0, []⟩

/-- The consumer ends with an error, or the process ends. -/
inductive ConsumerError where
  | transport | ended
deriving DecidableEq, Repr

/-- The answer of `ensure_fresh_control_path_for_live_limit_command` that the consumer uses. -/
structure ControlPathOutcome where
  recycled : Bool
  postRecycleExitSendArmed : Bool
deriving DecidableEq, Repr

structure ControlPathFailure where
  code : String
  message : String
deriving DecidableEq, Repr

/-- What the consumer runs with: its configuration and the answers of the clock, the health, the
writes and the command websocket to each question; a call without an answer is one during which
the process ends. -/
structure ConsumerEnv where
  config : CommandConsumerConfig
  priceStep : ℚ
  volumeStep : ℚ
  nowMs : ℕ → ℤ
  health : ℕ → ConsumerHealth
  delivery : ℕ → Delivery
  ensureFresh : ℕ → Option (Except ControlPathFailure ControlPathOutcome)
  beginExitSend : ℕ → Option (Except ControlPathFailure Unit)
  execute : ℕ → Option (Except CwsError Json)

abbrev ConsumerM := Eff ConsumerEnv ConsumerError CommandConsumer

namespace ConsumerM

/-- A question to the environment. -/
def ask {α : Type} (answer : ConsumerEnv → ℕ → α) : ConsumerM α := do
  let env ← Eff.read
  let consumer ← Eff.get
  Eff.modify fun consumer => { consumer with tick := consumer.tick + 1 }
  return answer env consumer.tick

/-- A call during which the process may end. -/
def call {α : Type} (answer : ConsumerEnv → ℕ → Option α) : ConsumerM α := do
  match ← ask answer with
  | some a => return a
  | none => Eff.fail .ended

/-- `Utc::now().timestamp()`. -/
def now : ConsumerM ℤ := return (← ask fun env tick => env.nowMs tick) / 1000

def record (event : ConsumerEvent) : ConsumerM Unit :=
  Eff.modify fun consumer => { consumer with log := consumer.log ++ [event] }

/-- A write to the outside: it may be refused, or be done and still report a failure. -/
def write (perform : ConsumerM Unit) : ConsumerM Unit := do
  match ← ask fun env tick => env.delivery tick with
  | .done => perform
  | .refused => Eff.fail .transport
  | .lost => do
    perform
    Eff.fail .transport

end ConsumerM

open ConsumerM

/-! ### Commands -/

structure CommandEnvelope where
  command : OrderCommand
  messageId : Option String
deriving DecidableEq, Repr

/-- `RedisIdempotencyStore::check_and_set`, within the time to live of the keys: true if the
request was not marked. -/
def checkAndSet (requestId : Uuid) : ConsumerM Bool := do
  let consumer ← Eff.get
  write <|
    if requestId ∈ consumer.marks then return ()
    else do
      Eff.modify fun consumer => { consumer with marks := requestId :: consumer.marks }
      record (.marked requestId)
  return requestId ∉ consumer.marks

/-- `publish_ack`, and the acknowledgment of the message. -/
def answer (ack : CommandAck) : ConsumerM Unit := do
  write (record (.published ack))
  match envelope.messageId with
  | none => return ()
  | some messageId => write (record (.acked messageId))

/-- The control path before a command is sent: the failure that it is answered with, if any. -/
def prepareControlPath : ConsumerM (Option ControlPathFailure) := do
  let env ← Eff.read
  match legacyHardeningPolicy command env.config with
  | none => return none
  | some _ =>
    match ← call fun env tick => env.ensureFresh tick with
    | .error failure => return some failure
    | .ok outcome =>
      if outcome.recycled && outcome.postRecycleExitSendArmed then
        match ← call fun env tick => env.beginExitSend tick with
        | .error failure => return some failure
        | .ok () => return none
      else return none

/-- `execute_command`: the call ends with a response or an error, unless the process ends
before. -/
def executeCommand : ConsumerM (Except CwsError Json) := do
  let env ← Eff.read
  record (.executing command (executionPathForCommand command env.config))
  let response ← call fun env tick => env.execute tick
  record (.executed command.requestId)
  return response

def sendCommand : ConsumerM Unit := do
  let command := envelope.command
  match ← executeCommand command with
  | .ok response =>
    let info := parseCwsResponse response
    let ack := buildCwsAck command.requestId info (← now)
    match ack.status, info.orderId with
    | .accepted, some orderId =>
      Eff.modify fun consumer =>
        { consumer with requestMap := consumer.requestMap.insert orderId command.requestId }
    | _, _ => pure ()
    answer envelope ack
  | .error error => answer envelope (buildTransportErrorAck command.requestId error (← now))

/-- A cancel is entered into the map before it is sent. -/
def preinsertCancel (consumer : CommandConsumer) : CommandConsumer :=
  match command.action with
  | .cancel payload =>
    { consumer with requestMap := consumer.requestMap.insert payload.orderId command.requestId }
  | _ => consumer

def processCommand : ConsumerM Unit := do
  let env ← Eff.read
  let command := envelope.command
  let health ← ask fun env tick => env.health tick
  match validateCommand command env.priceStep env.volumeStep health env.config.pauseWhenDegraded with
  | some errorCode =>
    answer envelope (.rejected command.requestId errorCode "validation failed" (← now))
  | none =>
    let nowMs ← ask fun env tick => env.nowMs tick
    if isCommandExpired command nowMs then
      answer envelope (.expired command.requestId "command expired" (← now))
    else
      Eff.modify (preinsertCancel command)
      match ← prepareControlPath command with
      | some failure =>
        answer envelope
          (buildControlPathErrorAck command.requestId failure.code failure.message (← now))
      | none => sendCommand envelope

/-- The body of the loop of `run_command_consumer` for a delivered message. -/
def consumeCommand : ConsumerM Unit := do
  let requestId := envelope.command.requestId
  if ← checkAndSet requestId then processCommand envelope
  else answer envelope (.duplicate requestId (← now))

end AlorRs.Gateway
