import AlorRs.Gateway.CwsFailure
import AlorRs.Gateway.Json
import Mathlib.Data.List.AList
import Mathlib.Data.Rat.Floor

/-!
# The client of the command websocket

Callers queue their commands in a channel that outlives the sessions.  A session takes them off
the queue one by one, keeps what it sent as pending under a guid, and answers it when a response
with that guid arrives or when the connection fails.  A caller stops waiting after five seconds.
-/

namespace AlorRs.Gateway

/-! ### Frames -/

inductive RawCwsMessageClass where
  | requestResponse | domainEvent | transport | unknown
deriving DecidableEq, Repr

variable (floatText : ℚ → String) (value : Json)

def classifyInboundCwsMessage : RawCwsMessageClass :=
  let has (name : String) : Bool := (value.get name).isSome
  let dataHas (name : String) : Bool := ((value.get "data").bind fun data => data.get name).isSome
  if has "httpCode" || has "requestGuid" || (value.get "status").any Json.isNumber ||
      has "cwsAuthorized" || has "cws_authorized" then .requestResponse
  else if has "orderId" || has "orderNumber" || dataHas "orderId" || dataHas "orderNumber" ||
      dataHas "symbol" || dataHas "existing" || dataHas "status" then .domainEvent
  else if has "event" || has "type" || has "code" then .transport
  else .unknown

def correlationGuidOf : Option String :=
  ((value.get "requestGuid").bind Json.asStr).or ((value.get "guid").bind Json.asStr)

def valueToString : Json → Option String
  | .string s => some s
  | .number (.posInt n) => some (toString n.val)
  | .number (.negInt n) => some (toString n)
  | .number (.float x) => some (floatText x)
  | _ => none

def orderIdOfValue : Option String :=
  ((value.getFirst ["orderNumber", "orderId"]).bind (valueToString floatText)).or <|
    (value.get "data").bind fun data =>
      (data.getFirst ["orderNumber", "orderId"]).bind (valueToString floatText)

def symbolOfPayload : Option String :=
  ((value.get "instrument").bind fun instrument => instrument.get "symbol").bind Json.asStr

/-! ### Errors of the websocket -/

/-- The errors of the websocket that `classify_transport_error` tells apart. -/
inductive WsErrorKind where
  | resetWithoutClosingHandshake | protocol | connectionClosed | alreadyClosed
  | ioUnexpectedEof | io | other
deriving DecidableEq, Repr

structure WsError where
  kind : WsErrorKind
  text : String
deriving DecidableEq, Repr

def transportFailureOfWsError (error : WsError) (duringSend : Bool) : CwsTransportFailure where
  disconnectKind :=
    match error.kind with
    | .resetWithoutClosingHandshake => .protocolResetWithoutCloseHandshake
    | .connectionClosed | .alreadyClosed => .closeFrame
    | .ioUnexpectedEof => .eof
    | .protocol => .protocolError
    | .io | .other => if duringSend then .sendError else .socketError
  rawError := error.text
  closeCode := none
  closeReason := none

structure CloseFrame where
  code : ℕ
  reason : String
deriving DecidableEq, Repr

def transportFailureFromCloseFrame (frame : Option CloseFrame) : CwsTransportFailure where
  disconnectKind := .closeFrame
  rawError := "close frame received"
  closeCode := frame.map CloseFrame.code
  closeReason := (frame.map CloseFrame.reason).filter fun reason => !reason.isEmpty

def transportFailureFromEof : CwsTransportFailure := ⟨.eof, "websocket stream ended", none, none⟩

/-! ### State -/

/-- A command of a caller, with the number of the channel that its response is sent on. -/
structure CwsCommand where
  payload : Json
  requestId : Option String
  symbol : Option String
  respTx : ℕ

inductive SessionCommand where
  | send (command : CwsCommand)
  | recycle (reason : String)

structure PendingRequest where
  requestId : Option String
  cwsGuid : String
  opcode : String
  orderId : Option String
  symbol : Option String
  sendSeq : ℕ
  pendingCountBeforeSend : ℕ
  respTx : ℕ
deriving DecidableEq, Repr

structure CwsSession where
  token : String
  pending : AList fun _ : String => PendingRequest
  sendSeq : ℕ

def CwsSession.requests (session : CwsSession) : List PendingRequest :=
  session.pending.entries.map Sigma.snd

/-- What the health mirrors of the pending requests. -/
structure CwsHealth where
  pendingCount : ℕ
  pendingGuids : List String
  pendingFailedTotal : ℕ
deriving DecidableEq, Repr

inductive SessionExit where
  | transport (failure : CwsTransportFailure)
  | recycled (reason : String)
  | channelClosed
deriving DecidableEq, Repr

/-- What becomes of a command: it is refused by the closed channel, sent, and then resolved,
replaced by a later request with its guid, or dropped at the end of the session; its caller may
stop waiting at any time. -/
inductive CwsEvent where
  | refused (respTx : ℕ)
  | sent (request : PendingRequest) (payload : Json)
  | resolved (request : PendingRequest) (result : Except CwsError Json)
  | replaced (request : PendingRequest)
  | dropped (request : PendingRequest)
  | timedOut (respTx : ℕ)
  | exited (exit : SessionExit)

def CwsEvent.answers (respTx : ℕ) : CwsEvent → Bool
  | .refused respTx' | .timedOut respTx' => respTx' == respTx
  | .resolved request _ | .replaced request | .dropped request => request.respTx == respTx
  | .sent _ _ | .exited _ => false

/-- The client: the queue of the commands, the session if there is one, and the number of callers
so far. -/
structure CwsClient where
  handlesAlive : Bool
  loopAlive : Bool
  queue : List SessionCommand
  session : Option CwsSession
  health : CwsHealth
  calls : ℕ
  log : List CwsEvent

namespace CwsClient

def start : CwsClient := ⟨true, true, [], none, ⟨0, [], 0⟩, 0, []⟩

def channelCapacity : ℕ := 256

def pendingGuidSummaryLimit : ℕ := 8

variable (floatText : ℚ → String) (client : CwsClient) (session : CwsSession)

def waiting (respTx : ℕ) : Bool :=
  decide (respTx < client.calls) && client.log.all fun event => !event.answers respTx

def syncPendingHealth (health : CwsHealth) : CwsHealth :=
  let items := session.requests.mergeSort fun request request' => request.sendSeq ≤ request'.sendSeq
  { health with
    pendingCount := session.requests.length
    pendingGuids := (items.take pendingGuidSummaryLimit).map PendingRequest.cwsGuid }

variable (failure : CwsTransportFailure) (command : CwsCommand)

def failRequest (request : PendingRequest) : CwsEvent :=
  .resolved request <| .error <| .failure
    ⟨request.requestId, request.cwsGuid, request.opcode, request.orderId, request.symbol, failure⟩

def handleTransportFailure : CwsClient :=
  { client with
    session := none
    health :=
      { pendingCount := 0
        pendingGuids := []
        pendingFailedTotal :=
          min (client.health.pendingFailedTotal + session.requests.length) (2 ^ 64 - 1) }
    log := client.log ++ (session.requests.map (failRequest failure) ++ [.exited (.transport failure)]) }

/-- The session ends, and what is pending is dropped with it. -/
def abandonSession (exit : SessionExit) : CwsClient :=
  { client with
    session := none
    log := client.log ++ (.exited exit :: session.requests.map .dropped) }

def pendingRequest (guid : String) (payload : Json) : PendingRequest where
  requestId := command.requestId
  cwsGuid := guid
  opcode := ((payload.get "opcode").bind Json.asStr).getD "unknown"
  orderId := orderIdOfValue floatText payload
  symbol := command.symbol.or (symbolOfPayload payload)
  sendSeq := min (session.sendSeq + 1) (2 ^ 64 - 1)
  pendingCountBeforeSend := session.requests.length
  respTx := command.respTx

/-- The branch of `run_session` for a command, with a guid for a payload that has none and the
error that the websocket reports. -/
def sendPending (newGuid : String) (error : Option WsError) : CwsClient :=
  let guid := ((command.payload.get "guid").bind Json.asStr).getD newGuid
  let payload :=
    (command.payload.insertField "guid" (.string guid)).insertField "token" (.string session.token)
  let request := pendingRequest floatText session command guid payload
  let replaced := (session.pending.lookup guid).toList.map CwsEvent.replaced
  let session' : CwsSession :=
    { session with pending := session.pending.insert guid request, sendSeq := request.sendSeq }
  let client' : CwsClient :=
    { client with
      session := some session'
      health := syncPendingHealth session' client.health
      log := client.log ++ (replaced ++ [.sent request payload]) }
  match error with
  | none => client'
  | some error =>
    client'.handleTransportFailure session' (transportFailureOfWsError error true)

/-- What a session receives on the websocket; a text that is no JSON has no value. -/
inductive WsMessage where
  | text (value : Option Json)
  | ping | pong | other
  | close (frame : Option CloseFrame)
  | error (error : WsError)
  | eof

def resolvePending (guid : String) (request : PendingRequest) (value : Json) : CwsClient :=
  let session' : CwsSession := { session with pending := session.pending.erase guid }
  { client with
    session := some session'
    health := syncPendingHealth session' client.health
    log := client.log ++ [.resolved request (.ok value)] }

/-- The branch of `run_session` for a message. -/
def receiveMessage : WsMessage → CwsClient
  | .text (some value) =>
    match classifyInboundCwsMessage value, correlationGuidOf value with
    | .requestResponse, some guid =>
      match session.pending.lookup guid with
      | some request => client.resolvePending session guid request value
      | none => client
    | _, _ => client
  | .text none | .ping | .pong | .other => client
  | .close frame => client.handleTransportFailure session (transportFailureFromCloseFrame frame)
  | .error error => client.handleTransportFailure session (transportFailureOfWsError error false)
  | .eof => client.handleTransportFailure session transportFailureFromEof

/-! ### Steps -/

/-- What happens next: a caller or `ensure_fresh_control_path` queues a command, a caller stops
waiting, the last handle is dropped, the client connects and authorizes or not, or the session
goes on with the queue or with a message. -/
inductive Step where
  | call (payload : Json) (requestId symbol : Option String)
  | recycle (reason : String)
  | timeout (respTx : ℕ)
  | release
  | connect (token : String) (authorized : Bool)
  | receive (newGuid : String) (error : Option WsError)
  | message (message : WsMessage)

/-- `CwsHandle::send_command`, up to its wait for the response. -/
def call (client : CwsClient) (payload : Json) (requestId symbol : Option String) : CwsClient :=
  if client.loopAlive then
    { client with
      calls := client.calls + 1
      queue := client.queue ++ [.send ⟨payload, requestId, symbol, client.calls⟩] }
  else
    { client with calls := client.calls + 1, log := client.log ++ [.refused client.calls] }

def connected (session : Option CwsSession) : CwsClient :=
  { client with
    session := session
    health := { client.health with pendingCount := 0, pendingGuids := [] } }

/-- The session takes the next command; without handles the empty queue is closed. -/
def receive (newGuid : String) (error : Option WsError) : Option CwsClient :=
  match client.queue with
  | .send command :: queue =>
    some (sendPending floatText { client with queue := queue } session command newGuid error)
  | .recycle reason :: queue =>
    some ({ client with queue := queue }.abandonSession session (.recycled reason))
  | [] =>
    if client.handlesAlive then none
    else some ({ client with loopAlive := false }.abandonSession session .channelClosed)

def step : Step → Option CwsClient
  | .call payload requestId symbol =>
    if client.handlesAlive && decide (client.queue.length < channelCapacity) then
      some (client.call payload requestId symbol)
    else none
  | .recycle reason =>
    if client.handlesAlive && client.loopAlive &&
        decide (client.queue.length < channelCapacity) then
      some { client with queue := client.queue ++ [.recycle reason] }
    else none
  | .timeout respTx =>
    if client.waiting respTx then some { client with log := client.log ++ [.timedOut respTx] }
    else none
  | .release =>
    if (List.range client.calls).any client.waiting then none
    else some { client with handlesAlive := false }
  | .connect token authorized =>
    match client.session with
    | some _ => none
    | none =>
      if client.loopAlive then
        some (client.connected (if authorized then some ⟨token, ∅, 0⟩ else none))
      else none
  | .receive newGuid error =>
    client.session.bind fun session => client.receive floatText session newGuid error
  | .message message => client.session.map fun session => client.receiveMessage session message

inductive Reached (floatText : ℚ → String) (allowed : CwsClient → Step → Prop) : CwsClient → Prop
  | start : Reached floatText allowed .start
  | step {client client' : CwsClient} (step : Step) :
    Reached floatText allowed client → allowed client step →
      client.step floatText step = some client' → Reached floatText allowed client'

end CwsClient

end AlorRs.Gateway
