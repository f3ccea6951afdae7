import AlorRs.Protocol
import AlorRs.RustText

/-!
# Failures of the command websocket

How a session ended, what a request that was pending then is answered with, and the ack that the
command consumer makes of it.
-/

namespace AlorRs.Gateway

inductive CwsDisconnectKind where
  | protocolResetWithoutCloseHandshake | closeFrame | eof | sendError | socketError | protocolError
deriving DecidableEq, Repr

namespace CwsDisconnectKind

def asStr : CwsDisconnectKind → String
  | .protocolResetWithoutCloseHandshake => "protocol_reset_without_close_handshake"
  | .closeFrame => "close_frame"
  | .eof => "eof"
  | .sendError => "send_error"
  | .socketError => "socket_error"
  | .protocolError => "protocol_error"

end CwsDisconnectKind

structure CwsTransportFailure where
  disconnectKind : CwsDisconnectKind
  rawError : String
  closeCode : Option ℕ
  closeReason : Option String
deriving DecidableEq, Repr

def CwsTransportFailure.summary (failure : CwsTransportFailure) : String :=
  "cws disconnected: " ++ failure.disconnectKind.asStr

structure CwsRequestFailure where
  requestId : Option String
  cwsGuid : String
  opcode : String
  orderId : Option String
  symbol : Option String
  transport : CwsTransportFailure
deriving DecidableEq, Repr

def CwsRequestFailure.summary (failure : CwsRequestFailure) : String := failure.transport.summary

/-- The error of a request: a typed failure, or any other error by its text. -/
inductive CwsError where
  | failure (failure : CwsRequestFailure)
  | other (text : String)
deriving DecidableEq, Repr

/-! ### Acks -/

def classifyTransportError : CwsError → String
  | .failure failure => failure.transport.disconnectKind.asStr
  | .other error =>
    let text := toAsciiLowercaseText error
    if containsText text "authorize timeout" then "authorize_timeout"
    else if containsText text "response timeout" || containsText text "timeout waiting for guid" ||
        containsText text "read timeout while waiting for guid" then "response_timeout"
    else if containsText text "open timeout" then "open_timeout"
    else if containsText text "close timeout" then "close_timeout"
    else if containsText text "timeout" then "timeout"
    else "transport_error"

def buildTransportErrorAck (requestId : Uuid) (error : CwsError) (now : ℤ) : CommandAck :=
  let ack := { CommandAck.bare requestId .error now with
    errorCode := some "cws_error"
    cwsMessage := some (classifyTransportError error) }
  match error with
  | .failure failure =>
    { ack with errorMsg := some failure.summary, cwsRequestGuid := some failure.cwsGuid }
  | .other text => { ack with errorMsg := some text }

def buildControlPathErrorAck (requestId : Uuid) (errorCode errorMsg : String) (now : ℤ) :
    CommandAck :=
  { CommandAck.bare requestId .error now with
    errorCode := some errorCode, errorMsg := some errorMsg }

end AlorRs.Gateway
