import AlorRs.StrategyRuntime.StrategyHost

/-!
# Entries of the Redis streams

Replies of Redis, the stream entries in them and the envelopes that the entries carry.  Bytes are
kept as the string that `String::from_utf8_lossy` makes of them.
-/

namespace AlorRs

inductive RedisValue where
  | nil
  | int (n : ℤ)
  | data (bytes : String)
  | bulk (values : List RedisValue)
  | status (s : String)
  | okay

structure RedisStreamMessage where
  stream : String
  id : String
  payload : String
deriving DecidableEq, Repr

inductive MessageType where
  | bar | order | stopOrder | trade | position | health | command | commandAck
  | snapshotOrders | snapshotStopOrders | snapshotPositions
deriving DecidableEq, Repr

structure Envelope (T : Type) where
  schemaVersion : ℕ
  tsUtc : ℤ
  source : String
  msgType : MessageType
  payload : T

def schemaVersion : ℕ := 1

/-- A `serde_json::Value`, known by what `serde_json::from_value` makes of it at each type. -/
structure JsonValue where
  commandAck : Option CommandAck
  order : Option OrderEvent
  stopOrder : Option StopOrderEvent
  trade : Option TradeEvent
  position : Option PositionEvent
  bar : Option BarEvent

structure RuntimeMessage where
  stream : String
  messageId : String
  payload : JsonValue

/-- What the transport rests on: `serde_json::from_str`, Redis's answers to `XAUTOCLAIM` of a
stream from an id for a number of entries, and the outcome of the `XADD` to the dead-letter
stream for an entry of a stream. -/
structure RedisTransport where
  fromStr : String → Except String (Envelope JsonValue)
  autoclaim : ℕ → String → String → ℕ → Option RedisValue
  deadLetter : String → String → Delivery

namespace RedisTransport

/-! ### Replies -/

def payloadField : String := "payload"

def extractPayload : List RedisValue → Option String
  | .data key :: .data value :: fields =>
    if key = payloadField then some value else extractPayload fields
  | _ :: _ :: fields => extractPayload fields
  | _ => none

variable (streamName : String)

def parseEntry : RedisValue → Option RedisStreamMessage
  | .bulk (.data messageId :: .bulk fields :: _) =>
    some ⟨streamName, messageId, (extractPayload fields).getD ""⟩
  | .bulk (.data messageId :: _ :: _) => some ⟨streamName, messageId, ""⟩
  | _ => none

def parseAutoclaimEntries (stream : String) : RedisValue → String × List RedisStreamMessage
  | .bulk (.data nextStartId :: .bulk entries :: _) =>
    (nextStartId, entries.filterMap (parseEntry stream))
  | .bulk (.data nextStartId :: _ :: _) => (nextStartId, [])
  | .bulk (_ :: .bulk entries :: _) => ("0-0", entries.filterMap (parseEntry stream))
  | _ => ("0-0", [])

def parseReadGroupEntries : RedisValue → List RedisStreamMessage
  | .bulk (.bulk (_ :: .bulk entries :: _) :: _) => entries.filterMap (parseEntry streamName)
  | _ => []

/-! ### Envelopes -/

def parseMessage (transport : RedisTransport) (payload : String) (expected : MessageType) :
    Except String (Envelope JsonValue) :=
  match transport.fromStr payload with
  | .error error => .error ("parse_error: " ++ error)
  | .ok envelope =>
    if schemaVersion < envelope.schemaVersion then .error "unsupported_schema"
    else if envelope.msgType ≠ expected then .error "unexpected_msg_type"
    else .ok envelope

end RedisTransport

end AlorRs
