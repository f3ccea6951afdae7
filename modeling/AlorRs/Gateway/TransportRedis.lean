import AlorRs.Gateway.CommandConsumer
import AlorRs.StrategyRuntime.RedisTransport

/-!
# The commands that come through Redis

`RedisCommandSource` claims an entry of the commands stream that was delivered long ago, or else reads a
new one.  An entry with a command is returned; any other one is written to the dead-letter stream and
acknowledged.  Redis keeps what was delivered and not acknowledged as pending.
-/

namespace AlorRs

namespace Gateway

structure StreamEntry where
  messageId : String
  payload : Option String
deriving DecidableEq

/-- An entry of the commands stream, with its fields as Redis answers them. -/
structure RawEntry where
  id : String
  fields : RedisValue

/-- An entry of the dead-letter stream. -/
structure DlqRecord where
  originalStream : String
  originalId : String
  reason : String
  raw : String
deriving DecidableEq

/-- What Redis keeps of the commands stream, its consumer group and the dead-letter stream, and the
consumers that made sure of the group. -/
structure CommandsState where
  groupInitialized : List ℕ
  waiting : List RawEntry
  pending : List RawEntry
  dlq : List DlqRecord

/-- The name of the commands stream, and `serde_json::from_str` at `Envelope<OrderCommand>`. -/
structure RedisCommandSource where
  stream : String
  fromStr : String → Except String (Envelope OrderCommand)

/-- What a call of `next_command` meets: the consumer, which entries were delivered long ago, and the
outcomes of its requests to Redis.  `BUSYGROUP` counts as done. -/
structure Turn where
  consumer : ℕ
  isIdle : String → Bool
  createGroup : Delivery
  claim : Delivery
  read : Delivery
  writeDlq : Delivery
  ack : Delivery

/-! ### Replies -/

def extractPayload : RedisValue → Option String
  | .bulk fields => RedisTransport.extractPayload fields
  | _ => none

def parseStreamEntry : RedisValue → Option StreamEntry
  | .bulk (.data messageId :: fields :: _) => some ⟨messageId, extractPayload fields⟩
  | _ => none

def parseReadGroupEntry : RedisValue → Option StreamEntry
  | .bulk (.bulk (_ :: .bulk (entry :: _) :: _) :: _) => parseStreamEntry entry
  | _ => none

def parseAutoclaimEntry : RedisValue → Option StreamEntry
  | .bulk (_ :: .bulk (entry :: _) :: _) => parseStreamEntry entry
  | _ => none

def RawEntry.reply (entry : RawEntry) : RedisValue := .bulk [.data entry.id, entry.fields]

/-- Redis's answer to `XAUTOCLAIM`. -/
def autoclaimReply (entry : Option RawEntry) : RedisValue :=
  .bulk [.data "0-0", .bulk (entry.toList.map RawEntry.reply), .bulk []]

/-- Redis's answer to `XREADGROUP`. -/
def readGroupReply (stream : String) : Option RawEntry → RedisValue
  | some entry => .bulk [.bulk [.data stream, .bulk [entry.reply]]]
  | none => .nil

/-! ### Requests -/

/-- The request took effect, whether or not its answer arrived. -/
def applies : Delivery → Bool
  | .done | .lost => true
  | .refused => false

namespace CommandsState

variable (s : CommandsState)

def writeDlq (record : DlqRecord) (outcome : Delivery) : CommandsState :=
  if applies outcome then { s with dlq := s.dlq ++ [record] } else s

def ack (messageId : String) (outcome : Delivery) : CommandsState :=
  if applies outcome then { s with pending := s.pending.filter fun entry => entry.id ≠ messageId } else s

/-- `XREADGROUP` of one new entry, which becomes pending. -/
def deliver : CommandsState :=
  { s with waiting := s.waiting.tail, pending := s.pending ++ s.waiting.head?.toList }

end CommandsState

/-! ### The source -/

namespace RedisCommandSource

variable (source : RedisCommandSource) (s : CommandsState) (turn : Turn) (entry : StreamEntry)

def ensureGroup : CommandsState × Bool :=
  if turn.consumer ∈ s.groupInitialized then (s, true)
  else
    match turn.createGroup with
    | .done => ({ s with groupInitialized := turn.consumer :: s.groupInitialized }, true)
    | .refused | .lost => (s, false)

/-- The part of `next_command` that gets an entry, if its requests to Redis are answered. -/
def receive : CommandsState × Option (Option StreamEntry) :=
  let (s, ready) := ensureGroup s turn
  if !ready then (s, none)
  else
    match turn.claim with
    | .refused | .lost => (s, none)
    | .done =>
      match parseAutoclaimEntry (autoclaimReply (s.pending.find? fun entry => turn.isIdle entry.id)) with
      | some entry => (s, some (some entry))
      | none =>
        match turn.read with
        | .refused => (s, none)
        | .lost => (s.deliver, none)
        | .done => (s.deliver, some (parseReadGroupEntry (readGroupReply source.stream s.waiting.head?)))

/-- The command of an entry, or the text and the reason that it is written to the dead-letter stream with. -/
def commandOf : Except (String × String) OrderCommand :=
  match entry.payload with
  | none => .error ("", "missing_payload")
  | some payload =>
    match source.fromStr payload with
    | .error _ => .error (payload, "parse_error")
    | .ok envelope =>
      if schemaVersion < envelope.schemaVersion then .error (payload, "unsupported_schema")
      else if envelope.msgType ≠ .command then .error (payload, "unexpected_msg_type")
      else .ok envelope.payload

def handlePayload : CommandsState × Option CommandEnvelope :=
  match source.commandOf entry with
  | .ok command => (s, some ⟨command, some entry.messageId⟩)
  | .error (raw, reason) =>
    -- that the dead-letter entry cannot be written is only logged
    ((s.writeDlq ⟨source.stream, entry.messageId, reason, raw⟩ turn.writeDlq).ack entry.messageId turn.ack,
      none)

/-- `next_command`; it fails if a request that gets an entry does. -/
def nextCommand : CommandsState × Option (Option CommandEnvelope) :=
  match source.receive s turn with
  | (s, none) => (s, none)
  | (s, some none) => (s, some none)
  | (s, some (some entry)) =>
    let (s, envelope) := source.handlePayload s turn entry
    (s, some envelope)

end RedisCommandSource

end Gateway

end AlorRs
