import AlorRs.StrategyRuntime.Runtime.Bars

/-!
# Recovery of pending entries

At the start the runtime claims the entries that were delivered to the group and never
acknowledged, batch by batch, and hands each one to its handler or to the dead-letter stream.
-/

namespace AlorRs

open RuntimeM RedisTransport

namespace StrategyRuntime

variable {σ P : Type}

def maxPendingLoops : ℕ := 10

/-! ### Entries -/

def writeDlq (originalStream messageId reason : String) : RuntimeM σ P Unit := do
  let _ ← now
  let env ← Eff.read
  match env.transport.deadLetter originalStream messageId with
  | .done => record (.deadLetter originalStream messageId reason)
  | .refused => Eff.fail .transport
  | .lost => do
    record (.deadLetter originalStream messageId reason)
    Eff.fail .transport

variable (stream : String)

/-- The end of `decode_entry` for an entry that does not decode: that neither the dead-letter
entry nor the acknowledgment can be written is only logged. -/
def dropEntry (messageId reason : String) : RuntimeM σ P (Option RuntimeMessage) := do
  let _ ← Eff.attempt (writeDlq stream messageId reason)
  let _ ← Eff.attempt (xack stream messageId)
  return none

def decodeEntry (msgType : MessageType) (entry : RedisStreamMessage) :
    RuntimeM σ P (Option RuntimeMessage) := do
  let env ← Eff.read
  if entry.payload = "" then dropEntry stream entry.id "missing_payload"
  else
    match env.transport.parseMessage entry.payload msgType with
    | .ok envelope => return some ⟨stream, entry.id, envelope.payload⟩
    | .error reason => dropEntry stream entry.id reason

/-- `serde_json::from_value`, and the handler of the value. -/
def fromValue {T : Type} (value : Option T) (message : RuntimeMessage)
    (handle : T → RuntimeM σ P Unit) : RuntimeM σ P Unit :=
  match value with
  | none => Eff.fail .decode
  | some value => do
    record (.dispatched message.stream message.messageId)
    handle value

def dispatchMessage (message : RuntimeMessage) : RuntimeM σ P Unit := do
  let env ← Eff.read
  let streams := env.config.streams
  if message.stream = streams.acks then
    fromValue message.payload.commandAck message (handleAck message.stream message.messageId)
  else if message.stream = streams.orders then
    fromValue message.payload.order message (handleOrder message.stream message.messageId)
  else if message.stream = streams.trades then
    fromValue message.payload.trade message (handleTrade message.stream message.messageId)
  else if message.stream = streams.positions then
    fromValue message.payload.position message (handlePosition message.stream message.messageId)
  else if message.stream = streams.bars then
    fromValue message.payload.bar message (handleBar message.stream message.messageId)
  else
    let _ ← Eff.attempt (xack message.stream message.messageId)
    return ()

def rejectOrdersEntry (messageId reason : String) : RuntimeM σ P Unit := do
  writeDlq stream messageId reason
  xack stream messageId

def decodeAndDispatchOrdersEntry (entry : RedisStreamMessage) :
    RuntimeM σ P Unit := do
  let env ← Eff.read
  if entry.payload = "" then rejectOrdersEntry stream entry.id "missing_payload"
  else
    match env.transport.fromStr entry.payload with
    | .error error => rejectOrdersEntry stream entry.id ("parse_error: " ++ error)
    | .ok envelope =>
      if schemaVersion < envelope.schemaVersion then
        rejectOrdersEntry stream entry.id "unsupported_schema"
      else
        let message : RuntimeMessage := ⟨stream, entry.id, envelope.payload⟩
        match envelope.msgType with
        | .order => dispatchMessage message
        | .stopOrder =>
          fromValue message.payload.stopOrder message
            (handleStopOrder message.stream message.messageId)
        | _ => rejectOrdersEntry stream message.messageId "unexpected_msg_type"

def recoverEntry (msgType : MessageType) (entry : RedisStreamMessage) :
    RuntimeM σ P Unit := do
  match ← decodeEntry stream msgType entry with
  | some message => dispatchMessage message
  | none => return ()

/-! ### Batches -/

def claimIdle (start : String) (count : ℕ) : RuntimeM σ P (Option RedisValue) :=
  ask fun env tick => env.transport.autoclaim tick stream start count

def handleEntries (handle : RedisStreamMessage → RuntimeM σ P Unit) :
    List RedisStreamMessage → RuntimeM σ P Unit
  | [] => return ()
  | entry :: entries => do
    handle entry
    handleEntries handle entries

/-- The loop of `recover_pending`: it ends with the first claim that fails or comes back empty. -/
def recoverLoop (handle : RedisStreamMessage → RuntimeM σ P Unit) (stream : String) :
    ℕ → String → RuntimeM σ P Unit
  | 0, _ => return ()
  | loops + 1, start => do
    let env ← Eff.read
    match ← claimIdle stream start env.config.claimBatch with
    | none => return ()
    | some reply =>
      let (nextStart, entries) := parseAutoclaimEntries stream reply
      if entries.isEmpty then return ()
      else
        handleEntries handle entries
        recoverLoop handle stream loops nextStart

def recoverPending (msgType : MessageType) : RuntimeM σ P Unit :=
  recoverLoop (recoverEntry stream msgType) stream maxPendingLoops "0-0"

def recoverPendingOrdersStream : RuntimeM σ P Unit :=
  recoverLoop (decodeAndDispatchOrdersEntry stream) stream maxPendingLoops "0-0"

end StrategyRuntime

/-! ### The streams of the start -/

/-- The streams whose pending entries `bootstrap` recovers. -/
inductive RecoveredStream where
  | acks | orders | trades | positions | bars
deriving DecidableEq, Repr

namespace RecoveredStream

def name (config : RuntimeConfig) : RecoveredStream → String
  | .acks => config.streams.acks
  | .orders => config.streams.orders
  | .trades => config.streams.trades
  | .positions => config.streams.positions
  | .bars => config.streams.bars

/-- The type of the stream's messages; the orders stream has stop orders as well. -/
def msgType : RecoveredStream → MessageType
  | .acks => .commandAck
  | .orders => .order
  | .trades => .trade
  | .positions => .position
  | .bars => .bar

def recover {σ P : Type} (stream : RecoveredStream) : RuntimeM σ P Unit := do
  let env ← Eff.read
  match stream with
  | .orders => StrategyRuntime.recoverPendingOrdersStream (stream.name env.config)
  | stream => StrategyRuntime.recoverPending (stream.name env.config) stream.msgType

/-- `drain_stream` and `drain_orders_stream`, given the reply of `XREADGROUP`; none where it fails. -/
def drain {σ P : Type} (stream : RecoveredStream) (reply : Option RedisValue) : RuntimeM σ P Unit := do
  let env ← Eff.read
  let name := stream.name env.config
  match reply with
  | none => return ()
  | some reply =>
    let entries := parseReadGroupEntries name reply
    match stream with
    | .orders =>
      StrategyRuntime.handleEntries (StrategyRuntime.decodeAndDispatchOrdersEntry name) entries
    | stream => StrategyRuntime.handleEntries (StrategyRuntime.recoverEntry name stream.msgType) entries

end RecoveredStream

end AlorRs
