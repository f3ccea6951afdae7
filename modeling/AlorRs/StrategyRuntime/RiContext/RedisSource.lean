import AlorRs.StrategyRuntime.RiContext.Ingress

/-!
# The Redis source of receipts

A poll reads the entry at the cursor and the entries past it in one transaction, and appends these to
the journal of receipts.  The journal is the only cursor that there is.
-/

namespace AlorRs.RiContext

open Outcome RiIngressJournal

def redisBatch : ℕ := 128

def parseU64 (digits : List Char) : Option ℕ :=
  let n := match digits with
    | '+' :: digits => parseDigits digits
    | digits => parseDigits digits
  n.filter (· < 2 ^ 64)

/-- `stream_id`: the two numbers of an entry's id, in their one form. -/
def streamId (raw : String) : Except String (ℕ × ℕ) :=
  match raw.toList.span (· ≠ '-') with
  | (_, []) => .error "invalid Redis cursor"
  | (millis, _ :: sequence) =>
    match parseU64 millis, parseU64 sequence with
    | some millis, some sequence => do
      ensure (toString millis ++ "-" ++ toString sequence = raw) "non-canonical Redis cursor"
      return (millis, sequence)
    | _, _ => .error "invalid digit found in string"

/-- The order of the ids of a stream. -/
def isAfter (id previous : ℕ × ℕ) : Bool :=
  previous.1 < id.1 || (previous.1 = id.1 && previous.2 < id.2)

/-- An entry of a stream, with what `bar_payload` makes of it. -/
structure StreamEntry where
  id : String
  payload : String
deriving DecidableEq, Repr

/-- The answers to the two commands of a poll: the entry at the cursor and a batch past it. -/
structure StreamReply where
  previous : List StreamEntry
  batch : List StreamEntry
deriving DecidableEq, Repr

structure RiRedisSource where
  identity : IngressIdentity
  lastSuccess : Option (ℤ × ℕ)
  initialFirstId : Option String
deriving DecidableEq, Repr

/-- The readings of the clock in a poll, and the names that its calls of `append` use. -/
structure PollClock where
  started : ℤ
  appended : ℕ → AppendClock × AppendNames
  completed : ℤ

namespace RiRedisSource

variable (text : IngressText) (source : RiRedisSource) (journal : RiIngressJournal)

def caughtUp : Bool :=
  journal.manifest.identity = source.identity &&
    source.lastSuccess.any fun success => success.2 = journal.lastSequence

def new (identity : IngressIdentity) : Except String RiRedisSource := do
  identity.validate
  return ⟨identity, none, none⟩

/-- `start_at`: the first entry of the source, while the journal has none. -/
def startAt (firstId : String) : Except String RiRedisSource := do
  let id ← streamId firstId
  ensure (id ≠ (0, 0)) "invalid bootstrap boundary"
  ensure source.initialFirstId.isNone "source start already configured"
  return { source with initialFirstId := some firstId }

/-- The cursor of a poll is the bootstrap boundary, which is part of its batch. -/
def isInitial : Bool :=
  journal.lastSourceId.isNone && source.initialFirstId.isSome

/-- What a poll asks for. -/
def cursor : String :=
  (journal.lastSourceId.or source.initialFirstId).getD "0-0"

def checkPrevious (parsedCursor : ℕ × ℕ) (reply : StreamReply) : Except String Unit :=
  let cursor := source.cursor journal
  if source.isInitial journal then
    ensure (reply.previous.length = 1 && reply.previous.all (·.id = cursor) &&
      reply.batch.head?.any (·.id = cursor)) "bootstrap first source row missing/trimmed"
  else if parsedCursor ≠ (0, 0) then do
    ensure (reply.previous.length = 1 && reply.previous.all (·.id = cursor))
      "Redis resume cursor missing/trimmed; source coverage is unknown"
    match journal.rows.getLast? with
    | none => .error "missing durable cursor"
    | some row =>
      ensure (reply.previous.all (·.payload = row.raw.rawBarJson))
        "Redis resume payload changed; possible stream recreation"
  else .ok ()

variable (reply : Except String StreamReply)

/-- All that a poll does before it appends: the batch and the id that it starts after. -/
def receive (started : ℤ) :
    Except String (List StreamEntry × (ℕ × ℕ)) := do
  ensure (journal.manifest.identity = source.identity) "Redis source/journal identity mismatch"
  journal.now started
  let parsedCursor ← streamId (source.cursor journal)
  let reply ← reply
  source.checkPrevious journal parsedCursor reply
  return (reply.batch, if source.isInitial journal then (0, 0) else parsedCursor)

/-- The loop over the entries of a batch, from the one of this number on. -/
def appendAll (calls : ℕ → AppendClock × AppendNames) :
    ℕ → ℕ × ℕ → List StreamEntry → RiIngressJournal →
      IngressM (RiIngressJournal × Except String (List AppendReceipt))
  | _, _, [], journal => return (journal, .ok [])
  | i, previous, entry :: entries, journal => do
    match streamId entry.id with
    | .error e => return (journal, .error e)
    | .ok id =>
      if !isAfter id previous then
        return (journal, .error "Redis source IDs are not increasing")
      else
        match ← journal.append text entry.id entry.payload (calls i).1 (calls i).2 with
        | (journal, .error e) => return (journal, .error e)
        | (journal, .ok receipt) =>
          if !receipt.input.isOk then
            return (journal, .error "malformed Redis bar retained; shadow collector blocked")
          else
            match ← appendAll calls (i + 1) id entries journal with
            | (journal, .error e) => return (journal, .error e)
            | (journal, .ok receipts) => return (journal, .ok (receipt :: receipts))

/-- `poll`; a failure leaves the source not ready. -/
def poll (clock : PollClock) :
    IngressM (RiRedisSource × RiIngressJournal × Except String (List AppendReceipt)) := do
  let source := { source with lastSuccess := none }
  match source.receive journal reply clock.started with
  | .error e => return (source, journal, .error e)
  | .ok (batch, previous) =>
    match ← appendAll text clock.appended 0 previous batch journal with
    | (journal, .error e) => return (source, journal, .error e)
    | (journal, .ok receipts) =>
      if batch.length < redisBatch then
        match journal.now clock.completed with
        | .error e => return (source, journal, .error e)
        | .ok () =>
          return ({ source with lastSuccess := some (clock.completed, journal.lastSequence) },
            journal, .ok receipts)
      else return (source, journal, .ok receipts)

def checkSeal (cutoff : ℤ) : Except String Unit := do
  ensure (journal.manifest.identity = source.identity) "Redis source/journal identity mismatch"
  match source.lastSuccess with
  | none => .error "Redis collector is not ready"
  | some (polled, sequence) =>
    ensure (cutoff ≤ polled && sequence = journal.lastSequence)
      "cutoff requires a fresh source poll"

def sealCutoff (journal : RiIngressJournal) (cutoff reading : ℤ) (id : ℕ) :
    IngressM (RiIngressJournal × Except String ReceiptBarrier) := do
  match source.checkSeal journal cutoff with
  | .error e => return (journal, .error e)
  | .ok () => journal.sealCutoff text cutoff reading id

end RiRedisSource

end AlorRs.RiContext
