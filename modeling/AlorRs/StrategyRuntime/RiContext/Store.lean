import AlorRs.StrategyRuntime.RiContext.Basic

/-!
# The store of frozen contexts

An input is journaled once, under its number, and its bar is taken over unless something speaks
against it.  A freeze looks only at what was journaled up to its barrier.
-/

namespace AlorRs.RiContext

open Outcome ContextIdentity

def journalLimit : ℕ := 50000

def maxFrozenSessions : ℕ := 128

def maxCheckpointBytes : ℕ := 64 * 1024 * 1024

def checkpointVersion : String := "ri_frozen_context_checkpoint_v1"

/-! ### One input -/

variable (identity : ContextIdentity)

def ContextIdentity.isModelTime (dt : NaiveDateTime) : Bool :=
  identity.regularDate dt.date && (time (identity.openingHour dt.date) 0).le dt.time &&
    dt.time.le (time 23 49) && dt.minute % 10 = 0 && dt.time.secs % 60 = 0

/-- The prices and the volume of a bar agree with each other. -/
def isValidOhlcv (bar : BarEvent) : Bool :=
  !(bar.l ≤ 0 || bar.v < 0 || bar.o < bar.l || bar.h < bar.o || bar.close < bar.l ||
    bar.h < bar.close || bar.h < bar.l)

def isValidReceipt (received durable processed : ℤ) : Bool :=
  (localTime? received).isSome && (localTime? durable).isSome && received ≤ durable &&
    durable ≤ processed

/-- What speaks against the origin of a bar. -/
def originReason (policy : ContextPolicy) (origin : DataOrigin) (dt : NaiveDateTime) :
    Option QuarantineReason :=
  match origin with
  | .historyGap =>
    if policy = .runtimeAcceptedOnly then some .recoveryDisabled
    else if dt.time ≠ time 23 40 then some .nonClosingRecovery
    else none
  | .replay => some .unsupportedOrigin
  | _ => none

/-- `validate_input`; a float that is not finite is no number here. -/
def ContextIdentity.validateInput (input : ContextInput) (processed : ℤ)
    : Except String (Option QuarantineReason) :=
  if input.bar.symbol ≠ identity.symbol then .ok (some .wrongContract)
  else
    match localTime? input.bar.closeTimeUtc with
    | none => .ok (some .nonModelBar)
    | some dt =>
      if !identity.isModelTime dt then .ok (some .nonModelBar)
      else if !isValidOhlcv input.bar then .ok (some .invalidOhlcv)
      else
        match input.receivedAtUtc, input.durableAtUtc with
        | none, _ => .ok (some .missingReceipt)
        | some _, none => .ok (some .missingDurability)
        | some received, some durable =>
          if !isValidReceipt received durable processed then .ok (some .invalidReceiptClock)
          else if received < input.bar.closeTimeUtc + 600 then .ok (some .barNotClosed)
          else do
            let next ← identity.nextCutoff dt.date
            return if next ≤ durable then some .atOrAfterCutoff
              else originReason identity.policy input.bar.origin dt

def quote (bar : BarEvent) : List ℚ := [bar.o, bar.h, bar.l, bar.close, bar.v]

namespace RiContextStore

def new (identity : ContextIdentity) : Except String RiContextStore := do
  identity.validate
  return ⟨⟨checkpointVersion, identity, .empty, [], .empty, none⟩⟩

variable (store : RiContextStore)

def lastSequence : ℕ := store.state.journal.length

def checkClock (processed : ℤ) : Except String Unit := do
  let _ ← localTime processed
  ensure (store.state.lastProcessedAtUtc.all (· ≤ processed)) "processing clock regression"

/-- An input that was durable before a cutoff up to which the journal was taken to be complete. -/
def isBehindBarrier (input : ContextInput) : Bool :=
  store.state.frozen.values.any fun frozen =>
    input.bar.closeTimeUtc < frozen.cutoffUtc && input.durableAtUtc.any (· < frozen.cutoffUtc)

/-- The route of a new input that validation has a reason against or none. -/
def route (input : ContextInput) (reason : Option QuarantineReason) : ContextRoute :=
  match reason with
  | some reason => .quarantined reason
  | none =>
    match store.state.canonical.get? input.bar.closeTimeUtc with
    | some old =>
      if quote old.bar = quote input.bar then .duplicateQuote else .quarantined .conflictingQuote
    | none =>
      if store.isBehindBarrier input then .quarantined .behindFrozenBarrier else .contextOnly

variable (H : Hashes)

def record (input : ContextInput) (processed : ℤ) (route : ContextRoute) : RiContextStore where
  state := { store.state with
    canonical :=
      if route.contextUpdateAllowed then
        store.state.canonical.insert input.bar.closeTimeUtc input
      else store.state.canonical
    journal := store.state.journal ++ [⟨input.sequence, H.input input, processed, route⟩]
    lastProcessedAtUtc := some processed }

variable (store : RiContextStore)

/-- `ingest`; an input that comes again changes nothing but the clock. -/
def ingest (input : ContextInput) (processed : ℤ) :
    Except String (RiContextStore × ContextRoute) := do
  store.checkClock processed
  ensure (0 < input.sequence) "ingress sequence starts at one"
  match store.state.journal[input.sequence - 1]? with
  | some old =>
    ensure (old.inputSha256 = H.input input) "conflicting ingress sequence"
    return (⟨{ store.state with lastProcessedAtUtc := some processed }⟩, .duplicateQuote)
  | none =>
    ensure (input.sequence = store.lastSequence + 1) "missing ingress sequence"
    ensure (store.lastSequence < journalLimit) "context journal full; explicit rotation required"
    let reason ← store.state.identity.validateInput input processed
    let route := store.route input reason
    return (store.record H input processed route, route)

def verifiedRoute (input : ContextInput) :
    Except String ContextRoute := do
  ensure (0 < input.sequence) "invalid ingress sequence"
  match store.state.journal[input.sequence - 1]? with
  | none => .error "input has not passed the context gate"
  | some record =>
    ensure (record.inputSha256 = H.input input) "context input digest mismatch"
    return record.route

def ingressHashThrough (last : ℕ) : Except String String := do
  ensure (last ≤ store.lastSequence) "incomplete ingress journal"
  return H.digests ((store.state.journal.take last).map fun record =>
    (record.sequence, record.inputSha256))

def ingressSha256 : Except String String :=
  store.ingressHashThrough H store.lastSequence

end RiContextStore

/-! ### Sessions -/

/-- The bars of a session, in the order of their close times, of which there is at least one. -/
structure SessionBars where
  first : ContextInput
  rest : List ContextInput

namespace SessionBars

def all (bars : SessionBars) : List ContextInput := bars.first :: bars.rest

def last (bars : SessionBars) : ContextInput := bars.rest.getLast?.getD bars.first

end SessionBars

/-- How many bars a complete session has at least. -/
def ContextIdentity.requiredBars (date : NaiveDate) : ℕ :=
  if identity.openingHour date = 7 then 92 else 80

def ContextIdentity.isComplete (date : NaiveDate) (bars : SessionBars) : Bool :=
  identity.requiredBars date ≤ bars.all.length &&
    (localTime? bars.first.bar.closeTimeUtc).any
      (fun dt => dt.time.le (time (identity.openingHour date) 10)) &&
    (localTime? bars.last.bar.closeTimeUtc).any fun dt => (time 23 30).le dt.time

def anchor (H : Hashes) (identity : ContextIdentity) (date : NaiveDate) (bars : SessionBars) :
    SessionAnchor :=
  let high := (bars.rest.map (·.bar.h)).foldl max bars.first.bar.h
  let low := (bars.rest.map (·.bar.l)).foldl min bars.first.bar.l
  { sessionDate := date
    high := high
    low := low
    close := bars.last.bar.close
    range := high - low
    distinctBars := bars.all.length
    firstBarUtc := bars.first.bar.closeTimeUtc
    lastBarUtc := bars.last.bar.closeTimeUtc
    latestDurableAtUtc :=
      (bars.rest.map (·.durableAtUtc.getD 0)).foldl max (bars.first.durableAtUtc.getD 0)
    requiredBars := identity.requiredBars date
    sourceSha256 := H.bars bars.all }

def skip (date : NaiveDate) (bars : SessionBars) : SkippedSession where
  date := date
  distinctBars := bars.all.length
  firstBarUtc := bars.first.bar.closeTimeUtc
  lastBarUtc := bars.last.bar.closeTimeUtc

def addBar (days : OrderedMap NaiveDate SessionBars) (dated : NaiveDate × ContextInput) :
    OrderedMap NaiveDate SessionBars :=
  days.insert dated.1
    (match days.get? dated.1 with
    | none => ⟨dated.2, []⟩
    | some bars => ⟨bars.first, bars.rest ++ [dated.2]⟩)

namespace RiContextStore

/-- The dates of inputs that may be of use to a session: of earlier dates, journaled up to the
barrier and durable before the cutoff. -/
def isUsed (date : NaiveDate) (cutoff : ℤ) (last : ℕ) (dated : NaiveDate × ContextInput) : Bool :=
  dated.1 < date && dated.2.sequence ≤ last && dated.2.durableAtUtc.any (· < cutoff)

def withDate (input : ContextInput) : Except String (NaiveDate × ContextInput) :=
  (localTime input.bar.closeTimeUtc).map fun dt => (dt.date, input)

def sessions (dated : List (NaiveDate × ContextInput)) : OrderedMap NaiveDate SessionBars :=
  dated.foldl addBar .empty

variable (H : Hashes) (store : RiContextStore) (identity : ContextIdentity)
  (days : List (NaiveDate × SessionBars))

def anchors : List SessionAnchor :=
  (days.filter fun day => identity.isComplete day.1 day.2).map fun day =>
    anchor H identity day.1 day.2

def skipped : List SkippedSession :=
  (days.filter fun day => !identity.isComplete day.1 day.2).map fun day => skip day.1 day.2

/-- What `build_frozen` checks before it looks at the inputs. -/
def checkBarrier (date : NaiveDate) (now : ℤ) (barrier : ReceiptBarrier) : Except String Unit := do
  let identity := store.state.identity
  let cutoff := identity.cutoff date
  ensure (identity.regularDate date) "cannot freeze a non-regular decision session"
  ensure (cutoff ≤ now) "freeze before model-open cutoff"
  ensure (barrier.receiptStream = identity.receiptStream) "wrong receipt stream"
  ensure (cutoff ≤ barrier.throughUtc && barrier.throughUtc ≤ barrier.attestedAtUtc &&
    barrier.attestedAtUtc ≤ now) "missing or premature cutoff attestation"
  let digest ← store.ingressHashThrough H barrier.lastSequence
  ensure (barrier.ingressSha256 = digest) "ingress barrier hash mismatch"
  ensure (barrier.lastSequence = 0 ||
      (store.state.journal[barrier.lastSequence - 1]?).any (·.processedAtUtc ≤ now))
    "barrier includes unprocessed future evidence"

def buildFrozen (date : NaiveDate) (now : ℤ) (barrier : ReceiptBarrier)
    : Except String FrozenContext := do
  let identity := store.state.identity
  let cutoff := identity.cutoff date
  store.checkBarrier H date now barrier
  let dated ← store.state.canonical.values.mapM withDate
  let days := (sessions (dated.filter (isUsed date cutoff barrier.lastSequence))).entries
  let found := anchors H identity days
  return {
    identitySha256 := H.identity identity
    sessionDate := date
    cutoffUtc := cutoff
    frozenAtUtc := now
    barrier := barrier
    previous := found.getLast?
    previous2 := found.dropLast.getLast?
    skippedIncomplete := skipped identity days }

/-- `freeze`; a session that is frozen stays as it is. -/
def freeze (H : Hashes) (store : RiContextStore) (date : NaiveDate) (now : ℤ)
    (barrier : ReceiptBarrier) : Except String RiContextStore := do
  store.checkClock now
  if (store.state.frozen.get? date).isSome then return store
  else
    ensure (store.state.frozen.length < maxFrozenSessions)
      "frozen context capacity reached; explicit rotation required"
    ensure (store.state.frozen.keys.getLast?.all (· < date)) "cannot backdate context freeze"
    ensure (barrier.lastSequence = store.lastSequence)
      "barrier does not cover the consumed journal"
    let snapshot ← store.buildFrozen H date now barrier
    return ⟨{ store.state with
      frozen := store.state.frozen.insert date snapshot
      lastProcessedAtUtc := some now }⟩

def frozen (store : RiContextStore) (date : NaiveDate) : Option FrozenContext :=
  store.state.frozen.get? date

/-- `frozen_anchor_inputs`: the inputs of the two anchors, in the order of their close times. -/
def frozenAnchorInputs (date : NaiveDate) : Except String (List ContextInput) :=
  match store.frozen date with
  | none => .error "context_unavailable: session not frozen"
  | some frozen =>
    match frozen.previous2, frozen.previous with
    | some previous2, some previous => do
      let dated ← store.state.canonical.values.mapM withDate
      return (dated.filter fun input =>
        (input.1 = previous2.sessionDate || input.1 = previous.sessionDate) &&
          input.2.sequence ≤ frozen.barrier.lastSequence &&
            input.2.durableAtUtc.any (· < frozen.cutoffUtc)).map Prod.snd
    | _, _ => .error "context_unavailable: two complete prior sessions required"

/-! ### Checkpoints -/

/-- The bytes of an envelope as JSON, and what is read of bytes. -/
structure EnvelopeText where
  toVec : CheckpointEnvelope → List UInt8
  fromSlice : List UInt8 → Option CheckpointEnvelope

variable (text : EnvelopeText)

def checkpointBytes (store : RiContextStore) :
    Except String (List UInt8) := do
  let bytes := text.toVec ⟨store.state, H.checkpoint store.state⟩
  ensure (bytes.length ≤ maxCheckpointBytes) "oversized context checkpoint"
  return bytes

/-- `freeze_and_save_new`: a store and the bytes that are published under a path that is free; a
freeze that is not saved leaves the store as it was. -/
def freezeAndSaveNew (store : RiContextStore) (date : NaiveDate) (now : ℤ)
    (barrier : ReceiptBarrier) (isFree : Bool) :
    Except String (RiContextStore × List UInt8) := do
  let candidate ← store.freeze H date now barrier
  ensure isFree "checkpoint destination exists"
  let bytes ← candidate.checkpointBytes H text
  return (candidate, bytes)

/-- The numbers of a journal and its clocks, after a record processed at an instant. -/
def isOrdered (lastProcessed : Option ℤ) : ℕ → Option ℤ → List ReceiptRecord → Bool
  | _, _, [] => true
  | i, last, record :: journal =>
    record.sequence = i + 1 && last.all (· ≤ record.processedAtUtc) &&
      lastProcessed.any (record.processedAtUtc ≤ ·) &&
        isOrdered lastProcessed (i + 1) (some record.processedAtUtc) journal

def checkCanonical (entry : ℤ × ContextInput) :
    Except String Unit := do
  ensure (entry.1 = entry.2.bar.closeTimeUtc && 0 < entry.2.sequence &&
    entry.2.sequence ≤ store.lastSequence) "invalid canonical key"
  match store.state.journal[entry.2.sequence - 1]? with
  | none => .error "invalid canonical key"
  | some record =>
    ensure (record.route = .contextOnly && H.input entry.2 = record.inputSha256)
      "invalid canonical provenance"
    let reason ← store.state.identity.validateInput entry.2 record.processedAtUtc
    ensure reason.isNone "invalid canonical provenance"

def checkFrozen (entry : NaiveDate × FrozenContext) :
    Except String Unit := do
  ensure (entry.1 = entry.2.sessionDate &&
    store.state.lastProcessedAtUtc.any (entry.2.frozenAtUtc ≤ ·)) "invalid frozen date/clock"
  let rebuilt ← store.buildFrozen H entry.1 entry.2.frozenAtUtc entry.2.barrier
  ensure (rebuilt = entry.2) "frozen context reconstruction mismatch"

def checkState (now : ℤ) : Except String Unit := do
  ensure (store.state.journal.length ≤ journalLimit &&
    store.state.frozen.length ≤ maxFrozenSessions &&
    store.state.canonical.length ≤ store.state.journal.length) "oversized context journal"
  store.checkClock now
  ensure (isOrdered store.state.lastProcessedAtUtc 0 none store.state.journal)
    "invalid checkpoint receipt ordering"
  let _ ← store.state.canonical.entries.mapM (checkCanonical H store)
  ensure (store.state.journal.countP (·.route = .contextOnly) = store.state.canonical.length)
    "missing canonical payload"
  let _ ← store.state.frozen.entries.mapM (checkFrozen H store)

def restore (expected : ContextIdentity) (bytes : List UInt8) (now : ℤ)
    : Except String RiContextStore := do
  expected.validate
  ensure (bytes.length ≤ maxCheckpointBytes) "oversized context checkpoint"
  match text.fromSlice bytes with
  | none => .error "invalid checkpoint text"
  | some saved =>
    ensure (saved.payload.version = checkpointVersion && saved.payload.identity = expected)
      "context checkpoint identity mismatch"
    ensure (H.checkpoint saved.payload = saved.payloadSha256) "context checkpoint checksum mismatch"
    let store : RiContextStore := ⟨saved.payload⟩
    store.checkState H now
    return ⟨{ store.state with lastProcessedAtUtc := some now }⟩

end RiContextStore

end AlorRs.RiContext
