import AlorRs.StrategyRuntime.ShadowSessionContext.Basic
import AlorRs.Lib.Effect

/-!
# The store of the reaction shadows

Receipts are taken in one by one, under their numbers, and a freeze looks at what was accepted before
its session.  `restore` does all operations of a checkpoint again.  The calls are there once more as
they are executed, on a store that they change in place.
-/

namespace AlorRs.ShadowSessionContext

open Outcome

namespace Store

def new (identity : Identity) : Except String Store := do
  identity.validate
  return ⟨identity, [], [], .empty, ∅, .empty, none⟩

def lastSequence (store : Store) : ℕ := store.inputs.length

def ingressSha256 (H : Hashes) (store : Store) : String := H.inputs store.inputs

def checkClock (store : Store) (now : ℤ) : Except String Unit := do
  let _ ← localTime now
  ensure (store.clock.all (· ≤ now)) "processing clock regression"

end Store

/-! ### One receipt -/

variable (identity : Identity)

def Identity.isModelTime (dt : NaiveDateTime) : Bool :=
  let (first, last) :=
    if isWeekend dt.date then (590, 1130) else (identity.openingHour dt.date * 60, 1420)
  first ≤ minuteOfDay dt && minuteOfDay dt ≤ last && dt.minute % 10 = 0 && dt.time.secs % 60 = 0

def isValidClock (received durable now : ℤ) : Bool :=
  (localTime received).isOk && (localTime durable).isOk && received ≤ durable && durable ≤ now

/-- `rejection`; the next cutoff is looked for although a bootstrap has one of its own. -/
def Identity.rejection (receipt : Receipt) (now : ℤ) (bootstrapCutoff : Option ℤ)
    : Except String (Option Reject) := do
  let bar := receipt.bar
  if bar.symbol ≠ identity.symbol then return some .wrongContract
  else
    let dt ← localTime bar.closeTimeUtc
    if dt.date ∈ identity.excludedDates then return some .excludedDate
    else if isWeekend dt.date ∧ identity.policy = .weekdayOnly then return some .weekendDisabled
    else if !identity.isModelTime dt then return some .nonModelBar
    else if !RiContext.isValidOhlcv bar then return some .invalidOhlcv
    else
      match receipt.receivedAtUtc, receipt.durableAtUtc with
      | none, _ => return some .missingReceipt
      | some _, none => return some .missingDurability
      | some received, some durable =>
        if !isValidClock received durable now then return some .invalidClock
        else if received < bar.closeTimeUtc + 600 then return some .barNotClosed
        else
          let next ← identity.nextCutoff dt.date
          if bootstrapCutoff.getD next ≤ durable then return some .atOrAfterCutoff
          else if bar.origin = .replay then return some .unsupportedOrigin
          else return none

/-- What is compared of two bars of one close time. -/
def Receipt.quote (receipt : Receipt) : List ℚ :=
  [receipt.bar.o, receipt.bar.h, receipt.bar.l, receipt.bar.close, receipt.bar.v]

namespace Store

variable (H : Hashes) (store : Store) (receipt : Receipt)

/-- A receipt that was durable before a cutoff up to which the journal was taken to be complete. -/
def isBehindBarrier : Bool :=
  store.frozen.values.any fun frozen =>
    receipt.bar.closeTimeUtc < frozen.cutoffUtc &&
      receipt.durableAtUtc.any (· < frozen.cutoffUtc)

/-- The route of a receipt of a new source that nothing speaks against. -/
def quoteRoute : Route :=
  match store.canonical.get? receipt.bar.closeTimeUtc with
  | some old => if old.quote = receipt.quote then .duplicate else .quarantined .conflictingQuote
  | none =>
    if store.isBehindBarrier receipt then .quarantined .behindFrozenBarrier else .contextOnly

/-- The route of a receipt: a source that is known has sent the same before, or something else. -/
def route (now : ℤ) (bootstrapCutoff : Option ℤ) : Except String Route :=
  match store.sources.lookup receipt.sourceId with
  | some old =>
    .ok (if old = receipt.payloadHash H then .duplicate else .quarantined .conflictingReceipt)
  | none => do
    let reason ← store.identity.rejection receipt now bootstrapCutoff
    return match reason with
      | some reason => .quarantined reason
      | none => store.quoteRoute receipt

def record (now : ℤ) (route : Route) : Store :=
  { store with
    canonical :=
      if route.contextUpdateAllowed then store.canonical.insert receipt.bar.closeTimeUtc receipt
      else store.canonical
    sources :=
      if receipt.sourceId ∈ store.sources then store.sources
      else store.sources.insert receipt.sourceId (receipt.payloadHash H)
    inputs := store.inputs ++ [receipt]
    operations := store.operations ++ [.ingest receipt now route]
    clock := some now }

/-- What `ingest_inner` checks of a receipt before it looks for its route. -/
def checkReceipt : Except String Unit := do
  ensure (store.inputs.length < maxInputs) "context input limit; rotate explicitly"
  ensure (receipt.sequence = store.lastSequence + 1) "missing/repeated ingress sequence"
  ensure (!receipt.sourceId.isEmpty && receipt.sourceId.utf8ByteSize ≤ 256) "invalid source id"

/-- `ingest_inner`; a float that is not finite is no number here. -/
def ingestInner (now : ℤ) (bootstrapCutoff : Option ℤ) : Except String (Store × Route) := do
  store.checkClock now
  store.checkReceipt receipt
  let route ← store.route H receipt now bootstrapCutoff
  return (store.record H receipt now route, route)

def ingest (H : Hashes) (store : Store) (receipt : Receipt) (now : ℤ) :
    Except String (Store × Route) := store.ingestInner H receipt now none

end Store

/-! ### Sessions -/

namespace Identity

variable (identity : Identity) (date : NaiveDate)

/-- How many bars a day has. -/
def totalSlots : ℕ :=
  if isWeekend date then 55 else (1420 - identity.openingHour date * 60) / 10 + 1

/-- How many bars a complete day has at least. -/
def requiredBars : ℕ :=
  if isWeekend date then 44 else identity.totalSlots date

def isComplete (bars : ValueGroup Receipt) : Bool :=
  let firstLimit := if isWeekend date then 600 else identity.openingHour date * 60
  let last := if isWeekend date then 1130 else 1420
  identity.requiredBars date ≤ bars.all.length &&
    (localTime bars.first.bar.closeTimeUtc).toOption.any (minuteOfDay · ≤ firstLimit) &&
    (localTime bars.last.bar.closeTimeUtc).toOption.any (last ≤ minuteOfDay ·)

end Identity

def anchor (H : Hashes) (identity : Identity) (date : NaiveDate) (bars : ValueGroup Receipt) : Anchor :=
  let high := (bars.rest.map (·.bar.h)).foldl max bars.first.bar.h
  let low := (bars.rest.map (·.bar.l)).foldl min bars.first.bar.l
  { sessionDate := date
    «open» := bars.first.bar.o
    high := high
    low := low
    close := bars.last.bar.close
    range := high - low
    distinctBars := bars.all.length
    requiredBars := identity.requiredBars date
    totalSlots := identity.totalSlots date
    firstBarUtc := bars.first.bar.closeTimeUtc
    lastBarUtc := bars.last.bar.closeTimeUtc
    latestReceivedAtUtc :=
      (bars.rest.map (·.receivedAtUtc.getD 0)).foldl max (bars.first.receivedAtUtc.getD 0)
    latestDurableAtUtc :=
      (bars.rest.map (·.durableAtUtc.getD 0)).foldl max (bars.first.durableAtUtc.getD 0)
    sourceSequences := bars.all.map (·.sequence)
    sourceSha256 := H.bars bars.all }

/-- A day that is not complete. -/
def skip (date : NaiveDate) (bars : ValueGroup Receipt) : Skipped where
  sessionDate := date
  distinctBars := bars.all.length
  requiredBars := identity.requiredBars date
  firstBarUtc := bars.first.bar.closeTimeUtc
  lastBarUtc := bars.last.bar.closeTimeUtc
  reason := "incomplete_context"

namespace Store

def withDate (receipt : Receipt) : Except String (NaiveDate × Receipt) :=
  (localTime receipt.bar.closeTimeUtc).map fun dt => (dt.date, receipt)

variable (H : Hashes) (store : Store) (day : NaiveDate)

def isUsed (cutoff : ℤ) (dated : NaiveDate × Receipt) : Bool :=
  dated.1 < day && dated.2.durableAtUtc.any (· < cutoff)

def collectAnchors (cutoff : ℤ) :
    Except String (List Anchor × List Skipped) := do
  let dated ← store.canonical.values.mapM withDate
  let days := (OrderedMap.group (dated.filter (isUsed day cutoff))).entries
  return ((days.filter fun day => store.identity.isComplete day.1 day.2).map fun day =>
      anchor H store.identity day.1 day.2,
    (days.filter fun day => !store.identity.isComplete day.1 day.2).map fun day =>
      skip store.identity day.1 day.2)

def anchorsBefore : Except String (List Anchor × List Skipped) :=
  store.collectAnchors H day (store.identity.cutoff day)

/-! ### Bootstrap -/

variable (identity : Identity) (text : EnvelopeText) (now : ℤ)

def checkBootstrap (receipt : Receipt) (day : NaiveDate) (now : ℤ) :
    Except String Unit := do
  let dt ← localTime receipt.bar.closeTimeUtc
  ensure (dt.minute % 10 = 0 && dt.time.secs % 60 = 0) "bootstrap requires M10 source grid"
  ensure (dt.date < day && day - dt.date ≤ 14) "bootstrap outside bounded historical window"
  ensure (receipt.bar.symbol = identity.symbol && receipt.bar.origin ≠ .replay)
    "bootstrap contract/origin mismatch"
  match receipt.receivedAtUtc, receipt.durableAtUtc with
  | none, _ => .error "bootstrap missing receipt"
  | some _, none => .error "bootstrap missing durability"
  | some received, some durable =>
    ensure (receipt.bar.closeTimeUtc + 600 ≤ received && received ≤ durable && durable ≤ now)
      "invalid bootstrap clocks"
    ensure (0 < receipt.bar.l && 0 ≤ receipt.bar.v && receipt.bar.l ≤ receipt.bar.o &&
      receipt.bar.o ≤ receipt.bar.h && receipt.bar.l ≤ receipt.bar.close &&
      receipt.bar.close ≤ receipt.bar.h) "invalid bootstrap OHLCV"

def isBootstrapRoute (route : Route) : Bool :=
  route = .contextOnly || route = .duplicate || route = .quarantined .nonModelBar ||
    route = .quarantined .weekendDisabled || route = .quarantined .excludedDate

def bootstrapAll (H : Hashes) (identity : Identity) (day : NaiveDate) (now : ℤ) :
    List Receipt → Store → Except String Store
  | [], staged => .ok staged
  | receipt :: receipts, staged => do
    checkBootstrap identity receipt day now
    let (staged, route) ← staged.ingestInner H receipt now (some (identity.cutoff day))
    ensure (isBootstrapRoute route) "invalid bootstrap receipt"
    bootstrapAll H identity day now receipts staged

/-- The loop that looks for a trading date without an anchor, over so many dates. -/
def checkRegular (identity : Identity) (regular : List NaiveDate) : ℕ → NaiveDate → Except String Unit
  | 0, _ => .ok ()
  | days + 1, date => do
    ensure (!identity.tradingDate date || date ∈ regular)
      "bootstrap missing regular session; approve calendar/history explicitly"
    checkRegular identity regular days (date + 1)

def checkEmpty (receipts : List Receipt) (day : NaiveDate) (now : ℤ) :
    Except String Unit := do
  ensure (store.inputs.isEmpty && store.frozen.entries.isEmpty) "bootstrap requires empty context"
  ensure (store.identity.tradingDate day && now < store.identity.cutoff day)
    "bootstrap must precede first decision cutoff"
  ensure (!receipts.isEmpty && receipts.length ≤ 1024) "bootstrap row bound"

def checkStaged (staged : Store) (day : NaiveDate) :
    Except String Unit := do
  let (anchors, _) ← staged.anchorsBefore H day
  ensure (2 ≤ anchors.length) "bootstrap paired anchors not ready"
  let regular := (anchors.map (·.sessionDate)).filter identity.tradingDate
  ensure (2 ≤ regular.length && regular.length ≤ 4)
    "bootstrap requires 2..4 complete regular sessions"
  let first := regular.headD day
  checkRegular identity regular (day - first).toNat first

def bootstrap (H : Hashes) (store : Store) (receipts : List Receipt) (day : NaiveDate) (now : ℤ) :
    Except String Store := do
  store.checkClock now
  store.checkEmpty receipts day now
  let staged ← bootstrapAll H store.identity day now receipts store
  checkStaged H store.identity staged day
  return { staged with operations := [.bootstrap receipts day now] }

/-! ### Freezes -/

def checkFreeze (barrier : Barrier) :
    Except String Unit := do
  ensure (store.identity.tradingDate day) "non-trading freeze date"
  ensure (store.frozen.length < maxFreezes && store.frozen.keys.getLast?.all (· < day))
    "repeated/backdated freeze or capacity limit"
  ensure (barrier.receiptStream = store.identity.receiptStream &&
    barrier.lastSequence = store.lastSequence && barrier.ingressSha256 = store.ingressSha256 H)
    "incomplete/wrong cutoff prefix"
  ensure (store.identity.cutoff day ≤ barrier.throughUtc &&
    barrier.throughUtc ≤ barrier.attestedAtUtc && barrier.attestedAtUtc ≤ now)
    "missing/premature cutoff attestation"

def frozenOf (barrier : Barrier) (anchors : List Anchor) (skipped : List Skipped) : Frozen where
  identitySha256 := H.identity version store.identity
  sessionDate := day
  cutoffUtc := store.identity.cutoff day
  frozenAtUtc := now
  barrier := barrier
  previous := anchors.getLast?
  previous2 := anchors.dropLast.getLast?
  skipped := skipped

def recordFrozen (value : Frozen) : Store :=
  { store with
    frozen := store.frozen.insert day value
    operations := store.operations ++ [.freeze value]
    clock := some now }

def freeze (barrier : Barrier) :
    Except String (Store × Frozen) := do
  store.checkClock now
  store.checkFreeze H day now barrier
  let (anchors, skipped) ← store.anchorsBefore H day
  let value := store.frozenOf H day now barrier anchors skipped
  return (store.recordFrozen day now value, value)

/-! ### Checkpoints -/

/-- The text of a checkpoint and what it is read as. -/
structure EnvelopeText where
  toVec : Envelope → List UInt8
  fromSlice : List UInt8 → Option Envelope

def payload : Checkpoint :=
  ⟨version, store.identity, store.operations, store.clock⟩

def checkpointBytes (store : Store) :
    Except String (List UInt8) := do
  let bytes := text.toVec ⟨store.payload, H.checkpoint store.payload⟩
  ensure (bytes.length ≤ maxBytes) "context checkpoint limit"
  return bytes

def replay : Operation → Except String Store
  | .bootstrap receipts day now => store.bootstrap H receipts day now
  | .ingest receipt now route => do
    let (store, replayed) ← store.ingest H receipt now
    ensure (replayed = route) "replayed routing mismatch"
    return store
  | .freeze value => do
    let (store, replayed) ← store.freeze H value.sessionDate value.frozenAtUtc value.barrier
    ensure (replayed = value) "replayed frozen context mismatch"
    return store

/-- The order of `Option`: nothing comes before all clocks. -/
def clockLe : Option ℤ → Option ℤ → Bool
  | none, _ => true
  | some _, none => false
  | some a, some b => a ≤ b

def restore (expected : Identity) (bytes : List UInt8) (now : ℤ) : Except String Store := do
  expected.validate
  ensure (bytes.length ≤ maxBytes) "context checkpoint limit"
  match text.fromSlice bytes with
  | none => .error "invalid checkpoint"
  | some saved =>
    let p := saved.payload
    ensure (p.version = version && p.identity = expected && H.checkpoint p = saved.sha256)
      "checkpoint identity/checksum mismatch"
    ensure (p.operations.length ≤ maxInputs + maxFreezes) "context operation limit"
    let start ← new expected
    let result ← p.operations.foldlM (replay H) start
    ensure (clockLe result.clock p.clockFloor && p.clockFloor.all (· ≤ now))
      "invalid restart clock"
    let _ ← localTime now
    return { result with clock := some now }

end Store

/-! ### The calls of a store, on a store that they change in place -/

inductive StoreCall where
  | bootstrap (receipts : List Receipt) (day : NaiveDate) (now : ℤ)
  | ingest (receipt : Receipt) (now : ℤ)
  | freeze (day : NaiveDate) (now : ℤ) (barrier : Barrier)

namespace Store

def ingestInnerInPlace (receipt : Receipt) (now : ℤ) (bootstrapCutoff : Option ℤ) :
    Eff Hashes String Store Route := do
  let H ← Eff.read
  let store ← Eff.get
  Eff.ofExcept (store.checkClock now)
  Eff.ofExcept (store.checkReceipt receipt)
  let fingerprint := receipt.payloadHash H
  let route ← Eff.ofExcept (store.route H receipt now bootstrapCutoff)
  if route.contextUpdateAllowed then
    Eff.modify fun store =>
      { store with canonical := store.canonical.insert receipt.bar.closeTimeUtc receipt }
  Eff.modify fun store =>
    { store with
      sources :=
        if receipt.sourceId ∈ store.sources then store.sources
        else store.sources.insert receipt.sourceId fingerprint }
  Eff.modify fun store => { store with inputs := store.inputs ++ [receipt] }
  Eff.modify fun store => { store with operations := store.operations ++ [.ingest receipt now route] }
  Eff.modify fun store => { store with clock := some now }
  return route

def bootstrapAllInPlace (identity : Identity) (day : NaiveDate) (now : ℤ) :
    List Receipt → Eff Hashes String Store Unit
  | [] => return ()
  | receipt :: receipts => do
    Eff.ofExcept (checkBootstrap identity receipt day now)
    let route ← ingestInnerInPlace receipt now (some (identity.cutoff day))
    Eff.ofExcept (ensure (isBootstrapRoute route) "invalid bootstrap receipt")
    bootstrapAllInPlace identity day now receipts

/-- `bootstrap`, in place: the loop runs over a copy of the store. -/
def bootstrapInPlace (receipts : List Receipt) (day : NaiveDate) (now : ℤ) :
    Eff Hashes String Store Unit := do
  let H ← Eff.read
  let store ← Eff.get
  Eff.ofExcept (store.checkClock now)
  Eff.ofExcept (store.checkEmpty receipts day now)
  let (outcome, staged) := (bootstrapAllInPlace store.identity day now receipts).run H store
  Eff.ofExcept outcome
  Eff.ofExcept (checkStaged H store.identity staged day)
  Eff.modify fun _ => { staged with operations := [.bootstrap receipts day now] }

def freezeInPlace (day : NaiveDate) (now : ℤ) (barrier : Barrier) :
    Eff Hashes String Store Frozen := do
  let H ← Eff.read
  let store ← Eff.get
  Eff.ofExcept (store.checkClock now)
  Eff.ofExcept (store.checkFreeze H day now barrier)
  let (anchors, skipped) ← Eff.ofExcept (store.anchorsBefore H day)
  let value := store.frozenOf H day now barrier anchors skipped
  Eff.modify fun store => { store with frozen := store.frozen.insert day value }
  Eff.modify fun store => { store with operations := store.operations ++ [.freeze value] }
  Eff.modify fun store => { store with clock := some now }
  return value

def performInPlace : StoreCall → Eff Hashes String Store Unit
  | .bootstrap receipts day now => bootstrapInPlace receipts day now
  | .ingest receipt now => (fun _ => ()) <$> ingestInnerInPlace receipt now none
  | .freeze day now barrier => (fun _ => ()) <$> freezeInPlace day now barrier

def call (H : Hashes) (store : Store) (c : StoreCall) : Store := (performInPlace c).post H store

end Store

end AlorRs.ShadowSessionContext
