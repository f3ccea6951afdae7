import AlorRs.Lib.Directory
import AlorRs.RustText
import AlorRs.StrategyRuntime.RiContext.Store

/-!
# The journal of receipts

A collector writes every payload that it observes into a directory of its own, as a raw record and,
once that is durable, a commit record that is chained to the one before it.  A barrier attests that
the journal was complete up to a cutoff.
-/

namespace AlorRs.RiContext

open Outcome

def ingressVersion : String := "ri_shadow_receipt_journal_v1"

def maxRecords : ℕ := 10000

def maxBarriers : ℕ := 128

def maxRawBytes : ℕ := 32 * 1024

def maxFileBytes : ℕ := 256 * 1024

def maxTotalBytes : ℕ := 64 * 1024 * 1024

/-! ### Records -/

structure IngressIdentity where
  generation : String
  receiptStream : String
  sourceStream : String
  symbol : String
deriving DecidableEq, Repr

def IngressIdentity.validate (identity : IngressIdentity) : Except String Unit :=
  ensure ([identity.generation, identity.receiptStream, identity.sourceStream, identity.symbol].all
    fun value => !isBlank value && value.utf8ByteSize ≤ 512) "invalid ingress identity"

structure Manifest where
  version : String
  identity : IngressIdentity
  createdAtUtc : ℤ
deriving DecidableEq, Repr

structure RawReceipt where
  sequence : ℕ
  sourceId : String
  rawBarJson : String
  receivedAtUtc : ℤ
  previousCommitSha256 : String
deriving DecidableEq, Repr

structure Commit where
  sequence : ℕ
  rawSha256 : String
  durableAtUtc : ℤ
deriving DecidableEq, Repr

structure StoredBarrier where
  barrier : ReceiptBarrier
  lastCommitSha256 : String
deriving DecidableEq, Repr

structure IngressFault where
  sourceIdSha256 : String
  rawBytes : ℕ
  rawSha256 : String
deriving DecidableEq, Repr

/-- A payload with its digest. -/
structure Checked (T : Type) where
  payload : T
  sha256 : String
deriving DecidableEq, Repr

structure Row where
  raw : RawReceipt
  commit : Commit
deriving DecidableEq, Repr

structure AppendReceipt where
  sequence : ℕ
  redelivery : Bool
  input : Except String ContextInput

/-! ### Files -/

inductive FileName where
  | lock | manifest | raw (sequence : ℕ) | commit (sequence : ℕ) | barrier (ordinal : ℕ) | failed
  | temporary (id : ℕ)
deriving DecidableEq, Repr

/-- What is in a file: the JSON text of a record is the record. -/
inductive FileContent where
  | lock
  | manifest (checked : Checked Manifest)
  | raw (checked : Checked RawReceipt)
  | commit (checked : Checked Commit)
  | barrier (checked : Checked StoredBarrier)
  | fault (checked : Checked IngressFault)
deriving DecidableEq, Repr

abbrev IngressDirectory := Directory FileName FileContent

abbrev IngressDisk := Disk FileName FileContent

/-- What a step of the journal does to its directory. -/
abbrev IngressM := Eff Unit String IngressDisk

/-- The digests of what is hashed, the size of the text of a record and the bar that is read of a
payload. -/
structure IngressText where
  H : Hashes
  manifest : Manifest → String
  raw : RawReceipt → String
  commit : Commit → String
  barrier : StoredBarrier → String
  fault : IngressFault → String
  digest : String → String
  size : FileContent → ℕ
  fromStr : String → Option BarEvent

namespace IngressText

def fileSize (text : IngressText) : FileContent → ℕ
  | .lock => 0
  | content => text.size content

def publishNew (text : IngressText) (temporary : ℕ) (name : FileName) (content : FileContent) :
    IngressM ℕ := do
  if maxFileBytes < text.size content then Eff.fail "oversized ingress record"
  else
    Disk.publish (.temporary temporary) name content
    return text.size content

end IngressText

def Row.input (text : IngressText) (row : Row) : Except String ContextInput :=
  match text.fromStr row.raw.rawBarJson with
  | none => .error "invalid bar retained in ingress audit; context consumption blocked"
  | some bar => .ok ⟨row.raw.sequence, bar, some row.raw.receivedAtUtc, some row.commit.durableAtUtc⟩

def validateSource (sourceId raw : String) : Except String Unit := do
  ensure (!isBlank sourceId && sourceId.utf8ByteSize ≤ 512) "invalid ingress source id"
  ensure (raw.utf8ByteSize ≤ maxRawBytes) "oversized ingress payload"

/-! ### The journal -/

structure RiIngressJournal where
  manifest : Manifest
  rows : List Row
  bySource : AList fun _ : String => ℕ
  barriers : List StoredBarrier
  totalBytes : ℕ
  clockFloor : ℤ
  poisoned : Bool

namespace RiIngressJournal

variable (text : IngressText) (journal : RiIngressJournal)

def lastSequence : ℕ := journal.rows.length

def now (reading : ℤ) : Except String Unit := do
  ensure (!journal.poisoned) "ingress writer failed; reopen and audit before continuing"
  let _ ← localTime reading
  ensure (journal.clockFloor ≤ reading) "ingress clock regression"

def commitHashAt : ℕ → Except String String
  | 0 => .ok (text.manifest journal.manifest)
  | i + 1 =>
    match journal.rows[i]? with
    | none => .error "missing ingress sequence"
    | some row => .ok (text.commit row.commit)

def lastCommitHash : Except String String := journal.commitHashAt text journal.lastSequence

def inputsHashThrough (sequence : ℕ) : Except String String := do
  ensure (sequence ≤ journal.lastSequence) "missing ingress sequence"
  let digests ← (journal.rows.take sequence).mapM fun row =>
    (row.input text).map fun input => (row.raw.sequence, text.H.input input)
  return text.H.digests digests

def inputPrefix (reading : ℤ) (sequence : ℕ) : Except String (List ContextInput) := do
  journal.now reading
  ensure (sequence ≤ journal.lastSequence) "missing ingress sequence"
  (journal.rows.take sequence).mapM (Row.input text)

def lastSourceId : Option String := journal.rows.getLast?.map fun row => row.raw.sourceId

def sourceIdAt (sequence : ℕ) : Except String (Option String) := do
  ensure (sequence ≤ journal.lastSequence) "missing ingress sequence"
  return match sequence with
    | 0 => none
    | i + 1 => journal.rows[i]?.map fun row => row.raw.sourceId

def containsBarrier (barrier : ReceiptBarrier) : Bool :=
  journal.barriers.any fun saved => saved.barrier = barrier

/-! ### Appending -/

structure AppendClock where
  received : ℤ
  durable : ℤ
  completed : ℤ

/-- The names under which a call of `append` writes its records first. -/
structure AppendNames where
  raw : ℕ
  commit : ℕ
  fault : ℕ

/-- A row that was committed, with the size of its files. -/
def withRow (row : Row) (bytes : ℕ) (completed : ℤ) : RiIngressJournal :=
  { journal with
    rows := journal.rows ++ [row]
    bySource := journal.bySource.insert row.raw.sourceId journal.rows.length
    totalBytes := journal.totalBytes + bytes
    clockFloor := completed }

/-- The two files of a new record. -/
def publishRow (raw : RawReceipt) (clock : AppendClock) (names : AppendNames) :
    IngressM (Commit × ℕ) := do
  let rawBytes ← text.publishNew names.raw (.raw raw.sequence) (.raw ⟨raw, text.raw raw⟩)
  Eff.ofExcept (journal.now clock.durable)
  Eff.ofExcept (ensure (raw.receivedAtUtc ≤ clock.durable)
    "ingress clock regressed during payload sync")
  let commit : Commit := ⟨raw.sequence, text.raw raw, clock.durable⟩
  let bytes ← text.publishNew names.commit (.commit raw.sequence) (.commit ⟨commit, text.commit commit⟩)
  Eff.ofExcept (journal.now clock.completed)
  Eff.ofExcept (ensure (clock.durable ≤ clock.completed)
    "ingress clock regressed during commit sync")
  return (commit, rawBytes + bytes)

def newRaw (sourceId rawBarJson : String) (received : ℤ) : Except String RawReceipt := do
  ensure (journal.rows.length < maxRecords) "ingress record limit; explicit rotation required"
  -- the worst case is reserved before either half of a record is written
  ensure (journal.totalBytes + 2 * maxFileBytes ≤ maxTotalBytes)
    "ingress byte limit; explicit rotation required"
  let previous ← journal.lastCommitHash text
  return ⟨journal.lastSequence + 1, sourceId, rawBarJson, received, previous⟩

def rowOf (sourceId : String) : Option Row :=
  (journal.bySource.lookup sourceId).bind (journal.rows[·]?)

def appendInner (sourceId rawBarJson : String) (clock : AppendClock) (names : AppendNames) :
    IngressM (RiIngressJournal × AppendReceipt) := do
  Eff.ofExcept (journal.now clock.received)
  Eff.ofExcept (validateSource sourceId rawBarJson)
  match journal.rowOf sourceId with
  | some row =>
    Eff.ofExcept (ensure (row.raw.rawBarJson = rawBarJson) "conflicting upstream redelivery")
    return ({ journal with clockFloor := clock.received }, ⟨row.raw.sequence, true, row.input text⟩)
  | none =>
    let raw ← Eff.ofExcept (journal.newRaw text sourceId rawBarJson clock.received)
    let (commit, bytes) ← journal.publishRow text raw clock names
    let row : Row := ⟨raw, commit⟩
    return (journal.withRow row bytes clock.completed, ⟨raw.sequence, false, row.input text⟩)

/-- `append`: after a failure nothing is written any more but the mark of it. -/
def append (sourceId rawBarJson : String) (clock : AppendClock) (names : AppendNames) :
    IngressM (RiIngressJournal × Except String AppendReceipt) := do
  if journal.poisoned then
    return (journal, .error "ingress writer failed; explicit recovery required")
  else
    match ← Eff.attempt (journal.appendInner text sourceId rawBarJson clock names) with
    | .ok (journal', receipt) => return (journal', .ok receipt)
    | .error e =>
      let fault : IngressFault :=
        ⟨text.digest sourceId, rawBarJson.utf8ByteSize, text.digest rawBarJson⟩
      let _ ← Eff.attempt (text.publishNew names.fault .failed (.fault ⟨fault, text.fault fault⟩))
      return ({ journal with poisoned := true }, .error e)

/-! ### Barriers -/

def validateBarrier (saved : StoredBarrier) : Except String Unit := do
  let b := saved.barrier
  let _ ← localTime b.throughUtc
  let _ ← localTime b.attestedAtUtc
  ensure (b.receiptStream = journal.manifest.identity.receiptStream &&
    b.lastSequence ≤ journal.lastSequence) "wrong ingress barrier identity/sequence"
  ensure (journal.manifest.createdAtUtc ≤ b.throughUtc && b.throughUtc ≤ b.attestedAtUtc)
    "invalid ingress barrier clock"
  let inputs ← journal.inputsHashThrough text b.lastSequence
  let commit ← journal.commitHashAt text b.lastSequence
  ensure (b.ingressSha256 = inputs && saved.lastCommitSha256 = commit)
    "ingress barrier checksum mismatch"
  ensure (b.lastSequence = 0 || (journal.rows[b.lastSequence - 1]?).all fun row =>
    row.commit.durableAtUtc ≤ b.attestedAtUtc) "barrier before included commit"
  ensure ((journal.rows[b.lastSequence]?).all fun next => b.attestedAtUtc ≤ next.raw.receivedAtUtc)
    "backdated receipt behind sealed barrier"
  ensure (journal.barriers.getLast?.all fun previous =>
    previous.barrier.throughUtc < b.throughUtc &&
      previous.barrier.attestedAtUtc ≤ b.attestedAtUtc &&
        previous.barrier.lastSequence ≤ b.lastSequence) "ingress barrier regression"

def newBarrier (throughUtc reading : ℤ) : Except String StoredBarrier := do
  ensure (journal.barriers.length < maxBarriers) "ingress barrier limit; explicit rotation required"
  ensure (journal.totalBytes + maxFileBytes ≤ maxTotalBytes) "ingress byte limit"
  let inputs ← journal.inputsHashThrough text journal.lastSequence
  let commit ← journal.lastCommitHash text
  let saved : StoredBarrier := ⟨⟨journal.manifest.identity.receiptStream, throughUtc,
    journal.lastSequence, inputs, reading⟩, commit⟩
  journal.validateBarrier text saved
  return saved

def checkCutoff (throughUtc reading : ℤ) : Except String Unit := do
  journal.now reading
  let _ ← localTime throughUtc
  ensure (throughUtc ≤ reading && journal.manifest.createdAtUtc ≤ throughUtc)
    "cutoff outside collector lifetime"

/-- A barrier that was sealed, with the size of its file. -/
def withBarrier (saved : StoredBarrier) (bytes : ℕ) (reading : ℤ) : RiIngressJournal :=
  { journal with
    barriers := journal.barriers ++ [saved]
    totalBytes := journal.totalBytes + bytes
    clockFloor := reading }

def sealCutoff (throughUtc reading : ℤ) (temporary : ℕ) :
    IngressM (RiIngressJournal × Except String ReceiptBarrier) := do
  match journal.checkCutoff throughUtc reading with
  | .error e => return (journal, .error e)
  | .ok () =>
    match journal.barriers.find? fun saved => saved.barrier.throughUtc = throughUtc with
    | some saved => return (journal, .ok saved.barrier)
    | none =>
      match journal.newBarrier text throughUtc reading with
      | .error e => return (journal, .error e)
      | .ok saved =>
        let name := FileName.barrier (journal.barriers.length + 1)
        match ← Eff.attempt
            (text.publishNew temporary name (.barrier ⟨saved, text.barrier saved⟩)) with
        | .error e => return ({ journal with poisoned := true }, .error e)
        | .ok bytes => return (journal.withBarrier saved bytes reading, .ok saved.barrier)

/-! ### Creation and opening -/

def create (identity : IngressIdentity) (reading : ℤ) (temporary : ℕ) :
    IngressM RiIngressJournal := do
  Eff.ofExcept identity.validate
  let _ ← Eff.ofExcept (localTime reading)
  Disk.step (·.insert .lock .lock)
  let manifest : Manifest := ⟨ingressVersion, identity, reading⟩
  let bytes ← text.publishNew temporary .manifest (.manifest ⟨manifest, text.manifest manifest⟩)
  return ⟨manifest, [], ∅, [], bytes, reading, false⟩

/-- A journal that is being read, and the names of the files that were not read yet. -/
structure Opening where
  names : List FileName
  journal : RiIngressJournal

def checked {T : Type} (digest : T → String) (read : Option (Checked T)) : Except String T :=
  match read with
  | none => .error "invalid ingress file"
  | some saved =>
    if digest saved.payload = saved.sha256 then .ok saved.payload
    else .error "ingress file checksum mismatch"

variable (dir : IngressDirectory)

def readManifest : Except String Manifest :=
  checked text.manifest (match dir.lookup .manifest with
    | some (.manifest saved) => some saved
    | _ => none)

def readRaw (sequence : ℕ) : Except String RawReceipt :=
  checked text.raw (match dir.lookup (.raw sequence) with
    | some (.raw saved) => some saved
    | _ => none)

def readCommit (sequence : ℕ) : Except String Commit :=
  checked text.commit (match dir.lookup (.commit sequence) with
    | some (.commit saved) => some saved
    | _ => none)

def readBarrier (ordinal : ℕ) : Except String StoredBarrier :=
  checked text.barrier (match dir.lookup (.barrier ordinal) with
    | some (.barrier saved) => some saved
    | _ => none)

def readRow (raw : RawReceipt) (commit : Commit) : Except String RiIngressJournal := do
  validateSource raw.sourceId raw.rawBarJson
  ensure (raw.sequence = journal.lastSequence + 1 && commit.sequence = journal.lastSequence + 1)
    "ingress sequence mismatch"
  let previous ← journal.lastCommitHash text
  ensure (commit.rawSha256 = text.raw raw && raw.previousCommitSha256 = previous)
    "ingress chain mismatch"
  let _ ← localTime raw.receivedAtUtc
  let _ ← localTime commit.durableAtUtc
  ensure (journal.clockFloor ≤ raw.receivedAtUtc && raw.receivedAtUtc ≤ commit.durableAtUtc)
    "ingress clock regression"
  ensure ((journal.bySource.lookup raw.sourceId).isNone) "duplicate committed source id"
  return { journal with
    clockFloor := commit.durableAtUtc
    bySource := journal.bySource.insert raw.sourceId journal.rows.length
    rows := journal.rows ++ [⟨raw, commit⟩] }

/-- The loop over the records, of which there are so many at most. -/
def readRows (dir : IngressDirectory) : ℕ → Opening → Except String Opening
  | 0, opening => .ok opening
  | fuel + 1, opening =>
    let sequence := opening.journal.lastSequence + 1
    if .raw sequence ∉ opening.names ∧ .commit sequence ∉ opening.names then .ok opening
    else do
      ensure (.raw sequence ∈ opening.names && .commit sequence ∈ opening.names)
        "uncommitted ingress tail; explicit recovery required"
      let raw ← readRaw text dir sequence
      let commit ← readCommit text dir sequence
      let journal ← opening.journal.readRow text raw commit
      readRows dir fuel
        ⟨(opening.names.erase (.raw sequence)).erase (.commit sequence), journal⟩

def readBarriers (dir : IngressDirectory) : ℕ → Opening → Except String Opening
  | 0, opening => .ok opening
  | fuel + 1, opening =>
    let ordinal := opening.journal.barriers.length + 1
    if .barrier ordinal ∉ opening.names then .ok opening
    else do
      let saved ← readBarrier text dir ordinal
      opening.journal.validateBarrier text saved
      readBarriers dir fuel ⟨opening.names.erase (.barrier ordinal),
        { opening.journal with
          clockFloor := max opening.journal.clockFloor saved.barrier.attestedAtUtc
          barriers := opening.journal.barriers ++ [saved] }⟩

def checkFiles : Except String Unit := do
  ensure (dir.keys.all fun name => (dir.lookup name).all (text.fileSize · ≤ maxFileBytes))
    "oversized ingress file"
  ensure (Directory.total text.fileSize dir ≤ maxTotalBytes) "ingress generation full"
  ensure (dir.keys.length ≤ maxRecords * 2 + maxBarriers + 2) "too many ingress files"
  ensure (.manifest ∈ dir.keys) "missing ingress manifest"

/-- All that `open` does before it looks at the clock. -/
def load (expected : IngressIdentity) :
    Except String RiIngressJournal := do
  expected.validate
  checkFiles text dir
  let manifest ← readManifest text dir
  ensure (manifest.version = ingressVersion && manifest.identity = expected)
    "ingress identity mismatch"
  let _ ← localTime manifest.createdAtUtc
  let journal : RiIngressJournal :=
    ⟨manifest, [], ∅, [], Directory.total text.fileSize dir, manifest.createdAtUtc, false⟩
  let rows ← readRows text dir maxRecords ⟨(dir.keys.erase .lock).erase .manifest, journal⟩
  let opening ← readBarriers text dir maxBarriers rows
  ensure opening.names.isEmpty
    "unknown, missing or incomplete ingress files; explicit recovery required"
  return opening.journal

/-- `open_with_clock`; the lock is there or is made, and is not looked at. -/
def openWithClock (expected : IngressIdentity) (reading : ℤ) :
    Except String RiIngressJournal := do
  let journal ← load text dir expected
  journal.now reading
  return { journal with clockFloor := reading }

/-! ### Replay -/

def replayRows (processedAtUtc : ℤ) : List Row → RiContextStore → Except String RiContextStore
  | [], store => .ok store
  | row :: rows, store => do
    ensure (row.commit.durableAtUtc ≤ processedAtUtc) "processing before durable receipt"
    let input ← row.input text
    let (store, _) ← store.ingest text.H input processedAtUtc
    replayRows processedAtUtc rows store

def replayThrough (store : RiContextStore) (sequence : ℕ) (processedAtUtc reading : ℤ) :
    Except String RiContextStore := do
  journal.now reading
  ensure (processedAtUtc ≤ reading) "future context processing timestamp"
  ensure (store.state.identity.receiptStream = journal.manifest.identity.receiptStream &&
    store.state.identity.symbol = journal.manifest.identity.symbol)
    "context/collector identity mismatch"
  ensure (store.lastSequence ≤ sequence && sequence ≤ journal.lastSequence)
    "invalid context replay prefix"
  let consumed ← store.ingressSha256 text.H
  let expected ← journal.inputsHashThrough text store.lastSequence
  ensure (consumed = expected) "context checkpoint diverges from ingress prefix"
  store.checkClock processedAtUtc
  replayRows text processedAtUtc ((journal.rows.take sequence).drop store.lastSequence) store

end RiIngressJournal

end AlorRs.RiContext
