import AlorRs.StrategyRuntime.RiContext.Ingress

/-!
# The transaction log

A log keeps every transaction in a file of its own, chained to the one before it, and a head that
says how many of them there are.  A transaction is released when the head is replaced; a file past
the head is never read.
-/

namespace AlorRs.RiContext

open Outcome

def maxFile : ℕ := 16 * 1024 * 1024

def maxTotal : ℕ := 256 * 1024 * 1024

def maxTransactions : ℕ := 20000

class LogRecord (T : Type) where
  index : T → ℕ
  previousSha256 : T → String

structure Head where
  index : ℕ
  sha256 : String
deriving DecidableEq, Repr

structure FailureMarker where
  errorSha256 : String
  committedTransactions : ℕ
deriving DecidableEq, Repr

inductive LogName where
  | lock | manifest | head | entry (index : ℕ) | failed | temporary (id : ℕ) | other (name : String)
deriving DecidableEq, Repr

/-- What is in a file: the JSON text of a record is the record. -/
inductive LogContent (D T : Type) where
  | lock
  | manifest (checked : Checked D)
  | head (checked : Checked Head)
  | entry (checked : Checked T)
  | failed (checked : Checked FailureMarker)

abbrev LogDirectory (D T : Type) := Directory LogName (LogContent D T)

abbrev LogDisk (D T : Type) := Disk LogName (LogContent D T)

/-- What a step of the log does to its directory. -/
abbrev LogM (D T : Type) := Eff Unit String (LogDisk D T)

/-- The digests of what is hashed and the size of the text of a record. -/
structure LogText (D T : Type) where
  header : D → String
  record : T → String
  head : Head → String
  failure : FailureMarker → String
  error : String → String
  size : LogContent D T → ℕ

namespace LogText

variable {D T : Type} (text : LogText D T)

/-- The size of a file; the lock is empty. -/
def fileSize : LogContent D T → ℕ
  | .lock => 0
  | content => text.size content

/-- `encode`: the size of the text, when it is not too large. -/
def encode (content : LogContent D T) : Except String ℕ := do
  ensure (text.size content ≤ maxFile) "transaction file too large"
  return text.size content

/-- `read`, of a file that was found or not. -/
def read {V : Type} (digest : V → String) (found : Option (Checked V × ℕ)) : Except String V :=
  match found with
  | none => .error "non-regular transaction file"
  | some (saved, size) => do
    ensure (size ≤ maxFile) "oversized transaction file"
    ensure (digest saved.payload = saved.sha256) "transaction checksum mismatch"
    return saved.payload

def readManifest (dir : LogDirectory D T) : Except String D :=
  read text.header (match dir.lookup .manifest with
    | some (.manifest saved) => some (saved, text.size (.manifest saved))
    | _ => none)

def readHead (dir : LogDirectory D T) : Except String Head :=
  read text.head (match dir.lookup .head with
    | some (.head saved) => some (saved, text.size (.head saved))
    | _ => none)

def readEntry (dir : LogDirectory D T) (index : ℕ) : Except String T :=
  read text.record (match dir.lookup (.entry index) with
    | some (.entry saved) => some (saved, text.size (.entry saved))
    | _ => none)

end LogText

structure TransactionLog where
  genesis : String
  hashes : List String
  bytes : ℕ
  failed : Bool
deriving DecidableEq, Repr

namespace TransactionLog

variable {D T : Type} (text : LogText D T) (log : TransactionLog)

def count : ℕ := log.hashes.length

def head : String := log.hashes.getLast?.getD log.genesis

def healthy : Except String Unit :=
  ensure (!log.failed) "shadow runner failed; explicit generation recovery required"

/-- `create`, in a directory that is new. -/
def create (header : D) (ids : ℕ × ℕ) : LogM D T TransactionLog := do
  Disk.step (·.insert .lock .lock)
  let manifest : LogContent D T := .manifest ⟨header, text.header header⟩
  let bytes ← Eff.ofExcept (text.encode manifest)
  Disk.publish (.temporary ids.1) .manifest manifest
  let head : LogContent D T :=
    .head ⟨⟨0, text.header header⟩, text.head ⟨0, text.header header⟩⟩
  let headBytes ← Eff.ofExcept (text.encode head)
  Disk.publish (.temporary ids.2) .head head
  return ⟨text.header header, [], bytes + headBytes, false⟩

/-! ### Opening -/

/-- The transactions that were read, and the names of the files that were not read yet. -/
structure LogOpening (T : Type) where
  names : List LogName
  transactions : List T

/-- The digest that the next transaction is chained to. -/
def previousOf (genesis : String) (transactions : List T) : String :=
  (transactions.map text.record).getLast?.getD genesis

variable [LogRecord T]

/-- The loop over the transactions up to the head, of which so many are left. -/
def readEntries (dir : LogDirectory D T) (genesis : String) :
    ℕ → LogOpening T → Except String (LogOpening T)
  | 0, opening => .ok opening
  | n + 1, opening => do
    let index := opening.transactions.length + 1
    ensure (.entry index ∈ opening.names) "missing committed transaction"
    let tx ← text.readEntry dir index
    ensure (LogRecord.index tx = index &&
      LogRecord.previousSha256 tx = previousOf text genesis opening.transactions)
      "transaction chain mismatch"
    readEntries dir genesis n
      ⟨opening.names.erase (.entry index), opening.transactions ++ [tx]⟩

/-- What is checked of the files before one is read; the lock is there or is made. -/
def checkFiles (dir : LogDirectory D T) : Except String Unit := do
  ensure (dir.keys.all fun name => (dir.lookup name).all (text.fileSize · ≤ maxFile))
    "oversized transaction entry"
  ensure (Directory.total text.fileSize dir ≤ maxTotal) "transaction generation byte limit"
  ensure ((dir.keys.erase .lock).length + 1 ≤ maxTransactions + 3) "too many transaction entries"
  ensure (.manifest ∈ dir.keys && .head ∈ dir.keys) "missing transaction metadata"

/-- `open`. -/
def openLog [DecidableEq D] (dir : LogDirectory D T) (expected : D) :
    Except String (TransactionLog × List T) := do
  checkFiles text dir
  let header ← text.readManifest dir
  ensure (header = expected) "runner manifest/config mismatch"
  let genesis := text.header header
  let head ← text.readHead dir
  ensure (head.index ≤ maxTransactions) "invalid transaction head"
  let names := ((dir.keys.erase .lock).erase .manifest).erase .head
  let opening ← readEntries text dir genesis head.index ⟨names, []⟩
  ensure (head.sha256 = previousOf text genesis opening.transactions) "transaction head mismatch"
  ensure opening.names.isEmpty
    "failed/torn/uncommitted transaction tail; explicit audit required"
  return (⟨genesis, opening.transactions.map text.record, Directory.total text.fileSize dir, false⟩,
    opening.transactions)

/-! ### Appending and reading -/

/-- What `append` checks of a transaction, and the head that is to replace the one that there is. -/
def nextHead (dir : LogDirectory D T) (tx : T) : Except String (Head × ℕ) := do
  log.healthy
  ensure (log.hashes.length < maxTransactions)
    "transaction count limit; explicit rotation required"
  ensure (LogRecord.index tx = log.count + 1 && LogRecord.previousSha256 tx = log.head)
    "invalid transaction append"
  let bytes ← text.encode (.entry ⟨tx, text.record tx⟩)
  let head : Head := ⟨LogRecord.index tx, text.record tx⟩
  let headBytes ← text.encode (.head ⟨head, text.head head⟩)
  match dir.lookup .head with
  | none => .error "missing transaction head"
  | some old =>
    let current ← text.readHead dir
    ensure (current.index = log.count && current.sha256 = log.head)
      "transaction head changed while running"
    ensure (text.fileSize old ≤ log.bytes) "transaction size accounting mismatch"
    ensure (log.bytes + bytes + headBytes ≤ maxTotal)
      "transaction byte limit; explicit rotation required"
    return (head, log.bytes - text.fileSize old + bytes + headBytes)

def append (tx : T) (ids : ℕ × ℕ) : LogM D T TransactionLog := do
  let disk ← Eff.get
  let (head, bytes) ← Eff.ofExcept (log.nextHead text disk.dir tx)
  Disk.publish (.temporary ids.1) (.entry (LogRecord.index tx)) (.entry ⟨tx, text.record tx⟩)
  -- the head is the release boundary: a file beyond it is never replayed
  Disk.replace (.temporary ids.2) .head (.head ⟨head, text.head head⟩)
  return { log with hashes := log.hashes ++ [text.record tx], bytes := bytes }

def read (dir : LogDirectory D T) (index : ℕ) : Except String T := do
  log.healthy
  ensure (0 < index && index ≤ log.count) "output is not committed"
  let tx ← text.readEntry dir index
  ensure (log.hashes[index - 1]? = some (text.record tx)) "committed output changed"
  return tx

/-- `fail`: the log is failed whether or not the mark of it can be published. -/
def fail (error : String) (id : ℕ) : LogM D T TransactionLog := do
  let marker : FailureMarker := ⟨text.error error, log.count⟩
  let content : LogContent D T := .failed ⟨marker, text.failure marker⟩
  let _ ← Eff.attempt (do
    let _ ← Eff.ofExcept (text.encode content)
    Disk.publish (.temporary id) .failed content)
  return { log with failed := true }

end TransactionLog

end AlorRs.RiContext
