import AlorRs.Lib.Groups
import AlorRs.StrategyRuntime.RiContext.Store

/-!
# The context of the reaction shadows

A store takes in the bars of the weekdays, and those of the weekends when its policy allows it.  What
it did is a log of operations, which is all that a checkpoint holds.
-/

namespace AlorRs.ShadowSessionContext

open Outcome

def version : String := "weekend_context_cutoff_v1"

def maxInputs : ℕ := 12000

def maxFreezes : ℕ := 128

def maxBytes : ℕ := 32 * 1024 * 1024

/-! ### Times -/

def localTime (epoch : ℤ) : Except String NaiveDateTime :=
  (RiContext.localTime epoch).mapError fun _ => "invalid context timestamp"

def transition : NaiveDate := .fromYmd 2026 7 14

/-- `num_days_from_monday() >= 5`. -/
def isWeekend (date : NaiveDate) : Bool := date.weekday = .sat || date.weekday = .sun

def minuteOfDay (dt : NaiveDateTime) : ℕ := dt.hour * 60 + dt.minute

/-! ### The identity of a store -/

inductive Policy where
  | weekdayOnly | weekendContextNoTrades
deriving DecidableEq, Repr

inductive Profile where
  | imoexfReaction07 | usdrubfPreviousDay07 | usdrubfPreviousDay09
deriving DecidableEq, Repr

structure Identity where
  profile : Profile
  symbol : String
  modelConfigSha256 : String
  receiptStream : String
  policy : Policy
  excludedDates : Finset NaiveDate
deriving DecidableEq

namespace Identity

variable (identity : Identity)

/-- `validate`; the bytes of a text of hexadecimal digits are its characters. -/
def validate : Except String Unit := do
  ensure (identity.symbol = if identity.profile = .imoexfReaction07 then "IMOEXF" else "USDRUBF")
    "profile/contract mismatch"
  ensure (!identity.receiptStream.isEmpty && identity.receiptStream.utf8ByteSize ≤ 256)
    "invalid receipt stream"
  ensure (identity.modelConfigSha256.length = 64 &&
    identity.modelConfigSha256.toList.all RiContext.ContextIdentity.isHexDigit) "invalid config hash"
  ensure (identity.excludedDates.card ≤ 256) "oversized calendar exclusions"

variable (date : NaiveDate)

def openingHour : ℕ :=
  if date < transition ∨ identity.profile = .usdrubfPreviousDay09 then 9 else 7

def tradingDate : Bool :=
  !isWeekend date && !decide (date ∈ identity.excludedDates)

def cutoff : ℤ :=
  date * daySeconds + identity.openingHour date * 3600 - 10800

def nextTrading (identity : Identity) : ℕ → NaiveDate → Option NaiveDate
  | 0, _ => none
  | days + 1, date =>
    if identity.tradingDate date then some date else identity.nextTrading days (date + 1)

/-- `next_cutoff`: the dates end with the last one of `chrono`. -/
def nextCutoff : Except String ℤ :=
  match identity.nextTrading (maxDate - date).toNat (date + 1) with
  | some next => .ok (identity.cutoff next)
  | none => .error "date overflow"

end Identity

/-! ### Receipts and routes -/

structure Receipt where
  sequence : ℕ
  sourceId : String
  bar : BarEvent
  receivedAtUtc : Option ℤ
  durableAtUtc : Option ℤ
deriving DecidableEq, Repr

inductive Reject where
  | wrongContract | nonModelBar | weekendDisabled | excludedDate | invalidOhlcv | missingReceipt
  | missingDurability | invalidClock | barNotClosed | atOrAfterCutoff | unsupportedOrigin
  | conflictingReceipt | conflictingQuote | behindFrozenBarrier
deriving DecidableEq, Repr

inductive Route where
  | contextOnly | duplicate | quarantined (reason : Reject)
deriving DecidableEq, Repr

def Route.contextUpdateAllowed (route : Route) : Bool := route = .contextOnly

structure Barrier where
  receiptStream : String
  throughUtc : ℤ
  lastSequence : ℕ
  ingressSha256 : String
  attestedAtUtc : ℤ
deriving DecidableEq, Repr

/-! ### Frozen contexts -/

structure Anchor where
  sessionDate : NaiveDate
  «open» : ℚ
  high : ℚ
  low : ℚ
  close : ℚ
  range : ℚ
  distinctBars : ℕ
  requiredBars : ℕ
  totalSlots : ℕ
  firstBarUtc : ℤ
  lastBarUtc : ℤ
  latestReceivedAtUtc : ℤ
  latestDurableAtUtc : ℤ
  sourceSequences : List ℕ
  sourceSha256 : String
deriving DecidableEq, Repr

structure Skipped where
  sessionDate : NaiveDate
  distinctBars : ℕ
  requiredBars : ℕ
  firstBarUtc : ℤ
  lastBarUtc : ℤ
  reason : String
deriving DecidableEq, Repr

structure Frozen where
  identitySha256 : String
  sessionDate : NaiveDate
  cutoffUtc : ℤ
  frozenAtUtc : ℤ
  barrier : Barrier
  previous : Option Anchor
  previous2 : Option Anchor
  skipped : List Skipped
deriving DecidableEq, Repr

def Frozen.ready (frozen : Frozen) : Bool := frozen.previous.isSome && frozen.previous2.isSome

/-! ### The store -/

inductive Operation where
  | bootstrap (receipts : List Receipt) (firstDecisionSession : NaiveDate) (processedAtUtc : ℤ)
  | ingest (receipt : Receipt) (processedAtUtc : ℤ) (route : Route)
  | freeze (value : Frozen)
deriving DecidableEq, Repr

structure Checkpoint where
  version : String
  identity : Identity
  operations : List Operation
  clockFloor : Option ℤ
deriving DecidableEq

structure Envelope where
  payload : Checkpoint
  sha256 : String
deriving DecidableEq

structure Store where
  identity : Identity
  operations : List Operation
  inputs : List Receipt
  canonical : OrderedMap ℤ Receipt
  sources : AList fun _ : String => String
  frozen : OrderedMap NaiveDate Frozen
  clock : Option ℤ
deriving DecidableEq

/-- `hash` of the values that are hashed: the digest of the JSON text of the value. -/
structure Hashes where
  payload : String → BarEvent → Option ℤ → Option ℤ → String
  inputs : List Receipt → String
  identity : String → Identity → String
  bars : List Receipt → String
  checkpoint : Checkpoint → String

def Receipt.payloadHash (H : Hashes) (receipt : Receipt) : String :=
  H.payload receipt.sourceId receipt.bar receipt.receivedAtUtc receipt.durableAtUtc

end AlorRs.ShadowSessionContext
