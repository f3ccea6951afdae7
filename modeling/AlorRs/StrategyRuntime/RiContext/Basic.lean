import Mathlib.Algebra.Order.Ring.Rat
import AlorRs.Chrono
import AlorRs.Lib.OrderedMap
import AlorRs.Lib.Outcome
import AlorRs.StrategyRuntime.StrategyHost

/-!
# The frozen context of RI

A store takes in bars with the evidence of their receipt, keeps one bar for each close time, and
freezes, at the cutoff of a session, what the two complete sessions before it were.
-/

namespace AlorRs.RiContext

open Outcome

/-! ### Times -/

/-- `local`: an instant in Moscow. -/
def localTime (epoch : ℤ) : Except String NaiveDateTime :=
  if timestampInRange epoch && timestampInRange (epoch + 10800) then
    .ok (LocalDateTime.mk epoch 10800).naiveLocal
  else .error "invalid Moscow timestamp"

def localTime? (epoch : ℤ) : Option NaiveDateTime := (localTime epoch).toOption

def time (hour minute : ℕ) : NaiveTime := .fromHms hour minute 0

/-! ### The identity of a store -/

inductive ContextPolicy where
  | runtimeAcceptedOnly | riConfirmedClosingContextV1
deriving DecidableEq, Repr

structure ContextIdentity where
  profileId : String
  symbol : String
  numericalConfigSha256 : String
  modelFeedPolicy : String
  receiptStream : String
  policy : ContextPolicy
  modelOpenHour : ℕ
  excludedDates : Finset NaiveDate
deriving DecidableEq

namespace ContextIdentity

def isHexDigit (c : Char) : Bool :=
  c.isDigit || ('a' ≤ c && c ≤ 'f') || ('A' ≤ c && c ≤ 'F')

variable (identity : ContextIdentity)

/-- `validate`; the bytes of a text of hexadecimal digits are its characters. -/
def validate : Except String Unit := do
  ensure (!identity.profileId.isEmpty && !identity.symbol.isEmpty &&
    !identity.receiptStream.isEmpty) "empty context identity"
  ensure (identity.numericalConfigSha256.length = 64 &&
    identity.numericalConfigSha256.toList.all isHexDigit) "invalid config hash"
  ensure (identity.modelFeedPolicy = "micro_regular_v1")
    "context comparison requires micro_regular_v1"
  ensure (identity.modelOpenHour = 7 || identity.modelOpenHour = 9) "unsupported model clock"

variable (date : NaiveDate)

/-- `opening_hour`; the model clock was moved on the fourteenth of July 2026. -/
def openingHour : ℕ :=
  if date < .fromYmd 2026 7 14 then 9 else identity.modelOpenHour

def regularDate : Bool :=
  date.weekday ≠ .sat && date.weekday ≠ .sun && !decide (date ∈ identity.excludedDates)

def cutoff : ℤ :=
  date * daySeconds + (time (identity.openingHour date) 0).secs - 10800

def nextRegular (identity : ContextIdentity) : ℕ → NaiveDate → Option NaiveDate
  | 0, _ => none
  | days + 1, date =>
    if identity.regularDate date then some date else identity.nextRegular days (date + 1)

/-- `next_cutoff`: the dates end with the last one of `chrono`. -/
def nextCutoff : Except String ℤ :=
  match identity.nextRegular (maxDate - date).toNat (date + 1) with
  | some next => .ok (identity.cutoff next)
  | none => .error "date overflow"

end ContextIdentity

/-! ### Inputs and routes -/

structure ContextInput where
  sequence : ℕ
  bar : BarEvent
  receivedAtUtc : Option ℤ
  durableAtUtc : Option ℤ
deriving DecidableEq, Repr

inductive QuarantineReason where
  | wrongContract | nonModelBar | invalidOhlcv | missingReceipt | missingDurability
  | invalidReceiptClock | barNotClosed | atOrAfterCutoff | recoveryDisabled | nonClosingRecovery
  | unsupportedOrigin | conflictingQuote | behindFrozenBarrier
deriving DecidableEq, Repr

inductive ContextRoute where
  | contextOnly | duplicateQuote | quarantined (reason : QuarantineReason)
deriving DecidableEq, Repr

def ContextRoute.contextUpdateAllowed (route : ContextRoute) : Bool := route = .contextOnly

structure ReceiptRecord where
  sequence : ℕ
  inputSha256 : String
  processedAtUtc : ℤ
  route : ContextRoute
deriving DecidableEq, Repr

structure ReceiptBarrier where
  receiptStream : String
  throughUtc : ℤ
  lastSequence : ℕ
  ingressSha256 : String
  attestedAtUtc : ℤ
deriving DecidableEq, Repr

/-! ### Frozen contexts -/

structure SessionAnchor where
  sessionDate : NaiveDate
  high : ℚ
  low : ℚ
  close : ℚ
  range : ℚ
  distinctBars : ℕ
  firstBarUtc : ℤ
  lastBarUtc : ℤ
  latestDurableAtUtc : ℤ
  requiredBars : ℕ
  sourceSha256 : String
deriving DecidableEq, Repr

structure SkippedSession where
  date : NaiveDate
  distinctBars : ℕ
  firstBarUtc : ℤ
  lastBarUtc : ℤ
deriving DecidableEq, Repr

structure FrozenContext where
  identitySha256 : String
  sessionDate : NaiveDate
  cutoffUtc : ℤ
  frozenAtUtc : ℤ
  barrier : ReceiptBarrier
  previous : Option SessionAnchor
  previous2 : Option SessionAnchor
  skippedIncomplete : List SkippedSession
deriving DecidableEq, Repr

def FrozenContext.ready (frozen : FrozenContext) : Bool :=
  frozen.previous.isSome && frozen.previous2.isSome

structure Checkpoint where
  version : String
  identity : ContextIdentity
  canonical : OrderedMap ℤ ContextInput
  journal : List ReceiptRecord
  frozen : OrderedMap NaiveDate FrozenContext
  lastProcessedAtUtc : Option ℤ
deriving DecidableEq

structure CheckpointEnvelope where
  payload : Checkpoint
  payloadSha256 : String
deriving DecidableEq

structure RiContextStore where
  state : Checkpoint
deriving DecidableEq

/-- `hash` of the values that are hashed: the digest of the JSON text of the value. -/
structure Hashes where
  identity : ContextIdentity → String
  input : ContextInput → String
  digests : List (ℕ × String) → String
  bars : List ContextInput → String
  frozen : FrozenContext → String
  checkpoint : Checkpoint → String

end AlorRs.RiContext
