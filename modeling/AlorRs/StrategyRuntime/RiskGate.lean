import AlorRs.Chrono
import AlorRs.RustText
import Mathlib.Data.List.DropRight
import Mathlib.Data.List.Sort
import Mathlib.Data.Rat.Cast.Order

/-!
# The risk gate of the mean reversion

A ledger has one row for each regular session with the points that the mean reversion has made,
or would have made.  It is enabled for a session if the sum over the last 120 complete sessions
before it is positive, and disabled while there are fewer than 60.
-/

namespace AlorRs

/-! ### Rows -/

inductive RiskGateRowSource where
  | seed | runtime
deriving DecidableEq, Repr

inductive RiskGateRowStatus where
  | complete | incomplete
deriving DecidableEq, Repr

structure RiskGateSessionRow where
  sessionDate : NaiveDate
  shadowPnlPoints : ℚ
  shadowTradeCount : ℕ
  rollingSumBeforeSession : ℚ
  mrEnabledForSession : Bool
  source : RiskGateRowSource
  status : RiskGateRowStatus
deriving DecidableEq, Repr

/-- Why an operation of the risk gate fails, with what its message shows. -/
inductive RiskGateError where
  | weekendSession (date : NaiveDate)
  | notStrictlyIncreasing (date prev : NaiveDate)
  | runtimeRowAtWeekend (date : NaiveDate)
  | runtimeRowNotAfterTail (date : NaiveDate)
  | ledgerAlreadyExists
  | noSeedRows
  | ledgerBehindSeed (existing seed : NaiveDate)
  | ledgerEmpty
  | noRebuiltRows
  | identityMismatch (field actual expected : String)
  | fieldMissing (field : String)
  | noRecord
deriving DecidableEq, Repr

/-- Neither Saturday nor Sunday. -/
def NaiveDate.isWeekend (date : NaiveDate) : Bool := date.weekday = .sat || date.weekday = .sun

def validateAfter (prev : Option NaiveDate) : List RiskGateSessionRow → Except RiskGateError Unit
  | [] => .ok ()
  | row :: rows =>
    if row.sessionDate.isWeekend then .error (.weekendSession row.sessionDate)
    else
      match prev with
      | some prevDate =>
        if row.sessionDate ≤ prevDate then .error (.notStrictlyIncreasing row.sessionDate prevDate)
        else validateAfter (some row.sessionDate) rows
      | none => validateAfter (some row.sessionDate) rows

variable (rows : List RiskGateSessionRow) (identity : RiskGateProfileIdentity)

def validateRegularSessionLedger : Except RiskGateError Unit :=
  validateAfter none rows

def datesBetween (first last : NaiveDate) : List NaiveDate :=
  (List.range (last - first - 1).toNat).map fun (i : ℕ) => first + 1 + (i : ℤ)

def recentRegularWeekdayGaps (lookbackDays : ℤ) :
    Except RiskGateError (List NaiveDate) := do
  validateRegularSessionLedger rows
  match rows.getLast? with
  | none => return []
  | some last =>
    let cutoff := max (last.sessionDate - max lookbackDays 0) minDate
    return (rows.zip rows.tail).flatMap fun (row, next) =>
      (datesBetween row.sessionDate next.sessionDate).filter fun date =>
        decide (cutoff ≤ date) && !NaiveDate.isWeekend date

def NaiveDate.succOpt (date : NaiveDate) : Option NaiveDate :=
  if date < maxDate then some (date + 1) else none

/-- The inner loop of `recent_regular_weekday_gaps`. -/
def scanGap (cutoff next : NaiveDate) (gaps : List NaiveDate) (date : Option NaiveDate) :
    List NaiveDate :=
  match date with
  | none => gaps
  | some candidate =>
    if candidate < next then
      scanGap cutoff next
        (if cutoff ≤ candidate && !NaiveDate.isWeekend candidate then gaps ++ [candidate] else gaps)
        (NaiveDate.succOpt candidate)
    else gaps
termination_by date.elim 0 fun candidate => (next - candidate).toNat
decreasing_by
  have hlt := Int.sub_pos_of_lt ‹candidate < next›
  unfold NaiveDate.succOpt
  split_ifs
  all_goals
    simp only [Option.elim_some, Option.elim_none]
    omega

def durationDays (days : ℤ) : Option ℤ :=
  if (days * daySeconds).natAbs ≤ (2 ^ 63 - 1) / 1000 then some days else none

def scanRegularWeekdayGaps (lookbackDays : ℤ) : Option (Except RiskGateError (List NaiveDate)) :=
  match validateRegularSessionLedger rows with
  | .error error => some (.error error)
  | .ok () =>
    match rows.getLast? with
    | none => some (.ok [])
    | some last =>
      (durationDays (max lookbackDays 0)).map fun days =>
        let cutoff := max (last.sessionDate - days) minDate
        .ok ((rows.zip rows.tail).foldl (fun gaps pair =>
          scanGap cutoff pair.2.sessionDate gaps (NaiveDate.succOpt pair.1.sessionDate)) [])

/-! ### The gate -/

def lookbackSessions : ℕ := 120

def minHistorySessions : ℕ := 60

def rollingSum (completeRows : List RiskGateSessionRow) (lookback minHistory : ℕ) : Option ℚ :=
  if completeRows.length < minHistory then none
  else some ((completeRows.rtake lookback).map (·.shadowPnlPoints)).sum

def rollingShadowPnlBeforeNextSession (lookback minHistory : ℕ) : Option ℚ :=
  rollingSum (rows.filter fun row => row.status = .complete) lookback minHistory

variable (records : List RiskGateLedgerRecord) (mode : RiskGateStartupMode)
  (sessionDate : NaiveDate) (existingRows : List RiskGateSessionRow)
  (existingRecords : List RiskGateLedgerRecord) (seedRows : List RiskGateSessionRow)
  (identity : RiskGateProfileIdentity)

def rollingShadowPnlBeforeSession (lookback minHistory : ℕ) : Option ℚ :=
  rollingSum (rows.filter fun row => row.status = .complete && row.sessionDate < sessionDate)
    lookback minHistory

def buildRuntimeSessionRow (sessionDate : NaiveDate) (shadowPnlPoints : ℚ) (shadowTradeCount : ℕ)
    : Except RiskGateError RiskGateSessionRow := do
  validateRegularSessionLedger existingRows
  if sessionDate.isWeekend then throw (.runtimeRowAtWeekend sessionDate)
  if existingRows.getLast?.any fun row => sessionDate ≤ row.sessionDate then
    throw (.runtimeRowNotAfterTail sessionDate)
  let rollingSumBeforeSession :=
    (rollingShadowPnlBeforeSession existingRows sessionDate lookbackSessions
      minHistorySessions).getD 0
  return {
    sessionDate := sessionDate
    shadowPnlPoints := shadowPnlPoints
    shadowTradeCount := shadowTradeCount
    rollingSumBeforeSession := rollingSumBeforeSession
    mrEnabledForSession := decide (0 < rollingSumBeforeSession)
    source := .runtime
    status := .complete }

/-! ### Records -/

structure RiskGateProfileIdentity where
  profileId : String
  mrVariant : String
  timeframe : String
  sessionPolicy : String
  legacySessionPolicy : Option String
  sessionPolicyTransitionDate : Option NaiveDate
  modelVersion : String
deriving DecidableEq, Repr

def RiskGateProfileIdentity.sessionPolicyForDate (sessionDate : NaiveDate) : String :=
  match identity.legacySessionPolicy, identity.sessionPolicyTransitionDate with
  | some legacy, some transitionDate =>
    if sessionDate < transitionDate then legacy else identity.sessionPolicy
  | _, _ => identity.sessionPolicy

structure RiskGateLedgerRecord where
  row : RiskGateSessionRow
  profileId : String
  mrVariant : String
  timeframe : String
  sessionPolicy : String
  rollingSumLb120 : ℚ
  mrEnabledNextSession : Bool
  modelVersion : String
  finalizedAtUtc : ℤ
deriving DecidableEq, Repr

def recordOfRow (finalizedAtUtc : ℤ) (upTo : List RiskGateSessionRow) (row : RiskGateSessionRow)
    : RiskGateLedgerRecord where
  row := row
  profileId := identity.profileId
  mrVariant := identity.mrVariant
  timeframe := identity.timeframe
  sessionPolicy := identity.sessionPolicyForDate row.sessionDate
  rollingSumLb120 := (rollingShadowPnlBeforeNextSession upTo lookbackSessions 0).getD 0
  mrEnabledNextSession :=
    ((rollingShadowPnlBeforeNextSession upTo lookbackSessions minHistorySessions).map
      fun pnl => decide (0 < pnl)).getD false
  modelVersion := identity.modelVersion
  finalizedAtUtc := finalizedAtUtc

def buildLedgerRecordsFromRows (finalizedAtUtc : ℤ) :
    Except RiskGateError (List RiskGateLedgerRecord) := do
  validateRegularSessionLedger rows
  return rows.mapIdx fun idx row => recordOfRow identity finalizedAtUtc (rows.take (idx + 1)) row

def sortBySessionDate {α : Type} (sessionDate : α → NaiveDate) (entries : List α) : List α :=
  entries.insertionSort fun entry entry' => sessionDate entry ≤ sessionDate entry'

def rowsFromLedgerRecords :
    Except RiskGateError (List RiskGateSessionRow) := do
  let rows := sortBySessionDate (·.sessionDate) (records.map (·.row))
  validateRegularSessionLedger rows
  return rows

def validateLedgerRecordIdentity (identity : RiskGateProfileIdentity) :
    List RiskGateLedgerRecord → Except RiskGateError Unit
  | [] => .ok ()
  | record :: records =>
    let expectedSessionPolicy := identity.sessionPolicyForDate record.row.sessionDate
    if record.profileId ≠ identity.profileId then
      .error (.identityMismatch "profile_id" record.profileId identity.profileId)
    else if record.mrVariant ≠ identity.mrVariant then
      .error (.identityMismatch "mr_variant" record.mrVariant identity.mrVariant)
    else if record.timeframe ≠ identity.timeframe then
      .error (.identityMismatch "timeframe" record.timeframe identity.timeframe)
    else if record.sessionPolicy ≠ expectedSessionPolicy then
      .error (.identityMismatch "session_policy" record.sessionPolicy expectedSessionPolicy)
    else validateLedgerRecordIdentity identity records

/-! ### The materialized state -/

structure RiskGateMaterializedState where
  lastFinalizedSessionDate : Option NaiveDate
  rollingSumLb120 : Option ℚ
  mrEnabledCurrentSession : Option Bool
  mrEnabledNextSession : Option Bool
  seedLoaded : Bool
  ledgerRowsCount : ℕ
  currentShadowSessionDate : Option NaiveDate
  currentShadowPnlPoints : ℚ
  currentGeneration : String
deriving DecidableEq, Repr

def riskGateStateGeneration : String := "runtime-ledger-v1"

def rebuildMaterializedState (currentShadowSessionDate : Option NaiveDate)
    (currentShadowPnlPoints : ℚ) (seedLoaded : Bool) :
    Except RiskGateError RiskGateMaterializedState := do
  let rows ← rowsFromLedgerRecords records
  let rollingSumLb120 :=
    rollingShadowPnlBeforeNextSession rows lookbackSessions minHistorySessions
  let mrEnabled := rollingSumLb120.map fun pnl => decide (0 < pnl)
  return {
    lastFinalizedSessionDate := rows.getLast?.map (·.sessionDate)
    rollingSumLb120 := rollingSumLb120
    mrEnabledCurrentSession := mrEnabled
    mrEnabledNextSession := mrEnabled
    seedLoaded := seedLoaded
    ledgerRowsCount := rows.length
    currentShadowSessionDate := currentShadowSessionDate
    currentShadowPnlPoints := currentShadowPnlPoints
    currentGeneration := riskGateStateGeneration }

/-! ### The start -/

inductive RiskGateStartupMode where
  | bootstrapFromSeed | normalAppend | rebuildFromHistory
deriving DecidableEq, Repr

inductive RiskGateStartupDecision where
  | importSeed | useExistingLedger | rebuildFromSeed
deriving DecidableEq, Repr

def reconcileSeedWithLedger :
    Except RiskGateError RiskGateStartupDecision := do
  validateRegularSessionLedger existingRows
  validateRegularSessionLedger seedRows
  let existingLast := existingRows.getLast?.map (·.sessionDate)
  let seedLast := seedRows.getLast?.map (·.sessionDate)
  match mode, existingLast, seedLast with
  | .bootstrapFromSeed, none, some _ => return .importSeed
  | .bootstrapFromSeed, some _, _ => throw .ledgerAlreadyExists
  | .bootstrapFromSeed, none, none => throw .noSeedRows
  | .normalAppend, some existing, some seed =>
    if seed ≤ existing then return .useExistingLedger else throw (.ledgerBehindSeed existing seed)
  | .normalAppend, some _, none => return .useExistingLedger
  | .normalAppend, none, _ => throw .ledgerEmpty
  | .rebuildFromHistory, _, some _ => return .rebuildFromSeed
  | .rebuildFromHistory, _, none => throw .noRebuiltRows

structure RiskGateStartupArtifacts where
  decision : RiskGateStartupDecision
  ledgerRecords : List RiskGateLedgerRecord
  recordsToWrite : List RiskGateLedgerRecord
  materializedState : RiskGateMaterializedState
deriving DecidableEq, Repr

def recordsOfDecision (finalizedAtUtc : ℤ) :
    RiskGateStartupDecision →
      Except RiskGateError (List RiskGateLedgerRecord × List RiskGateLedgerRecord)
  | .useExistingLedger => .ok (sortBySessionDate (·.row.sessionDate) existingRecords, [])
  | .importSeed | .rebuildFromSeed =>
    (buildLedgerRecordsFromRows seedRows identity finalizedAtUtc).map fun records =>
      (records, records)

def planRiskGateStartup (currentShadowSessionDate : Option NaiveDate) (finalizedAtUtc : ℤ) :
    Except RiskGateError RiskGateStartupArtifacts := do
  validateLedgerRecordIdentity identity existingRecords
  let existingRows ← rowsFromLedgerRecords existingRecords
  let decision ← reconcileSeedWithLedger mode existingRows seedRows
  let (ledgerRecords, recordsToWrite) ←
    recordsOfDecision existingRecords seedRows identity finalizedAtUtc decision
  let seedLoaded := ledgerRecords.any fun record => record.row.source = .seed
  let materializedState ←
    rebuildMaterializedState ledgerRecords currentShadowSessionDate 0 seedLoaded
  return ⟨decision, ledgerRecords, recordsToWrite, materializedState⟩

end AlorRs
