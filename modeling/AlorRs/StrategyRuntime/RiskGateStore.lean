import AlorRs.StrategyRuntime.RiskGate
import AlorRs.StrategyRuntime.StrategyHost
import Mathlib.Algebra.Order.Group.Unbundled.Abs
import Mathlib.Algebra.Order.Ring.Rat

/-!
# The store of the risk gate

In Redis a profile has a stream with the records of its ledger, a hash with the materialized
state, and a key for each date that is finalized.  A record is written to the stream once, by a
script that looks for the key of its date.
-/

namespace AlorRs

/-! ### Fields -/

/-- What is read back of a float that `format_float` has written: one that is whole up to
`f64::EPSILON` is written with one decimal. -/
def storedFloat (value : ℚ) : ℚ :=
  let whole : ℚ := value.num.tdiv value.den
  if |value - whole| ≤ 1 / 2 ^ 52 then whole else value

namespace RiskGateLedgerRecord

variable (record : RiskGateLedgerRecord)

def redisFields : RiskGateLedgerRecord :=
  { record with
    row := { record.row with
      shadowPnlPoints := storedFloat record.row.shadowPnlPoints
      rollingSumBeforeSession := storedFloat record.row.rollingSumBeforeSession }
    rollingSumLb120 := storedFloat record.rollingSumLb120 }

def texts : List (String × String) :=
  [("profile_id", record.profileId), ("mr_variant", record.mrVariant),
    ("timeframe", record.timeframe), ("session_policy", record.sessionPolicy),
    ("model_version", record.modelVersion)]

/-- `from_redis_fields`: no text may be blank. -/
def fromRedisFields : Except RiskGateError RiskGateLedgerRecord :=
  match record.texts.find? fun field => isBlank field.2 with
  | some field => .error (.fieldMissing field.1)
  | none => .ok record

end RiskGateLedgerRecord

structure RiskGateStateFields where
  lastFinalizedSessionDate : Option NaiveDate
  rollingSumLb120 : Option ℚ
  mrEnabledCurrentSession : Option Bool
  mrEnabledNextSession : Option Bool
  seedLoaded : Option Bool
  ledgerRowsCount : Option ℕ
  currentShadowSessionDate : Option NaiveDate
  currentShadowPnlPoints : Option ℚ
  currentGeneration : Option String
deriving DecidableEq, Repr

namespace RiskGateStateFields

/-- A hash that is not there. -/
def empty : RiskGateStateFields := ⟨none, none, none, none, none, none, none, none, none⟩

def hset (fields given : RiskGateStateFields) : RiskGateStateFields where
  lastFinalizedSessionDate := given.lastFinalizedSessionDate.or fields.lastFinalizedSessionDate
  rollingSumLb120 := given.rollingSumLb120.or fields.rollingSumLb120
  mrEnabledCurrentSession := given.mrEnabledCurrentSession.or fields.mrEnabledCurrentSession
  mrEnabledNextSession := given.mrEnabledNextSession.or fields.mrEnabledNextSession
  seedLoaded := given.seedLoaded.or fields.seedLoaded
  ledgerRowsCount := given.ledgerRowsCount.or fields.ledgerRowsCount
  currentShadowSessionDate := given.currentShadowSessionDate.or fields.currentShadowSessionDate
  currentShadowPnlPoints := given.currentShadowPnlPoints.or fields.currentShadowPnlPoints
  currentGeneration := given.currentGeneration.or fields.currentGeneration

end RiskGateStateFields

namespace RiskGateMaterializedState

def redisFields (state : RiskGateMaterializedState) : RiskGateStateFields where
  lastFinalizedSessionDate := state.lastFinalizedSessionDate
  rollingSumLb120 := state.rollingSumLb120.map storedFloat
  mrEnabledCurrentSession := state.mrEnabledCurrentSession
  mrEnabledNextSession := state.mrEnabledNextSession
  seedLoaded := some state.seedLoaded
  ledgerRowsCount := some state.ledgerRowsCount
  currentShadowSessionDate := state.currentShadowSessionDate
  currentShadowPnlPoints := some (storedFloat state.currentShadowPnlPoints)
  currentGeneration := some state.currentGeneration

def fromRedisFields (fields : RiskGateStateFields) :
    Except RiskGateError RiskGateMaterializedState := do
  let required {α : Type} (name : String) (field : Option α) : Except RiskGateError α :=
    match field with
    | some value => .ok value
    | none => .error (.fieldMissing name)
  let seedLoaded ← required "seed_loaded" fields.seedLoaded
  let ledgerRowsCount ← required "ledger_rows_count" fields.ledgerRowsCount
  let currentShadowPnlPoints ← required "current_shadow_pnl_points" fields.currentShadowPnlPoints
  let currentGeneration ← required "current_generation"
    (fields.currentGeneration.filter fun generation => !isBlank generation)
  return {
    lastFinalizedSessionDate := fields.lastFinalizedSessionDate
    rollingSumLb120 := fields.rollingSumLb120
    mrEnabledCurrentSession := fields.mrEnabledCurrentSession
    mrEnabledNextSession := fields.mrEnabledNextSession
    seedLoaded := seedLoaded
    ledgerRowsCount := ledgerRowsCount
    currentShadowSessionDate := fields.currentShadowSessionDate
    currentShadowPnlPoints := currentShadowPnlPoints
    currentGeneration := currentGeneration }

end RiskGateMaterializedState

/-! ### The store -/

/-- The keys of a profile: the stream, oldest entry first, the dates that are finalized, and the
hash of the state. -/
structure RiskGateStore where
  ledger : List RiskGateLedgerRecord
  finalized : List NaiveDate
  state : RiskGateStateFields
deriving DecidableEq, Repr

structure RiskGateWriteSummary where
  attemptedRecords : ℕ
  insertedRecords : ℕ
  duplicateRecords : ℕ
  stateRefreshed : Bool
deriving DecidableEq, Repr

namespace RiskGateStore

def empty : RiskGateStore := ⟨[], [], .empty⟩

def ledgerRecoveryScanCount : ℕ := 256

def continuityLookbackDays : ℤ := 21

variable (store : RiskGateStore)

def loadLedgerRecords (count : ℕ) : Except RiskGateError (List RiskGateLedgerRecord) :=
  (store.ledger.reverse.take count).mapM RiskGateLedgerRecord.fromRedisFields

def loadMaterializedState : Except RiskGateError (Option RiskGateMaterializedState) :=
  if store.state = .empty then .ok none
  else (RiskGateMaterializedState.fromRedisFields store.state).map some

def writeSessionIfNew (record : RiskGateLedgerRecord) (stateFields : Option RiskGateStateFields)
    : Bool × RiskGateStore :=
  if record.row.sessionDate ∈ store.finalized then (false, store)
  else
    (true,
      { ledger := store.ledger ++ [record.redisFields]
        finalized := record.row.sessionDate :: store.finalized
        state :=
          match stateFields with
          | some fields => store.state.hset fields
          | none => store.state })

/-! ### The start -/

structure StartupConfig where
  identity : RiskGateProfileIdentity
  mode : RiskGateStartupMode
  currentShadowSessionDate : Option NaiveDate
  finalizedAtUtc : ℤ
  ledgerScanCount : ℕ

structure StartupResult where
  existingRecordsLoaded : ℕ
  previousState : Option RiskGateMaterializedState
  artifacts : RiskGateStartupArtifacts
  writeSummary : RiskGateWriteSummary
  recentWeekdayGaps : List NaiveDate

/-- The loop of `persist_risk_gate_startup_artifacts`: the numbers of records that are written and
of those that are not. -/
def writeRecords (store : RiskGateStore) (inserted duplicate : ℕ) :
    List RiskGateLedgerRecord → RiskGateStore × ℕ × ℕ
  | [] => (store, inserted, duplicate)
  | record :: records =>
    match store.writeSessionIfNew record none with
    | (true, store) => writeRecords store (inserted + 1) duplicate records
    | (false, store) => writeRecords store inserted (duplicate + 1) records

variable (identity : RiskGateProfileIdentity)

def persistStartupArtifacts (artifacts : RiskGateStartupArtifacts) :
    Except RiskGateError (RiskGateStore × RiskGateWriteSummary) := do
  validateLedgerRecordIdentity identity artifacts.recordsToWrite
  let (store, inserted, duplicate) := store.writeRecords 0 0 artifacts.recordsToWrite
  return ({ store with state := store.state.hset artifacts.materializedState.redisFields },
    ⟨artifacts.recordsToWrite.length, inserted, duplicate, true⟩)

def runStartup (config : StartupConfig) (seedRows : List RiskGateSessionRow)
    : Except RiskGateError (RiskGateStore × StartupResult) := do
  let existingRecords ← store.loadLedgerRecords (max config.ledgerScanCount 1)
  let previousState ← store.loadMaterializedState
  validateRegularSessionLedger seedRows
  let artifacts ← planRiskGateStartup config.mode existingRecords seedRows config.identity
    config.currentShadowSessionDate config.finalizedAtUtc
  let (store, writeSummary) ← store.persistStartupArtifacts config.identity artifacts
  let ledgerRows ← rowsFromLedgerRecords artifacts.ledgerRecords
  let recentWeekdayGaps ← recentRegularWeekdayGaps ledgerRows continuityLookbackDays
  return (store,
    ⟨existingRecords.length, previousState, artifacts, writeSummary, recentWeekdayGaps⟩)

/-! ### The end of a session -/

structure AppendResult where
  writeSummary : RiskGateWriteSummary
  materializedState : Option RiskGateMaterializedState

def appendRuntimeSession (finalization : RiskGateSessionFinalization) (finalizedAtUtc : ℤ)
    (ledgerScanCount : ℕ) :
    Except RiskGateError (RiskGateStore × AppendResult) := do
  let existingRecords ← store.loadLedgerRecords (max ledgerScanCount 1)
  validateLedgerRecordIdentity identity existingRecords
  let rows ← rowsFromLedgerRecords existingRecords
  if rows.any fun row => row.sessionDate = finalization.sessionDate then
    return (store, ⟨⟨1, 0, 1, false⟩, none⟩)
  else
    let runtimeRow ← buildRuntimeSessionRow rows finalization.sessionDate
      finalization.shadowPnlPoints finalization.shadowTradeCount
    let records ← buildLedgerRecordsFromRows (rows ++ [runtimeRow]) identity finalizedAtUtc
    match records.getLast? with
    | none => throw .noRecord
    | some record =>
      let seedLoaded := records.any fun record => record.row.source = .seed
      let materializedState ← rebuildMaterializedState records none 0 seedLoaded
      let (inserted, store) := store.writeSessionIfNew record (some materializedState.redisFields)
      return (store,
        { writeSummary := ⟨1, if inserted then 1 else 0, if inserted then 0 else 1, inserted⟩
          materializedState := if inserted then some materializedState else none })

end RiskGateStore

end AlorRs
