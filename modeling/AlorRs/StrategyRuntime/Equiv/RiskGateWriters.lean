import AlorRs.StrategyRuntime.Equiv.RiskGateAgreement
import Mathlib.Logic.Relation

/-!
# Several writers of one ledger

Processes that start and that append sessions share a store.  Each reads the end of the stream
once and writes later, one atomic script after the other, so that what it has read may be old.
Still no session is recorded twice and none of a weekend (`reachable_ledger`).
-/

namespace AlorRs

open Outcome

namespace RiskGateStore

/-! ### Reads and writes -/

/-- A process that has read and has yet to write. -/
inductive Writer where
  | startup (records : List RiskGateLedgerRecord) (state : RiskGateMaterializedState)
  | append (record : RiskGateLedgerRecord) (state : RiskGateMaterializedState)

section Read

variable (store : RiskGateStore) (identity : RiskGateProfileIdentity)
  (finalization : RiskGateSessionFinalization) (finalizedAtUtc : ℤ) (ledgerScanCount : ℕ)

/-- `run_risk_gate_startup_store` up to its first write. -/
def readStartup (config : StartupConfig) (seedRows : List RiskGateSessionRow) :
    Except RiskGateError Writer := do
  let existingRecords ← store.loadLedgerRecords (max config.ledgerScanCount 1)
  validateRegularSessionLedger seedRows
  let artifacts ← planRiskGateStartup config.mode existingRecords seedRows config.identity
    config.currentShadowSessionDate config.finalizedAtUtc
  validateLedgerRecordIdentity config.identity artifacts.recordsToWrite
  return .startup artifacts.recordsToWrite artifacts.materializedState

def readAppend : Except RiskGateError (Option Writer) := do
  let existingRecords ← store.loadLedgerRecords (max ledgerScanCount 1)
  validateLedgerRecordIdentity identity existingRecords
  let rows ← rowsFromLedgerRecords existingRecords
  if rows.any fun row => row.sessionDate = finalization.sessionDate then return none
  else
    let runtimeRow ← buildRuntimeSessionRow rows finalization.sessionDate
      finalization.shadowPnlPoints finalization.shadowTradeCount
    let records ← buildLedgerRecordsFromRows (rows ++ [runtimeRow]) identity finalizedAtUtc
    match records.getLast? with
    | none => throw .noRecord
    | some record =>
      let materializedState ← rebuildMaterializedState records none 0
        (records.any fun record => record.row.source = .seed)
      return some (.append record materializedState)

def Writer.write : Writer → RiskGateStore × Option Writer
  | .startup [] state => ({ store with state := store.state.hset state.redisFields }, none)
  | .startup (record :: records) state =>
    ((store.writeSessionIfNew record none).2, some (.startup records state))
  | .append record state => ((store.writeSessionIfNew record (some state.redisFields)).2, none)

theorem appendRuntimeSession_eq :
    (store.appendRuntimeSession identity finalization finalizedAtUtc ledgerScanCount).map Prod.fst =
      (store.readAppend identity finalization finalizedAtUtc ledgerScanCount).map
        fun writer => (writer.map fun writer => (writer.write store).1).getD store := by
  unfold appendRuntimeSession readAppend
  simp only [bind, Except.bind]
  cases store.loadLedgerRecords (max ledgerScanCount 1) <;> dsimp only [Except.map]
  cases validateLedgerRecordIdentity identity _ <;> dsimp only
  cases rowsFromLedgerRecords _ with
  | error e => rfl
  | ok rows =>
    dsimp only
    by_cases hread : (rows.any fun row => row.sessionDate = finalization.sessionDate) = true
    · rw [if_pos hread, if_pos hread]
      rfl
    rw [if_neg hread, if_neg hread]
    cases buildRuntimeSessionRow _ _ _ _ <;> dsimp only
    cases buildLedgerRecordsFromRows _ identity finalizedAtUtc with
    | error e => rfl
    | ok records =>
      dsimp only
      cases records.getLast? <;> dsimp only
      · rfl
      cases rebuildMaterializedState records none 0 _ <;> rfl

end Read

/-- The store and the processes that have yet to write to it. -/
structure Shared where
  store : RiskGateStore
  writers : List Writer

/-- One process reads, or does its next write. -/
inductive Shared.Step : Shared → Shared → Prop
  | readStartup {shared : Shared} {config : StartupConfig} {seedRows : List RiskGateSessionRow}
      {writer : Writer} (h : shared.store.readStartup config seedRows = .ok writer) :
      Step shared ⟨shared.store, writer :: shared.writers⟩
  | readAppend {shared : Shared} {identity : RiskGateProfileIdentity}
      {finalization : RiskGateSessionFinalization} {finalizedAtUtc : ℤ} {ledgerScanCount : ℕ}
      {writer : Writer} (h : shared.store.readAppend identity finalization finalizedAtUtc
        ledgerScanCount = .ok (some writer)) :
      Step shared ⟨shared.store, writer :: shared.writers⟩
  | write {store : RiskGateStore} {before after : List Writer} {writer : Writer} :
      Step ⟨store, before ++ writer :: after⟩
        ⟨(writer.write store).1, before ++ (writer.write store).2.toList ++ after⟩

open Relation Shared

variable {config : StartupConfig} {seedRows : List RiskGateSessionRow}

theorem runStartup_steps {store store' : RiskGateStore} {result : StartupResult}
    (h : store.runStartup config seedRows = .ok (store', result)) :
    ∃ writer, store.readStartup config seedRows = .ok writer ∧
      ReflTransGen Step ⟨store, [writer]⟩ ⟨store', []⟩ := by
  have hwrites : ∀ (records : List RiskGateLedgerRecord) (store : RiskGateStore) (inserted
      duplicate : ℕ) (state : RiskGateMaterializedState),
      ReflTransGen Step ⟨store, [.startup records state]⟩
        ⟨{ (store.writeRecords inserted duplicate records).1 with
          state := (store.writeRecords inserted duplicate records).1.state.hset
            state.redisFields }, []⟩ := by
    intro records
    induction records with
    | nil => exact fun store _ _ state => .single (@Step.write _ [] [] _)
    | cons record records ih =>
      intro store inserted duplicate state
      refine .head (@Step.write _ [] [] _) ?_
      rw [writeRecords, Writer.write]
      rcases store.writeSessionIfNew record none with ⟨written, next⟩
      cases written <;> exact ih next _ _ state
  obtain ⟨existing, hload, h⟩ := bind_eq_ok.mp h
  obtain ⟨previous, -, h⟩ := bind_eq_ok.mp h
  obtain ⟨⟨⟩, hseed, h⟩ := bind_eq_ok.mp h
  obtain ⟨artifacts, hplan, h⟩ := bind_eq_ok.mp h
  obtain ⟨⟨written, summary⟩, hpersist, h⟩ := bind_eq_ok.mp h
  obtain ⟨ledgerRows, -, h⟩ := bind_eq_ok.mp h
  obtain ⟨gaps, -, h⟩ := bind_eq_ok.mp h
  obtain ⟨rfl, rfl⟩ := Prod.mk.inj (Except.ok.inj h)
  obtain ⟨⟨⟩, hidentity, hpersist⟩ := bind_eq_ok.mp hpersist
  obtain ⟨hwritten, -⟩ := Prod.mk.inj (Except.ok.inj hpersist)
  refine ⟨.startup artifacts.recordsToWrite artifacts.materializedState, ?_, ?_⟩
  · exact bind_eq_ok.mpr ⟨existing, hload, bind_eq_ok.mpr ⟨(), hseed, bind_eq_ok.mpr
      ⟨artifacts, hplan, bind_eq_ok.mpr ⟨(), hidentity, rfl⟩⟩⟩⟩
  · rw [← hwritten]
    exact hwrites _ _ _ _ _

/-! ### Sessions are recorded once -/

/-- Each session is recorded once, under a key that stands, and on a weekday. -/
structure Tidy (store : RiskGateStore) : Prop where
  nodup : (store.rows.map (·.sessionDate)).Nodup
  finalized : ∀ row ∈ store.rows, row.sessionDate ∈ store.finalized
  weekdays : ∀ row ∈ store.rows, row.sessionDate.isWeekend = false

def Writer.records : Writer → List RiskGateLedgerRecord
  | .startup records _ => records
  | .append record _ => [record]

def Writer.OnWeekdays (writer : Writer) : Prop :=
  ∀ record ∈ writer.records, record.row.sessionDate.isWeekend = false

section Tidy

variable {store : RiskGateStore} {record : RiskGateLedgerRecord} {writer : Writer}

theorem Tidy.writeSessionIfNew (h : store.Tidy)
    (hweekday : record.row.sessionDate.isWeekend = false)
    (stateFields : Option RiskGateStateFields) :
    (store.writeSessionIfNew record stateFields).2.Tidy := by
  unfold RiskGateStore.writeSessionIfNew
  split_ifs with hmem
  · exact h
  have hrows : ∀ (finalized : List NaiveDate) (state : RiskGateStateFields),
      rows ⟨store.ledger ++ [record.redisFields], finalized, state⟩ =
        store.rows ++ [record.redisFields.row] := fun _ _ => by simp [rows]
  have hnew : record.row.sessionDate ∉ store.rows.map (·.sessionDate) := fun hold => by
    obtain ⟨row, hrow, hdate⟩ := List.mem_map.mp hold
    exact hmem (hdate ▸ h.finalized row hrow)
  constructor
  · rw [hrows, List.map_append, List.nodup_append]
    refine ⟨h.nodup, List.nodup_singleton _, fun date hdate other hother => ?_⟩
    rw [List.map_singleton, List.mem_singleton] at hother
    exact fun heq => hnew (hother ▸ heq ▸ hdate)
  all_goals
    intro row hrow
    rw [hrows] at hrow
    rcases List.mem_append.mp hrow with hrow | hrow
  · exact List.mem_cons_of_mem _ (h.finalized row hrow)
  · rw [List.mem_singleton.mp hrow]
    exact List.mem_cons_self
  · exact h.weekdays row hrow
  · rw [List.mem_singleton.mp hrow]
    exact hweekday

theorem Tidy.write (h : store.Tidy) (hweekdays : writer.OnWeekdays) :
    (writer.write store).1.Tidy ∧ ∀ next ∈ (writer.write store).2, next.OnWeekdays := by
  rcases writer with ⟨_ | ⟨record, records⟩, state⟩ | ⟨record, state⟩
  · exact ⟨⟨h.nodup, h.finalized, h.weekdays⟩, by simp [Writer.write]⟩
  · obtain ⟨hrecord, hrecords⟩ := List.forall_mem_cons.mp hweekdays
    refine ⟨h.writeSessionIfNew hrecord none, fun next hnext => ?_⟩
    cases hnext
    exact hrecords
  · exact ⟨h.writeSessionIfNew (hweekdays record (List.mem_singleton_self _)) _,
      by simp [Writer.write]⟩

theorem onWeekdays_of_readStartup (h : store.readStartup config seedRows = .ok writer) :
    writer.OnWeekdays := by
  obtain ⟨existing, -, h⟩ := bind_eq_ok.mp h
  obtain ⟨⟨⟩, -, h⟩ := bind_eq_ok.mp h
  obtain ⟨artifacts, hplan, h⟩ := bind_eq_ok.mp h
  obtain ⟨⟨⟩, -, h⟩ := bind_eq_ok.mp h
  obtain rfl := Except.ok.inj h
  obtain ⟨⟨⟩, -, hplan⟩ := bind_eq_ok.mp hplan
  obtain ⟨existingRows, -, hplan⟩ := bind_eq_ok.mp hplan
  obtain ⟨decision, -, hplan⟩ := bind_eq_ok.mp hplan
  obtain ⟨⟨ledgerRecords, recordsToWrite⟩, hrecords, hplan⟩ := bind_eq_ok.mp hplan
  obtain ⟨state, -, hplan⟩ := bind_eq_ok.mp hplan
  obtain rfl := Except.ok.inj hplan
  have hseed : ∀ built, (buildLedgerRecordsFromRows seedRows config.identity
      config.finalizedAtUtc).map (fun records => (records, records)) = .ok built →
      (Writer.startup built.2 state).OnWeekdays := by
    intro built hbuild
    obtain ⟨records, hrecords, rfl⟩ := map_eq_ok.mp hbuild
    obtain ⟨hregular, rfl⟩ := buildLedgerRecordsFromRows_eq_ok.mp hrecords
    exact fun record hrecord => hregular.weekdays _ <|
      map_row_recordOfRow seedRows ▸ List.mem_map_of_mem hrecord
  cases decision with
  | useExistingLedger =>
    cases hrecords
    exact fun record hrecord => by cases hrecord
  | importSeed | rebuildFromSeed => exact hseed _ hrecords

theorem readAppend_some {identity : RiskGateProfileIdentity}
    {finalization : RiskGateSessionFinalization} {finalizedAtUtc : ℤ} {ledgerScanCount : ℕ}
    (h : store.readAppend identity finalization finalizedAtUtc ledgerScanCount =
      .ok (some writer)) :
    ∃ record state, writer = .append record state ∧
      record.row.sessionDate = finalization.sessionDate ∧
      record.row.sessionDate.isWeekend = false := by
  obtain ⟨existing, -, h⟩ := bind_eq_ok.mp h
  obtain ⟨⟨⟩, -, h⟩ := bind_eq_ok.mp h
  obtain ⟨seen, -, h⟩ := bind_eq_ok.mp h
  split at h
  · cases h
  obtain ⟨row, hrow, h⟩ := bind_eq_ok.mp h
  obtain ⟨hregular, hrow⟩ := buildRuntimeSessionRow_eq_ok hrow
  obtain ⟨records, hrecords, h⟩ := bind_eq_ok.mp h
  obtain ⟨-, rfl⟩ := buildLedgerRecordsFromRows_eq_ok.mp hrecords
  rw [List.mapIdx_concat, List.getLast?_concat] at h
  obtain ⟨state, -, h⟩ := bind_eq_ok.mp h
  obtain rfl := Option.some.inj (Except.ok.inj h)
  exact ⟨_, state, rfl, by rw [hrow]; rfl, hregular.weekdays row (by simp)⟩

/-- An append finds the key of a session that is recorded. -/
theorem Tidy.write_append (h : store.Tidy) (state : RiskGateMaterializedState)
    (hmem : record.row.sessionDate ∈ store.rows.map (·.sessionDate)) :
    (Writer.append record state).write store = (store, none) := by
  obtain ⟨row, hrow, hdate⟩ := List.mem_map.mp hmem
  have hfinalized : record.row.sessionDate ∈ store.finalized := hdate ▸ h.finalized row hrow
  simp [Writer.write, RiskGateStore.writeSessionIfNew, hfinalized]

/-- The rows of different sessions on weekdays make a regular ledger, whichever are read. -/
theorem Tidy.rowsFromLedgerRecords {records : List RiskGateLedgerRecord} (h : store.Tidy)
    (hrecords : records.Subperm store.ledger) :
    ∃ rows, AlorRs.rowsFromLedgerRecords records = .ok rows := by
  have hperm : (sortBySessionDate (·.sessionDate) (records.map (·.row))).Perm
      (records.map (·.row)) := List.perm_insertionSort ..
  obtain ⟨kept, hkept, hsub⟩ := hrecords
  have hsorted := pairwise_sortBySessionDate (·.sessionDate) (records.map (·.row))
  have hnodup : ((sortBySessionDate (·.sessionDate) (records.map (·.row))).map
      (·.sessionDate)).Nodup :=
    ((hperm.trans (hkept.map _).symm).map _).nodup_iff.mpr
      (h.nodup.sublist ((hsub.map _).map _))
  refine ⟨_, rowsFromLedgerRecords_eq_ok.mpr ⟨rfl, fun row hrow => ?_, ?_⟩⟩
  · exact h.weekdays row ((hsub.map _).subset ((hkept.map _).symm.subset (hperm.subset hrow)))
  · exact (hsorted.and (List.pairwise_map.mp hnodup)).imp fun h => lt_of_le_of_ne h.1 h.2

end Tidy

theorem Shared.Step.kept {shared next : Shared} (hstep : Step shared next)
    (h : shared.store.Tidy ∧ ∀ writer ∈ shared.writers, writer.OnWeekdays) :
    next.store.Tidy ∧ ∀ writer ∈ next.writers, writer.OnWeekdays := by
  obtain ⟨htidy, hwriters⟩ := h
  cases hstep with
  | readStartup hread =>
    exact ⟨htidy, List.forall_mem_cons.mpr ⟨onWeekdays_of_readStartup hread, hwriters⟩⟩
  | readAppend hread =>
    obtain ⟨record, state, rfl, -, hweekday⟩ := readAppend_some hread
    exact ⟨htidy, List.forall_mem_cons.mpr ⟨by simpa [Writer.OnWeekdays, Writer.records], hwriters⟩⟩
  | write =>
    obtain ⟨hnext, hrest⟩ := htidy.write
      (hwriters _ (List.mem_append_right _ List.mem_cons_self))
    refine ⟨hnext, fun writer hmem => ?_⟩
    simp only [List.mem_append, Option.mem_toList] at hmem
    rcases hmem with (hmem | hmem) | hmem
    · exact hwriters writer (by simp [hmem])
    · exact hrest writer hmem
    · exact hwriters writer (by simp [hmem])

/-- Whatever processes share the ledger, and however their steps interleave. -/
theorem reachable_ledger {shared : Shared} (h : ReflTransGen Step ⟨.empty, []⟩ shared) :
    (shared.store.rows.map (·.sessionDate)).Nodup ∧
    (∀ row ∈ shared.store.rows, row.sessionDate.isWeekend = false) ∧
    (∀ records, records.Subperm shared.store.ledger →
      ∃ rows, AlorRs.rowsFromLedgerRecords records = .ok rows) ∧
    (∀ record state, Writer.append record state ∈ shared.writers →
      record.row.sessionDate ∈ shared.store.rows.map (·.sessionDate) →
      (Writer.append record state).write shared.store = (shared.store, none)) ∧
    ∀ identity finalization finalizedAtUtc ledgerScanCount store' result,
      finalization.sessionDate ∈ shared.store.rows.map (·.sessionDate) →
      shared.store.appendRuntimeSession identity finalization finalizedAtUtc ledgerScanCount =
        .ok (store', result) → store' = shared.store := by
  have hkept : shared.store.Tidy ∧ ∀ writer ∈ shared.writers, writer.OnWeekdays := by
    induction h with
    | refl => exact ⟨⟨List.nodup_nil, by simp [rows, empty], by simp [rows, empty]⟩, by simp⟩
    | tail _ hstep ih => exact hstep.kept ih
  obtain ⟨htidy, -⟩ := hkept
  refine ⟨htidy.nodup, htidy.weekdays, fun _ => htidy.rowsFromLedgerRecords,
    fun _ state _ => htidy.write_append state, ?_⟩
  intro identity finalization finalizedAtUtc ledgerScanCount store' result hmem happend
  have heq := shared.store.appendRuntimeSession_eq identity finalization finalizedAtUtc
    ledgerScanCount
  rw [happend] at heq
  obtain ⟨writer, hread, heq⟩ := map_eq_ok.mp heq.symm
  cases writer with
  | none => exact heq.symm
  | some writer =>
    obtain ⟨record, state, rfl, hdate, -⟩ := readAppend_some hread
    rw [← hdate] at hmem
    simpa [htidy.write_append state hmem] using heq.symm

/-- A ledger of two sessions that one start has imported. -/
theorem reachable_ledger_import :
    ∃ shared, ReflTransGen Step ⟨.empty, []⟩ shared ∧ shared.store.ledger.length = 2 ∧
      (shared.store.rows.map (·.sessionDate)).Nodup := by
  obtain ⟨store, result, hstart⟩ := exists_eq_ok (RiskGateStore.empty.runStartup high180Import
    (mondayRows [(5 / 2, .complete), (1, .complete)])) (by decide +kernel)
  obtain ⟨writer, hread, hsteps⟩ := runStartup_steps hstart
  have hreached : ReflTransGen Step ⟨.empty, []⟩ ⟨store, []⟩ := .head (.readStartup hread) hsteps
  have hlength : ∀ p ∈ (RiskGateStore.empty.runStartup high180Import
      (mondayRows [(5 / 2, .complete), (1, .complete)])).toOption, p.1.ledger.length = 2 := by
    decide +kernel
  exact ⟨_, hreached, hlength (store, result) (by rw [hstart]; rfl), (reachable_ledger hreached).1⟩

end RiskGateStore

end AlorRs
