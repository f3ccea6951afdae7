import AlorRs.StrategyRuntime.Equiv.RiskGate
import AlorRs.StrategyRuntime.RiskGateStore

/-!
# The store of the risk gate, operation by operation

What a reader of the stream gets (`rowsFromLedgerRecords_rtake`), and what a successful append
(`appendRuntimeSession_inserted`) and a successful start (`runStartup_ok`) leave in the store.
-/

namespace AlorRs

open Outcome

/-! ### Reading -/

variable {record : RiskGateLedgerRecord}

theorem RiskGateLedgerRecord.fromRedisFields_ok {record' : RiskGateLedgerRecord}
    (h : record.fromRedisFields = .ok record') : record' = record := by
  unfold fromRedisFields at h
  split at h
  · cases h
  · exact (Except.ok.inj h).symm

/-- A record can be read if no text is blank. -/
theorem RiskGateLedgerRecord.fromRedisFields_iff :
    record.fromRedisFields = .ok record ↔
      ∀ text ∈ record.texts.map Prod.snd, isBlank text = false := by
  unfold fromRedisFields
  constructor
  · intro h text htext
    obtain ⟨field, hfield, rfl⟩ := List.mem_map.mp htext
    split at h
    · cases h
    · rename_i hnone
      exact Bool.eq_false_iff.mpr (List.find?_eq_none.mp hnone field hfield)
  · intro h
    have hnone : record.texts.find? (fun field => isBlank field.2) = none := by
      refine List.find?_eq_none.mpr fun field hfield => ?_
      rw [h field.2 (List.mem_map_of_mem hfield)]
      exact Bool.false_ne_true
    rw [hnone]

namespace RiskGateStore

def rows (store : RiskGateStore) : List RiskGateSessionRow := store.ledger.map (·.row)

variable {store store' : RiskGateStore} {identity : RiskGateProfileIdentity}
  {records : List RiskGateLedgerRecord} {finalization : RiskGateSessionFinalization}
  {finalizedAtUtc : ℤ} {count : ℕ}

theorem loadLedgerRecords_ok (h : store.loadLedgerRecords count = .ok records) :
    records = (store.ledger.rtake count).reverse := by
  have hrecords := (mapM_check (fun _ _ => RiskGateLedgerRecord.fromRedisFields_ok) h).1
  rw [hrecords, List.rtake_eq_reverse_take_reverse, List.reverse_reverse]

theorem rowsFromLedgerRecords_rtake (hregular : Regular store.rows) (count : ℕ) :
    rowsFromLedgerRecords (store.ledger.rtake count).reverse = .ok (store.rows.rtake count) := by
  have hrows : (store.ledger.rtake count).map (·.row) = store.rows.rtake count := by
    unfold rows List.rtake
    rw [List.map_drop, List.length_map]
  refine rowsFromLedgerRecords_of_perm ?_ (hregular.suffix (List.drop_suffix ..))
  rw [List.map_reverse, hrows]
  exact List.reverse_perm _

/-! ### The end of a session -/

theorem appendRuntimeSession_inserted {result : AppendResult} (hregular : Regular store.rows)
    (h : store.appendRuntimeSession identity finalization finalizedAtUtc count =
      .ok (store', result)) (hinserted : result.materializedState.isSome = true) :
    ∃ seen row, seen = store.rows.rtake (max count 1) ∧
      row = ⟨finalization.sessionDate, finalization.shadowPnlPoints, finalization.shadowTradeCount,
        if Seasoned seen then recentPnl seen else 0, decide (GateOpen seen), .runtime, .complete⟩ ∧
      Regular (seen ++ [row]) ∧ finalization.sessionDate ∉ store.finalized ∧
      store'.ledger = store.ledger ++
        [(recordOfRow identity finalizedAtUtc (seen ++ [row]) row).redisFields] ∧
      store'.finalized = finalization.sessionDate :: store.finalized ∧
      store'.state.mrEnabledNextSession =
        (gateDecision (seen ++ [row])).or store.state.mrEnabledNextSession := by
  obtain ⟨records, hload, h⟩ := bind_eq_ok.mp h
  obtain ⟨⟨⟩, -, h⟩ := bind_eq_ok.mp h
  obtain ⟨seen, hseen, h⟩ := bind_eq_ok.mp h
  rw [loadLedgerRecords_ok hload, rowsFromLedgerRecords_rtake hregular] at hseen
  have hseen := (Except.ok.inj hseen).symm
  split at h
  · obtain ⟨-, rfl⟩ := Prod.mk.inj (Except.ok.inj h)
    cases hinserted
  obtain ⟨row, hrow, h⟩ := bind_eq_ok.mp h
  obtain ⟨hregular', hrow⟩ := buildRuntimeSessionRow_eq_ok hrow
  obtain ⟨records', hrecords, h⟩ := bind_eq_ok.mp h
  obtain ⟨-, hrecords⟩ := buildLedgerRecordsFromRows_eq_ok.mp hrecords
  have hlast : records'.getLast? = some (recordOfRow identity finalizedAtUtc (seen ++ [row]) row) := by
    rw [hrecords, List.mapIdx_concat, List.getLast?_concat, List.take_of_length_le]
    rw [List.length_append, List.length_singleton]
  have hrows : rowsFromLedgerRecords records' = .ok (seen ++ [row]) := by
    refine rowsFromLedgerRecords_of_perm ?_ hregular'
    rw [hrecords, map_row_recordOfRow]
  rw [hlast] at h
  dsimp only at h
  rw [rebuildMaterializedState_eq _ _ _ hrows] at h
  obtain ⟨state, hstate, h⟩ := bind_eq_ok.mp h
  have hdate : row.sessionDate = finalization.sessionDate := by rw [hrow]
  refine ⟨seen, row, hseen, hrow, hregular', ?_⟩
  unfold writeSessionIfNew at h
  have hrecordDate : (recordOfRow identity finalizedAtUtc (seen ++ [row]) row).row.sessionDate =
      finalization.sessionDate := hdate
  rw [hrecordDate] at h
  by_cases hmem : finalization.sessionDate ∈ store.finalized
  · rw [if_pos hmem] at h
    obtain ⟨-, rfl⟩ := Prod.mk.inj (Except.ok.inj h)
    cases hinserted
  · rw [if_neg hmem] at h
    obtain ⟨rfl, -⟩ := Prod.mk.inj (Except.ok.inj h)
    rw [← Except.ok.inj hstate]
    exact ⟨hmem, rfl, rfl, rfl⟩

/-! ### The start -/

/-- Records of different dates are written if their dates are not finalized. -/
theorem writeRecords_ledger (store : RiskGateStore)
    (hnodup : (records.map (·.row.sessionDate)).Nodup) (inserted duplicate : ℕ) :
    (store.writeRecords inserted duplicate records).1.ledger = store.ledger ++
      (records.filter fun record => record.row.sessionDate ∉ store.finalized).map (·.redisFields) ∧
    (store.writeRecords inserted duplicate records).1.state = store.state := by
  induction records generalizing store inserted duplicate with
  | nil => exact ⟨(List.append_nil _).symm, rfl⟩
  | cons record records ih =>
    obtain ⟨hfresh, hnodup⟩ := List.nodup_cons.mp hnodup
    unfold writeRecords writeSessionIfNew
    by_cases hmem : record.row.sessionDate ∈ store.finalized
    · simp only [hmem, if_true, not_true_eq_false, decide_false, Bool.false_eq_true,
        not_false_eq_true, List.filter_cons_of_neg]
      exact ih store hnodup inserted (duplicate + 1)
    · simp only [hmem, if_false, not_false_eq_true, decide_true, List.filter_cons_of_pos,
        List.map_cons]
      obtain ⟨hledger, hstate⟩ := ih { store with
        ledger := store.ledger ++ [record.redisFields]
        finalized := record.row.sessionDate :: store.finalized } hnodup (inserted + 1) duplicate
      refine ⟨?_, hstate⟩
      rw [hledger, List.append_assoc, List.singleton_append]
      congr 3
      refine List.filter_congr fun other hother => ?_
      have hne : other.row.sessionDate ≠ record.row.sessionDate :=
        fun heq => hfresh (List.mem_map.mpr ⟨other, hother, heq⟩)
      simp [hne]

def seedRecords (config : StartupConfig) (seedRows : List RiskGateSessionRow) :
    List RiskGateLedgerRecord :=
  seedRows.mapIdx fun idx row =>
    recordOfRow config.identity config.finalizedAtUtc (seedRows.take (idx + 1)) row

def recentRecords (store : RiskGateStore) (config : StartupConfig) : List RiskGateLedgerRecord :=
  (store.ledger.rtake (max config.ledgerScanCount 1)).reverse

def plannedRecords (store : RiskGateStore) (config : StartupConfig)
    (seedRows : List RiskGateSessionRow) :
    RiskGateStartupDecision → List RiskGateLedgerRecord × List RiskGateLedgerRecord
  | .useExistingLedger => (sortBySessionDate (·.row.sessionDate) (store.recentRecords config), [])
  | .importSeed | .rebuildFromSeed => (seedRecords config seedRows, seedRecords config seedRows)

/-- What a successful start finds, decides and leaves behind. -/
structure Started (store store' : RiskGateStore) (config : StartupConfig)
    (seedRows : List RiskGateSessionRow) (result : StartupResult) : Prop where
  seed : Regular seedRows
  reconciled : ∃ existing, rowsFromLedgerRecords (store.recentRecords config) = .ok existing ∧
    reconcileSeedWithLedger config.mode existing seedRows = .ok result.artifacts.decision
  planned : result.artifacts.ledgerRecords =
    (store.plannedRecords config seedRows result.artifacts.decision).1
  materialized : ∃ rows seedLoaded,
    rowsFromLedgerRecords result.artifacts.ledgerRecords = .ok rows ∧
      result.artifacts.materializedState =
        materializedState rows config.currentShadowSessionDate 0 seedLoaded
  ledger : store'.ledger = store.ledger ++
    ((store.plannedRecords config seedRows result.artifacts.decision).2.filter fun record =>
      record.row.sessionDate ∉ store.finalized).map (·.redisFields)
  state : store'.state = store.state.hset result.artifacts.materializedState.redisFields

theorem map_row_seedRecords (config : StartupConfig) (seedRows : List RiskGateSessionRow) :
    (seedRecords config seedRows).map (·.row) = seedRows :=
  map_row_recordOfRow seedRows

variable {seedRows : List RiskGateSessionRow} {config : StartupConfig}

theorem recordsOfDecision_ok {decision : RiskGateStartupDecision}
    {planned : List RiskGateLedgerRecord × List RiskGateLedgerRecord}
    (h : recordsOfDecision (store.recentRecords config) seedRows config.identity
      config.finalizedAtUtc decision = .ok planned) :
    planned = store.plannedRecords config seedRows decision := by
  have hseed : (buildLedgerRecordsFromRows seedRows config.identity config.finalizedAtUtc).map
      (fun records => (records, records)) = .ok planned →
      planned = (seedRecords config seedRows, seedRecords config seedRows) := by
    intro hbuild
    obtain ⟨records, hrecords, rfl⟩ := map_eq_ok.mp hbuild
    rw [(buildLedgerRecordsFromRows_eq_ok.mp hrecords).2]
    rfl
  cases decision with
  | useExistingLedger => exact (Except.ok.inj h).symm
  | importSeed => exact hseed h
  | rebuildFromSeed => exact hseed h

theorem nodup_plannedRecords (store : RiskGateStore) (config : StartupConfig)
    (hseed : Regular seedRows) (decision : RiskGateStartupDecision) :
    ((store.plannedRecords config seedRows decision).2.map (·.row.sessionDate)).Nodup := by
  have hrecords : ((seedRecords config seedRows).map (·.row.sessionDate)).Nodup := by
    have hdates : (seedRecords config seedRows).map (·.row.sessionDate) =
        seedRows.map (·.sessionDate) := by
      rw [← map_row_seedRecords config seedRows, List.map_map, map_row_seedRecords]
      rfl
    rw [hdates]
    exact List.Pairwise.imp ne_of_lt (List.pairwise_map.mpr hseed.increasing)
  cases decision with
  | useExistingLedger => exact List.nodup_nil
  | importSeed | rebuildFromSeed => exact hrecords

theorem runStartup_ok {result : StartupResult}
    (h : store.runStartup config seedRows = .ok (store', result)) :
    Started store store' config seedRows result := by
  obtain ⟨existing, hload, h⟩ := bind_eq_ok.mp h
  obtain ⟨previous, -, h⟩ := bind_eq_ok.mp h
  obtain ⟨⟨⟩, hseed, h⟩ := bind_eq_ok.mp h
  obtain ⟨artifacts, hplan, h⟩ := bind_eq_ok.mp h
  obtain ⟨⟨written, summary⟩, hpersist, h⟩ := bind_eq_ok.mp h
  obtain ⟨ledgerRows, -, h⟩ := bind_eq_ok.mp h
  obtain ⟨gaps, -, h⟩ := bind_eq_ok.mp h
  obtain ⟨rfl, rfl⟩ := Prod.mk.inj (Except.ok.inj h)
  have hseed := validateRegularSessionLedger_eq_ok.mp hseed
  obtain rfl := loadLedgerRecords_ok hload
  -- the plan
  obtain ⟨⟨⟩, -, hplan⟩ := bind_eq_ok.mp hplan
  obtain ⟨existingRows, hexisting, hplan⟩ := bind_eq_ok.mp hplan
  obtain ⟨decision, hdecision, hplan⟩ := bind_eq_ok.mp hplan
  obtain ⟨⟨ledgerRecords, recordsToWrite⟩, hrecords, hplan⟩ := bind_eq_ok.mp hplan
  obtain ⟨state, hstate, hplan⟩ := bind_eq_ok.mp hplan
  obtain rfl := Except.ok.inj hplan
  have hplanned : (ledgerRecords, recordsToWrite) = store.plannedRecords config seedRows decision :=
    recordsOfDecision_ok hrecords
  obtain ⟨rows, hrows, -⟩ := bind_eq_ok.mp hstate
  rw [rebuildMaterializedState_eq _ _ _ hrows] at hstate
  -- what it writes
  obtain ⟨⟨⟩, -, hpersist⟩ := bind_eq_ok.mp hpersist
  obtain ⟨hwritten, -⟩ := Prod.mk.inj (Except.ok.inj hpersist)
  obtain ⟨hledger, hkept⟩ := store.writeRecords_ledger
    (nodup_plannedRecords store config hseed decision) 0 0
  rw [← hplanned] at hledger hkept
  rw [← hwritten]
  exact {
    seed := hseed
    reconciled := ⟨existingRows, hexisting, hdecision⟩
    planned := by rw [← hplanned]
    materialized := ⟨rows, _, hrows, (Except.ok.inj hstate).symm⟩
    ledger := by
      rw [← hplanned]
      exact hledger
    state := by
      show RiskGateStateFields.hset _ _ = _
      rw [hkept] }

theorem validateLedgerRecordIdentity_ok (h : ∀ record ∈ records,
      record.profileId = identity.profileId ∧ record.mrVariant = identity.mrVariant ∧
        record.timeframe = identity.timeframe ∧
        record.sessionPolicy = identity.sessionPolicyForDate record.row.sessionDate) :
    validateLedgerRecordIdentity identity records = .ok () := by
  induction records with
  | nil => rfl
  | cons record records ih =>
    obtain ⟨⟨hprofile, hvariant, htimeframe, hpolicy⟩, hrest⟩ := List.forall_mem_cons.mp h
    simp only [validateLedgerRecordIdentity, hprofile, hvariant, htimeframe, hpolicy, ne_eq,
      not_true_eq_false, if_false]
    exact ih hrest

theorem runStartup_bootstrap (config : StartupConfig) (hmode : config.mode = .bootstrapFromSeed)
    (hseed : Regular seedRows) (hne : seedRows ≠ []) :
    ∃ store result, RiskGateStore.empty.runStartup config seedRows = .ok (store, result) := by
  have hvalid := validateRegularSessionLedger_eq_ok.mpr hseed
  obtain ⟨last, hlast⟩ : ∃ last, seedRows.getLast? = some last :=
    ⟨_, List.getLast?_eq_some_getLast hne⟩
  have hrecords : buildLedgerRecordsFromRows seedRows config.identity config.finalizedAtUtc =
      .ok (seedRecords config seedRows) := buildLedgerRecordsFromRows_eq_ok.mpr ⟨hseed, rfl⟩
  have hrows : rowsFromLedgerRecords (seedRecords config seedRows) = .ok seedRows := by
    refine rowsFromLedgerRecords_of_perm ?_ hseed
    rw [map_row_seedRecords]
  have hidentity : validateLedgerRecordIdentity config.identity (seedRecords config seedRows) =
      .ok () := by
    refine validateLedgerRecordIdentity_ok fun record hrecord => ?_
    obtain ⟨i, -, rfl⟩ := List.mem_mapIdx.mp hrecord
    exact ⟨rfl, rfl, rfl, rfl⟩
  have hreconciled : reconcileSeedWithLedger config.mode [] seedRows = .ok .importSeed := by
    unfold reconcileSeedWithLedger
    rw [hvalid, hmode, hlast]
    rfl
  have hgaps : ∃ gaps, recentRegularWeekdayGaps seedRows continuityLookbackDays = .ok gaps := by
    unfold recentRegularWeekdayGaps
    rw [hvalid, hlast]
    exact ⟨_, rfl⟩
  obtain ⟨gaps, hgaps⟩ := hgaps
  have hplan : planRiskGateStartup config.mode [] seedRows config.identity
      config.currentShadowSessionDate config.finalizedAtUtc =
        .ok ⟨.importSeed, seedRecords config seedRows, seedRecords config seedRows,
          materializedState seedRows config.currentShadowSessionDate 0
            ((seedRecords config seedRows).any fun record => record.row.source = .seed)⟩ := by
    have hnone : rowsFromLedgerRecords [] = .ok [] := rfl
    have hdecided : recordsOfDecision [] seedRows config.identity config.finalizedAtUtc
        .importSeed = .ok (seedRecords config seedRows, seedRecords config seedRows) := by
      unfold recordsOfDecision
      rw [hrecords]
      rfl
    unfold planRiskGateStartup
    simp only [validateLedgerRecordIdentity, hnone, hreconciled, hdecided,
      rebuildMaterializedState_eq _ _ _ hrows, bind, Except.bind]
    rfl
  have hload : RiskGateStore.empty.loadLedgerRecords (max config.ledgerScanCount 1) = .ok [] := by
    simp [loadLedgerRecords, empty]
    rfl
  unfold runStartup persistStartupArtifacts
  simp only [hload, hvalid, hplan, hidentity, hrows, hgaps, bind, Except.bind]
  exact ⟨_, _, rfl⟩

end RiskGateStore

end AlorRs
