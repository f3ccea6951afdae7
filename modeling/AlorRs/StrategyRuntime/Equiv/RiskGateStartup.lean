import AlorRs.StrategyRuntime.Equiv.RiskGateAgreement

/-!
# The store after a start

When the ledger is read again after a start, it gives the state and the records of the start exactly
if nothing stands in the way of the seed: the entries of dates that were finalized before are the
seed's, all can be read, and no field of an older state shows through
(`RiskGateStore.runStartup_consistent_iff`).
-/

namespace AlorRs

open Outcome

/-! ### What is compared -/

def RiskGateSessionRow.dated (row : RiskGateSessionRow) : NaiveDate × ℚ :=
  (row.sessionDate, row.shadowPnlPoints)

def RiskGateMaterializedState.decisive (state : RiskGateMaterializedState) :
    Option NaiveDate × Option ℚ × Option Bool :=
  (state.lastFinalizedSessionDate, state.rollingSumLb120, state.mrEnabledNextSession)

def RiskGateStateFields.decisive (fields : RiskGateStateFields) :
    Option NaiveDate × Option ℚ × Option Bool :=
  (fields.lastFinalizedSessionDate, fields.rollingSumLb120, fields.mrEnabledNextSession)

/-- The sum over the last complete rows, if there is enough history. -/
def gateSum (rows : List RiskGateSessionRow) : Option ℚ :=
  if Seasoned rows then some (recentPnl rows) else none

section Rows

variable {rows rows' : List RiskGateSessionRow}

theorem gateDecision_eq_map (rows : List RiskGateSessionRow) :
    gateDecision rows = (gateSum rows).map fun pnl => decide (0 < pnl) := by
  unfold gateDecision gateSum
  split <;> rfl

theorem map_dated_of_perm (hperm : (rows.map (·.dated)).Perm (rows'.map (·.dated)))
    (hregular : Regular rows') :
    (sortBySessionDate (·.sessionDate) rows).map (·.dated) = rows'.map (·.dated) := by
  have hincreasing : (rows'.map (·.dated)).Pairwise fun pair pair' => pair.1 < pair'.1 :=
    List.pairwise_map.mpr hregular.increasing
  have hsorted : (sortBySessionDate (·.sessionDate) rows).map (·.dated) =
      sortBySessionDate Prod.fst (rows.map (·.dated)) :=
    List.map_insertionSort _ _ RiskGateSessionRow.dated rows fun _ _ _ _ => Iff.rfl
  rw [hsorted]
  exact sortBySessionDate_of_perm hperm hincreasing

theorem Regular.of_dated (h : Regular rows') (hdated : rows.map (·.dated) = rows'.map (·.dated)) :
    Regular rows := by
  refine h.of_dates ?_
  have hfst := congrArg (List.map Prod.fst) hdated
  rwa [List.map_map, List.map_map] at hfst

theorem getLast?_of_dated (hdated : rows.map (·.dated) = rows'.map (·.dated)) :
    rows.getLast?.map (·.sessionDate) = rows'.getLast?.map (·.sessionDate) := by
  have hlast := congrArg (fun pairs => pairs.getLast?.map Prod.fst) hdated
  simpa [Option.map_map, Function.comp_def, RiskGateSessionRow.dated] using hlast

end Rows

namespace RiskGateStore

/-- The ledger that is read again gives the state and the records of the start. -/
def Consistent (store : RiskGateStore) (config : StartupConfig) (result : StartupResult) : Prop :=
  ∃ records rows, store.loadLedgerRecords (max config.ledgerScanCount 1) = .ok records ∧
    rowsFromLedgerRecords records = .ok rows ∧
    rows.map (·.dated) = result.artifacts.ledgerRecords.map (·.row.dated) ∧
    ∀ seedLoaded, ∃ state,
      rebuildMaterializedState records config.currentShadowSessionDate 0 seedLoaded = .ok state ∧
        state.decisive = result.artifacts.materializedState.decisive ∧
        state.decisive = store.state.decisive

/-- No field of an older state shows through, and the sum can be written. -/
def StateFits (store : RiskGateStore) (rows : List RiskGateSessionRow) : Prop :=
  (∀ sum ∈ gateSum rows, storedFloat sum = sum) ∧
    (gateSum rows = none → store.state.rollingSumLb120 = none ∧
      store.state.mrEnabledNextSession = none)

def freshRows (store : RiskGateStore) (seedRows : List RiskGateSessionRow) :
    List RiskGateSessionRow :=
  seedRows.filter fun row => row.sessionDate ∉ store.finalized

def keptRows (store : RiskGateStore) (config : StartupConfig)
    (seedRows : List RiskGateSessionRow) : List RiskGateSessionRow :=
  store.rows.rtake (max config.ledgerScanCount 1 - (store.freshRows seedRows).length)

/-- The stream takes the seed: the fresh rows fit into what is read, have texts and points that can
be read back, and the rows of before are those of the seed whose dates are finalized, with
statuses that give the same sum. -/
structure SeedFits (store : RiskGateStore) (config : StartupConfig)
    (seedRows : List RiskGateSessionRow) : Prop where
  room : (store.freshRows seedRows).length ≤ max config.ledgerScanCount 1
  texts : ∀ row ∈ store.freshRows seedRows, ∀ text ∈ [config.identity.profileId,
    config.identity.mrVariant, config.identity.timeframe,
    config.identity.sessionPolicyForDate row.sessionDate, config.identity.modelVersion],
    isBlank text = false
  points : ∀ row ∈ store.freshRows seedRows, storedFloat row.shadowPnlPoints = row.shadowPnlPoints
  kept : ((store.keptRows config seedRows).map (·.dated)).Perm
    ((seedRows.filter fun row => row.sessionDate ∈ store.finalized).map (·.dated))
  sum : gateSum (sortBySessionDate (·.sessionDate)
    (store.keptRows config seedRows ++ (store.freshRows seedRows).map (·.stored))) =
      gateSum seedRows

/-- A start is right about the stream it leaves behind. -/
def Fits (store : RiskGateStore) (config : StartupConfig) (seedRows : List RiskGateSessionRow) :
    Prop :=
  match config.mode with
  | .normalAppend => store.StateFits
    (sortBySessionDate (·.sessionDate) (store.rows.rtake (max config.ledgerScanCount 1)))
  | .bootstrapFromSeed | .rebuildFromHistory =>
    store.SeedFits config seedRows ∧ store.StateFits seedRows

variable {store store' : RiskGateStore} {config : StartupConfig}
  {seedRows rows : List RiskGateSessionRow} {result : StartupResult}

/-- The rows that are read again are those of the start and give the same sum. -/
def Reloads (store : RiskGateStore) (config : StartupConfig) (rows : List RiskGateSessionRow) :
    Prop :=
  ∃ records reloaded, store.loadLedgerRecords (max config.ledgerScanCount 1) = .ok records ∧
    rowsFromLedgerRecords records = .ok reloaded ∧ reloaded.map (·.dated) = rows.map (·.dated) ∧
    gateSum reloaded = gateSum rows

/-- The state that is written is the one that is returned. -/
theorem decisive_hset_iff (hne : rows ≠ []) (date : Option NaiveDate) (seedLoaded : Bool) :
    (store.state.hset (materializedState rows date 0 seedLoaded).redisFields).decisive =
      (materializedState rows date 0 seedLoaded).decisive ↔ store.StateFits rows := by
  obtain ⟨last, hlast⟩ : ∃ last, rows.getLast? = some last :=
    ⟨_, List.getLast?_eq_some_getLast hne⟩
  have hdecisive : (materializedState rows date 0 seedLoaded).decisive =
      (some last.sessionDate, gateSum rows, gateDecision rows) := by
    show (rows.getLast?.map (·.sessionDate), gateSum rows, gateDecision rows) = _
    rw [hlast]
    rfl
  have hwritten : (store.state.hset (materializedState rows date 0 seedLoaded).redisFields).decisive =
      (some last.sessionDate, ((gateSum rows).map storedFloat).or store.state.rollingSumLb120,
        (gateDecision rows).or store.state.mrEnabledNextSession) := by
    show ((rows.getLast?.map (·.sessionDate)).or _, ((gateSum rows).map storedFloat).or _, _) = _
    rw [hlast]
    rfl
  rw [hdecisive, hwritten, gateDecision_eq_map, StateFits]
  cases gateSum rows with
  | none => simp
  | some sum => simp

theorem consistent_iff {date : Option NaiveDate} {seedLoaded : Bool} (hne : rows ≠ [])
    (hrecords : result.artifacts.ledgerRecords.map (·.row.dated) = rows.map (·.dated))
    (hstate : result.artifacts.materializedState = materializedState rows date 0 seedLoaded)
    (hwritten : store'.state = store.state.hset result.artifacts.materializedState.redisFields) :
    store'.Consistent config result ↔ store'.Reloads config rows ∧ store.StateFits rows := by
  have hfits : _ ↔ store.StateFits rows := decisive_hset_iff hne date seedLoaded
  rw [← hstate, ← hwritten] at hfits
  constructor
  · rintro ⟨records, reloaded, hload, hrows, hdated, hrebuilt⟩
    obtain ⟨state, hrebuild, hreturned, hfields⟩ := hrebuilt false
    refine ⟨⟨records, reloaded, hload, hrows, hdated.trans hrecords, ?_⟩,
      hfits.mp (hfields.symm.trans hreturned)⟩
    rw [rebuildMaterializedState_eq _ _ _ hrows] at hrebuild
    rw [← Except.ok.inj hrebuild, hstate] at hreturned
    exact congrArg (fun decisive => decisive.2.1) hreturned
  · rintro ⟨⟨records, reloaded, hload, hrows, hdated, hsum⟩, hstateFits⟩
    refine ⟨records, reloaded, hload, hrows, hdated.trans hrecords.symm, fun loaded =>
      ⟨_, rebuildMaterializedState_eq _ _ loaded hrows, ?_⟩⟩
    have hreturned : (materializedState reloaded config.currentShadowSessionDate 0 loaded).decisive =
        result.artifacts.materializedState.decisive := by
      rw [hstate]
      show (reloaded.getLast?.map (·.sessionDate), gateSum reloaded, gateDecision reloaded) =
        (rows.getLast?.map (·.sessionDate), gateSum rows, gateDecision rows)
      rw [getLast?_of_dated hdated, gateDecision_eq_map, gateDecision_eq_map rows, hsum]
    exact ⟨hreturned, hreturned.trans (hfits.mpr hstateFits).symm⟩

theorem readable_of_runStartup (h : store.runStartup config seedRows = .ok (store', result)) :
    ∀ record ∈ store.ledger.rtake (max config.ledgerScanCount 1),
      record.fromRedisFields = .ok record := by
  obtain ⟨records, hload, -⟩ := bind_eq_ok.mp h
  have hall := (mapM_check (fun _ _ => RiskGateLedgerRecord.fromRedisFields_ok) hload).2
  intro record hrecord
  rw [List.rtake_eq_reverse_take_reverse, List.mem_reverse] at hrecord
  exact hall record hrecord

/-- A ledger that was only read is read again. -/
theorem reloads_of_existing (h : store.runStartup config seedRows = .ok (store', result))
    (hledger : store'.ledger = store.ledger)
    (hrows : rowsFromLedgerRecords (store.recentRecords config) = .ok rows) :
    store'.Reloads config rows := by
  refine ⟨store.recentRecords config, rows, ?_, hrows, rfl, rfl⟩
  unfold loadLedgerRecords recentRecords
  rw [hledger, List.rtake_eq_reverse_take_reverse, List.reverse_reverse]
  refine mapM_of_check fun record hrecord => readable_of_runStartup h record ?_
  rw [List.rtake_eq_reverse_take_reverse, List.mem_reverse]
  exact hrecord

def freshRecords (store : RiskGateStore) (config : StartupConfig)
    (seedRows : List RiskGateSessionRow) : List RiskGateLedgerRecord :=
  ((seedRecords config seedRows).filter fun record =>
    record.row.sessionDate ∉ store.finalized).map (·.redisFields)

theorem map_row_freshRecords (store : RiskGateStore) (config : StartupConfig)
    (seedRows : List RiskGateSessionRow) :
    (store.freshRecords config seedRows).map (·.row) =
      (store.freshRows seedRows).map (·.stored) := by
  have hfresh : ((seedRecords config seedRows).filter fun record =>
      record.row.sessionDate ∉ store.finalized).map (·.row) = store.freshRows seedRows := by
    unfold freshRows
    rw [← map_row_seedRecords config seedRows, List.filter_map, map_row_seedRecords]
    rfl
  unfold freshRecords
  rw [← hfresh, List.map_map, List.map_map]
  rfl

theorem length_freshRecords (store : RiskGateStore) (config : StartupConfig)
    (seedRows : List RiskGateSessionRow) :
    (store.freshRecords config seedRows).length = (store.freshRows seedRows).length := by
  rw [← List.length_map (f := RiskGateLedgerRecord.row), map_row_freshRecords, List.length_map]

/-- The fresh entries can be read if their texts can. -/
theorem readable_freshRecords_iff (store : RiskGateStore) (config : StartupConfig)
    (seedRows : List RiskGateSessionRow) :
    (∀ record ∈ store.freshRecords config seedRows, record.fromRedisFields = .ok record) ↔
      ∀ row ∈ store.freshRows seedRows, ∀ text ∈ [config.identity.profileId,
        config.identity.mrVariant, config.identity.timeframe,
        config.identity.sessionPolicyForDate row.sessionDate, config.identity.modelVersion],
        isBlank text = false := by
  constructor
  · intro h row hrow
    obtain ⟨hseed, hfresh⟩ := List.mem_filter.mp hrow
    obtain ⟨i, hlt, rfl⟩ := List.getElem_of_mem hseed
    have hrecord : recordOfRow config.identity config.finalizedAtUtc (seedRows.take (i + 1))
        seedRows[i] ∈ seedRecords config seedRows := List.mem_mapIdx.mpr ⟨i, hlt, rfl⟩
    exact RiskGateLedgerRecord.fromRedisFields_iff.mp
      (h _ (List.mem_map_of_mem (List.mem_filter.mpr ⟨hrecord, hfresh⟩)))
  · intro h record hrecord
    obtain ⟨written, hwritten, rfl⟩ := List.mem_map.mp hrecord
    obtain ⟨hseed, hfresh⟩ := List.mem_filter.mp hwritten
    obtain ⟨i, hlt, rfl⟩ := List.mem_mapIdx.mp hseed
    exact RiskGateLedgerRecord.fromRedisFields_iff.mpr
      (h _ (List.mem_filter.mpr ⟨List.getElem_mem hlt, hfresh⟩))

theorem perm_seed_iff {kept : List RiskGateSessionRow} (hseed : Regular seedRows) :
    ((kept ++ (store.freshRows seedRows).map (·.stored)).map (·.dated)).Perm
        (seedRows.map (·.dated)) ↔
      (kept.map (·.dated)).Perm
        ((seedRows.filter fun row => row.sessionDate ∈ store.finalized).map (·.dated)) ∧
      ∀ row ∈ store.freshRows seedRows, storedFloat row.shadowPnlPoints = row.shadowPnlPoints := by
  have hsplit : ((seedRows.filter fun row => row.sessionDate ∈ store.finalized).map (·.dated) ++
      (store.freshRows seedRows).map (·.dated)).Perm (seedRows.map (·.dated)) := by
    rw [← List.map_append]
    refine List.Perm.map _ ?_
    unfold freshRows
    have hperm := List.filter_append_perm
      (fun row : RiskGateSessionRow => decide (row.sessionDate ∈ store.finalized)) seedRows
    simpa only [decide_not] using hperm
  rw [List.map_append]
  constructor
  · intro hperm
    have hpoints : ∀ row ∈ store.freshRows seedRows,
        storedFloat row.shadowPnlPoints = row.shadowPnlPoints := by
      intro row hrow
      -- the pair that was written is one of the seed, and its date belongs to this row
      have hmem : row.stored.dated ∈ seedRows.map (·.dated) := by
        refine hperm.subset (List.mem_append_right _ ?_)
        exact List.mem_map_of_mem (List.mem_map_of_mem hrow)
      obtain ⟨other, hother, heq⟩ := List.mem_map.mp hmem
      have hnodup : (seedRows.map (·.sessionDate)).Nodup :=
        List.Pairwise.imp ne_of_lt (List.pairwise_map.mpr hseed.increasing)
      have hsame : other = row := List.inj_on_of_nodup_map hnodup hother
        (List.mem_of_mem_filter hrow) (congrArg Prod.fst heq)
      rw [hsame] at heq
      exact (congrArg Prod.snd heq).symm
    refine ⟨?_, hpoints⟩
    have hfresh : ((store.freshRows seedRows).map (·.stored)).map (·.dated) =
        (store.freshRows seedRows).map (·.dated) := by
      rw [List.map_map]
      exact List.map_congr_left fun row hrow => Prod.ext rfl (hpoints row hrow)
    rw [hfresh] at hperm
    exact (List.perm_append_right_iff _).mp (hperm.trans hsplit.symm)
  · rintro ⟨hkept, hpoints⟩
    have hfresh : ((store.freshRows seedRows).map (·.stored)).map (·.dated) =
        (store.freshRows seedRows).map (·.dated) := by
      rw [List.map_map]
      exact List.map_congr_left fun row hrow => Prod.ext rfl (hpoints row hrow)
    rw [hfresh]
    exact (hkept.append_right _).trans hsplit

/-- The ledger with the fresh entries gives the seed again exactly if the seed fits. -/
theorem reloads_iff_seedFits (h : store.runStartup config seedRows = .ok (store', result))
    (hseed : Regular seedRows)
    (hledger : store'.ledger = store.ledger ++ store.freshRecords config seedRows) :
    store'.Reloads config seedRows ↔ store.SeedFits config seedRows := by
  have hrows : store'.rows = store.rows ++ (store.freshRows seedRows).map (·.stored) := by
    unfold rows
    rw [hledger, List.map_append, map_row_freshRecords]
  have hentries (n : ℕ) : (store'.ledger.rtake n).map (·.row) = store'.rows.rtake n := by
    unfold rows List.rtake
    rw [List.map_drop, List.length_map]
  have hkept (hroom : (store.freshRows seedRows).length ≤ max config.ledgerScanCount 1) :
      store'.rows.rtake (max config.ledgerScanCount 1) =
        store.keptRows config seedRows ++ (store.freshRows seedRows).map (·.stored) := by
    rw [hrows, Recent.rtake_append (by rwa [List.length_map]), List.length_map]
    rfl
  constructor
  · rintro ⟨records, reloaded, hload, hreloaded, hdated, hsum⟩
    have hreadable := (mapM_check (fun _ _ => RiskGateLedgerRecord.fromRedisFields_ok) hload).2
    rw [loadLedgerRecords_ok hload] at hreloaded
    obtain ⟨hsorted, hregular⟩ := rowsFromLedgerRecords_eq_ok.mp hreloaded
    have hperm : reloaded.Perm (store'.rows.rtake (max config.ledgerScanCount 1)) := by
      rw [hsorted, List.map_reverse, hentries]
      exact (List.perm_insertionSort ..).trans (List.reverse_perm _)
    have hroom : (store.freshRows seedRows).length ≤ max config.ledgerScanCount 1 := by
      have hlength := hperm.length_eq
      have hsame := congrArg List.length hdated
      rw [List.length_map, List.length_map] at hsame
      rw [Recent.length_rtake, hsame] at hlength
      exact (List.length_filter_le ..).trans (hlength ▸ Nat.min_le_left ..)
    rw [hkept hroom] at hperm
    obtain ⟨hsame, hpoints⟩ := (perm_seed_iff hseed).mp
      ((hperm.map _).symm.trans (hdated ▸ List.Perm.refl _))
    refine ⟨hroom, (readable_freshRecords_iff store config seedRows).mp fun record hrecord => ?_,
      hpoints, hsame, ?_⟩
    · refine hreadable record ?_
      rw [← List.mem_reverse, ← List.rtake_eq_reverse_take_reverse, hledger,
        Recent.rtake_append (by rwa [length_freshRecords])]
      exact List.mem_append_right _ hrecord
    · rw [sortBySessionDate_of_perm hperm.symm hregular.increasing]
      exact hsum
  · rintro ⟨hroom, htexts, hpoints, hsame, hsum⟩
    have hdated := map_dated_of_perm ((perm_seed_iff hseed).mpr ⟨hsame, hpoints⟩) hseed
    refine ⟨(store'.ledger.rtake (max config.ledgerScanCount 1)).reverse, _, ?_,
      rowsFromLedgerRecords_of_perm ?_ (hseed.of_dated hdated), hdated, hsum⟩
    · rw [List.rtake_eq_reverse_take_reverse, List.reverse_reverse]
      refine mapM_of_check fun record hrecord => ?_
      rw [← List.mem_reverse, ← List.rtake_eq_reverse_take_reverse, hledger,
        Recent.rtake_append (by rwa [length_freshRecords])] at hrecord
      rcases List.mem_append.mp hrecord with hrecord | hrecord
      · refine readable_of_runStartup h record ?_
        exact (List.drop_sublist_drop_left _ (by omega)).subset hrecord
      · exact (readable_freshRecords_iff store config seedRows).mpr htexts record hrecord
    · rw [List.map_reverse, hentries, hkept hroom]
      exact (List.reverse_perm _).trans (List.perm_insertionSort ..).symm

variable {existing seed : List RiskGateSessionRow} {decision : RiskGateStartupDecision}

theorem reconcile_normalAppend
    (h : reconcileSeedWithLedger .normalAppend existing seed = .ok decision) :
    decision = .useExistingLedger ∧ existing ≠ [] := by
  obtain ⟨⟨⟩, -, h⟩ := bind_eq_ok.mp h
  obtain ⟨⟨⟩, -, h⟩ := bind_eq_ok.mp h
  have hne : existing ≠ [] := by
    rintro rfl
    cases h
  refine ⟨?_, hne⟩
  obtain ⟨last, hlast⟩ : ∃ last, existing.getLast? = some last :=
    ⟨_, List.getLast?_eq_some_getLast hne⟩
  rw [hlast] at h
  dsimp only [Option.map_some] at h
  cases hseed : seed.getLast? with
  | none =>
    rw [hseed] at h
    exact (Except.ok.inj h).symm
  | some seedLast =>
    rw [hseed] at h
    dsimp only [Option.map_some] at h
    split at h
    · exact (Except.ok.inj h).symm
    · cases h

theorem seed_ne_nil {mode : RiskGateStartupMode} (hmode : mode ≠ .normalAppend)
    (h : reconcileSeedWithLedger mode existing seed = .ok decision) : seed ≠ [] := by
  obtain ⟨⟨⟩, -, h⟩ := bind_eq_ok.mp h
  obtain ⟨⟨⟩, -, h⟩ := bind_eq_ok.mp h
  rintro rfl
  generalize existing.getLast?.map (·.sessionDate) = existingLast at h
  cases mode with
  | normalAppend => exact hmode rfl
  | bootstrapFromSeed => cases existingLast <;> cases h
  | rebuildFromHistory => cases h

theorem consistent_iff_of_existing (h : store.runStartup config seedRows = .ok (store', result))
    (hmode : config.mode = .normalAppend) :
    store'.Consistent config result ↔ store.StateFits
      (sortBySessionDate (·.sessionDate) (store.rows.rtake (max config.ledgerScanCount 1))) := by
  have hstarted := runStartup_ok h
  obtain ⟨existing, hexisting, hdecision⟩ := hstarted.reconciled
  obtain ⟨rows, seedLoaded, hrows, hstate⟩ := hstarted.materialized
  rw [hmode] at hdecision
  obtain ⟨hdecided, hne⟩ := reconcile_normalAppend hdecision
  have hplanned := hstarted.planned
  have hledger := hstarted.ledger
  rw [hdecided] at hplanned hledger
  obtain ⟨hsorted, hregular⟩ := rowsFromLedgerRecords_eq_ok.mp hexisting
  have hrecords : result.artifacts.ledgerRecords.map (·.row) = existing := by
    rw [hplanned, hsorted]
    exact List.map_insertionSort _ _ RiskGateLedgerRecord.row _ fun _ _ _ _ => Iff.rfl
  have hsame : rows = existing := by
    have hperm : (result.artifacts.ledgerRecords.map (·.row)).Perm existing := by rw [hrecords]
    rw [rowsFromLedgerRecords_of_perm hperm hregular] at hrows
    exact (Except.ok.inj hrows).symm
  have hrecent : sortBySessionDate (·.sessionDate)
      (store.rows.rtake (max config.ledgerScanCount 1)) = existing := by
    refine sortBySessionDate_of_perm ?_ hregular.increasing
    have hentries : (store.recentRecords config).map (·.row) =
        (store.rows.rtake (max config.ledgerScanCount 1)).reverse := by
      unfold recentRecords RiskGateStore.rows List.rtake
      rw [List.map_reverse, List.map_drop, List.length_map]
    rw [hsorted, hentries]
    exact (List.reverse_perm _).symm.trans (List.perm_insertionSort ..).symm
  rw [hsame] at hstate
  rw [hrecent, consistent_iff hne ?_ hstate hstarted.state]
  · refine and_iff_right (reloads_of_existing h ?_ hexisting)
    rw [hledger]
    exact List.append_nil _
  · rw [← hrecords, List.map_map]
    rfl

theorem consistent_iff_of_seed (h : store.runStartup config seedRows = .ok (store', result))
    (hmode : config.mode ≠ .normalAppend) :
    store'.Consistent config result ↔ store.SeedFits config seedRows ∧ store.StateFits seedRows := by
  have hstarted := runStartup_ok h
  obtain ⟨existing, -, hdecision⟩ := hstarted.reconciled
  obtain ⟨rows, seedLoaded, hrows, hstate⟩ := hstarted.materialized
  have hplanned : store.plannedRecords config seedRows result.artifacts.decision =
      (seedRecords config seedRows, seedRecords config seedRows) := by
    have hseed := reconcile_eq_seed hmode hdecision
    cases hcase : result.artifacts.decision with
    | useExistingLedger => exact absurd hcase hseed
    | importSeed => rfl
    | rebuildFromSeed => rfl
  have hrecords := hstarted.planned
  have hledger := hstarted.ledger
  rw [hplanned] at hrecords hledger
  have hsame : rows = seedRows := by
    have hperm : (result.artifacts.ledgerRecords.map (·.row)).Perm seedRows := by
      rw [hrecords, map_row_seedRecords]
    rw [rowsFromLedgerRecords_of_perm hperm hstarted.seed] at hrows
    exact (Except.ok.inj hrows).symm
  rw [hsame] at hstate
  rw [consistent_iff (seed_ne_nil hmode hdecision) ?_ hstate hstarted.state,
    reloads_iff_seedFits h hstarted.seed hledger]
  rw [hrecords]
  calc (seedRecords config seedRows).map (·.row.dated)
      = ((seedRecords config seedRows).map (·.row)).map (·.dated) := by
        rw [List.map_map]
        rfl
    _ = seedRows.map (·.dated) := by rw [map_row_seedRecords]

/-- After a successful start, the ledger that is read again gives the state and the records of the
start exactly if the start was right about the stream. -/
theorem runStartup_consistent_iff (h : store.runStartup config seedRows = .ok (store', result)) :
    store'.Consistent config result ↔ store.Fits config seedRows := by
  unfold Fits
  cases hmode : config.mode with
  | normalAppend => exact consistent_iff_of_existing h hmode
  | bootstrapFromSeed | rebuildFromHistory =>
    exact consistent_iff_of_seed h (by rw [hmode]; exact RiskGateStartupMode.noConfusion)

/-- A first import. -/
theorem consistent_firstImport :
    ∃ store result, RiskGateStore.empty.runStartup high180Import (mondayRows [(5 / 2, .complete)]) =
      .ok (store, result) ∧ store.Consistent high180Import result := by
  obtain ⟨store, result, hstart⟩ := exists_eq_ok
    (RiskGateStore.empty.runStartup high180Import (mondayRows [(5 / 2, .complete)])) (by decide +kernel)
  refine ⟨store, result, hstart, (runStartup_consistent_iff hstart).mpr ⟨?_, ?_⟩⟩
  · exact ⟨by decide +kernel, by decide +kernel, by decide +kernel, by decide +kernel,
      by decide +kernel⟩
  · unfold StateFits
    decide +kernel

def oneSession : RiskGateStore :=
  ⟨(mondayRows [(1, .complete)]).map fun row => recordOfRow high180Identity 0 [row] row, [4], .empty⟩

/-- When the history is rebuilt with other points for a session that is finalized, the stream keeps
the old points and the state is of the new ones. -/
theorem not_runStartup_consistent :
    ¬ ∀ (store store' : RiskGateStore) (config : StartupConfig)
        (seedRows : List RiskGateSessionRow) (result : StartupResult),
        store.runStartup config seedRows = .ok (store', result) →
          store'.Consistent config result := by
  intro hclaim
  obtain ⟨store, result, hstart⟩ := exists_eq_ok
    (oneSession.runStartup { high180Import with mode := .rebuildFromHistory }
      (mondayRows [(2, .complete)])) (by decide +kernel)
  have hfits := (consistent_iff_of_seed hstart RiskGateStartupMode.noConfusion).mp
    (hclaim _ _ _ _ _ hstart)
  have hkept := hfits.1.kept
  revert hkept
  decide +kernel

end RiskGateStore

end AlorRs
