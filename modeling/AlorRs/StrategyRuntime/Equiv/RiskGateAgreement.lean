import AlorRs.Lib.History
import AlorRs.StrategyRuntime.Equiv.RiskGateStore

/-!
# Agreement on the gate

A ledger that starts with a seed and grows by sessions: the record of a session, the row of the
next one, the state, and a restart that reads the end of the stream decide the gate by the same sum
(`RiskGateStore.Built.gateAgreement`).
-/

namespace AlorRs

open History Outcome Recent

def RiskGateSessionRow.stored (row : RiskGateSessionRow) : RiskGateSessionRow :=
  { row with
    shadowPnlPoints := storedFloat row.shadowPnlPoints
    rollingSumBeforeSession := storedFloat row.rollingSumBeforeSession }

def RiskGateProfileIdentity.Named (identity : RiskGateProfileIdentity) : Prop :=
  ∀ sessionDate, ∀ text ∈ [identity.profileId, identity.mrVariant, identity.timeframe,
    identity.sessionPolicyForDate sessionDate, identity.modelVersion], isBlank text = false

section Rows

variable {rows : List RiskGateSessionRow} {row : RiskGateSessionRow}

theorem Regular.of_dates {rows' : List RiskGateSessionRow} (h : Regular rows)
    (hdates : rows'.map (·.sessionDate) = rows.map (·.sessionDate)) : Regular rows' := by
  refine ⟨fun row' hrow' => ?_, ?_⟩
  · have hmem := List.mem_map_of_mem (f := RiskGateSessionRow.sessionDate) hrow'
    rw [hdates] at hmem
    obtain ⟨row, hrow, heq⟩ := List.mem_map.mp hmem
    rw [← heq]
    exact h.weekdays row hrow
  · have hincreasing := List.pairwise_map.mpr h.increasing
    rw [← hdates] at hincreasing
    exact List.pairwise_map.mp hincreasing

theorem Regular.stored (h : Regular rows) : Regular (rows.map (·.stored)) := by
  refine h.of_dates ?_
  rw [List.map_map]
  rfl

/-- A session that comes after the end of a ledger comes after the ledger. -/
theorem Regular.concat {n : ℕ} (h : Regular rows) (hn : 0 < n)
    (hrow : Regular (rows.rtake n ++ [row])) : Regular (rows ++ [row]) := by
  refine ⟨fun row' hrow' => ?_, List.pairwise_append.mpr
    ⟨h.increasing, List.pairwise_singleton .., fun row' hrow' last hlast => ?_⟩⟩
  · rcases List.mem_append.mp hrow' with hrow' | hrow'
    · exact h.weekdays row' hrow'
    · exact hrow.weekdays row' (List.mem_append_right _ hrow')
  · rw [List.mem_singleton.mp hlast]
    obtain ⟨before, rest, hrest⟩ : ∃ before rest, rows = before ++ [rest] :=
      ⟨_, _, (List.dropLast_append_getLast (List.ne_nil_of_mem hrow')).symm⟩
    have hseen : rest ∈ rows.rtake n := by
      obtain ⟨m, rfl⟩ := Nat.exists_eq_succ_of_ne_zero hn.ne'
      rw [hrest, List.rtake_concat_succ]
      exact List.mem_append_right _ (List.mem_singleton.mpr rfl)
    have hle : row'.sessionDate ≤ rest.sessionDate :=
      h.le_getLast (by rw [hrest, List.getLast?_concat]) hrow'
    exact hle.trans_lt
      ((List.pairwise_append.mp hrow.increasing).2.2 rest hseen row (List.mem_singleton.mpr rfl))

/-- Points that can be written are not changed by it. -/
theorem completePnls_stored (h : ∀ row ∈ rows, storedFloat row.shadowPnlPoints = row.shadowPnlPoints) :
    completePnls (rows.map (·.stored)) = completePnls rows :=
  completePnls_congr h fun _ _ => rfl

end Rows

namespace RiskGateStore

/-- The entries that a restart reads hold the last 120 complete rows, or all that there are. -/
def StreamCovers (store : RiskGateStore) : Prop :=
  min lookbackSessions (completePnls store.rows).length ≤
    (completePnls (store.rows.rtake ledgerRecoveryScanCount)).length

/-- The stores of a ledger that starts with a number of imported rows and grows by sessions. -/
inductive Built (identity : RiskGateProfileIdentity) (keeps : ℚ → Prop)
    (covers : RiskGateStore → Prop) : ℕ → RiskGateStore → Prop
  | imported {config : StartupConfig} {seedRows : List RiskGateSessionRow} {store : RiskGateStore}
      {result : StartupResult} :
    config.identity = identity → config.mode ≠ .normalAppend →
      (∀ row ∈ seedRows, keeps row.shadowPnlPoints) →
      RiskGateStore.empty.runStartup config seedRows = .ok (store, result) → covers store →
      Built identity keeps covers seedRows.length store
  | appended {imported : ℕ} {store store' : RiskGateStore}
      {finalization : RiskGateSessionFinalization} {finalizedAtUtc : ℤ} {result : AppendResult} :
    Built identity keeps covers imported store → keeps finalization.shadowPnlPoints →
      store.appendRuntimeSession identity finalization finalizedAtUtc ledgerRecoveryScanCount =
        .ok (store', result) →
      result.materializedState.isSome = true → covers store' →
      Built identity keeps covers imported store'

/-- The record decides for the next session by the rows up to its own. -/
def Decided (before : List RiskGateLedgerRecord) (record : RiskGateLedgerRecord) : Prop :=
  record.rollingSumLb120 = storedFloat (recentPnl ((before ++ [record]).map (·.row))) ∧
    record.mrEnabledNextSession = decide (GateOpen ((before ++ [record]).map (·.row)))

/-- The row of a session that was not imported decides by the rows before it, as the record before
it does. -/
def Followed (imported : ℕ) (before : List RiskGateLedgerRecord) (record : RiskGateLedgerRecord) :
    Prop :=
  imported ≤ before.length → record.row.rollingSumBeforeSession = storedFloat
      (if Seasoned (before.map (·.row)) then recentPnl (before.map (·.row)) else 0) ∧
    record.row.mrEnabledForSession = decide (GateOpen (before.map (·.row))) ∧
    ∀ last ∈ before.getLast?, last.mrEnabledNextSession = record.row.mrEnabledForSession

structure GateAgreement (imported : ℕ) (store : RiskGateStore) : Prop where
  increasing : store.rows.Pairwise fun row row' => row.sessionDate < row'.sessionDate
  decided : EachAfter Decided store.ledger
  followed : EachAfter (Followed imported) store.ledger
  materialized : ∀ last ∈ store.ledger.getLast?,
    store.state.mrEnabledNextSession.getD false = last.mrEnabledNextSession
  restarted : ∃ records, store.loadLedgerRecords ledgerRecoveryScanCount = .ok records ∧
    ∀ currentShadowSessionDate currentShadowPnlPoints seedLoaded, ∃ state,
      rebuildMaterializedState records currentShadowSessionDate currentShadowPnlPoints seedLoaded =
        .ok state ∧
      state.mrEnabledNextSession = store.state.mrEnabledNextSession ∧
      state.rollingSumLb120 = if Seasoned store.rows then some (recentPnl store.rows) else none

/-! ### What every step keeps -/

/-- What holds of every store of the ledger. -/
structure Kept (imported : ℕ) (store : RiskGateStore) : Prop where
  regular : Regular store.rows
  decided : EachAfter Decided store.ledger
  followed : EachAfter (Followed imported) store.ledger
  state : store.state.mrEnabledNextSession = gateDecision store.rows
  readable : ∀ record ∈ store.ledger, record.fromRedisFields = .ok record

variable {identity : RiskGateProfileIdentity} {imported : ℕ} {store store' : RiskGateStore}

/-- A record with the identity's texts can be read. -/
theorem fromRedisFields_recordOfRow (hnamed : identity.Named) (finalizedAtUtc : ℤ)
    (upTo : List RiskGateSessionRow) (row : RiskGateSessionRow) :
    (recordOfRow identity finalizedAtUtc upTo row).redisFields.fromRedisFields =
      .ok (recordOfRow identity finalizedAtUtc upTo row).redisFields :=
  RiskGateLedgerRecord.fromRedisFields_iff.mpr (hnamed row.sessionDate)

theorem reconcile_eq_seed {mode : RiskGateStartupMode} {existing seed : List RiskGateSessionRow}
    {decision : RiskGateStartupDecision} (hmode : mode ≠ .normalAppend)
    (h : reconcileSeedWithLedger mode existing seed = .ok decision) :
    decision ≠ .useExistingLedger := by
  obtain ⟨⟨⟩, -, h⟩ := bind_eq_ok.mp h
  obtain ⟨⟨⟩, -, h⟩ := bind_eq_ok.mp h
  rintro rfl
  generalize existing.getLast?.map (·.sessionDate) = existingLast at h
  generalize seed.getLast?.map (·.sessionDate) = seedLast at h
  cases mode with
  | normalAppend => exact hmode rfl
  | bootstrapFromSeed => cases existingLast <;> cases seedLast <;> cases h
  | rebuildFromHistory => cases seedLast <;> cases h

variable {seedRows : List RiskGateSessionRow} {config : StartupConfig} {result : StartupResult}

theorem runStartup_imported (hmode : config.mode ≠ .normalAppend)
    (h : RiskGateStore.empty.runStartup config seedRows = .ok (store, result)) :
    store.ledger = (seedRecords config seedRows).map (·.redisFields) ∧
      store.rows = seedRows.map (·.stored) ∧
      store.state.mrEnabledNextSession = gateDecision seedRows := by
  have hstarted := runStartup_ok h
  obtain ⟨existing, -, hdecision⟩ := hstarted.reconciled
  have hplanned : RiskGateStore.empty.plannedRecords config seedRows result.artifacts.decision =
      (seedRecords config seedRows, seedRecords config seedRows) := by
    have hseed := reconcile_eq_seed hmode hdecision
    cases hcase : result.artifacts.decision with
    | useExistingLedger => exact absurd hcase hseed
    | importSeed => rfl
    | rebuildFromSeed => rfl
  have hledger : store.ledger = (seedRecords config seedRows).map (·.redisFields) := by
    rw [hstarted.ledger, hplanned]
    simp [empty]
  have hrows : store.rows = seedRows.map (·.stored) :=
    calc store.rows = ((seedRecords config seedRows).map (·.row)).map (·.stored) := by
          rw [rows, hledger, List.map_map, List.map_map]
          rfl
      _ = seedRows.map (·.stored) := by rw [map_row_seedRecords]
  refine ⟨hledger, hrows, ?_⟩
  obtain ⟨rows, seedLoaded, hrows', hstate⟩ := hstarted.materialized
  rw [hstarted.planned, hplanned] at hrows'
  have hseedRows : rows = seedRows := by
    have hperm : ((seedRecords config seedRows).map (·.row)).Perm seedRows := by
      rw [map_row_seedRecords]
    rw [rowsFromLedgerRecords_of_perm hperm hstarted.seed] at hrows'
    exact (Except.ok.inj hrows').symm
  rw [hstarted.state, hstate, hseedRows]
  exact Option.or_none

theorem kept_imported (hnamed : config.identity.Named) (hmode : config.mode ≠ .normalAppend)
    (hkeeps : ∀ row ∈ seedRows, storedFloat row.shadowPnlPoints = row.shadowPnlPoints)
    (h : RiskGateStore.empty.runStartup config seedRows = .ok (store, result)) :
    Kept seedRows.length store := by
  obtain ⟨hledger, hrows, hstate⟩ := runStartup_imported hmode h
  have hentry : ∀ i record, store.ledger[i]? = some record → ∃ row, seedRows[i]? = some row ∧
      record = (recordOfRow config.identity config.finalizedAtUtc
        (seedRows.take (i + 1)) row).redisFields := by
    intro i record hrecord
    rw [hledger, List.getElem?_map, seedRecords, List.getElem?_mapIdx, Option.map_map] at hrecord
    obtain ⟨row, hrow, rfl⟩ := Option.map_eq_some_iff.mp hrecord
    exact ⟨row, hrow, rfl⟩
  have hdecision' : gateDecision store.rows = gateDecision seedRows := by
    rw [hrows]
    exact gateDecision_congr (completePnls_stored hkeeps)
  refine ⟨?_, fun i record hrecord => ?_, fun i record hrecord himported => ?_, ?_,
    fun record hrecord => ?_⟩
  · rw [hrows]
    exact (runStartup_ok h).seed.stored
  · obtain ⟨row, hrow, rfl⟩ := hentry i record hrecord
    have hupTo : (store.ledger.take i ++ [(recordOfRow config.identity config.finalizedAtUtc
        (seedRows.take (i + 1)) row).redisFields]).map (·.row) =
          (seedRows.take (i + 1)).map (·.stored) := by
      have htake : store.ledger.take i ++ [(recordOfRow config.identity config.finalizedAtUtc
          (seedRows.take (i + 1)) row).redisFields] = store.ledger.take (i + 1) := by
        obtain ⟨hlt, heq⟩ := List.getElem?_eq_some_iff.mp hrecord
        rw [← heq, List.take_append_getElem hlt]
      rw [htake, List.map_take, List.map_take, ← hrows]
      rfl
    have hpnls : completePnls ((seedRows.take (i + 1)).map (·.stored)) =
        completePnls (seedRows.take (i + 1)) :=
      completePnls_stored fun row hrow => hkeeps row (List.mem_of_mem_take hrow)
    refine ⟨?_, ?_⟩
    · rw [hupTo, recentPnl_congr hpnls]
      exact congrArg storedFloat (recordOfRow_rollingSumLb120 _)
    · rw [hupTo, gateOpen_of_decision (gateDecision_congr hpnls)]
      show (recordOfRow config.identity config.finalizedAtUtc (seedRows.take (i + 1)) row).mrEnabledNextSession = _
      rw [recordOfRow_mrEnabledNextSession]
  · obtain ⟨hlt, -⟩ := List.getElem?_eq_some_iff.mp hrecord
    have hlength : store.ledger.length = seedRows.length := by
      rw [← List.length_map (f := RiskGateLedgerRecord.row)]
      show store.rows.length = _
      rw [hrows, List.length_map]
    rw [List.length_take] at himported
    omega
  · rw [hdecision', hstate]
  · obtain ⟨i, hi⟩ := List.mem_iff_getElem?.mp hrecord
    obtain ⟨row, -, rfl⟩ := hentry i record hi
    exact fromRedisFields_recordOfRow hnamed _ _ _

theorem Kept.appended {finalization : RiskGateSessionFinalization} {finalizedAtUtc : ℤ}
    {result : AppendResult} (h : Kept imported store) (hnamed : identity.Named)
    (hcovers : StreamCovers store)
    (hkeeps : storedFloat finalization.shadowPnlPoints = finalization.shadowPnlPoints)
    (happend : store.appendRuntimeSession identity finalization finalizedAtUtc
      ledgerRecoveryScanCount = .ok (store', result))
    (hinserted : result.materializedState.isSome = true) : Kept imported store' := by
  obtain ⟨seen, row, hseen, hrow, hregular, -, hledger, -, hstate⟩ :=
    appendRuntimeSession_inserted h.regular happend hinserted
  have hseen' : seen = store.rows.rtake ledgerRecoveryScanCount := hseen
  have hcover : Covers (fun row => decide (row.status = .complete)) lookbackSessions seen
      store.rows := by
    refine ⟨hseen' ▸ List.drop_suffix .., ?_⟩
    unfold StreamCovers completePnls at hcovers
    rwa [List.length_map, List.length_map, ← hseen'] at hcovers
  -- the new row counts the same for the writer, who sees the end of the stream, and in the ledger
  have hpnls : completePnls (store.rows ++ [row.stored]) = completePnls (store.rows ++ [row]) := by
    have hrow' : completePnls ([row].map (·.stored)) = completePnls [row] := by
      refine completePnls_stored fun other hother => ?_
      rw [List.mem_singleton.mp hother, hrow]
      exact hkeeps
    unfold completePnls at hrow' ⊢
    rw [List.filter_append, List.filter_append, List.map_append, List.map_append]
    exact congrArg _ hrow'
  have hafter : gateDecision (seen ++ [row]) = gateDecision (store.rows ++ [row.stored]) := by
    rw [gateDecision_covers (hcover.concat row), gateDecision_congr hpnls]
  have hsum : recentPnl (seen ++ [row]) = recentPnl (store.rows ++ [row.stored]) := by
    rw [recentPnl_covers (hcover.concat row), recentPnl_congr hpnls]
  have hrows : store'.rows = store.rows ++ [row.stored] := by
    unfold rows
    rw [hledger, List.map_append]
    rfl
  have hupTo : (store.ledger ++
      [(recordOfRow identity finalizedAtUtc (seen ++ [row]) row).redisFields]).map (·.row) =
        store.rows ++ [row.stored] := by
    rw [← hledger]
    exact hrows
  refine ⟨?_, ?_, ?_, ?_, ?_⟩
  · rw [hrows]
    have hconcat : Regular (store.rows ++ [row]) := by
      refine h.regular.concat (n := ledgerRecoveryScanCount) (by decide) ?_
      rw [← hseen']
      exact hregular
    refine hconcat.of_dates ?_
    rw [List.map_append, List.map_append]
    rfl
  · rw [hledger]
    refine eachAfter_concat.mpr ⟨h.decided, ?_, ?_⟩
    · rw [hupTo, ← hsum]
      exact congrArg storedFloat (recordOfRow_rollingSumLb120 _)
    · rw [hupTo, ← gateOpen_of_decision hafter]
      show (recordOfRow identity finalizedAtUtc (seen ++ [row]) row).mrEnabledNextSession = _
      rw [recordOfRow_mrEnabledNextSession]
  · rw [hledger]
    refine eachAfter_concat.mpr ⟨h.followed, fun _ => ?_⟩
    have hgate : row.mrEnabledForSession = decide (GateOpen store.rows) := by
      rw [hrow, ← gateOpen_of_decision (gateDecision_covers hcover)]
    refine ⟨?_, hgate, fun last hlast => ?_⟩
    · show storedFloat row.rollingSumBeforeSession = _
      rw [hrow]
      show storedFloat (if Seasoned seen then recentPnl seen else 0) =
        storedFloat (if Seasoned store.rows then recentPnl store.rows else 0)
      rw [recentPnl_covers hcover, if_congr (seasoned_covers hcover) rfl rfl]
    · -- the record before has decided by the same rows
      obtain ⟨before, hbefore⟩ := List.getLast?_eq_some_iff.mp hlast
      have hdecided := h.decided
      rw [hbefore, eachAfter_concat] at hdecided
      rw [hdecided.2.2, ← hbefore]
      exact hgate.symm
  · rw [hstate, hafter, h.state, hrows]
    cases hdecision : gateDecision (store.rows ++ [row.stored]) with
    | some enabled => rfl
    | none =>
      rw [Option.none_or]
      exact gateDecision_eq_none_of_append hdecision
  · intro record hrecord
    rw [hledger] at hrecord
    rcases List.mem_append.mp hrecord with hrecord | hrecord
    · exact h.readable record hrecord
    · rw [List.mem_singleton.mp hrecord]
      exact fromRedisFields_recordOfRow hnamed _ _ _

/-! ### Runs -/

/-- With texts that can be read, points that can be written, and as long as a restart reads enough
of the ledger, all decisions on the gate agree. -/
theorem Built.gateAgreement (hnamed : identity.Named)
    (h : Built identity (fun pnl => storedFloat pnl = pnl) StreamCovers imported store) :
    GateAgreement imported store := by
  have hkept : Kept imported store ∧ StreamCovers store := by
    induction h with
    | imported hidentity hmode hkeeps hstart hcovers =>
      rw [← hidentity] at hnamed
      exact ⟨kept_imported hnamed hmode hkeeps hstart, hcovers⟩
    | appended _ hkeeps happend hinserted hcovers ih =>
      exact ⟨ih.1.appended hnamed ih.2 hkeeps happend hinserted, hcovers⟩
  obtain ⟨hkept, hcovers⟩ := hkept
  refine ⟨hkept.regular.increasing, hkept.decided, hkept.followed, fun last hlast => ?_, ?_⟩
  · obtain ⟨before, hbefore⟩ := List.getLast?_eq_some_iff.mp hlast
    have hdecided := hkept.decided
    rw [hbefore, eachAfter_concat] at hdecided
    rw [hkept.state, gateDecision_getD, hdecided.2.2, ← hbefore]
    rfl
  · have hcover : Covers (fun row => decide (row.status = .complete)) lookbackSessions
        (store.rows.rtake ledgerRecoveryScanCount) store.rows := by
      refine ⟨List.drop_suffix .., ?_⟩
      unfold StreamCovers completePnls at hcovers
      rwa [List.length_map, List.length_map] at hcovers
    have hload : store.loadLedgerRecords ledgerRecoveryScanCount =
        .ok (store.ledger.rtake ledgerRecoveryScanCount).reverse := by
      rw [List.rtake_eq_reverse_take_reverse, List.reverse_reverse]
      exact mapM_of_check fun record hrecord =>
        hkept.readable record (List.mem_reverse.mp (List.mem_of_mem_take hrecord))
    have hrows := rowsFromLedgerRecords_rtake hkept.regular ledgerRecoveryScanCount
    have hstate := gateDecision_covers hcover
    have hsum : (if Seasoned (store.rows.rtake ledgerRecoveryScanCount) then
          some (recentPnl (store.rows.rtake ledgerRecoveryScanCount)) else none) =
        if Seasoned store.rows then some (recentPnl store.rows) else none := by
      rw [recentPnl_covers hcover, if_congr (seasoned_covers hcover) rfl rfl]
    generalize store.rows.rtake ledgerRecoveryScanCount = recent at hrows hstate hsum
    refine ⟨_, hload, fun date pnl seedLoaded =>
      ⟨_, rebuildMaterializedState_eq date pnl seedLoaded hrows, ?_, hsum⟩⟩
    rw [hkept.state]
    exact hstate

/-! ### Ledgers on which they agree, and on which they do not -/

instance (store : RiskGateStore) : Decidable store.StreamCovers :=
  inferInstanceAs (Decidable (_ ≤ _))

def high180Identity : RiskGateProfileIdentity :=
  ⟨"imoexf_primary_high180_lb120", "high180", "10m", "Mon-Fri 09:00..23:49", none, none, "seed"⟩

def high180Import : StartupConfig := ⟨high180Identity, .bootstrapFromSeed, none, 0, 256⟩

theorem named_high180Identity : high180Identity.Named := by
  intro sessionDate
  show ∀ text ∈ ["imoexf_primary_high180_lb120", "high180", "10m", "Mon-Fri 09:00..23:49", "seed"],
    isBlank text = false
  decide

def mondayRows (points : List (ℚ × RiskGateRowStatus)) : List RiskGateSessionRow :=
  points.mapIdx fun i point => ⟨4 + 7 * (i : ℤ), point.1, 0, 0, false, .seed, point.2⟩

theorem exists_eq_ok {α β : Type} (step : Except RiskGateError (α × β))
    (hsome : step.toOption.isSome = true) : ∃ a b, step = .ok (a, b) := by
  cases step with
  | error e => cases hsome
  | ok p => exact ⟨p.1, p.2, rfl⟩

/-- A ledger of two sessions, one of the seed and one that was appended. -/
theorem gateAgreement_twoSessions :
    ∃ store, Built high180Identity (fun pnl => storedFloat pnl = pnl) StreamCovers 1 store ∧
      store.ledger.length = 2 ∧ GateAgreement 1 store := by
  obtain ⟨seeded, result, hstart⟩ := exists_eq_ok
    (RiskGateStore.empty.runStartup high180Import (mondayRows [(5 / 2, .complete)])) (by decide +kernel)
  have hseeded : ∀ p ∈ (RiskGateStore.empty.runStartup high180Import
      (mondayRows [(5 / 2, .complete)])).toOption, StreamCovers p.1 ∧
      (p.1.appendRuntimeSession high180Identity ⟨11, -1, 1⟩ 0 256).toOption.isSome = true ∧
      ∀ q ∈ (p.1.appendRuntimeSession high180Identity ⟨11, -1, 1⟩ 0 256).toOption,
        q.2.materializedState.isSome = true ∧ StreamCovers q.1 ∧ q.1.ledger.length = 2 := by
    decide +kernel
  obtain ⟨hcovers, hsome, hnext⟩ := hseeded (seeded, result) (by rw [hstart]; rfl)
  obtain ⟨store, appended, happend⟩ := exists_eq_ok _ hsome
  obtain ⟨hinserted, hcovers', hlength⟩ := hnext (store, appended) (by rw [happend]; rfl)
  have hbuilt : Built high180Identity (fun pnl => storedFloat pnl = pnl) StreamCovers 1 store :=
    .appended (.imported rfl (by decide) (by decide +kernel) hstart hcovers) (by decide +kernel)
      happend hinserted hcovers'
  exact ⟨store, hbuilt, hlength, hbuilt.gateAgreement named_high180Identity⟩

theorem exists_built (keeps : ℚ → Prop) (covers : RiskGateStore → Prop) (hseed : Regular seedRows)
    (hne : seedRows ≠ []) (hkeeps : ∀ row ∈ seedRows, keeps row.shadowPnlPoints)
    (hcovers : ∀ store, store.rows = seedRows.map (·.stored) → covers store) :
    ∃ store, Built high180Identity keeps covers seedRows.length store ∧
      store.rows = seedRows.map (·.stored) ∧
      store.state.mrEnabledNextSession = gateDecision seedRows := by
  obtain ⟨store, result, hstart⟩ := runStartup_bootstrap high180Import rfl hseed hne
  have hmode : high180Import.mode ≠ .normalAppend := by decide
  obtain ⟨-, hrows, hstate⟩ := runStartup_imported hmode hstart
  exact ⟨store, .imported rfl hmode hkeeps hstart (hcovers store hrows), hrows, hstate⟩

theorem GateAgreement.restart_eq (h : GateAgreement imported store) (hregular : Regular store.rows) :
    gateDecision (store.rows.rtake ledgerRecoveryScanCount) = store.state.mrEnabledNextSession := by
  obtain ⟨records, hload, hrestart⟩ := h.restarted
  obtain ⟨state, hstate, hdecision, -⟩ := hrestart none 0 false
  have hrows := rowsFromLedgerRecords_rtake hregular ledgerRecoveryScanCount
  rw [← loadLedgerRecords_ok hload] at hrows
  generalize store.rows.rtake ledgerRecoveryScanCount = recent at hrows
  rw [rebuildMaterializedState_eq none 0 false hrows] at hstate
  rw [← hdecision, ← Except.ok.inj hstate]
  rfl

/-- The row of a session in a seed says what the seed says; points that are all but whole lose the
rest when they are written; and what stands before the last 256 entries is not read. -/
theorem not_built_gateAgreement :
    (¬ ∀ (identity : RiskGateProfileIdentity) (imported : ℕ) (store : RiskGateStore),
      identity.Named → Built identity (fun _ => True) (fun _ => True) imported store →
        GateAgreement 0 store) ∧
    (¬ ∀ (identity : RiskGateProfileIdentity) (imported : ℕ) (store : RiskGateStore),
      identity.Named → Built identity (fun _ => True) StreamCovers imported store →
        GateAgreement imported store) ∧
    ¬ ∀ (identity : RiskGateProfileIdentity) (imported : ℕ) (store : RiskGateStore),
      identity.Named → Built identity (fun pnl => storedFloat pnl = pnl) (fun _ => True) imported store →
        GateAgreement imported store := by
  have hregular (rows : List RiskGateSessionRow) (h : validateRegularSessionLedger rows = .ok ()) :
      Regular rows := validateRegularSessionLedger_eq_ok.mp h
  refine ⟨fun hclaim => ?_, fun hclaim => ?_, fun hclaim => ?_⟩
  · have hseed := hregular [⟨4, 1, 1, 0, false, .seed, .complete⟩,
      ⟨11, 1, 1, 1, true, .seed, .complete⟩] (by decide +kernel)
    obtain ⟨store, hbuilt, hrows, -⟩ := exists_built (fun _ => True) (fun _ => True) hseed
      (by decide) (fun _ _ => trivial) fun _ _ => trivial
    obtain ⟨first, rest, hledger, hfirst, hrest⟩ := List.map_eq_cons_iff.mp hrows
    obtain ⟨second, rest', rfl, hsecond, -⟩ := List.map_eq_cons_iff.mp hrest
    have hfollowed := (hclaim _ _ store named_high180Identity hbuilt).followed 1 second
      (by rw [hledger]; rfl) (Nat.zero_le _)
    have hgate := hfollowed.2.1
    rw [hledger, hsecond] at hgate
    change true = decide (GateOpen [first.row]) at hgate
    rw [hfirst] at hgate
    revert hgate
    decide +kernel
  · have hcovers (store : RiskGateStore) (hrows : store.rows =
        (mondayRows (.replicate 59 (0, .complete) ++ [(1 / 2 ^ 60, .complete)])).map (·.stored)) :
        StreamCovers store := by
      unfold StreamCovers
      rw [hrows]
      decide +kernel
    have hseed := hregular (mondayRows (.replicate 59 (0, .complete) ++
      [(1 / 2 ^ 60, .complete)])) (by decide +kernel)
    obtain ⟨store, hbuilt, hrows, hstate⟩ := exists_built (fun _ => True) StreamCovers hseed
      (by decide +kernel) (fun _ _ => trivial) hcovers
    have hrestart := (hclaim _ _ store named_high180Identity hbuilt).restart_eq
      (hrows ▸ hseed.stored)
    rw [hrows, hstate] at hrestart
    revert hrestart
    decide +kernel
  · have hseed := hregular (mondayRows (.replicate 60 (1, .complete) ++
      .replicate 197 (0, .incomplete))) (by decide +kernel)
    obtain ⟨store, hbuilt, hrows, hstate⟩ := exists_built (fun pnl => storedFloat pnl = pnl)
      (fun _ => True) hseed (by decide +kernel) (by decide +kernel) fun _ _ => trivial
    have hrestart := (hclaim _ _ store named_high180Identity hbuilt).restart_eq
      (hrows ▸ hseed.stored)
    rw [hrows, hstate] at hrestart
    revert hrestart
    decide +kernel

end RiskGateStore

end AlorRs
