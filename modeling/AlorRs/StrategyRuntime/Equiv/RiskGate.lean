import AlorRs.Lib.Outcome
import AlorRs.Lib.Recent
import AlorRs.StrategyRuntime.RiskGate

/-!
# The gate of a ledger

What the functions of the risk gate compute: the gate is open after some rows if the sum over the
last 120 complete ones is positive and there are 60 of them (`GateOpen`), and whoever sees the last
120 complete rows, or all, sees whether it is (`gateDecision_covers`).
-/

namespace AlorRs

open Outcome Recent

/-! ### The gate of some rows -/

variable (rows : List RiskGateSessionRow)

def completePnls : List ℚ :=
  (rows.filter fun row => row.status = .complete).map (·.shadowPnlPoints)

def recentPnl : ℚ :=
  ((completePnls rows).rtake lookbackSessions).sum

def Seasoned : Prop :=
  minHistorySessions ≤ (completePnls rows).length

instance (rows : List RiskGateSessionRow) : Decidable (Seasoned rows) :=
  inferInstanceAs (Decidable (_ ≤ _))

def GateOpen : Prop := Seasoned rows ∧ 0 < recentPnl rows

instance (rows : List RiskGateSessionRow) : Decidable (GateOpen rows) :=
  inferInstanceAs (Decidable (_ ∧ _))

def gateDecision : Option Bool :=
  if Seasoned rows then some (decide (0 < recentPnl rows)) else none

variable {sessionDate : NaiveDate}

section Gate

variable {rows rows' seen : List RiskGateSessionRow} {row : RiskGateSessionRow}

theorem gateDecision_getD (rows : List RiskGateSessionRow) :
    (gateDecision rows).getD false = decide (GateOpen rows) := by
  unfold gateDecision GateOpen
  by_cases h : Seasoned rows <;> simp [h]

theorem rollingSum_complete (rows : List RiskGateSessionRow) (minHistory : ℕ) :
    rollingSum (rows.filter fun row => row.status = .complete) lookbackSessions minHistory =
      if (completePnls rows).length < minHistory then none else some (recentPnl rows) := by
  unfold rollingSum recentPnl completePnls
  rw [List.length_map]
  congr 2
  unfold List.rtake
  rw [List.map_drop, List.length_map]

theorem rollingShadowPnl_unbounded (rows : List RiskGateSessionRow) :
    rollingShadowPnlBeforeNextSession rows lookbackSessions 0 = some (recentPnl rows) := by
  unfold rollingShadowPnlBeforeNextSession
  rw [rollingSum_complete, if_neg (Nat.not_lt_zero _)]

theorem rollingShadowPnl_seasoned (rows : List RiskGateSessionRow) :
    rollingShadowPnlBeforeNextSession rows lookbackSessions minHistorySessions =
      if Seasoned rows then some (recentPnl rows) else none := by
  unfold rollingShadowPnlBeforeNextSession
  rw [rollingSum_complete]
  by_cases h : Seasoned rows
  · rw [if_pos h, if_neg (Nat.not_lt.mpr h)]
  · rw [if_neg h, if_pos (Nat.lt_of_not_le h)]

/-- What the state and the records say of the gate is its decision. -/
theorem rollingShadowPnl_decision (rows : List RiskGateSessionRow) :
    (rollingShadowPnlBeforeNextSession rows lookbackSessions minHistorySessions).map
      (fun pnl => decide (0 < pnl)) = gateDecision rows := by
  rw [rollingShadowPnl_seasoned, gateDecision]
  split <;> rfl

theorem rollingShadowPnl_before (h : ∀ row ∈ rows, row.sessionDate < sessionDate) :
    rollingShadowPnlBeforeSession rows sessionDate lookbackSessions minHistorySessions =
      rollingShadowPnlBeforeNextSession rows lookbackSessions minHistorySessions := by
  unfold rollingShadowPnlBeforeSession rollingShadowPnlBeforeNextSession
  rw [List.filter_congr fun row hrow => ?_]
  simp [h row hrow]

/-! ### What the gate depends on -/

theorem completePnls_congr {f : RiskGateSessionRow → RiskGateSessionRow}
    (hpnl : ∀ row ∈ rows, (f row).shadowPnlPoints = row.shadowPnlPoints)
    (hstatus : ∀ row ∈ rows, (f row).status = row.status) :
    completePnls (rows.map f) = completePnls rows := by
  unfold completePnls
  have hfilter : rows.filter (fun row => decide ((f row).status = .complete)) =
      rows.filter (fun row => decide (row.status = .complete)) :=
    List.filter_congr fun row hrow => by rw [hstatus row hrow]
  rw [List.filter_map, List.map_map]
  show (rows.filter fun row => decide ((f row).status = .complete)).map _ = _
  rw [hfilter]
  exact List.map_congr_left fun row hrow => hpnl row (List.mem_of_mem_filter hrow)

theorem gateOpen_of_decision (h : gateDecision rows = gateDecision rows') :
    decide (GateOpen rows) = decide (GateOpen rows') := by
  rw [← gateDecision_getD, ← gateDecision_getD, h]

/-- Whoever sees enough of the rows sees the points that count. -/
theorem recentPnl_covers
    (h : Covers (fun row => decide (row.status = .complete)) lookbackSessions seen rows) :
    recentPnl seen = recentPnl rows := by
  have hrtake := congrArg (List.map RiskGateSessionRow.shadowPnlPoints) h.rtake_filter
  unfold List.rtake at hrtake
  rw [List.map_drop, List.map_drop] at hrtake
  unfold recentPnl completePnls List.rtake
  rw [List.length_map, List.length_map, hrtake]

theorem seasoned_congr (h : completePnls rows = completePnls rows') :
    Seasoned rows ↔ Seasoned rows' := by
  unfold Seasoned
  rw [h]

theorem recentPnl_congr (h : completePnls rows = completePnls rows') :
    recentPnl rows = recentPnl rows' := by
  unfold recentPnl
  rw [h]

theorem gateDecision_congr (h : completePnls rows = completePnls rows') :
    gateDecision rows = gateDecision rows' := by
  unfold gateDecision
  rw [recentPnl_congr h, if_congr (seasoned_congr h) rfl rfl]

theorem seasoned_covers
    (h : Covers (fun row => decide (row.status = .complete)) lookbackSessions seen rows) :
    Seasoned seen ↔ Seasoned rows := by
  unfold Seasoned completePnls
  rw [List.length_map, List.length_map]
  exact h.le_length_iff (by decide)

theorem gateDecision_eq_none_of_append (h : gateDecision (rows ++ rows') = none) :
    gateDecision rows = none := by
  have hshort : ¬ Seasoned (rows ++ rows') := by
    intro hseasoned
    rw [gateDecision, if_pos hseasoned] at h
    cases h
  have hle : (completePnls rows).length ≤ (completePnls (rows ++ rows')).length := by
    unfold completePnls
    rw [List.filter_append, List.map_append, List.length_append]
    exact Nat.le_add_right ..
  exact if_neg fun hseasoned => hshort (hseasoned.trans hle)

theorem gateDecision_covers
    (h : Covers (fun row => decide (row.status = .complete)) lookbackSessions seen rows) :
    gateDecision seen = gateDecision rows := by
  unfold gateDecision
  rw [recentPnl_covers h, if_congr (seasoned_covers h) rfl rfl]

end Gate

/-! ### Regular ledgers -/

structure Regular (rows : List RiskGateSessionRow) : Prop where
  weekdays : ∀ row ∈ rows, row.sessionDate.isWeekend = false
  increasing : rows.Pairwise fun row row' => row.sessionDate < row'.sessionDate

theorem validateAfter_eq_ok {prev : Option NaiveDate} {rows : List RiskGateSessionRow} :
    validateAfter prev rows = .ok () ↔
      Regular rows ∧ ∀ date ∈ prev, ∀ row ∈ rows, date < row.sessionDate := by
  induction rows generalizing prev with
  | nil => exact ⟨fun _ => ⟨⟨by simp, List.Pairwise.nil⟩, by simp⟩, fun _ => rfl⟩
  | cons row rows ih =>
    have hrest : validateAfter (some row.sessionDate) rows = .ok () ↔
        Regular rows ∧ ∀ row' ∈ rows, row.sessionDate < row'.sessionDate := by
      rw [ih]
      simp
    have hregular : Regular (row :: rows) ↔ row.sessionDate.isWeekend = false ∧
        Regular rows ∧ ∀ row' ∈ rows, row.sessionDate < row'.sessionDate := by
      constructor
      · rintro ⟨hweekdays, hincreasing⟩
        obtain ⟨hrow, hrows⟩ := List.forall_mem_cons.mp hweekdays
        obtain ⟨hbefore, hrows'⟩ := List.pairwise_cons.mp hincreasing
        exact ⟨hrow, ⟨hrows, hrows'⟩, hbefore⟩
      · rintro ⟨hrow, ⟨hrows, hrows'⟩, hbefore⟩
        exact ⟨List.forall_mem_cons.mpr ⟨hrow, hrows⟩, List.pairwise_cons.mpr ⟨hbefore, hrows'⟩⟩
    rw [hregular, validateAfter.eq_def]
    dsimp only
    by_cases hweekend : row.sessionDate.isWeekend = true
    · simp [hweekend]
    · rw [if_neg hweekend]
      have hweekday : row.sessionDate.isWeekend = false := Bool.eq_false_iff.mpr hweekend
      cases prev with
      | none =>
        show validateAfter (some row.sessionDate) rows = .ok () ↔ _
        rw [hrest]
        simp [hweekday]
      | some date =>
        by_cases hle : row.sessionDate ≤ date
        · simp only [hle, if_true]
          constructor
          · intro h
            cases h
          · rintro ⟨-, hafter⟩
            exact absurd (hafter date rfl row List.mem_cons_self) (not_lt.mpr hle)
        · simp only [hle, if_false]
          rw [hrest]
          constructor
          · rintro ⟨hrows, hbefore⟩
            refine ⟨⟨hweekday, hrows, hbefore⟩, fun date' hdate row' hrow' => ?_⟩
            rw [Option.mem_some_iff.mp hdate] at hle
            rcases List.mem_cons.mp hrow' with rfl | hrow'
            · exact lt_of_not_ge hle
            · exact (lt_of_not_ge hle).trans (hbefore row' hrow')
          · rintro ⟨⟨-, hrows, hbefore⟩, -⟩
            exact ⟨hrows, hbefore⟩

theorem validateRegularSessionLedger_eq_ok {rows : List RiskGateSessionRow} :
    validateRegularSessionLedger rows = .ok () ↔ Regular rows := by
  unfold validateRegularSessionLedger
  rw [validateAfter_eq_ok]
  simp

theorem pairwise_sortBySessionDate {α : Type} (sessionDate : α → NaiveDate) (entries : List α) :
    (sortBySessionDate sessionDate entries).Pairwise
      fun entry entry' => sessionDate entry ≤ sessionDate entry' := by
  have : Std.Total fun entry entry' : α => sessionDate entry ≤ sessionDate entry' :=
    ⟨fun entry entry' => le_total _ _⟩
  have : IsTrans α fun entry entry' => sessionDate entry ≤ sessionDate entry' :=
    ⟨fun _ _ _ => le_trans⟩
  exact List.pairwise_insertionSort _ entries

theorem sortBySessionDate_of_perm {α : Type} {sessionDate : α → NaiveDate} {entries sorted : List α}
    (hperm : entries.Perm sorted)
    (hincreasing : sorted.Pairwise fun entry entry' => sessionDate entry < sessionDate entry') :
    sortBySessionDate sessionDate entries = sorted := by
  have hnodup : (sorted.map sessionDate).Nodup :=
    List.Pairwise.imp ne_of_lt (List.pairwise_map.mpr hincreasing)
  have hperm' : (sortBySessionDate sessionDate entries).Perm sorted :=
    (List.perm_insertionSort ..).trans hperm
  refine List.Perm.eq_of_pairwise (fun entry entry' hentry hentry' hle hge => ?_)
    (pairwise_sortBySessionDate sessionDate entries) (hincreasing.imp le_of_lt) hperm'
  exact List.inj_on_of_nodup_map hnodup (hperm'.subset hentry) hentry' (le_antisymm hle hge)

/-! ### Records -/

def materializedState (currentShadowSessionDate : Option NaiveDate) (currentShadowPnlPoints : ℚ)
    (seedLoaded : Bool) : RiskGateMaterializedState where
  lastFinalizedSessionDate := rows.getLast?.map (·.sessionDate)
  rollingSumLb120 := if Seasoned rows then some (recentPnl rows) else none
  mrEnabledCurrentSession := gateDecision rows
  mrEnabledNextSession := gateDecision rows
  seedLoaded := seedLoaded
  ledgerRowsCount := rows.length
  currentShadowSessionDate := currentShadowSessionDate
  currentShadowPnlPoints := currentShadowPnlPoints
  currentGeneration := riskGateStateGeneration

section Records

variable {records : List RiskGateLedgerRecord} {rows : List RiskGateSessionRow}
  {row : RiskGateSessionRow} {identity : RiskGateProfileIdentity} {finalizedAtUtc : ℤ}

theorem rowsFromLedgerRecords_eq_ok :
    rowsFromLedgerRecords records = .ok rows ↔
      rows = sortBySessionDate (·.sessionDate) (records.map (·.row)) ∧ Regular rows := by
  unfold rowsFromLedgerRecords
  rw [bind_eq_ok]
  constructor
  · rintro ⟨⟨⟩, hvalid, hrows⟩
    obtain rfl := Except.ok.inj hrows
    exact ⟨rfl, validateRegularSessionLedger_eq_ok.mp hvalid⟩
  · rintro ⟨rfl, hregular⟩
    exact ⟨(), validateRegularSessionLedger_eq_ok.mpr hregular, rfl⟩

/-- Records in any order give back the rows of a regular ledger. -/
theorem rowsFromLedgerRecords_of_perm (hperm : (records.map (·.row)).Perm rows)
    (hregular : Regular rows) : rowsFromLedgerRecords records = .ok rows :=
  rowsFromLedgerRecords_eq_ok.mpr
    ⟨(sortBySessionDate_of_perm hperm hregular.increasing).symm, hregular⟩

theorem rebuildMaterializedState_eq (currentShadowSessionDate : Option NaiveDate)
    (currentShadowPnlPoints : ℚ) (seedLoaded : Bool)
    (h : rowsFromLedgerRecords records = .ok rows) :
    rebuildMaterializedState records currentShadowSessionDate currentShadowPnlPoints seedLoaded =
      .ok (materializedState rows currentShadowSessionDate currentShadowPnlPoints seedLoaded) := by
  unfold rebuildMaterializedState materializedState
  rw [h, ← rollingShadowPnl_decision, ← rollingShadowPnl_seasoned]
  rfl

variable (upTo : List RiskGateSessionRow)

theorem recordOfRow_mrEnabledNextSession :
    (recordOfRow identity finalizedAtUtc upTo row).mrEnabledNextSession = decide (GateOpen upTo) := by
  unfold recordOfRow
  rw [rollingShadowPnl_decision, gateDecision_getD]

theorem recordOfRow_rollingSumLb120 :
    (recordOfRow identity finalizedAtUtc upTo row).rollingSumLb120 = recentPnl upTo := by
  unfold recordOfRow
  rw [rollingShadowPnl_unbounded]
  rfl

theorem buildLedgerRecordsFromRows_eq_ok :
    buildLedgerRecordsFromRows rows identity finalizedAtUtc = .ok records ↔
      Regular rows ∧ records = rows.mapIdx fun idx row =>
        recordOfRow identity finalizedAtUtc (rows.take (idx + 1)) row := by
  unfold buildLedgerRecordsFromRows
  rw [bind_eq_ok]
  constructor
  · rintro ⟨⟨⟩, hvalid, hrecords⟩
    exact ⟨validateRegularSessionLedger_eq_ok.mp hvalid, (Except.ok.inj hrecords).symm⟩
  · rintro ⟨hregular, rfl⟩
    exact ⟨(), validateRegularSessionLedger_eq_ok.mpr hregular, rfl⟩

theorem map_row_recordOfRow (rows : List RiskGateSessionRow) :
    (rows.mapIdx fun idx row => recordOfRow identity finalizedAtUtc (rows.take (idx + 1)) row).map
      (·.row) = rows := by
  apply List.ext_getElem
  · simp
  · intro i _ _
    simp [recordOfRow]

theorem Regular.le_getLast (h : Regular rows) {last : RiskGateSessionRow}
    (hlast : rows.getLast? = some last) (hrow : row ∈ rows) : row.sessionDate ≤ last.sessionDate := by
  obtain ⟨before, rfl⟩ := List.getLast?_eq_some_iff.mp hlast
  rcases List.mem_append.mp hrow with hrow | hrow
  · exact le_of_lt ((List.pairwise_append.mp h.increasing).2.2 row hrow last (List.mem_singleton.mpr rfl))
  · rw [List.mem_singleton.mp hrow]

theorem buildRuntimeSessionRow_eq_ok {pnl : ℚ} {count : ℕ}
    (h : buildRuntimeSessionRow rows sessionDate pnl count = .ok row) :
    Regular (rows ++ [row]) ∧
      row = ⟨sessionDate, pnl, count, if Seasoned rows then recentPnl rows else 0,
        decide (GateOpen rows), .runtime, .complete⟩ := by
  obtain ⟨⟨⟩, hvalid, h⟩ := bind_eq_ok.mp h
  have hregular := validateRegularSessionLedger_eq_ok.mp hvalid
  dsimp only at h
  split at h
  · cases h
  rename_i hweekend
  split at h
  · cases h
  rename_i hafter
  have hbefore : ∀ row' ∈ rows, row'.sessionDate < sessionDate := by
    intro row' hrow'
    obtain ⟨last, hlast⟩ : ∃ last, rows.getLast? = some last :=
      ⟨_, List.getLast?_eq_some_getLast (List.ne_nil_of_mem hrow')⟩
    by_contra hnot
    have hlate : sessionDate ≤ last.sessionDate :=
      (le_of_not_gt hnot).trans (hregular.le_getLast hlast hrow')
    rw [hlast] at hafter
    simp [hlate] at hafter
  have hsum : (rollingShadowPnlBeforeSession rows sessionDate lookbackSessions
      minHistorySessions).getD 0 = if Seasoned rows then recentPnl rows else 0 := by
    rw [rollingShadowPnl_before hbefore, rollingShadowPnl_seasoned]
    by_cases hseasoned : Seasoned rows
    · rw [if_pos hseasoned, if_pos hseasoned, Option.getD_some]
    · rw [if_neg hseasoned, if_neg hseasoned, Option.getD_none]
  rw [hsum] at h
  have hopen : decide (0 < if Seasoned rows then recentPnl rows else 0) = decide (GateOpen rows) := by
    unfold GateOpen
    by_cases hseasoned : Seasoned rows <;> simp [hseasoned]
  rw [hopen] at h
  obtain rfl := Except.ok.inj h
  refine ⟨⟨?_, ?_⟩, rfl⟩
  · intro row' hrow'
    rcases List.mem_append.mp hrow' with hrow' | hrow'
    · exact hregular.weekdays row' hrow'
    · rw [List.mem_singleton.mp hrow']
      exact Bool.eq_false_iff.mpr hweekend
  · rw [List.pairwise_append]
    refine ⟨hregular.increasing, List.pairwise_singleton .., fun row' hrow' last hlast => ?_⟩
    rw [List.mem_singleton.mp hlast]
    exact hbefore row' hrow'

theorem Regular.suffix {rows' : List RiskGateSessionRow} (h : Regular rows) (hsuffix : rows' <:+ rows) :
    Regular rows' :=
  ⟨fun row hrow => h.weekdays row (hsuffix.subset hrow), h.increasing.sublist hsuffix.sublist⟩

end Records

/-! ### Gaps -/

section Gaps

-- dates are integers for `omega`
variable {rows : List RiskGateSessionRow} {row : RiskGateSessionRow} {cutoff first next date : ℤ}

def gapKept (cutoff date : NaiveDate) : Bool := decide (cutoff ≤ date) && !NaiveDate.isWeekend date

theorem scanGap_from (hnext : next ≤ maxDate) (n : ℕ) (gaps : List NaiveDate) :
    scanGap cutoff next gaps (some (next - n)) =
      gaps ++ ((List.range n).map fun i : ℕ => next - n + i).filter (gapKept cutoff) := by
  induction n generalizing gaps with
  | zero =>
    rw [scanGap, if_neg (by simp)]
    simp
  | succ n ih =>
    have hbefore : next - (n + 1 : ℕ) < next := by omega
    have hsucc : NaiveDate.succOpt (next - (n + 1 : ℕ)) = some (next - n) := by
      unfold NaiveDate.succOpt
      rw [if_pos (lt_of_lt_of_le hbefore hnext)]
      exact congrArg some (show next - (n + 1 : ℕ) + 1 = next - (n : ℤ) by omega)
    have hrest : ((fun i : ℕ => next - (n + 1 : ℕ) + i) ∘ Nat.succ) = fun i : ℕ => next - n + i := by
      funext i
      simp only [Function.comp_apply]
      omega
    rw [scanGap, if_pos hbefore, hsucc, ih, List.range_succ_eq_map, List.map_cons, List.map_map,
      List.filter_cons, hrest]
    simp only [gapKept, Nat.cast_zero, add_zero]
    split_ifs <;> simp

theorem scanGap_eq (hfirst : first < next) (hnext : next ≤ maxDate) (gaps : List NaiveDate) :
    scanGap cutoff next gaps (NaiveDate.succOpt first) =
      gaps ++ (datesBetween first next).filter (gapKept cutoff) := by
  have hn : next - ((next - first - 1).toNat : ℤ) = first + 1 := by omega
  have hfrom := @scanGap_from cutoff next hnext (next - first - 1).toNat gaps
  rw [hn] at hfrom
  rw [NaiveDate.succOpt, if_pos (lt_of_lt_of_le hfirst hnext)]
  exact hfrom

theorem mem_datesBetween : date ∈ datesBetween first next ↔ first < date ∧ date < next := by
  unfold datesBetween
  rw [List.mem_map]
  constructor
  · rintro ⟨i, hi, rfl⟩
    rw [List.mem_range] at hi
    constructor <;> omega
  · rintro ⟨hafter, hbefore⟩
    exact ⟨(date - first - 1).toNat, List.mem_range.mpr (by omega), by omega⟩

theorem pairwise_datesBetween : (datesBetween first next).Pairwise (· < ·) := by
  unfold datesBetween
  rw [List.pairwise_map]
  exact List.pairwise_lt_range.imp fun h => add_lt_add_right (Int.ofNat_lt.mpr h) (first + 1)

def gapsOf (cutoff : NaiveDate) (rows : List RiskGateSessionRow) : List NaiveDate :=
  (rows.zip rows.tail).flatMap fun (row, next) =>
    (datesBetween row.sessionDate next.sessionDate).filter (gapKept cutoff)

theorem gapsOf_cons_cons (row next : RiskGateSessionRow) :
    gapsOf cutoff (row :: next :: rows) =
      (datesBetween row.sessionDate next.sessionDate).filter (gapKept cutoff) ++
        gapsOf cutoff (next :: rows) := rfl

theorem foldl_scanGap
    (h : (row :: rows).Pairwise fun row row' => row.sessionDate < row'.sessionDate)
    (hrange : ∀ row ∈ rows, row.sessionDate ≤ maxDate) (gaps : List NaiveDate) :
    ((row :: rows).zip rows).foldl (fun gaps pair =>
      scanGap cutoff pair.2.sessionDate gaps (NaiveDate.succOpt pair.1.sessionDate)) gaps =
      gaps ++ gapsOf cutoff (row :: rows) := by
  induction rows generalizing row gaps with
  | nil => exact (List.append_nil _).symm
  | cons next rows ih =>
    obtain ⟨hrow, hrows⟩ := List.pairwise_cons.mp h
    obtain ⟨hnext, hrange⟩ := List.forall_mem_cons.mp hrange
    rw [List.zip_cons_cons, List.foldl_cons, scanGap_eq (hrow next List.mem_cons_self) hnext,
      ih hrows hrange, gapsOf_cons_cons, List.append_assoc]

theorem mem_gapsOf (h : (row :: rows).Pairwise fun row row' => row.sessionDate < row'.sessionDate) :
    date ∈ gapsOf cutoff (row :: rows) ↔ gapKept cutoff date = true ∧ row.sessionDate < date ∧
      (∃ later ∈ rows, date < later.sessionDate) ∧ ∀ later ∈ rows, later.sessionDate ≠ date := by
  induction rows generalizing row with
  | nil => simp [gapsOf]
  | cons next rows ih =>
    obtain ⟨hrow, hrows⟩ := List.pairwise_cons.mp h
    have hnext := hrow next List.mem_cons_self
    have hlater := (List.pairwise_cons.mp hrows).1
    rw [gapsOf_cons_cons, List.mem_append, List.mem_filter, mem_datesBetween, ih hrows]
    rcases lt_trichotomy date next.sessionDate with hdate | hdate | hdate
    · -- between the first two sessions
      have hne : ∀ later ∈ rows, later.sessionDate ≠ date := fun later hmem =>
        (hdate.trans (hlater later hmem)).ne'
      constructor
      · rintro (⟨⟨hafter, -⟩, hkept⟩ | ⟨-, hlate, -⟩)
        · exact ⟨hkept, hafter, ⟨next, List.mem_cons_self, hdate⟩,
            List.forall_mem_cons.mpr ⟨hdate.ne', hne⟩⟩
        · exact absurd hlate hdate.not_gt
      · rintro ⟨hkept, hafter, -⟩
        exact .inl ⟨⟨hafter, hdate⟩, hkept⟩
    · simp [hdate]
    · simp [hdate, hdate.not_gt, hdate.ne, hnext.trans hdate]

theorem pairwise_gapsOf
    (h : (row :: rows).Pairwise fun row row' => row.sessionDate < row'.sessionDate) :
    (gapsOf cutoff (row :: rows)).Pairwise (· < ·) := by
  induction rows generalizing row with
  | nil => exact List.Pairwise.nil
  | cons next rows ih =>
    obtain ⟨-, hrows⟩ := List.pairwise_cons.mp h
    rw [gapsOf_cons_cons, List.pairwise_append]
    refine ⟨pairwise_datesBetween.filter _, ih hrows, fun date hdate date' hdate' => ?_⟩
    -- what comes later is past the second session
    have hbefore := (mem_datesBetween.mp (List.mem_of_mem_filter hdate)).2
    exact hbefore.trans ((mem_gapsOf hrows).mp hdate').2.1

/-- The scan ends with the weekdays between the first and the last session that are no session and
not before the cutoff, in increasing order. -/
def FindsGaps (rows : List RiskGateSessionRow) (lookbackDays : ℤ) : Prop :=
  ∃ gaps, scanRegularWeekdayGaps rows lookbackDays = some (.ok gaps) ∧ gaps.Pairwise (· < ·) ∧
    ∀ date, date ∈ gaps ↔ date.isWeekend = false ∧ date ∉ rows.map (·.sessionDate) ∧
      ∃ first ∈ rows.head?, ∃ last ∈ rows.getLast?, first.sessionDate < date ∧
        date < last.sessionDate ∧ last.sessionDate - lookbackDays ≤ date

theorem scanRegularWeekdayGaps_cons {last : RiskGateSessionRow} (lookbackDays : ℤ)
    (hregular : Regular (row :: rows)) (hrange : ∀ row ∈ rows, row.sessionDate ≤ maxDate)
    (hlast : (row :: rows).getLast? = some last) :
    scanRegularWeekdayGaps (row :: rows) lookbackDays =
      (durationDays (max lookbackDays 0)).map fun days =>
        .ok (gapsOf (max (last.sessionDate - days) minDate) (row :: rows)) := by
  rw [scanRegularWeekdayGaps, validateRegularSessionLedger_eq_ok.mpr hregular, hlast]
  simp only [List.tail_cons, foldl_scanGap hregular.increasing hrange, List.nil_append]

theorem durationDays_eq (lookbackDays : ℤ) :
    durationDays (max lookbackDays 0) =
      if lookbackDays ≤ 106751991167 then some (max lookbackDays 0) else none := by
  unfold durationDays daySeconds
  congr 1
  exact propext (by omega)

theorem cutoff_le_iff {earliest last lookbackDays : ℤ} (hearliest : earliest ≤ date)
    (hbefore : date < last) :
    max (last - max lookbackDays 0) earliest ≤ date ↔ last - lookbackDays ≤ date := by
  omega

theorem mem_gapsOf_iff {last : RiskGateSessionRow} (hregular : Regular (row :: rows))
    (hlast : (row :: rows).getLast? = some last) :
    date ∈ gapsOf cutoff (row :: rows) ↔ gapKept cutoff date = true ∧ row.sessionDate < date ∧
      date < last.sessionDate ∧ date ∉ (row :: rows).map (·.sessionDate) := by
  rw [mem_gapsOf hregular.increasing]
  refine and_congr_right fun _ => and_congr_right fun hafter => and_congr ?_ ?_
  · constructor
    · rintro ⟨later, hlater, hdate⟩
      exact hdate.trans_le (hregular.le_getLast hlast (List.mem_cons_of_mem _ hlater))
    · intro hdate
      rcases List.mem_cons.mp (List.mem_of_getLast? hlast) with rfl | hmem
      · exact absurd hdate (not_lt.mpr hafter.le)
      · exact ⟨last, hmem, hdate⟩
  · rw [List.map_cons, List.mem_cons, not_or, and_iff_right hafter.ne', List.mem_map]
    exact ⟨fun h ⟨later, hlater, hdate⟩ => h later hlater hdate,
      fun h later hlater hdate => h ⟨later, hlater, hdate⟩⟩

/-- The scan is exact, unless the lookback is longer than any duration. -/
theorem findsGaps_iff {lookbackDays : ℤ} (hvalid : validateRegularSessionLedger rows = .ok ())
    (hrange : ∀ row ∈ rows, minDate ≤ row.sessionDate ∧ row.sessionDate ≤ maxDate) :
    FindsGaps rows lookbackDays ↔ rows = [] ∨ lookbackDays ≤ 106751991167 := by
  have hregular := validateRegularSessionLedger_eq_ok.mp hvalid
  cases rows with
  | nil => exact iff_of_true ⟨[], rfl, List.Pairwise.nil, by simp⟩ (.inl rfl)
  | cons row rows =>
    obtain ⟨last, hlast⟩ : ∃ last, (row :: rows).getLast? = some last :=
      ⟨_, List.getLast?_eq_some_getLast (List.cons_ne_nil row rows)⟩
    obtain ⟨hrow, hrows⟩ := List.forall_mem_cons.mp hrange
    have hscan := scanRegularWeekdayGaps_cons lookbackDays hregular
      (fun row hrow => (hrows row hrow).2) hlast
    rw [durationDays_eq] at hscan
    split_ifs at hscan with hdays
    · refine iff_of_true ⟨_, hscan, pairwise_gapsOf hregular.increasing, fun date => ?_⟩ (.inr hdays)
      rw [mem_gapsOf_iff hregular hlast, hlast]
      simp only [gapKept, List.head?_cons, Option.mem_some_iff, exists_eq_left', Bool.and_eq_true,
        decide_eq_true_eq, Bool.not_eq_true']
      constructor
      · rintro ⟨⟨hcutoff, hweekday⟩, hafter, hbefore, hnew⟩
        exact ⟨hweekday, hnew, hafter, hbefore,
          (cutoff_le_iff (hrow.1.trans hafter.le) hbefore).mp hcutoff⟩
      · rintro ⟨hweekday, hnew, hafter, hbefore, hcutoff⟩
        exact ⟨⟨(cutoff_le_iff (hrow.1.trans hafter.le) hbefore).mpr hcutoff, hweekday⟩, hafter,
          hbefore, hnew⟩
    · refine iff_of_false ?_ (by simp [hdays])
      rintro ⟨gaps, hok, -⟩
      rw [hscan] at hok
      cases hok

def sessionOn (sessionDate : NaiveDate) : RiskGateSessionRow :=
  ⟨sessionDate, 0, 0, 0, false, .runtime, .complete⟩

/-- Tuesday and Wednesday are missing between a Monday and the Thursday after it. -/
theorem findsGaps_iff_thursday : FindsGaps [sessionOn 20577, sessionOn 20580] 21 :=
  (findsGaps_iff rfl (by decide)).mpr (.inr (by decide))

/-- The longest lookback of an `i64` panics. -/
theorem findsGaps_longest : validateRegularSessionLedger [sessionOn 20577] = .ok () ∧
    ¬ FindsGaps [sessionOn 20577] (2 ^ 63 - 1) := by
  refine ⟨rfl, ?_⟩
  rintro ⟨gaps, hok, -⟩
  have hpanic : scanRegularWeekdayGaps [sessionOn 20577] (2 ^ 63 - 1) = none := rfl
  rw [hpanic] at hok
  cases hok

end Gaps

end AlorRs
