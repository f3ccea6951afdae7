import AlorRs.StrategyRuntime.Equiv.MoexAuthor4142.Author42
import AlorRs.StrategyRuntime.MoexAuthor4142.Combo
import Mathlib.Order.CompletePartialOrder

/-!
# The combination is free of overlaps and adds up

What is taken of Author41 lies apart, what is kept of Author42 overlaps none of it, and everything
that is left out overlaps something that is taken.  The journal accepts what the replay keeps, and
the points of the days, of the trades and of the records are the same (`combo_consistent`).
-/

namespace AlorRs.MoexAuthor4142

def Author41Trade.span (trade : Author41Trade) : Set NaiveDateTime :=
  Set.Icc trade.entryTs trade.exitTs

def Overlaps (trade : Author42Trade) (mr : Author41Trade) : Prop :=
  Intervals.Overlap Author42Trade.entryTs Author42Trade.exitTs Author41Trade.entryTs
    Author41Trade.exitTs trade mr

variable (profile : ModelProfile)

def comboPoints (trade : Author42Trade) : ℚ :=
  trade.grossPoints - profile.author42CostPoints

variable {policy : RegularSessionPolicy} {shortConfig longConfig : Author41Config}
  {author42Config : Author42Config} {bars : List ModelBar}

/-! ### Author41 -/

instance : Std.Total fun trade trade' : Author41Trade => trade.entryTs ≤ trade'.entryTs :=
  ⟨fun trade trade' => le_total trade.entryTs trade'.entryTs⟩

instance : IsTrans Author41Trade fun trade trade' => trade.entryTs ≤ trade'.entryTs :=
  ⟨fun _ _ _ => le_trans⟩

variable {trade : Author41Trade}

theorem mem_author41Candidates :
    trade ∈ author41Candidates bars policy shortConfig longConfig ↔
      trade ∈ author41Closes policy shortConfig bars ∨
        trade ∈ author41Closes policy longConfig bars := by
  have hsides : ∀ config, author41Closes policy config (modelBars policy bars) =
      author41Closes policy config bars := by
    intro config
    unfold author41Closes
    rw [modelBars_modelBars]
  unfold author41Candidates
  rw [List.mem_insertionSort, List.mem_append, replayAuthor41_eq, replayAuthor41_eq, hsides, hsides]

theorem entry_le_exit_of_mem_candidates :
    ∀ trade ∈ author41Candidates bars policy shortConfig longConfig,
      trade.entryTs ≤ trade.exitTs := by
  intro trade htrade
  rcases mem_author41Candidates.mp htrade with hshort | hlong
  · exact entry_le_exit_of_mem_author41Closes hshort
  · exact entry_le_exit_of_mem_author41Closes hlong

theorem pairwise_candidates :
    (author41Candidates bars policy shortConfig longConfig).Pairwise fun trade trade' =>
      trade.entryTs ≤ trade'.entryTs := List.pairwise_insertionSort _ _

abbrev author41Accepted (bars : List ModelBar) (policy : RegularSessionPolicy)
    (shortConfig longConfig : Author41Config) : List Author41Trade :=
  (replayRiAuthor41DualNoOverlapSourceWithConfigs bars policy shortConfig longConfig).trades

theorem author41Accepted_sublist :
    (author41Accepted bars policy shortConfig longConfig).Sublist
      (author41Candidates bars policy shortConfig longConfig) := Intervals.takeApart_sublist

theorem pairwise_disjoint_author41Accepted :
    (author41Accepted bars policy shortConfig longConfig).Pairwise fun a b =>
      Disjoint a.span b.span := by
  refine (Intervals.pairwise_takeApart entry_le_exit_of_mem_candidates).imp ?_
  intro a b hapart
  rw [Set.disjoint_left]
  rintro t ⟨_, ha⟩ ⟨hb, _⟩
  exact absurd (ha.trans_lt hapart) hb.not_gt

/-- What is left out of Author41 is held at a time at which something taken is. -/
theorem exists_not_disjoint_author41Accepted
    (h : trade ∈ author41Candidates bars policy shortConfig longConfig) :
    ∃ taken ∈ author41Accepted bars policy shortConfig longConfig,
      ¬Disjoint trade.span taken.span := by
  obtain ⟨taken, htaken, hstart, hfinish⟩ := Intervals.exists_takeApart_covers pairwise_candidates
    entry_le_exit_of_mem_candidates h
  refine ⟨taken, htaken, Set.not_disjoint_iff.mpr ⟨trade.entryTs, ?_, hstart, hfinish⟩⟩
  exact ⟨le_rfl, entry_le_exit_of_mem_candidates trade h⟩

/-! ### Author42 -/

variable {trade : Author42Trade}

/-- A trade that overlaps another is of its date, for each lies within one date. -/
theorem overlapsMr_iff {mr : Author41Trade}
    (htrade : trade ∈ (replayAuthor42 bars author42Config policy).trades)
    (hmr : mr ∈ author41Accepted bars policy shortConfig longConfig) :
    overlapsMr trade mr = true ↔ Overlaps trade mr := by
  have hdate42 := date_of_mem_replayAuthor42 htrade
  have hdate41 : mr.entryTs.date = mr.exitTs.date := by
    rcases mem_author41Candidates.mp (author41Accepted_sublist.subset hmr) with hshort | hlong
    · exact date_of_mem_author41Closes hshort
    · exact date_of_mem_author41Closes hlong
  unfold overlapsMr
  rw [Bool.and_eq_true, decide_eq_true_iff, decide_eq_true_iff]
  constructor
  · exact And.right
  · intro hoverlap
    have hoverlap' : max trade.entryTs mr.entryTs < min trade.exitTs mr.exitTs := hoverlap
    have hbefore : trade.entryTs ≤ mr.exitTs :=
      (le_max_left _ _).trans (hoverlap'.le.trans (min_le_right _ _))
    have hafter : mr.entryTs ≤ trade.exitTs :=
      (le_max_right _ _).trans (hoverlap'.le.trans (min_le_left _ _))
    refine ⟨le_antisymm ?_ ?_, hoverlap⟩
    · rw [hdate41]
      exact NaiveDateTime.date_le hbefore
    · rw [hdate42]
      exact NaiveDateTime.date_le hafter

theorem mem_filterAuthor42 (htrade : trade ∈ (replayAuthor42 bars author42Config policy).trades) :
    trade ∈ filterAuthor42NonOverlapping (replayAuthor42 bars author42Config policy).trades
        (author41Accepted bars policy shortConfig longConfig) ↔
      ∀ mr ∈ author41Accepted bars policy shortConfig longConfig, ¬Overlaps trade mr := by
  unfold filterAuthor42NonOverlapping
  rw [List.mem_filter, Bool.not_eq_true', List.any_eq_false]
  constructor
  · rintro ⟨_, hnone⟩ mr hmr
    rw [← overlapsMr_iff htrade hmr]
    exact hnone mr hmr
  · intro hnone
    refine ⟨htrade, ?_⟩
    intro mr hmr
    rw [overlapsMr_iff htrade hmr]
    exact hnone mr hmr

/-! ### The journal -/

variable (component : Component)

def acceptedRecords (journal : List ShadowJournalRecord) : List ShadowJournalRecord :=
  journal.filter fun record =>
    record.component = component && record.overlapDecision = .accepted

def shadowPoints (records : List ShadowJournalRecord) : ℚ :=
  (records.filterMap ShadowJournalRecord.shadowPnlPoints).sum

def author42Records (author41 : List Author41Trade) (trades : List Author42Trade)
    : List ShadowJournalRecord :=
  trades.map fun trade => author42TradeJournalRecord profile trade (overlapDecision author41 trade)

variable (bars : List ModelBar) (policy : RegularSessionPolicy)

theorem perm_journal (shortConfig longConfig : Author41Config) (author42Config : Author42Config) :
    (buildRiAuthor4142ComboShadowJournalWithConfigs bars policy shortConfig longConfig
      author42Config).Perm
      ((author41Accepted bars policy shortConfig longConfig).map
          (author41TradeJournalRecord .riShadow10m) ++
        author42Records .riShadow10m (author41Accepted bars policy shortConfig longConfig)
          (replayAuthor42 bars author42Config policy).trades) := List.perm_insertionSort _ _

theorem perm_acceptedRecords (shortConfig longConfig : Author41Config)
    (author42Config : Author42Config) :
    (acceptedRecords component (buildRiAuthor4142ComboShadowJournalWithConfigs bars policy
      shortConfig longConfig author42Config)).Perm
      (acceptedRecords component ((author41Accepted bars policy shortConfig longConfig).map
          (author41TradeJournalRecord .riShadow10m)) ++
        acceptedRecords component (author42Records .riShadow10m
          (author41Accepted bars policy shortConfig longConfig)
          (replayAuthor42 bars author42Config policy).trades)) := by
  unfold acceptedRecords
  rw [← List.filter_append]
  exact (perm_journal bars policy shortConfig longConfig author42Config).filter _

section Records

variable (profile : ModelProfile) (author41 : List Author41Trade) (trades : List Author42Trade)
  (component : Component)

theorem acceptedRecords_author41 :
    acceptedRecords component (author41.map (author41TradeJournalRecord profile)) =
      if component = .author41Mr then author41.map (author41TradeJournalRecord profile) else [] := by
  split_ifs with hcomponent
  · refine List.filter_eq_self.mpr ?_
    intro record hrecord
    obtain ⟨trade, _, rfl⟩ := List.mem_map.mp hrecord
    simp [author41TradeJournalRecord, hcomponent]
  · refine List.filter_eq_nil_iff.mpr ?_
    intro record hrecord
    obtain ⟨trade, _, rfl⟩ := List.mem_map.mp hrecord
    simp [author41TradeJournalRecord, Ne.symm hcomponent]

/-- The journal accepts the trades that the filter of the replay keeps. -/
theorem acceptedRecords_author42 :
    acceptedRecords component (author42Records profile author41 trades) =
      if component = .author42Bo then
        (filterAuthor42NonOverlapping trades author41).map
          (author42TradeJournalRecord profile · .accepted)
      else [] := by
  unfold acceptedRecords author42Records filterAuthor42NonOverlapping
  induction trades with
  | nil => simp
  | cons trade trades ih =>
    rw [List.map_cons, List.filter_cons, List.filter_cons, ih]
    by_cases hcomponent : component = .author42Bo
    · by_cases hdropped : author41.any (overlapsMr trade) = true
      all_goals simp [author42TradeJournalRecord, overlapDecision, hcomponent, hdropped]
    · simp [author42TradeJournalRecord, hcomponent, Ne.symm hcomponent]

theorem shadowPoints_author41 :
    shadowPoints (author41.map (author41TradeJournalRecord profile)) =
      (author41.map Author41Trade.netPoints).sum := by
  unfold shadowPoints
  rw [List.filterMap_map]
  show (author41.filterMap (some ∘ Author41Trade.netPoints)).sum = _
  rw [List.filterMap_eq_map]

theorem shadowPoints_accepted42 :
    shadowPoints (trades.map (author42TradeJournalRecord profile · .accepted)) =
      (trades.map (comboPoints profile)).sum := by
  unfold shadowPoints
  rw [List.filterMap_map]
  show (trades.filterMap (some ∘ comboPoints profile)).sum = _
  rw [List.filterMap_eq_map]

/-- A record that is not accepted shows no points. -/
theorem shadowPoints_author42 :
    shadowPoints (author42Records profile author41 trades) =
      ((filterAuthor42NonOverlapping trades author41).map (comboPoints profile)).sum := by
  have hpoints : ∀ trade, (author42TradeJournalRecord profile trade
      (overlapDecision author41 trade)).shadowPnlPoints =
        if !author41.any (overlapsMr trade) then some (comboPoints profile trade) else none := by
    intro trade
    cases hdropped : author41.any (overlapsMr trade) <;>
      simp [author42TradeJournalRecord, overlapDecision, hdropped, comboPoints]
  unfold shadowPoints author42Records filterAuthor42NonOverlapping
  induction trades with
  | nil => rfl
  | cons trade trades ih =>
    rw [List.map_cons, List.filterMap_cons, hpoints, List.filter_cons]
    split_ifs
    · rw [List.sum_cons, ih, List.map_cons, List.sum_cons]
    · exact ih

theorem shadowPoints_append (records records' : List ShadowJournalRecord) :
    shadowPoints (records ++ records') = shadowPoints records + shadowPoints records' := by
  unfold shadowPoints
  rw [List.filterMap_append, List.sum_append]

theorem shadowPoints_perm {records records' : List ShadowJournalRecord}
    (h : records.Perm records') : shadowPoints records = shadowPoints records' :=
  (h.filterMap _).sum_eq

end Records

/-! ### The days -/

def rowPoints (row : ComboDailyPnl) : ℚ := row.author41Pnl + row.author42Pnl

/-- The points of the days are those of the trades. -/
theorem sum_daily (author41 : Author41ReplayResult) (author42 : Author42ReplayResult) :
    ((replayComboFromComponents profile author41 author42).daily.map
        ComboDailyPnl.pnlPoints).sum =
      (author41.trades.map Author41Trade.netPoints).sum +
        ((filterAuthor42NonOverlapping author42.trades author41.trades).map
          (comboPoints profile)).sum := by
  -- an empty row adds nothing, and a trade adds its points
  have hempty : ∀ (row : Option ComboDailyPnl) (date : NaiveDate),
      rowPoints (row.getD (.empty date)) = (row.map rowPoints).getD 0 + 0 := by
    intro row date
    rw [add_zero]
    cases row with
    | none => exact add_zero 0
    | some row => rfl
  have h41 : ∀ (row : Option ComboDailyPnl) (trade : Author41Trade),
      rowPoints (ComboDailyPnl.addAuthor41 row trade) =
        (row.map rowPoints).getD 0 + trade.netPoints := by
    intro row trade
    cases row with
    | none =>
      show 0 + trade.netPoints + 0 = 0 + trade.netPoints
      rw [add_zero]
    | some row => exact add_right_comm _ _ _
  have h42 : ∀ (row : Option ComboDailyPnl) (trade : Author42Trade),
      rowPoints (ComboDailyPnl.addAuthor42 profile row trade) =
        (row.map rowPoints).getD 0 + comboPoints profile trade := by
    intro row trade
    cases row with
    | none => exact zero_add _
    | some row => exact (add_assoc _ _ _).symm
  -- sorting the rows leaves their sum alone
  have hsort : ∀ rows : OrderedMap NaiveDate ComboDailyPnl,
      (((rows.values.map ComboDailyPnl.finish).insertionSort fun row row' =>
        row.date ≤ row'.date).map ComboDailyPnl.pnlPoints).sum = rows.total rowPoints := by
    intro rows
    rw [((List.perm_insertionSort _ _).map _).sum_eq, List.map_map]
    rfl
  unfold replayComboFromComponents
  rw [hsort, OrderedMap.total_addAll rowPoints h42, OrderedMap.total_addAll rowPoints h41,
    OrderedMap.total_addAll rowPoints hempty, OrderedMap.total_addAll rowPoints hempty]
  simp [Function.comp_def]

/-- For any bars, session and configurations: what is taken of Author41 lies apart, and each
candidate left out is held while one taken is; what is kept of Author42 overlaps nothing taken, and
each one left out does; the journal accepts the same trades; and all the sums are the same. -/
theorem combo_consistent (bars : List ModelBar) (policy : RegularSessionPolicy)
    (shortConfig longConfig : Author41Config) (author42Config : Author42Config) :
    let profile := ModelProfile.riShadow10m
    let journal := buildRiAuthor4142ComboShadowJournalWithConfigs bars policy shortConfig longConfig
      author42Config
    let combo := replayRiAuthor4142ComboCost2WithConfigs bars policy shortConfig longConfig
      author42Config
    let points41 := (combo.author41Trades.map Author41Trade.netPoints).sum
    let points42 := (combo.author42Trades.map (comboPoints profile)).sum
    combo.author41Trades.Pairwise (fun a b => Disjoint a.span b.span) ∧
    (∃ rejected, (author41Candidates bars policy shortConfig longConfig).Perm
      (combo.author41Trades ++ rejected) ∧
        ∀ trade ∈ rejected, ∃ taken ∈ combo.author41Trades, ¬Disjoint trade.span taken.span) ∧
    (∀ trade ∈ combo.author42Trades, ∀ mr ∈ combo.author41Trades, ¬Overlaps trade mr ∧
      Disjoint (Set.Ioo trade.entryTs trade.exitTs) (Set.Ioo mr.entryTs mr.exitTs)) ∧
    (∃ rejected, (replayAuthor42 bars author42Config policy).trades.Perm
      (combo.author42Trades ++ rejected) ∧
        ∀ trade ∈ rejected, ∃ mr ∈ combo.author41Trades, Overlaps trade mr) ∧
    (acceptedRecords .author41Mr journal).Perm
      (combo.author41Trades.map (author41TradeJournalRecord profile)) ∧
    (acceptedRecords .author42Bo journal).Perm
      (combo.author42Trades.map (author42TradeJournalRecord profile · .accepted)) ∧
    (combo.daily.map ComboDailyPnl.pnlPoints).sum = points41 + points42 ∧
    shadowPoints (acceptedRecords .author41Mr journal) = points41 ∧
    shadowPoints (acceptedRecords .author42Bo journal) = points42 ∧
    shadowPoints journal = points41 + points42 := by
  intro profile journal combo points41 points42
  -- the accepted records are those of the trades, component by component
  have h41 := perm_acceptedRecords .author41Mr bars policy shortConfig longConfig author42Config
  have h42 := perm_acceptedRecords .author42Bo bars policy shortConfig longConfig author42Config
  rw [acceptedRecords_author41, acceptedRecords_author42, if_pos rfl, if_neg (by decide),
    List.append_nil] at h41
  rw [acceptedRecords_author41, acceptedRecords_author42, if_neg (by decide), if_pos rfl,
    List.nil_append] at h42
  refine ⟨pairwise_disjoint_author41Accepted, ?_, ?_, ?_, h41, h42, sum_daily _ _ _, ?_, ?_, ?_⟩
  -- what is left out of Author41 meets one that is taken
  · obtain ⟨rejected, hperm⟩ := author41Accepted_sublist.exists_perm_append
    refine ⟨rejected, hperm, ?_⟩
    intro trade htrade
    exact exists_not_disjoint_author41Accepted (hperm.mem_iff.mpr (List.mem_append_right _ htrade))
  -- what is kept of Author42 passed the overlap filter
  · intro trade htrade mr hmr
    have hnone := (mem_filterAuthor42 (List.mem_of_mem_filter htrade)).mp htrade mr hmr
    exact ⟨hnone, Intervals.disjoint_of_not_overlap hnone⟩
  · refine ⟨_, (List.filter_append_perm _ _).symm, ?_⟩
    intro trade htrade
    obtain ⟨hmem, hdropped⟩ := List.mem_filter.mp htrade
    obtain ⟨mr, hmr, hoverlap⟩ := List.any_eq_true.mp (by simpa using hdropped)
    exact ⟨mr, hmr, (overlapsMr_iff hmem hmr).mp hoverlap⟩
  · rw [shadowPoints_perm h41, shadowPoints_author41]
    rfl
  · rw [shadowPoints_perm h42, shadowPoints_accepted42]
    rfl
  · rw [shadowPoints_perm (perm_journal bars policy shortConfig longConfig author42Config),
      shadowPoints_append, shadowPoints_author41, shadowPoints_author42]
    rfl

end AlorRs.MoexAuthor4142
