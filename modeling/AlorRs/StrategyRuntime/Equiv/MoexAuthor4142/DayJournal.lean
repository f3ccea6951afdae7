import AlorRs.Lib.Sorting
import AlorRs.StrategyRuntime.Equiv.MoexAuthor4142.Accounts
import AlorRs.StrategyRuntime.Equiv.MoexAuthor4142.Combo

/-!
# The journal of a date

What the journal has of a date is made from the bars of the date, its anchor and its context
(`mem_journal_iff`).  A date without an anchor has no records of Author41, and one without a context
has none of Author42.
-/

namespace AlorRs.MoexAuthor4142

def dayCandidates (shortConfig longConfig : Author41Config) (date : NaiveDate)
    (anchor : Option DailyAnchor) (day : List ModelBar) : List Author41Trade :=
  (Author41Engine.closes (fun _ => anchor) (dateStart shortConfig date) day ++
    Author41Engine.closes (fun _ => anchor) (dateStart longConfig date) day).insertionSort
      fun trade trade' => trade.entryTs ≤ trade'.entryTs

def dayAccepted (shortConfig longConfig : Author41Config) (date : NaiveDate)
    (anchor : Option DailyAnchor) (day : List ModelBar) : List Author41Trade :=
  Intervals.takeApart Author41Trade.entryTs Author41Trade.exitTs none
    (dayCandidates shortConfig longConfig date anchor day)

def dayBreakouts (config : Author42Config) (date : NaiveDate) (ctx : Option Author42DailyContext)
    (day : List ModelBar) : List Author42Trade :=
  match ctx, ValueGroup.ofList day with
  | some ctx, some day => (runAuthor42Day date day ctx config).1
  | _, _ => []

variable {policy : RegularSessionPolicy} {bars : List ModelBar} {date : NaiveDate}
  {shortConfig longConfig : Author41Config} {author42Config : Author42Config}

/-! ### Author41 -/

abbrev anchorOf (policy : RegularSessionPolicy) (bars : List ModelBar) (date : NaiveDate) :
    Option DailyAnchor := (buildDailyAnchors (modelBars policy bars)).get? date

theorem filter_author41Candidates :
    (author41Candidates bars policy shortConfig longConfig).filter
        (fun trade => trade.entryTs.date = date) =
      dayCandidates shortConfig longConfig date (anchorOf policy bars date)
        (barsOf policy bars date) := by
  have hside : ∀ config, (replayAuthor41 (modelBars policy bars) config policy).trades.filter
      (fun trade => trade.entryTs.date = date) =
        Author41Engine.closes (fun _ => anchorOf policy bars date) (dateStart config date)
          (barsOf policy bars date) := by
    intro config
    have hsame : (replayAuthor41 (modelBars policy bars) config policy).trades =
        author41Closes policy config bars := by
      rw [replayAuthor41_eq]
      unfold author41Closes
      rw [modelBars_modelBars]
    rw [hsame, filter_closes]
    refine Author41Engine.emits_congr ?_ _
    intro bar hbar
    rw [(mem_barsOf.mp hbar).2]
  unfold author41Candidates dayCandidates
  rw [Sorting.filter_insertionSort, List.filter_append, hside, hside]

theorem filter_author41Accepted :
    (author41Accepted bars policy shortConfig longConfig).filter
        (fun trade => trade.entryTs.date = date) =
      dayAccepted shortConfig longConfig date (anchorOf policy bars date)
        (barsOf policy bars date) := by
  unfold dayAccepted
  rw [← filter_author41Candidates]
  refine Intervals.filter_takeApart _ ?_ entry_le_exit_of_mem_candidates fun _ _ _ => rfl
  refine pairwise_candidates.imp_of_mem ?_
  intro a b ha hb hle hne
  have hdates : a.entryTs.date ≠ b.entryTs.date := by
    intro heq
    rw [heq] at hne
    exact hne rfl
  have hexit : a.exitTs.date = a.entryTs.date := by
    rcases mem_author41Candidates.mp ha with hshort | hlong
    · exact (date_of_mem_author41Closes hshort).symm
    · exact (date_of_mem_author41Closes hlong).symm
  refine lt_of_date_lt ?_
  rw [hexit]
  exact lt_of_le_of_ne (NaiveDateTime.date_le hle) hdates

variable (day : List ModelBar)

/-- A date without an anchor has no candidates. -/
theorem dayAccepted_none : dayAccepted shortConfig longConfig date none day = [] := by
  -- without an anchor no bar enters
  have hnone : ∀ (engine : Author41Engine), engine.position = none →
      Author41Engine.closes (fun _ => none) engine day = [] := by
    induction day with
    | nil => exact fun _ _ => rfl
    | cons bar day ih =>
      intro engine hengine
      have hstarted : (engine.startDate bar.tsLocal.date).position = none := by
        cases hposition : (engine.startDate bar.tsLocal.date).position with
        | none => rfl
        | some pos =>
          rw [(Author41Engine.position_startDate hposition).2] at hengine
          exact nomatch hengine
      -- there is nothing to manage
      have hmanage : (engine.startDate bar.tsLocal.date).manage bar =
          (engine.startDate bar.tsLocal.date, []) := by
        unfold Author41Engine.manage
        rw [hstarted]
      have hbar : engine.onBar bar none = (engine.startDate bar.tsLocal.date, []) := by
        unfold Author41Engine.onBar
        rw [hmanage]
        obtain heq | ⟨_, _, hanchor, _⟩ :=
          Author41Engine.enter_cases (engine.startDate bar.tsLocal.date) bar none
        · exact congrArg (·, _) heq
        · exact nomatch hanchor
      rw [Author41Engine.closes_cons, hbar]
      exact ih _ hstarted
  have hstart : ∀ config : Author41Config, (dateStart config date).position = none := by
    intro config
    unfold dateStart
    rw [Author41Engine.startDate_of_ne (currentDate_new config date)]
  unfold dayAccepted dayCandidates
  rw [hnone _ (hstart shortConfig), hnone _ (hstart longConfig)]
  rfl

/-! ### Author42 -/

abbrev contextOf (policy : RegularSessionPolicy) (bars : List ModelBar) (date : NaiveDate) :
    Option Author42DailyContext := (buildAuthor42DailyContext (modelBars policy bars)).get? date

theorem filter_replayAuthor42 :
    (replayAuthor42 bars author42Config policy).trades.filter
        (fun trade => trade.entryTs.date = date) =
      dayBreakouts author42Config date (contextOf policy bars date) (barsOf policy bars date) := by
  have hkey : ∀ day ∈ (author42Days policy bars).entries,
      ∀ trade ∈ tradesOfDay policy author42Config bars day, trade.entryTs.date = day.1 := by
    rintro ⟨date, day⟩ hday trade htrade
    obtain ⟨s, hbooks, htrades, _⟩ := books_of_mem author42Config hday
    rw [htrades] at htrade
    obtain ⟨bar, hbar, hentry⟩ := List.mem_map.mp (hbooks.entry trade htrade)
    rw [← hentry]
    exact (mem_barsOf.mp hbar).2
  rw [trades_eq_flatMap, OrderedMap.filter_flatMap_entries hkey, get?_author42Days]
  unfold dayBreakouts tradesOfDay replayAuthor42Day contextOf
  cases ValueGroup.ofList (barsOf policy bars date) with
  | none =>
    cases (buildAuthor42DailyContext (modelBars policy bars)).get? date with
    | none => rfl
    | some ctx => rfl
  | some day =>
    dsimp only [Option.elim]
    cases (buildAuthor42DailyContext (modelBars policy bars)).get? date with
    | none => rfl
    | some ctx => rfl

theorem dayBreakouts_none : dayBreakouts author42Config date none day = [] :=
  rfl

/-! ### The records -/

def dayRecords (shortConfig longConfig : Author41Config) (author42Config : Author42Config)
    (date : NaiveDate) (anchor : Option DailyAnchor) (ctx : Option Author42DailyContext)
    (day : List ModelBar) : List ShadowJournalRecord :=
  let author41 := dayAccepted shortConfig longConfig date anchor day
  author41.map (author41TradeJournalRecord .riShadow10m) ++
    author42Records .riShadow10m author41 (dayBreakouts author42Config date ctx day)

variable {record : ShadowJournalRecord}

theorem mem_journal_iff :
    record ∈ buildRiAuthor4142ComboShadowJournalWithConfigs bars policy shortConfig longConfig
        author42Config ↔
      record ∈ dayRecords shortConfig longConfig author42Config record.barTsLocal.date
        (anchorOf policy bars record.barTsLocal.date) (contextOf policy bars record.barTsLocal.date)
        (barsOf policy bars record.barTsLocal.date) := by
  rw [(perm_journal bars policy shortConfig longConfig author42Config).mem_iff]
  unfold dayRecords
  rw [← filter_author41Accepted, ← filter_replayAuthor42, List.mem_append, List.mem_append]
  -- a trade of Author42 is compared with the trades of its date
  have hdecision : ∀ trade : Author42Trade, trade.entryTs.date = record.barTsLocal.date →
      overlapDecision ((author41Accepted bars policy shortConfig longConfig).filter
        fun mr => mr.entryTs.date = record.barTsLocal.date) trade =
          overlapDecision (author41Accepted bars policy shortConfig longConfig) trade := by
    -- an overlap needs a trade of the same date
    intro trade htrade
    have hsame : (fun mr : Author41Trade => decide (mr.entryTs.date = record.barTsLocal.date) &&
        overlapsMr trade mr) = overlapsMr trade := by
      funext mr
      unfold overlapsMr
      rw [htrade]
      by_cases hdate : mr.entryTs.date = record.barTsLocal.date
      · simp [hdate]
      · simp [hdate, Ne.symm hdate]
    unfold overlapDecision
    rw [List.any_filter, hsame]
  refine or_congr ?_ ?_
  · constructor
    · intro h
      obtain ⟨trade, htrade, rfl⟩ := List.mem_map.mp h
      exact List.mem_map_of_mem (List.mem_filter.mpr ⟨htrade, decide_eq_true rfl⟩)
    · intro h
      obtain ⟨trade, htrade, heq⟩ := List.mem_map.mp h
      exact List.mem_map.mpr ⟨trade, List.mem_of_mem_filter htrade, heq⟩
  · constructor
    · intro h
      obtain ⟨trade, htrade, rfl⟩ := List.mem_map.mp h
      refine List.mem_map.mpr ⟨trade, List.mem_filter.mpr ⟨htrade, decide_eq_true rfl⟩, ?_⟩
      exact congrArg _ (hdecision trade rfl)
    · intro h
      obtain ⟨trade, htrade, heq⟩ := List.mem_map.mp h
      obtain ⟨hmem, hdate⟩ := List.mem_filter.mp htrade
      refine List.mem_map.mpr ⟨trade, hmem, ?_⟩
      rw [← heq, hdecision trade (of_decide_eq_true hdate)]

/-! ### The days before a date -/

theorem barsOf_eq (policy : RegularSessionPolicy) (bars : List ModelBar) (date : NaiveDate) :
    barsOf policy bars date = modelBars policy (bars.filter fun bar => bar.tsLocal.date = date) := by
  unfold barsOf modelBars
  rw [Sorting.filter_insertionSort, List.filter_filter, List.filter_filter]
  congr 1
  refine List.filter_congr ?_
  intro bar _
  exact Bool.and_comm _ _

def statsOf (policy : RegularSessionPolicy) (bars : List ModelBar) (date : NaiveDate) :
    Option DayStats := (dayStats (modelBars policy bars)).get? date

theorem statsOf_eq (policy : RegularSessionPolicy) (bars : List ModelBar) (date : NaiveDate) :
    statsOf policy bars date =
      (barsOf policy bars date).foldl (fun stats bar => some (DayStats.add stats bar)) none :=
  OrderedMap.get?_addAll _ _ _ _

def daysBefore (policy : RegularSessionPolicy) (bars : List ModelBar) (date : NaiveDate) :
    List (NaiveDate × DayStats) :=
  (dayStats (modelBars policy bars)).entries.filter fun day => day.1 < date

theorem mem_daysBefore {day : NaiveDate × DayStats} :
    day ∈ daysBefore policy bars date ↔ statsOf policy bars day.1 = some day.2 ∧ day.1 < date := by
  unfold daysBefore statsOf
  rw [List.mem_filter, decide_eq_true_iff, OrderedMap.get?_eq_some]

theorem ascending_daysBefore (policy : RegularSessionPolicy) (bars : List ModelBar)
    (date : NaiveDate) : (daysBefore policy bars date).Pairwise fun day day' => day.1 < day'.1 :=
  (dayStats (modelBars policy bars)).sorted.filter _

theorem anchorOf_eq (hbars : barsOf policy bars date ≠ []) :
    anchorOf policy bars date = anchorAfter (daysBefore policy bars date) := by
  obtain ⟨bar, hbar⟩ := List.exists_mem_of_ne_nil _ hbars
  unfold anchorOf daysBefore
  rw [get?_buildDailyAnchors, entries_dayStats_before, if_pos ⟨bar, mem_barsOf.mp hbar⟩]

theorem contextOf_eq (hbars : barsOf policy bars date ≠ []) :
    contextOf policy bars date = contextAfter (daysBefore policy bars date).reverse := by
  obtain ⟨bar, hbar⟩ := List.exists_mem_of_ne_nil _ hbars
  unfold contextOf daysBefore
  rw [get?_buildAuthor42DailyContext, entries_dayStats_before, if_pos ⟨bar, mem_barsOf.mp hbar⟩]

variable (anchor : Option DailyAnchor) (ctx : Option Author42DailyContext)

theorem dayRecords_nil :
    dayRecords shortConfig longConfig author42Config date anchor ctx [] = [] := by
  cases ctx with
  | none => rfl
  | some ctx => rfl

theorem dayRecords_none :
    dayRecords shortConfig longConfig author42Config date none none day = [] := by
  unfold dayRecords
  rw [dayAccepted_none, dayBreakouts_none]
  rfl

theorem dayRecords_subset :
    dayRecords shortConfig longConfig author42Config date anchor none day ⊆
      dayRecords shortConfig longConfig author42Config date anchor ctx day := by
  unfold dayRecords
  rw [dayBreakouts_none]
  exact List.append_subset.mpr ⟨List.subset_append_left _ _, List.nil_subset _⟩

/-- The records of a date with its bars, as a window of bars makes them. -/
abbrev windowRecords (policy : RegularSessionPolicy) (shortConfig longConfig : Author41Config)
    (author42Config : Author42Config) (bars : List ModelBar) (date : NaiveDate) :
    List ShadowJournalRecord :=
  dayRecords shortConfig longConfig author42Config date (anchorOf policy bars date)
    (contextOf policy bars date) (barsOf policy bars date)

/-- The records of a date are those of the journal for the date. -/
theorem mem_windowRecords_iff :
    record ∈ windowRecords policy shortConfig longConfig author42Config bars date ↔
      record ∈ buildRiAuthor4142ComboShadowJournalWithConfigs bars policy shortConfig longConfig
          author42Config ∧
        record.barTsLocal.date = date := by
  constructor
  · intro h
    have hdate : record.barTsLocal.date = date := by
      have hmem := h
      unfold windowRecords dayRecords at hmem
      rw [← filter_author41Accepted, ← filter_replayAuthor42] at hmem
      rcases List.mem_append.mp hmem with h41 | h42
      · obtain ⟨trade, htrade, rfl⟩ := List.mem_map.mp h41
        exact of_decide_eq_true (List.mem_filter.mp htrade).2
      · obtain ⟨trade, htrade, rfl⟩ := List.mem_map.mp h42
        exact of_decide_eq_true (List.mem_filter.mp htrade).2
    subst hdate
    exact ⟨mem_journal_iff.mpr h, rfl⟩
  · rintro ⟨h, rfl⟩
    exact mem_journal_iff.mp h

/-- A record of the journal is that of a trade, which ends on its date. -/
theorem record_of_mem_journal
    (h : record ∈ buildRiAuthor4142ComboShadowJournalWithConfigs bars policy shortConfig longConfig
      author42Config) :
    record.component ≠ .combo ∧ record.scheduledEntryTsLocal = some record.barTsLocal ∧
      ∃ exitTs, record.scheduledExitTsLocal = some exitTs ∧
        exitTs.date = record.barTsLocal.date := by
  rw [(perm_journal bars policy shortConfig longConfig author42Config).mem_iff] at h
  rcases List.mem_append.mp h with h41 | h42
  · obtain ⟨trade, htrade, rfl⟩ := List.mem_map.mp h41
    refine ⟨nofun, rfl, trade.exitTs, rfl, ?_⟩
    rcases mem_author41Candidates.mp (author41Accepted_sublist.subset htrade) with hshort | hlong
    · exact (date_of_mem_author41Closes hshort).symm
    · exact (date_of_mem_author41Closes hlong).symm
  · obtain ⟨trade, htrade, rfl⟩ := List.mem_map.mp h42
    exact ⟨nofun, rfl, trade.exitTs, rfl, (date_of_mem_replayAuthor42 htrade).symm⟩

theorem windowRecords_of_daysBefore_nil (h : daysBefore policy bars date = []) :
    windowRecords policy shortConfig longConfig author42Config bars date = [] := by
  unfold windowRecords
  by_cases hbars : barsOf policy bars date = []
  · rw [hbars, dayRecords_nil]
  · rw [anchorOf_eq hbars, contextOf_eq hbars, h]
    exact dayRecords_none _

/-- A window that has lost the first of its days has no other records of a date that it has whole. -/
theorem windowRecords_subset {bars' : List ModelBar}
    (hday : daysBefore policy bars' date ≠ [] → barsOf policy bars' date ≠ [] →
      barsOf policy bars' date = barsOf policy bars date)
    (hsuffix : daysBefore policy bars' date <:+ daysBefore policy bars date) :
    windowRecords policy shortConfig longConfig author42Config bars' date ⊆
      windowRecords policy shortConfig longConfig author42Config bars date := by
  by_cases hbars : barsOf policy bars' date = []
  · unfold windowRecords
    rw [hbars, dayRecords_nil]
    exact List.nil_subset _
  · obtain ⟨lost, hlost⟩ := hsuffix
    rcases List.eq_nil_or_concat (daysBefore policy bars' date) with hnil | ⟨front, prev, hprev⟩
    · rw [windowRecords_of_daysBefore_nil hnil]
      exact List.nil_subset _
    · unfold windowRecords
      rw [anchorOf_eq hbars, contextOf_eq hbars]
      have hne : daysBefore policy bars' date ≠ [] := by
        rw [hprev, List.concat_eq_append]
        exact List.concat_ne_nil _ _
      have hsame := hday hne hbars
      rw [hsame] at hbars ⊢
      rw [anchorOf_eq hbars, contextOf_eq hbars, ← hlost, hprev, List.concat_eq_append]
      unfold anchorAfter
      rw [← List.append_assoc, List.getLast?_concat, List.getLast?_concat, List.reverse_append,
        List.reverse_append, List.reverse_append]
      cases front.reverse with
      | nil => exact dayRecords_subset _ _ _
      | cons prev2 rest => exact List.Subset.refl _

end AlorRs.MoexAuthor4142
