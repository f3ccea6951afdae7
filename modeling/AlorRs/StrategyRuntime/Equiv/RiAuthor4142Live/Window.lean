import AlorRs.Lib.Reports
import AlorRs.StrategyRuntime.Equiv.MoexAuthor4142.DayJournal
import AlorRs.StrategyRuntime.RiAuthor4142Live.Decisions

/-!
# Decisions of past days

A decision is emitted once.  While the bars come in the order of their dates, and a cut of the window
leaves the statistics of the sessions that still count as they were, no decision is emitted for a
date once a bar of a later date has come.
-/

namespace AlorRs.RiAuthor4142

open MoexAuthor4142

/-! ### The sessions of a window -/

def arrivals (bars : List ModelBar) (date : NaiveDate) : List ModelBar :=
  bars.filter fun bar => bar.tsLocal.date = date

variable (rule : RiAnchorCompletenessRule)

def Fulfils (session : List ModelBar) : Prop :=
  rule.minBars ≤ session.length ∧ (∃ bar ∈ session, bar.tsLocal.time ≤ rule.firstBarAtOrBefore) ∧
    ∃ bar ∈ session, rule.lastBarAtOrAfter ≤ bar.tsLocal.time

def IsAnchorSession (config : RiAuthor4142LiveConfig) (bars : List ModelBar) (date : NaiveDate) :
    Prop :=
  date ∉ config.excludedModelDates ∧ Fulfils (config.anchorRuleForDate date) (arrivals bars date)

theorem Fulfils.mono {rule : RiAnchorCompletenessRule} {session session' : List ModelBar}
    (h : Fulfils rule session) (hsublist : session.Sublist session') : Fulfils rule session' := by
  obtain ⟨hbars, ⟨first, hfirst, hbefore⟩, last, hlast, hafter⟩ := h
  exact ⟨hbars.trans hsublist.length_le, ⟨first, hsublist.subset hfirst, hbefore⟩, last,
    hsublist.subset hlast, hafter⟩

theorem timeLe_iff {a b : NaiveTime} : a.le b = true ↔ a ≤ b := by
  have hlex : a ≤ b ↔ toLex (a.secs, a.frac) ≤ toLex (b.secs, b.frac) := Iff.rfl
  rw [hlex, Prod.Lex.toLex_le_toLex]
  simp [NaiveTime.le]

def RiDailyStats.fold (stats : Option RiDailyStats) (bar : ModelBar) : RiDailyStats :=
  (stats.map fun stats => stats.add bar).getD (.ofBar bar)

/-- What a rule asks of the statistics of a session. -/
theorem isEligible_foldl (first : ModelBar) (session : List ModelBar) :
    (session.foldl RiDailyStats.add (.ofBar first)).isEligible rule = true ↔
      Fulfils rule (first :: session) := by
  -- the statistics of a session count its bars and keep its first and last time
  have hstats : ∀ t,
      (session.foldl RiDailyStats.add (.ofBar first)).bars = session.length + 1 ∧
      ((session.foldl RiDailyStats.add (.ofBar first)).firstBar ≤ t ↔
        ∃ bar ∈ first :: session, bar.tsLocal.time ≤ t) ∧
      (t ≤ (session.foldl RiDailyStats.add (.ofBar first)).lastBar ↔
        ∃ bar ∈ first :: session, t ≤ bar.tsLocal.time) := by
    intro t
    induction session using List.reverseRecOn with
    | nil => simp [RiDailyStats.ofBar]
    | append_singleton session bar ih =>
      obtain ⟨hbars, hfirst, hlast⟩ := ih
      rw [List.foldl_append, List.foldl_cons, List.foldl_nil]
      generalize session.foldl RiDailyStats.add (.ofBar first) = stats at hbars hfirst hlast
      have hmore : ∀ p : ModelBar → Prop, (∃ b ∈ first :: (session ++ [bar]), p b) ↔
          (∃ b ∈ first :: session, p b) ∨ p bar := by
        intro p
        simp only [← List.cons_append, List.mem_append, List.mem_singleton, or_and_right, exists_or,
          exists_eq_left]
      refine ⟨?_, ?_, ?_⟩
      · show stats.bars + 1 = _
        rw [hbars, List.length_append, List.length_singleton]
      · rw [hmore, ← hfirst]
        show (if stats.firstBar.le bar.tsLocal.time then stats.firstBar else bar.tsLocal.time) ≤ t ↔ _
        simp only [timeLe_iff]
        rw [← min_def, min_le_iff]
      · rw [hmore, ← hlast]
        show t ≤ (if bar.tsLocal.time.le stats.lastBar then stats.lastBar else bar.tsLocal.time) ↔ _
        simp only [timeLe_iff]
        rw [← max_def, le_max_iff, or_comm]
  unfold RiDailyStats.isEligible Fulfils
  rw [Bool.and_eq_true, Bool.and_eq_true, decide_eq_true_iff, timeLe_iff, timeLe_iff,
    (hstats rule.firstBarAtOrBefore).1, (hstats _).2.1, (hstats _).2.2, List.length_cons, and_assoc]

/-- `updateDate` is the change of a row in a map by date. -/
theorem updateDate_entries {V : Type} (date : NaiveDate) (f : Option V → V)
    (m : OrderedMap NaiveDate V) : updateDate date f m.entries = (m.alter date f).entries := by
  show updateDate date f m.entries = OrderedMap.insertEntries date (f (m.get? date)) m.entries
  unfold OrderedMap.get?
  have hsorted := m.sorted
  generalize m.entries = entries at hsorted ⊢
  induction entries with
  | nil => rfl
  | cons entry entries ih =>
    obtain ⟨d, v⟩ := entry
    obtain ⟨hd, hentries⟩ := List.pairwise_cons.mp hsorted
    unfold updateDate OrderedMap.insertEntries
    by_cases heq : date = d
    · subst heq
      simp
    · by_cases hlt : date < d
      · have hnone : (((d, v) :: entries).find? fun entry => entry.1 = date) = none := by
          refine List.find?_eq_none.mpr ?_
          intro entry hentry
          rcases List.mem_cons.mp hentry with rfl | hmem
          · simpa using Ne.symm heq
          · simpa using (hlt.trans (hd entry hmem)).ne'
        rw [hnone, if_neg heq, if_pos hlt, if_pos hlt]
        rfl
      · rw [if_neg heq, if_neg hlt, if_neg hlt, if_neg heq, ih hentries,
          List.find?_cons_of_neg (by simpa using Ne.symm heq)]

theorem foldl_updateDate {V α : Type} (key : α → NaiveDate) (add : Option V → α → V)
    (m : OrderedMap NaiveDate V) (items : List α) :
    items.foldl (fun days item => updateDate (key item) (fun row => add row item) days) m.entries =
      (OrderedMap.addAll key add m items).entries := by
  induction items generalizing m with
  | nil => rfl
  | cons item items ih =>
    rw [List.foldl_cons, updateDate_entries]
    exact ih _

/-- The dates of the sessions before a date that count are those of the anchor sessions. -/
theorem mem_dailyStatsBefore (s : RiAuthor4142LiveStrategy) (current date : NaiveDate) :
    date ∈ (s.dailyStatsBefore current).map Prod.fst ↔
      date < current ∧ IsAnchorSession s.config s.modelBars date := by
  have hentries := foldl_updateDate (fun bar : ModelBar => bar.tsLocal.date) RiDailyStats.fold .empty
    (s.modelBars.filter fun bar =>
      bar.tsLocal.date < current && !s.config.excludedModelDates.contains bar.tsLocal.date)
  -- the sessions that are kept are those the rule lets through
  have hmem : date ∈ (s.dailyStatsBefore current).map Prod.fst ↔ ∃ stats,
      (OrderedMap.addAll (fun bar : ModelBar => bar.tsLocal.date) RiDailyStats.fold .empty
        (s.modelBars.filter fun bar => bar.tsLocal.date < current &&
          !s.config.excludedModelDates.contains bar.tsLocal.date)).get? date = some stats ∧
        stats.isEligible (s.config.anchorRuleForDate date) = true := by
    unfold RiAuthor4142LiveStrategy.dailyStatsBefore
    dsimp only
    unfold RiDailyStats.fold at hentries
    rw [show ([] : List (NaiveDate × RiDailyStats)) =
      (OrderedMap.empty : OrderedMap NaiveDate RiDailyStats).entries from rfl, hentries]
    simp only [List.mem_map, List.mem_filter, Prod.exists, exists_and_right, exists_eq_right,
      OrderedMap.get?_eq_some]
    rfl
  -- of a date all bars count, or none
  have hbars : (s.modelBars.filter fun bar => bar.tsLocal.date < current &&
      !s.config.excludedModelDates.contains bar.tsLocal.date).filter
        (fun bar => bar.tsLocal.date = date) =
          if date < current ∧ date ∉ s.config.excludedModelDates then arrivals s.modelBars date
          else [] := by
    rw [List.filter_filter]
    split_ifs with hcounts
    · refine List.filter_congr ?_
      intro bar _
      by_cases hdate : bar.tsLocal.date = date
      · simp [hdate, hcounts]
      · simp [hdate]
    · refine List.filter_eq_nil_iff.mpr ?_
      intro bar _ hbar
      simp only [Bool.and_eq_true, decide_eq_true_iff, Bool.not_eq_true', List.contains_eq_mem,
        decide_eq_false_iff_not] at hbar
      obtain ⟨rfl, hcounts'⟩ := hbar
      exact hcounts hcounts'
  rw [hmem, OrderedMap.get?_addAll, hbars]
  unfold IsAnchorSession
  by_cases hcounts : date < current ∧ date ∉ s.config.excludedModelDates
  · rw [if_pos hcounts]
    cases arrivals s.modelBars date with
    | nil =>
      constructor
      · rintro ⟨stats, hstats, _⟩
        exact nomatch hstats
      · rintro ⟨_, _, _, ⟨bar, hbar, _⟩, _⟩
        exact absurd hbar List.not_mem_nil
    -- the statistics of the date begin with its first bar
    | cons first session =>
      have hfold : ∀ (stats : RiDailyStats) (session : List ModelBar),
          session.foldl (fun row bar => some (RiDailyStats.fold row bar)) (some stats) =
            some (session.foldl RiDailyStats.add stats) := by
        intro stats session
        induction session generalizing stats with
        | nil => rfl
        | cons bar session ih => exact ih _
      rw [List.foldl_cons]
      show (∃ stats, List.foldl _ (some (RiDailyStats.ofBar first)) session = some stats ∧ _) ↔ _
      rw [hfold]
      simp only [Option.some.injEq, exists_eq_left', isEligible_foldl, hcounts.1, hcounts.2,
        not_false_eq_true, true_and]
  · rw [if_neg hcounts]
    constructor
    · rintro ⟨stats, hstats, _⟩
      exact nomatch hstats
    · rintro ⟨hlt, hnot, _⟩
      exact absurd ⟨hlt, hnot⟩ hcounts

/-! ### A window that moves on -/

section Window

variable {bars bars' : List ModelBar} {bar : ModelBar} {date later : NaiveDate}
  {policy : RegularSessionPolicy}

theorem barsOf_congr (h : arrivals bars' date = arrivals bars date) :
    barsOf policy bars' date = barsOf policy bars date := by
  rw [barsOf_eq, barsOf_eq]
  exact congrArg (modelBars policy) h

theorem statsOf_congr (h : arrivals bars' date = arrivals bars date) :
    statsOf policy bars' date = statsOf policy bars date := by
  rw [statsOf_eq, statsOf_eq, barsOf_congr h]

theorem barsOf_of_arrivals_nil (h : arrivals bars date = []) : barsOf policy bars date = [] := by
  have hnone : barsOf policy bars date = barsOf policy [] date := barsOf_congr h
  exact hnone

theorem statsOf_of_arrivals_nil (h : arrivals bars date = []) : statsOf policy bars date = none := by
  rw [statsOf_eq, barsOf_of_arrivals_nil h]
  rfl

theorem arrivals_concat (h : bar.tsLocal.date ≠ date) :
    arrivals (bars ++ [bar]) date = arrivals bars date := by
  unfold arrivals
  rw [List.filter_append, List.filter_singleton, decide_eq_false h]
  exact List.append_nil _

theorem arrivals_sublist (h : bars' <:+ bars) :
    (arrivals bars' date).Sublist (arrivals bars date) := h.sublist.filter _

/-- A window that keeps a bar of one date has the later dates whole. -/
theorem arrivals_of_suffix (h : bars' <:+ bars)
    (hdates : bars.Pairwise fun a b => a.tsLocal.date ≤ b.tsLocal.date)
    (hsome : arrivals bars' date ≠ []) (hlater : date < later) :
    arrivals bars' later = arrivals bars later := by
  obtain ⟨lost, rfl⟩ := h
  obtain ⟨kept, hkept⟩ := List.exists_mem_of_ne_nil _ hsome
  obtain ⟨hmem, hdate⟩ := List.mem_filter.mp hkept
  have hnone : arrivals lost later = [] := by
    refine List.filter_eq_nil_iff.mpr ?_
    intro bar hbar
    have hle := (List.pairwise_append.mp hdates).2.2 bar hbar kept hmem
    rw [of_decide_eq_true hdate] at hle
    simpa using (hle.trans_lt hlater).ne
  unfold arrivals at hnone ⊢
  rw [List.filter_append, hnone, List.nil_append]

theorem arrivals_ne_nil {config : RiAuthor4142LiveConfig} (h : IsAnchorSession config bars date) :
    arrivals bars date ≠ [] := by
  obtain ⟨_, _, ⟨bar, hbar, _⟩, _⟩ := h
  exact List.ne_nil_of_mem hbar

end Window

section Step

open RiAuthor4142LiveStrategy

variable {s s' : RiAuthor4142LiveStrategy} {bar : ModelBar} {current date : NaiveDate}
  {policy : RegularSessionPolicy}

/-- Of the dates before the current one the engines see the anchor sessions. -/
theorem arrivals_eligibleModelBars (hdate : date < current)
    (h : IsAnchorSession s.config s.modelBars date) :
    arrivals (s.eligibleModelBars current) date = arrivals s.modelBars date := by
  unfold arrivals eligibleModelBars
  rw [List.filter_filter]
  refine List.filter_congr ?_
  intro bar _
  by_cases heq : bar.tsLocal.date = date
  · have hmem := (mem_dailyStatsBefore s current date).mpr ⟨hdate, h⟩
    simp only [heq, decide_true, List.contains_eq_mem, hmem, Bool.or_true, Bool.and_true]
  · simp [heq]

theorem arrivals_eligibleModelBars_of_not (hdate : date < current)
    (h : ¬IsAnchorSession s.config s.modelBars date) :
    arrivals (s.eligibleModelBars current) date = [] := by
  refine List.filter_eq_nil_iff.mpr ?_
  intro bar hbar heq
  have hdated : bar.tsLocal.date = date := of_decide_eq_true heq
  obtain ⟨_, hcounts⟩ := List.mem_filter.mp hbar
  rcases Bool.or_eq_true_iff.mp hcounts with hcurrent | heligible
  · exact hdate.ne (hdated ▸ of_decide_eq_true hcurrent)
  · rw [List.contains_eq_mem, decide_eq_true_iff, hdated] at heligible
    exact h ((mem_dailyStatsBefore s current date).mp heligible).2

/-- A bar has moved the window on, and where a cut leaves a session that counts, its statistics are
what they were. -/
structure MovedOn (policy : RegularSessionPolicy) (s s' : RiAuthor4142LiveStrategy)
    (bar : ModelBar) : Prop where
  config : s'.config = s.config
  cut : s'.modelBars <:+ s.modelBars ++ [bar]
  dates : (s.modelBars ++ [bar]).Pairwise fun a b => a.tsLocal.date ≤ b.tsLocal.date
  stats : ∀ date, date < bar.tsLocal.date → IsAnchorSession s'.config s'.modelBars date →
    statsOf policy s'.modelBars date = statsOf policy (s.modelBars ++ [bar]) date

variable {shortConfig longConfig : Author41Config} {author42Config : Author42Config}

/-- For a date that is past already the window has no records that it had not. -/
theorem MovedOn.windowRecords_subset (h : MovedOn policy s s' bar)
    (hcurrent : current ≤ bar.tsLocal.date) (hdate : date < current) :
    windowRecords policy shortConfig longConfig author42Config
        (s'.eligibleModelBars bar.tsLocal.date) date ⊆
      windowRecords policy shortConfig longConfig author42Config (s.eligibleModelBars current)
        date := by
  -- a date that is past gets no bar
  have hbefore : ∀ d, arrivals (s.modelBars ++ [bar]) d = arrivals s.modelBars d ∨ current ≤ d := by
    intro d
    by_cases heq : bar.tsLocal.date = d
    · exact .inr (heq ▸ hcurrent)
    · exact .inl (arrivals_concat heq)
  -- sessions that count still did so before
  have hcounted : ∀ d, d < current → IsAnchorSession s'.config s'.modelBars d →
      IsAnchorSession s.config s.modelBars d := by
    intro d hd hcounts
    rw [h.config] at hcounts
    refine ⟨hcounts.1, ?_⟩
    rw [← (hbefore d).resolve_right hd.not_ge]
    exact hcounts.2.mono (arrivals_sublist h.cut)
  -- a date with statistics is an anchor session
  have hcount : ∀ d, d < current → ∀ stats,
      statsOf policy (s'.eligibleModelBars bar.tsLocal.date) d = some stats →
        IsAnchorSession s'.config s'.modelBars d := by
    intro d hd stats hstats
    by_contra hnot
    rw [statsOf_of_arrivals_nil
      (arrivals_eligibleModelBars_of_not (hd.trans_le hcurrent) hnot)] at hstats
    exact nomatch hstats
  -- a date after one that counts has lost no bar
  have hwhole : ∀ d e, IsAnchorSession s'.config s'.modelBars d → d < e → e < current →
      arrivals s'.modelBars e = arrivals s.modelBars e := by
    intro d e hd hlt he
    rw [arrivals_of_suffix h.cut h.dates (arrivals_ne_nil hd) hlt]
    exact (hbefore e).resolve_right he.not_ge
  have hdays : daysBefore policy (s'.eligibleModelBars bar.tsLocal.date) date ⊆
      daysBefore policy (s.eligibleModelBars current) date := by
    rintro ⟨d, stats⟩ hday
    obtain ⟨hstats, hlt⟩ := mem_daysBefore.mp hday
    have hd : d < current := hlt.trans hdate
    have hcounts := hcount d hd stats hstats
    refine mem_daysBefore.mpr ⟨?_, hlt⟩
    rw [← hstats, statsOf_congr (arrivals_eligibleModelBars hd (hcounted d hd hcounts)),
      statsOf_congr (arrivals_eligibleModelBars (hd.trans_le hcurrent) hcounts),
      h.stats d (hd.trans_le hcurrent) hcounts]
    exact (statsOf_congr ((hbefore d).resolve_right hd.not_ge)).symm
  refine MoexAuthor4142.windowRecords_subset ?_ ?_
  -- the bars of the date are those it had
  · intro hsome hbars
    obtain ⟨⟨d, stats⟩, hday⟩ := List.exists_mem_of_ne_nil _ hsome
    obtain ⟨hstats, hlt⟩ := mem_daysBefore.mp hday
    have hcounts := hcount d (hlt.trans hdate) stats hstats
    have hcountsDate : IsAnchorSession s'.config s'.modelBars date := by
      by_contra hnot
      exact hbars (barsOf_of_arrivals_nil
        (arrivals_eligibleModelBars_of_not (hdate.trans_le hcurrent) hnot))
    refine barsOf_congr ?_
    rw [arrivals_eligibleModelBars (hdate.trans_le hcurrent) hcountsDate,
      arrivals_eligibleModelBars hdate (hcounted date hdate hcountsDate)]
    exact hwhole d date hcounts hlt hdate
  -- the days before it are the latest of those it had
  · refine Ascending.suffix_of_subset (ascending_daysBefore _ _ _) (ascending_daysBefore _ _ _)
      hdays ?_
    rintro ⟨d, stats⟩ hday ⟨e, stats'⟩ hday' hle
    obtain ⟨hstats, hlt⟩ := mem_daysBefore.mp hday
    obtain ⟨hstats', hlt'⟩ := mem_daysBefore.mp hday'
    rcases (hle : d ≤ e).eq_or_lt with rfl | hlt''
    · have hsame := (mem_daysBefore.mp (hdays hday)).1
      rw [hstats'] at hsame
      have heq : stats' = stats := Option.some.inj hsame
      rw [heq]
      exact hday
    -- a later date is whole, so it still counts
    · have he : e < current := hlt'.trans hdate
      have hcounts := hcount d (hlt.trans hdate) stats hstats
      have hsame := hwhole d e hcounts hlt'' he
      have hcountsBefore : IsAnchorSession s.config s.modelBars e := by
        by_contra hnot
        rw [statsOf_of_arrivals_nil (arrivals_eligibleModelBars_of_not he hnot)] at hstats'
        exact nomatch hstats'
      have hcountsAfter : IsAnchorSession s'.config s'.modelBars e := by
        unfold IsAnchorSession
        rw [h.config, hsame]
        exact hcountsBefore
      refine mem_daysBefore.mpr ⟨?_, hlt'⟩
      rw [← hstats']
      refine statsOf_congr ?_
      rw [arrivals_eligibleModelBars (he.trans_le hcurrent) hcountsAfter,
        arrivals_eligibleModelBars he hcountsBefore, hsame]

end Step

end AlorRs.RiAuthor4142
