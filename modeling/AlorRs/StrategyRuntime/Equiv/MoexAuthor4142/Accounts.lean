import AlorRs.StrategyRuntime.Equiv.MoexAuthor4142.Prefix

/-!
# The replays account for every entry

Over bars of distinct times: every position of Author42 has one trade, and every position of
Author41 has one unless it is still held after the last bar of its date; trades come in order, the
days have room for what they open, and the rows add up (`accounts_every_entry`).
-/

namespace AlorRs.MoexAuthor4142

/-! ### Author41 -/

variable (policy : RegularSessionPolicy) (config : Author41Config)

def author41Opens (bars : List ModelBar) : List OpenAuthor41Position :=
  Author41Engine.opens (buildDailyAnchors (modelBars policy bars)).get? (.new config)
    (modelBars policy bars)

def author41Left (bars : List ModelBar) (date : NaiveDate) : Option OpenAuthor41Position :=
  (Author41Engine.after (buildDailyAnchors (modelBars policy bars)).get? (.new config)
    ((modelBars policy bars).filter fun bar => bar.tsLocal.date ≤ date)).position.filter
      fun pos => pos.entryTs.date = date

structure Author41Accounts (policy : RegularSessionPolicy) (config : Author41Config)
    (bars : List ModelBar) (r : Author41ReplayResult) : Prop where
  distinct : ((author41Opens policy config bars).map OpenAuthor41Position.entryTs).Pairwise (· < ·)
  entries : ∀ date,
    ((author41Opens policy config bars).filter fun pos => pos.entryTs.date = date).map
        OpenAuthor41Position.entryTs =
      (r.trades.filter fun trade => trade.entryTs.date = date).map Author41Trade.entryTs ++
        (author41Left policy config bars date).toList.map OpenAuthor41Position.entryTs
  within : ∀ trade ∈ r.trades, trade.entryTs.date = trade.exitTs.date ∧
    trade.entryTs < trade.exitTs ∧
    [trade.entryTs, trade.exitTs].Sublist ((modelBars policy bars).map ModelBar.tsLocal)
  order : r.trades.Pairwise fun a b => a.exitTs ≤ b.entryTs
  room : ∀ date, ((author41Opens policy config bars).filter fun pos =>
    pos.entryTs.date = date).length ≤ config.maxEntriesPerDay
  daily : ∀ row ∈ r.daily,
    row.pnlPoints = ((r.trades.filter fun trade => trade.exitTs.date = row.date).map
      Author41Trade.netPoints).sum
  rows : ∀ trade ∈ r.trades, ∃ row ∈ r.daily, row.date = trade.exitTs.date
  past : ∀ t, r.trades.filter (fun trade => trade.exitTs ≤ t) =
    (replayAuthor41 (upTo t bars) config policy).trades

namespace Author41Engine

variable {anchors : NaiveDate → Option DailyAnchor} {engine : Author41Engine}
  {bars : List ModelBar} {date : NaiveDate}

theorem entryTs_of_mem_opened {anchor : Option DailyAnchor} {bar : ModelBar}
    {pos : OpenAuthor41Position} (h : pos ∈ (engine.opened bar anchor).toList) :
    pos.entryTs = bar.tsLocal := entryTs_of_opened (Option.mem_toList.mp h)

theorem opens_sublist (engine : Author41Engine) (bars : List ModelBar) :
    ((opens anchors engine bars).map OpenAuthor41Position.entryTs).Sublist
      (bars.map ModelBar.tsLocal) := by
  induction bars generalizing engine with
  | nil => exact List.Sublist.refl _
  | cons bar bars ih =>
    rw [opens_cons, List.map_append]
    cases hopened : engine.opened bar (anchors bar.tsLocal.date) with
    | none => exact (ih _).cons _
    | some pos =>
      show (pos.entryTs :: _).Sublist (bar.tsLocal :: _)
      rw [entryTs_of_opened hopened]
      exact (ih _).cons_cons _

theorem currentDate_after_ne (hengine : engine.currentDate ≠ some date)
    (hbars : ∀ bar ∈ bars, bar.tsLocal.date ≠ date) :
    (engine.after anchors bars).currentDate ≠ some date := by
  induction bars generalizing engine with
  | nil => exact hengine
  | cons bar bars ih =>
    obtain ⟨hbar, hrest⟩ := List.forall_mem_cons.mp hbars
    refine ih ?_ hrest
    rw [currentDate_onBar]
    exact fun heq => hbar (Option.some.inj heq)

theorem config_after (engine : Author41Engine) (bars : List ModelBar) :
    (engine.after anchors bars).config = engine.config := by
  induction bars generalizing engine with
  | nil => rfl
  | cons bar bars ih => exact (ih _).trans (config_onBar engine bar _)

theorem Dated.after (h : engine.Dated) (bars : List ModelBar) :
    (engine.after anchors bars).Dated := by
  induction bars generalizing engine with
  | nil => exact h
  | cons bar bars ih => exact ih h.onBar

theorem currentDate_after (hengine : engine.currentDate = some date)
    (hbars : ∀ bar ∈ bars, bar.tsLocal.date = date) :
    (engine.after anchors bars).currentDate = some date := by
  induction bars generalizing engine with
  | nil => exact hengine
  | cons bar bars ih =>
    obtain ⟨rfl, hrest⟩ := List.forall_mem_cons.mp hbars
    exact ih currentDate_onBar hrest

theorem dated_startDate (h : engine.Dated) (date : NaiveDate) : (engine.startDate date).Dated := by
  intro pos hpos
  obtain ⟨hdate, hposition⟩ := position_startDate hpos
  rw [startDate_of_eq hdate]
  exact h pos hposition

/-- What an engine holds of a date after the bars up to its end, it holds after those of the date. -/
theorem filter_position_after (anchors : NaiveDate → Option DailyAnchor)
    (hengine : engine.Dated) (hdate : engine.currentDate ≠ some date)
    (hsorted : bars.Pairwise fun bar bar' => bar.tsLocal.date ≤ bar'.tsLocal.date) :
    (engine.after anchors (bars.filter fun bar => bar.tsLocal.date ≤ date)).position.filter
        (fun pos => pos.entryTs.date = date) =
      ((engine.startDate date).after anchors
        (bars.filter fun bar => bar.tsLocal.date = date)).position := by
  have hcut : (bars.filter fun bar => bar.tsLocal.date ≤ date).Pairwise fun bar bar' =>
      decide (bar'.tsLocal.date < date) = true → decide (bar.tsLocal.date < date) = true := by
    refine (hsorted.filter _).imp ?_
    intro bar bar' hle hbar'
    exact decide_eq_true (hle.trans_lt (of_decide_eq_true hbar'))
  -- the bars up to the end of the date are those before it and those of it
  have hsplit := Ascending.filter_append_filter_not hcut
  have htoday : (bars.filter fun bar => bar.tsLocal.date ≤ date).filter
      (fun bar => !decide (bar.tsLocal.date < date)) =
        bars.filter fun bar => bar.tsLocal.date = date := by
    rw [List.filter_filter]
    refine List.filter_congr ?_
    intro bar _
    rw [← decide_not, ← Bool.decide_and]
    exact decide_eq_decide.mpr ⟨fun h => le_antisymm h.2 (not_lt.mp h.1), fun h =>
      ⟨not_lt.mpr h.ge, h.le⟩⟩
  rw [htoday] at hsplit
  generalize hearly : ((bars.filter fun bar => bar.tsLocal.date ≤ date).filter
    fun bar => bar.tsLocal.date < date) = early at hsplit
  have hpast : ∀ bar ∈ early, bar.tsLocal.date ≠ date := by
    intro bar hbar
    rw [← hearly] at hbar
    exact (of_decide_eq_true (List.mem_filter.mp hbar).2 : bar.tsLocal.date < date).ne
  -- after the earlier bars the engine is not on the date
  have hleft : (engine.after anchors early).currentDate ≠ some date :=
    currentDate_after_ne hdate hpast
  have hdated : (engine.after anchors early).Dated := hengine.after early
  have hafter : engine.after anchors (bars.filter fun bar => bar.tsLocal.date ≤ date) =
      (engine.after anchors early).after anchors (bars.filter fun bar => bar.tsLocal.date = date) := by
    rw [← hsplit]
    exact List.foldl_append
  rw [hafter]
  have hdates : ∀ bar ∈ bars.filter (fun bar => bar.tsLocal.date = date),
      bar.tsLocal.date = date := fun bar hbar => of_decide_eq_true (List.mem_filter.mp hbar).2
  generalize bars.filter (fun bar => bar.tsLocal.date = date) = today at hdates ⊢
  cases today with
  | nil =>
    -- without a bar of the date nothing of it is held
    show (engine.after anchors early).position.filter _ = (engine.startDate date).position
    rw [startDate_of_ne hdate]
    refine Option.filter_eq_none_iff.mpr ?_
    intro pos hpos hentry
    rw [hdated pos hpos] at hleft
    exact hleft (congrArg some (of_decide_eq_true hentry))
  | cons bar rest =>
    obtain ⟨rfl, hrest⟩ := List.forall_mem_cons.mp hdates
    -- the first bar of the date starts the engine anew
    have hstart : (engine.after anchors early).startDate bar.tsLocal.date =
        engine.startDate bar.tsLocal.date := by
      rw [startDate_of_ne hleft, startDate_of_ne hdate, config_after]
    have hsame : (engine.after anchors early).after anchors (bar :: rest) =
        (engine.startDate bar.tsLocal.date).after anchors (bar :: rest) := by
      show after anchors (onBar _ bar _).1 rest = after anchors (onBar _ bar _).1 rest
      rw [← hstart, onBar_startDate]
    rw [hsame]
    have hcurrent : ((engine.startDate bar.tsLocal.date).after anchors (bar :: rest)).currentDate =
        some bar.tsLocal.date :=
      currentDate_after (currentDate_startDate engine bar.tsLocal.date) hdates
    have hdated' : ((engine.startDate bar.tsLocal.date).after anchors (bar :: rest)).Dated :=
      (dated_startDate hengine bar.tsLocal.date).after _
    cases hposition : ((engine.startDate bar.tsLocal.date).after anchors (bar :: rest)).position with
    | none => rfl
    | some pos =>
      refine Option.filter_eq_some_iff.mpr ⟨rfl, ?_⟩
      have hentry := (hdated' pos hposition).symm.trans hcurrent
      exact decide_eq_true (Option.some.inj hentry)

end Author41Engine

variable {trades : List Author41Trade}

theorem row_of_get? {session : List ModelBar} {date : NaiveDate} {row : Author41DailyPnl}
    (hget : (addAuthor41Trades (author41Rows session) trades).get? date = some row) :
    row.date = date ∧ row.pnlPoints = ((trades.filter fun trade => trade.exitTs.date = date).map
      Author41Trade.netPoints).sum := by
  unfold addAuthor41Trades at hget
  rw [OrderedMap.get?_addAll] at hget
  -- before the trades are added the row of a date is empty
  have hempty : ∀ row', (author41Rows session).get? date = some row' → row' = ⟨date, 0, 0⟩ := by
    intro row' hrow'
    unfold author41Rows at hrow'
    rw [OrderedMap.get?_addAll] at hrow'
    have hdates : ∀ bar ∈ session.filter (fun bar => bar.tsLocal.date = date),
        bar.tsLocal.date = date := fun bar hbar => of_decide_eq_true (List.mem_filter.mp hbar).2
    rcases List.eq_nil_or_concat (session.filter fun bar => bar.tsLocal.date = date) with
      hnil | ⟨front, last, hlast⟩
    · rw [hnil] at hrow'
      exact nomatch hrow'
    · rw [hlast, List.concat_eq_append] at hrow' hdates
      rw [List.foldl_append] at hrow'
      rw [← Option.some.inj hrow', hdates last (List.mem_append_right _ List.mem_cons_self)]
  have hdates : ∀ trade ∈ trades.filter (fun trade => trade.exitTs.date = date),
      trade.exitTs.date = date := fun trade h => of_decide_eq_true (List.mem_filter.mp h).2
  -- from a row of the date, or from none, the trades of the date are added up
  have hadd : ∀ (added : List Author41Trade) (start : Option Author41DailyPnl),
      (∀ trade ∈ added, trade.exitTs.date = date) → (∀ row', start = some row' → row'.date = date) →
      added.foldl (fun row trade => some (Author41DailyPnl.add row trade)) start = some row →
      row.date = date ∧ row.pnlPoints = (start.map Author41DailyPnl.pnlPoints).getD 0 +
          (added.map Author41Trade.netPoints).sum := by
    intro added
    induction added with
    | nil =>
      intro start _ hstart heq
      rw [List.foldl_nil] at heq
      rw [heq]
      exact ⟨hstart row heq, (add_zero _).symm⟩
    | cons trade added ih =>
      intro start hadded hstart heq
      obtain ⟨htrade, hrest⟩ := List.forall_mem_cons.mp hadded
      obtain ⟨hdate, hsum⟩ := ih _ hrest (by
        intro row' hrow'
        rw [← Option.some.inj hrow']
        cases start with
        | none => exact htrade
        | some row'' => exact hstart row'' rfl) heq
      refine ⟨hdate, ?_⟩
      rw [hsum, List.map_cons, List.sum_cons, ← add_assoc]
      cases start with
      | none => rfl
      | some row'' => rfl
  obtain ⟨hdate, hsum⟩ := hadd _ _ hdates (fun row' hrow' => by rw [hempty row' hrow']) hget
  refine ⟨hdate, ?_⟩
  rw [hsum]
  cases hstart : (author41Rows session).get? date with
  | none => exact zero_add _
  | some row' =>
    rw [hempty row' hstart]
    exact zero_add _

theorem exists_row_of_mem {session : List ModelBar} {trade : Author41Trade}
    (htrade : trade ∈ trades) :
    ∃ row ∈ (addAuthor41Trades (author41Rows session) trades).values,
      row.date = trade.exitTs.date := by
  have hsome : ((addAuthor41Trades (author41Rows session) trades).get? trade.exitTs.date).isSome =
      true := (OrderedMap.isSome_get?_addAll _ _ _ _).mpr (.inr ⟨trade, htrade, rfl⟩)
  obtain ⟨row, hrow⟩ := Option.isSome_iff_exists.mp hsome
  exact ⟨row, OrderedMap.mem_values.mpr ⟨_, hrow⟩, (row_of_get? hrow).1⟩

section Author41

open Author41Engine

variable {policy : RegularSessionPolicy} {config : Author41Config} {bars : List ModelBar}

theorem pairwise_date_modelBars (policy : RegularSessionPolicy) (bars : List ModelBar) :
    (modelBars policy bars).Pairwise fun bar bar' => bar.tsLocal.date ≤ bar'.tsLocal.date :=
  (pairwise_modelBars policy bars).imp NaiveDateTime.date_le

theorem currentDate_new (config : Author41Config) (date : NaiveDate) :
    (Author41Engine.new config).currentDate ≠ some date := nofun

abbrev dateStart (config : Author41Config) (date : NaiveDate) : Author41Engine :=
  (Author41Engine.new config).startDate date

theorem filter_opens (date : NaiveDate) :
    (author41Opens policy config bars).filter (fun pos => pos.entryTs.date = date) =
      opens (buildDailyAnchors (modelBars policy bars)).get? (dateStart config date)
        (barsOf policy bars date) := by
  refine filter_emits (fun pos : OpenAuthor41Position => pos.entryTs.date) ?_ ?_
    (pairwise_date_modelBars policy bars) fun h => absurd h (currentDate_new config date)
  · intro engine bar anchor pos hpos
    rw [entryTs_of_mem_opened hpos]
  · intro engine bar anchor
    unfold opened
    rw [onBar_startDate]

theorem filter_closes (date : NaiveDate) :
    (author41Closes policy config bars).filter (fun trade => trade.entryTs.date = date) =
      closes (buildDailyAnchors (modelBars policy bars)).get? (dateStart config date)
        (barsOf policy bars date) := by
  have hdates : (author41Closes policy config bars).filter (fun trade => trade.entryTs.date = date) =
      (author41Closes policy config bars).filter fun trade => trade.exitTs.date = date := by
    refine List.filter_congr ?_
    intro trade htrade
    rw [date_of_mem_author41Closes htrade]
  rw [hdates]
  refine filter_emits (fun trade : Author41Trade => trade.exitTs.date) ?_ ?_
    (pairwise_date_modelBars policy bars) fun h => absurd h (currentDate_new config date)
  · intro engine bar anchor trade htrade
    obtain ⟨_, _, _, _, _, rfl⟩ := mem_onBar htrade
    rfl
  · intro engine bar anchor
    rw [onBar_startDate]

theorem author41Accounts (hdistinct : (bars.map ModelBar.tsLocal).Nodup)
    (policy : RegularSessionPolicy) (config : Author41Config) :
    Author41Accounts policy config bars (replayAuthor41 bars config policy) := by
  have hstrict : ((modelBars policy bars).map ModelBar.tsLocal).Pairwise (· < ·) :=
    List.pairwise_map.mpr (pairwise_lt_modelBars hdistinct)
  have hnew := currentDate_new config
  have hbars : ∀ date, ∀ bar ∈ barsOf policy bars date, bar.tsLocal.date = date :=
    fun date bar hbar => (mem_barsOf.mp hbar).2
  rw [replayAuthor41_eq]
  refine ⟨?_, ?_, ?_, ?_, ?_, ?_, ?_, ?_⟩
  · exact hstrict.sublist (opens_sublist _ _)
  · intro date
    have hday := entries_day (buildDailyAnchors (modelBars policy bars)).get?
      (currentDate_startDate (.new config) date) (hbars date)
    -- what is left of a date is what its bars leave
    have hleft := filter_position_after (buildDailyAnchors (modelBars policy bars)).get?
      (dated_new config) (hnew date) (pairwise_date_modelBars policy bars)
    rw [filter_opens, filter_closes]
    unfold author41Left dateStart
    rw [startDate_of_ne (hnew date), hleft]
    exact hday
  · intro trade htrade
    have hsublist := sublist_of_mem_author41Closes htrade
    refine ⟨date_of_mem_author41Closes htrade, ?_, hsublist⟩
    exact List.rel_of_pairwise_cons (hstrict.sublist hsublist) List.mem_cons_self
  · exact pairwise_closes (pairwise_modelBars policy bars)
  · intro date
    rw [filter_opens]
    have hroom := length_opens_day (buildDailyAnchors (modelBars policy bars)).get?
      (currentDate_startDate (.new config) date) (hbars date)
    -- a day starts with no entries
    have hzero : ((Author41Engine.new config).startDate date).dayEntries = 0 := by
      rw [startDate_of_ne (hnew date)]
    rw [hzero] at hroom
    have hfits := hroom (Nat.zero_le _)
    rwa [Nat.zero_add] at hfits
  · intro row hrow
    obtain ⟨date, hget⟩ := OrderedMap.mem_values.mp hrow
    obtain ⟨rfl, hsum⟩ := row_of_get? hget
    exact hsum
  · exact fun trade htrade => exists_row_of_mem htrade
  · intro t
    rw [replayAuthor41_eq]
    exact closes_upTo hdistinct config t

end Author41

/-! ### Author42 -/

def opensOfDay (config : Author42Config) (bars : List ModelBar)
    (day : NaiveDate × ValueGroup ModelBar) : List OpenAuthor42Position :=
  match (buildAuthor42DailyContext (modelBars policy bars)).get? day.1 with
  | none => []
  | some ctx => dayOpens day.1 day.2 ctx config

def author42Opens (config : Author42Config) (bars : List ModelBar) : List OpenAuthor42Position :=
  (author42Days policy bars).entries.flatMap (opensOfDay policy config bars)

structure Author42Accounts (policy : RegularSessionPolicy) (config : Author42Config)
    (bars : List ModelBar) (r : Author42ReplayResult) : Prop where
  entries : (author42Opens policy config bars).map OpenAuthor42Position.entryTs =
    r.trades.map Author42Trade.entryTs
  within : ∀ trade ∈ r.trades, trade.entryTs.date = trade.exitTs.date ∧
    trade.entryTs ≤ trade.exitTs ∧
    (trade.entryTs = trade.exitTs → trade.exitReason = "time_exit_same_bar_close" ∨
      trade.exitReason = "forced_last_bar_close") ∧
    trade.entryTs ∈ (modelBars policy bars).map ModelBar.tsLocal ∧
    trade.exitTs ∈ (modelBars policy bars).map ModelBar.tsLocal
  order : r.trades.Pairwise fun a b => a.exitTs < b.entryTs
  room : ∀ maxEntries, config.maxEntriesPerDay = some maxEntries → ∀ date,
    ((author42Opens policy config bars).filter fun pos =>
      pos.entryTs.date = date).length ≤ maxEntries
  daily : ∀ row ∈ r.daily,
    row.pnlPoints = ((r.trades.filter fun trade => trade.exitTs.date = row.date).map
      Author42Trade.pnlPoints).sum
  rows : ∀ trade ∈ r.trades, ∃ row ∈ r.daily, row.date = trade.exitTs.date
  past : ∀ t, r.trades.filter (isFinal t) =
    (replayAuthor42 (upTo t bars) config policy).trades.filter (isFinal t)

section Author42

variable {policy : RegularSessionPolicy} {config : Author42Config} {bars : List ModelBar}
  {date : NaiveDate} {day : ValueGroup ModelBar}

theorem pairwise_lt_day (hdistinct : (bars.map ModelBar.tsLocal).Nodup)
    (hday : (date, day) ∈ (author42Days policy bars).entries) :
    (day.all.map ModelBar.tsLocal).Pairwise (· < ·) := by
  rw [mem_author42Days.mp hday]
  exact List.pairwise_map.mpr ((pairwise_lt_modelBars hdistinct).filter _)

theorem dayTrades_of_mem (hdistinct : (bars.map ModelBar.tsLocal).Nodup) (config : Author42Config)
    (hday : (date, day) ∈ (author42Days policy bars).entries) :
    DayTrades config (opensOfDay policy config bars (date, day))
      (tradesOfDay policy config bars (date, day)) := by
  unfold opensOfDay tradesOfDay replayAuthor42Day
  cases (buildAuthor42DailyContext (modelBars policy bars)).get? date with
  | none => exact .nil config
  | some ctx => exact dayTrades_runAuthor42Day date (pairwise_lt_day hdistinct hday) ctx config

theorem author42Accounts (hdistinct : (bars.map ModelBar.tsLocal).Nodup)
    (policy : RegularSessionPolicy) (config : Author42Config) :
    Author42Accounts policy config bars (replayAuthor42 bars config policy) := by
  -- each day is run by itself, and its trades are of its date
  have hdays : ∀ day ∈ (author42Days policy bars).entries,
      DayTrades config (opensOfDay policy config bars day) (tradesOfDay policy config bars day) ∧
      ∀ trade ∈ tradesOfDay policy config bars day,
        trade.entryTs.date = day.1 ∧ trade.exitTs.date = day.1 := by
    rintro ⟨date, day⟩ hday
    refine ⟨dayTrades_of_mem hdistinct config hday, ?_⟩
    obtain ⟨s, hbooks, htrades, _⟩ := books_of_mem config hday
    intro trade htrade
    rw [htrades] at htrade
    obtain ⟨bar, hbar, hentry⟩ := List.mem_map.mp (hbooks.entry trade htrade)
    obtain ⟨bar', hbar', hexit⟩ := List.mem_map.mp (hbooks.exit trade htrade)
    rw [← hentry, ← hexit]
    exact ⟨(mem_barsOf.mp hbar).2, (mem_barsOf.mp hbar').2⟩
  have htrades := trades_eq_flatMap config bars policy
  -- the trades that end on a date are those of its day
  have hrow : ∀ date day, (date, day) ∈ (author42Days policy bars).entries →
      (replayAuthor42 bars config policy).trades.filter (fun trade => trade.exitTs.date = date) =
        tradesOfDay policy config bars (date, day) := by
    intro date day hday
    have hkey : ∀ day ∈ (author42Days policy bars).entries,
        ∀ trade ∈ tradesOfDay policy config bars day, trade.exitTs.date = day.1 :=
      fun day hmem trade htrade => ((hdays day hmem).2 trade htrade).2
    rw [htrades, OrderedMap.filter_flatMap_entries hkey, OrderedMap.get?_eq_some.mpr hday]
    rfl
  refine ⟨?_, ?_, ?_, ?_, ?_, ?_, ?_⟩
  · unfold author42Opens
    rw [htrades, List.map_flatMap, List.map_flatMap]
    exact List.flatMap_congr fun day hday => (hdays day hday).1.entries
  · intro trade htrade
    refine ⟨date_of_mem_replayAuthor42 htrade, entry_le_exit_of_mem_replayAuthor42 htrade, ?_, ?_⟩
    · rw [htrades] at htrade
      obtain ⟨day, hday, hmem⟩ := List.mem_flatMap.mp htrade
      exact (hdays day hday).1.lasting trade hmem
    · obtain ⟨date, s, hbooks, hmem⟩ := exists_books_of_mem_replayAuthor42 htrade
      have hsession : ((barsOf policy bars date).map ModelBar.tsLocal).Sublist
          ((modelBars policy bars).map ModelBar.tsLocal) := List.filter_sublist.map _
      exact ⟨hsession.subset (hbooks.entry trade hmem), hsession.subset (hbooks.exit trade hmem)⟩
  · rw [htrades]
    refine List.pairwise_flatMap.mpr ⟨fun day hday => (hdays day hday).1.apart, ?_⟩
    -- days come in the order of their dates
    refine (author42Days policy bars).sorted.imp_of_mem ?_
    intro day day' hday hday' hlt a ha b hb
    refine lt_of_date_lt ?_
    rw [((hdays day hday).2 a ha).2, ((hdays day' hday').2 b hb).1]
    exact hlt
  · intro maxEntries hmax date
    -- what a day opens is of its date
    have hkey : ∀ day ∈ (author42Days policy bars).entries,
        ∀ pos ∈ opensOfDay policy config bars day, pos.entryTs.date = day.1 := by
      intro day hday pos hpos
      have hentry := List.mem_map_of_mem (f := OpenAuthor42Position.entryTs) hpos
      rw [(hdays day hday).1.entries] at hentry
      obtain ⟨trade, htrade, hsame⟩ := List.mem_map.mp hentry
      rw [← hsame]
      exact ((hdays day hday).2 trade htrade).1
    unfold author42Opens
    rw [OrderedMap.filter_flatMap_entries hkey]
    cases hday : (author42Days policy bars).get? date with
    | none => exact Nat.zero_le _
    | some day =>
      exact (hdays _ (OrderedMap.get?_eq_some.mp hday)).1.room maxEntries hmax
  · intro row hmem
    obtain ⟨_, hmem', rfl⟩ := List.mem_map.mp hmem
    obtain ⟨⟨date, day⟩, hday, rfl⟩ := List.mem_map.mp hmem'
    obtain ⟨s, hbooks, hsame, skipped, heq⟩ := books_of_mem config hday
    rw [heq]
    show s.pnl = ((List.filter (fun trade : Author42Trade => trade.exitTs.date = date) _).map _).sum
    rw [hrow date day hday, hsame, hbooks.pnl]
  · intro trade htrade
    have hdate := htrade
    rw [htrades] at hdate
    obtain ⟨⟨date, day⟩, hday, hmem⟩ := List.mem_flatMap.mp hdate
    obtain ⟨s, hbooks, hsame, skipped, heq⟩ := books_of_mem config hday
    refine ⟨_, List.mem_map_of_mem (List.mem_map_of_mem hday), ?_⟩
    rw [heq]
    exact ((hdays _ hday).2 trade hmem).2.symm
  · exact trades_upTo hdistinct config

end Author42

/-- Over bars of distinct times, for any session and configurations: each position of Author42 has
one trade, and each of Author41 has one unless it is left at the end of its date; the trades come in
order, the days have room for what they open, the rows add up, and what is closed for good by some
time does not depend on later bars. -/
theorem accounts_every_entry {bars : List ModelBar}
    (hdistinct : (bars.map ModelBar.tsLocal).Nodup) (policy : RegularSessionPolicy)
    (config41 : Author41Config) (config42 : Author42Config) :
    Author41Accounts policy config41 bars (replayAuthor41 bars config41 policy) ∧
      Author42Accounts policy config42 bars (replayAuthor42 bars config42 policy) :=
  ⟨author41Accounts hdistinct policy config41, author42Accounts hdistinct policy config42⟩

namespace Sample

def session : RegularSessionPolicy := ⟨.fromHms 9 0 0, .fromHms 23 50 0, true⟩

def bar (day hour minute : ℕ) (close : ℚ) : ModelBar :=
  ⟨⟨.fromYmd 2026 3 day, .fromHms hour minute 0⟩, close, close + 2, close - 2, close, 1⟩

/-- Two days with one bar each, and a third one with a breakout in its second hour. -/
def bars : List ModelBar :=
  [bar 2 10 0 100, bar 3 10 0 (1001 / 10)] ++
    ([0, 10, 20, 30, 40, 50].map fun minute => bar 4 9 minute 100) ++
    [bar 4 10 50 103, bar 4 11 0 103]

end Sample

open Sample in
theorem accounts_every_entry_sample :
    (Sample.bars.map ModelBar.tsLocal).Nodup ∧
      Author41Accounts session .riPlateauShortSource Sample.bars
        (replayAuthor41 Sample.bars .riPlateauShortSource session) ∧
      Author42Accounts session .riGridK042Both Sample.bars
        (replayAuthor42 Sample.bars .riGridK042Both session) := by
  have hdistinct : (Sample.bars.map ModelBar.tsLocal).Nodup := by decide +kernel
  exact ⟨hdistinct, accounts_every_entry hdistinct session .riPlateauShortSource .riGridK042Both⟩

open Sample in
/-- With the configurations of the RI profile: Author41 opens a position at the only bar of a date
and has no trade of it; Author42 enters and leaves at one bar, and the same bars with one more after
them show the trade with another exit. -/
theorem accounts_not_every_entry :
    (author41Opens session .riPlateauShortSource Sample.bars).map OpenAuthor41Position.entryTs =
        [(Sample.bar 3 10 0 0).tsLocal] ∧
      (replayAuthor41 Sample.bars .riPlateauShortSource session).trades = [] ∧
      (replayAuthor42 Sample.bars .riGridK042Both session).trades.map
          (fun trade => (trade.entryTs, trade.exitTs)) =
        [((Sample.bar 4 11 0 0).tsLocal, (Sample.bar 4 11 0 0).tsLocal)] ∧
      (replayAuthor42 (Sample.bars ++ [Sample.bar 4 11 10 103]) .riGridK042Both
          session).trades.map (fun trade => (trade.entryTs, trade.exitTs)) =
        [((Sample.bar 4 11 0 0).tsLocal, (Sample.bar 4 11 10 0).tsLocal)] := by
  decide +kernel

end AlorRs.MoexAuthor4142
