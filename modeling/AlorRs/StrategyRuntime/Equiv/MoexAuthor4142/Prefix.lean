import AlorRs.StrategyRuntime.Equiv.MoexAuthor4142.Author42

/-!
# Trades and later bars

The trades that a replay has closed by some time are those of a replay of the bars up to that time:
all of them for Author41 (`closes_upTo`), and for Author42 all but those that are closed by force on
the date of that time (`trades_upTo`).

The anchor and the context of a date are made from the statistics of the dates before it
(`get?_buildDailyAnchors`, `get?_buildAuthor42DailyContext`), so they do not depend on bars of the
date itself or of later dates, but for the fact that there are bars on the date.
-/

namespace AlorRs.MoexAuthor4142

variable {date : NaiveDate}

section Days

open OrderedMap

/-! ### Statistics -/

variable (bars : List ModelBar)

def barsBefore (date : NaiveDate) : List ModelBar :=
  bars.filter fun bar => bar.tsLocal.date < date

def HasBars (date : NaiveDate) : Prop :=
  ∃ bar ∈ bars, bar.tsLocal.date = date

instance (bars : List ModelBar) (date : NaiveDate) : Decidable (HasBars bars date) :=
  inferInstanceAs (Decidable (∃ bar ∈ bars, bar.tsLocal.date = date))

theorem entries_dayStats_before (date : NaiveDate) :
    (dayStats bars).entries.filter (fun day => day.1 < date) =
      (dayStats (barsBefore bars date)).entries :=
  filter_entries_addAll _ _ bars fun day => day < date

variable {bars : List ModelBar}

theorem isSome_dayStats : ((dayStats bars).get? date).isSome = true ↔ HasBars bars date := by
  unfold dayStats
  rw [isSome_get?_addAll]
  simp [HasBars]

/-! ### Anchors -/

def anchorAfter (days : List (NaiveDate × DayStats)) : Option DailyAnchor :=
  days.getLast?.map fun day => .ofStats day.2

theorem scans_addAnchor :
    Scans Prod.fst addAnchor (empty, none) anchorAfter where
  empty_start := rfl
  insert_step := by
    intro before day
    have hprev : (before.foldl addAnchor (empty, none)).2 = before.getLast?.map Prod.snd := by
      rcases List.eq_nil_or_concat before with rfl | ⟨front, last, rfl⟩
      · rfl
      · rw [List.concat_eq_append, List.foldl_append, List.getLast?_concat]
        show (addAnchor _ last).2 = some last.2
        unfold addAnchor
        split <;> rfl
    generalize before.foldl addAnchor (empty, none) = acc at hprev ⊢
    unfold addAnchor anchorAfter
    rw [hprev]
    cases before.getLast? with
    | none => rfl
    | some last => rfl

theorem get?_buildDailyAnchors (date : NaiveDate) :
    (buildDailyAnchors bars).get? date =
      if HasBars bars date then anchorAfter (dayStats (barsBefore bars date)).entries else none := by
  unfold buildDailyAnchors
  rw [scans_addAnchor.get?_eq, entries_dayStats_before]
  exact if_congr isSome_dayStats rfl rfl

variable {bars' : List ModelBar}

theorem get?_buildDailyAnchors_congr (hbefore : barsBefore bars date = barsBefore bars' date)
    (hbars : HasBars bars date ↔ HasBars bars' date) :
    (buildDailyAnchors bars).get? date = (buildDailyAnchors bars').get? date := by
  rw [get?_buildDailyAnchors, get?_buildDailyAnchors, hbefore]
  exact if_congr hbars rfl rfl

/-! ### Contexts -/

def contextAfter : List (NaiveDate × DayStats) → Option Author42DailyContext
  | prev :: prev2 :: _ => some (.ofStats prev.2 prev2.2.close)
  | _ => none

theorem scans_addDay : Scans Author42Contexts.contexts Author42Contexts.addDay ⟨empty, none, none⟩
    (fun before => contextAfter before.reverse) where
  empty_start := rfl
  insert_step := by
    intro before day
    have hprev : ∀ before : List (NaiveDate × DayStats),
        (before.foldl Author42Contexts.addDay ⟨empty, none, none⟩).prev =
          before.reverse.head?.map Prod.snd := by
      intro before
      rcases List.eq_nil_or_concat before with rfl | ⟨front, last, rfl⟩
      · rfl
      · rw [List.concat_eq_append, List.foldl_append, List.reverse_append]
        rfl
    have hprev2 : (before.foldl Author42Contexts.addDay ⟨empty, none, none⟩).prev2Close =
        before.reverse.tail.head?.map fun day => day.2.close := by
      rcases List.eq_nil_or_concat before with rfl | ⟨front, last, rfl⟩
      · rfl
      · rw [List.concat_eq_append, List.foldl_append, List.reverse_append]
        show (Author42Contexts.prev _).map DayStats.close = _
        rw [hprev front, Option.map_map]
        rfl
    have hlast := hprev before
    generalize before.foldl Author42Contexts.addDay ⟨empty, none, none⟩ = c at hlast hprev2 ⊢
    unfold Author42Contexts.addDay
    rw [hlast, hprev2]
    rcases before.reverse with _ | ⟨prev, _ | ⟨prev2, rest⟩⟩ <;> rfl

theorem get?_buildAuthor42DailyContext (date : NaiveDate) :
    (buildAuthor42DailyContext bars).get? date = if HasBars bars date then
        contextAfter (dayStats (barsBefore bars date)).entries.reverse
      else none := by
  unfold buildAuthor42DailyContext
  rw [scans_addDay.get?_eq, entries_dayStats_before]
  exact if_congr isSome_dayStats rfl rfl

theorem get?_buildAuthor42DailyContext_congr
    (hbefore : barsBefore bars date = barsBefore bars' date)
    (hbars : HasBars bars date ↔ HasBars bars' date) :
    (buildAuthor42DailyContext bars).get? date = (buildAuthor42DailyContext bars').get? date := by
  rw [get?_buildAuthor42DailyContext, get?_buildAuthor42DailyContext, hbefore]
  exact if_congr hbars rfl rfl

end Days

def upTo (t : NaiveDateTime) (bars : List ModelBar) : List ModelBar :=
  bars.filter fun bar => bar.tsLocal ≤ t

variable {policy : RegularSessionPolicy} {bars : List ModelBar} {t : NaiveDateTime}

/-! ### The bars of the session -/

theorem lt_of_date_lt {a b : NaiveDateTime} (h : a.date < b.date) : a < b :=
  not_le.mp fun hle => absurd (NaiveDateTime.date_le hle) h.not_ge

/-- Bars of distinct times come strictly one after the other. -/
theorem pairwise_lt_modelBars (hdistinct : (bars.map ModelBar.tsLocal).Nodup) :
    (modelBars policy bars).Pairwise fun bar bar' => bar.tsLocal < bar'.tsLocal := by
  have hperm : (modelBars policy bars).Perm (bars.filter fun bar => policy.isModelBar bar.tsLocal) :=
    List.perm_insertionSort _ _
  have hnodup : ((modelBars policy bars).map ModelBar.tsLocal).Nodup := by
    rw [(hperm.map _).nodup_iff]
    exact hdistinct.sublist (List.filter_sublist.map _)
  have hne : (modelBars policy bars).Pairwise fun bar bar' => bar.tsLocal ≠ bar'.tsLocal :=
    List.pairwise_map.mp hnodup
  exact (pairwise_modelBars policy bars).imp₂ (fun _ _ hle hne => lt_of_le_of_ne hle hne) hne

theorem modelBars_upTo (hdistinct : (bars.map ModelBar.tsLocal).Nodup) (t : NaiveDateTime) :
    modelBars policy (upTo t bars) = upTo t (modelBars policy bars) := by
  have hdistinct' : ((upTo t bars).map ModelBar.tsLocal).Nodup :=
    hdistinct.sublist (List.filter_sublist.map _)
  refine Ascending.eq_of_mem_iff (pairwise_lt_modelBars hdistinct')
    ((pairwise_lt_modelBars hdistinct).filter _) ?_
  intro bar
  unfold upTo
  rw [mem_modelBars, List.mem_filter, List.mem_filter, mem_modelBars]
  tauto

theorem upTo_append (hsorted : bars.Pairwise fun bar bar' => bar.tsLocal ≤ bar'.tsLocal)
    (t : NaiveDateTime) : upTo t bars ++ bars.filter (fun bar => t < bar.tsLocal) = bars := by
  have hcut : bars.Pairwise fun bar bar' => decide (bar'.tsLocal ≤ t) = true →
      decide (bar.tsLocal ≤ t) = true := by
    refine hsorted.imp ?_
    intro bar bar' hle hbar'
    exact decide_eq_true (hle.trans (of_decide_eq_true hbar'))
  have hnot : bars.filter (fun bar => t < bar.tsLocal) =
      bars.filter fun bar => !decide (bar.tsLocal ≤ t) := by
    refine List.filter_congr ?_
    intro bar _
    rw [← decide_not]
    exact decide_eq_decide.mpr not_le.symm
  rw [hnot]
  exact Ascending.filter_append_filter_not hcut

/-- The days before a bar lie before any later time. -/
theorem barsBefore_upTo (hdate : date ≤ t.date) :
    barsBefore (upTo t bars) date = barsBefore bars date := by
  unfold barsBefore upTo
  rw [List.filter_filter]
  refine List.filter_congr ?_
  intro bar _
  by_cases hbefore : bar.tsLocal.date < date
  · have hle : bar.tsLocal ≤ t := (lt_of_date_lt (hbefore.trans_le hdate)).le
    simp [hbefore, hle]
  · simp [hbefore]

/-! ### Author41 -/

theorem closes_upTo (hdistinct : (bars.map ModelBar.tsLocal).Nodup) (config : Author41Config)
    (t : NaiveDateTime) :
    (author41Closes policy config bars).filter (fun trade => trade.exitTs ≤ t) =
      author41Closes policy config (upTo t bars) := by
  have hsorted := pairwise_modelBars policy bars
  unfold author41Closes
  rw [modelBars_upTo hdistinct]
  generalize modelBars policy bars = session at hsorted ⊢
  have hsplit := upTo_append hsorted t
  -- the anchor of a bar up to the time is made from earlier dates
  have hanchors : ∀ bar ∈ upTo t session, (buildDailyAnchors session).get? bar.tsLocal.date =
      (buildDailyAnchors (upTo t session)).get? bar.tsLocal.date := by
    intro bar hbar
    have hle : bar.tsLocal ≤ t := of_decide_eq_true (List.mem_filter.mp hbar).2
    refine get?_buildDailyAnchors_congr (barsBefore_upTo (NaiveDateTime.date_le hle)).symm ?_
    exact ⟨fun _ => ⟨bar, hbar, rfl⟩, fun _ => ⟨bar, List.mem_of_mem_filter hbar, rfl⟩⟩
  -- a trade closes with one of the bars of its run
  have hexit : ∀ engine bars', ∀ trade ∈ Author41Engine.closes (buildDailyAnchors session).get?
      engine bars', ∃ bar ∈ bars', trade.exitTs = bar.tsLocal := by
    intro engine bars' trade htrade
    obtain ⟨_, bar, hbar, hmem⟩ := Author41Engine.mem_emits htrade
    obtain ⟨_, _, _, _, _, rfl⟩ := Author41Engine.mem_onBar hmem
    exact ⟨bar, hbar, rfl⟩
  have hclosed : ∀ anchors : NaiveDate → Option DailyAnchor,
      Author41Engine.closes anchors (.new config) session =
        Author41Engine.closes anchors (.new config) (upTo t session) ++
          Author41Engine.closes anchors
            (Author41Engine.after anchors (.new config) (upTo t session))
            (session.filter fun bar => t < bar.tsLocal) := by
    intro anchors
    conv_lhs => rw [← hsplit]
    exact Author41Engine.emits_append _ _ _
  -- the bars up to the time close what has closed by then
  have hearly : (Author41Engine.closes (buildDailyAnchors session).get? (.new config)
      (upTo t session)).filter (fun trade => trade.exitTs ≤ t) =
        Author41Engine.closes (buildDailyAnchors session).get? (.new config) (upTo t session) := by
    refine List.filter_eq_self.mpr ?_
    intro trade htrade
    obtain ⟨bar, hbar, hts⟩ := hexit _ _ trade htrade
    rw [hts]
    exact (List.mem_filter.mp hbar).2
  -- the bars after it close later
  have hlate : ∀ engine, (Author41Engine.closes (buildDailyAnchors session).get? engine
      (session.filter fun bar => t < bar.tsLocal)).filter (fun trade => trade.exitTs ≤ t) = [] := by
    intro engine
    refine List.filter_eq_nil_iff.mpr ?_
    intro trade htrade
    obtain ⟨bar, hbar, hts⟩ := hexit _ _ trade htrade
    rw [hts]
    have hlt : t < bar.tsLocal := of_decide_eq_true (List.mem_filter.mp hbar).2
    simpa using hlt
  rw [hclosed, List.filter_append, hearly, hlate, List.append_nil]
  exact Author41Engine.emits_congr hanchors _

/-! ### A day of Author42 and the bar after the last -/

open Author42Day

def dayBarsTo (next : Option ModelBar) : ℕ → List ModelBar → List DayBar
  | _, [] => []
  | index, bar :: rest => ⟨index, bar, rest.head?.or next⟩ :: dayBarsTo next (index + 1) rest

variable (next : Option ModelBar) (index : ℕ)

theorem dayBarsTo_append (part later : List ModelBar) :
    dayBarsTo next index (part ++ later) = dayBarsTo (later.head?.or next) index part ++
        dayBarsTo next (index + part.length) later := by
  induction part generalizing index with
  | nil => rfl
  | cons bar part ih =>
    show (⟨index, bar, (part ++ later).head?.or next⟩ : DayBar) ::
        dayBarsTo next (index + 1) (part ++ later) =
      ⟨index, bar, part.head?.or (later.head?.or next)⟩ :: (dayBarsTo _ (index + 1) part ++
        dayBarsTo next (index + (part.length + 1)) later)
    rw [ih, List.head?_append, Option.or_assoc, Nat.add_right_comm, Nat.add_assoc]

theorem dayBars_eq (day : List ModelBar) : dayBars index day = dayBarsTo none index day := by
  induction day generalizing index with
  | nil => rfl
  | cons bar day ih =>
    show (⟨index, bar, day.head?⟩ : DayBar) :: dayBars (index + 1) day = ⟨index, bar, day.head?.or none⟩ ::
      dayBarsTo none (index + 1) day
    rw [ih, Option.or_none]

theorem map_dayBarsTo (day : List ModelBar) : (dayBarsTo next index day).map DayBar.bar = day := by
  induction day generalizing index with
  | nil => rfl
  | cons bar day ih => exact congrArg (bar :: ·) (ih (index + 1))

theorem index_lt_of_mem {next : Option ModelBar} {index : ℕ} {day : List ModelBar} {b : DayBar}
    (hb : b ∈ dayBarsTo next index day) : b.index < index + day.length := by
  induction day generalizing index with
  | nil => exact absurd hb List.not_mem_nil
  | cons bar day ih =>
    rw [List.length_cons]
    rcases List.mem_cons.mp hb with rfl | hlater
    · show index < _
      omega
    · have hlt := ih hlater
      omega

theorem over_next (plan : Author42DayPlan) (s : Author42Day) (part : List ModelBar)
    (next next' : Option ModelBar) (index : ℕ) :
    ((dayBarsTo next index part).foldl (Author42Day.onBar plan) s).trades =
      ((dayBarsTo next' index part).foldl (Author42Day.onBar plan) s).trades := by
  rcases List.eq_nil_or_concat part with rfl | ⟨front, last, rfl⟩
  · rfl
  · rw [List.concat_eq_append, dayBarsTo_append, dayBarsTo_append, List.foldl_append,
      List.foldl_append]
    show (Author42Day.onBar plan _ ⟨_, last, _⟩).trades = (Author42Day.onBar plan _ ⟨_, last, _⟩).trades
    rw [(signals_onBar _ plan _).trades, (signals_onBar _ plan _).trades]
    rfl

abbrev fullPlan (ctx : Author42DailyContext) (config : Author42Config) (firstBar : ModelBar) :
    Author42DayPlan := dayPlan ctx config firstBar 6

variable (ctx : Author42DailyContext) (config : Author42Config)

/-- The number of the bars of a day is not known before its end. -/
theorem onBar_dayPlan (firstBar : ModelBar) {length : ℕ} (s : Author42Day) {b : DayBar}
    (hb : b.index < length) :
    s.onBar (dayPlan ctx config firstBar length) b = s.onBar (fullPlan ctx config firstBar) b := by
  have hlevels : ∀ m : Author42Day, m.setLevels (dayPlan ctx config firstBar length) b =
      m.setLevels (fullPlan ctx config firstBar) b := by
    intro m
    have hfirst : (some b.index = if 6 ≤ length then some 5 else none) ↔ some b.index = some 5 := by
      split_ifs with hlength
      · rfl
      · constructor
        · intro h
          exact nomatch h
        · intro h
          have hindex := Option.some.inj h
          omega
    exact if_congr hfirst rfl rfl
  have hmanage : ∀ m : Author42Day, m.manage (dayPlan ctx config firstBar length) b.bar =
      m.manage (fullPlan ctx config firstBar) b.bar := fun _ => rfl
  have hsignal : ∀ m : Author42Day, m.entrySignal (dayPlan ctx config firstBar length) b =
      m.entrySignal (fullPlan ctx config firstBar) b := fun _ => rfl
  unfold Author42Day.onBar
  simp only [hmanage, hlevels, hsignal]
  rfl

theorem dayEnd_eq (day : ValueGroup ModelBar) :
    dayEnd ctx config day =
      (dayBarsTo none 0 day.all).foldl (Author42Day.onBar (fullPlan ctx config day.first)) .start := by
  unfold dayEnd
  rw [dayBars_eq]
  have hindex : ∀ b ∈ dayBarsTo none 0 day.all, b.index < day.all.length := by
    intro b hb
    have hlt := index_lt_of_mem hb
    omega
  generalize Author42Day.start = s
  generalize dayBarsTo none 0 day.all = bars at hindex
  induction bars generalizing s with
  | nil => rfl
  | cons b bars ih =>
    obtain ⟨hb, hbars⟩ := List.forall_mem_cons.mp hindex
    rw [List.foldl_cons, List.foldl_cons, onBar_dayPlan ctx config day.first s hb]
    exact ih _ hbars

/-! ### Author42 -/

def isFinal (t : NaiveDateTime) (trade : Author42Trade) : Bool :=
  trade.exitTs ≤ t &&
    !(trade.exitReason = "forced_last_bar_close" && trade.exitTs.date = t.date)

/-- The trades that a day closes by force after a time, or on its date, do not count. -/
theorem filter_isFinal_forceClose {s : Author42Day} {last : ModelBar}
    (hlast : t < last.tsLocal ∨ last.tsLocal.date = t.date) (config : Author42Config) :
    (s.forceClose config last).trades.filter (isFinal t) = s.trades.filter (isFinal t) := by
  unfold Author42Day.forceClose
  cases s.pos with
  | none => rfl
  | some pos =>
    show (s.trades ++ [_]).filter (isFinal t) = _
    rw [List.filter_append, List.filter_singleton]
    have hopen : isFinal t (closeAuthor42Position pos last.tsLocal last.close "forced_last_bar_close"
        config.roundtripCostPoints) = false := by
      rcases hlast with hlate | hdate
      · simp [isFinal, closeAuthor42Position, not_le.mpr hlate]
      · simp [isFinal, closeAuthor42Position, hdate]
    rw [hopen]
    exact List.append_nil _

/-- Of a day, what is final by a time does not depend on later bars. -/
theorem runAuthor42Day_upTo {day day' : ValueGroup ModelBar}
    (hsorted : (day.all.map ModelBar.tsLocal).Pairwise (· < ·))
    (hdate : ∀ bar ∈ day.all, bar.tsLocal.date = date) (hday : day'.all = upTo t day.all)
    (ctx : Author42DailyContext) (config : Author42Config) :
    (runAuthor42Day date day ctx config).1.filter (isFinal t) =
      (runAuthor42Day date day' ctx config).1.filter (isFinal t) := by
  have hsplit := upTo_append ((List.pairwise_map.mp hsorted).imp le_of_lt) t
  rw [← hday] at hsplit
  generalize hlater : day.all.filter (fun bar => t < bar.tsLocal) = later at hsplit
  by_cases hnone : later = []
  · -- the whole day is over by then
    have hsame : day' = day := by
      rw [hnone, List.append_nil] at hsplit
      cases day
      cases day'
      obtain ⟨rfl, rfl⟩ := List.cons.inj hsplit
      rfl
    rw [hsame]
  · have hafter : ∀ bar ∈ later, t < bar.tsLocal := by
      intro bar hbar
      rw [← hlater] at hbar
      exact of_decide_eq_true (List.mem_filter.mp hbar).2
    have hbefore : ∀ bar ∈ day'.all, bar.tsLocal ≤ t := by
      intro bar hbar
      rw [hday] at hbar
      exact of_decide_eq_true (List.mem_filter.mp hbar).2
    -- so the time is one of this date
    have htoday : t.date = date := by
      obtain ⟨bar, hbar⟩ := List.exists_mem_of_ne_nil later hnone
      have hbar' : bar ∈ day.all := by
        rw [← hsplit]
        exact List.mem_append_right _ hbar
      have hfirst : day'.first ∈ day'.all := List.mem_cons_self
      have hfirst' : day'.first ∈ day.all := by
        rw [← hsplit]
        exact List.mem_append_left _ hfirst
      refine le_antisymm ?_ ?_
      · rw [← hdate bar hbar']
        exact NaiveDateTime.date_le (hafter bar hbar).le
      · rw [← hdate _ hfirst']
        exact NaiveDateTime.date_le (hbefore _ hfirst)
    -- the first bar is the same, and with it the plan of the day
    have hsame : day'.first = day.first := by
      have hhead := congrArg List.head? hsplit
      exact Option.some.inj hhead
    unfold runAuthor42Day
    cases skipReason date ctx config with
    | some reason => rfl
    | none =>
      show ((dayEnd ctx config day).forceClose config day.last).trades.filter (isFinal t) =
        ((dayEnd ctx config day').forceClose config day'.last).trades.filter (isFinal t)
      -- the day goes on after the time
      have hlast : t < day.last.tsLocal := by
        obtain ⟨bar, hbar⟩ := List.exists_mem_of_ne_nil later hnone
        have hmem : bar.tsLocal ∈ day.all.map ModelBar.tsLocal := by
          rw [← hsplit]
          exact List.mem_map_of_mem (List.mem_append_right _ hbar)
        exact (hafter bar hbar).trans_le (last_of_pairwise (hsorted.imp le_of_lt) _ hmem)
      have hlast' : day'.last.tsLocal.date = t.date := by
        have hmem : day'.last ∈ day.all := by
          rw [← hsplit]
          exact List.mem_append_left _ day'.last_mem
        rw [htoday, hdate _ hmem]
      rw [filter_isFinal_forceClose (.inl hlast), filter_isFinal_forceClose (.inr hlast'),
        dayEnd_eq, dayEnd_eq, hsame, ← hsplit, dayBarsTo_append, List.foldl_append]
      -- the later bars only add trades
      obtain ⟨closed, htrades, hexits⟩ := adds_over (fullPlan ctx config day.first)
        ((dayBarsTo (later.head?.or none) 0 day'.all).foldl
          (Author42Day.onBar (fullPlan ctx config day.first)) .start)
        (dayBarsTo none (0 + day'.all.length) later)
      -- and none of these is final by the time
      have hopen : closed.filter (isFinal t) = [] := by
        refine List.filter_eq_nil_iff.mpr ?_
        intro trade htrade
        obtain ⟨b, hb, hts⟩ := List.mem_map.mp (hexits trade htrade)
        have hbar : b.bar ∈ later := by
          have hmem := List.mem_map_of_mem (f := DayBar.bar) hb
          rwa [map_dayBarsTo] at hmem
        have hlt := hafter b.bar hbar
        rw [hts] at hlt
        simp [isFinal, hlt]
      rw [htrades, List.filter_append, hopen, List.append_nil,
        over_next _ _ _ (later.head?.or none) none]

theorem barsOf_upTo (hdistinct : (bars.map ModelBar.tsLocal).Nodup) (date : NaiveDate) :
    barsOf policy (upTo t bars) date = upTo t (barsOf policy bars date) := by
  unfold barsOf
  rw [modelBars_upTo hdistinct]
  unfold upTo
  rw [List.filter_filter, List.filter_filter]
  refine List.filter_congr ?_
  intro bar _
  exact Bool.and_comm _ _

theorem get?_author42Days (policy : RegularSessionPolicy) (bars : List ModelBar)
    (date : NaiveDate) :
    (author42Days policy bars).get? date = ValueGroup.ofList (barsOf policy bars date) := by
  cases hgroup : ValueGroup.ofList (barsOf policy bars date) with
  | none =>
    refine OrderedMap.get?_eq_none.mpr ?_
    rintro ⟨date', day⟩ hmem rfl
    have hall := mem_author42Days.mp hmem
    rw [ValueGroup.ofList_eq_some.mpr hall] at hgroup
    exact nomatch hgroup
  | some day =>
    exact OrderedMap.get?_eq_some.mpr (mem_author42Days.mpr (ValueGroup.ofList_eq_some.mp hgroup))

/-- What Author42 has closed for good by a time does not depend on later bars. -/
theorem trades_upTo (hdistinct : (bars.map ModelBar.tsLocal).Nodup) (config : Author42Config)
    (t : NaiveDateTime) :
    (replayAuthor42 bars config policy).trades.filter (isFinal t) =
      (replayAuthor42 (upTo t bars) config policy).trades.filter (isFinal t) := by
  rw [trades_eq_flatMap, trades_eq_flatMap, List.filter_flatMap, List.filter_flatMap]
  refine OrderedMap.flatMap_entries_congr ?_
  intro date
  rw [get?_author42Days, get?_author42Days, barsOf_upTo hdistinct]
  cases hpart : ValueGroup.ofList (upTo t (barsOf policy bars date)) with
  | none =>
    -- no bar of the date has come yet
    have hempty : upTo t (barsOf policy bars date) = [] := by
      cases hbars : upTo t (barsOf policy bars date) with
      | nil => rfl
      | cons bar rest =>
        rw [hbars] at hpart
        exact nomatch hpart
    cases hday : ValueGroup.ofList (barsOf policy bars date) with
    | none => rfl
    | some day =>
      have hall := ValueGroup.ofList_eq_some.mp hday
      refine List.filter_eq_nil_iff.mpr ?_
      intro trade htrade
      obtain ⟨s, hbooks, htrades, _⟩ := books_of_mem config (mem_author42Days.mpr hall)
      obtain ⟨bar, hbar, hts⟩ := List.mem_map.mp (hbooks.exit trade (htrades ▸ htrade))
      have hlate := List.filter_eq_nil_iff.mp hempty bar hbar
      rw [decide_eq_true_iff, hts, not_le] at hlate
      simp [isFinal, hlate]
  | some day' =>
    have hall' := ValueGroup.ofList_eq_some.mp hpart
    have hmem : day'.first ∈ upTo t (barsOf policy bars date) := by
      rw [← hall']
      exact List.mem_cons_self
    obtain ⟨hfirst, hle⟩ := List.mem_filter.mp hmem
    cases hday : ValueGroup.ofList (barsOf policy bars date) with
    | none =>
      cases hbars : barsOf policy bars date with
      | nil =>
        rw [hbars] at hfirst
        exact absurd hfirst List.not_mem_nil
      | cons bar rest =>
        rw [hbars] at hday
        exact nomatch hday
    | some day =>
      have hall := ValueGroup.ofList_eq_some.mp hday
      obtain ⟨hsession, hdate⟩ := mem_barsOf.mp hfirst
      -- the context of the date is made from the days before it
      have hctx : (buildAuthor42DailyContext (modelBars policy bars)).get? date =
          (buildAuthor42DailyContext (modelBars policy (upTo t bars))).get? date := by
        rw [modelBars_upTo hdistinct]
        have hbefore : date ≤ t.date := by
          rw [← hdate]
          exact NaiveDateTime.date_le (of_decide_eq_true hle)
        refine get?_buildAuthor42DailyContext_congr (barsBefore_upTo hbefore).symm ?_
        exact ⟨fun _ => ⟨day'.first, List.mem_filter.mpr ⟨hsession, hle⟩, hdate⟩,
          fun _ => ⟨day'.first, hsession, hdate⟩⟩
      show (tradesOfDay policy config bars (date, day)).filter (isFinal t) =
        (tradesOfDay policy config (upTo t bars) (date, day')).filter (isFinal t)
      unfold tradesOfDay replayAuthor42Day
      rw [hctx]
      cases (buildAuthor42DailyContext (modelBars policy (upTo t bars))).get? date with
      | none => rfl
      | some ctx =>
        -- the bars of the day are in order
        have hsorted : (day.all.map ModelBar.tsLocal).Pairwise (· < ·) := by
          rw [hall]
          exact List.pairwise_map.mpr ((pairwise_lt_modelBars hdistinct).filter _)
        have hdates : ∀ bar ∈ day.all, bar.tsLocal.date = date := by
          intro bar hbar
          rw [hall] at hbar
          exact (mem_barsOf.mp hbar).2
        rw [← hall] at hall'
        exact runAuthor42Day_upTo hsorted hdates hall' ctx config

end AlorRs.MoexAuthor4142
