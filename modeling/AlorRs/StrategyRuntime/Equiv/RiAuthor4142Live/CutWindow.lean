import AlorRs.StrategyRuntime.Equiv.RiAuthor4142Live.Decisions
import AlorRs.StrategyRuntime.Equiv.RiAuthor4142Live.Slots
import Mathlib.Tactic.NormNum

/-!
# A cut through a session that counts

With more bars than the window holds, its first session loses bars and still counts.  The anchor of
the next date changes with it, and the date gets a decision that contradicts the one that it had
(`cut_emits_again`).
-/

namespace AlorRs.RiAuthor4142

open MoexAuthor4142

/-! ### Windows with the same statistics -/

section Windows

variable {policy : RegularSessionPolicy} {bars bars' later : List ModelBar} {date first : NaiveDate}
  {shortConfig longConfig : Author41Config} {author42Config : Author42Config}

theorem windowRecords_congr (hstats : ∀ d, statsOf policy bars' d = statsOf policy bars d)
    (hbars : barsOf policy bars' date = barsOf policy bars date) :
    windowRecords policy shortConfig longConfig author42Config bars' date =
      windowRecords policy shortConfig longConfig author42Config bars date := by
  have hdays : daysBefore policy bars' date = daysBefore policy bars date := by
    refine Ascending.eq_of_mem_iff (ascending_daysBefore policy bars' date)
      (ascending_daysBefore policy bars date) ?_
    intro day
    rw [mem_daysBefore, mem_daysBefore, hstats]
  unfold windowRecords
  rw [hbars]
  by_cases hnil : barsOf policy bars date = []
  · rw [hnil, dayRecords_nil, dayRecords_nil]
  · rw [anchorOf_eq hnil, contextOf_eq hnil, ← hdays]
    rw [← hbars] at hnil
    rw [anchorOf_eq hnil, contextOf_eq hnil]

theorem arrivals_append (bars later : List ModelBar) (date : NaiveDate) :
    arrivals (bars ++ later) date = arrivals bars date ++ arrivals later date :=
  List.filter_append ..

theorem arrivals_of_date (h : ∀ bar ∈ bars, bar.tsLocal.date = first) :
    arrivals bars first = bars :=
  List.filter_eq_self.mpr fun bar hbar => decide_eq_true (h bar hbar)

theorem arrivals_of_ne (h : ∀ bar ∈ bars, bar.tsLocal.date ≠ date) : arrivals bars date = [] :=
  List.filter_eq_nil_iff.mpr fun bar hbar heq => h bar hbar (of_decide_eq_true heq)

/-- For later dates the first session of a window may be replaced by one with its statistics. -/
theorem windowRecords_first_congr (hfirst : ∀ bar ∈ bars, bar.tsLocal.date = first)
    (hfirst' : ∀ bar ∈ bars', bar.tsLocal.date = first)
    (hlater : ∀ bar ∈ later, bar.tsLocal.date ≠ first)
    (hstats : statsOf policy bars' first = statsOf policy bars first) (hdate : date ≠ first) :
    windowRecords policy shortConfig longConfig author42Config (bars' ++ later) date =
      windowRecords policy shortConfig longConfig author42Config (bars ++ later) date := by
  have hother : ∀ d, d ≠ first → arrivals (bars' ++ later) d = arrivals (bars ++ later) d := by
    intro d hd
    rw [arrivals_append, arrivals_append,
      arrivals_of_ne fun bar hbar heq => hd (heq.symm.trans (hfirst' bar hbar)),
      arrivals_of_ne fun bar hbar heq => hd (heq.symm.trans (hfirst bar hbar))]
  refine windowRecords_congr ?_ (barsOf_congr (hother date hdate))
  intro d
  by_cases hd : d = first
  · subst hd
    have hsame : ∀ session : List ModelBar,
        statsOf policy (session ++ later) d = statsOf policy session d := by
      intro session
      refine statsOf_congr ?_
      rw [arrivals_append, arrivals_of_ne hlater, List.append_nil]
    rw [hsame, hsame, hstats]
  · exact statsOf_congr (hother d hd)

theorem windowRecords_of_not_later (hlater : ∀ bar ∈ bars, first ≤ bar.tsLocal.date)
    (hdate : date = first ∨ ∀ bar ∈ bars, bar.tsLocal.date ≠ date) :
    windowRecords policy shortConfig longConfig author42Config bars date = [] := by
  rcases hdate with rfl | hnone
  · refine windowRecords_of_daysBefore_nil ?_
    refine List.eq_nil_iff_forall_not_mem.mpr ?_
    rintro ⟨d, stats⟩ hday
    obtain ⟨hstats, hlt⟩ := mem_daysBefore.mp hday
    rw [statsOf_of_arrivals_nil
      (arrivals_of_ne fun bar hbar heq => (hlater bar hbar).not_gt (heq ▸ hlt))] at hstats
    exact nomatch hstats
  · unfold windowRecords
    rw [barsOf_of_arrivals_nil (arrivals_of_ne hnone), dayRecords_nil]

end Windows

/-! ### The run -/

namespace Sample

/-- A bar some seconds after nine on the first day, with its high and its low some points from its
close. -/
def closeAt (seconds : ℤ) (close points : ℚ) : BarEvent :=
  ⟨"RIM6", 1777874400 + seconds, close, close, close + points, close - points, 1, .live⟩

def firstDay (n : ℕ) : List BarEvent :=
  closeAt 0 100 3 :: (List.range n).map fun i : ℕ => closeAt (i + 1) 100 2

def laterBars : List BarEvent :=
  [closeAt 86400 101 (1 / 2), closeAt 87000 (201 / 2) (1 / 2), closeAt 87600 99 (1 / 2),
    closeAt 172800 150 (1 / 2)]

def thirdBar : BarEvent := closeAt 172800 150 (1 / 2)

def lastBar : BarEvent := closeAt 173400 150 (1 / 2)

def firstDate : NaiveDate := 20577

def secondDate : NaiveDate := 20578

def seenFirst : ModelBar := ⟨⟨firstDate, ⟨32400, 0⟩⟩, 100, 103, 97, 100, 1⟩

def seenQuiet (i : ℕ) : ModelBar := ⟨⟨firstDate, ⟨32400 + (i + 1), 0⟩⟩, 100, 102, 98, 100, 1⟩

def quietBars (n : ℕ) : List ModelBar := (List.range n).map seenQuiet

theorem isModelBar_seen {i : ℕ} (hi : i < 5000) :
    config.sessionPolicy.isModelBar ⟨firstDate, ⟨32400 + (i + 1), 0⟩⟩ = true := by
  show (NaiveTime.le ⟨32400, 0⟩ ⟨32400 + (i + 1), 0⟩ &&
    NaiveTime.le ⟨32400 + (i + 1), 0⟩ ⟨85799, 0⟩) = true
  rw [Bool.and_eq_true, timeLe_iff, timeLe_iff]
  refine ⟨Prod.Lex.toLex_le_toLex.mpr (.inl ?_), Prod.Lex.toLex_le_toLex.mpr (.inl ?_)⟩
  · show 32400 < 32400 + (i + 1)
    omega
  · show 32400 + (i + 1) < 85799
    omega

theorem modelTime_closeAt {i : ℕ} (hi : i < 5000) (close points : ℚ) :
    modelTime config (closeAt (i + 1) close points) = some ⟨firstDate, ⟨32400 + (i + 1), 0⟩⟩ := by
  have hlocal : config.localDt (1777874400 + (i + 1)) = some ⟨firstDate, ⟨32400 + (i + 1), 0⟩⟩ := by
    have hrange : timestampInRange (1777874400 + (i + 1)) = true := by
      simp only [timestampInRange, minDate, maxDate, daySeconds, Bool.and_eq_true]
      refine ⟨decide_eq_true ?_, decide_eq_true ?_⟩
      · show (-96465292 : ℤ) ≤ (1777874400 + ((i : ℤ) + 1)) / 86400
        omega
      · show (1777874400 + ((i : ℤ) + 1)) / 86400 ≤ (95026236 : ℤ)
        omega
    have hdate : ((1777874400 + (i + 1) + 3 * 3600) / daySeconds : ℤ) = firstDate := by
      simp only [daySeconds, firstDate]
      omega
    have htime : ((1777874400 + (i + 1) + 3 * 3600) % daySeconds : ℤ).toNat = 32400 + (i + 1) := by
      simp only [daySeconds]
      omega
    unfold RiAuthor4142LiveConfig.localDt
    rw [if_pos hrange]
    show some (⟨_, ⟨((1777874400 + (i + 1) + 3 * 3600) % daySeconds : ℤ).toNat, 0⟩⟩ :
      NaiveDateTime) = _
    rw [htime]
    exact congrArg (fun date => some (⟨date, _⟩ : NaiveDateTime)) hdate
  have hmodel : config.isModelBar ⟨firstDate, ⟨32400 + (i + 1), 0⟩⟩ .live = true := by
    unfold RiAuthor4142LiveConfig.isModelBar
    rw [isModelBar_seen hi]
    rfl
  show (config.localDt (1777874400 + (i + 1))).filter _ = _
  rw [hlocal]
  exact Option.filter_eq_some_iff.mpr ⟨rfl, hmodel⟩

/-! ### Its windows -/

def seenLater : List ModelBar := seenBars config laterBars

def thirdDate : NaiveDate := 20579

def seenLast : ModelBar := ⟨⟨thirdDate, ⟨33000, 0⟩⟩, 150, 301 / 2, 299 / 2, 150, 1⟩

abbrev records (bars : List ModelBar) (date : NaiveDate) : List ShadowJournalRecord :=
  windowRecords config.sessionPolicy config.author41ShortConfig config.author41LongConfig
    config.author42Config bars date

def wholeRecords : List ShadowJournalRecord := records ([seenFirst] ++ seenLater) secondDate

def cutRecords : List ShadowJournalRecord :=
  records ([seenQuiet 0] ++ (seenLater ++ [seenLast])) secondDate

def IsSecond (record : ShadowJournalRecord) : Prop :=
  record.component = .author41Mr ∧ record.barTsLocal.date = secondDate ∧
    record.scheduledEntryTsLocal = some record.barTsLocal

instance (record : ShadowJournalRecord) : Decidable (IsSecond record) :=
  inferInstanceAs (Decidable (_ ∧ _ ∧ _))

/-- The bars as the model sees them: what its times are, and the statistics of the two first bars. -/
theorem seen_bars :
    (modelTime config (closeAt 0 100 3)).map (toModelBar (closeAt 0 100 3)) = some seenFirst ∧
      modelTime config thirdBar = some ⟨thirdDate, ⟨32400, 0⟩⟩ ∧
      modelTime config lastBar = some ⟨thirdDate, ⟨33000, 0⟩⟩ ∧
      toModelBar lastBar ⟨thirdDate, ⟨33000, 0⟩⟩ = seenLast ∧
      config.sessionPolicy.isModelBar seenFirst.tsLocal = true ∧
      statsOf config.sessionPolicy [seenFirst] firstDate = some ⟨103, 97, 100⟩ ∧
      statsOf config.sessionPolicy [seenQuiet 0] firstDate = some ⟨102, 98, 100⟩ := by
  decide +kernel

theorem seen_later :
    seenLater.length = 4 ∧
      (seenLater ++ [seenLast]).Pairwise (fun a b => a.tsLocal.date ≤ b.tsLocal.date) ∧
      ∀ bar ∈ seenLater ++ [seenLast], bar.tsLocal.date ∈ [secondDate, thirdDate] ∧
        NaiveTime.mk 0 0 ≤ bar.tsLocal.time ∧ bar.tsLocal.time ≤ ⟨86399, 0⟩ := by
  decide +kernel

theorem seen_records :
    (∀ tail ∈ seenLater.inits, ∀ date ∈ [secondDate, thirdDate],
        ∀ record ∈ records ([seenFirst] ++ tail) date, record ∈ wholeRecords) ∧
      (∀ date ∈ [secondDate, thirdDate],
        ∀ record ∈ records ([seenQuiet 0] ++ (seenLater ++ [seenLast])) date,
          record ∈ cutRecords) ∧
      (wholeRecords ≠ [] ∧ ∀ record ∈ wholeRecords, IsSecond record) ∧
      (cutRecords ≠ [] ∧ ∀ record ∈ cutRecords, IsSecond record) ∧
      ∀ record ∈ wholeRecords, ∀ record' ∈ cutRecords, decisionKey record ≠ decisionKey record' := by
  decide +kernel

variable {n : ℕ}

theorem seenBars_firstDay (hn : n ≤ 5000) :
    seenBars config (firstDay n) = seenFirst :: quietBars n := by
  have hquiet : ∀ i ∈ List.range n, ((modelTime config (closeAt (i + 1) 100 2)).map
      (toModelBar (closeAt (i + 1) 100 2))) = some (seenQuiet i) := by
    intro i hi
    rw [modelTime_closeAt ((List.mem_range.mp hi).trans_le hn)]
    obtain ⟨hopened, hhigh, hlow⟩ : nonZeroOrClose 100 100 = 100 ∧
        nonZeroOrClose (100 + 2) 100 = 102 ∧ nonZeroOrClose (100 - 2) 100 = 98 := by
      norm_num [nonZeroOrClose]
    show some (⟨_, nonZeroOrClose 100 100, nonZeroOrClose (100 + 2) 100, nonZeroOrClose (100 - 2) 100,
      100, 1⟩ : ModelBar) = _
    rw [hopened, hhigh, hlow]
    rfl
  unfold seenBars firstDay quietBars
  rw [List.filterMap_cons, seen_bars.1, List.filterMap_map]
  refine congrArg (seenFirst :: ·) ?_
  rw [← List.filterMap_eq_map]
  exact List.filterMap_congr hquiet

/-! ### The first day -/

theorem firstDate_lt : ∀ date ∈ [secondDate, thirdDate], firstDate < date := by decide

theorem le_thirdDate : ∀ date ∈ [firstDate, secondDate, thirdDate], date ≤ thirdDate := by decide

theorem date_of_seenFirst : ∀ bar ∈ [seenFirst], bar.tsLocal.date = firstDate :=
  List.forall_mem_singleton.mpr rfl

theorem date_of_seenQuiet : ∀ bar ∈ [seenQuiet 0], bar.tsLocal.date = firstDate :=
  List.forall_mem_singleton.mpr rfl

variable {bar : ModelBar}

theorem date_of_mem_quietBars (h : bar ∈ quietBars n) : bar.tsLocal.date = firstDate := by
  obtain ⟨i, _, rfl⟩ := List.mem_map.mp h
  rfl

theorem foldl_quietBars {high low : ℚ} (hhigh : max high 102 = high) (hlow : min low 98 = low)
    (is : List ℕ) :
    (is.map seenQuiet).foldl (fun stats bar => some (DayStats.add stats bar))
      (some ⟨high, low, 100⟩) = some ⟨high, low, 100⟩ := by
  induction is with
  | nil => rfl
  | cons i is ih =>
    rw [List.map_cons, List.foldl_cons]
    show List.foldl _ (some (⟨max high 102, min low 98, 100⟩ : DayStats)) _ = _
    rw [hhigh, hlow]
    exact ih

theorem modelBars_firstDay (hn : n ≤ 5000) :
    modelBars config.sessionPolicy (seenFirst :: quietBars n) = seenFirst :: quietBars n := by
  have hmodel : ∀ bar ∈ seenFirst :: quietBars n,
      config.sessionPolicy.isModelBar bar.tsLocal = true := by
    refine List.forall_mem_cons.mpr ⟨seen_bars.2.2.2.2.1, ?_⟩
    intro bar hbar
    obtain ⟨i, hi, rfl⟩ := List.mem_map.mp hbar
    exact isModelBar_seen ((List.mem_range.mp hi).trans_le hn)
  have hsorted : (seenFirst :: quietBars n).Pairwise fun a b => a.tsLocal ≤ b.tsLocal := by
    have hle : ∀ {m k : ℕ}, m ≤ k →
        NaiveDateTime.mk firstDate ⟨m, 0⟩ ≤ NaiveDateTime.mk firstDate ⟨k, 0⟩ := by
      intro m k hmk
      have htime : NaiveTime.mk m 0 ≤ NaiveTime.mk k 0 := by
        refine Prod.Lex.toLex_le_toLex.mpr ?_
        rcases hmk.lt_or_eq with hlt | heq
        · exact .inl hlt
        · exact .inr ⟨heq, le_rfl⟩
      exact Prod.Lex.toLex_le_toLex.mpr (.inr ⟨rfl, htime⟩)
    refine List.pairwise_cons.mpr ⟨?_, List.pairwise_map.mpr ?_⟩
    · intro bar hbar
      obtain ⟨i, _, rfl⟩ := List.mem_map.mp hbar
      exact hle (by omega)
    · refine List.pairwise_lt_range.imp ?_
      intro i j hij
      exact hle (by omega)
  unfold modelBars
  rw [List.filter_eq_self.mpr hmodel]
  exact hsorted.insertionSort_eq

theorem statsOf_firstDay (hn : n ≤ 5000) :
    statsOf config.sessionPolicy (seenFirst :: quietBars n) firstDate =
      statsOf config.sessionPolicy [seenFirst] firstDate := by
  have hdates : ∀ bar ∈ seenFirst :: quietBars n, bar.tsLocal.date = firstDate :=
    List.forall_mem_cons.mpr ⟨rfl, fun bar => date_of_mem_quietBars⟩
  rw [seen_bars.2.2.2.2.2.1, statsOf_eq, barsOf_eq]
  have harrivals := arrivals_of_date hdates
  unfold arrivals at harrivals
  rw [harrivals, modelBars_firstDay hn, List.foldl_cons]
  exact foldl_quietBars (by norm_num [seenFirst]) (by norm_num [seenFirst]) _

theorem statsOf_quietBars (hpos : 0 < n) (hn : n ≤ 5000) :
    statsOf config.sessionPolicy (quietBars n) firstDate =
      statsOf config.sessionPolicy [seenQuiet 0] firstDate := by
  have hmodel : modelBars config.sessionPolicy (quietBars n) = quietBars n := by
    have hboth := modelBars_firstDay hn
    have hsorted := pairwise_modelBars config.sessionPolicy (seenFirst :: quietBars n)
    rw [hboth] at hsorted
    have hmembers : ∀ bar ∈ quietBars n,
        config.sessionPolicy.isModelBar bar.tsLocal = true := by
      intro bar hbar
      obtain ⟨i, hi, rfl⟩ := List.mem_map.mp hbar
      exact isModelBar_seen ((List.mem_range.mp hi).trans_le hn)
    unfold modelBars
    rw [List.filter_eq_self.mpr hmembers]
    exact (List.pairwise_cons.mp hsorted).2.insertionSort_eq
  have harrivals := arrivals_of_date fun bar (hbar : bar ∈ quietBars n) =>
    date_of_mem_quietBars hbar
  rw [seen_bars.2.2.2.2.2.2, statsOf_eq, barsOf_eq]
  unfold arrivals at harrivals
  rw [harrivals, hmodel]
  obtain ⟨m, rfl⟩ := Nat.exists_eq_succ_of_ne_zero hpos.ne'
  unfold quietBars
  rw [List.range_succ_eq_map, List.map_cons, List.foldl_cons]
  exact foldl_quietBars (by norm_num [seenQuiet]) (by norm_num [seenQuiet]) _

/-! ### What the windows show -/

theorem of_mem_run (hn : n ≤ 5000) (h : bar ∈ seenFirst :: quietBars n ++ (seenLater ++ [seenLast])) :
    bar.tsLocal.date ∈ [firstDate, secondDate, thirdDate] ∧
      NaiveTime.mk 0 0 ≤ bar.tsLocal.time ∧ bar.tsLocal.time ≤ ⟨86399, 0⟩ := by
  rcases List.mem_append.mp h with hfirst | hlater
  · rcases List.mem_cons.mp hfirst with rfl | hquiet
    · decide
    · obtain ⟨i, hi, rfl⟩ := List.mem_map.mp hquiet
      have hi' : i < 5000 := (List.mem_range.mp hi).trans_le hn
      refine ⟨List.mem_cons_self, Prod.Lex.toLex_le_toLex.mpr (.inl ?_),
        Prod.Lex.toLex_le_toLex.mpr (.inl ?_)⟩
      · show 0 < 32400 + (i + 1)
        omega
      · show 32400 + (i + 1) < 86399
        omega
  · obtain ⟨hdate, htime⟩ := seen_later.2.2 bar hlater
    exact ⟨List.mem_cons_of_mem _ hdate, htime⟩

variable {s : RiAuthor4142LiveStrategy}

theorem eligibleModelBars_eq (hconfig : s.config = config) {current : NaiveDate}
    (hbars : ∀ bar ∈ s.modelBars, bar.tsLocal.date ≤ current ∧
      NaiveTime.mk 0 0 ≤ bar.tsLocal.time ∧ bar.tsLocal.time ≤ ⟨86399, 0⟩) :
    s.eligibleModelBars current = s.modelBars := by
  refine List.filter_eq_self.mpr ?_
  intro bar hbar
  obtain ⟨hdate, hafter, hbefore⟩ := hbars bar hbar
  rw [Bool.or_eq_true, decide_eq_true_iff, List.contains_eq_mem, decide_eq_true_iff]
  rcases hdate.eq_or_lt with heq | hlt
  · exact .inl heq
  · refine .inr ((mem_dailyStatsBefore s current bar.tsLocal.date).mpr ⟨hlt, ?_⟩)
    rw [hconfig]
    have hmem : bar ∈ arrivals s.modelBars bar.tsLocal.date :=
      List.mem_filter.mpr ⟨hbar, decide_eq_true rfl⟩
    exact ⟨List.not_mem_nil, Nat.zero_le _, ⟨bar, hmem, hbefore⟩, bar, hmem, hafter⟩

variable {record : ShadowJournalRecord}

/-- After a first day and some later bars there are records of the later dates only, those that there
would be after a short first day. -/
theorem records_of_first {bars bars' tail : List ModelBar} {date : NaiveDate}
    (hfirst : ∀ bar ∈ bars, bar.tsLocal.date = firstDate)
    (hfirst' : ∀ bar ∈ bars', bar.tsLocal.date = firstDate)
    (htail : ∀ bar ∈ tail, bar.tsLocal.date ∈ [secondDate, thirdDate])
    (hstats : statsOf config.sessionPolicy bars firstDate =
      statsOf config.sessionPolicy bars' firstDate) (h : record ∈ records (bars ++ tail) date) :
    date ∈ [secondDate, thirdDate] ∧ record ∈ records (bars' ++ tail) date := by
  have hsorted : ∀ bar ∈ bars ++ tail, firstDate ≤ bar.tsLocal.date := by
    intro bar hbar
    rcases List.mem_append.mp hbar with hday | hrest
    · exact (hfirst bar hday).ge
    · exact (firstDate_lt _ (htail bar hrest)).le
  by_cases hdate : date ∈ [secondDate, thirdDate]
  · refine ⟨hdate, ?_⟩
    have hsame : records (bars ++ tail) date = records (bars' ++ tail) date :=
      windowRecords_first_congr hfirst' hfirst (fun bar hbar => (firstDate_lt _ (htail bar hbar)).ne')
        hstats (firstDate_lt date hdate).ne'
    rwa [hsame] at h
  · have hnone : records (bars ++ tail) date = [] := by
      refine windowRecords_of_not_later hsorted ?_
      by_cases heq : date = firstDate
      · exact .inl heq
      · right
        intro bar hbar hsame
        rcases List.mem_append.mp hbar with hday | hrest
        · exact heq (hsame.symm.trans (hfirst bar hday))
        · exact hdate (hsame ▸ htail bar hrest)
    rw [hnone] at h
    exact absurd h List.not_mem_nil

def fullRun : List BarEvent := firstDay 4995 ++ laterBars

theorem length_fullRun : fullRun.length = 5000 := by
  unfold fullRun firstDay
  rw [List.length_append, List.length_cons, List.length_map, List.length_range]
  rfl

theorem seenBars_fullRun :
    seenBars config fullRun = seenFirst :: quietBars 4995 ++ seenLater := by
  unfold fullRun seenBars
  rw [List.filterMap_append]
  exact congrArg (· ++ seenLater) (seenBars_firstDay (by omega))

theorem dates_run (n : ℕ) :
    (seenFirst :: quietBars n ++ (seenLater ++ [seenLast])).Pairwise
      fun a b => a.tsLocal.date ≤ b.tsLocal.date := by
  have hfirst : ∀ bar ∈ seenFirst :: quietBars n, bar.tsLocal.date = firstDate :=
    List.forall_mem_cons.mpr ⟨rfl, fun bar => date_of_mem_quietBars⟩
  refine List.pairwise_append.mpr ⟨List.pairwise_of_forall_mem_list ?_, seen_later.2.1, ?_⟩
  · intro a ha b hb
    rw [hfirst a ha, hfirst b hb]
  · intro a ha b hb
    rw [hfirst a ha]
    exact (firstDate_lt _ (seen_later.2.2 b hb).1).le

theorem dates_of_prefix {seen : List ModelBar} {last : ModelBar}
    (h : seen ++ [last] <+: seenFirst :: quietBars 4995 ++ seenLater) :
    ∀ bar ∈ seen ++ [last], bar.tsLocal.date ≤ last.tsLocal.date := by
  have hwhole : seen ++ [last] <+: seenFirst :: quietBars 4995 ++ (seenLater ++ [seenLast]) := by
    rw [← List.append_assoc]
    exact h.trans (List.prefix_append _ _)
  have hsorted := (dates_run 4995).sublist hwhole.sublist
  intro bar hbar
  rcases List.mem_append.mp hbar with hseen | hlast
  · exact (List.pairwise_append.mp hsorted).2.2 bar hseen last List.mem_cons_self
  · rw [List.mem_singleton.mp hlast]

/-- What the run emits up to its last bar is for the second day, with the anchor of the whole first
day. -/
theorem exists_wholeRecord {decision : RiAuthor4142ModelDecision}
    (h : decision ∈ emittedDecisions env.withEngines (.new config) fullRun) :
    ∃ record ∈ wholeRecords,
      RiAuthor4142ModelDecision.fromShadowRecord record (decisionKey record) = some decision ∧
        decision.decisionKey = decisionKey record := by
  obtain ⟨mid, bar, rest, hrun, hmem⟩ := exists_bar_of_mem_emittedDecisions h
  have hlength := congrArg List.length hrun
  rw [length_fullRun, List.length_append, List.length_cons] at hlength
  -- up to here the window has lost no bar
  have hfits : mid.length ≤ 5000 := by omega
  obtain ⟨hconfig, hsaved, hbars⟩ := afterBars_new env.withEngines config hfits
  generalize afterBars env.withEngines (.new config) mid = s at hmem hconfig hsaved hbars
  cases htime : modelTime s.config bar with
  -- a bar out of the model time decides nothing
  | none =>
    rw [(updateBarState_of_none _ htime).2] at hmem
    exact absurd hmem List.not_mem_nil
  | some dtLocal =>
    obtain ⟨_, record, hrecord, hdecision, hkey⟩ :=
      exists_record_of_mem_barDecisions hsaved env htime hmem
    rw [hconfig] at htime
    -- the window has the bars so far, which are a part of the run
    have hshort : (seenBars config mid).length ≤ mid.length := List.length_filterMap_le _ _
    have hwindow : (s.noteBar bar dtLocal true).modelBars =
        seenBars config mid ++ [toModelBar bar dtLocal] := by
      rw [modelBars_noteBar hsaved, hbars, window_concat, Nat.sub_eq_zero_of_le (by omega),
        List.drop_zero]
    have hprefix : seenBars config mid ++ [toModelBar bar dtLocal] <+:
        seenFirst :: quietBars 4995 ++ seenLater := by
      refine ⟨seenBars config rest, ?_⟩
      have hrun' : fullRun = mid ++ [bar] ++ rest := by
        rw [hrun, List.append_assoc]
        rfl
      rw [← seenBars_fullRun, hrun', seenBars_append, seenBars_append, seenBars_singleton htime]
    have hnoted : (s.noteBar bar dtLocal true).config = config :=
      (config_noteBar hsaved bar dtLocal).trans hconfig
    -- all of the window may be used, as it lies within the three days
    have hall : (s.noteBar bar dtLocal true).eligibleModelBars dtLocal.date =
        seenBars config mid ++ [toModelBar bar dtLocal] := by
      rw [← hwindow]
      refine eligibleModelBars_eq hnoted ?_
      intro b hb
      rw [hwindow] at hb
      have hmem := List.mem_append_left [seenLast] (List.IsPrefix.subset hprefix hb)
      rw [List.append_assoc] at hmem
      refine ⟨?_, (of_mem_run (by omega) hmem).2⟩
      exact dates_of_prefix hprefix b hb
    unfold recordsOf at hrecord
    rw [hall, hnoted] at hrecord
    refine ⟨record, ?_, hdecision, hkey⟩
    rcases List.prefix_or_prefix_of_prefix hprefix (List.prefix_append _ _) with hday | ⟨tail, htail⟩
    · -- on the first day there are no records
      have hdates : ∀ b ∈ seenBars config mid ++ [toModelBar bar dtLocal],
          b.tsLocal.date = firstDate := by
        intro b hb
        rcases List.mem_cons.mp (hday.subset hb) with rfl | hquiet
        · rfl
        · exact date_of_mem_quietBars hquiet
      rw [← List.append_nil (seenBars config mid ++ [toModelBar bar dtLocal])] at hrecord
      have hnil : ∀ b ∈ ([] : List ModelBar), b.tsLocal.date ∈ [secondDate, thirdDate] := nofun
      obtain ⟨hdate, hnone⟩ := records_of_first hdates hdates hnil rfl hrecord
      have hempty : records (seenBars config mid ++ [toModelBar bar dtLocal])
          (RiAuthor4142LiveStrategy.decisionEntryDate decision) = [] := by
        have hafter : ∀ b ∈ seenBars config mid ++ [toModelBar bar dtLocal],
            firstDate ≤ b.tsLocal.date := fun b hb => (hdates b hb).ge
        refine windowRecords_of_not_later hafter ?_
        -- an entry of a later date has no bar yet
        refine .inr fun b hb heq => ?_
        rw [← heq, hdates b hb] at hdate
        exact (firstDate_lt _ hdate).ne rfl
      rw [List.append_nil, hempty] at hnone
      exact absurd hnone List.not_mem_nil
    · rw [← htail] at hprefix hrecord
      have htailPrefix := (List.prefix_append_right_inj _).mp hprefix
      have hdates : ∀ b ∈ seenFirst :: quietBars 4995, b.tsLocal.date = firstDate :=
        List.forall_mem_cons.mpr ⟨rfl, fun b => date_of_mem_quietBars⟩
      obtain ⟨hdate, hsmall⟩ := records_of_first hdates date_of_seenFirst
        (fun b hb => (seen_later.2.2 b (List.mem_append_left _ (htailPrefix.subset hb))).1)
        (statsOf_firstDay (by omega)) hrecord
      exact seen_records.1 tail ((List.mem_inits _ _).mpr htailPrefix) _ hdate record hsmall

/-- Before the cut the run is stable. -/
theorem decisions_stable_fullRun : StableDecisions env.withEngines config fullRun := by
  refine decisions_stable env config (allKeepSessions_new _ _ length_fullRun.le ?_)
  rw [seenBars_fullRun]
  refine (dates_run 4995).sublist ?_
  rw [← List.append_assoc]
  exact List.sublist_append_left _ _

/-! ### The third day -/

theorem fullRun_eq : fullRun = firstDay 4995 ++ laterBars.take 3 ++ [thirdBar] := by
  rw [List.append_assoc]
  rfl

/-- What a bar of the third day sees, where the window has some bars of the run. -/
theorem recordsOf_thirdDay (hconfig : s.config = config)
    (hbars : ∀ bar ∈ s.modelBars, bar ∈ seenFirst :: quietBars 4995 ++ (seenLater ++ [seenLast]))
    (date : NaiveDate) : recordsOf s thirdDate date = records s.modelBars date := by
  have hall : s.eligibleModelBars thirdDate = s.modelBars := by
    refine eligibleModelBars_eq hconfig ?_
    intro bar hbar
    obtain ⟨hdate, htime⟩ := of_mem_run (by omega) (hbars bar hbar)
    exact ⟨le_thirdDate _ hdate, htime⟩
  unfold recordsOf
  rw [hall, hconfig]

theorem second_lt_third : secondDate < thirdDate := by decide

theorem wholeKey_known {firstDays : List BarEvent} (hrun : fullRun = firstDays ++ [thirdBar])
    (h : record ∈ wholeRecords) :
    decisionKey record ∈ (afterBars env.withEngines (.new config) fullRun).emittedDecisionKeys := by
  have hlength : firstDays.length + 1 = 5000 := by
    rw [← length_fullRun, hrun, List.length_append, List.length_singleton]
  have hseen : seenBars config firstDays ++ [toModelBar thirdBar ⟨thirdDate, ⟨32400, 0⟩⟩] =
      seenFirst :: quietBars 4995 ++ seenLater := by
    rw [← seenBars_fullRun, hrun, seenBars_append, seenBars_singleton seen_bars.2.1]
  have hfits : firstDays.length ≤ 5000 := by omega
  obtain ⟨hconfig, hsaved, hbars⟩ := afterBars_new env.withEngines config hfits
  rw [hrun, afterBars_concat]
  generalize afterBars env.withEngines (.new config) firstDays = s at hconfig hsaved hbars
  have htime := seen_bars.2.1
  rw [← hconfig] at htime
  -- the window has all the bars of the run
  have hshort : (seenBars config firstDays).length ≤ firstDays.length :=
    List.length_filterMap_le _ _
  have hwindow : (s.noteBar thirdBar ⟨thirdDate, ⟨32400, 0⟩⟩ true).modelBars =
      seenFirst :: quietBars 4995 ++ seenLater := by
    rw [modelBars_noteBar hsaved, hbars, window_concat, Nat.sub_eq_zero_of_le (by omega),
      List.drop_zero, hseen]
  have hnoted : (s.noteBar thirdBar ⟨thirdDate, ⟨32400, 0⟩⟩ true).config = config :=
    (config_noteBar hsaved thirdBar _).trans hconfig
  have hrecord : record ∈
      recordsOf (s.noteBar thirdBar ⟨thirdDate, ⟨32400, 0⟩⟩ true) thirdDate secondDate := by
    rw [recordsOf_thirdDay hnoted, hwindow]
    · have hfirst : ∀ b ∈ seenFirst :: quietBars 4995, b.tsLocal.date = firstDate :=
        List.forall_mem_cons.mpr ⟨rfl, fun b => date_of_mem_quietBars⟩
      -- the rest of the first day changes only its statistics
      have hsame : records (seenFirst :: quietBars 4995 ++ seenLater) secondDate = wholeRecords :=
        windowRecords_first_congr date_of_seenFirst hfirst
          (fun b hb => (firstDate_lt _ (seen_later.2.2 b (List.mem_append_left _ hb)).1).ne')
          (statsOf_firstDay (by omega)) (firstDate_lt _ List.mem_cons_self).ne'
      rw [hsame]
      exact h
    · intro b hb
      rw [hwindow] at hb
      rw [← List.append_assoc]
      exact List.mem_append_left _ hb
  have hpast : secondDate < (NaiveDateTime.mk thirdDate ⟨32400, 0⟩).date := second_lt_third
  obtain ⟨decision, hdecision, hkey⟩ := exists_decision_of_past hpast hrecord
  rw [(updateBarState_of_some _ htime).1, (collectNewDecisions_untouched _ _ _).keys, ← hkey,
    keys_knowing, finalizedDecisions_withEngines]
  exact Reports.key_mem_knownAfter hdecision

theorem IsSecond.decision (h : IsSecond record) {decision : RiAuthor4142ModelDecision}
    {key : String}
    (hdecision : RiAuthor4142ModelDecision.fromShadowRecord record key = some decision) :
    decision.component = .author41Mr ∧
      RiAuthor4142LiveStrategy.decisionEntryDate decision = secondDate := by
  obtain ⟨hcomponent, hdate, hentry⟩ := h
  refine ⟨?_, (decisionEntryDate_of_record hentry hdecision).1.trans hdate⟩
  obtain ⟨component, hshadow, rfl⟩ := Option.map_eq_some_iff.mp hdecision
  rw [hcomponent] at hshadow
  exact (Option.some.inj hshadow).symm

theorem exists_firstDecision :
    ∃ decision ∈ emittedDecisions env.withEngines (.new config) fullRun,
      decision.component = .author41Mr ∧
        RiAuthor4142LiveStrategy.decisionEntryDate decision = secondDate := by
  obtain ⟨record, hrecord⟩ := List.exists_mem_of_ne_nil _ seen_records.2.2.1.1
  have hknown := wholeKey_known fullRun_eq hrecord
  rw [keys_afterBars rfl] at hknown
  rcases List.mem_append.mp hknown with hmem | hnone
  · obtain ⟨decision, hdecision, _⟩ := List.mem_map.mp (List.mem_reverse.mp hmem)
    obtain ⟨record', hrecord', hshadow, _⟩ := exists_wholeRecord hdecision
    exact ⟨decision, hdecision, (seen_records.2.2.1.2 record' hrecord').decision hshadow⟩
  · exact absurd hnone List.not_mem_nil

theorem length_run (n : ℕ) : (quietBars n ++ seenLater).length = n + 4 := by
  unfold quietBars
  rw [List.length_append, List.length_map, List.length_range, seen_later.1]

theorem window_cut {first : ModelBar} {bars : List ModelBar} (h : bars.length + 1 = 5000) :
    window (first :: bars ++ [bar]) = bars ++ [bar] := by
  rw [window_concat, List.length_cons, h, Nat.add_sub_cancel_left, List.drop_one, List.tail_cons]

/-- The last bar cuts the first bar of the first day, and emits a decision for the second day that
the rest of the first day makes. -/
theorem exists_secondDecision :
    ∃ decision ∈ (afterBars env.withEngines (.new config) fullRun).barDecisions env.withEngines
        lastBar,
      ∃ record ∈ cutRecords, decision.decisionKey = decisionKey record ∧
        decision.component = .author41Mr ∧
          RiAuthor4142LiveStrategy.decisionEntryDate decision = secondDate := by
  obtain ⟨hconfig, hsaved, hbars⟩ := afterBars_new env.withEngines config length_fullRun.le
  have hknown := keys_afterBars (s := .new config) rfl env.withEngines fullRun
  have hemitted := @exists_wholeRecord
  generalize emittedDecisions env.withEngines (.new config) fullRun = emitted at hknown hemitted
  generalize afterBars env.withEngines (.new config) fullRun = s at hconfig hsaved hbars hknown
  have htime := seen_bars.2.2.1
  rw [← hconfig] at htime
  -- the window is full, so the oldest bar falls out
  have hwindow : (s.noteBar lastBar ⟨thirdDate, ⟨33000, 0⟩⟩ true).modelBars =
      quietBars 4995 ++ (seenLater ++ [seenLast]) := by
    rw [modelBars_noteBar hsaved, hbars, seenBars_fullRun, seen_bars.2.2.2.1, List.cons_append, ← List.append_assoc]
    refine window_cut ?_
    rw [length_run]
  have hnoted : (s.noteBar lastBar ⟨thirdDate, ⟨33000, 0⟩⟩ true).config = config :=
    (config_noteBar hsaved lastBar _).trans hconfig
  have hquiet : ∀ b ∈ quietBars 4995, b.tsLocal.date = firstDate := fun b => date_of_mem_quietBars
  have hstats := statsOf_quietBars (n := 4995) (by omega) (by omega)
  -- of the window only the first day is cut
  have hsees : ∀ date, recordsOf (s.noteBar lastBar ⟨thirdDate, ⟨33000, 0⟩⟩ true) thirdDate date =
      records (quietBars 4995 ++ (seenLater ++ [seenLast])) date := by
    intro date
    rw [recordsOf_thirdDay hnoted, hwindow]
    intro b hb
    rw [hwindow] at hb
    rw [List.cons_append]
    exact List.mem_cons_of_mem _ hb
  have hrecords : recordsOf (s.noteBar lastBar ⟨thirdDate, ⟨33000, 0⟩⟩ true) thirdDate secondDate =
      cutRecords := by
    rw [hsees]
    exact windowRecords_first_congr date_of_seenQuiet hquiet
      (fun b hb => (firstDate_lt _ (seen_later.2.2 b hb).1).ne') hstats
      (firstDate_lt _ List.mem_cons_self).ne'
  -- the cut window has a record of the second day
  obtain ⟨cut, hcut⟩ := List.exists_mem_of_ne_nil _ seen_records.2.2.2.1.1
  rw [← hrecords] at hcut
  have hpast : secondDate < (NaiveDateTime.mk thirdDate ⟨33000, 0⟩).date := second_lt_third
  obtain ⟨candidate, hcandidate, hkey⟩ := exists_decision_of_past hpast hcut
  -- no decision of the run had its key
  have hnew : candidate.decisionKey ∉ s.emittedDecisionKeys := by
    intro hold
    rw [hknown] at hold
    rcases List.mem_append.mp hold with hmem | hnone
    · obtain ⟨decision, hdecision, heq⟩ := List.mem_map.mp (List.mem_reverse.mp hmem)
      obtain ⟨record, hrecord, _, hsame⟩ := hemitted hdecision
      rw [hrecords] at hcut
      exact seen_records.2.2.2.2 record hrecord cut hcut (hsame.symm.trans (heq.trans hkey))
    · exact absurd hnone List.not_mem_nil
  obtain ⟨decision, hmem, _⟩ := exists_mem_barDecisions hsaved env htime hcandidate hnew
  -- and it is of the second day as the cut window shows it
  obtain ⟨_, record, hrecord, hshadow, hkey'⟩ :=
    exists_record_of_mem_barDecisions hsaved env htime hmem
  rw [hsees] at hrecord
  obtain ⟨hdate, hsmall⟩ := records_of_first hquiet date_of_seenQuiet
    (fun b hb => (seen_later.2.2 b hb).1) hstats hrecord
  have hrecord' := seen_records.2.1 _ hdate record hsmall
  exact ⟨decision, hmem, record, hrecord', hkey', (seen_records.2.2.2.1.2 record hrecord').decision
    hshadow⟩

/-- A decision for a past day is contradicted once the window is cut. -/
theorem cut_emits_again :
    (∃ first ∈ emittedDecisions env.withEngines (.new config) fullRun,
      ∃ second ∈ (afterBars env.withEngines (.new config) fullRun).barDecisions env.withEngines
          lastBar,
        first.component = .author41Mr ∧ second.component = .author41Mr ∧
        RiAuthor4142LiveStrategy.decisionEntryDate first = secondDate ∧
        RiAuthor4142LiveStrategy.decisionEntryDate second = secondDate ∧
        first.decisionKey ≠ second.decisionKey) ∧
      ¬StableDecisions env.withEngines config (fullRun ++ [lastBar]) := by
  obtain ⟨first, hfirst, hcomponent, hdate⟩ := exists_firstDecision
  obtain ⟨second, hsecond, record', hrecord', hkey', hcomponent', hdate'⟩ := exists_secondDecision
  obtain ⟨record, hrecord, _, hkey⟩ := exists_wholeRecord hfirst
  refine ⟨⟨first, hfirst, second, hsecond, hcomponent, hcomponent', hdate, hdate', ?_⟩, ?_⟩
  · rw [hkey, hkey']
    exact seen_records.2.2.2.2 record hrecord record' hrecord'
  · intro hstable
    have hthird : thirdBar ∈ fullRun := by
      rw [fullRun_eq]
      exact List.mem_append_right _ List.mem_cons_self
    have hlate := hstable.fresh fullRun lastBar [] rfl second hsecond thirdBar hthird _
      seen_bars.2.1
    rw [hdate'] at hlate
    exact hlate.not_gt second_lt_third

end Sample

end AlorRs.RiAuthor4142
