import AlorRs.Lib.Reaction
import AlorRs.StrategyRuntime.Equiv.AlorUsdrubfHybrid.Days

/-!
# The session metrics of the USDRUBF strategy

The aggregates of a day are those of the bars that were counted (`Describes`).  A bar is not counted
where live trading holds it back (`isHeldBack`), and a history is not where an entry or a position is
there (`isBusy`); every other bar of the session is, once, also over restarts (`always_described`).
-/

namespace AlorRs.AlorUsdrubfHybrid

open AlorUsdrubfHybridStrategy

/-! ### The metrics of some bars -/

def weight (bar : BarEvent) : ℚ := max bar.v 0

def typicalPrice (bar : BarEvent) : ℚ := (bar.h + bar.l + bar.close) / 3

/-- The volume-weighted typical price of some bars, where they have a volume. -/
def vwapOf (bars : List BarEvent) (fallbackClose : ℚ) : ℚ :=
  if 0 < (bars.map weight).sum then
    (bars.map fun bar => typicalPrice bar * weight bar).sum / (bars.map weight).sum
  else fallbackClose

def localTimeOf (config : AlorUsdrubfHybridConfig) (bar : BarEvent) : NaiveDateTime :=
  utcToLocal bar.closeTimeUtc config.timezoneOffsetHours

structure Describes (config : AlorUsdrubfHybridConfig) (day : DayAggregates) (bars : List BarEvent) :
    Prop where
  dayOpen : day.dayOpen = bars.head?.map BarEvent.o
  dayHigh : day.dayHigh = (bars.map BarEvent.h).max?
  dayLow : day.dayLow = (bars.map BarEvent.l).min?
  sessionStart : day.sessionStartLocal = bars.head?.map (localTimeOf config)
  vwap : ∀ fallbackClose, day.sessionVwap fallbackClose = vwapOf bars fallbackClose

structure Sums (config : AlorUsdrubfHybridConfig) (day : DayAggregates) (bars : List BarEvent) :
    Prop where
  dayOpen : day.dayOpen = bars.head?.map BarEvent.o
  dayHigh : day.dayHigh = (bars.map BarEvent.h).max?
  dayLow : day.dayLow = (bars.map BarEvent.l).min?
  sessionStart : day.sessionStartLocal = bars.head?.map (localTimeOf config)
  volume : day.dayVolumeSum = (bars.map weight).sum
  vwapNum : day.dayVwapNum = (bars.map fun bar => typicalPrice bar * weight bar).sum

namespace Sums

variable {config : AlorUsdrubfHybridConfig} {day : DayAggregates} {bars : List BarEvent}

theorem describes (h : Sums config day bars) : Describes config day bars := by
  refine ⟨h.dayOpen, h.dayHigh, h.dayLow, h.sessionStart, fun fallbackClose => ?_⟩
  unfold DayAggregates.sessionVwap vwapOf
  rw [h.volume, h.vwapNum]

theorem start (config : AlorUsdrubfHybridConfig) (date : Option NaiveDate) :
    Sums config (.start date) [] :=
  ⟨rfl, rfl, rfl, rfl, rfl, rfl⟩

theorem of_unflagged (h : Sums config day bars) {day' : DayAggregates}
    (hday : day'.unflagged = day.unflagged) : Sums config day' bars := by
  have hopen : day'.dayOpen = day.dayOpen := congrArg (fun d => d.dayOpen) hday
  have hhigh : day'.dayHigh = day.dayHigh := congrArg (fun d => d.dayHigh) hday
  have hlow : day'.dayLow = day.dayLow := congrArg (fun d => d.dayLow) hday
  have hstart : day'.sessionStartLocal = day.sessionStartLocal :=
    congrArg (fun d => d.sessionStartLocal) hday
  have hvolume : day'.dayVolumeSum = day.dayVolumeSum := congrArg (fun d => d.dayVolumeSum) hday
  have hnum : day'.dayVwapNum = day.dayVwapNum := congrArg (fun d => d.dayVwapNum) hday
  exact ⟨hopen.trans h.dayOpen, hhigh.trans h.dayHigh, hlow.trans h.dayLow,
    hstart.trans h.sessionStart, hvolume.trans h.volume, hnum.trans h.vwapNum⟩

theorem update (h : Sums config day bars) (bar : BarEvent) :
    Sums config (day.update bar (localTimeOf config bar)) (bars ++ [bar]) := by
  -- the first bar stays the first
  have hhead {A : Type} (f : BarEvent → A) :
      some ((bars.head?.map f).getD (f bar)) = (bars ++ [bar]).head?.map f := by
    cases bars <;> rfl
  refine ⟨?_, ?_, ?_, ?_, ?_, ?_⟩
  · show some (day.dayOpen.getD bar.o) = _
    rw [h.dayOpen]
    exact hhead BarEvent.o
  · show some (max (day.dayHigh.getD bar.h) bar.h) = _
    rw [h.dayHigh]
    cases bars with
    | nil => simp
    | cons first rest =>
      rw [List.map_append, List.map_cons, List.cons_append, List.max?_cons', List.max?_cons',
        List.foldl_append]
      rfl
  · show some (min (day.dayLow.getD bar.l) bar.l) = _
    rw [h.dayLow]
    cases bars with
    | nil => simp
    | cons first rest =>
      rw [List.map_append, List.map_cons, List.cons_append, List.min?_cons', List.min?_cons',
        List.foldl_append]
      rfl
  · show some (day.sessionStartLocal.getD (localTimeOf config bar)) = _
    rw [h.sessionStart]
    exact hhead (localTimeOf config)
  · show day.dayVolumeSum + weight bar = _
    rw [h.volume]
    simp
  · show day.dayVwapNum + typicalPrice bar * weight bar = _
    rw [h.vwapNum]
    simp

end Sums

/-! ### The bars of the last date -/

def dateOf (config : AlorUsdrubfHybridConfig) (bar : BarEvent) : NaiveDate :=
  (localTimeOf config bar).date

def barsOn (config : AlorUsdrubfHybridConfig) (date : NaiveDate) (bars : List BarEvent) :
    List BarEvent :=
  bars.filter fun bar => dateOf config bar = date

/-- Local dates do not go back. -/
theorem dateOf_le {config : AlorUsdrubfHybridConfig} {bar bar' : BarEvent}
    (hbar : timestampInRange bar.closeTimeUtc = true) (hbar' : timestampInRange bar'.closeTimeUtc = true)
    (h : bar.closeTimeUtc ≤ bar'.closeTimeUtc) : dateOf config bar ≤ dateOf config bar' := by
  unfold dateOf localTimeOf utcToLocal
  rw [if_pos hbar, if_pos hbar']
  exact Int.ediv_le_ediv (by decide) (Int.add_le_add_right h _)

structure Tally (config : AlorUsdrubfHybridConfig) (day : DayAggregates) (counted : List BarEvent) :
    Prop where
  date : day.currentDateLocal = counted.getLast?.map (dateOf config)
  sums : ∀ last, counted.getLast? = some last →
    Sums config day (barsOn config (dateOf config last) counted)

namespace Tally

variable {config : AlorUsdrubfHybridConfig} {day day' : DayAggregates} {counted : List BarEvent}
  {bar : BarEvent}

theorem of_unflagged (h : Tally config day counted) (hday : day'.unflagged = day.unflagged) :
    Tally config day' counted := by
  have hdate : day'.currentDateLocal = day.currentDateLocal :=
    congrArg (fun d => d.currentDateLocal) hday
  exact ⟨hdate.trans h.date, fun last hlast => (h.sums last hlast).of_unflagged hday⟩

theorem barsOn_concat (bars : List BarEvent) (bar : BarEvent) :
    barsOn config (dateOf config bar) (bars ++ [bar]) =
      barsOn config (dateOf config bar) bars ++ [bar] := by
  unfold barsOn
  rw [List.filter_append, List.filter_cons_of_pos (by simp)]
  rfl

/-- One more bar is of the date of the bars before it, or begins a date. -/
theorem concat (h : Tally config day counted)
    (hdates : (counted ++ [bar]).Pairwise fun b b' => dateOf config b ≤ dateOf config b') :
    Tally config
      ((if day.currentDateLocal = some (dateOf config bar) then day
        else .start (some (dateOf config bar))).update bar (localTimeOf config bar))
      (counted ++ [bar]) := by
  refine ⟨?_, ?_⟩
  · rw [List.getLast?_concat]
    split_ifs with hsame
    · exact hsame
    · rfl
  · intro last hlast
    rw [List.getLast?_concat] at hlast
    obtain rfl := Option.some.inj hlast
    rw [barsOn_concat]
    apply Sums.update
    have hdate := h.date
    cases hcounted : counted.getLast? with
    | none =>
      rw [hcounted] at hdate
      rw [List.getLast?_eq_none_iff.mp hcounted, hdate, if_neg (nomatch ·)]
      exact .start config _
    | some last =>
      rw [hcounted, Option.map_some] at hdate
      rw [hdate]
      split_ifs with hsame
      · rw [← Option.some.inj hsame]
        exact h.sums last hcounted
      · -- the bars before are all of earlier dates
        -- what came before is of an earlier date
        have hnone : barsOn config (dateOf config bar) counted = [] := by
          refine List.filter_eq_nil_iff.mpr fun b hb hof => hsame ?_
          obtain ⟨before, rfl⟩ := List.getLast?_eq_some_iff.mp hcounted
          rw [List.append_assoc] at hdates
          have hlater := List.pairwise_append.mp hdates
          have hlast : dateOf config last ≤ dateOf config bar :=
            (List.pairwise_cons.mp hlater.2.1).1 bar (List.mem_singleton_self _)
          have hbefore : dateOf config b ≤ dateOf config last := by
            rcases List.mem_append.mp hb with hmem | hmem
            · exact hlater.2.2 b hmem last (List.mem_cons_self ..)
            · rw [List.mem_singleton.mp hmem]
          rw [decide_eq_true_eq] at hof
          rw [hof] at hbefore
          rw [le_antisymm hlast hbefore]
        rw [hnone]
        exact .start config _

end Tally

/-! ### What a bar counts for -/

/-- A bar of the strategy's symbol, within the session. -/
def isSessionBar (config : AlorUsdrubfHybridConfig) (bar : BarEvent) : Bool :=
  bar.symbol = config.symbol && (config.modelSessionStartTime.le (localTimeOf config bar).time &&
    (localTimeOf config bar).time.le config.modelSessionEndTime)

def isNewer (lastProcessedBarTs : Option ℤ) (bar : BarEvent) : Bool :=
  !lastProcessedBarTs.any (bar.closeTimeUtc ≤ ·)

namespace AlorUsdrubfHybridStrategy

variable (s : AlorUsdrubfHybridStrategy)

/-- Live trading holds a bar back: it is not enabled, it still meets the tail of the start, or the bar is
not of a live origin. -/
def isHeldBack (ctx : StrategyCtx) (bar : BarEvent) : Bool :=
  ctx.tradeMode = .live &&
    (!s.config.enableLiveExecution || (!s.liveReady && s.isLiveStartupBarStale ctx bar.closeTimeUtc) ||
      bar.origin ≠ .live)

def isBusy : Bool := s.pendingEntry.isSome || s.openPosition.isSome

end AlorUsdrubfHybridStrategy

section Guards

variable {s : AlorUsdrubfHybridStrategy} {ctx : StrategyCtx} {bar : BarEvent}

theorem gateBar_snd (hsymbol : bar.symbol = s.config.symbol) :
    (s.gateBar ctx bar).2 = (!s.isHeldBack ctx bar && isSessionBar s.config bar) := by
  have hsession : isSessionBar s.config bar = s.isModelSessionBar (s.localTime bar) := by
    unfold isSessionBar
    rw [hsymbol, decide_eq_true rfl, Bool.true_and]
    rfl
  rw [hsession]
  unfold gateBar isHeldBack
  by_cases hlive : ctx.tradeMode = .live
  · simp only [hlive, decide_true, Bool.true_and]
    split_ifs with henabled hstale horigin hready hsuppressed houtside hsuppressed houtside
    all_goals
      simp only [isLiveStartupBarStale, isModelSessionBar, localTime] at *
      grind
  · simp only [hlive, decide_false, Bool.false_and, Bool.false_eq_true, if_false, Bool.not_false,
      Bool.true_and]
    split_ifs with houtside
    · rw [Bool.not_eq_true'] at houtside
      exact houtside.symm
    · rw [Bool.not_eq_true', Bool.not_eq_false] at houtside
      exact houtside.symm

end Guards

/-! ### Histories -/

/-- What some bars of a history leave of a strategy, where the bars that are taken in count. -/
structure Warms (config : AlorUsdrubfHybridConfig) (s s' : AlorUsdrubfHybridStrategy)
    (bars taken : List BarEvent) : Prop where
  sameConfig : s'.config = s.config
  state : s'.state = s.state
  day : taken = [] → s'.day = s.day
  seen : ∀ bar, isNewer s.lastProcessedBarTs bar = false ∨ bar ∈ taken →
    isNewer s'.lastProcessedBarTs bar = false
  bounded : s'.lastProcessedBarTs = s.lastProcessedBarTs ∨
    ∃ bar ∈ bars, isNewer s.lastProcessedBarTs bar = true ∧
      s'.lastProcessedBarTs = some bar.closeTimeUtc
  tallies : ∀ counted, Tally config s.day counted →
    (counted ++ taken).Pairwise (fun b b' => dateOf config b ≤ dateOf config b') →
      Tally config s'.day (counted ++ taken)

section Histories

variable {config : AlorUsdrubfHybridConfig} {s : AlorUsdrubfHybridStrategy}

theorem isNewer_some {ts : ℤ} {bar : BarEvent} :
    isNewer (some ts) bar = false ↔ bar.closeTimeUtc ≤ ts := by
  unfold isNewer
  rw [Bool.not_eq_false', Option.any_some, decide_eq_true_eq]

variable {lastTs : Option ℤ}

theorem isNewer_of_newer {bar other : BarEvent} (hnew : isNewer lastTs bar = true)
    (hold : isNewer lastTs other = false) : isNewer (some bar.closeTimeUtc) other = false := by
  unfold isNewer at hnew hold ⊢
  rw [Bool.not_eq_false', Option.any_some, decide_eq_true_eq]
  cases lastTs with
  | none => cases hold
  | some ts =>
    rw [Option.any_some, Bool.not_eq_true', decide_eq_false_iff_not] at hnew
    rw [Option.any_some, Bool.not_eq_false', decide_eq_true_eq] at hold
    omega

theorem isNewer_trans {bar other : BarEvent} (hnew : isNewer lastTs bar = true)
    (hother : isNewer (some bar.closeTimeUtc) other = true) : isNewer lastTs other = true := by
  by_contra hold
  rw [isNewer_of_newer hnew (Bool.eq_false_iff.mpr hold)] at hother
  cases hother

theorem isNewer_of_lt {bar later : BarEvent} (hnew : isNewer lastTs bar = true)
    (hlt : bar.closeTimeUtc < later.closeTimeUtc) : isNewer lastTs later = true := by
  refine isNewer_trans hnew ?_
  by_contra hold
  have hle := isNewer_some.mp (Bool.eq_false_iff.mpr hold)
  omega

theorem Warms.refl : Warms config s s [] [] where
  sameConfig := rfl
  state := rfl
  day := fun _ => rfl
  seen := by
    rintro bar (h | h)
    · exact h
    · cases h
  bounded := .inl rfl
  tallies := by
    intro counted h _
    rw [List.append_nil]
    exact h

theorem Warms.trans {s₁ s₂ : AlorUsdrubfHybridStrategy} {bars bars' taken taken' : List BarEvent}
    (h : Warms config s s₁ bars taken) (h' : Warms config s₁ s₂ bars' taken') :
    Warms config s s₂ (bars ++ bars') (taken ++ taken') where
  sameConfig := h'.sameConfig.trans h.sameConfig
  state := h'.state.trans h.state
  day := by
    intro hnil
    obtain ⟨htaken, htaken'⟩ := List.append_eq_nil_iff.mp hnil
    rw [h'.day htaken', h.day htaken]
  seen := by
    rintro bar (hold | hmem)
    · exact h'.seen bar (.inl (h.seen bar (.inl hold)))
    · rcases List.mem_append.mp hmem with hmem | hmem
      · exact h'.seen bar (.inl (h.seen bar (.inr hmem)))
      · exact h'.seen bar (.inr hmem)
  bounded := by
    rcases h'.bounded with hsame | ⟨bar, hmem, hnew, hlast⟩
    · rw [hsame]
      rcases h.bounded with hsame | ⟨bar, hmem, hnew, hlast⟩
      · exact .inl hsame
      · exact .inr ⟨bar, List.mem_append_left _ hmem, hnew, hlast⟩
    · refine .inr ⟨bar, List.mem_append_right _ hmem, ?_, hlast⟩
      by_contra hold
      rw [h.seen bar (.inl (Bool.eq_false_iff.mpr hold))] at hnew
      cases hnew
  tallies := by
    intro counted htallies hdates
    rw [← List.append_assoc] at hdates ⊢
    exact h'.tallies _ (h.tallies counted htallies (List.pairwise_append.mp hdates).1) hdates

theorem Warms.skip {s' : AlorUsdrubfHybridStrategy} {bar : BarEvent}
    (h : s' = s ∨ isNewer s.lastProcessedBarTs bar = true ∧
      s' = { s with lastProcessedBarTs := some bar.closeTimeUtc }) :
    Warms config s s' [bar] [] := by
  have hday : s'.config = s.config ∧ s'.state = s.state ∧ s'.day = s.day := by
    rcases h with rfl | ⟨-, rfl⟩ <;> exact ⟨rfl, rfl, rfl⟩
  obtain ⟨hconfig, hstate, hday⟩ := hday
  refine ⟨hconfig, hstate, fun _ => hday, ?_, ?_, ?_⟩
  · rintro other (hold | hmem)
    · rcases h with rfl | ⟨hnew, rfl⟩
      · exact hold
      · exact isNewer_of_newer hnew hold
    · cases hmem
  · rcases h with rfl | ⟨hnew, rfl⟩
    · exact .inl rfl
    · exact .inr ⟨bar, List.mem_singleton_self _, hnew, rfl⟩
  · intro counted htallies _
    rw [List.append_nil, hday]
    exact htallies

theorem warms_warmupBar (hconfig : s.config = config) (bar : BarEvent) :
    Warms config s (s.warmupBar bar).1 [bar]
        (if isSessionBar config bar && isNewer s.lastProcessedBarTs bar then [bar] else []) ∧
      (s.warmupBar bar).2 = (isSessionBar config bar && isNewer s.lastProcessedBarTs bar) := by
  subst hconfig
  unfold warmupBar
  by_cases hsymbol : bar.symbol ≠ s.config.symbol
  -- a bar of another symbol is passed over
  · have hnone : isSessionBar s.config bar = false := by
      unfold isSessionBar
      rw [decide_eq_false hsymbol, Bool.false_and]
    rw [if_pos hsymbol, hnone, Bool.false_and, if_neg Bool.false_ne_true]
    exact ⟨.skip (.inl rfl), rfl⟩
  rw [if_neg hsymbol]
  cases hnew : isNewer s.lastProcessedBarTs bar with
  | false =>
    unfold isNewer at hnew
    rw [Bool.not_eq_false'] at hnew
    rw [if_pos hnew, Bool.and_false, if_neg Bool.false_ne_true]
    exact ⟨.skip (.inl rfl), rfl⟩
  | true =>
    have hnotSeen := hnew
    unfold isNewer at hnotSeen
    rw [Bool.not_eq_true'] at hnotSeen
    rw [if_neg (Bool.eq_false_iff.mp hnotSeen), Bool.and_true]
    dsimp only
    have hsession : s.isModelSessionBar (utcToLocal bar.closeTimeUtc s.config.timezoneOffsetHours) =
        isSessionBar s.config bar := by
      unfold isSessionBar
      rw [decide_eq_true (not_not.mp hsymbol), Bool.true_and]
      rfl
    rw [hsession]
    cases isSessionBar s.config bar with
    | false => exact ⟨.skip (.inr ⟨hnew, rfl⟩), rfl⟩
    | true =>
      -- the bar is its own witness for the last time
      have hlast : ∃ bar' ∈ [bar], isNewer s.lastProcessedBarTs bar' = true ∧
          some bar.closeTimeUtc = some bar'.closeTimeUtc :=
        ⟨bar, List.mem_singleton_self _, hnew, rfl⟩
      refine ⟨⟨rfl, rfl, (nomatch ·), ?_, .inr hlast, ?_⟩, rfl⟩
      · rintro other (hold | hmem)
        · exact isNewer_of_newer hnew hold
        · rw [List.mem_singleton.mp hmem]
          show (!decide (bar.closeTimeUtc ≤ bar.closeTimeUtc)) = false
          rw [decide_eq_true le_rfl, Bool.not_true]
      · intro counted htallies hdates
        have hconcat := htallies.concat hdates
        show Tally s.config
          (DayAggregates.update (if s.day.currentDateLocal ≠ some (dateOf s.config bar) then _ else _)
            bar (localTimeOf s.config bar)) (counted ++ [bar])
        rwa [ite_not]

def takenIn (config : AlorUsdrubfHybridConfig) (lastProcessedBarTs : Option ℤ) (bars : List BarEvent) :
    List BarEvent :=
  bars.filter fun bar => isSessionBar config bar && isNewer lastProcessedBarTs bar

theorem warms_warmupBars (bars : List BarEvent) :
    ∀ {s : AlorUsdrubfHybridStrategy}, s.config = config →
      bars.Pairwise (fun b b' => b.closeTimeUtc < b'.closeTimeUtc) →
        Warms config s (s.warmupBars bars).1 bars (takenIn config s.lastProcessedBarTs bars) ∧
          (s.warmupBars bars).2 = (takenIn config s.lastProcessedBarTs bars).length := by
  induction bars with
  | nil => exact fun _ _ => ⟨.refl, rfl⟩
  | cons bar bars ih =>
    intro s hconfig hincreasing
    obtain ⟨hlater, hincreasing⟩ := List.pairwise_cons.mp hincreasing
    obtain ⟨hbar, hcounts⟩ := warms_warmupBar hconfig bar
    obtain ⟨hbars, hprocessed⟩ := ih (hbar.sameConfig.trans hconfig) hincreasing
    -- a later bar is newer than the last one before and after this bar
    have hsame : takenIn config (s.warmupBar bar).1.lastProcessedBarTs bars =
        takenIn config s.lastProcessedBarTs bars := by
      refine List.filter_congr fun later hmem => ?_
      congr 1
      rcases hbar.bounded with hlast | ⟨bar', hmem', hnew, hlast⟩
      · rw [hlast]
      · obtain rfl := List.mem_singleton.mp hmem'
        rw [hlast, isNewer_of_lt hnew (hlater later hmem)]
        show (!decide (later.closeTimeUtc ≤ bar'.closeTimeUtc)) = true
        rw [decide_eq_false (not_le.mpr (hlater later hmem)), Bool.not_false]
    rw [hsame] at hbars hprocessed
    -- the first bar counts if it is one of the session
    have htaken : takenIn config s.lastProcessedBarTs (bar :: bars) =
        (if isSessionBar config bar && isNewer s.lastProcessedBarTs bar then [bar] else []) ++
          takenIn config s.lastProcessedBarTs bars := by
      unfold takenIn
      rw [List.filter_cons]
      split_ifs <;> rfl
    rw [htaken]
    refine ⟨hbar.trans hbars, ?_⟩
    show (Prod.snd ((s.warmupBar bar).1.warmupBars bars)) + (s.warmupBar bar).2.toNat = _
    rw [hprocessed, hcounts, List.length_append, Nat.add_comm]
    split_ifs with hcond
    · rw [hcond]
      rfl
    · rw [Bool.eq_false_iff.mpr hcond]
      rfl

/-- A history that is taken in is saved, unless it has no bar that counts. -/
theorem warms_warmupFromHistory (hconfig : s.config = config) (hbusy : s.isBusy = false)
    (ctx : StrategyCtx) {bars : List BarEvent}
    (hincreasing : bars.Pairwise fun b b' => b.closeTimeUtc < b'.closeTimeUtc) :
    ∃ s', Warms config s s' bars (takenIn config s.lastProcessedBarTs bars) ∧
      (s.warmupFromHistory ctx bars).1 = if takenIn config s.lastProcessedBarTs bars = [] then s'
        else ({ s' with lifecycleStage := "warmed_up" } : AlorUsdrubfHybridStrategy).syncState := by
  obtain ⟨hwarms, hprocessed⟩ := warms_warmupBars bars hconfig hincreasing
  refine ⟨_, hwarms, ?_⟩
  unfold isBusy at hbusy
  unfold warmupFromHistory
  rw [if_neg (Bool.eq_false_iff.mp hbusy)]
  dsimp only
  rw [hprocessed]
  by_cases hnil : takenIn config s.lastProcessedBarTs bars = []
  · rw [if_pos hnil, hnil, if_neg (by decide)]
  · rw [if_neg hnil, if_pos (List.length_pos_iff.mpr hnil)]

theorem warmupFromHistory_of_busy (hbusy : s.isBusy = true) (ctx : StrategyCtx) (bars : List BarEvent) :
    (s.warmupFromHistory ctx bars).1 = s := by
  unfold isBusy at hbusy
  unfold warmupFromHistory
  rw [if_pos hbusy]

end Histories

/-! ### Runs -/

/-- What reaches a strategy: bars, a history, an answer of the broker, or a restart from the last saved
state, with all of the bars so far as its history. -/
inductive Delivery where
  | bar (ctx : StrategyCtx) (bar : BarEvent)
  | warmup (ctx : StrategyCtx) (bars : List BarEvent)
  | broker (brokerQty : Option ℚ) (e : LiveEvent) (h : e.isOfBroker = true)
  | restart (ctx : StrategyCtx)

def Delivery.bars : Delivery → List BarEvent
  | .bar _ event => [event]
  | .warmup _ history => history
  | .broker _ _ _ | .restart _ => []

namespace AlorUsdrubfHybridStrategy

def reloaded (s : AlorUsdrubfHybridStrategy) : AlorUsdrubfHybridStrategy :=
  (new s.config).setState s.state

end AlorUsdrubfHybridStrategy

/-- A strategy, the bars that were delivered, and those of them that were suppressed. -/
structure MetricsRun where
  strategy : AlorUsdrubfHybridStrategy
  delivered : List BarEvent
  suppressed : List BarEvent

namespace MetricsRun

def start (config : AlorUsdrubfHybridConfig) : MetricsRun := ⟨new config, [], []⟩

variable (r : MetricsRun)

/-- A delivery is answered.  A bar that live trading holds back is suppressed, and so is a history while
an entry or a position is there; a restart takes in all that is newer than the saved state. -/
def step : Delivery → MetricsRun × List Intent
  | .bar ctx bar =>
    let answer := r.strategy.onBar ctx bar
    (⟨answer.1, r.delivered ++ [bar],
      if r.strategy.isHeldBack ctx bar then r.suppressed ++ [bar] else r.suppressed⟩, answer.2)
  | .warmup ctx bars =>
    (⟨(r.strategy.warmupFromHistory ctx bars).1, r.delivered ++ bars,
      if r.strategy.isBusy then r.suppressed ++ bars else r.suppressed⟩, [])
  | .broker brokerQty e _ =>
    let answer := e.handle brokerQty r.strategy
    ({ r with strategy := answer.1 }, answer.2)
  | .restart ctx =>
    let s := r.strategy.reloaded
    (⟨(s.warmupFromHistory ctx r.delivered).1, r.delivered,
      if s.isBusy then r.suppressed
      else r.suppressed.filter fun bar => !isNewer s.lastProcessedBarTs bar⟩, [])

def offered : List BarEvent :=
  r.delivered.filter (isSessionBar r.strategy.config)

def counted : List BarEvent :=
  r.delivered.filter fun bar => isSessionBar r.strategy.config bar && bar ∉ r.suppressed

/-- A bar that the strategy evaluates finds the metrics of those of some bars that are of its local
date. -/
def IsComplete (config : AlorUsdrubfHybridConfig) (bars : MetricsRun → List BarEvent)
    (r : MetricsRun) : Delivery → Prop
  | .bar ctx bar => r.strategy.admits ctx bar = true →
    Describes config (r.strategy.entered ctx bar).day
      (barsOn config (dateOf config bar) (bars (r.step (.bar ctx bar)).1))
  | _ => True

/-! ### What a run keeps -/

/-- The aggregates are those of the bars that count, also the saved ones. -/
structure Kept (config : AlorUsdrubfHybridConfig) (r : MetricsRun) : Prop where
  sameConfig : r.strategy.config = config
  increasing : r.delivered.Pairwise fun b b' => b.closeTimeUtc < b'.closeTimeUtc
  inRange : ∀ bar ∈ r.delivered, timestampInRange bar.closeTimeUtc = true
  delivered : ∀ bar ∈ r.suppressed, bar ∈ r.delivered
  tallies : Tally config r.strategy.day r.counted
  seen : ∀ bar ∈ r.counted, isNewer r.strategy.lastProcessedBarTs bar = false
  bounded : ∀ ts, r.strategy.lastProcessedBarTs = some ts →
    ∃ bar ∈ r.delivered, ts = bar.closeTimeUtc
  saved : ∃ saved, r.strategy.state = some saved ∧ saved.day = r.strategy.day ∧
    (∀ bar ∈ r.counted, isNewer saved.lastProcessedBarTs bar = false) ∧
      ∀ ts, saved.lastProcessedBarTs = some ts → ∃ bar ∈ r.delivered, ts = bar.closeTimeUtc

/-- The bars of a delivery follow those so far. -/
structure IsFresh (r : MetricsRun) (d : Delivery) : Prop where
  increasing : (r.delivered ++ d.bars).Pairwise fun b b' => b.closeTimeUtc < b'.closeTimeUtc
  inRange : ∀ bar ∈ d.bars, timestampInRange bar.closeTimeUtc = true

theorem filter_split {α : Type} {p q : α → Bool} {l : List α}
    (h : l.Pairwise fun a b => q a = true → q b = true) :
    l.filter p = (l.filter fun a => p a && !q a) ++ l.filter fun a => p a && q a := by
  induction l with
  | nil => rfl
  | cons a l ih =>
    obtain ⟨hlater, hrest⟩ := List.pairwise_cons.mp h
    rw [List.filter_cons, List.filter_cons, List.filter_cons, ih hrest]
    cases hp : p a with
    | false => rfl
    | true =>
      cases hq : q a with
      | false => rfl
      | true =>
        have hnone : l.filter (fun a => p a && !q a) = [] := by
          refine List.filter_eq_nil_iff.mpr fun b hb => ?_
          rw [hlater b hb hq, Bool.not_true, Bool.and_false]
          exact Bool.false_ne_true
        rw [hnone]
        rfl

variable {config : AlorUsdrubfHybridConfig} {r r' : MetricsRun}

theorem counted_sublist : r.counted.Sublist r.delivered := List.filter_sublist

variable {s : AlorUsdrubfHybridStrategy}

theorem counted_of_suppressed (hconfig : s.config = r.strategy.config) {bars : List BarEvent}
    (hnew : ∀ bar ∈ r.delivered, bar ∉ bars) :
    (⟨s, r.delivered ++ bars, r.suppressed ++ bars⟩ : MetricsRun).counted = r.counted := by
  unfold counted
  rw [List.filter_append, hconfig]
  have hold : ∀ bar ∈ r.delivered,
      (isSessionBar r.strategy.config bar && decide (bar ∉ r.suppressed ++ bars)) =
        (isSessionBar r.strategy.config bar && decide (bar ∉ r.suppressed)) := by
    intro bar hmem
    simp [hnew bar hmem]
  have hnone : bars.filter (fun bar =>
      isSessionBar r.strategy.config bar && decide (bar ∉ r.suppressed ++ bars)) = [] := by
    refine List.filter_eq_nil_iff.mpr fun bar hmem => ?_
    simp [hmem]
  rw [List.filter_congr hold, hnone, List.append_nil]

theorem counted_of_delivered (hconfig : s.config = r.strategy.config)
    (hdelivered : ∀ bar ∈ r.suppressed, bar ∈ r.delivered) {bars : List BarEvent}
    (hnew : ∀ bar ∈ r.delivered, bar ∉ bars) :
    (⟨s, r.delivered ++ bars, r.suppressed⟩ : MetricsRun).counted =
      r.counted ++ bars.filter (isSessionBar r.strategy.config) := by
  unfold counted
  rw [List.filter_append, hconfig]
  congr 1
  refine List.filter_congr fun bar hmem => ?_
  have hnot : bar ∉ r.suppressed := fun hsuppressed => hnew bar (hdelivered bar hsuppressed) hmem
  rw [decide_eq_true hnot, Bool.and_true]

theorem dates_of_sublist {bars delivered : List BarEvent} (h : bars.Sublist delivered)
    (hincreasing : delivered.Pairwise fun b b' => b.closeTimeUtc < b'.closeTimeUtc)
    (hinRange : ∀ bar ∈ delivered, timestampInRange bar.closeTimeUtc = true) :
    bars.Pairwise fun b b' => dateOf config b ≤ dateOf config b' := by
  refine List.Pairwise.imp_of_mem ?_ (hincreasing.sublist h)
  intro b b' hb hb' hlt
  exact dateOf_le (hinRange b (h.subset hb)) (hinRange b' (h.subset hb')) hlt.le

namespace Kept

theorem start (config : AlorUsdrubfHybridConfig) : Kept config (.start config) where
  sameConfig := rfl
  increasing := .nil
  inRange := nofun
  delivered := nofun
  tallies := ⟨rfl, nofun⟩
  seen := nofun
  bounded := nofun
  saved := ⟨_, rfl, rfl, nofun, nofun⟩

theorem follows (h : Kept config r) {bar : BarEvent}
    (hlater : ∀ b ∈ r.delivered, b.closeTimeUtc < bar.closeTimeUtc) :
    isNewer r.strategy.lastProcessedBarTs bar = true := by
  cases hlast : r.strategy.lastProcessedBarTs with
  | none => rfl
  | some ts =>
    obtain ⟨b, hmem, rfl⟩ := h.bounded ts hlast
    by_contra hold
    have hle := isNewer_some.mp (Bool.eq_false_iff.mpr hold)
    have hlt := hlater b hmem
    omega

theorem fresh (h : Kept config r) {bars : List BarEvent}
    (hincreasing : (r.delivered ++ bars).Pairwise fun b b' => b.closeTimeUtc < b'.closeTimeUtc) :
    (∀ b ∈ r.delivered, b ∉ bars) ∧ ∀ b ∈ bars, isNewer r.strategy.lastProcessedBarTs b = true := by
  have hlater := (List.pairwise_append.mp hincreasing).2.2
  refine ⟨fun b hmem hmem' => lt_irrefl _ (hlater b hmem b hmem'), fun b hmem => ?_⟩
  exact h.follows fun b' hmem' => hlater b' hmem' b hmem

theorem of_saves (hconfig : r'.strategy.config = config)
    (hincreasing : r'.delivered.Pairwise fun b b' => b.closeTimeUtc < b'.closeTimeUtc)
    (hinRange : ∀ bar ∈ r'.delivered, timestampInRange bar.closeTimeUtc = true)
    (hdelivered : ∀ bar ∈ r'.suppressed, bar ∈ r'.delivered)
    (htallies : Tally config r'.strategy.day r'.counted)
    (hseen : ∀ bar ∈ r'.counted, isNewer r'.strategy.lastProcessedBarTs bar = false)
    (hbounded : ∀ ts, r'.strategy.lastProcessedBarTs = some ts →
      ∃ bar ∈ r'.delivered, ts = bar.closeTimeUtc)
    (hsaves : Saves r'.strategy) : Kept config r' := by
  obtain ⟨saved, hstate, hday, hlast, -⟩ := hsaves
  refine ⟨hconfig, hincreasing, hinRange, hdelivered, htallies, hseen, hbounded, saved, hstate, hday,
    ?_, ?_⟩
  · rw [hlast]
    exact hseen
  · rw [hlast]
    exact hbounded

theorem of_sameDay (h : Kept config r) (hkeeps : KeepsDay r.strategy r'.strategy)
    (hsubset : r.delivered ⊆ r'.delivered)
    (hincreasing : r'.delivered.Pairwise fun b b' => b.closeTimeUtc < b'.closeTimeUtc)
    (hinRange : ∀ bar ∈ r'.delivered, timestampInRange bar.closeTimeUtc = true)
    (hdelivered : ∀ bar ∈ r'.suppressed, bar ∈ r'.delivered) (hcounted : r'.counted = r.counted) :
    Kept config r' := by
  have hlonger : ∀ ts, (∃ b ∈ r.delivered, ts = b.closeTimeUtc) →
      ∃ b ∈ r'.delivered, ts = b.closeTimeUtc := by
    rintro ts ⟨b, hmem, hts⟩
    exact ⟨b, hsubset hmem, hts⟩
  have htallies : Tally config r'.strategy.day r'.counted := by
    rw [hkeeps.day, hcounted]
    exact h.tallies
  have hseen : ∀ bar ∈ r'.counted, isNewer r'.strategy.lastProcessedBarTs bar = false := by
    rw [hkeeps.seen, hcounted]
    exact h.seen
  have hbounded : ∀ ts, r'.strategy.lastProcessedBarTs = some ts →
      ∃ bar ∈ r'.delivered, ts = bar.closeTimeUtc := by
    rw [hkeeps.seen]
    exact fun ts hts => hlonger ts (h.bounded ts hts)
  have hconfig := hkeeps.config.trans h.sameConfig
  rcases hkeeps.state with ⟨hstate, -⟩ | hsaves
  · obtain ⟨saved, hsaved, hday, hsavedSeen, hsavedBounded⟩ := h.saved
    refine ⟨hconfig, hincreasing, hinRange, hdelivered, htallies, hseen, hbounded, saved,
      hstate.trans hsaved, hday.trans hkeeps.day.symm, ?_,
      fun ts hts => hlonger ts (hsavedBounded ts hts)⟩
    rw [hcounted]
    exact hsavedSeen
  · exact of_saves hconfig hincreasing hinRange hdelivered htallies hseen hbounded hsaves

theorem delivered_of_suppressed (h : Kept config r) (bars : List BarEvent) (suppresses : Bool) :
    ∀ b ∈ (if suppresses then r.suppressed ++ bars else r.suppressed),
      b ∈ r.delivered ++ bars := by
  intro b hmem
  split_ifs at hmem
  · rcases List.mem_append.mp hmem with hmem | hmem
    · exact List.mem_append_left _ (h.delivered b hmem)
    · exact List.mem_append_right _ hmem
  · exact List.mem_append_left _ (h.delivered b hmem)

theorem inRange_append (h : Kept config r) {bars : List BarEvent}
    (hbars : ∀ b ∈ bars, timestampInRange b.closeTimeUtc = true) :
    ∀ b ∈ r.delivered ++ bars, timestampInRange b.closeTimeUtc = true := by
  intro b hmem
  rcases List.mem_append.mp hmem with hmem | hmem
  · exact h.inRange b hmem
  · exact hbars b hmem

theorem bar_of_symbol (h : Kept config r) (ctx : StrategyCtx) {bar : BarEvent}
    (hsymbol : bar.symbol = config.symbol) (hfresh : IsFresh r (.bar ctx bar)) :
    IsComplete config counted r (.bar ctx bar) ∧ Kept config (r.step (.bar ctx bar)).1 := by
  have hincreasing : (r.delivered ++ [bar]).Pairwise fun b b' => b.closeTimeUtc < b'.closeTimeUtc :=
    hfresh.increasing
  obtain ⟨hnew, hnewer⟩ := h.fresh hincreasing
  have hnotSeen := hnewer bar (List.mem_singleton_self _)
  have hconfig := h.sameConfig
  have hlater := (List.pairwise_append.mp hincreasing).2.2
  have hsees : SeesBar r.strategy ctx bar (r.strategy.onBar ctx bar).1 :=
    seesBar_onBar (hconfig ▸ hsymbol) (Bool.not_eq_true' _ ▸ hnotSeen)
  have hgate : (r.strategy.gateBar ctx bar).2 =
      (!r.strategy.isHeldBack ctx bar && isSessionBar r.strategy.config bar) :=
    gateBar_snd (hconfig ▸ hsymbol)
  have hinRange := h.inRange_append hfresh.inRange
  -- a bar that is held back is delivered and does not count
  have hstep : (r.step (.bar ctx bar)).1.counted = r.counted ++
      if (r.strategy.gateBar ctx bar).2 then [bar] else [] := by
    rw [hgate]
    unfold step
    dsimp only
    cases r.strategy.isHeldBack ctx bar with
    | true =>
      rw [if_pos rfl, Bool.not_true, Bool.false_and, if_neg Bool.false_ne_true, List.append_nil]
      exact counted_of_suppressed hsees.config hnew
    | false =>
      rw [if_neg Bool.false_ne_true, Bool.not_false, Bool.true_and]
      rw [counted_of_delivered hsees.config h.delivered hnew, List.filter_cons]
      rfl
  have hsublist : (r.step (.bar ctx bar)).1.counted.Sublist (r.delivered ++ [bar]) := counted_sublist
  have hdates : (r.step (.bar ctx bar)).1.counted.Pairwise
      fun b b' => dateOf config b ≤ dateOf config b' :=
    dates_of_sublist hsublist hincreasing hinRange
  -- the metrics once the bar belongs to its day
  have hentered : (r.strategy.gateBar ctx bar).2 = true →
      Tally config (r.strategy.entered ctx bar).day (r.step (.bar ctx bar)).1.counted := by
    intro hadmits
    rw [hadmits, if_pos rfl] at hstep
    rw [hstep] at hdates ⊢
    rw [day_entered]
    have hconcat := h.tallies.concat hdates
    unfold localDate localTime
    rw [hconfig]
    exact hconcat
  constructor
  · intro hadmits
    unfold admits at hadmits
    rw [Bool.and_eq_true] at hadmits
    have htallies := hentered hadmits.2
    refine (htallies.sums bar ?_).describes
    rw [hstep, hadmits.2, if_pos rfl, List.getLast?_concat]
  · have hlast : (r.step (.bar ctx bar)).1.strategy.lastProcessedBarTs = some bar.closeTimeUtc :=
      hsees.seen
    refine of_saves (hsees.config.trans hconfig) hincreasing hinRange
      (h.delivered_of_suppressed [bar] _) ?_ ?_ ?_ hsees.saves
    -- the aggregates are those of the bars that count
    · cases hadmits : (r.strategy.gateBar ctx bar).2 with
      | true => exact (hentered hadmits).of_unflagged (hsees.admitted hadmits)
      | false =>
        rw [hstep, hadmits, if_neg Bool.false_ne_true, List.append_nil]
        exact (hsees.refused hadmits).symm ▸ h.tallies
    · intro b hmem
      rw [hlast]
      refine isNewer_some.mpr ?_
      rcases List.mem_append.mp (hsublist.subset hmem) with hmem | hmem
      · exact (hlater b hmem bar (List.mem_singleton_self _)).le
      · rw [List.mem_singleton.mp hmem]
    · intro ts hts
      rw [hlast] at hts
      exact ⟨bar, List.mem_append_right _ (List.mem_singleton_self _), (Option.some.inj hts).symm⟩

theorem bar (h : Kept config r) (ctx : StrategyCtx) {event : BarEvent}
    (hfresh : IsFresh r (.bar ctx event)) :
    IsComplete config counted r (.bar ctx event) ∧ Kept config (r.step (.bar ctx event)).1 := by
  by_cases hsymbol : event.symbol = config.symbol
  · exact h.bar_of_symbol ctx hsymbol hfresh
  -- a bar of another symbol is looked at by none of the parts
  have hother : event.symbol ≠ r.strategy.config.symbol := h.sameConfig ▸ hsymbol
  have hsame : r.strategy.onBar ctx event = (r.strategy, []) := onBar_of_old (.inl hother)
  have hincreasing : (r.delivered ++ [event]).Pairwise fun b b' => b.closeTimeUtc < b'.closeTimeUtc :=
    hfresh.increasing
  obtain ⟨hnew, -⟩ := h.fresh hincreasing
  -- no list changes by a bar that does not count
  have hcounted : (r.step (.bar ctx event)).1.counted = r.counted := by
    unfold step
    dsimp only
    rw [hsame]
    split_ifs
    · exact counted_of_suppressed rfl hnew
    · have hnone : isSessionBar r.strategy.config event = false := by
        unfold isSessionBar
        rw [decide_eq_false hother, Bool.false_and]
      rw [counted_of_delivered rfl h.delivered hnew, List.filter_cons, hnone,
        if_neg Bool.false_ne_true, List.filter_nil, List.append_nil]
  constructor
  · intro hadmits
    unfold admits at hadmits
    rw [decide_eq_false hother, Bool.false_and, Bool.false_and] at hadmits
    cases hadmits
  · have hstrategy : (r.step (.bar ctx event)).1.strategy = r.strategy := congrArg Prod.fst hsame
    exact h.of_sameDay (.of_eq (congrArg calendar hstrategy)) (List.subset_append_left _ _) hincreasing
      (h.inRange_append hfresh.inRange) (h.delivered_of_suppressed [event] _) hcounted

theorem warm (h : Kept config r) (hbusy : r.strategy.isBusy = false) (ctx : StrategyCtx)
    {bars : List BarEvent} (hbars : bars.Pairwise fun b b' => b.closeTimeUtc < b'.closeTimeUtc)
    (hstrategy : r'.strategy = (r.strategy.warmupFromHistory ctx bars).1)
    (hsubset : r.delivered ++ bars ⊆ r'.delivered)
    (hincreasing : r'.delivered.Pairwise fun b b' => b.closeTimeUtc < b'.closeTimeUtc)
    (hinRange : ∀ bar ∈ r'.delivered, timestampInRange bar.closeTimeUtc = true)
    (hdelivered : ∀ bar ∈ r'.suppressed, bar ∈ r'.delivered)
    (hcounted : r'.counted = r.counted ++ takenIn config r.strategy.lastProcessedBarTs bars) :
    Kept config r' := by
  obtain ⟨s, hwarms, hwarmed⟩ := warms_warmupFromHistory h.sameConfig hbusy ctx hbars
  rw [hwarmed] at hstrategy
  have hsame : r'.strategy.config = s.config ∧ r'.strategy.day = s.day ∧
      r'.strategy.lastProcessedBarTs = s.lastProcessedBarTs := by
    rw [hstrategy]
    split_ifs <;> exact ⟨rfl, rfl, rfl⟩
  obtain ⟨hconfig, hday, hlast⟩ := hsame
  have hdates : r'.counted.Pairwise fun b b' => dateOf config b ≤ dateOf config b' :=
    dates_of_sublist counted_sublist hincreasing hinRange
  -- the history was counted once
  have htallies : Tally config r'.strategy.day r'.counted := by
    rw [hcounted] at hdates ⊢
    rw [hday]
    exact hwarms.tallies _ h.tallies hdates
  have hseen : ∀ bar ∈ r'.counted, isNewer r'.strategy.lastProcessedBarTs bar = false := by
    intro bar hmem
    rw [hlast]
    rw [hcounted] at hmem
    rcases List.mem_append.mp hmem with hmem | hmem
    · exact hwarms.seen bar (.inl (h.seen bar hmem))
    · exact hwarms.seen bar (.inr hmem)
  -- the last time is that of a bar before, or of the history
  have hbounded : ∀ ts, r'.strategy.lastProcessedBarTs = some ts →
      ∃ bar ∈ r'.delivered, ts = bar.closeTimeUtc := by
    intro ts hts
    rw [hlast] at hts
    rcases hwarms.bounded with hold | ⟨bar, hmem, -, hnew⟩
    · rw [hold] at hts
      obtain ⟨bar, hmem, rfl⟩ := h.bounded ts hts
      exact ⟨bar, hsubset (List.mem_append_left _ hmem), rfl⟩
    · rw [hnew] at hts
      exact ⟨bar, hsubset (List.mem_append_right _ hmem), (Option.some.inj hts).symm⟩
  have hsameConfig := (hconfig.trans hwarms.sameConfig).trans h.sameConfig
  by_cases hnil : takenIn config r.strategy.lastProcessedBarTs bars = []
  · -- nothing is saved, and nothing was taken in
    rw [if_pos hnil] at hstrategy
    obtain ⟨saved, hstate, hsavedDay, hsavedSeen, hsavedBounded⟩ := h.saved
    refine ⟨hsameConfig, hincreasing, hinRange, hdelivered, htallies, hseen, hbounded, saved, ?_, ?_, ?_, ?_⟩
    · rw [hstrategy]
      exact hwarms.state.trans hstate
    · rw [hday, hwarms.day hnil]
      exact hsavedDay
    · rw [hcounted, hnil, List.append_nil]
      exact hsavedSeen
    · intro ts hts
      obtain ⟨bar, hmem, rfl⟩ := hsavedBounded ts hts
      exact ⟨bar, hsubset (List.mem_append_left _ hmem), rfl⟩
  · rw [if_neg hnil] at hstrategy
    exact of_saves hsameConfig hincreasing hinRange hdelivered htallies hseen hbounded
      (hstrategy ▸ saves_syncState _)

theorem warmup (h : Kept config r) (ctx : StrategyCtx) {bars : List BarEvent}
    (hfresh : IsFresh r (.warmup ctx bars)) : Kept config (r.step (.warmup ctx bars)).1 := by
  have hincreasing : (r.delivered ++ bars).Pairwise fun b b' => b.closeTimeUtc < b'.closeTimeUtc :=
    hfresh.increasing
  obtain ⟨hnew, hnewer⟩ := h.fresh hincreasing
  have hinRange := h.inRange_append hfresh.inRange
  obtain ⟨hconfig, -⟩ := warmupFromHistory_spec (s := r.strategy) ctx bars
  cases hbusy : r.strategy.isBusy with
  | true =>
    have hstrategy : (r.step (.warmup ctx bars)).1.strategy = r.strategy :=
      warmupFromHistory_of_busy hbusy ctx bars
    refine h.of_sameDay (.of_eq (congrArg calendar hstrategy)) (List.subset_append_left _ _) hincreasing
      hinRange (h.delivered_of_suppressed bars _) ?_
    unfold step
    dsimp only
    rw [if_pos hbusy]
    exact counted_of_suppressed hconfig hnew
  | false =>
    refine h.warm hbusy ctx (List.pairwise_append.mp hincreasing).2.1 rfl (List.Subset.refl _) hincreasing
      hinRange (h.delivered_of_suppressed bars _) ?_
    unfold step
    dsimp only
    rw [hbusy, if_neg Bool.false_ne_true, counted_of_delivered hconfig h.delivered hnew, h.sameConfig]
    congr 1
    refine List.filter_congr fun bar hmem => ?_
    rw [hnewer bar hmem, Bool.and_true]

theorem reloaded (h : Kept config r) : Kept config { r with strategy := r.strategy.reloaded } := by
  obtain ⟨saved, hstate, hday, hseen, hbounded⟩ := h.saved
  have hreloaded : r.strategy.reloaded = (new r.strategy.config).setState (some saved) := by
    unfold AlorUsdrubfHybridStrategy.reloaded
    rw [hstate]
  rw [hreloaded]
  refine ⟨h.sameConfig, h.increasing, h.inRange, h.delivered, ?_, hseen, hbounded, saved, rfl, rfl, hseen,
    hbounded⟩
  show Tally config saved.day r.counted
  rw [hday]
  exact h.tallies

theorem restart (h : Kept config r) (ctx : StrategyCtx) : Kept config (r.step (.restart ctx)).1 := by
  have hreloaded := h.reloaded
  obtain ⟨hconfig, -⟩ := warmupFromHistory_spec (s := r.strategy.reloaded) ctx r.delivered
  have hsame : (r.strategy.reloaded.warmupFromHistory ctx r.delivered).1.config = r.strategy.config :=
    hconfig.trans (hreloaded.sameConfig.trans h.sameConfig.symm)
  cases hbusy : r.strategy.reloaded.isBusy with
  | true =>
    have hstrategy : (r.step (.restart ctx)).1.strategy = r.strategy.reloaded :=
      warmupFromHistory_of_busy hbusy ctx r.delivered
    have hsuppressed : (r.step (.restart ctx)).1.suppressed = r.suppressed := by
      unfold step
      dsimp only
      rw [if_pos hbusy]
    refine hreloaded.of_sameDay (.of_eq (congrArg calendar hstrategy)) (List.Subset.refl _) h.increasing
      h.inRange (hsuppressed ▸ h.delivered) ?_
    unfold counted
    rw [hstrategy, hsuppressed]
    rfl
  | false =>
    -- what is newer than the saved state is taken in from the history
    have hsuppressed : (r.step (.restart ctx)).1.suppressed = r.suppressed.filter fun bar =>
        !isNewer r.strategy.reloaded.lastProcessedBarTs bar := by
      unfold step
      dsimp only
      rw [hbusy, if_neg Bool.false_ne_true]
    refine hreloaded.warm hbusy ctx h.increasing rfl ?_ h.increasing h.inRange ?_ ?_
    · intro b hmem
      rcases List.mem_append.mp hmem with hmem | hmem <;> exact hmem
    · rw [hsuppressed]
      exact fun b hmem => h.delivered b (List.mem_filter.mp hmem).1
    · have hsplit := filter_split (p := fun bar => isSessionBar r.strategy.config bar &&
          decide (bar ∉ (r.step (.restart ctx)).1.suppressed))
        (q := isNewer r.strategy.reloaded.lastProcessedBarTs) (l := r.delivered)
        (h.increasing.imp fun hlt hnew => isNewer_of_lt hnew hlt)
      have hcounted : (r.step (.restart ctx)).1.counted = r.delivered.filter fun bar =>
          isSessionBar r.strategy.config bar && decide (bar ∉ (r.step (.restart ctx)).1.suppressed) := by
        unfold counted
        rw [show (r.step (.restart ctx)).1.strategy.config = r.strategy.config from hsame]
        rfl
      have hmem : ∀ bar, bar ∈ (r.step (.restart ctx)).1.suppressed ↔
          bar ∈ r.suppressed ∧ isNewer r.strategy.reloaded.lastProcessedBarTs bar = false := by
        intro bar
        rw [hsuppressed, List.mem_filter, Bool.not_eq_true']
      rw [hcounted, hsplit]
      congr 1
      · -- what the saved state has seen counts as before
        refine List.filter_congr fun bar hbar => ?_
        cases hnewer : isNewer r.strategy.reloaded.lastProcessedBarTs bar with
        | false =>
          have hsame : bar ∉ (r.step (.restart ctx)).1.suppressed ↔ bar ∉ r.suppressed :=
            not_congr ((hmem bar).trans (and_iff_left hnewer))
          show _ = (isSessionBar r.strategy.reloaded.config bar && decide (bar ∉ r.suppressed))
          rw [Bool.not_false, Bool.and_true, decide_eq_decide.mpr hsame, hreloaded.sameConfig,
            h.sameConfig]
        | true =>
          rw [Bool.not_true, Bool.and_false]
          by_contra hcounts
          have hold := hreloaded.seen bar (List.mem_filter.mpr
            ⟨hbar, (Bool.eq_false_or_eq_true _).resolve_right (fun hnot => hcounts hnot.symm)⟩)
          rw [hnewer] at hold
          cases hold
      · refine List.filter_congr fun bar _ => ?_
        cases hnewer : isNewer r.strategy.reloaded.lastProcessedBarTs bar with
        | false => rw [Bool.and_false, Bool.and_false]
        | true =>
          have hnot : bar ∉ (r.step (.restart ctx)).1.suppressed := by
            intro hsuppressed
            rw [((hmem bar).mp hsuppressed).2] at hnewer
            cases hnewer
          rw [decide_eq_true hnot, Bool.and_true, h.sameConfig]

theorem broker (h : Kept config r) (brokerQty : Option ℚ) {e : LiveEvent} (he : e.isOfBroker = true) :
    Kept config (r.step (.broker brokerQty e he)).1 := by
  have hkeeps := keepsDay_handle (s := r.strategy) brokerQty he
  refine h.of_sameDay hkeeps (List.Subset.refl _) h.increasing h.inRange h.delivered ?_
  show r.delivered.filter (fun bar => isSessionBar (e.handle brokerQty r.strategy).1.config bar && _) = _
  rw [hkeeps.config]
  rfl

theorem step (h : Kept config r) {d : Delivery} (hfresh : IsFresh r d) :
    IsComplete config counted r d ∧ Kept config (r.step d).1 := by
  cases d with
  | bar ctx event => exact h.bar ctx hfresh
  | warmup ctx bars => exact ⟨trivial, h.warmup ctx hfresh⟩
  | broker brokerQty e he => exact ⟨trivial, h.broker brokerQty he⟩
  | restart ctx => exact ⟨trivial, h.restart ctx⟩

end Kept

theorem always_fresh {deliveries : List Delivery}
    (hincreasing : (r.delivered ++ deliveries.flatMap Delivery.bars).Pairwise
      fun b b' => b.closeTimeUtc < b'.closeTimeUtc)
    (hinRange : ∀ b ∈ deliveries.flatMap Delivery.bars, timestampInRange b.closeTimeUtc = true) :
    Reaction.Always step IsFresh r deliveries := by
  induction deliveries generalizing r with
  | nil => trivial
  | cons d deliveries ih =>
    rw [List.flatMap_cons] at hincreasing hinRange
    rw [← List.append_assoc] at hincreasing
    have hdelivered : (r.step d).1.delivered = r.delivered ++ d.bars := by
      cases d with
      | bar | warmup => rfl
      | broker | restart => exact (List.append_nil _).symm
    refine ⟨⟨(List.pairwise_append.mp hincreasing).1,
      fun b hmem => hinRange b (List.mem_append_left _ hmem)⟩, ih ?_ ?_⟩
    · rw [hdelivered]
      exact hincreasing
    · exact fun b hmem => hinRange b (List.mem_append_right _ hmem)

end MetricsRun

/-- Whenever the strategy evaluates a bar, the metrics of its local date are those of the bars of the
session that were delivered and not suppressed; each of them counts once. -/
theorem always_described (config : AlorUsdrubfHybridConfig) (deliveries : List Delivery)
    (hincreasing : (deliveries.flatMap Delivery.bars).Pairwise
      fun b b' => b.closeTimeUtc < b'.closeTimeUtc)
    (hinRange : ∀ b ∈ deliveries.flatMap Delivery.bars, timestampInRange b.closeTimeUtc = true) :
    Reaction.Always MetricsRun.step (MetricsRun.IsComplete config MetricsRun.counted) (.start config)
      deliveries :=
  Reaction.Always.of_invariant (fun _ _ hkept hfresh => MetricsRun.Kept.step hkept hfresh)
    (MetricsRun.Kept.start config) (MetricsRun.always_fresh hincreasing hinRange)

namespace Sample

def barOf (origin : DataOrigin) (tsUtc : ℤ) (high : ℚ) : BarEvent :=
  ⟨"USDRUBF", tsUtc, 100, 100, high, 99, 1, origin⟩

def deliver (bar : BarEvent) : Delivery := .bar (ctx bar.closeTimeUtc).ctx bar

def deliveries : List Delivery :=
  [.warmup (ctx morning).ctx [barOf .history morning 101], deliver (barOf .live (morning + 600) 102),
    .restart (ctx morning).ctx, deliver (barOf .replay (morning + 1200) 103),
    deliver (barOf .live (morning + 1800) 100)]

def midnight : AlorUsdrubfHybridConfig :=
  { config true with modelSessionStartTime := .fromHms 0 0 0 }

def beforeAllDates : List Delivery :=
  [deliver (barOf .live (-9 * 10 ^ 12) 103), deliver (barOf .live (-40000) 100),
    deliver (barOf .live 2000 100)]

end Sample

theorem always_described_deliveries :
    Reaction.Always MetricsRun.step (MetricsRun.IsComplete (Sample.config true) MetricsRun.counted)
      (.start (Sample.config true)) Sample.deliveries :=
  always_described (Sample.config true) Sample.deliveries (by decide +kernel) (by decide +kernel)

/-- Not every bar of the session that was delivered counts, and dates that are out of range are
confused. -/
theorem not_always_offered :
    ¬Reaction.Always MetricsRun.step (MetricsRun.IsComplete (Sample.config true) MetricsRun.offered)
        (.start (Sample.config true)) Sample.deliveries ∧
      ¬Reaction.Always MetricsRun.step (MetricsRun.IsComplete Sample.midnight MetricsRun.offered)
        (.start Sample.midnight) Sample.beforeAllDates := by
  constructor
  · intro h
    have hlast := h.2.2.2.2.1 (by decide +kernel)
    exact absurd hlast.dayHigh (by decide +kernel)
  · intro h
    have hlast := h.2.2.1 (by decide +kernel)
    exact absurd hlast.dayHigh (by decide +kernel)

end AlorRs.AlorUsdrubfHybrid
