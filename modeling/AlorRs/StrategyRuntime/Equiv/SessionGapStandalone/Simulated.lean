import AlorRs.Lib.Reaction
import AlorRs.Lib.RoundTrips
import AlorRs.StrategyRuntime.Equiv.SessionGapStandalone.Bars
import AlorRs.StrategyRuntime.Equiv.SessionGapStandalone.Positions

/-!
# The simulated trades of the session-gap strategy

Outside live mode the strategy trades a position of its own.  A session that begins forgets it, and an exit
at a level is priced at the level, wherever the bar traded.  As long as no session begins with a position
and every level at which a bar closes a position lies in the bar (`IsOrderly`), entries and exits take
turns, with the same size and opposite sides, at prices of their bars (`balanced_of_orderly`).
-/

namespace AlorRs.SessionGap

open SessionGapStandaloneStrategy RoundTrips

variable {s : SessionGapStandaloneStrategy} {ctx : StrategyCtx} {bar : BarEvent}

/-! ### Fills -/

/-- A bar whose open and close lie between its low and its high. -/
structure IsSound (bar : BarEvent) : Prop where
  open' : bar.o ∈ Set.Icc bar.l bar.h
  close : bar.close ∈ Set.Icc bar.l bar.h

def IsFair (bar : BarEvent) : Intent → Prop
  | .market _ _ (some fillPrice) _ => fillPrice ∈ Set.Icc bar.l bar.h
  | _ => False

def Closes : Intent → Intent → Prop
  | .market qty side _ _, .market qty' side' _ _ => qty' = qty ∧ side' = oppositeSide side
  | _, _ => False

variable (position : Position)

theorem Position.closes_entry (fillPrice fillPrice' : ℚ) :
    Closes (position.entry fillPrice) (position.exit fillPrice') :=
  ⟨rfl, by cases position with | mk direction => cases direction <;> rfl⟩

def Holds : Option Position → Option Intent → Prop
  | none, none => True
  | some position, some intent => ∃ fillPrice, intent = position.entry fillPrice
  | _, _ => False

variable {entry : Option Intent}

theorem Holds.eq_none (h : Holds none entry) : entry = none := by
  cases entry with
  | none => rfl
  | some entry => exact h.elim

variable {position : Position}

theorem Holds.exists_entry (h : Holds (some position) entry) :
    ∃ fillPrice, entry = some (position.entry fillPrice) := by
  cases entry with
  | none => exact h.elim
  | some entry =>
    obtain ⟨fillPrice, rfl⟩ := h
    exact ⟨fillPrice, rfl⟩

/-! ### Orderly bars -/

/-- The position with which a bar is traded: the one that is open, or the one that the bar opens. -/
def tradedPosition (s : SessionGapStandaloneStrategy) (bar : BarEvent) : Option Position :=
  ((updated s bar).maybeOpenPosition bar).1.position

def IsExitTime (s : SessionGapStandaloneStrategy) (bar : BarEvent) : Prop :=
  ∃ sessionEndDt ∈ (updated s bar).sessionEndDt,
    sessionEndDt.timestamp - s.config.exitOffsetMin * 60 ≤ (localTime s.config bar).timestamp

def Position.IsTradedIn (bar : BarEvent) : Prop :=
  match position.direction with
  | .long => if position.tp ≤ bar.h then bar.l ≤ position.tp else position.sl ≤ bar.h
  | .short => if bar.l ≤ position.tp then position.tp ≤ bar.h else bar.l ≤ position.sl

/-- A bar that forgets no position and jumps over no level. -/
structure IsOrderly (s : SessionGapStandaloneStrategy) (bar : BarEvent) : Prop where
  keeps : s.position.isSome → ¬BeginsSession s bar
  levels : ∀ position ∈ tradedPosition s bar, IsExitTime s bar ∨ position.IsTradedIn bar

theorem position_continueSession (s : SessionGapStandaloneStrategy) (barDt : LocalDateTime)
    (bar : BarEvent) : (s.continueSession barDt bar).position = s.position := by
  unfold continueSession
  dsimp only
  repeat' split
  all_goals rfl

theorem position_updated (h : s.position.isSome → ¬BeginsSession s bar) :
    (updated s bar).position = s.position := by
  have hforgotten (hbegins : BeginsSession s bar) : s.position = none := by
    cases hposition : s.position with
    | none => rfl
    | some position => exact absurd hbegins (h (by rw [hposition]; rfl))
  unfold updated updateSession
  cases hlast : s.lastDt with
  | none =>
    rw [hforgotten fun lastDt hmem => absurd (hlast ▸ hmem) nofun]
    rfl
  | some lastDt =>
    dsimp only
    split_ifs with hgap
    · rw [hforgotten fun lastDt' hmem => by
        obtain rfl := Option.some.inj (hlast ▸ hmem)
        exact hgap]
      rfl
    · exact position_continueSession s _ bar

theorem sessionEndDt_maybeOpenPosition (s : SessionGapStandaloneStrategy) (bar : BarEvent) :
    (s.maybeOpenPosition bar).1.sessionEndDt = s.sessionEndDt ∧
      (s.maybeOpenPosition bar).1.config = s.config := by
  unfold maybeOpenPosition
  split <;> exact ⟨rfl, rfl⟩

theorem IsOrderly.fillPrice_mem {fillPrice : ℚ} (h : IsOrderly s bar) (hsound : IsSound bar)
    (hposition : tradedPosition s bar = some position)
    (hprice : ((updated s bar).maybeOpenPosition bar).1.simulatedExitPrice position
      (localTime s.config bar) bar = some fillPrice) : fillPrice ∈ Set.Icc bar.l bar.h := by
  obtain ⟨hend, hconfig⟩ := sessionEndDt_maybeOpenPosition (updated s bar) bar
  unfold simulatedExitPrice at hprice
  rw [hend, hconfig, config_updated] at hprice
  by_cases hexit : (updated s bar).sessionEndDt.any (fun sessionEndDt =>
      sessionEndDt.timestamp - s.config.exitOffsetMin * 60 ≤ (localTime s.config bar).timestamp)
  · rw [if_pos hexit] at hprice
    obtain rfl := Option.some.inj hprice
    exact hsound.close
  · rw [if_neg hexit] at hprice
    have htraded : position.IsTradedIn bar := by
      refine (h.levels position hposition).resolve_left ?_
      rintro ⟨sessionEndDt, hmem, hle⟩
      exact hexit ((Option.any_eq_true ..).mpr ⟨sessionEndDt, hmem, decide_eq_true hle⟩)
    unfold Position.IsTradedIn at htraded
    cases hdirection : position.direction with
    | long =>
      rw [hdirection] at hprice htraded
      dsimp only at hprice htraded
      split_ifs at hprice htraded with htp hsl
      · obtain rfl := Option.some.inj hprice
        exact ⟨htraded, htp⟩
      · obtain rfl := Option.some.inj hprice
        exact ⟨hsl, htraded⟩
    | short =>
      rw [hdirection] at hprice htraded
      dsimp only at hprice htraded
      split_ifs at hprice htraded with htp hsl
      · obtain rfl := Option.some.inj hprice
        exact ⟨htp, htraded⟩
      · obtain rfl := Option.some.inj hprice
        exact ⟨htraded, hsl⟩

/-! ### Balanced trades -/

/-- The trades so far, each with its bar: entries and exits take turns, the last entry without an exit is
that of the open position, and every price is one of its bar. -/
structure Balanced (position : Option Position) (trades : List (BarEvent × Intent)) : Prop where
  alternate : Alternate Closes none (trades.map Prod.snd)
  holds : Holds position (openAfter none (trades.map Prod.snd))
  fair : ∀ trade ∈ trades, IsFair trade.1 trade.2

namespace Balanced

variable {trades : List (BarEvent × Intent)} {position : Position} {fillPrice : ℚ}

theorem enter (h : Balanced none trades) (position : Position)
    (hprice : fillPrice ∈ Set.Icc bar.l bar.h) :
    Balanced (some position) (trades ++ [(bar, position.entry fillPrice)]) := by
  have hopen : openAfter none (trades.map Prod.snd) = none := h.holds.eq_none
  refine ⟨?_, ?_, ?_⟩
  · rw [List.map_append, alternate_append, hopen]
    exact ⟨h.alternate, trivial⟩
  · rw [List.map_append, openAfter_append, hopen]
    exact ⟨fillPrice, rfl⟩
  · intro trade hmem
    rcases List.mem_append.mp hmem with hmem | hmem
    · exact h.fair trade hmem
    · obtain rfl := List.mem_singleton.mp hmem
      exact hprice

theorem leave (h : Balanced (some position) trades) (hprice : fillPrice ∈ Set.Icc bar.l bar.h) :
    Balanced none (trades ++ [(bar, position.exit fillPrice)]) := by
  obtain ⟨entryPrice, hopen⟩ := h.holds.exists_entry
  refine ⟨?_, ?_, ?_⟩
  · rw [List.map_append, alternate_append, hopen]
    exact ⟨h.alternate, position.closes_entry entryPrice fillPrice, trivial⟩
  · rw [List.map_append, openAfter_append, hopen]
    trivial
  · intro trade hmem
    rcases List.mem_append.mp hmem with hmem | hmem
    · exact h.fair trade hmem
    · obtain rfl := List.mem_singleton.mp hmem
      exact hprice

end Balanced

/-! ### A bar -/

theorem onBar_of_not_accepts (h : ¬Accepts s bar) :
    (s.onBar ctx bar).2 = [] ∧ (s.onBar ctx bar).1.position = s.position := by
  by_cases hnew : IsNew s bar
  · rw [onBar_of_not_own hnew fun hown => h ⟨hown, hnew⟩]
    split_ifs
    all_goals exact ⟨rfl, rfl⟩
  · obtain ⟨hnone, hsame⟩ := onBar_of_not_new hnew
    rw [hnone, hsame]
    split_ifs <;> exact ⟨rfl, rfl⟩

theorem position_maybeGenerateSignal (s : SessionGapStandaloneStrategy) (barDt : LocalDateTime)
    (bar : BarEvent) (forceSingleSize : Bool) :
    (s.maybeGenerateSignal barDt bar forceSingleSize).position = s.position := by
  unfold maybeGenerateSignal
  repeat' split
  all_goals rfl

/-- The strategy over a bar that it trades with a position of its own, with the trades and their bar. -/
def simulate (s : SessionGapStandaloneStrategy) (e : StrategyCtx × BarEvent) :
    SessionGapStandaloneStrategy × List (BarEvent × Intent) :=
  ((s.onBar e.1 e.2).1, (s.onBar e.1 e.2).2.map fun intent => (e.2, intent))

/-- A bar outside live mode. -/
structure IsSimulated (s : SessionGapStandaloneStrategy) (e : StrategyCtx × BarEvent) : Prop where
  mode : e.1.tradeMode ≠ .live
  sound : IsSound e.2
  orderly : Accepts s e.2 → IsOrderly s e.2

theorem Balanced.step {trades : List (BarEvent × Intent)} {e : StrategyCtx × BarEvent}
    (h : Balanced s.position trades) (he : IsSimulated s e) :
    Balanced (simulate s e).1.position (trades ++ (simulate s e).2) := by
  obtain ⟨ctx, bar⟩ := e
  by_cases haccepts : Accepts s bar
  · have horderly := he.orderly haccepts
    have hkept := position_updated horderly.keeps
    have hbar : s.onBar ctx bar = (updated s bar).simulateBar (localTime s.config bar).date
        (localTime s.config bar) bar := onBar_of_simulated haccepts he.mode
    -- what the bar opens
    have hopened : Balanced (tradedPosition s bar)
        (trades ++ ((updated s bar).maybeOpenPosition bar).2.map fun intent => (bar, intent)) := by
      rcases maybeOpenPosition_cases (updated s bar) bar with ⟨hnone, hsame⟩ |
        ⟨hflat, position, hposition, hentry⟩
      · unfold tradedPosition
        rw [hnone, hsame, hkept, List.map_nil, List.append_nil]
        exact h
      · unfold tradedPosition
        rw [hposition, hentry]
        refine Balanced.enter ?_ position he.sound.open'
        rw [← hflat, hkept]
        exact h
    -- what the bar closes
    have hposition : (simulate s (ctx, bar)).1.position =
        (((updated s bar).maybeOpenPosition bar).1.maybeClosePosition (localTime s.config bar)
          bar).1.position := by
      show (s.onBar ctx bar).1.position = _
      rw [hbar]
      exact position_maybeGenerateSignal _ _ _ _
    have htrades : (simulate s (ctx, bar)).2 =
        (((updated s bar).maybeOpenPosition bar).2.map fun intent => (bar, intent)) ++
          (((updated s bar).maybeOpenPosition bar).1.maybeClosePosition (localTime s.config bar)
            bar).2.map fun intent => (bar, intent) := by
      show (s.onBar ctx bar).2.map _ = _
      rw [hbar, ← List.map_append]
      rfl
    rw [hposition, htrades, ← List.append_assoc]
    rcases maybeClosePosition_cases ((updated s bar).maybeOpenPosition bar).1
      (localTime s.config bar) bar with ⟨hnone, hsame⟩ |
      ⟨position, fillPrice, hheld, hprice, hclosed, hexit⟩
    · rw [hnone, hsame, List.map_nil, List.append_nil]
      exact hopened
    · have hheld' : tradedPosition s bar = some position := hheld
      rw [hclosed, hexit]
      rw [hheld'] at hopened
      exact hopened.leave (horderly.fillPrice_mem he.sound hheld' hprice)
  · obtain ⟨hnone, hsame⟩ : (s.onBar ctx bar).2 = [] ∧ (s.onBar ctx bar).1.position = s.position :=
      onBar_of_not_accepts haccepts
    show Balanced (s.onBar ctx bar).1.position (trades ++ (s.onBar ctx bar).2.map _)
    rw [hnone, hsame, List.map_nil, List.append_nil]
    exact h

/-- The trades of bars that forget no position and jump over no level. -/
theorem balanced_of_orderly (s : SessionGapStandaloneStrategy) (events : List (StrategyCtx × BarEvent))
    (hflat : s.position = none) (horderly : Reaction.Always simulate IsSimulated s events) :
    Balanced (Reaction.after simulate s events).position (Reaction.outputs simulate s events) := by
  have hstart : Balanced s.position [] := by
    rw [hflat]
    exact ⟨trivial, trivial, nofun⟩
  exact Reaction.outputs_invariant (J := fun s trades => Balanced s.position trades)
    (fun _ _ _ h he => h.step he) hstart horderly

/-! ### Runs -/

instance (bar : BarEvent) : Decidable (IsSound bar) :=
  decidable_of_iff (bar.o ∈ Set.Icc bar.l bar.h ∧ bar.close ∈ Set.Icc bar.l bar.h)
    ⟨fun h => ⟨h.1, h.2⟩, fun h => ⟨h.open', h.close⟩⟩

instance (s : SessionGapStandaloneStrategy) (bar : BarEvent) : Decidable (IsExitTime s bar) :=
  inferInstanceAs (Decidable (∃ sessionEndDt ∈ (updated s bar).sessionEndDt, _ ≤ _))

instance (position : Position) (bar : BarEvent) : Decidable (position.IsTradedIn bar) :=
  match position with
  | ⟨.long, _, tp, sl⟩ =>
    inferInstanceAs (Decidable (if tp ≤ bar.h then bar.l ≤ tp else sl ≤ bar.h))
  | ⟨.short, _, tp, sl⟩ =>
    inferInstanceAs (Decidable (if bar.l ≤ tp then tp ≤ bar.h else bar.l ≤ sl))

instance (s : SessionGapStandaloneStrategy) (bar : BarEvent) : Decidable (IsOrderly s bar) :=
  decidable_of_iff ((s.position.isSome → ¬BeginsSession s bar) ∧
      ∀ position ∈ tradedPosition s bar, IsExitTime s bar ∨ position.IsTradedIn bar)
    ⟨fun h => ⟨h.1, h.2⟩, fun h => ⟨h.keeps, h.levels⟩⟩

instance (s : SessionGapStandaloneStrategy) (e : StrategyCtx × BarEvent) :
    Decidable (IsSimulated s e) :=
  decidable_of_iff (e.1.tradeMode ≠ .live ∧ IsSound e.2 ∧ (Accepts s e.2 → IsOrderly s e.2))
    ⟨fun h => ⟨h.1, h.2.1, h.2.2⟩, fun h => ⟨h.mode, h.sound, h.orderly⟩⟩

instance (bar : BarEvent) : DecidablePred (IsFair bar)
  | .market _ _ (some _) _ => inferInstanceAs (Decidable (_ ∈ Set.Icc _ _))
  | .market _ _ none _ => isFalse id
  | .classified _ _ => isFalse id
  | .routed _ _ => isFalse id
  | .place _ _ _ _ => isFalse id
  | .cancel _ => isFalse id
  | .replace _ _ _ => isFalse id
  | .createStopLimit _ _ _ _ _ _ _ _ _ => isFalse id
  | .deleteStopLimit _ _ _ => isFalse id

namespace Sample

def priced (tsUtc : ℤ) (o l h close : ℚ) : StrategyCtx × BarEvent :=
  ({ Sample.ctx tsUtc 0 with tradeMode := .paper },
    { Sample.bar tsUtc with o := o, l := l, h := h, close := close })

def breakout (startTs : ℤ) (price signalled : ℚ) : List (StrategyCtx × BarEvent) :=
  [priced startTs price price (price + 1) price, priced (startTs + 3600) price price price price,
    priced (startTs + 7200) price price price price,
    priced (startTs + 10800) price price signalled signalled,
    priced (startTs + 14400) signalled signalled signalled signalled]

/-- Two sessions that warm the indicators, and one in which a position is opened. -/
def opened : List (StrategyCtx × BarEvent) :=
  [priced 1699869540 100 100 101 100, priced 1699955940 100 100 101 100] ++
    breakout 1700042340 100 102

def overnight : List (StrategyCtx × BarEvent) := opened ++ breakout 1700128740 103 105

def jump : List (StrategyCtx × BarEvent) := opened ++ [priced 1700056800 103 103 104 103]

def taken : List (StrategyCtx × BarEvent) := opened ++ [priced 1700056800 102 102 103 103]

def fresh : SessionGapStandaloneStrategy := new .default ⟨none, false, false⟩

end Sample

/-- A position that is opened and closed at the level at which the profit is taken. -/
theorem balanced_of_orderly_taken :
    Balanced (Reaction.after simulate Sample.fresh Sample.taken).position
      (Reaction.outputs simulate Sample.fresh Sample.taken) :=
  balanced_of_orderly Sample.fresh Sample.taken rfl (by decide +kernel)

/-- A position that is still open overnight is forgotten, so that two entries follow each other; a profit
is taken at a price below the bar. -/
theorem not_balanced_overnight :
    ((∀ e ∈ Sample.overnight, e.1.tradeMode ≠ .live ∧ IsSound e.2) ∧
        (Reaction.outputs simulate Sample.fresh Sample.overnight).map Prod.snd =
          [.market 264 .buy (some 102) none, .market 26 .buy (some 105) none] ∧
        ¬Alternate Closes none
          ((Reaction.outputs simulate Sample.fresh Sample.overnight).map Prod.snd)) ∧
      (∀ e ∈ Sample.jump, e.1.tradeMode ≠ .live ∧ IsSound e.2) ∧
        ¬∀ trade ∈ Reaction.outputs simulate Sample.fresh Sample.jump,
          IsFair trade.1 trade.2 := by
  have htrades : (Reaction.outputs simulate Sample.fresh Sample.overnight).map Prod.snd =
      [.market 264 .buy (some 102) none, .market 26 .buy (some 105) none] := by
    decide +kernel
  refine ⟨⟨by decide +kernel, htrades, ?_⟩, by decide +kernel, by decide +kernel⟩
  rw [htrades]
  rintro ⟨⟨hsize, -⟩, -⟩
  exact absurd hsize (by decide)

end AlorRs.SessionGap
