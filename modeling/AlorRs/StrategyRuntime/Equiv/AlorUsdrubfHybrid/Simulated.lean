import AlorRs.Lib.RoundTrips
import AlorRs.StrategyRuntime.Equiv.AlorUsdrubfHybrid.Run

/-!
# The simulated trades of the USDRUBF strategy

Outside live trading the strategy fills its entries at the open of the next bar and its exits at the close
of a bar or at a level of the position, and it carries no position from one day to another.  Between two
days its orders open and close in turn, an order is only priced outside its bar where the bar jumps over
the level (`IsPriced`), and the cash is what the closed positions brought in (`balanced_of_paper`).
-/

namespace AlorRs.AlorUsdrubfHybrid

open AlorUsdrubfHybridStrategy RoundTrips

/-! ### Orders -/

/-- A bar whose open and close lie between its low and its high. -/
structure IsSound (bar : BarEvent) : Prop where
  open' : bar.o ∈ Set.Icc bar.l bar.h
  close : bar.close ∈ Set.Icc bar.l bar.h

def IsFair (bar : BarEvent) : Intent → Prop
  | .market _ _ (some fillPrice) _ => fillPrice ∈ Set.Icc bar.l bar.h
  | _ => False

def Closes : Intent → Intent → Prop
  | .market qty side _ _, .market qty' side' _ _ => qty' = qty ∧ side' ≠ side
  | _, _ => False

def profit (config : AlorUsdrubfHybridConfig) : Intent × Intent → ℚ
  | (.market qty side (some entryPrice) _, .market _ _ (some exitPrice) _) =>
    (match side with
      | .buy => (exitPrice - entryPrice) * qty
      | .sell => (entryPrice - exitPrice) * qty) -
      (entryPrice + exitPrice) * qty * (config.commissionPctPerSide / 100)
  | _ => 0

def PositionSide.IsBeyondStop (side : PositionSide) (bar : BarEvent) (level : ℚ) : Prop :=
  match side with
  | .long => bar.h < level
  | .short => level < bar.l

namespace OpenPosition

def entry (pos : OpenPosition) (comment : String) : Intent :=
  .market pos.size pos.side.entrySide (some pos.entryPrice) (some comment)

def exit (pos : OpenPosition) (fillPrice : ℚ) (comment : String) : Intent :=
  .market pos.size pos.side.exitSide (some fillPrice) (some comment)

variable (pos : OpenPosition)

theorem closes_exit (fillPrice : ℚ) (comment comment' : String) :
    Closes (pos.entry comment) (pos.exit fillPrice comment') := by
  refine ⟨rfl, ?_⟩
  cases hside : pos.side with
  | long | short => simp [PositionSide.exitSide, PositionSide.entrySide]

/-- What an exit at a price brings in, by the side of the position. -/
theorem profit_exit (config : AlorUsdrubfHybridConfig) (fillPrice : ℚ) (comment comment' : String) :
    profit config (pos.entry comment, pos.exit fillPrice comment') = (match pos.side with
        | .long => (fillPrice - pos.entryPrice) * pos.size
        | .short => (pos.entryPrice - fillPrice) * pos.size) -
        (pos.entryPrice + fillPrice) * pos.size * (config.commissionPctPerSide / 100) := by
  unfold profit entry exit
  cases pos.side with
  | long => rfl
  | short => rfl

/-- A level of a position that a bar lies wholly beyond; an MR position is short. -/
def JumpedAt (bar : BarEvent) (level : ℚ) : Prop :=
  (pos.stopPrice = some level ∧ level < bar.l) ∨ (pos.takePrice = some level ∧ bar.h < level) ∨
    (pos.stop2 = some level ∧ pos.side.IsBeyondStop bar level)

end OpenPosition

def Holds : Option OpenPosition → Option Intent → Prop
  | none, none => True
  | some pos, some order => ∃ comment, order = pos.entry comment
  | _, _ => False

variable {order : Option Intent}

theorem Holds.eq_none (h : Holds none order) : order = none := by
  cases order with
  | none => rfl
  | some order => exact h.elim

theorem Holds.exists_entry {pos : OpenPosition} (h : Holds (some pos) order) :
    ∃ comment, order = some (pos.entry comment) := by
  cases order with
  | none => exact h.elim
  | some order =>
    obtain ⟨comment, rfl⟩ := h
    exact ⟨comment, rfl⟩

/-! ### The orders so far -/

/-- The orders so far, with a break at every day: they open and close in turn, the last entry without an
exit is that of the position, and the cash is what the others brought in. -/
structure Balanced (config : AlorUsdrubfHybridConfig) (opened : Option OpenPosition) (cash : ℚ)
    (orders : List (Option Intent)) : Prop where
  alternate : AlternateWithin Closes none orders
  holds : Holds opened (leftOpen none orders)
  cash : cash = config.initialCash + ((trips none orders).map (profit config)).sum

namespace Balanced

variable {config : AlorUsdrubfHybridConfig} {opened : Option OpenPosition} {pos : OpenPosition}
  {cash : ℚ} {orders : List (Option Intent)}

theorem start (config : AlorUsdrubfHybridConfig) : Balanced config none config.initialCash [] :=
  ⟨trivial, trivial, (add_zero _).symm⟩

theorem newDay (h : Balanced config opened cash orders) : Balanced config none cash (orders ++ [none]) := by
  refine ⟨?_, ?_, ?_⟩
  · rw [alternateWithin_append]
    refine ⟨h.alternate, ?_⟩
    cases leftOpen none orders <;> trivial
  · rw [leftOpen_append]
    cases leftOpen none orders <;> trivial
  · rw [trips_append]
    have hnone : trips (leftOpen none orders) [none] = [] := by
      cases leftOpen none orders <;> rfl
    rw [hnone, List.append_nil]
    exact h.cash

theorem enter (h : Balanced config none cash orders) (pos : OpenPosition) (comment : String) :
    Balanced config (some pos) cash (orders ++ [some (pos.entry comment)]) := by
  have hopen : leftOpen none orders = none := h.holds.eq_none
  refine ⟨?_, ?_, ?_⟩
  · rw [alternateWithin_append, hopen]
    exact ⟨h.alternate, trivial⟩
  · rw [leftOpen_append, hopen]
    exact ⟨comment, rfl⟩
  · rw [trips_append, hopen]
    have hnone : trips none [some (pos.entry comment)] = [] := rfl
    rw [hnone, List.append_nil]
    exact h.cash

theorem leave (h : Balanced config (some pos) cash orders) (fillPrice : ℚ) (comment : String)
    {brought : ℚ} (hbrought : ∀ entryComment,
      profit config (pos.entry entryComment, pos.exit fillPrice comment) = brought) :
    Balanced config none (cash + brought) (orders ++ [some (pos.exit fillPrice comment)]) := by
  obtain ⟨entryComment, hopen⟩ := h.holds.exists_entry
  refine ⟨?_, ?_, ?_⟩
  · rw [alternateWithin_append, hopen]
    exact ⟨h.alternate, pos.closes_exit fillPrice entryComment comment, trivial⟩
  · rw [leftOpen_append, hopen]
    trivial
  · have htrip : trips (some (pos.entry entryComment)) [some (pos.exit fillPrice comment)] =
        [(pos.entry entryComment, pos.exit fillPrice comment)] := rfl
    rw [trips_append, hopen, htrip, List.map_append, List.sum_append, h.cash, ← hbrought entryComment]
    simp [add_assoc]

end Balanced

/-! ### A bar -/

section Bars

variable {s : AlorUsdrubfHybridStrategy} {ctx : StrategyCtx} {bar : BarEvent}

/-- What the trades of a strategy go by. -/
structure Book where
  config : AlorUsdrubfHybridConfig
  pendingEntry : Option PendingEntry
  opened : Option OpenPosition
  cash : ℚ

namespace AlorUsdrubfHybridStrategy

def book (s : AlorUsdrubfHybridStrategy) : Book := ⟨s.config, s.pendingEntry, s.openPosition, s.cash⟩

def entered (s : AlorUsdrubfHybridStrategy) (ctx : StrategyCtx) (bar : BarEvent) :
    AlorUsdrubfHybridStrategy :=
  (s.gateBar ctx bar).1.enterDay bar
    (utcToLocal bar.closeTimeUtc (s.gateBar ctx bar).1.config.timezoneOffsetHours)

/-- The position with which a bar is traded: the one of the pending entry, or the one that is open. -/
def tradedPosition (s : AlorUsdrubfHybridStrategy) (ctx : StrategyCtx) (bar : BarEvent) :
    Option OpenPosition :=
  ((s.entered ctx bar).maybeFillPendingEntry bar).1.openPosition

end AlorUsdrubfHybridStrategy

theorem book_gateBar : (s.gateBar ctx bar).1.book = s.book := by
  unfold gateBar
  dsimp only
  split_ifs <;> rfl

theorem book_entered :
    (s.entered ctx bar).book =
      if s.startsDay bar then { s.book with pendingEntry := none, opened := none } else s.book := by
  obtain ⟨-, hconfig, hday⟩ := gateBar_spec (s := s) ctx bar
  have hbook : (s.gateBar ctx bar).1.book = s.book := book_gateBar
  have hstarts : (s.gateBar ctx bar).1.startsDay bar = s.startsDay bar := by
    unfold startsDay
    rw [hday, hconfig]
  rw [← hstarts, ← hbook]
  unfold entered enterDay startsDay
  by_cases hsame : (s.gateBar ctx bar).1.day.currentDateLocal =
      some (utcToLocal bar.closeTimeUtc (s.gateBar ctx bar).1.config.timezoneOffsetHours).date
  · rw [if_neg (not_not.mpr hsame), if_neg (by simp [hsame])]
    rfl
  · rw [if_pos hsame, if_pos (by simp [hsame])]
    rfl

theorem onBar_of_simulated (hmode : ctx.tradeMode ≠ .live) (hadmits : s.admits ctx bar = true) :
    let answer := (s.entered ctx bar).tradePaper ctx bar ((s.entered ctx bar).buildResearchSnapshot bar
      (utcToLocal bar.closeTimeUtc (s.gateBar ctx bar).1.config.timezoneOffsetHours))
    (s.onBar ctx bar).1.book = answer.1.book ∧ (s.onBar ctx bar).2 = answer.2 := by
  unfold admits at hadmits
  simp only [Bool.and_eq_true, decide_eq_true_eq, Bool.not_eq_true'] at hadmits
  obtain ⟨⟨hsymbol, hseen⟩, hgate⟩ := hadmits
  have htrade : (s.gateBar ctx bar).1.tradeBar ctx bar = (s.entered ctx bar).tradePaper ctx bar
      ((s.entered ctx bar).buildResearchSnapshot bar
        (utcToLocal bar.closeTimeUtc (s.gateBar ctx bar).1.config.timezoneOffsetHours)) := by
    unfold tradeBar
    rw [if_neg hmode]
    rfl
  unfold onBar
  rw [if_neg (not_not.mpr hsymbol), if_neg (Bool.eq_false_iff.mp hseen),
    show s.gateBar ctx bar = ((s.gateBar ctx bar).1, true) from Prod.ext rfl hgate]
  dsimp only
  rw [if_pos rfl, htrade]
  exact ⟨rfl, rfl⟩

theorem book_onBar_of_not_admits (hadmits : s.admits ctx bar = false) :
    (s.onBar ctx bar).1.book = s.book := by
  unfold onBar
  split_ifs with hsymbol hseen
  · rfl
  · rfl
  · have hgate : (s.gateBar ctx bar).2 = false := by
      unfold admits at hadmits
      simpa [not_not.mp hsymbol, Bool.eq_false_iff.mpr hseen] using hadmits
    rw [show s.gateBar ctx bar = ((s.gateBar ctx bar).1, false) from Prod.ext rfl hgate]
    exact book_gateBar

/-- The orders so far agree with a book, which never holds an entry back while a position is open. -/
structure InBalance (config : AlorUsdrubfHybridConfig) (b : Book) (orders : List (Option Intent)) :
    Prop where
  sameConfig : b.config = config
  exclusive : b.pendingEntry.isSome = true → b.opened = none
  balanced : Balanced config b.opened b.cash orders

namespace InBalance

variable {config : AlorUsdrubfHybridConfig} {b : Book} {orders : List (Option Intent)}

theorem newDay (h : InBalance config b orders) :
    InBalance config { b with pendingEntry := none, opened := none } (orders ++ [none]) :=
  ⟨h.sameConfig, fun _ => rfl, h.balanced.newDay⟩

theorem fill (h : InBalance config s.book orders) (bar : BarEvent) :
    InBalance config (s.maybeFillPendingEntry bar).1.book
      (orders ++ (s.maybeFillPendingEntry bar).2.map some) := by
  unfold maybeFillPendingEntry
  cases hpending : s.pendingEntry with
  | none =>
    simp only [List.map_nil, List.append_nil]
    exact h
  | some pending =>
    have hflat : s.openPosition = none := h.exclusive (by
      show s.pendingEntry.isSome = true
      rw [hpending]
      rfl)
    have hbalanced : Balanced config none s.cash orders := by
      rw [← hflat]
      exact h.balanced
    exact ⟨h.sameConfig, nofun, hbalanced.enter (s.buildOpenPositionFromPending pending bar.closeTimeUtc bar.o
      (s.computeEntrySize bar.o)) _⟩

theorem exit (h : InBalance config s.book orders) (reason : String) (fillPrice : ℚ) :
    InBalance config (s.applyExit reason fillPrice).1.book
      (orders ++ (s.applyExit reason fillPrice).2.map some) := by
  unfold applyExit
  cases hopened : s.openPosition with
  | none =>
    simp only [List.map_nil, List.append_nil]
    exact h
  | some pos =>
    have hbalanced : Balanced config (some pos) s.cash orders := by
      rw [← hopened]
      exact h.balanced
    have hconfig : s.config = config := h.sameConfig
    refine ⟨hconfig, fun _ => rfl, hbalanced.leave fillPrice (s.exitComment reason) fun entryComment => ?_⟩
    rw [pos.profit_exit]
    subst hconfig
    rfl

theorem lookForSignal (h : InBalance config s.book orders) (hmode : ctx.tradeMode ≠ .live)
    (bar : BarEvent) (rs : ResearchSnapshot) :
    InBalance config (s.lookForSignal ctx bar rs).1.book
      (orders ++ (s.lookForSignal ctx bar rs).2.map some) := by
  unfold AlorUsdrubfHybridStrategy.lookForSignal
  split_ifs with hfree
  · cases s.evaluateSignalResearch rs with
    | none =>
      simp only [List.map_nil, List.append_nil]
      exact h
    | some signal =>
      simp only [List.map_nil, List.append_nil]
      simp only [Bool.and_eq_true, Option.isNone_iff_eq_none] at hfree
      exact ⟨h.sameConfig, fun _ => hfree.1.1, h.balanced⟩
  · simp only [List.map_nil, List.append_nil]
    exact h

theorem tradePaper (h : InBalance config s.book orders) (hmode : ctx.tradeMode ≠ .live)
    (bar : BarEvent) (rs : ResearchSnapshot) :
    InBalance config (s.tradePaper ctx bar rs).1.book
      (orders ++ (s.tradePaper ctx bar rs).2.map some) := by
  have hfilled := h.fill bar
  unfold AlorUsdrubfHybridStrategy.tradePaper
  dsimp only
  cases (s.maybeFillPendingEntry bar).1.evaluateExitResearch rs with
  | none =>
    have hsignal := hfilled.lookForSignal hmode bar rs
    rw [List.append_assoc, ← List.map_append] at hsignal
    exact hsignal
  | some exit =>
    have hexit := hfilled.exit exit.1 exit.2
    rw [List.append_assoc, ← List.map_append] at hexit
    exact hexit

end InBalance

/-- The strategy over a bar, with a break at a new day and the orders of the bar. -/
def simulate (s : AlorUsdrubfHybridStrategy) (e : StrategyCtx × BarEvent) :
    AlorUsdrubfHybridStrategy × List (Option Intent) :=
  ((s.onBar e.1 e.2).1,
    (if s.admits e.1 e.2 && s.startsDay e.2 then [none] else []) ++ (s.onBar e.1 e.2).2.map some)

theorem InBalance.simulate {config : AlorUsdrubfHybridConfig} {orders : List (Option Intent)}
    {e : StrategyCtx × BarEvent} (h : InBalance config s.book orders) (hmode : e.1.tradeMode ≠ .live) :
    InBalance config (simulate s e).1.book (orders ++ (simulate s e).2) := by
  obtain ⟨ctx, bar⟩ := e
  unfold AlorUsdrubfHybrid.simulate
  cases hadmits : s.admits ctx bar with
  | false =>
    rw [book_onBar_of_not_admits hadmits, (onBar_of_not_admits hadmits).2]
    simp only [Bool.false_and, Bool.false_eq_true, if_false, List.map_nil, List.append_nil]
    exact h
  | true =>
    obtain ⟨hbook, horders⟩ := onBar_of_simulated hmode hadmits
    have hentered : InBalance config (s.entered ctx bar).book
        (orders ++ if s.startsDay bar then [none] else []) := by
      rw [book_entered]
      split_ifs
      · exact h.newDay
      · rw [List.append_nil]
        exact h
    rw [hbook, horders, Bool.true_and, ← List.append_assoc]
    exact hentered.tradePaper hmode bar _

/-! ### Prices -/

def IsPriced (s : AlorUsdrubfHybridStrategy) (ctx : StrategyCtx) (bar : BarEvent) (order : Intent) :
    Prop :=
  IsFair bar order ∨ ∃ pos ∈ s.tradedPosition ctx bar, ∃ fillPrice comment,
    order = pos.exit fillPrice comment ∧ pos.JumpedAt bar fillPrice

variable {rs : ResearchSnapshot} {fillPrice : ℚ} {reason : String}

theorem mrExit_price (hsound : IsSound bar) (hclose : rs.close = bar.close)
    (hhigh : rs.high = bar.h) (hlow : rs.low = bar.l) {stopPrice takePrice : ℚ}
    (h : s.mrExit rs stopPrice takePrice = some (reason, fillPrice)) :
    fillPrice ∈ Set.Icc bar.l bar.h ∨ (stopPrice = fillPrice ∧ fillPrice < bar.l) ∨
      (takePrice = fillPrice ∧ bar.h < fillPrice) := by
  unfold mrExit at h
  rw [hclose, hhigh, hlow] at h
  split_ifs at h with hstop htake htime
  · obtain ⟨-, rfl⟩ := Prod.mk.inj (Option.some.inj h)
    rcases le_or_gt bar.l stopPrice with hle | hlt
    · exact .inl ⟨hle, hstop⟩
    · exact .inr (.inl ⟨rfl, hlt⟩)
  · obtain ⟨-, rfl⟩ := Prod.mk.inj (Option.some.inj h)
    rcases le_or_gt takePrice bar.h with hle | hlt
    · exact .inl ⟨htake, hle⟩
    · exact .inr (.inr ⟨rfl, hlt⟩)
  · obtain ⟨-, rfl⟩ := Prod.mk.inj (Option.some.inj h)
    exact .inl hsound.close

theorem boExit_price (hsound : IsSound bar) (hclose : rs.close = bar.close)
    (hhigh : rs.high = bar.h) (hlow : rs.low = bar.l) {side : PositionSide} {stop1 stop2 : ℚ}
    (h : s.boExit rs side stop1 stop2 = some (reason, fillPrice)) :
    fillPrice ∈ Set.Icc bar.l bar.h ∨ (stop2 = fillPrice ∧ side.IsBeyondStop bar fillPrice) := by
  unfold boExit at h
  rw [hclose, hhigh, hlow] at h
  cases side with
  | long =>
    dsimp only at h
    split_ifs at h with hstop
    · obtain ⟨-, rfl⟩ := Prod.mk.inj (Option.some.inj h)
      rcases le_or_gt stop2 bar.h with hle | hlt
      · exact .inl ⟨hstop, hle⟩
      · exact .inr ⟨rfl, hlt⟩
    all_goals
      obtain ⟨-, rfl⟩ := Prod.mk.inj (Option.some.inj h)
      exact .inl hsound.close
  | short =>
    dsimp only at h
    split_ifs at h with hstop
    · obtain ⟨-, rfl⟩ := Prod.mk.inj (Option.some.inj h)
      rcases le_or_gt bar.l stop2 with hle | hlt
      · exact .inl ⟨hle, hstop⟩
      · exact .inr ⟨rfl, hlt⟩
    all_goals
      obtain ⟨-, rfl⟩ := Prod.mk.inj (Option.some.inj h)
      exact .inl hsound.close

theorem evaluateExitResearch_price (hsound : IsSound bar) (hclose : rs.close = bar.close)
    (hhigh : rs.high = bar.h) (hlow : rs.low = bar.l)
    (h : s.evaluateExitResearch rs = some (reason, fillPrice)) :
    ∃ pos, s.openPosition = some pos ∧
      (fillPrice ∈ Set.Icc bar.l bar.h ∨ pos.JumpedAt bar fillPrice) := by
  unfold evaluateExitResearch at h
  cases hopened : s.openPosition with
  | none =>
    rw [hopened] at h
    cases h
  | some pos =>
    rw [hopened] at h
    dsimp only at h
    refine ⟨pos, rfl, ?_⟩
    -- an exit needs a confirmed position with both of its levels
    split_ifs at h
    cases howner : pos.owner with
    | meanRev =>
      rw [howner] at h
      cases hstop : pos.stopPrice with
      | none =>
        rw [hstop] at h
        cases h
      | some stopPrice =>
        cases htake : pos.takePrice with
        | none =>
          rw [hstop, htake] at h
          cases h
        | some takePrice =>
          rw [hstop, htake] at h
          rcases mrExit_price hsound hclose hhigh hlow h with hfair | ⟨rfl, hlt⟩ | ⟨rfl, hlt⟩
          · exact .inl hfair
          · exact .inr (.inl ⟨hstop, hlt⟩)
          · exact .inr (.inr (.inl ⟨htake, hlt⟩))
    | breakout =>
      rw [howner] at h
      cases hstop1 : pos.stop1 with
      | none =>
        rw [hstop1] at h
        cases h
      | some stop1 =>
        cases hstop2 : pos.stop2 with
        | none =>
          rw [hstop1, hstop2] at h
          cases h
        | some stop2 =>
          rw [hstop1, hstop2] at h
          rcases boExit_price hsound hclose hhigh hlow h with hfair | ⟨rfl, hjump⟩
          · exact .inl hfair
          · exact .inr (.inr (.inr ⟨hstop2, hjump⟩))

theorem isFair_of_mem_fill (hsound : IsSound bar) {order : Intent}
    (hmem : order ∈ (s.maybeFillPendingEntry bar).2) : IsFair bar order := by
  unfold maybeFillPendingEntry at hmem
  cases hpending : s.pendingEntry with
  | none =>
    rw [hpending] at hmem
    exact (nomatch hmem)
  | some pending =>
    rw [hpending] at hmem
    obtain rfl := List.mem_singleton.mp hmem
    exact hsound.open'

/-- Outside live trading a signal waits for the next bar. -/
theorem orders_lookForSignal (hmode : ctx.tradeMode ≠ .live) (rs : ResearchSnapshot) :
    (s.lookForSignal ctx bar rs).2 = [] := by
  unfold lookForSignal
  split_ifs
  · cases s.evaluateSignalResearch rs with
    | none => rfl
    | some signal => rfl
  · rfl

theorem isPriced_onBar (hmode : ctx.tradeMode ≠ .live) (hsound : IsSound bar) {order : Intent}
    (hmem : order ∈ (s.onBar ctx bar).2) : IsPriced s ctx bar order := by
  cases hadmits : s.admits ctx bar with
  | false =>
    rw [(onBar_of_not_admits hadmits).2] at hmem
    exact (nomatch hmem)
  | true =>
    rw [(onBar_of_simulated hmode hadmits).2] at hmem
    unfold tradePaper at hmem
    dsimp only at hmem
    generalize hrs : (s.entered ctx bar).buildResearchSnapshot bar _ = rs at hmem
    cases hexit : ((s.entered ctx bar).maybeFillPendingEntry bar).1.evaluateExitResearch rs with
    | none =>
      rw [hexit] at hmem
      rcases List.mem_append.mp hmem with hmem | hmem
      · exact .inl (isFair_of_mem_fill hsound hmem)
      · rw [orders_lookForSignal hmode] at hmem
        exact (nomatch hmem)
    | some exit =>
      obtain ⟨reason, fillPrice⟩ := exit
      rw [hexit] at hmem
      rcases List.mem_append.mp hmem with hmem | hmem
      · exact .inl (isFair_of_mem_fill hsound hmem)
      · obtain ⟨pos, hopened, hprice⟩ := evaluateExitResearch_price hsound (by rw [← hrs]; rfl)
          (by rw [← hrs]; rfl) (by rw [← hrs]; rfl) hexit
        unfold applyExit at hmem
        rw [hopened] at hmem
        obtain rfl := List.mem_singleton.mp hmem
        exact hprice.imp id fun hjump => ⟨pos, hopened, fillPrice, _, rfl, hjump⟩

end Bars

/-! ### Runs -/

structure TradesWell (config : AlorUsdrubfHybridConfig) (events : List (StrategyCtx × BarEvent)) :
    Prop where
  alternate : AlternateWithin Closes none (Reaction.outputs simulate (new config) events)
  priced : Reaction.Always simulate
    (fun s e => ∀ order ∈ (s.onBar e.1 e.2).2, IsPriced s e.1 e.2 order) (new config) events
  cash : (Reaction.after simulate (new config) events).cash = config.initialCash +
    ((trips none (Reaction.outputs simulate (new config) events)).map (profit config)).sum

theorem tradesWell_of_simulated (config : AlorUsdrubfHybridConfig)
    (events : List (StrategyCtx × BarEvent))
    (hpaper : ∀ e ∈ events, e.1.tradeMode ≠ .live ∧ IsSound e.2) : TradesWell config events := by
  have hall : Reaction.Always simulate (fun _ e => e.1.tradeMode ≠ .live ∧ IsSound e.2) (new config)
      events := .of_mem hpaper
  have hstart : InBalance config (new config).book [] := ⟨rfl, nofun, .start config⟩
  have hbalance : InBalance config (Reaction.after simulate (new config) events).book
      ([] ++ Reaction.outputs simulate (new config) events) :=
    Reaction.outputs_invariant (J := fun s orders => InBalance config s.book orders)
      (fun _ _ _ h he => h.simulate he.1) hstart hall
  refine ⟨hbalance.balanced.alternate, ?_, hbalance.balanced.cash⟩
  exact hall.mono fun s e he order hmem => isPriced_onBar he.1 he.2 hmem

namespace Sample

def paper (tsUtc : ℤ) (o h l close : ℚ) : StrategyCtx × BarEvent :=
  ({ (ctx tsUtc).ctx with tradeMode := .paper }, ⟨"USDRUBF", tsUtc, close, o, h, l, 1, .live⟩)

def entered (startTs : ℤ) : List (StrategyCtx × BarEvent) :=
  [paper startTs 100 101 99 (10005 / 100), paper (startTs + 600) 100 100 100 100]

def taken : List (StrategyCtx × BarEvent) :=
  entered morning ++ [paper (morning + 1200) 100 100 98 99]

def jumped : List (StrategyCtx × BarEvent) :=
  entered morning ++ [paper (morning + 1200) 102 103 102 102]

def overnight : List (StrategyCtx × BarEvent) := entered morning ++ entered (morning + 86400)

end Sample

instance (bar : BarEvent) : Decidable (IsSound bar) :=
  decidable_of_iff (bar.o ∈ Set.Icc bar.l bar.h ∧ bar.close ∈ Set.Icc bar.l bar.h)
    ⟨fun h => ⟨h.1, h.2⟩, fun h => ⟨h.open', h.close⟩⟩

instance (bar : BarEvent) : DecidablePred (IsFair bar)
  | .market _ _ (some _) _ => inferInstanceAs (Decidable (_ ∈ Set.Icc _ _))
  | .market _ _ none _ => isFalse id
  | .classified _ _ => isFalse id
  | .routed _ _ => isFalse id
  | .place _ _ _ _ => isFalse id
  | .cancel _ => isFalse id
  | .replace _ _ _ => isFalse id
  | .createStopLimit _ _ _ _ _ _ _ _ _ => isFalse id
  | .deleteStopLimit _ _ _ => isFalse id

/-- A position that is closed at its take price. -/
theorem tradesWell_of_simulated_taken : TradesWell (Sample.config true) Sample.taken :=
  tradesWell_of_simulated (Sample.config true) Sample.taken (by decide +kernel)

/-- A position that is open overnight disappears, so that two entries follow each other; a stop that a bar
jumps over is filled at a price below the bar. -/
theorem not_alternate_overnight :
    ((∀ e ∈ Sample.overnight, e.1.tradeMode ≠ .live ∧ IsSound e.2) ∧ ¬Alternate Closes none
          (Reaction.outputs simulate (new (Sample.config true)) Sample.overnight).reduceOption) ∧
      (∀ e ∈ Sample.jumped, e.1.tradeMode ≠ .live ∧ IsSound e.2) ∧
        ¬Reaction.Always simulate (fun s e => ∀ order ∈ (s.onBar e.1 e.2).2, IsFair e.2 order)
          (new (Sample.config true)) Sample.jumped := by
  have horders : (Reaction.outputs simulate (new (Sample.config true)) Sample.overnight).reduceOption =
      [.market 1 .sell (some 100) (some "USDRUBF|entry|mean_rev"),
        .market 1 .sell (some 100) (some "USDRUBF|entry|mean_rev")] := by
    decide +kernel
  refine ⟨⟨by decide +kernel, ?_⟩, by decide +kernel, by decide +kernel⟩
  rw [horders]
  rintro ⟨⟨-, hside⟩, -⟩
  exact hside rfl

end AlorRs.AlorUsdrubfHybrid
