import AlorRs.Lib.RecencyFilter
import AlorRs.StrategyRuntime.State

/-!
# Correctness of the trade filter

`RuntimeState.shouldProcessTrade` is the bounded-memory filter of `RecencyFilter` over the keys
and times of the trades (`shouldProcessTrade_filter`).  So it accepts each trade exactly once
only where no trade first arrives after a later one and where a trade that arrives again is
either one of the last 512 or late (`acceptedOnce_iff`).
-/

namespace AlorRs

open RecencyFilter

variable {P : Type}

def TradeEvent.delivery (text : RustText) (trade : TradeEvent) : String × ℤ :=
  (tradeDedupeKey text trade, trade.tsUtc)

namespace RuntimeState

variable (text : RustText) (state : RuntimeState P) (trades : List TradeEvent)

def tradeFilter : Filter String ℤ :=
  ⟨state.seenTradeIds, state.lastTradeTs⟩

/-- The trades of a delivery sequence for which `should_process_trade` answers true. -/
def acceptedTrades (text : RustText) (state : RuntimeState P) : List TradeEvent → List TradeEvent
  | [] => []
  | trade :: trades =>
    let (state, accepted) := state.shouldProcessTrade text trade
    if accepted then trade :: state.acceptedTrades text trades
    else state.acceptedTrades text trades

theorem late_iff (ts : ℤ) :
    (state.lastTradeTs.any fun lastTs => ts < lastTs) = true ↔ state.tradeFilter.Late ts := by
  cases h : state.lastTradeTs with
  | none | some => simp [Filter.Late, tradeFilter, h]

theorem rememberTrade_filter {state : RuntimeState P} {key : String} {ts : ℤ}
    (hseen : key ∉ state.seenTradeIds) (hlate : ¬ state.tradeFilter.Late ts) :
    (state.rememberTrade key ts).tradeFilter =
      ⟨lastN tradeDedupLimit (state.seenTradeIds ++ [key]), some ts⟩ := by
  have hnewer : (state.lastTradeTs.all fun lastTs => lastTs ≤ ts) = true := by
    cases h : state.lastTradeTs with
    | none => rfl
    | some lastTs =>
      exact decide_eq_true (not_lt.mp fun hlt => hlate ⟨lastTs, h, hlt⟩)
  simp only [rememberTrade, if_neg hseen, if_pos hnewer, tradeFilter, lastN]

theorem shouldProcessTrade_filter (trade : TradeEvent) :
    (state.shouldProcessTrade text trade).1.tradeFilter =
      state.tradeFilter.step tradeDedupLimit (trade.delivery text) ∧
    ((state.shouldProcessTrade text trade).2 = true ↔
      state.tradeFilter.Passes (trade.delivery text)) := by
  have hlate := late_iff state trade.tsUtc
  simp only [shouldProcessTrade]
  by_cases hseen : tradeDedupeKey text trade ∈ state.seenTradeIds
  · have hnp : ¬ state.tradeFilter.Passes (trade.delivery text) := fun hp => hp.1 hseen
    rw [if_pos hseen, Filter.step_of_not_passes hnp]
    exact ⟨rfl, by simp [hnp]⟩
  · rw [if_neg hseen]
    by_cases hl : state.tradeFilter.Late trade.tsUtc
    · have hnp : ¬ state.tradeFilter.Passes (trade.delivery text) := fun hp => hp.2 hl
      rw [if_pos (hlate.mpr hl), Filter.step_of_not_passes hnp]
      exact ⟨rfl, by simp [hnp]⟩
    · have hp : state.tradeFilter.Passes (trade.delivery text) := ⟨hseen, hl⟩
      rw [if_neg (mt hlate.mp hl), Filter.step_of_passes hp]
      exact ⟨rememberTrade_filter hseen hl, by simp [hp]⟩

/-- The accepted trades carry the keys that pass the filter. -/
theorem acceptedTrades_passed :
    (state.acceptedTrades text trades).map (tradeDedupeKey text) =
      state.tradeFilter.passed tradeDedupLimit (trades.map (TradeEvent.delivery text)) := by
  induction trades generalizing state with
  | nil => rfl
  | cons trade trades ih =>
    obtain ⟨hstate, hpass⟩ := shouldProcessTrade_filter text state trade
    rw [List.map_cons, Filter.passed, ← hstate]
    simp only [acceptedTrades]
    by_cases hp : state.tradeFilter.Passes (trade.delivery text)
    · rw [if_pos hp, if_pos (hpass.mpr hp), List.map_cons, ih]
      rfl
    · rw [if_neg hp, if_neg (mt hpass.mp hp), ih]

/-! ### Exactly once -/

/-- Every trade delivered is accepted exactly once, from a default state. -/
def AcceptedOnce (start : P) (trades : List TradeEvent) : Prop :=
  ∀ trade ∈ trades, (((initial start).acceptedTrades text trades).map (tradeDedupeKey text)).count
    (tradeDedupeKey text trade) = 1

/-- The delivery sequences that the filter handles: at each delivery, a trade that is new comes
after no later one, and a trade that was delivered before is one of the last 512 or late. -/
def DeliveredInOrder : Prop :=
  ∀ before trade after, trades = before ++ trade :: after →
    OnTime (before.map (TradeEvent.delivery text)) (trade.delivery text) ∧
    Covered tradeDedupLimit (before.map (TradeEvent.delivery text)) (trade.delivery text)

/-- For trades with distinct keys, the filter accepts each exactly once where they are
delivered in order, and only there. -/
theorem acceptedOnce_iff (text : RustText) (start : P) (trades : List TradeEvent)
    (hkeys : ∀ t ∈ trades, ∀ u ∈ trades, tradeDedupeKey text t = tradeDedupeKey text u → t = u) :
    AcceptedOnce text start trades ↔ DeliveredInOrder text trades := by
  have htimed : Timed (trades.map (TradeEvent.delivery text)) := by
    intro d hd e he hk
    obtain ⟨t, ht, rfl⟩ := List.mem_map.mp hd
    obtain ⟨u, hu, rfl⟩ := List.mem_map.mp he
    rw [hkeys t ht u hu hk]
  have honce : AcceptedOnce text start trades ↔
      ExactlyOnce tradeDedupLimit (trades.map (TradeEvent.delivery text)) := by
    simp only [AcceptedOnce, ExactlyOnce, acceptedTrades_passed, List.forall_mem_map]
    rfl
  rw [honce, exactlyOnce_iff tradeDedupLimit htimed]
  constructor
  · intro h before trade after heq
    exact h _ _ (after.map (TradeEvent.delivery text)) (by rw [heq, List.map_append, List.map_cons])
  · intro h before d after heq
    obtain ⟨before, rest, rfl, rfl, hrest⟩ := List.map_eq_append_iff.mp heq
    obtain ⟨trade, after, rfl, rfl, rfl⟩ := List.map_eq_cons_iff.mp hrest
    exact h before trade after rfl

/-! ### Deliveries on both sides -/

/-- A text library for tests: ASCII lower-casing, and whole numbers. -/
def asciiText : RustText where
  toLowercase s := String.ofList (s.toList.map toAsciiLowercase)
  showF64 x := toString x.num

def firstTrade : TradeEvent := ⟨"T1", 7, "IMOEXF", "buy", 1, 100, 0, false, 100⟩

def secondTrade : TradeEvent := ⟨"T2", 7, "IMOEXF", "buy", 1, 100, 0, false, 99⟩

/-- Two trades that arrive in the order of their times, the first of them twice. -/
theorem deliveredInOrder_redelivered :
    DeliveredInOrder asciiText [secondTrade, secondTrade, firstTrade] := by
  have honce : AcceptedOnce asciiText () [secondTrade, secondTrade, firstTrade] := by
    unfold AcceptedOnce
    decide
  exact (acceptedOnce_iff asciiText () _ (by decide)).mp honce

/-- A trade that arrives after a later one is dropped, and is never accepted. -/
theorem not_acceptedOnce_late : ¬ AcceptedOnce asciiText () [firstTrade, secondTrade] := by
  intro h
  have hone := h secondTrade (by decide)
  revert hone
  decide

end RuntimeState

end AlorRs
