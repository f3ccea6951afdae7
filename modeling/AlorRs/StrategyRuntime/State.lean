import AlorRs.RustText
import AlorRs.StrategyRuntime.StrategyHost

/-!
# The state of the runtime

The part of the runtime that mirrors the broker and that the trade filter keeps:
`shouldProcessTrade` drops the trades it has already let through.
-/

namespace AlorRs

/-- The number of trade keys that are remembered. -/
def tradeDedupLimit : ℕ := 512

structure RuntimeState (P : Type) where
  lastProcessedBarTs : AList fun _ : String => ℤ
  strategyState : P
  orders : AList fun _ : ℤ => OrderEvent
  stopOrders : AList fun _ : String => StopOrderEvent
  positions : AList fun _ : String => PositionEvent
  lastTradeTs : Option ℤ
  lastTradeId : Option String
  seenTradeIds : List String

namespace RuntimeState

variable {P : Type}

def initial (strategyState : P) : RuntimeState P where
  lastProcessedBarTs := ∅
  strategyState := strategyState
  orders := ∅
  stopOrders := ∅
  positions := ∅
  lastTradeTs := none
  lastTradeId := none
  seenTradeIds := []

variable (state : RuntimeState P)

def isDuplicateBar (symbol : String) (barTs : ℤ) : Bool :=
  (state.lastProcessedBarTs.lookup symbol).any fun lastTs => barTs ≤ lastTs

def updateLastBarTs (symbol : String) (barTs : ℤ) : RuntimeState P :=
  { state with lastProcessedBarTs := state.lastProcessedBarTs.insert symbol barTs }

/-- `remember_trade`: the key is pushed and the oldest ones beyond the limit are drained. -/
def rememberTrade (tradeKey : String) (tsUtc : ℤ) : RuntimeState P :=
  if tradeKey ∈ state.seenTradeIds then state
  else
    let seen := state.seenTradeIds ++ [tradeKey]
    let state := { state with seenTradeIds := seen.drop (seen.length - tradeDedupLimit) }
    if state.lastTradeTs.all fun lastTs => lastTs ≤ tsUtc then
      { state with lastTradeTs := some tsUtc, lastTradeId := some tradeKey }
    else state

end RuntimeState

/-- `trade_dedupe_key`: the broker's identifier, or the trade itself where that is blank. -/
def tradeDedupeKey (text : RustText) (trade : TradeEvent) : String :=
  if isBlank trade.tradeId then
    toString trade.orderId ++ ":" ++ toString trade.tsUtc ++ ":" ++ trade.side ++ ":" ++
      text.showF64 trade.qty ++ ":" ++ text.showF64 trade.price
  else trade.tradeId

/-- `should_process_trade`: a trade passes unless its key is remembered or it is older than
the newest one that passed. -/
def RuntimeState.shouldProcessTrade {P : Type} (text : RustText) (state : RuntimeState P)
    (trade : TradeEvent) : RuntimeState P × Bool :=
  let tradeKey := tradeDedupeKey text trade
  if tradeKey ∈ state.seenTradeIds then (state, false)
  else if state.lastTradeTs.any fun lastTs => trade.tsUtc < lastTs then (state, false)
  else (state.rememberTrade tradeKey trade.tsUtc, true)

end AlorRs
