import AlorRs.StrategyRuntime.Runtime.Emission
import AlorRs.StrategyRuntime.Runtime.Trades

/-!
# The handlers of the broker's events

Each handler ends with the acknowledgment of its stream entry; a failure before that leaves the
entry pending.
-/

namespace AlorRs

open RuntimeM

namespace StrategyRuntime

variable {σ P : Type}

def update (f : Env σ P → StrategyRuntime σ P → StrategyRuntime σ P) : RuntimeM σ P Unit := do
  let env ← Eff.read
  Eff.modify (f env)

def callbackAt (eventTsUtc : ℤ) (lastBar : RuntimeConfig → StrategyRuntime σ P → Option ℤ)
    (callback : Strategy σ P → σ → StrategyCtx → σ × List Intent) : RuntimeM σ P Unit := do
  let env ← Eff.read
  let createdTs ← normalizeEventTs eventTsUtc
  let rt ← Eff.get
  let ctx ← strategyCtx (lastBar env.config rt) eventTsUtc
  invokeAndApply ctx createdTs fun s => callback env.strategy s ctx

variable (stream messageId : String)

def handleAck (ack : CommandAck) : RuntimeM σ P Unit := do
  update fun env rt => registerAcknowledgedOrder env.text rt ack
  callbackAt ack.processedTsUtc (fun config rt => rt.lastBarTs config)
    fun strategy s ctx => strategy.onAck s ctx ack
  xack stream messageId

/-- Events of other symbols, and all of them outside live mode, are only acknowledged. -/
def whenLive (symbol : String) (handle : RuntimeM σ P Unit) :
    RuntimeM σ P Unit := do
  let env ← Eff.read
  if env.config.tradeMode ≠ .live then xack stream messageId
  else if !matchesStrategySymbol env.config symbol then xack stream messageId
  else handle

def handleOrder (order : OrderEvent) : RuntimeM σ P Unit :=
  whenLive stream messageId order.symbol do
    callbackAt order.tsUtc strategyLastBarTs fun strategy s ctx => strategy.onOrder s ctx order
    update fun env rt =>
      let rt := updateLedgerFromOrder env.config env.text rt order
      let rt := { rt with
        state := { rt.state with orders := rt.state.orders.insert order.orderId order } }
      replayPendingTradesForOrder env.text rt order.orderId
    xack stream messageId

def handleStopOrder (stopOrder : StopOrderEvent) : RuntimeM σ P Unit :=
  whenLive stream messageId stopOrder.symbol do
    let env ← Eff.read
    if env.config.capabilities.usesStopOrders then
      callbackAt stopOrder.tsUtc strategyLastBarTs fun strategy s ctx =>
        strategy.onStopOrder s ctx stopOrder
    modifyState fun state =>
      { state with stopOrders := state.stopOrders.insert stopOrder.stopOrderId stopOrder }
    xack stream messageId

/-- The part of `handle_trade` between the trade filter and the acknowledgment. -/
def settleTrade (text : RustText) (rt : StrategyRuntime σ P) (trade : TradeEvent) :
    StrategyRuntime σ P :=
  if trade.orderId ≤ 0 then rt
  else if trade.orderId ∈ rt.ourOrderIds then queueOrApplyOwnedTrade text rt trade
  else
    match rt.bufferPreAckTrade trade with
    | (rt, true) => rt
    | (rt, false) => adoptOrphanTrade text rt trade

def handleTrade (trade : TradeEvent) : RuntimeM σ P Unit :=
  whenLive stream messageId trade.symbol do
    update fun env rt =>
      match rt.state.shouldProcessTrade env.text trade with
      | (state, true) => settleTrade env.text { rt with state := state } trade
      | (state, false) => { rt with state := state }
    xack stream messageId

/-- `handle_position`: outside live mode a failed acknowledgment is only logged. -/
def handlePosition (position : PositionEvent) : RuntimeM σ P Unit := do
  let env ← Eff.read
  if env.config.tradeMode ≠ .live then
    let _ ← Eff.attempt (xack stream messageId)
    return ()
  else
    whenLive stream messageId position.symbol do
      callbackAt position.tsUtc strategyLastBarTs fun strategy s ctx =>
        strategy.onPosition s ctx position
      modifyState fun state =>
        { state with positions := state.positions.insert position.symbol position }
      xack stream messageId

end StrategyRuntime

inductive BrokerEvent where
  | ack (ack : CommandAck)
  | order (order : OrderEvent)
  | stopOrder (stopOrder : StopOrderEvent)
  | trade (trade : TradeEvent)
  | position (position : PositionEvent)

def BrokerEvent.handle {σ P : Type} (stream messageId : String) : BrokerEvent → RuntimeM σ P Unit
  | .ack event => StrategyRuntime.handleAck stream messageId event
  | .order event => StrategyRuntime.handleOrder stream messageId event
  | .stopOrder event => StrategyRuntime.handleStopOrder stream messageId event
  | .trade event => StrategyRuntime.handleTrade stream messageId event
  | .position event => StrategyRuntime.handlePosition stream messageId event

end AlorRs
