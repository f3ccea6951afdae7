import AlorRs.StrategyRuntime.RequestId
import AlorRs.StrategyRuntime.StrategyHost

/-!
# The limit-cancel strategy

`LimitCancelStrategy` places one limit order and cancels it on the next bar.  The id of the order is told
by the ack of the place request or by an order event; a cancel that is due before the id is known is sent
when it is told, unless the strategy has waited for too many bars.
-/

namespace AlorRs.LimitCancel

structure LimitCancelConfig where
  symbol : String
  tickSize : ℚ
  offsetTicks : ℤ
  qty : ℚ
  side : Side
  maxWaitBarsForAck : ℕ
deriving DecidableEq

structure Placed where
  placeRequestId : Uuid
  orderId : Option ℤ
  cancelDue : Bool
  cancelBarTs : Option ℤ
  placedBarTs : ℤ
  lastBarTs : ℤ
  barsWaited : ℕ
deriving DecidableEq

inductive StrategyState where
  | idle
  | placed (order : Placed)
  | cancelSent (cancelRequestId : Uuid) (orderId lastBarTs : ℤ)
  | done (lastBarTs : ℤ)
deriving DecidableEq

structure LimitCancelStrategy where
  config : LimitCancelConfig
  state : StrategyState
  lastProcessedBarTs : Option ℤ
deriving DecidableEq

namespace LimitCancelStrategy

def new (config : LimitCancelConfig) : LimitCancelStrategy := ⟨config, .idle, none⟩

variable (s : LimitCancelStrategy) (ctx : StrategyCtx) (bar : BarEvent)

def buildPlaceIntent : Intent :=
  let offset := (s.config.offsetTicks : ℚ) * s.config.tickSize
  let price :=
    match s.config.side with
    | .buy => bar.close - offset
    | .sell => bar.close + offset
  .place price s.config.qty s.config.side none

def buildCancelIntent (orderId : ℤ) : Intent := .cancel orderId

/-- In live trading a bar is passed over that is not live, or while orders are not allowed. -/
def isHeldBack : Bool :=
  decide (ctx.tradeMode = .live) &&
    (decide (bar.origin ≠ .live) || !ctx.allowLiveOrders || decide (ctx.gatewayPhase ≠ .liveReady))

/-- A bar that is not newer than the last one. -/
def isOld : Bool :=
  s.lastProcessedBarTs.any fun lastTs => bar.closeTimeUtc ≤ lastTs

def sendCancel (symbol : String) (orderId barTs : ℤ) : LimitCancelStrategy × List Intent :=
  ({ s with
      state := .cancelSent
        (deterministicRequestId ctx.strategyId ctx.portfolio symbol "cancel" barTs 1) orderId barTs },
    [buildCancelIntent orderId])

def waitedAfter (order : Placed) : ℕ := (order.barsWaited + 1) % 2 ^ 32

def onPlacedBar (order : Placed) : LimitCancelStrategy × List Intent :=
  let order := { order with lastBarTs := bar.closeTimeUtc, barsWaited := waitedAfter order }
  if s.config.maxWaitBarsForAck < order.barsWaited then
    ({ s with state := .done bar.closeTimeUtc }, [])
  else
    let order := { order with cancelDue := true, cancelBarTs := some bar.closeTimeUtc }
    match order.orderId with
    | some orderId => s.sendCancel ctx bar.symbol orderId bar.closeTimeUtc
    | none => ({ s with state := .placed order }, [])

/-- The step of `on_bar` that looks at the state. -/
def onNewBar : LimitCancelStrategy × List Intent :=
  match s.state with
  | .idle =>
    ({ s with
        state := .placed
          { placeRequestId :=
              deterministicRequestId ctx.strategyId ctx.portfolio bar.symbol "place" bar.closeTimeUtc 0
            orderId := none
            cancelDue := false
            cancelBarTs := none
            placedBarTs := bar.closeTimeUtc
            lastBarTs := bar.closeTimeUtc
            barsWaited := 0 } },
      [s.buildPlaceIntent bar])
  | .placed order => s.onPlacedBar ctx bar order
  | .cancelSent cancelRequestId orderId _ =>
    ({ s with state := .cancelSent cancelRequestId orderId bar.closeTimeUtc }, [])
  | .done _ => ({ s with state := .done bar.closeTimeUtc }, [])

def onBar : LimitCancelStrategy × List Intent :=
  if isHeldBack ctx bar then ({ s with lastProcessedBarTs := some bar.closeTimeUtc }, [])
  else if s.isOld bar then (s, [])
  else
    let (s, intents) := s.onNewBar ctx bar
    ({ s with lastProcessedBarTs := some bar.closeTimeUtc }, intents)

def goesThrough : AckStatus → Bool
  | .confirmed | .accepted | .duplicate => true
  | .rejected | .expired | .error => false

def onPlacedAck (ack : CommandAck) (order : Placed) : LimitCancelStrategy × List Intent :=
  if order.placeRequestId ≠ ack.requestId then (s, [])
  else if goesThrough ack.status then
    let order := { order with orderId := ack.brokerOrderId.or order.orderId }
    match order.cancelDue, order.orderId with
    | true, some orderId =>
      s.sendCancel ctx ctx.symbol orderId
        ((order.cancelBarTs.or ctx.lastBarTs).getD ack.processedTsUtc)
    | _, _ => ({ s with state := .placed order }, [])
  else ({ s with state := .done (s.lastProcessedBarTs.getD ack.processedTsUtc) }, [])

def onAck (ack : CommandAck) : LimitCancelStrategy × List Intent :=
  match s.state with
  | .placed order => s.onPlacedAck ctx ack order
  | .cancelSent cancelRequestId _ _ =>
    -- the status of the ack is not looked at
    if cancelRequestId ≠ ack.requestId then (s, [])
    else ({ s with state := .done (s.lastProcessedBarTs.getD ack.processedTsUtc) }, [])
  | .idle | .done _ => (s, [])

def onPlacedOrder (event : OrderEvent) (order : Placed) : LimitCancelStrategy × List Intent :=
  if event.requestId.any fun requestId => requestId ≠ order.placeRequestId then (s, [])
  else if order.cancelDue then
    s.sendCancel ctx ctx.symbol event.orderId ((order.cancelBarTs.or ctx.lastBarTs).getD 0)
  else ({ s with state := .placed { order with orderId := some event.orderId } }, [])

def onOrder (event : OrderEvent) : LimitCancelStrategy × List Intent :=
  match s.state with
  | .placed order => s.onPlacedOrder ctx event order
  | .idle | .cancelSent _ _ _ | .done _ => (s, [])

end LimitCancelStrategy

end AlorRs.LimitCancel
