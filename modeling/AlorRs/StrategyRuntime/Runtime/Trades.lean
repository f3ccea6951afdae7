import AlorRs.Lib.KeyedBuffer
import AlorRs.StrategyRuntime.Runtime.Basic

/-!
# Trades and the orders they belong to

Acknowledgments, orders and trades come in any order.  A trade that comes before its order is
known waits in a buffer (`pendingTradesByOrderId`), until it is applied to its order or taken for
an orphan.
-/

namespace AlorRs

namespace StrategyRuntime

variable {σ P : Type}

/-! ### Recording fills -/

variable (text : RustText) (rt : StrategyRuntime σ P) (trade : TradeEvent)

def tradeRecord (owned : Bool) : TradeRecord where
  tsUtc := trade.tsUtc
  orderId := trade.orderId
  symbol := trade.symbol
  side := text.toLowercase trade.side
  qty := trade.qty
  price := trade.price
  commission := trade.commission
  owned := owned
  comment := none

def recordOrphanTrade : StrategyRuntime σ P :=
  { rt with ledger := rt.ledger.recordFill (tradeRecord text trade false) }

variable (orderId : ℤ) (order : OrderEvent)

def orderFillQty : ℚ := if 0 < order.filled then order.filled else order.qty

/-- The execution that `apply_trade_execution` starts for a known order. -/
def startExecution : StrategyRuntime σ P :=
  if trade.orderId ∈ rt.pendingExec then rt
  else
    match rt.state.orders.lookup trade.orderId with
    | none => rt
    | some order =>
      { rt with
        pendingExec := rt.pendingExec.insert trade.orderId
          { orderId := trade.orderId
            symbol := order.symbol
            side := text.toLowercase order.side
            targetQty := max (orderFillQty order) trade.qty
            filledQty := 0
            orderPrice := order.price } }

def applyTradeExecution : StrategyRuntime σ P :=
  let rt := startExecution text rt trade
  match rt.pendingExec.lookup trade.orderId with
  | none => rt
  | some pending =>
    let execQty := trade.qty
    if 0 < execQty then
      let filledQty := pending.filledQty + execQty
      { rt with
        ledger := rt.ledger.recordFill (tradeRecord text trade true)
        pendingExec :=
          if pending.targetQty ≤ filledQty + epsilon then rt.pendingExec.erase trade.orderId
          else rt.pendingExec.insert trade.orderId { pending with filledQty := filledQty } }
    else rt

/-! ### The buffer -/

def bufferPreAckTrade : StrategyRuntime σ P × Bool :=
  if rt.ourRequestIds = ∅ then (rt, false)
  else
    ({ rt with
        pendingTradesByOrderId := KeyedBuffer.push rt.pendingTradesByOrderId trade.orderId trade },
      true)

def queueOrApplyOwnedTrade : StrategyRuntime σ P :=
  if trade.orderId ∈ rt.state.orders then applyTradeExecution text rt trade
  else
    { rt with
      pendingTradesByOrderId := KeyedBuffer.push rt.pendingTradesByOrderId trade.orderId trade }

/-- `pending_trades_by_order_id.remove`: the trades of an order, and the runtime without them. -/
def takePendingTrades : List TradeEvent × StrategyRuntime σ P :=
  (KeyedBuffer.items rt.pendingTradesByOrderId orderId,
    { rt with pendingTradesByOrderId := rt.pendingTradesByOrderId.erase orderId })

def replayPendingTradesForOrder : StrategyRuntime σ P :=
  if orderId ∉ rt.ourOrderIds ∨ orderId ∉ rt.state.orders then rt
  else
    let (trades, rt) := rt.takePendingTrades orderId
    trades.foldl (applyTradeExecution text) rt

/-- A trade that turned out to be nobody's: its order is taken for ours from then on. -/
def adoptOrphanTrade : StrategyRuntime σ P :=
  recordOrphanTrade text { rt with ourOrderIds := insert trade.orderId rt.ourOrderIds } trade

/-- One round of the loop in `flush_unmatched_pre_ack_trades`. -/
def flushOrder : StrategyRuntime σ P :=
  let (trades, rt) := rt.takePendingTrades orderId
  trades.foldl (adoptOrphanTrade text) rt

def flushUnmatchedPreAckTrades : StrategyRuntime σ P :=
  if rt.ourRequestIds ≠ ∅ then rt
  else
    let unmatchedOrderIds := rt.pendingTradesByOrderId.keys.filter (· ∉ rt.ourOrderIds)
    unmatchedOrderIds.foldl (flushOrder text) rt

def registerAcknowledgedOrder (ack : CommandAck) : StrategyRuntime σ P :=
  let rt :=
    if ack.requestId ∈ rt.ourRequestIds then
      let rt := { rt with ourRequestIds := rt.ourRequestIds.erase ack.requestId }
      match ack.brokerOrderId with
      | some orderId =>
        replayPendingTradesForOrder text
          { rt with ourOrderIds := insert orderId rt.ourOrderIds } orderId
      | none => rt
    else rt
  flushUnmatchedPreAckTrades text rt

/-! ### Orders -/

/-- The execution that a filled order of ours waits for, in live mode. -/
def expectExecution : StrategyRuntime σ P :=
  let prevFilled := (rt.state.orders.lookup order.orderId).any fun prev =>
    eqIgnoreAsciiCase prev.status "filled"
  let fillQty := orderFillQty order
  if text.toLowercase order.status = "filled" ∧ 0 < fillQty ∧ ¬ (prevFilled ∧ order.existing) then
    let entry := (rt.pendingExec.lookup order.orderId).getD
      { orderId := order.orderId
        symbol := order.symbol
        side := text.toLowercase order.side
        targetQty := fillQty
        filledQty := 0
        orderPrice := order.price }
    { rt with
      pendingExec := rt.pendingExec.insert order.orderId
        { entry with targetQty := fillQty, orderPrice := order.price } }
  else rt

def recordOrderFill : StrategyRuntime σ P :=
  let fillQty := orderFillQty order
  if text.toLowercase order.status = "filled" ∧ 0 < fillQty then
    { rt with
      ledger := rt.ledger.recordFill
        { tsUtc := order.tsUtc
          orderId := order.orderId
          symbol := order.symbol
          side := text.toLowercase order.side
          qty := fillQty
          price := order.price
          commission := 0
          owned := true
          comment := order.comment } }
  else rt

def updateLedgerFromOrder (config : RuntimeConfig) (text : RustText) (rt : StrategyRuntime σ P)
    (order : OrderEvent) : StrategyRuntime σ P :=
  if order.orderId ≤ 0 then rt
  else if order.symbol ≠ config.strategy.symbol then rt
  else
    let owned : Bool := order.orderId ∈ rt.ourOrderIds
    let rt :=
      { rt with
        ledger := rt.ledger.recordOrder
          { orderId := order.orderId
            symbol := order.symbol
            side := text.toLowercase order.side
            qty := order.qty
            filled := order.filled
            price := order.price
            status := text.toLowercase order.status
            tsUtc := order.tsUtc
            owned := owned } }
    if config.tradeMode = .live then if owned then expectExecution text rt order else rt
    else recordOrderFill text rt order

end StrategyRuntime

end AlorRs
