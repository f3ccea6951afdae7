import AlorRs.Chrono
import AlorRs.Protocol
import Mathlib.Data.Finset.Basic
import Mathlib.Data.List.AList

/-!
# The strategy interface

The events a strategy receives, the intents it answers with, and the callbacks themselves as a
record over the strategy's own state.
-/

namespace AlorRs

inductive TradeMode where
  | live | paper | backtest
deriving DecidableEq, Repr

inductive PaperExecutionMode where
  | liveOnly | historySim
deriving DecidableEq, Repr

inductive GatewayPhase where
  | syncingHistory | reconnecting | syncingGap | liveReady
deriving DecidableEq, Repr

/-! ### Intents -/

/-- What a strategy wants done; the first two wrap another intent. -/
inductive Intent where
  | classified (intent : Intent) (intentClass : IntentClass)
  | routed (intent : Intent) (symbol : String)
  | place (price qty : ℚ) (side : Side) (comment : Option String)
  | market (qty : ℚ) (side : Side) (fillPrice : Option ℚ) (comment : Option String)
  | cancel (orderId : ℤ)
  | replace (orderId : ℤ) (newPrice newQty : ℚ)
  | createStopLimit (side : Side) (qty triggerPrice price : ℚ) (condition : StopLimitCondition)
      (stopEndUnixTime : ℤ) (comment instrumentGroup : Option String)
      (checkDuplicates : Option Bool)
  | deleteStopLimit (orderId : String) (side : Option Side) (checkDuplicates : Option Bool)
deriving DecidableEq, Repr

namespace Intent

def withClass (intent : Intent) (intentClass : IntentClass) : Intent :=
  .classified intent intentClass

def withSymbol (intent : Intent) (symbol : String) : Intent := .routed intent symbol

def explicitClass : Intent → Option IntentClass
  | .classified _ intentClass => some intentClass
  | .routed intent _ => intent.explicitClass
  | _ => none

def baseIntent : Intent → Intent
  | .classified intent _ => intent.baseIntent
  | .routed intent _ => intent.baseIntent
  | intent => intent

end Intent

structure CommandPrepared where
  requestId : Uuid
  intentClass : IntentClass
  createdTsUtc : ℤ
  symbol : String
  action : String
  targetOrderId : Option String
deriving DecidableEq, Repr

structure IntentBlocked where
  reason : String
  action : String
  intentClass : IntentClass
  createdTsUtc : ℤ
  guardReasons : List String
deriving DecidableEq, Repr

inductive IntentBlockDisposition where
  | rollback | keepStrategyState
deriving DecidableEq, Repr

structure RiskGateSessionFinalization where
  sessionDate : NaiveDate
  shadowPnlPoints : ℚ
  shadowTradeCount : ℕ
deriving DecidableEq, Repr

structure RiskGateRuntimeState where
  profileId : String
  lastFinalizedSessionDate : Option NaiveDate
  rollingSumLb120 : Option ℚ
  mrEnabledCurrentSession : Option Bool
  mrEnabledNextSession : Option Bool
  ledgerRowsCount : ℕ
deriving DecidableEq, Repr

/-! ### Events -/

structure StrategyCtx where
  strategyId : String
  portfolio : String
  exchange : String
  symbol : String
  tickSize : ℚ
  tradeMode : TradeMode
  paperExecutionMode : PaperExecutionMode
  allowLiveOrders : Bool
  gatewayPhase : GatewayPhase
  positionQty : Option ℚ
  eventTsUtc : ℤ
  nowTsUtc : ℤ
  lastBarTs : Option ℤ
deriving DecidableEq, Repr

inductive DataOrigin where
  | history | historyGap | live | replay
deriving DecidableEq, Repr

structure BarEvent where
  symbol : String
  closeTimeUtc : ℤ
  close : ℚ
  o : ℚ
  h : ℚ
  l : ℚ
  v : ℚ
  origin : DataOrigin
deriving DecidableEq, Repr

structure OrderEvent where
  orderId : ℤ
  requestId : Option Uuid
  symbol : String
  status : String
  side : String
  orderType : String
  qty : ℚ
  filled : ℚ
  price : ℚ
  existing : Bool
  comment : Option String
  tsUtc : ℤ
deriving DecidableEq, Repr

structure TradeEvent where
  tradeId : String
  orderId : ℤ
  symbol : String
  side : String
  qty : ℚ
  price : ℚ
  commission : ℚ
  existing : Bool
  tsUtc : ℤ
deriving DecidableEq, Repr

structure StopOrderEvent where
  stopOrderId : String
  exchangeOrderId : Option ℤ
  symbol : String
  status : String
  side : String
  qty : ℚ
  filled : ℚ
  stopPrice : ℚ
  price : ℚ
  existing : Bool
  comment : Option String
  endTime : Option ℤ
  tsUtc : ℤ
deriving DecidableEq, Repr

structure PositionEvent where
  symbol : String
  qty : ℚ
  existing : Bool
  avgPrice : ℚ
  tsUtc : ℤ
deriving DecidableEq, Repr

structure BootstrapSnapshot where
  positionsStrategy : AList fun _ : String => PositionEvent
  workingOrdersStrategy : AList fun _ : ℤ => OrderEvent
  workingStopOrdersStrategy : AList fun _ : String => StopOrderEvent
  snapshotTsUtc : Option ℤ

/-- The orders and the requests that a restored runtime knows of, in no particular order. -/
structure RuntimeStateRestored where
  knownOrderIds : Finset ℤ
  pendingRequests : Finset Uuid
deriving DecidableEq

/-! ### Callbacks -/

/-- The callbacks of a strategy with state `σ`; `P` is the part of it that is persisted. -/
structure Strategy (σ P : Type) where
  onBar : σ → StrategyCtx → BarEvent → σ × List Intent
  onAck : σ → StrategyCtx → CommandAck → σ × List Intent
  onOrder : σ → StrategyCtx → OrderEvent → σ × List Intent
  onStopOrder : σ → StrategyCtx → StopOrderEvent → σ × List Intent
  onPosition : σ → StrategyCtx → PositionEvent → σ × List Intent
  onTimer : σ → StrategyCtx → ℤ → σ × List Intent
  onBootstrapSnapshot : σ → StrategyCtx → BootstrapSnapshot → σ × List Intent
  onRuntimeStateRestored : σ → StrategyCtx → RuntimeStateRestored → σ × List Intent
  warmupFromHistory : σ → StrategyCtx → List BarEvent → σ × ℕ
  trackedOrderIds : σ → List ℤ
  intentCommentTag : σ → StrategyCtx → ℤ → IntentClass → Option String
  onCommandPrepared : σ → StrategyCtx → CommandPrepared → σ
  onIntentBlocked : σ → StrategyCtx → IntentBlocked → σ × IntentBlockDisposition
  pendingRequestIds : σ → List Uuid
  riskGateSessionFinalizations : σ → List RiskGateSessionFinalization
  acknowledgeRiskGateSessionFinalizations : σ → List NaiveDate → σ
  onRiskGateState : σ → RiskGateRuntimeState → σ
  drainObservationJournalRecords : σ → σ × List String
  state : σ → P
  setState : σ → P → σ

/-- A strategy that leaves the optional callbacks to their default bodies. -/
def Strategy.withDefaults {σ P : Type} (onBar : σ → StrategyCtx → BarEvent → σ × List Intent)
    (onAck : σ → StrategyCtx → CommandAck → σ × List Intent)
    (onOrder : σ → StrategyCtx → OrderEvent → σ × List Intent)
    (onPosition : σ → StrategyCtx → PositionEvent → σ × List Intent)
    (state : σ → P) (setState : σ → P → σ) : Strategy σ P where
  onBar := onBar
  onAck := onAck
  onOrder := onOrder
  onStopOrder s _ _ := (s, [])
  onPosition := onPosition
  onTimer s _ _ := (s, [])
  onBootstrapSnapshot s _ _ := (s, [])
  onRuntimeStateRestored s _ _ := (s, [])
  warmupFromHistory s _ _ := (s, 0)
  trackedOrderIds _ := []
  intentCommentTag _ _ _ _ := none
  onCommandPrepared s _ _ := s
  onIntentBlocked s _ _ := (s, .rollback)
  pendingRequestIds _ := []
  riskGateSessionFinalizations _ := []
  acknowledgeRiskGateSessionFinalizations s _ := s
  onRiskGateState s _ := s
  drainObservationJournalRecords s := (s, [])
  state := state
  setState := setState

end AlorRs
