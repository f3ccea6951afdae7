import AlorRs.StrategyRuntime.Runtime.Emission

/-!
# Simulated execution

Outside live mode the intents of a bar become simulated orders, which the next bars fill; the
position that a fill leaves is handed back to the strategy.
-/

namespace AlorRs

open RuntimeM

namespace StrategyRuntime

variable {σ P : Type}

/-! ### What is simulated -/

def canAdvancePaperExecution (config : RuntimeConfig) (origin : DataOrigin) : Bool :=
  if config.tradeMode ≠ .paper then true
  else
    match config.paperExecutionMode with
    | .historySim => true
    | .liveOnly => origin = .live

/-- `filter_paper_intents_for_simulation`: where the trading window drops every intent, the
strategy goes back to its state before the bar. -/
def filterPaperIntentsForSimulation (ctx : StrategyCtx) (createdTsUtc : ℤ) (intents : List Intent)
    (previousState : P) : RuntimeM σ P (List Intent) := do
  let env ← Eff.read
  if env.config.tradeMode ≠ .paper then return intents
  else
    let accepted := intents.filter fun intent =>
      tradingWindowAllowsOrder env.config ctx createdTsUtc (resolveIntentClass ctx intent)
    if accepted.isEmpty && !intents.isEmpty then
      restoreStrategyState previousState "paper_intent_dropped_before_simulation"
    return accepted

def recordNonLiveIntents (createdTsUtc : ℤ) (intents : List Intent) : RuntimeM σ P Unit :=
  if intents.isEmpty then return () else logVirtualTrades createdTsUtc intents

def persistLedgerReports : RuntimeM σ P Unit := do
  let env ← Eff.read
  match env.config.tradeMode with
  | .paper | .backtest => write .reportsWritten
  | .live => return ()

variable (rt : StrategyRuntime σ P) (bar : BarEvent) (order : SimOrder)

def simPositionQty (symbol : String) : ℚ :=
  ((rt.state.positions.lookup symbol).map (·.qty)).getD 0

/-- The quantity that an exit can still close, unless the position is flat or on its side. -/
def exitQty (isSell : Bool) (qty current : ℚ) : Option ℚ :=
  if |current| ≤ epsilon then none
  else if (isSell && decide (current < 0)) || (!isSell && decide (0 < current)) then none
  else if min qty |current| ≤ epsilon then none
  else some (min qty |current|)

/-- The quantity that a simulated market order is for; none where it is dropped. -/
def marketQty (side : Side) (intentClass : Option IntentClass) (qty current : ℚ) : Option ℚ :=
  if intentClass = some .exit then exitQty (side = .sell) qty current
  else
    -- an entry cannot flip an opposite position
    let opposite := (side = .buy ∧ current < 0) ∨ (side = .sell ∧ 0 < current)
    let effective := if opposite then min qty |current| else qty
    if effective ≤ 0 then none else some effective

/-! ### Intents -/

def flattenIntent (intentClass : Option IntentClass) : Intent → Option IntentClass × Intent
  | .classified intent innerClass => flattenIntent (some innerClass) intent
  | .routed intent _ => flattenIntent intentClass intent
  | intent => (intentClass, intent)

/-- `format!("{side:?}").to_lowercase()`. -/
def sideName : Side → String
  | .buy => "buy"
  | .sell => "sell"

def simOrderRecord (qty filled price : ℚ) (status : String) (tsUtc : ℤ) :
    OrderRecord where
  orderId := order.orderId
  symbol := order.symbol
  side := order.side
  qty := qty
  filled := filled
  price := price
  status := status
  tsUtc := tsUtc
  owned := true

/-- The fill of a simulated order. -/
def simTradeRecord (qty price : ℚ) (tsUtc : ℤ) : TradeRecord where
  tsUtc := tsUtc
  orderId := order.orderId
  symbol := order.symbol
  side := order.side
  qty := qty
  price := price
  commission := 0
  owned := true
  comment := order.comment

/-- A new order takes the next number and waits for the bars after this one. -/
def placeSimOrder : StrategyRuntime σ P :=
  { rt with
    nextSimOrderId := rt.nextSimOrderId + 1
    simOrders := rt.simOrders ++ [order]
    ledger := rt.ledger.recordOrder
      (simOrderRecord order order.qty 0 (order.price.getD 0) "working" order.createdBarTs) }

def fillAtPrice (price : ℚ) : StrategyRuntime σ P :=
  { rt with
    nextSimOrderId := rt.nextSimOrderId + 1
    ledger := (rt.ledger.recordFill (simTradeRecord order order.qty price order.createdBarTs)).recordOrder
      (simOrderRecord order order.qty order.qty price "filled" order.createdBarTs) }

variable (orderId : ℤ)

/-- `Intent::Cancel` of the simulator. -/
def cancelSimOrder (tsUtc : ℤ) : StrategyRuntime σ P :=
  match rt.simOrders.find? (·.orderId = orderId) with
  | none => rt
  | some order =>
    { rt with
      simOrders := rt.simOrders.eraseP (·.orderId = orderId)
      ledger := rt.ledger.recordOrder
        (simOrderRecord order order.qty 0 (order.price.getD 0) "canceled" tsUtc) }

/-- `Intent::Replace` of the simulator: the first order with the number changes. -/
def replaceSimOrder (newPrice newQty : ℚ) (tsUtc : ℤ) : StrategyRuntime σ P :=
  match rt.simOrders.find? (·.orderId = orderId) with
  | none => rt
  | some order =>
    let order := { order with price := some newPrice, qty := newQty }
    { rt with
      simOrders := rt.simOrders.replaceF fun o => if o.orderId = orderId then some order else none
      ledger := rt.ledger.recordOrder (simOrderRecord order newQty 0 newPrice "working" tsUtc) }

def newSimOrder (side : Side) (intentClass : Option IntentClass) (orderType : SimOrderType)
    (qty : ℚ) (price : Option ℚ) (comment : Option String) : SimOrder where
  orderId := rt.nextSimOrderId
  symbol := bar.symbol
  side := sideName side
  intentClass := intentClass
  orderType := orderType
  qty := qty
  price := price
  comment := comment
  createdBarTs := bar.closeTimeUtc

def simulateMarket (intentClass : Option IntentClass) (qty : ℚ) (side : Side) (fillPrice : Option ℚ)
    (comment : Option String) : RuntimeM σ P Unit := do
  let rt ← Eff.get
  match marketQty side intentClass qty (rt.simPositionQty bar.symbol) with
  | none => return ()
  | some effective =>
    let order := rt.newSimOrder bar side intentClass .market effective none comment
    match fillPrice with
    | some price => do
      Eff.modify fun rt => rt.fillAtPrice order price
      persistLedgerReports
    | none => Eff.modify fun rt => rt.placeSimOrder order

/-- One round of the loop in `simulate_intents`; stop orders are not simulated. -/
def simulateIntent (intent : Intent) : RuntimeM σ P Unit :=
  match flattenIntent intent.explicitClass intent with
  | (intentClass, .place price qty side comment) =>
    Eff.modify fun rt =>
      rt.placeSimOrder (rt.newSimOrder bar side intentClass .limit qty (some price) comment)
  | (intentClass, .market qty side fillPrice comment) =>
    simulateMarket bar intentClass qty side fillPrice comment
  | (_, .cancel orderId) => Eff.modify fun rt => rt.cancelSimOrder orderId bar.closeTimeUtc
  | (_, .replace orderId newPrice newQty) =>
    Eff.modify fun rt => rt.replaceSimOrder orderId newPrice newQty bar.closeTimeUtc
  | (_, _) => return ()

def simulateIntents (bar : BarEvent) : List Intent → RuntimeM σ P Unit
  | [] => return ()
  | intent :: intents => do
    simulateIntent bar intent
    simulateIntents bar intents

/-! ### Fills -/

def simFillPrice : Option ℚ :=
  if bar.closeTimeUtc ≤ order.createdBarTs then none
  else
    match order.orderType with
    | .market => some bar.o
    | .limit =>
      let price := order.price.getD 0
      if (order.side = "buy" ∧ bar.l ≤ price) ∨ (order.side = "sell" ∧ price ≤ bar.h) then some price
      else none

/-- The quantity that an order is filled for; none where an exit has nothing left to close. -/
def simFillQty (current : ℚ) : Option ℚ :=
  if order.intentClass = some .exit then exitQty (eqIgnoreAsciiCase order.side "sell") order.qty current
  else some order.qty

def simPosition (rt : StrategyRuntime σ P) (order : SimOrder) (qty price : ℚ) (tsUtc : ℤ) :
    PositionEvent where
  symbol := order.symbol
  qty := rt.simPositionQty order.symbol + if eqIgnoreAsciiCase order.side "buy" then qty else -qty
  existing := false
  avgPrice := price
  tsUtc := tsUtc

def recordSimFill (qty price : ℚ) (tsUtc : ℤ) : StrategyRuntime σ P :=
  { rt with
    ledger := (rt.ledger.recordFill (simTradeRecord order qty price tsUtc)).recordOrder
      (simOrderRecord order qty qty price "filled" tsUtc)
    state := { rt.state with
      positions := rt.state.positions.insert order.symbol (rt.simPosition order qty price tsUtc) } }

/-- The callback of a simulated fill, whose journal records stay with the strategy. -/
def notifySimPosition (position : PositionEvent) : RuntimeM σ P Unit := do
  let env ← Eff.read
  let rt ← Eff.get
  let ctx ← strategyCtx (rt.strategyLastBarTs env.config) rt.strategyNowTsUtc
  let rt ← Eff.get
  let (s, intents) := env.strategy.onPosition rt.strategy ctx position
  Eff.modify fun rt =>
    { rt with strategy := s, state := { rt.state with strategyState := env.strategy.state s } }
  recordNonLiveIntents bar.closeTimeUtc intents
  simulateIntents bar intents

def simulateFill (price : ℚ) : RuntimeM σ P Unit := do
  let rt ← Eff.get
  match rt.simOrders.find? (·.orderId = orderId) with
  | none => return ()
  | some order =>
    Eff.modify fun rt => { rt with simOrders := rt.simOrders.eraseP (·.orderId = orderId) }
    match simFillQty order (rt.simPositionQty order.symbol) with
    | none =>
      let dropped :=
        simOrderRecord order order.qty 0 (order.price.getD price) "dropped" bar.closeTimeUtc
      Eff.modify fun rt => { rt with ledger := rt.ledger.recordOrder dropped }
    | some qty => do
      Eff.modify fun rt => rt.recordSimFill order qty price bar.closeTimeUtc
      notifySimPosition bar (rt.simPosition order qty price bar.closeTimeUtc)
      persistLedgerReports

def simulateFilled (bar : BarEvent) : List (ℤ × ℚ) → RuntimeM σ P Unit
  | [] => return ()
  | (orderId, price) :: filled => do
    simulateFill bar orderId price
    simulateFilled bar filled

def simulateFills : RuntimeM σ P Unit := do
  let rt ← Eff.get
  simulateFilled bar (rt.simOrders.filterMap fun order =>
    (simFillPrice bar order).map fun price => (order.orderId, price))

end StrategyRuntime

end AlorRs
