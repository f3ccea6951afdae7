import AlorRs.StrategyRuntime.RequestId
import AlorRs.StrategyRuntime.StrategyHost
import AlorRs.StrategyRuntime.TradeLedger

/-!
# The market buy-and-close strategy

`MarketBuyAndCloseStrategy` opens one position and closes it, on the next bar or on the next update of the
position.  In live mode each step waits for the broker: the entry for a position that differs from the one
before it, the exit for the position to come back.  Both give up after a timeout, and a position that the
strategy does not expect corrects its state.
-/

namespace AlorRs.MarketBuyAndClose

inductive CloseTrigger where
  | nextBar | positionUpdate
deriving DecidableEq

inductive LiveOrderStyle where
  | market | marketableLimit
deriving DecidableEq

structure MarketBuyAndCloseConfig where
  symbol : String
  qty : ℚ
  side : Side
  liveOrderStyle : LiveOrderStyle
  tickSize : ℚ
  marketableLimitOffsetTicks : ℤ
  closeTrigger : CloseTrigger
  entryAckTimeoutMs : ℕ
  entryFillTimeoutMs : ℕ
  exitAckTimeoutMs : ℕ
  exitFillTimeoutMs : ℕ
deriving DecidableEq

/-! ### The state -/

/-- An entry that waits for the broker. -/
structure PendingEntry where
  requestGuid : Uuid
  side : Side
  qty : ℚ
  baselineQty : ℚ
  closeTrigger : CloseTrigger
  sentTs : ℤ
  acked : Bool
  entryConfirmedTs : Option ℤ
  lastBarTs : ℤ
deriving DecidableEq

structure InPosition where
  side : Side
  qty : ℚ
  avgPrice : ℚ
  baselineQty : ℚ
  closeTrigger : CloseTrigger
  openedTs : ℤ
  lastBarTs : ℤ
deriving DecidableEq

/-- An exit that waits for the broker. -/
structure PendingExit where
  requestGuid : Uuid
  reason : String
  side : Side
  qty : ℚ
  baselineQty : ℚ
  sentTs : ℤ
  acked : Bool
  lastBarTs : ℤ
deriving DecidableEq

inductive StrategyState where
  | idle
  | marketBuyPending (buyRequestId : Uuid) (baselineQty : Option ℚ) (closeTrigger : CloseTrigger)
      (pendingBarTs lastBarTs : ℤ)
  | marketBuySent (buyRequestId : Uuid) (baselineQty : Option ℚ) (closeTrigger : CloseTrigger)
      (buyBarTs lastBarTs : ℤ)
  | marketCloseSent (closeRequestId : Uuid) (baselineQty : Option ℚ) (lastBarTs : ℤ)
  | marketLivePendingEntry (entry : PendingEntry)
  | marketLiveInPosition (position : InPosition)
  | marketLivePendingExit (exit : PendingExit)
  | done (lastBarTs : ℤ)
  | blocked (reason : String) (lastBarTs : ℤ)
deriving DecidableEq

structure MarketBuyAndCloseStrategy where
  config : MarketBuyAndCloseConfig
  state : StrategyState
  lastProcessedBarTs : Option ℤ
  lastBarClose : Option ℚ
deriving DecidableEq

namespace MarketBuyAndCloseStrategy

variable (s : MarketBuyAndCloseStrategy) (config : MarketBuyAndCloseConfig) (nowTsUtc : ℤ)
  (ctx : StrategyCtx) (bar : BarEvent)

def new : MarketBuyAndCloseStrategy := ⟨config, .idle, none, none⟩

def closeSide : Side :=
  match s.config.side with
  | .buy => .sell
  | .sell => .buy

def shouldBlockLive : Bool :=
  decide (ctx.tradeMode = .live) &&
    (decide (bar.origin ≠ .live) || !ctx.allowLiveOrders || decide (ctx.gatewayPhase ≠ .liveReady))

def blocked (s : MarketBuyAndCloseStrategy) (reason : String) (ts : ℤ) : MarketBuyAndCloseStrategy :=
  { s with state := .blocked reason ts }

/-! ### Orders -/

def liveMarketablePriceFromReference (side : Side) (referencePrice : ℚ) : ℚ :=
  if s.config.tickSize ≤ 0 then referencePrice
  else
    let aggressiveTicks := max s.config.marketableLimitOffsetTicks 0 + 1
    let shift := aggressiveTicks * s.config.tickSize
    match side with
    | .buy => referencePrice + shift
    | .sell => referencePrice - shift

def buildLiveIntent (side : Side) (qty referencePrice : ℚ) : Intent :=
  match s.config.liveOrderStyle with
  | .market => .market qty side none none
  | .marketableLimit => .place (s.liveMarketablePriceFromReference side referencePrice) qty side none

def liveRequestId (style : LiveOrderStyle) (ctx : StrategyCtx) (symbol : String) (side : Side) : Uuid :=
  match style with
  | .market => deterministicMarketRequestId ctx.strategyId ctx.portfolio symbol ctx.eventTsUtc side
  | .marketableLimit =>
    deterministicRequestId ctx.strategyId ctx.portfolio symbol "place" ctx.eventTsUtc 0

def maybeOpenForPaperBacktest : MarketBuyAndCloseStrategy × List Intent :=
  match s.state with
  | .idle =>
    ({ s with
        state := .marketBuyPending
          (deterministicRequestId ctx.strategyId ctx.portfolio bar.symbol "market_buy" bar.closeTimeUtc 0)
          ctx.positionQty .nextBar bar.closeTimeUtc bar.closeTimeUtc }, [])
  | .marketBuyPending buyRequestId baselineQty closeTrigger pendingBarTs _ =>
    if pendingBarTs < bar.closeTimeUtc then
      ({ s with
          state := .marketBuySent buyRequestId baselineQty closeTrigger bar.closeTimeUtc bar.closeTimeUtc },
        [.market s.config.qty s.config.side (some bar.o) none])
    else
      ({ s with
          state := .marketBuyPending buyRequestId baselineQty closeTrigger pendingBarTs bar.closeTimeUtc },
        [])
  | .marketBuySent buyRequestId baselineQty closeTrigger buyBarTs _ =>
    if buyBarTs < bar.closeTimeUtc then
      ({ s with
          state := .marketCloseSent
            (deterministicRequestId ctx.strategyId ctx.portfolio bar.symbol "market_close" bar.closeTimeUtc 1)
            baselineQty bar.closeTimeUtc },
        [.market s.config.qty s.closeSide (some bar.o) none])
    else
      ({ s with
          state := .marketBuySent buyRequestId baselineQty closeTrigger buyBarTs bar.closeTimeUtc }, [])
  | .marketCloseSent closeRequestId baselineQty _ =>
    ({ s with state := .marketCloseSent closeRequestId baselineQty bar.closeTimeUtc }, [])
  | .done _ => ({ s with state := .done bar.closeTimeUtc }, [])
  | .blocked reason _ => ({ s with state := .blocked reason bar.closeTimeUtc }, [])
  | .marketLivePendingEntry _ | .marketLiveInPosition _ | .marketLivePendingExit _ => (s, [])

def maybeSendLiveEntry : MarketBuyAndCloseStrategy × List Intent :=
  if ctx.lastBarTs.isNone then (s, [])
  else
    ({ s with
        state := .marketLivePendingEntry
          { requestGuid := liveRequestId s.config.liveOrderStyle ctx bar.symbol s.config.side
            side := s.config.side
            qty := s.config.qty
            baselineQty := ctx.positionQty.getD 0
            closeTrigger := s.config.closeTrigger
            sentTs := ctx.nowTsUtc
            acked := false
            entryConfirmedTs := none
            lastBarTs := bar.closeTimeUtc } },
      [s.buildLiveIntent s.config.side s.config.qty bar.close])

/-- The exit that flattens the position, by `on_bar` and by `on_position`. -/
def sendExit (symbol reason : String) (baselineQty referencePrice : ℚ) (ts : ℤ)
    : MarketBuyAndCloseStrategy × List Intent :=
  ({ s with
      state := .marketLivePendingExit
        { requestGuid := liveRequestId s.config.liveOrderStyle ctx symbol s.closeSide
          reason := reason
          side := s.closeSide
          qty := s.config.qty
          baselineQty := baselineQty
          sentTs := ctx.nowTsUtc
          acked := false
          lastBarTs := ts } },
    [s.buildLiveIntent s.closeSide s.config.qty referencePrice])

/-! ### Timeouts -/

/-- An `i64` result that is clipped. -/
def saturate (n : ℤ) : ℤ := max (-2 ^ 63) (min (2 ^ 63 - 1) n)

/-- The milliseconds since an order was sent; a negative number wraps around. -/
def elapsedMs (sentTs : ℤ) : ℕ :=
  (saturate (saturate (nowTsUtc * 1000) - saturate (sentTs * 1000)) % 2 ^ 64).toNat

def entryTimeout (entry : PendingEntry) : Option String :=
  let elapsed := elapsedMs nowTsUtc entry.sentTs
  if entry.acked = false ∧ config.entryAckTimeoutMs < elapsed then
    some ("entry_ack_timeout_ms exceeded: " ++ toString config.entryAckTimeoutMs)
  else if entry.entryConfirmedTs = none ∧ config.entryFillTimeoutMs < elapsed then
    some ("entry_fill_timeout_ms exceeded: " ++ toString config.entryFillTimeoutMs)
  else none

def exitTimeout (exit : PendingExit) : Option String :=
  let elapsed := elapsedMs nowTsUtc exit.sentTs
  if exit.acked = false ∧ config.exitAckTimeoutMs < elapsed then
    some ("exit_ack_timeout_ms exceeded: " ++ toString config.exitAckTimeoutMs)
  else if config.exitFillTimeoutMs < elapsed then
    some ("exit_fill_timeout_ms exceeded: " ++ toString config.exitFillTimeoutMs)
  else none

/-- The timeout that the pending order of a state has exceeded. -/
def liveTimeout : Option String :=
  match s.state with
  | .marketLivePendingEntry entry => entryTimeout s.config nowTsUtc entry
  | .marketLivePendingExit exit => exitTimeout s.config nowTsUtc exit
  | _ => none

def checkLiveTimeouts (barTs : ℤ) : MarketBuyAndCloseStrategy :=
  match s.liveTimeout nowTsUtc with
  | some reason => s.blocked reason barTs
  | none => s

/-! ### Callbacks -/

def onLiveBar : MarketBuyAndCloseStrategy × List Intent :=
  match s.state with
  | .idle => s.maybeSendLiveEntry ctx bar
  | .marketLiveInPosition position =>
    if position.closeTrigger = .nextBar ∧ position.openedTs < bar.closeTimeUtc then
      s.sendExit ctx bar.symbol "next_bar" position.baselineQty bar.close bar.closeTimeUtc
    else (s, [])
  | .marketLivePendingEntry entry =>
    ({ s with state := .marketLivePendingEntry { entry with lastBarTs := bar.closeTimeUtc } }, [])
  | .marketLivePendingExit exit =>
    ({ s with state := .marketLivePendingExit { exit with lastBarTs := bar.closeTimeUtc } }, [])
  | .blocked reason _ => ({ s with state := .blocked reason bar.closeTimeUtc }, [])
  | .done _ => ({ s with state := .done bar.closeTimeUtc }, [])
  | .marketBuyPending _ _ _ _ _ | .marketBuySent _ _ _ _ _ | .marketCloseSent _ _ _ => (s, [])

/-- A bar that is not newer than the last one. -/
def isOld : Bool :=
  s.lastProcessedBarTs.any fun lastTs => bar.closeTimeUtc ≤ lastTs

def onBar : MarketBuyAndCloseStrategy × List Intent :=
  if shouldBlockLive ctx bar then ({ s with lastProcessedBarTs := some bar.closeTimeUtc }, [])
  else if bar.symbol ≠ s.config.symbol then ({ s with lastProcessedBarTs := some bar.closeTimeUtc }, [])
  else if s.isOld bar then (s, [])
  else
    let s := { s with lastBarClose := some bar.close }
    let (s, intents) :=
      match ctx.tradeMode with
      | .paper | .backtest => s.maybeOpenForPaperBacktest ctx bar
      | .live => (s.checkLiveTimeouts ctx.nowTsUtc bar.closeTimeUtc).onLiveBar ctx bar
    ({ s with lastProcessedBarTs := some bar.closeTimeUtc }, intents)

def statusText : AckStatus → String
  | .accepted => "Accepted"
  | .confirmed => "Confirmed"
  | .rejected => "Rejected"
  | .duplicate => "Duplicate"
  | .expired => "Expired"
  | .error => "Error"

def goesThrough : AckStatus → Bool
  | .accepted | .confirmed | .duplicate => true
  | .rejected | .expired | .error => false

def onAck (ack : CommandAck) : MarketBuyAndCloseStrategy :=
  match s.state with
  | .marketLivePendingEntry entry =>
    if ack.requestId = entry.requestGuid then
      if goesThrough ack.status then { s with state := .marketLivePendingEntry { entry with acked := true } }
      else s.blocked ("entry_rejected status=" ++ statusText ack.status) ack.processedTsUtc
    else s
  | .marketLivePendingExit exit =>
    if ack.requestId = exit.requestGuid then
      if goesThrough ack.status then { s with state := .marketLivePendingExit { exit with acked := true } }
      else s.blocked ("exit_rejected status=" ++ statusText ack.status) ack.processedTsUtc
    else s
  | _ => s

variable (pos : PositionEvent)

def onOwnPosition : MarketBuyAndCloseStrategy × List Intent :=
  let nowTs := ctx.lastBarTs.getD pos.tsUtc
  match s.state with
  | .marketLivePendingEntry entry =>
    if epsilon < |pos.qty - entry.baselineQty| then
      ({ s with
          state := .marketLiveInPosition
            { side := s.config.side
              qty := s.config.qty
              avgPrice := pos.avgPrice
              baselineQty := entry.baselineQty
              closeTrigger := entry.closeTrigger
              openedTs := nowTs
              lastBarTs := nowTs } }, [])
    else ({ s with state := .marketLivePendingEntry { entry with lastBarTs := nowTs } }, [])
  | .marketLiveInPosition position =>
    if |pos.qty - position.baselineQty| ≤ epsilon then ({ s with state := .idle }, [])
    else if position.closeTrigger = .positionUpdate then
      s.sendExit ctx pos.symbol "position_update" position.baselineQty (s.lastBarClose.getD pos.avgPrice)
        nowTs
    else (s, [])
  | .marketLivePendingExit exit =>
    if |pos.qty - exit.baselineQty| ≤ epsilon then ({ s with state := .done nowTs }, [])
    else ({ s with state := .marketLivePendingExit { exit with lastBarTs := nowTs } }, [])
  | .idle =>
    if epsilon < |pos.qty| then
      ({ s with
          state := .marketLiveInPosition
            { side := s.config.side
              qty := |pos.qty|
              avgPrice := pos.avgPrice
              baselineQty := 0
              closeTrigger := s.config.closeTrigger
              openedTs := nowTs
              lastBarTs := nowTs } }, [])
    else (s, [])
  | .marketBuyPending _ _ _ _ _ | .marketBuySent _ _ _ _ _ | .marketCloseSent _ _ _ | .done _
  | .blocked _ _ => (s, [])

def onPosition : MarketBuyAndCloseStrategy × List Intent :=
  if pos.symbol ≠ s.config.symbol then (s, []) else s.onOwnPosition ctx pos

end MarketBuyAndCloseStrategy

end AlorRs.MarketBuyAndClose
