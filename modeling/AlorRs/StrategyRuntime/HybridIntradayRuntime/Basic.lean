import AlorRs.StrategyRuntime.HybridIntraday.Orchestrator
import AlorRs.StrategyRuntime.LiveGuard
import AlorRs.StrategyRuntime.RequestId
import AlorRs.StrategyRuntime.TradeLedger

/-!
# The hybrid strategy: configuration, state and guards

`HybridIntradayRuntimeStrategy` wraps the orchestrator: it keeps the features of the day, the
requests and the orders that are under way, and what of it all is saved (`state`).  The fields that
`reset_repair_tracking` clears are a record of their own (`Protection`), and so are the features of
the day and the shadow account of the risk gate.
-/

namespace AlorRs.HybridIntraday

abbrev OrderSide := AlorRs.Side

/-! ### Cycle identifiers -/

def isAsciiHexdigit (c : Char) : Bool :=
  ('0' ≤ c && c ≤ '9') || ('a' ≤ c && c ≤ 'f') || ('A' ≤ c && c ≤ 'F')

/-- A cycle identifier: ten hexadecimal digits, eight of a time and two of a number. -/
structure CycleId where
  text : String
  wellFormed : text.toList.length = 10 ∧ text.toList.all isAsciiHexdigit
deriving DecidableEq, Repr

variable (width n : ℕ)

def hexDigit : Char := if n < 10 then Char.ofNat (48 + n) else Char.ofNat (87 + n)

/-- The last `width` hexadecimal digits of a number. -/
def hexText : List Char :=
  (List.range width).map fun i => hexDigit (n / 16 ^ (width - 1 - i) % 16)

def hexValue (c : Char) : ℕ :=
  if c ≤ '9' then c.toNat - '0'.toNat
  else if c ≤ 'F' then c.toNat - 'A'.toNat + 10
  else c.toNat - 'a'.toNat + 10

theorem isAsciiHexdigit_hexDigit {n : ℕ} (h : n < 16) : isAsciiHexdigit (hexDigit n) = true := by
  revert n
  decide

theorem all_hexText : (hexText width n).all isAsciiHexdigit = true := by
  simp only [hexText, List.all_map, List.all_eq_true, Function.comp_apply]
  intro i _
  exact isAsciiHexdigit_hexDigit (Nat.mod_lt _ (by omega))

theorem length_hexText : (hexText width n).length = width := by simp [hexText]

namespace CycleId

def ofTime (ts seq : ℕ) : CycleId where
  text := String.ofList (hexText 8 ts ++ hexText 2 seq)
  wellFormed := by
    rw [String.toList_ofList, List.length_append, length_hexText, length_hexText, List.all_append,
      all_hexText, all_hexText]
    exact ⟨rfl, rfl⟩

def parse (raw : String) : Option CycleId :=
  if h : raw.toList.length = 10 ∧ raw.toList.all isAsciiHexdigit then some ⟨raw, h⟩ else none

/-- `cycle_ts_utc`; hexadecimal digits always have a value. -/
def tsUtc (cycle : CycleId) : ℤ :=
  (((cycle.text.toList.take 8).foldl (fun n c => 16 * n + hexValue c) 0 : ℕ) : ℤ)

@[simp] theorem parse_text (cycle : CycleId) : parse cycle.text = some cycle := by
  rw [parse, dif_pos cycle.wellFormed]

end CycleId

/-! ### Configuration -/

inductive MeanReversionVariant where
  | classicPrevDayRange | high180 | author41BoundaryShort
deriving DecidableEq, Repr

inductive MrGatePolicy where
  | disabled | shadowPnlLb120Positive
deriving DecidableEq, Repr

inductive RiskGateMode where
  | disabled | bootstrapFromSeed | normalAppend | rebuildFromHistory | shadowOnly | enforced
deriving DecidableEq, Repr

inductive WeekendStatePolicy where
  | skip | stateOnly
deriving DecidableEq, Repr

inductive LiveOrderStyle where
  | market | marketableLimit
deriving DecidableEq, Repr

structure HybridIntradayRuntimeConfig where
  symbol : String
  mrVariant : MeanReversionVariant
  liveMrEntriesEnabled : Bool
  mrGatePolicy : MrGatePolicy
  riskGateMode : RiskGateMode
  weekendStatePolicy : WeekendStatePolicy
  modelSessionStartTime : Option NaiveTime
  modelSessionEndTime : Option NaiveTime
  qty : ℚ
  liveOrderStyle : LiveOrderStyle
  tickSize : ℚ
  marketableLimitOffsetTicks : ℤ
  timezoneOffsetHours : ℤ
  sessionCloseHour : ℕ
  sessionCloseMinute : ℕ
  weekendsOff : Bool
  stopEndBufferSec : ℕ
  repairDeadlineSec : ℕ
  slEscalateTimeoutSec : ℕ
  maxRepairRetries : ℕ
  repairBackoffBaseSec : ℕ
  repairBackoffMaxSec : ℕ
  pendingTimeoutSec : ℕ
  partialEntryFillTimeoutMs : ℕ
  mrConfig : MeanReversionConfig
  breakoutConfig : IntradayBreakoutConfig
  orchestratorConfig : HybridOrchestratorConfig
deriving DecidableEq, Repr

/-- The quantity of an entry. -/
def HybridIntradayRuntimeConfig.targetQty (config : HybridIntradayRuntimeConfig) : ℚ :=
  max config.qty 1

/-! ### State -/

structure PendingEntry where
  owner : Owner
  side : Side
  cycleId : CycleId
  reason : ReasonCode
  entryStyle : EntryStyle
  stopPrice : Option ℚ
  takePrice : Option ℚ
  targetQty : ℚ
  partialStartedAtMs : Option ℤ
deriving DecidableEq, Repr

structure PendingExit where
  owner : Owner
  reason : ReasonCode
deriving DecidableEq, Repr

structure ShadowHigh180Position where
  side : Side
  entryTsUtc : ℤ
  entryPrice : ℚ
deriving DecidableEq, Repr

structure DeferredEntry where
  signal : EntrySignal
  cycleId : CycleId
  deferredTsUtc : ℤ
  originalRequestId : Uuid
deriving DecidableEq, Repr

structure DeferredExit where
  owner : Owner
  reason : ReasonCode
  cycleId : CycleId
  deferredTsUtc : ℤ
  originalRequestId : Uuid
deriving DecidableEq, Repr

/-- The prices and the range that signals are measured against. -/
structure DayFeatures where
  lastBarClose : Option ℚ
  prevDayClose : Option ℚ
  lastDayLocal : Option NaiveDate
  currentDayHigh : Option ℚ
  currentDayLow : Option ℚ
  prevDayRange : Option ℚ
deriving DecidableEq, Repr

/-- The take-profit and the stop-loss of a bracket, and the attempts to repair it. -/
structure Protection where
  pendingTpRequestId : Option Uuid
  pendingTpCreatedTsUtc : Option ℤ
  pendingSlRequestId : Option Uuid
  pendingSlCreatedTsUtc : Option ℤ
  tpOrderId : Option ℤ
  slStopOrderId : Option String
  slExchangeOrderId : Option ℤ
  slTriggeredTs : Option ℤ
  mrTakePrice : Option ℚ
  mrStopPrice : Option ℚ
  repairDeadlineTs : Option ℤ
  nextRepairAtTs : Option ℤ
  repairBackoffLevel : ℕ
  repairAttempts : ℕ
deriving DecidableEq, Repr

/-- The account that the risk gate keeps of trades that are not made. -/
structure RiskGateShadow where
  riskGateShadowSessionDate : Option NaiveDate
  riskGateShadowPnlPoints : ℚ
  riskGateShadowTradeCount : ℕ
  riskGateShadowPosition : Option ShadowHigh180Position
  riskGateShadowOpen : Option High180Open
  pendingRiskGateFinalizations : List RiskGateSessionFinalization
  riskGateMrEnabledCurrentSession : Option Bool
  riskGateRollingSumLb120 : Option ℚ
  riskGateLastFinalizedSessionDate : Option NaiveDate
  riskGateLedgerRowsCount : ℕ
deriving DecidableEq, Repr

/-- `StrategyState::HybridIntradayRuntime`, what is saved of the strategy.  Dates are kept as they
are where the program keeps their texts. -/
structure HybridIntradayRuntimeState extends DayFeatures, Protection where
  activeCycleId : Option String
  nextCycleSeq : ℕ
  lastPositionQty : ℚ
  currentOwner : Option Owner
  currentSide : Option Side
  pendingEntryOwner : Option Owner
  pendingEntrySide : Option Side
  pendingEntryCycleId : Option String
  pendingEntryRequestId : Option Uuid
  pendingEntryCreatedTsUtc : Option ℤ
  deferredEntryOwner : Option Owner
  deferredEntrySide : Option Side
  deferredEntryCycleId : Option String
  deferredEntryEntryStyle : Option EntryStyle
  deferredEntryReason : Option ReasonCode
  deferredEntryStopPrice : Option ℚ
  deferredEntryTakePrice : Option ℚ
  deferredEntryTsUtc : Option ℤ
  deferredEntryRequestId : Option Uuid
  pendingExitRequestId : Option Uuid
  pendingExitCreatedTsUtc : Option ℤ
  deferredExitOwner : Option Owner
  deferredExitReason : Option ReasonCode
  deferredExitCycleId : Option String
  deferredExitTsUtc : Option ℤ
  deferredExitRequestId : Option Uuid
  safeModeCloseOnly : Bool
  safeModeReason : Option String
  entryReady : Bool
  currentDayClose : Option ℚ
  prevDayReturn : Option ℚ
  dayBeforeClose : Option ℚ
  todayStartLocal : Option NaiveDateTime
  wasLongToday : Bool
  wasShortToday : Bool
  overnightExitArmedDate : Option NaiveDate
  riskGateShadowSessionDate : Option NaiveDate
  riskGateShadowPnlPoints : ℚ
  riskGateShadowTradeCount : ℕ
  riskGateShadowEntryTsUtc : Option ℤ
  riskGateShadowEntryPrice : Option ℚ
  riskGateShadowSide : Option Side
  riskGateShadowTargetPrice : Option ℚ
  riskGateShadowStopPrice : Option ℚ
  riskGatePendingSessionDate : Option NaiveDate
  riskGatePendingShadowPnlPoints : ℚ
  riskGatePendingShadowTradeCount : ℕ
  riskGateMrEnabledCurrentSession : Option Bool
  riskGateRollingSumLb120 : Option ℚ
  riskGateLastFinalizedSessionDate : Option NaiveDate
  riskGateLedgerRowsCount : ℕ
deriving DecidableEq, Repr

inductive StrategyState where
  | idle
  | hybridIntradayRuntime (saved : HybridIntradayRuntimeState)
deriving DecidableEq, Repr

structure HybridIntradayRuntimeStrategy extends DayFeatures, Protection, RiskGateShadow where
  config : HybridIntradayRuntimeConfig
  orchestrator : HybridOrchestrator
  high180Mr : High180MrEngine
  riskGateShadowMr : High180MrEngine
  state : StrategyState
  lastProcessedBarTs : Option ℤ
  lastPositionQty : ℚ
  currentOwner : Option Owner
  currentSide : Option Side
  pendingEntry : Option PendingEntry
  pendingEntryRequestId : Option Uuid
  pendingEntryCreatedTsUtc : Option ℤ
  deferredEntry : Option DeferredEntry
  pendingExit : Option PendingExit
  pendingExitRequestId : Option Uuid
  pendingExitCreatedTsUtc : Option ℤ
  deferredExit : Option DeferredExit
  bracketTerminalReconcileStartedMs : Option ℤ
  activeCycleId : Option CycleId
  safeModeCloseOnly : Bool
  safeModeReason : Option String
  nextCycleSeq : ℕ
  entryReady : Bool
  workingOrders : List ℤ
  workingStopOrders : List String
  cleanupStopRetryAttempts : ℕ
  startupLiveReplayBoundaryTsUtc : Option ℤ
deriving DecidableEq, Repr

def Protection.none : Protection where
  pendingTpRequestId := .none
  pendingTpCreatedTsUtc := .none
  pendingSlRequestId := .none
  pendingSlCreatedTsUtc := .none
  tpOrderId := .none
  slStopOrderId := .none
  slExchangeOrderId := .none
  slTriggeredTs := .none
  mrTakePrice := .none
  mrStopPrice := .none
  repairDeadlineTs := .none
  nextRepairAtTs := .none
  repairBackoffLevel := 0
  repairAttempts := 0

def high180ConfigFromMrCutoff (entryEndTime : NaiveTime) : High180MrConfig :=
  { High180MrConfig.default with entryEndTime := entryEndTime }

namespace HybridIntradayRuntimeStrategy

def new (config : HybridIntradayRuntimeConfig) : HybridIntradayRuntimeStrategy where
  toProtection := .none
  config := config
  orchestrator := .new ⟨config.mrConfig⟩ (.new config.breakoutConfig) config.orchestratorConfig
  high180Mr := .new (high180ConfigFromMrCutoff config.mrConfig.sessionEndTime)
  riskGateShadowMr := .new (high180ConfigFromMrCutoff config.mrConfig.sessionEndTime)
  state := .idle
  lastProcessedBarTs := none
  lastPositionQty := 0
  currentOwner := none
  currentSide := none
  pendingEntry := none
  pendingEntryRequestId := none
  pendingEntryCreatedTsUtc := none
  deferredEntry := none
  pendingExit := none
  pendingExitRequestId := none
  pendingExitCreatedTsUtc := none
  deferredExit := none
  bracketTerminalReconcileStartedMs := none
  activeCycleId := none
  safeModeCloseOnly := false
  safeModeReason := none
  nextCycleSeq := 0
  lastBarClose := none
  prevDayClose := none
  lastDayLocal := none
  currentDayHigh := none
  currentDayLow := none
  prevDayRange := none
  entryReady := false
  workingOrders := []
  workingStopOrders := []
  cleanupStopRetryAttempts := 0
  startupLiveReplayBoundaryTsUtc := none
  riskGateShadowSessionDate := none
  riskGateShadowPnlPoints := 0
  riskGateShadowTradeCount := 0
  riskGateShadowPosition := none
  riskGateShadowOpen := none
  pendingRiskGateFinalizations := []
  riskGateMrEnabledCurrentSession := none
  riskGateRollingSumLb120 := none
  riskGateLastFinalizedSessionDate := none
  riskGateLedgerRowsCount := 0

end HybridIntradayRuntimeStrategy

end AlorRs.HybridIntraday
