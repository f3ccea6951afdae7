import AlorRs.RustText
import AlorRs.StrategyRuntime.HybridIntradayRuntime.Saved

/-!
# The intents of the hybrid strategy

The comment tags of its orders, and every place that builds an intent: entries and exits for the
orchestrator's actions, the bracket of a filled entry and its repair, and the emergency exits.
Only `mapActionToIntents` emits an entry; exits come from six places, and of these the two of the
repair (`escalateSlTrigger` and `flattenUnprotected`) leave no pending exit behind.
-/

namespace AlorRs.HybridIntraday

/-! ### Comment tags -/

inductive TagRole where
  | entry | tp | sl | exit | cancel
deriving DecidableEq, Repr

structure HybridTag where
  sid : String
  cycle : String
  owner : Option Owner
  role : Option TagRole
deriving DecidableEq, Repr

def ownerCode : Owner → String
  | .meanReversion => "MR"
  | .intradayBreakout => "BO"

def roleCode : TagRole → String
  | .entry => "ENTRY"
  | .tp => "TP"
  | .sl => "SL"
  | .exit => "EXIT"
  | .cancel => "CANCEL"

def parseOwner (value : String) : Option Owner :=
  [Owner.meanReversion, .intradayBreakout].find? fun owner => ownerCode owner = value

def parseRole (value : String) : Option TagRole :=
  [TagRole.entry, .tp, .sl, .exit, .cancel].find? fun role => roleCode role = value

/-- What the parts of a comment have named so far. -/
structure TagParts where
  sid : Option String
  cycle : Option String
  owner : Option Owner
  role : Option TagRole
deriving DecidableEq, Repr

/-- One part of a comment; a part without a value makes the comment foreign. -/
def TagParts.read (parts : TagParts) (part : List Char) : Option TagParts :=
  (splitOnce '=' part).map fun (key, value) =>
    if key = ['s', 'i', 'd'] then { parts with sid := some (String.ofList value) }
    else if key = ['c'] then { parts with cycle := some (String.ofList value) }
    else if key = ['o'] then { parts with owner := parseOwner (String.ofList value) }
    else if key = ['r'] then { parts with role := parseRole (String.ofList value) }
    else parts

def parseHybridTag (comment : Option String) : Option HybridTag :=
  match comment with
  | none => none
  | some comment =>
    if !comment.toList.all isAscii || !startsWith comment "HYB|" then none
    else
      match ((comment.toList.splitOn '|').drop 1).foldlM TagParts.read ⟨none, none, none, none⟩ with
      | some ⟨some sid, some cycle, owner, role⟩ => some ⟨sid, cycle, owner, role⟩
      | _ => none

variable (ctx : StrategyCtx)

def isOurTag (comment : Option String) : Bool :=
  (parseHybridTag comment).any fun tag => tag.sid = ctx.strategyId

def tagRole (comment : Option String) : Option TagRole :=
  (parseHybridTag comment).bind (·.role)

def buildComment (cycleId : CycleId) (owner : Owner) (role : TagRole) : String :=
  "HYB|sid=" ++ ctx.strategyId ++ "|c=" ++ cycleId.text ++ "|o=" ++ ownerCode owner ++ "|r=" ++
    roleCode role

def isTerminalOrderStatus (status : String) : Bool :=
  ["filled", "canceled", "cancelled", "expired", "rejected"].contains status

def isTriggeredStatus (status : String) : Bool :=
  ["filled", "executed", "triggered", "done", "completed"].contains status

/-- The statuses of a stop order that ended without being triggered. -/
def isCanceledStatus (status : String) : Bool :=
  ["canceled", "cancelled", "expired", "rejected"].contains status

def isTerminalStopOrderStatus (status : String) : Bool :=
  isTriggeredStatus status || isCanceledStatus status

/-! ### Sides and prices -/

def sideToOrderSide : Side → OrderSide
  | .long => .buy
  | .short => .sell

def stopSideForEntrySide : Side → OrderSide
  | .long => .sell
  | .short => .buy

def stopConditionForEntrySide : Side → StopLimitCondition
  | .long => .lessOrEqual
  | .short => .moreOrEqual

def closingSide (qty : ℚ) : OrderSide := if 0 ≤ qty then .sell else .buy

def stopLimitPrice (stopSide : OrderSide) (triggerPrice tickSize : ℚ) : ℚ :=
  let offset := max tickSize (1 / 10000000)
  match stopSide with
  | .buy => triggerPrice + offset
  | .sell => triggerPrice - offset

/-- `f64::signum` of a number that is not a negative zero. -/
def signum (x : ℚ) : ℚ := if 0 ≤ x then 1 else -1

def effectiveCreatedTsUtc (fallbackTsUtc : ℤ) : ℤ :=
  max ctx.eventTsUtc fallbackTsUtc

/-- The position in the context, where none is flat. -/
def ctxQty : ℚ := ctx.positionQty.getD 0

def canExecuteNow (isLiveBar : Bool) : Bool :=
  match ctx.tradeMode with
  | .live => ctx.allowLiveOrders && ctx.gatewayPhase = .liveReady && isLiveBar
  | .paper =>
    match ctx.paperExecutionMode with
    | .historySim => true
    | .liveOnly => isLiveBar
  | .backtest => true

def canEmitNow (isLiveBar : Bool) : Bool :=
  match ctx.tradeMode with
  | .live => canExecuteNow ctx isLiveBar
  | .paper | .backtest => true

def cancelIntent (orderId : ℤ) : Intent := (Intent.cancel orderId).withClass .cancelCleanup

def deleteStopIntent (orderId : String) (side : Option OrderSide) : Intent :=
  (Intent.deleteStopLimit orderId side (some true)).withClass .cancelCleanup

namespace HybridIntradayRuntimeStrategy

/-! ### Guards -/

variable (s : HybridIntradayRuntimeStrategy) (config : HybridIntradayRuntimeConfig)
  (entry : PendingEntry) (ctx : StrategyCtx) (tsUtc createdTsUtc : ℤ)

def hasLiveOrders : Bool :=
  s.pendingEntry.isSome || s.pendingEntryRequestId.isSome || s.pendingExitRequestId.isSome ||
    s.pendingTpRequestId.isSome || s.pendingSlRequestId.isSome || !s.workingOrders.isEmpty ||
    !s.workingStopOrders.isEmpty

def utcToLocalNaive : Option NaiveDateTime :=
  (localDateTime config.timezoneOffsetHours tsUtc).map (·.naiveLocal)

def enterSafeMode (reason : String) : HybridIntradayRuntimeStrategy :=
  { s with safeModeCloseOnly := true, safeModeReason := some reason }

def resetRepairTracking : HybridIntradayRuntimeStrategy :=
  { s with toProtection := .none }

def scheduleNextRepair (nowTs : ℤ) : HybridIntradayRuntimeStrategy :=
  let step := min
    (min (s.config.repairBackoffBaseSec * 2 ^ min s.repairBackoffLevel 16) (2 ^ 64 - 1))
    s.config.repairBackoffMaxSec
  { s with
    nextRepairAtTs := some (saturatingAdd nowTs (asI64 step))
    repairBackoffLevel := min (s.repairBackoffLevel + 1) (2 ^ 32 - 1) }

def nextCycleId : CycleId :=
  .ofTime ((max tsUtc 0).toNat % 2 ^ 32) (s.nextCycleSeq % 2 ^ 8)

def advanceCycleSeq : HybridIntradayRuntimeStrategy :=
  { s with nextCycleSeq := (s.nextCycleSeq + 1) % 2 ^ 32 }

/-- The cycle under way, or else a new one. -/
def cycleIdOrNext : CycleId :=
  s.activeCycleId.getD (s.nextCycleId tsUtc)

def takeCycleId : HybridIntradayRuntimeStrategy :=
  if s.activeCycleId.isSome then s else s.advanceCycleSeq

def ensureActiveCycleFromComment (comment : Option String) : HybridIntradayRuntimeStrategy :=
  match s.activeCycleId, (parseHybridTag comment).bind fun tag => CycleId.parse tag.cycle with
  | none, some cycleId => { s with activeCycleId := some cycleId }
  | _, _ => s

/-! ### Entries and exits -/

def useLiveMarketableLimit : Bool :=
  ctx.tradeMode = .live && config.liveOrderStyle = .marketableLimit

/-- The price that stands in for a missing one. -/
def tickOrOne : ℚ :=
  if 0 < config.tickSize then config.tickSize else 1

def liveMarketablePriceFromReference (side : OrderSide) (referencePrice : ℚ) : ℚ :=
  let referencePrice := if 0 < referencePrice then referencePrice else tickOrOne config
  if config.tickSize ≤ 0 then referencePrice
  else
    let shift := ((max config.marketableLimitOffsetTicks 0 + 1 : ℤ) : ℚ) * config.tickSize
    match side with
    | .buy => referencePrice + shift
    | .sell => referencePrice - shift

def liveReferencePrice : ℚ :=
  (((s.lastBarClose.filter (0 < ·)).or (s.mrTakePrice.filter (0 < ·))).or
    (s.mrStopPrice.filter (0 < ·))).getD (tickOrOne s.config)

def liveRequestId (side : OrderSide) : Uuid :=
  if useLiveMarketableLimit config ctx then
    deterministicRequestId ctx.strategyId ctx.portfolio ctx.symbol "place" createdTsUtc 0
  else deterministicMarketRequestId ctx.strategyId ctx.portfolio ctx.symbol createdTsUtc side

def buildLiveEntryExitIntent (side : OrderSide) (qty referencePrice : ℚ) (comment : String)
    : Intent :=
  if useLiveMarketableLimit config ctx then
    .place (liveMarketablePriceFromReference config side referencePrice) qty side (some comment)
  else .market qty side none (some comment)

def exitIntent (qty referencePrice : ℚ) (cycleId : CycleId) (owner : Owner) : Intent :=
  (buildLiveEntryExitIntent config ctx (closingSide qty) |qty| referencePrice
    (buildComment ctx cycleId owner .exit)).withClass .exit

def setPendingExit (owner : Owner) (reason : ReasonCode) (createdTsUtc : ℤ) (side : OrderSide)
    : HybridIntradayRuntimeStrategy :=
  { s with
    pendingExit := some ⟨owner, reason⟩
    pendingExitRequestId := some (liveRequestId s.config ctx createdTsUtc side)
    pendingExitCreatedTsUtc := some createdTsUtc }

def setPendingEntry (entry : EntrySignal) (cycleId : CycleId) (createdTsUtc : ℤ)
    : HybridIntradayRuntimeStrategy :=
  { s with
    pendingEntry := some
      { owner := entry.owner
        side := entry.side
        cycleId := cycleId
        reason := entry.reason
        entryStyle := entry.entryStyle
        stopPrice := entry.stopPrice
        takePrice := entry.takePrice
        targetQty := s.config.targetQty
        partialStartedAtMs := none }
    pendingEntryRequestId :=
      some (liveRequestId s.config ctx createdTsUtc (sideToOrderSide entry.side))
    pendingEntryCreatedTsUtc := some createdTsUtc
    activeCycleId := some cycleId }

def submitEntry (canEmit canExecute : Bool) (referencePrice : ℚ) (entry : EntrySignal) :
    HybridIntradayRuntimeStrategy × List Intent :=
  if !s.entryReady || s.safeModeCloseOnly || !canEmit then
    ({ s with orchestrator := s.orchestrator.onOrderRejected .entry }, [])
  else
    let cycleId := s.nextCycleId createdTsUtc
    let next := s.advanceCycleSeq
    let intent :=
      (buildLiveEntryExitIntent s.config ctx (sideToOrderSide entry.side) s.config.targetQty
        referencePrice (buildComment ctx cycleId entry.owner .entry)).withClass .entry
    (if canExecute then (next.setPendingEntry ctx entry cycleId createdTsUtc).syncState else next,
      [intent])

/-- The part of `Action::SubmitExit` for a position that is open. -/
def exitPosition (canExecute : Bool) (referencePrice qty : ℚ) (owner : Owner) (reason : ReasonCode)
    :
    HybridIntradayRuntimeStrategy × List Intent :=
  let cycleId := s.cycleIdOrNext createdTsUtc
  let next := s.takeCycleId
  let pending :=
    ({ next with activeCycleId := some cycleId, currentOwner := some owner }).setPendingExit ctx
      owner reason createdTsUtc (closingSide qty)
  (if canExecute then pending.syncState else next,
    [exitIntent s.config ctx qty referencePrice cycleId owner])

def submitExit (canEmit canExecute : Bool) (referencePrice : ℚ) (owner : Owner)
    (reason : ReasonCode) : HybridIntradayRuntimeStrategy × List Intent :=
  if !canEmit || s.pendingExitRequestId.isSome || decide (|ctxQty ctx| ≤ epsilon) then (s, [])
  else s.exitPosition ctx createdTsUtc canExecute referencePrice (ctxQty ctx) owner reason

def mapActionToIntentsWithReference (canEmit canExecute : Bool) (referencePrice : ℚ) :
    Action → HybridIntradayRuntimeStrategy × List Intent
  | .submitEntry entry => s.submitEntry ctx createdTsUtc canEmit canExecute referencePrice entry
  | .submitExit owner reason =>
    s.submitExit ctx createdTsUtc canEmit canExecute referencePrice owner reason
  | .armOvernightExit _ _ _ _ => (s, [])

/-- The actions of a bar one after the other, each at the reference price of its time. -/
def mapActionsToIntents (s : HybridIntradayRuntimeStrategy) (ctx : StrategyCtx) (createdTsUtc : ℤ)
    (canEmit canExecute : Bool) : List Action → HybridIntradayRuntimeStrategy × List Intent
  | [] => (s, [])
  | action :: actions =>
    let mapped := s.mapActionToIntentsWithReference ctx createdTsUtc canEmit canExecute
      s.liveReferencePrice action
    let rest := mapped.1.mapActionsToIntents ctx createdTsUtc canEmit canExecute actions
    (rest.1, mapped.2 ++ rest.2)

/-! ### Protection -/

def stopEndBufferOrDefault : ℤ :=
  saturatingAdd (max createdTsUtc 0) (asI64 config.stopEndBufferSec)

/-- The loop of `resolve_stop_end_unix_time` over the days left. -/
def findStopEnd (config : HybridIntradayRuntimeConfig) (offset createdTsUtc : ℤ)
    (closeTime : NaiveTime) (day : NaiveDate) : ℕ → ℤ
  | 0 => stopEndBufferOrDefault config createdTsUtc
  | days + 1 =>
    if config.weekendsOff && isWeekendDay day then
      findStopEnd config offset createdTsUtc closeTime (day + 1) days
    else
      match timestampOfLocal offset day closeTime with
      | none => findStopEnd config offset createdTsUtc closeTime (day + 1) days
      | some close =>
        let stopEnd := saturatingAdd close (asI64 config.stopEndBufferSec)
        if createdTsUtc < stopEnd then stopEnd
        else findStopEnd config offset createdTsUtc closeTime (day + 1) days

def resolveStopEndUnixTime : ℤ :=
  if createdTsUtc ≤ 0 then stopEndBufferOrDefault config 0
  else
    match localDateTime config.timezoneOffsetHours createdTsUtc with
    | none => stopEndBufferOrDefault config createdTsUtc
    | some localDt =>
      let closeTime :=
        NaiveTime.fromHms (min config.sessionCloseHour 23) (min config.sessionCloseMinute 59) 0
      findStopEnd config localDt.offset createdTsUtc closeTime localDt.date 8

def askTakeProfit : HybridIntradayRuntimeStrategy :=
  { s with
    pendingTpRequestId := some
      (deterministicRequestId ctx.strategyId ctx.portfolio ctx.symbol "place" tsUtc 0)
    pendingTpCreatedTsUtc := some tsUtc }

def takeProfitIntent (cycleId : CycleId) (owner : Owner) (side : Side) (qty price : ℚ) : Intent :=
  (Intent.place price qty (stopSideForEntrySide side)
    (some (buildComment ctx cycleId owner .tp))).withClass .protectiveRepair

def askStopLoss : HybridIntradayRuntimeStrategy :=
  { s with
    pendingSlRequestId := some
      (deterministicRequestId ctx.strategyId ctx.portfolio ctx.symbol "create_stop_limit" tsUtc 5)
    pendingSlCreatedTsUtc := some tsUtc }

def stopLossIntent (cycleId : CycleId) (owner : Owner) (side : Side) (qty price : ℚ) : Intent :=
  let stopSide := stopSideForEntrySide side
  (Intent.createStopLimit stopSide qty price (stopLimitPrice stopSide price ctx.tickSize)
    (stopConditionForEntrySide side) (resolveStopEndUnixTime config tsUtc)
    (some (buildComment ctx cycleId owner .sl)) none (some true)).withClass .protectiveRepair

def emitMrBracketIntents (pos : PositionEvent) (entry : PendingEntry)
    : HybridIntradayRuntimeStrategy × List Intent :=
  if entry.owner ≠ .meanReversion ∨ entry.entryStyle ≠ .bracket ∨ |pos.qty| ≤ epsilon then (s, [])
  else
    let protectedUp := if entry.takePrice.isSome then s.askTakeProfit ctx pos.tsUtc else s
    let protectedDown :=
      if entry.stopPrice.isSome then protectedUp.askStopLoss ctx pos.tsUtc else protectedUp
    (protectedDown,
      (entry.takePrice.map
        (takeProfitIntent ctx entry.cycleId entry.owner entry.side |pos.qty|)).toList ++
      (entry.stopPrice.map (stopLossIntent s.config ctx pos.tsUtc entry.cycleId entry.owner
        entry.side |pos.qty|)).toList)

def emitCancelAllProtection (side : Option Side) : HybridIntradayRuntimeStrategy × List Intent :=
  ({ s with tpOrderId := none, slStopOrderId := none, slExchangeOrderId := none },
    (s.tpOrderId.map cancelIntent).toList ++
    (s.slStopOrderId.map fun id => deleteStopIntent id (side.map stopSideForEntrySide)).toList ++
    (s.slExchangeOrderId.map cancelIntent).toList)

/-! ### Emergency exits -/

def emitBrokerResidualEmergencyExit (pos : PositionEvent) (reason : String)
    : HybridIntradayRuntimeStrategy × List Intent :=
  if s.pendingExitRequestId.isSome ∨ |pos.qty| ≤ epsilon then (s, [])
  else
    let owner := s.currentOwner.getD .meanReversion
    let createdTsUtc := effectiveCreatedTsUtc ctx pos.tsUtc
    let cycleId := s.cycleIdOrNext createdTsUtc
    let canceled := s.takeCycleId.emitCancelAllProtection s.currentSide
    (((({ canceled.1 with activeCycleId := some cycleId }).setPendingExit ctx owner
        .meanRevTimeCutoff createdTsUtc (closingSide pos.qty)).enterSafeMode reason),
      canceled.2 ++ [exitIntent s.config ctx pos.qty s.liveReferencePrice cycleId owner])

def bracketTerminalReconcileGraceMs : ℤ := 3000

def markBracketTerminalReconcile (nowMs : ℤ) : HybridIntradayRuntimeStrategy :=
  { s with bracketTerminalReconcileStartedMs := some nowMs }

def bracketTerminalReconcileActive (nowMs : ℤ) : Bool :=
  s.bracketTerminalReconcileStartedMs.any fun started =>
    saturatingSub nowMs started < bracketTerminalReconcileGraceMs

def mrBracketProtectivePartialProgress (prev cur : ℚ) : Bool :=
  if s.currentOwner ≠ some .meanReversion ∨ |prev| ≤ epsilon ∨ |cur| ≤ epsilon ∨
      signum prev ≠ signum cur ∨ |prev| ≤ |cur| then false
  else
    match s.currentSide with
    | some .long => 0 ≤ prev
    | some .short => prev < 0
    | none => false

/-- The position that the end of the grace period is about. -/
def reconcilePosition (nowTsUtcMs : ℤ) :
    PositionEvent where
  symbol := s.config.symbol
  qty := ctx.positionQty.getD s.lastPositionQty
  existing := false
  avgPrice := s.liveReferencePrice
  tsUtc := nowTsUtcMs / 1000

def emitBracketReconcileTimeoutExit (nowTsUtcMs : ℤ)
    : HybridIntradayRuntimeStrategy × List Intent :=
  match s.bracketTerminalReconcileStartedMs with
  | none => (s, [])
  | some started =>
    if saturatingSub nowTsUtcMs started < bracketTerminalReconcileGraceMs then (s, [])
    else
      ({ s with bracketTerminalReconcileStartedMs := none }).emitBrokerResidualEmergencyExit ctx
        (s.reconcilePosition ctx nowTsUtcMs) "bracket_terminal_reconcile_timeout"

def expectedEntryQty : ℚ :=
  match entry.side with
  | .long => entry.targetQty
  | .short => -entry.targetQty

def waitsForPartialEntryTarget : Bool := 1 < entry.targetQty

def partialEntryProgressIsValid (prev cur : ℚ) : Bool :=
  let target := expectedEntryQty entry
  epsilon < |cur| ∧ signum cur = signum target ∧ |cur| ≤ |target| + epsilon ∧
    |prev| ≤ |cur| + epsilon

/-- Whether a pending entry has waited too long for the rest of its fills. -/
def partialEntryTimedOut (nowTsUtcMs : ℤ) : Bool :=
  match entry.partialStartedAtMs with
  | none => false
  | some startedAtMs =>
    waitsForPartialEntryTarget entry && decide (epsilon < |s.lastPositionQty|) &&
      asI64 s.config.partialEntryFillTimeoutMs ≤ saturatingSub nowTsUtcMs startedAtMs

/-- `emit_partial_entry_timeout_exit`; the working orders are in no particular order. -/
def emitPartialEntryTimeoutExit (nowTsUtcMs : ℤ) : HybridIntradayRuntimeStrategy × List Intent :=
  match s.pendingEntry with
  | none => (s, [])
  | some entry =>
    if !s.partialEntryTimedOut entry nowTsUtcMs then (s, [])
    else
      let exiting :=
        ({ s with
          currentOwner := some entry.owner
          currentSide := some entry.side
          pendingEntry := none
          pendingEntryRequestId := none
          pendingEntryCreatedTsUtc := none }).setPendingExit ctx entry.owner .meanRevTimeCutoff
          (nowTsUtcMs / 1000) (closingSide s.lastPositionQty)
      ((exiting.enterSafeMode "partial_entry_fill_timeout").syncState,
        s.workingOrders.map cancelIntent ++
          [exitIntent s.config ctx s.lastPositionQty s.liveReferencePrice entry.cycleId entry.owner])

/-! ### Repair -/

/-- Whether a take-profit is in place or asked for. -/
def hasTp : Bool :=
  s.tpOrderId.isSome || s.pendingTpRequestId.isSome

/-- Whether a stop-loss is in place or asked for. -/
def hasSl : Bool :=
  s.slStopOrderId.isSome || s.pendingSlRequestId.isSome

/-- The end of the wait for a triggered stop-loss: an exit, which no pending exit records. -/
def escalateSlTrigger (nowTs : ℤ) : HybridIntradayRuntimeStrategy × List Intent :=
  let owner := s.currentOwner.getD .meanReversion
  let cycleId := s.cycleIdOrNext (max nowTs 0)
  (({ s.takeCycleId with
      tpOrderId := none
      slExchangeOrderId := none
      slTriggeredTs := none }).enterSafeMode "sl_triggered_escalation",
    (s.tpOrderId.map cancelIntent).toList ++ (s.slExchangeOrderId.map cancelIntent).toList ++
      [exitIntent s.config ctx (ctxQty ctx) s.liveReferencePrice cycleId owner])

/-- The end of the time for repairs: an exit, which no pending exit records. -/
def flattenUnprotected (cycleId : CycleId) : HybridIntradayRuntimeStrategy × List Intent :=
  (s.enterSafeMode "repair_deadline_force_flatten",
    [exitIntent s.config ctx (ctxQty ctx) s.liveReferencePrice cycleId
      (s.currentOwner.getD .meanReversion)])

/-- The parts of the bracket that are missing are asked for. -/
def repairBracket (nowTs : ℤ) (cycleId : CycleId) : HybridIntradayRuntimeStrategy × List Intent :=
  let owner := s.currentOwner.getD .meanReversion
  let side := s.currentSide.getD (if 0 ≤ ctxQty ctx then .long else .short)
  let qty := |ctxQty ctx|
  let protectedUp := if s.hasTp then s else s.askTakeProfit ctx nowTs
  let protectedDown := if s.hasSl then protectedUp else protectedUp.askStopLoss ctx nowTs
  let intents :=
    (if s.hasTp then [] else [takeProfitIntent ctx cycleId owner side qty (s.mrTakePrice.getD 0)]) ++
    (if s.hasSl then []
      else [stopLossIntent s.config ctx nowTs cycleId owner side qty (s.mrStopPrice.getD 0)])
  (if intents.isEmpty then protectedDown
    else
      ({ protectedDown with
        repairAttempts := min (protectedDown.repairAttempts + 1) (2 ^ 32 - 1) }).scheduleNextRepair
        nowTs,
    intents)

/-- The part of `maybe_emit_repair_intents` for a bracket that is not complete. -/
def repairProtection (nowTs : ℤ) : HybridIntradayRuntimeStrategy × List Intent :=
  match s.activeCycleId with
  | none => (s.enterSafeMode "repair_missing_cycle_id", [])
  | some cycleId =>
    if s.mrTakePrice.isNone || s.mrStopPrice.isNone then
      (s.enterSafeMode "repair_missing_bracket_levels", [])
    else if s.repairDeadlineTs.any fun deadline => deadline ≤ nowTs then
      s.flattenUnprotected ctx cycleId
    else if s.nextRepairAtTs.any fun nextTs => nowTs < nextTs then (s, [])
    else if !canExecuteNow ctx true || ctx.gatewayPhase ≠ .liveReady then
      (s.scheduleNextRepair nowTs, [])
    else if s.config.maxRepairRetries ≤ s.repairAttempts then
      (s.enterSafeMode "repair_retries_exhausted", [])
    else s.repairBracket ctx nowTs cycleId

def maybeEmitRepairIntents (nowTs : ℤ) : HybridIntradayRuntimeStrategy × List Intent :=
  if |ctxQty ctx| ≤ epsilon ∨ s.currentOwner ≠ some .meanReversion then
    ({ s with slTriggeredTs := none }, [])
  else
    match s.slTriggeredTs with
    | some triggeredTs =>
      if nowTs < saturatingAdd triggeredTs (asI64 s.config.slEscalateTimeoutSec) then (s, [])
      else s.escalateSlTrigger ctx nowTs
    | none => if s.hasTp && s.hasSl then (s, []) else s.repairProtection ctx nowTs

end HybridIntradayRuntimeStrategy

end AlorRs.HybridIntraday
