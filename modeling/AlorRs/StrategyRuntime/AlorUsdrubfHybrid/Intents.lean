import AlorRs.StrategyRuntime.AlorUsdrubfHybrid.Basic

/-!
# The intents of the USDRUBF strategy

Entries and exits go to the market; an MR position is protected by a limit order at its take price
(TP) and a stop order at its stop price (SL).  What the broker holds against expectation is
flattened at once.
-/

namespace AlorRs.AlorUsdrubfHybrid

/-! ### Comments -/

def brokerComment (comment : String) : String :=
  String.ofList ((comment.toList.filter isAscii).take 100)

def mrProtectionComment (ctx : StrategyCtx) (role : ProtectionRole) : String :=
  brokerComment ("AUS|sid=" ++ ctx.strategyId ++ "|o=MR|r=" ++ role.asStr)

def parseMrProtectionRole (comment : Option String) : Option ProtectionRole :=
  match comment with
  | none => none
  | some comment =>
    if containsText comment "|o=MR|r=TP" then some .tp
    else if containsText comment "|o=MR|r=SL" then some .sl
    else none

/-! ### Stop orders -/

def stopConditionForPositionSide : PositionSide → StopLimitCondition
  | .long => .lessOrEqual
  | .short => .moreOrEqual

def stopLimitPrice (side : Side) (triggerPrice tickSize : ℚ) : ℚ :=
  let offset := max tickSize (1 / 10 ^ 7)
  match side with
  | .buy => triggerPrice + offset
  | .sell => triggerPrice - offset

def stopEndUnixTime (createdTsUtc : ℤ) : ℤ := asI64 (createdTsUtc + 12 * 60 * 60)

namespace AlorUsdrubfHybridStrategy

/-! ### Positions -/

variable (s : AlorUsdrubfHybridStrategy) (ctx : StrategyCtx) (nowMs : ℤ) (pending : PendingEntry)
  (reason : String) (barTsUtc : ℤ)

def buildOpenPositionFromPending (entryTsUtc : ℤ) (entryPrice : ℚ) (size : ℤ) : OpenPosition where
  owner := pending.owner
  side := pending.side
  entryTs := utcToLocal entryTsUtc s.config.timezoneOffsetHours
  entryPrice := entryPrice
  size := size
  stopPrice :=
    if pending.owner = .meanRev then some
      (roundToTick (entryPrice + s.config.mrStopKShort * pending.scaleAtSignal) s.config.tickSize)
    else none
  takePrice :=
    if pending.owner = .meanRev then some
      (roundToTick (entryPrice - s.config.mrTakeKShort * pending.scaleAtSignal) s.config.tickSize)
    else none
  stop1 := pending.stop1
  stop2 := pending.stop2

def syntheticPending (side : PositionSide) (reason : String) (signalPrice : ℚ) : PendingEntry where
  owner := .breakout
  side := side
  reason := reason
  scaleAtSignal := 0
  signalPrice := signalPrice
  stop1 := none
  stop2 := none
  targetQty := 1
  partialStartedAtMs := none

def entryComment (owner : Owner) : String :=
  s.config.symbol ++ "|entry|" ++ owner.asStr

def exitComment : String :=
  s.config.symbol ++ "|exit|" ++ reason

/-! ### Outside live trading -/

def maybeFillPendingEntry (bar : BarEvent) : AlorUsdrubfHybridStrategy × List Intent :=
  match s.pendingEntry with
  | none => (s, [])
  | some pending =>
    let size := s.computeEntrySize bar.o
    ({ s with
        openPosition := some (s.buildOpenPositionFromPending pending bar.closeTimeUtc bar.o size)
        pendingEntry := none
        entryIntentInflight := false
        exitIntentInflight := false
        protection := .none
        hybridState := .opened },
      [.market size pending.side.entrySide (some bar.o) (some (s.entryComment pending.owner))])

def applyExit (exitPrice : ℚ) : AlorUsdrubfHybridStrategy × List Intent :=
  match s.openPosition with
  | none => (s, [])
  | some pos =>
    let gross : ℚ :=
      match pos.side with
      | .long => (exitPrice - pos.entryPrice) * pos.size
      | .short => (pos.entryPrice - exitPrice) * pos.size
    let commission : ℚ :=
      (pos.entryPrice + exitPrice) * pos.size * (s.config.commissionPctPerSide / 100)
    ({ s with
        cash := s.cash + (gross - commission)
        openPosition := none
        exitIntentInflight := false
        entryIntentInflight := false
        protection := .none
        hybridState := .flat },
      [.market pos.size pos.side.exitSide (some exitPrice) (some (s.exitComment reason))])

/-! ### Protection -/

def protectionCancels (protection : MrProtection) (side : Option Side) : List Intent :=
  (protection.tpOrderId.map fun orderId =>
      (Intent.cancel orderId).withClass .cancelCleanup).toList ++
    (protection.slStopOrderId.map fun orderId =>
      (Intent.deleteStopLimit orderId side (some true)).withClass .cancelCleanup).toList ++
    (protection.slExchangeOrderId.map fun orderId =>
      (Intent.cancel orderId).withClass .cancelCleanup).toList

/-- `emit_cancel_all_protection`: what is not known yet is forgotten too. -/
def emitCancelAllProtection (side : Option Side) : AlorUsdrubfHybridStrategy × List Intent :=
  ({ s with protection := .none }, protectionCancels s.protection side)

def tpIntent (pos : OpenPosition) (takePrice : ℚ) : Intent :=
  (Intent.place takePrice pos.size pos.side.exitSide
    (some (mrProtectionComment ctx .tp))).withClass .protectiveRepair

def slIntent (pos : OpenPosition) (stopPrice : ℚ) (barTsUtc : ℤ) : Intent :=
  (Intent.createStopLimit pos.side.exitSide pos.size stopPrice
    (stopLimitPrice pos.side.exitSide stopPrice ctx.tickSize)
    (stopConditionForPositionSide pos.side) (stopEndUnixTime barTsUtc)
    (some (mrProtectionComment ctx .sl)) none (some true)).withClass .protectiveRepair

def placeTp (pos : OpenPosition) : AlorUsdrubfHybridStrategy × List Intent :=
  match pos.takePrice with
  | none => (s, [])
  | some takePrice =>
    if s.protection.tpOrderId.isNone && s.protection.pendingTpBarTsUtc.isNone then
      ({ s with protection := { s.protection with pendingTpBarTsUtc := some barTsUtc } },
        [tpIntent ctx pos takePrice])
    else (s, [])

def placeSl (pos : OpenPosition) : AlorUsdrubfHybridStrategy × List Intent :=
  match pos.stopPrice with
  | none => (s, [])
  | some stopPrice =>
    if s.protection.slStopOrderId.isNone && s.protection.pendingSlBarTsUtc.isNone then
      ({ s with protection := { s.protection with pendingSlBarTsUtc := some barTsUtc } },
        [slIntent ctx pos stopPrice barTsUtc])
    else (s, [])

def maybeEmitLiveMrBrackets : AlorUsdrubfHybridStrategy × List Intent :=
  if s.exitIntentInflight then (s, [])
  else
    match s.openPosition with
    | none => (s, [])
    | some pos =>
      if pos.owner ≠ .meanRev then (s, [])
      else
        let (s, tp) := s.placeTp ctx barTsUtc pos
        let (s, sl) := s.placeSl ctx barTsUtc pos
        (s, tp ++ sl)

/-! ### Emergency exits -/

def emitBrokerResidualEmergencyExit (qty : ℚ) (reason : String) :
    AlorUsdrubfHybridStrategy × List Intent :=
  if s.exitIntentInflight || |qty| < flatQty then (s, [])
  else
    let side : Side := if 0 < qty then .sell else .buy
    let (s, cancels) := s.emitCancelAllProtection (some side)
    ({ s with exitIntentInflight := true, lifecycleStage := reason },
      cancels ++ [(Intent.market |qty| side none (some (s.exitComment reason))).withClass .exit])

def markBracketTerminalReconcile : AlorUsdrubfHybridStrategy :=
  { s with bracketTerminalReconcileStartedMs := some nowMs }

def bracketTerminalReconcileGraceMs : ℤ := 3000

def bracketTerminalReconcileActive : Bool :=
  s.bracketTerminalReconcileStartedMs.any fun started =>
    nowMs - started < bracketTerminalReconcileGraceMs

def mrBracketProtectivePartialProgress (opened : OpenPosition) (brokerQty : ℚ) : Bool :=
  opened.owner = .meanRev && !(|brokerQty| < flatQty) && !(|opened.signedQty| ≤ flatQty) &&
    signum opened.signedQty = signum brokerQty && |brokerQty| + epsilon < |opened.signedQty|

def markMrBracketPartialReconcile : AlorUsdrubfHybridStrategy :=
  { s.markBracketTerminalReconcile nowMs with
    exitIntentInflight := true
    lifecycleStage := "mr_bracket_partial_awaiting_broker_flat" }

def emitBracketReconcileTimeoutExit (nowTsUtcMs : ℤ) : AlorUsdrubfHybridStrategy × List Intent :=
  match s.bracketTerminalReconcileStartedMs with
  | none => (s, [])
  | some started =>
    if nowTsUtcMs - started < bracketTerminalReconcileGraceMs then (s, [])
    else
      let qty := ctx.positionQty.getD 0
      let s := { s with bracketTerminalReconcileStartedMs := none }
      if |qty| < flatQty then (s, [])
      else
        ({ s with exitIntentInflight := false } : AlorUsdrubfHybridStrategy
          ).emitBrokerResidualEmergencyExit qty "bracket_terminal_reconcile_timeout"

/-! ### Live entries and exits -/

def sendEntry (size : ℤ) (referencePrice : ℚ) : AlorUsdrubfHybridStrategy × List Intent :=
  ({ s with
      pendingEntry := some { pending with targetQty := size, partialStartedAtMs := none }
      entryIntentInflight := true
      hybridState := .pending
      lifecycleStage := "live_entry_intent_emitted" },
    [.market size pending.side.entrySide (some referencePrice)
      (some (s.entryComment pending.owner))])

def maybeEmitLiveEntryIntent (bar : BarEvent) (referencePrice : ℚ)
    : AlorUsdrubfHybridStrategy × List Intent :=
  match s.pendingEntry with
  | none => (s, [])
  | some pending =>
    if s.entryRejectDeferredUntilBarTs = some bar.closeTimeUtc then (s, [])
    else if s.entryIntentInflight || s.openPosition.isSome then (s, [])
    else s.sendEntry pending (s.computeEntrySize referencePrice) referencePrice

def maybeEmitLiveExitIntent (exitPrice : ℚ) (barTsUtc : ℤ)
    : AlorUsdrubfHybridStrategy × List Intent :=
  match s.openPosition with
  | none => (s, [])
  | some pos =>
    if s.exitRejectDeferredUntilBarTs = some barTsUtc then (s, [])
    else if s.exitIntentInflight then (s, [])
    else
      let (s, cancels) := s.emitCancelAllProtection (some pos.side.exitSide)
      ({ s with
          deferredExitReason := some reason
          exitIntentInflight := true
          lifecycleStage := "live_exit_intent_emitted" },
        cancels ++ [.market pos.size pos.side.exitSide (some exitPrice)
          (some (s.exitComment reason))])

end AlorUsdrubfHybridStrategy

end AlorRs.AlorUsdrubfHybrid
