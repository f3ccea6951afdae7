import AlorRs.StrategyRuntime.HybridIntraday.Engines

/-!
# The orchestrator of the hybrid strategy

It feeds each bar to the breakout engine and decides on at most one action: an exit of the open
position, or an entry where nothing is open or under way.
-/

namespace AlorRs.HybridIntraday

inductive HybridState where
  | flat | pending | opened
deriving DecidableEq, Repr

inductive BreakoutEodMode where
  | sameDay | overnight
deriving DecidableEq, Repr

structure HybridOrchestratorConfig where
  breakoutEodMode : BreakoutEodMode
  breakoutOvernightExitTime : NaiveTime
deriving DecidableEq, Repr

structure HybridSnapshot where
  state : HybridState
  currentOwner : Option Owner
  currentSide : Option Side
  hasPendingEntry : Bool
  overnightExitArmedDate : Option NaiveDate
deriving DecidableEq, Repr

structure HybridOrchestrator where
  meanReversion : MeanReversionEngine
  intradayBreakout : IntradayBreakoutEngine
  config : HybridOrchestratorConfig
  state : HybridState
  currentOwner : Option Owner
  currentSide : Option Side
  pendingEntry : Option EntrySignal
  overnightExitArmedDate : Option NaiveDate
deriving DecidableEq, Repr

structure BarInput where
  dt : NaiveDateTime
  openPrice : ℚ
  high : ℚ
  low : ℚ
  close : ℚ
  closePrev : ℚ
  dayRangePrev : ℚ
  hasOpenPosition : Bool
  hasLiveOrders : Bool
deriving DecidableEq, Repr

/-- The role of an order that the orchestrator is told about. -/
inductive OrderRole where
  | entry | exit
deriving DecidableEq, Repr

namespace HybridOrchestrator

def new (meanReversion : MeanReversionEngine) (intradayBreakout : IntradayBreakoutEngine)
    (config : HybridOrchestratorConfig) : HybridOrchestrator where
  meanReversion := meanReversion
  intradayBreakout := intradayBreakout
  config := config
  state := .flat
  currentOwner := none
  currentSide := none
  pendingEntry := none
  overnightExitArmedDate := none

variable (orchestrator : HybridOrchestrator) (bar : BarInput) (mrEntrySignal : Option EntrySignal)

def reset : HybridOrchestrator :=
  { orchestrator with
    state := .flat
    currentOwner := none
    currentSide := none
    pendingEntry := none
    overnightExitArmedDate := none }

def snapshot : HybridSnapshot where
  state := orchestrator.state
  currentOwner := orchestrator.currentOwner
  currentSide := orchestrator.currentSide
  hasPendingEntry := orchestrator.pendingEntry.isSome
  overnightExitArmedDate := orchestrator.overnightExitArmedDate

def restore (snapshot : HybridSnapshot) : HybridOrchestrator :=
  { orchestrator with
    state := snapshot.state
    currentOwner := snapshot.currentOwner
    currentSide := snapshot.currentSide
    pendingEntry := none
    overnightExitArmedDate := snapshot.overnightExitArmedDate }

def warmBar : HybridOrchestrator :=
  { orchestrator with
    intradayBreakout :=
      orchestrator.intradayBreakout.onBar bar.dt bar.openPrice bar.high bar.low bar.close }

def shouldTriggerOvernightExit (dt : NaiveDateTime) : Bool :=
  match orchestrator.overnightExitArmedDate with
  | none => false
  | some armedDate =>
    if dt.date ≤ armedDate then false
    else
      let t : NaiveDateTime := ⟨dt.date, orchestrator.config.breakoutOvernightExitTime⟩
      t.hour < dt.hour || (dt.hour == t.hour && t.minute ≤ dt.minute)

def emitEntryAction (signal : EntrySignal) : HybridOrchestrator × List Action :=
  ({ orchestrator with
      state := .pending
      pendingEntry := some signal
      currentOwner := some signal.owner
      currentSide := some signal.side },
    [.submitEntry signal])

/-- The exit that the breakout engine asks for on a bar with its position open. -/
def breakoutExit : Option ExitSignal :=
  match orchestrator.currentSide with
  | none => none
  | some side => orchestrator.intradayBreakout.evaluateExit bar.dt bar.close side

/-- What becomes of a breakout exit: the end-of-day one is put off in overnight mode. -/
def emitBreakoutExit (exit : ExitSignal) : HybridOrchestrator × List Action :=
  if exit.reason = .breakoutEodExit ∧ orchestrator.config.breakoutEodMode = .overnight then
    ({ orchestrator with overnightExitArmedDate := some bar.dt.date },
      [.armOvernightExit .intradayBreakout .breakoutEodExit bar.dt.date
        orchestrator.config.breakoutOvernightExitTime])
  else (orchestrator, [.submitExit .intradayBreakout exit.reason])

/-- The end of `on_bar_with_mr_override`, where an entry may be decided. -/
def decideEntry : HybridOrchestrator × List Action :=
  if bar.hasOpenPosition || bar.hasLiveOrders || orchestrator.state = .pending then
    (orchestrator, [])
  else
    match mrEntrySignal.or (orchestrator.intradayBreakout.evaluateEntry bar.dt bar.close) with
    | some signal => orchestrator.emitEntryAction signal
    | none => (orchestrator, [])

variable (mrExitReason : Option ReasonCode)

/-- The decision of `on_bar_with_mr_override`, once the breakout engine has seen the bar. -/
def decideAction : HybridOrchestrator × List Action :=
  if bar.hasOpenPosition ∧ orchestrator.currentOwner = some .intradayBreakout ∧
      orchestrator.config.breakoutEodMode = .overnight ∧
      orchestrator.shouldTriggerOvernightExit bar.dt then
    ({ orchestrator with overnightExitArmedDate := none },
      [.submitExit .intradayBreakout .waitfixOvernightExit])
  else if bar.hasOpenPosition ∧ orchestrator.currentOwner = some .meanReversion then
    match mrExitReason with
    | none => (orchestrator, [])
    | some reason => (orchestrator, [.submitExit .meanReversion reason])
  else if bar.hasOpenPosition ∧ orchestrator.currentOwner = some .intradayBreakout then
    match orchestrator.breakoutExit bar with
    | some exit => orchestrator.emitBreakoutExit bar exit
    | none => orchestrator.decideEntry bar mrEntrySignal
  else orchestrator.decideEntry bar mrEntrySignal

def onBarWithMrOverride : HybridOrchestrator × List Action :=
  (orchestrator.warmBar bar).decideAction bar mrEntrySignal mrExitReason

def onBar (orchestrator : HybridOrchestrator) (bar : BarInput) : HybridOrchestrator × List Action :=
  let mrExitReason :=
    if bar.hasOpenPosition && orchestrator.currentOwner = some .meanReversion &&
        orchestrator.meanReversion.shouldForceExit bar.dt then
      some ReasonCode.meanRevTimeCutoff
    else none
  let mrEntrySignal :=
    orchestrator.meanReversion.evaluateEntry bar.dt bar.close bar.closePrev bar.dayRangePrev
  orchestrator.onBarWithMrOverride bar mrEntrySignal mrExitReason

def onOrderFilled (role : OrderRole) (owner : Owner) (side : Option Side) : HybridOrchestrator :=
  match role with
  | .entry =>
    let intradayBreakout :=
      match owner, side with
      | .intradayBreakout, some entrySide => orchestrator.intradayBreakout.markEntry entrySide
      | _, _ => orchestrator.intradayBreakout
    { orchestrator with
      state := .opened
      currentOwner := some owner
      currentSide := side
      pendingEntry := none
      intradayBreakout := intradayBreakout }
  | .exit => orchestrator.reset

def onOrderRejected (role : OrderRole) : HybridOrchestrator :=
  match role with
  | .entry =>
    { orchestrator with state := .flat, currentOwner := none, currentSide := none, pendingEntry := none }
  | .exit => orchestrator

end HybridOrchestrator

end AlorRs.HybridIntraday
