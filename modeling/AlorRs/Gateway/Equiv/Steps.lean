import AlorRs.Gateway.Supervisor
import AlorRs.Lib.Reaction

/-!
# What a step of the supervisor does

`Stepped` lists the steps with what each of them needs and changes (`stepped_of_step`), and `act`
makes a run of a list of steps, of which those that cannot be taken change nothing.
-/

namespace AlorRs.Gateway

open Reaction

namespace Supervisor

variable {text : RouterText} {config : SupervisorConfig} {supervisor supervisor' : Supervisor}

/-- A step of the supervisor; one that cannot be taken changes nothing. -/
def act (text : RouterText) (config : SupervisorConfig) (supervisor : Supervisor) (step : Step) :
    Supervisor × Unit :=
  ((supervisor.step text config step).getD supervisor, ())

/-- The steps that can be taken, with the state after each. -/
inductive Stepped (text : RouterText) (config : SupervisorConfig) (supervisor : Supervisor) :
    Step → Supervisor → Prop
  | hub {step : HubStep} {hub : Hub} {events : List WsEvent} {commands : List HubCommand} :
    supervisor.hub.step config.hub supervisor.backfillPlan supervisor.hubCommands step =
        some (hub, events, commands) →
      Stepped text config supervisor (.hub step)
        { supervisor with
          hub := hub, wsEvents := supervisor.wsEvents ++ events, hubCommands := commands }
  | wsEvent {now : ℤ} {event : WsEvent} {wsEvents : List WsEvent} :
    supervisor.wsEvents = event :: wsEvents → Stepped text config supervisor (.wsEvent now)
        ({ supervisor with wsEvents := wsEvents }.handleWsEvent config now event)
  | routerCommand {wallclockTs : ℤ} {historyOrigin : DataOrigin}
    {routerCommands : List (ℤ × DataOrigin)} :
    supervisor.routerCommands = (wallclockTs, historyOrigin) :: routerCommands →
      Stepped text config supervisor .routerCommand
        { supervisor with
          routerCommands := routerCommands
          router :=
            updateSubscribeWallclock config.tfSec wallclockTs historyOrigin supervisor.router }
  | routeRaw {now : ℤ} {value : Json} {raw : List Json} :
    supervisor.raw = value :: raw → Stepped text config supervisor (.routeRaw now)
        ((route text now supervisor.router value).2.foldl deliver
          { supervisor with raw := raw, router := (route text now supervisor.router value).1 })
  | managePosition {position : PositionEvent} {positions : List PositionEvent} :
    supervisor.positions = position :: positions → Stepped text config supervisor .managePosition
        { supervisor with positions := positions, positionsSynced := true }
  | manageOrder {order : OrderEvent} {orders : List OrderEvent} :
    supervisor.orders = order :: orders → Stepped text config supervisor .manageOrder
        { supervisor with orders := orders, ordersSynced := true }
  | manageStopOrder {stopOrder : StopOrderEvent} {stopOrders : List StopOrderEvent} :
    supervisor.stopOrders = stopOrder :: stopOrders →
      Stepped text config supervisor .manageStopOrder
        { supervisor with stopOrders := stopOrders, stopOrdersSynced := true }
  | checkBar {bar : BarEvent} {bars : List BarEvent} :
    supervisor.checking = none → supervisor.bars = bar :: bars →
      Stepped text config supervisor .checkBar
        ({ supervisor with bars := bars }.checkBar config bar)
  | finishBar {now : ℤ} {sent : Bool} {check : BarCheck} :
    supervisor.checking = some check → Stepped text config supervisor (.finishBar now sent)
        (supervisor.finishBar config now sent check)
  | silence {now : ℤ} :
    supervisor.phase = .liveReady →
      Stepped text config supervisor (.silence now) (supervisor.resubscribe config now)
  | shutdown :
    Stepped text config supervisor .shutdown
      { supervisor with hubCommands := supervisor.hubCommands ++ [.shutdown] }
  | authorize {authorized : Bool} :
    Stepped text config supervisor (.authorize authorized)
      { supervisor with cwsAuthorized := authorized }

theorem stepped_of_step {step : Step} (h : supervisor.step text config step = some supervisor') :
    Stepped text config supervisor step supervisor' := by
  -- a step that cannot be taken returns `none`, which the guard of each case rules out
  cases step with
  | hub step =>
    obtain ⟨⟨hub, events, commands⟩, hhub, rfl⟩ := Option.map_eq_some_iff.mp h
    exact .hub hhub
  | wsEvent now =>
    simp only [Supervisor.step] at h
    split at h
    · cases h
    · rename_i event wsEvents hevents
      cases h
      exact .wsEvent hevents
  | routerCommand =>
    simp only [Supervisor.step] at h
    split at h
    · cases h
    · rename_i wallclockTs historyOrigin routerCommands hcommands
      cases h
      exact .routerCommand hcommands
  | routeRaw now =>
    simp only [Supervisor.step, Supervisor.routeRaw] at h
    split at h
    · cases h
    · rename_i value raw hraw
      cases h
      exact .routeRaw hraw
  | managePosition =>
    simp only [Supervisor.step] at h
    split at h
    · cases h
    · rename_i hpositions
      cases h
      exact .managePosition hpositions
  | manageOrder =>
    simp only [Supervisor.step] at h
    split at h
    · cases h
    · rename_i horders
      cases h
      exact .manageOrder horders
  | manageStopOrder =>
    simp only [Supervisor.step] at h
    split at h
    · cases h
    · rename_i hstopOrders
      cases h
      exact .manageStopOrder hstopOrders
  | checkBar =>
    simp only [Supervisor.step] at h
    split at h
    · rename_i hchecking hbars
      cases h
      exact .checkBar hchecking hbars
    · cases h
  | finishBar now sent =>
    obtain ⟨check, hchecking, rfl⟩ := Option.map_eq_some_iff.mp h
    exact .finishBar hchecking
  | silence now =>
    simp only [Supervisor.step] at h
    split at h
    · rename_i hsilent
      cases h
      exact .silence hsilent.1
    · cases h
  | shutdown =>
    cases h
    exact .shutdown
  | authorize authorized =>
    cases h
    exact .authorize

theorem act_cases (text : RouterText) (config : SupervisorConfig) (supervisor : Supervisor)
    (step : Step) :
    (act text config supervisor step).1 = supervisor ∨
      Stepped text config supervisor step (act text config supervisor step).1 := by
  unfold act
  cases h : supervisor.step text config step with
  | none => exact .inl rfl
  | some next => exact .inr (stepped_of_step h)

/-! ### Steps that leave the bars alone -/

variable (config : SupervisorConfig) (supervisor : Supervisor)

def barsUnderway :
    RouterState × List BarEvent × Option BarCheck × (AList fun _ : String => List BarEvent) ×
      AList fun _ : String => ℤ :=
  (supervisor.router, supervisor.bars, supervisor.checking, supervisor.pendingLiveUpdates,
    supervisor.lastEmittedBarTs)

theorem barsUnderway_transitionPhase (next : GatewayPhase) :
    (supervisor.transitionPhase next).barsUnderway = supervisor.barsUnderway := by
  unfold transitionPhase
  split_ifs <;> rfl

theorem barsUnderway_handleCurrent (now : ℤ) (event : WsEvent) :
    (supervisor.handleCurrent config now event).barsUnderway = supervisor.barsUnderway := by
  cases event with
  | raw value generation =>
    unfold handleCurrent
    split_ifs <;> rfl
  | conn event generation =>
    cases event with
    | connected => rfl
    | disconnected => rfl
    | reconnecting =>
      unfold handleCurrent
      dsimp only
      split_ifs
      · exact barsUnderway_transitionPhase { supervisor with wsConnected := false } .reconnecting
      · rfl
  | subscribed wallclockTs historyOrigin generation =>
    cases historyOrigin with
    | historyGap => exact barsUnderway_transitionPhase (supervisor.record .subscribed) .syncingGap
    | history => exact barsUnderway_transitionPhase (supervisor.record .subscribed) .syncingHistory
    | live => rfl
  | subscriptionAck | subscriptionStats | wsRx => rfl

theorem barsUnderway_handleWsEvent (now : ℤ) (event : WsEvent) :
    (supervisor.handleWsEvent config now event).barsUnderway = supervisor.barsUnderway := by
  unfold handleWsEvent
  split
  · rename_i generation
    exact barsUnderway_handleCurrent config { supervisor with currentGeneration := generation } now _
  · split_ifs
    · rfl
    · exact barsUnderway_handleCurrent config supervisor now _

theorem barsUnderway_resubscribe (now : ℤ) :
    (supervisor.resubscribe config now).barsUnderway = supervisor.barsUnderway := by
  unfold resubscribe
  exact barsUnderway_transitionPhase
    { supervisor with
      backfillPlan := computeBackfillPlan config now supervisor.lastEmittedBarTs } _

end Supervisor

end AlorRs.Gateway
