import AlorRs.Gateway.Equiv.Router
import AlorRs.Gateway.Equiv.Steps

/-!
# The sessions of the hub

A session goes from the attempt to connect to the return of `connect_and_run`.  An error ends it
with a `Disconnected` and lets the next generation begin; a close frame, or the end of the stream,
in the main loop ends the hub for good and says nothing (`sessionsTold_iff`).
-/

namespace AlorRs.Gateway

open Reaction

def WsEvent.tell (told : ℕ × Bool) : WsEvent → ℕ × Bool
  | .conn .reconnecting generation => (generation, false)
  | .conn .connected generation => if generation = told.1 then (told.1, true) else told
  | .conn .disconnected generation => if generation = told.1 then (told.1, false) else told
  | _ => told

namespace Hub

/-! ### The end of a session -/

def inSession (hub : Hub) : Bool :=
  match hub.stage with
  | .connecting | .subscribing _ _ _ _ | .running => true
  | .waiting | .ended => false

def isConnected (hub : Hub) : Bool :=
  match hub.stage with
  | .subscribing _ _ _ _ | .running => true
  | .waiting | .connecting | .ended => false

/-- A session that ended was told as lost, and the hub can only begin the next generation. -/
def EndTold (config : HubConfig) (hub hub' : Hub) (events : List WsEvent) : Prop :=
  events = [.conn .disconnected hub.generation] ∧ ∀ plan commands,
    (∃ next, hub'.step config plan commands .reconnect =
        some (next, [.conn .reconnecting (hub.generation + 1)], commands) ∧
      next.generation = hub.generation + 1) ∧
    ∀ step, step ≠ .reconnect → hub'.step config plan commands step = none

variable {config : HubConfig} {hub hub' : Hub} {plan : BackfillPlan}
  {commands commands' : List HubCommand} {events : List WsEvent} {step : HubStep}

theorem endTold_disconnect (config : HubConfig) (hub : Hub) :
    EndTold config hub hub.disconnect.1 hub.disconnect.2 := by
  refine ⟨rfl, fun plan commands => ⟨⟨_, rfl, rfl⟩, fun step hne => ?_⟩⟩
  cases step with
  | reconnect => exact absurd rfl hne
  | command nowTs => cases commands <;> rfl
  | _ => rfl

theorem inSession_of_isConnected (h : hub.isConnected = true) : hub.inSession = true := by
  unfold isConnected at h
  unfold inSession
  split at h
  · rename_i hstage
    rw [hstage]
  · rename_i hstage
    rw [hstage]
  all_goals cases h

theorem isConnected_of_stage {items : List (String × String)} (h : hub.stage = subscribingTo items) :
    hub.isConnected = true := by
  unfold isConnected
  rw [h]
  cases items with
  | nil => rfl
  | cons item rest => rfl

/-- The events of a step tell of the connection as it is then, and of a session that ends. -/
structure StepTold (config : HubConfig) (hub hub' : Hub) (events : List WsEvent)
    (commands' : List HubCommand) : Prop where
  connection : events.foldl WsEvent.tell (hub.generation, hub.isConnected) =
    (hub'.generation, hub'.isConnected)
  sessionEnd : hub.inSession = true → hub'.inSession = false → EndTold config hub hub' events
  shutdown : .shutdown ∉ commands'

theorem StepTold.goesOn (hgeneration : hub'.generation = hub.generation)
    (hbefore : hub.isConnected = true) (hafter : hub'.isConnected = true)
    (hquiet : ∀ event ∈ events, ∀ told, WsEvent.tell told event = told)
    (hcommands : .shutdown ∉ commands') : StepTold config hub hub' events commands' where
  connection := by
    have hfold : ∀ told, events.foldl WsEvent.tell told = told := by
      intro told
      induction events with
      | nil => rfl
      | cons event events ih =>
        rw [List.foldl_cons, hquiet event List.mem_cons_self]
        exact ih fun event hmem => hquiet event (List.mem_cons_of_mem _ hmem)
    rw [hfold, hgeneration, hbefore, hafter]
  sessionEnd := by
    intro _ hend
    rw [inSession_of_isConnected hafter] at hend
    cases hend
  shutdown := hcommands

theorem StepTold.disconnects (hcommands : .shutdown ∉ commands') :
    StepTold config hub hub.disconnect.1 hub.disconnect.2 commands' where
  connection := by
    show (if hub.generation = hub.generation then (hub.generation, false) else _) = _
    rw [if_pos rfl]
    rfl
  sessionEnd := fun _ _ => endTold_disconnect config hub
  shutdown := hcommands

theorem not_mem_of_cons {command : HubCommand} (h : .shutdown ∉ command :: commands) :
    .shutdown ∉ commands :=
  fun hmem => h (List.mem_cons_of_mem _ hmem)

/-- Every step but a close tells, as long as nobody asked for the shutdown. -/
theorem stepTold (hstep : hub.step config plan commands step = some (hub', events, commands'))
    (hclose : step ≠ .close) (hshutdown : .shutdown ∉ commands) :
    StepTold config hub hub' events commands' := by
  cases step with
  | reconnect =>
    simp only [Hub.step] at hstep
    split at hstep
    · rename_i hstage
      obtain ⟨rfl, rfl, rfl⟩ := Option.some.inj hstep
      refine ⟨rfl, fun hin => ?_, hshutdown⟩
      rw [inSession, hstage] at hin
      cases hin
    · cases hstep
  | connect nowTs =>
    simp only [Hub.step] at hstep
    split at hstep
    · obtain ⟨rfl, rfl, rfl⟩ := Option.some.inj hstep
      -- a connection is told, so the session is known to be up
      have hafter : (beginSubscribing config plan nowTs hub).1.isConnected = true :=
        isConnected_of_stage rfl
      refine ⟨?_, fun _ hend => ?_, hshutdown⟩
      · rw [hafter]
        show (if hub.generation = hub.generation then (hub.generation, true) else _) = _
        rw [if_pos rfl]
        rfl
      · rw [inSession_of_isConnected hafter] at hend
        cases hend
    · cases hstep
  | subscribe guid =>
    simp only [Hub.step] at hstep
    split at hstep
    · rename_i item rest attempt hstage
      obtain ⟨rfl, rfl, rfl⟩ := Option.some.inj hstep
      refine .goesOn rfl (by rw [isConnected, hstage]) rfl (fun event hmem told => ?_) hshutdown
      rw [List.mem_singleton.mp hmem]
      rfl
    · cases hstep
  | acked =>
    simp only [Hub.step] at hstep
    split at hstep
    · rename_i item rest guid attempt hstage
      -- an ack and its statistics tell nothing of the connection
      have hbefore : hub.isConnected = true := by rw [isConnected, hstage]
      split at hstep
      · obtain ⟨rfl, rfl, rfl⟩ := Option.some.inj hstep
        refine .goesOn rfl hbefore (isConnected_of_stage rfl) (fun event hmem told => ?_) hshutdown
        rcases List.mem_cons.mp hmem with rfl | hmem
        · rfl
        · rw [List.mem_singleton.mp hmem]
          rfl
      · obtain ⟨rfl, rfl, rfl⟩ := Option.some.inj hstep
        exact .goesOn rfl hbefore (isConnected_of_stage rfl) (fun event hmem => by cases hmem)
          hshutdown
    · cases hstep
  | ackFailed =>
    simp only [Hub.step] at hstep
    split at hstep
    · rename_i item rest guid attempt hstage
      have hbefore : hub.isConnected = true := by rw [isConnected, hstage]
      split at hstep
      · obtain ⟨rfl, rfl, rfl⟩ := Option.some.inj hstep
        exact .disconnects hshutdown
      · obtain ⟨rfl, rfl, rfl⟩ := Option.some.inj hstep
        exact .goesOn rfl hbefore rfl (fun event hmem => by cases hmem) hshutdown
    · cases hstep
  | raw | rx =>
    simp only [Hub.step] at hstep
    split at hstep
    · rename_i hstage
      cases hstep
      have hbefore : hub.isConnected = true := by rw [isConnected, hstage]
      refine .goesOn rfl hbefore hbefore (fun event hmem told => ?_) hshutdown
      rw [List.mem_singleton.mp hmem]
      rfl
    · rename_i hstage
      cases hstep
      have hbefore : hub.isConnected = true := by rw [isConnected, hstage]
      refine .goesOn rfl hbefore hbefore (fun event hmem told => ?_) hshutdown
      rw [List.mem_singleton.mp hmem]
      rfl
    · cases hstep
  | command nowTs =>
    simp only [Hub.step] at hstep
    split at hstep
    · rename_i hstage
      obtain ⟨rfl, rfl, rfl⟩ := Option.some.inj hstep
      refine .goesOn rfl (by rw [isConnected, hstage]) (isConnected_of_stage rfl)
        (fun event hmem told => ?_) (not_mem_of_cons hshutdown)
      rcases List.mem_cons.mp hmem with rfl | hmem
      · rfl
      · rw [List.mem_singleton.mp hmem]
        rfl
    · obtain ⟨rfl, rfl, rfl⟩ := Option.some.inj hstep
      exact .disconnects (not_mem_of_cons hshutdown)
    · exact absurd List.mem_cons_self hshutdown
    · cases hstep
  | fail =>
    simp only [Hub.step] at hstep
    split at hstep
    · obtain ⟨rfl, rfl, rfl⟩ := Option.some.inj hstep
      exact .disconnects hshutdown
    · obtain ⟨rfl, rfl, rfl⟩ := Option.some.inj hstep
      exact .disconnects hshutdown
    · obtain ⟨rfl, rfl, rfl⟩ := Option.some.inj hstep
      exact .disconnects hshutdown
    · cases hstep
  | close => exact absurd rfl hclose

end Hub

namespace Supervisor

/-! ### What the supervisor knows of the session -/

variable {text : RouterText} {config : SupervisorConfig} {supervisor supervisor' : Supervisor}

def session (supervisor : Supervisor) : Hub × List HubCommand × ℕ × Bool :=
  (supervisor.hub, supervisor.hubCommands, supervisor.currentGeneration, supervisor.wsConnected)

theorem session_transitionPhase (supervisor : Supervisor) (next : GatewayPhase) :
    (supervisor.transitionPhase next).session = supervisor.session ∧
      (supervisor.transitionPhase next).wsEvents = supervisor.wsEvents := by
  unfold transitionPhase
  split_ifs <;> exact ⟨rfl, rfl⟩

/-- The branch for an event of the current generation takes what it tells of the connection. -/
theorem session_handleCurrent (supervisor : Supervisor) (now : ℤ) (event : WsEvent)
    (hgeneration : event.generation = supervisor.currentGeneration) :
    (supervisor.handleCurrent config now event).session = (supervisor.hub, supervisor.hubCommands,
          event.tell (supervisor.currentGeneration, supervisor.wsConnected)) ∧
      (supervisor.handleCurrent config now event).wsEvents = supervisor.wsEvents := by
  cases event with
  | raw value generation =>
    unfold handleCurrent
    split_ifs <;> exact ⟨rfl, rfl⟩
  | conn event generation =>
    have hcurrent : generation = supervisor.currentGeneration := hgeneration
    cases event with
    | connected =>
      refine ⟨?_, rfl⟩
      show (supervisor.hub, supervisor.hubCommands, supervisor.currentGeneration, true) = _
      rw [WsEvent.tell, if_pos hcurrent]
    | disconnected =>
      refine ⟨?_, rfl⟩
      show (supervisor.hub, supervisor.hubCommands, supervisor.currentGeneration, false) = _
      rw [WsEvent.tell, if_pos hcurrent]
    | reconnecting =>
      unfold handleCurrent
      dsimp only
      rw [WsEvent.tell, hcurrent]
      split_ifs
      · obtain ⟨hsession, hevents⟩ :=
          session_transitionPhase { supervisor with wsConnected := false } .reconnecting
        exact ⟨hsession, hevents⟩
      · exact ⟨rfl, rfl⟩
  | subscribed wallclockTs historyOrigin generation =>
    cases historyOrigin with
    | historyGap =>
      obtain ⟨hsession, hevents⟩ :=
        session_transitionPhase (supervisor.record .subscribed) .syncingGap
      exact ⟨hsession, hevents⟩
    | history =>
      obtain ⟨hsession, hevents⟩ :=
        session_transitionPhase (supervisor.record .subscribed) .syncingHistory
      exact ⟨hsession, hevents⟩
    | live => exact ⟨rfl, rfl⟩
  | subscriptionAck | subscriptionStats | wsRx => exact ⟨rfl, rfl⟩

theorem tell_of_generation_ne {event : WsEvent} {told : ℕ × Bool}
    (hnew : ∀ generation, event ≠ .conn .reconnecting generation)
    (hne : event.generation ≠ told.1) : event.tell told = told := by
  cases event with
  | conn event generation =>
    cases event with
    | connected | disconnected => exact if_neg hne
    | reconnecting => exact absurd rfl (hnew generation)
  | _ => rfl

theorem session_handleWsEvent (supervisor : Supervisor) (now : ℤ) (event : WsEvent) :
    (supervisor.handleWsEvent config now event).session = (supervisor.hub, supervisor.hubCommands,
          event.tell (supervisor.currentGeneration, supervisor.wsConnected)) ∧
      (supervisor.handleWsEvent config now event).wsEvents = supervisor.wsEvents := by
  by_cases hnew : ∃ generation, event = .conn .reconnecting generation
  · obtain ⟨generation, rfl⟩ := hnew
    exact session_handleCurrent { supervisor with currentGeneration := generation } now _ rfl
  · push Not at hnew
    have hhandled : supervisor.handleWsEvent config now event =
        if event.generation ≠ supervisor.currentGeneration then supervisor
        else supervisor.handleCurrent config now event := by
      unfold handleWsEvent
      split
      · rename_i generation
        exact absurd rfl (hnew generation)
      · rfl
    rw [hhandled]
    split_ifs with hne
    · rw [tell_of_generation_ne hnew hne]
      exact ⟨rfl, rfl⟩
    · exact session_handleCurrent supervisor now event (not_not.mp hne)

/-! ### Runs without a shutdown -/

/-- What is still to be handled leads to what the hub does, and nobody asked for the shutdown. -/
structure Tracked (supervisor : Supervisor) : Prop where
  told : supervisor.wsEvents.foldl WsEvent.tell
      (supervisor.currentGeneration, supervisor.wsConnected) =
    (supervisor.hub.generation, supervisor.hub.isConnected)
  shutdown : .shutdown ∉ supervisor.hubCommands

theorem Tracked.congr (h : Tracked supervisor) (hsession : supervisor'.session = supervisor.session)
    (hevents : supervisor'.wsEvents = supervisor.wsEvents) : Tracked supervisor' := by
  simp only [session, Prod.mk.injEq] at hsession
  obtain ⟨hhub, hcommands, hgeneration, hconnected⟩ := hsession
  refine ⟨?_, ?_⟩
  · rw [hevents, hgeneration, hconnected, hhub]
    exact h.told
  · rw [hcommands]
    exact h.shutdown

theorem tracked_start (config : SupervisorConfig) : Tracked (start config) := ⟨rfl, List.not_mem_nil⟩

theorem Tracked.hub {hub : Hub} {events : List WsEvent}
    {commands : List HubCommand} (h : Tracked supervisor)
    (htold : Hub.StepTold config.hub supervisor.hub hub events commands) :
    Tracked { supervisor with
      hub := hub, wsEvents := supervisor.wsEvents ++ events, hubCommands := commands } := by
  refine ⟨?_, htold.shutdown⟩
  show (supervisor.wsEvents ++ events).foldl WsEvent.tell
    (supervisor.currentGeneration, supervisor.wsConnected) = _
  rw [List.foldl_append, h.told]
  exact htold.connection

theorem Tracked.deliver (h : Tracked supervisor) (outputs : List RouterOutput) :
    Tracked (outputs.foldl deliver supervisor) := by
  induction outputs generalizing supervisor with
  | nil => exact h
  | cons output outputs ih =>
    refine ih ?_
    cases output with
    | authError code =>
      refine ⟨h.told, fun hmem => ?_⟩
      rcases List.mem_append.mp hmem with hmem | hmem
      · exact h.shutdown hmem
      · cases List.mem_singleton.mp hmem
    | _ => exact h.congr rfl rfl

theorem Tracked.becomeLiveReady (sent : Bool) (h : Tracked supervisor) :
    Tracked (supervisor.becomeLiveReady sent) := by
  unfold Supervisor.becomeLiveReady
  split_ifs
  · obtain ⟨hsession, hevents⟩ := session_transitionPhase
      { supervisor with
        lastEmittedBarTs :=
          flushPendingLive sent supervisor.pendingLiveUpdates supervisor.lastEmittedBarTs
        pendingLiveUpdates := ∅
        resyncInProgress := false } .liveReady
    exact h.congr hsession hevents
  · obtain ⟨hsession, hevents⟩ :=
      session_transitionPhase { supervisor with resyncInProgress := false } .liveReady
    exact h.congr hsession hevents
  · exact h

theorem Tracked.checkBar {bar : BarEvent} (h : Tracked supervisor) :
    Tracked (supervisor.checkBar config bar) := by
  unfold Supervisor.checkBar
  dsimp only
  split_ifs
  all_goals exact h.congr rfl rfl

theorem Tracked.finishBar {now : ℤ} {sent : Bool} {check : BarCheck} (h : Tracked supervisor) :
    Tracked (supervisor.finishBar config now sent check) := by
  unfold Supervisor.finishBar
  dsimp only
  split_ifs
  · refine Tracked.becomeLiveReady sent ?_
    exact h.congr rfl rfl
  · exact h.congr rfl rfl

theorem Tracked.resubscribe (now : ℤ) (h : Tracked supervisor) :
    Tracked (supervisor.resubscribe config now) := by
  have hplanned (phase : GatewayPhase) := h.congr (session_transitionPhase
    { supervisor with backfillPlan := computeBackfillPlan config now supervisor.lastEmittedBarTs }
    phase).1 (session_transitionPhase _ phase).2
  unfold Supervisor.resubscribe
  refine ⟨(hplanned _).told, fun hmem => ?_⟩
  rcases List.mem_append.mp hmem with hmem | hmem
  · exact (hplanned _).shutdown hmem
  · cases List.mem_singleton.mp hmem

theorem Tracked.step {step : Step} (h : Tracked supervisor) (hshutdown : step ≠ .shutdown)
    (hclose : step ≠ .hub .close) (hstep : Stepped text config supervisor step supervisor') :
    Tracked supervisor' := by
  cases hstep with
  | @hub step hub events commands hhub =>
    have hne : step ≠ .close := by
      rintro rfl
      exact hclose rfl
    exact h.hub (Hub.stepTold hhub hne h.shutdown)
  | @wsEvent now event wsEvents hevents =>
    -- an event that is handled moves from the channel into what is known
    have hhandled : (({ supervisor with wsEvents := wsEvents } : Supervisor).handleWsEvent config now
        event).session = _ ∧ _ := session_handleWsEvent { supervisor with wsEvents := wsEvents } now event
    obtain ⟨hsession, hrest⟩ := hhandled
    simp only [session, Prod.mk.injEq] at hsession
    obtain ⟨hhub, hcommands, htold⟩ := hsession
    have hall := h.told
    rw [hevents, List.foldl_cons] at hall
    refine ⟨?_, ?_⟩
    · rw [hrest, htold, hhub]
      exact hall
    · rw [hcommands]
      exact h.shutdown
  | routerCommand hcommands => exact h.congr rfl rfl
  | routeRaw hraw =>
    refine Tracked.deliver ?_ _
    exact h.congr rfl rfl
  | managePosition | manageOrder | manageStopOrder => exact h.congr rfl rfl
  | checkBar hchecking hbars =>
    refine Tracked.checkBar ?_
    exact h.congr rfl rfl
  | finishBar hchecking => exact h.finishBar
  | silence hphase => exact h.resubscribe _
  | shutdown => exact absurd rfl hshutdown
  | authorize => exact h.congr rfl rfl

/-! ### The sessions of a run -/

/-- A step that ends a session tells so, and once all that was told is handled, the connection is
only taken for up while a session is under way. -/
structure SessionsTold (config : SupervisorConfig) (supervisor : Supervisor) (step : Step) :
    Prop where
  sessionEnd : ∀ {hubStep : HubStep} {hub : Hub} {events : List WsEvent}
    {commands : List HubCommand}, step = .hub hubStep →
    supervisor.hub.step config.hub supervisor.backfillPlan supervisor.hubCommands hubStep =
      some (hub, events, commands) →
    supervisor.hub.inSession = true → hub.inSession = false →
      Hub.EndTold config.hub supervisor.hub hub events
  connected : supervisor.wsEvents = [] → supervisor.wsConnected = true →
    supervisor.hub.inSession = true

/-- The main loop of a session gets a close frame, or its stream ends. -/
def ClosesRunning (supervisor : Supervisor) (step : Step) : Prop :=
  step = .hub .close ∧ supervisor.hub.stage = .running

theorem Tracked.sessionsTold {step : Step} (h : Tracked supervisor)
    (hclose : ¬ClosesRunning supervisor step) : SessionsTold config supervisor step where
  sessionEnd := by
    rintro hubStep hub events commands rfl hstep hin hend
    by_cases hne : hubStep = .close
    · subst hne
      simp only [Hub.step] at hstep
      split at hstep
      · rename_i hstage
        exact absurd ⟨rfl, hstage⟩ hclose
      · cases hstep
    · exact (Hub.stepTold hstep hne h.shutdown).sessionEnd hin hend
  connected := by
    intro hevents hconnected
    have htold := h.told
    rw [hevents, List.foldl_nil, Prod.mk.injEq] at htold
    exact Hub.inSession_of_isConnected (htold.2.symm.trans hconnected)

/-- A close that ends a session tells nothing. -/
theorem not_sessionsTold {step : Step} (hclose : ClosesRunning supervisor step) :
    ¬SessionsTold config supervisor step := by
  obtain ⟨rfl, hstage⟩ := hclose
  intro h
  have hstep : supervisor.hub.step config.hub supervisor.backfillPlan supervisor.hubCommands .close =
      some ({ supervisor.hub with stage := .ended }, [], supervisor.hubCommands) := by
    simp only [Hub.step]
    rw [hstage]
  have hin : supervisor.hub.inSession = true := by rw [Hub.inSession, hstage]
  obtain ⟨hevents, -⟩ := h.sessionEnd rfl hstep hin rfl
  cases hevents

/-- In a run without a shutdown, the ends of the sessions are told exactly when none of them is
ended by a close frame or the end of its stream. -/
theorem sessionsTold_iff (text : RouterText) (config : SupervisorConfig) (steps : List Step)
    (hshutdown : .shutdown ∉ steps) :
    Always (act text config) (SessionsTold config) (start config) steps ↔
      Always (act text config) (fun supervisor step => ¬ClosesRunning supervisor step)
        (start config) steps := by
  constructor
  · exact fun h => h.mono fun supervisor step htold hclose => not_sessionsTold hclose htold
  -- the invariant carries the induction over the steps
  · suffices hall : ∀ supervisor, Tracked supervisor →
        Always (act text config) (fun supervisor step => ¬ClosesRunning supervisor step)
          supervisor steps →
        Always (act text config) (SessionsTold config) supervisor steps from
      hall _ (tracked_start config)
    intro supervisor htracked hopen
    induction steps generalizing supervisor with
    | nil => exact trivial
    | cons step steps ih =>
      obtain ⟨hclose, hopen⟩ := hopen
      refine ⟨htracked.sessionsTold hclose, ih ?_ _ ?_ hopen⟩
      · exact fun hmem => hshutdown (List.mem_cons_of_mem _ hmem)
      · have hne : step ≠ .shutdown := by
          rintro rfl
          exact hshutdown List.mem_cons_self
        rcases act_cases text config supervisor step with hsame | hstepped
        · rw [hsame]
          exact htracked
        · by_cases hclosing : step = .hub .close
          · subst hclosing
            -- a close outside the main loop cannot be taken
            have hnone : supervisor.step text config (.hub .close) = none := by
              have hclosed : supervisor.hub.step config.hub supervisor.backfillPlan
                  supervisor.hubCommands .close = none := by
                simp only [Hub.step]
                split
                · rename_i hstage
                  exact absurd ⟨rfl, hstage⟩ hclose
                · rfl
              simp only [Supervisor.step]
              rw [hclosed]
              rfl
            rw [act, hnone]
            exact htracked
          · exact htracked.step hne hclosing hstepped

/-! ### A session that fails, and one that is closed -/

/-- No symbols: the portfolio's subscriptions alone. -/
def portfolioOnly : SupervisorConfig := ⟨⟨[], "D1", true, 3⟩, 60, 5, true, 300, 2⟩

def connecting : List Step :=
  [.hub .reconnect, .hub (.connect 0)] ++
    ["1", "2", "3", "4"].flatMap fun guid => [.hub (.subscribe guid), .hub .acked]

/-- A receive error is told, and the next session begins. -/
theorem sessionsTold_receiveError :
    Always (act plainText portfolioOnly) (SessionsTold portfolioOnly) (start portfolioOnly)
      (connecting ++ [.hub .fail, .hub .reconnect]) := by
  refine (sessionsTold_iff plainText portfolioOnly _ (by simp [connecting])).mpr ?_
  simp [connecting, Always, ClosesRunning]

/-- A close frame is not told. -/
theorem closeFrame_not_told :
    ¬∀ (text : RouterText) (config : SupervisorConfig) (steps : List Step), .shutdown ∉ steps →
      Always (act text config) (SessionsTold config) (start config) steps := by
  intro h
  have htold := always_append.mp
    (h plainText portfolioOnly (connecting ++ [.hub .close]) (by simp [connecting]))
  refine not_sessionsTold ⟨rfl, ?_⟩ htold.2.1
  rfl

end Supervisor

end AlorRs.Gateway
