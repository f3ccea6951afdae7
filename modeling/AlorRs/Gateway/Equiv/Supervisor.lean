import AlorRs.Gateway.Supervisor
import AlorRs.Lib.History

/-!
# Correctness of the supervisor's phase

When the gateway becomes ready, its bars and subscriptions are those of the latest `Subscribed`,
unless the bar comes while symbols, counters or the check itself are out of date
(`Reached.liveReady_fresh`).
-/

namespace AlorRs.Gateway

open History

/-! ### What a log says of the latest subscriptions -/

def sinceAfter (since : List SupervisorEvent) : SupervisorEvent → List SupervisorEvent
  | .subscribed => []
  | event => since ++ [event]

variable (log : List SupervisorEvent)

def sinceSubscribed : List SupervisorEvent := log.foldl sinceAfter []

def SupervisorEvent.acknowledged? : SupervisorEvent → Option String
  | .acknowledged subscriptionType => some subscriptionType
  | _ => none

/-- The types of the subscriptions that were acknowledged since the latest `Subscribed`. -/
def acknowledgedTypes : List String :=
  (sinceSubscribed log).filterMap SupervisorEvent.acknowledged?

def subscriptionTypes (config : SupervisorConfig) : List String :=
  (subscriptions config.hub).map Prod.snd

/-- The gateway becomes ready only if since the latest `Subscribed` every symbol has had a live bar
and every subscription was acknowledged, and if the command websocket is authorized. -/
def SupervisorEvent.Fresh (config : SupervisorConfig) (before : List SupervisorEvent) :
    SupervisorEvent → Prop
  | .phase .liveReady cwsAuthorized =>
    SupervisorEvent.subscribed ∈ before ∧
      (∀ symbol ∈ config.hub.symbols, SupervisorEvent.liveBar symbol ∈ sinceSubscribed before) ∧
      acknowledgedTypes before = subscriptionTypes config ∧ cwsAuthorized = true
  | _ => True

theorem sinceSubscribed_concat (event : SupervisorEvent) :
    sinceSubscribed (log ++ [event]) = sinceAfter (sinceSubscribed log) event :=
  List.foldl_concat ..

/-! ### What the supervisor knows of the subscriptions -/

/-- What the supervisor knows: the generation, whether and which subscriptions were acknowledged
and counted since the latest `Subscribed`, and the counters. -/
structure View where
  generation : ℕ
  subscribed : Bool
  acknowledged : List String
  counted : Bool
  desired : ℕ
  active : ℕ

namespace View

def handleCurrent (view : View) : WsEvent → View
  | .subscribed _ _ _ => { view with subscribed := true, acknowledged := [], counted := false }
  | .subscriptionAck subscriptionType _ =>
    { view with acknowledged := view.acknowledged ++ [subscriptionType] }
  | .subscriptionStats desired active _ _ =>
    { view with counted := true, desired := desired, active := active }
  | .raw _ _ | .conn _ _ | .wsRx _ _ => view

def handle (view : View) (event : WsEvent) : View :=
  match event with
  | .conn .reconnecting generation => { view with generation := generation }
  | _ => if event.generation ≠ view.generation then view else view.handleCurrent event

/-- Counters that are up to date count no more than was acknowledged, of the subscriptions of
`subscribe_all`. -/
def Good (config : SupervisorConfig) (view : View) : Prop :=
  view.counted = true → view.subscribed = true ∧ view.active ≤ view.acknowledged.length ∧
    view.acknowledged <+: subscriptionTypes config

/-- The views that the events of the queue lead to are good, and the last is the given one. -/
def Upcoming (config : SupervisorConfig) : View → List WsEvent → View → Prop
  | view, [], final => view.Good config ∧ view = final
  | view, event :: events, final => view.Good config ∧ Upcoming config (view.handle event) events final

variable {config : SupervisorConfig} {view final final' : View} {events events' : List WsEvent}

theorem Upcoming.good (h : Upcoming config view events final) : view.Good config := by
  cases events with
  | nil | cons => exact h.1

theorem Upcoming.append (h : Upcoming config view events final)
    (h' : Upcoming config final events' final') : Upcoming config view (events ++ events') final' := by
  induction events generalizing view with
  | nil =>
    obtain ⟨-, rfl⟩ := h
    exact h'
  | cons event events ih => exact ⟨h.1, ih h.2⟩

end View

/-! ### The hub -/

/-- What the hub has told when it is at a stage: the subscriptions that it has not got to yet are
those that are not acknowledged. -/
def StageTold (config : SupervisorConfig) (manager : SubscriptionManager) (view : View) :
    HubStage → Prop
  | .subscribing item rest guid _ =>
    view.subscribed = true ∧
      view.acknowledged ++ (item :: rest).map Prod.snd = subscriptionTypes config ∧
      manager.activeCount ≤ view.acknowledged.length ∧
      ∀ guid', guid = some guid' →
        manager.desiredSubscriptions.lookup guid' = some ⟨guid', item.1, item.2, false⟩
  | .running | .waiting | .connecting | .ended => True

structure Told (config : SupervisorConfig) (hub : Hub) (view : View) : Prop where
  generation : view.generation = hub.generation
  good : view.Good config
  stage : StageTold config hub.manager view hub.stage

section Told

variable {config : SupervisorConfig} {hub hub' : Hub} {view : View} {plan : BackfillPlan}
  {commands commands' : List HubCommand} {events : List WsEvent} {generation : ℕ}

theorem View.handle_subscribed (h : generation = view.generation) (ts : ℤ) (origin : DataOrigin) :
    view.handle (.subscribed ts origin generation) =
      { view with subscribed := true, acknowledged := [], counted := false } := by
  simp [View.handle, View.handleCurrent, WsEvent.generation, h]

theorem View.handle_subscriptionAck (h : generation = view.generation) (subscriptionType : String) :
    view.handle (.subscriptionAck subscriptionType generation) =
      { view with acknowledged := view.acknowledged ++ [subscriptionType] } := by
  simp [View.handle, View.handleCurrent, WsEvent.generation, h]

theorem View.handle_stats (h : hub.generation = view.generation) :
    view.handle hub.stats = { view with
        counted := true, desired := hub.manager.desiredCount, active := hub.manager.activeCount } := by
  simp [View.handle, View.handleCurrent, WsEvent.generation, Hub.stats, h]

theorem View.handle_raw (value : Json) (generation : ℕ) :
    view.handle (.raw value generation) = view := by
  simp [View.handle, View.handleCurrent]

theorem View.handle_wsRx (ts : ℤ) (generation : ℕ) : view.handle (.wsRx ts generation) = view := by
  simp [View.handle, View.handleCurrent]

theorem View.handle_conn {event : ConnEvent} (h : event ≠ .reconnecting) (generation : ℕ) :
    view.handle (.conn event generation) = view := by
  cases event with
  | reconnecting => exact absurd rfl h
  | connected | disconnected => simp [View.handle, View.handleCurrent]

theorem View.upcoming_same {event : WsEvent} (hgood : view.Good config)
    (hevent : view.handle event = view) : View.Upcoming config view [event] view := by
  refine ⟨hgood, ?_⟩
  rw [hevent]
  exact ⟨hgood, rfl⟩

theorem stageTold_subscribingTo {manager : SubscriptionManager} {items : List (String × String)}
    (hsubscribed : view.subscribed = true)
    (hitems : view.acknowledged ++ items.map Prod.snd = subscriptionTypes config)
    (hactive : manager.activeCount ≤ view.acknowledged.length) :
    StageTold config manager view (Hub.subscribingTo items) := by
  cases items with
  | nil => exact trivial
  | cons item rest => exact ⟨hsubscribed, hitems, hactive, fun _ heq => by cases heq⟩

theorem told_beginSubscribing (plan : BackfillPlan) (nowTs : ℤ) (h : Told config hub view) :
    ∃ view', View.Upcoming config view (hub.beginSubscribing config.hub plan nowTs).2 view' ∧
      Told config (hub.beginSubscribing config.hub plan nowTs).1 view' := by
  have hfresh : View.Good config ⟨view.generation, true, [], true, 0, 0⟩ :=
    fun _ => ⟨rfl, le_refl _, List.nil_prefix⟩
  refine ⟨⟨view.generation, true, [], true, 0, 0⟩, ⟨h.good, ?_⟩, h.generation, hfresh, ?_⟩
  · rw [View.handle_subscribed h.generation.symm]
    refine ⟨fun hcounted => absurd hcounted Bool.false_ne_true, ?_⟩
    rw [View.handle_stats]
    · exact ⟨hfresh, rfl⟩
    · exact h.generation.symm
  · exact stageTold_subscribingTo rfl rfl (le_refl _)

theorem told_disconnect (h : Told config hub view) :
    View.Upcoming config view hub.disconnect.2 view ∧ Told config hub.disconnect.1 view :=
  ⟨View.upcoming_same h.good (View.handle_conn ConnEvent.noConfusion _), h.generation, h.good, trivial⟩

theorem told_stats (view : View) (h : hub.generation = view.generation) (hgood : view.Good config)
    (hsubscribed : view.subscribed = true)
    (hstart : view.acknowledged <+: subscriptionTypes config)
    (hactive : hub.manager.activeCount ≤ view.acknowledged.length) :
    ∃ view', View.Upcoming config view [hub.stats] view' ∧ view'.Good config ∧
      view'.generation = view.generation ∧ view'.subscribed = true ∧
      view'.acknowledged = view.acknowledged := by
  have hcounted : View.Good config { view with
      counted := true, desired := hub.manager.desiredCount, active := hub.manager.activeCount } :=
    fun _ => ⟨hsubscribed, hactive, hstart⟩
  refine ⟨_, ⟨hgood, ?_⟩, hcounted, rfl, hsubscribed, rfl⟩
  rw [View.handle_stats h]
  exact ⟨hcounted, rfl⟩

variable {item : String × String} {rest : List (String × String)}

/-- A subscription that is added counts as desired, not as active. -/
theorem told_subscribe {attempt : ℕ} (guid : String) (h : Told config hub view)
    (hstage : hub.stage = .subscribing item rest none attempt) (hhub : hub' = { hub with
      stage := .subscribing item rest (some guid) attempt
      manager := hub.manager.addSubscription ⟨guid, item.1, item.2, false⟩ }) :
    ∃ view', View.Upcoming config view [hub'.stats] view' ∧ Told config hub' view' := by
  subst hhub
  have htold := h.stage
  rw [hstage] at htold
  obtain ⟨hsubscribed, hitems, hactive, -⟩ := htold
  obtain ⟨view', hupcoming, hgood, hsame, hsubscribed', hacknowledged⟩ := told_stats view
    (show ({ hub with stage := .subscribing item rest (some guid) attempt, manager :=
      hub.manager.addSubscription ⟨guid, item.1, item.2, false⟩ } : Hub).generation = _
        from h.generation.symm) h.good hsubscribed ⟨_, hitems⟩ hactive
  refine ⟨view', hupcoming, hsame.trans h.generation, hgood, hsubscribed', ?_, ?_, ?_⟩
  · rw [hacknowledged, hitems]
  · rw [hacknowledged]
    exact hactive
  · intro guid' heq
    rw [← Option.some.inj heq]
    exact AList.lookup_insert _

/-- A subscription that is acknowledged counts as active. -/
theorem told_acked {guid : String} {attempt : ℕ} (h : Told config hub view)
    (hstage : hub.stage = .subscribing item rest (some guid) attempt) :
    ∃ manager, hub.manager.activateSubscription guid =
        (some ⟨guid, item.1, item.2, true⟩, manager) ∧
      ∀ hub' : Hub, hub' = { hub with stage := Hub.subscribingTo rest, manager := manager } →
        ∃ view', View.Upcoming config view [.subscriptionAck item.2 hub.generation, hub'.stats] view' ∧
          Told config hub' view' := by
  have htold := h.stage
  rw [hstage] at htold
  obtain ⟨hsubscribed, hitems, hactive, hguid⟩ := htold
  refine ⟨_, by rw [SubscriptionManager.activateSubscription, hguid guid rfl], fun hub' hhub => ?_⟩
  -- the acknowledged types and the rest are still all of them
  have hitems' : view.acknowledged ++ [item.2] ++ rest.map Prod.snd = subscriptionTypes config := by
    rw [List.append_assoc]
    exact hitems
  have hacked : View.Good config { view with acknowledged := view.acknowledged ++ [item.2] } := by
    intro hcounted
    obtain ⟨-, hle, -⟩ := h.good hcounted
    refine ⟨hsubscribed, ?_, rest.map Prod.snd, hitems'⟩
    rw [List.length_append]
    exact Nat.le_add_right_of_le hle
  -- at most one subscription more is active
  have hcount : hub'.manager.activeCount ≤ (view.acknowledged ++ [item.2]).length := by
    have hlength : hub'.manager.activeCount ≤ hub.manager.activeCount + 1 := by
      rw [hhub]
      show (AList.insert guid _ hub.manager.activeSubscriptions).entries.length ≤ _
      rw [AList.entries_insert, List.length_cons]
      exact Nat.succ_le_succ (List.kerase_sublist _ _).length_le
    rw [List.length_append, List.length_singleton]
    omega
  have hgeneration : hub'.generation = view.generation := by rw [hhub, h.generation]
  -- the statistics after the ack agree with the view
  obtain ⟨view', hupcoming, hgood, hsame, hsubscribed', hacknowledged⟩ :=
    told_stats { view with acknowledged := view.acknowledged ++ [item.2] } hgeneration hacked
      hsubscribed ⟨_, hitems'⟩ hcount
  refine ⟨view', ⟨h.good, ?_⟩, hsame.trans hgeneration.symm, hgood, ?_⟩
  · rw [View.handle_subscriptionAck h.generation.symm]
    exact hupcoming
  · subst hhub
    refine stageTold_subscribingTo hsubscribed' ?_ ?_
    · rw [hacknowledged, hitems']
    · rw [hacknowledged]
      exact hcount

/-- Whatever the hub does next, it tells. -/
theorem told_step {step : HubStep} (h : Told config hub view)
    (hstep : hub.step config.hub plan commands step = some (hub', events, commands')) :
    ∃ view', View.Upcoming config view events view' ∧ Told config hub' view' := by
  cases step with
  | reconnect =>
    simp only [Hub.step] at hstep
    split at hstep
    · obtain ⟨rfl, rfl, -⟩ := Option.some.inj hstep
      refine ⟨{ view with generation := hub.generation + 1 }, ⟨h.good, h.good, rfl⟩, rfl, h.good, ?_⟩
      exact trivial
    · cases hstep
  | connect nowTs =>
    simp only [Hub.step] at hstep
    split at hstep
    · obtain ⟨rfl, rfl, -⟩ := Option.some.inj hstep
      obtain ⟨view', hupcoming, htold⟩ := told_beginSubscribing plan nowTs h
      have hconnected := View.upcoming_same h.good
        (View.handle_conn (show ConnEvent.connected ≠ .reconnecting from ConnEvent.noConfusion)
          hub.generation)
      exact ⟨view', hconnected.append hupcoming, htold⟩
    · cases hstep
  | subscribe guid =>
    simp only [Hub.step] at hstep
    split at hstep
    · rename_i item rest attempt hstage
      obtain ⟨heq, rfl, -⟩ := Option.some.inj hstep
      exact told_subscribe guid h hstage rfl
    · cases hstep
  | acked =>
    simp only [Hub.step] at hstep
    split at hstep
    · rename_i item rest guid attempt hstage
      obtain ⟨manager, hactivate, htold⟩ := told_acked h hstage
      rw [hactivate] at hstep
      obtain ⟨rfl, rfl, -⟩ := Option.some.inj hstep
      exact htold _ rfl
    · cases hstep
  | ackFailed =>
    simp only [Hub.step] at hstep
    split at hstep
    · rename_i item rest guid attempt hstage
      split at hstep
      · obtain ⟨rfl, rfl, -⟩ := Option.some.inj hstep
        exact ⟨view, told_disconnect h⟩
      -- a subscription that is tried again awaits no guid
      · obtain ⟨rfl, rfl, -⟩ := Option.some.inj hstep
        refine ⟨view, ⟨h.good, rfl⟩, h.generation, h.good, ?_⟩
        have htold := h.stage
        rw [hstage] at htold
        exact ⟨htold.1, htold.2.1, htold.2.2.1, fun _ heq => by cases heq⟩
    -- a message is no news of the subscriptions
    · cases hstep
  | raw value =>
    simp only [Hub.step] at hstep
    split at hstep <;> cases hstep <;>
      exact ⟨view, View.upcoming_same h.good (View.handle_raw _ _), h⟩
  | rx nowTs =>
    simp only [Hub.step] at hstep
    split at hstep <;> cases hstep <;>
      exact ⟨view, View.upcoming_same h.good (View.handle_wsRx _ _), h⟩
  | command nowTs =>
    simp only [Hub.step] at hstep
    split at hstep <;> cases hstep
    · exact told_beginSubscribing plan nowTs h
    · exact ⟨view, told_disconnect h⟩
    · exact ⟨view, ⟨h.good, rfl⟩, h.generation, h.good, trivial⟩
  | fail =>
    simp only [Hub.step] at hstep
    split at hstep <;> cases hstep <;> exact ⟨view, told_disconnect h⟩
  | close =>
    simp only [Hub.step] at hstep
    split at hstep <;> cases hstep
    exact ⟨view, ⟨h.good, rfl⟩, h.generation, h.good, trivial⟩

end Told

namespace Supervisor

variable {config : SupervisorConfig} {supervisor supervisor' : Supervisor}

/-! ### The view of the supervisor -/

def view (supervisor : Supervisor) : View where
  generation := supervisor.currentGeneration
  subscribed := decide (SupervisorEvent.subscribed ∈ supervisor.log)
  acknowledged := acknowledgedTypes supervisor.log
  counted := decide (SupervisorEvent.counted ∈ sinceSubscribed supervisor.log)
  desired := supervisor.desiredSubscriptionsCount
  active := supervisor.activeSubscriptionsCount

end Supervisor

def SupervisorEvent.Quiet : SupervisorEvent → Prop
  | .liveBar _ | .phase _ _ => True
  | .subscribed | .acknowledged _ | .counted => False

variable {event : SupervisorEvent}

theorem sinceSubscribed_quiet {log : List SupervisorEvent} (h : event.Quiet) :
    sinceSubscribed (log ++ [event]) = sinceSubscribed log ++ [event] := by
  rw [sinceSubscribed_concat]
  cases event with
  | subscribed => exact h.elim
  | _ => rfl

namespace Supervisor

variable {config : SupervisorConfig} {supervisor supervisor' : Supervisor}

theorem view_record (h : event.Quiet) : (supervisor.record event).view = supervisor.view := by
  have hsubscribed : SupervisorEvent.subscribed ≠ event := by
    rintro rfl
    exact h
  have hcounted : SupervisorEvent.counted ≠ event := by
    rintro rfl
    exact h
  have hacknowledged : event.acknowledged? = none := by
    cases event with
    | acknowledged subscriptionType => exact h.elim
    | _ => rfl
  simp only [view, record, acknowledgedTypes, sinceSubscribed_quiet h, List.mem_append,
    List.mem_singleton, hsubscribed, hcounted, or_false, List.filterMap_append,
    List.filterMap_cons, hacknowledged, List.filterMap_nil, List.append_nil]

theorem view_transitionPhase (next : GatewayPhase) :
    (supervisor.transitionPhase next).view = supervisor.view := by
  unfold transitionPhase
  split
  · rfl
  · exact view_record trivial

theorem view_record_subscribed :
    (supervisor.record .subscribed).view =
      { supervisor.view with subscribed := true, acknowledged := [], counted := false } := by
  simp [view, record, acknowledgedTypes, sinceSubscribed_concat, sinceAfter]

theorem view_record_acknowledged (subscriptionType : String) :
    (supervisor.record (.acknowledged subscriptionType)).view = { supervisor.view with
        acknowledged := supervisor.view.acknowledged ++ [subscriptionType] } := by
  simp [view, record, acknowledgedTypes, sinceSubscribed_concat, sinceAfter,
    SupervisorEvent.acknowledged?]

theorem view_record_counted :
    (supervisor.record .counted).view = { supervisor.view with counted := true } := by
  simp [view, record, acknowledgedTypes, sinceSubscribed_concat, sinceAfter,
    SupervisorEvent.acknowledged?]

variable (now : ℤ)

theorem handleCurrent_view (event : WsEvent) :
    (supervisor.handleCurrent config now event).view = supervisor.view.handleCurrent event := by
  cases event with
  | raw value generation =>
    simp only [handleCurrent]
    split <;> rfl
  | conn event generation =>
    cases event with
    | connected => rfl
    | disconnected => rfl
    | reconnecting =>
      simp only [handleCurrent]
      split
      · exact view_transitionPhase _
      · rfl
  | subscribed ts origin generation =>
    cases origin with
    | history | historyGap => exact (view_transitionPhase _).trans view_record_subscribed
    | live =>
      show (supervisor.record .subscribed).view = _
      rw [view_record_subscribed]
      rfl
  | subscriptionAck subscriptionType generation =>
    show (supervisor.record (.acknowledged subscriptionType)).view = _
    rw [view_record_acknowledged]
    rfl
  | subscriptionStats desired active pendingAcks generation =>
    show { (supervisor.record .counted).view with desired := desired, active := active } = _
    rw [view_record_counted]
    rfl
  | wsRx ts generation => rfl

/-- The supervisor learns what the view says. -/
theorem handleWsEvent_view (event : WsEvent) :
    (supervisor.handleWsEvent config now event).view = supervisor.view.handle event := by
  have hcurrent : (if event.generation ≠ supervisor.currentGeneration then supervisor
      else supervisor.handleCurrent config now event).view =
      if event.generation ≠ supervisor.view.generation then supervisor.view
      else supervisor.view.handleCurrent event := by
    by_cases h : event.generation ≠ supervisor.currentGeneration
    · rw [if_pos h]
      exact (if_pos h).symm
    · rw [if_neg h, handleCurrent_view]
      exact (if_neg h).symm
  cases event with
  | conn event generation =>
    cases event with
    | connected | disconnected => exact hcurrent
    | reconnecting => exact handleCurrent_view now _
  | _ => exact hcurrent

/-! ### Steps that do not make the gateway ready -/

/-- The log goes on as it should, and the hub and the symbols that are live stay the same. -/
structure Extends (config : SupervisorConfig) (supervisor supervisor' : Supervisor) : Prop where
  hub : supervisor'.hub = supervisor.hub
  wsEvents : supervisor'.wsEvents = supervisor.wsEvents
  liveSymbols : supervisor'.liveSymbols = supervisor.liveSymbols
  fresh : EachAfter (SupervisorEvent.Fresh config) supervisor.log →
    EachAfter (SupervisorEvent.Fresh config) supervisor'.log

theorem Extends.refl : Extends config supervisor supervisor := ⟨rfl, rfl, rfl, id⟩

theorem Extends.trans {supervisor'' : Supervisor} (h : Extends config supervisor supervisor')
    (h' : Extends config supervisor' supervisor'') : Extends config supervisor supervisor'' :=
  ⟨h'.hub.trans h.hub, h'.wsEvents.trans h.wsEvents, h'.liveSymbols.trans h.liveSymbols,
    fun hlog => h'.fresh (h.fresh hlog)⟩

def core (supervisor : Supervisor) : Hub × List WsEvent × List String × List SupervisorEvent :=
  (supervisor.hub, supervisor.wsEvents, supervisor.liveSymbols, supervisor.log)

theorem Extends.congr {s s' : Supervisor} (h : Extends config supervisor supervisor')
    (hbefore : s.core = supervisor.core) (hafter : s'.core = supervisor'.core) :
    Extends config s s' := by
  obtain ⟨hhub, hevents, hsymbols, hfresh⟩ := h
  simp only [core, Prod.mk.injEq] at hbefore hafter
  constructor <;> simp_all

theorem extends_record (h : event.Fresh config supervisor.log) :
    Extends config supervisor (supervisor.record event) :=
  ⟨rfl, rfl, rfl, fun hlog => eachAfter_concat.mpr ⟨hlog, h⟩⟩

theorem extends_transitionPhase {next : GatewayPhase} (h : next ≠ .liveReady) :
    Extends config supervisor (supervisor.transitionPhase next) := by
  have hfresh : SupervisorEvent.Fresh config supervisor.log
      (.phase next supervisor.cwsAuthorized) := by
    cases next with
    | liveReady => exact absurd rfl h
    | _ => exact trivial
  unfold transitionPhase
  split
  · exact Extends.refl
  · exact ⟨rfl, rfl, rfl, fun hlog => eachAfter_concat.mpr ⟨hlog, hfresh⟩⟩

theorem handleCurrent_extends (event : WsEvent) :
    Extends config supervisor (supervisor.handleCurrent config now event) := by
  cases event with
  | raw value generation =>
    simp only [handleCurrent]
    split
    · exact Extends.refl.congr rfl rfl
    · exact Extends.refl
  | conn event generation =>
    cases event with
    | connected | disconnected => exact Extends.refl.congr rfl rfl
    | reconnecting =>
      simp only [handleCurrent]
      split
      · have h : Extends config { supervisor with wsConnected := false }
            (transitionPhase { supervisor with wsConnected := false } .reconnecting) :=
          extends_transitionPhase GatewayPhase.noConfusion
        exact h.congr rfl rfl
      · exact Extends.refl.congr rfl rfl
  | subscribed ts origin generation =>
    have h : Extends config supervisor (supervisor.record .subscribed) := extends_record trivial
    have hphase (next : GatewayPhase) (hnext : next ≠ .liveReady) :=
      h.trans (extends_transitionPhase hnext)
    cases origin with
    | history => exact (hphase .syncingHistory GatewayPhase.noConfusion).congr rfl rfl
    | historyGap => exact (hphase .syncingGap GatewayPhase.noConfusion).congr rfl rfl
    | live => exact h.congr rfl rfl
  | subscriptionAck subscriptionType generation =>
    have h : Extends config supervisor (supervisor.record (.acknowledged subscriptionType)) :=
      extends_record trivial
    exact h.congr rfl rfl
  | subscriptionStats desired active pendingAcks generation =>
    have h : Extends config supervisor (supervisor.record .counted) := extends_record trivial
    exact h.congr rfl rfl
  | wsRx ts generation => exact Extends.refl

theorem handleWsEvent_extends (event : WsEvent) :
    Extends config supervisor (supervisor.handleWsEvent config now event) := by
  unfold handleWsEvent
  split
  · rename_i generation
    have h : Extends config { supervisor with currentGeneration := generation }
        (handleCurrent config now { supervisor with currentGeneration := generation }
          (.conn .reconnecting generation)) := handleCurrent_extends now _
    exact h.congr rfl rfl
  · split
    · exact Extends.refl
    · exact handleCurrent_extends now event

theorem foldl_deliver (config : SupervisorConfig) (supervisor : Supervisor)
    (outputs : List RouterOutput) :
    Extends config supervisor (outputs.foldl deliver supervisor) ∧
      (outputs.foldl deliver supervisor).view = supervisor.view := by
  induction outputs generalizing supervisor with
  | nil => exact ⟨Extends.refl, rfl⟩
  | cons output outputs ih =>
    have hdeliver : Extends config supervisor (supervisor.deliver output) ∧
        (supervisor.deliver output).view = supervisor.view := by
      cases output <;> exact ⟨⟨rfl, rfl, rfl, id⟩, rfl⟩
    obtain ⟨hextends, hview⟩ := ih (supervisor.deliver output)
    exact ⟨hdeliver.1.trans hextends, hview.trans hdeliver.2⟩

/-! ### Runs -/

/-- What holds in every run: the queue leads from what the supervisor knows to what the hub has
told, and the gateway was ready only when that was fresh. -/
structure Followed (config : SupervisorConfig) (supervisor : Supervisor) : Prop where
  told : ∃ final, View.Upcoming config supervisor.view supervisor.wsEvents final ∧
    Told config supervisor.hub final
  nodup : supervisor.liveSymbols.Nodup
  fresh : EachAfter (SupervisorEvent.Fresh config) supervisor.log

theorem Followed.extends (h : Followed config supervisor) (hextends : Extends config supervisor supervisor')
    (hview : supervisor'.view = supervisor.view) : Followed config supervisor' := by
  obtain ⟨final, hupcoming, htold⟩ := h.told
  refine ⟨⟨final, ?_, ?_⟩, ?_, hextends.fresh h.fresh⟩
  · rw [hview, hextends.wsEvents]
    exact hupcoming
  · rw [hextends.hub]
    exact htold
  · rw [hextends.liveSymbols]
    exact h.nodup

theorem followed_start : Followed config (start config) := by
  have hgood : (start config).view.Good config := fun h => absurd h Bool.false_ne_true
  exact ⟨⟨(start config).view, ⟨hgood, rfl⟩, rfl, hgood, trivial⟩, List.nodup_nil, eachAfter_nil⟩

theorem Followed.hub {step : HubStep} {hub : Hub} {events : List WsEvent}
    {commands : List HubCommand} (h : Followed config supervisor)
    (hstep : supervisor.hub.step config.hub supervisor.backfillPlan supervisor.hubCommands step =
      some (hub, events, commands)) :
    Followed config { supervisor with
      hub := hub, wsEvents := supervisor.wsEvents ++ events, hubCommands := commands } := by
  obtain ⟨final, hupcoming, htold⟩ := h.told
  obtain ⟨final', hupcoming', htold'⟩ := told_step htold hstep
  exact ⟨⟨final', hupcoming.append hupcoming', htold'⟩, h.nodup, h.fresh⟩

theorem Followed.wsEvent {event : WsEvent} {wsEvents : List WsEvent}
    (h : Followed config supervisor) (hevents : supervisor.wsEvents = event :: wsEvents) :
    Followed config ({ supervisor with wsEvents := wsEvents }.handleWsEvent config now event) := by
  obtain ⟨final, hupcoming, htold⟩ := h.told
  rw [hevents] at hupcoming
  have hextends : Extends config { supervisor with wsEvents := wsEvents }
      ({ supervisor with wsEvents := wsEvents }.handleWsEvent config now event) :=
    handleWsEvent_extends now event
  refine ⟨⟨final, ?_, ?_⟩, ?_, hextends.fresh h.fresh⟩
  · rw [handleWsEvent_view, hextends.wsEvents]
    exact hupcoming.2
  · rw [hextends.hub]
    exact htold
  · rw [hextends.liveSymbols]
    exact h.nodup

theorem Followed.checkBar {bar : BarEvent} (h : Followed config supervisor) :
    Followed config (supervisor.checkBar config bar) := by
  have hlive : Followed config
      (if bar.origin = .live then
        { supervisor.record (.liveBar bar.symbol) with
          liveSymbols := supervisor.liveSymbols.insert bar.symbol }
      else supervisor) := by
    split
    · obtain ⟨final, hupcoming, htold⟩ := h.told
      refine ⟨⟨final, ?_, htold⟩, h.nodup.insert, eachAfter_concat.mpr ⟨h.fresh, trivial⟩⟩
      have hview : (supervisor.record (.liveBar bar.symbol)).view = supervisor.view :=
        view_record trivial
      exact hview ▸ hupcoming
    · exact h
  unfold Supervisor.checkBar
  dsimp only
  generalize (if bar.origin = .live then
    { supervisor.record (.liveBar bar.symbol) with
      liveSymbols := supervisor.liveSymbols.insert bar.symbol }
  else supervisor) = marked at hlive ⊢
  split <;> exact hlive.extends ⟨rfl, rfl, rfl, id⟩ rfl

theorem Followed.silence (h : Followed config supervisor) :
    Followed config (supervisor.resubscribe config now) := by
  have hphase (next : GatewayPhase) (hnext : next ≠ .liveReady) (planned : Supervisor)
      (hplanned : Followed config planned) : Followed config
        { planned.transitionPhase next with
          resyncInProgress := true
          hubCommands := (planned.transitionPhase next).hubCommands ++ [.resubscribe] } := by
    have hextends : Extends config planned (planned.transitionPhase next) :=
      extends_transitionPhase hnext
    exact hplanned.extends (hextends.congr rfl rfl) (view_transitionPhase next)
  refine hphase _ ?_ { supervisor with
    backfillPlan := computeBackfillPlan config now supervisor.lastEmittedBarTs }
    (h.extends ⟨rfl, rfl, rfl, id⟩ rfl)
  split <;> exact GatewayPhase.noConfusion

/-! ### When the gateway becomes ready -/

/-- The gateway becomes ready after a bar although what was decided before is no longer so, or
what is counted is out of date: a symbol counts as live that is not configured or that has had its
live bars before the latest `Subscribed`, or the counters are older than that, or they were told
between two subscriptions of `subscribe_all`. -/
def Hasty (config : SupervisorConfig) (supervisor : Supervisor) : Step → Prop
  | .finishBar now sent =>
    ∃ check, supervisor.checking = some check ∧ check.liveReady = true ∧
      (supervisor.emitChecked config now sent check).1 = true ∧ supervisor.phase ≠ .liveReady ∧
      (supervisor.liveReady config = false ∨
        (∃ symbol ∈ supervisor.liveSymbols, symbol ∉ config.hub.symbols ∨
          SupervisorEvent.liveBar symbol ∉ sinceSubscribed supervisor.log) ∨
        SupervisorEvent.counted ∉ sinceSubscribed supervisor.log ∨
        supervisor.desiredSubscriptionsCount ≠ (subscriptions config.hub).length)
  | _ => False

theorem Followed.ready (h : Followed config supervisor)
    (hready : supervisor.liveReady config = true)
    (hsymbols : ∀ symbol ∈ supervisor.liveSymbols, symbol ∈ config.hub.symbols ∧
      SupervisorEvent.liveBar symbol ∈ sinceSubscribed supervisor.log)
    (hcounted : SupervisorEvent.counted ∈ sinceSubscribed supervisor.log)
    (hdesired : supervisor.desiredSubscriptionsCount = (subscriptions config.hub).length) :
    SupervisorEvent.Fresh config supervisor.log (.phase .liveReady supervisor.cwsAuthorized) := by
  simp only [liveReady, Bool.and_eq_true, decide_eq_true_eq] at hready
  obtain ⟨⟨⟨⟨⟨hlive, -⟩, -⟩, -⟩, hactive⟩, hauthorized⟩ := hready
  obtain ⟨final, hupcoming, -⟩ := h.told
  obtain ⟨hsubscribed, hcount, hstart⟩ := hupcoming.good (decide_eq_true hcounted)
  refine ⟨of_decide_eq_true hsubscribed, fun symbol hsymbol => ?_, ?_, hauthorized⟩
  · -- as many different symbols are live as are configured, and they are all configured
    have hsubset : supervisor.liveSymbols ⊆ config.hub.symbols :=
      fun symbol hsymbol => (hsymbols symbol hsymbol).1
    have hperm := (h.nodup.subperm hsubset).perm_of_length_le hlive
    exact (hsymbols symbol (hperm.mem_iff.mpr hsymbol)).2
  · have hlength : (subscriptionTypes config).length ≤ (acknowledgedTypes supervisor.log).length := by
      rw [subscriptionTypes, List.length_map, ← hdesired]
      exact hactive.trans hcount
    exact hstart.eq_of_length_le hlength

theorem Followed.becomeLiveReady (sent : Bool) (h : Followed config supervisor)
    (hfresh : supervisor.phase ≠ .liveReady →
      SupervisorEvent.Fresh config supervisor.log (.phase .liveReady supervisor.cwsAuthorized)) :
    Followed config (supervisor.becomeLiveReady sent) := by
  have hphase (flushed : Supervisor) (hflushed : Followed config flushed)
      (hphase : flushed.phase ≠ .liveReady)
      (hready : SupervisorEvent.Fresh config flushed.log (.phase .liveReady flushed.cwsAuthorized)) :
      Followed config (flushed.transitionPhase .liveReady) := by
    refine hflushed.extends ?_ (view_transitionPhase _)
    rw [transitionPhase, if_neg hphase]
    exact ⟨rfl, rfl, rfl, fun hlog => eachAfter_concat.mpr ⟨hlog, hready⟩⟩
  unfold Supervisor.becomeLiveReady
  split
  · rename_i hgap
    have hne : supervisor.phase ≠ .liveReady := by
      rw [hgap]
      exact GatewayPhase.noConfusion
    exact hphase _ (h.extends ⟨rfl, rfl, rfl, id⟩ rfl) hne (hfresh hne)
  · split
    · rename_i hne
      exact hphase _ (h.extends ⟨rfl, rfl, rfl, id⟩ rfl) hne (hfresh hne)
    · exact h

theorem Followed.finishBar {now : ℤ} {sent : Bool} {check : BarCheck}
    (h : Followed config supervisor) (hchecking : supervisor.checking = some check)
    (hallowed : ¬ Hasty config supervisor (.finishBar now sent)) :
    Followed config (supervisor.finishBar config now sent check) := by
  unfold Supervisor.finishBar
  dsimp only
  split
  · rename_i hboth
    obtain ⟨hemitted, hready⟩ := Bool.and_eq_true_iff.mp hboth
    refine Followed.becomeLiveReady sent (h.extends ⟨rfl, rfl, rfl, id⟩ rfl) fun hphase => ?_
    have hup : ¬ (supervisor.liveReady config = false ∨
        (∃ symbol ∈ supervisor.liveSymbols, symbol ∉ config.hub.symbols ∨
          SupervisorEvent.liveBar symbol ∉ sinceSubscribed supervisor.log) ∨
        SupervisorEvent.counted ∉ sinceSubscribed supervisor.log ∨
        supervisor.desiredSubscriptionsCount ≠ (subscriptions config.hub).length) :=
      fun hout => hallowed ⟨check, hchecking, hready, hemitted, hphase, hout⟩
    push Not at hup
    obtain ⟨hstill, hsymbols, hcounted, hdesired⟩ := hup
    exact h.ready (Bool.eq_true_of_not_eq_false hstill) hsymbols hcounted hdesired
  · exact h.extends ⟨rfl, rfl, rfl, id⟩ rfl

theorem Followed.step {text : RouterText} {step : Step} (h : Followed config supervisor)
    (hallowed : ¬ Hasty config supervisor step)
    (hstep : supervisor.step text config step = some supervisor') : Followed config supervisor' := by
  cases step with
  | hub step =>
    obtain ⟨⟨hub, events, commands⟩, hhub, rfl⟩ := Option.map_eq_some_iff.mp hstep
    exact h.hub hhub
  | wsEvent now =>
    simp only [Supervisor.step] at hstep
    split at hstep
    · cases hstep
    · rename_i event wsEvents hevents
      cases hstep
      exact h.wsEvent now hevents
  | routerCommand | managePosition | manageOrder | manageStopOrder =>
    simp only [Supervisor.step] at hstep
    split at hstep
    · cases hstep
    · cases hstep
      exact h.extends ⟨rfl, rfl, rfl, id⟩ rfl
  | routeRaw now =>
    simp only [Supervisor.step, Supervisor.routeRaw] at hstep
    split at hstep
    · cases hstep
    · rename_i value raw hraw
      cases hstep
      -- the router moves before its outputs are delivered
      have hrouted : Followed config { supervisor with
          raw := raw, router := (route text now supervisor.router value).1 } :=
        h.extends ⟨rfl, rfl, rfl, id⟩ rfl
      obtain ⟨hextends, hview⟩ := foldl_deliver config { supervisor with
          raw := raw, router := (route text now supervisor.router value).1 }
        (route text now supervisor.router value).2
      exact hrouted.extends hextends hview
  | checkBar =>
    simp only [Supervisor.step] at hstep
    split at hstep
    · cases hstep
      refine Followed.checkBar ?_
      exact h.extends ⟨rfl, rfl, rfl, id⟩ rfl
    · cases hstep
  | finishBar now sent =>
    obtain ⟨check, hchecking, rfl⟩ := Option.map_eq_some_iff.mp hstep
    exact h.finishBar hchecking hallowed
  | silence now =>
    simp only [Supervisor.step] at hstep
    split at hstep
    · cases hstep
      exact h.silence now
    · cases hstep
  | shutdown | authorize =>
    cases hstep
    exact h.extends ⟨rfl, rfl, rfl, id⟩ rfl

theorem Reached.foldlM {text : RouterText} {allowed : Supervisor → Step → Prop} {steps : List Step}
    (h : Reached text config allowed supervisor)
    (hallowed : ∀ supervisor, ∀ step ∈ steps, allowed supervisor step)
    (hrun : steps.foldlM (Supervisor.step text config) supervisor = some supervisor') :
    Reached text config allowed supervisor' := by
  induction steps generalizing supervisor with
  | nil =>
    cases hrun
    exact h
  | cons step steps ih =>
    obtain ⟨middle, hmiddle, hrest⟩ := Option.bind_eq_some_iff.mp hrun
    exact ih (h.step step (hallowed _ _ List.mem_cons_self) hmiddle)
      (fun supervisor step hmem => hallowed supervisor step (List.mem_cons_of_mem _ hmem)) hrest

def oneSymbol : SupervisorConfig := ⟨⟨["IMOEXF"], "D1", false, 3⟩, 60, 5, true, 300, 2⟩

def numericText : RouterText := ⟨id, fun _ => "", fun _ => none, fun _ => none⟩

def barMessage (time : Fin (2 ^ 64)) : Json :=
  .object [("data", .object [("symbol", .string "IMOEXF"), ("time", .number (.posInt time))])]

/-- The gateway connects and is subscribed to everything, and two bars come in, of which the first
is live and is looked at. -/
def firstConnection : List Step :=
  [.hub .reconnect, .hub (.connect 1000)] ++
    ["1", "2", "3", "4", "5"].flatMap (fun guid => [.hub (.subscribe guid), .hub .acked]) ++
    [.hub (.raw (barMessage 900)), .hub (.raw (barMessage 960))] ++
    List.replicate 21 (.wsEvent 1000) ++
    [.authorize true, .routerCommand, .routeRaw 1000, .routeRaw 1000, .checkBar]

/-- The gateway is ready, the connection breaks, and the next one is subscribed to bars only when a
bar of the history comes in. -/
def secondConnection : List Step :=
  [.finishBar 1000 true, .hub .fail, .hub .reconnect, .hub (.connect 2000), .hub (.subscribe "6"),
    .hub (.raw (barMessage 1080)), .hub .acked] ++
    List.replicate 9 (.wsEvent 2000) ++
    [.routerCommand, .routeRaw 2000, .checkBar, .finishBar 2000 true]

end Supervisor

end AlorRs.Gateway
