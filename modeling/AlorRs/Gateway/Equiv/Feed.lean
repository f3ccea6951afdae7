import AlorRs.Gateway.Equiv.Steps

/-!
# What the broker feeds, subscription by subscription

`Feed` follows a run of the supervisor and keeps what none of its tasks knows as a whole: the
subscriptions that were announced, the messages that came after each of them, and how many
announcements the router has heeded.  `Feed.Sound` says what this has to do with the channels, and
holds in every run (`Feed.Sound.act`).
-/

namespace AlorRs.Gateway

open Reaction

/-! ### Bars and their labels -/

def updatesOf (text : RouterText) (value : Json) : List BarEvent :=
  if ((value.get "httpCode").bind Json.asI64).isSome then [] else parseBars text none .live value

variable (liveCutoffTs : Option ℤ)

def labelOf (historyOrigin : DataOrigin) (closeTimeUtc : ℤ) : DataOrigin :=
  match liveCutoffTs with
  | some cutoff => if closeTimeUtc ≤ cutoff then historyOrigin else .live
  | none => .live

def labelled (historyOrigin : DataOrigin) (bar : BarEvent) : BarEvent :=
  { bar with origin := labelOf liveCutoffTs historyOrigin bar.closeTimeUtc }

def routedBars (outputs : List RouterOutput) : List BarEvent :=
  outputs.filterMap fun
    | .bar bar => some bar
    | _ => none

section Router

variable {text : RouterText} {liveCutoffTs : Option ℤ} {historyOrigin : DataOrigin} {value : Json}
  {state : RouterState} {now : ℤ}

theorem parseBarItem_eq (data : Json) :
    parseBarItem text liveCutoffTs historyOrigin data =
      (parseBarItem text none .live data).map (labelled liveCutoffTs historyOrigin) := by
  unfold parseBarItem
  cases symbolOf data with
  | none => rfl
  | some symbol =>
    cases (data.getFirst ["time", "timestamp"]).bind (toI64 text) with
    | none | some => rfl

/-- The parser labels the bars, and does nothing else with the cutoff. -/
theorem parseBars_eq :
    parseBars text liveCutoffTs historyOrigin value =
      (parseBars text none .live value).map (labelled liveCutoffTs historyOrigin) := by
  unfold parseBars
  cases value.get "data" with
  | none => rfl
  | some data =>
    dsimp only
    cases data.asArray with
    | none =>
      rw [parseBarItem_eq, Option.toList_map]
    | some items =>
      rw [List.map_filterMap]
      exact List.filterMap_congr fun item _ => parseBarItem_eq item

theorem origin_of_mem_updatesOf {bar : BarEvent} (h : bar ∈ updatesOf text value) :
    bar.origin = .live := by
  have hitem {data : Json} (h : parseBarItem text none .live data = some bar) :
      bar.origin = .live := by
    obtain ⟨symbol, -, h⟩ := Option.bind_eq_some_iff.mp h
    obtain ⟨closeTimeUtc, -, h⟩ := Option.bind_eq_some_iff.mp h
    obtain rfl := Option.some.inj h
    rfl
  unfold updatesOf at h
  split_ifs at h
  · cases h
  · unfold parseBars at h
    cases hdata : value.get "data" with
    | none =>
      rw [hdata] at h
      cases h
    | some data =>
      rw [hdata] at h
      dsimp only at h
      cases hitems : data.asArray with
      | none =>
        rw [hitems] at h
        exact hitem (Option.mem_toList.mp h)
      | some items =>
        rw [hitems] at h
        obtain ⟨item, -, hsome⟩ := List.mem_filterMap.mp h
        exact hitem hsome

theorem routedBars_append (outputs outputs' : List RouterOutput) :
    routedBars (outputs ++ outputs') = routedBars outputs ++ routedBars outputs' :=
  List.filterMap_append

/-- The router goes through the bars of a message, with their labels. -/
theorem route_updates :
    (route text now state value).1 = (routeBars state
          ((updatesOf text value).map (labelled state.liveCutoffTs state.historyOrigin))).1 ∧
      routedBars (route text now state value).2 = routedBars (routeBars state
          ((updatesOf text value).map (labelled state.liveCutoffTs state.historyOrigin))).2 := by
  unfold route updatesOf
  cases (value.get "httpCode").bind Json.asI64 with
  | some code =>
    rw [Option.isSome_some, if_pos rfl]
    refine ⟨rfl, ?_⟩
    dsimp only
    split_ifs <;> rfl
  | none =>
    dsimp only
    rw [Option.isSome_none, if_neg Bool.false_ne_true, ← parseBars_eq]
    cases hbars : parseBars text state.liveCutoffTs state.historyOrigin value with
    | nil =>
      rw [List.isEmpty_nil, Bool.not_true, if_neg Bool.false_ne_true]
      refine ⟨rfl, ?_⟩
      -- a message without bars is classified, which routes no bar
      unfold classify
      cases parseTrade text now value with
      | some trade => rfl
      | none =>
        cases parsePosition text now value with
        | some position => rfl
        | none =>
          cases parseStopOrder text now value with
          | some stopOrder => rfl
          | none =>
            cases parseOrder text now value with
            | some | none => rfl
    | cons bar bars =>
      rw [List.isEmpty_cons, Bool.not_false, if_pos rfl]
      exact ⟨rfl, rfl⟩

end Router

/-! ### Generations -/

def generationAfter (generation : ℕ) (event : WsEvent) : Option ℕ :=
  match event with
  | .conn .reconnecting next => some next
  | _ => if event.generation = generation then some generation else none

variable {generation : ℕ} {events : List WsEvent}

theorem foldlM_generationAfter
    (h : ∀ event ∈ events, generationAfter generation event = some generation) :
    events.foldlM generationAfter generation = some generation := by
  induction events with
  | nil => rfl
  | cons event events ih =>
    rw [List.foldlM_cons, h event List.mem_cons_self]
    exact ih fun event hmem => h event (List.mem_cons_of_mem _ hmem)

/-- The events of a step of the hub belong to its generation, or begin the next one. -/
theorem generations_hub {config : HubConfig} {plan : BackfillPlan}
    {commands commands' : List HubCommand} {hub hub' : Hub} {step : HubStep}
    (h : hub.step config plan commands step = some (hub', events, commands')) :
    events.foldlM generationAfter hub.generation = some hub'.generation := by
  cases step with
  | reconnect =>
    simp only [Hub.step] at h
    split at h
    · cases h
      rfl
    · cases h
  | acked =>
    simp only [Hub.step] at h
    split at h
    · split at h
      · cases h
        exact foldlM_generationAfter (by simp [generationAfter, Hub.stats, WsEvent.generation])
      · cases h
        rfl
    · cases h
  | ackFailed =>
    simp only [Hub.step] at h
    split at h
    · split at h
      · cases h
        exact foldlM_generationAfter (by simp [generationAfter, Hub.disconnect, WsEvent.generation])
      · cases h
        rfl
    · cases h
  | _ =>
    simp only [Hub.step] at h
    split at h
    all_goals first
      | cases h
        done
      | cases h
        exact foldlM_generationAfter (by
          simp [generationAfter, Hub.beginSubscribing, Hub.disconnect, Hub.stats, WsEvent.generation])

/-! ### The feed -/

/-- A bar of a subscription comes in: the subscription of the last update of each bar in the buffer
of the router. -/
def bufferedAfter (number : ℕ) (state : RouterState) (bufferedIn : String → ℕ) (bar : BarEvent) :
    String → ℕ :=
  if (routeBar state bar).1.liveBuffers.lookup bar.symbol = some bar then
    Function.update bufferedIn bar.symbol number
  else bufferedIn

def buffering (number : ℕ) : RouterState → (String → ℕ) → List BarEvent → String → ℕ
  | _, bufferedIn, [] => bufferedIn
  | state, bufferedIn, bar :: bars =>
    buffering number (routeBar state bar).1 (bufferedAfter number state bufferedIn bar) bars

/-- A supervisor with the subscriptions that were announced to it, each with its wallclock and the
origin of its history; the messages that came in, each with the number of subscriptions announced
before it, and those of them that the router has not taken yet; how many announcements the router
has heeded; and the subscription that each bar in its buffer was updated in. -/
structure Feed where
  supervisor : Supervisor
  announced : List (ℤ × DataOrigin)
  messages : List (ℕ × Json)
  queued : List (ℕ × Json)
  heeded : ℕ
  bufferedIn : String → ℕ

namespace Feed

def start (config : SupervisorConfig) : Feed := ⟨.start config, [], [], [], 0, fun _ => 0⟩

def hear (feed : Feed) : WsEvent → Feed
  | .subscribed wallclockTs historyOrigin _ =>
    { feed with announced := feed.announced ++ [(wallclockTs, historyOrigin)] }
  | .raw value _ =>
    let message := (feed.announced.length, value)
    { feed with
      messages := feed.messages ++ [message]
      queued :=
        if feed.supervisor.raw.length < Supervisor.rawCapacity then feed.queued ++ [message]
        else feed.queued }
  | _ => feed

def follow (text : RouterText) (feed : Feed) : Supervisor.Step → Feed
  | .wsEvent _ =>
    match feed.supervisor.wsEvents with
    | [] => feed
    | event :: _ => feed.hear event
  | .routerCommand => { feed with heeded := feed.heeded + 1 }
  | .routeRaw _ =>
    match feed.queued with
    | [] => feed
    | (number, value) :: queued =>
      let router := feed.supervisor.router
      { feed with
        queued := queued
        bufferedIn := buffering number router feed.bufferedIn
          ((updatesOf text value).map (labelled router.liveCutoffTs router.historyOrigin)) }
  | _ => feed

def routed (text : RouterText) (feed : Feed) : Supervisor.Step → List BarEvent
  | .routeRaw now =>
    match feed.supervisor.raw with
    | [] => []
    | value :: _ => routedBars (route text now feed.supervisor.router value).2
  | _ => []

/-- A step with the bars that the router sends; one that cannot be taken changes nothing. -/
def act (text : RouterText) (config : SupervisorConfig) (feed : Feed) (step : Supervisor.Step) :
    Feed × List BarEvent :=
  match feed.supervisor.step text config step with
  | none => (feed, [])
  | some supervisor =>
    ({ feed.follow text step with supervisor := supervisor }, feed.routed text step)

def subscription (announced : List (ℤ × DataOrigin)) : ℕ → Option (ℤ × DataOrigin)
  | 0 => none
  | number + 1 => announced[number]?

def heed (tfSec : ℤ) : Option (ℤ × DataOrigin) → Option ℤ × DataOrigin
  | none => (none, .history)
  | some (wallclockTs, historyOrigin) => (some (wallclockTs - 2 * tfSec), historyOrigin)

/-- How the feed and the channels belong together. -/
structure Sound (config : SupervisorConfig) (feed : Feed) : Prop where
  generations : feed.supervisor.wsEvents.foldlM generationAfter feed.supervisor.currentGeneration =
    some feed.supervisor.hub.generation
  commands : feed.supervisor.routerCommands = feed.announced.drop feed.heeded
  heeded_le : feed.heeded ≤ feed.announced.length
  router : (feed.supervisor.router.liveCutoffTs, feed.supervisor.router.historyOrigin) =
    heed config.tfSec (subscription feed.announced feed.heeded)
  queued : feed.queued.map Prod.snd = feed.supervisor.raw
  queued_subset : feed.queued ⊆ feed.messages
  numbers : ∀ message ∈ feed.messages, message.1 ≤ feed.announced.length

variable {text : RouterText} {config : SupervisorConfig} {feed : Feed}

theorem subscription_append {announced : List (ℤ × DataOrigin)} {number : ℕ}
    (h : number ≤ announced.length) (new : List (ℤ × DataOrigin)) :
    subscription (announced ++ new) number = subscription announced number := by
  cases number with
  | zero => rfl
  | succ number => exact List.getElem?_append_left h

/-- A step of the feed was taken, or nothing changed. -/
theorem act_cases (text : RouterText) (config : SupervisorConfig) (feed : Feed)
    (step : Supervisor.Step) :
    feed.act text config step = (feed, []) ∨
      ∃ supervisor, Supervisor.Stepped text config feed.supervisor step supervisor ∧
        feed.act text config step =
          ({ feed.follow text step with supervisor := supervisor }, feed.routed text step) := by
  unfold act
  cases h : feed.supervisor.step text config step with
  | none => exact .inl rfl
  | some supervisor => exact .inr ⟨supervisor, Supervisor.stepped_of_step h, rfl⟩

/-! ### The channels -/

variable (supervisor : Supervisor)

/-- What the feed has to do with: the channels between the hub, the task of its events and the
router. -/
def channels : Hub × ℕ × List WsEvent × List Json × List (ℤ × DataOrigin) × RouterState :=
  (supervisor.hub, supervisor.currentGeneration, supervisor.wsEvents, supervisor.raw,
    supervisor.routerCommands, supervisor.router)

def rawAfter (raw : List Json) : WsEvent → List Json
  | .raw value _ => if raw.length < Supervisor.rawCapacity then raw ++ [value] else raw
  | _ => raw

def commandsAfter (commands : List (ℤ × DataOrigin)) : WsEvent → List (ℤ × DataOrigin)
  | .subscribed wallclockTs historyOrigin _ => commands ++ [(wallclockTs, historyOrigin)]
  | _ => commands

theorem channels_transitionPhase (next : GatewayPhase) :
    channels (supervisor.transitionPhase next) = channels supervisor := by
  unfold Supervisor.transitionPhase
  split_ifs <;> rfl

theorem channels_handleCurrent (config : SupervisorConfig) (now : ℤ) (supervisor : Supervisor)
    (event : WsEvent) :
    channels (supervisor.handleCurrent config now event) =
      (supervisor.hub, supervisor.currentGeneration, supervisor.wsEvents,
        rawAfter supervisor.raw event, commandsAfter supervisor.routerCommands event,
        supervisor.router) := by
  cases event with
  | raw value generation =>
    unfold Supervisor.handleCurrent rawAfter
    split_ifs <;> rfl
  | conn event generation =>
    cases event with
    | reconnecting =>
      unfold Supervisor.handleCurrent
      dsimp only
      split_ifs
      · exact channels_transitionPhase { supervisor with wsConnected := false } .reconnecting
      · rfl
    | _ => rfl
  | subscribed wallclockTs historyOrigin generation =>
    cases historyOrigin with
    -- only the phase changes
    | historyGap =>
      have hsame := channels_transitionPhase (supervisor.record .subscribed) .syncingGap
      simp only [channels, Prod.mk.injEq] at hsame
      obtain ⟨hhub, hgeneration, hevents, hraw, hcommands, hrouter⟩ := hsame
      simp only [channels, Supervisor.handleCurrent, hhub, hgeneration, hevents, hraw, hcommands,
        hrouter]
      rfl
    | history =>
      have hsame := channels_transitionPhase (supervisor.record .subscribed) .syncingHistory
      simp only [channels, Prod.mk.injEq] at hsame
      obtain ⟨hhub, hgeneration, hevents, hraw, hcommands, hrouter⟩ := hsame
      simp only [channels, Supervisor.handleCurrent, hhub, hgeneration, hevents, hraw, hcommands,
        hrouter]
      rfl
    | live => rfl
  | _ => rfl

variable {event : WsEvent} (now : ℤ)

theorem handleWsEvent_same {supervisor : Supervisor}
    (hevent : event.generation = supervisor.currentGeneration) :
    supervisor.handleWsEvent config now event = supervisor.handleCurrent config now event := by
  cases event with
  | conn event generation =>
    cases event with
    | reconnecting =>
      cases hevent
      rfl
    | connected | disconnected => exact if_neg (not_not.mpr hevent)
  | _ => exact if_neg (not_not.mpr hevent)

/-- An event that may come is one of the generation that it leads to. -/
theorem handleWsEvent_eq {supervisor : Supervisor}
    (h : generationAfter supervisor.currentGeneration event = some generation) :
    supervisor.handleWsEvent config now event =
      { supervisor with currentGeneration := generation }.handleCurrent config now event := by
  unfold generationAfter at h
  split at h
  · cases h
    rfl
  · split_ifs at h with hevent
    cases h
    exact handleWsEvent_same now hevent

theorem channels_deliver (outputs : List RouterOutput) :
    channels (outputs.foldl Supervisor.deliver supervisor) = channels supervisor := by
  induction outputs generalizing supervisor with
  | nil => rfl
  | cons output outputs ih =>
    rw [List.foldl_cons, ih]
    cases output with
    | _ => rfl

theorem channels_checkBar (bar : BarEvent) :
    channels (supervisor.checkBar config bar) = channels supervisor := by
  unfold Supervisor.checkBar
  dsimp only
  split_ifs
  all_goals rfl

theorem channels_finishBar (sent : Bool) (supervisor : Supervisor) (check : BarCheck) :
    channels (supervisor.finishBar config now sent check) = channels supervisor := by
  unfold Supervisor.finishBar Supervisor.becomeLiveReady
  dsimp only
  split_ifs
  · exact channels_transitionPhase _ _
  · exact channels_transitionPhase _ _
  · rfl
  · rfl

theorem channels_resubscribe :
    channels (supervisor.resubscribe config now) = channels supervisor := by
  exact channels_transitionPhase
    { supervisor with
      backfillPlan := computeBackfillPlan config now supervisor.lastEmittedBarTs } _

theorem heeded_routeBars (state : RouterState) (bars : List BarEvent) :
    (routeBars state bars).1.liveCutoffTs = state.liveCutoffTs ∧
      (routeBars state bars).1.historyOrigin = state.historyOrigin := by
  have hone (state : RouterState) (bar : BarEvent) :
      (routeBar state bar).1.liveCutoffTs = state.liveCutoffTs ∧
        (routeBar state bar).1.historyOrigin = state.historyOrigin := by
    unfold routeBar
    split
    · exact ⟨rfl, rfl⟩
    · exact ⟨rfl, rfl⟩
    · dsimp only
      split
      · exact ⟨rfl, rfl⟩
      · split_ifs
        all_goals exact ⟨rfl, rfl⟩
  induction bars generalizing state with
  | nil => exact ⟨rfl, rfl⟩
  | cons bar bars ih =>
    obtain ⟨hcutoff, horigin⟩ := ih (routeBar state bar).1
    exact ⟨hcutoff.trans (hone state bar).1, horigin.trans (hone state bar).2⟩

/-! ### The invariant -/

theorem sound_start : Sound config (start config) where
  generations := rfl
  commands := rfl
  heeded_le := Nat.le_refl 0
  router := rfl
  queued := rfl
  queued_subset := List.nil_subset []
  numbers := fun message hmem => by cases hmem

theorem Sound.of_channels {supervisor : Supervisor} (h : Sound config feed)
    (hsame : channels supervisor = channels feed.supervisor) :
    Sound config { feed with supervisor := supervisor } := by
  simp only [channels, Prod.mk.injEq] at hsame
  obtain ⟨hhub, hgeneration, hevents, hraw, hcommands, hrouter⟩ := hsame
  constructor
  · show supervisor.wsEvents.foldlM generationAfter supervisor.currentGeneration =
      some supervisor.hub.generation
    rw [hevents, hgeneration, hhub]
    exact h.generations
  · show supervisor.routerCommands = feed.announced.drop feed.heeded
    rw [hcommands]
    exact h.commands
  · exact h.heeded_le
  · show (supervisor.router.liveCutoffTs, supervisor.router.historyOrigin) = _
    rw [hrouter]
    exact h.router
  · show feed.queued.map Prod.snd = supervisor.raw
    rw [hraw]
    exact h.queued
  · exact h.queued_subset
  · exact h.numbers

variable {wsEvents : List WsEvent}

theorem channels_handleWsEvent {supervisor : Supervisor} (config : SupervisorConfig) (now : ℤ)
    (h : supervisor.wsEvents.foldlM generationAfter supervisor.currentGeneration =
      some supervisor.hub.generation) (hevents : supervisor.wsEvents = event :: wsEvents) :
    ∃ generation, wsEvents.foldlM generationAfter generation = some supervisor.hub.generation ∧
      channels ({ supervisor with wsEvents := wsEvents }.handleWsEvent config now event) =
        (supervisor.hub, generation, wsEvents,
          rawAfter supervisor.raw event, commandsAfter supervisor.routerCommands event,
          supervisor.router) := by
  rw [hevents, List.foldlM_cons] at h
  obtain ⟨generation, hafter, hrest⟩ := Option.bind_eq_some_iff.mp h
  refine ⟨generation, hrest, ?_⟩
  have heq : { supervisor with wsEvents := wsEvents }.handleWsEvent config now event = _ :=
    handleWsEvent_eq now hafter
  rw [heq, channels_handleCurrent]

theorem Sound.hear {supervisor : Supervisor} (h : Sound config feed)
    (hrest : wsEvents.foldlM generationAfter generation = some feed.supervisor.hub.generation)
    (hchannels : channels supervisor = (feed.supervisor.hub, generation, wsEvents,
        rawAfter feed.supervisor.raw event, commandsAfter feed.supervisor.routerCommands event,
        feed.supervisor.router)) : Sound config { feed.hear event with supervisor := supervisor } := by
  simp only [channels, Prod.mk.injEq] at hchannels
  obtain ⟨hhub, hgeneration, hevents, hraw, hcommands, hrouter⟩ := hchannels
  have hgenerations : supervisor.wsEvents.foldlM generationAfter supervisor.currentGeneration =
      some supervisor.hub.generation := by
    rw [hevents, hgeneration, hhub]
    exact hrest
  have hheed : (supervisor.router.liveCutoffTs, supervisor.router.historyOrigin) =
      heed config.tfSec (subscription feed.announced feed.heeded) := by
    rw [hrouter]
    exact h.router
  cases event with
  | subscribed wallclockTs historyOrigin _ =>
    constructor
    · exact hgenerations
    · show supervisor.routerCommands =
        (feed.announced ++ [(wallclockTs, historyOrigin)]).drop feed.heeded
      rw [hcommands, List.drop_append_of_le_length h.heeded_le, h.commands]
      rfl
    -- an announcement that is added is not heeded yet
    · show feed.heeded ≤ (feed.announced ++ [(wallclockTs, historyOrigin)]).length
      rw [List.length_append]
      exact Nat.le_add_right_of_le h.heeded_le
    · show _ = heed config.tfSec
        (subscription (feed.announced ++ [(wallclockTs, historyOrigin)]) feed.heeded)
      rw [subscription_append h.heeded_le]
      exact hheed
    · show feed.queued.map Prod.snd = supervisor.raw
      rw [hraw]
      exact h.queued
    · exact h.queued_subset
    · intro message hmem
      show message.1 ≤ (feed.announced ++ [(wallclockTs, historyOrigin)]).length
      rw [List.length_append]
      exact Nat.le_add_right_of_le (h.numbers message hmem)
  | raw value _ =>
    constructor
    · exact hgenerations
    · exact hcommands.trans h.commands
    · exact h.heeded_le
    · exact hheed
    -- a message that finds no room is lost
    · show (if feed.supervisor.raw.length < Supervisor.rawCapacity then
          feed.queued ++ [(feed.announced.length, value)]
        else feed.queued).map Prod.snd = supervisor.raw
      rw [hraw]
      unfold rawAfter
      split_ifs
      · rw [List.map_append, h.queued]
        rfl
      · exact h.queued
    · show (if feed.supervisor.raw.length < Supervisor.rawCapacity then
          feed.queued ++ [(feed.announced.length, value)]
        else feed.queued) ⊆ feed.messages ++ [(feed.announced.length, value)]
      split_ifs
      · exact List.append_subset.mpr
          ⟨List.subset_append_of_subset_left _ h.queued_subset, List.subset_append_right _ _⟩
      · exact List.subset_append_of_subset_left _ h.queued_subset
    · intro message hmem
      rcases List.mem_append.mp hmem with hmem | hmem
      · exact h.numbers message hmem
      · rw [List.mem_singleton.mp hmem]
        exact Nat.le_refl _
  | _ =>
    constructor
    · exact hgenerations
    · exact hcommands.trans h.commands
    · exact h.heeded_le
    · exact hheed
    · exact h.queued.trans hraw.symm
    · exact h.queued_subset
    · exact h.numbers

theorem Sound.takeCommand {wallclockTs : ℤ} {historyOrigin : DataOrigin}
    {routerCommands : List (ℤ × DataOrigin)} (h : Sound config feed)
    (hcommands : feed.supervisor.routerCommands = (wallclockTs, historyOrigin) :: routerCommands) :
    Sound config
      { feed with
        heeded := feed.heeded + 1
        supervisor :=
          { feed.supervisor with
            routerCommands := routerCommands
            router := updateSubscribeWallclock config.tfSec wallclockTs historyOrigin
              feed.supervisor.router } } := by
  have hdrop : feed.announced.drop feed.heeded = (wallclockTs, historyOrigin) :: routerCommands :=
    h.commands.symm.trans hcommands
  -- there is an announcement to heed
  have hlt : feed.heeded < feed.announced.length := by
    by_contra hge
    rw [List.drop_eq_nil_of_le (Nat.le_of_not_lt hge)] at hdrop
    cases hdrop
  rw [List.drop_eq_getElem_cons hlt] at hdrop
  obtain ⟨hhead, htail⟩ := List.cons.inj hdrop
  constructor
  · exact h.generations
  · exact htail.symm
  · exact hlt
  · show (some (wallclockTs - 2 * config.tfSec), historyOrigin) =
      heed config.tfSec feed.announced[feed.heeded]?
    rw [List.getElem?_eq_getElem hlt, hhead]
    rfl
  · exact h.queued
  · exact h.queued_subset
  · exact h.numbers

/-- The next message for the router is the first one that waits, and what is kept of it. -/
theorem Sound.follow_routeRaw {value : Json} {raw : List Json} (h : Sound config feed)
    (hraw : feed.supervisor.raw = value :: raw) (text : RouterText) (now : ℤ) :
    ∃ number queued, feed.queued = (number, value) :: queued ∧ queued.map Prod.snd = raw ∧
      feed.follow text (.routeRaw now) = { feed with
        queued := queued
        bufferedIn := buffering number feed.supervisor.router feed.bufferedIn
          ((updatesOf text value).map (labelled feed.supervisor.router.liveCutoffTs
            feed.supervisor.router.historyOrigin)) } := by
  obtain ⟨⟨number, _⟩, queued, hmessages, rfl, htail⟩ := List.map_eq_cons_iff.mp (h.queued.trans hraw)
  refine ⟨number, queued, hmessages, htail, ?_⟩
  unfold follow
  rw [hmessages]

theorem Sound.takeMessage {now : ℤ} {value : Json} {raw : List Json} (h : Sound config feed)
    (hraw : feed.supervisor.raw = value :: raw) :
    Sound config
      { feed.follow text (.routeRaw now) with
        supervisor := (route text now feed.supervisor.router value).2.foldl Supervisor.deliver
          { feed.supervisor with
            raw := raw, router := (route text now feed.supervisor.router value).1 } } := by
  obtain ⟨number, queued, hmessages, htail, hfollow⟩ := h.follow_routeRaw hraw text now
  have hchannels := channels_deliver
    { feed.supervisor with raw := raw, router := (route text now feed.supervisor.router value).1 }
    (route text now feed.supervisor.router value).2
  simp only [channels, Prod.mk.injEq] at hchannels
  obtain ⟨hhub, hgeneration, hevents, hraw', hcommands, hrouter⟩ := hchannels
  rw [hfollow]
  constructor
  · rw [hhub, hgeneration, hevents]
    exact h.generations
  · exact hcommands.trans h.commands
  · exact h.heeded_le
  · rw [hrouter, route_updates.1, (heeded_routeBars _ _).1, (heeded_routeBars _ _).2]
    exact h.router
  · exact htail.trans hraw'.symm
  · exact fun message' hmem => h.queued_subset (hmessages ▸ List.mem_cons_of_mem _ hmem)
  · exact h.numbers

/-- Every step keeps the feed and the channels together. -/
theorem Sound.act (h : Sound config feed) (text : RouterText) (step : Supervisor.Step) :
    Sound config (feed.act text config step).1 := by
  rcases act_cases text config feed step with hsame | ⟨supervisor, hstepped, hact⟩
  · rw [hsame]
    exact h
  · rw [hact]
    cases hstepped with
    | hub hhub =>
      constructor
      · show (feed.supervisor.wsEvents ++ _).foldlM generationAfter _ = some _
        rw [List.foldlM_append, h.generations]
        exact generations_hub hhub
      · exact h.commands
      · exact h.heeded_le
      · exact h.router
      · exact h.queued
      · exact h.queued_subset
      · exact h.numbers
    | @wsEvent now event wsEvents hevents =>
      have hfollow : feed.follow text (.wsEvent now) = feed.hear event := by
        unfold follow
        rw [hevents]
      obtain ⟨generation, hrest, hchannels⟩ := channels_handleWsEvent config now h.generations hevents
      rw [hfollow]
      exact h.hear hrest hchannels
    | routerCommand hcommands => exact h.takeCommand hcommands
    | routeRaw hraw => exact h.takeMessage hraw
    | checkBar hchecking hbars => exact h.of_channels (channels_checkBar _ _)
    | finishBar hchecking => exact h.of_channels (channels_finishBar ..)
    | silence hphase => exact h.of_channels (channels_resubscribe _ _)
    | _ => exact h.of_channels rfl

end Feed

end AlorRs.Gateway
