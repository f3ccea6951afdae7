import AlorRs.Gateway.Equiv.Feed
import AlorRs.Gateway.Equiv.Supervisor

/-!
# The bars of the history

The cutoff that tells the history of a subscription from its live bars goes to the router on one
channel, and the bars on another.  As long as the router heeds the announcement of a subscription
before its messages, and no later one, and no message is dropped, the bars of the history are sent
as such, in their order (`backfill_sent`); when it takes the messages first, they pass for live
ones (`firstBars_live`).
-/

namespace AlorRs.Gateway

open Reaction

namespace Feed

variable {text : RouterText} {config : SupervisorConfig} {feed : Feed}

/-- The bars of the history in a message: those that are not after the cutoff of its subscription,
with the origin of that history. -/
def backfill (text : RouterText) (tfSec : ℤ) (announced : List (ℤ × DataOrigin))
    (message : ℕ × Json) : List BarEvent :=
  match subscription announced message.1 with
  | none => []
  | some (wallclockTs, historyOrigin) =>
    if historyOrigin = .live then []
    else
      ((updatesOf text message.2).filter fun bar =>
        bar.closeTimeUtc ≤ wallclockTs - 2 * tfSec).map fun bar =>
          { bar with origin := historyOrigin }

/-- The router takes a message with bars before it heeds the subscription of the message, or after
it heeded a later one. -/
def OutOfTurn (text : RouterText) (feed : Feed) (step : Supervisor.Step) : Prop :=
  ∃ now number value queued, step = .routeRaw now ∧ feed.queued = (number, value) :: queued ∧
    updatesOf text value ≠ [] ∧ feed.heeded ≠ number

/-- A message with bars is dropped, since the queue of the router is full. -/
def Drops (text : RouterText) (feed : Feed) (step : Supervisor.Step) : Prop :=
  ∃ now value generation wsEvents, step = .wsEvent now ∧
    feed.supervisor.wsEvents = .raw value generation :: wsEvents ∧
    updatesOf text value ≠ [] ∧ Supervisor.rawCapacity ≤ feed.supervisor.raw.length

instance (text : RouterText) (feed : Feed) (step : Supervisor.Step) :
    Decidable (OutOfTurn text feed step) :=
  decidable_of_iff
    ((match step, feed.queued with
      | .routeRaw _, (number, value) :: _ =>
        decide (updatesOf text value ≠ [] ∧ feed.heeded ≠ number)
      | _, _ => false) = true) (by
    constructor
    · intro h
      split at h
      · rename_i now number value queued hqueued
        exact ⟨now, number, value, queued, rfl, hqueued, of_decide_eq_true h⟩
      · cases h
    · rintro ⟨now, number, value, queued, rfl, hqueued, h⟩
      rw [hqueued]
      exact decide_eq_true h)

instance (text : RouterText) (feed : Feed) (step : Supervisor.Step) :
    Decidable (Drops text feed step) :=
  decidable_of_iff
    ((match step, feed.supervisor.wsEvents with
      | .wsEvent _, .raw value _ :: _ =>
        decide (updatesOf text value ≠ [] ∧ Supervisor.rawCapacity ≤ feed.supervisor.raw.length)
      | _, _ => false) = true) (by
    constructor
    · intro h
      split at h
      · rename_i now value generation wsEvents hevents
        exact ⟨now, value, generation, wsEvents, rfl, hevents, of_decide_eq_true h⟩
      · cases h
    · rintro ⟨now, value, generation, wsEvents, rfl, hevents, h⟩
      rw [hevents]
      exact decide_eq_true h)

/-! ### One message -/

def BuffersLive (state : RouterState) : Prop :=
  ∀ symbol bar, state.liveBuffers.lookup symbol = some bar → bar.origin = .live

variable {state : RouterState}

theorem BuffersLive.insert {bar : BarEvent} (h : BuffersLive state) (hbar : bar.origin = .live) :
    BuffersLive { state with liveBuffers := state.liveBuffers.insert bar.symbol bar } := by
  intro symbol other hlookup
  by_cases hsymbol : symbol = bar.symbol
  · rw [hsymbol] at hlookup
    have hsame : (state.liveBuffers.insert bar.symbol bar).lookup bar.symbol = some other := hlookup
    rw [AList.lookup_insert] at hsame
    cases hsame
    exact hbar
  · have hother : (state.liveBuffers.insert bar.symbol bar).lookup symbol = some other := hlookup
    rw [AList.lookup_insert_ne hsymbol] at hother
    exact h symbol other hother

theorem routeBar_history (h : BuffersLive state) (bar : BarEvent) :
    BuffersLive (routeBar state bar).1 ∧
      (routedBars (routeBar state bar).2).filter (fun bar => bar.origin ≠ .live) =
        [bar].filter fun bar => bar.origin ≠ .live := by
  unfold routeBar
  split
  · exact ⟨h, rfl⟩
  · exact ⟨h, rfl⟩
  · rename_i horigin
    have hnone : [bar].filter (fun bar => bar.origin ≠ .live) = [] := by
      simp [horigin]
    rw [hnone]
    split
    · exact ⟨h.insert horigin, rfl⟩
    · rename_i prev hprev
      split_ifs
      · exact ⟨h.insert horigin, rfl⟩
      · refine ⟨h.insert horigin, ?_⟩
        simp [routedBars, h _ _ hprev]
      · exact ⟨h, rfl⟩

theorem routeBars_history (h : BuffersLive state) (bars : List BarEvent) :
    BuffersLive (routeBars state bars).1 ∧
      (routedBars (routeBars state bars).2).filter (fun bar => bar.origin ≠ .live) =
        bars.filter fun bar => bar.origin ≠ .live := by
  induction bars generalizing state with
  | nil => exact ⟨h, rfl⟩
  | cons bar bars ih =>
    obtain ⟨hbuffers, hbar⟩ := routeBar_history h bar
    obtain ⟨hrest, hbars⟩ := ih hbuffers
    refine ⟨hrest, ?_⟩
    show (routedBars ((routeBar state bar).2 ++ (routeBars (routeBar state bar).1 bars).2)).filter _ =
      ([bar] ++ bars).filter _
    rw [routedBars_append, List.filter_append, List.filter_append, hbar, hbars]

variable {announced : List (ℤ × DataOrigin)}

/-- What is labelled as history under the cutoff of the subscription is its backfill. -/
theorem filter_labelled {number : ℕ} {tfSec : ℤ} {liveCutoffTs : Option ℤ}
    {historyOrigin : DataOrigin} (value : Json)
    (h : (liveCutoffTs, historyOrigin) = heed tfSec (subscription announced number)) :
    ((updatesOf text value).map (labelled liveCutoffTs historyOrigin)).filter
        (fun bar => bar.origin ≠ .live) =
      backfill text tfSec announced (number, value) := by
  unfold backfill
  cases hsubscription : subscription announced number with
  | none =>
    rw [hsubscription] at h
    obtain ⟨rfl, rfl⟩ := Prod.mk.inj h
    simp [labelled, labelOf]
  | some announcement =>
    rw [hsubscription] at h
    obtain ⟨wallclockTs, origin⟩ := announcement
    obtain ⟨rfl, rfl⟩ := Prod.mk.inj h
    dsimp only
    split_ifs with hlive
    · rw [hlive]
      simp [labelled, labelOf]
    -- a bar counts as history if it closed two bars before the subscription
    · have hlabel : (fun bar : BarEvent => decide (bar.origin ≠ .live)) ∘
            labelled (some (wallclockTs - 2 * tfSec)) historyOrigin =
          fun bar => decide (bar.closeTimeUtc ≤ wallclockTs - 2 * tfSec) := by
        funext bar
        by_cases htime : bar.closeTimeUtc ≤ wallclockTs - 2 * tfSec
        · simp [labelled, labelOf, htime, hlive]
        · simp [labelled, labelOf, htime]
      rw [List.filter_map, hlabel]
      refine List.map_congr_left fun bar hmem => ?_
      have htime := of_decide_eq_true (List.mem_filter.mp hmem).2
      simp [labelled, labelOf, htime]

/-! ### Runs -/

theorem backfill_append {messages : List (ℕ × Json)}
    (h : ∀ message ∈ messages, message.1 ≤ announced.length) (tfSec : ℤ)
    (new : List (ℤ × DataOrigin)) :
    messages.flatMap (backfill text tfSec (announced ++ new)) =
      messages.flatMap (backfill text tfSec announced) := by
  refine List.flatMap_congr fun message hmem => ?_
  unfold backfill
  rw [subscription_append (h message hmem)]

/-- What was sent of the history, and what the router has not taken yet, is all that came in. -/
structure Delivers (text : RouterText) (config : SupervisorConfig) (feed : Feed)
    (sent : List BarEvent) : Prop where
  sound : Sound config feed
  buffers : BuffersLive feed.supervisor.router
  history : sent.filter (fun bar => bar.origin ≠ .live) ++
      feed.queued.flatMap (backfill text config.tfSec feed.announced) =
    feed.messages.flatMap (backfill text config.tfSec feed.announced)

variable {sent : List BarEvent}

/-- An event of the hub adds as much to the messages as to those that wait. -/
theorem history_hear {event : WsEvent} (h : Delivers text config feed sent)
    (hdrops : ∀ value generation, event = .raw value generation → updatesOf text value ≠ [] →
      feed.supervisor.raw.length < Supervisor.rawCapacity) :
    sent.filter (fun bar => bar.origin ≠ .live) ++ (feed.hear event).queued.flatMap
          (backfill text config.tfSec (feed.hear event).announced) =
      (feed.hear event).messages.flatMap
        (backfill text config.tfSec (feed.hear event).announced) := by
  cases event with
  | subscribed wallclockTs historyOrigin generation =>
    -- the messages that wait are older than the announcement
    have hqueued : ∀ message ∈ feed.queued, message.1 ≤ feed.announced.length :=
      fun message hmem => h.sound.numbers message (h.sound.queued_subset hmem)
    show _ ++ feed.queued.flatMap
        (backfill text config.tfSec (feed.announced ++ [(wallclockTs, historyOrigin)])) =
      feed.messages.flatMap
        (backfill text config.tfSec (feed.announced ++ [(wallclockTs, historyOrigin)]))
    rw [backfill_append hqueued, backfill_append h.sound.numbers]
    exact h.history
  | raw value generation =>
    show _ ++ (if feed.supervisor.raw.length < Supervisor.rawCapacity then
          feed.queued ++ [(feed.announced.length, value)]
        else feed.queued).flatMap (backfill text config.tfSec feed.announced) =
      (feed.messages ++ [(feed.announced.length, value)]).flatMap
        (backfill text config.tfSec feed.announced)
    rw [List.flatMap_append, ← h.history]
    split_ifs with hroom
    · rw [List.flatMap_append, List.append_assoc]
    -- a message that finds no room has no bars
    · have hnone : updatesOf text value = [] := by
        by_contra hsome
        exact hroom (hdrops value generation rfl hsome)
      have hempty : [(feed.announced.length, value)].flatMap
          (backfill text config.tfSec feed.announced) = [] := by
        rw [List.flatMap_singleton]
        unfold backfill
        rw [hnone]
        split
        · rfl
        · split_ifs <;> rfl
      rw [hempty, List.append_nil]
  | _ => exact h.history

/-- What the router sends of a message whose subscription it heeds is the backfill of the
message. -/
theorem routed_history {number : ℕ} {value : Json} {raw : List Json}
    (now : ℤ) (h : Sound config feed) (hbuffers : BuffersLive feed.supervisor.router)
    (hraw : feed.supervisor.raw = value :: raw)
    (hheeded : updatesOf text value ≠ [] → feed.heeded = number) :
    (feed.routed text (.routeRaw now)).filter (fun bar => bar.origin ≠ .live) =
      backfill text config.tfSec feed.announced (number, value) := by
  have hrouted : feed.routed text (.routeRaw now) =
      routedBars (route text now feed.supervisor.router value).2 := by
    unfold routed
    rw [hraw]
  rw [hrouted, route_updates.2, (routeBars_history hbuffers _).2]
  by_cases hnone : updatesOf text value = []
  · unfold backfill
    rw [hnone]
    split
    · rfl
    · split_ifs
      · rfl
      · rfl
  · refine filter_labelled value ?_
    rw [← hheeded hnone]
    exact h.router

theorem delivers_start : Delivers text config (start config) [] where
  sound := sound_start
  buffers := fun symbol bar hlookup => by cases hlookup
  history := rfl

variable {supervisor : Supervisor}

theorem Delivers.goesOn (h : Delivers text config feed sent)
    (hsound : Sound config { feed with supervisor := supervisor })
    (hrouter : supervisor.router = feed.supervisor.router) :
    Delivers text config { feed with supervisor := supervisor } (sent ++ []) where
  sound := hsound
  buffers := by
    show BuffersLive supervisor.router
    rw [hrouter]
    exact h.buffers
  history := by
    rw [List.append_nil]
    exact h.history

theorem router_of_channels {supervisor' : Supervisor}
    (h : channels supervisor' = channels supervisor) : supervisor'.router = supervisor.router :=
  congrArg (fun channels => channels.2.2.2.2.2) h

theorem Delivers.hear {event : WsEvent} (h : Delivers text config feed sent)
    (hsound : Sound config { feed.hear event with supervisor := supervisor })
    (hrouter : supervisor.router = feed.supervisor.router)
    (hdrops : ∀ value generation, event = .raw value generation → updatesOf text value ≠ [] →
      feed.supervisor.raw.length < Supervisor.rawCapacity) :
    Delivers text config { feed.hear event with supervisor := supervisor } (sent ++ []) where
  sound := hsound
  buffers := by
    show BuffersLive supervisor.router
    rw [hrouter]
    exact h.buffers
  history := by
    rw [List.append_nil]
    exact history_hear h hdrops

theorem Delivers.takeMessage {now : ℤ} {value : Json} {raw : List Json}
    (h : Delivers text config feed sent)
    (hsound : Sound config { feed.follow text (.routeRaw now) with supervisor := supervisor })
    (hraw : feed.supervisor.raw = value :: raw)
    (hrouter : supervisor.router = (route text now feed.supervisor.router value).1)
    (hturn : ¬OutOfTurn text feed (.routeRaw now)) :
    Delivers text config { feed.follow text (.routeRaw now) with supervisor := supervisor }
      (sent ++ feed.routed text (.routeRaw now)) := by
  obtain ⟨number, queued, hmessages, -, hfollow⟩ := h.sound.follow_routeRaw hraw text now
  have hsent := routed_history now h.sound h.buffers hraw fun hbars => by
    by_contra hne
    exact hturn ⟨now, number, value, queued, rfl, hmessages, hbars, hne⟩
  refine ⟨hsound, ?_, ?_⟩
  · show BuffersLive supervisor.router
    rw [hrouter, route_updates.1]
    exact (routeBars_history h.buffers _).1
  · show (sent ++ _).filter _ ++ (feed.follow text (.routeRaw now)).queued.flatMap (backfill text
        config.tfSec (feed.follow text (.routeRaw now)).announced) =
      (feed.follow text (.routeRaw now)).messages.flatMap (backfill text config.tfSec
        (feed.follow text (.routeRaw now)).announced)
    rw [hfollow, List.filter_append, hsent, List.append_assoc, ← h.history, hmessages, List.flatMap_cons]

theorem Delivers.act {step : Supervisor.Step} (h : Delivers text config feed sent)
    (hturn : ¬OutOfTurn text feed step) (hdrops : ¬Drops text feed step) :
    Delivers text config (feed.act text config step).1
      (sent ++ (feed.act text config step).2) := by
  rcases act_cases text config feed step with hsame | ⟨supervisor, hstepped, hact⟩
  · rw [hsame, List.append_nil]
    exact h
  · have hsound := h.sound.act text step
    rw [hact] at hsound ⊢
    cases hstepped with
    -- only an event of the hub adds messages
    | @wsEvent now event wsEvents hevents =>
      have hfollow : feed.follow text (.wsEvent now) = feed.hear event := by
        unfold follow
        rw [hevents]
      obtain ⟨generation, -, hchannels⟩ :=
        channels_handleWsEvent config now h.sound.generations hevents
      rw [hfollow] at hsound ⊢
      refine h.hear hsound (congrArg (fun channels => channels.2.2.2.2.2) hchannels)
        fun value generation hevent hbars => not_le.mp fun hfull => hdrops ?_
      exact ⟨now, value, generation, wsEvents, rfl, hevent ▸ hevents, hbars, hfull⟩
    | routeRaw hraw =>
      exact h.takeMessage hsound hraw (router_of_channels (channels_deliver _ _)) hturn
    | checkBar hchecking hbars =>
      exact h.goesOn hsound (router_of_channels (channels_checkBar _ _))
    | finishBar hchecking => exact h.goesOn hsound (router_of_channels (channels_finishBar ..))
    | silence hphase => exact h.goesOn hsound (router_of_channels (channels_resubscribe _ _))
    | routerCommand hcommands =>
      refine ⟨hsound, h.buffers, ?_⟩
      rw [show sent ++ feed.routed text .routerCommand = sent from List.append_nil _]
      exact h.history
    | _ => exact h.goesOn hsound rfl

/-- The history is sent as such, in its order, as long as the router heeds each subscription before
its messages and no message is dropped. -/
theorem backfill_sent (text : RouterText) (config : SupervisorConfig)
    (steps : List Supervisor.Step)
    (h : Always (act text config) (fun feed step => ¬OutOfTurn text feed step ∧ ¬Drops text feed step)
      (start config) steps) :
    (outputs (act text config) (start config) steps).filter (fun bar => bar.origin ≠ .live) ++
        (after (act text config) (start config) steps).queued.flatMap (backfill text config.tfSec
          (after (act text config) (start config) steps).announced) =
      (after (act text config) (start config) steps).messages.flatMap (backfill text config.tfSec
        (after (act text config) (start config) steps).announced) := by
  have hrun : Delivers text config (after (act text config) (start config) steps)
      ([] ++ outputs (act text config) (start config) steps) :=
    outputs_invariant (fun feed step sent hdelivers hstep => hdelivers.act hstep.1 hstep.2)
      delivers_start h
  exact hrun.history

/-! ### The first connection -/

/-- The gateway connects, is subscribed to the bars of its symbol, and two bars of the history come
in. -/
def firstBars : List Supervisor.Step :=
  [.hub .reconnect, .hub (.connect 1000), .hub (.subscribe "1"),
    .hub (.raw (Supervisor.barMessage 600)), .hub (.raw (Supervisor.barMessage 660))] ++
    List.replicate 7 (.wsEvent 1000)

/-- The router heeds the subscription and takes the bars. -/
theorem firstBars_history :
    (outputs (act Supervisor.numericText Supervisor.oneSymbol) (start Supervisor.oneSymbol)
        (firstBars ++ [.routerCommand, .routeRaw 1000, .routeRaw 1000])).filter
          (fun bar => bar.origin ≠ .live) =
      [⟨"IMOEXF", 600, 0, 0, 0, 0, 0, .history⟩, ⟨"IMOEXF", 660, 0, 0, 0, 0, 0, .history⟩] := by
  have hsent := backfill_sent Supervisor.numericText Supervisor.oneSymbol
    (firstBars ++ [.routerCommand, .routeRaw 1000, .routeRaw 1000]) (by decide +kernel)
  have hwaiting : (after (act Supervisor.numericText Supervisor.oneSymbol)
      (start Supervisor.oneSymbol)
      (firstBars ++ [.routerCommand, .routeRaw 1000, .routeRaw 1000])).queued.isEmpty = true := by
    decide +kernel
  rw [List.isEmpty_iff.mp hwaiting, List.flatMap_nil, List.append_nil] at hsent
  rw [hsent]
  decide +kernel

/-- The router takes the bars first, and sends the first of them as a live one. -/
theorem firstBars_live :
    ¬∀ (text : RouterText) (config : SupervisorConfig) (steps : List Supervisor.Step),
      (outputs (act text config) (start config) steps).filter (fun bar => bar.origin ≠ .live) ++
          (after (act text config) (start config) steps).queued.flatMap (backfill text config.tfSec
            (after (act text config) (start config) steps).announced) =
        (after (act text config) (start config) steps).messages.flatMap (backfill text config.tfSec
          (after (act text config) (start config) steps).announced) := by
  intro h
  have hsent : outputs (act Supervisor.numericText Supervisor.oneSymbol)
      (start Supervisor.oneSymbol)
      (firstBars ++ [.routeRaw 1000, .routeRaw 1000, .routerCommand]) =
        [⟨"IMOEXF", 600, 0, 0, 0, 0, 0, .live⟩] := by
    decide +kernel
  have hall := h Supervisor.numericText Supervisor.oneSymbol
    (firstBars ++ [.routeRaw 1000, .routeRaw 1000, .routerCommand])
  revert hall
  decide +kernel

end Feed

end AlorRs.Gateway
