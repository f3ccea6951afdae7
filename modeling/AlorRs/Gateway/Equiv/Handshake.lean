import AlorRs.Gateway.Handshake
import AlorRs.Lib.Reaction

/-!
# The handshake is exact and lossless when the first message is the ack

A subscription becomes active with the first message that carries its guid.  As long as these are
acks that succeed, and carry no data, every active subscription was acknowledged and all of its data
was passed on (`handshake_exact`); but an error ack activates it as well (`errorAck_active`).
-/

namespace AlorRs.Gateway

open Reaction

/-! ### Symbols -/

theorem lookup_modify (fields : List (String × Json)) (name : String) (modify : Json → Json)
    (field : String) :
    (fields.map fun entry => if entry.1 = name then (entry.1, modify entry.2) else entry).lookup
        field =
      if field = name then (fields.lookup field).map modify else fields.lookup field := by
  induction fields with
  | nil => simp
  | cons entry fields ih =>
    obtain ⟨key, item⟩ := entry
    by_cases hname : key = name <;> by_cases hkey : field = key <;>
      simp_all [List.lookup_cons, beq_false_of_ne]

theorem get_modifyField (value : Json) (name : String) (modify : Json → Json) (field : String) :
    (modifyField value name modify).get field =
      if field = name then (value.get field).map modify else value.get field := by
  cases value with
  | object fields => exact lookup_modify fields name modify field
  | _ => simp [modifyField, Json.get]

section Symbols

variable {barsGuidMap : AList fun _ : String => String} {value : Json}

theorem get_attachSymbol {field : String} (hfield : field ≠ "data") :
    (attachSymbol barsGuidMap value).get field = value.get field := by
  unfold attachSymbol
  split
  · rfl
  · rw [get_modifyField, if_neg hfield]

@[simp]
theorem guidOf_attachSymbol : guidOf (attachSymbol barsGuidMap value) = guidOf value := by
  unfold guidOf
  rw [get_attachSymbol (by decide), get_attachSymbol (by decide)]

@[simp]
theorem data_attachSymbol :
    ((attachSymbol barsGuidMap value).get "data").isSome = (value.get "data").isSome := by
  unfold attachSymbol
  split
  · rfl
  · rw [get_modifyField, if_pos rfl, Option.isSome_map]

theorem attachSymbol_insert {guid symbol : String} (h : guidOf value ≠ some guid) :
    attachSymbol (barsGuidMap.insert guid symbol) value = attachSymbol barsGuidMap value := by
  unfold attachSymbol
  cases hguid : guidOf value with
  | none => rfl
  | some other =>
    have hne : other ≠ guid := fun hsame => h (hsame ▸ hguid)
    simp only [Option.bind_some, AList.lookup_insert_ne hne]

end Symbols

variable {hub : Hub} {step : HandshakeStep} {nowTs : ℤ}

namespace Handshake

variable {config : HubConfig} {handshake handshake' : Handshake} {events : List WsEvent}

/-! ### One step -/

def NoRaw (events : List WsEvent) : Prop := ∀ value generation, .raw value generation ∉ events

/-- What a step does: the subscription that is awaited, the ones that are active, and the messages
that are passed on. -/
inductive Stepped (handshake : Handshake) : HandshakeStep → Handshake → List WsEvent → Prop
  | send {guid : String} {hub : Hub} {barsGuidMap : AList fun _ : String => String}
    {events : List WsEvent} :
    handshake.awaited = none → (⟨hub, barsGuidMap⟩ : Handshake).awaited = some guid →
      hub.manager.activeSubscriptions = handshake.hub.manager.activeSubscriptions →
      (barsGuidMap = handshake.barsGuidMap ∨
        ∃ symbol, barsGuidMap = handshake.barsGuidMap.insert guid symbol) →
      NoRaw events →
      Stepped handshake (.send guid) ⟨hub, barsGuidMap⟩ events
  | unread {nowTs : ℤ} {events : List WsEvent} :
    NoRaw events → Stepped handshake (.text nowTs none) handshake events
  | ack {nowTs : ℤ} {value : Json} {guid : String} {hub : Hub} {events : List WsEvent} :
    guidOf value = some guid → handshake.awaited = some guid →
      ({ handshake with hub := hub } : Handshake).awaited = none →
      (hub.manager.activeSubscriptions = handshake.hub.manager.activeSubscriptions ∨
        ∃ subscription, hub.manager.activeSubscriptions =
          handshake.hub.manager.activeSubscriptions.insert guid subscription) →
      NoRaw events →
      Stepped handshake (.text nowTs (some value)) { handshake with hub := hub } events
  | pass {nowTs : ℤ} {value : Json} {before : List WsEvent} {generation : ℕ} :
    (∀ guid, guidOf value = some guid → handshake.isActiveGuid guid = true) →
      (∀ guid, guidOf value = some guid → handshake.awaited ≠ some guid) →
      NoRaw before →
      Stepped handshake (.text nowTs (some value)) handshake
        (before ++ [WsEvent.raw (attachSymbol handshake.barsGuidMap value) generation])
  | ignore {nowTs : ℤ} {value : Json} {guid : String} {events : List WsEvent} :
    guidOf value = some guid → handshake.isActiveGuid guid = false →
      handshake.awaited ≠ some guid → NoRaw events →
      Stepped handshake (.text nowTs (some value)) handshake events
  | ackFailed {hub : Hub} {events : List WsEvent} :
    ({ handshake with hub := hub } : Handshake).awaited = none →
      hub.manager.activeSubscriptions = handshake.hub.manager.activeSubscriptions →
      NoRaw events →
      Stepped handshake .ackFailed { handshake with hub := hub } events

variable {hub' : Hub} {steps : List HubStep}

theorem runHub_cons {step : HubStep} (h : runHub config hub (step :: steps) = some (hub', events)) :
    ∃ next told commands rest, hub.step config .cold [] step = some (next, told, commands) ∧
      runHub config next steps = some (hub', rest) ∧ events = told ++ rest := by
  obtain ⟨⟨next, told, commands⟩, hstep, h⟩ := Option.bind_eq_some_iff.mp h
  obtain ⟨⟨last, rest⟩, hrest, hresult⟩ := Option.bind_eq_some_iff.mp h
  cases hresult
  exact ⟨next, told, commands, rest, hstep, hrest, rfl⟩

theorem runHub_singleton {step : HubStep} (h : runHub config hub [step] = some (hub', events)) :
    ∃ commands, hub.step config .cold [] step = some (hub', events, commands) := by
  obtain ⟨next, told, commands, rest, hstep, hrest, rfl⟩ := runHub_cons h
  cases hrest
  exact ⟨commands, by rw [hstep, List.append_nil]⟩

theorem runHub_rx (h : runHub config hub (.rx nowTs :: steps) = some (hub', events)) :
    ∃ events', runHub config hub steps = some (hub', events') ∧
      events = .wsRx nowTs hub.generation :: events' := by
  obtain ⟨next, told, commands, rest, hstep, hrest, rfl⟩ := runHub_cons h
  simp only [Hub.step] at hstep
  split at hstep <;> cases hstep <;> exact ⟨rest, hrest, rfl⟩

theorem activeSubscriptions_activate {manager manager' : SubscriptionManager} {guid : String}
    {activated : Option Subscription}
    (h : manager.activateSubscription guid = (activated, manager')) :
    manager'.activeSubscriptions = manager.activeSubscriptions ∨
      ∃ subscription, manager'.activeSubscriptions =
        manager.activeSubscriptions.insert guid subscription := by
  unfold SubscriptionManager.activateSubscription at h
  split at h
  · cases h
    exact .inr ⟨_, rfl⟩
  · cases h
    exact .inl rfl

theorem awaited_subscribingTo (rest : List (String × String)) (generation : ℕ)
    (manager : SubscriptionManager) (barsGuidMap : AList fun _ : String => String) :
    (⟨⟨generation, Hub.subscribingTo rest, manager⟩, barsGuidMap⟩ : Handshake).awaited = none := by
  cases rest with
  | nil => rfl
  | cons item rest => rfl

theorem stepped_send {guid : String} (h : handshake.step config (.send guid) = some (handshake', events)) :
    Stepped handshake (.send guid) handshake' events := by
  obtain ⟨⟨hub, told⟩, hrun, hresult⟩ := Option.bind_eq_some_iff.mp h
  obtain ⟨commands, hstep⟩ := runHub_singleton hrun
  simp only [Hub.step] at hstep
  split at hstep
  · rename_i item rest attempt hstage
    cases hstep
    cases hresult
    refine .send ?_ rfl rfl ?_ (by simp [NoRaw, Hub.stats])
    · rw [awaited, hstage]
    · split
      · exact .inr ⟨_, rfl⟩
      · exact .inl rfl
  · cases hstep

theorem stepped_ackFailed (h : handshake.step config .ackFailed = some (handshake', events)) :
    Stepped handshake .ackFailed handshake' events := by
  obtain ⟨⟨hub, told⟩, hrun, hresult⟩ := Option.bind_eq_some_iff.mp h
  obtain ⟨commands, hstep⟩ := runHub_singleton hrun
  simp only [Hub.step] at hstep
  split at hstep
  · split at hstep <;> cases hstep <;> cases hresult <;>
      exact .ackFailed rfl rfl (by simp [NoRaw, Hub.disconnect])
  · cases hstep

theorem stepped_text {value : Option Json}
    (h : handshake.step config (.text nowTs value) = some (handshake', events)) :
    Stepped handshake (.text nowTs value) handshake' events := by
  obtain ⟨⟨hub, told⟩, hrun, hresult⟩ := Option.bind_eq_some_iff.mp h
  cases hresult
  have hrx : NoRaw [.wsRx nowTs handshake.hub.generation] := by simp [NoRaw]
  -- a text that only shows life
  have hnone (hsteps : handshake.read nowTs value = [.rx nowTs]) :
      hub = handshake.hub ∧ events = [.wsRx nowTs handshake.hub.generation] := by
    rw [hsteps] at hrun
    obtain ⟨events', hrest, rfl⟩ := runHub_rx hrun
    cases hrest
    exact ⟨rfl, rfl⟩
  cases value with
  | none =>
    obtain ⟨rfl, rfl⟩ := hnone rfl
    exact .unread hrx
  | some value =>
    by_cases hack : ((guidOf value).isSome && guidOf value == handshake.awaited) = true
    -- the ack that is awaited
    · obtain ⟨hsome, hsame⟩ := Bool.and_eq_true_iff.mp hack
      obtain ⟨guid, hguid⟩ := Option.isSome_iff_exists.mp hsome
      have hawaited : handshake.awaited = some guid := by
        rw [← hguid]
        exact (beq_iff_eq.mp hsame).symm
      rw [show handshake.read nowTs (some value) = [.rx nowTs, .acked] from if_pos hack] at hrun
      obtain ⟨events', hrest, rfl⟩ := runHub_rx hrun
      obtain ⟨commands, hstep⟩ := runHub_singleton hrest
      simp only [Hub.step] at hstep
      split at hstep
      · rename_i item rest awaited attempt hstage
        obtain rfl : awaited = guid := by simpa [Handshake.awaited, hstage] using hawaited
        split at hstep
        · rename_i subscription manager hactivate
          cases hstep
          exact .ack hguid hawaited (awaited_subscribingTo _ _ _ _)
            (activeSubscriptions_activate hactivate) (by simp [NoRaw, Hub.stats])
        · cases hstep
          exact .ack hguid hawaited (awaited_subscribingTo _ _ _ _) (.inl rfl) (by simp [NoRaw])
      · cases hstep
    · have hawaited (guid : String) (hguid : guidOf value = some guid) :
          handshake.awaited ≠ some guid := by
        intro hsame
        simp [hguid, hsame] at hack
      have hread : handshake.read nowTs (some value) = _ := if_neg hack
      rw [guidOf_attachSymbol] at hread
      -- data goes on if its guid is active or missing
      by_cases hpass : ∀ guid, guidOf value = some guid → handshake.isActiveGuid guid = true
      · have hsteps : handshake.read nowTs (some value) =
            [.rx nowTs, .raw (attachSymbol handshake.barsGuidMap value)] := by
          cases hguid : guidOf value with
          | none => rw [hread, hguid]
          | some guid => simp only [hread, hguid, hpass guid hguid, if_true]
        rw [hsteps] at hrun
        obtain ⟨events', hrest, rfl⟩ := runHub_rx hrun
        obtain ⟨commands, hstep⟩ := runHub_singleton hrest
        simp only [Hub.step] at hstep
        split at hstep <;> cases hstep <;> exact .pass hpass hawaited hrx
      -- data of a guid that is not active yet
      · push Not at hpass
        obtain ⟨guid, hguid, hinactive⟩ := hpass
        obtain ⟨rfl, rfl⟩ := hnone (by simp only [hread, hguid, if_neg hinactive])
        exact .ignore hguid (Bool.eq_false_iff.mpr hinactive) (hawaited guid hguid) hrx

theorem stepped_of_step (h : handshake.step config step = some (handshake', events)) :
    Stepped handshake step handshake' events := by
  cases step with
  | send guid => exact stepped_send h
  | text nowTs value => exact stepped_text h
  | ackFailed => exact stepped_ackFailed h

end Handshake

/-! ### What was read and what was told -/

/-- A message that was read, or an event that the hub told. -/
inductive Heard where
  | received (value : Json)
  | told (event : WsEvent)

/-- A handshake with all that was read and told in it. -/
structure Transcript where
  handshake : Handshake
  log : List Heard

def Acknowledges (guid : String) (value : Json) : Prop :=
  guidOf value = some guid ∧ (value.get "httpCode").bind Json.asI64 = some 200

def isDataOf (guid : String) (value : Json) : Bool :=
  guidOf value == some guid && (value.get "data").isSome

namespace Transcript

open Handshake (NoRaw)

def start (config : HubConfig) (generation : ℕ) : Transcript :=
  ⟨.start config generation, []⟩

def received : HandshakeStep → List Heard
  | .text _ (some value) => [.received value]
  | _ => []

/-- A step of the handshake; one that cannot be taken changes nothing. -/
def act (config : HubConfig) (transcript : Transcript) (step : HandshakeStep) : Transcript × Unit :=
  match transcript.handshake.step config step with
  | none => (transcript, ())
  | some (handshake, events) =>
    (⟨handshake, transcript.log ++ received step ++ events.map .told⟩, ())

variable (guid : String) (log : List Heard)

def dataOf : List Json :=
  log.filterMap fun
    | .received value => if isDataOf guid value then some value else none
    | .told _ => none

def passedOn : List Json :=
  log.filterMap fun
    | .told (.raw value _) => if isDataOf guid value then some value else none
    | _ => none

variable (transcript : Transcript)

def SendsNew (step : HandshakeStep) : Prop :=
  ∀ guid, step = .send guid → transcript.handshake.isActiveGuid guid = false ∧
    dataOf guid transcript.log = []

/-- The message that is taken for an ack is one that tells success, and carries no data. -/
def AckedBySuccess (step : HandshakeStep) : Prop :=
  ∀ nowTs value guid, step = .text nowTs (some value) → guidOf value = some guid →
    transcript.handshake.awaited = some guid →
      Acknowledges guid value ∧ (value.get "data").isSome = false

/-! ### Runs -/

variable {config : HubConfig} {transcript : Transcript}

theorem dataOf_append (log' : List Heard) :
    dataOf guid (log ++ log') = dataOf guid log ++ dataOf guid log' := List.filterMap_append

theorem passedOn_append (log' : List Heard) :
    passedOn guid (log ++ log') = passedOn guid log ++ passedOn guid log' := List.filterMap_append

theorem dataOf_told (events : List WsEvent) : dataOf guid (events.map .told) = [] := by
  rw [dataOf, List.filterMap_map]
  exact List.filterMap_eq_nil_iff.mpr fun event _ => rfl

variable {events : List WsEvent}

theorem passedOn_told (h : NoRaw events) : passedOn guid (events.map .told) = [] := by
  rw [passedOn, List.filterMap_map]
  refine List.filterMap_eq_nil_iff.mpr fun event hmem => ?_
  cases event with
  | raw value generation => exact absurd hmem (h value generation)
  | _ => rfl

/-- Every active subscription was acknowledged and its data was passed on; none was of the others,
and the one that is awaited has had none. -/
structure Exact (transcript : Transcript) : Prop where
  acknowledged : ∀ guid, transcript.handshake.isActiveGuid guid = true →
    ∃ value, .received value ∈ transcript.log ∧ Acknowledges guid value
  passed : ∀ guid, transcript.handshake.isActiveGuid guid = true → passedOn guid transcript.log =
      (dataOf guid transcript.log).map (attachSymbol transcript.handshake.barsGuidMap)
  inactive : ∀ guid, transcript.handshake.isActiveGuid guid = false →
    passedOn guid transcript.log = []
  awaited : ∀ guid, transcript.handshake.awaited = some guid → dataOf guid transcript.log = []

theorem exact_start (generation : ℕ) : Exact (start config generation) where
  acknowledged := fun guid h => by cases h
  passed := fun guid h => by cases h
  inactive := fun guid _ => rfl
  awaited := fun guid _ => rfl

theorem isDataOf_attachSymbol (barsGuidMap : AList fun _ : String => String) (value : Json) :
    isDataOf guid (attachSymbol barsGuidMap value) = isDataOf guid value := by
  unfold isDataOf
  rw [guidOf_attachSymbol, data_attachSymbol]

variable {value : Json}

theorem isDataOf_eq_false {guid : String} (h : guidOf value ≠ some guid) :
    isDataOf guid value = false := by
  unfold isDataOf
  rw [beq_false_of_ne h, Bool.false_and]

theorem guidOf_of_mem_dataOf {guid : String} {log : List Heard} (h : value ∈ dataOf guid log) :
    guidOf value = some guid := by
  obtain ⟨heard, -, hsome⟩ := List.mem_filterMap.mp h
  cases heard with
  | received other =>
    dsimp only at hsome
    split_ifs at hsome with hdata
    cases hsome
    exact beq_iff_eq.mp (Bool.and_eq_true_iff.mp hdata).1
  | told event => cases hsome

theorem dataOf_read (value : Json) (events : List WsEvent) :
    dataOf guid (log ++ [.received value] ++ events.map .told) =
      dataOf guid log ++ if isDataOf guid value then [value] else [] := by
  rw [dataOf_append, dataOf_append, dataOf_told, List.append_nil]
  congr 1
  unfold dataOf
  split_ifs with hdata <;> simp [hdata]

theorem passedOn_read (step : HandshakeStep) (h : NoRaw events) :
    passedOn guid (log ++ received step ++ events.map .told) = passedOn guid log := by
  have hread : passedOn guid (received step) = [] := by
    unfold received
    split <;> rfl
  rw [passedOn_append, passedOn_append, hread, passedOn_told guid h, List.append_nil,
    List.append_nil]

theorem dataOf_unread (events : List WsEvent) :
    dataOf guid (log ++ [] ++ events.map .told) = dataOf guid log := by
  rw [dataOf_append, dataOf_told, List.append_nil, List.append_nil]

theorem acknowledged_mono {guid : String} {log read told : List Heard}
    (h : ∃ value, .received value ∈ log ∧ Acknowledges guid value) :
    ∃ value, .received value ∈ log ++ read ++ told ∧ Acknowledges guid value :=
  h.imp fun _ hvalue => ⟨by simp [hvalue.1], hvalue.2⟩

variable {handshake : Handshake}

theorem isActiveGuid_congr (h : handshake.hub.manager.activeSubscriptions =
    transcript.handshake.hub.manager.activeSubscriptions) (guid : String) :
    handshake.isActiveGuid guid = transcript.handshake.isActiveGuid guid := by
  unfold Handshake.isActiveGuid
  rw [h]

theorem Exact.send {guid : String} (h : Exact transcript)
    (hstepped : Handshake.Stepped transcript.handshake (.send guid) handshake events)
    (hnew : SendsNew transcript (.send guid)) :
    Exact ⟨handshake, transcript.log ++ received (.send guid) ++ events.map .told⟩ := by
  obtain ⟨hinactive, hnone⟩ := hnew guid rfl
  cases hstepped with
  | @send guid hub barsGuidMap events hbefore hafter hactive hsymbols hevents =>
    have hsame := isActiveGuid_congr (show (⟨hub, barsGuidMap⟩ : Handshake).hub.manager.activeSubscriptions = _ from hactive)
    constructor
    · intro other hother
      rw [hsame] at hother
      exact acknowledged_mono (h.acknowledged other hother)
    · intro other hother
      rw [hsame] at hother
      show passedOn other (transcript.log ++ received (.send guid) ++ events.map .told) =
        (dataOf other (transcript.log ++ [] ++ events.map .told)).map (attachSymbol barsGuidMap)
      rw [passedOn_read other _ _ hevents, dataOf_unread, h.passed other hother]
      -- the new symbol concerns no guid that was active
      refine List.map_congr_left fun value hmem => ?_
      rcases hsymbols with rfl | ⟨symbol, rfl⟩
      · rfl
      · refine (attachSymbol_insert fun hguid => ?_).symm
        obtain rfl := Option.some.inj ((guidOf_of_mem_dataOf hmem).symm.trans hguid)
        simp [hother] at hinactive
    · intro other hother
      rw [hsame] at hother
      show passedOn other (transcript.log ++ received (.send guid) ++ events.map .told) = []
      rw [passedOn_read other _ _ hevents, h.inactive other hother]
    · intro other hother
      have hguid : guid = other := Option.some.inj (hafter.symm.trans hother)
      -- nothing was received under a new guid
      subst hguid
      show dataOf guid (transcript.log ++ [] ++ events.map .told) = []
      rw [dataOf_unread, hnone]

theorem Exact.goesOn (h : Exact transcript) (hactive : handshake.hub.manager.activeSubscriptions =
      transcript.handshake.hub.manager.activeSubscriptions)
    (hsymbols : handshake.barsGuidMap = transcript.handshake.barsGuidMap)
    (hawaited : ∀ guid, handshake.awaited = some guid → transcript.handshake.awaited = some guid)
    (hevents : NoRaw events) (hdata : ∀ guid,
      transcript.handshake.isActiveGuid guid = true ∨ transcript.handshake.awaited = some guid →
        dataOf guid (transcript.log ++ received step ++ events.map .told) =
          dataOf guid transcript.log) :
    Exact ⟨handshake, transcript.log ++ received step ++ events.map .told⟩ := by
  have hsame := isActiveGuid_congr hactive
  constructor
  · intro guid hguid
    rw [hsame] at hguid
    exact acknowledged_mono (h.acknowledged guid hguid)
  · intro guid hguid
    rw [hsame] at hguid
    rw [passedOn_read guid _ _ hevents, hdata guid (.inl hguid), hsymbols]
    exact h.passed guid hguid
  · intro guid hguid
    rw [hsame] at hguid
    rw [passedOn_read guid _ _ hevents]
    exact h.inactive guid hguid
  · intro guid hguid
    rw [hdata guid (.inr (hawaited guid hguid))]
    exact h.awaited guid (hawaited guid hguid)

theorem Exact.ack {guid : String} (h : Exact transcript)
    (hawaited : transcript.handshake.awaited = some guid)
    (hafter : ({ transcript.handshake with hub := hub } : Handshake).awaited = none)
    (hactive : hub.manager.activeSubscriptions =
        transcript.handshake.hub.manager.activeSubscriptions ∨
      ∃ subscription, hub.manager.activeSubscriptions =
        transcript.handshake.hub.manager.activeSubscriptions.insert guid subscription)
    (hevents : NoRaw events) (hack : Acknowledges guid value)
    (hnone : (value.get "data").isSome = false) :
    Exact ⟨{ transcript.handshake with hub := hub },
      transcript.log ++ received (.text nowTs (some value)) ++ events.map .told⟩ := by
  -- an ack is no data
  have hdata (other : String) :
      dataOf other (transcript.log ++ received (.text nowTs (some value)) ++ events.map .told) =
        dataOf other transcript.log := by
    rw [received, dataOf_read]
    simp [isDataOf, hnone]
  rcases hactive with hsame | ⟨subscription, hinsert⟩
  · exact h.goesOn hsame rfl (fun other hother => by simp [hafter] at hother) hevents
      fun other _ => hdata other
  -- the other guids are as active as before
  · have hother (other : String) (hne : other ≠ guid) :
        ({ transcript.handshake with hub := hub } : Handshake).isActiveGuid other =
          transcript.handshake.isActiveGuid other := by
      unfold Handshake.isActiveGuid
      rw [hinsert, AList.lookup_insert_ne hne]
    constructor
    · intro other hactive
      by_cases hne : other = guid
      · subst hne
        refine ⟨value, List.mem_append_left _ (List.mem_append_right _ ?_), hack⟩
        exact List.mem_singleton.mpr rfl
      · rw [hother other hne] at hactive
        exact acknowledged_mono (h.acknowledged other hactive)
    · intro other hactive
      rw [passedOn_read other _ _ hevents, hdata]
      by_cases hbefore : transcript.handshake.isActiveGuid other = true
      -- data came for this guid only after the ack
      · exact h.passed other hbefore
      · rw [Bool.not_eq_true] at hbefore
        have hsame : other = guid := by
          by_contra hne
          simp [hother other hne, hbefore] at hactive
        subst hsame
        rw [h.inactive other hbefore, h.awaited other hawaited, List.map_nil]
    · intro other hinactive
      rw [passedOn_read other _ _ hevents]
      refine h.inactive other ?_
      by_cases hne : other = guid
      · simp [Handshake.isActiveGuid, hinsert, hne] at hinactive
      · rw [← hother other hne]
        exact hinactive
    · intro other hawaits
      simp [hafter] at hawaits

theorem Exact.pass {before : List WsEvent} {generation : ℕ} (h : Exact transcript)
    (hactive : ∀ guid, guidOf value = some guid → transcript.handshake.isActiveGuid guid = true)
    (hawaited : ∀ guid, guidOf value = some guid → transcript.handshake.awaited ≠ some guid)
    (hbefore : NoRaw before) :
    Exact ⟨transcript.handshake,
      transcript.log ++ received (.text nowTs (some value)) ++
        (before ++ [WsEvent.raw (attachSymbol transcript.handshake.barsGuidMap value) generation]).map
          .told⟩ := by
  -- the message adds itself to what was passed on under its guid
  have hpassed (guid : String) :
      passedOn guid (transcript.log ++ received (.text nowTs (some value)) ++
        (before ++ [WsEvent.raw (attachSymbol transcript.handshake.barsGuidMap value) generation]).map
          .told) =
      passedOn guid transcript.log ++
        if isDataOf guid value then [attachSymbol transcript.handshake.barsGuidMap value] else [] := by
    rw [List.map_append, ← List.append_assoc, passedOn_append, passedOn_read guid _ _ hbefore]
    congr 1
    rw [← isDataOf_attachSymbol guid transcript.handshake.barsGuidMap value]
    unfold passedOn
    split_ifs with hdata <;> simp [hdata]
  constructor
  · intro guid hguid
    exact acknowledged_mono (h.acknowledged guid hguid)
  · intro guid hguid
    rw [hpassed, received, dataOf_read, List.map_append, h.passed guid hguid]
    split_ifs <;> rfl
  -- a guid that is not active is not that of the message
  · intro guid hguid
    rw [hpassed, h.inactive guid hguid, isDataOf_eq_false, if_neg Bool.false_ne_true,
      List.append_nil]
    intro hsame
    simp [hactive guid hsame] at hguid
  · intro guid hguid
    rw [received, dataOf_read, h.awaited guid hguid, isDataOf_eq_false, if_neg Bool.false_ne_true,
      List.append_nil]
    exact fun hsame => hawaited guid hsame hguid

theorem Exact.text {value : Option Json} (h : Exact transcript)
    (hstepped : Handshake.Stepped transcript.handshake (.text nowTs value) handshake events)
    (hacked : AckedBySuccess transcript (.text nowTs value)) :
    Exact ⟨handshake, transcript.log ++ received (.text nowTs value) ++ events.map .told⟩ := by
  cases hstepped with
  | unread hevents =>
    exact h.goesOn rfl rfl (fun guid hguid => hguid) hevents fun guid _ => dataOf_unread guid _ _
  | @ack nowTs value guid hub events hguid hawaited hafter hactive hevents =>
    obtain ⟨hack, hnone⟩ := hacked nowTs value guid rfl hguid hawaited
    exact h.ack hawaited hafter hactive hevents hack hnone
  | pass hactive hawaited hbefore => exact h.pass hactive hawaited hbefore
  | @ignore nowTs value guid events hguid hactive hawaited hevents =>
    refine h.goesOn rfl rfl (fun guid hguid => hguid) hevents fun other hother => ?_
    have hne : guidOf value ≠ some other := by
      intro hsame
      obtain rfl := Option.some.inj (hguid.symm.trans hsame)
      rcases hother with hother | hother
      · simp [hactive] at hother
      · exact hawaited hother
    rw [received, dataOf_read, isDataOf_eq_false hne, if_neg Bool.false_ne_true, List.append_nil]

theorem Exact.ackFailed (h : Exact transcript)
    (hstepped : Handshake.Stepped transcript.handshake .ackFailed handshake events) :
    Exact ⟨handshake, transcript.log ++ received .ackFailed ++ events.map .told⟩ := by
  cases hstepped with
  | @ackFailed hub events hafter hactive hevents =>
    exact h.goesOn hactive rfl (fun guid hguid => by simp [hafter] at hguid) hevents
      fun guid _ => dataOf_unread guid _ _

theorem Exact.act (h : Exact transcript) (hnew : SendsNew transcript step)
    (hacked : AckedBySuccess transcript step) : Exact (transcript.act config step).1 := by
  unfold Transcript.act
  cases hstep : transcript.handshake.step config step with
  | none => exact h
  | some result =>
    obtain ⟨handshake, events⟩ := result
    have hstepped := Handshake.stepped_of_step hstep
    cases step with
    | send guid => exact h.send hstepped hnew
    | text nowTs value => exact h.text hstepped hacked
    | ackFailed => exact h.ackFailed hstepped

/-- As long as the first message of each subscription is an ack that tells success and carries no
data, every active subscription was acknowledged, and all of its data was passed on once, in order,
with its symbol. -/
theorem handshake_exact (config : HubConfig) (generation : ℕ) (steps : List HandshakeStep)
    (hnew : Always (act config) SendsNew (start config generation) steps)
    (hacked : Always (act config) AckedBySuccess (start config generation) steps)
    (guid : String)
    (hactive : (after (act config) (start config generation) steps).handshake.isActiveGuid guid =
      true) :
    (∃ value, .received value ∈ (after (act config) (start config generation) steps).log ∧
        Acknowledges guid value) ∧
      passedOn guid (after (act config) (start config generation) steps).log =
        (dataOf guid (after (act config) (start config generation) steps).log).map (attachSymbol
          (after (act config) (start config generation) steps).handshake.barsGuidMap) := by
  have hboth : Always (act config)
      (fun transcript step => SendsNew transcript step ∧ AckedBySuccess transcript step)
      (start config generation) steps :=
    always_iff.mpr fun before step rest hsteps =>
      ⟨always_iff.mp hnew before step rest hsteps, always_iff.mp hacked before step rest hsteps⟩
  have hexact := after_invariant (I := Exact) (fun transcript step h hstep => h.act hstep.1 hstep.2)
    (exact_start generation) hboth
  exact ⟨hexact.acknowledged guid hactive, hexact.passed guid hactive⟩

/-! ### One subscription -/

def oneSymbolHub : HubConfig := ⟨["IMOEXF"], "D1", false, 3⟩

def ackMessage (code : Fin (2 ^ 64)) : Json :=
  .object [("requestGuid", .string guid), ("httpCode", .number (.posInt code))]

def dataMessage : Json :=
  .object [("guid", .string guid), ("data", .object [("time", .number (.posInt 900))])]

def acknowledgedBars : List HandshakeStep :=
  [.send "g", .text 1000 (some (ackMessage "g" 200)), .text 1001 (some (dataMessage "g"))]

/-- The bar is passed on with its symbol. -/
theorem handshake_exact_acknowledgedBars :
    (∃ value, .received value ∈ (after (act oneSymbolHub) (start oneSymbolHub 1)
        acknowledgedBars).log ∧ Acknowledges "g" value) ∧
      passedOn "g" (after (act oneSymbolHub) (start oneSymbolHub 1) acknowledgedBars).log =
        (dataOf "g" (after (act oneSymbolHub) (start oneSymbolHub 1) acknowledgedBars).log).map
          (attachSymbol (after (act oneSymbolHub) (start oneSymbolHub 1)
            acknowledgedBars).handshake.barsGuidMap) := by
  refine handshake_exact oneSymbolHub 1 acknowledgedBars ⟨?_, ?_, ?_, trivial⟩ ⟨?_, ?_, ?_, trivial⟩
    "g" (by decide +kernel)
  · rintro guid hsend
    cases hsend
    exact ⟨rfl, rfl⟩
  · rintro guid hsend
    cases hsend
  · rintro guid hsend
    cases hsend
  · rintro nowTs value guid hread
    cases hread
  · rintro nowTs value guid hread hguid -
    cases hread
    cases hguid
    exact ⟨⟨rfl, rfl⟩, rfl⟩
  · rintro nowTs value guid hread hguid hawaited
    cases hread
    have hnone : (after (act oneSymbolHub) (start oneSymbolHub 1)
        [.send "g", .text 1000 (some (ackMessage "g" 200))]).handshake.awaited = none := by
      decide +kernel
    cases hnone.symm.trans hawaited

/-- An ack that tells an error makes the subscription active. -/
theorem errorAck_active :
    ¬∀ (config : HubConfig) (generation : ℕ) (steps : List HandshakeStep),
      Always (act config) SendsNew (start config generation) steps →
      ∀ guid, (after (act config) (start config generation) steps).handshake.isActiveGuid guid =
          true →
        (∃ value, .received value ∈ (after (act config) (start config generation) steps).log ∧
            Acknowledges guid value) ∧
          passedOn guid (after (act config) (start config generation) steps).log =
            (dataOf guid (after (act config) (start config generation) steps).log).map (attachSymbol
              (after (act config) (start config generation) steps).handshake.barsGuidMap) := by
  intro h
  -- both steps are of a subscription that is new
  have hnew : Always (act oneSymbolHub) SendsNew (start oneSymbolHub 1)
      [.send "g", .text 1000 (some (ackMessage "g" 400))] := by
    refine ⟨fun guid hsend => ?_, fun guid hsend => ?_, trivial⟩
    · cases hsend
      exact ⟨rfl, rfl⟩
    · cases hsend
  obtain ⟨⟨value, hmem, -, hcode⟩, -⟩ := h oneSymbolHub 1
    [.send "g", .text 1000 (some (ackMessage "g" 400))] hnew "g" (by decide +kernel)
  have hlog : (after (act oneSymbolHub) (start oneSymbolHub 1)
      [.send "g", .text 1000 (some (ackMessage "g" 400))]).log =
        [.told (.subscriptionStats 1 0 ⟨1, 0, 0⟩ 1), .received (ackMessage "g" 400),
          .told (.wsRx 1000 1), .told (.subscriptionAck "bars" 1),
          .told (.subscriptionStats 1 1 ⟨0, 0, 0⟩ 1)] := rfl
  have hvalue : value = ackMessage "g" 400 := by
    rw [hlog] at hmem
    simpa using hmem
  rw [hvalue] at hcode
  revert hcode
  decide

end Transcript

end AlorRs.Gateway
