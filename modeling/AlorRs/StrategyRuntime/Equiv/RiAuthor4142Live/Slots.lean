import AlorRs.Lib.Reaction
import AlorRs.StrategyRuntime.Equiv.RiAuthor4142Live.Moves

/-!
# The two components share one position

In a live run the two components never hold a position both, a bar sends at most one order, and an
entry is sent only while neither holds one and no order is on its way (`always_sharedSlot`).  The
saved phase tells whether one of them holds a position, except that manual intervention leaves what
they hold, and that a restart forgets it.
-/

namespace AlorRs.RiAuthor4142

open RiAuthor4142LiveStrategy

/-! ### Coupled views -/

/-- At most one component holds a position, and only under a phase that goes with it. -/
structure Coupled (v : View) : Prop where
  atMostOne : v.occupied ≤ 1
  phase : v.occupied ≠ 0 → v.phase.isOwned = true ∨ v.phase = .manualInterventionRequired

def View.IsLost (v : View) : Prop := v.phase.isOwned = true ∧ v.occupied = 0

section Views

variable {v v' : View} {phase : Phase}

theorem Coupled.of_free : Coupled ⟨phase, false, false⟩ :=
  ⟨Nat.zero_le 1, fun hslot => absurd rfl hslot⟩

theorem Coupled.mr_of_flat (h : Coupled v) (hflat : v.phase = .flat) : v.mr = false := by
  by_contra hmr
  have hslot : v.occupied ≠ 0 := by
    unfold View.occupied
    rw [Bool.eq_true_of_not_eq_false hmr, Bool.toNat_true]
    omega
  rcases h.phase hslot with howned | hmanual
  · rw [hflat] at howned
    cases howned
  · rw [hflat] at hmanual
    cases hmanual

/-- A position changes its phase to another that goes with it. -/
theorem Coupled.withPhase (h : Coupled v)
    (hphase : phase.isOwned = true ∨ phase = .manualInterventionRequired) :
    Coupled { v with phase := phase } :=
  ⟨h.atMostOne, fun _ => hphase⟩

theorem not_isLost_of_occupied (h : v.occupied ≠ 0) : ¬v.IsLost := fun hlost => h hlost.2

variable {classes : List (Option IntentClass)}

theorem BarMove.coupled (hmove : BarMove v v' classes) (h : Coupled v) : Coupled v' := by
  cases hmove with
  | hold => exact h
  | enterMr | enterBo => exact ⟨le_refl 1, fun _ => .inl rfl⟩
  | exit => exact h.withPhase (.inl rfl)

theorem BarMove.isLost (hmove : BarMove v v' classes) (hlost : v'.IsLost) : v.IsLost := by
  cases hmove with
  | hold => exact hlost
  | enterMr | enterBo => exact absurd hlost (not_isLost_of_occupied Nat.one_ne_zero)
  | exit _ hslot => exact absurd hlost (not_isLost_of_occupied hslot)

theorem BarMove.length_le (hmove : BarMove v v' classes) : classes.length ≤ 1 := by
  cases hmove with
  | hold => exact Nat.zero_le 1
  | enterMr | enterBo | exit => exact le_refl 1

theorem BarMove.of_entry (hmove : BarMove v v' classes) (hentry : some IntentClass.entry ∈ classes) :
    v.occupied = 0 ∧ v.phase.isActive = true := by
  cases hmove with
  | hold => cases hentry
  | enterMr hactive => exact ⟨rfl, hactive⟩
  | enterBo hactive => exact ⟨rfl, hactive⟩
  | exit =>
    rw [List.mem_singleton] at hentry
    cases hentry

theorem BarMove.of_sends (hmove : BarMove v v' classes) (hsends : classes ≠ []) :
    v'.occupied ≠ 0 ∧ v.phase ≠ .livePendingEntry := by
  have hentry : ∀ phase : Phase, phase.isActive = true → phase ≠ .livePendingEntry := by
    rintro phase hactive rfl
    cases hactive
  cases hmove with
  | hold => exact absurd rfl hsends
  | enterMr hactive => exact ⟨Nat.one_ne_zero, hentry _ hactive⟩
  | enterBo hactive => exact ⟨Nat.one_ne_zero, hentry _ hactive⟩
  | exit hphase hslot =>
    refine ⟨hslot, ?_⟩
    rcases hphase with hactive | hdeferred
    · exact hentry _ hactive
    · rw [hdeferred]
      exact Phase.noConfusion

theorem Move.coupled (hmove : Move v v') (h : Coupled v) : Coupled v' := by
  cases hmove with
  | hold => exact h
  | confirm | defer => exact h.withPhase (.inl rfl)
  | settle | miss => exact .of_free
  | intervene => exact h.withPhase (.inr rfl)

theorem Move.isLost (hmove : Move v v') (hlost : v'.IsLost) : v.IsLost := by
  cases hmove with
  | hold => exact hlost
  | confirm hentry => exact ⟨by rw [hentry]; rfl, hlost.2⟩
  | defer howned => exact ⟨howned, hlost.2⟩
  | settle | miss | intervene => cases hlost.1

theorem Phase.isOwned_of_keepsPositions (h : phase.keepsPositions = true) : phase.isOwned = true := by
  cases phase <;> first | rfl | cases h

theorem Coupled.restored (h : Coupled v) (phase : Phase) : Coupled (v.restored phase) := by
  unfold View.restored
  split_ifs with hkeeps
  · exact h.withPhase (.inl (Phase.isOwned_of_keepsPositions hkeeps))
  · exact .of_free

theorem not_isLost_restored (hslot : v.occupied ≠ 0) (hphase : phase ≠ .livePendingEntry) :
    ¬(v.restored phase).IsLost := by
  unfold View.restored
  split_ifs with hkeeps
  · exact not_isLost_of_occupied hslot
  · rintro ⟨howned, -⟩
    cases phase with
    | livePendingEntry => exact hphase rfl
    | liveInPosition | livePendingExit | liveDeferredExit => exact hkeeps rfl
    | _ => cases howned

end Views

/-! ### Runs -/

namespace RiAuthor4142LiveStrategy

variable (s : RiAuthor4142LiveStrategy)

/-- Whether the saved phase is that of a position: entry pending, in position, exit pending or
exit deferred. -/
def ownsPosition : Bool := s.phaseForTest.any Phase.isOwned

def occupiedSlots : ℕ :=
  s.liveMr.position.isSome.toNat + s.liveBo.position.isSome.toNat

end RiAuthor4142LiveStrategy

section Shown

variable {s : RiAuthor4142LiveStrategy} {v : View}

theorem Shows.ownsPosition (h : Shows s v) : s.ownsPosition = v.phase.isOwned := by
  unfold RiAuthor4142LiveStrategy.ownsPosition
  rw [h.phase, Option.any_some]

theorem Shows.occupiedSlots (h : Shows s v) : s.occupiedSlots = v.occupied := by
  unfold RiAuthor4142LiveStrategy.occupiedSlots View.occupied
  rw [h.mr, h.bo]

end Shown

/-- What reaches the strategy of a live runtime. -/
inductive LiveEvent where
  | bar (ctx : StrategyCtx) (bar : BarEvent)
  | ack (ctx : StrategyCtx) (ack : CommandAck)
  | order (ctx : StrategyCtx) (order : OrderEvent)
  | position (ctx : StrategyCtx) (pos : PositionEvent)
  /-- The order of the bar is published. -/
  | prepared (ctx : StrategyCtx) (command : CommandPrepared)
  /-- The guard stops the order of the bar. -/
  | blocked (ctx : StrategyCtx) (event : IntentBlocked)
  /-- The order of the bar is dropped before the guard. -/
  | dropped
  | warmup (ctx : StrategyCtx) (bars : List BarEvent)
  | snapshot (ctx : StrategyCtx) (snapshot : BootstrapSnapshot)
  | restored (ctx : StrategyCtx) (state : RuntimeStateRestored)
  /-- The process starts again, from a state that was saved. -/
  | restart (saved : SavedState)

/-- The strategy, the state to go back to while the order of a bar is neither published nor
stopped, and whether a restart has forgotten the position of the saved phase. -/
structure LiveRun where
  strategy : RiAuthor4142LiveStrategy
  undo : Option SavedState
  lost : Bool

namespace LiveRun

variable (r : LiveRun) (s : RiAuthor4142LiveStrategy)

/-- The run after an event; a position stays forgotten until the phase or a slot changes. -/
def moveTo (undo : Option SavedState) : LiveRun :=
  ⟨s, undo, r.lost && s.ownsPosition && s.occupiedSlots = 0⟩

def rollback : LiveRun :=
  match r.undo with
  | some saved => r.moveTo (s.setState (some saved)) none
  | none => r.moveTo s none

/-- The runtime heeds what the strategy wants done about a blocked order. -/
def heed : RiAuthor4142LiveStrategy × IntentBlockDisposition → LiveRun
  | (s, .keepStrategyState) => r.moveTo s none
  | (s, .rollback) => r.rollback s

def step (env : Environment) (r : LiveRun) : LiveEvent → LiveRun × List Intent
  | .bar ctx bar =>
    let (s, intents) := onBar env r.strategy ctx bar
    (r.moveTo s (if intents.isEmpty then none else r.strategy.state), intents)
  | .ack ctx ack =>
    let (s, intents) := onAck r.strategy ctx ack
    (r.moveTo s none, intents)
  | .order ctx order =>
    let (s, intents) := onOrder r.strategy ctx order
    (r.moveTo s none, intents)
  | .position ctx pos =>
    let (s, intents) := onPosition r.strategy ctx pos
    (r.moveTo s none, intents)
  | .prepared ctx command => (r.moveTo (onCommandPrepared r.strategy ctx command) none, [])
  | .blocked ctx event => (r.heed (onIntentBlocked r.strategy ctx event), [])
  | .dropped => (r.rollback r.strategy, [])
  | .warmup ctx bars => (r.moveTo (warmupFromHistory env r.strategy ctx bars).1 none, [])
  | .snapshot ctx snapshot =>
    let (s, intents) := onBootstrapSnapshot env r.strategy ctx snapshot
    (r.moveTo s none, intents)
  | .restored ctx state =>
    let (s, intents) := onRuntimeStateRestored r.strategy ctx state
    (r.moveTo s none, intents)
  | .restart saved =>
    let s := (new r.strategy.config).setState (some saved)
    (⟨s, none, s.ownsPosition⟩, [])

def start (config : RiAuthor4142LiveConfig) : LiveRun := ⟨new config, none, false⟩

end LiveRun

structure SharedSlot (r r' : LiveRun) (intents : List Intent) : Prop where
  /-- At most one order is sent. -/
  atMostOne : intents.length ≤ 1
  /-- The components never hold a position both. -/
  exclusive : r'.strategy.occupiedSlots ≤ 1
  /-- The phase is that of a position while a component holds one outside manual intervention, and
  while a restart has forgotten it. -/
  phase : r'.strategy.ownsPosition = true ↔
    (r'.strategy.occupiedSlots = 1 ∧ r'.strategy.phaseIs .manualInterventionRequired = false) ∨
      r'.lost = true
  /-- An entry meets two free slots and no order on its way. -/
  entry : ∀ intent ∈ intents, intent.explicitClass = some .entry →
    r.strategy.occupiedSlots = 0 ∧ r.strategy.phaseForTest.any Phase.isActive = true

/-! ### The invariant of a run -/

/-- What is known of a run whose strategy has a view. -/
structure Sound (r : LiveRun) (v : View) : Prop where
  live : r.strategy.config.canEmitOrders = true
  shows : Shows r.strategy v
  coupled : Coupled v
  lost : r.lost = true ↔ v.IsLost
  /-- The order that may be undone has taken a slot, and was not sent while one was on its way. -/
  undo : ∀ saved, r.undo = some saved → v.occupied ≠ 0 ∧ saved.phase ≠ .livePendingEntry

section Steps

variable {r : LiveRun} {v v' : View} {s : RiAuthor4142LiveStrategy}

theorem sound_start {config : RiAuthor4142LiveConfig} (hlive : config.canEmitOrders = true) :
    Sound (LiveRun.start config) ⟨.flat, false, false⟩ where
  live := hlive
  shows := shows_new config
  coupled := .of_free
  lost := by
    constructor
    · intro h
      cases h
    · rintro ⟨howned, -⟩
      cases howned
  undo saved h := by cases h

theorem Sound.moveTo (h : Sound r v) (hshows : Shows s v')
    (hconfig : s.config = r.strategy.config) (hcoupled : Coupled v')
    (hlost : v'.IsLost → v.IsLost) {undo : Option SavedState}
    (hundo : ∀ saved, undo = some saved → v'.occupied ≠ 0 ∧ saved.phase ≠ .livePendingEntry) :
    Sound (r.moveTo s undo) v' where
  live := by
    show s.config.canEmitOrders = true
    rw [hconfig, h.live]
  shows := hshows
  coupled := hcoupled
  lost := by
    show (r.lost && s.ownsPosition && decide (s.occupiedSlots = 0)) = true ↔ v'.IsLost
    rw [hshows.ownsPosition, hshows.occupiedSlots]
    simp only [Bool.and_eq_true, decide_eq_true_eq, h.lost]
    constructor
    · rintro ⟨⟨-, howned⟩, hfree⟩
      exact ⟨howned, hfree⟩
    · intro hlost'
      exact ⟨⟨hlost hlost', hlost'.1⟩, hlost'.2⟩
  undo := hundo

theorem Sound.move (h : Sound r v) (hchanges : Changes r.strategy v s) :
    ∃ v', Sound (r.moveTo s none) v' := by
  obtain ⟨hconfig, v', hshows, hmove⟩ := hchanges
  refine ⟨v', h.moveTo hshows hconfig (hmove.coupled h.coupled) hmove.isLost ?_⟩
  intro saved hsaved
  cases hsaved

theorem Sound.rollback (h : Sound r v) : ∃ v', Sound (r.rollback r.strategy) v' := by
  unfold LiveRun.rollback
  cases hundo : r.undo with
  | none => exact h.move (.hold h.shows rfl)
  | some saved =>
    obtain ⟨hslot, hphase⟩ := h.undo saved hundo
    have hshows := h.shows.setState saved
    have hnotLost := not_isLost_restored hslot hphase
    refine ⟨_, h.moveTo hshows (setState_config saved) (h.coupled.restored saved.phase) ?_ ?_⟩
    · intro hlost
      exact absurd hlost hnotLost
    · intro saved' hsaved'
      cases hsaved'

theorem Sound.heed (h : Sound r v) {answer : RiAuthor4142LiveStrategy × IntentBlockDisposition}
    (hchanges : Changes r.strategy v answer.1)
    (hrollback : answer.2 = .rollback → answer.1 = r.strategy) :
    ∃ v', Sound (r.heed answer) v' := by
  obtain ⟨s, disposition⟩ := answer
  cases disposition with
  | keepStrategyState => exact h.move hchanges
  | rollback =>
    obtain rfl : s = r.strategy := hrollback rfl
    exact h.rollback

theorem Sound.restart (h : Sound r v) (env : Environment) (saved : SavedState) :
    ∃ v', Sound (LiveRun.step env r (.restart saved)).1 v' := by
  have hshows := (shows_new r.strategy.config).setState saved
  have hfree : ((⟨.flat, false, false⟩ : View).restored saved.phase).occupied = 0 := by
    unfold View.restored
    split_ifs <;> rfl
  refine ⟨_, ?_, hshows, Coupled.of_free.restored saved.phase, ?_, ?_⟩
  · show ((new r.strategy.config).setState (some saved)).config.canEmitOrders = true
    rw [setState_config]
    exact h.live
  · show ((new r.strategy.config).setState (some saved)).ownsPosition = true ↔ _
    rw [hshows.ownsPosition]
    constructor
    · intro howned
      exact ⟨howned, hfree⟩
    · intro hlost
      exact hlost.1
  · intro saved' hsaved'
    cases hsaved'

theorem Sound.sharedSlot {r' : LiveRun} {intents : List Intent} (h : Sound r' v')
    (hone : intents.length ≤ 1)
    (hentry : ∀ intent ∈ intents, intent.explicitClass = some .entry →
      r.strategy.occupiedSlots = 0 ∧ r.strategy.phaseForTest.any Phase.isActive = true) :
    SharedSlot r r' intents where
  atMostOne := hone
  exclusive := by
    rw [h.shows.occupiedSlots]
    exact h.coupled.atMostOne
  phase := by
    rw [h.shows.ownsPosition, h.shows.occupiedSlots, h.lost, ← Bool.not_eq_true,
      h.shows.phaseIs_iff]
    have hatMostOne := h.coupled.atMostOne
    constructor
    · intro howned
      by_cases hfree : v'.occupied = 0
      · exact .inr ⟨howned, hfree⟩
      · refine .inl ⟨by omega, ?_⟩
        intro hmanual
        rw [hmanual] at howned
        cases howned
    · rintro (⟨hslot, hnotManual⟩ | hlost)
      · have hphase := h.coupled.phase (show v'.occupied ≠ 0 by omega)
        exact hphase.resolve_right hnotManual
      · exact hlost.1
  entry := hentry

theorem Sound.sharedSlot_nil {r' : LiveRun} (h : Sound r' v') : SharedSlot r r' [] := by
  apply h.sharedSlot
  · exact Nat.zero_le 1
  · intro intent hintent
    cases hintent

theorem Sound.bar (h : Sound r v) (env : Environment) (ctx : StrategyCtx) (bar : BarEvent) :
    ∃ v', Sound (LiveRun.step env r (.bar ctx bar)).1 v' ∧
      SharedSlot r (LiveRun.step env r (.bar ctx bar)).1
        (LiveRun.step env r (.bar ctx bar)).2 := by
  obtain ⟨hconfig, v', hshows, hmove⟩ :=
    makes_onBar h.shows h.coupled.mr_of_flat h.live env ctx bar
  have hsound : Sound (LiveRun.step env r (.bar ctx bar)).1 v' := by
    apply h.moveTo hshows hconfig (hmove.coupled h.coupled) hmove.isLost
    -- the state that may be restored is that of a bar that sends
    intro saved hsaved
    split_ifs at hsaved with hempty
    have hsends : intentClasses (onBar env r.strategy ctx bar).2 ≠ [] := by
      intro hnil
      exact hempty (List.isEmpty_iff.mpr (List.map_eq_nil_iff.mp hnil))
    obtain ⟨hslot, hphase⟩ := hmove.of_sends hsends
    have hsavedPhase : some saved.phase = some v.phase := by
      rw [← h.shows.phase]
      unfold phaseForTest
      rw [hsaved]
      rfl
    rw [← Option.some.inj hsavedPhase] at hphase
    exact ⟨hslot, hphase⟩
  refine ⟨v', hsound, hsound.sharedSlot ?_ ?_⟩
  · have hlength := hmove.length_le
    unfold intentClasses at hlength
    rwa [List.length_map] at hlength
  -- an entry needs both a free slot and an active phase
  · intro intent hintent hclass
    have hmem : some IntentClass.entry ∈ intentClasses (onBar env r.strategy ctx bar).2 :=
      List.mem_map.mpr ⟨intent, hintent, hclass⟩
    obtain ⟨hfree, hactive⟩ := hmove.of_entry hmem
    rw [h.shows.occupiedSlots, h.shows.phase, Option.any_some]
    exact ⟨hfree, hactive⟩

theorem Sound.step (h : Sound r v) (env : Environment) (e : LiveEvent) :
    ∃ v', Sound (LiveRun.step env r e).1 v' ∧
      SharedSlot r (LiveRun.step env r e).1 (LiveRun.step env r e).2 := by
  -- the other events send nothing
  have hsilent (r' : LiveRun) (hsound : ∃ v', Sound r' v') {intents : List Intent}
      (hintents : intents = []) : ∃ v', Sound r' v' ∧ SharedSlot r r' intents := by
    obtain ⟨v', hv'⟩ := hsound
    exact ⟨v', hv', hintents ▸ hv'.sharedSlot_nil⟩
  cases e with
  | bar ctx bar => exact h.bar env ctx bar
  | ack ctx ack =>
    obtain ⟨hchanges, hintents⟩ := changes_onAck h.shows ctx ack
    exact hsilent _ (h.move hchanges) hintents
  | order ctx order => exact hsilent _ (h.move (.hold h.shows rfl)) rfl
  | position ctx pos =>
    obtain ⟨hchanges, hintents⟩ := changes_onPosition h.shows ctx pos
    exact hsilent _ (h.move hchanges) hintents
  | prepared ctx command =>
    exact hsilent _ (h.move (changes_onCommandPrepared h.shows ctx command)) rfl
  | blocked ctx event =>
    obtain ⟨hchanges, hrollback⟩ := changes_onIntentBlocked h.shows ctx event
    exact hsilent _ (h.heed hchanges hrollback) rfl
  | dropped => exact hsilent _ h.rollback rfl
  | warmup ctx bars =>
    exact hsilent _ (h.move (changes_warmupFromHistory h.shows h.live env ctx bars)) rfl
  | snapshot ctx snapshot =>
    obtain ⟨hchanges, hintents⟩ := changes_onBootstrapSnapshot h.shows env ctx snapshot
    exact hsilent _ (h.move hchanges) hintents
  | restored ctx state =>
    obtain ⟨hchanges, hintents⟩ := changes_onRuntimeStateRestored h.shows ctx state
    exact hsilent _ (h.move hchanges) hintents
  | restart saved => exact hsilent _ (h.restart env saved) rfl

end Steps

/-- In every live run each step shares the slot. -/
theorem always_sharedSlot (env : Environment) (config : RiAuthor4142LiveConfig)
    (hlive : config.canEmitOrders = true) (events : List LiveEvent) :
    Reaction.Always (LiveRun.step env)
      (fun r e => SharedSlot r (LiveRun.step env r e).1 (LiveRun.step env r e).2)
      (LiveRun.start config) events := by
  have hstart : ∃ v, Sound (LiveRun.start config) v := ⟨_, sound_start hlive⟩
  apply Reaction.Always.of_invariant (I := fun r => ∃ v, Sound r v) (C := fun _ _ => True) _ hstart
  · exact Reaction.Always.of_forall fun _ _ => trivial
  · rintro r e ⟨v, hv⟩ -
    obtain ⟨v', hv', hshared⟩ := hv.step env e
    exact ⟨hshared, v', hv'⟩

namespace Sample

def config : RiAuthor4142LiveConfig where
  symbol := "RIM6"
  profileId := "ri_author41_42_primary_combo_cost2"
  timeframe := "10m"
  mode := .microLive
  modelFeedPolicy := none
  allowOrderEmission := true
  executionPath := .actionScopedOnly
  orderSymbol := none
  sessionStartTime := .fromHms 9 0 0
  sessionEndTime := .fromHms 23 49 59
  author41EntryEndTime := .fromHms 12 0 0
  author41TimeExit := .fromHms 20 0 0
  author42ExitTime := .fromHms 23 0 0
  author42LastEntryTime := none
  author42MaxEntriesPerDay := none
  excludedModelDates := []
  canonicalAnchorRule := ⟨0, .fromHms 23 59 59, .fromHms 0 0 0⟩
  anchorTransitionRule := none
  qty := 1
  timezoneOffsetHours := 3

def env : Environment where
  finalizedDecisions _ _ _ := []
  recordText _ := ""
  text := ⟨id, fun _ => ""⟩

def ctx (positionQty : Option ℚ) : StrategyCtx where
  strategyId := "ri_author41_42.micro"
  portfolio := "D00001"
  exchange := "MOEX"
  symbol := "RIM6"
  tickSize := 10
  tradeMode := .live
  paperExecutionMode := .liveOnly
  allowLiveOrders := true
  gatewayPhase := .liveReady
  positionQty := positionQty
  eventTsUtc := 1777874400
  nowTsUtc := 1777874400
  lastBarTs := none

def entering : List LiveEvent :=
  [.warmup (ctx none) [⟨"RIM6", 1777668000, 100000, 100000, 101000, 99000, 10, .history⟩],
    .bar (ctx none) ⟨"RIM6", 1777874400, 100100, 100050, 100120, 100030, 10, .live⟩]

def intervened : List LiveEvent :=
  entering ++
    [.ack (ctx (some (-1))) (.rejected (.other 1) "cws_http_400" "unknown instrument" 1777874401)]

/-- The entry is filled, and the process starts again from the state that it has saved. -/
def restarted : List LiveEvent :=
  let filled := entering ++ [.position (ctx none) ⟨"RIM6", -1, false, 100100, 1777874401⟩]
  filled ++
    (Reaction.after (LiveRun.step env) (LiveRun.start config) filled).strategy.state.toList.map
      LiveEvent.restart

end Sample

/-- The orders of a day with one entry. -/
theorem always_sharedSlot_entering :
    Reaction.Always (LiveRun.step Sample.env)
      (fun r e => SharedSlot r (LiveRun.step Sample.env r e).1 (LiveRun.step Sample.env r e).2)
      (LiveRun.start Sample.config) Sample.entering :=
  always_sharedSlot Sample.env Sample.config rfl Sample.entering

/-- Under manual intervention a component holds a position, and after a restart in position none
does. -/
theorem not_always_ownsPosition_iff :
    ¬Reaction.Always (LiveRun.step Sample.env)
        (fun r e =>
          (LiveRun.step Sample.env r e).1.strategy.ownsPosition = true ↔
            (LiveRun.step Sample.env r e).1.strategy.occupiedSlots = 1)
        (LiveRun.start Sample.config) Sample.intervened ∧
      ¬Reaction.Always (LiveRun.step Sample.env)
        (fun r e =>
          (LiveRun.step Sample.env r e).1.strategy.ownsPosition = true ↔
            (LiveRun.step Sample.env r e).1.strategy.occupiedSlots = 1)
        (LiveRun.start Sample.config) Sample.restarted := by
  decide +kernel

end AlorRs.RiAuthor4142
