import AlorRs.StrategyRuntime.Equiv.RiAuthor4142Live.Frames

/-!
# Exits that are due

A confirmed position should not be carried into another day, and a stop of the BO component should
be sent again if its exit was undone.  The strategy remembers neither: on every bar it only asks
whether the bar gives an exit.  So an exit that is due is sent exactly when that bar gives one
(`always_exitsSent_iff`).
-/

namespace AlorRs.RiAuthor4142

open RiAuthor4142LiveStrategy

open MoexAuthor4142 (ModelBar Author42Config)

/-- A position that a component holds. -/
structure Holding where
  component : RiAuthor4142Component
  side : RiAuthor4142Side
  entryTsLocal : NaiveDateTime

def exitOrder (config : RiAuthor4142LiveConfig) (component : RiAuthor4142Component)
    (side : RiAuthor4142Side) : Intent :=
  let comment := "ri_author41_42:" ++ config.profileId ++ ":" ++ component.asStr ++ ":" ++
    RiAuthor4142CandidateRole.exit.asStr
  let intent := (Intent.market config.qty side.exitOrderSide none (some comment)).withClass .exit
  if config.routedSymbol = config.symbol then intent else intent.withSymbol config.routedSymbol

namespace RiAuthor4142LiveStrategy

variable (s : RiAuthor4142LiveStrategy)

def holdings : List Holding :=
  if s.phaseForTest.any Phase.keepsPositions then
    (s.liveMr.position.map fun position =>
        ⟨.author41Mr, position.side, position.entryTsLocal⟩).toList ++
      (s.liveBo.position.map fun position =>
        ⟨.author42Bo, position.side, position.entryTsLocal⟩).toList
  else []

/-- Whether a stop of the BO component waits for the next bar. -/
def hasStop : Bool :=
  match s.liveBo.pending with
  | some (.exit _) => true
  | _ => false

/-- What makes a bar close the position of a component: for the MR component the stop, the take, the
time exit and the break-even of the bar, and for the BO component a stop that waits or the exit
time. -/
def exitSignal (bar : ModelBar) : RiAuthor4142Component → Bool
  | .author41Mr => s.liveMr.position.any fun position =>
      (mrExitSignal { position with barsHeld := saturatingSucc 32 position.barsHeld } bar).isSome
  | .author42Bo => s.hasStop || s.config.author42Config.exitTime.le bar.tsLocal.time

/-- Whether an exit is on its way, was put off, or is given by a bar. -/
def givesExit (bar : ModelBar) (component : RiAuthor4142Component) : Bool :=
  s.phaseIs .livePendingExit || s.phaseIs .liveDeferredExit || s.exitSignal bar component

def modelBarOf : LiveEvent → Option ModelBar
  | .bar ctx bar => s.runtimeAdapterModelBar ctx bar
  | _ => none

end RiAuthor4142LiveStrategy

/-! ### Runs -/

/-- A live run, with the dates of the live bars of the model since a component took its slot,
whether the order of the last bar is the exit of a stop, and whether such an exit was undone since
the last live bar of the model. -/
structure ExitRun where
  run : LiveRun
  dates : List NaiveDate
  stopSent : Bool
  stopUndone : Bool

namespace ExitRun

variable (r : ExitRun)

/-- Whether an event makes the runtime go back to the state before the order of the last bar. -/
def undoes : LiveEvent → Bool
  | .dropped => r.run.undo.isSome
  | .blocked ctx event =>
    r.run.undo.isSome && (onIntentBlocked r.run.strategy ctx event).2 = .rollback
  | _ => false

def step (env : Environment) (r : ExitRun) (e : LiveEvent) : ExitRun × List Intent :=
  let (run, intents) := LiveRun.step env r.run e
  let modelBar := r.run.strategy.modelBarOf e
  ({ run := run
     dates :=
      if run.strategy.occupiedSlots = 0 then []
      else r.dates ++ (modelBar.map fun bar => bar.tsLocal.date).toList
     stopSent := modelBar.isSome && r.run.strategy.hasStop && !intents.isEmpty
     stopUndone := r.stopSent && r.undoes e || r.stopUndone && modelBar.isNone }, intents)

def start (config : RiAuthor4142LiveConfig) : ExitRun := ⟨LiveRun.start config, [], false, false⟩

/-- The exit of a position is due on a bar: the first of a day after that of the entry, or the next
one after the exit of a stop was undone. -/
def Due (bar : ModelBar) (h : Holding) : Prop :=
  (h.entryTsLocal.date < bar.tsLocal.date ∧ ∀ date ∈ r.dates, ¬h.entryTsLocal.date < date) ∨
    h.component = .author42Bo ∧ r.stopUndone = true

instance (r : ExitRun) (bar : ModelBar) (h : Holding) : Decidable (r.Due bar h) :=
  inferInstanceAs (Decidable ((_ ∧ ∀ date ∈ r.dates, _) ∨ _ ∧ _))

def ExitsSent (env : Environment) (r : ExitRun) (e : LiveEvent) : Prop :=
  ∀ bar ∈ r.run.strategy.modelBarOf e, ∀ h ∈ r.run.strategy.holdings, r.Due bar h →
    r.run.strategy.phaseIs .livePendingExit = true ∨
      exitOrder r.run.strategy.config h.component h.side ∈ (LiveRun.step env r.run e).2

instance (env : Environment) (r : ExitRun) (e : LiveEvent) : Decidable (r.ExitsSent env e) :=
  inferInstanceAs (Decidable (∀ bar ∈ r.run.strategy.modelBarOf e,
    ∀ h ∈ r.run.strategy.holdings, r.Due bar h → _ ∨ _))

/-- Every exit that is due is given by the bar, unless one is on its way or was put off. -/
def ExitsGiven (e : LiveEvent) : Prop :=
  ∀ bar ∈ r.run.strategy.modelBarOf e, ∀ h ∈ r.run.strategy.holdings, r.Due bar h →
    r.run.strategy.givesExit bar h.component = true

end ExitRun

/-! ### One bar -/

section Bars

variable {s : RiAuthor4142LiveStrategy} {v : View}

theorem emitExitIntent_snd (component : RiAuthor4142Component) (side : RiAuthor4142Side)
    (entryTsLocal : NaiveDateTime) (bar : ModelBar) (reason transitionReason decisionKey : String)
    (pnlPoints : ℚ) :
    (s.emitExitIntent component side entryTsLocal bar reason transitionReason decisionKey
      pnlPoints).2 = exitOrder s.config component side := by
  show candidateIntent s.config _ = _
  unfold candidateIntent exitOrder RiAuthor4142LiveConfig.routedSymbol
  cases s.config.orderSymbol with
  | none =>
    dsimp only [Option.getD_none]
    rw [if_pos rfl]
    rfl
  | some orderSymbol =>
    dsimp only [Option.getD_some]
    by_cases hsymbol : orderSymbol = s.config.symbol
    · rw [if_neg (not_not.mpr hsymbol), if_pos hsymbol]
      rfl
    · rw [if_pos hsymbol, if_neg hsymbol]
      rfl

theorem Shows.inPosition (h : Shows s v) (hphase : v.phase = .liveInPosition) :
    s.phaseIs .livePendingEntry = false ∧ s.phaseIs .livePendingExit = false ∧
      s.phaseIs .liveDeferredExit = false ∧ s.phaseBlocksFreshEntries = false ∧
        s.phaseIs .flat = false := by
  unfold phaseBlocksFreshEntries phaseIs
  rw [h.phase, hphase]
  exact ⟨rfl, rfl, rfl, rfl, rfl⟩

/-- In position a new date leaves the slots alone. -/
theorem unseen_startMrDate (hflat : s.phaseIs .flat = false) (bar : ModelBar) :
    Unseen s (s.startMrDate bar) ∧ (s.startMrDate bar).liveBo = s.liveBo := by
  unfold startMrDate
  simp only [hflat, Bool.false_eq_true, if_false]
  split_ifs
  · exact ⟨⟨rfl, rfl, rfl, rfl⟩, rfl⟩
  · exact ⟨.refl s, rfl⟩

theorem liveMrIntentsForBar_held (h : Shows s v) (hphase : v.phase = .liveInPosition)
    {position : RiAuthor4142LiveMrPosition} (hposition : s.liveMr.position = some position)
    (bar : ModelBar) :
    (s.liveMrIntentsForBar bar).2 =
      if s.exitSignal bar .author41Mr then [exitOrder s.config .author41Mr position.side]
      else [] := by
  obtain ⟨hentry, hexit, hdeferred, hblocked, hflat⟩ := h.inPosition hphase
  obtain ⟨hunseen, -⟩ := unseen_startMrDate hflat bar
  have hstarted : (s.startMrDate bar).liveMr.position = some position := hunseen.mr.trans hposition
  unfold liveMrIntentsForBar exitSignal
  rw [hentry, hexit, hdeferred, hblocked, hposition, Option.any_some]
  simp only [Bool.false_eq_true, if_false, hstarted]
  unfold holdMr
  dsimp only
  cases hsignal : mrExitSignal { position with barsHeld := saturatingSucc 32 position.barsHeld } bar with
  | none => rfl
  | some exit =>
    rw [Option.isSome_some, if_pos rfl]
    dsimp only
    unfold emitMrExitIntent
    rw [emitExitIntent_snd]
    show [exitOrder (s.startMrDate bar).config _ _] = _
    rw [hunseen.config]

/-- While the BO component has a position in position, the MR component sends nothing. -/
theorem liveMrIntentsForBar_of_bo (h : Shows s v) (hphase : v.phase = .liveInPosition)
    (hmr : s.liveMr.position = none) (hbo : s.liveBo.position.isSome = true) (bar : ModelBar) :
    s.liveMrIntentsForBar bar = (s.startMrDate bar, []) := by
  obtain ⟨hentry, hexit, hdeferred, hblocked, hflat⟩ := h.inPosition hphase
  obtain ⟨hunseen, hliveBo⟩ := unseen_startMrDate hflat bar
  unfold liveMrIntentsForBar
  rw [hentry, hexit, hdeferred, hblocked]
  simp only [Bool.false_eq_true, if_false, hunseen.mr.trans hmr, hliveBo, hbo, if_true, ite_self]

/-- What a bar of the session tells about its levels leaves alone what waits. -/
theorem pending_context (bar : ModelBar) (config : Author42Config) :
    (match s.liveBo.context with
      | none => s
      | some context =>
        if s.liveBo.barIndex = 5 then s.setBoLevels bar config context else s).liveBo.pending =
      s.liveBo.pending := by
  have hlevels : ∀ context, (s.setBoLevels bar config context).liveBo.pending =
      s.liveBo.pending := by
    intro context
    unfold setBoLevels
    cases s.liveBo.firstBar <;> dsimp only <;> split_ifs <;> rfl
  cases s.liveBo.context with
  | none => rfl
  | some context =>
    split_ifs
    · exact hlevels context
    · rfl

/-- A bar starts no session while the component holds a position. -/
theorem pending_observeBoBar (hbo : s.liveBo.position.isSome = true) (bar : ModelBar)
    (config : Author42Config) : (s.observeBoBar bar config).liveBo.pending = s.liveBo.pending := by
  have hheld : s.liveBo.position.isNone = false := Option.isNone_eq_false_iff.mpr hbo
  unfold observeBoBar
  extract_lets exitPending started src extremes noted src'
  have hstarted : started = s := by
    unfold started
    rw [hheld, Bool.and_false, Bool.false_and, if_neg Bool.false_ne_true]
  split_ifs
  · rw [hstarted]
  · have hnoted : noted.liveBo.pending = extremes.liveBo.pending := pending_context bar config
    show noted.liveBo.pending = _
    rw [hnoted, ← hstarted]

variable {position : RiAuthor4142LiveBoPosition}

theorem manageBo_held (hposition : s.liveBo.position = some position) (bar : ModelBar)
    (config : Author42Config) :
    (s.manageBo bar config).2 =
      if config.exitTime.le bar.tsLocal.time then [exitOrder s.config .author42Bo position.side]
      else [] := by
  unfold manageBo
  rw [hposition]
  unfold holdBo
  dsimp only
  split_ifs with hexit
  · show [(emitExitIntent _ _ _ _ _ _ _ _ _).2] = _
    rw [emitExitIntent_snd]
  · split <;> rfl

theorem takeBoEntry_held (hheld : s.liveMr.position.isSome = true ∨ s.liveBo.position.isSome = true)
    (side : RiAuthor4142Side) (bar : ModelBar) (config : Author42Config) :
    s.takeBoEntry side bar config = (s, []) := by
  have hslots : (s.liveMr.position.isNone && s.liveBo.position.isNone) = false := by
    rcases hheld with hmr | hbo
    · rw [Option.isNone_eq_false_iff.mpr hmr, Bool.false_and]
    · rw [Option.isNone_eq_false_iff.mpr hbo, Bool.and_false]
  unfold takeBoEntry
  simp only [hslots, Bool.false_eq_true, if_false, ite_self]

theorem actBo_held (hposition : s.liveBo.position = some position) (bar : ModelBar)
    (config : Author42Config) :
    (s.actBo bar config).2 = if s.hasStop || config.exitTime.le bar.tsLocal.time then
        [exitOrder s.config .author42Bo position.side]
      else [] := by
  unfold actBo hasStop
  dsimp only
  generalize htaken : ({ s with liveBo := { s.liveBo with pending := none } } :
    RiAuthor4142LiveStrategy) = taken
  have hconfig : taken.config = s.config := by rw [← htaken]
  have hheld : taken.liveBo.position = some position := by
    rw [← htaken]
    exact hposition
  have hmanaged : ∀ intents, (taken.settleBo bar config intents).2 =
      intents ++ (taken.manageBo bar config).2 := fun _ => rfl
  rw [← hconfig]
  cases s.liveBo.pending with
  | none => exact (hmanaged []).trans (manageBo_held hheld ..)
  | some pending =>
    cases pending with
    | entry side =>
      dsimp only
      rw [takeBoEntry_held (.inr (Option.isSome_of_eq_some hheld))]
      exact (hmanaged []).trans (manageBo_held hheld ..)
    | exit reason =>
      rw [hposition]
      show [(emitExitIntent _ _ _ _ _ _ _ _ _).2] = _
      rw [emitExitIntent_snd, Bool.true_or, if_pos rfl]

/-- The BO component acts for nothing while the MR component holds a position. -/
theorem actBo_of_mr (hmr : s.liveMr.position.isSome = true) (hbo : s.liveBo.position = none)
    (bar : ModelBar) (config : Author42Config) : (s.actBo bar config).2 = [] := by
  have hsettle : ∀ s : RiAuthor4142LiveStrategy, s.liveBo.position = none →
      (s.settleBo bar config []).2 = [] := by
    intro s hnone
    unfold settleBo manageBo
    rw [hnone]
    rfl
  unfold actBo
  dsimp only
  generalize htaken : ({ s with liveBo := { s.liveBo with pending := none } } :
    RiAuthor4142LiveStrategy) = taken
  have hmr' : taken.liveMr.position.isSome = true := by
    rw [← htaken]
    exact hmr
  have hbo' : taken.liveBo.position = none := by
    rw [← htaken]
    exact hbo
  split
  · exact hsettle taken hbo'
  · rw [takeBoEntry_held (.inl hmr')]
    exact hsettle taken hbo'
  · rw [hbo]
    exact hsettle taken hbo'

theorem liveBoIntentsForBar_held (h : Shows s v) (hphase : v.phase = .liveInPosition)
    (hposition : s.liveBo.position = some position) (bar : ModelBar) :
    (s.liveBoIntentsForBar bar).2 =
      if s.exitSignal bar .author42Bo then [exitOrder s.config .author42Bo position.side]
      else [] := by
  have hobserved := unseen_observeBoBar (s := s) bar s.config.author42Config
  obtain ⟨hentry, hexit, hdeferred, hblocked, -⟩ := (h.unseen hobserved).inPosition hphase
  have hpending := pending_observeBoBar (s := s) (Option.isSome_of_eq_some hposition) bar
    s.config.author42Config
  have hstop : (s.observeBoBar bar s.config.author42Config).hasStop = s.hasStop := by
    unfold hasStop
    rw [hpending]
  unfold liveBoIntentsForBar exitSignal
  simp only [hentry, hexit, hdeferred, hblocked, Bool.false_eq_true, if_false]
  rw [actBo_held (hobserved.bo.trans hposition), hstop, hobserved.config]

/-- While the MR component has a position in position, the BO component sends nothing. -/
theorem liveBoIntentsForBar_of_mr (h : Shows s v) (hphase : v.phase = .liveInPosition)
    (hmr : s.liveMr.position.isSome = true) (hbo : s.liveBo.position = none) (bar : ModelBar) :
    (s.liveBoIntentsForBar bar).2 = [] := by
  have hobserved := unseen_observeBoBar (s := s) bar s.config.author42Config
  obtain ⟨hentry, hexit, hdeferred, hblocked, -⟩ := (h.unseen hobserved).inPosition hphase
  unfold liveBoIntentsForBar
  simp only [hentry, hexit, hdeferred, hblocked, Bool.false_eq_true, if_false]
  exact actBo_of_mr (hobserved.mr ▸ hmr) (hobserved.bo.trans hbo) ..

/-- While an exit is put off, a bar sends that of the component that holds the position. -/
theorem liveIntentsForBar_deferred (h : Shows s v) (hphase : v.phase = .liveDeferredExit)
    (bar : ModelBar) :
    (∀ position ∈ s.liveMr.position,
      exitOrder s.config .author41Mr position.side ∈ (s.liveIntentsForBar bar).2) ∧
    ∀ position ∈ s.liveBo.position, s.liveMr.position = none →
      exitOrder s.config .author42Bo position.side ∈ (s.liveIntentsForBar bar).2 := by
  -- the phase settles the branches of both components
  have hdeferred : ∀ s : RiAuthor4142LiveStrategy, Shows s v →
      s.phaseIs .livePendingEntry = false ∧ s.phaseIs .livePendingExit = false ∧
        s.phaseIs .liveDeferredExit = true := by
    intro s h
    unfold phaseIs
    rw [h.phase, hphase]
    exact ⟨rfl, rfl, rfl⟩
  obtain ⟨hentry, hexit, hput⟩ := hdeferred s h
  unfold liveIntentsForBar
  constructor
  · intro position hposition
    apply List.mem_append_left
    unfold liveMrIntentsForBar
    simp only [hentry, hexit, hput, Bool.false_eq_true, if_false, if_true]
    rw [Option.mem_def.mp hposition]
    show _ ∈ [(emitExitIntent _ _ _ _ _ _ _ _ _).2]
    rw [emitExitIntent_snd]
    exact List.mem_singleton_self _
  · intro position hposition hmr
    apply List.mem_append_right
    -- without a position the first component sends nothing
    have hwaits : s.liveMrIntentsForBar bar = (s, []) := by
      unfold liveMrIntentsForBar
      simp only [hentry, hexit, hput, Bool.false_eq_true, if_false, if_true]
      rw [hmr]
    rw [hwaits]
    -- observing the bar leaves the position of the second one alone
    have hobserved := unseen_observeBoBar (s := s) bar s.config.author42Config
    obtain ⟨hentry, hexit, hput⟩ := hdeferred _ (h.unseen hobserved)
    unfold liveBoIntentsForBar
    simp only [hentry, hexit, hput, Bool.false_eq_true, if_false, if_true]
    rw [hobserved.bo.trans (Option.mem_def.mp hposition)]
    show _ ∈ [(emitExitIntent _ _ _ _ _ _ _ _ _).2]
    rw [emitExitIntent_snd, hobserved.config]
    exact List.mem_singleton_self _

theorem Makes.of_nil {answer : RiAuthor4142LiveStrategy × List Intent} (h : Makes s v answer)
    (hnil : answer.2 = []) : Shows answer.1 v := by
  obtain ⟨-, v', hshows, hmove⟩ := h
  rw [hnil] at hmove
  cases hmove
  exact hshows

/-- In position a bar sends the exit of what the MR component holds just when it gives one. -/
theorem liveIntentsForBar_mr (h : Shows s v) (hphase : v.phase = .liveInPosition)
    {position : RiAuthor4142LiveMrPosition} (hposition : s.liveMr.position = some position)
    (hbo : s.liveBo.position = none) (bar : ModelBar) :
    exitOrder s.config .author41Mr position.side ∈ (s.liveIntentsForBar bar).2 ↔
      s.exitSignal bar .author41Mr = true := by
  have hsent := liveMrIntentsForBar_held h hphase hposition bar
  unfold liveIntentsForBar
  dsimp only
  cases hsignal : s.exitSignal bar .author41Mr with
  | true =>
    rw [hsent, hsignal, if_pos rfl]
    exact iff_of_true (List.mem_append_left _ (List.mem_singleton_self _)) rfl
  | false =>
    rw [hsignal, if_neg Bool.false_ne_true] at hsent
    have hflat : v.phase = .flat → v.mr = false := by
      rw [hphase]
      exact Phase.noConfusion
    have hshows := (makes_liveMrIntentsForBar h hflat bar).of_nil hsent
    have hmr' : (s.liveMrIntentsForBar bar).1.liveMr.position.isSome = true := by
      rw [hshows.mr, ← h.mr, hposition, Option.isSome_some]
    have hbo' : (s.liveMrIntentsForBar bar).1.liveBo.position = none := by
      rw [← Option.not_isSome_iff_eq_none, hshows.bo, ← h.bo, hbo, Option.isSome_none]
      exact Bool.false_ne_true
    rw [hsent, liveBoIntentsForBar_of_mr hshows hphase hmr' hbo', List.nil_append]
    exact iff_of_false List.not_mem_nil Bool.false_ne_true

/-- In position a bar sends the exit of what the BO component holds just when it gives one. -/
theorem liveIntentsForBar_bo (h : Shows s v) (hphase : v.phase = .liveInPosition)
    (hposition : s.liveBo.position = some position) (hmr : s.liveMr.position = none)
    (bar : ModelBar) :
    exitOrder s.config .author42Bo position.side ∈ (s.liveIntentsForBar bar).2 ↔
      s.exitSignal bar .author42Bo = true := by
  obtain ⟨-, -, -, -, hflat⟩ := h.inPosition hphase
  obtain ⟨hunseen, hliveBo⟩ := unseen_startMrDate hflat bar
  have hsent := liveBoIntentsForBar_held (h.unseen hunseen) hphase
    (hunseen.bo.trans hposition) bar
  have hsignal : (s.startMrDate bar).exitSignal bar .author42Bo = s.exitSignal bar .author42Bo := by
    unfold exitSignal hasStop
    rw [hliveBo, hunseen.config]
  unfold liveIntentsForBar
  dsimp only
  rw [liveMrIntentsForBar_of_bo h hphase hmr (Option.isSome_of_eq_some hposition), hsent, hsignal,
    hunseen.config, List.nil_append]
  split_ifs with hexit
  · exact iff_of_true (List.mem_singleton_self _) hexit
  · exact iff_of_false List.not_mem_nil hexit

end Bars

/-! ### A live bar -/

/-- The bookkeeping of a bar leaves the components and their phase alone. -/
structure Booked (s s' : RiAuthor4142LiveStrategy) : Prop where
  config : s'.config = s.config
  phase : s'.phaseForTest = s.phaseForTest
  liveMr : s'.liveMr = s.liveMr
  liveBo : s'.liveBo = s.liveBo

section Booked

variable {s s' s'' : RiAuthor4142LiveStrategy}

theorem Booked.refl (s : RiAuthor4142LiveStrategy) : Booked s s := ⟨rfl, rfl, rfl, rfl⟩

theorem Booked.trans (h : Booked s s') (h' : Booked s' s'') : Booked s s'' where
  config := h'.config.trans h.config
  phase := h'.phase.trans h.phase
  liveMr := h'.liveMr.trans h.liveMr
  liveBo := h'.liveBo.trans h.liveBo

theorem booked_collectDecision (decision : RiAuthor4142ModelDecision) :
    Booked s (s.collectDecision decision).1 := by
  unfold RiAuthor4142LiveStrategy.collectDecision
  split_ifs
  · exact .refl s
  · refine ⟨rfl, ?_, rfl, rfl⟩
    show (s.state.map _).map _ = s.state.map _
    cases s.state <;> rfl

theorem booked_collectIncrementalDecisions (decisions : List RiAuthor4142ModelDecision) :
    Booked s (s.collectIncrementalDecisions decisions).1 := by
  induction decisions generalizing s with
  | nil => exact .refl s
  | cons decision decisions ih => exact (booked_collectDecision decision).trans ih

theorem booked_updateBarState (hlive : s.config.canEmitOrders = true) (env : Environment)
    (bar : BarEvent) : Booked s (s.updateBarState env bar) := by
  have hnote : ∀ dtLocal isModelBar, Booked s (s.noteBar bar dtLocal isModelBar) := by
    intro dtLocal isModelBar
    unfold noteBar
    cases hstate : s.state with
    | none => exact .refl s
    | some saved =>
      have hphase : s.phaseForTest = some saved.phase := congrArg (Option.map _) hstate
      cases isModelBar with
      | true | false => exact ⟨rfl, hphase.symm, rfl, rfl⟩
  unfold updateBarState
  split
  · exact .refl s
  · dsimp only
    split_ifs
    · unfold collectNewDecisions
      rw [(hnote _ _).config, if_pos hlive]
      exact (hnote _ _).trans (booked_collectIncrementalDecisions _)
    · exact hnote _ _

theorem Booked.exitSignal (h : Booked s s') (bar : ModelBar) (component : RiAuthor4142Component) :
    s'.exitSignal bar component = s.exitSignal bar component := by
  unfold RiAuthor4142LiveStrategy.exitSignal hasStop
  rw [h.liveMr, h.liveBo, h.config]

theorem Booked.modelBar (h : Booked s s') (ctx : StrategyCtx) (bar : BarEvent) :
    s'.runtimeAdapterModelBar ctx bar = s.runtimeAdapterModelBar ctx bar := by
  unfold runtimeAdapterModelBar
  rw [h.config]

end Booked

section Held

variable {s : RiAuthor4142LiveStrategy} {v : View} {h : Holding}

/-- A position that the broker has confirmed is that of a slot. -/
theorem mem_holdings (hshows : Shows s v) (hheld : h ∈ s.holdings) :
    v.phase.keepsPositions = true ∧
      ((∃ position ∈ s.liveMr.position, h = ⟨.author41Mr, position.side, position.entryTsLocal⟩) ∨
        ∃ position ∈ s.liveBo.position, h = ⟨.author42Bo, position.side, position.entryTsLocal⟩) := by
  unfold holdings at hheld
  rw [hshows.phase, Option.any_some] at hheld
  split_ifs at hheld with hkeeps
  · refine ⟨hkeeps, ?_⟩
    rw [List.mem_append] at hheld
    rcases hheld with hmr | hbo
    · obtain ⟨position, hposition, rfl⟩ := Option.map_eq_some_iff.mp (Option.mem_toList.mp hmr)
      exact .inl ⟨position, hposition, rfl⟩
    · obtain ⟨position, hposition, rfl⟩ := Option.map_eq_some_iff.mp (Option.mem_toList.mp hbo)
      exact .inr ⟨position, hposition, rfl⟩
  · cases hheld

/-- With one slot taken the other is free. -/
theorem Coupled.bo_eq_none (hcoupled : Coupled v) (hshows : Shows s v)
    (hmr : s.liveMr.position.isSome = true) : s.liveBo.position = none := by
  have hatMostOne := hcoupled.atMostOne
  unfold View.occupied at hatMostOne
  rw [← hshows.mr, ← hshows.bo, hmr] at hatMostOne
  rw [← Option.not_isSome_iff_eq_none]
  intro hbo
  rw [hbo] at hatMostOne
  exact absurd hatMostOne (by decide)

theorem Coupled.mr_eq_none (hcoupled : Coupled v) (hshows : Shows s v)
    (hbo : s.liveBo.position.isSome = true) : s.liveMr.position = none := by
  rw [← Option.not_isSome_iff_eq_none]
  intro hmr
  rw [hcoupled.bo_eq_none hshows hmr] at hbo
  cases hbo

/-- While no exit is on its way, a bar sends the exit of a position just when it gives one or the
exit was put off. -/
theorem exit_mem_liveIntentsForBar_iff (hcoupled : Coupled v) (hshows : Shows s v)
    (hheld : h ∈ s.holdings) (hpending : s.phaseIs .livePendingExit = false) (bar : ModelBar) :
    exitOrder s.config h.component h.side ∈ (s.liveIntentsForBar bar).2 ↔
      s.givesExit bar h.component = true := by
  obtain ⟨hkeeps, hslot⟩ := mem_holdings hshows hheld
  unfold givesExit
  rw [hpending, Bool.false_or, Bool.or_eq_true, hshows.phaseIs_iff]
  cases hphase : v.phase with
  | liveInPosition =>
    rcases hslot with ⟨position, hposition, rfl⟩ | ⟨position, hposition, rfl⟩
    · have hbo := hcoupled.bo_eq_none hshows (Option.isSome_of_eq_some hposition)
      simpa using liveIntentsForBar_mr hshows hphase hposition hbo bar
    · have hmr := hcoupled.mr_eq_none hshows (Option.isSome_of_eq_some hposition)
      simpa using liveIntentsForBar_bo hshows hphase hposition hmr bar
  | livePendingExit =>
    rw [← Bool.not_eq_true, hshows.phaseIs_iff] at hpending
    exact absurd hphase hpending
  | liveDeferredExit =>
    refine iff_of_true ?_ (.inl rfl)
    obtain ⟨hmrSent, hboSent⟩ := liveIntentsForBar_deferred hshows hphase bar
    rcases hslot with ⟨position, hposition, rfl⟩ | ⟨position, hposition, rfl⟩
    · exact hmrSent position hposition
    · exact hboSent position hposition
        (hcoupled.mr_eq_none hshows (Option.isSome_of_eq_some hposition))
  | _ =>
    rw [hphase] at hkeeps
    cases hkeeps

/-- The orders of a live bar of the model are those of the components. -/
theorem onBar_eq (hshows : Shows s v) (hflat : v.phase = .flat → v.mr = false)
    (hlive : s.config.canEmitOrders = true) (env : Environment) {ctx : StrategyCtx}
    {bar : BarEvent} {modelBar : ModelBar}
    (hmodelBar : s.runtimeAdapterModelBar ctx bar = some modelBar) :
    (onBar env s ctx bar).2 = ((s.updateBarState env bar).liveIntentsForBar modelBar).2 := by
  have hbooked := booked_updateBarState hlive env bar
  obtain ⟨hshows', -⟩ := hshows.updateBarState hlive env bar
  have hmakes := makes_liveIntentsForBar hshows' hflat modelBar
  have hadapter := runsProspectiveAdapter_of_canEmitOrders hlive
  rw [← hbooked.config, ← hmakes.1] at hadapter
  unfold onBar
  dsimp only
  rw [hbooked.modelBar, hmodelBar]
  dsimp only
  rw [if_neg (Bool.eq_false_iff.mp hadapter)]

end Held

/-- On every event the exits that are due are sent exactly when they are given. -/
theorem Sound.exitsSent_iff {r : ExitRun} {v : View} (h : Sound r.run v) (env : Environment)
    (e : LiveEvent) : r.ExitsSent env e ↔ r.ExitsGiven e := by
  refine forall₂_congr fun modelBar hmodelBar => forall₃_congr fun held hheld _ => ?_
  cases e with
  | bar ctx bar =>
    have hbooked := booked_updateBarState h.live env bar
    obtain ⟨hshows', -⟩ := h.shows.updateBarState h.live env bar
    cases hpending : r.run.strategy.phaseIs .livePendingExit with
    | true =>
      -- an exit on its way is not sent again
      refine iff_of_true (.inl rfl) ?_
      unfold givesExit
      rw [hpending, Bool.true_or, Bool.true_or]
    | false =>
      -- the bookkeeping of the bar changes no phase
      have hphases : ∀ phase, (r.run.strategy.updateBarState env bar).phaseIs phase =
          r.run.strategy.phaseIs phase := by
        intro phase
        unfold phaseIs
        rw [hbooked.phase]
      have hheld' : held ∈ (r.run.strategy.updateBarState env bar).holdings := by
        unfold holdings
        rw [hbooked.phase, hbooked.liveMr, hbooked.liveBo]
        exact hheld
      have hsent := exit_mem_liveIntentsForBar_iff h.coupled hshows' hheld'
        ((hphases _).trans hpending) modelBar
      have hgives : (r.run.strategy.updateBarState env bar).givesExit modelBar held.component =
          r.run.strategy.givesExit modelBar held.component := by
        unfold givesExit
        rw [hphases, hphases, hbooked.exitSignal]
      rw [hbooked.config, hgives,
        ← onBar_eq h.shows h.coupled.mr_of_flat h.live env hmodelBar] at hsent
      rw [← hsent]
      simp
      rfl
  | _ => cases hmodelBar

/-- In every live run the exits that are due are sent just as long as each is given by the bar that
it is due on, or was put off. -/
theorem always_exitsSent_iff (env : Environment) (config : RiAuthor4142LiveConfig)
    (hlive : config.canEmitOrders = true) (events : List LiveEvent) :
    Reaction.Always (ExitRun.step env) (ExitRun.ExitsSent env) (.start config) events ↔
      Reaction.Always (ExitRun.step env) ExitRun.ExitsGiven (.start config) events := by
  have hstart : ∃ v, Sound (ExitRun.start config).run v := ⟨_, sound_start hlive⟩
  refine Reaction.Always.iff_of_invariant (I := fun r => ∃ v, Sound r.run v) ?_ ?_ hstart
  · rintro r e ⟨v, hv⟩
    exact hv.exitsSent_iff env e
  · rintro r e ⟨v, hv⟩ -
    obtain ⟨v', hv', -⟩ := hv.step env e
    exact ⟨v', hv'⟩

/-- The exits of a day with one entry. -/
theorem always_exitsSent_entering :
    Reaction.Always (ExitRun.step Sample.env) (ExitRun.ExitsSent Sample.env)
        (.start Sample.config) Sample.filled ↔
      Reaction.Always (ExitRun.step Sample.env) ExitRun.ExitsGiven
        (.start Sample.config) Sample.filled :=
  always_exitsSent_iff Sample.env Sample.config rfl Sample.filled

namespace Sample

def barAt (minutes : ℤ) (opened high low close : ℚ) : LiveEvent :=
  .bar (ctx none)
    { symbol := "RIM6", closeTimeUtc := 1777874400 + 60 * minutes, close := close, o := opened,
      h := high, l := low, v := 10, origin := .live }

/-- The next bar after the fill is that of the next day, with a price near the entry. -/
def carried : List LiveEvent := filled ++ [barAt 1440 100050 100120 100030 100100]

/-- The BO component buys after its first hours, and the price falls to its stop. -/
def stopped : List LiveEvent :=
  [.warmup (ctx none)
      [⟨"RIM6", 1777581600, 100000, 100000, 101000, 99000, 10, .history⟩,
        ⟨"RIM6", 1777668000, 100000, 100000, 101000, 99000, 10, .history⟩]] ++
    [0, 10, 20, 30, 40, 50].map (fun minutes => barAt minutes 100500 100600 100450 100500) ++
    [barAt 110 100500 100950 100500 100900, barAt 120 100900 100950 100800 100900,
      .prepared (ctx none) ⟨.other 1, .entry, 1777881600, "RIM6", "market", none⟩,
      .position (ctx none) ⟨"RIM6", 1, false, 100900, 1777881601⟩,
      barAt 130 100900 100900 100250 100300]

def undone : List LiveEvent :=
  stopped ++ [barAt 140 100300 100500 100300 100500, .dropped,
    barAt 150 100500 100950 100500 100900]

end Sample

/-- A short position is carried into the next day, and a stop is forgotten once its exit was
dropped. -/
theorem not_always_exitsSent :
    ¬Reaction.Always (ExitRun.step Sample.env) (ExitRun.ExitsSent Sample.env)
        (.start Sample.config) Sample.carried ∧
      ¬Reaction.Always (ExitRun.step Sample.env) (ExitRun.ExitsSent Sample.env)
        (.start Sample.config) Sample.undone := by
  decide +kernel

end AlorRs.RiAuthor4142
