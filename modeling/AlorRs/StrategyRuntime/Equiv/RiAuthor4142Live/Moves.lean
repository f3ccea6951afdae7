import AlorRs.StrategyRuntime.RiAuthor4142Live.Events
import Mathlib.Tactic.SplitIfs

/-!
# What an event does to the shared position

A `View` is the saved phase and which of the two components holds a position in memory.  `BarMove`
says every change that a bar makes to it, with the classes of its intents (`makes_onBar`), and
`Move` every change that another event makes.
-/

namespace AlorRs.RiAuthor4142

open MoexAuthor4142 RiAuthor4142LiveStrategy

/-! ### Views -/

def Phase.isOwned : Phase → Bool
  | .livePendingEntry | .liveInPosition | .livePendingExit | .liveDeferredExit => true
  | _ => false

/-- The phases in which a bar may open or close a position: no order is on its way, and the
strategy is not halted. -/
def Phase.isActive : Phase → Bool
  | .livePendingEntry | .livePendingExit | .liveDeferredExit | .dryRunInPosition
  | .manualInterventionRequired | .liveEntryMissedRuntimeNotReady => false
  | _ => true

@[ext]
structure View where
  phase : Phase
  mr : Bool
  bo : Bool
deriving DecidableEq

def View.occupied (v : View) : ℕ := v.mr.toNat + v.bo.toNat

/-- A strategy with a saved state of its own has this phase and holds these positions. -/
structure Shows (s : RiAuthor4142LiveStrategy) (v : View) : Prop where
  phase : s.phaseForTest = some v.phase
  mr : s.liveMr.position.isSome = v.mr
  bo : s.liveBo.position.isSome = v.bo

inductive BarMove : View → View → List (Option IntentClass) → Prop
  | hold (v : View) : BarMove v v []
  /-- An entry of the MR component. -/
  | enterMr {phase : Phase} (h : phase.isActive = true) :
    BarMove ⟨phase, false, false⟩ ⟨.livePendingEntry, true, false⟩ [some .entry]
  /-- An entry of the BO component. -/
  | enterBo {phase : Phase} (h : phase.isActive = true) :
    BarMove ⟨phase, false, false⟩ ⟨.livePendingEntry, false, true⟩ [some .entry]
  /-- An exit of what a component holds, for the first time or again. -/
  | exit {v : View} (hphase : v.phase.isActive = true ∨ v.phase = .liveDeferredExit)
    (hslot : v.occupied ≠ 0) : BarMove v { v with phase := .livePendingExit } [some .exit]

/-- What an event other than a bar does to a view. -/
inductive Move : View → View → Prop
  | hold (v : View) : Move v v
  /-- The broker has the entry. -/
  | confirm {v : View} (h : v.phase = .livePendingEntry) : Move v { v with phase := .liveInPosition }
  /-- An exit has to wait for the trading window. -/
  | defer {v : View} (h : v.phase.isOwned = true) : Move v { v with phase := .liveDeferredExit }
  /-- The position is over. -/
  | settle {v : View} (h : v.phase.isOwned = true) : Move v ⟨.flat, false, false⟩
  /-- The runtime was not ready for the entry. -/
  | miss {v : View} (h : v.phase = .livePendingEntry) :
    Move v ⟨.liveEntryMissedRuntimeNotReady, false, false⟩
  /-- The rest is left to an operator. -/
  | intervene (v : View) : Move v { v with phase := .manualInterventionRequired }

def intentClasses (intents : List Intent) : List (Option IntentClass) :=
  intents.map Intent.explicitClass

/-- An answer makes the move of a bar, and leaves the configuration alone. -/
def Makes (s : RiAuthor4142LiveStrategy) (v : View)
    (answer : RiAuthor4142LiveStrategy × List Intent) : Prop :=
  answer.1.config = s.config ∧ ∃ v', Shows answer.1 v' ∧ BarMove v v' (intentClasses answer.2)

section Moves

variable {s : RiAuthor4142LiveStrategy} {v : View} {s' : RiAuthor4142LiveStrategy}

/-- A strategy that differs in nothing that a view shows. -/
theorem Shows.of_eq (h : Shows s v) (hphase : s'.phaseForTest = s.phaseForTest)
    (hmr : s'.liveMr.position.isSome = s.liveMr.position.isSome)
    (hbo : s'.liveBo.position.isSome = s.liveBo.position.isSome) : Shows s' v where
  phase := by rw [hphase, h.phase]
  mr := by rw [hmr, h.mr]
  bo := by rw [hbo, h.bo]

variable {f : SavedState → SavedState}

theorem Shows.updateState {phase : Phase} (h : Shows s v)
    (hf : ∀ saved : SavedState, saved.phase = v.phase → (f saved).phase = phase) :
    Shows (s.updateState f) { v with phase := phase } where
  phase := by
    obtain ⟨saved, hstate, hsaved⟩ := Option.map_eq_some_iff.mp h.phase
    show (s.state.map f).map (fun saved : SavedState => saved.phase) = some phase
    rw [hstate]
    show some (f saved).phase = some phase
    rw [hf saved hsaved]
  mr := h.mr
  bo := h.bo

theorem Shows.updateState_same (h : Shows s v)
    (hf : ∀ saved : SavedState, (f saved).phase = saved.phase) : Shows (s.updateState f) v :=
  h.updateState fun saved hsaved => (hf saved).trans hsaved

theorem Shows.journal (h : Shows s v) (records : List RiAuthor4142JournalRecord) :
    Shows { s with journalRecords := records } v :=
  h.of_eq rfl rfl rfl

theorem Shows.emitLiveCandidate (h : Shows s v) (candidate : RiAuthor4142CandidateIntent)
    (decision : RiAuthor4142ModelDecision) : Shows (s.emitLiveCandidate candidate decision).1 v :=
  h.journal _

theorem Shows.clearLivePositions (h : Shows s v) :
    Shows s.clearLivePositions ⟨v.phase, false, false⟩ where
  phase := h.phase
  mr := rfl
  bo := rfl

theorem Shows.phaseIs_iff (h : Shows s v) {expected : Phase} :
    s.phaseIs expected = true ↔ v.phase = expected := by
  unfold RiAuthor4142LiveStrategy.phaseIs
  rw [h.phase]
  simp

theorem Makes.hold (h : Shows s' v) (hconfig : s'.config = s.config) : Makes s v (s', []) :=
  ⟨hconfig, v, h, .hold v⟩

/-! ### The intents of the components -/

@[simp]
theorem explicitClass_candidateIntent (config : RiAuthor4142LiveConfig)
    (candidate : RiAuthor4142CandidateIntent) :
    (candidateIntent config candidate).explicitClass = some candidate.intentClass := by
  unfold candidateIntent
  split
  · rfl
  · split_ifs <;> rfl

theorem makes_emitEntryIntent {v' : View} (h : Shows s' v') (hconfig : s'.config = s.config)
    (hmove : BarMove v { v' with phase := .livePendingEntry } [some .entry])
    (component : RiAuthor4142Component) (side : RiAuthor4142Side) (tsLocal : NaiveDateTime)
    (reason transitionReason : String) :
    Makes s v
      ((s'.emitEntryIntent component side tsLocal reason transitionReason).1,
        [(s'.emitEntryIntent component side tsLocal reason transitionReason).2]) := by
  refine ⟨hconfig, { v' with phase := .livePendingEntry }, ?_, ?_⟩
  · exact (h.emitLiveCandidate _ _).updateState fun _ _ => rfl
  · have hclass : intentClasses [(s'.emitEntryIntent component side tsLocal reason
        transitionReason).2] = [some .entry] :=
      congrArg (fun c => [c]) (explicitClass_candidateIntent ..)
    rw [hclass]
    exact hmove

theorem makes_emitExitIntent (h : Shows s v)
    (hphase : v.phase.isActive = true ∨ v.phase = .liveDeferredExit) (hslot : v.occupied ≠ 0)
    (component : RiAuthor4142Component) (side : RiAuthor4142Side) (entryTsLocal : NaiveDateTime)
    (bar : ModelBar) (reason transitionReason decisionKey : String) (pnlPoints : ℚ) :
    Makes s v
      ((s.emitExitIntent component side entryTsLocal bar reason transitionReason decisionKey
          pnlPoints).1,
        [(s.emitExitIntent component side entryTsLocal bar reason transitionReason decisionKey
          pnlPoints).2]) := by
  refine ⟨rfl, { v with phase := .livePendingExit }, ?_, ?_⟩
  · exact (h.emitLiveCandidate _ _).updateState fun _ _ => rfl
  · have hclass : intentClasses [(s.emitExitIntent component side entryTsLocal bar reason
        transitionReason decisionKey pnlPoints).2] = [some .exit] :=
      congrArg (fun c => [c]) (explicitClass_candidateIntent ..)
    rw [hclass]
    exact .exit hphase hslot

/-! ### The MR component -/

/-- Where a bar may open or close a position, the phase is none of those that hold it back. -/
theorem isActive_of_not (h : Shows s v) (hentry : ¬s.phaseIs .livePendingEntry = true)
    (hexit : ¬s.phaseIs .livePendingExit = true) (hdeferred : ¬s.phaseIs .liveDeferredExit = true)
    (hblocked : ¬s.phaseBlocksFreshEntries = true) : v.phase.isActive = true := by
  unfold phaseBlocksFreshEntries at hblocked
  simp only [Bool.or_eq_true, not_or] at hblocked
  rw [h.phaseIs_iff] at hentry hexit hdeferred hblocked
  rw [h.phaseIs_iff, h.phaseIs_iff] at hblocked
  obtain ⟨⟨hdry, hmanual⟩, hmissed⟩ := hblocked
  cases hphase : v.phase with
  | flat | liveInPosition | other => rfl
  | livePendingEntry => exact absurd hphase hentry
  | livePendingExit => exact absurd hphase hexit
  | liveDeferredExit => exact absurd hphase hdeferred
  | dryRunInPosition => exact absurd hphase hdry
  | manualInterventionRequired => exact absurd hphase hmanual
  | liveEntryMissedRuntimeNotReady => exact absurd hphase hmissed

/-- The first bar of a date forgets only what a flat phase should not have held. -/
theorem Shows.startMrDate (h : Shows s v) (hflat : v.phase = .flat → v.mr = false)
    (bar : ModelBar) : Shows (s.startMrDate bar) v := by
  unfold RiAuthor4142LiveStrategy.startMrDate
  split_ifs with hdate hphase
  · have hmr := hflat (h.phaseIs_iff.mp hphase)
    exact ⟨h.phase, hmr.symm, h.bo⟩
  · exact h.of_eq rfl rfl rfl
  · exact h

theorem makes_holdMr {position : RiAuthor4142LiveMrPosition} (h : Shows s v)
    (hposition : s.liveMr.position = some position) (hphase : v.phase.isActive = true)
    (bar : ModelBar) : Makes s v (s.holdMr position bar) := by
  have hmr : v.mr = true := by
    rw [← h.mr, hposition]
    rfl
  have hheld : ∀ position' : RiAuthor4142LiveMrPosition,
      Shows { s with liveMr := { s.liveMr with position := some position' } } v :=
    fun position' => ⟨h.phase, hmr.symm, h.bo⟩
  have hslot : v.occupied ≠ 0 := by
    unfold View.occupied
    rw [hmr, Bool.toNat_true]
    omega
  unfold holdMr
  dsimp only
  split
  · exact makes_emitExitIntent (hheld _) (.inl hphase) hslot ..
  · exact .hold (hheld _) rfl

theorem makes_enterMr (h : Shows s v) (hphase : v.phase.isActive = true) (hmr : v.mr = false)
    (hbo : v.bo = false) (bar : ModelBar) (anchor : RiDailyAnchor) (side : RiAuthor4142Side)
    (config : Author41Config) : Makes s v (s.enterMr bar anchor side config) := by
  obtain ⟨phase, mr, bo⟩ := v
  obtain rfl : mr = false := hmr
  obtain rfl : bo = false := hbo
  have hslot : ∀ liveMr : RiAuthor4142LiveMrState, liveMr.position.isSome = true →
      Shows { s with liveMr := liveMr } ⟨phase, true, false⟩ :=
    fun liveMr hsome => ⟨h.phase, hsome, h.bo⟩
  exact makes_emitEntryIntent (hslot _ rfl) rfl (.enterMr hphase) ..

theorem makes_liveMrIntentsForBar (h : Shows s v) (hflat : v.phase = .flat → v.mr = false)
    (bar : ModelBar) : Makes s v (s.liveMrIntentsForBar bar) := by
  unfold liveMrIntentsForBar
  split_ifs with hentry hexit hdeferred hblocked
  · exact .hold h rfl
  · exact .hold h rfl
  · -- an exit that was put off is sent again
    split
    · rename_i position hposition
      have hslot : v.occupied ≠ 0 := by
        have hmr : v.mr = true := by
          rw [← h.mr, hposition]
          rfl
        unfold View.occupied
        rw [hmr, Bool.toNat_true]
        omega
      exact makes_emitExitIntent h (.inr (h.phaseIs_iff.mp hdeferred)) hslot ..
    · exact .hold h rfl
  · exact .hold h rfl
  · have hactive := isActive_of_not h hentry hexit hdeferred hblocked
    have hstart := h.startMrDate hflat bar
    have hconfig : (s.startMrDate bar).config = s.config := by
      unfold startMrDate
      split_ifs <;> rfl
    -- the new date changes nothing of what the view shows
    suffices hmakes : ∀ answer, Makes (s.startMrDate bar) v answer → Makes s v answer by
      dsimp only
      split
      · rename_i position hposition
        exact hmakes _ (makes_holdMr hstart hposition hactive bar)
      · rename_i hposition
        have hmr : v.mr = false := by
          rw [← hstart.mr, hposition]
          rfl
        split_ifs with hquota hbo
        · exact hmakes _ (.hold hstart rfl)
        · exact hmakes _ (.hold hstart rfl)
        · rw [hstart.bo, Bool.not_eq_true] at hbo
          split
          · exact hmakes _ (.hold hstart rfl)
          · exact hmakes _ (makes_enterMr hstart hactive hmr hbo ..)
    intro answer hanswer
    exact ⟨hanswer.1.trans hconfig, hanswer.2⟩

/-! ### The BO component -/

/-- A change that no view shows. -/
structure Unseen (s s' : RiAuthor4142LiveStrategy) : Prop where
  config : s'.config = s.config
  state : s'.state = s.state
  mr : s'.liveMr.position = s.liveMr.position
  bo : s'.liveBo.position = s.liveBo.position

theorem Unseen.refl (s : RiAuthor4142LiveStrategy) : Unseen s s := ⟨rfl, rfl, rfl, rfl⟩

theorem Unseen.trans {s₁ s₂ s₃ : RiAuthor4142LiveStrategy} (h : Unseen s₁ s₂)
    (h' : Unseen s₂ s₃) : Unseen s₁ s₃ where
  config := h'.config.trans h.config
  state := h'.state.trans h.state
  mr := h'.mr.trans h.mr
  bo := h'.bo.trans h.bo

theorem Shows.unseen (h : Shows s v) (hs : Unseen s s') : Shows s' v := by
  apply h.of_eq
  · unfold phaseForTest
    rw [hs.state]
  · rw [hs.mr]
  · rw [hs.bo]

theorem Makes.of_unseen {answer : RiAuthor4142LiveStrategy × List Intent} (h : Makes s' v answer)
    (hs : Unseen s s') : Makes s v answer :=
  ⟨h.1.trans hs.config, h.2⟩

theorem Makes.then_unseen {s'' : RiAuthor4142LiveStrategy} {intents : List Intent}
    (h : Makes s v (s', intents)) (hs : Unseen s' s'') : Makes s v (s'', intents) := by
  obtain ⟨hconfig, v', hshows, hmove⟩ := h
  exact ⟨hs.config.trans hconfig, v', hshows.unseen hs, hmove⟩

/-- A session starts in a slot that the component does not own. -/
theorem unseen_ensureBoSession (hposition : s.liveBo.position = none) (bar : ModelBar) :
    Unseen s (s.ensureBoSession bar) := by
  unfold ensureBoSession
  dsimp only
  split_ifs with hdate
  · exact .refl s
  · exact ⟨rfl, rfl, rfl, hposition.symm⟩

variable (bar : ModelBar) (config : Author42Config)

theorem unseen_setBoLevels (context : RiAuthor4142LiveBoContext) :
    Unseen s (s.setBoLevels bar config context) := by
  unfold setBoLevels
  cases s.liveBo.firstBar with
  | none =>
    split_ifs
    · exact ⟨rfl, rfl, rfl, rfl⟩
    · exact .refl s
  | some firstBar =>
    split_ifs <;> exact ⟨rfl, rfl, rfl, rfl⟩

theorem unseen_context :
    Unseen s
      (match s.liveBo.context with
      | none => s
      | some context => if s.liveBo.barIndex = 5 then s.setBoLevels bar config context else s) := by
  cases s.liveBo.context with
  | none => exact .refl s
  | some context =>
    split_ifs
    · exact unseen_setBoLevels bar config context
    · exact .refl s

theorem unseen_observeBoBar : Unseen s (s.observeBoBar bar config) := by
  unfold observeBoBar
  extract_lets exitPending started src extremes noted src'
  have hstarted : Unseen s started := by
    unfold started
    split_ifs with hstart
    · simp only [Bool.and_eq_true, Option.isNone_iff_eq_none] at hstart
      exact unseen_ensureBoSession hstart.1.2 bar
    · exact .refl s
  split_ifs
  · exact hstarted
  · have hextremes : Unseen started extremes := ⟨rfl, rfl, rfl, rfl⟩
    have hnoted : Unseen extremes noted := unseen_context bar config
    exact ((hstarted.trans hextremes).trans hnoted).trans ⟨rfl, rfl, rfl, rfl⟩

theorem unseen_updateBoPendingEntry : Unseen s (s.updateBoPendingEntry bar config) := by
  unfold updateBoPendingEntry
  split
  · exact ⟨rfl, rfl, rfl, rfl⟩
  · exact .refl s

theorem occupied_of_bo (h : v.bo = true) : v.occupied ≠ 0 := by
  unfold View.occupied
  rw [h, Bool.toNat_true]
  omega

variable {position : RiAuthor4142LiveBoPosition}

theorem Shows.bo_of_some (h : Shows s v) (hposition : s.liveBo.position = some position) :
    v.bo = true := by
  rw [← h.bo, hposition]
  rfl

theorem makes_holdBo (h : Shows s v) (hposition : s.liveBo.position = some position)
    (hphase : v.phase.isActive = true) (bar : ModelBar) (config : Author42Config) :
    Makes s v (s.holdBo position bar config) := by
  have hbo := h.bo_of_some hposition
  have hheld : ∀ liveBo : RiAuthor4142LiveBoState, liveBo.position.isSome = true →
      Shows { s with liveBo := liveBo } v :=
    fun liveBo hsome => ⟨h.phase, h.mr, hsome.trans hbo.symm⟩
  unfold holdBo
  dsimp only
  split_ifs with hexit
  · exact makes_emitExitIntent (hheld _ rfl) (.inl hphase) (occupied_of_bo hbo) ..
  · split <;> exact .hold (hheld _ rfl) rfl

theorem makes_manageBo (h : Shows s v) (hphase : v.phase.isActive = true) (bar : ModelBar)
    (config : Author42Config) : Makes s v (s.manageBo bar config) := by
  unfold manageBo
  split
  · rename_i position hposition
    exact makes_holdBo h hposition hphase bar config
  · exact .hold h rfl

theorem makes_settleBo (h : Shows s v) (hphase : v.phase.isActive = true) (bar : ModelBar)
    (config : Author42Config) : Makes s v (s.settleBo bar config []) :=
  (makes_manageBo h hphase bar config).then_unseen (unseen_updateBoPendingEntry bar config)

variable {config : Author42Config}

/-- Before the exit time what the component holds is not closed. -/
theorem manageBo_early (h : Shows s v) {bar : ModelBar}
    (hexit : ¬config.exitTime.le bar.tsLocal.time = true) :
    ∃ s', s.manageBo bar config = (s', []) ∧ Shows s' v ∧ s'.config = s.config := by
  unfold manageBo
  split
  · rename_i position hposition
    have hbo := h.bo_of_some hposition
    have hheld : ∀ liveBo : RiAuthor4142LiveBoState, liveBo.position.isSome = true →
        Shows { s with liveBo := liveBo } v :=
      fun liveBo hsome => ⟨h.phase, h.mr, hsome.trans hbo.symm⟩
    unfold holdBo
    rw [if_neg hexit]
    split
    all_goals exact ⟨_, rfl, hheld _ rfl, rfl⟩
  · exact ⟨s, rfl, h, rfl⟩

/-- Before the exit time the end of the component's bar sends nothing. -/
theorem settleBo_early (h : Shows s v) {bar : ModelBar}
    (hexit : ¬config.exitTime.le bar.tsLocal.time = true) (intents : List Intent) :
    ∃ s', s.settleBo bar config intents = (s', intents) ∧ Shows s' v ∧ s'.config = s.config := by
  obtain ⟨s', hmanaged, hshows, hconfig⟩ := manageBo_early h hexit
  have hunseen := unseen_updateBoPendingEntry (s := s') bar config
  refine ⟨s'.updateBoPendingEntry bar config, ?_, hshows.unseen hunseen,
    hunseen.config.trans hconfig⟩
  unfold settleBo
  rw [hmanaged]
  dsimp only
  rw [List.append_nil]

theorem makes_settleBo_takeBoEntry (h : Shows s v) (hphase : v.phase.isActive = true)
    (side : RiAuthor4142Side) (bar : ModelBar) (config : Author42Config) :
    Makes s v
      ((s.takeBoEntry side bar config).1.settleBo bar config (s.takeBoEntry side bar config).2) := by
  unfold takeBoEntry
  split_ifs with hexit htime hcount hfree
  · exact makes_settleBo h hphase bar config
  · exact makes_settleBo h hphase bar config
  · exact makes_settleBo h hphase bar config
  · simp only [Bool.and_eq_true, Option.isNone_iff_eq_none] at hfree
    obtain ⟨hmr, hbo⟩ := hfree
    obtain ⟨phase, mr, bo⟩ := v
    -- both slots are free
    obtain rfl : false = mr := by
      have hshown := h.mr
      rwa [hmr] at hshown
    obtain rfl : false = bo := by
      have hshown := h.bo
      rwa [hbo] at hshown
    -- the entry takes the slot of the second component
    have hslot : ∀ liveBo : RiAuthor4142LiveBoState, liveBo.position.isSome = true →
        Shows { s with liveBo := liveBo } ⟨phase, false, true⟩ :=
      fun liveBo hsome => ⟨h.phase, h.mr, hsome⟩
    have hentered : Makes s ⟨phase, false, false⟩ (s.enterBo bar side) :=
      makes_emitEntryIntent (hslot _ rfl) rfl (.enterBo hphase) ..
    obtain ⟨hconfig, v', hshows, hmove⟩ := hentered
    -- the position is younger than the exit time, so its entry is all that the bar sends
    obtain ⟨s', hsettled, hshows', hconfig'⟩ :=
      settleBo_early hshows hexit (s.enterBo bar side).2
    rw [hsettled]
    exact ⟨hconfig'.trans hconfig, v', hshows', hmove⟩
  · exact makes_settleBo h hphase bar config

theorem makes_actBo (h : Shows s v) (hphase : v.phase.isActive = true) (bar : ModelBar)
    (config : Author42Config) : Makes s v (s.actBo bar config) := by
  have htaken : Unseen s { s with liveBo := { s.liveBo with pending := none } } :=
    ⟨rfl, rfl, rfl, rfl⟩
  have hshows := h.unseen htaken
  unfold actBo
  dsimp only
  split
  · exact (makes_settleBo hshows hphase bar config).of_unseen htaken
  · exact (makes_settleBo_takeBoEntry hshows hphase _ bar config).of_unseen htaken
  · split
    · rename_i hposition
      have hslot := occupied_of_bo (hshows.bo_of_some hposition)
      exact (makes_emitExitIntent hshows (.inl hphase) hslot ..).of_unseen htaken
    · exact (makes_settleBo hshows hphase bar config).of_unseen htaken

theorem makes_liveBoIntentsForBar (h : Shows s v) (bar : ModelBar) :
    Makes s v (s.liveBoIntentsForBar bar) := by
  have hobserved := unseen_observeBoBar (s := s) bar s.config.author42Config
  have hshows := h.unseen hobserved
  unfold liveBoIntentsForBar
  dsimp only
  apply Makes.of_unseen _ hobserved
  split_ifs with hentry hexit hdeferred hblocked
  · exact .hold hshows rfl
  · exact .hold hshows rfl
  · -- an exit that was put off is sent again
    split
    · rename_i position hposition
      have hslot := occupied_of_bo (hshows.bo_of_some hposition)
      exact makes_emitExitIntent hshows (.inr (hshows.phaseIs_iff.mp hdeferred)) hslot ..
    · exact .hold hshows rfl
  · exact .hold hshows rfl
  · exact makes_actBo hshows (isActive_of_not hshows hentry hexit hdeferred hblocked) ..

/-! ### A bar -/

/-- While an order is on its way, the BO component sends nothing. -/
theorem liveBoIntentsForBar_waits (h : Shows s v)
    (hphase : v.phase = .livePendingEntry ∨ v.phase = .livePendingExit) (bar : ModelBar) :
    ∃ s', s.liveBoIntentsForBar bar = (s', []) ∧ Unseen s s' := by
  have hobserved := unseen_observeBoBar (s := s) bar s.config.author42Config
  have hshows := h.unseen hobserved
  refine ⟨s.observeBoBar bar s.config.author42Config, ?_, hobserved⟩
  unfold liveBoIntentsForBar
  dsimp only
  rcases hphase with hphase | hphase
  · rw [if_pos (hshows.phaseIs_iff.mpr hphase)]
  · split_ifs with hentry hexit
    · rfl
    · rfl
    all_goals exact absurd (hshows.phaseIs_iff.mpr hphase) hexit

/-- Both components on a bar: once the first has sent an order, the second waits. -/
theorem makes_liveIntentsForBar (h : Shows s v) (hflat : v.phase = .flat → v.mr = false)
    (bar : ModelBar) : Makes s v (s.liveIntentsForBar bar) := by
  have hmr := makes_liveMrIntentsForBar h hflat bar
  unfold liveIntentsForBar
  generalize s.liveMrIntentsForBar bar = answer at hmr
  obtain ⟨s₁, intents⟩ := answer
  obtain ⟨hconfig, v', hshows, hmove⟩ := hmr
  have hwaits (hphase : v'.phase = .livePendingEntry ∨ v'.phase = .livePendingExit) :
      Makes s v ((s₁.liveBoIntentsForBar bar).1, intents ++ (s₁.liveBoIntentsForBar bar).2) := by
    obtain ⟨s₂, hbo, hunseen⟩ := liveBoIntentsForBar_waits hshows hphase bar
    rw [hbo, List.append_nil]
    exact ⟨hunseen.config.trans hconfig, v', hshows.unseen hunseen, hmove⟩
  generalize hclasses : intentClasses intents = classes at hmove
  cases hmove with
  | hold =>
    obtain rfl : intents = [] := List.map_eq_nil_iff.mp hclasses
    obtain ⟨hconfig', hmakes⟩ := makes_liveBoIntentsForBar hshows bar
    exact ⟨hconfig'.trans hconfig, hmakes⟩
  | enterMr | enterBo => exact hwaits (.inl rfl)
  | exit => exact hwaits (.inr rfl)

/-! ### The bookkeeping of a bar -/

theorem Shows.collectDecision (h : Shows s v) (decision : RiAuthor4142ModelDecision) :
    Shows (s.collectDecision decision).1 v ∧ (s.collectDecision decision).1.config = s.config := by
  unfold RiAuthor4142LiveStrategy.collectDecision
  split_ifs
  · exact ⟨h, rfl⟩
  · have hkeys : ∀ keys, Shows { s with emittedDecisionKeys := keys } v :=
      fun keys => h.of_eq rfl rfl rfl
    refine ⟨Shows.journal ?_ _, rfl⟩
    apply Shows.updateState_same (hkeys _)
    intro saved
    rfl

theorem Shows.collectIncrementalDecisions (h : Shows s v)
    (decisions : List RiAuthor4142ModelDecision) :
    Shows (s.collectIncrementalDecisions decisions).1 v ∧
      (s.collectIncrementalDecisions decisions).1.config = s.config := by
  induction decisions generalizing s with
  | nil => exact ⟨h, rfl⟩
  | cons decision decisions ih =>
    obtain ⟨hshows, hconfig⟩ := h.collectDecision decision
    obtain ⟨hrest, hconfig'⟩ := ih hshows
    exact ⟨hrest, hconfig'.trans hconfig⟩

theorem Shows.noteBar (h : Shows s v) (bar : BarEvent) (dtLocal : NaiveDateTime)
    (isModelBar : Bool) :
    Shows (s.noteBar bar dtLocal isModelBar) v ∧
      (s.noteBar bar dtLocal isModelBar).config = s.config := by
  obtain ⟨saved, hstate, hphase⟩ := Option.map_eq_some_iff.mp h.phase
  unfold RiAuthor4142LiveStrategy.noteBar
  rw [hstate]
  cases isModelBar with
  | true | false => exact ⟨⟨congrArg some hphase, h.mr, h.bo⟩, rfl⟩

/-- Of a strategy that sends its orders, the bookkeeping of a bar shows no change. -/
theorem Shows.updateBarState (h : Shows s v) (hlive : s.config.canEmitOrders = true)
    (env : Environment) (bar : BarEvent) :
    Shows (s.updateBarState env bar) v ∧ (s.updateBarState env bar).config = s.config := by
  unfold RiAuthor4142LiveStrategy.updateBarState
  split
  · exact ⟨h, rfl⟩
  · rename_i dtLocal _
    dsimp only
    obtain ⟨hnoted, hconfig⟩ := h.noteBar bar dtLocal (s.config.isModelBar dtLocal bar.origin)
    split_ifs
    · unfold collectNewDecisions
      rw [hconfig, if_pos hlive]
      obtain ⟨hcollected, hconfig'⟩ := hnoted.collectIncrementalDecisions _
      exact ⟨hcollected, hconfig'.trans hconfig⟩
    · exact ⟨hnoted, hconfig⟩

theorem runsProspectiveAdapter_of_canEmitOrders {config : RiAuthor4142LiveConfig}
    (h : config.canEmitOrders = true) : config.runsProspectiveAdapter = false := by
  unfold RiAuthor4142LiveConfig.canEmitOrders at h
  unfold RiAuthor4142LiveConfig.runsProspectiveAdapter
  simp only [Bool.and_eq_true] at h
  rw [h.2, Bool.not_true, Bool.and_false]

theorem makes_onBar (h : Shows s v) (hflat : v.phase = .flat → v.mr = false)
    (hlive : s.config.canEmitOrders = true) (env : Environment) (ctx : StrategyCtx)
    (bar : BarEvent) : Makes s v (onBar env s ctx bar) := by
  obtain ⟨hshows, hconfig⟩ := h.updateBarState hlive env bar
  unfold onBar
  dsimp only
  split
  · exact .hold hshows hconfig
  · rename_i modelBar _
    have hmakes := makes_liveIntentsForBar hshows hflat modelBar
    have hadapter := runsProspectiveAdapter_of_canEmitOrders hlive
    rw [← hconfig, ← hmakes.1] at hadapter
    rw [if_neg (Bool.eq_false_iff.mp hadapter)]
    exact ⟨hmakes.1.trans hconfig, hmakes.2⟩

/-! ### The other events -/

/-- A handler that makes a move, and leaves the configuration alone. -/
def Changes (s : RiAuthor4142LiveStrategy) (v : View) (s' : RiAuthor4142LiveStrategy) : Prop :=
  s'.config = s.config ∧ ∃ v', Shows s' v' ∧ Move v v'

theorem Changes.hold (h : Shows s' v) (hconfig : s'.config = s.config) : Changes s v s' :=
  ⟨hconfig, v, h, .hold v⟩

/-- Manual intervention leaves what the components hold. -/
theorem changes_enterManualInterventionRequired (h : Shows s v) (reason : String) :
    Changes s v (s.enterManualInterventionRequired reason) :=
  ⟨rfl, _, h.updateState fun _ _ => rfl, .intervene v⟩

theorem changes_transitionLiveFlatWithReason (h : Shows s v) (howned : v.phase.isOwned = true)
    (reason : String) : Changes s v (s.transitionLiveFlatWithReason reason) :=
  ⟨rfl, _, h.clearLivePositions.updateState fun _ _ => rfl, .settle howned⟩

theorem changes_ackExit (h : Shows s v) (howned : v.phase.isOwned = true) (ctx : StrategyCtx)
    (ack : CommandAck) : Changes s v (s.ackExit ctx ack) := by
  unfold ackExit
  split_ifs with hskewed hflat hwindow
  · exact .hold h rfl
  · exact changes_transitionLiveFlatWithReason h howned _
  · exact ⟨rfl, _, h.updateState fun _ _ => rfl, .defer howned⟩
  · exact changes_enterManualInterventionRequired h _

theorem changes_ackEntry (h : Shows s v) (howned : v.phase.isOwned = true) (ctx : StrategyCtx)
    (ack : CommandAck) : Changes s v (s.ackEntry ctx ack) := by
  unfold ackEntry
  split_ifs with hskewed hflat
  · exact .hold h rfl
  · exact changes_transitionLiveFlatWithReason h howned _
  · exact changes_enterManualInterventionRequired h _

theorem isOwned_of_phaseIs {expected expected' : Phase} (h : Shows s v)
    (hphase : (s.phaseIs expected || s.phaseIs expected') = true)
    (howned : expected.isOwned = true) (howned' : expected'.isOwned = true) :
    v.phase.isOwned = true := by
  simp only [Bool.or_eq_true, h.phaseIs_iff] at hphase
  rcases hphase with hphase | hphase
  · rw [hphase, howned]
  · rw [hphase, howned']

theorem changes_onAck (h : Shows s v) (ctx : StrategyCtx) (ack : CommandAck) :
    Changes s v (onAck s ctx ack).1 ∧ (onAck s ctx ack).2 = [] := by
  unfold onAck
  split_ifs with hlive hstatus hexit hentry
  · exact ⟨.hold h rfl, rfl⟩
  · exact ⟨.hold h rfl, rfl⟩
  · exact ⟨changes_ackExit h (isOwned_of_phaseIs h hexit rfl rfl) ctx ack, rfl⟩
  · exact ⟨changes_ackEntry h (isOwned_of_phaseIs h hentry rfl rfl) ctx ack, rfl⟩
  · exact ⟨.hold h rfl, rfl⟩

theorem changes_onPosition (h : Shows s v) (ctx : StrategyCtx) (pos : PositionEvent) :
    Changes s v (onPosition s ctx pos).1 ∧ (onPosition s ctx pos).2 = [] := by
  have hsettle (howned : v.phase.isOwned = true) :=
    changes_transitionLiveFlatWithReason h howned "live_position_flat_confirmed"
  unfold onPosition
  by_cases hlive : (!s.config.canEmitOrders) = true
  · rw [if_pos hlive]
    exact ⟨.hold h rfl, rfl⟩
  · rw [if_neg hlive, h.phase]
    by_cases hflat : isFlatQty pos.qty = true
    · simp only [if_pos hflat]
      cases hphase : v.phase with
      | livePendingExit | liveDeferredExit | liveInPosition =>
        exact ⟨hsettle (by rw [hphase]; rfl), rfl⟩
      | _ => exact ⟨.hold h rfl, rfl⟩
    · simp only [if_neg hflat]
      cases hphase : v.phase with
      | livePendingEntry =>
        exact ⟨⟨rfl, _, h.updateState fun _ _ => rfl, .confirm hphase⟩, rfl⟩
      | _ => exact ⟨.hold h rfl, rfl⟩

theorem changes_onBootstrapSnapshot (h : Shows s v) (env : Environment) (ctx : StrategyCtx)
    (snapshot : BootstrapSnapshot) :
    Changes s v (onBootstrapSnapshot env s ctx snapshot).1 ∧
      (onBootstrapSnapshot env s ctx snapshot).2 = [] := by
  unfold onBootstrapSnapshot handleBootstrapSnapshot
  split_ifs
  · exact ⟨.hold h rfl, rfl⟩
  · split
    · exact ⟨changes_enterManualInterventionRequired h _, rfl⟩
    · exact ⟨.hold h rfl, rfl⟩

theorem changes_onRuntimeStateRestored (h : Shows s v) (ctx : StrategyCtx)
    (state : RuntimeStateRestored) :
    Changes s v (onRuntimeStateRestored s ctx state).1 ∧
      (onRuntimeStateRestored s ctx state).2 = [] := by
  unfold onRuntimeStateRestored handleRuntimeStateRestored
  split_ifs
  · exact ⟨.hold h rfl, rfl⟩
  · split
    · exact ⟨changes_enterManualInterventionRequired h _, rfl⟩
    · exact ⟨.hold h rfl, rfl⟩

theorem changes_onCommandPrepared (h : Shows s v) (ctx : StrategyCtx)
    (command : CommandPrepared) : Changes s v (onCommandPrepared s ctx command) := by
  unfold onCommandPrepared setPendingRequestId
  split_ifs
  · exact .hold h rfl
  · refine .hold (h.updateState_same ?_) rfl
    intro saved
    split <;> rfl

theorem changes_onIntentBlocked (h : Shows s v) (ctx : StrategyCtx) (event : IntentBlocked) :
    Changes s v (onIntentBlocked s ctx event).1 ∧
      ((onIntentBlocked s ctx event).2 = .rollback → (onIntentBlocked s ctx event).1 = s) := by
  unfold onIntentBlocked
  split_ifs with hlive hmissed
  · exact ⟨.hold h rfl, fun _ => rfl⟩
  · simp only [Bool.and_eq_true, h.phaseIs_iff] at hmissed
    refine ⟨⟨rfl, _, h.clearLivePositions.updateState fun _ _ => rfl, .miss hmissed.1.2⟩, ?_⟩
    intro hrollback
    cases hrollback
  · exact ⟨.hold h rfl, fun _ => rfl⟩

theorem changes_warmupFromHistory (h : Shows s v) (hlive : s.config.canEmitOrders = true)
    (env : Environment) (ctx : StrategyCtx) (bars : List BarEvent) :
    Changes s v (warmupFromHistory env s ctx bars).1 := by
  unfold warmupFromHistory
  suffices hwarm : ∀ s', Shows s' v → s'.config = s.config →
      Changes s v (bars.foldl (fun s bar => s.updateBarState env bar) s') from hwarm s h rfl
  induction bars with
  | nil => exact fun s' hshows hconfig => .hold hshows hconfig
  | cons bar bars ih =>
    intro s' hshows hconfig
    obtain ⟨hshows', hconfig'⟩ := hshows.updateBarState (hconfig ▸ hlive) env bar
    exact ih _ hshows' (hconfig'.trans hconfig)

/-! ### Restored states -/

/-- The phases under which a restored state keeps what the components hold. -/
def Phase.keepsPositions : Phase → Bool
  | .liveInPosition | .livePendingExit | .liveDeferredExit => true
  | _ => false

def View.restored (v : View) (phase : Phase) : View :=
  if phase.keepsPositions then { v with phase := phase } else ⟨phase, false, false⟩

theorem setState_config (saved : SavedState) :
    (s.setState (some saved)).config = s.config := by
  show (s.keepLivePositions saved.phase).config = s.config
  cases saved.phase <;> rfl

theorem Shows.setState (h : Shows s v) (saved : SavedState) :
    Shows (s.setState (some saved)) (v.restored saved.phase) := by
  have hkept : (s.keepLivePositions saved.phase).liveMr.position.isSome =
        (v.restored saved.phase).mr ∧
      (s.keepLivePositions saved.phase).liveBo.position.isSome = (v.restored saved.phase).bo := by
    cases saved.phase with
    | liveInPosition | livePendingExit | liveDeferredExit => exact ⟨h.mr, h.bo⟩
    | _ => exact ⟨rfl, rfl⟩
  refine ⟨?_, hkept.1, hkept.2⟩
  show some saved.phase = some (v.restored saved.phase).phase
  unfold View.restored
  split_ifs <;> rfl

end Moves

theorem shows_new (config : RiAuthor4142LiveConfig) : Shows (new config) ⟨.flat, false, false⟩ :=
  ⟨rfl, rfl, rfl⟩

end AlorRs.RiAuthor4142
