import AlorRs.StrategyRuntime.Equiv.RiAuthor4142Live.Slots
import AlorRs.StrategyRuntime.Equiv.Runtime.RequestIds

/-!
# What a start knows of the broker

After a start that finds a position or a working order the strategy should wait for an operator.
It looks for them under the symbol of its bars, while its orders go to `order_symbol`; so it
notices them exactly when they are under the symbol of its bars, or when something else halts it
(`restartSafe_iff`).
-/

namespace AlorRs.RiAuthor4142

open RiAuthor4142LiveStrategy

/-! ### The configuration -/

section Config

variable {s : RiAuthor4142LiveStrategy}

/-- A fold whose steps leave the configuration alone. -/
theorem foldl_config {α : Type} {f : RiAuthor4142LiveStrategy → α → RiAuthor4142LiveStrategy}
    (hf : ∀ s x, (f s x).config = s.config) (xs : List α) : (xs.foldl f s).config = s.config := by
  induction xs generalizing s with
  | nil => rfl
  | cons x xs ih => exact ih.trans (hf s x)

theorem recordPath_config (keys : List String) (adapterDecision : RiAuthor4142JournalDecision)
    (reasonOverride : Option String) :
    (s.recordPath keys adapterDecision reasonOverride).config = s.config := by
  apply foldl_config
  intro s key
  split <;> rfl

theorem updatePathOfDate_config (day : NaiveDate × List String) :
    (s.updatePathOfDate day).config = s.config := by
  unfold updatePathOfDate
  dsimp only
  split_ifs
  · rfl
  · exact (recordPath_config _ _ _).trans (recordPath_config _ _ _)

theorem applyDryRunDecision_config (decision : RiAuthor4142ModelDecision) :
    (s.applyDryRunDecision decision).config = s.config := by
  unfold applyDryRunDecision
  split
  · rfl
  · split
    · rfl
    · dsimp only
      split_ifs
      · rfl
      · show (List.foldl _ s _).config = s.config
        exact foldl_config (fun _ _ => by rfl) _

theorem collectIncrementalDecisions_config (decisions : List RiAuthor4142ModelDecision) :
    (s.collectIncrementalDecisions decisions).1.config = s.config := by
  induction decisions generalizing s with
  | nil => rfl
  | cons decision decisions ih =>
    have hcollect : (s.collectDecision decision).1.config = s.config := by
      unfold collectDecision
      split_ifs <;> rfl
    exact ih.trans hcollect

theorem updateBarState_config (env : Environment) (bar : BarEvent) :
    (s.updateBarState env bar).config = s.config := by
  have hnote : ∀ dtLocal isModelBar, (s.noteBar bar dtLocal isModelBar).config = s.config := by
    intro dtLocal isModelBar
    unfold noteBar
    split
    · rfl
    · dsimp only
      split_ifs <;> rfl
  have hshadow : ∀ (s : RiAuthor4142LiveStrategy) finalized dtLocal,
      (s.collectShadowDecisions finalized dtLocal).config = s.config := by
    intro s finalized dtLocal
    have hcollected := collectIncrementalDecisions_config (s := s) finalized
    unfold collectShadowDecisions updateShadowPortfolioPath
    refine (foldl_config (fun _ _ => updatePathOfDate_config _) _).trans ?_
    split_ifs
    · exact hcollected
    · exact (foldl_config (fun _ _ => applyDryRunDecision_config _) _).trans hcollected
  unfold updateBarState
  split
  · rfl
  · dsimp only
    split_ifs
    · unfold collectNewDecisions
      split_ifs
      · exact (collectIncrementalDecisions_config _).trans (hnote _ _)
      · exact (hshadow _ _ _).trans (hnote _ _)
    · exact hnote _ _

variable (bar : MoexAuthor4142.ModelBar)

theorem liveMrIntentsForBar_config : (s.liveMrIntentsForBar bar).1.config = s.config := by
  have hstart : (s.startMrDate bar).config = s.config := by
    unfold startMrDate
    split_ifs <;> rfl
  have hhold : ∀ position, ((s.startMrDate bar).holdMr position bar).1.config = s.config := by
    intro position
    unfold holdMr
    dsimp only
    split <;> exact hstart
  unfold liveMrIntentsForBar
  split_ifs
  · rfl
  · rfl
  · split <;> rfl
  · rfl
  · dsimp only
    split
    · exact hhold _
    · split_ifs
      · exact hstart
      · exact hstart
      · split <;> exact hstart

theorem settleBo_config (config : MoexAuthor4142.Author42Config) (intents : List Intent) :
    (s.settleBo bar config intents).1.config = s.config := by
  have hmanage : (s.manageBo bar config).1.config = s.config := by
    unfold manageBo
    split
    · unfold holdBo
      dsimp only
      split_ifs
      · rfl
      · split <;> rfl
    · rfl
  unfold settleBo updateBoPendingEntry
  dsimp only
  split <;> exact hmanage

theorem liveBoIntentsForBar_config : (s.liveBoIntentsForBar bar).1.config = s.config := by
  have hobserved := (unseen_observeBoBar (s := s) bar s.config.author42Config).config
  have htake : ∀ (s : RiAuthor4142LiveStrategy) side config,
      (s.takeBoEntry side bar config).1.config = s.config := by
    intro s side config
    unfold takeBoEntry
    split_ifs <;> rfl
  have hact : ∀ (s : RiAuthor4142LiveStrategy) config, (s.actBo bar config).1.config = s.config := by
    intro s config
    unfold actBo
    dsimp only
    split
    · exact settleBo_config _ _ _
    · exact (settleBo_config _ _ _).trans (htake _ _ _)
    · split
      · rfl
      · exact settleBo_config _ _ _
  unfold liveBoIntentsForBar
  dsimp only
  split_ifs
  · exact hobserved
  · exact hobserved
  · split
    all_goals exact hobserved
  · exact hobserved
  · exact (hact _ _).trans hobserved

theorem onBar_config (env : Environment) (ctx : StrategyCtx) (bar : BarEvent) :
    (onBar env s ctx bar).1.config = s.config := by
  have hstate := updateBarState_config (s := s) env bar
  have hintents : ∀ (s : RiAuthor4142LiveStrategy) modelBar,
      (s.liveIntentsForBar modelBar).1.config = s.config := fun s modelBar =>
    (liveBoIntentsForBar_config modelBar).trans (liveMrIntentsForBar_config modelBar)
  have hfinalize : ∀ s : RiAuthor4142LiveStrategy,
      s.finalizeProspectiveAdapterTransition.config = s.config := by
    intro s
    unfold finalizeProspectiveAdapterTransition
    split <;> rfl
  unfold onBar
  dsimp only
  split
  · exact hstate
  · split_ifs
    · exact (hfinalize _).trans ((hintents _ _).trans hstate)
    · exact (hintents _ _).trans hstate

/-- A strategy that sends no orders has none to send on a bar. -/
theorem onBar_of_not_canEmitOrders (hsilent : s.config.canEmitOrders = false)
    (env : Environment) (ctx : StrategyCtx) (bar : BarEvent) : (onBar env s ctx bar).2 = [] := by
  have hstate := updateBarState_config (s := s) env bar
  unfold onBar
  dsimp only
  split
  · rfl
  · rename_i modelBar hmodelBar
    have hadapter : s.config.runsProspectiveAdapter = true := by
      unfold runtimeAdapterModelBar at hmodelBar
      rw [hstate, hsilent] at hmodelBar
      by_contra hnot
      rw [Bool.not_eq_true] at hnot
      rw [hnot] at hmodelBar
      cases hmodelBar
    have hconfig : ((s.updateBarState env bar).liveIntentsForBar modelBar).1.config = s.config :=
      (liveBoIntentsForBar_config modelBar).trans
        ((liveMrIntentsForBar_config modelBar).trans hstate)
    rw [hconfig, if_pos hadapter]

end Config

/-! ### What a start finds -/

def RiAuthor4142LiveConfig.routedSymbol (config : RiAuthor4142LiveConfig) : String :=
  config.orderSymbol.getD config.symbol

variable (snapshot : BootstrapSnapshot)

def HasWorkingOrder (symbol : String) : Prop :=
  (∃ entry ∈ snapshot.workingOrdersStrategy.entries, entry.2.symbol = symbol) ∨
    ∃ entry ∈ snapshot.workingStopOrdersStrategy.entries, entry.2.symbol = symbol

def BrokerHolds (symbol : String) : Prop :=
  (∃ pos ∈ snapshot.positionsStrategy.lookup symbol, pos.qty ≠ 0) ∨ HasWorkingOrder snapshot symbol

/-- What is saved and what the runtime finds at a start. -/
structure Start where
  saved : SavedState
  snapshot : BootstrapSnapshot
  restored : RuntimeStateRestored

/-- The strategy that a start makes, told of what the runtime has found. -/
def Start.strategy (start : Start) (env : Environment) (config : RiAuthor4142LiveConfig)
    (ctx : StrategyCtx) : RiAuthor4142LiveStrategy :=
  let s := (new config).setState (some start.saved)
  let s := (onBootstrapSnapshot env s ctx start.snapshot).1
  (onRuntimeStateRestored s ctx start.restored).1

/-- What the strategy looks at: a state saved under manual intervention, the snapshot under the
symbol of the bars, and what the restored runtime knows of. -/
def Start.IsNoticed (start : Start) (config : RiAuthor4142LiveConfig) : Prop :=
  start.saved.phase = .manualInterventionRequired ∨ config.runsProspectiveAdapter = false ∧
      ((∃ pos ∈ start.snapshot.positionsStrategy.lookup config.symbol,
          isFlatQty pos.qty = false) ∨
        HasWorkingOrder start.snapshot config.symbol ∨
        start.restored.pendingRequests ≠ ∅ ∨ start.restored.knownOrderIds ≠ ∅)

def barIntents (env : Environment) (s : RiAuthor4142LiveStrategy) (ctx : StrategyCtx)
    (history : List BarEvent) (bars : List (StrategyCtx × BarEvent)) : List Intent :=
  Reaction.outputs (fun s e => onBar env s e.1 e.2) (warmupFromHistory env s ctx history).1 bars

/-- The phase is that of manual intervention, and no bars make the strategy send an entry. -/
structure WaitsForOperator (env : Environment) (s : RiAuthor4142LiveStrategy) : Prop where
  phase : s.phaseIs .manualInterventionRequired = true
  noEntry : ∀ ctx history bars, ∀ intent ∈ barIntents env s ctx history bars,
    intent.explicitClass ≠ some .entry

/-- The strategy waits for an operator where the broker holds something that its orders are routed
to and no component manages. -/
def RestartSafe (env : Environment) (config : RiAuthor4142LiveConfig) (ctx : StrategyCtx)
    (start : Start) : Prop :=
  BrokerHolds start.snapshot config.routedSymbol →
    (start.strategy env config ctx).occupiedSlots = 0 →
      WaitsForOperator env (start.strategy env config ctx)

/-! ### Under manual intervention -/

def IsHalted (s : RiAuthor4142LiveStrategy) : Prop :=
  s.config.canEmitOrders = false ∨ ∃ v, Shows s v ∧ v.phase = .manualInterventionRequired

section Halted

variable {s : RiAuthor4142LiveStrategy}

theorem BarMove.of_manual {v v' : View} {classes : List (Option IntentClass)}
    (hmove : BarMove v v' classes) (hmanual : v.phase = .manualInterventionRequired) :
    v' = v ∧ classes = [] := by
  cases hmove with
  | hold => exact ⟨rfl, rfl⟩
  | enterMr hactive =>
    obtain rfl := hmanual
    cases hactive
  | enterBo hactive =>
    obtain rfl := hmanual
    cases hactive
  | exit hphase =>
    rw [hmanual] at hphase
    rcases hphase with hactive | hdeferred
    · cases hactive
    · cases hdeferred

theorem IsHalted.onBar (h : IsHalted s) (env : Environment) (ctx : StrategyCtx) (bar : BarEvent) :
    IsHalted (onBar env s ctx bar).1 ∧ (RiAuthor4142LiveStrategy.onBar env s ctx bar).2 = [] := by
  rcases h with hsilent | ⟨v, hshows, hmanual⟩
  · exact ⟨.inl ((onBar_config env ctx bar).symm ▸ hsilent),
      onBar_of_not_canEmitOrders hsilent env ctx bar⟩
  · by_cases hlive : s.config.canEmitOrders = true
    · have hflat : v.phase = .flat → v.mr = false := by
        rw [hmanual]
        exact Phase.noConfusion
      obtain ⟨-, v', hshows', hmove⟩ := makes_onBar hshows hflat hlive env ctx bar
      obtain ⟨rfl, hclasses⟩ := hmove.of_manual hmanual
      exact ⟨.inr ⟨v', hshows', hmanual⟩, List.map_eq_nil_iff.mp hclasses⟩
    · rw [Bool.not_eq_true] at hlive
      exact ⟨.inl ((onBar_config env ctx bar).symm ▸ hlive),
        onBar_of_not_canEmitOrders hlive env ctx bar⟩

theorem IsHalted.warmup (h : IsHalted s) (env : Environment) (ctx : StrategyCtx)
    (history : List BarEvent) : IsHalted (warmupFromHistory env s ctx history).1 := by
  unfold warmupFromHistory
  induction history generalizing s with
  | nil => exact h
  | cons bar history ih =>
    apply ih
    have hconfig := updateBarState_config (s := s) env bar
    rcases h with hsilent | ⟨v, hshows, hmanual⟩
    · exact .inl (hconfig.symm ▸ hsilent)
    · by_cases hlive : s.config.canEmitOrders = true
      · exact .inr ⟨v, (hshows.updateBarState hlive env bar).1, hmanual⟩
      · rw [Bool.not_eq_true] at hlive
        exact .inl (hconfig.symm ▸ hlive)

theorem IsHalted.barIntents_eq_nil (h : IsHalted s) (env : Environment) (ctx : StrategyCtx)
    (history : List BarEvent) (bars : List (StrategyCtx × BarEvent)) :
    barIntents env s ctx history bars = [] := by
  have hwarm := h.warmup env ctx history
  unfold barIntents
  generalize (warmupFromHistory env s ctx history).1 = s' at hwarm
  induction bars generalizing s' with
  | nil => rfl
  | cons e bars ih =>
    obtain ⟨hhalted, hnone⟩ := hwarm.onBar env e.1 e.2
    unfold Reaction.outputs
    rw [ih _ hhalted, hnone]
    rfl

theorem waitsForOperator_iff (env : Environment) :
    WaitsForOperator env s ↔ s.phaseIs .manualInterventionRequired = true := by
  constructor
  · intro h
    exact h.phase
  · intro hphase
    refine ⟨hphase, ?_⟩
    intro ctx history bars intent hintent
    have hhalted : IsHalted s := .inr
      ⟨⟨.manualInterventionRequired, s.liveMr.position.isSome, s.liveBo.position.isSome⟩,
        ⟨of_decide_eq_true hphase, rfl, rfl⟩, rfl⟩
    rw [hhalted.barIntents_eq_nil] at hintent
    cases hintent

end Halted

/-! ### A start -/

section Starts

variable {s : RiAuthor4142LiveStrategy} {v : View}

theorem isSome_snapshotReason_iff (text : RustText) (symbol : String)
    (snapshot : BootstrapSnapshot) :
    (snapshotReason text symbol snapshot).isSome = true ↔
      (∃ pos ∈ snapshot.positionsStrategy.lookup symbol, isFlatQty pos.qty = false) ∨
        HasWorkingOrder snapshot symbol := by
  have hpos : (!isFlatQty (((snapshot.positionsStrategy.lookup symbol).map
        PositionEvent.qty).getD 0)) = true ↔
      ∃ pos ∈ snapshot.positionsStrategy.lookup symbol, isFlatQty pos.qty = false := by
    cases snapshot.positionsStrategy.lookup symbol with
    | none =>
      have hzero : isFlatQty 0 = true := by decide +kernel
      simp [hzero]
    | some pos => simp
  unfold snapshotReason HasWorkingOrder
  dsimp only
  rw [← hpos]
  have hentries {α : Type} (xs : List α) (p : α → Prop) [DecidablePred p] :
      0 < (xs.filter fun x => p x).length ↔ ∃ x ∈ xs, p x := by
    simp [List.length_pos_iff_exists_mem]
  rw [← hentries, ← hentries]
  split_ifs with hqty horders hstops
  · simp [hqty]
  · simp [horders]
  · simp [hstops]
  · simp [hqty, horders, hstops]

theorem isSome_restoredReason_iff (restored : RuntimeStateRestored) :
    (restoredReason restored).isSome = true ↔
      restored.pendingRequests ≠ ∅ ∨ restored.knownOrderIds ≠ ∅ := by
  have hcard {α : Type} (x : Finset α) : x ≠ ∅ ↔ x.card ≠ 0 := Finset.card_eq_zero.not.symm
  unfold restoredReason
  rw [hcard, hcard]
  split_ifs with hrequests horders
  · simp [hrequests]
  · simp [horders]
  · simp [hrequests, horders]

theorem phaseIs_manual_onBootstrapSnapshot (h : Shows s v) (env : Environment)
    (ctx : StrategyCtx) (snapshot : BootstrapSnapshot) :
    (onBootstrapSnapshot env s ctx snapshot).1.phaseIs .manualInterventionRequired = true ↔
      v.phase = .manualInterventionRequired ∨ s.config.runsProspectiveAdapter = false ∧
        (snapshotReason env.text s.config.symbol snapshot).isSome = true := by
  unfold onBootstrapSnapshot handleBootstrapSnapshot
  split_ifs with hadapter
  · simp [h.phaseIs_iff, hadapter]
  · cases snapshotReason env.text s.config.symbol snapshot with
    | none => simp [h.phaseIs_iff]
    | some reason =>
      have hmanual : Shows (s.enterManualInterventionRequired reason)
          { v with phase := .manualInterventionRequired } := h.updateState fun _ _ => rfl
      simp [hmanual.phaseIs_iff, hadapter]

theorem phaseIs_manual_onRuntimeStateRestored (h : Shows s v) (ctx : StrategyCtx)
    (restored : RuntimeStateRestored) :
    (onRuntimeStateRestored s ctx restored).1.phaseIs .manualInterventionRequired = true ↔
      v.phase = .manualInterventionRequired ∨ s.config.runsProspectiveAdapter = false ∧
        (restoredReason restored).isSome = true := by
  unfold onRuntimeStateRestored handleRuntimeStateRestored
  split_ifs with hadapter
  · simp [h.phaseIs_iff, hadapter]
  · cases restoredReason restored with
    | none => simp [h.phaseIs_iff]
    | some reason =>
      have hmanual : Shows (s.enterManualInterventionRequired reason)
          { v with phase := .manualInterventionRequired } := h.updateState fun _ _ => rfl
      simp [hmanual.phaseIs_iff, hadapter]

variable (env : Environment) (config : RiAuthor4142LiveConfig) (ctx : StrategyCtx)
    (start : Start)

/-- The strategy is left to an operator exactly by what it looks at. -/
theorem waitsForOperator_iff_isNoticed :
    WaitsForOperator env (start.strategy env config ctx) ↔ start.IsNoticed config := by
  have hrestored := (shows_new config).setState start.saved
  have hconfig : ((new config).setState (some start.saved)).config = config :=
    setState_config start.saved
  have hphase : ((⟨.flat, false, false⟩ : View).restored start.saved.phase).phase =
      start.saved.phase := by
    unfold View.restored
    split_ifs <;> rfl
  have hsnapshot := phaseIs_manual_onBootstrapSnapshot hrestored env ctx start.snapshot
  obtain ⟨⟨hconfig', v, hshows, -⟩, -⟩ :=
    changes_onBootstrapSnapshot hrestored env ctx start.snapshot
  rw [hconfig, hphase, hshows.phaseIs_iff, isSome_snapshotReason_iff] at hsnapshot
  rw [waitsForOperator_iff]
  unfold Start.strategy Start.IsNoticed
  rw [phaseIs_manual_onRuntimeStateRestored hshows, hsnapshot, hconfig', hconfig,
    isSome_restoredReason_iff, or_assoc, ← and_or_left, or_assoc]

/-- No component of a strategy that has just started holds anything. -/
theorem occupiedSlots_start : (start.strategy env config ctx).occupiedSlots = 0 := by
  have hrestored := (shows_new config).setState start.saved
  have hfree : ((⟨.flat, false, false⟩ : View).restored start.saved.phase).occupied = 0 := by
    unfold View.restored
    split_ifs <;> rfl
  have hmanual : ∀ (s : RiAuthor4142LiveStrategy) reason,
      (s.enterManualInterventionRequired reason).occupiedSlots = s.occupiedSlots :=
    fun _ _ => rfl
  have hsnapshot : ∀ s : RiAuthor4142LiveStrategy,
      (onBootstrapSnapshot env s ctx start.snapshot).1.occupiedSlots = s.occupiedSlots := by
    intro s
    unfold onBootstrapSnapshot handleBootstrapSnapshot
    split_ifs
    · rfl
    · split
      · exact hmanual s _
      · rfl
  have hruntime : ∀ s : RiAuthor4142LiveStrategy,
      (onRuntimeStateRestored s ctx start.restored).1.occupiedSlots = s.occupiedSlots := by
    intro s
    unfold onRuntimeStateRestored handleRuntimeStateRestored
    split_ifs
    · rfl
    · split
      · exact hmanual s _
      · rfl
  unfold Start.strategy
  rw [hruntime, hsnapshot, hrestored.occupiedSlots, hfree]

/-- A start is safe exactly where what the orders are routed to is noticed. -/
theorem restartSafe_iff :
    RestartSafe env config ctx start ↔
      (BrokerHolds start.snapshot config.routedSymbol → start.IsNoticed config) := by
  have hfree := occupiedSlots_start env config ctx start
  have hwaits := waitsForOperator_iff_isNoticed env config ctx start
  constructor
  · intro hsafe hholds
    exact hwaits.mp (hsafe hholds hfree)
  · intro hnoticed hholds _
    exact hwaits.mpr (hnoticed hholds)

end Starts

namespace Sample

def routed : RiAuthor4142LiveConfig := { config with orderSymbol := some "RTS-6.26" }

/-- A start from a saved phase that finds a short position under the symbol of the orders. -/
def startShort (phase : Phase) : Start where
  saved := ((new routed).state.map fun saved => { saved with phase := phase }).get rfl
  snapshot :=
    ⟨(∅ : AList fun _ : String => PositionEvent).insert "RTS-6.26"
      ⟨"RTS-6.26", -1, false, 100100, 1777874401⟩, ∅, ∅, some 1777874401⟩
  restored := ⟨∅, ∅⟩

def intentsAfterStart (phase : Phase) : List Intent :=
  barIntents env ((startShort phase).strategy env routed (ctx none)) (ctx none)
    [⟨"RIM6", 1777668000, 100000, 100000, 101000, 99000, 10, .history⟩]
    [(ctx none, ⟨"RIM6", 1777874400, 100100, 100050, 100120, 100030, 10, .live⟩)]

end Sample

/-- With a position under the symbol of its orders the strategy enters again, whether it was saved
flat or in position. -/
theorem not_restartSafe :
    (¬RestartSafe Sample.env Sample.routed (Sample.ctx none) (Sample.startShort .flat) ∧
        intentClasses (Sample.intentsAfterStart .flat) = [some .entry]) ∧
      ¬RestartSafe Sample.env Sample.routed (Sample.ctx none) (Sample.startShort .liveInPosition) ∧
        intentClasses (Sample.intentsAfterStart .liveInPosition) = [some .entry] := by
  have hrestart (phase : Phase)
      (hentry : intentClasses (Sample.intentsAfterStart phase) = [some .entry]) :
      ¬RestartSafe Sample.env Sample.routed (Sample.ctx none) (Sample.startShort phase) := by
    intro hsafe
    have hholds : BrokerHolds (Sample.startShort phase).snapshot Sample.routed.routedSymbol :=
      .inl ⟨⟨"RTS-6.26", -1, false, 100100, 1777874401⟩, rfl, by decide⟩
    have hmem : some IntentClass.entry ∈ intentClasses (Sample.intentsAfterStart phase) := by
      rw [hentry]
      exact List.mem_singleton_self _
    obtain ⟨intent, hintent, hclass⟩ := List.mem_map.mp hmem
    have hwaits := hsafe hholds (occupiedSlots_start _ _ _ _)
    exact hwaits.noEntry _ _ _ intent hintent hclass
  have hflat : intentClasses (Sample.intentsAfterStart .flat) = [some .entry] := by
    decide +kernel
  have hposition : intentClasses (Sample.intentsAfterStart .liveInPosition) = [some .entry] := by
    decide +kernel
  exact ⟨⟨hrestart _ hflat, hflat⟩, hrestart _ hposition, hposition⟩

end AlorRs.RiAuthor4142
