import AlorRs.StrategyRuntime.Equiv.HybridIntradayRuntime.Parts

/-!
# When the hybrid strategy enters

An entry comes from a bar only, and there from the orchestrator or from the reissue of a deferred
entry (`tradeBar_entry`).  The orchestrator's entries are made flat, ready, out of safe mode and
with nothing under way.  The reissue does not look at what is under way, so a run's entries are all
safe exactly when no bar of the run reissues an entry while something is (`entriesSafe_iff`).
-/

namespace AlorRs.HybridIntraday

open Reaction

namespace HybridIntradayRuntimeStrategy

variable {s t : HybridIntradayRuntimeStrategy} {ctx : StrategyCtx} {scene : BarScene}
  {input : BarInput} {intent : Intent}

/-! ### Parts without entries -/

theorem entries_submitExit (s : HybridIntradayRuntimeStrategy) (ctx : StrategyCtx)
    (createdTsUtc : ℤ) (canEmit canExecute : Bool) (referencePrice : ℚ) (owner : Owner)
    (reason : ReasonCode) :
    ofClass .entry
      (s.submitExit ctx createdTsUtc canEmit canExecute referencePrice owner reason).2 = [] := by
  unfold submitExit
  split_ifs <;> rfl

theorem entries_repairBracket (s : HybridIntradayRuntimeStrategy) (ctx : StrategyCtx) (nowTs : ℤ)
    (cycleId : CycleId) : ofClass .entry (s.repairBracket ctx nowTs cycleId).2 = [] :=
  ofClass_eq_nil (by decide) fun _ => class_of_mem_repairBracket

theorem entries_repairProtection (s : HybridIntradayRuntimeStrategy) (ctx : StrategyCtx)
    (nowTs : ℤ) : ofClass .entry (s.repairProtection ctx nowTs).2 = [] := by
  unfold repairProtection
  split
  · rfl
  · split_ifs
    · rfl
    · rfl
    · rfl
    · rfl
    · rfl
    · exact entries_repairBracket ..

theorem entries_escalateSlTrigger (s : HybridIntradayRuntimeStrategy) (ctx : StrategyCtx)
    (nowTs : ℤ) : ofClass .entry (s.escalateSlTrigger ctx nowTs).2 = [] := by
  have hcancels {o : Option ℤ} : ofClass .entry (o.map cancelIntent).toList = [] :=
    ofClass_eq_nil (by decide) (explicitClass_of_mem_toList fun _ => rfl)
  unfold escalateSlTrigger
  rw [ofClass_append, ofClass_append, hcancels, hcancels]
  rfl

theorem entries_maybeEmitRepairIntents (s : HybridIntradayRuntimeStrategy) (ctx : StrategyCtx)
    (nowTs : ℤ) : ofClass .entry (s.maybeEmitRepairIntents ctx nowTs).2 = [] := by
  unfold maybeEmitRepairIntents
  by_cases hidle : |ctxQty ctx| ≤ epsilon ∨ s.currentOwner ≠ some .meanReversion
  · rw [if_pos hidle]
    rfl
  · rw [if_neg hidle]
    cases s.slTriggeredTs with
    | none =>
      split_ifs
      · rfl
      · exact entries_repairProtection ..
    | some triggeredTs =>
      dsimp only
      split_ifs
      · rfl
      · exact entries_escalateSlTrigger ..

/-! ### Entries of the orchestrator -/

variable {entry : EntrySignal} {orchestrator : HybridOrchestrator}
  {mrEntrySignal : Option EntrySignal}

theorem mem_decideEntry (h : .submitEntry entry ∈ (orchestrator.decideEntry input mrEntrySignal).2) :
    input.hasOpenPosition = false ∧ input.hasLiveOrders = false := by
  unfold HybridOrchestrator.decideEntry at h
  split_ifs at h with hbusy
  · cases h
  · rw [Bool.not_eq_true, Bool.or_eq_false_iff, Bool.or_eq_false_iff] at hbusy
    exact hbusy.1

/-- The orchestrator enters only where nothing is open or under way. -/
theorem mem_decideAction {mrExitReason : Option ReasonCode}
    (h : .submitEntry entry ∈ (orchestrator.decideAction input mrEntrySignal mrExitReason).2) :
    input.hasOpenPosition = false ∧ input.hasLiveOrders = false := by
  unfold HybridOrchestrator.decideAction at h
  split_ifs at h
  · simp at h
  · split at h
    · cases h
    · simp at h
  · split at h
    · unfold HybridOrchestrator.emitBreakoutExit at h
      split_ifs at h
      · simp at h
      · simp at h
    · exact mem_decideEntry h
  · exact mem_decideEntry h

theorem mem_orchestrate (h : .submitEntry entry ∈ (s.orchestrate input).2) :
    input.hasOpenPosition = false ∧ input.hasLiveOrders = false := by
  unfold orchestrate at h
  split_ifs at h <;> exact mem_decideAction h

variable {dtLocal : NaiveDateTime} {actions : List Action}

/-- The guard of the day's end adds no entry. -/
theorem mem_appendBreakoutNoOvernightGuard {previousDayLocal : Option NaiveDate}
    {hasOpenPosition : Bool} (h : .submitEntry entry ∈
      s.appendBreakoutNoOvernightGuard actions dtLocal previousDayLocal hasOpenPosition) :
    .submitEntry entry ∈ actions := by
  unfold appendBreakoutNoOvernightGuard at h
  split_ifs at h
  · exact h
  · exact h
  · simpa using h

/-- Mapping an action leaves the readiness and the safe mode alone. -/
theorem mapAction_guards (s : HybridIntradayRuntimeStrategy) (ctx : StrategyCtx)
    (createdTsUtc : ℤ) (canEmit canExecute : Bool) (referencePrice : ℚ) (action : Action) :
    let mapped := s.mapActionToIntentsWithReference ctx createdTsUtc canEmit canExecute
      referencePrice action
    mapped.1.entryReady = s.entryReady ∧ mapped.1.safeModeCloseOnly = s.safeModeCloseOnly := by
  cases action with
  | submitEntry entry =>
    simp only [mapActionToIntentsWithReference, submitEntry]
    split_ifs <;> exact ⟨rfl, rfl⟩
  | submitExit owner reason =>
    simp only [mapActionToIntentsWithReference, submitExit, exitPosition, takeCycleId]
    split_ifs <;> exact ⟨rfl, rfl⟩
  | armOvernightExit owner reason armedDate exitTime => exact ⟨rfl, rfl⟩

variable {createdTsUtc : ℤ} {canEmit canExecute : Bool}

/-- An entry of mapped actions is one of them, and the guards let it through. -/
theorem entry_of_mapActions (h : intent ∈ ofClass .entry
      (s.mapActionsToIntents ctx createdTsUtc canEmit canExecute actions).2) :
    (∃ entry, .submitEntry entry ∈ actions) ∧ s.entryReady = true ∧ s.safeModeCloseOnly = false := by
  induction actions generalizing s with
  | nil => cases h
  | cons action actions ih =>
    have hguards := mapAction_guards s ctx createdTsUtc canEmit canExecute s.liveReferencePrice action
    rw [mapActionsToIntents, ofClass_append, List.mem_append] at h
    rcases h with h | h
    · cases action with
      | submitEntry entry =>
        simp only [mapActionToIntentsWithReference, submitEntry] at h
        split_ifs at h with hdropped
        · cases h
        all_goals
          rw [Bool.not_eq_true, Bool.or_eq_false_iff, Bool.or_eq_false_iff] at hdropped
          exact ⟨⟨entry, List.mem_cons_self⟩, by simpa using hdropped.1.1, hdropped.1.2⟩
      | submitExit owner reason =>
        rw [mapActionToIntentsWithReference, entries_submitExit] at h
        cases h
      | armOvernightExit owner reason armedDate exitTime => cases h
    · obtain ⟨⟨entry, hentry⟩, hready, hsafe⟩ := ih h
      rw [hguards.1] at hready
      rw [hguards.2] at hsafe
      exact ⟨⟨entry, List.mem_cons_of_mem _ hentry⟩, hready, hsafe⟩

/-! ### Entries of a bar -/

def reissuesEntry (t : HybridIntradayRuntimeStrategy) (scene : BarScene) : Bool :=
  !weekendStateOnlyBar t.config scene.dtLocal && decide (|ctxQty scene.ctx| ≤ epsilon) &&
    (t.deferredEntry.any fun deferred => !deferredEntryExpired t.config deferred scene.dtLocal) &&
    t.entryReady && !t.safeModeCloseOnly && scene.canEmit && scene.canExecute &&
    t.pendingEntryRequestId.isNone

/-- The guards of an entry: flat, ready, out of safe mode and with nothing under way. -/
structure EntrySafe (t : HybridIntradayRuntimeStrategy) (ctx : StrategyCtx) : Prop where
  flat : |ctxQty ctx| ≤ epsilon
  ready : t.entryReady = true
  normal : t.safeModeCloseOnly = false
  idle : t.hasLiveOrders = false

theorem maybeEmitRepairIntents_of_flat (hflat : |ctxQty ctx| ≤ epsilon) (nowTs : ℤ) :
    s.maybeEmitRepairIntents ctx nowTs = ({ s with slTriggeredTs := none }, []) := by
  rw [maybeEmitRepairIntents, if_pos (.inl hflat)]

theorem actOnBar_entry (hinput : input.hasOpenPosition = decide (epsilon < |ctxQty scene.ctx|))
    (h : intent ∈ ofClass .entry (s.actOnBar scene input).2) :
    |ctxQty scene.ctx| ≤ epsilon ∧ s.entryReady = true ∧ s.safeModeCloseOnly = false ∧
      input.hasLiveOrders = false := by
  unfold actOnBar at h
  rw [ofClass_append, entries_maybeEmitRepairIntents, List.nil_append] at h
  obtain ⟨⟨entry, hentry⟩, hready, hnormal⟩ := entry_of_mapActions h
  obtain ⟨hclosed, hidle⟩ := mem_orchestrate (mem_appendBreakoutNoOvernightGuard hentry)
  have hflat : |ctxQty scene.ctx| ≤ epsilon := by
    rw [hinput, decide_eq_false_iff_not] at hclosed
    exact not_lt.mp hclosed
  rw [maybeEmitRepairIntents_of_flat hflat] at hready hnormal
  exact ⟨hflat, hready, hnormal, hidle⟩

/-! ### The reissue of a deferred order -/

variable {referencePrice : ℚ} {deferred : DeferredExit}

theorem reissueDeferredExit_none
    (h : s.reissueDeferredExit ctx createdTsUtc canEmit canExecute referencePrice deferred =
      (t, none)) : t = { s with deferredExit := none } ∧ |ctxQty ctx| ≤ epsilon := by
  unfold reissueDeferredExit at h
  split_ifs at h with hflat hwait
  · exact ⟨(Prod.mk.inj h).1.symm, hflat⟩
  all_goals cases (Prod.mk.inj h).2

variable {intents : List Intent}

theorem reissueDeferredExit_some
    (h : s.reissueDeferredExit ctx createdTsUtc canEmit canExecute referencePrice deferred =
      (t, some intents)) : ofClass .entry intents = [] ∧ epsilon < |ctxQty ctx| := by
  unfold reissueDeferredExit at h
  split_ifs at h with hflat hwait
  · cases (Prod.mk.inj h).2
  · rw [← Option.some.inj (Prod.mk.inj h).2]
    exact ⟨rfl, not_le.mp hflat⟩
  · rw [← Option.some.inj (Prod.mk.inj h).2]
    exact ⟨entries_submitExit .., not_le.mp hflat⟩

variable {deferred : DeferredEntry}

theorem reissueDeferredEntry_none
    (h : s.reissueDeferredEntry ctx createdTsUtc dtLocal canEmit canExecute referencePrice deferred =
      (t, none)) :
    t = { s with deferredEntry := none } ∧
      (epsilon < |ctxQty ctx| ∨ deferredEntryExpired s.config deferred dtLocal = true) := by
  unfold reissueDeferredEntry at h
  split_ifs at h with hgone hwait
  · exact ⟨(Prod.mk.inj h).1.symm, hgone⟩
  all_goals cases (Prod.mk.inj h).2

theorem reissueDeferredEntry_some
    (h : s.reissueDeferredEntry ctx createdTsUtc dtLocal canEmit canExecute referencePrice deferred =
      (t, some intents)) :
    (|ctxQty ctx| ≤ epsilon ∧ deferredEntryExpired s.config deferred dtLocal = false) ∧
      (ofClass .entry intents ≠ [] ↔
        s.entryReady = true ∧ s.safeModeCloseOnly = false ∧ canEmit = true ∧ canExecute = true ∧
          s.pendingEntryRequestId = none) := by
  unfold reissueDeferredEntry at h
  split_ifs at h with hgone hwait
  · cases (Prod.mk.inj h).2
  all_goals
    rw [not_or, not_lt, Bool.not_eq_true] at hgone
    refine ⟨hgone, ?_⟩
    rw [← Option.some.inj (Prod.mk.inj h).2]
  · refine ⟨fun hne => absurd rfl hne, ?_⟩
    rintro ⟨hready, hnormal, hemit, hexecute, hfree⟩
    rw [hready, hnormal, hemit, hexecute, hfree] at hwait
    cases hwait
  · simp only [Bool.not_eq_true, Bool.or_eq_false_iff, Bool.not_eq_false', Option.isSome_eq_false_iff,
      Option.isNone_iff_eq_none] at hwait
    obtain ⟨⟨⟨⟨hready, hnormal⟩, hemit⟩, hexecute⟩, hfree⟩ := hwait
    refine ⟨fun _ => ⟨hready, hnormal, hemit, hexecute, hfree⟩, fun _ => ?_⟩
    have hguard : (!s.entryReady || s.safeModeCloseOnly || !canEmit) = false := by
      rw [hready, hnormal, hemit]
      rfl
    rw [mapActionToIntentsWithReference, submitEntry, if_neg (by rw [hguard]; exact Bool.false_ne_true)]
    exact List.cons_ne_nil _ _

/-! ### Entries of a traded bar -/

theorem tradeEntry_entry (hinput : input.hasOpenPosition = decide (epsilon < |ctxQty scene.ctx|))
    (h : intent ∈ ofClass .entry (s.tradeEntry scene input referencePrice).2) :
    |ctxQty scene.ctx| ≤ epsilon ∧ s.entryReady = true ∧ s.safeModeCloseOnly = false ∧
      (input.hasLiveOrders = false ∨ (s.deferredEntry.any fun deferred =>
            !deferredEntryExpired s.config deferred scene.dtLocal) = true ∧
          scene.canEmit = true ∧ scene.canExecute = true ∧ s.pendingEntryRequestId = none) := by
  unfold tradeEntry at h
  cases hdef : s.deferredEntry with
  | none =>
    rw [hdef] at h
    obtain ⟨hflat, hready, hnormal, hidle⟩ := actOnBar_entry hinput h
    exact ⟨hflat, hready, hnormal, .inl hidle⟩
  | some deferred =>
    have hdef' : (s.warmBar input).deferredEntry = some deferred := hdef
    rw [hdef, if_pos (Option.isSome_some), maybeReissueDeferredEntry, hdef'] at h
    split at h
    · next u intents hre =>
      obtain ⟨⟨hflat, hlive⟩, hiff⟩ := reissueDeferredEntry_some hre
      obtain ⟨hready, hnormal, hemit, hexecute, hfree⟩ := hiff.mp (List.ne_nil_of_mem h)
      have hany : (!deferredEntryExpired s.config deferred scene.dtLocal) = true := by
        rw [Bool.not_eq_true']
        exact hlive
      exact ⟨hflat, hready, hnormal, .inr ⟨hany, hemit, hexecute, hfree⟩⟩
    · next u hre =>
      obtain ⟨rfl, -⟩ := reissueDeferredEntry_none hre
      obtain ⟨hflat, hready, hnormal, hidle⟩ := actOnBar_entry hinput h
      exact ⟨hflat, hready, hnormal, .inl hidle⟩

theorem tradeExit_entry (hinput : input.hasOpenPosition = decide (epsilon < |ctxQty scene.ctx|))
    (h : intent ∈ ofClass .entry (s.tradeExit scene input referencePrice).2) :
    |ctxQty scene.ctx| ≤ epsilon ∧ s.entryReady = true ∧ s.safeModeCloseOnly = false ∧
      (input.hasLiveOrders = false ∨ (s.deferredEntry.any fun deferred =>
            !deferredEntryExpired s.config deferred scene.dtLocal) = true ∧
          scene.canEmit = true ∧ scene.canExecute = true ∧ s.pendingEntryRequestId = none) := by
  unfold tradeExit at h
  cases hdef : s.deferredExit with
  | none =>
    rw [hdef] at h
    exact tradeEntry_entry hinput h
  | some deferred =>
    have hdef' : (s.warmBar input).deferredExit = some deferred := hdef
    rw [hdef, if_pos (Option.isSome_some), maybeReissueDeferredExit, hdef'] at h
    split at h
    · next u intents hre =>
      rw [(reissueDeferredExit_some hre).1] at h
      cases h
    · next u hre =>
      obtain ⟨rfl, -⟩ := reissueDeferredExit_none hre
      have hentry := tradeEntry_entry hinput h
      exact hentry

theorem tradeBar_entry (h : intent ∈ ofClass .entry (s.tradeBar scene).2) :
    EntrySafe s scene.ctx ∨
      (|ctxQty scene.ctx| ≤ epsilon ∧ s.entryReady = true ∧ s.safeModeCloseOnly = false) ∧
        s.reissuesEntry scene = true := by
  unfold tradeBar at h
  split_ifs at h with hweekend
  · cases h
  · obtain ⟨hflat, hready, hnormal, hidle | ⟨hany, hemit, hexecute, hfree⟩⟩ :=
      tradeExit_entry rfl h
    · exact .inl ⟨hflat, hready, hnormal, hidle⟩
    · refine .inr ⟨⟨hflat, hready, hnormal⟩, ?_⟩
      rw [Bool.not_eq_true] at hweekend
      rw [reissuesEntry, hweekend, decide_eq_true hflat, hany, hready, hnormal, hemit, hexecute, hfree]
      rfl

theorem tradeEntry_of_reissues (hreissue : s.reissuesEntry scene = true) (referencePrice : ℚ) :
    ofClass .entry (s.tradeEntry scene input referencePrice).2 ≠ [] := by
  simp only [reissuesEntry, Bool.and_eq_true, Bool.not_eq_true', decide_eq_true_eq, Option.any_eq_true,
    Option.isNone_iff_eq_none] at hreissue
  obtain ⟨⟨⟨⟨⟨⟨⟨-, hflat⟩, deferred, hdef, hlive⟩, hready⟩, hnormal⟩, hemit⟩, hexecute⟩, hfree⟩ :=
    hreissue
  have hdef' : (s.warmBar input).deferredEntry = some deferred := hdef
  unfold tradeEntry
  rw [hdef, if_pos Option.isSome_some, maybeReissueDeferredEntry, hdef']
  split
  · next t intents hre =>
    exact (reissueDeferredEntry_some hre).2.mpr ⟨hready, hnormal, hemit, hexecute, hfree⟩
  · next t hre =>
    rcases (reissueDeferredEntry_none hre).2 with hopen | hexpired
    · exact absurd hflat (not_le.mpr hopen)
    · have hlive' : deferredEntryExpired (s.warmBar input).config deferred scene.dtLocal = false :=
        hlive
      rw [hlive'] at hexpired
      cases hexpired

theorem tradeBar_of_reissues (hreissue : s.reissuesEntry scene = true) :
    ofClass .entry (s.tradeBar scene).2 ≠ [] := by
  have hparts := hreissue
  simp only [reissuesEntry, Bool.and_eq_true, Bool.not_eq_true', decide_eq_true_eq] at hparts
  obtain ⟨⟨⟨⟨⟨⟨⟨hweekend, hflat⟩, -⟩, -⟩, -⟩, -⟩, -⟩, -⟩ := hparts
  unfold tradeBar
  rw [if_neg (by rw [hweekend]; exact Bool.false_ne_true)]
  unfold tradeExit
  cases hdef : s.deferredExit with
  | none => exact tradeEntry_of_reissues hreissue _
  | some deferred =>
    have hdef' : ∀ input, (s.warmBar input).deferredExit = some deferred := fun _ => hdef
    rw [if_pos Option.isSome_some, maybeReissueDeferredExit, hdef']
    split
    · next t intents hre =>
      exact absurd hflat (not_le.mpr (reissueDeferredExit_some hre).2)
    · next t hre =>
      obtain ⟨rfl, -⟩ := reissueDeferredExit_none hre
      refine tradeEntry_of_reissues ?_ _
      exact hreissue

/-! ### The other calls -/

theorem entries_residual (s : HybridIntradayRuntimeStrategy) (ctx : StrategyCtx)
    (pos : PositionEvent) (reason : String) :
    ofClass .entry (s.emitBrokerResidualEmergencyExit ctx pos reason).2 = [] :=
  ofClass_residual (by decide) (by decide) s ctx pos reason

theorem entries_resizePosition (s : HybridIntradayRuntimeStrategy) (ctx : StrategyCtx)
    (pos : PositionEvent) (nowMs : ℤ) :
    ofClass .entry (s.resizePosition ctx pos nowMs).2 = [] := by
  unfold resizePosition
  dsimp only
  split_ifs
  · rfl
  · rfl
  all_goals exact entries_residual ..

theorem entries_adoptPosition (s : HybridIntradayRuntimeStrategy) (ctx : StrategyCtx)
    (pos : PositionEvent) : ofClass .entry (s.adoptPosition ctx pos).2 = [] := by
  unfold adoptPosition
  dsimp only
  by_cases hexisting : pos.existing = true
  · rw [if_pos hexisting]
    rfl
  · rw [if_neg hexisting]
    exact entries_residual ..

theorem entries_movePosition (s : HybridIntradayRuntimeStrategy) (ctx : StrategyCtx)
    (pos : PositionEvent) (nowMs : ℤ) : ofClass .entry (s.movePosition ctx pos nowMs).2 = [] := by
  unfold movePosition
  dsimp only
  split_ifs
  · exact entries_resizePosition ..
  · exact entries_adoptPosition ..
  · exact ofClass_eq_nil (by decide) fun _ => class_of_mem_cancelAll
  · rfl

theorem entries_onPosition (s : HybridIntradayRuntimeStrategy) (ctx : StrategyCtx)
    (pos : PositionEvent) (nowMs : ℤ) : ofClass .entry (s.onPosition ctx pos nowMs).2 = [] := by
  rcases onPosition_cases s ctx pos nowMs with ⟨-, heq⟩ | ⟨-, heq⟩ | ⟨entry, -, -, heq | heq | ⟨-, heq⟩⟩
  · rw [heq]
    rfl
  · rw [heq, entries_movePosition]
  · rw [heq]
    exact entries_residual ..
  · rw [heq]
    rfl
  · rw [heq]
    exact ofClass_eq_nil (by decide) fun _ => class_of_mem_bracket

theorem entries_onTimer (s : HybridIntradayRuntimeStrategy) (ctx : StrategyCtx) (nowTsUtcMs : ℤ) :
    ofClass .entry (s.onTimer ctx nowTsUtcMs).2 = [] := by
  have hreconcile : ofClass .entry (s.emitBracketReconcileTimeoutExit ctx nowTsUtcMs).2 = [] := by
    unfold emitBracketReconcileTimeoutExit
    split
    · rfl
    · split_ifs
      · rfl
      · exact entries_residual ..
  have hpartial (u : HybridIntradayRuntimeStrategy) :
      ofClass .entry (u.emitPartialEntryTimeoutExit ctx nowTsUtcMs).2 = [] := by
    unfold emitPartialEntryTimeoutExit
    split
    · rfl
    · split_ifs
      · rfl
      · have hcancels : ofClass .entry (u.workingOrders.map cancelIntent) = [] := by
          refine ofClass_eq_nil (show IntentClass.cancelCleanup ≠ .entry by decide) fun intent hmem => ?_
          obtain ⟨id, -, rfl⟩ := List.mem_map.mp hmem
          show (cancelIntent id).explicitClass = some .cancelCleanup
          rfl
        rw [ofClass_append, hcancels]
        rfl
  unfold onTimer
  rw [ofClass_append, hreconcile, hpartial]
  rfl

/-- Entries come from bars only. -/
theorem entry_of_answer {call : HybridCall} (h : intent ∈ ofClass .entry (s.answer call).2) :
    ∃ ctx bar t scene, call = .event (.bar ctx bar) ∧ s.atDecision ctx bar = some (t, scene) ∧
      intent ∈ ofClass .entry (t.tradeBar scene).2 := by
  cases call with
  | event event =>
    cases event with
    | bar ctx bar =>
      -- a bar trades only if it comes to a decision
      have hbar : intent ∈ ofClass .entry (s.onBar ctx bar).2 := h
      cases hat : s.atDecision ctx bar with
      | none =>
        rw [onBar_of_not_atDecision hat] at hbar
        cases hbar
      | some decision =>
        obtain ⟨t, scene⟩ := decision
        rw [onBar_of_atDecision hat] at hbar
        exact ⟨ctx, bar, t, scene, rfl, hat, hbar⟩
    | ack ctx ack =>
      rw [answer, react, ofClass_eq_nil (by decide) fun _ => class_of_mem_onAck] at h
      cases h
    | order ctx ord nowMs =>
      rw [answer, react, intents_onOrder] at h
      cases h
    | stopOrder ctx ord nowMs =>
      rw [answer, react, ofClass_eq_nil (by decide) fun _ => class_of_mem_onStopOrder] at h
      cases h
    | position ctx pos nowMs =>
      rw [answer, react, entries_onPosition] at h
      cases h
    | timer ctx nowTsUtcMs =>
      rw [answer, react, entries_onTimer] at h
      cases h
  | bootstrapSnapshot ctx snapshot =>
    -- the other calls send no entry
    have hnone : (s.answer (.bootstrapSnapshot ctx snapshot)).2 = [] := by
      rw [answer, onBootstrapSnapshot]
      split_ifs <;> rfl
    rw [hnone] at h
    cases h
  | runtimeStateRestored ctx => cases h
  | warmupFromHistory bars => cases h
  | acknowledgeFinalizations sessionDates => cases h
  | riskGateState state => cases h
  | setState state => cases h

/-! ### Runs -/

/-- The entries of a call are emitted flat, ready, out of safe mode and with nothing under way. -/
def EntriesSafe (s : HybridIntradayRuntimeStrategy) (call : HybridCall) : Prop :=
  ∀ intent ∈ ofClass .entry (s.answer call).2, ∃ ctx bar t scene,
    call = .event (.bar ctx bar) ∧ s.atDecision ctx bar = some (t, scene) ∧ EntrySafe t ctx

/-- A bar reissues a deferred entry while requests or orders are under way. -/
def ReissuesWhileLive (s : HybridIntradayRuntimeStrategy) (call : HybridCall) : Prop :=
  ∃ ctx bar t scene, call = .event (.bar ctx bar) ∧ s.atDecision ctx bar = some (t, scene) ∧
    t.reissuesEntry scene = true ∧ t.hasLiveOrders = true

theorem entriesSafe_step (s : HybridIntradayRuntimeStrategy) (call : HybridCall) :
    EntriesSafe s call ↔ ¬ReissuesWhileLive s call := by
  constructor
  · rintro hsafe ⟨ctx, bar, t, scene, rfl, hat, hreissue, hlive⟩
    have hne : ofClass .entry (s.answer (.event (.bar ctx bar))).2 ≠ [] := by
      rw [answer, react, onBar_of_atDecision hat]
      exact tradeBar_of_reissues hreissue
    obtain ⟨intent, hmem⟩ := List.exists_mem_of_ne_nil _ hne
    obtain ⟨ctx', bar', t', scene', heq, hat', hentry⟩ := hsafe intent hmem
    cases heq
    rw [hat] at hat'
    cases hat'
    rw [hentry.idle] at hlive
    cases hlive
  · intro hfree intent hmem
    obtain ⟨ctx, bar, t, scene, rfl, hat, hbar⟩ := entry_of_answer hmem
    refine ⟨ctx, bar, t, scene, rfl, hat, ?_⟩
    have hctx := (atDecision_scene hat).1
    rcases tradeBar_entry hbar with hentry | ⟨⟨hflat, hready, hnormal⟩, hreissue⟩
    · rwa [← hctx]
    · refine ⟨by rwa [← hctx], hready, hnormal, ?_⟩
      by_contra hlive
      exact hfree ⟨ctx, bar, t, scene, rfl, hat, hreissue, (Bool.not_eq_false _).mp hlive⟩

/-- The entries of a run are all safe exactly when no bar of it reissues an entry while something
is under way. -/
theorem entriesSafe_iff (config : HybridIntradayRuntimeConfig) (calls : List HybridCall) :
    Always answer EntriesSafe (new config) calls ↔
      Always answer (fun s call => ¬ReissuesWhileLive s call) (new config) calls :=
  ⟨fun h => h.mono fun s call => (entriesSafe_step s call).mp,
    fun h => h.mono fun s call => (entriesSafe_step s call).mpr⟩

/-! ### A reissue next to a working order -/

namespace Reissue

open Sample

/-- The entry is put off by the trading window, and an old order of the strategy turns up. -/
def puttingOff : List HybridCall :=
  [.event (.ack (liveCtx (minute 1 10 0 + 5) none)
      (.rejected (entering.pendingEntryRequestId.getD (.v5 "")) "trading_window_closed" ""
        (minute 1 10 0 + 5))),
    .event (.order (liveCtx (minute 1 10 1) none)
      ⟨7, none, "IMOEXF", "working", "sell", "limit", 1, 0, 1003, false,
        some "HYB|sid=hybrid|c=0001518000|o=MR|r=TP", minute 1 10 1⟩ 0)]

def laterBar : HybridCall :=
  .event (.bar (liveCtx (minute 1 10 10) none) (liveBar (minute 1 10 10) 999 1000 999 (1999 / 2)))

def puttedOff : HybridIntradayRuntimeStrategy :=
  Reaction.after answer (new sampleConfig) (entryBars ++ puttingOff)

/-- The reissue of the entry is emitted while the order is at work. -/
theorem entry_with_workingOrder :
    ¬∀ (config : HybridIntradayRuntimeConfig) (calls : List HybridCall),
      Always answer EntriesSafe (new config) calls := by
  intro h
  have hsafe := always_iff.mp (h sampleConfig (entryBars ++ puttingOff ++ [laterBar]))
    (entryBars ++ puttingOff) laterBar [] rfl
  have hentries : (ofClass .entry (puttedOff.answer laterBar).2).length = 1 := by decide +kernel
  have hidle : ((puttedOff.atDecision (liveCtx (minute 1 10 10) none)
      (liveBar (minute 1 10 10) 999 1000 999 (1999 / 2))).all fun decision =>
        decision.1.hasLiveOrders) = true := by
    decide +kernel
  obtain ⟨intent, hmem⟩ := List.exists_mem_of_length_pos (by rw [hentries]; exact Nat.one_pos)
  obtain ⟨ctx', bar', t, scene, hcall, hat, hentry⟩ := hsafe intent hmem
  cases hcall
  have hsame : puttedOff.atDecision (liveCtx (minute 1 10 10) none)
      (liveBar (minute 1 10 10) 999 1000 999 (1999 / 2)) = some (t, scene) := hat
  rw [hsame, Option.all_some, hentry.idle] at hidle
  cases hidle

end Reissue

end HybridIntradayRuntimeStrategy

end AlorRs.HybridIntraday
