import AlorRs.StrategyRuntime.Equiv.Runtime.Traced

/-!
# Correctness of the handling of bars

What the runtime does with the risk gate and the simulated orders is done without going back to
an earlier state of the strategy, so it keeps the bars and the marks.  A bar that is not a duplicate joins the bars, but
the snapshots that are written while it is handled carry the marks from before it
(`wp_handleBar`).
-/

namespace AlorRs

open Eff

/-- Snapshots, reports and records, but no command and no call of the strategy. -/
def HostEvent.Bookkeeping {P : Type} : HostEvent P → Prop
  | .persisted _ | .journalled _ | .virtualTrade _ _ | .reportsWritten | .riskGateAppended _
  | .guardEvaluated _ => True
  | .published _ _ | .acked _ _ | .dispatched _ _ | .deadLetter _ _ _ | .called _ => False

namespace StrategyRuntime

open RuntimeM

variable {σ P : Type}

/-! ### Simulated orders and the risk gate -/

abbrev bookkeeping : Allowed σ P := ⟨fun _ _ => True, HostEvent.Bookkeeping, True, fun _ => False⟩

section Bookkeeping

variable {env : Env σ P} (bar : BarEvent) (rt : StrategyRuntime σ P) (orderId : ℤ)

theorem sameView_cancelSimOrder (tsUtc : ℤ) : SameView rt (rt.cancelSimOrder orderId tsUtc) := by
  unfold cancelSimOrder
  split
  · exact .refl rt
  · exact ⟨rfl, rfl, rfl, rfl, rfl, rfl, rfl⟩

theorem sameView_replaceSimOrder (newPrice newQty : ℚ) (tsUtc : ℤ) :
    SameView rt (rt.replaceSimOrder orderId newPrice newQty tsUtc) := by
  unfold replaceSimOrder
  split
  · exact .refl rt
  · exact ⟨rfl, rfl, rfl, rfl, rfl, rfl, rfl⟩

theorem bookkeeping_asks : (bookkeeping : Allowed σ P).Asks := fun _ => trivial

theorem makes_forward_of_bookkeeping {α : Type} {m : RuntimeM σ P α}
    (h : Makes env bookkeeping m) : Makes env forward m := by
  have hle : (bookkeeping : Allowed σ P).Le forward := by
    refine ⟨fun _ _ h => h, fun event h => ?_, fun h => h, fun _ h => h⟩
    cases event <;> first | exact trivial | exact h.elim
  exact h.mono fun _ _ hmoves => hmoves.mono hle

theorem makes_bookkeeping {α : Type} {m : RuntimeM σ P α}
    (h : Makes env (emission HostEvent.Bookkeeping True fun _ => False) m) :
    Makes env bookkeeping m := by
  have hle : (emission HostEvent.Bookkeeping True fun _ => False : Allowed σ P).Le bookkeeping :=
    ⟨fun _ _ _ => trivial, fun _ h => h, fun _ => trivial, fun _ h => h⟩
  exact h.mono fun _ _ hmoves => hmoves.mono hle

theorem makes_bookkeeping_modify {f : StrategyRuntime σ P → StrategyRuntime σ P}
    (h : ∀ s, SameView s (f s)) : Makes env bookkeeping (modify f) := makes_book h fun _ => trivial

/-- A reaction that leaves the journal alone. -/
theorem makes_bookkeeping_react {f : σ → σ} (h : ∀ s, Reaction env.strategy s (f s)) :
    Makes env bookkeeping (modify fun rt : StrategyRuntime σ P =>
      { rt with
        strategy := f rt.strategy
        state := { rt.state with strategyState := env.strategy.state (f rt.strategy) } }) :=
  within_modify fun s => .single <|
    .react s (f s.strategy) s.pendingStrategyJournalRecords trivial (.single (h s.strategy))

theorem makes_persistLedgerReports : Makes env bookkeeping persistLedgerReports := by
  refine within_read_bind ?_
  split
  · exact makes_write bookkeeping_asks trivial rfl
  · exact makes_write bookkeeping_asks trivial rfl
  · exact within_pure _

theorem makes_recordNonLiveIntents (createdTsUtc : ℤ) (intents : List Intent) :
    Makes env bookkeeping (recordNonLiveIntents createdTsUtc intents) := by
  unfold recordNonLiveIntents
  split
  · exact within_pure _
  · exact makes_bookkeeping (makes_logVirtualTrades (fun _ _ => trivial) _ _)

theorem makes_simulateIntent (intent : Intent) :
    Makes env bookkeeping (simulateIntent bar intent) := by
  unfold simulateIntent
  split
  · exact makes_bookkeeping_modify fun _ => ⟨rfl, rfl, rfl, rfl, rfl, rfl, rfl⟩
  · refine within_get_bind fun rt => ?_
    split
    · exact within_pure _
    · split
      · refine within_bind (makes_bookkeeping_modify ?_) fun _ => makes_persistLedgerReports
        exact fun _ => ⟨rfl, rfl, rfl, rfl, rfl, rfl, rfl⟩
      · exact makes_bookkeeping_modify fun _ => ⟨rfl, rfl, rfl, rfl, rfl, rfl, rfl⟩
  · exact makes_bookkeeping_modify fun rt => sameView_cancelSimOrder rt _ _
  · exact makes_bookkeeping_modify fun rt => sameView_replaceSimOrder rt _ _ _ _
  · exact within_pure _

theorem makes_simulateIntents (intents : List Intent) :
    Makes env bookkeeping (simulateIntents bar intents) := by
  induction intents with
  | nil => exact within_pure _
  | cons intent intents ih => exact within_bind (makes_simulateIntent bar intent) fun _ => ih

theorem makes_notifySimPosition (position : PositionEvent) :
    Makes env bookkeeping (notifySimPosition bar position) := by
  refine within_read_bind <| within_get_bind fun rt =>
    within_bind (makes_bookkeeping (makes_strategyCtx _ _)) fun ctx => ?_
  intro s
  -- the callback is made with the strategy of the state that the context leaves
  have hreact : Moves env.strategy bookkeeping s
      { s with
        strategy := (env.strategy.onPosition s.strategy ctx position).1
        state := { s.state with
          strategyState := env.strategy.state (env.strategy.onPosition s.strategy ctx position).1 } } :=
    .single (.react s _ s.pendingStrategyJournalRecords trivial (.single (.position _ ctx position)))
  have hrest : ∀ intents, Makes env bookkeeping
      (do recordNonLiveIntents bar.closeTimeUtc intents; simulateIntents bar intents) :=
    fun intents => within_bind (makes_recordNonLiveIntents bar.closeTimeUtc intents) fun _ =>
      makes_simulateIntents bar intents
  rw [wp_bind, wp_get]
  rw [wp_bind, wp_modify]
  exact wp_mono (hrest _ _) (fun _ _ hm => hreact.trans hm) fun _ _ hm => hreact.trans hm

theorem makes_simulateFill (price : ℚ) :
    Makes env bookkeeping (simulateFill bar orderId price) := by
  refine within_get_bind fun rt => ?_
  split
  · exact within_pure _
  · refine within_bind (makes_bookkeeping_modify ?_) fun _ => ?_
    · exact fun _ => ⟨rfl, rfl, rfl, rfl, rfl, rfl, rfl⟩
    · split
      · exact makes_bookkeeping_modify fun _ => ⟨rfl, rfl, rfl, rfl, rfl, rfl, rfl⟩
      · refine within_bind (makes_bookkeeping_modify ?_) fun _ =>
          within_bind (makes_notifySimPosition bar _) fun _ => makes_persistLedgerReports
        exact fun _ => ⟨rfl, rfl, rfl, rfl, rfl, rfl, rfl⟩

theorem makes_simulateFills : Makes env bookkeeping (simulateFills bar) := by
  have hall : ∀ filled, Makes env bookkeeping (simulateFilled bar filled) := by
    intro filled
    induction filled with
    | nil => exact within_pure _
    | cons fill filled ih => exact within_bind (makes_simulateFill bar fill.1 fill.2) fun _ => ih
  exact within_get_bind fun rt => hall _

theorem makes_applyRiskGateMaterializedState (profileId : String) (state : RiskGateRuntimeState) :
    Makes env bookkeeping (applyRiskGateMaterializedState profileId state) :=
  within_read_bind <| makes_bookkeeping_react fun s => .riskGateState s _

theorem makes_riskGateProfile : Makes env bookkeeping riskGateProfile := by
  refine within_read_bind <| within_bind (makes_now bookkeeping_asks) fun _ => ?_
  split
  · exact within_pure _
  · exact within_fail _

theorem makes_appendFinalizations (profileId : String)
    (finalizations : List RiskGateSessionFinalization) :
    Makes env bookkeeping (appendFinalizations profileId finalizations) := by
  induction finalizations with
  | nil => exact within_pure _
  | cons finalization finalizations ih =>
    have happend : Makes env bookkeeping (appendRiskGateRuntimeSession finalization) := by
      refine within_bind (makes_readFrom bookkeeping_asks _) fun state => ?_
      split
      · exact within_pure _
      · exact within_bind (makes_write bookkeeping_asks trivial rfl) fun _ => within_pure _
    refine within_bind happend fun state => ?_
    split
    · exact ih
    · exact within_bind (makes_applyRiskGateMaterializedState profileId _) fun _ => ih

theorem makes_flushRiskGateSessionFinalizations :
    Makes env bookkeeping flushRiskGateSessionFinalizations := by
  have hacknowledge : ∀ finalizations, Makes env bookkeeping (acknowledgeFinalizations finalizations) :=
    fun finalizations => within_read_bind <| makes_bookkeeping_react fun s => .acknowledge s _
  refine within_read_bind <| within_get_bind fun rt => ?_
  dsimp only
  split
  · exact within_pure _
  · split
    · exact hacknowledge _
    · refine within_bind makes_riskGateProfile fun profileId => ?_
      split
      · exact within_pure _
      · exact within_bind (makes_appendFinalizations _ _) fun _ => within_bind (hacknowledge _)
          fun _ => makes_persistState bookkeeping_asks fun _ => trivial

end Bookkeeping

/-! ### The timer -/

variable {R : StrategyRuntime σ P → StrategyRuntime σ P → Prop}

/-- What holds along handlers holds along the timer. -/
theorem Observes.within_pollTimer {env : Env σ P} [IsTrans (StrategyRuntime σ P) R]
    (h : Observes env R) : Within env R pollTimer := by
  have hasks : (preparing : Allowed σ P).Asks := emission_asks
  exact within_read_bind <| within_get_bind fun _ =>
    within_bind (h.within_preparing (makes_nowMs hasks)) fun nowTsUtcMs =>
    within_bind (h.within_preparing (makes_strategyCtx _ _)) fun ctx =>
    h.within_invokeAndApply ctx _ fun s => .single (.timer s ctx nowTsUtcMs)

/-! ### Bars -/

/-- Anything that a handler does, going back to some states of the strategy only. -/
abbrev returning (revert : P → Prop) : Allowed σ P := ⟨fun _ _ => True, HostEvent.Calling, True, revert⟩

theorem returning_asks {revert : P → Prop} : (returning revert : Allowed σ P).Asks := fun _ => trivial

section Settling

variable {α : Type} {env : Env σ P} {revert : P → Prop}

theorem makes_returning_of_bookkeeping {m : RuntimeM σ P α} (h : Makes env bookkeeping m) :
    Makes env (returning revert) m := by
  have hle : (bookkeeping : Allowed σ P).Le (returning revert) := by
    refine ⟨fun _ _ h => h, fun event h => ?_, fun h => h, fun _ h => h.elim⟩
    cases event <;> trivial
  exact h.mono fun _ _ hmoves => hmoves.mono hle

theorem makes_returning_of_emission {m : RuntimeM σ P α}
    (h : Makes env (emission HostEvent.Calling True revert) m) : Makes env (returning revert) m := by
  have hle : (emission HostEvent.Calling True revert : Allowed σ P).Le (returning revert) :=
    ⟨fun _ _ _ => trivial, fun _ h => h, fun h => h, fun _ h => h⟩
  exact h.mono fun _ _ hmoves => hmoves.mono hle

variable {previousState : P} (ctx : StrategyCtx) (eventTs : ℤ) (bar : BarEvent)
  (intents : List Intent)

theorem makes_filterPaperIntents (hprevious : revert previousState) :
    Makes env (returning revert)
      (filterPaperIntentsForSimulation ctx eventTs intents previousState) := by
  refine makes_returning_of_emission ?_
  refine within_read_bind ?_
  split
  · exact within_pure _
  · dsimp only
    split
    · exact within_bind (makes_restoreStrategyState (fun _ => trivial) hprevious _) fun _ =>
        within_pure _
    · exact within_pure _

theorem makes_simulateBar (hprevious : revert previousState) :
    Makes env (returning revert) (simulateBar ctx eventTs bar intents previousState) := by
  have hpersist : Makes env (returning revert) (persistState none) :=
    makes_persistState returning_asks fun _ => trivial
  refine within_read_bind <| within_bind
    (makes_returning_of_emission (makes_flushStrategyJournalRecords fun _ => trivial)) fun _ => ?_
  split
  · exact within_bind (makes_returning_of_bookkeeping (makes_simulateFills bar)) fun _ =>
      within_bind (makes_filterPaperIntents ctx eventTs intents hprevious) fun _ =>
      within_bind (makes_returning_of_bookkeeping (makes_recordNonLiveIntents _ _)) fun _ =>
      within_bind (makes_returning_of_bookkeeping (makes_simulateIntents bar _)) fun _ => hpersist
  · exact hpersist

theorem makes_emitBar (hprevious : revert previousState) :
    Makes env (returning revert) (emitBar eventTs bar intents previousState) := by
  refine makes_returning_of_emission <| within_bind (makes_strategyCtx _ _) fun emitCtx =>
    within_bind (makes_now emission_asks) fun _ => ?_
  exact makes_applyIntents emitCtx eventTs _ intents hprevious

/-- What follows the callback of a bar can take the strategy back to where it was. -/
theorem makes_settleBar (hprevious : revert previousState) :
    Makes env (returning revert) (settleBar ctx eventTs bar intents previousState) := by
  refine within_read_bind ?_
  split
  · exact within_bind (makes_simulateBar ctx eventTs bar intents hprevious) fun _ =>
      makes_returning_of_bookkeeping makes_flushRiskGateSessionFinalizations
  · exact within_bind (makes_emitBar eventTs bar intents hprevious) fun _ =>
      makes_returning_of_bookkeeping makes_flushRiskGateSessionFinalizations

theorem makes_prepareBar : Makes env (returning revert) (prepareBar bar) := by
  have hle : (preparing : Allowed σ P).Le (returning revert) :=
    ⟨fun _ _ _ => trivial, fun _ h => h, fun _ => trivial, fun _ h => h.elim⟩
  have hprepares {α : Type} {m : RuntimeM σ P α} (h : Makes env preparing m) :
      Makes env (returning revert) m := h.mono fun _ _ hmoves => hmoves.mono hle
  have hsee : ∀ s : StrategyRuntime σ P, SameView s (seeLiveBar bar s) := by
    intro s
    unfold seeLiveBar
    split
    · exact ⟨rfl, rfl, rfl, rfl, rfl, rfl, rfl⟩
    · exact .refl s
  have hwait : Makes env preparing (maybeWaitForLiveBarReadiness bar) := by
    refine within_read_bind ?_
    split
    · exact within_pure _
    · refine within_bind (makes_evaluateGuardDecision fun _ => trivial) fun decision => ?_
      split
      · exact within_pure _
      · exact within_bind (makes_maybeWait (fun _ => trivial) decision) fun _ => within_pure _
  exact within_get_bind fun rt =>
    within_bind (hprepares (makes_normalizeEventTs _)) fun eventTs =>
    within_bind (makes_book hsee fun _ => trivial) fun _ => within_bind (hprepares hwait) fun _ =>
    within_bind (hprepares (makes_strategyCtx _ _)) fun _ => within_pure _

/-- What holds along handlers holds up to the callback of a bar. -/
theorem Observes.within_prepareBar (h : Observes env R) (bar : BarEvent) :
    Within env R (prepareBar bar) := by
  have hle : (returning (fun _ => False) : Allowed σ P).Le StrategyRuntime.forward :=
    ⟨fun _ _ h => h, fun _ => HostEvent.Calling.handling, fun h => h, fun _ h => h⟩
  exact h.within_forward ((makes_prepareBar bar).mono fun _ _ hmoves => hmoves.mono hle)

end Settling

section Bar

variable {env : Env σ P} {bars : Set (List BarEvent)} {fed refed : List BarEvent} {marks : BarMarks}

theorem keeps_settleBar (ctx : StrategyCtx) (eventTs : ℤ) (bar : BarEvent) (intents : List Intent)
    {previousState : P × List BarEvent} (hprevious : previousState.2 ∈ bars) :
    Within env.traced (Keeps bars refed marks)
      (settleBar ctx eventTs bar intents previousState) := by
  have hmakes : Makes env.traced (returning (·.2 ∈ bars))
      (settleBar ctx eventTs bar intents previousState) := by
    refine makes_settleBar ctx eventTs bar intents ?_
    exact hprevious
  exact keeps_of_makes (fun _ h => h) hmakes

variable (stream messageId : String)

/-- The acknowledgment of a bar is written or not, and nothing else. -/
theorem wp_xack (s : TracedRuntime σ P) :
    wp (xack stream messageId) env.traced s
      (fun _ t => SameFrame { s with log := t.log } t ∧ t.log = s.log ++ [.acked stream messageId])
      fun _ t => SameFrame { s with log := t.log } t ∧
        (t.log = s.log ∨ t.log = s.log ++ [.acked stream messageId]) := by
  simp only [xack, write, wp_bind, wp_ask]
  cases env.traced.delivery s.tick with
  | done => exact ⟨⟨rfl, rfl, rfl, rfl⟩, rfl⟩
  | refused => exact ⟨⟨rfl, rfl, rfl, rfl⟩, .inl rfl⟩
  | lost => exact ⟨⟨rfl, rfl, rfl, rfl⟩, .inr rfl⟩

theorem carries_acked :
    Carries bars marks (.acked stream messageId : HostEvent (P × List BarEvent)) := by
  intro snapshot hsnap
  cases hsnap

variable {rt : TracedRuntime σ P}

theorem keeps_handleBar_of_duplicate {bar : BarEvent}
    (hdup : rt.state.isDuplicateBar bar.symbol bar.closeTimeUtc = true) :
    wp (handleBar stream messageId bar) env.traced rt
      (fun _ t => Keeps bars refed marks rt t) fun _ t => Keeps bars refed marks rt t := by
  rw [handleBar, wp_bind, wp_read, wp_bind, wp_get, if_pos hdup]
  exact keeps_observes.within_xack stream messageId rt

theorem wp_markBar {s : TracedRuntime σ P} (h : Reflects bars refed marks s)
    (stream messageId : String) (bar : BarEvent) :
    wp (do modifyState fun state => state.updateLastBarTs bar.symbol bar.closeTimeUtc
           xack stream messageId) env.traced s
      (fun _ t => Reflects bars refed (marks.insert bar.symbol bar.closeTimeUtc) t ∧
        Extends log (Carries bars marks) s t ∧ .acked stream messageId ∈ t.log)
      fun _ t => t.strategy.refed = refed ∧ Extends log (Carries bars marks) s t := by
  have hmarked : Reflects bars refed (marks.insert bar.symbol bar.closeTimeUtc)
      { s with state := s.state.updateLastBarTs bar.symbol bar.closeTimeUtc } := by
    refine ⟨h.persisted, h.fed, h.refed, ?_⟩
    rw [← h.marks]
    rfl
  have hpush : ∀ t : TracedRuntime σ P, t.log = s.log ++ [.acked stream messageId] →
      Extends log (Carries bars marks) s t :=
    fun t hlog => .push hlog (carries_acked stream messageId)
  rw [wp_bind, modifyState, wp_modify]
  refine wp_mono (wp_xack stream messageId _) (fun _ t ht => ?_) fun _ t ht => ?_
  · obtain ⟨hsame, hlog⟩ := ht
    refine ⟨(hsame.keeps ⟨hmarked.persisted, hmarked.fed, hmarked.refed, hmarked.marks⟩).1,
      hpush t hlog, ?_⟩
    rw [hlog]
    exact List.mem_append_right _ (List.mem_singleton.mpr rfl)
  · obtain ⟨hsame, hlog⟩ := ht
    refine ⟨(congrArg Traced.refed hsame.strategy).trans h.refed, ?_⟩
    rcases hlog with hlog | hlog
    · exact .of_eq hlog
    · exact hpush t hlog

/-- A bar that is no duplicate joins the bars, unless its callback is undone.  The snapshots on
the way have the marks from before the bar, also those that already contain it. -/
theorem wp_handleBar_of_fresh (h : Reflects {fed} refed marks rt) (stream messageId : String)
    {bar : BarEvent} (hfresh : rt.state.isDuplicateBar bar.symbol bar.closeTimeUtc = false) :
    wp (handleBar stream messageId bar) env.traced rt
      (fun _ t => Reflects {fed, fed ++ [bar]} (refedAfter fed refed bar)
          (marks.insert bar.symbol bar.closeTimeUtc) t ∧
        Extends log (Carries {fed, fed ++ [bar]} marks) rt t ∧ .acked stream messageId ∈ t.log)
      fun _ t => (t.strategy.refed = refed ∨ t.strategy.refed = refedAfter fed refed bar) ∧
        Extends log (Carries {fed, fed ++ [bar]} marks) rt t := by
  have hprepare : Within env.traced (Keeps {fed} refed marks)
      (prepareBar bar : RuntimeM (Traced σ) (P × List BarEvent) (StrategyCtx × ℤ)) :=
    keeps_observes.within_prepareBar bar
  have hgrow : ∀ s, Extends log (Carries {fed} marks) rt s →
      Extends log (Carries {fed, fed ++ [bar]} marks) rt s :=
    fun s hlog => hlog.mono fun _ hevent => hevent.mono (by simp)
  rw [handleBar, wp_bind, wp_read, wp_bind, wp_get, if_neg (by simp [hfresh]), wp_bind]
  refine wp_mono (hprepare rt) (fun prepared s hs => ?_) fun _ s hs => ?_
  · obtain ⟨ctx, eventTs⟩ := prepared
    obtain ⟨hs, hlog⟩ := hs h
    have hfed : s.strategy.fed = fed := hs.fed
    -- the callback contains the bar; the state that it may go back to does not
    have hcalled : Reflects {fed, fed ++ [bar]} (refedAfter fed refed bar) marks
        (afterCallback env.traced.strategy (env.traced.strategy.onBar s.strategy ctx bar).1 s) := by
      refine ⟨rfl, .inr ?_, ?_, hs.marks⟩
      · show s.strategy.fed ++ [bar] = fed ++ [bar]
        rw [hfed]
      · show refedAfter s.strategy.fed s.strategy.refed bar = refedAfter fed refed bar
        rw [hfed, hs.refed]
    have hprevious : s.state.strategyState.2 ∈ ({fed, fed ++ [bar]} : Set (List BarEvent)) := by
      rw [hs.persisted, hfed]
      exact .inl rfl
    have hsettle : ∀ intents, Within env.traced
        (Keeps {fed, fed ++ [bar]} (refedAfter fed refed bar) marks)
        (settleBar ctx eventTs bar intents s.state.strategyState) :=
      fun intents => keeps_settleBar ctx eventTs bar intents hprevious
    rw [wp_bind, wp_invokeStrategyCallback]
    rw [wp_bind]
    refine wp_mono (hsettle _ _) (fun _ u hu => ?_) fun _ u hu => ?_
    · obtain ⟨hu, hlog'⟩ := hu hcalled
      have hsofar := (hgrow s hlog).trans hlog'
      refine wp_mono (wp_markBar hu stream messageId bar) (fun _ t ht => ?_) fun _ t ht => ?_
      · exact ⟨ht.1, hsofar.trans ht.2.1, ht.2.2⟩
      · exact ⟨.inr ht.1, hsofar.trans ht.2⟩
    · obtain ⟨hu, hlog'⟩ := hu hcalled
      exact ⟨.inr hu.refed, (hgrow s hlog).trans hlog'⟩
  · obtain ⟨hs, hlog⟩ := hs h
    exact ⟨.inl hs.refed, hgrow s hlog⟩

end Bar

end StrategyRuntime

end AlorRs
