import AlorRs.StrategyRuntime.Equiv.Runtime.Emission

/-!
# Answers to the intents of a batch

In live mode an intent is answered by its command, by a rejection that the runtime makes up, or
by a blocked event; or else the strategy goes back to its state before the callback.  When
`applyIntents` ends well it does one or the other unless intents were dropped beside others that
were not (`applyIntents_accountedFor_iff`).
-/

namespace AlorRs

open Eff

/-- A command, or a call to the strategy that answers for an intent or takes its state back. -/
def HostEvent.isAnswer {P : Type} : HostEvent P → Bool
  | .published _ _ => true
  | .called _ => true
  | _ => false

namespace StrategyRuntime

open RuntimeM

variable {σ P : Type}

/-! ### Answers -/

/-- The event answers for the intent of a class. -/
inductive Answers (env : Env σ P) (ctx : StrategyCtx) (createdTsUtc : ℤ) :
    Intent × IntentClass → HostEvent P → Prop
  | published (intent : Intent × IntentClass) (s : σ) (snapshot : RuntimeStateSnapshot P) :
    Answers env ctx createdTsUtc intent
      (.published (intentToCommand env s ctx createdTsUtc intent.1 intent.2) snapshot)
  | preEmitAck (intent : Intent × IntentClass) (s : σ) (processedTsUtc : ℤ) :
    Answers env ctx createdTsUtc intent
      (.called (.preEmitAck (.rejected
        (intentToCommand env s ctx createdTsUtc intent.1 intent.2).requestId
        "trading_window_closed" "validation failed" processedTsUtc)))
  | blocked (intent : Intent × IntentClass) (decision : LiveGuardDecision) :
    Answers env ctx createdTsUtc intent
      (.called (.intentBlocked (intentBlocked decision createdTsUtc intent)))

/-- The new part of the log, without what neither answers for an intent nor takes the state
back. -/
def NewAnswers (s : StrategyRuntime σ P) (answers : List (HostEvent P))
    (t : StrategyRuntime σ P) : Prop :=
  ∃ new, t.log = s.log ++ new ∧ new.filter HostEvent.isAnswer = answers

variable {t u : StrategyRuntime σ P} {a : List (HostEvent P)} {s : StrategyRuntime σ P}

theorem NewAnswers.trans {b : List (HostEvent P)} (h : NewAnswers s a t) (h' : NewAnswers t b u) :
    NewAnswers s (a ++ b) u := by
  obtain ⟨new, hlog, rfl⟩ := h
  obtain ⟨new', hlog', rfl⟩ := h'
  exact ⟨new ++ new', by rw [hlog', hlog, List.append_assoc], List.filter_append ..⟩

abbrev quiet : Allowed σ P := emission (fun event => event.isAnswer = false) True fun _ => False

variable {strategy : Strategy σ P}

theorem NewAnswers.of_quiet (h : Moves strategy quiet s t) : NewAnswers s [] t := by
  obtain ⟨new, hlog, hnew⟩ := h.extends
  refine ⟨new, hlog, List.filter_eq_nil_iff.mpr fun event hevent => ?_⟩
  have hquiet : event.isAnswer = false := hnew event hevent
  rw [hquiet]
  exact Bool.false_ne_true

theorem NewAnswers.then_quiet (h : NewAnswers s a t) (h' : Moves strategy quiet t u) :
    NewAnswers s a u := by
  have := h.trans (.of_quiet h')
  rwa [List.append_nil] at this

theorem NewAnswers.after_quiet (h : Moves strategy quiet s t) (h' : NewAnswers t a u) :
    NewAnswers s a u := (NewAnswers.of_quiet h).trans h'

section Emit

variable {env : Env σ P} {ctx : StrategyCtx} {createdTsUtc dispatchTsUtc : ℤ}

theorem quiet_flush : Makes env quiet flushStrategyJournalRecords :=
  makes_flushStrategyJournalRecords fun _ => rfl

theorem quiet_persist : Makes env quiet (persistState none) :=
  makes_persistState emission_asks fun _ => rfl

variable (intent : Intent × IntentClass) (s : StrategyRuntime σ P)

theorem wp_publishIntent :
    wp (publishIntent ctx createdTsUtc intent.1 intent.2) env s
      (fun _ t => ∃ answer, NewAnswers s [answer] t ∧ Answers env ctx createdTsUtc intent answer)
      fun _ _ => True := by
  have hprepared : ∀ command, Makes env quiet (notifyCommandPrepared ctx command intent.2) :=
    fun command => makes_notifyCommandPrepared trivial ctx command intent.2
  have hasks : (emission (fun _ => True) True fun _ => True : Allowed σ P).Asks := emission_asks
  have hpersist : ∀ command t, wp (persistState (some command)) env t
      (fun _ u => Moves env.strategy (emission (fun _ => True) True fun _ => True) t u ∧
        ∃ tsUtc, u.log = t.log ++ [.published command (t.snapshot tsUtc)])
      fun _ u => Moves env.strategy (emission (fun _ => True) True fun _ => True) t u :=
    fun command t => wp_persistState hasks (fun _ => trivial) t
  unfold publishIntent
  rw [wp_bind, wp_read, wp_bind, wp_get, wp_bind]
  refine wp_mono (hprepared _ s) (fun _ t ht => ?_) fun _ _ _ => trivial
  rw [wp_bind]
  refine wp_mono (hpersist _ t) (fun _ u hu => ?_) fun _ _ _ => trivial
  obtain ⟨-, tsUtc, hlog⟩ := hu
  rw [wp_modify]
  exact ⟨_, .after_quiet ht ⟨_, hlog, rfl⟩, .published intent s.strategy _⟩

theorem wp_deferExit :
    wp (deferExit ctx createdTsUtc dispatchTsUtc intent.1 intent.2) env s
      (fun _ t => ∃ answer, NewAnswers s [answer] t ∧ Answers env ctx createdTsUtc intent answer)
      fun _ _ => True := by
  have hprepared : ∀ command, Makes env quiet (notifyCommandPrepared ctx command intent.2) :=
    fun command => makes_notifyCommandPrepared trivial ctx command intent.2
  have hctx : ∀ lastBarTs, Makes env quiet (strategyCtx lastBarTs dispatchTsUtc) :=
    fun lastBarTs => makes_strategyCtx lastBarTs dispatchTsUtc
  unfold deferExit
  rw [wp_bind, wp_read, wp_bind, wp_get, wp_bind]
  refine wp_mono (hprepared _ s) (fun _ t ht => ?_) fun _ _ _ => trivial
  rw [wp_bind, wp_get, wp_bind]
  refine wp_mono (hctx _ t) (fun ackCtx u hu => ?_) fun _ _ _ => trivial
  rw [wp_bind, wp_record, wp_bind, wp_invokeStrategyCallback, wp_bind]
  refine wp_mono (quiet_flush _) (fun _ v hv => ?_) fun _ _ _ => trivial
  refine wp_mono (quiet_persist _) (fun _ w hw => ?_) fun _ _ _ => trivial
  -- the strategy's answer to the rejection leaves the log alone
  exact ⟨_, .after_quiet (ht.trans hu) (.then_quiet ⟨_, rfl, rfl⟩ (hv.trans hw)),
    .preEmitAck intent s.strategy _⟩

theorem wp_emitIntent :
    wp (emitIntent ctx createdTsUtc dispatchTsUtc intent.1 intent.2) env s
      (fun _ t => ∃ answer, NewAnswers s [answer] t ∧ Answers env ctx createdTsUtc intent answer)
      fun _ _ => True := by
  rw [emitIntent, wp_bind, maybeDeferExitBeforeEmit, wp_bind, wp_read]
  split
  · exact wp_publishIntent intent s
  · split
    · exact wp_publishIntent intent s
    · exact wp_publishIntent intent s
    · rw [wp_bind]
      exact wp_deferExit intent s

theorem wp_emitIntents (intents : List (Intent × IntentClass)) (s : StrategyRuntime σ P) :
    wp (emitIntents ctx createdTsUtc dispatchTsUtc intents) env s
      (fun _ t => ∃ answers, NewAnswers s answers t ∧
        List.Forall₂ (Answers env ctx createdTsUtc) intents answers)
      fun _ _ => True := by
  induction intents generalizing s with
  | nil => exact ⟨[], ⟨[], (List.append_nil _).symm, rfl⟩, .nil⟩
  | cons intent intents ih =>
    rw [emitIntents, wp_bind]
    refine wp_mono (wp_emitIntent intent s) (fun _ t ht => ?_) fun _ _ _ => trivial
    obtain ⟨answer, hnew, hanswer⟩ := ht
    refine wp_mono (ih t) (fun _ u hu => ?_) fun _ _ _ => trivial
    obtain ⟨answers, hnew', hanswers⟩ := hu
    exact ⟨answer :: answers, hnew.trans hnew', .cons hanswer hanswers⟩

def keepsState (strategy : Strategy σ P) (ctx : StrategyCtx) : σ → List IntentBlocked → Bool
  | _, [] => false
  | s, event :: events =>
    let (s, disposition) := strategy.onIntentBlocked s ctx event
    let (s, _) := strategy.drainObservationJournalRecords s
    disposition = .keepStrategyState || keepsState strategy ctx s events

theorem wp_notifyIntentsBlocked (decision : LiveGuardDecision)
    (intents : List (Intent × IntentClass)) (s : StrategyRuntime σ P) :
    wp (notifyIntentsBlocked ctx (intents.map (intentBlocked decision createdTsUtc))) env s
      (fun kept t => kept = keepsState env.strategy ctx s.strategy
          (intents.map (intentBlocked decision createdTsUtc)) ∧
        ∃ answers, NewAnswers s answers t ∧
          List.Forall₂ (Answers env ctx createdTsUtc) intents answers)
      fun _ _ => True := by
  induction intents generalizing s with
  | nil => exact ⟨rfl, [], ⟨[], (List.append_nil _).symm, rfl⟩, .nil⟩
  | cons intent intents ih =>
    rw [List.map_cons, notifyIntentsBlocked, wp_bind, wp_read, wp_bind, wp_get]
    rw [wp_bind, wp_record, wp_bind, wp_modify, wp_bind]
    refine wp_mono (ih _) (fun kept t ht => ?_) fun _ _ _ => trivial
    obtain ⟨hkept, answers, hnew, hanswers⟩ := ht
    refine ⟨?_, .called (.intentBlocked (intentBlocked decision createdTsUtc intent)) :: answers,
      ?_, .cons (.blocked intent decision) hanswers⟩
    · rw [hkept]
      rfl
    · exact NewAnswers.trans (a := [_]) ⟨_, rfl, rfl⟩ hnew

end Emit

/-! ### Batches -/

section Batch

variable (env : Env σ P) (ctx : StrategyCtx) (createdTsUtc dispatchTsUtc : ℤ)
  (intents : List Intent) (previousState : P)

/-- Every intent of the batch was answered, or the strategy has its state from before the
callback. -/
def AccountedFor (s t : StrategyRuntime σ P) : Prop :=
  ∃ new, t.log = s.log ++ new ∧ ((∃ answers, answers.Sublist new ∧
        List.Forall₂ (fun intent => Answers env ctx createdTsUtc
          (intent, resolveIntentClass ctx intent)) intents answers) ∨
      (∃ reason, .called (.stateReverted reason) ∈ new) ∧ t.state.strategyState = previousState ∧
        ∃ s', t.strategy = env.strategy.setState s' previousState)

def InWindow (intent : Intent) : Prop :=
  tradingWindowAllowsOrder env.config ctx dispatchTsUtc (resolveIntentClass ctx intent) = true

def PassesGuard (intent : Intent) : Prop :=
  passesBlockedGuard ctx (resolveIntentClass ctx intent) = true

variable (decision : LiveGuardDecision)

def blockedEvents : List IntentBlocked :=
  (acceptedIntents env.config ctx dispatchTsUtc intents).map (intentBlocked decision createdTsUtc)

/-- The batch is dropped as a whole, or goes out as a whole, or is blocked as far as the window
lets it pass and the strategy in state `s` does not keep its state. -/
def DroppedAsOne (s : σ) : Prop :=
  (∀ intent ∈ intents, ¬ InWindow env ctx dispatchTsUtc intent) ∨
  ((∀ intent ∈ intents, InWindow env ctx dispatchTsUtc intent) ∧
    (decision.allowed = true ∨ (∀ intent ∈ intents, PassesGuard ctx intent) ∨
      ∀ intent ∈ intents, ¬ PassesGuard ctx intent)) ∨
  (decision.allowed = false ∧
    (∀ intent ∈ intents, InWindow env ctx dispatchTsUtc intent → ¬ PassesGuard ctx intent) ∧
    keepsState env.strategy ctx s
      (blockedEvents env ctx createdTsUtc dispatchTsUtc intents decision) = false)

def guardOutcome (rt : StrategyRuntime σ P) : LiveGuardDecision :=
  match (guardDecision.run env rt).1 with
  | .ok decision => decision
  | .error _ => ⟨false, []⟩

end Batch

/-! ### What the live branch answers -/

section Outcome

variable {env : Env σ P} {ctx : StrategyCtx} {createdTsUtc dispatchTsUtc : ℤ}
  {intents : List Intent} {previousState : P}

/-- The accepted intents that pass while the guard blocks. -/
def passingIntents (env : Env σ P) (ctx : StrategyCtx) (dispatchTsUtc : ℤ)
    (intents : List Intent) : List (Intent × IntentClass) :=
  (acceptedIntents env.config ctx dispatchTsUtc intents).filter fun intent =>
    passesBlockedGuard ctx intent.2

def RollsBack (env : Env σ P) (ctx : StrategyCtx) (createdTsUtc dispatchTsUtc : ℤ)
    (intents : List Intent) (decision : LiveGuardDecision) (s : σ) : Prop :=
  acceptedIntents env.config ctx dispatchTsUtc intents = [] ∨
  (decision.allowed = false ∧ passingIntents env ctx dispatchTsUtc intents = [] ∧
    keepsState env.strategy ctx s
      (blockedEvents env ctx createdTsUtc dispatchTsUtc intents decision) = false)

def answeredIntents (env : Env σ P) (ctx : StrategyCtx) (dispatchTsUtc : ℤ)
    (intents : List Intent) (decision : LiveGuardDecision) : List (Intent × IntentClass) :=
  if decision.allowed = true ∨ passingIntents env ctx dispatchTsUtc intents = [] then
    acceptedIntents env.config ctx dispatchTsUtc intents
  else passingIntents env ctx dispatchTsUtc intents

def Reverted (env : Env σ P) (previousState : P) (answers : List (HostEvent P))
    (t : StrategyRuntime σ P) : Prop :=
  (∃ reason, .called (.stateReverted reason) ∈ answers) ∧
    t.state.strategyState = previousState ∧ ∃ s', t.strategy = env.strategy.setState s' previousState

/-- Moves that neither answer nor let the strategy react. -/
abbrev still : Allowed σ P := emission (fun event => event.isAnswer = false) False fun _ => False

theorem Moves.quiet_of_still (h : Moves env.strategy still s t) : Moves env.strategy quiet s t := by
  have hle : (still : Allowed σ P).Le quiet :=
    ⟨fun _ _ h => h, fun _ h => h, False.elim, fun _ h => h⟩
  exact h.mono hle

theorem Moves.still_eq (h : Moves env.strategy still s t) :
    t.strategy = s.strategy ∧ t.state.strategyState = s.state.strategyState :=
  h.strategy_eq id fun _ => id

theorem wp_restore (reason : String) (s : StrategyRuntime σ P) :
    wp (do restoreStrategyState previousState reason; persistState none : RuntimeM σ P Unit) env s
      (fun _ t => ∃ answers, NewAnswers s answers t ∧ Reverted env previousState answers t)
      fun _ _ => True := by
  have hpersist : Makes env still (persistState none) :=
    makes_persistState emission_asks fun _ => rfl
  rw [restoreStrategyState, wp_bind, wp_bind, wp_read, wp_bind, wp_record, wp_modify]
  refine wp_mono (hpersist _) (fun _ t ht => ?_) fun _ _ _ => trivial
  obtain ⟨hstrategy, hstate⟩ := ht.still_eq
  refine ⟨_, .then_quiet ⟨_, rfl, rfl⟩ ht.quiet_of_still, ⟨reason, List.mem_singleton_self _⟩,
    hstate, s.strategy, hstrategy⟩

def RevertedOrAnswered (env : Env σ P) (ctx : StrategyCtx) (createdTsUtc dispatchTsUtc : ℤ) (intents : List Intent)
    (previousState : P) (decision : LiveGuardDecision) (s t : StrategyRuntime σ P) : Prop :=
  ∃ answers, NewAnswers s answers t ∧
    (RollsBack env ctx createdTsUtc dispatchTsUtc intents decision s.strategy ∧
        Reverted env previousState answers t ∨
      ¬ RollsBack env ctx createdTsUtc dispatchTsUtc intents decision s.strategy ∧
        List.Forall₂ (Answers env ctx createdTsUtc)
          (answeredIntents env ctx dispatchTsUtc intents decision) answers)

/-- What the live branch does once the guard decided: it rolls back, or it answers the intents
that are to be answered. -/
theorem wp_emitDecided_answers (decision : LiveGuardDecision) (s : StrategyRuntime σ P)
    (haccepted : acceptedIntents env.config ctx dispatchTsUtc intents ≠ []) :
    wp (emitDecided ctx createdTsUtc dispatchTsUtc decision
        (acceptedIntents env.config ctx dispatchTsUtc intents) previousState) env s
      (fun _ => RevertedOrAnswered env ctx createdTsUtc dispatchTsUtc intents previousState decision s)
      fun _ _ => True := by
  have hemit : ∀ list, (¬ RollsBack env ctx createdTsUtc dispatchTsUtc intents decision s.strategy) →
      answeredIntents env ctx dispatchTsUtc intents decision = list →
      wp (emitIntents ctx createdTsUtc dispatchTsUtc list) env s
        (fun _ => RevertedOrAnswered env ctx createdTsUtc dispatchTsUtc intents previousState decision s)
        fun _ _ => True := by
    rintro list hroll rfl
    refine wp_mono (wp_emitIntents _ s) (fun _ t ht => ?_) fun _ _ _ => trivial
    obtain ⟨answers, hnew, hanswers⟩ := ht
    exact ⟨answers, hnew, .inr ⟨hroll, hanswers⟩⟩
  unfold emitDecided
  split
  · next hallowed =>
    -- everything that the window accepted goes out
    refine hemit _ ?_ ?_
    · rintro (h | ⟨h, -⟩)
      · exact haccepted h
      · rw [hallowed] at h
        cases h
    · exact if_pos (.inl hallowed)
  · next hnot =>
    have hblocked : decision.allowed = false := by simpa using hnot
    dsimp only
    split
    · next hempty =>
      have hpassing : passingIntents env ctx dispatchTsUtc intents = [] :=
        List.isEmpty_iff.mp hempty
      -- nothing passes, so all that was accepted is blocked
      have hall : ((acceptedIntents env.config ctx dispatchTsUtc intents).filter fun intent =>
          !passesBlockedGuard ctx intent.2) = acceptedIntents env.config ctx dispatchTsUtc intents := by
        refine List.filter_eq_self.mpr fun intent hmem => ?_
        have := List.filter_eq_nil_iff.mp hpassing intent hmem
        simpa using this
      rw [hall, wp_bind]
      refine wp_mono (wp_notifyIntentsBlocked decision _ s) (fun kept t ht => ?_)
        fun _ _ _ => trivial
      obtain ⟨hkept, answers, hnew, hanswers⟩ := ht
      split
      · next htrue =>
        rw [wp_bind]
        refine wp_mono (quiet_flush t) (fun _ u hu => ?_) fun _ _ _ => trivial
        refine wp_mono (quiet_persist u) (fun _ v hv => ?_) fun _ _ _ => trivial
        refine ⟨answers, hnew.then_quiet (hu.trans hv), .inr ⟨?_, ?_⟩⟩
        · rintro (h | ⟨-, -, h⟩)
          · exact haccepted h
          · rw [blockedEvents, ← hkept, htrue] at h
            cases h
        · rw [answeredIntents, if_pos (.inr hpassing)]
          exact hanswers
      · next hfalse =>
        refine wp_mono (wp_restore "intent_dropped_by_guard" t) (fun _ u hu => ?_)
          fun _ _ _ => trivial
        obtain ⟨reverted, hnew', ⟨reason, hmem⟩, hstate⟩ := hu
        refine ⟨answers ++ reverted, hnew.trans hnew', .inl ⟨.inr ⟨hblocked, hpassing, ?_⟩,
          ⟨reason, List.mem_append_right _ hmem⟩, hstate⟩⟩
        rw [blockedEvents, ← hkept]
        simpa using hfalse
    · next hnonempty =>
      have hpassing : passingIntents env ctx dispatchTsUtc intents ≠ [] :=
        fun h => hnonempty (List.isEmpty_iff.mpr h)
      refine hemit _ ?_ ?_
      · rintro (h | ⟨-, h, -⟩)
        · exact haccepted h
        · exact hpassing h
      · refine if_neg ?_
        rintro (h | h)
        · exact hnot h
        · exact hpassing h

theorem wp_applyIntentsLive_answers (s : StrategyRuntime σ P) :
    wp (applyIntentsLive ctx createdTsUtc dispatchTsUtc intents previousState) env s
      (fun _ t => ∃ answers, NewAnswers s answers t ∧
        (RollsBack env ctx createdTsUtc dispatchTsUtc intents (guardOutcome env s) s.strategy ∧
            Reverted env previousState answers t ∨
          ¬ RollsBack env ctx createdTsUtc dispatchTsUtc intents (guardOutcome env s) s.strategy ∧
            List.Forall₂ (Answers env ctx createdTsUtc)
              (answeredIntents env ctx dispatchTsUtc intents (guardOutcome env s)) answers))
      fun _ _ => True := by
  have hguard : Makes env still guardDecision := makes_guardDecision fun _ => rfl
  rw [applyIntentsLive, wp_bind, wp_read]
  dsimp only
  split
  · next hempty =>
    refine wp_mono (wp_restore "intent_dropped_before_emit" s) (fun _ t ht => ?_)
      fun _ _ _ => trivial
    obtain ⟨answers, hnew, hreverted⟩ := ht
    exact ⟨answers, hnew, .inl ⟨.inl (List.isEmpty_iff.mp hempty), hreverted⟩⟩
  · next hnonempty =>
    have haccepted : acceptedIntents env.config ctx dispatchTsUtc intents ≠ [] :=
      fun h => hnonempty (List.isEmpty_iff.mpr h)
    rw [wp_bind]
    refine wp_mono (wp_and (hguard s) (wp_self _)) (fun decision t ht => ?_) fun _ _ _ => trivial
    obtain ⟨hmoves, hrun⟩ := ht
    have hdecision : guardOutcome env s = decision := by rw [guardOutcome, hrun]
    refine wp_mono (wp_emitDecided_answers decision t haccepted) (fun _ u hu => ?_)
      fun _ _ _ => trivial
    obtain ⟨answers, hnew, hcases⟩ := hu
    rw [hmoves.still_eq.1, ← hdecision] at hcases
    exact ⟨answers, .after_quiet hmoves.quiet_of_still hnew, hcases⟩

/-! ### When every intent is accounted for -/

variable {intent : Intent × IntentClass}

theorem mem_acceptedIntents :
    intent ∈ acceptedIntents env.config ctx dispatchTsUtc intents ↔
      ∃ base ∈ intents, InWindow env ctx dispatchTsUtc base ∧
        intent = (base, resolveIntentClass ctx base) := by
  simp only [acceptedIntents, List.mem_filter, List.mem_map, InWindow]
  constructor
  · rintro ⟨⟨base, hbase, rfl⟩, hwindow⟩
    exact ⟨base, hbase, hwindow, rfl⟩
  · rintro ⟨base, hbase, hwindow, rfl⟩
    exact ⟨⟨base, hbase, rfl⟩, hwindow⟩

theorem acceptedIntents_eq_nil : acceptedIntents env.config ctx dispatchTsUtc intents = [] ↔
    ∀ intent ∈ intents, ¬ InWindow env ctx dispatchTsUtc intent := by
  rw [List.eq_nil_iff_forall_not_mem]
  constructor
  · intro h intent hmem hwindow
    exact h _ (mem_acceptedIntents.mpr ⟨intent, hmem, hwindow, rfl⟩)
  · intro h intent hmem
    obtain ⟨base, hbase, hwindow, -⟩ := mem_acceptedIntents.mp hmem
    exact h base hbase hwindow

theorem passingIntents_eq_nil : passingIntents env ctx dispatchTsUtc intents = [] ↔
    ∀ intent ∈ intents, InWindow env ctx dispatchTsUtc intent → ¬ PassesGuard ctx intent := by
  rw [passingIntents, List.filter_eq_nil_iff]
  constructor
  · intro h intent hmem hwindow
    exact h _ (mem_acceptedIntents.mpr ⟨intent, hmem, hwindow, rfl⟩)
  · intro h intent hmem
    obtain ⟨base, hbase, hwindow, rfl⟩ := mem_acceptedIntents.mp hmem
    exact h base hbase hwindow

def classified (ctx : StrategyCtx) (intents : List Intent) : List (Intent × IntentClass) :=
  intents.map fun intent => (intent, resolveIntentClass ctx intent)

theorem acceptedIntents_eq_classified :
    acceptedIntents env.config ctx dispatchTsUtc intents = classified ctx intents ↔
      ∀ intent ∈ intents, InWindow env ctx dispatchTsUtc intent := by
  rw [acceptedIntents, classified, List.filter_eq_self, List.forall_mem_map]
  rfl

theorem passingIntents_eq_classified :
    passingIntents env ctx dispatchTsUtc intents = classified ctx intents ↔
      (∀ intent ∈ intents, InWindow env ctx dispatchTsUtc intent) ∧
      ∀ intent ∈ intents, PassesGuard ctx intent := by
  rw [passingIntents, acceptedIntents, List.filter_filter, classified, List.filter_eq_self,
    List.forall_mem_map, ← forall₂_and]
  refine forall₂_congr fun intent _ => ?_
  rw [Bool.and_eq_true, and_comm]
  rfl

variable {decision : LiveGuardDecision}

theorem answeredIntents_sublist :
    (answeredIntents env ctx dispatchTsUtc intents decision).Sublist (classified ctx intents) := by
  unfold answeredIntents
  split
  · exact List.filter_sublist
  · exact List.filter_sublist.trans List.filter_sublist

/-- The batch is dropped as one where the strategy goes back or all of it is answered. -/
theorem droppedAsOne_iff {s : σ} :
    DroppedAsOne env ctx createdTsUtc dispatchTsUtc intents decision s ↔
      RollsBack env ctx createdTsUtc dispatchTsUtc intents decision s ∨
      answeredIntents env ctx dispatchTsUtc intents decision = classified ctx intents := by
  constructor
  · rintro (hnone | ⟨hall, hgate⟩ | ⟨hblocked, hpass, hkeep⟩)
    · exact .inl (.inl (acceptedIntents_eq_nil.mpr hnone))
    · right
      unfold answeredIntents
      split
      · exact acceptedIntents_eq_classified.mpr hall
      · next hnot =>
        rcases hgate with hallowed | hpass | hpass
        · exact absurd (.inl hallowed) hnot
        · exact passingIntents_eq_classified.mpr ⟨hall, hpass⟩
        · exact absurd (.inr (passingIntents_eq_nil.mpr fun i hi _ => hpass i hi)) hnot
    · exact .inl (.inr ⟨hblocked, passingIntents_eq_nil.mpr hpass, hkeep⟩)
  · rintro ((hnone | ⟨hblocked, hpass, hkeep⟩) | hanswered)
    · exact .inl (acceptedIntents_eq_nil.mp hnone)
    · exact .inr (.inr ⟨hblocked, passingIntents_eq_nil.mp hpass, hkeep⟩)
    · right; left
      unfold answeredIntents at hanswered
      split at hanswered
      · next hgate =>
        have hall := acceptedIntents_eq_classified.mp hanswered
        refine ⟨hall, ?_⟩
        rcases hgate with hallowed | hnone
        · exact .inl hallowed
        · exact .inr (.inr fun i hi => passingIntents_eq_nil.mp hnone i hi (hall i hi))
      · obtain ⟨hall, hpass⟩ := passingIntents_eq_classified.mp hanswered
        exact ⟨hall, .inr (.inl hpass)⟩

variable {answers : List (HostEvent P)}

theorem forall₂_classified :
    List.Forall₂ (Answers env ctx createdTsUtc) (classified ctx intents) answers ↔
      List.Forall₂ (fun intent => Answers env ctx createdTsUtc
        (intent, resolveIntentClass ctx intent)) intents answers := List.forall₂_map_left_iff

variable {event : HostEvent P}

theorem Answers.isAnswer (h : Answers env ctx createdTsUtc intent event) : event.isAnswer = true := by
  cases h <;> rfl

theorem not_answers_stateReverted {reason : String} :
    ¬ Answers env ctx createdTsUtc intent (.called (.stateReverted reason) : HostEvent P) := nofun

variable {list : List (Intent × IntentClass)}

theorem exists_answers (h : List.Forall₂ (Answers env ctx createdTsUtc) list answers)
    (hmem : event ∈ answers) : ∃ intent, Answers env ctx createdTsUtc intent event := by
  induction h with
  | nil => exact absurd hmem List.not_mem_nil
  | cons hanswer _ ih =>
    rcases List.mem_cons.mp hmem with rfl | hmem
    · exact ⟨_, hanswer⟩
    · exact ih hmem

/-- Where the strategy does not go back and only some intents are answered, the others are not
accounted for. -/
theorem answered_eq_classified (hnew : NewAnswers s answers t)
    (hsub : list.Sublist (classified ctx intents))
    (hanswers : List.Forall₂ (Answers env ctx createdTsUtc) list answers)
    (h : AccountedFor env ctx createdTsUtc intents previousState s t) :
    list = classified ctx intents := by
  obtain ⟨new, hlog, hfilter⟩ := hnew
  obtain ⟨new', hlog', h⟩ := h
  rw [hlog, List.append_cancel_left_eq] at hlog'
  subst hlog'
  rcases h with ⟨answers', hsub', hanswers'⟩ | ⟨⟨reason, hmem⟩, -⟩
  · -- no more answers than answered intents
    rw [← forall₂_classified] at hanswers'
    have hself : answers'.filter HostEvent.isAnswer = answers' := by
      refine List.filter_eq_self.mpr fun event hevent => ?_
      obtain ⟨_, hanswer⟩ := exists_answers hanswers' hevent
      exact hanswer.isAnswer
    have hle : answers'.Sublist answers := by
      rw [← hfilter, ← hself]
      exact hsub'.filter _
    refine hsub.eq_of_length_le ?_
    rw [hanswers'.length_eq, hanswers.length_eq]
    exact hle.length_le
  · have hreverted : .called (.stateReverted reason) ∈ answers := by
      rw [← hfilter]
      exact List.mem_filter.mpr ⟨hmem, rfl⟩
    obtain ⟨_, hanswer⟩ := exists_answers hanswers hreverted
    exact absurd hanswer not_answers_stateReverted

/-- When `applyIntents` ends well in live mode, every intent is accounted for exactly where the
batch was dropped, sent or blocked as one. -/
theorem applyIntents_accountedFor_iff (hlive : env.config.tradeMode = .live)
    {rt rt' : StrategyRuntime σ P}
    (hok : (applyIntents ctx createdTsUtc dispatchTsUtc intents previousState).run env rt =
      (.ok (), rt')) :
    AccountedFor env ctx createdTsUtc intents previousState rt rt' ↔
      DroppedAsOne env ctx createdTsUtc dispatchTsUtc intents
        (guardOutcome env (flushStrategyJournalRecords.post env rt)) rt.strategy := by
  have hflush : Makes env still flushStrategyJournalRecords :=
    makes_flushStrategyJournalRecords fun _ => rfl
  by_cases hempty : intents = []
  · subst hempty
    have hpersist : Makes env still (persistState none) :=
      makes_persistState emission_asks fun _ => rfl
    have hmakes : Makes env still (applyIntents ctx createdTsUtc dispatchTsUtc [] previousState) :=
      within_bind hflush fun _ => hpersist
    obtain ⟨new, hlog, -⟩ := (wp_ok (hmakes rt) hok).extends
    exact iff_of_true ⟨new, hlog, .inl ⟨[], List.nil_sublist _, .nil⟩⟩ (.inl nofun)
  · have hwp : wp (applyIntents ctx createdTsUtc dispatchTsUtc intents previousState) env rt
        (fun _ t => ∃ answers, NewAnswers rt answers t ∧
          let decision := guardOutcome env (flushStrategyJournalRecords.post env rt)
          (RollsBack env ctx createdTsUtc dispatchTsUtc intents decision rt.strategy ∧
              Reverted env previousState answers t ∨
            ¬ RollsBack env ctx createdTsUtc dispatchTsUtc intents decision rt.strategy ∧
              List.Forall₂ (Answers env ctx createdTsUtc)
                (answeredIntents env ctx dispatchTsUtc intents decision) answers))
        fun _ _ => True := by
      rw [applyIntents, wp_bind]
      refine wp_mono (wp_and (hflush rt) (wp_self _)) (fun _ t ht => ?_) fun _ _ _ => trivial
      obtain ⟨hmoves, hrun⟩ := ht
      have hpost : flushStrategyJournalRecords.post env rt = t := by rw [post, hrun]
      rw [if_neg (fun h => hempty (List.isEmpty_iff.mp h)), wp_bind, wp_read, hlive, hpost]
      refine wp_mono (wp_applyIntentsLive_answers t) (fun _ u hu => ?_) fun _ _ _ => trivial
      obtain ⟨answers, hnew, hcases⟩ := hu
      rw [hmoves.still_eq.1] at hcases
      exact ⟨answers, .after_quiet hmoves.quiet_of_still hnew, hcases⟩
    obtain ⟨answers, hnew, hcases⟩ := wp_ok hwp hok
    rw [droppedAsOne_iff]
    rcases hcases with ⟨hroll, ⟨reason, hmem⟩, hstate⟩ | ⟨hroll, hanswers⟩
    · refine iff_of_true ?_ (.inl hroll)
      obtain ⟨new, hlog, rfl⟩ := hnew
      exact ⟨new, hlog, .inr ⟨⟨reason, (List.mem_filter.mp hmem).1⟩, hstate⟩⟩
    · rw [or_iff_right hroll]
      constructor
      · exact answered_eq_classified hnew answeredIntents_sublist hanswers
      · intro hall
        rw [hall] at hanswers
        obtain ⟨new, hlog, rfl⟩ := hnew
        exact ⟨new, hlog, .inl ⟨_, List.filter_sublist, forall₂_classified.mp hanswers⟩⟩

end Outcome

/-! ### A cancel and an entry in the evening -/

/-- Wednesday, the 15th of November 2023, eight in the evening in Moscow. -/
def eveningTs : ℤ := 1700067600

def eveningCtx : StrategyCtx :=
  ⟨"hybrid_intraday", "D1", "MOEX", "IMOEXF", 1 / 2, .live, .liveOnly, true, .liveReady, none,
    eveningTs, eveningTs, some eveningTs⟩

/-- A strategy whose state tells whether it waits for an entry. -/
def eveningEnv : Env Bool Bool := calmEnv dayConfig silentStrategy (eveningTs * 1000)

/-- What `applyIntents` does with a batch of a strategy that waits for an entry since then. -/
def applyInTheEvening (intents : List Intent) : RuntimeM Bool Bool Unit :=
  applyIntents eveningCtx eveningTs eveningTs intents false

theorem applyIntents_accountedFor_cancel :
    AccountedFor eveningEnv eveningCtx eveningTs [.cancel 101] false (readyRuntime true eveningTs)
      ((applyInTheEvening [.cancel 101]).post eveningEnv (readyRuntime true eveningTs)) := by
  have hok : (applyIntents eveningCtx eveningTs eveningTs [.cancel 101] false).run eveningEnv
      (readyRuntime true eveningTs) = (.ok (), _) := rfl
  refine (applyIntents_accountedFor_iff rfl hok).mpr (.inr (.inl ⟨?_, .inl rfl⟩))
  intro intent hmem
  rw [List.mem_singleton.mp hmem]
  rfl

/-- The cancel goes out, the entry is dropped, and the strategy keeps on waiting for it. -/
theorem not_accountedFor_cancelEntry :
    let rt := readyRuntime true eveningTs
    let intents : List Intent := [.cancel 101, .market 1 .buy none none]
    ((applyInTheEvening intents).run eveningEnv rt).1 = .ok () ∧
    ((applyInTheEvening intents).post eveningEnv rt).state.strategyState = true ∧
    ¬ AccountedFor eveningEnv eveningCtx eveningTs intents false rt
      ((applyInTheEvening intents).post eveningEnv rt) := by
  refine ⟨rfl, rfl, fun h => ?_⟩
  have hone : [(Intent.cancel 101, IntentClass.cancelCleanup)] = classified eveningCtx _ :=
    answered_eq_classified ⟨_, rfl, rfl⟩ (.cons_cons _ (List.nil_sublist _))
      (.cons (.published _ true _) .nil) h
  exact absurd (congrArg List.length hone) (by decide)

end StrategyRuntime

end AlorRs
