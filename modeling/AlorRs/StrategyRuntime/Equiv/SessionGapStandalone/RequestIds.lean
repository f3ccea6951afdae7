import AlorRs.StrategyRuntime.Equiv.Runtime.Bars
import AlorRs.StrategyRuntime.Equiv.Runtime.RequestIds
import AlorRs.StrategyRuntime.Equiv.SessionGapStandalone.Positions

/-!
# The request identifiers of the session-gap strategy

The strategy foresees the identifier of the command that the runtime makes of its intent, and saves
it with the phase.  On bars both take the time that the runtime has made monotone.  When an exit is
sent again after an ack, the strategy takes the time of the ack and the runtime the monotone one, so
the two agree where that is the same time (`always_requestsAgree`).
-/

namespace AlorRs.SessionGap

open Eff RuntimeM StrategyRuntime SessionGapStandaloneStrategy

/-! ### Intents and what their phase waits for -/

def AtMostOne {α : Type} (p : α → Prop) (l : List α) : Prop := l = [] ∨ ∃ a, l = [a] ∧ p a

theorem AtMostOne.filter {α : Type} {p : α → Prop} {l : List α} (h : AtMostOne p l)
    (q : α → Bool) : AtMostOne p (l.filter q) := by
  rcases h with rfl | ⟨a, rfl, ha⟩
  · exact .inl rfl
  · cases hq : q a with
    | true => exact .inr ⟨a, List.filter_cons_of_pos hq, ha⟩
    | false =>
      refine .inl (List.filter_cons_of_neg ?_)
      rw [hq]
      exact Bool.false_ne_true

/-- A phase waits for the command of an intent, made at a time. -/
structure Sends (config : RuntimeConfig) (createdTsUtc : ℤ) (phase : SessionGapLivePhase)
    (intent : Intent) : Prop where
  requestId : phase.requestId? = some (deterministicRequestId config.strategy.strategyId
    config.portfolio config.strategy.symbol "place" createdTsUtc 0)
  routedSymbol : intent.routedSymbol config.strategy.symbol = config.strategy.symbol
  idKind : intent.idKind = ("place", 0)
  exit : ∀ ctx, resolveIntentClass ctx intent = .exit → phase.exposure?.isSome

variable {intent : Intent} {createdTsUtc : ℤ} {ctx : StrategyCtx}

theorem Sends.command {env : Env SessionGapStandaloneStrategy (Option SavedState)}
    {phase : SessionGapLivePhase} (h : Sends env.config createdTsUtc phase intent)
    (hctx : CtxOf env.config ctx) (s : SessionGapStandaloneStrategy) (intentClass : IntentClass) :
    phase.requestId? =
      some (intentToCommand env s ctx createdTsUtc intent intentClass).requestId := by
  rw [(intentToCommand_spec hctx s createdTsUtc intent intentClass).1, h.routedSymbol, h.idKind]
  exact h.requestId

variable {bar : BarEvent} {ack : CommandAck}

section Moves

variable {config : RuntimeConfig} {ctx : StrategyCtx} {phase phase' : SessionGapLivePhase}
  {intents : List Intent}

theorem barRequestId_eq (hctx : CtxOf config ctx) (hsymbol : bar.symbol = config.strategy.symbol) :
    barRequestId ctx bar = deterministicRequestId config.strategy.strategyId config.portfolio
      config.strategy.symbol "place" ctx.eventTsUtc 0 := by
  rw [barRequestId, hctx.strategyId, hctx.portfolio, hsymbol]

theorem BarMove.sends (h : BarMove ctx bar phase phase' intents) (hctx : CtxOf config ctx)
    (hsymbol : intents ≠ [] → bar.symbol = config.strategy.symbol) :
    AtMostOne (Sends config ctx.eventTsUtc phase') intents := by
  cases h with
  | stay | settle | verified | closed | degrade => exact .inl rfl
  | entry _ hrequest =>
    refine .inr ⟨_, rfl, ?_, rfl, rfl, ?_⟩
    · rw [← barRequestId_eq hctx (hsymbol (List.cons_ne_nil _ _)), ← hrequest]
      rfl
    · intro ctx' hclass
      cases hclass
  | exit hrequest | reissue _ _ hrequest =>
    refine .inr ⟨_, rfl, ?_, rfl, rfl, fun _ _ => rfl⟩
    rw [← barRequestId_eq hctx (hsymbol (List.cons_ne_nil _ _)), ← hrequest]
    rfl

theorem AckMove.sends (h : AckMove ctx ack phase phase' intents) (hctx : CtxOf config ctx)
    (hts : intents ≠ [] → createdTsUtc = ack.processedTsUtc) :
    AtMostOne (Sends config createdTsUtc phase') intents := by
  cases h with
  | silent => exact .inl rfl
  | retry hrequest =>
    refine .inr ⟨_, rfl, ?_, rfl, rfl, fun _ _ => rfl⟩
    rw [hts (List.cons_ne_nil _ _), ← hctx.strategyId, ← hctx.portfolio, ← hctx.symbol]
    exact congrArg some hrequest

end Moves

/-! ### Commands in the log -/

abbrev Runtime := StrategyRuntime SessionGapStandaloneStrategy (Option SavedState)

def savedRequestId? (state : Option SavedState) : Option Uuid :=
  ((state.map SavedState.phase).getD .flat).requestId?

def Deferred (s : SessionGapStandaloneStrategy) (requestId : Uuid) : Prop :=
  ∃ phase, s.persistedPhaseOrFlat = .exitDeferredWindowClosed phase ∧
    phase.originalRequestId = requestId

/-- The rejection of an exit outside the trading window, for the request that the phase waits
for. -/
theorem deferred_onAck {s : SessionGapStandaloneStrategy}
    (h : s.persistedPhaseOrFlat.requestId? = some ack.requestId)
    (hexit : s.persistedPhaseOrFlat.exposure?.isSome) (ctx : StrategyCtx)
    (hclosed : isWindowClosedRecoverableReject ack = true) :
    Deferred (s.onAck ctx ack).1 ack.requestId := by
  have hstate : s.state.isSome := by
    by_contra hnone
    rw [Option.not_isSome_iff_eq_none] at hnone
    rw [persistedPhaseOrFlat, hnone] at h
    cases h
  unfold Deferred
  rw [onAck, settlePhase_phase, if_pos hstate]
  generalize s.persistedPhaseOrFlat = phase at h hexit
  cases phase with
  | pendingExit pending =>
    have hrequest : pending.requestId = ack.requestId := Option.some.inj h
    simp only [ackPhase]
    rw [if_pos hrequest, ackPendingExit, if_pos hclosed]
    exact ⟨_, rfl, hrequest⟩
  | exitRecoveryPending pending =>
    have hrequest : pending.requestId = ack.requestId := Option.some.inj h
    simp only [ackPhase]
    rw [if_pos hrequest, ackExitRecovery, if_pos hclosed]
    exact ⟨_, rfl, hrequest⟩
  | pendingEntry => cases hexit
  | _ => cases h

/-- In what is new in the log, every command has the identifier that the phase saved with it waits
for, and every rejection that the runtime makes up is taken for that of the exit. -/
def RequestsAgree (rt rt' : Runtime) : Prop :=
  ∃ new, rt'.log = rt.log ++ new ∧ (∀ command snapshot, HostEvent.published command snapshot ∈ new →
      savedRequestId? snapshot.strategyState = some command.requestId) ∧
    ∀ ack, HostEvent.called (.preEmitAck ack) ∈ new → Deferred rt'.strategy ack.requestId

/-- Neither a command nor a rejection that the runtime makes up. -/
def SendsNothing {P : Type} : HostEvent P → Prop
  | .published _ _ | .called (.preEmitAck _) => False
  | _ => True

/-- Nothing is sent, and the strategy stays as it is. -/
structure Rests (rt rt' : Runtime) : Prop where
  silent : Extends log SendsNothing rt rt'
  strategy : rt'.strategy = rt.strategy

section Agree

variable {s t u : Runtime}

theorem RequestsAgree.of_silent (h : Extends log SendsNothing s t) : RequestsAgree s t := by
  obtain ⟨new, hlog, hnew⟩ := h
  exact ⟨new, hlog, fun _ _ hmem => (hnew _ hmem).elim, fun _ hmem => (hnew _ hmem).elim⟩

theorem RequestsAgree.after_silent (h : Extends log SendsNothing s t) (h' : RequestsAgree t u) :
    RequestsAgree s u := by
  obtain ⟨new, hlog, hnew⟩ := h
  obtain ⟨new', hlog', hpublished, hdeferred⟩ := h'
  refine ⟨new ++ new', by rw [hlog', hlog, List.append_assoc], ?_, ?_⟩
  · intro command snapshot hmem
    rcases List.mem_append.mp hmem with hmem | hmem
    · exact (hnew _ hmem).elim
    · exact hpublished command snapshot hmem
  · intro ack hmem
    rcases List.mem_append.mp hmem with hmem | hmem
    · exact (hnew _ hmem).elim
    · exact hdeferred ack hmem

theorem RequestsAgree.then_rests (h : RequestsAgree s t) (h' : Rests t u) :
    RequestsAgree s u := by
  obtain ⟨new, hlog, hpublished, hdeferred⟩ := h
  obtain ⟨⟨new', hlog', hnew⟩, hstrategy⟩ := h'
  refine ⟨new ++ new', by rw [hlog', hlog, List.append_assoc], ?_, ?_⟩
  · intro command snapshot hmem
    rcases List.mem_append.mp hmem with hmem | hmem
    · exact hpublished command snapshot hmem
    · exact (hnew _ hmem).elim
  · intro ack hmem
    rw [hstrategy]
    rcases List.mem_append.mp hmem with hmem | hmem
    · exact hdeferred ack hmem
    · exact (hnew _ hmem).elim

theorem Rests.trans (h : Rests s t) (h' : Rests t u) : Rests s u :=
  ⟨h.silent.trans h'.silent, h'.strategy.trans h.strategy⟩

instance : Std.Refl Rests := ⟨fun _ => ⟨.of_eq rfl, rfl⟩⟩

instance : IsTrans Runtime Rests := ⟨fun _ _ _ => .trans⟩

end Agree

/-! ### Emission -/

variable {s t : Runtime} {intents : List Intent}

section Emission

variable {env : Env SessionGapStandaloneStrategy (Option SavedState)}

/-- Moves that send nothing and let nobody react. -/
abbrev resting : Allowed SessionGapStandaloneStrategy (Option SavedState) :=
  emission SendsNothing False fun _ => False

abbrev sendingNothing : Allowed SessionGapStandaloneStrategy (Option SavedState) :=
  emission SendsNothing True fun _ => True

theorem Moves.rests {strategy : Strategy SessionGapStandaloneStrategy (Option SavedState)}
    (h : Moves strategy resting s t) : Rests s t :=
  ⟨h.extends, (h.strategy_eq id fun _ => id).1⟩

variable (henv : env.strategy = SessionGapStandaloneStrategy.strategy)
  {ctx : StrategyCtx} (hctx : CtxOf env.config ctx) {createdTsUtc dispatchTsUtc : ℤ}

include henv hctx

variable (intentClass : IntentClass)

theorem agrees_publishIntent
    (h : Sends env.config createdTsUtc s.strategy.persistedPhaseOrFlat intent) :
    WithinFrom env RequestsAgree (publishIntent ctx createdTsUtc intent intentClass) s := by
  have hcommand := h.command hctx s.strategy intentClass
  have hpublished : ∀ (t : Runtime) (snapshot : RuntimeStateSnapshot (Option SavedState)),
      snapshot.strategyState = s.strategy.state → t.log = s.log ++ [HostEvent.published
        (intentToCommand env s.strategy ctx createdTsUtc intent intentClass) snapshot] →
      RequestsAgree s t := by
    intro t snapshot hstate hlog
    refine ⟨_, hlog, fun command snapshot' hmem => ?_, fun ack hmem => ?_⟩
    · obtain ⟨rfl, rfl⟩ := HostEvent.published.inj (List.mem_singleton.mp hmem)
      rw [hstate]
      exact hcommand
    · cases List.mem_singleton.mp hmem
  simp only [publishIntent, notifyCommandPrepared, persistState, RuntimeM.write, wp_bind, wp_read,
    wp_get, wp_modify, wp_now, wp_ask, henv]
  cases env.delivery _ with
  | done => exact hpublished _ _ rfl rfl
  | refused => exact .of_silent (.of_eq rfl)
  | lost => exact hpublished _ _ rfl rfl

omit henv hctx in
theorem rests_flush : Within env Rests flushStrategyJournalRecords := by
  have hmakes : Makes env resting flushStrategyJournalRecords :=
    makes_flushStrategyJournalRecords fun _ => trivial
  exact hmakes.mono fun _ _ hm => Moves.rests hm

omit henv hctx in
theorem rests_persist : Within env Rests (persistState none) := by
  have hmakes : Makes env resting (persistState none) :=
    makes_persistState emission_asks fun _ => trivial
  exact hmakes.mono fun _ _ hm => Moves.rests hm

/-- The strategy takes the made-up rejection for that of its exit. -/
theorem agrees_deferExit (h : Sends env.config createdTsUtc s.strategy.persistedPhaseOrFlat intent)
    (hexit : s.strategy.persistedPhaseOrFlat.exposure?.isSome) :
    WithinFrom env RequestsAgree (StrategyRuntime.deferExit ctx createdTsUtc dispatchTsUtc intent intentClass) s := by
  have hcommand := h.command hctx s.strategy intentClass
  simp only [StrategyRuntime.deferExit, notifyCommandPrepared, strategyCtx, wp_bind, wp_read, wp_get, wp_modify,
    wp_now, wp_record, wp_pure, wp_invokeStrategyCallback, henv]
  generalize (StrategyCtx.mk _ _ _ _ _ _ _ _ _ _ _ _ _) = ackCtx
  generalize hack : CommandAck.rejected _ _ _ dispatchTsUtc = ack
  have hrequest : s.strategy.persistedPhaseOrFlat.requestId? = some ack.requestId := by
    rw [← hack]
    exact hcommand
  have hclosed : isWindowClosedRecoverableReject ack = true := by
    rw [← hack]
    rfl
  have hdeferred : ∀ t : Runtime, t.log = s.log ++ [HostEvent.called (.preEmitAck ack)] →
      t.strategy = (s.strategy.onAck ackCtx ack).1 → RequestsAgree s t := by
    intro t hlog hstrategy
    refine ⟨_, hlog, fun command snapshot hmem => ?_, fun ack' hmem => ?_⟩
    · cases List.mem_singleton.mp hmem
    · cases List.mem_singleton.mp hmem
      rw [hstrategy]
      exact deferred_onAck hrequest hexit ackCtx hclosed
  refine wp_mono (rests_flush _) (fun _ t ht => ?_) fun _ t ht =>
    (hdeferred _ rfl rfl).then_rests ht
  exact wp_mono (rests_persist t) (fun _ u hu => (hdeferred _ rfl rfl).then_rests (ht.trans hu))
    fun _ u hu => (hdeferred _ rfl rfl).then_rests (ht.trans hu)

theorem agrees_emitIntent (h : Sends env.config createdTsUtc s.strategy.persistedPhaseOrFlat intent) :
    WithinFrom env RequestsAgree (emitIntent ctx createdTsUtc dispatchTsUtc intent (resolveIntentClass ctx intent)) s := by
  rw [WithinFrom, emitIntent, wp_bind, maybeDeferExitBeforeEmit, wp_bind, wp_read]
  split
  · exact agrees_publishIntent henv hctx _ h
  · rename_i hclass
    split
    · exact agrees_publishIntent henv hctx _ h
    · exact agrees_publishIntent henv hctx _ h
    · rw [wp_bind]
      exact agrees_deferExit henv hctx _ h (h.exit ctx (not_not.mp hclass))

theorem agrees_emitIntents {intents : List (Intent × IntentClass)}
    (h : AtMostOne (fun intent => intent.2 = resolveIntentClass ctx intent.1 ∧
      Sends env.config createdTsUtc s.strategy.persistedPhaseOrFlat intent.1) intents) :
    WithinFrom env RequestsAgree (emitIntents ctx createdTsUtc dispatchTsUtc intents) s := by
  rcases h with rfl | ⟨⟨intent, intentClass⟩, rfl, hclass, h⟩
  · exact .of_silent (.of_eq rfl)
  · dsimp only at hclass
    rw [WithinFrom, emitIntents, wp_bind, hclass]
    exact wp_mono (agrees_emitIntent henv hctx h) (fun _ _ ht => ht) fun _ _ ht => ht

omit henv hctx in
theorem sendsNothing_restore (previousState : Option SavedState) (reason : String) :
    Makes env sendingNothing (do restoreStrategyState previousState reason; persistState none) :=
  within_bind (makes_restoreStrategyState (fun _ => trivial) trivial reason) fun _ =>
    makes_persistState emission_asks fun _ => trivial

theorem agrees_emitDecided (decision : LiveGuardDecision) {accepted : List (Intent × IntentClass)}
    (previousState : Option SavedState)
    (h : AtMostOne (fun intent => intent.2 = resolveIntentClass ctx intent.1 ∧
      Sends env.config createdTsUtc s.strategy.persistedPhaseOrFlat intent.1) accepted) :
    WithinFrom env RequestsAgree (emitDecided ctx createdTsUtc dispatchTsUtc decision accepted previousState) s := by
  -- blocked intents are told to the strategy, and nothing is sent
  have hblocked : ∀ events, Makes env sendingNothing (do
      if ← notifyIntentsBlocked ctx events then
        flushStrategyJournalRecords
        persistState none
      else
        restoreStrategyState previousState "intent_dropped_by_guard"
        persistState none) := by
    intro events
    refine within_bind (makes_notifyIntentsBlocked trivial (fun _ => trivial) ctx events)
      fun kept => ?_
    split
    · exact within_bind (makes_flushStrategyJournalRecords fun _ => trivial) fun _ =>
        makes_persistState emission_asks fun _ => trivial
    · exact sendsNothing_restore previousState _
  unfold emitDecided
  split
  · exact agrees_emitIntents henv hctx h
  · dsimp only
    split
    · exact wp_mono (hblocked _ s) (fun _ _ ht => .of_silent ht.extends)
        fun _ _ ht => .of_silent ht.extends
    · exact agrees_emitIntents henv hctx (h.filter _)

theorem agrees_applyIntentsLive (previousState : Option SavedState)
    (h : AtMostOne (Sends env.config createdTsUtc s.strategy.persistedPhaseOrFlat) intents) :
    WithinFrom env RequestsAgree (applyIntentsLive ctx createdTsUtc dispatchTsUtc intents previousState) s := by
  have haccepted : AtMostOne (fun intent => intent.2 = resolveIntentClass ctx intent.1 ∧
      Sends env.config createdTsUtc s.strategy.persistedPhaseOrFlat intent.1)
      (acceptedIntents env.config ctx dispatchTsUtc intents) := by
    refine AtMostOne.filter ?_ _
    rcases h with rfl | ⟨intent, rfl, hsends⟩
    · exact .inl rfl
    · exact .inr ⟨_, rfl, rfl, hsends⟩
  have hdecide : Makes env resting guardDecision := makes_guardDecision fun _ => trivial
  rw [WithinFrom, applyIntentsLive, wp_bind, wp_read]
  dsimp only
  split
  · exact wp_mono (sendsNothing_restore previousState _ s) (fun _ _ ht => .of_silent ht.extends)
      fun _ _ ht => .of_silent ht.extends
  · rw [wp_bind]
    refine wp_mono (hdecide s) (fun decision t ht => ?_) fun _ t ht => .of_silent ht.extends
    rw [← (Moves.rests ht).strategy] at haccepted
    exact wp_mono (agrees_emitDecided henv hctx decision previousState haccepted)
      (fun _ _ hu => hu.after_silent ht.extends) fun _ _ hu => hu.after_silent ht.extends

/-- Outside live mode nothing is sent. -/
theorem agrees_applyIntents (previousState : Option SavedState) (h : env.config.tradeMode = .live →
      AtMostOne (Sends env.config createdTsUtc s.strategy.persistedPhaseOrFlat) intents) :
    WithinFrom env RequestsAgree (applyIntents ctx createdTsUtc dispatchTsUtc intents previousState) s := by
  have hvirtual : Makes env sendingNothing (do
      logVirtualTrades createdTsUtc intents
      persistState none) :=
    within_bind (makes_logVirtualTrades (fun _ _ => trivial) _ _) fun _ =>
      makes_persistState emission_asks fun _ => trivial
  rw [WithinFrom, applyIntents, wp_bind]
  refine wp_mono (rests_flush s) (fun _ t ht => ?_) fun _ _ ht => .of_silent ht.silent
  split
  · exact wp_mono (rests_persist t) (fun _ _ hu => .of_silent (ht.trans hu).silent)
      fun _ _ hu => .of_silent (ht.trans hu).silent
  · rw [wp_bind, wp_read]
    cases hmode : env.config.tradeMode with
    | live =>
      have hsends := h hmode
      rw [← ht.strategy] at hsends
      exact wp_mono (agrees_applyIntentsLive henv hctx previousState hsends)
        (fun _ _ hu => hu.after_silent ht.silent) fun _ _ hu => hu.after_silent ht.silent
    | paper | backtest =>
      exact wp_mono (hvirtual t) (fun _ _ hu => .of_silent (ht.silent.trans hu.extends))
        fun _ _ hu => .of_silent (ht.silent.trans hu.extends)

end Emission

/-! ### The clock -/

section Clock

variable {σ P : Type}

def normalizedTs (rt : StrategyRuntime σ P) (eventTsUtc : ℤ) : ℤ :=
  max rt.strategyNowTsUtc (if 0 < eventTsUtc then eventTsUtc else rt.strategyNowTsUtc)

variable {s : StrategyRuntime σ P} {R : RuntimeError → StrategyRuntime σ P → Prop}

theorem wp_normalizeEventTs {env : Env σ P} {eventTsUtc : ℤ} {Q : ℤ → StrategyRuntime σ P → Prop} :
    wp (normalizeEventTs eventTsUtc) env s Q R ↔ Q (normalizedTs s eventTsUtc)
      { s with strategyNowTsUtc := normalizedTs s eventTsUtc } := Iff.rfl

theorem wp_strategyCtx {env : Env σ P} {lastBarTs : Option ℤ} {eventTsUtc : ℤ}
    {Q : StrategyCtx → StrategyRuntime σ P → Prop}
    (h : ∀ ctx, CtxOf env.config ctx → ctx.eventTsUtc = eventTsUtc →
      ctx.tradeMode = env.config.tradeMode → Q ctx { s with tick := s.tick + 1 }) :
    wp (strategyCtx lastBarTs eventTsUtc) env s Q R := by
  rw [strategyCtx, wp_bind, wp_read, wp_bind, wp_get, wp_bind, wp_now]
  exact h _ ⟨rfl, rfl, rfl, rfl⟩ rfl rfl

variable (text : RustText)

theorem strategyNowTsUtc_foldl {α : Type} {f : StrategyRuntime σ P → α → StrategyRuntime σ P}
    (h : ∀ s a, (f s a).strategyNowTsUtc = s.strategyNowTsUtc) (as : List α)
    (s : StrategyRuntime σ P) : (as.foldl f s).strategyNowTsUtc = s.strategyNowTsUtc := by
  induction as generalizing s with
  | nil => rfl
  | cons a as ih => rw [List.foldl_cons, ih, h]

theorem strategyNowTsUtc_applyTradeExecution (rt : StrategyRuntime σ P) (trade : TradeEvent) :
    (applyTradeExecution text rt trade).strategyNowTsUtc = rt.strategyNowTsUtc := by
  have hstart : (startExecution text rt trade).strategyNowTsUtc = rt.strategyNowTsUtc := by
    unfold startExecution
    split
    · rfl
    · split <;> rfl
  unfold applyTradeExecution
  dsimp only
  split
  · exact hstart
  · split <;> exact hstart

theorem strategyNowTsUtc_registerAcknowledgedOrder (rt : StrategyRuntime σ P)
    (ack : CommandAck) :
    (registerAcknowledgedOrder text rt ack).strategyNowTsUtc = rt.strategyNowTsUtc := by
  have hreplay : ∀ (s : StrategyRuntime σ P) orderId,
      (replayPendingTradesForOrder text s orderId).strategyNowTsUtc = s.strategyNowTsUtc := by
    intro s orderId
    unfold replayPendingTradesForOrder
    split
    · rfl
    · exact strategyNowTsUtc_foldl (strategyNowTsUtc_applyTradeExecution text) _ _
  have hflush : ∀ s : StrategyRuntime σ P,
      (flushUnmatchedPreAckTrades text s).strategyNowTsUtc = s.strategyNowTsUtc := by
    intro s
    unfold flushUnmatchedPreAckTrades
    split
    · rfl
    · refine strategyNowTsUtc_foldl (fun s orderId => ?_) _ _
      exact strategyNowTsUtc_foldl (f := adoptOrphanTrade text) (fun _ _ => rfl) _ _
  unfold registerAcknowledgedOrder
  rw [hflush]
  split
  · dsimp only
    split
    · exact hreplay _ _
    · rfl
  · rfl

end Clock

/-! ### Handlers -/

section Handlers

variable {env : Env SessionGapStandaloneStrategy (Option SavedState)}

theorem agrees_of_rests {α : Type}
    {m : RuntimeM SessionGapStandaloneStrategy (Option SavedState) α} (h : Within env Rests m)
    (s : Runtime) : WithinFrom env RequestsAgree m s :=
  wp_mono (h s) (fun _ _ ht => .of_silent ht.silent) fun _ _ ht => .of_silent ht.silent

theorem agrees_after_rests {α β : Type}
    {m : RuntimeM SessionGapStandaloneStrategy (Option SavedState) α}
    {f : α → RuntimeM SessionGapStandaloneStrategy (Option SavedState) β} {Q : α → Runtime → Prop}
    (hm : wp m env s (fun a t => Rests s t ∧ Q a t) fun _ t => Rests s t)
    (hf : ∀ a t, t.strategy = s.strategy → Q a t →
      wp (f a) env t (fun _ u => RequestsAgree t u) fun _ u => RequestsAgree t u) :
    wp (m >>= f) env s (fun _ u => RequestsAgree s u) fun _ u => RequestsAgree s u := by
  rw [wp_bind]
  refine wp_mono hm (fun a t ht => ?_) fun _ _ ht => .of_silent ht.silent
  obtain ⟨hrests, hq⟩ := ht
  exact wp_mono (hf a t hrests.strategy hq) (fun _ _ hu => hu.after_silent hrests.silent)
    fun _ _ hu => hu.after_silent hrests.silent

theorem agrees_then_rests {α β : Type}
    {m : RuntimeM SessionGapStandaloneStrategy (Option SavedState) α}
    {f : α → RuntimeM SessionGapStandaloneStrategy (Option SavedState) β}
    (hm : WithinFrom env RequestsAgree m s)
    (hf : ∀ a, Within env Rests (f a)) :
    wp (m >>= f) env s (fun _ u => RequestsAgree s u) fun _ u => RequestsAgree s u := by
  rw [wp_bind]
  refine wp_mono hm (fun a t ht => ?_) fun _ _ ht => ht
  exact wp_mono (hf a t) (fun _ _ hu => ht.then_rests hu) fun _ _ hu => ht.then_rests hu

theorem rests_xack (stream messageId : String) : Within env Rests (xack stream messageId) := by
  have hmakes : Makes env resting (xack stream messageId) := makes_write emission_asks trivial rfl
  exact hmakes.mono fun _ _ hm => Moves.rests hm

theorem rests_of_sameFrame (h : SameFrame s t) : Rests s t :=
  ⟨.of_eq h.log, h.strategy⟩

theorem rests_update {f : Env SessionGapStandaloneStrategy (Option SavedState) → Runtime → Runtime}
    (hf : ∀ s, SameFrame s (f env s)) : Within env Rests (update f) :=
  within_read_bind (within_modify fun s => rests_of_sameFrame (hf s))

variable (henv : env.strategy = SessionGapStandaloneStrategy.strategy)

include henv

theorem agrees_invokeAndApply (hctx : CtxOf env.config ctx)
    {callback : SessionGapStandaloneStrategy → SessionGapStandaloneStrategy × List Intent}
    (h : env.config.tradeMode = .live → AtMostOne
      (Sends env.config createdTsUtc (callback s.strategy).1.persistedPhaseOrFlat)
      (callback s.strategy).2) :
    WithinFrom env RequestsAgree (invokeAndApply ctx createdTsUtc callback) s := by
  rw [WithinFrom, invokeAndApply, wp_bind, wp_invokeStrategyCallback, wp_bind, wp_now, henv]
  refine wp_mono (agrees_applyIntents henv hctx s.state.strategyState ?_) (fun _ _ ht => ?_)
    fun _ _ ht => ?_
  · exact h
  all_goals exact RequestsAgree.after_silent (.of_eq rfl) ht

theorem agrees_callbackAt (eventTsUtc : ℤ) (lastBar : RuntimeConfig → Runtime → Option ℤ)
    {callback : Strategy SessionGapStandaloneStrategy (Option SavedState) →
      SessionGapStandaloneStrategy → StrategyCtx → SessionGapStandaloneStrategy × List Intent}
    (h : ∀ ctx, CtxOf env.config ctx → AtMostOne
      (Sends env.config (normalizedTs s eventTsUtc)
        (callback SessionGapStandaloneStrategy.strategy s.strategy ctx).1.persistedPhaseOrFlat)
      (callback SessionGapStandaloneStrategy.strategy s.strategy ctx).2) :
    WithinFrom env RequestsAgree (callbackAt eventTsUtc lastBar callback) s := by
  rw [WithinFrom, callbackAt, wp_bind, wp_read, wp_bind, wp_normalizeEventTs, wp_bind, wp_get, wp_bind]
  refine wp_strategyCtx fun ctx hctx _ _ => ?_
  refine wp_mono (agrees_invokeAndApply henv hctx fun _ => ?_) (fun _ _ ht => ?_) fun _ _ ht => ?_
  · rw [henv]
    exact h ctx hctx
  all_goals exact RequestsAgree.after_silent (.of_eq rfl) ht

def SendsExitAgain (s : SessionGapStandaloneStrategy) (ack : CommandAck) : Prop :=
  ∃ pending, s.persistedPhaseOrFlat = .pendingExit pending ∧ pending.requestId = ack.requestId ∧
    isRetryableExitRecycleFailure ack = true

omit henv in
theorem sendsExitAgain_of_intents {s : SessionGapStandaloneStrategy} (h : (s.onAck ctx ack).2 ≠ []) :
    SendsExitAgain s ack := by
  cases hstate : s.state with
  | none =>
    refine absurd ?_ h
    simp [onAck, hstate]
  | some saved =>
    have hphase : s.persistedPhaseOrFlat = saved.phase := by simp [persistedPhaseOrFlat, hstate]
    have hintents : (ackPhase saved.phase ctx ack).2 ≠ [] := by simpa [onAck, hstate] using h
    unfold SendsExitAgain
    rw [hphase]
    generalize saved.phase = phase at hintents
    cases phase with
    | pendingEntry | exitRecoveryPending =>
      simp only [ackPhase] at hintents
      split at hintents <;> exact absurd rfl hintents
    | pendingExit pending =>
      simp only [ackPhase] at hintents
      split at hintents
      · rename_i hrequest
        refine ⟨pending, rfl, hrequest, ?_⟩
        by_contra hretry
        rw [Bool.not_eq_true] at hretry
        refine hintents ?_
        simp only [ackPendingExit, hretry, Bool.false_and, Bool.false_eq_true, if_false]
        split
        · rfl
        · split <;> rfl
      · exact absurd rfl hintents
    | _ => exact absurd rfl hintents

theorem agrees_handleAck (stream messageId : String) (ack : CommandAck)
    (h : SendsExitAgain s.strategy ack → normalizedTs s ack.processedTsUtc = ack.processedTsUtc) :
    WithinFrom env RequestsAgree (handleAck stream messageId ack) s := by
  have hregister : wp (update fun env rt => registerAcknowledgedOrder env.text rt ack) env s
      (fun _ t => Rests s t ∧ t.strategyNowTsUtc = s.strategyNowTsUtc) fun _ t => Rests s t :=
    ⟨rests_of_sameFrame (sameView_registerAcknowledgedOrder env.text s ack).frame,
      strategyNowTsUtc_registerAcknowledgedOrder env.text s ack⟩
  refine agrees_after_rests hregister fun _ t hstrategy hclock => ?_
  refine agrees_then_rests ?_ fun _ => rests_xack stream messageId
  refine agrees_callbackAt henv _ _ fun ctx hctx => ?_
  refine (onAck_moves t.strategy).2.sends hctx fun hintents => ?_
  have hagain := sendsExitAgain_of_intents hintents
  rw [hstrategy] at hagain
  rw [normalizedTs, hclock]
  exact h hagain

omit henv in
theorem agrees_whenLive {stream messageId symbol : String}
    {handle : RuntimeM SessionGapStandaloneStrategy (Option SavedState) Unit}
    (h : WithinFrom env RequestsAgree handle s) :
    WithinFrom env RequestsAgree (whenLive stream messageId symbol handle) s := by
  rw [WithinFrom, whenLive, wp_bind, wp_read]
  split
  · exact agrees_of_rests (rests_xack stream messageId) s
  · split
    · exact agrees_of_rests (rests_xack stream messageId) s
    · exact h

omit henv in
theorem rests_modifyState (f : RuntimeState (Option SavedState) → RuntimeState (Option SavedState))
    (stream messageId : String) :
    Within env Rests (do modifyState f; xack stream messageId) :=
  within_bind (within_modify fun _ => ⟨.of_eq rfl, rfl⟩) fun _ => rests_xack stream messageId

theorem agrees_brokerEvent (stream messageId : String) (event : BrokerEvent)
    (h : ∀ ack, event = .ack ack → SendsExitAgain s.strategy ack →
      normalizedTs s ack.processedTsUtc = ack.processedTsUtc) :
    WithinFrom env RequestsAgree (event.handle stream messageId) s := by
  cases event with
  | ack ack => exact agrees_handleAck henv stream messageId ack (h ack rfl)
  | order order =>
    refine agrees_whenLive (agrees_then_rests ?_ fun _ => within_bind ?_ fun _ => rests_xack _ _)
    · exact agrees_callbackAt henv _ _ fun ctx _ => .inl rfl
    · refine rests_update fun s => ?_
      have hledger := sameView_updateLedgerFromOrder env.text s env.config order
      refine SameView.frame (hledger.trans (SameView.trans ?_
        (sameView_replayPendingTradesForOrder env.text _ order.orderId)))
      exact ⟨rfl, rfl, rfl, rfl, rfl, rfl, rfl⟩
  | stopOrder stopOrder =>
    refine agrees_whenLive ?_
    rw [WithinFrom, wp_bind, wp_read]
    split
    · refine agrees_then_rests ?_ fun _ => rests_modifyState _ stream messageId
      exact agrees_callbackAt henv _ _ fun ctx _ => .inl rfl
    · exact agrees_of_rests (rests_modifyState _ stream messageId) s
  | trade trade =>
    refine agrees_whenLive ?_
    exact agrees_of_rests (within_bind
      (rests_update fun s => sameFrame_trade env.text s trade) fun _ => rests_xack _ _) s
  | position position =>
    show wp (handlePosition stream messageId position) env s _ _
    rw [handlePosition, wp_bind, wp_read]
    split
    · rw [wp_bind, wp_attempt]
      exact agrees_of_rests (rests_xack stream messageId) s
    · refine agrees_whenLive (agrees_then_rests ?_ fun _ => rests_modifyState _ stream messageId)
      refine agrees_callbackAt henv _ _ fun ctx _ => .inl ?_
      show (SessionGapStandaloneStrategy.onPosition s.strategy ctx position).2 = []
      unfold SessionGapStandaloneStrategy.onPosition
      split <;> rfl

/-! ### Bars -/

omit henv in
/-- The context of a bar has the time at which its commands are made. -/
theorem wp_prepareBar (bar : BarEvent) (s : Runtime) :
    wp (prepareBar bar) env s
      (fun prepared t => Rests s t ∧ CtxOf env.config prepared.1 ∧
        prepared.1.eventTsUtc = prepared.2 ∧ prepared.1.tradeMode = env.config.tradeMode)
      fun _ t => Rests s t := by
  have hsee : Rests s (seeLiveBar bar
      { s with strategyNowTsUtc := normalizedTs s bar.closeTimeUtc }) := by
    unfold seeLiveBar
    split <;> exact ⟨.of_eq rfl, rfl⟩
  have hwait : Within env Rests (maybeWaitForLiveBarReadiness bar) := by
    have hmakes : Makes env resting (maybeWaitForLiveBarReadiness bar) := by
      refine within_read_bind ?_
      split
      · exact within_pure _
      · refine within_bind (makes_evaluateGuardDecision fun _ => trivial) fun decision => ?_
        split
        · exact within_pure _
        · exact within_bind (makes_maybeWait (fun _ => trivial) decision) fun _ => within_pure _
    exact hmakes.mono fun _ _ hm => Moves.rests hm
  rw [prepareBar, wp_bind, wp_get, wp_bind, wp_normalizeEventTs, wp_bind, wp_modify, wp_bind]
  refine wp_mono (hwait _) (fun _ t ht => ?_) fun _ t ht => hsee.trans ht
  rw [wp_bind]
  refine wp_strategyCtx fun ctx hctx hts hmode => ?_
  exact ⟨(hsee.trans ht).trans ⟨.of_eq rfl, rfl⟩, hctx, hts, hmode⟩

omit henv in
theorem silent_of_bookkeeping {α : Type}
    {m : RuntimeM SessionGapStandaloneStrategy (Option SavedState) α}
    (h : Makes env bookkeeping m) : Within env (Extends log SendsNothing) m :=
  h.mono fun _ _ hm => hm.extends.mono fun event hevent => by
    cases event <;> first | exact trivial | exact hevent.elim

omit henv in
theorem silent_of_sendingNothing {α : Type}
    {m : RuntimeM SessionGapStandaloneStrategy (Option SavedState) α}
    (h : Makes env sendingNothing m) : Within env (Extends log SendsNothing) m :=
  h.mono fun _ _ hm => hm.extends

omit henv in
theorem silent_simulateBar (ctx : StrategyCtx) (eventTs : ℤ) (bar : BarEvent)
    (intents : List Intent) (previousState : Option SavedState) :
    Within env (Extends log SendsNothing)
      (simulateBar ctx eventTs bar intents previousState) := by
  have hpersist : Within env (Extends log SendsNothing)
      (persistState none : RuntimeM SessionGapStandaloneStrategy (Option SavedState) Unit) :=
    silent_of_sendingNothing (makes_persistState emission_asks fun _ => trivial)
  have hfilter : Within env (Extends log SendsNothing)
      (filterPaperIntentsForSimulation ctx eventTs intents previousState) := by
    refine silent_of_sendingNothing (within_read_bind ?_)
    split
    · exact within_pure _
    · dsimp only
      split
      · exact within_bind (makes_restoreStrategyState (fun _ => trivial) trivial _) fun _ =>
          within_pure _
      · exact within_pure _
  refine within_read_bind <| within_bind (silent_of_sendingNothing
    (makes_flushStrategyJournalRecords fun _ => trivial)) fun _ => ?_
  split
  · exact within_bind (silent_of_bookkeeping (makes_simulateFills bar)) fun _ =>
      within_bind hfilter fun _ =>
      within_bind (silent_of_bookkeeping (makes_recordNonLiveIntents _ _)) fun _ =>
      within_bind (silent_of_bookkeeping (makes_simulateIntents bar _)) fun _ => hpersist
  · exact hpersist

theorem rests_flushRiskGate : Within env Rests flushRiskGateSessionFinalizations := by
  intro s
  rw [flushRiskGateSessionFinalizations, wp_bind, wp_read, wp_bind, wp_get, henv]
  exact ⟨.of_eq rfl, rfl⟩

theorem agrees_settleBar {eventTs : ℤ} {previousState : Option SavedState}
    (h : env.config.tradeMode = .live →
      AtMostOne (Sends env.config eventTs s.strategy.persistedPhaseOrFlat) intents) :
    WithinFrom env RequestsAgree (settleBar ctx eventTs bar intents previousState) s := by
  rw [WithinFrom, settleBar, wp_bind, wp_read]
  split
  · refine agrees_then_rests ?_ fun _ => rests_flushRiskGate henv
    exact wp_mono (silent_simulateBar ctx eventTs bar intents previousState s)
      (fun _ _ ht => .of_silent ht) fun _ _ ht => .of_silent ht
  · refine agrees_then_rests ?_ fun _ => rests_flushRiskGate henv
    rw [WithinFrom, emitBar, wp_bind]
    refine wp_strategyCtx fun emitCtx hctx _ _ => ?_
    rw [wp_bind, wp_now]
    refine wp_mono (agrees_applyIntents henv hctx previousState h) (fun _ _ ht => ?_)
      fun _ _ ht => ?_
    all_goals exact RequestsAgree.after_silent (.of_eq rfl) ht

omit henv in
theorem symbol_of_intents {s : SessionGapStandaloneStrategy} (h : (s.onBar ctx bar).2 ≠ []) :
    bar.symbol = s.config.symbol := by
  by_contra hsymbol
  rw [SessionGapStandaloneStrategy.onBar, if_pos hsymbol] at h
  exact h rfl

theorem agrees_handleBar (stream messageId : String) (bar : BarEvent)
    (hsymbol : s.strategy.config.symbol = env.config.strategy.symbol) :
    WithinFrom env RequestsAgree (handleBar stream messageId bar) s := by
  rw [WithinFrom, handleBar, wp_bind, wp_read, wp_bind, wp_get]
  split
  · exact agrees_of_rests (rests_xack stream messageId) s
  · refine agrees_after_rests (wp_prepareBar bar s) fun prepared t hstrategy hprepared => ?_
    obtain ⟨ctx, eventTs⟩ := prepared
    obtain ⟨hctx, hts, hmode⟩ := hprepared
    dsimp only at hctx hts hmode ⊢
    rw [wp_bind, wp_invokeStrategyCallback, henv]
    refine wp_mono (agrees_then_rests (agrees_settleBar henv fun hlive => ?_) fun _ =>
      rests_modifyState _ stream messageId) (fun _ _ hu => ?_) fun _ _ hu => ?_
    · rw [← hts]
      refine BarMove.sends (onBar_moves t.strategy (hmode.trans hlive)).2 hctx fun hintents => ?_
      rw [← hsymbol, ← hstrategy]
      exact symbol_of_intents hintents
    all_goals exact RequestsAgree.after_silent (.of_eq rfl) hu

end Handlers

/-! ### The configuration -/

theorem config_of_reaction {s s' : SessionGapStandaloneStrategy}
    (h : Reaction SessionGapStandaloneStrategy.strategy s s') : s'.config = s.config := by
  cases h with
  | ack ctx ack => exact (onAck_moves s).1
  | order ctx order => exact onOrder_config s ctx order
  | position ctx position => exact onPosition_config s ctx position
  | bootstrap ctx snapshot => exact onBootstrapSnapshot_config s ctx snapshot
  | restored ctx event =>
    show (s.onRuntimeStateRestored ctx event).1.config = s.config
    unfold onRuntimeStateRestored
    split <;> rfl
  | stopOrder | timer | prepared | blocked | riskGateState | acknowledge | drain => rfl

theorem config_of_moves {allowed : Allowed SessionGapStandaloneStrategy (Option SavedState)}
    (h : Moves SessionGapStandaloneStrategy.strategy allowed s t) :
    t.strategy.config = s.strategy.config := by
  refine Moves.keeps (I := fun rt => rt.strategy.config = s.strategy.config) ?_ h rfl
  intro u v hmove hu
  cases hmove with
  | book view => exact (congrArg _ view.strategy).trans hu
  | event => exact hu
  | react s' records hreact hreactions =>
    refine Eq.trans ?_ hu
    induction hreactions with
    | refl => rfl
    | tail _ hlast ih => exact (config_of_reaction hlast).trans ih
  | revert => exact hu

def SameConfig (s t : Runtime) : Prop := t.strategy.config = s.strategy.config

instance : Std.Refl SameConfig := ⟨fun _ => rfl⟩

instance : IsTrans Runtime SameConfig := ⟨fun _ _ _ h h' => h'.trans h⟩

section Config

variable {env : Env SessionGapStandaloneStrategy (Option SavedState)}
  (henv : env.strategy = SessionGapStandaloneStrategy.strategy)

include henv

theorem sameConfig_observes : Observes env SameConfig where
  calling _ _ h := config_of_moves (henv ▸ h)
  forward _ _ h := config_of_moves (henv ▸ h)
  frame _ _ h := congrArg _ h.strategy

theorem sameConfig_handleBar (stream messageId : String) (bar : BarEvent) :
    Within env SameConfig (handleBar stream messageId bar) := by
  intro s
  have hobserves := sameConfig_observes henv
  rw [handleBar, wp_bind, wp_read, wp_bind, wp_get]
  split
  · exact hobserves.within_xack stream messageId s
  · refine wp_bind_within (hobserves.within_prepareBar bar s) fun prepared t _ => ?_
    obtain ⟨ctx, eventTs⟩ := prepared
    have hsettle : ∀ intents previousState, Within env SameConfig
        (settleBar ctx eventTs bar intents previousState) := by
      intro intents previousState
      have hmakes : Makes env (returning fun _ => True)
          (settleBar ctx eventTs bar intents previousState) := makes_settleBar _ _ _ _ trivial
      exact hmakes.mono fun _ _ hm => config_of_moves (henv ▸ hm)
    have hrest : ∀ intents previousState, Within env SameConfig (do
        settleBar ctx eventTs bar intents previousState
        modifyState fun state => state.updateLastBarTs bar.symbol bar.closeTimeUtc
        xack stream messageId) := fun intents previousState =>
      within_bind (hsettle intents previousState) fun _ =>
        within_bind (within_modify fun _ => rfl) fun _ => hobserves.within_xack stream messageId
    rw [wp_bind, wp_invokeStrategyCallback, henv]
    have hbar := onBar_config t.strategy ctx bar
    exact wp_mono (hrest _ _ _) (fun _ _ hu => hu.trans hbar) fun _ _ hu => hu.trans hbar

end Config

/-! ### Runs -/

inductive RuntimeEvent where
  | bar (stream messageId : String) (bar : BarEvent)
  | broker (stream messageId : String) (event : BrokerEvent)

namespace RuntimeEvent

def handle : RuntimeEvent → RuntimeM SessionGapStandaloneStrategy (Option SavedState) Unit
  | .bar stream messageId event => handleBar stream messageId event
  | .broker stream messageId event => event.handle stream messageId

/-- Where an ack makes the strategy send its exit again, the runtime's time is that of the ack. -/
def RetriesInTime (rt : Runtime) : RuntimeEvent → Prop
  | .broker _ _ (.ack ack) => SendsExitAgain rt.strategy ack →
      normalizedTs rt ack.processedTsUtc = ack.processedTsUtc
  | _ => True

end RuntimeEvent

variable {rt : Runtime}

section Runs

variable (env : Env SessionGapStandaloneStrategy (Option SavedState))

def handledBy (rt : Runtime) (event : RuntimeEvent) : Runtime × Unit := (event.handle.post env rt, ())

/-- The strategy is the session-gap strategy, for the symbol of the runtime. -/
structure Runs (rt : Runtime) : Prop where
  strategy : env.strategy = SessionGapStandaloneStrategy.strategy
  symbol : rt.strategy.config.symbol = env.config.strategy.symbol

variable {env}

theorem Runs.kept (h : Runs env rt) (event : RuntimeEvent) : Runs env (handledBy env rt event).1 := by
  have hconfig : Within env SameConfig event.handle := by
    cases event with
    | bar stream messageId bar => exact sameConfig_handleBar h.strategy stream messageId bar
    | broker stream messageId event =>
      exact (sameConfig_observes h.strategy).within_brokerEvent stream messageId event
  have hsame : SameConfig rt (event.handle.post env rt) := hconfig.post rt
  refine ⟨h.strategy, ?_⟩
  rw [← h.symbol]
  exact congrArg SessionGapStandaloneConfig.symbol hsame

theorem Runs.requestsAgree (h : Runs env rt) {event : RuntimeEvent}
    (hretry : event.RetriesInTime rt) : RequestsAgree rt (handledBy env rt event).1 := by
  refine wp_post (I := RequestsAgree rt) ?_
  cases event with
  | bar stream messageId bar => exact agrees_handleBar h.strategy stream messageId bar h.symbol
  | broker stream messageId event =>
    refine agrees_brokerEvent h.strategy stream messageId event fun ack hack => ?_
    rw [hack] at hretry
    exact hretry

/-- Every command has the identifier that the strategy foresaw, as long as no exit is sent again at
a time that the runtime moves. -/
theorem always_requestsAgree (rt : Runtime) (events : List RuntimeEvent) (h : Runs env rt)
    (hretries : Reaction.Always (handledBy env) (fun rt event => event.RetriesInTime rt) rt events) :
    Reaction.Always (handledBy env) (fun rt event => RequestsAgree rt (handledBy env rt event).1) rt
      events := by
  refine Reaction.Always.of_invariant (I := Runs env) (fun rt event hrt hretry => ?_) h hretries
  exact ⟨hrt.requestsAgree hretry, hrt.kept event⟩

end Runs

/-! ### An ack of a moment ago -/

namespace Sample

def runtimeConfig : RuntimeConfig :=
  { liveConfig with
    strategy := { liveConfig.strategy with
      strategyId := "session_gap", symbol := "USDRUBF", tickSize := 1 / 100 } }

def env : Env SessionGapStandaloneStrategy (Option SavedState) :=
  calmEnv runtimeConfig SessionGapStandaloneStrategy.strategy 1699960000000

def exit : PendingExitPhase where
  requestId := deterministicRequestId "session_gap" "D1" "USDRUBF" "place" 1699959960 0
  side := .sell
  qty := 1
  price := 102
  baselineQty := 0
  reason := "tp"
  sentTs := 1699959960
  acked := false

def exiting : Runtime :=
  let s := strategy.persistStateSnapshot (toSessionDt .default 1699959960).date
    (.pendingExit exit) 1699959960
  { StrategyRuntime.new s.state s with
    liveGuard := ⟨some ⟨.liveReady, true, true, true, 1699959990⟩⟩
    bootstrapState := ⟨true, true, true⟩
    barsReadTotal := 1
    strategyNowTsUtc := 1699959960 }

def recycleFailed (processedTsUtc : ℤ) : CommandAck :=
  { CommandAck.bare exit.requestId .error processedTsUtc with
    errorCode := some "control_path_recycle_failed"
    errorMsg := some "recycle failed" }

end Sample

/-- The identifiers of the commands in a log, with those that the saved phases wait for. -/
def publishedIds (log : List (HostEvent (Option SavedState))) : List (Uuid × Option Uuid) :=
  log.filterMap fun
    | .published command snapshot => some (command.requestId, savedRequestId? snapshot.strategyState)
    | _ => none

theorem publishedIds_agree {rt' : Runtime} (hlog : rt.log = []) (h : RequestsAgree rt rt') :
    ∀ ids ∈ publishedIds rt'.log, ids.2 = some ids.1 := by
  obtain ⟨new, hnew, hpublished, -⟩ := h
  intro ids hids
  obtain ⟨event, hmem, hevent⟩ := List.mem_filterMap.mp hids
  rw [hnew, hlog, List.nil_append] at hmem
  cases event with
  | published command snapshot =>
    rw [← Option.some.inj hevent]
    exact hpublished command snapshot hmem
  | _ => cases hevent

/-- An answer of the gateway that is not older than the last event. -/
theorem always_requestsAgree_inTime :
    Reaction.Always (handledBy Sample.env)
      (fun rt event => RequestsAgree rt (handledBy Sample.env rt event).1) Sample.exiting
      [.broker "acks" "1-0" (.ack (Sample.recycleFailed 1699959961))] :=
  always_requestsAgree Sample.exiting _ ⟨rfl, rfl⟩ ⟨fun _ => by decide, trivial⟩

/-- An answer that is two seconds older: the exit goes out at the time of the last event, and the
strategy waits for one of the time of the answer. -/
theorem not_requestsAgree_late :
    Runs Sample.env Sample.exiting ∧ ¬ Reaction.Always (handledBy Sample.env)
        (fun rt event => RequestsAgree rt (handledBy Sample.env rt event).1) Sample.exiting
        [.broker "acks" "1-0" (.ack (Sample.recycleFailed 1699959958))] := by
  refine ⟨⟨rfl, rfl⟩, fun h => ?_⟩
  have hids : (deterministicRequestId "session_gap" "D1" "USDRUBF" "place" 1699959960 0,
      some (deterministicRequestId "session_gap" "D1" "USDRUBF" "place" 1699959958 0)) ∈
      publishedIds (handledBy Sample.env Sample.exiting
        (.broker "acks" "1-0" (.ack (Sample.recycleFailed 1699959958)))).1.log := by
    decide +kernel
  have hagree := publishedIds_agree rfl h.1 _ hids
  exact absurd hagree (by decide +kernel)

end AlorRs.SessionGap
