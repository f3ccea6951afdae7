import AlorRs.StrategyRuntime.Equiv.Runtime.Moves
import AlorRs.StrategyRuntime.Runtime.Emission

/-!
# Correctness of the emission of intents

While intents are emitted the books stay as they are (`KeepsBooks`), and every piece of the
emission is a run of moves (`makes_applyIntents`).
-/

namespace AlorRs

open Eff

namespace StrategyRuntime

open RuntimeM

variable {σ P : Type}

/-! ### Books -/

/-- The part of the state that the broker's events fill. -/
structure Books where
  orders : AList fun _ : ℤ => OrderEvent
  stopOrders : AList fun _ : String => StopOrderEvent
  positions : AList fun _ : String => PositionEvent
  bootstrapState : BootstrapState
  barsReadTotal : ℕ
  barsStreamXlenLast : Option ℕ
  ledger : TradeLedger
  ourOrderIds : Finset ℤ
  bootstrapSnapshot : Option BootstrapSnapshot
  pendingTradesByOrderId : AList fun _ : ℤ => List TradeEvent
  pendingExec : AList fun _ : ℤ => PendingExecution
  simOrders : List SimOrder
  nextSimOrderId : ℤ

def books (rt : StrategyRuntime σ P) : Books where
  orders := rt.state.orders
  stopOrders := rt.state.stopOrders
  positions := rt.state.positions
  bootstrapState := rt.bootstrapState
  barsReadTotal := rt.barsReadTotal
  barsStreamXlenLast := rt.barsStreamXlenLast
  ledger := rt.ledger
  ourOrderIds := rt.ourOrderIds
  bootstrapSnapshot := rt.bootstrapSnapshot
  pendingTradesByOrderId := rt.pendingTradesByOrderId
  pendingExec := rt.pendingExec
  simOrders := rt.simOrders
  nextSimOrderId := rt.nextSimOrderId

def KeepsBooks (s t : StrategyRuntime σ P) : Prop :=
  t.books = s.books ∧ s.ourRequestIds ⊆ t.ourRequestIds

/-- What the emission may do: it keeps the books; the rest is as the parameters say. -/
def emission (event : HostEvent P → Prop) (react : Prop) (revert : P → Prop) : Allowed σ P :=
  ⟨KeepsBooks, event, react, revert⟩

variable {event : HostEvent P → Prop}

theorem emission_asks {react : Prop} {revert : P → Prop} :
    (emission event react revert : Allowed σ P).Asks := fun _ => ⟨rfl, subset_rfl⟩

variable {s : StrategyRuntime σ P}

theorem Moves.keepsBooks {strategy : Strategy σ P} {react : Prop} {revert : P → Prop}
    {t : StrategyRuntime σ P} (h : Moves strategy (emission event react revert) s t) :
    KeepsBooks s t := by
  induction h with
  | refl => exact ⟨rfl, subset_rfl⟩
  | tail _ hmove ih =>
    cases hmove with
    | book _ hbook => exact ⟨hbook.1.trans ih.1, ih.2.trans hbook.2⟩
    | event | react | revert => exact ih

/-! ### The pieces of the emission -/

section Pieces

variable {env : Env σ P} {event : HostEvent P → Prop} {react : Prop} {revert : P → Prop}

theorem makes_strategyCtx (lastBarTs : Option ℤ) (eventTsUtc : ℤ) :
    Makes env (emission event react revert) (strategyCtx lastBarTs eventTsUtc) :=
  within_read_bind <| within_get_bind fun _ =>
    within_bind (makes_now emission_asks) fun _ => within_pure _

theorem makes_normalizeEventTs (eventTsUtc : ℤ) :
    Makes env (emission event react revert) (normalizeEventTs eventTsUtc) := by
  refine within_get_bind fun rt => within_bind (makes_book ?_ ?_) fun _ => within_pure _
  · exact fun _ => ⟨rfl, rfl, rfl, rfl, rfl, rfl, rfl⟩
  · exact fun _ => ⟨rfl, subset_rfl⟩

theorem makes_appendAll (hjournal : ∀ record, event (.journalled record)) (records : List String) :
    Makes env (emission event react revert) (flushStrategyJournalRecords.appendAll records) := by
  induction records with
  | nil => exact within_pure _
  | cons record records ih =>
    exact within_bind (makes_write emission_asks (hjournal record) rfl) fun _ => ih

theorem makes_flushStrategyJournalRecords (hjournal : ∀ record, event (.journalled record)) :
    Makes env (emission event react revert) flushStrategyJournalRecords := by
  refine within_read_bind (within_get_bind fun rt => ?_)
  split
  · exact within_pure _
  · refine within_bind (makes_book ?_ ?_) fun _ => ?_
    · exact fun _ => ⟨rfl, rfl, rfl, rfl, rfl, rfl, rfl⟩
    · exact fun _ => ⟨rfl, subset_rfl⟩
    · split
      · exact within_pure _
      · split
        · exact within_pure _
        · exact makes_appendAll hjournal _

theorem makes_evaluateGuardDecision (hguard : ∀ decision, event (.guardEvaluated decision)) :
    Makes env (emission event react revert) evaluateGuardDecision :=
  within_read_bind <| within_get_bind fun _ => within_bind (makes_now emission_asks) fun _ =>
    within_bind (makes_record (hguard _) rfl) fun _ => within_pure _

theorem makes_refreshHealthNow : Makes env (emission event react revert) refreshHealthNow := by
  refine within_read_bind ?_
  split
  · exact within_pure _
  · refine within_bind (makes_readFrom emission_asks _) fun health => ?_
    cases health with
    | none => exact within_pure _
    | some health =>
      refine makes_book ?_ ?_
      · exact fun _ => ⟨rfl, rfl, rfl, rfl, rfl, rfl, rfl⟩
      · exact fun _ => ⟨rfl, subset_rfl⟩

theorem makes_pollGuard (hguard : ∀ decision, event (.guardEvaluated decision)) (attempts : ℕ) :
    Makes env (emission event react revert) (pollGuard attempts) := by
  induction attempts with
  | zero => exact makes_evaluateGuardDecision hguard
  | succ attempts ih =>
    refine within_bind makes_refreshHealthNow fun _ =>
      within_bind (makes_evaluateGuardDecision hguard) fun current => ?_
    split
    · exact within_pure _
    · split
      · exact within_pure _
      · exact ih

theorem moves_afterCallback {allowed : Allowed σ P} (hreact : allowed.react) {s' : σ}
    (h : Reactions env.strategy s.strategy s') :
    Moves env.strategy allowed s (afterCallback env.strategy s' s) :=
  .single (.react s _ _ hreact (h.tail (.drain s')))

variable {callback : σ → σ × List Intent}

@[simp] theorem wp_invokeStrategyCallback {Q : List Intent × P → StrategyRuntime σ P → Prop}
    {R : RuntimeError → StrategyRuntime σ P → Prop} :
    wp (invokeStrategyCallback callback) env s Q R ↔
      Q ((callback s.strategy).2, s.state.strategyState)
        (afterCallback env.strategy (callback s.strategy).1 s) := Iff.rfl

theorem makes_invokeStrategyCallback (hreact : react)
    (h : ∀ s, Reactions env.strategy s (callback s).1) :
    Makes env (emission event react revert) (invokeStrategyCallback callback) := fun s => by
  rw [wp_invokeStrategyCallback]
  exact moves_afterCallback hreact (h s.strategy)

theorem makes_notifyCommandPrepared (hreact : react) (ctx : StrategyCtx) (command : OrderCommand)
    (intentClass : IntentClass) :
    Makes env (emission event react revert) (notifyCommandPrepared ctx command intentClass) :=
  within_read_bind fun s => .single (.react s _ _ hreact (.single (.prepared _ ctx _)))

theorem makes_maybeWait (hguard : ∀ decision, event (.guardEvaluated decision))
    (decision : LiveGuardDecision) :
    Makes env (emission event react revert) (maybeWaitForGuardReadinessRace decision) := by
  refine within_read_bind ?_
  split
  · exact within_pure _
  · split
    · exact within_pure _
    · exact makes_pollGuard hguard _

theorem makes_guardDecision (hguard : ∀ decision, event (.guardEvaluated decision)) :
    Makes env (emission event react revert) guardDecision := by
  refine within_bind (makes_evaluateGuardDecision hguard) fun decision => ?_
  split
  · exact within_pure _
  · exact makes_maybeWait hguard decision

theorem makes_notifyIntentsBlocked (hreact : react)
    (hcalled : ∀ blocked, event (.called (.intentBlocked blocked))) (ctx : StrategyCtx)
    (events : List IntentBlocked) :
    Makes env (emission event react revert) (notifyIntentsBlocked ctx events) := by
  induction events with
  | nil => exact within_pure _
  | cons blocked events ih =>
    intro s
    simp only [notifyIntentsBlocked, wp_bind, wp_read, wp_get, wp_record, wp_modify, wp_pure]
    have hlog : Moves env.strategy (emission event react revert) s
        { s with log := s.log ++ [.called (.intentBlocked blocked)] } :=
      .single (.event s _ (hcalled _) (by simp [HostEvent.snapshot?]))
    have hreact := hlog.trans (moves_afterCallback hreact (.single (.blocked s.strategy ctx blocked)))
    exact wp_mono (ih _) (fun _ _ hm => hreact.trans hm) fun _ _ hm => hreact.trans hm

variable {previousState : P}

theorem makes_restoreStrategyState (hcalled : ∀ reason, event (.called (.stateReverted reason)))
    (h : revert previousState) (reason : String) :
    Makes env (emission event react revert) (restoreStrategyState previousState reason) :=
  within_read_bind <| within_bind (makes_record (hcalled _) rfl) fun _ =>
    within_modify fun s => .single (.revert s previousState h)

def exitWindowOpen (config : RuntimeConfig) (dispatchTsUtc : ℤ) : Bool :=
  (currentMarketState config dispatchTsUtc).all fun state => state = .opened

section Emit

variable {ctx : StrategyCtx} {createdTsUtc dispatchTsUtc : ℤ}
  (hjournal : ∀ record, event (.journalled record))
  (hpersist : ∀ snapshot, event (.persisted snapshot))
  (hcalled : ∀ call, event (.called call)) (hreact : react)

include hjournal hpersist hcalled hreact

theorem makes_deferExit (intent : Intent) (intentClass : IntentClass) :
    Makes env (emission event react revert)
      (deferExit ctx createdTsUtc dispatchTsUtc intent intentClass) := by
  refine within_read_bind <| within_get_bind fun rt =>
    within_bind (makes_notifyCommandPrepared hreact _ _ _) fun _ => within_get_bind fun rt' =>
    within_bind (makes_strategyCtx _ _) fun ackCtx => within_bind (makes_record (hcalled _) rfl)
    fun _ => within_bind (makes_invokeStrategyCallback hreact fun s => .single (.ack s ackCtx _)) fun _ =>
    within_bind (makes_flushStrategyJournalRecords hjournal) fun _ => ?_
  exact makes_persistState emission_asks hpersist

/-- An exit is deferred unless the market is open. -/
theorem wp_maybeDeferExitBeforeEmit (intent : Intent) (intentClass : IntentClass)
    (s : StrategyRuntime σ P) :
    wp (maybeDeferExitBeforeEmit ctx createdTsUtc dispatchTsUtc intent intentClass) env s
      (fun deferred t => Moves env.strategy (emission event react revert) s t ∧
        (deferred = false → intentClass = .exit → exitWindowOpen env.config dispatchTsUtc = true))
      fun _ t => Moves env.strategy (emission event react revert) s t := by
  unfold maybeDeferExitBeforeEmit exitWindowOpen
  rw [wp_bind, wp_read]
  split
  · next hclass => exact ⟨.refl, fun _ hexit => absurd hexit hclass⟩
  · split
    · next hstate => exact ⟨.refl, fun _ _ => by rw [hstate]; rfl⟩
    · next hstate => exact ⟨.refl, fun _ _ => by rw [hstate]; rfl⟩
    · rw [wp_bind]
      exact wp_mono (makes_deferExit hjournal hpersist hcalled hreact intent intentClass s)
        (fun _ _ hm => ⟨hm, fun hfalse => absurd hfalse (by decide)⟩) fun _ _ hm => hm

omit hjournal hpersist hcalled in
theorem makes_publishIntent {intent : Intent} {intentClass : IntentClass}
    (hpublish : ∀ s snapshot,
      event (.published (intentToCommand env s ctx createdTsUtc intent intentClass) snapshot)) :
    Makes env (emission event react revert) (publishIntent ctx createdTsUtc intent intentClass) := by
  refine within_read_bind <| within_get_bind fun rt =>
    within_bind (makes_notifyCommandPrepared hreact _ _ _) fun _ =>
    within_bind (makes_persistState emission_asks fun snapshot => hpublish rt.strategy snapshot)
    fun _ => makes_book ?_ ?_
  · exact fun _ => ⟨rfl, rfl, rfl, rfl, rfl, rfl, rfl⟩
  · exact fun _ => ⟨rfl, Finset.subset_insert _ _⟩

theorem makes_emitIntent {intent : Intent} {intentClass : IntentClass}
    (hpublish : (intentClass = .exit → exitWindowOpen env.config dispatchTsUtc = true) →
      ∀ s snapshot,
        event (.published (intentToCommand env s ctx createdTsUtc intent intentClass) snapshot)) :
    Makes env (emission event react revert)
      (emitIntent ctx createdTsUtc dispatchTsUtc intent intentClass) := by
  intro s
  unfold emitIntent
  rw [wp_bind]
  refine wp_mono (wp_maybeDeferExitBeforeEmit hjournal hpersist hcalled hreact intent intentClass s)
    (fun deferred t ht => ?_) fun _ _ hm => hm
  obtain ⟨hmoves, hopen⟩ := ht
  cases deferred with
  | true => exact hmoves
  | false =>
    exact wp_mono (makes_publishIntent hreact (hpublish (hopen rfl)) t)
      (fun _ _ hm => hmoves.trans hm) fun _ _ hm => hmoves.trans hm

theorem makes_emitIntents {intents : List (Intent × IntentClass)}
    (hpublish : ∀ intent ∈ intents,
      (intent.2 = .exit → exitWindowOpen env.config dispatchTsUtc = true) → ∀ s snapshot,
        event (.published (intentToCommand env s ctx createdTsUtc intent.1 intent.2) snapshot)) :
    Makes env (emission event react revert) (emitIntents ctx createdTsUtc dispatchTsUtc intents) := by
  induction intents with
  | nil => exact within_pure _
  | cons intent intents ih =>
    refine within_bind (makes_emitIntent hjournal hpersist hcalled hreact
      (hpublish intent List.mem_cons_self)) fun _ => ih fun intent h => ?_
    exact hpublish intent (List.mem_cons_of_mem _ h)

theorem makes_emitDecided {decision : LiveGuardDecision} {accepted : List (Intent × IntentClass)}
    (hrevert : revert previousState) (hpublish : ∀ intent ∈ accepted,
      (decision.allowed = false → passesBlockedGuard ctx intent.2 = true) →
      (intent.2 = .exit → exitWindowOpen env.config dispatchTsUtc = true) → ∀ s snapshot,
        event (.published (intentToCommand env s ctx createdTsUtc intent.1 intent.2) snapshot)) :
    Makes env (emission event react revert)
      (emitDecided ctx createdTsUtc dispatchTsUtc decision accepted previousState) := by
  unfold emitDecided
  split
  · next hallowed =>
    exact makes_emitIntents hjournal hpersist hcalled hreact fun intent h =>
      hpublish intent h fun hblocked => absurd hallowed (by simp [hblocked])
  · dsimp only
    split
    · refine within_bind (makes_notifyIntentsBlocked hreact (fun _ => hcalled _) _ _) fun kept => ?_
      split
      · exact within_bind (makes_flushStrategyJournalRecords hjournal) fun _ =>
          makes_persistState emission_asks hpersist
      · exact within_bind (makes_restoreStrategyState (fun _ => hcalled _) hrevert _) fun _ =>
          makes_persistState emission_asks hpersist
    · refine makes_emitIntents hjournal hpersist hcalled hreact fun intent h => ?_
      obtain ⟨hmem, hpass⟩ := List.mem_filter.mp h
      exact hpublish intent hmem fun _ => hpass

end Emit

theorem makes_logVirtualTrades (htrade : ∀ ts intent, event (.virtualTrade ts intent))
    (createdTsUtc : ℤ) (intents : List Intent) :
    Makes env (emission event react revert) (logVirtualTrades createdTsUtc intents) := by
  have hone : ∀ intent, Makes env (emission event react revert)
      (logVirtualTrade createdTsUtc intent) := by
    intro intent
    refine within_read_bind ?_
    split
    · exact within_pure _
    · exact makes_write emission_asks (htrade _ _) rfl
    · exact makes_write emission_asks (htrade _ _) rfl
    · exact within_pure _
  have hall : ∀ intents, Makes env (emission event react revert)
      (logVirtualTrades.logAll createdTsUtc intents) := by
    intro intents
    induction intents with
    | nil => exact within_pure _
    | cons intent intents ih => exact within_bind (hone intent) fun _ => ih
  refine within_read_bind ?_
  split
  · exact hall intents
  · exact within_pure _

/-- Whatever the mode, the intents of a callback leave the books alone. -/
theorem makes_applyIntents (ctx : StrategyCtx) (createdTsUtc dispatchTsUtc : ℤ)
    (intents : List Intent) (hrevert : revert previousState) :
    Makes env (emission HostEvent.Calling True revert)
      (applyIntents ctx createdTsUtc dispatchTsUtc intents previousState) := by
  have hpersist : Makes env (emission HostEvent.Calling True revert) (persistState none) :=
    makes_persistState emission_asks fun _ => trivial
  have hvirtual : Makes env (emission HostEvent.Calling True revert)
      (logVirtualTrades createdTsUtc intents) :=
    makes_logVirtualTrades (fun _ _ => trivial) createdTsUtc intents
  have hlive : Makes env (emission HostEvent.Calling True revert)
      (applyIntentsLive ctx createdTsUtc dispatchTsUtc intents previousState) := by
    refine within_read_bind ?_
    dsimp only
    split
    · exact within_bind (makes_restoreStrategyState (fun _ => trivial) hrevert _) fun _ => hpersist
    · exact within_bind (makes_guardDecision fun _ => trivial) fun decision =>
        makes_emitDecided (fun _ => trivial) (fun _ => trivial) (fun _ => trivial) trivial hrevert
          fun _ _ _ _ _ _ => trivial
  refine within_bind (makes_flushStrategyJournalRecords fun _ => trivial) fun _ => ?_
  split
  · exact hpersist
  · refine within_read_bind ?_
    split
    · exact hlive
    all_goals exact within_bind hvirtual fun _ => hpersist

end Pieces

end StrategyRuntime

/-! ### A calm environment -/

/-- A strategy that never asks for anything and keeps its state. -/
def silentStrategy {σ : Type} : Strategy σ σ :=
  .withDefaults (fun s _ _ => (s, [])) (fun s _ _ => (s, [])) (fun s _ _ => (s, []))
    (fun s _ _ => (s, [])) (fun s => s) (fun _ s => s)

def liveConfig : RuntimeConfig where
  strategy :=
    { strategyId := "hybrid_intraday"
      symbol := "IMOEXF"
      orderSymbol := none
      tickSize := 1 / 2
      tradingPeriods := none
      timezoneOffsetHours := 3
      maxSilenceBarsSec := 0
      sessionCloseHour := 23
      sessionCloseMinute := 50
      decisionJournalPath := none
      riskGateProfile := .ok none
      riskGatePersistInShadow := false }
  streams := ⟨"bars", "orders", "trades", "positions", "acks", none, none⟩
  portfolio := "D1"
  exchange := "MOEX"
  tradeMode := .live
  allowLiveOrders := true
  gatewayHealthStaleSec := 60
  requireGatewayReady := true
  resetStateOnStart := false
  claimBatch := 10
  paperEnabled := false
  paperExecutionMode := .liveOnly
  paperOutput := .stdout
  backtestEnabled := false
  capabilities := ⟨false, false, false, false⟩

/-- An environment whose clock stands at `nowMs` and whose writes all succeed. -/
def calmEnv {σ P : Type} (config : RuntimeConfig) (strategy : Strategy σ P) (nowMs : ℤ) :
    Env σ P where
  config := config
  strategy := strategy
  text := ⟨id, fun x => toString x.num⟩
  nowMs _ := nowMs
  delivery _ := .done
  transport := ⟨fun _ => .error "EOF while parsing a value", fun _ _ _ _ => none, fun _ _ => .done⟩
  health _ := none
  riskGateState _ := none
  brokerSnapshots _ := ⟨none, none, none⟩
  history _ := []

/-- Trading from ten to ten to seven, Moscow time. -/
def dayPeriods : TradingPeriods where
  sessionStart := .fromHms 10 0 0
  sessionEnd := .fromHms 18 50 0
  breakStart1 := .fromHms 0 0 0
  breakEnd1 := .fromHms 0 0 0
  breakStart2 := .fromHms 0 0 0
  breakEnd2 := .fromHms 0 0 0
  weekendsOff := true
  timezoneOffsetHours := 3

/-- A live configuration with trading periods that tolerates five minutes without bars. -/
def dayConfig : RuntimeConfig :=
  { liveConfig with
    strategy := { liveConfig.strategy with
      tradingPeriods := some dayPeriods, maxSilenceBarsSec := 300 } }

/-- A live runtime that the guard lets trade at `tsUtc`, with a strategy in state `s`. -/
def readyRuntime {σ : Type} (s : σ) (tsUtc : ℤ) : StrategyRuntime σ σ :=
  { StrategyRuntime.new s s with
    liveGuard := ⟨some ⟨.liveReady, true, true, true, tsUtc⟩⟩
    bootstrapState := ⟨true, true, true⟩
    barsReadTotal := 1 }

end AlorRs
