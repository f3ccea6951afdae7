import AlorRs.StrategyRuntime.Equiv.Runtime.Emission
import AlorRs.StrategyRuntime.Runtime.Handlers

/-!
# Callbacks and handlers

A callback and the emission of its intents are moves that keep the books; the strategy can only
be taken back to the state that it had before the callback.  A relation that holds along such moves
and along changes of the books holds along every handler (`Observes`).
-/

namespace AlorRs

open Eff

namespace StrategyRuntime

open RuntimeM

variable {σ P : Type} {env : Env σ P}

/-- What a callback may do to a runtime whose strategy has the state `previousState`. -/
abbrev calling (previousState : P) : Allowed σ P :=
  emission HostEvent.Calling True (· = previousState)

abbrev preparing : Allowed σ P := emission HostEvent.Calling False fun _ => False

theorem Moves.calling_of_preparing {strategy : Strategy σ P} {s t : StrategyRuntime σ P}
    (h : Moves strategy preparing s t) (previousState : P) :
    Moves strategy (calling previousState) s t := by
  have hle : (preparing : Allowed σ P).Le (calling previousState) :=
    ⟨fun _ _ h => h, fun _ h => h, fun _ => trivial, fun _ h => h.elim⟩
  exact h.mono hle

variable {callback : σ → σ × List Intent}

theorem wp_invokeAndApply (ctx : StrategyCtx) (createdTsUtc : ℤ)
    (h : ∀ s, Reactions env.strategy s (callback s).1) (s : StrategyRuntime σ P) :
    wp (invokeAndApply ctx createdTsUtc callback) env s
      (fun _ t => Moves env.strategy (calling s.state.strategyState) s t)
      fun _ t => Moves env.strategy (calling s.state.strategyState) s t := by
  have happly : ∀ dispatchTsUtc intents, Makes env (calling s.state.strategyState)
      (applyIntents ctx createdTsUtc dispatchTsUtc intents s.state.strategyState) :=
    fun dispatchTsUtc intents => makes_applyIntents ctx createdTsUtc dispatchTsUtc intents rfl
  have hcall : Moves env.strategy (calling s.state.strategyState) s
      (afterCallback env.strategy (callback s.strategy).1 s) :=
    moves_afterCallback trivial (h s.strategy)
  have hask : (calling s.state.strategyState : Allowed σ P).Asks := emission_asks
  rw [invokeAndApply, wp_bind, wp_invokeStrategyCallback, wp_bind, wp_now]
  have hstart := hcall.trans hask.moves
  exact wp_mono (happly _ _ _) (fun _ _ ht => hstart.trans ht) fun _ _ ht => hstart.trans ht

theorem wp_callbackAt (eventTsUtc : ℤ)
    (lastBar : RuntimeConfig → StrategyRuntime σ P → Option ℤ)
    {callback : Strategy σ P → σ → StrategyCtx → σ × List Intent}
    (h : ∀ s ctx, Reactions env.strategy s (callback env.strategy s ctx).1)
    (s : StrategyRuntime σ P) :
    wp (callbackAt eventTsUtc lastBar callback) env s
      (fun _ t => Moves env.strategy (calling s.state.strategyState) s t)
      fun _ t => Moves env.strategy (calling s.state.strategyState) s t := by
  have hnormalize : Makes env preparing (normalizeEventTs eventTsUtc) :=
    makes_normalizeEventTs eventTsUtc
  have hctx : ∀ lastBarTs, Makes env preparing (strategyCtx lastBarTs eventTsUtc) :=
    fun lastBarTs => makes_strategyCtx lastBarTs eventTsUtc
  rw [callbackAt, wp_bind, wp_read, wp_bind]
  refine wp_mono (hnormalize s) (fun createdTs t ht => ?_)
    fun _ _ ht => Moves.calling_of_preparing ht _
  rw [wp_bind, wp_get, wp_bind]
  refine wp_mono (hctx _ t) (fun ctx u hu => ?_)
    fun _ _ hu => Moves.calling_of_preparing (ht.trans hu) _
  have hprepared : Moves env.strategy preparing s u := ht.trans hu
  have hstate := (hprepared.strategy_eq id fun _ => id).2
  have hinvoke := wp_invokeAndApply ctx createdTs (fun s => h s ctx) u
  rw [hstate] at hinvoke
  exact wp_mono hinvoke (fun _ _ hv => (hprepared.calling_of_preparing _).trans hv)
    fun _ _ hv => (hprepared.calling_of_preparing _).trans hv

/-! ### Books -/

theorem SameView.refl (s : StrategyRuntime σ P) : SameView s s :=
  ⟨rfl, rfl, rfl, rfl, rfl, rfl, rfl⟩

theorem SameView.trans {s t u : StrategyRuntime σ P} (h : SameView s t) (h' : SameView t u) :
    SameView s u :=
  ⟨h'.strategy.trans h.strategy, h'.strategyState.trans h.strategyState,
    h'.lastProcessedBarTs.trans h.lastProcessedBarTs, h'.lastTradeTs.trans h.lastTradeTs,
    h'.lastTradeId.trans h.lastTradeId, h'.seenTradeIds.trans h.seenTradeIds, h'.log.trans h.log⟩

theorem sameView_foldl {α : Type} {f : StrategyRuntime σ P → α → StrategyRuntime σ P}
    (h : ∀ s a, SameView s (f s a)) (as : List α) (s : StrategyRuntime σ P) :
    SameView s (as.foldl f s) := by
  induction as generalizing s with
  | nil => exact .refl s
  | cons a as ih => exact (h s a).trans (ih _)

section Books

variable (text : RustText) (rt : StrategyRuntime σ P) (trade : TradeEvent)

theorem sameView_applyTradeExecution : SameView rt (applyTradeExecution text rt trade) := by
  have hstart : SameView rt (startExecution text rt trade) := by
    unfold startExecution
    split
    · exact .refl rt
    · split
      · exact .refl rt
      · exact ⟨rfl, rfl, rfl, rfl, rfl, rfl, rfl⟩
  refine hstart.trans ?_
  unfold applyTradeExecution
  dsimp only
  split
  · exact .refl _
  · split
    · exact ⟨rfl, rfl, rfl, rfl, rfl, rfl, rfl⟩
    · exact .refl _

theorem sameView_replayPendingTradesForOrder (orderId : ℤ) :
    SameView rt (replayPendingTradesForOrder text rt orderId) := by
  unfold replayPendingTradesForOrder
  split
  · exact .refl rt
  · have htake : SameView rt (rt.takePendingTrades orderId).2 := ⟨rfl, rfl, rfl, rfl, rfl, rfl, rfl⟩
    exact htake.trans (sameView_foldl (sameView_applyTradeExecution text) _ _)

theorem sameView_adoptOrphanTrade :
    SameView rt (adoptOrphanTrade text rt trade) := ⟨rfl, rfl, rfl, rfl, rfl, rfl, rfl⟩

theorem sameView_flushUnmatchedPreAckTrades :
    SameView rt (flushUnmatchedPreAckTrades text rt) := by
  have horder : ∀ (s : StrategyRuntime σ P) orderId, SameView s (s.flushOrder text orderId) := by
    intro s orderId
    have htake : SameView s (s.takePendingTrades orderId).2 := ⟨rfl, rfl, rfl, rfl, rfl, rfl, rfl⟩
    exact htake.trans (sameView_foldl (sameView_adoptOrphanTrade text) _ _)
  unfold flushUnmatchedPreAckTrades
  split
  · exact .refl rt
  · exact sameView_foldl horder _ _

theorem sameView_registerAcknowledgedOrder (ack : CommandAck) :
    SameView rt (registerAcknowledgedOrder text rt ack) := by
  refine SameView.trans ?_ (sameView_flushUnmatchedPreAckTrades text _)
  split
  · dsimp only
    split
    · refine SameView.trans ?_ (sameView_replayPendingTradesForOrder text _ _)
      exact ⟨rfl, rfl, rfl, rfl, rfl, rfl, rfl⟩
    · exact ⟨rfl, rfl, rfl, rfl, rfl, rfl, rfl⟩
  · exact .refl rt

theorem sameView_updateLedgerFromOrder (config : RuntimeConfig) (order : OrderEvent) :
    SameView rt (updateLedgerFromOrder config text rt order) := by
  unfold updateLedgerFromOrder expectExecution recordOrderFill
  dsimp only
  split_ifs <;> exact ⟨rfl, rfl, rfl, rfl, rfl, rfl, rfl⟩

theorem sameView_settleTrade : SameView rt (settleTrade text rt trade) := by
  unfold settleTrade
  split
  · exact .refl rt
  · split
    · unfold queueOrApplyOwnedTrade
      split
      · exact sameView_applyTradeExecution text rt trade
      · exact ⟨rfl, rfl, rfl, rfl, rfl, rfl, rfl⟩
    · unfold bufferPreAckTrade
      split_ifs
      · exact sameView_adoptOrphanTrade text rt trade
      · exact ⟨rfl, rfl, rfl, rfl, rfl, rfl, rfl⟩

end Books

/-! ### Relations along handlers -/

/-- Two runtimes that differ in books and in the trade filter only. -/
structure SameFrame (s t : StrategyRuntime σ P) : Prop where
  strategy : t.strategy = s.strategy
  strategyState : t.state.strategyState = s.state.strategyState
  lastProcessedBarTs : t.state.lastProcessedBarTs = s.state.lastProcessedBarTs
  log : t.log = s.log

theorem SameView.frame {s t : StrategyRuntime σ P} (h : SameView s t) : SameFrame s t :=
  ⟨h.strategy, h.strategyState, h.lastProcessedBarTs, h.log⟩

theorem SameFrame.trans {s t u : StrategyRuntime σ P} (h : SameFrame s t) (h' : SameFrame t u) :
    SameFrame s u :=
  ⟨h'.strategy.trans h.strategy, h'.strategyState.trans h.strategyState,
    h'.lastProcessedBarTs.trans h.lastProcessedBarTs, h'.log.trans h.log⟩

/-- Anything that a handler does, but going back to an earlier state of the strategy. -/
abbrev forward : Allowed σ P := ⟨fun _ _ => True, HostEvent.Handling, True, fun _ => False⟩

theorem forward_asks : (forward : Allowed σ P).Asks := fun _ => trivial

/-- A relation that holds along callbacks, along what is done without going back, and along
changes of the books. -/
structure Observes (env : Env σ P) (R : StrategyRuntime σ P → StrategyRuntime σ P → Prop) : Prop where
  calling : ∀ s t, Moves env.strategy (calling s.state.strategyState) s t → R s t
  forward : ∀ s t, Moves env.strategy forward s t → R s t
  frame : ∀ s t, SameFrame s t → R s t

section Observed

variable {R : StrategyRuntime σ P → StrategyRuntime σ P → Prop}

theorem Observes.within_forward {α : Type} (h : Observes env R) {m : RuntimeM σ P α}
    (hm : Makes env StrategyRuntime.forward m) : Within env R m := hm.mono h.forward

theorem Observes.within_preparing {α : Type} (h : Observes env R) {m : RuntimeM σ P α}
    (hm : Makes env preparing m) : Within env R m :=
  hm.mono fun s t hmoves => h.calling s t (hmoves.calling_of_preparing _)

theorem Observes.within_update (h : Observes env R)
    {f : Env σ P → StrategyRuntime σ P → StrategyRuntime σ P} (hf : ∀ s, SameFrame s (f env s)) :
    Within env R (update f) := within_read_bind (within_modify fun s => h.frame s _ (hf s))

theorem Observes.within_xack (h : Observes env R) (stream messageId : String) :
    Within env R (xack stream messageId) :=
  h.within_forward (makes_xack forward_asks (fun _ _ => trivial) stream messageId)

theorem Observes.within_invokeAndApply (h : Observes env R) (ctx : StrategyCtx) (createdTsUtc : ℤ)
    (hcallback : ∀ s, Reactions env.strategy s (callback s).1) :
    Within env R (invokeAndApply ctx createdTsUtc callback) :=
  fun s => wp_mono (wp_invokeAndApply ctx createdTsUtc hcallback s) (fun _ t => h.calling s t)
    fun _ t => h.calling s t

theorem Observes.within_callbackAt (h : Observes env R) (eventTsUtc : ℤ)
    (lastBar : RuntimeConfig → StrategyRuntime σ P → Option ℤ)
    {callback : Strategy σ P → σ → StrategyCtx → σ × List Intent}
    (hcallback : ∀ s ctx, Reactions env.strategy s (callback env.strategy s ctx).1) :
    Within env R (callbackAt eventTsUtc lastBar callback) :=
  fun s => wp_mono (wp_callbackAt eventTsUtc lastBar hcallback s) (fun _ t => h.calling s t)
    fun _ t => h.calling s t

theorem Observes.within_whenLive (h : Observes env R) {stream messageId symbol : String}
    {handle : RuntimeM σ P Unit} (hhandle : Within env R handle) :
    Within env R (whenLive stream messageId symbol handle) := by
  refine within_read_bind ?_
  split
  · exact h.within_xack _ _
  · split
    · exact h.within_xack _ _
    · exact hhandle

variable [IsTrans (StrategyRuntime σ P) R]

theorem Observes.within_mirror (h : Observes env R) {f : RuntimeState P → RuntimeState P}
    (hf : ∀ state, (f state).strategyState = state.strategyState ∧
      (f state).lastProcessedBarTs = state.lastProcessedBarTs)
    (stream messageId : String) : Within env R (do modifyState f; xack stream messageId) := by
  refine within_bind (within_modify fun s => h.frame s _ ?_) fun _ => h.within_xack stream messageId
  obtain ⟨hstate, hmarks⟩ := hf s.state
  exact ⟨rfl, hstate, hmarks, rfl⟩

theorem shouldProcessTrade_frame (text : RustText) (state : RuntimeState P) (trade : TradeEvent) :
    (state.shouldProcessTrade text trade).1.strategyState = state.strategyState ∧
    (state.shouldProcessTrade text trade).1.lastProcessedBarTs = state.lastProcessedBarTs := by
  unfold RuntimeState.shouldProcessTrade RuntimeState.rememberTrade
  dsimp only
  split_ifs <;> exact ⟨rfl, rfl⟩

/-- A trade only reaches the books. -/
theorem sameFrame_trade (text : RustText) (s : StrategyRuntime σ P) (trade : TradeEvent) :
    SameFrame s
      (match s.state.shouldProcessTrade text trade with
      | (state, true) => settleTrade text { s with state := state } trade
      | (state, false) => { s with state := state }) := by
  obtain ⟨hstate, hmarks⟩ := shouldProcessTrade_frame text s.state trade
  rcases hfilter : s.state.shouldProcessTrade text trade with ⟨state, passed⟩
  rw [hfilter] at hstate hmarks
  have hsame : SameFrame s { s with state := state } := ⟨rfl, hstate, hmarks, rfl⟩
  cases passed with
  | false => exact hsame
  | true => exact hsame.trans (sameView_settleTrade _ _ trade).frame

theorem Observes.within_handleTrade (h : Observes env R) (stream messageId : String)
    (trade : TradeEvent) : Within env R (handleTrade stream messageId trade) :=
  h.within_whenLive (within_bind (h.within_update fun s => sameFrame_trade env.text s trade)
    fun _ => h.within_xack _ _)

variable [Std.Refl R]

/-- The relation holds along the events of the broker. -/
theorem Observes.within_brokerEvent (h : Observes env R) (stream messageId : String)
    (event : BrokerEvent) : Within env R (event.handle stream messageId) := by
  cases event with
  | ack ack =>
    refine within_bind (h.within_update fun s => ?_) fun _ =>
      within_bind (h.within_callbackAt _ _ fun s ctx => .single (.ack s ctx ack)) fun _ =>
      h.within_xack _ _
    exact (sameView_registerAcknowledgedOrder _ s ack).frame
  | order order =>
    refine h.within_whenLive (within_bind
      (h.within_callbackAt _ _ fun s ctx => .single (.order s ctx order)) fun _ =>
      within_bind (h.within_update fun s => ?_) fun _ => h.within_xack _ _)
    have hledger := sameView_updateLedgerFromOrder env.text s env.config order
    refine SameView.frame (hledger.trans (SameView.trans ?_
      (sameView_replayPendingTradesForOrder env.text _ order.orderId)))
    exact ⟨rfl, rfl, rfl, rfl, rfl, rfl, rfl⟩
  | stopOrder stopOrder =>
    refine h.within_whenLive (within_read_bind ?_)
    split
    · refine within_bind ?_ fun _ => h.within_mirror ?_ stream messageId
      · exact h.within_callbackAt _ _ fun s ctx => .single (.stopOrder s ctx stopOrder)
      · exact fun _ => ⟨rfl, rfl⟩
    · refine h.within_mirror ?_ stream messageId
      exact fun _ => ⟨rfl, rfl⟩
  | trade trade => exact h.within_handleTrade stream messageId trade
  | position position =>
    refine within_read_bind ?_
    split
    · exact within_bind (within_attempt (h.within_xack _ _)) fun _ => within_pure _
    · refine h.within_whenLive (within_bind ?_ fun _ => h.within_mirror ?_ stream messageId)
      · exact h.within_callbackAt _ _ fun s ctx => .single (.position s ctx position)
      · exact fun _ => ⟨rfl, rfl⟩

end Observed

end StrategyRuntime

end AlorRs
