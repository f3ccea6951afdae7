import AlorRs.StrategyRuntime.Equiv.Runtime.Handlers
import AlorRs.StrategyRuntime.Runtime.Bars

/-!
# A strategy that remembers its bars

`Strategy.traced` is a strategy whose state also holds the bars that it was fed, and which of them
it had been fed before.  What the runtime does between two bars keeps these lists, and the
snapshots that it writes meanwhile carry the same bars and the same mark (`Keeps`).
-/

namespace AlorRs

open Eff

/-- A state with the bars whose effect it contains, and those that came when it did already. -/
structure Traced (σ : Type) where
  base : σ
  fed : List BarEvent
  refed : List BarEvent

def Traced.along {σ α : Type} (s : Traced σ) (outcome : σ × α) : Traced σ × α :=
  ({ s with base := outcome.1 }, outcome.2)

def refedAfter (fed refed : List BarEvent) (bar : BarEvent) : List BarEvent :=
  if bar ∈ fed then refed ++ [bar] else refed

/-- The strategy with the bars that its state contains; they are persisted with it. -/
def Strategy.traced {σ P : Type} (strategy : Strategy σ P) :
    Strategy (Traced σ) (P × List BarEvent) where
  onBar s ctx bar :=
    let (base, intents) := strategy.onBar s.base ctx bar
    (⟨base, s.fed ++ [bar], refedAfter s.fed s.refed bar⟩, intents)
  onAck s ctx event := s.along (strategy.onAck s.base ctx event)
  onOrder s ctx event := s.along (strategy.onOrder s.base ctx event)
  onStopOrder s ctx event := s.along (strategy.onStopOrder s.base ctx event)
  onPosition s ctx event := s.along (strategy.onPosition s.base ctx event)
  onTimer s ctx nowTsUtc := s.along (strategy.onTimer s.base ctx nowTsUtc)
  onBootstrapSnapshot s ctx event := s.along (strategy.onBootstrapSnapshot s.base ctx event)
  onRuntimeStateRestored s ctx event := s.along (strategy.onRuntimeStateRestored s.base ctx event)
  warmupFromHistory s ctx bars := s.along (strategy.warmupFromHistory s.base ctx bars)
  trackedOrderIds s := strategy.trackedOrderIds s.base
  intentCommentTag s := strategy.intentCommentTag s.base
  onCommandPrepared s ctx event := { s with base := strategy.onCommandPrepared s.base ctx event }
  onIntentBlocked s ctx event := s.along (strategy.onIntentBlocked s.base ctx event)
  pendingRequestIds s := strategy.pendingRequestIds s.base
  riskGateSessionFinalizations s := strategy.riskGateSessionFinalizations s.base
  acknowledgeRiskGateSessionFinalizations s dates :=
    { s with base := strategy.acknowledgeRiskGateSessionFinalizations s.base dates }
  onRiskGateState s state := { s with base := strategy.onRiskGateState s.base state }
  drainObservationJournalRecords s := s.along (strategy.drainObservationJournalRecords s.base)
  state s := (strategy.state s.base, s.fed)
  setState s state := ⟨strategy.setState s.base state.1, state.2, s.refed⟩

def Env.traced {σ P : Type} (env : Env σ P) : Env (Traced σ) (P × List BarEvent) :=
  { env with strategy := env.strategy.traced }

abbrev TracedRuntime (σ P : Type) := StrategyRuntime (Traced σ) (P × List BarEvent)

abbrev BarMarks := AList fun _ : String => ℤ

namespace StrategyRuntime

open RuntimeM

variable {σ P : Type}

/-! ### Bars and marks -/

/-- The strategy contains one of the given lists of bars, and the marks are as given. -/
structure Reflects (bars : Set (List BarEvent)) (refed : List BarEvent) (marks : BarMarks)
    (rt : TracedRuntime σ P) : Prop where
  persisted : rt.state.strategyState.2 = rt.strategy.fed
  fed : rt.strategy.fed ∈ bars
  refed : rt.strategy.refed = refed
  marks : rt.state.lastProcessedBarTs = marks

variable (bars : Set (List BarEvent))

def Carries (marks : BarMarks) (event : HostEvent (P × List BarEvent)) : Prop :=
  ∀ snapshot, event.snapshot? = some snapshot →
    snapshot.strategyState.2 ∈ bars ∧ snapshot.lastProcessedBarTs = marks

def Keeps (refed : List BarEvent) (marks : BarMarks) (s t : TracedRuntime σ P) : Prop :=
  Reflects bars refed marks s → Reflects bars refed marks t ∧ Extends log (Carries bars marks) s t

variable {bars : Set (List BarEvent)} {refed : List BarEvent} {marks : BarMarks}
  {s t : TracedRuntime σ P}

theorem Keeps.trans {u : TracedRuntime σ P} (h : Keeps bars refed marks s t)
    (h' : Keeps bars refed marks t u) : Keeps bars refed marks s u := by
  intro hs
  obtain ⟨ht, hlog⟩ := h hs
  obtain ⟨hu, hlog'⟩ := h' ht
  exact ⟨hu, hlog.trans hlog'⟩

instance : Std.Refl (Keeps bars refed marks : TracedRuntime σ P → TracedRuntime σ P → Prop) :=
  ⟨fun _ hs => ⟨hs, .of_eq rfl⟩⟩

instance : IsTrans (TracedRuntime σ P) (Keeps bars refed marks) := ⟨fun _ _ _ => .trans⟩

theorem Carries.mono {bars' : Set (List BarEvent)} (hsub : bars ⊆ bars')
    {event : HostEvent (P × List BarEvent)} (h : Carries bars marks event) :
    Carries bars' marks event := by
  intro snapshot hsnap
  obtain ⟨hmem, hmarks⟩ := h snapshot hsnap
  exact ⟨hsub hmem, hmarks⟩

theorem SameFrame.keeps (h : SameFrame s t) : Keeps bars refed marks s t := by
  intro hs
  refine ⟨⟨?_, ?_, ?_, ?_⟩, .of_eq h.log⟩
  · rw [h.strategyState, h.strategy]
    exact hs.persisted
  · rw [h.strategy]
    exact hs.fed
  · rw [h.strategy]
    exact hs.refed
  · rw [h.lastProcessedBarTs]
    exact hs.marks

variable {strategy : Strategy σ P}

/-- Reactions other than to a bar keep the bars. -/
theorem Reaction.traced {s t : Traced σ} (h : Reaction strategy.traced s t) :
    t.fed = s.fed ∧ t.refed = s.refed := by
  cases h <;> exact ⟨rfl, rfl⟩

theorem Reactions.traced {s t : Traced σ} (h : Reactions strategy.traced s t) :
    t.fed = s.fed ∧ t.refed = s.refed := by
  induction h with
  | refl => exact ⟨rfl, rfl⟩
  | tail _ hstep ih =>
    obtain ⟨hfed, hrefed⟩ := hstep.traced
    exact ⟨hfed.trans ih.1, hrefed.trans ih.2⟩

variable {allowed : Allowed (Traced σ) (P × List BarEvent)}

/-- Moves keep the bars and the marks, where the strategy goes back to the bars only. -/
theorem Keeps.of_moves
    (hrevert : ∀ previousState, allowed.revert previousState → previousState.2 ∈ bars)
    (h : Moves strategy.traced allowed s t) : Keeps bars refed marks s t := by
  intro hs
  induction h with
  | refl => exact ⟨hs, .of_eq rfl⟩
  | @tail t u _ hmove ih =>
    obtain ⟨ht, hlog⟩ := ih
    cases hmove with
    | book view _ =>
      obtain ⟨hu, hlog'⟩ := view.frame.keeps ht
      exact ⟨hu, hlog.trans hlog'⟩
    | event event _ snap =>
      refine ⟨⟨ht.persisted, ht.fed, ht.refed, ht.marks⟩, hlog.trans (.push rfl ?_)⟩
      intro snapshot hsnap
      obtain ⟨tsUtc, rfl⟩ := snap snapshot hsnap
      exact ⟨ht.persisted ▸ ht.fed, ht.marks⟩
    | react s' records _ hreact =>
      obtain ⟨hfed, hrefed⟩ := hreact.traced
      refine ⟨⟨rfl, ?_, hrefed.trans ht.refed, ht.marks⟩, hlog⟩
      show s'.fed ∈ bars
      rw [hfed]
      exact ht.fed
    | revert previousState hprevious =>
      exact ⟨⟨rfl, hrevert previousState hprevious, ht.refed, ht.marks⟩, hlog⟩

/-! ### Between two bars -/

section Between

variable {env : Env σ P} {α : Type}

theorem keeps_of_makes
    (hrevert : ∀ previousState, allowed.revert previousState → previousState.2 ∈ bars)
    {m : RuntimeM (Traced σ) (P × List BarEvent) α} (h : Makes env.traced allowed m) :
    Within env.traced (Keeps bars refed marks) m :=
  h.mono fun _ _ hmoves => .of_moves hrevert hmoves

/-- Handlers keep the bars: a callback can only take the strategy back to where it was. -/
theorem keeps_observes : Observes env.traced (Keeps bars refed marks : TracedRuntime σ P → _ → Prop) where
  calling s t hmoves := by
    intro hs
    have hrevert : ∀ previousState : P × List BarEvent, previousState = s.state.strategyState →
        previousState.2 ∈ bars := by
      rintro _ rfl
      rw [hs.persisted]
      exact hs.fed
    exact Keeps.of_moves hrevert hmoves hs
  forward s t hmoves := by
    have hrevert : ∀ previousState : P × List BarEvent, False → previousState.2 ∈ bars :=
      fun _ hfalse => hfalse.elim
    exact Keeps.of_moves hrevert hmoves
  frame _ _ hframe := hframe.keeps

end Between

end StrategyRuntime

end AlorRs
