import AlorRs.StrategyRuntime.Runtime.Basic
import Mathlib.Logic.Relation

/-!
# What the runtime does between two events

Whatever the runtime computes, it does by moves: it writes to the log, lets the strategy react,
takes the strategy back to an earlier state, or keeps books that the strategy does not see.
`Moves` is a run of the moves that an `Allowed` permits.
-/

namespace AlorRs

open Eff

def HostEvent.Handling {P : Type} : HostEvent P → Prop
  | .dispatched _ _ => False
  | .deadLetter _ _ _ => False
  | _ => True

def HostEvent.Calling {P : Type} : HostEvent P → Prop
  | .acked _ _ => False
  | event => event.Handling

theorem HostEvent.Calling.handling {P : Type} {event : HostEvent P} (h : event.Calling) :
    event.Handling := by
  cases event <;> first | exact h | exact h.elim

namespace StrategyRuntime

open RuntimeM

variable {σ P : Type}

/-! ### Reactions of the strategy -/

/-- A callback other than `onBar`, the warm-up and `setState`. -/
inductive Reaction (strategy : Strategy σ P) : σ → σ → Prop
  | ack (s : σ) (ctx : StrategyCtx) (ack : CommandAck) :
    Reaction strategy s (strategy.onAck s ctx ack).1
  | order (s : σ) (ctx : StrategyCtx) (order : OrderEvent) :
    Reaction strategy s (strategy.onOrder s ctx order).1
  | stopOrder (s : σ) (ctx : StrategyCtx) (order : StopOrderEvent) :
    Reaction strategy s (strategy.onStopOrder s ctx order).1
  | position (s : σ) (ctx : StrategyCtx) (position : PositionEvent) :
    Reaction strategy s (strategy.onPosition s ctx position).1
  | timer (s : σ) (ctx : StrategyCtx) (nowTsUtc : ℤ) :
    Reaction strategy s (strategy.onTimer s ctx nowTsUtc).1
  | prepared (s : σ) (ctx : StrategyCtx) (event : CommandPrepared) :
    Reaction strategy s (strategy.onCommandPrepared s ctx event)
  | blocked (s : σ) (ctx : StrategyCtx) (event : IntentBlocked) :
    Reaction strategy s (strategy.onIntentBlocked s ctx event).1
  | bootstrap (s : σ) (ctx : StrategyCtx) (snapshot : BootstrapSnapshot) :
    Reaction strategy s (strategy.onBootstrapSnapshot s ctx snapshot).1
  | restored (s : σ) (ctx : StrategyCtx) (event : RuntimeStateRestored) :
    Reaction strategy s (strategy.onRuntimeStateRestored s ctx event).1
  | riskGateState (s : σ) (state : RiskGateRuntimeState) :
    Reaction strategy s (strategy.onRiskGateState s state)
  | acknowledge (s : σ) (dates : List NaiveDate) :
    Reaction strategy s (strategy.acknowledgeRiskGateSessionFinalizations s dates)
  | drain (s : σ) : Reaction strategy s (strategy.drainObservationJournalRecords s).1

abbrev Reactions (strategy : Strategy σ P) : σ → σ → Prop :=
  Relation.ReflTransGen (Reaction strategy)

/-! ### Moves -/

/-- Two states that the strategy, the snapshots and the log do not tell apart. -/
structure SameView (s t : StrategyRuntime σ P) : Prop where
  strategy : t.strategy = s.strategy
  strategyState : t.state.strategyState = s.state.strategyState
  lastProcessedBarTs : t.state.lastProcessedBarTs = s.state.lastProcessedBarTs
  lastTradeTs : t.state.lastTradeTs = s.state.lastTradeTs
  lastTradeId : t.state.lastTradeId = s.state.lastTradeId
  seenTradeIds : t.state.seenTradeIds = s.state.seenTradeIds
  log : t.log = s.log

/-- What a computation may do: the changes of the books, the events, whether the strategy may
react, and the states that it may go back to. -/
structure Allowed (σ P : Type) where
  book : StrategyRuntime σ P → StrategyRuntime σ P → Prop
  event : HostEvent P → Prop
  react : Prop
  revert : P → Prop

/-- One thing that the runtime does. -/
inductive Move (strategy : Strategy σ P) (allowed : Allowed σ P) :
    StrategyRuntime σ P → StrategyRuntime σ P → Prop
  | book {s t : StrategyRuntime σ P} (view : SameView s t) (h : allowed.book s t) :
    Move strategy allowed s t
  | event (s : StrategyRuntime σ P) (event : HostEvent P) (h : allowed.event event)
      (snap : ∀ snapshot, event.snapshot? = some snapshot → ∃ tsUtc, snapshot = s.snapshot tsUtc) :
    Move strategy allowed s { s with log := s.log ++ [event] }
  | react (s : StrategyRuntime σ P) (s' : σ) (records : List String) (hreact : allowed.react)
      (h : Reactions strategy s.strategy s') :
    Move strategy allowed s
      { s with
        strategy := s'
        pendingStrategyJournalRecords := records
        state := { s.state with strategyState := strategy.state s' } }
  | revert (s : StrategyRuntime σ P) (previousState : P) (h : allowed.revert previousState) :
    Move strategy allowed s
      { s with
        strategy := strategy.setState s.strategy previousState
        state := { s.state with strategyState := previousState } }

abbrev Moves (strategy : Strategy σ P) (allowed : Allowed σ P) :
    StrategyRuntime σ P → StrategyRuntime σ P → Prop :=
  Relation.ReflTransGen (Move strategy allowed)

structure Allowed.Le (a b : Allowed σ P) : Prop where
  book : ∀ s t, a.book s t → b.book s t
  event : ∀ event, a.event event → b.event event
  react : a.react → b.react
  revert : ∀ previousState, a.revert previousState → b.revert previousState

variable {strategy : Strategy σ P} {allowed : Allowed σ P} {s t : StrategyRuntime σ P}

theorem Move.mono {b : Allowed σ P} (hle : allowed.Le b) (h : Move strategy allowed s t) :
    Move strategy b s t := by
  cases h with
  | book view h => exact .book view (hle.book _ _ h)
  | event event h snap => exact .event _ event (hle.event _ h) snap
  | react s' records hreact h => exact .react _ s' records (hle.react hreact) h
  | revert previousState h => exact .revert _ previousState (hle.revert _ h)

theorem Moves.mono {b : Allowed σ P} (hle : allowed.Le b) (h : Moves strategy allowed s t) :
    Moves strategy b s t :=
  Relation.ReflTransGen.mono (fun _ _ => Move.mono hle) _ _ h

theorem Moves.keeps {I : StrategyRuntime σ P → Prop}
    (hstep : ∀ s t, Move strategy allowed s t → I s → I t) (h : Moves strategy allowed s t)
    (hs : I s) : I t := by
  induction h with
  | refl => exact hs
  | tail _ hmove ih => exact hstep _ _ hmove ih

theorem Moves.extends (h : Moves strategy allowed s t) : Extends log allowed.event s t := by
  induction h with
  | refl => exact .of_eq rfl
  | tail _ hmove ih =>
    refine ih.trans ?_
    cases hmove with
    | book view _ => exact .of_eq view.log
    | event event h _ => exact .push rfl h
    | react | revert => exact .of_eq rfl

theorem Moves.strategy_eq (hreact : ¬ allowed.react)
    (hrevert : ∀ previousState, ¬ allowed.revert previousState) (h : Moves strategy allowed s t) :
    t.strategy = s.strategy ∧ t.state.strategyState = s.state.strategyState := by
  induction h with
  | refl => exact ⟨rfl, rfl⟩
  | tail _ hmove ih =>
    cases hmove with
    | book view _ => exact ⟨view.strategy.trans ih.1, view.strategyState.trans ih.2⟩
    | event _ _ _ => exact ih
    | react _ _ h _ => exact absurd h hreact
    | revert _ h => exact absurd h (hrevert _)

/-! ### Primitive computations -/

abbrev Makes (env : Env σ P) (allowed : Allowed σ P) {α : Type} (m : RuntimeM σ P α) : Prop :=
  Within env (Moves env.strategy allowed) m

section Primitives

variable {env : Env σ P} {α : Type}

theorem makes_book {f : StrategyRuntime σ P → StrategyRuntime σ P} (hview : ∀ s, SameView s (f s))
    (hbook : ∀ s, allowed.book s (f s)) : Makes env allowed (modify f) :=
  within_modify fun s => .single (.book (hview s) (hbook s))

theorem makes_record {event : HostEvent P} (h : allowed.event event) (hsnap : event.snapshot? = none) :
    Makes env allowed (record event) :=
  within_modify fun s => .single <| .event s event h fun snapshot hs => by
    rw [hsnap] at hs
    cases hs

def Allowed.Asks (allowed : Allowed σ P) : Prop :=
  ∀ s : StrategyRuntime σ P, allowed.book s { s with tick := s.tick + 1 }

section Ask

variable {s : StrategyRuntime σ P} {R : RuntimeError → StrategyRuntime σ P → Prop}

@[simp] theorem wp_ask {answer : Env σ P → ℕ → α} {Q : α → StrategyRuntime σ P → Prop} :
    wp (ask answer) env s Q R ↔ Q (answer env s.tick) { s with tick := s.tick + 1 } := Iff.rfl

@[simp] theorem wp_now {Q : ℤ → StrategyRuntime σ P → Prop} :
    wp now env s Q R ↔ Q (env.nowMs s.tick / 1000) { s with tick := s.tick + 1 } := Iff.rfl

@[simp] theorem wp_record {event : HostEvent P} {Q : Unit → StrategyRuntime σ P → Prop} :
    wp (record event) env s Q R ↔ Q () { s with log := s.log ++ [event] } := Iff.rfl

theorem Allowed.Asks.moves (hask : allowed.Asks) :
    Moves strategy allowed s { s with tick := s.tick + 1 } :=
  .single (.book ⟨rfl, rfl, rfl, rfl, rfl, rfl, rfl⟩ (hask s))

end Ask

theorem makes_ask (hask : allowed.Asks) (answer : Env σ P → ℕ → α) :
    Makes env allowed (ask answer) := fun _ => hask.moves

theorem makes_nowMs (hask : allowed.Asks) : Makes env allowed (nowMs : RuntimeM σ P ℤ) :=
  makes_ask hask _

theorem makes_now (hask : allowed.Asks) : Makes env allowed (now : RuntimeM σ P ℤ) :=
  within_bind (makes_nowMs hask) fun _ => within_pure _

theorem makes_readFrom (hask : allowed.Asks) (answer : Env σ P → ℕ → α) :
    Makes env allowed (readFrom answer) := by
  refine within_bind (makes_ask hask _) fun a => ?_
  rcases a with ⟨_ | _ | _, a⟩
  · exact within_pure a
  all_goals exact within_fail _

theorem wp_write (hask : allowed.Asks) {event : HostEvent P} (h : allowed.event event)
    (hsnap : ∀ snapshot, event.snapshot? = some snapshot → ∃ tsUtc, snapshot = s.snapshot tsUtc) :
    wp (write event) env s (fun _ t => Moves env.strategy allowed s t ∧ t.log = s.log ++ [event])
      fun _ t => Moves env.strategy allowed s t := by
  have hmove : Move env.strategy allowed { s with tick := s.tick + 1 }
      { s with tick := s.tick + 1, log := s.log ++ [event] } :=
    .event _ event h fun snapshot hs => hsnap snapshot hs
  simp only [write, wp_bind, wp_ask]
  cases env.delivery s.tick with
  | done => exact ⟨hask.moves.tail hmove, rfl⟩
  | refused => exact hask.moves
  | lost => exact hask.moves.tail hmove

theorem makes_write (hask : allowed.Asks) {event : HostEvent P} (h : allowed.event event)
    (hsnap : event.snapshot? = none) : Makes env allowed (write event) := by
  intro s
  refine wp_mono (wp_write hask h fun snapshot hs => ?_) (fun _ _ hm => hm.1) (fun _ _ hm => hm)
  rw [hsnap] at hs
  cases hs

variable (command : Option OrderCommand) (snapshot : RuntimeStateSnapshot P)

/-- What `persist_state` writes for an optional command. -/
def persistEvent : HostEvent P :=
  match command with
  | some command => .published command snapshot
  | none => .persisted snapshot

theorem persistEvent_snapshot? : (persistEvent command snapshot).snapshot? = some snapshot := by
  cases command <;> rfl

variable {command : Option OrderCommand}

theorem wp_persistState (hask : allowed.Asks)
    (h : ∀ snapshot, allowed.event (persistEvent command snapshot)) (s : StrategyRuntime σ P) :
    wp (persistState command) env s
      (fun _ t => Moves env.strategy allowed s t ∧
        ∃ tsUtc, t.log = s.log ++ [persistEvent command (s.snapshot tsUtc)])
      fun _ t => Moves env.strategy allowed s t := by
  have hwrite : ∀ tsUtc, wp (write (persistEvent command (s.snapshot tsUtc))) env
      { s with tick := s.tick + 1 }
      (fun _ t => Moves env.strategy allowed { s with tick := s.tick + 1 } t ∧
        t.log = s.log ++ [persistEvent command (s.snapshot tsUtc)])
      fun _ t => Moves env.strategy allowed { s with tick := s.tick + 1 } t := by
    intro tsUtc
    refine wp_write hask (h _) fun snapshot hs => ⟨tsUtc, ?_⟩
    rw [persistEvent_snapshot?] at hs
    exact (Option.some.inj hs).symm
  simp only [persistState, wp_bind, wp_now, wp_get]
  cases command with
  | none | some =>
    exact wp_mono (hwrite _) (fun _ _ hm => ⟨hask.moves.trans hm.1, _, hm.2⟩)
      fun _ _ hm => hask.moves.trans hm

theorem makes_persistState (hask : allowed.Asks)
    (h : ∀ snapshot, allowed.event (persistEvent command snapshot)) :
    Makes env allowed (persistState command) :=
  fun s => wp_mono (wp_persistState hask h s) (fun _ _ hm => hm.1) fun _ _ hm => hm

theorem makes_xack (hask : allowed.Asks)
    (h : ∀ stream messageId, allowed.event (.acked stream messageId)) (stream messageId : String) :
    Makes env allowed (xack stream messageId) := makes_write hask (h stream messageId) rfl

end Primitives

end StrategyRuntime

end AlorRs
