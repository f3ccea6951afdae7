import AlorRs.Lib.Reaction
import AlorRs.StrategyRuntime.LimitCancel

/-!
# Correctness of the limit-cancel strategy

However bars, acks and order events interleave, at most one cancel is sent, for the id that was told last
for the place request, and it is sent as soon as it is due and the id is known (`always_cleansUp`).  The
strategy stops without a cancel when it has waited for too many bars, an order event without a request id
counts as its own, and a cancel that is refused counts as done (`not_always_ownOrder`).
-/

namespace AlorRs.LimitCancel

open LimitCancelStrategy

/-- What reaches the strategy. -/
inductive LimitCancelEvent where
  | bar (ctx : StrategyCtx) (bar : BarEvent)
  | ack (ctx : StrategyCtx) (ack : CommandAck)
  | order (ctx : StrategyCtx) (event : OrderEvent)

namespace LimitCancelEvent

variable (s : LimitCancelStrategy)

def handle : LimitCancelEvent → LimitCancelStrategy × List Intent
  | .bar ctx event => s.onBar ctx event
  | .ack ctx event => s.onAck ctx event
  | .order ctx event => s.onOrder ctx event

def isNewBar : LimitCancelEvent → Bool
  | .bar ctx event => !isHeldBack ctx event && !s.isOld event
  | .ack _ _ | .order _ _ => false

/-- The order id that an event tells for a request; an order event may carry no request id. -/
def tells (unnamed : Bool) (request : Option Uuid) : LimitCancelEvent → Option ℤ
  | .bar _ _ => none
  | .ack _ event =>
    if request = some event.requestId && goesThrough event.status then event.brokerOrderId else none
  | .order _ event =>
    match event.requestId with
    | some requestId => if request = some requestId then some event.orderId else none
    | none => if unnamed && request.isSome then some event.orderId else none

def answers (request : Option Uuid) : LimitCancelEvent → Option AckStatus
  | .ack _ event => if request = some event.requestId then some event.status else none
  | .bar _ _ | .order _ _ => none

end LimitCancelEvent

def cancelOf : Intent → Option ℤ
  | .cancel orderId => some orderId
  | _ => none

def StrategyState.isDone : StrategyState → Bool
  | .done _ => true
  | .idle | .placed _ | .cancelSent _ _ _ => false

def StrategyState.placeRequest : StrategyState → Option Uuid
  | .placed order => some order.placeRequestId
  | .idle | .cancelSent _ _ _ | .done _ => none

def StrategyState.cancelRequest : StrategyState → Option Uuid
  | .cancelSent requestId _ _ => some requestId
  | .idle | .placed _ | .done _ => none

def LimitCancelStrategy.isPatienceOver (s : LimitCancelStrategy) : Bool :=
  match s.state with
  | .placed order => decide (s.config.maxWaitBarsForAck < waitedAfter order)
  | .idle | .cancelSent _ _ _ | .done _ => false

/-- A strategy with its requests, and what is known of them: the order id that was told last, by an event
with the request id (`assigned`) or without one too (`told`), whether a bar came since the order was
placed, whether it was refused or given up, the cancels, and the answers to them. -/
structure CancelRun where
  strategy : LimitCancelStrategy
  request : Option Uuid
  assigned : Option ℤ
  told : Option ℤ
  due : Bool
  refused : Bool
  gaveUp : Bool
  cancels : ℕ
  answered : Bool
  accepted : Bool

namespace CancelRun

variable (config : LimitCancelConfig)

def start : CancelRun where
  strategy := new config
  request := none
  assigned := none
  told := none
  due := false
  refused := false
  gaveUp := false
  cancels := 0
  answered := false
  accepted := false

def after' (r : CancelRun) (e : LimitCancelEvent) (s' : LimitCancelStrategy) (intents : List Intent) :
    CancelRun where
  strategy := s'
  request := r.request.or s'.state.placeRequest
  assigned := (e.tells false r.request).or r.assigned
  told := (e.tells true r.request).or r.told
  due := r.due || e.isNewBar r.strategy && r.request.isSome
  refused := r.refused || (e.answers r.request).any fun status => !goesThrough status
  gaveUp := r.gaveUp || e.isNewBar r.strategy && r.strategy.isPatienceOver
  cancels := r.cancels + (intents.filterMap cancelOf).length
  answered := r.answered || (e.answers r.strategy.state.cancelRequest).isSome
  accepted := r.accepted || (e.answers r.strategy.state.cancelRequest).any goesThrough

def step (r : CancelRun) (e : LimitCancelEvent) : CancelRun × List Intent :=
  let (s', intents) := e.handle r.strategy
  (r.after' e s' intents, intents)

def cancelled (r : CancelRun) (e : LimitCancelEvent) : List ℤ := (r.step e).2.filterMap cancelOf

/-- At most one cancel is sent, for the order id that was told last; it is sent as soon as it is due and
the id is known, unless the order was refused or given up; and otherwise it is answered in the end. -/
def CleansUp (r : CancelRun) (e : LimitCancelEvent) : Prop :=
  let r' := (r.step e).1
  r'.cancels ≤ 1 ∧ (∀ orderId ∈ r.cancelled e, r'.told = some orderId) ∧
    (r'.told.isSome = true → r'.due = true →
      r'.refused = true ∨ r'.gaveUp = true ∨ r'.cancels = 1) ∧
    (r'.strategy.state.isDone = true →
      r'.refused = true ∨ r'.gaveUp = true ∨ r'.cancels = 1 ∧ r'.answered = true)

/-- The same for the id that the broker assigned, with no patience to lose and a cancel that goes
through. -/
def CleansUpOwn (r : CancelRun) (e : LimitCancelEvent) : Prop :=
  let r' := (r.step e).1
  r'.cancels ≤ 1 ∧ (∀ orderId ∈ r.cancelled e, r'.assigned = some orderId) ∧
    (r'.assigned.isSome = true → r'.due = true → r'.refused = true ∨ r'.cancels = 1) ∧
    (r'.strategy.state.isDone = true → r'.refused = true ∨ r'.cancels = 1 ∧ r'.accepted = true)

instance (r : CancelRun) (e : LimitCancelEvent) : Decidable (CleansUpOwn r e) :=
  inferInstanceAs (Decidable (_ ∧ _ ∧ _ ∧ _))

/-! ### What a run keeps -/

def Known (r : CancelRun) : StrategyState → Prop
  | .idle => r.request = none ∧ r.told = none ∧ r.due = false ∧ r.cancels = 0
  | .placed order => r.request = some order.placeRequestId ∧ r.told = order.orderId ∧
      r.due = order.cancelDue ∧ (order.cancelDue = true → order.orderId = none) ∧ r.cancels = 0
  | .cancelSent _ _ _ => r.cancels = 1
  | .done _ => r.cancels ≤ 1 ∧
      (r.refused = true ∨ r.gaveUp = true ∨ r.cancels = 1 ∧ r.answered = true)

def Kept (r : CancelRun) : Prop := r.Known r.strategy.state

variable {r : CancelRun}

theorem kept_start : (start config).Kept := ⟨rfl, rfl, rfl, rfl⟩

/-- What is known says that the order is cleaned up. -/
theorem cleansUp_of_kept {e : LimitCancelEvent} (h : (r.step e).1.Kept)
    (htold : ∀ orderId ∈ r.cancelled e, (r.step e).1.told = some orderId) : CleansUp r e := by
  unfold Kept at h
  unfold CleansUp
  dsimp only
  cases hstate : (r.step e).1.strategy.state with
  | idle =>
    rw [hstate] at h
    obtain ⟨-, hnone, hdue, hcancels⟩ := h
    refine ⟨by omega, htold, fun hsome => ?_, nofun⟩
    rw [hnone] at hsome
    cases hsome
  | placed order =>
    rw [hstate] at h
    obtain ⟨-, hsame, hdue, hwaits, hcancels⟩ := h
    refine ⟨by omega, htold, fun hsome hdue' => ?_, nofun⟩
    rw [hsame, hwaits (hdue ▸ hdue')] at hsome
    cases hsome
  | cancelSent requestId orderId barTs =>
    rw [hstate] at h
    have hcancels : (r.step e).1.cancels = 1 := h
    exact ⟨by omega, htold, fun _ _ => .inr (.inr hcancels), nofun⟩
  | done barTs =>
    rw [hstate] at h
    obtain ⟨hle, hwhy⟩ := h
    exact ⟨hle, htold, fun _ _ => hwhy.imp_right (Or.imp_right And.left), fun _ => hwhy⟩

/-- A step keeps what is known, and a cancel is for the id that was told last. -/
def Steps (r : CancelRun) (e : LimitCancelEvent) : Prop :=
  (r.step e).1.Kept ∧ ∀ orderId ∈ r.cancelled e, (r.step e).1.told = some orderId

section Steps

variable {e : LimitCancelEvent} {s' : LimitCancelStrategy} {intents : List Intent}

theorem steps_of_handle (hhandle : e.handle r.strategy = (s', intents))
    (hkept : (r.after' e s' intents).Kept)
    (htold : ∀ orderId ∈ intents.filterMap cancelOf, (r.after' e s' intents).told = some orderId) :
    Steps r e := by
  have hstep : r.step e = (r.after' e s' intents, intents) := by
    unfold step
    rw [hhandle]
  unfold Steps cancelled
  rw [hstep]
  exact ⟨hkept, htold⟩

theorem steps_of_quiet (hhandle : e.handle r.strategy = (s', []))
    (hkept : (r.after' e s' []).Known s'.state) : Steps r e :=
  steps_of_handle hhandle hkept (List.forall_mem_nil _)

theorem steps_of_cancel {requestId : Uuid} {orderId barTs : ℤ}
    (hhandle : e.handle r.strategy = (s', [.cancel orderId]))
    (hstate : s'.state = .cancelSent requestId orderId barTs) (hnone : r.cancels = 0)
    (htold : (e.tells true r.request).or r.told = some orderId) : Steps r e := by
  refine steps_of_handle hhandle ?_ ?_
  · unfold Kept
    show (r.after' e s' [.cancel orderId]).Known s'.state
    rw [hstate]
    show r.cancels + 1 = 1
    rw [hnone]
  · intro other hmem
    rw [List.mem_singleton.mp hmem]
    exact htold

theorem known_after_done {barTs barTs' : ℤ} (h : r.Known (.done barTs)) :
    (r.after' e s' []).Known (.done barTs') := by
  obtain ⟨hle, hwhy⟩ := h
  refine ⟨hle, ?_⟩
  rcases hwhy with hrefused | hgaveUp | ⟨hone, hanswered⟩
  · exact .inl (Bool.or_eq_true_iff.mpr (.inl hrefused))
  · exact .inr (.inl (Bool.or_eq_true_iff.mpr (.inl hgaveUp)))
  · exact .inr (.inr ⟨hone, Bool.or_eq_true_iff.mpr (.inl hanswered)⟩)

theorem known_after_placed {order order' : Placed} (h : r.Known (.placed order))
    (hsame : order'.placeRequestId = order.placeRequestId)
    (htold : (e.tells true r.request).or order.orderId = order'.orderId)
    (hdue : (order.cancelDue || e.isNewBar r.strategy) = order'.cancelDue)
    (hwaits : order'.cancelDue = true → order'.orderId = none) :
    (r.after' e s' []).Known (.placed order') := by
  obtain ⟨hrequest, htold', hdue', -, hcancels⟩ := h
  refine ⟨?_, ?_, ?_, hwaits, hcancels⟩
  · simp [after', hrequest, hsame]
  · simp only [after', htold', htold]
  · simp only [after', hdue', hrequest, ← hdue, Option.isSome_some, Bool.and_true]

theorem known_after (h : r.Known s'.state) (hbar : e.isNewBar r.strategy = false)
    (htells : e.tells true r.request = none) : (r.after' e s' []).Known s'.state := by
  obtain ⟨config, state, last⟩ := s'
  cases state with
  | idle =>
    obtain ⟨hrequest, htold, hdue, hcancels⟩ := h
    refine ⟨?_, ?_, ?_, hcancels⟩
    · simp [after', hrequest, StrategyState.placeRequest]
    · simp only [after', htells, htold, Option.none_or]
    · simp only [after', hdue, hbar, Bool.false_and, Bool.or_false]
  | placed order =>
    refine known_after_placed h rfl ?_ ?_ h.2.2.2.1
    · rw [htells, Option.none_or]
    · rw [hbar, Bool.or_false]
  | cancelSent requestId orderId barTs => exact h
  | done barTs => exact known_after_done h

end Steps

/-! ### The callbacks -/

section Callbacks

variable {ctx : StrategyCtx} {bar : BarEvent}

theorem steps_placedBar {order : Placed} (hstate : r.strategy.state = .placed order)
    (h : r.Known (.placed order)) (hheld : isHeldBack ctx bar = false)
    (hold : r.strategy.isOld bar = false) : Steps r (.bar ctx bar) := by
  have hnew : (LimitCancelEvent.bar ctx bar).isNewBar r.strategy = true := by
    simp [LimitCancelEvent.isNewBar, hheld, hold]
  have hhandle : (LimitCancelEvent.bar ctx bar).handle r.strategy =
      ({ (r.strategy.onPlacedBar ctx bar order).1 with lastProcessedBarTs := some bar.closeTimeUtc },
        (r.strategy.onPlacedBar ctx bar order).2) := by
    show r.strategy.onBar ctx bar = _
    unfold onBar onNewBar
    rw [hheld, hold, hstate]
    rfl
  generalize hx : r.strategy.onPlacedBar ctx bar order = x at hhandle
  unfold onPlacedBar at hx
  dsimp only at hx
  split_ifs at hx with hpatience
  · subst hx
    refine steps_of_quiet hhandle ⟨h.2.2.2.2.trans_le zero_le_one, .inr (.inl ?_)⟩
    simp [after', hnew, isPatienceOver, hstate, hpatience]
  -- the cancel goes out once the broker's id is known
  · cases horder : order.orderId with
    | some orderId =>
      rw [horder] at hx
      subst hx
      refine steps_of_cancel hhandle rfl h.2.2.2.2 ?_
      rw [h.2.1, horder]
      rfl
    | none =>
      rw [horder] at hx
      subst hx
      refine steps_of_quiet hhandle (known_after_placed h rfl (horder.symm ▸ rfl) ?_ fun _ => rfl)
      rw [hnew]
      exact Bool.or_true _

variable (ctx : StrategyCtx)

theorem steps_bar (bar : BarEvent) (h : r.Kept) : Steps r (.bar ctx bar) := by
  unfold Kept at h
  have hhandle : (LimitCancelEvent.bar ctx bar).handle r.strategy = r.strategy.onBar ctx bar := rfl
  unfold onBar at hhandle
  split_ifs at hhandle with hheld hold
  · refine steps_of_quiet hhandle (known_after h ?_ rfl)
    simp [LimitCancelEvent.isNewBar, hheld]
  · refine steps_of_quiet hhandle (known_after h ?_ rfl)
    simp [LimitCancelEvent.isNewBar, hold]
  · rw [Bool.not_eq_true] at hheld hold
    cases hstate : r.strategy.state with
    | placed order =>
      rw [hstate] at h
      exact steps_placedBar hstate h hheld hold
    | idle =>
      rw [hstate] at h
      obtain ⟨hrequest, htold, hdue, hcancels⟩ := h
      unfold onNewBar at hhandle
      rw [hstate] at hhandle
      refine steps_of_handle hhandle ⟨?_, htold, ?_, Bool.noConfusion, hcancels⟩
        (List.forall_mem_nil _)
      · simp [after', hrequest, StrategyState.placeRequest]
      · simp [after', hdue, hrequest]
    | cancelSent requestId orderId barTs =>
      rw [hstate] at h
      unfold onNewBar at hhandle
      rw [hstate] at hhandle
      exact steps_of_quiet hhandle h
    | done barTs =>
      rw [hstate] at h
      unfold onNewBar at hhandle
      rw [hstate] at hhandle
      exact steps_of_quiet hhandle (known_after_done h)

theorem steps_ack (ack : CommandAck) (h : r.Kept) : Steps r (.ack ctx ack) := by
  obtain ⟨⟨config, state, last⟩, request, assigned, told, due, refused, gaveUp, cancels, answered,
    accepted⟩ := r
  have hhandle : (LimitCancelEvent.ack ctx ack).handle ⟨config, state, last⟩ =
    onAck ⟨config, state, last⟩ ctx ack := rfl
  unfold onAck at hhandle
  cases state with
  | idle =>
    refine steps_of_quiet hhandle (known_after h rfl ?_)
    obtain ⟨rfl, -⟩ := h
    rfl
  | placed order =>
    have hnone : cancels = 0 := h.2.2.2.2
    obtain rfl : request = some order.placeRequestId := h.1
    -- an ack of the placement tells the id of the order
    have htells (hsame : order.placeRequestId = ack.requestId) (hthrough : goesThrough ack.status = true) :
        (LimitCancelEvent.ack ctx ack).tells true (some order.placeRequestId) = ack.brokerOrderId := by
      simp [LimitCancelEvent.tells, hsame, hthrough]
    unfold onPlacedAck at hhandle
    dsimp only at hhandle
    split_ifs at hhandle with hother hthrough
    · refine steps_of_quiet hhandle (known_after h rfl ?_)
      simp [LimitCancelEvent.tells, hother]
    · have hown := not_not.mp hother
      cases hdue : order.cancelDue with
      | false =>
        rw [hdue] at hhandle
        refine steps_of_quiet hhandle (known_after_placed h rfl ?_ ?_ Bool.noConfusion)
        · rw [htells hown hthrough]
        · rw [hdue]
          rfl
      -- the cancel was due, and goes out with the id
      | true =>
        rw [hdue] at hhandle
        cases horder : ack.brokerOrderId.or order.orderId with
        | none =>
          rw [horder] at hhandle
          refine steps_of_quiet hhandle (known_after_placed h rfl ?_ ?_ fun _ => rfl)
          · rw [htells hown hthrough, horder]
          · rw [hdue]
            rfl
        | some orderId =>
          rw [horder] at hhandle
          refine steps_of_cancel hhandle rfl hnone ?_
          rw [htells hown hthrough, h.2.1, horder]
    -- the placement was refused
    · refine steps_of_quiet hhandle ⟨hnone.trans_le zero_le_one, .inl ?_⟩
      simp [after', LimitCancelEvent.answers, not_not.mp hother, hthrough]
  | cancelSent requestId orderId barTs =>
    dsimp only at hhandle
    have hone : cancels = 1 := h
    split_ifs at hhandle with hother
    · exact steps_of_quiet hhandle hone
    · refine steps_of_quiet hhandle ⟨hone.le, .inr (.inr ⟨hone, ?_⟩)⟩
      -- the cancel is answered
      simp [after', LimitCancelEvent.answers, StrategyState.cancelRequest, not_not.mp hother]
  | done barTs => exact steps_of_quiet hhandle (known_after_done h)

theorem tells_order {event : OrderEvent} {request : Uuid} :
    (LimitCancelEvent.order ctx event).tells true (some request) =
      if event.requestId.any fun requestId => requestId ≠ request then none else some event.orderId := by
  cases hid : event.requestId with
  | none => simp [LimitCancelEvent.tells, hid]
  | some requestId =>
    simp only [LimitCancelEvent.tells, hid, Option.any_some]
    by_cases hown : requestId = request
    · rw [if_pos (congrArg some hown.symm), if_neg (by simpa using hown)]
    · have hforeign : some request ≠ some requestId := fun heq => hown (Option.some.inj heq).symm
      rw [if_neg hforeign, if_pos (by simpa using hown)]

theorem steps_order (event : OrderEvent) (h : r.Kept) : Steps r (.order ctx event) := by
  obtain ⟨⟨config, state, last⟩, request, assigned, told, due, refused, gaveUp, cancels, answered,
    accepted⟩ := r
  have hhandle : (LimitCancelEvent.order ctx event).handle ⟨config, state, last⟩ =
    onOrder ⟨config, state, last⟩ ctx event := rfl
  unfold onOrder at hhandle
  cases state with
  | idle =>
    refine steps_of_quiet hhandle (known_after h rfl ?_)
    obtain ⟨rfl, -⟩ := h
    cases hid : event.requestId with
    | none | some => simp [LimitCancelEvent.tells, hid]
  | placed order =>
    obtain rfl : request = some order.placeRequestId := h.1
    unfold onPlacedOrder at hhandle
    dsimp only at hhandle
    split_ifs at hhandle with hforeign hdue
    · refine steps_of_quiet hhandle (known_after h rfl ?_)
      -- a foreign order tells nothing
      rw [tells_order, if_pos hforeign]
    · refine steps_of_cancel hhandle rfl h.2.2.2.2 ?_
      rw [tells_order, if_neg hforeign]
      rfl
    · rw [Bool.not_eq_true] at hdue
      refine steps_of_quiet hhandle (known_after_placed h rfl ?_ (Bool.or_false _) ?_)
      · rw [tells_order, if_neg hforeign]
        rfl
      · intro hdue'
        exact absurd (hdue.symm.trans hdue') Bool.false_ne_true
  | cancelSent requestId orderId barTs => exact steps_of_quiet hhandle h
  | done barTs => exact steps_of_quiet hhandle (known_after_done h)

end Callbacks

end CancelRun

open CancelRun

/-- However the events interleave, the order is cleaned up. -/
theorem always_cleansUp (config : LimitCancelConfig) (events : List LimitCancelEvent) :
    Reaction.Always CancelRun.step CleansUp (.start config) events := by
  refine Reaction.Always.of_invariant (I := Kept) (C := fun _ _ => True) ?_ (kept_start config)
    (Reaction.Always.of_forall fun _ _ => trivial)
  intro r e hkept _
  have hsteps : Steps r e := by
    cases e with
    | bar ctx bar => exact steps_bar ctx bar hkept
    | ack ctx ack => exact steps_ack ctx ack hkept
    | order ctx event => exact steps_order ctx event hkept
  exact ⟨cleansUp_of_kept hsteps.1 hsteps.2, hsteps.1⟩

/-! ### Orders that are not cleaned up -/

def sampleConfig (maxWaitBarsForAck : ℕ) : LimitCancelConfig := ⟨"IMOEXF", 1, 2, 1, .buy, maxWaitBarsForAck⟩

def sampleCtx : StrategyCtx :=
  ⟨"limit_cancel", "D1", "MOEX", "IMOEXF", 1, .live, .liveOnly, true, .liveReady, none, 0, 0, none⟩

def barAt (ts : ℤ) : LimitCancelEvent := .bar sampleCtx ⟨"IMOEXF", ts, 100, 100, 100, 100, 1, .live⟩

def placeRequestAt (ts : ℤ) : Uuid := deterministicRequestId "limit_cancel" "D1" "IMOEXF" "place" ts 0

def ackOf (requestId : Uuid) (status : AckStatus) (orderId : Option ℤ) : LimitCancelEvent :=
  .ack sampleCtx ⟨requestId, status, orderId, none, none, none, none, none, none, 0⟩

def orderOf (orderId : ℤ) (requestId : Option Uuid) : LimitCancelEvent :=
  .order sampleCtx ⟨orderId, requestId, "IMOEXF", "working", "buy", "limit", 1, 0, 98, false, none, 0⟩

/-- An order event without a request id redirects the cancel; a strategy that waited for too many bars is
done without one, whatever it is told later; and a cancel that is refused is done. -/
theorem not_always_ownOrder :
    ¬ Reaction.Always CancelRun.step CleansUpOwn (.start (sampleConfig 3))
      [barAt 60, ackOf (placeRequestAt 60) .accepted (some 5), orderOf 7 none, barAt 120] ∧
    ¬ Reaction.Always CancelRun.step CleansUpOwn (.start (sampleConfig 0))
      [barAt 60, barAt 120, ackOf (placeRequestAt 60) .accepted (some 5)] ∧
    ¬ Reaction.Always CancelRun.step CleansUpOwn (.start (sampleConfig 3))
      [barAt 60, orderOf 5 (some (placeRequestAt 60)), barAt 120,
        ackOf (deterministicRequestId "limit_cancel" "D1" "IMOEXF" "cancel" 120 1) .rejected none] := by
  decide +kernel

end AlorRs.LimitCancel
