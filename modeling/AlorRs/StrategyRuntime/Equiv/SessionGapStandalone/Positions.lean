import AlorRs.Lib.Reaction
import AlorRs.StrategyRuntime.Equiv.SessionGapStandalone.Phases

/-!
# The session-gap strategy follows the position

Beside the strategy runs a record of the quantity that was last seen and of how the position that
the strategy manages was opened (`Watched`).  A phase that looks at positions manages one exactly
when the quantity differs from its baseline, with the side and the quantity of the opening, and its
exits are on the other side (`always_followsPosition`).
-/

namespace AlorRs.SessionGap

open SessionGapStandaloneStrategy

/-! ### What a phase compares a position with -/

/-- The quantity that a phase takes for no position of its own; the phases that wait outside the
trading window for an entry, and the blocked ones, do not look at positions. -/
def SessionGapLivePhase.cycleBaseline? : SessionGapLivePhase → Option ℚ
  | .flat => some 0
  | .pendingEntry phase => some phase.baselineQty
  | .entryRecoveryVerificationPending phase => some phase.baselineQty
  | .inPosition phase => some phase.baselineQty
  | .pendingExit phase => some phase.baselineQty
  | .exitDeferredWindowClosed phase => some phase.baselineQty
  | .exitRecoveryPending phase => some phase.baselineQty
  | .closeOnlyDegraded phase => some phase.baselineQty
  | .entryDeferredWindowClosed _ | .blocked _ _ => none

/-- How the managed position was opened. -/
inductive Opening where
  /-- A position of this quantity was seen. -/
  | observed (qty : ℚ)
  /-- A position was seen, and the side and the quantity are those of the entry. -/
  | ordered (side : Side) (qty : ℚ)
  /-- An order event told of a fill of the entry, and no position has been seen since. -/
  | reported (side : Side) (qty : ℚ)
  /-- A bar found a quantity that an entry of `orderedQty` accounts for. -/
  | verified (qty orderedQty : ℚ)

variable {qty : Option ℚ}

namespace Opening

variable (opening : Opening)

def exposure (baselineQty : ℚ) : SessionGapLivePhase.Exposure :=
  match opening with
  | .observed qty => ⟨sideOfDelta (qty - baselineQty), |qty - baselineQty|, baselineQty⟩
  | .ordered side qty => ⟨side, qty, baselineQty⟩
  | .reported side qty => ⟨side, qty, baselineQty⟩
  | .verified qty orderedQty =>
    ⟨sideOfDelta (qty - baselineQty), max |qty - baselineQty| orderedQty, baselineQty⟩

def isSeen : Opening → Bool
  | .reported _ _ => false
  | _ => true

def seen : Opening → Opening
  | .reported side qty => .ordered side qty
  | opening => opening

@[simp] theorem exposure_seen (opening : Opening) (baselineQty : ℚ) :
    opening.seen.exposure baselineQty = opening.exposure baselineQty := by
  cases opening <;> rfl

@[simp] theorem exposure_baselineQty (opening : Opening) (baselineQty : ℚ) :
    (opening.exposure baselineQty).baselineQty = baselineQty := by
  cases opening <;> rfl

def atBar (qty : Option ℚ) :
    SessionGapLivePhase → SessionGapLivePhase → Opening
  | .entryRecoveryVerificationPending phase, .inPosition _ =>
    .verified (qty.getD phase.baselineQty) phase.qty
  | .exitDeferredWindowClosed phase, .pendingExit _ => .observed (qty.getD phase.baselineQty)
  | _, _ => opening

@[simp] theorem atBar_self (opening : Opening) (qty : Option ℚ) (phase : SessionGapLivePhase) :
    opening.atBar qty phase phase = opening := by
  cases phase <;> rfl

theorem atBar_of_exposure?_eq {opening : Opening} {phase phase' : SessionGapLivePhase}
    (h : phase'.exposure? = phase.exposure?) (hrequest : phase'.requestId? = none) :
    opening.atBar qty phase phase' = opening := by
  cases phase with
  | entryRecoveryVerificationPending =>
    cases phase' with
    | inPosition => cases h
    | _ => rfl
  | exitDeferredWindowClosed =>
    cases phase' with
    | pendingExit => cases hrequest
    | _ => rfl
  | _ => rfl

def atOrder : SessionGapLivePhase → SessionGapLivePhase → Opening
  | .entryRecoveryVerificationPending phase, .inPosition _ => .reported phase.side phase.qty
  | _, _ => opening

def atPosition (qty : ℚ) (phase phase' : SessionGapLivePhase) : Opening :=
  if phase.exposure?.isNone && phase'.exposure?.isSome then .observed qty else opening.seen

def atSnapshot : SessionGapLivePhase → SessionGapLivePhase → Opening
  | .pendingEntry phase, .inPosition _ => .ordered phase.side phase.qty
  | .entryRecoveryVerificationPending phase, .inPosition _ => .ordered phase.side phase.qty
  | _, _ => opening.seen

end Opening

/-! ### The watched strategy -/

/-- What reaches the strategy of a live runtime. -/
inductive LiveEvent where
  | bar (ctx : StrategyCtx) (bar : BarEvent)
  | ack (ctx : StrategyCtx) (ack : CommandAck)
  | order (ctx : StrategyCtx) (order : OrderEvent)
  | position (ctx : StrategyCtx) (position : PositionEvent)
  | snapshot (ctx : StrategyCtx) (snapshot : BootstrapSnapshot)

/-- The strategy, the quantity of its symbol that was last seen, and the opening of the position
that it manages. -/
structure Watched where
  strategy : SessionGapStandaloneStrategy
  qty : Option ℚ
  opening : Opening

def snapshotQty (snapshot : BootstrapSnapshot) (symbol : String) : Option ℚ :=
  (snapshot.positionsStrategy.lookup symbol).map PositionEvent.qty

namespace Watched

variable (w : Watched)

def phase : SessionGapLivePhase := w.strategy.persistedPhaseOrFlat

def watch : LiveEvent → Watched × List Intent
  | .bar ctx bar =>
    let (s, intents) := w.strategy.onBar ctx bar
    (⟨s, w.qty, w.opening.atBar w.qty w.phase s.persistedPhaseOrFlat⟩, intents)
  | .ack ctx ack =>
    let (s, intents) := w.strategy.onAck ctx ack
    (⟨s, w.qty, w.opening⟩, intents)
  | .order ctx order =>
    let (s, intents) := w.strategy.onOrder ctx order
    (⟨s, w.qty, w.opening.atOrder w.phase s.persistedPhaseOrFlat⟩, intents)
  | .position ctx position =>
    let (s, intents) := w.strategy.onPosition ctx position
    if position.symbol ≠ w.strategy.config.symbol then (⟨s, w.qty, w.opening⟩, intents)
    else
      (⟨s, some position.qty,
        w.opening.atPosition position.qty w.phase s.persistedPhaseOrFlat⟩, intents)
  | .snapshot ctx snapshot =>
    let (s, intents) := w.strategy.onBootstrapSnapshot ctx snapshot
    (⟨s, snapshotQty snapshot w.strategy.config.symbol,
      w.opening.atSnapshot w.phase s.persistedPhaseOrFlat⟩, intents)

/-- The bars are those of live mode, and are given the quantity that was last seen. -/
def IsLive : LiveEvent → Prop
  | .bar ctx _ => ctx.tradeMode = .live ∧ ctx.positionQty = w.qty
  | _ => True

end Watched

/-! ### The exposure and its opening -/

/-- What is managed was opened as noted, and once a position was seen it is not at the baseline. -/
structure Tracks (phase : SessionGapLivePhase) (qty : Option ℚ) (opening : Opening) : Prop where
  stored : ∀ x, phase.exposure? = some x → x = opening.exposure x.baselineQty
  isOpen : ∀ x, phase.exposure? = some x → opening.isSeen = true →
    epsilon < |qty.getD 0 - x.baselineQty|

namespace Tracks

variable {phase phase' : SessionGapLivePhase} {qty : Option ℚ} {opening : Opening}

theorem of_none (h : phase.exposure? = none) : Tracks phase qty opening where
  stored x hx := by rw [h] at hx; cases hx
  isOpen x hx := by rw [h] at hx; cases hx

theorem of_exposure?_eq (ht : Tracks phase qty opening)
    (h : phase'.exposure? = phase.exposure?) : Tracks phase' qty opening where
  stored x hx := ht.stored x (h ▸ hx)
  isOpen x hx := ht.isOpen x (h ▸ hx)

theorem of_opened (baselineQty : ℚ)
    (h : phase.exposure? = some (opening.exposure baselineQty))
    (hopen : opening.isSeen = true → epsilon < |qty.getD 0 - baselineQty|) :
    Tracks phase qty opening where
  stored x hx := by
    rw [h, Option.some.injEq] at hx
    rw [← hx, Opening.exposure_baselineQty]
  isOpen x hx hseen := by
    rw [h, Option.some.injEq] at hx
    rw [← hx, Opening.exposure_baselineQty]
    exact hopen hseen

theorem see {q : Option ℚ} (ht : Tracks phase qty opening)
    (h : ∀ x, phase.exposure? = some x → epsilon < |q.getD 0 - x.baselineQty|) :
    Tracks phase q opening.seen where
  stored x hx := by
    rw [Opening.exposure_seen]
    exact ht.stored x hx
  isOpen x hx _ := h x hx

end Tracks

theorem epsilon_pos : 0 < epsilon := by
  unfold epsilon
  positivity

theorem getD_of_open {baselineQty : ℚ} (h : epsilon < |qty.getD baselineQty - baselineQty|) :
    qty.getD baselineQty = qty.getD 0 := by
  cases qty with
  | none =>
    rw [Option.getD_none, sub_self, abs_zero] at h
    exact absurd h (not_lt.mpr epsilon_pos.le)
  | some q => rfl

variable {intents : List Intent}

theorem Tracks.bar {ctx : StrategyCtx} {bar : BarEvent} {phase phase' : SessionGapLivePhase}
    {opening : Opening} (ht : Tracks phase ctx.positionQty opening)
    (hmove : BarMove ctx bar phase phase' intents) :
    Tracks phase' ctx.positionQty (opening.atBar ctx.positionQty phase phase') := by
  cases hmove with
  | stay =>
    rw [Opening.atBar_self]
    exact ht
  | settle h h' => exact .of_none h'
  | entry => exact .of_none rfl
  | @verified recovery _ _ hdelta hopen hside hqty hbaseline =>
    rw [hdelta] at hopen
    refine .of_opened recovery.baselineQty ?_ fun _ => ?_
    · simp only [SessionGapLivePhase.exposure?, Opening.atBar, Opening.exposure]
      rw [hside, hqty, hbaseline, hdelta]
    · rw [← getD_of_open hopen]
      exact hopen
  | exit hrequest hside hqty hbaseline =>
    refine ht.of_exposure?_eq ?_
    simp only [SessionGapLivePhase.exposure?, hside, hqty, hbaseline, oppositeSide_oppositeSide]
  | @reissue deferred _ _ _ hdelta hopen hrequest hside hqty hbaseline =>
    rw [hdelta] at hopen
    refine .of_opened deferred.baselineQty ?_ fun _ => ?_
    · simp only [SessionGapLivePhase.exposure?, Opening.atBar, Opening.exposure]
      rw [hside, hqty, hbaseline, hdelta, oppositeSide_oppositeSide]
    · rw [← getD_of_open hopen]
      exact hopen
  | closed => exact .of_none rfl
  | degrade h hrequest =>
    rw [Opening.atBar_of_exposure?_eq h hrequest]
    exact ht.of_exposure?_eq h

theorem Tracks.order {phase : SessionGapLivePhase} {opening : Opening}
    (ht : Tracks phase qty opening) (order : OrderEvent) :
    Tracks (orderPhase phase order) qty (opening.atOrder phase (orderPhase phase order)) := by
  cases phase with
  | entryRecoveryVerificationPending recovery =>
    simp only [orderPhase]
    split
    · split
      · refine .of_opened recovery.baselineQty rfl fun hseen => ?_
        cases hseen
      · split
        all_goals exact .of_none rfl
    · exact .of_none rfl
  | _ => exact ht

/-! ### Position events -/

section PositionEvents

variable {phase : SessionGapLivePhase} {position : PositionEvent} {nowTs : ℤ} {baselineQty : ℚ}
  {x : SessionGapLivePhase.Exposure}

theorem cycleBaseline?_of_exposure? (h : phase.exposure? = some x) :
    phase.cycleBaseline? = some x.baselineQty := by
  cases phase <;> cases h <;> rfl

theorem positionPhase_of_none (h : phase.cycleBaseline? = none) :
    positionPhase phase position nowTs = phase := by
  cases phase with
  | entryDeferredWindowClosed => rfl
  | blocked => rfl
  | _ => cases h

theorem exposure?_positionPhase_of_closed (hb : phase.cycleBaseline? = some baselineQty)
    (h : |position.qty - baselineQty| ≤ epsilon) :
    (positionPhase phase position nowTs).exposure? = none := by
  cases phase with
  | flat =>
    cases hb
    rw [sub_zero] at h
    simp only [positionPhase, if_neg (not_lt.mpr h)]
    rfl
  | pendingEntry | entryRecoveryVerificationPending =>
    cases hb
    simp only [positionPhase, if_neg (not_lt.mpr h)]
    rfl
  | entryDeferredWindowClosed | blocked => cases hb
  | _ =>
    cases hb
    simp only [positionPhase, if_pos h]
    rfl

/-- What is managed stays so while it is not at the baseline. -/
theorem positionPhase_of_exposure? (hx : phase.exposure? = some x)
    (h : epsilon < |position.qty - x.baselineQty|) : positionPhase phase position nowTs = phase := by
  cases phase with
  | inPosition | pendingExit | exitDeferredWindowClosed | exitRecoveryPending
  | closeOnlyDegraded =>
    cases hx
    simp only [positionPhase, if_neg (not_le.mpr h)]
  | _ => cases hx

theorem positionPhase_opens (nowTs : ℤ) (hb : phase.cycleBaseline? = some baselineQty)
    (hphase : phase.exposure? = none) (h : epsilon < |position.qty - baselineQty|) :
    ∃ inPosition : InPositionPhase, positionPhase phase position nowTs = .inPosition inPosition ∧
      inPosition.side = sideOfDelta (position.qty - baselineQty) ∧
      inPosition.qty = |position.qty - baselineQty| ∧ inPosition.baselineQty = baselineQty := by
  cases phase with
  | flat =>
    cases hb
    rw [sub_zero] at h ⊢
    exact ⟨_, if_pos h, rfl, rfl, rfl⟩
  | pendingEntry | entryRecoveryVerificationPending =>
    cases hb
    exact ⟨_, if_pos h, rfl, rfl, rfl⟩
  | entryDeferredWindowClosed | blocked => cases hb
  | _ => cases hphase

theorem Tracks.positionEvent {opening : Opening} (ht : Tracks phase qty opening)
    (position : PositionEvent) (nowTs : ℤ) :
    Tracks (positionPhase phase position nowTs) (some position.qty)
      (opening.atPosition position.qty phase (positionPhase phase position nowTs)) := by
  cases hx : phase.exposure? with
  | none =>
    cases hb : phase.cycleBaseline? with
    | none =>
      rw [positionPhase_of_none hb]
      exact .of_none hx
    | some baselineQty =>
      by_cases hopen : epsilon < |position.qty - baselineQty|
      · obtain ⟨inPosition, hphase, hside, hqty, hbaseline⟩ :=
          positionPhase_opens nowTs hb hx hopen
        have hexposure : (positionPhase phase position nowTs).exposure? =
            some ((Opening.observed position.qty).exposure baselineQty) := by
          rw [hphase, SessionGapLivePhase.exposure?, hside, hqty, hbaseline]
          rfl
        have hopening : opening.atPosition position.qty phase (positionPhase phase position nowTs) =
            .observed position.qty := by
          simp only [Opening.atPosition, hx, hexposure, Option.isNone_none, Option.isSome_some,
            Bool.and_self, if_true]
        rw [hopening]
        exact .of_opened baselineQty hexposure fun _ => hopen
      · exact .of_none (exposure?_positionPhase_of_closed hb (not_lt.mp hopen))
  | some x =>
    by_cases hopen : epsilon < |position.qty - x.baselineQty|
    · have hopening : opening.atPosition position.qty phase phase = opening.seen := by
        simp only [Opening.atPosition, hx, Option.isNone_some, Bool.false_and, Bool.false_eq_true,
          if_false]
      rw [positionPhase_of_exposure? hx hopen, hopening]
      refine ht.see fun y hy => ?_
      rw [hx] at hy
      cases hy
      exact hopen
    · exact .of_none
        (exposure?_positionPhase_of_closed (cycleBaseline?_of_exposure? hx) (not_lt.mp hopen))

end PositionEvents

/-! ### Snapshots -/

theorem Tracks.snapshot {phase : SessionGapLivePhase} {q : Option ℚ} {opening : Opening}
    (ht : Tracks phase qty opening) (hasWorkingOrder : Bool) (tsUtc : ℤ) :
    let phase' := (snapshotPhase phase (q.getD 0) hasWorkingOrder tsUtc).getD phase
    Tracks phase' q (opening.atSnapshot phase phase') := by
  -- a managed position stays managed while it is not at its baseline
  have hmanaged : ∀ x, phase.exposure? = some x →
      (snapshotPhase phase (q.getD 0) hasWorkingOrder tsUtc =
        if |q.getD 0 - x.baselineQty| ≤ epsilon then some .flat else none) →
      Tracks ((snapshotPhase phase (q.getD 0) hasWorkingOrder tsUtc).getD phase) q opening.seen := by
    intro x hx hsnapshot
    rw [hsnapshot]
    split
    · exact .of_none rfl
    · rename_i hopen
      refine ht.see fun y hy => ?_
      rw [hx] at hy
      cases hy
      exact not_le.mp hopen
  cases phase with
  | flat | entryDeferredWindowClosed | blocked => exact .of_none rfl
  | pendingEntry pending =>
    simp only [snapshotPhase]
    split
    · rename_i hopen
      exact .of_opened pending.baselineQty rfl fun _ => hopen
    · exact .of_none rfl
  | entryRecoveryVerificationPending recovery =>
    simp only [snapshotPhase]
    split
    · rename_i hopen
      exact .of_opened recovery.baselineQty rfl fun _ => hopen
    · split <;> exact .of_none rfl
  | inPosition | pendingExit | exitDeferredWindowClosed | exitRecoveryPending
  | closeOnlyDegraded =>
    have h := hmanaged _ rfl rfl
    intro phase'
    rw [show Opening.atSnapshot opening _ phase' = opening.seen from rfl]
    exact h

/-! ### The handlers -/

variable {position : PositionEvent}

namespace SessionGapStandaloneStrategy

variable (s : SessionGapStandaloneStrategy)

@[simp] theorem onOrder_config (s : SessionGapStandaloneStrategy) (ctx : StrategyCtx)
    (order : OrderEvent) : (s.onOrder ctx order).1.config = s.config :=
  settlePhase_config _ _ _

@[simp] theorem onPosition_config (ctx : StrategyCtx) (position : PositionEvent)
    : (s.onPosition ctx position).1.config = s.config := by
  unfold onPosition
  split
  · rfl
  · exact settlePhase_config _ _ _

theorem onOrder_phase (ctx : StrategyCtx) (order : OrderEvent) :
    (s.onOrder ctx order).1.persistedPhaseOrFlat = orderPhase s.persistedPhaseOrFlat order := by
  show (s.settlePhase _ _).persistedPhaseOrFlat = _
  rw [settlePhase_phase]
  split
  · rfl
  · rename_i hstate
    rw [Option.not_isSome_iff_eq_none] at hstate
    rw [persistedPhaseOrFlat, hstate]
    rfl

theorem onPosition_phase (ctx : StrategyCtx) (hsymbol : position.symbol = s.config.symbol) :
    (s.onPosition ctx position).1.persistedPhaseOrFlat = if s.state.isSome then
        positionPhase s.persistedPhaseOrFlat position (ctx.lastBarTs.getD position.tsUtc)
      else .flat := by
  unfold onPosition
  rw [if_neg (not_not.mpr hsymbol)]
  exact settlePhase_phase _ _ _

theorem transitionLiveReconcileWithSnapshot_phase (q : ℚ) (hasWorkingOrder : Bool) (tsUtc : ℤ) :
    (s.transitionLiveReconcileWithSnapshot q hasWorkingOrder tsUtc).persistedPhaseOrFlat =
      (snapshotPhase s.persistedPhaseOrFlat q hasWorkingOrder tsUtc).getD
        s.persistedPhaseOrFlat := by
  unfold transitionLiveReconcileWithSnapshot
  cases hstate : s.state with
  | none => simp [persistedPhaseOrFlat, hstate, snapshotPhase]
  | some saved =>
    have hphase : s.persistedPhaseOrFlat = saved.phase := by simp [persistedPhaseOrFlat, hstate]
    rw [hphase]
    cases hsnapshot : snapshotPhase saved.phase q hasWorkingOrder tsUtc with
    | none => simpa [hsnapshot] using hphase
    | some phase => simp [hsnapshot, persistedPhaseOrFlat, savedWith]

@[simp] theorem onBootstrapSnapshot_config (ctx : StrategyCtx) (snapshot : BootstrapSnapshot) :
    (s.onBootstrapSnapshot ctx snapshot).1.config = s.config := by
  show (s.transitionLiveReconcileWithSnapshot _ _ _).config = s.config
  unfold transitionLiveReconcileWithSnapshot
  split
  · rfl
  · split <;> rfl

theorem onBootstrapSnapshot_phase (ctx : StrategyCtx) (snapshot : BootstrapSnapshot) :
    ∃ hasWorkingOrder, (s.onBootstrapSnapshot ctx snapshot).1.persistedPhaseOrFlat =
      (snapshotPhase s.persistedPhaseOrFlat ((snapshotQty snapshot s.config.symbol).getD 0)
        hasWorkingOrder (snapshot.snapshotTsUtc.getD 0)).getD s.persistedPhaseOrFlat :=
  ⟨_, transitionLiveReconcileWithSnapshot_phase _ _ _ _⟩

end SessionGapStandaloneStrategy

/-! ### Runs -/

def IsExitOf (x : SessionGapLivePhase.Exposure) (intent : Intent) : Prop :=
  ∃ price, intent = buildLiveExitIntent price x.qty (oppositeSide x.side)

theorem isExitOf_oppositeSide (price qty baselineQty : ℚ) (side : Side) :
    IsExitOf ⟨oppositeSide side, qty, baselineQty⟩ (buildLiveExitIntent price qty side) := by
  refine ⟨price, ?_⟩
  rw [oppositeSide_oppositeSide]

namespace Watched

structure FollowsPosition (w : Watched) (e : LiveEvent) : Prop where
  /-- A phase that looks at positions manages what is not at its baseline, ... -/
  managed : ∀ ctx position baselineQty, e = .position ctx position →
    position.symbol = w.strategy.config.symbol → w.strategy.state.isSome →
    w.phase.cycleBaseline? = some baselineQty → epsilon < |position.qty - baselineQty| →
    ∃ x, (w.watch e).1.phase.exposure? = some x ∧ x.baselineQty = baselineQty
  /-- ... and nothing at the baseline. -/
  released : ∀ ctx position baselineQty, e = .position ctx position →
    position.symbol = w.strategy.config.symbol → w.strategy.state.isSome →
    w.phase.cycleBaseline? = some baselineQty → |position.qty - baselineQty| ≤ epsilon →
    (w.watch e).1.phase.exposure? = none
  /-- A position event that opens the position gives it its side and its quantity. -/
  opened : ∀ ctx position baselineQty, e = .position ctx position →
    position.symbol = w.strategy.config.symbol → w.strategy.state.isSome →
    w.phase.cycleBaseline? = some baselineQty → w.phase.exposure? = none →
    epsilon < |position.qty - baselineQty| →
    ∃ inPosition : InPositionPhase, (w.watch e).1.phase = .inPosition inPosition ∧
      inPosition.side = sideOfDelta (position.qty - baselineQty) ∧
      inPosition.qty = |position.qty - baselineQty| ∧ inPosition.baselineQty = baselineQty
  /-- A phase that does not look at positions stays as it is. -/
  ignored : ∀ ctx position, e = .position ctx position → w.phase.cycleBaseline? = none →
    (w.watch e).1.phase = w.phase
  /-- What is managed has the side and the quantity of its opening. -/
  stored : ∀ x, (w.watch e).1.phase.exposure? = some x →
    x = (w.watch e).1.opening.exposure x.baselineQty
  /-- Every exit closes what is managed, and no position at the baseline that was seen. -/
  exits : ∀ intent ∈ (w.watch e).2, intent.explicitClass = some .exit →
    ∃ x, (w.watch e).1.phase.exposure? = some x ∧ IsExitOf x intent ∧
      ((w.watch e).1.opening.isSeen = true → epsilon < |(w.watch e).1.qty.getD 0 - x.baselineQty|)

def Sound (w : Watched) : Prop := Tracks w.phase w.qty w.opening

theorem exits_of_barMove {ctx : StrategyCtx} {bar : BarEvent} {phase phase' : SessionGapLivePhase}
    (h : BarMove ctx bar phase phase' intents) :
    ∀ intent ∈ intents, intent.explicitClass = some .exit →
      ∃ x, phase'.exposure? = some x ∧ IsExitOf x intent := by
  intro intent hmem hclass
  cases h with
  | entry =>
    rw [List.mem_singleton] at hmem
    rw [hmem] at hclass
    cases hclass
  | exit | reissue =>
    rw [List.mem_singleton] at hmem
    rw [hmem]
    exact ⟨_, rfl, isExitOf_oppositeSide _ _ _ _⟩
  | _ => cases hmem

theorem exits_of_ackMove {ctx : StrategyCtx} {ack : CommandAck} {phase phase' : SessionGapLivePhase}
    (h : AckMove ctx ack phase phase' intents) :
    ∀ intent ∈ intents, ∃ x, phase'.exposure? = some x ∧ IsExitOf x intent := by
  intro intent hmem
  cases h with
  | silent => cases hmem
  | retry =>
    rw [List.mem_singleton] at hmem
    rw [hmem]
    exact ⟨_, rfl, isExitOf_oppositeSide _ _ _ _⟩

variable {w : Watched}

/-- A position event of another symbol is not looked at. -/
theorem watch_position_of_ne {ctx : StrategyCtx}
    (hsymbol : position.symbol ≠ w.strategy.config.symbol) :
    w.watch (.position ctx position) = (w, []) := by
  simp only [watch, onPosition, if_pos hsymbol]

theorem watch_position {ctx : StrategyCtx} (hsymbol : position.symbol = w.strategy.config.symbol) :
    w.watch (.position ctx position) = (⟨(w.strategy.onPosition ctx position).1, some position.qty,
        w.opening.atPosition position.qty w.phase
          (w.strategy.onPosition ctx position).1.persistedPhaseOrFlat⟩,
        (w.strategy.onPosition ctx position).2) := by
  simp only [watch, if_neg (not_not.mpr hsymbol)]

theorem phase_watch_position {ctx : StrategyCtx}
    (hsymbol : position.symbol = w.strategy.config.symbol) (hstate : w.strategy.state.isSome) :
    (w.watch (.position ctx position)).1.phase =
      positionPhase w.phase position (ctx.lastBarTs.getD position.tsUtc) := by
  rw [watch_position hsymbol]
  show (w.strategy.onPosition ctx position).1.persistedPhaseOrFlat = _
  rw [onPosition_phase _ _ hsymbol, if_pos hstate]
  rfl

variable {e : LiveEvent}

theorem Sound.watch (hw : w.Sound) (hlive : w.IsLive e) : (w.watch e).1.Sound := by
  cases e with
  | bar ctx bar =>
    obtain ⟨hmode, hqty⟩ := hlive
    show Tracks (w.strategy.onBar ctx bar).1.persistedPhaseOrFlat w.qty (w.opening.atBar w.qty _ _)
    rw [← hqty]
    exact Tracks.bar (hqty ▸ hw) (onBar_moves w.strategy hmode).2
  | ack ctx ack =>
    obtain ⟨-, hmove⟩ : _ ∧ AckMove ctx ack w.phase _ _ := onAck_moves w.strategy
    exact hw.of_exposure?_eq hmove.exposure?_eq
  | order ctx order =>
    show Tracks (w.strategy.onOrder ctx order).1.persistedPhaseOrFlat w.qty
      (w.opening.atOrder w.phase (w.strategy.onOrder ctx order).1.persistedPhaseOrFlat)
    rw [onOrder_phase]
    exact Tracks.order hw order
  | position ctx position =>
    by_cases hsymbol : position.symbol = w.strategy.config.symbol
    · rw [watch_position hsymbol]
      show Tracks (w.strategy.onPosition ctx position).1.persistedPhaseOrFlat (some position.qty)
        (w.opening.atPosition position.qty w.phase
          (w.strategy.onPosition ctx position).1.persistedPhaseOrFlat)
      rw [onPosition_phase _ _ hsymbol]
      split
      · exact Tracks.positionEvent hw position _
      · exact .of_none rfl
    · rw [watch_position_of_ne hsymbol]
      exact hw
  | snapshot ctx snapshot =>
    obtain ⟨hasWorkingOrder, hphase⟩ := onBootstrapSnapshot_phase w.strategy ctx snapshot
    show Tracks (w.strategy.onBootstrapSnapshot ctx snapshot).1.persistedPhaseOrFlat
      (snapshotQty snapshot w.strategy.config.symbol) (w.opening.atSnapshot w.phase
        (w.strategy.onBootstrapSnapshot ctx snapshot).1.persistedPhaseOrFlat)
    rw [hphase]
    exact Tracks.snapshot hw hasWorkingOrder _

/-- The intents of an event close what is managed after it. -/
theorem exits_watch (hlive : w.IsLive e) :
    ∀ intent ∈ (w.watch e).2, intent.explicitClass = some .exit →
      ∃ x, (w.watch e).1.phase.exposure? = some x ∧ IsExitOf x intent := by
  cases e with
  | bar ctx bar => exact exits_of_barMove (onBar_moves w.strategy hlive.1).2
  | ack ctx ack =>
    intro intent hmem _
    exact exits_of_ackMove (onAck_moves w.strategy).2 intent hmem
  | order ctx order =>
    intro intent hmem
    cases hmem
  | position ctx position =>
    intro intent hmem
    by_cases hsymbol : position.symbol = w.strategy.config.symbol
    · rw [watch_position hsymbol] at hmem
      simp only [onPosition, if_neg (not_not.mpr hsymbol)] at hmem
      cases hmem
    · rw [watch_position_of_ne hsymbol] at hmem
      cases hmem
  | snapshot ctx snapshot =>
    intro intent hmem
    cases hmem

/-- The phases that do not look at positions keep to themselves. -/
theorem phase_watch_position_of_none {ctx : StrategyCtx} (hphase : w.phase.cycleBaseline? = none) :
    (w.watch (.position ctx position)).1.phase = w.phase := by
  by_cases hsymbol : position.symbol = w.strategy.config.symbol
  · cases hstate : w.strategy.state with
    | none =>
      rw [phase, persistedPhaseOrFlat, hstate] at hphase
      cases hphase
    | some saved =>
      rw [phase_watch_position hsymbol (by rw [hstate]; rfl), positionPhase_of_none hphase]
  · rw [watch_position_of_ne hsymbol]

theorem Sound.followsPosition (hw : w.Sound) (hlive : w.IsLive e) :
    w.FollowsPosition e where
  managed := by
    rintro ctx position baselineQty rfl hsymbol hstate hbaseline hopen
    rw [phase_watch_position hsymbol hstate]
    cases hx : w.phase.exposure? with
    | none =>
      obtain ⟨inPosition, hphase, -, -, hb⟩ := positionPhase_opens _ hbaseline hx hopen
      rw [hphase]
      exact ⟨_, rfl, hb⟩
    | some x =>
      have hx' := cycleBaseline?_of_exposure? hx
      rw [hbaseline, Option.some.injEq] at hx'
      rw [positionPhase_of_exposure? hx (hx' ▸ hopen)]
      exact ⟨x, hx, hx'.symm⟩
  released := by
    rintro ctx position baselineQty rfl hsymbol hstate hbaseline hclosed
    rw [phase_watch_position hsymbol hstate]
    exact exposure?_positionPhase_of_closed hbaseline hclosed
  opened := by
    rintro ctx position baselineQty rfl hsymbol hstate hbaseline hphase hopen
    rw [phase_watch_position hsymbol hstate]
    exact positionPhase_opens _ hbaseline hphase hopen
  ignored := by
    rintro ctx position rfl hphase
    exact phase_watch_position_of_none hphase
  stored := (hw.watch hlive).stored
  exits := by
    intro intent hmem hclass
    obtain ⟨x, hx, hexit⟩ := exits_watch hlive intent hmem hclass
    exact ⟨x, hx, hexit, (hw.watch hlive).isOpen x hx⟩

/-- In a live run that starts in `Flat`, every event follows the position. -/
theorem always_followsPosition (w : Watched) (events : List LiveEvent) (hflat : w.phase = .flat)
    (hlive : Reaction.Always watch IsLive w events) :
    Reaction.Always watch FollowsPosition w events := by
  refine Reaction.Always.of_invariant (I := Sound) (fun w e hw hlive => ?_) ?_ hlive
  · exact ⟨hw.followsPosition hlive, hw.watch hlive⟩
  · refine Tracks.of_none ?_
    rw [hflat]
    rfl

end Watched

/-! ### A run -/

namespace Sample

/-- The strategy in a session that opened at 10:00, flat and with its indicators warm. -/
def strategy : SessionGapStandaloneStrategy :=
  let s : SessionGapStandaloneStrategy :=
    { new .default ⟨none, false, false⟩ with
      lastDt := some (toSessionDt .default 1699959480)
      sessionStartDt := some (toSessionDt .default 1699945200)
      sessionEndDt := some (toSessionDt .default 1699994940)
      sessionHigh := some 100
      sessionLow := some 100
      sessionClose := some 100
      yesterdayClose := some 100
      yesterdayRange := some 1
      prePrevClose := some 100
      firstMinHigh := some 100
      firstMinLow := some 100
      firstHourPrice := some 100 }
  s.persistStateSnapshot (toSessionDt .default 1699959480).date .flat 1699959480

def start : Watched := ⟨strategy, some 0, .observed 0⟩

variable (tsUtc : ℤ)

def ctx (positionQty : ℚ) : StrategyCtx where
  strategyId := "session_gap"
  portfolio := "D1"
  exchange := "MOEX"
  symbol := "USDRUBF"
  tickSize := 1 / 100
  tradeMode := .live
  paperExecutionMode := .liveOnly
  allowLiveOrders := true
  gatewayPhase := .liveReady
  positionQty := some positionQty
  eventTsUtc := tsUtc
  nowTsUtc := tsUtc
  lastBarTs := some tsUtc

/-- A bar at 101, above all that a long entry asks for, and above its take-profit. -/
def bar : BarEvent where
  symbol := "USDRUBF"
  closeTimeUtc := tsUtc
  close := 101
  o := 101
  h := 102
  l := 101
  v := 1
  origin := .live

def fill : PositionEvent where
  symbol := "USDRUBF"
  qty := 1
  existing := false
  avgPrice := 101
  tsUtc := tsUtc

def trade : List LiveEvent :=
  [.bar (ctx 1699959540 0) (bar 1699959540), .position (ctx 1699959545 0) (fill 1699959545),
    .bar (ctx 1699959600 1) (bar 1699959600)]

def lateFill : List LiveEvent :=
  [.bar (ctx 1699959540 0) (bar 1699959540), .bar (ctx 1699959600 0) (bar 1699959600),
    .position (ctx 1699959605 0) (fill 1699959605)]

end Sample

namespace Watched

instance (w : Watched) (e : LiveEvent) : Decidable (w.IsLive e) :=
  match e with
  | .bar ctx _ => inferInstanceAs (Decidable (ctx.tradeMode = .live ∧ ctx.positionQty = w.qty))
  | .ack _ _ | .order _ _ | .position _ _ | .snapshot _ _ => isTrue trivial

/-- An entry that is filled in time, and the bar that takes the profit. -/
theorem always_followsPosition_trade :
    Reaction.Always watch FollowsPosition Sample.start Sample.trade :=
  always_followsPosition Sample.start Sample.trade (by decide +kernel) (by decide +kernel)

/-- A fill after the ack timeout of its entry is left to the operator. -/
theorem blocked_at_lateFill :
    Sample.start.phase = .flat ∧ Sample.start.qty = some 0 ∧
      Reaction.Always watch IsLive Sample.start Sample.lateFill ∧
      (Reaction.after watch Sample.start Sample.lateFill).qty = some 1 ∧
      (Reaction.after watch Sample.start Sample.lateFill).phase =
        .blocked "entry_ack_timeout" 1699959600 ∧
      epsilon < |(1 : ℚ) - 0| := by
  decide +kernel

end Watched

end AlorRs.SessionGap
