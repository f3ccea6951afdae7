import AlorRs.StrategyRuntime.Equiv.RiAuthor4142Live.Restart

/-!
# Acks and positions of others

The runtime hands every ack of the stream and every position to the strategy.  It should act on no
ack but that of a command prepared for the order on its way, and on no position but that of the
symbol its orders are routed to.  It looks at the identifier of an ack only while one is recorded,
and at no symbol at all: what it does with the messages of others is right exactly while an order
with a recorded identifier is on its way, or none, and while their positions tell it nothing new
(`always_undisturbed_iff`).
-/

namespace AlorRs.RiAuthor4142

open RiAuthor4142LiveStrategy

/-! ### The commands of a run -/

/-- A live run, with the identifiers of the commands that were prepared for the order on its way:
those that the saved state has named since the phase was last entered. -/
structure PreparedRun where
  run : LiveRun
  prepared : List Uuid

namespace PreparedRun

variable (r : PreparedRun)

def preparedFor (run : LiveRun) : List Uuid :=
  (if run.strategy.phaseForTest = r.run.strategy.phaseForTest then r.prepared else []) ++
    run.strategy.pendingRequestIds

def step (env : Environment) (r : PreparedRun) (e : LiveEvent) : PreparedRun × List Intent :=
  let (run, intents) := LiveRun.step env r.run e
  (⟨run, r.preparedFor run⟩, intents)

def start (config : RiAuthor4142LiveConfig) : PreparedRun := ⟨LiveRun.start config, []⟩

def Foreign : LiveEvent → Prop
  | .ack _ ack => ack.requestId ∉ r.prepared
  | .position _ pos => pos.symbol ≠ r.run.strategy.config.routedSymbol
  | _ => False

def Names : Prop :=
  ∀ requestId ∈ r.run.strategy.pendingRequestIds, requestId ∈ r.prepared

end PreparedRun

/-- The phase, the slots of the components and the identifiers on record stay. -/
structure Unchanged (s s' : RiAuthor4142LiveStrategy) : Prop where
  phase : s'.phaseForTest = s.phaseForTest
  liveMr : s'.liveMr = s.liveMr
  liveBo : s'.liveBo = s.liveBo
  pendingEntry : s'.pendingEntryRequestId = s.pendingEntryRequestId
  pendingExit : s'.pendingExitRequestId = s.pendingExitRequestId

def isRefusal (ack : CommandAck) : Bool :=
  ack.status = .rejected || ack.status = .expired || ack.status = .error

namespace RiAuthor4142LiveStrategy

variable (s : RiAuthor4142LiveStrategy)

def awaitsExit : Bool :=
  s.phaseIs .livePendingExit || s.phaseIs .liveDeferredExit

def expectedRequestId : Option Uuid :=
  if s.awaitsExit then s.pendingExitRequestId else s.pendingEntryRequestId

/-- An ack of another finds nothing to act on: the strategy sends no orders, the ack is no refusal,
the phase is not that of a position, an identifier is on record, or an exit that waits for the
trading window is told again to wait. -/
def IgnoresAck (ctx : StrategyCtx) (ack : CommandAck) : Prop :=
  s.config.canEmitOrders = false ∨ isRefusal ack = false ∨ s.ownsPosition = false ∨
    s.expectedRequestId.isSome = true ∨
      s.phaseIs .liveDeferredExit = true ∧ ctx.positionQty.any isFlatQty = false ∧
        ack.errorCode = some "trading_window_closed"

/-- A position tells the strategy nothing new: it sends no orders, the phase is not that of a
position, or the position is flat just when an entry is on its way. -/
def IgnoresPosition (pos : PositionEvent) : Prop :=
  s.config.canEmitOrders = false ∨ s.ownsPosition = false ∨
    (isFlatQty pos.qty = true ↔ s.phaseIs .livePendingEntry = true)

def Ignores (s : RiAuthor4142LiveStrategy) : LiveEvent → Prop
  | .ack ctx ack => s.IgnoresAck ctx ack
  | .position _ pos => s.IgnoresPosition pos
  | _ => True

end RiAuthor4142LiveStrategy

def PreparedRun.Undisturbed (env : Environment) (r : PreparedRun) (e : LiveEvent) : Prop :=
  r.Foreign e → Unchanged r.run.strategy (PreparedRun.step env r e).1.run.strategy

/-! ### One message -/

section Messages

variable {s s' : RiAuthor4142LiveStrategy} {v v' : View}

theorem Unchanged.refl (s : RiAuthor4142LiveStrategy) : Unchanged s s := ⟨rfl, rfl, rfl, rfl, rfl⟩

theorem Shows.not_unchanged (h : Shows s v) (h' : Shows s' v') (hphase : v'.phase ≠ v.phase) :
    ¬Unchanged s s' := by
  intro hsame
  have hphases := hsame.phase
  rw [h.phase, h'.phase] at hphases
  exact hphase (Option.some.inj hphases)

theorem exists_shows_of_ownsPosition (howned : s.ownsPosition = true) :
    ∃ v, Shows s v ∧ v.phase.isOwned = true := by
  unfold ownsPosition at howned
  cases hphase : s.phaseForTest with
  | none =>
    rw [hphase] at howned
    cases howned
  | some phase =>
    rw [hphase, Option.any_some] at howned
    exact ⟨⟨phase, _, _⟩, ⟨hphase, rfl, rfl⟩, howned⟩

theorem Shows.not_unchanged_flat (h : Shows s v) (howned : v.phase.isOwned = true)
    (reason : String) : ¬Unchanged s (s.transitionLiveFlatWithReason reason) := by
  obtain ⟨-, v', hshows, -⟩ := changes_transitionLiveFlatWithReason h howned reason
  have hflat : Shows (s.transitionLiveFlatWithReason reason) ⟨.flat, false, false⟩ :=
    h.clearLivePositions.updateState fun _ _ => rfl
  refine h.not_unchanged hflat ?_
  intro heq
  rw [← heq] at howned
  cases howned

theorem Shows.not_unchanged_manual (h : Shows s v) (howned : v.phase.isOwned = true)
    (reason : String) : ¬Unchanged s (s.enterManualInterventionRequired reason) := by
  have hmanual : Shows (s.enterManualInterventionRequired reason)
      { v with phase := .manualInterventionRequired } := h.updateState fun _ _ => rfl
  refine h.not_unchanged hmanual ?_
  intro heq
  rw [← heq] at howned
  cases howned

/-- An exit that waits for the trading window waits again. -/
theorem Shows.unchanged_deferred_iff (h : Shows s v) (reason : String)
    (hnone : s.pendingExitRequestId = none) :
    Unchanged s (s.transitionLiveDeferredExit reason) ↔ v.phase = .liveDeferredExit := by
  have hdeferred : Shows (s.transitionLiveDeferredExit reason)
      { v with phase := .liveDeferredExit } := h.updateState fun _ _ => rfl
  constructor
  · intro hsame
    by_contra hphase
    exact h.not_unchanged hdeferred (Ne.symm hphase) hsame
  · intro hphase
    refine ⟨?_, rfl, rfl, ?_, ?_⟩
    · rw [hdeferred.phase, h.phase, hphase]
    · show (s.state.map _).bind _ = s.state.bind _
      cases s.state <;> rfl
    · rw [hnone]
      show (s.state.map _).bind _ = none
      cases s.state <;> rfl

variable {ack : CommandAck}

/-- An ack is not that of the identifier on record. -/
theorem isSkewed_iff {expected : Option Uuid}
    (hne : ∀ requestId ∈ expected, requestId ≠ ack.requestId) :
    isSkewed expected ack = true ↔ expected.isSome = true := by
  unfold isSkewed
  cases expected with
  | none => simp
  | some requestId =>
    have hrequest : requestId ≠ ack.requestId := hne requestId rfl
    simp [hrequest]

theorem unchanged_ackExit_iff (h : Shows s v) (howned : v.phase.isOwned = true) {ctx : StrategyCtx}
    (hne : ∀ requestId ∈ s.pendingExitRequestId, requestId ≠ ack.requestId) :
    Unchanged s (s.ackExit ctx ack) ↔ s.pendingExitRequestId.isSome = true ∨
        v.phase = .liveDeferredExit ∧ ctx.positionQty.any isFlatQty = false ∧
          ack.errorCode = some "trading_window_closed" := by
  unfold ackExit
  split_ifs with hskewed hflat hclosed
  · exact iff_of_true (.refl s) (.inl ((isSkewed_iff hne).mp hskewed))
  · rw [isSkewed_iff hne] at hskewed
    refine iff_of_false (h.not_unchanged_flat howned _) ?_
    rintro (hsome | ⟨-, hopen, -⟩)
    · exact hskewed hsome
    · rw [hflat] at hopen
      cases hopen
  · rw [isSkewed_iff hne, Option.not_isSome_iff_eq_none] at hskewed
    rw [h.unchanged_deferred_iff _ hskewed, hskewed]
    simp [hflat, hclosed]
  · rw [isSkewed_iff hne] at hskewed
    refine iff_of_false (h.not_unchanged_manual howned _) ?_
    rintro (hsome | ⟨-, -, hwindow⟩)
    · exact hskewed hsome
    · exact hclosed hwindow

theorem unchanged_ackEntry_iff (h : Shows s v) (howned : v.phase.isOwned = true) {ctx : StrategyCtx}
    (hne : ∀ requestId ∈ s.pendingEntryRequestId, requestId ≠ ack.requestId) :
    Unchanged s (s.ackEntry ctx ack) ↔ s.pendingEntryRequestId.isSome = true := by
  unfold ackEntry
  split_ifs with hskewed hflat
  · exact iff_of_true (.refl s) ((isSkewed_iff hne).mp hskewed)
  · rw [isSkewed_iff hne] at hskewed
    exact iff_of_false (h.not_unchanged_flat howned _) hskewed
  · rw [isSkewed_iff hne] at hskewed
    exact iff_of_false (h.not_unchanged_manual howned _) hskewed

variable (ctx : StrategyCtx)

theorem onAck_eq (ack : CommandAck)
    (h : s.config.canEmitOrders = false ∨ isRefusal ack = false ∨ s.ownsPosition = false) :
    onAck s ctx ack = (s, []) := by
  have hphase : s.ownsPosition = false → ∀ phase : Phase, phase.isOwned = true →
      s.phaseIs phase = false := by
    intro howned phase hphase
    by_contra his
    have hsaved : s.phaseForTest = some phase := of_decide_eq_true (Bool.not_eq_false _ |>.mp his)
    unfold ownsPosition at howned
    rw [hsaved, Option.any_some, hphase] at howned
    cases howned
  unfold onAck
  rcases h with hsilent | hrefusal | howned
  · rw [hsilent]
    rfl
  · unfold isRefusal at hrefusal
    rw [hrefusal, Bool.not_false, if_pos rfl, ite_self]
  · rw [hphase howned _ rfl, hphase howned _ rfl, hphase howned _ rfl, hphase howned _ rfl]
    simp only [Bool.or_self, Bool.false_eq_true, if_false, ite_self]

theorem onAck_of_ownsPosition (h : Shows s v) (howned : v.phase.isOwned = true)
    (hlive : s.config.canEmitOrders = true) (ctx : StrategyCtx) (hrefusal : isRefusal ack = true) :
    (onAck s ctx ack).1 = if s.awaitsExit then s.ackExit ctx ack else s.ackEntry ctx ack := by
  unfold isRefusal at hrefusal
  unfold onAck awaitsExit
  rw [hlive, hrefusal]
  have hentry : (s.phaseIs .livePendingExit || s.phaseIs .liveDeferredExit) = false →
      (s.phaseIs .livePendingEntry || s.phaseIs .liveInPosition) = true := by
    unfold phaseIs
    rw [h.phase]
    generalize v.phase = phase at howned
    cases phase <;> first | decide | cases howned
  cases hexit : s.phaseIs .livePendingExit || s.phaseIs .liveDeferredExit with
  | true => rfl
  | false =>
    rw [hentry hexit]
    rfl

theorem unchanged_onAck_iff (hne : ∀ requestId ∈ s.expectedRequestId, requestId ≠ ack.requestId) :
    Unchanged s (onAck s ctx ack).1 ↔ s.IgnoresAck ctx ack := by
  by_cases hidle : s.config.canEmitOrders = false ∨ isRefusal ack = false ∨ s.ownsPosition = false
  · rw [onAck_eq ctx ack hidle]
    refine iff_of_true (.refl s) ?_
    rcases hidle with hsilent | hrefusal | howned
    · exact .inl hsilent
    · exact .inr (.inl hrefusal)
    · exact .inr (.inr (.inl howned))
  · push Not at hidle
    obtain ⟨hlive, hrefusal, howned⟩ := hidle
    rw [ne_eq, Bool.not_eq_false] at hlive hrefusal howned
    obtain ⟨v, hshows, hphase⟩ := exists_shows_of_ownsPosition howned
    -- only the three conditions are left to decide
    have hacts : s.IgnoresAck ctx ack ↔ s.expectedRequestId.isSome = true ∨
        v.phase = .liveDeferredExit ∧ ctx.positionQty.any isFlatQty = false ∧
          ack.errorCode = some "trading_window_closed" := by
      unfold IgnoresAck
      rw [hlive, hrefusal, howned, hshows.phaseIs_iff]
      simp
    rw [onAck_of_ownsPosition hshows hphase hlive ctx hrefusal, hacts]
    unfold expectedRequestId at hne ⊢
    -- the refusal is taken for that of the exit, or of the entry
    split_ifs at hne ⊢ with hexit
    · exact unchanged_ackExit_iff hshows hphase hne
    · rw [unchanged_ackEntry_iff hshows hphase hne]
      have hnotDeferred : v.phase ≠ .liveDeferredExit := by
        intro hdeferred
        apply hexit
        unfold awaitsExit
        rw [hshows.phaseIs_iff.mpr hdeferred, Bool.or_true]
      simp [hnotDeferred]

/-- A position is confirmed while an entry is on its way. -/
theorem Shows.unchanged_confirmed_iff (h : Shows s v) (hentry : v.phase = .livePendingEntry)
    (ctx : StrategyCtx) (pos : PositionEvent) (hlive : s.config.canEmitOrders = true) :
    Unchanged s (onPosition s ctx pos).1 ↔ isFlatQty pos.qty = true := by
  unfold onPosition
  rw [hlive, h.phase, hentry, Bool.not_true, if_neg Bool.false_ne_true]
  show Unchanged s (if _ then _ else _ : RiAuthor4142LiveStrategy × List Intent).1 ↔ _
  split_ifs with hflat
  · exact iff_of_true (.refl s) hflat
  · refine iff_of_false ?_ hflat
    have hconfirmed : Shows (s.updateState fun saved =>
        { saved with
          phase := .liveInPosition
          lastTransitionReason := some "live_position_confirmed"
          pendingEntryRequestId := none }) { v with phase := .liveInPosition } :=
      h.updateState fun _ _ => rfl
    refine h.not_unchanged hconfirmed ?_
    rw [hentry]
    exact Phase.noConfusion

/-- A position is over while one is held, or an exit of it on its way. -/
theorem Shows.unchanged_closed_iff (h : Shows s v) (howned : v.phase.isOwned = true)
    (hentry : v.phase ≠ .livePendingEntry) (ctx : StrategyCtx) (pos : PositionEvent)
    (hlive : s.config.canEmitOrders = true) :
    Unchanged s (onPosition s ctx pos).1 ↔ ¬isFlatQty pos.qty = true := by
  have hanswer : onPosition s ctx pos = if isFlatQty pos.qty then
        (s.transitionLiveFlatWithReason "live_position_flat_confirmed", [])
      else (s, []) := by
    unfold onPosition
    rw [hlive, h.phase, Bool.not_true, if_neg Bool.false_ne_true]
    generalize v.phase = phase at howned hentry
    cases phase with
    | livePendingEntry => exact absurd rfl hentry
    | liveInPosition | livePendingExit | liveDeferredExit => rfl
    | _ => cases howned
  rw [hanswer]
  split_ifs with hflat
  · exact iff_of_false (h.not_unchanged_flat howned _) fun hopen => hopen hflat
  · exact iff_of_true (.refl s) hflat

theorem unchanged_onPosition_iff (pos : PositionEvent) :
    Unchanged s (onPosition s ctx pos).1 ↔ s.IgnoresPosition pos := by
  unfold IgnoresPosition
  cases hlive : s.config.canEmitOrders with
  | false =>
    have hanswer : onPosition s ctx pos = (s, []) := by
      unfold onPosition
      rw [hlive]
      rfl
    rw [hanswer]
    exact iff_of_true (.refl s) (.inl rfl)
  | true =>
    cases howned : s.ownsPosition with
    | false =>
      -- nothing is owned, and the phases that own something are excluded
      refine iff_of_true ?_ (.inr (.inl rfl))
      unfold ownsPosition at howned
      unfold onPosition
      rw [hlive, Bool.not_true, if_neg Bool.false_ne_true]
      split
      case h_5 => exact .refl s
      all_goals
        rename_i hphase
        rw [hphase] at howned
        cases howned
    | true =>
      obtain ⟨v, hshows, hphase⟩ := exists_shows_of_ownsPosition howned
      rw [hshows.phaseIs_iff]
      -- a pending entry is confirmed, a position is closed
      by_cases hentry : v.phase = .livePendingEntry
      · rw [hshows.unchanged_confirmed_iff hentry ctx pos hlive]
        simp [hentry]
      · rw [hshows.unchanged_closed_iff hphase hentry ctx pos hlive]
        simp [hentry]

end Messages

/-! ### Runs -/

section Runs

variable {r : PreparedRun}

theorem PreparedRun.names_step (env : Environment) (r : PreparedRun) (e : LiveEvent) :
    (PreparedRun.step env r e).1.Names := by
  intro requestId hrequest
  exact List.mem_append_right _ hrequest

/-- The identifier on record is that of a command that was prepared. -/
theorem PreparedRun.Names.expected (h : r.Names) :
    ∀ requestId ∈ r.run.strategy.expectedRequestId, requestId ∈ r.prepared := by
  intro requestId hrequest
  apply h
  unfold expectedRequestId at hrequest
  split_ifs at hrequest
  · exact List.mem_append_right _ (Option.mem_toList.mpr hrequest)
  · exact List.mem_append_left _ (Option.mem_toList.mpr hrequest)

/-- A message of another changes nothing exactly when it finds nothing to act on. -/
theorem PreparedRun.Names.unchanged_iff (h : r.Names) (env : Environment) {e : LiveEvent}
    (hforeign : r.Foreign e) :
    Unchanged r.run.strategy (PreparedRun.step env r e).1.run.strategy ↔
      r.run.strategy.Ignores e := by
  cases e with
  | ack ctx ack =>
    apply unchanged_onAck_iff ctx
    rintro requestId hrequest rfl
    exact hforeign (h.expected _ hrequest)
  | position ctx pos => exact unchanged_onPosition_iff ctx pos
  | _ => cases hforeign

end Runs

/-- In every run the messages of others change nothing just as long as each finds nothing to act
on. -/
theorem always_undisturbed_iff (env : Environment) (config : RiAuthor4142LiveConfig)
    (events : List LiveEvent) :
    Reaction.Always (PreparedRun.step env) (PreparedRun.Undisturbed env)
        (PreparedRun.start config) events ↔
      Reaction.Always (PreparedRun.step env)
        (fun r e => r.Foreign e → r.run.strategy.Ignores e) (PreparedRun.start config) events := by
  apply Reaction.Always.iff_of_invariant (I := PreparedRun.Names)
  · intro r e hnames
    exact forall_congr' fun hforeign => hnames.unchanged_iff env hforeign
  · intro r e _ _
    exact PreparedRun.names_step env r e
  · intro requestId hrequest
    cases hrequest

namespace Sample

def filled : List LiveEvent :=
  entering ++ [.prepared (ctx none) ⟨.other 1, .entry, 1777874400, "RIM6", "market", none⟩,
      .position (ctx none) ⟨"RIM6", -1, false, 100100, 1777874401⟩]

def refusal : CommandAck := .rejected (.other 9) "cws_http_400" "unknown instrument" 1777874402

def closed : PositionEvent := ⟨"SiM6", 0, false, 0, 1777874402⟩

end Sample

/-- In position the refusal of an order of another strategy gives the position up, or leaves it to an
operator if the broker is known to have it, and a flat position in another symbol ends it. -/
theorem not_always_undisturbed :
    ¬Reaction.Always (PreparedRun.step Sample.env) (PreparedRun.Undisturbed Sample.env)
        (PreparedRun.start Sample.config)
        (Sample.filled ++ [.ack (Sample.ctx none) Sample.refusal]) ∧
      ¬Reaction.Always (PreparedRun.step Sample.env) (PreparedRun.Undisturbed Sample.env)
        (PreparedRun.start Sample.config)
        (Sample.filled ++ [.ack (Sample.ctx (some (-1))) Sample.refusal]) ∧
      ¬Reaction.Always (PreparedRun.step Sample.env) (PreparedRun.Undisturbed Sample.env)
        (PreparedRun.start Sample.config)
        (Sample.filled ++ [.position (Sample.ctx none) Sample.closed]) := by
  have hack (positionQty : Option ℚ) : (Reaction.after (PreparedRun.step Sample.env)
      (PreparedRun.start Sample.config) Sample.filled).Foreign
        (.ack (Sample.ctx positionQty) Sample.refusal) := by
    show _ ∉ _
    decide +kernel
  have hposition : (Reaction.after (PreparedRun.step Sample.env)
      (PreparedRun.start Sample.config) Sample.filled).Foreign
        (.position (Sample.ctx none) Sample.closed) := by
    show _ ≠ _
    decide +kernel
  refine ⟨?_, ?_, ?_⟩
  · intro halways
    have hlast := Reaction.always_iff.mp halways Sample.filled _ [] rfl
    exact absurd (hlast (hack none)).phase (by decide +kernel)
  · intro halways
    have hlast := Reaction.always_iff.mp halways Sample.filled _ [] rfl
    exact absurd (hlast (hack (some (-1)))).phase (by decide +kernel)
  · intro halways
    have hlast := Reaction.always_iff.mp halways Sample.filled _ [] rfl
    exact absurd (hlast hposition).phase (by decide +kernel)

end AlorRs.RiAuthor4142
