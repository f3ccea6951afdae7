import AlorRs.StrategyRuntime.SessionGapStandalone.Events

/-!
# The moves between the phases of the session-gap strategy

Every bar of live mode, and every ack, moves the phase by one of a few moves and answers with the
intents of that move (`onBar_moves`, `onAck_moves`).
-/

namespace AlorRs.SessionGap

open SessionGapStandaloneStrategy

namespace SessionGapLivePhase

/-- What is held of the symbol beyond the baseline, as a phase has it. -/
structure Exposure where
  side : Side
  qty : ℚ
  baselineQty : ℚ

/-- The exposure that a phase manages; an exit is on the other side. -/
def exposure? : SessionGapLivePhase → Option Exposure
  | .inPosition phase => some ⟨phase.side, phase.qty, phase.baselineQty⟩
  | .pendingExit phase => some ⟨oppositeSide phase.side, phase.qty, phase.baselineQty⟩
  | .exitDeferredWindowClosed phase => some ⟨oppositeSide phase.side, phase.qty, phase.baselineQty⟩
  | .exitRecoveryPending phase => some ⟨oppositeSide phase.side, phase.qty, phase.baselineQty⟩
  | .closeOnlyDegraded phase => some ⟨oppositeSide phase.side, phase.qty, phase.baselineQty⟩
  | .flat | .pendingEntry _ | .entryDeferredWindowClosed _ | .entryRecoveryVerificationPending _
  | .blocked _ _ => none

def requestId? : SessionGapLivePhase → Option Uuid
  | .pendingEntry phase => some phase.requestId
  | .pendingExit phase => some phase.requestId
  | .exitRecoveryPending phase => some phase.requestId
  | _ => none

end SessionGapLivePhase

@[simp] theorem oppositeSide_oppositeSide (side : Side) : oppositeSide (oppositeSide side) = side := by
  cases side <;> rfl

/-! ### Bars -/

inductive BarMove (ctx : StrategyCtx) (bar : BarEvent) :
    SessionGapLivePhase → SessionGapLivePhase → List Intent → Prop
  | stay (phase : SessionGapLivePhase) : BarMove ctx bar phase phase []
  | settle {phase phase' : SessionGapLivePhase} (h : phase.exposure? = none)
      (h' : phase'.exposure? = none) (hrequest : phase'.requestId? = none) :
    BarMove ctx bar phase phase' []
  | entry {phase : SessionGapLivePhase} {pending : PendingEntryPhase} {price : ℚ}
      (h : phase.exposure? = none) (hrequest : pending.requestId = barRequestId ctx bar) :
    BarMove ctx bar phase (.pendingEntry pending) [.place price pending.qty pending.side none]
  | verified {phase : EntryRecoveryPhase} {inPosition : InPositionPhase} {delta : ℚ}
      (hdelta : delta = ctx.positionQty.getD phase.baselineQty - phase.baselineQty)
      (hopen : epsilon < |delta|) (hside : inPosition.side = sideOfDelta delta)
      (hqty : inPosition.qty = max |delta| phase.qty)
      (hbaseline : inPosition.baselineQty = phase.baselineQty) :
    BarMove ctx bar (.entryRecoveryVerificationPending phase) (.inPosition inPosition) []
  | exit {phase : InPositionPhase} {pending : PendingExitPhase} {price : ℚ}
      (hrequest : pending.requestId = barRequestId ctx bar)
      (hside : pending.side = oppositeSide phase.side) (hqty : pending.qty = phase.qty)
      (hbaseline : pending.baselineQty = phase.baselineQty) :
    BarMove ctx bar (.inPosition phase) (.pendingExit pending)
      [buildLiveExitIntent price pending.qty pending.side]
  | reissue {phase : ExitDeferredPhase} {pending : PendingExitPhase} {delta price : ℚ}
      (hdelta : delta = ctx.positionQty.getD phase.baselineQty - phase.baselineQty)
      (hopen : epsilon < |delta|) (hrequest : pending.requestId = barRequestId ctx bar)
      (hside : pending.side = oppositeSide (sideOfDelta delta)) (hqty : pending.qty = |delta|)
      (hbaseline : pending.baselineQty = phase.baselineQty) :
    BarMove ctx bar (.exitDeferredWindowClosed phase) (.pendingExit pending)
      [buildLiveExitIntent price pending.qty pending.side]
  | closed {phase : ExitDeferredPhase}
      (h : |ctx.positionQty.getD phase.baselineQty - phase.baselineQty| ≤ epsilon) :
    BarMove ctx bar (.exitDeferredWindowClosed phase) .flat []
  | degrade {phase phase' : SessionGapLivePhase} (h : phase'.exposure? = phase.exposure?)
      (hrequest : phase'.requestId? = none) :
    BarMove ctx bar phase phase' []

variable {ctx : StrategyCtx} {bar : BarEvent} {intents : List Intent}

theorem BarMove.of_flat {phase phase' : SessionGapLivePhase} (hphase : phase.exposure? = none)
    (h : BarMove ctx bar .flat phase' intents) : BarMove ctx bar phase phase' intents := by
  cases h with
  | stay => exact .settle hphase rfl rfl
  | settle _ h' hrequest => exact .settle hphase h' hrequest
  | entry _ hrequest => exact .entry hphase hrequest
  | degrade h hrequest => exact .settle hphase h hrequest

namespace SessionGapStandaloneStrategy

theorem barMove_sendEntry {phase : SessionGapLivePhase} (h : phase.exposure? = none)
    (s : SessionGapStandaloneStrategy) (direction : Direction) (side : Side) (qty : ℚ) :
    BarMove ctx bar phase (s.sendEntry ctx bar direction side qty).1
      (s.sendEntry ctx bar direction side qty).2 := .entry h rfl

variable (s : SessionGapStandaloneStrategy) (sessionDate : NaiveDate)

theorem barMove_barPhase (barDt : LocalDateTime) (forced : Bool) (phase : SessionGapLivePhase) :
    BarMove ctx bar phase (s.barPhase ctx sessionDate barDt bar forced phase).2.1
      (s.barPhase ctx sessionDate barDt bar forced phase).2.2 := by
  cases phase with
  | flat =>
    simp only [barPhase, barFlat]
    split
    · exact .settle rfl rfl rfl
    · split
      · exact .stay _
      · exact barMove_sendEntry rfl _ _ _ _
  | pendingEntry phase =>
    simp only [barPhase, barPendingEntry]
    split
    · exact .settle rfl rfl rfl
    · split
      · exact .settle rfl rfl rfl
      · exact .stay _
  | entryDeferredWindowClosed phase =>
    simp only [barPhase, barEntryDeferred]
    split
    · exact .settle rfl rfl rfl
    · exact barMove_sendEntry rfl _ _ _ _
  | entryRecoveryVerificationPending phase =>
    simp only [barPhase, barEntryRecovery]
    split
    · rename_i hopen
      exact .verified rfl hopen rfl rfl rfl
    · split
      · exact .settle rfl rfl rfl
      · exact .stay _
  | inPosition phase =>
    simp only [barPhase, barInPosition]
    split
    · exact .stay _
    · split
      · exact .exit rfl rfl rfl rfl
      · exact .stay _
  | pendingExit phase =>
    simp only [barPhase, barPendingExit]
    split
    · exact .degrade rfl rfl
    · split
      · exact .degrade rfl rfl
      · exact .stay _
  | exitDeferredWindowClosed phase =>
    simp only [barPhase, barExitDeferred]
    split
    · rename_i hclosed
      exact .closed hclosed
    · rename_i hopen
      exact .reissue rfl (not_le.mp hopen) rfl rfl rfl rfl
  | exitRecoveryPending phase =>
    simp only [barPhase, barExitRecovery]
    split
    · exact .degrade rfl rfl
    · split
      · exact .degrade rfl rfl
      · exact .stay _
  | closeOnlyDegraded phase => exact .stay _
  | blocked reason tsUtc =>
    simp only [barPhase]
    split
    · exact .settle rfl rfl rfl
    · exact .stay _

/-! ### What the bookkeeping of a bar leaves alone -/

/-- The configuration and the saved state are the same. -/
structure SameCore (s s' : SessionGapStandaloneStrategy) : Prop where
  config : s'.config = s.config
  state : s'.state = s.state

theorem SameCore.trans {s s' s'' : SessionGapStandaloneStrategy} (h : SameCore s s')
    (h' : SameCore s' s'') : SameCore s s'' :=
  ⟨h'.config.trans h.config, h'.state.trans h.state⟩

theorem SameCore.phase {s' : SessionGapStandaloneStrategy} (h : SameCore s s') :
    s'.persistedPhaseOrFlat = s.persistedPhaseOrFlat := by
  unfold persistedPhaseOrFlat
  rw [h.state]

variable (barDt : LocalDateTime)

theorem sameCore_continueSession (bar : BarEvent) : SameCore s (s.continueSession barDt bar) := by
  unfold continueSession
  dsimp only
  split
  · exact ⟨rfl, rfl⟩
  · split <;> split <;> exact ⟨rfl, rfl⟩

theorem sameCore_updateSession (bar : BarEvent) : SameCore s (s.updateSession barDt bar) := by
  unfold updateSession
  split
  · exact ⟨rfl, rfl⟩
  · split
    · exact ⟨rfl, rfl⟩
    · have hcontinue := sameCore_continueSession s barDt bar
      exact ⟨hcontinue.config, hcontinue.state⟩

theorem sameCore_maybeGenerateSignal (bar : BarEvent) (force : Bool) :
    SameCore s (s.maybeGenerateSignal barDt bar force) := by
  unfold maybeGenerateSignal
  repeat' split
  all_goals exact ⟨rfl, rfl⟩

theorem sameCore_maybeForceTestHookEntry (phase : SessionGapLivePhase) (ctx : StrategyCtx)
    (sessionDate : NaiveDate) : SameCore s (s.maybeForceTestHookEntry phase ctx sessionDate).1 := by
  unfold maybeForceTestHookEntry
  split
  · exact ⟨rfl, rfl⟩
  · split <;> exact ⟨rfl, rfl⟩

theorem sameCore_barPhase (ctx : StrategyCtx) (bar : BarEvent) (sessionDate : NaiveDate)
    (barDt : LocalDateTime) (forced : Bool) (phase : SessionGapLivePhase) :
    SameCore s (s.barPhase ctx sessionDate barDt bar forced phase).1 := by
  cases phase with
  | flat =>
    simp only [barPhase, barFlat]
    split
    · exact ⟨rfl, rfl⟩
    · split <;> exact ⟨rfl, rfl⟩
  | inPosition phase =>
    simp only [barPhase, barInPosition]
    split
    · exact ⟨rfl, rfl⟩
    · split
      · split
        all_goals exact ⟨rfl, rfl⟩
      · exact ⟨rfl, rfl⟩
  | blocked reason tsUtc =>
    simp only [barPhase]
    split <;> exact ⟨rfl, rfl⟩
  | _ => exact ⟨rfl, rfl⟩

@[simp] theorem persistedPhaseOrFlat_keepPhase (s : SessionGapStandaloneStrategy)
    (sessionDate : NaiveDate) (bar : BarEvent) :
    (s.keepPhase sessionDate bar).persistedPhaseOrFlat = s.persistedPhaseOrFlat := rfl

@[simp] theorem noteTransition_config (previousPhase phase : SessionGapLivePhase) (tsUtc : ℤ) :
    (s.noteTransition previousPhase phase tsUtc).config = s.config := by
  unfold noteTransition
  split <;> rfl

theorem exposure?_of_notWarmed {phase : SessionGapLivePhase} (h : notWarmed phase = true) :
    phase.exposure? = none := by
  cases phase with
  | blocked reason tsUtc => rfl
  | _ => cases h

/-! ### The moves of `on_bar` -/

theorem liveBar_moves (barDt : LocalDateTime) :
    (s.liveBar ctx sessionDate barDt bar).1.config = s.config ∧
      BarMove ctx bar s.persistedPhaseOrFlat
        (s.liveBar ctx sessionDate barDt bar).1.persistedPhaseOrFlat
        (s.liveBar ctx sessionDate barDt bar).2 := by
  unfold liveBar
  dsimp only
  have hforce := sameCore_maybeForceTestHookEntry s s.persistedPhaseOrFlat ctx sessionDate
  generalize s.maybeForceTestHookEntry s.persistedPhaseOrFlat ctx sessionDate = forced at hforce ⊢
  obtain ⟨s₁, armed⟩ := forced
  have hsignal : SameCore s (if armed then s₁ else s₁.maybeGenerateSignal barDt bar true) := by
    cases armed with
    | true => exact hforce
    | false => exact hforce.trans (sameCore_maybeGenerateSignal _ _ _ _)
  generalize (if armed then s₁ else s₁.maybeGenerateSignal barDt bar true) = s₂ at hsignal ⊢
  -- only a phase that waits for the indicators is taken for `Flat`
  have hphase : ∀ phase', ∀ intents,
      BarMove ctx bar (if armed && notWarmed s.persistedPhaseOrFlat then .flat
        else s.persistedPhaseOrFlat) phase' intents →
      BarMove ctx bar s.persistedPhaseOrFlat phase' intents := by
    intro phase' intents hmove
    split at hmove
    · rename_i hwarm
      rw [Bool.and_eq_true] at hwarm
      exact hmove.of_flat (exposure?_of_notWarmed hwarm.2)
    · exact hmove
  generalize (if armed && notWarmed s.persistedPhaseOrFlat then SessionGapLivePhase.flat
    else s.persistedPhaseOrFlat) = phase at hphase ⊢
  have hcore := sameCore_barPhase s₂ ctx bar sessionDate barDt armed phase
  have hmove := hphase _ _ (barMove_barPhase s₂ sessionDate barDt armed phase)
  generalize s₂.barPhase ctx sessionDate barDt bar armed phase = answer at hcore hmove ⊢
  refine ⟨?_, hmove⟩
  show (answer.1.noteTransition _ _ _).config = s.config
  rw [noteTransition_config, hcore.config, hsignal.config]

theorem onBar_moves (hlive : ctx.tradeMode = .live) :
    (s.onBar ctx bar).1.config = s.config ∧
      BarMove ctx bar s.persistedPhaseOrFlat (s.onBar ctx bar).1.persistedPhaseOrFlat
        (s.onBar ctx bar).2 := by
  unfold onBar
  split
  · exact ⟨rfl, .stay _⟩
  · split
    · exact ⟨rfl, .stay _⟩
    · dsimp only
      split
      · exact ⟨rfl, .stay _⟩
      · have hsession := sameCore_updateSession s (toSessionDt s.config bar.closeTimeUtc) bar
        generalize s.updateSession (toSessionDt s.config bar.closeTimeUtc) bar = s₁ at hsession ⊢
        rw [if_neg (not_not.mpr hlive)]
        rw [← hsession.config, ← hsession.phase]
        split
        · exact ⟨rfl, .stay _⟩
        · exact liveBar_moves s₁ _ _

end SessionGapStandaloneStrategy

variable (s : SessionGapStandaloneStrategy)

theorem sameCore_maybeOpenPosition (bar : BarEvent) : SameCore s (s.maybeOpenPosition bar).1 := by
  unfold maybeOpenPosition
  split <;> exact ⟨rfl, rfl⟩

theorem sameCore_maybeClosePosition (barDt : LocalDateTime) (bar : BarEvent) :
    SameCore s (s.maybeClosePosition barDt bar).1 := by
  unfold maybeClosePosition
  split
  · exact ⟨rfl, rfl⟩
  · split <;> exact ⟨rfl, rfl⟩

theorem simulateBar_keeps (sessionDate : NaiveDate) (barDt : LocalDateTime) (bar : BarEvent) :
    (s.simulateBar sessionDate barDt bar).1.config = s.config ∧
      (s.simulateBar sessionDate barDt bar).1.persistedPhaseOrFlat = s.persistedPhaseOrFlat := by
  have hopened := sameCore_maybeOpenPosition s bar
  have hclosed := sameCore_maybeClosePosition (s.maybeOpenPosition bar).1 barDt bar
  have hsignal := sameCore_maybeGenerateSignal ((s.maybeOpenPosition bar).1.maybeClosePosition barDt bar).1
    barDt bar false
  have hall := (hopened.trans hclosed).trans hsignal
  exact ⟨hall.config, hall.phase⟩

theorem onBar_config (ctx : StrategyCtx) (bar : BarEvent) :
    (s.onBar ctx bar).1.config = s.config := by
  by_cases hlive : ctx.tradeMode = .live
  · exact (onBar_moves s hlive).1
  · unfold SessionGapStandaloneStrategy.onBar
    split
    · rfl
    · split
      · rfl
      · dsimp only
        split
        · rfl
        · rw [(simulateBar_keeps _ _ _ _).1]
          exact (sameCore_updateSession s _ bar).config

/-! ### Acks -/

/-- The moves of an ack: only an exit that can be sent again is answered. -/
inductive AckMove (ctx : StrategyCtx) (ack : CommandAck) :
    SessionGapLivePhase → SessionGapLivePhase → List Intent → Prop
  | silent {phase phase' : SessionGapLivePhase} (h : phase'.exposure? = phase.exposure?) :
    AckMove ctx ack phase phase' []
  | retry {pending : PendingExitPhase} {recovery : ExitRecoveryPhase} {price : ℚ}
      (hrequest : recovery.requestId = exitRetryRequestId ctx ack.processedTsUtc)
      (hside : recovery.side = pending.side) (hqty : recovery.qty = pending.qty)
      (hbaseline : recovery.baselineQty = pending.baselineQty) :
    AckMove ctx ack (.pendingExit pending) (.exitRecoveryPending recovery)
      [buildLiveExitIntent price recovery.qty recovery.side]

theorem AckMove.exposure?_eq {ctx : StrategyCtx} {ack : CommandAck}
    {phase phase' : SessionGapLivePhase} (h : AckMove ctx ack phase phase' intents) :
    phase'.exposure? = phase.exposure? := by
  cases h with
  | silent h => exact h
  | retry hrequest hside hqty hbaseline =>
    simp only [SessionGapLivePhase.exposure?, hside, hqty, hbaseline]

namespace SessionGapStandaloneStrategy

variable {ctx : StrategyCtx} {ack : CommandAck}

theorem exposure?_ackPendingEntry (phase : PendingEntryPhase) :
    (ackPendingEntry phase ack).exposure? = none := by
  unfold ackPendingEntry
  split
  · rfl
  · split
    · rfl
    · rfl
    · rfl
    · rfl
    · rfl
    · split <;> rfl

theorem ackMove_ackPendingExit (phase : PendingExitPhase) :
    AckMove ctx ack (.pendingExit phase) (ackPendingExit phase ctx ack).1
      (ackPendingExit phase ctx ack).2 := by
  unfold ackPendingExit
  split
  · exact .silent rfl
  · split
    · exact .silent rfl
    · exact .silent rfl
    · exact .silent rfl
    · exact .silent rfl
    · exact .silent rfl
    · split
      · exact .retry rfl rfl rfl rfl
      · exact .silent rfl

theorem exposure?_ackExitRecovery (phase : ExitRecoveryPhase) :
    (ackExitRecovery phase ack).exposure? =
      (SessionGapLivePhase.exitRecoveryPending phase).exposure? := by
  unfold ackExitRecovery
  split
  · rfl
  · split
    all_goals rfl

theorem ackMove_ackPhase (phase : SessionGapLivePhase) :
    AckMove ctx ack phase (ackPhase phase ctx ack).1 (ackPhase phase ctx ack).2 := by
  cases phase with
  | pendingEntry pending =>
    simp only [ackPhase]
    split
    · exact .silent (exposure?_ackPendingEntry pending)
    · exact .silent rfl
  | pendingExit pending =>
    simp only [ackPhase]
    split
    · exact ackMove_ackPendingExit pending
    · exact .silent rfl
  | exitRecoveryPending pending =>
    simp only [ackPhase]
    split
    · exact .silent (exposure?_ackExitRecovery pending)
    · exact .silent rfl
  | _ => exact .silent rfl

variable (s : SessionGapStandaloneStrategy)

@[simp] theorem settlePhase_config (s : SessionGapStandaloneStrategy) (tsUtc : ℤ)
    (next : SessionGapLivePhase → SessionGapLivePhase) :
    (s.settlePhase tsUtc next).config = s.config := by
  unfold settlePhase
  split
  · rfl
  · unfold persistStateWithExistingLastBar
    split <;> exact noteTransition_config _ _ _ _

theorem settlePhase_phase (tsUtc : ℤ) (next : SessionGapLivePhase → SessionGapLivePhase) :
    (s.settlePhase tsUtc next).persistedPhaseOrFlat =
      if s.state.isSome then next s.persistedPhaseOrFlat else .flat := by
  unfold settlePhase
  split
  · rename_i hstate
    simp [persistedPhaseOrFlat, hstate]
  · rename_i saved hstate
    have hsaved : (s.noteTransition saved.phase (next saved.phase) tsUtc).state = some saved := by
      unfold noteTransition
      split <;> exact hstate
    simp [persistStateWithExistingLastBar, persistedPhaseOrFlat, hsaved, hstate, savedWith]

theorem onAck_moves :
    (s.onAck ctx ack).1.config = s.config ∧
      AckMove ctx ack s.persistedPhaseOrFlat (s.onAck ctx ack).1.persistedPhaseOrFlat
        (s.onAck ctx ack).2 := by
  refine ⟨settlePhase_config _ _ _, ?_⟩
  show AckMove ctx ack s.persistedPhaseOrFlat (s.settlePhase _ _).persistedPhaseOrFlat _
  rw [settlePhase_phase]
  cases hstate : s.state with
  | none => simpa [onAck, persistedPhaseOrFlat, hstate] using AckMove.silent rfl
  | some saved => simpa [onAck, persistedPhaseOrFlat, hstate] using ackMove_ackPhase saved.phase

end SessionGapStandaloneStrategy

end AlorRs.SessionGap
