import AlorRs.Lib.Reaction
import AlorRs.StrategyRuntime.Equiv.SessionGapStandalone.Bars
import AlorRs.StrategyRuntime.Equiv.SessionGapStandalone.Positions

/-!
# The entries of the session-gap strategy

A signal uses up the entry of its session and is stored (`tradedSession`, `pendingEntry`); a bar that finds
the phase flat sends what is stored, and one that finds an entry deferred sends it again.  The runtime may
drop what a callback sent, and then gives the strategy its saved state back, but not its other fields
(`deliver`).
-/

namespace AlorRs.SessionGap

open SessionGapStandaloneStrategy

/-! ### Deliveries -/

def answer (s : SessionGapStandaloneStrategy) : LiveEvent → SessionGapStandaloneStrategy × List Intent
  | .bar ctx bar => s.onBar ctx bar
  | .ack ctx ack => s.onAck ctx ack
  | .order ctx order => s.onOrder ctx order
  | .position ctx position => s.onPosition ctx position
  | .snapshot ctx snapshot => s.onBootstrapSnapshot ctx snapshot

/-- An event, and whether the runtime drops all that it is answered by. -/
structure Delivery where
  event : LiveEvent
  dropped : Bool

/-- An event is delivered; where all intents are dropped, the state before the event is set again. -/
def deliver (s : SessionGapStandaloneStrategy) (d : Delivery) :
    SessionGapStandaloneStrategy × List Intent :=
  let (s', intents) := answer s d.event
  (if d.dropped && !intents.isEmpty then { s' with state := s.state } else s', intents)

def IsEntry : Intent → Prop
  | .place _ _ _ _ => True
  | _ => False

instance : DecidablePred IsEntry
  | .place _ _ _ _ => isTrue trivial
  | .classified _ _ => isFalse id
  | .routed _ _ => isFalse id
  | .market _ _ _ _ => isFalse id
  | .cancel _ => isFalse id
  | .replace _ _ _ => isFalse id
  | .createStopLimit _ _ _ _ _ _ _ _ _ => isFalse id
  | .deleteStopLimit _ _ _ => isFalse id

/-! ### What a session has left -/

/-- What decides on the next entry, beside the phase. -/
structure Quota where
  tradedSession : Bool
  pendingEntry : Option PendingEntry
  testHook : SessionGapTestHookState

def quota (s : SessionGapStandaloneStrategy) : Quota :=
  ⟨s.tradedSession, s.pendingEntry, s.testHook⟩

def Quota.IsStored (q : Quota) : Prop := q.pendingEntry.isSome → q.tradedSession = true

variable {s : SessionGapStandaloneStrategy} {ctx : StrategyCtx} {bar : BarEvent}

theorem quota_noteTransition (s : SessionGapStandaloneStrategy) (phase phase' : SessionGapLivePhase)
    (tsUtc : ℤ) : quota (s.noteTransition phase phase' tsUtc) = quota s := by
  unfold noteTransition
  split <;> rfl

theorem quota_settlePhase (s : SessionGapStandaloneStrategy) (tsUtc : ℤ)
    (next : SessionGapLivePhase → SessionGapLivePhase) :
    quota (s.settlePhase tsUtc next) = quota s := by
  unfold settlePhase
  cases s.state with
  | none => rfl
  | some saved =>
    dsimp only
    unfold persistStateWithExistingLastBar
    split <;> exact quota_noteTransition s _ _ _

/-- Only bars decide on entries. -/
theorem quota_answer_of_not_bar {event : LiveEvent} (h : ∀ ctx bar, event ≠ .bar ctx bar) :
    quota (answer s event).1 = quota s := by
  cases event with
  | bar ctx bar => exact absurd rfl (h ctx bar)
  | ack | order => exact quota_settlePhase s _ _
  | position ctx position =>
    show quota (s.onPosition ctx position).1 = _
    unfold onPosition
    split
    · rfl
    · exact quota_settlePhase s _ _
  | snapshot ctx snapshot =>
    show quota (s.transitionLiveReconcileWithSnapshot _ _ _) = _
    unfold transitionLiveReconcileWithSnapshot
    split
    · rfl
    · split <;> rfl

theorem quota_deliver (s : SessionGapStandaloneStrategy) (d : Delivery) :
    quota (deliver s d).1 = quota (answer s d.event).1 := by
  unfold deliver
  dsimp only
  split <;> rfl

/-- A session that begins has its entry before it. -/
theorem quota_updated (s : SessionGapStandaloneStrategy) (bar : BarEvent) :
    BeginsSession s bar ∧ quota (updated s bar) = ⟨false, none, s.testHook⟩ ∨
      ¬BeginsSession s bar ∧ quota (updated s bar) = quota s := by
  unfold updated updateSession BeginsSession
  cases hlast : s.lastDt with
  | none => exact .inl ⟨fun lastDt hmem => (nomatch hmem), rfl⟩
  | some lastDt =>
    dsimp only
    split_ifs with hgap
    · refine .inl ⟨fun lastDt' hmem => ?_, rfl⟩
      obtain rfl := Option.some.inj hmem
      exact hgap
    · refine .inr ⟨fun hbegins => hgap (hbegins lastDt rfl), ?_⟩
      unfold continueSession
      dsimp only
      repeat' split
      all_goals rfl

/-! ### Signals -/

/-- The close of a bar satisfies the conditions of a signal, and nothing was signalled before. -/
structure Signals (s : SessionGapStandaloneStrategy) (barDt : LocalDateTime) (bar : BarEvent)
    (direction : Direction) : Prop where
  untraded : s.tradedSession = false
  unstored : s.pendingEntry = none
  hour : hour barDt < s.config.maxEntryHour
  beforeEnd : ∃ sessionEndDt, s.sessionEndDt = some sessionEndDt ∧
    barDt.timestamp < sessionEndDt.timestamp
  minute : minute barDt = s.config.signalMinute
  waited : ∃ sessionStartDt, s.sessionStartDt = some sessionStartDt ∧
    s.config.waitHours * 3600 ≤ barDt.timestamp - sessionStartDt.timestamp
  broken : ∃ yesterdayClose yesterdayRange prePrevClose, s.yesterdayClose = some yesterdayClose ∧
    s.yesterdayRange = some yesterdayRange ∧ s.prePrevClose = some prePrevClose ∧
    s.signal bar.close yesterdayClose yesterdayRange prePrevClose = some direction

/-- A live bar stores an entry exactly when it signals one. -/
theorem maybeGenerateSignal_cases (s : SessionGapStandaloneStrategy) (barDt : LocalDateTime)
    (bar : BarEvent) :
    s.maybeGenerateSignal barDt bar true = s ∨
      ∃ direction, Signals s barDt bar direction ∧ s.maybeGenerateSignal barDt bar true =
        { s with pendingEntry := some ⟨direction, 1⟩, tradedSession := true } := by
  unfold maybeGenerateSignal
  cases htraded : s.tradedSession with
  | true => exact .inl rfl
  | false =>
    rw [if_neg Bool.false_ne_true]
    split
    · rename_i sessionStartDt sessionEndDt hstart hend
      split
      · exact .inl rfl
      · rename_i hlate
        rw [Bool.or_eq_true, decide_eq_true_iff, decide_eq_true_iff, not_or, not_le, not_le] at hlate
        split
        · rename_i yesterdayClose yesterdayRange prePrevClose hclose hrange hprev
          split
          · rename_i htime
            rw [Bool.and_eq_true, decide_eq_true_iff, decide_eq_true_iff] at htime
            split
            · rename_i direction hsignal hpending
              refine .inr ⟨direction, ?_, rfl⟩
              exact
                { untraded := htraded
                  unstored := hpending
                  hour := hlate.2
                  beforeEnd := ⟨sessionEndDt, hend, hlate.1⟩
                  minute := htime.1
                  waited := ⟨sessionStartDt, hstart, htime.2⟩
                  broken := ⟨yesterdayClose, yesterdayRange, prePrevClose, hclose, hrange, hprev,
                    hsignal⟩ }
            · exact .inl rfl
          · exact .inl rfl
        · exact .inl rfl
    · exact .inl rfl

theorem maybeForceTestHookEntry_cases (s : SessionGapStandaloneStrategy) (phase : SessionGapLivePhase)
    (ctx : StrategyCtx) (sessionDate : NaiveDate) :
    s.maybeForceTestHookEntry phase ctx sessionDate = (s, false) ∨
      (phase = .flat ∨ notWarmed phase = true) ∧
        ∃ direction testHook, s.maybeForceTestHookEntry phase ctx sessionDate = ({ s with
              pendingEntry := some ⟨direction, 1⟩
              tradedSession := true
              testHook := testHook }, true) := by
  unfold maybeForceTestHookEntry
  split
  · exact .inl rfl
  · rename_i direction hforce
    split
    · exact .inl rfl
    · rename_i hphase
      rw [Bool.or_eq_true, Bool.or_eq_true, not_or, not_or, Bool.not_eq_true', Bool.not_eq_false,
        Bool.or_eq_true, decide_eq_true_iff] at hphase
      exact .inr ⟨hphase.1.1, direction, _, rfl⟩

/-! ### What the phases send -/

/-- What a phase does with the stored entry: it is kept or sent. -/
structure Spends (s s' : SessionGapStandaloneStrategy) : Prop where
  tradedSession : s'.tradedSession = s.tradedSession
  pendingEntry : s'.pendingEntry = s.pendingEntry ∨ s'.pendingEntry = none
  testHook : s'.testHook.config = s.testHook.config

theorem spends_barPhase (s : SessionGapStandaloneStrategy) (ctx : StrategyCtx) (bar : BarEvent)
    (sessionDate : NaiveDate) (barDt : LocalDateTime) (forced : Bool) (phase : SessionGapLivePhase) :
    Spends s (s.barPhase ctx sessionDate barDt bar forced phase).1 := by
  cases phase with
  | flat =>
    show Spends s (s.barFlat ctx bar forced).1
    unfold barFlat
    split
    · exact ⟨rfl, .inl rfl, rfl⟩
    · split
      · exact ⟨rfl, .inl rfl, rfl⟩
      · exact ⟨rfl, .inr rfl, rfl⟩
  | inPosition phase =>
    show Spends s (s.barInPosition ctx sessionDate barDt bar phase).1
    unfold barInPosition
    split
    · exact ⟨rfl, .inl rfl, rfl⟩
    · dsimp only
      repeat' split
      all_goals exact ⟨rfl, .inl rfl, rfl⟩
  | blocked reason tsUtc =>
    simp only [barPhase]
    split <;> exact ⟨rfl, .inl rfl, rfl⟩
  | _ => exact ⟨rfl, .inl rfl, rfl⟩

variable {intent : Intent}

/-- The entries of a phase: what is stored is sent where the phase is flat, and what was deferred is sent
again while there is time. -/
theorem entry_of_barPhase {sessionDate : NaiveDate} {barDt : LocalDateTime} {forced : Bool}
    {phase : SessionGapLivePhase}
    (hmem : intent ∈ (s.barPhase ctx sessionDate barDt bar forced phase).2.2)
    (hentry : IsEntry intent) :
    (phase = .flat ∧ (s.barPhase ctx sessionDate barDt bar forced phase).1.pendingEntry = none ∧
        ∃ pending price, s.pendingEntry = some pending ∧
          intent = .place price pending.size (entrySide pending.direction) none) ∨
      ∃ deferred price, phase = .entryDeferredWindowClosed deferred ∧
        intent = .place price deferred.qty deferred.side none ∧ hour barDt < s.config.maxEntryHour ∧
        ∀ sessionEndDt ∈ s.sessionEndDt, barDt.timestamp < sessionEndDt.timestamp := by
  cases phase with
  | flat =>
    refine .inl ⟨rfl, ?_⟩
    simp only [barPhase, barFlat] at hmem ⊢
    split at hmem
    · cases hmem
    · rename_i hwarm
      rw [if_neg hwarm]
      split at hmem
      · cases hmem
      · rename_i pending hpending
        rw [hpending]
        obtain rfl := List.mem_singleton.mp hmem
        exact ⟨rfl, pending, _, rfl, rfl⟩
  | entryDeferredWindowClosed deferred =>
    right
    simp only [barPhase, barEntryDeferred] at hmem
    split at hmem
    · cases hmem
    · rename_i hopen
      rw [Bool.or_eq_true, decide_eq_true_iff, not_or, not_le] at hopen
      obtain rfl := List.mem_singleton.mp hmem
      refine ⟨deferred, _, rfl, rfl, hopen.2, fun sessionEndDt hend => ?_⟩
      by_contra hlate
      exact hopen.1 ((Option.any_eq_true ..).mpr
        ⟨sessionEndDt, hend, decide_eq_true (not_lt.mp hlate)⟩)
  | inPosition phase =>
    simp only [barPhase, barInPosition] at hmem
    split at hmem
    · cases hmem
    · split at hmem
      · obtain rfl := List.mem_singleton.mp hmem
        exact hentry.elim
      · cases hmem
  | exitDeferredWindowClosed phase =>
    simp only [barPhase, barExitDeferred] at hmem
    split at hmem
    · cases hmem
    · obtain rfl := List.mem_singleton.mp hmem
      exact hentry.elim
  | blocked reason tsUtc =>
    simp only [barPhase] at hmem
    split at hmem <;> cases hmem
  | _ => cases hmem

/-! ### Live bars -/

/-- The strategy before a live bar looks at its phase, and whether the test hook armed an entry. -/
def readied (s : SessionGapStandaloneStrategy) (ctx : StrategyCtx) (bar : BarEvent) :
    SessionGapStandaloneStrategy × Bool :=
  let (s', armed) := (updated s bar).maybeForceTestHookEntry s.persistedPhaseOrFlat ctx
    (localTime s.config bar).date
  (if armed then s' else s'.maybeGenerateSignal (localTime s.config bar) bar true, armed)

def handledPhase (s : SessionGapStandaloneStrategy) (armed : Bool) : SessionGapLivePhase :=
  if armed && notWarmed s.persistedPhaseOrFlat then .flat else s.persistedPhaseOrFlat

def handled (s : SessionGapStandaloneStrategy) (ctx : StrategyCtx) (bar : BarEvent) :
    SessionGapStandaloneStrategy × SessionGapLivePhase × List Intent :=
  (readied s ctx bar).1.barPhase ctx (localTime s.config bar).date (localTime s.config bar) bar
    (readied s ctx bar).2 (handledPhase s (readied s ctx bar).2)

theorem onBar_of_handled (h : Acts s ctx bar) :
    quota (s.onBar ctx bar).1 = quota (handled s ctx bar).1 ∧
      (s.onBar ctx bar).1.persistedPhaseOrFlat = (handled s ctx bar).2.1 ∧
      (s.onBar ctx bar).2 = (handled s ctx bar).2.2 := by
  have hphase := (sameCore_updateSession s (localTime s.config bar) bar).phase
  rw [onBar_of_acts h]
  unfold liveBar
  rw [hphase]
  exact ⟨quota_noteTransition _ _ _ _, rfl, rfl⟩

/-- How the strategy is readied: an entry is stored from before, or the test hook arms one, or the bar
signals one. -/
theorem readied_cases (s : SessionGapStandaloneStrategy) (ctx : StrategyCtx) (bar : BarEvent) :
    readied s ctx bar = (updated s bar, false) ∨
      ((readied s ctx bar).2 = true ∧ (readied s ctx bar).1.tradedSession = true ∧
        (s.persistedPhaseOrFlat = .flat ∨ notWarmed s.persistedPhaseOrFlat = true)) ∨
      ∃ direction, Signals (updated s bar) (localTime s.config bar) bar direction ∧
        readied s ctx bar =
          ({ updated s bar with pendingEntry := some ⟨direction, 1⟩, tradedSession := true }, false) := by
  unfold readied
  rcases maybeForceTestHookEntry_cases (updated s bar) s.persistedPhaseOrFlat ctx
    (localTime s.config bar).date with hforced | ⟨hphase, direction, testHook, hforced⟩
  · rw [hforced]
    rcases maybeGenerateSignal_cases (updated s bar) (localTime s.config bar) bar with
      hsignal | ⟨direction, hsignals, hsignal⟩
    · left
      show (maybeGenerateSignal _ _ _ true, false) = _
      rw [hsignal]
    · right
      right
      refine ⟨direction, hsignals, ?_⟩
      show (maybeGenerateSignal _ _ _ true, false) = _
      rw [hsignal]
  · rw [hforced]
    exact .inr (.inl ⟨rfl, rfl, hphase⟩)

theorem isStored_updated (h : (quota s).IsStored) (bar : BarEvent) :
    (quota (updated s bar)).IsStored := by
  rcases quota_updated s bar with ⟨-, hquota⟩ | ⟨-, hquota⟩
  · rw [hquota]
    exact fun hnone => (nomatch hnone)
  · rw [hquota]
    exact h

theorem isStored_readied (h : (quota s).IsStored) (ctx : StrategyCtx) (bar : BarEvent) :
    (quota (readied s ctx bar).1).IsStored := by
  rcases readied_cases s ctx bar with hready | ⟨-, htraded, -⟩ | ⟨direction, -, hready⟩
  · rw [hready]
    exact isStored_updated h bar
  · exact fun _ => htraded
  · rw [hready]
    exact fun _ => rfl

theorem Spends.isStored {s s' : SessionGapStandaloneStrategy} (h : Spends s s')
    (hstored : (quota s).IsStored) : (quota s').IsStored := by
  intro hsome
  refine h.tradedSession.trans (hstored ?_)
  rcases h.pendingEntry with hkept | hspent
  · show s.pendingEntry.isSome = true
    rw [← hkept]
    exact hsome
  · have hsome' : s'.pendingEntry.isSome := hsome
    rw [hspent] at hsome'
    exact (nomatch hsome')

theorem spends_maybeOpenPosition (s : SessionGapStandaloneStrategy) (bar : BarEvent) :
    Spends s (s.maybeOpenPosition bar).1 := by
  unfold maybeOpenPosition
  split
  · exact ⟨rfl, .inr rfl, rfl⟩
  · exact ⟨rfl, .inl rfl, rfl⟩
  all_goals exact ⟨rfl, .inr rfl, rfl⟩

theorem spends_maybeClosePosition (s : SessionGapStandaloneStrategy) (barDt : LocalDateTime)
    (bar : BarEvent) : Spends s (s.maybeClosePosition barDt bar).1 := by
  unfold maybeClosePosition
  split
  · exact ⟨rfl, .inl rfl, rfl⟩
  · split <;> exact ⟨rfl, .inl rfl, rfl⟩

theorem isStored_maybeGenerateSignal (h : (quota s).IsStored) (barDt : LocalDateTime) (bar : BarEvent)
    (forceSingleSize : Bool) : (quota (s.maybeGenerateSignal barDt bar forceSingleSize)).IsStored := by
  unfold maybeGenerateSignal
  repeat' split
  all_goals first | exact h | exact fun _ => rfl

/-- Outside live mode what is stored is traded or forgotten. -/
theorem isStored_simulateBar (h : (quota s).IsStored) (sessionDate : NaiveDate)
    (barDt : LocalDateTime) (bar : BarEvent) :
    (quota (s.simulateBar sessionDate barDt bar).1).IsStored := by
  have hopened := (spends_maybeOpenPosition s bar).isStored h
  have hclosed := (spends_maybeClosePosition (s.maybeOpenPosition bar).1 barDt bar).isStored hopened
  exact isStored_maybeGenerateSignal hclosed barDt bar false

/-- Every event keeps it that a stored entry has used up its session. -/
theorem isStored_answer (h : (quota s).IsStored) (event : LiveEvent) :
    (quota (answer s event).1).IsStored := by
  cases event with
  | bar ctx bar =>
    show (quota (s.onBar ctx bar).1).IsStored
    by_cases hnew : IsNew s bar
    · by_cases hown : IsOwn s.config bar
      · by_cases hmode : ctx.tradeMode = .live
        · cases hblock : shouldBlockLive ctx bar with
          | false =>
            rw [(onBar_of_handled ⟨⟨hown, hnew⟩, hmode, hblock⟩).1]
            exact (spends_barPhase ..).isStored (isStored_readied h ctx bar)
          | true =>
            rw [onBar_of_blocked ⟨hown, hnew⟩ hmode hblock]
            exact isStored_updated h bar
        · rw [onBar_of_simulated ⟨hown, hnew⟩ hmode]
          exact isStored_simulateBar (isStored_updated h bar) _ _ bar
      · rw [onBar_of_not_own hnew hown]
        split_ifs
        · exact h
        · exact h
    · rw [(onBar_of_not_new hnew).2]
      split_ifs <;> exact h
  | ack | order | position | snapshot =>
    rw [quota_answer_of_not_bar (by exact fun _ _ => nofun)]
    exact h

/-- In every run that starts without a stored entry, a stored entry has used up its session. -/
theorem isStored_after (events : List Delivery) (hstart : s.pendingEntry = none) :
    (quota (Reaction.after deliver s events)).IsStored := by
  have hnone : (quota s).IsStored := by
    intro hsome
    have hsome' : s.pendingEntry.isSome := hsome
    rw [hstart] at hsome'
    exact (nomatch hsome')
  refine Reaction.after_invariant (I := fun s => (quota s).IsStored) (C := fun _ _ => True) ?_ hnone
    (.of_forall fun _ _ => trivial)
  intro s d h _
  rw [quota_deliver]
  exact isStored_answer h d.event

/-- A simulated trade is no entry of live mode. -/
theorem not_isEntry_simulateBar (s : SessionGapStandaloneStrategy) (sessionDate : NaiveDate)
    (barDt : LocalDateTime) (bar : BarEvent) :
    ∀ intent ∈ (s.simulateBar sessionDate barDt bar).2, ¬IsEntry intent := by
  intro intent hmem
  have htrades : intent ∈ (s.maybeOpenPosition bar).2 ++
      ((s.maybeOpenPosition bar).1.maybeClosePosition barDt bar).2 := hmem
  rcases List.mem_append.mp htrades with hopens | hcloses
  · rcases maybeOpenPosition_cases s bar with ⟨hnone, -⟩ | ⟨-, position, -, hentry⟩
    · rw [hnone] at hopens
      exact (nomatch hopens)
    · rw [hentry] at hopens
      obtain rfl := List.mem_singleton.mp hopens
      exact id
  · rcases maybeClosePosition_cases (s.maybeOpenPosition bar).1 barDt bar with
      ⟨hnone, -⟩ | ⟨position, fillPrice, -, -, -, hexit⟩
    · rw [hnone] at hcloses
      exact (nomatch hcloses)
    · rw [hexit] at hcloses
      obtain rfl := List.mem_singleton.mp hcloses
      exact id

/-- A bar that is answered by an entry moved the phase. -/
theorem acts_of_entry (hmem : intent ∈ (s.onBar ctx bar).2) (hentry : IsEntry intent) :
    Acts s ctx bar := by
  by_cases hnew : IsNew s bar
  · by_cases hown : IsOwn s.config bar
    · by_cases hmode : ctx.tradeMode = .live
      · cases hblock : shouldBlockLive ctx bar with
        | false => exact ⟨⟨hown, hnew⟩, hmode, hblock⟩
        | true =>
          rw [onBar_of_blocked ⟨hown, hnew⟩ hmode hblock] at hmem
          exact (nomatch hmem)
      · rw [onBar_of_simulated ⟨hown, hnew⟩ hmode] at hmem
        have hmarket := not_isEntry_simulateBar _ _ _ _ intent hmem
        exact absurd hentry hmarket
    · rw [onBar_of_not_own hnew hown] at hmem
      split_ifs at hmem
      all_goals exact (nomatch hmem)
  · rw [(onBar_of_not_new hnew).1] at hmem
    exact (nomatch hmem)

/-! ### Entries that are dropped -/

def SessionGapLivePhase.IsEntryDeferred : SessionGapLivePhase → Prop
  | .entryDeferredWindowClosed _ => True
  | _ => False

/-- The session still has its entry, or keeps it, in the strategy and in what it saved. -/
structure CanStillEnter (s : SessionGapStandaloneStrategy) : Prop where
  live : s.tradedSession = false ∨ s.pendingEntry.isSome ∨ s.persistedPhaseOrFlat.IsEntryDeferred
  saved : ∀ saved ∈ s.state, saved.tradedSession = false ∨ saved.phase.IsEntryDeferred

instance : DecidablePred SessionGapLivePhase.IsEntryDeferred
  | .entryDeferredWindowClosed _ => isTrue trivial
  | .flat => isFalse id
  | .pendingEntry _ => isFalse id
  | .entryRecoveryVerificationPending _ => isFalse id
  | .inPosition _ => isFalse id
  | .pendingExit _ => isFalse id
  | .exitDeferredWindowClosed _ => isFalse id
  | .exitRecoveryPending _ => isFalse id
  | .closeOnlyDegraded _ => isFalse id
  | .blocked _ _ => isFalse id

instance (s : SessionGapStandaloneStrategy) : Decidable (CanStillEnter s) :=
  decidable_of_iff
    ((s.tradedSession = false ∨ s.pendingEntry.isSome ∨ s.persistedPhaseOrFlat.IsEntryDeferred) ∧
      ∀ saved ∈ s.state, saved.tradedSession = false ∨ saved.phase.IsEntryDeferred)
    ⟨fun h => ⟨h.1, h.2⟩, fun h => ⟨h.live, h.saved⟩⟩

/-- Where a bar sends an entry, the phase was that of a deferred one, or the session is used up and nothing
is stored any more. -/
theorem spent_of_entry (hstored : (quota s).IsStored) (hmem : intent ∈ (s.onBar ctx bar).2)
    (hentry : IsEntry intent) :
    s.persistedPhaseOrFlat.IsEntryDeferred ∨
      ¬s.persistedPhaseOrFlat.IsEntryDeferred ∧ (s.onBar ctx bar).1.tradedSession = true ∧
        (s.onBar ctx bar).1.pendingEntry = none := by
  obtain ⟨hquota, -, hintents⟩ := onBar_of_handled (acts_of_entry hmem hentry)
  have hspends : Spends (readied s ctx bar).1 (handled s ctx bar).1 := spends_barPhase ..
  have htraded : (s.onBar ctx bar).1.tradedSession = (handled s ctx bar).1.tradedSession :=
    congrArg Quota.tradedSession hquota
  have hpending : (s.onBar ctx bar).1.pendingEntry = (handled s ctx bar).1.pendingEntry :=
    congrArg Quota.pendingEntry hquota
  rw [hintents] at hmem
  rcases entry_of_barPhase hmem hentry with ⟨hflat, hspent, pending, price, hready, -⟩ |
    ⟨deferred, price, hdeferred, -⟩
  · right
    have hstored' := isStored_readied hstored ctx bar
    have hused : (readied s ctx bar).1.tradedSession = true := by
      refine hstored' ?_
      show (readied s ctx bar).1.pendingEntry.isSome = true
      rw [hready]
      rfl
    refine ⟨?_, htraded.trans (hspends.tradedSession.trans hused), hpending.trans hspent⟩
    -- what is handled as flat was flat, or waited for the indicators
    unfold handledPhase at hflat
    split_ifs at hflat with hwarm
    · rw [Bool.and_eq_true] at hwarm
      cases hphase : s.persistedPhaseOrFlat with
      | entryDeferredWindowClosed deferred =>
        rw [hphase] at hwarm
        exact absurd hwarm.2 Bool.false_ne_true
      | _ => exact id
    · rw [hflat]
      exact id
  · left
    unfold handledPhase at hdeferred
    split_ifs at hdeferred
    rw [hdeferred]
    trivial

/-- After an entry that was dropped, the session still has it exactly when it was one that had been
deferred before. -/
theorem canStillEnter_iff (s : SessionGapStandaloneStrategy) (events : List Delivery)
    (ctx : StrategyCtx) (bar : BarEvent) (hstart : s.pendingEntry = none)
    (hentry : ∃ intent ∈ (deliver (Reaction.after deliver s events) ⟨.bar ctx bar, true⟩).2,
      IsEntry intent) :
    CanStillEnter (deliver (Reaction.after deliver s events) ⟨.bar ctx bar, true⟩).1 ↔
      (Reaction.after deliver s events).persistedPhaseOrFlat.IsEntryDeferred := by
  have hstored := isStored_after events hstart
  generalize Reaction.after deliver s events = s at hstored hentry
  obtain ⟨intent, hmem, hentry⟩ := hentry
  have hdropped : (deliver s ⟨.bar ctx bar, true⟩).1 = { (s.onBar ctx bar).1 with state := s.state } := by
    refine if_pos ?_
    show (true && !(s.onBar ctx bar).2.isEmpty) = true
    cases hintents : (s.onBar ctx bar).2 with
    | nil =>
      have hmem' : intent ∈ (s.onBar ctx bar).2 := hmem
      rw [hintents] at hmem'
      exact (nomatch hmem')
    | cons first rest => rfl
  rw [hdropped]
  have hphase : ({ (s.onBar ctx bar).1 with state := s.state } :
      SessionGapStandaloneStrategy).persistedPhaseOrFlat = s.persistedPhaseOrFlat := rfl
  constructor
  · intro hcan
    rcases spent_of_entry hstored hmem hentry with hdeferred | ⟨hdeferred, htraded, hpending⟩
    · exact hdeferred
    · rcases hcan.live with huntraded | hkept | hwaits
      · exact absurd (htraded.symm.trans huntraded) (by decide)
      · have hkept' : (s.onBar ctx bar).1.pendingEntry.isSome := hkept
        rw [hpending] at hkept'
        exact (nomatch hkept')
      · exact hphase ▸ hwaits
  · intro hdeferred
    refine ⟨.inr (.inr hdeferred), fun saved hsaved => .inr ?_⟩
    have hstate : s.state = some saved := hsaved
    unfold persistedPhaseOrFlat at hdeferred
    rw [hstate] at hdeferred
    exact hdeferred

namespace Sample

variable (tsUtc : ℤ)

def delivered (low high close : ℚ) : Delivery where
  event := .bar (Sample.ctx tsUtc 0) { Sample.bar tsUtc with o := close, l := low, h := high, close := close }
  dropped := false

/-- Two sessions that warm the indicators, and the first hours of one that a signal can follow. -/
def warmed : List Delivery :=
  [delivered 1699869540 100 101 100, delivered 1699955940 100 101 100,
    delivered 1700042340 100 101 100, delivered 1700045940 100 100 100,
    delivered 1700049540 100 100 100]

def breakoutBar : BarEvent :=
  { Sample.bar tsUtc with o := 102, l := 102, h := 102, close := 102 }

def unused : SessionGapStandaloneStrategy := new .default ⟨none, false, false⟩

def windowClosed (requestId : Uuid) : CommandAck where
  requestId := requestId
  status := .rejected
  brokerOrderId := none
  brokerOrderIdStr := none
  errorCode := some "trading_window_closed"
  errorMsg := none
  cwsHttpCode := none
  cwsMessage := none
  cwsRequestGuid := none
  processedTsUtc := tsUtc

def refused : List Delivery :=
  warmed ++ [⟨.bar (Sample.ctx 1700053140 0) (breakoutBar 1700053140), false⟩,
    ⟨.ack (Sample.ctx 1700053145 0) (windowClosed 1700053145
      (barRequestId (Sample.ctx 1700053140 0) (breakoutBar 1700053140))), false⟩]

end Sample

/-- An entry that the trading window refused, sent again and dropped. -/
theorem canStillEnter_refused :
    CanStillEnter (deliver (Reaction.after deliver Sample.unused Sample.refused)
      ⟨.bar (Sample.ctx 1700056740 0) (Sample.breakoutBar 1700056740), true⟩).1 :=
  (canStillEnter_iff Sample.unused Sample.refused (Sample.ctx 1700056740 0)
    (Sample.breakoutBar 1700056740) rfl (by decide +kernel)).mpr (by decide +kernel)

/-- The entry of a flat phase, dropped: an hour later the same close enters no more, as it does where no
entry was dropped before. -/
theorem not_canStillEnter_flat :
    (deliver (Reaction.after deliver Sample.unused Sample.warmed)
        ⟨.bar (Sample.ctx 1700053140 0) (Sample.breakoutBar 1700053140), true⟩).2 =
      [.place (10201 / 100) 1 .buy none] ∧
    ¬CanStillEnter (deliver (Reaction.after deliver Sample.unused Sample.warmed)
      ⟨.bar (Sample.ctx 1700053140 0) (Sample.breakoutBar 1700053140), true⟩).1 ∧
    (deliver (Reaction.after deliver Sample.unused (Sample.warmed ++
          [⟨.bar (Sample.ctx 1700053140 0) (Sample.breakoutBar 1700053140), true⟩]))
        ⟨.bar (Sample.ctx 1700056740 0) (Sample.breakoutBar 1700056740), false⟩).2 = [] ∧
    (deliver (Reaction.after deliver Sample.unused (Sample.warmed ++
          [Sample.delivered 1700053140 100 100 100]))
        ⟨.bar (Sample.ctx 1700056740 0) (Sample.breakoutBar 1700056740), false⟩).2 =
      [.place (10201 / 100) 1 .buy none] := by
  decide +kernel

end AlorRs.SessionGap
