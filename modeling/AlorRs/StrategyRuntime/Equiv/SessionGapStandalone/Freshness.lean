import AlorRs.StrategyRuntime.Equiv.SessionGapStandalone.Entries

/-!
# When the session-gap strategy enters

A live run without the test hook sends an entry at the bar that signalled it, or sends one again that was
refused outside the trading window; both while there is time.  What is stored while the phase is not flat
is sent later, whatever the time: the runs are those in which no flat phase finds an entry from before
(`always_entersFresh`).  In every session at most one entry is sent for the first time.
-/

namespace AlorRs.SessionGap

open SessionGapStandaloneStrategy

/-! ### Refusals -/

/-- An entry waits because it was refused outside the trading window. -/
def SessionGapLivePhase.KnowsRefusal : SessionGapLivePhase → Prop
  | .entryDeferredWindowClosed phase => phase.lastErrorCode = some "trading_window_closed"
  | _ => True

section Refusals

variable {phase : SessionGapLivePhase} {ctx : StrategyCtx}

theorem knowsRefusal_ackPendingEntry (pending : PendingEntryPhase) (ack : CommandAck) :
    (ackPendingEntry pending ack).KnowsRefusal := by
  unfold ackPendingEntry
  split
  · rename_i hclosed
    unfold isWindowClosedRecoverableReject at hclosed
    rw [Bool.and_eq_true, decide_eq_true_iff] at hclosed
    exact hclosed.1
  · split
    · trivial
    · trivial
    · trivial
    · trivial
    · trivial
    · split <;> trivial

theorem knowsRefusal_ackPhase (h : phase.KnowsRefusal) (ack : CommandAck) :
    (ackPhase phase ctx ack).1.KnowsRefusal := by
  cases phase with
  | pendingEntry pending =>
    simp only [ackPhase]
    split
    · exact knowsRefusal_ackPendingEntry pending ack
    · trivial
  | pendingExit pending =>
    simp only [ackPhase, ackPendingExit]
    repeat' split
    all_goals trivial
  | exitRecoveryPending pending =>
    simp only [ackPhase, ackExitRecovery]
    repeat' split
    all_goals trivial
  | _ => exact h

theorem knowsRefusal_orderPhase (h : phase.KnowsRefusal) (order : OrderEvent) :
    (orderPhase phase order).KnowsRefusal := by
  cases phase with
  | entryRecoveryVerificationPending pending =>
    simp only [orderPhase]
    repeat' split
    all_goals trivial
  | _ => exact h

theorem knowsRefusal_positionPhase (h : phase.KnowsRefusal) (position : PositionEvent) (nowTs : ℤ) :
    (positionPhase phase position nowTs).KnowsRefusal := by
  cases phase with
  | entryDeferredWindowClosed phase => exact h
  | _ =>
    simp only [positionPhase]
    repeat' split
    all_goals trivial

theorem knowsRefusal_snapshotPhase (h : phase.KnowsRefusal) (snapshotQty : ℚ) (hasWorkingOrder : Bool)
    (tsUtc : ℤ) : ((snapshotPhase phase snapshotQty hasWorkingOrder tsUtc).getD phase).KnowsRefusal := by
  cases phase with
  | entryDeferredWindowClosed phase => exact h
  | _ =>
    simp only [snapshotPhase]
    repeat' split
    all_goals trivial

theorem knowsRefusal_barPhase {s : SessionGapStandaloneStrategy} {bar : BarEvent}
    (sessionDate : NaiveDate) (barDt : LocalDateTime) (forced : Bool) (phase : SessionGapLivePhase) :
    (s.barPhase ctx sessionDate barDt bar forced phase).2.1.KnowsRefusal := by
  cases phase with
  | flat =>
    simp only [barPhase, barFlat]
    repeat' split
    all_goals trivial
  | entryDeferredWindowClosed phase =>
    simp only [barPhase, barEntryDeferred]
    split <;> trivial
  | inPosition phase =>
    simp only [barPhase, barInPosition]
    repeat' split
    all_goals trivial
  | exitDeferredWindowClosed phase =>
    simp only [barPhase, barExitDeferred]
    split <;> trivial
  | blocked reason tsUtc =>
    simp only [barPhase]
    split <;> trivial
  | _ =>
    simp only [barPhase, barPendingEntry, barEntryRecovery, barPendingExit, barExitRecovery]
    repeat' split
    all_goals trivial

end Refusals

/-- Every event leaves a deferred entry with its refusal. -/
theorem knowsRefusal_answer {s : SessionGapStandaloneStrategy} (h : s.persistedPhaseOrFlat.KnowsRefusal)
    (event : LiveEvent) : (answer s event).1.persistedPhaseOrFlat.KnowsRefusal := by
  have hsettled (tsUtc : ℤ) {next : SessionGapLivePhase → SessionGapLivePhase}
      (hnext : (next s.persistedPhaseOrFlat).KnowsRefusal) :
      (s.settlePhase tsUtc next).persistedPhaseOrFlat.KnowsRefusal := by
    rw [settlePhase_phase]
    split
    · exact hnext
    · trivial
  cases event with
  | bar ctx bar =>
    show (s.onBar ctx bar).1.persistedPhaseOrFlat.KnowsRefusal
    by_cases hnew : IsNew s bar
    · by_cases hown : IsOwn s.config bar
      · have hphase := (sameCore_updateSession s (localTime s.config bar) bar).phase
        by_cases hmode : ctx.tradeMode = .live
        · cases hblock : shouldBlockLive ctx bar with
          | false =>
            rw [(onBar_of_handled ⟨⟨hown, hnew⟩, hmode, hblock⟩).2.1]
            exact knowsRefusal_barPhase _ _ _ _
          | true =>
            rw [onBar_of_blocked ⟨hown, hnew⟩ hmode hblock, persistedPhaseOrFlat_keepPhase, hphase]
            exact h
        · rw [onBar_of_simulated ⟨hown, hnew⟩ hmode, (simulateBar_keeps _ _ _ _).2, hphase]
          exact h
      · rw [onBar_of_not_own hnew hown]
        split_ifs
        · exact h
        · exact h
    · rw [(onBar_of_not_new hnew).2]
      split_ifs <;> exact h
  | ack ctx ack => exact hsettled _ (knowsRefusal_ackPhase h ack)
  | order ctx order => exact hsettled _ (knowsRefusal_orderPhase h order)
  | position ctx position =>
    show (s.onPosition ctx position).1.persistedPhaseOrFlat.KnowsRefusal
    unfold onPosition
    split
    · exact h
    · exact hsettled _ (knowsRefusal_positionPhase h position _)
  | snapshot ctx snapshot =>
    obtain ⟨hasWorkingOrder, hphase⟩ := onBootstrapSnapshot_phase s ctx snapshot
    show (s.onBootstrapSnapshot ctx snapshot).1.persistedPhaseOrFlat.KnowsRefusal
    rw [hphase]
    exact knowsRefusal_snapshotPhase h _ _ _

/-! ### Entries of a session -/

/-- The strategy, and how often it sent an entry for the first time in the session that it is in. -/
structure Counted where
  strategy : SessionGapStandaloneStrategy
  entries : ℕ

namespace Counted

variable {c : Counted} {d : Delivery}

def carried (c : Counted) (bar : BarEvent) : ℕ :=
  if Accepts c.strategy bar ∧ BeginsSession c.strategy bar then 0 else c.entries

variable (s : SessionGapStandaloneStrategy)

def firstEntries (intents : List Intent) : ℕ :=
  if s.persistedPhaseOrFlat.IsEntryDeferred then 0 else intents.countP IsEntry

def count (c : Counted) (d : Delivery) : Counted × List Intent :=
  let (s, intents) := deliver c.strategy d
  let entries := match d.event with
    | .bar _ bar => c.carried bar + firstEntries c.strategy intents
    | _ => c.entries
  (⟨s, entries⟩, intents)

/-- A bar of live mode that finds no entry stored where the phase is flat, unless it begins a session. -/
def FindsNothingStored (c : Counted) (d : Delivery) : Prop :=
  match d.event with
  | .bar ctx bar => ctx.tradeMode = .live ∧
    (Acts c.strategy ctx bar → c.strategy.persistedPhaseOrFlat = .flat →
      ¬BeginsSession c.strategy bar → c.strategy.pendingEntry = none)
  | _ => True

/-- An entry that a bar sends while there is time, as it is signalled or sent again. -/
structure IsTimely (s : SessionGapStandaloneStrategy) (bar : BarEvent) (intent : Intent) : Prop where
  hour : hour (localTime s.config bar) < s.config.maxEntryHour
  beforeEnd : ∀ sessionEndDt ∈ (updated s bar).sessionEndDt,
    (localTime s.config bar).timestamp < sessionEndDt.timestamp
  cause : (∃ direction price, Signals (updated s bar) (localTime s.config bar) bar direction ∧
      intent = .place price 1 (entrySide direction) none) ∨
    ∃ deferred price, s.persistedPhaseOrFlat = .entryDeferredWindowClosed deferred ∧
      deferred.lastErrorCode = some "trading_window_closed" ∧
      intent = .place price deferred.qty deferred.side none

/-- All entries of an event are timely, and at most one of the session was sent for the first time. -/
structure EntersFresh (c : Counted) (d : Delivery) : Prop where
  timely : ∀ intent ∈ (count c d).2, IsEntry intent →
    ∃ ctx bar, d.event = .bar ctx bar ∧ IsTimely c.strategy bar intent
  atMostOne : (count c d).1.entries ≤ 1

/-- What a run keeps. -/
structure Sound (c : Counted) : Prop where
  unforced : c.strategy.testHook.config = none
  stored : (quota c.strategy).IsStored
  refusal : c.strategy.persistedPhaseOrFlat.KnowsRefusal
  atMostOne : c.entries ≤ 1
  spent : 0 < c.entries → c.strategy.tradedSession = true ∧ c.strategy.pendingEntry = none

/-! ### One bar -/

theorem Sound.carried (h : Sound c) {bar : BarEvent} (haccepts : Accepts c.strategy bar) :
    c.carried bar ≤ 1 ∧ (0 < c.carried bar →
      (updated c.strategy bar).tradedSession = true ∧ (updated c.strategy bar).pendingEntry = none) := by
  unfold Counted.carried
  rcases quota_updated c.strategy bar with ⟨hbegins, hquota⟩ | ⟨hbegins, hquota⟩
  · rw [if_pos ⟨haccepts, hbegins⟩]
    exact ⟨by omega, fun hnone => absurd hnone (by omega)⟩
  · rw [if_neg fun hboth => hbegins hboth.2]
    refine ⟨h.atMostOne, fun hspent => ?_⟩
    obtain ⟨htraded, hpending⟩ := h.spent hspent
    exact ⟨(congrArg Quota.tradedSession hquota).trans htraded,
      (congrArg Quota.pendingEntry hquota).trans hpending⟩

theorem readied_of_unforced {s : SessionGapStandaloneStrategy} (h : s.testHook.config = none)
    (ctx : StrategyCtx) (bar : BarEvent) :
    readied s ctx bar = (updated s bar, false) ∨
      ∃ direction, Signals (updated s bar) (localTime s.config bar) bar direction ∧
        readied s ctx bar =
          ({ updated s bar with pendingEntry := some ⟨direction, 1⟩, tradedSession := true }, false) := by
  have hhook : (updated s bar).testHook.config = none := by
    unfold updated
    rw [testHook_updateSession]
    exact h
  rcases readied_cases s ctx bar with hready | ⟨harmed, -, -⟩ | hsignal
  · exact .inl hready
  · refine absurd harmed ?_
    unfold readied
    rw [maybeForceTestHookEntry_of_unforced (.inl hhook)]
    exact Bool.false_ne_true
  · exact .inr hsignal

/-- A phase sends at most one intent. -/
theorem length_barPhase (ctx : StrategyCtx) (bar : BarEvent) (sessionDate : NaiveDate)
    (barDt : LocalDateTime) (forced : Bool) (phase : SessionGapLivePhase) :
    (s.barPhase ctx sessionDate barDt bar forced phase).2.2.length ≤ 1 := by
  have hmove : BarMove ctx bar _ _ _ := barMove_barPhase s sessionDate barDt forced phase
  generalize s.barPhase ctx sessionDate barDt bar forced phase = next at hmove ⊢
  obtain ⟨s', phase', intents⟩ := next
  cases hmove <;> simp

variable {ctx : StrategyCtx}

theorem Sound.acts (h : Sound c) {bar : BarEvent} (hacts : Acts c.strategy ctx bar) :
    (c.carried bar + firstEntries c.strategy (handled c.strategy ctx bar).2.2 ≤ 1 ∧
      (0 < c.carried bar + firstEntries c.strategy (handled c.strategy ctx bar).2.2 →
        (handled c.strategy ctx bar).1.tradedSession = true ∧
          (handled c.strategy ctx bar).1.pendingEntry = none)) := by
  obtain ⟨hcarried, hspent⟩ := h.carried hacts.accepts
  have hready := readied_of_unforced h.unforced ctx bar
  have hstored := isStored_readied h.stored ctx bar
  have hspends : Spends (readied c.strategy ctx bar).1 (handled c.strategy ctx bar).1 :=
    spends_barPhase ..
  have hlength : (handled c.strategy ctx bar).2.2.length ≤ 1 := length_barPhase ..
  have hatMost : firstEntries c.strategy (handled c.strategy ctx bar).2.2 ≤ 1 := by
    unfold firstEntries
    split_ifs
    · omega
    · exact List.countP_le_length.trans hlength
  -- a session that has had its entry is readied for no other
  have hused (hpositive : 0 < c.carried bar) :
      readied c.strategy ctx bar = (updated c.strategy bar, false) := by
    rcases hready with hready | ⟨direction, hsignals, -⟩
    · exact hready
    · exact absurd ((hspent hpositive).1.symm.trans hsignals.untraded) (by decide)
  by_cases hfirst : firstEntries c.strategy (handled c.strategy ctx bar).2.2 = 0
  · rw [hfirst, add_zero]
    refine ⟨hcarried, fun hpositive => ?_⟩
    obtain ⟨htraded, hpending⟩ := hspent hpositive
    have hsame := hused hpositive
    rw [hsame] at hspends
    refine ⟨hspends.tradedSession.trans htraded, ?_⟩
    rcases hspends.pendingEntry with hkept | hnone
    · exact hkept.trans hpending
    · exact hnone
  · -- an entry that is not sent again was stored
    obtain ⟨hnotDeferred, intent, hmem, hentry⟩ : ¬c.strategy.persistedPhaseOrFlat.IsEntryDeferred ∧
        ∃ intent ∈ (handled c.strategy ctx bar).2.2, IsEntry intent := by
      unfold firstEntries at hfirst
      split_ifs at hfirst with hdeferred
      · exact absurd rfl hfirst
      · refine ⟨hdeferred, ?_⟩
        obtain ⟨intent, hmem, hentry⟩ := List.countP_pos_iff.mp (Nat.pos_of_ne_zero hfirst)
        exact ⟨intent, hmem, of_decide_eq_true hentry⟩
    have hunarmed : (readied c.strategy ctx bar).2 = false := by
      rcases hready with hready | ⟨direction, -, hready⟩ <;> rw [hready]
    rcases entry_of_barPhase hmem hentry with ⟨-, hnone, pending, price, hpending, -⟩ |
      ⟨deferred, price, hphase, -⟩
    · have hzero : c.carried bar = 0 := by
        by_contra hpositive
        have hsame := hused (Nat.pos_of_ne_zero hpositive)
        rw [hsame, (hspent (Nat.pos_of_ne_zero hpositive)).2] at hpending
        exact (nomatch hpending)
      have htraded : (readied c.strategy ctx bar).1.tradedSession = true := by
        refine hstored ?_
        show (readied c.strategy ctx bar).1.pendingEntry.isSome = true
        rw [hpending]
        rfl
      rw [hzero, zero_add]
      exact ⟨hatMost, fun _ => ⟨hspends.tradedSession.trans htraded, hnone⟩⟩
    · refine absurd ?_ hnotDeferred
      rw [hunarmed] at hphase
      have hphase' : c.strategy.persistedPhaseOrFlat = .entryDeferredWindowClosed deferred := hphase
      rw [hphase']
      trivial

theorem Sound.bar (h : Sound c) (bar : BarEvent) (hmode : ctx.tradeMode = .live) :
    (c.strategy.onBar ctx bar).1.testHook.config = none ∧
      c.carried bar + firstEntries c.strategy (c.strategy.onBar ctx bar).2 ≤ 1 ∧
      (0 < c.carried bar + firstEntries c.strategy (c.strategy.onBar ctx bar).2 →
        (c.strategy.onBar ctx bar).1.tradedSession = true ∧
          (c.strategy.onBar ctx bar).1.pendingEntry = none) := by
  have hnone : firstEntries c.strategy [] = 0 := by
    unfold firstEntries
    split <;> rfl
  have hpassed (haccepts : ¬Accepts c.strategy bar) : c.carried bar = c.entries :=
    if_neg fun hboth => haccepts hboth.1
  by_cases hnew : IsNew c.strategy bar
  · by_cases hown : IsOwn c.strategy.config bar
    · have hhook : (updated c.strategy bar).testHook.config = none := by
        unfold updated
        rw [testHook_updateSession]
        exact h.unforced
      cases hblock : shouldBlockLive ctx bar with
      | false =>
        have hacts : Acts c.strategy ctx bar := ⟨⟨hown, hnew⟩, hmode, hblock⟩
        obtain ⟨hquota, -, hintents⟩ := onBar_of_handled hacts
        obtain ⟨hcount, hspent⟩ := h.acts hacts
        rw [hintents]
        refine ⟨?_, hcount, fun hpositive => ?_⟩
        · have hspends : Spends (readied c.strategy ctx bar).1 (handled c.strategy ctx bar).1 :=
            spends_barPhase ..
          refine (congrArg (fun q => q.testHook.config) hquota).trans (hspends.testHook.trans ?_)
          rcases readied_of_unforced h.unforced ctx bar with hready | ⟨direction, -, hready⟩
          all_goals
            rw [hready]
            exact hhook
        · obtain ⟨htraded, hpending⟩ := hspent hpositive
          exact ⟨(congrArg Quota.tradedSession hquota).trans htraded,
            (congrArg Quota.pendingEntry hquota).trans hpending⟩
      | true =>
        obtain ⟨hcount, hspent⟩ := h.carried ⟨hown, hnew⟩
        rw [onBar_of_blocked ⟨hown, hnew⟩ hmode hblock, hnone, add_zero]
        exact ⟨hhook, hcount, hspent⟩
    · rw [onBar_of_not_own hnew hown, hpassed fun haccepts => hown haccepts.own]
      split_ifs
      all_goals
        rw [hnone, add_zero]
        exact ⟨h.unforced, h.atMostOne, h.spent⟩
  · obtain ⟨hintents, hsame⟩ : (c.strategy.onBar ctx bar).2 = [] ∧ (c.strategy.onBar ctx bar).1 = _ :=
      onBar_of_not_new hnew
    rw [hintents, hsame, hpassed fun haccepts => hnew haccepts.later, hnone, add_zero]
    split_ifs <;> exact ⟨h.unforced, h.atMostOne, h.spent⟩

theorem Sound.count (h : Sound c) (hlive : FindsNothingStored c d) : Sound (c.count d).1 := by
  have hquota : quota (c.count d).1.strategy = quota (answer c.strategy d.event).1 :=
    quota_deliver c.strategy d
  have hrefusal : (c.count d).1.strategy.persistedPhaseOrFlat.KnowsRefusal := by
    show (deliver c.strategy d).1.persistedPhaseOrFlat.KnowsRefusal
    unfold deliver
    dsimp only
    split
    · exact h.refusal
    · exact knowsRefusal_answer h.refusal d.event
  have hstored : (quota (c.count d).1.strategy).IsStored := by
    rw [hquota]
    exact isStored_answer h.stored d.event
  obtain ⟨hunforced, hcount, hspent⟩ : (answer c.strategy d.event).1.testHook.config = none ∧
      (c.count d).1.entries ≤ 1 ∧ (0 < (c.count d).1.entries →
        (answer c.strategy d.event).1.tradedSession = true ∧
          (answer c.strategy d.event).1.pendingEntry = none) := by
    have hother (hevent : ∀ ctx bar, d.event ≠ .bar ctx bar) (hcount : (c.count d).1.entries = c.entries) :
        (answer c.strategy d.event).1.testHook.config = none ∧
          (c.count d).1.entries ≤ 1 ∧ (0 < (c.count d).1.entries →
            (answer c.strategy d.event).1.tradedSession = true ∧
              (answer c.strategy d.event).1.pendingEntry = none) := by
      have hsame : quota (answer c.strategy d.event).1 = quota c.strategy :=
        quota_answer_of_not_bar hevent
      rw [hcount]
      refine ⟨(congrArg (fun q => q.testHook.config) hsame).trans h.unforced, h.atMostOne,
        fun hpositive => ?_⟩
      obtain ⟨htraded, hpending⟩ := h.spent hpositive
      exact ⟨(congrArg Quota.tradedSession hsame).trans htraded,
        (congrArg Quota.pendingEntry hsame).trans hpending⟩
    obtain ⟨event, dropped⟩ := d
    cases event with
    | bar ctx bar => exact h.bar bar hlive.1
    | ack | order | position | snapshot => exact hother (fun _ _ => nofun) rfl
  exact
    { unforced := (congrArg (fun q => q.testHook.config) hquota).trans hunforced
      stored := hstored
      refusal := hrefusal
      atMostOne := hcount
      spent := fun hpositive =>
        ⟨(congrArg Quota.tradedSession hquota).trans (hspent hpositive).1,
          (congrArg Quota.pendingEntry hquota).trans (hspent hpositive).2⟩ }

/-! ### Timely entries -/

/-- An answer to something else than a bar holds no entry. -/
theorem not_isEntry_of_not_bar {s : SessionGapStandaloneStrategy} {event : LiveEvent}
    (hevent : ∀ ctx bar, event ≠ .bar ctx bar) : ∀ intent ∈ (answer s event).2, ¬IsEntry intent := by
  intro intent hmem
  cases event with
  | bar ctx bar => exact absurd rfl (hevent ctx bar)
  | ack ctx ack =>
    have hmove : AckMove ctx ack s.persistedPhaseOrFlat (s.onAck ctx ack).1.persistedPhaseOrFlat
        (s.onAck ctx ack).2 := (onAck_moves s).2
    have hmem' : intent ∈ (s.onAck ctx ack).2 := hmem
    generalize (s.onAck ctx ack).2 = intents at hmove hmem'
    generalize (s.onAck ctx ack).1.persistedPhaseOrFlat = phase' at hmove
    generalize s.persistedPhaseOrFlat = phase at hmove
    cases hmove with
    | silent => exact (nomatch hmem')
    | retry =>
      obtain rfl := List.mem_singleton.mp hmem'
      exact id
  | order ctx order => exact (nomatch hmem)
  | position ctx position =>
    have hmem' : intent ∈ (s.onPosition ctx position).2 := hmem
    unfold onPosition at hmem'
    split at hmem' <;> exact (nomatch hmem')
  | snapshot ctx snapshot => exact (nomatch hmem)

theorem Sound.timely (h : Sound c) {bar : BarEvent} {dropped : Bool}
    (hlive : FindsNothingStored c ⟨.bar ctx bar, dropped⟩) {intent : Intent}
    (hmem : intent ∈ (c.strategy.onBar ctx bar).2) (hentry : IsEntry intent) :
    IsTimely c.strategy bar intent := by
  have hacts := acts_of_entry hmem hentry
  have hready := readied_of_unforced h.unforced ctx bar
  have hconfig := config_updated c.strategy bar
  rw [(onBar_of_handled hacts).2.2] at hmem
  have hhandled : handled c.strategy ctx bar =
      (readied c.strategy ctx bar).1.barPhase ctx (localTime c.strategy.config bar).date
        (localTime c.strategy.config bar) bar false c.strategy.persistedPhaseOrFlat := by
    unfold handled handledPhase
    rcases hready with hready | ⟨direction, -, hready⟩
    all_goals
      rw [hready]
      rfl
  rw [hhandled] at hmem
  rcases entry_of_barPhase hmem hentry with ⟨hflat, -, pending, price, hpending, rfl⟩ |
    ⟨deferred, price, hphase, rfl, hhour, hend⟩
  · rcases hready with hready | ⟨direction, hsignals, hready⟩
    · -- what is stored from before is not sent
      rw [hready] at hpending
      rcases quota_updated c.strategy bar with ⟨-, hquota⟩ | ⟨hbegins, hquota⟩
      · have hnone : (updated c.strategy bar).pendingEntry = none := congrArg Quota.pendingEntry hquota
        rw [hnone] at hpending
        exact (nomatch hpending)
      · have hsame : (updated c.strategy bar).pendingEntry = c.strategy.pendingEntry :=
          congrArg Quota.pendingEntry hquota
        rw [hsame, hlive.2 hacts hflat hbegins] at hpending
        exact (nomatch hpending)
    · rw [hready] at hpending
      obtain rfl := Option.some.inj hpending
      obtain ⟨sessionEndDt, hsome, hbefore⟩ := hsignals.beforeEnd
      refine ⟨?_, fun sessionEndDt' hmem' => ?_, .inl ⟨direction, price, hsignals, ?_⟩⟩
      · rw [← congrArg SessionGapStandaloneConfig.maxEntryHour hconfig]
        exact hsignals.hour
      · obtain rfl := Option.some.inj (hsome.symm.trans hmem')
        exact hbefore
      · rw [Int.cast_one]
  · have hreadied : (readied c.strategy ctx bar).1.config = c.strategy.config ∧
        (readied c.strategy ctx bar).1.sessionEndDt = (updated c.strategy bar).sessionEndDt := by
      rcases hready with hready | ⟨direction, -, hready⟩
      all_goals
        rw [hready]
        exact ⟨hconfig, rfl⟩
    rw [hreadied.1] at hhour
    rw [hreadied.2] at hend
    have hrefusal := h.refusal
    rw [hphase] at hrefusal
    exact ⟨hhour, hend, .inr ⟨deferred, price, hphase, hrefusal, rfl⟩⟩

/-- In every live run without the test hook in which no flat phase finds an entry stored from before, every
entry is sent in time, and at most one in a session for the first time. -/
theorem always_entersFresh (s : SessionGapStandaloneStrategy) (events : List Delivery)
    (hunforced : s.testHook.config = none) (hpending : s.pendingEntry = none)
    (hrefusal : s.persistedPhaseOrFlat.KnowsRefusal)
    (hlive : Reaction.Always count FindsNothingStored ⟨s, 0⟩ events) :
    Reaction.Always count EntersFresh ⟨s, 0⟩ events := by
  refine Reaction.Always.of_invariant (I := Sound) (fun c d hsound hd => ?_) ?_ hlive
  · have hnext := hsound.count hd
    refine ⟨⟨fun intent hmem hentry => ?_, hnext.atMostOne⟩, hnext⟩
    have hbar : ∃ ctx bar, d.event = .bar ctx bar := by
      by_contra hother
      have hmem' : intent ∈ (answer c.strategy d.event).2 := hmem
      exact not_isEntry_of_not_bar (fun ctx bar hevent => hother ⟨ctx, bar, hevent⟩) intent hmem' hentry
    obtain ⟨event, dropped⟩ := d
    obtain ⟨ctx, bar, rfl⟩ := hbar
    exact ⟨ctx, bar, rfl, hsound.timely hd hmem hentry⟩
  · refine ⟨hunforced, ?_, hrefusal, Nat.zero_le 1, fun hnone => absurd hnone (Nat.lt_irrefl 0)⟩
    exact isStored_after [] hpending

instance (s : SessionGapStandaloneStrategy) (ctx : StrategyCtx) (bar : BarEvent) :
    Decidable (Acts s ctx bar) :=
  decidable_of_iff (Accepts s bar ∧ ctx.tradeMode = .live ∧ shouldBlockLive ctx bar = false)
    ⟨fun h => ⟨h.1, h.2.1, h.2.2⟩, fun h => ⟨h.accepts, h.live, h.passes⟩⟩

instance (c : Counted) (d : Delivery) : Decidable (FindsNothingStored c d) :=
  match d with
  | ⟨.bar ctx bar, _⟩ => inferInstanceAs (Decidable (ctx.tradeMode = .live ∧ (Acts c.strategy ctx bar →
      c.strategy.persistedPhaseOrFlat = .flat → ¬BeginsSession c.strategy bar →
        c.strategy.pendingEntry = none)))
  | ⟨.ack _ _, _⟩ => isTrue trivial
  | ⟨.order _ _, _⟩ => isTrue trivial
  | ⟨.position _ _, _⟩ => isTrue trivial
  | ⟨.snapshot _ _, _⟩ => isTrue trivial

end Counted

namespace Sample

def seen (tsUtc : ℤ) (qty : ℚ) : Delivery where
  event := .position (Sample.ctx tsUtc qty) { Sample.fill tsUtc with qty := qty }
  dropped := false

def held : List Delivery :=
  warmed ++ [seen 1700050000 1, delivered 1700053140 102 102 102, delivered 1700056740 102 102 102,
    delivered 1700060340 102 102 102, delivered 1700063940 102 102 102, seen 1700064900 0]

end Sample

namespace Counted

/-- An entry that was refused, and that the next bar sends again. -/
theorem always_entersFresh_refused :
    Reaction.Always count EntersFresh ⟨Sample.unused, 0⟩
      (Sample.refused ++ [Sample.delivered 1700056740 102 102 102]) :=
  always_entersFresh Sample.unused (Sample.refused ++ [Sample.delivered 1700056740 102 102 102]) rfl rfl
    trivial (by decide +kernel)

/-- At 19:30 an entry is sent that was signalled at 15:59, although entries end at 19:00. -/
theorem not_entersFresh_held :
    (count (Reaction.after count ⟨Sample.unused, 0⟩ Sample.held)
        (Sample.delivered 1700065800 102 102 102)).2 = [.place (10201 / 100) 1 .buy none] ∧
      hour (localTime SessionGapStandaloneConfig.default (Sample.bar 1700065800)) = 19 ∧
      SessionGapStandaloneConfig.default.maxEntryHour = 19 ∧
      ¬EntersFresh (Reaction.after count ⟨Sample.unused, 0⟩ Sample.held)
        (Sample.delivered 1700065800 102 102 102) := by
  have hsent : (count (Reaction.after count ⟨Sample.unused, 0⟩ Sample.held)
      (Sample.delivered 1700065800 102 102 102)).2 = [.place (10201 / 100) 1 .buy none] := by
    decide +kernel
  refine ⟨hsent, by decide +kernel, rfl, ?_⟩
  intro hfresh
  have hmem : .place (10201 / 100) 1 .buy none ∈ (count (Reaction.after count ⟨Sample.unused, 0⟩
      Sample.held) (Sample.delivered 1700065800 102 102 102)).2 := by
    rw [hsent]
    exact List.mem_singleton_self _
  obtain ⟨ctx, bar, hevent, htimely⟩ := hfresh.timely _ hmem trivial
  obtain ⟨rfl, rfl⟩ := LiveEvent.bar.inj hevent
  exact absurd htimely.hour (by decide +kernel)

end Counted

end AlorRs.SessionGap
