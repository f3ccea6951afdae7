import AlorRs.StrategyRuntime.Equiv.AlorUsdrubfHybrid.ForceExits
import AlorRs.StrategyRuntime.Equiv.AlorUsdrubfHybrid.Simulated

/-!
# What an event does to the day

A `Calendar` is the day of the strategy, the last bar that it has seen, the entry that it waits for and
the saved state.  Only a bar and a history change the day; an answer of the broker ends the wait at most,
and then the state is saved.
-/

namespace AlorRs.AlorUsdrubfHybrid

open AlorUsdrubfHybridStrategy

structure Calendar where
  config : AlorUsdrubfHybridConfig
  day : DayAggregates
  lastProcessedBarTs : Option ℤ
  awaited : Option (Owner × PositionSide)
  state : Option SavedState

namespace AlorUsdrubfHybridStrategy

variable (s : AlorUsdrubfHybridStrategy)

def awaited : Option (Owner × PositionSide) :=
  s.pendingEntry.map fun pending => (pending.owner, pending.side)

def calendar : Calendar :=
  ⟨s.config, s.day, s.lastProcessedBarTs, s.awaited, s.state⟩

def localDate (bar : BarEvent) : NaiveDate := (s.localTime bar).date

end AlorUsdrubfHybridStrategy

def DayAggregates.unflagged (day : DayAggregates) : DayAggregates :=
  { day with boWasLongToday := false, boWasShortToday := false }

section Parts

variable {s : AlorUsdrubfHybridStrategy} {ctx : StrategyCtx} {bar : BarEvent}
  {rs : ResearchSnapshot}

/-! ### The parts of a bar -/

theorem calendar_maybeEmitLiveMrBrackets (barTsUtc : ℤ) :
    (s.maybeEmitLiveMrBrackets ctx barTsUtc).1.calendar = s.calendar := by
  obtain ⟨protection, hprotection⟩ := maybeEmitLiveMrBrackets_frame (s := s) ctx barTsUtc
  rw [hprotection]
  rfl

theorem calendar_maybeEmitLiveExitIntent (reason : String) (exitPrice : ℚ) (barTsUtc : ℤ) :
    (s.maybeEmitLiveExitIntent reason exitPrice barTsUtc).1.calendar = s.calendar := by
  unfold maybeEmitLiveExitIntent
  split
  · rfl
  · split_ifs <;> rfl

theorem calendar_maybeEmitLiveEntryIntent (referencePrice : ℚ) :
    (s.maybeEmitLiveEntryIntent bar referencePrice).1.calendar = s.calendar := by
  unfold maybeEmitLiveEntryIntent
  split
  · rfl
  · rename_i pending hpending
    split_ifs
    · rfl
    · rfl
    · unfold calendar awaited
      rw [hpending]
      rfl

theorem calendar_maybeFillPendingEntry :
    (s.maybeFillPendingEntry bar).1.calendar = { s.calendar with awaited := none } := by
  unfold maybeFillPendingEntry
  split
  · rename_i hpending
    unfold calendar awaited
    rw [hpending]
    rfl
  · rfl

theorem calendar_applyExit (reason : String) (exitPrice : ℚ) :
    (s.applyExit reason exitPrice).1.calendar = s.calendar := by
  unfold applyExit
  split <;> rfl

def Flags (s s' : AlorUsdrubfHybridStrategy) : Prop :=
  s'.calendar = { s.calendar with day := s'.day, awaited := s'.awaited } ∧
    s'.day.unflagged = s.day.unflagged

variable {s' : AlorUsdrubfHybridStrategy}

theorem Flags.of_eq (h : s'.calendar = s.calendar) : Flags s s' := by
  have hday : s'.day = s.day := congrArg Calendar.day h
  have hawaited : s'.awaited = s.awaited := congrArg Calendar.awaited h
  refine ⟨?_, by rw [hday]⟩
  rw [h, hday, hawaited]
  rfl

theorem Flags.settle (h : s'.calendar = { s.calendar with awaited := none }) : Flags s s' := by
  have hday : s'.day = s.day := congrArg Calendar.day h
  have hawaited : s'.awaited = none := congrArg Calendar.awaited h
  refine ⟨?_, by rw [hday]⟩
  rw [h, hday, hawaited]
  rfl

theorem Flags.trans {s₁ s₂ : AlorUsdrubfHybridStrategy} (h : Flags s s₁) (h' : Flags s₁ s₂) :
    Flags s s₂ := by
  refine ⟨?_, h'.2.trans h.2⟩
  rw [h'.1, h.1]

theorem flags_lookForSignal : Flags s (s.lookForSignal ctx bar rs).1 := by
  have hsignal : ∀ signal, Flags s (s.acceptSignal signal) := fun signal => ⟨rfl, rfl⟩
  unfold lookForSignal
  split_ifs with hfree hlive
  · split
    · exact .of_eq rfl
    · exact (hsignal _).trans (.of_eq (calendar_maybeEmitLiveEntryIntent _))
  · split
    · exact .of_eq rfl
    · exact hsignal _
  · exact .of_eq rfl

theorem flags_tradeLiveBar : Flags s (s.tradeLiveBar ctx bar rs).1 := by
  have hbrackets : (s.maybeEmitLiveMrBrackets ctx bar.closeTimeUtc).1.calendar = s.calendar :=
    calendar_maybeEmitLiveMrBrackets bar.closeTimeUtc
  unfold tradeLiveBar
  dsimp only
  split
  · split_ifs
    · exact .of_eq hbrackets
    · exact .of_eq ((calendar_maybeEmitLiveExitIntent _ _ _).trans hbrackets)
  · exact (Flags.of_eq ((calendar_maybeEmitLiveEntryIntent _).trans hbrackets)).trans flags_lookForSignal

theorem flags_tradeLive : Flags s (s.tradeLive ctx bar rs).1 := by
  unfold tradeLive
  dsimp only
  split_ifs
  · exact .of_eq (calendar_maybeEmitLiveExitIntent _ _ _)
  · exact (Flags.of_eq rfl).trans flags_tradeLiveBar
  · exact (Flags.of_eq rfl).trans flags_tradeLiveBar
  · exact .of_eq (calendar_maybeEmitLiveExitIntent _ _ _)
  all_goals exact (Flags.of_eq rfl).trans flags_tradeLiveBar

theorem flags_tradePaper : Flags s (s.tradePaper ctx bar rs).1 := by
  have hfill : Flags s (s.maybeFillPendingEntry bar).1 := .settle calendar_maybeFillPendingEntry
  unfold tradePaper
  dsimp only
  split
  · exact hfill.trans (.of_eq (calendar_applyExit _ _))
  · exact hfill.trans flags_lookForSignal

theorem flags_tradeBar :
    Flags (s.enterDay bar (utcToLocal bar.closeTimeUtc s.config.timezoneOffsetHours))
      (s.tradeBar ctx bar).1 := by
  unfold tradeBar
  split_ifs
  · exact flags_tradeLive
  · exact flags_tradePaper

end Parts

/-! ### Bars -/

def SavedState.awaited (saved : SavedState) : Option (Owner × PositionSide) :=
  saved.pendingEntryOwner.bind fun owner => saved.pendingEntrySide.map fun side => (owner, side)

variable (s : AlorUsdrubfHybridStrategy)

/-- The saved state is of the same day, the same bar and the same entry as the state. -/
def Saves : Prop :=
  ∃ saved, s.state = some saved ∧ saved.day = s.day ∧
    saved.lastProcessedBarTs = s.lastProcessedBarTs ∧ saved.awaited = s.awaited

theorem saves_syncState : Saves s.syncState := by
  refine ⟨_, rfl, rfl, rfl, ?_⟩
  show (s.pendingEntry.map _).bind _ = s.pendingEntry.map _
  cases s.pendingEntry <;> rfl

section Bars

variable {s : AlorUsdrubfHybridStrategy} {ctx : StrategyCtx} {bar : BarEvent}

theorem calendar_gateBar : (s.gateBar ctx bar).1.calendar = s.calendar := by
  obtain ⟨stage, ready, hgate⟩ := gateBar_frame (s := s) ctx bar
  rw [hgate]
  rfl

theorem onBar_of_old (h : bar.symbol ≠ s.config.symbol ∨
    s.lastProcessedBarTs.any (bar.closeTimeUtc ≤ ·) = true) : s.onBar ctx bar = (s, []) := by
  unfold onBar
  by_cases hsymbol : bar.symbol ≠ s.config.symbol
  · rw [if_pos hsymbol]
  · rw [if_neg hsymbol, if_pos (h.resolve_left hsymbol)]

/-- What a newer bar leaves of the calendar. -/
structure SeesBar (s : AlorUsdrubfHybridStrategy) (ctx : StrategyCtx) (bar : BarEvent)
    (s' : AlorUsdrubfHybridStrategy) : Prop where
  config : s'.config = s.config
  seen : s'.lastProcessedBarTs = some bar.closeTimeUtc
  saves : Saves s'
  admitted : (s.gateBar ctx bar).2 = true → s'.day.unflagged = (s.entered ctx bar).day.unflagged
  refused : (s.gateBar ctx bar).2 = false → s'.day = s.day

theorem seesBar_onBar (hsymbol : bar.symbol = s.config.symbol)
    (hnew : s.lastProcessedBarTs.any (bar.closeTimeUtc ≤ ·) = false) :
    SeesBar s ctx bar (s.onBar ctx bar).1 := by
  have hgate : (s.gateBar ctx bar).1.calendar = s.calendar := calendar_gateBar
  unfold onBar
  rw [if_neg (not_not.mpr hsymbol), if_neg (Bool.eq_false_iff.mp hnew)]
  dsimp only
  cases hadmits : (s.gateBar ctx bar).2 with
  | false =>
    rw [if_neg Bool.false_ne_true]
    refine ⟨congrArg Calendar.config hgate, rfl, saves_syncState _, ?_, fun _ => congrArg Calendar.day hgate⟩
    intro h
    rw [hadmits] at h
    cases h
  | true =>
    rw [if_pos rfl]
    have hflags : Flags (s.entered ctx bar) ((s.gateBar ctx bar).1.tradeBar ctx bar).1 :=
      flags_tradeBar
    have hentered : (s.entered ctx bar).config = (s.gateBar ctx bar).1.config := by
      unfold entered enterDay
      split_ifs <;> rfl
    refine ⟨?_, rfl, saves_syncState _, fun _ => hflags.2, ?_⟩
    · exact ((congrArg Calendar.config hflags.1).trans hentered).trans (congrArg Calendar.config hgate)
    · intro h
      rw [hadmits] at h
      cases h

theorem day_entered :
    (s.entered ctx bar).day =
      (if s.day.currentDateLocal = some (s.localDate bar) then s.day else .start (some (s.localDate bar))
        ).update bar (s.localTime bar) := by
  have hgate : (s.gateBar ctx bar).1.calendar = s.calendar := calendar_gateBar
  have hconfig : (s.gateBar ctx bar).1.config = s.config := congrArg Calendar.config hgate
  have hday : (s.gateBar ctx bar).1.day = s.day := congrArg Calendar.day hgate
  unfold entered enterDay localDate localTime
  rw [hconfig]
  dsimp only
  by_cases hsame : s.day.currentDateLocal =
      some (utcToLocal bar.closeTimeUtc s.config.timezoneOffsetHours).date
  · rw [if_pos hsame, if_neg (not_not.mpr (hday ▸ hsame)), hday]
  · rw [if_neg hsame, if_pos (hday ▸ hsame)]
    rfl

end Bars

/-! ### The answers of the broker -/

/-- An event that is neither a bar nor a start of the process. -/
def LiveEvent.isOfBroker : LiveEvent → Bool
  | .bar _ _ | .warmup _ _ | .restart _ => false
  | _ => true

def Settles (s' : AlorUsdrubfHybridStrategy) : Prop :=
  s'.calendar = s.calendar ∨ s'.calendar = { s.calendar with awaited := none }

/-- The day and the bars are left alone.  What ends the wait for an entry is saved. -/
structure KeepsDay (s s' : AlorUsdrubfHybridStrategy) : Prop where
  config : s'.config = s.config
  day : s'.day = s.day
  seen : s'.lastProcessedBarTs = s.lastProcessedBarTs
  awaited : s'.awaited = s.awaited ∨ s'.awaited = none
  state : (s'.state = s.state ∧ s'.awaited = s.awaited) ∨ Saves s'

namespace KeepsDay

variable {s s' : AlorUsdrubfHybridStrategy}

theorem of_eq (h : s'.calendar = s.calendar) : KeepsDay s s' :=
  ⟨congrArg Calendar.config h, congrArg Calendar.day h, congrArg Calendar.lastProcessedBarTs h,
    .inl (congrArg Calendar.awaited h), .inl ⟨congrArg Calendar.state h, congrArg Calendar.awaited h⟩⟩

theorem sync (h : Settles s s') : KeepsDay s s'.syncState := by
  rcases h with h | h
  · exact ⟨congrArg Calendar.config h, congrArg Calendar.day h,
      congrArg Calendar.lastProcessedBarTs h, .inl (congrArg Calendar.awaited h),
      .inr (saves_syncState s')⟩
  · exact ⟨congrArg Calendar.config h, congrArg Calendar.day h,
      congrArg Calendar.lastProcessedBarTs h, .inr (congrArg Calendar.awaited h),
      .inr (saves_syncState s')⟩

end KeepsDay

section Broker

variable {s : AlorUsdrubfHybridStrategy} (ctx : StrategyCtx)

theorem calendar_emitBrokerResidualEmergencyExit (qty : ℚ) (reason : String) :
    (s.emitBrokerResidualEmergencyExit qty reason).1.calendar = s.calendar := by
  unfold emitBrokerResidualEmergencyExit
  split_ifs <;> rfl

theorem keepsDay_onAck (ack : CommandAck) : KeepsDay s (s.onAck ctx ack).1 := by
  have hreject : ∀ s' : AlorUsdrubfHybridStrategy, s'.rejectCommand.calendar = s'.calendar := by
    intro s'
    unfold rejectCommand
    split_ifs <;> rfl
  unfold onAck
  split_ifs
  · exact .sync (.inl (hreject _))
  · exact .of_eq rfl

theorem keepsDay_onOrder (ord : OrderEvent) (nowMs : ℤ) : KeepsDay s (s.onOrder ctx ord nowMs).1 := by
  have hnote : (s.noteOrder ord nowMs).calendar = s.calendar := by
    unfold noteOrder seeTpOrder
    dsimp only
    split_ifs <;> rfl
  have hsettle : ∀ s' : AlorUsdrubfHybridStrategy, s'.settleEntry.calendar = s'.calendar := by
    intro s'
    unfold settleEntry
    split_ifs <;> rfl
  unfold onOrder
  split_ifs
  · exact .sync (.inl ((hsettle _).trans hnote))
  · exact .of_eq rfl

theorem keepsDay_onStopOrder (ord : StopOrderEvent) (nowMs : ℤ) :
    KeepsDay s (s.onStopOrder ctx ord nowMs).1 := by
  unfold onStopOrder
  split_ifs
  · apply KeepsDay.sync
    left
    unfold seeSlOrder
    dsimp only
    split_ifs <;> rfl
  · exact .sync (.inl rfl)

variable (pos : PositionEvent)

theorem settles_adopt : Settles s (s.adopt ctx pos).1 := by
  right
  exact calendar_maybeEmitLiveMrBrackets pos.tsUtc

variable (nowMs : ℤ)

theorem settles_compareBroker : Settles s (s.compareBroker ctx pos nowMs).1 := by
  unfold compareBroker
  split
  · unfold compareOpen
    split_ifs
    · exact .inl rfl
    · exact .inl rfl
    · exact .inl (calendar_emitBrokerResidualEmergencyExit _ _)
    · exact settles_adopt ctx pos
  · split_ifs
    · exact .inl (calendar_emitBrokerResidualEmergencyExit _ _)
    · exact settles_adopt ctx pos

theorem settles_seeOpen : Settles s (s.seeOpen ctx pos nowMs).1 := by
  unfold seeOpen
  split
  · rename_i pending hpending
    split_ifs
    · unfold seePartial
      split_ifs
      · exact .inr (calendar_emitBrokerResidualEmergencyExit _ _)
      · -- the entry keeps its owner and its side
        left
        unfold calendar awaited
        rw [hpending]
        rfl
      · exact settles_compareBroker ctx pos nowMs
    · exact settles_compareBroker ctx pos nowMs
  · exact settles_compareBroker ctx pos nowMs

theorem keepsDay_onPosition : KeepsDay s (s.onPosition ctx pos nowMs).1 := by
  unfold onPosition
  split_ifs with hsymbol hflat
  · exact .of_eq rfl
  · exact .sync (.inl rfl)
  · exact .sync (settles_seeOpen ctx pos nowMs)

theorem keepsDay_onTimer : KeepsDay s (s.onTimer ctx nowMs).1 := by
  have hreconcile : (s.emitBracketReconcileTimeoutExit ctx nowMs).1.calendar = s.calendar := by
    unfold emitBracketReconcileTimeoutExit
    split
    · rfl
    · dsimp only
      split_ifs
      · rfl
      · rfl
      · exact calendar_emitBrokerResidualEmergencyExit _ _
  unfold onTimer
  dsimp only
  split_ifs
  · exact .sync (.inl hreconcile)
  · unfold timeoutPartialEntry
    dsimp only
    split
    · exact .of_eq hreconcile
    · split_ifs
      · refine .sync (.inr ?_)
        rw [← hreconcile]
        exact calendar_emitBrokerResidualEmergencyExit _ _
      · exact .of_eq hreconcile

theorem keepsDay_onBootstrapSnapshot (snapshot : BootstrapSnapshot) :
    KeepsDay s (s.onBootstrapSnapshot ctx snapshot).1 := by
  unfold onBootstrapSnapshot
  apply KeepsDay.sync
  split
  · exact .inl rfl
  · right
    split_ifs
    · unfold flattenSnapshot
      dsimp only
      split_ifs <;> rfl
    · rfl

end Broker

theorem keepsDay_handle {s : AlorUsdrubfHybridStrategy} (brokerQty : Option ℚ) {e : LiveEvent}
    (h : e.isOfBroker = true) : KeepsDay s (e.handle brokerQty s).1 := by
  cases e with
  | ack ctx ack => exact keepsDay_onAck ctx.ctx ack
  | order ctx ord nowMs => exact keepsDay_onOrder ctx.ctx ord nowMs
  | stopOrder ctx ord nowMs => exact keepsDay_onStopOrder ctx.ctx ord nowMs
  | position ctx pos nowMs => exact keepsDay_onPosition ctx.ctx pos nowMs
  | timer ctx nowMs => exact keepsDay_onTimer _ nowMs
  | snapshot ctx told => exact keepsDay_onBootstrapSnapshot ctx.ctx told
  | restored ctx state => exact .sync (.inl rfl)
  | bar | warmup | restart => cases h

end AlorRs.AlorUsdrubfHybrid
