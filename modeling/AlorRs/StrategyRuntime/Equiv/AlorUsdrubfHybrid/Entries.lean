import AlorRs.Lib.Reaction
import AlorRs.StrategyRuntime.Equiv.AlorUsdrubfHybrid.Metrics

/-!
# The entries of the USDRUBF strategy

An entry is sent on the date of its signal, and a date has at most one breakout of each side that is
filled.  The time of an entry is looked at where the signal of an MR is evaluated, and nowhere else: a
waiting entry that is sent again and the signal of a breakout may be late (`always_timely`).
-/

namespace AlorRs.AlorUsdrubfHybrid

open AlorUsdrubfHybridStrategy

/-- The times at which an owner may enter: up to the last entry time, or before the forced exit. -/
def AlorUsdrubfHybridConfig.allowsEntry (config : AlorUsdrubfHybridConfig) (owner : Owner)
    (time : NaiveTime) : Bool :=
  match owner with
  | .meanRev => time.le config.mrLastEntryTime
  | .breakout => !config.boEodExitTime.le time

def DayAggregates.wasOn (day : DayAggregates) : PositionSide → Bool
  | .long => day.boWasLongToday
  | .short => day.boWasShortToday

namespace AlorUsdrubfHybridStrategy

def isFree (s : AlorUsdrubfHybridStrategy) : Bool :=
  s.openPosition.isNone && s.pendingEntry.isNone && !s.entryIntentInflight

end AlorUsdrubfHybridStrategy

section Signals

variable {s s' : AlorUsdrubfHybridStrategy} {ctx : StrategyCtx} {bar : BarEvent}
  {rs : ResearchSnapshot} {signal : PendingEntry}

/-! ### Signals -/

theorem evaluateSignalResearch_congr (h : s'.config = s.config) :
    s'.evaluateSignalResearch rs = s.evaluateSignalResearch rs := by
  unfold evaluateSignalResearch evaluateMrFromSnapshot evaluateBoFromSnapshot boEntry
    configuredLiveTargetQty
  rw [h]

/-- An MR signal is in time, and a breakout is the first of its side. -/
theorem of_evaluateSignalResearch (h : s.evaluateSignalResearch rs = some signal) :
    (signal.owner = .meanRev ∧ rs.localDt.time.le s.config.mrLastEntryTime = true) ∨
      (signal.owner = .breakout ∧ (signal.side = .long ∧ rs.boWasLongToday = false ∨
          signal.side = .short ∧ rs.boWasShortToday = false)) := by
  rcases Option.or_eq_some_iff.mp h with hmr | ⟨-, hbo⟩
  · left
    unfold evaluateMrFromSnapshot at hmr
    dsimp only at hmr
    split_ifs at hmr with hlate
    rw [Bool.not_eq_true', Bool.not_eq_false] at hlate
    split at hmr
    · cases hmr
    · split_ifs at hmr
      obtain rfl := Option.some.inj hmr
      exact ⟨rfl, hlate⟩
  · right
    unfold evaluateBoFromSnapshot boEntry at hbo
    split at hbo
    · dsimp only at hbo
      split_ifs at hbo with _ _ hlong hshort
      · obtain rfl := Option.some.inj hbo
        simp only [Bool.and_eq_true, Bool.not_eq_true'] at hlong
        exact ⟨rfl, .inl ⟨rfl, hlong.1.2⟩⟩
      · obtain rfl := Option.some.inj hbo
        simp only [Bool.and_eq_true, Bool.not_eq_true'] at hshort
        exact ⟨rfl, .inr ⟨rfl, hshort.1.2⟩⟩
    · cases hbo

/-- What a live bar makes of the day and of the pending entry: nothing, or a free strategy accepts a
signal. -/
inductive Accepts (rs : ResearchSnapshot) (s s' : AlorUsdrubfHybridStrategy) : Prop
  | keeps (hday : s'.day = s.day) (hawaited : s'.awaited = s.awaited)
  | accepts (signal : PendingEntry) (hfree : s.isFree = true)
    (heval : s.evaluateSignalResearch rs = some signal) (hday : s'.day = (s.acceptSignal signal).day)
    (hawaited : s'.awaited = some (signal.owner, signal.side))

theorem Accepts.of_calendar (h : s'.calendar = s.calendar) : Accepts rs s s' :=
  .keeps (congrArg Calendar.day h) (congrArg Calendar.awaited h)

theorem Accepts.of_same {s₁ : AlorUsdrubfHybridStrategy} (h : Accepts rs s₁ s')
    (hcalendar : s₁.calendar = s.calendar) (hfree : s₁.isFree = true → s.isFree = true) :
    Accepts rs s s' := by
  have hconfig : s₁.config = s.config := congrArg Calendar.config hcalendar
  have hsameDay : s₁.day = s.day := congrArg Calendar.day hcalendar
  have hsame : s₁.awaited = s.awaited := congrArg Calendar.awaited hcalendar
  cases h with
  | keeps hday hawaited => exact .keeps (hday.trans hsameDay) (hawaited.trans hsame)
  | accepts signal hfree₁ heval hday hawaited =>
    refine .accepts signal (hfree hfree₁) ?_ ?_ hawaited
    · rw [← evaluateSignalResearch_congr hconfig]
      exact heval
    · rw [hday]
      unfold acceptSignal
      rw [hsameDay]

theorem accepts_lookForSignal (hlive : ctx.tradeMode = .live) :
    Accepts rs s (s.lookForSignal ctx bar rs).1 := by
  unfold lookForSignal
  rw [decide_eq_true hlive, Bool.true_and]
  split_ifs with hfree
  · split
    · exact .of_calendar rfl
    · rename_i signal heval
      have hentry : ((s.acceptSignal signal).maybeEmitLiveEntryIntent bar bar.close).1.calendar =
          (s.acceptSignal signal).calendar := calendar_maybeEmitLiveEntryIntent bar.close
      exact .accepts signal hfree heval (congrArg Calendar.day hentry)
        (congrArg Calendar.awaited hentry)
  · exact .of_calendar rfl

theorem accepts_tradeLiveBar (hlive : ctx.tradeMode = .live) :
    Accepts rs s (s.tradeLiveBar ctx bar rs).1 := by
  have hbrackets : (s.maybeEmitLiveMrBrackets ctx bar.closeTimeUtc).1.calendar = s.calendar :=
    calendar_maybeEmitLiveMrBrackets bar.closeTimeUtc
  obtain ⟨protection, hprotection⟩ := maybeEmitLiveMrBrackets_frame (s := s) ctx bar.closeTimeUtc
  unfold tradeLiveBar
  dsimp only
  split
  · split_ifs
    · exact .of_calendar hbrackets
    · exact .of_calendar ((calendar_maybeEmitLiveExitIntent _ _ _).trans hbrackets)
  · refine (accepts_lookForSignal hlive).of_same ((calendar_maybeEmitLiveEntryIntent _).trans hbrackets) ?_
    rw [hprotection]
    intro hfree
    -- an entry that was sent leaves no room for a signal
    unfold maybeEmitLiveEntryIntent at hfree
    split at hfree
    · exact hfree
    · split_ifs at hfree
      · exact hfree
      · exact hfree
      · unfold sendEntry isFree at hfree
        simp at hfree

theorem accepts_tradeLive (hlive : ctx.tradeMode = .live) :
    Accepts rs s (s.tradeLive ctx bar rs).1 := by
  unfold tradeLive
  dsimp only
  split_ifs
  · exact .of_calendar (calendar_maybeEmitLiveExitIntent _ _ _)
  · exact (accepts_tradeLiveBar hlive).of_same rfl id
  · exact (accepts_tradeLiveBar hlive).of_same rfl id
  · exact .of_calendar (calendar_maybeEmitLiveExitIntent _ _ _)
  all_goals exact (accepts_tradeLiveBar hlive).of_same rfl id

def AlorUsdrubfHybridStrategy.snapshotOf (s : AlorUsdrubfHybridStrategy) (ctx : StrategyCtx)
    (bar : BarEvent) : ResearchSnapshot :=
  (s.entered ctx bar).buildResearchSnapshot bar (s.localTime bar)

theorem accepts_onBar (hlive : ctx.tradeMode = .live) (hadmits : s.admits ctx bar = true) :
    Accepts (s.snapshotOf ctx bar) (s.entered ctx bar) (s.onBar ctx bar).1 := by
  have hgate : (s.gateBar ctx bar).1.calendar = s.calendar := calendar_gateBar
  have hconfig : (s.gateBar ctx bar).1.config = s.config := congrArg Calendar.config hgate
  unfold admits at hadmits
  simp only [Bool.and_eq_true, decide_eq_true_eq, Bool.not_eq_true'] at hadmits
  obtain ⟨⟨hsymbol, hseen⟩, hpasses⟩ := hadmits
  have htrade : (s.gateBar ctx bar).1.tradeBar ctx bar =
      (s.entered ctx bar).tradeLive ctx bar (s.snapshotOf ctx bar) := by
    unfold tradeBar snapshotOf localTime
    rw [if_pos hlive, ← hconfig]
    rfl
  have haccepts : Accepts (s.snapshotOf ctx bar) (s.entered ctx bar)
      ((s.gateBar ctx bar).1.tradeBar ctx bar).1 := by
    rw [htrade]
    exact accepts_tradeLive hlive
  unfold onBar
  rw [if_neg (not_not.mpr hsymbol), if_neg (Bool.eq_false_iff.mp hseen),
    show s.gateBar ctx bar = ((s.gateBar ctx bar).1, true) from Prod.ext rfl hpasses]
  cases haccepts with
  | keeps hday hawaited => exact .keeps hday hawaited
  | accepts signal hfree heval hday hawaited => exact .accepts signal hfree heval hday hawaited

/-- The grip of a bar once it belongs to its day. -/
theorem grip_entered :
    (s.entered ctx bar).grip = if s.startsDay bar then .empty else s.grip := by
  obtain ⟨hgrip, hconfig, hday⟩ := gateBar_spec (s := s) ctx bar
  have hstarts : (s.gateBar ctx bar).1.startsDay bar = s.startsDay bar := by
    unfold startsDay
    rw [hday, hconfig]
  unfold entered
  rw [grip_enterDay, hstarts, hgrip]

theorem config_entered : (s.entered ctx bar).config = s.config := by
  have hgate : (s.gateBar ctx bar).1.calendar = s.calendar := calendar_gateBar
  have hconfig : (s.gateBar ctx bar).1.config = s.config := congrArg Calendar.config hgate
  rw [← hconfig]
  unfold entered enterDay
  split_ifs <;> rfl

theorem awaited_of_grip (h : s'.grip.pending = s.grip.pending) : s'.awaited = s.awaited :=
  congrArg (Option.map fun pending : PendingEntry => (pending.owner, pending.side)) h

/-! ### The orders of an entry -/

def IsEntryOf (symbol : String) (owner : Owner) (intent : Intent) : Prop :=
  marketComment intent.baseIntent = some (symbol ++ "|entry|" ++ owner.asStr)

variable {symbol : String} {intents : List Intent}

/-- The entry of a live bar is that of the waiting entry, or of a new signal. -/
theorem BarMove.of_isEntry {g g' : Grip} (h : BarMove symbol g g' intents) {intent : Intent}
    (hmem : intent ∈ intents) (hentry : isEntry symbol intent = true) :
    g.opened = none ∧ g.entry = false ∧ ∃ pending, IsEntryOf symbol pending.owner intent ∧
        (g.pending = some pending ∨
          g.pending = none ∧ ∃ size, g'.pending = some (PendingEntry.sent pending size)) := by
  cases h with
  | hold hquiet | signal _ _ _ hquiet =>
    rw [(hquiet intent hmem).1] at hentry
    cases hentry
  | exit _ _ _ _ hquiet hintent =>
    rcases List.mem_append.mp hmem with hmem | hmem
    · rw [(hquiet intent hmem).1] at hentry
      cases hentry
    · rw [List.mem_singleton.mp hmem, hintent.isEntry] at hentry
      cases hentry
  | @send pending size price hopened hpending hidle =>
    rw [List.mem_singleton.mp hmem]
    exact ⟨hopened, hidle, pending, rfl, .inl hpending⟩
  | enter pending size price hopened hpending hidle =>
    rw [List.mem_singleton.mp hmem]
    exact ⟨hopened, hidle, pending, rfl, .inr ⟨hpending, size, rfl⟩⟩

def NoEntry (symbol : String) (intents : List Intent) : Prop :=
  ∀ intent ∈ intents, isEntry symbol intent = false

theorem NoEntry.of_quiet (h : Quiet symbol intents) : NoEntry symbol intents :=
  fun intent hmem => (h intent hmem).1

theorem NoEntry.of_flattens {exit : Bool} {qty : ℚ} (h : Flattens symbol exit qty intents) :
    NoEntry symbol intents := by
  rcases h with ⟨-, rfl⟩ | ⟨-, before, intent, rfl, hquiet, hintent⟩
  · exact nofun
  · intro intent' hmem
    rcases List.mem_append.mp hmem with hmem | hmem
    · exact (hquiet intent' hmem).1
    · rw [List.mem_singleton.mp hmem]
      exact hintent.isEntry

theorem NoEntry.of_openMove {qty : ℚ} {existing settling : Bool} {g g' : Grip}
    (h : OpenMove symbol qty existing settling g g' intents) : NoEntry symbol intents := by
  cases h with
  | invalid _ hflattens | residual _ _ _ hflattens | changed _ _ _ hflattens =>
    exact .of_flattens hflattens
  | waits | settles | progress => exact nofun
  | adopt _ _ _ _ hquiet => exact .of_quiet hquiet

theorem NoEntry.of_timerMove {qty : ℚ} {due : Bool} {g g' : Grip}
    (h : TimerMove symbol qty due g g' intents) : NoEntry symbol intents := by
  cases h with
  | hold => exact nofun
  | reconcile _ _ hflattens => exact .of_flattens hflattens
  | timeout _ hbefore hflattens =>
    intro intent hmem
    rcases List.mem_append.mp hmem with hmem | hmem
    · exact (hbefore intent hmem).1
    · exact NoEntry.of_flattens hflattens intent hmem
  | giveUp _ _ hquiet => exact .of_quiet hquiet

theorem noEntry_handle (brokerQty : Option ℚ) {e : LiveEvent} (h : ∀ ctx bar, e ≠ .bar ctx bar) :
    NoEntry s.config.symbol (e.handle brokerQty s).2 := by
  cases e with
  | bar ctx bar => exact absurd rfl (h ctx bar)
  | ack ctx ack =>
    show NoEntry s.config.symbol (s.onAck ctx.ctx ack).2
    rw [(onAck_spec ctx.ctx ack).2.1]
    exact nofun
  | order ctx ord nowMs =>
    show NoEntry s.config.symbol (s.onOrder ctx.ctx ord nowMs).2
    rw [(onOrder_spec ctx.ctx ord nowMs).2.1]
    exact nofun
  | stopOrder ctx ord nowMs => exact .of_quiet (onStopOrder_spec ctx.ctx ord nowMs).2.1
  | position ctx pos nowMs =>
    obtain ⟨-, ⟨-, -, hnil⟩ | ⟨-, -, -, hquiet⟩ | ⟨-, -, hmove⟩⟩ :=
      onPosition_spec (s := s) ctx.ctx pos nowMs
    · show NoEntry s.config.symbol (s.onPosition ctx.ctx pos nowMs).2
      rw [hnil]
      exact nofun
    · exact .of_quiet hquiet
    · exact .of_openMove hmove
  | timer ctx nowMs =>
    exact .of_timerMove (onTimer_spec (s := s) { ctx.ctx with positionQty := brokerQty } nowMs).2
  | snapshot | restored | warmup | restart => exact nofun

end Signals

/-! ### Runs -/

/-- An event in time, and whether the runtime drops all that it is answered by; or a restart from the
last saved state. -/
inductive EntryEvent where
  | live (e : LiveEvent) (dropped : Bool) (h : ∀ saved, e ≠ .restart saved)
  | restart

/-- A strategy, the quantity that the broker was last seen with, the date of the last signal, and the
breakouts that were filled. -/
structure EntryRun where
  strategy : AlorUsdrubfHybridStrategy
  brokerQty : Option ℚ
  signalDate : Option NaiveDate
  filled : List (NaiveDate × PositionSide)

namespace EntryRun

def start (config : AlorUsdrubfHybridConfig) : EntryRun := ⟨new config, none, none, []⟩

variable (r : EntryRun) (e : LiveEvent) (s' : AlorUsdrubfHybridStrategy)

def signalDateAfter : Option NaiveDate :=
  match e with
  | .bar _ bar =>
    if s'.awaited.isSome && (r.strategy.awaited.isNone || PositionRun.isNewDay r.strategy e) then
      some (dateOf r.strategy.config bar)
    else r.signalDate
  | _ => r.signalDate

/-- A breakout that waits no more while the broker has a quantity was filled. -/
def filledAfter (brokerQty : Option ℚ) : List (NaiveDate × PositionSide) :=
  match r.strategy.awaited with
  | some (.breakout, side) =>
    if (s'.awaited.isNone || PositionRun.isNewDay r.strategy e) &&
        brokerQty.any fun qty => !decide (|qty| < flatQty) then
      r.filled ++ r.signalDate.toList.map fun date => (date, side)
    else r.filled
  | _ => r.filled

def answered : EntryRun :=
  let s' := (e.handle r.brokerQty r.strategy).1
  let brokerQty := e.brokerQtyAfter r.strategy.config.symbol r.brokerQty
  ⟨s', brokerQty, r.signalDateAfter e s', r.filledAfter e s' brokerQty⟩

/-- An event is answered; where all intents are dropped, the saved state before the event is set
again. -/
def step : EntryEvent → EntryRun × List Intent
  | .live e dropped _ =>
    let intents := (e.handle r.brokerQty r.strategy).2
    if dropped && !intents.isEmpty then
      ({ r with
          strategy := (r.answered e).strategy.setState r.strategy.state
          brokerQty := (r.answered e).brokerQty }, intents)
    else (r.answered e, intents)
  | .restart => ({ r with strategy := r.strategy.reloaded, brokerQty := none }, [])

/-- An entry is that of a bar at a time that its owner allows, on the date of its signal. -/
def IsTimely : EntryEvent → Prop
  | .live e _ _ =>
    ∀ intent ∈ (e.handle r.brokerQty r.strategy).2, isEntry r.strategy.config.symbol intent = true →
      ∃ ctx bar owner, e = .bar ctx bar ∧ IsEntryOf r.strategy.config.symbol owner intent ∧
        r.strategy.config.allowsEntry owner (r.strategy.localTime bar).time = true ∧
        (r.answered e).signalDate = some (dateOf r.strategy.config bar)
  | .restart => True

/-- A bar that is in time for the entry that waits, if it can be sent, and for a breakout that it
signals. -/
def isInTime (s : AlorUsdrubfHybridStrategy) (ctx : StrategyCtx) (bar : BarEvent) : Bool :=
  let time := (s.localTime bar).time
  (s.startsDay bar || s.openPosition.isSome || s.entryIntentInflight ||
      s.pendingEntry.all fun pending => s.config.allowsEntry pending.owner time) &&
    (!(s.entered ctx bar).isFree ||
      ((s.entered ctx bar).evaluateSignalResearch (s.snapshotOf ctx bar)).all fun signal =>
        signal.owner = .meanRev || s.config.allowsEntry .breakout time)

/-- The bars that the strategy looks at are in time, and all bars are in the range of dates. -/
def canEnter : EntryEvent → Bool
  | .live (.bar ctx bar) _ _ =>
    timestampInRange bar.closeTimeUtc &&
      (!r.strategy.admits ctx.ctx bar || isInTime r.strategy ctx.ctx bar)
  | .live (.warmup _ bars) _ _ => bars.all fun bar => timestampInRange bar.closeTimeUtc
  | _ => true

/-! ### What a run keeps -/

/-- A day with the entry that is awaited, the last bar, the date of the last signal, and what was
filled: a breakout that was filled on the date or is awaited cannot be signalled again. -/
structure Fits (config : AlorUsdrubfHybridConfig) (day : DayAggregates)
    (awaited : Option (Owner × PositionSide)) (seen : Option ℤ) (signalDate : Option NaiveDate)
    (filled : List (NaiveDate × PositionSide)) : Prop where
  ordered : ∀ date, day.currentDateLocal = some date → ∀ bar,
    timestampInRange bar.closeTimeUtc = true → isNewer seen bar = true → date ≤ dateOf config bar
  past : ∀ fill ∈ filled, ∃ date, day.currentDateLocal = some date ∧ fill.1 ≤ date ∧
    (fill.1 = date → day.wasOn fill.2 = true)
  awaits : ∀ side, awaited = some (.breakout, side) → day.wasOn side = true
  unfilled : ∀ date side, awaited = some (.breakout, side) → day.currentDateLocal = some date →
    (date, side) ∉ filled
  dated : ∀ entry, awaited = some entry →
    ∃ date, signalDate = some date ∧ day.currentDateLocal = some date

variable {s : AlorUsdrubfHybridStrategy}

namespace Fits

variable {config : AlorUsdrubfHybridConfig} {day : DayAggregates}
  {awaited : Option (Owner × PositionSide)} {seen : Option ℤ} {signalDate : Option NaiveDate}
  {filled : List (NaiveDate × PositionSide)} {bar : BarEvent}

theorem start (config : AlorUsdrubfHybridConfig) : Fits config (.start none) none none none [] where
  ordered := nofun
  past := nofun
  awaits := nofun
  unfilled := nofun
  dated := nofun

theorem mono (h : Fits config day awaited seen signalDate filled) {seen' : Option ℤ}
    (hseen : ∀ bar, isNewer seen' bar = true → isNewer seen bar = true) :
    Fits config day awaited seen' signalDate filled :=
  ⟨fun date hdate bar hbar hnew => h.ordered date hdate bar hbar (hseen bar hnew), h.past, h.awaits,
    h.unfilled, h.dated⟩

theorem settle (h : Fits config day awaited seen signalDate filled) :
    Fits config day none seen signalDate filled :=
  ⟨h.ordered, h.past, nofun, nofun, nofun⟩

variable {side : PositionSide}

theorem fill (h : Fits config day awaited seen signalDate filled)
    (hawaited : awaited = some (.breakout, side)) :
    Fits config day none seen signalDate
      (filled ++ signalDate.toList.map fun date => (date, side)) := by
  obtain ⟨date, rfl, hdate⟩ := h.dated _ hawaited
  refine ⟨h.ordered, ?_, nofun, nofun, nofun⟩
  intro fill hmem
  rcases List.mem_append.mp hmem with hmem | hmem
  · exact h.past fill hmem
  · rw [Option.toList_some, List.map_singleton, List.mem_singleton] at hmem
    rw [hmem]
    exact ⟨date, hdate, le_rfl, fun _ => h.awaits side hawaited⟩

theorem nodup_fill (h : Fits config day awaited seen signalDate filled) (hnodup : filled.Nodup)
    (hawaited : awaited = some (.breakout, side)) :
    (filled ++ signalDate.toList.map fun date => (date, side)).Nodup := by
  obtain ⟨date, rfl, hdate⟩ := h.dated _ hawaited
  rw [Option.toList_some, List.map_singleton]
  refine List.nodup_append'.mpr ⟨hnodup, List.nodup_singleton _, ?_⟩
  rw [List.disjoint_singleton]
  exact h.unfilled date side hawaited hdate

/-- A newer bar belongs to the day, or begins one. -/
theorem enter (h : Fits config day awaited seen signalDate filled)
    (hinRange : timestampInRange bar.closeTimeUtc = true) (hnew : isNewer seen bar = true) :
    Fits config
      ((if day.currentDateLocal = some (dateOf config bar) then day
        else .start (some (dateOf config bar))).update bar (localTimeOf config bar))
      (if day.currentDateLocal = some (dateOf config bar) then awaited else none)
      (some bar.closeTimeUtc) signalDate filled := by
  -- later bars are not of earlier dates
  have hordered : ∀ bar', timestampInRange bar'.closeTimeUtc = true →
      isNewer (some bar.closeTimeUtc) bar' = true → dateOf config bar ≤ dateOf config bar' := by
    intro bar' hbar' hnewer
    refine dateOf_le hinRange hbar' ?_
    by_contra hle
    rw [isNewer_some.mpr (not_le.mp hle).le] at hnewer
    cases hnewer
  by_cases hsame : day.currentDateLocal = some (dateOf config bar)
  · rw [if_pos hsame, if_pos hsame]
    refine ⟨?_, h.past, h.awaits, h.unfilled, h.dated⟩
    intro date hdate
    obtain rfl := Option.some.inj (hsame.symm.trans hdate)
    exact hordered
  · rw [if_neg hsame, if_neg hsame]
    refine ⟨?_, ?_, nofun, nofun, nofun⟩
    · intro date hdate
      obtain rfl : dateOf config bar = date := Option.some.inj hdate
      exact hordered
    · intro fill hmem
      obtain ⟨date, hdate, hle, -⟩ := h.past fill hmem
      -- the date of a fill is over when the day begins
      have hbefore := h.ordered date hdate bar hinRange hnew
      have hne : date ≠ dateOf config bar := fun heq => hsame (heq ▸ hdate)
      refine ⟨dateOf config bar, rfl, hle.trans hbefore, fun heq => absurd ?_ hne⟩
      exact le_antisymm hbefore (heq ▸ hle)

theorem accept (h : Fits config day none seen signalDate filled) (hday : s.day = day)
    {date : NaiveDate} (hdate : day.currentDateLocal = some date) {signal : PendingEntry}
    (hfirst : signal.owner = .breakout → day.wasOn signal.side = false) :
    Fits config (s.acceptSignal signal).day (some (signal.owner, signal.side)) seen (some date)
      filled := by
  subst hday
  have hraised : ∀ side, s.day.wasOn side = true → (s.acceptSignal signal).day.wasOn side = true := by
    intro side hwas
    cases side <;> exact Bool.or_eq_true_iff.mpr (.inl hwas)
  refine ⟨h.ordered, ?_, ?_, ?_, fun _ _ => ⟨date, rfl, hdate⟩⟩
  · intro fill hmem
    obtain ⟨current, hcurrent, hle, hwas⟩ := h.past fill hmem
    exact ⟨current, hcurrent, hle, fun heq => hraised fill.2 (hwas heq)⟩
  · intro side hawaited
    obtain ⟨howner, rfl⟩ := Prod.mk.inj (Option.some.inj hawaited)
    cases hside : signal.side with
    | long | short => exact Bool.or_eq_true_iff.mpr (.inr (by rw [howner, hside]; rfl))
  · intro date' side hawaited hdate' hmem
    obtain ⟨howner, rfl⟩ := Prod.mk.inj (Option.some.inj hawaited)
    obtain ⟨current, hcurrent, -, hwas⟩ := h.past _ hmem
    obtain rfl : date' = current := Option.some.inj (hdate'.symm.trans hcurrent)
    rw [hfirst howner] at hwas
    exact Bool.false_ne_true (hwas rfl)

end Fits

/-- What is filled fits the day, also the saved one. -/
structure Kept (config : AlorUsdrubfHybridConfig) (r : EntryRun) : Prop where
  sameConfig : r.strategy.config = config
  nodup : r.filled.Nodup
  fits : Fits config r.strategy.day r.strategy.awaited r.strategy.lastProcessedBarTs r.signalDate
    r.filled
  saved : ∃ saved, r.strategy.state = some saved ∧ saved.day = r.strategy.day ∧
    saved.awaited = r.strategy.awaited ∧
      Fits config saved.day saved.awaited saved.lastProcessedBarTs r.signalDate r.filled

variable {ctx : LiveCtx}

namespace Kept

variable {config : AlorUsdrubfHybridConfig} {r r' : EntryRun}

theorem start (config : AlorUsdrubfHybridConfig) : Kept config (.start config) :=
  ⟨rfl, .nil, .start config, _, rfl, rfl, rfl, .start config⟩

theorem of_saves (hconfig : r'.strategy.config = config) (hnodup : r'.filled.Nodup)
    (hfits : Fits config r'.strategy.day r'.strategy.awaited r'.strategy.lastProcessedBarTs
      r'.signalDate r'.filled)
    (hsaves : Saves r'.strategy) : Kept config r' := by
  obtain ⟨saved, hstate, hday, hlast, hawaited⟩ := hsaves
  refine ⟨hconfig, hnodup, hfits, saved, hstate, hday, hawaited, ?_⟩
  rw [hday, hlast, hawaited]
  exact hfits

theorem of_unsaved (h : Kept config r) (hconfig : r'.strategy.config = r.strategy.config)
    (hstate : r'.strategy.state = r.strategy.state) (hday : r'.strategy.day = r.strategy.day)
    (hawaited : r'.strategy.awaited = r.strategy.awaited)
    (hseen : ∀ bar, isNewer r'.strategy.lastProcessedBarTs bar = true →
      isNewer r.strategy.lastProcessedBarTs bar = true)
    (hdate : r'.signalDate = r.signalDate) (hfilled : r'.filled = r.filled) : Kept config r' := by
  obtain ⟨saved, hsaved, hsameDay, hsame, hfits⟩ := h.saved
  refine ⟨hconfig.trans h.sameConfig, hfilled ▸ h.nodup, ?_, saved, hstate.trans hsaved,
    hsameDay.trans hday.symm, hsame.trans hawaited.symm, ?_⟩
  · rw [hday, hawaited, hdate, hfilled]
    exact h.fits.mono hseen
  · rw [hdate, hfilled]
    exact hfits

theorem awaited_setState (s : AlorUsdrubfHybridStrategy) (saved : SavedState) :
    (s.setState (some saved)).awaited = saved.awaited := by
  show (s.restoredEntry saved).map _ = saved.awaited
  unfold restoredEntry SavedState.awaited
  cases saved.pendingEntryOwner <;> cases saved.pendingEntrySide <;> rfl

theorem setState (h : Kept config r) (hconfig : s.config = config)
    (hstrategy : r'.strategy = s.setState r.strategy.state) (hdate : r'.signalDate = r.signalDate)
    (hfilled : r'.filled = r.filled) : Kept config r' := by
  obtain ⟨saved, hstate, -, -, hfits⟩ := h.saved
  rw [hstate] at hstrategy
  have hawaited : r'.strategy.awaited = saved.awaited := by
    rw [hstrategy]
    exact awaited_setState s saved
  refine ⟨?_, hfilled ▸ h.nodup, ?_, saved, ?_, ?_, hawaited.symm, ?_⟩
  · rw [hstrategy]
    exact hconfig
  · rw [hawaited, hdate, hfilled, hstrategy]
    exact hfits
  · rw [hstrategy]
    rfl
  · rw [hstrategy]
    rfl
  · rw [hdate, hfilled]
    exact hfits

theorem filledAfter_cases (r : EntryRun) (e : LiveEvent) (s' : AlorUsdrubfHybridStrategy)
    (brokerQty : Option ℚ) :
    r.filledAfter e s' brokerQty = r.filled ∨ ∃ side, r.strategy.awaited = some (.breakout, side) ∧
        (s'.awaited = none ∨ PositionRun.isNewDay r.strategy e = true) ∧
          r.filledAfter e s' brokerQty =
            r.filled ++ r.signalDate.toList.map fun date => (date, side) := by
  unfold filledAfter
  split
  · rename_i side hawaited
    split_ifs with hends
    · rw [Bool.and_eq_true, Bool.or_eq_true, Option.isNone_iff_eq_none] at hends
      exact .inr ⟨side, hawaited, hends.1, rfl⟩
    · exact .inl rfl
  · exact .inl rfl

theorem filledAfter_of_same {e : LiveEvent} {s' : AlorUsdrubfHybridStrategy} (brokerQty : Option ℚ)
    (hawaited : s'.awaited = r.strategy.awaited)
    (hday : PositionRun.isNewDay r.strategy e = false) :
    r.filledAfter e s' brokerQty = r.filled := by
  rcases filledAfter_cases r e s' brokerQty with hsame | ⟨side, hbreakout, hnone | hnewDay, -⟩
  · exact hsame
  · rw [hawaited, hbreakout] at hnone
    cases hnone
  · rw [hday] at hnewDay
    cases hnewDay

theorem nodup_filledAfter (h : Kept config r) (e : LiveEvent) (s' : AlorUsdrubfHybridStrategy)
    (brokerQty : Option ℚ) : (r.filledAfter e s' brokerQty).Nodup := by
  rcases filledAfter_cases r e s' brokerQty with hsame | ⟨side, hawaited, -, hfilled⟩
  · rw [hsame]
    exact h.nodup
  · rw [hfilled]
    exact h.fits.nodup_fill h.nodup hawaited

theorem settle (h : Kept config r) (e : LiveEvent) (s' : AlorUsdrubfHybridStrategy)
    (brokerQty : Option ℚ) :
    Fits config r.strategy.day none r.strategy.lastProcessedBarTs r.signalDate
      (r.filledAfter e s' brokerQty) := by
  rcases filledAfter_cases r e s' brokerQty with hsame | ⟨side, hawaited, -, hfilled⟩
  · rw [hsame]
    exact h.fits.settle
  · rw [hfilled]
    exact h.fits.fill hawaited

theorem broker (h : Kept config r) {e : LiveEvent} (he : e.isOfBroker = true) :
    Kept config (r.answered e) := by
  have hkeeps := keepsDay_handle (s := r.strategy) r.brokerQty he
  have hday : PositionRun.isNewDay r.strategy e = false := by
    cases e with
    | bar ctx bar => cases he
    | _ => rfl
  have hdate : (r.answered e).signalDate = r.signalDate := by
    cases e with
    | bar ctx bar => cases he
    | _ => rfl
  have hsame : (r.answered e).strategy.awaited = r.strategy.awaited → (r.answered e).filled = r.filled :=
    fun hawaited => filledAfter_of_same _ hawaited hday
  rcases hkeeps.state with ⟨hstate, hawaited⟩ | hsaves
  · refine h.of_unsaved hkeeps.config hstate hkeeps.day hawaited ?_ hdate (hsame hawaited)
    intro bar hnew
    rw [← hkeeps.seen]
    exact hnew
  · refine of_saves (hkeeps.config.trans h.sameConfig) (h.nodup_filledAfter e _ _) ?_ hsaves
    rw [show (r.answered e).strategy.day = _ from hkeeps.day, hdate,
      show (r.answered e).strategy.lastProcessedBarTs = _ from hkeeps.seen]
    rcases hkeeps.awaited with hawaited | hnone
    · rw [hsame hawaited, show (r.answered e).strategy.awaited = _ from hawaited]
      exact h.fits
    · rw [show (r.answered e).strategy.awaited = none from hnone]
      exact h.settle e _ _

/-- What some bars of a history leave while nothing is awaited; `counts` tells whether one of them
counts. -/
structure Refits (config : AlorUsdrubfHybridConfig) (s s' : AlorUsdrubfHybridStrategy)
    (signalDate : Option NaiveDate) (filled : List (NaiveDate × PositionSide)) (counts : Bool) :
    Prop where
  fits : Fits config s'.day none s'.lastProcessedBarTs signalDate filled
  state : s'.state = s.state
  day : counts = false → s'.day = s.day
  newer : ∀ b, isNewer s'.lastProcessedBarTs b = true → isNewer s.lastProcessedBarTs b = true

variable {signalDate : Option NaiveDate} {filled : List (NaiveDate × PositionSide)}

theorem refits_warmupBar (hconfig : s.config = config)
    (h : Fits config s.day none s.lastProcessedBarTs signalDate filled) {bar : BarEvent}
    (hinRange : timestampInRange bar.closeTimeUtc = true) :
    Refits config s (s.warmupBar bar).1 signalDate filled (s.warmupBar bar).2 := by
  subst hconfig
  unfold warmupBar
  by_cases hsymbol : bar.symbol ≠ s.config.symbol
  · rw [if_pos hsymbol]
    exact ⟨h, rfl, fun _ => rfl, fun _ hnew => hnew⟩
  rw [if_neg hsymbol]
  by_cases hold : s.lastProcessedBarTs.any (bar.closeTimeUtc ≤ ·) = true
  · rw [if_pos hold]
    exact ⟨h, rfl, fun _ => rfl, fun _ hnew => hnew⟩
  rw [if_neg hold]
  have hnewer : isNewer s.lastProcessedBarTs bar = true := by
    unfold isNewer
    rw [Bool.eq_false_iff.mpr hold, Bool.not_false]
  have hlater : ∀ b : BarEvent, isNewer (some bar.closeTimeUtc) b = true →
      isNewer s.lastProcessedBarTs b = true := fun b => isNewer_trans hnewer
  -- a bar outside the session only moves the time of the last bar
  by_cases hsession : (!s.isModelSessionBar
      (utcToLocal bar.closeTimeUtc s.config.timezoneOffsetHours)) = true
  · dsimp only
    rw [if_pos hsession]
    exact ⟨h.mono hlater, rfl, fun _ => rfl, hlater⟩
  · dsimp only
    rw [if_neg hsession]
    refine ⟨?_, rfl, (nomatch ·), hlater⟩
    have henter := h.enter hinRange hnewer
    rw [ite_self] at henter
    show Fits s.config
      (DayAggregates.update (if s.day.currentDateLocal ≠ some (dateOf s.config bar) then _ else _)
        bar (localTimeOf s.config bar)) none (some bar.closeTimeUtc) signalDate filled
    rwa [ite_not]

theorem refits_warmupBars (bars : List BarEvent) : ∀ {s : AlorUsdrubfHybridStrategy},
    s.config = config → Fits config s.day none s.lastProcessedBarTs signalDate filled →
      (∀ bar ∈ bars, timestampInRange bar.closeTimeUtc = true) →
        Refits config s (s.warmupBars bars).1 signalDate filled
          (decide (0 < (s.warmupBars bars).2)) := by
  induction bars with
  | nil => exact fun _ h _ => ⟨h, rfl, fun _ => rfl, fun _ hnew => hnew⟩
  | cons bar bars ih =>
    intro s hconfig h hinRange
    have hbar := refits_warmupBar hconfig h (hinRange bar (List.mem_cons_self ..))
    obtain ⟨hsame, -⟩ := warms_warmupBar hconfig bar
    have hbars := ih (hsame.sameConfig.trans hconfig) hbar.fits
      fun b hmem => hinRange b (List.mem_cons_of_mem _ hmem)
    refine ⟨hbars.fits, hbars.state.trans hbar.state, ?_,
      fun b hnew => hbar.newer b (hbars.newer b hnew)⟩
    intro hnone
    have hcounts : ¬0 < ((s.warmupBar bar).1.warmupBars bars).2 + (s.warmupBar bar).2.toNat :=
      of_decide_eq_false hnone
    refine (hbars.day (decide_eq_false (by omega))).trans (hbar.day ?_)
    cases hcount : (s.warmupBar bar).2 with
    | false => rfl
    | true =>
      rw [hcount, Bool.toNat_true] at hcounts
      omega

theorem warmup (h : Kept config r) (ctx : LiveCtx) {bars : List BarEvent}
    (hinRange : ∀ bar ∈ bars, timestampInRange bar.closeTimeUtc = true) :
    Kept config (r.answered (.warmup ctx bars)) := by
  obtain ⟨hconfig, hgrip⟩ := warmupFromHistory_spec (s := r.strategy) ctx.ctx bars
  -- a history neither awaits nor fills anything
  have hawaited : (r.answered (.warmup ctx bars)).strategy.awaited = r.strategy.awaited :=
    awaited_of_grip (congrArg Grip.pending hgrip)
  have hfilled : (r.answered (.warmup ctx bars)).filled = r.filled :=
    filledAfter_of_same _ hawaited rfl
  -- the history is skipped while an entry or a position is there
  cases hbusy : r.strategy.isBusy with
  | true =>
    have hstrategy : (r.answered (.warmup ctx bars)).strategy = r.strategy :=
      warmupFromHistory_of_busy hbusy ctx.ctx bars
    refine h.of_unsaved hconfig (congrArg AlorUsdrubfHybridStrategy.state hstrategy)
      (congrArg AlorUsdrubfHybridStrategy.day hstrategy) hawaited ?_ rfl hfilled
    intro bar hnew
    rw [hstrategy] at hnew
    exact hnew
  | false =>
    have hnone : r.strategy.awaited = none := by
      unfold isBusy at hbusy
      rw [Bool.or_eq_false_iff, Option.isSome_eq_false_iff, Option.isNone_iff_eq_none] at hbusy
      unfold AlorUsdrubfHybridStrategy.awaited
      rw [hbusy.1]
      rfl
    have hfits := h.fits
    rw [hnone] at hfits
    have hrefits := refits_warmupBars bars h.sameConfig hfits hinRange
    have hanswer : (r.answered (.warmup ctx bars)).strategy =
        if 0 < (r.strategy.warmupBars bars).2 then
          ({ (r.strategy.warmupBars bars).1 with
            lifecycleStage := "warmed_up" } : AlorUsdrubfHybridStrategy).syncState
        else (r.strategy.warmupBars bars).1 := by
      show (r.strategy.warmupFromHistory ctx.ctx bars).1 = _
      unfold isBusy at hbusy
      unfold warmupFromHistory
      rw [if_neg (Bool.eq_false_iff.mp hbusy)]
      dsimp only
      split_ifs <;> rfl
    by_cases hsome : 0 < (r.strategy.warmupBars bars).2
    · rw [if_pos hsome] at hanswer
      refine of_saves (hconfig.trans h.sameConfig) (hfilled ▸ h.nodup) ?_ (hanswer ▸ saves_syncState _)
      rw [hawaited, hnone, hfilled, hanswer]
      exact hrefits.fits
    · rw [if_neg hsome] at hanswer
      refine h.of_unsaved hconfig ?_ ?_ hawaited ?_ rfl hfilled
      · rw [hanswer]
        exact hrefits.state
      · rw [hanswer]
        exact hrefits.day (decide_eq_false hsome)
      · rw [hanswer]
        exact hrefits.newer

theorem bar_of_not_admits (h : Kept config r) (ctx : LiveCtx) {bar : BarEvent}
    (hadmits : r.strategy.admits ctx.ctx bar = false) :
    Kept config (r.answered (.bar ctx bar)) := by
  obtain ⟨hgrip, -⟩ := onBar_of_not_admits hadmits
  have hawaited : (r.answered (.bar ctx bar)).strategy.awaited = r.strategy.awaited :=
    awaited_of_grip (congrArg Grip.pending hgrip)
  -- no day begins, so no fill is forgotten
  have hday : PositionRun.isNewDay r.strategy (.bar ctx bar) = false := by
    show (r.strategy.admits ctx.ctx bar && r.strategy.startsDay bar) = false
    rw [hadmits, Bool.false_and]
  have hfilled : (r.answered (.bar ctx bar)).filled = r.filled := filledAfter_of_same _ hawaited hday
  have hdate : (r.answered (.bar ctx bar)).signalDate = r.signalDate := by
    unfold answered signalDateAfter
    dsimp only
    rw [show ((LiveEvent.bar ctx bar).handle r.brokerQty r.strategy).1.awaited = _ from hawaited, hday,
      Bool.or_false, if_neg]
    cases r.strategy.awaited <;> exact Bool.false_ne_true
  -- an old bar is not looked at, a newer one is marked as seen
  by_cases hold : bar.symbol ≠ r.strategy.config.symbol ∨
      r.strategy.lastProcessedBarTs.any (bar.closeTimeUtc ≤ ·) = true
  · have hstrategy : (r.answered (.bar ctx bar)).strategy = r.strategy :=
      congrArg Prod.fst (onBar_of_old hold)
    refine h.of_unsaved (congrArg AlorUsdrubfHybridStrategy.config hstrategy)
      (congrArg AlorUsdrubfHybridStrategy.state hstrategy)
      (congrArg AlorUsdrubfHybridStrategy.day hstrategy) hawaited ?_ hdate hfilled
    intro b hnew
    rw [hstrategy] at hnew
    exact hnew
  · obtain ⟨hsymbol, hseen⟩ := not_or.mp hold
    rw [Bool.not_eq_true] at hseen
    have hsees : SeesBar r.strategy ctx.ctx bar (r.answered (.bar ctx bar)).strategy :=
      seesBar_onBar (not_not.mp hsymbol) hseen
    have hrefused : (r.strategy.gateBar ctx.ctx bar).2 = false := by
      unfold admits at hadmits
      rw [decide_eq_true (not_not.mp hsymbol), hseen, Bool.not_false, Bool.true_and,
        Bool.true_and] at hadmits
      exact hadmits
    refine of_saves (hsees.config.trans h.sameConfig) (hfilled ▸ h.nodup) ?_ hsees.saves
    rw [hsees.refused hrefused, hawaited, hsees.seen, hdate, hfilled]
    refine h.fits.mono fun b hnew => isNewer_trans ?_ hnew
    unfold isNewer
    rw [hseen, Bool.not_false]

/-- A bar that the strategy looks at, and the signal that it may accept. -/
structure Entered (config : AlorUsdrubfHybridConfig) (r : EntryRun) (ctx : LiveCtx) (bar : BarEvent) :
    Prop where
  accepts : Accepts (r.strategy.snapshotOf ctx.ctx bar) (r.strategy.entered ctx.ctx bar)
    (r.answered (.bar ctx bar)).strategy
  awaited : (r.strategy.entered ctx.ctx bar).awaited =
    if r.strategy.startsDay bar then none else r.strategy.awaited
  date : (r.strategy.entered ctx.ctx bar).day.currentDateLocal = some (dateOf config bar)
  fits : Fits config (r.strategy.entered ctx.ctx bar).day (r.strategy.entered ctx.ctx bar).awaited
    (some bar.closeTimeUtc) r.signalDate (r.answered (.bar ctx bar)).filled

theorem entered (h : Kept config r) (ctx : LiveCtx) {bar : BarEvent}
    (hadmits : r.strategy.admits ctx.ctx bar = true)
    (hinRange : timestampInRange bar.closeTimeUtc = true) : Entered config r ctx bar := by
  have haccepts : Accepts (r.strategy.snapshotOf ctx.ctx bar) (r.strategy.entered ctx.ctx bar)
      (r.answered (.bar ctx bar)).strategy := accepts_onBar ctx.live hadmits
  have hgrip : (r.strategy.entered ctx.ctx bar).grip.pending = _ := congrArg Grip.pending grip_entered
  -- a new day drops what was awaited
  have hawaited : (r.strategy.entered ctx.ctx bar).awaited =
      if r.strategy.startsDay bar then none else r.strategy.awaited := by
    have hpending : (r.strategy.entered ctx.ctx bar).pendingEntry = _ := hgrip
    unfold AlorUsdrubfHybridStrategy.awaited
    rw [hpending]
    split_ifs <;> rfl
  have hstarts : r.strategy.startsDay bar =
      decide (r.strategy.day.currentDateLocal ≠ some (dateOf config bar)) := by
    rw [← h.sameConfig]
    rfl
  have hday : (r.strategy.entered ctx.ctx bar).day =
      (if r.strategy.day.currentDateLocal = some (dateOf config bar) then r.strategy.day
        else .start (some (dateOf config bar))).update bar (localTimeOf config bar) := by
    rw [day_entered, ← h.sameConfig]
    rfl
  have hnew : isNewer r.strategy.lastProcessedBarTs bar = true := by
    unfold admits at hadmits
    simp only [Bool.and_eq_true] at hadmits
    exact hadmits.1.2
  refine ⟨haccepts, hawaited, ?_, ?_⟩
  · rw [hday]
    split_ifs with hsame
    · exact hsame
    · rfl
  · rw [hawaited, hday, hstarts]
    by_cases hsame : r.strategy.day.currentDateLocal = some (dateOf config bar)
    · -- on the same date what is awaited stays, or a signal takes its place
      have hfilled : (r.answered (.bar ctx bar)).filled = r.filled := by
        rcases filledAfter_cases r (.bar ctx bar) (r.answered (.bar ctx bar)).strategy
          ((LiveEvent.bar ctx bar).brokerQtyAfter r.strategy.config.symbol r.brokerQty) with
          hsameFilled | ⟨side, hbreakout, hends, -⟩
        · exact hsameFilled
        · exfalso
          rw [hstarts, decide_eq_false (not_not.mpr hsame), if_neg Bool.false_ne_true, hbreakout]
            at hawaited
          rcases hends with hnone | hnewDay
          · cases haccepts with
            | keeps _ hkept =>
              rw [hnone, hawaited] at hkept
              cases hkept
            | accepts _ _ _ _ hsignal =>
              rw [hnone] at hsignal
              cases hsignal
          · change (r.strategy.admits ctx.ctx bar && r.strategy.startsDay bar) = true at hnewDay
            rw [hstarts, decide_eq_false (not_not.mpr hsame), Bool.and_false] at hnewDay
            cases hnewDay
      have henter := h.fits.enter hinRange hnew
      rw [if_pos hsame, if_pos hsame] at henter
      rw [decide_eq_false (not_not.mpr hsame), if_neg Bool.false_ne_true, if_pos hsame, hfilled]
      exact henter
    -- a new day begins after the fills are settled
    · have henter := (h.settle (.bar ctx bar) (r.answered (.bar ctx bar)).strategy
        ((LiveEvent.bar ctx bar).brokerQtyAfter r.strategy.config.symbol r.brokerQty)).enter hinRange hnew
      rw [if_neg hsame, if_neg hsame] at henter
      rw [decide_eq_true hsame, if_pos rfl, if_neg hsame]
      exact henter

theorem signalDate_of_new (h : Kept config r) {bar : BarEvent}
    (hadmits : r.strategy.admits ctx.ctx bar = true)
    (hnone : r.strategy.startsDay bar = true ∨ r.strategy.awaited = none)
    (hsome : (r.answered (.bar ctx bar)).strategy.awaited.isSome = true) :
    (r.answered (.bar ctx bar)).signalDate = some (dateOf config bar) := by
  have hnew : (r.strategy.awaited.isNone || (r.strategy.admits ctx.ctx bar && r.strategy.startsDay bar))
      = true := by
    rw [hadmits, Bool.true_and]
    rcases hnone with hstarts | hnone
    · rw [hstarts, Bool.or_true]
    · rw [hnone]
      rfl
  show (if _ && (r.strategy.awaited.isNone ||
    (r.strategy.admits ctx.ctx bar && r.strategy.startsDay bar)) then _ else _) = _
  rw [hnew, Bool.and_true, ← h.sameConfig]
  exact if_pos hsome

theorem signalDate_of_old {bar : BarEvent} (hstarts : r.strategy.startsDay bar = false)
    (hsome : r.strategy.awaited.isSome = true) :
    (r.answered (.bar ctx bar)).signalDate = r.signalDate := by
  show (if _ && (r.strategy.awaited.isNone ||
    (r.strategy.admits ctx.ctx bar && r.strategy.startsDay bar)) then _ else _) = _
  rw [hstarts, Bool.and_false, Option.isNone_eq_false_iff.mpr hsome, Bool.or_false, Bool.and_false]
  rfl

/-- A bar that the strategy looks at keeps what is filled. -/
theorem bar_of_admits (h : Kept config r) (ctx : LiveCtx) {bar : BarEvent}
    (hadmits : r.strategy.admits ctx.ctx bar = true)
    (hinRange : timestampInRange bar.closeTimeUtc = true) :
    Kept config (r.answered (.bar ctx bar)) := by
  obtain ⟨haccepts, hawaited, hdate, hfits⟩ := h.entered ctx hadmits hinRange
  have hparts := hadmits
  unfold admits at hparts
  simp only [Bool.and_eq_true, decide_eq_true_eq, Bool.not_eq_true'] at hparts
  have hsees : SeesBar r.strategy ctx.ctx bar (r.answered (.bar ctx bar)).strategy :=
    seesBar_onBar hparts.1.1 hparts.1.2
  refine of_saves (hsees.config.trans h.sameConfig) (h.nodup_filledAfter _ _ _) ?_ hsees.saves
  rw [hsees.seen]
  cases haccepts with
  | keeps hday hsame =>
    -- the date of the signal goes with what is still awaited
    have hsignal : (r.answered (.bar ctx bar)).strategy.awaited.isSome = true →
        (r.answered (.bar ctx bar)).signalDate = r.signalDate := by
      intro hsome
      rw [hsame, hawaited] at hsome
      cases hstarts : r.strategy.startsDay bar with
      | true =>
        rw [hstarts, if_pos rfl] at hsome
        cases hsome
      | false =>
        rw [hstarts, if_neg Bool.false_ne_true] at hsome
        exact signalDate_of_old hstarts hsome
    rw [hday, hsame]
    rw [hsame] at hsignal
    refine ⟨hfits.ordered, hfits.past, hfits.awaits, hfits.unfilled, fun entry hentry => ?_⟩
    rw [hsignal (hentry ▸ rfl)]
    exact hfits.dated entry hentry
  | accepts signal hfree heval hday hsignal =>
    have hnone : (r.strategy.entered ctx.ctx bar).awaited = none := by
      unfold isFree at hfree
      simp only [Bool.and_eq_true, Option.isNone_iff_eq_none] at hfree
      unfold AlorUsdrubfHybridStrategy.awaited
      rw [hfree.1.2]
      rfl
    -- a signal needs that nothing is awaited
    have hnew : r.strategy.startsDay bar = true ∨ r.strategy.awaited = none := by
      rw [hawaited] at hnone
      split_ifs at hnone with hstarts
      · exact .inl hstarts
      · exact .inr hnone
    rw [signalDate_of_new h hadmits hnew (hsignal ▸ rfl), hday, hsignal]
    rw [hnone] at hfits
    refine hfits.accept rfl hdate ?_
    intro howner
    -- a breakout signal is the first of its side
    rcases of_evaluateSignalResearch heval with ⟨hmr, -⟩ | ⟨-, ⟨hside, hfirst⟩ | ⟨hside, hfirst⟩⟩
    · rw [howner] at hmr
      cases hmr
    all_goals
      rw [hside]
      exact hfirst

theorem bar (h : Kept config r) (ctx : LiveCtx) {event : BarEvent}
    (hinRange : timestampInRange event.closeTimeUtc = true) :
    Kept config (r.answered (.bar ctx event)) := by
  cases hadmits : r.strategy.admits ctx.ctx event with
  | false => exact h.bar_of_not_admits ctx hadmits
  | true => exact h.bar_of_admits ctx hadmits hinRange

theorem isTimely (h : Kept config r) (ctx : LiveCtx) {bar : BarEvent}
    (hadmits : r.strategy.admits ctx.ctx bar = true)
    (hinRange : timestampInRange bar.closeTimeUtc = true)
    (hinTime : isInTime r.strategy ctx.ctx bar = true) {intent : Intent}
    (hmem : intent ∈ (r.strategy.onBar ctx.ctx bar).2)
    (hentry : isEntry r.strategy.config.symbol intent = true) :
    ∃ owner, IsEntryOf r.strategy.config.symbol owner intent ∧
      r.strategy.config.allowsEntry owner (r.strategy.localTime bar).time = true ∧
        (r.answered (.bar ctx bar)).signalDate = some (dateOf r.strategy.config bar) := by
  obtain ⟨haccepts, hawaited, -, -⟩ := h.entered ctx hadmits hinRange
  obtain ⟨hopened, hidle, pending, howner, hpending⟩ :=
    (onBar_of_admits ctx.live hadmits).of_isEntry hmem hentry
  refine ⟨pending.owner, howner, ?_⟩
  unfold isInTime at hinTime
  rw [Bool.and_eq_true] at hinTime
  obtain ⟨hwaiting, hsignals⟩ := hinTime
  rcases hpending with hold | ⟨hnone, size, hnew⟩
  · -- the entry waited before the bar
    cases hstarts : r.strategy.startsDay bar with
    | true =>
      rw [hstarts, if_pos rfl] at hold
      cases hold
    | false =>
      rw [hstarts, if_neg Bool.false_ne_true] at hold hopened hidle
      have hpending : r.strategy.pendingEntry = some pending := hold
      have hposition : r.strategy.openPosition = none := hopened
      have hflag : r.strategy.entryIntentInflight = false := hidle
      have hsome : r.strategy.awaited = some (pending.owner, pending.side) := by
        unfold AlorUsdrubfHybridStrategy.awaited
        rw [hpending]
        rfl
      constructor
      · rw [hstarts, hposition, hflag, hpending] at hwaiting
        exact hwaiting
      · obtain ⟨date, hdate, hcurrent⟩ := h.fits.dated _ hsome
        rw [signalDate_of_old hstarts (hsome ▸ rfl), hdate, ← hcurrent]
        exact not_not.mp (of_decide_eq_false hstarts)
  · -- the entry is one of a new signal
    have hsome : (r.answered (.bar ctx bar)).strategy.awaited = some (pending.owner, pending.side) := by
      have hpending : (r.answered (.bar ctx bar)).strategy.pendingEntry = some (pending.sent size) :=
        hnew
      unfold AlorUsdrubfHybridStrategy.awaited
      rw [hpending]
      rfl
    have hbefore : r.strategy.startsDay bar = true ∨ r.strategy.awaited = none := by
      cases hstarts : r.strategy.startsDay bar with
      | true => exact .inl rfl
      | false =>
        rw [hstarts, if_neg Bool.false_ne_true] at hnone
        exact .inr (congrArg (Option.map _) hnone)
    refine ⟨?_, h.sameConfig ▸ signalDate_of_new h hadmits hbefore (hsome ▸ rfl)⟩
    cases haccepts with
    | keeps _ hsame =>
      rw [hsome, hawaited] at hsame
      rcases hbefore with hstarts | hnone
      · rw [hstarts, if_pos rfl] at hsame
        cases hsame
      · rw [hnone, ite_self] at hsame
        cases hsame
    | accepts signal hfree heval _ hsignal =>
      rw [hsome] at hsignal
      obtain ⟨hsameOwner, -⟩ := Prod.mk.inj (Option.some.inj hsignal)
      rw [hfree, heval, Bool.not_true, Bool.false_or, Option.all_some] at hsignals
      rw [hsameOwner]
      rcases of_evaluateSignalResearch heval with ⟨hmr, htime⟩ | ⟨hbo, -⟩
      · rw [hmr]
        rw [config_entered] at htime
        exact htime
      · rw [hbo] at hsignals ⊢
        exact hsignals

theorem answered (h : Kept config r) {e : LiveEvent} (hrestart : ∀ saved, e ≠ .restart saved)
    (hinRange : match e with
      | .bar _ bar => timestampInRange bar.closeTimeUtc = true
      | .warmup _ bars => ∀ bar ∈ bars, timestampInRange bar.closeTimeUtc = true
      | _ => True) : Kept config (r.answered e) := by
  cases e with
  | bar ctx event => exact h.bar ctx hinRange
  | warmup ctx bars => exact h.warmup ctx hinRange
  | restart saved => exact absurd rfl (hrestart saved)
  | _ => exact h.broker rfl

theorem step (h : Kept config r) {e : EntryEvent} (hcan : canEnter r e = true) :
    (IsTimely r e ∧ (r.step e).1.filled.Nodup) ∧ Kept config (r.step e).1 := by
  cases e with
  | restart =>
    have hconfig : (new r.strategy.config).config = config := h.sameConfig
    have hkept : Kept config (r.step .restart).1 := h.setState hconfig rfl rfl rfl
    exact ⟨⟨trivial, hkept.nodup⟩, hkept⟩
  | live e dropped hrestart =>
    have hkept : Kept config (r.answered e) := by
      apply h.answered hrestart
      cases e with
      | bar ctx event =>
        unfold canEnter at hcan
        rw [Bool.and_eq_true] at hcan
        exact hcan.1
      | warmup ctx bars =>
        unfold canEnter at hcan
        rw [List.all_eq_true] at hcan
        exact hcan
      | _ => trivial
    have hstep : Kept config (r.step (.live e dropped hrestart)).1 := by
      unfold EntryRun.step
      dsimp only
      split_ifs
      · exact h.setState hkept.sameConfig rfl rfl rfl
      · exact hkept
    -- the state is reset or kept after the callback
    refine ⟨⟨?_, hstep.nodup⟩, hstep⟩
    intro intent hmem hentry
    cases e with
    | bar ctx event =>
      unfold canEnter at hcan
      rw [Bool.and_eq_true, Bool.or_eq_true] at hcan
      obtain ⟨hinRange, hinTime⟩ := hcan
      have hadmits : r.strategy.admits ctx.ctx event = true := by
        by_contra hnot
        obtain ⟨-, hnil⟩ := onBar_of_not_admits (Bool.eq_false_iff.mpr hnot)
        rw [show ((LiveEvent.bar ctx event).handle r.brokerQty r.strategy).2 = [] from hnil] at hmem
        cases hmem
      rw [hadmits, Bool.not_true] at hinTime
      obtain ⟨owner, howner, hallows, hdate⟩ :=
        h.isTimely ctx hadmits hinRange (hinTime.resolve_left Bool.false_ne_true) hmem hentry
      exact ⟨ctx, event, owner, rfl, howner, hallows, hdate⟩
    | _ =>
      rw [noEntry_handle r.brokerQty (fun _ _ heq => by cases heq) intent hmem] at hentry
      cases hentry

end Kept

theorem IsTimely.allows {r : EntryRun} {bar : BarEvent} {dropped : Bool}
    {hrestart : ∀ saved, LiveEvent.bar ctx bar ≠ .restart saved}
    (h : IsTimely r (.live (.bar ctx bar) dropped hrestart)) :
    ((r.strategy.onBar ctx.ctx bar).2.all fun intent =>
      !isEntry r.strategy.config.symbol intent ||
        [Owner.meanRev, .breakout].any fun owner =>
          marketComment intent.baseIntent =
              some (r.strategy.config.symbol ++ "|entry|" ++ owner.asStr) &&
            r.strategy.config.allowsEntry owner (r.strategy.localTime bar).time) = true := by
  rw [List.all_eq_true]
  intro intent hmem
  rw [Bool.or_eq_true, Bool.not_eq_true', ← Bool.not_eq_true]
  rw [← imp_iff_not_or]
  intro hentry
  obtain ⟨_, _, owner, hevent, howner, hallows, -⟩ := h intent hmem hentry
  obtain ⟨rfl, rfl⟩ := LiveEvent.bar.inj hevent
  have hknown : owner ∈ [Owner.meanRev, .breakout] := by
    cases owner <;> decide
  exact List.any_eq_true.mpr ⟨owner, hknown, Bool.and_eq_true_iff.mpr ⟨decide_eq_true howner, hallows⟩⟩

end EntryRun

/-- In a live run whose bars are in time for the entries that wait and for the breakouts that are
signalled, every entry is sent at a time that its owner allows, on the date of its signal, and no date
has two breakouts of one side that are filled. -/
theorem always_timely (config : AlorUsdrubfHybridConfig) (events : List EntryEvent)
    (h : Reaction.Always EntryRun.step (fun r e => EntryRun.canEnter r e = true) (.start config)
      events) :
    Reaction.Always EntryRun.step
      (fun r e => EntryRun.IsTimely r e ∧ (r.step e).1.filled.Nodup) (.start config) events :=
  Reaction.Always.of_invariant (fun _ _ hkept hcan => EntryRun.Kept.step hkept hcan)
    (EntryRun.Kept.start config) h

namespace Sample

def sees (dropped : Bool) (tsUtc : ℤ) (o h l close : ℚ) : EntryEvent :=
  .live (bar tsUtc o h l close) dropped fun _ h => by cases h

variable (tsUtc : ℤ)

def signals : EntryEvent := sees false tsUtc 100 101 99 (10005 / 100)

def waits : EntryEvent := sees false tsUtc 100 100 100 100

def refuses : EntryEvent := .live (rejected tsUtc (.other 1)) false fun _ h => by cases h

def holds (qty : ℚ) (existing : Bool) : EntryEvent :=
  .live (position tsUtc qty existing) false fun _ h => by cases h

/-- An MR entry is dropped, and one is refused and sent again; after a restart and an exit a breakout
is filled. -/
def entering : List EntryEvent :=
  [sees true morning 100 101 99 (10005 / 100), signals (morning + 600), refuses (morning + 601),
    waits (morning + 1200), holds (morning + 1201) (-1) false, .restart,
    holds (morning + 1202) (-1) true, waits cutoff, holds (cutoff + 1) 0 false,
    sees false (cutoff + 600) 100 102 100 102, holds (cutoff + 601) 1 false]

/-- The breakout is filled. -/
example : (Reaction.after EntryRun.step (.start (config true)) entering).filled =
    [(dateOf (config true) ⟨"USDRUBF", cutoff, 100, 100, 100, 100, 1, .live⟩, .long)] := by
  decide +kernel

def lateRetry : List EntryEvent := [signals morning, refuses (morning + 1), waits cutoff]

def evening : ℤ := morning + 52800

def lateBreakout : List EntryEvent := [waits morning, sees false evening 100 102 100 102]

end Sample

/-- Two entries of MR, one of which is sent twice, and one of a breakout. -/
theorem always_timely_entering :
    Reaction.Always EntryRun.step
      (fun r e => EntryRun.IsTimely r e ∧ (r.step e).1.filled.Nodup)
      (.start (Sample.config true)) Sample.entering :=
  always_timely (Sample.config true) Sample.entering (by decide +kernel)

/-- Not every entry is in time: one that is sent again may be late, and so may be a breakout. -/
theorem not_always_timely :
    ¬Reaction.Always EntryRun.step
        (fun r e => EntryRun.IsTimely r e ∧ (r.step e).1.filled.Nodup)
        (.start (Sample.config true)) Sample.lateRetry ∧
      ¬Reaction.Always EntryRun.step
        (fun r e => EntryRun.IsTimely r e ∧ (r.step e).1.filled.Nodup)
        (.start (Sample.config true)) Sample.lateBreakout := by
  constructor
  · intro h
    have hlast := h.2.2.1.1
    exact absurd hlast.allows (by decide +kernel)
  · intro h
    have hlast := h.2.1.1
    exact absurd hlast.allows (by decide +kernel)

end AlorRs.AlorUsdrubfHybrid
