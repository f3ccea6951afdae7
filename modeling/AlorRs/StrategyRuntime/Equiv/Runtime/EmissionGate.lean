import AlorRs.StrategyRuntime.Equiv.Runtime.Emission
import Mathlib.Tactic.IntervalCases

/-!
# The gate of live orders

Every command that `applyIntents` publishes in live mode belongs to an intent of the batch that
passes the trading window at the time of dispatch and the last decision of the live guard
(`applyIntents_gated`).  The one way around the silence check is a last bar whose time is beyond
the range of dates, which the window lets through unchecked.  A stop order ends after the session of
the first date that is possible (`computeIntradayStopEndUtc_first`).
-/

namespace AlorRs

open Eff

namespace StrategyRuntime

open RuntimeM

variable {σ P : Type}

/-! ### The trading window -/

variable (config : RuntimeConfig)

/-- The check for silent bars is disabled, or was made and passed. -/
def SilenceChecked (periods : TradingPeriods) (ctx : StrategyCtx) (dispatchTsUtc : ℤ) : Prop :=
  asI64 config.strategy.maxSilenceBarsSec = 0 ∨
  ∃ lastBarTs, ctx.lastBarTs = some lastBarTs ∧
    (schedulerOf config periods).checkSilencePeriodAt dispatchTsUtc lastBarTs
      (asI64 config.strategy.maxSilenceBarsSec) = true

def LastBarOutOfRange (ctx : StrategyCtx) : Prop :=
  ∃ lastBarTs, ctx.lastBarTs = some lastBarTs ∧ timestampInRange lastBarTs = false

variable {ctx : StrategyCtx} {dispatchTsUtc : ℤ}

theorem tradingWindow_entry {config : RuntimeConfig} {periods : TradingPeriods}
    (hperiods : config.strategy.tradingPeriods = some periods)
    (hrange : timestampInRange dispatchTsUtc = true)
    (h : tradingWindowAllowsOrder config ctx dispatchTsUtc .entry = true) :
    (schedulerOf config periods).marketStateUtc dispatchTsUtc = .opened ∧
    (SilenceChecked config periods ctx dispatchTsUtc ∨ LastBarOutOfRange ctx) := by
  unfold tradingWindowAllowsOrder at h
  rw [hperiods] at h
  by_cases hopen : (schedulerOf config periods).marketStateUtc dispatchTsUtc = .opened
  · refine ⟨hopen, ?_⟩
    by_cases hsilence : asI64 config.strategy.maxSilenceBarsSec = 0
    · exact .inl (.inl hsilence)
    · rcases hlast : ctx.lastBarTs with _ | lastBarTs
      · simp [hrange, hopen, hsilence, hlast] at h
      · by_cases hlastRange : timestampInRange lastBarTs = true
        · refine .inl (.inr ⟨lastBarTs, hlast, ?_⟩)
          simpa [hrange, hopen, hsilence, hlast, hlastRange] using h
        · exact .inr ⟨lastBarTs, hlast, by simpa using hlastRange⟩
  · simp [hrange, hopen] at h

/-! ### The gate -/

/-- What holds of a class when a command of it is published; `bars` is what is known of the
bars. -/
structure EmissionGate (config : RuntimeConfig) (ctx : StrategyCtx) (dispatchTsUtc : ℤ)
    (decision : LiveGuardDecision) (bars : TradingPeriods → Prop) (intentClass : IntentClass) :
    Prop where
  entryAllowed : intentClass = .entry → decision.allowed = true
  entryOpen : intentClass = .entry → ∀ periods, config.strategy.tradingPeriods = some periods →
    (schedulerOf config periods).marketStateUtc dispatchTsUtc = .opened
  entryBars : intentClass = .entry → ∀ periods, config.strategy.tradingPeriods = some periods →
    bars periods
  exitOpen : intentClass = .exit → ∀ periods, config.strategy.tradingPeriods = some periods →
    (schedulerOf config periods).marketStateUtc dispatchTsUtc = .opened
  blocked : decision.allowed = false → (∃ qty, ctx.positionQty = some qty ∧ qty ≠ 0) ∧
    (intentClass = .exit ∨ intentClass = .cancelCleanup ∨ intentClass = .protectiveRepair)

/-- The bars are not silent as far as the window can tell. -/
def BarsAccepted (ctx : StrategyCtx) (dispatchTsUtc : ℤ) (periods : TradingPeriods) : Prop :=
  SilenceChecked config periods ctx dispatchTsUtc ∨ LastBarOutOfRange ctx

theorem passesBlockedGuard_iff {intentClass : IntentClass} :
    passesBlockedGuard ctx intentClass = true ↔ (∃ qty, ctx.positionQty = some qty ∧ qty ≠ 0) ∧
      (intentClass = .exit ∨ intentClass = .cancelCleanup ∨ intentClass = .protectiveRepair) := by
  have hqty : 0 < |ctx.positionQty.getD 0| ↔ ∃ qty, ctx.positionQty = some qty ∧ qty ≠ 0 := by
    rw [abs_pos]
    rcases ctx.positionQty with _ | qty <;> simp
  simp only [passesBlockedGuard, guardAllowsIntentWhenBlocked, Bool.and_eq_true, Bool.or_eq_true,
    decide_eq_true_eq, hqty, or_assoc]

theorem exitWindowOpen_iff {config : RuntimeConfig} :
    exitWindowOpen config dispatchTsUtc = true ↔
      ∀ periods, config.strategy.tradingPeriods = some periods →
        (schedulerOf config periods).marketStateUtc dispatchTsUtc = .opened := by
  unfold exitWindowOpen currentMarketState
  rcases config.strategy.tradingPeriods with _ | periods <;> simp

variable {decision : LiveGuardDecision}

/-- An accepted intent that the guard lets through and that is not deferred passes the gate. -/
theorem emissionGate_of_accepted {config : RuntimeConfig} {intents : List Intent}
    {intent : Intent × IntentClass} (hrange : timestampInRange dispatchTsUtc = true)
    (hmem : intent ∈ acceptedIntents config ctx dispatchTsUtc intents)
    (hblocked : decision.allowed = false → passesBlockedGuard ctx intent.2 = true)
    (hexit : intent.2 = .exit → exitWindowOpen config dispatchTsUtc = true) :
    intent.1 ∈ intents ∧ intent.2 = resolveIntentClass ctx intent.1 ∧
    EmissionGate config ctx dispatchTsUtc decision (BarsAccepted config ctx dispatchTsUtc)
      intent.2 := by
  obtain ⟨hmap, hwindow⟩ := List.mem_filter.mp hmem
  obtain ⟨base, hbase, rfl⟩ := List.mem_map.mp hmap
  have hentry : resolveIntentClass ctx base = .entry → ∀ periods,
      config.strategy.tradingPeriods = some periods →
      (schedulerOf config periods).marketStateUtc dispatchTsUtc = .opened ∧
      BarsAccepted config ctx dispatchTsUtc periods := by
    intro hclass periods hperiods
    rw [hclass] at hwindow
    exact tradingWindow_entry hperiods hrange hwindow
  refine ⟨hbase, rfl, ?_, fun h p hp => (hentry h p hp).1, fun h p hp => (hentry h p hp).2,
    fun h => exitWindowOpen_iff.mp (hexit h), fun h => passesBlockedGuard_iff.mp (hblocked h)⟩
  intro hclass
  by_contra hnot
  have hpass := (passesBlockedGuard_iff.mp (hblocked (by simpa using hnot))).2
  rw [hclass] at hpass
  simp at hpass

/-! ### The log of an emission -/

def guardDecisions (events : List (HostEvent P)) : List LiveGuardDecision :=
  events.filterMap fun
    | .guardEvaluated decision => some decision
    | _ => none

def IsGuardDecision : HostEvent P → Prop
  | .guardEvaluated _ => True
  | _ => False

/-- No decision of the live guard, and a command only where `q` holds of it. -/
def IsEmission (q : OrderCommand → Prop) : HostEvent P → Prop
  | .guardEvaluated _ => False
  | .published command _ => q command
  | _ => True

def Gated (q : LiveGuardDecision → OrderCommand → Prop) (events : List (HostEvent P)) : Prop :=
  ∀ pre command snapshot suf, events = pre ++ .published command snapshot :: suf →
    ∃ decision, (guardDecisions pre).getLast? = some decision ∧ q decision command

theorem guardDecisions_append (a b : List (HostEvent P)) :
    guardDecisions (a ++ b) = guardDecisions a ++ guardDecisions b := List.filterMap_append

variable {events : List (HostEvent P)}

theorem guardDecisions_eq_nil {q : OrderCommand → Prop} (h : ∀ event ∈ events, IsEmission q event) :
    guardDecisions events = [] := by
  refine List.filterMap_eq_nil_iff.mpr fun event hevent => ?_
  have hemission := h event hevent
  cases event <;> first | rfl | exact hemission.elim

variable {q : LiveGuardDecision → OrderCommand → Prop}

theorem gated_of_forall
    (h : ∀ event ∈ events, IsEmission (fun _ => False) event ∨ IsGuardDecision event) :
    Gated q events := by
  rintro pre command snapshot suf rfl
  have hpublished := h (.published command snapshot) (by simp)
  exact (or_self_iff.mp hpublished).elim

theorem gated_append {a b : List (HostEvent P)}
    (ha : ∀ event ∈ a, IsEmission (fun _ => False) event ∨ IsGuardDecision event)
    (hlast : (guardDecisions a).getLast? = some decision)
    (hb : ∀ event ∈ b, IsEmission (q decision) event) : Gated q (a ++ b) := by
  intro pre command snapshot suf heq
  rcases List.append_eq_append_iff.mp heq with ⟨mid, rfl, rfl⟩ | ⟨mid, rfl, hmid⟩
  · refine ⟨decision, ?_, hb (.published command snapshot) (by simp)⟩
    have hmid : guardDecisions mid = [] :=
      guardDecisions_eq_nil fun event h => hb event (List.mem_append_left _ h)
    rw [guardDecisions_append, hmid, List.append_nil, hlast]
  · -- the command would stand before the guard's decision
    rcases mid with _ | ⟨event, mid⟩
    · rw [List.nil_append] at hmid
      refine ⟨decision, by simpa using hlast, hb (.published command snapshot) ?_⟩
      rw [← hmid]
      exact List.mem_cons_self
    · rw [List.cons_append, List.cons.injEq] at hmid
      have hpublished := ha event (List.mem_append_right _ List.mem_cons_self)
      rw [← hmid.1] at hpublished
      exact (or_self_iff.mp hpublished).elim

/-- Events without a command or a decision may come first. -/
theorem gated_prepend {a b : List (HostEvent P)}
    (ha : ∀ event ∈ a, IsEmission (fun _ => False) event) (hb : Gated q b) : Gated q (a ++ b) := by
  intro pre command snapshot suf heq
  rcases List.append_eq_append_iff.mp heq with ⟨mid, rfl, rfl⟩ | ⟨mid, rfl, hmid⟩
  · obtain ⟨decision, hlast, hq⟩ := hb mid command snapshot suf rfl
    refine ⟨decision, ?_, hq⟩
    rw [guardDecisions_append, guardDecisions_eq_nil ha, List.nil_append, hlast]
  · rcases mid with _ | ⟨event, mid⟩
    · rw [List.nil_append] at hmid
      obtain ⟨_, hlast, _⟩ := hb [] command snapshot suf hmid.symm
      simp [guardDecisions] at hlast
    · rw [List.cons_append, List.cons.injEq] at hmid
      have hpublished := ha event (List.mem_append_right _ List.mem_cons_self)
      rw [← hmid.1] at hpublished
      exact hpublished.elim

section Guard

variable {env : Env σ P} (s : StrategyRuntime σ P)

def Decided (decision : LiveGuardDecision) (t : StrategyRuntime σ P) : Prop :=
  ∃ decisions, t.log = s.log ++ (decisions ++ [.guardEvaluated decision]) ∧
    ∀ event ∈ decisions, IsGuardDecision event

theorem Decided.after {s t u : StrategyRuntime σ P} (h : Extends log IsGuardDecision s t)
    (h' : Decided t decision u) : Decided s decision u := by
  obtain ⟨new, hlog, hnew⟩ := h
  obtain ⟨decisions, hlog', hdecisions⟩ := h'
  refine ⟨new ++ decisions, by rw [hlog', hlog, List.append_assoc, List.append_assoc], ?_⟩
  intro event hevent
  rcases List.mem_append.mp hevent with hevent | hevent
  · exact hnew event hevent
  · exact hdecisions event hevent

theorem wp_evaluateGuardDecision :
    wp evaluateGuardDecision env s (fun decision t => Decided s decision t)
      fun _ t => Extends log IsGuardDecision s t :=
  ⟨[], rfl, fun _ h => absurd h List.not_mem_nil⟩

/-- What was decided stands in the log. -/
theorem Decided.extends {s t : StrategyRuntime σ P} (h : Decided s decision t) :
    Extends log IsGuardDecision s t := by
  obtain ⟨decisions, hlog, hdecisions⟩ := h
  refine ⟨_, hlog, fun event hevent => ?_⟩
  rcases List.mem_append.mp hevent with hevent | hevent
  · exact hdecisions event hevent
  · rw [List.mem_singleton.mp hevent]
    trivial

theorem wp_refreshHealthNow :
    wp refreshHealthNow env s (fun _ t => Extends log IsGuardDecision s t)
      fun _ t => Extends log IsGuardDecision s t := by
  have hmakes : Makes env (emission IsGuardDecision False fun _ => False) refreshHealthNow :=
    makes_refreshHealthNow
  exact wp_mono (hmakes s) (fun _ _ hm => hm.extends) fun _ _ hm => hm.extends

theorem wp_pollGuard (attempts : ℕ) (s : StrategyRuntime σ P) :
    wp (pollGuard attempts) env s (fun decision t => Decided s decision t)
      fun _ t => Extends log IsGuardDecision s t := by
  induction attempts generalizing s with
  | zero => exact wp_evaluateGuardDecision s
  | succ attempts ih =>
    rw [pollGuard, wp_bind]
    refine wp_mono (wp_refreshHealthNow s) (fun _ t ht => ?_) fun _ _ ht => ht
    rw [wp_bind]
    refine wp_mono (wp_evaluateGuardDecision t) (fun current u hu => ?_)
      fun _ _ hu => ht.trans hu
    split
    · exact hu.after ht
    · split
      · exact hu.after ht
      · exact wp_mono (ih u) (fun _ _ hv => (hv.after hu.extends).after ht)
          fun _ _ hv => ht.trans (hu.extends.trans hv)

theorem wp_guardDecision :
    wp guardDecision env s (fun decision t => Decided s decision t)
      fun _ t => Extends log IsGuardDecision s t := by
  rw [guardDecision, wp_bind]
  refine wp_mono (wp_evaluateGuardDecision s) (fun decision t ht => ?_) fun _ _ ht => ht
  split
  · exact ht
  · rw [maybeWaitForGuardReadinessRace, wp_bind, wp_read]
    split
    · exact ht
    · split
      · exact ht
      · exact wp_mono (wp_pollGuard _ t) (fun _ _ hu => hu.after ht.extends)
          fun _ _ hu => ht.extends.trans hu

end Guard

/-! ### Published commands -/

section Gate

variable {env : Env σ P}

/-- A command belongs to an intent of the batch that passes the gate. -/
def FromGatedIntent (env : Env σ P) (ctx : StrategyCtx) (createdTsUtc dispatchTsUtc : ℤ)
    (intents : List Intent) (decision : LiveGuardDecision) (command : OrderCommand) : Prop :=
  ∃ intent ∈ intents, (∃ s, command = intentToCommand env s ctx createdTsUtc intent
      (resolveIntentClass ctx intent)) ∧
    EmissionGate env.config ctx dispatchTsUtc decision
      (BarsAccepted env.config ctx dispatchTsUtc) (resolveIntentClass ctx intent)

def GrowsGated (q : LiveGuardDecision → OrderCommand → Prop) (s t : StrategyRuntime σ P) : Prop :=
  ∃ new, t.log = s.log ++ new ∧ Gated q new

theorem GrowsGated.of_extends {s t : StrategyRuntime σ P}
    (h : Extends log (fun event => IsEmission (fun _ => False) event ∨ IsGuardDecision event) s t) :
    GrowsGated q s t := by
  obtain ⟨new, hlog, hnew⟩ := h
  exact ⟨new, hlog, gated_of_forall hnew⟩

theorem GrowsGated.after {s t u : StrategyRuntime σ P}
    (h : Extends log (IsEmission fun _ => False) s t) (h' : GrowsGated q t u) : GrowsGated q s u := by
  obtain ⟨new, hlog, hnew⟩ := h
  obtain ⟨new', hlog', hgated⟩ := h'
  exact ⟨new ++ new', by rw [hlog', hlog, List.append_assoc], gated_prepend hnew hgated⟩

variable {ctx : StrategyCtx} {createdTsUtc dispatchTsUtc : ℤ} {intents : List Intent}
  {previousState : P}

theorem wp_emitDecided (hrange : timestampInRange dispatchTsUtc = true)
    (decision : LiveGuardDecision) (s : StrategyRuntime σ P) :
    let q := FromGatedIntent env ctx createdTsUtc dispatchTsUtc intents
    wp (emitDecided ctx createdTsUtc dispatchTsUtc decision
        (acceptedIntents env.config ctx dispatchTsUtc intents) previousState) env s
      (fun _ t => Extends log (IsEmission (q decision)) s t)
      fun _ t => Extends log (IsEmission (q decision)) s t := by
  intro q
  have hmakes : Makes env (emission (IsEmission (q decision)) True fun _ => True)
      (emitDecided ctx createdTsUtc dispatchTsUtc decision
        (acceptedIntents env.config ctx dispatchTsUtc intents) previousState) := by
    refine makes_emitDecided (fun _ => trivial) (fun _ => trivial) (fun _ => trivial) trivial
      trivial ?_
    intro intent hmem hblocked hexit s' snapshot
    obtain ⟨hintent, hclass, hgate⟩ := emissionGate_of_accepted hrange hmem hblocked hexit
    rw [hclass] at hgate ⊢
    exact ⟨intent.1, hintent, ⟨s', rfl⟩, hgate⟩
  exact wp_mono (hmakes s) (fun _ _ hm => hm.extends) fun _ _ hm => hm.extends

/-- The live branch publishes only what passes the gate. -/
theorem wp_applyIntentsLive (hrange : timestampInRange dispatchTsUtc = true)
    (s : StrategyRuntime σ P) :
    let q := FromGatedIntent env ctx createdTsUtc dispatchTsUtc intents
    wp (applyIntentsLive ctx createdTsUtc dispatchTsUtc intents previousState) env s
      (fun _ t => GrowsGated q s t) fun _ t => GrowsGated q s t := by
  intro q
  rw [applyIntentsLive, wp_bind, wp_read]
  dsimp only
  split
  · have hmakes : Makes env (emission (IsEmission fun _ => False) True fun _ => True) (α := Unit) (do
        restoreStrategyState previousState "intent_dropped_before_emit"
        persistState none) :=
      within_bind (makes_restoreStrategyState (fun _ => trivial) trivial _) fun _ =>
        makes_persistState emission_asks fun _ => trivial
    exact wp_mono (hmakes s) (fun _ _ hm => .of_extends (hm.extends.mono fun _ => .inl))
      fun _ _ hm => .of_extends (hm.extends.mono fun _ => .inl)
  · rw [wp_bind]
    refine wp_mono (wp_guardDecision s) (fun decision t ht => ?_)
      fun _ _ ht => .of_extends (ht.mono fun _ => .inr)
    have hgrow : ∀ u, Extends log (IsEmission (q decision)) t u → GrowsGated q s u := by
      rintro u ⟨emitted, hemitted, hall⟩
      obtain ⟨decisions, hdecisions, hguard⟩ := ht
      refine ⟨decisions ++ [.guardEvaluated decision] ++ emitted,
        by rw [hemitted, hdecisions, List.append_assoc], gated_append ?_ ?_ hall⟩
      · intro event hevent
        rcases List.mem_append.mp hevent with hevent | hevent
        · exact .inr (hguard event hevent)
        · rw [List.mem_singleton.mp hevent]
          exact .inr trivial
      · rw [guardDecisions_append]
        exact List.getLast?_concat
    exact wp_mono (wp_emitDecided hrange decision t) (fun _ u hu => hgrow u hu)
      fun _ u hu => hgrow u hu

/-- Whatever the state, the batch and the answers of the outside, every command that
`applyIntents` publishes in live mode passes the gate. -/
theorem applyIntents_gated (hlive : env.config.tradeMode = .live)
    (hrange : timestampInRange dispatchTsUtc = true) (rt : StrategyRuntime σ P) :
    ∃ new,
      ((applyIntents ctx createdTsUtc dispatchTsUtc intents previousState).post env rt).log =
        rt.log ++ new ∧
      Gated (FromGatedIntent env ctx createdTsUtc dispatchTsUtc intents) new := by
  have hwp : wp (applyIntents ctx createdTsUtc dispatchTsUtc intents previousState) env rt
      (fun _ => GrowsGated (FromGatedIntent env ctx createdTsUtc dispatchTsUtc intents) rt)
      fun _ => GrowsGated (FromGatedIntent env ctx createdTsUtc dispatchTsUtc intents) rt := by
    have hflush : Makes env (emission (IsEmission fun _ => False) True fun _ => True)
        flushStrategyJournalRecords := makes_flushStrategyJournalRecords fun _ => trivial
    have hpersist : Makes env (emission (IsEmission fun _ => False) True fun _ => True)
        (persistState none) := makes_persistState emission_asks fun _ => trivial
    rw [applyIntents, wp_bind]
    refine wp_mono (hflush rt) (fun _ t ht => ?_)
      fun _ _ ht => .of_extends (ht.extends.mono fun _ => .inl)
    split
    · exact wp_mono (hpersist t)
        (fun _ _ hu => .of_extends ((Moves.extends (ht.trans hu)).mono fun _ => .inl))
        fun _ _ hu => .of_extends ((Moves.extends (ht.trans hu)).mono fun _ => .inl)
    · rw [wp_bind, wp_read, hlive]
      exact wp_mono (wp_applyIntentsLive hrange t) (fun _ _ hu => hu.after ht.extends)
        fun _ _ hu => hu.after ht.extends
  exact wp_post hwp

end Gate

/-! ### A last bar that is no date -/

def noonTs : ℤ := 1700038800

def noonCtx (lastBarTs : ℤ) : StrategyCtx :=
  ⟨"hybrid_intraday", "D1", "MOEX", "IMOEXF", 1 / 2, .live, .liveOnly, true, .liveReady, none,
    noonTs, noonTs, some lastBarTs⟩

def noonEnv : Env Unit Unit := calmEnv dayConfig silentStrategy (noonTs * 1000)

def afterNoonBuy (lastBarTs : ℤ) : StrategyRuntime Unit Unit :=
  (applyIntents (noonCtx lastBarTs) noonTs noonTs [.market 1 .buy none none] ()).post
    noonEnv (readyRuntime () noonTs)

theorem applyIntents_gated_noon : ∃ new, (afterNoonBuy noonTs).log = [] ++ new ∧
    Gated (FromGatedIntent noonEnv (noonCtx noonTs) noonTs noonTs [.market 1 .buy none none]) new :=
  applyIntents_gated rfl (by decide) (readyRuntime () noonTs)

/-- With the smallest timestamp as the last bar an entry goes out, unchecked for silence. -/
theorem not_silenceChecked_ancientBar :
    (∃ pre command snapshot suf,
      (afterNoonBuy (-2 ^ 63)).log = pre ++ .published command snapshot :: suf ∧
      command.intentClass = some .entry) ∧
    timestampInRange noonTs = true ∧ dayConfig.strategy.tradingPeriods = some dayPeriods ∧
    ¬ SilenceChecked dayConfig dayPeriods (noonCtx (-2 ^ 63)) noonTs := by
  refine ⟨⟨[.guardEvaluated ⟨true, []⟩], ?_⟩, by decide, rfl, ?_⟩
  · exact ⟨_, _, [], rfl, rfl⟩
  · rintro (h | ⟨lastBarTs, hlast, h⟩)
    · exact absurd h (by decide)
    · cases hlast
      exact absurd h (by decide)

/-! ### The end of stop orders -/

def closeOn (offset : ℤ) (sessionEnd : NaiveTime) (day : NaiveDate) : ℤ :=
  day * daySeconds + sessionEnd.secs - offset

def EndsOn (offset createdTsUtc : ℤ) (sessionEnd : NaiveTime) (weekendsOff : Bool)
    (day : NaiveDate) : Prop :=
  (weekendsOff && (day.weekday = .sat || day.weekday = .sun)) = false ∧
    createdTsUtc < closeOn offset sessionEnd day + stopEndBufferSec

instance (offset createdTsUtc : ℤ) (sessionEnd : NaiveTime) (weekendsOff : Bool)
    (day : NaiveDate) : Decidable (EndsOn offset createdTsUtc sessionEnd weekendsOff day) :=
  inferInstanceAs (Decidable (_ ∧ _))

/-- The hours of `compute_intraday_stop_end_utc`'s offset. -/
def stopOffsetHours : ℤ :=
  match config.strategy.tradingPeriods with
  | some periods => (schedulerOf config periods).timezoneOffsetHours
  | none => config.strategy.timezoneOffsetHours

def stopSessionEnd : NaiveTime :=
  (config.strategy.tradingPeriods.map (·.sessionEnd)).getD
    (.fromHms (min config.strategy.sessionCloseHour 23)
      (min config.strategy.sessionCloseMinute 59) 0)

/-- Whether `compute_intraday_stop_end_utc` passes over weekends. -/
def stopWeekendsOff : Bool :=
  (config.strategy.tradingPeriods.map (·.weekendsOff)).getD false

section StopEnd

variable {offset createdTsUtc : ℤ} {sessionEnd : NaiveTime} {weekendsOff : Bool} {day : NaiveDate}

theorem findStopEnd_succ (days : ℕ) :
    findStopEnd offset createdTsUtc sessionEnd weekendsOff day (days + 1) =
      if EndsOn offset createdTsUtc sessionEnd weekendsOff day ∧
          timestampInRange (closeOn offset sessionEnd day) = true then
        some (closeOn offset sessionEnd day + stopEndBufferSec)
      else findStopEnd offset createdTsUtc sessionEnd weekendsOff (day + 1) days := by
  rw [findStopEnd]
  by_cases hweekend : (weekendsOff && (day.weekday = .sat || day.weekday = .sun)) = true
  · rw [if_pos hweekend, if_neg fun h => by simp [h.1.1] at hweekend]
  rw [if_neg hweekend]
  by_cases hrange : timestampInRange (closeOn offset sessionEnd day) = true
  · have hclose : timestampOfLocal offset day sessionEnd = some (closeOn offset sessionEnd day) :=
      if_pos hrange
    have hmax : min i64Max (closeOn offset sessionEnd day + stopEndBufferSec) =
        closeOn offset sessionEnd day + stopEndBufferSec := by
      have hlast : closeOn offset sessionEnd day / 86400 ≤ (95026236 : ℤ) :=
        of_decide_eq_true ((Bool.and_eq_true _ _).mp hrange).2
      unfold stopEndBufferSec i64Max
      omega
    simp [hclose, hmax, EndsOn, Bool.eq_false_iff.mpr hweekend, hrange]
  · have hclose : timestampOfLocal offset day sessionEnd = none := if_neg hrange
    simp [hclose, hrange]

/-- The loop returns the end of the first date on which the order can end. -/
theorem findStopEnd_of_first {k days : ℕ} (hk : k < days)
    (hends : EndsOn offset createdTsUtc sessionEnd weekendsOff (day + k))
    (hfirst : ∀ j : ℕ, j < k → ¬ EndsOn offset createdTsUtc sessionEnd weekendsOff (day + j))
    (hrange : timestampInRange (closeOn offset sessionEnd (day + k)) = true) :
    findStopEnd offset createdTsUtc sessionEnd weekendsOff day days =
      some (closeOn offset sessionEnd (day + k) + stopEndBufferSec) := by
  induction k generalizing day days with
  | zero =>
    obtain ⟨days, rfl⟩ := Nat.exists_eq_succ_of_ne_zero hk.ne'
    rw [Nat.cast_zero, add_zero] at hends hrange ⊢
    rw [findStopEnd_succ, if_pos ⟨hends, hrange⟩]
  | succ k ih =>
    obtain ⟨days, rfl⟩ := Nat.exists_eq_succ_of_ne_zero (Nat.zero_lt_of_lt hk).ne'
    have hnext : ∀ n : ℕ, day + (n + 1 : ℕ) = day + 1 + n := fun n => by
      rw [Nat.cast_succ, add_right_comm]
      exact (add_assoc ..).symm
    rw [hnext] at hends hrange ⊢
    have hnot := hfirst 0 k.succ_pos
    rw [Nat.cast_zero, add_zero] at hnot
    rw [findStopEnd_succ, if_neg fun h => hnot h.1]
    exact ih (Nat.lt_of_succ_lt_succ hk) hends
      (fun j hj => hnext j ▸ hfirst (j + 1) (Nat.succ_lt_succ hj)) hrange

theorem weekday_mod (day : ℤ) : NaiveDate.weekday day = NaiveDate.weekday (day % 7) := by
  have hmod : (day + 3) % 7 = (day % 7 + 3) % 7 := by omega
  unfold NaiveDate.weekday
  rw [hmod]

/-- One of the next three dates is on no weekend. -/
theorem exists_weekday (day : ℤ) : ∃ k : ℕ, 1 ≤ k ∧ k ≤ 3 ∧
    NaiveDate.weekday (day + k) ≠ .sat ∧ NaiveDate.weekday (day + k) ≠ .sun := by
  have hmod : ∀ k : ℕ, NaiveDate.weekday (day + k) = NaiveDate.weekday ((day % 7 + k) % 7) :=
    fun k => by rw [weekday_mod, Int.emod_add_emod]
  simp only [hmod]
  have hlow := Int.emod_nonneg day (by decide : (7 : ℤ) ≠ 0)
  have hhigh := Int.emod_lt_of_pos day (by decide : (0 : ℤ) < 7)
  generalize day % 7 = r at hlow hhigh
  interval_cases r <;> first
    | exact ⟨1, by decide⟩ | exact ⟨2, by decide⟩ | exact ⟨3, by decide⟩

/-- Within three days of its creation there is a date on which the order can end. -/
theorem exists_endsOn (offset createdTsUtc : ℤ) (sessionEnd : NaiveTime) (weekendsOff : Bool) :
    ∃ k : ℕ, k ≤ 3 ∧ EndsOn offset createdTsUtc sessionEnd weekendsOff
      ((createdTsUtc + offset) / daySeconds + k) := by
  obtain ⟨k, hone, hthree, hsat, hsun⟩ := exists_weekday ((createdTsUtc + offset) / daySeconds)
  refine ⟨k, hthree, by simp [hsat, hsun], ?_⟩
  unfold closeOn stopEndBufferSec daySeconds
  show createdTsUtc <
    ((createdTsUtc + offset) / 86400 + (k : ℤ)) * 86400 + sessionEnd.secs - offset + 60
  omega

end StopEnd

variable {config : RuntimeConfig} {createdTsUtc offset : ℤ}

theorem computeIntradayStopEndUtc_eq (hcreated : 0 < createdTsUtc)
    (hrange : timestampInRange createdTsUtc = true)
    (hoffset : fixedOffset (stopOffsetHours config) = some offset) :
    computeIntradayStopEndUtc config createdTsUtc =
      findStopEnd offset createdTsUtc (stopSessionEnd config) (stopWeekendsOff config)
        ((createdTsUtc + offset) / daySeconds) 8 := by
  unfold stopOffsetHours at hoffset
  rw [computeIntradayStopEndUtc, if_neg (not_le.mpr hcreated)]
  unfold stopSessionEnd stopWeekendsOff
  cases hperiods : config.strategy.tradingPeriods <;> rw [hperiods] at hoffset <;>
    simp only [localDateTime, hoffset, hrange, if_true, LocalDateTime.date]

end StrategyRuntime

end AlorRs
