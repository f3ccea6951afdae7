import AlorRs.StrategyRuntime.Equiv.AlorUsdrubfHybrid.Positions

/-!
# The last exit of a window

From the force-exit time of its owner on, a position is left on the next bar that the strategy looks
at (`always_exits`).  An MR bar that touches the stop or the take price is left to the bracket, and
on a new local date the strategy starts flat.
-/

namespace AlorRs.AlorUsdrubfHybrid

open AlorUsdrubfHybridStrategy

def AlorUsdrubfHybridConfig.forceExitTime (config : AlorUsdrubfHybridConfig) : Owner → NaiveTime
  | .meanRev => config.mrForceExitTime
  | .breakout => config.boEodExitTime

namespace OpenPosition

variable (pos : OpenPosition)

def hasLevels : Bool :=
  match pos.owner with
  | .meanRev => pos.stopPrice.isSome && pos.takePrice.isSome
  | .breakout => pos.stop1.isSome && pos.stop2.isSome

def touchesBracket (bar : BarEvent) : Bool :=
  pos.owner = .meanRev &&
    (pos.stopPrice.any (· ≤ bar.h) || pos.takePrice.any (bar.l ≤ ·))

def matchesQty (qty : ℚ) : Bool :=
  pos.side = brokerSide qty && (pos.size : ℚ) = |qty|

end OpenPosition

namespace AlorUsdrubfHybridStrategy

variable (s : AlorUsdrubfHybridStrategy) (bar : BarEvent)

def localTime : NaiveDateTime :=
  utcToLocal bar.closeTimeUtc s.config.timezoneOffsetHours

/-- A bar that is not held back at the start, is newer than the bars before it, and is of the
strategy's date. -/
def watches (ctx : StrategyCtx) (bar : BarEvent) : Bool :=
  s.config.enableLiveExecution &&
    (s.liveReady || !s.isLiveStartupBarStale ctx bar.closeTimeUtc) &&
      !s.lastProcessedBarTs.any (bar.closeTimeUtc ≤ ·) && !s.startsDay bar

def retriesExit : Bool :=
  s.exitRejectDeferredUntilBarTs.any (· < bar.closeTimeUtc)

/-- The position can be left on a bar: a refused exit is due again, or both prices are there and
the bar is not left to the bracket. -/
def canLeave : Bool :=
  s.retriesExit bar || s.openPosition.any fun pos => pos.hasLevels && !pos.touchesBracket bar

/-- A position that is confirmed, while no exit is on its way and none is put off beyond a bar. -/
structure MayLeave (s : AlorUsdrubfHybridStrategy) (pos : OpenPosition) (bar : BarEvent) : Prop where
  opened : s.openPosition = some pos
  confirmed : s.ownerConfirmedByLiveEvent = true
  idle : s.exitIntentInflight = false
  deferred : s.exitRejectDeferredUntilBarTs.all (· < bar.closeTimeUtc) = true

end AlorUsdrubfHybridStrategy

/-! ### One bar -/

section Bars

variable {s : AlorUsdrubfHybridStrategy} {pos : OpenPosition} {bar : BarEvent}

def Leaves (symbol : String) (pos : OpenPosition) (intents : List Intent) : Prop :=
  ∃ intent ∈ intents, IsExitOf symbol pos.size pos.side.exitSide intent

variable {intents : List Intent}

theorem Leaves.append {symbol : String} {before : List Intent} (h : Leaves symbol pos intents) :
    Leaves symbol pos (before ++ intents) := by
  obtain ⟨intent, hmem, hintent⟩ := h
  exact ⟨intent, List.mem_append_right _ hmem, hintent⟩

/-- What leaves a position that is the broker's closes the broker's quantity. -/
theorem Leaves.closes {symbol : String} {qty : ℚ} (h : Leaves symbol pos intents)
    (hmatches : pos.matchesQty qty = true) : intents.any (closes symbol qty) = true := by
  unfold OpenPosition.matchesQty at hmatches
  rw [Bool.and_eq_true, decide_eq_true_eq, decide_eq_true_eq] at hmatches
  obtain ⟨hside, hsize⟩ := hmatches
  have hexit : pos.side.exitSide = closingSide qty := by
    rw [hside]
    unfold brokerSide closingSide
    split_ifs <;> rfl
  obtain ⟨intent, hmem, hintent⟩ := h
  rw [hsize, hexit] at hintent
  exact List.any_eq_true.mpr ⟨intent, hmem, PositionRun.closes_of_isExitOf hintent⟩

theorem leaves_maybeEmitLiveExitIntent (h : s.MayLeave pos bar) (reason : String)
    (exitPrice : ℚ) :
    Leaves s.config.symbol pos
      (s.maybeEmitLiveExitIntent reason exitPrice bar.closeTimeUtc).2 := by
  have hdeferred : s.exitRejectDeferredUntilBarTs ≠ some bar.closeTimeUtc := by
    intro hsome
    have hbefore := h.deferred
    rw [hsome, Option.all_some, decide_eq_true_eq] at hbefore
    exact lt_irrefl _ hbefore
  unfold maybeEmitLiveExitIntent
  rw [h.opened]
  dsimp only
  rw [if_neg hdeferred, h.idle, if_neg Bool.false_ne_true]
  exact ⟨_, List.mem_append_right _ (List.mem_singleton_self _), _, reason, rfl⟩

variable {rs : ResearchSnapshot}

/-- From the force-exit time on, a position with both prices has an exit; that of a bar that
touches the bracket is left to it. -/
theorem evaluateExitResearch_eq (hopened : s.openPosition = some pos)
    (hconfirmed : s.ownerConfirmedByLiveEvent = true) (hlevels : pos.hasLevels = true)
    (hdue : (s.config.forceExitTime pos.owner).le rs.localDt.time = true) (hhigh : rs.high = bar.h)
    (hlow : rs.low = bar.l) (htouches : pos.touchesBracket bar = false) :
    ∃ reason exitPrice, s.evaluateExitResearch rs = some (reason, exitPrice) ∧
      s.isBracketExit reason = false := by
  -- only a mean-reversion exit can belong to the bracket
  have hbracket : ∀ reason, (pos.owner = .meanRev → reason = "mr_time_cutoff") →
      s.isBracketExit reason = false := by
    intro reason hreason
    unfold isBracketExit
    rw [hopened, Option.any_some]
    cases howner : pos.owner with
    | breakout => rfl
    | meanRev =>
      rw [hreason howner]
      decide
  unfold evaluateExitResearch
  rw [hopened]
  dsimp only
  rw [hconfirmed, Bool.not_true, if_neg Bool.false_ne_true]
  unfold OpenPosition.hasLevels at hlevels
  unfold OpenPosition.touchesBracket at htouches
  cases howner : pos.owner with
  | meanRev =>
    rw [howner] at hlevels htouches hdue
    rw [Bool.and_eq_true, Option.isSome_iff_exists, Option.isSome_iff_exists] at hlevels
    obtain ⟨⟨stopPrice, hstop⟩, takePrice, htake⟩ := hlevels
    rw [hstop, htake] at htouches ⊢
    simp only [decide_true, Bool.true_and, Option.any_some, Bool.or_eq_false_iff,
      decide_eq_false_iff_not] at htouches
    refine ⟨"mr_time_cutoff", rs.close, ?_, hbracket _ fun _ => rfl⟩
    show s.mrExit rs stopPrice takePrice = _
    unfold mrExit
    rw [hhigh, hlow, if_neg htouches.1, if_neg htouches.2]
    exact if_pos hdue
  | breakout =>
    rw [howner] at hlevels hdue
    rw [Bool.and_eq_true, Option.isSome_iff_exists, Option.isSome_iff_exists] at hlevels
    obtain ⟨⟨stop1, hstop1⟩, stop2, hstop2⟩ := hlevels
    rw [hstop1, hstop2]
    -- a breakout is left at the end of the day if not before
    have hsome : ∃ exit, s.boExit rs pos.side stop1 stop2 = some exit := by
      unfold boExit
      change s.config.boEodExitTime.le rs.localDt.time = true at hdue
      cases pos.side with
      | long | short =>
        rw [if_pos hdue]
        split_ifs <;> exact ⟨_, rfl⟩
    obtain ⟨⟨reason, exitPrice⟩, hexit⟩ := hsome
    refine ⟨reason, exitPrice, hexit, hbracket _ ?_⟩
    rw [howner]
    exact nofun

theorem maybeEmitLiveMrBrackets_frame (ctx : StrategyCtx) (barTsUtc : ℤ) :
    ∃ protection, (s.maybeEmitLiveMrBrackets ctx barTsUtc).1 = { s with protection := protection } := by
  have htp : ∀ (s : AlorUsdrubfHybridStrategy) pos, ∃ protection,
      (s.placeTp ctx barTsUtc pos).1 = { s with protection := protection } := by
    intro s pos
    unfold placeTp
    split
    · exact ⟨_, rfl⟩
    · split_ifs <;> exact ⟨_, rfl⟩
  have hsl : ∀ (s : AlorUsdrubfHybridStrategy) pos, ∃ protection,
      (s.placeSl ctx barTsUtc pos).1 = { s with protection := protection } := by
    intro s pos
    unfold placeSl
    split
    · exact ⟨_, rfl⟩
    · split_ifs <;> exact ⟨_, rfl⟩
  unfold maybeEmitLiveMrBrackets
  split_ifs
  · exact ⟨_, rfl⟩
  · split
    · exact ⟨_, rfl⟩
    · rename_i pos _
      split_ifs
      · exact ⟨_, rfl⟩
      · obtain ⟨protection, hprotection⟩ := htp s pos
        obtain ⟨protection', hprotection'⟩ := hsl (s.placeTp ctx barTsUtc pos).1 pos
        refine ⟨protection', ?_⟩
        show (((s.placeTp ctx barTsUtc pos).1).placeSl ctx barTsUtc pos).1 = _
        rw [hprotection', hprotection]

variable {ctx : StrategyCtx}

theorem leaves_tradeLiveBar (h : s.MayLeave pos bar) (hlevels : pos.hasLevels = true)
    (hdue : (s.config.forceExitTime pos.owner).le rs.localDt.time = true) (hhigh : rs.high = bar.h)
    (hlow : rs.low = bar.l) (htouches : pos.touchesBracket bar = false) :
    Leaves s.config.symbol pos (s.tradeLiveBar ctx bar rs).2 := by
  obtain ⟨protection, hprotection⟩ := maybeEmitLiveMrBrackets_frame (s := s) ctx bar.closeTimeUtc
  have hafter : (s.maybeEmitLiveMrBrackets ctx bar.closeTimeUtc).1.MayLeave pos bar := by
    rw [hprotection]
    exact ⟨h.opened, h.confirmed, h.idle, h.deferred⟩
  have hconfig : (s.maybeEmitLiveMrBrackets ctx bar.closeTimeUtc).1.config = s.config := by
    rw [hprotection]
  rw [← hconfig] at hdue ⊢
  obtain ⟨reason, exitPrice, hexit, hbracket⟩ := evaluateExitResearch_eq hafter.opened
    hafter.confirmed hlevels hdue hhigh hlow htouches
  unfold tradeLiveBar
  dsimp only
  rw [hexit]
  dsimp only
  rw [hbracket, if_neg Bool.false_ne_true]
  exact (leaves_maybeEmitLiveExitIntent hafter reason exitPrice).append

theorem leaves_tradeLive (h : s.MayLeave pos bar) (hcan : s.canLeave bar = true)
    (hdue : (s.config.forceExitTime pos.owner).le rs.localDt.time = true) (hhigh : rs.high = bar.h)
    (hlow : rs.low = bar.l) : Leaves s.config.symbol pos (s.tradeLive ctx bar rs).2 := by
  unfold canLeave retriesExit at hcan
  rw [h.opened, Option.any_some, Bool.or_eq_true] at hcan
  unfold tradeLive
  -- the deferral of an entry is no matter for an exit
  generalize hafter : (if s.entryRejectDeferredUntilBarTs.any (· < bar.closeTimeUtc) then
    { s with entryRejectDeferredUntilBarTs := none } else s) = s'
  have hsame : s'.MayLeave pos bar ∧ s'.config = s.config ∧
      s'.exitRejectDeferredUntilBarTs = s.exitRejectDeferredUntilBarTs := by
    rw [← hafter]
    split_ifs
    · exact ⟨⟨h.opened, h.confirmed, h.idle, h.deferred⟩, rfl, rfl⟩
    · exact ⟨h, rfl, rfl⟩
  obtain ⟨h', hconfig, hdeferred⟩ := hsame
  rw [← hconfig] at hdue ⊢
  rw [← hdeferred] at hcan
  -- a retry sends the exit without evaluating the bar
  by_cases hretries : s'.exitRejectDeferredUntilBarTs.any (· < bar.closeTimeUtc) = true
  · have hfree : (s'.openPosition.isSome && !s'.exitIntentInflight) = true := by
      rw [h'.opened, h'.idle]
      rfl
    have hcleared : ({ s' with
        exitRejectDeferredUntilBarTs := none } : AlorUsdrubfHybridStrategy).MayLeave pos bar :=
      ⟨h'.opened, h'.confirmed, h'.idle, rfl⟩
    rw [if_pos hretries, if_pos hfree]
    exact leaves_maybeEmitLiveExitIntent hcleared _ _
  · rw [if_neg hretries]
    rcases hcan with hretries' | hlevels
    · exact absurd hretries' hretries
    · rw [Bool.and_eq_true, Bool.not_eq_true'] at hlevels
      exact leaves_tradeLiveBar h' hlevels.1 hdue hhigh hlow hlevels.2

theorem gateBar_frame (ctx : StrategyCtx) (bar : BarEvent) :
    ∃ stage ready, (s.gateBar ctx bar).1 =
      { s with lastBarTs := some bar.closeTimeUtc, lifecycleStage := stage, liveReady := ready } := by
  unfold gateBar
  dsimp only
  split_ifs <;> exact ⟨_, _, rfl⟩

/-- A live bar of the session passes the guards of a strategy that trades. -/
theorem gateBar_passes (henabled : s.config.enableLiveExecution = true)
    (hready : (s.liveReady || !s.isLiveStartupBarStale ctx bar.closeTimeUtc) = true)
    (horigin : bar.origin = .live) (hsession : s.isModelSessionBar (s.localTime bar) = true) :
    (s.gateBar ctx bar).2 = true := by
  have hstale : (!s.liveReady && s.isLiveStartupBarStale ctx bar.closeTimeUtc) = false := by
    rw [← Bool.not_not (s.isLiveStartupBarStale ctx bar.closeTimeUtc), ← Bool.not_or, hready]
    rfl
  have hsuppressed : ¬(decide (ctx.tradeMode = .live) && !s.liveReady &&
      s.isLiveStartupBarStale ctx bar.closeTimeUtc) = true := by
    rw [Bool.and_assoc, hstale, Bool.and_false]
    exact Bool.false_ne_true
  have hinside : ¬(!s.isModelSessionBar (s.localTime bar)) = true := by
    rw [hsession]
    exact Bool.false_ne_true
  -- the guards read only the configuration of a state that has the stage and the last bar changed
  unfold isLiveStartupBarStale at hsuppressed
  unfold isModelSessionBar localTime at hinside
  unfold gateBar isLiveStartupBarStale isModelSessionBar
  simp only [henabled, horigin, Bool.not_true, Bool.and_false, Bool.false_eq_true, if_false, ne_eq,
    not_true_eq_false, decide_false]
  rw [if_neg hsuppressed]
  by_cases hunready : (decide (ctx.tradeMode = .live) && !s.liveReady) = true
  · rw [if_pos hunready, if_neg hinside]
  · rw [if_neg hunready, if_neg hinside]

theorem enterDay_of_same (hday : s.startsDay bar = false) :
    s.enterDay bar (s.localTime bar) = { s with day := s.day.update bar (s.localTime bar) } := by
  unfold startsDay at hday
  rw [decide_eq_false_iff_not] at hday
  unfold enterDay localTime
  rw [if_neg hday]

theorem leaves_tradeBar (hlive : ctx.tradeMode = .live) (h : s.MayLeave pos bar)
    (hcan : s.canLeave bar = true) (hday : s.startsDay bar = false)
    (hdue : (s.config.forceExitTime pos.owner).le (s.localTime bar).time = true) :
    Leaves s.config.symbol pos (s.tradeBar ctx bar).2 := by
  have henter : s.enterDay bar (utcToLocal bar.closeTimeUtc s.config.timezoneOffsetHours) =
      { s with day := s.day.update bar (s.localTime bar) } := enterDay_of_same hday
  have hentered : ({ s with
      day := s.day.update bar (s.localTime bar) } : AlorUsdrubfHybridStrategy).MayLeave pos bar :=
    ⟨h.opened, h.confirmed, h.idle, h.deferred⟩
  unfold tradeBar
  rw [if_pos hlive, henter]
  exact leaves_tradeLive hentered hcan hdue rfl rfl

theorem leaves_onBar (hlive : ctx.tradeMode = .live) (h : s.MayLeave pos bar)
    (hcan : s.canLeave bar = true) (hwatches : s.watches ctx bar = true)
    (hsymbol : bar.symbol = s.config.symbol) (horigin : bar.origin = .live)
    (hsession : s.isModelSessionBar (s.localTime bar) = true)
    (hdue : (s.config.forceExitTime pos.owner).le (s.localTime bar).time = true) :
    Leaves s.config.symbol pos (s.onBar ctx bar).2 := by
  unfold watches at hwatches
  rw [Bool.and_eq_true, Bool.and_eq_true, Bool.and_eq_true, Bool.not_eq_true',
    Bool.not_eq_true'] at hwatches
  obtain ⟨⟨⟨henabled, hready⟩, hnew⟩, hday⟩ := hwatches
  have hpasses := gateBar_passes henabled hready horigin hsession
  obtain ⟨stage, ready, hgate⟩ := gateBar_frame (s := s) ctx bar
  have hgated : Leaves s.config.symbol pos ((s.gateBar ctx bar).1.tradeBar ctx bar).2 := by
    rw [hgate]
    exact leaves_tradeBar hlive ⟨h.opened, h.confirmed, h.idle, h.deferred⟩ hcan hday hdue
  unfold onBar
  rw [if_neg (not_not.mpr hsymbol), if_neg (Bool.eq_false_iff.mp hnew),
    show s.gateBar ctx bar = ((s.gateBar ctx bar).1, true) from Prod.ext rfl hpasses]
  exact hgated

end Bars

/-! ### Runs -/

namespace PositionRun

variable (r : PositionRun)

/-- A live bar of the session, from the force-exit time of the position on, while the broker has a
quantity, the owner is confirmed and no exit is on its way or put off beyond the bar. -/
def isExitDue (bar : BarEvent) : Bool :=
  let s := r.strategy
  bar.symbol = s.config.symbol && bar.origin = .live && s.isModelSessionBar (s.localTime bar) &&
    s.openPosition.any
      (fun pos => (s.config.forceExitTime pos.owner).le (s.localTime bar).time) &&
    r.brokerQty.any (· ≠ 0) && s.ownerConfirmedByLiveEvent && !s.exitIntentInflight &&
    s.exitRejectDeferredUntilBarTs.all (· < bar.closeTimeUtc)

/-- The strategy looks at a bar, its position is the broker's, and it can be left. -/
def canExit (ctx : StrategyCtx) (bar : BarEvent) : Bool :=
  r.strategy.watches ctx bar &&
    r.strategy.openPosition.any (fun pos => pos.matchesQty (r.brokerQty.getD 0)) &&
    r.strategy.canLeave bar

/-- A bar on which an exit is due, and that meets a condition, is answered by an exit of the
broker's quantity. -/
def ExitsWhen (condition : PositionRun → StrategyCtx → BarEvent → Bool) (r : PositionRun) :
    LiveEvent → Prop
  | .bar ctx bar =>
    r.isExitDue bar = true → condition r ctx.ctx bar = true →
      (r.step (.bar ctx bar)).2.any (closes r.strategy.config.symbol (r.brokerQty.getD 0)) = true
  | _ => True

instance (condition : PositionRun → StrategyCtx → BarEvent → Bool) (r : PositionRun) :
    (e : LiveEvent) → Decidable (ExitsWhen condition r e)
  | .bar ctx bar =>
    inferInstanceAs (Decidable (r.isExitDue bar = true → condition r ctx.ctx bar = true →
      (r.step (.bar ctx bar)).2.any (closes r.strategy.config.symbol (r.brokerQty.getD 0)) = true))
  | .ack _ _ | .order _ _ _ | .stopOrder _ _ _ | .position _ _ _ | .timer _ _ | .snapshot _ _
  | .restored _ _ | .warmup _ _ | .restart _ => isTrue trivial

theorem exitsWhen_canExit (e : LiveEvent) : ExitsWhen canExit r e := by
  cases e with
  | bar ctx bar =>
    intro hdue hcan
    unfold isExitDue at hdue
    unfold canExit at hcan
    simp only [Bool.and_eq_true, decide_eq_true_eq, Option.any_eq_true, Bool.not_eq_true']
      at hdue hcan
    obtain ⟨⟨⟨⟨⟨⟨⟨hsymbol, horigin⟩, hsession⟩, pos, hopened, htime⟩, -⟩, hconfirmed⟩, hidle⟩,
      hdeferred⟩ := hdue
    obtain ⟨⟨hwatches, pos', hopened', hmatches⟩, hleave⟩ := hcan
    rw [hopened] at hopened'
    obtain rfl := Option.some.inj hopened'
    have hleaves := leaves_onBar ctx.live ⟨hopened, hconfirmed, hidle, hdeferred⟩ hleave hwatches
      hsymbol horigin hsession htime
    exact hleaves.closes hmatches
  | _ => trivial

end PositionRun

namespace Sample

def held : List LiveEvent := [signalBar morning, position (morning + 1) (-1) false]

def cutoff : ℤ := morning + 10200

def touched : List LiveEvent := held ++ [bar cutoff 100 101 99 100]

def nextDay : List LiveEvent := held ++ [quietBar (cutoff + 86400)]

/-- The position is left at the force-exit time. -/
example : (Reaction.outputs PositionRun.step (PositionRun.start (config true))
    (held ++ [quietBar cutoff])).any (closes "USDRUBF" (-1)) = true := by
  decide +kernel

end Sample

end AlorRs.AlorUsdrubfHybrid
