import AlorRs.Lib.Reaction
import AlorRs.StrategyRuntime.HybridIntradayRuntime.Events

/-!
# The cases of a position event, and the bar that is traded
-/

namespace AlorRs.HybridIntraday

namespace HybridIntradayRuntimeStrategy

variable {s : HybridIntradayRuntimeStrategy} {ctx : StrategyCtx}

/-! ### The cases of a position event -/

theorem onPosition_cases (s : HybridIntradayRuntimeStrategy) (ctx : StrategyCtx)
    (pos : PositionEvent) (nowMs : ℤ) :
    (pos.symbol ≠ s.config.symbol ∧ s.onPosition ctx pos nowMs = (s, [])) ∨
      ((s.pendingEntry = none ∨ |pos.qty| ≤ epsilon) ∧
        s.onPosition ctx pos nowMs = s.movePosition ctx pos nowMs) ∨
      ∃ entry, s.pendingEntry = some entry ∧ epsilon < |pos.qty| ∧
        (s.onPosition ctx pos nowMs = s.abortEntry ctx pos entry ∨
          s.onPosition ctx pos nowMs = (s.waitForEntry pos entry nowMs, []) ∨
          partialEntryProgressIsValid entry s.lastPositionQty pos.qty = true ∧
            s.onPosition ctx pos nowMs = s.fillEntry ctx pos entry) := by
  unfold onPosition
  by_cases hsymbol : pos.symbol ≠ s.config.symbol
  · exact .inl ⟨hsymbol, if_pos hsymbol⟩
  rw [if_neg hsymbol]
  right
  cases s.pendingEntry with
  | none => exact .inl ⟨.inl rfl, rfl⟩
  | some entry =>
    dsimp only
    by_cases hflat : |pos.qty| ≤ epsilon
    · exact .inl ⟨.inr hflat, if_pos hflat⟩
    rw [if_neg hflat]
    -- the entry is aborted, waits for its rest, or is filled
    refine .inr ⟨entry, rfl, not_le.mp hflat, ?_⟩
    by_cases hvalid : partialEntryProgressIsValid entry s.lastPositionQty pos.qty = true
    · rw [hvalid, if_neg (by decide)]
      by_cases hwaits : waitsForPartialEntryTarget entry ∧ |pos.qty| + epsilon < entry.targetQty
      · exact .inr (.inl (if_pos hwaits))
      · exact .inr (.inr ⟨rfl, if_neg hwaits⟩)
    · rw [Bool.not_eq_true] at hvalid
      exact .inl (by rw [hvalid]; rfl)

/-! ### The bar that is traded -/

/-- The strategy as it decides on a bar, with the scene; none where the bar is not acted on. -/
def atDecision (s : HybridIntradayRuntimeStrategy) (ctx : StrategyCtx) (bar : BarEvent) :
    Option (HybridIntradayRuntimeStrategy × BarScene) :=
  if s.dropsBar bar then none
  else
    match utcToLocalNaive s.config bar.closeTimeUtc with
    | none => none
    | some dtLocal =>
      let observed := s.observeBar dtLocal bar
      if suppressWeekendSignalGeneration s.config dtLocal ||
          suppressNonModelSessionBar s.config dtLocal || observed.isStartupReplay ctx bar then
        none
      else
        some (({ observed with startupLiveReplayBoundaryTsUtc := none }).prepareBar ctx bar,
          ⟨ctx, bar, dtLocal, s.lastDayLocal⟩)

variable {bar : BarEvent} {scene : BarScene} {t : HybridIntradayRuntimeStrategy}

theorem onBar_of_atDecision (h : s.atDecision ctx bar = some (t, scene)) :
    s.onBar ctx bar = t.tradeBar scene := by
  unfold atDecision at h
  split_ifs at h with hdrop
  unfold onBar
  rw [if_neg hdrop]
  cases hdt : utcToLocalNaive s.config bar.closeTimeUtc with
  | none =>
    rw [hdt] at h
    cases h
  | some dtLocal =>
    rw [hdt] at h
    dsimp only at h ⊢
    split_ifs at h with hskip
    rw [Bool.not_eq_true, Bool.or_eq_false_iff] at hskip
    obtain ⟨rfl, rfl⟩ := Prod.mk.inj (Option.some.inj h)
    rw [if_neg (by rw [hskip.1]; exact Bool.false_ne_true), modelBar, hskip.2]
    rfl

/-- A bar that is not acted on has no intents. -/
theorem onBar_of_not_atDecision (h : s.atDecision ctx bar = none) : (s.onBar ctx bar).2 = [] := by
  unfold onBar
  split_ifs with hdrop
  · rfl
  · unfold atDecision at h
    rw [if_neg hdrop] at h
    cases hdt : utcToLocalNaive s.config bar.closeTimeUtc with
    | none => rfl
    | some dtLocal =>
      rw [hdt] at h
      dsimp only at h ⊢
      by_cases hsuppressed : (suppressWeekendSignalGeneration s.config dtLocal ||
          suppressNonModelSessionBar s.config dtLocal) = true
      · rw [if_pos hsuppressed]
      · rw [if_neg hsuppressed]
        have hreplay : (s.observeBar dtLocal bar).isStartupReplay ctx bar = true := by
          rw [Bool.not_eq_true] at hsuppressed
          rw [hsuppressed] at h
          by_contra hneg
          rw [if_neg (by rw [Bool.false_or]; exact hneg)] at h
          cases h
        rw [modelBar, hreplay]
        rfl

theorem atDecision_scene (h : s.atDecision ctx bar = some (t, scene)) :
    scene.ctx = ctx ∧ scene.bar = bar := by
  unfold atDecision at h
  split_ifs at h
  split at h
  · cases h
  · dsimp only at h
    split_ifs at h
    obtain ⟨-, rfl⟩ := Prod.mk.inj (Option.some.inj h)
    exact ⟨rfl, rfl⟩

end HybridIntradayRuntimeStrategy

/-! ### The intents of a class -/

def ofClass (intentClass : IntentClass) (intents : List Intent) : List Intent :=
  intents.filter fun intent => intent.explicitClass = some intentClass

section OfClass

variable {intentClass : IntentClass} {intents : List Intent} {intent : Intent}

@[simp] theorem ofClass_append (intents' : List Intent) :
    ofClass intentClass (intents ++ intents') =
      ofClass intentClass intents ++ ofClass intentClass intents' := List.filter_append ..

theorem ofClass_eq_nil {other : IntentClass} (hne : other ≠ intentClass)
    (h : ∀ intent ∈ intents, intent.explicitClass = some other) :
    ofClass intentClass intents = [] := by
  rw [ofClass, List.filter_eq_nil_iff]
  intro intent hmem
  rw [decide_eq_true_eq, h intent hmem]
  exact fun heq => hne (Option.some.inj heq)

/-- Intents made of the identifiers of orders, all of one class. -/
theorem explicitClass_of_mem_toList {α : Type} {o : Option α} {f : α → Intent}
    (hf : ∀ a, (f a).explicitClass = some intentClass) :
    ∀ intent ∈ (o.map f).toList, intent.explicitClass = some intentClass := by
  intro intent hmem
  rw [Option.mem_toList, Option.map_eq_some_iff] at hmem
  obtain ⟨a, -, rfl⟩ := hmem
  exact hf a

end OfClass

namespace HybridIntradayRuntimeStrategy

/-! ### The classes of the parts' intents -/

variable {intent : Intent} {s : HybridIntradayRuntimeStrategy}

theorem class_of_mem_cancelAll {side : Option Side}
    (h : intent ∈ (s.emitCancelAllProtection side).2) : intent.explicitClass = some .cancelCleanup := by
  unfold emitCancelAllProtection at h
  rw [List.mem_append, List.mem_append] at h
  rcases h with (h | h) | h <;> exact explicitClass_of_mem_toList (fun _ => rfl) intent h

variable {ctx : StrategyCtx}

theorem class_of_mem_bracket {pos : PositionEvent} {entry : PendingEntry}
    (h : intent ∈ (s.emitMrBracketIntents ctx pos entry).2) :
    intent.explicitClass = some .protectiveRepair := by
  unfold emitMrBracketIntents at h
  by_cases hnone : entry.owner ≠ .meanReversion ∨ entry.entryStyle ≠ .bracket ∨ |pos.qty| ≤ epsilon
  · rw [if_pos hnone] at h
    cases h
  · rw [if_neg hnone] at h
    rcases List.mem_append.mp h with h | h <;>
      exact explicitClass_of_mem_toList (fun _ => rfl) intent h

theorem class_of_mem_repairBracket {nowTs : ℤ} {cycleId : CycleId}
    (h : intent ∈ (s.repairBracket ctx nowTs cycleId).2) :
    intent.explicitClass = some .protectiveRepair := by
  have hone {held : Bool} {only : Intent} (hclass : only.explicitClass = some .protectiveRepair)
      (hmem : intent ∈ if held then [] else [only]) :
      intent.explicitClass = some .protectiveRepair := by
    cases held with
    | true => cases hmem
    | false => rwa [List.mem_singleton.mp hmem]
  rcases List.mem_append.mp h with h | h <;> exact hone rfl h

theorem class_of_mem_onAck {ack : CommandAck} (h : intent ∈ (s.onAck ack).2) :
    intent.explicitClass = some .cancelCleanup := by
  -- the only intents of an ack are those that delete stop orders
  have hintents : (s.onAck ack).2 = [] ∨ (s.onAck ack).2 =
      (s.workingStopOrders.insertionSort (· ≤ ·)).map fun id => deleteStopIntent id none := by
    unfold onAck
    by_cases hentry : some ack.requestId = s.pendingEntryRequestId
    · rw [if_pos hentry]
      exact .inl rfl
    rw [if_neg hentry]
    by_cases hexit : some ack.requestId = s.pendingExitRequestId
    · rw [if_pos hexit]
      exact .inl rfl
    rw [if_neg hexit]
    by_cases htp : some ack.requestId = s.pendingTpRequestId
    · rw [if_pos htp]
      exact .inl rfl
    rw [if_neg htp]
    by_cases hsl : some ack.requestId = s.pendingSlRequestId
    · rw [if_pos hsl]
      exact .inl rfl
    rw [if_neg hsl]
    by_cases hcleanup : s.needsStopCleanup ack = true
    · rw [if_pos hcleanup]
      exact .inr rfl
    · rw [if_neg hcleanup]
      exact .inl rfl
  rcases hintents with hnone | hcleanup
  · rw [hnone] at h
    cases h
  · rw [hcleanup] at h
    obtain ⟨id, -, rfl⟩ := List.mem_map.mp h
    rfl

theorem intents_onOrder (s : HybridIntradayRuntimeStrategy) (ctx : StrategyCtx) (ord : OrderEvent)
    (nowMs : ℤ) : (s.onOrder ctx ord nowMs).2 = [] := by
  unfold onOrder
  by_cases hforeign : ord.symbol ≠ s.config.symbol ∨ !isOurTag ctx ord.comment
  · rw [if_pos hforeign]
  · rw [if_neg hforeign]

theorem class_of_mem_seeSlOrder {ord : StopOrderEvent} {status : String} {nowMs : ℤ}
    (h : intent ∈ (s.seeSlOrder ord status nowMs).2) : intent.explicitClass = some .cancelCleanup := by
  unfold seeSlOrder at h
  by_cases htriggered : isTriggeredStatus status = true
  · rw [if_pos htriggered] at h
    exact explicitClass_of_mem_toList (fun _ => rfl) intent h
  · rw [if_neg htriggered] at h
    cases h

theorem class_of_mem_onStopOrder {ord : StopOrderEvent} {nowMs : ℤ}
    (h : intent ∈ (s.onStopOrder ctx ord nowMs).2) : intent.explicitClass = some .cancelCleanup := by
  unfold onStopOrder at h
  dsimp only at h
  by_cases hforeign : ord.symbol ≠ s.config.symbol ∨ !isOurTag ctx ord.comment
  · rw [if_pos hforeign] at h
    cases h
  · rw [if_neg hforeign] at h
    by_cases hsl : tagRole ord.comment = some .sl
    · rw [if_pos hsl] at h
      exact class_of_mem_seeSlOrder h
    · rw [if_neg hsl] at h
      cases h

/-- The classes that an emergency exit leaves out. -/
theorem ofClass_residual {other : IntentClass} (hcancel : other ≠ .cancelCleanup)
    (hexit : other ≠ .exit) (s : HybridIntradayRuntimeStrategy) (ctx : StrategyCtx)
    (pos : PositionEvent) (reason : String) :
    ofClass other (s.emitBrokerResidualEmergencyExit ctx pos reason).2 = [] := by
  unfold emitBrokerResidualEmergencyExit
  split_ifs
  · rfl
  · dsimp only
    rw [ofClass_append, ofClass_eq_nil hcancel.symm fun _ => class_of_mem_cancelAll,
      ofClass_eq_nil hexit.symm fun intent hmem => by rw [List.mem_singleton.mp hmem]; rfl]
    rfl

end HybridIntradayRuntimeStrategy

/-! ### A configuration and events for examples -/

namespace Sample

/-- A contract that trades the previous day's range, with a bracket in the morning. -/
def sampleConfig : HybridIntradayRuntimeConfig where
  symbol := "IMOEXF"
  mrVariant := .classicPrevDayRange
  liveMrEntriesEnabled := true
  mrGatePolicy := .disabled
  riskGateMode := .disabled
  weekendStatePolicy := .skip
  modelSessionStartTime := none
  modelSessionEndTime := none
  qty := 1
  liveOrderStyle := .market
  tickSize := 1 / 2
  marketableLimitOffsetTicks := 0
  timezoneOffsetHours := 0
  sessionCloseHour := 23
  sessionCloseMinute := 49
  weekendsOff := true
  stopEndBufferSec := 60
  repairDeadlineSec := 20
  slEscalateTimeoutSec := 5
  maxRepairRetries := 3
  repairBackoffBaseSec := 2
  repairBackoffMaxSec := 60
  pendingTimeoutSec := 60
  partialEntryFillTimeoutMs := 1000
  mrConfig :=
    { minRangeLong := 13 / 1000
      maxRangeLong := 35 / 1000
      kLong := 32 / 1000
      takeKLong := 11 / 100
      stopKLong := 44 / 100
      minRangeShort := 10 / 1000
      maxRangeShort := 45 / 1000
      kShort := 55 / 1000
      takeKShort := 16 / 100
      stopKShort := 43 / 100
      tickSize := 1 / 2
      sessionEndTime := .fromHms 11 59 0
      exitOffset := 300 }
  breakoutConfig :=
    { k := 65 / 100
      stop1Range := 51 / 100
      stop2Range := 35 / 100
      bigMoveThreshold := 25 / 1000
      minRange := 101 / 100
      minRangeMode := .absolute
      excludeWeekends := true
      waitHours := 3 }
  orchestratorConfig := ⟨.sameDay, .fromHms 9 30 0⟩

def liveCtx (tsUtc : ℤ) (positionQty : Option ℚ) : StrategyCtx :=
  ⟨"hybrid", "D1", "MOEX", "IMOEXF", 1 / 2, .live, .liveOnly, true, .liveReady, positionQty, tsUtc,
    tsUtc, none⟩

def liveBar (tsUtc : ℤ) (o h l close : ℚ) : BarEvent := ⟨"IMOEXF", tsUtc, close, o, h, l, 1, .live⟩

def minute (day hour min : ℤ) : ℤ := day * 86400 + hour * 3600 + min * 60

/-- A day's bar and the next morning's, which asks for a long entry of the mean reversion. -/
def entryBars : List HybridCall :=
  [.event (.bar (liveCtx (minute 0 10 0) none) (liveBar (minute 0 10 0) 1000 1010 990 1000)),
    .event (.bar (liveCtx (minute 1 10 0) none) (liveBar (minute 1 10 0) 1000 1000 999 (1999 / 2)))]

def entering : HybridIntradayRuntimeStrategy :=
  Reaction.after HybridIntradayRuntimeStrategy.answer (.new sampleConfig) entryBars

example : (entering.pendingEntry.map (·.owner), entering.pendingEntryRequestId.isSome) =
    (some .meanReversion, true) := by
  decide +kernel

end Sample

end AlorRs.HybridIntraday
