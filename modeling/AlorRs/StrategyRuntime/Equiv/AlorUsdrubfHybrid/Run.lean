import AlorRs.Lib.Reaction
import AlorRs.StrategyRuntime.Equiv.AlorUsdrubfHybrid.Moves

/-!
# Live runs of the USDRUBF strategy

What reaches the strategy of a live runtime, and what of it tells the broker's quantity.
-/

namespace AlorRs.AlorUsdrubfHybrid

open AlorUsdrubfHybridStrategy

/-- The context of a callback in live trading. -/
structure LiveCtx where
  ctx : StrategyCtx
  live : ctx.tradeMode = .live

/-- What reaches the strategy; the clock is given where a handler looks at it. -/
inductive LiveEvent where
  | bar (ctx : LiveCtx) (bar : BarEvent)
  | ack (ctx : LiveCtx) (ack : CommandAck)
  | order (ctx : LiveCtx) (ord : OrderEvent) (nowMs : ℤ)
  | stopOrder (ctx : LiveCtx) (ord : StopOrderEvent) (nowMs : ℤ)
  | position (ctx : LiveCtx) (pos : PositionEvent) (nowMs : ℤ)
  | timer (ctx : LiveCtx) (nowMs : ℤ)
  | snapshot (ctx : LiveCtx) (snapshot : BootstrapSnapshot)
  | restored (ctx : LiveCtx) (state : RuntimeStateRestored)
  | warmup (ctx : LiveCtx) (bars : List BarEvent)
  /-- The process starts again, from a state that was saved. -/
  | restart (saved : SavedState)

namespace LiveEvent

/-- The strategy answers an event; the runtime tells a timer the quantity that it knows of. -/
def handle (brokerQty : Option ℚ) (s : AlorUsdrubfHybridStrategy) :
    LiveEvent → AlorUsdrubfHybridStrategy × List Intent
  | .bar ctx event => s.onBar ctx.ctx event
  | .ack ctx event => s.onAck ctx.ctx event
  | .order ctx ord nowMs => s.onOrder ctx.ctx ord nowMs
  | .stopOrder ctx ord nowMs => s.onStopOrder ctx.ctx ord nowMs
  | .position ctx pos nowMs => s.onPosition ctx.ctx pos nowMs
  | .timer ctx nowMs => s.onTimer { ctx.ctx with positionQty := brokerQty } nowMs
  | .snapshot ctx told => s.onBootstrapSnapshot ctx.ctx told
  | .restored ctx state => s.onRuntimeStateRestored ctx.ctx state
  | .warmup ctx bars => ((s.warmupFromHistory ctx.ctx bars).1, [])
  | .restart saved => ((new s.config).setState (some saved), [])

def observed (symbol : String) : LiveEvent → Option ℚ
  | .position _ pos _ => if pos.symbol = symbol then some pos.qty else none
  | .snapshot _ told => (told.positionsStrategy.lookup symbol).map (·.qty)
  | _ => none

/-- The quantity that is known after an event; a process that starts again knows none. -/
def brokerQtyAfter (symbol : String) (brokerQty : Option ℚ) (e : LiveEvent) : Option ℚ :=
  match e with
  | .restart _ => none
  | e => (e.observed symbol).or brokerQty

end LiveEvent

/-! ### Whole quantities -/

/-- A whole number of units that an `i64` can hold. -/
def IsWhole (qty : ℚ) : Prop := ∃ n : ℤ, qty = n ∧ |n| < 2 ^ 63

section Whole

variable {qty : ℚ}

theorem isWhole_iff : IsWhole qty ↔ qty.den = 1 ∧ |qty.num| < 2 ^ 63 := by
  constructor
  · rintro ⟨n, rfl, hn⟩
    exact ⟨Rat.den_intCast n, by rwa [Rat.num_intCast]⟩
  · rintro ⟨hden, hnum⟩
    exact ⟨qty.num, (Rat.den_eq_one_iff qty).mp hden |>.symm, hnum⟩

instance : Decidable (IsWhole qty) := decidable_of_iff _ isWhole_iff.symm

theorem IsWhole.one_le (h : IsWhole qty) (hqty : qty ≠ 0) : 1 ≤ |qty| := by
  obtain ⟨n, rfl, -⟩ := h
  have hn : n ≠ 0 := fun hzero => hqty (by rw [hzero]; rfl)
  exact_mod_cast Int.one_le_abs hn

theorem IsWhole.not_flat (h : IsWhole qty) (hqty : qty ≠ 0) : ¬|qty| < flatQty := by
  have hone := h.one_le hqty
  have hflat : flatQty ≤ 1 := by decide +kernel
  intro hlt
  linarith

theorem IsWhole.wholeUnits_eq (h : IsWhole qty) (hqty : qty ≠ 0) :
    (wholeUnits qty : ℚ) = |qty| := by
  have hone := h.one_le hqty
  obtain ⟨n, rfl, hn⟩ := h
  have habs : |(n : ℚ)| = (|n| : ℤ) := (Int.cast_abs).symm
  have hpos : 1 ≤ |n| := by exact_mod_cast hone
  unfold wholeUnits asI64
  rw [habs, Int.floor_intCast, max_eq_left hpos, min_eq_left (by omega), max_eq_right (by omega)]

theorem brokerSide_of_signum (hqty : qty ≠ 0) {side : PositionSide}
    (hsign : signum qty = side.sign) : brokerSide qty = side := by
  unfold signum PositionSide.sign at hsign
  unfold brokerSide
  cases side with
  | long =>
    split_ifs at hsign with hnonneg
    · rw [if_pos (lt_of_le_of_ne hnonneg hqty.symm)]
    · norm_num at hsign
  | short =>
    split_ifs at hsign with hnonneg
    · norm_num at hsign
    · rw [if_neg (by linarith)]

end Whole

namespace Sample

def config (useFixedLiveSize : Bool) : AlorUsdrubfHybridConfig where
  symbol := "USDRUBF"
  timezoneOffsetHours := 3
  tickSize := 1 / 100
  modelSessionStartTime := .fromHms 9 0 0
  modelSessionEndTime := .fromHms 23 49 59
  mrMinRelRange := 6 / 1000
  mrMaxRelRange := 50 / 1000
  mrKShort := 45 / 1000
  mrTakeKShort := 16 / 100
  mrStopKShort := 43 / 100
  mrLastEntryTime := .fromHms 11 40 0
  mrForceExitTime := .fromHms 11 50 0
  boK := 45 / 100
  boStop1Range := 51 / 100
  boStop2Range := 35 / 100
  boBigMoveThreshold := 20 / 1000
  boWaitHours := 2
  boEodExitTime := .fromHms 23 30 0
  commissionPctPerSide := 4 / 1000
  positionSizeFraction := 9 / 10
  initialCash := 100000
  enableLiveExecution := true
  useFixedLiveSize := useFixedLiveSize
  liveFixedUnits := 1
  maxSilenceBarsSec := 1200

def morning : ℤ := 1777874400

def ctx (tsUtc : ℤ) : LiveCtx where
  ctx :=
    { strategyId := "alor_usdrubf_hybrid_v1"
      portfolio := "7502T0U"
      exchange := "MOEX"
      symbol := "USDRUBF"
      tickSize := 1 / 100
      tradeMode := .live
      paperExecutionMode := .liveOnly
      allowLiveOrders := true
      gatewayPhase := .liveReady
      positionQty := none
      eventTsUtc := tsUtc
      nowTsUtc := tsUtc
      lastBarTs := none }
  live := rfl

def bar (tsUtc : ℤ) (o h l close : ℚ) : LiveEvent :=
  .bar (ctx tsUtc) ⟨"USDRUBF", tsUtc, close, o, h, l, 1, .live⟩

def quietBar (tsUtc : ℤ) : LiveEvent := bar tsUtc 100 100 100 100

def signalBar (tsUtc : ℤ) : LiveEvent := bar tsUtc 100 101 99 (10005 / 100)

def position (tsUtc : ℤ) (qty : ℚ) (existing : Bool) : LiveEvent :=
  .position (ctx tsUtc) ⟨"USDRUBF", qty, existing, 100, tsUtc⟩ (1000 * tsUtc)

def rejected (tsUtc : ℤ) (requestId : Uuid) : LiveEvent :=
  .ack (ctx tsUtc) (.rejected requestId "rejected" "rejected" tsUtc)

end Sample

end AlorRs.AlorUsdrubfHybrid
