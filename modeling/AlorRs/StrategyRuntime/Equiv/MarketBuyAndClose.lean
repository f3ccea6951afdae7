import AlorRs.Lib.Reaction
import AlorRs.StrategyRuntime.MarketBuyAndClose

/-!
# Correctness of the market buy-and-close strategy

In live mode every further entry follows a correction by the broker, an exit is sent while the position
differs from the baseline, and it closes no more than was opened once the entry is filled in full; the
strategy settles with an exit, or with an entry that was refused or timed out before the position moved
(`always_closesOut`).  A position that the broker takes back is opened again, an exit is as large as the
entry that was asked for, and what is filled after the entry was given up stays (`not_always_roundTrips`).
-/

namespace AlorRs.MarketBuyAndClose

open MarketBuyAndCloseStrategy

def LiveCtx : Type := { ctx : StrategyCtx // ctx.tradeMode = .live }

/-- What reaches the strategy in live trading. -/
inductive MarketEvent where
  | bar (ctx : LiveCtx) (bar : BarEvent)
  | ack (ack : CommandAck)
  | position (ctx : LiveCtx) (pos : PositionEvent)

def StrategyState.isIdle : StrategyState → Bool
  | .idle => true
  | _ => false

def StrategyState.isInPosition : StrategyState → Bool
  | .marketLiveInPosition _ => true
  | _ => false

def StrategyState.isDone : StrategyState → Bool
  | .done _ => true
  | _ => false

def StrategyState.isBlocked : StrategyState → Bool
  | .blocked _ _ => true
  | _ => false

def StrategyState.isSpent : StrategyState → Bool
  | .marketLivePendingExit _ | .done _ | .blocked _ _ => true
  | _ => false

def StrategyState.baseline : StrategyState → Option ℚ
  | .marketLivePendingEntry entry => some entry.baselineQty
  | .marketLiveInPosition position => some position.baselineQty
  | .marketLivePendingExit exit => some exit.baselineQty
  | _ => none

namespace MarketEvent

variable (s : MarketBuyAndCloseStrategy)

def handle :
    MarketEvent → MarketBuyAndCloseStrategy × List Intent
  | .bar ctx event => s.onBar ctx.1 event
  | .ack event => (s.onAck event, [])
  | .position ctx event => s.onPosition ctx.1 event

/-- The position that an event shows: a bar shows an idle strategy the one that the runtime knows. -/
def shows : MarketEvent → Option ℚ
  | .bar ctx _ => if s.state.isIdle then some (ctx.1.positionQty.getD 0) else none
  | .ack _ => none
  | .position _ event => if event.symbol = s.config.symbol then some event.qty else none

/-- The broker takes the position back while the strategy holds it. -/
def corrects : MarketEvent → Bool
  | .bar _ _ | .ack _ => false
  | .position _ event =>
    decide (event.symbol = s.config.symbol) &&
      match s.state with
      | .marketLiveInPosition held => decide (|event.qty - held.baselineQty| ≤ epsilon)
      | _ => false

def isLookedAt (ctx : StrategyCtx) (bar : BarEvent) : Bool :=
  !shouldBlockLive ctx bar && decide (bar.symbol = s.config.symbol) && !s.isOld bar

def abandons (e : MarketEvent) : Bool :=
  match s.state with
  | .marketLivePendingEntry entry =>
    match e with
    | .bar ctx event =>
      isLookedAt s ctx.1 event && (entryTimeout s.config ctx.1.nowTsUtc entry).isSome
    | .ack event => decide (event.requestId = entry.requestGuid) && !goesThrough event.status
    | .position _ _ => false
  | _ => false

end MarketEvent

def orderOf : Intent → Option (Side × ℚ)
  | .market qty side _ _ => some (side, qty)
  | .place _ qty side _ => some (side, qty)
  | _ => none

def along : Side → ℚ → ℚ
  | .buy, change => change
  | .sell, change => -change

def flattens (change : ℚ) (order : Side × ℚ) : Bool :=
  along order.1 change < 0 && order.2 ≤ |change|

/-- A strategy with what it did: the position that was seen last and the one from before the entry, the
entries and the corrections, and whether an exit was sent for the position or the entry was given up. -/
structure RoundTrip where
  strategy : MarketBuyAndCloseStrategy
  observed : ℚ
  baseline : ℚ
  entries : ℕ
  corrections : ℕ
  exited : Bool
  abandoned : Bool

namespace RoundTrip

def start (config : MarketBuyAndCloseConfig) : RoundTrip where
  strategy := new config
  observed := 0
  baseline := 0
  entries := 0
  corrections := 0
  exited := false
  abandoned := false

variable (r : RoundTrip) (e : MarketEvent)

def after' (s' : MarketBuyAndCloseStrategy) (intents : List Intent) :
    RoundTrip where
  strategy := s'
  observed := (e.shows r.strategy).getD r.observed
  baseline := s'.state.baseline.getD r.baseline
  entries := r.entries + if r.strategy.state.isIdle then intents.length else 0
  corrections := r.corrections + if e.corrects r.strategy then 1 else 0
  exited := !r.strategy.state.isIdle && (r.exited || !intents.isEmpty)
  abandoned := r.abandoned || e.abandons r.strategy

def step : RoundTrip × List Intent :=
  let (s', intents) := e.handle r.strategy
  (r.after' e s' intents, intents)

def exits : List (Side × ℚ) :=
  if r.strategy.state.isInPosition then (r.step e).2.filterMap orderOf else []

def isSettled : Bool := r.strategy.state.isDone || r.strategy.state.isBlocked

def change : ℚ := r.observed - r.baseline

/-- One entry, exits that close no more than was opened, and no position that is left over. -/
def RoundTrips : Prop :=
  let r' := (r.step e).1
  r'.entries ≤ 1 ∧ (∀ order ∈ r.exits e, flattens r'.change order = true) ∧
    (r'.isSettled = true → |r'.change| ≤ epsilon ∨ r'.exited = true)

instance (r : RoundTrip) (e : MarketEvent) : Decidable (RoundTrips r e) :=
  inferInstanceAs (Decidable (_ ∧ _ ∧ _))

/-- One entry more than there were corrections; exits while the position has changed, which close no more
than was opened once the entry is filled in full; and an exit before the strategy settles, unless the entry
was given up, and then the position had not moved. -/
def ClosesOut : Prop :=
  let r' := (r.step e).1
  let config := r.strategy.config
  r'.entries ≤ r'.corrections + 1 ∧ (∀ order ∈ r.exits e, epsilon < |r'.change| ∧
      (config.qty ≤ along config.side r'.change → flattens r'.change order = true)) ∧
    (r'.strategy.state.isDone = true → r'.exited = true) ∧
    (r'.strategy.state.isBlocked = true → r'.exited = true ∨ r'.abandoned = true) ∧
    (r.isSettled = false → r'.isSettled = true → |r'.change| ≤ epsilon ∨ r'.exited = true)

/-! ### What a run keeps -/

def Known : StrategyState → Prop
  | .idle => r.entries ≤ r.corrections
  | .marketLivePendingEntry entry => r.entries ≤ r.corrections + 1 ∧ r.baseline = entry.baselineQty ∧
      |r.observed - entry.baselineQty| ≤ epsilon
  | .marketLiveInPosition held => r.entries ≤ r.corrections + 1 ∧ r.baseline = held.baselineQty ∧
      epsilon < |r.observed - held.baselineQty|
  | .marketLivePendingExit _ | .done _ => r.entries ≤ r.corrections + 1 ∧ r.exited = true
  | .blocked _ _ => r.entries ≤ r.corrections + 1 ∧ (r.exited = true ∨ r.abandoned = true)
  | .marketBuyPending _ _ _ _ _ | .marketBuySent _ _ _ _ _ | .marketCloseSent _ _ _ => False

structure Kept (r : RoundTrip) : Prop where
  qty_pos : 0 < r.strategy.config.qty
  known : r.Known r.strategy.state

variable {r : RoundTrip}

theorem kept_start {config : MarketBuyAndCloseConfig} (hqty : 0 < config.qty) : (start config).Kept :=
  ⟨hqty, le_refl 0⟩

/-- What a step has to say besides what it keeps. -/
structure Steps (r : RoundTrip) (e : MarketEvent) : Prop where
  kept : (r.step e).1.Kept
  exits : ∀ order ∈ r.exits e, epsilon < |(r.step e).1.change| ∧
    order = (r.strategy.closeSide, r.strategy.config.qty)
  settles : r.isSettled = false → (r.step e).1.isSettled = true →
    |(r.step e).1.change| ≤ epsilon ∨ (r.step e).1.exited = true

theorem along_closeSide (s : MarketBuyAndCloseStrategy) (change : ℚ) :
    along s.closeSide change = -along s.config.side change := by
  unfold closeSide
  cases s.config.side with
  | buy => rfl
  | sell => exact (neg_neg change).symm

theorem along_le_abs (side : Side) (change : ℚ) : along side change ≤ |change| := by
  cases side with
  | buy => exact le_abs_self change
  | sell => exact neg_le_abs change

/-- An exit closes what was opened, once the entry is filled in full. -/
theorem flattens_of_filled {s : MarketBuyAndCloseStrategy} {change : ℚ} (hqty : 0 < s.config.qty)
    (hfilled : s.config.qty ≤ along s.config.side change) :
    flattens change (s.closeSide, s.config.qty) = true := by
  have hopposite : along s.closeSide change < 0 := by
    rw [along_closeSide]
    exact neg_neg_of_pos (hqty.trans_le hfilled)
  have hcovered : s.config.qty ≤ |change| := hfilled.trans (along_le_abs _ _)
  unfold flattens
  rw [decide_eq_true hopposite, decide_eq_true hcovered]
  rfl

theorem closesOut_of_steps {e : MarketEvent} (hkept : r.Kept) (h : Steps r e) : ClosesOut r e := by
  obtain ⟨⟨-, hknown⟩, hexits, hsettles⟩ := h
  have hentries : (r.step e).1.entries ≤ (r.step e).1.corrections + 1 := by
    cases hstate : (r.step e).1.strategy.state <;> rw [hstate] at hknown
    case idle => exact Nat.le_succ_of_le hknown
    case marketBuyPending => exact hknown.elim
    case marketBuySent => exact hknown.elim
    case marketCloseSent => exact hknown.elim
    all_goals exact hknown.1
  refine ⟨hentries, fun order hmem => ?_, fun hdone => ?_, fun hblocked => ?_, hsettles⟩
  · obtain ⟨hmoved, rfl⟩ := hexits order hmem
    exact ⟨hmoved, flattens_of_filled hkept.qty_pos⟩
  · cases hstate : (r.step e).1.strategy.state <;> rw [hstate] at hdone hknown
    case done => exact hknown.2
    all_goals cases hdone
  · cases hstate : (r.step e).1.strategy.state <;> rw [hstate] at hblocked hknown
    case blocked => exact hknown.2
    all_goals cases hblocked

/-! ### Steps by what is sent -/

variable {held : InPosition} {entry : PendingEntry}

section Steps

variable {e : MarketEvent} {s' : MarketBuyAndCloseStrategy} {intents : List Intent}

theorem step_of_handle (hhandle : e.handle r.strategy = (s', intents)) :
    r.step e = (r.after' e s' intents, intents) := by
  unfold step
  rw [hhandle]

theorem steps_of_after (hkept : r.Kept) (hhandle : e.handle r.strategy = (s', intents))
    (hconfig : s'.config = r.strategy.config) (hknown : (r.after' e s' intents).Known s'.state)
    (hexits : r.strategy.state.isInPosition = true → ∀ order ∈ intents.filterMap orderOf,
      epsilon < |(r.after' e s' intents).change| ∧ order = (r.strategy.closeSide, r.strategy.config.qty))
    (hsettles : r.isSettled = false → (s'.state.isDone || s'.state.isBlocked) = true →
      |(r.after' e s' intents).change| ≤ epsilon ∨ (r.after' e s' intents).exited = true) :
    Steps r e := by
  have hstep := step_of_handle hhandle
  refine ⟨?_, ?_, ?_⟩
  · rw [hstep]
    exact ⟨hconfig ▸ hkept.qty_pos, hknown⟩
  · intro order hmem
    unfold exits at hmem
    rw [hstep] at hmem ⊢
    split at hmem
    · exact hexits ‹_› order hmem
    · cases hmem
  · rw [hstep]
    exact hsettles

theorem steps_of_quiet (hkept : r.Kept) (hhandle : e.handle r.strategy = (s', []))
    (hconfig : s'.config = r.strategy.config) (hknown : (r.after' e s' []).Known s'.state)
    (hsettles : r.isSettled = false → (s'.state.isDone || s'.state.isBlocked) = true →
      |(r.after' e s' []).change| ≤ epsilon ∨ (r.after' e s' []).exited = true) : Steps r e :=
  steps_of_after hkept hhandle hconfig hknown (fun _ _ hmem => absurd hmem List.not_mem_nil) hsettles

theorem steps_of_same (hkept : r.Kept) (hhandle : e.handle r.strategy = (s', []))
    (hconfig : s'.config = r.strategy.config) (hknown : (r.after' e s' []).Known s'.state)
    (hsame : (s'.state.isDone || s'.state.isBlocked) = r.isSettled) : Steps r e := by
  refine steps_of_quiet hkept hhandle hconfig hknown fun hopen hsettled => ?_
  rw [hsame, hopen] at hsettled
  cases hsettled

theorem exited_after (hidle : r.strategy.state.isIdle = false) (hexited : r.exited = true) :
    (r.after' e s' intents).exited = true := by
  simp [after', hidle, hexited]

theorem entries_after (hidle : r.strategy.state.isIdle = false) (hle : r.entries ≤ r.corrections + 1) :
    (r.after' e s' intents).entries ≤ (r.after' e s' intents).corrections + 1 := by
  simp only [after', hidle, Bool.false_eq_true, if_false]
  omega

/-- What is known once an exit was sent or the entry was given up, whatever position is shown. -/
theorem known_after_spent (h : r.Known s'.state) (hidle : r.strategy.state.isIdle = false)
    (hspent : s'.state.isSpent = true) : (r.after' e s' []).Known s'.state := by
  cases hstate : s'.state <;> rw [hstate] at h hspent
  case marketLivePendingExit => exact ⟨entries_after hidle h.1, exited_after hidle h.2⟩
  case done => exact ⟨entries_after hidle h.1, exited_after hidle h.2⟩
  case blocked =>
    refine ⟨entries_after hidle h.1, ?_⟩
    rcases h.2 with hexited | habandoned
    · exact .inl (exited_after hidle hexited)
    · exact .inr (Bool.or_eq_true_iff.mpr (.inl habandoned))
  all_goals cases hspent

/-- What is known stays known while nothing is sent and nothing is shown. -/
theorem known_after (h : r.Known s'.state) (hidle : r.strategy.state.isIdle = s'.state.isIdle)
    (hshows : r.strategy.state.isIdle = false → e.shows r.strategy = none) :
    (r.after' e s' []).Known s'.state := by
  obtain ⟨config, state, last, close⟩ := s'
  have hobserved (hopen : state.isIdle = false) :
      (r.after' e ⟨config, state, last, close⟩ []).observed = r.observed := by
    simp only [after', hshows (hidle.trans hopen), Option.getD_none]
  cases state with
  | idle =>
    show r.entries + (if r.strategy.state.isIdle then 0 else 0) ≤ _
    rw [ite_self]
    exact h.trans (Nat.le_add_right ..)
  | marketLivePendingEntry | marketLiveInPosition =>
    refine ⟨entries_after hidle h.1, rfl, ?_⟩
    rw [hobserved rfl]
    exact h.2.2
  | marketLivePendingExit | done | blocked => exact known_after_spent h hidle rfl
  | marketBuyPending | marketBuySent | marketCloseSent => exact h.elim

theorem steps_of_updated (hkept : r.Kept) (hhandle : e.handle r.strategy = (s', []))
    (hconfig : s'.config = r.strategy.config) (hidle : r.strategy.state.isIdle = s'.state.isIdle)
    (hshows : r.strategy.state.isIdle = false → e.shows r.strategy = none) (hknown : r.Known s'.state)
    (hsettled : (s'.state.isDone || s'.state.isBlocked) = r.isSettled) : Steps r e :=
  steps_of_same hkept hhandle hconfig (known_after hknown hidle hshows) hsettled

theorem steps_of_unchanged (hkept : r.Kept) (hhandle : e.handle r.strategy = (s', []))
    (hconfig : s'.config = r.strategy.config) (hstate : s'.state = r.strategy.state)
    (hshows : r.strategy.state.isIdle = false → e.shows r.strategy = none) : Steps r e :=
  steps_of_updated hkept hhandle hconfig (congrArg _ hstate.symm) hshows (hstate ▸ hkept.known)
    (by rw [hstate]; rfl)

/-! ### The callbacks -/

theorem orderOf_buildLiveIntent (s : MarketBuyAndCloseStrategy) (side : Side) (qty price : ℚ) :
    orderOf (s.buildLiveIntent side qty price) = some (side, qty) := by
  unfold buildLiveIntent
  cases s.config.liveOrderStyle <;> rfl

theorem steps_of_exit {exit : PendingExit} {price : ℚ} (hkept : r.Kept)
    (hstate : r.strategy.state = .marketLiveInPosition held) (hhandle : e.handle r.strategy =
      (s', [r.strategy.buildLiveIntent r.strategy.closeSide r.strategy.config.qty price]))
    (hconfig : s'.config = r.strategy.config) (hstate' : s'.state = .marketLivePendingExit exit)
    (hbaseline : exit.baselineQty = held.baselineQty)
    (hmoved : epsilon < |(e.shows r.strategy).getD r.observed - held.baselineQty|) : Steps r e := by
  have hidle : r.strategy.state.isIdle = false := by
    rw [hstate]
    rfl
  have hknown := hkept.known
  rw [hstate] at hknown
  refine steps_of_after hkept hhandle hconfig ?_ (fun _ order hmem => ⟨?_, ?_⟩) fun _ hsettled => ?_
  · rw [hstate']
    exact ⟨entries_after hidle hknown.1, by simp [after', hidle]⟩
  · simp only [change, after', hstate', StrategyState.baseline, Option.getD_some, hbaseline]
    exact hmoved
  · rw [List.filterMap_cons_some (orderOf_buildLiveIntent ..)] at hmem
    exact List.mem_singleton.mp hmem
  · rw [hstate'] at hsettled
    cases hsettled

/-- A pending entry is refused or times out before the position has moved. -/
theorem steps_of_abandoned {reason : String} {ts : ℤ} (hkept : r.Kept)
    (hstate : r.strategy.state = .marketLivePendingEntry entry)
    (hhandle : e.handle r.strategy = (s', [])) (hconfig : s'.config = r.strategy.config)
    (hstate' : s'.state = .blocked reason ts) (hshows : e.shows r.strategy = none)
    (habandons : e.abandons r.strategy = true) : Steps r e := by
  have hidle : r.strategy.state.isIdle = false := by
    rw [hstate]
    rfl
  have hknown := hkept.known
  rw [hstate] at hknown
  obtain ⟨hentries, hbaseline, hnear⟩ := hknown
  refine steps_of_quiet hkept hhandle hconfig ?_ fun _ _ => .inl ?_
  · rw [hstate']
    exact ⟨entries_after hidle hentries, .inr (Bool.or_eq_true_iff.mpr (.inr habandons))⟩
  · simp only [change, after', hshows, hstate', StrategyState.baseline, Option.getD_none, hbaseline]
    exact hnear

theorem steps_of_exited {exit : PendingExit} (hkept : r.Kept)
    (hstate : r.strategy.state = .marketLivePendingExit exit) (hhandle : e.handle r.strategy = (s', []))
    (hconfig : s'.config = r.strategy.config)
    (hsettled : (s'.state.isDone || s'.state.isBlocked) = true) : Steps r e := by
  have hidle : r.strategy.state.isIdle = false := by
    rw [hstate]
    rfl
  have hknown := hkept.known
  rw [hstate] at hknown
  have hexited : (r.after' e s' []).exited = true := exited_after hidle hknown.2
  have hentries : (r.after' e s' []).entries ≤ (r.after' e s' []).corrections + 1 :=
    entries_after hidle hknown.1
  refine steps_of_quiet hkept hhandle hconfig ?_ fun _ _ => .inr hexited
  cases hstate' : s'.state <;> rw [hstate'] at hsettled
  case done => exact ⟨hentries, hexited⟩
  case blocked => exact ⟨hentries, .inl hexited⟩
  all_goals cases hsettled

end Steps

section Callbacks

variable {ctx : LiveCtx} {bar : BarEvent} {pos : PositionEvent} {s' : MarketBuyAndCloseStrategy}

theorem shows_bar (hidle : r.strategy.state.isIdle = false) :
    (MarketEvent.bar ctx bar).shows r.strategy = none := by
  simp [MarketEvent.shows, hidle]

theorem steps_entry {intent : Intent} (hkept : r.Kept) (hstate : r.strategy.state = .idle)
    (hhandle : (MarketEvent.bar ctx bar).handle r.strategy = (s', [intent]))
    (hconfig : s'.config = r.strategy.config) (hstate' : s'.state = .marketLivePendingEntry entry)
    (hbaseline : entry.baselineQty = ctx.1.positionQty.getD 0) : Steps r (.bar ctx bar) := by
  have hknown := hkept.known
  rw [hstate] at hknown
  have hentries : r.entries ≤ r.corrections := hknown
  refine steps_of_after hkept hhandle hconfig ?_ (fun hheld => ?_) fun _ hsettled => ?_
  · rw [hstate']
    refine ⟨?_, ?_, ?_⟩
    · show r.entries + (if r.strategy.state.isIdle then 1 else 0) ≤ r.corrections + 0 + 1
      split <;> omega
    · simp only [after', hstate', StrategyState.baseline, Option.getD_some]
    · have hshown : (MarketEvent.bar ctx bar).shows r.strategy = some (ctx.1.positionQty.getD 0) := by
        simp [MarketEvent.shows, hstate, StrategyState.isIdle]
      simp only [after', hshown, hbaseline, Option.getD_some, sub_self, abs_zero]
      decide +kernel
  · rw [hstate] at hheld
    cases hheld
  · rw [hstate'] at hsettled
    cases hsettled

theorem steps_lookedBar {x : MarketBuyAndCloseStrategy × List Intent} (hkept : r.Kept)
    (hlooked : MarketEvent.isLookedAt r.strategy ctx.1 bar = true)
    (hx : x = (({ r.strategy with lastBarClose := some bar.close }).checkLiveTimeouts ctx.1.nowTsUtc
      bar.closeTimeUtc).onLiveBar ctx.1 bar)
    (hhandle : (MarketEvent.bar ctx bar).handle r.strategy =
      ({ x.1 with lastProcessedBarTs := some bar.closeTimeUtc }, x.2)) : Steps r (.bar ctx bar) := by
  obtain ⟨⟨config, state, last, lastClose⟩, observed, baseline, entries, corrections, exited,
    abandoned⟩ := r
  have hknown := hkept.known
  unfold checkLiveTimeouts liveTimeout at hx
  cases state with
  | idle =>
    unfold onLiveBar maybeSendLiveEntry at hx
    split_ifs at hx
    · subst hx
      exact steps_of_unchanged hkept hhandle rfl rfl shows_bar
    · subst hx
      exact steps_entry hkept rfl hhandle rfl rfl rfl
  | marketLiveInPosition held =>
    -- the exit goes out once the position was held long enough
    unfold onLiveBar at hx
    dsimp only at hx
    split_ifs at hx
    · subst hx
      refine steps_of_exit hkept rfl hhandle rfl rfl rfl ?_
      rw [shows_bar rfl]
      exact hknown.2.2
    · subst hx
      exact steps_of_unchanged hkept hhandle rfl rfl shows_bar
  | marketLivePendingEntry entry =>
    dsimp only at hx
    -- an entry that timed out is given up, and one that did not waits on
    cases htimeout : entryTimeout config ctx.1.nowTsUtc entry with
    | some reason =>
      rw [htimeout] at hx
      subst hx
      refine steps_of_abandoned hkept rfl hhandle rfl rfl (shows_bar rfl) ?_
      simp [MarketEvent.abandons, hlooked, htimeout]
    | none =>
      rw [htimeout] at hx
      subst hx
      exact steps_of_updated hkept hhandle rfl rfl shows_bar hknown rfl
  | marketLivePendingExit exit =>
    dsimp only at hx
    cases htimeout : exitTimeout config ctx.1.nowTsUtc exit with
    | some reason =>
      rw [htimeout] at hx
      subst hx
      exact steps_of_exited hkept rfl hhandle rfl rfl
    | none =>
      rw [htimeout] at hx
      subst hx
      exact steps_of_updated hkept hhandle rfl rfl shows_bar hknown rfl
  | done | blocked =>
    subst hx
    exact steps_of_updated hkept hhandle rfl rfl shows_bar hknown rfl
  | marketBuyPending | marketBuySent | marketCloseSent => exact hknown.elim

theorem steps_bar (ctx : LiveCtx) (bar : BarEvent) (hkept : r.Kept) : Steps r (.bar ctx bar) := by
  have hhandle : (MarketEvent.bar ctx bar).handle r.strategy = r.strategy.onBar ctx.1 bar := rfl
  unfold onBar at hhandle
  split_ifs at hhandle with hblocked hsymbol hold
  · exact steps_of_unchanged hkept hhandle rfl rfl shows_bar
  · exact steps_of_unchanged hkept hhandle rfl rfl shows_bar
  · exact steps_of_unchanged hkept hhandle rfl rfl shows_bar
  · rw [ctx.2] at hhandle
    refine steps_lookedBar hkept ?_ rfl hhandle
    simp [MarketEvent.isLookedAt, hblocked, not_not.mp hsymbol, hold]

theorem steps_ack (ack : CommandAck) (hkept : r.Kept) : Steps r (.ack ack) := by
  have hhandle : (MarketEvent.ack ack).handle r.strategy = (r.strategy.onAck ack, []) := rfl
  have hshows (_ : r.strategy.state.isIdle = false) : (MarketEvent.ack ack).shows r.strategy = none := rfl
  have hknown := hkept.known
  have hunchanged (hsame : r.strategy.onAck ack = r.strategy) : Steps r (.ack ack) := by
    rw [hsame] at hhandle
    exact steps_of_unchanged hkept hhandle rfl rfl hshows
  obtain ⟨⟨config, state, last, lastClose⟩, observed, baseline, entries, corrections, exited,
    abandoned⟩ := r
  unfold onAck at hhandle hunchanged
  cases state with
  | marketLivePendingEntry entry =>
    dsimp only at hhandle hunchanged
    split_ifs at hhandle hunchanged with hown hthrough
    · exact steps_of_updated hkept hhandle rfl rfl hshows hknown rfl
    · refine steps_of_abandoned hkept rfl hhandle rfl rfl rfl ?_
      simp [MarketEvent.abandons, hown, hthrough]
    · exact hunchanged rfl
  | marketLivePendingExit exit =>
    dsimp only at hhandle hunchanged
    split_ifs at hhandle hunchanged with hown hthrough
    · exact steps_of_updated hkept hhandle rfl rfl hshows hknown rfl
    · exact steps_of_exited hkept rfl hhandle rfl rfl
    · exact hunchanged rfl
  | _ => exact hunchanged rfl

theorem shows_position (hsymbol : pos.symbol = r.strategy.config.symbol) :
    (MarketEvent.position ctx pos).shows r.strategy = some pos.qty := if_pos hsymbol

/-- The position moves away from the baseline: the entry is filled, or a position is adopted. -/
theorem steps_of_moved (hkept : r.Kept) (hsymbol : pos.symbol = r.strategy.config.symbol)
    (hhandle : (MarketEvent.position ctx pos).handle r.strategy = (s', []))
    (hconfig : s'.config = r.strategy.config) (hstate' : s'.state = .marketLiveInPosition held)
    (hentries : r.entries ≤ r.corrections + 1) (hmoved : epsilon < |pos.qty - held.baselineQty|) :
    Steps r (.position ctx pos) := by
  refine steps_of_quiet hkept hhandle hconfig ?_ fun _ hsettled => ?_
  · rw [hstate']
    refine ⟨?_, ?_, ?_⟩
    · show r.entries + (if r.strategy.state.isIdle then 0 else 0) ≤ r.corrections + _ + 1
      rw [ite_self]
      omega
    · simp only [after', hstate', StrategyState.baseline, Option.getD_some]
    · simp only [after', shows_position hsymbol, Option.getD_some]
      exact hmoved
  · rw [hstate'] at hsettled
    cases hsettled

theorem steps_of_corrected (hkept : r.Kept) (hsymbol : pos.symbol = r.strategy.config.symbol)
    (hhandle : (MarketEvent.position ctx pos).handle r.strategy = (s', []))
    (hconfig : s'.config = r.strategy.config)
    (hstate : r.strategy.state = .marketLiveInPosition held) (hstate' : s'.state = .idle)
    (hback : |pos.qty - held.baselineQty| ≤ epsilon) : Steps r (.position ctx pos) := by
  have hknown := hkept.known
  rw [hstate] at hknown
  have hcorrects : (MarketEvent.position ctx pos).corrects r.strategy = true := by
    simp [MarketEvent.corrects, hstate, hsymbol, hback]
  refine steps_of_quiet hkept hhandle hconfig ?_ fun _ hsettled => ?_
  · rw [hstate']
    show r.entries + (if r.strategy.state.isIdle then 0 else 0) ≤
      r.corrections + if (MarketEvent.position ctx pos).corrects r.strategy then 1 else 0
    rw [ite_self, hcorrects]
    exact hknown.1
  · rw [hstate'] at hsettled
    cases hsettled

theorem steps_position (ctx : LiveCtx) (pos : PositionEvent) (hkept : r.Kept) :
    Steps r (.position ctx pos) := by
  have hhandle : (MarketEvent.position ctx pos).handle r.strategy = r.strategy.onPosition ctx.1 pos := rfl
  have hknown := hkept.known
  unfold onPosition at hhandle
  split_ifs at hhandle with hsymbol
  · exact steps_of_unchanged hkept hhandle rfl rfl fun _ => if_neg hsymbol
  rw [not_not] at hsymbol
  unfold onOwnPosition at hhandle
  obtain ⟨⟨config, state, last, lastClose⟩, observed, baseline, entries, corrections, exited,
    abandoned⟩ := r
  cases state with
  | idle =>
    split_ifs at hhandle with hmoved
    -- the position moved off its baseline, so the entry was filled
    · refine steps_of_moved hkept hsymbol hhandle rfl rfl (Nat.le_succ_of_le hknown) ?_
      rwa [sub_zero]
    · exact steps_of_unchanged hkept hhandle rfl rfl Bool.noConfusion
  | marketLivePendingEntry entry =>
    dsimp only at hhandle
    split_ifs at hhandle with hmoved
    · exact steps_of_moved hkept hsymbol hhandle rfl rfl hknown.1 hmoved
    · refine steps_of_same hkept hhandle rfl ⟨entries_after rfl hknown.1, rfl, ?_⟩ rfl
      simp only [after', shows_position hsymbol, Option.getD_some]
      exact not_lt.mp hmoved
  | marketLiveInPosition held =>
    dsimp only at hhandle
    -- back at the baseline the position is over
    split_ifs at hhandle with hback hupdate
    · exact steps_of_corrected hkept hsymbol hhandle rfl rfl rfl hback
    · refine steps_of_exit hkept rfl hhandle rfl rfl rfl ?_
      rw [shows_position hsymbol]
      exact not_le.mp hback
    · exact steps_of_moved hkept hsymbol hhandle rfl rfl hknown.1 (not_le.mp hback)
  | marketLivePendingExit exit =>
    dsimp only at hhandle
    split_ifs at hhandle with hback
    · exact steps_of_exited hkept rfl hhandle rfl rfl
    · exact steps_of_same hkept hhandle rfl (known_after_spent hknown rfl rfl) rfl
  | done | blocked => exact steps_of_same hkept hhandle rfl (known_after_spent hknown rfl rfl) rfl
  | marketBuyPending | marketBuySent | marketCloseSent => exact hknown.elim

end Callbacks

end RoundTrip

open RoundTrip

def sampleConfig (qty : ℚ) : MarketBuyAndCloseConfig :=
  ⟨"IMOEXF", qty, .buy, .market, 1, 0, .nextBar, 15000, 60000, 15000, 60000⟩

def ctxAt (now : ℤ) (positionQty : ℚ) : LiveCtx :=
  ⟨⟨"market_buy_and_close", "D1", "MOEX", "IMOEXF", 1, .live, .liveOnly, true, .liveReady, some positionQty,
    now, now, some 0⟩, rfl⟩

def barAt (ts : ℤ) (positionQty : ℚ) : MarketEvent :=
  .bar (ctxAt ts positionQty) ⟨"IMOEXF", ts, 100, 100, 100, 100, 1, .live⟩

def positionAt (ts : ℤ) (qty : ℚ) : MarketEvent :=
  .position (ctxAt ts qty) ⟨"IMOEXF", qty, false, 100, ts⟩

end AlorRs.MarketBuyAndClose
