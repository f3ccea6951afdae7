import AlorRs.StrategyRuntime.ShadowReaction.Basic
import Mathlib.Algebra.Order.Floor.Ring
import Mathlib.Data.Rat.Floor

/-!
# The reaction model of USDRUBF

The previous-day and the VWAP family of the model.  As for IMOEXF, what is decided when a bar is closed
is done at the open of the next one.
-/

namespace AlorRs.ShadowReaction.Usdrubf

open Outcome

/-! ### Settings -/

inductive Family where
  | previousDay | vwap
deriving DecidableEq, Repr

structure Config where
  modelId : String
  family : Family
  contextHour : ℕ
  clockHour : ℕ
  mrHorizon : ℕ
  boWait : ℕ
  mrStartDelay : ℕ
deriving DecidableEq, Repr

def opening (date : NaiveDate) (hour : ℕ) : ℕ := if date < transition then 9 else hour

namespace Config

def validate (cfg : Config) : Except String Unit := do
  ensure (cfg.contextHour = 7 || cfg.contextHour = 9) "unsupported context hour"
  ensure (cfg.clockHour = cfg.contextHour) "clock/context mismatch"
  ensure (cfg.mrHorizon = 3 || cfg.mrHorizon = 4) "unsupported MR horizon"
  ensure (cfg.boWait = 2 || cfg.boWait = 4) "unsupported BO wait"
  ensure (cfg.mrStartDelay = 0) "unsupported MR delay"

def eligible (cfg : Config) (bar : Bar) : Bool :=
  isWeekday bar.date && (time (opening bar.date cfg.contextHour) 0).le bar.time &&
    !(time 23 50).le bar.time

end Config

/-! ### Bars -/

def isValidOhlc (bar : Bar) : Bool :=
  0 < bar.low && bar.low ≤ bar.open && bar.open ≤ bar.high && bar.low ≤ bar.close &&
    bar.close ≤ bar.high

/-- The loop of `validate_raw`, after a bar; a number that is not finite is none here. -/
def validateAfter : Option NaiveDateTime → List Bar → Except String Unit
  | _, [] => .ok ()
  | previous, bar :: bars => do
    ensure (previous.all fun ts => !bar.tsLocal.le ts) "unordered/duplicate input"
    ensure (bar.tsLocal.minute % 10 = 0 && bar.time.secs % 60 = 0 && bar.time.frac = 0) "non-M10 label"
    ensure (isValidOhlc bar) "invalid OHLC"
    validateAfter (some bar.tsLocal) bars

def validateRaw (bars : List Bar) : Except String Unit := do
  ensure (!bars.isEmpty) "empty input"
  validateAfter none bars

def validateSession (date : NaiveDate) : NaiveDateTime → List Bar → Except String NaiveDateTime
  | expected, [] => .ok expected
  | expected, bar :: bars => do
    ensure (bar.tsLocal = expected)
      ("incomplete model session " ++ dateText date ++ ": expected " ++ expected.text)
    validateSession date (expected.addSecs 600) bars

def validateDates (cfg : Config) : List Bar → Except String Unit
  | [] => .ok ()
  | bar :: bars => do
    let day := bar :: bars.takeWhile (·.date = bar.date)
    let expected ← validateSession bar.date ⟨bar.date, time (opening bar.date cfg.contextHour) 0⟩ day
    ensure (expected = ⟨bar.date, time 23 50⟩) ("incomplete model session " ++ dateText bar.date)
    validateDates cfg (bars.dropWhile (·.date = bar.date))
  termination_by bars => bars.length
  decreasing_by
    have hle : (bars.dropWhile (·.date = bar.date)).length ≤ bars.length :=
      (List.dropWhile_sublist _).length_le
    simp only [List.length_cons]
    omega

def validateSessions (bars : List Bar) (cfg : Config) : Except String Unit := do
  ensure (!bars.isEmpty) "empty prepared input"
  validateDates cfg bars

/-! ### The state of an engine -/

abbrev Component : Type := Owner

def sign : Side → ℚ
  | .long => 1
  | .short => -1

structure Entry where
  owner : Component
  side : Side
  signal : NaiveDateTime
  action : NaiveDateTime
  scale : ℚ
  anchor : ℚ
  stop1 : ℚ
  stop2 : ℚ
deriving DecidableEq, Repr

structure Position where
  entry : Entry
  price : ℚ
  stop : Option ℚ
  take : Option ℚ
deriving DecidableEq, Repr

inductive ExitReason where
  | mrStop | mrTake | mrTimeCutoff | boStop2 (side : Side) | boStop1 (side : Side) | boEodExit
deriving DecidableEq, Repr

structure Exit where
  signal : NaiveDateTime
  action : NaiveDateTime
  reason : ExitReason
  ambiguous : Bool
deriving DecidableEq, Repr

inductive Pending where
  | entry (entry : Entry)
  | exit (exit : Exit)
deriving DecidableEq, Repr

inductive Role where
  | entry | exit | entrySuppressedTerminal
deriving DecidableEq, Repr

inductive EventReason where
  | mrEntry | boEntry | exit (reason : ExitReason) | terminalGuard
deriving DecidableEq, Repr

structure Event where
  modelId : String
  role : Role
  ts : NaiveDateTime
  signalTs : NaiveDateTime
  component : Component
  side : Side
  price : Option ℚ
  reason : EventReason
deriving DecidableEq, Repr

structure Trade where
  modelId : String
  component : Component
  side : Side
  entrySignalTs : NaiveDateTime
  scale : ℚ
  anchor : ℚ
  stop1 : ℚ
  stop2 : ℚ
  entryTs : NaiveDateTime
  entryPrice : ℚ
  stopPrice : Option ℚ
  takePrice : Option ℚ
  exitTs : NaiveDateTime
  exitSignalTs : NaiveDateTime
  exitPrice : ℚ
  exitReason : ExitReason
  grossPoints : ℚ
  ambiguousMrBar : Bool
  grossRub : ℚ
  feesRub : ℚ
  netRub : ℚ
  tickStressNetRub : ℚ
  costX2NetRub : ℚ
deriving DecidableEq, Repr

structure Kahan where
  sum : ℚ
  correction : ℚ
deriving DecidableEq, Repr

namespace Kahan

/-- `default`. -/
def zero : Kahan := ⟨0, 0⟩

def add (k : Kahan) (value : ℚ) : Kahan :=
  let adjusted := value - k.correction
  let next := k.sum + adjusted
  ⟨next, next - k.sum - adjusted⟩

end Kahan

structure Metrics where
  first : NaiveDateTime
  last : NaiveDateTime
  «open» : ℚ
  high : ℚ
  low : ℚ
  close : ℚ
  count : ℕ
  numerator : Kahan
  volume : Kahan
deriving DecidableEq, Repr

namespace Metrics

def new (bar : Bar) : Metrics :=
  ⟨bar.tsLocal, bar.tsLocal, bar.open, bar.high, bar.low, bar.close, 0, .zero, .zero⟩

variable (m : Metrics)

/-- `update`; exact sums do not overflow. -/
def update (bar : Bar) : Metrics :=
  let volume := max bar.volume 0
  { m with
    last := bar.tsLocal
    high := max m.high bar.high
    low := min m.low bar.low
    close := bar.close
    count := m.count + 1
    numerator := m.numerator.add ((bar.high + bar.low + bar.close) / 3 * volume)
    volume := m.volume.add volume }

def range : ℚ := m.high - m.low

def vwap : ℚ := if 0 < m.volume.sum then m.numerator.sum / m.volume.sum else m.close

end Metrics

def roundTick (price : ℚ) : ℚ := ⌊price / (1 / 100) + 1 / 2⌋ * (1 / 100)

inductive Branch where
  | notEvaluated | pendingActive | positionActive | invalidScaleOrPrice | noEligibleCandidate
  | entrySuppressedTerminal | mrSelected | boSelected
deriving DecidableEq, Repr

structure Engine where
  cfg : Config
  metrics : Option Metrics
  previous : Option Metrics
  previous2 : Option Metrics
  position : Option Position
  pending : Option Pending
  usedLong : Bool
  usedShort : Bool
  mrScheduled : ℕ
  branch : Branch
  trades : List Trade
  events : List Event
deriving DecidableEq, Repr

/-- A quotient of numbers, which is infinite, or none, where the divisor is zero. -/
inductive Quotient where
  | finite (value : ℚ) | infinite (positive : Bool) | nan
deriving DecidableEq, Repr

namespace Quotient

def of (a b : ℚ) : Quotient :=
  if b ≠ 0 then .finite (a / b) else if a = 0 then .nan else .infinite (decide (0 < a))

variable (q : Quotient)

/-- `q - 1.0`. -/
def sub (x : ℚ) : Quotient :=
  match q with
  | .finite value => .finite (value - x)
  | q => q

def atLeast (x : ℚ) : Bool :=
  match q with
  | .finite value => x ≤ value
  | .infinite positive => positive
  | .nan => false

def atMost (x : ℚ) : Bool :=
  match q with
  | .finite value => value ≤ x
  | .infinite positive => !positive
  | .nan => false

end Quotient

namespace Engine

def new (cfg : Config) : Engine where
  cfg := cfg
  metrics := none
  previous := none
  previous2 := none
  position := none
  pending := none
  usedLong := false
  usedShort := false
  mrScheduled := 0
  branch := .notEvaluated
  trades := []
  events := []

/-! ### Features -/

variable (e : Engine) (m : Metrics) (bar : Bar)

def priorReturn : Option Quotient := do
  let previous ← e.previous
  let previous2 ← e.previous2
  return (Quotient.of previous.close previous2.close).sub 1

/-- The anchors of MR and BO, the scale and the return, of a bar that was observed. -/
structure Features where
  mrAnchor : Option ℚ
  boAnchor : Option ℚ
  scale : Option ℚ
  growth : Quotient

def features : Features :=
  match e.cfg.family with
  | .previousDay =>
    { mrAnchor := e.previous.map (·.close)
      boAnchor := e.previous.map (·.close)
      scale := e.previous.map (·.range)
      growth := e.priorReturn.getD (.finite 0) }
  | .vwap =>
    { mrAnchor := some m.vwap
      boAnchor := some m.open
      scale := some m.range
      growth := .of (m.close - m.open) m.open }

/-- `setups`: whether the bar is one for the short MR, the long BO and the short BO. -/
def setups : Bool × Bool × Bool :=
  let features := e.features m
  match features.mrAnchor, features.boAnchor, features.scale with
  | some mr, some bo, some r =>
    if 0 < r ∧ 0 < m.close then
      (6 / 1000 < r / m.close && r / m.close < 50 / 1000 && 0 < m.close - mr &&
          m.close - mr < 35 / 1000 * r,
        features.growth.atLeast (-(20 / 1000)) && bo + 45 / 100 * r < m.close,
        features.growth.atMost (20 / 1000) && m.close < bo - 45 / 100 * r)
    else (false, false, false)
  | _, _, _ => (false, false, false)

def clock (e : Engine) (m : Metrics) : ℕ := opening m.first.date e.cfg.clockHour

def mrForce : NaiveTime := time (e.clock m + e.cfg.mrHorizon - 1) 50

/-! ### What is done at the open of a bar -/

def enter (entry : Entry) (bar : Bar) : Except String Engine := do
  ensure (entry.action = bar.tsLocal && e.position.isNone) "stale or overlapping entry"
  let position : Position :=
    match entry.owner with
    | .mr => ⟨entry, bar.open, some (roundTick (bar.open + 43 / 100 * entry.scale)),
        some (roundTick (bar.open - 16 / 100 * entry.scale))⟩
    | .bo => ⟨entry, bar.open, none, none⟩
  return { e with
    usedLong := e.usedLong || (entry.owner = .bo && entry.side = .long)
    usedShort := e.usedShort || (entry.owner = .bo && entry.side = .short)
    events := e.events ++ [{
      modelId := e.cfg.modelId
      role := .entry
      ts := bar.tsLocal
      signalTs := entry.signal
      component := entry.owner
      side := entry.side
      price := some bar.open
      reason := if entry.owner = .mr then .mrEntry else .boEntry }]
    position := some position
    pending := none }

def tradeOf (p : Position) (exit : Exit) (bar : Bar) : Trade :=
  let points := sign p.entry.side * (bar.open - p.price)
  let gross := points * 1000
  let fees := (p.price + bar.open) * 1000 * (462 / 10000000) * 2
  { modelId := e.cfg.modelId
    component := p.entry.owner
    side := p.entry.side
    entrySignalTs := p.entry.signal
    scale := p.entry.scale
    anchor := p.entry.anchor
    stop1 := p.entry.stop1
    stop2 := p.entry.stop2
    entryTs := p.entry.action
    entryPrice := p.price
    stopPrice := p.stop
    takePrice := p.take
    exitTs := bar.tsLocal
    exitSignalTs := exit.signal
    exitPrice := bar.open
    exitReason := exit.reason
    grossPoints := points
    ambiguousMrBar := exit.ambiguous
    grossRub := gross
    feesRub := fees
    netRub := gross - fees
    tickStressNetRub := gross - fees - 20
    costX2NetRub := gross - 2 * fees }

def leave (exit : Exit) (bar : Bar) : Except String Engine := do
  ensure (exit.action = bar.tsLocal) "stale exit"
  let p ← e.position.elim (.error "exit without position") .ok
  return { e with
    trades := e.trades ++ [e.tradeOf p exit bar]
    events := e.events ++ [{
      modelId := e.cfg.modelId
      role := .exit
      ts := bar.tsLocal
      signalTs := exit.signal
      component := p.entry.owner
      side := p.entry.side
      price := some bar.open
      reason := .exit exit.reason }]
    position := none
    pending := none }

def applyPending : Except String (Engine × Bool) :=
  match e.pending with
  | none => .ok (e, false)
  | some (.entry entry) => (e.enter entry bar).map (·, true)
  | some (.exit exit) => (e.leave exit bar).map (·, true)

/-! ### What is decided at the close of a bar -/

/-- `exit_reason`; a position of MR has its stop and its take. -/
def exitReason : Option (ExitReason × Bool) :=
  match e.position with
  | none => none
  | some p =>
    match p.entry.owner with
    | .mr =>
      let stopped := p.stop.any (· ≤ bar.high)
      let taken := p.take.any (bar.low ≤ ·)
      if stopped then some (.mrStop, taken)
      else if taken then some (.mrTake, false)
      else if (e.mrForce m).le bar.time then some (.mrTimeCutoff, false)
      else none
    | .bo =>
      let touched : Bool :=
        match p.entry.side with
        | .long => bar.low ≤ p.entry.stop2
        | .short => p.entry.stop2 ≤ bar.high
      if touched then some (.boStop2 p.entry.side, false)
      else if bar.tsLocal.minute = 50 ∧ (bar.close - p.entry.stop1) * sign p.entry.side < 0 then
        some (.boStop1 p.entry.side, false)
      else if (time 23 30).le bar.time then some (.boEodExit, false)
      else none

variable (owner : Component) (next : Option NaiveDateTime)

def decideExit : Except String Engine :=
  match e.exitReason m bar with
  | none => .ok e
  | some (reason, ambiguous) => do
    ensure (next = some bar.boundary) "no consecutive execution bar for exit"
    return { e with pending := some (.exit ⟨bar.tsLocal, bar.boundary, reason, ambiguous⟩) }

def selected : Option (Component × Side) :=
  let (mr, long, short) := e.setups m
  if (time (e.clock m + e.cfg.mrStartDelay) 0).le bar.time ∧
      bar.time.le (time (e.clock m + e.cfg.mrHorizon - 1) 40) = true ∧ mr = true then
    some (.mr, .short)
  else if (time (e.clock m + e.cfg.boWait) 0).le bar.time then
    if long && !e.usedLong then some (.bo, .long)
    else if short && !e.usedShort then some (.bo, .short)
    else none
  else none

/-- From when on it is too late to be entered. -/
def terminal : NaiveTime :=
  match owner with
  | .mr => time (e.clock m + e.cfg.mrHorizon) 0
  | .bo => time 23 30

/-- The entry of what was selected; the anchors are there when something is. -/
def entryOf (side : Side) (scale : ℚ) (bar : Bar) : Entry :=
  let features := e.features m
  let boAnchor := features.boAnchor.getD 0
  { owner := owner
    side := side
    signal := bar.tsLocal
    action := bar.boundary
    scale := scale
    anchor := if owner = .mr then features.mrAnchor.getD 0 else boAnchor
    stop1 := boAnchor + sign side * (51 / 100) * scale
    stop2 := boAnchor - sign side * (35 / 100) * scale }

/-- The event of an entry that would come too late. -/
def suppressed (side : Side) (bar : Bar) : Event where
  modelId := e.cfg.modelId
  role := .entrySuppressedTerminal
  ts := bar.boundary
  signalTs := bar.tsLocal
  component := owner
  side := side
  price := none
  reason := .terminalGuard

def decideEntry : Except String Engine :=
  match (e.features m).scale.filter (0 < ·) with
  | none => .ok { e with branch := .invalidScaleOrPrice }
  | some scale =>
    match e.selected m bar with
    | none => .ok { e with branch := .noEligibleCandidate }
    | some (owner, side) =>
      if (e.terminal m owner).le bar.boundary.time || next.isNone then
        .ok { e with
          events := e.events ++ [e.suppressed owner side bar]
          branch := .entrySuppressedTerminal }
      else do
        ensure (next = some bar.boundary) "no consecutive execution bar for entry"
        return { e with
          pending := some (.entry (e.entryOf m owner side scale bar))
          mrScheduled := if owner = .mr then e.mrScheduled + 1 else e.mrScheduled
          branch := if owner = .mr then .mrSelected else .boSelected }

def decide (e : Engine) (m : Metrics) (bar : Bar) (next : Option NaiveDateTime) :
    Except String Engine := do
  let e ← e.decideExit m bar next
  if e.pending.isSome then return { e with branch := .pendingActive }
  else if e.position.isSome then return { e with branch := .positionActive }
  else e.decideEntry m bar next

/-! ### A session over frozen metrics -/

def startFrozen (previous previous2 : Metrics) : Except String Engine := do
  ensure e.metrics.isNone "frozen session requires a new engine"
  ensure (e.position.isNone && e.pending.isNone) "unresolved session"
  ensure (e.cfg.family = .previousDay) "frozen context requires Previous-day"
  return { e with
    previous := some previous
    previous2 := some previous2 }

def stepFrozen : Except String Engine := do
  let m := (e.metrics.getD (.new bar)).update bar
  let e := { e with
    metrics := some m
    branch := .notEvaluated }
  let (e, _) ← e.applyPending bar
  let next := if !(time 23 40).le bar.time then some bar.boundary else none
  let e ← e.decide m bar next
  ensure (next.isSome || (e.position.isNone && e.pending.isNone)) "unclosed frozen session"
  return e

/-! ### A replay over many days -/

/-- The metrics of a bar, of the day that goes on or of a new one. -/
def observe : Except String (Engine × Metrics) :=
  match e.metrics.filter (·.first.date = bar.date) with
  | some m => .ok ({ e with metrics := some (m.update bar) }, m.update bar)
  | none => do
    ensure (e.position.isNone && e.pending.isNone) "unresolved cross-day state"
    let m := (Metrics.new bar).update bar
    return ({ e with
      previous2 := e.previous
      previous := e.metrics
      metrics := some m
      usedLong := false
      usedShort := false
      mrScheduled := 0 }, m)

/-- A call of the observer of a replay. -/
structure Call where
  phase : String
  engine : Engine
  bar : Bar

/-- The loop of `replay`, with the calls of an observer that never fails. -/
def replayBars : Engine → List Bar → Except String (Engine × List Call)
  | e, [] => .ok (e, [])
  | e, bar :: bars => do
    let (observed, m) ← e.observe bar
    let start := { observed with branch := .notEvaluated }
    let (applied, wasPending) ← start.applyPending bar
    let next := (bars.head?.filter (·.date = bar.date)).map (·.tsLocal)
    let done ← applied.decide m bar next
    ensure (next.isSome || (done.position.isNone && done.pending.isNone))
      "unresolved end-of-session state"
    let (last, calls) ← replayBars done bars
    return (last, [⟨"bar_start", start, bar⟩] ++
      (if wasPending then [⟨"pending_applied", applied, bar⟩] else []) ++
        [⟨"observed", applied, bar⟩, ⟨"bar_end", done, bar⟩] ++ calls)

def replay (e : Engine) (bars : List Bar) : Except String (Engine × List Call) := do
  e.cfg.validate
  validateRaw bars
  validateSessions bars e.cfg
  ensure (bars.all e.cfg.eligible) "unfiltered model bars"
  e.replayBars bars

end Engine

end AlorRs.ShadowReaction.Usdrubf
