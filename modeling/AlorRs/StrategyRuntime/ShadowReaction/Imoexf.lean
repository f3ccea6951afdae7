import AlorRs.StrategyRuntime.ShadowReaction.Basic

/-!
# The reaction model of IMOEXF

A bar is looked at when it is closed, and what is decided then is done at the open of the next bar.
The same engine is stepped bar by bar over frozen observations of the two days before
(`stepFrozen`), and replayed over many days (`replay`).
-/

namespace AlorRs.ShadowReaction.Imoexf

open Outcome

/-! ### Bars -/

def startHour (date : NaiveDate) : ℕ := if date < transition then 9 else 7

def isSessionLabel (ts : NaiveDateTime) : Bool :=
  isWeekday ts.date && (time (startHour ts.date) 0).le ts.time && ts.time.le (time 23 49) &&
    ts.minute % 10 = 0 && ts.time.secs % 60 = 0 && ts.time.frac = 0

/-- What is demanded of the prices of a bar; a number that is not finite is none here. -/
def isValidOhlcv (b : Bar) : Bool :=
  0 < b.low && 0 ≤ b.volume && b.low ≤ b.open && b.open ≤ b.high && b.low ≤ b.close &&
    b.close ≤ b.high

def validateAfter : Option NaiveDateTime → List Bar → Except String Unit
  | _, [] => .ok ()
  | previous, b :: bars => do
    ensure (previous.all fun ts => !b.tsLocal.le ts) "unordered/duplicate input"
    ensure (isSessionLabel b.tsLocal)
      ("input violates frozen weekday M10 session: " ++ b.tsLocal.text)
    ensure (isValidOhlcv b) ("invalid OHLCV: " ++ b.tsLocal.text)
    validateAfter (some b.tsLocal) bars

def validateBars (bars : List Bar) : Except String Unit := do
  ensure (!bars.isEmpty) "empty model input"
  validateAfter none bars

/-! ### The state of an engine -/

inductive ExitReason where
  | stop | takeAuthorClose | timeExit | breakevenLimit
  | boEod | boStop2Long | boStop1Long | boStop2Short | boStop1Short
deriving DecidableEq, Repr

structure Action where
  owner : Owner
  side : Side
  signal : NaiveDateTime
  «at» : NaiveDateTime
  exitReason : Option ExitReason
deriving DecidableEq, Repr

structure Position where
  entry : Action
  price : ℚ
  barsHeld : ℕ
deriving DecidableEq, Repr

/-- The prices of the bars that were observed. -/
structure Prices where
  high : ℚ
  low : ℚ
  close : ℚ
deriving DecidableEq, Repr

/-- There are no prices before the first bar. -/
structure Observation where
  first : NaiveDateTime
  last : NaiveDateTime
  prices : Option Prices
  count : ℕ
deriving DecidableEq, Repr

namespace Observation

def empty (first : NaiveDateTime) : Observation := ⟨first, first, none, 0⟩

def observe (o : Observation) (b : Bar) : Observation where
  first := o.first
  last := b.tsLocal
  prices :=
    match o.prices with
    | none => some ⟨b.high, b.low, b.close⟩
    | some p => some ⟨max p.high b.high, min p.low b.low, b.close⟩
  count := o.count + 1

end Observation

def Prices.range (p : Prices) : ℚ := p.high - p.low

structure Costs where
  pointValueRub : ℚ
  tickValueRub : ℚ
  ratePerComponentPerSide : ℚ
  components : ℕ
deriving DecidableEq, Repr

inductive Sleeve where
  | mr | bo | combo
deriving DecidableEq, Repr

def Sleeve.name : Sleeve → String
  | .mr => "mr"
  | .bo => "bo"
  | .combo => "combo"

structure Trade where
  modelId : String
  contract : String
  sleeve : Sleeve
  component : Owner
  side : Side
  entryTs : NaiveDateTime
  entryEvent : NaiveDateTime
  entrySignalTs : NaiveDateTime
  entryPrice : ℚ
  barsHeld : ℕ
  exitTs : NaiveDateTime
  exitEvent : NaiveDateTime
  exitSignalTs : NaiveDateTime
  exitPrice : ℚ
  exitReason : ExitReason
  grossPoints : ℚ
  grossRub : ℚ
  feesRub : ℚ
  netRub : ℚ
  oneTickNetRub : ℚ
  costX2NetRub : ℚ
deriving DecidableEq, Repr

inductive Role where
  | entry | exit | entrySuppressedEod
deriving DecidableEq, Repr

structure Event where
  sleeve : Sleeve
  role : Role
  ts : NaiveDateTime
  component : Owner
  side : Side
  signalTs : Option NaiveDateTime
  price : Option ℚ
deriving DecidableEq, Repr

inductive Branch where
  | notEvaluated | contextNotReady | pendingActive | positionActive | mrSelected | boDisabled
  | boWait | boRangeTooSmall | boNoEligibleSide | boTerminalOrMissingNextBar | boNextOpenAtEod
  | boSelected
deriving DecidableEq, Repr

structure Engine where
  sleeve : Sleeve
  previous : Option Observation
  previous2 : Option Observation
  observation : Option Observation
  position : Option Position
  pending : Option Action
  mrEntries : ℕ
  usedLong : Bool
  usedShort : Bool
  branch : Branch
  trades : List Trade
  events : List Event
  costs : Costs
deriving DecidableEq, Repr

namespace Engine

def new (sleeve : Sleeve) (costs : Costs) : Engine where
  sleeve := sleeve
  previous := none
  previous2 := none
  observation := none
  position := none
  pending := none
  mrEntries := 0
  usedLong := false
  usedShort := false
  branch := .notEvaluated
  trades := []
  events := []
  costs := costs

/-! ### The context -/

variable (e : Engine) (b : Bar) (next : Option NaiveDateTime)

def context : Option Prices := e.previous.bind (·.prices)

def returnBefore : Option ℚ :=
  match e.context, e.previous2.bind (·.prices) with
  | some p, some p2 => if p2.close = 0 then none else some ((p.close - p2.close) / p2.close)
  | _, _ => none

def valid : Bool := e.context.any fun p => 0 < p.close && 0 < p.range && 0 < p.low

/-- `setups`: whether a bar is one for the short MR, the long BO and the short BO. -/
def setups : Bool × Bool × Bool :=
  match e.context with
  | none => (false, false, false)
  | some p =>
    (e.valid && 5 / 1000 < p.range / p.low && p.range / p.low < 75 / 1000 && p.close < b.close &&
        b.close < p.close + 16 / 100 * p.range,
      e.valid && !(e.returnBefore.any (· < -(25 / 1000))) &&
        p.close + 53 / 100 * p.range < b.close,
      e.valid && !(e.returnBefore.any (25 / 1000 < ·)) &&
        b.close < p.close - 53 / 100 * p.range)

/-! ### What is done at the open of a bar -/

def tradeOf (p : Position) (a : Action) (reason : ExitReason) (b : Bar) : Trade :=
  let grossPoints := (b.open - p.price) * (if a.side = .long then 1 else -1)
  let grossRub := grossPoints * e.costs.pointValueRub
  let feesRub := (p.price + b.open) * e.costs.pointValueRub * e.costs.ratePerComponentPerSide *
    e.costs.components
  { modelId :=
      if e.sleeve = .bo then "bo053_reaction07_control"
      else "k016_t020_s058_" ++ e.sleeve.name
    contract := "reaction_next_open"
    sleeve := e.sleeve
    component := a.owner
    side := a.side
    entryTs := p.entry.at
    entryEvent := p.entry.at
    entrySignalTs := p.entry.signal
    entryPrice := p.price
    barsHeld := p.barsHeld
    exitTs := a.at
    exitEvent := a.at
    exitSignalTs := a.signal
    exitPrice := b.open
    exitReason := reason
    grossPoints := grossPoints
    grossRub := grossRub
    feesRub := feesRub
    netRub := grossRub - feesRub
    oneTickNetRub := grossRub - feesRub - 2 * e.costs.tickValueRub
    costX2NetRub := grossRub - 2 * feesRub }

variable (a : Action)

def eventOf (b : Bar) : Event where
  sleeve := e.sleeve
  role := if a.exitReason.isSome then .exit else .entry
  ts := a.at
  component := a.owner
  side := a.side
  signalTs := some a.signal
  price := some b.open

/-- The position, the counters and the trades after an action. -/
def fill (b : Bar) : Except String Engine :=
  match a.exitReason with
  | some reason => do
    let p ← e.position.elim (.error "exit without position") .ok
    ensure (p.entry.owner = a.owner && p.entry.side = a.side) "exit ownership mismatch"
    return { e with
      trades := e.trades ++ [e.tradeOf p a reason b]
      position := none }
  | none => do
    ensure e.position.isNone "overlapping entry"
    let e := { e with position := some ⟨a, b.open, 0⟩ }
    return match a.owner, a.side with
      | .mr, _ => { e with mrEntries := e.mrEntries + 1 }
      | .bo, .long => { e with usedLong := true }
      | .bo, .short => { e with usedShort := true }

def apply : Except String (Engine × Bool) :=
  match e.pending with
  | none => .ok (e, false)
  | some a => do
    ensure (a.at = b.tsLocal) "execution bar missing; refusing stale decision"
    let filled ← e.fill a b
    return ({ filled with
      events := filled.events ++ [filled.eventOf a b]
      pending := none }, true)

/-! ### What is decided at the close of a bar -/

def schedule (next : Option NaiveDateTime) : Except String Engine := do
  ensure e.pending.isNone "pending decision already exists"
  ensure (next.any fun ts => ts = a.at && ts.date = a.signal.date)
    ("no consecutive same-session execution bar for " ++ a.signal.text)
  return { e with pending := some a }

def exitReason : Option ExitReason :=
  match e.position with
  | none => none
  | some p =>
    match p.entry.owner with
    | .mr =>
      if e.context.any fun c => c.close + 58 / 100 * c.range ≤ b.high then some .stop
      else if e.context.any fun c => b.close < c.close - 20 / 1000 * c.range then
        some .takeAuthorClose
      else if (time 20 0).le b.time then some .timeExit
      else if 20 < p.barsHeld ∧ b.low ≤ p.price then some .breakevenLimit
      else none
    | .bo =>
      if b.time = time 23 30 then some .boEod
      else if p.entry.side = .long then
        if e.context.any fun c => b.close < c.close - 35 / 100 * c.range then some .boStop2Long
        else if b.tsLocal.minute = 50 ∧ (e.context.any fun c =>
            b.close < c.close + 51 / 100 * c.range) = true then some .boStop1Long
        else none
      else if e.context.any fun c => c.close + 35 / 100 * c.range < b.close then some .boStop2Short
      else if b.tsLocal.minute = 50 ∧ (e.context.any fun c =>
          c.close - 51 / 100 * c.range < b.close) = true then some .boStop1Short
      else none

/-- A bar more of the position that is held. -/
def hold : Engine :=
  { e with position := e.position.map fun p => { p with barsHeld := p.barsHeld + 1 } }

def decideExit : Except String Engine :=
  match e.exitReason b, e.position with
  | some reason, some p =>
    e.schedule ⟨p.entry.owner, p.entry.side, b.tsLocal, b.boundary, some reason⟩ next
  | _, _ => .ok e

/-- What stands in the way of an entry. -/
def obstacle : Branch :=
  if !e.valid then .contextNotReady
  else if e.pending.isSome then .pendingActive
  else if e.position.isSome then .positionActive
  else .notEvaluated

def boSide : Option Side :=
  let (_, long, short) := e.setups b
  if long && !e.usedLong then some .long
  else if short && !e.usedShort then some .short
  else none

/-- The event of an entry that would come too late. -/
def suppressed (side : Side) : Event where
  sleeve := e.sleeve
  role := .entrySuppressedEod
  ts := b.boundary
  component := .bo
  side := side
  signalTs := none
  price := none

/-- The second half of the part of `decide` that looks for an entry. -/
def decideBo : Except String Engine :=
  if e.sleeve = .mr then .ok { e with branch := .boDisabled }
  else if e.observation.any fun o => !(o.first.addSecs 10800).le b.tsLocal then
    .ok { e with branch := .boWait }
  else if e.context.any (·.range < 101 / 100) then .ok { e with branch := .boRangeTooSmall }
  else
    match e.boSide b with
    | none => .ok { e with branch := .boNoEligibleSide }
    | some side =>
      if (time 23 30).le b.time || next.isNone then
        .ok { e with branch := .boTerminalOrMissingNextBar }
      else if (time 23 30).le b.boundary.time then
        .ok { e with
          events := e.events ++ [e.suppressed b side]
          branch := .boNextOpenAtEod }
      else do
        let e ← e.schedule ⟨.bo, side, b.tsLocal, b.boundary, none⟩ next
        return { e with branch := .boSelected }

def decideEntry : Except String Engine :=
  if e.sleeve ≠ .bo ∧ (e.setups b).1 = true ∧ e.mrEntries < 2 ∧ b.time.le (time 10 0) = true then do
    let e ← e.schedule ⟨.mr, .short, b.tsLocal, b.boundary, none⟩ next
    return { e with branch := .mrSelected }
  else e.decideBo b next

def decide (e : Engine) (b : Bar) (next : Option NaiveDateTime) : Except String Engine := do
  let e ← e.hold.decideExit b next
  let e := { e with branch := e.obstacle }
  if e.branch ≠ .notEvaluated then return e
  else e.decideEntry b next

/-! ### A session over frozen observations -/

def startFrozen (first : NaiveDateTime) (previous previous2 : Observation) :
    Except String Engine := do
  ensure e.observation.isNone "frozen session requires a new engine"
  ensure (e.position.isNone && e.pending.isNone) "unresolved session"
  return { e with
    previous := some previous
    previous2 := some previous2
    observation := some (.empty first) }

def observe (e : Engine) (b : Bar) : Engine :=
  { e with observation := e.observation.map (·.observe b) }

def stepFrozen : Except String Engine := do
  let e := { e with branch := .notEvaluated }
  let (e, _) ← e.apply b
  let e := e.observe b
  let next := if !(time 23 40).le b.time then some b.boundary else none
  let e ← e.decide b next
  ensure (next.isSome || (e.position.isNone && e.pending.isNone)) "unclosed frozen session"
  return e

/-! ### A replay over many days -/

/-- A call of the observer of a replay. -/
structure Call where
  phase : String
  engine : Engine
  bar : Bar

/-- The loop of `replay` over a day, with the calls of an observer that never fails. -/
def replayDay : Engine → List Bar → Except String (Engine × List Call)
  | e, [] => .ok (e, [])
  | e, b :: day => do
    let start := { e with branch := .notEvaluated }
    let (applied, wasPending) ← start.apply b
    let observed := applied.observe b
    let done ← observed.decide b (day.head?.map (·.tsLocal))
    let (last, calls) ← replayDay done day
    return (last, [⟨"bar_start", start, b⟩] ++
      (if wasPending then [⟨"pending_applied", applied, b⟩] else []) ++
        [⟨"observed", observed, b⟩, ⟨"bar_end", done, b⟩] ++ calls)

/-- The engine at the start of a day of a replay. -/
def roll : Engine :=
  { e with
    previous2 := e.previous
    previous := e.observation
    observation := some (.empty b.tsLocal)
    mrEntries := 0
    usedLong := false
    usedShort := false }

def replayDays (e : Engine) : List Bar → Except String (Engine × List Call)
  | [] => .ok (e, [])
  | b :: bars => do
    ensure (e.position.isNone && e.pending.isNone) "unresolved prior session"
    let day := b :: bars.takeWhile (·.date = b.date)
    let (e, calls) ← (e.roll b).replayDay day
    ensure (e.position.isNone && e.pending.isNone) ("unclosed session " ++ dateText b.date)
    let (last, later) ← e.replayDays (bars.dropWhile (·.date = b.date))
    return (last, calls ++ later)
  termination_by bars => bars.length
  decreasing_by
    have hle : (bars.dropWhile (·.date = b.date)).length ≤ bars.length :=
      (List.dropWhile_sublist _).length_le
    simp only [List.length_cons]
    omega

def replay (e : Engine) (bars : List Bar) : Except String (Engine × List Call) := do
  validateBars bars
  ensure e.observation.isNone "replay requires a new engine"
  e.replayDays bars

end Engine

end AlorRs.ShadowReaction.Imoexf
