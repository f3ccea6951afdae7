import AlorRs.Gateway.Supervisor
import AlorRs.Lib.Counter

/-!
# The data-quality report

The task of the hub's events counts the messages that it ignores, and the task of the bars counts
each bar that it receives, emits or drops; at shutdown the counts are put into a report, and a symbol
whose counts do not balance is reported.  The task of the bars is taken in the small steps between
which a report may be built.
-/

namespace AlorRs.Gateway

inductive RejectReason where
  | duplicateOrOld | badTimestamp | badOhlc | nonFinite | negativeVolume | fourPriceDoji
  | notClosedYet | emitFailed
deriving DecidableEq, Repr

inductive IgnoredReason where
  | oldGeneration | inactiveGuid | unknownGuid | jsonParseError
deriving DecidableEq, Repr

/-! ### Counts -/

structure BarQualityStats where
  received : Counter String
  emitted : Counter String
  dropped : Counter (String × RejectReason)
  ignored : Counter (String × IgnoredReason)
  lastCloseTime : AList fun _ : String => ℤ

namespace BarQualityStats

def default : BarQualityStats := ⟨∅, ∅, ∅, ∅, ∅⟩

variable (stats : BarQualityStats) (symbol : String)

def recordReceived : BarQualityStats :=
  { stats with received := Counter.bump stats.received symbol }

def recordEmitted (closeTime : ℤ) : BarQualityStats :=
  { stats with
    emitted := Counter.bump stats.emitted symbol
    lastCloseTime := stats.lastCloseTime.insert symbol closeTime }

def recordDropped (reason : RejectReason) : BarQualityStats :=
  { stats with dropped := Counter.bump stats.dropped (symbol, reason) }

def recordIgnored (reason : IgnoredReason) : BarQualityStats :=
  { stats with ignored := Counter.bump stats.ignored (symbol, reason) }

end BarQualityStats

/-! ### The report -/

structure DropReasonCount where
  symbol : String
  reason : RejectReason
  count : ℕ

structure IgnoredReasonCount where
  symbol : String
  reason : IgnoredReason
  count : ℕ

structure PendingReport where
  bufferedBars : Counter String

structure DataQualityReport where
  received : Counter String
  emitted : Counter String
  dropped : List DropReasonCount
  ignored : List IgnoredReasonCount
  pending : PendingReport
  lastCloseTime : AList fun _ : String => ℤ

structure ReportImbalance where
  symbol : String
  received : ℕ
  emitted : ℕ
  dropped : ℕ
  ignored : ℕ
  pending : ℕ
  delta : ℤ
deriving DecidableEq, Repr

variable (stats : BarQualityStats) (pending : PendingReport)

/-- `to_report`: the reasons are listed from the highest count. -/
def BarQualityStats.toReport :
    DataQualityReport where
  received := stats.received
  emitted := stats.emitted
  dropped :=
    (stats.dropped.entries.map fun entry => ⟨entry.1.1, entry.1.2, entry.2⟩).mergeSort
      fun a b : DropReasonCount => b.count ≤ a.count
  ignored :=
    (stats.ignored.entries.map fun entry => ⟨entry.1.1, entry.1.2, entry.2⟩).mergeSort
      fun a b : IgnoredReasonCount => b.count ≤ a.count
  pending := pending
  lastCloseTime := stats.lastCloseTime

namespace DataQualityReport

def droppedOf (report : DataQualityReport) (symbol : String) : ℕ :=
  ((report.dropped.filter fun entry => entry.symbol = symbol).map DropReasonCount.count).sum

def ignoredOf (report : DataQualityReport) (symbol : String) : ℕ :=
  ((report.ignored.filter fun entry => entry.symbol = symbol).map IgnoredReasonCount.count).sum

/-- What a symbol's bars should add up to. -/
def rhs (report : DataQualityReport) (symbol : String) : ℕ :=
  Counter.count report.emitted symbol + report.droppedOf symbol + report.ignoredOf symbol +
    Counter.count report.pending.bufferedBars symbol

def imbalance (report : DataQualityReport) (symbol : String) (received : ℕ) :
    Option ReportImbalance :=
  if received ≠ report.rhs symbol then
    some
      { symbol := symbol
        received := received
        emitted := Counter.count report.emitted symbol
        dropped := report.droppedOf symbol
        ignored := report.ignoredOf symbol
        pending := Counter.count report.pending.bufferedBars symbol
        delta := (received : ℤ) - report.rhs symbol }
  else none

end DataQualityReport

def buildDataReport : DataQualityReport × List ReportImbalance :=
  let report := stats.toReport pending
  (report, report.received.entries.filterMap fun entry => report.imbalance entry.1 entry.2)

/-! ### Bars -/

/-- `BarValidator::validate`, with its reasons; prices are finite. -/
def validate (config : SupervisorConfig) (now : ℤ) (bar : BarEvent) (lastEmittedTs : Option ℤ) :
    Except RejectReason Unit :=
  if lastEmittedTs.any fun last => bar.closeTimeUtc ≤ last then .error .duplicateOrOld
  else if 0 < config.tfSec ∧ bar.closeTimeUtc.tmod config.tfSec ≠ 0 then .error .badTimestamp
  else if now + config.closeGraceSec < bar.closeTimeUtc then .error .notClosedYet
  else if bar.h < max bar.o bar.c ∨ min bar.o bar.c < bar.l ∨ bar.h < bar.l then .error .badOhlc
  else if bar.v < 0 then .error .negativeVolume
  else if !config.allowFourPriceDoji ∧ bar.h = bar.l then .error .fourPriceDoji
  else .ok ()

inductive EmitResult where
  | emitted | duplicateOrOld | sendFailed
deriving DecidableEq, Repr

def emitResult (sent : Bool) (lastEmitted : AList fun _ : String => ℤ) (bar : BarEvent) :
    EmitResult :=
  if (lastEmitted.lookup bar.symbol).any fun last => bar.closeTimeUtc ≤ last then .duplicateOrOld
  else if sent then .emitted
  else .sendFailed

/-- `extract_symbol`; a field `symbol` of another type hides the field `code`. -/
def extractSymbol (value : Json) : Option String :=
  (value.get "data").bind fun data => ((data.get "symbol").or (data.get "code")).bind Json.asStr

/-! ### The tasks -/

inductive BarTask where
  | waiting
  | received (bar : BarEvent)
  | checked (check : BarCheck)
  | sending (check : BarCheck)
  | finishing (check : BarCheck)
  /-- The bars of a symbol, and the symbols after it. -/
  | flushing (bars : List BarEvent) (symbols : List String)

structure CountingSupervisor where
  supervisor : Supervisor
  stats : BarQualityStats
  bufferedBars : Counter String
  task : BarTask

/-- What one of the tasks does next: one of the supervisor's other steps, the handling of an ignored
message of the hub, or a step of the task of the bars. -/
inductive CountingStep where
  | other (step : Supervisor.Step)
  | ignored (symbol : Option String) (reason : IgnoredReason) (generation : ℕ)
  | receiveBar
  | checkBar
  | validateBar (now : ℤ)
  | sendBar (sent : Bool)
  | finishBar
  | flushNext (sent : Bool)

namespace CountingSupervisor

/-- Before the first event. -/
def start (config : SupervisorConfig) : CountingSupervisor :=
  ⟨.start config, .default, ∅, .waiting⟩

variable (c : CountingSupervisor)

/-- The symbol of the message that is ignored because it is of an old generation. -/
def oldSymbol : Supervisor.Step → Option String
  | .wsEvent _ =>
    match c.supervisor.wsEvents with
    | .raw value generation :: _ =>
      if generation ≠ c.supervisor.currentGeneration then extractSymbol value else none
    | _ => none
  | _ => none

def emit (c : CountingSupervisor) (sent : Bool) (bar : BarEvent) : CountingSupervisor :=
  match emitResult sent c.supervisor.lastEmittedBarTs bar with
  | .emitted =>
    { c with
      supervisor :=
        { c.supervisor with
          lastEmittedBarTs := c.supervisor.lastEmittedBarTs.insert bar.symbol bar.closeTimeUtc }
      stats := c.stats.recordEmitted bar.symbol bar.closeTimeUtc }
  | .duplicateOrOld => { c with stats := c.stats.recordDropped bar.symbol .duplicateOrOld }
  | .sendFailed => { c with stats := c.stats.recordDropped bar.symbol .emitFailed }

/-- So many bars of a symbol are no longer kept back. -/
def unbuffer (bufferedBars : Counter String) (symbol : String) (bars : ℕ) : Counter String :=
  match bufferedBars.lookup symbol with
  | some count => bufferedBars.insert symbol (count - bars)
  | none => bufferedBars

/-- The bars of a symbol are no longer kept back: they are flushed, in the order of their times. -/
def takePending (symbol : String) (symbols : List String) : CountingSupervisor :=
  match c.supervisor.pendingLiveUpdates.lookup symbol with
  | none => { c with task := .flushing [] symbols }
  | some bars =>
    { c with
      supervisor :=
        { c.supervisor with
          pendingLiveUpdates := c.supervisor.pendingLiveUpdates.erase symbol }
      bufferedBars := unbuffer c.bufferedBars symbol bars.length
      task :=
        .flushing (bars.mergeSort fun bar bar' => bar.closeTimeUtc ≤ bar'.closeTimeUtc) symbols }

def becomeReady : CountingSupervisor :=
  { c with
    supervisor := { c.supervisor with resyncInProgress := false }.transitionPhase .liveReady
    task := .waiting }

def step (text : RouterText) (config : SupervisorConfig) (c : CountingSupervisor) :
    CountingStep → Option CountingSupervisor
  | .other step =>
    match step with
    | .checkBar | .finishBar .. => none
    | _ =>
      (c.supervisor.step text config step).map fun supervisor =>
        { c with
          supervisor := supervisor
          stats := (c.oldSymbol step).elim c.stats fun symbol =>
            c.stats.recordIgnored symbol .oldGeneration }
  | .ignored symbol reason generation =>
    if generation ≠ c.supervisor.currentGeneration then some c
    else some { c with stats := c.stats.recordIgnored (symbol.getD "<unknown>") reason }
  | .receiveBar =>
    match c.task, c.supervisor.bars with
    | .waiting, bar :: bars =>
      some
        { c with
          supervisor := { c.supervisor with bars := bars }
          stats := c.stats.recordReceived bar.symbol
          task := .received bar }
    | _, _ => none
  | .checkBar =>
    match c.task with
    | .received bar =>
      (c.supervisor.checkBar config bar).checking.map fun check =>
        { c with
          supervisor := { c.supervisor.checkBar config bar with checking := none }
          bufferedBars :=
            if check.buffered then Counter.bump c.bufferedBars bar.symbol else c.bufferedBars
          task := .checked check }
    | _ => none
  | .validateBar now =>
    match c.task with
    | .checked check =>
      if check.buffered then some { c with task := .finishing check }
      else
        match validate config now check.bar
          (c.supervisor.lastEmittedBarTs.lookup check.bar.symbol) with
        | .error reason =>
          some { c with stats := c.stats.recordDropped check.bar.symbol reason, task := .waiting }
        | .ok () => some { c with task := .sending check }
    | _ => none
  | .sendBar sent =>
    match c.task with
    | .sending check =>
      some
        { c.emit sent check.bar with
          task :=
            if emitResult sent c.supervisor.lastEmittedBarTs check.bar = .emitted then
              .finishing check
            else .waiting }
    | _ => none
  | .finishBar =>
    match c.task with
    | .finishing check =>
      if !check.liveReady then some { c with task := .waiting }
      else if c.supervisor.phase = .syncingGap then
        some { c with
          task := .flushing [] (c.supervisor.pendingLiveUpdates.keys.mergeSort (· ≤ ·)) }
      else if c.supervisor.phase ≠ .liveReady then some c.becomeReady
      else some { c with task := .waiting }
    | _ => none
  | .flushNext sent =>
    match c.task with
    | .flushing (bar :: bars) symbols => some { c.emit sent bar with task := .flushing bars symbols }
    | .flushing [] (symbol :: symbols) => some (c.takePending symbol symbols)
    | .flushing [] [] => some c.becomeReady
    | _ => none

def report : DataQualityReport × List ReportImbalance :=
  buildDataReport c.stats ⟨c.bufferedBars⟩

end CountingSupervisor

end AlorRs.Gateway
