import AlorRs.StrategyRuntime.MoexAuthor4142.Combo
import AlorRs.StrategyRuntime.RiAuthor4142Live.Bars
import Mathlib.Data.String.Basic

/-!
# The finalized decisions of the RI strategy

On every bar of the model the batch engines replay the bars of the window.  The records of their
journal that are over become decisions, and those whose keys are new are emitted.
-/

namespace AlorRs.RiAuthor4142

open MoexAuthor4142

/-! ### Records and decisions -/

def RiAuthor4142Component.fromShadow : Component → Option RiAuthor4142Component
  | .author41Mr => some .author41Mr
  | .author42Bo => some .author42Bo
  | .combo => none

def RiAuthor4142Side.fromShadow : ShadowSide → RiAuthor4142Side
  | .long => .long
  | .short => .short

def shadowSideText : ShadowSide → String
  | .long => "Long"
  | .short => "Short"

def overlapDecisionText : OverlapDecision → String
  | .accepted => "Accepted"
  | .droppedMrOverlap => "DroppedMrOverlap"
  | .notApplicable => "NotApplicable"

def dateTimeDebugText (dt : NaiveDateTime) : String :=
  let (year, month, day) := NaiveDate.ymd dt.date
  yearText year ++ "-" ++ zeroPadded 2 month ++ "-" ++ zeroPadded 2 day ++ "T" ++
    zeroPadded 2 dt.hour ++ ":" ++ zeroPadded 2 dt.minute ++ ":" ++
    zeroPadded 2 (dt.time.secs % 60)

def optionDebugText {α : Type} (text : α → String) : Option α → String
  | none => "None"
  | some a => "Some(" ++ text a ++ ")"

def componentKeyText : Component → String
  | .author41Mr => "author41_mr"
  | .author42Bo => "author42_bo"
  | .combo => "combo"

variable (record : ShadowJournalRecord)

def decisionKey : String :=
  record.profileId.asStr ++ "|" ++ componentKeyText record.component ++ "|" ++
    record.barTsLocal.text ++ "|" ++ optionDebugText shadowSideText record.side ++ "|" ++
    optionDebugText dateTimeDebugText record.scheduledExitTsLocal ++ "|" ++
    record.exitReason.getD "none"

def isFinalizedRecord (currentDtLocal : NaiveDateTime) : Bool :=
  match record.scheduledExitTsLocal with
  | none => false
  | some exitTs =>
    if currentDtLocal < exitTs then false
    else if record.exitReason = some "forced_last_bar_close" ∧ exitTs.date = currentDtLocal.date then
      false
    else true

def RiAuthor4142ModelDecision.fromShadowRecord (decisionKey : String)
    : Option RiAuthor4142ModelDecision :=
  (RiAuthor4142Component.fromShadow record.component).map fun component =>
    { action := if record.overlapDecision = .droppedMrOverlap then .suppress else .enter
      component := component
      side := record.side.map RiAuthor4142Side.fromShadow
      modelSignalTsLocal := record.barTsLocal
      scheduledEntryTsLocal := record.scheduledEntryTsLocal
      scheduledExitTsLocal := record.scheduledExitTsLocal
      reason := (record.skipReason.or record.exitReason).getD "model_decision"
      overlapDecision := overlapDecisionText record.overlapDecision
      shadowPnlPoints := record.shadowPnlPoints
      decisionKey := decisionKey }

variable (decision : RiAuthor4142ModelDecision)

def decisionEntryTs : NaiveDateTime :=
  decision.scheduledEntryTsLocal.getD decision.modelSignalTsLocal

def decisionComponentSortKey : RiAuthor4142Component → ℕ
  | .author41Mr => 0
  | .author42Bo => 1

/-- What `finalized_decisions_from_records` sorts by. -/
def decisionOrder : NaiveDateTime ×ₗ ℕ ×ₗ WithBot NaiveDateTime ×ₗ String :=
  toLex (decisionEntryTs decision, toLex (decisionComponentSortKey decision.component,
    toLex (decision.scheduledExitTsLocal, decision.decisionKey)))

def finalizedDecisionsFromRecords (records : List ShadowJournalRecord)
    (currentDtLocal : NaiveDateTime) : List RiAuthor4142ModelDecision :=
  ((records.filter fun record => isFinalizedRecord record currentDtLocal).filterMap fun record =>
    RiAuthor4142ModelDecision.fromShadowRecord record (decisionKey record)).insertionSort
      fun left right => decisionOrder left ≤ decisionOrder right

def engineDecisions (config : RiAuthor4142LiveConfig) (bars : List ModelBar)
    (currentDtLocal : NaiveDateTime) : List RiAuthor4142ModelDecision :=
  finalizedDecisionsFromRecords
    (buildRiAuthor4142ComboShadowJournalWithConfigs bars config.sessionPolicy
      config.author41ShortConfig config.author41LongConfig config.author42Config)
    currentDtLocal

def Environment.withEngines (env : Environment) : Environment :=
  { env with finalizedDecisions := engineDecisions }

/-! ### The decisions that are emitted -/

namespace RiAuthor4142LiveStrategy

variable (s : RiAuthor4142LiveStrategy)

def eligibleModelBars (currentDate : NaiveDate) : List ModelBar :=
  let eligibleDates := (s.dailyStatsBefore currentDate).map Prod.fst
  s.modelBars.filter fun bar =>
    bar.tsLocal.date = currentDate || eligibleDates.contains bar.tsLocal.date

def newDecisions (env : Environment) (currentDtLocal : NaiveDateTime)
    : List RiAuthor4142ModelDecision :=
  (s.collectIncrementalDecisions
    (env.finalizedDecisions s.config (s.eligibleModelBars currentDtLocal.date) currentDtLocal)).2

def barDecisions (env : Environment) (bar : BarEvent) : List RiAuthor4142ModelDecision :=
  match s.config.localDt bar.closeTimeUtc with
  | none => []
  | some dtLocal =>
    if s.config.isModelBar dtLocal bar.origin then
      (s.noteBar bar dtLocal true).newDecisions env dtLocal
    else []

end RiAuthor4142LiveStrategy

end AlorRs.RiAuthor4142
