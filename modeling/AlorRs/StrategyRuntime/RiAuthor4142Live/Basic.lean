import AlorRs.RustText
import AlorRs.StrategyRuntime.MoexAuthor4142
import AlorRs.StrategyRuntime.StrategyHost

/-!
# The RI Author41/42 strategy: configuration, state and transitions

Two components, a mean reversion (MR) and a breakout (BO), trade one position of one symbol.  What
a component holds is kept in memory; the phase of the shared position is saved.
-/

namespace AlorRs.RiAuthor4142

open MoexAuthor4142

/-! ### Configuration -/

inductive RiAuthor4142RuntimeMode where
  | shadow | prospectiveShadow | dryRun | microLive
deriving DecidableEq

namespace RiAuthor4142RuntimeMode

variable (mode : RiAuthor4142RuntimeMode)

def canEmitOrders : Bool := mode = .microLive

def runsProspectiveAdapter : Bool := mode = .prospectiveShadow

def asStr : RiAuthor4142RuntimeMode → String
  | .shadow => "shadow"
  | .prospectiveShadow => "prospective_shadow"
  | .dryRun => "dry_run"
  | .microLive => "micro_live"

end RiAuthor4142RuntimeMode

inductive RiAuthor4142ModelFeedPolicy where
  | microRegularV1 | legacyShadowBreaksV1
deriving DecidableEq

inductive RiAuthor4142ExecutionPath where
  | actionScopedOnly
deriving DecidableEq

def RiAuthor4142ExecutionPath.asStr : RiAuthor4142ExecutionPath → String
  | .actionScopedOnly => "action_scoped_only"

structure RiAnchorCompletenessRule where
  minBars : ℕ
  firstBarAtOrBefore : NaiveTime
  lastBarAtOrAfter : NaiveTime
deriving DecidableEq

structure RiAnchorTransitionRule where
  startsOn : NaiveDate
  preTransition : RiAnchorCompletenessRule
deriving DecidableEq

/-- A validated configuration, with its times and dates read and its anchor rules put together. -/
structure RiAuthor4142LiveConfig where
  symbol : String
  profileId : String
  timeframe : String
  mode : RiAuthor4142RuntimeMode
  modelFeedPolicy : Option RiAuthor4142ModelFeedPolicy
  allowOrderEmission : Bool
  executionPath : RiAuthor4142ExecutionPath
  orderSymbol : Option String
  sessionStartTime : NaiveTime
  sessionEndTime : NaiveTime
  author41EntryEndTime : NaiveTime
  author41TimeExit : NaiveTime
  author42ExitTime : NaiveTime
  author42LastEntryTime : Option NaiveTime
  author42MaxEntriesPerDay : Option ℕ
  excludedModelDates : List NaiveDate
  canonicalAnchorRule : RiAnchorCompletenessRule
  anchorTransitionRule : Option RiAnchorTransitionRule
  qty : ℚ
  timezoneOffsetHours : ℤ
deriving DecidableEq

namespace RiAuthor4142LiveConfig

variable (config : RiAuthor4142LiveConfig)

def effectiveModelFeedPolicy : RiAuthor4142ModelFeedPolicy :=
  config.modelFeedPolicy.getD <|
    match config.mode with
    | .shadow | .prospectiveShadow => .legacyShadowBreaksV1
    | .dryRun | .microLive => .microRegularV1

def canEmitOrders (config : RiAuthor4142LiveConfig) : Bool :=
  config.mode.canEmitOrders && config.allowOrderEmission

def runsProspectiveAdapter (config : RiAuthor4142LiveConfig) : Bool :=
  config.mode.runsProspectiveAdapter && !config.allowOrderEmission

def sessionPolicy : RegularSessionPolicy where
  start := config.sessionStartTime
  finish := config.sessionEndTime
  weekdaysOnly := true

def author41ShortConfig : Author41Config :=
  { Author41Config.riPlateauShortSource with
    entryEnd := config.author41EntryEndTime
    timeExit := config.author41TimeExit }

def author41LongConfig : Author41Config :=
  { Author41Config.riPlateauLongSource with
    entryEnd := config.author41EntryEndTime
    timeExit := config.author41TimeExit }

def author42Config : Author42Config :=
  { Author42Config.riGridK042Both with
    exitTime := config.author42ExitTime
    lastEntryTime := config.author42LastEntryTime
    maxEntriesPerDay := config.author42MaxEntriesPerDay }

end RiAuthor4142LiveConfig

/-! ### Decisions and candidates -/

inductive RiAuthor4142DecisionAction where
  | enter | suppress
deriving DecidableEq

inductive RiAuthor4142Component where
  | author41Mr | author42Bo
deriving DecidableEq

def RiAuthor4142Component.asStr : RiAuthor4142Component → String
  | .author41Mr => "author41_mr"
  | .author42Bo => "author42_bo"

inductive RiAuthor4142Side where
  | long | short
deriving DecidableEq

namespace RiAuthor4142Side

def asStr : RiAuthor4142Side → String
  | .long => "long"
  | .short => "short"

def debugText : RiAuthor4142Side → String
  | .long => "Long"
  | .short => "Short"

def entryOrderSide : RiAuthor4142Side → Side
  | .long => .buy
  | .short => .sell

def exitOrderSide : RiAuthor4142Side → Side
  | .long => .sell
  | .short => .buy

end RiAuthor4142Side

structure RiAuthor4142ModelDecision where
  action : RiAuthor4142DecisionAction
  component : RiAuthor4142Component
  side : Option RiAuthor4142Side
  modelSignalTsLocal : NaiveDateTime
  scheduledEntryTsLocal : Option NaiveDateTime
  scheduledExitTsLocal : Option NaiveDateTime
  reason : String
  overlapDecision : String
  shadowPnlPoints : Option ℚ
  decisionKey : String

variable (decision : RiAuthor4142ModelDecision)

def RiAuthor4142ModelDecision.cycleId : String :=
  decision.component.asStr ++ ":" ++ decision.modelSignalTsLocal.compactText

inductive RiAuthor4142CandidateRole where
  | entry | exit
deriving DecidableEq

namespace RiAuthor4142CandidateRole

def asStr : RiAuthor4142CandidateRole → String
  | .entry => "entry"
  | .exit => "exit"

def intentClass : RiAuthor4142CandidateRole → IntentClass
  | .entry => .entry
  | .exit => .exit

end RiAuthor4142CandidateRole

structure RiAuthor4142CandidateIntent where
  role : RiAuthor4142CandidateRole
  component : RiAuthor4142Component
  side : Side
  qty : ℚ
  orderStyle : String
  intentClass : IntentClass
  scheduledTsLocal : NaiveDateTime
  comment : String
  executionPath : RiAuthor4142ExecutionPath
  decisionKey : String

inductive RiAuthor4142JournalDecision where
  | shadowRecorded | shadowPathActive | shadowPathSuperseded | prospectiveIntentSuppressed
  | intentSuppressed | intentEmitted | manualInterventionRequired
deriving DecidableEq

structure RiAuthor4142JournalRecord where
  component : String
  cycleId : String
  modelSignalTsLocal : String
  barTsLocal : String
  side : Option String
  role : Option String
  entryExitReason : String
  noOverlapDecision : String
  adapterDecision : RiAuthor4142JournalDecision
  requestId : Option String
  brokerOrderId : Option String
  positionBefore : Option ℚ
  positionAfter : Option ℚ
  candidateOrderSide : Option Side
  candidateQty : Option ℚ
  candidateOrderStyle : Option String
  candidateIntentClass : Option IntentClass
  candidateScheduledTsLocal : Option String
  executionPath : String
  decisionKey : String
  shadowPnlPoints : Option ℚ
deriving DecidableEq

def RiAuthor4142JournalRecord.fromDecision (adapterDecision : RiAuthor4142JournalDecision)
    (candidate : Option RiAuthor4142CandidateIntent) (reasonOverride : Option String) :
    RiAuthor4142JournalRecord where
  component := decision.component.asStr
  cycleId := decision.cycleId
  modelSignalTsLocal := decision.modelSignalTsLocal.text
  barTsLocal := decision.modelSignalTsLocal.text
  side := decision.side.map (·.asStr)
  role := candidate.map (·.role.asStr)
  entryExitReason := reasonOverride.getD decision.reason
  noOverlapDecision := decision.overlapDecision
  adapterDecision := adapterDecision
  requestId := none
  brokerOrderId := none
  positionBefore := none
  positionAfter := none
  candidateOrderSide := candidate.map (·.side)
  candidateQty := candidate.map (·.qty)
  candidateOrderStyle := candidate.map (·.orderStyle)
  candidateIntentClass := candidate.map (·.intentClass)
  candidateScheduledTsLocal := candidate.map (·.scheduledTsLocal.text)
  executionPath := (candidate.map (·.executionPath.asStr)).getD "not_applicable_pre_go"
  decisionKey := decision.decisionKey
  shadowPnlPoints := decision.shadowPnlPoints

/-! ### State -/

/-- The texts of the saved phase: those of `RiAuthor4142Phase`, those of the live adapter, and any
other text that a saved state may have. -/
inductive Phase where
  | flat
  | dryRunInPosition
  | liveEntryMissedRuntimeNotReady
  | manualInterventionRequired
  | livePendingEntry
  | liveInPosition
  | livePendingExit
  | liveDeferredExit
  | other (text : String)
deriving DecidableEq

/-- `StrategyState::RiAuthor4142Live`. -/
structure SavedState where
  mode : String
  profileId : String
  timeframe : String
  allowOrderEmission : Bool
  executionPath : String
  lastBarTs : Option ℤ
  lastModelBarTs : Option ℤ
  modelBarsSeen : ℕ
  suppressedServiceBars : ℕ
  modelDecisionsSeen : ℕ
  lastDecisionKey : Option String
  phase : Phase
  currentComponent : Option String
  currentSide : Option String
  currentCycleId : Option String
  currentEntryTsLocal : Option String
  currentExitTsLocal : Option String
  lastTransitionReason : Option String
  liveAdapterEnabled : Bool
  pendingEntryRequestId : Option Uuid
  pendingExitRequestId : Option Uuid

structure RiAuthor4142LiveMrPosition where
  side : RiAuthor4142Side
  entryTsLocal : NaiveDateTime
  entryPrice : ℚ
  prevClose : ℚ
  prevRange : ℚ
  barsHeld : ℕ
  config : Author41Config
  decisionKey : String

structure RiAuthor4142LiveMrState where
  currentDate : Option NaiveDate
  entriesToday : ℕ
  position : Option RiAuthor4142LiveMrPosition

/-- The context of a session; a ratio is absent where the division has no finite result. -/
structure RiAuthor4142LiveBoContext where
  prevClose : ℚ
  prev2Close : ℚ
  prevRange : ℚ
  prevHlRatio : Option ℚ
  prevRet : Option ℚ

structure RiAuthor4142LiveBoPosition where
  side : RiAuthor4142Side
  entryTsLocal : NaiveDateTime
  entryPrice : ℚ
  barsHeld : ℕ
  decisionKey : String

inductive RiAuthor4142LiveBoPending where
  | entry (side : RiAuthor4142Side)
  | exit (reason : String)
deriving DecidableEq

/-- The extremes of the day are absent where they are the infinities of an empty day. -/
structure RiAuthor4142LiveBoState where
  currentDate : Option NaiveDate
  context : Option RiAuthor4142LiveBoContext
  firstBar : Option ModelBar
  barIndex : ℕ
  longLevel : Option ℚ
  shortLevel : Option ℚ
  tradeAllowed : Bool
  wasLongToday : Bool
  wasShortToday : Bool
  entriesToday : ℕ
  dayHh : Option ℚ
  dayLl : Option ℚ
  position : Option RiAuthor4142LiveBoPosition
  pending : Option RiAuthor4142LiveBoPending

/-- `RiAuthor4142LiveBoState::default()`. -/
def RiAuthor4142LiveBoState.default : RiAuthor4142LiveBoState where
  currentDate := none
  context := none
  firstBar := none
  barIndex := 0
  longLevel := none
  shortLevel := none
  tradeAllowed := true
  wasLongToday := false
  wasShortToday := false
  entriesToday := 0
  dayHh := none
  dayLl := none
  position := none
  pending := none

/-- `RiAuthor4142LiveStrategy`; the state is absent while it is that of no RI strategy, and the
decisions by key are those in the order of their insertion. -/
structure RiAuthor4142LiveStrategy where
  config : RiAuthor4142LiveConfig
  modelBars : List ModelBar
  emittedDecisionKeys : List String
  shadowPathKeysByDate : List (NaiveDate × List String)
  shadowDecisionsByKey : List (String × RiAuthor4142ModelDecision)
  journalRecords : List RiAuthor4142JournalRecord
  liveMr : RiAuthor4142LiveMrState
  liveBo : RiAuthor4142LiveBoState
  state : Option SavedState

/-- What the strategy takes from elsewhere: the decisions that the batch engines have finalized
over the bars by a time, in the order of `finalized_decisions_from_records`, the JSON of a journal
record, and the texts of numbers. -/
structure Environment where
  finalizedDecisions : RiAuthor4142LiveConfig → List ModelBar → NaiveDateTime →
    List RiAuthor4142ModelDecision
  recordText : RiAuthor4142JournalRecord → String
  text : RustText

namespace RiAuthor4142LiveStrategy

variable (config : RiAuthor4142LiveConfig) (candidate : RiAuthor4142CandidateIntent)

def new : RiAuthor4142LiveStrategy where
  config := config
  modelBars := []
  emittedDecisionKeys := []
  shadowPathKeysByDate := []
  shadowDecisionsByKey := []
  journalRecords := []
  liveMr := ⟨none, 0, none⟩
  liveBo := .default
  state := some
    { mode := config.mode.asStr
      profileId := config.profileId
      timeframe := config.timeframe
      allowOrderEmission := config.allowOrderEmission
      executionPath := config.executionPath.asStr
      lastBarTs := none
      lastModelBarTs := none
      modelBarsSeen := 0
      suppressedServiceBars := 0
      modelDecisionsSeen := 0
      lastDecisionKey := none
      phase := .flat
      currentComponent := none
      currentSide := none
      currentCycleId := none
      currentEntryTsLocal := none
      currentExitTsLocal := none
      lastTransitionReason := none
      liveAdapterEnabled := config.canEmitOrders
      pendingEntryRequestId := none
      pendingExitRequestId := none }

variable (s : RiAuthor4142LiveStrategy) (decision : RiAuthor4142ModelDecision) (reason : String)

def phaseForTest : Option Phase := s.state.map (·.phase)

def phaseIs (expected : Phase) : Bool :=
  s.phaseForTest = some expected

def phaseBlocksFreshEntries : Bool :=
  s.phaseIs .dryRunInPosition || s.phaseIs .manualInterventionRequired ||
    s.phaseIs .liveEntryMissedRuntimeNotReady

def pendingEntryRequestId (s : RiAuthor4142LiveStrategy) : Option Uuid :=
  s.state.bind (·.pendingEntryRequestId)

def pendingExitRequestId (s : RiAuthor4142LiveStrategy) : Option Uuid :=
  s.state.bind (·.pendingExitRequestId)

def clearLivePositions : RiAuthor4142LiveStrategy :=
  { s with
    liveMr := { s.liveMr with position := none }
    liveBo := { s.liveBo with position := none, pending := none } }

/-! ### Transitions -/

def updateState (f : SavedState → SavedState) : RiAuthor4142LiveStrategy :=
  { s with state := s.state.map f }

def enterManualInterventionRequired : RiAuthor4142LiveStrategy :=
  s.updateState fun saved =>
    { saved with
      phase := .manualInterventionRequired
      currentComponent := none
      currentSide := none
      currentCycleId := none
      currentEntryTsLocal := none
      currentExitTsLocal := none
      lastTransitionReason := some reason }

def withCycle (saved : SavedState) (phase : Phase) (decision : RiAuthor4142ModelDecision)
    (reason : String) : SavedState :=
  { saved with
    phase := phase
    currentComponent := some decision.component.asStr
    currentSide := decision.side.map (·.asStr)
    currentCycleId := some decision.cycleId
    currentEntryTsLocal := decision.scheduledEntryTsLocal.map (·.text)
    currentExitTsLocal := decision.scheduledExitTsLocal.map (·.text)
    lastTransitionReason := some reason }

def withoutCycle (saved : SavedState) (reason : String) : SavedState :=
  { saved with
    phase := .flat
    currentComponent := none
    currentSide := none
    currentCycleId := none
    currentEntryTsLocal := none
    currentExitTsLocal := none
    lastTransitionReason := some reason }

def transitionToDryRunInPosition : RiAuthor4142LiveStrategy :=
  s.updateState fun saved => withCycle saved .dryRunInPosition decision decision.reason

def transitionToFlatAfterScheduledExit : RiAuthor4142LiveStrategy :=
  s.updateState fun saved => withoutCycle saved ("dry_run_exit:" ++ decision.reason)

def transitionLivePendingEntry : RiAuthor4142LiveStrategy :=
  s.updateState fun saved =>
    { withCycle saved .livePendingEntry decision reason with
      pendingEntryRequestId := none
      pendingExitRequestId := none }

def transitionLivePendingExit : RiAuthor4142LiveStrategy :=
  s.updateState fun saved =>
    { withCycle saved .livePendingExit decision (reason ++ ":" ++ decision.reason) with
      pendingExitRequestId := none }

def transitionLiveDeferredExit : RiAuthor4142LiveStrategy :=
  s.updateState fun saved =>
    { saved with
      phase := .liveDeferredExit
      lastTransitionReason := some reason
      pendingExitRequestId := none }

def transitionLiveFlatWithReason : RiAuthor4142LiveStrategy :=
  s.clearLivePositions.updateState fun saved =>
    { withoutCycle saved reason with
      pendingEntryRequestId := none
      pendingExitRequestId := none }

def finalizeProspectiveAdapterTransition : RiAuthor4142LiveStrategy :=
  match s.phaseForTest with
  | some .livePendingEntry =>
    s.updateState fun saved =>
      { saved with
        phase := .liveInPosition
        lastTransitionReason := some "prospective_shadow_entry_assumed_filled"
        pendingEntryRequestId := none
        pendingExitRequestId := none }
  | some .livePendingExit | some .liveDeferredExit =>
    s.transitionLiveFlatWithReason "prospective_shadow_exit_assumed_filled"
  | _ => s

/-! ### The journal -/

def pushJournalRecord (record : RiAuthor4142JournalRecord) : RiAuthor4142LiveStrategy :=
  let records := s.journalRecords ++ [record]
  { s with
    journalRecords :=
      if 10000 < records.length then records.drop (records.length - 10000) else records }

def recordDecision (adapterDecision : RiAuthor4142JournalDecision)
    (candidate : Option RiAuthor4142CandidateIntent) (reasonOverride : Option String) :
    RiAuthor4142LiveStrategy :=
  s.pushJournalRecord
    (RiAuthor4142JournalRecord.fromDecision decision adapterDecision candidate reasonOverride)

def buildCandidateIntent (role : RiAuthor4142CandidateRole) (side : Side)
    (scheduledTsLocal : NaiveDateTime) :
    RiAuthor4142CandidateIntent where
  role := role
  component := decision.component
  side := side
  qty := s.config.qty
  orderStyle := "market_p0"
  intentClass := role.intentClass
  scheduledTsLocal := scheduledTsLocal
  comment := "ri_author41_42:" ++ s.config.profileId ++ ":" ++ decision.component.asStr ++ ":" ++
    role.asStr
  executionPath := s.config.executionPath
  decisionKey := decision.decisionKey

def candidateIntentsForDecision : List RiAuthor4142CandidateIntent :=
  if decision.action ≠ .enter then []
  else
    match decision.side with
    | none => []
    | some modelSide =>
      (decision.scheduledEntryTsLocal.map fun entryTs =>
          s.buildCandidateIntent decision .entry modelSide.entryOrderSide entryTs).toList ++
        (decision.scheduledExitTsLocal.map fun exitTs =>
          s.buildCandidateIntent decision .exit modelSide.exitOrderSide exitTs).toList

def liveDecision (component : RiAuthor4142Component) (side : RiAuthor4142Side)
    (modelSignalTsLocal : NaiveDateTime)
    (scheduledEntryTsLocal scheduledExitTsLocal : Option NaiveDateTime)
    (reason decisionKey : String) (shadowPnlPoints : Option ℚ) : RiAuthor4142ModelDecision where
  action := .enter
  component := component
  side := some side
  modelSignalTsLocal := modelSignalTsLocal
  scheduledEntryTsLocal := scheduledEntryTsLocal
  scheduledExitTsLocal := scheduledExitTsLocal
  reason := reason
  overlapDecision := "Accepted"
  shadowPnlPoints := shadowPnlPoints
  decisionKey := decisionKey

def candidateIntent : Intent :=
  let intent := (Intent.market candidate.qty candidate.side none (some candidate.comment)).withClass
    candidate.intentClass
  match config.orderSymbol with
  | none => intent
  | some orderSymbol =>
    if orderSymbol ≠ config.symbol then intent.withSymbol orderSymbol else intent

def emitLiveCandidate (candidate : RiAuthor4142CandidateIntent)
    (decision : RiAuthor4142ModelDecision) : RiAuthor4142LiveStrategy × Intent :=
  let adapterDecision : RiAuthor4142JournalDecision :=
    if s.config.runsProspectiveAdapter then .prospectiveIntentSuppressed else .intentEmitted
  (s.recordDecision decision adapterDecision (some candidate) none,
    candidateIntent s.config candidate)

end RiAuthor4142LiveStrategy

end AlorRs.RiAuthor4142
