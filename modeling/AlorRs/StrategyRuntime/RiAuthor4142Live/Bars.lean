import AlorRs.StrategyRuntime.RiAuthor4142Live.Basic

/-!
# The bars of the RI strategy

Every bar of the model is kept and shown to the batch engines.  On a live bar first the MR and then
the BO component may send an order; what a component sends, the phase of the shared position shows
to the other.
-/

namespace AlorRs.RiAuthor4142

open MoexAuthor4142

/-! ### Bars of the model -/

/-- `saturating_add(1)` of an unsigned number of so many bits. -/
def saturatingSucc (bits n : ℕ) : ℕ := min (n + 1) (2 ^ bits - 1)

def nonZeroOrClose (value close : ℚ) : ℚ := if value ≠ 0 then value else close

def toModelBar (bar : BarEvent) (dtLocal : NaiveDateTime) : ModelBar where
  tsLocal := dtLocal
  opened := nonZeroOrClose bar.o bar.close
  high := nonZeroOrClose bar.h bar.close
  low := nonZeroOrClose bar.l bar.close
  close := bar.close
  volume := bar.v

namespace RiAuthor4142LiveConfig

variable (config : RiAuthor4142LiveConfig)

def localDt (tsUtc : ℤ) : Option NaiveDateTime :=
  if timestampInRange tsUtc then
    some (LocalDateTime.naiveLocal ⟨tsUtc, config.timezoneOffsetHours * 3600⟩)
  else none

variable (dtLocal : NaiveDateTime)

def isExcludedByModelFeedPolicy : Bool :=
  if config.effectiveModelFeedPolicy = .microRegularV1 then false
  else
    ((NaiveTime.fromHms 14 0 0).le dtLocal.time && dtLocal.time.le (.fromHms 14 4 59)) ||
      ((NaiveTime.fromHms 18 50 0).le dtLocal.time && dtLocal.time.le (.fromHms 19 4 59))

def isPreTransitionServiceBar : Bool :=
  match config.anchorTransitionRule with
  | none => false
  | some transition =>
    dtLocal.date < transition.startsOn && !(NaiveTime.fromHms 9 0 0).le dtLocal.time

def isModelBar (config : RiAuthor4142LiveConfig) (dtLocal : NaiveDateTime) (origin : DataOrigin) :
    Bool :=
  config.sessionPolicy.isModelBar dtLocal && !config.isExcludedByModelFeedPolicy dtLocal &&
    !config.isPreTransitionServiceBar dtLocal && !config.excludedModelDates.contains dtLocal.date &&
    origin ≠ .historyGap

def anchorRuleForDate (date : NaiveDate) : RiAnchorCompletenessRule :=
  match config.anchorTransitionRule with
  | some transition =>
    if date < transition.startsOn then transition.preTransition else config.canonicalAnchorRule
  | none => config.canonicalAnchorRule

end RiAuthor4142LiveConfig

/-! ### The sessions before a date -/

structure RiDailyStats where
  high : ℚ
  low : ℚ
  close : ℚ
  bars : ℕ
  firstBar : NaiveTime
  lastBar : NaiveTime

namespace RiDailyStats

def ofBar (bar : ModelBar) : RiDailyStats :=
  ⟨bar.high, bar.low, bar.close, 1, bar.tsLocal.time, bar.tsLocal.time⟩

variable (stats : RiDailyStats)

def add (bar : ModelBar) : RiDailyStats where
  high := max stats.high bar.high
  low := min stats.low bar.low
  close := bar.close
  bars := stats.bars + 1
  firstBar := if stats.firstBar.le bar.tsLocal.time then stats.firstBar else bar.tsLocal.time
  lastBar := if bar.tsLocal.time.le stats.lastBar then stats.lastBar else bar.tsLocal.time

def isEligible (rule : RiAnchorCompletenessRule) : Bool :=
  rule.minBars ≤ stats.bars && stats.firstBar.le rule.firstBarAtOrBefore &&
    rule.lastBarAtOrAfter.le stats.lastBar

end RiDailyStats

def updateDate {V : Type} (date : NaiveDate) (f : Option V → V) :
    List (NaiveDate × V) → List (NaiveDate × V)
  | [] => [(date, f none)]
  | (d, v) :: rest =>
    if date = d then (d, f (some v)) :: rest
    else if date < d then (date, f none) :: (d, v) :: rest
    else (d, v) :: updateDate date f rest

structure RiDailyAnchor where
  prevClose : ℚ
  prevLow : ℚ
  prevRange : ℚ

namespace RiAuthor4142LiveStrategy

variable (s : RiAuthor4142LiveStrategy) (decision : RiAuthor4142ModelDecision) (date : NaiveDate)
  (finalized : List RiAuthor4142ModelDecision) (currentDtLocal : NaiveDateTime)

def dailyStatsBefore : List (NaiveDate × RiDailyStats) :=
  let before := s.modelBars.filter fun bar =>
    bar.tsLocal.date < date && !s.config.excludedModelDates.contains bar.tsLocal.date
  let byDay := before.foldl
    (fun days bar => updateDate bar.tsLocal.date
      (fun stats => (stats.map fun stats => stats.add bar).getD (.ofBar bar)) days) []
  byDay.filter fun day => day.2.isEligible (s.config.anchorRuleForDate day.1)

def mrAnchorForDate : Option RiDailyAnchor :=
  (s.dailyStatsBefore date).getLast?.map fun day =>
    ⟨day.2.close, day.2.low, day.2.high - day.2.low⟩

def boContextForDate : Option RiAuthor4142LiveBoContext :=
  match (s.dailyStatsBefore date).reverse with
  | (_, prev) :: (_, prev2) :: _ =>
    some
      { prevClose := prev.close
        prev2Close := prev2.close
        prevRange := prev.high - prev.low
        prevHlRatio := if prev.low = 0 then none else some (prev.high / prev.low)
        prevRet := if prev2.close = 0 then none else some (prev.close / prev2.close - 1) }
  | _ => none

/-! ### Finalized decisions -/

def decisionSafetyRejectReason : Option String :=
  match decision.scheduledEntryTsLocal, decision.scheduledExitTsLocal with
  | some entryTs, some exitTs =>
    if !entryTs.le exitTs then some "exit_before_entry_not_allowed"
    else if exitTs.date ≠ entryTs.date then some "cross_day_exit_not_allowed"
    else none
  | _, _ => none

def applyDryRunDecision : RiAuthor4142LiveStrategy :=
  match decision.action with
  | .suppress => s.recordDecision decision .intentSuppressed none none
  | .enter =>
    match decisionSafetyRejectReason decision with
    | some reason =>
      (s.recordDecision decision .manualInterventionRequired none (some reason)
        ).enterManualInterventionRequired reason
    | none =>
      let candidates := s.candidateIntentsForDecision decision
      if candidates.isEmpty then
        s.recordDecision decision .manualInterventionRequired none
          (some "accepted_model_decision_without_complete_entry_exit_candidate")
      else
        let s := candidates.foldl
          (fun s candidate => s.recordDecision decision .intentSuppressed (some candidate) none) s
        (s.transitionToDryRunInPosition decision).transitionToFlatAfterScheduledExit decision

def collectDecision : RiAuthor4142LiveStrategy × List RiAuthor4142ModelDecision :=
  if s.emittedDecisionKeys.contains decision.decisionKey then (s, [])
  else
    let s := { s with emittedDecisionKeys := decision.decisionKey :: s.emittedDecisionKeys }
    let s := s.updateState fun saved =>
      { saved with
        modelDecisionsSeen := saturatingSucc 64 saved.modelDecisionsSeen
        lastDecisionKey := some decision.decisionKey }
    (s.recordDecision decision .shadowRecorded none none, [decision])

def collectIncrementalDecisions (s : RiAuthor4142LiveStrategy) :
    List RiAuthor4142ModelDecision → RiAuthor4142LiveStrategy × List RiAuthor4142ModelDecision
  | [] => (s, [])
  | decision :: decisions =>
    let (s, collected) := s.collectDecision decision
    let (s, rest) := s.collectIncrementalDecisions decisions
    (s, collected ++ rest)

def isShadowPortfolioPathMember : Bool :=
  decision.action = .enter && decision.overlapDecision = "Accepted" &&
    decision.scheduledEntryTsLocal.isSome && decision.scheduledExitTsLocal.isSome

def decisionEntryDate : NaiveDate :=
  (decision.scheduledEntryTsLocal.getD decision.modelSignalTsLocal).date

def insertKey (key : String) : List String → List String
  | [] => [key]
  | k :: keys =>
    if key = k then k :: keys
    else if key < k then key :: k :: keys
    else k :: insertKey key keys

def recordPath (keys : List String) (adapterDecision : RiAuthor4142JournalDecision)
    (reasonOverride : Option String) : RiAuthor4142LiveStrategy :=
  keys.foldl
    (fun s key =>
      match s.shadowDecisionsByKey.lookup key with
      | some decision => s.recordDecision decision adapterDecision none reasonOverride
      | none => s) s

/-- One round of the second loop of `update_shadow_portfolio_path`. -/
def updatePathOfDate (day : NaiveDate × List String) : RiAuthor4142LiveStrategy :=
  let previousKeys := (s.shadowPathKeysByDate.lookup day.1).getD []
  if previousKeys = day.2 then s
  else
    let s := s.recordPath (previousKeys.filter fun key => !day.2.contains key)
      .shadowPathSuperseded (some "shadow_path_recomputed")
    let s := s.recordPath (day.2.filter fun key => !previousKeys.contains key) .shadowPathActive none
    { s with shadowPathKeysByDate := updateDate day.1 (fun _ => day.2) s.shadowPathKeysByDate }

def updateShadowPortfolioPath : RiAuthor4142LiveStrategy :=
  let s := { s with
    shadowDecisionsByKey := finalized.foldl
      (fun known decision => (decision.decisionKey, decision) :: known) s.shadowDecisionsByKey }
  let keysByDate := (finalized.filter isShadowPortfolioPathMember).foldl
    (fun days decision => updateDate (decisionEntryDate decision)
      (fun keys => insertKey decision.decisionKey (keys.getD [])) days)
    [(currentDtLocal.date, [])]
  keysByDate.foldl updatePathOfDate s

def collectShadowDecisions : RiAuthor4142LiveStrategy :=
  let (s, newDecisions) := s.collectIncrementalDecisions finalized
  let s :=
    if s.config.runsProspectiveAdapter then s else newDecisions.foldl applyDryRunDecision s
  s.updateShadowPortfolioPath finalized currentDtLocal

def collectNewDecisions (env : Environment) (currentDtLocal : NaiveDateTime)
    : RiAuthor4142LiveStrategy :=
  let eligibleDates := (s.dailyStatsBefore currentDtLocal.date).map Prod.fst
  let eligibleModelBars := s.modelBars.filter fun bar =>
    bar.tsLocal.date = currentDtLocal.date || eligibleDates.contains bar.tsLocal.date
  let finalized := env.finalizedDecisions s.config eligibleModelBars currentDtLocal
  if s.config.canEmitOrders then (s.collectIncrementalDecisions finalized).1
  else s.collectShadowDecisions finalized currentDtLocal

/-- The bar in the counters of the saved state, and a bar of the model among the last 5000. -/
def noteBar (bar : BarEvent) (dtLocal : NaiveDateTime) (isModelBar : Bool)
    : RiAuthor4142LiveStrategy :=
  match s.state with
  | none => s
  | some saved =>
    let saved := { saved with lastBarTs := some bar.closeTimeUtc }
    if isModelBar then
      let bars := s.modelBars ++ [toModelBar bar dtLocal]
      { s with
        modelBars := if 5000 < bars.length then bars.drop (bars.length - 5000) else bars
        state := some
          { saved with
            lastModelBarTs := some bar.closeTimeUtc
            modelBarsSeen := saturatingSucc 64 saved.modelBarsSeen } }
    else
      { s with
        state := some
          { saved with
            suppressedServiceBars := saturatingSucc 64 saved.suppressedServiceBars } }

def updateBarState (env : Environment) (bar : BarEvent) : RiAuthor4142LiveStrategy :=
  match s.config.localDt bar.closeTimeUtc with
  | none => s
  | some dtLocal =>
    let isModelBar := s.config.isModelBar dtLocal bar.origin
    let s := s.noteBar bar dtLocal isModelBar
    if isModelBar then s.collectNewDecisions env dtLocal else s

end RiAuthor4142LiveStrategy

end AlorRs.RiAuthor4142
