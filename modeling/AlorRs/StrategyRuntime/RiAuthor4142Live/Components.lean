import AlorRs.StrategyRuntime.RiAuthor4142Live.Bars

/-!
# The two components of the RI strategy

On a live bar first the MR and then the BO component looks for an exit of what it holds or for an
entry (`liveIntentsForBar`).
-/

namespace AlorRs.RiAuthor4142

open MoexAuthor4142

def pointsForSide (side : RiAuthor4142Side) (entryPrice exitPrice : ℚ) : ℚ :=
  match side with
  | .long => exitPrice - entryPrice
  | .short => entryPrice - exitPrice

def liveDecisionKey (config : RiAuthor4142LiveConfig) (component : RiAuthor4142Component)
    (tsLocal : NaiveDateTime) (side : RiAuthor4142Side) : String :=
  config.profileId ++ "|" ++ component.asStr ++ "|" ++ tsLocal.text ++ "|Some(" ++
    side.debugText ++ ")|live_prospective"

namespace RiAuthor4142LiveStrategy

/-! ### The MR component -/

def mrSideSignal (anchor : RiDailyAnchor) (side : RiAuthor4142Side) (config : Author41Config)
    (bar : ModelBar) : Bool :=
  let relRange := anchor.prevRange / anchor.prevLow
  bar.tsLocal.time.le config.entryEnd && config.minRange < relRange && relRange < config.maxRange &&
    match side with
    | .short =>
      anchor.prevClose < bar.close && bar.close < anchor.prevClose + config.k * anchor.prevRange
    | .long =>
      bar.close < anchor.prevClose && anchor.prevClose - config.k * anchor.prevRange < bar.close

variable (s : RiAuthor4142LiveStrategy) (position : RiAuthor4142LiveMrPosition) (bar : ModelBar)
  (config : Author42Config)

def mrEntrySignal : Option (RiDailyAnchor × RiAuthor4142Side × Author41Config) :=
  match s.mrAnchorForDate bar.tsLocal.date with
  | none => none
  | some anchor =>
    if anchor.prevRange ≤ 0 || anchor.prevLow ≤ 0 then none
    else if mrSideSignal anchor .short s.config.author41ShortConfig bar then
      some (anchor, .short, s.config.author41ShortConfig)
    else if mrSideSignal anchor .long s.config.author41LongConfig bar then
      some (anchor, .long, s.config.author41LongConfig)
    else none

def mrExitSignal : Option (ℚ × String) :=
  let config := position.config
  match position.side with
  | .short =>
    let stopPrice := position.prevClose + config.stopK * position.prevRange
    let takePrice := position.prevClose - config.k2 * position.prevRange
    if stopPrice ≤ bar.high then some (stopPrice, "stop")
    else if bar.close < takePrice then some (bar.close, "take_author_close")
    else if config.timeExit.le bar.tsLocal.time then some (bar.close, "time_exit")
    else if config.breakevenAfterBars < position.barsHeld && bar.low ≤ position.entryPrice then
      some (position.entryPrice, "breakeven_limit")
    else none
  | .long =>
    let stopPrice := position.prevClose - config.stopK * position.prevRange
    let takePrice := position.prevClose + config.k2 * position.prevRange
    if bar.low ≤ stopPrice then some (stopPrice, "stop")
    else if takePrice < bar.close then some (bar.close, "take_author_close")
    else if config.timeExit.le bar.tsLocal.time then some (bar.close, "time_exit")
    else if config.breakevenAfterBars < position.barsHeld && position.entryPrice ≤ bar.high then
      some (position.entryPrice, "breakeven_limit")
    else none

variable (component : RiAuthor4142Component) (side : RiAuthor4142Side)

/-- An entry of a component: its intent, and the phase that waits for it. -/
def emitEntryIntent (tsLocal : NaiveDateTime) (reason transitionReason : String)
    : RiAuthor4142LiveStrategy × Intent :=
  let decision := liveDecision component side tsLocal (some tsLocal) none reason
    (liveDecisionKey s.config component tsLocal side) none
  let candidate := s.buildCandidateIntent decision .entry side.entryOrderSide tsLocal
  let (s, intent) := s.emitLiveCandidate candidate decision
  (s.transitionLivePendingEntry decision transitionReason, intent)

/-- An exit of a component: its intent, and the phase that waits for it. -/
def emitExitIntent (entryTsLocal : NaiveDateTime) (bar : ModelBar)
    (reason transitionReason decisionKey : String) (pnlPoints : ℚ) :
    RiAuthor4142LiveStrategy × Intent :=
  let decision := liveDecision component side entryTsLocal (some entryTsLocal) (some bar.tsLocal)
    reason decisionKey (some pnlPoints)
  let candidate := s.buildCandidateIntent decision .exit side.exitOrderSide bar.tsLocal
  let (s, intent) := s.emitLiveCandidate candidate decision
  (s.transitionLivePendingExit decision transitionReason, intent)

def emitMrExitIntent (exitPrice : ℚ) (reason transitionReason : String) :
    RiAuthor4142LiveStrategy × Intent :=
  s.emitExitIntent .author41Mr position.side position.entryTsLocal bar reason transitionReason
    position.decisionKey
    (pointsForSide position.side position.entryPrice exitPrice -
      position.config.roundtripCostPoints)

def startMrDate : RiAuthor4142LiveStrategy :=
  if s.liveMr.currentDate ≠ some bar.tsLocal.date then
    { s with
      liveMr :=
        { currentDate := some bar.tsLocal.date
          entriesToday := 0
          position := if s.phaseIs .flat then none else s.liveMr.position } }
  else s

def holdMr : RiAuthor4142LiveStrategy × List Intent :=
  let position := { position with barsHeld := saturatingSucc 32 position.barsHeld }
  let s := { s with liveMr := { s.liveMr with position := some position } }
  match mrExitSignal position bar with
  | some (exitPrice, reason) =>
    let (s, intent) := s.emitMrExitIntent position bar exitPrice reason "live_exit_emitted"
    (s, [intent])
  | none => (s, [])

def enterMr (anchor : RiDailyAnchor) (side : RiAuthor4142Side) (config : Author41Config) :
    RiAuthor4142LiveStrategy × List Intent :=
  let s :=
    { s with
      liveMr :=
        { s.liveMr with
          entriesToday := saturatingSucc 32 s.liveMr.entriesToday
          position := some
            { side := side
              entryTsLocal := bar.tsLocal
              entryPrice := bar.close
              prevClose := anchor.prevClose
              prevRange := anchor.prevRange
              barsHeld := 0
              config := config
              decisionKey := liveDecisionKey s.config .author41Mr bar.tsLocal side } } }
  let (s, intent) :=
    s.emitEntryIntent .author41Mr side bar.tsLocal "live_entry" "live_entry_emitted"
  (s, [intent])

def liveMrIntentsForBar : RiAuthor4142LiveStrategy × List Intent :=
  if s.phaseIs .livePendingEntry then (s, [])
  else if s.phaseIs .livePendingExit then (s, [])
  else if s.phaseIs .liveDeferredExit then
    match s.liveMr.position with
    | some position =>
      let (s, intent) := s.emitMrExitIntent position bar bar.close "deferred_exit_reissue"
        "live_deferred_exit_reissued"
      (s, [intent])
    | none => (s, [])
  else if s.phaseBlocksFreshEntries then (s, [])
  else
    let s := s.startMrDate bar
    match s.liveMr.position with
    | some position => s.holdMr position bar
    | none =>
      if 2 ≤ s.liveMr.entriesToday then (s, [])
      -- the BO component owns the slot
      else if s.liveBo.position.isSome then (s, [])
      else
        match s.mrEntrySignal bar with
        | none => (s, [])
        | some (anchor, side, config) => s.enterMr bar anchor side config

/-! ### The BO component -/

def author42EntryTimeAllowed (entryTime : NaiveTime) (config : Author42Config) : Bool :=
  config.lastEntryTime.all fun lastEntryTime => entryTime.le lastEntryTime

def author42EntrySignalTimeAllowed (signalTime : NaiveTime) (config : Author42Config) : Bool :=
  config.lastEntryTime.all fun lastEntryTime => !lastEntryTime.le signalTime

def author42EntryCountAllowed : Bool :=
  config.maxEntriesPerDay.all fun maxEntries => s.liveBo.entriesToday < maxEntries

/-- `is_author42_hour_check`, from the first bar of the session. -/
def isHourCheck : Bool :=
  s.liveBo.firstBar.any fun firstBar => isAuthor42HourCheck bar.tsLocal firstBar.tsLocal

variable (position : RiAuthor4142LiveBoPosition)

def emitBoExitIntent (bar : ModelBar) (exitPrice : ℚ) (reason transitionReason : String)
    (roundtripCostPoints : ℚ) : RiAuthor4142LiveStrategy × Intent :=
  s.emitExitIntent .author42Bo position.side position.entryTsLocal bar reason transitionReason
    position.decisionKey
    (pointsForSide position.side position.entryPrice exitPrice - roundtripCostPoints)

def boTradeAllowed (date : NaiveDate) (context : Option RiAuthor4142LiveBoContext) : Bool :=
  let skipByDate := (config.excludeFriday && date.weekday = .fri) ||
    (config.excludeJuneWindow && inAuthorJuneWindow date)
  context.any fun context =>
    !skipByDate && context.prevHlRatio.isSome && context.prevRet.isSome && 0 < context.prevRange &&
      0 < context.prevClose

def ensureBoSession : RiAuthor4142LiveStrategy :=
  let date := bar.tsLocal.date
  if s.liveBo.currentDate = some date then s
  else
    let context := s.boContextForDate date
    { s with
      liveBo :=
        { RiAuthor4142LiveBoState.default with
          currentDate := some date
          context := context
          firstBar := some bar
          tradeAllowed := boTradeAllowed s.config.author42Config date context } }

variable (context : RiAuthor4142LiveBoContext)

/-- The levels of a session, from its sixth bar. -/
def setBoLevels : RiAuthor4142LiveStrategy :=
  let s :=
    match s.liveBo.firstBar with
    | none => s
    | some firstBar =>
      { s with
        liveBo :=
          { s.liveBo with
            longLevel := some
              (max (max (context.prevClose + config.k * context.prevRange) bar.close)
                firstBar.high)
            shortLevel := some
              (min (min (context.prevClose - config.k * context.prevRange) bar.close)
                firstBar.low) } }
  if config.useFirstHourExtremeFilter &&
      config.firstHourExtremeK * context.prevRange < |bar.close - context.prevClose| then
    { s with liveBo := { s.liveBo with tradeAllowed := false } }
  else s

def observeBoBar : RiAuthor4142LiveStrategy :=
  let exitPending :=
    match s.liveBo.pending with
    | some (.exit _) => true
    | _ => false
  let s :=
    if s.liveBo.currentDate ≠ some bar.tsLocal.date && s.liveBo.position.isNone && !exitPending then
      s.ensureBoSession bar
    else s
  if s.liveBo.currentDate ≠ some bar.tsLocal.date then s
  else
    let s :=
      { s with
        liveBo :=
          { s.liveBo with
            dayHh := some (max (s.liveBo.dayHh.getD bar.high) bar.high)
            dayLl := some (min (s.liveBo.dayLl.getD bar.low) bar.low) } }
    let s :=
      match s.liveBo.context with
      | none => s
      | some context => if s.liveBo.barIndex = 5 then s.setBoLevels bar config context else s
    { s with liveBo := { s.liveBo with barIndex := saturatingSucc 64 s.liveBo.barIndex } }

/-- The signal of `update_bo_pending_entry` for a bar that may give one. -/
def boEntrySignal (longLevel shortLevel : ℚ) : Option RiAuthor4142Side :=
  let rangeOk := context.prevHlRatio.any fun ratio => config.minPrevHlRatio < ratio
  let buyTrig := rangeOk && context.prevRet.any (fun ret => -config.prevExtremeMove < ret) &&
    config.sideMode ≠ .short
  let shortTrig := rangeOk && context.prevRet.any (fun ret => ret < config.prevExtremeMove) &&
    config.sideMode ≠ .long
  if config.allowReentryOnDayExtreme && s.liveBo.wasLongToday &&
      s.liveBo.dayHh.all (fun dayHh => dayHh ≤ bar.high) then
    some .long
  else if config.allowReentryOnDayExtreme && s.liveBo.wasShortToday &&
      s.liveBo.dayLl.all (fun dayLl => bar.low ≤ dayLl) then
    some .short
  else if s.isHourCheck bar then
    if buyTrig && longLevel < bar.close then some .long
    else if shortTrig && bar.close < shortLevel then some .short
    else none
  else none

/-- The entry that a bar without one pending, in a slot without an owner, makes pending. -/
def boPendingEntry : Option RiAuthor4142Side :=
  match s.liveBo.context with
  | none => none
  | some context =>
    if s.liveBo.pending.isSome || s.liveBo.position.isSome || s.liveMr.position.isSome ||
        !s.liveBo.tradeAllowed then none
    else
      match s.liveBo.longLevel, s.liveBo.shortLevel with
      | some longLevel, some shortLevel =>
        if config.exitTime.le bar.tsLocal.time then none
        else if !author42EntrySignalTimeAllowed bar.tsLocal.time config then none
        else if !s.author42EntryCountAllowed config then none
        else s.boEntrySignal bar config context longLevel shortLevel
      | _, _ => none

def updateBoPendingEntry : RiAuthor4142LiveStrategy :=
  match s.boPendingEntry bar config with
  | some side => { s with liveBo := { s.liveBo with pending := some (.entry side) } }
  | none => s

def enterBo : RiAuthor4142LiveStrategy × List Intent :=
  let s :=
    { s with
      liveBo :=
        { s.liveBo with
          position := some
            { side := side
              entryTsLocal := bar.tsLocal
              entryPrice := nonZeroOrClose bar.opened bar.close
              barsHeld := 0
              decisionKey := liveDecisionKey s.config .author42Bo bar.tsLocal side }
          wasLongToday := s.liveBo.wasLongToday || side = RiAuthor4142Side.long
          wasShortToday := s.liveBo.wasShortToday || side = RiAuthor4142Side.short
          entriesToday := saturatingSucc 32 s.liveBo.entriesToday } }
  let (s, intent) :=
    s.emitEntryIntent .author42Bo side bar.tsLocal "live_entry_next_bar" "live_bo_entry_emitted"
  (s, [intent])

def takeBoEntry (bar : ModelBar) (config : Author42Config)
    : RiAuthor4142LiveStrategy × List Intent :=
  if config.exitTime.le bar.tsLocal.time then (s, [])
  else if !author42EntryTimeAllowed bar.tsLocal.time config then (s, [])
  else if !s.author42EntryCountAllowed config then (s, [])
  else if s.liveMr.position.isNone && s.liveBo.position.isNone then s.enterBo bar side
  else (s, [])

/-- The stop that a bar gives a position, to be taken at the next bar. -/
def boStopReason (bar : ModelBar) (config : Author42Config) (context : RiAuthor4142LiveBoContext)
    : Option String :=
  match side with
  | .long =>
    if bar.close < context.prevClose + config.stopK * context.prevRange then
      some "stop_emergency_long_next_open"
    else if s.isHourCheck bar &&
        bar.close < context.prevClose + config.stopHourK * context.prevRange then
      some "stop_hour_long_next_open"
    else none
  | .short =>
    if context.prevClose - config.stopK * context.prevRange < bar.close then
      some "stop_emergency_short_next_open"
    else if s.isHourCheck bar &&
        context.prevClose - config.stopHourK * context.prevRange < bar.close then
      some "stop_hour_short_next_open"
    else none

def holdBo (bar : ModelBar) (config : Author42Config) : RiAuthor4142LiveStrategy × List Intent :=
  let position := { position with barsHeld := saturatingSucc 32 position.barsHeld }
  let s := { s with liveBo := { s.liveBo with position := some position } }
  if config.exitTime.le bar.tsLocal.time then
    let (s, intent) := s.emitBoExitIntent position bar bar.close "time_exit_same_bar_close"
      "live_bo_exit_emitted" config.roundtripCostPoints
    (s, [intent])
  else
    match s.liveBo.context.bind fun context => s.boStopReason position.side bar config context with
    | some reason => ({ s with liveBo := { s.liveBo with pending := some (.exit reason) } }, [])
    | none => (s, [])

/-- What a bar does to the position of the component. -/
def manageBo : RiAuthor4142LiveStrategy × List Intent :=
  match s.liveBo.position with
  | some position => s.holdBo position bar config
  | none => (s, [])

/-- The end of `live_bo_intents_for_bar`, after the pending signal. -/
def settleBo (intents : List Intent) : RiAuthor4142LiveStrategy × List Intent :=
  let (s, exits) := s.manageBo bar config
  (s.updateBoPendingEntry bar config, intents ++ exits)

/-- The branch of `live_bo_intents_for_bar` where the phase lets the component act. -/
def actBo : RiAuthor4142LiveStrategy × List Intent :=
  let pending := s.liveBo.pending
  let s := { s with liveBo := { s.liveBo with pending := none } }
  match pending with
  | none => s.settleBo bar config []
  | some (.entry side) =>
    let (s, intents) := s.takeBoEntry side bar config
    s.settleBo bar config intents
  | some (.exit reason) =>
    match s.liveBo.position with
    | some position =>
      let (s, intent) := s.emitBoExitIntent position bar (nonZeroOrClose bar.opened bar.close)
        reason "live_bo_exit_emitted" config.roundtripCostPoints
      (s, [intent])
    | none => s.settleBo bar config []

def liveBoIntentsForBar : RiAuthor4142LiveStrategy × List Intent :=
  let config := s.config.author42Config
  let s := s.observeBoBar bar config
  if s.phaseIs .livePendingEntry then (s, [])
  else if s.phaseIs .livePendingExit then (s, [])
  else if s.phaseIs .liveDeferredExit then
    match s.liveBo.position with
    | some position =>
      let (s, intent) := s.emitBoExitIntent position bar (nonZeroOrClose bar.opened bar.close)
        "deferred_exit_reissue" "live_bo_deferred_exit_reissued" config.roundtripCostPoints
      (s, [intent])
    | none => (s, [])
  else if s.phaseBlocksFreshEntries then (s, [])
  else s.actBo bar config

def liveIntentsForBar : RiAuthor4142LiveStrategy × List Intent :=
  let (s, mrIntents) := s.liveMrIntentsForBar bar
  let (s, boIntents) := s.liveBoIntentsForBar bar
  (s, mrIntents ++ boIntents)

/-! ### A bar -/

/-- `runtime_adapter_model_bar`; unlike `update_bar_state` it lets the bars before a transition
pass. -/
def runtimeAdapterModelBar (ctx : StrategyCtx) (bar : BarEvent) : Option ModelBar :=
  let liveEmissionAllowed :=
    s.config.canEmitOrders && ctx.tradeMode = .live && ctx.allowLiveOrders
  if !liveEmissionAllowed && !s.config.runsProspectiveAdapter then none
  else if bar.origin ≠ .live then none
  else
    match s.config.localDt bar.closeTimeUtc with
    | none => none
    | some dtLocal =>
      if !s.config.sessionPolicy.isModelBar dtLocal ||
          s.config.isExcludedByModelFeedPolicy dtLocal ||
          s.config.excludedModelDates.contains dtLocal.date then none
      else some (toModelBar bar dtLocal)

def onBar (env : Environment) (s : RiAuthor4142LiveStrategy) (ctx : StrategyCtx)
    (bar : BarEvent) : RiAuthor4142LiveStrategy × List Intent :=
  let s := s.updateBarState env bar
  match s.runtimeAdapterModelBar ctx bar with
  | none => (s, [])
  | some modelBar =>
    let (s, intents) := s.liveIntentsForBar modelBar
    if s.config.runsProspectiveAdapter then (s.finalizeProspectiveAdapterTransition, [])
    else (s, intents)

end RiAuthor4142LiveStrategy

end AlorRs.RiAuthor4142
