import AlorRs.StrategyRuntime.Equiv.RiAuthor4142Live.Window

/-!
# Decisions of past days

Every decision is emitted once.  While the bars of the model come in the order of their dates, and a
cut of the window leaves the statistics of the sessions that count as they were, no decision is
emitted for a date once a bar of a later date has come (`decisions_stable`).
-/

namespace AlorRs.RiAuthor4142

open MoexAuthor4142 RiAuthor4142LiveStrategy

/-! ### What a bar leaves alone -/

/-- What is done with decisions leaves the window and the known keys alone. -/
structure Untouched (s s' : RiAuthor4142LiveStrategy) : Prop where
  config : s'.config = s.config
  modelBars : s'.modelBars = s.modelBars
  keys : s'.emittedDecisionKeys = s.emittedDecisionKeys
  saved : s'.state.isSome = s.state.isSome

namespace Untouched

variable {s s' s'' : RiAuthor4142LiveStrategy}

theorem refl (s : RiAuthor4142LiveStrategy) : Untouched s s := ⟨rfl, rfl, rfl, rfl⟩

theorem trans (h : Untouched s s') (h' : Untouched s' s'') : Untouched s s'' :=
  ⟨h'.config.trans h.config, h'.modelBars.trans h.modelBars, h'.keys.trans h.keys,
    h'.saved.trans h.saved⟩

theorem foldl {α : Type} {f : RiAuthor4142LiveStrategy → α → RiAuthor4142LiveStrategy}
    (hf : ∀ s x, Untouched s (f s x)) (xs : List α) : Untouched s (xs.foldl f s) := by
  induction xs generalizing s with
  | nil => exact .refl s
  | cons x xs ih => exact (hf s x).trans ih

theorem updateState (s : RiAuthor4142LiveStrategy) (f : SavedState → SavedState) :
    Untouched s (s.updateState f) := ⟨rfl, rfl, rfl, Option.isSome_map⟩

theorem recordDecision (s : RiAuthor4142LiveStrategy) (decision : RiAuthor4142ModelDecision)
    (adapterDecision : RiAuthor4142JournalDecision)
    (candidate : Option RiAuthor4142CandidateIntent) (reasonOverride : Option String) :
    Untouched s (s.recordDecision decision adapterDecision candidate reasonOverride) :=
  ⟨rfl, rfl, rfl, rfl⟩

theorem recordPath (s : RiAuthor4142LiveStrategy) (keys : List String)
    (adapterDecision : RiAuthor4142JournalDecision) (reasonOverride : Option String) :
    Untouched s (s.recordPath keys adapterDecision reasonOverride) := by
  apply foldl
  intro s key
  split
  · exact recordDecision s _ _ _ _
  · exact .refl s

theorem updatePathOfDate (s : RiAuthor4142LiveStrategy) (day : NaiveDate × List String) :
    Untouched s (s.updatePathOfDate day) := by
  unfold RiAuthor4142LiveStrategy.updatePathOfDate
  dsimp only
  split_ifs
  · exact .refl s
  · exact ((recordPath s _ _ _).trans (recordPath _ _ _ _)).trans ⟨rfl, rfl, rfl, rfl⟩

theorem applyDryRunDecision (s : RiAuthor4142LiveStrategy)
    (decision : RiAuthor4142ModelDecision) : Untouched s (s.applyDryRunDecision decision) := by
  unfold RiAuthor4142LiveStrategy.applyDryRunDecision
  split
  · exact recordDecision s _ _ _ _
  · split
    · exact (recordDecision s _ _ _ _).trans (updateState _ _)
    · dsimp only
      split_ifs
      · exact recordDecision s _ _ _ _
      · exact ((foldl (fun s _ => recordDecision s _ _ _ _) _).trans (updateState _ _)).trans
          (updateState _ _)

theorem updateShadowPortfolioPath (s : RiAuthor4142LiveStrategy)
    (finalized : List RiAuthor4142ModelDecision) (currentDtLocal : NaiveDateTime) :
    Untouched s (s.updateShadowPortfolioPath finalized currentDtLocal) := by
  unfold RiAuthor4142LiveStrategy.updateShadowPortfolioPath
  exact ⟨(foldl updatePathOfDate _).config, (foldl updatePathOfDate _).modelBars,
    (foldl updatePathOfDate _).keys, (foldl updatePathOfDate _).saved⟩

end Untouched

variable (s : RiAuthor4142LiveStrategy) (env : Environment)
  (decisions : List RiAuthor4142ModelDecision)

def knowing : RiAuthor4142LiveStrategy :=
  { s with
    emittedDecisionKeys :=
      Reports.knownAfter RiAuthor4142ModelDecision.decisionKey s.emittedDecisionKeys decisions }

@[simp]
theorem modelBars_knowing : (knowing s decisions).modelBars = s.modelBars := rfl

@[simp]
theorem config_knowing : (knowing s decisions).config = s.config := rfl

@[simp]
theorem state_knowing : (knowing s decisions).state = s.state := rfl

theorem keys_knowing :
    (knowing s decisions).emittedDecisionKeys =
      Reports.knownAfter RiAuthor4142ModelDecision.decisionKey s.emittedDecisionKeys decisions := rfl

theorem finalizedDecisions_withEngines :
    env.withEngines.finalizedDecisions = engineDecisions := rfl

/-- The decisions that are new are those with keys that are not known. -/
theorem collectIncrementalDecisions_eq :
    (s.collectIncrementalDecisions decisions).2 =
        Reports.reports RiAuthor4142ModelDecision.decisionKey s.emittedDecisionKeys decisions ∧
      Untouched (knowing s decisions) (s.collectIncrementalDecisions decisions).1 := by
  induction decisions generalizing s with
  | nil => exact ⟨rfl, .refl s⟩
  | cons decision decisions ih =>
    obtain ⟨hnew, hkept⟩ := ih (s.collectDecision decision).1
    have hcollected : (s.collectIncrementalDecisions (decision :: decisions)) =
        (((s.collectDecision decision).1.collectIncrementalDecisions decisions).1,
          (s.collectDecision decision).2 ++
            ((s.collectDecision decision).1.collectIncrementalDecisions decisions).2) := rfl
    unfold knowing at hkept ⊢
    rw [hcollected, Reports.knownAfter_cons, Reports.reports]
    rw [hnew]
    by_cases hknown : s.emittedDecisionKeys.contains decision.decisionKey = true
    · have hsame : s.collectDecision decision = (s, []) := if_pos hknown
      rw [if_pos hknown, if_pos hknown]
      rw [hsame] at hkept ⊢
      exact ⟨rfl, hkept⟩
    · have hadded : s.collectDecision decision =
          ((({ s with emittedDecisionKeys := decision.decisionKey :: s.emittedDecisionKeys } :
            RiAuthor4142LiveStrategy).updateState fun saved =>
              { saved with
                modelDecisionsSeen := saturatingSucc 64 saved.modelDecisionsSeen
                lastDecisionKey := some decision.decisionKey }).recordDecision decision
                  .shadowRecorded none none, [decision]) := if_neg hknown
      rw [if_neg hknown, if_neg hknown]
      rw [hadded] at hkept ⊢
      exact ⟨rfl, hkept.config, hkept.modelBars, hkept.keys, hkept.saved.trans Option.isSome_map⟩

/-- On a bar of the model the new decisions become known, and that is all that concerns the window
and the keys. -/
theorem collectNewDecisions_untouched (currentDtLocal : NaiveDateTime) :
    Untouched
      (knowing s (env.finalizedDecisions s.config (s.eligibleModelBars currentDtLocal.date)
        currentDtLocal))
      (s.collectNewDecisions env currentDtLocal) := by
  show Untouched _ (if s.config.canEmitOrders then
    (s.collectIncrementalDecisions (env.finalizedDecisions s.config
      (s.eligibleModelBars currentDtLocal.date) currentDtLocal)).1
    else s.collectShadowDecisions (env.finalizedDecisions s.config
      (s.eligibleModelBars currentDtLocal.date) currentDtLocal) currentDtLocal)
  generalize env.finalizedDecisions s.config (s.eligibleModelBars currentDtLocal.date)
    currentDtLocal = finalized
  have hcollected := (collectIncrementalDecisions_eq s finalized).2
  split_ifs
  · exact hcollected
  · unfold collectShadowDecisions
    refine hcollected.trans (Untouched.trans ?_ (Untouched.updateShadowPortfolioPath _ _ _))
    split_ifs
    · exact .refl _
    · exact .foldl Untouched.applyDryRunDecision _

/-! ### A bar of the model -/

def modelTime (config : RiAuthor4142LiveConfig) (bar : BarEvent) : Option NaiveDateTime :=
  (config.localDt bar.closeTimeUtc).filter fun dtLocal => config.isModelBar dtLocal bar.origin

/-- The last 5000 bars. -/
@[irreducible]
def window (bars : List ModelBar) : List ModelBar := bars.drop (bars.length - 5000)

theorem noteBar_untouched {s : RiAuthor4142LiveStrategy} (hsaved : s.state.isSome = true)
    (bar : BarEvent) (dtLocal : NaiveDateTime) :
    Untouched { s with modelBars := window (s.modelBars ++ [toModelBar bar dtLocal]) }
      (s.noteBar bar dtLocal true) := by
  obtain ⟨saved, hstate⟩ := Option.isSome_iff_exists.mp hsaved
  unfold noteBar window
  rw [hstate]
  dsimp only
  rw [if_pos rfl]
  refine ⟨rfl, ?_, rfl, rfl⟩
  split_ifs with hlong
  · rfl
  · rw [Nat.sub_eq_zero_of_le (not_lt.mp hlong), List.drop_zero]

theorem updateBarState_of_none {s : RiAuthor4142LiveStrategy} {bar : BarEvent}
    (h : modelTime s.config bar = none) :
    Untouched s (s.updateBarState env bar) ∧ s.barDecisions env bar = [] := by
  unfold modelTime at h
  unfold updateBarState barDecisions
  cases hlocal : s.config.localDt bar.closeTimeUtc with
  | none => exact ⟨.refl s, rfl⟩
  | some dtLocal =>
    rw [hlocal] at h
    have hservice : s.config.isModelBar dtLocal bar.origin = false := by
      simpa [Option.filter] using h
    dsimp only
    rw [hservice]
    refine ⟨?_, rfl⟩
    show Untouched s (s.noteBar bar dtLocal false)
    unfold noteBar
    cases hstate : s.state with
    | none => exact .refl s
    | some saved => exact ⟨rfl, rfl, rfl, by rw [hstate]; rfl⟩

theorem updateBarState_of_some {s : RiAuthor4142LiveStrategy} {bar : BarEvent}
    {dtLocal : NaiveDateTime} (h : modelTime s.config bar = some dtLocal) :
    s.updateBarState env bar = (s.noteBar bar dtLocal true).collectNewDecisions env dtLocal ∧
      s.barDecisions env bar = (s.noteBar bar dtLocal true).newDecisions env dtLocal := by
  obtain ⟨hlocal, hmodel⟩ := Option.filter_eq_some_iff.mp h
  unfold updateBarState barDecisions
  rw [hlocal]
  dsimp only
  rw [hmodel]
  exact ⟨rfl, rfl⟩

/-! ### Records and decisions -/

abbrev recordsOf (s : RiAuthor4142LiveStrategy) (current date : NaiveDate) :
    List ShadowJournalRecord :=
  windowRecords s.config.sessionPolicy s.config.author41ShortConfig s.config.author41LongConfig
    s.config.author42Config (s.eligibleModelBars current) date

variable {currentDtLocal : NaiveDateTime}

theorem mem_engineDecisions {config : RiAuthor4142LiveConfig} {bars : List ModelBar}
    {decision : RiAuthor4142ModelDecision} :
    decision ∈ engineDecisions config bars currentDtLocal ↔
      ∃ record ∈ buildRiAuthor4142ComboShadowJournalWithConfigs bars config.sessionPolicy
          config.author41ShortConfig config.author41LongConfig config.author42Config,
        isFinalizedRecord record currentDtLocal = true ∧
        RiAuthor4142ModelDecision.fromShadowRecord record (decisionKey record) = some decision := by
  unfold engineDecisions finalizedDecisionsFromRecords
  rw [List.mem_insertionSort, List.mem_filterMap]
  simp only [List.mem_filter, and_assoc]

theorem decisionEntryDate_of_record {record : ShadowJournalRecord}
    {decision : RiAuthor4142ModelDecision} {key : String}
    (hentry : record.scheduledEntryTsLocal = some record.barTsLocal)
    (h : RiAuthor4142ModelDecision.fromShadowRecord record key = some decision) :
    decisionEntryDate decision = record.barTsLocal.date ∧ decision.decisionKey = key := by
  obtain ⟨component, _, rfl⟩ := Option.map_eq_some_iff.mp h
  refine ⟨?_, rfl⟩
  rw [hentry]
  rfl

/-- The decisions of a bar come from records of the window. -/
theorem exists_record_of_mem {s : RiAuthor4142LiveStrategy} {decision : RiAuthor4142ModelDecision}
    (h : decision ∈ engineDecisions s.config (s.eligibleModelBars currentDtLocal.date)
      currentDtLocal) :
    ∃ record ∈ recordsOf s currentDtLocal.date (decisionEntryDate decision),
      RiAuthor4142ModelDecision.fromShadowRecord record (decisionKey record) = some decision ∧
        decision.decisionKey = decisionKey record := by
  obtain ⟨record, hrecord, _, hdecision⟩ := mem_engineDecisions.mp h
  obtain ⟨_, hentry, _⟩ := record_of_mem_journal hrecord
  obtain ⟨hdate, hkey⟩ := decisionEntryDate_of_record hentry hdecision
  exact ⟨record, mem_windowRecords_iff.mpr ⟨hrecord, hdate.symm⟩, hdecision, hkey⟩

theorem exists_decision_of_past {s : RiAuthor4142LiveStrategy} {date : NaiveDate}
    (hpast : date < currentDtLocal.date) {record : ShadowJournalRecord}
    (h : record ∈ recordsOf s currentDtLocal.date date) :
    ∃ decision ∈ engineDecisions s.config (s.eligibleModelBars currentDtLocal.date) currentDtLocal,
      decision.decisionKey = decisionKey record := by
  obtain ⟨hrecord, rfl⟩ := mem_windowRecords_iff.mp h
  obtain ⟨hcomponent, hentry, exitTs, hexit, hdate⟩ := record_of_mem_journal hrecord
  have hfinal : isFinalizedRecord record currentDtLocal = true := by
    unfold isFinalizedRecord
    rw [hexit]
    dsimp only
    have hbefore : exitTs < currentDtLocal := lt_of_date_lt (hdate ▸ hpast)
    rw [if_neg hbefore.not_gt, if_neg]
    rintro ⟨_, hsame⟩
    exact hpast.ne (hdate.symm.trans hsame)
  obtain ⟨component, hshadow⟩ : ∃ component,
      RiAuthor4142Component.fromShadow record.component = some component := by
    cases hc : record.component with
    | author41Mr | author42Bo => exact ⟨_, rfl⟩
    | combo => exact absurd hc hcomponent
  have hdecision := congrArg (Option.map fun component : RiAuthor4142Component =>
    (⟨if record.overlapDecision = .droppedMrOverlap then .suppress else .enter, component,
      record.side.map RiAuthor4142Side.fromShadow, record.barTsLocal, record.scheduledEntryTsLocal,
      record.scheduledExitTsLocal,
      (record.skipReason.or record.exitReason).getD "model_decision",
      overlapDecisionText record.overlapDecision, record.shadowPnlPoints, decisionKey record⟩ :
        RiAuthor4142ModelDecision)) hshadow
  exact ⟨_, mem_engineDecisions.mpr ⟨record, hrecord, hfinal, hdecision⟩, rfl⟩

/-! ### Runs -/

/-- A bar of the model does not come before the date of a bar of the window, and where it cuts the
window, the sessions that count still have the statistics that they had. -/
def KeepsSessions (bar : BarEvent) : Prop :=
  match modelTime s.config bar with
  | none => True
  | some dtLocal =>
    (∀ old ∈ s.modelBars, old.tsLocal.date ≤ dtLocal.date) ∧
      ∀ day ∈ (s.noteBar bar dtLocal true).dailyStatsBefore dtLocal.date,
        statsOf s.config.sessionPolicy (s.noteBar bar dtLocal true).modelBars day.1 =
          statsOf s.config.sessionPolicy (s.modelBars ++ [toModelBar bar dtLocal]) day.1

/-- What holds of the window and the keys after some bars. -/
structure Settled (s : RiAuthor4142LiveStrategy) (before : List BarEvent) : Prop where
  saved : s.state.isSome = true
  dates : s.modelBars.Pairwise fun a b => a.tsLocal.date ≤ b.tsLocal.date
  seen : ∀ earlier ∈ before, ∀ dtLocal, modelTime s.config earlier = some dtLocal →
    ∃ last ∈ s.modelBars.getLast?, dtLocal.date ≤ last.tsLocal.date
  known : ∀ last ∈ s.modelBars.getLast?, ∀ date, date < last.tsLocal.date →
    ∀ record ∈ recordsOf s last.tsLocal.date date, decisionKey record ∈ s.emittedDecisionKeys

section Step

variable {s s' : RiAuthor4142LiveStrategy} {before : List BarEvent} {bar : BarEvent}

theorem eligibleModelBars_congr (hconfig : s'.config = s.config)
    (hbars : s'.modelBars = s.modelBars) (date : NaiveDate) :
    s'.eligibleModelBars date = s.eligibleModelBars date := by
  unfold eligibleModelBars dailyStatsBefore
  rw [hconfig, hbars]

theorem recordsOf_congr (hconfig : s'.config = s.config) (hbars : s'.modelBars = s.modelBars)
    (current date : NaiveDate) : recordsOf s' current date = recordsOf s current date := by
  unfold recordsOf
  rw [hconfig, eligibleModelBars_congr hconfig hbars]

theorem window_suffix (bars : List ModelBar) : window bars <:+ bars := by
  unfold window
  exact List.drop_suffix _ _

theorem modelBars_noteBar (hsaved : s.state.isSome = true) (bar : BarEvent)
    (dtLocal : NaiveDateTime) :
    (s.noteBar bar dtLocal true).modelBars = window (s.modelBars ++ [toModelBar bar dtLocal]) :=
  (noteBar_untouched hsaved bar dtLocal).modelBars

theorem config_noteBar (hsaved : s.state.isSome = true) (bar : BarEvent)
    (dtLocal : NaiveDateTime) : (s.noteBar bar dtLocal true).config = s.config :=
  (noteBar_untouched hsaved bar dtLocal).config

theorem keys_noteBar (hsaved : s.state.isSome = true) (bar : BarEvent)
    (dtLocal : NaiveDateTime) :
    (s.noteBar bar dtLocal true).emittedDecisionKeys = s.emittedDecisionKeys :=
  (noteBar_untouched hsaved bar dtLocal).keys

theorem window_concat (bars : List ModelBar) (bar : ModelBar) :
    window (bars ++ [bar]) = bars.drop (bars.length + 1 - 5000) ++ [bar] := by
  unfold window
  rw [List.length_append, List.length_singleton, List.drop_append_of_le_length (by omega)]

/-- A bar that is not one of the model changes nothing. -/
theorem Settled.service (h : Settled s before) (env : Environment)
    (hnone : modelTime s.config bar = none) :
    Settled (s.updateBarState env bar) (before ++ [bar]) := by
  obtain ⟨hsame, _⟩ := updateBarState_of_none env hnone
  refine ⟨hsame.saved.trans h.saved, ?_, ?_, ?_⟩
  · rw [hsame.modelBars]
    exact h.dates
  · rw [hsame.modelBars, hsame.config]
    intro earlier hearlier dtLocal htime
    rcases List.mem_append.mp hearlier with hmem | hbar
    · exact h.seen earlier hmem dtLocal htime
    · rw [List.mem_singleton.mp hbar, hnone] at htime
      exact nomatch htime
  · rw [hsame.modelBars, hsame.keys]
    intro last hlast date hdate record hrecord
    rw [recordsOf_congr hsame.config hsame.modelBars] at hrecord
    exact h.known last hlast date hdate record hrecord

theorem movedOn_noteBar (h : Settled s before) {dtLocal : NaiveDateTime}
    (htime : modelTime s.config bar = some dtLocal) (hkeeps : KeepsSessions s bar) :
    MovedOn s.config.sessionPolicy s (s.noteBar bar dtLocal true) (toModelBar bar dtLocal) := by
  have hnoted := noteBar_untouched h.saved bar dtLocal
  unfold KeepsSessions at hkeeps
  rw [htime] at hkeeps
  obtain ⟨hdates, hstats⟩ := hkeeps
  refine ⟨hnoted.config, ?_, ?_, ?_⟩
  · rw [modelBars_noteBar h.saved]
    exact window_suffix _
  · refine List.pairwise_append.mpr ⟨h.dates, List.pairwise_singleton _ _, ?_⟩
    intro old hold new hnew
    rw [List.mem_singleton.mp hnew]
    exact hdates old hold
  · intro date hdate hcounts
    have hmem := (mem_dailyStatsBefore (s.noteBar bar dtLocal true) dtLocal.date date).mpr
      ⟨hdate, hcounts⟩
    obtain ⟨day, hday, rfl⟩ := List.mem_map.mp hmem
    exact hstats day hday

/-- A bar of the model makes the decisions of the days that are past known. -/
theorem Settled.model (h : Settled s before) (env : Environment) {dtLocal : NaiveDateTime}
    (htime : modelTime s.config bar = some dtLocal) (hkeeps : KeepsSessions s bar) :
    Settled (s.updateBarState env.withEngines bar) (before ++ [bar]) := by
  have hnoted := noteBar_untouched h.saved bar dtLocal
  have hmoved := movedOn_noteBar h htime hkeeps
  have hcollected := collectNewDecisions_untouched (s.noteBar bar dtLocal true) env.withEngines dtLocal
  rw [(updateBarState_of_some _ htime).1]
  have hbars : ((s.noteBar bar dtLocal true).collectNewDecisions env.withEngines dtLocal).modelBars =
      (s.noteBar bar dtLocal true).modelBars := hcollected.modelBars.trans (modelBars_knowing _ _)
  have hsame : ((s.noteBar bar dtLocal true).collectNewDecisions env.withEngines dtLocal).config =
      (s.noteBar bar dtLocal true).config := hcollected.config.trans (config_knowing _ _)
  have hconfig : ((s.noteBar bar dtLocal true).collectNewDecisions env.withEngines dtLocal).config =
      s.config := hsame.trans hmoved.config
  -- the new bar is the last of the window
  have hlast : ((s.noteBar bar dtLocal true).collectNewDecisions env.withEngines
      dtLocal).modelBars.getLast? = some (toModelBar bar dtLocal) := by
    rw [hbars, modelBars_noteBar h.saved, window_concat, List.getLast?_concat]
  refine ⟨?_, ?_, ?_, ?_⟩
  · rw [hcollected.saved, state_knowing]
    exact hnoted.saved.trans h.saved
  · rw [hbars]
    exact hmoved.dates.sublist hmoved.cut.sublist
  · intro earlier hearlier dt hdt
    rw [hconfig] at hdt
    refine ⟨_, hlast, ?_⟩
    show dt.date ≤ dtLocal.date
    -- earlier bars are of no later date than the last one
    rcases List.mem_append.mp hearlier with hmem | hbar
    · obtain ⟨last, hmax, hle⟩ := h.seen earlier hmem dt hdt
      have hold := (List.pairwise_append.mp hmoved.dates).2.2 last (List.mem_of_getLast? hmax) _
        List.mem_cons_self
      exact hle.trans hold
    · rw [List.mem_singleton.mp hbar] at hdt
      exact (Option.some.inj (hdt.symm.trans htime) ▸ le_rfl)
  -- the records of a past date are all decided by this bar
  · intro last hmax date hdate record hrecord
    rw [hlast] at hmax
    obtain rfl := Option.some.inj hmax
    rw [recordsOf_congr hsame hbars] at hrecord
    obtain ⟨decision, hdecision, hkey⟩ := exists_decision_of_past hdate hrecord
    rw [hcollected.keys, ← hkey, keys_knowing, finalizedDecisions_withEngines]
    exact Reports.key_mem_knownAfter hdecision

/-- What a bar of the model emits is new, and has its record in the window. -/
theorem exists_record_of_mem_barDecisions (hsaved : s.state.isSome = true) (env : Environment)
    {dtLocal : NaiveDateTime} (htime : modelTime s.config bar = some dtLocal)
    {decision : RiAuthor4142ModelDecision}
    (hdecision : decision ∈ s.barDecisions env.withEngines bar) :
    decision.decisionKey ∉ s.emittedDecisionKeys ∧
      ∃ record ∈ recordsOf (s.noteBar bar dtLocal true) dtLocal.date (decisionEntryDate decision),
        RiAuthor4142ModelDecision.fromShadowRecord record (decisionKey record) = some decision ∧
          decision.decisionKey = decisionKey record := by
  rw [(updateBarState_of_some _ htime).2] at hdecision
  unfold newDecisions at hdecision
  rw [(collectIncrementalDecisions_eq _ _).1, finalizedDecisions_withEngines] at hdecision
  have hnew := Reports.key_notMem_of_mem_reports hdecision
  rw [keys_noteBar hsaved] at hnew
  exact ⟨hnew, exists_record_of_mem (Reports.reports_sublist.subset hdecision)⟩

/-- A decision of the engines whose key is not known is emitted. -/
theorem exists_mem_barDecisions (hsaved : s.state.isSome = true) (env : Environment)
    {dtLocal : NaiveDateTime} (htime : modelTime s.config bar = some dtLocal)
    {candidate : RiAuthor4142ModelDecision}
    (hcandidate : candidate ∈ engineDecisions (s.noteBar bar dtLocal true).config
      ((s.noteBar bar dtLocal true).eligibleModelBars dtLocal.date) dtLocal)
    (hnew : candidate.decisionKey ∉ s.emittedDecisionKeys) :
    ∃ decision ∈ s.barDecisions env.withEngines bar,
      decision.decisionKey = candidate.decisionKey := by
  rw [(updateBarState_of_some _ htime).2]
  unfold newDecisions
  rw [(collectIncrementalDecisions_eq _ _).1, keys_noteBar hsaved, finalizedDecisions_withEngines]
  exact Reports.exists_mem_reports hcandidate hnew

/-- What a bar emits is not for a date before that of an earlier bar. -/
theorem Settled.fresh (h : Settled s before) (env : Environment) (hkeeps : KeepsSessions s bar)
    {decision : RiAuthor4142ModelDecision} (hdecision : decision ∈ s.barDecisions env.withEngines bar)
    {earlier : BarEvent} (hearlier : earlier ∈ before) {dt : NaiveDateTime}
    (hdt : modelTime s.config earlier = some dt) : dt.date ≤ decisionEntryDate decision := by
  cases htime : modelTime s.config bar with
  | none =>
    rw [(updateBarState_of_none _ htime).2] at hdecision
    exact absurd hdecision List.not_mem_nil
  | some dtLocal =>
    have hmoved := movedOn_noteBar h htime hkeeps
    obtain ⟨hnew, record, hrecord, _, hkey⟩ :=
      exists_record_of_mem_barDecisions h.saved env htime hdecision
    obtain ⟨last, hlast, hle⟩ := h.seen earlier hearlier dt hdt
    by_contra hlate
    -- the date was past before the bar, so its records were known
    have hpast : decisionEntryDate decision < last.tsLocal.date := (not_le.mp hlate).trans_le hle
    have hcurrent : last.tsLocal.date ≤ dtLocal.date :=
      (List.pairwise_append.mp hmoved.dates).2.2 last (List.mem_of_getLast? hlast) _
        List.mem_cons_self
    unfold recordsOf at hrecord
    rw [hmoved.config] at hrecord
    have hbefore := hmoved.windowRecords_subset hcurrent hpast hrecord
    exact hnew (hkey.symm ▸ h.known last hlast _ hpast record hbefore)

end Step

def afterBars (s : RiAuthor4142LiveStrategy) (bars : List BarEvent) : RiAuthor4142LiveStrategy :=
  bars.foldl (fun s bar => s.updateBarState env bar) s

def emittedDecisions (env : Environment) :
    RiAuthor4142LiveStrategy → List BarEvent → List RiAuthor4142ModelDecision
  | _, [] => []
  | s, bar :: bars => s.barDecisions env bar ++ emittedDecisions env (s.updateBarState env bar) bars

def AllKeepSessions (env : Environment) : RiAuthor4142LiveStrategy → List BarEvent → Prop
  | _, [] => True
  | s, bar :: bars => KeepsSessions s bar ∧ AllKeepSessions env (s.updateBarState env bar) bars

/-- Each key is emitted once, and no bar emits a decision for a date before that of an earlier bar
of the model. -/
structure StableDecisions (env : Environment) (config : RiAuthor4142LiveConfig)
    (bars : List BarEvent) : Prop where
  once : ((emittedDecisions env (.new config) bars).map
    RiAuthor4142ModelDecision.decisionKey).Nodup
  fresh : ∀ before bar after, bars = before ++ bar :: after →
    ∀ decision ∈ (afterBars env (.new config) before).barDecisions env bar,
      ∀ earlier ∈ before, ∀ dtLocal, modelTime config earlier = some dtLocal →
        dtLocal.date ≤ decisionEntryDate decision

section Run

variable {env : Environment} {s : RiAuthor4142LiveStrategy} {before bars : List BarEvent}

theorem allKeepSessions_append {later : List BarEvent} :
    AllKeepSessions env s (bars ++ later) ↔
      AllKeepSessions env s bars ∧ AllKeepSessions env (afterBars env s bars) later := by
  induction bars generalizing s with
  | nil => exact (and_iff_right trivial).symm
  | cons bar bars ih =>
    show KeepsSessions s bar ∧ AllKeepSessions env (s.updateBarState env bar) (bars ++ later) ↔ _
    rw [ih, ← and_assoc]
    rfl

theorem Settled.step (h : Settled s before) (env : Environment) {bar : BarEvent}
    (hkeeps : KeepsSessions s bar) :
    Settled (s.updateBarState env.withEngines bar) (before ++ [bar]) := by
  cases htime : modelTime s.config bar with
  | none => exact h.service env.withEngines htime
  | some dtLocal => exact h.model env htime hkeeps

theorem Settled.run (h : Settled s before) (env : Environment)
    (hkeeps : AllKeepSessions env.withEngines s bars) :
    Settled (afterBars env.withEngines s bars) (before ++ bars) := by
  induction bars generalizing s before with
  | nil => rwa [List.append_nil]
  | cons bar bars ih =>
    obtain ⟨hbar, hrest⟩ := hkeeps
    have hrun := ih (h.step env hbar) hrest
    rwa [List.append_assoc] at hrun

variable (config : RiAuthor4142LiveConfig)

theorem settled_new : Settled (.new config) [] :=
  ⟨rfl, List.Pairwise.nil, by simp, by simp [RiAuthor4142LiveStrategy.new]⟩

/-- What a bar emits becomes known. -/
theorem keys_updateBarState (hsaved : s.state.isSome = true) (env : Environment) (bar : BarEvent) :
    (s.updateBarState env bar).state.isSome = true ∧ (s.updateBarState env bar).config = s.config ∧
      (s.updateBarState env bar).emittedDecisionKeys =
        ((s.barDecisions env bar).map RiAuthor4142ModelDecision.decisionKey).reverse ++
          s.emittedDecisionKeys ∧
      (s.emittedDecisionKeys.Nodup → (s.updateBarState env bar).emittedDecisionKeys.Nodup) := by
  cases htime : modelTime s.config bar with
  | none =>
    obtain ⟨hsame, hnone⟩ := updateBarState_of_none env htime
    rw [hsame.keys, hnone]
    exact ⟨hsame.saved.trans hsaved, hsame.config, rfl, id⟩
  | some dtLocal =>
    have hnoted := noteBar_untouched hsaved bar dtLocal
    have hkeys : (s.noteBar bar dtLocal true).emittedDecisionKeys = s.emittedDecisionKeys :=
      hnoted.keys
    obtain ⟨hafter, hdecisions⟩ := updateBarState_of_some env htime
    have hcollected := collectNewDecisions_untouched (s.noteBar bar dtLocal true) env dtLocal
    rw [hafter, hdecisions, hcollected.keys, hcollected.saved, hcollected.config, state_knowing,
      config_knowing]
    unfold newDecisions
    rw [(collectIncrementalDecisions_eq _ _).1, ← hkeys]
    exact ⟨hnoted.saved.trans hsaved, hnoted.config, rfl, Reports.nodup_knownAfter⟩

/-- The keys that a run emits are new, each once. -/
theorem nodup_emittedDecisions (hsaved : s.state.isSome = true)
    (hnodup : s.emittedDecisionKeys.Nodup) (env : Environment) (bars : List BarEvent) :
    (((emittedDecisions env s bars).map RiAuthor4142ModelDecision.decisionKey).reverse ++
      s.emittedDecisionKeys).Nodup := by
  induction bars generalizing s with
  | nil => exact hnodup
  | cons bar bars ih =>
    obtain ⟨hsaved', _, hkeys, hnodup'⟩ := keys_updateBarState hsaved env bar
    have hrest := ih hsaved' (hnodup' hnodup)
    rw [hkeys, ← List.append_assoc, ← List.reverse_append, ← List.map_append] at hrest
    exact hrest

theorem config_afterBars (hsaved : s.state.isSome = true) (env : Environment)
    (bars : List BarEvent) :
    (afterBars env s bars).config = s.config ∧ (afterBars env s bars).state.isSome = true := by
  induction bars generalizing s with
  | nil => exact ⟨rfl, hsaved⟩
  | cons bar bars ih =>
    obtain ⟨hsaved', hconfig, _⟩ := keys_updateBarState hsaved env bar
    obtain ⟨hconfig', hsaved''⟩ := ih hsaved'
    exact ⟨hconfig'.trans hconfig, hsaved''⟩

def seenBars (bars : List BarEvent) : List ModelBar :=
  bars.filterMap fun bar => (modelTime config bar).map (toModelBar bar)

theorem modelBars_afterBars (hsaved : s.state.isSome = true) (env : Environment)
    (bars : List BarEvent) (hfits : s.modelBars.length + bars.length ≤ 5000) :
    (afterBars env s bars).modelBars = s.modelBars ++ seenBars s.config bars := by
  induction bars generalizing s with
  | nil => exact (List.append_nil _).symm
  | cons bar bars ih =>
    obtain ⟨hsaved', hconfig, _⟩ := keys_updateBarState hsaved env bar
    rw [List.length_cons] at hfits
    -- a bar of the model is appended, and nothing is cut yet
    have hbar : (s.updateBarState env bar).modelBars =
        s.modelBars ++ ((modelTime s.config bar).map (toModelBar bar)).toList := by
      cases htime : modelTime s.config bar with
      | none =>
        rw [(updateBarState_of_none env htime).1.modelBars]
        exact (List.append_nil _).symm
      | some dtLocal =>
        rw [(updateBarState_of_some env htime).1, (collectNewDecisions_untouched _ _ _).modelBars,
          modelBars_knowing, modelBars_noteBar hsaved, window_concat,
          Nat.sub_eq_zero_of_le (by omega), List.drop_zero]
        rfl
    have hlength : (s.updateBarState env bar).modelBars.length ≤ s.modelBars.length + 1 := by
      rw [hbar, List.length_append]
      cases (modelTime s.config bar).map (toModelBar bar) with
      | none => exact Nat.le_succ _
      | some new => exact le_rfl
    show (afterBars env (s.updateBarState env bar) bars).modelBars = _
    rw [ih hsaved' (by omega), hconfig, hbar, List.append_assoc]
    unfold seenBars
    rw [List.filterMap_cons]
    cases (modelTime s.config bar).map (toModelBar bar) with
    | none => rfl
    | some new => rfl

theorem seenBars_append (bars later : List BarEvent) :
    seenBars config (bars ++ later) = seenBars config bars ++ seenBars config later :=
  List.filterMap_append ..

theorem seenBars_singleton {config : RiAuthor4142LiveConfig} {bar : BarEvent}
    {dtLocal : NaiveDateTime} (htime : modelTime config bar = some dtLocal) :
    seenBars config [bar] = [toModelBar bar dtLocal] := by
  unfold seenBars
  rw [List.filterMap_cons, htime]
  rfl

/-- Bars that fit into the window and come in the order of their dates keep the sessions. -/
theorem allKeepSessions_of_fits (hsaved : s.state.isSome = true) (env : Environment)
    (hfits : s.modelBars.length + bars.length ≤ 5000)
    (hdates : (s.modelBars ++ seenBars s.config bars).Pairwise
      fun a b => a.tsLocal.date ≤ b.tsLocal.date) : AllKeepSessions env s bars := by
  induction bars generalizing s with
  | nil => trivial
  | cons bar bars ih =>
    obtain ⟨hsaved', hconfig, _⟩ := keys_updateBarState hsaved env bar
    rw [List.length_cons] at hfits
    have hone : s.modelBars.length + [bar].length ≤ 5000 := by
      rw [List.length_singleton]
      omega
    have hbar : (s.updateBarState env bar).modelBars = s.modelBars ++ seenBars s.config [bar] :=
      modelBars_afterBars hsaved env [bar] hone
    have hsplit : bar :: bars = [bar] ++ bars := rfl
    rw [hsplit, seenBars_append, ← List.append_assoc, ← hbar] at hdates
    refine ⟨?_, ih hsaved' ?_ (hconfig.symm ▸ hdates)⟩
    -- nothing is cut, so every session stays whole
    · unfold KeepsSessions
      cases htime : modelTime s.config bar with
      | none => trivial
      | some dtLocal =>
        rw [hbar, seenBars_singleton htime] at hdates
        constructor
        · intro old hold
          have hbefore := (List.pairwise_append.mp (List.pairwise_append.mp hdates).1).2.2
          exact hbefore old hold _ List.mem_cons_self
        · intro day _
          rw [modelBars_noteBar hsaved, window_concat, Nat.sub_eq_zero_of_le (by omega),
            List.drop_zero]
    · have hshort : (seenBars s.config [bar]).length ≤ 1 := List.length_filterMap_le _ _
      rw [hbar, List.length_append]
      omega

theorem allKeepSessions_new (env : Environment) (config : RiAuthor4142LiveConfig)
    {bars : List BarEvent} (hfits : bars.length ≤ 5000)
    (hdates : (seenBars config bars).Pairwise fun a b => a.tsLocal.date ≤ b.tsLocal.date) :
    AllKeepSessions env (.new config) bars :=
  allKeepSessions_of_fits rfl env ((Nat.zero_add bars.length).trans_le hfits) hdates

/-- A run that fits into the window leaves its bars there. -/
theorem afterBars_new (env : Environment) (config : RiAuthor4142LiveConfig) {bars : List BarEvent}
    (hfits : bars.length ≤ 5000) :
    (afterBars env (.new config) bars).config = config ∧
      (afterBars env (.new config) bars).state.isSome = true ∧
      (afterBars env (.new config) bars).modelBars = seenBars config bars := by
  obtain ⟨hconfig, hsaved⟩ := config_afterBars (s := .new config) rfl env bars
  have hbars := modelBars_afterBars (s := .new config) rfl env bars
    ((Nat.zero_add bars.length).trans_le hfits)
  exact ⟨hconfig, hsaved, hbars⟩

theorem afterBars_concat (env : Environment) (s : RiAuthor4142LiveStrategy) (bars : List BarEvent)
    (bar : BarEvent) :
    afterBars env s (bars ++ [bar]) = (afterBars env s bars).updateBarState env bar :=
  List.foldl_append ..

theorem exists_bar_of_mem_emittedDecisions {decision : RiAuthor4142ModelDecision}
    (h : decision ∈ emittedDecisions env s bars) :
    ∃ mid bar rest, bars = mid ++ bar :: rest ∧
      decision ∈ (afterBars env s mid).barDecisions env bar := by
  induction bars generalizing s with
  | nil => exact absurd h List.not_mem_nil
  | cons bar bars ih =>
    rcases List.mem_append.mp h with hbar | hlater
    · exact ⟨[], bar, bars, rfl, hbar⟩
    · obtain ⟨mid, bar', rest, rfl, hmem⟩ := ih hlater
      exact ⟨bar :: mid, bar', rest, rfl, hmem⟩

theorem keys_afterBars (hsaved : s.state.isSome = true) (env : Environment)
    (bars : List BarEvent) :
    (afterBars env s bars).emittedDecisionKeys =
      ((emittedDecisions env s bars).map RiAuthor4142ModelDecision.decisionKey).reverse ++
        s.emittedDecisionKeys := by
  induction bars generalizing s with
  | nil => rfl
  | cons bar bars ih =>
    obtain ⟨hsaved', _, hkeys, _⟩ := keys_updateBarState hsaved env bar
    show (afterBars env (s.updateBarState env bar) bars).emittedDecisionKeys = _
    rw [ih hsaved', hkeys, ← List.append_assoc, ← List.reverse_append, ← List.map_append]
    rfl

end Run

/-- In a run whose bars keep the sessions, the decisions are stable: for any configuration and any
number of bars, however many of them the window has lost. -/
theorem decisions_stable (env : Environment) (config : RiAuthor4142LiveConfig)
    {bars : List BarEvent} (hkeeps : AllKeepSessions env.withEngines (.new config) bars) :
    StableDecisions env.withEngines config bars := by
  constructor
  · have hnodup := nodup_emittedDecisions (s := .new config) rfl List.nodup_nil env.withEngines bars
    have hkeys : (RiAuthor4142LiveStrategy.new config).emittedDecisionKeys = [] := rfl
    rw [hkeys, List.append_nil, List.nodup_reverse] at hnodup
    exact hnodup
  · rintro before bar after rfl decision hdecision earlier hearlier dtLocal htime
    obtain ⟨hbefore, hbar, _⟩ := allKeepSessions_append.mp hkeeps
    have hsettled := (settled_new config).run env hbefore
    refine hsettled.fresh env hbar hdecision hearlier ?_
    rw [(config_afterBars rfl _ _).1]
    exact htime

end AlorRs.RiAuthor4142
