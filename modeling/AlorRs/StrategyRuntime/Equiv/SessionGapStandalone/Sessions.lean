import AlorRs.Lib.Reaction
import AlorRs.Lib.Runs
import AlorRs.StrategyRuntime.Equiv.SessionGapStandalone.Bars
import AlorRs.StrategyRuntime.Equiv.SessionGapStandalone.Positions

/-!
# The sessions of the session-gap strategy

A session is a maximal run of bars without a long gap (`sessions`).  Bar by bar the strategy keeps the
features of the last three sessions (`Follows`); what it keeps for the first minute is that of the last bar
at the time of day of the first one.  A warm-up over a history leaves the same features as the bars, one
after the other (`warmup_iff_isMeant`).
-/

namespace AlorRs.SessionGap

open SessionGapStandaloneStrategy

/-! ### The features of the sessions -/

/-- What a strategy keeps of the sessions. -/
@[ext] structure SessionFeatures where
  lastDt : Option LocalDateTime
  sessionStartDt : Option LocalDateTime
  sessionEndDt : Option LocalDateTime
  sessionHigh : Option ℚ
  sessionLow : Option ℚ
  sessionClose : Option ℚ
  yesterdayClose : Option ℚ
  yesterdayRange : Option ℚ
  prePrevClose : Option ℚ
  firstMinHigh : Option ℚ
  firstMinLow : Option ℚ
  firstHourPrice : Option ℚ

variable (config : SessionGapStandaloneConfig) (s : SessionGapStandaloneStrategy)
  (session bars : List BarEvent)

def features : SessionFeatures where
  lastDt := s.lastDt
  sessionStartDt := s.sessionStartDt
  sessionEndDt := s.sessionEndDt
  sessionHigh := s.sessionHigh
  sessionLow := s.sessionLow
  sessionClose := s.sessionClose
  yesterdayClose := s.yesterdayClose
  yesterdayRange := s.yesterdayRange
  prePrevClose := s.prePrevClose
  firstMinHigh := s.firstMinHigh
  firstMinLow := s.firstMinLow
  firstHourPrice := s.firstHourPrice

/-- A session goes by the features and the configuration alone. -/
theorem features_updateSession_congr {s s' : SessionGapStandaloneStrategy}
    (hconfig : s.config = s'.config) (h : features s = features s') (barDt : LocalDateTime)
    (bar : BarEvent) :
    features (s.updateSession barDt bar) = features (s'.updateSession barDt bar) := by
  obtain ⟨config, state, lastProcessedBarTs, cash, lastDt, sessionStartDt, sessionEndDt, sessionHigh,
    sessionLow, sessionClose, yesterdayClose, yesterdayRange, prePrevClose, firstMinHigh, firstMinLow,
    firstHourPrice, phaseLastChangeTsUtc, tradedSession, pendingEntry, position, testHook⟩ := s
  obtain ⟨config', state', lastProcessedBarTs', cash', lastDt', sessionStartDt', sessionEndDt',
    sessionHigh', sessionLow', sessionClose', yesterdayClose', yesterdayRange', prePrevClose',
    firstMinHigh', firstMinLow', firstHourPrice', phaseLastChangeTsUtc', tradedSession', pendingEntry',
    position', testHook'⟩ := s'
  obtain rfl : config = config' := hconfig
  obtain ⟨rfl, rfl, rfl, rfl, rfl, rfl, rfl, rfl, rfl, rfl, rfl, rfl⟩ := SessionFeatures.mk.inj h
  unfold updateSession
  cases lastDt with
  | none => rfl
  | some lastDt =>
    dsimp only
    split_ifs
    · rfl
    · unfold continueSession
      cases sessionStartDt with
      | none => rfl
      | some sessionStartDt =>
        dsimp only
        split_ifs <;> rfl

/-! ### What a bar leaves alone -/

section Frame

variable (s : SessionGapStandaloneStrategy) (ctx : StrategyCtx) (bar : BarEvent)
  (barDt : LocalDateTime) (sessionDate : NaiveDate)

theorem features_maybeGenerateSignal (forceSingleSize : Bool) :
    features (s.maybeGenerateSignal barDt bar forceSingleSize) = features s := by
  unfold maybeGenerateSignal
  repeat' split
  all_goals rfl

theorem features_maybeOpenPosition : features (s.maybeOpenPosition bar).1 = features s := by
  unfold maybeOpenPosition
  split <;> rfl

theorem features_maybeClosePosition : features (s.maybeClosePosition barDt bar).1 = features s := by
  unfold maybeClosePosition
  split
  · rfl
  · split <;> rfl

theorem features_simulateBar : features (s.simulateBar sessionDate barDt bar).1 = features s := by
  have hopened := features_maybeOpenPosition s bar
  have hclosed := features_maybeClosePosition (s.maybeOpenPosition bar).1 bar barDt
  exact (features_maybeGenerateSignal _ bar barDt false).trans (hclosed.trans hopened)

variable (phase : SessionGapLivePhase)

theorem features_maybeForceTestHookEntry :
    features (s.maybeForceTestHookEntry phase ctx sessionDate).1 = features s := by
  unfold maybeForceTestHookEntry
  split
  · rfl
  · split <;> rfl

theorem features_barFlat (forced : Bool) : features (s.barFlat ctx bar forced).1 = features s := by
  unfold barFlat
  split
  · rfl
  · split <;> rfl

theorem features_barInPosition (phase : InPositionPhase) :
    features (s.barInPosition ctx sessionDate barDt bar phase).1 = features s := by
  unfold barInPosition
  split
  · rfl
  · dsimp only
    repeat' split
    all_goals rfl

theorem features_barPhase (forced : Bool) (phase : SessionGapLivePhase) :
    features (s.barPhase ctx sessionDate barDt bar forced phase).1 = features s := by
  cases phase with
  | flat => exact features_barFlat s ctx bar forced
  | inPosition phase => exact features_barInPosition s ctx bar barDt sessionDate phase
  | blocked reason tsUtc =>
    show features (if reason = "indicators_not_warmed" && s.signalsWarmed then
      (s, SessionGapLivePhase.flat, ([] : List Intent)) else (s, .blocked reason tsUtc, [])).1 = _
    split <;> rfl
  | _ => rfl

theorem features_noteTransition (phase' : SessionGapLivePhase) (tsUtc : ℤ) :
    features (s.noteTransition phase phase' tsUtc) = features s := by
  unfold noteTransition
  split <;> rfl

theorem features_liveBar : features (s.liveBar ctx sessionDate barDt bar).1 = features s := by
  have hforced := features_maybeForceTestHookEntry s ctx sessionDate s.persistedPhaseOrFlat
  have hsignalled : features
      (if (s.maybeForceTestHookEntry s.persistedPhaseOrFlat ctx sessionDate).2 then
        (s.maybeForceTestHookEntry s.persistedPhaseOrFlat ctx sessionDate).1
      else (s.maybeForceTestHookEntry s.persistedPhaseOrFlat ctx sessionDate).1.maybeGenerateSignal barDt
        bar true) = features s := by
    split_ifs
    · exact hforced
    · exact (features_maybeGenerateSignal _ bar barDt true).trans hforced
  exact (features_noteTransition _ _ _ _).trans
    ((features_barPhase _ ctx bar barDt sessionDate _ _).trans hsignalled)

end Frame

variable (testHook : SessionGapTestHookState) (ctx : StrategyCtx) (bars : List BarEvent)

/-- A bar that is taken adds to its session, and no other bar does. -/
theorem features_onBar (bar : BarEvent) (hnew : IsNew s bar) :
    features (s.onBar ctx bar).1 =
      if IsOwn s.config bar then features (updated s bar) else features s := by
  by_cases hown : IsOwn s.config bar
  · rw [if_pos hown]
    by_cases hmode : ctx.tradeMode = .live
    · cases hblock : shouldBlockLive ctx bar with
      | false =>
        rw [onBar_of_acts ⟨⟨hown, hnew⟩, hmode, hblock⟩]
        exact features_liveBar _ ctx bar _ _
      | true =>
        rw [onBar_of_blocked ⟨hown, hnew⟩ hmode hblock]
        rfl
    · rw [onBar_of_simulated ⟨hown, hnew⟩ hmode]
      exact features_simulateBar _ bar _ _
  · rw [if_neg hown, onBar_of_not_own hnew hown]
    split_ifs <;> rfl

theorem lastProcessedBarTs_onBar (bar : BarEvent) (hnew : IsNew s bar) :
    (s.onBar ctx bar).1.lastProcessedBarTs = some bar.closeTimeUtc := by
  by_cases hown : IsOwn s.config bar
  · by_cases hmode : ctx.tradeMode = .live
    · cases hblock : shouldBlockLive ctx bar with
      | false =>
        rw [onBar_of_acts ⟨⟨hown, hnew⟩, hmode, hblock⟩]
        rfl
      | true =>
        rw [onBar_of_blocked ⟨hown, hnew⟩ hmode hblock]
        rfl
    · rw [onBar_of_simulated ⟨hown, hnew⟩ hmode]
      rfl
  · rw [onBar_of_not_own hnew hown]
    split_ifs <;> rfl

/-! ### Warm-up and replay -/

def feed (e : StrategyCtx × BarEvent) : SessionGapStandaloneStrategy × List Intent :=
  s.onBar e.1 e.2

def ownBars : List BarEvent :=
  bars.filter (IsOwn config ·)

theorem warmupBars_eq : warmupBars config bars = ownBars config bars := by
  refine List.filter_congr fun bar _ => ?_
  rw [Bool.eq_iff_iff, decide_eq_true_iff, Bool.and_eq_true, decide_eq_true_iff]
  constructor
  · rintro ⟨hsymbol, hday⟩
    refine ⟨hsymbol, ?_⟩
    rw [← Bool.not_eq_true', Bool.not_and, Bool.not_not]
    exact hday
  · rintro ⟨hsymbol, hday⟩
    refine ⟨hsymbol, ?_⟩
    rw [← Bool.not_eq_true', Bool.not_and, Bool.not_not] at hday
    exact hday

def replayed : SessionGapStandaloneStrategy :=
  bars.foldl updated s

theorem foldl_updateSession {config : SessionGapStandaloneConfig} (hconfig : s.config = config)
    (bars : List BarEvent) :
    bars.foldl (fun s bar => s.updateSession (toSessionDt config bar.closeTimeUtc) bar) s =
      replayed s bars := by
  induction bars generalizing s with
  | nil => rfl
  | cons bar bars ih =>
    obtain rfl := hconfig
    exact ih (updated s bar) (config_updated s bar)

theorem replayed_congr {s s' : SessionGapStandaloneStrategy} (hconfig : s.config = s'.config)
    (h : features s = features s') (bars : List BarEvent) :
    features (replayed s bars) = features (replayed s' bars) := by
  induction bars generalizing s s' with
  | nil => exact h
  | cons bar bars ih =>
    refine ih ?_ ?_
    · rw [config_updated, config_updated, hconfig]
    · unfold updated
      rw [hconfig]
      exact features_updateSession_congr hconfig h _ bar

theorem isNew_feed {s : SessionGapStandaloneStrategy} {e : StrategyCtx × BarEvent}
    {events : List (StrategyCtx × BarEvent)} (hnew : ∀ e' ∈ e :: events, IsNew s e'.2)
    (hincreasing : ((e :: events).map fun e => e.2.closeTimeUtc).Pairwise (· < ·)) :
    ∀ e' ∈ events, IsNew (feed s e).1 e'.2 := by
  intro e' hmem lastTs hlast
  have hfirst := hnew e (List.mem_cons_self ..)
  have hlast' := (lastProcessedBarTs_onBar s e.1 e.2 hfirst).symm.trans hlast
  obtain rfl := Option.some.inj hlast'
  exact (List.pairwise_cons.mp hincreasing).1 _ (List.mem_map_of_mem hmem)

/-- Bars in order, fed one after the other, make the sessions. -/
theorem features_feed (events : List (StrategyCtx × BarEvent)) (hnew : ∀ e ∈ events, IsNew s e.2)
    (hincreasing : (events.map fun e => e.2.closeTimeUtc).Pairwise (· < ·)) :
    features (Reaction.after feed s events) =
      features (replayed s (ownBars s.config (events.map Prod.snd))) := by
  induction events generalizing s with
  | nil => rfl
  | cons e events ih =>
    have hfirst := hnew e (List.mem_cons_self ..)
    have hconfig : (feed s e).1.config = s.config := onBar_config s e.1 e.2
    have hlater := ih (feed s e).1 (isNew_feed hnew hincreasing) (List.pairwise_cons.mp hincreasing).2
    rw [hconfig] at hlater
    refine hlater.trans ?_
    have hbar := features_onBar s e.1 e.2 hfirst
    unfold ownBars
    rw [List.map_cons, List.filter_cons]
    split_ifs at hbar ⊢ with hown hown' hown'
    · exact replayed_congr (hconfig.trans (config_updated s e.2).symm) hbar _
    · exact absurd (of_decide_eq_true hown) hown'
    · exact absurd (decide_eq_true hown') hown
    · exact replayed_congr hconfig hbar _

theorem features_warmupFromHistory :
    features ((new config testHook).warmupFromHistory ctx bars).1 =
      features (replayed (new config testHook) (ownBars config bars)) := by
  have hwarmup (s : SessionGapStandaloneStrategy) (hs : features s = features (new config testHook))
      (hconfig : s.config = config) :
      features ((ownBars config bars).foldl (fun s bar =>
        s.updateSession (toSessionDt config bar.closeTimeUtc) bar) s) =
        features (replayed (new config testHook) (ownBars config bars)) := by
    rw [foldl_updateSession s hconfig]
    exact replayed_congr hconfig hs _
  unfold warmupFromHistory
  dsimp only
  rw [show warmupBars (new config testHook).config bars = ownBars config bars from
    warmupBars_eq config bars]
  cases hlast : (ownBars config bars).getLast? with
  | none =>
    rw [List.getLast?_eq_none_iff.mp hlast]
    rfl
  | some last =>
    have hreplayed := hwarmup (new config ⟨none, false, false⟩) rfl rfl
    exact (features_noteTransition _ _ _ _).trans hreplayed

/-! ### What the features are -/

def sameSession (first second : BarEvent) : Bool :=
  decide ((((localTime config second).timestamp - (localTime config first).timestamp : ℤ) : ℚ) / 60 ≤
    config.sessionGapMin)

def sessions : List (List BarEvent) :=
  (ownBars config bars).splitBy (sameSession config)

def sessionAgo (sessions : List (List BarEvent)) (ago : ℕ) : List BarEvent :=
  sessions.reverse.getD ago []

def closeOf : Option ℚ := session.getLast?.map BarEvent.close

def highOf : Option ℚ := (session.map BarEvent.h).max?

def lowOf : Option ℚ := (session.map BarEvent.l).min?

def rangeOf : Option ℚ :=
  (highOf session).bind fun high => (lowOf session).map fun low => high - low

def afterFirstHour : Option BarEvent :=
  session.head?.bind fun first => session.find? fun bar =>
    3600 ≤ (localTime config bar).timestamp - (localTime config first).timestamp

/-- The last bar of a session at the time of day of its first one. -/
def lastAtStart : Option BarEvent :=
  session.head?.bind fun first => (session.filter fun bar =>
    (localTime config bar).time = (localTime config first).time).getLast?

/-- No later bar of a session at the time of day of the first one has another high or low. -/
def KeepsFirstMinute : Prop :=
  (lastAtStart config session).map BarEvent.h = session.head?.map BarEvent.h ∧
    (lastAtStart config session).map BarEvent.l = session.head?.map BarEvent.l

instance (config : SessionGapStandaloneConfig) (session : List BarEvent) :
    Decidable (KeepsFirstMinute config session) :=
  inferInstanceAs (Decidable (_ ∧ _))

/-- The features are what their names say. -/
structure IsMeant (config : SessionGapStandaloneConfig) (sessions : List (List BarEvent))
    (s : SessionGapStandaloneStrategy) : Prop where
  yesterdayClose : s.yesterdayClose = closeOf (sessionAgo sessions 1)
  yesterdayRange : s.yesterdayRange = rangeOf (sessionAgo sessions 1)
  prePrevClose : s.prePrevClose = closeOf (sessionAgo sessions 2)
  firstMinHigh : s.firstMinHigh = (sessionAgo sessions 0).head?.map BarEvent.h
  firstMinLow : s.firstMinLow = (sessionAgo sessions 0).head?.map BarEvent.l
  firstHourPrice : s.firstHourPrice =
    (afterFirstHour config (sessionAgo sessions 0)).map BarEvent.close

/-- What a strategy keeps of the sessions so far. -/
structure Follows (config : SessionGapStandaloneConfig) (sessions : List (List BarEvent))
    (s : SessionGapStandaloneStrategy) : Prop where
  sameConfig : s.config = config
  lastDt : s.lastDt = (sessionAgo sessions 0).getLast?.map (localTime config)
  sessionStartDt : s.sessionStartDt = (sessionAgo sessions 0).head?.map (localTime config)
  sessionHigh : s.sessionHigh = highOf (sessionAgo sessions 0)
  sessionLow : s.sessionLow = lowOf (sessionAgo sessions 0)
  sessionClose : s.sessionClose = closeOf (sessionAgo sessions 0)
  yesterdayClose : s.yesterdayClose = closeOf (sessionAgo sessions 1)
  yesterdayRange : s.yesterdayRange = rangeOf (sessionAgo sessions 1)
  prePrevClose : s.prePrevClose = closeOf (sessionAgo sessions 2)
  firstMinHigh : s.firstMinHigh = (lastAtStart config (sessionAgo sessions 0)).map BarEvent.h
  firstMinLow : s.firstMinLow = (lastAtStart config (sessionAgo sessions 0)).map BarEvent.l
  firstHourPrice : s.firstHourPrice =
    (afterFirstHour config (sessionAgo sessions 0)).map BarEvent.close

section Growth

variable {config : SessionGapStandaloneConfig} {run bars : List BarEvent}
  {runs : List (List BarEvent)} {first last bar : BarEvent} {s : SessionGapStandaloneStrategy}

@[simp] theorem sessionAgo_zero : sessionAgo (runs ++ [run]) 0 = run := by
  simp [sessionAgo]

@[simp] theorem sessionAgo_succ (ago : ℕ) :
    sessionAgo (runs ++ [run]) (ago + 1) = sessionAgo runs ago := by
  simp [sessionAgo]

theorem highOf_concat : highOf (run ++ [bar]) = some (max ((highOf run).getD bar.h) bar.h) := by
  cases run with
  | nil => simp [highOf]
  | cons first rest =>
    unfold highOf
    rw [List.map_append, List.map_cons, List.cons_append, List.max?_cons', List.max?_cons',
      List.foldl_append]
    rfl

theorem lowOf_concat : lowOf (run ++ [bar]) = some (min ((lowOf run).getD bar.l) bar.l) := by
  cases run with
  | nil => simp [lowOf]
  | cons first rest =>
    unfold lowOf
    rw [List.map_append, List.map_cons, List.cons_append, List.min?_cons', List.min?_cons',
      List.foldl_append]
    rfl

theorem closeOf_concat : closeOf (run ++ [bar]) = some bar.close := by
  simp [closeOf]

theorem afterFirstHour_concat (hfirst : run.head? = some first) :
    afterFirstHour config (run ++ [bar]) = (afterFirstHour config run).or
      (if 3600 ≤ (localTime config bar).timestamp - (localTime config first).timestamp then some bar
        else none) := by
  unfold afterFirstHour
  rw [List.head?_append, hfirst]
  show List.find? _ (run ++ [bar]) = (List.find? _ run).or _
  rw [List.find?_append, List.find?_singleton]
  simp

theorem lastAtStart_concat (hfirst : run.head? = some first) :
    lastAtStart config (run ++ [bar]) =
      if (localTime config bar).time = (localTime config first).time then some bar
      else lastAtStart config run := by
  unfold lastAtStart
  rw [List.head?_append, hfirst]
  show (List.filter _ (run ++ [bar])).getLast? = if _ then _ else (List.filter _ run).getLast?
  rw [List.filter_append]
  split_ifs with htime <;> simp [htime]

theorem continueSession_of_start {start barDt : LocalDateTime} (hstart : s.sessionStartDt = some start) :
    s.continueSession barDt bar = { s with
        sessionHigh := some (max (s.sessionHigh.getD bar.h) bar.h)
        sessionLow := some (min (s.sessionLow.getD bar.l) bar.l)
        sessionClose := some bar.close
        firstMinHigh := if barDt.time = start.time then some bar.h else s.firstMinHigh
        firstMinLow := if barDt.time = start.time then some bar.l else s.firstMinLow
        firstHourPrice :=
          if s.firstHourPrice.isNone && 3600 ≤ barDt.timestamp - start.timestamp then some bar.close
          else s.firstHourPrice } := by
  unfold continueSession
  rw [hstart]
  dsimp only
  split_ifs
  all_goals rfl

theorem Follows.continue (h : Follows config (runs ++ [run]) s) (hfirst : run.head? = some first) :
    Follows config (runs ++ [run ++ [bar]])
      { s.continueSession (localTime config bar) bar with lastDt := some (localTime config bar) } := by
  have hstart : s.sessionStartDt = some (localTime config first) := by
    rw [h.sessionStartDt, sessionAgo_zero, hfirst]
    rfl
  have hhigh := h.sessionHigh
  have hlow := h.sessionLow
  have hminHigh := h.firstMinHigh
  have hminLow := h.firstMinLow
  have hhour := h.firstHourPrice
  simp only [sessionAgo_zero] at hhigh hlow hminHigh hminLow hhour
  rw [continueSession_of_start hstart]
  constructor
  case sameConfig => exact h.sameConfig
  case lastDt => simp
  case sessionStartDt =>
    rw [sessionAgo_zero, List.head?_append, hfirst]
    exact hstart
  case sessionHigh => rw [sessionAgo_zero, highOf_concat, ← hhigh]
  case sessionLow => rw [sessionAgo_zero, lowOf_concat, ← hlow]
  case sessionClose => rw [sessionAgo_zero, closeOf_concat]
  case yesterdayClose => simpa using h.yesterdayClose
  case yesterdayRange => simpa using h.yesterdayRange
  case prePrevClose => simpa using h.prePrevClose
  case firstMinHigh =>
    rw [sessionAgo_zero, lastAtStart_concat hfirst]
    dsimp only
    split_ifs
    · rfl
    · exact hminHigh
  case firstMinLow =>
    rw [sessionAgo_zero, lastAtStart_concat hfirst]
    dsimp only
    split_ifs
    · rfl
    · exact hminLow
  case firstHourPrice =>
    rw [sessionAgo_zero, afterFirstHour_concat hfirst, hhour]
    cases afterFirstHour config run with
    | none =>
      show (if true && decide _ then _ else _) = Option.map _ (Option.or none _)
      by_cases hlate : 3600 ≤ (localTime config bar).timestamp - (localTime config first).timestamp <;>
        simp [hlate]
    | some early => rfl

theorem Follows.reset (hconfig : s.config = config)
    (hyesterdayClose : s.yesterdayClose = closeOf (sessionAgo runs 0))
    (hyesterdayRange : s.yesterdayRange = rangeOf (sessionAgo runs 0))
    (hprePrevClose : s.prePrevClose = closeOf (sessionAgo runs 1)) :
    Follows config (runs ++ [[bar]])
      { s.resetSession (localTime config bar) bar with lastDt := some (localTime config bar) } := by
  constructor
  case sameConfig => exact hconfig
  case yesterdayClose => simpa [resetSession] using hyesterdayClose
  case yesterdayRange => simpa [resetSession] using hyesterdayRange
  case prePrevClose => simpa [resetSession] using hprePrevClose
  case firstHourPrice => simp [afterFirstHour, resetSession]
  all_goals simp [resetSession, highOf, lowOf, closeOf, lastAtStart]

theorem Follows.updated (h : Follows config (bars.splitBy (sameSession config)) s) :
    Follows config ((bars ++ [bar]).splitBy (sameSession config)) (updated s bar) := by
  obtain rfl := h.sameConfig
  rcases List.eq_nil_or_concat (bars.splitBy (sameSession s.config)) with hnil | ⟨runs, run, hruns⟩
  · rw [hnil] at h
    obtain rfl := List.splitBy_eq_nil.mp hnil
    have hlast : s.lastDt = none := h.lastDt
    unfold SessionGap.updated updateSession
    rw [hlast]
    show Follows s.config ([] ++ [[bar]]) _
    exact Follows.reset rfl h.yesterdayClose h.yesterdayRange h.prePrevClose
  · have hne : run ≠ [] := by
      rintro rfl
      exact List.nil_notMem_splitBy (sameSession s.config) bars (hruns ▸ by simp)
    have hlast := List.getLast?_eq_some_getLast hne
    have hfirst := List.head?_eq_some_head hne
    generalize run.getLast hne = last at hlast
    generalize run.head hne = first at hfirst
    rw [List.concat_eq_append] at hruns
    rw [hruns] at h
    have hlastDt : s.lastDt = some (localTime s.config last) := by
      rw [h.lastDt, sessionAgo_zero, hlast]
      rfl
    rw [Runs.splitBy_concat hruns hlast]
    unfold SessionGap.updated updateSession
    rw [hlastDt]
    dsimp only
    by_cases hsame : sameSession s.config last bar = true
    · rw [if_pos hsame, if_neg (not_lt.mpr (of_decide_eq_true hsame))]
      exact h.continue hfirst
    · rw [if_neg hsame, if_pos (not_le.mp fun hle => hsame (decide_eq_true hle))]
      refine Follows.reset rfl ?_ ?_ ?_
      · simpa using h.sessionClose
      · rw [sessionAgo_zero, h.sessionHigh, h.sessionLow, sessionAgo_zero]
        rfl
      · simpa using h.yesterdayClose

end Growth

/-- What a strategy keeps once it has seen all bars. -/
theorem follows_replayed :
    Follows config (bars.splitBy (sameSession config)) (replayed (new config testHook) bars) := by
  induction bars using List.reverseRecOn with
  | nil => exact ⟨rfl, rfl, rfl, rfl, rfl, rfl, rfl, rfl, rfl, rfl, rfl, rfl⟩
  | append_singleton bars bar ih =>
    have hlast : replayed (new config testHook) (bars ++ [bar]) =
        updated (replayed (new config testHook) bars) bar := List.foldl_concat ..
    rw [hlast]
    exact ih.updated

/-- The features of a strategy that follows the sessions are what their names say, the first minute's as
long as no later bar of the session takes its place. -/
theorem isMeant_iff_of_features {config : SessionGapStandaloneConfig} {sessions : List (List BarEvent)}
    {s s' : SessionGapStandaloneStrategy} (h : Follows config sessions s')
    (hfeatures : features s = features s') :
    IsMeant config sessions s ↔ KeepsFirstMinute config (sessionAgo sessions 0) := by
  have hhigh : s.firstMinHigh = s'.firstMinHigh := congrArg SessionFeatures.firstMinHigh hfeatures
  have hlow : s.firstMinLow = s'.firstMinLow := congrArg SessionFeatures.firstMinLow hfeatures
  constructor
  · intro hmeant
    exact ⟨h.firstMinHigh.symm.trans (hhigh.symm.trans hmeant.firstMinHigh),
      h.firstMinLow.symm.trans (hlow.symm.trans hmeant.firstMinLow)⟩
  · rintro ⟨hfirstHigh, hfirstLow⟩
    exact
      { yesterdayClose := (congrArg SessionFeatures.yesterdayClose hfeatures).trans h.yesterdayClose
        yesterdayRange := (congrArg SessionFeatures.yesterdayRange hfeatures).trans h.yesterdayRange
        prePrevClose := (congrArg SessionFeatures.prePrevClose hfeatures).trans h.prePrevClose
        firstMinHigh := hhigh.trans (h.firstMinHigh.trans hfirstHigh)
        firstMinLow := hlow.trans (h.firstMinLow.trans hfirstLow)
        firstHourPrice := (congrArg SessionFeatures.firstHourPrice hfeatures).trans h.firstHourPrice }

/-- A warm-up over a history is the same as the bars one after the other, and both make the features what
their names say exactly as long as the first minute's are not replaced by those of another day. -/
theorem warmup_iff_isMeant (config : SessionGapStandaloneConfig) (testHook : SessionGapTestHookState)
    (ctx : StrategyCtx) (events : List (StrategyCtx × BarEvent))
    (hincreasing : (events.map fun e => e.2.closeTimeUtc).Pairwise (· < ·)) :
    (features ((new config testHook).warmupFromHistory ctx (events.map Prod.snd)).1 =
          features (Reaction.after feed (new config testHook) events) ∧
        IsMeant config (sessions config (events.map Prod.snd))
          (Reaction.after feed (new config testHook) events)) ↔
      KeepsFirstMinute config (sessionAgo (sessions config (events.map Prod.snd)) 0) := by
  have hfed := features_feed (new config testHook) events (fun _ _ _ hnone => (nomatch hnone)) hincreasing
  have hwarm := features_warmupFromHistory config testHook ctx (events.map Prod.snd)
  have hfollows := follows_replayed config testHook (ownBars config (events.map Prod.snd))
  have hmeant := isMeant_iff_of_features hfollows hfed
  exact ⟨fun h => hmeant.mp h.2, fun h => ⟨hwarm.trans hfed.symm, hmeant.mpr h⟩⟩

namespace Sample

/-- The bars of a day and an hour, each an hour after the one before; the last one reaches a high of its
own. -/
def longSession : List (StrategyCtx × BarEvent) :=
  (List.range 24).map (fun n => (Sample.ctx (1699955940 + 3600 * n) 0, Sample.bar (1699955940 + 3600 * n))) ++
    [(Sample.ctx 1700042340 0, { Sample.bar 1700042340 with h := 110 })]

end Sample

/-- A day and an hour without its last bar. -/
theorem warmup_iff_isMeant_day :
    features ((new .default ⟨none, false, false⟩).warmupFromHistory (Sample.ctx 0 0)
          ((Sample.longSession.take 24).map Prod.snd)).1 =
        features (Reaction.after feed (new .default ⟨none, false, false⟩) (Sample.longSession.take 24)) ∧
      IsMeant .default (sessions .default ((Sample.longSession.take 24).map Prod.snd))
        (Reaction.after feed (new .default ⟨none, false, false⟩) (Sample.longSession.take 24)) :=
  (warmup_iff_isMeant .default ⟨none, false, false⟩ (Sample.ctx 0 0) (Sample.longSession.take 24)
    (by decide +kernel)).mpr (by decide +kernel)

/-- In a session that lasts a day, the first minute's high is that of the next day. -/
theorem not_isMeant_longSession :
    (Sample.longSession.map fun e => e.2.closeTimeUtc).Pairwise (· < ·) ∧
      ((sessions .default (Sample.longSession.map Prod.snd)).length = 1 ∧
        (Reaction.after feed (new .default ⟨none, false, false⟩) Sample.longSession).firstMinHigh =
          some 110 ∧
        (Sample.longSession.head?.map fun e => e.2.h) = some 102) ∧
      ¬IsMeant .default (sessions .default (Sample.longSession.map Prod.snd))
        (Reaction.after feed (new .default ⟨none, false, false⟩) Sample.longSession) := by
  have hhigh : (Reaction.after feed (new .default ⟨none, false, false⟩)
      Sample.longSession).firstMinHigh = some 110 := by
    decide +kernel
  have hfirst : (sessionAgo (sessions .default (Sample.longSession.map Prod.snd)) 0).head?.map
      BarEvent.h = some 102 := by
    decide +kernel
  refine ⟨by decide +kernel, ⟨by decide +kernel, hhigh, by decide +kernel⟩, ?_⟩
  intro hmeant
  have hboth := hmeant.firstMinHigh
  rw [hhigh, hfirst] at hboth
  exact absurd (Option.some.inj hboth) (by decide)

end AlorRs.SessionGap
