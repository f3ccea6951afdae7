import AlorRs.Gateway.Equiv.Steps
import AlorRs.Gateway.Equiv.Supervisor

/-!
# The bars that the gateway emits

The task of the bars emits a bar after it was validated, or, when a gap has been closed, the bars
that it kept back, which nobody validates (`flush_pending_live`).  All of them are later than the
bars of their symbol that were emitted before; they are all valid as long as what is kept back is
(`emitted_valid`).
-/

namespace AlorRs.Gateway

open History Reaction

/-! ### What is sent -/

/-- `emit_bar` for one bar after the other: the bars that are sent, and the times that are kept. -/
def emitBars (sent : Bool) (lastEmitted : AList fun _ : String => ℤ) :
    List BarEvent → List BarEvent × AList fun _ : String => ℤ
  | [] => ([], lastEmitted)
  | bar :: bars =>
    let emitted := emitBar sent lastEmitted bar
    let rest := emitBars sent emitted.2 bars
    (if emitted.1 then bar :: rest.1 else rest.1, rest.2)

/-- The bars that were kept back, in the order in which `flush_pending_live` goes through them. -/
def pendingBars (pending : AList fun _ : String => List BarEvent) : List BarEvent :=
  (pending.entries.mergeSort fun entry entry' => entry.1 ≤ entry'.1).flatMap fun entry =>
    entry.2.mergeSort fun bar bar' => bar.closeTimeUtc ≤ bar'.closeTimeUtc

variable (sent : Bool)

theorem emitBars_append (lastEmitted : AList fun _ : String => ℤ) (bars bars' : List BarEvent) :
    (emitBars sent lastEmitted (bars ++ bars')).2 =
      (emitBars sent (emitBars sent lastEmitted bars).2 bars').2 := by
  induction bars generalizing lastEmitted with
  | nil => rfl
  | cons bar bars ih => exact ih _

theorem emitBars_foldl (lastEmitted : AList fun _ : String => ℤ) (bars : List BarEvent) :
    bars.foldl (fun lastEmitted bar => (emitBar sent lastEmitted bar).2) lastEmitted =
      (emitBars sent lastEmitted bars).2 := by
  induction bars generalizing lastEmitted with
  | nil => rfl
  | cons bar bars ih => exact ih _

theorem flushPendingLive_eq (pending : AList fun _ : String => List BarEvent)
    (lastEmitted : AList fun _ : String => ℤ) :
    flushPendingLive sent pending lastEmitted =
      (emitBars sent lastEmitted (pendingBars pending)).2 := by
  unfold flushPendingLive pendingBars
  generalize pending.entries.mergeSort (fun entry entry' => entry.1 ≤ entry'.1) = entries
  induction entries generalizing lastEmitted with
  | nil => rfl
  | cons entry entries ih =>
    rw [List.foldl_cons, List.flatMap_cons, emitBars_append, ih, emitBars_foldl]

namespace Supervisor

variable {text : RouterText} {config : SupervisorConfig} {supervisor supervisor' : Supervisor}

def sentBars (config : SupervisorConfig) (now : ℤ) (sent : Bool) (supervisor : Supervisor)
    (check : BarCheck) : List BarEvent :=
  let emitted := supervisor.emitChecked config now sent check
  (if emitted.1 && !check.buffered then [check.bar] else []) ++
    if emitted.1 && check.liveReady && decide (supervisor.phase = .syncingGap) then
      (emitBars sent emitted.2 (pendingBars supervisor.pendingLiveUpdates)).1
    else []

def actSending (text : RouterText) (config : SupervisorConfig) (supervisor : Supervisor)
    (step : Step) : Supervisor × List (ℤ × BarEvent) :=
  ((act text config supervisor step).1,
    match step with
    | .finishBar now sent =>
      ((supervisor.checking.map (supervisor.sentBars config now sent)).getD []).map (now, ·)
    | _ => [])

/-! ### The times that are kept -/

variable (log : List (ℤ × BarEvent))

def lastSent (symbol : String) : Option ℤ :=
  ((log.filter fun sent => sent.2.symbol = symbol).getLast?).map fun sent => sent.2.closeTimeUtc

def Keeps (lastEmitted : AList fun _ : String => ℤ) (log : List (ℤ × BarEvent)) : Prop :=
  ∀ symbol, lastEmitted.lookup symbol = lastSent log symbol

def Later (before : List (ℤ × BarEvent)) (sent : ℤ × BarEvent) : Prop :=
  ∀ time, lastSent before sent.2.symbol = some time → time < sent.2.closeTimeUtc

def Valid (config : SupervisorConfig) (before : List (ℤ × BarEvent)) (sent : ℤ × BarEvent) : Prop :=
  validateBar config sent.1 sent.2 (lastSent before sent.2.symbol) = true

theorem lastSent_concat (now : ℤ) (bar : BarEvent) (symbol : String) :
    lastSent (log ++ [(now, bar)]) symbol =
      if bar.symbol = symbol then some bar.closeTimeUtc else lastSent log symbol := by
  unfold lastSent
  rw [List.filter_append]
  split_ifs with hsymbol
  · rw [List.filter_singleton, decide_eq_true hsymbol, cond_true, List.getLast?_concat]
    rfl
  · rw [List.filter_singleton, decide_eq_false hsymbol, cond_false, List.append_nil]

variable {lastEmitted : AList fun _ : String => ℤ} {log : List (ℤ × BarEvent)} {now : ℤ} {sent : Bool}

theorem Keeps.insert (h : Keeps lastEmitted log) (now : ℤ) (bar : BarEvent) :
    Keeps (lastEmitted.insert bar.symbol bar.closeTimeUtc) (log ++ [(now, bar)]) := by
  intro symbol
  rw [lastSent_concat]
  split_ifs with hsymbol
  · rw [← hsymbol, AList.lookup_insert]
  · rw [AList.lookup_insert_ne (Ne.symm hsymbol), h symbol]

variable {bar : BarEvent}

/-- What the validator asks for apart from the order. -/
theorem validateBar_iff {last : Option ℤ} :
    validateBar config now bar last = true ↔
      (∀ time, last = some time → time < bar.closeTimeUtc) ∧ validateBar config now bar none = true := by
  unfold validateBar
  cases last with
  | none => simp
  | some time => simp [and_assoc]

theorem emitBar_cases (sent : Bool) (lastEmitted : AList fun _ : String => ℤ) (bar : BarEvent) :
    emitBar sent lastEmitted bar = (false, lastEmitted) ∨
      emitBar sent lastEmitted bar = (true, lastEmitted.insert bar.symbol bar.closeTimeUtc) ∧
        ∀ time, lastEmitted.lookup bar.symbol = some time → time < bar.closeTimeUtc := by
  unfold emitBar
  split_ifs with hold hsent
  · exact .inl rfl
  · refine .inr ⟨rfl, fun time htime => ?_⟩
    rw [htime, Option.any_some, decide_eq_true_eq, not_le] at hold
    exact hold
  · exact .inl rfl

theorem emitBars_later (h : Keeps lastEmitted log) (bars : List BarEvent) :
    EachAfter (fun before => Later (log ++ before))
        ((emitBars sent lastEmitted bars).1.map (now, ·)) ∧
      Keeps (emitBars sent lastEmitted bars).2
        (log ++ (emitBars sent lastEmitted bars).1.map (now, ·)) := by
  induction bars generalizing lastEmitted log with
  | nil =>
    refine ⟨eachAfter_nil, ?_⟩
    rw [emitBars, List.map_nil, List.append_nil]
    exact h
  | cons bar bars ih =>
    rw [emitBars]
    rcases emitBar_cases sent lastEmitted bar with hsame | ⟨hinsert, hlater⟩
    · rw [hsame]
      exact ih h
    · rw [hinsert]
      rw [if_pos rfl, List.map_cons]
      obtain ⟨heach, hkeeps⟩ := ih (h.insert now bar)
      refine ⟨?_, ?_⟩
      · rw [← List.singleton_append, eachAfter_append]
        refine ⟨eachAfter_singleton.mpr fun time htime => hlater time ?_, ?_⟩
        · rw [h]
          rwa [List.append_nil] at htime
        · simpa only [List.append_assoc] using heach
      · rw [List.append_assoc, List.singleton_append] at hkeeps
        exact hkeeps

theorem mem_of_mem_emitBars {bars : List BarEvent} (h : bar ∈ (emitBars sent lastEmitted bars).1) :
    bar ∈ bars := by
  induction bars generalizing lastEmitted with
  | nil => cases h
  | cons other bars ih =>
    rw [emitBars] at h
    split_ifs at h
    · rcases List.mem_cons.mp h with rfl | h
      · exact List.mem_cons_self
      · exact List.mem_cons_of_mem _ (ih h)
    · exact List.mem_cons_of_mem _ (ih h)

/-! ### One bar -/

theorem lastEmittedBarTs_transitionPhase (supervisor : Supervisor) (next : GatewayPhase) :
    (supervisor.transitionPhase next).lastEmittedBarTs = supervisor.lastEmittedBarTs := by
  unfold transitionPhase
  split_ifs <;> rfl

/-- What goes on with a bar sends, and what it keeps. -/
theorem emitChecked_cases (config : SupervisorConfig) (now : ℤ) (sent : Bool)
    (supervisor : Supervisor) (check : BarCheck) :
    let emitted := supervisor.emitChecked config now sent check
    ((emitted.1 && !check.buffered) = false ∧ emitted.2 = supervisor.lastEmittedBarTs) ∨
      ((emitted.1 && !check.buffered) = true ∧ validateBar config now check.bar
          (supervisor.lastEmittedBarTs.lookup check.bar.symbol) = true ∧
        emitted.2 = supervisor.lastEmittedBarTs.insert check.bar.symbol check.bar.closeTimeUtc) := by
  unfold emitChecked
  dsimp only
  split_ifs with hbuffered hvalid
  · rw [hbuffered]
    exact .inl ⟨rfl, rfl⟩
  · rw [Bool.not_eq_true] at hbuffered
    rw [hbuffered]
    rcases emitBar_cases sent supervisor.lastEmittedBarTs check.bar with hsame | ⟨hinsert, -⟩
    · rw [hsame]
      exact .inl ⟨rfl, rfl⟩
    · rw [hinsert]
      exact .inr ⟨rfl, hvalid, rfl⟩
  · exact .inl ⟨rfl, rfl⟩

def flushes (config : SupervisorConfig) (now : ℤ) (sent : Bool) (supervisor : Supervisor)
    (check : BarCheck) : Bool :=
  (supervisor.emitChecked config now sent check).1 && check.liveReady &&
    decide (supervisor.phase = .syncingGap)

theorem lastEmittedBarTs_finishBar (config : SupervisorConfig) (now : ℤ) (sent : Bool)
    (supervisor : Supervisor) (check : BarCheck) :
    (supervisor.finishBar config now sent check).lastEmittedBarTs =
      if supervisor.flushes config now sent check then
        (emitBars sent (supervisor.emitChecked config now sent check).2
          (pendingBars supervisor.pendingLiveUpdates)).2
      else (supervisor.emitChecked config now sent check).2 := by
  unfold finishBar flushes
  dsimp only
  by_cases hready : ((supervisor.emitChecked config now sent check).1 && check.liveReady) = true
  · rw [if_pos hready, hready, Bool.true_and]
    unfold becomeLiveReady
    by_cases hgap : supervisor.phase = .syncingGap
    · rw [if_pos hgap, lastEmittedBarTs_transitionPhase, if_pos (decide_eq_true hgap)]
      exact flushPendingLive_eq ..
    · rw [if_neg hgap, decide_eq_false hgap, if_neg Bool.false_ne_true]
      split_ifs
      · rw [lastEmittedBarTs_transitionPhase]
      · rfl
  · rw [if_neg hready]
    rw [Bool.not_eq_true] at hready
    rw [hready, Bool.false_and, if_neg Bool.false_ne_true]

theorem sentBars_later {check : BarCheck} (h : Keeps supervisor.lastEmittedBarTs log) :
    EachAfter (fun before => Later (log ++ before))
        ((supervisor.sentBars config now sent check).map (now, ·)) ∧
      Keeps (supervisor.finishBar config now sent check).lastEmittedBarTs
        (log ++ (supervisor.sentBars config now sent check).map (now, ·)) := by
  -- the bars kept back follow what was sent so far
  have hflush (middle : List (ℤ × BarEvent))
      (hmiddle : Keeps (supervisor.emitChecked config now sent check).2 middle) :
      let flushed :=
        if supervisor.flushes config now sent check then
          (emitBars sent (supervisor.emitChecked config now sent check).2
            (pendingBars supervisor.pendingLiveUpdates)).1
        else []
      EachAfter (fun before => Later (middle ++ before)) (flushed.map (now, ·)) ∧
        Keeps (supervisor.finishBar config now sent check).lastEmittedBarTs
          (middle ++ flushed.map (now, ·)) := by
    rw [lastEmittedBarTs_finishBar]
    split_ifs
    · exact emitBars_later hmiddle _
    · refine ⟨eachAfter_nil, ?_⟩
      rw [List.map_nil, List.append_nil]
      exact hmiddle
  have hsent : supervisor.sentBars config now sent check =
      (if (supervisor.emitChecked config now sent check).1 && !check.buffered then [check.bar]
        else []) ++
      if supervisor.flushes config now sent check then
        (emitBars sent (supervisor.emitChecked config now sent check).2
          (pendingBars supervisor.pendingLiveUpdates)).1
      else [] := rfl
  rw [hsent, List.map_append]
  -- the bar itself is sent first, if at all
  rcases emitChecked_cases config now sent supervisor check with ⟨hnone, hsame⟩ | ⟨hone, hvalid, hinsert⟩
  · rw [hnone, if_neg Bool.false_ne_true, List.map_nil, List.nil_append]
    exact hflush log (by rw [hsame]; exact h)
  · rw [hone, if_pos rfl, List.map_cons, List.map_nil]
    obtain ⟨heach, hkeeps⟩ := hflush (log ++ [(now, check.bar)]) (by rw [hinsert]; exact h.insert now _)
    refine ⟨eachAfter_append.mpr ⟨eachAfter_singleton.mpr fun time htime => ?_, ?_⟩, ?_⟩
    -- its validation compares it with the last one that was sent
    · refine (validateBar_iff.mp hvalid).1 time ?_
      rw [h]
      rwa [List.append_nil] at htime
    · simpa only [List.append_assoc] using heach
    · rw [List.append_assoc] at hkeeps
      exact hkeeps

/-- The bars that are sent are valid apart from the order, if those that were kept back are. -/
theorem validateBar_of_mem_sentBars {check : BarCheck}
    (hpending : supervisor.flushes config now sent check = true →
      ∀ bar ∈ pendingBars supervisor.pendingLiveUpdates, validateBar config now bar none = true)
    (hmem : bar ∈ supervisor.sentBars config now sent check) :
    validateBar config now bar none = true := by
  rcases List.mem_append.mp hmem with hmem | hmem
  · rcases emitChecked_cases config now sent supervisor check with ⟨hnone, -⟩ | ⟨hone, hvalid, -⟩
    · rw [hnone, if_neg Bool.false_ne_true] at hmem
      cases hmem
    · rw [hone, if_pos rfl, List.mem_singleton] at hmem
      rw [hmem]
      exact (validateBar_iff.mp hvalid).2
  · split_ifs at hmem with hflushes
    · exact hpending hflushes bar (mem_of_mem_emitBars hmem)
    · cases hmem

/-! ### Runs -/

theorem lastEmittedBarTs_deliver (supervisor : Supervisor) (outputs : List RouterOutput) :
    (outputs.foldl deliver supervisor).lastEmittedBarTs = supervisor.lastEmittedBarTs := by
  induction outputs generalizing supervisor with
  | nil => rfl
  | cons output outputs ih =>
    rw [List.foldl_cons, ih]
    cases output with
    | _ => rfl

theorem lastEmittedBarTs_checkBar (config : SupervisorConfig) (supervisor : Supervisor)
    (bar : BarEvent) :
    (supervisor.checkBar config bar).lastEmittedBarTs = supervisor.lastEmittedBarTs := by
  unfold checkBar
  dsimp only
  split_ifs
  all_goals rfl

variable {step : Step}

/-- Only the end of a bar changes the times that are kept. -/
theorem lastEmittedBarTs_stepped (h : Stepped text config supervisor step supervisor')
    (hstep : ∀ now sent, step ≠ .finishBar now sent) :
    supervisor'.lastEmittedBarTs = supervisor.lastEmittedBarTs := by
  cases h with
  | @wsEvent now event wsEvents hevents =>
    have hsame := barsUnderway_handleWsEvent config { supervisor with wsEvents := wsEvents } now event
    exact congrArg (fun underway => underway.2.2.2.2) hsame
  | routeRaw hraw => exact lastEmittedBarTs_deliver _ _
  | checkBar hchecking hbars => exact lastEmittedBarTs_checkBar ..
  | finishBar hchecking => exact absurd rfl (hstep _ _)
  | silence hphase =>
    exact congrArg (fun underway => underway.2.2.2.2) (barsUnderway_resubscribe config supervisor _)
  | _ => rfl

def FlushesInvalid (config : SupervisorConfig) (supervisor : Supervisor) (step : Step) : Prop :=
  ∃ now sent check bar, step = .finishBar now sent ∧ supervisor.checking = some check ∧
    supervisor.flushes config now sent check = true ∧
    bar ∈ pendingBars supervisor.pendingLiveUpdates ∧ validateBar config now bar none = false

theorem actSending_later (step : Step) (h : Keeps supervisor.lastEmittedBarTs log) :
    EachAfter (fun before => Later (log ++ before)) (actSending text config supervisor step).2 ∧
      Keeps (actSending text config supervisor step).1.lastEmittedBarTs
        (log ++ (actSending text config supervisor step).2) := by
  by_cases hfinish : ∃ now sent, step = .finishBar now sent
  · obtain ⟨now, sent, rfl⟩ := hfinish
    cases hchecking : supervisor.checking with
    | none =>
      have hact : actSending text config supervisor (.finishBar now sent) = (supervisor, []) := by
        simp [actSending, act, Supervisor.step, hchecking]
      rw [hact, List.append_nil]
      exact ⟨eachAfter_nil, h⟩
    | some check =>
      have hact : actSending text config supervisor (.finishBar now sent) =
          (supervisor.finishBar config now sent check,
            (supervisor.sentBars config now sent check).map (now, ·)) := by
        simp [actSending, act, Supervisor.step, hchecking]
      rw [hact]
      exact sentBars_later h
  -- no other step sends a bar
  · push Not at hfinish
    have hnone : (actSending text config supervisor step).2 = [] := by
      cases step with
      | finishBar now sent => exact absurd rfl (hfinish now sent)
      | _ => rfl
    rw [hnone, List.append_nil]
    refine ⟨eachAfter_nil, ?_⟩
    rcases act_cases text config supervisor step with hsame | hstepped
    · show Keeps (act text config supervisor step).1.lastEmittedBarTs log
      rw [hsame]
      exact h
    · show Keeps (act text config supervisor step).1.lastEmittedBarTs log
      rw [lastEmittedBarTs_stepped hstepped hfinish]
      exact h

theorem validateBar_of_mem_actSending {entry : ℤ × BarEvent}
    (hvalid : ¬FlushesInvalid config supervisor step)
    (hmem : entry ∈ (actSending text config supervisor step).2) :
    validateBar config entry.1 entry.2 none = true := by
  cases step with
  | finishBar now sent =>
    have hlist : (actSending text config supervisor (.finishBar now sent)).2 =
        ((supervisor.checking.map (supervisor.sentBars config now sent)).getD []).map (now, ·) := rfl
    obtain ⟨bar, hbar, rfl⟩ := List.mem_map.mp hmem
    cases hchecking : supervisor.checking with
    | none =>
      rw [hchecking] at hbar
      cases hbar
    | some check =>
      rw [hchecking] at hbar
      refine validateBar_of_mem_sentBars (fun hflushes bar hpending => ?_) hbar
      by_contra hinvalid
      exact hvalid ⟨now, sent, check, bar, rfl, hchecking, hflushes, hpending,
        (Bool.not_eq_true _).mp hinvalid⟩
  | _ => cases hmem

/-- In a run that flushes valid bars only, the validator would accept every bar that is sent after
those before it. -/
theorem emitted_valid (text : RouterText) (config : SupervisorConfig) (steps : List Step)
    (hvalid : Always (actSending text config)
      (fun supervisor step => ¬FlushesInvalid config supervisor step) (start config) steps) :
    EachAfter (Valid config) (outputs (actSending text config) (start config) steps) := by
  have hstep (supervisor : Supervisor) (step : Step) (log : List (ℤ × BarEvent))
      (hkeeps : Keeps supervisor.lastEmittedBarTs log)
      (hflushes : ¬FlushesInvalid config supervisor step) :
      EachAfter (fun before => Valid config (log ++ before))
          (actSending text config supervisor step).2 ∧
        Keeps (actSending text config supervisor step).1.lastEmittedBarTs
          (log ++ (actSending text config supervisor step).2) := by
    obtain ⟨hlater, hkeeps'⟩ := actSending_later step hkeeps
    refine ⟨fun i entry hi => validateBar_iff.mpr ⟨hlater i entry hi, ?_⟩, hkeeps'⟩
    exact validateBar_of_mem_actSending hflushes (List.mem_of_getElem? hi)
  have hrun : EachAfter (Valid config)
      ([] ++ outputs (actSending text config) (start config) steps) :=
    outputs_eachAfter (J := fun supervisor log => Keeps supervisor.lastEmittedBarTs log) hstep
      (fun symbol => rfl) eachAfter_nil hvalid
  exact hrun

/-! ### A gap that is closed with a bar that is not valid -/

theorem flushesInvalid_finishBar (h : FlushesInvalid config supervisor step) :
    (∃ now sent, step = .finishBar now sent) ∧ supervisor.phase = .syncingGap := by
  obtain ⟨now, sent, check, bar, rfl, -, hflushes, -⟩ := h
  exact ⟨⟨now, sent, rfl⟩, of_decide_eq_true (Bool.and_eq_true_iff.mp hflushes).2⟩

/-- The first connection sends its first bar. -/
theorem emitted_valid_firstConnection :
    EachAfter (Valid oneSymbol) (outputs (actSending numericText oneSymbol) (start oneSymbol)
      (firstConnection ++ [.finishBar 1000 true])) := by
  refine emitted_valid numericText oneSymbol _ (always_append.mpr ⟨?_, ?_, trivial⟩)
  · rw [always_iff]
    intro before step rest hsteps hflushes
    obtain ⟨⟨now, sent, rfl⟩, -⟩ := flushesInvalid_finishBar hflushes
    have hnone : ∀ step ∈ firstConnection, ∀ now sent, step ≠ .finishBar now sent := by
      simp [firstConnection]
    refine hnone (.finishBar now sent) ?_ now sent rfl
    rw [hsteps]
    exact List.mem_append_right _ List.mem_cons_self
  · intro hflushes
    have hphase : (after (actSending numericText oneSymbol) (start oneSymbol)
        firstConnection).phase = .syncingHistory := by
      decide +kernel
    rw [(flushesInvalid_finishBar hflushes).2] at hphase
    cases hphase

/-- A message with a bar whose high is below its low. -/
def crossedMessage (time : Fin (2 ^ 64)) : Json :=
  .object [("data", .object [("symbol", .string "IMOEXF"), ("time", .number (.posInt time)),
    ("high", .number (.posInt 1)), ("low", .number (.posInt 2))])]

/-- The bar is the last that comes before the connection breaks, and it is kept back when the first
bar of the next one comes, in the gap. -/
def closingGap : List Step :=
  [.finishBar 1000 true, .hub (.raw (crossedMessage 1020)), .wsEvent 1000, .routeRaw 1000,
    .checkBar, .finishBar 1000 true, .hub .fail, .hub .reconnect, .wsEvent 1000, .wsEvent 1000,
    .hub (.connect 1100)] ++
    ["6", "7", "8", "9", "10"].flatMap (fun guid => [.hub (.subscribe guid), .hub .acked]) ++
    [.hub (.raw (barMessage 1080))] ++ List.replicate 19 (.wsEvent 1100) ++
    [.routerCommand, .routeRaw 1100, .checkBar, .finishBar 1100 true]

/-- The bar that is not valid is sent. -/
theorem crossedBar_sent :
    ¬∀ (text : RouterText) (config : SupervisorConfig) (steps : List Step),
      EachAfter (Valid config) (outputs (actSending text config) (start config) steps) := by
  intro h
  have hlast : (outputs (actSending numericText oneSymbol) (start oneSymbol)
      (firstConnection ++ closingGap)).getLast? =
      some (1100, ⟨"IMOEXF", 1020, 0, 1, 2, 0, 0, .live⟩) := by
    decide +kernel
  obtain ⟨before, hbefore⟩ := List.getLast?_eq_some_iff.mp hlast
  have hvalid := h numericText oneSymbol (firstConnection ++ closingGap)
  rw [hbefore, eachAfter_concat] at hvalid
  have hcrossed := (validateBar_iff.mp hvalid.2).2
  revert hcrossed
  decide +kernel

end Supervisor

end AlorRs.Gateway
