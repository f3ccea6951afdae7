import AlorRs.Gateway.DataQuality
import AlorRs.Gateway.Equiv.Supervisor
import AlorRs.Lib.KeyedBuffer
import AlorRs.Lib.Reaction

/-!
# What the data-quality report adds up to

Every bar that is received is emitted, dropped, kept back, or in the hands of the task of the bars
(`Counted`).  A message that is ignored was never received, so it has no part in that: the report
balances exactly when as many messages were ignored as there are bars in hand (`balanced_iff`).
-/

namespace AlorRs.Gateway

namespace CountingSupervisor

/-! ### Runs -/

def ignores (c : CountingSupervisor) : CountingStep → List String
  | .other step => (c.oldSymbol step).toList
  | .ignored symbol _ generation =>
    if generation ≠ c.supervisor.currentGeneration then [] else [symbol.getD "<unknown>"]
  | .receiveBar | .checkBar | .validateBar _ | .sendBar _ | .finishBar | .flushNext _ => []

/-- A step that cannot be taken changes nothing; the answer is what a step ignores. -/
def answer (text : RouterText) (config : SupervisorConfig) (c : CountingSupervisor)
    (step : CountingStep) : CountingSupervisor × List String :=
  ((c.step text config step).getD c, c.ignores step)

def after (text : RouterText) (config : SupervisorConfig) (steps : List CountingStep) :
    CountingSupervisor :=
  Reaction.after (answer text config) (start config) steps

def ignored (text : RouterText) (config : SupervisorConfig) (steps : List CountingStep) :
    List String :=
  Reaction.outputs (answer text config) (start config) steps

end CountingSupervisor

/-- The bars that the task of the bars has in hand: those that it has received and neither kept back
nor counted as emitted or dropped. -/
def BarTask.bars : BarTask → List BarEvent
  | .waiting | .finishing _ => []
  | .received bar => [bar]
  | .checked check => if check.buffered then [] else [check.bar]
  | .sending check => [check.bar]
  | .flushing bars _ => bars

def CountingSupervisor.inHand (c : CountingSupervisor) (symbol : String) : ℕ :=
  c.task.bars.countP fun bar => bar.symbol = symbol

structure Balanced (report : DataQualityReport × List ReportImbalance) : Prop where
  balances : ∀ symbol, Counter.count report.1.received symbol = report.1.rhs symbol
  noImbalance : report.2 = []

/-! ### The validator and the emission of the supervisor -/

/-! ### The other tasks -/

section Others

variable {text : RouterText} {config : SupervisorConfig} {supervisor supervisor' : Supervisor}

theorem pending_transitionPhase (supervisor : Supervisor) (next : GatewayPhase) :
    (supervisor.transitionPhase next).pendingLiveUpdates = supervisor.pendingLiveUpdates := by
  unfold Supervisor.transitionPhase
  split_ifs <;> rfl

theorem pending_handleCurrent (now : ℤ) (event : WsEvent) :
    (supervisor.handleCurrent config now event).pendingLiveUpdates =
      supervisor.pendingLiveUpdates := by
  cases event with
  | raw value =>
    unfold Supervisor.handleCurrent
    split_ifs <;> rfl
  | conn event generation =>
    cases event with
    | connected => rfl
    | disconnected => rfl
    | reconnecting =>
      unfold Supervisor.handleCurrent
      dsimp only
      split_ifs
      · exact pending_transitionPhase _ _
      · rfl
  | subscribed wallclockTs historyOrigin =>
    cases historyOrigin with
    | historyGap | history => exact pending_transitionPhase _ _
    | live => rfl
  | _ => rfl

theorem pending_handleWsEvent (now : ℤ) (event : WsEvent) :
    (supervisor.handleWsEvent config now event).pendingLiveUpdates =
      supervisor.pendingLiveUpdates := by
  unfold Supervisor.handleWsEvent
  split
  · exact pending_handleCurrent now _
  · split_ifs
    · rfl
    · exact pending_handleCurrent now _

theorem pending_deliver (outputs : List RouterOutput) (supervisor : Supervisor) :
    (outputs.foldl Supervisor.deliver supervisor).pendingLiveUpdates =
      supervisor.pendingLiveUpdates := by
  induction outputs generalizing supervisor with
  | nil => rfl
  | cons output outputs ih =>
    have hdelivered : (supervisor.deliver output).pendingLiveUpdates =
        supervisor.pendingLiveUpdates := by
      cases output <;> rfl
    exact (ih _).trans hdelivered

/-- The other tasks leave the bars that are kept back alone. -/
theorem pending_step {step : Supervisor.Step} (hcheck : step ≠ .checkBar)
    (hfinish : ∀ now sent, step ≠ .finishBar now sent)
    (hstep : supervisor.step text config step = some supervisor') :
    supervisor'.pendingLiveUpdates = supervisor.pendingLiveUpdates := by
  cases step with
  | checkBar => exact absurd rfl hcheck
  | finishBar now sent => exact absurd rfl (hfinish now sent)
  | hub step =>
    obtain ⟨⟨hub, events, commands⟩, -, rfl⟩ := Option.map_eq_some_iff.mp hstep
    rfl
  | wsEvent now =>
    simp only [Supervisor.step] at hstep
    split at hstep
    · cases hstep
    · cases hstep
      exact pending_handleWsEvent now _
  | routeRaw now =>
    simp only [Supervisor.step, Supervisor.routeRaw] at hstep
    split at hstep
    · cases hstep
    · cases hstep
      exact pending_deliver _ _
  | silence now =>
    simp only [Supervisor.step] at hstep
    split at hstep
    · cases hstep
      exact pending_transitionPhase _ _
    · cases hstep
  | shutdown | authorize =>
    cases hstep
    rfl
  | routerCommand | managePosition | manageOrder | manageStopOrder =>
    simp only [Supervisor.step] at hstep
    split at hstep
    · cases hstep
    · cases hstep
      rfl

end Others

/-! ### Counts -/

def BarQualityStats.settled (stats : BarQualityStats) (symbol : String) : ℕ :=
  Counter.count stats.emitted symbol + Counter.totalOf stats.dropped fun key => key.1 = symbol

/-- What holds of the counts after every step, with the symbols of the messages ignored so far. -/
structure Counted (c : CountingSupervisor) (ignored : List String) : Prop where
  received : ∀ symbol, Counter.count c.stats.received symbol =
    c.stats.settled symbol + Counter.count c.bufferedBars symbol + c.inHand symbol
  buffered : ∀ symbol, Counter.count c.bufferedBars symbol =
    (KeyedBuffer.items c.supervisor.pendingLiveUpdates symbol).length
  /-- Bars are kept back under their symbols. -/
  kept : ∀ symbol, ∀ bar ∈ KeyedBuffer.items c.supervisor.pendingLiveUpdates symbol,
    bar.symbol = symbol
  ignored : ∀ symbol,
    Counter.totalOf c.stats.ignored (fun key => key.1 = symbol) = ignored.count symbol

namespace BarQualityStats

variable (stats : BarQualityStats) (symbol symbol' : String)

theorem settled_recordEmitted (closeTime : ℤ) :
    (stats.recordEmitted symbol closeTime).settled symbol' =
      stats.settled symbol' + if symbol' = symbol then 1 else 0 := by
  unfold settled recordEmitted
  dsimp only
  rw [Counter.count_bump]
  omega

theorem settled_recordDropped (reason : RejectReason) :
    (stats.recordDropped symbol reason).settled symbol' =
      stats.settled symbol' + if symbol' = symbol then 1 else 0 := by
  unfold settled recordDropped
  rw [Counter.totalOf_bump]
  simp only [decide_eq_true_eq, eq_comm (a := symbol)]
  omega

theorem ignored_recordIgnored (reason : IgnoredReason) :
    Counter.totalOf (stats.recordIgnored symbol reason).ignored (fun key => key.1 = symbol') =
      Counter.totalOf stats.ignored (fun key => key.1 = symbol') +
        if symbol' = symbol then 1 else 0 := by
  unfold recordIgnored
  rw [Counter.totalOf_bump]
  simp only [decide_eq_true_eq, eq_comm (a := symbol)]

end BarQualityStats

theorem countP_cons_symbol (bar : BarEvent) (bars : List BarEvent) (symbol : String) :
    ((bar :: bars).countP fun bar => bar.symbol = symbol) =
      (bars.countP fun bar => bar.symbol = symbol) + if symbol = bar.symbol then 1 else 0 := by
  rw [List.countP_cons]
  simp only [decide_eq_true_eq, eq_comm (a := symbol)]

section Steps

variable {text : RouterText} {config : SupervisorConfig} {c : CountingSupervisor}
  {ignored : List String}

theorem counted_start (config : SupervisorConfig) :
    Counted (CountingSupervisor.start config) [] where
  received _ := rfl
  buffered _ := rfl
  kept _ bar hbar := by cases hbar
  ignored _ := rfl

variable {c' : CountingSupervisor}

theorem Counted.of_eq (h : Counted c ignored) (hstats : c'.stats = c.stats)
    (hbuffered : c'.bufferedBars = c.bufferedBars)
    (hpending : c'.supervisor.pendingLiveUpdates = c.supervisor.pendingLiveUpdates)
    (hbars : c'.task.bars = c.task.bars) : Counted c' ignored where
  received symbol := by
    unfold CountingSupervisor.inHand
    rw [hstats, hbuffered, hbars]
    exact h.received symbol
  buffered symbol := by
    rw [hbuffered, hpending]
    exact h.buffered symbol
  kept symbol := by
    rw [hpending]
    exact h.kept symbol
  ignored symbol := by
    rw [hstats]
    exact h.ignored symbol

theorem Counted.ignore (h : Counted c ignored) (symbol : String) (reason : IgnoredReason) :
    Counted { c with stats := c.stats.recordIgnored symbol reason } (ignored ++ [symbol]) where
  received := h.received
  buffered := h.buffered
  kept := h.kept
  ignored symbol' := by
    rw [BarQualityStats.ignored_recordIgnored, h.ignored, List.count_append, List.count_singleton]
    simp only [beq_iff_eq, eq_comm (a := symbol)]

variable {bar : BarEvent}

theorem Counted.settle (h : Counted c ignored) (hreceived : c'.stats.received = c.stats.received)
    (hignored : c'.stats.ignored = c.stats.ignored) (hsettled : ∀ symbol, c'.stats.settled symbol =
      c.stats.settled symbol + if symbol = bar.symbol then 1 else 0)
    (hbuffered : c'.bufferedBars = c.bufferedBars)
    (hpending : c'.supervisor.pendingLiveUpdates = c.supervisor.pendingLiveUpdates)
    (hbars : c.task.bars = bar :: c'.task.bars) : Counted c' ignored where
  received symbol := by
    have hbefore := h.received symbol
    unfold CountingSupervisor.inHand at hbefore ⊢
    rw [hbars, countP_cons_symbol] at hbefore
    rw [hreceived, hbefore, hsettled, hbuffered]
    omega
  buffered symbol := by
    rw [hbuffered, hpending]
    exact h.buffered symbol
  kept symbol := by
    rw [hpending]
    exact h.kept symbol
  ignored symbol := by
    rw [hignored]
    exact h.ignored symbol

theorem emit_spec (c : CountingSupervisor) (sent : Bool) (bar : BarEvent) :
    (c.emit sent bar).stats.received = c.stats.received ∧
      (c.emit sent bar).stats.ignored = c.stats.ignored ∧
      (∀ symbol, (c.emit sent bar).stats.settled symbol =
        c.stats.settled symbol + if symbol = bar.symbol then 1 else 0) ∧
      (c.emit sent bar).bufferedBars = c.bufferedBars ∧
      (c.emit sent bar).supervisor.pendingLiveUpdates = c.supervisor.pendingLiveUpdates := by
  unfold CountingSupervisor.emit
  cases emitResult sent c.supervisor.lastEmittedBarTs bar with
  | emitted =>
    exact ⟨rfl, rfl, fun symbol => BarQualityStats.settled_recordEmitted .., rfl, rfl⟩
  | duplicateOrOld | sendFailed =>
    exact ⟨rfl, rfl, fun symbol => BarQualityStats.settled_recordDropped .., rfl, rfl⟩

theorem Counted.emit {task : BarTask} (h : Counted c ignored) (sent : Bool)
    (hbars : c.task.bars = bar :: task.bars) :
    Counted { c.emit sent bar with task := task } ignored := by
  obtain ⟨hreceived, hignored, hsettled, hbuffered, hpending⟩ := emit_spec c sent bar
  exact h.settle hreceived hignored hsettled hbuffered hpending hbars

theorem Counted.receive {bars : List BarEvent} (h : Counted c ignored)
    (hwaiting : c.task = .waiting) :
    Counted
      { c with
        supervisor := { c.supervisor with bars := bars }
        stats := c.stats.recordReceived bar.symbol
        task := .received bar } ignored where
  received symbol := by
    have hbefore := h.received symbol
    unfold CountingSupervisor.inHand at hbefore ⊢
    rw [hwaiting] at hbefore
    show Counter.count (Counter.bump c.stats.received bar.symbol) symbol =
      c.stats.settled symbol + _ + ([bar].countP _)
    rw [Counter.count_bump, hbefore, countP_cons_symbol]
    exact Nat.add_assoc ..
  buffered := h.buffered
  kept := h.kept
  ignored := h.ignored

theorem checkBar_spec (config : SupervisorConfig) (supervisor : Supervisor) (bar : BarEvent) :
    ∃ check, (supervisor.checkBar config bar).checking = some check ∧ check.bar = bar ∧
      (supervisor.checkBar config bar).pendingLiveUpdates =
        if check.buffered then KeyedBuffer.push supervisor.pendingLiveUpdates bar.symbol bar
        else supervisor.pendingLiveUpdates := by
  unfold Supervisor.checkBar
  dsimp only
  split_ifs <;> exact ⟨_, rfl, rfl, rfl⟩

/-- A bar that was received is kept back, or stays in hand. -/
theorem Counted.check {check : BarCheck} {supervisor : Supervisor} (h : Counted c ignored)
    (hreceived : c.task = .received bar) (hbar : check.bar = bar)
    (hpending : supervisor.pendingLiveUpdates =
      if check.buffered then KeyedBuffer.push c.supervisor.pendingLiveUpdates bar.symbol bar
      else c.supervisor.pendingLiveUpdates) :
    Counted
      { c with
        supervisor := supervisor
        bufferedBars :=
          if check.buffered then Counter.bump c.bufferedBars bar.symbol else c.bufferedBars
        task := .checked check } ignored := by
  -- a bar that is not kept back stays in hand
  cases hcheck : check.buffered with
  | false =>
    rw [hcheck, if_neg Bool.false_ne_true] at hpending
    rw [if_neg Bool.false_ne_true]
    refine h.of_eq rfl rfl hpending ?_
    rw [hreceived]
    show (if check.buffered then [] else [check.bar]) = [bar]
    rw [hcheck, hbar]
    rfl
  -- a bar that is kept back is counted with its symbol
  | true =>
    rw [hcheck, if_pos rfl] at hpending
    have hitems := KeyedBuffer.items_push c.supervisor.pendingLiveUpdates bar.symbol
    refine ⟨fun symbol => ?_, fun symbol => ?_, fun symbol bar' hbar' => ?_, h.ignored⟩
    · have hbefore := h.received symbol
      unfold CountingSupervisor.inHand at hbefore ⊢
      rw [hreceived] at hbefore
      have hempty : (BarTask.checked check).bars = [] := by
        show (if check.buffered then [] else [check.bar]) = []
        rw [hcheck]
        rfl
      -- one bar more for its symbol
      have hone : ([bar].countP fun bar => bar.symbol = symbol) =
          0 + if symbol = bar.symbol then 1 else 0 := countP_cons_symbol bar [] symbol
      dsimp only [BarTask.bars] at hbefore
      dsimp only
      rw [hempty, if_pos rfl, Counter.count_bump, hbefore, List.countP_nil]
      omega
    · show Counter.count (Counter.bump c.bufferedBars bar.symbol) symbol =
        (KeyedBuffer.items supervisor.pendingLiveUpdates symbol).length
      rw [hpending, Counter.count_bump, h.buffered, hitems symbol]
      split_ifs with hsymbol
      · rw [hsymbol, List.length_append, List.length_singleton]
      · rfl
    · rw [hpending, hitems symbol] at hbar'
      split_ifs at hbar' with hsymbol
      · rw [List.mem_append, List.mem_singleton] at hbar'
        rcases hbar' with hbefore | rfl
        · rw [h.kept _ _ hbefore, hsymbol]
        · exact hsymbol.symm
      · exact h.kept _ _ hbar'

/-- All bars of a symbol that were kept back are no longer. -/
theorem count_unbuffer {bufferedBars : Counter String} {symbol : String} {bars : ℕ}
    (h : Counter.count bufferedBars symbol = bars) (symbol' : String) :
    Counter.count (CountingSupervisor.unbuffer bufferedBars symbol bars) symbol' =
      if symbol' = symbol then 0 else Counter.count bufferedBars symbol' := by
  unfold CountingSupervisor.unbuffer
  cases hlookup : bufferedBars.lookup symbol with
  | some count =>
    have hcounted : Counter.count bufferedBars symbol = count := by
      unfold Counter.count
      rw [hlookup]
      rfl
    rw [Counter.count_insert, ← hcounted, h, Nat.sub_self]
  | none =>
    split_ifs with hsymbol
    · unfold Counter.count
      rw [hsymbol, hlookup]
      rfl
    · rfl

theorem Counted.takePending {symbol : String} {symbols : List String} (h : Counted c ignored)
    (hbars : c.task.bars = []) : Counted (c.takePending symbol symbols) ignored := by
  unfold CountingSupervisor.takePending
  cases hpending : c.supervisor.pendingLiveUpdates.lookup symbol with
  | none => exact h.of_eq rfl rfl rfl hbars.symm
  | some bars =>
    have hitems : KeyedBuffer.items c.supervisor.pendingLiveUpdates symbol = bars := by
      unfold KeyedBuffer.items
      rw [hpending]
      rfl
    -- what is no longer kept back leaves the count
    have hcount := count_unbuffer ((h.buffered symbol).trans (congrArg List.length hitems))
    refine ⟨fun symbol' => ?_, fun symbol' => ?_, fun symbol' bar hbar => ?_, h.ignored⟩
    · have hbefore := h.received symbol'
      unfold CountingSupervisor.inHand at hbefore ⊢
      rw [hbars, List.countP_nil] at hbefore
      dsimp only
      rw [hcount, hbefore]
      show _ = _ + _ + (bars.mergeSort _).countP _
      rw [(List.mergeSort_perm bars _).countP_eq]
      split_ifs with hsymbol
      -- all of them are of the symbol
      · have hall : (bars.countP fun bar => bar.symbol = symbol') = bars.length := by
          rw [List.countP_eq_length]
          intro bar hbar
          rw [← hitems] at hbar
          exact decide_eq_true ((h.kept _ _ hbar).trans hsymbol.symm)
        rw [hall, hsymbol, h.buffered, hitems]
        omega
      -- none of them is of another symbol
      · have hnone : (bars.countP fun bar => bar.symbol = symbol') = 0 := by
          rw [List.countP_eq_zero]
          intro bar hbar hmatch
          rw [← hitems] at hbar
          exact hsymbol ((of_decide_eq_true hmatch).symm.trans (h.kept _ _ hbar))
        rw [hnone]
    · dsimp only
      rw [hcount, KeyedBuffer.items_erase]
      split_ifs
      · rfl
      · exact h.buffered symbol'
    · dsimp only at hbar
      rw [KeyedBuffer.items_erase] at hbar
      split_ifs at hbar
      · cases hbar
      · exact h.kept symbol' bar hbar

theorem Counted.step {step : CountingStep} (h : Counted c ignored)
    (hstep : c.step text config step = some c') : Counted c' (ignored ++ c.ignores step) := by
  cases step with
  | other step =>
    -- the tasks that touch no bar
    have hother : step ≠ .checkBar ∧ (∀ now sent, step ≠ .finishBar now sent) ∧
        ∃ supervisor, c.supervisor.step text config step = some supervisor ∧ c' = { c with
            supervisor := supervisor
            stats := (c.oldSymbol step).elim c.stats fun symbol =>
              c.stats.recordIgnored symbol .oldGeneration } := by
      cases step with
      | checkBar | finishBar => cases hstep
      | shutdown | authorize =>
        cases hstep
        refine ⟨?_, ?_, _, rfl, rfl⟩
        · intro heq
          cases heq
        · intro _ _ heq
          cases heq
      | _ =>
        obtain ⟨supervisor, hsupervisor, rfl⟩ := Option.map_eq_some_iff.mp hstep
        refine ⟨?_, ?_, supervisor, hsupervisor, rfl⟩
        · intro heq
          cases heq
        · intro _ _ heq
          cases heq
    obtain ⟨hcheck, hfinish, supervisor, hsupervisor, rfl⟩ := hother
    have hpending := pending_step hcheck hfinish hsupervisor
    have hmoved : Counted { c with supervisor := supervisor } ignored :=
      h.of_eq rfl rfl hpending rfl
    show Counted _ (ignored ++ (c.oldSymbol step).toList)
    cases c.oldSymbol step with
    | none =>
      rw [Option.toList_none, List.append_nil]
      exact hmoved
    | some symbol => exact hmoved.ignore symbol .oldGeneration
  | ignored symbol reason generation =>
    simp only [CountingSupervisor.step] at hstep
    show Counted c' (ignored ++ if generation ≠ c.supervisor.currentGeneration then []
      else [symbol.getD "<unknown>"])
    -- a reason from an old generation is not counted
    split_ifs at hstep ⊢ with hgeneration
    · cases hstep
      rw [List.append_nil]
      exact h
    · cases hstep
      exact h.ignore _ reason
  | receiveBar =>
    simp only [CountingSupervisor.step] at hstep
    split at hstep
    · rename_i hwaiting _
      cases hstep
      rw [show c.ignores _ = [] from rfl, List.append_nil]
      exact h.receive hwaiting
    · cases hstep
  | checkBar =>
    simp only [CountingSupervisor.step] at hstep
    split at hstep
    · rename_i bar hreceived
      obtain ⟨check, hcheck, rfl⟩ := Option.map_eq_some_iff.mp hstep
      obtain ⟨check', hcheck', hbar, hpending⟩ := checkBar_spec config c.supervisor bar
      obtain rfl : check' = check := Option.some.inj (hcheck'.symm.trans hcheck)
      rw [show c.ignores _ = [] from rfl, List.append_nil]
      exact h.check hreceived hbar hpending
    · cases hstep
  | validateBar now =>
    rw [show c.ignores _ = [] from rfl, List.append_nil]
    simp only [CountingSupervisor.step] at hstep
    split at hstep
    · rename_i check hchecked
      have hbars : c.task.bars = if check.buffered then [] else [check.bar] := by
        rw [hchecked]
        rfl
      -- a bar that is kept back is not validated
      split_ifs at hstep with hbuffered
      · cases hstep
        rw [if_pos hbuffered] at hbars
        exact h.of_eq rfl rfl rfl hbars.symm
      · rw [if_neg hbuffered] at hbars
        split at hstep
        · cases hstep
          exact h.settle rfl rfl (fun _ => BarQualityStats.settled_recordDropped ..) rfl rfl hbars
        · cases hstep
          exact h.of_eq rfl rfl rfl hbars.symm
    · cases hstep
  | sendBar sent =>
    rw [show c.ignores _ = [] from rfl, List.append_nil]
    simp only [CountingSupervisor.step] at hstep
    split at hstep
    · rename_i check hsending
      cases hstep
      refine h.emit sent ?_
      rw [hsending]
      split_ifs <;> rfl
    · cases hstep
  | finishBar =>
    rw [show c.ignores _ = [] from rfl, List.append_nil]
    simp only [CountingSupervisor.step] at hstep
    split at hstep
    · rename_i check hfinishing
      have hbars : c.task.bars = [] := by
        rw [hfinishing]
        rfl
      split_ifs at hstep
      · cases hstep
        exact h.of_eq rfl rfl rfl hbars.symm
      · cases hstep
        exact h.of_eq rfl rfl rfl hbars.symm
      · cases hstep
        exact h.of_eq rfl rfl (pending_transitionPhase _ _) hbars.symm
      · cases hstep
        exact h.of_eq rfl rfl rfl hbars.symm
    · cases hstep
  | flushNext sent =>
    rw [show c.ignores _ = [] from rfl, List.append_nil]
    simp only [CountingSupervisor.step] at hstep
    split at hstep
    · rename_i hflushing
      cases hstep
      refine h.emit sent ?_
      rw [hflushing]
      rfl
    · rename_i hflushing
      cases hstep
      exact h.takePending (by rw [hflushing]; rfl)
    · rename_i hflushing
      cases hstep
      exact h.of_eq rfl rfl (pending_transitionPhase _ _) (by rw [hflushing]; rfl)
    · cases hstep

/-- A step that cannot be taken ignores nothing. -/
theorem ignores_of_none {step : CountingStep} (hstep : c.step text config step = none) :
    c.ignores step = [] := by
  cases step with
  | other step =>
    show (c.oldSymbol step).toList = []
    cases step with
    | wsEvent now =>
      have hnone := Option.map_eq_none_iff.mp hstep
      unfold CountingSupervisor.oldSymbol
      cases hevents : c.supervisor.wsEvents with
      | nil => rfl
      | cons event wsEvents =>
        simp only [Supervisor.step, hevents] at hnone
        cases hnone
    | _ => rfl
  | ignored symbol reason generation =>
    simp only [CountingSupervisor.step] at hstep
    split_ifs at hstep
  | _ => rfl

theorem Counted.answer (h : Counted c ignored) (text : RouterText) (config : SupervisorConfig)
    (step : CountingStep) :
    Counted (CountingSupervisor.answer text config c step).1
      (ignored ++ (CountingSupervisor.answer text config c step).2) := by
  unfold CountingSupervisor.answer
  cases hstep : c.step text config step with
  | none =>
    rw [ignores_of_none hstep, List.append_nil]
    exact h
  | some c' => exact h.step hstep

theorem counted_after (text : RouterText) (config : SupervisorConfig) (steps : List CountingStep) :
    Counted (CountingSupervisor.after text config steps)
      (CountingSupervisor.ignored text config steps) := by
  have hrun : Counted (CountingSupervisor.after text config steps)
      ([] ++ CountingSupervisor.ignored text config steps) :=
    Reaction.outputs_invariant (C := fun _ _ => True)
      (fun c step ignored h _ => h.answer text config step) (counted_start config)
      (Reaction.Always.of_forall fun _ _ => trivial)
  exact hrun

end Steps

/-! ### The report -/

section Report

variable (stats : BarQualityStats) (pending : PendingReport) (symbol : String)

theorem droppedOf_toReport :
    (stats.toReport pending).droppedOf symbol =
      Counter.totalOf stats.dropped fun key => key.1 = symbol := by
  unfold DataQualityReport.droppedOf BarQualityStats.toReport
  rw [(((List.mergeSort_perm _ _).filter _).map _).sum_eq, List.filter_map, List.map_map]
  rfl

theorem ignoredOf_toReport :
    (stats.toReport pending).ignoredOf symbol =
      Counter.totalOf stats.ignored fun key => key.1 = symbol := by
  unfold DataQualityReport.ignoredOf BarQualityStats.toReport
  rw [(((List.mergeSort_perm _ _).filter _).map _).sum_eq, List.filter_map, List.map_map]
  rfl

theorem rhs_toReport :
    (stats.toReport pending).rhs symbol =
      stats.settled symbol + Counter.totalOf stats.ignored (fun key => key.1 = symbol) +
        Counter.count pending.bufferedBars symbol := by
  unfold DataQualityReport.rhs
  rw [droppedOf_toReport, ignoredOf_toReport]
  rfl

/-- Where the counts of every symbol add up, no imbalance is reported. -/
theorem noImbalance_of_balances
    (h : ∀ symbol, Counter.count stats.received symbol = (stats.toReport pending).rhs symbol) :
    (buildDataReport stats pending).2 = [] := by
  show List.filterMap _ stats.received.entries = []
  rw [List.filterMap_eq_nil_iff]
  rintro ⟨symbol, received⟩ hentry
  have hlookup : stats.received.lookup symbol = some received := AList.mem_lookup_iff.mpr hentry
  have hcount : Counter.count stats.received symbol = received := by
    unfold Counter.count
    rw [hlookup]
    rfl
  show (stats.toReport pending).imbalance symbol received = none
  unfold DataQualityReport.imbalance
  rw [← hcount, h symbol, if_neg (not_not.mpr rfl)]

end Report

/-- After every run the report balances exactly when, for every symbol, as many messages were ignored
as the task of the bars has bars in hand. -/
theorem balanced_iff (text : RouterText) (config : SupervisorConfig) (steps : List CountingStep) :
    Balanced (CountingSupervisor.after text config steps).report ↔
      ∀ symbol, (CountingSupervisor.ignored text config steps).count symbol =
        (CountingSupervisor.after text config steps).inHand symbol := by
  have hcounted := counted_after text config steps
  generalize CountingSupervisor.after text config steps = c at hcounted
  generalize CountingSupervisor.ignored text config steps = ignored at hcounted
  have hrhs : ∀ symbol, (c.stats.toReport ⟨c.bufferedBars⟩).rhs symbol =
      c.stats.settled symbol + ignored.count symbol + Counter.count c.bufferedBars symbol := by
    intro symbol
    rw [rhs_toReport, hcounted.ignored]
  have hbalance : (∀ symbol, Counter.count c.stats.received symbol =
      (c.stats.toReport ⟨c.bufferedBars⟩).rhs symbol) ↔
        ∀ symbol, ignored.count symbol = c.inHand symbol := by
    refine forall_congr' fun symbol => ?_
    rw [hrhs, hcounted.received]
    omega
  constructor
  · intro hbalanced
    exact hbalance.mp hbalanced.balances
  · intro hequal
    have hbalances := hbalance.mpr hequal
    exact ⟨hbalances, noImbalance_of_balances _ _ hbalances⟩

/-- The gateway connects, the one bar that the router passes on is emitted, and a message with a guid
that is not active is ignored. -/
def countedConnection : List CountingStep :=
  Supervisor.firstConnection.dropLast.map .other ++
    [.receiveBar, .checkBar, .validateBar 1000, .sendBar true, .finishBar,
      .ignored (some "IMOEXF") .inactiveGuid 1]

/-- The bar is not lost, and yet an imbalance is reported. -/
theorem not_balanced_countedConnection :
    (CountingSupervisor.after Supervisor.numericText Supervisor.oneSymbol
        countedConnection).report.2 = [⟨"IMOEXF", 1, 1, 0, 1, 0, -1⟩] ∧
      ¬ Balanced (CountingSupervisor.after Supervisor.numericText Supervisor.oneSymbol
        countedConnection).report := by
  have himbalance : (CountingSupervisor.after Supervisor.numericText Supervisor.oneSymbol
      countedConnection).report.2 = [⟨"IMOEXF", 1, 1, 0, 1, 0, -1⟩] := by
    decide +kernel
  refine ⟨himbalance, ?_⟩
  rintro ⟨-, hnone⟩
  rw [himbalance] at hnone
  cases hnone

end AlorRs.Gateway
