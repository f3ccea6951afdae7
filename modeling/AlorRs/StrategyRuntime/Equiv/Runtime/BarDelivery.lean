import AlorRs.StrategyRuntime.Equiv.Runtime.Bars
import AlorRs.StrategyRuntime.Runtime.Bootstrap

/-!
# Bars across crashes

A process handles bars that are delivered again until they are acknowledged, may end at any
write, and starts again from the newest snapshot.  Unless it ends between the first snapshot that
contains a bar and the acknowledgment of that bar, no state is ever fed a bar that it contains.
-/

namespace AlorRs

open Eff

namespace StrategyRuntime

open RuntimeM

variable {σ P : Type}

/-! ### The start -/

variable {env : Env σ P} {s : TracedRuntime σ P}

section Start

variable {env : Env σ P} {bars : Set (List BarEvent)} {refed : List BarEvent} {marks : BarMarks}

abbrev booking : Allowed σ P := ⟨fun _ _ => True, fun _ => False, False, fun _ => False⟩

theorem makes_loadSnapshots : Makes env booking loadSnapshots := by
  have hasks : (booking : Allowed σ P).Asks := fun _ => trivial
  refine within_read_bind ?_
  split
  · exact within_pure _
  · refine within_bind (makes_readFrom hasks _) fun snapshots => ?_
    split
    · exact makes_book (fun _ => ⟨rfl, rfl, rfl, rfl, rfl, rfl, rfl⟩) fun _ => trivial
    · refine within_bind (makes_book ?_ fun _ => trivial) fun _ => within_get_bind fun rt => ?_
      · exact fun _ => ⟨rfl, rfl, rfl, rfl, rfl, rfl, rfl⟩
      · split
        · exact within_pure _
        · exact within_fail _

theorem Moves.log_of_booking {strategy : Strategy σ P} {s t : StrategyRuntime σ P}
    (h : Moves strategy booking s t) : t.log = s.log := by
  obtain ⟨new, hlog, hnew⟩ := Moves.extends h
  rw [hlog, List.eq_nil_iff_forall_not_mem.mpr hnew, List.append_nil]

def restoredBars (log : List (HostEvent (P × List BarEvent))) : List BarEvent :=
  ((latestSnapshot log).map (·.strategyState.2)).getD []

variable {rt : TracedRuntime σ P}

/-- A runtime that was just created starts from the newest snapshot, or from nothing. -/
theorem wp_loadRuntimeState (h : Reflects {[]} [] ∅ rt) :
    wp loadRuntimeState env.traced rt
      (fun _ t => t.log = rt.log ∧ ∃ fed ∈ ({[], restoredBars rt.log} : Set (List BarEvent)),
        ∃ marks, Reflects {fed} [] marks t)
      fun _ t => t.log = rt.log ∧ t.strategy.refed = [] := by
  rw [loadRuntimeState, wp_bind, wp_read]
  split
  · exact ⟨rfl, [], .inl rfl, ∅, h⟩
  · simp only [readFrom, wp_bind, wp_ask]
    cases env.traced.delivery rt.tick with
    | done =>
      rw [wp_pure, wp_get]
      cases hlatest : latestSnapshot rt.log with
      | none => exact ⟨rfl, [], .inl rfl, ∅, h.persisted, h.fed, h.refed, h.marks⟩
      | some snapshot =>
        refine ⟨rfl, snapshot.strategyState.2, .inr ?_, snapshot.lastProcessedBarTs, rfl, rfl,
          h.refed, rfl⟩
        rw [restoredBars, hlatest]
        rfl
    | refused | lost => exact ⟨rfl, h.refed⟩

theorem keeps_startCallback (eventTsUtc : ℤ)
    {callback : Strategy (Traced σ) (P × List BarEvent) → Traced σ → StrategyCtx →
      Traced σ × List Intent}
    (h : ∀ s ctx, Reactions env.traced.strategy s (callback env.traced.strategy s ctx).1) :
    Within env.traced (Keeps bars refed marks) (startCallback eventTsUtc callback) := by
  refine within_read_bind <| within_bind (keeps_observes.within_preparing (makes_normalizeEventTs _)) fun _ =>
    within_get_bind fun _ => within_bind (keeps_observes.within_preparing (makes_strategyCtx _ _)) fun ctx => ?_
  exact keeps_observes.within_invokeAndApply ctx _ fun s => h s ctx

theorem keeps_bootstrapRiskGateStartupStore :
    Within env.traced (Keeps bars refed marks)
      (bootstrapRiskGateStartupStore : RuntimeM (Traced σ) (P × List BarEvent) Unit) := by
  have hmakes : Makes env.traced bookkeeping
      (bootstrapRiskGateStartupStore : RuntimeM (Traced σ) (P × List BarEvent) Unit) := by
    refine within_bind makes_riskGateProfile fun profileId => ?_
    split
    · exact within_pure _
    · refine within_bind (makes_readFrom bookkeeping_asks _) fun state => ?_
      split
      · exact within_fail _
      · exact makes_applyRiskGateMaterializedState _ _
  exact keeps_observes.within_forward (makes_forward_of_bookkeeping hmakes)

theorem keeps_announceStart :
    Within env.traced (Keeps bars refed marks)
      (announceStart : RuntimeM (Traced σ) (P × List BarEvent) Unit) := by
  refine within_bind keeps_bootstrapRiskGateStartupStore fun _ => within_bind
    (keeps_observes.within_forward
      (makes_forward_of_bookkeeping makes_flushRiskGateSessionFinalizations))
    fun _ => within_bind ?_ fun _ => ?_
  · refine within_read_bind <| within_get_bind fun rt => ?_
    split
    · exact within_pure _
    · split
      · exact within_pure _
      · exact keeps_startCallback _ fun s ctx => .single (.bootstrap s ctx _)
  · refine within_read_bind <| within_get_bind fun rt => ?_
    split
    · exact within_pure _
    · exact keeps_startCallback _ fun s ctx => .single (.restored s ctx _)

theorem keeps_warmStrategy (history : List BarEvent) :
    Within env.traced (Keeps bars refed marks)
      (warmStrategy history : RuntimeM (Traced σ) (P × List BarEvent) ℕ) :=
  within_read_bind <| within_get_bind fun rt =>
    within_bind (keeps_observes.within_preparing (makes_strategyCtx _ _)) fun ctx s => by
  refine fun hs => ⟨?_, .of_eq rfl⟩
  exact ⟨hs.persisted, hs.fed, hs.refed, hs.marks⟩

/-- The end of the warm-up may move the marks. -/
theorem reflects_finishWarmup (h : Reflects bars refed marks s) (history : List BarEvent)
    (processed : ℕ) :
    ∃ marks', Reflects bars refed marks' (finishWarmup env.traced.strategy history processed s) :=
  ⟨_, rfl, h.fed, h.refed, rfl⟩

def Contains (bars : Set (List BarEvent)) (event : HostEvent (P × List BarEvent)) : Prop :=
  ∀ snapshot, event.snapshot? = some snapshot → snapshot.strategyState.2 ∈ bars

theorem Carries.contains {event : HostEvent (P × List BarEvent)} (h : Carries bars marks event) :
    Contains bars event := fun snapshot hsnap => (h snapshot hsnap).1

theorem wp_warmup (h : Reflects bars refed marks rt) :
    wp warmupStrategyIndicatorsFromHistory env.traced rt
      (fun _ t => Extends log (Contains bars) rt t ∧ ∃ marks, Reflects bars refed marks t)
      fun _ t => Extends log (Contains bars) rt t ∧ t.strategy.refed = refed := by
  have hread : Within env.traced (Keeps bars refed marks)
      (readFrom (fun env tick => env.history tick) :
        RuntimeM (Traced σ) (P × List BarEvent) (List BarEvent)) :=
    keeps_observes.within_forward (makes_readFrom forward_asks _)
  have hwarm : ∀ history, Within env.traced (Keeps bars refed marks)
      (do let processed ← warmStrategy history
          flushStrategyJournalRecords
          return processed) := by
    intro history
    exact within_bind (keeps_warmStrategy history) fun _ => within_bind
      (keeps_observes.within_preparing (makes_flushStrategyJournalRecords fun _ => trivial)) fun _ =>
      within_pure _
  rw [warmupStrategyIndicatorsFromHistory, wp_bind, wp_read]
  split
  · exact ⟨.of_eq rfl, marks, h⟩
  · rw [wp_bind]
    refine wp_mono (hread rt) (fun history s hs => ?_) fun _ s hs => ?_
    · obtain ⟨hs, hlog⟩ := hs h
      have hlog := hlog.mono fun _ => Carries.contains
      dsimp only
      split
      · exact ⟨hlog, marks, hs⟩
      · have hwarmed := hwarm (warmupBars env.traced.config history) s
        simp only [wp_bind, wp_pure] at hwarmed
        rw [wp_bind]
        refine wp_mono hwarmed (fun processed t ht => ?_) fun _ t ht => ?_
        · rw [wp_bind]
          refine wp_mono ht (fun _ u hu => ?_) fun _ u hu => ?_
          · obtain ⟨hu, hlog'⟩ := hu hs
            refine ⟨hlog.trans (hlog'.mono fun _ => Carries.contains), ?_⟩
            exact reflects_finishWarmup hu _ _
          · obtain ⟨hu, hlog'⟩ := hu hs
            exact ⟨hlog.trans (hlog'.mono fun _ => Carries.contains), hu.refed⟩
        · obtain ⟨ht, hlog'⟩ := ht hs
          exact ⟨hlog.trans (hlog'.mono fun _ => Carries.contains), ht.refed⟩
    · obtain ⟨hs, hlog⟩ := hs h
      exact ⟨hlog.mono fun _ => Carries.contains, hs.refed⟩

/-- A process that starts contains the bars of the newest snapshot, or none, and writes no
others. -/
theorem wp_startUp (h : Reflects {[]} [] ∅ rt) :
    wp startUp env.traced rt
      (fun _ t => ∃ fed ∈ ({[], restoredBars rt.log} : Set (List BarEvent)),
        (∃ marks, Reflects {fed} [] marks t) ∧ Extends log (Contains {fed}) rt t)
      fun _ t => t.strategy.refed = [] ∧ ∃ fed ∈ ({[], restoredBars rt.log} : Set (List BarEvent)),
          Extends log (Contains {fed}) rt t := by
  have hload : Within env.traced (Keeps {[]} [] ∅)
      (loadSnapshots : RuntimeM (Traced σ) (P × List BarEvent) Unit) :=
    keeps_of_makes (fun _ hfalse => False.elim hfalse) makes_loadSnapshots
  rw [startUp, wp_bind]
  refine wp_mono (wp_and (hload rt) (makes_loadSnapshots rt)) (fun _ s hs => ?_) fun _ s hs => ?_
  · obtain ⟨hs, hlog⟩ := hs
    have hlog : s.log = rt.log := Moves.log_of_booking hlog
    rw [wp_bind]
    refine wp_mono (wp_loadRuntimeState (hs h).1) (fun _ t ht => ?_) fun _ t ht => ?_
    · obtain ⟨hlog', fed, hfed, marks, ht⟩ := ht
      rw [hlog] at hlog' hfed
      have hannounce : Within env.traced (Keeps {fed} [] marks)
          (announceStart : RuntimeM (Traced σ) (P × List BarEvent) Unit) := keeps_announceStart
      have hstart : Extends log (Contains {fed}) rt t := .of_eq hlog'
      rw [wp_bind]
      refine wp_mono (hannounce t) (fun _ u hu => ?_) fun _ u hu => ?_
      · obtain ⟨hu, hlog''⟩ := hu ht
        have hsofar := hstart.trans (hlog''.mono fun _ => Carries.contains)
        refine wp_mono (wp_warmup hu) (fun _ v hv => ?_) fun _ v hv => ?_
        · exact ⟨fed, hfed, hv.2, hsofar.trans hv.1⟩
        · exact ⟨hv.2, fed, hfed, hsofar.trans hv.1⟩
      · obtain ⟨hu, hlog''⟩ := hu ht
        exact ⟨hu.refed, fed, hfed, hstart.trans (hlog''.mono fun _ => Carries.contains)⟩
    · refine ⟨ht.2, [], .inl rfl, .of_eq (ht.1.trans hlog)⟩
  · obtain ⟨hs, hlog⟩ := hs
    exact ⟨(hs h).1.refed, [], .inl rfl, .of_eq (Moves.log_of_booking hlog)⟩

end Start

/-! ### Processes -/

/-- The entries of the bars stream; a bar is one entry, however often that is delivered. -/
structure BarStream where
  name : String
  entry : String → Option BarEvent
  distinct : ∀ messageId messageId' bar, entry messageId = some bar → entry messageId' = some bar →
    messageId = messageId'

/-- The runtime of a process; its log is the one of all processes before it, too. -/
structure Process (σ P : Type) where
  runtime : TracedRuntime σ P
  running : Bool

def acked (log : List (HostEvent P)) (stream messageId : String) : Bool :=
  log.any fun
    | .acked stream' messageId' => stream' == stream && messageId' == messageId
    | _ => false

/-- What happens to a process: the delivery of a bar, of an event of the broker or of the timer, an
end between two of them, and a start.  An end inside of one is a write that fails. -/
inductive ProcessEvent (σ P : Type) where
  | bar (env : Env σ P) (messageId : String)
  | broker (env : Env σ P) (stream messageId : String) (sent : BrokerEvent)
  | timer (env : Env σ P)
  | stop
  | start (env : Env σ P) (strategyState : P) (s : σ)

/-- A process does something; a failure ends it. -/
def Process.after (p : Process σ P) (env : Env σ P)
    (m : RuntimeM (Traced σ) (P × List BarEvent) Unit) : Process σ P :=
  match m.run env.traced p.runtime with
  | (.ok _, rt) => ⟨rt, true⟩
  | (.error _, rt) => ⟨rt, false⟩

def createdRuntime (strategyState : P) (s : σ) (rt : TracedRuntime σ P) : TracedRuntime σ P :=
  { StrategyRuntime.new (strategyState, []) ⟨s, [], []⟩ with tick := rt.tick, log := rt.log }

/-- The process after an event; pending entries alone are delivered. -/
def ProcessEvent.apply (stream : BarStream) (event : ProcessEvent σ P) (p : Process σ P) :
    Process σ P :=
  match event with
  | .stop => { p with running := false }
  | .start env strategyState s =>
    Process.after ⟨createdRuntime strategyState s p.runtime, true⟩ env startUp
  | .bar env messageId =>
    match stream.entry messageId with
    | none => p
    | some delivered =>
      if p.running && !acked p.runtime.log stream.name messageId then
        p.after env (handleBar stream.name messageId delivered)
      else p
  | .broker env name messageId sent =>
    if p.running then p.after env (sent.handle name messageId) else p
  | .timer env => if p.running then p.after env pollTimer else p

/-- The event ends the process in the handling of a bar that the newest snapshot contains, but
whose entry stays pending. -/
def ProcessEvent.CutsOff (stream : BarStream) (event : ProcessEvent σ P) (p : Process σ P) : Prop :=
  match event with
  | .bar _ messageId => p.running = true ∧ (event.apply stream p).running = false ∧
      ∃ bar, stream.entry messageId = some bar ∧
        acked (event.apply stream p).runtime.log stream.name messageId = false ∧
        bar ∈ restoredBars (event.apply stream p).runtime.log
  | _ => False

/-- The processes that events of a kind can lead to. -/
inductive Reached (stream : BarStream) (happens : ProcessEvent σ P → Process σ P → Prop) :
    Process σ P → Prop
  | created (strategyState : P) (s : σ) :
    Reached stream happens ⟨StrategyRuntime.new (strategyState, []) ⟨s, [], []⟩, false⟩
  | event {p : Process σ P} (event : ProcessEvent σ P) (h : Reached stream happens p)
      (hevent : happens event p) : Reached stream happens (event.apply stream p)

/-! ### The invariant -/

section Invariant

variable {stream : BarStream}

theorem acked_iff {log : List (HostEvent P)} {name messageId : String} :
    acked log name messageId = true ↔ .acked name messageId ∈ log := by
  unfold acked
  rw [List.any_eq_true]
  constructor
  · rintro ⟨event, hmem, hevent⟩
    split at hevent
    · simp only [Bool.and_eq_true, beq_iff_eq] at hevent
      obtain ⟨rfl, rfl⟩ := hevent
      exact hmem
    · exact absurd hevent (by decide)
  · intro hmem
    exact ⟨_, hmem, by simp⟩

def Settled (stream : BarStream) (log : List (HostEvent (P × List BarEvent)))
    (bars : List BarEvent) : Prop :=
  ∀ bar ∈ bars, ∀ messageId, stream.entry messageId = some bar →
    acked log stream.name messageId = true

variable {t : TracedRuntime σ P}

theorem Settled.extends {bars : List BarEvent} {q : HostEvent (P × List BarEvent) → Prop}
    (h : Settled stream s.log bars) (hlog : Extends log q s t) : Settled stream t.log bars := by
  obtain ⟨new, hlog, -⟩ := hlog
  intro bar hmem messageId hentry
  rw [acked_iff, hlog]
  exact List.mem_append_left _ (acked_iff.mp (h bar hmem messageId hentry))

variable {bars : Set (List BarEvent)}

/-- The newest snapshot is an old one or one of the new ones. -/
theorem restoredBars_of_extends (h : Extends log (Contains bars) s t) :
    restoredBars t.log = restoredBars s.log ∨ restoredBars t.log ∈ bars := by
  obtain ⟨new, hlog, hnew⟩ := h
  rw [restoredBars, restoredBars, latestSnapshot, latestSnapshot, hlog, List.filterMap_append,
    List.getLast?_append]
  cases hlast : (new.filterMap HostEvent.snapshot?).getLast? with
  | none => exact .inl rfl
  | some snapshot =>
    obtain ⟨event, hmem, hsnap⟩ := List.mem_filterMap.mp (List.mem_of_getLast? hlast)
    exact .inr (hnew event hmem snapshot hsnap)

/-- No bar was fed twice to a state that contained it, and the bars that the process and the
newest snapshot contain were acknowledged. -/
structure Sound (stream : BarStream) (p : Process σ P) : Prop where
  refed : p.runtime.strategy.refed = []
  persisted : p.running = true → p.runtime.state.strategyState.2 = p.runtime.strategy.fed
  settled : p.running = true → Settled stream p.runtime.log p.runtime.strategy.fed
  restored : Settled stream p.runtime.log (restoredBars p.runtime.log)

variable {p : Process σ P}

/-- Of a process that has ended only the newest snapshot remains. -/
theorem Sound.of_ended (hended : p.running = false) (hrefed : p.runtime.strategy.refed = [])
    (hrestored : Settled stream p.runtime.log (restoredBars p.runtime.log)) : Sound stream p := by
  refine ⟨hrefed, fun hrun => ?_, fun hrun => ?_, hrestored⟩ <;>
    exact absurd (hended.symm.trans hrun) (by decide)

variable {m : RuntimeM (Traced σ) (P × List BarEvent) Unit}

/-- What a process does is what the computation does. -/
theorem after_cases {Q R : TracedRuntime σ P → Prop}
    (h : wp m env.traced p.runtime (fun _ => Q) fun _ => R) :
    ((p.after env m).running = true ∧ Q (p.after env m).runtime) ∨
    ((p.after env m).running = false ∧ R (p.after env m).runtime) := by
  unfold wp at h
  unfold Process.after
  generalize m.run env.traced p.runtime = out at *
  rcases out with ⟨_ | _, rt⟩
  · exact .inr ⟨rfl, h⟩
  · exact .inl ⟨rfl, h⟩

theorem Sound.reflects (h : Sound stream p) (hrunning : p.running = true) :
    Reflects {p.runtime.strategy.fed} [] p.runtime.state.lastProcessedBarTs p.runtime :=
  ⟨h.persisted hrunning, rfl, h.refed, rfl⟩

/-- The newest snapshot stays settled while only settled bars are written. -/
theorem Sound.restored_of_extends (h : Sound stream p)
    (hlog : Extends log (Contains bars) p.runtime t)
    (hbars : ∀ fed ∈ bars, Settled stream t.log fed) : Settled stream t.log (restoredBars t.log) := by
  rcases restoredBars_of_extends hlog with heq | hmem
  · rw [heq]
    exact h.restored.extends hlog
  · exact hbars _ hmem

theorem Sound.after_keeps (h : Sound stream p) (hrunning : p.running = true)
    (hm : ∀ fed marks, wp m env.traced p.runtime (fun _ t => Keeps {fed} [] marks p.runtime t)
      fun _ t => Keeps {fed} [] marks p.runtime t) : Sound stream (p.after env m) := by
  have hstep : ∀ t, Keeps {p.runtime.strategy.fed} [] p.runtime.state.lastProcessedBarTs p.runtime t →
      ∀ running, Sound stream ⟨t, running⟩ := by
    intro t ht running
    obtain ⟨ht, hlog⟩ := ht (h.reflects hrunning)
    have hfed : t.strategy.fed = p.runtime.strategy.fed := ht.fed
    have hsettled := (h.settled hrunning).extends hlog
    refine ⟨ht.refed, fun _ => ht.persisted, fun _ => hfed ▸ hsettled, ?_⟩
    refine h.restored_of_extends (hlog.mono fun _ => Carries.contains) ?_
    rintro _ rfl
    exact hsettled
  have hwp := wp_mono (hm _ _) (fun _ t ht => hstep t ht true) fun _ t ht => hstep t ht false
  rcases after_cases hwp with ⟨hrun, hsound⟩ | ⟨hrun, hsound⟩ <;> rwa [← hrun] at hsound

/-- A started process contains what the newest snapshot contains, or nothing. -/
theorem Sound.start (h : Sound stream p) (env : Env σ P) (strategyState : P) (s : σ) :
    Sound stream ((ProcessEvent.start env strategyState s).apply stream p) := by
  have hcreated : Reflects {[]} [] ∅ (createdRuntime strategyState s p.runtime) :=
    ⟨rfl, rfl, rfl, rfl⟩
  have hbars : ∀ fed ∈ ({[], restoredBars p.runtime.log} : Set (List BarEvent)),
      Settled stream p.runtime.log fed := by
    rintro _ (rfl | rfl)
    · exact fun bar hmem => absurd hmem List.not_mem_nil
    · exact h.restored
  have hrestored : ∀ (t : TracedRuntime σ P),
      ∀ fed ∈ ({[], restoredBars p.runtime.log} : Set (List BarEvent)),
      Extends log (Contains {fed}) (createdRuntime strategyState s p.runtime) t →
      Settled stream t.log fed ∧ Settled stream t.log (restoredBars t.log) := by
    intro t fed hfed hlog
    have hlog : Extends log (Contains {fed}) p.runtime t := hlog
    have hsettled := (hbars fed hfed).extends hlog
    refine ⟨hsettled, h.restored_of_extends hlog ?_⟩
    rintro _ rfl
    exact hsettled
  have hcases := after_cases (p := ⟨createdRuntime strategyState s p.runtime, true⟩)
    (wp_startUp hcreated : wp startUp env.traced _ _ _)
  rcases hcases with ⟨hrun, fed, hfed, ⟨marks, ht⟩, hlog⟩ | ⟨hrun, hrefed, fed, hfed, hlog⟩
  · obtain ⟨hsettled, hnewest⟩ := hrestored _ fed hfed hlog
    have heq : _ = fed := ht.fed
    exact ⟨ht.refed, fun _ => ht.persisted, fun _ => heq ▸ hsettled, hnewest⟩
  · exact .of_ended hrun hrefed (hrestored _ fed hfed hlog).2

/-- A pending bar keeps the process sound, unless it is cut off. -/
theorem Sound.bar (h : Sound stream p) (hrunning : p.running = true) {messageId : String}
    {bar : BarEvent} (hentry : stream.entry messageId = some bar)
    (hpending : acked p.runtime.log stream.name messageId = false)
    (huncut : (p.after env (handleBar stream.name messageId bar)).running = false →
      acked (p.after env (handleBar stream.name messageId bar)).runtime.log stream.name messageId
        = true ∨
      bar ∉ restoredBars (p.after env (handleBar stream.name messageId bar)).runtime.log) :
    Sound stream (p.after env (handleBar stream.name messageId bar)) := by
  set fed := p.runtime.strategy.fed with hfeddef
  set marks := p.runtime.state.lastProcessedBarTs with hmarksdef
  cases hdup : p.runtime.state.isDuplicateBar bar.symbol bar.closeTimeUtc with
  | true => exact h.after_keeps hrunning fun _ _ => keeps_handleBar_of_duplicate _ _ hdup
  | false =>
    -- the bar is new to the state, since its entry is pending
    have hnew : bar ∉ fed := by
      intro hmem
      rw [h.settled hrunning bar hmem messageId hentry] at hpending
      exact absurd hpending (by decide)
    have hrefed : refedAfter fed [] bar = [] := if_neg hnew
    have hreflects : Reflects {fed} [] marks p.runtime := h.reflects hrunning
    -- once the entry is acknowledged, both states that the bar may leave are settled
    have hsettled : ∀ t : TracedRuntime σ P,
        Extends log (Carries {fed, fed ++ [bar]} marks) p.runtime t →
        acked t.log stream.name messageId = true →
        ∀ fed' ∈ ({fed, fed ++ [bar]} : Set (List BarEvent)), Settled stream t.log fed' := by
      rintro t hlog hacked _ (rfl | rfl)
      · exact (h.settled hrunning).extends hlog
      · intro bar' hmem messageId' hentry'
        rcases List.mem_append.mp hmem with hmem | hmem
        · exact (h.settled hrunning).extends hlog bar' hmem messageId' hentry'
        · rw [List.mem_singleton.mp hmem] at hentry'
          rw [stream.distinct messageId' messageId bar hentry' hentry]
          exact hacked
    have hwp : wp (handleBar stream.name messageId bar) env.traced p.runtime _ _ :=
      wp_handleBar_of_fresh hreflects stream.name messageId hdup
    rcases after_cases hwp with ⟨hrun, ht, hlog, hmem⟩ | ⟨hrun, hrefed', hlog⟩
    · have hall := hsettled _ hlog (acked_iff.mpr hmem)
      rw [hrefed] at ht
      exact ⟨ht.refed, fun _ => ht.persisted, fun _ => hall _ ht.fed,
        h.restored_of_extends (hlog.mono fun _ => Carries.contains) hall⟩
    · have hnone : (p.after env (handleBar stream.name messageId bar)).runtime.strategy.refed = [] := by
        rw [hrefed, or_self] at hrefed'
        exact hrefed'
      refine .of_ended hrun hnone ?_
      rcases huncut hrun with hacked | hnotin
      · exact h.restored_of_extends (hlog.mono fun _ => Carries.contains) (hsettled _ hlog hacked)
      · rcases restoredBars_of_extends (hlog.mono fun _ => Carries.contains) with heq | heq | heq
        · rw [heq]
          exact h.restored.extends hlog
        · rw [heq]
          exact (h.settled hrunning).extends hlog
        · rw [heq] at hnotin
          exact absurd (List.mem_append_right _ (List.mem_singleton.mpr rfl)) hnotin

/-- Every event keeps the process sound, unless it cuts a bar off. -/
theorem Sound.apply (h : Sound stream p) (event : ProcessEvent σ P)
    (huncut : ¬ event.CutsOff stream p) : Sound stream (event.apply stream p) := by
  cases event with
  | stop => exact .of_ended rfl h.refed h.restored
  | start env strategyState s => exact h.start env strategyState s
  | broker env name messageId sent =>
    unfold ProcessEvent.apply
    dsimp only
    split
    · next hrunning => exact h.after_keeps hrunning fun _ _ => keeps_observes.within_brokerEvent name messageId sent _
    · exact h
  | timer env =>
    unfold ProcessEvent.apply
    dsimp only
    split
    · next hrunning => exact h.after_keeps hrunning fun _ _ => keeps_observes.within_pollTimer _
    · exact h
  | bar env messageId =>
    unfold ProcessEvent.CutsOff ProcessEvent.apply at huncut
    unfold ProcessEvent.apply
    dsimp only at huncut ⊢
    cases hentry : stream.entry messageId with
    | none => exact h
    | some bar =>
      rw [hentry] at huncut
      dsimp only at huncut ⊢
      split
      · next hpending =>
        rw [if_pos hpending] at huncut
        rw [Bool.and_eq_true, Bool.not_eq_true'] at hpending
        obtain ⟨hrunning, hpending⟩ := hpending
        refine h.bar hrunning hentry hpending fun hdead => ?_
        by_contra hcut
        rw [not_or, not_not, Bool.not_eq_true] at hcut
        exact huncut ⟨hrunning, hdead, bar, rfl, hcut.1, hcut.2⟩
      · exact h

/-- As long as no process ends between the first snapshot that contains a bar and the
acknowledgment of that bar, no state is fed a bar that it contains, however often the bars are
delivered and wherever else the processes end. -/
theorem refed_eq_nil_of_uncut {p : Process σ P}
    (h : Reached stream (fun event p => ¬ event.CutsOff stream p) p) :
    p.runtime.strategy.refed = [] := by
  have hsound : Sound stream p := by
    induction h with
    | created strategyState s =>
      exact .of_ended rfl rfl fun bar hmem => absurd hmem List.not_mem_nil
    | event event _ huncut ih => exact ih.apply event huncut
  exact hsound.refed

end Invariant

/-! ### An end between the snapshot and the acknowledgment -/

def eveningBar : BarEvent := ⟨"IMOEXF", 1700049600, 100, 100, 101, 99, 7, .live⟩

def oneBarStream : BarStream where
  name := "bars"
  entry messageId := if messageId = "1-0" then some eveningBar else none
  distinct messageId messageId' bar h h' := by
    split at h
    · next hid =>
      split at h'
      · next hid' => rw [hid, hid']
      · cases h'
    · cases h

def steadyEnv : Env Unit Unit := calmEnv liveConfig silentStrategy 1700049601000

def unackedEnv : Env Unit Unit :=
  { steadyEnv with delivery := fun tick => if tick = 8 then .refused else .done }

def startedProcess : Process Unit Unit :=
  (ProcessEvent.start steadyEnv () ()).apply oneBarStream
    ⟨StrategyRuntime.new ((), []) ⟨(), [], []⟩, false⟩

/-- A process that started again after the first bar was cut off. -/
def restartedProcess : Process Unit Unit :=
  (ProcessEvent.start steadyEnv () ()).apply oneBarStream
    ((ProcessEvent.bar unackedEnv "1-0").apply oneBarStream startedProcess)

/-- A bar that is handled to its acknowledgment is not cut off. -/
theorem refed_eq_nil_steady :
    ((ProcessEvent.bar steadyEnv "1-0").apply oneBarStream startedProcess).runtime.strategy.refed
      = [] := by
  have hcreated : Reached oneBarStream
      (fun event p => ¬ event.CutsOff oneBarStream p : ProcessEvent Unit Unit → _ → Prop) _ :=
    .created () ()
  refine refed_eq_nil_of_uncut (.event _ (.event _ hcreated ?_) ?_)
  · exact id
  · intro hcut
    have hended := hcut.2.1
    exact absurd hended (by decide)

/-- The restarted process is fed the bar that it contains. -/
theorem not_refed_eq_nil :
    ¬ ∀ p : Process Unit Unit, Reached oneBarStream (fun _ _ => True) p →
      p.runtime.strategy.refed = [] := by
  intro hclaim
  have hreached : Reached oneBarStream (fun _ _ => True)
      ((ProcessEvent.bar steadyEnv "1-0").apply oneBarStream restartedProcess) :=
    .event _ (.event _ (.event _ (.event _ (.created () ()) trivial) trivial) trivial) trivial
  have hrefed : ((ProcessEvent.bar steadyEnv "1-0").apply oneBarStream
      restartedProcess).runtime.strategy.refed = [eveningBar] := by decide
  rw [hclaim _ hreached] at hrefed
  cases hrefed

end StrategyRuntime

end AlorRs
