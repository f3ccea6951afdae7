import AlorRs.Gateway.Equiv.Backfill
import AlorRs.Gateway.Equiv.EmittedBars

/-!
# Final bars

The router takes a live bar for final when an update of a later period comes.  That is right as long
as the later one comes in the subscription in which the bar was updated last (`sent_final`); a bar
that is left in the buffer when the connection breaks, and that the next subscription does not bring
again, is published as it was (`partialBar_sent`).
-/

namespace AlorRs.Gateway

open Reaction

/-! ### The last update of a period -/

/-- The bar is the last update of its period so far in its subscription, and the subscription has
brought none of a later period. -/
def Latest (taken : List (ℕ × BarEvent)) (number : ℕ) (bar : BarEvent) : Prop :=
  ∃ before between, taken = before ++ (number, bar) :: between ∧
    (∀ other, (number, other) ∈ before → other.symbol = bar.symbol →
      other.closeTimeUtc ≤ bar.closeTimeUtc) ∧
    ∀ other, (number, other) ∈ between → other.symbol = bar.symbol →
      other.closeTimeUtc < bar.closeTimeUtc

/-- The bar is the last update of its period before the first one of a later period in the same
subscription. -/
def Final (updates : List (ℕ × BarEvent)) (bar : BarEvent) : Prop :=
  ∃ number later taken rest, updates = taken ++ (number, later) :: rest ∧
    Latest taken number bar ∧ later.symbol = bar.symbol ∧ bar.closeTimeUtc < later.closeTimeUtc

section Latest

variable {taken updates : List (ℕ × BarEvent)} {number : ℕ} {bar other : BarEvent}

theorem Latest.mem (h : Latest taken number bar) : (number, bar) ∈ taken := by
  obtain ⟨before, between, rfl, -⟩ := h
  exact List.mem_append_right _ List.mem_cons_self

theorem Latest.concat (h : Latest taken number bar) {number' : ℕ}
    (hold : number' = number → other.symbol = bar.symbol → other.closeTimeUtc < bar.closeTimeUtc) :
    Latest (taken ++ [(number', other)]) number bar := by
  obtain ⟨before, between, rfl, hbefore, hbetween⟩ := h
  refine ⟨before, between ++ [(number', other)], by simp, hbefore, fun update hmem hsymbol => ?_⟩
  rcases List.mem_append.mp hmem with hmem | hmem
  · exact hbetween update hmem hsymbol
  · obtain ⟨rfl, rfl⟩ := Prod.mk.inj (List.mem_singleton.mp hmem)
    exact hold rfl hsymbol

/-- An update comes of a period that is not older than those before. -/
theorem Latest.new
    (hold : ∀ other, (number, other) ∈ taken → other.symbol = bar.symbol →
      other.closeTimeUtc ≤ bar.closeTimeUtc) :
    Latest (taken ++ [(number, bar)]) number bar :=
  ⟨taken, [], rfl, hold, fun update hmem => by cases hmem⟩

theorem Final.append (h : Final updates bar) (new : List (ℕ × BarEvent)) :
    Final (updates ++ new) bar := by
  obtain ⟨number, later, taken, rest, rfl, hlatest, hlater⟩ := h
  exact ⟨number, later, taken, rest ++ new, by simp, hlatest, hlater⟩

theorem Final.exists_later (h : Final updates bar) :
    ∃ number later, (number, bar) ∈ updates ∧ (number, later) ∈ updates ∧
      later.symbol = bar.symbol ∧ bar.closeTimeUtc < later.closeTimeUtc := by
  obtain ⟨number, later, taken, rest, rfl, hlatest, hlater⟩ := h
  exact ⟨number, later, List.mem_append_left _ hlatest.mem,
    List.mem_append_right _ List.mem_cons_self, hlater⟩

end Latest

/-! ### The buffer of the router -/

/-- The buffer of the router holds the latest live update of each symbol. -/
structure Buffered (live : ℕ → BarEvent → Prop) (taken : List (ℕ × BarEvent))
    (buffers : AList fun _ : String => BarEvent) (bufferedIn : String → ℕ) : Prop where
  latest : ∀ symbol bar, buffers.lookup symbol = some bar →
    bar.symbol = symbol ∧ live (bufferedIn symbol) bar ∧ Latest taken (bufferedIn symbol) bar
  covers : ∀ number other, (number, other) ∈ taken → live number other →
    ∃ bar, buffers.lookup other.symbol = some bar ∧ other.closeTimeUtc ≤ bar.closeTimeUtc

section Buffered

variable {live : ℕ → BarEvent → Prop} {taken : List (ℕ × BarEvent)}
  {buffers : AList fun _ : String => BarEvent} {bufferedIn : String → ℕ} {number : ℕ}
  {bar : BarEvent}

theorem Buffered.skip (h : Buffered live taken buffers bufferedIn)
    (hcovered : live number bar → ∃ prev, buffers.lookup bar.symbol = some prev ∧
      bar.closeTimeUtc ≤ prev.closeTimeUtc)
    (hold : ∀ prev, buffers.lookup bar.symbol = some prev → number = bufferedIn bar.symbol →
      bar.closeTimeUtc < prev.closeTimeUtc) :
    Buffered live (taken ++ [(number, bar)]) buffers bufferedIn := by
  constructor
  · intro symbol prev hlookup
    obtain ⟨rfl, hlive, hlatest⟩ := h.latest symbol prev hlookup
    refine ⟨rfl, hlive, hlatest.concat fun hnumber hsymbol => ?_⟩
    rw [← hsymbol] at hlookup hnumber
    exact hold prev hlookup hnumber
  · intro number' other hmem hlive
    rcases List.mem_append.mp hmem with hmem | hmem
    · exact h.covers number' other hmem hlive
    · obtain ⟨rfl, rfl⟩ := Prod.mk.inj (List.mem_singleton.mp hmem)
      exact hcovered hlive

/-- A live update that takes the place of an older one. -/
theorem Buffered.put (h : Buffered live taken buffers bufferedIn)
    (hends : ∀ other, live number bar → ¬live number other → other.closeTimeUtc < bar.closeTimeUtc)
    (hlive : live number bar)
    (hold : ∀ prev, buffers.lookup bar.symbol = some prev → prev.closeTimeUtc ≤ bar.closeTimeUtc) :
    Buffered live (taken ++ [(number, bar)]) (buffers.insert bar.symbol bar)
      (Function.update bufferedIn bar.symbol number) := by
  constructor
  · intro symbol other hlookup
    by_cases hsymbol : symbol = bar.symbol
    · subst hsymbol
      rw [AList.lookup_insert] at hlookup
      cases hlookup
      rw [Function.update_self]
      refine ⟨rfl, hlive, .new fun other hmem hsymbol => ?_⟩
      -- the bar that was there closes no later, and history closes before what is live
      by_cases hother : live number other
      · obtain ⟨prev, hprev, hle⟩ := h.covers number other hmem hother
        rw [hsymbol] at hprev
        exact hle.trans (hold prev hprev)
      · exact (hends other hlive hother).le
    · rw [AList.lookup_insert_ne hsymbol] at hlookup
      rw [Function.update_of_ne hsymbol]
      obtain ⟨rfl, hother, hlatest⟩ := h.latest symbol other hlookup
      exact ⟨rfl, hother, hlatest.concat fun _ hsame => absurd hsame.symm hsymbol⟩
  · intro number' other hmem hother
    by_cases hsymbol : other.symbol = bar.symbol
    · refine ⟨bar, by rw [hsymbol, AList.lookup_insert], ?_⟩
      -- the newest one of the symbol covers the older ones
      rcases List.mem_append.mp hmem with hmem | hmem
      · obtain ⟨prev, hprev, hle⟩ := h.covers number' other hmem hother
        rw [hsymbol] at hprev
        exact hle.trans (hold prev hprev)
      · obtain ⟨rfl, rfl⟩ := Prod.mk.inj (List.mem_singleton.mp hmem)
        exact le_rfl
    · rcases List.mem_append.mp hmem with hmem | hmem
      · obtain ⟨prev, hprev, hle⟩ := h.covers number' other hmem hother
        exact ⟨prev, by rw [AList.lookup_insert_ne hsymbol, hprev], hle⟩
      · obtain ⟨rfl, rfl⟩ := Prod.mk.inj (List.mem_singleton.mp hmem)
        exact absurd rfl hsymbol

end Buffered

/-- A live bar is later than the one in the buffer, which was updated last in another
subscription. -/
def crossesBar (number : ℕ) (state : RouterState) (bufferedIn : String → ℕ) (bar : BarEvent) : Bool :=
  decide (bar.origin = .live) && decide (bufferedIn bar.symbol ≠ number) &&
    (state.liveBuffers.lookup bar.symbol).any fun prev => decide (prev.closeTimeUtc < bar.closeTimeUtc)

def crosses (number : ℕ) : RouterState → (String → ℕ) → List BarEvent → Bool
  | _, _, [] => false
  | state, bufferedIn, bar :: bars =>
    crossesBar number state bufferedIn bar ||
      crosses number (routeBar state bar).1 (bufferedAfter number state bufferedIn bar) bars

section Routing

variable {live : ℕ → BarEvent → Prop} {taken : List (ℕ × BarEvent)} {state : RouterState}
  {bufferedIn : String → ℕ} {number : ℕ} {update bar : BarEvent}

theorem buffered_routeBar (h : Buffered live taken state.liveBuffers bufferedIn)
    (hbuffers : Feed.BuffersLive state)
    (hends : ∀ other, live number update → ¬live number other →
      other.closeTimeUtc < update.closeTimeUtc)
    (hstarts : ∀ other, live number other → ¬live number update →
      update.closeTimeUtc < other.closeTimeUtc)
    (hlive : live number update → bar = update ∧ bar.origin = .live)
    (hhistory : ¬live number update → bar.origin ≠ .live ∧ bar.symbol = update.symbol)
    (hcross : crossesBar number state bufferedIn bar = false) :
    Buffered live (taken ++ [(number, update)]) (routeBar state bar).1.liveBuffers
        (bufferedAfter number state bufferedIn bar) ∧
      ∀ sent ∈ routedBars (routeBar state bar).2, sent.origin = .live →
        Final (taken ++ [(number, update)]) sent := by
  by_cases hupdate : live number update
  · obtain ⟨rfl, horigin⟩ := hlive hupdate
    -- the buffer takes the update unless it holds a later one
    have hput (hroute : (routeBar state bar).1 =
          { state with liveBuffers := state.liveBuffers.insert bar.symbol bar })
        (hold : ∀ prev, state.liveBuffers.lookup bar.symbol = some prev →
          prev.closeTimeUtc ≤ bar.closeTimeUtc) :
        Buffered live (taken ++ [(number, bar)]) (routeBar state bar).1.liveBuffers
          (bufferedAfter number state bufferedIn bar) := by
      unfold bufferedAfter
      rw [hroute]
      rw [AList.lookup_insert, if_pos rfl]
      exact h.put hends hupdate hold
    -- the first live bar of a symbol is only buffered
    cases hlookup : state.liveBuffers.lookup bar.symbol with
    | none =>
      have hroute : routeBar state bar =
          ({ state with liveBuffers := state.liveBuffers.insert bar.symbol bar }, []) := by
        simp [routeBar, horigin, hlookup]
      refine ⟨hput (congrArg Prod.fst hroute) fun prev hprev => ?_, fun sent hmem => ?_⟩
      · rw [hlookup] at hprev
        cases hprev
      · rw [hroute] at hmem
        cases hmem
    | some prev =>
      rcases lt_trichotomy prev.closeTimeUtc bar.closeTimeUtc with hlater | hsame | hearlier
      -- a later bar takes the place of the buffered one, which is sent
      · have hroute : routeBar state bar =
            ({ state with liveBuffers := state.liveBuffers.insert bar.symbol bar }, [.bar prev]) := by
          simp [routeBar, horigin, hlookup, hlater.ne', hlater]
        refine ⟨hput (congrArg Prod.fst hroute) fun other hother => ?_, fun sent hmem _ => ?_⟩
        · rw [hlookup] at hother
          cases hother
          exact hlater.le
        · rw [hroute] at hmem
          have hsent : sent = prev := List.mem_singleton.mp hmem
          subst hsent
          -- what is sent was buffered under the same subscription
          have hnumber : bufferedIn bar.symbol = number := by
            simpa [crossesBar, horigin, hlookup, hlater] using hcross
          obtain ⟨hsymbol, -, hlatest⟩ := h.latest bar.symbol sent hlookup
          rw [hnumber] at hlatest
          exact ⟨number, bar, taken, [], rfl, hlatest, hsymbol.symm, hlater⟩
      -- an update of the buffered bar
      · have hroute : routeBar state bar =
            ({ state with liveBuffers := state.liveBuffers.insert bar.symbol bar }, []) := by
          simp [routeBar, horigin, hlookup, hsame]
        refine ⟨hput (congrArg Prod.fst hroute) fun other hother => ?_, fun sent hmem => ?_⟩
        · rw [hlookup] at hother
          cases hother
          exact hsame.le
        · rw [hroute] at hmem
          cases hmem
      -- a bar that is older than the buffered one is dropped
      · have hroute : routeBar state bar = (state, []) := by
          simp [routeBar, horigin, hlookup, hearlier.ne, hearlier.le]
        refine ⟨?_, fun sent hmem => ?_⟩
        · have hkept : bufferedAfter number state bufferedIn bar = bufferedIn := by
            unfold bufferedAfter
            rw [hroute]
            rw [hlookup, if_neg]
            rintro hprev
            cases hprev
            exact hearlier.false
          rw [hkept, hroute]
          refine h.skip (fun _ => ⟨prev, hlookup, hearlier.le⟩) fun other hother _ => ?_
          rw [hlookup] at hother
          cases hother
          exact hearlier
        · rw [hroute] at hmem
          cases hmem
  -- history is sent at once, and not buffered
  · obtain ⟨horigin, hsymbol⟩ := hhistory hupdate
    have hroute : routeBar state bar = (state, [.bar bar]) := by
      unfold routeBar
      split
      · rfl
      · rfl
      · rename_i hlive
        exact absurd hlive horigin
    refine ⟨?_, fun sent hmem hsent => ?_⟩
    · have hkept : bufferedAfter number state bufferedIn bar = bufferedIn := by
        unfold bufferedAfter
        rw [hroute]
        rw [if_neg fun hlookup => horigin (hbuffers _ _ hlookup)]
      rw [hkept, hroute]
      refine h.skip (fun hlive => absurd hlive hupdate) fun prev hprev hnumber => ?_
      refine hstarts prev ?_ hupdate
      rw [hnumber]
      exact (h.latest _ _ hprev).2.1
    · rw [hroute] at hmem
      rw [List.mem_singleton.mp hmem] at hsent
      exact absurd hsent horigin

/-- A message of a subscription: the router buffers and sends as it has to, bar by bar. -/
theorem buffered_routeBars {label : BarEvent → BarEvent} (updates : List BarEvent)
    (h : Buffered live taken state.liveBuffers bufferedIn) (hbuffers : Feed.BuffersLive state)
    (hends : ∀ update other, live number update → ¬live number other →
      other.closeTimeUtc < update.closeTimeUtc)
    (hlive : ∀ update ∈ updates, live number update →
      label update = update ∧ (label update).origin = .live)
    (hhistory : ∀ update ∈ updates, ¬live number update →
      (label update).origin ≠ .live ∧ (label update).symbol = update.symbol)
    (hcross : crosses number state bufferedIn (updates.map label) = false) :
    Buffered live (taken ++ updates.map (number, ·))
        (routeBars state (updates.map label)).1.liveBuffers
        (buffering number state bufferedIn (updates.map label)) ∧
      ∀ sent ∈ routedBars (routeBars state (updates.map label)).2, sent.origin = .live →
        Final (taken ++ updates.map (number, ·)) sent := by
  induction updates generalizing taken state bufferedIn with
  | nil =>
    rw [List.map_nil, List.append_nil]
    exact ⟨h, fun sent hmem => by cases hmem⟩
  | cons update updates ih =>
    rw [List.map_cons, crosses, Bool.or_eq_false_iff] at hcross
    obtain ⟨hbar, hsent⟩ := buffered_routeBar h hbuffers (hends update)
      (fun other hother hupdate => hends other update hother hupdate)
      (hlive update List.mem_cons_self) (hhistory update List.mem_cons_self) hcross.1
    obtain ⟨hbars, hrest⟩ := ih hbar (Feed.routeBar_history hbuffers _).1
      (fun other hmem => hlive other (List.mem_cons_of_mem _ hmem))
      (fun other hmem => hhistory other (List.mem_cons_of_mem _ hmem)) hcross.2
    rw [List.map_cons, List.append_cons]
    refine ⟨hbars, fun sent hmem horigin => ?_⟩
    -- a later bar of the message takes nothing back
    rw [List.map_cons, routeBars, routedBars_append] at hmem
    rcases List.mem_append.mp hmem with hmem | hmem
    · exact (hsent sent hmem horigin).append _
    · exact hrest sent hmem horigin

end Routing

/-! ### Runs -/

namespace Feed

variable {text : RouterText} {config : SupervisorConfig} {feed : Feed}

def updatesIn (text : RouterText) (messages : List (ℕ × Json)) : List (ℕ × BarEvent) :=
  messages.flatMap fun message => (updatesOf text message.2).map (message.1, ·)

def LiveIn (tfSec : ℤ) (announced : List (ℤ × DataOrigin)) (number : ℕ) (bar : BarEvent) : Prop :=
  labelOf (heed tfSec (subscription announced number)).1
    (heed tfSec (subscription announced number)).2 bar.closeTimeUtc = .live

/-- The router publishes a bar of its buffer on a later one of another subscription. -/
def PublishesStale (text : RouterText) (feed : Feed) (step : Supervisor.Step) : Prop :=
  ∃ now number value queued, step = .routeRaw now ∧ feed.queued = (number, value) :: queued ∧
    crosses number feed.supervisor.router feed.bufferedIn
      ((updatesOf text value).map
        (labelled feed.supervisor.router.liveCutoffTs feed.supervisor.router.historyOrigin)) = true

def Underway (supervisor : Supervisor) (bar : BarEvent) : Prop :=
  bar ∈ supervisor.bars ∨ (∃ check, supervisor.checking = some check ∧ bar = check.bar) ∨
    bar ∈ pendingBars supervisor.pendingLiveUpdates

variable {announced : List (ℤ × DataOrigin)} {bar : BarEvent}

/-- A subscription's history ends before its live bars begin. -/
theorem LiveIn.lt_of_not {tfSec : ℤ} {number : ℕ} {other : BarEvent}
    (h : LiveIn tfSec announced number bar) (hother : ¬LiveIn tfSec announced number other) :
    other.closeTimeUtc < bar.closeTimeUtc := by
  unfold LiveIn at h hother
  generalize heed tfSec (subscription announced number) = heeded at h hother
  obtain ⟨liveCutoffTs, historyOrigin⟩ := heeded
  unfold labelOf at h hother
  cases liveCutoffTs with
  | none => exact absurd rfl hother
  | some cutoff =>
    dsimp only at h hother
    split_ifs at h hother with hbar hle hle
    · exact absurd h hother
    · exact absurd rfl hother
    · exact lt_of_le_of_lt hle (not_le.mp hbar)
    · exact absurd rfl hother

/-! ### The bars underway -/

theorem mem_pendingBars {pending : AList fun _ : String => List BarEvent} :
    bar ∈ pendingBars pending ↔ ∃ symbol bars, pending.lookup symbol = some bars ∧ bar ∈ bars := by
  unfold pendingBars
  rw [List.mem_flatMap]
  constructor
  · rintro ⟨⟨symbol, bars⟩, hentry, hmem⟩
    rw [List.mem_mergeSort] at hentry hmem
    exact ⟨symbol, bars, AList.mem_lookup_iff.mpr hentry, hmem⟩
  · rintro ⟨symbol, bars, hlookup, hmem⟩
    refine ⟨⟨symbol, bars⟩, ?_, ?_⟩
    · rw [List.mem_mergeSort]
      exact AList.mem_lookup_iff.mp hlookup
    · rw [List.mem_mergeSort]
      exact hmem

variable {supervisor : Supervisor}

theorem underway_of_barsUnderway {supervisor' : Supervisor}
    (h : supervisor'.barsUnderway = supervisor.barsUnderway) (hbar : Underway supervisor' bar) :
    Underway supervisor bar := by
  simp only [Supervisor.barsUnderway, Prod.mk.injEq] at h
  obtain ⟨-, hbars, hchecking, hpending, -⟩ := h
  unfold Underway at hbar
  rw [hbars, hchecking, hpending] at hbar
  exact hbar

theorem underway_deliver {outputs : List RouterOutput}
    (h : Underway (outputs.foldl Supervisor.deliver supervisor) bar) :
    Underway supervisor bar ∨ bar ∈ routedBars outputs := by
  induction outputs generalizing supervisor with
  | nil => exact .inl h
  | cons output outputs ih =>
    have hcons : routedBars (output :: outputs) = routedBars [output] ++ routedBars outputs :=
      routedBars_append [output] outputs
    rw [hcons, List.mem_append]
    rcases ih h with hbefore | hmem
    · cases output with
      | bar sent =>
        rcases hbefore with hmem | hbefore
        · rcases List.mem_append.mp hmem with hmem | hmem
          · exact .inl (.inl hmem)
          · exact .inr (.inl hmem)
        · exact .inl (.inr hbefore)
      | _ => exact .inl hbefore
    · exact .inr (.inr hmem)

theorem underway_checkBar {next : BarEvent} {bars : List BarEvent}
    (hbars : supervisor.bars = next :: bars)
    (h : Underway ({ supervisor with bars := bars }.checkBar config next) bar) :
    Underway supervisor bar := by
  have hnext : Underway supervisor next := .inl (by rw [hbars]; exact List.mem_cons_self)
  have hrest (hmem : bar ∈ bars) : Underway supervisor bar :=
    .inl (by rw [hbars]; exact List.mem_cons_of_mem _ hmem)
  have hpending {symbol : String} {kept : List BarEvent}
      (hkept : (supervisor.pendingLiveUpdates.insert next.symbol
        ((supervisor.pendingLiveUpdates.lookup next.symbol).getD [] ++ [next])).lookup symbol =
          some kept)
      (hmem : bar ∈ kept) : Underway supervisor bar := by
    -- the bars of its symbol that were kept back before, and the bar itself
    by_cases hsymbol : symbol = next.symbol
    · rw [hsymbol, AList.lookup_insert] at hkept
      obtain rfl := Option.some.inj hkept
      rcases List.mem_append.mp hmem with hmem | hmem
      · cases hold : supervisor.pendingLiveUpdates.lookup next.symbol with
        | none =>
          rw [hold] at hmem
          cases hmem
        | some old =>
          rw [hold] at hmem
          exact .inr (.inr (mem_pendingBars.mpr ⟨_, old, hold, hmem⟩))
      · rw [List.mem_singleton.mp hmem]
        exact hnext
    · rw [AList.lookup_insert_ne hsymbol] at hkept
      exact .inr (.inr (mem_pendingBars.mpr ⟨_, kept, hkept, hmem⟩))
  have hcheck {check : BarCheck} {buffered liveReady : Bool}
      (hsome : some (BarCheck.mk next buffered liveReady) = some check) (heq : bar = check.bar) :
      Underway supervisor bar := by
    cases hsome
    rw [heq]
    exact hnext
  -- in each branch the bars, the check or the bars kept back can hold the bar
  unfold Supervisor.checkBar at h
  dsimp only at h
  split_ifs at h
  all_goals
    rcases h with hmem | ⟨check, hsome, heq⟩ | hmem
    · exact hrest hmem
    · exact hcheck hsome heq
    · obtain ⟨symbol, kept, hkept, hmem⟩ := mem_pendingBars.mp hmem
      first
        | exact hpending hkept hmem
        | exact .inr (.inr (mem_pendingBars.mpr ⟨symbol, kept, hkept, hmem⟩))

theorem underway_finishBar {now : ℤ} {sent : Bool} {check : BarCheck}
    (h : Underway (supervisor.finishBar config now sent check) bar) : Underway supervisor bar := by
  have hframe : (supervisor.finishBar config now sent check).bars = supervisor.bars ∧
      (supervisor.finishBar config now sent check).checking = none ∧
      ((supervisor.finishBar config now sent check).pendingLiveUpdates =
          supervisor.pendingLiveUpdates ∨
        (supervisor.finishBar config now sent check).pendingLiveUpdates = ∅) := by
    unfold Supervisor.finishBar Supervisor.becomeLiveReady Supervisor.transitionPhase
    dsimp only
    split_ifs
    all_goals first
      | exact ⟨rfl, rfl, .inl rfl⟩
      | exact ⟨rfl, rfl, .inr rfl⟩
  obtain ⟨hbars, hchecking, hpending⟩ := hframe
  rcases h with hmem | ⟨check, hsome, -⟩ | hmem
  · rw [hbars] at hmem
    exact .inl hmem
  · rw [hchecking] at hsome
    cases hsome
  · rcases hpending with hpending | hpending
    · rw [hpending] at hmem
      exact .inr (.inr hmem)
    · rw [hpending] at hmem
      obtain ⟨symbol, kept, hkept, -⟩ := mem_pendingBars.mp hmem
      cases hkept

variable {step : Supervisor.Step}

theorem underway_stepped (h : Supervisor.Stepped text config feed.supervisor step supervisor)
    (hbar : Underway supervisor bar) : Underway feed.supervisor bar ∨ bar ∈ feed.routed text step := by
  cases h with
  | @wsEvent now event wsEvents hevents =>
    have hsame := Supervisor.barsUnderway_handleWsEvent config
      { feed.supervisor with wsEvents := wsEvents } now event
    exact .inl (underway_of_barsUnderway hsame hbar)
  | routeRaw hraw =>
    rcases underway_deliver hbar with hbefore | hmem
    · exact .inl hbefore
    · refine .inr ?_
      unfold routed
      rw [hraw]
      exact hmem
  | checkBar hchecking hbars => exact .inl (underway_checkBar hbars hbar)
  | finishBar hchecking => exact .inl (underway_finishBar hbar)
  | silence hphase =>
    exact .inl (underway_of_barsUnderway (Supervisor.barsUnderway_resubscribe ..) hbar)
  | _ => exact .inl hbar

theorem underway_of_sent {entry : ℤ × BarEvent}
    (h : entry ∈ (Supervisor.actSending text config supervisor step).2) :
    Underway supervisor entry.2 := by
  cases step with
  | finishBar now sent =>
    have hlist : (Supervisor.actSending text config supervisor (.finishBar now sent)).2 =
        ((supervisor.checking.map (supervisor.sentBars config now sent)).getD []).map (now, ·) := rfl
    obtain ⟨bar, hbar, rfl⟩ := List.mem_map.mp h
    cases hchecking : supervisor.checking with
    | none =>
      rw [hchecking] at hbar
      cases hbar
    | some check =>
      rw [hchecking] at hbar
      rcases List.mem_append.mp hbar with hmem | hmem
      · split_ifs at hmem
        · exact .inr (.inl ⟨check, hchecking, List.mem_singleton.mp hmem⟩)
        · cases hmem
      · split_ifs at hmem
        · exact .inr (.inr (Supervisor.mem_of_mem_emitBars hmem))
        · cases hmem
  | _ => cases h

/-! ### Runs -/

/-- The router has taken all updates but those of the messages that wait, its buffer holds the latest
of them, and the live bars underway are final. -/
structure Finalizes (text : RouterText) (config : SupervisorConfig) (feed : Feed) : Prop where
  sound : Sound config feed
  buffers : BuffersLive feed.supervisor.router
  buffered : ∃ taken, updatesIn text feed.messages = taken ++ updatesIn text feed.queued ∧
    Buffered (LiveIn config.tfSec feed.announced) taken feed.supervisor.router.liveBuffers
      feed.bufferedIn
  underway : ∀ bar, Underway feed.supervisor bar → bar.origin = .live →
    Final (updatesIn text feed.messages) bar

theorem finalizes_start : Finalizes text config (start config) where
  sound := sound_start
  buffers := fun symbol bar hlookup => by cases hlookup
  buffered := by
    refine ⟨[], rfl, ?_⟩
    constructor
    · intro symbol bar hlookup
      cases hlookup
    · intro number other hmem
      cases hmem
  underway := by
    rintro bar (hmem | ⟨check, hsome, -⟩ | hmem)
    · cases hmem
    · cases hsome
    · obtain ⟨symbol, kept, hkept, -⟩ := mem_pendingBars.mp hmem
      cases hkept

/-- The updates in the buffer are live in the same way when another subscription is announced. -/
theorem buffered_announce {taken : List (ℕ × BarEvent)} {buffers : AList fun _ : String => BarEvent}
    {bufferedIn : String → ℕ} {tfSec : ℤ}
    (h : Buffered (LiveIn tfSec announced) taken buffers bufferedIn)
    (hnumbers : ∀ update ∈ taken, update.1 ≤ announced.length) (new : List (ℤ × DataOrigin)) :
    Buffered (LiveIn tfSec (announced ++ new)) taken buffers bufferedIn := by
  have hsame {number : ℕ} {bar : BarEvent} (hmem : (number, bar) ∈ taken) :
      LiveIn tfSec (announced ++ new) number bar ↔ LiveIn tfSec announced number bar := by
    unfold LiveIn
    rw [subscription_append (hnumbers _ hmem)]
  constructor
  · intro symbol bar hlookup
    obtain ⟨hsymbol, hlive, hlatest⟩ := h.latest symbol bar hlookup
    exact ⟨hsymbol, (hsame hlatest.mem).mpr hlive, hlatest⟩
  · intro number other hmem hlive
    exact h.covers number other hmem ((hsame hmem).mp hlive)

theorem updatesIn_append (messages messages' : List (ℕ × Json)) :
    updatesIn text (messages ++ messages') = updatesIn text messages ++ updatesIn text messages' :=
  List.flatMap_append

theorem number_of_mem_updatesIn {messages : List (ℕ × Json)} {count : ℕ} {update : ℕ × BarEvent}
    (h : ∀ message ∈ messages, message.1 ≤ count) (hmem : update ∈ updatesIn text messages) :
    update.1 ≤ count := by
  obtain ⟨message, hmessage, hmem⟩ := List.mem_flatMap.mp hmem
  obtain ⟨bar, -, rfl⟩ := List.mem_map.mp hmem
  exact h message hmessage

theorem Finalizes.goesOn (h : Finalizes text config feed)
    (hsound : Sound config { feed with supervisor := supervisor })
    (hrouter : supervisor.router = feed.supervisor.router)
    (hunderway : ∀ bar, Underway supervisor bar → Underway feed.supervisor bar) :
    Finalizes text config { feed with supervisor := supervisor } where
  sound := hsound
  buffers := by
    show BuffersLive supervisor.router
    rw [hrouter]
    exact h.buffers
  buffered := by
    show ∃ taken, _ ∧ Buffered _ taken supervisor.router.liveBuffers feed.bufferedIn
    rw [hrouter]
    exact h.buffered
  underway := fun bar hbar => h.underway bar (hunderway bar hbar)

theorem Finalizes.hear {event : WsEvent} (h : Finalizes text config feed)
    (hsound : Sound config { feed.hear event with supervisor := supervisor })
    (hrouter : supervisor.router = feed.supervisor.router)
    (hunderway : ∀ bar, Underway supervisor bar → Underway feed.supervisor bar)
    (hdrops : ∀ value generation, event = .raw value generation → updatesOf text value ≠ [] →
      feed.supervisor.raw.length < Supervisor.rawCapacity) :
    Finalizes text config { feed.hear event with supervisor := supervisor } := by
  obtain ⟨taken, htaken, hbuffered⟩ := h.buffered
  cases event with
  | subscribed wallclockTs historyOrigin generation =>
    refine ⟨hsound, ?_, ⟨taken, htaken, ?_⟩, fun bar hbar => h.underway bar (hunderway bar hbar)⟩
    · show BuffersLive supervisor.router
      rw [hrouter]
      exact h.buffers
    · show Buffered (LiveIn config.tfSec (feed.announced ++ [(wallclockTs, historyOrigin)])) taken
        supervisor.router.liveBuffers feed.bufferedIn
      rw [hrouter]
      -- the announcement changes nothing for updates of older subscriptions
      refine buffered_announce hbuffered (fun update hmem => ?_) _
      have hupdate : update ∈ updatesIn text feed.messages := by
        rw [htaken]
        exact List.mem_append_left _ hmem
      exact number_of_mem_updatesIn h.sound.numbers hupdate
  | raw value generation =>
    have hmessages : updatesIn text (feed.messages ++ [(feed.announced.length, value)]) =
        taken ++ updatesIn text
          (if feed.supervisor.raw.length < Supervisor.rawCapacity then
            feed.queued ++ [(feed.announced.length, value)]
          else feed.queued) := by
      rw [updatesIn_append, htaken]
      split_ifs with hroom
      · rw [updatesIn_append, List.append_assoc]
      -- a message that finds no room has no updates
      · have hnone : updatesOf text value = [] := by
          by_contra hsome
          exact hroom (hdrops value generation rfl hsome)
        have hempty : updatesIn text [(feed.announced.length, value)] = [] := by
          rw [updatesIn, List.flatMap_singleton, hnone, List.map_nil]
        rw [hempty, List.append_nil]
    refine ⟨hsound, ?_, ⟨taken, hmessages, ?_⟩, fun bar hbar hlive => ?_⟩
    · show BuffersLive supervisor.router
      rw [hrouter]
      exact h.buffers
    · show Buffered _ taken supervisor.router.liveBuffers feed.bufferedIn
      rw [hrouter]
      exact hbuffered
    · show Final (updatesIn text (feed.messages ++ [(feed.announced.length, value)])) bar
      rw [updatesIn_append]
      exact (h.underway bar (hunderway bar hbar) hlive).append _
  | _ => exact h.goesOn hsound hrouter hunderway

theorem Finalizes.takeMessage {now : ℤ} {value : Json} {raw : List Json}
    (h : Finalizes text config feed)
    (hsound : Sound config { feed.follow text (.routeRaw now) with supervisor := supervisor })
    (hraw : feed.supervisor.raw = value :: raw)
    (hrouter : supervisor.router = (route text now feed.supervisor.router value).1)
    (hunderway : ∀ bar, Underway supervisor bar →
      Underway feed.supervisor bar ∨ bar ∈ feed.routed text (.routeRaw now))
    (hturn : ¬OutOfTurn text feed (.routeRaw now))
    (hstale : ¬PublishesStale text feed (.routeRaw now)) :
    Finalizes text config { feed.follow text (.routeRaw now) with supervisor := supervisor } := by
  obtain ⟨taken, htaken, hbuffered⟩ := h.buffered
  obtain ⟨number, queued, hmessages, -, hfollow⟩ := h.sound.follow_routeRaw hraw text now
  have hupdates : updatesIn text feed.messages =
      taken ++ (updatesOf text value).map (number, ·) ++ updatesIn text queued := by
    rw [htaken, hmessages, List.append_assoc]
    rfl
  -- the router labels the bars as their subscription says
  have hlabel (update : BarEvent) (hmem : update ∈ updatesOf text value) :
      LiveIn config.tfSec feed.announced number update ↔
        labelOf feed.supervisor.router.liveCutoffTs feed.supervisor.router.historyOrigin
          update.closeTimeUtc = .live := by
    have hheeded : feed.heeded = number := by
      by_contra hne
      exact hturn ⟨now, number, value, queued, rfl, hmessages, List.ne_nil_of_mem hmem, hne⟩
    have hrouter := h.sound.router
    rw [hheeded] at hrouter
    unfold LiveIn
    rw [← hrouter]
  -- the buffers hold no bar of another subscription that this one would send
  have hcross : crosses number feed.supervisor.router feed.bufferedIn
      ((updatesOf text value).map (labelled feed.supervisor.router.liveCutoffTs
        feed.supervisor.router.historyOrigin)) = false := by
    rw [← Bool.not_eq_true]
    exact fun hcrosses => hstale ⟨now, number, value, queued, rfl, hmessages, hcrosses⟩
  have hlive (update : BarEvent) (hmem : update ∈ updatesOf text value)
      (hlive : LiveIn config.tfSec feed.announced number update) :
      labelled feed.supervisor.router.liveCutoffTs feed.supervisor.router.historyOrigin update =
          update ∧
        (labelled feed.supervisor.router.liveCutoffTs feed.supervisor.router.historyOrigin
          update).origin = .live := by
    have horigin := (hlabel update hmem).mp hlive
    refine ⟨?_, horigin⟩
    unfold labelled
    rw [horigin, ← origin_of_mem_updatesOf hmem]
  obtain ⟨hnext, hfinal⟩ := buffered_routeBars (updatesOf text value) hbuffered h.buffers
    (fun update other hlive hother => hlive.lt_of_not hother) hlive
    (fun update hmem hnot => ⟨fun horigin => hnot ((hlabel update hmem).mpr horigin), rfl⟩) hcross
  rw [hfollow] at hsound ⊢
  refine ⟨hsound, ?_, ⟨_, hupdates, ?_⟩, fun bar hbar hlive => ?_⟩
  · show BuffersLive supervisor.router
    rw [hrouter, route_updates.1]
    exact (routeBars_history h.buffers _).1
  · show Buffered _ _ supervisor.router.liveBuffers _
    rw [hrouter, route_updates.1]
    exact hnext
  · rcases hunderway bar hbar with hbefore | hmem
    · exact h.underway bar hbefore hlive
    · have hrouted : feed.routed text (.routeRaw now) =
          routedBars (route text now feed.supervisor.router value).2 := by
        unfold routed
        rw [hraw]
      rw [hrouted, route_updates.2] at hmem
      show Final (updatesIn text feed.messages) bar
      rw [hupdates]
      exact (hfinal bar hmem hlive).append _

theorem Finalizes.act (h : Finalizes text config feed) (hturn : ¬OutOfTurn text feed step)
    (hdrops : ¬Drops text feed step) (hstale : ¬PublishesStale text feed step) :
    Finalizes text config (feed.act text config step).1 := by
  rcases act_cases text config feed step with hsame | ⟨supervisor, hstepped, hact⟩
  · rw [hsame]
    exact h
  · have hsound := h.sound.act text step
    have hunderway (bar : BarEvent) (hbar : Underway supervisor bar) :=
      underway_stepped hstepped hbar
    -- a step that routes nothing puts no bar under way
    have hkept (hnone : feed.routed text step = []) (bar : BarEvent)
        (hbar : Underway supervisor bar) : Underway feed.supervisor bar := by
      rcases hunderway bar hbar with hbefore | hmem
      · exact hbefore
      · rw [hnone] at hmem
        cases hmem
    rw [hact] at hsound ⊢
    cases hstepped with
    | @wsEvent now event wsEvents hevents =>
      have hfollow : feed.follow text (.wsEvent now) = feed.hear event := by
        unfold follow
        rw [hevents]
      obtain ⟨generation, -, hchannels⟩ :=
        channels_handleWsEvent config now h.sound.generations hevents
      rw [hfollow] at hsound ⊢
      refine h.hear hsound (congrArg (fun channels => channels.2.2.2.2.2) hchannels) (hkept rfl)
        fun value generation hevent hbars => not_le.mp fun hfull => hdrops ?_
      exact ⟨now, value, generation, wsEvents, rfl, hevent ▸ hevents, hbars, hfull⟩
    | routeRaw hraw =>
      exact h.takeMessage hsound hraw (router_of_channels (channels_deliver _ _)) hunderway hturn
        hstale
    | checkBar hchecking hbars =>
      exact h.goesOn hsound (router_of_channels (channels_checkBar _ _)) (hkept rfl)
    | finishBar hchecking =>
      exact h.goesOn hsound (router_of_channels (channels_finishBar ..)) (hkept rfl)
    | silence hphase =>
      exact h.goesOn hsound (router_of_channels (channels_resubscribe _ _)) (hkept rfl)
    | routerCommand hcommands => exact ⟨hsound, h.buffers, h.buffered, h.underway⟩
    | _ => exact h.goesOn hsound rfl (hkept rfl)

/-- The live bars that are sent are final, as long as the router publishes a bar of its buffer on one
of the same subscription only, heeds each subscription before its messages, and gets them all. -/
theorem sent_final (text : RouterText) (config : SupervisorConfig) (steps : List Supervisor.Step)
    (h : Always (act text config)
      (fun feed step => ¬OutOfTurn text feed step ∧ ¬Drops text feed step ∧
        ¬PublishesStale text feed step) (start config) steps) :
    Always (act text config)
      (fun feed step => ∀ entry ∈ (Supervisor.actSending text config feed.supervisor step).2,
        entry.2.origin = .live → Final (updatesIn text feed.messages) entry.2)
      (start config) steps :=
  Always.of_invariant
    (fun _ _ hfeed hstep =>
      ⟨fun entry hmem hlive => hfeed.underway entry.2 (underway_of_sent hmem) hlive,
        hfeed.act hstep.1 hstep.2.1 hstep.2.2⟩)
    finalizes_start h

/-! ### A bar that the connection breaks in -/

instance (text : RouterText) (feed : Feed) (step : Supervisor.Step) :
    Decidable (PublishesStale text feed step) :=
  decidable_of_iff
    ((match step, feed.queued with
      | .routeRaw _, (number, value) :: _ =>
        crosses number feed.supervisor.router feed.bufferedIn
          ((updatesOf text value).map
            (labelled feed.supervisor.router.liveCutoffTs feed.supervisor.router.historyOrigin))
      | _, _ => false) = true) (by
    constructor
    · intro h
      split at h
      · rename_i now number value queued hqueued
        exact ⟨now, number, value, queued, rfl, hqueued, h⟩
      · cases h
    · rintro ⟨now, number, value, queued, rfl, hqueued, h⟩
      rw [hqueued]
      exact h)

def skipsHistory : SupervisorConfig := ⟨⟨["IMOEXF"], "D1", true, 3⟩, 60, 5, true, 300, 2⟩

/-- Two live bars come in, and the first of them is sent. -/
def liveBars : List Supervisor.Step :=
  [.hub .reconnect, .hub (.connect 1000), .hub (.subscribe "1"),
    .hub (.raw (Supervisor.barMessage 900)), .hub (.raw (Supervisor.barMessage 960))] ++
    List.replicate 7 (.wsEvent 1000) ++
    [.routerCommand, .routeRaw 1000, .routeRaw 1000, .checkBar, .finishBar 1000 true]

/-- The connection breaks, and the next one begins with a later bar. -/
def nextConnection : List Supervisor.Step :=
  [.hub .fail, .hub .reconnect, .wsEvent 5000, .wsEvent 5000, .hub (.connect 5000),
    .hub (.subscribe "2"), .hub (.raw (Supervisor.barMessage 5040))] ++
    List.replicate 5 (.wsEvent 5000) ++ [.routerCommand, .routeRaw 5000, .checkBar]

/-- The bar that is sent on the first connection is final. -/
theorem sent_final_liveBars :
    Final [(1, ⟨"IMOEXF", 900, 0, 0, 0, 0, 0, .live⟩), (1, ⟨"IMOEXF", 960, 0, 0, 0, 0, 0, .live⟩)]
      ⟨"IMOEXF", 900, 0, 0, 0, 0, 0, .live⟩ := by
  have hall := sent_final Supervisor.numericText skipsHistory liveBars (by decide +kernel)
  have hsplit : liveBars = liveBars.dropLast ++ [.finishBar 1000 true] := rfl
  rw [hsplit, always_append] at hall
  have hmessages : updatesIn Supervisor.numericText
      (after (act Supervisor.numericText skipsHistory) (start skipsHistory)
        liveBars.dropLast).messages =
        [(1, ⟨"IMOEXF", 900, 0, 0, 0, 0, 0, .live⟩),
          (1, ⟨"IMOEXF", 960, 0, 0, 0, 0, 0, .live⟩)] := by
    decide +kernel
  rw [← hmessages]
  refine hall.2.1 (1000, ⟨"IMOEXF", 900, 0, 0, 0, 0, 0, .live⟩) ?_ rfl
  decide +kernel

/-- The bar in the buffer is sent as it was when the connection broke. -/
theorem partialBar_sent :
    ¬∀ (text : RouterText) (config : SupervisorConfig) (steps : List Supervisor.Step),
      Always (act text config)
        (fun feed step => ∀ entry ∈ (Supervisor.actSending text config feed.supervisor step).2,
          entry.2.origin = .live → Final (updatesIn text feed.messages) entry.2)
        (start config) steps := by
  intro h
  have hall := h Supervisor.numericText skipsHistory
    (liveBars ++ nextConnection ++ [.finishBar 5000 true])
  rw [always_append] at hall
  have hfinal := hall.2.1 (5000, ⟨"IMOEXF", 960, 0, 0, 0, 0, 0, .live⟩) (by decide +kernel) rfl
  have hmessages : updatesIn Supervisor.numericText
      (after (act Supervisor.numericText skipsHistory) (start skipsHistory)
        (liveBars ++ nextConnection)).messages =
        [(1, ⟨"IMOEXF", 900, 0, 0, 0, 0, 0, .live⟩), (1, ⟨"IMOEXF", 960, 0, 0, 0, 0, 0, .live⟩),
          (2, ⟨"IMOEXF", 5040, 0, 0, 0, 0, 0, .live⟩)] := by
    decide +kernel
  rw [hmessages] at hfinal
  obtain ⟨number, later, hbar, hlater, -, hlt⟩ := hfinal.exists_later
  have hnumber : number = 1 := by
    simpa using hbar
  subst hnumber
  have htime : later.closeTimeUtc ≤ 960 := by
    simp at hlater
    rcases hlater with rfl | rfl <;> decide
  exact absurd hlt (not_lt.mpr htime)

end Feed

end AlorRs.Gateway
