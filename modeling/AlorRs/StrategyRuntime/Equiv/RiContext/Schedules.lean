import AlorRs.StrategyRuntime.Equiv.RiContext.Collector
import AlorRs.StrategyRuntime.Equiv.RiContext.Frozen
import AlorRs.StrategyRuntime.Equiv.RiContext.Replay

/-!
# Stores beside a journal that runs

A journal is appended to, sealed and opened again after crashes, and a store is brought up to it in
any number of replays with freezes between them.  At any time the store is what one replay of all that
it has taken in makes of a new store (`replay_schedule_free`).
-/

namespace AlorRs.RiContext

open Eff Outcome RiIngressJournal

variable {text : IngressText}

theorem new_eq_ok {context : ContextIdentity} {first : RiContextStore}
    (hnew : RiContextStore.new context = .ok first) :
    first.state.identity = context ∧ first.lastSequence = 0 := by
  obtain ⟨_, -, hreturn⟩ := bind_eq_ok.mp hnew
  obtain rfl := Except.ok.inj hreturn
  exact ⟨rfl, rfl⟩

/-! ### Calls of the collector -/

namespace Collector

variable {c : Collector}

def IsKept (text : IngressText) (c : Collector) : Prop := Kept text c.journal c.dir

/-- Whatever a call does, the journal goes on, and every directory on the way still holds it. -/
theorem IsKept.call (h : c.IsKept text) (call : IngressCall) :
    (c.call text call).collector.IsKept text ∧
      c.journal.Extends (c.call text call).collector.journal ∧
        ∀ dir ∈ (c.call text call).steps, Held text c.journal dir := by
  -- every directory on the way keeps the files of the journal
  have hsteps : ∀ {disk' : IngressDisk}, Disk.Grows FileName.IsKept ⟨c.dir, []⟩ disk' →
      ∀ dir ∈ disk'.steps, Held text c.journal dir := by
    intro disk' hgrows dir hdir
    obtain ⟨-, new, hnew, hall⟩ := hgrows
    rw [hnew] at hdir
    exact h.held.keeps (hall dir hdir)
  cases call with
  | append sourceId rawBarJson clock names =>
    have hwp : wp (c.journal.append text sourceId rawBarJson clock names) () ⟨c.dir, []⟩ _ _ :=
      wp_append_held h
    unfold wp at hwp
    unfold Collector.call
    dsimp only
    generalize (c.journal.append text sourceId rawBarJson clock names).run () ⟨c.dir, []⟩ = outcome
      at hwp ⊢
    rcases outcome with ⟨e | ⟨journal, e | receipt⟩, disk⟩
    · exact hwp.elim
    all_goals exact ⟨hwp.1.kept, hwp.1.goesOn, hsteps hwp.1.grows⟩
  | sealCutoff throughUtc reading id =>
    have hwp : wp (c.journal.sealCutoff text throughUtc reading id) () ⟨c.dir, []⟩ _ _ :=
      wp_sealCutoff_held h
    unfold wp at hwp
    unfold Collector.call
    dsimp only
    generalize (c.journal.sealCutoff text throughUtc reading id).run () ⟨c.dir, []⟩ = outcome
      at hwp ⊢
    rcases outcome with ⟨e | ⟨journal, e | barrier⟩, disk⟩
    · exact hwp.elim
    all_goals exact ⟨hwp.1.kept, hwp.1.goesOn, hsteps hwp.1.grows⟩

/-- The directory after so many steps of a call; after all of them it is the one that the call leaves. -/
def crashDir (text : IngressText) (c : Collector) (call : IngressCall) (done : ℕ) :
    IngressDirectory :=
  ((c.dir :: (c.call text call).steps)[done]?).getD (c.call text call).collector.dir

/-- What is opened on a directory; a journal that cannot be opened is not used. -/
def reopen (text : IngressText) (c : Collector) (dir : IngressDirectory)
    (expected : IngressIdentity) (reading : ℤ) : Collector :=
  match openWithClock text dir expected reading with
  | .ok journal => { c with journal := journal, dir := dir }
  | .error _ => { c with journal := { c.journal with poisoned := true }, dir := dir }

theorem IsKept.held_crashDir (h : c.IsKept text) (call : IngressCall) (done : ℕ) :
    Held text c.journal (c.crashDir text call done) := by
  obtain ⟨hkept, hextends, hsteps⟩ := h.call call
  unfold crashDir
  cases hdir : (c.dir :: (c.call text call).steps)[done]? with
  | some dir =>
    rcases List.mem_cons.mp (List.mem_of_getElem? hdir) with rfl | hmem
    · exact h.held
    · exact hsteps dir hmem
  | none => exact hkept.held.of_extends hextends

theorem IsKept.reopen {dir : IngressDirectory} (h : c.IsKept text) (hheld : Held text c.journal dir)
    (expected : IngressIdentity) (reading : ℤ) :
    (c.reopen text dir expected reading).IsKept text ∧
      c.journal.Extends (c.reopen text dir expected reading).journal := by
  unfold Collector.reopen
  cases hopen : openWithClock text dir expected reading with
  | ok journal =>
    obtain ⟨hkept, hextends, -⟩ := hheld.openWithClock hopen
    exact ⟨hkept, hextends⟩
  | error e =>
    exact ⟨⟨hheld.of_same rfl rfl rfl, h.timely.of_same rfl rfl le_rfl⟩,
      ⟨rfl, List.prefix_rfl, List.prefix_rfl⟩⟩

end Collector

/-! ### Runs -/

/-- A journal with its directory, and a store beside it. -/
structure Replayer where
  collector : Collector
  store : RiContextStore

/-- What is done with them; a crash comes after so many steps of a call. -/
inductive ReplayCall where
  | ingress (call : IngressCall)
  | crash (call : IngressCall) (done : ℕ) (expected : IngressIdentity) (reading : ℤ)
  | replayThrough (sequence : ℕ) (processedAtUtc reading : ℤ)
  | freeze (date : NaiveDate) (now : ℤ) (barrier : ReceiptBarrier)

namespace Replayer

/-- One call.  A store that fails stays as it is, and a freeze is made under a barrier of the journal
only. -/
def step (text : IngressText) (r : Replayer) : ReplayCall → Replayer
  | .ingress call => { r with collector := (r.collector.call text call).collector }
  | .crash call done expected reading =>
    { r with collector :=
        r.collector.reopen text (r.collector.crashDir text call done) expected reading }
  | .replayThrough sequence processedAtUtc reading =>
    match r.collector.journal.replayThrough text r.store sequence processedAtUtc reading with
    | .ok store => { r with store := store }
    | .error _ => r
  | .freeze date now barrier =>
    if r.collector.journal.containsBarrier barrier then
      match r.store.freeze text.H date now barrier with
      | .ok store => { r with store := store }
      | .error _ => r
    else r

def run (text : IngressText) (r : Replayer) (calls : List ReplayCall) : Replayer :=
  calls.foldl (step text) r

theorem run_concat (r : Replayer) (calls : List ReplayCall) (call : ReplayCall) :
    r.run text (calls ++ [call]) = (r.run text calls).step text call := by
  unfold run
  rw [List.foldl_append]
  rfl

end Replayer

/-! ### What holds in a run -/

namespace Replayer

variable {r : Replayer}

/-- The journal is in its directory, the store is what the rows are without a schedule, and it is a
store of this journal once it has taken in a row. -/
structure Sound (text : IngressText) (context : ContextIdentity) (r : Replayer) : Prop where
  kept : r.collector.IsKept text
  replayed : Replayed text r.collector.journal r.store
  identity : r.store.state.identity = context
  agrees : 0 < r.store.lastSequence →
    context.receiptStream = r.collector.journal.manifest.identity.receiptStream ∧
      context.symbol = r.collector.journal.manifest.identity.symbol

namespace Sound

variable {context : ContextIdentity}

/-- The journal goes on beside the store. -/
theorem goesOn {collector : Collector} (h : r.Sound text context) (hkept : collector.IsKept text)
    (hextends : r.collector.journal.Extends collector.journal) :
    Sound text context { r with collector := collector } where
  kept := hkept
  replayed := h.replayed.goesOn hextends
  identity := h.identity
  agrees := by
    intro hpos
    show _ = collector.journal.manifest.identity.receiptStream ∧ _
    rw [hextends.manifest]
    exact h.agrees hpos

theorem step (h : r.Sound text context) (call : ReplayCall) :
    (r.step text call).Sound text context := by
  cases call with
  | ingress call =>
    obtain ⟨hkept, hextends, -⟩ := h.kept.call call
    exact h.goesOn hkept hextends
  | crash call done expected reading =>
    obtain ⟨hkept, hextends⟩ := h.kept.reopen (h.kept.held_crashDir call done) expected reading
    exact h.goesOn hkept hextends
  | replayThrough sequence processedAtUtc reading =>
    unfold Replayer.step
    dsimp only
    cases hreplay : r.collector.journal.replayThrough text r.store sequence processedAtUtc reading with
    | error e => exact h
    -- a replay keeps the store one of the journal
    | ok store =>
      obtain ⟨hreplayed, -, hsame, hstream, hsymbol⟩ :=
        h.replayed.replayThrough h.kept.timely hreplay
      have hidentity := h.identity
      refine ⟨h.kept, hreplayed, hsame.trans hidentity, fun _ => ?_⟩
      rw [hidentity] at hstream hsymbol
      exact ⟨hstream, hsymbol⟩
  | freeze date now barrier =>
    unfold Replayer.step
    dsimp only
    split_ifs with hbarrier
    · cases hfreeze : r.store.freeze text.H date now barrier with
      | error e => exact h
      | ok store =>
        obtain ⟨hreplayed, hlast, hsame⟩ := h.replayed.freeze hbarrier hfreeze
        refine ⟨h.kept, hreplayed, hsame.trans h.identity, ?_⟩
        intro hpos
        refine h.agrees ?_
        show 0 < r.store.lastSequence
        rw [← hlast]
        exact hpos
    · exact h

theorem run (h : r.Sound text context) (calls : List ReplayCall) :
    (r.run text calls).Sound text context := by
  induction calls generalizing r with
  | nil => exact h
  | cons call calls ih => exact ih (h.step call)

/-- One replay of what the store has taken in makes a new store the same. -/
theorem whole_routing {first whole : RiContextStore} {processed reading : ℤ}
    (h : r.Sound text context) (hnew : RiContextStore.new context = .ok first)
    (hreplay : r.collector.journal.replayThrough text first r.store.lastSequence processed reading =
      .ok whole) : whole.routing = r.store.routing := by
  have hfirst : Replayed text r.collector.journal first := .new hnew
  obtain ⟨hwhole, hlast, hsame, -⟩ := hfirst.replayThrough h.kept.timely hreplay
  have hrows := hwhole.routing
  rw [hlast, hsame, (new_eq_ok hnew).1, ← h.identity] at hrows
  exact Except.ok.inj (hrows.symm.trans h.replayed.routing)

end Sound

end Replayer

/-- What is true of every run of a journal and a store, both new. -/
structure ScheduleFree (text : IngressText) (start : Replayer) : Prop where
  /-- One replay of all that the store has taken in, into the new store, leaves the same routes and
  digests for each number and the same canonical inputs. -/
  same : ∀ calls processed reading whole,
    (start.run text calls).collector.journal.replayThrough text start.store
      (start.run text calls).store.lastSequence processed reading = .ok whole →
        whole.routing = (start.run text calls).store.routing
  /-- Such a replay succeeds once all that it takes in is durable. -/
  succeeds : ∀ calls processed reading, 0 < (start.run text calls).store.lastSequence →
    (start.run text calls).collector.journal.now reading = .ok () → processed ≤ reading →
      (localTime? processed).isSome = true →
        (∀ row ∈ (start.run text calls).collector.journal.rows.take
          (start.run text calls).store.lastSequence, row.commit.durableAtUtc ≤ processed) →
          ∃ whole, (start.run text calls).collector.journal.replayThrough text start.store
            (start.run text calls).store.lastSequence processed reading = .ok whole
  /-- No input is quarantined for the time at which it is processed. -/
  quarantined : ∀ calls, ∀ record ∈ (start.run text calls).store.state.journal,
    record.route ≠ .quarantined .behindFrozenBarrier ∧
      record.route ≠ .quarantined .invalidReceiptClock
  /-- A replay that fails leaves the store as it was. -/
  fails : ∀ calls sequence processed reading e,
    (start.run text calls).collector.journal.replayThrough text (start.run text calls).store sequence
      processed reading = .error e →
        (start.run text (calls ++ [.replayThrough sequence processed reading])).store =
          (start.run text calls).store

/-- What a store records and takes over does not depend on how its replays are split, nor on the
freezes between them. -/
theorem replay_schedule_free (text : IngressText) (identity : IngressIdentity)
    (context : ContextIdentity) (created : ℤ) (id : ℕ) :
    match (create text identity created id).run () ⟨∅, []⟩, RiContextStore.new context with
    | (.ok journal, disk), .ok first => ScheduleFree text ⟨⟨journal, disk.dir, [], []⟩, first⟩
    | _, _ => True := by
  have hwp : wp (create text identity created id) () ⟨∅, []⟩ _ _ := wp_create
  unfold wp at hwp
  generalize (create text identity created id).run () ⟨∅, []⟩ = outcome at hwp ⊢
  rcases outcome with ⟨e | journal, disk⟩
  · trivial
  cases hnew : RiContextStore.new context with
  | error e => trivial
  | ok first =>
    have hstart : Replayer.Sound text context ⟨⟨journal, disk.dir, [], []⟩, first⟩ := by
      obtain ⟨hcreated, -⟩ := hwp
      have hfile := hcreated.ready.committed.files .manifest
      refine ⟨⟨.of_empty hfile hcreated.rows hcreated.barriers,
        .of_empty hcreated.rows hcreated.barriers⟩, .new hnew, ?_, ?_⟩
      · exact (new_eq_ok hnew).1
      · intro hpos
        rw [(new_eq_ok hnew).2] at hpos
        exact absurd hpos (lt_irrefl 0)
    -- the parts of `ScheduleFree`, each for the state that the calls reach
    refine ⟨?_, ?_, ?_, ?_⟩
    · intro calls processed reading whole hreplay
      exact (hstart.run calls).whole_routing hnew hreplay
    · intro calls processed reading hpos hreading hprocessed hvalid hdurable
      have hsound := hstart.run calls
      obtain ⟨hstream, hsymbol⟩ := hsound.agrees hpos
      have hnew' := hnew
      rw [← hsound.identity] at hnew' hstream hsymbol
      exact hsound.replayed.replayThrough_new hsound.kept.timely hnew' hstream hsymbol hreading
        hprocessed hvalid hdurable
    · intro calls record hrecord
      have hsound := hstart.run calls
      exact (hsound.replayed.route_ne hsound.kept.timely record hrecord).symm
    · intro calls sequence processed reading e hfails
      rw [Replayer.run_concat]
      unfold Replayer.step
      dsimp only
      rw [hfails]

/-- One row is replayed before a crash in the middle of an append, and one after it. -/
example : ((⟨IngressSample.start, ⟨⟨checkpointVersion, Sample.identity, .empty, [], .empty, none⟩⟩⟩ :
    Replayer).run IngressSample.text
      [.ingress (.append "1-0" "bar" (IngressSample.clock 1783491000) ⟨1, 2, 3⟩),
        .replayThrough 5 1783491000 1783491000,
        .replayThrough 1 1783491000 1783491000,
        .crash (.append "1-1" "bar" (IngressSample.clock 1783491001) ⟨4, 5, 6⟩) 7
          IngressSample.identity 1783491002,
        .replayThrough 2 1783491002 1783491002]).store.routing.receipts =
    [(1, "1", .contextOnly), (2, "2", .duplicateQuote)] := by
  decide +kernel

end AlorRs.RiContext
