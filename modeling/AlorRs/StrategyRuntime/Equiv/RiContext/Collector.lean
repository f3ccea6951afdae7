import AlorRs.StrategyRuntime.Equiv.RiContext.Crashes
import Mathlib.Data.List.Flatten

/-!
# The journal of receipts is crash safe

A collector is a journal with its directory, and what its calls have returned.  What is opened after
a crash, at any step of any call, is the journal of the calls that had returned, and after a run of
calls that all succeed it is opened (`ingress_crash_safe`).
-/

namespace AlorRs.RiContext

open Eff Outcome RiIngressJournal

/-! ### Runs of the collector -/

/-- A journal with its directory, the payloads of the calls that returned a new record, and the
barriers that were returned. -/
structure Collector where
  journal : RiIngressJournal
  dir : IngressDirectory
  appended : List (String × String)
  sealed : List ReceiptBarrier

inductive IngressCall where
  | append (sourceId rawBarJson : String) (clock : AppendClock) (names : AppendNames)
  | sealCutoff (throughUtc reading : ℤ) (id : ℕ)

/-- What a call did: the collector that it leaves, the directory after each of its steps, and whether
it returned without an error. -/
structure Called where
  collector : Collector
  steps : List IngressDirectory
  isOk : Bool

namespace Collector

def call (text : IngressText) (c : Collector) : IngressCall → Called
  | .append sourceId rawBarJson clock names =>
    match (c.journal.append text sourceId rawBarJson clock names).run () ⟨c.dir, []⟩ with
    | (.ok (journal, .ok receipt), disk) =>
      ⟨⟨journal, disk.dir,
        if receipt.redelivery then c.appended else c.appended ++ [(sourceId, rawBarJson)],
        c.sealed⟩, disk.steps, true⟩
    | (.ok (journal, .error _), disk) =>
      ⟨{ c with journal := journal, dir := disk.dir }, disk.steps, false⟩
    | (.error _, disk) => ⟨{ c with dir := disk.dir }, disk.steps, false⟩
  | .sealCutoff throughUtc reading id =>
    match (c.journal.sealCutoff text throughUtc reading id).run () ⟨c.dir, []⟩ with
    | (.ok (journal, .ok barrier), disk) =>
      ⟨⟨journal, disk.dir, c.appended,
        if barrier ∈ c.sealed then c.sealed else c.sealed ++ [barrier]⟩, disk.steps, true⟩
    | (.ok (journal, .error _), disk) =>
      ⟨{ c with journal := journal, dir := disk.dir }, disk.steps, false⟩
    | (.error _, disk) => ⟨{ c with dir := disk.dir }, disk.steps, false⟩

def run (text : IngressText) (c : Collector) (calls : List IngressCall) : Collector :=
  calls.foldl (fun c call => (c.call text call).collector) c

def Succeeded (text : IngressText) (c : Collector) : List IngressCall → Prop
  | [] => True
  | call :: calls => (c.call text call).isOk = true ∧ (c.call text call).collector.Succeeded text calls

end Collector

def IngressCall.readings : IngressCall → List ℤ
  | .append _ _ clock _ => [clock.received, clock.durable, clock.completed]
  | .sealCutoff _ reading _ => [reading]

/-- A clock that does not go back and shows times, from a first reading on. -/
def Clocked (first : ℤ) (calls : List IngressCall) : Prop :=
  (first :: calls.flatMap IngressCall.readings).Pairwise (· ≤ ·) ∧
    ∀ reading ∈ calls.flatMap IngressCall.readings, (localTime? reading).isSome = true

variable {first : ℤ}

theorem Clocked.sublist {calls calls' : List IngressCall} (h : Clocked first calls)
    (hsub : calls'.Sublist calls) : Clocked first calls' := by
  have hreadings : (calls'.flatMap IngressCall.readings).Sublist
      (calls.flatMap IngressCall.readings) := hsub.flatMap _
  exact ⟨h.1.sublist (hreadings.cons_cons first), fun reading hmem => h.2 reading (hreadings.subset hmem)⟩

variable {names : AppendNames}

theorem Clocked.append_runs {calls : List IngressCall} (h : Clocked first calls)
    {sourceId rawBarJson : String} {clock : AppendClock}
    (hmem : .append sourceId rawBarJson clock names ∈ calls) : clock.Runs := by
  obtain ⟨before, after, rfl⟩ := List.append_of_mem hmem
  obtain ⟨horder, hvalid⟩ := h
  rw [List.flatMap_append, List.flatMap_cons] at horder
  have hreadings := (List.pairwise_append.mp (List.pairwise_append.mp (List.pairwise_cons.mp
    horder).2).2.1).1
  have hcompleted := hvalid clock.completed (List.mem_flatMap.mpr
    ⟨.append sourceId rawBarJson clock names, hmem, by simp [IngressCall.readings]⟩)
  unfold IngressCall.readings at hreadings
  simp only [List.pairwise_cons] at hreadings
  exact ⟨hreadings.1 _ (by simp), hreadings.2.1 _ (by simp), hcompleted⟩

/-! ### What holds in a run -/

variable {dir : IngressDirectory} {reading : ℤ}

namespace Collector

variable {text : IngressText} {c : Collector}

/-- The journal holds what was returned, its directory holds the journal or is refused, and no row
was received before a barrier that had been sealed. -/
structure Sound (text : IngressText) (c : Collector) : Prop where
  holds : Committed text c.journal c.dir ∨ (c.journal.poisoned = true ∧ Refused text c.dir)
  appended : c.journal.rows.map (fun row => (row.raw.sourceId, row.raw.rawBarJson)) = c.appended
  sealed : c.journal.barriers.map (·.barrier) = c.sealed
  attested : ∀ i row, c.journal.rows[i]? = some row → ∀ saved ∈ c.journal.barriers,
    saved.barrier.lastSequence ≤ i → saved.barrier.attestedAtUtc ≤ row.raw.receivedAtUtc

variable {disk' : IngressDisk}

namespace Sound

theorem committed (h : c.Sound text) (hready : c.journal.poisoned = false) :
    Committed text c.journal c.dir := by
  rcases h.holds with hcommitted | ⟨hpoisoned, -⟩
  · exact hcommitted
  · rw [hready] at hpoisoned
    exact (nomatch hpoisoned)

theorem fails (h : c.Sound text) (hfails : Fails text ⟨c.dir, []⟩ disk') :
    Sound text { c with journal := { c.journal with poisoned := true }, dir := disk'.dir } where
  holds := by
    rcases hfails with rfl | ⟨hrefused, -⟩
    · rcases h.holds with hcommitted | ⟨-, hrefused⟩
      · exact .inl ⟨⟨hcommitted.valid.identity, hcommitted.valid.version, hcommitted.valid.created,
          hcommitted.valid.rows, hcommitted.valid.barriers, hcommitted.valid.index,
          hcommitted.valid.rows_le, hcommitted.valid.barriers_le, hcommitted.valid.floor_created,
          hcommitted.valid.floor_row, hcommitted.valid.floor_barrier⟩,
          fun name => (hcommitted.files name).trans (by cases name <;> rfl), hcommitted.sizes,
          hcommitted.total, hcommitted.total_le, hcommitted.count⟩
      · exact .inr ⟨rfl, hrefused⟩
    · exact .inr ⟨rfl, hrefused⟩
  appended := h.appended
  sealed := h.sealed
  attested := h.attested

/-- A new row was not received before a barrier that had been sealed. -/
theorem withRow {row : Row} {bytes : ℕ} {completed : ℤ} (h : c.Sound text)
    (hcommitted : Committed text (c.journal.withRow row bytes completed) dir)
    (hvalid : c.journal.Valid text) (hfloor : c.journal.clockFloor ≤ row.raw.receivedAtUtc) :
    Sound text ⟨c.journal.withRow row bytes completed, dir,
      c.appended ++ [(row.raw.sourceId, row.raw.rawBarJson)], c.sealed⟩ where
  holds := .inl hcommitted
  appended := by
    show (c.journal.rows ++ [row]).map _ = _
    rw [List.map_append, h.appended]
    rfl
  sealed := h.sealed
  attested i row' hrow' saved hsaved hle := by
    have hplace : (c.journal.rows ++ [row])[i]? = some row' := hrow'
    rw [getElem?_concat] at hplace
    split_ifs at hplace with hlast
    · obtain rfl := Option.some.inj hplace
      exact (hvalid.floor_barrier saved hsaved).trans hfloor
    · exact h.attested i row' hplace saved hsaved hle

/-- A new barrier is sealed over all rows that there are. -/
theorem withBarrier {saved : StoredBarrier} {bytes : ℕ} (h : c.Sound text)
    (hcommitted : Committed text (c.journal.withBarrier saved bytes reading) dir)
    (hlast : saved.barrier.lastSequence = c.journal.rows.length) :
    Sound text ⟨c.journal.withBarrier saved bytes reading, dir, c.appended,
      c.sealed ++ [saved.barrier]⟩ where
  holds := .inl hcommitted
  appended := h.appended
  sealed := by
    show (c.journal.barriers ++ [saved]).map _ = _
    rw [List.map_append, h.sealed]
    rfl
  attested i row hrow saved' hsaved' hle := by
    rcases List.mem_append.mp hsaved' with hold | hnew
    · exact h.attested i row hrow saved' hold hle
    · obtain rfl := List.mem_singleton.mp hnew
      have hlt : i < c.journal.rows.length := (List.getElem?_eq_some_iff.mp hrow).1
      omega

end Sound

structure CallSpec (text : IngressText) (c : Collector) (call : IngressCall) (done : Called) : Prop
    where
  sound : done.collector.Sound text
  /-- What a step leaves is refused, but for the last step of a call that succeeds. -/
  steps : ∀ dir ∈ done.steps, Refused text dir ∨ (done.isOk = true ∧ dir = done.collector.dir)
  manifest : done.collector.journal.manifest = c.journal.manifest
  ready : done.isOk = true → done.collector.journal.poisoned = false
  floor : ∀ bound, c.journal.clockFloor ≤ bound → (∀ reading ∈ call.readings, reading ≤ bound) →
    done.collector.journal.clockFloor ≤ bound
  attested : done.isOk = true → ∀ sourceId rawBarJson clock names,
    call = .append sourceId rawBarJson clock names →
      ∀ saved ∈ c.journal.barriers, saved.barrier.attestedAtUtc ≤ clock.received

theorem steps_of_fails (h : Fails text ⟨dir, []⟩ disk') : ∀ dir ∈ disk'.steps, Refused text dir := by
  rcases h with rfl | ⟨-, steps, hsteps, hall⟩
  · intro dir hdir
    exact absurd hdir List.not_mem_nil
  · intro dir hdir
    rw [hsteps] at hdir
    exact hall dir hdir

theorem steps_of_succeeds (h : Succeeds text ⟨dir, []⟩ disk') :
    ∀ dir ∈ disk'.steps, Refused text dir ∨ dir = disk'.dir := by
  obtain ⟨steps, hsteps, hall⟩ := h
  intro dir hdir
  rw [hsteps, List.nil_append] at hdir
  rcases List.mem_append.mp hdir with hmem | hlast
  · exact .inl (hall dir hmem)
  · exact .inr (List.mem_singleton.mp hlast)

theorem Sound.append (h : c.Sound text) {sourceId rawBarJson : String} {clock : AppendClock}
    (hclock : clock.Runs) :
    c.CallSpec text (.append sourceId rawBarJson clock names)
      (c.call text (.append sourceId rawBarJson clock names)) := by
  have hwp : wp (c.journal.append text sourceId rawBarJson clock names) () ⟨c.dir, []⟩ _ _ :=
    wp_append h.committed hclock
  unfold wp at hwp
  unfold Collector.call
  dsimp only
  generalize (c.journal.append text sourceId rawBarJson clock names).run () ⟨c.dir, []⟩ = outcome
    at hwp ⊢
  rcases outcome with ⟨_ | ⟨journal, answer⟩, disk'⟩
  · exact hwp.elim
  rcases hwp with ⟨receipt, rfl, hready, hfloor, happended⟩ | ⟨e, rfl, rfl, hfails⟩
  -- the manifest stays, and the clock goes no further than the readings
  · have hsame : journal.manifest = c.journal.manifest ∧
        ∀ bound, clock.received ≤ bound → clock.completed ≤ bound → journal.clockFloor ≤ bound := by
      rcases happended with ⟨-, -, rfl⟩ | ⟨-, -, row, bytes, -, rfl⟩
      · exact ⟨rfl, fun _ hle _ => hle⟩
      · exact ⟨rfl, fun _ _ hle => hle⟩
    dsimp only at hready ⊢
    refine ⟨?_, ?_, hsame.1, fun _ => hready.ready, ?_, ?_⟩
    -- a row that is delivered again changes nothing, a new one is committed
    · rcases happended with ⟨hredelivery, rfl, rfl⟩ | ⟨hnew, -, row, bytes, hrow, rfl⟩
      · rw [hredelivery]
        exact ⟨.inl hready.committed, h.appended, h.sealed, h.attested⟩
      · have hcommitted := h.committed hready.ready
        rw [hnew, ← hrow.sourceId, ← hrow.rawBarJson]
        exact h.withRow hready.committed hcommitted.valid (hfloor.trans hrow.received.ge)
    · intro dir hdir
      rcases happended with ⟨-, rfl, -⟩ | ⟨-, hsucceeds, -⟩
      · exact absurd hdir List.not_mem_nil
      · exact (steps_of_succeeds hsucceeds dir hdir).imp_right fun heq => ⟨rfl, heq⟩
    · intro bound _ hreadings
      exact hsame.2 bound (hreadings _ (by simp [IngressCall.readings]))
        (hreadings _ (by simp [IngressCall.readings]))
    -- a barrier that is sealed lies before the reading of the call
    · intro _ sourceId' rawBarJson' clock' names' heq saved hsaved
      obtain ⟨-, -, rfl, -⟩ := IngressCall.append.inj heq
      have hcommitted := h.committed (by
        rcases happended with ⟨-, -, rfl⟩ | ⟨-, -, row, bytes, -, rfl⟩
        · exact hready.ready
        · exact hready.ready)
      exact (hcommitted.valid.floor_barrier saved hsaved).trans hfloor
  · refine ⟨h.fails hfails, ?_, rfl, fun hok => (nomatch hok), fun _ hle _ => hle,
      fun hok => (nomatch hok)⟩
    intro dir hdir
    exact .inl (steps_of_fails hfails dir hdir)

theorem Sound.sealCutoff (h : c.Sound text) {throughUtc : ℤ} {id : ℕ} :
    c.CallSpec text (.sealCutoff throughUtc reading id)
      (c.call text (.sealCutoff throughUtc reading id)) := by
  have hwp : wp (c.journal.sealCutoff text throughUtc reading id) () ⟨c.dir, []⟩ _ _ :=
    wp_sealCutoff h.committed
  unfold wp at hwp
  unfold Collector.call
  dsimp only
  generalize (c.journal.sealCutoff text throughUtc reading id).run () ⟨c.dir, []⟩ = outcome
    at hwp ⊢
  rcases outcome with ⟨_ | ⟨journal, answer⟩, disk'⟩
  · exact hwp.elim
  rcases hwp with ⟨barrier, rfl, hready, -, hsealed⟩ | ⟨e, rfl, ⟨rfl, rfl⟩ | ⟨rfl, hfails⟩⟩
  · dsimp only at hready ⊢
    refine ⟨?_, ?_, ?_, fun _ => hready.ready, ?_, fun _ _ _ _ _ heq => (nomatch heq)⟩
    -- the barrier is there already, or is sealed now
    · rcases hsealed with ⟨rfl, rfl, saved, hmem, rfl⟩ | ⟨-, saved, bytes, rfl, hother, hlast, rfl⟩
      · have hold : saved.barrier ∈ c.sealed := by
          rw [← h.sealed]
          exact List.mem_map_of_mem hmem
        rw [if_pos hold]
        exact h
      · have hnew : saved.barrier ∉ c.sealed := by
          rw [← h.sealed]
          intro hmem
          obtain ⟨other, hmem, heq⟩ := List.mem_map.mp hmem
          exact hother other hmem heq
        rw [if_neg hnew]
        exact h.withBarrier hready.committed hlast
    · intro dir hdir
      rcases hsealed with ⟨rfl, -⟩ | ⟨hsucceeds, -⟩
      · exact absurd hdir List.not_mem_nil
      · exact (steps_of_succeeds hsucceeds dir hdir).imp_right fun heq => ⟨rfl, heq⟩
    · rcases hsealed with ⟨-, rfl, -⟩ | ⟨-, saved, bytes, -, -, -, rfl⟩
      · rfl
      · rfl
    · intro bound hle hreadings
      rcases hsealed with ⟨-, rfl, -⟩ | ⟨-, saved, bytes, -, -, -, rfl⟩
      · exact hle
      · exact hreadings _ List.mem_cons_self
  · refine ⟨h, ?_, rfl, fun hok => (nomatch hok), fun _ hle _ => hle, fun hok => (nomatch hok)⟩
    intro dir hdir
    exact absurd hdir List.not_mem_nil
  · refine ⟨h.fails hfails, ?_, rfl, fun hok => (nomatch hok), fun _ hle _ => hle,
      fun hok => (nomatch hok)⟩
    intro dir hdir
    exact .inl (steps_of_fails hfails dir hdir)

theorem Sound.call (h : c.Sound text) {call : IngressCall} (hclock : Clocked first [call]) :
    c.CallSpec text call (c.call text call) := by
  cases call with
  | append sourceId rawBarJson clock names =>
    exact h.append (hclock.append_runs List.mem_cons_self)
  | sealCutoff throughUtc reading id => exact h.sealCutoff

theorem Sound.run_calls (h : c.Sound text) {calls : List IngressCall} (hclock : Clocked first calls) :
    (c.run text calls).Sound text ∧ (c.run text calls).journal.manifest = c.journal.manifest ∧
      (∀ bound, c.journal.clockFloor ≤ bound →
        (∀ reading ∈ calls.flatMap IngressCall.readings, reading ≤ bound) →
          (c.run text calls).journal.clockFloor ≤ bound) ∧
      (c.journal.poisoned = false → c.Succeeded text calls →
        (c.run text calls).journal.poisoned = false) := by
  induction calls generalizing c with
  | nil => exact ⟨h, rfl, fun _ hle _ => hle, fun hready _ => hready⟩
  | cons call calls ih =>
    have hspec := h.call (hclock.sublist (List.cons_sublist_cons.mpr (List.nil_sublist calls)))
    obtain ⟨hsound, hmanifest, hfloor, hready⟩ :=
      ih hspec.sound (hclock.sublist (List.sublist_cons_self call calls))
    refine ⟨hsound, hmanifest.trans hspec.manifest, ?_, ?_⟩
    · intro bound hle hreadings
      refine hfloor bound (hspec.floor bound hle ?_) ?_
      · intro reading hmem
        exact hreadings reading (List.mem_append_left _ hmem)
      · intro reading hmem
        exact hreadings reading (List.mem_append_right _ hmem)
    · rintro - ⟨hok, hrest⟩
      exact hready (hspec.ready hok) hrest

end Collector

/-! ### Creation -/

/-- What a new collector holds. -/
structure Created (text : IngressText) (identity : IngressIdentity) (reading : ℤ)
    (journal : RiIngressJournal) (dir : IngressDirectory) : Prop where
  ready : Ready text journal dir
  identity : journal.manifest.identity = identity
  rows : journal.rows = []
  barriers : journal.barriers = []
  floor : journal.clockFloor = reading

section Create

variable {text : IngressText} {identity : IngressIdentity} {reading : ℤ} {id : ℕ}

def newJournal (identity : IngressIdentity) (reading : ℤ) (bytes : ℕ) : RiIngressJournal :=
  ⟨⟨ingressVersion, identity, reading⟩, [], ∅, [], bytes, reading, false⟩

theorem committed_newJournal (hidentity : identity.validate = .ok ())
    (hreading : (localTime? reading).isSome = true)
    (hsize : text.size (.manifest ⟨⟨ingressVersion, identity, reading⟩,
      text.manifest ⟨ingressVersion, identity, reading⟩⟩) ≤ maxFileBytes)
    (hadds : Disk.Adds ((∅ : IngressDirectory).insert .lock .lock) .manifest
      (.manifest ⟨⟨ingressVersion, identity, reading⟩,
        text.manifest ⟨ingressVersion, identity, reading⟩⟩) dir) :
    Committed text (newJournal identity reading (text.size (.manifest
      ⟨⟨ingressVersion, identity, reading⟩, text.manifest ⟨ingressVersion, identity, reading⟩⟩)))
        dir := by
  have hlock : FileName.lock ∉ (∅ : IngressDirectory) := AList.notMem_empty _
  refine ⟨⟨hidentity, rfl, hreading, ?_, ?_, rfl, Nat.zero_le _, Nat.zero_le _, le_rfl, ?_, ?_⟩,
    ?_, ?_, ?_, ?_, ?_⟩
  · exact fun _ _ hrow => (nomatch hrow)
  · exact fun _ _ hsaved => (nomatch hsaved)
  · exact fun _ hrow => absurd hrow List.not_mem_nil
  · exact fun _ hsaved => absurd hsaved List.not_mem_nil
  -- the directory has the manifest and the lock, and no other file
  · intro name
    by_cases hmanifest : name = .manifest
    · rw [hmanifest, hadds.lookup_self]
      rfl
    · rw [hadds.lookup_of_ne hmanifest]
      by_cases hname : name = .lock
      · rw [hname, AList.lookup_insert]
        rfl
      · rw [AList.lookup_insert_ne hname, AList.lookup_empty]
        cases name with
        | lock => exact absurd rfl hname
        | manifest => exact absurd rfl hmanifest
        | failed => rfl
        | temporary id => rfl
        | raw n => cases n <;> rfl
        | commit n => cases n <;> rfl
        | barrier n => cases n <;> rfl
  · intro name content hcontent
    by_cases hmanifest : name = .manifest
    · rw [hmanifest, hadds.lookup_self] at hcontent
      obtain rfl := Option.some.inj hcontent
      exact hsize
    · rw [hadds.lookup_of_ne hmanifest] at hcontent
      by_cases hname : name = .lock
      · rw [hname, AList.lookup_insert] at hcontent
        obtain rfl := Option.some.inj hcontent
        exact Nat.zero_le _
      · rw [AList.lookup_insert_ne hname, AList.lookup_empty] at hcontent
        exact (nomatch hcontent)
  -- their sizes and their number are counted
  · rw [hadds.total, Directory.total_insert hlock]
    show 0 + 0 + _ = _
    rw [Nat.zero_add]
    rfl
  · exact hsize.trans (by decide)
  · rw [hadds.length_keys, Directory.keys_insert_of_notMem hlock]
    rfl

/-- A new collector holds a journal without rows, and no step before leaves what is opened. -/
theorem wp_create :
    wp (create text identity reading id) () ⟨∅, []⟩
      (fun journal disk' => Created text identity reading journal disk'.dir ∧
        ∀ dir ∈ disk'.steps, Refused text dir ∨ dir = disk'.dir)
      (fun _ disk' => ∀ dir ∈ disk'.steps, Refused text dir) := by
  unfold create
  rw [wp_bind, wp_ofExcept]
  refine ⟨?_, fun _ _ _ hdir => absurd hdir List.not_mem_nil⟩
  intro _ hidentity
  rw [wp_bind, wp_ofExcept]
  refine ⟨?_, fun _ _ _ hdir => absurd hdir List.not_mem_nil⟩
  intro dt hdt
  unfold Disk.step
  rw [wp_bind, wp_modify, wp_bind]
  -- the lock alone is no journal
  have hlock : Refused text ((∅ : IngressDirectory).insert .lock .lock) := by
    refine .of_manifest ?_
    rw [AList.mem_insert]
    exact fun h => h.elim (fun heq => (nomatch heq)) fun hmem => AList.notMem_empty _ hmem
  refine wp_mono wp_publishNew ?_ ?_
  -- the manifest is published over the lock
  · rintro bytes disk' ⟨rfl, hsize, hadds, steps, hsteps, hall⟩
    have hcommitted := committed_newJournal hidentity (localTime?_isSome.mpr ⟨dt, hdt⟩) hsize hadds
    refine ⟨⟨⟨hcommitted, rfl⟩, rfl, rfl, rfl, rfl⟩, ?_⟩
    intro dir hdir
    rw [hsteps] at hdir
    rcases List.mem_append.mp hdir with hmem | hlast
    · rcases List.mem_cons.mp hmem with rfl | hmem
      · exact .inl hlock
      · exact .inl (hall dir hmem)
    · exact .inr (List.mem_singleton.mp hlast)
  -- a crash leaves the lock, or a temporary file next to it
  · rintro _ disk' (rfl | ⟨-, steps, hsteps, hall⟩) dir hdir
    · exact List.mem_singleton.mp hdir ▸ hlock
    · rw [hsteps] at hdir
      rcases List.mem_cons.mp hdir with rfl | hmem
      · exact hlock
      · exact hall dir hmem

end Create

/-! ### Crash safety -/

namespace Collector

variable {text : IngressText} {c : Collector} {dir : IngressDirectory}

/-- What is opened is what the collector holds: the rows and the barriers of the calls that had
returned, in their order. -/
structure Reopens (c : Collector) (reading : ℤ) (opened : RiIngressJournal) : Prop where
  eq : opened = { c.journal with clockFloor := reading, poisoned := false }
  appended : opened.rows.map (fun row => (row.raw.sourceId, row.raw.rawBarJson)) = c.appended
  sealed : opened.barriers.map (·.barrier) = c.sealed

theorem Sound.reopens (h : c.Sound text) {expected : IngressIdentity} {opened : RiIngressJournal}
    (hopen : openWithClock text c.dir expected reading = .ok opened) :
    expected = c.journal.manifest.identity ∧ c.Reopens reading opened := by
  obtain ⟨journal, hload, hopen⟩ := bind_eq_ok.mp hopen
  obtain ⟨_, -, hreturn⟩ := bind_eq_ok.mp hopen
  rcases h.holds with hcommitted | ⟨-, hrefused⟩
  · have hexpected : expected = c.journal.manifest.identity := by
      obtain ⟨_, -, hload⟩ := bind_eq_ok.mp hload
      obtain ⟨_, -, hload⟩ := bind_eq_ok.mp hload
      obtain ⟨manifest, hmanifest, hload⟩ := bind_eq_ok.mp hload
      obtain ⟨hsame, -⟩ := ensure_bind_eq_ok.mp hload
      simp only [Bool.and_eq_true, decide_eq_true_eq] at hsame
      unfold readManifest RiIngressJournal.checked at hmanifest
      rw [hcommitted.files] at hmanifest
      obtain rfl : c.journal.manifest = manifest := by
        have hpayload := hmanifest.symm.trans (if_pos rfl)
        exact (Except.ok.inj hpayload).symm
      exact hsame.2.symm
    obtain ⟨floor, -, hload'⟩ := load_committed hcommitted
    rw [hexpected, hload'] at hload
    obtain rfl := (Except.ok.inj hload).symm
    obtain rfl := (Except.ok.inj hreturn).symm
    exact ⟨hexpected, rfl, h.appended, h.sealed⟩
  · exact absurd hload (hrefused expected journal)

/-- What holds a journal is opened, when the clock has not gone back. -/
theorem Sound.opens (h : c.Sound text) (hready : c.journal.poisoned = false)
    (hreading : (localTime? reading).isSome = true) (hfloor : c.journal.clockFloor ≤ reading) :
    ∃ opened, openWithClock text c.dir c.journal.manifest.identity reading = .ok opened ∧
      c.Reopens reading opened := by
  obtain ⟨floor, hle, hload⟩ := load_committed (h.committed hready)
  have hnow : ({ c.journal with clockFloor := floor, poisoned := false } :
      RiIngressJournal).now reading = .ok () := now_eq_ok.mpr ⟨rfl, hreading, hle.trans hfloor⟩
  refine ⟨{ c.journal with clockFloor := reading, poisoned := false }, ?_, rfl, h.appended, h.sealed⟩
  unfold openWithClock
  rw [hload]
  show RiIngressJournal.now _ reading >>= _ = _
  rw [hnow]
  rfl

end Collector

/-- What is true of every run of a new collector. -/
structure CrashSafe (text : IngressText) (identity : IngressIdentity) (created : ℤ)
    (start : Collector) : Prop where
  /-- After a crash between two calls or at a step of the last one, what is opened is the journal of
  the calls that had returned. -/
  crashed : ∀ calls call, Clocked created (calls ++ [call]) →
    ∀ dir, dir = (start.run text calls).dir ∨ dir ∈ ((start.run text calls).call text call).steps →
        ∀ expected reading opened, openWithClock text dir expected reading = .ok opened →
          ∃ c : Collector, c.dir = dir ∧ c.Reopens reading opened ∧
            (c = start.run text calls ∨ (((start.run text calls).call text call).isOk = true ∧
              c = start.run text (calls ++ [call])))
  /-- After calls that all succeeded it is opened. -/
  opens : ∀ calls, Clocked created calls → start.Succeeded text calls →
    ∀ reading, (localTime? reading).isSome = true →
      (∀ earlier ∈ created :: calls.flatMap IngressCall.readings, earlier ≤ reading) →
        ∃ opened, openWithClock text (start.run text calls).dir identity reading = .ok opened ∧
          (start.run text calls).Reopens reading opened
  /-- No row past a barrier was received before the barrier was attested. -/
  attested : ∀ calls, Clocked created calls →
    ∀ i row, (start.run text calls).journal.rows[i]? = some row →
      ∀ saved ∈ (start.run text calls).journal.barriers, saved.barrier.lastSequence ≤ i →
        saved.barrier.attestedAtUtc ≤ row.raw.receivedAtUtc
  /-- Nor is anything received before it in a call that comes after it. -/
  received : ∀ calls sourceId rawBarJson clock names,
    Clocked created (calls ++ [.append sourceId rawBarJson clock names]) →
      ((start.run text calls).call text (.append sourceId rawBarJson clock names)).isOk = true →
        ∀ saved ∈ (start.run text calls).journal.barriers,
          saved.barrier.attestedAtUtc ≤ clock.received

theorem Created.crashSafe {text : IngressText} {identity : IngressIdentity} {created : ℤ}
    {journal : RiIngressJournal} (h : Created text identity created journal dir) :
    CrashSafe text identity created ⟨journal, dir, [], []⟩ := by
  have hstart : Collector.Sound text ⟨journal, dir, [], []⟩ := by
    refine ⟨.inl h.ready.committed, ?_, ?_, ?_⟩
    · rw [h.rows]
      rfl
    · rw [h.barriers]
      rfl
    · intro i row hrow
      rw [h.rows] at hrow
      exact (nomatch hrow)
  -- every prefix of the calls is sound, and so is the next call
  have hcall : ∀ calls call, Clocked created (calls ++ [call]) →
      Collector.Sound text ((⟨journal, dir, [], []⟩ : Collector).run text calls) ∧
        ((⟨journal, dir, [], []⟩ : Collector).run text calls).CallSpec text call
          (((⟨journal, dir, [], []⟩ : Collector).run text calls).call text call) := by
    intro calls call hclock
    have hsound := (hstart.run_calls (hclock.sublist (List.sublist_append_left _ _))).1
    exact ⟨hsound, hsound.call (hclock.sublist (List.sublist_append_right _ _))⟩
  refine ⟨?_, ?_, ?_, ?_⟩
  · intro calls call hclock dir' hdir expected reading opened hopen
    obtain ⟨hsound, hspec⟩ := hcall calls call hclock
    have hrun : (⟨journal, dir, [], []⟩ : Collector).run text (calls ++ [call]) =
        (((⟨journal, dir, [], []⟩ : Collector).run text calls).call text call).collector := by
      unfold Collector.run
      rw [List.foldl_append]
      rfl
    -- a crash finds the state before the call, after it, or a directory that is refused
    rcases hdir with rfl | hstep
    · exact ⟨_, rfl, (hsound.reopens hopen).2, .inl rfl⟩
    · rcases hspec.steps dir' hstep with hrefused | ⟨hok, rfl⟩
      · obtain ⟨loaded, hload, -⟩ := bind_eq_ok.mp hopen
        exact absurd hload (hrefused expected loaded)
      · exact ⟨_, rfl, (hspec.sound.reopens hopen).2, .inr ⟨hok, hrun.symm⟩⟩
  -- the clock has reached no reading later than this one
  · intro calls hclock hsucceeded reading hreading hlater
    obtain ⟨hsound, hmanifest, hfloor, hready⟩ := hstart.run_calls hclock
    have hle := hfloor reading (h.floor.trans_le (hlater created List.mem_cons_self))
      fun earlier hmem => hlater earlier (List.mem_cons_of_mem _ hmem)
    have hopens := hsound.opens (hready h.ready.ready hsucceeded) hreading hle
    rw [hmanifest, h.identity] at hopens
    exact hopens
  · intro calls hclock
    exact (hstart.run_calls hclock).1.attested
  · intro calls sourceId rawBarJson clock names hclock hok
    exact (hcall calls _ hclock).2.attested hok sourceId rawBarJson clock names rfl

namespace IngressSample

def text : IngressText where
  H := {
    identity identity := identity.profileId
    input input := toString input.sequence
    digests digests := toString digests.length
    bars bars := toString bars.length
    frozen frozen := toString frozen.sessionDate
    checkpoint state := toString state.journal.length }
  manifest manifest := manifest.identity.generation
  raw raw := raw.sourceId ++ raw.previousCommitSha256
  commit commit := toString commit.sequence ++ commit.rawSha256
  barrier saved := saved.lastCommitSha256
  fault fault := fault.rawSha256
  digest text := text
  size _ := 100
  fromStr raw :=
    if raw = "bar" then some ⟨"RIU6", 1783490400, 95, 100, 100, 90, 1, .live⟩ else none

def identity : IngressIdentity := ⟨"g1", "ingress", "bars", "RIU6"⟩

def clock (reading : ℤ) : AppendClock := ⟨reading, reading, reading⟩

def calls : List IngressCall :=
  [.append "1-0" "bar" (clock 1783491000) ⟨1, 2, 3⟩, .append "1-0" "bar" (clock 1783491001) ⟨4, 5, 6⟩,
    .sealCutoff 1783491001 1783491002 7, .append "1-1" "no bar" (clock 1783491003) ⟨8, 9, 10⟩]

def start : Collector :=
  ⟨newJournal identity 1783490000 100,
    ((∅ : IngressDirectory).insert .lock .lock).insert .manifest
      (.manifest ⟨⟨ingressVersion, identity, 1783490000⟩, "g1"⟩), [], []⟩

/-- A payload that comes again is one row; one that is no bar is a row all the same. -/
example : (start.run text calls).appended = [("1-0", "bar"), ("1-1", "no bar")] ∧
    (start.run text calls).sealed.length = 1 ∧
      ((openWithClock text (start.run text calls).dir identity 1783491003).map
        fun journal => (journal.rows.length, journal.barriers.length)).toOption = some (2, 1) := by
  decide +kernel

end IngressSample

end AlorRs.RiContext

