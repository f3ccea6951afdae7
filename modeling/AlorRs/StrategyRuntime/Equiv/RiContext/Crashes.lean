import AlorRs.StrategyRuntime.Equiv.RiContext.Ingress

/-!
# Crashes of the collector

A crash leaves the directory of any step.  The steps within a call leave a directory that is refused,
and the last step of one that succeeds leaves one that holds the new journal (`wp_append`,
`wp_sealCutoff`): so what is opened after a crash is the journal of the calls that had returned
(`Collector.Sound.call`).
-/

namespace AlorRs.RiContext

open Eff Outcome RiIngressJournal

variable {text : IngressText} {journal : RiIngressJournal} {disk : IngressDisk}

/-! ### What a call does to the disk -/

def Fails (text : IngressText) (disk disk' : IngressDisk) : Prop :=
  disk' = disk ∨ (Refused text disk'.dir ∧
    ∃ steps, disk'.steps = disk.steps ++ steps ∧ ∀ dir ∈ steps, Refused text dir)

def Succeeds (text : IngressText) (disk disk' : IngressDisk) : Prop :=
  ∃ steps, disk'.steps = disk.steps ++ steps ++ [disk'.dir] ∧ ∀ dir ∈ steps, Refused text dir

variable {disk'' disk' : IngressDisk}

/-- A later failure, after a step that leaves what is refused. -/
theorem Succeeds.fails (h : Succeeds text disk disk') (hrefused : Refused text disk'.dir)
    (h' : Fails text disk' disk'') : Fails text disk disk'' := by
  obtain ⟨steps, hsteps, hall⟩ := h
  have hall' : ∀ dir ∈ steps ++ [disk'.dir], Refused text dir := by
    intro dir hdir
    rcases List.mem_append.mp hdir with hmem | hlast
    · exact hall dir hmem
    · exact List.mem_singleton.mp hlast ▸ hrefused
  rcases h' with rfl | ⟨hlast, rest, hrest, hallRest⟩
  · exact .inr ⟨hrefused, _, by rw [hsteps, List.append_assoc], hall'⟩
  · refine .inr ⟨hlast, steps ++ [disk'.dir] ++ rest, ?_, ?_⟩
    · rw [hrest, hsteps]
      simp only [List.append_assoc]
    · intro dir hdir
      rcases List.mem_append.mp hdir with hmem | hmem
      · exact hall' dir hmem
      · exact hallRest dir hmem

theorem Succeeds.trans (h : Succeeds text disk disk') (hrefused : Refused text disk'.dir)
    (h' : Succeeds text disk' disk'') : Succeeds text disk disk'' := by
  obtain ⟨steps, hsteps, hall⟩ := h
  obtain ⟨rest, hrest, hallRest⟩ := h'
  refine ⟨steps ++ [disk'.dir] ++ rest, ?_, ?_⟩
  · rw [hrest, hsteps]
    simp only [List.append_assoc]
  · intro dir hdir
    rcases List.mem_append.mp hdir with hmem | hmem
    · rcases List.mem_append.mp hmem with hmem | hlast
      · exact hall dir hmem
      · exact List.mem_singleton.mp hlast ▸ hrefused
    · exact hallRest dir hmem

theorem Fails.trans (h : Fails text disk disk') (h' : Fails text disk' disk'') :
    Fails text disk disk'' := by
  rcases h with rfl | ⟨hrefused, steps, hsteps, hall⟩
  · exact h'
  · rcases h' with rfl | ⟨hlast, rest, hrest, hallRest⟩
    · exact .inr ⟨hrefused, steps, hsteps, hall⟩
    · refine .inr ⟨hlast, steps ++ rest, by rw [hrest, hsteps, List.append_assoc], ?_⟩
      intro dir hdir
      rcases List.mem_append.mp hdir with hmem | hmem
      · exact hall dir hmem
      · exact hallRest dir hmem

theorem wp_publishNew {id : ℕ} {name : FileName} {content : FileContent} :
    wp (text.publishNew id name content) () disk
      (fun bytes disk' => bytes = text.size content ∧ text.size content ≤ maxFileBytes ∧
        Disk.Adds disk.dir name content disk'.dir ∧ Succeeds text disk disk')
      (fun _ disk' => Fails text disk disk') := by
  unfold IngressText.publishNew
  split_ifs with hsize
  · exact .inl rfl
  · rw [wp_bind]
    refine wp_mono Disk.wp_publish ?_ ?_
    · rintro _ disk' ⟨hadds, first, second, hsteps, hfirst, hsecond⟩
      refine ⟨rfl, not_lt.mp hsize, hadds, [first, second], by simp [hsteps], ?_⟩
      intro dir hdir
      rcases List.mem_cons.mp hdir with rfl | hdir
      · exact .of_temporary hfirst
      · exact List.mem_singleton.mp hdir ▸ .of_temporary hsecond
    · rintro _ disk' (rfl | ⟨hsteps, hmem⟩)
      · exact .inl rfl
      · refine .inr ⟨.of_temporary hmem, [disk'.dir], hsteps, ?_⟩
        intro dir hdir
        exact List.mem_singleton.mp hdir ▸ .of_temporary hmem

/-! ### Appending -/

variable {reading : ℤ}

theorem now_eq_ok :
    journal.now reading = .ok () ↔ journal.poisoned = false ∧
      (localTime? reading).isSome = true ∧ journal.clockFloor ≤ reading := by
  unfold now
  rw [ensure_bind_eq_ok, bind_eq_ok, localTime?_isSome]
  constructor
  · rintro ⟨hpoisoned, dt, hdt, hfloor⟩
    exact ⟨by simpa using hpoisoned, ⟨dt, hdt⟩, of_decide_eq_true (ensure_eq_ok.mp hfloor)⟩
  · rintro ⟨hpoisoned, ⟨dt, hdt⟩, hfloor⟩
    exact ⟨by simp [hpoisoned], dt, hdt, ensure_eq_ok.mpr (decide_eq_true hfloor)⟩

/-- The readings of a clock that does not go back and shows times. -/
structure RiIngressJournal.AppendClock.Runs (clock : AppendClock) : Prop where
  received : clock.received ≤ clock.durable
  durable : clock.durable ≤ clock.completed
  valid : (localTime? clock.completed).isSome = true

def rowFor (text : IngressText) (raw : RawReceipt) (durable : ℤ) : Row :=
  ⟨raw, ⟨raw.sequence, text.raw raw, durable⟩⟩

def rowBytes (text : IngressText) (row : Row) : ℕ :=
  text.size (.raw ⟨row.raw, text.raw row.raw⟩) +
    text.size (.commit ⟨row.commit, text.commit row.commit⟩)

structure AddsRow (text : IngressText) (journal : RiIngressJournal) (row : Row)
    (dir dir' : IngressDirectory) : Prop where
  adds : ∃ between, Disk.Adds dir (.raw (journal.rows.length + 1))
      (.raw ⟨row.raw, text.raw row.raw⟩) between ∧
    Disk.Adds between (.commit (journal.rows.length + 1))
      (.commit ⟨row.commit, text.commit row.commit⟩) dir'
  rawSize : text.size (.raw ⟨row.raw, text.raw row.raw⟩) ≤ maxFileBytes
  commitSize : text.size (.commit ⟨row.commit, text.commit row.commit⟩) ≤ maxFileBytes

variable {raw : RawReceipt} {clock : AppendClock} {names : AppendNames}

/-- The two files of a row are published, or a crash leaves what is refused. -/
theorem wp_publishRow (h : Committed text journal disk.dir) (hready : journal.poisoned = false)
    (hsequence : raw.sequence = journal.rows.length + 1)
    (hfloor : journal.clockFloor ≤ clock.received) (hclock : clock.Runs) :
    wp (journal.publishRow text raw clock names) () disk
      (fun result disk' =>
        result = ((rowFor text raw clock.durable).commit,
          rowBytes text (rowFor text raw clock.durable)) ∧
        (localTime? clock.durable).isSome = true ∧
        AddsRow text journal (rowFor text raw clock.durable) disk.dir disk'.dir ∧
        Succeeds text disk disk')
      (fun _ disk' => Fails text disk disk') := by
  obtain ⟨sequence, sourceId, rawBarJson, received, previous⟩ := raw
  obtain rfl : sequence = journal.rows.length + 1 := hsequence
  unfold publishRow
  rw [wp_bind]
  refine wp_mono wp_publishNew ?_ fun _ _ hfails => hfails
  rintro rawBytes between ⟨hrawBytes, hrawSize, hraw, hsucceeds⟩
  -- the raw record stands alone
  have halone : Refused text between.dir := by
    have hne : FileName.commit (journal.rows.length + 1) ≠ .raw (journal.rows.length + 1) :=
      fun heq => (nomatch heq)
    refine .of_raw hraw.mem_self ?_
    rw [hraw.mem_of_ne hne]
    refine h.notMem ?_
    show (journal.rows[journal.rows.length]?).map _ = none
    rw [List.getElem?_eq_none le_rfl]
    rfl
  -- a failure from here on leaves the raw record, which is refused
  have hfails : ∀ {disk'}, Fails text between disk' → Fails text disk disk' :=
    fun h' => hsucceeds.fails halone h'
  rw [wp_bind, wp_ofExcept]
  refine ⟨?_, fun _ _ => hfails (.inl rfl)⟩
  intro _ hdurable
  have hvalid := (now_eq_ok.mp hdurable).2.1
  rw [wp_bind, wp_ofExcept]
  refine ⟨?_, fun _ _ => hfails (.inl rfl)⟩
  intro _ _
  rw [wp_bind]
  refine wp_mono wp_publishNew ?_ fun _ _ h' => hfails h'
  rintro commitBytes after ⟨hcommitBytes, hcommitSize, hcommit, hsucceeds'⟩
  -- the clock does not go back any more
  have hle : journal.clockFloor ≤ clock.completed :=
    hfloor.trans (hclock.received.trans hclock.durable)
  have hcompleted : journal.now clock.completed = .ok () :=
    now_eq_ok.mpr ⟨hready, hclock.valid, hle⟩
  have hregress : ensure (decide (clock.durable ≤ clock.completed))
      "ingress clock regressed during commit sync" = .ok () :=
    ensure_eq_ok.mpr (decide_eq_true hclock.durable)
  rw [wp_bind, wp_ofExcept, hcompleted]
  refine ⟨?_, fun _ herror => (nomatch herror)⟩
  intro _ _
  rw [wp_bind, wp_ofExcept, hregress]
  refine ⟨?_, fun _ herror => (nomatch herror)⟩
  intro _ _
  refine ⟨?_, hvalid, ⟨⟨between.dir, hraw, hcommit⟩, hrawSize, hcommitSize⟩,
    hsucceeds.trans halone hsucceeds'⟩
  rw [hrawBytes, hcommitBytes]
  rfl

variable {sourceId rawBarJson : String}

theorem newRaw_eq_ok {received : ℤ} (h : journal.newRaw text sourceId rawBarJson received = .ok raw) :
    journal.rows.length < maxRecords ∧ journal.totalBytes + 2 * maxFileBytes ≤ maxTotalBytes ∧
      journal.lastCommitHash text = .ok raw.previousCommitSha256 ∧
        raw.sequence = journal.rows.length + 1 ∧ raw.sourceId = sourceId ∧
          raw.rawBarJson = rawBarJson ∧ raw.receivedAtUtc = received := by
  obtain ⟨hrecords, h⟩ := ensure_bind_eq_ok.mp h
  obtain ⟨hbytes, h⟩ := ensure_bind_eq_ok.mp h
  obtain ⟨previous, hprevious, hreturn⟩ := bind_eq_ok.mp h
  obtain rfl := (Except.ok.inj hreturn).symm
  exact ⟨of_decide_eq_true hrecords, of_decide_eq_true hbytes, hprevious, rfl, rfl, rfl, rfl⟩

theorem lookup_of_rowOf (h : journal.Valid text) (hnone : journal.rowOf sourceId = none) :
    journal.bySource.lookup sourceId = none := by
  unfold rowOf at hnone
  cases hlookup : journal.bySource.lookup sourceId with
  | none => rfl
  | some i =>
    rw [hlookup] at hnone
    rw [h.index] at hlookup
    have hlt := lt_of_lookup_indexOf hlookup
    have hge := List.getElem?_eq_none_iff.mp hnone
    omega

theorem readRow_eq {durable : ℤ} {received : ℤ} (h : journal.Valid text)
    (hsource : validateSource sourceId rawBarJson = .ok ())
    (hraw : journal.newRaw text sourceId rawBarJson received = .ok raw)
    (hnone : journal.rowOf sourceId = none) (hreceived : (localTime? received).isSome = true)
    (hdurable : (localTime? durable).isSome = true) (hfloor : journal.clockFloor ≤ received)
    (hle : received ≤ durable) (total : ℕ) :
    (opened journal.manifest total journal.rows).readRow text raw (rowFor text raw durable).commit =
      .ok (opened journal.manifest total (journal.rows ++ [rowFor text raw durable])) := by
  obtain ⟨-, -, hprevious, hsequence, rfl, rfl, rfl⟩ := newRaw_eq_ok hraw
  have hindex := lookup_of_rowOf h hnone
  rw [h.index] at hindex
  -- the clock of the journal is not behind its rows
  have hfloorOf : floorOf journal.manifest journal.rows ≤ raw.receivedAtUtc := by
    unfold floorOf
    cases hlast : journal.rows.getLast? with
    | none => exact h.floor_created.trans hfloor
    | some row => exact (h.floor_row row (List.mem_of_getLast? hlast)).trans hfloor
  obtain ⟨dt, hdt⟩ := localTime?_isSome.mp hreceived
  obtain ⟨dt', hdt'⟩ := localTime?_isSome.mp hdurable
  -- each check of the reader is one that the call has passed
  unfold readRow rowFor
  rw [hsource]
  show ensure _ _ >>= _ = _
  rw [ensure_bind_eq_ok]
  refine ⟨by simp [opened, lastSequence, hsequence], ?_⟩
  show journal.lastCommitHash text >>= _ = _
  rw [hprevious]
  show ensure _ _ >>= _ = _
  rw [ensure_bind_eq_ok]
  refine ⟨by simp, ?_⟩
  rw [hdt, hdt']
  show ensure _ _ >>= _ = _
  rw [ensure_bind_eq_ok]
  refine ⟨by simp [opened, hfloorOf, hle], ?_⟩
  rw [ensure_bind_eq_ok]
  refine ⟨by simp [opened, hindex], ?_⟩
  show Except.ok _ = Except.ok _
  unfold opened
  rw [indexOf_concat, floorOf_concat]

/-- A row of a source, received and made durable as the clock said. -/
structure NewRow (row : Row) (sourceId rawBarJson : String) (clock : AppendClock) : Prop where
  sourceId : row.raw.sourceId = sourceId
  rawBarJson : row.raw.rawBarJson = rawBarJson
  received : row.raw.receivedAtUtc = clock.received

/-- A call of `append` that succeeds finds a row or adds one. -/
def Appended (text : IngressText) (sourceId rawBarJson : String) (clock : AppendClock)
    (journal : RiIngressJournal) (disk : IngressDisk) (journal' : RiIngressJournal)
    (receipt : AppendReceipt) (disk' : IngressDisk) : Prop :=
  (receipt.redelivery = true ∧ disk' = disk ∧
      journal' = { journal with clockFloor := clock.received }) ∨
    (receipt.redelivery = false ∧ Succeeds text disk disk' ∧ ∃ row bytes,
      NewRow row sourceId rawBarJson clock ∧ journal' = journal.withRow row bytes clock.completed)

/-- The journal of a call that succeeded. -/
structure Ready (text : IngressText) (journal : RiIngressJournal) (dir : IngressDirectory) : Prop where
  committed : Committed text journal dir
  ready : journal.poisoned = false

theorem wp_appendInner (h : Committed text journal disk.dir) (hready : journal.poisoned = false)
    (hclock : clock.Runs) :
    wp (journal.appendInner text sourceId rawBarJson clock names) () disk
      (fun result disk' => Ready text result.1 disk'.dir ∧ journal.clockFloor ≤ clock.received ∧
        Appended text sourceId rawBarJson clock journal disk result.1 result.2 disk')
      (fun _ disk' => Fails text disk disk') := by
  unfold appendInner
  rw [wp_bind, wp_ofExcept]
  refine ⟨?_, fun _ _ => .inl rfl⟩
  intro _ hnow
  obtain ⟨-, hreceived, hfloor⟩ := now_eq_ok.mp hnow
  rw [wp_bind, wp_ofExcept]
  refine ⟨?_, fun _ _ => .inl rfl⟩
  intro _ hsource
  -- the source is known already, and the clock moves on
  cases hrow : journal.rowOf sourceId with
  | some row =>
    rw [wp_bind, wp_ofExcept]
    refine ⟨?_, fun _ _ => .inl rfl⟩
    intro _ _
    exact ⟨⟨h.withFloor hfloor, hready⟩, hfloor, .inl ⟨rfl, rfl, rfl⟩⟩
  | none =>
    rw [wp_bind, wp_ofExcept]
    refine ⟨?_, fun _ _ => .inl rfl⟩
    -- the row is new
    intro raw hraw
    obtain ⟨hrecords, hbytes, -, hsequence, hsourceId, hjson, hreceivedAt⟩ := newRaw_eq_ok hraw
    rw [wp_bind]
    refine wp_mono (wp_publishRow h hready hsequence hfloor hclock) ?_ fun _ _ hfails => hfails
    rintro result disk' ⟨rfl, hdurable, hadds, hsucceeds⟩
    -- what is written is read back
    have hread := readRow_eq h.valid hsource hraw hrow hreceived hdurable hfloor hclock.received
    have hvalid : (journal.withRow (rowFor text raw clock.durable)
        (rowBytes text (rowFor text raw clock.durable)) clock.completed).Valid text :=
      h.valid.withRow hrecords hread (hfloor.trans hreceivedAt.ge) (hreceivedAt.trans_le hclock.received)
        hclock.durable
    obtain ⟨between, hraw', hcommit⟩ := hadds.adds
    have hgrown := h.withRow hvalid hraw' hcommit hadds.rawSize hadds.commitSize hbytes
    exact ⟨⟨hgrown, hready⟩, hfloor,
      .inr ⟨rfl, hsucceeds, _, _, ⟨hsourceId, hjson, hreceivedAt⟩, rfl⟩⟩

/-- A call of `append` succeeds, or the journal takes in nothing more. -/
theorem wp_append (h : journal.poisoned = false → Committed text journal disk.dir)
    (hclock : clock.Runs) :
    wp (journal.append text sourceId rawBarJson clock names) () disk
      (fun result disk' =>
        (∃ receipt, result.2 = .ok receipt ∧ Ready text result.1 disk'.dir ∧
          journal.clockFloor ≤ clock.received ∧
            Appended text sourceId rawBarJson clock journal disk result.1 receipt disk') ∨
        (∃ e, result.2 = .error e ∧ result.1 = { journal with poisoned := true } ∧
          Fails text disk disk'))
      (fun _ _ => False) := by
  unfold append
  split_ifs with hpoisoned
  · refine .inr ⟨_, rfl, ?_, .inl rfl⟩
    show journal = _
    rw [← hpoisoned]
  · have hready : journal.poisoned = false := by simpa using hpoisoned
    rw [wp_bind, wp_attempt]
    refine wp_mono (wp_appendInner (h hready) hready hclock) ?_ ?_
    · rintro ⟨journal', receipt⟩ disk' ⟨hready', hfloor, happended⟩
      exact .inl ⟨receipt, rfl, hready', hfloor, happended⟩
    · intro e disk' hfails
      rw [wp_bind, wp_attempt]
      refine wp_mono wp_publishNew ?_ ?_
      · rintro bytes disk'' ⟨-, -, hadds, hsucceeds⟩
        have hrefused : Refused text disk''.dir := .of_failed hadds.mem_self
        exact .inr ⟨e, rfl, rfl, hfails.trans (hsucceeds.fails hrefused (.inl rfl))⟩
      · intro _ disk'' hfails'
        exact .inr ⟨e, rfl, rfl, hfails.trans hfails'⟩

/-! ### Sealing -/

/-- A call of `seal_cutoff` finds a barrier or adds one. -/
def Sealed (text : IngressText) (throughUtc reading : ℤ) (journal : RiIngressJournal)
    (disk : IngressDisk) (journal' : RiIngressJournal) (barrier : ReceiptBarrier)
    (disk' : IngressDisk) : Prop :=
  barrier.throughUtc = throughUtc ∧ ((disk' = disk ∧ journal' = journal ∧ ∃ saved ∈ journal.barriers, saved.barrier = barrier) ∨
    (Succeeds text disk disk' ∧ ∃ saved bytes, saved.barrier = barrier ∧
      (∀ other ∈ journal.barriers, other.barrier ≠ barrier) ∧
        saved.barrier.lastSequence = journal.rows.length ∧
          journal' = journal.withBarrier saved bytes reading))

theorem newBarrier_eq_ok {throughUtc : ℤ} {saved : StoredBarrier}
    (h : journal.newBarrier text throughUtc reading = .ok saved) :
    journal.barriers.length < maxBarriers ∧ journal.totalBytes + maxFileBytes ≤ maxTotalBytes ∧
      journal.validateBarrier text saved = .ok () ∧ saved.barrier.throughUtc = throughUtc ∧
        saved.barrier.attestedAtUtc = reading ∧
          saved.barrier.lastSequence = journal.rows.length := by
  obtain ⟨hbarriers, h⟩ := ensure_bind_eq_ok.mp h
  obtain ⟨hbytes, h⟩ := ensure_bind_eq_ok.mp h
  obtain ⟨inputs, -, h⟩ := bind_eq_ok.mp h
  obtain ⟨commit, -, h⟩ := bind_eq_ok.mp h
  obtain ⟨_, hvalid, hreturn⟩ := bind_eq_ok.mp h
  obtain rfl := (Except.ok.inj hreturn).symm
  exact ⟨of_decide_eq_true hbarriers, of_decide_eq_true hbytes, hvalid, rfl, rfl, rfl⟩

/-- A call of `seal_cutoff` succeeds, or the journal takes in nothing more, or nothing is done. -/
theorem wp_sealCutoff {throughUtc : ℤ} {id : ℕ}
    (h : journal.poisoned = false → Committed text journal disk.dir) :
    wp (journal.sealCutoff text throughUtc reading id) () disk
      (fun result disk' =>
        (∃ barrier, result.2 = .ok barrier ∧ Ready text result.1 disk'.dir ∧
          Sealed text throughUtc reading journal disk result.1 barrier disk') ∨
        (∃ e, result.2 = .error e ∧ ((result.1 = journal ∧ disk' = disk) ∨
          (result.1 = { journal with poisoned := true } ∧ Fails text disk disk'))))
      (fun _ _ => False) := by
  unfold sealCutoff
  cases hcheck : journal.checkCutoff throughUtc reading with
  | error e => exact .inr ⟨e, rfl, .inl ⟨rfl, rfl⟩⟩
  | ok _ =>
    obtain ⟨_, hnow, -⟩ := bind_eq_ok.mp hcheck
    obtain ⟨hready, -, hfloor⟩ := now_eq_ok.mp hnow
    have hcommitted := h hready
    cases hfind : journal.barriers.find? fun saved => saved.barrier.throughUtc = throughUtc with
    | some saved =>
      -- the cutoff is sealed already
      have hthrough : saved.barrier.throughUtc = throughUtc := by
        simpa using List.find?_some hfind
      exact .inl ⟨_, rfl, ⟨hcommitted, hready⟩, hthrough,
        .inl ⟨rfl, rfl, saved, List.mem_of_find?_eq_some hfind, rfl⟩⟩
    | none =>
      cases hnew : journal.newBarrier text throughUtc reading with
      | error e => exact .inr ⟨e, rfl, .inl ⟨rfl, rfl⟩⟩
      | ok saved =>
        obtain ⟨hlimit, hbytes, hvalid, hthrough, hattested, hlast⟩ := newBarrier_eq_ok hnew
        rw [wp_bind, wp_attempt]
        refine wp_mono wp_publishNew ?_ ?_
        · rintro bytes disk' ⟨rfl, hsize, hadds, hsucceeds⟩
          have hgrown : (journal.withBarrier saved
              (text.size (.barrier ⟨saved, text.barrier saved⟩)) reading).Valid text :=
            hcommitted.valid.withBarrier hlimit hvalid hattested hfloor
          -- no barrier of the journal has its cutoff
          have hother : ∀ other ∈ journal.barriers, other.barrier ≠ saved.barrier := by
            intro other hmem hsame
            have hne := List.find?_eq_none.mp hfind other hmem
            rw [hsame, hthrough] at hne
            exact hne (decide_eq_true rfl)
          exact .inl ⟨_, rfl, ⟨hcommitted.withBarrier hgrown hadds hsize hbytes, hready⟩, hthrough,
            .inr ⟨hsucceeds, saved, _, rfl, hother, hlast, rfl⟩⟩
        · intro e disk' hfails
          exact .inr ⟨e, rfl, .inr ⟨rfl, hfails⟩⟩

end AlorRs.RiContext
