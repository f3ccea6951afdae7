import AlorRs.StrategyRuntime.Equiv.RiContext.RedisSource

/-!
# What a sealed cutoff covers

The journal of a source follows one incarnation of a stream without a gap.  A stream that was created
again could show the entry at which the journal ended once more, and then a poll would go on from it
(`source_incomplete`); when it does not, all polls after it fail, and a barrier covers what was there
when it was sealed (`source_complete`).
-/

namespace AlorRs.RiContext

open Eff Outcome RiIngressJournal

variable {text : IngressText}

/-! ### Runs -/

/-- A source with its journal and the stream that it reads.  Of the past there are the incarnations of
the stream that were deleted, the entry at which the journal ended when the last of them was, what was
in the stream at the last poll that was caught up, and the same of each barrier that was sealed. -/
structure SourceRun where
  source : RiRedisSource
  journal : RiIngressJournal
  dir : IngressDirectory
  stream : EntryStream StreamEntry
  deleted : List (List StreamEntry)
  left : Option StreamEntry
  polled : List StreamEntry
  sealed : List (ReceiptBarrier × List StreamEntry)

/-- What happens to the stream, and what the source does.  A source may start anew, and a poll may get
no answer. -/
inductive SourceEvent where
  | add (entry : StreamEntry)
  | trim (count : ℕ)
  | recreate
  | restart (identity : IngressIdentity) (firstId : Option String)
  | poll (isAnswered : Bool) (clock : PollClock)
  | sealCutoff (cutoff reading : ℤ) (id : ℕ)

namespace SourceRun

def reply (run : SourceRun) (isAnswered : Bool) : Except String StreamReply :=
  if isAnswered then answer run.stream run.source run.journal else .error "connection lost"

def step (text : IngressText) (run : SourceRun) : SourceEvent → SourceRun
  | .add entry =>
    if entry.IsEntry then { run with stream := run.stream.add StreamEntry.key entry } else run
  | .trim count => { run with stream := run.stream.trim count }
  | .recreate =>
    { run with
      stream := .empty
      deleted := run.deleted ++ [run.stream.added]
      left := run.journal.entries.getLast? }
  | .restart identity firstId =>
    match RiRedisSource.new identity with
    | .error _ => run
    | .ok source =>
      match firstId with
      | none => { run with source := source }
      | some firstId => { run with source := (source.startAt firstId).toOption.getD source }
  | .poll isAnswered clock =>
    match (run.source.poll text run.journal (run.reply isAnswered) clock).run () ⟨run.dir, []⟩ with
    | (.ok (source, journal, _), disk) =>
      { run with
        source := source
        journal := journal
        dir := disk.dir
        polled := if source.lastSuccess.isSome then run.stream.present else run.polled }
    | (.error _, disk) => { run with dir := disk.dir }
  | .sealCutoff cutoff reading id =>
    match (run.source.sealCutoff text run.journal cutoff reading id).run () ⟨run.dir, []⟩ with
    | (.ok (journal, .ok barrier), disk) =>
      { run with
        journal := journal
        dir := disk.dir
        sealed := if barrier ∈ run.journal.barriers.map (·.barrier) then run.sealed
          else run.sealed ++ [(barrier, run.polled)] }
    | (.ok (journal, .error _), disk) => { run with journal := journal, dir := disk.dir }
    | (.error _, disk) => { run with dir := disk.dir }

def run (text : IngressText) (start : SourceRun) (events : List SourceEvent) : SourceRun :=
  events.foldl (step text) start

/-- The journal and the barrier of a call of `seal_cutoff` that succeeds. -/
def sealing (text : IngressText) (run : SourceRun) (cutoff reading : ℤ) (id : ℕ) :
    Option (RiIngressJournal × ReceiptBarrier) :=
  match (run.source.sealCutoff text run.journal cutoff reading id).run () ⟨run.dir, []⟩ with
  | (.ok (journal, .ok barrier), _) => some (journal, barrier)
  | _ => none

theorem run_concat (start : SourceRun) (events : List SourceEvent) (event : SourceEvent) :
    start.run text (events ++ [event]) = (start.run text events).step text event := by
  unfold run
  rw [List.foldl_append]
  rfl

def incarnations (run : SourceRun) : List (List StreamEntry) := run.deleted ++ [run.stream.added]

/-- No stream that was created again has the entry at which the journal ended when the one before it
was deleted. -/
def Distinct (text : IngressText) (run : SourceRun) : List SourceEvent → Prop
  | [] => True
  | event :: events => (match event with
    | .add entry => some entry ≠ run.left
    | _ => True) ∧ (run.step text event).Distinct text events

variable {run : SourceRun}

/-- Where the rows of a journal are: in the stream as it is, or in one that was deleted while the entry
at which the journal ended is not in the stream any more. -/
inductive Place (run : SourceRun) : Prop
  | here (hleft : run.left = none) {front rest : List StreamEntry}
    (hsplit : run.stream.added = front ++ (run.journal.entries ++ rest))
  | gone {last : StreamEntry} (hleft : run.left = some last)
    (hlast : run.journal.entries.getLast? = some last) (hnew : last ∉ run.stream.added)
    {incarnation : List StreamEntry} (hmem : incarnation ∈ run.deleted)
    (hsegment : run.journal.entries <:+: incarnation)

structure Sound (text : IngressText) (run : SourceRun) : Prop where
  follows : Follows text run.journal run.dir
  isStream : IsStream run.stream
  place : run.Place
  /-- A source that is caught up has what was there. -/
  polled : run.source.lastSuccess.isSome = true → Covers run.polled run.journal.entries
  /-- A barrier covers what was there when it was sealed. -/
  sealed : ∀ saved ∈ run.journal.barriers, ∃ snapshot, (saved.barrier, snapshot) ∈ run.sealed ∧
    saved.barrier.lastSequence ≤ run.journal.rows.length ∧
      Covers snapshot (run.journal.entries.take saved.barrier.lastSequence)

namespace Sound

theorem exists_incarnation (h : run.Sound text) :
    ∃ incarnation ∈ run.incarnations, run.journal.entries <:+: incarnation := by
  cases h.place with
  | here hleft hsplit =>
    rename_i front rest
    refine ⟨run.stream.added, List.mem_append_right _ (List.mem_singleton_self _), front, rest, ?_⟩
    rw [hsplit, List.append_assoc]
  | gone hleft hlast hnew hmem hsegment => exact ⟨_, List.mem_append_left _ hmem, hsegment⟩

theorem withStream {stream : EntryStream StreamEntry} (h : run.Sound text) (hs : IsStream stream)
    (hplace : Place { run with stream := stream }) : Sound text { run with stream := stream } :=
  ⟨h.follows, hs, hplace, h.polled, h.sealed⟩

theorem add (h : run.Sound text) {entry : StreamEntry} (hentry : entry.IsEntry)
    (hdistinct : some entry ≠ run.left) :
    Sound text { run with stream := run.stream.add StreamEntry.key entry } := by
  -- an entry whose id is not larger is not added
  have hadded : (run.stream.add StreamEntry.key entry).added = run.stream.added ∨
      (run.stream.add StreamEntry.key entry).added = run.stream.added ++ [entry] := by
    unfold EntryStream.add
    split_ifs
    · exact .inr rfl
    · exact .inl rfl
  refine h.withStream ⟨h.isStream.increasing.add entry, ?_⟩ ?_
  · intro other hother
    rcases hadded with hsame | hnew
    · rw [hsame] at hother
      exact h.isStream.isEntry other hother
    · rw [hnew] at hother
      rcases List.mem_append.mp hother with hold | hlast
      · exact h.isStream.isEntry other hold
      · rw [List.mem_singleton.mp hlast]
        exact hentry
  · cases h.place with
    | here hleft hsplit =>
      rename_i front rest
      rcases hadded with hsame | hnew
      · exact .here hleft (hsame.trans hsplit)
      · refine .here hleft (?_ : _ = front ++ (run.journal.entries ++ (rest ++ [entry])))
        show (run.stream.add StreamEntry.key entry).added = _
        rw [hnew, hsplit]
        simp only [List.append_assoc]
    | gone hleft hlast hnew hmem hsegment =>
      rename_i last incarnation
      refine .gone hleft hlast ?_ hmem hsegment
      show last ∉ (run.stream.add StreamEntry.key entry).added
      rcases hadded with hsame | hone
      · rw [hsame]
        exact hnew
      · rw [hone]
        intro hmem'
        rcases List.mem_append.mp hmem' with hold | hlast'
        · exact hnew hold
        -- the entry that was left behind does not come again
        · rw [hleft, List.mem_singleton.mp hlast'] at hdistinct
          exact hdistinct rfl

theorem recreate (h : run.Sound text) :
    Sound text { run with
      stream := .empty
      deleted := run.deleted ++ [run.stream.added]
      left := run.journal.entries.getLast? } := by
  refine ⟨h.follows, ⟨.empty, fun _ hmem => absurd hmem List.not_mem_nil⟩, ?_, h.polled, h.sealed⟩
  cases hlast : run.journal.entries.getLast? with
  | none =>
    refine .here rfl (?_ : _ = [] ++ (run.journal.entries ++ []))
    rw [List.getLast?_eq_none_iff.mp hlast]
    rfl
  | some last =>
    obtain ⟨incarnation, hmem, hsegment⟩ := h.exists_incarnation
    exact .gone rfl hlast List.not_mem_nil hmem hsegment

variable {journal : RiIngressJournal}

/-- Barriers cover what they did when rows are added. -/
theorem sealed_append {taken : List StreamEntry} (h : run.Sound text)
    (hbarriers : journal.barriers = run.journal.barriers)
    (hentries : journal.entries = run.journal.entries ++ taken) :
    ∀ saved ∈ journal.barriers, ∃ snapshot, (saved.barrier, snapshot) ∈ run.sealed ∧
      saved.barrier.lastSequence ≤ journal.rows.length ∧
        Covers snapshot (journal.entries.take saved.barrier.lastSequence) := by
  intro saved hsaved
  rw [hbarriers] at hsaved
  obtain ⟨snapshot, hmem, hle, hcovers⟩ := h.sealed saved hsaved
  have hlength : run.journal.entries.length = run.journal.rows.length := List.length_map _
  have hlength' : journal.entries.length = journal.rows.length := List.length_map _
  refine ⟨snapshot, hmem, ?_, ?_⟩
  · rw [← hlength', hentries, List.length_append]
    omega
  · rw [hentries, List.take_append_of_le_length (hle.trans hlength.ge)]
    exact hcovers

variable {dir : IngressDirectory} {source : RiRedisSource}

theorem polls {isAnswered : Bool} {started : ℤ} (h : run.Sound text)
    (hfollows : Follows text journal dir)
    (hpolls : Polls { run.source with lastSuccess := none } source (run.reply isAnswered) started
      run.journal journal) :
    Sound text { run with
      source := source
      journal := journal
      dir := dir
      polled := if source.lastSuccess.isSome then run.stream.present else run.polled } := by
  rcases hpolls.entries with ⟨hentries, hnone⟩ | ⟨batch, previous, taken, hreceive, htaken, hentries, hall⟩
  -- nothing was received
  · have hsealed := h.sealed_append hpolls.barriers (hentries.trans (List.append_nil _).symm)
    refine ⟨hfollows, h.isStream, ?_, ?_, hsealed⟩
    · cases h.place with
      | here hleft hsplit => exact .here hleft (hentries ▸ hsplit)
      | gone hleft hlast hnew hmem hsegment =>
        exact .gone hleft (hentries ▸ hlast) hnew hmem (hentries ▸ hsegment)
    · intro hsome
      rw [hnone] at hsome
      exact (nomatch hsome)
  · have hsealed := h.sealed_append hpolls.barriers hentries
    obtain ⟨_, received, -, hreply, -⟩ := receive_eq_ok hreceive
    unfold reply at hreceive hreply
    split_ifs at hreceive hreply
    change RiRedisSource.receive _ _ (answer run.stream { run.source with lastSuccess := none }
      run.journal) started = _ at hreceive
    cases h.place with
    | here hleft hsplit =>
      obtain ⟨front, rest, hsplit, rfl, hempty⟩ := h.isStream.receive h.follows hsplit hreceive
      -- the rows go on where the stream has them
      obtain ⟨more, hmore⟩ := htaken.trans (List.take_prefix _ _)
      refine ⟨hfollows, h.isStream, .here hleft (?_ : _ = front ++ (journal.entries ++ more)), ?_,
        hsealed⟩
      · show run.stream.added = _
        rw [hsplit, hentries, ← hmore]
        simp only [List.append_assoc]
      · intro hsome
        obtain ⟨hbatch, hlt⟩ := hall hsome
        -- a batch that is not full was all there was
        have hwhole : rest.take redisBatch = rest := by
          refine List.take_of_length_le ?_
          rw [List.length_take] at hlt
          omega
        show Covers (if source.lastSuccess.isSome then run.stream.present else run.polled)
          journal.entries
        rw [if_pos hsome, hentries, hbatch, hwhole]
        exact h.isStream.covers hsplit hempty
    -- what was left behind is no longer present
    | gone hleft hlast hnew hmem hsegment =>
      obtain ⟨hpresent, -⟩ := last_of_receive h.follows hlast hreceive
      exact absurd (run.stream.present_suffix.subset hpresent) hnew

/-- A source that starts anew is not ready. -/
theorem withSource (h : run.Sound text) (hsource : source.lastSuccess = none) :
    Sound text { run with source := source } := by
  refine ⟨h.follows, h.isStream, ?_, ?_, h.sealed⟩
  · cases h.place with
    | here hleft hsplit => exact .here hleft hsplit
    | gone hleft hlast hnew hmem hsegment => exact .gone hleft hlast hnew hmem hsegment
  · intro hsome
    rw [hsource] at hsome
    exact (nomatch hsome)

theorem withJournal {sealed : List (ReceiptBarrier × List StreamEntry)} (h : run.Sound text)
    (hkept : Kept text journal dir) (hindex : journal.IsIndexed)
    (hrows : journal.rows = run.journal.rows)
    (hsealed : ∀ saved ∈ journal.barriers, ∃ snapshot, (saved.barrier, snapshot) ∈ sealed ∧
      saved.barrier.lastSequence ≤ journal.rows.length ∧
        Covers snapshot (journal.entries.take saved.barrier.lastSequence)) :
    Sound text { run with journal := journal, dir := dir, sealed := sealed } := by
  have hentries : journal.entries = run.journal.entries := congrArg (List.map Row.entry) hrows
  refine ⟨⟨hkept, hindex, hentries ▸ h.follows.isEntry, hentries ▸ h.follows.ordered⟩, h.isStream, ?_,
    ?_, hsealed⟩
  · cases h.place with
    | here hleft hsplit => exact .here hleft (hentries ▸ hsplit)
    | gone hleft hlast hnew hmem hsegment =>
      exact .gone hleft (hentries ▸ hlast) hnew hmem (hentries ▸ hsegment)
  · show _ → Covers run.polled journal.entries
    rw [hentries]
    exact h.polled

variable {cutoff : ℤ} {barrier : ReceiptBarrier}

/-- A barrier that is returned covers what was there when it was sealed, which is what was there at the
last poll when its cutoff was not sealed before. -/
theorem seals (h : run.Sound text) (hkept : Kept text journal dir) (hindex : journal.IsIndexed)
    (hseals : SealsTo cutoff run.journal journal (.ok barrier))
    (hready : run.source.lastSuccess.isSome = true) :
    Sound text { run with
      journal := journal
      dir := dir
      sealed := if barrier ∈ run.journal.barriers.map (·.barrier) then run.sealed
        else run.sealed ++ [(barrier, run.polled)] } := by
  have hsealed := h.sealed_append rfl (List.append_nil run.journal.entries).symm
  cases hseals with
  | known hsaved hsame hthrough =>
    rename_i saved
    rw [if_pos (List.mem_map_of_mem hsaved)]
    subst hsame
    exact h.withJournal hkept hindex rfl hsealed
  | sealed hrows hbarriers hnew hthrough hlast =>
    rename_i saved
    -- a barrier of this cutoff would have been found
    have hfresh : saved.barrier ∉ run.journal.barriers.map (·.barrier) := by
      intro hmem
      obtain ⟨other, hother, hsame⟩ := List.mem_map.mp hmem
      exact hnew other hother (by rw [hsame, hthrough])
    rw [if_neg hfresh]
    have hentries : journal.entries = run.journal.entries := congrArg (List.map Row.entry) hrows
    refine h.withJournal hkept hindex hrows ?_
    intro other hother
    rw [hbarriers] at hother
    rcases List.mem_append.mp hother with hold | hone
    · obtain ⟨snapshot, hmem, hle, hcovers⟩ := hsealed other hold
      exact ⟨snapshot, List.mem_append_left _ hmem, hrows ▸ hle, hentries ▸ hcovers⟩
    · obtain rfl := List.mem_singleton.mp hone
      refine ⟨run.polled, List.mem_append_right _ (List.mem_singleton_self _), ?_, ?_⟩
      · rw [hlast, hrows]
      -- the barrier covers all rows there are
      · have hwhole : run.journal.entries.take run.journal.rows.length = run.journal.entries :=
          List.take_of_length_le (List.length_map Row.entry).le
        rw [hlast, hentries, hwhole]
        exact h.polled hready

theorem failsToSeal {e : String} (h : run.Sound text) (hkept : Kept text journal dir)
    (hindex : journal.IsIndexed) (hseals : SealsTo cutoff run.journal journal (.error e)) :
    Sound text { run with journal := journal, dir := dir } := by
  cases hseals with
  | failed hrows hbarriers =>
    exact h.withJournal hkept hindex hrows
      (h.sealed_append hbarriers ((congrArg (List.map Row.entry) hrows).trans (List.append_nil _).symm))

theorem wp_sealCutoff {reading : ℤ} {id : ℕ} (h : run.Sound text) :
    wp (run.source.sealCutoff text run.journal cutoff reading id) () ⟨run.dir, []⟩
      (fun result disk' => Kept text result.1 disk'.dir ∧ result.1.IsIndexed ∧
        SealsTo cutoff run.journal result.1 result.2 ∧ (result.2.isOk = true →
          ∃ polledAt, run.source.lastSuccess = some (polledAt, run.journal.lastSequence) ∧
            cutoff ≤ polledAt))
      (fun _ _ => False) := by
  unfold RiRedisSource.sealCutoff
  cases hcheck : run.source.checkSeal run.journal cutoff with
  | error e => exact ⟨h.follows.kept, h.follows.index, .failed rfl rfl, nofun⟩
  | ok _ =>
    refine wp_mono (wp_and (wp_sealCutoff_held h.follows.kept) (wp_sealCutoff_index h.follows.index))
      ?_ fun _ _ hfalse => hfalse.1
    rintro ⟨journal, outcome⟩ disk' ⟨⟨hgoes, hseals⟩, hindex⟩
    refine ⟨hgoes.kept, hindex, hseals, fun _ => ?_⟩
    obtain ⟨-, hcheck⟩ := ensure_bind_eq_ok.mp hcheck
    cases hsuccess : run.source.lastSuccess with
    | none =>
      rw [hsuccess] at hcheck
      exact (nomatch hcheck)
    | some success =>
      obtain ⟨polledAt, sequence⟩ := success
      rw [hsuccess] at hcheck
      have htimes := ensure_eq_ok.mp hcheck
      simp only [Bool.and_eq_true, decide_eq_true_eq] at htimes
      exact ⟨polledAt, by rw [htimes.2], htimes.1⟩

theorem step (h : run.Sound text) (event : SourceEvent)
    (hdistinct : ∀ entry, event = .add entry → some entry ≠ run.left) :
    (run.step text event).Sound text := by
  cases event with
  | add entry =>
    unfold SourceRun.step
    dsimp only
    split_ifs with hentry
    · exact h.add hentry (hdistinct entry rfl)
    · exact h
  | trim count =>
    refine h.withStream ⟨h.isStream.increasing.trim count, h.isStream.isEntry⟩ ?_
    cases h.place with
    | here hleft hsplit => exact .here hleft hsplit
    | gone hleft hlast hnew hmem hsegment => exact .gone hleft hlast hnew hmem hsegment
  | recreate => exact h.recreate
  | restart identity firstId =>
    unfold SourceRun.step
    dsimp only
    cases hnew : RiRedisSource.new identity with
    | error e => exact h
    | ok source =>
      have hsource : source.lastSuccess = none := by
        obtain ⟨_, -, hreturn⟩ := bind_eq_ok.mp hnew
        rw [← Except.ok.inj hreturn]
      cases firstId with
      | none => exact h.withSource hsource
      -- a restart begins without a success
      | some firstId =>
        refine h.withSource ?_
        cases hstart : source.startAt firstId with
        | error e => exact hsource
        | ok started =>
          obtain ⟨_, -, hstart⟩ := bind_eq_ok.mp hstart
          obtain ⟨-, hstart⟩ := ensure_bind_eq_ok.mp hstart
          obtain ⟨-, hreturn⟩ := ensure_bind_eq_ok.mp hstart
          rw [← Except.ok.inj hreturn]
          exact hsource
  | poll isAnswered clock =>
    have hwp : wp (run.source.poll text run.journal (run.reply isAnswered) clock) () ⟨run.dir, []⟩ _ _ :=
      wp_poll h.follows
    unfold wp at hwp
    unfold SourceRun.step
    dsimp only
    generalize (run.source.poll text run.journal (run.reply isAnswered) clock).run () ⟨run.dir, []⟩ =
      outcome at hwp ⊢
    rcases outcome with ⟨e | ⟨source, journal, result⟩, disk⟩
    · exact hwp.elim
    · exact h.polls hwp.1 hwp.2
  | sealCutoff cutoff reading id =>
    have hwp : wp (run.source.sealCutoff text run.journal cutoff reading id) () ⟨run.dir, []⟩ _ _ :=
      h.wp_sealCutoff
    unfold wp at hwp
    unfold SourceRun.step
    dsimp only
    generalize (run.source.sealCutoff text run.journal cutoff reading id).run () ⟨run.dir, []⟩ =
      outcome at hwp ⊢
    rcases outcome with ⟨e | ⟨journal, e | barrier⟩, disk⟩
    · exact hwp.elim
    · exact h.failsToSeal hwp.1 hwp.2.1 hwp.2.2.1
    · obtain ⟨hkept, hindex, hseals, hready⟩ := hwp
      obtain ⟨polledAt, hsuccess, -⟩ := hready rfl
      exact h.seals hkept hindex hseals (by rw [hsuccess]; rfl)

/-- What a barrier that is returned covers. -/
theorem of_sealing {reading : ℤ} {id : ℕ} {journal' : RiIngressJournal} (h : run.Sound text)
    (hseal : run.sealing text cutoff reading id = some (journal', barrier)) :
    ∃ snapshot, (barrier, snapshot) ∈ (run.step text (.sealCutoff cutoff reading id)).sealed ∧
      Covers snapshot (journal'.entries.take barrier.lastSequence) ∧
        ((∀ saved ∈ run.journal.barriers, saved.barrier.throughUtc ≠ cutoff) →
          snapshot = run.polled ∧ ∃ success ∈ run.source.lastSuccess, cutoff ≤ success.1) := by
  have hwp : wp (run.source.sealCutoff text run.journal cutoff reading id) () ⟨run.dir, []⟩ _ _ :=
    h.wp_sealCutoff
  unfold wp at hwp
  unfold sealing at hseal
  unfold SourceRun.step
  dsimp only
  generalize (run.source.sealCutoff text run.journal cutoff reading id).run () ⟨run.dir, []⟩ =
    outcome at hwp hseal ⊢
  rcases outcome with ⟨e | ⟨journal, e | returned⟩, disk⟩
  · exact hwp.elim
  · exact (nomatch hseal)
  · obtain ⟨rfl, rfl⟩ := Prod.mk.inj (Option.some.inj hseal)
    obtain ⟨-, -, hseals, hready⟩ := hwp
    obtain ⟨polledAt, hsuccess, hle⟩ := hready rfl
    dsimp only
    cases hseals with
    | known hsaved hsame hthrough =>
      rename_i saved
      subst hsame
      obtain ⟨snapshot, hmem, -, hcovers⟩ := h.sealed saved hsaved
      rw [if_pos (List.mem_map_of_mem hsaved)]
      exact ⟨snapshot, hmem, hcovers, fun hnew => absurd hthrough (hnew saved hsaved)⟩
    | sealed hrows hbarriers hnew hthrough hlast =>
      rename_i saved
      have hfresh : saved.barrier ∉ run.journal.barriers.map (·.barrier) := by
        intro hmem
        obtain ⟨other, hother, hsame⟩ := List.mem_map.mp hmem
        exact hnew other hother (by rw [hsame, hthrough])
      rw [if_neg hfresh]
      refine ⟨run.polled, List.mem_append_right _ (List.mem_singleton_self _), ?_,
        fun _ => ⟨rfl, (polledAt, _), hsuccess, hle⟩⟩
      have hentries : journal.entries = run.journal.entries := congrArg (List.map Row.entry) hrows
      have hwhole : run.journal.entries.take run.journal.rows.length = run.journal.entries :=
        List.take_of_length_le (List.length_map Row.entry).le
      rw [hlast, hentries, hwhole]
      exact h.polled (by rw [hsuccess]; rfl)

theorem run_events (h : run.Sound text) (events : List SourceEvent)
    (hdistinct : run.Distinct text events) : (run.run text events).Sound text := by
  induction events generalizing run with
  | nil => exact h
  | cons event events ih =>
    obtain ⟨hevent, hrest⟩ := hdistinct
    refine ih (h.step event ?_) hrest
    rintro entry rfl
    exact hevent

end Sound

end SourceRun

/-- What is true of every run of a new source, in which no stream that was created again has the entry
at which the journal ended. -/
structure SourceComplete (text : IngressText) (start : SourceRun) : Prop where
  /-- The rows are entries that followed each other in one incarnation of the stream, in the order of
  their ids. -/
  segment : ∀ events, start.Distinct text events →
    (start.run text events).journal.entries.Pairwise (·.key < ·.key) ∧
      ∃ incarnation ∈ (start.run text events).incarnations,
        (start.run text events).journal.entries <:+: incarnation
  /-- A barrier that is returned covers what was in the stream at a poll that was caught up, the last
  one when its cutoff was not sealed before. -/
  sealed : ∀ events, start.Distinct text events → ∀ cutoff reading id journal' barrier,
    (start.run text events).sealing text cutoff reading id = some (journal', barrier) →
      ∃ snapshot, (barrier, snapshot) ∈
          (start.run text (events ++ [.sealCutoff cutoff reading id])).sealed ∧
        Covers snapshot (journal'.entries.take barrier.lastSequence) ∧
          ((∀ saved ∈ (start.run text events).journal.barriers, saved.barrier.throughUtc ≠ cutoff) →
            snapshot = (start.run text events).polled ∧
              ∃ success ∈ (start.run text events).source.lastSuccess, cutoff ≤ success.1)

/-- A new source over a new journal, with a stream that has no entries yet. -/
def SourceRun.start (source : RiRedisSource) (journal : RiIngressJournal) (dir : IngressDirectory) :
    SourceRun := ⟨source, journal, dir, .empty, [], none, [], []⟩

/-- The rows of a journal follow its stream without a gap, and a cutoff that is sealed covers what was
there at the last poll. -/
theorem source_complete (text : IngressText) (identity polled : IngressIdentity) (created : ℤ)
    (id : ℕ) :
    match (create text identity created id).run () ⟨∅, []⟩, RiRedisSource.new polled with
    | (.ok journal, disk), .ok source => SourceComplete text (.start source journal disk.dir)
    | _, _ => True := by
  have hwp : wp (create text identity created id) () ⟨∅, []⟩ _ _ := wp_create
  unfold wp at hwp
  generalize (create text identity created id).run () ⟨∅, []⟩ = outcome at hwp ⊢
  rcases outcome with ⟨e | journal, disk⟩
  · trivial
  cases hnew : RiRedisSource.new polled with
  | error e => trivial
  | ok source =>
    obtain ⟨hcreated, -⟩ := hwp
    have hentries : journal.entries = [] := by
      unfold RiIngressJournal.entries
      rw [hcreated.rows]
      rfl
    have hstart : SourceRun.Sound text (.start source journal disk.dir) := by
      have hfile := hcreated.ready.committed.files .manifest
      refine ⟨⟨⟨.of_empty hfile hcreated.rows hcreated.barriers,
        .of_empty hcreated.rows hcreated.barriers⟩, hcreated.ready.committed.valid.index, ?_, ?_⟩,
        ⟨.empty, fun _ hmem => absurd hmem List.not_mem_nil⟩,
        .here rfl (?_ : _ = [] ++ (journal.entries ++ [])), fun _ => ?_, ?_⟩
      · show ∀ entry ∈ journal.entries, _
        rw [hentries]
        exact fun _ hmem => absurd hmem List.not_mem_nil
      · show journal.entries.Pairwise _
        rw [hentries]
        exact List.Pairwise.nil
      · rw [hentries]
        rfl
      · exact fun _ hmem => absurd hmem List.not_mem_nil
      · show ∀ saved ∈ journal.barriers, _
        rw [hcreated.barriers]
        exact fun _ hmem => absurd hmem List.not_mem_nil
    refine ⟨?_, ?_⟩
    · intro events hdistinct
      have hsound := hstart.run_events events hdistinct
      exact ⟨hsound.follows.ordered, hsound.exists_incarnation⟩
    · intro events hdistinct cutoff reading id journal' barrier hseal
      rw [SourceRun.run_concat]
      exact (hstart.run_events events hdistinct).of_sealing hseal

namespace SourceSample

def clock (reading : ℤ) : PollClock :=
  ⟨reading, fun i => (IngressSample.clock reading, ⟨3 * i, 3 * i + 1, 3 * i + 2⟩), reading⟩

def start : SourceRun :=
  .start ⟨IngressSample.identity, none, none⟩ IngressSample.start.journal IngressSample.start.dir

/-- This is where a new collector starts. -/
example :
    ((create IngressSample.text IngressSample.identity 1783490000 1).run () ⟨∅, []⟩).1 =
        .ok start.journal ∧
      ((create IngressSample.text IngressSample.identity 1783490000 1).run () ⟨∅, []⟩).2.dir =
        start.dir :=
  ⟨rfl, rfl⟩

def entry (id : String) : StreamEntry := ⟨id, "bar"⟩

/-- The stream is deleted before its third entry is polled, and created again with the second one. -/
def recreated : List SourceEvent :=
  [.add (entry "1-0"), .add (entry "2-0"), .poll true (clock 1783491000), .add (entry "3-0"), .recreate,
    .add (entry "2-0"), .add (entry "4-0"), .poll true (clock 1783491001)]

def later : List SourceEvent :=
  [.add (entry "1-0"), .poll true (clock 1783491000), .sealCutoff 1783491000 1783491000 9,
    .add (entry "2-0"), .poll true (clock 1783491001)]

end SourceSample

/-- A stream that is created again may leave a gap, and a cutoff that is sealed again covers what it
did before. -/
theorem source_incomplete :
    (¬∀ events, (SourceSample.start.run IngressSample.text events).journal.entries <:+:
      (SourceSample.start.run IngressSample.text events).incarnations.flatten) ∧
    ¬∀ events cutoff reading id,
      ∀ result ∈ (SourceSample.start.run IngressSample.text events).sealing IngressSample.text cutoff
        reading id,
        Covers (SourceSample.start.run IngressSample.text events).polled
          (result.1.entries.take result.2.lastSequence) := by
  constructor
  · intro h
    exact absurd (h SourceSample.recreated) (by decide +kernel)
  · intro h
    exact absurd (h SourceSample.later 1783491000 1783491002 10) (by decide +kernel)

end AlorRs.RiContext
