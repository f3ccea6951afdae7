import AlorRs.Lib.EntryStream
import AlorRs.StrategyRuntime.Equiv.RiContext.Collector
import AlorRs.StrategyRuntime.Equiv.RiContext.Journals
import AlorRs.StrategyRuntime.RiContext.RedisSource
import Mathlib.Data.Prod.Lex

/-!
# Polls of a source

A poll takes the first entries of what it receives (`wp_poll`), which is the next part of a stream
that the rows are of (`IsStream.receive`), and it receives something only while the last row is still
in the stream as it was (`last_of_receive`).
-/

namespace AlorRs.RiContext

open Eff Outcome RiIngressJournal

variable {text : IngressText} {journal journal' : RiIngressJournal} {disk disk' : IngressDisk}

/-! ### Ids -/

namespace StreamEntry

def key (entry : StreamEntry) : ℕ ×ₗ ℕ := toLex ((streamId entry.id).toOption.getD (0, 0))

/-- An entry as streams have them: its id is in its one form and is not the first cursor. -/
def IsEntry (entry : StreamEntry) : Prop := (streamId entry.id).isOk = true ∧ toLex (0, 0) < entry.key

instance (entry : StreamEntry) : Decidable entry.IsEntry := inferInstanceAs (Decidable (_ ∧ _))

theorem key_eq {entry : StreamEntry} {id : ℕ × ℕ} (h : streamId entry.id = .ok id) :
    entry.key = toLex id := by
  unfold key
  rw [h]
  rfl

theorem IsEntry.streamId_eq {entry : StreamEntry} (h : entry.IsEntry) :
    streamId entry.id = .ok (ofLex entry.key) := by
  obtain ⟨hid, -⟩ := h
  cases hparse : streamId entry.id with
  | error e =>
    rw [hparse] at hid
    exact (nomatch hid)
  | ok id => rw [key_eq hparse, ofLex_toLex]

theorem IsEntry.ne_zero {entry : StreamEntry} (h : entry.IsEntry) : ofLex entry.key ≠ (0, 0) := by
  intro hzero
  have hlt := h.2
  rw [← hzero, toLex_ofLex] at hlt
  exact lt_irrefl _ hlt

end StreamEntry

theorem isAfter_iff {id previous : ℕ × ℕ} : isAfter id previous = true ↔ toLex previous < toLex id := by
  unfold isAfter
  rw [Prod.Lex.toLex_lt_toLex]
  simp

/-! ### The index of a journal -/

theorem sourceId_of_lookup_indexOf {rows : List Row} {source : String} {i : ℕ}
    (h : (indexOf rows).lookup source = some i) :
    ∃ row, rows[i]? = some row ∧ row.raw.sourceId = source := by
  induction rows using List.reverseRecOn with
  | nil => exact (nomatch h)
  | append_singleton rows row ih =>
    rw [indexOf_concat] at h
    by_cases hsource : source = row.raw.sourceId
    · rw [hsource, AList.lookup_insert] at h
      obtain rfl := Option.some.inj h
      exact ⟨row, List.getElem?_concat_length, hsource.symm⟩
    · rw [AList.lookup_insert_ne hsource] at h
      obtain ⟨other, hother, hsame⟩ := ih h
      refine ⟨other, ?_, hsame⟩
      rw [List.getElem?_append_left (lt_of_lookup_indexOf h)]
      exact hother

def RiIngressJournal.IsIndexed (journal : RiIngressJournal) : Prop :=
  journal.bySource = indexOf journal.rows

theorem RiIngressJournal.IsIndexed.sourceId_eq {sourceId : String} {row : Row}
    (h : journal.IsIndexed) (hrow : journal.rowOf sourceId = some row) :
    row.raw.sourceId = sourceId := by
  unfold rowOf at hrow
  rw [h] at hrow
  obtain ⟨i, hlookup, hi⟩ := Option.bind_eq_some_iff.mp hrow
  obtain ⟨found, hfound, hsource⟩ := sourceId_of_lookup_indexOf hlookup
  rw [Option.some.inj (hi.symm.trans hfound)]
  exact hsource

/-- A call of `append` keeps the index, and the barriers. -/
theorem wp_append_index {sourceId rawBarJson : String} {clock : AppendClock}
    {names : AppendNames} (h : journal.IsIndexed) :
    wp (journal.append text sourceId rawBarJson clock names) () disk
      (fun result _ => result.1.IsIndexed ∧ result.1.barriers = journal.barriers)
      (fun _ _ => True) := by
  have hinner : wp (journal.appendInner text sourceId rawBarJson clock names) () disk
      (fun result _ => result.1.IsIndexed ∧ result.1.barriers = journal.barriers)
      (fun _ _ => True) := by
    unfold appendInner
    rw [wp_bind, wp_ofExcept]
    refine ⟨fun _ _ => ?_, fun _ _ => trivial⟩
    rw [wp_bind, wp_ofExcept]
    refine ⟨fun _ _ => ?_, fun _ _ => trivial⟩
    cases hrow : journal.rowOf sourceId with
    | some row =>
      rw [wp_bind, wp_ofExcept]
      exact ⟨fun _ _ => ⟨h, rfl⟩, fun _ _ => trivial⟩
    | none =>
      rw [wp_bind, wp_ofExcept]
      refine ⟨fun raw _ => ?_, fun _ _ => trivial⟩
      rw [wp_bind]
      refine wp_mono wp_publishRow_grows ?_ fun _ _ _ => trivial
      rintro ⟨commit, bytes⟩ disk' -
      refine ⟨?_, rfl⟩
      show journal.bySource.insert _ _ = indexOf (journal.rows ++ [_])
      rw [indexOf_concat, h]
  unfold append
  split_ifs
  · exact ⟨h, rfl⟩
  · rw [wp_bind, wp_attempt]
    refine wp_mono hinner ?_ ?_
    · exact fun _ _ hindexed => hindexed
    · intro e disk' _
      rw [wp_bind, wp_attempt]
      refine wp_mono wp_publishNew_grows ?_ ?_ <;> exact fun _ _ _ => ⟨h, rfl⟩

theorem wp_sealCutoff_index {throughUtc reading : ℤ} {id : ℕ} (h : journal.IsIndexed) :
    wp (journal.sealCutoff text throughUtc reading id) () disk
      (fun result _ => result.1.IsIndexed) (fun _ _ => True) := by
  unfold sealCutoff
  cases journal.checkCutoff throughUtc reading with
  | error e => exact h
  | ok _ =>
    dsimp only
    split
    · exact h
    · split
      · exact h
      · rw [wp_bind, wp_attempt]
        refine wp_mono wp_publishNew_grows ?_ ?_ <;> exact fun _ _ _ => h

/-! ### Appending a batch -/

def Row.entry (row : Row) : StreamEntry := ⟨row.raw.sourceId, row.raw.rawBarJson⟩

def RiIngressJournal.entries (journal : RiIngressJournal) : List StreamEntry :=
  journal.rows.map Row.entry

/-- A journal whose rows are entries in the order of their ids. -/
structure Follows (text : IngressText) (journal : RiIngressJournal) (dir : IngressDirectory) :
    Prop where
  kept : Kept text journal dir
  index : journal.IsIndexed
  isEntry : ∀ entry ∈ journal.entries, entry.IsEntry
  ordered : journal.entries.Pairwise (·.key < ·.key)

/-- What a batch makes of a journal: it takes the first entries of the batch, and all of them when it
succeeds. -/
structure Takes (text : IngressText) (batch : List StreamEntry) (journal journal' : RiIngressJournal)
    (disk' : IngressDisk) (isOk : Bool) : Prop where
  follows : Follows text journal' disk'.dir
  barriers : journal'.barriers = journal.barriers
  entries : ∃ taken, taken <+: batch ∧ journal'.entries = journal.entries ++ taken ∧
    (isOk = true → taken = batch)

namespace Takes

variable {batch : List StreamEntry} {isOk : Bool}

theorem none (hfollows : Follows text journal' disk'.dir) (hbarriers : journal'.barriers = journal.barriers)
    (hentries : journal'.entries = journal.entries) (hok : isOk = true → batch = []) :
    Takes text batch journal journal' disk' isOk :=
  ⟨hfollows, hbarriers, [], List.nil_prefix, by rw [hentries, List.append_nil],
    fun h => (hok h).symm⟩

theorem cons {entry : StreamEntry} {journal'' : RiIngressJournal} {disk'' : IngressDisk}
    (hbarriers : journal'.barriers = journal.barriers)
    (hentries : journal'.entries = journal.entries ++ [entry])
    (h : Takes text batch journal' journal'' disk'' isOk) :
    Takes text (entry :: batch) journal journal'' disk'' isOk := by
  obtain ⟨taken, hpart, htaken, hall⟩ := h.entries
  refine ⟨h.follows, h.barriers.trans hbarriers, entry :: taken,
    List.cons_prefix_cons.mpr ⟨rfl, hpart⟩, ?_, fun hok => by rw [hall hok]⟩
  rw [htaken, hentries, List.append_assoc]
  rfl

end Takes

theorem wp_appendAll {calls : ℕ → AppendClock × AppendNames} {i : ℕ} {previous : ℕ × ℕ}
    {batch : List StreamEntry} (h : Follows text journal disk.dir)
    (hrows : ∀ entry ∈ journal.entries, entry.key ≤ toLex previous) :
    wp (RiRedisSource.appendAll text calls i previous batch journal) () disk
      (fun result disk' => Takes text batch journal result.1 disk' result.2.isOk)
      (fun _ _ => False) := by
  induction batch generalizing i previous journal disk with
  | nil => exact .none h rfl rfl fun _ => rfl
  | cons entry batch ih =>
    unfold RiRedisSource.appendAll
    cases hid : streamId entry.id with
    | error e => exact .none h rfl rfl nofun
    | ok id =>
      dsimp only
      split_ifs with hafter
      · exact .none h rfl rfl nofun
      simp only [Bool.not_eq_true', Bool.not_eq_false] at hafter
      have hlt : toLex previous < entry.key := by
        rw [StreamEntry.key_eq hid]
        exact isAfter_iff.mp hafter
      -- no entry has the id of the origin
      have hpositive : toLex (0, 0) < entry.key := by
        refine lt_of_le_of_lt ?_ hlt
        rw [Prod.Lex.toLex_le_toLex]
        omega
      rw [wp_bind]
      refine wp_mono (wp_and (wp_append_held h.kept) (wp_append_index h.index)) ?_ ?_
      rotate_left
      · rintro _ _ ⟨hfalse, -⟩
        exact hfalse
      rintro ⟨journal', outcome⟩ disk' ⟨⟨hgoes, happends⟩, hindex, hbarriers⟩
      cases happends with
      | known hrows' hmem hsource hraw =>
        -- a row of that id would come before the entry
        rename_i receipt row
        have hid' := h.index.sourceId_eq hsource
        have hle := hrows row.entry (List.mem_map_of_mem hmem)
        have hsameKey : row.entry.key = entry.key := by
          unfold StreamEntry.key Row.entry
          rw [hid']
        rw [hsameKey] at hle
        exact absurd hle hlt.not_ge
      | added hrows' hnone hsource hraw =>
        rename_i receipt row
        have hentry : row.entry = entry := by
          unfold Row.entry
          rw [hsource, hraw]
        -- the row is the entry itself
        have hentries : journal'.entries = journal.entries ++ [entry] := by
          unfold RiIngressJournal.entries
          rw [hrows', List.map_append, List.map_singleton, hentry]
        have hfollows : Follows text journal' disk'.dir := by
          refine ⟨hgoes.kept, hindex, ?_, ?_⟩
          · rw [hentries]
            intro other hother
            rcases List.mem_append.mp hother with hold | hnew
            · exact h.isEntry other hold
            · obtain rfl := List.mem_singleton.mp hnew
              refine ⟨?_, hpositive⟩
              rw [hid]
              rfl
          · rw [hentries]
            refine List.pairwise_append.mpr ⟨h.ordered, List.pairwise_singleton _ _, ?_⟩
            intro other hother new hnew
            obtain rfl := List.mem_singleton.mp hnew
            exact (hrows other hother).trans_lt hlt
        dsimp only
        split_ifs with hreceipt
        · exact .cons hbarriers hentries (.none hfollows rfl rfl nofun)
        rw [wp_bind]
        refine wp_mono (ih hfollows ?_) ?_ fun _ _ hfalse => hfalse
        · rw [hentries]
          intro other hother
          rcases List.mem_append.mp hother with hold | hnew
          · refine (hrows other hold).trans ?_
            rw [← StreamEntry.key_eq hid]
            exact hlt.le
          · obtain rfl := List.mem_singleton.mp hnew
            rw [StreamEntry.key_eq hid]
        · rintro ⟨journal'', outcome⟩ disk'' htakes
          cases outcome with
          | error | ok => exact .cons hbarriers hentries htakes
      -- nothing was appended, and the batch ends here
      | failed hrows' =>
        have hentries : journal'.entries = journal.entries := congrArg (List.map Row.entry) hrows'
        have hfollows : Follows text journal' disk'.dir :=
          ⟨hgoes.kept, hindex, hentries ▸ h.isEntry, hentries ▸ h.ordered⟩
        exact .none hfollows hbarriers hentries nofun

/-! ### Polls -/

theorem lastSourceId_eq : journal.lastSourceId = journal.entries.getLast?.map (·.id) := by
  unfold lastSourceId RiIngressJournal.entries
  rw [List.getLast?_map, Option.map_map]
  rfl

variable {last : StreamEntry} {dir : IngressDirectory}

theorem Follows.le_last (h : Follows text journal dir)
    (hlast : journal.entries.getLast? = some last) :
    ∀ entry ∈ journal.entries, entry.key ≤ last.key := by
  obtain ⟨front, hfront⟩ := List.getLast?_eq_some_iff.mp hlast
  have hordered := h.ordered
  rw [hfront] at hordered ⊢
  intro entry hentry
  rcases List.mem_append.mp hentry with hmem | hmem
  · exact ((List.pairwise_append.mp hordered).2.2 entry hmem last (List.mem_singleton_self _)).le
  · rw [List.mem_singleton.mp hmem]

section Poll

variable {source : RiRedisSource} {batch : List StreamEntry} {previous : ℕ × ℕ}
  {reply : Except String StreamReply} {started : ℤ}

/-- What is received is a batch after the cursor, and the entry at the cursor is as it was. -/
theorem receive_eq_ok (h : source.receive journal reply started = .ok (batch, previous)) :
    ∃ cursor received, streamId (source.cursor journal) = .ok cursor ∧ reply = .ok received ∧
      source.checkPrevious journal cursor received = .ok () ∧ batch = received.batch ∧
        previous = if source.isInitial journal then (0, 0) else cursor := by
  obtain ⟨-, h⟩ := ensure_bind_eq_ok.mp h
  obtain ⟨_, -, h⟩ := bind_eq_ok.mp h
  obtain ⟨cursor, hcursor, h⟩ := bind_eq_ok.mp h
  obtain ⟨received, hreceived, h⟩ := bind_eq_ok.mp h
  obtain ⟨_, hcheck, hreturn⟩ := bind_eq_ok.mp h
  obtain ⟨hbatch, hprevious⟩ := Prod.mk.inj (Except.ok.inj hreturn)
  exact ⟨cursor, received, hcursor, hreceived, hcheck, hbatch.symm, hprevious.symm⟩

theorem cursor_eq (source : RiRedisSource) (hlast : journal.entries.getLast? = some last) :
    source.cursor journal = last.id ∧ source.isInitial journal = false := by
  unfold RiRedisSource.cursor RiRedisSource.isInitial
  rw [lastSourceId_eq, hlast]
  exact ⟨rfl, rfl⟩

theorem Follows.le_previous (h : Follows text journal dir)
    (hreceive : source.receive journal reply started = .ok (batch, previous)) :
    ∀ entry ∈ journal.entries, entry.key ≤ toLex previous := by
  obtain ⟨cursor, received, hcursor, -, -, -, rfl⟩ := receive_eq_ok hreceive
  cases hlast : journal.entries.getLast? with
  | none =>
    intro entry hentry
    rw [List.getLast?_eq_none_iff.mp hlast] at hentry
    exact absurd hentry List.not_mem_nil
  | some last =>
    obtain ⟨hid, hinitial⟩ := cursor_eq source hlast
    rw [hid] at hcursor
    rw [hinitial, if_neg Bool.false_ne_true, ← StreamEntry.key_eq hcursor]
    exact h.le_last hlast

/-- What a poll makes of a source and a journal: it takes the first entries of what it receives, and
all of them when it is caught up after it. -/
structure Polls (source source' : RiRedisSource) (reply : Except String StreamReply) (started : ℤ)
    (journal journal' : RiIngressJournal) : Prop where
  barriers : journal'.barriers = journal.barriers
  entries : journal'.entries = journal.entries ∧ source'.lastSuccess = none ∨
    ∃ batch previous taken, source.receive journal reply started = .ok (batch, previous) ∧
      taken <+: batch ∧ journal'.entries = journal.entries ++ taken ∧
        (source'.lastSuccess.isSome = true → taken = batch ∧ batch.length < redisBatch)

theorem wp_poll {clock : PollClock} (h : Follows text journal disk.dir) :
    wp (source.poll text journal reply clock) () disk
      (fun result disk' => Follows text result.2.1 disk'.dir ∧
        Polls { source with lastSuccess := none } result.1 reply clock.started journal result.2.1)
      (fun _ _ => False) := by
  unfold RiRedisSource.poll
  dsimp only
  cases hreceive : RiRedisSource.receive { source with lastSuccess := none } journal reply
      clock.started with
  | error e => exact ⟨h, rfl, .inl ⟨rfl, rfl⟩⟩
  | ok received =>
    obtain ⟨batch, previous⟩ := received
    rw [wp_bind]
    refine wp_mono (wp_appendAll h (h.le_previous hreceive)) ?_ fun _ _ hfalse => hfalse
    rintro ⟨journal', outcome⟩ disk' ⟨hfollows, hbarriers, taken, htaken, hentries, hall⟩
    have hstopped : Polls { source with lastSuccess := none } { source with lastSuccess := none }
        reply clock.started journal journal' :=
      ⟨hbarriers, .inr ⟨batch, previous, taken, hreceive, htaken, hentries, nofun⟩⟩
    cases outcome with
    | error e => exact ⟨hfollows, hstopped⟩
    | ok receipts =>
      dsimp only
      split_ifs with hbatch
      · cases journal'.now clock.completed with
        | error e => exact ⟨hfollows, hstopped⟩
        | ok _ =>
          exact ⟨hfollows, hbarriers, .inr ⟨batch, previous, taken, hreceive, htaken, hentries,
            fun _ => ⟨hall rfl, hbatch⟩⟩⟩
      · exact ⟨hfollows, hstopped⟩

end Poll

/-! ### Streams -/

/-- What a stream answers to the two commands of a poll: the entry at the cursor, and the first ones
past it, or from it on when the poll is the first of a bootstrap. -/
def answer (stream : EntryStream StreamEntry) (source : RiRedisSource) (journal : RiIngressJournal) :
    Except String StreamReply := do
  let cursor ← streamId (source.cursor journal)
  let past := if source.isInitial journal then stream.startingAt StreamEntry.key (toLex cursor)
    else stream.after StreamEntry.key (toLex cursor)
  return ⟨(stream.entriesAt StreamEntry.key (toLex cursor)).take 1, past.take redisBatch⟩

/-- All of these entries that do not come before the first one of some rows are among the rows. -/
def Covers (snapshot entries : List StreamEntry) : Prop :=
  ∀ entry ∈ snapshot, (∀ first ∈ entries.head?, first.key ≤ entry.key) → entry ∈ entries

instance (snapshot entries : List StreamEntry) : Decidable (Covers snapshot entries) :=
  inferInstanceAs (Decidable (∀ entry ∈ snapshot, _ → entry ∈ entries))

/-- A stream as the source has it: the ids are in order and in their one form. -/
structure IsStream (stream : EntryStream StreamEntry) : Prop where
  increasing : stream.Increasing StreamEntry.key
  isEntry : ∀ entry ∈ stream.added, entry.IsEntry

section Streams

variable {stream : EntryStream StreamEntry} {source : RiRedisSource} {batch : List StreamEntry}
  {previous : ℕ × ℕ} {started : ℤ} {dir : IngressDirectory} {front rest : List StreamEntry}

/-- Where some rows and the rest of a stream follow each other, they cover what is there. -/
theorem IsStream.covers {entries : List StreamEntry} (h : IsStream stream)
    (hsplit : stream.added = front ++ (entries ++ rest))
    (hempty : entries ++ rest = [] → stream.present = []) :
    Covers stream.present (entries ++ rest) := by
  intro entry hentry hfirst
  have hadded := stream.present_suffix.subset hentry
  rw [hsplit] at hadded
  rcases List.mem_append.mp hadded with hfront | hmem
  · exfalso
    cases hhead : (entries ++ rest).head? with
    | none =>
      rw [hempty (List.head?_eq_none_iff.mp hhead)] at hentry
      exact absurd hentry List.not_mem_nil
    | some first =>
      have hordered := h.increasing
      unfold EntryStream.Increasing at hordered
      rw [hsplit] at hordered
      have hlt := (List.pairwise_append.mp hordered).2.2 entry hfront first (List.mem_of_head? hhead)
      exact absurd (hfirst first hhead) hlt.not_ge
  · exact hmem

theorem IsStream.entriesAt_eq {entry : StreamEntry} {cursor : ℕ × ℕ}
    (hentry : entry ∈ (stream.entriesAt StreamEntry.key (toLex cursor)).take 1) :
    entry ∈ stream.present ∧ entry.key = toLex cursor := by
  obtain ⟨hmem, hkey⟩ := List.mem_filter.mp (List.mem_of_mem_take hentry)
  exact ⟨hmem, of_decide_eq_true hkey⟩

/-- A poll with rows goes on from an entry that is there and is the last row. -/
theorem last_of_receive (h : Follows text journal dir)
    (hlast : journal.entries.getLast? = some last)
    (hreceive : source.receive journal (answer stream source journal) started = .ok (batch, previous)) :
    last ∈ stream.present ∧ batch = (stream.after StreamEntry.key last.key).take redisBatch := by
  obtain ⟨cursor, received, hcursor, hreply, hcheck, rfl, -⟩ := receive_eq_ok hreceive
  obtain ⟨hid, hinitial⟩ := cursor_eq source hlast
  have hentry := h.isEntry last (List.mem_of_getLast? hlast)
  -- the cursor is the id of the last row
  have hkey : cursor = ofLex last.key := by
    rw [hid, hentry.streamId_eq] at hcursor
    exact (Except.ok.inj hcursor).symm
  unfold answer at hreply
  rw [hcursor, hinitial] at hreply
  obtain rfl := Except.ok.inj hreply
  refine ⟨?_, by rw [hkey]; rfl⟩
  unfold RiRedisSource.checkPrevious at hcheck
  rw [hinitial, if_neg Bool.false_ne_true, if_pos (hkey ▸ hentry.ne_zero)] at hcheck
  obtain ⟨hone, hcheck⟩ := ensure_bind_eq_ok.mp hcheck
  simp only [Bool.and_eq_true, decide_eq_true_eq] at hone
  obtain ⟨found, hfound⟩ := List.length_eq_one_iff.mp hone.1
  -- the entry at the cursor is checked against the last row
  have hmem : found ∈ (stream.entriesAt StreamEntry.key (toLex cursor)).take 1 := by
    rw [hfound]
    exact List.mem_singleton_self _
  cases hrow : journal.rows.getLast? with
  | none =>
    rw [hrow] at hcheck
    exact (nomatch hcheck)
  | some row =>
    rw [hrow] at hcheck
    have hpayload := ensure_eq_ok.mp hcheck
    rw [hfound] at hone hpayload
    have hlastRow : row.entry = last := by
      unfold RiIngressJournal.entries at hlast
      rw [List.getLast?_map, hrow] at hlast
      exact Option.some.inj hlast
    have hsame : found = last := by
      simp only [List.all_cons, List.all_nil, Bool.and_true, decide_eq_true_eq] at hone hpayload
      rw [← hlastRow]
      show found = ⟨_, _⟩
      rw [← hpayload, show row.raw.sourceId = found.id by rw [hone.2, hid, ← hlastRow]; rfl]
    rw [← hsame]
    exact (IsStream.entriesAt_eq hmem).1

/-- Without rows the source starts at its first entry, or with all that is there. -/
theorem IsStream.receive_nil (hs : IsStream stream) (hnil : journal.entries = [])
    (hreceive : source.receive journal (answer stream source journal) started = .ok (batch, previous)) :
    ∃ front rest, stream.added = front ++ rest ∧ batch = rest.take redisBatch ∧
      (rest = [] → stream.present = []) := by
  obtain ⟨cursor, received, hcursor, hreply, hcheck, rfl, -⟩ := receive_eq_ok hreceive
  have hlast : journal.lastSourceId = none := by
    rw [lastSourceId_eq, hnil]
    rfl
  unfold answer at hreply
  rw [hcursor] at hreply
  obtain rfl := Except.ok.inj hreply
  unfold RiRedisSource.checkPrevious at hcheck
  unfold RiRedisSource.isInitial at hcheck ⊢
  rw [hlast] at hcheck ⊢
  -- the source has a first id, or starts at the origin
  cases hfirst : source.initialFirstId with
  | some first =>
    rw [hfirst] at hcheck
    obtain ⟨front, hfront⟩ := hs.increasing.startingAt_suffix (toLex cursor)
    refine ⟨front, _, hfront.symm, rfl, ?_⟩
    intro hnone
    -- the first entry has to be there, so it is not empty
    have hhead := ensure_eq_ok.mp hcheck
    simp only [Option.isNone_none, Option.isSome_some, Bool.and_self, if_true, hnone, List.take_nil,
      List.head?_nil, Option.any_none, Bool.and_false] at hhead
    exact (nomatch hhead)
  | none =>
    obtain ⟨front, hfront⟩ := hs.increasing.after_suffix (toLex cursor)
    refine ⟨front, _, hfront.symm, rfl, ?_⟩
    intro hnone
    -- from the origin every entry comes later
    have hzero : cursor = (0, 0) := by
      unfold RiRedisSource.cursor at hcursor
      rw [hlast, hfirst] at hcursor
      have hparse : streamId "0-0" = .ok (0, 0) := by decide +kernel
      exact Except.ok.inj (hcursor.symm.trans hparse)
    refine List.eq_nil_iff_forall_not_mem.mpr ?_
    intro entry hentry
    have hpositive := (hs.isEntry entry (stream.present_suffix.subset hentry)).2
    have hmem : entry ∈ stream.after StreamEntry.key (toLex cursor) := by
      rw [hzero]
      exact List.mem_filter.mpr ⟨hentry, decide_eq_true hpositive⟩
    have hempty : stream.after StreamEntry.key (toLex cursor) = [] := hnone
    rw [hempty] at hmem
    exact absurd hmem List.not_mem_nil

/-- What is received is the next part of the stream that the rows are of. -/
theorem IsStream.receive (hs : IsStream stream) (h : Follows text journal dir)
    (hsplit : stream.added = front ++ (journal.entries ++ rest))
    (hreceive : source.receive journal (answer stream source journal) started = .ok (batch, previous)) :
    ∃ front rest, stream.added = front ++ (journal.entries ++ rest) ∧
      batch = rest.take redisBatch ∧ (journal.entries ++ rest = [] → stream.present = []) := by
  cases hlast : journal.entries.getLast? with
  | none =>
    have hnil := List.getLast?_eq_none_iff.mp hlast
    rw [hnil]
    exact hs.receive_nil hnil hreceive
  | some last =>
    obtain ⟨hmem, hbatch⟩ := last_of_receive h hlast hreceive
    obtain ⟨earlier, hearlier⟩ := List.getLast?_eq_some_iff.mp hlast
    refine ⟨front, rest, hsplit, ?_, ?_⟩
    · have hplace : stream.added = (front ++ earlier) ++ last :: rest := by
        rw [hsplit, hearlier]
        simp only [List.append_assoc, List.singleton_append]
      rw [hbatch, hs.increasing.after_eq hplace hmem]
    · intro hnone
      rw [hearlier] at hnone
      simp at hnone

end Streams

end AlorRs.RiContext
