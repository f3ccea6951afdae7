import AlorRs.StrategyRuntime.RiContext.Ingress
import AlorRs.StrategyRuntime.Equiv.RiContext.Store

/-!
# Correctness of the journal of receipts

* `load_committed`: a directory that holds a valid journal is read as that journal.
* `Refused`: a directory with a temporary file, the mark of a failure or a raw record without its
  commit record is not opened at all.
* `wp_append`, `wp_sealCutoff`: each step of a call leaves a directory that is refused, but for the
  last step of a call that succeeds, which leaves one that holds the new journal.
-/

namespace AlorRs.RiContext

open Outcome RiIngressJournal

variable {text : IngressText} {dir : IngressDirectory}

/-! ### What is not opened -/

def Refused (text : IngressText) (dir : IngressDirectory) : Prop :=
  ∀ expected journal, load text dir expected ≠ .ok journal

variable {name : FileName}

theorem mem_readRows {fuel : ℕ} {opening opening' : Opening}
    (h : readRows text dir fuel opening = .ok opening') (hname : name ∈ opening.names) :
    name ∈ opening'.names ∨ (∃ n, name = .raw n ∧ .commit n ∈ opening.names) ∨
      ∃ n, name = .commit n := by
  induction fuel generalizing opening with
  | zero =>
    obtain rfl := Except.ok.inj h
    exact .inl hname
  | succ fuel ih =>
    unfold readRows at h
    dsimp only at h
    split_ifs at h with hstop
    · obtain rfl := Except.ok.inj h
      exact .inl hname
    · obtain ⟨hboth, h⟩ := ensure_bind_eq_ok.mp h
      simp only [Bool.and_eq_true, decide_eq_true_eq] at hboth
      obtain ⟨raw, -, h⟩ := bind_eq_ok.mp h
      obtain ⟨commit, -, h⟩ := bind_eq_ok.mp h
      obtain ⟨journal, -, h⟩ := bind_eq_ok.mp h
      -- the two files of the next row leave the list
      by_cases hraw : name = .raw (opening.journal.lastSequence + 1)
      · exact .inr (.inl ⟨_, hraw, hboth.2⟩)
      · by_cases hcommit : name = .commit (opening.journal.lastSequence + 1)
        · exact .inr (.inr ⟨_, hcommit⟩)
        · have hrest : name ∈ (opening.names.erase (.raw (opening.journal.lastSequence + 1))).erase
              (.commit (opening.journal.lastSequence + 1)) := by
            rw [List.mem_erase_of_ne hcommit, List.mem_erase_of_ne hraw]
            exact hname
          rcases ih h hrest with hleft | ⟨n, heq, hmem⟩ | hcommit
          · exact .inl hleft
          · exact .inr (.inl ⟨n, heq, List.mem_of_mem_erase (List.mem_of_mem_erase hmem)⟩)
          · exact .inr (.inr hcommit)

theorem mem_readBarriers {fuel : ℕ} {opening opening' : Opening}
    (h : readBarriers text dir fuel opening = .ok opening') (hname : name ∈ opening.names) :
    name ∈ opening'.names ∨ ∃ n, name = .barrier n := by
  induction fuel generalizing opening with
  | zero =>
    obtain rfl := Except.ok.inj h
    exact .inl hname
  | succ fuel ih =>
    unfold readBarriers at h
    dsimp only at h
    split_ifs at h with hnext
    · obtain ⟨saved, -, h⟩ := bind_eq_ok.mp h
      obtain ⟨_, -, h⟩ := bind_eq_ok.mp h
      by_cases hbarrier : name = .barrier (opening.journal.barriers.length + 1)
      · exact .inr ⟨_, hbarrier⟩
      · refine ih h ?_
        rw [List.mem_erase_of_ne hbarrier]
        exact hname
    · obtain rfl := Except.ok.inj h
      exact .inl hname

theorem mem_of_load {expected : IngressIdentity} {journal : RiIngressJournal}
    (h : load text dir expected = .ok journal) :
    .manifest ∈ dir.keys ∧ ∀ name ∈ dir.keys, name = .lock ∨ name = .manifest ∨
      (∃ n, name = .raw n ∧ .commit n ∈ dir.keys) ∨ (∃ n, name = .commit n) ∨
        ∃ n, name = .barrier n := by
  obtain ⟨_, -, h⟩ := bind_eq_ok.mp h
  obtain ⟨_, hfiles, h⟩ := bind_eq_ok.mp h
  obtain ⟨manifest, -, h⟩ := bind_eq_ok.mp h
  obtain ⟨-, h⟩ := ensure_bind_eq_ok.mp h
  obtain ⟨_, -, h⟩ := bind_eq_ok.mp h
  obtain ⟨rows, hrows, h⟩ := bind_eq_ok.mp h
  obtain ⟨opening, hbarriers, h⟩ := bind_eq_ok.mp h
  obtain ⟨hempty, -⟩ := ensure_bind_eq_ok.mp h
  -- no name is left over at the end
  have hnone : opening.names = [] := List.isEmpty_iff.mp hempty
  constructor
  · unfold checkFiles at hfiles
    obtain ⟨-, hfiles⟩ := ensure_bind_eq_ok.mp hfiles
    obtain ⟨-, hfiles⟩ := ensure_bind_eq_ok.mp hfiles
    obtain ⟨-, hfiles⟩ := ensure_bind_eq_ok.mp hfiles
    unfold ensure at hfiles
    split_ifs at hfiles with hmanifest
    exact of_decide_eq_true hmanifest
  · intro name hname
    by_cases hlock : name = .lock
    · exact .inl hlock
    · by_cases hmanifest : name = .manifest
      · exact .inr (.inl hmanifest)
      -- every other name is read as a row or as a barrier
      · have hunread : name ∈ (dir.keys.erase .lock).erase .manifest := by
          rw [List.mem_erase_of_ne hmanifest, List.mem_erase_of_ne hlock]
          exact hname
        rcases mem_readRows hrows hunread with hleft | ⟨n, heq, hcommit⟩ | hcommit
        · rcases mem_readBarriers hbarriers hleft with hleft | hbarrier
          · rw [hnone] at hleft
            exact absurd hleft List.not_mem_nil
          · exact .inr (.inr (.inr (.inr hbarrier)))
        · exact .inr (.inr (.inl ⟨n, heq, List.mem_of_mem_erase (List.mem_of_mem_erase hcommit)⟩))
        · exact .inr (.inr (.inr (.inl hcommit)))

namespace Refused

theorem of_temporary {id : ℕ} (h : .temporary id ∈ dir) : Refused text dir := by
  intro expected journal hload
  rcases (mem_of_load hload).2 _ (AList.mem_keys.mp h) with h | h | ⟨n, h, -⟩ | ⟨n, h⟩ | ⟨n, h⟩
  all_goals exact (nomatch h)

theorem of_failed (h : .failed ∈ dir) : Refused text dir := by
  intro expected journal hload
  rcases (mem_of_load hload).2 _ (AList.mem_keys.mp h) with h | h | ⟨n, h, -⟩ | ⟨n, h⟩ | ⟨n, h⟩
  all_goals exact (nomatch h)

theorem of_raw {n : ℕ} (h : .raw n ∈ dir) (hcommit : .commit n ∉ dir) : Refused text dir := by
  intro expected journal hload
  rcases (mem_of_load hload).2 _ (AList.mem_keys.mp h) with h | h | ⟨m, h, hmem⟩ | ⟨m, h⟩ | ⟨m, h⟩
  · exact (nomatch h)
  · exact (nomatch h)
  · obtain rfl := FileName.raw.inj h
    exact hcommit (AList.mem_keys.mpr hmem)
  all_goals exact (nomatch h)

theorem of_manifest (h : .manifest ∉ dir) : Refused text dir :=
  fun _ _ hload => h (AList.mem_keys.mpr (mem_of_load hload).1)

end Refused

/-! ### Valid journals -/

def indexOf (rows : List Row) : AList fun _ : String => ℕ :=
  rows.zipIdx.foldl (fun index row => index.insert row.1.raw.sourceId row.2) ∅

variable (manifest : Manifest)

def floorOf (rows : List Row) : ℤ :=
  (rows.getLast?.map fun row => row.commit.durableAtUtc).getD manifest.createdAtUtc

def opened (total : ℕ) (rows : List Row) : RiIngressJournal :=
  ⟨manifest, rows, indexOf rows, [], total, floorOf manifest rows, false⟩

theorem indexOf_concat (rows : List Row) (row : Row) :
    indexOf (rows ++ [row]) = (indexOf rows).insert row.raw.sourceId rows.length := by
  unfold indexOf
  rw [List.zipIdx_append, List.foldl_append]
  simp

theorem floorOf_concat (rows : List Row) (row : Row) :
    floorOf manifest (rows ++ [row]) = row.commit.durableAtUtc := by
  unfold floorOf
  rw [List.getLast?_concat]
  rfl

theorem lt_of_lookup_indexOf {rows : List Row} {source : String} {i : ℕ}
    (h : (indexOf rows).lookup source = some i) : i < rows.length := by
  induction rows using List.reverseRecOn with
  | nil => exact (nomatch h)
  | append_singleton rows row ih =>
    rw [indexOf_concat] at h
    rw [List.length_append, List.length_singleton]
    by_cases hsource : source = row.raw.sourceId
    · rw [hsource, AList.lookup_insert] at h
      obtain rfl := Option.some.inj h
      exact Nat.lt_succ_self _
    · rw [AList.lookup_insert_ne hsource] at h
      have hlt := ih h
      omega

def RowsRead (text : IngressText) (manifest : Manifest) (rows : List Row) : Prop :=
  ∀ i row, rows[i]? = some row → ∀ total,
    (opened manifest total (rows.take i)).readRow text row.raw row.commit =
      .ok (opened manifest total (rows.take i ++ [row]))

def BarriersRead (text : IngressText) (journal : RiIngressJournal) : Prop :=
  ∀ i saved, journal.barriers[i]? = some saved →
    ({ journal with barriers := journal.barriers.take i } : RiIngressJournal).validateBarrier text
      saved = .ok ()

/-- What holds of the journal of a collector. -/
structure RiIngressJournal.Valid (text : IngressText) (journal : RiIngressJournal) : Prop where
  identity : journal.manifest.identity.validate = .ok ()
  version : journal.manifest.version = ingressVersion
  created : (localTime? journal.manifest.createdAtUtc).isSome = true
  rows : RowsRead text journal.manifest journal.rows
  barriers : BarriersRead text journal
  index : journal.bySource = indexOf journal.rows
  rows_le : journal.rows.length ≤ maxRecords
  barriers_le : journal.barriers.length ≤ maxBarriers
  floor_created : journal.manifest.createdAtUtc ≤ journal.clockFloor
  floor_row : ∀ row ∈ journal.rows, row.commit.durableAtUtc ≤ journal.clockFloor
  floor_barrier : ∀ saved ∈ journal.barriers, saved.barrier.attestedAtUtc ≤ journal.clockFloor

def contents (text : IngressText) (journal : RiIngressJournal) : FileName → Option FileContent
  | .lock => some .lock
  | .manifest => some (.manifest ⟨journal.manifest, text.manifest journal.manifest⟩)
  | .raw 0 | .commit 0 | .barrier 0 => none
  | .raw (i + 1) => journal.rows[i]?.map fun row => .raw ⟨row.raw, text.raw row.raw⟩
  | .commit (i + 1) => journal.rows[i]?.map fun row => .commit ⟨row.commit, text.commit row.commit⟩
  | .barrier (i + 1) => journal.barriers[i]?.map fun saved => .barrier ⟨saved, text.barrier saved⟩
  | .failed | .temporary _ => none

/-- A directory holds a journal and nothing else. -/
structure Committed (text : IngressText) (journal : RiIngressJournal) (dir : IngressDirectory) :
    Prop where
  valid : journal.Valid text
  files : ∀ name, dir.lookup name = contents text journal name
  sizes : ∀ name content, dir.lookup name = some content → text.fileSize content ≤ maxFileBytes
  total : Directory.total text.fileSize dir = journal.totalBytes
  total_le : journal.totalBytes ≤ maxTotalBytes
  count : dir.keys.length = 2 * journal.rows.length + journal.barriers.length + 2

/-! ### Opening what a valid journal left -/

section Load

variable {journal : RiIngressJournal}

/-- The names that are left when so many rows were read. -/
structure Unread (journal : RiIngressJournal) (k : ℕ) (names : List FileName) : Prop where
  nodup : names.Nodup
  mem : ∀ name, name ∈ names ↔
    (∃ n, k ≤ n ∧ n < journal.rows.length ∧ (name = .raw (n + 1) ∨ name = .commit (n + 1))) ∨
      ∃ n, n < journal.barriers.length ∧ name = .barrier (n + 1)

theorem Unread.erase {k : ℕ} {names : List FileName} (h : Unread journal k names) :
    Unread journal (k + 1) ((names.erase (.raw (k + 1))).erase (.commit (k + 1))) where
  nodup := (h.nodup.erase _).erase _
  mem name := by
    rw [(h.nodup.erase _).mem_erase_iff, h.nodup.mem_erase_iff, h.mem]
    constructor
    · rintro ⟨hcommit, hraw, ⟨n, hle, hlt, heq⟩ | hbarrier⟩
      · refine .inl ⟨n, ?_, hlt, heq⟩
        have hne : n ≠ k := by
          rintro rfl
          exact heq.elim hraw hcommit
        omega
      · exact .inr hbarrier
    · rintro (⟨n, hle, hlt, heq⟩ | ⟨n, hlt, rfl⟩)
      · have hne : n + 1 ≠ k + 1 := by omega
        refine ⟨?_, ?_, .inl ⟨n, by omega, hlt, heq⟩⟩
        · rintro rfl
          exact heq.elim (fun h => (nomatch h)) fun h => hne (FileName.commit.inj h).symm
        · rintro rfl
          exact heq.elim (fun h => hne (FileName.raw.inj h).symm) fun h => (nomatch h)
      · exact ⟨fun h => (nomatch h), fun h => (nomatch h), .inr ⟨n, hlt, rfl⟩⟩

theorem readRows_eq (hrows : RowsRead text journal.manifest journal.rows)
    (hfiles : ∀ name, dir.lookup name = contents text journal name) (total : ℕ) (rest done : List Row)
    (fuel : ℕ) (names : List FileName) (hsplit : journal.rows = done ++ rest)
    (hfuel : rest.length ≤ fuel) (hnames : Unread journal done.length names) :
    ∃ names', readRows text dir fuel ⟨names, opened journal.manifest total done⟩ =
      .ok ⟨names', opened journal.manifest total journal.rows⟩ ∧
        Unread journal journal.rows.length names' := by
  induction rest generalizing done fuel names with
  | nil =>
    rw [List.append_nil] at hsplit
    rw [← hsplit] at hnames ⊢
    cases fuel with
    | zero => exact ⟨names, rfl, hnames⟩
    | succ fuel =>
      -- no name of a further row is left
      have hstop : ∀ n, n = journal.rows.length + 1 → .raw n ∉ names ∧ .commit n ∉ names := by
        rintro n rfl
        rw [hnames.mem, hnames.mem]
        constructor
        all_goals
          rintro (⟨m, hle, hlt, heq⟩ | ⟨m, -, heq⟩)
          · omega
          · exact (nomatch heq)
      refine ⟨names, ?_, hnames⟩
      exact if_pos (hstop _ rfl)
  | cons row rest ih =>
    obtain ⟨fuel, rfl⟩ : ∃ n, fuel = n + 1 := ⟨fuel - 1, by
      rw [List.length_cons] at hfuel
      omega⟩
    have hrow : journal.rows[done.length]? = some row := by
      rw [hsplit, List.getElem?_append_right le_rfl, Nat.sub_self]
      rfl
    have hlt := (List.getElem?_eq_some_iff.mp hrow).1
    -- both files of the next row are there
    have hmem : .raw (done.length + 1) ∈ names ∧ .commit (done.length + 1) ∈ names := by
      rw [hnames.mem, hnames.mem]
      exact ⟨.inl ⟨_, le_rfl, hlt, .inl rfl⟩, .inl ⟨_, le_rfl, hlt, .inr rfl⟩⟩
    have hraw : readRaw text dir (done.length + 1) = .ok row.raw := by
      unfold readRaw checked
      rw [hfiles, contents, hrow]
      exact if_pos rfl
    have hcommit : readCommit text dir (done.length + 1) = .ok row.commit := by
      unfold readCommit checked
      rw [hfiles, contents, hrow]
      exact if_pos rfl
    have hread := hrows done.length row hrow total
    rw [hsplit, List.take_left'] at hread
    · obtain ⟨names', hrest, hunread⟩ := ih (done ++ [row]) fuel _ (by simp [hsplit])
        (by simpa using hfuel) (by simpa using hnames.erase)
      refine ⟨names', ?_, hunread⟩
      unfold readRows
      have hsequence : (opened journal.manifest total done).lastSequence = done.length := rfl
      rw [hsequence, if_neg (by simp [hmem.1]), ensure_bind_eq_ok]
      refine ⟨by simp [hmem.1, hmem.2], ?_⟩
      rw [hraw]
      show readCommit text dir (done.length + 1) >>= _ = _
      rw [hcommit]
      show (opened journal.manifest total done).readRow text row.raw row.commit >>= _ = _
      rw [hread]
      exact hrest
    · rfl

theorem readBarriers_eq (hbarriers : BarriersRead text journal)
    (hfloor : ∀ saved ∈ journal.barriers, saved.barrier.attestedAtUtc ≤ journal.clockFloor)
    (hfiles : ∀ name, dir.lookup name = contents text journal name)
    (rest done : List StoredBarrier) (fuel : ℕ) (names : List FileName) (floor : ℤ)
    (hsplit : journal.barriers = done ++ rest) (hfuel : rest.length ≤ fuel)
    (hle : floor ≤ journal.clockFloor) (hnodup : names.Nodup)
    (hnames : ∀ name, name ∈ names ↔
      ∃ n, done.length ≤ n ∧ n < journal.barriers.length ∧ name = .barrier (n + 1)) :
    ∃ floor' ≤ journal.clockFloor, readBarriers text dir fuel ⟨names,
      { journal with barriers := done, clockFloor := floor, poisoned := false }⟩ =
        .ok ⟨[], { journal with clockFloor := floor', poisoned := false }⟩ := by
  induction rest generalizing done fuel names floor with
  | nil =>
    rw [List.append_nil] at hsplit
    have hempty : names = [] := by
      refine List.eq_nil_iff_forall_not_mem.mpr ?_
      intro name hname
      obtain ⟨n, hge, hlt, -⟩ := (hnames name).mp hname
      rw [hsplit] at hlt
      omega
    rw [hempty, ← hsplit]
    refine ⟨floor, hle, ?_⟩
    cases fuel with
    | zero => rfl
    | succ fuel =>
      unfold readBarriers
      exact if_pos List.not_mem_nil
  | cons saved rest ih =>
    obtain ⟨fuel, rfl⟩ : ∃ n, fuel = n + 1 := ⟨fuel - 1, by
      rw [List.length_cons] at hfuel
      omega⟩
    have hsaved : journal.barriers[done.length]? = some saved := by
      rw [hsplit, List.getElem?_append_right le_rfl, Nat.sub_self]
      rfl
    have hlt := (List.getElem?_eq_some_iff.mp hsaved).1
    have hmem : .barrier (done.length + 1) ∈ names := (hnames _).mpr ⟨_, le_rfl, hlt, rfl⟩
    have hread : readBarrier text dir (done.length + 1) = .ok saved := by
      unfold readBarrier checked
      rw [hfiles, contents, hsaved]
      exact if_pos rfl
    have hvalid := hbarriers done.length saved hsaved
    rw [hsplit, List.take_left' rfl] at hvalid
    have hattested := hfloor saved (List.mem_of_getElem? hsaved)
    obtain ⟨floor', hfloor', hrest⟩ := ih (done ++ [saved]) fuel
      (names.erase (.barrier (done.length + 1))) (max floor saved.barrier.attestedAtUtc)
      (by simp [hsplit]) (by simpa using hfuel) (max_le hle hattested) (hnodup.erase _) (by
        -- what is left are the names of the later barriers
        intro name
        rw [hnodup.mem_erase_iff, hnames, List.length_append, List.length_singleton]
        constructor
        · rintro ⟨hne, n, hge, hn, rfl⟩
          have hdiff : n ≠ done.length := by
            rintro rfl
            exact hne rfl
          exact ⟨n, by omega, hn, rfl⟩
        · rintro ⟨n, hge, hn, rfl⟩
          exact ⟨fun h => by
            have heq := FileName.barrier.inj h
            omega, n, by omega, hn, rfl⟩)
    refine ⟨floor', hfloor', ?_⟩
    unfold readBarriers
    rw [if_neg (not_not.mpr hmem), hread]
    show RiIngressJournal.validateBarrier text _ saved >>= _ = _
    have hsame : ({ journal with barriers := done, clockFloor := floor, poisoned := false } :
        RiIngressJournal).validateBarrier text saved = .ok () := hvalid
    rw [hsame]
    exact hrest

theorem Committed.mem_keys (h : Committed text journal dir) (name : FileName) :
    name ∈ dir.keys ↔ (contents text journal name).isSome = true := by
  rw [Directory.mem_keys_iff, h.files]

theorem Committed.unread (h : Committed text journal dir) :
    Unread journal 0 ((dir.keys.erase .lock).erase .manifest) where
  nodup := (dir.keys_nodup.erase _).erase _
  mem name := by
    rw [(dir.keys_nodup.erase _).mem_erase_iff, dir.keys_nodup.mem_erase_iff, h.mem_keys]
    cases name with
    | lock => simp
    | manifest => simp
    | failed | temporary => simp [contents]
    | raw n =>
      cases n with
      | zero | succ => simp [contents]
    | commit n =>
      cases n with
      | zero | succ => simp [contents]
    | barrier n =>
      cases n with
      | zero | succ => simp [contents]

theorem Committed.checkFiles (h : Committed text journal dir) :
    RiIngressJournal.checkFiles text dir = .ok () := by
  unfold RiIngressJournal.checkFiles
  rw [ensure_bind_eq_ok]
  constructor
  · rw [List.all_eq_true]
    intro name _
    cases hlookup : dir.lookup name with
    | none => rfl
    | some content => exact decide_eq_true (h.sizes name content hlookup)
  · rw [ensure_bind_eq_ok, h.total]
    refine ⟨decide_eq_true h.total_le, ?_⟩
    rw [ensure_bind_eq_ok, h.count]
    have hrows := h.valid.rows_le
    have hbarriers := h.valid.barriers_le
    refine ⟨decide_eq_true (by omega), ?_⟩
    have hmanifest : .manifest ∈ dir.keys := (h.mem_keys _).mpr rfl
    unfold ensure
    rw [if_pos (decide_eq_true hmanifest)]

/-- A directory that holds a valid journal is read as that journal. -/
theorem load_committed (h : Committed text journal dir) :
    ∃ floor ≤ journal.clockFloor, load text dir journal.manifest.identity =
      .ok { journal with clockFloor := floor, poisoned := false } := by
  have hv := h.valid
  have hmanifest : readManifest text dir = .ok journal.manifest := by
    unfold readManifest RiIngressJournal.checked
    rw [h.files]
    exact if_pos rfl
  obtain ⟨names, hrows, hunread⟩ := readRows_eq hv.rows h.files journal.totalBytes journal.rows []
    maxRecords _ rfl hv.rows_le h.unread
  have hfloor : floorOf journal.manifest journal.rows ≤ journal.clockFloor := by
    unfold floorOf
    cases hlast : journal.rows.getLast? with
    | none => exact hv.floor_created
    | some row => exact hv.floor_row row (List.mem_of_getLast? hlast)
  obtain ⟨floor, hle, hbarriers⟩ := readBarriers_eq hv.barriers hv.floor_barrier h.files
    journal.barriers [] maxBarriers names _ rfl hv.barriers_le hfloor hunread.nodup (by
      intro name
      rw [hunread.mem]
      constructor
      · rintro (⟨n, hge, hlt, -⟩ | ⟨n, hlt, heq⟩)
        · omega
        · exact ⟨n, Nat.zero_le _, hlt, heq⟩
      · rintro ⟨n, -, hlt, heq⟩
        exact .inr ⟨n, hlt, heq⟩)
  refine ⟨floor, hle, ?_⟩
  -- without barriers the journal is what the rows make
  have hopened : opened journal.manifest journal.totalBytes journal.rows = { journal with
        barriers := [], clockFloor := floorOf journal.manifest journal.rows, poisoned := false } := by
    unfold opened
    rw [hv.index]
  obtain ⟨dt, hcreated⟩ := localTime?_isSome.mp hv.created
  unfold load
  rw [hv.identity]
  show RiIngressJournal.checkFiles text dir >>= _ = _
  rw [h.checkFiles]
  show readManifest text dir >>= _ = _
  rw [hmanifest]
  show ensure _ _ >>= _ = _
  rw [ensure_bind_eq_ok]
  refine ⟨by simp [hv.version], ?_⟩
  rw [hcreated, h.total]
  show readRows text dir maxRecords _ >>= _ = _
  rw [show (⟨(dir.keys.erase .lock).erase .manifest, ⟨journal.manifest, [], ∅, [],
    journal.totalBytes, journal.manifest.createdAtUtc, false⟩⟩ : Opening) = ⟨_,
      opened journal.manifest journal.totalBytes []⟩ from rfl, hrows, hopened]
  show readBarriers text dir maxBarriers _ >>= _ = _
  rw [hbarriers]
  rfl

end Load

/-! ### One more row or barrier -/

section Grow

variable {journal : RiIngressJournal} {row : Row} {saved : StoredBarrier}

theorem validateBarrier_eq_ok :
    journal.validateBarrier text saved = .ok () ↔
      ((localTime? saved.barrier.throughUtc).isSome = true ∧
        (localTime? saved.barrier.attestedAtUtc).isSome = true) ∧
      (saved.barrier.receiptStream = journal.manifest.identity.receiptStream ∧
        saved.barrier.lastSequence ≤ journal.lastSequence) ∧
      (journal.manifest.createdAtUtc ≤ saved.barrier.throughUtc ∧
        saved.barrier.throughUtc ≤ saved.barrier.attestedAtUtc) ∧
      (journal.inputsHashThrough text saved.barrier.lastSequence = .ok saved.barrier.ingressSha256 ∧
        journal.commitHashAt text saved.barrier.lastSequence = .ok saved.lastCommitSha256) ∧
      (saved.barrier.lastSequence = 0 ∨ ∀ row ∈ journal.rows[saved.barrier.lastSequence - 1]?,
          row.commit.durableAtUtc ≤ saved.barrier.attestedAtUtc) ∧
      (∀ next ∈ journal.rows[saved.barrier.lastSequence]?,
        saved.barrier.attestedAtUtc ≤ next.raw.receivedAtUtc) ∧
      ∀ previous ∈ journal.barriers.getLast?,
        previous.barrier.throughUtc < saved.barrier.throughUtc ∧
          previous.barrier.attestedAtUtc ≤ saved.barrier.attestedAtUtc ∧
            previous.barrier.lastSequence ≤ saved.barrier.lastSequence := by
  unfold validateBarrier
  dsimp only
  rw [localTime?_isSome, localTime?_isSome]
  constructor
  -- the checks in the order of the source
  · intro h
    obtain ⟨through, hthrough, h⟩ := bind_eq_ok.mp h
    obtain ⟨attested, hattested, h⟩ := bind_eq_ok.mp h
    obtain ⟨hidentity, h⟩ := ensure_bind_eq_ok.mp h
    obtain ⟨hclock, h⟩ := ensure_bind_eq_ok.mp h
    obtain ⟨inputs, hinputs, h⟩ := bind_eq_ok.mp h
    obtain ⟨commit, hcommit, h⟩ := bind_eq_ok.mp h
    obtain ⟨hsums, h⟩ := ensure_bind_eq_ok.mp h
    obtain ⟨hincluded, h⟩ := ensure_bind_eq_ok.mp h
    obtain ⟨hnext, h⟩ := ensure_bind_eq_ok.mp h
    have hprevious := ensure_eq_ok.mp h
    simp only [Bool.and_eq_true, Bool.or_eq_true, decide_eq_true_eq, Option.all_eq_true] at *
    rw [hsums.1, hsums.2]
    refine ⟨⟨⟨_, hthrough⟩, ⟨_, hattested⟩⟩, hidentity, hclock, ⟨hinputs, hcommit⟩, hincluded, hnext, ?_⟩
    intro previous hmem
    obtain ⟨⟨hthrough, hattested⟩, hlast⟩ := hprevious previous hmem
    exact ⟨hthrough, hattested, hlast⟩
  · rintro ⟨⟨⟨through, hthrough⟩, attested, hattested⟩, hidentity, hclock, ⟨hinputs, hcommit⟩,
      hincluded, hnext, hprevious⟩
    rw [hthrough, hattested, hinputs, hcommit]
    show ensure _ _ >>= _ = _
    rw [ensure_bind_eq_ok]
    refine ⟨by simp [hidentity], ?_⟩
    rw [ensure_bind_eq_ok]
    refine ⟨by simp [hclock], ?_⟩
    show ensure _ _ >>= _ = _
    rw [ensure_bind_eq_ok]
    refine ⟨by simp, ?_⟩
    rw [ensure_bind_eq_ok]
    refine ⟨?_, ?_⟩
    · simp only [Bool.or_eq_true, decide_eq_true_eq, Option.all_eq_true]
      exact hincluded
    rw [ensure_bind_eq_ok, ensure_eq_ok]
    simp only [Bool.and_eq_true, decide_eq_true_eq, Option.all_eq_true]
    refine ⟨hnext, ?_⟩
    intro previous hmem
    obtain ⟨hthrough, hattested, hlast⟩ := hprevious previous hmem
    exact ⟨⟨hthrough, hattested⟩, hlast⟩

theorem commitHashAt_concat {sequence : ℕ} (h : sequence ≤ journal.rows.length) :
    ({ journal with rows := journal.rows ++ [row] } : RiIngressJournal).commitHashAt text sequence =
      journal.commitHashAt text sequence := by
  cases sequence with
  | zero => rfl
  | succ i =>
    unfold commitHashAt
    dsimp only
    rw [List.getElem?_append_left h]

theorem inputsHashThrough_concat {sequence : ℕ} (h : sequence ≤ journal.rows.length) :
    ({ journal with rows := journal.rows ++ [row] } : RiIngressJournal).inputsHashThrough text
      sequence = journal.inputsHashThrough text sequence := by
  unfold inputsHashThrough lastSequence
  rw [List.take_append_of_le_length h, List.length_append, decide_eq_true h,
    decide_eq_true (h.trans (Nat.le_add_right _ _))]

/-- A barrier stays valid when a row is added that was received after it. -/
theorem validateBarrier_concat (h : journal.validateBarrier text saved = .ok ())
    (hreceived : saved.barrier.attestedAtUtc ≤ row.raw.receivedAtUtc) :
    ({ journal with rows := journal.rows ++ [row] } : RiIngressJournal).validateBarrier text saved =
      .ok () := by
  obtain ⟨htimes, ⟨hstream, hlast⟩, hclock, ⟨hinputs, hcommit⟩, hincluded, hnext, hprevious⟩ :=
    validateBarrier_eq_ok.mp h
  have hle : saved.barrier.lastSequence ≤ journal.rows.length := hlast
  refine validateBarrier_eq_ok.mpr ⟨htimes, ⟨hstream, ?_⟩, hclock, ⟨?_, ?_⟩, ?_, ?_, hprevious⟩
  · show _ ≤ (journal.rows ++ [row]).length
    rw [List.length_append]
    omega
  · rw [inputsHashThrough_concat hle, hinputs]
  · rw [commitHashAt_concat hle, hcommit]
  · rcases Nat.eq_zero_or_pos saved.barrier.lastSequence with hzero | hpos
    · exact .inl hzero
    · refine .inr ?_
      show ∀ row' ∈ (journal.rows ++ [row])[saved.barrier.lastSequence - 1]?, _
      rw [List.getElem?_append_left (by omega)]
      exact hincluded.resolve_left (by omega)
  · show ∀ next ∈ (journal.rows ++ [row])[saved.barrier.lastSequence]?, _
    rcases Nat.lt_or_ge saved.barrier.lastSequence journal.rows.length with hlt | hge
    · rw [List.getElem?_append_left hlt]
      exact hnext
    · have hsame : saved.barrier.lastSequence = journal.rows.length := by omega
      rw [hsame, List.getElem?_concat_length]
      rintro next hmem
      obtain rfl := Option.some.inj hmem
      exact hreceived

namespace RiIngressJournal.Valid

variable (h : journal.Valid text)
include h

theorem withRow {bytes : ℕ} {completed : ℤ} (hlimit : journal.rows.length < maxRecords)
    (hread : ∀ total, (opened journal.manifest total journal.rows).readRow text row.raw row.commit =
      .ok (opened journal.manifest total (journal.rows ++ [row])))
    (hfloor : journal.clockFloor ≤ row.raw.receivedAtUtc)
    (hreceived : row.raw.receivedAtUtc ≤ row.commit.durableAtUtc)
    (hdurable : row.commit.durableAtUtc ≤ completed) :
    (journal.withRow row bytes completed).Valid text where
  identity := h.identity
  version := h.version
  created := h.created
  rows i row' hrow := by
    show ∀ total, (opened journal.manifest total ((journal.rows ++ [row]).take i)).readRow text
      row'.raw row'.commit = .ok (opened journal.manifest total ((journal.rows ++ [row]).take i ++ [row']))
    have hi := (List.getElem?_eq_some_iff.mp hrow).1
    have hlength : i < journal.rows.length + 1 := by
      rw [← List.length_singleton (a := row), ← List.length_append]
      exact hi
    rw [List.take_append_of_le_length (by omega)]
    -- the row was there before, or is the new one
    rcases Nat.lt_or_ge i journal.rows.length with hlt | hge
    · refine h.rows i row' ?_
      rw [← hrow]
      exact (List.getElem?_append_left hlt).symm
    · obtain rfl : i = journal.rows.length := by omega
      obtain rfl : row = row' := Option.some.inj (List.getElem?_concat_length.symm.trans hrow)
      rw [List.take_length]
      exact hread
  barriers i saved hsaved := by
    have hattested := h.floor_barrier saved (List.mem_of_getElem? hsaved)
    -- a barrier does not depend on rows that come after it
    exact validateBarrier_concat (h.barriers i saved hsaved) (hattested.trans hfloor)
  index := by
    show journal.bySource.insert row.raw.sourceId journal.rows.length = indexOf (journal.rows ++ [row])
    rw [indexOf_concat, h.index]
  rows_le := by
    show (journal.rows ++ [row]).length ≤ maxRecords
    rw [List.length_append]
    exact hlimit
  barriers_le := h.barriers_le
  floor_created := by
    have hcreated := h.floor_created
    show journal.manifest.createdAtUtc ≤ completed
    omega
  floor_row row' hrow' := by
    show row'.commit.durableAtUtc ≤ completed
    rcases List.mem_append.mp hrow' with hold | hnew
    · have hle := h.floor_row row' hold
      omega
    · obtain rfl := List.mem_singleton.mp hnew
      exact hdurable
  floor_barrier saved hsaved := by
    have hle := h.floor_barrier saved hsaved
    show saved.barrier.attestedAtUtc ≤ completed
    omega

theorem withBarrier {bytes : ℕ} {reading : ℤ} (hlimit : journal.barriers.length < maxBarriers)
    (hvalid : journal.validateBarrier text saved = .ok ())
    (hattested : saved.barrier.attestedAtUtc = reading) (hfloor : journal.clockFloor ≤ reading) :
    (journal.withBarrier saved bytes reading).Valid text where
  identity := h.identity
  version := h.version
  created := h.created
  rows := h.rows
  barriers i saved' hsaved' := by
    show ({ journal with barriers := (journal.barriers ++ [saved]).take i } :
      RiIngressJournal).validateBarrier text saved' = .ok ()
    have hi := (List.getElem?_eq_some_iff.mp hsaved').1
    have hlength : i < journal.barriers.length + 1 := by
      rw [← List.length_singleton (a := saved), ← List.length_append]
      exact hi
    rw [List.take_append_of_le_length (by omega)]
    rcases Nat.lt_or_ge i journal.barriers.length with hlt | hge
    · refine h.barriers i saved' ?_
      rw [← hsaved']
      exact (List.getElem?_append_left hlt).symm
    · obtain rfl : i = journal.barriers.length := by omega
      obtain rfl : saved = saved' := Option.some.inj (List.getElem?_concat_length.symm.trans hsaved')
      rw [List.take_length]
      exact hvalid
  index := h.index
  rows_le := h.rows_le
  barriers_le := by
    show (journal.barriers ++ [saved]).length ≤ maxBarriers
    rw [List.length_append]
    exact hlimit
  floor_created := h.floor_created.trans hfloor
  floor_row row hrow := (h.floor_row row hrow).trans hfloor
  floor_barrier saved' hsaved' := by
    rcases List.mem_append.mp hsaved' with hold | hnew
    · exact (h.floor_barrier saved' hold).trans hfloor
    · obtain rfl := List.mem_singleton.mp hnew
      exact hattested.le

theorem withFloor {reading : ℤ} (hfloor : journal.clockFloor ≤ reading) :
    ({ journal with clockFloor := reading } : RiIngressJournal).Valid text where
  identity := h.identity
  version := h.version
  created := h.created
  rows := h.rows
  barriers := h.barriers
  index := h.index
  rows_le := h.rows_le
  barriers_le := h.barriers_le
  floor_created := h.floor_created.trans hfloor
  floor_row row hrow := (h.floor_row row hrow).trans hfloor
  floor_barrier saved hsaved := (h.floor_barrier saved hsaved).trans hfloor

end RiIngressJournal.Valid

end Grow

/-! ### Files that are added -/

theorem getElem?_concat {V : Type} (vs : List V) (v : V) (i : ℕ) :
    (vs ++ [v])[i]? = if i = vs.length then some v else vs[i]? := by
  split_ifs with heq
  · rw [heq, List.getElem?_concat_length]
  · rcases Nat.lt_or_ge i vs.length with hlt | hge
    · rw [List.getElem?_append_left hlt]
    · rw [List.getElem?_append_right hge, List.getElem?_eq_none hge, List.getElem?_eq_none]
      rw [List.length_singleton]
      omega

section Added

variable {journal : RiIngressJournal} {row : Row} {saved : StoredBarrier} {bytes : ℕ} {reading : ℤ}

theorem contents_withRow (name : FileName) :
    contents text (journal.withRow row bytes reading) name =
      if name = .commit (journal.rows.length + 1) then
        some (.commit ⟨row.commit, text.commit row.commit⟩)
      else if name = .raw (journal.rows.length + 1) then some (.raw ⟨row.raw, text.raw row.raw⟩)
      else contents text journal name := by
  cases name with
  | raw n =>
    cases n with
    | zero => rfl
    | succ n =>
      rw [if_neg (nofun)]
      show ((journal.rows ++ [row])[n]?).map _ = _
      rw [getElem?_concat]
      -- the name is that of the new row, or of an older one
      by_cases hn : n = journal.rows.length
      · rw [if_pos hn, if_pos (by rw [hn])]
        rfl
      · rw [if_neg hn, if_neg (fun heq => hn (Nat.succ.inj (FileName.raw.inj heq)))]
        rfl
  | commit n =>
    cases n with
    | zero => rfl
    | succ n =>
      show ((journal.rows ++ [row])[n]?).map _ = _
      rw [getElem?_concat]
      by_cases hn : n = journal.rows.length
      · rw [if_pos hn, if_pos (by rw [hn])]
        rfl
      · rw [if_neg hn, if_neg (fun heq => hn (Nat.succ.inj (FileName.commit.inj heq))),
          if_neg (nofun)]
        rfl
  | lock | manifest | failed | temporary => rfl
  | barrier n => cases n <;> rfl

theorem contents_withBarrier (name : FileName) :
    contents text (journal.withBarrier saved bytes reading) name =
      if name = .barrier (journal.barriers.length + 1) then
        some (.barrier ⟨saved, text.barrier saved⟩)
      else contents text journal name := by
  cases name with
  | barrier n =>
    cases n with
    | zero => rfl
    | succ n =>
      show ((journal.barriers ++ [saved])[n]?).map _ = _
      rw [getElem?_concat]
      by_cases hn : n = journal.barriers.length
      · rw [if_pos hn, if_pos (by rw [hn])]
        rfl
      · rw [if_neg hn, if_neg (fun heq => hn (Nat.succ.inj (FileName.barrier.inj heq)))]
        rfl
  | lock | manifest | failed | temporary => rfl
  | raw n => cases n <;> rfl
  | commit n => cases n <;> rfl

namespace Committed

theorem notMem (h : Committed text journal dir) (hname : contents text journal name = none) :
    name ∉ dir := by
  rw [← AList.lookup_isSome, h.files, hname]
  exact nofun

variable {after : IngressDirectory}

theorem withRow {between : IngressDirectory} (h : Committed text journal dir)
    (hvalid : (journal.withRow row
      (text.size (.raw ⟨row.raw, text.raw row.raw⟩) +
        text.size (.commit ⟨row.commit, text.commit row.commit⟩)) reading).Valid text)
    (hraw : Disk.Adds dir (.raw (journal.rows.length + 1)) (.raw ⟨row.raw, text.raw row.raw⟩)
      between) (hcommit : Disk.Adds between (.commit (journal.rows.length + 1))
      (.commit ⟨row.commit, text.commit row.commit⟩) after)
    (hrawSize : text.size (.raw ⟨row.raw, text.raw row.raw⟩) ≤ maxFileBytes)
    (hcommitSize : text.size (.commit ⟨row.commit, text.commit row.commit⟩) ≤ maxFileBytes)
    (hreserved : journal.totalBytes + 2 * maxFileBytes ≤ maxTotalBytes) :
    Committed text (journal.withRow row
      (text.size (.raw ⟨row.raw, text.raw row.raw⟩) +
        text.size (.commit ⟨row.commit, text.commit row.commit⟩)) reading) after := by
  -- the two files are added one after the other
  have hlookup : ∀ name, after.lookup name = if name = .commit (journal.rows.length + 1) then
        some (.commit ⟨row.commit, text.commit row.commit⟩)
      else if name = .raw (journal.rows.length + 1) then some (.raw ⟨row.raw, text.raw row.raw⟩)
      else dir.lookup name := by
    intro name
    split_ifs with hisCommit hisRaw
    · rw [hisCommit, hcommit.lookup_self]
    · rw [hcommit.lookup_of_ne hisCommit, hisRaw, hraw.lookup_self]
    · rw [hcommit.lookup_of_ne hisCommit, hraw.lookup_of_ne hisRaw]
  refine ⟨hvalid, ?_, ?_, ?_, ?_, ?_⟩
  · intro name
    rw [hlookup, contents_withRow, h.files]
  · intro name content hcontent
    rw [hlookup] at hcontent
    split_ifs at hcontent with hisCommit hisRaw
    · obtain rfl := Option.some.inj hcontent
      exact hcommitSize
    · obtain rfl := Option.some.inj hcontent
      exact hrawSize
    · exact h.sizes name content hcontent
  · rw [hcommit.total, hraw.total, h.total]
    show _ + text.size _ + text.size _ = journal.totalBytes + (_ + _)
    omega
  · show journal.totalBytes + (_ + _) ≤ maxTotalBytes
    omega
  · rw [hcommit.length_keys, hraw.length_keys, h.count]
    show _ = 2 * (journal.rows ++ [row]).length + journal.barriers.length + 2
    rw [List.length_append, List.length_singleton]
    omega

theorem withBarrier (h : Committed text journal dir) (hvalid : (journal.withBarrier saved
      (text.size (.barrier ⟨saved, text.barrier saved⟩)) reading).Valid text)
    (hadds : Disk.Adds dir (.barrier (journal.barriers.length + 1))
      (.barrier ⟨saved, text.barrier saved⟩) after)
    (hsize : text.size (.barrier ⟨saved, text.barrier saved⟩) ≤ maxFileBytes)
    (hreserved : journal.totalBytes + maxFileBytes ≤ maxTotalBytes) :
    Committed text (journal.withBarrier saved
      (text.size (.barrier ⟨saved, text.barrier saved⟩)) reading) after := by
  refine ⟨hvalid, ?_, ?_, ?_, ?_, ?_⟩
  · intro name
    rw [contents_withBarrier, hadds.2]
    split_ifs with hbarrier
    · rw [hbarrier, AList.lookup_insert]
    · rw [AList.lookup_insert_ne hbarrier, h.files]
  · intro name content hcontent
    rw [hadds.2] at hcontent
    by_cases hbarrier : name = .barrier (journal.barriers.length + 1)
    · rw [hbarrier, AList.lookup_insert] at hcontent
      obtain rfl := Option.some.inj hcontent
      exact hsize
    · rw [AList.lookup_insert_ne hbarrier] at hcontent
      exact h.sizes name content hcontent
  · rw [hadds.total, h.total]
    rfl
  · show journal.totalBytes + _ ≤ maxTotalBytes
    omega
  · rw [hadds.length_keys, h.count]
    show _ = 2 * journal.rows.length + (journal.barriers ++ [saved]).length + 2
    rw [List.length_append, List.length_singleton]
    omega

theorem withFloor {floor : ℤ} (h : Committed text journal dir) (hfloor : journal.clockFloor ≤ floor) :
    Committed text { journal with clockFloor := floor } dir :=
  ⟨h.valid.withFloor hfloor, fun name => (h.files name).trans (by cases name <;> rfl), h.sizes,
    h.total, h.total_le, h.count⟩

end Committed

end Added

end AlorRs.RiContext
