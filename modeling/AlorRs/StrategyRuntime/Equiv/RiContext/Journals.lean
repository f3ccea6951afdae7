import AlorRs.StrategyRuntime.Equiv.RiContext.Crashes

/-!
# Journals that go on

Whatever happens to a journal of receipts, a failure, a crash or a clock that goes back, its rows and
barriers stay in its directory (`wp_append_held`, `wp_sealCutoff_held`), and what is opened later goes
on from them (`Held.extends_load`).  The clocks of the rows and the barriers are in order in every
journal (`Timely`), since both the writer and `open` check them.
-/

namespace AlorRs.RiContext

open Eff Outcome RiIngressJournal

variable {text : IngressText} {journal journal' : RiIngressJournal} {dir dir' : IngressDirectory}
  {disk : IngressDisk}

/-! ### The clocks of a journal -/

structure RiIngressJournal.Extends (journal journal' : RiIngressJournal) : Prop where
  manifest : journal'.manifest = journal.manifest
  rows : journal.rows <+: journal'.rows
  barriers : journal.barriers <+: journal'.barriers

namespace RiIngressJournal.Extends

theorem refl (journal : RiIngressJournal) : journal.Extends journal :=
  ⟨rfl, List.prefix_rfl, List.prefix_rfl⟩

end RiIngressJournal.Extends

/-- The numbers and the clocks of the rows and the barriers of a journal. -/
structure RiIngressJournal.Timely (journal : RiIngressJournal) : Prop where
  numbered : ∀ i row, journal.rows[i]? = some row → row.raw.sequence = i + 1
  received : ∀ row ∈ journal.rows, (localTime? row.raw.receivedAtUtc).isSome = true
  durable : ∀ row ∈ journal.rows, (localTime? row.commit.durableAtUtc).isSome = true
  received_le : ∀ row ∈ journal.rows, row.raw.receivedAtUtc ≤ row.commit.durableAtUtc
  ordered : journal.rows.Pairwise fun a b => a.commit.durableAtUtc ≤ b.raw.receivedAtUtc
  floor_row : ∀ row ∈ journal.rows, row.commit.durableAtUtc ≤ journal.clockFloor
  attested : ∀ i row, journal.rows[i]? = some row → ∀ saved ∈ journal.barriers,
    saved.barrier.lastSequence ≤ i → saved.barrier.attestedAtUtc ≤ row.raw.receivedAtUtc
  through_le : ∀ saved ∈ journal.barriers, saved.barrier.throughUtc ≤ saved.barrier.attestedAtUtc
  floor_barrier : ∀ saved ∈ journal.barriers, saved.barrier.attestedAtUtc ≤ journal.clockFloor

namespace RiIngressJournal.Timely

theorem of_empty (hrows : journal.rows = []) (hbarriers : journal.barriers = []) : journal.Timely where
  numbered := by simp [hrows]
  received := by simp [hrows]
  durable := by simp [hrows]
  received_le := by simp [hrows]
  ordered := by simp [hrows]
  floor_row := by simp [hrows]
  attested := by simp [hrows]
  through_le := by simp [hbarriers]
  floor_barrier := by simp [hbarriers]

variable (h : journal.Timely)
include h

theorem of_same (hrows : journal'.rows = journal.rows) (hbarriers : journal'.barriers = journal.barriers)
    (hfloor : journal.clockFloor ≤ journal'.clockFloor) : journal'.Timely where
  numbered := hrows ▸ h.numbered
  received := hrows ▸ h.received
  durable := hrows ▸ h.durable
  received_le := hrows ▸ h.received_le
  ordered := hrows ▸ h.ordered
  floor_row row hrow := (h.floor_row row (hrows ▸ hrow)).trans hfloor
  attested := by
    rw [hrows, hbarriers]
    exact h.attested
  through_le := hbarriers ▸ h.through_le
  floor_barrier saved hsaved := (h.floor_barrier saved (hbarriers ▸ hsaved)).trans hfloor

theorem concat (row : Row) (hrows : journal'.rows = journal.rows ++ [row])
    (hbarriers : journal'.barriers = journal.barriers)
    (hsequence : row.raw.sequence = journal.rows.length + 1)
    (hreceived : (localTime? row.raw.receivedAtUtc).isSome = true)
    (hdurable : (localTime? row.commit.durableAtUtc).isSome = true)
    (hfloor : journal.clockFloor ≤ row.raw.receivedAtUtc)
    (hle : row.raw.receivedAtUtc ≤ row.commit.durableAtUtc)
    (hcompleted : row.commit.durableAtUtc ≤ journal'.clockFloor) : journal'.Timely := by
  -- what holds of the old rows and of the new one holds of all
  have hforall : ∀ {P : Row → Prop}, (∀ row ∈ journal.rows, P row) → P row →
      ∀ row ∈ journal'.rows, P row := by
    intro P hold hnew other hother
    rw [hrows] at hother
    rcases List.mem_append.mp hother with hmem | hmem
    · exact hold other hmem
    · exact List.mem_singleton.mp hmem ▸ hnew
  have hgrown : journal.clockFloor ≤ journal'.clockFloor := hfloor.trans (hle.trans hcompleted)
  refine ⟨?_, hforall h.received hreceived, hforall h.durable hdurable, hforall h.received_le hle, ?_,
    hforall (fun other hother => (h.floor_row other hother).trans hgrown) hcompleted, ?_,
    hbarriers ▸ h.through_le, ?_⟩
  · intro i other hother
    rw [hrows, getElem?_concat] at hother
    split_ifs at hother with hi
    · obtain rfl := Option.some.inj hother
      rw [hi, hsequence]
    · exact h.numbered i other hother
  -- the new row was received after all that are durable
  · rw [hrows]
    refine List.pairwise_append.mpr ⟨h.ordered, List.pairwise_singleton _ _, ?_⟩
    intro other hother new hnew
    obtain rfl := List.mem_singleton.mp hnew
    exact (h.floor_row other hother).trans hfloor
  · intro i other hother saved hsaved hlast
    rw [hrows, getElem?_concat] at hother
    rw [hbarriers] at hsaved
    -- every barrier was attested before the row came
    split_ifs at hother with hi
    · obtain rfl := Option.some.inj hother
      exact (h.floor_barrier saved hsaved).trans hfloor
    · exact h.attested i other hother saved hsaved hlast
  · intro saved hsaved
    rw [hbarriers] at hsaved
    exact (h.floor_barrier saved hsaved).trans hgrown

theorem withSaved (saved : StoredBarrier) (hrows : journal'.rows = journal.rows)
    (hbarriers : journal'.barriers = journal.barriers ++ [saved])
    (hthrough : saved.barrier.throughUtc ≤ saved.barrier.attestedAtUtc)
    (hlater : ∀ i row, journal.rows[i]? = some row → saved.barrier.lastSequence ≤ i →
      saved.barrier.attestedAtUtc ≤ row.raw.receivedAtUtc)
    (hfloor : journal.clockFloor ≤ journal'.clockFloor)
    (hattested : saved.barrier.attestedAtUtc ≤ journal'.clockFloor) : journal'.Timely := by
  have hforall : ∀ {P : StoredBarrier → Prop}, (∀ saved ∈ journal.barriers, P saved) → P saved →
      ∀ saved ∈ journal'.barriers, P saved := by
    intro P hold hnew other hother
    rw [hbarriers] at hother
    rcases List.mem_append.mp hother with hmem | hmem
    · exact hold other hmem
    · exact List.mem_singleton.mp hmem ▸ hnew
  refine ⟨hrows ▸ h.numbered, hrows ▸ h.received, hrows ▸ h.durable, hrows ▸ h.received_le,
    hrows ▸ h.ordered, ?_, ?_, hforall h.through_le hthrough,
    hforall (fun other hother => (h.floor_barrier other hother).trans hfloor) hattested⟩
  · intro row hrow
    rw [hrows] at hrow
    exact (h.floor_row row hrow).trans hfloor
  · intro i row hrow
    rw [hrows] at hrow
    exact hforall (fun other hother => h.attested i row hrow other hother) (hlater i row hrow)

end RiIngressJournal.Timely

/-! ### What stays in the directory -/

def FileName.IsKept (name : FileName) : Prop := ∀ id, name ≠ .temporary id

theorem FileName.not_isKept_temporary {id : ℕ} : ¬(FileName.temporary id).IsKept :=
  fun h => h id rfl

theorem getElem?_of_append {T : Type} {xs ys : List T} (h : xs <+: ys) {i : ℕ} {x : T}
    (hx : xs[i]? = some x) : ys[i]? = some x := by
  obtain ⟨rest, rfl⟩ := h
  rw [List.getElem?_append_left (List.getElem?_eq_some_iff.mp hx).1]
  exact hx

structure Held (text : IngressText) (journal : RiIngressJournal) (dir : IngressDirectory) :
    Prop where
  manifest : dir.lookup .manifest =
    some (.manifest ⟨journal.manifest, text.manifest journal.manifest⟩)
  raw : ∀ i row, journal.rows[i]? = some row →
    dir.lookup (.raw (i + 1)) = some (.raw ⟨row.raw, text.raw row.raw⟩)
  commit : ∀ i row, journal.rows[i]? = some row →
    dir.lookup (.commit (i + 1)) = some (.commit ⟨row.commit, text.commit row.commit⟩)
  barrier : ∀ i saved, journal.barriers[i]? = some saved →
    dir.lookup (.barrier (i + 1)) = some (.barrier ⟨saved, text.barrier saved⟩)

namespace Held

theorem of_empty (hmanifest : dir.lookup .manifest =
      some (.manifest ⟨journal.manifest, text.manifest journal.manifest⟩))
    (hrows : journal.rows = []) (hbarriers : journal.barriers = []) : Held text journal dir where
  manifest := hmanifest
  raw := by simp [hrows]
  commit := by simp [hrows]
  barrier := by simp [hbarriers]

theorem keeps (h : Held text journal dir) (hkeeps : Disk.Keeps FileName.IsKept dir dir') :
    Held text journal dir' where
  manifest := hkeeps _ _ (fun _ => nofun) h.manifest
  raw i row hrow := hkeeps _ _ (fun _ => nofun) (h.raw i row hrow)
  commit i row hrow := hkeeps _ _ (fun _ => nofun) (h.commit i row hrow)
  barrier i saved hsaved := hkeeps _ _ (fun _ => nofun) (h.barrier i saved hsaved)

theorem of_same (h : Held text journal dir) (hmanifest : journal'.manifest = journal.manifest)
    (hrows : journal'.rows = journal.rows) (hbarriers : journal'.barriers = journal.barriers) :
    Held text journal' dir where
  manifest := hmanifest ▸ h.manifest
  raw := hrows ▸ h.raw
  commit := hrows ▸ h.commit
  barrier := hbarriers ▸ h.barrier

theorem of_extends (h : Held text journal' dir) (hextends : journal.Extends journal') :
    Held text journal dir where
  manifest := hextends.manifest ▸ h.manifest
  raw i row hrow := h.raw i row (getElem?_of_append hextends.rows hrow)
  commit i row hrow := h.commit i row (getElem?_of_append hextends.rows hrow)
  barrier i saved hsaved := h.barrier i saved (getElem?_of_append hextends.barriers hsaved)

end Held

theorem wp_publishNew_grows {id : ℕ} {name : FileName} {content : FileContent} :
    wp (text.publishNew id name content) () disk
      (fun _ disk' => Disk.Grows FileName.IsKept disk disk' ∧ disk'.dir.lookup name = some content)
      (fun _ disk' => Disk.Grows FileName.IsKept disk disk') := by
  unfold IngressText.publishNew
  split_ifs with hsize
  · exact refl_of (Disk.Grows FileName.IsKept) disk
  · rw [wp_bind]
    refine wp_mono (wp_and Disk.wp_publish
      (Disk.within_publish (p := FileName.IsKept) FileName.not_isKept_temporary disk)) ?_ ?_
    · rintro _ disk' ⟨⟨hadds, -⟩, hgrows⟩
      exact ⟨hgrows, hadds.lookup_self⟩
    · rintro _ disk' ⟨-, hgrows⟩
      exact hgrows

/-! ### Appending -/

variable {raw : RawReceipt} {clock : AppendClock} {names : AppendNames}

/-- The files of a row are there once it is published, and its clocks are in order. -/
theorem wp_publishRow_grows :
    wp (journal.publishRow text raw clock names) () disk
      (fun result disk' => result.1 = (rowFor text raw clock.durable).commit ∧
        (localTime? clock.durable).isSome = true ∧ raw.receivedAtUtc ≤ clock.durable ∧
          clock.durable ≤ clock.completed ∧ Disk.Grows FileName.IsKept disk disk' ∧
            disk'.dir.lookup (.raw raw.sequence) = some (.raw ⟨raw, text.raw raw⟩) ∧
              disk'.dir.lookup (.commit raw.sequence) = some (.commit
                ⟨result.1, text.commit result.1⟩))
      (fun _ disk' => Disk.Grows FileName.IsKept disk disk') := by
  unfold publishRow
  rw [wp_bind]
  refine wp_mono wp_publishNew_grows ?_ fun _ _ hgrows => hgrows
  rintro rawBytes between ⟨hbetween, hraw⟩
  rw [wp_bind, wp_ofExcept]
  refine ⟨?_, fun _ _ => hbetween⟩
  intro _ hdurable
  rw [wp_bind, wp_ofExcept]
  refine ⟨?_, fun _ _ => hbetween⟩
  intro _ hreceived
  rw [wp_bind]
  -- what is there by now is kept, whatever the next step does
  refine wp_mono wp_publishNew_grows ?_ fun _ _ hgrows => hbetween.trans hgrows
  rintro commitBytes after ⟨hafter, hcommit⟩
  have hgrown := hbetween.trans hafter
  rw [wp_bind, wp_ofExcept]
  refine ⟨?_, fun _ _ => hgrown⟩
  intro _ _
  rw [wp_bind, wp_ofExcept]
  refine ⟨?_, fun _ _ => hgrown⟩
  intro _ hcompleted
  exact ⟨rfl, (now_eq_ok.mp hdurable).2.1, of_decide_eq_true (ensure_eq_ok.mp hreceived),
    of_decide_eq_true (ensure_eq_ok.mp hcompleted), hgrown,
    hafter.1 _ _ (fun _ => nofun) hraw, hcommit⟩

/-- What a call of `append` makes of a journal: the row of the payload is there, or it is added, or
the call fails. -/
inductive AppendsTo (sourceId rawBarJson : String) (journal journal' : RiIngressJournal) :
    Except String AppendReceipt → Prop
  | known {receipt : AppendReceipt} {row : Row} (hrows : journal'.rows = journal.rows)
    (hrow : row ∈ journal.rows) (hsource : journal.rowOf sourceId = some row)
    (hraw : row.raw.rawBarJson = rawBarJson) :
    AppendsTo sourceId rawBarJson journal journal' (.ok receipt)
  | added {receipt : AppendReceipt} {row : Row} (hrows : journal'.rows = journal.rows ++ [row])
    (hnone : journal.rowOf sourceId = none) (hsource : row.raw.sourceId = sourceId)
    (hraw : row.raw.rawBarJson = rawBarJson) :
    AppendsTo sourceId rawBarJson journal journal' (.ok receipt)
  | failed {e : String} (hrows : journal'.rows = journal.rows) :
    AppendsTo sourceId rawBarJson journal journal' (.error e)

structure Kept (text : IngressText) (journal : RiIngressJournal) (dir : IngressDirectory) :
    Prop where
  held : Held text journal dir
  timely : journal.Timely

/-- What a call leaves: a journal that goes on, in a directory that has grown. -/
structure GoesOn (text : IngressText) (journal : RiIngressJournal) (disk : IngressDisk)
    (journal' : RiIngressJournal) (disk' : IngressDisk) : Prop where
  kept : Kept text journal' disk'.dir
  grows : Disk.Grows FileName.IsKept disk disk'
  goesOn : journal.Extends journal'

variable {sourceId : String}

theorem rowOf_mem {row : Row} (h : journal.rowOf sourceId = some row) : row ∈ journal.rows := by
  obtain ⟨i, -, hrow⟩ := Option.bind_eq_some_iff.mp h
  exact List.mem_of_getElem? hrow

variable {rawBarJson : String}

theorem wp_appendInner_held (h : Kept text journal disk.dir) :
    wp (journal.appendInner text sourceId rawBarJson clock names) () disk
      (fun result disk' => GoesOn text journal disk result.1 disk' ∧
        AppendsTo sourceId rawBarJson journal result.1 (.ok result.2))
      (fun _ disk' => Disk.Grows FileName.IsKept disk disk') := by
  have hrefl := refl_of (Disk.Grows FileName.IsKept) disk
  unfold appendInner
  rw [wp_bind, wp_ofExcept]
  refine ⟨?_, fun _ _ => hrefl⟩
  intro _ hnow
  obtain ⟨-, hreceived, hfloor⟩ := now_eq_ok.mp hnow
  rw [wp_bind, wp_ofExcept]
  refine ⟨?_, fun _ _ => hrefl⟩
  intro _ _
  cases hrow : journal.rowOf sourceId with
  | some row =>
    rw [wp_bind, wp_ofExcept]
    refine ⟨?_, fun _ _ => hrefl⟩
    -- the row is that of an earlier delivery
    intro _ hsame
    exact ⟨⟨⟨h.held.of_same rfl rfl rfl, h.timely.of_same rfl rfl hfloor⟩, hrefl,
      ⟨rfl, List.prefix_rfl, List.prefix_rfl⟩⟩, .known rfl (rowOf_mem hrow) hrow (of_decide_eq_true (ensure_eq_ok.mp hsame))⟩
  | none =>
    rw [wp_bind, wp_ofExcept]
    refine ⟨?_, fun _ _ => hrefl⟩
    intro raw hraw
    obtain ⟨-, -, -, hsequence, hsourceId, hjson, hreceivedAt⟩ := newRaw_eq_ok hraw
    rw [wp_bind]
    refine wp_mono wp_publishRow_grows ?_ fun _ _ hgrows => hgrows
    rintro ⟨commit, bytes⟩ disk' ⟨hcommit, hdurable, hle, hcompleted, hgrows, hrawFile, hcommitFile⟩
    dsimp only at hcommit hcommitFile
    have hheld := h.held.keeps hgrows.1
    refine ⟨⟨⟨⟨hheld.manifest, ?_, ?_, hheld.barrier⟩, ?_⟩, hgrows,
      ⟨rfl, List.prefix_append _ _, List.prefix_rfl⟩⟩, .added rfl hrow hsourceId hjson⟩
    -- each row lies where its place says
    · intro i row hi
      have hplace : (journal.rows ++ [⟨raw, commit⟩])[i]? = some row := hi
      rw [getElem?_concat] at hplace
      split_ifs at hplace with hlast
      · obtain rfl := Option.some.inj hplace
        rw [hlast, ← hsequence]
        exact hrawFile
      · exact hheld.raw i row hplace
    · intro i row hi
      have hplace : (journal.rows ++ [⟨raw, commit⟩])[i]? = some row := hi
      rw [getElem?_concat] at hplace
      split_ifs at hplace with hlast
      · obtain rfl := Option.some.inj hplace
        rw [hlast, ← hsequence]
        exact hcommitFile
      · exact hheld.commit i row hplace
    -- the clocks of the row are those of the call
    · have hdurableAt : commit.durableAtUtc = clock.durable := by
        rw [hcommit]
        rfl
      refine h.timely.concat ⟨raw, commit⟩ rfl rfl hsequence ?_ ?_ ?_ ?_ ?_
      · rw [hreceivedAt]
        exact hreceived
      · rw [hdurableAt]
        exact hdurable
      · rw [hreceivedAt]
        exact hfloor
      · rw [hdurableAt]
        exact hle
      · rw [hdurableAt]
        exact hcompleted

theorem wp_append_held (h : Kept text journal disk.dir) :
    wp (journal.append text sourceId rawBarJson clock names) () disk
      (fun result disk' => GoesOn text journal disk result.1 disk' ∧
        AppendsTo sourceId rawBarJson journal result.1 result.2)
      (fun _ _ => False) := by
  have hrefl := refl_of (Disk.Grows FileName.IsKept) disk
  have hpoisoned : ∀ {disk'}, Disk.Grows FileName.IsKept disk disk' →
      GoesOn text journal disk { journal with poisoned := true } disk' := fun hgrows =>
    ⟨⟨(h.held.keeps hgrows.1).of_same rfl rfl rfl, h.timely.of_same rfl rfl le_rfl⟩, hgrows,
      ⟨rfl, List.prefix_rfl, List.prefix_rfl⟩⟩
  unfold append
  split_ifs
  · exact ⟨⟨h, hrefl, .refl _⟩, .failed rfl⟩
  · rw [wp_bind, wp_attempt]
    refine wp_mono (wp_appendInner_held h) ?_ ?_
    · rintro ⟨journal', receipt⟩ disk' hdone
      exact hdone
    · intro e disk' hgrows
      rw [wp_bind, wp_attempt]
      refine wp_mono wp_publishNew_grows ?_ ?_
      · rintro bytes disk'' ⟨hgrows', -⟩
        exact ⟨hpoisoned (hgrows.trans hgrows'), .failed rfl⟩
      · intro _ disk'' hgrows'
        exact ⟨hpoisoned (hgrows.trans hgrows'), .failed rfl⟩

/-! ### Sealing -/

/-- What a call of `seal_cutoff` returns: a barrier of the journal, which is there or is over all
rows. -/
inductive SealsTo (throughUtc : ℤ) (journal journal' : RiIngressJournal) :
    Except String ReceiptBarrier → Prop
  | known {saved : StoredBarrier} (hsaved : saved ∈ journal.barriers) (hsame : journal' = journal)
    (hthrough : saved.barrier.throughUtc = throughUtc) :
    SealsTo throughUtc journal journal' (.ok saved.barrier)
  | sealed {saved : StoredBarrier} (hrows : journal'.rows = journal.rows)
    (hbarriers : journal'.barriers = journal.barriers ++ [saved])
    (hnew : ∀ other ∈ journal.barriers, other.barrier.throughUtc ≠ throughUtc)
    (hthrough : saved.barrier.throughUtc = throughUtc)
    (hlast : saved.barrier.lastSequence = journal.rows.length) :
    SealsTo throughUtc journal journal' (.ok saved.barrier)
  | failed {e : String} (hrows : journal'.rows = journal.rows)
    (hbarriers : journal'.barriers = journal.barriers) :
    SealsTo throughUtc journal journal' (.error e)

theorem wp_sealCutoff_held {throughUtc reading : ℤ} {id : ℕ} (h : Kept text journal disk.dir) :
    wp (journal.sealCutoff text throughUtc reading id) () disk
      (fun result disk' => GoesOn text journal disk result.1 disk' ∧
        SealsTo throughUtc journal result.1 result.2)
      (fun _ _ => False) := by
  have hrefl := refl_of (Disk.Grows FileName.IsKept) disk
  unfold sealCutoff
  cases hcheck : journal.checkCutoff throughUtc reading with
  | error e => exact ⟨⟨h, hrefl, .refl _⟩, .failed rfl rfl⟩
  | ok _ =>
    obtain ⟨_, hnow, -⟩ := bind_eq_ok.mp hcheck
    obtain ⟨-, -, hfloor⟩ := now_eq_ok.mp hnow
    -- a barrier of this cutoff is there already
    cases hfind : journal.barriers.find? fun saved => saved.barrier.throughUtc = throughUtc with
    | some saved =>
      exact ⟨⟨h, hrefl, .refl _⟩, .known (List.mem_of_find?_eq_some hfind) rfl
        (by simpa using List.find?_some hfind)⟩
    | none =>
      cases hnew : journal.newBarrier text throughUtc reading with
      | error e => exact ⟨⟨h, hrefl, .refl _⟩, .failed rfl rfl⟩
      | ok saved =>
        obtain ⟨-, -, hvalid, hthrough, hattested, hlast⟩ := newBarrier_eq_ok hnew
        rw [wp_bind, wp_attempt]
        refine wp_mono wp_publishNew_grows ?_ ?_
        · rintro bytes disk' ⟨hgrows, hfile⟩
          have hheld := h.held.keeps hgrows.1
          refine ⟨⟨⟨⟨hheld.manifest, hheld.raw, hheld.commit, ?_⟩, ?_⟩, hgrows,
            ⟨rfl, List.prefix_rfl, List.prefix_append _ _⟩⟩,
            .sealed rfl rfl ?_ hthrough hlast⟩
          · intro i saved' hi
            have hplace : (journal.barriers ++ [saved])[i]? = some saved' := hi
            rw [getElem?_concat] at hplace
            split_ifs at hplace with hend
            · obtain rfl := Option.some.inj hplace
              rw [hend]
              exact hfile
            · exact hheld.barrier i saved' hplace
          · refine h.timely.withSaved saved rfl rfl
              (validateBarrier_eq_ok.mp hvalid).2.2.1.2 ?_ hfloor hattested.le
            -- no row comes after the barrier yet
            intro i row hi hle
            have hlt := (List.getElem?_eq_some_iff.mp hi).1
            omega
          · intro other hother hsame
            exact List.find?_eq_none.mp hfind other hother (decide_eq_true hsame)
        · intro e disk' hgrows
          exact ⟨⟨⟨(h.held.keeps hgrows.1).of_same rfl rfl rfl, h.timely.of_same rfl rfl le_rfl⟩,
            hgrows, ⟨rfl, List.prefix_rfl, List.prefix_rfl⟩⟩, .failed rfl rfl⟩

/-! ### Opening -/

section Open

theorem checked_eq_ok {V : Type} {digest : V → String} {found : Option (Checked V)} {v : V}
    (h : RiIngressJournal.checked digest found = .ok v) : found = some ⟨v, digest v⟩ := by
  unfold RiIngressJournal.checked at h
  cases found with
  | none => exact (nomatch h)
  | some saved =>
    obtain ⟨payload, sha256⟩ := saved
    dsimp only at h
    split_ifs at h with hdigest
    obtain rfl := Except.ok.inj h
    rw [← hdigest]

theorem readManifest_eq_ok {manifest : Manifest} (h : readManifest text dir = .ok manifest) :
    dir.lookup .manifest = some (.manifest ⟨manifest, text.manifest manifest⟩) := by
  have hfound := checked_eq_ok h
  split at hfound
  · rename_i saved hlookup
    rw [hlookup, Option.some.inj hfound]
  · exact (nomatch hfound)

theorem readRaw_eq_ok {sequence : ℕ} (h : readRaw text dir sequence = .ok raw) :
    dir.lookup (.raw sequence) = some (.raw ⟨raw, text.raw raw⟩) := by
  have hfound := checked_eq_ok h
  split at hfound
  · rename_i saved hlookup
    rw [hlookup, Option.some.inj hfound]
  · exact (nomatch hfound)

theorem readCommit_eq_ok {sequence : ℕ} {commit : Commit}
    (h : readCommit text dir sequence = .ok commit) :
    dir.lookup (.commit sequence) = some (.commit ⟨commit, text.commit commit⟩) := by
  have hfound := checked_eq_ok h
  split at hfound
  · rename_i saved hlookup
    rw [hlookup, Option.some.inj hfound]
  · exact (nomatch hfound)

theorem readBarrier_eq_ok {ordinal : ℕ} {saved : StoredBarrier}
    (h : readBarrier text dir ordinal = .ok saved) :
    dir.lookup (.barrier ordinal) = some (.barrier ⟨saved, text.barrier saved⟩) := by
  have hfound := checked_eq_ok h
  split at hfound
  · rename_i saved' hlookup
    rw [hlookup, Option.some.inj hfound]
  · exact (nomatch hfound)

theorem readRow_timely {commit : Commit} (h : journal.Timely)
    (hread : journal.readRow text raw commit = .ok journal') :
    journal'.Timely ∧ journal'.rows = journal.rows ++ [⟨raw, commit⟩] ∧
      journal'.barriers = journal.barriers ∧ journal'.manifest = journal.manifest := by
  obtain ⟨_, -, hread⟩ := bind_eq_ok.mp hread
  obtain ⟨hsequence, hread⟩ := ensure_bind_eq_ok.mp hread
  obtain ⟨previous, -, hread⟩ := bind_eq_ok.mp hread
  obtain ⟨-, hread⟩ := ensure_bind_eq_ok.mp hread
  obtain ⟨received, hreceived, hread⟩ := bind_eq_ok.mp hread
  obtain ⟨durable, hdurable, hread⟩ := bind_eq_ok.mp hread
  obtain ⟨hclock, hread⟩ := ensure_bind_eq_ok.mp hread
  obtain ⟨-, hreturn⟩ := ensure_bind_eq_ok.mp hread
  obtain rfl := Except.ok.inj hreturn
  simp only [Bool.and_eq_true, decide_eq_true_eq] at hsequence hclock
  refine ⟨?_, rfl, rfl, rfl⟩
  exact h.concat ⟨raw, commit⟩ rfl rfl hsequence.1 (localTime?_isSome.mpr ⟨_, hreceived⟩)
    (localTime?_isSome.mpr ⟨_, hdurable⟩) hclock.1 hclock.2 le_rfl

structure Reading (text : IngressText) (dir : IngressDirectory) (names : List FileName)
    (opening : Opening) : Prop where
  held : Held text opening.journal dir
  timely : opening.journal.Timely
  /-- A name is that of a file that was read or is still to be read. -/
  read : ∀ name ∈ names, name ∈ opening.names ∨
    (∃ i < opening.journal.rows.length, name = .raw (i + 1) ∨ name = .commit (i + 1)) ∨
      ∃ i < opening.journal.barriers.length, name = .barrier (i + 1)

variable {names : List FileName}

theorem Reading.readRows {fuel : ℕ} {opening opening' : Opening}
    (h : Reading text dir names opening) (hbarriers : opening.journal.barriers = [])
    (hread : RiIngressJournal.readRows text dir fuel opening = .ok opening') :
    Reading text dir names opening' ∧ opening'.journal.barriers = [] ∧
      opening'.journal.manifest = opening.journal.manifest := by
  induction fuel generalizing opening with
  | zero =>
    obtain rfl := Except.ok.inj hread
    exact ⟨h, hbarriers, rfl⟩
  | succ fuel ih =>
    unfold RiIngressJournal.readRows at hread
    dsimp only at hread
    split_ifs at hread with hstop
    · obtain rfl := Except.ok.inj hread
      exact ⟨h, hbarriers, rfl⟩
    · obtain ⟨-, hread⟩ := ensure_bind_eq_ok.mp hread
      obtain ⟨raw, hraw, hread⟩ := bind_eq_ok.mp hread
      obtain ⟨commit, hcommit, hread⟩ := bind_eq_ok.mp hread
      obtain ⟨next, hrow, hread⟩ := bind_eq_ok.mp hread
      obtain ⟨htimely, hrows, hsame, hmanifest⟩ := readRow_timely h.timely hrow
      have hlength : opening.journal.lastSequence = opening.journal.rows.length := rfl
      -- the row that was read takes its names from the list
      have hnext : Reading text dir names ⟨(opening.names.erase
          (.raw (opening.journal.rows.length + 1))).erase
            (.commit (opening.journal.rows.length + 1)), next⟩ := by
        refine ⟨⟨?_, ?_, ?_, ?_⟩, htimely, ?_⟩
        · rw [hmanifest]
          exact h.held.manifest
        · intro i row hi
          rw [hrows, getElem?_concat] at hi
          split_ifs at hi with hlast
          · obtain rfl := Option.some.inj hi
            rw [hlast]
            exact readRaw_eq_ok hraw
          · exact h.held.raw i row hi
        · intro i row hi
          rw [hrows, getElem?_concat] at hi
          split_ifs at hi with hlast
          · obtain rfl := Option.some.inj hi
            rw [hlast]
            exact readCommit_eq_ok hcommit
          · exact h.held.commit i row hi
        · rw [hsame]
          exact h.held.barrier
        · intro name hname
          rw [hrows, hsame, List.length_append, List.length_singleton]
          rcases h.read name hname with hunread | ⟨i, hlt, hi⟩ | hbarrier
          · by_cases hisRaw : name = .raw (opening.journal.rows.length + 1)
            · exact .inr (.inl ⟨_, Nat.lt_succ_self _, .inl hisRaw⟩)
            · by_cases hisCommit : name = .commit (opening.journal.rows.length + 1)
              · exact .inr (.inl ⟨_, Nat.lt_succ_self _, .inr hisCommit⟩)
              · refine .inl ?_
                rw [List.mem_erase_of_ne hisCommit, List.mem_erase_of_ne hisRaw]
                exact hunread
          · exact .inr (.inl ⟨i, by omega, hi⟩)
          · exact .inr (.inr hbarrier)
      obtain ⟨hreading, hnone, hkept⟩ := ih hnext (hsame.trans hbarriers) hread
      exact ⟨hreading, hnone, hkept.trans hmanifest⟩

theorem Reading.readBarriers {fuel : ℕ} {opening opening' : Opening}
    (h : Reading text dir names opening)
    (hread : RiIngressJournal.readBarriers text dir fuel opening = .ok opening') :
    Reading text dir names opening' ∧ opening'.journal.manifest = opening.journal.manifest := by
  induction fuel generalizing opening with
  | zero =>
    obtain rfl := Except.ok.inj hread
    exact ⟨h, rfl⟩
  | succ fuel ih =>
    unfold RiIngressJournal.readBarriers at hread
    dsimp only at hread
    split_ifs at hread with hstop
    rotate_left
    · obtain rfl := Except.ok.inj hread
      exact ⟨h, rfl⟩
    · obtain ⟨saved, hsaved, hread⟩ := bind_eq_ok.mp hread
      obtain ⟨_, hvalid, hread⟩ := bind_eq_ok.mp hread
      obtain ⟨-, -, ⟨-, hthrough⟩, -, -, hlater, -⟩ := validateBarrier_eq_ok.mp hvalid
      have hnext : Reading text dir names
          ⟨opening.names.erase (.barrier (opening.journal.barriers.length + 1)),
            { opening.journal with
              clockFloor := max opening.journal.clockFloor saved.barrier.attestedAtUtc
              barriers := opening.journal.barriers ++ [saved] }⟩ → _ := fun hnext => ih hnext hread
      refine hnext ⟨⟨h.held.manifest, h.held.raw, h.held.commit, ?_⟩, ?_, ?_⟩
      · intro i saved' hi
        have hplace : (opening.journal.barriers ++ [saved])[i]? = some saved' := hi
        rw [getElem?_concat] at hplace
        split_ifs at hplace with hlast
        · obtain rfl := Option.some.inj hplace
          rw [hlast]
          exact readBarrier_eq_ok hsaved
        · exact h.held.barrier i saved' hplace
      · refine h.timely.withSaved saved rfl rfl hthrough ?_ (le_max_left _ _) (le_max_right _ _)
        -- a later row was received after the first one past the barrier
        intro i row hi hle
        obtain ⟨hlt, hrow⟩ := List.getElem?_eq_some_iff.mp hi
        have hfirst := List.getElem?_eq_getElem (hle.trans_lt hlt)
        have hattested := hlater _ hfirst
        rcases hle.lt_or_eq with hless | heq
        · have hordered := List.pairwise_iff_getElem.mp h.timely.ordered _ _ (hle.trans_lt hlt) hlt hless
          have hdurable := h.timely.received_le _ (List.getElem_mem (hle.trans_lt hlt))
          rw [hrow] at hordered
          exact hattested.trans (hdurable.trans hordered)
        · refine hlater row ?_
          rw [heq]
          exact hi
      · intro name hname
        show name ∈ opening.names.erase _ ∨ _ ∨ ∃ i < (opening.journal.barriers ++ [saved]).length, _
        rw [List.length_append, List.length_singleton]
        rcases h.read name hname with hunread | hrow | ⟨i, hlt, hi⟩
        · by_cases hisBarrier : name = .barrier (opening.journal.barriers.length + 1)
          · exact .inr (.inr ⟨_, Nat.lt_succ_self _, hisBarrier⟩)
          · refine .inl ?_
            rw [List.mem_erase_of_ne hisBarrier]
            exact hunread
        · exact .inr (.inl hrow)
        · exact .inr (.inr ⟨i, by omega, hi⟩)

variable {expected : IngressIdentity}

/-- What is opened is in the directory, with all records of it. -/
theorem load_kept (h : load text dir expected = .ok journal) :
    Kept text journal dir ∧ journal.manifest.identity = expected ∧
      ∀ name ∈ dir.keys, name = .lock ∨ name = .manifest ∨
        (∃ i < journal.rows.length, name = .raw (i + 1) ∨ name = .commit (i + 1)) ∨
          ∃ i < journal.barriers.length, name = .barrier (i + 1) := by
  obtain ⟨_, -, h⟩ := bind_eq_ok.mp h
  obtain ⟨_, -, h⟩ := bind_eq_ok.mp h
  obtain ⟨manifest, hmanifest, h⟩ := bind_eq_ok.mp h
  obtain ⟨hidentity, h⟩ := ensure_bind_eq_ok.mp h
  obtain ⟨_, -, h⟩ := bind_eq_ok.mp h
  obtain ⟨rows, hrows, h⟩ := bind_eq_ok.mp h
  obtain ⟨opening, hbarriers, h⟩ := bind_eq_ok.mp h
  obtain ⟨hempty, hreturn⟩ := ensure_bind_eq_ok.mp h
  obtain rfl := Except.ok.inj hreturn
  simp only [Bool.and_eq_true, decide_eq_true_eq] at hidentity
  -- the manifest is read, and nothing else so far
  have hstart : Reading text dir ((dir.keys.erase .lock).erase .manifest)
      ⟨(dir.keys.erase .lock).erase .manifest, ⟨manifest, [], ∅, [],
        Directory.total text.fileSize dir, manifest.createdAtUtc, false⟩⟩ := by
    refine ⟨.of_empty (readManifest_eq_ok hmanifest) rfl rfl, .of_empty rfl rfl, ?_⟩
    exact fun _ hname => .inl hname
  obtain ⟨hreading, -, hkept⟩ := hstart.readRows rfl hrows
  obtain ⟨hread, hkept'⟩ := hreading.readBarriers hbarriers
  refine ⟨⟨hread.held, hread.timely⟩, ?_, ?_⟩
  · rw [hkept', hkept]
    exact hidentity.2
  · intro name hname
    by_cases hlock : name = .lock
    · exact .inl hlock
    · by_cases hisManifest : name = .manifest
      · exact .inr (.inl hisManifest)
      · have hunread : name ∈ (dir.keys.erase .lock).erase .manifest := by
          rw [List.mem_erase_of_ne hisManifest, List.mem_erase_of_ne hlock]
          exact hname
        -- no name is left, so each was read
        rcases hread.read name hunread with hleft | hrest
        · rw [List.isEmpty_iff.mp hempty] at hleft
          exact absurd hleft List.not_mem_nil
        · exact .inr (.inr hrest)

/-- What is opened goes on from what the directory is known to hold. -/
theorem Held.extends_load (h : Held text journal dir)
    (hload : load text dir expected = .ok journal') : journal.Extends journal' := by
  obtain ⟨hkept, -, hnames⟩ := load_kept hload
  have hmanifest : journal'.manifest = journal.manifest := by
    have hsame := hkept.held.manifest.symm.trans h.manifest
    exact congrArg Checked.payload (FileContent.manifest.inj (Option.some.inj hsame))
  refine ⟨hmanifest, ?_, ?_⟩
  · refine List.prefix_iff_getElem?.mpr ?_
    intro i hi
    have hrow := List.getElem?_eq_getElem hi
    have hraw := h.raw i _ hrow
    -- the file of the row is there, so it is among the rows of the other journal
    have hlt : i < journal'.rows.length := by
      have hmem : FileName.raw (i + 1) ∈ dir.keys :=
        AList.mem_keys.mp (AList.lookup_isSome.mp (by rw [hraw]; rfl))
      rcases hnames _ hmem with heq | heq | ⟨n, hlt, heq | heq⟩ | ⟨n, -, heq⟩
      · exact (nomatch heq)
      · exact (nomatch heq)
      · obtain rfl := Nat.succ.inj (FileName.raw.inj heq)
        exact hlt
      all_goals exact (nomatch heq)
    have hrow' := List.getElem?_eq_getElem hlt
    have hsameRaw := (hkept.held.raw i _ hrow').symm.trans hraw
    have hsameCommit := (hkept.held.commit i _ hrow').symm.trans (h.commit i _ hrow)
    have hraw' := congrArg Checked.payload (FileContent.raw.inj (Option.some.inj hsameRaw))
    have hcommit' := congrArg Checked.payload (FileContent.commit.inj (Option.some.inj hsameCommit))
    rw [hrow']
    refine congrArg some ?_
    generalize journal'.rows[i] = row' at hraw' hcommit'
    generalize journal.rows[i] = row at hraw' hcommit'
    obtain ⟨raw, commit⟩ := row
    obtain ⟨raw', commit'⟩ := row'
    obtain rfl : raw' = raw := hraw'
    obtain rfl : commit' = commit := hcommit'
    rfl
  · refine List.prefix_iff_getElem?.mpr ?_
    intro i hi
    have hsaved := List.getElem?_eq_getElem hi
    have hfile := h.barrier i _ hsaved
    -- and so is that of the barrier
    have hlt : i < journal'.barriers.length := by
      have hmem : FileName.barrier (i + 1) ∈ dir.keys :=
        AList.mem_keys.mp (AList.lookup_isSome.mp (by rw [hfile]; rfl))
      rcases hnames _ hmem with heq | heq | ⟨n, -, heq | heq⟩ | ⟨n, hlt, heq⟩
      · exact (nomatch heq)
      · exact (nomatch heq)
      · exact (nomatch heq)
      · exact (nomatch heq)
      · obtain rfl := Nat.succ.inj (FileName.barrier.inj heq)
        exact hlt
    have hsaved' := List.getElem?_eq_getElem hlt
    have hsame := (hkept.held.barrier i _ hsaved').symm.trans hfile
    have hpayload := congrArg Checked.payload (FileContent.barrier.inj (Option.some.inj hsame))
    dsimp only at hpayload
    rw [hsaved', hpayload]

/-- `open` goes on from what the directory is known to hold, at a clock that has not gone back. -/
theorem Held.openWithClock {reading : ℤ} (h : Held text journal dir)
    (hopen : RiIngressJournal.openWithClock text dir expected reading = .ok journal') :
    Kept text journal' dir ∧ journal.Extends journal' ∧ journal'.manifest.identity = expected := by
  obtain ⟨loaded, hload, hopen⟩ := bind_eq_ok.mp hopen
  obtain ⟨_, hnow, hreturn⟩ := bind_eq_ok.mp hopen
  obtain rfl := Except.ok.inj hreturn
  obtain ⟨hkept, hidentity, -⟩ := load_kept hload
  have hextends := h.extends_load hload
  exact ⟨⟨hkept.held.of_same rfl rfl rfl, hkept.timely.of_same rfl rfl (now_eq_ok.mp hnow).2.2⟩,
    ⟨hextends.manifest, hextends.rows, hextends.barriers⟩, hidentity⟩

end Open

end AlorRs.RiContext
