import AlorRs.StrategyRuntime.Equiv.RiContext.Collector
import AlorRs.StrategyRuntime.Equiv.RiContext.Frozen

/-!
# Checkpoints of the context store

What `restore` checks is the invariant of the store (`checkState_eq_ok`), so it takes back every
checkpoint that was written (`restore_checkpointBytes`), and every store that it accepts has what the
stores have that were made by calls (`Valid.consistent`).
-/

namespace AlorRs.RiContext

open Outcome RiContextStore

variable {H : Hashes} {store : RiContextStore} {now : ℤ}

/-! ### What restoring checks -/

/-- The checks of `restore` are the invariant of the store, and that of the clock. -/
theorem checkState_eq_ok (hidentity : store.state.identity.validate = .ok ())
    (hversion : store.state.version = checkpointVersion) :
    store.checkState H now = .ok () ↔ store.Valid H ∧ store.checkClock now = .ok () := by
  unfold checkState
  constructor
  -- the checks are made in this order, and each gives a part
  · intro h
    obtain ⟨hsizes, h⟩ := ensure_bind_eq_ok.mp h
    simp only [Bool.and_eq_true, decide_eq_true_eq] at hsizes
    obtain ⟨_, hclock, h⟩ := bind_eq_ok.mp h
    obtain ⟨hordered, h⟩ := ensure_bind_eq_ok.mp h
    obtain ⟨_, hcanonical, h⟩ := bind_eq_ok.mp h
    obtain ⟨hcount, h⟩ := ensure_bind_eq_ok.mp h
    obtain ⟨_, hfrozen, -⟩ := bind_eq_ok.mp h
    refine ⟨⟨hidentity, hversion, hsizes.1.1, hsizes.1.2, hordered, ?_, of_decide_eq_true hcount, ?_⟩,
      hclock⟩
    · intro entry hentry
      obtain ⟨_, hentry⟩ := exists_of_mapM hcanonical entry hentry
      exact hentry
    · intro entry hentry
      obtain ⟨_, hentry⟩ := exists_of_mapM hfrozen entry hentry
      exact hentry
  -- back again the invariant passes every check
  · rintro ⟨h, hclock⟩
    have hlength : store.state.canonical.length ≤ store.state.journal.length :=
      h.count.symm.trans_le List.countP_le_length
    rw [ensure_bind_eq_ok]
    refine ⟨by simp [h.journal_le, h.frozen_le, hlength], ?_⟩
    rw [hclock]
    show ensure _ _ >>= _ = _
    rw [ensure_bind_eq_ok]
    refine ⟨h.ordered, ?_⟩
    rw [mapM_of_ok h.canonical]
    show ensure _ _ >>= _ = _
    rw [ensure_bind_eq_ok]
    refine ⟨decide_eq_true h.count, ?_⟩
    rw [mapM_of_ok h.frozen]
    rfl

def RoundTrips (text : EnvelopeText) (saved : CheckpointEnvelope) : Prop :=
  text.fromSlice (text.toVec saved) = some saved

variable {text : EnvelopeText}

/-- A checkpoint of a valid store is taken back, when the clock has not gone back. -/
theorem restore_checkpointBytes {bytes : List UInt8} (h : store.Valid H)
    (hbytes : checkpointBytes H text store = .ok bytes)
    (hround : RoundTrips text ⟨store.state, H.checkpoint store.state⟩)
    (hclock : store.checkClock now = .ok ()) :
    restore H text store.state.identity bytes now = .ok (store.withClock now) := by
  obtain ⟨hsize, hreturn⟩ := ensure_bind_eq_ok.mp hbytes
  obtain rfl := Except.ok.inj hreturn
  unfold restore
  rw [h.identity]
  show ensure _ _ >>= _ = _
  rw [ensure_bind_eq_ok]
  refine ⟨hsize, ?_⟩
  rw [hround]
  show ensure _ _ >>= _ = _
  rw [ensure_bind_eq_ok]
  refine ⟨by simp [h.version], ?_⟩
  rw [ensure_bind_eq_ok]
  refine ⟨by simp, ?_⟩
  show store.checkState H now >>= _ = _
  rw [(checkState_eq_ok h.identity h.version).mpr ⟨h, hclock⟩]
  rfl

theorem valid_of_restore {identity : ContextIdentity} {bytes : List UInt8}
    (h : restore H text identity bytes now = .ok store) : store.Valid H := by
  obtain ⟨_, hidentity, h⟩ := bind_eq_ok.mp h
  obtain ⟨-, h⟩ := ensure_bind_eq_ok.mp h
  cases hsaved : text.fromSlice bytes with
  | none =>
    rw [hsaved] at h
    exact (nomatch h)
  | some saved =>
    rw [hsaved] at h
    obtain ⟨hexpected, h⟩ := ensure_bind_eq_ok.mp h
    simp only [Bool.and_eq_true, decide_eq_true_eq] at hexpected
    obtain ⟨-, h⟩ := ensure_bind_eq_ok.mp h
    obtain ⟨_, hcheck, hreturn⟩ := bind_eq_ok.mp h
    obtain rfl := (Except.ok.inj hreturn).symm
    have hvalidate : (⟨saved.payload⟩ : RiContextStore).state.identity.validate = .ok () := by
      show saved.payload.identity.validate = .ok ()
      rw [hexpected.2]
      exact hidentity
    obtain ⟨hvalid, hclock⟩ := (checkState_eq_ok hvalidate hexpected.1).mp hcheck
    exact hvalid.withClock hclock

/-! ### What an accepted store has -/

def NoCollision (H : Hashes) (store : RiContextStore) : Prop :=
  ∀ a ∈ store.state.canonical.values, ∀ b ∈ store.state.canonical.values,
    H.input a = H.input b → a = b

/-- What the checks of a store come to: its records are numbered one after the other, each that
updated the context has its one input, under its close time, and what is frozen can be built again. -/
structure Consistent (H : Hashes) (store : RiContextStore) : Prop where
  contiguous : ∀ i (record : ReceiptRecord), store.state.journal[i]? = some record →
    record.sequence = i + 1
  keys : ∀ key input, store.state.canonical.get? key = some input → key = input.bar.closeTimeUtc
  inputs : ∀ record ∈ store.state.journal, record.route = .contextOnly →
    ∃ input ∈ store.state.canonical.values, input.sequence = record.sequence ∧
      ∀ other ∈ store.state.canonical.values, other.sequence = record.sequence → other = input
  records : ∀ input ∈ store.state.canonical.values, ∃ record ∈ store.state.journal,
    record.sequence = input.sequence ∧ record.route = .contextOnly ∧
      record.inputSha256 = H.input input
  frozen : ∀ date snapshot, store.frozen date = some snapshot → snapshot.sessionDate = date ∧
    store.buildFrozen H date snapshot.frozenAtUtc snapshot.barrier = .ok snapshot

variable {record : ReceiptRecord}

theorem isOrdered_sequence {clock last : Option ℤ} {first i : ℕ} {journal : List ReceiptRecord}
    (h : isOrdered clock first last journal = true) (hrecord : journal[i]? = some record) :
    record.sequence = first + i + 1 := by
  induction journal generalizing first last i with
  | nil => exact (nomatch hrecord)
  | cons head journal ih =>
    unfold isOrdered at h
    simp only [Bool.and_eq_true, decide_eq_true_eq] at h
    obtain ⟨⟨⟨hsequence, -⟩, -⟩, hrest⟩ := h
    cases i with
    | zero =>
      obtain rfl := Option.some.inj hrecord
      exact hsequence
    | succ i =>
      have hnext := ih hrest hrecord
      omega

namespace RiContextStore.Valid

variable (h : store.Valid H)
include h

theorem sequence_eq {i : ℕ} (hrecord : store.state.journal[i]? = some record) :
    record.sequence = i + 1 := by
  rw [isOrdered_sequence h.ordered hrecord, Nat.zero_add]

theorem record_of_mem {input : ContextInput} (hinput : input ∈ store.state.canonical.values) :
    ∃ record ∈ store.state.journal, record.sequence = input.sequence ∧
      record.route = .contextOnly ∧ record.inputSha256 = H.input input := by
  have hget := OrderedMap.get?_eq_some.mp (h.get?_canonical hinput)
  obtain ⟨record, hrecord, -, hpos, hroute, hsha, -⟩ := checkCanonical_eq_ok.mp (h.canonical _ hget)
  refine ⟨record, List.mem_of_getElem? hrecord, ?_, hroute, hsha.symm⟩
  rw [h.sequence_eq hrecord]
  exact Nat.sub_add_cancel hpos

/-- Inputs of one number have the same digest, so they are the same. -/
theorem eq_of_sequence (hcollision : NoCollision H store) {a b : ContextInput}
    (ha : a ∈ store.state.canonical.values) (hb : b ∈ store.state.canonical.values)
    (hsequence : a.sequence = b.sequence) : a = b := by
  obtain ⟨record, hrecord, -, -, -, hsha, -⟩ := checkCanonical_eq_ok.mp
    (h.canonical _ (OrderedMap.get?_eq_some.mp (h.get?_canonical ha)))
  obtain ⟨record', hrecord', -, -, -, hsha', -⟩ := checkCanonical_eq_ok.mp
    (h.canonical _ (OrderedMap.get?_eq_some.mp (h.get?_canonical hb)))
  have hplace : store.state.journal[b.sequence - 1]? = some record := hsequence ▸ hrecord
  obtain rfl := Option.some.inj (hplace.symm.trans hrecord')
  exact hcollision a ha b hb (hsha.trans hsha'.symm)

/-- There are as many inputs as records that updated the context, so each of these has one. -/
theorem input_of_record (hcollision : NoCollision H store) (hrecord : record ∈ store.state.journal)
    (hroute : record.route = .contextOnly) :
    ∃ input ∈ store.state.canonical.values, input.sequence = record.sequence := by
  have hinputs : (store.state.canonical.values.map ContextInput.sequence).Nodup := by
    refine List.Nodup.map_on ?_ ?_
    · intro a ha b hb hsequence
      exact h.eq_of_sequence hcollision ha hb hsequence
    · refine h.pairwise_values.imp ?_
      rintro a _ hlt rfl
      exact lt_irrefl _ hlt
  have hsubset : store.state.canonical.values.map ContextInput.sequence ⊆
      (store.state.journal.filter (·.route = .contextOnly)).map ReceiptRecord.sequence := by
    intro sequence hsequence
    obtain ⟨input, hinput, rfl⟩ := List.mem_map.mp hsequence
    obtain ⟨record, hmem, heq, hroute, -⟩ := h.record_of_mem hinput
    exact List.mem_map.mpr ⟨record, List.mem_filter.mpr ⟨hmem, decide_eq_true hroute⟩, heq⟩
  have hlength : ((store.state.journal.filter (·.route = .contextOnly)).map
      ReceiptRecord.sequence).length ≤
        (store.state.canonical.values.map ContextInput.sequence).length := by
    rw [List.length_map, List.length_map, ← List.countP_eq_length_filter, h.count]
    exact (List.length_map _).ge
  have hperm := (hinputs.subperm hsubset).perm_of_length_le hlength
  have hmem : record.sequence ∈ store.state.canonical.values.map ContextInput.sequence :=
    hperm.mem_iff.mpr (List.mem_map.mpr
      ⟨record, List.mem_filter.mpr ⟨hrecord, decide_eq_true hroute⟩, rfl⟩)
  exact List.mem_map.mp hmem

theorem consistent (hcollision : NoCollision H store) : Consistent H store where
  contiguous _ _ hrecord := h.sequence_eq hrecord
  keys _ _ hget := h.key_eq hget
  inputs record hrecord hroute := by
    obtain ⟨input, hinput, hsequence⟩ := h.input_of_record hcollision hrecord hroute
    refine ⟨input, hinput, hsequence, ?_⟩
    intro other hother hsame
    exact h.eq_of_sequence hcollision hother hinput (hsame.trans hsequence.symm)
  records _ hinput := h.record_of_mem hinput
  frozen date snapshot hfrozen := by
    obtain ⟨hdate, -, hbuild⟩ :=
      checkFrozen_eq_ok.mp (h.frozen _ (OrderedMap.get?_eq_some.mp hfrozen))
    exact ⟨hdate.symm, hbuild⟩

end RiContextStore.Valid

/-! ### Stores that can be reached -/

theorem valid_of_replayRows {text : IngressText} {rows : List Row} {store' : RiContextStore}
    (h : store.Valid text.H)
    (hreplay : RiIngressJournal.replayRows text now rows store = .ok store') :
    store'.Valid text.H := by
  induction rows generalizing store with
  | nil =>
    obtain rfl := Except.ok.inj hreplay
    exact h
  | cons row rows ih =>
    obtain ⟨-, hreplay⟩ := ensure_bind_eq_ok.mp hreplay
    obtain ⟨input, -, hreplay⟩ := bind_eq_ok.mp hreplay
    obtain ⟨⟨next, route⟩, hingest, hreplay⟩ := bind_eq_ok.mp hreplay
    exact ih (h.ingest hingest).1 hreplay

inductive Reachable (ingress : IngressText) (text : EnvelopeText) : RiContextStore → Prop
  | new {identity : ContextIdentity} {store : RiContextStore} :
    RiContextStore.new identity = .ok store → Reachable ingress text store
  | ingest {store store' : RiContextStore} {input : ContextInput} {processed : ℤ}
      {route : ContextRoute} : Reachable ingress text store →
    RiContextStore.ingest ingress.H store input processed = .ok (store', route) →
      Reachable ingress text store'
  | freezeAndSaveNew {store store' : RiContextStore} {date : NaiveDate} {now : ℤ}
      {barrier : ReceiptBarrier} {isFree : Bool} {bytes : List UInt8} :
    Reachable ingress text store →
    RiContextStore.freezeAndSaveNew ingress.H text store date now barrier isFree =
      .ok (store', bytes) → Reachable ingress text store'
  | replayThrough {store store' : RiContextStore} {journal : RiIngressJournal} {sequence : ℕ}
      {processed reading : ℤ} : Reachable ingress text store →
    journal.replayThrough ingress store sequence processed reading = .ok store' →
      Reachable ingress text store'
  | restore {store : RiContextStore} {identity : ContextIdentity} {bytes : List UInt8} {now : ℤ} :
    RiContextStore.restore ingress.H text identity bytes now = .ok store →
      Reachable ingress text store

theorem Reachable.valid {ingress : IngressText} (h : Reachable ingress text store) :
    store.Valid ingress.H := by
  induction h with
  | new hnew => exact .new hnew
  | ingest _ hingest ih => exact (ih.ingest hingest).1
  | freezeAndSaveNew _ hfreeze ih =>
    obtain ⟨candidate, hcandidate, hsave⟩ := bind_eq_ok.mp hfreeze
    obtain ⟨-, hsave⟩ := ensure_bind_eq_ok.mp hsave
    obtain ⟨bytes, -, hreturn⟩ := bind_eq_ok.mp hsave
    obtain ⟨rfl, -⟩ := Prod.mk.inj (Except.ok.inj hreturn)
    exact (ih.freeze hcandidate).1
  | replayThrough _ hreplay ih =>
    obtain ⟨_, -, hreplay⟩ := bind_eq_ok.mp hreplay
    obtain ⟨-, hreplay⟩ := ensure_bind_eq_ok.mp hreplay
    obtain ⟨-, hreplay⟩ := ensure_bind_eq_ok.mp hreplay
    obtain ⟨-, hreplay⟩ := ensure_bind_eq_ok.mp hreplay
    obtain ⟨consumed, -, hreplay⟩ := bind_eq_ok.mp hreplay
    obtain ⟨expected, -, hreplay⟩ := bind_eq_ok.mp hreplay
    obtain ⟨-, hreplay⟩ := ensure_bind_eq_ok.mp hreplay
    obtain ⟨_, -, hreplay⟩ := bind_eq_ok.mp hreplay
    exact valid_of_replayRows ih hreplay
  | restore hrestore => exact valid_of_restore hrestore

namespace Sample

def envelope : CheckpointEnvelope :=
  ⟨start.store.state, IngressSample.text.H.checkpoint start.store.state⟩

def envelopeText : EnvelopeText where
  toVec _ := [123, 125]
  fromSlice bytes := if bytes = [123, 125] then some envelope else none

theorem reachable : Reachable IngressSample.text envelopeText start.store := by
  refine .new (?_ : RiContextStore.new identity = .ok start.store)
  unfold RiContextStore.new
  rw [show identity.validate = .ok () by decide +kernel]
  rfl

end Sample

end AlorRs.RiContext
