import AlorRs.StrategyRuntime.RiContext.Store

/-!
# Correctness of the store of frozen contexts

* `ingest_cases`, `freeze_cases`: all that a call can do to the store.
* `buildFrozen_eq`: a frozen context is a function of the inputs that it uses.
* `Valid`: what `restore` checks holds of every store, whatever was done to it (`Valid.ingest`,
  `Valid.freeze`).

A frozen context can be built again at any later time since a new input has a number past every
barrier that there is (`buildFrozen_record`).
-/

namespace AlorRs.RiContext

open Outcome RiContextStore

variable {H : Hashes} {store store' : RiContextStore} {input : ContextInput}

/-! ### What a call can do -/

namespace RiContextStore

def withClock (store : RiContextStore) (now : ℤ) : RiContextStore :=
  ⟨{ store.state with lastProcessedAtUtc := some now }⟩

def withFrozen (store : RiContextStore) (date : NaiveDate) (now : ℤ) (snapshot : FrozenContext) :
    RiContextStore :=
  ⟨{ store.state with
    frozen := store.state.frozen.insert date snapshot
    lastProcessedAtUtc := some now }⟩

end RiContextStore

theorem localTime?_isSome {epoch : ℤ} :
    (localTime? epoch).isSome = true ↔ ∃ dt, localTime epoch = .ok dt := by
  unfold localTime?
  cases localTime epoch with
  | error e => exact ⟨fun h => (nomatch h), fun ⟨_, h⟩ => (nomatch h)⟩
  | ok dt => exact ⟨fun _ => ⟨dt, rfl⟩, fun _ => rfl⟩

variable {processed : ℤ}

theorem checkClock_eq_ok :
    store.checkClock processed = .ok () ↔ (localTime? processed).isSome = true ∧
        store.state.lastProcessedAtUtc.all (· ≤ processed) = true := by
  unfold checkClock localTime?
  cases hlocal : localTime processed with
  | error e =>
    constructor
    · intro h
      cases h
    · intro h
      cases h.1
  | ok dt =>
    show ensure _ _ = .ok () ↔ _
    unfold ensure
    split_ifs with hle
    · exact ⟨fun _ => ⟨rfl, hle⟩, fun _ => rfl⟩
    · exact ⟨fun h => (nomatch h), fun h => absurd h.2 hle⟩

variable {route : ContextRoute}

/-- An input that is taken in moves the clock, when it was there already, or is recorded. -/
theorem ingest_cases (h : ingest H store input processed = .ok (store', route)) :
    store.checkClock processed = .ok () ∧
      ((∃ old, store.state.journal[input.sequence - 1]? = some old ∧
          old.inputSha256 = H.input input ∧ store' = store.withClock processed ∧
            route = .duplicateQuote) ∨
        ∃ reason, input.sequence = store.lastSequence + 1 ∧ store.lastSequence < journalLimit ∧
          store.state.identity.validateInput input processed = .ok reason ∧
            route = store.route input reason ∧
              store' = store.record H input processed (store.route input reason)) := by
  obtain ⟨_, hclock, hrest⟩ := bind_eq_ok.mp h
  refine ⟨hclock, ?_⟩
  obtain ⟨-, hrest⟩ := ensure_bind_eq_ok.mp hrest
  cases hold : store.state.journal[input.sequence - 1]? with
  | some old =>
    rw [hold] at hrest
    obtain ⟨hsha, hreturn⟩ := ensure_bind_eq_ok.mp hrest
    obtain ⟨rfl, rfl⟩ := Prod.mk.inj (Except.ok.inj hreturn)
    exact .inl ⟨old, rfl, of_decide_eq_true hsha, rfl, rfl⟩
  | none =>
    rw [hold] at hrest
    obtain ⟨hnext, hrest⟩ := ensure_bind_eq_ok.mp hrest
    obtain ⟨hlimit, hrest⟩ := ensure_bind_eq_ok.mp hrest
    obtain ⟨reason, hreason, hreturn⟩ := bind_eq_ok.mp hrest
    obtain ⟨rfl, rfl⟩ := Prod.mk.inj (Except.ok.inj hreturn)
    exact .inr ⟨reason, of_decide_eq_true hnext, of_decide_eq_true hlimit, hreason, rfl, rfl⟩

variable {date : NaiveDate} {barrier : ReceiptBarrier} {now : ℤ}

/-- A freeze leaves the store as it is, when the session is frozen, or adds a context to it. -/
theorem freeze_cases (h : freeze H store date now barrier = .ok store') :
    store' = store ∨ (store.checkClock now = .ok () ∧ store.state.frozen.get? date = none ∧
        store.state.frozen.length < maxFrozenSessions ∧
          store.state.frozen.keys.getLast?.all (· < date) = true ∧
          barrier.lastSequence = store.lastSequence ∧
            ∃ snapshot, store.buildFrozen H date now barrier = .ok snapshot ∧
              store' = store.withFrozen date now snapshot) := by
  obtain ⟨_, hclock, hrest⟩ := bind_eq_ok.mp h
  split_ifs at hrest with hfrozen
  · exact .inl (Except.ok.inj hrest).symm
  · obtain ⟨hlimit, hrest⟩ := ensure_bind_eq_ok.mp hrest
    obtain ⟨hlast, hrest⟩ := ensure_bind_eq_ok.mp hrest
    obtain ⟨hcover, hrest⟩ := ensure_bind_eq_ok.mp hrest
    obtain ⟨snapshot, hsnapshot, hreturn⟩ := bind_eq_ok.mp hrest
    refine .inr ⟨hclock, by simpa using hfrozen, of_decide_eq_true hlimit, hlast,
      of_decide_eq_true hcover, snapshot, hsnapshot, (Except.ok.inj hreturn).symm⟩

/-! ### What validation leaves -/

/-- An input that validation has nothing against once it is durable. -/
structure ContextIdentity.Accepts (identity : ContextIdentity) (input : ContextInput)
    (dt : NaiveDateTime) (received durable next : ℤ) : Prop where
  symbol : input.bar.symbol = identity.symbol
  dated : localTime? input.bar.closeTimeUtc = some dt
  model : identity.isModelTime dt = true
  ohlcv : isValidOhlcv input.bar = true
  receivedAt : input.receivedAtUtc = some received
  durableAt : input.durableAtUtc = some durable
  clocks : isValidReceipt received durable durable = true
  closed : input.bar.closeTimeUtc + 600 ≤ received
  nextCutoff : identity.nextCutoff dt.date = .ok next
  before : durable < next
  origin : originReason identity.policy input.bar.origin dt = none

theorem isValidReceipt_iff {received durable : ℤ} :
    isValidReceipt received durable processed = true ↔
      isValidReceipt received durable durable = true ∧ durable ≤ processed := by
  unfold isValidReceipt
  simp only [Bool.and_eq_true, decide_eq_true_eq]
  exact ⟨fun h => ⟨⟨h.1, le_rfl⟩, h.2⟩, fun h => ⟨h.1.1, h.2⟩⟩

variable {identity : ContextIdentity}

theorem validateInput_eq_none :
    identity.validateInput input processed = .ok none ↔ ∃ dt received durable next,
        identity.Accepts input dt received durable next ∧ durable ≤ processed := by
  constructor
  · intro h
    unfold ContextIdentity.validateInput at h
    split at h
    · exact (nomatch Except.ok.inj h)
    rename_i hsymbol
    split at h
    · exact (nomatch Except.ok.inj h)
    rename_i dt hdt
    split at h
    · exact (nomatch Except.ok.inj h)
    rename_i hmodel
    split at h
    · exact (nomatch Except.ok.inj h)
    rename_i hohlcv
    split at h
    · exact (nomatch Except.ok.inj h)
    · exact (nomatch Except.ok.inj h)
    rename_i received durable hreceived hdurable
    split at h
    · exact (nomatch Except.ok.inj h)
    rename_i hclocks
    split at h
    · exact (nomatch Except.ok.inj h)
    rename_i hclosed
    obtain ⟨next, hnext, hreturn⟩ := bind_eq_ok.mp h
    have hreason := Except.ok.inj hreturn
    split_ifs at hreason with hbefore
    have hvalid := isValidReceipt_iff.mp (by simpa using hclocks)
    exact ⟨dt, received, durable, next,
      ⟨not_not.mp hsymbol, hdt, by simpa using hmodel, by simpa using hohlcv, hreceived,
        hdurable, hvalid.1, not_lt.mp hclosed, hnext, not_le.mp hbefore, hreason⟩, hvalid.2⟩
  · rintro ⟨dt, received, durable, next, h, hprocessed⟩
    unfold ContextIdentity.validateInput
    rw [if_neg (not_not.mpr h.symbol), h.dated]
    dsimp only
    rw [h.model, h.ohlcv, h.receivedAt, h.durableAt]
    dsimp only
    rw [isValidReceipt_iff.mpr ⟨h.clocks, hprocessed⟩, if_neg (by decide), if_neg (by decide),
      if_neg (by decide), if_neg (not_lt.mpr h.closed), h.nextCutoff]
    show Except.ok _ = _
    rw [if_neg (not_le.mpr h.before), h.origin]

/-! ### What a frozen context is made of -/

def ContextInput.day (input : ContextInput) : NaiveDate :=
  ((localTime? input.bar.closeTimeUtc).map (·.date)).getD 0

def frozenOf (H : Hashes) (identity : ContextIdentity) (date : NaiveDate) (now : ℤ)
    (barrier : ReceiptBarrier) (inputs : List ContextInput) : FrozenContext :=
  let days := (sessions (inputs.map fun input => (input.day, input))).entries
  let found := anchors H identity days
  { identitySha256 := H.identity identity
    sessionDate := date
    cutoffUtc := identity.cutoff date
    frozenAtUtc := now
    barrier := barrier
    previous := found.getLast?
    previous2 := found.dropLast.getLast?
    skippedIncomplete := skipped identity days }

def RiContextStore.usedInputs (store : RiContextStore) (date : NaiveDate) (last : ℕ) :
    List ContextInput :=
  store.state.canonical.values.filter fun input =>
    isUsed date (store.state.identity.cutoff date) last (input.day, input)

def RiContextStore.Dated (store : RiContextStore) : Prop :=
  ∀ input ∈ store.state.canonical.values, (localTime? input.bar.closeTimeUtc).isSome = true

theorem withDate_eq (h : (localTime? input.bar.closeTimeUtc).isSome = true) :
    withDate input = .ok (input.day, input) := by
  obtain ⟨dt, hdt⟩ := localTime?_isSome.mp h
  unfold withDate ContextInput.day localTime?
  rw [hdt]
  rfl

theorem mapM_withDate (h : store.Dated) :
    store.state.canonical.values.mapM withDate =
      .ok (store.state.canonical.values.map fun input => (input.day, input)) :=
  mapM_of_ok fun input hinput => withDate_eq (h input hinput)

theorem buildFrozen_eq (h : store.Dated) (date : NaiveDate) (now : ℤ) (barrier : ReceiptBarrier) :
    store.buildFrozen H date now barrier = (store.checkBarrier H date now barrier).bind fun _ =>
        .ok (frozenOf H store.state.identity date now barrier
          (store.usedInputs date barrier.lastSequence)) := by
  unfold buildFrozen frozenOf usedInputs
  rw [mapM_withDate h]
  show (store.checkBarrier H date now barrier).bind _ = _
  congr 1
  funext _
  show Except.ok _ = _
  rw [List.filter_map]
  rfl

/-! ### What a new input leaves as it was -/

/-- A store with all that an earlier one has, where what is new has a higher number. -/
structure RiContextStore.Extends (store store' : RiContextStore) : Prop where
  identity : store'.state.identity = store.state.identity
  journal : store.state.journal <+: store'.state.journal
  inputs : ∀ p : ContextInput → Bool, (∀ input, store.lastSequence < input.sequence →
    p input = false) → store'.state.canonical.values.filter p = store.state.canonical.values.filter p

variable {snapshot : FrozenContext}

namespace RiContextStore.Extends

theorem refl : store.Extends store := ⟨rfl, List.prefix_rfl, fun _ _ => rfl⟩

theorem lastSequence_le (h : store.Extends store') : store.lastSequence ≤ store'.lastSequence :=
  h.journal.length_le

theorem trans {store'' : RiContextStore} (h : store.Extends store') (h' : store'.Extends store'') :
    store.Extends store'' where
  identity := h'.identity.trans h.identity
  journal := h.journal.trans h'.journal
  inputs p hp := by
    have hle := h.lastSequence_le
    rw [h'.inputs p fun input hlt => hp input (hle.trans_lt hlt), h.inputs p hp]

theorem withClock : store.Extends (store.withClock now) :=
  ⟨rfl, List.prefix_rfl, fun _ _ => rfl⟩

theorem withFrozen : store.Extends (store.withFrozen date now snapshot) :=
  ⟨rfl, List.prefix_rfl, fun _ _ => rfl⟩

variable (h : store.Extends store')
include h

theorem journal_getElem? {i : ℕ} (hi : i < store.lastSequence) :
    store'.state.journal[i]? = store.state.journal[i]? := by
  obtain ⟨rest, hrest⟩ := h.journal
  rw [← hrest, List.getElem?_append_left hi]

theorem usedInputs {last : ℕ} (hlast : last ≤ store.lastSequence) :
    store'.usedInputs date last = store.usedInputs date last := by
  unfold RiContextStore.usedInputs
  rw [h.identity]
  refine h.inputs _ ?_
  intro input hlt
  have hnot : ¬input.sequence ≤ last := by omega
  simp [isUsed, hnot]

theorem ingressHashThrough {last : ℕ} (hlast : last ≤ store.lastSequence) :
    store'.ingressHashThrough H last = store.ingressHashThrough H last := by
  have hle := h.lastSequence_le
  obtain ⟨rest, hrest⟩ := h.journal
  unfold RiContextStore.ingressHashThrough
  rw [← hrest, List.take_append_of_le_length hlast, decide_eq_true hlast,
    decide_eq_true (hlast.trans hle)]

theorem checkBarrier (hlast : barrier.lastSequence ≤ store.lastSequence) :
    store'.checkBarrier H date now barrier = store.checkBarrier H date now barrier := by
  unfold RiContextStore.checkBarrier
  rw [h.identity, h.ingressHashThrough hlast]
  by_cases hzero : barrier.lastSequence = 0
  · simp only [hzero, decide_true, Bool.true_or]
  · rw [h.journal_getElem? (by omega)]

end RiContextStore.Extends

theorem buildFrozen_extends (h : store.Extends store') (hdated : store.Dated)
    (hdated' : store'.Dated) (hlast : barrier.lastSequence ≤ store.lastSequence) :
    store'.buildFrozen H date now barrier = store.buildFrozen H date now barrier := by
  rw [buildFrozen_eq hdated, buildFrozen_eq hdated', h.checkBarrier hlast, h.usedInputs hlast,
    h.identity]

/-! ### The checks of a checkpoint -/

variable {entry : ℤ × ContextInput}

theorem checkCanonical_eq_ok :
    checkCanonical H store entry = .ok () ↔
      ∃ record, store.state.journal[entry.2.sequence - 1]? = some record ∧
        entry.1 = entry.2.bar.closeTimeUtc ∧ 0 < entry.2.sequence ∧
          record.route = .contextOnly ∧ H.input entry.2 = record.inputSha256 ∧
            store.state.identity.validateInput entry.2 record.processedAtUtc = .ok none := by
  unfold checkCanonical
  constructor
  · intro h
    obtain ⟨hkey, hrest⟩ := ensure_bind_eq_ok.mp h
    simp only [Bool.and_eq_true, decide_eq_true_eq] at hkey
    cases hrecord : store.state.journal[entry.2.sequence - 1]? with
    | none =>
      rw [hrecord] at hrest
      exact (nomatch hrest)
    | some record =>
      rw [hrecord] at hrest
      obtain ⟨hroute, hrest⟩ := ensure_bind_eq_ok.mp hrest
      simp only [Bool.and_eq_true, decide_eq_true_eq] at hroute
      obtain ⟨reason, hreason, hnone⟩ := bind_eq_ok.mp hrest
      unfold ensure at hnone
      split_ifs at hnone with hisNone
      rw [Option.isNone_iff_eq_none.mp hisNone] at hreason
      exact ⟨record, rfl, hkey.1.1, hkey.1.2, hroute.1, hroute.2, hreason⟩
  · rintro ⟨record, hrecord, hkey, hpos, hroute, hsha, hvalid⟩
    have hlt := (List.getElem?_eq_some_iff.mp hrecord).1
    have hle : entry.2.sequence ≤ store.lastSequence := by
      show entry.2.sequence ≤ store.state.journal.length
      omega
    rw [ensure_bind_eq_ok, hrecord]
    refine ⟨by simp [hkey, hpos, hle], ?_⟩
    show ensure _ _ >>= _ = _
    rw [ensure_bind_eq_ok]
    refine ⟨by simp [hroute, hsha], ?_⟩
    rw [hvalid]
    rfl

theorem checkFrozen_eq_ok {entry : NaiveDate × FrozenContext} :
    checkFrozen H store entry = .ok () ↔ entry.1 = entry.2.sessionDate ∧
        store.state.lastProcessedAtUtc.any (entry.2.frozenAtUtc ≤ ·) = true ∧
          store.buildFrozen H entry.1 entry.2.frozenAtUtc entry.2.barrier = .ok entry.2 := by
  unfold checkFrozen
  constructor
  · intro h
    obtain ⟨hdate, hrest⟩ := ensure_bind_eq_ok.mp h
    simp only [Bool.and_eq_true, decide_eq_true_eq] at hdate
    obtain ⟨rebuilt, hbuild, hsame⟩ := bind_eq_ok.mp hrest
    unfold ensure at hsame
    split_ifs at hsame with heq
    rw [of_decide_eq_true heq] at hbuild
    exact ⟨hdate.1, hdate.2, hbuild⟩
  · rintro ⟨hdate, hclock, hbuild⟩
    rw [ensure_bind_eq_ok, hbuild]
    refine ⟨by simp [hdate, hclock], ?_⟩
    show ensure _ _ = _
    unfold ensure
    rw [if_pos (decide_eq_true rfl)]

/-- A barrier that is taken is of the journal that there is. -/
theorem lastSequence_le_of_checkBarrier (h : store.checkBarrier H date now barrier = .ok ()) :
    barrier.lastSequence ≤ store.lastSequence := by
  obtain ⟨-, h⟩ := ensure_bind_eq_ok.mp h
  obtain ⟨-, h⟩ := ensure_bind_eq_ok.mp h
  obtain ⟨-, h⟩ := ensure_bind_eq_ok.mp h
  obtain ⟨-, h⟩ := ensure_bind_eq_ok.mp h
  obtain ⟨digest, hdigest, -⟩ := bind_eq_ok.mp h
  exact of_decide_eq_true (ensure_bind_eq_ok.mp hdigest).1

/-- A built context is the function of its inputs, under a barrier that was checked. -/
theorem eq_frozenOf (hdated : store.Dated) (h : store.buildFrozen H date now barrier = .ok snapshot) :
    store.checkBarrier H date now barrier = .ok () ∧
      snapshot = frozenOf H store.state.identity date now barrier
        (store.usedInputs date barrier.lastSequence) := by
  rw [buildFrozen_eq hdated] at h
  obtain ⟨_, hcheck, hreturn⟩ := bind_eq_ok.mp h
  exact ⟨hcheck, (Except.ok.inj hreturn).symm⟩

/-! ### The invariant -/

/-- What `restore` checks of a store. -/
structure RiContextStore.Valid (H : Hashes) (store : RiContextStore) : Prop where
  identity : store.state.identity.validate = .ok ()
  version : store.state.version = checkpointVersion
  journal_le : store.state.journal.length ≤ journalLimit
  frozen_le : store.state.frozen.length ≤ maxFrozenSessions
  ordered : isOrdered store.state.lastProcessedAtUtc 0 none store.state.journal = true
  canonical : ∀ entry ∈ store.state.canonical.entries, checkCanonical H store entry = .ok ()
  count : store.state.journal.countP (·.route = .contextOnly) = store.state.canonical.length
  frozen : ∀ entry ∈ store.state.frozen.entries, checkFrozen H store entry = .ok ()

theorem dated_of_checkCanonical
    (h : ∀ entry ∈ store.state.canonical.entries, checkCanonical H store entry = .ok ()) :
    store.Dated := by
  intro input hinput
  obtain ⟨key, hkey⟩ := OrderedMap.mem_values.mp hinput
  obtain ⟨record, -, -, -, -, -, hvalid⟩ :=
    checkCanonical_eq_ok.mp (h _ (OrderedMap.get?_eq_some.mp hkey))
  obtain ⟨dt, received, durable, next, haccepts, -⟩ := validateInput_eq_none.mp hvalid
  show (localTime? input.bar.closeTimeUtc).isSome = true
  rw [haccepts.dated]
  rfl

namespace RiContextStore.Valid

theorem dated (h : store.Valid H) : store.Dated := dated_of_checkCanonical h.canonical

theorem new (h : RiContextStore.new identity = .ok store) : store.Valid H := by
  obtain ⟨_, hidentity, hreturn⟩ := bind_eq_ok.mp h
  obtain rfl := (Except.ok.inj hreturn).symm
  exact ⟨hidentity, rfl, Nat.zero_le _, Nat.zero_le _, rfl, fun _ hmem => (nomatch hmem), rfl,
    fun _ hmem => (nomatch hmem)⟩

end RiContextStore.Valid

section Ordered

variable {clock last : Option ℤ} {now : ℤ} {i : ℕ} {journal : List ReceiptRecord}

theorem isOrdered_of_le (h : isOrdered clock i last journal = true)
    (hclock : clock.all (· ≤ now) = true) : isOrdered (some now) i last journal = true := by
  induction journal generalizing i last with
  | nil => rfl
  | cons record journal ih =>
    unfold isOrdered at h ⊢
    simp only [Bool.and_eq_true, decide_eq_true_eq] at h ⊢
    obtain ⟨⟨hhead, hprocessed⟩, hrest⟩ := h
    refine ⟨⟨hhead, ?_⟩, ih hrest⟩
    cases clock with
    | none => exact (nomatch hprocessed)
    | some p =>
      have hle : record.processedAtUtc ≤ p := by simpa using hprocessed
      have hnow : p ≤ now := by simpa using hclock
      simpa using hle.trans hnow

/-- A record that is processed at the latest moment comes last. -/
theorem isOrdered_concat (record : ReceiptRecord) (h : isOrdered clock i last journal = true)
    (hclock : clock.all (· ≤ record.processedAtUtc) = true)
    (hlast : last.all (· ≤ record.processedAtUtc) = true)
    (hsequence : record.sequence = i + journal.length + 1) :
    isOrdered (some record.processedAtUtc) i last (journal ++ [record]) = true := by
  induction journal generalizing i last with
  | nil =>
    have hnumber : record.sequence = i + 1 := by simpa using hsequence
    simp [isOrdered, hnumber, hlast]
  | cons head journal ih =>
    have hhead := isOrdered_of_le h hclock
    unfold isOrdered at h hhead
    simp only [Bool.and_eq_true] at h hhead
    have hbefore : head.processedAtUtc ≤ record.processedAtUtc := by simpa using hhead.1.2
    rw [List.cons_append]
    unfold isOrdered
    simp only [Bool.and_eq_true]
    refine ⟨hhead.1, ih h.2 (by simpa using hbefore) ?_⟩
    rw [hsequence, List.length_cons]
    omega

end Ordered

namespace RiContextStore.Valid

variable {now : ℤ}

theorem checkCanonical_extends (h : checkCanonical H store entry = .ok ())
    (hextends : store.Extends store') : checkCanonical H store' entry = .ok () := by
  obtain ⟨record, hrecord, hrest⟩ := checkCanonical_eq_ok.mp h
  have hlt := (List.getElem?_eq_some_iff.mp hrecord).1
  refine checkCanonical_eq_ok.mpr ⟨record, ?_, ?_⟩
  · rw [hextends.journal_getElem? hlt, hrecord]
  · rw [hextends.identity]
    exact hrest

theorem checkFrozen_extends {entry : NaiveDate × FrozenContext}
    (h : checkFrozen H store entry = .ok ()) (hextends : store.Extends store')
    (hdated : store.Dated) (hdated' : store'.Dated)
    (hclock : store.state.lastProcessedAtUtc.all (· ≤ now) = true)
    (hclock' : store'.state.lastProcessedAtUtc = some now) :
    checkFrozen H store' entry = .ok () := by
  obtain ⟨hdate, hfrozenAt, hbuild⟩ := checkFrozen_eq_ok.mp h
  have hlast := lastSequence_le_of_checkBarrier (eq_frozenOf hdated hbuild).1
  refine checkFrozen_eq_ok.mpr ⟨hdate, ?_, ?_⟩
  · rw [hclock']
    cases hlastProcessed : store.state.lastProcessedAtUtc with
    | none =>
      rw [hlastProcessed] at hfrozenAt
      exact (nomatch hfrozenAt)
    | some p =>
      rw [hlastProcessed] at hfrozenAt hclock
      have hle : entry.2.frozenAtUtc ≤ p := by simpa using hfrozenAt
      have hnow : p ≤ now := by simpa using hclock
      simpa using hle.trans hnow
  · rw [buildFrozen_extends hextends hdated hdated' hlast, hbuild]

variable (h : store.Valid H)
include h

/-- Every number of a record that was taken over is one of the journal. -/
theorem sequence_le (hinput : input ∈ store.state.canonical.values) :
    0 < input.sequence ∧ input.sequence ≤ store.lastSequence := by
  obtain ⟨key, hkey⟩ := OrderedMap.mem_values.mp hinput
  obtain ⟨record, hrecord, -, hpos, -⟩ :=
    checkCanonical_eq_ok.mp (h.canonical _ (OrderedMap.get?_eq_some.mp hkey))
  have hlt : input.sequence - 1 < store.state.journal.length :=
    (List.getElem?_eq_some_iff.mp hrecord).1
  refine ⟨hpos, ?_⟩
  show input.sequence ≤ store.state.journal.length
  omega

/-- What was taken over has its close time as its key. -/
theorem key_eq {key : ℤ} (hget : store.state.canonical.get? key = some input) :
    key = input.bar.closeTimeUtc := by
  obtain ⟨record, -, heq, -⟩ :=
    checkCanonical_eq_ok.mp (h.canonical _ (OrderedMap.get?_eq_some.mp hget))
  exact heq

theorem get?_canonical (hinput : input ∈ store.state.canonical.values) :
    store.state.canonical.get? input.bar.closeTimeUtc = some input := by
  obtain ⟨key, hkey⟩ := OrderedMap.mem_values.mp hinput
  rw [← h.key_eq hkey]
  exact hkey

/-- What was taken over is in the order of the close times. -/
theorem pairwise_values : store.state.canonical.values.Pairwise fun a b =>
    a.bar.closeTimeUtc < b.bar.closeTimeUtc := by
  unfold OrderedMap.values
  rw [List.pairwise_map]
  refine store.state.canonical.sorted.imp_of_mem ?_
  intro a b ha hb hlt
  rw [← h.key_eq (OrderedMap.get?_eq_some.mpr ha), ← h.key_eq (OrderedMap.get?_eq_some.mpr hb)]
  exact hlt

theorem withClock (hclock : store.checkClock now = .ok ()) : (store.withClock now).Valid H where
  identity := h.identity
  version := h.version
  journal_le := h.journal_le
  frozen_le := h.frozen_le
  ordered := isOrdered_of_le h.ordered (checkClock_eq_ok.mp hclock).2
  canonical entry hentry := checkCanonical_extends (h.canonical entry hentry) .withClock
  count := h.count
  frozen entry hentry := checkFrozen_extends (h.frozen entry hentry) .withClock h.dated h.dated
    (checkClock_eq_ok.mp hclock).2 rfl

theorem withFrozen (hclock : store.checkClock now = .ok ())
    (hdate : store.state.frozen.get? date = none)
    (hlimit : store.state.frozen.length < maxFrozenSessions)
    (hbuild : store.buildFrozen H date now barrier = .ok snapshot) :
    (store.withFrozen date now snapshot).Valid H where
  identity := h.identity
  version := h.version
  journal_le := h.journal_le
  frozen_le := (OrderedMap.length_insert hdate).trans_le hlimit
  ordered := isOrdered_of_le h.ordered (checkClock_eq_ok.mp hclock).2
  canonical entry hentry := checkCanonical_extends (h.canonical entry hentry) .withFrozen
  count := h.count
  frozen := by
    have hle := (checkClock_eq_ok.mp hclock).2
    intro entry hentry
    rcases OrderedMap.mem_of_mem_insertEntries hentry with rfl | hold
    · obtain ⟨hcheck, hsnapshot⟩ := eq_frozenOf h.dated hbuild
      have hlast := lastSequence_le_of_checkBarrier hcheck
      rw [hsnapshot] at hbuild
      refine checkFrozen_eq_ok.mpr ⟨?_, ?_, ?_⟩
      · rw [hsnapshot]
        rfl
      · rw [hsnapshot]
        exact decide_eq_true le_rfl
      · rw [hsnapshot, ← hbuild]
        exact buildFrozen_extends .withFrozen h.dated h.dated hlast
    · exact checkFrozen_extends (h.frozen entry hold) .withFrozen h.dated h.dated hle rfl

end RiContextStore.Valid

/-! ### A new input -/

theorem route_eq_contextOnly {reason : Option QuarantineReason} :
    store.route input reason = .contextOnly ↔
      reason = none ∧ store.state.canonical.get? input.bar.closeTimeUtc = none ∧
        store.isBehindBarrier input = false := by
  unfold route
  cases reason with
  | some reason => simp
  | none =>
    cases hold : store.state.canonical.get? input.bar.closeTimeUtc with
    | some old =>
      dsimp only
      split_ifs <;> simp
    | none =>
      split_ifs with hbehind <;> simp [hbehind]

section Record

variable {processed : ℤ} {reason : Option QuarantineReason} {route : ContextRoute}

theorem canonical_record_of_ne (h : route ≠ .contextOnly) :
    (store.record H input processed route).state.canonical = store.state.canonical := by
  unfold record ContextRoute.contextUpdateAllowed
  rw [if_neg (by simpa using h)]

theorem canonical_record :
    (store.record H input processed .contextOnly).state.canonical =
      store.state.canonical.insert input.bar.closeTimeUtc input := rfl

/-- What is taken over with a new input: what was, and the input when it is the first that may be. -/
theorem mem_canonical_record (hroute : route = store.route input reason) {other : ContextInput} :
    other ∈ (store.record H input processed route).state.canonical.values ↔
      (other = input ∧ route = .contextOnly) ∨ other ∈ store.state.canonical.values := by
  by_cases hcontext : route = .contextOnly
  · have hnew := (route_eq_contextOnly.mp (hroute.symm.trans hcontext)).2.1
    rw [hcontext, canonical_record, OrderedMap.mem_values_insert hnew]
    simp
  · rw [canonical_record_of_ne hcontext]
    simp [hcontext]

theorem extends_record (hnext : input.sequence = store.lastSequence + 1)
    (hroute : route = store.route input reason) :
    store.Extends (store.record H input processed route) where
  identity := rfl
  journal := List.prefix_append _ _
  inputs p hp := by
    by_cases hcontext : route = .contextOnly
    · have hnew := (route_eq_contextOnly.mp (hroute.symm.trans hcontext)).2.1
      rw [hcontext, canonical_record]
      exact OrderedMap.filter_values_insert hnew (hp input (by omega))
    · rw [canonical_record_of_ne hcontext]

theorem RiContextStore.Valid.record (h : store.Valid H) (hclock : store.checkClock processed = .ok ())
    (hnext : input.sequence = store.lastSequence + 1) (hlimit : store.lastSequence < journalLimit)
    (hreason : store.state.identity.validateInput input processed = .ok reason)
    (hroute : route = store.route input reason) :
    (store.record H input processed route).Valid H := by
  have hextends : store.Extends (store.record H input processed route) :=
    extends_record hnext hroute
  have hle := (checkClock_eq_ok.mp hclock).2
  -- the new record is where the number of the input says
  have hrecorded : (store.record H input processed route).state.journal[input.sequence - 1]? =
      some ⟨input.sequence, H.input input, processed, route⟩ := by
    show (store.state.journal ++ _)[input.sequence - 1]? = _
    have hindex : input.sequence - 1 = store.state.journal.length := by
      show input.sequence - 1 = store.lastSequence
      omega
    rw [hindex, List.getElem?_concat_length]
  have hcanonical : ∀ entry ∈ (store.record H input processed route).state.canonical.entries,
      checkCanonical H (store.record H input processed route) entry = .ok () := by
    intro entry hentry
    by_cases hcontext : route = .contextOnly
    · have haccepted := route_eq_contextOnly.mp (hroute.symm.trans hcontext)
      have hmem : entry ∈ (store.state.canonical.insert input.bar.closeTimeUtc input).entries := by
        rw [hcontext, canonical_record] at hentry
        exact hentry
      rcases OrderedMap.mem_of_mem_insertEntries hmem with rfl | hold
      · refine checkCanonical_eq_ok.mpr ⟨_, hrecorded, rfl, ?_, hcontext, rfl, ?_⟩
        · show 0 < input.sequence
          omega
        · rw [haccepted.1] at hreason
          exact hreason
      · exact checkCanonical_extends (h.canonical entry hold) hextends
    · rw [canonical_record_of_ne hcontext] at hentry
      exact checkCanonical_extends (h.canonical entry hentry) hextends
  have hcount : (store.record H input processed route).state.journal.countP
      (·.route = .contextOnly) = (store.record H input processed route).state.canonical.length := by
    show (store.state.journal ++ _).countP _ = _
    rw [List.countP_append, h.count, List.countP_singleton]
    by_cases hcontext : route = .contextOnly
    · have hnew := (route_eq_contextOnly.mp (hroute.symm.trans hcontext)).2.1
      rw [if_pos (by simpa using hcontext), hcontext, canonical_record,
        OrderedMap.length_insert hnew]
    · rw [if_neg (by simpa using hcontext), canonical_record_of_ne hcontext, Nat.add_zero]
  refine ⟨h.identity, h.version, ?_, h.frozen_le, ?_, hcanonical, hcount, ?_⟩
  · show (store.state.journal ++ _).length ≤ _
    rw [List.length_append]
    exact hlimit
  · have hsequence : input.sequence = 0 + store.state.journal.length + 1 := by
      show input.sequence = 0 + store.lastSequence + 1
      omega
    exact isOrdered_concat ⟨input.sequence, H.input input, processed, route⟩ h.ordered hle rfl
      hsequence
  · intro entry hentry
    exact checkFrozen_extends (h.frozen entry hentry) hextends h.dated
      (dated_of_checkCanonical hcanonical) hle rfl

end Record

/-! ### The invariant of the calls -/

/-- Taking in an input keeps the store valid and loses nothing of it. -/
theorem RiContextStore.Valid.ingest (h : store.Valid H)
    (hingest : RiContextStore.ingest H store input processed = .ok (store', route)) :
    store'.Valid H ∧ store.Extends store' ∧ store'.state.frozen = store.state.frozen := by
  obtain ⟨hclock, ⟨old, -, -, rfl, -⟩ | ⟨reason, hnext, hlimit, hreason, -, rfl⟩⟩ :=
    ingest_cases hingest
  · exact ⟨h.withClock hclock, .withClock, rfl⟩
  · exact ⟨h.record hclock hnext hlimit hreason rfl, extends_record hnext rfl, rfl⟩

/-- A freeze keeps the store valid, loses nothing of it and leaves what is frozen as it is. -/
theorem RiContextStore.Valid.freeze (h : store.Valid H)
    (hfreeze : RiContextStore.freeze H store date now barrier = .ok store') :
    store'.Valid H ∧ store.Extends store' ∧ ∀ other snapshot, store.frozen other = some snapshot →
        store'.frozen other = some snapshot := by
  rcases freeze_cases hfreeze with rfl | ⟨hclock, hdate, hlimit, -, -, snapshot, hbuild, rfl⟩
  · exact ⟨h, .refl, fun _ _ hold => hold⟩
  · refine ⟨h.withFrozen hclock hdate hlimit hbuild, .withFrozen, ?_⟩
    intro other old hold
    have hne : other ≠ date := by
      rintro rfl
      exact absurd (hdate.symm.trans hold) (by simp)
    show (store.state.frozen.insert date snapshot).get? other = some old
    rw [OrderedMap.get?_insert, if_neg hne]
    exact hold

end AlorRs.RiContext
