import AlorRs.StrategyRuntime.Equiv.RiContext.Sessions

/-!
# A frozen context has no look-ahead

A run is any sequence of inputs and freezes.  What is frozen stays as it is, and so do the inputs of
its anchors (`Sound.frozen_run`).  It is a function of the accepted inputs before its cutoff
(`Sound.usedInputs`), which two runs have in common when they took in the same inputs, each when it
was durable and none behind a barrier (`usedInputs_eq`).

The route of an input looks only at the inputs before it: what is accepted for a close time is the
first input that validation has nothing against (`Sound.first`).
-/

namespace AlorRs.RiContext

open Ascending Outcome RiContextStore

/-! ### Runs -/

inductive StoreCall where
  | ingest (input : ContextInput) (processed : ℤ)
  | freeze (date : NaiveDate) (now : ℤ) (barrier : ReceiptBarrier)

/-- A store, and the inputs that it has journaled, in their order. -/
structure Ingested where
  store : RiContextStore
  inputs : List ContextInput

namespace Ingested

def new (identity : ContextIdentity) : Except String Ingested :=
  (RiContextStore.new identity).map fun store => ⟨store, []⟩

def call (H : Hashes) (run : Ingested) : StoreCall → Ingested
  | .ingest input processed =>
    match RiContextStore.ingest H run.store input processed with
    | .ok (store, _) =>
      { store := store
        inputs :=
          if run.store.lastSequence < store.lastSequence then run.inputs ++ [input]
          else run.inputs }
    | .error _ => run
  | .freeze date now barrier =>
    match RiContextStore.freeze H run.store date now barrier with
    | .ok store => { run with store := store }
    | .error _ => run

def run (H : Hashes) (start : Ingested) (calls : List StoreCall) : Ingested :=
  calls.foldl (call H) start

/-- An ingested input of an earlier date that was durable before the cutoff of a date, with a number
up to a last one. -/
structure Before (run : Ingested) (identity : ContextIdentity) (date : NaiveDate) (last : ℕ)
    (input : ContextInput) : Prop where
  ingested : input ∈ run.inputs
  day : input.day < date
  sequence : input.sequence ≤ last
  durable : ∃ durable, input.durableAtUtc = some durable ∧ durable < identity.cutoff date

def Accepted (run : Ingested) (input : ContextInput) : Prop :=
  ∃ record, run.store.state.journal[input.sequence - 1]? = some record ∧ record.route = .contextOnly

def InTime (run : Ingested) (input : ContextInput) : Prop :=
  ∃ record, run.store.state.journal[input.sequence - 1]? = some record ∧
    ∀ durable ∈ input.durableAtUtc, durable ≤ record.processedAtUtc

def InFront (run : Ingested) (input : ContextInput) : Prop :=
  ∃ record, run.store.state.journal[input.sequence - 1]? = some record ∧
    record.route ≠ .quarantined .behindFrozenBarrier

/-- Of two runs that took in the same inputs before a date, each of them `P`, what is frozen of the
date has the same anchors. -/
def SameAnchors (P : Ingested → ContextInput → Prop) : Prop :=
  ∀ (H : Hashes) (identity : ContextIdentity) (start : Ingested),
    Ingested.new identity = .ok start →
      ∀ (calls calls' : List StoreCall) (date : NaiveDate) (snapshot snapshot' : FrozenContext),
        (start.run H calls).store.frozen date = some snapshot →
          (start.run H calls').store.frozen date = some snapshot' → (∀ input,
              (start.run H calls).Before identity date snapshot.barrier.lastSequence input ↔
                (start.run H calls').Before identity date snapshot'.barrier.lastSequence input) →
              (∀ input, (start.run H calls).Before identity date snapshot.barrier.lastSequence input →
                P (start.run H calls) input ∧ P (start.run H calls') input) →
                snapshot'.previous = snapshot.previous ∧ snapshot'.previous2 = snapshot.previous2

/-! ### What holds in a run -/

/-- What the store holds, in terms of the inputs that it has journaled. -/
structure Sound (H : Hashes) (run : Ingested) : Prop where
  valid : run.store.Valid H
  length : run.inputs.length = run.store.lastSequence
  sequence : ∀ i input, run.inputs[i]? = some input → input.sequence = i + 1
  taken : ∀ input ∈ run.store.state.canonical.values, input ∈ run.inputs
  accepted : ∀ input ∈ run.inputs, run.Accepted input → input ∈ run.store.state.canonical.values
  /-- The first input for its close time that validation has nothing against is taken over. -/
  first : ∀ input ∈ run.inputs, ∀ record, run.store.state.journal[input.sequence - 1]? = some record →
    run.store.state.identity.validateInput input record.processedAtUtc = .ok none →
      record.route ≠ .quarantined .behindFrozenBarrier → ∃ old ∈ run.store.state.canonical.values,
          old.bar.closeTimeUtc = input.bar.closeTimeUtc ∧ old.sequence ≤ input.sequence

namespace Sound

variable {H : Hashes} {identity : ContextIdentity} {start run : Ingested} {input : ContextInput}

theorem new (h : Ingested.new identity = .ok start) : start.Sound H := by
  obtain ⟨store, hstore, rfl⟩ := map_eq_ok.mp h
  have hvalid : store.Valid H := RiContextStore.Valid.new hstore
  obtain ⟨_, -, hreturn⟩ := bind_eq_ok.mp hstore
  obtain rfl := (Except.ok.inj hreturn).symm
  refine ⟨hvalid, rfl, ?_, ?_, ?_, ?_⟩
  · intro i input hinput
    exact (nomatch hinput)
  all_goals
    intro input hinput
    exact absurd hinput List.not_mem_nil

/-- An input that was journaled has the number of its place. -/
theorem mem_inputs (h : run.Sound H) (hinput : input ∈ run.inputs) :
    input.sequence - 1 < run.store.state.journal.length ∧
      run.inputs[input.sequence - 1]? = some input := by
  obtain ⟨i, hi⟩ := List.mem_iff_getElem?.mp hinput
  have hsequence := h.sequence i input hi
  have hindex : input.sequence - 1 = i := by omega
  have hlt := (List.getElem?_eq_some_iff.mp hi).1
  have hlength : run.inputs.length = run.store.state.journal.length := h.length
  rw [hindex]
  exact ⟨by omega, hi⟩

/-- Two journaled inputs of one number are the same. -/
theorem eq_of_sequence {other : ContextInput} (h : run.Sound H) (hinput : input ∈ run.inputs)
    (hother : other ∈ run.inputs) (hsequence : input.sequence = other.sequence) :
    input = other := by
  have hplace := (h.mem_inputs hinput).2
  rw [hsequence, (h.mem_inputs hother).2] at hplace
  exact (Option.some.inj hplace).symm

/-- A new input is the last one, and the first of its close time or covered by an earlier one. -/
theorem record {processed : ℤ} {reason : Option QuarantineReason} (h : run.Sound H)
    (hclock : run.store.checkClock processed = .ok ())
    (hnext : input.sequence = run.store.lastSequence + 1)
    (hlimit : run.store.lastSequence < journalLimit)
    (hreason : run.store.state.identity.validateInput input processed = .ok reason) :
    Sound H ⟨run.store.record H input processed (run.store.route input reason),
      run.inputs ++ [input]⟩ := by
  have hextends : run.store.Extends (run.store.record H input processed
      (run.store.route input reason)) := extends_record hnext rfl
  have hlength := h.length
  -- the record of an earlier input is what it was, and that of the new one is the last
  have hcases : ∀ other ∈ run.inputs ++ [input],
      (other ∈ run.inputs ∧ (run.store.record H input processed
        (run.store.route input reason)).state.journal[other.sequence - 1]? =
          run.store.state.journal[other.sequence - 1]?) ∨
      (other = input ∧ (run.store.record H input processed
        (run.store.route input reason)).state.journal[other.sequence - 1]? =
          some ⟨input.sequence, H.input input, processed, run.store.route input reason⟩) := by
    intro other hother
    rcases List.mem_append.mp hother with hold | hnew
    · exact .inl ⟨hold, hextends.journal_getElem? (h.mem_inputs hold).1⟩
    · obtain rfl := List.mem_singleton.mp hnew
      refine .inr ⟨rfl, ?_⟩
      show (run.store.state.journal ++ _)[other.sequence - 1]? = _
      have hindex : other.sequence - 1 = run.store.state.journal.length := by
        show other.sequence - 1 = run.store.lastSequence
        omega
      rw [hindex, List.getElem?_concat_length]
  refine ⟨h.valid.record hclock hnext hlimit hreason rfl, ?_, ?_, ?_, ?_, ?_⟩
  · show (run.inputs ++ [input]).length = (run.store.state.journal ++ _).length
    rw [List.length_append, List.length_append, hlength]
    rfl
  -- the sequences of the inputs are their places
  · intro i other hi
    by_cases hlt : i < run.inputs.length
    · rw [List.getElem?_append_left hlt] at hi
      exact h.sequence i other hi
    · have hbound := (List.getElem?_eq_some_iff.mp hi).1
      rw [List.length_append, List.length_singleton] at hbound
      obtain rfl : i = run.inputs.length := by omega
      rw [List.getElem?_concat_length] at hi
      obtain rfl := Option.some.inj hi
      omega
  · intro other hother
    rcases (mem_canonical_record rfl).mp hother with ⟨rfl, -⟩ | hold
    · exact List.mem_append_right _ List.mem_cons_self
    · exact List.mem_append_left _ (h.taken other hold)
  -- the new input is accepted if its route says so
  · rintro other hother ⟨record, hrecord, hroute⟩
    refine (mem_canonical_record rfl).mpr ?_
    rcases hcases other hother with ⟨hold, hplace⟩ | ⟨rfl, hplace⟩
    · exact .inr (h.accepted other hold ⟨record, hplace ▸ hrecord, hroute⟩)
    · obtain rfl := Option.some.inj (hplace.symm.trans hrecord)
      exact .inl ⟨rfl, hroute⟩
  -- an input that is in time is covered by an earlier one, or is the first
  · intro other hother record hrecord hvalid hbehind
    rcases hcases other hother with ⟨hold, hplace⟩ | ⟨rfl, hplace⟩
    · obtain ⟨old, hmem, hclose, hle⟩ :=
        h.first other hold record (hplace ▸ hrecord) hvalid hbehind
      exact ⟨old, (mem_canonical_record rfl).mpr (.inr hmem), hclose, hle⟩
    · obtain rfl := Option.some.inj (hplace.symm.trans hrecord)
      obtain rfl : reason = none := Except.ok.inj (hreason.symm.trans hvalid)
      cases hget : run.store.state.canonical.get? other.bar.closeTimeUtc with
      | some old =>
        have hmem : old ∈ run.store.state.canonical.values :=
          OrderedMap.mem_values.mpr ⟨_, hget⟩
        have hle := (h.valid.sequence_le hmem).2
        exact ⟨old, (mem_canonical_record rfl).mpr (.inr hmem), (h.valid.key_eq hget).symm, by omega⟩
      | none =>
        have hcontext : run.store.route other none = .contextOnly := by
          refine route_eq_contextOnly.mpr ⟨rfl, hget, ?_⟩
          -- behind the barrier it would have been quarantined
          by_contra hnot
          refine hbehind ?_
          unfold route
          rw [hget]
          rw [if_pos (by simpa using hnot)]
        exact ⟨other, (mem_canonical_record rfl).mpr (.inl ⟨rfl, hcontext⟩), rfl, le_rfl⟩

theorem of_same {store : RiContextStore} (h : run.Sound H) (hvalid : store.Valid H)
    (hidentity : store.state.identity = run.store.state.identity)
    (hjournal : store.state.journal = run.store.state.journal)
    (hcanonical : store.state.canonical = run.store.state.canonical) :
    Sound H ⟨store, run.inputs⟩ where
  valid := hvalid
  length := h.length.trans (congrArg List.length hjournal.symm)
  sequence := h.sequence
  taken input hinput := h.taken input (hcanonical ▸ hinput)
  accepted := by
    rintro input hinput ⟨record, hrecord, hroute⟩
    show input ∈ store.state.canonical.values
    rw [hcanonical]
    exact h.accepted input hinput ⟨record, hjournal ▸ hrecord, hroute⟩
  first := by
    intro input hinput record hrecord hreason hbehind
    show ∃ old ∈ store.state.canonical.values, _
    rw [hcanonical]
    exact h.first input hinput record (hjournal ▸ hrecord) (hidentity ▸ hreason) hbehind

theorem call (h : run.Sound H) (c : StoreCall) :
    (run.call H c).Sound H ∧ run.store.Extends (run.call H c).store ∧
      ∀ date snapshot, run.store.frozen date = some snapshot →
        (run.call H c).store.frozen date = some snapshot := by
  cases c with
  | ingest input processed =>
    unfold Ingested.call
    dsimp only
    cases hingest : RiContextStore.ingest H run.store input processed with
    | error e => exact ⟨h, .refl, fun _ _ hold => hold⟩
    | ok next =>
      obtain ⟨store, route⟩ := next
      obtain ⟨hvalid, hextends, hfrozen⟩ := h.valid.ingest hingest
      refine ⟨?_, hextends, ?_⟩
      -- the input was there already, or is recorded
      · obtain ⟨hclock, ⟨old, -, -, rfl, -⟩ | ⟨reason, hnext, hlimit, hreason, -, rfl⟩⟩ :=
          ingest_cases hingest
        · have hsame : ¬run.store.lastSequence < (run.store.withClock processed).lastSequence :=
            lt_irrefl run.store.lastSequence
          dsimp only
          rw [if_neg hsame]
          exact h.of_same hvalid rfl rfl rfl
        -- the journal is longer by the new record
        · have hlonger : run.store.lastSequence < (run.store.record H input processed
              (run.store.route input reason)).lastSequence := by
            show run.store.state.journal.length < (run.store.state.journal ++ _).length
            rw [List.length_append]
            exact Nat.lt_succ_self _
          dsimp only
          rw [if_pos hlonger]
          exact h.record hclock hnext hlimit hreason
      · intro date snapshot hold
        show store.state.frozen.get? date = some snapshot
        rw [hfrozen]
        exact hold
  | freeze date now barrier =>
    unfold Ingested.call
    dsimp only
    cases hfreeze : RiContextStore.freeze H run.store date now barrier with
    | error e => exact ⟨h, .refl, fun _ _ hold => hold⟩
    | ok store =>
      obtain ⟨hvalid, hextends, hkept⟩ := h.valid.freeze hfreeze
      refine ⟨?_, hextends, hkept⟩
      -- freezing takes in nothing
      rcases freeze_cases hfreeze with rfl | ⟨-, -, -, -, -, snapshot, -, rfl⟩
      · exact h
      · exact h.of_same hvalid rfl rfl rfl

theorem run_calls (h : run.Sound H) (calls : List StoreCall) :
    (run.run H calls).Sound H ∧ run.store.Extends (run.run H calls).store ∧
      ∀ date snapshot, run.store.frozen date = some snapshot →
        (run.run H calls).store.frozen date = some snapshot := by
  induction calls generalizing run with
  | nil => exact ⟨h, .refl, fun _ _ hold => hold⟩
  | cons c calls ih =>
    obtain ⟨hsound, hextends, hkept⟩ := h.call c
    obtain ⟨hrun, hrest, hstays⟩ := ih hsound
    exact ⟨hrun, hextends.trans hrest, fun date snapshot hold =>
      hstays date snapshot (hkept date snapshot hold)⟩

/-- Validation has nothing against what was taken over. -/
theorem accepts (h : run.Sound H) (hinput : input ∈ run.store.state.canonical.values) :
    ∃ dt received durable next,
      run.store.state.identity.Accepts input dt received durable next := by
  have hget := OrderedMap.get?_eq_some.mp (h.valid.get?_canonical hinput)
  obtain ⟨record, -, -, -, -, -, hvalid⟩ := checkCanonical_eq_ok.mp (h.valid.canonical _ hget)
  obtain ⟨dt, received, durable, next, haccepts, -⟩ := validateInput_eq_none.mp hvalid
  exact ⟨dt, received, durable, next, haccepts⟩

variable {date : NaiveDate}

/-- The inputs that a freeze uses are the ones before its cutoff that were taken over. -/
theorem mem_usedInputs (h : run.Sound H) {last : ℕ} :
    input ∈ run.store.usedInputs date last ↔ input ∈ run.store.state.canonical.values ∧
        run.Before run.store.state.identity date last input := by
  unfold usedInputs isUsed
  rw [List.mem_filter]
  simp only [Bool.and_eq_true, decide_eq_true_eq, Option.any_eq_true]
  constructor
  · rintro ⟨hmem, ⟨hday, hsequence⟩, hdurable⟩
    exact ⟨hmem, h.taken input hmem, hday, hsequence, hdurable⟩
  · rintro ⟨hmem, hbefore⟩
    exact ⟨hmem, ⟨hbefore.day, hbefore.sequence⟩, hbefore.durable⟩

theorem mem_canonical (h : run.Sound H) :
    input ∈ run.store.state.canonical.values ↔ input ∈ run.inputs ∧ run.Accepted input := by
  constructor
  · intro hmem
    refine ⟨h.taken input hmem, ?_⟩
    have hget := OrderedMap.get?_eq_some.mp (h.valid.get?_canonical hmem)
    obtain ⟨record, hrecord, -, -, hroute, -⟩ := checkCanonical_eq_ok.mp (h.valid.canonical _ hget)
    exact ⟨record, hrecord, hroute⟩
  · rintro ⟨hinput, haccepted⟩
    exact h.accepted input hinput haccepted

/-- They are in the order of their close times. -/
theorem pairwise_usedInputs (h : run.Sound H) (date : NaiveDate) (last : ℕ) :
    (run.store.usedInputs date last).Pairwise fun a b =>
      a.bar.closeTimeUtc < b.bar.closeTimeUtc :=
  h.valid.pairwise_values.filter _

variable {snapshot : FrozenContext}

/-- What is frozen is a function of the inputs that it uses. -/
theorem frozen_eq (h : run.Sound H) (hfrozen : run.store.frozen date = some snapshot) :
    snapshot.barrier.lastSequence ≤ run.store.lastSequence ∧
      run.store.state.identity.regularDate date = true ∧
        snapshot = frozenOf H run.store.state.identity date snapshot.frozenAtUtc snapshot.barrier
          (run.store.usedInputs date snapshot.barrier.lastSequence) := by
  obtain ⟨-, -, hbuild⟩ :=
    checkFrozen_eq_ok.mp (h.valid.frozen _ (OrderedMap.get?_eq_some.mp hfrozen))
  obtain ⟨hcheck, heq⟩ := eq_frozenOf h.valid.dated hbuild
  exact ⟨lastSequence_le_of_checkBarrier hcheck, (ensure_bind_eq_ok.mp hcheck).1, heq⟩

/-- What is frozen stays as it is, and so do the inputs of its anchors. -/
theorem frozen_run (h : run.Sound H) (hfrozen : run.store.frozen date = some snapshot)
    (calls : List StoreCall) :
    (run.run H calls).store.frozen date = some snapshot ∧
      (run.run H calls).store.frozenAnchorInputs date = run.store.frozenAnchorInputs date := by
  obtain ⟨hsound, hextends, hkept⟩ := h.run_calls calls
  have hlater := hkept date snapshot hfrozen
  refine ⟨hlater, ?_⟩
  have hlast := (h.frozen_eq hfrozen).1
  unfold frozenAnchorInputs
  rw [hlater, hfrozen]
  dsimp only
  split
  · rename_i previous2 previous _ _
    rw [mapM_withDate hsound.valid.dated, mapM_withDate h.valid.dated]
    show Except.ok _ = Except.ok _
    rw [List.filter_map, List.filter_map, hextends.inputs]
    intro input hlt
    have hnot : ¬input.sequence ≤ snapshot.barrier.lastSequence := by omega
    simp [hnot]
  · rfl

end Sound

/-! ### Two runs -/

section Cutoffs

variable {identity : ContextIdentity} {day date : NaiveDate}

theorem openingHour_eq (h : identity.validate = .ok ()) (date : NaiveDate) :
    identity.openingHour date = 7 ∨ identity.openingHour date = 9 := by
  obtain ⟨-, h⟩ := ensure_bind_eq_ok.mp h
  obtain ⟨-, h⟩ := ensure_bind_eq_ok.mp h
  obtain ⟨-, h⟩ := ensure_bind_eq_ok.mp h
  unfold ensure at h
  split_ifs at h with hclock
  have hhour : identity.modelOpenHour = 7 ∨ identity.modelOpenHour = 9 := by simpa using hclock
  unfold ContextIdentity.openingHour
  split_ifs
  · exact .inr rfl
  · exact hhour

theorem cutoff_le (h : identity.validate = .ok ()) (hle : day ≤ date) :
    identity.cutoff day ≤ identity.cutoff date := by
  -- the hours of a day move the cutoff by less than a day
  have hbounds : ∀ date : ℤ, date * 86400 + 14400 ≤ identity.cutoff date ∧
      identity.cutoff date ≤ date * 86400 + 21600 := by
    intro date
    show date * 86400 + 14400 ≤ date * 86400 + _ - 10800 ∧
      date * 86400 + _ - 10800 ≤ date * 86400 + 21600
    rcases openingHour_eq h date with hhour | hhour
    · rw [hhour]
      show date * 86400 + 14400 ≤ date * 86400 + 25200 - 10800 ∧
        date * 86400 + 25200 - 10800 ≤ date * 86400 + 21600
      omega
    · rw [hhour]
      show date * 86400 + 14400 ≤ date * 86400 + 32400 - 10800 ∧
        date * 86400 + 32400 - 10800 ≤ date * 86400 + 21600
      omega
  rcases Int.lt_or_eq_of_le hle with hlt | rfl
  · have hday := (hbounds day).2
    have hdate := (hbounds date).1
    omega
  · exact le_rfl

theorem nextRegular_le {days : ℕ} {first next : NaiveDate}
    (h : identity.nextRegular days first = some next) (hle : first ≤ date)
    (hregular : identity.regularDate date = true) : next ≤ date := by
  induction days generalizing first with
  | zero => exact (nomatch h)
  | succ days ih =>
    unfold ContextIdentity.nextRegular at h
    split_ifs at h with hfirst
    · obtain rfl := Option.some.inj h
      exact hle
    · have hne : first ≠ date := by
        rintro rfl
        exact hfirst hregular
      exact ih h (Int.add_one_le_of_lt (lt_of_le_of_ne hle hne))

/-- The cutoff after a day is no later than that of a later regular date. -/
theorem nextCutoff_le (h : identity.validate = .ok ()) {next : ℤ}
    (hnext : identity.nextCutoff day = .ok next) (hlt : day < date)
    (hregular : identity.regularDate date = true) : next ≤ identity.cutoff date := by
  unfold ContextIdentity.nextCutoff at hnext
  split at hnext
  · rename_i first hfirst
    obtain rfl := Except.ok.inj hnext
    exact cutoff_le h (nextRegular_le hfirst (Int.add_one_le_of_lt hlt) hregular)
  · exact (nomatch hnext)

end Cutoffs

section Same

variable {H : Hashes} {run other : Ingested} {identity : ContextIdentity} {date : NaiveDate}
  {last last' : ℕ} {input : ContextInput}

/-- An input that validation has nothing against is taken over in time, or one before it is. -/
theorem Sound.covered (h : run.Sound H) (hinput : input ∈ run.inputs)
    (htime : run.InTime input ∧ run.InFront input)
    (haccepts : ∃ dt received durable next,
      run.store.state.identity.Accepts input dt received durable next) :
    ∃ old ∈ run.store.state.canonical.values,
      old.bar.closeTimeUtc = input.bar.closeTimeUtc ∧ old.sequence ≤ input.sequence := by
  obtain ⟨dt, received, durable, next, haccepts⟩ := haccepts
  obtain ⟨⟨record, hrecord, hdurable⟩, record', hrecord', hbehind⟩ := htime
  obtain rfl := Option.some.inj (hrecord.symm.trans hrecord')
  have hvalid := validateInput_eq_none.mpr
    ⟨dt, received, durable, next, haccepts, hdurable durable haccepts.durableAt⟩
  exact h.first input hinput record hrecord hvalid hbehind

/-- What was taken over of a day before a regular date was durable before its cutoff. -/
theorem Sound.durable_lt (h : run.Sound H) (hinput : input ∈ run.store.state.canonical.values)
    (hday : input.day < date) (hregular : run.store.state.identity.regularDate date = true) :
    ∃ durable, input.durableAtUtc = some durable ∧
      durable < run.store.state.identity.cutoff date := by
  obtain ⟨dt, received, durable, next, haccepts⟩ := h.accepts hinput
  have hdate : input.day = dt.date := by
    unfold ContextInput.day
    rw [haccepts.dated]
    rfl
  have hle := nextCutoff_le h.valid.identity haccepts.nextCutoff (hdate ▸ hday) hregular
  exact ⟨durable, haccepts.durableAt, haccepts.before.trans_le hle⟩

/-- What one store took over of the inputs before a date, the other did as well. -/
theorem Sound.used_of_same (h : run.Sound H) (h' : other.Sound H)
    (hidentity : run.store.state.identity = identity)
    (hidentity' : other.store.state.identity = identity)
    (hregular : identity.regularDate date = true)
    (hsame : ∀ input, run.Before identity date last input ↔ other.Before identity date last' input)
    (htime : ∀ input, run.Before identity date last input →
      (run.InTime input ∧ run.InFront input) ∧ other.InTime input ∧ other.InFront input)
    (hinput : input ∈ run.store.usedInputs date last) :
    input ∈ other.store.usedInputs date last' := by
  obtain ⟨hmem, hbefore⟩ := h.mem_usedInputs.mp hinput
  rw [hidentity] at hbefore
  have hbefore' := (hsame input).mp hbefore
  have haccepts := h.accepts hmem
  rw [hidentity, ← hidentity'] at haccepts
  -- the other store has an input of that close time, not after this one
  obtain ⟨old, hold, hclose, hle⟩ := h'.covered hbefore'.ingested (htime input hbefore).2 haccepts
  -- both are of the same day
  have hday : old.day = input.day := by
    unfold ContextInput.day
    rw [hclose]
  have holdBefore' : other.Before identity date last' old := by
    have hlt : old.day < date := hday ▸ hbefore'.day
    have hdurable := h'.durable_lt hold hlt (hidentity' ▸ hregular)
    rw [hidentity'] at hdurable
    exact ⟨h'.taken old hold, hlt, hle.trans hbefore'.sequence, hdurable⟩
  -- this store has taken over that one or one before it, which is the input
  have holdBefore := (hsame old).mpr holdBefore'
  have hacceptsOld := h'.accepts hold
  rw [hidentity', ← hidentity] at hacceptsOld
  obtain ⟨older, holder, hclose', hle'⟩ :=
    h.covered holdBefore.ingested (htime old holdBefore).1 hacceptsOld
  -- two inputs of one close time are the same
  have hinputOlder : older = input := by
    have hget := h.valid.get?_canonical holder
    rw [hclose', hclose, h.valid.get?_canonical hmem] at hget
    exact (Option.some.inj hget).symm
  have holdInput : old = input := by
    rw [hinputOlder] at hle'
    exact h'.eq_of_sequence holdBefore'.ingested hbefore'.ingested (le_antisymm hle hle')
  rw [holdInput] at hold
  refine h'.mem_usedInputs.mpr ⟨hold, ?_⟩
  rw [hidentity']
  exact hbefore'

/-- Two stores that took in the same inputs before a date, in time, use the same. -/
theorem Sound.usedInputs_eq (h : run.Sound H) (h' : other.Sound H)
    (hidentity : run.store.state.identity = identity)
    (hidentity' : other.store.state.identity = identity)
    (hregular : identity.regularDate date = true)
    (hsame : ∀ input, run.Before identity date last input ↔ other.Before identity date last' input)
    (htime : ∀ input, run.Before identity date last input →
      (run.InTime input ∧ run.InFront input) ∧ other.InTime input ∧ other.InFront input) :
    run.store.usedInputs date last = other.store.usedInputs date last' := by
  refine Ascending.eq_of_mem_iff (h.pairwise_usedInputs date last)
    (h'.pairwise_usedInputs date last') ?_
  intro input
  constructor
  · exact h.used_of_same h' hidentity hidentity' hregular hsame htime
  · exact h'.used_of_same h hidentity' hidentity hregular (fun i => (hsame i).symm)
      fun i hbefore => (htime i ((hsame i).mpr hbefore)).symm

end Same

theorem identity_run {H : Hashes} {identity : ContextIdentity} {start : Ingested}
    (hnew : Ingested.new identity = .ok start) (calls : List StoreCall) :
    (start.run H calls).store.state.identity = identity := by
  have hextends := ((Sound.new (H := H) hnew).run_calls calls).2.1
  obtain ⟨store, hstore, rfl⟩ := map_eq_ok.mp hnew
  obtain ⟨_, -, hreturn⟩ := bind_eq_ok.mp hstore
  obtain rfl := (Except.ok.inj hreturn).symm
  exact hextends.identity

end Ingested

/-! ### Sample runs -/

namespace Sample

def hashes : Hashes where
  identity identity := identity.profileId
  input input := toString input.sequence
  digests digests := toString digests.length
  bars bars := String.intercalate ";" (bars.map fun input => toString input.sequence)
  frozen frozen := toString frozen.sessionDate
  checkpoint state := toString state.journal.length

def identity : ContextIdentity where
  profileId := "shadow"
  symbol := "RIU6"
  numericalConfigSha256 := String.ofList (List.replicate 64 '0')
  modelFeedPolicy := "micro_regular_v1"
  receiptStream := "ingress"
  policy := .runtimeAcceptedOnly
  modelOpenHour := 9
  excludedDates := ∅

def date : NaiveDate := .fromYmd 2026 7 8

/-- The times of the bars of a session that is just complete, from nine o'clock up to 23:40. -/
def closeTime (i : ℕ) : ℤ := identity.cutoff date + 600 * (if i < 40 then i else i + 9)

def input (i : ℕ) : ContextInput where
  sequence := i + 1
  bar := {
    symbol := "RIU6"
    closeTimeUtc := closeTime i
    close := 95
    o := 100
    h := 100 + i
    l := 90
    v := 1
    origin := .live }
  receivedAtUtc := some (closeTime i + 600)
  durableAtUtc := some (closeTime i + 601)

def ingest (i : ℕ) (late : ℤ) : StoreCall := .ingest (input i) (closeTime i + 600 + late)

def freeze (date : NaiveDate) (last : ℕ) : StoreCall :=
  .freeze date (identity.cutoff date) {
    receiptStream := "ingress"
    throughUtc := identity.cutoff date
    lastSequence := last
    ingressSha256 := toString last
    attestedAtUtc := identity.cutoff date }

def timely : List StoreCall := (List.range 80).map (ingest · 1) ++ [freeze (date + 2) 80]

def hasty : List StoreCall :=
  (List.range 80).map (fun i => ingest i (if i = 5 then 0 else 1)) ++ [freeze (date + 2) 80]

def behind : List StoreCall :=
  (List.range 79).map (ingest · 1) ++ [freeze (date + 1) 79, ingest 79 86400, freeze (date + 2) 80]

def start : Ingested := ⟨⟨checkpointVersion, identity, .empty, [], .empty, none⟩, []⟩

theorem new_eq : Ingested.new identity = .ok start := by
  unfold Ingested.new RiContextStore.new
  rw [show identity.validate = .ok () by decide +kernel]
  rfl

/-- What a run has to show: its inputs, whether each was processed in time and in front of the
barriers, and what it froze of the later date. -/
def seen (calls : List StoreCall) : List ContextInput × Bool × Bool × Option (Bool × ℕ) :=
  let run := start.run hashes calls
  let journal := run.store.state.journal
  (run.inputs,
    run.inputs.all (fun input => (journal[input.sequence - 1]?).any fun record =>
      input.durableAtUtc.all (· ≤ record.processedAtUtc)),
    run.inputs.all (fun input => (journal[input.sequence - 1]?).any fun record =>
      record.route ≠ .quarantined .behindFrozenBarrier),
    (run.store.frozen (date + 2)).map fun snapshot =>
      (snapshot.previous.isSome, snapshot.barrier.lastSequence))

theorem seen_timely : seen timely = ((List.range 80).map input, true, true, some (true, 80)) := by
  decide +kernel

theorem seen_hasty : seen hasty = ((List.range 80).map input, false, true, some (false, 80)) := by
  decide +kernel

theorem seen_behind : seen behind = ((List.range 80).map input, true, false, some (false, 80)) := by
  decide +kernel

section Seen

variable {calls : List StoreCall} {inputs : List ContextInput} {inTime inFront previous : Bool}
  {last : ℕ}

theorem of_seen (h : seen calls = (inputs, inTime, inFront, some (previous, last))) :
    (start.run hashes calls).inputs = inputs ∧
      (∃ snapshot, (start.run hashes calls).store.frozen (date + 2) = some snapshot ∧
        snapshot.previous.isSome = previous ∧ snapshot.barrier.lastSequence = last) ∧
      (inTime = true → ∀ input ∈ inputs, (start.run hashes calls).InTime input) ∧
      (inFront = true → ∀ input ∈ inputs, (start.run hashes calls).InFront input) := by
  unfold seen at h
  simp only [Prod.mk.injEq] at h
  obtain ⟨hinputs, htime, hfront, hfrozen⟩ := h
  refine ⟨hinputs, ?_, ?_, ?_⟩
  · obtain ⟨snapshot, hsome, hpair⟩ := Option.map_eq_some_iff.mp hfrozen
    exact ⟨snapshot, hsome, (Prod.mk.inj hpair).1, (Prod.mk.inj hpair).2⟩
  · intro hall input hinput
    rw [hall, hinputs] at htime
    obtain ⟨record, hrecord, hle⟩ := Option.any_eq_true _ _ |>.mp (List.all_eq_true.mp htime _ hinput)
    exact ⟨record, hrecord, fun durable hdurable => by
      simpa [Option.mem_def.mp hdurable] using hle⟩
  · intro hall input hinput
    rw [hall, hinputs] at hfront
    obtain ⟨record, hrecord, hne⟩ :=
      Option.any_eq_true _ _ |>.mp (List.all_eq_true.mp hfront _ hinput)
    exact ⟨record, hrecord, of_decide_eq_true hne⟩

theorem not_sameAnchors {P : Ingested → ContextInput → Prop}
    (h : seen calls = ((List.range 80).map input, inTime, inFront, some (false, 80)))
    (hP : ∀ i ∈ (List.range 80).map input,
      P (start.run hashes timely) i ∧ P (start.run hashes calls) i) :
    ¬Ingested.SameAnchors P := by
  obtain ⟨hinputs, ⟨snapshot, hfrozen, hprevious, hlast⟩, -⟩ := of_seen seen_timely
  obtain ⟨hinputs', ⟨snapshot', hfrozen', hprevious', hlast'⟩, -⟩ := of_seen h
  intro hsame
  have hanchors := hsame hashes identity start new_eq timely calls _ snapshot snapshot' hfrozen
    hfrozen' ?_ ?_
  · rw [hanchors.1, hprevious] at hprevious'
    exact (nomatch hprevious')
  · intro i
    rw [hlast, hlast']
    constructor
    · rintro ⟨hmem, hday, hsequence, hdurable⟩
      exact ⟨hinputs' ▸ hinputs ▸ hmem, hday, hsequence, hdurable⟩
    · rintro ⟨hmem, hday, hsequence, hdurable⟩
      exact ⟨hinputs ▸ hinputs' ▸ hmem, hday, hsequence, hdurable⟩
  · intro i hbefore
    exact hP i (hinputs ▸ hbefore.ingested)

end Seen

end Sample

/-! ### No look-ahead -/

open Ingested

/-- What is frozen of a date stays as it is, and so do the inputs of its anchors.  It is a function
of the accepted inputs before its cutoff, of whose two latest complete sessions it tells, and two
runs that took in the same such inputs, each in time and in front, have the same anchors. -/
theorem frozen_has_no_lookahead (H : Hashes) {identity : ContextIdentity} {start : Ingested}
    (hnew : Ingested.new identity = .ok start) :
    (∀ (calls : List StoreCall) (date : NaiveDate) (snapshot : FrozenContext),
      (start.run H calls).store.frozen date = some snapshot → (∃ bars : List ContextInput,
          (∀ input, input ∈ bars ↔
            (start.run H calls).Before identity date snapshot.barrier.lastSequence input ∧
              (start.run H calls).Accepted input) ∧
          bars.Pairwise (fun a b => a.bar.closeTimeUtc < b.bar.closeTimeUtc) ∧
          snapshot = frozenOf H identity date snapshot.frozenAtUtc snapshot.barrier bars ∧
          snapshot.TellsOf identity bars) ∧
        ∀ later, (start.run H (calls ++ later)).store.frozen date = some snapshot ∧
          (start.run H (calls ++ later)).store.frozenAnchorInputs date =
            (start.run H calls).store.frozenAnchorInputs date) ∧
      SameAnchors fun run input => run.InTime input ∧ run.InFront input := by
  have hsound : ∀ {H identity start}, Ingested.new identity = .ok start →
      ∀ calls, (start.run H calls).Sound H := fun hnew calls => ((Sound.new hnew).run_calls calls).1
  constructor
  · intro calls date snapshot hfrozen
    have h := hsound (H := H) hnew calls
    have hidentity := identity_run (H := H) hnew calls
    obtain ⟨-, -, heq⟩ := h.frozen_eq hfrozen
    rw [hidentity] at heq
    refine ⟨⟨_, ?_, h.pairwise_usedInputs date _, heq, ?_⟩, ?_⟩
    -- what is used is what was accepted before the cutoff
    · intro input
      rw [h.mem_usedInputs, h.mem_canonical, hidentity]
      constructor
      · rintro ⟨⟨-, haccepted⟩, hbefore⟩
        exact ⟨hbefore, haccepted⟩
      · rintro ⟨hbefore, haccepted⟩
        exact ⟨⟨hbefore.ingested, haccepted⟩, hbefore⟩
    · rw [heq]
      exact tellsOf_frozenOf
    · intro later
      unfold run
      rw [List.foldl_append]
      exact h.frozen_run hfrozen later
  · intro H identity start hnew calls calls' date snapshot snapshot' hfrozen hfrozen' hsame htime
    have h := hsound (H := H) hnew calls
    have h' := hsound (H := H) hnew calls'
    have hidentity := identity_run (H := H) hnew calls
    have hidentity' := identity_run (H := H) hnew calls'
    obtain ⟨-, hregular, heq⟩ := h.frozen_eq hfrozen
    obtain ⟨-, -, heq'⟩ := h'.frozen_eq hfrozen'
    rw [hidentity] at hregular
    -- both used the same inputs
    have hused := h.usedInputs_eq h' hidentity hidentity' hregular hsame htime
    rw [heq, heq', hidentity, hidentity', hused]
    exact ⟨rfl, rfl⟩

/-- In time is not enough, nor is in front: an input that is refused once, because it is processed
before it is durable or behind a barrier, is not taken over any more. -/
theorem anchors_depend_on_processing :
    ¬Ingested.SameAnchors (fun _ _ => True) ∧ ¬Ingested.SameAnchors Ingested.InTime ∧
      ¬Ingested.SameAnchors Ingested.InFront := by
  obtain ⟨-, -, htime, hfront⟩ := Sample.of_seen Sample.seen_timely
  obtain ⟨-, -, -, hfront'⟩ := Sample.of_seen Sample.seen_hasty
  obtain ⟨-, -, htime', -⟩ := Sample.of_seen Sample.seen_behind
  refine ⟨?_, ?_, ?_⟩
  · exact Sample.not_sameAnchors Sample.seen_hasty fun _ _ => ⟨trivial, trivial⟩
  · exact Sample.not_sameAnchors Sample.seen_behind fun i hi => ⟨htime rfl i hi, htime' rfl i hi⟩
  · exact Sample.not_sameAnchors Sample.seen_hasty fun i hi => ⟨hfront rfl i hi, hfront' rfl i hi⟩

theorem frozen_has_no_lookahead_sample :
    ∃ snapshot bars, (Sample.start.run Sample.hashes Sample.timely).store.frozen
        (Sample.date + 2) = some snapshot ∧ snapshot.previous.isSome = true ∧
      snapshot.TellsOf Sample.identity bars ∧
      ∀ later, (Sample.start.run Sample.hashes (Sample.timely ++ later)).store.frozen
        (Sample.date + 2) = some snapshot := by
  obtain ⟨-, ⟨snapshot, hfrozen, hprevious, -⟩, -⟩ := Sample.of_seen Sample.seen_timely
  obtain ⟨⟨bars, -, -, -, htells⟩, hlater⟩ :=
    (frozen_has_no_lookahead Sample.hashes Sample.new_eq).1 Sample.timely _ snapshot hfrozen
  exact ⟨snapshot, bars, hfrozen, hprevious, htells, fun later => (hlater later).1⟩

end AlorRs.RiContext
