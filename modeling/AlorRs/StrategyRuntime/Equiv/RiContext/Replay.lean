import AlorRs.StrategyRuntime.Equiv.RiContext.Journals

/-!
# Replays do not depend on their schedule

What a store makes of the rows of a journal is a function of the rows (`rowsRouting`): when each of
them is processed is no matter since it was durable before, and what was frozen before it is no matter
since the barriers of a journal are attested before all that comes after them (`Covered`).
-/

namespace AlorRs.RiContext

open Eff Outcome RiContextStore RiIngressJournal

variable {H : Hashes} {text : IngressText} {store store' : RiContextStore} {input : ContextInput}
  {journal journal' : RiIngressJournal} {identity : ContextIdentity}

/-! ### Routing without a schedule -/

/-- What was recorded of each number and what was taken over. -/
structure Routing where
  receipts : List (ℕ × String × ContextRoute)
  canonical : OrderedMap ℤ ContextInput

def RiContextStore.routing (store : RiContextStore) : Routing where
  receipts := store.state.journal.map fun record => (record.sequence, record.inputSha256, record.route)
  canonical := store.state.canonical

namespace Routing

def empty : Routing := ⟨[], .empty⟩

/-- The route of an input, when nothing is frozen and it is processed as soon as it is durable. -/
def route (identity : ContextIdentity) (routing : Routing) (input : ContextInput) :
    Except String ContextRoute := do
  let reason ← identity.validateInput input (input.durableAtUtc.getD 0)
  return match reason with
    | some reason => .quarantined reason
    | none =>
      match routing.canonical.get? input.bar.closeTimeUtc with
      | some old =>
        if quote old.bar = quote input.bar then .duplicateQuote else .quarantined .conflictingQuote
      | none => .contextOnly

def add (H : Hashes) (identity : ContextIdentity) (routing : Routing) (input : ContextInput) :
    Except String Routing := do
  let route ← routing.route identity input
  return ⟨routing.receipts ++ [(input.sequence, H.input input, route)],
    if route.contextUpdateAllowed then routing.canonical.insert input.bar.closeTimeUtc input
    else routing.canonical⟩

end Routing

def rowsRouting (text : IngressText) (identity : ContextIdentity) (routing : Routing)
    (rows : List Row) : Except String Routing :=
  rows.foldlM (fun routing row => do
    let input ← row.input text
    routing.add text.H identity input) routing

variable {routing : Routing}

theorem rowsRouting_append {rows rows' : List Row} :
    rowsRouting text identity routing (rows ++ rows') =
      rowsRouting text identity routing rows >>= fun routing =>
        rowsRouting text identity routing rows' := List.foldlM_append

/-! ### One input -/

structure ContextInput.DurableAt (input : ContextInput) (durable : ℤ) : Prop where
  durableAt : input.durableAtUtc = some durable
  received : ∃ received, input.receivedAtUtc = some received ∧
    (localTime? received).isSome = true ∧ received ≤ durable
  valid : (localTime? durable).isSome = true

variable {durable processed : ℤ}

theorem ContextInput.DurableAt.isValidReceipt {received : ℤ} (h : input.DurableAt durable)
    (hreceived : input.receivedAtUtc = some received) (hle : durable ≤ processed) :
    isValidReceipt received durable processed = true := by
  obtain ⟨received', hreceived', hvalid, hbefore⟩ := h.received
  obtain rfl := Option.some.inj (hreceived.symm.trans hreceived')
  unfold AlorRs.RiContext.isValidReceipt
  simp [hvalid, h.valid, hbefore, hle]

/-- When an input is processed is no matter. -/
theorem ContextInput.DurableAt.validateInput_eq (h : input.DurableAt durable)
    (hle : durable ≤ processed) :
    identity.validateInput input processed = identity.validateInput input durable := by
  obtain ⟨received, hreceived, -⟩ := h.received
  have hlate := h.isValidReceipt hreceived hle
  have hearly := h.isValidReceipt hreceived le_rfl
  unfold ContextIdentity.validateInput
  rw [hreceived, h.durableAt]
  dsimp only
  rw [hlate, hearly]

/-- Validation has nothing against its clocks. -/
theorem ContextInput.DurableAt.reason_ne {reason : QuarantineReason} (h : input.DurableAt durable)
    (hreason : identity.validateInput input durable = .ok (some reason)) :
    reason ≠ .invalidReceiptClock ∧ reason ≠ .behindFrozenBarrier ∧ reason ≠ .conflictingQuote := by
  obtain ⟨received, hreceived, -⟩ := h.received
  have hclock := h.isValidReceipt hreceived le_rfl
  unfold ContextIdentity.validateInput at hreason
  rw [hreceived, h.durableAt] at hreason
  dsimp only at hreason
  rw [hclock] at hreason
  -- the checks before the receipt clock give other reasons
  iterate 4
    split at hreason
    · obtain rfl := Option.some.inj (Except.ok.inj hreason)
      exact ⟨nofun, nofun, nofun⟩
  split at hreason
  · rename_i hnever
    exact absurd hnever (by decide)
  split at hreason
  · obtain rfl := Option.some.inj (Except.ok.inj hreason)
    exact ⟨nofun, nofun, nofun⟩
  obtain ⟨next, -, hreturn⟩ := bind_eq_ok.mp hreason
  have hsome := Except.ok.inj hreturn
  split at hsome
  · obtain rfl := Option.some.inj hsome
    exact ⟨nofun, nofun, nofun⟩
  -- what is left is a matter of the origin
  · unfold originReason at hsome
    split at hsome
    · split at hsome
      · obtain rfl := Option.some.inj hsome
        exact ⟨nofun, nofun, nofun⟩
      · split at hsome
        · obtain rfl := Option.some.inj hsome
          exact ⟨nofun, nofun, nofun⟩
        · exact (nomatch hsome)
    · obtain rfl := Option.some.inj hsome
      exact ⟨nofun, nofun, nofun⟩
    · exact (nomatch hsome)

/-- The route of a new input that is not behind a barrier. -/
theorem ContextInput.DurableAt.route_eq {reason : Option QuarantineReason}
    (h : input.DurableAt durable) (hle : durable ≤ processed)
    (hbehind : store.isBehindBarrier input = false)
    (hreason : store.state.identity.validateInput input processed = .ok reason) :
    store.routing.route store.state.identity input = .ok (store.route input reason) := by
  rw [h.validateInput_eq hle] at hreason
  unfold Routing.route
  rw [h.durableAt, Option.getD_some, hreason]
  show Except.ok _ = Except.ok _
  unfold RiContextStore.route
  rw [hbehind]
  cases reason with
  | some reason => rfl
  | none =>
    show Except.ok (match store.state.canonical.get? input.bar.closeTimeUtc with | some old => _ | none => _) = _
    cases store.state.canonical.get? input.bar.closeTimeUtc with
    | some old => rfl
    | none => rfl

variable {route : ContextRoute}

theorem routing_record :
    (store.record H input processed route).routing =
      ⟨store.routing.receipts ++ [(input.sequence, H.input input, route)],
        if route.contextUpdateAllowed then store.routing.canonical.insert input.bar.closeTimeUtc input
        else store.routing.canonical⟩ := by
  unfold RiContextStore.routing RiContextStore.record
  rw [List.map_append]
  rfl

/-- A new input is taken in as it is without a schedule. -/
theorem ContextInput.DurableAt.ingest (h : input.DurableAt durable) (hle : durable ≤ processed)
    (hbehind : store.isBehindBarrier input = false)
    (hnext : input.sequence = store.lastSequence + 1)
    (hingest : RiContextStore.ingest H store input processed = .ok (store', route)) :
    store.routing.add H store.state.identity input = .ok store'.routing ∧
      store'.lastSequence = store.lastSequence + 1 ∧
        store'.state.identity = store.state.identity ∧ store'.state.frozen = store.state.frozen ∧
          store'.state.lastProcessedAtUtc = some processed ∧ store.lastSequence < journalLimit := by
  obtain ⟨hclock, ⟨old, hold, -⟩ | ⟨reason, -, hlimit, hreason, -, rfl⟩⟩ := ingest_cases hingest
  · have hlt := (List.getElem?_eq_some_iff.mp hold).1
    have hlength : store.lastSequence = store.state.journal.length := rfl
    omega
  · refine ⟨?_, ?_, rfl, rfl, rfl, hlimit⟩
    · unfold Routing.add
      rw [h.route_eq hle hbehind hreason, routing_record]
      rfl
    · show (store.state.journal ++ _).length = _
      rw [List.length_append]
      rfl

/-- An input that can be taken in without a schedule is taken in. -/
theorem ContextInput.DurableAt.ingest_ok (h : input.DurableAt durable) (hle : durable ≤ processed)
    (hnext : input.sequence = store.lastSequence + 1) (hlimit : store.lastSequence < journalLimit)
    (hclock : store.checkClock processed = .ok ())
    (hadd : store.routing.add H store.state.identity input = .ok routing) :
    ∃ store' route, RiContextStore.ingest H store input processed = .ok (store', route) := by
  obtain ⟨route, hroute, -⟩ := bind_eq_ok.mp hadd
  obtain ⟨reason, hreason, -⟩ := bind_eq_ok.mp hroute
  rw [h.durableAt, Option.getD_some, ← h.validateInput_eq hle] at hreason
  have hnone : store.state.journal[input.sequence - 1]? = none := by
    refine List.getElem?_eq_none ?_
    show store.lastSequence ≤ _
    omega
  refine ⟨store.record H input processed (store.route input reason), store.route input reason, ?_⟩
  unfold RiContextStore.ingest
  rw [hclock]
  show ensure _ _ >>= _ = _
  rw [ensure_bind_eq_ok]
  refine ⟨decide_eq_true (by omega), ?_⟩
  rw [hnone]
  rw [ensure_bind_eq_ok]
  refine ⟨decide_eq_true hnext, ?_⟩
  rw [ensure_bind_eq_ok]
  refine ⟨decide_eq_true hlimit, ?_⟩
  rw [hreason]
  rfl

/-! ### Rows -/

/-- No row is behind a barrier of a store that has frozen under the barriers of the journal. -/
def Covered (journal : RiIngressJournal) (store : RiContextStore) : Prop :=
  ∀ frozen ∈ store.state.frozen.values, ∃ saved ∈ journal.barriers,
    saved.barrier.lastSequence ≤ store.lastSequence ∧ frozen.cutoffUtc ≤ saved.barrier.attestedAtUtc

variable {row : Row}

theorem Covered.isBehindBarrier_eq (h : Covered journal store) (htimely : journal.Timely)
    (hrow : journal.rows[store.lastSequence]? = some row)
    (hinput : input.durableAtUtc = some row.commit.durableAtUtc) :
    store.isBehindBarrier input = false := by
  unfold isBehindBarrier
  rw [List.any_eq_false]
  intro frozen hfrozen
  obtain ⟨saved, hsaved, hlast, hcutoff⟩ := h frozen hfrozen
  have hattested := htimely.attested _ row hrow saved hsaved hlast
  have hreceived := htimely.received_le row (List.mem_of_getElem? hrow)
  rw [hinput]
  simp only [Option.any_some, Bool.and_eq_true, decide_eq_true_eq, not_and, not_lt]
  intro _
  omega

theorem row_input (h : row.input text = .ok input) :
    input.sequence = row.raw.sequence ∧ input.receivedAtUtc = some row.raw.receivedAtUtc ∧
      input.durableAtUtc = some row.commit.durableAtUtc := by
  unfold Row.input at h
  cases hbar : text.fromStr row.raw.rawBarJson with
  | none =>
    rw [hbar] at h
    exact (nomatch h)
  | some bar =>
    rw [hbar] at h
    obtain rfl := Except.ok.inj h
    exact ⟨rfl, rfl, rfl⟩

theorem RiIngressJournal.Timely.durableAt (h : journal.Timely) (hrow : row ∈ journal.rows)
    (hinput : row.input text = .ok input) : input.DurableAt row.commit.durableAtUtc := by
  obtain ⟨-, hreceived, hdurable⟩ := row_input hinput
  exact ⟨hdurable, ⟨_, hreceived, h.received row hrow, h.received_le row hrow⟩, h.durable row hrow⟩

/-- A store that holds what the rows of a journal up to its last number are without a schedule. -/
structure Replayed (text : IngressText) (journal : RiIngressJournal) (store : RiContextStore) :
    Prop where
  le : store.lastSequence ≤ journal.rows.length
  routing : rowsRouting text store.state.identity .empty (journal.rows.take store.lastSequence) =
    .ok store.routing
  covered : Covered journal store
  limit : store.lastSequence ≤ journalLimit
  processed : ∀ row ∈ journal.rows.take store.lastSequence,
    ∃ last ∈ store.state.lastProcessedAtUtc, row.commit.durableAtUtc ≤ last

namespace Replayed

theorem goesOn (h : Replayed text journal store) (hextends : journal.Extends journal') :
    Replayed text journal' store := by
  obtain ⟨rest, hrest⟩ := hextends.rows
  have htake : journal'.rows.take store.lastSequence = journal.rows.take store.lastSequence := by
    rw [← hrest, List.take_append_of_le_length h.le]
  refine ⟨h.le.trans hextends.rows.length_le, ?_, ?_, h.limit, ?_⟩
  · rw [htake]
    exact h.routing
  · intro frozen hfrozen
    obtain ⟨saved, hsaved, hcover⟩ := h.covered frozen hfrozen
    exact ⟨saved, hextends.barriers.subset hsaved, hcover⟩
  · rw [htake]
    exact h.processed

theorem new (hnew : RiContextStore.new identity = .ok store) : Replayed text journal store := by
  obtain ⟨_, -, hreturn⟩ := bind_eq_ok.mp hnew
  obtain rfl := Except.ok.inj hreturn
  refine ⟨Nat.zero_le _, rfl, ?_, Nat.zero_le _, ?_⟩
  · exact fun _ hfrozen => absurd hfrozen List.not_mem_nil
  · exact fun _ hrow => absurd hrow List.not_mem_nil

theorem concat (h : Replayed text journal store) (htimely : journal.Timely)
    (hrow : journal.rows[store.lastSequence]? = some row)
    (hdurable : row.commit.durableAtUtc ≤ processed) (hinput : row.input text = .ok input)
    (hingest : RiContextStore.ingest text.H store input processed = .ok (store', route)) :
    Replayed text journal store' ∧ store'.lastSequence = store.lastSequence + 1 ∧
      store'.state.identity = store.state.identity := by
  have hmem := List.mem_of_getElem? hrow
  obtain ⟨hsequence, -, hdurableAt⟩ := row_input hinput
  have hnext : input.sequence = store.lastSequence + 1 := by
    rw [hsequence, htimely.numbered _ _ hrow]
  have hbehind := h.covered.isBehindBarrier_eq htimely hrow hdurableAt
  obtain ⟨hadd, hlast, hidentity, hfrozen, hclock, hlimit⟩ :=
    (htimely.durableAt hmem hinput).ingest hdurable hbehind hnext hingest
  have hlt := (List.getElem?_eq_some_iff.mp hrow).1
  -- the rows so far, and the next one
  have htake : journal.rows.take (store.lastSequence + 1) =
      journal.rows.take store.lastSequence ++ [row] := by
    rw [List.take_add_one, hrow]
    rfl
  refine ⟨⟨by omega, ?_, ?_, by omega, ?_⟩, hlast, hidentity⟩
  · rw [hlast, htake, rowsRouting_append, hidentity, h.routing]
    show rowsRouting text store.state.identity store.routing [row] = _
    unfold rowsRouting
    rw [List.foldlM_cons, hinput]
    show store.routing.add text.H store.state.identity input >>= _ = _
    rw [hadd]
    rfl
  · intro frozen hmem'
    rw [hfrozen] at hmem'
    obtain ⟨saved, hsaved, hle, hcutoff⟩ := h.covered frozen hmem'
    exact ⟨saved, hsaved, by omega, hcutoff⟩
  · rw [hlast, htake, hclock]
    have hbefore := (checkClock_eq_ok.mp (ingest_cases hingest).1).2
    intro other hother
    refine ⟨processed, rfl, ?_⟩
    -- the clock of the store passes every row
    rcases List.mem_append.mp hother with hold | hnew
    · obtain ⟨last, hlastMem, hle⟩ := h.processed other hold
      rw [Option.mem_def.mp hlastMem] at hbefore
      have hlast' : last ≤ processed := by simpa using hbefore
      exact hle.trans hlast'
    · obtain rfl := List.mem_singleton.mp hnew
      exact hdurable

theorem replayRows {rows : List Row} (h : Replayed text journal store) (htimely : journal.Timely)
    (hrows : rows <+: journal.rows.drop store.lastSequence)
    (hreplay : RiIngressJournal.replayRows text processed rows store = .ok store') :
    Replayed text journal store' ∧ store'.lastSequence = store.lastSequence + rows.length ∧
      store'.state.identity = store.state.identity := by
  induction rows generalizing store with
  | nil =>
    obtain rfl := Except.ok.inj hreplay
    exact ⟨h, rfl, rfl⟩
  | cons row rows ih =>
    obtain ⟨hdurable, hreplay⟩ := ensure_bind_eq_ok.mp hreplay
    obtain ⟨input, hinput, hreplay⟩ := bind_eq_ok.mp hreplay
    obtain ⟨⟨next, route⟩, hingest, hreplay⟩ := bind_eq_ok.mp hreplay
    obtain ⟨rest, hrest⟩ := hrows
    have hrow : journal.rows[store.lastSequence]? = some row := by
      have hget : (journal.rows.drop store.lastSequence)[0]? = some row := by
        rw [← hrest]
        rfl
      rw [List.getElem?_drop] at hget
      exact hget
    obtain ⟨hnext, hlast, hidentity⟩ :=
      h.concat htimely hrow (of_decide_eq_true hdurable) hinput hingest
    obtain ⟨hdone, hlast', hidentity'⟩ := ih hnext (by
      refine ⟨rest, ?_⟩
      rw [hlast, ← List.drop_drop, ← hrest]
      rfl) hreplay
    exact ⟨hdone, by rw [hlast', hlast, List.length_cons]; omega, hidentity'.trans hidentity⟩

theorem replayThrough {sequence : ℕ} {reading : ℤ} (h : Replayed text journal store)
    (htimely : journal.Timely)
    (hreplay : journal.replayThrough text store sequence processed reading = .ok store') :
    Replayed text journal store' ∧ store'.lastSequence = sequence ∧
      store'.state.identity = store.state.identity ∧
        store.state.identity.receiptStream = journal.manifest.identity.receiptStream ∧
          store.state.identity.symbol = journal.manifest.identity.symbol := by
  obtain ⟨_, -, hreplay⟩ := bind_eq_ok.mp hreplay
  obtain ⟨-, hreplay⟩ := ensure_bind_eq_ok.mp hreplay
  obtain ⟨hidentity, hreplay⟩ := ensure_bind_eq_ok.mp hreplay
  obtain ⟨hrange, hreplay⟩ := ensure_bind_eq_ok.mp hreplay
  obtain ⟨_, -, hreplay⟩ := bind_eq_ok.mp hreplay
  obtain ⟨_, -, hreplay⟩ := bind_eq_ok.mp hreplay
  obtain ⟨-, hreplay⟩ := ensure_bind_eq_ok.mp hreplay
  obtain ⟨_, -, hreplay⟩ := bind_eq_ok.mp hreplay
  simp only [Bool.and_eq_true, decide_eq_true_eq] at hidentity hrange
  have hlast : journal.lastSequence = journal.rows.length := rfl
  obtain ⟨hdone, hlength, hsame⟩ := h.replayRows htimely (by
    rw [List.drop_take]
    exact List.take_prefix _ _) hreplay
  refine ⟨hdone, ?_, hsame, hidentity⟩
  rw [hlength, List.length_drop, List.length_take]
  omega

theorem freeze {date : NaiveDate} {now : ℤ} {barrier : ReceiptBarrier}
    (h : Replayed text journal store)
    (hbarrier : journal.containsBarrier barrier = true)
    (hfreeze : RiContextStore.freeze text.H store date now barrier = .ok store') :
    Replayed text journal store' ∧ store'.lastSequence = store.lastSequence ∧
      store'.state.identity = store.state.identity := by
  rcases freeze_cases hfreeze with rfl | ⟨hclock, hdate, -, -, hcover, snapshot, hbuild, rfl⟩
  · exact ⟨h, rfl, rfl⟩
  · unfold RiIngressJournal.containsBarrier at hbarrier
    obtain ⟨saved, hsaved, hsame⟩ := List.any_eq_true.mp hbarrier
    obtain rfl := of_decide_eq_true hsame
    -- the barrier is attested after the cutoff
    have hcutoff : snapshot.cutoffUtc ≤ saved.barrier.attestedAtUtc := by
      obtain ⟨_, hcheck, hbuild⟩ := bind_eq_ok.mp hbuild
      obtain ⟨dated, -, hreturn⟩ := bind_eq_ok.mp hbuild
      obtain rfl := Except.ok.inj hreturn
      obtain ⟨-, hcheck⟩ := ensure_bind_eq_ok.mp hcheck
      obtain ⟨-, hcheck⟩ := ensure_bind_eq_ok.mp hcheck
      obtain ⟨-, hcheck⟩ := ensure_bind_eq_ok.mp hcheck
      obtain ⟨htimes, -⟩ := ensure_bind_eq_ok.mp hcheck
      simp only [Bool.and_eq_true, decide_eq_true_eq] at htimes
      exact htimes.1.1.trans htimes.1.2
    refine ⟨⟨h.le, h.routing, ?_, h.limit, ?_⟩, rfl, rfl⟩
    · intro frozen hfrozen
      rcases (OrderedMap.mem_values_insert hdate).mp hfrozen with rfl | hold
      · exact ⟨saved, hsaved, hcover.le, hcutoff⟩
      · exact h.covered frozen hold
    · intro row hrow
      obtain ⟨last, hlast, hle⟩ := h.processed row hrow
      refine ⟨now, rfl, ?_⟩
      have hbefore := (checkClock_eq_ok.mp hclock).2
      rw [Option.mem_def.mp hlast] at hbefore
      exact hle.trans (by simpa using hbefore)

/-- Rows that can be taken in without a schedule are replayed. -/
theorem replayRows_ok (rows : List Row) (h : Replayed text journal store) (htimely : journal.Timely)
    (hrows : rows <+: journal.rows.drop store.lastSequence)
    (hclock : store.checkClock processed = .ok ())
    (hdurable : ∀ row ∈ rows, row.commit.durableAtUtc ≤ processed)
    (hlimit : store.lastSequence + rows.length ≤ journalLimit)
    (hrouting : rowsRouting text store.state.identity store.routing rows = .ok routing) :
    ∃ store', RiIngressJournal.replayRows text processed rows store = .ok store' := by
  induction rows generalizing store with
  | nil => exact ⟨store, rfl⟩
  | cons row rows ih =>
    rw [List.length_cons] at hlimit
    obtain ⟨rest, hrest⟩ := hrows
    -- the next row is the first of those that are replayed
    have hrow : journal.rows[store.lastSequence]? = some row := by
      have hget : (journal.rows.drop store.lastSequence)[0]? = some row := by
        rw [← hrest]
        rfl
      rw [List.getElem?_drop] at hget
      exact hget
    have hmem := List.mem_of_getElem? hrow
    obtain ⟨hfirst, hothers⟩ := List.forall_mem_cons.mp hdurable
    unfold rowsRouting at hrouting
    obtain ⟨next, hnext, hrouting⟩ := bind_eq_ok.mp hrouting
    obtain ⟨input, hinput, hadd⟩ := bind_eq_ok.mp hnext
    obtain ⟨hsequence, -, hdurableAt⟩ := row_input hinput
    -- the row is not behind a barrier
    have hbehind := h.covered.isBehindBarrier_eq htimely hrow hdurableAt
    have htimelyInput := htimely.durableAt hmem hinput
    obtain ⟨taken, route, hingest⟩ := htimelyInput.ingest_ok hfirst
      (by rw [hsequence, htimely.numbered _ _ hrow]) (by omega) hclock hadd
    obtain ⟨hdone, hlast, hidentity⟩ := h.concat htimely hrow hfirst hinput hingest
    obtain ⟨hadd', -, -, -, hprocessed, -⟩ := htimelyInput.ingest hfirst hbehind
      (by rw [hsequence, htimely.numbered _ _ hrow]) hingest
    obtain rfl := Except.ok.inj (hadd.symm.trans hadd')
    obtain ⟨store', hreplay⟩ := ih hdone (by
      refine ⟨rest, ?_⟩
      rw [hlast, ← List.drop_drop, ← hrest]
      rfl) (by
      refine checkClock_eq_ok.mpr ⟨(checkClock_eq_ok.mp hclock).1, ?_⟩
      rw [hprocessed]
      exact decide_eq_true le_rfl) hothers (by omega) (by rw [hidentity]; exact hrouting)
    refine ⟨store', ?_⟩
    unfold RiIngressJournal.replayRows
    rw [ensure_bind_eq_ok]
    refine ⟨decide_eq_true hfirst, ?_⟩
    rw [hinput]
    show RiContextStore.ingest text.H store input processed >>= _ = _
    rw [hingest]
    exact hreplay

theorem replayThrough_new {first : RiContextStore} {reading : ℤ} (h : Replayed text journal store)
    (htimely : journal.Timely) (hnew : RiContextStore.new store.state.identity = .ok first)
    (hstream : store.state.identity.receiptStream = journal.manifest.identity.receiptStream)
    (hsymbol : store.state.identity.symbol = journal.manifest.identity.symbol)
    (hreading : journal.now reading = .ok ()) (hprocessed : processed ≤ reading)
    (hvalid : (localTime? processed).isSome = true)
    (hdurable : ∀ row ∈ journal.rows.take store.lastSequence, row.commit.durableAtUtc ≤ processed) :
    ∃ store', journal.replayThrough text first store.lastSequence processed reading = .ok store' := by
  have hfirst : Replayed text journal first := .new hnew
  obtain ⟨_, -, hreturn⟩ := bind_eq_ok.mp hnew
  obtain rfl := Except.ok.inj hreturn
  -- the new store has recorded nothing
  have hclock : RiContextStore.checkClock
      ⟨⟨checkpointVersion, store.state.identity, .empty, [], .empty, none⟩⟩ processed = .ok () :=
    checkClock_eq_ok.mpr ⟨hvalid, rfl⟩
  obtain ⟨store', hrows⟩ := hfirst.replayRows_ok (journal.rows.take store.lastSequence)
    htimely (List.take_prefix _ _) hclock hdurable (by
      rw [List.length_take]
      have hlimit := h.limit
      show 0 + _ ≤ _
      omega) h.routing
  refine ⟨store', ?_⟩
  unfold RiIngressJournal.replayThrough
  rw [hreading]
  show ensure _ _ >>= _ = _
  rw [ensure_bind_eq_ok]
  refine ⟨decide_eq_true hprocessed, ?_⟩
  rw [ensure_bind_eq_ok]
  refine ⟨by simp [hstream, hsymbol], ?_⟩
  rw [ensure_bind_eq_ok]
  refine ⟨?_, ?_⟩
  · have hle := h.le
    simp only [Bool.and_eq_true, decide_eq_true_eq]
    exact ⟨Nat.zero_le _, hle⟩
  show ensure (decide (text.H.digests [] = text.H.digests [])) _ >>= _ = _
  rw [ensure_bind_eq_ok]
  refine ⟨decide_eq_true rfl, ?_⟩
  rw [hclock]
  exact hrows

/-- No row was quarantined for the schedule. -/
theorem route_ne (h : Replayed text journal store) (htimely : journal.Timely) :
    ∀ record ∈ store.state.journal, record.route ≠ .quarantined .invalidReceiptClock ∧
      record.route ≠ .quarantined .behindFrozenBarrier := by
  have hall : ∀ (rows : List Row) (routing routing' : Routing), (∀ row ∈ rows, row ∈ journal.rows) →
      (∀ receipt ∈ routing.receipts, receipt.2.2 ≠ .quarantined .invalidReceiptClock ∧
        receipt.2.2 ≠ .quarantined .behindFrozenBarrier) →
        rowsRouting text store.state.identity routing rows = .ok routing' →
          ∀ receipt ∈ routing'.receipts, receipt.2.2 ≠ .quarantined .invalidReceiptClock ∧
            receipt.2.2 ≠ .quarantined .behindFrozenBarrier := by
    intro rows
    induction rows with
    | nil =>
      intro routing routing' _ hbefore hrouting
      obtain rfl := Except.ok.inj hrouting
      exact hbefore
    | cons row rows ih =>
      intro routing routing' hmem hbefore hrouting
      obtain ⟨hrow, hrows⟩ := List.forall_mem_cons.mp hmem
      unfold rowsRouting at hrouting
      obtain ⟨next, hnext, hrouting⟩ := bind_eq_ok.mp hrouting
      obtain ⟨input, hinput, hadd⟩ := bind_eq_ok.mp hnext
      refine ih next routing' hrows ?_ hrouting
      obtain ⟨route, hroute, hreturn⟩ := bind_eq_ok.mp hadd
      obtain rfl := Except.ok.inj hreturn
      intro receipt hreceipt
      rcases List.mem_append.mp hreceipt with hold | hnew
      · exact hbefore receipt hold
      -- the clocks of a durable row are in order
      · obtain rfl := List.mem_singleton.mp hnew
        obtain ⟨reason, hreason, hreturn⟩ := bind_eq_ok.mp hroute
        have hdurable := htimely.durableAt hrow hinput
        rw [hdurable.durableAt, Option.getD_some] at hreason
        obtain rfl := Except.ok.inj hreturn
        cases reason with
        | some reason =>
          obtain ⟨hclock, hbehind, -⟩ := hdurable.reason_ne hreason
          exact ⟨fun heq => hclock (ContextRoute.quarantined.inj heq),
            fun heq => hbehind (ContextRoute.quarantined.inj heq)⟩
        | none =>
          dsimp only
          split
          · split
            all_goals exact ⟨nofun, nofun⟩
          · exact ⟨nofun, nofun⟩
  have hreceipts := hall _ _ _ (fun row hrow => List.mem_of_mem_take hrow)
    (fun _ hmem => absurd hmem List.not_mem_nil) h.routing
  intro record hrecord
  exact hreceipts (record.sequence, record.inputSha256, record.route)
    (List.mem_map_of_mem hrecord)

end Replayed

end AlorRs.RiContext
