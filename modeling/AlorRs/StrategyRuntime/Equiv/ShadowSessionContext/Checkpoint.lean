import AlorRs.StrategyRuntime.Equiv.ShadowSessionContext.Repeats
import AlorRs.StrategyRuntime.Equiv.RiContext.Store

/-!
# Restores of the reaction shadows

A store that is restored from its checkpoint is the store (`restore_checkpointBytes`), but for the
clock, which is that of the restore.
-/

namespace AlorRs.ShadowSessionContext

open Outcome Store

variable {H : Hashes} {text : EnvelopeText} {store store' : Store} {receipt : Receipt}
  {route : Route} {now : ℤ}

def Store.start (identity : Identity) : Store := ⟨identity, [], [], .empty, ∅, .empty, none⟩

theorem new_eq_ok {identity : Identity} :
    Store.new identity = .ok store ↔ identity.validate = .ok () ∧ store = .start identity := by
  unfold Store.new
  rw [bind_eq_ok]
  constructor
  · rintro ⟨_, hvalid, hreturn⟩
    exact ⟨hvalid, (Except.ok.inj hreturn).symm⟩
  · rintro ⟨hvalid, rfl⟩
    exact ⟨(), hvalid, rfl⟩

/-- A store whose log can be done again, from a new store to what the store is but for its clock. -/
structure Logged (H : Hashes) (store : Store) : Prop where
  identity : store.identity.validate = .ok ()
  replays : ∃ clock, clockLe clock store.clock = true ∧
    store.operations.foldlM (replay H) (.start store.identity) = .ok (store.withClock clock)
  count : store.operations.length ≤ store.inputs.length + store.frozen.length
  inputs_le : store.inputs.length ≤ maxInputs
  frozen_le : store.frozen.length ≤ maxFreezes

namespace Logged

theorem new {identity : Identity} (h : Store.new identity = .ok store) : Logged H store := by
  obtain ⟨hvalid, rfl⟩ := new_eq_ok.mp h
  exact ⟨hvalid, ⟨none, rfl, rfl⟩, Nat.zero_le _, Nat.zero_le _, Nat.zero_le _⟩

theorem replays_concat (h : Logged H store) (store' : Store) (operation : Operation)
    (hidentity : store'.identity = store.identity)
    (hoperations : store'.operations = store.operations ++ [operation])
    (hreplay : ∀ clock, clockLe clock store.clock = true →
      replay H (store.withClock clock) operation = .ok store') :
    ∃ clock, clockLe clock store'.clock = true ∧
      store'.operations.foldlM (replay H) (.start store'.identity) = .ok (store'.withClock clock) := by
  obtain ⟨clock, hle, hdone⟩ := h.replays
  refine ⟨store'.clock, clockLe_refl _, ?_⟩
  rw [hidentity, hoperations, List.foldlM_append, hdone]
  show [operation].foldlM (replay H) (store.withClock clock) = _
  rw [List.foldlM_cons, hreplay clock hle]
  rfl

theorem ingest (h : Logged H store) (hingest : store.ingest H receipt now = .ok (store', route)) :
    Logged H store' := by
  obtain ⟨-, hcheck, -, hstore'⟩ := ingestInner_cases hingest
  have hlimit : store.inputs.length < maxInputs := (checkReceipt_eq_ok.mp hcheck).1
  have hreplays := h.replays_concat store' (.ingest receipt now route)
    (by rw [hstore']; rfl) (by rw [hstore']; rfl) (by
      intro clock hle
      show (store.withClock clock).ingestInner H receipt now none >>= _ = _
      rw [ingestInner_withClock hle hingest]
      show ensure _ _ >>= _ = _
      rw [ensure_bind_eq_ok]
      exact ⟨decide_eq_true rfl, rfl⟩)
  have hcount := h.count
  subst hstore'
  refine ⟨h.identity, hreplays, ?_, ?_, h.frozen_le⟩
  · show (store.operations ++ [_]).length ≤ (store.inputs ++ [_]).length + store.frozen.length
    rw [List.length_append, List.length_append, List.length_singleton, List.length_singleton]
    omega
  · show (store.inputs ++ [_]).length ≤ _
    rw [List.length_append, List.length_singleton]
    omega

theorem freeze {day : NaiveDate} {barrier : Barrier} {value : Frozen} (h : Logged H store)
    (hfreeze : store.freeze H day now barrier = .ok (store', value)) : Logged H store' := by
  obtain ⟨-, hcheck, ⟨anchors, skipped, -, hvalue⟩, hstore'⟩ := freeze_cases hfreeze
  obtain ⟨hlimit, hlast⟩ := (checkFreeze_eq_ok.mp hcheck).2.1
  have hreplays := h.replays_concat store' (.freeze value)
    (by rw [hstore']; rfl) (by rw [hstore']; rfl) (by
      intro clock hle
      have hagain := freeze_withClock hle hfreeze
      rw [hvalue] at hagain ⊢
      show (store.withClock clock).freeze H day now barrier >>= _ = _
      rw [hagain]
      show ensure _ _ >>= _ = _
      rw [ensure_bind_eq_ok]
      exact ⟨decide_eq_true rfl, rfl⟩)
  have hlength : (store.frozen.insert day value).length = store.frozen.length + 1 :=
    OrderedMap.length_insert (OrderedMap.get?_eq_none_of_getLast? hlast)
  have hcount := h.count
  subst hstore'
  refine ⟨h.identity, hreplays, ?_, h.inputs_le, ?_⟩
  · show (store.operations ++ [_]).length ≤ store.inputs.length + (store.frozen.insert day value).length
    rw [List.length_append, List.length_singleton, hlength]
    omega
  · show (store.frozen.insert day value).length ≤ _
    rw [hlength]
    omega

/-- A store without inputs and freezes has nothing in its log. -/
theorem eq_start (h : Logged H store) (hinputs : store.inputs = [])
    (hfrozen : store.frozen.entries = []) : ∃ clock, .start store.identity = store.withClock clock := by
  obtain ⟨clock, -, hdone⟩ := h.replays
  have hcount := h.count
  have hnone : store.operations = [] := by
    refine List.eq_nil_of_length_eq_zero ?_
    unfold OrderedMap.length at hcount
    rw [hinputs, hfrozen] at hcount
    exact Nat.le_zero.mp hcount
  rw [hnone] at hdone
  exact ⟨clock, Except.ok.inj hdone⟩

theorem bootstrap {receipts : List Receipt} {day : NaiveDate} (h : Logged H store)
    (hbootstrap : store.bootstrap H receipts day now = .ok store') : Logged H store' := by
  obtain ⟨hinputs, hfrozen, hreceipts, hoperations, hinputs', hidentity', hfrozen', hle⟩ :=
    bootstrap_cases hbootstrap
  obtain ⟨clock, hstart⟩ := h.eq_start hinputs hfrozen
  have hnone : clock = none := (congrArg Store.clock hstart).symm
  have hagain := bootstrap_withClock (by rw [hnone]; rfl : clockLe clock store.clock = true) hbootstrap
  refine ⟨hidentity' ▸ h.identity, ⟨store'.clock, clockLe_refl _, ?_⟩, ?_, hle, ?_⟩
  · rw [hidentity', hoperations, List.foldlM_cons, hstart]
    show (store.withClock clock).bootstrap H receipts day now >>= _ = _
    rw [hagain]
    rfl
  · rw [hoperations, hinputs', List.length_singleton]
    have hpos := List.length_pos_iff.mpr hreceipts
    omega
  · rw [hfrozen']
    exact h.frozen_le

theorem replay {operation : Operation} (h : Logged H store)
    (hreplay : Store.replay H store operation = .ok store') : Logged H store' := by
  cases operation with
  | bootstrap receipts day now => exact h.bootstrap hreplay
  | ingest receipt now route =>
    obtain ⟨⟨next, replayed⟩, hingest, hreplay⟩ := bind_eq_ok.mp hreplay
    obtain ⟨-, hreturn⟩ := ensure_bind_eq_ok.mp hreplay
    obtain rfl := Except.ok.inj hreturn
    exact h.ingest hingest
  | freeze value =>
    obtain ⟨⟨next, replayed⟩, hfreeze, hreplay⟩ := bind_eq_ok.mp hreplay
    obtain ⟨-, hreturn⟩ := ensure_bind_eq_ok.mp hreplay
    obtain rfl := Except.ok.inj hreturn
    exact h.freeze hfreeze

theorem replayAll {operations : List Operation} (h : Logged H store)
    (hreplay : operations.foldlM (Store.replay H) store = .ok store') : Logged H store' := by
  induction operations generalizing store with
  | nil =>
    obtain rfl := Except.ok.inj hreplay
    exact h
  | cons operation operations ih =>
    obtain ⟨next, hnext, hreplay⟩ := bind_eq_ok.mp hreplay
    exact ih (h.replay hnext) hreplay

theorem withClock {clock : Option ℤ} (h : Logged H store)
    (hle : ∀ earlier, clockLe earlier store.clock = true → clockLe earlier clock = true) :
    Logged H (store.withClock clock) := by
  obtain ⟨earlier, hearlier, hdone⟩ := h.replays
  exact ⟨h.identity, ⟨earlier, hle earlier hearlier, hdone⟩, h.count, h.inputs_le, h.frozen_le⟩

end Logged

/-! ### Restores -/

theorem Logged.restore {identity : Identity} {bytes : List UInt8}
    (hrestore : Store.restore H text identity bytes now = .ok store) : Logged H store := by
  obtain ⟨_, -, hrestore⟩ := bind_eq_ok.mp hrestore
  obtain ⟨-, hrestore⟩ := ensure_bind_eq_ok.mp hrestore
  cases hread : text.fromSlice bytes with
  | none =>
    rw [hread] at hrestore
    exact (nomatch hrestore)
  | some saved =>
    rw [hread] at hrestore
    obtain ⟨-, hrestore⟩ := ensure_bind_eq_ok.mp hrestore
    obtain ⟨-, hrestore⟩ := ensure_bind_eq_ok.mp hrestore
    obtain ⟨start, hstart, hrestore⟩ := bind_eq_ok.mp hrestore
    obtain ⟨result, hresult, hrestore⟩ := bind_eq_ok.mp hrestore
    obtain ⟨hclock, hrestore⟩ := ensure_bind_eq_ok.mp hrestore
    obtain ⟨_, -, hreturn⟩ := bind_eq_ok.mp hrestore
    obtain rfl := Except.ok.inj hreturn
    rw [Bool.and_eq_true] at hclock
    exact ((Logged.new hstart).replayAll hresult).withClock fun earlier hearlier =>
      clockLe_trans hearlier (clockLe_trans hclock.1 (clockLe_some hclock.2))

def RoundTrips (text : EnvelopeText) (envelope : Envelope) : Prop :=
  text.fromSlice (text.toVec envelope) = some envelope

theorem restore_checkpointBytes {bytes : List UInt8} (h : Logged H store)
    (hbytes : store.checkpointBytes H text = .ok bytes)
    (hround : RoundTrips text ⟨store.payload, H.checkpoint store.payload⟩)
    (hclock : store.checkClock now = .ok ()) :
    Store.restore H text store.identity bytes now = .ok (store.withClock (some now)) := by
  obtain ⟨hlimit, hreturn⟩ := ensure_bind_eq_ok.mp hbytes
  obtain rfl := Except.ok.inj hreturn
  obtain ⟨⟨dt, hlocal⟩, hfloor⟩ := checkClock_eq_ok.mp hclock
  obtain ⟨clock, hle, hdone⟩ := h.replays
  have hcount := h.count
  have hinputs := h.inputs_le
  have hfrozen := h.frozen_le
  unfold Store.restore
  rw [h.identity]
  show ensure _ _ >>= _ = _
  rw [ensure_bind_eq_ok]
  refine ⟨hlimit, ?_⟩
  rw [hround]
  rw [ensure_bind_eq_ok]
  refine ⟨by simp [payload], ?_⟩
  rw [ensure_bind_eq_ok]
  refine ⟨decide_eq_true ?_, ?_⟩
  · show store.operations.length ≤ _
    omega
  rw [new_eq_ok.mpr ⟨h.identity, rfl⟩]
  show store.operations.foldlM (replay H) (.start store.identity) >>= _ = _
  rw [hdone]
  show ensure _ _ >>= _ = _
  rw [ensure_bind_eq_ok]
  refine ⟨?_, ?_⟩
  · rw [Bool.and_eq_true]
    exact ⟨hle, hfloor⟩
  · rw [hlocal]
    rfl

/-! ### Runs -/

inductive Reachable (H : Hashes) (text : EnvelopeText) : Store → Prop
  | new {identity : Identity} {store : Store} :
    Store.new identity = .ok store → Reachable H text store
  | call {store : Store} (c : StoreCall) : Reachable H text store → Reachable H text (store.call H c)
  | restore {store : Store} {identity : Identity} {bytes : List UInt8} {now : ℤ} :
    Store.restore H text identity bytes now = .ok store → Reachable H text store

theorem Logged.call (h : Logged H store) (c : StoreCall) : Logged H (store.call H c) := by
  rw [call_eq]
  cases hperform : store.perform H c with
  | error e => exact h
  | ok next =>
    cases c with
    | bootstrap receipts day now => exact h.bootstrap hperform
    | ingest receipt now =>
      obtain ⟨⟨_, route⟩, hingest, rfl⟩ := map_eq_ok.mp hperform
      exact h.ingest hingest
    | freeze day now barrier =>
      obtain ⟨⟨_, value⟩, hfreeze, rfl⟩ := map_eq_ok.mp hperform
      exact h.freeze hfreeze

theorem Reachable.logged (h : Reachable H text store) : Logged H store := by
  induction h with
  | new hnew => exact .new hnew
  | call c _ ih => exact ih.call c
  | restore hrestore => exact .restore hrestore

/-- What can be relied on of a store: its checkpoint restores it, a call that fails changes nothing,
and a receipt that is known bears on nothing that is frozen later, but for the numbers. -/
structure Durable (H : Hashes) (text : EnvelopeText) (store : Store) : Prop where
  restores : ∀ bytes now, store.checkpointBytes H text = .ok bytes →
    RoundTrips text ⟨store.payload, H.checkpoint store.payload⟩ →
      (∃ dt, localTime now = .ok dt) → store.clock.all (· ≤ now) = true →
        Store.restore H text store.identity bytes now = .ok (store.withClock (some now))
  unchanged : ∀ c e, ((performInPlace c).run H store).1 = .error e → store.call H c = store
  repeated : ∀ receipt now more route,
    store.sources.lookup receipt.sourceId = some (receipt.payloadHash H) →
      store.ingest H receipt now = .ok (more, route) →
        route = .duplicate ∧ more.canonical = store.canonical ∧ ∀ calls day,
            ((runBoth H (more, store) calls).1.frozen.get? day).map Frozen.unnumbered =
              ((runBoth H (more, store) calls).2.frozen.get? day).map Frozen.unnumbered

namespace Sample

def hashes : Hashes where
  payload sourceId bar _ _ := sourceId ++ toString bar.closeTimeUtc
  inputs inputs := toString inputs.length
  identity version identity := version ++ identity.symbol
  bars bars := toString bars.length
  checkpoint payload := toString payload.operations.length

def identity : Identity where
  profile := .imoexfReaction07
  symbol := "IMOEXF"
  modelConfigSha256 := String.ofList (List.replicate 64 '0')
  receiptStream := "ingress"
  policy := .weekendContextNoTrades
  excludedDates := ∅

def envelopeText : EnvelopeText where
  toVec _ := [123, 125]
  fromSlice bytes :=
    if bytes = [123, 125] then
      some ⟨(start identity).payload, hashes.checkpoint (start identity).payload⟩
    else none

theorem new_eq : Store.new identity = .ok (start identity) :=
  new_eq_ok.mpr ⟨by decide +kernel, rfl⟩

end Sample

end AlorRs.ShadowSessionContext
