import AlorRs.StrategyRuntime.ShadowSessionContext.Store

/-!
# Checkpoints of the reaction shadows

All that a store does besides moving its clock is in the log of its operations, and they can be done
again from a new store (`Logged`), whatever the clock of the store was in between.

A call leaves the store that it returns without the changes in place (`call_eq`).  One that fails has
changed nothing (`call_of_error`), since all checks come before the first change.
-/

namespace AlorRs.ShadowSessionContext

open Outcome Store

variable {H : Hashes} {store store' : Store} {receipt : Receipt} {route : Route} {now : ℤ}
  {clock : Option ℤ}

/-! ### Clocks -/

def Store.withClock (store : Store) (clock : Option ℤ) : Store := { store with clock := clock }

theorem clockLe_refl (clock : Option ℤ) : clockLe clock clock = true := by
  cases clock with
  | none => rfl
  | some t => exact decide_eq_true le_rfl

theorem clockLe_trans {a b c : Option ℤ} (h : clockLe a b = true) (h' : clockLe b c = true) :
    clockLe a c = true := by
  cases a with
  | none => rfl
  | some a =>
    cases b with
    | none => exact (nomatch h)
    | some b =>
      cases c with
      | none => exact (nomatch h')
      | some c => exact decide_eq_true ((of_decide_eq_true h).trans (of_decide_eq_true h'))

theorem clockLe_some {floor : Option ℤ} (h : floor.all (· ≤ now) = true) :
    clockLe floor (some now) = true := by
  cases floor with
  | none => rfl
  | some t => exact decide_eq_true (by simpa using h)

theorem checkClock_eq_ok :
    store.checkClock now = .ok () ↔ (∃ dt, localTime now = .ok dt) ∧ store.clock.all (· ≤ now) = true := by
  unfold checkClock
  cases hlocal : localTime now with
  | error e =>
    constructor
    · intro h
      exact (nomatch h)
    · rintro ⟨⟨dt, h⟩, -⟩
      exact (nomatch h)
  | ok dt =>
    show ensure _ _ = .ok () ↔ _
    rw [ensure_eq_ok]
    exact ⟨fun h => ⟨⟨dt, rfl⟩, h⟩, fun h => h.2⟩

/-- An earlier clock stands in the way of nothing. -/
theorem checkClock_of_le (hle : clockLe store'.clock store.clock = true)
    (h : store.checkClock now = .ok ()) : store'.checkClock now = .ok () := by
  obtain ⟨hlocal, hbefore⟩ := checkClock_eq_ok.mp h
  refine checkClock_eq_ok.mpr ⟨hlocal, ?_⟩
  cases hclock' : store'.clock with
  | none => rfl
  | some t =>
    cases hclock : store.clock with
    | none =>
      rw [hclock, hclock'] at hle
      exact (nomatch hle)
    | some t' =>
      rw [hclock, hclock'] at hle
      rw [hclock] at hbefore
      have hle' : t ≤ t' := of_decide_eq_true hle
      have hnow : t' ≤ now := by simpa using hbefore
      exact decide_eq_true (hle'.trans hnow)

theorem checkClock_withClock (hle : clockLe clock store.clock = true)
    (h : store.checkClock now = .ok ()) : (store.withClock clock).checkClock now = .ok () :=
  checkClock_of_le hle h

/-! ### What a call can do -/

theorem checkReceipt_eq_ok : store.checkReceipt receipt = .ok () ↔
    store.lastSequence < maxInputs ∧ receipt.sequence = store.lastSequence + 1 ∧
      (!receipt.sourceId.isEmpty && receipt.sourceId.utf8ByteSize ≤ 256) = true := by
  unfold checkReceipt
  rw [ensure_bind_eq_ok, ensure_bind_eq_ok, ensure_eq_ok, decide_eq_true_iff, decide_eq_true_iff]
  rfl

variable {day : NaiveDate} {barrier : Barrier}

theorem checkFreeze_eq_ok :
    store.checkFreeze H day now barrier = .ok () ↔ store.identity.tradingDate day = true ∧
        (store.frozen.length < maxFreezes ∧ store.frozen.keys.getLast?.all (· < day) = true) ∧
          (barrier.receiptStream = store.identity.receiptStream ∧
            barrier.lastSequence = store.lastSequence ∧
              barrier.ingressSha256 = store.ingressSha256 H) ∧
            store.identity.cutoff day ≤ barrier.throughUtc ∧
              barrier.throughUtc ≤ barrier.attestedAtUtc ∧ barrier.attestedAtUtc ≤ now := by
  unfold checkFreeze
  rw [ensure_bind_eq_ok, ensure_bind_eq_ok, ensure_bind_eq_ok, ensure_eq_ok]
  simp only [Bool.and_eq_true, decide_eq_true_eq, and_assoc]

theorem ingestInner_cases {cutoff : Option ℤ}
    (h : store.ingestInner H receipt now cutoff = .ok (store', route)) :
    store.checkClock now = .ok () ∧ store.checkReceipt receipt = .ok () ∧
      store.route H receipt now cutoff = .ok route ∧ store' = store.record H receipt now route := by
  obtain ⟨_, hclock, h⟩ := bind_eq_ok.mp h
  obtain ⟨_, hcheck, h⟩ := bind_eq_ok.mp h
  obtain ⟨route', hroute, hreturn⟩ := bind_eq_ok.mp h
  obtain ⟨rfl, rfl⟩ := Prod.mk.inj (Except.ok.inj hreturn)
  exact ⟨hclock, hcheck, hroute, rfl⟩

theorem ingestInner_withClock {cutoff : Option ℤ} (hle : clockLe clock store.clock = true)
    (h : store.ingestInner H receipt now cutoff = .ok (store', route)) :
    (store.withClock clock).ingestInner H receipt now cutoff = .ok (store', route) := by
  have hclock := (ingestInner_cases h).1
  unfold ingestInner at h ⊢
  rw [hclock] at h
  rw [checkClock_withClock hle hclock]
  exact h

variable {identity : Identity} {receipts : List Receipt}

theorem inputs_bootstrapAll (h : bootstrapAll H identity day now receipts store = .ok store') :
    store'.inputs = store.inputs ++ receipts ∧ store'.identity = store.identity ∧
      store'.frozen = store.frozen ∧ (store.inputs.length ≤ maxInputs →
        store'.inputs.length ≤ maxInputs) := by
  induction receipts generalizing store with
  | nil =>
    obtain rfl := Except.ok.inj h
    exact ⟨(List.append_nil _).symm, rfl, rfl, id⟩
  | cons receipt receipts ih =>
    obtain ⟨_, -, h⟩ := bind_eq_ok.mp h
    obtain ⟨⟨staged, route⟩, hingest, h⟩ := bind_eq_ok.mp h
    obtain ⟨-, h⟩ := ensure_bind_eq_ok.mp h
    obtain ⟨-, hcheck, -, rfl⟩ := ingestInner_cases hingest
    have hlimit : store.inputs.length < maxInputs := (checkReceipt_eq_ok.mp hcheck).1
    obtain ⟨hinputs, hidentity, hfrozen, hle⟩ := ih h
    refine ⟨?_, hidentity, hfrozen, fun _ => hle ?_⟩
    · rw [hinputs]
      exact List.append_assoc _ _ _
    · show (store.inputs ++ [receipt]).length ≤ _
      rw [List.length_append, List.length_singleton]
      omega

theorem bootstrapAll_withClock (hle : clockLe clock store.clock = true) (hreceipts : receipts ≠ [])
    (h : bootstrapAll H identity day now receipts store = .ok store') :
    bootstrapAll H identity day now receipts (store.withClock clock) = .ok store' := by
  cases receipts with
  | nil => exact absurd rfl hreceipts
  | cons receipt receipts =>
    unfold bootstrapAll at h ⊢
    obtain ⟨_, hcheck, h⟩ := bind_eq_ok.mp h
    obtain ⟨⟨staged, route⟩, hingest, h⟩ := bind_eq_ok.mp h
    rw [hcheck]
    show (store.withClock clock).ingestInner H receipt now _ >>= _ = _
    rw [ingestInner_withClock hle hingest]
    exact h

/-- A bootstrap is its loop, with a log of its own. -/
theorem bootstrap_staged (h : store.bootstrap H receipts day now = .ok store') :
    ∃ staged, bootstrapAll H store.identity day now receipts store = .ok staged ∧
      store' = { staged with operations := [.bootstrap receipts day now] } := by
  obtain ⟨_, -, h⟩ := bind_eq_ok.mp h
  obtain ⟨_, -, h⟩ := bind_eq_ok.mp h
  obtain ⟨staged, hall, h⟩ := bind_eq_ok.mp h
  obtain ⟨_, -, hreturn⟩ := bind_eq_ok.mp h
  exact ⟨staged, hall, (Except.ok.inj hreturn).symm⟩

theorem bootstrap_cases (h : store.bootstrap H receipts day now = .ok store') :
    store.inputs = [] ∧ store.frozen.entries = [] ∧ receipts ≠ [] ∧
      store'.operations = [.bootstrap receipts day now] ∧ store'.inputs = receipts ∧
        store'.identity = store.identity ∧ store'.frozen = store.frozen ∧
          store'.inputs.length ≤ maxInputs := by
  obtain ⟨staged, hall, rfl⟩ := bootstrap_staged h
  obtain ⟨_, -, h⟩ := bind_eq_ok.mp h
  obtain ⟨_, hcheck, -⟩ := bind_eq_ok.mp h
  obtain ⟨hempty, hcheck⟩ := ensure_bind_eq_ok.mp hcheck
  obtain ⟨-, hcheck⟩ := ensure_bind_eq_ok.mp hcheck
  have hreceipts := ensure_eq_ok.mp hcheck
  simp only [Bool.and_eq_true, List.isEmpty_iff, Bool.not_eq_true', List.isEmpty_eq_false_iff,
    decide_eq_true_eq] at hempty hreceipts
  obtain ⟨hinputs, hidentity, hfrozen, hle⟩ := inputs_bootstrapAll hall
  rw [hempty.1, List.nil_append] at hinputs
  refine ⟨hempty.1, hempty.2, hreceipts.1, rfl, hinputs, hidentity, hfrozen, hle ?_⟩
  rw [hempty.1]
  exact Nat.zero_le _

theorem bootstrap_withClock (hle : clockLe clock store.clock = true)
    (h : store.bootstrap H receipts day now = .ok store') :
    (store.withClock clock).bootstrap H receipts day now = .ok store' := by
  have hreceipts := (bootstrap_cases h).2.2.1
  unfold bootstrap at h ⊢
  obtain ⟨_, hclock, h⟩ := bind_eq_ok.mp h
  obtain ⟨_, hcheck, h⟩ := bind_eq_ok.mp h
  obtain ⟨staged, hall, h⟩ := bind_eq_ok.mp h
  rw [checkClock_withClock hle hclock]
  show store.checkEmpty receipts day now >>= _ = _
  rw [hcheck]
  show bootstrapAll H store.identity day now receipts (store.withClock clock) >>= _ = _
  rw [bootstrapAll_withClock hle hreceipts hall]
  exact h

theorem freeze_cases {value : Frozen} (h : store.freeze H day now barrier = .ok (store', value)) :
    store.checkClock now = .ok () ∧ store.checkFreeze H day now barrier = .ok () ∧
      (∃ anchors skipped, store.anchorsBefore H day = .ok (anchors, skipped) ∧
        value = store.frozenOf H day now barrier anchors skipped) ∧
        store' = store.recordFrozen day now value := by
  obtain ⟨_, hclock, h⟩ := bind_eq_ok.mp h
  obtain ⟨_, hcheck, h⟩ := bind_eq_ok.mp h
  obtain ⟨⟨anchors, skipped⟩, hanchors, hreturn⟩ := bind_eq_ok.mp h
  obtain ⟨rfl, rfl⟩ := Prod.mk.inj (Except.ok.inj hreturn)
  exact ⟨hclock, hcheck, ⟨anchors, skipped, hanchors, rfl⟩, rfl⟩

theorem freeze_withClock {value : Frozen} (hle : clockLe clock store.clock = true)
    (h : store.freeze H day now barrier = .ok (store', value)) :
    (store.withClock clock).freeze H day now barrier = .ok (store', value) := by
  have hclock := (freeze_cases h).1
  unfold freeze at h ⊢
  rw [hclock] at h
  rw [checkClock_withClock hle hclock]
  exact h

/-! ### Calls that change a store in place -/

variable {cutoff : Option ℤ}

def leaves {V : Type} (store : Store) : Except String (Store × V) → Except String V × Store
  | .ok (store', v) => (.ok v, store')
  | .error e => (.error e, store)

theorem run_ingestInnerInPlace : (ingestInnerInPlace receipt now cutoff).run H store =
    leaves store (store.ingestInner H receipt now cutoff) := by
  unfold ingestInnerInPlace ingestInner
  rw [Eff.run_read_bind, Eff.run_get_bind, Eff.run_ofExcept_bind]
  cases store.checkClock now with
  | error e => rfl
  | ok _ =>
    rw [Eff.run_ofExcept_bind]
    show _ = leaves store (store.checkReceipt receipt >>= _)
    cases store.checkReceipt receipt with
    | error e => rfl
    | ok _ =>
      rw [Eff.run_ofExcept_bind]
      show _ = leaves store (store.route H receipt now cutoff >>= _)
      cases store.route H receipt now cutoff with
      | error e => rfl
      | ok route =>
        dsimp only
        cases hcontext : route.contextUpdateAllowed with
        | true | false =>
          show _ = (Except.ok route, store.record H receipt now route)
          unfold record
          rw [hcontext]
          rfl

def staged : Except String Unit × Store → Except String Store
  | (.ok _, store) => .ok store
  | (.error e, _) => .error e

/-- The loop of a bootstrap leaves its copy somewhere when it fails. -/
theorem run_bootstrapAllInPlace :
    staged ((bootstrapAllInPlace identity day now receipts).run H store) =
      bootstrapAll H identity day now receipts store := by
  induction receipts generalizing store with
  | nil => rfl
  | cons receipt receipts ih =>
    unfold bootstrapAllInPlace bootstrapAll
    rw [Eff.run_ofExcept_bind]
    cases checkBootstrap identity receipt day now with
    | error e => rfl
    | ok _ =>
      rw [Eff.run_bind, run_ingestInnerInPlace]
      show _ = (store.ingestInner H receipt now _ >>= _)
      cases store.ingestInner H receipt now (some (identity.cutoff day)) with
      | error e => rfl
      | ok taken =>
        obtain ⟨next, route⟩ := taken
        show staged ((Eff.ofExcept _ >>= fun _ => _).run H next) = (ensure _ _ >>= fun _ => _)
        rw [Eff.run_ofExcept_bind]
        cases ensure (isBootstrapRoute route) "invalid bootstrap receipt" with
        | error e => rfl
        | ok _ => exact ih

theorem run_bootstrapInPlace :
    (bootstrapInPlace receipts day now).run H store =
      leaves store ((store.bootstrap H receipts day now).map fun store' => (store', ())) := by
  unfold bootstrapInPlace bootstrap
  rw [Eff.run_read_bind, Eff.run_get_bind, Eff.run_ofExcept_bind]
  cases store.checkClock now with
  | error e => rfl
  | ok _ =>
    rw [Eff.run_ofExcept_bind]
    show _ = leaves store ((store.checkEmpty receipts day now >>= _).map _)
    cases store.checkEmpty receipts day now with
    | error e => rfl
    | ok _ =>
      rw [Eff.run_ofExcept_bind]
      show _ = leaves store ((bootstrapAll H store.identity day now receipts store >>= _).map _)
      rw [← run_bootstrapAllInPlace]
      generalize (bootstrapAllInPlace store.identity day now receipts).run H store = outcome
      obtain ⟨_ | _, copy⟩ := outcome
      · rfl
      · dsimp only
        rw [Eff.run_ofExcept_bind]
        show _ = leaves store ((checkStaged H store.identity copy day >>= _).map _)
        cases checkStaged H store.identity copy day with
        | error e => rfl
        | ok _ => rfl

theorem run_freezeInPlace :
    (freezeInPlace day now barrier).run H store = leaves store (store.freeze H day now barrier) := by
  unfold freezeInPlace freeze
  rw [Eff.run_read_bind, Eff.run_get_bind, Eff.run_ofExcept_bind]
  cases store.checkClock now with
  | error e => rfl
  | ok _ =>
    rw [Eff.run_ofExcept_bind]
    show _ = leaves store (store.checkFreeze H day now barrier >>= _)
    cases store.checkFreeze H day now barrier with
    | error e => rfl
    | ok _ =>
      rw [Eff.run_ofExcept_bind]
      show _ = leaves store (store.anchorsBefore H day >>= _)
      cases store.anchorsBefore H day with
      | error | ok => rfl

/-! ### Calls -/

def Store.perform (H : Hashes) (store : Store) : StoreCall → Except String Store
  | .bootstrap receipts day now => store.bootstrap H receipts day now
  | .ingest receipt now => (store.ingest H receipt now).map Prod.fst
  | .freeze day now barrier => (store.freeze H day now barrier).map Prod.fst

theorem run_performInPlace (c : StoreCall) : (performInPlace c).run H store =
    leaves store ((store.perform H c).map fun store' => (store', ())) := by
  cases c with
  | bootstrap receipts day now => exact run_bootstrapInPlace
  | ingest receipt now =>
    show (ingestInnerInPlace receipt now none >>= fun _ => pure ()).run H store = _
    rw [Eff.run_bind, run_ingestInnerInPlace]
    show _ = leaves store (((store.ingestInner H receipt now none).map Prod.fst).map _)
    cases store.ingestInner H receipt now none with
    | error e => rfl
    | ok taken => rfl
  | freeze day now barrier =>
    show (freezeInPlace day now barrier >>= fun _ => pure ()).run H store = _
    rw [Eff.run_bind, run_freezeInPlace]
    show _ = leaves store (((store.freeze H day now barrier).map Prod.fst).map _)
    cases store.freeze H day now barrier with
    | error e => rfl
    | ok taken => rfl

theorem call_eq (c : StoreCall) : store.call H c = match store.perform H c with
    | .ok store' => store'
    | .error _ => store := by
  unfold Store.call Eff.post
  rw [run_performInPlace]
  cases store.perform H c with
  | ok store' => rfl
  | error e => rfl

theorem call_of_error {c : StoreCall} {e : String}
    (h : ((performInPlace c).run H store).1 = .error e) : store.call H c = store := by
  rw [run_performInPlace] at h
  rw [call_eq]
  cases hperform : store.perform H c with
  | error e => rfl
  | ok store' =>
    rw [hperform] at h
    exact (nomatch h)

end AlorRs.ShadowSessionContext
