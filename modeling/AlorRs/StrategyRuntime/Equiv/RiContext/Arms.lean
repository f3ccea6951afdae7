import AlorRs.StrategyRuntime.Equiv.RiContext.Frozen

/-!
# The two arms of a comparison

Two stores whose identities differ only in policy take in the same inputs.  A difference of what they
accept stays at the close time at which it arose (`Agree`), since an accepted bar bears on the later
ones of its own close time only.
-/

namespace AlorRs.RiContext

open Outcome ContextIdentity RiContextStore

variable {H : Hashes} {identity : ContextIdentity} {control candidate : RiContextStore}
  {input : ContextInput} {processed : ℤ}

/-- The close time of the last regular bar of a day. -/
def IsClosing (key : ℤ) : Prop := ∃ dt ∈ localTime? key, dt.time = time 23 40

def ContextIdentity.withPolicy (identity : ContextIdentity) (policy : ContextPolicy) :
    ContextIdentity := { identity with policy := policy }

/-- What the two arms accepted of one close time. -/
structure Agree (key : ℤ) (control candidate : Option ContextInput) : Prop where
  same : ¬IsClosing key → control = candidate
  accepted : control.isSome = true → candidate.isSome = true
  recovered : control = none → ∀ input ∈ candidate, input.bar.origin = .historyGap

theorem Agree.refl {key : ℤ} {accepted : Option ContextInput} : Agree key accepted accepted :=
  ⟨fun _ => rfl, id, fun hnone input hinput => by simp [hnone] at hinput⟩

def ReceiptRecord.evidence (record : ReceiptRecord) : ℕ × String × ℤ :=
  (record.sequence, record.inputSha256, record.processedAtUtc)

/-- Two stores that took in the same inputs and froze the same sessions under policies that differ. -/
structure Matched (identity : ContextIdentity) (control candidate : RiContextStore) : Prop where
  journal : control.state.journal.map (·.evidence) = candidate.state.journal.map (·.evidence)
  frozen : control.state.frozen.entries.map (fun entry => (entry.1, entry.2.cutoffUtc)) =
    candidate.state.frozen.entries.map fun entry => (entry.1, entry.2.cutoffUtc)
  clock : control.state.lastProcessedAtUtc = candidate.state.lastProcessedAtUtc
  accepted : ∀ key, Agree key (control.state.canonical.get? key) (candidate.state.canonical.get? key)
  runtimeAcceptedOnly : control.state.identity = identity.withPolicy .runtimeAcceptedOnly
  riConfirmedClosing :
    candidate.state.identity = identity.withPolicy .riConfirmedClosingContextV1

section Policy

variable {policy : ContextPolicy} {dt : NaiveDateTime} {date : NaiveDate}

theorem isModelTime_withPolicy :
    (identity.withPolicy policy).isModelTime dt = identity.isModelTime dt := rfl

theorem nextRegular_withPolicy {days : ℕ} :
    (identity.withPolicy policy).nextRegular days date = identity.nextRegular days date := by
  induction days generalizing date with
  | zero => rfl
  | succ days ih =>
    unfold nextRegular
    rw [ih]
    rfl

theorem nextCutoff_withPolicy :
    (identity.withPolicy policy).nextCutoff date = identity.nextCutoff date := by
  unfold nextCutoff
  rw [nextRegular_withPolicy]
  rfl

end Policy

/-- What speaks against an input is the same under all policies, or a matter of its origin. -/
theorem validateInput_withPolicy (identity : ContextIdentity) (input : ContextInput)
    (processed : ℤ) :
    (∃ outcome, ∀ policy,
      (identity.withPolicy policy).validateInput input processed = outcome) ∨
    ∃ dt ∈ localTime? input.bar.closeTimeUtc, ∀ policy,
      (identity.withPolicy policy).validateInput input processed =
        .ok (originReason policy input.bar.origin dt) := by
  -- only the last check looks at the policy
  unfold ContextIdentity.validateInput
  simp only [isModelTime_withPolicy, nextCutoff_withPolicy]
  by_cases hsymbol : input.bar.symbol ≠ identity.symbol
  · exact .inl ⟨_, fun policy => if_pos hsymbol⟩
  have hskip : ∀ policy, ¬input.bar.symbol ≠ (identity.withPolicy policy).symbol := fun _ => hsymbol
  simp only [if_neg (hskip _)]
  cases hdt : localTime? input.bar.closeTimeUtc with
  | none => exact .inl ⟨_, fun policy => rfl⟩
  | some dt =>
    dsimp only
    split_ifs
    · exact .inl ⟨_, fun policy => rfl⟩
    · exact .inl ⟨_, fun policy => rfl⟩
    cases input.receivedAtUtc with
    | none => exact .inl ⟨_, fun policy => rfl⟩
    | some received =>
      cases input.durableAtUtc with
      | none => exact .inl ⟨_, fun policy => rfl⟩
      | some durable =>
        dsimp only
        split_ifs
        · exact .inl ⟨_, fun policy => rfl⟩
        · exact .inl ⟨_, fun policy => rfl⟩
        cases hnext : identity.nextCutoff dt.date with
        | error e => exact .inl ⟨_, fun policy => rfl⟩
        | ok next =>
          -- an input that is not late is a matter of its origin
          by_cases hlate : next ≤ durable
          · refine .inl ⟨.ok (some .atOrAfterCutoff), fun policy => ?_⟩
            show Except.ok (if _ then _ else _) = _
            rw [if_pos hlate]
          · refine .inr ⟨dt, rfl, fun policy => ?_⟩
            show Except.ok (if _ then _ else _) = _
            rw [if_neg hlate]
            rfl

/-- The reasons of the two arms are the same, or the control has one against a bar of the history. -/
def ReasonsOf (input : ContextInput) (control candidate : Option QuarantineReason) : Prop :=
  control = candidate ∨ (input.bar.origin = .historyGap ∧ control.isSome = true ∧
      (candidate = none → IsClosing input.bar.closeTimeUtc))

theorem validateInput_both (identity : ContextIdentity) (input : ContextInput) (processed : ℤ) :
    Both (ReasonsOf input)
      ((identity.withPolicy .runtimeAcceptedOnly).validateInput input processed)
      ((identity.withPolicy .riConfirmedClosingContextV1).validateInput input processed) := by
  rcases validateInput_withPolicy identity input processed with ⟨outcome, hsame⟩ | ⟨dt, hdt, horigin⟩
  · rw [hsame, hsame]
    cases outcome with
    | error e => exact .error e
    | ok reason => exact .ok (.inl rfl)
  · rw [horigin, horigin]
    refine .ok ?_
    cases hkind : input.bar.origin with
    | historyGap =>
      refine .inr ⟨hkind, rfl, ?_⟩
      intro hnone
      unfold originReason at hnone
      refine ⟨dt, hdt, ?_⟩
      by_contra htime
      rw [if_pos htime] at hnone
      exact (nomatch hnone)
    | _ => exact .inl rfl

def acceptedAfter (accepted : Option ContextInput) (isBehind : Bool) (input : ContextInput)
    (reason : Option QuarantineReason) : Option ContextInput :=
  match reason, accepted with
  | none, none => if isBehind then none else some input
  | _, _ => accepted

variable {reason : Option QuarantineReason}

/-- An input bears on its close time only. -/
theorem get?_canonical_record {store : RiContextStore} (key : ℤ) :
    (store.record H input processed (store.route input reason)).state.canonical.get? key =
      if key = input.bar.closeTimeUtc then
        acceptedAfter (store.state.canonical.get? input.bar.closeTimeUtc) (store.isBehindBarrier input)
          input reason
      else store.state.canonical.get? key := by
  by_cases hroute : store.route input reason = .contextOnly
  · obtain ⟨rfl, hnone, hbehind⟩ := route_eq_contextOnly.mp hroute
    rw [hroute, canonical_record, OrderedMap.get?_insert, hnone, hbehind]
    rfl
  · rw [canonical_record_of_ne hroute]
    split_ifs with hkey
    · rw [hkey]
      unfold acceptedAfter
      split
      · rename_i hnone
        rw [hnone]
        split_ifs with hbehind
        · rfl
        · exact absurd (route_eq_contextOnly.mpr ⟨rfl, hnone, by simpa using hbehind⟩) hroute
      · rfl
    · rfl

variable {reason' : Option QuarantineReason}

theorem Agree.after {accepted accepted' : Option ContextInput} {isBehind : Bool}
    (h : Agree input.bar.closeTimeUtc accepted accepted')
    (hreasons : ReasonsOf input reason reason') :
    Agree input.bar.closeTimeUtc (acceptedAfter accepted isBehind input reason)
      (acceptedAfter accepted' isBehind input reason') := by
  -- both arms have the same reason, or only the first refuses the origin
  rcases hreasons with rfl | ⟨horigin, hreason, hclosing⟩
  · cases reason with
    | some reason => exact h
    | none =>
      cases accepted with
      | some old =>
        cases accepted' with
        | some old' => exact h
        | none => exact absurd (h.accepted rfl) Bool.false_ne_true
      | none =>
        cases accepted' with
        | none => exact .refl
        | some old' =>
          show Agree _ (if isBehind then none else some input) (some old')
          split_ifs
          · exact h
          -- the other arm had taken over an input of the same close time
          · refine ⟨fun hother => ?_, fun _ => rfl, fun hnone => (nomatch hnone)⟩
            exact (nomatch h.same hother)
  · obtain ⟨reason, rfl⟩ := Option.isSome_iff_exists.mp hreason
    show Agree _ accepted _
    cases reason' with
    | some reason' => exact h
    | none =>
      cases accepted' with
      | some old' => exact h
      | none =>
        have hnone : accepted = none := by
          cases accepted with
          | none => rfl
          | some old => exact absurd (h.accepted rfl) Bool.false_ne_true
        rw [hnone]
        show Agree _ none (if isBehind then none else some input)
        split_ifs
        · exact .refl
        -- only the second arm takes the input over
        · refine ⟨fun hother => absurd (hclosing rfl) hother, fun hsome => (nomatch hsome), ?_⟩
          intro _ recovered hrecovered
          rw [← Option.mem_some.mp hrecovered]
          exact horigin

/-! ### Calls -/

namespace Matched

variable {date : NaiveDate} {now : ℤ} {barrier : ReceiptBarrier}

section Same

variable (h : Matched identity control candidate)
include h

theorem lastSequence : control.lastSequence = candidate.lastSequence := by
  have hlength := congrArg List.length h.journal
  rw [List.length_map, List.length_map] at hlength
  exact hlength

theorem checkClock : control.checkClock processed = candidate.checkClock processed := by
  unfold RiContextStore.checkClock
  rw [h.clock]

/-- What is known of a record is the same. -/
theorem evidence (i : ℕ) : (control.state.journal[i]?).map (·.evidence) =
    (candidate.state.journal[i]?).map (·.evidence) := by
  rw [← List.getElem?_map, ← List.getElem?_map, h.journal]

theorem isBehindBarrier : control.isBehindBarrier input = candidate.isBehindBarrier input := by
  have hany : ∀ store : RiContextStore, store.isBehindBarrier input =
      (store.state.frozen.entries.map fun entry => (entry.1, entry.2.cutoffUtc)).any fun entry =>
        input.bar.closeTimeUtc < entry.2 && input.durableAtUtc.any (· < entry.2) := by
    intro store
    unfold RiContextStore.isBehindBarrier OrderedMap.values
    rw [List.any_map, List.any_map]
    rfl
  rw [hany, hany, h.frozen]

theorem record (hreasons : ReasonsOf input reason reason') :
    Matched identity (control.record H input processed (control.route input reason))
      (candidate.record H input processed (candidate.route input reason')) where
  journal := by
    show (control.state.journal ++ [_]).map _ = (candidate.state.journal ++ [_]).map _
    rw [List.map_append, List.map_append, h.journal]
    rfl
  frozen := h.frozen
  clock := rfl
  accepted := by
    intro key
    rw [get?_canonical_record, get?_canonical_record, h.isBehindBarrier]
    split_ifs with hkey
    · rw [hkey]
      exact (h.accepted _).after hreasons
    · exact h.accepted key
  runtimeAcceptedOnly := h.runtimeAcceptedOnly
  riConfirmedClosing := h.riConfirmedClosing

theorem ingest :
    Both (fun result result' => Matched identity result.1 result'.1)
      (RiContextStore.ingest H control input processed)
      (RiContextStore.ingest H candidate input processed) := by
  unfold RiContextStore.ingest
  rw [h.checkClock]
  refine .bind_same fun _ _ => .ensure_bind fun _ => ?_
  -- both arms have seen the sequence, or neither has
  have hevidence := h.evidence (input.sequence - 1)
  cases hold : control.state.journal[input.sequence - 1]? with
  | some old =>
    cases hold' : candidate.state.journal[input.sequence - 1]? with
    | none =>
      rw [hold, hold'] at hevidence
      exact (nomatch hevidence)
    | some old' =>
      rw [hold, hold'] at hevidence
      have hsha : old.inputSha256 = old'.inputSha256 :=
        congrArg (·.2.1) (Option.some.inj hevidence)
      dsimp only
      rw [hsha]
      refine .ensure_bind fun _ => .ok ?_
      exact ⟨h.journal, h.frozen, rfl, h.accepted, h.runtimeAcceptedOnly, h.riConfirmedClosing⟩
  | none =>
    cases hold' : candidate.state.journal[input.sequence - 1]? with
    | some old' =>
      rw [hold, hold'] at hevidence
      exact (nomatch hevidence)
    | none =>
      rw [h.lastSequence, h.runtimeAcceptedOnly, h.riConfirmedClosing]
      refine .ensure_bind fun _ => .ensure_bind fun _ => ?_
      exact .bind (validateInput_both identity input processed) fun reason reason' hreasons =>
        .ok (h.record hreasons)

theorem ingressHashThrough (last : ℕ) :
    control.ingressHashThrough H last = candidate.ingressHashThrough H last := by
  have hdigests : ∀ store : RiContextStore,
      ((store.state.journal.take last).map fun record => (record.sequence, record.inputSha256)) =
        ((store.state.journal.map (·.evidence)).take last).map fun evidence =>
          (evidence.1, evidence.2.1) := by
    intro store
    rw [← List.map_take, List.map_map]
    rfl
  unfold RiContextStore.ingressHashThrough
  rw [h.lastSequence, hdigests, hdigests, h.journal]

theorem checkBarrier :
    control.checkBarrier H date now barrier = candidate.checkBarrier H date now barrier := by
  have hprocessed : ∀ store : RiContextStore,
      (store.state.journal[barrier.lastSequence - 1]?).any (fun record => record.processedAtUtc ≤ now) =
        ((store.state.journal[barrier.lastSequence - 1]?).map (·.evidence)).any fun evidence =>
          evidence.2.2 ≤ now := by
    intro store
    cases store.state.journal[barrier.lastSequence - 1]? with
    | none => rfl
    | some record => rfl
  unfold RiContextStore.checkBarrier
  rw [h.ingressHashThrough, hprocessed, hprocessed, h.evidence, h.runtimeAcceptedOnly,
    h.riConfirmedClosing]
  rfl

end Same

theorem get?_isSome (store : RiContextStore) : (store.state.frozen.get? date).isSome =
    (store.state.frozen.entries.map fun entry => (entry.1, entry.2.cutoffUtc)).any
      fun entry => entry.1 = date := by
  unfold OrderedMap.get?
  rw [Option.isSome_map, List.any_map, Bool.eq_iff_iff, List.find?_isSome, List.any_eq_true]
  rfl

theorem freeze (h : Matched identity control candidate) (hcontrol : control.Dated)
    (hcandidate : candidate.Dated) :
    Both (Matched identity) (RiContextStore.freeze H control date now barrier)
      (RiContextStore.freeze H candidate date now barrier) := by
  have hkeys : control.state.frozen.keys = candidate.state.frozen.keys := by
    have hfst := congrArg (List.map Prod.fst) h.frozen
    rw [List.map_map, List.map_map] at hfst
    exact hfst
  have hlength : control.state.frozen.length = candidate.state.frozen.length := by
    have hlengths := congrArg List.length h.frozen
    rw [List.length_map, List.length_map] at hlengths
    exact hlengths
  unfold RiContextStore.freeze
  rw [h.checkClock]
  refine .bind_same fun _ _ => ?_
  rw [get?_isSome, get?_isSome, h.frozen]
  split_ifs
  · exact .ok h
  rw [hlength, hkeys, h.lastSequence]
  refine .ensure_bind fun _ => .ensure_bind fun _ => .ensure_bind fun _ => ?_
  rw [buildFrozen_eq hcontrol, buildFrozen_eq hcandidate, h.checkBarrier]
  cases candidate.checkBarrier H date now barrier with
  | error e => exact .error e
  | ok _ =>
    refine .ok ⟨h.journal, ?_, rfl, h.accepted, h.runtimeAcceptedOnly, h.riConfirmedClosing⟩
    show (OrderedMap.insertEntries _ _ _).map _ = (OrderedMap.insertEntries _ _ _).map _
    rw [OrderedMap.map_insertEntries, OrderedMap.map_insertEntries, h.frozen]
    rw [h.runtimeAcceptedOnly, h.riConfirmedClosing]
    rfl

end Matched

/-! ### Runs -/

/-- The arms are matched, whatever they are given. -/
theorem Matched.call {run run' : Ingested} (h : Matched identity run.store run'.store)
    (hsound : run.Sound H) (hsound' : run'.Sound H) (c : StoreCall) :
    Matched identity (run.call H c).store (run'.call H c).store := by
  cases c with
  | ingest input processed =>
    have hboth : Both _ (RiContextStore.ingest H run.store input processed)
        (RiContextStore.ingest H run'.store input processed) := h.ingest
    unfold Ingested.call
    dsimp only
    revert hboth
    generalize RiContextStore.ingest H run.store input processed = outcome
    generalize RiContextStore.ingest H run'.store input processed = outcome'
    rintro (hmatched | e)
    · exact hmatched
    · exact h
  | freeze date now barrier =>
    have hboth : Both _ (RiContextStore.freeze H run.store date now barrier)
        (RiContextStore.freeze H run'.store date now barrier) :=
      h.freeze hsound.valid.dated hsound'.valid.dated
    unfold Ingested.call
    dsimp only
    revert hboth
    generalize RiContextStore.freeze H run.store date now barrier = outcome
    generalize RiContextStore.freeze H run'.store date now barrier = outcome'
    rintro (hmatched | e)
    · exact hmatched
    · exact h

theorem Matched.run {run run' : Ingested} (h : Matched identity run.store run'.store)
    (hsound : run.Sound H) (hsound' : run'.Sound H) (calls : List StoreCall) :
    Matched identity (run.run H calls).store (run'.run H calls).store := by
  induction calls generalizing run run' with
  | nil => exact h
  | cons c calls ih =>
    exact ih (h.call hsound hsound' c) (hsound.call c).1 (hsound'.call c).1

theorem new_withPolicy (h : identity.validate = .ok ()) (policy : ContextPolicy) :
    Ingested.new (identity.withPolicy policy) =
      .ok ⟨⟨checkpointVersion, identity.withPolicy policy, .empty, [], .empty, none⟩, []⟩ := by
  have hvalid : (identity.withPolicy policy).validate = .ok () := h
  unfold Ingested.new RiContextStore.new
  rw [hvalid]
  rfl

theorem Matched.new {run run' : Ingested}
    (hrun : Ingested.new (identity.withPolicy .runtimeAcceptedOnly) = .ok run)
    (hrun' : Ingested.new (identity.withPolicy .riConfirmedClosingContextV1) = .ok run') :
    Matched identity run.store run'.store := by
  obtain ⟨store, hstore, rfl⟩ := map_eq_ok.mp hrun
  obtain ⟨store', hstore', rfl⟩ := map_eq_ok.mp hrun'
  obtain ⟨_, -, hreturn⟩ := bind_eq_ok.mp hstore
  obtain ⟨_, -, hreturn'⟩ := bind_eq_ok.mp hstore'
  obtain rfl := Except.ok.inj hreturn
  obtain rfl := Except.ok.inj hreturn'
  exact ⟨rfl, rfl, rfl, fun _ => .refl, rfl, rfl⟩

/-- What two stores accepted that differ in policy only. -/
structure ArmsAgree (control candidate : RiContextStore) : Prop where
  accepted : ∀ key, (control.state.canonical.get? key).isSome = true →
    (candidate.state.canonical.get? key).isSome = true
  same : ∀ key, ¬IsClosing key →
    control.state.canonical.get? key = candidate.state.canonical.get? key
  recovered : ∀ key input, control.state.canonical.get? key = none →
    candidate.state.canonical.get? key = some input → IsClosing key ∧ input.bar.origin = .historyGap

theorem Matched.armsAgree (h : Matched identity control candidate) : ArmsAgree control candidate where
  accepted key := (h.accepted key).accepted
  same key := (h.accepted key).same
  recovered := by
    intro key input hnone hsome
    refine ⟨?_, (h.accepted key).recovered hnone input hsome⟩
    by_contra hother
    have hsame := (h.accepted key).same hother
    rw [hnone, hsome] at hsame
    exact (nomatch hsame)

end AlorRs.RiContext
