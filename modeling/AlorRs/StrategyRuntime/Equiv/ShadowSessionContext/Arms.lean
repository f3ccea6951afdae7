import AlorRs.StrategyRuntime.Equiv.ShadowSessionContext.Anchors
import AlorRs.StrategyRuntime.Equiv.ShadowSessionContext.Checkpoint
import AlorRs.StrategyRuntime.Equiv.RiContext.Arms

/-!
# The two arms of a reaction shadow

Two stores whose identities differ only in policy are given the same calls, and none of them is
refused by one store alone.  What the candidate accepts besides is of weekends (`Paired`), which the
routes of the weekday bars do not see.
-/

namespace AlorRs.ShadowSessionContext

open Outcome Store

variable {H : Hashes} {identity : Identity} {control candidate control' candidate' : Store}
  {receipt : Receipt} {route route' : Route} {now : ℤ} {cutoff : Option ℤ} {day : NaiveDate}

def Identity.withPolicy (identity : Identity) (policy : Policy) : Identity :=
  { identity with policy := policy }

def isWeekdayTime (key : ℤ) : Bool := (localTime key).toOption.any fun dt => !isWeekend dt.date

/-- Two stores that took in the same receipts and froze the same sessions, one of them with the bars
of the weekends. -/
structure Paired (identity : Identity) (control candidate : Store) : Prop where
  inputs : control.inputs = candidate.inputs
  sources : control.sources = candidate.sources
  frozen : control.frozen.entries.map (fun entry => (entry.1, entry.2.cutoffUtc)) =
    candidate.frozen.entries.map fun entry => (entry.1, entry.2.cutoffUtc)
  keyed : ∀ entry ∈ candidate.canonical.entries,
    entry.2.bar.closeTimeUtc = entry.1 ∧ ∃ dt, localTime entry.1 = .ok dt
  accepted : ∀ key, control.canonical.get? key =
    if isWeekdayTime key then candidate.canonical.get? key else none
  weekdayOnly : control.identity = identity.withPolicy .weekdayOnly
  weekendContext : candidate.identity = identity.withPolicy .weekendContextNoTrades

/-! ### Routes -/

theorem nextTrading_withPolicy {policy : Policy} {days : ℕ} {date : NaiveDate} :
    (identity.withPolicy policy).nextTrading days date = identity.nextTrading days date := by
  induction days generalizing date with
  | zero => rfl
  | succ days ih =>
    unfold Identity.nextTrading
    rw [ih]
    rfl

theorem nextCutoff_withPolicy {policy : Policy} {date : NaiveDate} :
    (identity.withPolicy policy).nextCutoff date = identity.nextCutoff date := by
  unfold Identity.nextCutoff
  rw [nextTrading_withPolicy]
  rfl

theorem rejection_withPolicy (h : isWeekdayTime receipt.bar.closeTimeUtc = true) (policy : Policy) :
    (identity.withPolicy policy).rejection receipt now cutoff =
      identity.rejection receipt now cutoff := by
  unfold isWeekdayTime at h
  unfold Identity.rejection
  dsimp only
  cases hdt : localTime receipt.bar.closeTimeUtc with
  | error e =>
    rw [hdt] at h
    exact (nomatch h)
  | ok dt =>
    rw [hdt] at h
    have hweekday : ¬(isWeekend dt.date = true) := by
      have hnot : (!isWeekend dt.date) = true := h
      simpa using hnot
    have hskip : ∀ policy, ¬(isWeekend dt.date = true ∧ policy = Policy.weekdayOnly) :=
      fun _ hboth => hweekday hboth.1
    show (if receipt.bar.symbol ≠ identity.symbol then _ else
        if dt.date ∈ identity.excludedDates then _
        else if isWeekend dt.date = true ∧ policy = .weekdayOnly then _ else _) =
      (if receipt.bar.symbol ≠ identity.symbol then _ else
        if dt.date ∈ identity.excludedDates then _
        else if isWeekend dt.date = true ∧ identity.policy = .weekdayOnly then _ else _)
    rw [if_neg (hskip policy), if_neg (hskip identity.policy)]
    simp only [nextCutoff_withPolicy]
    rfl

/-- The control has a reason against each bar of a weekend. -/
theorem rejection_weekdayOnly {reason : Option Reject}
    (hweekend : isWeekdayTime receipt.bar.closeTimeUtc = false)
    (h : (identity.withPolicy .weekdayOnly).rejection receipt now cutoff = .ok reason) :
    reason.isSome = true := by
  unfold isWeekdayTime at hweekend
  unfold Identity.rejection at h
  by_cases hsymbol : receipt.bar.symbol ≠ identity.symbol
  · obtain rfl := Except.ok.inj ((if_pos hsymbol).symm.trans h)
    rfl
  obtain ⟨dt, hdt, hrest⟩ := bind_eq_ok.mp ((if_neg hsymbol).symm.trans h)
  rw [hdt] at hweekend
  have hday : isWeekend dt.date = true := by
    have hnot : (!isWeekend dt.date) = false := hweekend
    simpa using hnot
  by_cases hexcluded : dt.date ∈ identity.excludedDates
  · obtain rfl := Except.ok.inj ((if_pos hexcluded).symm.trans hrest)
    rfl
  · obtain rfl := Except.ok.inj ((if_pos ⟨hday, rfl⟩).symm.trans ((if_neg hexcluded).symm.trans hrest))
    rfl

namespace Paired

variable (h : Paired identity control candidate)
include h

theorem isBehindBarrier : control.isBehindBarrier receipt = candidate.isBehindBarrier receipt := by
  have hany : ∀ store : Store, store.isBehindBarrier receipt =
      (store.frozen.entries.map fun entry => (entry.1, entry.2.cutoffUtc)).any fun entry =>
        receipt.bar.closeTimeUtc < entry.2 && receipt.durableAtUtc.any (· < entry.2) := by
    intro store
    unfold Store.isBehindBarrier OrderedMap.values
    rw [List.any_map, List.any_map]
    rfl
  rw [hany, hany, h.frozen]

theorem route_eq (hweekday : isWeekdayTime receipt.bar.closeTimeUtc = true) :
    control.route H receipt now cutoff = candidate.route H receipt now cutoff := by
  have hquote : control.quoteRoute receipt = candidate.quoteRoute receipt := by
    unfold quoteRoute
    rw [h.accepted, if_pos hweekday, h.isBehindBarrier]
  unfold Store.route
  rw [h.sources, h.weekdayOnly, h.weekendContext, rejection_withPolicy hweekday,
    rejection_withPolicy hweekday, hquote]

theorem route_ne (hweekend : isWeekdayTime receipt.bar.closeTimeUtc = false)
    (hroute : control.route H receipt now cutoff = .ok route) : route ≠ .contextOnly := by
  unfold Store.route at hroute
  split at hroute
  · obtain rfl := Except.ok.inj hroute
    split_ifs <;> exact Route.noConfusion
  · obtain ⟨reason, hreason, hreturn⟩ := bind_eq_ok.mp hroute
    rw [h.weekdayOnly] at hreason
    obtain ⟨reject, rfl⟩ := Option.isSome_iff_exists.mp (rejection_weekdayOnly hweekend hreason)
    obtain rfl := Except.ok.inj hreturn
    exact Route.noConfusion

end Paired

variable {store : Store}

/-- An accepted bar has a time that can be represented. -/
theorem localTime_of_contextOnly (h : store.route H receipt now cutoff = .ok .contextOnly) :
    ∃ dt, localTime receipt.bar.closeTimeUtc = .ok dt := by
  unfold Store.route at h
  split at h
  · have hroute := Except.ok.inj h
    split_ifs at hroute
  · obtain ⟨reason, hreason, hreturn⟩ := bind_eq_ok.mp h
    cases reason with
    | some reason => exact (nomatch hreturn)
    | none =>
      unfold Identity.rejection at hreason
      by_cases hsymbol : receipt.bar.symbol ≠ store.identity.symbol
      · exact (nomatch (if_pos hsymbol).symm.trans hreason)
      · obtain ⟨dt, hdt, -⟩ := bind_eq_ok.mp ((if_neg hsymbol).symm.trans hreason)
        exact ⟨dt, hdt⟩

theorem canonical_record : (store.record H receipt now .contextOnly).canonical =
    store.canonical.insert receipt.bar.closeTimeUtc receipt := rfl

theorem canonical_record_of_ne (h : route ≠ .contextOnly) :
    (store.record H receipt now route).canonical = store.canonical :=
  if_neg (by unfold Route.contextUpdateAllowed; simpa using h)

/-! ### Calls -/

namespace Paired

/-- What the candidate accepts has the close time that it is kept under. -/
theorem keyed_record (h : Paired identity control candidate)
    (hroute : candidate.route H receipt now cutoff = .ok route) :
    ∀ entry ∈ (candidate.record H receipt now route).canonical.entries,
      entry.2.bar.closeTimeUtc = entry.1 ∧ ∃ dt, localTime entry.1 = .ok dt := by
  intro entry hentry
  by_cases hcontext : route = .contextOnly
  · subst hcontext
    rcases OrderedMap.mem_of_mem_insertEntries hentry with rfl | hmem
    · exact ⟨rfl, localTime_of_contextOnly hroute⟩
    · exact h.keyed entry hmem
  · rw [canonical_record_of_ne hcontext] at hentry
    exact h.keyed entry hentry

theorem accepted_record (h : Paired identity control candidate)
    (hroute : control.route H receipt now cutoff = .ok route)
    (hroute' : candidate.route H receipt now cutoff = .ok route') (key : ℤ) :
    (control.record H receipt now route).canonical.get? key =
      if isWeekdayTime key then (candidate.record H receipt now route').canonical.get? key
      else none := by
  cases hweekday : isWeekdayTime receipt.bar.closeTimeUtc with
  | true =>
    rw [h.route_eq hweekday, hroute'] at hroute
    obtain rfl := Except.ok.inj hroute
    by_cases hcontext : route' = .contextOnly
    · subst hcontext
      rw [canonical_record, canonical_record, OrderedMap.get?_insert, OrderedMap.get?_insert,
        h.accepted]
      by_cases hkey : key = receipt.bar.closeTimeUtc
      · rw [if_pos hkey, if_pos hkey, hkey, if_pos hweekday]
      · rw [if_neg hkey, if_neg hkey]
    · rw [canonical_record_of_ne hcontext, canonical_record_of_ne hcontext]
      exact h.accepted key
  | false =>
    rw [canonical_record_of_ne (h.route_ne hweekday hroute), h.accepted]
    by_cases hkey : isWeekdayTime key = true
    · rw [if_pos hkey, if_pos hkey]
      by_cases hcontext : route' = .contextOnly
      · subst hcontext
        rw [canonical_record, OrderedMap.get?_insert, if_neg]
        rintro rfl
        exact absurd (hkey.symm.trans hweekday) Bool.true_eq_false.mp
      · rw [canonical_record_of_ne hcontext]
    · rw [if_neg hkey, if_neg hkey]

theorem ingestInner (h : Paired identity control candidate)
    (hcontrol : control.ingestInner H receipt now cutoff = .ok (control', route))
    (hcandidate : candidate.ingestInner H receipt now cutoff = .ok (candidate', route')) :
    Paired identity control' candidate' := by
  obtain ⟨-, -, hroute, rfl⟩ := ingestInner_cases hcontrol
  obtain ⟨-, -, hroute', rfl⟩ := ingestInner_cases hcandidate
  refine ⟨?_, ?_, h.frozen, h.keyed_record hroute', h.accepted_record hroute hroute',
    h.weekdayOnly, h.weekendContext⟩
  · show control.inputs ++ [receipt] = candidate.inputs ++ [receipt]
    rw [h.inputs]
  · show (if _ ∈ control.sources then control.sources else _) = _
    rw [h.sources]
    rfl

variable {receipts : List Receipt}

theorem bootstrapAll {identity₁ identity₂ : Identity} (h : Paired identity control candidate)
    (hcutoff : identity₁.cutoff day = identity₂.cutoff day)
    (hcontrol : Store.bootstrapAll H identity₁ day now receipts control = .ok control')
    (hcandidate : Store.bootstrapAll H identity₂ day now receipts candidate = .ok candidate') :
    Paired identity control' candidate' := by
  induction receipts generalizing control candidate with
  | nil =>
    obtain rfl := Except.ok.inj hcontrol
    obtain rfl := Except.ok.inj hcandidate
    exact h
  | cons receipt receipts ih =>
    obtain ⟨_, -, hcontrol⟩ := bind_eq_ok.mp hcontrol
    obtain ⟨_, -, hcandidate⟩ := bind_eq_ok.mp hcandidate
    obtain ⟨⟨staged, route⟩, hingest, hcontrol⟩ := bind_eq_ok.mp hcontrol
    obtain ⟨⟨staged', route'⟩, hingest', hcandidate⟩ := bind_eq_ok.mp hcandidate
    obtain ⟨-, hcontrol⟩ := ensure_bind_eq_ok.mp hcontrol
    obtain ⟨-, hcandidate⟩ := ensure_bind_eq_ok.mp hcandidate
    rw [hcutoff] at hingest
    exact ih (h.ingestInner hingest hingest') hcontrol hcandidate

theorem bootstrap (h : Paired identity control candidate)
    (hcontrol : control.bootstrap H receipts day now = .ok control')
    (hcandidate : candidate.bootstrap H receipts day now = .ok candidate') :
    Paired identity control' candidate' := by
  obtain ⟨staged, hall, rfl⟩ := bootstrap_staged hcontrol
  obtain ⟨staged', hall', rfl⟩ := bootstrap_staged hcandidate
  have hcutoff : control.identity.cutoff day = candidate.identity.cutoff day := by
    rw [h.weekdayOnly, h.weekendContext]
    rfl
  have hstaged := h.bootstrapAll hcutoff hall hall'
  exact ⟨hstaged.inputs, hstaged.sources, hstaged.frozen, hstaged.keyed, hstaged.accepted,
    hstaged.weekdayOnly, hstaged.weekendContext⟩

theorem freeze {barrier : Barrier} {value value' : Frozen} (h : Paired identity control candidate)
    (hcontrol : control.freeze H day now barrier = .ok (control', value))
    (hcandidate : candidate.freeze H day now barrier = .ok (candidate', value')) :
    Paired identity control' candidate' := by
  obtain ⟨-, -, ⟨_, _, -, rfl⟩, rfl⟩ := freeze_cases hcontrol
  obtain ⟨-, -, ⟨_, _, -, rfl⟩, rfl⟩ := freeze_cases hcandidate
  refine ⟨h.inputs, h.sources, ?_, h.keyed, h.accepted, h.weekdayOnly, h.weekendContext⟩
  show (OrderedMap.insertEntries _ _ _).map _ = (OrderedMap.insertEntries _ _ _).map _
  rw [OrderedMap.map_insertEntries, OrderedMap.map_insertEntries, h.frozen]
  unfold frozenOf
  rw [h.weekdayOnly, h.weekendContext]
  rfl

theorem call (h : Paired identity control candidate) (c : StoreCall)
    (halike : (control.perform H c).isOk = (candidate.perform H c).isOk) :
    Paired identity (control.call H c) (candidate.call H c) := by
  rw [call_eq, call_eq]
  cases hcontrol : control.perform H c with
  | error e =>
    cases hcandidate : candidate.perform H c with
    | error e' => exact h
    | ok candidate' =>
      rw [hcontrol, hcandidate] at halike
      exact (nomatch halike)
  | ok control' =>
    cases hcandidate : candidate.perform H c with
    | error e' =>
      rw [hcontrol, hcandidate] at halike
      exact (nomatch halike)
    | ok candidate' =>
      cases c with
      | bootstrap receipts day now => exact h.bootstrap hcontrol hcandidate
      | ingest receipt now =>
        obtain ⟨⟨_, route⟩, hingest, rfl⟩ := map_eq_ok.mp hcontrol
        obtain ⟨⟨_, route'⟩, hingest', rfl⟩ := map_eq_ok.mp hcandidate
        exact h.ingestInner hingest hingest'
      | freeze day now barrier =>
        obtain ⟨⟨_, value⟩, hfreeze, rfl⟩ := map_eq_ok.mp hcontrol
        obtain ⟨⟨_, value'⟩, hfreeze', rfl⟩ := map_eq_ok.mp hcandidate
        exact h.freeze hfreeze hfreeze'

end Paired

/-! ### Runs -/

namespace Store

def run (H : Hashes) (store : Store) (calls : List StoreCall) : Store := calls.foldl (call H) store

def Alike (H : Hashes) : Store → Store → List StoreCall → Prop
  | _, _, [] => True
  | control, candidate, c :: calls =>
    (control.perform H c).isOk = (candidate.perform H c).isOk ∧
      Alike H (control.call H c) (candidate.call H c) calls

end Store

theorem Paired.run (h : Paired identity control candidate) {calls : List StoreCall}
    (halike : Alike H control candidate calls) :
    Paired identity (control.run H calls) (candidate.run H calls) := by
  induction calls generalizing control candidate with
  | nil => exact h
  | cons c calls ih => exact ih (h.call c halike.1) halike.2

theorem Paired.new (hcontrol : Store.new (identity.withPolicy .weekdayOnly) = .ok control)
    (hcandidate : Store.new (identity.withPolicy .weekendContextNoTrades) = .ok candidate) :
    Paired identity control candidate := by
  obtain ⟨-, rfl⟩ := new_eq_ok.mp hcontrol
  obtain ⟨-, rfl⟩ := new_eq_ok.mp hcandidate
  refine ⟨rfl, rfl, rfl, fun entry hentry => absurd hentry List.not_mem_nil, ?_, rfl, rfl⟩
  intro key
  split_ifs <;> rfl

/-! ### Anchors -/

namespace Paired

variable (h : Paired identity control candidate)
include h

/-- What the control accepted is what the candidate accepted of the weekdays. -/
theorem canonical_entries : control.canonical.entries =
    candidate.canonical.entries.filter fun entry => isWeekdayTime entry.1 := by
  refine Ascending.eq_of_mem_iff control.canonical.sorted (candidate.canonical.sorted.filter _) ?_
  rintro ⟨key, receipt⟩
  rw [List.mem_filter, ← OrderedMap.get?_eq_some, ← OrderedMap.get?_eq_some, h.accepted]
  split_ifs with hweekday
  · exact ⟨fun hsome => ⟨hsome, hweekday⟩, fun hboth => hboth.1⟩
  · exact ⟨fun hnone => (nomatch hnone), fun hboth => absurd hboth.2 hweekday⟩

theorem localTime_of_mem : ∀ receipt ∈ candidate.canonical.values,
    ∃ dt, localTime receipt.bar.closeTimeUtc = .ok dt := by
  intro receipt hreceipt
  obtain ⟨entry, hentry, rfl⟩ := List.mem_map.mp hreceipt
  obtain ⟨hkey, hdt⟩ := h.keyed entry hentry
  rw [hkey]
  exact hdt

theorem canonical_values : control.canonical.values =
    candidate.canonical.values.filter fun receipt => !isWeekend (dateOf receipt) := by
  unfold OrderedMap.values
  rw [h.canonical_entries, List.filter_map]
  refine congrArg (List.map Prod.snd) (List.filter_congr ?_)
  intro entry hentry
  obtain ⟨hkey, dt, hdt⟩ := h.keyed entry hentry
  unfold isWeekdayTime dateOf
  rw [Function.comp, hkey, hdt]
  rfl

theorem daysBefore_eq (cutoff : ℤ) : daysBefore control day cutoff =
    (daysBefore candidate day cutoff).filter fun day => !isWeekend day.1 := by
  have hdated : (control.canonical.values.map fun receipt => (dateOf receipt, receipt)) =
      (candidate.canonical.values.map fun receipt => (dateOf receipt, receipt)).filter
        fun dated => !isWeekend dated.1 := by
    rw [h.canonical_values, List.filter_map]
    rfl
  unfold daysBefore
  rw [hdated, ← OrderedMap.group_filter _ fun date => !isWeekend date, List.filter_filter,
    List.filter_filter]
  simp only [Bool.and_comm]

/-- The anchors of the control are those of the candidate that are of weekdays. -/
theorem anchorsBefore : ∃ anchors skipped,
    candidate.anchorsBefore H day = .ok (anchors, skipped) ∧
      control.anchorsBefore H day = .ok (anchors.filter fun anchor => !isWeekend anchor.sessionDate,
        skipped.filter fun skipped => !isWeekend skipped.sessionDate) := by
  have hcontrol : ∀ receipt ∈ control.canonical.values,
      ∃ dt, localTime receipt.bar.closeTimeUtc = .ok dt := by
    intro receipt hreceipt
    rw [h.canonical_values] at hreceipt
    exact h.localTime_of_mem receipt (List.mem_filter.mp hreceipt).1
  refine ⟨_, _, collectAnchors_eq h.localTime_of_mem, ?_⟩
  unfold Store.anchorsBefore
  rw [collectAnchors_eq hcontrol, h.daysBefore_eq, h.weekdayOnly, h.weekendContext, List.filter_map,
    List.filter_map]
  refine congrArg Except.ok (Prod.ext ?_ ?_) <;>
    exact congrArg (List.map _) (List.filter_comm _ _ _)

end Paired

/-- What two stores accepted, and what anchors they find, that differ in policy only. -/
structure ArmsAgree (H : Hashes) (control candidate : Store) : Prop where
  weekdays : control.canonical.values =
    candidate.canonical.values.filter fun receipt => !isWeekend (dateOf receipt)
  anchors : ∀ day, ∃ anchors skipped,
    candidate.anchorsBefore H day = .ok (anchors, skipped) ∧
      control.anchorsBefore H day = .ok (anchors.filter fun anchor => !isWeekend anchor.sessionDate,
        skipped.filter fun skipped => !isWeekend skipped.sessionDate)

/-- The arms of a comparison differ only where their policies say, as long as no call is refused by
one of the two stores of a reaction shadow alone. -/
theorem arms_differ_by_policy (H : RiContext.Hashes) (H' : Hashes)
    {riIdentity : RiContext.ContextIdentity} {identity : Identity} {run run' : RiContext.Ingested}
    {control candidate : Store}
    (hrun : RiContext.Ingested.new (riIdentity.withPolicy .runtimeAcceptedOnly) = .ok run)
    (hrun' : RiContext.Ingested.new (riIdentity.withPolicy .riConfirmedClosingContextV1) = .ok run')
    (hcontrol : Store.new (identity.withPolicy .weekdayOnly) = .ok control)
    (hcandidate : Store.new (identity.withPolicy .weekendContextNoTrades) = .ok candidate) :
    (∀ calls, RiContext.ArmsAgree (run.run H calls).store (run'.run H calls).store) ∧
      ∀ calls, Alike H' control candidate calls →
        ArmsAgree H' (control.run H' calls) (candidate.run H' calls) := by
  constructor
  · intro calls
    have hmatched := RiContext.Matched.new hrun hrun'
    exact (hmatched.run (.new hrun) (.new hrun') calls).armsAgree
  · intro calls halike
    have hpaired := (Paired.new hcontrol hcandidate).run halike
    exact ⟨hpaired.canonical_values, fun day => hpaired.anchorsBefore⟩

/-! ### Sample runs -/

namespace Sample

def lastIdentity : Identity := { Sample.identity with excludedDates := {maxDate} }

def bar (sequence : ℕ) (closeTime : ℤ) : Receipt where
  sequence := sequence
  sourceId := toString sequence
  bar := {
    symbol := "IMOEXF"
    closeTimeUtc := closeTime
    close := 100
    o := 100
    h := 101
    l := 99
    v := 1
    origin := .live }
  receivedAtUtc := some (closeTime + 600)
  durableAtUtc := some (closeTime + 600)

def tenOClock (date : NaiveDate) : ℤ := date * daySeconds + 36000 - 10800

def calls : List StoreCall :=
  [.ingest (bar 1 (tenOClock (.fromYmd 2026 7 5))) (tenOClock (.fromYmd 2026 7 5) + 600),
    .ingest (bar 2 (tenOClock (.fromYmd 2026 7 8))) (tenOClock (.fromYmd 2026 7 8) + 600)]

def lastCalls : List StoreCall :=
  [.ingest (bar 1 (tenOClock (maxDate - 1))) (tenOClock (maxDate - 1) + 600),
    .ingest (bar 2 (tenOClock (.fromYmd 2026 7 8))) (tenOClock (maxDate - 1) + 600)]

theorem new_withPolicy {identity : Identity} (h : identity.validate = .ok ()) (policy : Policy) :
    Store.new (identity.withPolicy policy) = .ok (start (identity.withPolicy policy)) :=
  new_eq_ok.mpr ⟨h, rfl⟩

end Sample

theorem arms_differ_by_policy_sunday :
    ArmsAgree Sample.hashes
      ((start (Sample.identity.withPolicy .weekdayOnly)).run Sample.hashes Sample.calls)
      ((start (Sample.identity.withPolicy .weekendContextNoTrades)).run Sample.hashes
        Sample.calls) := by
  have hvalid : Sample.identity.validate = .ok () := by decide +kernel
  have hri : RiContext.Sample.identity.validate = .ok () := by decide +kernel
  refine (arms_differ_by_policy RiContext.Sample.hashes Sample.hashes
    (RiContext.new_withPolicy hri _) (RiContext.new_withPolicy hri _)
    (Sample.new_withPolicy hvalid _) (Sample.new_withPolicy hvalid _)).2 Sample.calls ?_
  exact ⟨by decide +kernel, by decide +kernel, trivial⟩

/-- A bar of the last weekend is refused by one store alone, which then misses a number. -/
theorem not_arms_alike :
    ¬∀ (H : Hashes) (identity : Identity) (control candidate : Store),
      Store.new (identity.withPolicy .weekdayOnly) = .ok control →
        Store.new (identity.withPolicy .weekendContextNoTrades) = .ok candidate →
          ∀ calls, ArmsAgree H (control.run H calls) (candidate.run H calls) := by
  intro hall
  have hvalid : Sample.lastIdentity.validate = .ok () := by decide +kernel
  have hagree := hall Sample.hashes Sample.lastIdentity _ _ (Sample.new_withPolicy hvalid .weekdayOnly)
    (Sample.new_withPolicy hvalid .weekendContextNoTrades) Sample.lastCalls
  have hlength := congrArg List.length hagree.weekdays
  revert hlength
  decide +kernel

end AlorRs.ShadowSessionContext
