import AlorRs.StrategyRuntime.Equiv.RiContext.Store

/-!
# Correctness of the sessions of a frozen context

The anchors of a frozen context are those of the two latest of the dates whose bars make up a
complete session (`frozenOf_previous`, `frozenOf_previous2`).
-/

namespace AlorRs.RiContext

open Ascending Outcome RiContextStore

variable {H : Hashes} {identity : ContextIdentity} {date : NaiveDate}

/-! ### What the context of a date says -/

/-- The bars of a session, in the order of their close times, make it complete. -/
structure IsComplete (identity : ContextIdentity) (date : NaiveDate) (bars : List ContextInput) :
    Prop where
  length : identity.requiredBars date ≤ bars.length
  head : ∃ input dt, bars.head? = some input ∧ localTime? input.bar.closeTimeUtc = some dt ∧
    dt.time.le (time (identity.openingHour date) 10) = true
  last : ∃ input dt, bars.getLast? = some input ∧ localTime? input.bar.closeTimeUtc = some dt ∧
    (time 23 30).le dt.time = true

structure IsAnchor (bars : List ContextInput) (anchor : SessionAnchor) : Prop where
  high : IsGreatest {price | price ∈ bars.map (·.bar.h)} anchor.high
  low : IsLeast {price | price ∈ bars.map (·.bar.l)} anchor.low
  close : ∃ input, bars.getLast? = some input ∧ anchor.close = input.bar.close
  range : anchor.range = anchor.high - anchor.low
  distinctBars : anchor.distinctBars = bars.length

variable (inputs : List ContextInput)

def barsOn (date : NaiveDate) : List ContextInput :=
  inputs.filter fun input => input.day = date

/-! ### Sessions -/

def SessionBars.ofList : List ContextInput → Option SessionBars
  | [] => none
  | first :: rest => some ⟨first, rest⟩

variable {inputs : List ContextInput}

theorem SessionBars.ofList_eq_some {bars : SessionBars} :
    SessionBars.ofList inputs = some bars ↔ bars.all = inputs := by
  unfold SessionBars.all
  cases inputs with
  | nil => simp [SessionBars.ofList]
  | cons first rest =>
    constructor
    · intro h
      obtain rfl := (Option.some.inj h).symm
      rfl
    · intro h
      obtain ⟨rfl, rfl⟩ := List.cons.inj h
      rfl

theorem get?_addBar (days : OrderedMap NaiveDate SessionBars) (input : ContextInput) :
    (addBar days (input.day, input)).get? date = if date = input.day then
        match days.get? date with
        | none => some ⟨input, []⟩
        | some bars => some ⟨bars.first, bars.rest ++ [input]⟩
      else days.get? date := by
  unfold addBar
  rw [OrderedMap.get?_insert]
  split_ifs with hday
  · rw [← hday]
    cases days.get? date with
    | none => rfl
    | some bars => rfl
  · rfl

theorem get?_sessions (date : NaiveDate) :
    (sessions (inputs.map fun input => (input.day, input))).get? date =
      SessionBars.ofList (barsOn inputs date) := by
  induction inputs using List.reverseRecOn with
  | nil => rfl
  | append_singleton inputs input ih =>
    unfold sessions barsOn at *
    rw [List.map_append, List.foldl_append, List.filter_append]
    show (addBar _ (input.day, input)).get? date = _
    rw [get?_addBar, ih]
    split_ifs with hday
    · rw [List.filter_singleton, decide_eq_true hday.symm]
      cases List.filter (fun input => decide (input.day = date)) inputs with
      | nil | cons => rfl
    · rw [List.filter_singleton, decide_eq_false (Ne.symm hday), cond_false, List.append_nil]

theorem mem_sessions {bars : SessionBars} :
    (date, bars) ∈ (sessions (inputs.map fun input => (input.day, input))).entries ↔
      bars.all = barsOn inputs date := by
  rw [← OrderedMap.get?_eq_some, get?_sessions, SessionBars.ofList_eq_some]

namespace SessionBars

variable {bars : SessionBars}

theorem getLast?_all : bars.all.getLast? = some bars.last := by
  unfold all last
  rw [List.getLast?_cons]

theorem isComplete_iff :
    identity.isComplete date bars = true ↔ IsComplete identity date bars.all := by
  unfold ContextIdentity.isComplete
  simp only [Bool.and_eq_true, decide_eq_true_eq, Option.any_eq_true]
  constructor
  · rintro ⟨⟨hlength, dt, hdt, hfirst⟩, dt', hdt', hlast⟩
    exact ⟨hlength, ⟨bars.first, dt, rfl, hdt, hfirst⟩, ⟨bars.last, dt', getLast?_all, hdt', hlast⟩⟩
  · rintro ⟨hlength, ⟨first, dt, hfirst, hdt, hopen⟩, ⟨last, dt', hlast, hdt', hclose⟩⟩
    obtain rfl : bars.first = first := Option.some.inj hfirst
    obtain rfl : bars.last = last := Option.some.inj (getLast?_all.symm.trans hlast)
    exact ⟨⟨hlength, dt, hdt, hopen⟩, dt', hdt', hclose⟩

end SessionBars

theorem isGreatest_foldl_max {α : Type} [LinearOrder α] (first : α) (rest : List α) :
    IsGreatest {price | price ∈ first :: rest} (rest.foldl max first) := by
  induction rest generalizing first with
  | nil => exact ⟨List.mem_cons_self, fun price h => (List.mem_singleton.mp h).le⟩
  | cons second rest ih =>
    obtain ⟨hmem, hle⟩ := ih (max first second)
    rw [List.foldl_cons]
    constructor
    · rcases List.mem_cons.mp hmem with heq | hrest
      · rw [heq]
        rcases max_choice first second with h | h <;> simp [h]
      · exact List.mem_cons_of_mem _ (List.mem_cons_of_mem _ hrest)
    · intro price hprice
      rcases List.mem_cons.mp hprice with rfl | hprice
      · exact (le_max_left _ _).trans (hle List.mem_cons_self)
      · rcases List.mem_cons.mp hprice with rfl | hprice
        · exact (le_max_right _ _).trans (hle List.mem_cons_self)
        · exact hle (List.mem_cons_of_mem _ hprice)

theorem isAnchor_anchor (bars : SessionBars) :
    IsAnchor bars.all (anchor H identity date bars) where
  high := by
    have hgreatest := isGreatest_foldl_max bars.first.bar.h (bars.rest.map (·.bar.h))
    exact hgreatest
  low := by
    -- the least is the greatest in the dual order
    have hleast := @isGreatest_foldl_max ℚᵒᵈ _ bars.first.bar.l (bars.rest.map (·.bar.l))
    exact hleast
  close := ⟨bars.last, SessionBars.getLast?_all, rfl⟩
  range := rfl
  distinctBars := rfl

/-! ### The anchors of a frozen context -/

section Anchors

variable {inputs : List ContextInput}

def completeDates (identity : ContextIdentity) (inputs : List ContextInput) : Set NaiveDate :=
  {date | IsComplete identity date (barsOn inputs date)}

/-- A frozen context tells of the two latest complete sessions among some inputs. -/
structure FrozenContext.TellsOf (frozen : FrozenContext) (identity : ContextIdentity)
    (inputs : List ContextInput) : Prop where
  previous : IsLatest (completeDates identity inputs) (frozen.previous.map (·.sessionDate))
  previous2 : IsLatest {date | date ∈ completeDates identity inputs ∧
    ∃ anchor, frozen.previous = some anchor ∧ date < anchor.sessionDate}
      (frozen.previous2.map (·.sessionDate))
  anchors : ∀ anchor, frozen.previous = some anchor ∨ frozen.previous2 = some anchor →
    IsAnchor (barsOn inputs anchor.sessionDate) anchor

def anchorsOf (H : Hashes) (identity : ContextIdentity) (inputs : List ContextInput) :
    List SessionAnchor :=
  anchors H identity (sessions (inputs.map fun input => (input.day, input))).entries

theorem mem_anchorsOf {found : SessionAnchor} :
    found ∈ anchorsOf H identity inputs ↔
      ∃ bars : SessionBars, bars.all = barsOn inputs found.sessionDate ∧
        found.sessionDate ∈ completeDates identity inputs ∧
          found = anchor H identity found.sessionDate bars := by
  unfold anchorsOf anchors
  rw [List.mem_map]
  constructor
  · rintro ⟨day, hday, rfl⟩
    obtain ⟨hmem, hcomplete⟩ := List.mem_filter.mp hday
    have hall := mem_sessions.mp hmem
    refine ⟨day.2, hall, ?_, rfl⟩
    show IsComplete identity day.1 (barsOn inputs day.1)
    rw [← hall]
    exact SessionBars.isComplete_iff.mp hcomplete
  · rintro ⟨bars, hall, hcomplete, hanchor⟩
    refine ⟨(found.sessionDate, bars), List.mem_filter.mpr ⟨mem_sessions.mpr hall, ?_⟩,
      hanchor.symm⟩
    rw [SessionBars.isComplete_iff, hall]
    exact hcomplete

theorem mem_anchorsOf_dates :
    date ∈ (anchorsOf H identity inputs).map (·.sessionDate) ↔
      date ∈ completeDates identity inputs := by
  rw [List.mem_map]
  constructor
  · rintro ⟨found, hmem, rfl⟩
    obtain ⟨-, -, hcomplete, -⟩ := mem_anchorsOf.mp hmem
    exact hcomplete
  · intro hcomplete
    obtain ⟨input, -, hhead, -⟩ := hcomplete.head
    cases hbars : SessionBars.ofList (barsOn inputs date) with
    | none =>
      unfold SessionBars.ofList at hbars
      split at hbars
      · rename_i hnil
        rw [hnil] at hhead
        exact (nomatch hhead)
      · exact (nomatch hbars)
    | some bars =>
      refine ⟨anchor H identity date bars, mem_anchorsOf.mpr ⟨bars, ?_, hcomplete, rfl⟩, rfl⟩
      exact SessionBars.ofList_eq_some.mp hbars

theorem pairwise_anchorsOf :
    ((anchorsOf H identity inputs).map (·.sessionDate)).Pairwise (· < ·) := by
  unfold anchorsOf anchors
  rw [List.map_map, List.pairwise_map]
  exact (OrderedMap.sorted _).filter _

/-- A frozen context tells of the sessions of the inputs that it is a function of. -/
theorem tellsOf_frozenOf {now : ℤ} {barrier : ReceiptBarrier} :
    (frozenOf H identity date now barrier inputs).TellsOf identity inputs := by
  have hsorted : ((anchorsOf H identity inputs).map (·.sessionDate)).Pairwise (· < ·) :=
    pairwise_anchorsOf
  have hdates : {date | date ∈ (anchorsOf H identity inputs).map (·.sessionDate)} =
      completeDates identity inputs := Set.ext fun _ => mem_anchorsOf_dates
  refine ⟨?_, ?_, ?_⟩
  -- the latest complete date
  · have hlatest := isLatest_getLast? hsorted
    rw [hdates, List.getLast?_map] at hlatest
    exact hlatest
  -- the latest one before it
  · have hlatest := isLatest_dropLast hsorted
    rw [List.getLast?_map, ← List.map_dropLast, List.getLast?_map] at hlatest
    have hset : {date | date ∈ (anchorsOf H identity inputs).map (·.sessionDate) ∧
        ((anchorsOf H identity inputs).getLast?.map (·.sessionDate)).any (date < ·) = true} =
          {date | date ∈ completeDates identity inputs ∧ ∃ anchor,
            (anchorsOf H identity inputs).getLast? = some anchor ∧ date < anchor.sessionDate} := by
      ext date
      show _ ∧ _ ↔ _ ∧ _
      rw [mem_anchorsOf_dates, Option.any_map, Option.any_eq_true]
      simp
    rw [hset] at hlatest
    exact hlatest
  · intro found hfound
    have hmem : found ∈ anchorsOf H identity inputs := by
      rcases hfound with hprevious | hprevious2
      · exact List.mem_of_getLast? hprevious
      · exact List.mem_of_mem_dropLast (List.mem_of_getLast? hprevious2)
    obtain ⟨bars, hall, -, hanchor⟩ := mem_anchorsOf.mp hmem
    rw [← hall, hanchor]
    exact isAnchor_anchor bars

end Anchors

end AlorRs.RiContext
