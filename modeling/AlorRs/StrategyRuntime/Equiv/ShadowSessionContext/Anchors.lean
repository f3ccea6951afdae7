import AlorRs.StrategyRuntime.ShadowSessionContext.Store

/-!
# Anchors of the reaction shadows

The anchors before a session, when the times of all accepted bars can be represented
(`collectAnchors_eq`), and what of them does not depend on the numbers of the receipts
(`unnumbered_anchor`).
-/

namespace AlorRs.ShadowSessionContext

open Outcome Store

variable {H : Hashes} {identity : Identity} {store : Store} {day : NaiveDate} {cutoff : ℤ}

def dateOf (receipt : Receipt) : NaiveDate :=
  (localTime receipt.bar.closeTimeUtc).toOption.elim 0 (·.date)

def daysBefore (store : Store) (day : NaiveDate) (cutoff : ℤ) : List (NaiveDate × ValueGroup Receipt) :=
  (OrderedMap.group ((store.canonical.values.map fun receipt => (dateOf receipt, receipt)).filter
    (isUsed day cutoff))).entries

theorem collectAnchors_eq
    (h : ∀ receipt ∈ store.canonical.values, ∃ dt, localTime receipt.bar.closeTimeUtc = .ok dt) :
    store.collectAnchors H day cutoff =
      .ok (((daysBefore store day cutoff).filter fun day => store.identity.isComplete day.1 day.2).map
          fun day => anchor H store.identity day.1 day.2,
        ((daysBefore store day cutoff).filter fun day => !store.identity.isComplete day.1 day.2).map
          fun day => skip store.identity day.1 day.2) := by
  have hdated : store.canonical.values.mapM withDate =
      .ok (store.canonical.values.map fun receipt => (dateOf receipt, receipt)) := by
    refine mapM_of_ok ?_
    intro receipt hreceipt
    obtain ⟨dt, hdt⟩ := h receipt hreceipt
    unfold withDate dateOf
    rw [hdt]
    rfl
  unfold collectAnchors
  rw [hdated]
  rfl

/-! ### Numbers of receipts -/

def Receipt.unnumbered (receipt : Receipt) : Receipt := { receipt with sequence := 0 }

def Anchor.unnumbered (anchor : Anchor) : Anchor :=
  { anchor with
    sourceSequences := []
    sourceSha256 := "" }

variable {bars : ValueGroup Receipt} {date : NaiveDate}

theorem unnumbered_anchor :
    (anchor H identity date (bars.map Receipt.unnumbered)).unnumbered =
      (anchor H identity date bars).unnumbered := by
  unfold Anchor.unnumbered anchor
  rw [ValueGroup.last_map, ValueGroup.all_map, List.length_map]
  unfold ValueGroup.map
  simp only [List.map_map]
  rfl

theorem isComplete_unnumbered :
    identity.isComplete date (bars.map Receipt.unnumbered) = identity.isComplete date bars := by
  unfold Identity.isComplete
  rw [ValueGroup.last_map, ValueGroup.all_map, List.length_map]
  rfl

theorem skip_unnumbered :
    skip identity date (bars.map Receipt.unnumbered) = skip identity date bars := by
  unfold skip
  rw [ValueGroup.last_map, ValueGroup.all_map, List.length_map]
  rfl

theorem daysBefore_unnumbered {store' : Store}
    (h : store.canonical.values.map Receipt.unnumbered =
      store'.canonical.values.map Receipt.unnumbered) :
    (daysBefore store day cutoff).map (fun day => (day.1, day.2.map Receipt.unnumbered)) =
      (daysBefore store' day cutoff).map fun day => (day.1, day.2.map Receipt.unnumbered) := by
  have hdated : ∀ store : Store,
      (((store.canonical.values.map fun receipt => (dateOf receipt, receipt)).filter
        (isUsed day cutoff)).map fun dated => (dated.1, dated.2.unnumbered)) =
      ((store.canonical.values.map Receipt.unnumbered).map fun receipt =>
        (dateOf receipt, receipt)).filter (isUsed day cutoff) := by
    intro store
    rw [List.map_map, List.filter_map, List.filter_map, List.map_map]
    rfl
  unfold daysBefore
  rw [← OrderedMap.group_map, ← OrderedMap.group_map, hdated, hdated, h]

def unnumberedDay (day : NaiveDate × ValueGroup Receipt) : NaiveDate × ValueGroup Receipt :=
  (day.1, day.2.map Receipt.unnumbered)

/-- What is made of the days that are complete, or of those that are not, when it does not depend on
the numbers of their receipts. -/
theorem map_filter_unnumbered {V : Type} {f : NaiveDate × ValueGroup Receipt → V}
    {p : NaiveDate × ValueGroup Receipt → Bool} (hf : ∀ day, f (unnumberedDay day) = f day)
    (hp : ∀ day, p (unnumberedDay day) = p day) (days : List (NaiveDate × ValueGroup Receipt)) :
    ((days.map unnumberedDay).filter p).map f = (days.filter p).map f := by
  rw [List.filter_map, List.map_map, show p ∘ unnumberedDay = p from funext hp,
    show f ∘ unnumberedDay = f from funext hf]

/-- The anchors and the skipped days do not depend on the numbers of the receipts. -/
theorem collectAnchors_unnumbered {store' : Store}
    (h : store.canonical.values.map Receipt.unnumbered =
      store'.canonical.values.map Receipt.unnumbered)
    (hidentity : store'.identity = store.identity) {anchors : List Anchor} {skipped : List Skipped}
    (hanchors : store.collectAnchors H day cutoff = .ok (anchors, skipped)) :
    ∃ anchors', store'.collectAnchors H day cutoff = .ok (anchors', skipped) ∧
      anchors'.map Anchor.unnumbered = anchors.map Anchor.unnumbered := by
  have htimes : ∀ receipt ∈ store.canonical.values,
      ∃ dt, localTime receipt.bar.closeTimeUtc = .ok dt := by
    obtain ⟨dated, hdated, -⟩ := bind_eq_ok.mp hanchors
    intro receipt hreceipt
    obtain ⟨_, hdate⟩ := exists_of_mapM hdated receipt hreceipt
    obtain ⟨dt, hdt, -⟩ := map_eq_ok.mp hdate
    exact ⟨dt, hdt⟩
  have htimes' : ∀ receipt ∈ store'.canonical.values,
      ∃ dt, localTime receipt.bar.closeTimeUtc = .ok dt := by
    intro receipt' hreceipt'
    have hmem : receipt'.unnumbered ∈ store.canonical.values.map Receipt.unnumbered := by
      rw [h]
      exact List.mem_map_of_mem hreceipt'
    obtain ⟨receipt, hreceipt, heq⟩ := List.mem_map.mp hmem
    have hbar : receipt.unnumbered.bar = receipt'.unnumbered.bar := congrArg Receipt.bar heq
    change receipt.bar = receipt'.bar at hbar
    rw [← hbar]
    exact htimes receipt hreceipt
  have hdays : (daysBefore store day cutoff).map unnumberedDay =
      (daysBefore store' day cutoff).map unnumberedDay := daysBefore_unnumbered h
  rw [collectAnchors_eq htimes] at hanchors
  obtain ⟨rfl, rfl⟩ := Prod.mk.inj (Except.ok.inj hanchors)
  refine ⟨((daysBefore store' day cutoff).filter fun day =>
    store.identity.isComplete day.1 day.2).map fun day => anchor H store.identity day.1 day.2, ?_, ?_⟩
  · rw [collectAnchors_eq htimes', hidentity]
    refine congrArg Except.ok (Prod.ext rfl ?_)
    have hskip : ∀ day, skip store.identity (unnumberedDay day).1 (unnumberedDay day).2 =
        skip store.identity day.1 day.2 := fun _ => skip_unnumbered
    have hcomplete : ∀ day,
        (!store.identity.isComplete (unnumberedDay day).1 (unnumberedDay day).2) =
          !store.identity.isComplete day.1 day.2 := fun _ => congrArg _ isComplete_unnumbered
    show List.map _ _ = List.map _ _
    rw [← map_filter_unnumbered hskip hcomplete, ← hdays, map_filter_unnumbered hskip hcomplete]
  · have hanchor : ∀ day,
        (Anchor.unnumbered ∘ fun day : NaiveDate × ValueGroup Receipt =>
          anchor H store.identity day.1 day.2) (unnumberedDay day) =
        (Anchor.unnumbered ∘ fun day : NaiveDate × ValueGroup Receipt =>
          anchor H store.identity day.1 day.2) day := fun _ => unnumbered_anchor
    have hcomplete : ∀ day,
        store.identity.isComplete (unnumberedDay day).1 (unnumberedDay day).2 =
          store.identity.isComplete day.1 day.2 := fun _ => isComplete_unnumbered
    rw [List.map_map, List.map_map, ← map_filter_unnumbered hanchor hcomplete, ← hdays,
      map_filter_unnumbered hanchor hcomplete]

end AlorRs.ShadowSessionContext
