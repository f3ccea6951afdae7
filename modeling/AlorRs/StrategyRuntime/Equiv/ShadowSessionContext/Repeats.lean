import AlorRs.StrategyRuntime.Equiv.ShadowSessionContext.Anchors
import AlorRs.StrategyRuntime.Equiv.ShadowSessionContext.Store

/-!
# Repeated receipts

A store that was given a receipt once more goes on as one that was not (`Repeated`), but for the
numbers of the receipts that come after it.
-/

namespace AlorRs.ShadowSessionContext

open Outcome Store

variable {H : Hashes} {more less more' : Store} {receipt : Receipt} {route : Route} {now : ℤ}
  {day : NaiveDate} {barrier : Barrier} {value : Frozen}

def Frozen.unnumbered (frozen : Frozen) : Frozen :=
  { frozen with
    barrier :=
      { frozen.barrier with
        lastSequence := 0
        ingressSha256 := "" }
    previous := frozen.previous.map Anchor.unnumbered
    previous2 := frozen.previous2.map Anchor.unnumbered }

/-- Two stores that are alike, one of which was given one receipt more. -/
structure Repeated (more less : Store) : Prop where
  identity : less.identity = more.identity
  lastSequence : more.lastSequence = less.lastSequence + 1
  sources : less.sources = more.sources
  canonical : more.canonical.AgreeOn Receipt.unnumbered less.canonical
  frozen : more.frozen.AgreeOn Frozen.unnumbered less.frozen
  clock : clockLe less.clock more.clock = true

def Barrier.renumbered (H : Hashes) (less : Store) (barrier : Barrier) : Barrier :=
  { barrier with
    lastSequence := less.lastSequence
    ingressSha256 := less.ingressSha256 H }

def StoreCall.renumbered (H : Hashes) (less : Store) : StoreCall → StoreCall
  | .bootstrap receipts day now => .bootstrap receipts day now
  | .ingest receipt now => .ingest { receipt with sequence := less.lastSequence + 1 } now
  | .freeze day now barrier => .freeze day now (barrier.renumbered H less)

namespace Repeated

variable (h : Repeated more less)
include h

variable (sequence : ℕ)

theorem isBehindBarrier :
    less.isBehindBarrier { receipt with sequence := sequence } = more.isBehindBarrier receipt := by
  have hany : ∀ store : Store, ∀ receipt : Receipt, store.isBehindBarrier receipt =
      (store.frozen.values.map Frozen.unnumbered).any fun frozen =>
        receipt.bar.closeTimeUtc < frozen.cutoffUtc &&
          receipt.durableAtUtc.any (· < frozen.cutoffUtc) := by
    intro store receipt
    rw [List.any_map]
    rfl
  rw [hany, hany, h.frozen.values]

theorem quoteRoute :
    less.quoteRoute { receipt with sequence := sequence } = more.quoteRoute receipt := by
  have hfound := h.canonical.get? receipt.bar.closeTimeUtc
  unfold Store.quoteRoute
  rw [h.isBehindBarrier]
  cases hmore : more.canonical.get? receipt.bar.closeTimeUtc with
  | none =>
    cases hless : less.canonical.get? receipt.bar.closeTimeUtc with
    | none => rfl
    | some old' =>
      rw [hmore, hless] at hfound
      exact (nomatch hfound)
  | some old =>
    cases hless : less.canonical.get? receipt.bar.closeTimeUtc with
    | none =>
      rw [hmore, hless] at hfound
      exact (nomatch hfound)
    | some old' =>
      rw [hmore, hless] at hfound
      have hquote : old.unnumbered.quote = old'.unnumbered.quote :=
        congrArg Receipt.quote (Option.some.inj hfound)
      change old.quote = old'.quote at hquote
      dsimp only
      rw [hquote]
      rfl

theorem route_eq :
    less.route H { receipt with sequence := sequence } now none = more.route H receipt now none := by
  unfold Store.route
  rw [h.sources, h.identity, h.quoteRoute]
  rfl

theorem ingest (hingest : more.ingest H receipt now = .ok (more', route)) :
    ∃ less', less.ingest H { receipt with sequence := less.lastSequence + 1 } now =
      .ok (less', route) ∧ Repeated more' less' := by
  obtain ⟨hclock, hcheck, hroute, rfl⟩ := ingestInner_cases hingest
  obtain ⟨hlimit, -, hsource⟩ := checkReceipt_eq_ok.mp hcheck
  have hlast := h.lastSequence
  have hcheck' : less.checkReceipt { receipt with sequence := less.lastSequence + 1 } = .ok () :=
    checkReceipt_eq_ok.mpr ⟨by omega, rfl, hsource⟩
  refine ⟨less.record H { receipt with sequence := less.lastSequence + 1 } now route, ?_, ?_⟩
  · unfold Store.ingest Store.ingestInner
    rw [checkClock_of_le h.clock hclock]
    show less.checkReceipt _ >>= _ = _
    rw [hcheck']
    show less.route H _ now none >>= _ = _
    rw [h.route_eq, hroute]
    rfl
  · refine ⟨h.identity, ?_, ?_, ?_, h.frozen, clockLe_refl _⟩
    · show (more.inputs ++ [_]).length = (less.inputs ++ [_]).length + 1
      rw [List.length_append, List.length_append]
      show more.lastSequence + 1 = less.lastSequence + 1 + 1
      omega
    · show (if _ ∈ less.sources then less.sources else _) = _
      rw [h.sources]
      rfl
    · show OrderedMap.AgreeOn _ (if _ then _ else more.canonical) (if _ then _ else less.canonical)
      split_ifs
      · exact h.canonical.insert rfl
      · exact h.canonical

/-- The same anchors but for the numbers make what is frozen the same but for the numbers. -/
theorem frozenOf_unnumbered {anchors anchors' : List Anchor} {skipped : List Skipped}
    (hsame : anchors'.map Anchor.unnumbered = anchors.map Anchor.unnumbered) :
    (more.frozenOf H day now barrier anchors skipped).unnumbered =
      (less.frozenOf H day now (barrier.renumbered H less) anchors' skipped).unnumbered := by
  unfold Frozen.unnumbered frozenOf
  rw [h.identity, ← List.getLast?_map, ← List.getLast?_map, ← List.getLast?_map,
    ← List.getLast?_map, List.map_dropLast, List.map_dropLast, hsame]
  rfl

theorem freeze (hfreeze : more.freeze H day now barrier = .ok (more', value)) :
    ∃ less' value', less.freeze H day now (barrier.renumbered H less) = .ok (less', value') ∧
      Repeated more' less' := by
  obtain ⟨hclock, hcheck, ⟨anchors, skipped, hanchors, rfl⟩, rfl⟩ := freeze_cases hfreeze
  obtain ⟨htrading, ⟨hlimit, hnew⟩, ⟨hstream, -⟩, htimes⟩ := checkFreeze_eq_ok.mp hcheck
  have hcheck' : less.checkFreeze H day now (barrier.renumbered H less) = .ok () := by
    refine checkFreeze_eq_ok.mpr ?_
    rw [h.identity, ← h.frozen.length, ← h.frozen.keys]
    exact ⟨htrading, ⟨hlimit, hnew⟩, ⟨hstream, rfl, rfl⟩, htimes⟩
  obtain ⟨anchors', hanchors', hsame⟩ :=
    collectAnchors_unnumbered h.canonical.values h.identity hanchors
  have hbefore : less.anchorsBefore H day = .ok (anchors', skipped) := by
    unfold Store.anchorsBefore
    rw [h.identity]
    exact hanchors'
  let value := less.frozenOf H day now (barrier.renumbered H less) anchors' skipped
  refine ⟨less.recordFrozen day now value, value, ?_, ?_⟩
  · unfold Store.freeze
    rw [checkClock_of_le h.clock hclock]
    show less.checkFreeze H day now _ >>= _ = _
    rw [hcheck']
    show less.anchorsBefore H day >>= _ = _
    rw [hbefore]
    rfl
  · exact ⟨h.identity, h.lastSequence, h.sources, h.canonical,
      h.frozen.insert (h.frozenOf_unnumbered hsame), clockLe_refl _⟩

/-- What one store makes of a call, the other makes of the call with its own numbers. -/
theorem perform {c : StoreCall} (hperform : more.perform H c = .ok more') :
    ∃ less', less.perform H (c.renumbered H less) = .ok less' ∧ Repeated more' less' := by
  cases c with
  | bootstrap receipts day now =>
    have hempty := (bootstrap_cases hperform).1
    have hlast := h.lastSequence
    unfold Store.lastSequence at hlast
    rw [hempty] at hlast
    exact (nomatch hlast)
  | ingest receipt now =>
    obtain ⟨⟨_, route⟩, hingest, rfl⟩ := map_eq_ok.mp hperform
    obtain ⟨less', hless, hrepeated⟩ := h.ingest hingest
    exact ⟨less', map_eq_ok.mpr ⟨(less', route), hless, rfl⟩, hrepeated⟩
  | freeze day now barrier =>
    obtain ⟨⟨_, value⟩, hfreeze, rfl⟩ := map_eq_ok.mp hperform
    obtain ⟨less', value', hless, hrepeated⟩ := h.freeze hfreeze
    exact ⟨less', map_eq_ok.mpr ⟨(less', value'), hless, rfl⟩, hrepeated⟩

end Repeated

/-! ### Runs -/

/-- A call of a store, and with its own numbers of another one, when the first does not refuse it. -/
def callBoth (H : Hashes) (stores : Store × Store) (c : StoreCall) : Store × Store :=
  match stores.1.perform H c with
  | .ok _ => (stores.1.call H c, stores.2.call H (c.renumbered H stores.2))
  | .error _ => stores

def runBoth (H : Hashes) (stores : Store × Store) (calls : List StoreCall) : Store × Store :=
  calls.foldl (callBoth H) stores

theorem Repeated.callBoth (h : Repeated more less) (c : StoreCall) :
    Repeated (callBoth H (more, less) c).1 (callBoth H (more, less) c).2 := by
  unfold ShadowSessionContext.callBoth
  cases hperform : more.perform H c with
  | error e => exact h
  | ok more' =>
    obtain ⟨less', hless, hrepeated⟩ := h.perform hperform
    rw [call_eq, call_eq, hperform, hless]
    exact hrepeated

theorem Repeated.run (h : Repeated more less) (calls : List StoreCall) :
    Repeated (runBoth H (more, less) calls).1 (runBoth H (more, less) calls).2 := by
  induction calls generalizing more less with
  | nil => exact h
  | cons c calls ih => exact ih (h.callBoth c)

/-- A receipt that is known is a duplicate, and leaves what is accepted as it is. -/
theorem Repeated.of_known (hknown : less.sources.lookup receipt.sourceId = some (receipt.payloadHash H))
    (hingest : less.ingest H receipt now = .ok (more, route)) :
    route = .duplicate ∧ more.canonical = less.canonical ∧ Repeated more less := by
  obtain ⟨hclock, -, hroute, rfl⟩ := ingestInner_cases hingest
  have hduplicate : route = .duplicate := by
    unfold Store.route at hroute
    rw [hknown] at hroute
    exact (Except.ok.inj hroute).symm.trans (if_pos rfl)
  subst hduplicate
  have hmem : receipt.sourceId ∈ less.sources := by
    rw [← AList.lookup_isSome, hknown]
    rfl
  refine ⟨rfl, rfl, rfl, ?_, ?_, rfl, rfl, ?_⟩
  · exact List.length_append
  · exact (if_pos hmem).symm
  · exact clockLe_some (checkClock_eq_ok.mp hclock).2

end AlorRs.ShadowSessionContext
