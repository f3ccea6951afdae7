import AlorRs.Gateway.Idempotency
import Mathlib.Data.Finset.Card

/-!
# Correctness of the idempotency check

The store remembers only identifiers it was asked about (`checkAndSet_entries`), so a command is
answered `Duplicate` only after one with the same identifier (`consumeCommands_duplicate`).  It is
a window over the identifiers it has accepted, bounded in time and in number (`Checked.window`).
-/

namespace AlorRs

variable {store : InMemoryIdempotency}

namespace InMemoryIdempotency

variable {id : Uuid} {entries : AList fun _ : Uuid => ℤ}

theorem mem_evictExpiredLoop {now ttl : ℤ} {order : List Uuid}
    (h : id ∈ (evictExpiredLoop now ttl entries order).1) : id ∈ entries := by
  induction order generalizing entries with
  | nil => exact h
  | cons front order ih =>
    rw [evictExpiredLoop] at h
    split at h
    · exact ih h
    · split at h
      · exact AList.mem_erase.mp (ih h) |>.2
      · exact h

theorem mem_evictOverflowLoop {max : ℕ} {order : List Uuid}
    (h : id ∈ (evictOverflowLoop max entries order).1) : id ∈ entries := by
  induction order generalizing entries with
  | nil => exact h
  | cons front order ih =>
    rw [evictOverflowLoop] at h
    split at h
    · exact AList.mem_erase.mp (ih h) |>.2
    · exact h

/-- A check adds its own identifier at most. -/
theorem checkAndSet_entries {now later : ℤ} {requestId : Uuid}
    (h : id ∈ (store.checkAndSet now later requestId).1.entries) :
    id ∈ store.entries ∨ id = requestId := by
  simp only [checkAndSet] at h
  split at h
  · exact .inl (mem_evictExpiredLoop h)
  · rcases (AList.mem_insert _).mp (mem_evictOverflowLoop h) with heq | hmem
    · exact .inr heq
    · exact .inl (mem_evictExpiredLoop hmem)

/-- A check fails only for an identifier that is remembered. -/
theorem mem_of_checkAndSet_eq_false {now later : ℤ} {requestId : Uuid}
    (h : (store.checkAndSet now later requestId).2 = false) : requestId ∈ store.entries := by
  simp only [checkAndSet] at h
  split at h
  · rename_i hsome
    exact mem_evictExpiredLoop (AList.lookup_isSome.mp hsome)
  · cases h

/-! ### The window -/

structure Remembers (store : InMemoryIdempotency) (accepted : List (Uuid × ℤ)) (live : ℕ)
    (clock : ℤ) : Prop where
  live_le : live ≤ accepted.length
  order : store.order = ((accepted.take live).map Prod.fst).reverse
  nodup : ((accepted.take live).map Prod.fst).Nodup
  lookup : ∀ id at', store.entries.lookup id = some at' ↔ (id, at') ∈ accepted.take live
  recent : ∀ p ∈ accepted, p.2 ≤ clock
  sorted : ∀ {i j : ℕ} {p q : Uuid × ℤ}, i ≤ j → accepted[i]? = some p → accepted[j]? = some q →
    q.2 ≤ p.2
  gone : ∀ {i : ℕ} {p : Uuid × ℤ}, live ≤ i → accepted[i]? = some p →
    store.max ≤ i ∨ store.ttl < clock - p.2
  apart : ∀ {i j : ℕ} {p q : Uuid × ℤ}, i < j → accepted[i]? = some p → accepted[j]? = some q →
    p.1 = q.1 → store.max < j - i ∨ store.ttl < p.2 - q.2

namespace Remembers

variable {accepted : List (Uuid × ℤ)} {live : ℕ} {clock now inserted : ℤ} {p : Uuid × ℤ}

theorem wait (h : Remembers store accepted live clock) (hle : clock ≤ now) :
    Remembers store accepted live now where
  __ := h
  recent p hp := Int.le_trans (h.recent p hp) hle
  gone hi hp := (h.gone hi hp).imp_right fun hold => by omega

theorem exists_oldest (h : Remembers store accepted (live + 1) clock) :
    ∃ p, accepted[live]? = some p ∧ store.order = p.1 :: store.order.tail ∧
      store.entries.lookup p.1 = some p.2 := by
  have hget := List.getElem?_eq_getElem (Nat.lt_of_succ_le h.live_le)
  refine ⟨_, hget, ?_, (h.lookup _ _).mpr (List.mem_of_getElem? (i := live) ?_)⟩
  · rw [h.order, List.take_add_one, hget]
    simp only [Option.toList_some, List.map_append, List.map_cons, List.map_nil,
      List.reverse_append, List.reverse_singleton, List.singleton_append, List.tail_cons]
  · rw [List.getElem?_take_of_lt (Nat.lt_succ_self live), hget]

/-- The oldest identifier leaves, because it is too old or because there are too many. -/
theorem pop (h : Remembers store accepted (live + 1) clock) (hp : accepted[live]? = some p)
    (hgone : store.max ≤ live ∨ store.ttl < clock - p.2) :
    Remembers { store with entries := store.entries.erase p.1, order := store.order.tail }
      accepted live clock := by
  have htake : accepted.take (live + 1) = accepted.take live ++ [p] := by
    rw [List.take_add_one, hp, Option.toList_some]
  have hnodup := h.nodup
  rw [htake, List.map_append, List.nodup_append] at hnodup
  have hfresh : ∀ at', (p.1, at') ∉ accepted.take live := fun at' hmem =>
    hnodup.2.2 _ (List.mem_map_of_mem hmem) p.1 (by simp) rfl
  refine { h with
    live_le := (Nat.le_succ live).trans h.live_le
    order := by simp [h.order, htake]
    nodup := hnodup.1
    lookup := fun id at' => ?_
    gone := fun {i q} hi hq => ?_ }
  · by_cases hid : id = p.1
    · subst hid
      simp [hfresh]
    · have hne : (id, at') ≠ p := fun heq => hid (congrArg Prod.fst heq)
      rw [AList.lookup_erase_ne hid, h.lookup, htake]
      simp [hne]
  · rcases Nat.lt_or_eq_of_le hi with hlt | rfl
    · exact h.gone hlt hq
    · rw [hp, Option.some.injEq] at hq
      exact hq ▸ hgone

theorem evictExpired (h : Remembers store accepted live clock) :
    ∃ n ≤ live, Remembers (store.evictExpired clock) accepted n clock ∧
      ∀ i p, i < n → accepted[i]? = some p → clock - p.2 ≤ store.ttl := by
  induction live generalizing store with
  | zero =>
    have hstore : store.evictExpired clock = store := by
      have horder : store.order = [] := h.order
      cases store
      subst horder
      rfl
    exact ⟨0, le_rfl, hstore.symm ▸ h, by simp⟩
  | succ live ih =>
    obtain ⟨p, hp, horder, hlookup⟩ := h.exists_oldest
    by_cases hold : store.ttl < clock - p.2
    · obtain ⟨n, hle, hn, halive⟩ := ih (h.pop hp (.inr hold))
      refine ⟨n, Nat.le_succ_of_le hle, ?_, halive⟩
      rw [InMemoryIdempotency.evictExpired, horder]
      simpa [evictExpiredLoop, hlookup, hold, InMemoryIdempotency.evictExpired] using hn
    · have hstore : store.evictExpired clock = store := by
        rw [InMemoryIdempotency.evictExpired, horder]
        simp [evictExpiredLoop, hlookup, hold, ← horder]
      refine ⟨live + 1, le_rfl, hstore.symm ▸ h, fun i q hi hq => ?_⟩
      have hle := h.sorted (Nat.le_of_lt_succ hi) hq hp
      omega

theorem evictOverflow (h : Remembers store accepted live clock) :
    ∃ n ≤ store.max, Remembers store.evictOverflow accepted n clock := by
  induction live generalizing store with
  | zero =>
    have hstore : store.evictOverflow = store := by
      have horder : store.order = [] := h.order
      cases store
      subst horder
      rfl
    exact ⟨0, Nat.zero_le _, hstore.symm ▸ h⟩
  | succ live ih =>
    obtain ⟨p, hp, horder, -⟩ := h.exists_oldest
    have hlength : store.order.length = live + 1 := by
      simp [h.order, h.live_le]
    by_cases hmany : store.max < live + 1
    · obtain ⟨n, hmax, hn⟩ := ih (h.pop hp (.inl (Nat.le_of_lt_succ hmany)))
      refine ⟨n, hmax, ?_⟩
      rw [InMemoryIdempotency.evictOverflow, horder]
      rw [horder] at hlength
      simpa only [evictOverflowLoop, hlength, hmany, if_true, InMemoryIdempotency.evictOverflow]
        using hn
    · have hstore : store.evictOverflow = store := by
        rw [InMemoryIdempotency.evictOverflow, horder]
        rw [horder] at hlength
        simp only [evictOverflowLoop, hlength, hmany, if_false]
        rw [← horder]
      exact ⟨live + 1, Nat.le_of_not_lt hmany, hstore.symm ▸ h⟩

theorem push {requestId : Uuid} (h : Remembers store accepted live clock)
    (hfresh : store.entries.lookup requestId = none) (hle : clock ≤ inserted) :
    Remembers
      { store with
        entries := store.entries.insert requestId inserted
        order := store.order ++ [requestId] }
      ((requestId, inserted) :: accepted) (live + 1) inserted := by
  -- a fresh identifier is not among the live ones
  have hnew : ∀ at', (requestId, at') ∉ accepted.take live := fun at' hmem => by
    rw [(h.lookup _ _).mpr hmem] at hfresh
    cases hfresh
  have hrecent : ∀ p ∈ accepted, p.2 ≤ inserted := fun p hp =>
    Int.le_trans (h.recent p hp) hle
  refine
    { live_le := Nat.succ_le_succ h.live_le
      order := by simp [h.order]
      nodup := List.nodup_cons.mpr ⟨fun hmem => ?_, h.nodup⟩
      lookup := fun id at' => ?_
      recent := by simpa using hrecent
      sorted := fun {i j p q} hij hp hq => ?_
      gone := fun {i p} hi hp => ?_
      apart := fun {i j p q} hij hp hq heq => ?_ }
  · obtain ⟨p, hp, rfl⟩ := List.mem_map.mp hmem
    exact hnew p.2 hp
  · by_cases hid : id = requestId
    · subst hid
      simp [hnew, eq_comm]
    · simp [AList.lookup_insert_ne hid, h.lookup, hid]
  · cases j <;> cases i <;> simp at hij hp hq
    · rw [← hp, ← hq]
    · exact hp ▸ hrecent q (List.mem_of_getElem? hq)
    · exact h.sorted hij hp hq
  · cases i with
    | zero => cases hi
    | succ i =>
      rcases h.gone (Nat.le_of_succ_le_succ hi) hp with hmax | hold
      · exact .inl (Nat.le_succ_of_le hmax)
      · exact .inr (by dsimp only; omega)
  -- the older entry of the same identifier is no longer remembered
  · cases j with
    | zero => cases hij
    | succ j =>
      cases i with
      | zero =>
        cases hp
        have hj : live ≤ j := by
          by_contra hlt
          refine hnew q.2 (List.mem_of_getElem? (i := j) ?_)
          rw [List.getElem?_take_of_lt (Nat.lt_of_not_le hlt)]
          exact hq.trans (congrArg some (Prod.ext heq.symm rfl))
        rcases h.gone hj hq with hmax | hold
        · exact .inl (by dsimp only; omega)
        · exact .inr (by dsimp only; omega)
      | succ i =>
        rw [Nat.succ_sub_succ]
        exact h.apart (Nat.lt_of_succ_lt_succ hij) hp hq heq

/-- Up to the capacity, the identifiers accepted since one that is not too old differ from it and
from each other. -/
theorem nodup_since {i : ℕ} (h : Remembers store accepted live clock) (hp : accepted[i]? = some p)
    (hfresh : clock - p.2 ≤ store.ttl) (hmax : store.max ≤ i) :
    (((accepted.take (i + 1)).drop (i - store.max)).map Prod.fst).Nodup := by
  rw [List.nodup_iff_getElem?_ne_getElem?]
  intro a b hab hb heq
  simp only [List.length_map, List.length_drop, List.length_take] at hb
  have hget : ∀ k, k ≤ b → (((accepted.take (i + 1)).drop (i - store.max)).map Prod.fst)[k]? =
      accepted[i - store.max + k]?.map Prod.fst := fun k hk => by
    rw [List.getElem?_map, List.getElem?_drop, List.getElem?_take_of_lt (by omega)]
  rw [hget a hab.le, hget b le_rfl, List.getElem?_eq_getElem (by omega),
    List.getElem?_eq_getElem (by omega), Option.map_some, Option.map_some, Option.some.injEq]
    at heq
  set j := i - store.max + a with hj
  set k := i - store.max + b with hk
  have hjget := List.getElem?_eq_getElem (l := accepted) (i := j) (by omega)
  have hkget := List.getElem?_eq_getElem (l := accepted) (i := k) (by omega)
  have hold := h.sorted (by omega) hkget hp
  have hnew := h.recent _ (List.mem_of_getElem? hjget)
  rcases h.apart (by omega) hjget hkget heq with hfar | hlate <;> omega

/-- The number of other identifiers accepted since one that is not too old. -/
theorem max_le_card_since {i : ℕ} (h : Remembers store accepted live clock)
    (hp : accepted[i]? = some p) (hfresh : clock - p.2 ≤ store.ttl) (hmax : store.max ≤ i) :
    store.max ≤ (((accepted.take i).map Prod.fst).toFinset.erase p.1).card := by
  have hi : i < accepted.length := (List.getElem?_eq_some_iff.mp hp).1
  have htake : (accepted.take (i + 1)).drop (i - store.max) =
      (accepted.take i).drop (i - store.max) ++ [p] := by
    rw [List.take_add_one, hp, Option.toList_some, List.drop_append_of_le_length]
    simp only [List.length_take]
    omega
  have hnodup := h.nodup_since hp hfresh hmax
  rw [htake, List.map_append, List.nodup_append] at hnodup
  have hcard := List.toFinset_card_of_nodup hnodup.1
  simp only [List.length_map, List.length_drop, List.length_take] at hcard
  calc store.max
      ≤ (((accepted.take i).drop (i - store.max)).map Prod.fst).toFinset.card := by omega
    _ ≤ (((accepted.take i).map Prod.fst).toFinset.erase p.1).card :=
      Finset.card_le_card fun id hid => ?_
  rw [List.mem_toFinset] at hid
  refine Finset.mem_erase.mpr ⟨hnodup.2.2 _ hid _ (List.mem_singleton_self _), ?_⟩
  rw [List.map_drop] at hid
  exact List.mem_toFinset.mpr (List.mem_of_mem_drop hid)

/-- An identifier is refused exactly while it is in the window. -/
theorem checkAndSet_eq_false_iff {requestId : Uuid} (h : Remembers store accepted live clock)
    (hlive : live ≤ store.max) (hle : clock ≤ now) :
    (store.checkAndSet now inserted requestId).2 = false ↔
      ∃ i at', accepted[i]? = some (requestId, at') ∧ now - at' ≤ store.ttl ∧
        (((accepted.take i).map Prod.fst).toFinset.erase requestId).card < store.max := by
  -- after the expired entries are gone, the first `n` are remembered
  obtain ⟨n, hn, hevicted, halive⟩ := (h.wait hle).evictExpired
  have hfalse : (store.checkAndSet now inserted requestId).2 = false ↔
      ∃ at', (requestId, at') ∈ accepted.take n := by
    simp only [checkAndSet, ← hevicted.lookup, ← Option.isSome_iff_exists]
    split <;> simp_all
  rw [hfalse]
  constructor
  · rintro ⟨at', hmem⟩
    obtain ⟨i, hi⟩ := List.mem_iff_getElem?.mp hmem
    have hin : i < n := by
      by_contra hge
      simp [hge] at hi
    rw [List.getElem?_take_of_lt hin] at hi
    refine ⟨i, at', hi, halive i _ hin hi, ?_⟩
    -- fewer than `max` other identifiers came since
    calc (((accepted.take i).map Prod.fst).toFinset.erase requestId).card
        ≤ ((accepted.take i).map Prod.fst).toFinset.card := Finset.card_erase_le
      _ ≤ ((accepted.take i).map Prod.fst).length := List.toFinset_card_le _
      _ ≤ i := by simp
      _ < store.max := hin.trans_le (hn.trans hlive)
  · rintro ⟨i, at', hi, hfresh, hcard⟩
    refine ⟨at', List.mem_of_getElem? (i := i) ?_⟩
    rw [List.getElem?_take_of_lt, hi]
    -- an identifier that is gone was pushed out or has expired
    by_contra hge
    rcases hevicted.gone (Nat.le_of_not_lt hge) hi with hmax | hold
    · exact hcard.not_ge (hevicted.max_le_card_since hi hfresh hmax)
    · exact (not_lt.mpr hfresh) hold

theorem checkAndSet {requestId : Uuid} (h : Remembers store accepted live clock)
    (hle : clock ≤ now) (hlater : now ≤ inserted) (hlive : live ≤ store.max) :
    ∃ n ≤ store.max, Remembers (store.checkAndSet now inserted requestId).1
      (if (store.checkAndSet now inserted requestId).2 then (requestId, inserted) :: accepted
        else accepted) n inserted := by
  obtain ⟨n, hn, hevicted, -⟩ := (h.wait hle).evictExpired
  unfold InMemoryIdempotency.checkAndSet
  dsimp only
  split
  · exact ⟨n, hn.trans hlive, hevicted.wait hlater⟩
  · rename_i hnone
    exact (hevicted.push (Option.not_isSome_iff_eq_none.mp hnone) hlater).evictOverflow

end Remembers

/-- The stores that a sequence of checks leads to, with the identifiers that were accepted. -/
inductive Checked (ttl : ℤ) (max : ℕ) : InMemoryIdempotency → List (Uuid × ℤ) → ℤ → Prop
  | new (clock : ℤ) : Checked ttl max (.new ttl max) [] clock
  | check {store : InMemoryIdempotency} {accepted : List (Uuid × ℤ)} {clock now later : ℤ}
      {requestId : Uuid} (h : Checked ttl max store accepted clock) (hle : clock ≤ now)
      (hlater : now ≤ later) :
      Checked ttl max (store.checkAndSet now later requestId).1
        (if (store.checkAndSet now later requestId).2 then (requestId, later) :: accepted
          else accepted) later

variable {ttl clock : ℤ} {max : ℕ} {accepted : List (Uuid × ℤ)}

theorem Checked.remembers (h : Checked ttl max store accepted clock) :
    store.ttl = ttl ∧ store.max = max ∧ ∃ n ≤ store.max, Remembers store accepted n clock := by
  induction h with
  | new clock =>
    refine ⟨rfl, rfl, 0, Nat.zero_le _, ?_⟩
    constructor <;> simp [InMemoryIdempotency.new]
  | @check store accepted clock now later requestId _ hle hlater ih =>
    obtain ⟨httl, hmax, n, hn, hremembers⟩ := ih
    have hsame : (store.checkAndSet now later requestId).1.ttl = store.ttl ∧
        (store.checkAndSet now later requestId).1.max = store.max := by
      unfold checkAndSet
      dsimp only
      split <;> exact ⟨rfl, rfl⟩
    obtain ⟨m, hm, hnext⟩ := @Remembers.checkAndSet _ _ _ _ _ _ requestId hremembers hle hlater hn
    exact ⟨hsame.1.trans httl, hsame.2.trans hmax, m, hsame.2.symm ▸ hm, hnext⟩

/-- The queue lists the identifiers of the map in the order of their acceptance, and an identifier
is refused exactly if it was accepted at most `ttl` ago and fewer than `max` others since. -/
theorem Checked.window (h : Checked ttl max store accepted clock) :
    (store.order.Nodup ∧ (∀ id, id ∈ store.order ↔ id ∈ store.entries) ∧
      store.order.reverse <+: accepted.map Prod.fst ∧ store.order.length ≤ max) ∧
    ∀ now later requestId, clock ≤ now → ((store.checkAndSet now later requestId).2 = false ↔
        ∃ i at', accepted[i]? = some (requestId, at') ∧ now - at' ≤ ttl ∧
          (((accepted.take i).map Prod.fst).toFinset.erase requestId).card < max) := by
  obtain ⟨rfl, rfl, n, hn, hremembers⟩ := h.remembers
  refine ⟨⟨?_, fun id => ?_, ?_, ?_⟩, fun now later requestId hle =>
    hremembers.checkAndSet_eq_false_iff hn hle⟩
  · rw [hremembers.order, List.nodup_reverse]
    exact hremembers.nodup
  · rw [hremembers.order, ← AList.lookup_isSome, Option.isSome_iff_exists]
    simp [hremembers.lookup, -List.map_take]
  · rw [hremembers.order, List.reverse_reverse]
    exact (List.take_prefix _ _).map _
  · rw [hremembers.order]
    simp only [List.length_reverse, List.length_map, List.length_take]
    omega

/-- An identifier comes again half a second after its acceptance. -/
theorem Checked.window_again :
    (((InMemoryIdempotency.new 1000 2).checkAndSet 0 0 (.other 1)).1.checkAndSet 500 500
      (.other 1)).2 = false :=
  ((Checked.window (.check (.new 0) le_rfl le_rfl : Checked 1000 2 _ _ 0)).2 500 500 (.other 1)
    (by decide)).mpr ⟨0, 0, rfl, by decide, by decide⟩

end InMemoryIdempotency

/-- A command is answered `Duplicate` only if its identifier was remembered at the start or is
the one of an earlier command. -/
theorem consumeCommands_duplicate {deliveries : List CommandDelivery} {i : ℕ}
    {delivery : CommandDelivery} (hi : deliveries[i]? = some delivery)
    (hdup : (consumeCommands store deliveries).2[i]? = some true) :
    delivery.command.requestId ∈ store.entries ∨
      ∃ j earlier, j < i ∧ deliveries[j]? = some earlier ∧
        earlier.command.requestId = delivery.command.requestId := by
  induction deliveries generalizing store i with
  | nil => simp at hi
  | cons first deliveries ih =>
    simp only [consumeCommands] at hdup
    cases i with
    | zero =>
      simp only [List.getElem?_cons_zero, Option.some.injEq] at hi hdup
      subst hi
      exact .inl (InMemoryIdempotency.mem_of_checkAndSet_eq_false (Bool.not_eq_true' _ |>.mp hdup))
    | succ i =>
      rcases ih hi hdup with hmem | ⟨j, earlier, hj, hget, hid⟩
      · rcases InMemoryIdempotency.checkAndSet_entries hmem with hmem | heq
        · exact .inl hmem
        · exact .inr ⟨0, first, Nat.zero_lt_succ i, rfl, heq.symm⟩
      · exact .inr ⟨j + 1, earlier, Nat.succ_lt_succ hj, hget, hid⟩

end AlorRs
