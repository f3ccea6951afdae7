import AlorRs.Lib.OrderedMap
import Mathlib.Algebra.BigOperators.Group.List.Basic
import Mathlib.Data.List.Induction

/-!
# Rows by key

A table keeps one row for each key, in the order of the keys.  Each item is added to the row of its
key, and the first item of a key starts its row.  The row of a key depends on the items of that key
(`get?_addAll`), and a sum over the rows is a sum over the items (`total_addAll`).
-/

namespace OrderedMap

variable {K V α : Type} [LinearOrder K]

def alter (m : OrderedMap K V) (key : K) (f : Option V → V) : OrderedMap K V :=
  m.insert key (f (m.get? key))

def addAll (key : α → K) (add : Option V → α → V) (m : OrderedMap K V) (items : List α) :
    OrderedMap K V :=
  items.foldl (fun m item => m.alter (key item) fun row => add row item) m

section Rows

variable {m m' : OrderedMap K V}

theorem get?_alter (k k' : K) (f : Option V → V) :
    (m.alter k f).get? k' = if k' = k then some (f (m.get? k)) else m.get? k' := get?_insert

@[simp]
theorem get?_empty (k : K) : (empty : OrderedMap K V).get? k = none := rfl

variable (key : α → K) (add : Option V → α → V)

theorem get?_addAll (items : List α) (k : K) :
    (addAll key add m items).get? k =
      (items.filter fun item => key item = k).foldl (fun row item => some (add row item))
        (m.get? k) := by
  induction items generalizing m with
  | nil => rfl
  | cons item items ih =>
    show (addAll key add (m.alter (key item) fun row => add row item) items).get? k = _
    rw [ih, get?_alter, List.filter_cons]
    by_cases hkey : key item = k
    · simp [hkey]
    · simp [hkey, Ne.symm hkey]

/-- The keys with rows are those of the items, and those that had rows before. -/
theorem isSome_get?_addAll (items : List α) (k : K) :
    ((addAll key add m items).get? k).isSome = true ↔
      (m.get? k).isSome = true ∨ ∃ item ∈ items, key item = k := by
  induction items generalizing m with
  | nil => simp [addAll]
  | cons item items ih =>
    show ((addAll key add (m.alter (key item) fun row => add row item) items).get? k).isSome = true ↔
      _
    simp only [ih, get?_alter, List.exists_mem_cons_iff]
    by_cases hkey : key item = k
    · simp [hkey]
    · simp [hkey, Ne.symm hkey]

/-- The rows of some keys are those of the items of these keys. -/
theorem filter_entries_addAll (items : List α) (p : K → Bool) :
    (addAll key add empty items).entries.filter (fun entry => p entry.1) =
      (addAll key add empty (items.filter fun item => p (key item))).entries := by
  refine Ascending.eq_of_mem_iff ((addAll key add empty items).sorted.filter _)
    (addAll key add empty _).sorted ?_
  rintro ⟨k, row⟩
  rw [List.mem_filter, ← get?_eq_some, ← get?_eq_some, get?_addAll, get?_addAll,
    List.filter_filter]
  by_cases hp : p k = true
  · have hfilter : (items.filter fun item => decide (key item = k) && p (key item)) =
        items.filter fun item => key item = k := by
      refine List.filter_congr ?_
      intro item _
      by_cases hkey : key item = k
      · simp [hkey, hp]
      · simp [hkey]
    rw [hfilter]
    exact and_iff_left hp
  · have hfilter : (items.filter fun item => decide (key item = k) && p (key item)) = [] := by
      refine List.filter_eq_nil_iff.mpr ?_
      intro item _ hitem
      rw [Bool.and_eq_true, decide_eq_true_iff] at hitem
      exact hp (hitem.1 ▸ hitem.2)
    rw [hfilter]
    exact ⟨fun h => absurd h.2 hp, fun h => nomatch h⟩

end Rows

/-! ### Lists made from the entries -/

section FlatMap

variable {β : Type} {m : OrderedMap K V} {g : K × V → List β}

theorem filter_entries_eq (k : K) :
    m.entries.filter (fun entry => entry.1 = k) = (m.get? k).elim [] fun value => [(k, value)] := by
  have hsorted : ((m.get? k).elim [] fun value => [(k, value)]).Pairwise
      fun a b : K × V => a.1 < b.1 := by
    cases m.get? k with
    | none => exact List.Pairwise.nil
    | some value => exact List.pairwise_singleton _ _
  refine Ascending.eq_of_mem_iff (m.sorted.filter _) hsorted ?_
  rintro ⟨k', value⟩
  rw [List.mem_filter, decide_eq_true_iff, ← get?_eq_some]
  constructor
  · rintro ⟨hvalue, rfl⟩
    rw [hvalue]
    exact List.mem_singleton_self _
  · intro hmem
    cases hvalue : m.get? k with
    | none =>
      rw [hvalue] at hmem
      exact absurd hmem List.not_mem_nil
    | some value' =>
      rw [hvalue] at hmem
      obtain ⟨rfl, rfl⟩ := Prod.mk.inj (List.mem_singleton.mp hmem)
      exact ⟨hvalue, rfl⟩

/-- Where each entry makes things of its key, those of a key are made by its entry. -/
theorem filter_flatMap_entries {key : β → K} (hkey : ∀ entry ∈ m.entries, ∀ x ∈ g entry,
    key x = entry.1) (k : K) :
    (m.entries.flatMap g).filter (fun x => key x = k) =
      (m.get? k).elim [] fun value => g (k, value) := by
  have hfilter : ∀ entries : List (K × V), (∀ entry ∈ entries, ∀ x ∈ g entry, key x = entry.1) →
      (entries.flatMap g).filter (fun x => key x = k) =
        (entries.filter fun entry => entry.1 = k).flatMap g := by
    intro entries
    induction entries with
    | nil => exact fun _ => rfl
    | cons entry entries ih =>
      intro hentries
      obtain ⟨hentry, hrest⟩ := List.forall_mem_cons.mp hentries
      rw [List.flatMap_cons, List.filter_append, ih hrest, List.filter_cons]
      split_ifs with hk
      · have hall : (g entry).filter (fun x => key x = k) = g entry :=
          List.filter_eq_self.mpr fun x hx => by rw [hentry x hx]; exact hk
        rw [List.flatMap_cons, hall]
      · have hnone : (g entry).filter (fun x => key x = k) = [] :=
          List.filter_eq_nil_iff.mpr fun x hx => by rw [hentry x hx]; exact hk
        rw [hnone, List.nil_append]
  rw [hfilter _ hkey, filter_entries_eq]
  cases m.get? k with
  | none => rfl
  | some value => exact List.append_nil _

/-- What the entries make, one after another, is known from what each key makes. -/
theorem flatMap_entries_congr {m' : OrderedMap K V} {g' : K × V → List β}
    (h : ∀ k, ((m.get? k).elim [] fun value => g (k, value)) =
      (m'.get? k).elim [] fun value => g' (k, value)) :
    m.entries.flatMap g = m'.entries.flatMap g' := by
  -- only the keys that make something count
  have hmade : ∀ (m : OrderedMap K V) (g : K × V → List β), ∃ made : List (K × List β),
      made.Pairwise (fun a b => a.1 < b.1) ∧ m.entries.flatMap g = made.flatMap Prod.snd ∧
      ∀ entry, entry ∈ made ↔
        entry.2 ≠ [] ∧ ((m.get? entry.1).elim [] fun value => g (entry.1, value)) = entry.2 := by
    intro m g
    refine ⟨(m.entries.map fun entry => (entry.1, g entry)).filter fun entry => !entry.2.isEmpty,
      ?_, ?_, ?_⟩
    · have hkeys : (m.entries.map fun entry => (entry.1, g entry)).Pairwise fun a b => a.1 < b.1 :=
        List.pairwise_map.mpr m.sorted
      exact hkeys.filter _
    · induction m.entries with
      | nil => rfl
      | cons entry entries ih =>
        rw [List.flatMap_cons, ih, List.map_cons, List.filter_cons]
        cases hg : g entry with
        | nil | cons => simp
    · rintro ⟨k, made⟩
      simp only [List.mem_filter, List.mem_map, Bool.not_eq_true', List.isEmpty_eq_false_iff]
      constructor
      · rintro ⟨⟨⟨k', value⟩, hmem, heq⟩, hne⟩
        obtain ⟨rfl, rfl⟩ := Prod.mk.inj heq
        rw [get?_eq_some.mpr hmem]
        exact ⟨hne, rfl⟩
      · rintro ⟨hne, heq⟩
        cases hvalue : m.get? k with
        | none =>
          rw [hvalue] at heq
          exact absurd heq.symm hne
        | some value =>
          rw [hvalue] at heq
          exact ⟨⟨(k, value), get?_eq_some.mp hvalue, Prod.ext rfl heq⟩, hne⟩
  -- both lists are ascending with the same members
  obtain ⟨made, hsorted, hflat, hmem⟩ := hmade m g
  obtain ⟨made', hsorted', hflat', hmem'⟩ := hmade m' g'
  have hsame : made = made' := by
    refine Ascending.eq_of_mem_iff hsorted hsorted' ?_
    intro entry
    rw [hmem, hmem', h]
  rw [hflat, hflat', hsame]

end FlatMap

/-! ### Values made from the entries before a key -/

variable {entries : List (K × V)}

section Scan

variable {σ W : Type} {out : σ → OrderedMap K W} {step : σ → K × V → σ} {start : σ}
  {f : List (K × V) → Option W}

/-- A scan that gives each key a value made from the entries before it, if there is one. -/
structure Scans (out : σ → OrderedMap K W) (step : σ → K × V → σ) (start : σ)
    (f : List (K × V) → Option W) : Prop where
  empty_start : out start = empty
  insert_step : ∀ before entry, out (step (before.foldl step start) entry) =
    (f before).elim (out (before.foldl step start)) ((out (before.foldl step start)).insert entry.1)

theorem Scans.get?_foldl (h : Scans out step start f) (k : K)
    (hsorted : entries.Pairwise fun a b => a.1 < b.1) :
    (out (entries.foldl step start)).get? k =
      if k ∈ entries.map Prod.fst then f (entries.filter fun entry => entry.1 < k) else none := by
  induction entries using List.reverseRecOn with
  | nil =>
    show (out start).get? k = none
    rw [h.empty_start]
    rfl
  | append_singleton before entry ih =>
    obtain ⟨hbefore, _, hlast⟩ := List.pairwise_append.mp hsorted
    have hlt : ∀ e ∈ before, e.1 < entry.1 := fun e he => hlast e he entry List.mem_cons_self
    -- the last key is larger than those before
    have hnew : entry.1 ∉ before.map Prod.fst := by
      intro hmem
      obtain ⟨e, he, heq⟩ := List.mem_map.mp hmem
      exact (hlt e he).ne heq
    rw [List.foldl_append, List.map_append, List.filter_append]
    show (out (step (before.foldl step start) entry)).get? k = _
    rw [h.insert_step]
    by_cases hk : k = entry.1
    · subst hk
      have hall : before.filter (fun e => e.1 < entry.1) = before :=
        List.filter_eq_self.mpr fun e he => by simpa using hlt e he
      have hnone := ih hbefore
      rw [if_neg hnew] at hnone
      rw [if_pos (by simp), hall, List.filter_singleton]
      simp only [lt_irrefl, decide_false, cond_false, List.append_nil]
      cases f before with
      | none => exact hnone
      | some value =>
        show ((out _).insert entry.1 value).get? entry.1 = _
        rw [get?_insert, if_pos rfl]
    -- another key is as it was
    · have hget : ((f before).elim (out (before.foldl step start))
          ((out (before.foldl step start)).insert entry.1)).get? k =
            (out (before.foldl step start)).get? k := by
        cases f before with
        | none => rfl
        | some value =>
          show ((out _).insert entry.1 value).get? k = _
          rw [get?_insert, if_neg hk]
      rw [hget, ih hbefore]
      by_cases hmem : k ∈ before.map Prod.fst
      · obtain ⟨e, he, rfl⟩ := List.mem_map.mp hmem
        rw [if_pos hmem, if_pos (List.mem_append_left _ hmem), List.filter_singleton]
        simp [(hlt e he).not_gt]
      · rw [if_neg hmem, if_neg]
        simp only [List.mem_append, List.map_cons, List.map_nil, List.mem_singleton, not_or]
        exact ⟨hmem, hk⟩

/-- The value of a key that the map has is made from the entries before it. -/
theorem Scans.get?_eq (h : Scans out step start f) (m : OrderedMap K V) (k : K) :
    (out (m.entries.foldl step start)).get? k =
      if (m.get? k).isSome then f (m.entries.filter fun entry => entry.1 < k) else none := by
  have hkeys : (m.get? k).isSome = true ↔ k ∈ m.entries.map Prod.fst := by
    rw [Option.isSome_iff_exists, List.mem_map]
    constructor
    · rintro ⟨value, hvalue⟩
      exact ⟨(k, value), get?_eq_some.mp hvalue, rfl⟩
    · rintro ⟨⟨_, value⟩, hmem, rfl⟩
      exact ⟨value, get?_eq_some.mpr hmem⟩
  rw [h.get?_foldl k m.sorted]
  exact if_congr hkeys.symm rfl rfl

end Scan

/-! ### Sums over the rows -/

section Total

variable {M : Type} [AddCommMonoid M] (f : V → M)

def total (m : OrderedMap K V) : M := (m.values.map f).sum

@[simp]
theorem total_empty : (empty : OrderedMap K V).total f = 0 := rfl

theorem sum_insertEntries {k : K} {value : V} {x : M} (h : entries.Pairwise fun a b => a.1 < b.1)
    (hvalue : f value =
      ((entries.find? fun entry => entry.1 = k).map fun entry => f entry.2).getD 0 + x) :
    ((insertEntries k value entries).map fun entry => f entry.2).sum =
      (entries.map fun entry => f entry.2).sum + x := by
  induction entries with
  | nil => simpa [insertEntries] using hvalue
  | cons head entries ih =>
    obtain ⟨hhead, hentries⟩ := List.pairwise_cons.mp h
    unfold insertEntries
    split_ifs with hlt heq
    · have hnone : (head :: entries).find? (fun entry => entry.1 = k) = none := by
        refine List.find?_eq_none.mpr ?_
        intro entry hentry
        rcases List.mem_cons.mp hentry with rfl | hmem
        · simpa using hlt.ne'
        · simpa using (hlt.trans (hhead entry hmem)).ne'
      rw [hnone] at hvalue
      rw [List.map_cons, List.sum_cons, hvalue, Option.map_none, Option.getD_none, zero_add,
        add_comm]
    · rw [List.find?_cons_of_pos (by simpa using heq.symm)] at hvalue
      rw [List.map_cons, List.sum_cons, List.map_cons, List.sum_cons, hvalue, Option.map_some,
        Option.getD_some, add_right_comm]
    · rw [List.find?_cons_of_neg (by simpa using Ne.symm heq)] at hvalue
      rw [List.map_cons, List.sum_cons, ih hentries hvalue, List.map_cons, List.sum_cons, add_assoc]

/-- A row that grows by an amount adds it to the sum. -/
theorem total_alter {m : OrderedMap K V} {k : K} {g : Option V → V} {x : M}
    (hg : f (g (m.get? k)) = ((m.get? k).map f).getD 0 + x) :
    (m.alter k g).total f = m.total f + x := by
  have hvalue : f (g (m.get? k)) =
      ((m.entries.find? fun entry => entry.1 = k).map fun entry => f entry.2).getD 0 + x := by
    rw [hg]
    unfold get?
    rw [Option.map_map]
    rfl
  have hsum := sum_insertEntries f m.sorted hvalue
  unfold total values
  rw [List.map_map, List.map_map]
  exact hsum

theorem total_addAll {key : α → K} {add : Option V → α → V} {x : α → M}
    (hadd : ∀ row item, f (add row item) = (row.map f).getD 0 + x item) (m : OrderedMap K V)
    (items : List α) : (addAll key add m items).total f = m.total f + (items.map x).sum := by
  induction items generalizing m with
  | nil => simp [addAll]
  | cons item items ih =>
    show (addAll key add (m.alter (key item) fun row => add row item) items).total f = _
    rw [ih, total_alter f (hadd _ item), List.map_cons, List.sum_cons, add_assoc]

end Total

end OrderedMap
