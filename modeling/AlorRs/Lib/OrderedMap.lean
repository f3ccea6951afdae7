import Mathlib.Data.List.Sort
import Mathlib.Order.Bounds.Basic

/-!
# Maps in the order of their keys

A map is the list of its entries, in strictly ascending order of the keys.  An entry that is
inserted under a new key is nowhere seen by a reader that passes over it
(`filter_values_insert`).  An ascending list is determined by its members (`eq_of_mem_iff`), and
its last two are the greatest of them (`isLatest_getLast?`, `isLatest_dropLast`).
-/

/-- A map whose entries are listed in the order of their keys. -/
structure OrderedMap (K V : Type) [LinearOrder K] where
  entries : List (K × V)
  sorted : entries.Pairwise fun a b => a.1 < b.1

namespace OrderedMap

variable {K V : Type} [LinearOrder K]

theorem ext {m m' : OrderedMap K V} (h : m.entries = m'.entries) : m = m' := by
  cases m
  cases m'
  congr

instance [DecidableEq V] : DecidableEq (OrderedMap K V) := fun m m' =>
  decidable_of_iff (m.entries = m'.entries) ⟨ext, congrArg entries⟩

def empty : OrderedMap K V := ⟨[], .nil⟩

variable (m : OrderedMap K V)

def get? (key : K) : Option V :=
  (m.entries.find? fun entry => entry.1 = key).map Prod.snd

def values : List V := m.entries.map Prod.snd

def keys : List K := m.entries.map Prod.fst

def length (m : OrderedMap K V) : ℕ := m.entries.length

def insertEntries (key : K) (value : V) : List (K × V) → List (K × V)
  | [] => [(key, value)]
  | entry :: entries =>
    if key < entry.1 then (key, value) :: entry :: entries
    else if key = entry.1 then (key, value) :: entries
    else entry :: insertEntries key value entries

section Insert

variable {key : K} {value : V} {entries : List (K × V)}

/-- What is made of each value may be made before or after one is inserted. -/
theorem map_insertEntries {W : Type} (f : V → W) :
    (insertEntries key value entries).map (fun entry => (entry.1, f entry.2)) =
      insertEntries key (f value) (entries.map fun entry => (entry.1, f entry.2)) := by
  induction entries with
  | nil => rfl
  | cons head entries ih =>
    rw [List.map_cons]
    unfold insertEntries
    split_ifs
    · rfl
    · rfl
    · rw [List.map_cons, ih]

theorem mem_of_mem_insertEntries {entry : K × V} (h : entry ∈ insertEntries key value entries) :
    entry = (key, value) ∨ entry ∈ entries := by
  induction entries with
  | nil => exact .inl (List.mem_singleton.mp h)
  | cons head entries ih =>
    unfold insertEntries at h
    split_ifs at h
    · exact List.mem_cons.mp h
    · rcases List.mem_cons.mp h with rfl | hmem
      · exact .inl rfl
      · exact .inr (List.mem_cons_of_mem _ hmem)
    · rcases List.mem_cons.mp h with rfl | hmem
      · exact .inr List.mem_cons_self
      · rcases ih hmem with rfl | hmem
        · exact .inl rfl
        · exact .inr (List.mem_cons_of_mem _ hmem)

theorem sorted_insertEntries (h : entries.Pairwise fun a b => a.1 < b.1) :
    (insertEntries key value entries).Pairwise fun a b => a.1 < b.1 := by
  induction entries with
  | nil => exact List.pairwise_singleton _ _
  | cons head entries ih =>
    obtain ⟨hhead, hentries⟩ := List.pairwise_cons.mp h
    unfold insertEntries
    split_ifs with hlt heq
    · refine List.pairwise_cons.mpr ⟨?_, h⟩
      intro entry hentry
      rcases List.mem_cons.mp hentry with rfl | hmem
      · exact hlt
      · exact hlt.trans (hhead entry hmem)
    · refine List.pairwise_cons.mpr ⟨?_, hentries⟩
      intro entry hentry
      show key < entry.1
      rw [heq]
      exact hhead entry hentry
    · refine List.pairwise_cons.mpr ⟨?_, ih hentries⟩
      intro entry hentry
      rcases mem_of_mem_insertEntries hentry with rfl | hmem
      · exact lt_of_le_of_ne (not_lt.mp hlt) (Ne.symm heq)
      · exact hhead entry hmem

/-- A new key splits the entries. -/
theorem insertEntries_of_new (h : ∀ entry ∈ entries, entry.1 ≠ key) :
    ∃ before rest, entries = before ++ rest ∧
      insertEntries key value entries = before ++ (key, value) :: rest := by
  induction entries with
  | nil => exact ⟨[], [], rfl, rfl⟩
  | cons head entries ih =>
    unfold insertEntries
    split_ifs with hlt heq
    · exact ⟨[], head :: entries, rfl, rfl⟩
    · exact absurd heq.symm (h head List.mem_cons_self)
    · obtain ⟨before, rest, hsplit, hinsert⟩ :=
        ih fun entry hentry => h entry (List.mem_cons_of_mem _ hentry)
      exact ⟨head :: before, rest, by rw [hsplit]; rfl, by rw [hinsert]; rfl⟩

end Insert

def insert (key : K) (value : V) : OrderedMap K V :=
  ⟨insertEntries key value m.entries, sorted_insertEntries m.sorted⟩

variable {m m' : OrderedMap K V} {key key' : K} {value value' : V}

theorem nodup_keys : m.keys.Nodup := by
  unfold keys List.Nodup
  rw [List.pairwise_map]
  exact m.sorted.imp fun hlt => hlt.ne

/-- A key has one value. -/
theorem eq_of_mem (h : (key, value) ∈ m.entries) (h' : (key, value') ∈ m.entries) :
    value = value' := by
  have hentry := List.inj_on_of_nodup_map m.nodup_keys h h' rfl
  exact (Prod.mk.inj hentry).2

theorem get?_eq_some : m.get? key = some value ↔ (key, value) ∈ m.entries := by
  unfold get?
  constructor
  · intro h
    obtain ⟨entry, hfind, rfl⟩ := Option.map_eq_some_iff.mp h
    have hkey : entry.1 = key := by simpa using List.find?_some hfind
    rw [← hkey]
    exact List.mem_of_find?_eq_some hfind
  · intro h
    cases hfind : m.entries.find? fun entry => entry.1 = key with
    | none =>
      have hne := List.find?_eq_none.mp hfind _ h
      simp at hne
    | some entry =>
      have hkey : entry.1 = key := by simpa using List.find?_some hfind
      have hmem : (key, entry.2) ∈ m.entries := by
        rw [← hkey]
        exact List.mem_of_find?_eq_some hfind
      rw [Option.map_some, eq_of_mem hmem h]

theorem get?_eq_none : m.get? key = none ↔ ∀ entry ∈ m.entries, entry.1 ≠ key := by
  unfold get?
  rw [Option.map_eq_none_iff, List.find?_eq_none]
  simp

theorem mem_values : value ∈ m.values ↔ ∃ key, m.get? key = some value := by
  unfold values
  simp only [List.mem_map, Prod.exists, exists_eq_right, get?_eq_some]

/-! ### Insertion -/

theorem mem_insertEntries {entries : List (K × V)}
    (h : entries.Pairwise fun a b => a.1 < b.1) {entry : K × V} :
    entry ∈ insertEntries key value entries ↔
      entry = (key, value) ∨ (entry ∈ entries ∧ entry.1 ≠ key) := by
  induction entries with
  | nil => simp [insertEntries]
  | cons head entries ih =>
    obtain ⟨hhead, hentries⟩ := List.pairwise_cons.mp h
    unfold insertEntries
    split_ifs with hlt heq
    -- the key goes in front of the larger ones
    · have hne : ∀ e ∈ head :: entries, e.1 ≠ key := by
        intro e he
        rcases List.mem_cons.mp he with rfl | hmem
        · exact hlt.ne'
        · exact (hlt.trans (hhead e hmem)).ne'
      rw [List.mem_cons]
      exact ⟨Or.imp_right fun hmem => ⟨hmem, hne entry hmem⟩, Or.imp_right And.left⟩
    -- the value of the key is replaced
    · have hne : ∀ e ∈ entries, e.1 ≠ key := fun e he => heq ▸ (hhead e he).ne'
      rw [List.mem_cons, List.mem_cons]
      constructor
      · exact Or.imp_right fun hmem => ⟨.inr hmem, hne entry hmem⟩
      · rintro (hnew | ⟨rfl | hmem, hkey⟩)
        · exact .inl hnew
        · exact absurd heq.symm hkey
        · exact .inr hmem
    · rw [List.mem_cons, List.mem_cons, ih hentries]
      constructor
      · rintro (rfl | hnew | ⟨hmem, hkey⟩)
        · exact .inr ⟨.inl rfl, Ne.symm heq⟩
        · exact .inl hnew
        · exact .inr ⟨.inr hmem, hkey⟩
      · rintro (hnew | ⟨rfl | hmem, hkey⟩)
        · exact .inr (.inl hnew)
        · exact .inl rfl
        · exact .inr (.inr ⟨hmem, hkey⟩)

theorem get?_insert :
    (m.insert key value).get? key' = if key' = key then some value else m.get? key' := by
  ext value'
  rw [get?_eq_some]
  have hmem : (key', value') ∈ insertEntries key value m.entries ↔
      (key', value') = (key, value) ∨ ((key', value') ∈ m.entries ∧ key' ≠ key) :=
    mem_insertEntries m.sorted
  show (key', value') ∈ insertEntries key value m.entries ↔ _
  rw [hmem, Prod.mk.injEq]
  split_ifs with heq
  · rw [Option.some_inj]
    exact ⟨fun h => h.elim (fun h => h.2.symm) fun h => absurd heq h.2, fun h => .inl ⟨heq, h.symm⟩⟩
  · rw [get?_eq_some]
    exact ⟨fun h => h.elim (fun h => absurd h.1 heq) fun h => h.1, fun h => .inr ⟨h, heq⟩⟩

/-- A new key splits the entries. -/
theorem entries_insert (value : V) (h : m.get? key = none) :
    ∃ before rest, m.entries = before ++ rest ∧
      (m.insert key value).entries = before ++ (key, value) :: rest :=
  insertEntries_of_new (get?_eq_none.mp h)

theorem mem_values_insert (h : m.get? key = none) :
    value' ∈ (m.insert key value).values ↔ value' = value ∨ value' ∈ m.values := by
  obtain ⟨before, rest, hsplit, hinsert⟩ := entries_insert value h
  unfold values
  rw [hsplit, hinsert, List.map_append, List.map_append, List.map_cons, List.mem_append,
    List.mem_append, List.mem_cons]
  tauto

/-- A key past the last one is new. -/
theorem get?_eq_none_of_getLast? (h : m.keys.getLast?.all (· < key) = true) : m.get? key = none := by
  refine get?_eq_none.mpr ?_
  intro entry hentry heq
  have hmem : key ∈ m.keys := heq ▸ List.mem_map_of_mem hentry
  cases hlast : m.keys.getLast? with
  | none =>
    rw [List.getLast?_eq_none_iff.mp hlast] at hmem
    exact absurd hmem List.not_mem_nil
  | some last =>
    rw [hlast] at h
    have hlt : last < key := of_decide_eq_true h
    obtain ⟨front, hfront⟩ := List.getLast?_eq_some_iff.mp hlast
    have hsorted : m.keys.Pairwise (· < ·) := List.pairwise_map.mpr m.sorted
    rw [hfront] at hsorted hmem
    rcases List.mem_append.mp hmem with hbefore | hsame
    · have hbefore' := (List.pairwise_append.mp hsorted).2.2 key hbefore last
        (List.mem_singleton_self _)
      exact absurd hlt hbefore'.not_gt
    · rw [List.mem_singleton.mp hsame] at hlt
      exact lt_irrefl _ hlt

theorem length_insert (h : m.get? key = none) : (m.insert key value).length = m.length + 1 := by
  obtain ⟨before, rest, hsplit, hinsert⟩ := entries_insert value h
  unfold length
  rw [hsplit, hinsert, List.length_append, List.length_append, List.length_cons]
  omega

/-- A reader that passes over a new value sees the map as it was. -/
theorem filter_values_insert (h : m.get? key = none) {p : V → Bool} (hvalue : p value = false) :
    (m.insert key value).values.filter p = m.values.filter p := by
  obtain ⟨before, rest, hsplit, hinsert⟩ := entries_insert value h
  unfold values
  rw [hsplit, hinsert, List.map_append, List.map_append, List.map_cons, List.filter_append,
    List.filter_append, List.filter_cons_of_neg (by simp [hvalue])]

/-! ### Maps that are alike -/

/-- Maps with the same keys, whose values look the same through a function. -/
def AgreeOn {W : Type} (f : V → W) (m m' : OrderedMap K V) : Prop :=
  m.entries.map (fun entry => (entry.1, f entry.2)) = m'.entries.map fun entry => (entry.1, f entry.2)

namespace AgreeOn

variable {W : Type} {f : V → W} (h : AgreeOn f m m')
include h

theorem values : m.values.map f = m'.values.map f := by
  have hsnd := congrArg (List.map Prod.snd) h
  rw [List.map_map, List.map_map] at hsnd
  unfold OrderedMap.values
  rw [List.map_map, List.map_map]
  exact hsnd

theorem keys : m.keys = m'.keys := by
  have hfst := congrArg (List.map Prod.fst) h
  rw [List.map_map, List.map_map] at hfst
  exact hfst

theorem length : m.length = m'.length := by
  have hlength := congrArg List.length h
  rw [List.length_map, List.length_map] at hlength
  exact hlength

theorem get? (key : K) : (m.get? key).map f = (m'.get? key).map f := by
  have hfind : ∀ m : OrderedMap K V, (m.get? key).map f =
      ((m.entries.map fun entry => (entry.1, f entry.2)).find? fun entry => entry.1 = key).map
        Prod.snd := by
    intro m
    unfold OrderedMap.get?
    rw [List.find?_map, Option.map_map, Option.map_map]
    rfl
  rw [hfind, hfind, h]

theorem insert (hvalue : f value = f value') : AgreeOn f (m.insert key value) (m'.insert key value') := by
  show (insertEntries _ _ _).map _ = (insertEntries _ _ _).map _
  rw [map_insertEntries, map_insertEntries, hvalue, h]

end AgreeOn

end OrderedMap

/-! ### Ascending lists -/

namespace Ascending

variable {K V : Type} [LinearOrder K] {vs : List V}

/-- Lists in ascending order with the same members are the same. -/
theorem eq_of_mem_iff {key : V → K} {ws : List V} (hvs : vs.Pairwise fun a b => key a < key b)
    (hws : ws.Pairwise fun a b => key a < key b) (hmem : ∀ v, v ∈ vs ↔ v ∈ ws) : vs = ws := by
  have hnodup : ∀ {us : List V}, us.Pairwise (fun a b => key a < key b) → us.Nodup := by
    intro us h
    refine h.imp ?_
    rintro a _ hlt rfl
    exact lt_irrefl _ hlt
  have hperm := (List.perm_ext_iff_of_nodup (hnodup hvs) (hnodup hws)).mpr hmem
  exact hperm.eq_of_pairwise (fun a b _ _ hab hba => absurd hab hba.not_gt) hvs hws

/-- The greatest element of a set, if it has elements. -/
def IsLatest (s : Set K) : Option K → Prop
  | none => s = ∅
  | some k => IsGreatest s k

variable {ks : List K}

theorem isLatest_getLast? (h : ks.Pairwise (· < ·)) : IsLatest {k | k ∈ ks} ks.getLast? := by
  rcases List.eq_nil_or_concat ks with rfl | ⟨before, last, rfl⟩
  · show {k : K | k ∈ []} = ∅
    simp
  · rw [List.concat_eq_append] at h ⊢
    rw [List.getLast?_concat]
    refine ⟨List.mem_append_right _ List.mem_cons_self, ?_⟩
    intro k hk
    rcases List.mem_append.mp hk with hbefore | hlast
    · exact ((List.pairwise_append.mp h).2.2 k hbefore last List.mem_cons_self).le
    · exact (List.mem_singleton.mp hlast).le

/-- All but the last are those below it. -/
theorem mem_dropLast (h : ks.Pairwise (· < ·)) {k : K} :
    k ∈ ks.dropLast ↔ k ∈ ks ∧ ks.getLast?.any (k < ·) = true := by
  rcases List.eq_nil_or_concat ks with rfl | ⟨before, last, rfl⟩
  · simp
  · rw [List.concat_eq_append] at h ⊢
    rw [List.getLast?_concat, List.dropLast_concat, List.mem_append, List.mem_singleton]
    constructor
    · intro hk
      exact ⟨.inl hk, by simpa using (List.pairwise_append.mp h).2.2 k hk last List.mem_cons_self⟩
    · rintro ⟨hk | rfl, hlt⟩
      · exact hk
      · simp at hlt

theorem isLatest_dropLast (h : ks.Pairwise (· < ·)) :
    IsLatest {k | k ∈ ks ∧ ks.getLast?.any (k < ·) = true} ks.dropLast.getLast? := by
  have hlatest := isLatest_getLast? (h.sublist (List.dropLast_sublist ks))
  have hset : {k | k ∈ ks.dropLast} = {k | k ∈ ks ∧ ks.getLast?.any (k < ·) = true} :=
    Set.ext fun _ => mem_dropLast h
  rwa [hset] at hlatest

/-- A list is what comes before a cut and what comes after it. -/
theorem filter_append_filter_not {p : V → Bool} (h : vs.Pairwise fun v w => p w = true → p v = true) :
    vs.filter p ++ vs.filter (fun v => !p v) = vs := by
  induction vs with
  | nil => rfl
  | cons v vs ih =>
    obtain ⟨hv, hvs⟩ := List.pairwise_cons.mp h
    have hrest := ih hvs
    cases hp : p v with
    | true =>
      rw [List.filter_cons_of_pos hp, List.filter_cons_of_neg (by simp [hp]), List.cons_append,
        hrest]
    | false =>
      have hnone : vs.filter p = [] := by
        refine List.filter_eq_nil_iff.mpr ?_
        intro w hw hpw
        rw [hv w hw hpw] at hp
        exact absurd hp (by decide)
      rw [hnone, List.nil_append] at hrest
      rw [List.filter_cons_of_neg (by simp [hp]), List.filter_cons_of_pos (by simp [hp]), hnone,
        List.nil_append, hrest]

/-- A list that has all of another from some place on is a suffix of it. -/
theorem suffix_of_subset {key : V → K} {ws : List V} (hvs : vs.Pairwise fun a b => key a < key b)
    (hws : ws.Pairwise fun a b => key a < key b) (hsubset : vs ⊆ ws)
    (hlater : ∀ v ∈ vs, ∀ w ∈ ws, key v ≤ key w → w ∈ vs) : vs <:+ ws := by
  cases vs with
  | nil => exact List.nil_suffix
  | cons v vs =>
    have hfirst : ∀ w ∈ v :: vs, key v ≤ key w := by
      intro w hw
      rcases List.mem_cons.mp hw with rfl | hmem
      · exact le_rfl
      · exact (List.rel_of_pairwise_cons hvs hmem).le
    have hcut : ws.Pairwise fun a b => decide (key b < key v) = true →
        decide (key a < key v) = true :=
      hws.imp fun hlt hb => decide_eq_true (hlt.trans (of_decide_eq_true hb))
    have hsame : v :: vs = ws.filter fun w => !decide (key w < key v) := by
      refine eq_of_mem_iff hvs (hws.filter _) ?_
      intro w
      rw [List.mem_filter, Bool.not_eq_true', decide_eq_false_iff_not, not_lt]
      exact ⟨fun hw => ⟨hsubset hw, hfirst w hw⟩, fun hw => hlater v List.mem_cons_self w hw.1 hw.2⟩
    rw [hsame]
    exact ⟨_, filter_append_filter_not hcut⟩

end Ascending
