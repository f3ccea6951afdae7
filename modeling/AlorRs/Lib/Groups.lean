import AlorRs.Lib.OrderedMap
import Mathlib.Data.List.Induction

/-!
# Values grouped by key

The groups of a list of keyed values, in the order of the keys, each with its values in the order in
which they come (`get?_group`).  A group does not depend on the values of other keys (`group_filter`),
and values may be changed before or after they are grouped (`group_map`).
-/

structure ValueGroup (V : Type) where
  first : V
  rest : List V
deriving DecidableEq, Repr

namespace ValueGroup

variable {V W : Type}

def all (group : ValueGroup V) : List V := group.first :: group.rest

def last (group : ValueGroup V) : V := group.rest.getLast?.getD group.first

def concat (group : ValueGroup V) (value : V) : ValueGroup V := ⟨group.first, group.rest ++ [value]⟩

def map (f : V → W) (group : ValueGroup V) : ValueGroup W := ⟨f group.first, group.rest.map f⟩

def ofList : List V → Option (ValueGroup V)
  | [] => none
  | first :: rest => some ⟨first, rest⟩

theorem ofList_eq_some {values : List V} {group : ValueGroup V} :
    ofList values = some group ↔ group.all = values := by
  cases values with
  | nil => exact ⟨fun h => (nomatch h), fun h => (nomatch h)⟩
  | cons first rest =>
    constructor
    · intro h
      obtain rfl := Option.some.inj h
      rfl
    · intro h
      obtain ⟨rfl, rfl⟩ := List.cons.inj h
      rfl

variable (f : V → W)

theorem ofList_map (values : List V) :
    ofList (values.map f) = (ofList values).map (ValueGroup.map f) := by
  cases values with
  | nil | cons => rfl

theorem all_map (group : ValueGroup V) : (group.map f).all = group.all.map f := rfl

theorem last_map (group : ValueGroup V) : (group.map f).last = f group.last := by
  unfold last map
  rw [List.getLast?_map]
  cases group.rest.getLast? with
  | none => rfl
  | some value => rfl

theorem last_concat (group : ValueGroup V) (value : V) : (group.concat value).last = value := by
  unfold last concat
  rw [List.getLast?_concat]
  rfl

theorem last_mem (group : ValueGroup V) : group.last ∈ group.all := by
  unfold last all
  cases hlast : group.rest.getLast? with
  | none => exact List.mem_cons_self
  | some value => exact List.mem_cons_of_mem _ (List.mem_of_getLast? hlast)

/-- The last value comes after all the others. -/
theorem all_eq_concat (group : ValueGroup V) : ∃ before, group.all = before ++ [group.last] := by
  unfold last all
  cases hlast : group.rest.getLast? with
  | none =>
    rw [List.getLast?_eq_none_iff.mp hlast]
    exact ⟨[], rfl⟩
  | some value =>
    obtain ⟨before, hrest⟩ := List.getLast?_eq_some_iff.mp hlast
    rw [hrest]
    exact ⟨group.first :: before, rfl⟩

end ValueGroup

namespace OrderedMap

variable {K V W : Type} [LinearOrder K] (groups : OrderedMap K (ValueGroup V)) (entry : K × V)

def addToGroup : OrderedMap K (ValueGroup V) :=
  groups.insert entry.1
    (match groups.get? entry.1 with
    | none => ⟨entry.2, []⟩
    | some group => group.concat entry.2)

variable (entries : List (K × V))

def group : OrderedMap K (ValueGroup V) := entries.foldl addToGroup .empty

variable (key : K)

def valuesOf : List V :=
  (entries.filter fun entry => entry.1 = key).map Prod.snd

theorem valuesOf_concat :
    valuesOf (entries ++ [entry]) key =
      if key = entry.1 then valuesOf entries key ++ [entry.2] else valuesOf entries key := by
  unfold valuesOf
  rw [List.filter_append, List.map_append, List.filter_singleton]
  split_ifs with hkey
  · rw [decide_eq_true hkey.symm]
    rfl
  · rw [decide_eq_false (Ne.symm hkey)]
    exact List.append_nil _

theorem get?_addToGroup :
    (addToGroup groups entry).get? key = if key = entry.1 then
        some (match groups.get? entry.1 with
          | none => ⟨entry.2, []⟩
          | some group => group.concat entry.2)
      else groups.get? key := get?_insert

theorem get?_group : (group entries).get? key = ValueGroup.ofList (valuesOf entries key) := by
  induction entries using List.reverseRecOn with
  | nil => rfl
  | append_singleton entries entry ih =>
    have hlast : group (entries ++ [entry]) = addToGroup (group entries) entry := by
      unfold group
      rw [List.foldl_append]
      rfl
    rw [hlast, get?_addToGroup, valuesOf_concat]
    split_ifs with hkey
    · rw [← hkey, ih]
      cases valuesOf entries key with
      | nil | cons => rfl
    · exact ih

theorem mem_group {entries : List (K × V)} {key : K} {found : ValueGroup V} :
    (key, found) ∈ (group entries).entries ↔ found.all = valuesOf entries key := by
  rw [← get?_eq_some, get?_group, ValueGroup.ofList_eq_some]

/-- The groups of some keys are those of the values of these keys. -/
theorem group_filter (p : K → Bool) :
    (group (entries.filter fun entry => p entry.1)).entries =
      (group entries).entries.filter fun entry => p entry.1 := by
  refine Ascending.eq_of_mem_iff (group _).sorted ((group entries).sorted.filter _) ?_
  rintro ⟨key, found⟩
  have hvalues : valuesOf (entries.filter fun entry => p entry.1) key =
      if p key then valuesOf entries key else [] := by
    unfold valuesOf
    rw [List.filter_filter]
    split_ifs with hp
    · refine congrArg (List.map Prod.snd) (List.filter_congr ?_)
      intro entry _
      by_cases hkey : entry.1 = key
      · simp [hkey, hp]
      · simp [hkey]
    · rw [List.map_eq_nil_iff, List.filter_eq_nil_iff]
      intro entry _ hentry
      simp only [Bool.and_eq_true, decide_eq_true_eq] at hentry
      rw [hentry.1] at hentry
      exact hp hentry.2
  rw [List.mem_filter, mem_group, mem_group, hvalues]
  split_ifs with hp
  · exact ⟨fun h => ⟨h, hp⟩, fun h => h.1⟩
  · constructor
    · intro h
      exact absurd h (List.cons_ne_nil _ _)
    · intro h
      exact absurd h.2 hp

/-- Values may be changed before they are grouped, or after it. -/
theorem group_map (f : V → W) :
    (group (entries.map fun entry => (entry.1, f entry.2))).entries =
      (group entries).entries.map fun entry => (entry.1, entry.2.map f) := by
  refine Ascending.eq_of_mem_iff (group _).sorted ?_ ?_
  · exact List.pairwise_map.mpr (group entries).sorted
  rintro ⟨key, found⟩
  have hvalues : valuesOf (entries.map fun entry => (entry.1, f entry.2)) key =
      (valuesOf entries key).map f := by
    unfold valuesOf
    rw [List.filter_map, List.map_map, List.map_map]
    rfl
  rw [← get?_eq_some, get?_group, hvalues, ValueGroup.ofList_map, ← get?_group, Option.map_eq_some_iff,
    List.mem_map]
  constructor
  · rintro ⟨group, hgroup, rfl⟩
    exact ⟨(key, group), get?_eq_some.mp hgroup, rfl⟩
  · rintro ⟨⟨key', group⟩, hmem, heq⟩
    obtain ⟨rfl, rfl⟩ := Prod.mk.inj heq
    exact ⟨group, get?_eq_some.mpr hmem, rfl⟩

end OrderedMap
