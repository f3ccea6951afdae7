import Mathlib.Data.List.Sort

/-!
# Streams of entries with increasing keys

A stream is what was added to it, of which a front part may be trimmed.  Its ranges are in the order
of the keys, and what follows an entry that is still there is all that was added after it.
-/

namespace AlorRs

/-- A stream: all that was added, and how many entries at the front are no longer there. -/
structure EntryStream (E : Type) where
  added : List E
  trimmed : ℕ
deriving DecidableEq, Repr

namespace EntryStream

variable {E K : Type} [LinearOrder K] {key : E → K} {stream : EntryStream E} {entry : E} {k : K}

def empty : EntryStream E := ⟨[], 0⟩

def present (stream : EntryStream E) : List E := stream.added.drop stream.trimmed

def add (key : E → K) (stream : EntryStream E) (entry : E) : EntryStream E :=
  if stream.added.getLast?.all fun last => key last < key entry then
    { stream with added := stream.added ++ [entry] }
  else stream

def trim (stream : EntryStream E) (count : ℕ) : EntryStream E :=
  { stream with trimmed := min (stream.trimmed + count) stream.added.length }

def after (key : E → K) (stream : EntryStream E) (k : K) : List E :=
  stream.present.filter (k < key ·)

def startingAt (key : E → K) (stream : EntryStream E) (k : K) : List E :=
  stream.present.filter (k ≤ key ·)

def entriesAt (key : E → K) (stream : EntryStream E) (k : K) : List E :=
  stream.present.filter (key · = k)

def Increasing (key : E → K) (stream : EntryStream E) : Prop :=
  stream.added.Pairwise (key · < key ·)

omit [LinearOrder K] in
theorem present_suffix (stream : EntryStream E) : stream.present <:+ stream.added :=
  List.drop_suffix _ _

/-- What has the larger keys of an increasing list is at its end. -/
theorem filter_suffix {entries : List E} {p : E → Bool} (h : entries.Pairwise (key · < key ·))
    (hp : ∀ a b, key a < key b → p a = true → p b = true) : entries.filter p <:+ entries := by
  induction entries with
  | nil => exact List.suffix_rfl
  | cons entry entries ih =>
    obtain ⟨hfirst, hrest⟩ := List.pairwise_cons.mp h
    by_cases hentry : p entry = true
    · have hall : (entry :: entries).filter p = entry :: entries := by
        refine List.filter_eq_self.mpr ?_
        intro other hother
        rcases List.mem_cons.mp hother with rfl | hmem
        · exact hentry
        · exact hp _ _ (hfirst other hmem) hentry
      exact ⟨[], hall⟩
    · rw [List.filter_cons_of_neg hentry]
      exact (ih hrest).trans (List.suffix_cons _ _)

/-- What has a larger key than an entry of an increasing list comes after it. -/
theorem filter_after {front rest : List E} (h : (front ++ entry :: rest).Pairwise (key · < key ·)) :
    (front ++ entry :: rest).filter (key entry < key ·) = rest := by
  obtain ⟨-, hrest, hfront⟩ := List.pairwise_append.mp h
  obtain ⟨hentry, -⟩ := List.pairwise_cons.mp hrest
  have hnone : front.filter (key entry < key ·) = [] := by
    refine List.filter_eq_nil_iff.mpr ?_
    intro other hother
    have hlt := hfront other hother entry List.mem_cons_self
    simpa using hlt.le
  have hall : rest.filter (key entry < key ·) = rest := by
    refine List.filter_eq_self.mpr ?_
    intro other hother
    exact decide_eq_true (hentry other hother)
  rw [List.filter_append, hnone, List.nil_append, List.filter_cons_of_neg (by simp), hall]

namespace Increasing

theorem empty : Increasing key (empty : EntryStream E) := List.Pairwise.nil

theorem add (h : stream.Increasing key) (entry : E) : (stream.add key entry).Increasing key := by
  unfold EntryStream.add
  split_ifs with hlast
  · refine List.pairwise_append.mpr ⟨h, List.pairwise_singleton _ _, ?_⟩
    intro other hother new hnew
    obtain rfl := List.mem_singleton.mp hnew
    -- the last entry has the largest key of those before
    cases hend : stream.added.getLast? with
    | none =>
      rw [List.getLast?_eq_none_iff.mp hend] at hother
      exact absurd hother List.not_mem_nil
    | some last =>
      rw [hend] at hlast
      have hlt : key last < key new := of_decide_eq_true hlast
      obtain ⟨front, hfront⟩ := List.getLast?_eq_some_iff.mp hend
      rw [hfront] at hother
      rcases List.mem_append.mp hother with hmem | hmem
      · unfold Increasing at h
        rw [hfront] at h
        exact ((List.pairwise_append.mp h).2.2 other hmem last (List.mem_singleton_self _)).trans hlt
      · obtain rfl := List.mem_singleton.mp hmem
        exact hlt
  · exact h

theorem trim (h : stream.Increasing key) (count : ℕ) : (stream.trim count).Increasing key := h

theorem present (h : stream.Increasing key) : stream.present.Pairwise (key · < key ·) :=
  h.sublist stream.present_suffix.sublist

theorem after_suffix (h : stream.Increasing key) (k : K) : stream.after key k <:+ stream.added := by
  refine (filter_suffix h.present ?_).trans stream.present_suffix
  intro a b hlt ha
  exact decide_eq_true ((of_decide_eq_true ha).trans hlt)

theorem startingAt_suffix (h : stream.Increasing key) (k : K) :
    stream.startingAt key k <:+ stream.added := by
  refine (filter_suffix h.present ?_).trans stream.present_suffix
  intro a b hlt ha
  exact decide_eq_true ((of_decide_eq_true ha).trans hlt.le)

/-- What follows an entry that is there is all that was added after it. -/
theorem after_eq {front rest : List E} (h : stream.Increasing key)
    (hsplit : stream.added = front ++ entry :: rest) (hmem : entry ∈ stream.present) :
    stream.after key (key entry) = rest := by
  obtain ⟨gone, hgone⟩ := stream.present_suffix
  obtain ⟨kept, later, hkept⟩ := List.append_of_mem hmem
  have hpresent : stream.after key (key entry) = later := by
    unfold after
    have hincreasing := h.present
    rw [hkept] at hincreasing ⊢
    exact filter_after hincreasing
  have hall : stream.added.filter (key entry < key ·) = later := by
    unfold Increasing at h
    rw [← hgone, hkept, ← List.append_assoc] at h ⊢
    exact filter_after h
  rw [hpresent, ← hall]
  unfold Increasing at h
  rw [hsplit] at h ⊢
  exact filter_after h

end Increasing

end EntryStream

end AlorRs
