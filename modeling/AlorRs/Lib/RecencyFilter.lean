import Mathlib.Data.List.Basic
import Mathlib.Data.List.Induction
import Mathlib.Data.List.Nodup
import Mathlib.Order.Lattice

/-!
# A duplicate filter with a bounded memory

A filter lets a delivery (a key with a time) through unless it remembers the key or has let a
later one through.  It remembers the last `limit` keys it let through.  `exactlyOnce_iff` says
for which delivery sequences every key passes exactly once: a key must not arrive for the first
time after a later one, and a key that arrives again must still be remembered or be late.
-/

namespace RecencyFilter

variable {κ τ : Type*} [DecidableEq κ] [LinearOrder τ]

/-- The keys remembered, oldest first, and the latest time let through. -/
structure Filter (κ τ : Type*) where
  seen : List κ
  newest : Option τ

def lastN {α : Type*} (limit : ℕ) (l : List α) : List α := l.drop (l.length - limit)

namespace Filter

def empty : Filter κ τ := ⟨[], none⟩

/-- A time before the newest one let through. -/
def Late (f : Filter κ τ) (t : τ) : Prop := ∃ m, f.newest = some m ∧ t < m

/-- A delivery is let through. -/
def Passes (f : Filter κ τ) (d : κ × τ) : Prop := d.1 ∉ f.seen ∧ ¬ f.Late d.2

instance (f : Filter κ τ) (t : τ) : Decidable (f.Late t) :=
  match h : f.newest with
  | none => .isFalse fun ⟨_, hm, _⟩ => by rw [h] at hm; cases hm
  | some m => decidable_of_iff (t < m) ⟨fun hlt => ⟨m, h, hlt⟩, fun ⟨n, hn, hlt⟩ => by
      rw [h] at hn; cases hn; exact hlt⟩

instance (f : Filter κ τ) (d : κ × τ) : Decidable (f.Passes d) :=
  inferInstanceAs (Decidable (_ ∧ _))

/-- What is remembered after a delivery. -/
def step (limit : ℕ) (f : Filter κ τ) (d : κ × τ) : Filter κ τ :=
  if f.Passes d then ⟨lastN limit (f.seen ++ [d.1]), some d.2⟩ else f

/-- What is remembered after a sequence of deliveries. -/
def run (limit : ℕ) (f : Filter κ τ) (ds : List (κ × τ)) : Filter κ τ := ds.foldl (step limit) f

/-- The keys let through, in order. -/
def passed (limit : ℕ) (f : Filter κ τ) : List (κ × τ) → List κ
  | [] => []
  | d :: ds => if f.Passes d then d.1 :: (f.step limit d).passed limit ds
    else (f.step limit d).passed limit ds

variable {limit : ℕ} {f : Filter κ τ}

theorem step_of_passes {d : κ × τ} (h : f.Passes d) :
    f.step limit d = ⟨lastN limit (f.seen ++ [d.1]), some d.2⟩ := if_pos h

theorem step_of_not_passes {d : κ × τ} (h : ¬ f.Passes d) : f.step limit d = f := if_neg h

theorem passed_append (f : Filter κ τ) (ds es : List (κ × τ)) :
    f.passed limit (ds ++ es) = f.passed limit ds ++ (f.run limit ds).passed limit es := by
  induction ds generalizing f with
  | nil => rfl
  | cons d ds ih =>
    simp only [List.cons_append, passed, run, List.foldl_cons]
    split_ifs
    · rw [ih, List.cons_append]
      rfl
    · exact ih _

theorem passed_singleton (f : Filter κ τ) (d : κ × τ) :
    f.passed limit [d] = if f.Passes d then [d.1] else [] := rfl

/-- The newest time never goes back. -/
theorem newest_step (limit : ℕ) {m : τ} (h : f.newest = some m) (d : κ × τ) :
    ∃ m', (f.step limit d).newest = some m' ∧ m ≤ m' := by
  by_cases hp : f.Passes d
  · rw [step_of_passes hp]
    exact ⟨d.2, rfl, not_lt.mp fun hlt => hp.2 ⟨m, h, hlt⟩⟩
  · rw [step_of_not_passes hp]
    exact ⟨m, h, le_rfl⟩

/-- A key that is late in every delivery does not pass any more. -/
theorem not_mem_passed_of_late {m : τ} (h : f.newest = some m) {k : κ} {ds : List (κ × τ)}
    (hlate : ∀ d ∈ ds, d.1 = k → d.2 < m) : k ∉ f.passed limit ds := by
  induction ds generalizing f m with
  | nil => exact List.not_mem_nil
  | cons d ds ih =>
    have hrest : k ∉ (f.step limit d).passed limit ds := by
      obtain ⟨m', hm', hle⟩ := newest_step limit h d
      exact ih hm' fun e he hk => lt_of_lt_of_le (hlate e (List.mem_cons_of_mem _ he) hk) hle
    rw [passed]
    split_ifs with hp
    · intro hmem
      rcases List.mem_cons.mp hmem with rfl | hmem
      · exact hp.2 ⟨m, h, hlate d (List.mem_cons_self ..) rfl⟩
      · exact hrest hmem
    · exact hrest

end Filter

/-! ### Delivery sequences -/

variable (ds : List (κ × τ))

/-- The keys of a sequence of deliveries, in the order of their first delivery. -/
def firsts : List κ :=
  ds.foldl (fun keys d => if d.1 ∈ keys then keys else keys ++ [d.1]) []

omit [LinearOrder τ] in
theorem firsts_concat (d : κ × τ) :
    firsts (ds ++ [d]) = if d.1 ∈ firsts ds then firsts ds else firsts ds ++ [d.1] := by
  rw [firsts, List.foldl_append]
  rfl

omit [LinearOrder τ] in
theorem mem_firsts {ds : List (κ × τ)} {k : κ} : k ∈ firsts ds ↔ k ∈ ds.map Prod.fst := by
  induction ds using List.reverseRecOn with
  | nil => simp [firsts]
  | append_singleton ds d ih =>
    rw [firsts_concat, List.map_append, List.mem_append, List.map_singleton, List.mem_singleton,
      ← ih]
    split_ifs with h
    · exact ⟨.inl, fun hk => hk.elim id fun hk => hk ▸ h⟩
    · rw [List.mem_append, List.mem_singleton]

omit [LinearOrder τ] in
theorem nodup_firsts : (firsts ds).Nodup := by
  induction ds using List.reverseRecOn with
  | nil => exact List.nodup_nil
  | append_singleton ds d ih =>
    rw [firsts_concat]
    split_ifs with h
    · exact ih
    · exact ih.append (List.nodup_singleton _) (List.disjoint_singleton.mpr h)

def Timed : Prop := ∀ d ∈ ds, ∀ e ∈ ds, d.1 = e.1 → d.2 = e.2

/-- `d` is not a key's first delivery after a later delivery. -/
def OnTime (before : List (κ × τ)) (d : κ × τ) : Prop :=
  d.1 ∉ before.map Prod.fst → ∀ e ∈ before, e.2 ≤ d.2

/-- A key that `d` delivers again is one of the last `limit` ones or is late. -/
def Covered (limit : ℕ) (before : List (κ × τ)) (d : κ × τ) : Prop :=
  d.1 ∈ before.map Prod.fst → d.1 ∈ lastN limit (firsts before) ∨ ∃ e ∈ before, d.2 < e.2

/-- Every key that is delivered passes exactly once. -/
def ExactlyOnce (limit : ℕ) (ds : List (κ × τ)) : Prop :=
  ∀ k ∈ ds.map Prod.fst, ((Filter.empty : Filter κ τ).passed limit ds).count k = 1

/-- The filter after deliveries that were all on time and covered. -/
structure Tracks (limit : ℕ) (before : List (κ × τ)) : Prop where
  passed : (Filter.empty : Filter κ τ).passed limit before = firsts before
  seen : ((Filter.empty : Filter κ τ).run limit before).seen = lastN limit (firsts before)
  late : ∀ t, ((Filter.empty : Filter κ τ).run limit before).Late t ↔ ∃ e ∈ before, t < e.2

theorem tracks_nil (limit : ℕ) : Tracks limit ([] : List (κ × τ)) where
  passed := rfl
  seen := by simp [Filter.run, Filter.empty, firsts, lastN]
  late := fun t => by simp [Filter.run, Filter.empty, Filter.Late]

theorem lastN_concat {α : Type*} (limit : ℕ) (l : List α) (a : α) :
    lastN limit (lastN limit l ++ [a]) = lastN limit (l ++ [a]) := by
  simp only [lastN, List.length_append, List.length_drop, List.length_singleton]
  rw [List.drop_append, List.drop_append, List.drop_drop, List.length_drop]
  congr 2 <;> omega

variable {rest : List (κ × τ)}

section Step

variable {limit : ℕ} {before : List (κ × τ)} {d : κ × τ}

/-- A first delivery passes where it is on time. -/
theorem Tracks.passes_iff_of_fresh (h : Tracks limit before)
    (hfresh : d.1 ∉ before.map Prod.fst) :
    ((Filter.empty : Filter κ τ).run limit before).Passes d ↔ OnTime before d := by
  have hseen : d.1 ∉ ((Filter.empty : Filter κ τ).run limit before).seen := by
    rw [h.seen]
    exact fun hk => hfresh (mem_firsts.mp (List.mem_of_mem_drop hk))
  rw [Filter.Passes, h.late, OnTime]
  constructor
  · intro hp _ e he
    exact not_lt.mp fun hlt => hp.2 ⟨e, he, hlt⟩
  · intro hon
    exact ⟨hseen, fun ⟨e, he, hlt⟩ => absurd (hon hfresh e he) (not_le.mpr hlt)⟩

/-- A repeated delivery is stopped where it is covered. -/
theorem Tracks.passes_iff_of_repeated (h : Tracks limit before)
    (hrep : d.1 ∈ before.map Prod.fst) :
    ((Filter.empty : Filter κ τ).run limit before).Passes d ↔ ¬ Covered limit before d := by
  rw [Filter.Passes, h.seen, h.late, Covered, ← not_or]
  exact not_congr ⟨fun hor _ => hor, fun hc => hc hrep⟩

/-- The step lemma: a delivery that is on time and covered keeps the filter on track. -/
theorem Tracks.concat (h : Tracks limit before) (ht : Timed (before ++ [d]))
    (hon : OnTime before d) (hcov : Covered limit before d) : Tracks limit (before ++ [d]) := by
  have hrun : (Filter.empty : Filter κ τ).run limit (before ++ [d]) =
      ((Filter.empty : Filter κ τ).run limit before).step limit d := by
    simp [Filter.run]
  -- a repeated delivery changes nothing, for it is covered
  by_cases hrep : d.1 ∈ before.map Prod.fst
  · have hnp := mt (h.passes_iff_of_repeated hrep).mp (not_not.mpr hcov)
    have hfirst : firsts (before ++ [d]) = firsts before := by
      rw [firsts_concat, if_pos (mem_firsts.mpr hrep)]
    rw [Filter.step_of_not_passes hnp] at hrun
    refine ⟨?_, by rw [hrun, hfirst, h.seen], fun t => ?_⟩
    · rw [Filter.passed_append, Filter.passed_singleton, if_neg hnp, List.append_nil, hfirst,
        h.passed]
    · rw [hrun, h.late]
      constructor
      · rintro ⟨e, he, hlt⟩
        exact ⟨e, List.mem_append_left _ he, hlt⟩
      · rintro ⟨e, he, hlt⟩
        rcases List.mem_append.mp he with he | he
        · exact ⟨e, he, hlt⟩
        · -- the repeated delivery has the time of an earlier one
          obtain ⟨e', he', hkey⟩ := List.mem_map.mp hrep
          rw [List.mem_singleton.mp he] at hlt
          have heq := ht e' (List.mem_append_left _ he') d (by simp) hkey
          exact ⟨e', he', heq ▸ hlt⟩
  -- a fresh one passes, and is the newest
  · have hp := (h.passes_iff_of_fresh hrep).mpr hon
    have hfirst : firsts (before ++ [d]) = firsts before ++ [d.1] := by
      rw [firsts_concat, if_neg (mt mem_firsts.mp hrep)]
    rw [Filter.step_of_passes hp] at hrun
    refine ⟨?_, by rw [hrun, hfirst, h.seen, lastN_concat], fun t => ?_⟩
    · rw [Filter.passed_append, Filter.passed_singleton, if_pos hp, hfirst, h.passed]
    · rw [hrun]
      simp only [Filter.Late, Option.some.injEq, exists_eq_left']
      constructor
      · intro hlt
        exact ⟨d, by simp, hlt⟩
      · rintro ⟨e, he, hlt⟩
        rcases List.mem_append.mp he with he | he
        · exact lt_of_lt_of_le hlt (hon hrep e he)
        · rwa [List.mem_singleton.mp he] at hlt

theorem Tracks.passed_append (h : Tracks limit before) (d : κ × τ) (rest : List (κ × τ)) :
    (Filter.empty : Filter κ τ).passed limit (before ++ d :: rest) =
      firsts before ++ ((if ((Filter.empty : Filter κ τ).run limit before).Passes d then [d.1]
        else []) ++ (((Filter.empty : Filter κ τ).run limit before).step limit d).passed limit
          rest) := by
  rw [Filter.passed_append, h.passed, ← List.singleton_append, Filter.passed_append,
    Filter.passed_singleton]
  rfl

/-- A key that first arrives after a later one never passes. -/
theorem Tracks.onTime (h : Tracks limit before) (ht : Timed (before ++ d :: rest))
    (honce : ExactlyOnce limit (before ++ d :: rest)) : OnTime before d := by
  by_contra hon
  have hfresh : d.1 ∉ before.map Prod.fst := fun hk => hon fun hn => absurd hk hn
  have hnp := mt (h.passes_iff_of_fresh hfresh).mp hon
  have hlate : ∃ e ∈ before, d.2 < e.2 := by
    by_contra hall
    exact hon fun _ e he => not_lt.mp fun hlt => hall ⟨e, he, hlt⟩
  obtain ⟨m, hm, hlt⟩ := (h.late d.2).mpr hlate
  have hrest : d.1 ∉ ((Filter.empty : Filter κ τ).run limit before).passed limit rest :=
    Filter.not_mem_passed_of_late hm fun e he hk =>
      ht d (by simp) e (List.mem_append_right _ (List.mem_cons_of_mem _ he)) hk.symm ▸ hlt
  have hone := honce d.1 (by simp)
  rw [h.passed_append, if_neg hnp, Filter.step_of_not_passes hnp, List.nil_append,
    List.count_append, List.count_eq_zero_of_not_mem (mt mem_firsts.mp hfresh),
    List.count_eq_zero_of_not_mem hrest] at hone
  omega

/-- A key that arrives again uncovered passes a second time. -/
theorem Tracks.covered (h : Tracks limit before) (honce : ExactlyOnce limit (before ++ d :: rest)) :
    Covered limit before d := by
  by_contra hcov
  have hrep : d.1 ∈ before.map Prod.fst := by
    by_contra hn
    exact hcov fun hk => absurd hk hn
  have hp := (h.passes_iff_of_repeated hrep).mpr hcov
  have hone := honce d.1 (by simp)
  have hfirst := List.count_pos_iff.mpr (mem_firsts.mpr hrep)
  rw [h.passed_append, if_pos hp, List.count_append, List.count_append,
    List.count_singleton_self] at hone
  omega

end Step

/-- The run lemma: deliveries that are all on time and covered keep the filter on track. -/
theorem tracks_of_forall {limit : ℕ} {ds : List (κ × τ)} (ht : Timed ds)
    (h : ∀ before d after, ds = before ++ d :: after → OnTime before d ∧ Covered limit before d) :
    Tracks limit ds := by
  induction ds using List.reverseRecOn with
  | nil => exact tracks_nil limit
  | append_singleton ds d ih =>
    have htr := ih (fun a ha b hb => ht a (List.mem_append_left _ ha) b (List.mem_append_left _ hb))
      fun before e after heq => h before e (after ++ [d]) (by rw [heq]; simp)
    obtain ⟨hon, hcov⟩ := h ds d [] rfl
    exact htr.concat ht hon hcov

theorem forall_of_exactlyOnce {limit : ℕ} {before : List (κ × τ)} (htr : Tracks limit before)
    (ht : Timed (before ++ rest)) (honce : ExactlyOnce limit (before ++ rest)) :
    ∀ mid d after, rest = mid ++ d :: after →
      OnTime (before ++ mid) d ∧ Covered limit (before ++ mid) d := by
  induction rest generalizing before with
  | nil =>
    intro mid d after heq
    simp at heq
  | cons e rest ih =>
    have hon := htr.onTime ht honce
    have hcov := htr.covered honce
    intro mid d after heq
    cases mid with
    | nil =>
      obtain ⟨rfl, rfl⟩ := List.cons.inj heq
      rw [List.append_nil]
      exact ⟨hon, hcov⟩
    | cons e' mid =>
      obtain ⟨rfl, hrest⟩ := List.cons.inj heq
      have hassoc : before ++ e :: rest = before ++ [e] ++ rest := by simp
      have htr' : Tracks limit (before ++ [e]) :=
        htr.concat (fun a ha b hb => ht a (by rw [hassoc]; exact List.mem_append_left _ ha) b
          (by rw [hassoc]; exact List.mem_append_left _ hb)) hon hcov
      rw [hassoc] at ht honce
      have hind := ih htr' ht honce mid d after hrest
      rwa [List.append_assoc, List.singleton_append] at hind

/-- **Exactly once**: every key passes exactly once where each delivery is on time and
covered, and only there. -/
theorem exactlyOnce_iff (limit : ℕ) {ds : List (κ × τ)} (ht : Timed ds) :
    ExactlyOnce limit ds ↔
      ∀ before d after, ds = before ++ d :: after → OnTime before d ∧ Covered limit before d := by
  constructor
  · intro honce before d after heq
    exact forall_of_exactlyOnce (tracks_nil limit) ht honce before d after heq
  · intro h k hk
    rw [(tracks_of_forall ht h).passed]
    exact List.count_eq_one_of_mem (nodup_firsts ds) (mem_firsts.mpr hk)

end RecencyFilter
