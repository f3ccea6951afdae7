import Mathlib.Data.List.Basic

/-!
# Computations that may fail

When a sequence of steps in `Except` succeeds, every step of it does.
-/

namespace Outcome

variable {E V W : Type} {first : Except E V} {rest : V → Except E W}

/-- A sequence succeeds when its first step does, and the rest with what that returns. -/
theorem bind_eq_ok {w : W} : first >>= rest = .ok w ↔ ∃ v, first = .ok v ∧ rest v = .ok w := by
  constructor
  · intro h
    cases first with
    | error e => cases h
    | ok v => exact ⟨v, rfl, h⟩
  · rintro ⟨v, rfl, hrest⟩
    exact hrest

theorem map_eq_ok {f : V → W} {w : W} : first.map f = .ok w ↔ ∃ v, first = .ok v ∧ f v = w := by
  constructor
  · intro h
    cases first with
    | error e => cases h
    | ok v => exact ⟨v, rfl, Except.ok.inj h⟩
  · rintro ⟨v, rfl, rfl⟩
    rfl

def ensure (condition : Bool) (message : E) : Except E Unit :=
  if condition then .ok () else .error message

variable {condition : Bool} {message : E}

theorem ensure_bind_eq_ok {rest : Unit → Except E W} {w : W} :
    ensure condition message >>= rest = .ok w ↔ condition = true ∧ rest () = .ok w := by
  cases condition with
  | true => exact ⟨fun h => ⟨rfl, h⟩, fun h => h.2⟩
  | false =>
    constructor
    · intro h
      cases h
    · intro h
      cases h.1

theorem ensure_eq_ok : ensure condition message = .ok () ↔ condition = true := by
  cases condition with
  | true => exact ⟨fun _ => rfl, fun _ => rfl⟩
  | false => exact ⟨fun h => (nomatch h), fun h => (nomatch h)⟩

variable {vs : List V}

/-- Steps that all succeed return what each of them does. -/
theorem mapM_of_ok {f : V → Except E W} {g : V → W} (h : ∀ v ∈ vs, f v = .ok (g v)) :
    vs.mapM f = .ok (vs.map g) := by
  induction vs with
  | nil => rfl
  | cons v vs ih =>
    obtain ⟨hv, hvs⟩ := List.forall_mem_cons.mp h
    rw [List.mapM_cons, hv, ih hvs]
    rfl

/-- When all steps succeed, each of them does. -/
theorem exists_of_mapM {f : V → Except E W} {ws : List W} (h : vs.mapM f = .ok ws) :
    ∀ v ∈ vs, ∃ w, f v = .ok w := by
  induction vs generalizing ws with
  | nil => exact fun _ hmem => absurd hmem List.not_mem_nil
  | cons v vs ih =>
    rw [List.mapM_cons] at h
    obtain ⟨w, hv, hrest⟩ := bind_eq_ok.mp h
    obtain ⟨ws', hvs, -⟩ := bind_eq_ok.mp hrest
    exact List.forall_mem_cons.mpr ⟨⟨w, hv⟩, ih hvs⟩

/-- A check of every entry that succeeds returns the entries. -/
theorem mapM_check {f : V → Except E V} (hf : ∀ v w, f v = .ok w → w = v) {ws : List V}
    (h : vs.mapM f = .ok ws) : ws = vs ∧ ∀ v ∈ vs, f v = .ok v := by
  induction vs generalizing ws with
  | nil =>
    exact ⟨(Except.ok.inj h).symm, fun _ hmem => absurd hmem List.not_mem_nil⟩
  | cons v vs ih =>
    rw [List.mapM_cons] at h
    obtain ⟨w, hv, hrest⟩ := bind_eq_ok.mp h
    obtain ⟨ws', hvs, hws⟩ := bind_eq_ok.mp hrest
    obtain ⟨rfl, hall⟩ := ih hvs
    have hw : w = v := hf v w hv
    rw [hw] at hv hws
    exact ⟨(Except.ok.inj hws).symm, List.forall_mem_cons.mpr ⟨hv, hall⟩⟩

/-- A check that succeeds for every entry succeeds. -/
theorem mapM_of_check {f : V → Except E V} (h : ∀ v ∈ vs, f v = .ok v) : vs.mapM f = .ok vs := by
  induction vs with
  | nil => rfl
  | cons v vs ih =>
    obtain ⟨hv, hvs⟩ := List.forall_mem_cons.mp h
    rw [List.mapM_cons, hv, ih hvs]
    rfl

/-! ### Two computations -/

/-- Two computations that fail alike, or whose results are related. -/
inductive Both {V' : Type} (R : V → V' → Prop) : Except E V → Except E V' → Prop
  | ok {v : V} {v' : V'} (h : R v v') : Both R (.ok v) (.ok v')
  | error (e : E) : Both R (.error e) (.error e)

namespace Both

variable {V' W' : Type} {R : V → V' → Prop} {S : W → W' → Prop} {first' : Except E V'}

/-- Steps one after the other, where the rest goes on from related results. -/
theorem bind {rest' : V' → Except E W'} (h : Both R first first')
    (hrest : ∀ v v', R v v' → Both S (rest v) (rest' v')) :
    Both S (first >>= rest) (first' >>= rest') := by
  cases h with
  | ok hv => exact hrest _ _ hv
  | error e => exact .error e

/-- The same step first. -/
theorem bind_same {rest' : V → Except E W'} (hrest : ∀ v, first = .ok v → Both S (rest v) (rest' v)) :
    Both S (first >>= rest) (first >>= rest') := by
  cases first with
  | ok v => exact hrest v rfl
  | error e => exact .error e

/-- The same check first. -/
theorem ensure_bind {rest : Unit → Except E W} {rest' : Unit → Except E W'}
    (hrest : condition = true → Both S (rest ()) (rest' ())) :
    Both S (ensure condition message >>= rest) (ensure condition message >>= rest') :=
  bind_same fun _ hcheck => hrest (ensure_eq_ok.mp hcheck)

theorem mono {R' : V → V' → Prop} (h : Both R first first') (hR : ∀ v v', R v v' → R' v v') :
    Both R' first first' := by
  cases h with
  | ok hv => exact .ok (hR _ _ hv)
  | error e => exact .error e

/-- When the second one succeeds, so does the first, with a related result. -/
theorem exists_of_ok {v' : V'} (h : Both R first first') (hok : first' = .ok v') :
    ∃ v, first = .ok v ∧ R v v' := by
  cases h with
  | ok hv =>
    obtain rfl := Except.ok.inj hok
    exact ⟨_, rfl, hv⟩
  | error e => exact (nomatch hok)

end Both

/-! ### Many steps -/

section Steps

variable {S L : Type}

def states (step : S → V → Except E S) : S → List V → Except E (List S)
  | _, [] => .ok []
  | s, v :: vs => do
    let s ← step s v
    let later ← states step s vs
    return s :: later

def logged (step : S → V → Except E (S × List L)) : S → List V → Except E (S × List L)
  | s, [] => .ok (s, [])
  | s, v :: vs => do
    let (s, log) ← step s v
    let (last, later) ← logged step s vs
    return (last, log ++ later)

variable {step : S → V → Except E (S × List L)} {s last : S} {v : V} {vs ws : List V} {log : List L}

theorem logged_cons_eq_ok :
    logged step s (v :: vs) = .ok (last, log) ↔
      ∃ mid first later, step s v = .ok (mid, first) ∧ logged step mid vs = .ok (last, later) ∧
        log = first ++ later := by
  show (step s v >>= _) = _ ↔ _
  rw [bind_eq_ok]
  constructor
  · rintro ⟨⟨mid, first⟩, hstep, hrest⟩
    obtain ⟨⟨last', later⟩, hlater, hlast⟩ := bind_eq_ok.mp hrest
    obtain ⟨rfl, rfl⟩ := Prod.mk.inj (Except.ok.inj hlast)
    exact ⟨mid, first, later, hstep, hlater, rfl⟩
  · rintro ⟨mid, first, later, hstep, hlater, rfl⟩
    exact ⟨(mid, first), hstep, bind_eq_ok.mpr ⟨(last, later), hlater, rfl⟩⟩

/-- The steps before and after a point. -/
theorem logged_append_eq_ok :
    logged step s (vs ++ ws) = .ok (last, log) ↔
      ∃ mid first later, logged step s vs = .ok (mid, first) ∧ logged step mid ws = .ok (last, later) ∧
        log = first ++ later := by
  induction vs generalizing s log with
  | nil =>
    constructor
    · exact fun h => ⟨s, [], log, rfl, h, rfl⟩
    · rintro ⟨mid, first, later, hfirst, hlater, rfl⟩
      obtain ⟨rfl, rfl⟩ := Prod.mk.inj (Except.ok.inj hfirst)
      exact hlater
  | cons v vs ih =>
    rw [List.cons_append, logged_cons_eq_ok]
    constructor
    · rintro ⟨mid, first, later, hstep, hrest, rfl⟩
      obtain ⟨mid', first', later', hvs, hws, rfl⟩ := ih.mp hrest
      exact ⟨mid', first ++ first', later', logged_cons_eq_ok.mpr ⟨mid, first, first', hstep, hvs, rfl⟩,
        hws, (List.append_assoc ..).symm⟩
    · rintro ⟨mid', firsts, later', hfirst, hws, rfl⟩
      obtain ⟨mid, first, first', hstep, hvs, rfl⟩ := logged_cons_eq_ok.mp hfirst
      exact ⟨mid, first, first' ++ later', hstep, ih.mpr ⟨mid', first', later', hvs, hws, rfl⟩,
        List.append_assoc ..⟩

/-- What every step keeps. -/
theorem logged_keeps {P : S → Prop}
    (hstep : ∀ v ∈ vs, ∀ s s' log, P s → step s v = .ok (s', log) → P s') (hs : P s)
    (h : logged step s vs = .ok (last, log)) : P last := by
  induction vs generalizing s log with
  | nil =>
    obtain ⟨rfl, -⟩ := Prod.mk.inj (Except.ok.inj h)
    exact hs
  | cons v vs ih =>
    obtain ⟨mid, first, later, hfirst, hrest, -⟩ := logged_cons_eq_ok.mp h
    obtain ⟨hv, hvs⟩ := List.forall_mem_cons.mp hstep
    exact ih hvs (hv _ _ _ hs hfirst) hrest

end Steps

end Outcome
