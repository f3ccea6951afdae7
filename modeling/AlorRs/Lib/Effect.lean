import Mathlib.Order.Defs.Unbundled

/-!
# Computations with an environment, a state and failures

An `Eff` computation reads an environment, updates a state and may fail; what it did to the
state before a failure stays done.  `wp` is its weakest precondition, for a postcondition of the
result and one of the failure.  `Within` says that a computation moves the state along a preorder
and `Extends` is the preorder of the states whose log grows by good entries.
-/

/-- Computations over an environment `E` and a state `S` that fail with an `ε`. -/
def Eff (E ε S α : Type) : Type := E → S → Except ε α × S

namespace Eff

variable {E ε S α β : Type} (outcome : Except ε α) (m : Eff E ε S α) (f : α → Eff E ε S β) (e : E)
  (s : S)

/-- The result and the final state of a computation. -/
def run : Except ε α × S := m e s

instance : Monad (Eff E ε S) where
  pure a := fun _ s => (.ok a, s)
  bind m f := fun e s =>
    match m e s with
    | (.ok a, t) => f a e t
    | (.error x, t) => (.error x, t)

/-- The environment. -/
def read : Eff E ε S E := fun e s => (.ok e, s)

/-- The state. -/
def get : Eff E ε S S := fun _ s => (.ok s, s)

/-- Updates the state. -/
def modify (f : S → S) : Eff E ε S Unit := fun _ s => (.ok (), f s)

def fail (x : ε) : Eff E ε S α := fun _ s => (.error x, s)

/-- A result or a failure that is there already. -/
def ofExcept : Eff E ε S α := fun _ s => (outcome, s)

/-- Runs a computation whose failure does not end the caller. -/
def attempt : Eff E ε S (Except ε α) := fun e s => (.ok (m.run e s).1, (m.run e s).2)

/-- The final state of a computation. -/
def post : S := (m.run e s).2

/-- A run that ended well. -/
theorem run_eq_of_isOk {m : Eff E ε S Unit} {e : E} {s : S} (h : (m.run e s).1.isOk = true) :
    m.run e s = (.ok (), m.post e s) := by
  unfold post
  generalize m.run e s = out at *
  rcases out with ⟨_ | _, t⟩
  · cases h
  · rfl

theorem post_bind :
    (m >>= f).post e s = match m.run e s with
      | (.ok a, t) => (f a).post e t
      | (.error _, t) => t := by
  simp only [post, run, bind]
  rcases m e s with ⟨_ | a, t⟩ <;> rfl

theorem run_bind :
    (m >>= f).run e s = match m.run e s with
      | (.ok a, t) => (f a).run e t
      | (.error x, t) => (.error x, t) := rfl

theorem run_read_bind (f : E → Eff E ε S β) (e : E) (s : S) :
    (read >>= f).run e s = (f e).run e s := rfl

theorem run_get_bind (f : S → Eff E ε S β) (e : E) (s : S) : (get >>= f).run e s = (f s).run e s := rfl

theorem run_ofExcept_bind :
    (ofExcept outcome >>= f).run e s = match outcome with
      | .ok a => (f a).run e s
      | .error x => (.error x, s) := by
  cases outcome with
  | ok a => rfl
  | error x => rfl

/-! ### Weakest preconditions -/

/-- From `s`, a result satisfies `Q` and a failure satisfies `R`, with the state it leaves. -/
def wp (Q : α → S → Prop) (R : ε → S → Prop) : Prop :=
  match m.run e s with
  | (.ok a, t) => Q a t
  | (.error x, t) => R x t

variable {m : Eff E ε S α} {t : S}

section Wp

variable {e : E} {s : S} {Q : α → S → Prop} {R : ε → S → Prop}

@[simp] theorem wp_pure (a : α) : wp (pure a : Eff E ε S α) e s Q R ↔ Q a s := Iff.rfl

@[simp] theorem wp_read {Q : E → S → Prop} : wp (read : Eff E ε S E) e s Q R ↔ Q e s := Iff.rfl

@[simp] theorem wp_get {Q : S → S → Prop} : wp (get : Eff E ε S S) e s Q R ↔ Q s s := Iff.rfl

@[simp] theorem wp_modify {Q : Unit → S → Prop} (f : S → S) :
    wp (modify f : Eff E ε S Unit) e s Q R ↔ Q () (f s) := Iff.rfl

@[simp] theorem wp_ofExcept {outcome : Except ε α} :
    wp (ofExcept outcome : Eff E ε S α) e s Q R ↔
      (∀ a, outcome = .ok a → Q a s) ∧ ∀ x, outcome = .error x → R x s := by
  unfold wp run ofExcept
  cases outcome with
  | ok a => simp
  | error x => simp

@[simp] theorem wp_bind {m : Eff E ε S α} {f : α → Eff E ε S β} {Q : β → S → Prop} :
    wp (m >>= f) e s Q R ↔ wp m e s (fun a t => wp (f a) e t Q R) R := by
  simp only [wp, run, bind]
  rcases m e s with ⟨_ | a, t⟩ <;> rfl

@[simp] theorem wp_attempt {Q : Except ε α → S → Prop} :
    wp (attempt m) e s Q R ↔ wp m e s (fun a => Q (.ok a)) fun x => Q (.error x) := by
  simp only [wp, attempt, run]
  rcases m e s with ⟨_ | a, t⟩ <;> rfl

theorem wp_mono {Q' : α → S → Prop} {R' : ε → S → Prop} (h : wp m e s Q R)
    (hQ : ∀ a t, Q a t → Q' a t) (hR : ∀ x t, R x t → R' x t) : wp m e s Q' R' := by
  unfold wp at *
  generalize m.run e s = out at *
  rcases out with ⟨x | a, t⟩
  · exact hR x t h
  · exact hQ a t h

theorem wp_and {Q' : α → S → Prop} {R' : ε → S → Prop} (h : wp m e s Q R) (h' : wp m e s Q' R') :
    wp m e s (fun a t => Q a t ∧ Q' a t) (fun x t => R x t ∧ R' x t) := by
  unfold wp at *
  generalize m.run e s = out at *
  rcases out with ⟨x | a, t⟩ <;> exact ⟨h, h'⟩

/-- A run that ended well satisfies the postcondition. -/
theorem wp_ok {a : α} (h : wp m e s Q R) (hrun : m.run e s = (.ok a, t)) : Q a t := by
  rw [wp, hrun] at h
  exact h

/-- What holds of results and failures alike holds of the final state. -/
theorem wp_post {I : S → Prop} (h : wp m e s (fun _ => I) fun _ => I) : I (m.post e s) := by
  unfold wp at h
  unfold post
  generalize m.run e s = out at *
  rcases out with ⟨x | a, t⟩ <;> exact h

theorem wp_self (m : Eff E ε S α) :
    wp m e s (fun a t => m.run e s = (.ok a, t)) (fun x t => m.run e s = (.error x, t)) := by
  unfold wp
  rcases m.run e s with ⟨x | a, t⟩ <;> rfl

/-- A postcondition of every run. -/
theorem wp_iff_run :
    wp m e s Q R ↔ (∀ a t, m.run e s = (.ok a, t) → Q a t) ∧
      ∀ x t, m.run e s = (.error x, t) → R x t := by
  unfold wp
  rcases m.run e s with ⟨x | a, t⟩ <;> simp

end Wp

/-! ### Moving along a preorder -/

/-- Every run of `m`, failing or not, relates the states before and after by `R`. -/
def Within (R : S → S → Prop) (m : Eff E ε S α) : Prop :=
  ∀ s, wp m e s (fun _ t => R s t) fun _ t => R s t

abbrev WithinFrom (R : S → S → Prop) (m : Eff E ε S α) (s : S) : Prop :=
  wp m e s (fun _ t => R s t) fun _ t => R s t

section Within

variable {e : E} {R : S → S → Prop}

theorem Within.mono {R' : S → S → Prop} (h : Within e R m) (himp : ∀ s t, R s t → R' s t) :
    Within e R' m :=
  fun s => wp_mono (h s) (fun _ t => himp s t) (fun _ t => himp s t)

theorem Within.post (h : Within e R m) (s : S) : R s (m.post e s) :=
  wp_post (h s)

theorem within_modify {f : S → S} (h : ∀ s, R s (f s)) :
    Within e R (modify f : Eff E ε S Unit) := h

theorem within_pure [Std.Refl R] (a : α) : Within e R (pure a : Eff E ε S α) :=
  fun s => Std.Refl.refl s

theorem within_fail [Std.Refl R] (x : ε) : Within e R (fail x : Eff E ε S α) :=
  fun s => Std.Refl.refl s

theorem within_attempt (h : Within e R m) : Within e R (attempt m) :=
  fun s => wp_attempt.mpr (h s)

theorem within_read_bind {f : E → Eff E ε S β} (hf : Within e R (f e)) :
    Within e R (read >>= f) := hf

theorem within_get_bind {f : S → Eff E ε S β} (hf : ∀ s, Within e R (f s)) :
    Within e R (get >>= f) := fun s => hf s s

variable [IsTrans S R] {f : α → Eff E ε S β}

/-- The next step may know the state that the last one left. -/
theorem wp_bind_within {s : S} (hm : wp m e s (fun _ t => R s t) fun _ t => R s t)
    (hf : ∀ a t, R s t → wp (f a) e t (fun _ u => R t u) fun _ u => R t u) :
    wp (m >>= f) e s (fun _ u => R s u) fun _ u => R s u := by
  rw [wp_bind]
  refine wp_mono hm (fun a t ht => ?_) (fun _ _ ht => ht)
  exact wp_mono (hf a t ht) (fun _ _ hu => trans_of R ht hu) (fun _ _ hu => trans_of R ht hu)

theorem within_bind (hm : Within e R m) (hf : ∀ a, Within e R (f a)) : Within e R (m >>= f) :=
  fun s => wp_bind_within (hm s) fun a t _ => hf a t

end Within

/-! ### Logs -/

section Logs

variable {V : Type} {log : S → List V} {p q : V → Prop}

def Extends (log : S → List V) (p : V → Prop) (s t : S) : Prop :=
  ∃ new, log t = log s ++ new ∧ ∀ v ∈ new, p v

theorem Extends.of_eq {s : S} (h : log t = log s) : Extends log p s t :=
  ⟨[], by rw [h, List.append_nil], fun _ hv => absurd hv (List.not_mem_nil)⟩

theorem Extends.push {s : S} {v : V} (h : log t = log s ++ [v]) (hv : p v) : Extends log p s t :=
  ⟨[v], h, fun _ hw => by rw [List.mem_singleton.mp hw]; exact hv⟩

theorem Extends.trans {s u : S} (h : Extends log p s t) (h' : Extends log p t u) :
    Extends log p s u := by
  obtain ⟨new, hlog, hnew⟩ := h
  obtain ⟨new', hlog', hnew'⟩ := h'
  refine ⟨new ++ new', by rw [hlog', hlog, List.append_assoc], fun v hv => ?_⟩
  rcases List.mem_append.mp hv with hv | hv
  · exact hnew v hv
  · exact hnew' v hv

theorem Extends.mono {s : S} (h : Extends log p s t) (himp : ∀ v, p v → q v) : Extends log q s t := by
  obtain ⟨new, hlog, hnew⟩ := h
  exact ⟨new, hlog, fun v hv => himp v (hnew v hv)⟩

instance : Std.Refl (Extends log p) := ⟨fun _ => .of_eq rfl⟩

instance : IsTrans S (Extends log p) := ⟨fun _ _ _ => .trans⟩

end Logs

end Eff
