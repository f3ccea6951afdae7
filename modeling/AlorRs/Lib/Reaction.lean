import AlorRs.Lib.History

/-!
# Systems that answer each event

A system is a step function: from a state and an event to the next state and an answer.  `after` is
the state that a sequence of events leads to, and `Always P` says that `P` holds of every event of
a sequence and the state that it meets.  An invariant that every step keeps under a condition `C`
holds as long as `C` does (`after_invariant`, `Always.of_invariant`).  Where the answers are lists,
`outputs` is what a sequence of events is answered by in all.
-/

namespace Reaction

variable {S E O : Type} (step : S → E → S × O)

/-- The state after some events. -/
def after : S → List E → S
  | s, [] => s
  | s, e :: events => after (step s e).1 events

/-- `P` holds of every event and the state that it meets. -/
def Always (P : S → E → Prop) : S → List E → Prop
  | _, [] => True
  | s, e :: events => P s e ∧ Always P (step s e).1 events

variable {step} {s : S} {events : List E} {P C : S → E → Prop} {I : S → Prop}

/-- Whether `P` holds all along can be computed by running the system. -/
instance Always.instDecidable [∀ s e, Decidable (P s e)] :
    (s : S) → (events : List E) → Decidable (Always step P s events)
  | _, [] => isTrue trivial
  | s, e :: events =>
    have : Decidable (Always step P (step s e).1 events) := instDecidable (step s e).1 events
    inferInstanceAs (Decidable (P s e ∧ Always step P (step s e).1 events))

/-- The state after a longer sequence. -/
theorem after_append (events' : List E) :
    after step s (events ++ events') = after step (after step s events) events' := by
  induction events generalizing s with
  | nil => rfl
  | cons e events ih => exact ih

theorem always_append {events' : List E} :
    Always step P s (events ++ events') ↔
      Always step P s events ∧ Always step P (after step s events) events' := by
  induction events generalizing s with
  | nil => simp [Always, after]
  | cons e events ih =>
    simp only [List.cons_append, Always, after, ih]
    rw [and_assoc]

/-- `Always` looks at every event of the sequence, after the events before it. -/
theorem always_iff :
    Always step P s events ↔ ∀ before e rest, events = before ++ e :: rest →
      P (after step s before) e := by
  constructor
  · rintro h before e rest rfl
    rw [always_append] at h
    exact h.2.1
  · intro h
    induction events generalizing s with
    | nil => exact True.intro
    | cons e events ih =>
      refine ⟨h [] e events rfl, ih fun before e' rest hrest => ?_⟩
      exact h (e :: before) e' rest (by rw [hrest, List.cons_append])

/-- What holds of every event in every state. -/
theorem Always.of_forall (h : ∀ s e, P s e) : Always step P s events := by
  induction events generalizing s with
  | nil => exact True.intro
  | cons e events ih => exact ⟨h s e, ih⟩

/-- What holds of the events of a sequence, whatever state they meet. -/
theorem Always.of_mem {p : E → Prop} (h : ∀ e ∈ events, p e) :
    Always step (fun _ e => p e) s events := by
  induction events generalizing s with
  | nil => exact True.intro
  | cons e events ih =>
    exact ⟨h e (List.mem_cons_self ..), ih fun e' hmem => h e' (List.mem_cons_of_mem _ hmem)⟩

theorem Always.mono {Q : S → E → Prop} (h : Always step P s events) (himp : ∀ s e, P s e → Q s e) :
    Always step Q s events := by
  induction events generalizing s with
  | nil => exact True.intro
  | cons e events ih => exact ⟨himp s e h.1, ih h.2⟩

/-- An invariant that every step keeps under a condition, which holds along the run. -/
theorem after_invariant (hstep : ∀ s e, I s → C s e → I (step s e).1) (hs : I s)
    (hC : Always step C s events) : I (after step s events) := by
  induction events generalizing s with
  | nil => exact hs
  | cons e events ih => exact ih (hstep s e hs hC.1) hC.2

/-- What an invariant and a condition give of every step holds along the run. -/
theorem Always.of_invariant (hstep : ∀ s e, I s → C s e → P s e ∧ I (step s e).1) (hs : I s)
    (hC : Always step C s events) : Always step P s events := by
  induction events generalizing s with
  | nil => exact True.intro
  | cons e events ih =>
    obtain ⟨hP, hI⟩ := hstep s e hs hC.1
    exact ⟨hP, ih hI hC.2⟩

/-- What two conditions share along a run: they agree on every event, in a state with an invariant, which
holds as long as the first one does. -/
theorem Always.iff_of_invariant (hiff : ∀ s e, I s → (P s e ↔ C s e))
    (hstep : ∀ s e, I s → P s e → I (step s e).1) (hs : I s) :
    Always step P s events ↔ Always step C s events := by
  induction events generalizing s with
  | nil => exact Iff.rfl
  | cons e events ih =>
    constructor
    · rintro ⟨hP, hrest⟩
      exact ⟨(hiff s e hs).mp hP, (ih (hstep s e hs hP)).mp hrest⟩
    · rintro ⟨hC, hrest⟩
      have hP : P s e := (hiff s e hs).mpr hC
      exact ⟨hP, (ih (hstep s e hs hP)).mpr hrest⟩

/-! ### Answers that are lists -/

section Outputs

variable {A : Type} {answer : S → E → S × List A}

def outputs (answer : S → E → S × List A) : S → List E → List A
  | _, [] => []
  | s, e :: events => (answer s e).2 ++ outputs answer (answer s e).1 events

/-- The answers to a longer sequence. -/
theorem outputs_append (events' : List E) :
    outputs answer s (events ++ events') =
      outputs answer s events ++ outputs answer (after answer s events) events' := by
  induction events generalizing s with
  | nil => rfl
  | cons e events ih =>
    rw [List.cons_append, outputs, ih, outputs, List.append_assoc]
    rfl

variable {J : S → List A → Prop}

/-- An invariant of the state and of what was answered so far. -/
theorem outputs_invariant {log : List A}
    (hstep : ∀ s e log, J s log → C s e → J (answer s e).1 (log ++ (answer s e).2)) (hs : J s log)
    (hC : Always answer C s events) : J (after answer s events) (log ++ outputs answer s events) := by
  induction events generalizing s log with
  | nil =>
    rw [outputs, List.append_nil]
    exact hs
  | cons e events ih =>
    have hrest := ih (hstep s e log hs hC.1) hC.2
    rw [List.append_assoc] at hrest
    exact hrest

/-- An invariant of the state and of what was answered so far, from which every answer is right
after the answers before it. -/
theorem outputs_eachAfter {R : List A → A → Prop} {log : List A}
    (hstep : ∀ s e log, J s log → C s e →
      History.EachAfter (fun before => R (log ++ before)) (answer s e).2 ∧
        J (answer s e).1 (log ++ (answer s e).2)) (hs : J s log) (hlog : History.EachAfter R log)
    (hC : Always answer C s events) : History.EachAfter R (log ++ outputs answer s events) := by
  induction events generalizing s log with
  | nil =>
    rw [outputs, List.append_nil]
    exact hlog
  | cons e events ih =>
    obtain ⟨hnew, hJ⟩ := hstep s e log hs hC.1
    have hextended := History.eachAfter_append.mpr ⟨hlog, hnew⟩
    have hrest := ih hJ hextended hC.2
    rw [List.append_assoc] at hrest
    exact hrest

end Outputs

end Reaction
