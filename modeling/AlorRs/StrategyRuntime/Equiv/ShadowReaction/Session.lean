import AlorRs.StrategyRuntime.Equiv.ShadowReaction.Book

/-!
# Sessions of the reaction models

The labels of the bars of a complete session, ten minutes apart up to 23:40, and how late a position
can be held (`Waiting`) when MR leaves by a time of its own and BO at 23:30: an exit that is decided
at a bar has a bar to be filled at, and after the last bar nothing is open (`Waiting.flat`).
-/

namespace AlorRs.ShadowReaction

def label (date : NaiveDate) (secs : ℕ) : NaiveDateTime := ⟨date, ⟨secs, 0⟩⟩

def IsSessionFrom (date : NaiveDate) : ℕ → List Bar → Prop
  | secs, [] => secs = 85800
  | secs, b :: bars =>
    b.tsLocal = label date secs ∧ secs ≤ 85200 ∧ IsSessionFrom date (secs + 600) bars

variable {date : NaiveDate} {secs : ℕ} {b : Bar} {bars : List Bar}

theorem le_label {hour minute : ℕ} :
    (time hour minute).le (label date secs).time = decide (hour * 3600 + minute * 60 ≤ secs) := by
  unfold NaiveTime.le time NaiveTime.fromHms label
  rw [Bool.eq_iff_iff]
  simp only [add_zero, le_refl, decide_true, Bool.and_true, Bool.or_eq_true, decide_eq_true_eq,
    beq_iff_eq]
  omega

theorem label_le {hour minute : ℕ} :
    (label date secs).time.le (time hour minute) = decide (secs ≤ hour * 3600 + minute * 60) := by
  unfold NaiveTime.le time NaiveTime.fromHms label
  rw [Bool.eq_iff_iff]
  simp only [add_zero, le_refl, decide_true, Bool.and_true, Bool.or_eq_true, decide_eq_true_eq,
    beq_iff_eq]
  omega

theorem addSecs_label (h : secs + 600 < 86400) : (label date secs).addSecs 600 = label date (secs + 600) := by
  unfold NaiveDateTime.addSecs NaiveDateTime.secs label daySeconds
  have hdate : ∀ d : ℤ, (d * 86400 + (secs : ℤ) + 600) / 86400 = d := fun d => by omega
  have htime : ∀ d : ℤ, (d * 86400 + (secs : ℤ) + 600) % 86400 = ((secs + 600 : ℕ) : ℤ) :=
    fun d => by omega
  rw [hdate, htime, Int.toNat_natCast]

theorem IsSessionFrom.dvd (h : IsSessionFrom date secs bars) : 600 ∣ secs := by
  induction bars generalizing secs with
  | nil =>
    obtain rfl : secs = 85800 := h
    exact ⟨143, rfl⟩
  | cons b bars ih =>
    have hlater := ih h.2.2
    omega

theorem foldlM_session {σ ε : Type} {step : σ → Bar → Except ε σ} {Waits : ℕ → List Bar → σ → Prop}
    (hstep : ∀ {secs bars s b}, Waits secs bars s → b.tsLocal = label date secs → 600 ∣ secs →
      secs ≤ 85200 → ∃ s', step s b = .ok s' ∧ Waits (secs + 600) (bars ++ [b]) s')
    {s : σ} {later : List Bar} (h : Waits secs bars s) (hlater : IsSessionFrom date secs later) :
    ∃ s', later.foldlM step s = .ok s' ∧ Waits 85800 (bars ++ later) s' := by
  induction later generalizing secs bars s with
  | nil =>
    obtain rfl : secs = 85800 := hlater
    rw [List.append_nil]
    exact ⟨s, rfl, h⟩
  | cons b later ih =>
    obtain ⟨hb, hle, hrest⟩ := id hlater
    obtain ⟨s₁, hok, hwaits⟩ := hstep h hb hlater.dvd hle
    obtain ⟨s', hfold, hend⟩ := ih hwaits hrest
    refine ⟨s', ?_, ?_⟩
    · rw [List.foldlM_cons, hok]
      exact hfold
    · rw [List.append_assoc] at hend
      exact hend

def steadySession (date : NaiveDate) : ℕ → List Bar
  | 0 => []
  | n + 1 => ⟨label date (85800 - 600 * (n + 1)), 100, 100, 100, 100, 1⟩ :: steadySession date n

theorem isSessionFrom_steadySession {n : ℕ} (h : n ≤ 143) :
    IsSessionFrom date (85800 - 600 * n) (steadySession date n) := by
  induction n with
  | zero => rfl
  | succ n ih =>
    have hlater := ih (by omega)
    rw [show 85800 - 600 * n = 85800 - 600 * (n + 1) + 600 by omega] at hlater
    exact ⟨rfl, by omega, hlater⟩

/-! ### The book through a session -/

/-- The last second at which an owner can hold a position. -/
def latest (force : ℕ) : Owner → ℕ
  | .mr => force
  | .bo => 84600

theorem latest_le {force : ℕ} (h : force ≤ 84600) (owner : Owner) : latest force owner ≤ 84600 := by
  cases owner with
  | mr => exact h
  | bo => exact le_rfl

namespace Book

structure Opened (force secs : ℕ) (bars : List Bar) (book : Book) : Prop where
  sound : book.Sound bars
  pending : book.pending = none
  held : ∀ fill ∈ book.opened, secs ≤ latest force fill.order.owner

structure Waiting (force : ℕ) (date : NaiveDate) (secs : ℕ) (bars : List Bar) (book : Book) : Prop where
  sound : book.Sound bars
  due : ∀ order ∈ book.pending, order.time = label date secs ∧ secs ≤ 85200
  entry : ∀ order ∈ book.pending, order.isExit = false → secs ≤ latest force order.owner
  held : book.pending = none → ∀ fill ∈ book.opened, secs ≤ latest force fill.order.owner

variable {force : ℕ} {book : Book} {fill : Fill}

theorem Waiting.empty (force : ℕ) (date : NaiveDate) (secs : ℕ) : Waiting force date secs [] empty :=
  ⟨.empty, fun _ h => (nomatch h), fun _ h => (nomatch h), fun _ _ h => (nomatch h)⟩

theorem Waiting.execute (h : Waiting force date secs bars book) (hb : b.tsLocal = label date secs) :
    Opened force secs (bars ++ [b]) (book.execute b.open) := by
  have htime : ∀ order ∈ book.pending, order.time = b.tsLocal := by
    intro order horder
    exact (h.due order horder).1.trans hb.symm
  obtain ⟨hsound, hnone⟩ := h.sound.execute htime
  refine ⟨hsound, hnone, ?_⟩
  intro fill hfill
  cases hpending : book.pending with
  | none =>
    rw [execute_of_none hpending] at hfill
    exact h.held hpending fill hfill
  | some order =>
    cases hkind : order.isExit with
    | false =>
      rw [execute_of_entry hpending hkind] at hfill
      obtain rfl := Option.some.inj hfill
      exact h.entry order hpending hkind
    | true =>
      have hfits := (h.sound.pending order hpending).1
      unfold Fits at hfits
      rw [if_pos hkind] at hfits
      obtain ⟨entry, hopened, -⟩ := hfits
      rw [execute_of_exit hpending hkind hopened] at hfill
      exact (nomatch hfill)

theorem Waiting.flat (h : Waiting force date 85800 bars book) (hforce : force ≤ 84600) :
    book.opened = none ∧ book.pending = none := by
  have hpending : book.pending = none := by
    cases horder : book.pending with
    | none => rfl
    | some order =>
      have hle := (h.due order horder).2
      omega
  refine ⟨?_, hpending⟩
  cases hfill : book.opened with
  | none => rfl
  | some fill =>
    have hle := h.held hpending fill hfill
    have hlatest := latest_le hforce fill.order.owner
    omega

/-- A position that is held has a bar to be left at. -/
theorem Opened.secs_lt (h : Opened force secs bars book) (hforce : force ≤ 84600)
    (hopened : book.opened = some fill) : secs < 85200 := by
  have hle := h.held fill hopened
  have hlatest := latest_le hforce fill.order.owner
  omega

theorem Opened.stay (h : Opened force secs bars book)
    (hstay : ∀ fill ∈ book.opened, secs + 600 ≤ latest force fill.order.owner) :
    Waiting force date (secs + 600) bars book := by
  refine ⟨h.sound, ?_, ?_, fun _ => hstay⟩
  all_goals
    intro order horder
    rw [h.pending] at horder
    exact (nomatch horder)

theorem Opened.place {order : Order} (h : Opened force secs bars book)
    (hb : b.tsLocal = label date secs) (hdvd : 600 ∣ secs) (hlast : bars.getLast? = some b)
    (hlt : secs < 85200) (hfits : book.Fits order) (hsignal : order.signal = b.tsLocal)
    (htime : order.time = b.boundary)
    (hentry : order.isExit = false → secs + 600 ≤ latest force order.owner) :
    Waiting force date (secs + 600) bars (book.place order) := by
  have hboundary : b.boundary = label date (secs + 600) := by
    unfold Bar.boundary
    rw [hb, addSecs_label (by omega)]
  refine ⟨h.sound.place hfits hlast hsignal htime, ?_, ?_, fun hnone => (nomatch hnone)⟩
  · rintro _ ⟨⟩
    exact ⟨htime.trans hboundary, by omega⟩
  · rintro _ ⟨⟩
    exact hentry

end Book

def nextOf (secs : ℕ) (b : Bar) : Option NaiveDateTime := if secs < 85200 then some b.boundary else none

/-- The models look at the time of a bar for the next one. -/
theorem nextOf_eq (hb : b.tsLocal = label date secs) :
    (if !(time 23 40).le b.time then some b.boundary else none) = nextOf secs b := by
  unfold nextOf Bar.time
  rw [hb, le_label]
  simp

theorem nextOf_of_lt (h : secs < 85200) : nextOf secs b = some b.boundary := if_pos h

end AlorRs.ShadowReaction
