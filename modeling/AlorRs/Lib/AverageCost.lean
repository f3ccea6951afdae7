import Mathlib.Algebra.Order.Field.Basic
import Mathlib.Tactic.Linarith
import Mathlib.Tactic.Ring

/-!
# Average-cost accounting

A position over an ordered field is a signed quantity with the cost of what is open and the
profit realised so far.  A fill of signed quantity `dq` at price `p` adds to the position,
reduces it, or closes it and opens the other side.  `fills_realized` is the conservation law:
whatever the order of the fills, realised profit minus open cost is the cash received.  The
profit splits into what reductions and what closes contribute (`fills_realized_split`).
-/

namespace AverageCost

variable {K : Type*}

/-- A signed quantity, the (signed) cost of it, and the profit realised so far. -/
@[ext] structure Position (K : Type*) where
  qty : K
  cost : K
  realized : K

/-- A fill of signed quantity `qty` (negative for a sale) at `price`. -/
structure Fill (K : Type*) where
  qty : K
  price : K

variable {b : Position K}

section Field

variable [Field K]

def Position.empty : Position K := ⟨0, 0, 0⟩

def Position.average (b : Position K) : K := b.cost / b.qty

theorem Position.average_mul_qty (h : b.qty ≠ 0) : b.average * b.qty = b.cost :=
  div_mul_cancel₀ _ h

/-- Nothing open costs nothing. -/
def Position.Balanced (b : Position K) : Prop := b.qty = 0 → b.cost = 0

theorem Position.balanced_empty : (empty : Position K).Balanced := fun _ => rfl

/-- The cash received over a sequence of fills: sale proceeds less purchase costs. -/
def cash (fs : List (Fill K)) : K := (fs.map fun f => -(f.qty * f.price)).sum

/-- The signed quantity of a sequence of fills. -/
def netQty (fs : List (Fill K)) : K := (fs.map Fill.qty).sum

end Field

namespace Position

variable [Field K] [LinearOrder K]

def Opposes (b : Position K) (f : Fill K) : Prop := b.qty * f.qty < 0

/-- `f` trades against the open position and leaves a part of it open. -/
def Reduces (b : Position K) (f : Fill K) : Prop := b.Opposes f ∧ |f.qty| < |b.qty|

/-- `f` trades against the open position and uses it up. -/
def Closes (b : Position K) (f : Fill K) : Prop := b.Opposes f ∧ |b.qty| ≤ |f.qty|

instance (b : Position K) (f : Fill K) : Decidable (b.Opposes f) :=
  inferInstanceAs (Decidable (_ < _))

instance (b : Position K) (f : Fill K) : Decidable (b.Reduces f) :=
  inferInstanceAs (Decidable (_ ∧ _))

instance (b : Position K) (f : Fill K) : Decidable (b.Closes f) :=
  inferInstanceAs (Decidable (_ ∧ _))

def reductionGain (b : Position K) (f : Fill K) : K :=
  if b.Reduces f then (b.average - f.price) * f.qty else 0

def closingGain (b : Position K) (f : Fill K) : K :=
  if b.Closes f then (f.price - b.average) * b.qty else 0

def costAfter (b : Position K) (f : Fill K) : K :=
  if b.Reduces f then b.cost + b.average * f.qty
  else if b.Closes f then (b.qty + f.qty) * f.price
  else b.cost + f.qty * f.price

def fill (b : Position K) (f : Fill K) : Position K where
  qty := b.qty + f.qty
  cost := b.costAfter f
  realized := b.realized + b.reductionGain f + b.closingGain f

def fills (b : Position K) (fs : List (Fill K)) : Position K := fs.foldl fill b

def reductionGains (b : Position K) : List (Fill K) → K
  | [] => 0
  | f :: fs => b.reductionGain f + (b.fill f).reductionGains fs

def closingGains (b : Position K) : List (Fill K) → K
  | [] => 0
  | f :: fs => b.closingGain f + (b.fill f).closingGains fs

@[simp] theorem fills_nil (b : Position K) : b.fills [] = b := rfl

@[simp] theorem fills_cons (b : Position K) (f : Fill K) (fs : List (Fill K)) :
    b.fills (f :: fs) = (b.fill f).fills fs := rfl

theorem fills_append (b : Position K) (fs gs : List (Fill K)) :
    b.fills (fs ++ gs) = (b.fills fs).fills gs := List.foldl_append

theorem closingGains_append (b : Position K) (fs gs : List (Fill K)) :
    b.closingGains (fs ++ gs) = b.closingGains fs + (b.fills fs).closingGains gs := by
  induction fs generalizing b with
  | nil => simp [closingGains]
  | cons f fs ih => simp only [List.cons_append, closingGains, ih, fills_cons, add_assoc]

variable {f : Fill K}

theorem Opposes.qty_ne_zero (h : b.Opposes f) : b.qty ≠ 0 := by
  intro hz
  simp [Opposes, hz] at h

theorem Reduces.not_closes (h : b.Reduces f) : ¬ b.Closes f :=
  fun hc => absurd h.2 (not_lt.mpr hc.2)

theorem Opposes.reduces_or_closes (h : b.Opposes f) : b.Reduces f ∨ b.Closes f := by
  rcases lt_or_ge |f.qty| |b.qty| with hlt | hge
  · exact .inl ⟨h, hlt⟩
  · exact .inr ⟨h, hge⟩

theorem fill_of_not_opposes (h : ¬ b.Opposes f) :
    b.fill f = ⟨b.qty + f.qty, b.cost + f.qty * f.price, b.realized⟩ := by
  have hr : ¬ b.Reduces f := fun hr => h hr.1
  have hc : ¬ b.Closes f := fun hc => h hc.1
  simp only [fill, costAfter, reductionGain, closingGain, hr, hc, ↓reduceIte, add_zero]

theorem fill_of_reduces (h : b.Reduces f) :
    b.fill f = ⟨b.qty + f.qty, b.cost + b.average * f.qty,
      b.realized + (b.average - f.price) * f.qty⟩ := by
  simp only [fill, costAfter, reductionGain, closingGain, h, h.not_closes, ↓reduceIte, add_zero]

theorem fill_of_closes (h : b.Closes f) :
    b.fill f = ⟨b.qty + f.qty, (b.qty + f.qty) * f.price,
      b.realized + (f.price - b.average) * b.qty⟩ := by
  have hr : ¬ b.Reduces f := fun hr => hr.not_closes h
  simp only [fill, costAfter, reductionGain, closingGain, h, hr, ↓reduceIte, add_zero]

/-- One fill: realised profit less open cost changes by the cash of the fill. -/
theorem fill_realized (b : Position K) (f : Fill K) :
    (b.fill f).realized - (b.fill f).cost = b.realized - b.cost - f.qty * f.price := by
  simp only [fill, reductionGain, closingGain, costAfter]
  by_cases hr : b.Reduces f
  · simp only [hr, hr.not_closes, ↓reduceIte]
    ring
  · by_cases hc : b.Closes f
    · have havg := average_mul_qty hc.1.qty_ne_zero
      simp only [hr, hc, ↓reduceIte]
      rw [← havg]
      ring
    · simp only [hr, hc, ↓reduceIte]
      ring

/-- **Conservation**: realised profit less open cost is the cash received. -/
theorem fills_realized (b : Position K) (fs : List (Fill K)) :
    (b.fills fs).realized - (b.fills fs).cost = b.realized - b.cost + cash fs := by
  induction fs generalizing b with
  | nil => simp [cash]
  | cons f fs ih =>
    rw [fills_cons, ih, fill_realized]
    simp only [cash, List.map_cons, List.sum_cons]
    ring

theorem fills_qty (b : Position K) (fs : List (Fill K)) :
    (b.fills fs).qty = b.qty + netQty fs := by
  induction fs generalizing b with
  | nil => simp [netQty]
  | cons f fs ih =>
    rw [fills_cons, ih]
    simp only [fill, netQty, List.map_cons, List.sum_cons]
    ring

/-- Profit comes from reductions and from closes only. -/
theorem fills_realized_split (b : Position K) (fs : List (Fill K)) :
    (b.fills fs).realized = b.realized + b.reductionGains fs + b.closingGains fs := by
  induction fs generalizing b with
  | nil => simp [reductionGains, closingGains]
  | cons f fs ih =>
    rw [fills_cons, ih]
    simp only [fill, reductionGains, closingGains]
    ring

variable [IsStrictOrderedRing K]

/-- A fill keeps the position balanced. -/
theorem Balanced.fill (h : b.Balanced) (f : Fill K) : (b.fill f).Balanced := by
  intro hz
  have hsum : b.qty + f.qty = 0 := hz
  have hf : f.qty = -b.qty := by linarith
  have hnr : ¬ b.Reduces f := fun hr => absurd hr.2 (by rw [hf, abs_neg]; exact lt_irrefl _)
  by_cases hc : b.Closes f
  · simp only [Position.fill, costAfter, hnr, hc, ↓reduceIte, hsum, zero_mul]
  · have hb : b.qty = 0 := by
      by_contra hne
      refine hc ⟨?_, by rw [hf, abs_neg]⟩
      have hpos : 0 < b.qty * b.qty := mul_self_pos.mpr hne
      simp only [Opposes, hf, mul_neg]
      linarith
    have hf0 : f.qty = 0 := by rw [hf, hb, neg_zero]
    simp only [Position.fill, costAfter, hnr, hc, ↓reduceIte, h hb, hf0, zero_mul, add_zero]

theorem Balanced.fills (h : b.Balanced) (fs : List (Fill K)) : (b.fills fs).Balanced := by
  induction fs generalizing b with
  | nil => exact h
  | cons f fs ih => exact ih (h.fill f)

/-- A position is closed by the fills that take its quantity to zero or past it. -/
theorem closes_iff (b : Position K) (f : Fill K) :
    b.Closes f ↔ b.qty ≠ 0 ∧ b.qty * (b.qty + f.qty) ≤ 0 := by
  constructor
  · intro h
    have hopp : b.qty * f.qty < 0 := h.1
    refine ⟨h.1.qty_ne_zero, ?_⟩
    rcases mul_neg_iff.mp hopp with ⟨hx, hy⟩ | ⟨hx, hy⟩
    · have hle := h.2
      rw [abs_of_pos hx, abs_of_neg hy] at hle
      exact mul_nonpos_of_nonneg_of_nonpos hx.le (by linarith)
    · have hle := h.2
      rw [abs_of_neg hx, abs_of_pos hy] at hle
      exact mul_nonpos_of_nonpos_of_nonneg hx.le (by linarith)
  · rintro ⟨hne, hle⟩
    rcases lt_or_gt_of_ne hne with hx | hx
    · have hy : 0 ≤ b.qty + f.qty := nonneg_of_mul_nonpos_right hle hx
      refine ⟨mul_neg_of_neg_of_pos hx (by linarith), ?_⟩
      rw [abs_of_neg hx, abs_of_pos (by linarith : 0 < f.qty)]
      linarith
    · have hy : b.qty + f.qty ≤ 0 := nonpos_of_mul_nonpos_right hle hx
      refine ⟨mul_neg_of_pos_of_neg hx (by linarith), ?_⟩
      rw [abs_of_pos hx, abs_of_neg (by linarith : f.qty < 0)]
      linarith

/-- What is open has a positive unit cost. -/
def Priced (b : Position K) : Prop := b.qty ≠ 0 → 0 < b.average

/-- A fill at a positive price keeps the unit cost positive. -/
theorem Priced.fill (h : b.Priced) (hb : b.Balanced) (hp : 0 < f.price) : (b.fill f).Priced := by
  intro hq
  by_cases hopp : b.Opposes f
  · rcases hopp.reduces_or_closes with hr | hc
    · rw [fill_of_reduces hr] at hq ⊢
      have hcost := average_mul_qty hr.1.qty_ne_zero
      have havg := h hr.1.qty_ne_zero
      rwa [average, ← hcost, ← mul_add, mul_div_cancel_right₀ _ hq]
    · rw [fill_of_closes hc] at hq ⊢
      rwa [average, mul_div_cancel_left₀ _ hq]
  · rw [fill_of_not_opposes hopp] at hq ⊢
    have hsame : 0 ≤ b.qty * f.qty := not_lt.mp hopp
    by_cases hz : b.qty = 0
    · have hc0 := hb hz
      simp only [average, hz, hc0, zero_add] at hq ⊢
      rwa [mul_div_cancel_left₀ _ hq]
    · have havg := h hz
      have hcost := average_mul_qty hz
      rw [← hcost]
      rcases lt_or_gt_of_ne hz with hx | hx
      · have hy : f.qty ≤ 0 := nonpos_of_mul_nonneg_right hsame hx
        have h1 := mul_neg_of_pos_of_neg havg hx
        have h2 := mul_nonpos_of_nonpos_of_nonneg hy hp.le
        exact div_pos_of_neg_of_neg (by linarith) (by linarith)
      · have hy : 0 ≤ f.qty := nonneg_of_mul_nonneg_right hsame hx
        have h1 := mul_pos havg hx
        have h2 := mul_nonneg hy hp.le
        exact div_pos (by linarith) (by linarith)

/-- From nothing, a flat position has realised exactly the cash received. -/
theorem realized_of_flat (fs : List (Fill K)) (h : netQty fs = 0) :
    ((empty : Position K).fills fs).realized = cash fs := by
  have hqty : ((empty : Position K).fills fs).qty = 0 := by
    rw [fills_qty, h]
    simp [empty]
  have hcost := balanced_empty.fills fs hqty
  have hcons := fills_realized (empty : Position K) fs
  rw [hcost] at hcons
  simpa [empty] using hcons

end Position

end AverageCost
