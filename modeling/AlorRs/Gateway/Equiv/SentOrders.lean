import AlorRs.Gateway.ExecutionPaths
import AlorRs.Lib.Grid

/-!
# The orders that are sent

`validate_command` looks at normalised quantities and prices, `execute_command` normalises again, and the
client rounds the quantity to an integer.  A validated order is sent with a valid quantity and with prices
on their steps when the normalised quantity does not round up past what was asked for, and when the prices
that are rounded to the nearest step are not moved off it by the rounding to decimals (`sentWell_iff`).
-/

namespace AlorRs

namespace Gateway

open Grid

def sentPayload (config : ExecutionConfig) (path : CommandExecutionPath) (command : OrderCommand) : Json :=
  match path with
  | .legacyLongLived => (legacyCall config command).payload
  | .actionScoped => (actionScopedPayload config command).getD (legacyCall config command).payload

def quantityOf : CommandAction → Option ℚ
  | .place order => some order.qty
  | .market order => some order.qty
  | .replace order => some order.newQty
  | .createStopLimit order => some order.qty
  | .cancel _ | .deleteStopLimit _ => none

/-- The prices of an action that are rounded to the nearest step, with their fields in the payload. -/
def stepPricesOf : CommandAction → List (String × ℚ)
  | .replace order => [("price", order.newPrice)]
  | .createStopLimit order => [("triggerPrice", order.triggerPrice), ("price", order.price)]
  | .place _ | .market _ | .cancel _ | .deleteStopLimit _ => []

def priceFields : CommandAction → List String
  | .place _ => ["price"]
  | action => (stepPricesOf action).map Prod.fst

def NotWorse (side : Side) (asked sent : ℚ) : Prop :=
  match side with
  | .buy => sent ≤ asked
  | .sell => asked ≤ sent

structure SentWell (config : ExecutionConfig) (path : CommandExecutionPath) (command : OrderCommand) :
    Prop where
  quantity : ∀ qty, quantityOf command.action = some qty →
    ∃ n : ℤ, ((sentPayload config path command).get "quantity").bind Json.asI64 = some n ∧
      1 ≤ n ∧ n ≤ qty
  prices : ∀ name ∈ priceFields command.action,
    ∃ price : ℚ, ((sentPayload config path command).get name).bind Json.asF64 = some price ∧
      0 < price ∧ (0 < config.priceStep → OnGrid config.priceStep price)
  place : ∀ order, command.action = .place order →
    ∃ price : ℚ, ((sentPayload config path command).get "price").bind Json.asF64 = some price ∧
      NotWorse order.side order.price price

/-! ### When an order stays valid -/

def KeepsWhole (qty volumeStep : ℚ) : Prop :=
  let lots := normalizeQty qty volumeStep
  1 / 2 ≤ lots ∧ (Int.fract lots < 1 / 2 ∨ ⌊lots⌋ + 1 ≤ qty ∨ 2 ^ 63 - 1 ≤ qty)

/-- A price whose nearest multiple of the step, in units of the last decimal of the step, is within one half
of a multiple of the numerator of the step. -/
def KeepsStep (price priceStep : ℚ) : Prop :=
  0 < priceStep → let unitStep := priceStep * 10 ^ decimalPlacesForStep priceStep
    ∃ j : ℤ, j * unitStep.num - 1 / 2 ≤ roundHalfAway (price / priceStep) * unitStep ∧
      roundHalfAway (price / priceStep) * unitStep < j * unitStep.num + 1 / 2

/-- The condition on the action and the steps. -/
structure StaysValid (config : ExecutionConfig) (action : CommandAction) : Prop where
  quantity : ∀ qty, quantityOf action = some qty → KeepsWhole qty config.volumeStep
  prices : ∀ field ∈ stepPricesOf action, KeepsStep field.2 config.priceStep

variable {config : ExecutionConfig} {path : CommandExecutionPath} {command : OrderCommand}

/-! ### Rounding -/

theorem roundHalfAway_of_nonneg {x : ℚ} (h : 0 ≤ x) : roundHalfAway x = ⌊x + 1 / 2⌋ := if_pos h

theorem normalizeQty_le (qty volumeStep : ℚ) : normalizeQty qty volumeStep ≤ qty := by
  unfold normalizeQty
  split_ifs with hstep
  · exact le_refl qty
  · exact floor_div_mul_le qty (not_le.mp hstep)

theorem normalizePrice_notWorse (price priceStep : ℚ) (side : Side) :
    NotWorse side price (normalizePrice price priceStep side) := by
  unfold normalizePrice NotWorse
  split_ifs with hstep
  · cases side <;> exact le_refl price
  · have hpos : 0 < priceStep := not_le.mp hstep
    cases side with
    | buy => exact floor_div_mul_le price hpos
    | sell => exact le_ceil_div_mul price hpos

variable {priceStep price : ℚ}

theorem onGrid_normalizePrice (side : Side) (hstep : 0 < priceStep) :
    OnGrid priceStep (normalizePrice price priceStep side) := by
  unfold normalizePrice
  rw [if_neg (not_le.mpr hstep)]
  cases side with
  | buy | sell => exact onGrid_mul ..

theorem onGrid_normalizeStepRound_iff (hprice : 0 < price) (hstep : 0 < priceStep) :
    OnGrid priceStep (normalizeStepRound price priceStep) ↔ KeepsStep price priceStep := by
  have hscale : (0 : ℚ) < 10 ^ decimalPlacesForStep priceStep := by positivity
  have hsteps : (0 : ℚ) ≤ roundHalfAway (price / priceStep) := by
    have hratio : 0 < price / priceStep := div_pos hprice hstep
    rw [roundHalfAway_of_nonneg hratio.le]
    exact_mod_cast Int.floor_nonneg.mpr (by linarith)
  unfold normalizeStepRound KeepsStep
  rw [if_neg (not_le.mpr hstep), onGrid_div_iff hscale.ne', mul_assoc,
    roundHalfAway_of_nonneg (mul_nonneg hsteps (mul_pos hstep hscale).le), onGrid_nearest_iff]
  exact ⟨fun h _ => h, fun h => h hstep⟩

theorem roundToI64_le {lots : ℚ} (h : 0 ≤ lots) :
    roundToI64 lots = min (2 ^ 63 - 1) ⌊lots + 1 / 2⌋ := by
  have hnonneg : 0 ≤ ⌊lots + 1 / 2⌋ := Int.floor_nonneg.mpr (by linarith)
  unfold roundToI64
  rw [roundHalfAway_of_nonneg h]
  exact max_eq_right (le_min (by decide) (by omega))

variable {volumeStep qty : ℚ}

/-- The integer that is sent is at least one and at most the quantity that was asked for. -/
theorem keepsWhole_iff (h : 0 < normalizeQty qty volumeStep) :
    1 ≤ roundToI64 (normalizeQty qty volumeStep) ∧ (roundToI64 (normalizeQty qty volumeStep) : ℚ) ≤ qty ↔
      KeepsWhole qty volumeStep := by
  have hle := normalizeQty_le qty volumeStep
  have hmax : ((2 ^ 63 - 1 : ℤ) : ℚ) = 2 ^ 63 - 1 := by norm_num
  unfold KeepsWhole
  dsimp only
  rw [roundToI64_le h.le, le_min_iff, one_le_nearest_iff, ← or_assoc, ← nearest_le_iff hle, Int.cast_min,
    min_le_iff, hmax]
  constructor
  · rintro ⟨⟨-, hhalf⟩, hq⟩
    exact ⟨hhalf, hq.symm⟩
  · rintro ⟨hhalf, hq⟩
    exact ⟨⟨by norm_num, hhalf⟩, hq.symm⟩

/-! ### The payload -/

theorem asI64_ofI64 {n : ℤ} (hlo : -2 ^ 63 ≤ n) (hhi : n < 2 ^ 63) : (Json.ofI64 n).asI64 = some n := by
  unfold Json.ofI64
  by_cases hn : 0 ≤ n
  · have hfits : n.toNat < 2 ^ 63 := by omega
    have hval : (Fin.ofNat (2 ^ 64) n.toNat).val = n.toNat := Nat.mod_eq_of_lt (by omega)
    rw [if_pos hn]
    show (if (Fin.ofNat (2 ^ 64) n.toNat).val < 2 ^ 63 then
      some ((Fin.ofNat (2 ^ 64) n.toNat).val : ℤ) else none) = some n
    rw [hval, if_pos hfits, Int.toNat_of_nonneg hn]
  · rw [if_neg hn]
    rfl

theorem roundToI64_fits (lots : ℚ) : -2 ^ 63 ≤ roundToI64 lots ∧ roundToI64 lots < 2 ^ 63 := by
  unfold roundToI64
  omega

theorem quantity_sent (h : quantityOf command.action = some qty) :
    ((sentPayload config path command).get "quantity").bind Json.asI64 =
      some (roundToI64 (normalizeQty qty config.volumeStep)) := by
  have hget : (sentPayload config path command).get "quantity" =
      some (Json.ofI64 (roundToI64 (normalizeQty qty config.volumeStep))) := by
    unfold sentPayload actionScopedPayload legacyCall
    cases haction : command.action <;> rw [haction] at h <;> cases h <;> cases path <;> rfl
  have hfits := roundToI64_fits (normalizeQty qty config.volumeStep)
  rw [hget]
  exact asI64_ofI64 hfits.1 hfits.2

theorem place_sent {order : PlaceOrder} (h : command.action = .place order) :
    ((sentPayload config path command).get "price").bind Json.asF64 =
      some (normalizePrice order.price config.priceStep order.side) := by
  unfold sentPayload actionScopedPayload legacyCall
  rw [h]
  cases path <;> rfl

/-- The price fields that are rounded to the nearest step. -/
theorem stepPrice_sent {name : String} (h : (name, price) ∈ stepPricesOf command.action) :
    ((sentPayload config path command).get name).bind Json.asF64 =
      some (normalizeStepRound price config.priceStep) := by
  unfold sentPayload actionScopedPayload legacyCall
  cases haction : command.action <;> rw [haction] at h
  case replace order =>
    obtain ⟨rfl, rfl⟩ := Prod.mk.inj (List.mem_singleton.mp h)
    cases path <;> rfl
  case createStopLimit order =>
    rcases List.mem_cons.mp h with hfirst | hrest
    · obtain ⟨rfl, rfl⟩ := Prod.mk.inj hfirst
      cases path <;> rfl
    · obtain ⟨rfl, rfl⟩ := Prod.mk.inj (List.mem_singleton.mp hrest)
      cases path <;> rfl
  all_goals cases h

/-! ### What is validated -/

/-- What validation says of an order. -/
structure Validated (action : CommandAction) (priceStep volumeStep : ℚ) : Prop where
  lots : ∀ qty, quantityOf action = some qty → 0 < normalizeQty qty volumeStep
  prices : ∀ field ∈ stepPricesOf action, 0 < field.2 ∧ 0 < normalizeStepRound field.2 priceStep
  place : ∀ order, action = .place order → 0 < normalizePrice order.price priceStep order.side

theorem validated_of_validateAction {action : CommandAction}
    (h : validateAction action priceStep volumeStep = none) :
    Validated action priceStep volumeStep := by
  unfold validateAction at h
  cases action with
  -- each action is validated in its own order, and the bounds are read off
  | place order =>
    simp only [ite_eq_right_iff, Bool.or_eq_true, decide_eq_true_eq, reduceCtorEq, imp_false, not_or,
      not_le] at h
    obtain ⟨⟨⟨-, -⟩, hprice⟩, hlots⟩ := h
    refine ⟨?_, List.forall_mem_nil _, ?_⟩
    · rintro _ ⟨⟩
      exact hlots
    · rintro _ ⟨⟩
      exact hprice
  | market order =>
    simp only [ite_eq_right_iff, Bool.or_eq_true, decide_eq_true_eq, reduceCtorEq, imp_false, not_or,
      not_le] at h
    refine ⟨?_, List.forall_mem_nil _, fun _ heq => by cases heq⟩
    rintro _ ⟨⟩
    exact h.2
  | replace order =>
    simp only [ite_eq_right_iff, Bool.or_eq_true, decide_eq_true_eq, reduceCtorEq, imp_false, not_or,
      not_le] at h
    obtain ⟨⟨⟨⟨-, hnewPrice⟩, -⟩, hprice⟩, hlots⟩ := h
    refine ⟨?_, ?_, fun _ heq => by cases heq⟩
    · rintro _ ⟨⟩
      exact hlots
    · intro field hmem
      rw [List.mem_singleton.mp hmem]
      exact ⟨hnewPrice, hprice⟩
  | createStopLimit order =>
    simp only [ite_eq_right_iff, Bool.or_eq_true, decide_eq_true_eq, reduceCtorEq, imp_false, not_or,
      not_le] at h
    obtain ⟨⟨⟨⟨⟨⟨-, hprice⟩, htrigger⟩, -⟩, hsentPrice⟩, hsentTrigger⟩, hlots⟩ := h
    refine ⟨?_, ?_, fun _ heq => by cases heq⟩
    · rintro _ ⟨⟩
      exact hlots
    · intro field hmem
      rcases List.mem_cons.mp hmem with rfl | hrest
      · exact ⟨htrigger, hsentTrigger⟩
      · rw [List.mem_singleton.mp hrest]
        exact ⟨hprice, hsentPrice⟩
  | cancel order => exact ⟨fun _ heq => (by cases heq), List.forall_mem_nil _, fun _ heq => by cases heq⟩
  | deleteStopLimit order =>
    exact ⟨fun _ heq => (by cases heq), List.forall_mem_nil _, fun _ heq => by cases heq⟩

theorem validateAction_of_validateCommand {health : ConsumerHealth} {pauseWhenDegraded : Bool}
    (h : validateCommand command priceStep volumeStep health pauseWhenDegraded = none) :
    validateAction command.action priceStep volumeStep = none := by
  unfold validateCommand at h
  dsimp only at h
  split_ifs at h
  exact h

/-! ### Valid orders -/

theorem quantity_sentWell_iff (h : quantityOf command.action = some qty)
    (hlots : 0 < normalizeQty qty config.volumeStep) :
    (∃ n : ℤ, ((sentPayload config path command).get "quantity").bind Json.asI64 = some n ∧
      1 ≤ n ∧ n ≤ qty) ↔ KeepsWhole qty config.volumeStep := by
  rw [quantity_sent h, ← keepsWhole_iff hlots]
  constructor
  · rintro ⟨n, hn, hone, hle⟩
    rw [Option.some.inj hn]
    exact ⟨hone, hle⟩
  · rintro ⟨hone, hle⟩
    exact ⟨_, rfl, hone, hle⟩

theorem stepPrice_sentWell_iff {name : String} (h : (name, price) ∈ stepPricesOf command.action)
    (hprice : 0 < price) (hsent : 0 < normalizeStepRound price config.priceStep) :
    (∃ sent : ℚ, ((sentPayload config path command).get name).bind Json.asF64 = some sent ∧
      0 < sent ∧ (0 < config.priceStep → OnGrid config.priceStep sent)) ↔
      KeepsStep price config.priceStep := by
  rw [stepPrice_sent h]
  constructor
  · rintro ⟨sent, hsome, -, hgrid⟩ hstep
    have honGrid := hgrid hstep
    rw [← Option.some.inj hsome] at honGrid
    exact (onGrid_normalizeStepRound_iff hprice hstep).mp honGrid hstep
  · intro hkeeps
    exact ⟨_, rfl, hsent, fun hstep => (onGrid_normalizeStepRound_iff hprice hstep).mpr hkeeps⟩

/-- A command that validation lets through is sent as a valid order just when its quantity and its prices
stay valid. -/
theorem sentWell_iff {health : ConsumerHealth} {pauseWhenDegraded : Bool}
    (hvalid : validateCommand command config.priceStep config.volumeStep health pauseWhenDegraded = none) :
    SentWell config path command ↔ StaysValid config command.action := by
  have hvalidated := validated_of_validateAction (validateAction_of_validateCommand hvalid)
  constructor
  · intro hsent
    refine ⟨fun qty hqty => ?_, fun field hmem => ?_⟩
    · exact (quantity_sentWell_iff hqty (hvalidated.lots qty hqty)).mp (hsent.quantity qty hqty)
    -- the price of a `place` is none of the checked fields
    · obtain ⟨hprice, hpos⟩ := hvalidated.prices field hmem
      have hfield : field.1 ∈ priceFields command.action := by
        cases haction : command.action with
        | place order =>
          rw [haction] at hmem
          cases hmem
        | _ =>
          rw [haction] at hmem
          exact List.mem_map_of_mem hmem
      exact (stepPrice_sentWell_iff hmem hprice hpos).mp (hsent.prices field.1 hfield)
  · intro hstays
    refine ⟨fun qty hqty => ?_, fun name hname => ?_, fun order horder => ?_⟩
    · exact (quantity_sentWell_iff hqty (hvalidated.lots qty hqty)).mpr (hstays.quantity qty hqty)
    -- a limit order's price is normalized before it is sent
    · cases haction : command.action with
      | place order =>
        rw [haction] at hname
        rw [List.mem_singleton.mp hname, place_sent haction]
        exact ⟨_, rfl, hvalidated.place order haction, onGrid_normalizePrice order.side⟩
      | _ =>
        rw [haction] at hname
        obtain ⟨field, hmem, rfl⟩ := List.mem_map.mp hname
        rw [← haction] at hmem
        obtain ⟨hprice, hpos⟩ := hvalidated.prices field hmem
        exact (stepPrice_sentWell_iff hmem hprice hpos).mpr (hstays.prices field hmem)
    · rw [place_sent horder]
      exact ⟨_, rfl, normalizePrice_notWorse ..⟩

/-! ### Whole lots -/

/-! ### Orders that do not stay valid -/

def stepsConfig (priceStep volumeStep : ℚ) : ExecutionConfig :=
  ⟨"RFUD", priceStep, volumeStep, fun _ => "r-1", "g-1"⟩

def orderCommand (action : CommandAction) : OrderCommand :=
  ⟨.other 1, 0, "s", "p", "MOEX", "RIM6", action, none, none⟩

def readyHealth : ConsumerHealth := ⟨.liveReady, false, some .opened⟩

theorem sentWell_iff_lots :
    validateCommand (orderCommand (.place ⟨100, 3, .buy, none⟩)) 1 1 readyHealth true = none ∧
      (SentWell (stepsConfig 1 1) .actionScoped (orderCommand (.place ⟨100, 3, .buy, none⟩)) ↔
        StaysValid (stepsConfig 1 1) (.place ⟨100, 3, .buy, none⟩)) :=
  ⟨by decide +kernel, @sentWell_iff (stepsConfig 1 1) _ _ readyHealth true (by decide +kernel)⟩

theorem not_sentWell_of_quantity (h : quantityOf command.action = some qty)
    (hbad : ¬ (1 ≤ roundToI64 (normalizeQty qty config.volumeStep) ∧
      (roundToI64 (normalizeQty qty config.volumeStep) : ℚ) ≤ qty)) :
    ¬ SentWell config path command := by
  intro hsent
  obtain ⟨n, hn, hone, hle⟩ := hsent.quantity qty h
  rw [quantity_sent h] at hn
  rw [← Option.some.inj hn] at hone hle
  exact hbad ⟨hone, hle⟩

/-- The price that a replace with three steps of a 1024th sends. -/
theorem normalizeStepRound_thousandths : normalizeStepRound (3 / 1024) (1 / 1024) = 292969 / 10 ^ 8 := by
  decide +kernel

/-- Without a volume step less than half a lot is sent as nothing and one and a half as two, and a price in
steps of a 1024th is rounded to eight decimals, off its step. -/
theorem not_always_sentWell :
    (validateCommand (orderCommand (.market ⟨2 / 5, .buy, none⟩)) 0 0 readyHealth true = none ∧
      ¬ SentWell (stepsConfig 0 0) .legacyLongLived (orderCommand (.market ⟨2 / 5, .buy, none⟩))) ∧
    (validateCommand (orderCommand (.market ⟨3 / 2, .buy, none⟩)) 0 0 readyHealth true = none ∧
      ¬ SentWell (stepsConfig 0 0) .legacyLongLived (orderCommand (.market ⟨3 / 2, .buy, none⟩))) ∧
    (validateCommand (orderCommand (.replace ⟨7, 3 / 1024, 1⟩)) (1 / 1024) 1 readyHealth true = none ∧
      ¬ SentWell (stepsConfig (1 / 1024) 1) .legacyLongLived (orderCommand (.replace ⟨7, 3 / 1024, 1⟩))) := by
  refine ⟨⟨by decide +kernel, ?_⟩, ⟨by decide +kernel, ?_⟩, ⟨by decide +kernel, ?_⟩⟩
  · exact not_sentWell_of_quantity rfl (by decide +kernel)
  · exact not_sentWell_of_quantity rfl (by decide +kernel)
  · intro hsent
    obtain ⟨sent, hsome, -, hgrid⟩ := hsent.prices "price" (List.mem_singleton.mpr rfl)
    have hmem : ("price", (3 / 1024 : ℚ)) ∈ stepPricesOf (.replace ⟨7, 3 / 1024, 1⟩) :=
      List.mem_singleton.mpr rfl
    obtain ⟨k, hk⟩ := hgrid (by decide +kernel)
    rw [← Option.some.inj hsome] at hk
    have hcross : (292969 * 1024 : ℚ) = k * 10 ^ 8 := by
      have hvalue : (292969 / 10 ^ 8 : ℚ) = k * (1 / 1024) := normalizeStepRound_thousandths.symm.trans hk
      linarith
    have hints : (292969 * 1024 : ℤ) = k * 10 ^ 8 := by exact_mod_cast hcross
    omega

end Gateway

end AlorRs
