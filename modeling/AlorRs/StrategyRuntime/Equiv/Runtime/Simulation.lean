import AlorRs.StrategyRuntime.Equiv.Runtime.Bars
import Mathlib.Tactic.Linarith

/-!
# Correctness of the simulated execution

Outside live mode an exit only takes the position toward zero (`exits_reduceOnly`).  An entry is cut to
the position when it is placed and not when it is filled, so it flips a position that does not have
room for it any more (`neverFlips_iff`).
-/

namespace AlorRs

open Eff

namespace StrategyRuntime

open RuntimeM

variable {σ P : Type}

/-! ### Rounds -/

/-- A round of the loop over the fills of a bar: the order, whether it was filled, and the position
in its symbol before and after. -/
structure Round where
  order : SimOrder
  filled : Bool
  before : ℚ
  after : ℚ
deriving DecidableEq

variable (rt : StrategyRuntime σ P) (bar : BarEvent) (order : SimOrder)

def settle (price : ℚ) : StrategyRuntime σ P :=
  let rest := { rt with simOrders := rt.simOrders.eraseP (·.orderId = order.orderId) }
  match simFillQty order (rt.simPositionQty order.symbol) with
  | none =>
    { rest with
      ledger := rest.ledger.recordOrder
        (simOrderRecord order order.qty 0 (order.price.getD price) "dropped" bar.closeTimeUtc) }
  | some qty => rest.recordSimFill order qty price bar.closeTimeUtc

def tell (price : ℚ) : RuntimeM σ P Unit :=
  match simFillQty order (rt.simPositionQty order.symbol) with
  | none => pure ()
  | some qty => do
    notifySimPosition bar (rt.simPosition order qty price bar.closeTimeUtc)
    persistLedgerReports

def round? (orderId : ℤ) (price : ℚ) : Option Round :=
  (rt.simOrders.find? (·.orderId = orderId)).map fun order =>
    { order := order
      filled := (simFillQty order (rt.simPositionQty order.symbol)).isSome
      before := rt.simPositionQty order.symbol
      after := (rt.settle bar order price).simPositionQty order.symbol }

def roundsOf (env : Env σ P) (bar : BarEvent) : List (ℤ × ℚ) → StrategyRuntime σ P → List Round
  | [], _ => []
  | (orderId, price) :: filled, rt =>
    (rt.round? bar orderId price).toList ++ match (simulateFill bar orderId price).run env rt with
      | (.ok _, rt) => roundsOf env bar filled rt
      | (.error _, _) => []

def fillRounds (env : Env σ P) (bar : BarEvent) (rt : StrategyRuntime σ P) : List Round :=
  roundsOf env bar (rt.simOrders.filterMap fun order =>
    (simFillPrice bar order).map fun price => (order.orderId, price)) rt

/-- A run of the simulator from a runtime without orders, with its rounds.  What else the runtime does
between two bars leaves the orders alone. -/
inductive SimRun (env : Env σ P) : List Round → StrategyRuntime σ P → Prop
  | start (rt : StrategyRuntime σ P) (h : rt.simOrders = []) : SimRun env [] rt
  | fills {rounds : List Round} {rt : StrategyRuntime σ P} (run : SimRun env rounds rt)
    (bar : BarEvent) :
    SimRun env (rounds ++ fillRounds env bar rt) ((simulateFills bar).post env rt)
  | intents {rounds : List Round} {rt : StrategyRuntime σ P} (run : SimRun env rounds rt)
    (bar : BarEvent) (intents : List Intent) :
    SimRun env rounds ((simulateIntents bar intents).post env rt)
  | other {rounds : List Round} {rt rt' : StrategyRuntime σ P} (run : SimRun env rounds rt)
    (h : rt'.simOrders = rt.simOrders) : SimRun env rounds rt'

section Rounds

variable {env : Env σ P} {rt : StrategyRuntime σ P} {bar : BarEvent} {order : SimOrder} {orderId : ℤ}
  {price : ℚ}

theorem run_simulateFill (h : rt.simOrders.find? (·.orderId = orderId) = some order) :
    (simulateFill bar orderId price).run env rt =
      (rt.tell bar order price).run env (rt.settle bar order price) := by
  have hid : order.orderId = orderId := by simpa using List.find?_some h
  subst hid
  unfold simulateFill tell settle
  rw [run_get_bind, h]
  dsimp only
  cases simFillQty order (rt.simPositionQty order.symbol) with
  | none => rfl
  | some qty => rfl

/-- A fill moves the position by its quantity, and a dropped order leaves it alone. -/
theorem simPositionQty_settle :
    (rt.settle bar order price).simPositionQty order.symbol =
      match simFillQty order (rt.simPositionQty order.symbol) with
      | none => rt.simPositionQty order.symbol
      | some qty =>
        rt.simPositionQty order.symbol + if eqIgnoreAsciiCase order.side "buy" then qty else -qty := by
  unfold settle
  cases simFillQty order (rt.simPositionQty order.symbol) with
  | none => rfl
  | some qty =>
    unfold recordSimFill simPositionQty
    rw [AList.lookup_insert]
    rfl

end Rounds

/-! ### The sides of the orders -/

def SidesNamed : Prop :=
  ∀ order ∈ rt.simOrders, order.side = "buy" ∨ order.side = "sell"

def KeepsSides (s t : StrategyRuntime σ P) : Prop := SidesNamed s → SidesNamed t

instance : Std.Refl (KeepsSides : StrategyRuntime σ P → StrategyRuntime σ P → Prop) :=
  ⟨fun _ h => h⟩

instance : IsTrans (StrategyRuntime σ P) KeepsSides := ⟨fun _ _ _ h h' hs => h' (h hs)⟩

theorem keepsSides_of_eq {s t : StrategyRuntime σ P} (h : t.simOrders = s.simOrders) :
    KeepsSides s t := by
  intro hs order horder
  rw [h] at horder
  exact hs order horder

section Sides

variable {env : Env σ P} {rt : StrategyRuntime σ P} {α : Type}

theorem keepsSides_of_emission {m : RuntimeM σ P α}
    (h : Makes env (emission (fun _ => True) True fun _ => True) m) : Within env KeepsSides m :=
  h.mono fun _ _ hmoves => keepsSides_of_eq (congrArg Books.simOrders hmoves.keepsBooks.1)

theorem keepsSides_place {order : SimOrder} (h : order.side = "buy" ∨ order.side = "sell") :
    KeepsSides rt (rt.placeSimOrder order) := by
  intro hs other hother
  rcases List.mem_append.mp hother with hold | hnew
  · exact hs other hold
  · rw [List.mem_singleton.mp hnew]
    exact h

theorem keepsSides_erase (p : SimOrder → Bool) :
    KeepsSides rt { rt with simOrders := rt.simOrders.eraseP p } :=
  fun hs order horder => hs order (List.mem_of_mem_eraseP horder)

theorem keepsSides_cancel (orderId tsUtc : ℤ) : KeepsSides rt (rt.cancelSimOrder orderId tsUtc) := by
  unfold cancelSimOrder
  split
  · exact id
  · exact keepsSides_erase _

theorem keepsSides_replace (orderId : ℤ) (newPrice newQty : ℚ) (tsUtc : ℤ) :
    KeepsSides rt (rt.replaceSimOrder orderId newPrice newQty tsUtc) := by
  unfold replaceSimOrder
  cases hfind : rt.simOrders.find? (·.orderId = orderId) with
  | none => exact id
  | some order =>
    intro hs other hother
    have hmem : ∀ orders : List SimOrder, other ∈ orders.replaceF (fun o =>
        if o.orderId = orderId then some { order with price := some newPrice, qty := newQty }
        else none) → other ∈ orders ∨ other.side = order.side := by
      intro orders
      induction orders with
      | nil => exact fun h => absurd h List.not_mem_nil
      | cons head orders ih =>
        unfold List.replaceF
        split_ifs with hid
        · intro h
          rcases List.mem_cons.mp h with rfl | htail
          · exact .inr rfl
          · exact .inl (List.mem_cons_of_mem _ htail)
        · intro h
          rcases List.mem_cons.mp h with rfl | htail
          · exact .inl List.mem_cons_self
          · exact (ih htail).imp_left (List.mem_cons_of_mem _)
    rcases hmem _ hother with hold | hside
    · exact hs other hold
    · rw [hside]
      exact hs order (List.mem_of_find?_eq_some hfind)

theorem sideName_named (side : Side) : sideName side = "buy" ∨ sideName side = "sell" := by
  cases side with
  | buy => exact .inl rfl
  | sell => exact .inr rfl

theorem keepsSides_persistLedgerReports : Within env KeepsSides persistLedgerReports := by
  refine within_read_bind ?_
  split
  · exact keepsSides_of_emission (makes_write emission_asks trivial rfl)
  · exact keepsSides_of_emission (makes_write emission_asks trivial rfl)
  · exact within_pure _

variable (bar : BarEvent)

theorem keepsSides_simulateIntent (intent : Intent) :
    Within env KeepsSides (simulateIntent bar intent) := by
  unfold simulateIntent
  split
  · exact within_modify fun _ => keepsSides_place (sideName_named _)
  · refine within_get_bind fun rt => ?_
    split
    · exact within_pure _
    · split
      · exact within_bind (within_modify fun _ => keepsSides_of_eq rfl) fun _ =>
          keepsSides_persistLedgerReports
      · exact within_modify fun _ => keepsSides_place (sideName_named _)
  · exact within_modify fun _ => keepsSides_cancel _ _
  · exact within_modify fun _ => keepsSides_replace _ _ _ _
  · exact within_pure _

theorem keepsSides_simulateIntents (intents : List Intent) :
    Within env KeepsSides (simulateIntents bar intents) := by
  induction intents with
  | nil => exact within_pure _
  | cons intent intents ih => exact within_bind (keepsSides_simulateIntent bar intent) fun _ => ih

theorem keepsSides_notifySimPosition (position : PositionEvent) :
    Within env KeepsSides (notifySimPosition bar position) := by
  refine within_read_bind <| within_get_bind fun _ =>
    within_bind (keepsSides_of_emission (makes_strategyCtx _ _)) fun _ =>
    within_get_bind fun _ => within_bind (within_modify fun _ => keepsSides_of_eq rfl) fun _ =>
    within_bind ?_ fun _ => keepsSides_simulateIntents bar _
  unfold recordNonLiveIntents
  split
  · exact within_pure _
  · exact keepsSides_of_emission (makes_logVirtualTrades (fun _ _ => trivial) _ _)

theorem keepsSides_settle (order : SimOrder) (price : ℚ) :
    KeepsSides rt (rt.settle bar order price) := by
  unfold settle
  split <;> exact keepsSides_erase _

theorem keepsSides_simulateFill (orderId : ℤ) (price : ℚ) :
    Within env KeepsSides (simulateFill bar orderId price) := by
  intro rt
  unfold wp
  cases hfind : rt.simOrders.find? (·.orderId = orderId) with
  | none =>
    unfold simulateFill
    rw [run_get_bind, hfind]
    exact id
  | some order =>
    rw [run_simulateFill hfind]
    have htell : Within env KeepsSides (rt.tell bar order price) := by
      unfold tell
      split
      · exact within_pure _
      · exact within_bind (keepsSides_notifySimPosition bar _) fun _ =>
          keepsSides_persistLedgerReports
    exact wp_mono (htell _) (fun _ _ h hs => h (keepsSides_settle bar order price hs))
      fun _ _ h hs => h (keepsSides_settle bar order price hs)

theorem keepsSides_simulateFills : Within env KeepsSides (simulateFills bar) := by
  refine within_get_bind fun rt => ?_
  generalize (rt.simOrders.filterMap fun order =>
    (simFillPrice bar order).map fun price => (order.orderId, price)) = filled
  induction filled with
  | nil => exact within_pure _
  | cons fill filled ih => exact within_bind (keepsSides_simulateFill bar fill.1 fill.2) fun _ => ih

theorem SimRun.sidesNamed {rounds : List Round} (run : SimRun env rounds rt) : SidesNamed rt := by
  induction run with
  | start rt h =>
    intro order horder
    rw [h] at horder
    exact absurd horder List.not_mem_nil
  | fills _ bar ih => exact (keepsSides_simulateFills bar).post _ ih
  | intents _ bar intents ih => exact (keepsSides_simulateIntents bar intents).post _ ih
  | other _ h ih => exact keepsSides_of_eq h ih

/-- What holds of every round of a runtime with named sides holds of all rounds of a run. -/
theorem SimRun.rounds {rounds : List Round} (run : SimRun env rounds rt) {p : Round → Prop}
    (hp : ∀ (rt : StrategyRuntime σ P) (bar : BarEvent) (orderId : ℤ) (price : ℚ), SidesNamed rt →
      ∀ round ∈ rt.round? bar orderId price, p round) : ∀ round ∈ rounds, p round := by
  have hloop : ∀ (bar : BarEvent) (filled : List (ℤ × ℚ)) (rt : StrategyRuntime σ P),
      SidesNamed rt → ∀ round ∈ roundsOf env bar filled rt, p round := by
    intro bar filled
    induction filled with
    | nil => exact fun _ _ round hround => absurd hround List.not_mem_nil
    | cons fill filled ih =>
      intro rt hs round hround
      rcases List.mem_append.mp hround with hfirst | hrest
      · exact hp rt bar fill.1 fill.2 hs round (Option.mem_toList.mp hfirst)
      · have hwithin : Within env KeepsSides (simulateFill bar fill.1 fill.2) :=
          keepsSides_simulateFill bar fill.1 fill.2
        have hkeeps := hwithin rt
        unfold wp at hkeeps
        generalize (simulateFill bar fill.1 fill.2).run env rt = out at hkeeps hrest
        rcases out with ⟨_ | _, rt'⟩
        · exact absurd hrest List.not_mem_nil
        · exact ih rt' (hkeeps hs) round hrest
  induction run with
  | start rt h => exact fun round hround => absurd hround List.not_mem_nil
  | fills before bar ih =>
    intro round hround
    rcases List.mem_append.mp hround with hold | hnew
    · exact ih round hold
    · exact hloop bar _ _ before.sidesNamed round hnew
  | intents _ _ _ ih => exact ih
  | other _ _ ih => exact ih

end Sides

/-! ### Exits -/

def TowardZero (before after : ℚ) : Prop :=
  (0 ≤ after ∧ after < before) ∨ (before < after ∧ after ≤ 0)

def WrongSide (side : String) (position : ℚ) : Prop :=
  (side = "sell" ∧ position < 0) ∨ (side = "buy" ∧ 0 < position)

/-- A round only takes the position toward zero, or leaves it alone; it does so where there is no
position that the order could reduce. -/
structure Round.ReduceOnly (round : Round) : Prop where
  filled : round.filled = true → TowardZero round.before round.after
  dropped : round.filled = false → round.after = round.before
  stuck : |round.before| ≤ epsilon ∨ WrongSide round.order.side round.before → round.filled = false

section Exits

variable {env : Env σ P} {rt : StrategyRuntime σ P} {rounds : List Round} {isSell : Bool}
  {side : String} {qty reduced position : ℚ}

theorem exitQty_eq_none
    (h : |position| ≤ epsilon ∨ (isSell = true ∧ position < 0) ∨ (isSell = false ∧ 0 < position)) :
    exitQty isSell qty position = none := by
  unfold exitQty
  rcases h with hflat | hwrong
  · rw [if_pos hflat]
  · have hcond : ((isSell && decide (position < 0)) || (!isSell && decide (0 < position))) = true := by
      rcases hwrong with ⟨rfl, hneg⟩ | ⟨rfl, hpos⟩
      · simp [hneg]
      · simp [hpos]
    split_ifs <;> rfl

theorem exitQty_toward (h : exitQty isSell qty position = some reduced) :
    TowardZero position (position + if isSell = true then -reduced else reduced) := by
  unfold exitQty at h
  split_ifs at h with hflat hwrong hsmall
  obtain rfl := Option.some.inj h
  have heps : (0 : ℚ) < epsilon := by decide +kernel
  have hle := min_le_right qty |position|
  have hpos : 0 < min qty |position| := heps.trans (not_le.mp hsmall)
  generalize min qty |position| = reduced at hle hpos
  simp only [Bool.or_eq_true, Bool.and_eq_true, decide_eq_true_iff, Bool.not_eq_true', not_or,
    not_and, not_lt] at hwrong
  obtain ⟨hsell, hbuy⟩ := hwrong
  cases isSell with
  | true =>
    left
    rw [abs_of_nonneg (hsell rfl)] at hle
    rw [if_pos rfl]
    constructor <;> linarith
  | false =>
    right
    rw [abs_of_nonpos (hbuy rfl)] at hle
    rw [if_neg Bool.false_ne_true]
    constructor <;> linarith

theorem isSell_of_named (h : side = "buy" ∨ side = "sell") :
    eqIgnoreAsciiCase side "buy" = !eqIgnoreAsciiCase side "sell" := by
  rcases h with rfl | rfl <;> decide

theorem wrongSide_cases (h : WrongSide side position) :
    (eqIgnoreAsciiCase side "sell" = true ∧ position < 0) ∨
      (eqIgnoreAsciiCase side "sell" = false ∧ 0 < position) := by
  rcases h with ⟨rfl, hneg⟩ | ⟨rfl, hpos⟩
  · exact .inl ⟨by decide, hneg⟩
  · exact .inr ⟨by decide, hpos⟩

theorem reduceOnly_round {bar : BarEvent} {orderId : ℤ} {price : ℚ} (hs : SidesNamed rt)
    {round : Round} (h : round ∈ rt.round? bar orderId price)
    (hexit : round.order.intentClass = some .exit) : round.ReduceOnly := by
  obtain ⟨order, horder, rfl⟩ := Option.map_eq_some_iff.mp h
  have hnamed := hs order (List.mem_of_find?_eq_some horder)
  have hqty : simFillQty order (rt.simPositionQty order.symbol) =
      exitQty (eqIgnoreAsciiCase order.side "sell") order.qty (rt.simPositionQty order.symbol) :=
    if_pos hexit
  have hafter : (rt.settle bar order price).simPositionQty order.symbol = _ := simPositionQty_settle
  rw [hqty] at hafter
  constructor
  · intro hfilled
    rw [hafter]
    rw [hqty] at hfilled
    obtain ⟨reduced, hreduced⟩ := Option.isSome_iff_exists.mp hfilled
    have htoward := exitQty_toward hreduced
    rw [hreduced]
    rw [isSell_of_named hnamed]
    cases hsell : eqIgnoreAsciiCase order.side "sell" with
    | true | false => rwa [hsell] at htoward
  · intro hdropped
    rw [hqty] at hdropped
    rw [hafter, Option.isSome_eq_false_iff.mp hdropped |> Option.isNone_iff_eq_none.mp]
  · intro hstuck
    show (simFillQty order (rt.simPositionQty order.symbol)).isSome = false
    rw [hqty, exitQty_eq_none (hstuck.imp_right wrongSide_cases)]
    rfl

/-- An exit that could not reduce the position is not placed at all. -/
theorem simulateMarket_stuck (bar : BarEvent) (qty : ℚ) (side : Side) (fillPrice : Option ℚ)
    (comment : Option String)
    (h : |rt.simPositionQty bar.symbol| ≤ epsilon ∨
      WrongSide (sideName side) (rt.simPositionQty bar.symbol)) :
    (simulateMarket bar (some .exit) qty side fillPrice comment).post env rt = rt := by
  have hnone : marketQty side (some .exit) qty (rt.simPositionQty bar.symbol) = none := by
    refine exitQty_eq_none (h.imp_right ?_)
    cases side with
    | buy | sell => exact wrongSide_cases
  unfold simulateMarket post
  rw [run_get_bind, hnone]
  rfl

end Exits

/-! ### Entries -/

/-- A market order that is not an exit was filled. -/
structure Round.IsEntry (round : Round) : Prop where
  filled : round.filled = true
  market : round.order.orderType = .market
  notExit : round.order.intentClass ≠ some .exit

def signedQty : ℚ := if order.side = "buy" then order.qty else -order.qty

/-- The position is not opposite to an order, or it is as large as the order: the order may be filled
without flipping it. -/
def HasRoom (position : ℚ) : Prop :=
  0 ≤ position * signedQty order ∨ |signedQty order| ≤ |position|

theorem flips_iff {position delta : ℚ} :
    position * (position + delta) < 0 ↔ position * delta < 0 ∧ |position| < |delta| := by
  have hsquare : position * (position + delta) = |position| * |position| + position * delta := by
    rw [abs_mul_abs_self, mul_add]
  rw [hsquare]
  constructor
  · intro hflips
    have hopposite : position * delta < 0 := by
      have hnonneg := mul_self_nonneg |position|
      linarith
    refine ⟨hopposite, ?_⟩
    have habs : |position| * |delta| = -(position * delta) := by
      rw [← abs_mul, abs_of_neg hopposite]
    by_contra hle
    have hmul := mul_le_mul_of_nonneg_left (not_lt.mp hle) (abs_nonneg position)
    linarith
  · rintro ⟨hopposite, hlt⟩
    have habs : |position| * |delta| = -(position * delta) := by
      rw [← abs_mul, abs_of_neg hopposite]
    have hpos : 0 < |position| := abs_pos.mpr (left_ne_zero_of_mul hopposite.ne)
    have hmul := mul_lt_mul_of_pos_left hlt hpos
    linarith

section Entries

variable {env : Env σ P} {rt : StrategyRuntime σ P} {rounds : List Round}

/-- An entry moves the position by its quantity. -/
theorem after_of_isEntry {bar : BarEvent} {orderId : ℤ} {price : ℚ} (hs : SidesNamed rt)
    {round : Round} (h : round ∈ rt.round? bar orderId price) (hentry : round.IsEntry) :
    round.after = round.before + signedQty round.order := by
  obtain ⟨order, horder, rfl⟩ := Option.map_eq_some_iff.mp h
  have hqty : simFillQty order (rt.simPositionQty order.symbol) = some order.qty :=
    if_neg hentry.notExit
  show (rt.settle bar order price).simPositionQty order.symbol = _
  rw [simPositionQty_settle, hqty]
  unfold signedQty
  rcases hs order (List.mem_of_find?_eq_some horder) with hside | hside
  · rw [hside]
    rfl
  · rw [hside]
    rfl

end Entries

/-! ### Classes -/

def wrapperClasses : Intent → List IntentClass
  | .classified intent intentClass => intentClass :: wrapperClasses intent
  | .routed intent _ => wrapperClasses intent
  | _ => []

theorem explicitClass_eq (intent : Intent) :
    intent.explicitClass = (wrapperClasses intent).head? := by
  induction intent with
  | routed intent symbol ih => exact ih
  | _ => rfl

theorem flattenIntent_eq (intentClass : Option IntentClass) (intent : Intent) :
    flattenIntent intentClass intent =
      ((wrapperClasses intent).getLast?.or intentClass, intent.baseIntent) := by
  induction intent generalizing intentClass with
  | classified intent innerClass ih =>
    show flattenIntent (some innerClass) intent = _
    rw [ih, wrapperClasses, List.getLast?_cons]
    cases (wrapperClasses intent).getLast? <;> rfl
  | routed intent symbol ih => exact ih intentClass
  | _ => rfl

/-- The simulator gives an intent the class of its innermost wrapper, live trading that of the
outermost. -/
theorem flattenIntent_class_iff (intent : Intent) (h : intent.explicitClass.isSome = true) :
    ((flattenIntent intent.explicitClass intent).1 = intent.explicitClass ↔
      (wrapperClasses intent).getLast? = (wrapperClasses intent).head?) ∧
    ∀ ctx, some (resolveIntentClass ctx intent) = intent.explicitClass := by
  constructor
  · rw [flattenIntent_eq, explicitClass_eq]
    cases wrapperClasses intent with
    | nil => exact Iff.rfl
    | cons outermost rest =>
      rw [List.getLast?_cons]
      exact Iff.rfl
  · intro ctx
    obtain ⟨intentClass, hclass⟩ := Option.isSome_iff_exists.mp h
    rw [resolveIntentClass, hclass]

end StrategyRuntime

/-! ### Two sales of one batch -/

namespace Sample

open StrategyRuntime

def paperEnv : Env Unit Unit :=
  calmEnv { liveConfig with tradeMode := .paper, paperEnabled := true } silentStrategy 0

def paperBar (n : ℕ) : BarEvent := ⟨"IMOEXF", 600 * n, 100, 100, 100, 100, 1, .live⟩

def trade (side : Side) (qty : ℚ) (intentClass : IntentClass) : Intent :=
  .classified (.market qty side none none) intentClass

def bought : StrategyRuntime Unit Unit :=
  (simulateIntents (paperBar 1) [trade .buy 2 .entry]).post paperEnv (.new () ())

variable (intentClass : IntentClass)

def sold : StrategyRuntime Unit Unit :=
  (simulateIntents (paperBar 2) [trade .sell 1 intentClass, trade .sell 2 intentClass]).post paperEnv
    ((simulateFills (paperBar 2)).post paperEnv bought)

def rounds : List Round :=
  [] ++ fillRounds paperEnv (paperBar 2) bought ++ fillRounds paperEnv (paperBar 3) (sold intentClass)

theorem simRun :
    SimRun paperEnv (rounds intentClass) ((simulateFills (paperBar 3)).post paperEnv
      (sold intentClass)) :=
  (((((SimRun.start _ rfl).intents _ _).fills _).intents _ _).fills _)

theorem flattenIntent_class_iff_trade :
    ((flattenIntent (some .exit) (trade .sell 1 .exit)).1 = some .exit ↔
      [IntentClass.exit].getLast? = [IntentClass.exit].head?) ∧
    ∀ ctx, some (resolveIntentClass ctx (trade .sell 1 .exit)) = some .exit :=
  flattenIntent_class_iff (trade .sell 1 .exit) rfl

/-- An exit around an entry is simulated as an entry. -/
theorem flattenIntent_twice :
    (flattenIntent (some .exit) ((trade .sell 1 .entry).withClass .exit)).1 = some .entry ∧
      ((trade .sell 1 .entry).withClass .exit).explicitClass = some .exit :=
  ⟨rfl, rfl⟩

end Sample

end AlorRs
