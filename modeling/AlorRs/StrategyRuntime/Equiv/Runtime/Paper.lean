import AlorRs.StrategyRuntime.Equiv.Runtime.Simulation
import AlorRs.StrategyRuntime.Equiv.TradeLedger

/-!
# The books of the simulated execution

Whatever the simulator does on a bar is done in steps on its orders and on the ledger (`SimStep`).
Over any number of bars no order is filled twice and no number is given out again
(`simulated_once`), and where no market order names its price the position of a symbol is what the
fills of the ledger add up to (`position_eq_netQty`).
-/

namespace AlorRs

open Eff

namespace StrategyRuntime

open RuntimeM

variable {σ P : Type}

/-! ### Steps -/

/-- Two states with the same orders, fills and positions. -/
structure SameSimBooks (s t : StrategyRuntime σ P) : Prop where
  simOrders : t.simOrders = s.simOrders
  nextSimOrderId : t.nextSimOrderId = s.nextSimOrderId
  trades : t.ledger.trades = s.ledger.trades
  positions : t.state.positions = s.state.positions

/-- One step on the books of the simulator; `priced` says whether a market order may name its
price. -/
inductive SimStep (priced : Prop) : StrategyRuntime σ P → StrategyRuntime σ P → Prop
  | same {s t : StrategyRuntime σ P} (h : SameSimBooks s t) : SimStep priced s t
  | place (rt : StrategyRuntime σ P) (order : SimOrder) (h : order.orderId = rt.nextSimOrderId) :
    SimStep priced rt (rt.placeSimOrder order)
  | fill (rt : StrategyRuntime σ P) (order : SimOrder) (price : ℚ) (hpriced : priced)
      (h : order.orderId = rt.nextSimOrderId) : SimStep priced rt (rt.fillAtPrice order price)
  | cancel (rt : StrategyRuntime σ P) (orderId tsUtc : ℤ) :
    SimStep priced rt (rt.cancelSimOrder orderId tsUtc)
  | replace (rt : StrategyRuntime σ P) (orderId : ℤ) (newPrice newQty : ℚ) (tsUtc : ℤ) :
    SimStep priced rt (rt.replaceSimOrder orderId newPrice newQty tsUtc)
  | settle (rt : StrategyRuntime σ P) (bar : BarEvent) (order : SimOrder) (price : ℚ)
      (h : rt.simOrders.find? (·.orderId = order.orderId) = some order) :
    SimStep priced rt (rt.settle bar order price)

abbrev SimSteps (priced : Prop) : StrategyRuntime σ P → StrategyRuntime σ P → Prop :=
  Relation.ReflTransGen (SimStep priced)

instance {priced : Prop} : Std.Refl (SimSteps priced : StrategyRuntime σ P → _ → Prop) :=
  ⟨fun _ => .refl⟩

/-- An intent that is no market order with a price of its own. -/
def Unpriced (intent : Intent) : Prop :=
  ∀ qty side price comment, intent.baseIntent ≠ .market qty side (some price) comment

section Steps

variable {env : Env σ P} {priced : Prop} {rt : StrategyRuntime σ P} (bar : BarEvent)

theorem simSteps_of_emission {α : Type} {m : RuntimeM σ P α}
    (h : Makes env (emission (fun _ => True) True fun _ => True) m) :
    Within env (SimSteps priced) m := by
  refine h.mono fun s t hmoves => .single (.same ?_)
  have hbooks := hmoves.keepsBooks.1
  exact ⟨congrArg Books.simOrders hbooks, congrArg Books.nextSimOrderId hbooks,
    congrArg (·.ledger.trades) hbooks, congrArg Books.positions hbooks⟩

theorem simSteps_persistLedgerReports :
    Within env (SimSteps priced) (persistLedgerReports : RuntimeM σ P Unit) := by
  refine within_read_bind ?_
  split
  · exact simSteps_of_emission (makes_write emission_asks trivial rfl)
  · exact simSteps_of_emission (makes_write emission_asks trivial rfl)
  · exact within_pure _

theorem simSteps_simulateMarket (intentClass : Option IntentClass) (qty : ℚ) (side : Side)
    {fillPrice : Option ℚ} (comment : Option String)
    (h : ∀ price, fillPrice = some price → priced) :
    Within env (SimSteps priced)
      (simulateMarket (σ := σ) (P := P) bar intentClass qty side fillPrice comment) := by
  intro rt
  unfold simulateMarket
  rw [wp_bind, wp_get]
  split
  · exact .refl
  · next effective _ =>
    cases fillPrice with
    | none => exact .single (.place rt _ rfl)
    | some price =>
      rw [wp_bind, wp_modify]
      have hfill : SimSteps priced rt (rt.fillAtPrice (rt.newSimOrder bar side intentClass .market
          effective none comment) price) := .single (.fill rt _ price (h price rfl) rfl)
      exact wp_mono (simSteps_persistLedgerReports _) (fun _ _ => hfill.trans) fun _ _ =>
        hfill.trans

theorem simSteps_simulateIntents {intents : List Intent}
    (h : ∀ intent ∈ intents, priced ∨ Unpriced intent) :
    Within env (SimSteps priced) (simulateIntents (σ := σ) (P := P) bar intents) := by
  induction intents with
  | nil => exact within_pure _
  | cons intent intents ih =>
    obtain ⟨hintent, hintents⟩ := List.forall_mem_cons.mp h
    refine within_bind ?_ fun _ => ih hintents
    have hbase : (flattenIntent intent.explicitClass intent).2 = intent.baseIntent := by
      rw [flattenIntent_eq]
    unfold simulateIntent
    split
    · exact within_modify fun rt => .single (.place rt _ rfl)
    · next intentClass qty side fillPrice comment heq =>
      refine simSteps_simulateMarket bar _ _ _ _ fun price hprice => hintent.resolve_right ?_
      rw [heq, hprice] at hbase
      exact fun hunpriced => hunpriced qty side price comment hbase.symm
    · exact within_modify fun rt => .single (.cancel rt _ _)
    · exact within_modify fun rt => .single (.replace rt _ _ _ _)
    · exact within_pure _

/-- What a fill makes the strategy ask for is simulated too. -/
theorem simSteps_notifySimPosition (position : PositionEvent)
    (h : ∀ s ctx, ∀ intent ∈ (env.strategy.onPosition s ctx position).2,
      priced ∨ Unpriced intent) :
    Within env (SimSteps priced) (notifySimPosition bar position) := by
  refine within_read_bind <| within_get_bind fun _ =>
    within_bind (simSteps_of_emission (makes_strategyCtx _ _)) fun _ => within_get_bind fun rt =>
    within_bind (within_modify fun _ => .single (.same ⟨rfl, rfl, rfl, rfl⟩)) fun _ =>
    within_bind ?_ fun _ => simSteps_simulateIntents bar (h _ _)
  unfold recordNonLiveIntents
  split
  · exact within_pure _
  · exact simSteps_of_emission (makes_logVirtualTrades (fun _ _ => trivial) _ _)

theorem simSteps_simulateFills
    (h : ∀ s ctx position, ∀ intent ∈ (env.strategy.onPosition s ctx position).2,
      priced ∨ Unpriced intent) :
    Within env (SimSteps priced) (simulateFills (σ := σ) (P := P) bar) := by
  refine within_get_bind fun rt => ?_
  generalize (rt.simOrders.filterMap fun order =>
    (simFillPrice bar order).map fun price => (order.orderId, price)) = filled
  induction filled with
  | nil => exact within_pure _
  | cons fill filled ih =>
    refine within_bind (fun rt => ?_) fun _ => ih
    cases hfind : rt.simOrders.find? (·.orderId = fill.1) with
    | none =>
      unfold simulateFill
      rw [wp_bind, wp_get, hfind]
      exact .refl
    | some order =>
      have hid : order.orderId = fill.1 := by simpa using List.find?_some hfind
      have hsettle : SimSteps priced rt (rt.settle bar order fill.2) :=
        .single (.settle rt bar order fill.2 (by rw [hid, hfind]))
      have htell : Within env (SimSteps priced) (rt.tell bar order fill.2) := by
        unfold tell
        split
        · exact within_pure _
        · exact within_bind (simSteps_notifySimPosition bar _ fun s ctx => h s ctx _) fun _ =>
            simSteps_persistLedgerReports
      unfold wp
      rw [run_simulateFill hfind]
      exact wp_mono (htell _) (fun _ _ => hsettle.trans) fun _ _ => hsettle.trans

end Steps

/-- A run of the simulator over bars and intents, with nothing else on its books. -/
inductive PaperRun (env : Env σ P) (priced : Prop) : StrategyRuntime σ P → Prop
  | start (rt : StrategyRuntime σ P) (horders : rt.simOrders = []) (htrades : rt.ledger.trades = [])
      (hpositions : rt.state.positions = ∅) : PaperRun env priced rt
  | fills {rt : StrategyRuntime σ P} (run : PaperRun env priced rt) (bar : BarEvent) :
    PaperRun env priced ((simulateFills bar).post env rt)
  | intents {rt : StrategyRuntime σ P} (run : PaperRun env priced rt) (bar : BarEvent)
      (intents : List Intent) (h : ∀ intent ∈ intents, priced ∨ Unpriced intent) :
    PaperRun env priced ((simulateIntents bar intents).post env rt)
  | other {rt rt' : StrategyRuntime σ P} (run : PaperRun env priced rt) (h : SameSimBooks rt rt') :
    PaperRun env priced rt'

variable {env : Env σ P} {priced : Prop} {rt s t : StrategyRuntime σ P}

/-- What every step keeps holds after every run. -/
theorem PaperRun.keeps (run : PaperRun env priced rt)
    (hcalls : ∀ s ctx position, ∀ intent ∈ (env.strategy.onPosition s ctx position).2,
      priced ∨ Unpriced intent) {I : StrategyRuntime σ P → Prop}
    (hstart : ∀ rt : StrategyRuntime σ P, rt.simOrders = [] → rt.ledger.trades = [] →
      rt.state.positions = ∅ → I rt)
    (hstep : ∀ s t, SimStep priced s t → I s → I t) : I rt := by
  have hsteps : ∀ {s t : StrategyRuntime σ P}, SimSteps priced s t → I s → I t := by
    intro s t h hs
    induction h with
    | refl => exact hs
    | tail _ hlast ih => exact hstep _ _ hlast ih
  induction run with
  | start rt horders htrades hpositions => exact hstart rt horders htrades hpositions
  | fills _ bar ih => exact hsteps ((simSteps_simulateFills bar hcalls).post _) ih
  | intents _ bar intents h ih => exact hsteps ((simSteps_simulateIntents bar h).post _) ih
  | other _ h ih => exact hstep _ _ (.same h) ih

/-! ### Numbers -/

/-- The numbers of the orders that wait, and then of those that were filled. -/
def numbers (rt : StrategyRuntime σ P) : List ℤ :=
  rt.simOrders.map (·.orderId) ++ rt.ledger.trades.map (·.orderId)

/-- No number is there twice, and the next one is larger than all. -/
def Numbered (rt : StrategyRuntime σ P) : Prop :=
  rt.numbers.Nodup ∧ ∀ number ∈ rt.numbers, number < rt.nextSimOrderId

theorem replaceF_orderIds {orderId : ℤ} {new : SimOrder} (hnew : new.orderId = orderId)
    (orders : List SimOrder) :
    (orders.replaceF fun o => if o.orderId = orderId then some new else none).map (·.orderId) =
      orders.map (·.orderId) := by
  induction orders with
  | nil => rfl
  | cons order orders ih =>
    unfold List.replaceF
    split_ifs with hid
    · rw [List.map_cons, List.map_cons, hnew, hid]
    · rw [List.map_cons, List.map_cons, ih]

/-- Of the numbers, a step drops some, or it gives out the next one. -/
theorem SimStep.numbers (h : SimStep priced s t) :
    (t.numbers.Subperm s.numbers ∧ t.nextSimOrderId = s.nextSimOrderId) ∨
      (t.numbers.Perm (s.nextSimOrderId :: s.numbers) ∧
        t.nextSimOrderId = s.nextSimOrderId + 1) := by
  cases h with
  | same h =>
    unfold StrategyRuntime.numbers
    rw [h.simOrders, h.trades, h.nextSimOrderId]
    exact .inl ⟨.refl _, rfl⟩
  | place order h =>
    refine .inr ⟨?_, rfl⟩
    show ((s.simOrders ++ [order]).map (·.orderId) ++ _).Perm _
    rw [List.map_append, List.append_assoc, List.map_singleton, h]
    exact List.perm_middle
  | fill order price _ h =>
    refine .inr ⟨?_, rfl⟩
    show (_ ++ (TradeLedger.recordFill _ _).trades.map (·.orderId)).Perm _
    rw [TradeLedger.recordFill_trades, List.map_append, ← List.append_assoc, List.map_singleton]
    refine (List.perm_append_singleton _ _).trans ?_
    rw [show (simTradeRecord order order.qty price order.createdBarTs).orderId = _ from h]
    exact .refl _
  | cancel orderId tsUtc =>
    refine .inl ?_
    unfold cancelSimOrder
    split
    · exact ⟨.refl _, rfl⟩
    · exact ⟨((List.eraseP_sublist.map _).append_right _).subperm, rfl⟩
  | replace orderId newPrice newQty tsUtc =>
    refine .inl ?_
    unfold replaceSimOrder
    split
    · exact ⟨.refl _, rfl⟩
    · next order hfind =>
      have hid : order.orderId = orderId := by simpa using List.find?_some hfind
      refine ⟨?_, rfl⟩
      unfold StrategyRuntime.numbers
      dsimp only
      rw [replaceF_orderIds (by exact hid)]
      exact .refl _
  | settle bar order price h =>
    refine .inl ?_
    unfold StrategyRuntime.settle
    split
    · exact ⟨((List.eraseP_sublist.map _).append_right _).subperm, rfl⟩
    · refine ⟨List.Perm.subperm ?_, rfl⟩
      -- the number goes from the orders to the fills
      obtain ⟨-, before, after, horders, hbefore⟩ := List.find?_eq_some_iff_append.mp h
      show ((s.simOrders.eraseP _).map (·.orderId) ++
        (TradeLedger.recordFill _ _).trades.map (·.orderId)).Perm _
      unfold StrategyRuntime.numbers
      rw [TradeLedger.recordFill_trades, horders,
        List.eraseP_append_right _ (by simpa using hbefore), List.eraseP_cons_of_pos (by simp)]
      simp only [List.map_append, List.map_cons, List.map_nil, List.append_assoc, List.cons_append]
      refine List.Perm.trans ?_ List.perm_middle.symm
      rw [← List.append_assoc, ← List.append_assoc]
      exact (List.perm_append_singleton _ _).trans (by rw [List.append_assoc]; exact .refl _)

theorem SimStep.numbered (h : SimStep priced s t) (hs : Numbered s) : Numbered t := by
  rcases h.numbers with ⟨hnumbers, hnext⟩ | ⟨hnumbers, hnext⟩
  · obtain ⟨rest, hperm, hsublist⟩ := hnumbers
    refine ⟨hperm.nodup_iff.mp (hs.1.sublist hsublist), fun number hmem => ?_⟩
    rw [hnext]
    exact hs.2 number (hsublist.subset (hperm.mem_iff.mpr hmem))
  · have hfresh : s.nextSimOrderId ∉ s.numbers := fun hmem => lt_irrefl _ (hs.2 _ hmem)
    refine ⟨hnumbers.nodup_iff.mpr (List.nodup_cons.mpr ⟨hfresh, hs.1⟩), fun number hmem => ?_⟩
    rw [hnext]
    rcases List.mem_cons.mp (hnumbers.mem_iff.mp hmem) with rfl | hold
    · exact lt_add_one _
    · exact (hs.2 number hold).trans (lt_add_one _)

/-- In every run no two fills are of one order, no two orders that wait have one number, and none
that waits was filled. -/
theorem simulated_once (run : PaperRun env True rt) :
    (rt.ledger.trades.map (·.orderId)).Nodup ∧ (rt.simOrders.map (·.orderId)).Nodup ∧
      ∀ order ∈ rt.simOrders, ∀ trade ∈ rt.ledger.trades, trade.orderId ≠ order.orderId := by
  have hnumbered : Numbered rt := by
    refine run.keeps (fun _ _ _ _ _ => .inl trivial) (fun rt horders htrades _ => ?_)
      fun s t h => h.numbered
    unfold Numbered numbers
    rw [horders, htrades]
    exact ⟨.nil, fun _ hmem => absurd hmem List.not_mem_nil⟩
  obtain ⟨horders, htrades, hapart⟩ := List.nodup_append.mp hnumbered.1
  exact ⟨htrades, horders, fun order horder trade htrade heq =>
    hapart _ (List.mem_map_of_mem horder) _ (List.mem_map_of_mem htrade) heq.symm⟩

/-! ### Positions -/

/-- What the fills of a symbol add up to. -/
def netQty (symbol : String) (trades : List TradeRecord) : ℚ :=
  ((trades.filter (·.symbol = symbol)).map fun trade =>
    if eqIgnoreAsciiCase trade.side "buy" then trade.qty else -trade.qty).sum

/-- The position of every symbol is what its fills add up to. -/
def Reconciled (rt : StrategyRuntime σ P) : Prop :=
  ∀ symbol, rt.simPositionQty symbol = netQty symbol rt.ledger.trades

theorem SimStep.reconciled (h : SimStep False s t) (hs : Reconciled s) : Reconciled t := by
  cases h with
  | same h =>
    intro symbol
    unfold simPositionQty
    rw [h.positions, h.trades]
    exact hs symbol
  | place order h => exact hs
  | fill order price hpriced => exact hpriced.elim
  | cancel orderId tsUtc =>
    unfold cancelSimOrder
    split
    · exact hs
    · exact hs
  | replace orderId newPrice newQty tsUtc =>
    unfold replaceSimOrder
    split
    · exact hs
    · exact hs
  | settle bar order price h =>
    unfold StrategyRuntime.settle
    split
    · exact hs
    · next qty _ =>
      intro symbol
      show simPositionQty _ _ = netQty _ (TradeLedger.recordFill _ _).trades
      rw [TradeLedger.recordFill_trades]
      unfold netQty simPositionQty
      rw [List.filter_append, List.map_append, List.sum_append]
      have hbefore := hs symbol
      unfold netQty simPositionQty at hbefore
      show (((AList.insert order.symbol _ s.state.positions).lookup symbol).map (·.qty)).getD 0 = _
      by_cases hsymbol : symbol = order.symbol
      · rw [hsymbol] at hbefore ⊢
        rw [AList.lookup_insert, ← hbefore]
        simp [simTradeRecord, simPosition, simPositionQty]
      · rw [AList.lookup_insert_ne hsymbol, hbefore]
        simp [simTradeRecord, Ne.symm hsymbol]

/-- Where no market order names its price, the position of every symbol is after every run what the
fills in the ledger add up to. -/
theorem position_eq_netQty (run : PaperRun env False rt)
    (hcalls : ∀ s ctx position, ∀ intent ∈ (env.strategy.onPosition s ctx position).2,
      Unpriced intent) (symbol : String) :
    rt.simPositionQty symbol = netQty symbol rt.ledger.trades := by
  have hreconciled : Reconciled rt := by
    refine run.keeps (fun s ctx position intent hmem => .inr (hcalls s ctx position intent hmem))
      (fun rt _ htrades hpositions symbol => ?_) fun s t h => h.reconciled
    unfold simPositionQty
    rw [htrades, hpositions]
    rfl
  exact hreconciled symbol

end StrategyRuntime

/-! ### Two exits of one batch -/

namespace Sample

open StrategyRuntime

theorem unpriced_trade (side : Side) (qty : ℚ) (intentClass : IntentClass) :
    Unpriced (trade side qty intentClass) := by
  intro qty' side' price comment h
  injection h with _ _ hprice
  exact (nomatch hprice)

/-- Two lots are bought and sold. -/
theorem paperRun (priced : Prop) : PaperRun paperEnv priced
    ((simulateFills (paperBar 3)).post paperEnv (sold .exit)) := by
  refine (((((PaperRun.start _ rfl rfl rfl).intents _ _ ?_).fills _).intents _ _ ?_).fills _)
  · exact List.forall_mem_singleton.mpr (.inr (unpriced_trade _ _ _))
  · exact List.forall_mem_cons.mpr ⟨.inr (unpriced_trade _ _ _),
      List.forall_mem_singleton.mpr (.inr (unpriced_trade _ _ _))⟩

theorem simulated_once_sold :
    (((simulateFills (paperBar 3)).post paperEnv (sold .exit)).ledger.trades.map
      (·.orderId)).Nodup :=
  (simulated_once (paperRun True)).1

theorem position_eq_netQty_sold :
    ((simulateFills (paperBar 3)).post paperEnv (sold .exit)).simPositionQty "IMOEXF" =
      netQty "IMOEXF" ((simulateFills (paperBar 3)).post paperEnv (sold .exit)).ledger.trades :=
  position_eq_netQty (paperRun False) (fun _ _ _ _ hmem => absurd hmem List.not_mem_nil) "IMOEXF"

/-- A market order that names its price is a fill of the ledger that the position does not have. -/
def named : StrategyRuntime Unit Unit :=
  (simulateIntents (paperBar 1) [.market 2 .buy (some 100) none]).post paperEnv (.new () ())

example : named.simPositionQty "IMOEXF" = 0 ∧ netQty "IMOEXF" named.ledger.trades = 2 := by
  decide +kernel

end Sample

end AlorRs
