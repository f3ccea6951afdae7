import AlorRs.StrategyRuntime.Equiv.Runtime.Handlers
import AlorRs.StrategyRuntime.Equiv.TradeLedger

/-!
# No accepted trade is lost or recorded twice

In live mode the trades that the filter lets through are, at every point of a run, the recorded
fills and the buffered trades together (`TradesKept`).  The ledger also records orphans of a
quantity that is not positive, so both sides are compared on positive quantities.
-/

namespace AlorRs

open Eff

namespace StrategyRuntime

open RuntimeM

variable {σ P : Type} (text : RustText)

/-! ### Fills -/

variable (trades : Multiset TradeEvent)

def fills : Multiset TradeRecord :=
  (trades.filter fun trade => 0 < trade.qty).map fun trade => tradeRecord text trade false

variable (rt : StrategyRuntime σ P) (trade : TradeEvent)

/-- The recorded fills of positive quantity, whoever owned them. -/
def recordedFills : Multiset TradeRecord :=
  ((rt.ledger.trades : Multiset TradeRecord).filter fun trade => 0 < trade.qty).map
    fun trade => { trade with owned := false }

def bufferedTrades : Multiset TradeEvent :=
  KeyedBuffer.held rt.pendingTradesByOrderId

def totalFills : Multiset TradeRecord :=
  recordedFills rt + fills text (bufferedTrades rt)

theorem fills_add (a b : Multiset TradeEvent) : fills text (a + b) = fills text a + fills text b := by
  rw [fills, Multiset.filter_add, Multiset.map_add]
  rfl

theorem fills_cons : fills text (trade ::ₘ trades) = fills text {trade} + fills text trades := by
  rw [← Multiset.singleton_add, fills_add]

theorem recordedFills_recordFill (owned : Bool) :
    recordedFills { rt with ledger := rt.ledger.recordFill (tradeRecord text trade owned) } =
      recordedFills rt + fills text {trade} := by
  have htrades := TradeLedger.recordFill_trades rt.ledger (tradeRecord text trade owned)
  unfold recordedFills fills
  rw [htrades, ← Multiset.coe_add, Multiset.filter_add, Multiset.map_add, Multiset.coe_singleton]
  congr 1
  rw [Multiset.filter_singleton, Multiset.filter_singleton]
  have hsame : (tradeRecord text trade owned).qty = trade.qty := rfl
  rw [hsame]
  by_cases hqty : 0 < trade.qty
  · rw [if_pos hqty, if_pos hqty]
    rfl
  · rw [if_neg hqty, if_neg hqty]
    rfl

/-! ### Steps of the buffer -/

/-- A step that leaves orders, requests and strategy as they are. -/
structure SameOrders (s t : StrategyRuntime σ P) : Prop where
  orders : t.state.orders = s.state.orders
  requests : t.ourRequestIds = s.ourRequestIds

theorem SameOrders.trans {s t u : StrategyRuntime σ P} (h : SameOrders s t)
    (h' : SameOrders t u) : SameOrders s u :=
  ⟨h'.orders.trans h.orders, h'.requests.trans h.requests⟩

theorem startExecution_eq (h : trade.orderId ∈ rt.state.orders) :
    ∃ pendingExec, startExecution text rt trade = { rt with pendingExec := pendingExec } ∧
      trade.orderId ∈ pendingExec := by
  unfold startExecution
  by_cases hexec : trade.orderId ∈ rt.pendingExec
  · rw [if_pos hexec]
    exact ⟨rt.pendingExec, rfl, hexec⟩
  · rw [if_neg hexec]
    obtain ⟨order, horder⟩ := Option.isSome_iff_exists.mp (AList.lookup_isSome.mpr h)
    rw [horder]
    exact ⟨_, rfl, (AList.mem_insert _).mpr (.inl rfl)⟩

/-- What a trade does when it is applied to a known order: it is recorded, and orders, requests
and buffer stay as they are. -/
theorem applyTradeExecution_spec (h : trade.orderId ∈ rt.state.orders) :
    let rt' := applyTradeExecution text rt trade
    SameOrders rt rt' ∧ rt'.ourOrderIds = rt.ourOrderIds ∧
    rt'.pendingTradesByOrderId = rt.pendingTradesByOrderId ∧
    recordedFills rt' = recordedFills rt + fills text {trade} := by
  obtain ⟨pendingExec, heq, hmem⟩ := startExecution_eq text rt trade h
  obtain ⟨pending, hpending⟩ := Option.isSome_iff_exists.mp (AList.lookup_isSome.mpr hmem)
  unfold applyTradeExecution
  rw [heq]
  dsimp only
  rw [hpending]
  dsimp only
  by_cases hqty : 0 < trade.qty
  · rw [if_pos hqty]
    exact ⟨⟨rfl, rfl⟩, rfl, rfl, recordedFills_recordFill text rt trade true⟩
  · rw [if_neg hqty]
    refine ⟨⟨rfl, rfl⟩, rfl, rfl, ?_⟩
    rw [fills, Multiset.filter_singleton, if_neg hqty]
    exact (add_zero _).symm

variable {orderId : ℤ}

theorem applyTradeExecutions_spec (trades : List TradeEvent) (h : orderId ∈ rt.state.orders)
    (hkey : ∀ trade ∈ trades, trade.orderId = orderId) :
    let rt' := trades.foldl (applyTradeExecution text) rt
    SameOrders rt rt' ∧ rt'.ourOrderIds = rt.ourOrderIds ∧
    rt'.pendingTradesByOrderId = rt.pendingTradesByOrderId ∧
    recordedFills rt' = recordedFills rt + fills text trades := by
  induction trades generalizing rt with
  | nil => exact ⟨⟨rfl, rfl⟩, rfl, rfl, (add_zero _).symm⟩
  | cons trade trades ih =>
    have hid := hkey trade List.mem_cons_self
    obtain ⟨hsame, hour, hpending, hrecorded⟩ := applyTradeExecution_spec text rt trade (hid ▸ h)
    obtain ⟨hsame', hour', hpending', hrecorded'⟩ := ih (applyTradeExecution text rt trade)
      (hsame.orders ▸ h) fun trade hmem => hkey trade (List.mem_cons_of_mem _ hmem)
    refine ⟨hsame.trans hsame', hour'.trans hour, hpending'.trans hpending, ?_⟩
    rw [List.foldl_cons, hrecorded', hrecorded, ← Multiset.cons_coe, fills_cons, add_assoc]

theorem adoptOrphanTrades_spec (trades : List TradeEvent)
    (hkey : ∀ trade ∈ trades, trade.orderId = orderId) :
    let rt' := trades.foldl (adoptOrphanTrade text) rt
    SameOrders rt rt' ∧ rt.ourOrderIds ⊆ rt'.ourOrderIds ∧
    (∀ id ∈ rt'.ourOrderIds, id ∈ rt.ourOrderIds ∨ id = orderId) ∧
    rt'.pendingTradesByOrderId = rt.pendingTradesByOrderId ∧
    recordedFills rt' = recordedFills rt + fills text trades := by
  induction trades generalizing rt with
  | nil => exact ⟨⟨rfl, rfl⟩, subset_rfl, fun id => .inl, rfl, (add_zero _).symm⟩
  | cons trade trades ih =>
    have hid := hkey trade List.mem_cons_self
    have hrecord : recordedFills (adoptOrphanTrade text rt trade) =
        recordedFills rt + fills text {trade} := recordedFills_recordFill text _ trade false
    obtain ⟨hsame, hsub, hnew, hpending, hrecorded⟩ := ih (adoptOrphanTrade text rt trade)
      fun trade hmem => hkey trade (List.mem_cons_of_mem _ hmem)
    refine ⟨⟨hsame.orders, hsame.requests⟩, (Finset.subset_insert _ _).trans hsub, ?_, hpending, ?_⟩
    · intro id hmem
      rcases hnew id hmem with hmem | rfl
      · rcases Finset.mem_insert.mp hmem with rfl | hmem
        · exact .inr hid
        · exact .inl hmem
      · exact .inr rfl
    · rw [List.foldl_cons, hrecorded, hrecord, ← Multiset.cons_coe, fills_cons, add_assoc]

/-! ### The invariant -/

/-- The accepted trades are recorded or buffered, each under its own order, and no trade waits
for an order that is ours and known; `exempt` are the orders for which one may. -/
structure TradesHeld (accepted : Multiset TradeEvent) (exempt : Set ℤ)
    (rt : StrategyRuntime σ P) : Prop where
  conserved : fills text accepted = totalFills text rt
  keyed : ∀ orderId, ∀ trade ∈ KeyedBuffer.items rt.pendingTradesByOrderId orderId,
    trade.orderId = orderId
  applied : ∀ orderId ∉ exempt, orderId ∈ rt.ourOrderIds → orderId ∈ rt.state.orders →
    orderId ∉ rt.pendingTradesByOrderId

/-- Once no request is open, no trade waits for an order of others. -/
structure TradesKept (accepted : Multiset TradeEvent) (rt : StrategyRuntime σ P) : Prop extends
    TradesHeld text accepted ∅ rt where
  settled : rt.ourRequestIds = ∅ → ∀ orderId ∈ rt.pendingTradesByOrderId,
    orderId ∈ rt.ourOrderIds

variable {text} {accepted : Multiset TradeEvent} {exempt : Set ℤ}

/-- The trades of a taken order were part of the total. -/
theorem totalFills_take (orderId : ℤ) :
    totalFills text rt = totalFills text (rt.takePendingTrades orderId).2 +
      fills text (rt.takePendingTrades orderId).1 := by
  have hheld : bufferedTrades rt = ((rt.takePendingTrades orderId).1 : Multiset TradeEvent) +
      bufferedTrades (rt.takePendingTrades orderId).2 :=
    KeyedBuffer.held_erase rt.pendingTradesByOrderId orderId
  rw [totalFills, hheld, fills_add, totalFills, add_assoc, add_comm (fills text _)]
  rfl

variable {rt : StrategyRuntime σ P}

theorem keyed_take (h : TradesHeld text accepted exempt rt) (orderId : ℤ) :
    ∀ id, ∀ trade ∈ KeyedBuffer.items
      (rt.takePendingTrades orderId).2.pendingTradesByOrderId id, trade.orderId = id := by
  intro id trade hmem
  have hitems : KeyedBuffer.items (rt.takePendingTrades orderId).2.pendingTradesByOrderId id =
      if id = orderId then [] else KeyedBuffer.items rt.pendingTradesByOrderId id :=
    KeyedBuffer.items_erase _ _ _
  rw [hitems] at hmem
  split at hmem
  · exact absurd hmem List.not_mem_nil
  · exact h.keyed id trade hmem

theorem TradesHeld.replay (h : TradesHeld text accepted {orderId} rt) :
    let rt' := replayPendingTradesForOrder text rt orderId
    TradesHeld text accepted ∅ rt' ∧ SameOrders rt rt' ∧ rt'.ourOrderIds = rt.ourOrderIds ∧
    ∀ id ∈ rt'.pendingTradesByOrderId, id ∈ rt.pendingTradesByOrderId := by
  unfold replayPendingTradesForOrder
  split
  · next hother =>
    refine ⟨⟨h.conserved, h.keyed, fun id _ hour horder => ?_⟩, ⟨rfl, rfl⟩, rfl, fun _ => id⟩
    refine h.applied id ?_ hour horder
    rintro rfl
    rcases hother with hother | hother
    · exact hother hour
    · exact hother horder
  · next hours =>
    rw [not_or, not_not, not_not] at hours
    obtain ⟨hsame, hour, hpending, hrecorded⟩ := applyTradeExecutions_spec text
      (rt.takePendingTrades orderId).2 (rt.takePendingTrades orderId).1 hours.2 (h.keyed orderId)
    refine ⟨⟨?_, ?_, ?_⟩, ⟨hsame.orders, hsame.requests⟩, hour, ?_⟩
    · rw [h.conserved, totalFills_take rt orderId, totalFills, totalFills, hrecorded,
        bufferedTrades, bufferedTrades, hpending, add_right_comm]
    · rw [hpending]
      exact keyed_take h orderId
    · intro id _ hid horder
      rw [hpending]
      intro hmem
      obtain ⟨hne, hmem⟩ := AList.mem_erase.mp hmem
      rw [hour] at hid
      rw [hsame.orders] at horder
      exact h.applied id hne hid horder hmem
    · intro id hmem
      rw [hpending] at hmem
      exact (AList.mem_erase.mp hmem).2

theorem TradesHeld.flushOrder (h : TradesHeld text accepted ∅ rt) (orderId : ℤ) :
    let rt' := rt.flushOrder text orderId
    TradesHeld text accepted ∅ rt' ∧ SameOrders rt rt' ∧ rt.ourOrderIds ⊆ rt'.ourOrderIds ∧
    ∀ id ∈ rt'.pendingTradesByOrderId, id ≠ orderId ∧ id ∈ rt.pendingTradesByOrderId := by
  obtain ⟨hsame, hsub, hnew, hpending, hrecorded⟩ := adoptOrphanTrades_spec text
    (rt.takePendingTrades orderId).2 (rt.takePendingTrades orderId).1 (h.keyed orderId)
  unfold StrategyRuntime.flushOrder
  refine ⟨⟨?_, ?_, ?_⟩, ⟨hsame.orders, hsame.requests⟩, hsub, ?_⟩
  · rw [h.conserved, totalFills_take rt orderId, totalFills, totalFills, hrecorded,
      bufferedTrades, bufferedTrades, hpending, add_right_comm]
  · rw [hpending]
    exact keyed_take h orderId
  · intro id _ hid horder
    rw [hpending]
    intro hmem
    obtain ⟨hne, hmem⟩ := AList.mem_erase.mp hmem
    rw [hsame.orders] at horder
    rcases hnew id hid with hid | hid
    · exact h.applied id (Set.notMem_empty id) hid horder hmem
    · exact hne hid
  · intro id hmem
    rw [hpending] at hmem
    exact AList.mem_erase.mp hmem

theorem TradesHeld.flushOrders (h : TradesHeld text accepted ∅ rt) (orderIds : List ℤ) :
    let rt' := orderIds.foldl (StrategyRuntime.flushOrder text) rt
    TradesHeld text accepted ∅ rt' ∧ SameOrders rt rt' ∧ rt.ourOrderIds ⊆ rt'.ourOrderIds ∧
    ∀ id ∈ rt'.pendingTradesByOrderId, id ∉ orderIds ∧ id ∈ rt.pendingTradesByOrderId := by
  induction orderIds generalizing rt with
  | nil => exact ⟨h, ⟨rfl, rfl⟩, subset_rfl, fun id hid => ⟨List.not_mem_nil, hid⟩⟩
  | cons orderId orderIds ih =>
    obtain ⟨hheld, hsame, hsub, hkeys⟩ := h.flushOrder orderId
    obtain ⟨hheld', hsame', hsub', hkeys'⟩ := ih hheld
    refine ⟨hheld', hsame.trans hsame', hsub.trans hsub', fun id hid => ?_⟩
    obtain ⟨hnot, hmem⟩ := hkeys' id hid
    obtain ⟨hne, hmem⟩ := hkeys id hmem
    exact ⟨fun h => (List.mem_cons.mp h).elim hne hnot, hmem⟩

/-- After the flush nothing waits for an order of others. -/
theorem TradesHeld.flush (h : TradesHeld text accepted ∅ rt) :
    TradesKept text accepted (flushUnmatchedPreAckTrades text rt) := by
  unfold flushUnmatchedPreAckTrades
  split
  · next hrequests => exact ⟨h, fun hnone => absurd hnone hrequests⟩
  · obtain ⟨hheld, hsame, hsub, hkeys⟩ := h.flushOrders
      (rt.pendingTradesByOrderId.keys.filter (· ∉ rt.ourOrderIds))
    refine ⟨hheld, fun _ id hid => ?_⟩
    obtain ⟨hnot, hmem⟩ := hkeys id hid
    by_contra hother
    refine hnot (List.mem_filter.mpr ⟨AList.mem_keys.mp hmem, ?_⟩)
    exact decide_eq_true fun hour => hother (hsub hour)

/-! ### The handlers' steps -/

/-- An acknowledgment settles the trades of its order and, once it was the last one open, the
trades of all others. -/
theorem TradesKept.registerAck (h : TradesKept text accepted rt) (ack : CommandAck) :
    TradesKept text accepted (registerAcknowledgedOrder text rt ack) := by
  refine TradesHeld.flush ?_
  split
  · dsimp only
    split
    · next orderId horder =>
      have hheld : TradesHeld text accepted {orderId}
          { rt with
            ourRequestIds := rt.ourRequestIds.erase ack.requestId
            ourOrderIds := insert orderId rt.ourOrderIds } := by
        refine ⟨h.conserved, h.keyed, fun id hid hour => ?_⟩
        exact h.applied id (Set.notMem_empty id) (Finset.mem_of_mem_insert_of_ne hour hid)
      exact hheld.replay.1
    · exact ⟨h.conserved, h.keyed, h.applied⟩
  · exact h.toTradesHeld

variable {config : RuntimeConfig}

theorem updateLedgerFromOrder_spec (hlive : config.tradeMode = .live) (text : RustText)
    (rt : StrategyRuntime σ P) (order : OrderEvent) :
    let rt' := updateLedgerFromOrder config text rt order
    SameOrders rt rt' ∧ rt'.ourOrderIds = rt.ourOrderIds ∧
    rt'.pendingTradesByOrderId = rt.pendingTradesByOrderId ∧
    rt'.ledger.trades = rt.ledger.trades := by
  unfold updateLedgerFromOrder expectExecution
  dsimp only
  split_ifs <;> exact ⟨⟨rfl, rfl⟩, rfl, rfl, rfl⟩

/-- An order event settles the trades that waited for it. -/
theorem TradesKept.orderKnown (hlive : config.tradeMode = .live) (h : TradesKept text accepted rt)
    (order : OrderEvent) : let rt' := updateLedgerFromOrder config text rt order
    TradesKept text accepted (replayPendingTradesForOrder text
      { rt' with state := { rt'.state with
          orders := rt'.state.orders.insert order.orderId order } } order.orderId) := by
  obtain ⟨hsame, hour, hpending, htrades⟩ := updateLedgerFromOrder_spec hlive text rt order
  generalize updateLedgerFromOrder config text rt order = rt' at *
  have hheld : TradesHeld text accepted {order.orderId}
      { rt' with state := { rt'.state with
          orders := rt'.state.orders.insert order.orderId order } } := by
    refine ⟨?_, ?_, fun id hid hidour hidorder => ?_⟩
    · rw [h.conserved, totalFills, totalFills, recordedFills, recordedFills, bufferedTrades,
        bufferedTrades, htrades, hpending]
    · rw [hpending]
      exact h.keyed
    · rw [hpending]
      rw [hour] at hidour
      have hold : id ∈ rt.state.orders := by
        rw [← hsame.orders]
        exact ((AList.mem_insert _).mp hidorder).resolve_left hid
      exact h.applied id (Set.notMem_empty id) hidour hold
  obtain ⟨hkept, hsame', hour', hkeys⟩ := hheld.replay
  refine ⟨hkept, fun hnone id hid => ?_⟩
  rw [hour', hour]
  refine h.settled ?_ id (hpending ▸ hkeys id hid)
  rw [← hsame.requests, ← hnone, hsame'.requests]

/-- A buffered trade joins the accepted ones. -/
theorem totalFills_push :
    totalFills text { rt with
        pendingTradesByOrderId := KeyedBuffer.push rt.pendingTradesByOrderId trade.orderId trade } =
      fills text {trade} + totalFills text rt := by
  have hheld : KeyedBuffer.held (KeyedBuffer.push rt.pendingTradesByOrderId trade.orderId trade) =
      trade ::ₘ bufferedTrades rt := KeyedBuffer.held_push _ _ _
  rw [totalFills, bufferedTrades, hheld, fills_cons, add_left_comm]
  rfl

theorem keyed_push (h : TradesHeld text accepted exempt rt) (trade : TradeEvent) :
    ∀ id, ∀ trade' ∈ KeyedBuffer.items
      (KeyedBuffer.push rt.pendingTradesByOrderId trade.orderId trade) id, trade'.orderId = id := by
  intro id trade' hmem
  rw [KeyedBuffer.items_push] at hmem
  split at hmem
  · next hid =>
    rcases List.mem_append.mp hmem with hmem | hmem
    · rw [hid]
      exact h.keyed trade.orderId trade' hmem
    · rw [List.mem_singleton.mp hmem, hid]
  · exact h.keyed id trade' hmem

/-- An accepted trade is applied, buffered, or adopted. -/
theorem TradesKept.settle (h : TradesKept text accepted rt) {trade : TradeEvent}
    (hid : 0 < trade.orderId) : TradesKept text ({trade} + accepted) (settleTrade text rt trade) := by
  unfold settleTrade
  rw [if_neg (not_le.mpr hid)]
  split
  · next hour =>
    unfold queueOrApplyOwnedTrade
    split
    · next horder =>
      obtain ⟨hsame, hour', hpending, hrecorded⟩ := applyTradeExecution_spec text rt trade horder
      refine ⟨⟨?_, hpending ▸ h.keyed, ?_⟩, ?_⟩
      · rw [fills_add, h.conserved, totalFills, totalFills, hrecorded, bufferedTrades,
          bufferedTrades, hpending, ← add_assoc, add_comm (fills text {trade})]
      · rw [hpending, hour', hsame.orders]
        exact h.applied
      · rw [hpending, hour', hsame.requests]
        exact h.settled
    · next horder =>
      refine ⟨⟨?_, keyed_push h.toTradesHeld trade, fun id _ hidour hidorder hmem => ?_⟩, ?_⟩
      · rw [fills_add, h.conserved, totalFills_push]
      · rcases KeyedBuffer.mem_push.mp hmem with rfl | hmem
        · exact horder hidorder
        · exact h.applied id (Set.notMem_empty id) hidour hidorder hmem
      · intro hnone id hmem
        rcases KeyedBuffer.mem_push.mp hmem with rfl | hmem
        · exact hour
        · exact h.settled hnone id hmem
  · next hother =>
    unfold bufferPreAckTrade
    by_cases hnone : rt.ourRequestIds = ∅
    · -- nobody can claim the order any more
      rw [if_pos hnone]
      obtain ⟨hsame, hsub, hnew, hpending, hrecorded⟩ := adoptOrphanTrades_spec text rt [trade]
        fun trade' hmem => congrArg TradeEvent.orderId (List.mem_singleton.mp hmem)
      rw [List.foldl_cons, List.foldl_nil] at hsame hsub hnew hpending hrecorded
      refine ⟨⟨?_, hpending ▸ h.keyed, fun id _ hidour hidorder hmem => ?_⟩, fun _ id hmem => ?_⟩
      · rw [fills_add, h.conserved, totalFills, totalFills, hrecorded, bufferedTrades,
          bufferedTrades, hpending, Multiset.coe_singleton, ← add_assoc,
          add_comm (fills text {trade})]
      · rw [hpending] at hmem
        rcases hnew id hidour with hidour | rfl
        · exact h.applied id (Set.notMem_empty id) hidour hidorder hmem
        · exact hother (h.settled hnone _ hmem)
      · rw [hpending] at hmem
        exact hsub (h.settled hnone id hmem)
    · rw [if_neg hnone]
      refine ⟨⟨?_, keyed_push h.toTradesHeld trade, fun id _ hidour hidorder hmem => ?_⟩,
        fun hempty => absurd hempty hnone⟩
      · rw [fills_add, h.conserved, totalFills_push]
      · rcases KeyedBuffer.mem_push.mp hmem with rfl | hmem
        · exact hother hidour
        · exact h.applied id (Set.notMem_empty id) hidour hidorder hmem

/-! ### Runs -/

/-- What comes to the runtime: events of the broker's streams, and emissions. -/
inductive BrokerInput (P : Type) where
  | event (stream messageId : String) (event : BrokerEvent)
  | emission (ctx : StrategyCtx) (createdTsUtc dispatchTsUtc : ℤ) (intents : List Intent)
      (previousState : P)

def BrokerInput.handle : BrokerInput P → RuntimeM σ P Unit
  | .event stream messageId sent => sent.handle stream messageId
  | .emission ctx createdTsUtc dispatchTsUtc intents previousState =>
    applyIntents ctx createdTsUtc dispatchTsUtc intents previousState

def handleInputs : List (BrokerInput P) → RuntimeM σ P Unit
  | [] => return ()
  | input :: inputs => do
    input.handle
    handleInputs inputs

def BrokerInput.acceptedTrade (env : Env σ P) (rt : StrategyRuntime σ P) :
    BrokerInput P → Multiset TradeEvent
  | .event _ _ (.trade trade) =>
    if matchesStrategySymbol env.config trade.symbol ∧
        (rt.state.shouldProcessTrade env.text trade).2 ∧ 0 < trade.orderId then {trade} else 0
  | _ => 0

def acceptedTrades (env : Env σ P) : List (BrokerInput P) → StrategyRuntime σ P →
    Multiset TradeEvent
  | [], _ => 0
  | input :: inputs, rt =>
    input.acceptedTrade env rt + match input.handle.run env rt with
      | (.ok _, rt) => acceptedTrades env inputs rt
      | (.error _, _) => 0

section Runs

variable {env : Env σ P}

/-- Moves that keep the books keep the trades. -/
theorem TradesKept.of_moves {rt' : StrategyRuntime σ P} (h : TradesKept text accepted rt)
    {event : HostEvent P → Prop} {react : Prop} {revert : P → Prop}
    (hmoves : Moves env.strategy (emission event react revert) rt rt') :
    TradesKept text accepted rt' := by
  obtain ⟨hbooks, hrequests⟩ := hmoves.keepsBooks
  have horders : rt'.state.orders = rt.state.orders := congrArg Books.orders hbooks
  have hledger : rt'.ledger = rt.ledger := congrArg Books.ledger hbooks
  have hour : rt'.ourOrderIds = rt.ourOrderIds := congrArg Books.ourOrderIds hbooks
  have hpending : rt'.pendingTradesByOrderId = rt.pendingTradesByOrderId :=
    congrArg Books.pendingTradesByOrderId hbooks
  refine ⟨⟨?_, ?_, ?_⟩, fun hnone => ?_⟩
  · rw [h.conserved, totalFills, totalFills, recordedFills, recordedFills, bufferedTrades,
      bufferedTrades, hledger, hpending]
  · rw [hpending]
    exact h.keyed
  · rw [hpending, hour, horders]
    exact h.applied
  · rw [hpending, hour]
    exact h.settled (Finset.subset_empty.mp (hnone ▸ hrequests))

theorem wp_xack_kept (h : TradesKept text accepted rt) (stream messageId : String) :
    wp (xack stream messageId) env rt (fun _ t => TradesKept text accepted t)
      fun _ t => TradesKept text accepted t := by
  have hasks : (emission (fun _ => True) False fun _ => False : Allowed σ P).Asks := emission_asks
  have hxack : Makes env (emission (fun _ => True) False fun _ => False) (xack stream messageId) :=
    makes_xack hasks (fun _ _ => trivial) stream messageId
  exact wp_mono (hxack rt) (fun _ _ ht => h.of_moves ht) fun _ _ ht => h.of_moves ht

theorem wp_callbackAt_kept (h : TradesKept text accepted rt) (eventTsUtc : ℤ)
    (lastBar : RuntimeConfig → StrategyRuntime σ P → Option ℤ)
    {callback : Strategy σ P → σ → StrategyCtx → σ × List Intent}
    (hcallback : ∀ s ctx, Reactions env.strategy s (callback env.strategy s ctx).1) :
    wp (callbackAt eventTsUtc lastBar callback) env rt (fun _ t => TradesKept text accepted t)
      fun _ t => TradesKept text accepted t :=
  wp_mono (wp_callbackAt eventTsUtc lastBar hcallback rt) (fun _ _ ht => h.of_moves ht)
    fun _ _ ht => h.of_moves ht

theorem wp_whenLive_kept (hlive : env.config.tradeMode = .live) (h : TradesKept text accepted rt)
    {accepted' : Multiset TradeEvent} {stream messageId symbol : String}
    {handle : RuntimeM σ P Unit}
    (hskip : matchesStrategySymbol env.config symbol = false → accepted' = accepted)
    (hhandle : matchesStrategySymbol env.config symbol = true →
      wp handle env rt (fun _ t => TradesKept text accepted' t)
        fun _ t => TradesKept text accepted' t) :
    wp (whenLive stream messageId symbol handle) env rt (fun _ t => TradesKept text accepted' t)
      fun _ t => TradesKept text accepted' t := by
  rw [whenLive, wp_bind, wp_read, if_neg (not_not.mpr hlive)]
  cases hmatch : matchesStrategySymbol env.config symbol with
  | false =>
    rw [hskip hmatch]
    exact wp_xack_kept h stream messageId
  | true => exact hhandle hmatch

theorem wp_handleAck_kept (h : TradesKept env.text accepted rt) (stream messageId : String)
    (ack : CommandAck) :
    wp (handleAck stream messageId ack) env rt (fun _ t => TradesKept env.text accepted t)
      fun _ t => TradesKept env.text accepted t := by
  rw [handleAck, wp_bind, update, wp_bind, wp_read, wp_modify, wp_bind]
  refine wp_mono (wp_callbackAt_kept (h.registerAck ack) _ _ fun s ctx => .single (.ack s ctx ack))
    (fun _ t ht => ?_) fun _ _ ht => ht
  exact wp_xack_kept ht stream messageId

theorem wp_handleOrder_kept (hlive : env.config.tradeMode = .live)
    (h : TradesKept env.text accepted rt) (stream messageId : String) (order : OrderEvent) :
    wp (handleOrder stream messageId order) env rt (fun _ t => TradesKept env.text accepted t)
      fun _ t => TradesKept env.text accepted t := by
  refine wp_whenLive_kept hlive h (fun _ => rfl) fun _ => ?_
  rw [wp_bind]
  refine wp_mono (wp_callbackAt_kept h _ _ fun s ctx => .single (.order s ctx order))
    (fun _ t ht => ?_) fun _ _ ht => ht
  rw [wp_bind, update, wp_bind, wp_read, wp_modify]
  exact wp_xack_kept (ht.orderKnown hlive order) stream messageId

/-- The mirror of stop orders and positions is kept apart from the trades. -/
theorem wp_mirror_kept (h : TradesKept text accepted rt) {f : RuntimeState P → RuntimeState P}
    (hf : ∀ state, (f state).orders = state.orders) (stream messageId : String) :
    wp (do modifyState f; xack stream messageId) env rt (fun _ t => TradesKept text accepted t)
      fun _ t => TradesKept text accepted t := by
  have hkept : TradesKept text accepted { rt with state := f rt.state } :=
    ⟨⟨h.conserved, h.keyed, (hf rt.state) ▸ h.applied⟩, h.settled⟩
  rw [modifyState, wp_bind, wp_modify]
  exact wp_xack_kept hkept stream messageId

theorem wp_handleStopOrder_kept (hlive : env.config.tradeMode = .live)
    (h : TradesKept env.text accepted rt) (stream messageId : String) (stopOrder : StopOrderEvent) :
    wp (handleStopOrder stream messageId stopOrder) env rt
      (fun _ t => TradesKept env.text accepted t) fun _ t => TradesKept env.text accepted t := by
  refine wp_whenLive_kept hlive h (fun _ => rfl) fun _ => ?_
  rw [wp_bind, wp_read]
  split
  · rw [wp_bind]
    refine wp_mono (wp_callbackAt_kept h _ _ fun s ctx => .single (.stopOrder s ctx stopOrder))
      (fun _ t ht => ?_) fun _ _ ht => ht
    refine wp_mirror_kept ht ?_ stream messageId
    exact fun _ => rfl
  · refine wp_mirror_kept h ?_ stream messageId
    exact fun _ => rfl

theorem wp_handlePosition_kept (hlive : env.config.tradeMode = .live)
    (h : TradesKept env.text accepted rt) (stream messageId : String) (position : PositionEvent) :
    wp (handlePosition stream messageId position) env rt
      (fun _ t => TradesKept env.text accepted t) fun _ t => TradesKept env.text accepted t := by
  rw [handlePosition, wp_bind, wp_read, if_neg (not_not.mpr hlive)]
  refine wp_whenLive_kept hlive h (fun _ => rfl) fun _ => ?_
  rw [wp_bind]
  refine wp_mono (wp_callbackAt_kept h _ _ fun s ctx => .single (.position s ctx position))
    (fun _ t ht => ?_) fun _ _ ht => ht
  refine wp_mirror_kept ht ?_ stream messageId
  exact fun _ => rfl

theorem shouldProcessTrade_orders (state : RuntimeState P) (trade : TradeEvent) :
    (state.shouldProcessTrade text trade).1.orders = state.orders := by
  unfold RuntimeState.shouldProcessTrade RuntimeState.rememberTrade
  dsimp only
  split_ifs <;> rfl

theorem wp_handleTrade_kept (hlive : env.config.tradeMode = .live)
    (h : TradesKept env.text accepted rt) (stream messageId : String) (trade : TradeEvent) :
    let accepted' := (BrokerInput.event stream messageId (.trade trade)).acceptedTrade env rt + accepted
    wp (handleTrade stream messageId trade) env rt (fun _ t => TradesKept env.text accepted' t)
      fun _ t => TradesKept env.text accepted' t := by
  refine wp_whenLive_kept hlive h (fun hmatch => ?_) fun hmatch => ?_
  · have hzero : (BrokerInput.event stream messageId (.trade trade)).acceptedTrade env rt = 0 :=
      if_neg fun hall => by simp [hmatch] at hall
    rw [hzero, zero_add]
  · have hstate : ∀ state, state.orders = rt.state.orders →
        TradesKept env.text accepted { rt with state := state } :=
      fun state horders => ⟨⟨h.conserved, h.keyed, horders ▸ h.applied⟩, h.settled⟩
    have horders : (rt.state.shouldProcessTrade env.text trade).1.orders = rt.state.orders :=
      shouldProcessTrade_orders rt.state trade
    rw [wp_bind, update, wp_bind, wp_read, wp_modify]
    refine wp_xack_kept ?_ stream messageId
    rcases hfilter : rt.state.shouldProcessTrade env.text trade with ⟨state, _ | _⟩
    · -- the filter drops the trade
      have hzero : (BrokerInput.event stream messageId (.trade trade)).acceptedTrade env rt = 0 :=
        if_neg fun hall => by simp [hfilter] at hall
      rw [hfilter] at horders
      rw [hzero, zero_add]
      exact hstate state horders
    · rw [hfilter] at horders
      have hkept := hstate state horders
      by_cases hid : 0 < trade.orderId
      · have hone : (BrokerInput.event stream messageId (.trade trade)).acceptedTrade env rt = {trade} :=
          if_pos ⟨hmatch, by rw [hfilter], hid⟩
        rw [hone]
        exact hkept.settle hid
      · have hzero : (BrokerInput.event stream messageId (.trade trade)).acceptedTrade env rt = 0 :=
          if_neg fun hall => hid hall.2.2
        rw [hzero, zero_add]
        dsimp only
        rw [settleTrade, if_pos (not_lt.mp hid)]
        exact hkept

theorem wp_handle_kept (hlive : env.config.tradeMode = .live) (h : TradesKept env.text accepted rt)
    (input : BrokerInput P) :
    wp input.handle env rt
      (fun _ t => TradesKept env.text (input.acceptedTrade env rt + accepted) t)
      fun _ t => TradesKept env.text (input.acceptedTrade env rt + accepted) t := by
  -- only trades are accepted
  have hnone : ∀ {m : RuntimeM σ P Unit},
      wp m env rt (fun _ t => TradesKept env.text accepted t)
        (fun _ t => TradesKept env.text accepted t) →
      wp m env rt (fun _ t => TradesKept env.text (0 + accepted) t)
        fun _ t => TradesKept env.text (0 + accepted) t := by
    intro m hm
    rwa [zero_add]
  cases input with
  | event stream messageId event =>
    cases event with
    | ack ack => exact hnone (wp_handleAck_kept h stream messageId ack)
    | order order => exact hnone (wp_handleOrder_kept hlive h stream messageId order)
    | stopOrder stopOrder => exact hnone (wp_handleStopOrder_kept hlive h stream messageId stopOrder)
    | trade trade => exact wp_handleTrade_kept hlive h stream messageId trade
    | position position => exact hnone (wp_handlePosition_kept hlive h stream messageId position)
  | emission ctx createdTsUtc dispatchTsUtc intents previousState =>
    have happly : Makes env (calling previousState)
        (applyIntents ctx createdTsUtc dispatchTsUtc intents previousState) :=
      makes_applyIntents ctx createdTsUtc dispatchTsUtc intents rfl
    exact hnone (wp_mono (happly rt) (fun _ _ ht => h.of_moves ht) fun _ _ ht => h.of_moves ht)

/-- A run keeps the trades that it accepts. -/
theorem handleInputs_kept (hlive : env.config.tradeMode = .live) (inputs : List (BrokerInput P))
    (h : TradesKept env.text accepted rt) :
    TradesKept env.text (acceptedTrades env inputs rt + accepted)
      ((handleInputs inputs).post env rt) := by
  induction inputs generalizing rt accepted with
  | nil =>
    rw [acceptedTrades, zero_add]
    exact h
  | cons input inputs ih =>
    have hstep := wp_iff_run.mp (wp_handle_kept hlive h input)
    rw [acceptedTrades, handleInputs, post_bind]
    rcases hrun : input.handle.run env rt with ⟨error | _, t⟩
    · rw [add_zero]
      exact hstep.2 error t hrun
    · rw [add_comm (input.acceptedTrade env rt), add_assoc]
      exact ih (hstep.1 _ t hrun)

/-- From empty buffers, whatever comes in live mode and in whatever order, the accepted trades
are the recorded fills and the buffered trades, and no trade waits in vain. -/
theorem handleInputs_tradesKept (hlive : env.config.tradeMode = .live)
    (inputs : List (BrokerInput P)) {rt : StrategyRuntime σ P}
    (hpending : rt.pendingTradesByOrderId = ∅) (hledger : rt.ledger.trades = []) :
    TradesKept env.text (acceptedTrades env inputs rt) ((handleInputs inputs).post env rt) := by
  have hstart : TradesKept env.text 0 rt := by
    refine ⟨⟨?_, ?_, ?_⟩, ?_⟩
    · rw [totalFills, recordedFills, bufferedTrades, hledger, hpending]
      rfl
    · rw [hpending]
      exact fun _ _ hmem => absurd hmem List.not_mem_nil
    · rw [hpending]
      exact fun _ _ _ _ => AList.notMem_empty _
    · rw [hpending]
      exact fun _ _ hmem => absurd hmem (AList.notMem_empty _)
  have hkept := handleInputs_kept hlive inputs hstart
  rwa [add_zero] at hkept

end Runs

/-! ### A fill before its acknowledgment, and a fill of nothing -/

def buyTrade (tradeId : String) (qty : ℚ) : TradeEvent :=
  ⟨tradeId, 5, "IMOEXF", "buy", qty, 100, 0, false, 1700038800⟩

def buyOrder : OrderEvent :=
  ⟨5, none, "IMOEXF", "filled", "buy", "limit", 2, 2, 100, false, none, 1700038801⟩

def tradeEnv : Env Unit Unit := calmEnv liveConfig silentStrategy 1700038800000

def requestingRuntime : StrategyRuntime Unit Unit :=
  { readyRuntime () 1700038800 with ourRequestIds := {.other 1} }

def fillAckOrder : List (BrokerInput Unit) :=
  [.event "trades" "1-0" (.trade (buyTrade "T1" 2)),
    .event "acks" "2-0" (.ack (.confirmed (.other 1) (some 5) 1700038800)),
    .event "orders" "3-0" (.order buyOrder)]

theorem fillAckOrder_tradesKept : TradesKept tradeEnv.text
    (acceptedTrades tradeEnv fillAckOrder requestingRuntime)
    ((handleInputs fillAckOrder).post tradeEnv requestingRuntime) :=
  handleInputs_tradesKept rfl fillAckOrder rfl rfl

/-- The ledger records an orphan of quantity zero, which is no accepted trade of positive
quantity. -/
theorem not_conserved_zeroQty :
    let inputs : List (BrokerInput Unit) := [.event "trades" "1-0" (.trade (buyTrade "T1" 0))]
    let rt := (handleInputs inputs).post tradeEnv (readyRuntime () 1700038800)
    (acceptedTrades tradeEnv inputs (readyRuntime () 1700038800)).filter (0 < ·.qty) = 0 ∧
    rt.pendingTradesByOrderId = ∅ ∧
    rt.ledger.trades = [tradeRecord tradeEnv.text (buyTrade "T1" 0) false] := by
  have hledger : ((handleInputs [.event "trades" "1-0" (.trade (buyTrade "T1" 0))]).post tradeEnv
      (readyRuntime () 1700038800)).ledger =
        TradeLedger.default.recordFill (tradeRecord tradeEnv.text (buyTrade "T1" 0) false) := rfl
  refine ⟨?_, rfl, ?_⟩
  · show Multiset.filter (fun trade : TradeEvent => 0 < trade.qty) ({buyTrade "T1" 0} + 0) = 0
    rw [add_zero, Multiset.filter_singleton]
    exact if_neg (lt_irrefl 0)
  · rw [hledger, TradeLedger.recordFill_trades]
    rfl

end StrategyRuntime

end AlorRs
