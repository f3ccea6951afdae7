import AlorRs.Gateway.Equiv.Idempotency
import AlorRs.StrategyRuntime.Equiv.RequestId
import AlorRs.StrategyRuntime.Equiv.Runtime.Emission

/-!
# Request identifiers over a run

A command's identifier depends on the time of its batch, on the symbol it is routed to and on
the kind of its base intent, and on nothing else (`requestId_eq_iff`).  So the commands of a run
that ask the broker for different things have different identifiers, and the gateway executes
all of them, exactly where no two intents of one time, symbol and kind ask for different things
(`requestsDistinct_iff`).
-/

namespace AlorRs

open StrategyRuntime

/-! ### What a command asks for -/

def CommandAction.withoutComment : CommandAction → CommandAction
  | .place order => .place { order with comment := none }
  | .market order => .market { order with comment := none }
  | .createStopLimit order => .createStopLimit { order with comment := none }
  | action => action

/-- What a command asks the broker to do. -/
structure BrokerRequest where
  portfolio : String
  exchange : String
  symbol : String
  action : CommandAction
deriving DecidableEq, Repr

def OrderCommand.brokerRequest (command : OrderCommand) : BrokerRequest where
  portfolio := command.portfolio
  exchange := command.exchange
  symbol := command.symbol
  action := command.action.withoutComment

namespace Intent

def routedSymbol (symbol : String) : Intent → String
  | .classified intent _ => intent.routedSymbol symbol
  | .routed intent symbol => intent.routedSymbol symbol
  | _ => symbol

/-- The kinds of intents that the identifier tells apart: the action, and a market order's
side. -/
def idKind (intent : Intent) : String × ℕ :=
  match intent.baseIntent with
  | .place _ _ _ _ => ("place", 0)
  | .market _ side _ _ => ("market", marketRequestSeq side)
  | .cancel _ => ("cancel", 1)
  | .replace _ _ _ => ("replace", 2)
  | .createStopLimit _ _ _ _ _ _ _ _ _ => ("create_stop_limit", 5)
  | .deleteStopLimit _ _ _ => ("delete_stop_limit", 6)
  | .classified _ _ | .routed _ _ => ("", 0)

/-- What an intent asks the broker to do; `stopEnd` is the computed end of a stop order. -/
def brokerAction (stopEnd : Option ℤ) (intent : Intent) : CommandAction :=
  match intent.baseIntent with
  | .place price qty side _ => .place ⟨price, qty, side, none⟩
  | .market qty side _ _ => .market ⟨qty, side, none⟩
  | .cancel orderId => .cancel ⟨orderId⟩
  | .replace orderId newPrice newQty => .replace ⟨orderId, newPrice, newQty⟩
  | .createStopLimit side qty triggerPrice price condition stopEndUnixTime _ group check =>
    .createStopLimit ⟨side, qty, triggerPrice, price, condition, stopEnd.getD stopEndUnixTime,
      none, group, check⟩
  | .deleteStopLimit orderId side check => .deleteStopLimit ⟨orderId, side, check⟩
  | .classified _ _ | .routed _ _ => .cancel ⟨0⟩

end Intent

/-- The parts of a command that the wrappers and the tags of an intent do not change. -/
theorem commandOf_spec (tag : StrategyCtx → Option String) (stopEnd : Option ℤ) (createdTsUtc : ℤ)
    (intentClass : IntentClass) (ctx : StrategyCtx) (intent : Intent) :
    let command := commandOf tag stopEnd createdTsUtc intentClass ctx intent
    command.requestId = deterministicRequestId ctx.strategyId ctx.portfolio
      (intent.routedSymbol ctx.symbol) intent.idKind.1 createdTsUtc intent.idKind.2 ∧
    command.brokerRequest = ⟨ctx.portfolio, ctx.exchange, intent.routedSymbol ctx.symbol,
      intent.brokerAction stopEnd⟩ := by
  induction intent generalizing ctx with
  | classified intent cls ih => exact ih ctx
  | routed intent symbol ih => exact ih { ctx with symbol := symbol }
  | place | market | cancel | replace | createStopLimit | deleteStopLimit => exact ⟨rfl, rfl⟩

theorem not_mem_idKind (intent : Intent) : '|' ∉ intent.idKind.1.toList := by
  unfold Intent.idKind
  split <;> dsimp only <;> decide

/-! ### Runs -/

/-- The context of a configuration, up to what changes over a run. -/
structure CtxOf (config : RuntimeConfig) (ctx : StrategyCtx) : Prop where
  strategyId : ctx.strategyId = config.strategy.strategyId
  portfolio : ctx.portfolio = config.portfolio
  exchange : ctx.exchange = config.exchange
  symbol : ctx.symbol = config.strategy.symbol

/-- The intents that one callback returned, each with the strategy's state when its command is
made. -/
structure Batch (config : RuntimeConfig) (σ : Type) where
  createdTsUtc : ℤ
  ctx : StrategyCtx
  ctxOf : CtxOf config ctx
  intents : List (σ × Intent)

section Runs

variable {σ P : Type} (env : Env σ P)

def Batch.commands (batch : Batch env.config σ) : List OrderCommand :=
  batch.intents.map fun (s, intent) =>
    intentToCommand env s batch.ctx batch.createdTsUtc intent (resolveIntentClass batch.ctx intent)

variable (batches : List (Batch env.config σ))

def runCommands : List OrderCommand :=
  batches.flatMap (Batch.commands env)

/-- Commands that differ in what they ask for have different identifiers, and whenever they are
delivered to a gateway that starts empty, a command answered `Duplicate` comes after one that
asks for the same. -/
def RequestsDistinct (commands : List OrderCommand) : Prop :=
  (∀ c ∈ commands, ∀ d ∈ commands, c.brokerRequest ≠ d.brokerRequest → c.requestId ≠ d.requestId) ∧
  ∀ (ttl : ℤ) (max : ℕ) (deliveries : List CommandDelivery),
    (∀ delivery ∈ deliveries, delivery.command ∈ commands) →
    ∀ (i : ℕ) (delivery : CommandDelivery), deliveries[i]? = some delivery →
      (consumeCommands (.new ttl max) deliveries).2[i]? = some true →
      ∃ (j : ℕ) (earlier : CommandDelivery), j < i ∧ deliveries[j]? = some earlier ∧
        earlier.command.brokerRequest = delivery.command.brokerRequest

/-- No two intents of one time, one symbol and one kind ask for different things. -/
def SlotsDistinct : Prop :=
  ∀ b ∈ batches, ∀ b' ∈ batches, b.createdTsUtc = b'.createdTsUtc →
    ∀ i ∈ b.intents, ∀ i' ∈ b'.intents,
      i.2.routedSymbol env.config.strategy.symbol = i'.2.routedSymbol env.config.strategy.symbol →
      i.2.idKind = i'.2.idKind →
      i.2.brokerAction (computeIntradayStopEndUtc env.config b.createdTsUtc) =
        i'.2.brokerAction (computeIntradayStopEndUtc env.config b.createdTsUtc)

variable {env}

theorem mem_runCommands {batches : List (Batch env.config σ)} {command : OrderCommand} :
    command ∈ runCommands env batches ↔ ∃ b ∈ batches, ∃ i ∈ b.intents,
      command = intentToCommand env i.1 b.ctx b.createdTsUtc i.2 (resolveIntentClass b.ctx i.2) := by
  simp only [runCommands, List.mem_flatMap, Batch.commands, List.mem_map]
  constructor
  all_goals
    rintro ⟨b, hb, i, hi, rfl⟩
    exact ⟨b, hb, i, hi, rfl⟩

theorem intentToCommand_spec {ctx : StrategyCtx} (h : CtxOf env.config ctx) (s : σ)
    (createdTsUtc : ℤ) (intent : Intent) (intentClass : IntentClass) :
    (intentToCommand env s ctx createdTsUtc intent intentClass).requestId =
      deterministicRequestId env.config.strategy.strategyId env.config.portfolio
        (intent.routedSymbol env.config.strategy.symbol) intent.idKind.1 createdTsUtc
        intent.idKind.2 ∧
    (intentToCommand env s ctx createdTsUtc intent intentClass).brokerRequest =
      ⟨env.config.portfolio, env.config.exchange,
        intent.routedSymbol env.config.strategy.symbol,
        intent.brokerAction (computeIntradayStopEndUtc env.config createdTsUtc)⟩ := by
  have hspec := commandOf_spec (fun ctx => env.strategy.intentCommentTag s ctx createdTsUtc
    intentClass) (computeIntradayStopEndUtc env.config createdTsUtc) createdTsUtc intentClass ctx
    intent
  rw [h.strategyId, h.portfolio, h.exchange, h.symbol] at hspec
  exact hspec

/-- Two commands of a run have one identifier where time, symbol and kind agree. -/
theorem requestId_eq_iff {ctx ctx' : StrategyCtx} (h : CtxOf env.config ctx)
    (h' : CtxOf env.config ctx') (s s' : σ) (ts ts' : ℤ) (intent intent' : Intent)
    (cls cls' : IntentClass) :
    (intentToCommand env s ctx ts intent cls).requestId =
      (intentToCommand env s' ctx' ts' intent' cls').requestId ↔
    ts = ts' ∧ intent.routedSymbol env.config.strategy.symbol =
      intent'.routedSymbol env.config.strategy.symbol ∧ intent.idKind = intent'.idKind := by
  rw [(intentToCommand_spec h s ts intent cls).1, (intentToCommand_spec h' s' ts' intent' cls').1]
  constructor
  · intro heq
    obtain ⟨hsym, hact, hts, hseq⟩ :=
      deterministicRequestId_inj (not_mem_idKind intent) (not_mem_idKind intent') heq
    exact ⟨hts, hsym, Prod.ext hact hseq⟩
  · rintro ⟨rfl, hsym, hkind⟩
    rw [hsym, hkind]

/-- The commands of a run are kept apart by their identifiers, and by the gateway, exactly
where the intents of one time, symbol and kind ask for one thing. -/
theorem requestsDistinct_iff (batches : List (Batch env.config σ)) :
    RequestsDistinct (runCommands env batches) ↔ SlotsDistinct env batches := by
  constructor
  · rintro ⟨hids, -⟩ b hb b' hb' hts i hi i' hi' hsym hkind
    by_contra hne
    refine hids _ (mem_runCommands.mpr ⟨b, hb, i, hi, rfl⟩) _
      (mem_runCommands.mpr ⟨b', hb', i', hi', rfl⟩) ?_
      ((requestId_eq_iff b.ctxOf b'.ctxOf ..).mpr ⟨hts, hsym, hkind⟩)
    rw [(intentToCommand_spec b.ctxOf ..).2, (intentToCommand_spec b'.ctxOf ..).2, ← hts]
    exact fun heq => hne (BrokerRequest.mk.inj heq).2.2.2
  · intro hslots
    have hids : ∀ c ∈ runCommands env batches, ∀ d ∈ runCommands env batches,
        c.requestId = d.requestId → c.brokerRequest = d.brokerRequest := by
      intro c hc d hd heq
      obtain ⟨b, hb, i, hi, rfl⟩ := mem_runCommands.mp hc
      obtain ⟨b', hb', i', hi', rfl⟩ := mem_runCommands.mp hd
      obtain ⟨hts, hsym, hkind⟩ := (requestId_eq_iff b.ctxOf b'.ctxOf ..).mp heq
      rw [(intentToCommand_spec b.ctxOf ..).2, (intentToCommand_spec b'.ctxOf ..).2, hsym,
        hslots b hb b' hb' hts i hi i' hi' hsym hkind, hts]
    refine ⟨fun c hc d hd hne heq => hne (hids c hc d hd heq), ?_⟩
    intro ttl max deliveries hmem i delivery hi hdup
    rcases consumeCommands_duplicate hi hdup with hold | ⟨j, earlier, hj, hget, hid⟩
    · exact absurd hold (AList.notMem_empty _)
    · exact ⟨j, earlier, hj, hget, hids _ (hmem _ (List.mem_of_getElem? hget)) _
        (hmem _ (List.mem_of_getElem? hi)) hid⟩

end Runs

/-! ### Two cancels in one batch -/

/-- The cancels of a take-profit and of a triggered stop, in one batch. -/
def protectionBatch : Batch liveConfig Unit where
  createdTsUtc := 1700000000
  ctx := ⟨"hybrid_intraday", "D1", "MOEX", "IMOEXF", 1 / 2, .live, .liveOnly, true, .liveReady,
    some 1, 1700000000, 1700000000, none⟩
  ctxOf := ⟨rfl, rfl, rfl, rfl⟩
  intents :=
    [((), (Intent.cancel 101).withClass .cancelCleanup),
      ((), (Intent.cancel 102).withClass .cancelCleanup)]

/-- The two cancels carry one identifier: the gateway executes only the first. -/
theorem not_requestsDistinct_protectionBatch :
    ¬ RequestsDistinct (runCommands (calmEnv liveConfig silentStrategy 0 : Env Unit Unit) [protectionBatch]) := by
  rw [requestsDistinct_iff]
  intro h
  have heq := h protectionBatch (List.mem_singleton_self _) protectionBatch
    (List.mem_singleton_self _) rfl
    ((), (Intent.cancel 101).withClass .cancelCleanup) (List.mem_cons_self ..)
    ((), (Intent.cancel 102).withClass .cancelCleanup)
    (List.mem_cons_of_mem _ (List.mem_singleton_self _)) rfl rfl
  exact absurd heq (by decide)

end AlorRs
