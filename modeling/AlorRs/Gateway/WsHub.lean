import AlorRs.Gateway.Router

/-!
# The hub of the market-data websocket

The hub connects, subscribes to the bars of each symbol and to the portfolio's positions, orders,
stop orders and trades, one after the other, and tells the supervisor what happens.  Every
connection has a generation of its own.
-/

namespace AlorRs.Gateway

inductive ResyncMode where
  | cold | warm
deriving DecidableEq, Repr

structure BackfillPlan where
  mode : ResyncMode
  fromTs : Option ℤ
  gapSec : ℕ
deriving DecidableEq, Repr

def BackfillPlan.cold : BackfillPlan := ⟨.cold, none, 0⟩

/-! ### Subscriptions -/

structure Subscription where
  guid : String
  symbol : String
  subscriptionType : String
  isActive : Bool
deriving DecidableEq, Repr

structure PendingAcks where
  bars : ℕ
  positions : ℕ
  orders : ℕ
deriving DecidableEq, Repr

structure SubscriptionManager where
  desiredSubscriptions : AList fun _ : String => Subscription
  activeSubscriptions : AList fun _ : String => Subscription

namespace SubscriptionManager

def new : SubscriptionManager := ⟨∅, ∅⟩

variable (manager : SubscriptionManager)

/-- `add_subscription`: it takes the place of one for the same that waits for its ack. -/
def addSubscription (subscription : Subscription) : SubscriptionManager :=
  let duplicate := manager.desiredSubscriptions.entries.find? fun entry =>
    entry.2.subscriptionType = subscription.subscriptionType && entry.2.symbol = subscription.symbol
  let desired :=
    match duplicate with
    | some entry => manager.desiredSubscriptions.erase entry.1
    | none => manager.desiredSubscriptions
  { manager with desiredSubscriptions := desired.insert subscription.guid subscription }

def activateSubscription (guid : String) : Option Subscription × SubscriptionManager :=
  match manager.desiredSubscriptions.lookup guid with
  | some subscription =>
    let active := { subscription with isActive := true }
    (some active,
      { desiredSubscriptions := manager.desiredSubscriptions.erase guid
        activeSubscriptions := manager.activeSubscriptions.insert guid active })
  | none => (none, manager)

def activeCount : ℕ := manager.activeSubscriptions.entries.length

def desiredCount : ℕ :=
  manager.desiredSubscriptions.entries.length + manager.activeCount

def pendingCounts : PendingAcks :=
  let count (types : List String) : ℕ :=
    manager.desiredSubscriptions.entries.countP fun entry => entry.2.subscriptionType ∈ types
  ⟨count ["bars"], count ["positions"], count ["orders", "stop_orders"]⟩

end SubscriptionManager

/-! ### Events -/

inductive ConnEvent where
  | connected | disconnected | reconnecting
deriving DecidableEq, Repr

/-- What the hub tells the supervisor, each with the generation of its connection. -/
inductive WsEvent where
  | raw (value : Json) (generation : ℕ)
  | conn (event : ConnEvent) (generation : ℕ)
  | subscribed (wallclockTs : ℤ) (historyOrigin : DataOrigin) (generation : ℕ)
  | subscriptionAck (subscriptionType : String) (generation : ℕ)
  | subscriptionStats (desired active : ℕ) (pendingAcks : PendingAcks) (generation : ℕ)
  | wsRx (ts : ℤ) (generation : ℕ)

def WsEvent.generation : WsEvent → ℕ
  | .raw _ generation | .conn _ generation | .subscribed _ _ generation
  | .subscriptionAck _ generation | .subscriptionStats _ _ _ generation
  | .wsRx _ generation => generation

inductive HubCommand where
  | resubscribe | reconnect | shutdown
deriving DecidableEq, Repr

/-! ### The hub -/

structure HubConfig where
  symbols : List String
  portfolio : String
  skipHistoryBars : Bool
  subscribeAckRetries : ℕ

def subscriptions (config : HubConfig) : List (String × String) :=
  config.symbols.map (·, "bars") ++ [(config.portfolio, "positions"), (config.portfolio, "orders"),
      (config.portfolio, "stop_orders"), (config.portfolio, "trades")]

/-- Where the hub is: before a connection, connecting, at a subscription of `subscribe_all` that
was sent under a guid or is about to be, in its main loop, or ended. -/
inductive HubStage where
  | waiting
  | connecting
  | subscribing (item : String × String) (rest : List (String × String)) (guid : Option String)
    (attempt : ℕ)
  | running
  | ended

structure Hub where
  generation : ℕ
  stage : HubStage
  manager : SubscriptionManager

/-- What the hub does next: it begins an attempt to connect, connects, sends a subscription under
a new guid, reads its ack or not, receives a message, takes a command, fails or is closed. -/
inductive HubStep where
  | reconnect
  | connect (nowTs : ℤ)
  | subscribe (guid : String)
  | acked
  | ackFailed
  | raw (value : Json)
  | rx (nowTs : ℤ)
  | command (nowTs : ℤ)
  | fail
  | close

namespace Hub

def start : Hub := ⟨0, .waiting, .new⟩

def subscribingTo : List (String × String) → HubStage
  | [] => .running
  | item :: rest => .subscribing item rest none 0

variable (config : HubConfig) (plan : BackfillPlan)

def historyOrigin : DataOrigin :=
  if plan.fromTs.isNone && config.skipHistoryBars then .live
  else
    match plan.mode with
    | .warm => .historyGap
    | .cold => .history

def stats (hub : Hub) : WsEvent :=
  .subscriptionStats hub.manager.desiredCount hub.manager.activeCount hub.manager.pendingCounts
    hub.generation

/-- The start of `subscribe_all`: the subscriptions so far are forgotten. -/
def beginSubscribing (nowTs : ℤ) (hub : Hub) : Hub × List WsEvent :=
  let hub' : Hub :=
    { hub with stage := subscribingTo (subscriptions config), manager := .new }
  (hub', [.subscribed nowTs (historyOrigin config plan) hub.generation, hub'.stats])

/-- The connection ends with an error. -/
def disconnect (hub : Hub) : Hub × List WsEvent :=
  ({ hub with stage := .waiting }, [.conn .disconnected hub.generation])

/-- One step of the hub with the events it sends, if it can be taken. -/
def step (commands : List HubCommand) (hub : Hub) :
    HubStep → Option (Hub × List WsEvent × List HubCommand)
  | .reconnect =>
    match hub.stage with
    | .waiting =>
      some ({ hub with generation := hub.generation + 1, stage := .connecting },
        [.conn .reconnecting (hub.generation + 1)], commands)
    | _ => none
  | .connect nowTs =>
    match hub.stage with
    | .connecting =>
      let (hub', events) := beginSubscribing config plan nowTs hub
      some (hub', .conn .connected hub.generation :: events, commands)
    | _ => none
  | .subscribe guid =>
    match hub.stage with
    | .subscribing item rest none attempt =>
      let hub' : Hub :=
        { hub with
          stage := .subscribing item rest (some guid) attempt
          manager := hub.manager.addSubscription ⟨guid, item.1, item.2, false⟩ }
      some (hub', [hub'.stats], commands)
    | _ => none
  | .acked =>
    match hub.stage with
    | .subscribing _ rest (some guid) _ =>
      let hub' : Hub := { hub with stage := subscribingTo rest }
      match hub.manager.activateSubscription guid with
      | (some subscription, manager) =>
        let hub' : Hub := { hub' with manager := manager }
        some (hub', [.subscriptionAck subscription.subscriptionType hub.generation, hub'.stats],
          commands)
      | (none, _) => some (hub', [], commands)
    | _ => none
  | .ackFailed =>
    match hub.stage with
    | .subscribing item rest (some _) attempt =>
      if config.subscribeAckRetries ≤ attempt + 1 then
        let (hub', events) := hub.disconnect
        some (hub', events, commands)
      else some ({ hub with stage := .subscribing item rest none (attempt + 1) }, [], commands)
    | _ => none
  | .raw value =>
    match hub.stage with
    | .subscribing _ _ (some _) _ | .running => some (hub, [.raw value hub.generation], commands)
    | _ => none
  | .rx nowTs =>
    match hub.stage with
    | .subscribing _ _ (some _) _ | .running => some (hub, [.wsRx nowTs hub.generation], commands)
    | _ => none
  | .command nowTs =>
    match hub.stage, commands with
    | .running, .resubscribe :: commands =>
      let (hub', events) := beginSubscribing config plan nowTs hub
      some (hub', events, commands)
    | .running, .reconnect :: commands =>
      let (hub', events) := hub.disconnect
      some (hub', events, commands)
    | .running, .shutdown :: commands => some ({ hub with stage := .ended }, [], commands)
    | _, _ => none
  | .fail =>
    match hub.stage with
    | .connecting | .subscribing _ _ (some _) _ | .running =>
      let (hub', events) := hub.disconnect
      some (hub', events, commands)
    | _ => none
  | .close =>
    match hub.stage with
    | .running => some ({ hub with stage := .ended }, [], commands)
    | _ => none

end Hub

end AlorRs.Gateway
