import AlorRs.Gateway.WsHub

/-!
# The handshake of the subscriptions

`subscribe_all` sends each subscription under a new guid and reads the websocket until a message with
the guid comes.  Other messages are passed on, if their guid is active or if they have none.
-/

namespace AlorRs.Gateway

def guidOf (value : Json) : Option String :=
  ((value.get "guid").bind Json.asStr).or ((value.get "requestGuid").bind Json.asStr)

/-- `Value::get_mut` of a field, with what is done to it. -/
def modifyField (value : Json) (name : String) (modify : Json → Json) : Json :=
  match value with
  | .object fields =>
    .object (fields.map fun entry => if entry.1 = name then (entry.1, modify entry.2) else entry)
  | _ => value

def putSymbol (symbol : String) (data : Json) : Json :=
  if (data.get "symbol").isNone && (data.get "code").isNone then
    data.insertField "symbol" (.string symbol)
  else data

def attachSymbol (barsGuidMap : AList fun _ : String => String) (value : Json) : Json :=
  match (guidOf value).bind barsGuidMap.lookup with
  | none => value
  | some symbol =>
    modifyField value "data" fun
      | .array items => .array (items.map (putSymbol symbol))
      | data => putSymbol symbol data

/-- The hub during `subscribe_all`, with the symbols of the guids that bars were subscribed under. -/
structure Handshake where
  hub : Hub
  barsGuidMap : AList fun _ : String => String

/-- A subscription is sent under a new guid, a text is read at a time, which parses or not, or
`read_until_guid` fails: after its timeout, or with the websocket. -/
inductive HandshakeStep where
  | send (guid : String)
  | text (nowTs : ℤ) (value : Option Json)
  | ackFailed

namespace Handshake

def start (config : HubConfig) (generation : ℕ) : Handshake :=
  ⟨⟨generation, Hub.subscribingTo (subscriptions config), .new⟩, ∅⟩

/-- The guid that `read_until_guid` waits for. -/
def awaited (handshake : Handshake) : Option String :=
  match handshake.hub.stage with
  | .subscribing _ _ guid _ => guid
  | _ => none

def isActiveGuid (handshake : Handshake) (guid : String) : Bool :=
  (handshake.hub.manager.activeSubscriptions.lookup guid).isSome

/-- What a text does to the hub; one that is ignored is only counted. -/
def read (handshake : Handshake) (nowTs : ℤ) : Option Json → List HubStep
  | none => [.rx nowTs]
  | some value =>
    if (guidOf value).isSome && guidOf value == handshake.awaited then [.rx nowTs, .acked]
    else
      let value := attachSymbol handshake.barsGuidMap value
      match guidOf value with
      | some guid =>
        if handshake.isActiveGuid guid then [.rx nowTs, .raw value] else [.rx nowTs]
      | none => [.rx nowTs, .raw value]

def runHub (config : HubConfig) : Hub → List HubStep → Option (Hub × List WsEvent)
  | hub, [] => some (hub, [])
  | hub, step :: steps => do
    let (hub, events, _) ← hub.step config .cold [] step
    let (hub, events') ← runHub config hub steps
    return (hub, events ++ events')

def step (config : HubConfig) (handshake : Handshake) :
    HandshakeStep → Option (Handshake × List WsEvent)
  | .send guid => do
    let (hub, events) ← runHub config handshake.hub [.subscribe guid]
    let barsGuidMap :=
      match handshake.hub.stage with
      | .subscribing (symbol, "bars") _ _ _ => handshake.barsGuidMap.insert guid symbol
      | _ => handshake.barsGuidMap
    return (⟨hub, barsGuidMap⟩, events)
  | .text nowTs value => do
    let (hub, events) ← runHub config handshake.hub (handshake.read nowTs value)
    return ({ handshake with hub := hub }, events)
  | .ackFailed => do
    let (hub, events) ← runHub config handshake.hub [.ackFailed]
    return ({ handshake with hub := hub }, events)

end Handshake

end AlorRs.Gateway
