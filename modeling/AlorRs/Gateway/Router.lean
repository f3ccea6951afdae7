import AlorRs.Gateway.Json
import AlorRs.Protocol
import Mathlib.Data.List.AList
import Mathlib.Data.Rat.Defs

/-!
# The router of the websocket messages

A message is tried as bars, a trade, a position, a stop order and an order, in this order, and
goes to the channel of the first that it parses as.
-/

namespace AlorRs.Gateway

/-! ### The gateway's events -/

inductive DataOrigin where
  | history | historyGap | live
deriving DecidableEq, Repr

structure BarEvent where
  symbol : String
  closeTimeUtc : ℤ
  o : ℚ
  h : ℚ
  l : ℚ
  c : ℚ
  v : ℚ
  origin : DataOrigin
deriving DecidableEq, Repr

structure PositionEvent where
  symbol : String
  qty : ℚ
  avgPrice : ℚ
  tsUtc : ℤ
deriving DecidableEq, Repr

structure TradeEvent where
  tradeId : String
  orderId : ℤ
  symbol : String
  side : String
  qty : ℚ
  price : ℚ
  commission : ℚ
  existing : Bool
  tsUtc : ℤ
deriving DecidableEq, Repr

structure OrderEvent where
  orderId : ℤ
  requestId : Option Uuid
  symbol : String
  status : String
  side : String
  orderType : String
  qty : ℚ
  filled : ℚ
  price : ℚ
  existing : Bool
  comment : Option String
  tsUtc : ℤ
deriving DecidableEq, Repr

structure StopOrderEvent where
  stopOrderId : String
  exchangeOrderId : Option ℤ
  symbol : String
  status : String
  side : String
  qty : ℚ
  filled : ℚ
  stopPrice : ℚ
  price : ℚ
  existing : Bool
  comment : Option String
  endTime : Option ℤ
  tsUtc : ℤ
deriving DecidableEq, Repr

/-! ### Parsers -/

/-- What the parsers take from elsewhere: lower-casing, the text of a float, and the two formats
of a time that are tried after integers (`DateTime::parse_from_rfc3339`,
`NaiveDateTime::parse_from_str`). -/
structure RouterText where
  toLowercase : String → String
  showFloat : ℚ → String
  parseFromRfc3339 : String → Option ℤ
  parseNaiveDateTime : String → Option ℤ

/-! ### Fields -/

variable (text : RouterText) (now : ℤ) (data : Json) (liveCutoffTs : Option ℤ) (state : RouterState)
  (value : Json)

def toI64 : Option ℤ :=
  value.asI64.or <| value.asU64AsI64.or <| value.asStr.bind fun s =>
    (parseI64 s).or <| (text.parseFromRfc3339 s).or <| text.parseNaiveDateTime s

def toIdText : Json → Option String
  | .string s => some s
  | .number (.posInt n) => some (toString n.val)
  | .number (.negInt n) => some (toString n)
  | .number (.float x) => some (text.showFloat x)
  | _ => none

def symbolOf : Option String := (data.getFirst ["symbol", "code"]).bind Json.asStr

/-- A number among some fields, `0` by default. -/
def numberOf (names : List String) : ℚ :=
  ((data.getFirst names).bind Json.asF64).getD 0

def textOf (name : String) : String := ((data.get name).bind Json.asStr).getD "unknown"

def existingOf : Bool := ((data.get "existing").bind Json.asBool).getD false

def qtyFields : List String := ["qty", "qtyUnits", "qtyBatch"]

def filledFields : List String := ["filled", "filledQty", "filledQtyUnits", "filledQtyBatch"]

def updateTimeFields : List String := ["updateTime", "transTime", "timestamp"]

/-! ### Parsers -/

def parseBarItem (historyOrigin : DataOrigin) (data : Json) : Option BarEvent := do
  let symbol ← symbolOf data
  let closeTimeUtc ← (data.getFirst ["time", "timestamp"]).bind (toI64 text)
  let origin :=
    match liveCutoffTs with
    | some cutoff => if closeTimeUtc ≤ cutoff then historyOrigin else .live
    | none => .live
  return {
    symbol := symbol
    closeTimeUtc := closeTimeUtc
    o := numberOf data ["open"]
    h := numberOf data ["high"]
    l := numberOf data ["low"]
    c := numberOf data ["close"]
    v := numberOf data ["volume"]
    origin := origin }

def parseBars (historyOrigin : DataOrigin) (value : Json) : List BarEvent :=
  match value.get "data" with
  | none => []
  | some data =>
    match data.asArray with
    | some items => items.filterMap (parseBarItem text liveCutoffTs historyOrigin)
    | none => (parseBarItem text liveCutoffTs historyOrigin data).toList

def parsePosition : Option PositionEvent := do
  let data ← value.get "data"
  if ["status", "orderId", "id", "price", "side", "type"].any fun name => (data.get name).isSome then
    none
  else
    let avgPrice ← (data.getFirst ["avgPrice", "avg_price"]).bind Json.asF64
    let symbol ← symbolOf data
    return {
      symbol := symbol
      qty := numberOf data ["qty"]
      avgPrice := avgPrice
      tsUtc := ((data.get "timestamp").bind (toI64 text)).getD now }

def parseOrder : Option OrderEvent := do
  let data ← value.get "data"
  if (data.get "stopPrice").isSome || (data.get "triggerPrice").isSome then none
  else
    let orderId ← (data.getFirst ["orderId", "id"]).bind (toI64 text)
    let symbol ← symbolOf data
    return {
      orderId := orderId
      requestId := none
      symbol := symbol
      status := text.toLowercase (textOf data "status")
      side := textOf data "side"
      orderType := textOf data "type"
      qty := numberOf data qtyFields
      filled := numberOf data filledFields
      price := numberOf data ["price"]
      existing := existingOf data
      comment := (data.getFirst ["comment", "user"]).bind Json.asStr
      tsUtc := ((data.getFirst updateTimeFields).bind (toI64 text)).getD now }

def parseStopOrder : Option StopOrderEvent := do
  let data ← value.get "data"
  if (data.get "stopPrice").isNone && (data.get "triggerPrice").isNone &&
      (data.get "stopEndUnixTime").isNone then none
  else
    let stopOrderId ← (data.getFirst ["id", "orderId"]).bind (toIdText text)
    let symbol ← symbolOf data
    return {
      stopOrderId := stopOrderId
      exchangeOrderId := (data.getFirst ["exchangeOrderId", "orderNo"]).bind (toI64 text)
      symbol := symbol
      status := text.toLowercase (textOf data "status")
      side := textOf data "side"
      qty := numberOf data qtyFields
      filled := numberOf data filledFields
      stopPrice := numberOf data ["stopPrice", "triggerPrice"]
      price := numberOf data ["price"]
      existing := existingOf data
      comment := (data.get "comment").bind Json.asStr
      endTime := (data.getFirst ["endTime", "stopEndUnixTime"]).bind (toI64 text)
      tsUtc := ((data.getFirst updateTimeFields).bind (toI64 text)).getD now }

def parseTrade : Option TradeEvent := do
  let data ← value.get "data"
  let orderId ← (data.getFirst ["orderno", "orderNo"]).bind (toI64 text)
  let tradeId ← (data.getFirst ["id", "tradeId"]).bind (toIdText text)
  let symbol ← symbolOf data
  return {
    tradeId := tradeId
    orderId := orderId
    symbol := symbol
    side := text.toLowercase (textOf data "side")
    qty := numberOf data qtyFields
    price := numberOf data ["price"]
    commission := numberOf data ["commission"]
    existing := existingOf data
    tsUtc := ((data.getFirst ["date", "timestamp"]).bind (toI64 text)).getD now }

/-! ### The loop -/

/-- What the router sends, each on its own channel. -/
inductive RouterOutput where
  | bar (bar : BarEvent)
  | position (position : PositionEvent)
  | order (order : OrderEvent)
  | stopOrder (stopOrder : StopOrderEvent)
  | trade (trade : TradeEvent)
  | authError (code : ℤ)
deriving DecidableEq, Repr

structure RouterState where
  liveBuffers : AList fun _ : String => BarEvent
  liveCutoffTs : Option ℤ
  historyOrigin : DataOrigin

def RouterState.initial : RouterState := ⟨∅, none, .history⟩

/-- A bar: one of the history is sent, a live one is kept until a later one of its symbol comes. -/
def routeBar (bar : BarEvent) : RouterState × List RouterOutput :=
  match bar.origin with
  | .history | .historyGap => (state, [.bar bar])
  | .live =>
    let buffered := { state with liveBuffers := state.liveBuffers.insert bar.symbol bar }
    match state.liveBuffers.lookup bar.symbol with
    | none => (buffered, [])
    | some prev =>
      if bar.closeTimeUtc = prev.closeTimeUtc then (buffered, [])
      else if prev.closeTimeUtc < bar.closeTimeUtc then (buffered, [.bar prev])
      else (state, [])

def routeBars (state : RouterState) : List BarEvent → RouterState × List RouterOutput
  | [] => (state, [])
  | bar :: bars =>
    let (state, outputs) := routeBar state bar
    let (state, outputs') := routeBars state bars
    (state, outputs ++ outputs')

/-- What a message that is no bar parses as first. -/
def classify : Option RouterOutput :=
  ((parseTrade text now value).map .trade).or <|
    ((parsePosition text now value).map .position).or <|
      ((parseStopOrder text now value).map .stopOrder).or <|
        (parseOrder text now value).map .order

/-- The branch of `Router::start` for a raw message. -/
def route : RouterState × List RouterOutput :=
  match (value.get "httpCode").bind Json.asI64 with
  | some code => (state, if code = 401 ∨ code = 403 then [.authError code] else [])
  | none =>
    let bars := parseBars text state.liveCutoffTs state.historyOrigin value
    if !bars.isEmpty then routeBars state bars
    else (state, (classify text now value).toList)

/-- The branch of `Router::start` for `UpdateSubscribeWallclock`. -/
def updateSubscribeWallclock (tfSec wallclockTs : ℤ) (historyOrigin : DataOrigin)
    (state : RouterState) : RouterState :=
  { state with liveCutoffTs := some (wallclockTs - 2 * tfSec), historyOrigin := historyOrigin }

end AlorRs.Gateway
