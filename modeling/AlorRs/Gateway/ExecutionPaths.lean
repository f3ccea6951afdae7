import AlorRs.Gateway.CommandConsumer
import AlorRs.Gateway.CwsClient

/-!
# The two execution paths

A command is sent on the long-lived connection or on a connection of its own.  Each path has its
own payloads, its own guids and its own reader of the frames that come back.
-/

namespace AlorRs

def Json.ofI64 (n : ℤ) : Json :=
  .number (if 0 ≤ n then .posInt (Fin.ofNat (2 ^ 64) n.toNat) else .negInt n)

def Json.ofF64 (x : ℚ) : Json := .number (.float x)

namespace StopLimitCondition

def asCanonicalStr : StopLimitCondition → String
  | .more => "more"
  | .less => "less"
  | .moreOrEqual => "moreorequal"
  | .lessOrEqual => "lessorequal"

end StopLimitCondition

namespace Gateway

def sideStr : Side → String
  | .buy => "buy"
  | .sell => "sell"

def roundToI64 (qty : ℚ) : ℤ := max (-2 ^ 63) (min (2 ^ 63 - 1) (roundHalfAway qty))

def cwsTimeInForce : String := "OneDay"

def cwsAllowMargin : Bool := true

def cwsMarketTimeInForce : String := "oneday"

def cwsMarketAllowMargin : Bool := true

def optionalText (name : String) (text : Option String) : List (String × Json) :=
  text.toList.map fun text => (name, .string text)

def userJson (portfolio : String) : Json := .object [("portfolio", .string portfolio)]

def instrumentJson (symbol exchange : String) (instrumentGroup : Option String) : Json :=
  .object <| [("symbol", .string symbol), ("exchange", .string exchange)] ++
    optionalText "instrumentGroup" instrumentGroup

def resolveStopLimitInstrumentGroup (requested : Option String) (defaultGroup : String) :
    Option String := requested.or (some defaultGroup)

/-! ### The long-lived connection -/

namespace CwsClient

variable (portfolio exchange symbol instrumentGroup : String)

/-- `build_create_limit_payload`, of `cws_client`; `newGuid` is a fresh guid. -/
def buildCreateLimitPayload (price : ℚ) (qty : ℤ) (side : String) (comment : Option String)
    (checkDuplicates : Bool) (requestId : Option String) (newGuid : String) : Json :=
  .object <|
    [("opcode", .string "create:limit"), ("guid", .string (requestId.getD newGuid)),
      ("side", .string side), ("quantity", .ofI64 qty), ("price", .ofF64 price),
      ("instrument", instrumentJson symbol exchange (some instrumentGroup)),
      ("user", userJson portfolio), ("timeInForce", .string cwsTimeInForce),
      ("allowMargin", .bool cwsAllowMargin), ("checkDuplicates", .bool checkDuplicates)] ++
    optionalText "comment" comment

def buildCreateMarketPayload (qty : ℤ) (side : String) (comment : Option String) (newGuid : String)
    : Json :=
  .object <|
    [("opcode", .string "create:market"), ("guid", .string newGuid), ("side", .string side),
      ("quantity", .ofI64 qty),
      ("instrument", instrumentJson symbol exchange (some instrumentGroup)),
      ("user", userJson portfolio), ("timeInForce", .string cwsMarketTimeInForce),
      ("allowMargin", .bool cwsMarketAllowMargin), ("checkDuplicates", .bool true)] ++
    optionalText "comment" comment

def buildCreateStopLimitPayload (side : String) (qty : ℤ) (triggerPrice price : ℚ)
    (condition : StopLimitCondition) (stopEndUnixTime : ℤ) (comment instrumentGroup : Option String)
    (checkDuplicates : Bool) (newGuid : String) : Json :=
  .object <|
    [("opcode", .string "create:stopLimit"), ("guid", .string newGuid), ("side", .string side),
      ("quantity", .ofI64 qty), ("triggerPrice", .ofF64 triggerPrice), ("price", .ofF64 price),
      ("condition", .string condition.asCanonicalStr), ("stopEndUnixTime", .ofI64 stopEndUnixTime),
      ("instrument", instrumentJson symbol exchange instrumentGroup),
      ("user", userJson portfolio), ("allowMargin", .bool cwsAllowMargin),
      ("checkDuplicates", .bool checkDuplicates)] ++
    optionalText "comment" comment

def cancelPayload (orderId : ℤ) (newGuid : String) : Json :=
  .object
    [("opcode", .string "delete:limit"), ("guid", .string newGuid), ("orderId", .ofI64 orderId),
      ("exchange", .string exchange), ("user", userJson portfolio), ("checkDuplicates", .bool true)]

def deleteStopLimitPayload (stopOrderId : String) (side : Option String) (checkDuplicates : Bool)
    (newGuid : String) : Json :=
  .object <|
    [("opcode", .string "delete:stopLimit"), ("guid", .string newGuid),
      ("orderId", .string stopOrderId), ("exchange", .string exchange),
      ("user", userJson portfolio), ("checkDuplicates", .bool checkDuplicates)] ++
    optionalText "side" side

/-- The payload of `CwsHandle::replace`, which `execute_command` calls with a symbol and without
a side. -/
def replacePayload (orderId : ℤ) (newPrice : ℚ) (newQty : ℤ) (newGuid : String) : Json :=
  .object
    [("opcode", .string "update:limit"), ("guid", .string newGuid), ("orderId", .ofI64 orderId),
      ("exchange", .string exchange), ("user", userJson portfolio), ("price", .ofF64 newPrice),
      ("quantity", .ofI64 newQty), ("allowMargin", .bool cwsAllowMargin),
      ("timeInForce", .string cwsTimeInForce), ("checkDuplicates", .bool true),
      ("instrument", instrumentJson symbol exchange none)]

end CwsClient

/-! ### A connection for one command -/

namespace ActionScope

variable (portfolio exchange symbol instrumentGroup : String)

def buildCreateLimitPayload (price : ℚ) (qty : ℤ) (side : String)
    (comment requestId : Option String) (newGuid : String) : Json :=
  .object <|
    [("opcode", .string "create:limit"), ("guid", .string newGuid), ("side", .string side),
      ("quantity", .ofI64 qty), ("price", .ofF64 price),
      ("instrument", instrumentJson symbol exchange (some instrumentGroup)),
      ("user", userJson portfolio), ("timeInForce", .string cwsTimeInForce),
      ("allowMargin", .bool cwsAllowMargin), ("checkDuplicates", .bool true)] ++
    optionalText "comment" comment ++ optionalText "requestId" requestId

def buildDeleteLimitPayload (orderId : ℤ) (requestId : Option String) (newGuid : String) : Json :=
  .object <|
    [("opcode", .string "delete:limit"), ("guid", .string newGuid), ("orderId", .ofI64 orderId),
      ("exchange", .string exchange), ("user", userJson portfolio),
      ("checkDuplicates", .bool true)] ++
    optionalText "requestId" requestId

def buildCreateMarketPayload (qty : ℤ) (side : String) (comment requestId : Option String)
    (newGuid : String) : Json :=
  .object <|
    [("opcode", .string "create:market"), ("guid", .string (requestId.getD newGuid)),
      ("side", .string side), ("quantity", .ofI64 qty),
      ("instrument", instrumentJson symbol exchange (some instrumentGroup)),
      ("user", userJson portfolio), ("timeInForce", .string cwsMarketTimeInForce),
      ("allowMargin", .bool cwsMarketAllowMargin), ("checkDuplicates", .bool true)] ++
    optionalText "comment" comment ++ optionalText "requestId" requestId

def buildDeleteStopLimitPayload (stopOrderId : String) (side : Option String)
    (checkDuplicates : Bool) (requestId : Option String) (newGuid : String) : Json :=
  .object <|
    [("opcode", .string "delete:stopLimit"), ("guid", .string newGuid),
      ("orderId", .string stopOrderId), ("exchange", .string exchange),
      ("user", userJson portfolio), ("checkDuplicates", .bool checkDuplicates)] ++
    optionalText "side" side ++ optionalText "requestId" requestId

def buildCreateStopLimitPayload (side : String) (qty : ℤ) (triggerPrice price : ℚ)
    (condition : StopLimitCondition) (stopEndUnixTime : ℤ) (comment instrumentGroup : Option String)
    (checkDuplicates : Bool) (requestId : Option String) (newGuid : String) : Json :=
  .object <|
    [("opcode", .string "create:stopLimit"), ("guid", .string (requestId.getD newGuid)),
      ("side", .string side), ("quantity", .ofI64 qty), ("triggerPrice", .ofF64 triggerPrice),
      ("price", .ofF64 price), ("condition", .string condition.asCanonicalStr),
      ("stopEndUnixTime", .ofI64 stopEndUnixTime),
      ("instrument", instrumentJson symbol exchange instrumentGroup),
      ("user", userJson portfolio), ("allowMargin", .bool cwsAllowMargin),
      ("checkDuplicates", .bool checkDuplicates)] ++
    optionalText "comment" comment ++ optionalText "requestId" requestId

/-- The guid that `read_until_guid` reads in a frame. -/
def responseGuid (value : Json) : String :=
  ((value.getFirst ["requestGuid", "guid", "correlationGuid"]).bind Json.asStr).getD ""

/-- `read_until_guid` on the texts that arrive, with `serde_json::from_str`: the response or an
error, or neither yet. -/
def readUntilGuid (parse : String → Option Json) (guid : String) :
    List String → Option (Except CwsError Json)
  | [] => none
  | text :: texts =>
    match parse text with
    | none => some (.error (.other ("failed to parse action-scope inbound text frame: " ++ text)))
    | some value =>
      if responseGuid value = guid then some (.ok value) else readUntilGuid parse guid texts

def sendAndAwaitResponse (parse : String → Option Json) (payload : Json) (texts : List String) :
    Except CwsError Json :=
  match (payload.get "guid").bind Json.asStr with
  | none => .error (.other "action-scope payload missing guid")
  | some guid =>
    (readUntilGuid parse guid texts).getD
      (.error (.other "action-scope cws read timeout while waiting for guid"))

end ActionScope

/-! ### Commands -/

/-- What a path sends a command with: the instrument group of the configuration, the steps, the
text of a request id, and a fresh guid. -/
structure ExecutionConfig where
  instrumentGroup : String
  priceStep : ℚ
  volumeStep : ℚ
  uuidText : Uuid → String
  newGuid : String

/-- A call of `CwsHandle::send_command`. -/
structure CwsCall where
  payload : Json
  requestId : Option String
  symbol : Option String

variable (config : ExecutionConfig) (command : OrderCommand)

/-- `execute_command` on the long-lived connection. -/
def legacyCall : CwsCall :=
  let requestId := config.uuidText command.requestId
  match command.action with
  | .place payload =>
    let price := normalizePrice payload.price config.priceStep payload.side
    let qty := normalizeQty payload.qty config.volumeStep
    { payload := CwsClient.buildCreateLimitPayload command.portfolio command.exchange
        command.symbol config.instrumentGroup price (roundToI64 qty) (sideStr payload.side)
        payload.comment true (some requestId) config.newGuid
      requestId := some requestId
      symbol := some command.symbol }
  | .market payload =>
    let qty := normalizeQty payload.qty config.volumeStep
    { payload := CwsClient.buildCreateMarketPayload command.portfolio command.exchange
        command.symbol config.instrumentGroup (roundToI64 qty) (sideStr payload.side)
        payload.comment config.newGuid
      requestId := some requestId
      symbol := some command.symbol }
  | .cancel payload =>
    { payload := CwsClient.cancelPayload command.portfolio command.exchange payload.orderId
        config.newGuid
      requestId := some requestId
      symbol := none }
  | .replace payload =>
    let newPrice := normalizeStepRound payload.newPrice config.priceStep
    let newQty := normalizeQty payload.newQty config.volumeStep
    { payload := CwsClient.replacePayload command.portfolio command.exchange command.symbol
        payload.orderId newPrice (roundToI64 newQty) config.newGuid
      requestId := some requestId
      symbol := some command.symbol }
  | .createStopLimit payload =>
    let qty := normalizeQty payload.qty config.volumeStep
    let triggerPrice := normalizeStepRound payload.triggerPrice config.priceStep
    let price := normalizeStepRound payload.price config.priceStep
    { payload := CwsClient.buildCreateStopLimitPayload command.portfolio command.exchange
        command.symbol (sideStr payload.side) (roundToI64 qty) triggerPrice price
        payload.condition payload.stopEndUnixTime payload.comment
        (resolveStopLimitInstrumentGroup payload.instrumentGroup config.instrumentGroup)
        (payload.checkDuplicates.getD true) config.newGuid
      requestId := some requestId
      symbol := some command.symbol }
  | .deleteStopLimit payload =>
    { payload := CwsClient.deleteStopLimitPayload command.portfolio command.exchange
        payload.orderId (payload.side.map sideStr) (payload.checkDuplicates.getD true)
        config.newGuid
      requestId := some requestId
      symbol := none }

/-- `execute_command` on a connection of its own: the payload, unless the command is a replace,
which always goes out on the long-lived connection. -/
def actionScopedPayload : Option Json :=
  let requestId := some (config.uuidText command.requestId)
  match command.action with
  | .place payload =>
    let price := normalizePrice payload.price config.priceStep payload.side
    let qty := normalizeQty payload.qty config.volumeStep
    some <| ActionScope.buildCreateLimitPayload command.portfolio command.exchange command.symbol
      config.instrumentGroup price (roundToI64 qty) (sideStr payload.side) payload.comment
      requestId config.newGuid
  | .market payload =>
    let qty := normalizeQty payload.qty config.volumeStep
    some <| ActionScope.buildCreateMarketPayload command.portfolio command.exchange command.symbol
      config.instrumentGroup (roundToI64 qty) (sideStr payload.side) payload.comment requestId
      config.newGuid
  | .cancel payload =>
    some <| ActionScope.buildDeleteLimitPayload command.portfolio command.exchange payload.orderId
      requestId config.newGuid
  | .replace _ => none
  | .createStopLimit payload =>
    let qty := normalizeQty payload.qty config.volumeStep
    let triggerPrice := normalizeStepRound payload.triggerPrice config.priceStep
    let price := normalizeStepRound payload.price config.priceStep
    some <| ActionScope.buildCreateStopLimitPayload command.portfolio command.exchange
      command.symbol (sideStr payload.side) (roundToI64 qty) triggerPrice price payload.condition
      payload.stopEndUnixTime payload.comment
      (resolveStopLimitInstrumentGroup payload.instrumentGroup config.instrumentGroup)
      (payload.checkDuplicates.getD true) requestId config.newGuid
  | .deleteStopLimit payload =>
    some <| ActionScope.buildDeleteStopLimitPayload command.portfolio command.exchange
      payload.orderId (payload.side.map sideStr) (payload.checkDuplicates.getD true) requestId
      config.newGuid

def executionAck (requestId : Uuid) (result : Except CwsError Json) (now : ℤ) : CommandAck :=
  match result with
  | .ok response => buildCwsAck requestId (parseCwsResponse response) now
  | .error error => buildTransportErrorAck requestId error now

end Gateway

end AlorRs
