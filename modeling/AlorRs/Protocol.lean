import Mathlib.Data.Rat.Defs

/-!
# The command protocol

Orders that the strategy runtime asks the gateway for, and the gateway's answers.  A
`Uuid` of version 5 is kept as the name it is computed from, so two of them are equal exactly
when their names are.
-/

namespace AlorRs

/-- The outcome of a write: done, refused, or done with its answer lost. -/
inductive Delivery where
  | done | refused | lost
deriving DecidableEq, Repr

/-- An identifier: `v5` of a name, or any other one. -/
inductive Uuid where
  | v5 (name : String)
  | other (n : ℕ)
deriving DecidableEq, Repr

inductive Side where
  | buy | sell
deriving DecidableEq, Repr

inductive IntentClass where
  | entry | exit | cancelCleanup | protectiveRepair
deriving DecidableEq, Repr

inductive StopLimitCondition where
  | more | less | moreOrEqual | lessOrEqual
deriving DecidableEq, Repr

structure PlaceOrder where
  price : ℚ
  qty : ℚ
  side : Side
  comment : Option String
deriving DecidableEq, Repr

structure MarketOrder where
  qty : ℚ
  side : Side
  comment : Option String
deriving DecidableEq, Repr

structure CancelOrder where
  orderId : ℤ
deriving DecidableEq, Repr

structure ReplaceOrder where
  orderId : ℤ
  newPrice : ℚ
  newQty : ℚ
deriving DecidableEq, Repr

structure CreateStopLimitOrder where
  side : Side
  qty : ℚ
  triggerPrice : ℚ
  price : ℚ
  condition : StopLimitCondition
  stopEndUnixTime : ℤ
  comment : Option String
  instrumentGroup : Option String
  checkDuplicates : Option Bool
deriving DecidableEq, Repr

structure DeleteStopLimitOrder where
  orderId : String
  side : Option Side
  checkDuplicates : Option Bool
deriving DecidableEq, Repr

inductive CommandAction where
  | place (order : PlaceOrder)
  | market (order : MarketOrder)
  | cancel (order : CancelOrder)
  | replace (order : ReplaceOrder)
  | createStopLimit (order : CreateStopLimitOrder)
  | deleteStopLimit (order : DeleteStopLimitOrder)
deriving DecidableEq, Repr

structure OrderCommand where
  requestId : Uuid
  createdTsUtc : ℤ
  strategyId : String
  portfolio : String
  exchange : String
  symbol : String
  action : CommandAction
  intentClass : Option IntentClass
  ttlMs : Option ℕ
deriving DecidableEq, Repr

inductive AckStatus where
  | accepted | confirmed | rejected | duplicate | expired | error
deriving DecidableEq, Repr

structure CommandAck where
  requestId : Uuid
  status : AckStatus
  brokerOrderId : Option ℤ
  brokerOrderIdStr : Option String
  errorCode : Option String
  errorMsg : Option String
  cwsHttpCode : Option ℤ
  cwsMessage : Option String
  cwsRequestGuid : Option String
  processedTsUtc : ℤ
deriving DecidableEq, Repr

namespace CommandAck

/-- The fields that `confirmed`, `duplicate`, `rejected`, `accepted`, `expired` and `error`
leave empty; `now` is the clock. -/
def bare (requestId : Uuid) (status : AckStatus) (now : ℤ) : CommandAck where
  requestId := requestId
  status := status
  brokerOrderId := none
  brokerOrderIdStr := none
  errorCode := none
  errorMsg := none
  cwsHttpCode := none
  cwsMessage := none
  cwsRequestGuid := none
  processedTsUtc := now

def confirmed (requestId : Uuid) (brokerOrderId : Option ℤ) (now : ℤ) : CommandAck :=
  { bare requestId .confirmed now with
    brokerOrderId := brokerOrderId
    brokerOrderIdStr := brokerOrderId.map toString }

def duplicate (requestId : Uuid) (now : ℤ) : CommandAck := bare requestId .duplicate now

def rejected (requestId : Uuid) (errorCode errorMsg : String) (now : ℤ) : CommandAck :=
  { bare requestId .rejected now with errorCode := some errorCode, errorMsg := some errorMsg }

def expired (requestId : Uuid) (errorMsg : String) (now : ℤ) : CommandAck :=
  { bare requestId .expired now with errorCode := some "expired", errorMsg := some errorMsg }

end CommandAck

/-- `infer_intent_class`: the class a command carries, or the one of its action. -/
def inferIntentClass (explicit : Option IntentClass) (action : CommandAction) : IntentClass :=
  explicit.getD <|
    match action with
    | .cancel _ | .deleteStopLimit _ => .cancelCleanup
    | .market _ => .entry
    | .place _ => .entry
    | .replace _ => .protectiveRepair
    | .createStopLimit _ => .protectiveRepair

end AlorRs
