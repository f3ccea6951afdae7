import AlorRs.RustText

/-!
# JSON values

`serde_json::Value` and its accessors.  An object is a list of fields, of which the first with a
name counts; floats are kept as rationals.
-/

namespace AlorRs

instance neZeroTwoPow64 : @NeZero ℕ Zero.ofOfNat0 (2 ^ 64) := ⟨(Nat.two_pow_pos 64).ne'⟩

inductive JsonNumber where
  | posInt (n : Fin (2 ^ 64))
  | negInt (n : ℤ)
  | float (x : ℚ)
deriving DecidableEq

/-- `serde_json::Value`. -/
inductive Json where
  | null
  | bool (b : Bool)
  | number (n : JsonNumber)
  | string (s : String)
  | array (items : List Json)
  | object (fields : List (String × Json))

namespace Json

variable (value : Json)

/-- `Value::get` of a field. -/
def get (name : String) : Option Json :=
  match value with
  | .object fields => fields.lookup name
  | _ => none

/-- `get(a).or_else(|| get(b))` and so on: the first of some fields that is there. -/
def getFirst (names : List String) : Option Json := names.findSome? value.get

def asArray : Json → Option (List Json)
  | .array items => some items
  | _ => none

def asStr : Json → Option String
  | .string s => some s
  | _ => none

def asBool : Json → Option Bool
  | .bool b => some b
  | _ => none

def asI64 : Json → Option ℤ
  | .number (.posInt n) => if n.val < 2 ^ 63 then some n.val else none
  | .number (.negInt n) => some n
  | _ => none

/-- `as_u64`, as an `i64`: the integers that `as_i64` leaves out wrap around. -/
def asU64AsI64 : Json → Option ℤ
  | .number (.posInt n) => some (if n.val < 2 ^ 63 then n.val else (n.val : ℤ) - 2 ^ 64)
  | _ => none

def isNumber : Json → Bool
  | .number _ => true
  | _ => false

/-- `Map::insert` of a field, if the value is an object. -/
def insertField (name : String) (field : Json) : Json :=
  match value with
  | .object fields => .object ((name, field) :: fields.filter fun entry => entry.1 ≠ name)
  | _ => value

def asF64 : Json → Option ℚ
  | .number (.posInt n) => some n.val
  | .number (.negInt n) => some n
  | .number (.float x) => some x
  | _ => none

end Json

end AlorRs
