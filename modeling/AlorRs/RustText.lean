import Mathlib.Algebra.Order.Ring.Rat

/-!
# Strings

The string operations of the Rust standard library that the program uses.  The two that go by
large tables, lower-casing and the decimal form of a float, are a parameter.
-/

namespace AlorRs

/-- `str::to_lowercase` and the `Display` form of an `f64`. -/
structure RustText where
  toLowercase : String → String
  showF64 : ℚ → String

variable (s : String) (c : Char)

/-- `char::is_whitespace`: the characters with the `White_Space` property. -/
def isWhitespace : Bool :=
  (9 ≤ c.toNat && c.toNat ≤ 13) || (0x2000 ≤ c.toNat && c.toNat ≤ 0x200a) ||
    [0x20, 0x85, 0xa0, 0x1680, 0x2028, 0x2029, 0x202f, 0x205f, 0x3000].contains c.toNat

def isBlank : Bool := s.toList.all isWhitespace

def isAscii : Bool := c.toNat < 128

def toAsciiLowercase : Char :=
  if 'A'.toNat ≤ c.toNat ∧ c.toNat ≤ 'Z'.toNat then Char.ofNat (c.toNat + 32) else c

def eqIgnoreAsciiCase (a b : String) : Bool :=
  a.toList.map toAsciiLowercase == b.toList.map toAsciiLowercase

def toAsciiLowercaseText : String := String.ofList (s.toList.map toAsciiLowercase)

def containsText (part : String) : Bool := s.toList.tails.any part.toList.isPrefixOf

def startsWith (start : String) : Bool := start.toList.isPrefixOf s.toList

def parseDigits (digits : List Char) : Option ℕ :=
  if digits.isEmpty || !digits.all Char.isDigit then none
  else some (digits.foldl (fun n c => 10 * n + (c.toNat - '0'.toNat)) 0)

def parseI64 : Option ℤ :=
  let n : Option ℤ :=
    match s.toList with
    | '-' :: digits => (parseDigits digits).map fun n => -(n : ℤ)
    | '+' :: digits => (parseDigits digits).map fun n => (n : ℤ)
    | digits => (parseDigits digits).map fun n => (n : ℤ)
  n.filter fun n => -2 ^ 63 ≤ n ∧ n < 2 ^ 63

end AlorRs
