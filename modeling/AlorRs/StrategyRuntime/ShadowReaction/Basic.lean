import AlorRs.Chrono
import AlorRs.Lib.Outcome
import Mathlib.Data.Rat.Defs
import Mathlib.Algebra.Order.Ring.Rat

/-!
# The reaction models

What the two reaction models share: their bars, and who holds a position on which side.  Prices are
rational numbers, and a price that is not finite is none.
-/

namespace AlorRs.ShadowReaction

def time (hour minute : ℕ) : NaiveTime := .fromHms hour minute 0

def dateText (date : NaiveDate) : String :=
  let (year, month, day) := NaiveDate.ymd date
  yearText year ++ "-" ++ zeroPadded 2 month ++ "-" ++ zeroPadded 2 day

def transition : NaiveDate := .fromYmd 2026 7 14

structure Bar where
  tsLocal : NaiveDateTime
  «open» : ℚ
  high : ℚ
  low : ℚ
  close : ℚ
  volume : ℚ
deriving DecidableEq, Repr

namespace Bar

def date (bar : Bar) : NaiveDate := bar.tsLocal.date

def time (bar : Bar) : NaiveTime := bar.tsLocal.time

def boundary (bar : Bar) : NaiveDateTime := bar.tsLocal.addSecs 600

end Bar

/-- `num_days_from_monday() < 5`. -/
def isWeekday (date : NaiveDate) : Bool := date.weekday ≠ .sat && date.weekday ≠ .sun

inductive Owner where
  | mr | bo
deriving DecidableEq, Repr

inductive Side where
  | long | short
deriving DecidableEq, Repr

end AlorRs.ShadowReaction
