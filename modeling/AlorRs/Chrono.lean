import Mathlib.Algebra.Order.Group.Int
import Mathlib.Algebra.Order.Floor.Div
import Mathlib.Data.Int.Basic
import Mathlib.Data.Prod.Lex

/-!
# Dates and times

The part of `chrono` that the program relies on.  An instant is a whole number of seconds
since the Unix epoch, a date is a day number counted from 1970-01-01, and both are limited to
the range that `chrono` can represent.
-/

namespace AlorRs

def daySeconds : ℤ := 86400

/-- A date, as the number of days since 1970-01-01 (a Thursday). -/
abbrev NaiveDate := ℤ

/-- The first date of `chrono`, the first of January of the year -262143. -/
def minDate : NaiveDate := -96465292

/-- The last date of `chrono`, the 31st of December of the year 262142. -/
def maxDate : NaiveDate := 95026236

inductive Weekday where
  | mon | tue | wed | thu | fri | sat | sun
deriving DecidableEq, Repr

def NaiveDate.weekday (date : NaiveDate) : Weekday :=
  match ((date + 3) % 7).toNat with
  | 0 => .mon
  | 1 => .tue
  | 2 => .wed
  | 3 => .thu
  | 4 => .fri
  | 5 => .sat
  | _ => .sun

namespace NaiveDate

def fromYmd (year : ℤ) (month day : ℕ) : NaiveDate :=
  -- years are counted from the first of March, in periods of 400 years
  let y := if month ≤ 2 then year - 1 else year
  let yearOfEra := y % 400
  let dayOfYear : ℤ := (153 * ((month + 9) % 12) + 2) / 5 + day - 1
  let dayOfEra := yearOfEra * 365 + yearOfEra / 4 - yearOfEra / 100 + dayOfYear
  y / 400 * 146097 + dayOfEra - 719468

/-- The year, the month and the day of a date. -/
def ymd (date : NaiveDate) : ℤ × ℕ × ℕ :=
  let dayOfEra := (date + 719468) % 146097
  let yearOfEra :=
    (dayOfEra - dayOfEra / 1460 + dayOfEra / 36524 - dayOfEra / 146096) / 365
  let dayOfYear := dayOfEra - (365 * yearOfEra + yearOfEra / 4 - yearOfEra / 100)
  let shifted := (5 * dayOfYear + 2) / 153
  let month := if shifted < 10 then shifted + 3 else shifted - 9
  let year := yearOfEra + (date + 719468) / 146097 * 400 + (if month ≤ 2 then 1 else 0)
  (year, month.toNat, (dayOfYear - (153 * shifted + 2) / 5 + 1).toNat)

def year (date : NaiveDate) : ℤ := date.ymd.1

end NaiveDate

example : NaiveDate.ymd 20577 = (2026, 5, 4) ∧ NaiveDate.fromYmd 2026 5 4 = 20577 := by decide

/-- A number with leading zeros, in at least so many digits. -/
def zeroPadded (width n : ℕ) : String :=
  let digits := toString n
  String.ofList (List.replicate (width - digits.length) '0') ++ digits

def yearText (year : ℤ) : String :=
  if 0 ≤ year ∧ year ≤ 9999 then zeroPadded 4 year.toNat
  else (if year < 0 then "-" else "+") ++ zeroPadded 4 year.natAbs

/-- A time of day: a second of the day and the nanoseconds past it. -/
structure NaiveTime where
  secs : ℕ
  frac : ℕ
deriving DecidableEq, Repr

namespace NaiveTime

/-- The order of `NaiveTime`: by second, then by nanosecond. -/
def le (a b : NaiveTime) : Bool := a.secs < b.secs || (a.secs == b.secs && a.frac ≤ b.frac)

/-- `Ord`: by second, then by nanosecond. -/
instance : LinearOrder NaiveTime :=
  LinearOrder.lift' (fun t => toLex (t.secs, t.frac)) fun a b h => by
    cases a
    cases b
    simpa using h

def fromHms (hour min sec : ℕ) : NaiveTime := ⟨hour * 3600 + min * 60 + sec, 0⟩

end NaiveTime

/-- `DateTime::from_timestamp(ts, 0)` and `Utc.timestamp_opt(ts, 0).single()` answer. -/
def timestampInRange (ts : ℤ) : Bool :=
  minDate ≤ ts / daySeconds && ts / daySeconds ≤ maxDate

/-- `FixedOffset::east_opt` of a number of hours, in seconds. -/
def fixedOffset (hours : ℤ) : Option ℤ :=
  if -daySeconds < hours * 3600 ∧ hours * 3600 < daySeconds then some (hours * 3600) else none

/-- An instant seen at a fixed offset. -/
structure LocalDateTime where
  timestamp : ℤ
  offset : ℤ
deriving DecidableEq, Repr

/-- A date and a time of day without an offset. -/
structure NaiveDateTime where
  date : NaiveDate
  time : NaiveTime
deriving DecidableEq, Repr

namespace NaiveDateTime

/-- The whole seconds since the start of 1970-01-01. -/
def secs (dt : NaiveDateTime) : ℤ := dt.date * daySeconds + dt.time.secs

def le (a b : NaiveDateTime) : Bool :=
  a.secs < b.secs || (a.secs == b.secs && a.time.frac ≤ b.time.frac)

instance : LinearOrder NaiveDateTime :=
  LinearOrder.lift' (fun dt => toLex (dt.date, dt.time)) fun a b h => by
    cases a
    cases b
    simpa using h

theorem date_le {a b : NaiveDateTime} (h : a ≤ b) : a.date ≤ b.date :=
  Prod.Lex.monotone_fst (toLex (a.date, a.time)) (toLex (b.date, b.time)) h

variable (dt : NaiveDateTime)

def hour : ℕ := dt.time.secs / 3600

def minute : ℕ := dt.time.secs % 3600 / 60

/-- `format("%Y%m%d%H%M%S")`. -/
def compactText : String :=
  let (year, month, day) := NaiveDate.ymd dt.date
  yearText year ++ zeroPadded 2 month ++ zeroPadded 2 day ++ zeroPadded 2 dt.hour ++
    zeroPadded 2 dt.minute ++ zeroPadded 2 (dt.time.secs % 60)

/-- The `Display` form, of a whole second. -/
def text : String :=
  let (year, month, day) := NaiveDate.ymd dt.date
  yearText year ++ "-" ++ zeroPadded 2 month ++ "-" ++ zeroPadded 2 day ++ " " ++
    zeroPadded 2 dt.hour ++ ":" ++ zeroPadded 2 dt.minute ++ ":" ++
    zeroPadded 2 (dt.time.secs % 60)

def subSecs (n : ℤ) : NaiveDateTime :=
  ⟨(dt.secs - n) / daySeconds, ⟨((dt.secs - n) % daySeconds).toNat, dt.time.frac⟩⟩

/-- `+ Duration::seconds`. -/
def addSecs (n : ℤ) : NaiveDateTime :=
  ⟨(dt.secs + n) / daySeconds, ⟨((dt.secs + n) % daySeconds).toNat, dt.time.frac⟩⟩

end NaiveDateTime

namespace LocalDateTime

def date (dt : LocalDateTime) : NaiveDate := (dt.timestamp + dt.offset) / daySeconds

def time (dt : LocalDateTime) : NaiveTime := ⟨((dt.timestamp + dt.offset) % daySeconds).toNat, 0⟩

def weekday (dt : LocalDateTime) : Weekday := dt.date.weekday

def naiveLocal (dt : LocalDateTime) : NaiveDateTime := ⟨dt.date, dt.time⟩

end LocalDateTime

def localDateTime (hours ts : ℤ) : Option LocalDateTime :=
  match fixedOffset hours with
  | none => none
  | some offset => if timestampInRange ts then some ⟨ts, offset⟩ else none

def timestampOfLocal (offset : ℤ) (date : NaiveDate) (time : NaiveTime) : Option ℤ :=
  let ts := date * daySeconds + time.secs - offset
  if timestampInRange ts then some ts else none

end AlorRs
