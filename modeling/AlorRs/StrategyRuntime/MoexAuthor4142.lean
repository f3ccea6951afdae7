import AlorRs.Chrono
import Mathlib.Algebra.Order.Ring.Rat

/-!
# The Author41 and Author42 models

The bars, the session policy and the configurations that the two components of the RI strategy
share with their batch engines.
-/

namespace AlorRs.MoexAuthor4142

structure ModelBar where
  tsLocal : NaiveDateTime
  opened : ℚ
  high : ℚ
  low : ℚ
  close : ℚ
  volume : ℚ
deriving DecidableEq

structure RegularSessionPolicy where
  start : NaiveTime
  finish : NaiveTime
  weekdaysOnly : Bool

def RegularSessionPolicy.isModelBar (policy : RegularSessionPolicy) (dtLocal : NaiveDateTime) :
    Bool :=
  if policy.weekdaysOnly && (dtLocal.date.weekday = .sat || dtLocal.date.weekday = .sun) then false
  else policy.start.le dtLocal.time && dtLocal.time.le policy.finish

inductive Author41SideMode where
  | long | short | dual
deriving DecidableEq

structure Author41Config where
  sideMode : Author41SideMode
  k : ℚ
  k2 : ℚ
  stopK : ℚ
  minRange : ℚ
  maxRange : ℚ
  maxEntriesPerDay : ℕ
  entryEnd : NaiveTime
  timeExit : NaiveTime
  breakevenAfterBars : ℕ
  roundtripCostPoints : ℚ
deriving DecidableEq

namespace Author41Config

def riPlateauShortSource : Author41Config where
  sideMode := .short
  k := 20 / 100
  k2 := 20 / 1000
  stopK := 75 / 100
  minRange := 5 / 1000
  maxRange := 100 / 1000
  maxEntriesPerDay := 2
  entryEnd := .fromHms 12 0 0
  timeExit := .fromHms 20 0 0
  breakevenAfterBars := 20
  roundtripCostPoints := 2

def riPlateauLongSource : Author41Config where
  sideMode := .long
  k := 11 / 100
  k2 := 5 / 1000
  stopK := 1
  minRange := 5 / 1000
  maxRange := 100 / 1000
  maxEntriesPerDay := 2
  entryEnd := .fromHms 12 0 0
  timeExit := .fromHms 20 0 0
  breakevenAfterBars := 20
  roundtripCostPoints := 2

end Author41Config

inductive Author42SideMode where
  | long | short | both
deriving DecidableEq

structure Author42Config where
  k : ℚ
  stopHourK : ℚ
  stopK : ℚ
  sideMode : Author42SideMode
  minPrevHlRatio : ℚ
  prevExtremeMove : ℚ
  firstHourExtremeK : ℚ
  useFirstHourExtremeFilter : Bool
  excludeFriday : Bool
  excludeJuneWindow : Bool
  allowReentryOnDayExtreme : Bool
  roundtripCostPoints : ℚ
  exitTime : NaiveTime
  lastEntryTime : Option NaiveTime
  maxEntriesPerDay : Option ℕ

def Author42Config.riGridK042Both : Author42Config where
  k := 42 / 100
  stopHourK := 50 / 100
  stopK := 18 / 100
  sideMode := .both
  minPrevHlRatio := 101 / 100
  prevExtremeMove := 25 / 1000
  firstHourExtremeK := 150 / 100
  useFirstHourExtremeFilter := true
  excludeFriday := true
  excludeJuneWindow := true
  allowReentryOnDayExtreme := true
  roundtripCostPoints := 0
  exitTime := .fromHms 23 0 0
  lastEntryTime := none
  maxEntriesPerDay := none

def inAuthorJuneWindow (date : NaiveDate) : Bool :=
  NaiveDate.fromYmd date.year 5 21 ≤ date && date ≤ NaiveDate.fromYmd date.year 7 1

def isAuthor42HourCheck (ts startTs : NaiveDateTime) : Bool :=
  ts.minute = 50 && !ts.le (startTs.subSecs (-3000))

end AlorRs.MoexAuthor4142
