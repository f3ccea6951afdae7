import AlorRs.Chrono

/-!
# The trading scheduler

Which part of the trading day an instant falls in, and how long the bars may be silent.
-/

namespace AlorRs

inductive MarketState where
  | opened
  | weekend
  | outsideSession
  | break1
  | break2
deriving DecidableEq, Repr

/-- The trading hours of a market, in its local time. -/
structure TradingPeriods where
  sessionStart : NaiveTime
  sessionEnd : NaiveTime
  breakStart1 : NaiveTime
  breakEnd1 : NaiveTime
  breakStart2 : NaiveTime
  breakEnd2 : NaiveTime
  weekendsOff : Bool
  timezoneOffsetHours : ℤ
deriving DecidableEq, Repr

structure Scheduler where
  config : TradingPeriods
  timezoneOffsetHours : ℤ
deriving DecidableEq, Repr

/-- `in_window`: from `start` up to `stop`, past midnight where `stop` comes first. -/
def inWindow (now start stop : NaiveTime) : Bool :=
  if start.le stop then start.le now && !stop.le now
  else start.le now || !stop.le now

namespace Scheduler

/-- `new_with_fallback_offset_hours`: an offset of `0` in the periods means the fallback. -/
def newWithFallbackOffsetHours (config : TradingPeriods) (fallback : ℤ) : Scheduler where
  config := config
  timezoneOffsetHours :=
    if config.timezoneOffsetHours = 0 then fallback else config.timezoneOffsetHours

variable (scheduler : Scheduler)

def localDatetimeUtc (ts : ℤ) : Option LocalDateTime :=
  localDateTime scheduler.timezoneOffsetHours ts

def marketState (now : NaiveTime) (day : Weekday) : MarketState :=
  let config := scheduler.config
  if config.weekendsOff && (day = .sat || day = .sun) then .weekend
  else if !inWindow now config.sessionStart config.sessionEnd then .outsideSession
  else if inWindow now config.breakStart1 config.breakEnd1 then .break1
  else if inWindow now config.breakStart2 config.breakEnd2 then .break2
  else .opened

def marketStateUtc (ts : ℤ) : MarketState :=
  match scheduler.localDatetimeUtc ts with
  | none => .outsideSession
  | some dt => scheduler.marketState dt.time dt.weekday

def checkSilencePeriodAt (now lastReceivedBar maxSilence : ℤ) : Bool :=
  if scheduler.marketStateUtc now ≠ .opened then true
  else now - lastReceivedBar ≤ maxSilence

end Scheduler

end AlorRs
