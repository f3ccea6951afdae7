import AlorRs.Protocol

/-!
# Request identifiers

The identifier of a command is the version 5 UUID of a name made of the strategy, the portfolio,
the symbol, the action, a time and a number.
-/

namespace AlorRs

variable (strategyId portfolio symbol : String)

def requestName (action : String) (barTs : ℤ) (seq : ℕ) : String :=
  strategyId ++ "|" ++ portfolio ++ "|" ++ symbol ++ "|" ++ action ++ "|" ++ toString barTs ++
    "|" ++ toString seq

def deterministicRequestId (action : String) (barTs : ℤ) (seq : ℕ) : Uuid :=
  .v5 (requestName strategyId portfolio symbol action barTs seq)

def marketRequestSeq (side : Side) : ℕ := if side = .buy then 3 else 4

def deterministicMarketRequestId (createdTsUtc : ℤ) (side : Side) : Uuid :=
  deterministicRequestId strategyId portfolio symbol "market" createdTsUtc (marketRequestSeq side)

end AlorRs
