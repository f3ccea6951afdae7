import AlorRs.Lib.Reports
import Mathlib.Algebra.Order.Ring.Rat
import Mathlib.Algebra.Order.Field.Basic
import Mathlib.Data.List.AList
import Mathlib.Data.Prod.Lex
import Mathlib.Data.String.Basic

/-!
# The trade ledger

`TradeLedger` keeps the fills of a strategy, a running average-cost position
(`positionQty`, `positionCost`, `realizedPnl`) and a record for each closed round trip
(`closedTrades`), from which the reports are computed.  Prices and quantities are exact
rationals; `epsilon` is `f64::EPSILON`.
-/

namespace AlorRs

/-- `f64::EPSILON`, the bound under which a quantity counts as zero. -/
def epsilon : ℚ := 1 / 2 ^ 52

/-- `f64::signum`, which is `1` at (positive) zero. -/
def signum (x : ℚ) : ℚ := if 0 ≤ x then 1 else -1

/-- A fill, as the runtime records it. -/
structure TradeRecord where
  tsUtc : ℤ
  orderId : ℤ
  symbol : String
  side : String
  qty : ℚ
  price : ℚ
  commission : ℚ
  owned : Bool
  comment : Option String
deriving DecidableEq, Repr

/-- The last known shape of an order. -/
structure OrderRecord where
  orderId : ℤ
  symbol : String
  side : String
  qty : ℚ
  filled : ℚ
  price : ℚ
  status : String
  tsUtc : ℤ
  owned : Bool
deriving DecidableEq, Repr

/-- A closed round trip. -/
structure ClosedTradeRecord where
  entryTsUtc : ℤ
  exitTsUtc : ℤ
  symbol : String
  strategyComponent : Option String
  side : String
  qty : ℚ
  entryPrice : ℚ
  exitPrice : ℚ
  commissionTotal : ℚ
  pnlGross : ℚ
  pnlNet : ℚ
  entryRole : Option String
  exitRole : Option String
  entryComment : Option String
  exitComment : Option String
deriving DecidableEq, Repr

/-- The totals of a list of closed round trips. -/
structure LedgerSummary where
  strategyId : String
  symbol : String
  tradesTotal : ℕ
  winRate : ℚ
  pnlGrossTotal : ℚ
  pnlNetTotal : ℚ
  commissionTotal : ℚ
  grossProfit : ℚ
  grossLoss : ℚ
  avgPnl : ℚ
  maxPnl : ℚ
  minPnl : ℚ
deriving DecidableEq, Repr

/-! ### Comment tags -/

/-- The owner and the role that a `HYB|o=..|r=..` comment names. -/
structure HybridTradeTag where
  owner : Option String
  role : Option String
deriving DecidableEq, Repr

def splitOnce (c : Char) : List Char → Option (List Char × List Char)
  | [] => none
  | d :: rest =>
    if d = c then some ([], rest)
    else (splitOnce c rest).map fun (key, value) => (d :: key, value)

namespace HybridTradeTag

/-- One `key=value` part of the comment; the last part of a kind wins. -/
def readPart (tag : HybridTradeTag) (part : List Char) : HybridTradeTag :=
  match splitOnce '=' part with
  | none => tag
  | some (key, value) =>
    if key = ['o'] then
      if value ∈ ["MR".toList, "BO".toList] then { tag with owner := some (String.ofList value) }
      else tag
    else if key = ['r'] then
      if value ∈ ["ENTRY", "EXIT", "TP", "SL", "CANCEL", "REPAIR"].map String.toList then
        { tag with role := some (String.ofList value) }
      else tag
    else tag

def parse (comment : Option String) : Option HybridTradeTag :=
  match comment with
  | none => none
  | some comment =>
    let chars := comment.toList
    if !(chars.all fun c => c.toNat < 128) || !("HYB|".toList.isPrefixOf chars) then none
    else some (((chars.splitOn '|').drop 1).foldl readPart ⟨none, none⟩)

end HybridTradeTag

/-! ### The ledger -/

/-- The fills seen so far, the running position and the closed round trips. -/
structure TradeLedger where
  orders : AList fun _ : ℤ => OrderRecord
  trades : List TradeRecord
  closedTrades : List ClosedTradeRecord
  realizedPnl : ℚ
  positionQty : ℚ
  positionCost : ℚ
  entryTsUtc : Option ℤ
  entryPrice : ℚ
  entrySide : Option String
  entrySymbol : Option String
  entryComment : Option String
  openCommissionTotal : ℚ

namespace TradeLedger

def default : TradeLedger where
  orders := ∅
  trades := []
  closedTrades := []
  realizedPnl := 0
  positionQty := 0
  positionCost := 0
  entryTsUtc := none
  entryPrice := 0
  entrySide := none
  entrySymbol := none
  entryComment := none
  openCommissionTotal := 0

variable (ledger : TradeLedger)

def recordOrder (record : OrderRecord) : TradeLedger :=
  { ledger with orders := ledger.orders.insert record.orderId record }

/-- `average_price`: the cost of a unit of the open position, `0` when there is none. -/
def averagePrice : ℚ :=
  if |ledger.positionQty| ≤ epsilon then 0 else ledger.positionCost / ledger.positionQty

variable (before : ℚ) (strategyId : String) (trade : TradeRecord)

/-- The first half of `apply_fill`: quantity, cost and realised profit of the position. -/
def applyPosition : TradeLedger :=
  let qty := trade.qty
  let price := trade.price
  if trade.side = "buy" then
    if ledger.positionQty < 0 then
      let avgPrice := ledger.averagePrice
      let coverQty := min qty |ledger.positionQty|
      let remaining := qty - coverQty
      let ledger := { ledger with
        realizedPnl := ledger.realizedPnl + (avgPrice - price) * coverQty
        positionQty := ledger.positionQty + coverQty
        positionCost := ledger.positionCost + avgPrice * coverQty }
      if 0 < remaining then
        { ledger with
          positionQty := ledger.positionQty + remaining
          positionCost := ledger.positionCost + remaining * price }
      else ledger
    else
      { ledger with
        positionQty := ledger.positionQty + qty
        positionCost := ledger.positionCost + qty * price }
  else if trade.side = "sell" then
    if 0 < ledger.positionQty then
      let avgPrice := ledger.averagePrice
      let closeQty := min qty ledger.positionQty
      let remaining := qty - closeQty
      let ledger := { ledger with
        realizedPnl := ledger.realizedPnl + (price - avgPrice) * closeQty
        positionQty := ledger.positionQty - closeQty
        positionCost := ledger.positionCost - avgPrice * closeQty }
      if 0 < remaining then
        { ledger with
          positionQty := ledger.positionQty - remaining
          positionCost := ledger.positionCost - remaining * price }
      else ledger
    else
      { ledger with
        positionQty := ledger.positionQty - qty
        positionCost := ledger.positionCost - qty * price }
  else ledger

def flatQty (qty : ℚ) : Bool := |qty| ≤ epsilon

/-- `flipped` of `apply_fill`: both positions are open and on opposite sides. -/
def flippedQty (after : ℚ) : Bool :=
  !flatQty before && !flatQty after && signum before != signum after

/-- The share of the closing commission that belongs to the closed round trip. -/
def closeRatio (after qty : ℚ) : ℚ :=
  if flippedQty before after && 0 < qty then min (|before| / qty) 1 else 1

/-- The round trip that `apply_fill` closes: `ledger` still carries the entry data of the
position, `before` is its quantity before the fill. -/
def closedRecord (beforeAvg : ℚ) (flipped : Bool) (ratio : ℚ) (trade : TradeRecord)
    : ClosedTradeRecord :=
  let entryPrice := if 0 < ledger.entryPrice then ledger.entryPrice else |beforeAvg|
  let entrySide := ledger.entrySide.getD (if 0 < before then "buy" else "sell")
  let closeQty := |before|
  let pnlGross :=
    if entrySide = "buy" then (trade.price - entryPrice) * closeQty
    else (entryPrice - trade.price) * closeQty
  let commissionTotal :=
    if flipped then ledger.openCommissionTotal + trade.commission * ratio
    else ledger.openCommissionTotal + trade.commission
  let entryTag := HybridTradeTag.parse ledger.entryComment
  let exitTag := HybridTradeTag.parse trade.comment
  { entryTsUtc := ledger.entryTsUtc.getD trade.tsUtc
    exitTsUtc := trade.tsUtc
    symbol := ledger.entrySymbol.getD trade.symbol
    strategyComponent := (entryTag.bind (·.owner)).or (exitTag.bind (·.owner))
    side := entrySide
    qty := closeQty
    entryPrice := entryPrice
    exitPrice := trade.price
    commissionTotal := commissionTotal
    pnlGross := pnlGross
    pnlNet := pnlGross - commissionTotal
    entryRole := entryTag.bind (·.role)
    exitRole := exitTag.bind (·.role)
    entryComment := ledger.entryComment
    exitComment := trade.comment }

/-- The entry data is forgotten once a round trip is closed. -/
def clearEntry : TradeLedger :=
  { ledger with
    entryTsUtc := none
    entrySide := none
    entrySymbol := none
    entryComment := none
    entryPrice := 0
    openCommissionTotal := 0 }

def openEntry (side : String) (commission : ℚ) (trade : TradeRecord) : TradeLedger :=
  { ledger with
    entryTsUtc := some trade.tsUtc
    entrySide := some side
    entrySymbol := some trade.symbol
    entryComment := trade.comment
    entryPrice := |ledger.averagePrice|
    openCommissionTotal := commission }

def applyFill : TradeLedger :=
  let beforeQty := ledger.positionQty
  let beforeAvg := if |beforeQty| ≤ epsilon then 0 else ledger.positionCost / beforeQty
  let ledger := ledger.applyPosition trade
  let isFlat := flatQty ledger.positionQty
  let wasFlat := flatQty beforeQty
  let flipped := flippedQty beforeQty ledger.positionQty
  let ratio := closeRatio beforeQty ledger.positionQty trade.qty
  if !wasFlat && (isFlat || flipped) then
    let record := ledger.closedRecord beforeQty beforeAvg flipped ratio trade
    let ledger :=
      if 0 < record.entryPrice then
        { ledger with closedTrades := ledger.closedTrades ++ [record] }
      else ledger
    let ledger := ledger.clearEntry
    if flipped then
      ledger.openEntry (if 0 < ledger.positionQty then "buy" else "sell")
        (trade.commission * (1 - ratio)) trade
    else ledger
  else if wasFlat && !isFlat then ledger.openEntry trade.side trade.commission trade
  else if !isFlat then
    { ledger with
      entryPrice := |ledger.averagePrice|
      openCommissionTotal := ledger.openCommissionTotal + trade.commission }
  else ledger

def recordFill : TradeLedger :=
  let ledger := ledger.applyFill trade
  { ledger with trades := ledger.trades ++ [trade] }

/-! ### Summaries -/

/-- The running totals of the loop in `summary_for_trades`. -/
structure Totals where
  grossProfit : ℚ
  grossLoss : ℚ
  maxPnl : ℚ
  minPnl : ℚ
  pnlGrossTotal : ℚ
  pnlNetTotal : ℚ
  commissionTotal : ℚ

/-- One round of the loop; `first` is `idx == 0`. -/
def Totals.add (totals : Totals) (first : Bool) (trade : ClosedTradeRecord) : Totals where
  pnlGrossTotal := totals.pnlGrossTotal + trade.pnlGross
  pnlNetTotal := totals.pnlNetTotal + trade.pnlNet
  commissionTotal := totals.commissionTotal + trade.commissionTotal
  grossProfit :=
    if 0 ≤ trade.pnlGross then totals.grossProfit + trade.pnlGross else totals.grossProfit
  grossLoss :=
    if 0 ≤ trade.pnlGross then totals.grossLoss else totals.grossLoss + |trade.pnlGross|
  maxPnl := if first || totals.maxPnl < trade.pnlNet then trade.pnlNet else totals.maxPnl
  minPnl := if first || trade.pnlNet < totals.minPnl then trade.pnlNet else totals.minPnl

def Totals.addAll (totals : Totals) (idx : ℕ) : List ClosedTradeRecord → Totals
  | [] => totals
  | trade :: rest => (totals.add (idx == 0) trade).addAll (idx + 1) rest

def summaryForTrades (symbol : String) (closedTrades : List ClosedTradeRecord) : LedgerSummary :=
  let tradesTotal := closedTrades.length
  let totals := Totals.addAll ⟨0, 0, 0, 0, 0, 0, 0⟩ 0 closedTrades
  let wins := (closedTrades.filter fun trade => 0 < trade.pnlNet).length
  { strategyId := strategyId
    symbol := symbol
    tradesTotal := tradesTotal
    winRate := if tradesTotal = 0 then 0 else wins / tradesTotal
    pnlGrossTotal := totals.pnlGrossTotal
    pnlNetTotal := totals.pnlNetTotal
    commissionTotal := totals.commissionTotal
    grossProfit := totals.grossProfit
    grossLoss := totals.grossLoss
    avgPnl := if tradesTotal = 0 then 0 else totals.pnlNetTotal / tradesTotal
    maxPnl := totals.maxPnl
    minPnl := totals.minPnl }

def summary (symbol : String) : LedgerSummary :=
  summaryForTrades strategyId symbol ledger.closedTrades

end TradeLedger

/-! ### Reports -/

/-- What tells the round trips of a report apart. -/
structure ClosedTradeKey where
  entryTsUtc : ℤ
  exitTsUtc : ℤ
  symbol : String
  side : String
  qty : ℚ
  entryPrice : ℚ
  exitPrice : ℚ
  commissionTotal : ℚ
  pnlGross : ℚ
  pnlNet : ℚ
deriving DecidableEq

namespace ClosedTradeRecord

variable (trade : ClosedTradeRecord)

def key : ClosedTradeKey :=
  ⟨trade.entryTsUtc, trade.exitTsUtc, trade.symbol, trade.side, trade.qty, trade.entryPrice,
    trade.exitPrice, trade.commissionTotal, trade.pnlGross, trade.pnlNet⟩

/-- What the rows of a report are sorted by. -/
def place : ℤ ×ₗ ℤ ×ₗ String ×ₗ String :=
  toLex (trade.entryTsUtc, toLex (trade.exitTsUtc, toLex (trade.symbol, trade.side)))

end ClosedTradeRecord

/-- The order of the rows. -/
abbrev Before : ClosedTradeRecord → ClosedTradeRecord → Prop :=
  Order.Preimage ClosedTradeRecord.place (· ≤ ·)

/-- `report_trades`: the first round trip for each key; `file` has the rows that are there. -/
def TradeLedger.reportTrades (ledger : TradeLedger) (file : List ClosedTradeRecord) (append : Bool) :
    List ClosedTradeRecord :=
  let trades := (if append then file else []) ++ ledger.closedTrades
  Reports.reports ClosedTradeRecord.key [] (trades.insertionSort Before)

/-- `persist_reports`: the rows of the new file and the summary. -/
def TradeLedger.persistReports (ledger : TradeLedger) (strategyId symbol : String)
    (file : List ClosedTradeRecord) (append : Bool) : List ClosedTradeRecord × LedgerSummary :=
  let trades := ledger.reportTrades file append
  (trades, summaryForTrades strategyId symbol trades)

end AlorRs
