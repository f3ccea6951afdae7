import AlorRs.Lib.AverageCost
import AlorRs.StrategyRuntime.TradeLedger
import Mathlib.Tactic.NormNum
import Mathlib.Tactic.Positivity
import Mathlib.Data.List.Infix
import Mathlib.Data.Sign.Basic

/-!
# Correctness of the trade ledger

`TradeLedger.applyFill` runs two accountings side by side.  The running one is average-cost
accounting (`applyPosition_position`, an instance of `AverageCost`), so at every flat point
its realised profit is the cash received (`realizedPnl_of_flat`).  The other one is the list
of closed round trips; each of them is priced with the last fill's price over the whole
remaining quantity, so the list carries the closing gains only (`closedPnl_recordFills`) and
agrees with the running profit exactly where the partial reductions gained nothing in total
(`closedPnlAccounts_iff`).  Lots, cash and commissions are conserved over any fills (`conserves`).
-/

namespace AlorRs

open AverageCost

/-! ### Fills -/

/-- A fill as the broker sends it: a side, a positive whole number of lots, a positive
price. -/
structure TradeRecord.IsFill (trade : TradeRecord) : Prop where
  side : trade.side = "buy" ∨ trade.side = "sell"
  qty : ∃ lots : ℕ, 0 < lots ∧ trade.qty = lots
  price : 0 < trade.price

def TradeRecord.toFill (trade : TradeRecord) : Fill ℚ where
  qty := if trade.side = "buy" then trade.qty else -trade.qty
  price := trade.price

theorem sell_ne_buy : "sell" ≠ "buy" := by decide

variable {trade : TradeRecord}

theorem toFill_qty_of_buy (h : trade.side = "buy") : trade.toFill.qty = trade.qty := by
  simp [TradeRecord.toFill, h]

theorem toFill_qty_of_sell (h : trade.side = "sell") : trade.toFill.qty = -trade.qty := by
  simp [TradeRecord.toFill, h]

theorem TradeRecord.IsFill.qty_pos (h : trade.IsFill) : 0 < trade.qty := by
  obtain ⟨lots, hlots, hqty⟩ := h.qty
  rw [hqty]
  exact_mod_cast hlots

namespace TradeLedger

def position (ledger : TradeLedger) : Position ℚ :=
  ⟨ledger.positionQty, ledger.positionCost, ledger.realizedPnl⟩

def closedPnl (ledger : TradeLedger) : ℚ := (ledger.closedTrades.map (·.pnlGross)).sum

def recordFills (fills : List TradeRecord) : TradeLedger := fills.foldl recordFill default

theorem recordFills_concat (fills : List TradeRecord) (trade : TradeRecord) :
    recordFills (fills ++ [trade]) = (recordFills fills).recordFill trade := by
  simp [recordFills]

/-! ### Recorded fills -/

theorem applyPosition_trades (ledger : TradeLedger) (trade : TradeRecord) :
    (ledger.applyPosition trade).trades = ledger.trades := by
  unfold applyPosition
  dsimp only
  split_ifs <;> rfl

theorem applyFill_trades (ledger : TradeLedger) (trade : TradeRecord) :
    (ledger.applyFill trade).trades = ledger.trades := by
  rw [← applyPosition_trades ledger trade]
  unfold applyFill clearEntry openEntry
  dsimp only
  split_ifs <;> rfl

theorem recordFill_trades (ledger : TradeLedger) (trade : TradeRecord) :
    (ledger.recordFill trade).trades = ledger.trades ++ [trade] := by
  show (ledger.applyFill trade).trades ++ [trade] = _
  rw [applyFill_trades]

/-! ### Whole quantities -/

/-- Fills move whole lots, so a quantity below `epsilon` is zero. -/
theorem flatQty_intCast (z : ℤ) : flatQty (z : ℚ) = decide ((z : ℚ) = 0) := by
  unfold flatQty
  congr 1
  refine propext ⟨fun h => ?_, fun h => by rw [h, abs_zero]; norm_num [epsilon]⟩
  have hlt : |(z : ℚ)| < 1 := lt_of_le_of_lt h (by norm_num [epsilon])
  have hz : |z| < 1 := by exact_mod_cast hlt
  exact_mod_cast Int.abs_lt_one_iff.mp hz

def Whole (ledger : TradeLedger) : Prop := ∃ z : ℤ, ledger.positionQty = z

variable {ledger : TradeLedger}

theorem flatQty_eq (h : ledger.Whole) :
    flatQty ledger.positionQty = decide (ledger.positionQty = 0) := by
  obtain ⟨z, hz⟩ := h
  rw [hz]
  exact flatQty_intCast z

theorem averagePrice_eq (h : ledger.Whole) : ledger.averagePrice = ledger.position.average := by
  have hflat := flatQty_eq h
  have hiff : |ledger.positionQty| ≤ epsilon ↔ ledger.positionQty = 0 := by
    simpa using decide_eq_decide.mp hflat
  unfold averagePrice Position.average position
  by_cases hz : ledger.positionQty = 0
  · rw [if_pos (hiff.mpr hz), hz, div_zero]
  · rw [if_neg (mt hiff.mp hz)]

theorem signum_ne_iff {x y : ℚ} (hx : x ≠ 0) (hy : y ≠ 0) :
    (signum x != signum y) = decide (x * y < 0) := by
  rcases lt_or_gt_of_ne hx with hx | hx <;> rcases lt_or_gt_of_ne hy with hy | hy
  · have := mul_pos_of_neg_of_neg hx hy
    simp [signum, not_le.mpr hx, not_le.mpr hy, not_lt.mpr this.le]
  · have := mul_neg_of_neg_of_pos hx hy
    simp [signum, not_le.mpr hx, hy.le, this]
    norm_num
  · have := mul_neg_of_pos_of_neg hx hy
    simp [signum, hx.le, not_le.mpr hy, this]
    norm_num
  · have := mul_pos hx hy
    simp [signum, hx.le, hy.le, not_lt.mpr this.le]

/-! ### The running accounting -/

/-- A purchase covers a short position, and what is left of it opens a long one. -/
theorem applyPosition_cover (hw : ledger.Whole) (hs : trade.side = "buy") (hpos : 0 < trade.qty)
    (hneg : ledger.positionQty < 0) :
    (ledger.applyPosition trade).position = ledger.position.fill trade.toFill := by
  have hfq := toFill_qty_of_buy hs
  have hopp : ledger.position.Opposes trade.toFill := by
    rw [Position.Opposes, hfq]
    exact mul_neg_of_neg_of_pos hneg hpos
  have habs : |ledger.positionQty| = -ledger.positionQty := abs_of_neg hneg
  have hcost : ledger.position.average * ledger.positionQty = ledger.positionCost :=
    Position.average_mul_qty hopp.qty_ne_zero
  simp only [applyPosition, hs, hneg, habs, averagePrice_eq hw, ↓reduceIte]
  rcases hopp.reduces_or_closes with hr | hc
  · have hlt : trade.qty < -ledger.positionQty := by
      have hq := hr.2
      rwa [hfq, abs_of_pos hpos, position, habs] at hq
    rw [Position.fill_of_reduces hr, hfq, min_eq_left hlt.le, sub_self, if_neg (lt_irrefl _)]
    rfl
  · have hle : -ledger.positionQty ≤ trade.qty := by
      have hq := hc.2
      rwa [hfq, abs_of_pos hpos, position, habs] at hq
    rw [Position.fill_of_closes hc, hfq, min_eq_right hle]
    rcases hle.eq_or_lt with heq | hlt
    · rw [← heq, sub_self, if_neg (lt_irrefl _)]
      ext <;> simp only [position, TradeRecord.toFill] at hcost ⊢ <;> linarith
    · rw [if_pos (sub_pos.mpr hlt)]
      ext <;> simp only [position, TradeRecord.toFill] at hcost ⊢ <;> linarith

/-- A sale closes a long position, and what is left of it opens a short one. -/
theorem applyPosition_close (hw : ledger.Whole) (hs : trade.side = "sell") (hpos : 0 < trade.qty)
    (hlong : 0 < ledger.positionQty) :
    (ledger.applyPosition trade).position = ledger.position.fill trade.toFill := by
  have hfq := toFill_qty_of_sell hs
  have hopp : ledger.position.Opposes trade.toFill := by
    rw [Position.Opposes, hfq]
    exact mul_neg_of_pos_of_neg hlong (neg_lt_zero.mpr hpos)
  have habs : |ledger.positionQty| = ledger.positionQty := abs_of_pos hlong
  have hcost : ledger.position.average * ledger.positionQty = ledger.positionCost :=
    Position.average_mul_qty hopp.qty_ne_zero
  simp only [applyPosition, sell_ne_buy, hs, hlong, averagePrice_eq hw, ↓reduceIte]
  rcases hopp.reduces_or_closes with hr | hc
  · have hlt : trade.qty < ledger.positionQty := by
      have hq := hr.2
      rwa [hfq, abs_neg, abs_of_pos hpos, position, habs] at hq
    rw [Position.fill_of_reduces hr, hfq, min_eq_left hlt.le, sub_self, if_neg (lt_irrefl _)]
    ext <;> simp only [position, TradeRecord.toFill] <;> ring
  · have hle : ledger.positionQty ≤ trade.qty := by
      have hq := hc.2
      rwa [hfq, abs_neg, abs_of_pos hpos, position, habs] at hq
    rw [Position.fill_of_closes hc, hfq, min_eq_right hle]
    rcases hle.eq_or_lt with heq | hlt
    · rw [← heq, sub_self, if_neg (lt_irrefl _)]
      ext <;> simp only [position, TradeRecord.toFill] at hcost ⊢ <;> linarith
    · rw [if_pos (sub_pos.mpr hlt)]
      ext <;> simp only [position, TradeRecord.toFill] at hcost ⊢ <;> linarith

/-- The running accounting of the code is average-cost accounting. -/
theorem applyPosition_position (hw : ledger.Whole) (ht : trade.IsFill) :
    (ledger.applyPosition trade).position = ledger.position.fill trade.toFill := by
  have hpos := ht.qty_pos
  rcases ht.side with hs | hs
  · by_cases hneg : ledger.positionQty < 0
    · exact applyPosition_cover hw hs hpos hneg
    · have hfq := toFill_qty_of_buy hs
      have hadd : ¬ ledger.position.Opposes trade.toFill := by
        rw [Position.Opposes, hfq, not_lt]
        exact mul_nonneg (not_lt.mp hneg) hpos.le
      rw [Position.fill_of_not_opposes hadd, hfq]
      simp only [applyPosition, hs, hneg, ↓reduceIte]
      rfl
  · by_cases hlong : 0 < ledger.positionQty
    · exact applyPosition_close hw hs hpos hlong
    · have hfq := toFill_qty_of_sell hs
      have hadd : ¬ ledger.position.Opposes trade.toFill := by
        rw [Position.Opposes, hfq, not_lt]
        exact mul_nonneg_of_nonpos_of_nonpos (not_lt.mp hlong) (neg_nonpos.mpr hpos.le)
      rw [Position.fill_of_not_opposes hadd, hfq]
      simp only [applyPosition, sell_ne_buy, hs, hlong, ↓reduceIte]
      ext <;> simp only [position, TradeRecord.toFill] <;> ring

/-- `applyPosition` touches the running accounting only. -/
theorem applyPosition_frame (ledger : TradeLedger) (trade : TradeRecord) :
    (ledger.applyPosition trade).closedTrades = ledger.closedTrades ∧
    (ledger.applyPosition trade).entryPrice = ledger.entryPrice ∧
    (ledger.applyPosition trade).entrySide = ledger.entrySide := by
  simp only [applyPosition]
  split_ifs <;> exact ⟨rfl, rfl, rfl⟩

/-! ### The closed round trips -/

def openSide (qty : ℚ) : String := if 0 < qty then "buy" else "sell"

/-- What `applyFill` keeps true of a ledger: whole lots, nothing open costs nothing, and the
entry data of an open position is its unit cost and its side. -/
structure Tracked (ledger : TradeLedger) : Prop where
  whole : ledger.Whole
  balanced : ledger.position.Balanced
  priced : ledger.position.Priced
  entryPrice : ledger.positionQty ≠ 0 → ledger.entryPrice = ledger.position.average
  entrySide : ledger.positionQty ≠ 0 → ledger.entrySide = some (openSide ledger.positionQty)

theorem tracked_default : Tracked default where
  whole := ⟨0, by simp [default]⟩
  balanced := fun _ => rfl
  priced := fun h => absurd rfl h
  entryPrice := fun h => absurd rfl h
  entrySide := fun h => absurd rfl h

theorem whole_applyPosition (hw : ledger.Whole) (ht : trade.IsFill) :
    (ledger.applyPosition trade).Whole := by
  obtain ⟨z, hz⟩ := hw
  obtain ⟨lots, -, hqty⟩ := ht.qty
  have hq : (ledger.applyPosition trade).positionQty = ledger.positionQty + trade.toFill.qty :=
    congrArg Position.qty (applyPosition_position ⟨z, hz⟩ ht)
  rcases ht.side with hs | hs
  · refine ⟨z + lots, ?_⟩
    rw [hq, toFill_qty_of_buy hs, hqty, hz]
    push_cast
    ring
  · refine ⟨z - lots, ?_⟩
    rw [hq, toFill_qty_of_sell hs, hqty, hz]
    push_cast
    ring

/-- The closing branch of `applyFill` runs exactly on the fills that close the position. -/
theorem closing_eq (hw : ledger.Whole) (ht : trade.IsFill) :
    (!flatQty ledger.positionQty && (flatQty (ledger.applyPosition trade).positionQty ||
      flippedQty ledger.positionQty (ledger.applyPosition trade).positionQty)) =
      decide (ledger.position.Closes trade.toFill) := by
  have hq : (ledger.applyPosition trade).positionQty = ledger.positionQty + trade.toFill.qty :=
    congrArg Position.qty (applyPosition_position hw ht)
  have hiff := Position.closes_iff ledger.position trade.toFill
  rw [flippedQty, flatQty_eq hw, flatQty_eq (whole_applyPosition hw ht), hq, Bool.eq_iff_iff,
    decide_eq_true_iff, hiff]
  by_cases hb : ledger.positionQty = 0
  · simp [hb, position]
  · by_cases ha : ledger.positionQty + trade.toFill.qty = 0
    · simp [hb, ha, position]
    · rw [signum_ne_iff hb ha]
      have hne : ledger.positionQty * (ledger.positionQty + trade.toFill.qty) ≠ 0 :=
        mul_ne_zero hb ha
      simp [hb, ha, position, le_iff_lt_or_eq]

/-- The round trip closed by a fill is priced at the unit cost of the position. -/
theorem closedRecord_pnlGross (h : ledger.Tracked) (hc : ledger.position.Closes trade.toFill)
    (avg : ℚ) (flipped : Bool) (ratio : ℚ) :
    0 < ((ledger.applyPosition trade).closedRecord ledger.positionQty avg flipped ratio
      trade).entryPrice ∧
    ((ledger.applyPosition trade).closedRecord ledger.positionQty avg flipped ratio
      trade).pnlGross = ledger.position.closingGain trade.toFill := by
  have hne : ledger.positionQty ≠ 0 := hc.1.qty_ne_zero
  obtain ⟨-, hprice, hside⟩ := applyPosition_frame ledger trade
  have hpos : 0 < ledger.position.average := h.priced hne
  simp only [closedRecord, hprice, hside, h.entryPrice hne, h.entrySide hne, hpos, ↓reduceIte,
    Option.getD_some, true_and, Position.closingGain, hc, openSide]
  rcases lt_or_gt_of_ne hne with hx | hx
  · rw [if_neg (not_lt.mpr hx.le), if_neg sell_ne_buy, abs_of_neg hx]
    simp only [position, TradeRecord.toFill]
    ring
  · rw [if_pos hx, if_pos rfl, abs_of_pos hx]
    rfl

theorem tracked_of_position {after : TradeLedger} (h : ledger.Tracked) (ht : trade.IsFill)
    (hpos : after.position = (ledger.applyPosition trade).position)
    (hentry : after.positionQty ≠ 0 → after.entryPrice = |after.averagePrice| ∧
      after.entrySide = some (openSide after.positionQty)) : after.Tracked := by
  have hfill := hpos.trans (applyPosition_position h.whole ht)
  have hw : after.Whole := by
    obtain ⟨z, hz⟩ := whole_applyPosition h.whole ht
    exact ⟨z, (congrArg Position.qty hpos).trans hz⟩
  have hpriced : after.position.Priced := by
    rw [hfill]
    exact h.priced.fill h.balanced ht.price
  refine ⟨hw, ?_, hpriced, fun hne => ?_, fun hne => (hentry hne).2⟩
  · rw [hfill]
    exact h.balanced.fill _
  · rw [(hentry hne).1, averagePrice_eq hw, abs_of_pos (hpriced hne)]

/-- What a fill does besides the running accounting: it closes the round trip and opens the other
side, closes it, opens a position, or adds to or reduces one. -/
theorem applyFill_cases (h : ledger.Tracked) (ht : trade.IsFill) :
    (ledger.position.Closes trade.toFill ∧ (ledger.applyPosition trade).positionQty ≠ 0 ∧
      ∃ avg ratio, ledger.applyFill trade = openEntry (clearEntry { ledger.applyPosition trade with
          closedTrades := ledger.closedTrades ++ [(ledger.applyPosition trade).closedRecord
            ledger.positionQty avg true ratio trade] })
          (openSide (ledger.applyPosition trade).positionQty) (trade.commission * (1 - ratio))
          trade) ∨
    (ledger.position.Closes trade.toFill ∧ (ledger.applyPosition trade).positionQty = 0 ∧
      ∃ avg ratio, ledger.applyFill trade = clearEntry { ledger.applyPosition trade with
          closedTrades := ledger.closedTrades ++ [(ledger.applyPosition trade).closedRecord
            ledger.positionQty avg false ratio trade] }) ∨
    (¬ ledger.position.Closes trade.toFill ∧ (ledger.applyPosition trade).positionQty ≠ 0 ∧
      ledger.positionQty = 0 ∧
      ledger.applyFill trade =
        (ledger.applyPosition trade).openEntry trade.side trade.commission trade) ∨
    (¬ ledger.position.Closes trade.toFill ∧ (ledger.applyPosition trade).positionQty ≠ 0 ∧
      ledger.positionQty ≠ 0 ∧
      ledger.applyFill trade = { ledger.applyPosition trade with
        entryPrice := |(ledger.applyPosition trade).averagePrice|
        openCommissionTotal :=
          (ledger.applyPosition trade).openCommissionTotal + trade.commission }) := by
  have hclosing := closing_eq h.whole ht
  have hafter := flatQty_eq (whole_applyPosition h.whole ht)
  by_cases hc : ledger.position.Closes trade.toFill
  · have hrec := closedRecord_pnlGross h hc
    simp only [hc, decide_true] at hclosing
    simp only [hc, true_and, not_true_eq_false, false_and, or_false, applyFill, hclosing,
      ↓reduceIte, if_pos (hrec _ _ _).1, (applyPosition_frame ledger trade).1]
    cases hflip : flippedQty ledger.positionQty (ledger.applyPosition trade).positionQty with
    | true =>
      refine .inl ⟨fun hzero => ?_, _, _, rfl⟩
      rw [flippedQty, hafter, hzero] at hflip
      simp at hflip
    | false =>
      -- not past zero: the fill leaves nothing open
      rw [hflip, Bool.or_false, hafter] at hclosing
      exact .inr ⟨by simpa using (Bool.and_eq_true_iff.mp hclosing).2, _, _, rfl⟩
  · have hq : (ledger.applyPosition trade).positionQty = ledger.positionQty + trade.toFill.qty :=
      congrArg Position.qty (applyPosition_position h.whole ht)
    simp only [hc, decide_false] at hclosing
    simp only [hc, false_and, false_or, not_false_eq_true, true_and, applyFill, hclosing,
      Bool.false_eq_true, ↓reduceIte]
    rw [flatQty_eq h.whole, hafter]
    have hopen : (ledger.applyPosition trade).positionQty ≠ 0 := by
      intro hzero
      by_cases hb : ledger.positionQty = 0
      · rw [hq, hb, zero_add] at hzero
        have hqty := ht.qty_pos
        rcases ht.side with hs | hs
        · rw [toFill_qty_of_buy hs] at hzero
          linarith
        · rw [toFill_qty_of_sell hs] at hzero
          linarith
      · refine hc ((Position.closes_iff _ _).mpr ⟨hb, ?_⟩)
        change ledger.positionQty * (ledger.positionQty + trade.toFill.qty) ≤ 0
        rw [← hq, hzero, mul_zero]
    by_cases hb : ledger.positionQty = 0
    · exact .inl ⟨hopen, hb, by simp [hb, hopen]⟩
    · exact .inr ⟨hopen, hb, by simp [hb, hopen]⟩

/-- A fill adds to the closed round trips what it closes. -/
theorem applyFill_spec (h : ledger.Tracked) (ht : trade.IsFill) :
    (ledger.applyFill trade).Tracked ∧
    (ledger.applyFill trade).position = (ledger.applyPosition trade).position ∧
    (ledger.applyFill trade).closedPnl =
      ledger.closedPnl + ledger.position.closingGain trade.toFill := by
  have hq : (ledger.applyPosition trade).positionQty = ledger.positionQty + trade.toFill.qty :=
    congrArg Position.qty (applyPosition_position h.whole ht)
  obtain ⟨hframe, -, hside⟩ := applyPosition_frame ledger trade
  rcases applyFill_cases h ht with ⟨hc, -, avg, ratio, heq⟩ | ⟨hc, hzero, avg, ratio, heq⟩ |
    ⟨hc, -, hb, heq⟩ | ⟨hc, -, hb, heq⟩ <;> rw [heq]
  · refine ⟨tracked_of_position h ht rfl fun _ => ⟨rfl, rfl⟩, rfl, ?_⟩
    simp [closedPnl, openEntry, clearEntry, (closedRecord_pnlGross h hc _ _ _).2]
  · refine ⟨tracked_of_position h ht rfl fun hne => absurd hzero hne, rfl, ?_⟩
    simp [closedPnl, clearEntry, (closedRecord_pnlGross h hc _ _ _).2]
  · refine ⟨tracked_of_position h ht rfl fun _ => ⟨rfl, ?_⟩, rfl,
      by simp [closedPnl, openEntry, hframe, Position.closingGain, hc]⟩
    have hpos := ht.qty_pos
    change some trade.side = some (openSide (ledger.applyPosition trade).positionQty)
    rw [hq, hb, zero_add]
    rcases ht.side with hs | hs
    · rw [toFill_qty_of_buy hs, openSide, if_pos hpos, hs]
    · rw [toFill_qty_of_sell hs, openSide, if_neg (by linarith), hs]
  · refine ⟨tracked_of_position h ht rfl fun _ => ⟨rfl, ?_⟩, rfl,
      by simp [closedPnl, hframe, Position.closingGain, hc]⟩
    have hsame : 0 < ledger.positionQty * (ledger.applyPosition trade).positionQty := by
      rw [hq]
      by_contra hle
      exact hc ((Position.closes_iff _ _).mpr ⟨hb, not_lt.mp hle⟩)
    change (ledger.applyPosition trade).entrySide = _
    rw [hside, h.entrySide hb]
    rcases lt_or_gt_of_ne hb with hx | hx
    · have hy := neg_of_mul_pos_right hsame hx.le
      simp only [openSide, not_lt.mpr hx.le, not_lt.mpr hy.le, ↓reduceIte]
    · have hy := pos_of_mul_pos_right hsame hx.le
      simp only [openSide, hx, hy, ↓reduceIte]

/-- One fill: the running accounting takes an average-cost step, and the closed round trips
grow by what the fill closes. -/
theorem recordFill_spec (h : ledger.Tracked) (ht : trade.IsFill) :
    (ledger.recordFill trade).Tracked ∧
    (ledger.recordFill trade).position = ledger.position.fill trade.toFill ∧
    (ledger.recordFill trade).closedPnl =
      ledger.closedPnl + ledger.position.closingGain trade.toFill := by
  obtain ⟨⟨hwhole, hbal, hpriced, hprice, hside⟩, hpos, hpnl⟩ := applyFill_spec h ht
  exact ⟨⟨hwhole, hbal, hpriced, hprice, hside⟩,
    hpos.trans (applyPosition_position h.whole ht), hpnl⟩

/-! ### Sequences of fills -/

variable {fills : List TradeRecord}

/-- A sequence of fills: the running accounting is average-cost accounting, the closed round
trips carry the closing gains. -/
theorem recordFills_spec (h : ∀ t ∈ fills, t.IsFill) :
    (recordFills fills).Tracked ∧
    (recordFills fills).position = Position.empty.fills (fills.map TradeRecord.toFill) ∧
    (recordFills fills).closedPnl = Position.empty.closingGains (fills.map TradeRecord.toFill) := by
  induction fills using List.reverseRecOn with
  | nil => exact ⟨tracked_default, rfl, rfl⟩
  | append_singleton fills trade ih =>
    obtain ⟨htr, hpos, hpnl⟩ := ih fun t ht => h t (List.mem_append_left _ ht)
    obtain ⟨htr', hpos', hpnl'⟩ := recordFill_spec htr (h trade (by simp))
    rw [recordFills_concat, List.map_append]
    refine ⟨htr', ?_, ?_⟩
    · rw [hpos', hpos, Position.fills_append]
      rfl
    · rw [hpnl', hpnl, hpos, Position.closingGains_append]
      simp [Position.closingGains]

/-- Total sell proceeds less total buy cost. -/
def netProceeds (fills : List TradeRecord) : ℚ := cash (fills.map TradeRecord.toFill)

def netLots (fills : List TradeRecord) : ℚ := netQty (fills.map TradeRecord.toFill)

/-- What the fills that reduce a position without closing it gain over its unit cost. -/
def partialGains (fills : List TradeRecord) : ℚ :=
  Position.empty.reductionGains (fills.map TradeRecord.toFill)

/-- At a flat point the running profit is what the fills paid. -/
theorem realizedPnl_of_flat (h : ∀ t ∈ fills, t.IsFill) (hflat : netLots fills = 0) :
    (recordFills fills).realizedPnl = netProceeds fills := by
  have hpos := (recordFills_spec h).2.1
  have hreal := Position.realized_of_flat _ hflat
  rw [← hpos] at hreal
  exact hreal

theorem positionQty_recordFills (h : ∀ t ∈ fills, t.IsFill) :
    (recordFills fills).positionQty = netLots fills := by
  have hpos := congrArg Position.qty (recordFills_spec h).2.1
  rw [Position.fills_qty] at hpos
  simpa [position, netLots, Position.empty] using hpos

/-- The closed round trips miss exactly the gains of the partial reductions. -/
theorem closedPnl_recordFills (h : ∀ t ∈ fills, t.IsFill) :
    (recordFills fills).realizedPnl = (recordFills fills).closedPnl + partialGains fills := by
  obtain ⟨-, hpos, hpnl⟩ := recordFills_spec h
  have hreal := congrArg Position.realized hpos
  rw [Position.fills_realized_split] at hreal
  rw [hpnl, partialGains]
  rw [add_comm, ← zero_add (Position.reductionGains _ _)]
  exact hreal

/-- Whenever the position is flat, the closed round trips add up to the realised profit, and
that is the net proceeds of the fills. -/
def ClosedPnlAccounts (fills : List TradeRecord) : Prop :=
  ∀ done, done <+: fills → flatQty (recordFills done).positionQty = true →
    (recordFills done).closedPnl = (recordFills done).realizedPnl ∧
    (recordFills done).realizedPnl = netProceeds done

/-- The round trips account for every fill exactly where, at each flat point, the partial
reductions so far gained nothing in total. -/
theorem closedPnlAccounts_iff {fills : List TradeRecord} (h : ∀ t ∈ fills, t.IsFill) :
    ClosedPnlAccounts fills ↔
      ∀ done, done <+: fills → netLots done = 0 → partialGains done = 0 := by
  refine forall₂_congr fun done hdone => ?_
  have hfill : ∀ t ∈ done, t.IsFill := fun t ht => h t (hdone.subset ht)
  have hsplit := closedPnl_recordFills hfill
  rw [flatQty_eq (recordFills_spec hfill).1.whole, positionQty_recordFills hfill,
    decide_eq_true_iff]
  refine imp_congr_right fun hflat => ?_
  rw [and_iff_left (realizedPnl_of_flat hfill hflat), hsplit, left_eq_add]

/-! ### Conservation -/

/-- The commissions of the closed round trips and of the open position. -/
def commissions (ledger : TradeLedger) : ℚ :=
  (ledger.closedTrades.map (·.commissionTotal)).sum + ledger.openCommissionTotal

theorem applyPosition_openCommissionTotal (ledger : TradeLedger) (trade : TradeRecord) :
    (ledger.applyPosition trade).openCommissionTotal = ledger.openCommissionTotal := by
  simp only [applyPosition]
  split_ifs <;> rfl

/-- A fill adds its commission: to the open position, to the round trip that it closes, or in two
parts where it closes one side and opens the other. -/
theorem applyFill_commissions (h : ledger.Tracked) (ht : trade.IsFill)
    (hflat : ledger.positionQty = 0 → ledger.openCommissionTotal = 0) :
    (ledger.applyFill trade).commissions = ledger.commissions + trade.commission ∧
    ((ledger.applyFill trade).positionQty = 0 →
      (ledger.applyFill trade).openCommissionTotal = 0) := by
  have hframe := (applyPosition_frame ledger trade).1
  have hopen := applyPosition_openCommissionTotal ledger trade
  rcases applyFill_cases h ht with ⟨-, hne, avg, ratio, heq⟩ | ⟨-, -, avg, ratio, heq⟩ |
    ⟨-, hne, hb, heq⟩ | ⟨-, hne, -, heq⟩ <;> rw [heq]
  · -- the share of the closed leg and the rest are the whole commission
    refine ⟨?_, fun hzero => absurd hzero hne⟩
    simp only [commissions, openEntry, clearEntry, closedRecord, hopen, ↓reduceIte,
      List.map_append, List.sum_append, List.map_cons, List.map_nil, List.sum_cons, List.sum_nil]
    ring
  · refine ⟨?_, fun _ => rfl⟩
    simp only [commissions, clearEntry, closedRecord, hopen, Bool.false_eq_true, ↓reduceIte,
      List.map_append, List.sum_append, List.map_cons, List.map_nil, List.sum_cons, List.sum_nil]
    ring
  · refine ⟨?_, fun hzero => absurd hzero hne⟩
    simp only [commissions, openEntry, hframe, hflat hb, add_zero]
  · refine ⟨?_, fun hzero => absurd hzero hne⟩
    simp only [commissions, hframe, hopen, add_assoc]

theorem commissions_recordFills (h : ∀ t ∈ fills, t.IsFill) :
    (recordFills fills).commissions = (fills.map (·.commission)).sum ∧
    ((recordFills fills).positionQty = 0 → (recordFills fills).openCommissionTotal = 0) := by
  induction fills using List.reverseRecOn with
  | nil => exact ⟨add_zero 0, fun _ => rfl⟩
  | append_singleton fills trade ih =>
    have hbefore := fun t ht => h t (List.mem_append_left [trade] ht)
    obtain ⟨hsum, hflat⟩ := ih hbefore
    obtain ⟨hadded, hflat'⟩ :=
      applyFill_commissions (recordFills_spec hbefore).1 (h trade (by simp)) hflat
    rw [recordFills_concat]
    refine ⟨?_, hflat'⟩
    show ((recordFills fills).applyFill trade).commissions = _
    rw [hadded, hsum, List.map_append, List.sum_append, List.map_singleton, List.sum_singleton]

/-- What the accumulators say about the fills: lots, cash and commissions are conserved, and the cost
of the position has its sign. -/
structure Conserves (fills : List TradeRecord) : Prop where
  positionQty : (recordFills fills).positionQty = netLots fills
  cash : (recordFills fills).realizedPnl - (recordFills fills).positionCost = netProceeds fills
  sign : SignType.sign (recordFills fills).positionCost =
    SignType.sign (recordFills fills).positionQty
  commission : ((recordFills fills).closedTrades.map (·.commissionTotal)).sum +
    (recordFills fills).openCommissionTotal = (fills.map (·.commission)).sum

/-- The ledger conserves any sequence of fills. -/
theorem conserves {fills : List TradeRecord} (h : ∀ t ∈ fills, t.IsFill) : Conserves fills := by
  obtain ⟨htracked, hposition, _⟩ := recordFills_spec h
  refine ⟨positionQty_recordFills h, ?_, ?_, (commissions_recordFills h).1⟩
  · have hcash := Position.fills_realized Position.empty (fills.map TradeRecord.toFill)
    rw [← hposition] at hcash
    simpa [Position.empty, netProceeds, position] using hcash
  · by_cases hzero : (recordFills fills).positionQty = 0
    · have hcost : (recordFills fills).positionCost = 0 := htracked.balanced hzero
      rw [hcost, hzero]
    · -- the cost of a unit is positive
      have hcost : (recordFills fills).position.average * (recordFills fills).positionQty =
          (recordFills fills).positionCost := Position.average_mul_qty hzero
      rw [← hcost, sign_mul, sign_pos (htracked.priced hzero), one_mul]

def roundTrip : List TradeRecord :=
  [⟨1, 1, "IMOEXF", "buy", 2, 100, 0, true, none⟩,
    ⟨2, 2, "IMOEXF", "sell", 2, 110, 0, true, none⟩]

theorem isFill_of_mem_roundTrip : ∀ t ∈ roundTrip, t.IsFill := by
  intro t ht
  rcases List.mem_pair.mp ht with rfl | rfl
  · exact ⟨.inl rfl, ⟨2, by decide, by norm_num⟩, by norm_num⟩
  · exact ⟨.inr rfl, ⟨2, by decide, by norm_num⟩, by norm_num⟩

theorem roundTrip_conserves : Conserves roundTrip := conserves isFill_of_mem_roundTrip

theorem roundTrip_closedPnlAccounts : ClosedPnlAccounts roundTrip := by
  refine (closedPnlAccounts_iff isFill_of_mem_roundTrip).mpr fun done hdone => ?_
  have hall : ∀ done ∈ roundTrip.inits, netLots done = 0 → partialGains done = 0 := by
    decide +kernel
  exact hall done ((List.mem_inits _ _).mpr hdone)

/-- A position of two lots sold lot by lot at two prices. -/
def partialExit : List TradeRecord :=
  [⟨1, 1, "IMOEXF", "buy", 2, 100, 0, true, none⟩,
    ⟨2, 2, "IMOEXF", "sell", 1, 110, 0, true, none⟩,
    ⟨3, 3, "IMOEXF", "sell", 1, 120, 0, true, none⟩]

/-- The round trip of `partialExit` reports `20` of the `30` realised. -/
theorem partialExit_closedPnl :
    (∀ t ∈ partialExit, t.IsFill ∧ t.symbol = "IMOEXF") ∧ ¬ ClosedPnlAccounts partialExit := by
  constructor
  · intro t ht
    simp only [partialExit, List.mem_cons, List.not_mem_nil, or_false] at ht
    rcases ht with rfl | rfl | rfl
    · exact ⟨⟨.inl rfl, ⟨2, by decide, by norm_num⟩, by norm_num⟩, rfl⟩
    all_goals exact ⟨⟨.inr rfl, ⟨1, by decide, by norm_num⟩, by norm_num⟩, rfl⟩
  · intro h
    have hflat : flatQty (recordFills partialExit).positionQty = true := by decide +kernel
    have hpnl : (recordFills partialExit).closedPnl = 20 := by decide +kernel
    have hreal : (recordFills partialExit).realizedPnl = 30 := by decide +kernel
    have heq := (h partialExit (List.prefix_refl _) hflat).1
    rw [hpnl, hreal] at heq
    norm_num at heq

/-! ### Reports -/

section Reports

open Reports ClosedTradeRecord

theorem before_of_key {left right : ClosedTradeRecord} (h : left.key = right.key) :
    Before left right := by
  obtain ⟨hentry, hexit, hsymbol, hside, -⟩ := ClosedTradeKey.mk.inj h
  have hplace : left.place = right.place := by rw [place, place, hentry, hexit, hsymbol, hside]
  exact hplace.le

/-- What each file of reports is like: one row for a key, in order. -/
structure Written (file : List ClosedTradeRecord) : Prop where
  sorted : file.Pairwise Before
  nodup : (file.map key).Nodup

variable {file : List ClosedTradeRecord}

theorem written_reportTrades {append : Bool} : Written (ledger.reportTrades file append) where
  sorted := (List.pairwise_insertionSort Before _).sublist reports_sublist
  nodup := nodup_map_reports

/-- The rows of a file stay, and the round trips with other keys come in between. -/
theorem reportTrades_append (h : Written file) :
    ledger.reportTrades file true =
      (file ++ reports key (file.map key) ledger.closedTrades).insertionSort Before := by
  have hfile : reports key [] file = file := reports_eq_self (by simpa using h.nodup)
  have hknown : ∀ k, k ∈ knownAfter key [] file ↔ k ∈ file.map key := by simp [knownAfter, hfile]
  show reports key [] ((file ++ ledger.closedTrades).insertionSort Before) = _
  rw [reports_insertionSort before_of_key, reports_append, hfile, reports_congr hknown]

/-- A report has the rows of the file and the first round trip for each other key, in the order of the
entries, and the next one is the same. -/
theorem persistReports_append (earlier ledger : TradeLedger) (old : List ClosedTradeRecord)
    (append : Bool) (strategyId symbol : String) :
    let file := (earlier.persistReports strategyId symbol old append).1
    let report := (ledger.persistReports strategyId symbol file true).1
    report.Perm (file ++ reports key (file.map key) ledger.closedTrades) ∧
      report.Pairwise (fun row later => row.entryTsUtc ≤ later.entryTsUtc) ∧
      ledger.persistReports strategyId symbol report true =
        ledger.persistReports strategyId symbol file true := by
  intro file report
  have hfile : Written file := written_reportTrades
  have hreport : Written report := written_reportTrades
  have hrows : report = _ := reportTrades_append hfile
  refine ⟨?_, hreport.sorted.imp fun hbefore => ?_, ?_⟩
  · rw [hrows]
    exact List.perm_insertionSort _ _
  · rcases Prod.Lex.le_iff.mp hbefore with hlt | ⟨heq, -⟩
    · exact hlt.le
    · exact heq.le
  · -- every key of the ledger is in the report
    have hknown : ∀ trade ∈ ledger.closedTrades, trade.key ∈ report.map key := by
      intro trade hmem
      rw [hrows, ((List.perm_insertionSort _ _).map _).mem_iff, List.map_append]
      by_cases hold : trade.key ∈ file.map key
      · exact List.mem_append_left _ hold
      · obtain ⟨kept, hkept, heq⟩ := exists_mem_reports hmem hold
        exact List.mem_append_right _ (heq ▸ List.mem_map_of_mem hkept)
    have hsame : ledger.reportTrades report true = report := by
      rw [reportTrades_append hreport, reports_eq_nil hknown, List.append_nil,
        hreport.sorted.insertionSort_eq]
    exact congrArg (fun rows => (rows, summaryForTrades strategyId symbol rows)) hsame

/-- Two round trips in the same second, which differ in a comment only. -/
def twoTrips : List TradeRecord :=
  [⟨1, 1, "IMOEXF", "buy", 1, 100, 0, true, some "first"⟩,
    ⟨1, 2, "IMOEXF", "sell", 1, 110, 0, true, none⟩,
    ⟨1, 3, "IMOEXF", "buy", 1, 100, 0, true, none⟩,
    ⟨1, 4, "IMOEXF", "sell", 1, 110, 0, true, none⟩]

/-- One of the two is not reported. -/
theorem twoTrips_lost :
    (recordFills twoTrips).closedTrades.Nodup ∧
      ¬((recordFills twoTrips).persistReports "shadow" "IMOEXF" [] true).1.Perm
        (recordFills twoTrips).closedTrades := by
  refine ⟨by decide +kernel, fun h => ?_⟩
  have hrows : ((recordFills twoTrips).persistReports "shadow" "IMOEXF" [] true).1 =
      (reports key [] (recordFills twoTrips).closedTrades).insertionSort Before :=
    reports_insertionSort before_of_key _
  have hkept : (reports key [] (recordFills twoTrips).closedTrades).length ≠
      (recordFills twoTrips).closedTrades.length := by decide +kernel
  rw [hrows] at h
  exact hkept ((List.length_insertionSort Before _).symm.trans h.length_eq)

end Reports

end TradeLedger

end AlorRs
