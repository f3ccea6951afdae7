import AlorRs.Lib.Intervals
import AlorRs.StrategyRuntime.MoexAuthor4142.Author42

/-!
# The combination of Author41 and Author42

The trades of both sides of Author41 are taken as long as they lie apart, and those of Author42 as
long as they do not overlap one of them on its day.  The journal lists all of them with the decision
on each, the replay keeps those that are accepted.
-/

namespace AlorRs.MoexAuthor4142

/-! ### Author41 on both sides -/

variable (bars : List ModelBar) (policy : RegularSessionPolicy) (profile : ModelProfile)
  (shortConfig author41Short : Author41Config) (trade : Author42Trade)
  (longConfig author41Long : Author41Config)

/-- Both sides of Author41, as candidates in the order of their entries. -/
def author41Candidates : List Author41Trade :=
  let filtered := modelBars policy bars
  ((replayAuthor41 filtered shortConfig policy).trades ++
    (replayAuthor41 filtered longConfig policy).trades).insertionSort fun trade trade' =>
      trade.entryTs ≤ trade'.entryTs

/-- `replay_ri_author41_dual_no_overlap_source_with_configs`.  The first moment of the calendar, from
which the source starts, is the entry of no trade: there is no day before it. -/
def replayRiAuthor41DualNoOverlapSourceWithConfigs : Author41ReplayResult :=
  let accepted := Intervals.takeApart Author41Trade.entryTs Author41Trade.exitTs none
    (author41Candidates bars policy shortConfig longConfig)
  ⟨accepted, (addAuthor41Trades (author41Rows (modelBars policy bars)) accepted).values⟩

/-! ### Profiles and records -/

inductive Instrument where
  | imoexf | ri
deriving DecidableEq

inductive ProfileId where
  | imoexfAuthor4142PrimaryComboCost2 | riAuthor4142PrimaryComboCost2
deriving DecidableEq

def ProfileId.asStr : ProfileId → String
  | .imoexfAuthor4142PrimaryComboCost2 => "imoexf_author41_42_primary_combo_cost2"
  | .riAuthor4142PrimaryComboCost2 => "ri_author41_42_primary_combo_cost2"

inductive Component where
  | author41Mr | author42Bo | combo
deriving DecidableEq

def Component.sortKey : Component → ℕ
  | .author41Mr => 0
  | .author42Bo => 1
  | .combo => 2

inductive OverlapDecision where
  | accepted | droppedMrOverlap | notApplicable
deriving DecidableEq

/-- The part of a profile that the combination reads. -/
structure ModelProfile where
  profileId : ProfileId
  instrument : Instrument
  timeframe : String
  author41Variant : String
  author42Variant : String
  author42CostPoints : ℚ
deriving DecidableEq

def ModelProfile.riShadow10m : ModelProfile where
  profileId := .riAuthor4142PrimaryComboCost2
  instrument := .ri
  timeframe := "10m"
  author41Variant := "dual_no_overlap_plateau"
  author42Variant := "grid_k0.42_both"
  author42CostPoints := 2

structure ShadowJournalRecord where
  instrument : Instrument
  profileId : ProfileId
  component : Component
  modelVariantId : String
  barTsLocal : NaiveDateTime
  timeframe : String
  prevRegularDate : Option NaiveDate
  prevClose : Option ℚ
  prevHigh : Option ℚ
  prevLow : Option ℚ
  prevRange : Option ℚ
  triggerLong : Option ℚ
  triggerShort : Option ℚ
  conditionValues : List (String × ℚ)
  side : Option ShadowSide
  skipReason : Option String
  scheduledEntryTsLocal : Option NaiveDateTime
  scheduledEntryPrice : Option ℚ
  scheduledExitTsLocal : Option NaiveDateTime
  exitReason : Option String
  overlapDecision : OverlapDecision
  shadowPnlPoints : Option ℚ
  feedQualityFlags : List String
deriving DecidableEq

def author41TradeJournalRecord (trade : Author41Trade) :
    ShadowJournalRecord where
  instrument := profile.instrument
  profileId := profile.profileId
  component := .author41Mr
  modelVariantId := profile.author41Variant
  barTsLocal := trade.entryTs
  timeframe := profile.timeframe
  prevRegularDate := none
  prevClose := none
  prevHigh := none
  prevLow := none
  prevRange := none
  triggerLong := none
  triggerShort := none
  conditionValues := []
  side := some trade.side
  skipReason := none
  scheduledEntryTsLocal := some trade.entryTs
  scheduledEntryPrice := some trade.entryPrice
  scheduledExitTsLocal := some trade.exitTs
  exitReason := some trade.exitReason
  overlapDecision := .accepted
  shadowPnlPoints := some trade.netPoints
  feedQualityFlags := []

def author42TradeJournalRecord (overlapDecision : OverlapDecision) : ShadowJournalRecord where
  instrument := profile.instrument
  profileId := profile.profileId
  component := .author42Bo
  modelVariantId := profile.author42Variant
  barTsLocal := trade.entryTs
  timeframe := profile.timeframe
  prevRegularDate := none
  prevClose := none
  prevHigh := none
  prevLow := none
  prevRange := none
  triggerLong := none
  triggerShort := none
  conditionValues := []
  side := some trade.side
  skipReason := if overlapDecision = .accepted then none else some "mr_interval_overlap"
  scheduledEntryTsLocal := some trade.entryTs
  scheduledEntryPrice := some trade.entryPrice
  scheduledExitTsLocal := some trade.exitTs
  exitReason := some trade.exitReason
  overlapDecision := overlapDecision
  shadowPnlPoints :=
    if overlapDecision = .accepted then some (trade.grossPoints - profile.author42CostPoints)
    else none
  feedQualityFlags := []

/-! ### The journal -/

def overlapsMr (mr : Author41Trade) : Bool :=
  trade.entryTs.date = mr.entryTs.date &&
    max trade.entryTs mr.entryTs < min trade.exitTs mr.exitTs

def overlapDecision (author41 : List Author41Trade) (trade : Author42Trade) : OverlapDecision :=
  if author41.any (overlapsMr trade) then .droppedMrOverlap else .accepted

/-- The order of the journal: by time, by component, then by exit. -/
def journalKey (record : ShadowJournalRecord) :
    NaiveDateTime ×ₗ ℕ ×ₗ WithBot NaiveDateTime :=
  toLex (record.barTsLocal, toLex (record.component.sortKey, record.scheduledExitTsLocal))

def buildRiAuthor4142ComboShadowJournalWithConfigs (author42Config : Author42Config)
    : List ShadowJournalRecord :=
  let profile := ModelProfile.riShadow10m
  let author41 :=
    replayRiAuthor41DualNoOverlapSourceWithConfigs bars policy author41Short author41Long
  let author42 := replayAuthor42 bars author42Config policy
  (author41.trades.map (author41TradeJournalRecord profile) ++ author42.trades.map fun trade =>
      author42TradeJournalRecord profile trade (overlapDecision author41.trades trade)).insertionSort
        fun record record' => journalKey record ≤ journalKey record'

/-! ### The replay -/

structure ComboDailyPnl where
  date : NaiveDate
  author41Pnl : ℚ
  author42Pnl : ℚ
  author41Trades : ℕ
  author42Trades : ℕ
  pnlPoints : ℚ
  trades : ℕ
deriving DecidableEq

structure ComboReplayResult where
  author41Trades : List Author41Trade
  author42Trades : List Author42Trade
  daily : List ComboDailyPnl
deriving DecidableEq

namespace ComboDailyPnl

/-- The row of a date that has none yet. -/
def empty (date : NaiveDate) : ComboDailyPnl := ⟨date, 0, 0, 0, 0, 0, 0⟩

def addAuthor41 (row : Option ComboDailyPnl) (trade : Author41Trade) : ComboDailyPnl :=
  let row := row.getD (.empty trade.exitTs.date)
  { row with author41Pnl := row.author41Pnl + trade.netPoints }

def addAuthor42 (profile : ModelProfile) (row : Option ComboDailyPnl) (trade : Author42Trade) :
    ComboDailyPnl :=
  let row := row.getD (.empty trade.exitTs.date)
  { row with
    author42Pnl := row.author42Pnl + (trade.grossPoints - profile.author42CostPoints)
    author42Trades := row.author42Trades + 1 }

/-- The row with its sums; the count of Author41 is that of active days. -/
def finish (row : ComboDailyPnl) : ComboDailyPnl :=
  let author41Trades := if 0 < |row.author41Pnl| then 1 else 0
  { row with
    author41Trades := author41Trades
    pnlPoints := row.author41Pnl + row.author42Pnl
    trades := author41Trades + row.author42Trades }

end ComboDailyPnl

def filterAuthor42NonOverlapping (candidate : List Author42Trade) (blocker : List Author41Trade) :
    List Author42Trade :=
  candidate.filter fun trade => !blocker.any (overlapsMr trade)

def replayComboFromComponents (author41 : Author41ReplayResult) (author42 : Author42ReplayResult)
    : ComboReplayResult :=
  let acceptedAuthor42 := filterAuthor42NonOverlapping author42.trades author41.trades
  let addEmpty := fun (row : Option ComboDailyPnl) date => row.getD (.empty date)
  let rows := OrderedMap.addAll id addEmpty .empty (author41.daily.map Author41DailyPnl.date)
  let rows := OrderedMap.addAll id addEmpty rows (author42.daily.map Author42DailyPnl.date)
  let rows := OrderedMap.addAll (fun trade : Author41Trade => trade.exitTs.date)
    ComboDailyPnl.addAuthor41 rows author41.trades
  let rows := OrderedMap.addAll (fun trade : Author42Trade => trade.exitTs.date)
    (ComboDailyPnl.addAuthor42 profile) rows acceptedAuthor42
  let daily := (rows.values.map ComboDailyPnl.finish).insertionSort fun row row' =>
    row.date ≤ row'.date
  ⟨author41.trades, acceptedAuthor42, daily⟩

def replayRiAuthor4142ComboCost2WithConfigs (author42 : Author42Config) : ComboReplayResult :=
  replayComboFromComponents .riShadow10m
    (replayRiAuthor41DualNoOverlapSourceWithConfigs bars policy author41Short author41Long)
    (replayAuthor42 bars author42 policy)

end AlorRs.MoexAuthor4142
