import AlorRs.StrategyRuntime.AlorUsdrubfHybrid.Events
import Mathlib.Tactic.Linarith
import Mathlib.Tactic.SplitIfs

/-!
# What an event does to the position and to what is on its way

A `Grip` is the position, the pending entry and the two flags of the commands on their way.
`BarMove`, `PositionMove` and `TimerMove` say every change that a live bar, a position of the
broker and a timer make to it, with their entries and exits; the other events send neither.
-/

namespace AlorRs.AlorUsdrubfHybrid

open AlorUsdrubfHybridStrategy

/-! ### Entries and exits among the intents -/

def marketComment : Intent → Option String
  | .market _ _ _ comment => comment
  | _ => none

def isEntry (symbol : String) (intent : Intent) : Bool :=
  (marketComment intent.baseIntent).any fun comment => startsWith comment (symbol ++ "|entry|")

def isExit (symbol : String) (intent : Intent) : Bool :=
  (marketComment intent.baseIntent).any fun comment => startsWith comment (symbol ++ "|exit|")

def Quiet (symbol : String) (intents : List Intent) : Prop :=
  ∀ intent ∈ intents, isEntry symbol intent = false ∧ isExit symbol intent = false

section Comments

variable (symbol text : String)

theorem startsWith_append (start : String) :
    startsWith (symbol ++ text) (symbol ++ start) = startsWith text start := by
  unfold startsWith
  rw [String.toList_append, String.toList_append]
  induction symbol.toList with
  | nil => rfl
  | cons c cs ih => simpa using ih

theorem startsWith_entry : startsWith (symbol ++ "|entry|" ++ text) (symbol ++ "|entry|") = true := by
  rw [String.append_assoc, startsWith_append]
  unfold startsWith
  rw [String.toList_append]
  simp

theorem startsWith_exit : startsWith (symbol ++ "|exit|" ++ text) (symbol ++ "|exit|") = true := by
  rw [String.append_assoc, startsWith_append]
  unfold startsWith
  rw [String.toList_append]
  simp

theorem startsWith_exit_entry :
    startsWith (symbol ++ "|exit|" ++ text) (symbol ++ "|entry|") = false := by
  rw [String.append_assoc, startsWith_append]
  unfold startsWith
  rw [String.toList_append]
  rfl

theorem startsWith_entry_exit :
    startsWith (symbol ++ "|entry|" ++ text) (symbol ++ "|exit|") = false := by
  rw [String.append_assoc, startsWith_append]
  unfold startsWith
  rw [String.toList_append]
  rfl

end Comments

namespace Quiet

variable {symbol : String} {intents intents' : List Intent}

theorem nil : Quiet symbol [] := by
  intro intent hintent
  cases hintent

theorem append (h : Quiet symbol intents) (h' : Quiet symbol intents') :
    Quiet symbol (intents ++ intents') := by
  intro intent hintent
  rcases List.mem_append.mp hintent with hmem | hmem
  · exact h intent hmem
  · exact h' intent hmem

theorem singleton {intent : Intent} (h : marketComment intent.baseIntent = none) :
    Quiet symbol [intent] := by
  intro intent' hintent'
  obtain rfl := List.mem_singleton.mp hintent'
  unfold isEntry isExit
  rw [h]
  exact ⟨rfl, rfl⟩

theorem toList_map {α : Type} (x : Option α) {f : α → Intent}
    (h : ∀ a, marketComment (f a).baseIntent = none) : Quiet symbol (x.map f).toList := by
  cases x with
  | none => exact nil
  | some a => exact singleton (h a)

theorem protectionCancels (protection : MrProtection) (side : Option Side) :
    Quiet symbol (protectionCancels protection side) :=
  ((toList_map _ fun _ => rfl).append (toList_map _ fun _ => rfl)).append
    (toList_map _ fun _ => rfl)

theorem trackedCancels (s : AlorUsdrubfHybridStrategy) : Quiet symbol s.trackedCancels := by
  intro intent hintent
  obtain ⟨orderId, -, rfl⟩ := List.mem_map.mp hintent
  exact ⟨rfl, rfl⟩

end Quiet

def IsExitOf (symbol : String) (qty : ℚ) (side : Side) (intent : Intent) : Prop :=
  ∃ price reason, intent.baseIntent = .market qty side price (some (symbol ++ "|exit|" ++ reason))

variable {symbol : String}

theorem IsExitOf.isExit {qty : ℚ} {side : Side} {intent : Intent}
    (h : IsExitOf symbol qty side intent) : isExit symbol intent = true := by
  obtain ⟨price, reason, hintent⟩ := h
  unfold AlorUsdrubfHybrid.isExit
  rw [hintent]
  exact startsWith_exit symbol reason

theorem IsExitOf.isEntry {qty : ℚ} {side : Side} {intent : Intent}
    (h : IsExitOf symbol qty side intent) : isEntry symbol intent = false := by
  obtain ⟨price, reason, hintent⟩ := h
  unfold AlorUsdrubfHybrid.isEntry
  rw [hintent]
  exact startsWith_exit_entry symbol reason

def closingSide (qty : ℚ) : Side := if 0 < qty then .sell else .buy

/-! ### Grips -/

@[ext]
structure Grip where
  opened : Option OpenPosition
  pending : Option PendingEntry
  entry : Bool
  exit : Bool
deriving DecidableEq

namespace AlorUsdrubfHybridStrategy

def grip (s : AlorUsdrubfHybridStrategy) : Grip :=
  ⟨s.openPosition, s.pendingEntry, s.entryIntentInflight, s.exitIntentInflight⟩

end AlorUsdrubfHybridStrategy

def Grip.empty : Grip := ⟨none, none, false, false⟩

def PendingEntry.sent (pending : PendingEntry) (size : ℤ) : PendingEntry :=
  { pending with targetQty := size, partialStartedAtMs := none }

def entryOrder (symbol : String) (pending : PendingEntry) (size : ℤ) (price : ℚ) : Intent :=
  .market size pending.side.entrySide (some price)
    (some (symbol ++ "|entry|" ++ pending.owner.asStr))

inductive BarMove (symbol : String) : Grip → Grip → List Intent → Prop
  /-- At most a bracket is sent. -/
  | hold (g : Grip) {intents : List Intent} (hquiet : Quiet symbol intents) :
    BarMove symbol g g intents
  /-- The position is left. -/
  | exit {g : Grip} {pos : OpenPosition} (before : List Intent) (intent : Intent)
    (hopened : g.opened = some pos) (hexit : g.exit = false) (hquiet : Quiet symbol before)
    (hintent : IsExitOf symbol pos.size pos.side.exitSide intent) :
    BarMove symbol g { g with exit := true } (before ++ [intent])
  /-- The pending entry is sent. -/
  | send {g : Grip} {pending : PendingEntry} (size : ℤ) (price : ℚ) (hopened : g.opened = none)
    (hpending : g.pending = some pending) (hentry : g.entry = false) :
    BarMove symbol g { g with pending := some (pending.sent size), entry := true }
      [entryOrder symbol pending size price]
  /-- A signal waits. -/
  | signal {g : Grip} (pending : PendingEntry) {intents : List Intent} (hopened : g.opened = none)
    (hpending : g.pending = none) (hquiet : Quiet symbol intents) :
    BarMove symbol g { g with pending := some pending } intents
  /-- A signal is sent. -/
  | enter {g : Grip} (pending : PendingEntry) (size : ℤ) (price : ℚ) (hopened : g.opened = none)
    (hpending : g.pending = none) (hentry : g.entry = false) :
    BarMove symbol g { g with pending := some (pending.sent size), entry := true }
      [entryOrder symbol pending size price]

variable {intents : List Intent}

theorem BarMove.of_signal {g g₀ g' : Grip} {signal : PendingEntry}
    (h : BarMove symbol g₀ g' intents) (hg₀ : g₀ = { g with pending := some signal })
    (hopened : g.opened = none) (hpending : g.pending = none) (hentry : g.entry = false) :
    BarMove symbol g g' intents := by
  have hopened₀ : g₀.opened = none := by rw [hg₀, hopened]
  have hpending₀ : g₀.pending = some signal := by rw [hg₀]
  cases h with
  | hold hquiet =>
    rw [hg₀]
    exact .signal signal hopened hpending hquiet
  | exit _ _ hopened' =>
    rw [hopened₀] at hopened'
    cases hopened'
  | send size price _ hpending' =>
    rw [hpending₀] at hpending'
    obtain rfl := Option.some.inj hpending'
    rw [hg₀]
    exact .enter signal size price hopened hpending hentry
  | signal _ _ hpending' =>
    rw [hpending₀] at hpending'
    cases hpending'
  | enter _ _ _ _ hpending' =>
    rw [hpending₀] at hpending'
    cases hpending'

/-- What a strategy answers makes a move, and leaves the configuration alone. -/
def MakesBar (s : AlorUsdrubfHybridStrategy)
    (answer : AlorUsdrubfHybridStrategy × List Intent) : Prop :=
  answer.1.config = s.config ∧ BarMove s.config.symbol s.grip answer.1.grip answer.2

section Bars

variable {s s' : AlorUsdrubfHybridStrategy}

theorem MakesBar.hold (hgrip : s'.grip = s.grip) (hconfig : s'.config = s.config)
    (hquiet : Quiet s.config.symbol intents) : MakesBar s (s', intents) := by
  refine ⟨hconfig, ?_⟩
  show BarMove s.config.symbol s.grip s'.grip intents
  rw [hgrip]
  exact .hold _ hquiet

theorem MakesBar.of_grip {answer : AlorUsdrubfHybridStrategy × List Intent} (h : MakesBar s' answer)
    (hgrip : s'.grip = s.grip) (hconfig : s'.config = s.config) : MakesBar s answer := by
  obtain ⟨hanswer, hmove⟩ := h
  rw [hconfig, hgrip] at hmove
  exact ⟨hanswer.trans hconfig, hmove⟩

/-- A bracket changes no grip and sends neither an entry nor an exit. -/
theorem maybeEmitLiveMrBrackets_spec (ctx : StrategyCtx) (barTsUtc : ℤ) :
    (s.maybeEmitLiveMrBrackets ctx barTsUtc).1.grip = s.grip ∧
      (s.maybeEmitLiveMrBrackets ctx barTsUtc).1.config = s.config ∧
      Quiet s.config.symbol (s.maybeEmitLiveMrBrackets ctx barTsUtc).2 := by
  -- each of the two orders sends at most itself
  have htp : ∀ (s : AlorUsdrubfHybridStrategy) pos, (s.placeTp ctx barTsUtc pos).1.grip = s.grip ∧
      (s.placeTp ctx barTsUtc pos).1.config = s.config ∧
      Quiet s.config.symbol (s.placeTp ctx barTsUtc pos).2 := by
    intro s pos
    unfold placeTp
    split
    · exact ⟨rfl, rfl, .nil⟩
    · split_ifs
      · exact ⟨rfl, rfl, .singleton rfl⟩
      · exact ⟨rfl, rfl, .nil⟩
  have hsl : ∀ (s : AlorUsdrubfHybridStrategy) pos, (s.placeSl ctx barTsUtc pos).1.grip = s.grip ∧
      (s.placeSl ctx barTsUtc pos).1.config = s.config ∧
      Quiet s.config.symbol (s.placeSl ctx barTsUtc pos).2 := by
    intro s pos
    unfold placeSl
    split
    · exact ⟨rfl, rfl, .nil⟩
    · split_ifs
      · exact ⟨rfl, rfl, .singleton rfl⟩
      · exact ⟨rfl, rfl, .nil⟩
  unfold maybeEmitLiveMrBrackets
  split_ifs
  · exact ⟨rfl, rfl, .nil⟩
  · split
    · exact ⟨rfl, rfl, .nil⟩
    · rename_i pos _
      split_ifs
      · exact ⟨rfl, rfl, .nil⟩
      · obtain ⟨hgrip, hconfig, hquiet⟩ := htp s pos
        obtain ⟨hgrip', hconfig', hquiet'⟩ := hsl (s.placeTp ctx barTsUtc pos).1 pos
        rw [hconfig] at hquiet'
        exact ⟨hgrip'.trans hgrip, hconfig'.trans hconfig, hquiet.append hquiet'⟩

theorem makesBar_maybeEmitLiveExitIntent (reason : String) (exitPrice : ℚ) (barTsUtc : ℤ) :
    MakesBar s (s.maybeEmitLiveExitIntent reason exitPrice barTsUtc) := by
  unfold maybeEmitLiveExitIntent
  split
  · exact .hold rfl rfl .nil
  · rename_i pos hpos
    split_ifs with hdeferred hexit
    · exact .hold rfl rfl .nil
    · exact .hold rfl rfl .nil
    · refine ⟨rfl, ?_⟩
      rw [Bool.not_eq_true] at hexit
      exact .exit _ _ hpos hexit (.protectionCancels _ _) ⟨_, reason, rfl⟩

theorem makesBar_maybeEmitLiveEntryIntent (bar : BarEvent) (referencePrice : ℚ) :
    MakesBar s (s.maybeEmitLiveEntryIntent bar referencePrice) := by
  unfold maybeEmitLiveEntryIntent
  split
  · exact .hold rfl rfl .nil
  · rename_i pending hpending
    split_ifs with hdeferred hbusy
    · exact .hold rfl rfl .nil
    · exact .hold rfl rfl .nil
    · simp only [Bool.or_eq_true, not_or, Bool.not_eq_true, Option.isSome_eq_false_iff,
        Option.isNone_iff_eq_none] at hbusy
      exact ⟨rfl, .send _ _ hbusy.2 hpending hbusy.1⟩

variable {ctx : StrategyCtx}

theorem makesBar_lookForSignal (hlive : ctx.tradeMode = .live) (bar : BarEvent)
    (rs : ResearchSnapshot) : MakesBar s (s.lookForSignal ctx bar rs) := by
  unfold lookForSignal
  split_ifs with hfree
  · simp only [hlive, decide_true, Bool.true_and, Bool.and_eq_true, Option.isNone_iff_eq_none,
      Bool.not_eq_true'] at hfree
    obtain ⟨⟨hopened, hpending⟩, hentry⟩ := hfree
    split
    · exact .hold rfl rfl .nil
    · rename_i signal _
      obtain ⟨hconfig, hmove⟩ :=
        makesBar_maybeEmitLiveEntryIntent (s := s.acceptSignal signal) bar bar.close
      exact ⟨hconfig, hmove.of_signal rfl hopened hpending hentry⟩
  · exact .hold rfl rfl .nil

theorem BarMove.cons_quiet {g g' : Grip} {before : List Intent} (h : BarMove symbol g g' intents)
    (hbefore : Quiet symbol before) (hnone : g.opened = none → before = []) :
    BarMove symbol g g' (before ++ intents) := by
  cases h with
  | hold hquiet => exact .hold _ (hbefore.append hquiet)
  | exit before' intent hopened hexit hquiet hintent =>
    rw [← List.append_assoc]
    exact .exit _ _ hopened hexit (hbefore.append hquiet) hintent
  | send size price hopened hpending hentry =>
    rw [hnone hopened]
    exact .send size price hopened hpending hentry
  | signal pending hopened hpending hquiet =>
    exact .signal pending hopened hpending (hbefore.append hquiet)
  | enter pending size price hopened hpending hentry =>
    rw [hnone hopened]
    exact .enter pending size price hopened hpending hentry

theorem maybeEmitLiveMrBrackets_of_flat (hopened : s.openPosition = none) (ctx : StrategyCtx)
    (barTsUtc : ℤ) : s.maybeEmitLiveMrBrackets ctx barTsUtc = (s, []) := by
  unfold maybeEmitLiveMrBrackets
  rw [hopened]
  split_ifs <;> rfl

/-- The entry of a bar leaves no room for that of a signal. -/
theorem makesBar_entries (hlive : ctx.tradeMode = .live) (bar : BarEvent) (rs : ResearchSnapshot) :
    MakesBar s
      (((s.maybeEmitLiveEntryIntent bar bar.o).1.lookForSignal ctx bar rs).1,
        (s.maybeEmitLiveEntryIntent bar bar.o).2 ++
          ((s.maybeEmitLiveEntryIntent bar bar.o).1.lookForSignal ctx bar rs).2) := by
  have hsignal := fun s' : AlorUsdrubfHybridStrategy =>
    makesBar_lookForSignal (s := s') hlive bar rs
  have hbusy : ∀ (s' : AlorUsdrubfHybridStrategy), s'.pendingEntry.isSome = true →
      s'.lookForSignal ctx bar rs = (s', []) := by
    intro s' hpending
    unfold lookForSignal
    rw [Option.isNone_eq_false_iff.mpr hpending, Bool.and_false, Bool.false_and]
    rfl
  unfold maybeEmitLiveEntryIntent
  split
  · exact hsignal s
  · rename_i pending hpending
    split_ifs with hdeferred hwaits
    · exact hsignal s
    · exact hsignal s
    · simp only [Bool.or_eq_true, not_or, Bool.not_eq_true, Option.isSome_eq_false_iff,
        Option.isNone_iff_eq_none] at hwaits
      rw [hbusy _ rfl, List.append_nil]
      exact ⟨rfl, .send _ _ hwaits.2 hpending hwaits.1⟩

theorem makesBar_tradeLiveBar (hlive : ctx.tradeMode = .live) (bar : BarEvent)
    (rs : ResearchSnapshot) : MakesBar s (s.tradeLiveBar ctx bar rs) := by
  obtain ⟨hgrip, hconfig, hquiet⟩ := maybeEmitLiveMrBrackets_spec (s := s) ctx bar.closeTimeUtc
  have hflat : s.grip.opened = none → (s.maybeEmitLiveMrBrackets ctx bar.closeTimeUtc).2 = [] := by
    intro hopened
    rw [maybeEmitLiveMrBrackets_of_flat hopened]
  -- the brackets come before whatever else the bar sends
  have hafter : ∀ s' intents,
      MakesBar (s.maybeEmitLiveMrBrackets ctx bar.closeTimeUtc).1 (s', intents) →
        MakesBar s (s', (s.maybeEmitLiveMrBrackets ctx bar.closeTimeUtc).2 ++ intents) := by
    intro s' intents hmakes
    obtain ⟨hconfig', hmove⟩ := hmakes.of_grip hgrip hconfig
    exact ⟨hconfig', hmove.cons_quiet hquiet hflat⟩
  unfold tradeLiveBar
  dsimp only
  split
  · split_ifs
    · exact .hold hgrip hconfig hquiet
    · exact hafter _ _ (makesBar_maybeEmitLiveExitIntent _ _ _)
  · exact hafter _ _ (makesBar_entries hlive bar rs)

theorem makesBar_tradeLive (hlive : ctx.tradeMode = .live) (bar : BarEvent) (rs : ResearchSnapshot) :
    MakesBar s (s.tradeLive ctx bar rs) := by
  have hbar : ∀ s' : AlorUsdrubfHybridStrategy, s'.grip = s.grip → s'.config = s.config →
      MakesBar s (s'.tradeLiveBar ctx bar rs) := fun s' hgrip hconfig =>
    (makesBar_tradeLiveBar hlive bar rs).of_grip hgrip hconfig
  have hexit : ∀ (s' : AlorUsdrubfHybridStrategy) reason, s'.grip = s.grip → s'.config = s.config →
        MakesBar s (s'.maybeEmitLiveExitIntent reason bar.close bar.closeTimeUtc) :=
    fun s' reason hgrip hconfig =>
      (makesBar_maybeEmitLiveExitIntent _ _ _).of_grip hgrip hconfig
  unfold tradeLive
  dsimp only
  split_ifs
  · exact hexit _ _ rfl rfl
  · exact hbar _ rfl rfl
  · exact hbar _ rfl rfl
  · exact hexit _ _ rfl rfl
  all_goals exact hbar _ rfl rfl

def AlorUsdrubfHybridStrategy.admits (s : AlorUsdrubfHybridStrategy) (ctx : StrategyCtx)
    (bar : BarEvent) : Bool :=
  bar.symbol = s.config.symbol && !s.lastProcessedBarTs.any (bar.closeTimeUtc ≤ ·) &&
    (s.gateBar ctx bar).2

def AlorUsdrubfHybridStrategy.startsDay (s : AlorUsdrubfHybridStrategy) (bar : BarEvent) : Bool :=
  s.day.currentDateLocal ≠ some (utcToLocal bar.closeTimeUtc s.config.timezoneOffsetHours).date

theorem gateBar_spec (ctx : StrategyCtx) (bar : BarEvent) :
    (s.gateBar ctx bar).1.grip = s.grip ∧ (s.gateBar ctx bar).1.config = s.config ∧
      (s.gateBar ctx bar).1.day = s.day := by
  unfold gateBar
  dsimp only
  split_ifs <;> exact ⟨rfl, rfl, rfl⟩

theorem grip_enterDay (bar : BarEvent) :
    (s.enterDay bar (utcToLocal bar.closeTimeUtc s.config.timezoneOffsetHours)).grip =
      if s.startsDay bar then .empty else s.grip := by
  unfold enterDay startsDay
  by_cases hday : s.day.currentDateLocal =
      some (utcToLocal bar.closeTimeUtc s.config.timezoneOffsetHours).date
  · rw [if_neg (not_not.mpr hday), if_neg (by simp [hday])]
    rfl
  · rw [if_pos hday, if_pos (by simp [hday])]
    rfl

theorem makesBar_tradeBar (hlive : ctx.tradeMode = .live) (bar : BarEvent) :
    (s.tradeBar ctx bar).1.config = s.config ∧
      BarMove s.config.symbol (if s.startsDay bar then .empty else s.grip)
        (s.tradeBar ctx bar).1.grip (s.tradeBar ctx bar).2 := by
  have hconfig : (s.enterDay bar
      (utcToLocal bar.closeTimeUtc s.config.timezoneOffsetHours)).config = s.config := by
    unfold enterDay
    split_ifs <;> rfl
  unfold tradeBar
  rw [if_pos hlive, ← grip_enterDay]
  obtain ⟨hconfig', hmove⟩ := makesBar_tradeLive
    (s := s.enterDay bar (utcToLocal bar.closeTimeUtc s.config.timezoneOffsetHours)) hlive bar
    ((s.enterDay bar (utcToLocal bar.closeTimeUtc s.config.timezoneOffsetHours)
      ).buildResearchSnapshot bar (utcToLocal bar.closeTimeUtc s.config.timezoneOffsetHours))
  rw [hconfig] at hmove
  exact ⟨hconfig'.trans hconfig, hmove⟩

theorem onBar_of_not_admits {bar : BarEvent} (hadmits : s.admits ctx bar = false) :
    (s.onBar ctx bar).1.grip = s.grip ∧ (s.onBar ctx bar).2 = [] := by
  obtain ⟨hgrip, -, -⟩ := gateBar_spec (s := s) ctx bar
  unfold onBar
  split_ifs with hsymbol hseen
  · exact ⟨rfl, rfl⟩
  · exact ⟨rfl, rfl⟩
  · have hgate : (s.gateBar ctx bar).2 = false := by
      unfold admits at hadmits
      simpa [not_not.mp hsymbol, Bool.eq_false_iff.mpr hseen] using hadmits
    rw [show s.gateBar ctx bar = ((s.gateBar ctx bar).1, false) from Prod.ext rfl hgate]
    exact ⟨hgrip, rfl⟩

theorem onBar_of_admits (hlive : ctx.tradeMode = .live) {bar : BarEvent}
    (hadmits : s.admits ctx bar = true) :
    BarMove s.config.symbol (if s.startsDay bar then .empty else s.grip)
      (s.onBar ctx bar).1.grip (s.onBar ctx bar).2 := by
  obtain ⟨hgrip, hconfig, hday⟩ := gateBar_spec (s := s) ctx bar
  unfold admits at hadmits
  simp only [Bool.and_eq_true, decide_eq_true_eq, Bool.not_eq_true'] at hadmits
  obtain ⟨⟨hsymbol, hseen⟩, hgate⟩ := hadmits
  have hmakes := (makesBar_tradeBar (s := (s.gateBar ctx bar).1) hlive bar).2
  have hstarts : (s.gateBar ctx bar).1.startsDay bar = s.startsDay bar := by
    unfold startsDay
    rw [hday, hconfig]
  rw [hstarts, hgrip, hconfig] at hmakes
  unfold onBar
  rw [if_neg (not_not.mpr hsymbol), if_neg (Bool.eq_false_iff.mp hseen),
    show s.gateBar ctx bar = ((s.gateBar ctx bar).1, true) from Prod.ext rfl hgate]
  exact hmakes

end Bars

/-! ### Positions of the broker -/

/-- What flattens a position of the broker is an exit of all of it, unless an exit is on its way. -/
def Flattens (symbol : String) (exit : Bool) (qty : ℚ) (intents : List Intent) : Prop :=
  (exit = true ∧ intents = []) ∨
    (exit = false ∧ ∃ before intent, intents = before ++ [intent] ∧ Quiet symbol before ∧
      IsExitOf symbol |qty| (closingSide qty) intent)

def OpenPosition.Is (pos : OpenPosition) (qty : ℚ) : Prop :=
  pos.side = brokerSide qty ∧ pos.size = wholeUnits qty

def PendingEntry.Waits (pending : PendingEntry) (qty : ℚ) : Prop :=
  signum qty = pending.side.sign ∧ |qty| < pending.targetQty

def PendingEntry.Completes (pending : PendingEntry) (qty : ℚ) : Prop :=
  1 < pending.targetQty → isInvalidPartial pending qty = false ∧ isPartial pending qty = false

theorem PendingEntry.Completes.signum_eq {pending : PendingEntry} {qty : ℚ}
    (h : pending.Completes qty) (htarget : 1 < pending.targetQty) :
    signum qty = pending.side.sign := by
  have hvalid := (h htarget).1
  unfold isInvalidPartial at hvalid
  rw [Bool.or_eq_false_iff, decide_eq_false_iff_not, not_not] at hvalid
  exact hvalid.1

/-- What a position of the broker that is not flat does to a grip; `existing` tells whether it was
there before, and `settling` whether a fill of a bracket is awaited. -/
inductive OpenMove (symbol : String) (qty : ℚ) (existing settling : Bool) :
    Grip → Grip → List Intent → Prop
  /-- An entry that went wrong is given up. -/
  | invalid {g : Grip} {intents : List Intent} (hpending : g.pending.isSome = true)
    (hflattens : Flattens symbol g.exit qty intents) :
    OpenMove symbol qty existing settling g { g with pending := none, exit := true } intents
  /-- An entry waits for its rest. -/
  | waits {g : Grip} {pending pending' : PendingEntry} (hpending : g.pending = some pending)
    (hsame : pending'.targetQty = pending.targetQty) (hwaits : pending'.Waits qty) :
    OpenMove symbol qty existing settling g { g with pending := some pending' } []
  /-- Nothing accounts for the position. -/
  | residual {g : Grip} {pos : OpenPosition} {intents : List Intent} (hopened : g.opened = none)
    (hpending : g.pending = none) (hpos : pos.Is qty)
    (hflattens : Flattens symbol g.exit qty intents) :
    OpenMove symbol qty existing settling g { g with opened := some pos, exit := true } intents
  /-- The end of an exit or of a bracket is awaited. -/
  | settles {g : Grip} (hopened : g.opened.isSome = true)
    (hsettling : g.exit = true ∨ settling = true) :
    OpenMove symbol qty existing settling g g []
  /-- A bracket has been filled in part. -/
  | progress {g : Grip} {pos : OpenPosition} (hopened : g.opened = some pos)
    (hexit : g.exit = false) (hprogress : mrBracketProtectivePartialProgress pos qty = true) :
    OpenMove symbol qty existing settling g { g with exit := true } []
  /-- The position has changed. -/
  | changed {g : Grip} {pos : OpenPosition} {intents : List Intent}
    (hopened : g.opened.isSome = true) (hexit : g.exit = false) (hpos : pos.Is qty)
    (hflattens : Flattens symbol g.exit qty intents) :
    OpenMove symbol qty existing settling g { g with opened := some pos, exit := true } intents
  /-- The position becomes the strategy's; that of a pending entry keeps the entry's side. -/
  | adopt {g : Grip} {pos : OpenPosition} {intents : List Intent} (hsize : pos.size = wholeUnits qty)
    (hside : (g.pending = none ∧ pos.side = brokerSide qty) ∨
      ∃ pending, g.pending = some pending ∧ pos.side = pending.side ∧ pending.Completes qty)
    (hexit : g.opened.isSome = true → g.exit = false)
    (hnew : g.opened = none → g.pending = none → existing = true) (hquiet : Quiet symbol intents) :
    OpenMove symbol qty existing settling g ⟨some pos, none, false, false⟩ intents

section Positions

variable {s : AlorUsdrubfHybridStrategy} {qty : ℚ}

theorem emitBrokerResidualEmergencyExit_spec (hqty : ¬|qty| < flatQty) (reason : String) :
    (s.emitBrokerResidualEmergencyExit qty reason).1.grip = { s.grip with exit := true } ∧
      (s.emitBrokerResidualEmergencyExit qty reason).1.config = s.config ∧
      Flattens s.config.symbol s.exitIntentInflight qty
        (s.emitBrokerResidualEmergencyExit qty reason).2 := by
  unfold emitBrokerResidualEmergencyExit
  cases hexit : s.exitIntentInflight with
  | true =>
    refine ⟨?_, rfl, .inl ⟨rfl, rfl⟩⟩
    rw [Bool.true_or, if_pos rfl]
    exact Grip.ext rfl rfl rfl hexit
  | false =>
    rw [Bool.false_or, if_neg (by simpa using hqty)]
    exact ⟨rfl, rfl, .inr ⟨rfl, _, _, rfl, .protectionCancels _ _, none, reason, rfl⟩⟩

def MakesOpen (s : AlorUsdrubfHybridStrategy) (qty : ℚ) (existing settling : Bool)
    (answer : AlorUsdrubfHybridStrategy × List Intent) : Prop :=
  answer.1.config = s.config ∧
    OpenMove s.config.symbol qty existing settling s.grip answer.1.grip answer.2

variable {settling : Bool} {pos : PositionEvent}

theorem adoptedPosition_size : (s.adoptedPosition pos).size = wholeUnits pos.qty := by
  unfold adoptedPosition
  split <;> rfl

variable (ctx : StrategyCtx)

theorem makesOpen_adopt (hexit : s.openPosition.isSome = true → s.exitIntentInflight = false)
    (hnew : s.openPosition = none → s.pendingEntry = none → pos.existing = true)
    (hcompletes : ∀ pending, s.pendingEntry = some pending → pending.Completes pos.qty) :
    MakesOpen s pos.qty pos.existing settling (s.adopt ctx pos) := by
  unfold adopt
  obtain ⟨hgrip, hconfig, hquiet⟩ := maybeEmitLiveMrBrackets_spec
    (s := { s with
      openPosition := some (s.adoptedPosition pos)
      pendingEntry := none
      entryIntentInflight := false
      exitIntentInflight := false
      ownerConfirmedByLiveEvent := true
      protection := if (s.adoptedPosition pos).owner ≠ .meanRev then .none else s.protection
      hybridState := .opened
      lifecycleStage := "broker_position_open" }) ctx pos.tsUtc
  refine ⟨hconfig, ?_⟩
  rw [hgrip]
  refine .adopt adoptedPosition_size ?_ hexit hnew hquiet
  show (s.pendingEntry = none ∧ _) ∨ ∃ pending, s.pendingEntry = some pending ∧ _
  unfold adoptedPosition
  cases hpending : s.pendingEntry with
  | none =>
    left
    refine ⟨rfl, ?_⟩
    cases s.openPosition <;> rfl
  | some pending =>
    right
    exact ⟨pending, rfl, rfl, hcompletes pending hpending⟩

theorem makesOpen_compareOpen (opened : OpenPosition) (nowMs : ℤ)
    (hopened : s.openPosition = some opened) (hqty : ¬|pos.qty| < flatQty)
    (hcompletes : ∀ pending, s.pendingEntry = some pending → pending.Completes pos.qty) :
    MakesOpen s pos.qty pos.existing (s.bracketTerminalReconcileActive nowMs)
      (s.compareOpen ctx opened pos nowMs) := by
  have hsome : s.openPosition.isSome = true := by rw [hopened]; rfl
  unfold compareOpen
  split_ifs with hsettling hprogress hchanged
  · rw [Bool.or_eq_true] at hsettling
    exact ⟨rfl, .settles hsome hsettling⟩
  all_goals
    simp only [Bool.or_eq_true, not_or, Bool.not_eq_true] at hsettling
  · exact ⟨rfl, .progress hopened hsettling.1 hprogress⟩
  -- the size or the side changed: the strategy takes it over and flattens
  · unfold seeChanged
    obtain ⟨hgrip, hconfig, hflattens⟩ := emitBrokerResidualEmergencyExit_spec (s := s) hqty
      (if signum opened.signedQty ≠ signum pos.qty then "broker_position_sign_flip"
        else "broker_position_size_changed")
    refine ⟨hconfig, ?_⟩
    have hmove : OpenMove s.config.symbol pos.qty pos.existing
        (s.bracketTerminalReconcileActive nowMs) s.grip
        { s.grip with
          opened := some
            { opened with
              side := brokerSide pos.qty
              size := wholeUnits pos.qty
              entryPrice := if 0 < pos.avgPrice then pos.avgPrice else opened.entryPrice }
          exit := true }
        (s.emitBrokerResidualEmergencyExit pos.qty
          (if signum opened.signedQty ≠ signum pos.qty then "broker_position_sign_flip"
            else "broker_position_size_changed")).2 :=
      .changed hsome hsettling.1 ⟨rfl, rfl⟩ hflattens
    have hpending := congrArg Grip.pending hgrip
    have hentry := congrArg Grip.entry hgrip
    have hexit := congrArg Grip.exit hgrip
    convert hmove using 1
    exact Grip.ext rfl hpending hentry hexit
  · apply makesOpen_adopt ctx (fun _ => hsettling.1) _ hcompletes
    intro hnone
    rw [hopened] at hnone
    cases hnone

theorem makesOpen_compareBroker (nowMs : ℤ) (hqty : ¬|pos.qty| < flatQty)
    (hcompletes : ∀ pending, s.pendingEntry = some pending → pending.Completes pos.qty) :
    MakesOpen s pos.qty pos.existing (s.bracketTerminalReconcileActive nowMs)
      (s.compareBroker ctx pos nowMs) := by
  unfold compareBroker
  split
  · rename_i opened hopened
    exact makesOpen_compareOpen ctx opened nowMs hopened hqty hcompletes
  · rename_i hopened
    split_ifs with hresidual
    · simp only [Bool.and_eq_true, Option.isNone_iff_eq_none] at hresidual
      unfold seeResidual
      obtain ⟨hgrip, hconfig, hflattens⟩ := emitBrokerResidualEmergencyExit_spec
        (s := { s with
          openPosition := some (s.buildOpenPositionFromPending
            (syntheticPending (brokerSide pos.qty) "unexpected_broker_residual" pos.avgPrice)
            pos.tsUtc pos.avgPrice (wholeUnits pos.qty)) }) hqty "unexpected_broker_residual"
      refine ⟨hconfig, ?_⟩
      have hpos : (s.buildOpenPositionFromPending
          (syntheticPending (brokerSide pos.qty) "unexpected_broker_residual" pos.avgPrice)
          pos.tsUtc pos.avgPrice (wholeUnits pos.qty)).Is pos.qty := ⟨rfl, rfl⟩
      have hmove := @OpenMove.residual s.config.symbol pos.qty pos.existing
        (s.bracketTerminalReconcileActive nowMs) s.grip _ _ hopened hresidual.1 hpos hflattens
      convert hmove using 1
      exact hgrip
    · apply makesOpen_adopt ctx _ _ hcompletes
      · intro hsome
        rw [hopened] at hsome
        cases hsome
      · intro _ hnone
        simpa [hnone] using hresidual

theorem makesOpen_seeOpen (nowMs : ℤ) (hqty : ¬|pos.qty| < flatQty) :
    MakesOpen s pos.qty pos.existing (s.bracketTerminalReconcileActive nowMs)
      (s.seeOpen ctx pos nowMs) := by
  unfold seeOpen
  split
  · rename_i pending hpending
    -- the pending entry that completes is this one
    have hother : ∀ _ : pending.Completes pos.qty,
        ∀ pending', s.pendingEntry = some pending' → pending'.Completes pos.qty := by
      intro h pending' hpending'
      rw [hpending] at hpending'
      obtain rfl := Option.some.inj hpending'
      exact h
    have hsome : s.pendingEntry.isSome = true := by rw [hpending]; rfl
    split_ifs with htarget
    · unfold seePartial
      split_ifs with hinvalid hpartial
      · obtain ⟨hgrip, hconfig, hflattens⟩ := emitBrokerResidualEmergencyExit_spec
          (s := { s with pendingEntry := none }) hqty "partial_entry_invalid"
        refine ⟨hconfig, ?_⟩
        rw [hgrip]
        exact .invalid hsome hflattens
      all_goals
        have hvalid := Bool.eq_false_iff.mpr hinvalid
        simp only [isInvalidPartial, ne_eq, Bool.or_eq_true, decide_eq_true_eq, not_or,
          not_not] at hinvalid
      · refine ⟨rfl, .waits hpending rfl ⟨hinvalid.1, ?_⟩⟩
        -- less than the target, so the rest is awaited
        have hbelow : |pos.qty| + epsilon < pending.targetQty := of_decide_eq_true hpartial
        have hepsilon : 0 < epsilon := by decide +kernel
        show |pos.qty| < pending.targetQty
        linarith
      · exact makesOpen_compareBroker ctx nowMs hqty
          (hother fun _ => ⟨hvalid, Bool.eq_false_iff.mpr hpartial⟩)
    · exact makesOpen_compareBroker ctx nowMs hqty (hother fun h => absurd h htarget)
  · rename_i hpending
    apply makesOpen_compareBroker ctx nowMs hqty
    intro pending hpending'
    rw [hpending] at hpending'
    cases hpending'

def Grip.flat (g : Grip) : Grip := { g with opened := none, exit := false }

theorem onPosition_spec (pos : PositionEvent) (nowMs : ℤ) :
    (s.onPosition ctx pos nowMs).1.config = s.config ∧
      ((pos.symbol ≠ s.config.symbol ∧ (s.onPosition ctx pos nowMs).1.grip = s.grip ∧
          (s.onPosition ctx pos nowMs).2 = []) ∨
        (pos.symbol = s.config.symbol ∧ |pos.qty| < flatQty ∧
          (s.onPosition ctx pos nowMs).1.grip = s.grip.flat ∧
            Quiet s.config.symbol (s.onPosition ctx pos nowMs).2) ∨
        (pos.symbol = s.config.symbol ∧ ¬|pos.qty| < flatQty ∧
          OpenMove s.config.symbol pos.qty pos.existing
            (s.bracketTerminalReconcileActive nowMs) s.grip (s.onPosition ctx pos nowMs).1.grip (s.onPosition ctx pos nowMs).2)) := by
  unfold onPosition
  split_ifs with hsymbol hflat
  · exact ⟨rfl, .inl ⟨hsymbol, rfl, rfl⟩⟩
  · exact ⟨rfl, .inr (.inl ⟨not_not.mp hsymbol, hflat, rfl, .protectionCancels _ _⟩)⟩
  · obtain ⟨hconfig, hmove⟩ := makesOpen_seeOpen (s := s) ctx nowMs hflat
    exact ⟨hconfig, .inr (.inr ⟨not_not.mp hsymbol, hflat, hmove⟩)⟩

end Positions

/-! ### Timers -/

def AlorUsdrubfHybridStrategy.reconcileDue (s : AlorUsdrubfHybridStrategy) (nowMs : ℤ) : Bool :=
  s.bracketTerminalReconcileStartedMs.any fun started =>
    !decide (nowMs - started < bracketTerminalReconcileGraceMs)

/-- What a timer does to a grip, while the broker has a quantity; `due` tells whether the time of a
bracket is over. -/
inductive TimerMove (symbol : String) (qty : ℚ) (due : Bool) : Grip → Grip → List Intent → Prop
  | hold (g : Grip) : TimerMove symbol qty due g g []
  /-- A bracket has not flattened the position in time. -/
  | reconcile {g : Grip} {intents : List Intent} (hdue : due = true) (hqty : ¬|qty| < flatQty)
    (hflattens : Flattens symbol false qty intents) :
    TimerMove symbol qty due g { g with exit := true } intents
  /-- An entry has waited too long for its rest. -/
  | timeout {g : Grip} {before intents : List Intent} (hpending : g.pending.isSome = true)
    (hbefore : Quiet symbol before) (hflattens : Flattens symbol g.exit qty intents) :
    TimerMove symbol qty due g { g with pending := none, exit := true } (before ++ intents)
  /-- An entry has waited too long, with next to nothing of it there. -/
  | giveUp {g : Grip} {intents : List Intent} (hpending : g.pending.isSome = true)
    (hqty : |qty| < flatQty) (hquiet : Quiet symbol intents) :
    TimerMove symbol qty due g { g with pending := none } intents

section Timers

variable {s : AlorUsdrubfHybridStrategy} (ctx : StrategyCtx)

theorem emitBracketReconcileTimeoutExit_spec (nowMs : ℤ) :
    (s.emitBracketReconcileTimeoutExit ctx nowMs).1.config = s.config ∧
      (((s.emitBracketReconcileTimeoutExit ctx nowMs).1.grip = s.grip ∧
          (s.emitBracketReconcileTimeoutExit ctx nowMs).2 = []) ∨
        (s.emitBracketReconcileTimeoutExit ctx nowMs).1.grip = { s.grip with exit := true } ∧
          (s.emitBracketReconcileTimeoutExit ctx nowMs).2 ≠ [] ∧
            s.reconcileDue nowMs = true ∧ ¬|ctx.positionQty.getD 0| < flatQty ∧
            Flattens s.config.symbol false (ctx.positionQty.getD 0)
              (s.emitBracketReconcileTimeoutExit ctx nowMs).2) := by
  unfold emitBracketReconcileTimeoutExit
  split
  · exact ⟨rfl, .inl ⟨rfl, rfl⟩⟩
  · rename_i started hstarted
    dsimp only
    split_ifs with hearly hflat
    · exact ⟨rfl, .inl ⟨rfl, rfl⟩⟩
    · exact ⟨rfl, .inl ⟨rfl, rfl⟩⟩
    · obtain ⟨hgrip, hconfig, hflattens⟩ := emitBrokerResidualEmergencyExit_spec
        (s := { s with bracketTerminalReconcileStartedMs := none, exitIntentInflight := false })
        hflat "bracket_terminal_reconcile_timeout"
      have hdue : s.reconcileDue nowMs = true := by
        unfold reconcileDue
        rw [hstarted, Option.any_some, decide_eq_false hearly]
        rfl
      refine ⟨hconfig, .inr ⟨hgrip, ?_, hdue, hflat, hflattens⟩⟩
      rcases hflattens with ⟨hexit, -⟩ | ⟨-, before, intent, hintents, -⟩
      · cases hexit
      · rw [hintents]
        exact List.append_ne_nil_of_right_ne_nil _ (List.cons_ne_nil _ _)

theorem timeoutPartialEntry_spec (nowMs : ℤ) :
    (s.timeoutPartialEntry ctx nowMs).1.config = s.config ∧
      ∀ due, TimerMove s.config.symbol (ctx.positionQty.getD 0) due s.grip
        (s.timeoutPartialEntry ctx nowMs).1.grip (s.timeoutPartialEntry ctx nowMs).2 := by
  unfold timeoutPartialEntry
  dsimp only
  split
  · exact ⟨rfl, fun _ => .hold _⟩
  · rename_i pending hpending
    have hsome : s.grip.pending.isSome = true := by
      show s.pendingEntry.isSome = true
      rw [hpending]
      rfl
    split_ifs
    · by_cases hqty : |ctx.positionQty.getD 0| < flatQty
      -- without a position only the orders are cancelled
      · have hnone : ({ s with pendingEntry := none } : AlorUsdrubfHybridStrategy
            ).emitBrokerResidualEmergencyExit (ctx.positionQty.getD 0) "partial_entry_fill_timeout"
            = ({ s with pendingEntry := none }, []) := by
          unfold emitBrokerResidualEmergencyExit
          rw [decide_eq_true hqty, Bool.or_true, if_pos rfl]
        rw [hnone, List.append_nil]
        exact ⟨rfl, fun _ => .giveUp hsome hqty (.trackedCancels s)⟩
      · obtain ⟨hgrip, hconfig, hflattens⟩ := emitBrokerResidualEmergencyExit_spec
          (s := { s with pendingEntry := none }) hqty "partial_entry_fill_timeout"
        refine ⟨hconfig, fun due => ?_⟩
        have hmove := @TimerMove.timeout s.config.symbol (ctx.positionQty.getD 0) due s.grip _ _
          hsome (.trackedCancels s) hflattens
        convert hmove using 1
        exact hgrip
    · exact ⟨rfl, fun _ => .hold _⟩

theorem onTimer_spec (nowMs : ℤ) :
    (s.onTimer ctx nowMs).1.config = s.config ∧
      TimerMove s.config.symbol (ctx.positionQty.getD 0) (s.reconcileDue nowMs) s.grip
        (s.onTimer ctx nowMs).1.grip (s.onTimer ctx nowMs).2 := by
  obtain ⟨hconfig, hmoves⟩ := emitBracketReconcileTimeoutExit_spec (s := s) ctx nowMs
  unfold onTimer
  dsimp only
  rcases hmoves with ⟨hgrip, hnil⟩ | ⟨hgrip, hsends, hdue, hqty, hflattens⟩
  · rw [hnil]
    obtain ⟨hconfig', hmove⟩ := timeoutPartialEntry_spec
      (s := (s.emitBracketReconcileTimeoutExit ctx nowMs).1) ctx nowMs
    rw [hconfig, hgrip] at hmove
    exact ⟨hconfig'.trans hconfig, hmove _⟩
  · rw [if_pos (by simpa using hsends)]
    refine ⟨hconfig, ?_⟩
    have hmove := TimerMove.reconcile (g := s.grip) hdue hqty hflattens
    convert hmove using 1
    exact hgrip

end Timers

/-! ### The other events -/

section Others

variable {s : AlorUsdrubfHybridStrategy} (ctx : StrategyCtx)

/-- A rejection ends whatever is on its way. -/
theorem onAck_spec (ack : CommandAck) :
    (s.onAck ctx ack).1.config = s.config ∧ (s.onAck ctx ack).2 = [] ∧ (s.onAck ctx ack).1.grip =
        if isRejection ack then { s.grip with entry := false, exit := false } else s.grip := by
  unfold onAck
  split_ifs
  · refine ⟨?_, rfl, ?_⟩
    all_goals
      unfold rejectCommand
      dsimp only
      split_ifs <;> rfl
  · exact ⟨rfl, rfl, rfl⟩

/-- Whether an order leaves a flat strategy without a tracked order. -/
def AlorUsdrubfHybridStrategy.freesEntry (s : AlorUsdrubfHybridStrategy) (ord : OrderEvent) : Bool :=
  ord.symbol = s.config.symbol && decide (0 < ord.orderId) &&
    ((s.trackOrder ord.orderId (toAsciiLowercaseText ord.status)).trackedOrderIds = ∅) &&
    s.openPosition.isNone

theorem noteOrder_spec (ord : OrderEvent) (nowMs : ℤ) :
    (s.noteOrder ord nowMs).config = s.config ∧
      (s.noteOrder ord nowMs).trackedOrderIds = s.trackedOrderIds ∧
      ∃ exit : Bool, (s.grip.exit = true → exit = true) ∧
        (s.noteOrder ord nowMs).grip = { s.grip with exit := exit } := by
  unfold noteOrder
  dsimp only
  split_ifs
  · unfold seeTpOrder
    by_cases hfilled : toAsciiLowercaseText ord.status = "filled"
    · rw [if_pos hfilled]
      exact ⟨rfl, rfl, true, fun _ => rfl, rfl⟩
    · rw [if_neg hfilled]
      exact ⟨rfl, rfl, s.exitIntentInflight, id, rfl⟩
  · exact ⟨rfl, rfl, s.exitIntentInflight, id, rfl⟩

theorem settleEntry_spec :
    s.settleEntry.config = s.config ∧ s.settleEntry.grip = { s.grip with
          entry := s.grip.entry && !(decide (s.trackedOrderIds = ∅) && s.openPosition.isNone) } := by
  unfold settleEntry
  cases (decide (s.trackedOrderIds = ∅) && s.openPosition.isNone) with
  | true => exact ⟨rfl, Grip.ext rfl rfl (Bool.and_false _).symm rfl⟩
  | false => exact ⟨rfl, Grip.ext rfl rfl (Bool.and_true _).symm rfl⟩

/-- An order may end an entry on its way; a filled TP puts an exit there. -/
theorem onOrder_spec (ord : OrderEvent) (nowMs : ℤ) :
    (s.onOrder ctx ord nowMs).1.config = s.config ∧ (s.onOrder ctx ord nowMs).2 = [] ∧
      ∃ exit : Bool, (s.grip.exit = true → exit = true) ∧ (s.onOrder ctx ord nowMs).1.grip =
          { s.grip with entry := s.grip.entry && !s.freesEntry ord, exit := exit } := by
  obtain ⟨hconfig, htracked, exit, hexit, hgrip⟩ := noteOrder_spec (s := s) ord nowMs
  unfold onOrder freesEntry
  generalize toAsciiLowercaseText ord.status = status
  generalize s.noteOrder ord nowMs = seen at hconfig htracked hgrip
  have htrack : (seen.trackOrder ord.orderId status).trackedOrderIds =
      (s.trackOrder ord.orderId status).trackedOrderIds := by
    unfold trackOrder
    rw [htracked]
  obtain ⟨hconfig', hgrip'⟩ := settleEntry_spec (s := seen.trackOrder ord.orderId status)
  generalize hsettled : (seen.trackOrder ord.orderId status).settleEntry = settled
    at hconfig' hgrip'
  cases (decide (ord.symbol = s.config.symbol) && decide (0 < ord.orderId)) with
  | true =>
    rw [if_pos rfl, Bool.true_and]
    refine ⟨hconfig'.trans hconfig, rfl, exit, hexit, ?_⟩
    show settled.grip = _
    have hopened : seen.openPosition = s.openPosition := congrArg Grip.opened hgrip
    have hseen : (seen.trackOrder ord.orderId status).grip = seen.grip := rfl
    have hseenOpened : (seen.trackOrder ord.orderId status).openPosition = seen.openPosition := rfl
    rw [hgrip', hseen, hseenOpened, htrack, hopened, hgrip]
  | false =>
    rw [if_neg Bool.false_ne_true, Bool.false_and, Bool.false_and, Bool.not_false, Bool.and_true]
    exact ⟨rfl, rfl, s.exitIntentInflight, id, rfl⟩

/-- A stop order may put an exit on its way; it sends at most a cancel. -/
theorem onStopOrder_spec (ord : StopOrderEvent) (nowMs : ℤ) :
    (s.onStopOrder ctx ord nowMs).1.config = s.config ∧
      Quiet s.config.symbol (s.onStopOrder ctx ord nowMs).2 ∧
      ∃ exit : Bool, (s.grip.exit = true → exit = true) ∧
        (s.onStopOrder ctx ord nowMs).1.grip = { s.grip with exit := exit } := by
  unfold onStopOrder
  split_ifs
  · unfold seeSlOrder
    dsimp only
    by_cases htriggered : isTriggeredStatus (toAsciiLowercaseText ord.status) = true
    · rw [if_pos htriggered]
      exact ⟨rfl, .toList_map _ fun _ => rfl, true, fun _ => rfl, rfl⟩
    · rw [if_neg htriggered]
      exact ⟨rfl, .nil, s.exitIntentInflight, id, rfl⟩
  · exact ⟨rfl, .nil, s.exitIntentInflight, id, rfl⟩

/-- A snapshot forgets what is on its way, and its position becomes the strategy's. -/
theorem onBootstrapSnapshot_spec (snapshot : BootstrapSnapshot) :
    (s.onBootstrapSnapshot ctx snapshot).1.config = s.config ∧
      (s.onBootstrapSnapshot ctx snapshot).2 = [] ∧
      (s.onBootstrapSnapshot ctx snapshot).1.grip.exit = false ∧
      (snapshot.positionsStrategy.lookup s.config.symbol = none →
        (s.onBootstrapSnapshot ctx snapshot).1.grip =
          { s.grip with entry := false, exit := false }) ∧
      ∀ position, snapshot.positionsStrategy.lookup s.config.symbol = some position →
        (s.onBootstrapSnapshot ctx snapshot).1.grip.pending = none ∧ (¬|position.qty| < flatQty →
            ∃ pos, (s.onBootstrapSnapshot ctx snapshot).1.grip.opened = some pos ∧
              pos.side = (if 0 ≤ position.qty then .long else .short) ∧
                pos.size = wholeUnits position.qty) := by
  unfold onBootstrapSnapshot
  dsimp only
  cases snapshot.positionsStrategy.lookup s.config.symbol with
  | none =>
    refine ⟨rfl, rfl, rfl, fun _ => rfl, ?_⟩
    intro position hposition
    cases hposition
  | some position =>
    dsimp only
    by_cases hflat : |position.qty| < flatQty
    · rw [if_pos hflat]
      unfold flattenSnapshot
      dsimp only
      split_ifs
      all_goals
        refine ⟨rfl, rfl, rfl, nofun, ?_⟩
        rintro _ ⟨⟩
        exact ⟨rfl, fun hnot => absurd hflat hnot⟩
    · rw [if_neg hflat]
      refine ⟨rfl, rfl, rfl, nofun, ?_⟩
      rintro _ ⟨⟩
      exact ⟨rfl, fun _ => ⟨_, rfl, rfl, rfl⟩⟩

/-- The history changes no grip. -/
theorem warmupFromHistory_spec (bars : List BarEvent) :
    (s.warmupFromHistory ctx bars).1.config = s.config ∧
      (s.warmupFromHistory ctx bars).1.grip = s.grip := by
  have hbar : ∀ (s : AlorUsdrubfHybridStrategy) bar, (s.warmupBar bar).1.config = s.config ∧
      (s.warmupBar bar).1.grip = s.grip := by
    intro s bar
    unfold warmupBar
    dsimp only
    split_ifs <;> exact ⟨rfl, rfl⟩
  have hbars : ∀ bars (s : AlorUsdrubfHybridStrategy), (s.warmupBars bars).1.config = s.config ∧
      (s.warmupBars bars).1.grip = s.grip := by
    intro bars
    induction bars with
    | nil => exact fun s => ⟨rfl, rfl⟩
    | cons bar bars ih =>
      intro s
      obtain ⟨hconfig, hgrip⟩ := hbar s bar
      obtain ⟨hconfig', hgrip'⟩ := ih (s.warmupBar bar).1
      exact ⟨hconfig'.trans hconfig, hgrip'.trans hgrip⟩
  obtain ⟨hconfig, hgrip⟩ := hbars bars s
  unfold warmupFromHistory
  dsimp only
  split_ifs
  · exact ⟨rfl, rfl⟩
  all_goals exact ⟨hconfig, hgrip⟩

end Others

end AlorRs.AlorUsdrubfHybrid
