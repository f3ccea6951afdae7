import AlorRs.StrategyRuntime.Equiv.MoexAuthor4142.Author41
import AlorRs.StrategyRuntime.MoexAuthor4142.Author42

/-!
# What a day of Author42 does

A bar carries out what is pending, manages the position and may make another entry pending.  What is
true of the books of a day is kept by each of these parts (`Books.onBar`), so it is true of a whole
day (`books_day`).
-/

namespace AlorRs.MoexAuthor4142

namespace Author42Day

variable {seen seen' : List NaiveDateTime} {s s' : Author42Day} {bar : ModelBar}

/-! ### One bar -/

def held (pos : OpenAuthor42Position) : OpenAuthor42Position :=
  { pos with barsHeld := pos.barsHeld + 1 }

def entered (s : Author42Day) (side : ShadowSide) (bar : ModelBar) : Author42Day :=
  { s with
    pending := none
    pos := some ⟨side, bar.tsLocal, bar.opened, 0⟩
    wasLongToday := side = .long || s.wasLongToday
    wasShortToday := side = .short || s.wasShortToday
    entriesToday := s.entriesToday + 1 }

/-- Nothing is carried out, a position is closed, or one is opened. -/
theorem carryOut_cases (s : Author42Day) (config : Author42Config) (bar : ModelBar) :
    s.carryOut config bar = { s with pending := none } ∨
    (∃ pos reason, s.pos = some pos ∧ s.pending = some (.exit reason) ∧ s.carryOut config bar =
        close { s with pending := none } pos config bar.tsLocal bar.opened reason) ∨
    ∃ side, s.pos = none ∧ s.pending = some (.entry side) ∧
      s.carryOut config bar = s.entered side bar := by
  unfold carryOut
  cases hpending : s.pending with
  | none => exact .inl rfl
  | some pending =>
    cases pending with
    | exit reason =>
      cases hpos : s.pos with
      | none => exact .inl rfl
      | some pos => exact .inr (.inl ⟨pos, reason, rfl, rfl, rfl⟩)
    | entry side =>
      cases hpos : s.pos with
      | none => exact .inr (.inr ⟨side, rfl, rfl, rfl⟩)
      | some pos => exact .inl rfl

/-- A bar finds no position, closes one by its time, or carries it on with or without a stop. -/
theorem manage_cases (s : Author42Day) (plan : Author42DayPlan) (bar : ModelBar) :
    (s.pos = none ∧ (s.manage plan bar).1 = s) ∨
    (∃ pos, s.pos = some pos ∧ (s.manage plan bar).1 =
      s.close (held pos) plan.config bar.tsLocal bar.close "time_exit_same_bar_close") ∨
    ∃ pos, s.pos = some pos ∧ (s.manage plan bar).1 = { s with
        pos := some (held pos)
        pending := ((stopReason plan pos.side bar).map Author42Pending.exit).or s.pending } := by
  unfold manage
  cases hpos : s.pos with
  | none => exact .inl ⟨rfl, rfl⟩
  | some pos =>
    right
    split_ifs
    · exact .inl ⟨pos, rfl, rfl⟩
    · exact .inr ⟨pos, rfl, rfl⟩

/-! ### The books -/

/-- The books of a day after bars at some times: the trades and the position are of these times, a
trade does not close before it opens, and the points are those of the trades. -/
structure Books (seen : List NaiveDateTime) (s : Author42Day) : Prop where
  entry : ∀ trade ∈ s.trades, trade.entryTs ∈ seen
  exit : ∀ trade ∈ s.trades, trade.exitTs ∈ seen
  order : ∀ trade ∈ s.trades, trade.entryTs ≤ trade.exitTs
  pos : ∀ pos, s.pos = some pos → pos.entryTs ∈ seen
  pnl : s.pnl = (s.trades.map Author42Trade.pnlPoints).sum

/-- The books say nothing of levels, extremes, counts and of what is pending. -/
theorem Books.of_eq (h : Books seen s) (htrades : s'.trades = s.trades) (hpos : s'.pos = s.pos)
    (hpnl : s'.pnl = s.pnl) : Books seen s' where
  entry := htrades ▸ h.entry
  exit := htrades ▸ h.exit
  order := htrades ▸ h.order
  pos := hpos ▸ h.pos
  pnl := by rw [hpnl, htrades, h.pnl]

theorem Books.mono (h : Books seen s) (hseen : ∀ ts ∈ seen, ts ∈ seen') : Books seen' s where
  entry := fun trade htrade => hseen _ (h.entry trade htrade)
  exit := fun trade htrade => hseen _ (h.exit trade htrade)
  order := h.order
  pos := fun pos hpos => hseen _ (h.pos pos hpos)
  pnl := h.pnl

variable {pos : OpenAuthor42Position}

/-- A position is closed at a time that has come, and at none that it has not. -/
theorem Books.close (h : Books seen s) (hpos : pos.entryTs ∈ seen) {ts : NaiveDateTime}
    (hts : ts ∈ seen) (hlast : pos.entryTs ≤ ts) (config : Author42Config) (price : ℚ)
    (reason : String) : Books seen (s.close pos config ts price reason) where
  entry := by
    intro trade htrade
    rcases List.mem_append.mp htrade with hbefore | hnew
    · exact h.entry trade hbefore
    · rw [List.mem_singleton.mp hnew]
      exact hpos
  exit := by
    intro trade htrade
    rcases List.mem_append.mp htrade with hbefore | hnew
    · exact h.exit trade hbefore
    · rw [List.mem_singleton.mp hnew]
      exact hts
  order := by
    intro trade htrade
    rcases List.mem_append.mp htrade with hbefore | hnew
    · exact h.order trade hbefore
    · rw [List.mem_singleton.mp hnew]
      exact hlast
  pos := nofun
  pnl := by
    show s.pnl + _ = ((s.trades ++ [_]).map Author42Trade.pnlPoints).sum
    rw [List.map_append, List.sum_append, ← h.pnl]
    simp

theorem Books.carryOut (h : Books seen s) (hlast : ∀ ts ∈ seen, ts ≤ bar.tsLocal)
    (config : Author42Config) : Books (seen ++ [bar.tsLocal]) (s.carryOut config bar) := by
  have hmono : Books (seen ++ [bar.tsLocal]) { s with pending := none } :=
    (h.mono fun ts => List.mem_append_left _).of_eq rfl rfl rfl
  obtain heq | ⟨pos, reason, hpos, _, heq⟩ | ⟨side, _, _, heq⟩ := carryOut_cases s config bar
  · rw [heq]
    exact hmono
  · rw [heq]
    have hentry := h.pos pos hpos
    exact hmono.close (List.mem_append_left _ hentry) (List.mem_append_right _ List.mem_cons_self)
      (hlast _ hentry) _ _ _
  · rw [heq]
    refine { hmono with pos := ?_ }
    intro pos hpos
    rw [← Option.some.inj hpos]
    exact List.mem_append_right _ List.mem_cons_self

theorem Books.manage (h : Books seen s) (hbar : bar.tsLocal ∈ seen)
    (hlast : ∀ ts ∈ seen, ts ≤ bar.tsLocal) (plan : Author42DayPlan) :
    Books seen (s.manage plan bar).1 := by
  obtain ⟨_, heq⟩ | ⟨pos, hpos, heq⟩ | ⟨pos, hpos, heq⟩ := manage_cases s plan bar
  · rw [heq]
    exact h
  · rw [heq]
    have hentry : (held pos).entryTs ∈ seen := h.pos pos hpos
    exact h.close hentry hbar (hlast _ hentry) _ _ _
  · rw [heq]
    refine { h with pos := ?_ }
    intro pos' hpos'
    rw [← Option.some.inj hpos']
    exact h.pos pos hpos

def managed (s : Author42Day) (plan : Author42DayPlan) (bar : ModelBar) : Author42Day :=
  (((s.carryOut plan.config bar).addExtremes bar).manage plan bar).1

/-- What a bar does after that: it may make an entry pending, where nothing is held and the day has
room for it. -/
structure Signals (plan : Author42DayPlan) (s s' : Author42Day) : Prop where
  trades : s'.trades = s.trades
  pos : s'.pos = s.pos
  pnl : s'.pnl = s.pnl
  entriesToday : s'.entriesToday = s.entriesToday
  pending : s'.pending = s.pending ∨ ∃ side, s'.pending = some (.entry side) ∧ s.pos = none ∧
    ∀ maxEntries, plan.config.maxEntriesPerDay = some maxEntries → s.entriesToday < maxEntries

theorem Signals.refl (plan : Author42DayPlan) (s : Author42Day) : Signals plan s s :=
  ⟨rfl, rfl, rfl, rfl, .inl rfl⟩

theorem signals_setLevels (s : Author42Day) (plan : Author42DayPlan) (b : DayBar) :
    Signals plan s (s.setLevels plan b) := by
  unfold setLevels
  split
  · exact ⟨rfl, rfl, rfl, rfl, .inl rfl⟩
  · exact .refl plan s

variable {plan : Author42DayPlan} {b : DayBar}

theorem entrySignal_room {side : ShadowSide} (h : s.entrySignal plan b = some side) :
    s.pos = none ∧ ∀ maxEntries, plan.config.maxEntriesPerDay = some maxEntries →
        s.entriesToday < maxEntries := by
  unfold entrySignal at h
  split at h
  · exact nomatch h
  · next hfree =>
    have hpos : s.pos = none := by
      simp only [Bool.or_eq_true, not_or] at hfree
      simpa using hfree.1.2
    refine ⟨hpos, ?_⟩
    intro maxEntries hmax
    split at h
    · split at h
      · exact nomatch h
      · split at h
        · exact nomatch h
        · next hroom =>
          rw [hmax] at hroom
          simpa using hroom
    · exact nomatch h

theorem signals_onBar (s : Author42Day) (plan : Author42DayPlan) (b : DayBar) :
    Signals plan (s.managed plan b.bar) (s.onBar plan b) := by
  unfold Author42Day.onBar managed
  generalize ((s.carryOut plan.config b.bar).addExtremes b.bar).manage plan b.bar = answer
  obtain ⟨m, closed⟩ := answer
  dsimp only
  split
  · exact .refl plan m
  · have hlevels := signals_setLevels m plan b
    cases hsignal : (m.setLevels plan b).entrySignal plan b with
    | none => exact hlevels
    | some side =>
      obtain ⟨hpos, hroom⟩ := entrySignal_room hsignal
      rw [hlevels.pos] at hpos
      rw [hlevels.entriesToday] at hroom
      exact ⟨hlevels.trades, hlevels.pos, hlevels.pnl, hlevels.entriesToday,
        .inr ⟨side, rfl, hpos, hroom⟩⟩

theorem Books.onBar (h : Books seen s) (hlast : ∀ ts ∈ seen, ts ≤ b.bar.tsLocal) :
    Books (seen ++ [b.bar.tsLocal]) (s.onBar plan b) := by
  have hlast' : ∀ ts ∈ seen ++ [b.bar.tsLocal], ts ≤ b.bar.tsLocal := by
    intro ts hts
    rcases List.mem_append.mp hts with hbefore | hbar
    · exact hlast ts hbefore
    · exact (List.mem_singleton.mp hbar).le
  have hcarried := h.carryOut hlast plan.config
  have hextremes : Books (seen ++ [b.bar.tsLocal])
      ((s.carryOut plan.config b.bar).addExtremes b.bar) := hcarried.of_eq rfl rfl rfl
  have hmanaged : Books (seen ++ [b.bar.tsLocal]) (s.managed plan b.bar) :=
    hextremes.manage (List.mem_append_right _ List.mem_cons_self) hlast' plan
  have hsignals := signals_onBar s plan b
  exact hmanaged.of_eq hsignals.trades hsignals.pos hsignals.pnl

theorem books_start : Books [] start where
  entry := fun _ htrade => absurd htrade List.not_mem_nil
  exit := fun _ htrade => absurd htrade List.not_mem_nil
  order := fun _ htrade => absurd htrade List.not_mem_nil
  pos := nofun
  pnl := rfl

variable {bars : List ModelBar}

theorem Books.dayBars (index : ℕ) (h : Books seen s)
    (hsorted : (seen ++ bars.map ModelBar.tsLocal).Pairwise (· ≤ ·)) :
    Books (seen ++ bars.map ModelBar.tsLocal)
      ((dayBars index bars).foldl (Author42Day.onBar plan) s) := by
  induction bars generalizing seen s index with
  | nil =>
    rw [List.map_nil, List.append_nil]
    exact h
  | cons bar bars ih =>
    rw [List.map_cons, List.append_cons] at hsorted ⊢
    have hlast : ∀ ts ∈ seen, ts ≤ bar.tsLocal := by
      intro ts hts
      have hseen := (List.pairwise_append.mp (List.pairwise_append.mp hsorted).1).2.2
      exact hseen ts hts bar.tsLocal List.mem_cons_self
    exact ih (index + 1) (h.onBar (b := ⟨index, bar, bars.head?⟩) hlast) hsorted

theorem Books.forceClose (h : Books seen s) {last : ModelBar} (hmem : last.tsLocal ∈ seen)
    (hlast : ∀ ts ∈ seen, ts ≤ last.tsLocal) (config : Author42Config) :
    Books seen (s.forceClose config last) := by
  unfold Author42Day.forceClose
  split
  · exact h
  · next pos hpos =>
    have hentry := h.pos pos hpos
    exact h.close hentry hmem (hlast _ hentry) _ _ _

/-! ### Every position has one trade -/

def entries (s : Author42Day) : List NaiveDateTime :=
  s.trades.map Author42Trade.entryTs ++ s.pos.toList.map OpenAuthor42Position.entryTs

def openedBy (s : Author42Day) (config : Author42Config) (bar : ModelBar) :
    Option OpenAuthor42Position :=
  if (s.carryOut config bar).entriesToday = s.entriesToday then none
  else (s.carryOut config bar).pos

def opens (plan : Author42DayPlan) : Author42Day → List DayBar → List OpenAuthor42Position
  | _, [] => []
  | s, b :: bars => (s.openedBy plan.config b.bar).toList ++ opens plan (s.onBar plan b) bars

variable {pos' : OpenAuthor42Position}

theorem entries_close (hpos : s.pos = some pos') (hentry : pos.entryTs = pos'.entryTs)
    (config : Author42Config) (ts : NaiveDateTime) (price : ℚ) (reason : String) :
    (s.close pos config ts price reason).entries = s.entries := by
  unfold entries
  rw [hpos]
  show (s.trades ++ [closeAuthor42Position pos ts price reason config.roundtripCostPoints]).map _ ++
    [] = _ ++ [pos'.entryTs]
  rw [List.map_append, List.append_nil, ← hentry]
  rfl

theorem entries_carryOut (s : Author42Day) (config : Author42Config) (bar : ModelBar) :
    (s.carryOut config bar).entries =
        s.entries ++ (s.openedBy config bar).toList.map OpenAuthor42Position.entryTs ∧
      (s.carryOut config bar).entriesToday =
        s.entriesToday + (s.openedBy config bar).toList.length := by
  unfold openedBy
  obtain heq | ⟨pos, reason, hpos, _, heq⟩ | ⟨side, hpos, _, heq⟩ := carryOut_cases s config bar
  · rw [heq, if_pos rfl]
    exact ⟨(List.append_nil _).symm, rfl⟩
  · have hcount : (close { s with pending := none } pos config bar.tsLocal bar.opened
        reason).entriesToday = s.entriesToday := rfl
    rw [heq, if_pos hcount]
    have hclosed := entries_close (s := { s with pending := none }) hpos rfl config bar.tsLocal
      bar.opened reason
    exact ⟨hclosed.trans (List.append_nil _).symm, rfl⟩
  · have hcount : (s.entered side bar).entriesToday ≠ s.entriesToday := Nat.succ_ne_self _
    rw [heq, if_neg hcount]
    refine ⟨?_, rfl⟩
    unfold entries
    rw [hpos]
    show s.trades.map _ ++ [bar.tsLocal] = (s.trades.map _ ++ []) ++ [bar.tsLocal]
    rw [List.append_nil]

theorem entries_manage (s : Author42Day) (plan : Author42DayPlan) (bar : ModelBar) :
    (s.manage plan bar).1.entries = s.entries ∧
      (s.manage plan bar).1.entriesToday = s.entriesToday := by
  obtain ⟨_, heq⟩ | ⟨pos, hpos, heq⟩ | ⟨pos, hpos, heq⟩ := manage_cases s plan bar
  · rw [heq]
    exact ⟨rfl, rfl⟩
  · rw [heq]
    have hsame : (held pos).entryTs = pos.entryTs := rfl
    exact ⟨entries_close hpos hsame _ _ _ _, rfl⟩
  · rw [heq]
    refine ⟨?_, rfl⟩
    unfold entries
    rw [hpos]
    rfl

theorem entries_onBar (s : Author42Day) (plan : Author42DayPlan) (b : DayBar) :
    (s.onBar plan b).entries =
        s.entries ++ (s.openedBy plan.config b.bar).toList.map OpenAuthor42Position.entryTs ∧
      (s.onBar plan b).entriesToday =
        s.entriesToday + (s.openedBy plan.config b.bar).toList.length := by
  have hcarried := entries_carryOut s plan.config b.bar
  have hmanaged := entries_manage ((s.carryOut plan.config b.bar).addExtremes b.bar) plan b.bar
  have hsignals := signals_onBar s plan b
  have hentries : (s.onBar plan b).entries = (s.managed plan b.bar).entries := by
    unfold entries
    rw [hsignals.trades, hsignals.pos]
  rw [hentries, hsignals.entriesToday]
  exact ⟨hmanaged.1.trans hcarried.1, hmanaged.2.trans hcarried.2⟩

/-- Over some bars each position that is opened has a trade, or is the one that is held. -/
theorem entries_over (plan : Author42DayPlan) (s : Author42Day) (bars : List DayBar) :
    (bars.foldl (Author42Day.onBar plan) s).entries =
        s.entries ++ (opens plan s bars).map OpenAuthor42Position.entryTs ∧
      (bars.foldl (Author42Day.onBar plan) s).entriesToday =
        s.entriesToday + (opens plan s bars).length := by
  induction bars generalizing s with
  | nil => exact ⟨(List.append_nil _).symm, rfl⟩
  | cons b bars ih =>
    obtain ⟨hentries, hcount⟩ := entries_onBar s plan b
    obtain ⟨hentries', hcount'⟩ := ih (s.onBar plan b)
    have hopens : opens plan s (b :: bars) =
        (s.openedBy plan.config b.bar).toList ++ opens plan (s.onBar plan b) bars := rfl
    rw [List.foldl_cons, hentries', hcount', hentries, hcount, hopens, List.map_append,
      List.append_assoc, List.length_append, Nat.add_assoc]
    exact ⟨rfl, rfl⟩

theorem entries_forceClose (s : Author42Day) (config : Author42Config) (last : ModelBar) :
    (s.forceClose config last).trades.map Author42Trade.entryTs = s.entries := by
  unfold forceClose entries
  cases hpos : s.pos with
  | none => exact (List.append_nil _).symm
  | some pos =>
    show (s.trades ++ [_]).map _ = _
    rw [List.map_append]
    rfl

/-! ### The order of the trades -/

/-- The trades of a day lie apart, and so does the position from them; a trade lasts, unless it is
closed by its time; none is closed by force yet; and the day has room for what it makes pending. -/
structure Orderly (config : Author42Config) (s : Author42Day) : Prop where
  apart : s.trades.Pairwise fun a b => a.exitTs < b.entryTs
  later : ∀ pos, s.pos = some pos → ∀ trade ∈ s.trades, trade.exitTs < pos.entryTs
  lasting : ∀ trade ∈ s.trades,
    trade.entryTs < trade.exitTs ∨ trade.exitReason = "time_exit_same_bar_close"
  unforced : ∀ trade ∈ s.trades, trade.exitReason ≠ "forced_last_bar_close"
  stops : ∀ reason, s.pending = some (.exit reason) → reason ≠ "forced_last_bar_close"
  room : ∀ maxEntries, config.maxEntriesPerDay = some maxEntries → s.entriesToday ≤ maxEntries
  roomLeft : ∀ side, s.pending = some (.entry side) →
    ∀ maxEntries, config.maxEntriesPerDay = some maxEntries → s.entriesToday < maxEntries

variable {config : Author42Config}

theorem orderly_start (config : Author42Config) : Orderly config start where
  apart := List.Pairwise.nil
  later := nofun
  lasting := fun _ htrade => absurd htrade List.not_mem_nil
  unforced := fun _ htrade => absurd htrade List.not_mem_nil
  stops := nofun
  room := fun _ _ => Nat.zero_le _
  roomLeft := nofun

theorem Orderly.close (h : Orderly config s) (hpos : s.pos = some pos')
    (hentry : pos.entryTs = pos'.entryTs) {ts : NaiveDateTime} {reason : String}
    (hlasting : pos.entryTs < ts ∨ reason = "time_exit_same_bar_close")
    (hreason : reason ≠ "forced_last_bar_close") (price : ℚ) :
    Orderly config (s.close pos config ts price reason) where
  apart := by
    refine List.pairwise_append.mpr ⟨h.apart, List.pairwise_singleton _ _, ?_⟩
    intro a ha b hb
    rw [List.mem_singleton.mp hb]
    show a.exitTs < pos.entryTs
    rw [hentry]
    exact h.later pos' hpos a ha
  later := nofun
  lasting := by
    intro trade htrade
    rcases List.mem_append.mp htrade with hbefore | hnew
    · exact h.lasting trade hbefore
    · rw [List.mem_singleton.mp hnew]
      exact hlasting
  unforced := by
    intro trade htrade
    rcases List.mem_append.mp htrade with hbefore | hnew
    · exact h.unforced trade hbefore
    · rw [List.mem_singleton.mp hnew]
      exact hreason
  stops := h.stops
  room := h.room
  roomLeft := h.roomLeft

theorem Orderly.carryOut (h : Orderly config s) (hbooks : Books seen s)
    (hlast : ∀ ts ∈ seen, ts < bar.tsLocal) : Orderly config (s.carryOut config bar) := by
  have hcleared : Orderly config { s with pending := none } :=
    { h with
      stops := nofun
      roomLeft := nofun }
  obtain heq | ⟨pos, reason, hpos, hpending, heq⟩ | ⟨side, hpos, hpending, heq⟩ :=
    carryOut_cases s config bar
  · rw [heq]
    exact hcleared
  · rw [heq]
    exact hcleared.close hpos rfl (.inl (hlast _ (hbooks.pos pos hpos))) (h.stops reason hpending) _
  · rw [heq]
    refine
      { hcleared with
        later := ?_
        room := ?_
        roomLeft := nofun }
    · intro pos hopened trade htrade
      rw [← Option.some.inj hopened]
      exact hlast _ (hbooks.exit trade htrade)
    · intro maxEntries hmax
      exact h.roomLeft side hpending maxEntries hmax

theorem stopReason_ne {side : ShadowSide} {reason : String}
    (h : stopReason plan side bar = some reason) : reason ≠ "forced_last_bar_close" := by
  unfold stopReason at h
  cases side
  all_goals
    dsimp only at h
    split_ifs at h
    all_goals
      rw [← Option.some.inj h]
      decide

theorem Orderly.manage (h : Orderly plan.config s) : Orderly plan.config (s.manage plan bar).1 := by
  obtain ⟨_, heq⟩ | ⟨pos, hpos, heq⟩ | ⟨pos, hpos, heq⟩ := manage_cases s plan bar
  · rw [heq]
    exact h
  -- the stop was pending, and closes the position at the open
  · rw [heq]
    have hsame : (held pos).entryTs = pos.entryTs := rfl
    exact h.close hpos hsame (.inr rfl) (by decide) _
  · rw [heq]
    refine
      { h with
        later := ?_
        stops := ?_
        roomLeft := ?_ }
    · intro pos' hpos' trade htrade
      rw [← Option.some.inj hpos']
      exact h.later pos hpos trade htrade
    -- what is pending is an exit, or stays what it was
    · intro reason hpending
      cases hstop : stopReason plan pos.side bar with
      | none =>
        rw [hstop] at hpending
        exact h.stops reason hpending
      | some reason' =>
        rw [hstop] at hpending
        have hreason : reason' = reason := Author42Pending.exit.inj (Option.some.inj hpending)
        exact hreason ▸ stopReason_ne hstop
    · intro side hpending
      cases hstop : stopReason plan pos.side bar with
      | none =>
        rw [hstop] at hpending
        exact h.roomLeft side hpending
      | some reason' =>
        rw [hstop] at hpending
        exact nomatch Option.some.inj hpending

theorem Orderly.onBar (h : Orderly plan.config s) (hbooks : Books seen s)
    (hlast : ∀ ts ∈ seen, ts < b.bar.tsLocal) : Orderly plan.config (s.onBar plan b) := by
  have hcarried := h.carryOut hbooks hlast
  have hextremes : Orderly plan.config ((s.carryOut plan.config b.bar).addExtremes b.bar) :=
    { hcarried with }
  have hmanaged : Orderly plan.config (s.managed plan b.bar) := hextremes.manage
  have hsignals := signals_onBar s plan b
  exact
    { apart := hsignals.trades ▸ hmanaged.apart
      later := by rw [hsignals.pos, hsignals.trades]; exact hmanaged.later
      lasting := hsignals.trades ▸ hmanaged.lasting
      unforced := hsignals.trades ▸ hmanaged.unforced
      stops := by
        intro reason hpending
        obtain hsame | ⟨side, hentry, _⟩ := hsignals.pending
        · exact hmanaged.stops reason (hsame ▸ hpending)
        · rw [hentry] at hpending
          exact nomatch Option.some.inj hpending
      room := hsignals.entriesToday ▸ hmanaged.room
      roomLeft := by
        intro side hpending maxEntries hmax
        rw [hsignals.entriesToday]
        obtain hsame | ⟨side', _, _, hroom⟩ := hsignals.pending
        · exact hmanaged.roomLeft side (hsame ▸ hpending) maxEntries hmax
        · exact hroom maxEntries hmax }

theorem Orderly.dayBars (index : ℕ) (h : Orderly plan.config s) (hbooks : Books seen s)
    (hsorted : (seen ++ bars.map ModelBar.tsLocal).Pairwise (· < ·)) :
    Orderly plan.config ((dayBars index bars).foldl (Author42Day.onBar plan) s) := by
  induction bars generalizing seen s index with
  | nil => exact h
  | cons bar bars ih =>
    rw [List.map_cons, List.append_cons] at hsorted
    have hlast : ∀ ts ∈ seen, ts < bar.tsLocal := by
      intro ts hts
      have hseen := (List.pairwise_append.mp (List.pairwise_append.mp hsorted).1).2.2
      exact hseen ts hts bar.tsLocal List.mem_cons_self
    have hbooks' : Books (seen ++ [bar.tsLocal]) (s.onBar plan ⟨index, bar, bars.head?⟩) :=
      hbooks.onBar (b := ⟨index, bar, bars.head?⟩) fun ts hts => (hlast ts hts).le
    exact ih (index + 1) (h.onBar (b := ⟨index, bar, bars.head?⟩) hbooks hlast) hbooks' hsorted

/-! ### Trades are only added -/

def Adds (times : List NaiveDateTime) (s s' : Author42Day) : Prop :=
  ∃ closed, s'.trades = s.trades ++ closed ∧ ∀ trade ∈ closed, trade.exitTs ∈ times

variable {times : List NaiveDateTime}

theorem Adds.of_eq (h : s'.trades = s.trades) : Adds times s s' :=
  ⟨[], by rw [h, List.append_nil], fun _ htrade => absurd htrade List.not_mem_nil⟩

theorem Adds.trans {times' : List NaiveDateTime} {s'' : Author42Day} (h : Adds times s s')
    (h' : Adds times' s' s'') : Adds (times ++ times') s s'' := by
  obtain ⟨closed, htrades, hexits⟩ := h
  obtain ⟨closed', htrades', hexits'⟩ := h'
  refine ⟨closed ++ closed', by rw [htrades', htrades, List.append_assoc], ?_⟩
  intro trade htrade
  rcases List.mem_append.mp htrade with hbefore | hnew
  · exact List.mem_append_left _ (hexits trade hbefore)
  · exact List.mem_append_right _ (hexits' trade hnew)

theorem adds_close (s : Author42Day) (pos : OpenAuthor42Position) (config : Author42Config)
    (ts : NaiveDateTime) (price : ℚ) (reason : String) :
    Adds [ts] s (s.close pos config ts price reason) := by
  refine ⟨[_], rfl, ?_⟩
  intro trade htrade
  rw [List.mem_singleton.mp htrade]
  exact List.mem_cons_self

theorem adds_onBar (s : Author42Day) (plan : Author42DayPlan) (b : DayBar) :
    Adds [b.bar.tsLocal] s (s.onBar plan b) := by
  have hcarried : Adds [b.bar.tsLocal] s (s.carryOut plan.config b.bar) := by
    obtain heq | ⟨pos, reason, _, _, heq⟩ | ⟨side, _, _, heq⟩ := carryOut_cases s plan.config b.bar
    · rw [heq]
      exact .of_eq rfl
    · rw [heq]
      exact adds_close { s with pending := none } pos plan.config _ _ _
    · rw [heq]
      exact .of_eq rfl
  have hmanaged : Adds [b.bar.tsLocal] (s.carryOut plan.config b.bar) (s.managed plan b.bar) := by
    unfold managed
    obtain ⟨_, heq⟩ | ⟨pos, _, heq⟩ | ⟨pos, _, heq⟩ :=
      manage_cases ((s.carryOut plan.config b.bar).addExtremes b.bar) plan b.bar
    · rw [heq]
      exact .of_eq rfl
    · rw [heq]
      exact adds_close ((s.carryOut plan.config b.bar).addExtremes b.bar) _ plan.config _ _ _
    · rw [heq]
      exact .of_eq rfl
  obtain ⟨closed, htrades, hexits⟩ := hcarried.trans hmanaged
  refine ⟨closed, (signals_onBar s plan b).trades.trans htrades, ?_⟩
  intro trade htrade
  simpa using hexits trade htrade

theorem adds_over (plan : Author42DayPlan) (s : Author42Day) (bars : List DayBar) :
    Adds (bars.map fun b => b.bar.tsLocal) s (bars.foldl (Author42Day.onBar plan) s) := by
  induction bars generalizing s with
  | nil => exact .of_eq rfl
  | cons b bars ih => exact (adds_onBar s plan b).trans (ih (s.onBar plan b))

end Author42Day

/-! ### A day -/

open Author42Day

variable {day : ValueGroup ModelBar}

theorem last_of_pairwise (hsorted : (day.all.map ModelBar.tsLocal).Pairwise (· ≤ ·)) :
    ∀ ts ∈ day.all.map ModelBar.tsLocal, ts ≤ day.last.tsLocal := by
  obtain ⟨before, hall⟩ := day.all_eq_concat
  rw [hall, List.map_append, List.map_singleton] at hsorted ⊢
  intro ts hts
  rcases List.mem_append.mp hts with hbefore | hlast
  · exact (List.pairwise_append.mp hsorted).2.2 ts hbefore _ List.mem_cons_self
  · exact (List.mem_singleton.mp hlast).le

variable (date : NaiveDate)

/-- The trades of a day are of its bars, and none closes before it opens. -/
theorem books_runAuthor42Day (hsorted : (day.all.map ModelBar.tsLocal).Pairwise (· ≤ ·))
    (ctx : Author42DailyContext) (config : Author42Config) :
    ∃ s, Books (day.all.map ModelBar.tsLocal) s ∧
      (runAuthor42Day date day ctx config).1 = s.trades ∧
      ∃ skipped, (runAuthor42Day date day ctx config).2 =
        ⟨date, s.pnl, s.trades.length, skipped⟩ := by
  unfold runAuthor42Day
  split
  · exact ⟨.start, books_start.mono fun ts hts => absurd hts List.not_mem_nil, rfl, _, rfl⟩
  · have hstart : ([] ++ day.all.map ModelBar.tsLocal).Pairwise (· ≤ ·) := hsorted
    have hbooks : Books (day.all.map ModelBar.tsLocal) ((dayBars 0 day.all).foldl
        (Author42Day.onBar (dayPlan ctx config day.first day.all.length)) .start) :=
      books_start.dayBars 0 hstart
    have hmem : day.last.tsLocal ∈ day.all.map ModelBar.tsLocal :=
      List.mem_map_of_mem day.last_mem
    exact ⟨_, hbooks.forceClose hmem (last_of_pairwise hsorted) config, rfl, _, rfl⟩

def dayEnd (ctx : Author42DailyContext) (config : Author42Config) (day : ValueGroup ModelBar) :
    Author42Day :=
  (dayBars 0 day.all).foldl (Author42Day.onBar (dayPlan ctx config day.first day.all.length)) .start

def dayOpens (day : ValueGroup ModelBar) (ctx : Author42DailyContext) (config : Author42Config)
    : List OpenAuthor42Position :=
  match skipReason date ctx config with
  | some _ => []
  | none => opens (dayPlan ctx config day.first day.all.length) .start (dayBars 0 day.all)

/-- What is true of the trades of a day whose bars come strictly one after the other. -/
structure DayTrades (config : Author42Config) (opened : List OpenAuthor42Position)
    (trades : List Author42Trade) : Prop where
  entries : opened.map OpenAuthor42Position.entryTs = trades.map Author42Trade.entryTs
  apart : trades.Pairwise fun a b => a.exitTs < b.entryTs
  lasting : ∀ trade ∈ trades, trade.entryTs = trade.exitTs →
    trade.exitReason = "time_exit_same_bar_close" ∨ trade.exitReason = "forced_last_bar_close"
  room : ∀ maxEntries, config.maxEntriesPerDay = some maxEntries → opened.length ≤ maxEntries

theorem DayTrades.nil (config : Author42Config) : DayTrades config [] [] where
  entries := rfl
  apart := List.Pairwise.nil
  lasting := fun _ htrade => absurd htrade List.not_mem_nil
  room := fun _ _ => Nat.zero_le _

theorem orderly_dayEnd (hsorted : (day.all.map ModelBar.tsLocal).Pairwise (· < ·))
    (ctx : Author42DailyContext) (config : Author42Config) :
    Orderly config (dayEnd ctx config day) := by
  have hstart : ([] ++ day.all.map ModelBar.tsLocal).Pairwise (· < ·) := hsorted
  have hplan : Orderly (dayPlan ctx config day.first day.all.length).config .start :=
    orderly_start config
  exact hplan.dayBars 0 books_start hstart

theorem dayTrades_runAuthor42Day (hsorted : (day.all.map ModelBar.tsLocal).Pairwise (· < ·))
    (ctx : Author42DailyContext) (config : Author42Config) :
    DayTrades config (dayOpens date day ctx config) (runAuthor42Day date day ctx config).1 := by
  unfold runAuthor42Day dayOpens
  cases skipReason date ctx config with
  | some reason => exact .nil config
  | none =>
    dsimp only
    have horderly := orderly_dayEnd hsorted ctx config
    -- the entries are counted from the start of the day
    obtain ⟨hentries, hcount⟩ := entries_over (dayPlan ctx config day.first day.all.length) .start
      (dayBars 0 day.all)
    change (dayEnd ctx config day).entries = [] ++ _ at hentries
    change (dayEnd ctx config day).entriesToday = 0 + _ at hcount
    show DayTrades config _ ((dayEnd ctx config day).forceClose config day.last).trades
    refine ⟨?_, ?_, ?_, ?_⟩
    · rw [entries_forceClose, hentries, List.nil_append]
    -- the end of the day may add one trade, which begins last
    · unfold Author42Day.forceClose
      cases hpos : (dayEnd ctx config day).pos with
      | none => exact horderly.apart
      | some pos =>
        refine List.pairwise_append.mpr ⟨horderly.apart, List.pairwise_singleton _ _, ?_⟩
        intro a ha b hb
        rw [List.mem_singleton.mp hb]
        exact horderly.later pos hpos a ha
    · unfold Author42Day.forceClose
      cases hpos : (dayEnd ctx config day).pos with
      | none =>
        intro trade htrade hinstant
        rcases horderly.lasting trade htrade with hlt | hreason
        · exact absurd hinstant hlt.ne
        · exact .inl hreason
      | some pos =>
        intro trade htrade hinstant
        rcases List.mem_append.mp htrade with hbefore | hforced
        · rcases horderly.lasting trade hbefore with hlt | hreason
          · exact absurd hinstant hlt.ne
          · exact .inl hreason
        · rw [List.mem_singleton.mp hforced]
          exact .inr rfl
    · intro maxEntries hmax
      have hroom := horderly.room maxEntries hmax
      omega

/-! ### The replay -/

def barsOf (policy : RegularSessionPolicy) (bars : List ModelBar) (date : NaiveDate) :
    List ModelBar :=
  (modelBars policy bars).filter fun bar => bar.tsLocal.date = date

def author42Days (policy : RegularSessionPolicy) (bars : List ModelBar) :
    OrderedMap NaiveDate (ValueGroup ModelBar) :=
  OrderedMap.group ((modelBars policy bars).map fun bar => (bar.tsLocal.date, bar))

variable {policy : RegularSessionPolicy} {bars : List ModelBar} {date : NaiveDate}

theorem mem_author42Days :
    (date, day) ∈ (author42Days policy bars).entries ↔ day.all = barsOf policy bars date := by
  have hvalues : OrderedMap.valuesOf ((modelBars policy bars).map fun bar => (bar.tsLocal.date, bar))
      date = barsOf policy bars date := by
    unfold OrderedMap.valuesOf barsOf
    rw [List.filter_map, List.map_map]
    exact List.map_id _
  unfold author42Days
  rw [OrderedMap.mem_group, hvalues]

theorem pairwise_barsOf (policy : RegularSessionPolicy) (bars : List ModelBar) (date : NaiveDate) :
    ((barsOf policy bars date).map ModelBar.tsLocal).Pairwise (· ≤ ·) :=
  List.pairwise_map.mpr ((pairwise_modelBars policy bars).filter _)

theorem mem_barsOf {bar : ModelBar} :
    bar ∈ barsOf policy bars date ↔ bar ∈ modelBars policy bars ∧ bar.tsLocal.date = date := by
  unfold barsOf
  rw [List.mem_filter, decide_eq_true_iff]

variable {config : Author42Config} {trade : Author42Trade}

def tradesOfDay (policy : RegularSessionPolicy) (config : Author42Config) (bars : List ModelBar)
    (day : NaiveDate × ValueGroup ModelBar) : List Author42Trade :=
  (replayAuthor42Day (buildAuthor42DailyContext (modelBars policy bars)) config day).1

theorem trades_eq_flatMap (config : Author42Config) (bars : List ModelBar)
    (policy : RegularSessionPolicy) :
    (replayAuthor42 bars config policy).trades =
      (author42Days policy bars).entries.flatMap (tradesOfDay policy config bars) :=
  List.flatMap_map _ _ _

/-- The books of a day of the replay, and the row of the day. -/
theorem books_of_mem (config : Author42Config)
    (hday : (date, day) ∈ (author42Days policy bars).entries) :
    ∃ s, Books ((barsOf policy bars date).map ModelBar.tsLocal) s ∧
      tradesOfDay policy config bars (date, day) = s.trades ∧
      ∃ skipped, (replayAuthor42Day (buildAuthor42DailyContext (modelBars policy bars)) config
        (date, day)).2 = ⟨date, s.pnl, s.trades.length, skipped⟩ := by
  have hall := mem_author42Days.mp hday
  have hsorted := pairwise_barsOf policy bars date
  rw [← hall] at hsorted ⊢
  unfold tradesOfDay replayAuthor42Day
  cases (buildAuthor42DailyContext (modelBars policy bars)).get? date with
  | none =>
    exact ⟨.start, books_start.mono fun ts hts => absurd hts List.not_mem_nil, rfl, _, rfl⟩
  | some ctx => exact books_runAuthor42Day date hsorted ctx config

theorem exists_books_of_mem_replayAuthor42 (h : trade ∈ (replayAuthor42 bars config policy).trades) :
    ∃ date s, Books ((barsOf policy bars date).map ModelBar.tsLocal) s ∧ trade ∈ s.trades := by
  rw [trades_eq_flatMap] at h
  obtain ⟨⟨date, day⟩, hday, htrade⟩ := List.mem_flatMap.mp h
  obtain ⟨s, hbooks, htrades, _⟩ := books_of_mem config hday
  exact ⟨date, s, hbooks, htrades ▸ htrade⟩

theorem entry_le_exit_of_mem_replayAuthor42
    (h : trade ∈ (replayAuthor42 bars config policy).trades) : trade.entryTs ≤ trade.exitTs := by
  obtain ⟨date, s, hbooks, htrade⟩ := exists_books_of_mem_replayAuthor42 h
  exact hbooks.order trade htrade

theorem date_of_mem_replayAuthor42 (h : trade ∈ (replayAuthor42 bars config policy).trades) :
    trade.entryTs.date = trade.exitTs.date := by
  obtain ⟨date, s, hbooks, htrade⟩ := exists_books_of_mem_replayAuthor42 h
  obtain ⟨bar, hbar, hentry⟩ := List.mem_map.mp (hbooks.entry trade htrade)
  obtain ⟨bar', hbar', hexit⟩ := List.mem_map.mp (hbooks.exit trade htrade)
  rw [← hentry, ← hexit, (mem_barsOf.mp hbar).2, (mem_barsOf.mp hbar').2]

end AlorRs.MoexAuthor4142
