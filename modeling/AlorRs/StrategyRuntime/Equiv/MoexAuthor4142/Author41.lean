import AlorRs.StrategyRuntime.MoexAuthor4142.Author41

/-!
# What the engine of Author41 does over some bars

A bar carries a position on, closes it, or opens one, and a trade closes at a later bar of the date
of its entry (`sublist_of_mem_closes`, `date_of_mem_closes`).  The replay is a run of the engine
(`replayAuthor41_eq`).
-/

namespace AlorRs.MoexAuthor4142

/-! ### Bars in order -/

instance : Std.Total fun bar bar' : ModelBar => bar.tsLocal ≤ bar'.tsLocal :=
  ⟨fun bar bar' => le_total bar.tsLocal bar'.tsLocal⟩

instance : IsTrans ModelBar fun bar bar' => bar.tsLocal ≤ bar'.tsLocal :=
  ⟨fun _ _ _ => le_trans⟩

variable (policy : RegularSessionPolicy) (bars : List ModelBar)

theorem pairwise_modelBars :
    (modelBars policy bars).Pairwise fun bar bar' => bar.tsLocal ≤ bar'.tsLocal :=
  List.pairwise_insertionSort _ _

variable {bars : List ModelBar}

theorem mem_modelBars {policy : RegularSessionPolicy} {bar : ModelBar} :
    bar ∈ modelBars policy bars ↔ bar ∈ bars ∧ policy.isModelBar bar.tsLocal = true := by
  unfold modelBars
  rw [List.mem_insertionSort, List.mem_filter]

/-- The bars of the session, once they are in order, stay what they are. -/
theorem modelBars_modelBars : modelBars policy (modelBars policy bars) = modelBars policy bars := by
  have hfilter : (modelBars policy bars).filter (fun bar => policy.isModelBar bar.tsLocal) =
      modelBars policy bars :=
    List.filter_eq_self.mpr fun bar hbar => (mem_modelBars.mp hbar).2
  have hsorted := pairwise_modelBars policy bars
  generalize modelBars policy bars = filtered at hfilter hsorted ⊢
  unfold modelBars
  rw [hfilter]
  exact hsorted.insertionSort_eq

namespace Author41Engine

variable {engine : Author41Engine} {bar : ModelBar} {anchor : Option DailyAnchor}

/-! ### One bar -/

def held (pos : OpenAuthor41Position) : OpenAuthor41Position :=
  { pos with barsHeld := pos.barsHeld + 1 }

/-- A bar finds no position, carries one on, or closes it. -/
theorem manage_cases (engine : Author41Engine) (bar : ModelBar) :
    (engine.position = none ∧ engine.manage bar = (engine, [])) ∨
    (∃ pos, engine.position = some pos ∧ exitSignal engine.config (held pos) bar = none ∧
      engine.manage bar = ({ engine with position := some (held pos) }, [])) ∨
    ∃ pos exitPrice reason, engine.position = some pos ∧
      exitSignal engine.config (held pos) bar = some (exitPrice, reason) ∧
      engine.manage bar = ({ engine with position := none },
        [closePosition engine.config (held pos) bar.tsLocal exitPrice reason]) := by
  unfold manage
  cases hposition : engine.position with
  | none => exact .inl ⟨rfl, rfl⟩
  | some pos =>
    right
    dsimp only
    show (∃ pos', some pos = some pos' ∧ _ ∧ _) ∨ _
    cases hexit : exitSignal engine.config (held pos) bar with
    | none =>
      refine .inl ⟨pos, rfl, hexit, ?_⟩
      change exitSignal engine.config { pos with barsHeld := pos.barsHeld + 1 } bar = none at hexit
      rw [hexit]
      rfl
    | some exit =>
      obtain ⟨exitPrice, reason⟩ := exit
      refine .inr ⟨pos, exitPrice, reason, rfl, hexit, ?_⟩
      change exitSignal engine.config { pos with barsHeld := pos.barsHeld + 1 } bar =
        some (exitPrice, reason) at hexit
      rw [hexit]
      rfl

def entered (engine : Author41Engine) (bar : ModelBar) (anchor : DailyAnchor) (side : ShadowSide) :
    Author41Engine :=
  { engine with
    dayEntries := engine.dayEntries + 1
    position := some
      ⟨side, bar.tsLocal, bar.close, anchor.prevClose, anchor.prevRange, 0, engine.dayEntries + 1⟩ }

/-- A bar changes nothing, or opens a position where there is none and the day has room for it. -/
theorem enter_cases (engine : Author41Engine) (bar : ModelBar) (anchor : Option DailyAnchor) :
    engine.enter bar anchor = engine ∨
    ∃ given side, anchor = some given ∧ engine.position = none ∧
      engine.dayEntries < engine.config.maxEntriesPerDay ∧
      engine.enter bar anchor = engine.entered bar given side := by
  unfold enter
  split_ifs with hheld hfull hlate
  · exact .inl rfl
  · exact .inl rfl
  · exact .inl rfl
  · cases anchor with
    | none => exact .inl rfl
    | some given =>
      dsimp only
      split_ifs with hadmits
      · exact .inl rfl
      · cases engine.entrySide bar.close given with
        | none => exact .inl rfl
        | some side =>
          exact .inr ⟨given, side, rfl, by simpa using hheld, not_le.mp hfull, rfl⟩

variable {date : NaiveDate}

theorem startDate_of_eq (h : engine.currentDate = some date) : engine.startDate date = engine := if_pos h

theorem startDate_of_ne (h : engine.currentDate ≠ some date) :
    engine.startDate date = ⟨engine.config, some date, 0, none⟩ := if_neg h

theorem currentDate_startDate (engine : Author41Engine) (date : NaiveDate) :
    (engine.startDate date).currentDate = some date := by
  by_cases h : engine.currentDate = some date
  · rw [startDate_of_eq h, h]
  · rw [startDate_of_ne h]

/-- Neither the position nor an entry changes the date. -/
theorem currentDate_onBar : (engine.onBar bar anchor).1.currentDate = some bar.tsLocal.date := by
  show (((engine.startDate bar.tsLocal.date).manage bar).1.enter bar anchor).currentDate = _
  have hdate := currentDate_startDate engine bar.tsLocal.date
  generalize engine.startDate bar.tsLocal.date = started at hdate ⊢
  have hmanage : (started.manage bar).1.currentDate = some bar.tsLocal.date := by
    obtain ⟨_, heq⟩ | ⟨_, _, _, heq⟩ | ⟨_, _, _, _, _, heq⟩ := manage_cases started bar
    all_goals rw [heq]; exact hdate
  obtain heq | ⟨_, _, _, _, _, heq⟩ := enter_cases (started.manage bar).1 bar anchor
  all_goals rw [heq]; exact hmanage

variable {pos : OpenAuthor41Position}

theorem position_startDate (h : (engine.startDate date).position = some pos) :
    engine.currentDate = some date ∧ engine.position = some pos := by
  by_cases hdate : engine.currentDate = some date
  · rw [startDate_of_eq hdate] at h
    exact ⟨hdate, h⟩
  · rw [startDate_of_ne hdate] at h
    exact nomatch h

variable {trade : Author41Trade}

/-- A trade closes, at its bar, the position that the engine holds on that date. -/
theorem mem_onBar (h : trade ∈ (engine.onBar bar anchor).2) :
    ∃ pos exitPrice reason, engine.currentDate = some bar.tsLocal.date ∧
      engine.position = some pos ∧
      trade = closePosition (engine.startDate bar.tsLocal.date).config (held pos) bar.tsLocal
        exitPrice reason := by
  change trade ∈ ((engine.startDate bar.tsLocal.date).manage bar).2 at h
  obtain ⟨_, heq⟩ | ⟨_, _, _, heq⟩ | ⟨pos, exitPrice, reason, hposition, _, heq⟩ :=
    manage_cases (engine.startDate bar.tsLocal.date) bar
  · rw [heq] at h
    exact absurd h List.not_mem_nil
  · rw [heq] at h
    exact absurd h List.not_mem_nil
  · rw [heq] at h
    obtain ⟨hdate, hheld⟩ := position_startDate hposition
    exact ⟨pos, exitPrice, reason, hdate, hheld, List.mem_singleton.mp h⟩

theorem position_onBar (h : (engine.onBar bar anchor).1.position = some pos) :
    pos.entryTs = bar.tsLocal ∨
      ∃ pos', engine.currentDate = some bar.tsLocal.date ∧ engine.position = some pos' ∧
        pos = held pos' := by
  change (((engine.startDate bar.tsLocal.date).manage bar).1.enter bar anchor).position = _ at h
  obtain heq | ⟨given, side, _, _, _, heq⟩ :=
    enter_cases ((engine.startDate bar.tsLocal.date).manage bar).1 bar anchor
  · rw [heq] at h
    obtain ⟨hnone, hmanage⟩ | ⟨pos', hposition, _, hmanage⟩ | ⟨_, _, _, _, _, hmanage⟩ :=
      manage_cases (engine.startDate bar.tsLocal.date) bar
    · rw [hmanage, hnone] at h
      exact nomatch h
    · rw [hmanage] at h
      obtain ⟨hdate, hheld⟩ := position_startDate hposition
      exact .inr ⟨pos', hdate, hheld, (Option.some.inj h).symm⟩
    · rw [hmanage] at h
      exact nomatch h
  · rw [heq] at h
    exact .inl (congrArg OpenAuthor41Position.entryTs (Option.some.inj h)).symm

def opened (engine : Author41Engine) (bar : ModelBar) (anchor : Option DailyAnchor) :
    Option OpenAuthor41Position :=
  (engine.onBar bar anchor).1.position.filter fun pos => pos.barsHeld = 0

theorem entryTs_of_opened (h : engine.opened bar anchor = some pos) : pos.entryTs = bar.tsLocal := by
  obtain ⟨hposition, hnew⟩ := Option.filter_eq_some_iff.mp h
  obtain hentry | ⟨pos', _, _, rfl⟩ := position_onBar hposition
  · exact hentry
  · simp [held] at hnew

/-- The entry of what is held and what is opened is that of what is closed and what is left. -/
theorem entries_onBar (engine : Author41Engine) (bar : ModelBar) (anchor : Option DailyAnchor) :
    (engine.startDate bar.tsLocal.date).position.toList.map OpenAuthor41Position.entryTs ++
        (engine.opened bar anchor).toList.map OpenAuthor41Position.entryTs =
      (engine.onBar bar anchor).2.map Author41Trade.entryTs ++
        (engine.onBar bar anchor).1.position.toList.map OpenAuthor41Position.entryTs := by
  -- the bar manages what is held, and then may enter
  show _ = ((engine.startDate bar.tsLocal.date).manage bar).2.map _ ++
    (((engine.startDate bar.tsLocal.date).manage bar).1.enter bar anchor).position.toList.map _
  show _ ++ ((((engine.startDate bar.tsLocal.date).manage bar).1.enter bar anchor).position.filter
    _).toList.map _ = _
  obtain ⟨hnone, hmanage⟩ | ⟨pos, hposition, _, hmanage⟩ | ⟨pos, _, _, hposition, _, hmanage⟩ :=
    manage_cases (engine.startDate bar.tsLocal.date) bar
  · rw [hmanage, hnone]
    obtain heq | ⟨_, _, _, _, _, heq⟩ := enter_cases (engine.startDate bar.tsLocal.date) bar anchor
    · rw [heq, hnone]
      rfl
    · rw [heq]
      rfl
  · -- a position that is carried on leaves no room for another
    rw [hmanage, hposition]
    obtain heq | ⟨_, _, _, hfree, _, _⟩ := enter_cases
      { engine.startDate bar.tsLocal.date with position := some (held pos) } bar anchor
    · rw [heq]
      rfl
    · exact nomatch hfree
  · rw [hmanage, hposition]
    obtain heq | ⟨_, _, _, _, _, heq⟩ := enter_cases
      { engine.startDate bar.tsLocal.date with position := none } bar anchor
    · rw [heq]
      rfl
    · rw [heq]
      rfl

theorem config_startDate (engine : Author41Engine) (date : NaiveDate) :
    (engine.startDate date).config = engine.config := by
  by_cases h : engine.currentDate = some date
  · rw [startDate_of_eq h]
  · rw [startDate_of_ne h]

/-- A bar opens no position, or opens one and counts it on a day that has room for it. -/
theorem opened_cases (engine : Author41Engine) (bar : ModelBar) (anchor : Option DailyAnchor) :
    (engine.opened bar anchor = none ∧ (engine.onBar bar anchor).1.dayEntries =
      (engine.startDate bar.tsLocal.date).dayEntries) ∨
    ∃ pos, engine.opened bar anchor = some pos ∧ (engine.onBar bar anchor).1.dayEntries =
        (engine.startDate bar.tsLocal.date).dayEntries + 1 ∧
      (engine.startDate bar.tsLocal.date).dayEntries < engine.config.maxEntriesPerDay := by
  have hconfig := config_startDate engine bar.tsLocal.date
  show ((((engine.startDate bar.tsLocal.date).manage bar).1.enter bar anchor).position.filter
      (fun pos => decide (pos.barsHeld = 0)) = none ∧
    (((engine.startDate bar.tsLocal.date).manage bar).1.enter bar anchor).dayEntries = _) ∨
    ∃ pos, (((engine.startDate bar.tsLocal.date).manage bar).1.enter bar anchor).position.filter
      (fun pos => decide (pos.barsHeld = 0)) = some pos ∧
    (((engine.startDate bar.tsLocal.date).manage bar).1.enter bar anchor).dayEntries = _ ∧ _
  generalize engine.startDate bar.tsLocal.date = started at hconfig ⊢
  -- managing leaves the entries of the day alone, and nothing new is held
  have hmanage : (started.manage bar).1.dayEntries = started.dayEntries ∧
      (started.manage bar).1.config = started.config ∧
      (started.manage bar).1.position.filter (fun pos => pos.barsHeld = 0) = none := by
    obtain ⟨hnone, heq⟩ | ⟨_, _, _, heq⟩ | ⟨_, _, _, _, _, heq⟩ := manage_cases started bar
    · rw [heq, hnone]
      exact ⟨rfl, rfl, rfl⟩
    all_goals
      rw [heq]
      exact ⟨rfl, rfl, rfl⟩
  obtain heq | ⟨given, side, _, _, hroom, heq⟩ := enter_cases (started.manage bar).1 bar anchor
  · rw [heq]
    exact .inl ⟨hmanage.2.2, hmanage.1⟩
  · rw [heq]
    rw [hmanage.1, hmanage.2.1, hconfig] at hroom
    refine .inr ⟨_, rfl, ?_, hroom⟩
    show (started.manage bar).1.dayEntries + 1 = _
    rw [hmanage.1]

theorem config_onBar (engine : Author41Engine) (bar : ModelBar) (anchor : Option DailyAnchor) :
    (engine.onBar bar anchor).1.config = engine.config := by
  rw [← config_startDate engine bar.tsLocal.date]
  show (((engine.startDate bar.tsLocal.date).manage bar).1.enter bar anchor).config = _
  generalize engine.startDate bar.tsLocal.date = started
  have hmanage : (started.manage bar).1.config = started.config := by
    obtain ⟨_, heq⟩ | ⟨_, _, _, heq⟩ | ⟨_, _, _, _, _, heq⟩ := manage_cases started bar
    all_goals rw [heq]
  obtain heq | ⟨_, _, _, _, _, heq⟩ := enter_cases (started.manage bar).1 bar anchor
  · rw [heq, hmanage]
  · rw [heq]
    exact hmanage

theorem onBar_startDate (engine : Author41Engine) (bar : ModelBar) (anchor : Option DailyAnchor) :
    (engine.startDate bar.tsLocal.date).onBar bar anchor = engine.onBar bar anchor := by
  have hstarted : (engine.startDate bar.tsLocal.date).startDate bar.tsLocal.date =
      engine.startDate bar.tsLocal.date :=
    startDate_of_eq (currentDate_startDate engine bar.tsLocal.date)
  unfold onBar
  rw [hstarted]

/-! ### A run -/

variable (anchors : NaiveDate → Option DailyAnchor)

def after (engine : Author41Engine) (bars : List ModelBar) : Author41Engine :=
  bars.foldl (fun engine bar => (engine.onBar bar (anchors bar.tsLocal.date)).1) engine

def emits {β : Type} (out : Author41Engine → ModelBar → Option DailyAnchor → List β) :
    Author41Engine → List ModelBar → List β
  | _, [] => []
  | engine, bar :: bars =>
    out engine bar (anchors bar.tsLocal.date) ++
      emits out (engine.onBar bar (anchors bar.tsLocal.date)).1 bars

def closes (engine : Author41Engine) (bars : List ModelBar) : List Author41Trade :=
  emits anchors (fun engine bar anchor => (engine.onBar bar anchor).2) engine bars

def opens (engine : Author41Engine) (bars : List ModelBar) : List OpenAuthor41Position :=
  emits anchors (fun engine bar anchor => (engine.opened bar anchor).toList) engine bars

def Dated (engine : Author41Engine) : Prop :=
  ∀ pos, engine.position = some pos → engine.currentDate = some pos.entryTs.date

theorem dated_new (config : Author41Config) : (new config).Dated := nofun

variable {anchors}

theorem Dated.onBar (h : engine.Dated) : (engine.onBar bar anchor).1.Dated := by
  intro pos hpos
  rw [currentDate_onBar]
  obtain hentry | ⟨pos', hdate, hheld, rfl⟩ := position_onBar hpos
  · rw [hentry]
  · exact hdate.symm.trans (h pos' hheld)

theorem Dated.date_of_mem_closes (h : engine.Dated) (htrade : trade ∈ closes anchors engine bars) :
    trade.entryTs.date = trade.exitTs.date := by
  induction bars generalizing engine with
  | nil => exact absurd htrade List.not_mem_nil
  | cons bar bars ih =>
    rcases List.mem_append.mp htrade with hbar | hlater
    · obtain ⟨pos, exitPrice, reason, hdate, hheld, rfl⟩ := mem_onBar hbar
      exact Option.some.inj ((h pos hheld).symm.trans hdate)
    · exact ih h.onBar hlater

theorem sublist_of_mem_closes (htrade : trade ∈ closes anchors engine bars) :
    (∃ pos, engine.position = some pos ∧ pos.entryTs = trade.entryTs ∧
      trade.exitTs ∈ bars.map ModelBar.tsLocal) ∨
    [trade.entryTs, trade.exitTs].Sublist (bars.map ModelBar.tsLocal) := by
  induction bars generalizing engine with
  | nil => exact absurd htrade List.not_mem_nil
  | cons bar bars ih =>
    rcases List.mem_append.mp htrade with hbar | hlater
    · obtain ⟨pos, exitPrice, reason, hdate, hheld, rfl⟩ := mem_onBar hbar
      exact .inl ⟨pos, hheld, rfl, List.mem_cons_self⟩
    · obtain ⟨pos, hposition, hentry, hexit⟩ | hboth := ih hlater
      · obtain hopened | ⟨pos', _, hheld, rfl⟩ := position_onBar hposition
        · rw [← hentry, hopened]
          exact .inr ((List.singleton_sublist.mpr hexit).cons_cons _)
        · exact .inl ⟨pos', hheld, hentry, List.mem_cons_of_mem _ hexit⟩
      · exact .inr (hboth.cons _)

/-! ### The days of a run -/

theorem closes_cons (engine : Author41Engine) (bar : ModelBar) (bars : List ModelBar) :
    closes anchors engine (bar :: bars) = (engine.onBar bar (anchors bar.tsLocal.date)).2 ++
      closes anchors (engine.onBar bar (anchors bar.tsLocal.date)).1 bars := rfl

theorem opens_cons (engine : Author41Engine) (bar : ModelBar) (bars : List ModelBar) :
    opens anchors engine (bar :: bars) = (engine.opened bar (anchors bar.tsLocal.date)).toList ++
        opens anchors (engine.onBar bar (anchors bar.tsLocal.date)).1 bars := rfl

section Emits

variable {β : Type} {out : Author41Engine → ModelBar → Option DailyAnchor → List β}

theorem emits_append (engine : Author41Engine) (bars later : List ModelBar) :
    emits anchors out engine (bars ++ later) =
      emits anchors out engine bars ++ emits anchors out (engine.after anchors bars) later := by
  induction bars generalizing engine with
  | nil => rfl
  | cons bar bars ih =>
    show _ ++ emits anchors out _ (bars ++ later) = (_ ++ emits anchors out _ bars) ++ _
    rw [ih, List.append_assoc]
    rfl

/-- A run depends on the anchors of the dates of its bars. -/
theorem emits_congr {anchors' : NaiveDate → Option DailyAnchor}
    (h : ∀ bar ∈ bars, anchors bar.tsLocal.date = anchors' bar.tsLocal.date)
    (engine : Author41Engine) : emits anchors out engine bars = emits anchors' out engine bars := by
  induction bars generalizing engine with
  | nil => rfl
  | cons bar bars ih =>
    obtain ⟨hbar, hbars⟩ := List.forall_mem_cons.mp h
    unfold emits
    rw [hbar, ih hbars]

theorem mem_emits {x : β} (h : x ∈ emits anchors out engine bars) :
    ∃ engine, ∃ bar ∈ bars, x ∈ out engine bar (anchors bar.tsLocal.date) := by
  induction bars generalizing engine with
  | nil => exact absurd h List.not_mem_nil
  | cons bar bars ih =>
    rcases List.mem_append.mp h with hbar | hlater
    · exact ⟨engine, bar, List.mem_cons_self, hbar⟩
    · obtain ⟨engine', bar', hmem, hout⟩ := ih hlater
      exact ⟨engine', bar', List.mem_cons_of_mem _ hmem, hout⟩

/-- What a run gives out on a date is what a run over the bars of that date gives out: the engine
brings nothing along from other dates. -/
theorem filter_emits (key : β → NaiveDate)
    (hkey : ∀ engine bar anchor, ∀ x ∈ out engine bar anchor, key x = bar.tsLocal.date)
    (hstart : ∀ engine bar anchor,
      out (engine.startDate bar.tsLocal.date) bar anchor = out engine bar anchor)
    (hsorted : bars.Pairwise fun bar bar' => bar.tsLocal.date ≤ bar'.tsLocal.date)
    (hengine : engine.currentDate = some date → ∀ bar ∈ bars, date ≤ bar.tsLocal.date) :
    (emits anchors out engine bars).filter (fun x => key x = date) =
      emits anchors out (engine.startDate date)
        (bars.filter fun bar => bar.tsLocal.date = date) := by
  induction bars generalizing engine with
  | nil => rfl
  | cons bar bars ih =>
    obtain ⟨hbar, hbars⟩ := List.pairwise_cons.mp hsorted
    -- the engine stays on a date as long as its bars go on
    have hnext : (engine.onBar bar (anchors bar.tsLocal.date)).1.currentDate = some date →
        ∀ bar' ∈ bars, date ≤ bar'.tsLocal.date := by
      intro hdate bar' hmem
      rw [currentDate_onBar] at hdate
      rw [← Option.some.inj hdate]
      exact hbar bar' hmem
    show (out engine bar _ ++ emits anchors out _ bars).filter _ = _
    rw [List.filter_append, ih hbars hnext]
    by_cases hdate : bar.tsLocal.date = date
    -- a bar of the date gives out what it gives out from a fresh start
    · subst hdate
      have hall : (out engine bar (anchors bar.tsLocal.date)).filter
          (fun x => key x = bar.tsLocal.date) = out engine bar (anchors bar.tsLocal.date) :=
        List.filter_eq_self.mpr fun x hx => by simpa using hkey engine bar _ x hx
      rw [hall, List.filter_cons_of_pos (by simp), startDate_of_eq currentDate_onBar]
      show _ = out (engine.startDate bar.tsLocal.date) bar _ ++ emits anchors out _ _
      rw [hstart, onBar_startDate]
    -- a bar of another date gives out nothing of this one
    · have hnone : (out engine bar (anchors bar.tsLocal.date)).filter (fun x => key x = date) =
          [] := by
        refine List.filter_eq_nil_iff.mpr ?_
        intro x hx
        rw [hkey engine bar _ x hx]
        simpa using hdate
      rw [hnone, List.filter_cons_of_neg (by simpa using hdate), List.nil_append]
      have hleft : (engine.onBar bar (anchors bar.tsLocal.date)).1.currentDate ≠ some date := by
        rw [currentDate_onBar]
        exact fun heq => hdate (Option.some.inj heq)
      rw [startDate_of_ne hleft, config_onBar]
      -- a date that the engine has left has no more bars
      by_cases hcurrent : engine.currentDate = some date
      · have hpast : ∀ bar' ∈ bars, ¬bar'.tsLocal.date = date := by
          intro bar' hmem heq
          have hle := hengine hcurrent bar List.mem_cons_self
          exact hdate (le_antisymm ((hbar bar' hmem).trans heq.le) hle)
        have hempty : bars.filter (fun bar => bar.tsLocal.date = date) = [] :=
          List.filter_eq_nil_iff.mpr fun bar' hmem => by simpa using hpast bar' hmem
        rw [hempty]
        rfl
      · rw [startDate_of_ne hcurrent]

end Emits

section Day

variable {date : NaiveDate} {bars : List ModelBar} (anchors : NaiveDate → Option DailyAnchor)

/-- Over bars of its date, an engine closes in order what it holds and opens, up to the last. -/
theorem entries_day (hengine : engine.currentDate = some date)
    (hbars : ∀ bar ∈ bars, bar.tsLocal.date = date) :
    engine.position.toList.map OpenAuthor41Position.entryTs ++
        (opens anchors engine bars).map OpenAuthor41Position.entryTs =
      (closes anchors engine bars).map Author41Trade.entryTs ++
        (engine.after anchors bars).position.toList.map OpenAuthor41Position.entryTs := by
  induction bars generalizing engine with
  | nil => exact List.append_nil _
  | cons bar bars ih =>
    obtain ⟨rfl, hrest⟩ := List.forall_mem_cons.mp hbars
    have hbar := entries_onBar engine bar (anchors bar.tsLocal.date)
    rw [startDate_of_eq hengine] at hbar
    have hnext : (engine.onBar bar (anchors bar.tsLocal.date)).1.currentDate =
        some bar.tsLocal.date := currentDate_onBar
    have hlater := ih hnext hrest
    rw [opens_cons, closes_cons, List.map_append, List.map_append, ← List.append_assoc, hbar,
      List.append_assoc, hlater, List.append_assoc]
    rfl

theorem length_opens_day (hengine : engine.currentDate = some date)
    (hbars : ∀ bar ∈ bars, bar.tsLocal.date = date)
    (hroom : engine.dayEntries ≤ engine.config.maxEntriesPerDay) :
    engine.dayEntries + (opens anchors engine bars).length ≤ engine.config.maxEntriesPerDay := by
  induction bars generalizing engine with
  | nil => exact hroom
  | cons bar bars ih =>
    obtain ⟨rfl, hrest⟩ := List.forall_mem_cons.mp hbars
    have hcases := opened_cases engine bar (anchors bar.tsLocal.date)
    rw [startDate_of_eq hengine] at hcases
    have hnext : (engine.onBar bar (anchors bar.tsLocal.date)).1.currentDate =
        some bar.tsLocal.date := currentDate_onBar
    have hlater := ih hnext hrest
    rw [config_onBar] at hlater
    rw [opens_cons, List.length_append]
    obtain ⟨hopened, hcount⟩ | ⟨pos, hopened, hcount, hfull⟩ := hcases
    · rw [hcount] at hlater
      have hlater' := hlater hroom
      rw [hopened]
      show _ + (0 + _) ≤ _
      omega
    · rw [hcount] at hlater
      have hlater' := hlater hfull
      rw [hopened]
      show _ + (1 + _) ≤ _
      omega

end Day

/-- After a trade is closed, nothing is held but a position opened at the same bar. -/
theorem entryTs_of_closed (htrade : trade ∈ (engine.onBar bar anchor).2)
    (hpos : (engine.onBar bar anchor).1.position = some pos) : pos.entryTs = bar.tsLocal := by
  have hentries := congrArg List.length (entries_onBar engine bar anchor)
  rw [hpos] at hentries
  have htrades := List.length_pos_of_mem htrade
  cases hopened : engine.opened bar anchor with
  | none =>
    rw [hopened] at hentries
    have hheld := Option.length_toList_le (o := (engine.startDate bar.tsLocal.date).position)
    simp only [List.length_append, List.length_map, Option.toList_none, Option.toList_some,
      List.length_nil, List.length_singleton] at hentries
    omega
  | some pos' =>
    have hsame := (Option.filter_eq_some_iff.mp hopened).1
    rw [hpos] at hsame
    rw [Option.some.inj hsame]
    exact entryTs_of_opened hopened

/-- The trades of a run come one after the other. -/
theorem pairwise_closes (hsorted : bars.Pairwise fun bar bar' => bar.tsLocal ≤ bar'.tsLocal) :
    (closes anchors engine bars).Pairwise fun a b => a.exitTs ≤ b.entryTs := by
  induction bars generalizing engine with
  | nil => exact List.Pairwise.nil
  | cons bar bars ih =>
    obtain ⟨hbar, hbars⟩ := List.pairwise_cons.mp hsorted
    rw [closes_cons]
    refine List.pairwise_append.mpr ⟨?_, ih hbars, ?_⟩
    · show ((engine.startDate bar.tsLocal.date).manage bar).2.Pairwise _
      obtain ⟨_, heq⟩ | ⟨_, _, _, heq⟩ | ⟨_, _, _, _, _, heq⟩ :=
        manage_cases (engine.startDate bar.tsLocal.date) bar
      · rw [heq]
        exact List.Pairwise.nil
      · rw [heq]
        exact List.Pairwise.nil
      · rw [heq]
        exact List.pairwise_singleton _ _
    · intro a ha b hb
      obtain ⟨_, _, _, _, _, rfl⟩ := mem_onBar ha
      show bar.tsLocal ≤ b.entryTs
      obtain ⟨pos, hposition, hentry, _⟩ | hboth := sublist_of_mem_closes hb
      · rw [← hentry, entryTs_of_closed ha hposition]
      · obtain ⟨bar', hmem, hentry⟩ := List.mem_map.mp (hboth.subset List.mem_cons_self)
        rw [← hentry]
        exact hbar bar' hmem

end Author41Engine

/-! ### The replay -/

theorem foldl_onBar (anchors : OrderedMap NaiveDate DailyAnchor) (r : Author41Replay)
    (bars : List ModelBar) :
    bars.foldl (Author41Replay.onBar anchors) r =
      ⟨r.engine.after anchors.get? bars, r.trades ++ r.engine.closes anchors.get? bars,
        addAuthor41Trades r.dailyMap (r.engine.closes anchors.get? bars)⟩ := by
  induction bars generalizing r with
  | nil =>
    show r = ⟨r.engine, r.trades ++ [], r.dailyMap⟩
    rw [List.append_nil]
  | cons bar bars ih =>
    rw [List.foldl_cons, ih]
    show Author41Replay.mk _ ((r.trades ++ _) ++ _) (List.foldl _ (List.foldl _ _ _) _) = _
    rw [List.append_assoc, ← List.foldl_append]
    rfl

def author41Closes (config : Author41Config) (bars : List ModelBar) : List Author41Trade :=
  Author41Engine.closes (buildDailyAnchors (modelBars policy bars)).get? (.new config)
    (modelBars policy bars)

theorem replayAuthor41_eq (config : Author41Config) (policy : RegularSessionPolicy) :
    replayAuthor41 bars config policy = ⟨author41Closes policy config bars,
        (addAuthor41Trades (author41Rows (modelBars policy bars))
          (author41Closes policy config bars)).values⟩ := by
  unfold replayAuthor41
  dsimp only
  rw [foldl_onBar]
  rfl

variable {policy : RegularSessionPolicy} {config : Author41Config} {bars : List ModelBar}
  {trade : Author41Trade}

/-- The entry and the exit of a trade are bars of the session, one after the other. -/
theorem sublist_of_mem_author41Closes (h : trade ∈ author41Closes policy config bars) :
    [trade.entryTs, trade.exitTs].Sublist ((modelBars policy bars).map ModelBar.tsLocal) := by
  obtain ⟨pos, hpos, _⟩ | hboth := Author41Engine.sublist_of_mem_closes h
  · exact nomatch hpos
  · exact hboth

theorem date_of_mem_author41Closes (h : trade ∈ author41Closes policy config bars) :
    trade.entryTs.date = trade.exitTs.date := (Author41Engine.dated_new config).date_of_mem_closes h

theorem entry_le_exit_of_mem_author41Closes (h : trade ∈ author41Closes policy config bars) :
    trade.entryTs ≤ trade.exitTs := by
  have hsorted := List.pairwise_map.mpr (pairwise_modelBars policy bars)
  have hpair := hsorted.sublist (sublist_of_mem_author41Closes h)
  exact List.rel_of_pairwise_cons hpair List.mem_cons_self

end AlorRs.MoexAuthor4142
