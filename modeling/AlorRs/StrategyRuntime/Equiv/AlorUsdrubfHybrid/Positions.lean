import AlorRs.StrategyRuntime.Equiv.AlorUsdrubfHybrid.Run

/-!
# The strategy knows the broker's position

Whenever the broker has a quantity, the strategy has a position of its side and size, or an entry
that waits for its rest, or has sent an exit of it (`always_known`).  The exceptions are a new
local date, on which the strategy starts flat, an exit or a bracket whose end is awaited, and an
entry that was sent again for another size.
-/

namespace AlorRs.AlorUsdrubfHybrid

open AlorUsdrubfHybridStrategy

/-- The strategy has the broker's quantity as its position or as a part of its entry. -/
def AlorUsdrubfHybridStrategy.tracks (s : AlorUsdrubfHybridStrategy) (qty : ℚ) : Bool :=
  (s.openPosition.any fun pos => pos.side = brokerSide qty && (pos.size : ℚ) = |qty|) ||
    s.pendingEntry.any fun pending => signum qty = pending.side.sign && |qty| < pending.targetQty

def closes (symbol : String) (qty : ℚ) (intent : Intent) : Bool :=
  isExit symbol intent &&
    match intent.baseIntent with
    | .market exitQty side _ _ => exitQty = |qty| && side = closingSide qty
    | _ => false

/-- The strategy, the quantity that the broker was last seen with, and what has become of it:
whether an exit of it was sent, whether an exit or a bracket was awaited when it was seen or when
its entry was given up, whether a bar of another local date has come since, and whether its entry
was sent again for another size since. -/
structure PositionRun where
  strategy : AlorUsdrubfHybridStrategy
  brokerQty : Option ℚ
  exited : Bool
  settling : Bool
  startedDay : Bool
  retargeted : Bool

namespace PositionRun

variable (s : AlorUsdrubfHybridStrategy) (r : PositionRun) (s' : AlorUsdrubfHybridStrategy)

/-- Whether an exit, or a fill of a bracket, is awaited when the broker's quantity is seen. -/
def isSettling : LiveEvent → Bool
  | .position _ pos nowMs =>
    s.exitIntentInflight || s.bracketTerminalReconcileActive nowMs ||
      s.openPosition.any fun opened => mrBracketProtectivePartialProgress opened pos.qty
  | _ => false

def isNewDay : LiveEvent → Bool
  | .bar ctx bar => s.admits ctx.ctx bar && s.startsDay bar
  | _ => false

def givesUp : Bool :=
  s.pendingEntry.isSome && s'.pendingEntry.isNone

def retargets : Bool :=
  match s.pendingEntry, s'.pendingEntry with
  | some pending, some pending' => pending.targetQty ≠ pending'.targetQty
  | _, _ => false

def step (e : LiveEvent) : PositionRun × List Intent :=
  let symbol := r.strategy.config.symbol
  let (s, intents) := e.handle r.brokerQty r.strategy
  let brokerQty := e.brokerQtyAfter symbol r.brokerQty
  let exits := intents.any (closes symbol (brokerQty.getD 0))
  if (e.observed symbol).isSome then (⟨s, brokerQty, exits, isSettling r.strategy e, false, false⟩, intents)
  else
    (⟨s, brokerQty, r.exited || exits,
      r.settling || (r.strategy.exitIntentInflight && givesUp r.strategy s),
      r.startedDay || isNewDay r.strategy e, r.retargeted || retargets r.strategy s⟩, intents)

def start (config : AlorUsdrubfHybridConfig) : PositionRun := ⟨new config, none, false, false, false, false⟩

/-- A quantity of the broker is tracked by the strategy, or an exit of it was sent. -/
def isAccounted : Bool :=
  r.brokerQty.all fun qty => qty = 0 || r.strategy.tracks qty || r.exited

def isKnown : Bool :=
  r.isAccounted || r.settling || r.startedDay || r.retargeted

def isWrongFill : LiveEvent → Bool
  | .position _ pos _ =>
    pos.symbol = s.config.symbol && !(|pos.qty| < flatQty) &&
      s.pendingEntry.any fun pending =>
        pending.targetQty ≤ 1 && signum pos.qty ≠ pending.side.sign
  | _ => false

/-- The quantities of the broker are whole, and an entry of one unit is filled on its side. -/
structure Regular (r : PositionRun) (e : LiveEvent) : Prop where
  whole : ∀ qty ∈ e.observed r.strategy.config.symbol, IsWhole qty
  side : isWrongFill r.strategy e = false

variable {e : LiveEvent}

theorem regular_iff {r : PositionRun} :
    Regular r e ↔ (∀ qty ∈ e.observed r.strategy.config.symbol, IsWhole qty) ∧
      isWrongFill r.strategy e = false :=
  ⟨fun h => ⟨h.whole, h.side⟩, fun h => ⟨h.1, h.2⟩⟩

instance (r : PositionRun) (e : LiveEvent) : Decidable (Regular r e) :=
  decidable_of_iff _ regular_iff.symm

/-! ### The invariant of a run -/

section Steps

variable {r : PositionRun}

theorem isKnown_iff :
    r.isKnown = true ↔ ∀ qty, r.brokerQty = some qty → qty ≠ 0 →
      r.strategy.tracks qty = true ∨ r.exited = true ∨ r.settling = true ∨ r.startedDay = true ∨
        r.retargeted = true := by
  unfold isKnown isAccounted
  cases r.brokerQty with
  | none => simp
  | some qty =>
    by_cases hqty : qty = 0
    · simp [hqty]
    · simp [hqty, or_assoc]

variable {s : AlorUsdrubfHybridStrategy} {qty : ℚ}

theorem tracks_iff :
    s.tracks qty = true ↔
      (∃ pos, s.grip.opened = some pos ∧ pos.side = brokerSide qty ∧ (pos.size : ℚ) = |qty|) ∨
        ∃ pending, s.grip.pending = some pending ∧ pending.Waits qty := by
  show ((s.grip.opened.any _) || s.grip.pending.any _) = true ↔ _
  rw [Bool.or_eq_true, Option.any_eq_true, Option.any_eq_true]
  simp only [Bool.and_eq_true, decide_eq_true_eq]
  rfl

variable {s' : AlorUsdrubfHybridStrategy}

theorem tracks_congr (hopened : s'.grip.opened = s.grip.opened)
    (hpending : s'.grip.pending = s.grip.pending) (qty : ℚ) : s'.tracks qty = s.tracks qty := by
  rw [Bool.eq_iff_iff, tracks_iff, tracks_iff, hopened, hpending]

theorem tracks_of_is {pos : OpenPosition} (hopened : s.grip.opened = some pos) (hpos : pos.Is qty)
    (hwhole : IsWhole qty) (hqty : qty ≠ 0) : s.tracks qty = true := by
  refine tracks_iff.mpr (.inl ⟨pos, hopened, hpos.1, ?_⟩)
  rw [hpos.2]
  exact hwhole.wholeUnits_eq hqty

variable {symbol : String}

theorem closes_of_isExitOf {intent : Intent} (h : IsExitOf symbol |qty| (closingSide qty) intent) :
    closes symbol qty intent = true := by
  have hexit := h.isExit
  obtain ⟨price, reason, hintent⟩ := h
  unfold closes
  rw [hexit, hintent]
  simp

variable {intents : List Intent}

theorem any_closes_of_flattens {exit : Bool} (h : Flattens symbol exit qty intents)
    (before : List Intent) : exit = true ∨ (before ++ intents).any (closes symbol qty) = true := by
  rcases h with ⟨hexit, -⟩ | ⟨-, before', intent, rfl, -, hintent⟩
  · exact .inl hexit
  · right
    rw [List.any_append, List.any_append, List.any_cons, closes_of_isExitOf hintent, Bool.true_or,
      Bool.or_true, Bool.or_true]

theorem tracks_of_openMove {existing settling : Bool}
    (hmove : OpenMove symbol qty existing settling s.grip s'.grip intents) (hwhole : IsWhole qty)
    (hqty : qty ≠ 0) (hside : ∀ pending, s.pendingEntry = some pending → pending.targetQty ≤ 1 →
      signum qty = pending.side.sign) :
    s'.tracks qty = true ∨ intents.any (closes symbol qty) = true ∨
      (s.exitIntentInflight || settling ||
        s.openPosition.any fun opened => mrBracketProtectivePartialProgress opened qty) = true := by
  generalize hg : s.grip = g at hmove
  generalize hg' : s'.grip = g' at hmove
  have hexit : s.exitIntentInflight = g.exit := congrArg Grip.exit hg
  have hopened : s.openPosition = g.opened := congrArg Grip.opened hg
  have hpending : s.pendingEntry = g.pending := congrArg Grip.pending hg
  have hopened' : s'.grip.opened = g'.opened := congrArg Grip.opened hg'
  have hpending' : s'.grip.pending = g'.pending := congrArg Grip.pending hg'
  rw [hexit, hopened]
  rw [hpending] at hside
  cases hmove with
  | invalid _ hflattens =>
    rcases any_closes_of_flattens hflattens [] with hflag | hany
    · right; right
      rw [hflag, Bool.true_or, Bool.true_or]
    · exact .inr (.inl hany)
  | waits _ _ hwaits => exact .inl (tracks_iff.mpr (.inr ⟨_, hpending', hwaits⟩))
  | residual _ _ hpos => exact .inl (tracks_of_is hopened' hpos hwhole hqty)
  | settles _ hsettling =>
    right; right
    rcases hsettling with hflag | hflag
    · rw [hflag, Bool.true_or, Bool.true_or]
    · rw [hflag, Bool.or_true, Bool.true_or]
  | progress hsome _ hprogress =>
    right; right
    rw [hsome, Option.any_some, hprogress, Bool.or_true]
  | changed _ _ hpos => exact .inl (tracks_of_is hopened' hpos hwhole hqty)
  | adopt hsize hsides =>
    left
    refine tracks_of_is hopened' ⟨?_, hsize⟩ hwhole hqty
    rcases hsides with ⟨-, hbroker⟩ | ⟨pending, hsome, hsame, hcompletes⟩
    · exact hbroker
    -- the side that was asked for is that of the broker
    · rw [hsame]
      refine (brokerSide_of_signum hqty ?_).symm
      by_cases htarget : 1 < pending.targetQty
      · exact hcompletes.signum_eq htarget
      · exact hside pending hsome (not_lt.mp htarget)

theorem tracks_of_barMove (hmove : BarMove symbol s.grip s'.grip intents)
    (htracks : s.tracks qty = true) : s'.tracks qty = true ∨ retargets s s' = true := by
  rw [tracks_iff] at htracks
  generalize hg : s.grip = g at hmove htracks
  generalize hg' : s'.grip = g' at hmove
  have hpending : s.pendingEntry = g.pending := congrArg Grip.pending hg
  have hopened' : s'.grip.opened = g'.opened := congrArg Grip.opened hg'
  have hpending' : s'.grip.pending = g'.pending := congrArg Grip.pending hg'
  cases hmove with
  | hold | exit => exact .inl (tracks_iff.mpr (by rwa [hopened', hpending']))
  | @send pending size _ hopened hsome =>
    rcases htracks with ⟨pos, hpos, -⟩ | ⟨pending', hsome', hwaits⟩
    · rw [hopened] at hpos
      cases hpos
    · rw [hsome] at hsome'
      obtain rfl := Option.some.inj hsome'
      -- an order for another size has another target
      by_cases htarget : pending.targetQty = size
      · left
        refine tracks_iff.mpr (.inr ⟨_, hpending', hwaits.1, ?_⟩)
        show |qty| < (size : ℚ)
        rw [← htarget]
        exact hwaits.2
      · right
        have hafter : s'.pendingEntry = some (pending.sent size) := hpending'
        unfold retargets
        rw [hpending, hsome, hafter]
        exact decide_eq_true htarget
  -- a signal needs that nothing is open or pending
  | signal _ hopened hnone | enter _ _ _ hopened hnone =>
    rcases htracks with ⟨pos, hpos, -⟩ | ⟨pending', hsome', -⟩
    · rw [hopened] at hpos
      cases hpos
    · rw [hnone] at hsome'
      cases hsome'

theorem isKnown_of_same {r' : PositionRun} (h : r.isKnown = true)
    (hqty : r'.brokerQty = r.brokerQty)
    (htracks : ∀ qty, r.brokerQty = some qty → qty ≠ 0 → r.strategy.tracks qty = true →
      r'.strategy.tracks qty = true ∨ r'.exited = true ∨ r'.settling = true ∨
        r'.startedDay = true ∨ r'.retargeted = true)
    (hexited : r.exited = true → r'.exited = true)
    (hsettling : r.settling = true → r'.settling = true)
    (hstarted : r.startedDay = true → r'.startedDay = true)
    (hretargeted : r.retargeted = true → r'.retargeted = true) : r'.isKnown = true := by
  rw [isKnown_iff] at h ⊢
  intro qty hsome hne
  rw [hqty] at hsome
  rcases h qty hsome hne with hknown | hknown | hknown | hknown | hknown
  · exact htracks qty hsome hne hknown
  · exact .inr (.inl (hexited hknown))
  · exact .inr (.inr (.inl (hsettling hknown)))
  · exact .inr (.inr (.inr (.inl (hstarted hknown))))
  · exact .inr (.inr (.inr (.inr (hretargeted hknown))))

theorem isKnown_step_of_grip (h : r.isKnown = true)
    (hobserved : e.observed r.strategy.config.symbol = none)
    (hqty : e.brokerQtyAfter r.strategy.config.symbol r.brokerQty = r.brokerQty)
    (hopened : (e.handle r.brokerQty r.strategy).1.grip.opened = r.strategy.grip.opened)
    (hpending : (e.handle r.brokerQty r.strategy).1.grip.pending = r.strategy.grip.pending) :
    (r.step e).1.isKnown = true := by
  unfold step
  dsimp only
  rw [hobserved, Option.isSome_none, if_neg Bool.false_ne_true]
  apply isKnown_of_same h hqty
  · intro qty _ _ htracks
    left
    show (e.handle r.brokerQty r.strategy).1.tracks qty = true
    rw [tracks_congr hopened hpending, htracks]
  all_goals exact fun hflag => by simp [hflag]

theorem isKnown_step_bar (h : r.isKnown = true) (ctx : LiveCtx) (bar : BarEvent) :
    (r.step (.bar ctx bar)).1.isKnown = true := by
  cases hadmits : r.strategy.admits ctx.ctx bar with
  | false =>
    obtain ⟨hgrip, -⟩ := onBar_of_not_admits hadmits
    exact isKnown_step_of_grip h rfl rfl (congrArg Grip.opened hgrip) (congrArg Grip.pending hgrip)
  | true =>
    have hmove := onBar_of_admits ctx.live hadmits
    apply isKnown_of_same h
    · rfl
    · intro qty _ _ htracks
      show (r.strategy.onBar ctx.ctx bar).1.tracks qty = true ∨ _ ∨ _ ∨
        (r.startedDay || (r.strategy.admits ctx.ctx bar && r.strategy.startsDay bar)) = true ∨
          (r.retargeted || retargets r.strategy (r.strategy.onBar ctx.ctx bar).1) = true
      cases hstarts : r.strategy.startsDay bar with
      | true => simp [hadmits]
      | false =>
        rw [hstarts, if_neg Bool.false_ne_true] at hmove
        rcases tracks_of_barMove hmove htracks with htracks' | hretargets
        · exact .inl htracks'
        · simp [hretargets]
    all_goals exact fun hflag => by simp [step, LiveEvent.observed, hflag]

theorem tracks_of_timerMove {due : Bool} (hmove : TimerMove symbol qty due s.grip s'.grip intents)
    (hwhole : IsWhole qty) (hqty : qty ≠ 0) (htracks : s.tracks qty = true) :
    s'.tracks qty = true ∨ intents.any (closes symbol qty) = true ∨
      (s.exitIntentInflight && givesUp s s') = true := by
  generalize hg : s.grip = g at hmove
  generalize hg' : s'.grip = g' at hmove
  have hexit : s.exitIntentInflight = g.exit := congrArg Grip.exit hg
  have hpending : s.pendingEntry = g.pending := congrArg Grip.pending hg
  have hopened : s'.grip.opened = g'.opened := congrArg Grip.opened hg'
  have hpending' : s'.grip.pending = g'.pending := congrArg Grip.pending hg'
  cases hmove with
  | hold | reconcile =>
    rw [← hg] at hopened hpending'
    exact .inl (by rw [tracks_congr hopened hpending', htracks])
  | timeout hsome _ hflattens =>
    rcases any_closes_of_flattens hflattens _ with hflag | hany
    · right; right
      have hnone : s'.pendingEntry = none := hpending'
      unfold givesUp
      rw [hexit, hflag, hpending, hsome, hnone]
      rfl
    · exact .inr (.inl hany)
  | giveUp _ hflat => exact absurd hflat (hwhole.not_flat hqty)

theorem isKnown_step_timer (h : r.isKnown = true)
    (hwhole : ∀ qty, r.brokerQty = some qty → IsWhole qty) (ctx : LiveCtx) (nowMs : ℤ) :
    (r.step (.timer ctx nowMs)).1.isKnown = true := by
  obtain ⟨-, hmove⟩ := onTimer_spec (s := r.strategy)
    { ctx.ctx with positionQty := r.brokerQty } nowMs
  apply isKnown_of_same h
  · rfl
  · intro qty hsome hqty htracks
    rw [hsome] at hmove
    show (r.strategy.onTimer { ctx.ctx with positionQty := r.brokerQty } nowMs).1.tracks qty = true ∨
      (r.exited || (r.strategy.onTimer { ctx.ctx with positionQty := r.brokerQty } nowMs).2.any
        (closes r.strategy.config.symbol (r.brokerQty.getD 0))) = true ∨
      (r.settling || (r.strategy.exitIntentInflight && givesUp r.strategy
        (r.strategy.onTimer { ctx.ctx with positionQty := r.brokerQty } nowMs).1)) = true ∨ _
    rw [hsome]
    have hmoved := tracks_of_timerMove hmove (hwhole qty hsome) hqty htracks
    rcases hmoved with hstill | hany | hgiven
    · exact .inl hstill
    · right; left
      exact Bool.or_eq_true _ _ ▸ .inr hany
    · right; right; left
      rw [hgiven, Bool.or_true]
  all_goals exact fun hflag => by simp [step, LiveEvent.observed, hflag]

theorem isKnown_step_position (h : r.isKnown = true) (ctx : LiveCtx) (pos : PositionEvent)
    (nowMs : ℤ) (hregular : Regular r (.position ctx pos nowMs)) :
    (r.step (.position ctx pos nowMs)).1.isKnown = true := by
  obtain ⟨-, hcases⟩ := onPosition_spec (s := r.strategy) ctx.ctx pos nowMs
  -- a position of another symbol is not seen
  rcases hcases with ⟨hsymbol, hgrip, -⟩ | hours
  · have hobserved : (LiveEvent.position ctx pos nowMs).observed r.strategy.config.symbol = none :=
      if_neg hsymbol
    apply isKnown_step_of_grip h hobserved
    · show ((LiveEvent.position ctx pos nowMs).observed r.strategy.config.symbol).or r.brokerQty = _
      rw [hobserved, Option.none_or]
    · exact congrArg Grip.opened hgrip
    · exact congrArg Grip.pending hgrip
  · have hsymbol : pos.symbol = r.strategy.config.symbol := by
      rcases hours with ⟨hsymbol, -⟩ | ⟨hsymbol, -⟩ <;> exact hsymbol
    have hobserved : (LiveEvent.position ctx pos nowMs).observed r.strategy.config.symbol =
        some pos.qty := if_pos hsymbol
    have hwhole : IsWhole pos.qty := hregular.whole pos.qty hobserved
    have hafter : (LiveEvent.position ctx pos nowMs).brokerQtyAfter r.strategy.config.symbol
        r.brokerQty = some pos.qty := by
      show ((LiveEvent.position ctx pos nowMs).observed r.strategy.config.symbol).or r.brokerQty = _
      rw [hobserved, Option.some_or]
    rw [isKnown_iff]
    unfold step
    dsimp only
    rw [hobserved, Option.isSome_some, if_pos rfl, hafter]
    rintro _ ⟨⟩ hqty
    rcases hours with ⟨-, hflat, -⟩ | ⟨-, hnot, hmove⟩
    · exact absurd hflat (hwhole.not_flat hqty)
    -- an entry of one unit is filled on its own side, as the broker keeps to it
    · have hside : ∀ pending, r.strategy.pendingEntry = some pending → pending.targetQty ≤ 1 →
          signum pos.qty = pending.side.sign := by
        intro pending hpending htarget
        have hfill := hregular.side
        unfold isWrongFill at hfill
        rw [hpending] at hfill
        simpa [hsymbol, hnot, htarget] using hfill
      rcases tracks_of_openMove hmove hwhole hqty hside with htracks | hany | hsettling
      · exact .inl htracks
      · exact .inr (.inl hany)
      · exact .inr (.inr (.inl hsettling))

theorem isKnown_step_snapshot (h : r.isKnown = true) (ctx : LiveCtx)
    (snapshot : BootstrapSnapshot) (hregular : Regular r (.snapshot ctx snapshot)) :
    (r.step (.snapshot ctx snapshot)).1.isKnown = true := by
  obtain ⟨-, -, -, hnone, hsome⟩ := onBootstrapSnapshot_spec (s := r.strategy) ctx.ctx snapshot
  cases hlookup : snapshot.positionsStrategy.lookup r.strategy.config.symbol with
  | none =>
    have hobserved : (LiveEvent.snapshot ctx snapshot).observed r.strategy.config.symbol = none :=
      congrArg (Option.map PositionEvent.qty) hlookup
    have hopened := congrArg Grip.opened (hnone hlookup)
    have hpending := congrArg Grip.pending (hnone hlookup)
    apply isKnown_step_of_grip h hobserved
    · show ((LiveEvent.snapshot ctx snapshot).observed r.strategy.config.symbol).or r.brokerQty = _
      rw [hobserved, Option.none_or]
    · exact hopened
    · exact hpending
  | some position =>
    have hobserved : (LiveEvent.snapshot ctx snapshot).observed r.strategy.config.symbol =
        some position.qty := congrArg (Option.map PositionEvent.qty) hlookup
    have hwhole : IsWhole position.qty := hregular.whole position.qty hobserved
    have hafter : (LiveEvent.snapshot ctx snapshot).brokerQtyAfter r.strategy.config.symbol
        r.brokerQty = some position.qty := by
      show ((LiveEvent.snapshot ctx snapshot).observed r.strategy.config.symbol).or r.brokerQty = _
      rw [hobserved, Option.some_or]
    rw [isKnown_iff]
    unfold step
    dsimp only
    rw [hobserved, Option.isSome_some, if_pos rfl, hafter]
    rintro _ ⟨⟩ hqty
    -- the side and the size are those of the broker
    obtain ⟨pos, hopened, hside, hsize⟩ := (hsome position hlookup).2 (hwhole.not_flat hqty)
    refine .inl (tracks_of_is hopened ⟨?_, hsize⟩ hwhole hqty)
    rw [hside]
    unfold brokerSide
    by_cases hpos : 0 < position.qty
    · rw [if_pos hpos.le, if_pos hpos]
    · rw [if_neg hpos, if_neg (not_le.mpr (lt_of_le_of_ne (not_lt.mp hpos) hqty))]

end Steps

structure Sound (r : PositionRun) : Prop where
  known : r.isKnown = true
  whole : ∀ qty, r.brokerQty = some qty → IsWhole qty

theorem Sound.step {r : PositionRun} (h : Sound r) (hregular : Regular r e) :
    Sound (r.step e).1 where
  known := by
    cases e with
    | bar ctx bar => exact isKnown_step_bar h.known ctx bar
    | ack ctx ack =>
      obtain ⟨-, -, hgrip⟩ := onAck_spec (s := r.strategy) ctx.ctx ack
      have hopened : (r.strategy.onAck ctx.ctx ack).1.grip.opened = r.strategy.grip.opened := by
        rw [hgrip]
        split_ifs <;> rfl
      have hpending : (r.strategy.onAck ctx.ctx ack).1.grip.pending = r.strategy.grip.pending := by
        rw [hgrip]
        split_ifs <;> rfl
      exact isKnown_step_of_grip h.known rfl rfl hopened hpending
    | order ctx ord nowMs =>
      obtain ⟨-, -, _, -, hgrip⟩ := onOrder_spec (s := r.strategy) ctx.ctx ord nowMs
      have hopened := congrArg Grip.opened hgrip
      have hpending := congrArg Grip.pending hgrip
      exact isKnown_step_of_grip h.known rfl rfl hopened hpending
    | stopOrder ctx ord nowMs =>
      obtain ⟨-, -, _, -, hgrip⟩ := onStopOrder_spec (s := r.strategy) ctx.ctx ord nowMs
      have hopened := congrArg Grip.opened hgrip
      have hpending := congrArg Grip.pending hgrip
      exact isKnown_step_of_grip h.known rfl rfl hopened hpending
    | position ctx pos nowMs => exact isKnown_step_position h.known ctx pos nowMs hregular
    | timer ctx nowMs => exact isKnown_step_timer h.known h.whole ctx nowMs
    | snapshot ctx snapshot => exact isKnown_step_snapshot h.known ctx snapshot hregular
    | restored ctx state => exact isKnown_step_of_grip h.known rfl rfl rfl rfl
    | warmup ctx bars =>
      obtain ⟨-, hgrip⟩ := warmupFromHistory_spec (s := r.strategy) ctx.ctx bars
      exact isKnown_step_of_grip h.known rfl rfl (congrArg Grip.opened hgrip)
        (congrArg Grip.pending hgrip)
    | restart saved =>
      -- after a restart nothing has been seen of the broker
      rw [isKnown_iff]
      intro qty hqty
      cases hqty
  whole := by
    -- a quantity that was seen is whole, now or before
    have hor : ∀ qty, ((e.observed r.strategy.config.symbol).or r.brokerQty) = some qty →
        IsWhole qty := by
      intro qty hqty
      cases hobserved : e.observed r.strategy.config.symbol with
      | none =>
        rw [hobserved, Option.none_or] at hqty
        exact h.whole qty hqty
      | some qty' =>
        rw [hobserved, Option.some_or] at hqty
        exact hregular.whole qty (hobserved.trans hqty)
    have hafter : (r.step e).1.brokerQty =
        e.brokerQtyAfter r.strategy.config.symbol r.brokerQty := by
      unfold PositionRun.step
      dsimp only
      split_ifs <;> rfl
    intro qty hqty
    rw [hafter] at hqty
    cases e with
    | restart => cases hqty
    | _ => exact hor qty hqty

end PositionRun

/-- In every live run the broker's quantity is accounted for, but for the exceptions. -/
theorem always_known (config : AlorUsdrubfHybridConfig) (events : List LiveEvent)
    (hregular : Reaction.Always PositionRun.step PositionRun.Regular (PositionRun.start config)
      events) :
    Reaction.Always PositionRun.step (fun r e => (r.step e).1.isKnown = true)
      (PositionRun.start config) events := by
  have hstart : PositionRun.Sound (PositionRun.start config) :=
    ⟨rfl, fun qty hqty => by cases hqty⟩
  apply Reaction.Always.of_invariant _ hstart hregular
  intro r e hsound hC
  have hnext := hsound.step hC
  exact ⟨hnext.known, hnext⟩

namespace Sample

def carried : List LiveEvent :=
  [quietBar morning, position (morning + 600) 1 true, quietBar (morning + 86400)]

def exiting : List LiveEvent := [position morning 2 false, position (morning + 1) 1 false]

def resent : List LiveEvent :=
  [signalBar morning, position (morning + 1) (-898) false, rejected (morning + 2) (.other 1),
    bar (morning + 600) 101 101 101 101]

end Sample

/-- A position that was carried over a night. -/
theorem always_known_carried :
    Reaction.Always PositionRun.step (fun r e => (r.step e).1.isKnown = true)
      (PositionRun.start (Sample.config true)) Sample.carried :=
  always_known (Sample.config true) Sample.carried (by decide +kernel)

/-- A quantity of the broker is not always accounted for: not on a new day, not while an exit is on
its way, and not once an entry was sent again. -/
theorem not_always_accounted :
    ¬Reaction.Always PositionRun.step (fun r e => (r.step e).1.isAccounted = true)
        (PositionRun.start (Sample.config true)) Sample.carried ∧
      ¬Reaction.Always PositionRun.step (fun r e => (r.step e).1.isAccounted = true)
        (PositionRun.start (Sample.config true)) Sample.exiting ∧
      ¬Reaction.Always PositionRun.step (fun r e => (r.step e).1.isAccounted = true)
        (PositionRun.start (Sample.config false)) Sample.resent := by
  decide +kernel

end AlorRs.AlorUsdrubfHybrid
