import AlorRs.StrategyRuntime.Equiv.AlorUsdrubfHybrid.ForceExits

/-!
# At most one entry and one exit on their way

An entry or an exit that was sent is on its way until it is refused or the broker's quantity shows
that it was filled.  As long as nothing disturbs it (`CommandRun.Undisturbed`), no other one is sent
(`always_single`).
-/

namespace AlorRs.AlorUsdrubfHybrid

open AlorUsdrubfHybridStrategy

/-! ### Commands -/

/-- The command of an order to the market. -/
structure Command where
  requestId : Uuid
  qty : ℚ
  side : Side
deriving DecidableEq

namespace Command

def ofIntent (requestId : Uuid) (intent : Intent) : Option Command :=
  match intent.baseIntent with
  | .market qty side _ _ => some ⟨requestId, qty, side⟩
  | _ => none

def ofIntents (kind : Intent → Bool) (requestId : Uuid) (intents : List Intent) : Option Command :=
  (intents.find? kind).bind (ofIntent requestId)

def isRefused (cmd : Command) : LiveEvent → Bool
  | .ack _ ack => isRejection ack && ack.requestId = cmd.requestId
  | .order _ ord _ =>
    ord.requestId = some cmd.requestId &&
      ["cancelled", "canceled", "rejected"].contains (toAsciiLowercaseText ord.status)
  | _ => false

/-- The quantity of the broker shows that the command was filled as an entry. -/
def isEntered (cmd : Command) (qty : ℚ) : Bool :=
  (match cmd.side with
    | .buy => decide (0 < qty)
    | .sell => decide (qty < 0)) && cmd.qty ≤ |qty| + epsilon

end Command

/-! ### Runs -/

/-- The strategy, the quantity of the broker, and the entry and the exit on their way. -/
structure CommandRun where
  strategy : AlorUsdrubfHybridStrategy
  brokerQty : Option ℚ
  entry : Option Command
  exit : Option Command

namespace CommandRun

variable (r : CommandRun) (s : AlorUsdrubfHybridStrategy)

def entryAfter (e : LiveEvent) : Option Command :=
  r.entry.filter fun cmd =>
    !(cmd.isRefused e || (e.observed r.strategy.config.symbol).any cmd.isEntered)

def exitAfter (e : LiveEvent) : Option Command :=
  r.exit.filter fun cmd =>
    !(cmd.isRefused e || (e.observed r.strategy.config.symbol).any fun qty => |qty| < flatQty)

/-- The strategy answers an event; the runtime makes a command with the given request of an entry
or an exit in the answer. -/
def step (e : LiveEvent × Uuid) : CommandRun × List Intent :=
  let symbol := r.strategy.config.symbol
  let (s, intents) := e.1.handle r.brokerQty r.strategy
  (⟨s, e.1.brokerQtyAfter symbol r.brokerQty,
    (Command.ofIntents (isEntry symbol) e.2 intents).or (r.entryAfter e.1),
    (Command.ofIntents (isExit symbol) e.2 intents).or (r.exitAfter e.1)⟩, intents)

def start (config : AlorUsdrubfHybridConfig) : CommandRun := ⟨new config, none, none, none⟩

def Single (e : LiveEvent × Uuid) : Prop :=
  (r.step e).2.countP (isEntry r.strategy.config.symbol) + (r.entryAfter e.1).toList.length ≤ 1 ∧
    (r.step e).2.countP (isExit r.strategy.config.symbol) + (r.exitAfter e.1).toList.length ≤ 1

instance (r : CommandRun) (e : LiveEvent × Uuid) : Decidable (Single r e) :=
  inferInstanceAs (Decidable (_ ∧ _))

def awaitsRest (qty : ℚ) : Bool :=
  s.pendingEntry.any fun pending =>
    1 < pending.targetQty && (isInvalidPartial pending qty || isPartial pending qty)

def takesOver (existing : Bool) : Bool :=
  s.openPosition.isNone && (s.pendingEntry.isSome || existing)

def Undisturbed : LiveEvent → Prop
  -- a new date starts flat
  | .bar ctx bar =>
    r.strategy.admits ctx.ctx bar = true → r.strategy.startsDay bar = true →
      r.entry = none ∧ r.exit = none
  -- a refusal is of what is on its way
  | .ack _ ack =>
    isRejection ack = true → (∀ cmd ∈ r.entry, cmd.requestId = ack.requestId) ∧
      ∀ cmd ∈ r.exit, cmd.requestId = ack.requestId
  -- the last tracked order ends only with the entry
  | .order ctx ord nowMs =>
    r.strategy.freesEntry ord = true → ∀ cmd ∈ r.entry, cmd.isRefused (.order ctx ord nowMs) = true
  -- a position that is more than a part of the entry completes it
  | .position _ pos _ =>
    pos.symbol = r.strategy.config.symbol → ¬|pos.qty| < flatQty →
      awaitsRest r.strategy pos.qty = false → (∀ cmd ∈ r.entry, cmd.isEntered pos.qty = true) ∧
          (takesOver r.strategy pos.existing = true → r.exit = none)
  -- an exit is not taken for a bracket that is overdue
  | .timer _ nowMs =>
    r.strategy.reconcileDue nowMs = true → ¬|r.brokerQty.getD 0| < flatQty → r.exit = none
  -- a process starts with nothing on its way but what was saved
  | .snapshot _ _ | .restored _ _ => r.entry = none ∧ r.exit = none
  | .restart saved =>
    (r.entry.isSome = true → saved.entryIntentInflight = true) ∧
      (r.exit.isSome = true → saved.exitIntentInflight = true)
  | .stopOrder _ _ _ | .warmup _ _ => True

instance (r : CommandRun) : (e : LiveEvent) → Decidable (Undisturbed r e)
  | .bar _ _ => inferInstanceAs (Decidable (_ → _ → _ ∧ _))
  | .ack _ ack =>
    inferInstanceAs (Decidable (_ → (∀ cmd ∈ r.entry, cmd.requestId = ack.requestId) ∧
      ∀ cmd ∈ r.exit, cmd.requestId = ack.requestId))
  | .order ctx ord nowMs =>
    inferInstanceAs (Decidable (_ → ∀ cmd ∈ r.entry, cmd.isRefused (.order ctx ord nowMs) = true))
  | .position _ pos _ =>
    inferInstanceAs (Decidable (_ → _ → _ → (∀ cmd ∈ r.entry, cmd.isEntered pos.qty = true) ∧
      (_ → _)))
  | .timer _ _ => inferInstanceAs (Decidable (_ → _ → _))
  | .snapshot _ _ | .restored _ _ => inferInstanceAs (Decidable (_ ∧ _))
  | .restart _ => inferInstanceAs (Decidable ((_ → _) ∧ (_ → _)))
  | .stopOrder _ _ _ | .warmup _ _ => isTrue trivial

/-- What is on its way is shown by the flags of the strategy. -/
structure Sound (r : CommandRun) : Prop where
  entry : r.entry.isSome = true → r.strategy.entryIntentInflight = true
  exit : r.exit.isSome = true → r.strategy.exitIntentInflight = true

end CommandRun

/-! ### The answer to an event -/

/-- Some intents, with the flag that they leave, send none of a kind, or the one that nothing of the
kind is on its way before. -/
inductive Tallies (kind : Intent → Bool) (before : Option Command) (flag : Bool)
    (intents : List Intent) : Prop
  | keeps (hnone : intents.countP kind = 0) (hflag : before.isSome = true → flag = true)
  | sends (hone : intents.countP kind = 1) (hbefore : before = none) (hflag : flag = true)

namespace Tallies

variable {kind : Intent → Bool} {before : Option Command} {flag : Bool} {intents : List Intent}

theorem single (h : Tallies kind before flag intents) :
    intents.countP kind + before.toList.length ≤ 1 := by
  cases h with
  | keeps hnone =>
    rw [hnone]
    cases before <;> simp
  | sends hone hbefore =>
    rw [hone, hbefore]
    simp

theorem shown (h : Tallies kind before flag intents) (requestId : Uuid) :
    ((Command.ofIntents kind requestId intents).or before).isSome = true → flag = true := by
  cases h with
  | keeps hnone hflag =>
    intro hsome
    have hnil : intents.find? kind = none := by
      rw [List.find?_eq_none]
      intro intent hintent
      have hzero := List.countP_eq_zero.mp hnone intent hintent
      simpa using hzero
    unfold Command.ofIntents at hsome
    rw [hnil, Option.bind_none, Option.none_or] at hsome
    exact hflag hsome
  | sends _ _ hflag => exact fun _ => hflag

end Tallies

/-! ### Moves -/

variable {qty : ℚ}

section Moves

variable {symbol : String} {out : Option Command} {g g' : Grip} {intents : List Intent}

theorem Quiet.countP_isEntry (h : Quiet symbol intents) : intents.countP (isEntry symbol) = 0 :=
  List.countP_eq_zero.mpr fun intent hintent => by simp [(h intent hintent).1]

theorem Quiet.countP_isExit (h : Quiet symbol intents) : intents.countP (isExit symbol) = 0 :=
  List.countP_eq_zero.mpr fun intent hintent => by simp [(h intent hintent).2]

variable {before : List Intent}

theorem countP_isEntry_exit {intent : Intent} {side : Side} (hquiet : Quiet symbol before)
    (hintent : IsExitOf symbol qty side intent) : (before ++ [intent]).countP (isEntry symbol) = 0 := by
  rw [List.countP_append, hquiet.countP_isEntry, List.countP_singleton, hintent.isEntry]
  rfl

theorem countP_isExit_exit {intent : Intent} {side : Side} (hquiet : Quiet symbol before)
    (hintent : IsExitOf symbol qty side intent) : (before ++ [intent]).countP (isExit symbol) = 1 := by
  rw [List.countP_append, hquiet.countP_isExit, List.countP_singleton, hintent.isExit]
  rfl

variable (pending : PendingEntry)

theorem isEntry_entryOrder (size : ℤ) (price : ℚ) :
    isEntry symbol (entryOrder symbol pending size price) = true :=
  startsWith_entry symbol pending.owner.asStr

theorem isExit_entryOrder (size : ℤ) (price : ℚ) :
    isExit symbol (entryOrder symbol pending size price) = false :=
  startsWith_entry_exit symbol pending.owner.asStr

/-- With the flag down nothing is on its way. -/
theorem eq_none_of_shown {flag : Bool} (hout : out.isSome = true → flag = true)
    (hflag : flag = false) : out = none := by
  rw [hflag] at hout
  simpa using hout

/-- What flattens sends no entry, and an exit only where none is on its way. -/
theorem Flattens.tallies {exit : Bool} (h : Flattens symbol exit qty intents)
    (hout : out.isSome = true → exit = true) :
    intents.countP (isEntry symbol) = 0 ∧ Tallies (isExit symbol) out true intents := by
  rcases h with ⟨hexit, rfl⟩ | ⟨hexit, before, intent, rfl, hquiet, hintent⟩
  · exact ⟨rfl, .keeps rfl fun _ => rfl⟩
  · refine ⟨countP_isEntry_exit hquiet hintent, .sends (countP_isExit_exit hquiet hintent) ?_ rfl⟩
    rw [hexit] at hout
    simpa using hout

variable {out' : Option Command}

theorem BarMove.tallies (h : BarMove symbol g g' intents)
    (hentry : out.isSome = true → g.entry = true) (hexit : out'.isSome = true → g.exit = true) :
    Tallies (isEntry symbol) out g'.entry intents ∧
      Tallies (isExit symbol) out' g'.exit intents := by
  cases h with
  | hold hquiet => exact ⟨.keeps hquiet.countP_isEntry hentry, .keeps hquiet.countP_isExit hexit⟩
  | exit _ _ _ hidle hquiet hintent =>
    exact ⟨.keeps (countP_isEntry_exit hquiet hintent) hentry,
      .sends (countP_isExit_exit hquiet hintent) (eq_none_of_shown hexit hidle) rfl⟩
  | send size price _ _ hidle | enter _ size price _ _ hidle =>
    refine ⟨.sends ?_ (eq_none_of_shown hentry hidle) rfl, .keeps ?_ hexit⟩
    · rw [List.countP_singleton, isEntry_entryOrder]
      rfl
    · rw [List.countP_singleton, isExit_entryOrder]
      rfl
  | signal _ _ _ hquiet =>
    exact ⟨.keeps hquiet.countP_isEntry hentry, .keeps hquiet.countP_isExit hexit⟩

/-- A position that the strategy adopts ends both: the entry was completed, and no exit is on its
way where a flat strategy takes over. -/
theorem OpenMove.tallies {existing settling : Bool}
    (h : OpenMove symbol qty existing settling g g' intents)
    (hentry : out.isSome = true → g.entry = true) (hexit : out'.isSome = true → g.exit = true)
    (hadopts : (∀ pending, g.pending = some pending → pending.Completes qty) →
      out = none ∧ (g.opened = none → (g.pending = none → existing = true) → out' = none)) :
    Tallies (isEntry symbol) out g'.entry intents ∧
      Tallies (isExit symbol) out' g'.exit intents := by
  cases h with
  | invalid _ hflattens | residual _ _ _ hflattens | changed _ _ _ hflattens =>
    obtain ⟨hnone, htallies⟩ := hflattens.tallies hexit
    exact ⟨.keeps hnone hentry, htallies⟩
  | waits | settles => exact ⟨.keeps rfl hentry, .keeps rfl hexit⟩
  | progress => exact ⟨.keeps rfl hentry, .keeps rfl fun _ => rfl⟩
  | adopt _ hside hidle hnew hquiet =>
    have hcompletes : ∀ pending, g.pending = some pending → pending.Completes qty := by
      intro pending hpending
      rcases hside with ⟨hnone, -⟩ | ⟨pending', hpending', -, hcompletes⟩
      · rw [hnone] at hpending
        cases hpending
      · rw [hpending] at hpending'
        obtain rfl := Option.some.inj hpending'
        exact hcompletes
    obtain ⟨hout, htakes⟩ := hadopts hcompletes
    have hout' : out' = none := by
      cases hopened : g.opened with
      | none => exact htakes hopened (hnew hopened)
      | some pos => exact eq_none_of_shown hexit (hidle (by rw [hopened]; rfl))
    rw [hout, hout']
    exact ⟨.keeps hquiet.countP_isEntry nofun, .keeps hquiet.countP_isExit nofun⟩

theorem TimerMove.tallies {due : Bool} (h : TimerMove symbol qty due g g' intents)
    (hentry : out.isSome = true → g.entry = true) (hexit : out'.isSome = true → g.exit = true)
    (hdue : due = true → ¬|qty| < flatQty → out' = none) :
    Tallies (isEntry symbol) out g'.entry intents ∧
      Tallies (isExit symbol) out' g'.exit intents := by
  cases h with
  | hold => exact ⟨.keeps rfl hentry, .keeps rfl hexit⟩
  | reconcile hover hqty hflattens =>
    have hnone : out'.isSome = true → false = true := by
      rw [hdue hover hqty]
      exact id
    obtain ⟨hentries, htallies⟩ := hflattens.tallies hnone
    exact ⟨.keeps hentries hentry, htallies⟩
  | timeout _ hbefore hflattens =>
    obtain ⟨hentries, htallies⟩ := hflattens.tallies hexit
    refine ⟨.keeps ?_ hentry, ?_⟩
    · rw [List.countP_append, hbefore.countP_isEntry, hentries]
    · cases htallies with
      | keeps hnone hflag =>
        refine .keeps ?_ hflag
        rw [List.countP_append, hbefore.countP_isExit, hnone]
      | sends hone hout hflag =>
        refine .sends ?_ hout hflag
        rw [List.countP_append, hbefore.countP_isExit, hone]
  | giveUp _ _ hquiet =>
    exact ⟨.keeps hquiet.countP_isEntry hentry, .keeps hquiet.countP_isExit hexit⟩

end Moves

/-! ### Steps -/

namespace CommandRun

section Steps

variable {r : CommandRun}

theorem Sound.entryAfter (h : Sound r) (e : LiveEvent) :
    (r.entryAfter e).isSome = true → r.strategy.entryIntentInflight = true := by
  intro hsome
  exact h.entry (Option.isSome_of_isSome_filter _ _ hsome)

theorem Sound.exitAfter (h : Sound r) (e : LiveEvent) :
    (r.exitAfter e).isSome = true → r.strategy.exitIntentInflight = true := by
  intro hsome
  exact h.exit (Option.isSome_of_isSome_filter _ _ hsome)

variable {e : LiveEvent}

/-- What every entry on its way meets ends it. -/
theorem entryAfter_eq_none (h : ∀ cmd ∈ r.entry, cmd.isRefused e = true ∨
      (e.observed r.strategy.config.symbol).any cmd.isEntered = true) : r.entryAfter e = none := by
  unfold CommandRun.entryAfter
  rw [Option.filter_eq_none_iff]
  intro cmd hcmd
  rw [Bool.not_eq_true, Bool.not_eq_false', Bool.or_eq_true]
  exact h cmd hcmd

theorem exitAfter_eq_none (h : ∀ cmd ∈ r.exit, cmd.isRefused e = true ∨
      (e.observed r.strategy.config.symbol).any (fun qty => |qty| < flatQty) = true) :
    r.exitAfter e = none := by
  unfold CommandRun.exitAfter
  rw [Option.filter_eq_none_iff]
  intro cmd hcmd
  rw [Bool.not_eq_true, Bool.not_eq_false', Bool.or_eq_true]
  exact h cmd hcmd

def Answers (r : CommandRun) (e : LiveEvent) : Prop :=
  let answer := e.handle r.brokerQty r.strategy
  Tallies (isEntry r.strategy.config.symbol) (r.entryAfter e) answer.1.entryIntentInflight
      answer.2 ∧
    Tallies (isExit r.strategy.config.symbol) (r.exitAfter e) answer.1.exitIntentInflight answer.2

/-- An answer that leaves both flags up and sends neither an entry nor an exit. -/
theorem answers_of_quiet
    (hquiet : Quiet r.strategy.config.symbol (e.handle r.brokerQty r.strategy).2)
    (hentry : (r.entryAfter e).isSome = true →
      (e.handle r.brokerQty r.strategy).1.entryIntentInflight = true)
    (hexit : (r.exitAfter e).isSome = true →
      (e.handle r.brokerQty r.strategy).1.exitIntentInflight = true) : Answers r e :=
  ⟨.keeps hquiet.countP_isEntry hentry, .keeps hquiet.countP_isExit hexit⟩

theorem answers_bar (h : Sound r) (ctx : LiveCtx) (bar : BarEvent)
    (hundisturbed : Undisturbed r (.bar ctx bar)) : Answers r (.bar ctx bar) := by
  have hentry := h.entryAfter (.bar ctx bar)
  have hexit := h.exitAfter (.bar ctx bar)
  cases hadmits : r.strategy.admits ctx.ctx bar with
  | false =>
    obtain ⟨hgrip, hnil⟩ := onBar_of_not_admits hadmits
    have hflag := congrArg Grip.entry hgrip
    have hflag' := congrArg Grip.exit hgrip
    apply answers_of_quiet
    · show Quiet _ (r.strategy.onBar ctx.ctx bar).2
      rw [hnil]
      exact .nil
    · exact fun hsome => hflag.trans (hentry hsome)
    · exact fun hsome => hflag'.trans (hexit hsome)
  | true =>
    have hmove := onBar_of_admits ctx.live hadmits
    cases hstarts : r.strategy.startsDay bar with
    -- nothing may be outstanding when a day starts
    | true =>
      obtain ⟨hnoEntry, hnoExit⟩ := hundisturbed hadmits hstarts
      have hnone : r.entryAfter (.bar ctx bar) = none := by
        unfold CommandRun.entryAfter
        rw [hnoEntry]
        rfl
      have hnone' : r.exitAfter (.bar ctx bar) = none := by
        unfold CommandRun.exitAfter
        rw [hnoExit]
        rfl
      unfold Answers
      rw [hnone, hnone']
      exact hmove.tallies nofun nofun
    | false =>
      rw [hstarts, if_neg Bool.false_ne_true] at hmove
      exact hmove.tallies hentry hexit

theorem answers_ack (h : Sound r) (ctx : LiveCtx) (ack : CommandAck)
    (hundisturbed : Undisturbed r (.ack ctx ack)) : Answers r (.ack ctx ack) := by
  obtain ⟨-, hnil, hgrip⟩ := onAck_spec (s := r.strategy) ctx.ctx ack
  have hentry := congrArg Grip.entry hgrip
  have hexit := congrArg Grip.exit hgrip
  -- a rejection settles the command that it names
  have hrefused : isRejection ack = true → ∀ cmd : Command, cmd.requestId = ack.requestId →
      cmd.isRefused (.ack ctx ack) = true := by
    intro hrejection cmd hcmd
    show (isRejection ack && decide (ack.requestId = cmd.requestId)) = true
    rw [hrejection, hcmd, decide_eq_true rfl]
    rfl
  apply answers_of_quiet
  · show Quiet _ (r.strategy.onAck ctx.ctx ack).2
    rw [hnil]
    exact .nil
  · intro hsome
    cases hrejection : isRejection ack with
    | true =>
      have hnone : r.entryAfter (.ack ctx ack) = none := entryAfter_eq_none fun cmd hcmd =>
        .inl (hrefused hrejection cmd ((hundisturbed hrejection).1 cmd hcmd))
      rw [hnone] at hsome
      cases hsome
    | false =>
      rw [hrejection, if_neg Bool.false_ne_true] at hentry
      exact hentry.trans (h.entryAfter _ hsome)
  · intro hsome
    cases hrejection : isRejection ack with
    | true =>
      have hnone : r.exitAfter (.ack ctx ack) = none := exitAfter_eq_none fun cmd hcmd =>
        .inl (hrefused hrejection cmd ((hundisturbed hrejection).2 cmd hcmd))
      rw [hnone] at hsome
      cases hsome
    | false =>
      rw [hrejection, if_neg Bool.false_ne_true] at hexit
      exact hexit.trans (h.exitAfter _ hsome)

theorem answers_order (h : Sound r) (ctx : LiveCtx) (ord : OrderEvent) (nowMs : ℤ)
    (hundisturbed : Undisturbed r (.order ctx ord nowMs)) : Answers r (.order ctx ord nowMs) := by
  obtain ⟨-, hnil, exit, hexit, hgrip⟩ := onOrder_spec (s := r.strategy) ctx.ctx ord nowMs
  have hentry := congrArg Grip.entry hgrip
  have hexit' := congrArg Grip.exit hgrip
  apply answers_of_quiet
  · show Quiet _ (r.strategy.onOrder ctx.ctx ord nowMs).2
    rw [hnil]
    exact .nil
  · intro hsome
    cases hfrees : r.strategy.freesEntry ord with
    | true =>
      have hnone : r.entryAfter (.order ctx ord nowMs) = none :=
        entryAfter_eq_none fun cmd hcmd => .inl (hundisturbed hfrees cmd hcmd)
      rw [hnone] at hsome
      cases hsome
    | false =>
      have hflag : r.strategy.grip.entry = true := h.entryAfter _ hsome
      refine hentry.trans ?_
      show (r.strategy.grip.entry && !r.strategy.freesEntry ord) = true
      rw [hflag, hfrees]
      rfl
  · exact fun hsome => hexit'.trans (hexit (h.exitAfter _ hsome))

theorem answers_stopOrder (h : Sound r) (ctx : LiveCtx) (ord : StopOrderEvent) (nowMs : ℤ) :
    Answers r (.stopOrder ctx ord nowMs) := by
  obtain ⟨-, hquiet, exit, hexit, hgrip⟩ := onStopOrder_spec (s := r.strategy) ctx.ctx ord nowMs
  have hentry := congrArg Grip.entry hgrip
  have hexit' := congrArg Grip.exit hgrip
  apply answers_of_quiet hquiet
  · exact fun hsome => hentry.trans (h.entryAfter _ hsome)
  · exact fun hsome => hexit'.trans (hexit (h.exitAfter _ hsome))

theorem awaitsRest_of_completes {s : AlorUsdrubfHybridStrategy}
    (h : ∀ pending, s.pendingEntry = some pending → pending.Completes qty) :
    awaitsRest s qty = false := by
  unfold awaitsRest
  rw [Option.any_eq_false]
  intro pending hpending
  by_cases htarget : 1 < pending.targetQty
  · obtain ⟨hvalid, hwhole⟩ := h pending hpending htarget
    rw [hvalid, hwhole, Bool.or_false, Bool.and_false]
  · rw [decide_eq_false htarget, Bool.false_and]

theorem answers_position (h : Sound r) (ctx : LiveCtx) (pos : PositionEvent) (nowMs : ℤ)
    (hundisturbed : Undisturbed r (.position ctx pos nowMs)) :
    Answers r (.position ctx pos nowMs) := by
  have hentry := h.entryAfter (.position ctx pos nowMs)
  have hexit := h.exitAfter (.position ctx pos nowMs)
  obtain ⟨-, hcases⟩ := onPosition_spec (s := r.strategy) ctx.ctx pos nowMs
  rcases hcases with ⟨-, hgrip, hnil⟩ | ⟨hsymbol, hflat, hgrip, hquiet⟩ | ⟨hsymbol, hnot, hmove⟩
  · have hentry' := congrArg Grip.entry hgrip
    have hexit' := congrArg Grip.exit hgrip
    apply answers_of_quiet
    · show Quiet _ (r.strategy.onPosition ctx.ctx pos nowMs).2
      rw [hnil]
      exact .nil
    · exact fun hsome => hentry'.trans (hentry hsome)
    · exact fun hsome => hexit'.trans (hexit hsome)
  -- the rest are positions of the symbol itself
  all_goals
    have hobserved : (LiveEvent.position ctx pos nowMs).observed r.strategy.config.symbol =
        some pos.qty := if_pos hsymbol
  · have hentry' := congrArg Grip.entry hgrip
    apply answers_of_quiet hquiet
    · exact fun hsome => hentry'.trans (hentry hsome)
    -- a flat position settles the exit
    · intro hsome
      have hnone : r.exitAfter (.position ctx pos nowMs) = none := by
        apply exitAfter_eq_none
        intro cmd hcmd
        rw [hobserved]
        exact .inr (decide_eq_true hflat)
      rw [hnone] at hsome
      cases hsome
  · apply hmove.tallies hentry hexit
    intro hcompletes
    obtain ⟨hentered, htakes⟩ := hundisturbed hsymbol hnot (awaitsRest_of_completes hcompletes)
    constructor
    -- the position completes the entry, which is over then
    · apply entryAfter_eq_none
      intro cmd hcmd
      rw [hobserved]
      exact .inr (hentered cmd hcmd)
    -- what is taken over has no exit on its way
    · intro hopened hexisting
      have htaken : takesOver r.strategy pos.existing = true := by
        change r.strategy.openPosition = none at hopened
        unfold takesOver
        rw [hopened]
        cases hpending : r.strategy.pendingEntry with
        | none => rw [hexisting hpending]; rfl
        | some pending => rfl
      unfold CommandRun.exitAfter
      rw [htakes htaken]
      rfl

theorem answers_timer (h : Sound r) (ctx : LiveCtx) (nowMs : ℤ)
    (hundisturbed : Undisturbed r (.timer ctx nowMs)) : Answers r (.timer ctx nowMs) := by
  obtain ⟨-, hmove⟩ := onTimer_spec (s := r.strategy)
    { ctx.ctx with positionQty := r.brokerQty } nowMs
  apply hmove.tallies (h.entryAfter _) (h.exitAfter _)
  intro hdue hqty
  unfold CommandRun.exitAfter
  rw [hundisturbed hdue hqty]
  rfl

theorem answers_of_undisturbed (h : Sound r) (hundisturbed : Undisturbed r e) : Answers r e := by
  cases e with
  | bar ctx bar => exact answers_bar h ctx bar hundisturbed
  | ack ctx ack => exact answers_ack h ctx ack hundisturbed
  | order ctx ord nowMs => exact answers_order h ctx ord nowMs hundisturbed
  | stopOrder ctx ord nowMs => exact answers_stopOrder h ctx ord nowMs
  | position ctx pos nowMs => exact answers_position h ctx pos nowMs hundisturbed
  | timer ctx nowMs => exact answers_timer h ctx nowMs hundisturbed
  | snapshot ctx snapshot =>
    obtain ⟨-, hnil, -⟩ := onBootstrapSnapshot_spec (s := r.strategy) ctx.ctx snapshot
    obtain ⟨hnoEntry, hnoExit⟩ := hundisturbed
    apply answers_of_quiet
    · show Quiet _ (r.strategy.onBootstrapSnapshot ctx.ctx snapshot).2
      rw [hnil]
      exact .nil
    · unfold CommandRun.entryAfter
      rw [hnoEntry]
      nofun
    · unfold CommandRun.exitAfter
      rw [hnoExit]
      nofun
  | restored ctx state =>
    obtain ⟨hnoEntry, hnoExit⟩ := hundisturbed
    apply answers_of_quiet .nil
    · unfold CommandRun.entryAfter
      rw [hnoEntry]
      nofun
    · unfold CommandRun.exitAfter
      rw [hnoExit]
      nofun
  | warmup ctx bars =>
    obtain ⟨-, hgrip⟩ := warmupFromHistory_spec (s := r.strategy) ctx.ctx bars
    have hentry := congrArg Grip.entry hgrip
    have hexit := congrArg Grip.exit hgrip
    apply answers_of_quiet .nil
    · exact fun hsome => hentry.trans (h.entryAfter _ hsome)
    · exact fun hsome => hexit.trans (h.exitAfter _ hsome)
  | restart saved =>
    obtain ⟨hsavedEntry, hsavedExit⟩ := hundisturbed
    apply answers_of_quiet .nil
    · exact fun hsome => hsavedEntry (Option.isSome_of_isSome_filter _ _ hsome)
    · exact fun hsome => hsavedExit (Option.isSome_of_isSome_filter _ _ hsome)

theorem Sound.step (h : Sound r) {e : LiveEvent × Uuid} (hundisturbed : Undisturbed r e.1) :
    Single r e ∧ Sound (r.step e).1 := by
  obtain ⟨hentry, hexit⟩ := answers_of_undisturbed h hundisturbed
  exact ⟨⟨hentry.single, hexit.single⟩, hentry.shown e.2, hexit.shown e.2⟩

end Steps

end CommandRun

/-- In every live run that does not disturb what is on its way, an entry is sent only while no
entry is, and an exit only while no exit is. -/
theorem always_single (config : AlorUsdrubfHybridConfig) (events : List (LiveEvent × Uuid))
    (hundisturbed : Reaction.Always CommandRun.step (fun r e => r.Undisturbed e.1)
      (CommandRun.start config) events) :
    Reaction.Always CommandRun.step CommandRun.Single (CommandRun.start config) events := by
  have hstart : CommandRun.Sound (CommandRun.start config) := ⟨nofun, nofun⟩
  apply Reaction.Always.of_invariant _ hstart hundisturbed
  intro r e hsound hC
  exact hsound.step hC

namespace Sample

def order (tsUtc orderId : ℤ) (requestId : Uuid) (status comment : String) : LiveEvent :=
  .order (ctx tsUtc)
    ⟨orderId, some requestId, "USDRUBF", status, "sell", "market", 1, 1, 100, false, some comment,
      tsUtc⟩ (1000 * tsUtc)

def traded : List (LiveEvent × Uuid) :=
  [(signalBar morning, .other 1), (position (morning + 1) (-1) false, .other 0),
    (quietBar cutoff, .other 2), (position (cutoff + 1) 0 false, .other 0)]

def overNight : List (LiveEvent × Uuid) :=
  [(signalBar morning, .other 1), (signalBar (morning + 86400), .other 2)]

def foreignRefused : List (LiveEvent × Uuid) :=
  [(signalBar morning, .other 1), (rejected (morning + 1) (.other 9), .other 0),
    (quietBar (morning + 600), .other 2)]

def filledFirst : List (LiveEvent × Uuid) :=
  [(signalBar morning, .other 1),
    (order (morning + 1) 7 (.other 1) "filled" "USDRUBF|entry|mean_rev", .other 0),
    (quietBar (morning + 600), .other 2)]

/-- The TP is filled while the exit is on its way, and the broker is slow to tell. -/
def overdue : List (LiveEvent × Uuid) :=
  [(signalBar morning, .other 1), (position (morning + 1) (-1) false, .other 0),
    (quietBar cutoff, .other 2),
    (order (cutoff + 1) 8 (.other 3) "filled" "AUS|sid=alor_usdrubf_hybrid_v1|o=MR|r=TP", .other 0),
    (.timer (ctx (cutoff + 4)) (1000 * (cutoff + 4)), .other 4)]

def otherSide : List (LiveEvent × Uuid) :=
  [(signalBar morning, .other 1), (position (morning + 1) 1 false, .other 0),
    (position (morning + 2) 0 false, .other 0), (signalBar (morning + 600), .other 2)]

def takenOver : List (LiveEvent × Uuid) :=
  [(signalBar morning, .other 1), (position (morning + 1) 1 false, .other 2),
    (position (morning + 2) 1 true, .other 0), (position (morning + 3) 2 false, .other 3)]

def restoredBetween : List (LiveEvent × Uuid) :=
  [(signalBar morning, .other 1), (.restored (ctx (morning + 1)) ⟨∅, ∅⟩, .other 0),
    (quietBar (morning + 600), .other 2)]

end Sample

/-- An entry and an exit, one after the other. -/
theorem always_single_traded :
    Reaction.Always CommandRun.step CommandRun.Single (CommandRun.start (Sample.config true))
      Sample.traded :=
  always_single (Sample.config true) Sample.traded (by decide +kernel)

/-- What disturbs an entry or an exit on its way makes the strategy send another one. -/
theorem not_always_single :
    ¬∃ run ∈ [(true, Sample.overNight), (true, Sample.foreignRefused), (true, Sample.filledFirst),
        (true, Sample.overdue), (true, Sample.otherSide), (false, Sample.takenOver),
        (true, Sample.restoredBetween)],
      Reaction.Always CommandRun.step CommandRun.Single
        (CommandRun.start (Sample.config run.1)) run.2 := by
  decide +kernel

end AlorRs.AlorUsdrubfHybrid
