import AlorRs.StrategyRuntime.Equiv.ShadowReaction.Days
import AlorRs.StrategyRuntime.ShadowReaction.Imoexf

/-!
# The replay of the IMOEXF model

A day of a replay does what a frozen session does that is started over the observations of the two days
before (`replayDay_eq`): no step looks at the trades and events of the days before (`after`), and the
bar after a bar of a complete session is the one that a frozen session expects.
-/

namespace AlorRs.ShadowReaction.Imoexf

open Outcome Engine

variable {date : NaiveDate} {secs : ℕ} {b : Bar} {bars day : List Bar} {e e' last before : Engine}
  {a : Action} {next : Option NaiveDateTime} {calls : List Call}

/-! ### What was done before -/

def Engine.after (before e : Engine) : Engine :=
  { e with
    trades := before.trades ++ e.trades
    events := before.events ++ e.events }

def Engine.setting (e : Engine) : Sleeve × Costs × Option Observation × Option Observation :=
  (e.sleeve, e.costs, e.previous, e.previous2)

def Later (before start e e' : Engine) : Prop :=
  e' = before.after e ∧ e.setting = start.setting ∧ e.observation = start.observation

theorem fill_after (before e : Engine) (a : Action) (b : Bar) :
    Both (Later before e) (e.fill a b) ((before.after e).fill a b) := by
  unfold fill
  cases a.exitReason with
  | none =>
    refine .ensure_bind fun _ => .ok ?_
    cases a.owner with
    | mr => exact ⟨rfl, rfl, rfl⟩
    | bo =>
      cases a.side with
      | long | short => exact ⟨rfl, rfl, rfl⟩
  | some reason =>
    refine .bind_same fun p _ => .ensure_bind fun _ => .ok ⟨?_, rfl, rfl⟩
    show Engine.mk .. = Engine.mk ..
    congr 1
    exact List.append_assoc ..

theorem apply_after (before e : Engine) (b : Bar) :
    Both (fun done done' => Later before e done.1 done'.1 ∧ done'.2 = done.2) (e.apply b)
      ((before.after e).apply b) := by
  have hpending : (before.after e).pending = e.pending := rfl
  unfold apply
  rw [hpending]
  cases e.pending with
  | none => exact .ok ⟨⟨rfl, rfl, rfl⟩, rfl⟩
  | some a =>
    refine .ensure_bind fun _ => .bind (fill_after before e a b) ?_
    rintro filled _ ⟨rfl, hsetting, hobservation⟩
    refine .ok ⟨⟨?_, hsetting, hobservation⟩, rfl⟩
    show Engine.mk .. = Engine.mk ..
    congr 1
    exact List.append_assoc ..

theorem schedule_after (before e : Engine) (a : Action) (next : Option NaiveDateTime) :
    Both (Later before e) (e.schedule a next) ((before.after e).schedule a next) :=
  .ensure_bind fun _ => .ensure_bind fun _ => .ok ⟨rfl, rfl, rfl⟩

theorem decideExit_after (before e : Engine) (b : Bar) (next : Option NaiveDateTime) :
    Both (Later before e) (e.decideExit b next) ((before.after e).decideExit b next) := by
  have hreason : (before.after e).exitReason b = e.exitReason b := rfl
  have hposition : (before.after e).position = e.position := rfl
  unfold decideExit
  rw [hreason, hposition]
  cases e.exitReason b with
  | none => exact .ok ⟨rfl, rfl, rfl⟩
  | some reason =>
    cases e.position with
    | none => exact .ok ⟨rfl, rfl, rfl⟩
    | some p => exact schedule_after ..

theorem decideBo_after (before e : Engine) (b : Bar) (next : Option NaiveDateTime) :
    Both (Later before e) (e.decideBo b next) ((before.after e).decideBo b next) := by
  have hside : (before.after e).boSide b = e.boSide b := rfl
  have hsleeve : (before.after e).sleeve = e.sleeve := rfl
  have hobservation : (before.after e).observation = e.observation := rfl
  have hcontext : (before.after e).context = e.context := rfl
  unfold decideBo
  rw [hside, hsleeve, hobservation, hcontext]
  cases e.boSide b with
  | none =>
    split_ifs
    all_goals exact .ok ⟨rfl, rfl, rfl⟩
  | some side =>
    split_ifs
    · exact .ok ⟨rfl, rfl, rfl⟩
    · exact .ok ⟨rfl, rfl, rfl⟩
    · exact .ok ⟨rfl, rfl, rfl⟩
    · exact .ok ⟨rfl, rfl, rfl⟩
    · refine .ok ⟨?_, rfl, rfl⟩
      show Engine.mk .. = Engine.mk ..
      congr 1
      exact List.append_assoc ..
    · refine .bind (schedule_after ..) ?_
      rintro scheduled _ ⟨rfl, hkept⟩
      exact .ok ⟨rfl, hkept⟩

theorem decideEntry_after (before e : Engine) (b : Bar) (next : Option NaiveDateTime) :
    Both (Later before e) (e.decideEntry b next) ((before.after e).decideEntry b next) := by
  have hsetups : (before.after e).setups b = e.setups b := rfl
  have hsleeve : (before.after e).sleeve = e.sleeve := rfl
  have hentries : (before.after e).mrEntries = e.mrEntries := rfl
  unfold decideEntry
  rw [hsetups, hsleeve, hentries]
  split_ifs
  · refine .bind (schedule_after ..) ?_
    rintro scheduled _ ⟨rfl, hkept⟩
    exact .ok ⟨rfl, hkept⟩
  · exact decideBo_after ..

theorem decide_after (before e : Engine) (b : Bar) (next : Option NaiveDateTime) :
    Both (Later before e) (e.decide b next) ((before.after e).decide b next) := by
  refine .bind (decideExit_after before e.hold b next) ?_
  rintro decided _ ⟨rfl, hsetting, hobservation⟩
  have hobstacle : (before.after decided).obstacle = decided.obstacle := rfl
  rw [hobstacle]
  dsimp only
  split_ifs
  · exact .ok ⟨rfl, hsetting, hobservation⟩
  · refine (decideEntry_after before { decided with branch := decided.obstacle } b next).mono ?_
    rintro last _ ⟨rfl, hsetting', hobservation'⟩
    exact ⟨rfl, hsetting'.trans hsetting, hobservation'.trans hobservation⟩

/-! ### A day -/

def ends (calls : List Call) : List Call := calls.filter (·.phase = "bar_end")

theorem replayDay_cons (h : e.replayDay (b :: day) = .ok (last, calls)) :
    ∃ applied wasPending done later, ({ e with branch := .notEvaluated } : Engine).apply b =
        .ok (applied, wasPending) ∧
      (applied.observe b).decide b (day.head?.map (·.tsLocal)) = .ok done ∧
        done.replayDay day = .ok (last, later) ∧
          calls.head? = some ⟨"bar_start", { e with branch := .notEvaluated }, b⟩ ∧
            ends calls = ⟨"bar_end", done, b⟩ :: ends later := by
  obtain ⟨⟨applied, wasPending⟩, happly, h⟩ := bind_eq_ok.mp h
  obtain ⟨done, hdecide, h⟩ := bind_eq_ok.mp h
  obtain ⟨⟨last', later⟩, hlater, h⟩ := bind_eq_ok.mp h
  obtain ⟨rfl, rfl⟩ := Prod.mk.inj (Except.ok.inj h)
  refine ⟨applied, wasPending, done, later, happly, hdecide, hlater, rfl, ?_⟩
  cases wasPending with
  | true => rfl
  | false => rfl

theorem replayDay_eq (hday : IsSessionFrom date secs day)
    (hstart : ({ e' with branch := .notEvaluated } : Engine) =
      before.after { e with branch := .notEvaluated })
    (h : e'.replayDay day = .ok (last, calls)) (hflat : last.position = none ∧ last.pending = none) :
    last.setting = e'.setting ∧ last.observation = e'.observation.map (day.foldl Observation.observe) ∧
      ∃ engines, states Engine.stepFrozen e day = .ok engines ∧
        ends calls = List.zipWith (fun e b => ⟨"bar_end", before.after e, b⟩) engines day := by
  induction day generalizing secs e e' calls with
  | nil =>
    obtain ⟨rfl, rfl⟩ := Prod.mk.inj (Except.ok.inj h)
    exact ⟨rfl, Option.map_id'.symm, [], rfl, rfl⟩
  | cons b day ih =>
    obtain ⟨applied', wasPending, done', later, happly', hdecide', hlater, -, hends⟩ := replayDay_cons h
    rw [hstart] at happly'
    rw [hday.next] at hdecide'
    obtain ⟨⟨applied, wasPending'⟩, happly, happlied, -⟩ := (apply_after ..).exists_of_ok happly'
    obtain ⟨rfl, hsetting, hobservation⟩ : Later before _ applied applied' := happlied
    obtain ⟨done, hdecide, rfl, hsetting', hobservation'⟩ :=
      (decide_after before (applied.observe b) b (nextOf secs b)).exists_of_ok hdecide'
    obtain ⟨hlastSetting, hlastObservation, engines, hengines, hends'⟩ :=
      ih hday.2.2 (e := done) rfl hlater
    have hkept : done.setting = e'.setting :=
      (hsetting'.trans hsetting).trans (congrArg Engine.setting hstart).symm
    have hobserved : done.observation = e'.observation.map (·.observe b) := by
      have hbefore : applied.observation = e'.observation :=
        hobservation.trans (congrArg Engine.observation hstart).symm
      rw [hobservation']
      exact congrArg (Option.map (·.observe b)) hbefore
    -- The session ends with its last bar, where the replay is flat.
    have hterminal : ((nextOf secs b).isSome || (done.position.isNone && done.pending.isNone)) = true := by
      cases day with
      | nil =>
        obtain ⟨rfl, -⟩ := Prod.mk.inj (Except.ok.inj hlater)
        obtain ⟨hposition, hpending⟩ : done.position = none ∧ done.pending = none := hflat
        rw [hposition, hpending]
        exact Bool.or_true _
      | cons next day =>
        rw [← hday.next]
        rfl
    have hstep : e.stepFrozen b = .ok done := by
      have hnext := nextOf_eq hday.1
      unfold Engine.stepFrozen
      dsimp only
      rw [happly]
      show (applied.observe b).decide b (if _ then _ else _) >>= _ = _
      rw [hnext, hdecide]
      exact ensure_bind_eq_ok.mpr ⟨hterminal, rfl⟩
    refine ⟨hlastSetting.trans hkept, ?_, done :: engines, ?_, ?_⟩
    · rw [hlastObservation]
      show done.observation.map _ = _
      rw [hobserved, Option.map_map]
      rfl
    · show e.stepFrozen b >>= _ = _
      rw [hstep]
      show states _ done day >>= _ = _
      rw [hengines]
      rfl
    · rw [hends, hends']
      rfl

/-! ### Days -/

def oneDay (e : Engine) : List Bar → Except String (Engine × List Call)
  | [] => .ok (e, [])
  | b :: day => do
    ensure (e.position.isNone && e.pending.isNone) "unresolved prior session"
    let (e, calls) ← (e.roll b).replayDay (b :: day)
    ensure (e.position.isNone && e.pending.isNone) ("unclosed session " ++ dateText b.date)
    return (e, calls)

theorem replayDays_eq : e.replayDays bars = logged oneDay e (daysOf bars) := by
  induction bars using daysOf.induct generalizing e with
  | case1 => rw [replayDays, daysOf_nil, logged]
  | case2 b bars ih =>
    rw [replayDays, daysOf_cons, logged, oneDay]
    simp only [bind_assoc, pure_bind, ih]

def observationOf (b : Bar) (day : List Bar) : Observation :=
  (b :: day).foldl Observation.observe (.empty b.tsLocal)

def frozenAt (e : Engine) (b : Bar) : Engine :=
  { Engine.new e.sleeve e.costs with
    previous := e.observation
    previous2 := e.previous
    observation := some (.empty b.tsLocal) }

theorem oneDay_eq (hday : IsSessionFrom date secs (b :: day))
    (h : oneDay e (b :: day) = .ok (last, calls)) :
    last.setting = (e.sleeve, e.costs, e.observation, e.previous) ∧
      last.observation = some (observationOf b day) ∧
        calls.head? = some ⟨"bar_start", { e.roll b with branch := .notEvaluated }, b⟩ ∧
          ∃ engines, states Engine.stepFrozen (frozenAt e b) (b :: day) = .ok engines ∧
            ends calls = List.zipWith (fun f b => ⟨"bar_end", e.after f, b⟩) engines (b :: day) := by
  obtain ⟨hflat, h⟩ := ensure_bind_eq_ok.mp h
  obtain ⟨⟨last', calls'⟩, hbars, h⟩ := bind_eq_ok.mp h
  obtain ⟨hflat', h⟩ := ensure_bind_eq_ok.mp h
  obtain ⟨rfl, rfl⟩ := Prod.mk.inj (Except.ok.inj h)
  rw [Bool.and_eq_true, Option.isNone_iff_eq_none, Option.isNone_iff_eq_none] at hflat hflat'
  have hstart : ({ e.roll b with branch := .notEvaluated } : Engine) =
      e.after { frozenAt e b with branch := .notEvaluated } := by
    unfold Engine.after Engine.roll frozenAt Engine.new
    rw [hflat.1, hflat.2, List.append_nil, List.append_nil]
  obtain ⟨hsetting, hobservation, hfrozen⟩ := replayDay_eq hday hstart hbars hflat'
  obtain ⟨-, -, -, -, -, -, -, hhead, -⟩ := replayDay_cons hbars
  exact ⟨hsetting, hobservation, hhead, hfrozen⟩

theorem setting_of_days {days : List (List Bar)}
    (hdays : ∀ day ∈ days, ∃ date secs, IsSessionFrom date secs day)
    (h : logged oneDay e days = .ok (last, calls)) : last.sleeve = e.sleeve ∧ last.costs = e.costs := by
  refine logged_keeps (P := fun s => s.sleeve = e.sleeve ∧ s.costs = e.costs) ?_ ⟨rfl, rfl⟩ h
  intro day hday mid next calls hmid hstep
  obtain ⟨date, secs, hsession⟩ := hdays day hday
  cases day with
  | nil =>
    obtain ⟨rfl, -⟩ := Prod.mk.inj (Except.ok.inj hstep)
    exact hmid
  | cons b day =>
    have hsetting := (oneDay_eq hsession hstep).1
    have hsleeve : next.sleeve = mid.sleeve := congrArg Prod.fst hsetting
    have hcosts : next.costs = mid.costs := congrArg (·.2.1) hsetting
    exact ⟨hsleeve.trans hmid.1, hcosts.trans hmid.2⟩

theorem thirdDay_eq {b₁ b₂ : Bar} {day₁ day₂ : List Bar} {start : Engine}
    (h₂ : IsSessionFrom date secs (b₂ :: day₂)) {date₁ : NaiveDate} {secs₁ : ℕ}
    (h₁ : IsSessionFrom date₁ secs₁ (b₁ :: day₁)) {date₀ : NaiveDate} {secs₀ : ℕ}
    (h₀ : IsSessionFrom date₀ secs₀ (b :: day))
    (h : logged oneDay start [b₂ :: day₂, b₁ :: day₁] = .ok (e, calls))
    {thisDay : List Call} (hday : oneDay e (b :: day) = .ok (last, thisDay)) :
    thisDay.head? = some ⟨"bar_start", { e.roll b with branch := .notEvaluated }, b⟩ ∧
      ∃ frozen engines, (Engine.new start.sleeve start.costs).startFrozen b.tsLocal
          (observationOf b₁ day₁) (observationOf b₂ day₂) = .ok frozen ∧
        states Engine.stepFrozen frozen (b :: day) = .ok engines ∧
          ends thisDay = List.zipWith (fun f b => ⟨"bar_end", e.after f, b⟩) engines (b :: day) := by
  obtain ⟨mid, calls₂, _, hfirst, hrest, -⟩ := logged_cons_eq_ok.mp h
  obtain ⟨mid', calls₁, _, hsecond, hend, -⟩ := logged_cons_eq_ok.mp hrest
  obtain ⟨rfl, -⟩ := Prod.mk.inj (Except.ok.inj hend)
  obtain ⟨hsetting₂, hobservation₂, -⟩ := oneDay_eq h₂ hfirst
  obtain ⟨hsetting₁, hobservation₁, -⟩ := oneDay_eq h₁ hsecond
  obtain ⟨-, -, hhead, engines, hengines, hends⟩ := oneDay_eq h₀ hday
  refine ⟨hhead, frozenAt mid' b, engines, ?_, hengines, hends⟩
  have hsleeve : mid'.sleeve = start.sleeve :=
    (congrArg Prod.fst hsetting₁).trans (congrArg Prod.fst hsetting₂)
  have hcosts : mid'.costs = start.costs :=
    (congrArg (·.2.1) hsetting₁).trans (congrArg (·.2.1) hsetting₂)
  have hprevious : mid'.previous = some (observationOf b₂ day₂) :=
    (congrArg (·.2.2.1) hsetting₁).trans hobservation₂
  unfold frozenAt
  rw [hsleeve, hcosts, hprevious, hobservation₁]
  rfl

end AlorRs.ShadowReaction.Imoexf
