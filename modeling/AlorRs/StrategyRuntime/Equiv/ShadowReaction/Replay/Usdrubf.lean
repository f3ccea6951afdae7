import AlorRs.StrategyRuntime.Equiv.ShadowReaction.Days
import AlorRs.StrategyRuntime.ShadowReaction.Usdrubf
import Mathlib.Data.List.TakeWhile

/-!
# The replay of the USDRUBF model

A replay rolls its metrics at the first bar of a day, and a frozen session starts with the metrics of the
two days before; from there on both do the same (`replayBars_eq`).
-/

namespace AlorRs.ShadowReaction.Usdrubf

open Outcome Engine

variable {date : NaiveDate} {secs : ℕ} {b : Bar} {bars day rest : List Bar}
  {e e' last before : Engine} {m : Metrics} {calls : List Call}

/-! ### What was done before -/

def Engine.after (before e : Engine) : Engine :=
  { e with
    trades := before.trades ++ e.trades
    events := before.events ++ e.events }

def Engine.setting (e : Engine) : Config × Option Metrics × Option Metrics × Option Metrics :=
  (e.cfg, e.metrics, e.previous, e.previous2)

def Later (before start e e' : Engine) : Prop := e' = before.after e ∧ e.setting = start.setting

theorem enter_after (before e : Engine) (entry : Entry) (b : Bar) :
    Both (Later before e) (e.enter entry b) ((before.after e).enter entry b) := by
  refine .ensure_bind fun _ => .ok ⟨?_, rfl⟩
  show Engine.mk .. = Engine.mk ..
  congr 1
  exact List.append_assoc ..

theorem leave_after (before e : Engine) (exit : Exit) (b : Bar) :
    Both (Later before e) (e.leave exit b) ((before.after e).leave exit b) := by
  refine .ensure_bind fun _ => .bind_same fun p _ => .ok ⟨?_, rfl⟩
  show Engine.mk .. = Engine.mk ..
  congr 1
  all_goals exact List.append_assoc ..

theorem applyPending_after (before e : Engine) (b : Bar) :
    Both (fun done done' => Later before e done.1 done'.1 ∧ done'.2 = done.2) (e.applyPending b)
      ((before.after e).applyPending b) := by
  have hmap : ∀ {first first' : Except String Engine}, Both (Later before e) first first' →
      Both (fun done done' => Later before e done.1 done'.1 ∧ done'.2 = done.2)
        (first.map (·, true)) (first'.map (·, true)) := by
    intro first first' h
    cases h with
    | ok h => exact .ok ⟨h, rfl⟩
    | error message => exact .error message
  have hpending : (before.after e).pending = e.pending := rfl
  unfold applyPending
  rw [hpending]
  cases e.pending with
  | none => exact .ok ⟨⟨rfl, rfl⟩, rfl⟩
  | some action =>
    cases action with
    | entry entry => exact hmap (enter_after ..)
    | exit exit => exact hmap (leave_after ..)

theorem decideExit_after (before e : Engine) (m : Metrics) (b : Bar) (next : Option NaiveDateTime) :
    Both (Later before e) (e.decideExit m b next) ((before.after e).decideExit m b next) := by
  have hreason : (before.after e).exitReason m b = e.exitReason m b := rfl
  unfold decideExit
  rw [hreason]
  cases e.exitReason m b with
  | none => exact .ok ⟨rfl, rfl⟩
  | some reason => exact .ensure_bind fun _ => .ok ⟨rfl, rfl⟩

theorem decideEntry_after (before e : Engine) (m : Metrics) (b : Bar) (next : Option NaiveDateTime) :
    Both (Later before e) (e.decideEntry m b next) ((before.after e).decideEntry m b next) := by
  have hfeatures : (before.after e).features m = e.features m := rfl
  have hselected : (before.after e).selected m b = e.selected m b := rfl
  have hterminal : ∀ owner, (before.after e).terminal m owner = e.terminal m owner := fun _ => rfl
  unfold decideEntry
  rw [hfeatures, hselected]
  cases (e.features m).scale.filter (0 < ·) with
  | none => exact .ok ⟨rfl, rfl⟩
  | some scale =>
    cases e.selected m b with
    | none => exact .ok ⟨rfl, rfl⟩
    | some candidate =>
      obtain ⟨owner, side⟩ := candidate
      dsimp only
      rw [hterminal]
      by_cases hlate : ((e.terminal m owner).le b.boundary.time || next.isNone) = true
      · rw [if_pos hlate, if_pos hlate]
        refine .ok ⟨?_, rfl⟩
        show Engine.mk .. = Engine.mk ..
        congr 1
        exact List.append_assoc ..
      · rw [if_neg hlate, if_neg hlate]
        exact .ensure_bind fun _ => .ok ⟨rfl, rfl⟩

theorem decide_after (before e : Engine) (m : Metrics) (b : Bar) (next : Option NaiveDateTime) :
    Both (Later before e) (e.decide m b next) ((before.after e).decide m b next) := by
  refine .bind (decideExit_after before e m b next) ?_
  rintro decided _ ⟨rfl, hsetting⟩
  have hpending : (before.after decided).pending = decided.pending := rfl
  have hposition : (before.after decided).position = decided.position := rfl
  rw [hpending, hposition]
  split_ifs
  · exact .ok ⟨rfl, hsetting⟩
  · exact .ok ⟨rfl, hsetting⟩
  · refine (decideEntry_after before decided m b next).mono ?_
    rintro last _ ⟨rfl, hsetting'⟩
    exact ⟨rfl, hsetting'.trans hsetting⟩

/-! ### A bar -/

def ends (calls : List Call) : List Call := calls.filter (·.phase = "bar_end")

def nextBar (b : Bar) (bars : List Bar) : Option NaiveDateTime :=
  (bars.head?.filter (·.date = b.date)).map (·.tsLocal)

theorem replayBars_cons (h : e.replayBars (b :: bars) = .ok (last, calls)) :
    ∃ observed m applied wasPending done later, e.observe b = .ok (observed, m) ∧
      ({ observed with branch := .notEvaluated } : Engine).applyPending b = .ok (applied, wasPending) ∧
        applied.decide m b (nextBar b bars) = .ok done ∧
          ((nextBar b bars).isSome || (done.position.isNone && done.pending.isNone)) = true ∧
            done.replayBars bars = .ok (last, later) ∧
              calls.head? = some ⟨"bar_start", { observed with branch := .notEvaluated }, b⟩ ∧
                ends calls = ⟨"bar_end", done, b⟩ :: ends later := by
  obtain ⟨⟨observed, m⟩, hobserve, h⟩ := bind_eq_ok.mp h
  obtain ⟨⟨applied, wasPending⟩, happly, h⟩ := bind_eq_ok.mp h
  obtain ⟨done, hdecide, h⟩ := bind_eq_ok.mp h
  obtain ⟨hterminal, h⟩ := ensure_bind_eq_ok.mp h
  obtain ⟨⟨last', later⟩, hlater, h⟩ := bind_eq_ok.mp h
  obtain ⟨rfl, rfl⟩ := Prod.mk.inj (Except.ok.inj h)
  refine ⟨observed, m, applied, wasPending, done, later, hobserve, happly, hdecide, hterminal, hlater,
    rfl, ?_⟩
  cases wasPending with
  | true => rfl
  | false => rfl

def metricsAt (e : Engine) (b : Bar) : Metrics := (e.metrics.getD (.new b)).update b

theorem bar_eq {observed : Engine} {applied' done' : Engine} {wasPending : Bool}
    (hstart : ({ observed with branch := .notEvaluated } : Engine) = before.after { e with
        metrics := some (metricsAt e b)
        branch := .notEvaluated })
    (happly' : ({ observed with branch := .notEvaluated } : Engine).applyPending b =
      .ok (applied', wasPending))
    (hb : b.tsLocal = label date secs)
    (hdecide' : applied'.decide (metricsAt e b) b (nextOf secs b) = .ok done')
    (hterminal : ((nextOf secs b).isSome || (done'.position.isNone && done'.pending.isNone)) = true) :
    ∃ done, e.stepFrozen b = .ok done ∧ done' = before.after done ∧
      done.setting = (e.cfg, some (metricsAt e b), e.previous, e.previous2) := by
  rw [hstart] at happly'
  obtain ⟨⟨applied, wasPending'⟩, happly, happlied, -⟩ := (applyPending_after ..).exists_of_ok happly'
  obtain ⟨rfl, hsetting⟩ : Later before _ applied applied' := happlied
  obtain ⟨done, hdecide, rfl, hsetting'⟩ :=
    (decide_after before applied (metricsAt e b) b (nextOf secs b)).exists_of_ok hdecide'
  refine ⟨done, ?_, rfl, hsetting'.trans hsetting⟩
  have hnext := nextOf_eq hb
  unfold metricsAt at happly hdecide
  unfold Engine.stepFrozen
  dsimp only
  rw [happly]
  show applied.decide _ b (if _ then _ else _) >>= _ = _
  rw [hnext, hdecide]
  exact ensure_bind_eq_ok.mpr ⟨hterminal, rfl⟩

/-! ### A day -/

theorem nextBar_eq (h : IsSessionFrom date secs (b :: day)) : nextBar b day = nextOf secs b := by
  rw [← h.next]
  have hdates := h.date_eq
  cases day with
  | nil => rfl
  | cons next day =>
    have hdate : next.date = b.date :=
      (hdates next (List.mem_cons_of_mem _ List.mem_cons_self)).trans (hdates b List.mem_cons_self).symm
    show (Option.filter _ (some next)).map _ = _
    rw [Option.filter_some, if_pos (decide_eq_true hdate)]
    rfl

theorem laterBars_eq (hday : IsSessionFrom date secs day) (hm : e.metrics = some m)
    (hfirst : m.first.date = date) (h : (before.after e).replayBars day = .ok (last, calls)) :
    last.setting = (e.cfg, some (day.foldl Metrics.update m), e.previous, e.previous2) ∧
      ∃ engines, states Engine.stepFrozen e day = .ok engines ∧
        ends calls = List.zipWith (fun f b => ⟨"bar_end", before.after f, b⟩) engines day := by
  induction day generalizing secs e m calls with
  | nil =>
    obtain ⟨rfl, rfl⟩ := Prod.mk.inj (Except.ok.inj h)
    refine ⟨?_, [], rfl, rfl⟩
    show (e.cfg, e.metrics, e.previous, e.previous2) = _
    rw [hm]
    rfl
  | cons b day ih =>
    obtain ⟨observed, m', applied, wasPending, done', later, hobserve, happly, hdecide, hterminal, hlater,
      -, hends⟩ := replayBars_cons h
    rw [nextBar_eq hday] at hdecide hterminal
    have hmetrics : metricsAt e b = m.update b := by
      unfold metricsAt
      rw [hm]
      rfl
    have hsame : (before.after e).observe b =
        .ok ({ before.after e with metrics := some (m.update b) }, m.update b) := by
      have hdate : m.first.date = b.date := hfirst.trans (hday.date_eq b List.mem_cons_self).symm
      have hafter : (before.after e).metrics = some m := hm
      unfold Engine.observe
      rw [hafter, Option.filter_some, if_pos (decide_eq_true hdate)]
    obtain ⟨rfl, rfl⟩ := Prod.mk.inj (Except.ok.inj (hsame.symm.trans hobserve))
    have hstart : ({ before.after e with
          metrics := some (m.update b)
          branch := .notEvaluated } : Engine) =
        before.after { e with
          metrics := some (metricsAt e b)
          branch := .notEvaluated } := by
      rw [hmetrics]
      rfl
    rw [← hmetrics] at hdecide
    obtain ⟨done, hstep, rfl, hsetting⟩ := bar_eq hstart happly hday.1 hdecide hterminal
    rw [hmetrics] at hsetting
    have hdoneMetrics : done.metrics = some (m.update b) := congrArg (·.2.1) hsetting
    have hcfg : done.cfg = e.cfg := congrArg (·.1) hsetting
    have hprevious : done.previous = e.previous := congrArg (·.2.2.1) hsetting
    have hprevious2 : done.previous2 = e.previous2 := congrArg (·.2.2.2) hsetting
    obtain ⟨hlast, engines, hengines, hends'⟩ := ih hday.2.2 hdoneMetrics hfirst hlater
    refine ⟨?_, done :: engines, ?_, ?_⟩
    · rw [hlast, hcfg, hprevious, hprevious2]
      rfl
    · show e.stepFrozen b >>= _ = _
      rw [hstep]
      show states _ done day >>= _ = _
      rw [hengines]
      rfl
    · rw [hends, hends']
      rfl

def metricsOf (b : Bar) (day : List Bar) : Metrics := (b :: day).foldl Metrics.update (.new b)

def frozenAt (e : Engine) : Engine :=
  { Engine.new e.cfg with
    previous := e.metrics
    previous2 := e.previous }

def rolledAt (e : Engine) (b : Bar) : Engine :=
  { e with
    previous2 := e.previous
    previous := e.metrics
    metrics := some (metricsAt (frozenAt e) b)
    usedLong := false
    usedShort := false
    mrScheduled := 0
    branch := .notEvaluated }

theorem day_eq (hday : IsSessionFrom date secs (b :: day)) (hnew : ∀ m ∈ e.metrics, m.first.date ≠ b.date)
    (h : e.replayBars (b :: day) = .ok (last, calls)) :
    last.setting = (e.cfg, some (metricsOf b day), e.metrics, e.previous) ∧
      calls.head? = some ⟨"bar_start", rolledAt e b, b⟩ ∧
        ∃ engines, states Engine.stepFrozen (frozenAt e) (b :: day) = .ok engines ∧
          ends calls = List.zipWith (fun f b => ⟨"bar_end", e.after f, b⟩) engines (b :: day) := by
  obtain ⟨observed, m, applied, wasPending, done', later, hobserve, happly, hdecide, hterminal, hlater,
    hhead, hends⟩ := replayBars_cons h
  rw [nextBar_eq hday] at hdecide hterminal
  have hfilter : e.metrics.filter (·.first.date = b.date) = none := by
    rw [Option.filter_eq_none_iff]
    intro m hm
    simpa using hnew m hm
  unfold Engine.observe at hobserve
  rw [hfilter] at hobserve
  obtain ⟨hflat, hrolled⟩ := ensure_bind_eq_ok.mp hobserve
  rw [Bool.and_eq_true, Option.isNone_iff_eq_none, Option.isNone_iff_eq_none] at hflat
  have hm : metricsAt (frozenAt e) b = (Metrics.new b).update b := rfl
  rw [← hm] at hrolled
  obtain ⟨rfl, rfl⟩ := Prod.mk.inj (Except.ok.inj hrolled)
  have hstart : rolledAt e b = e.after { frozenAt e with
        metrics := some (metricsAt (frozenAt e) b)
        branch := .notEvaluated } := by
    unfold rolledAt Engine.after
    rw [hflat.1, hflat.2]
    unfold frozenAt Engine.new
    rw [List.append_nil, List.append_nil]
  obtain ⟨done, hstep, rfl, hsetting⟩ := bar_eq hstart happly hday.1 hdecide hterminal
  have hmetrics : done.metrics = some (metricsAt (frozenAt e) b) := congrArg (·.2.1) hsetting
  have hcfg : done.cfg = e.cfg := congrArg (·.1) hsetting
  have hprevious : done.previous = e.metrics := congrArg (·.2.2.1) hsetting
  have hprevious2 : done.previous2 = e.previous := congrArg (·.2.2.2) hsetting
  have hfirst : (metricsAt (frozenAt e) b).first.date = date := by
    show b.tsLocal.date = date
    rw [hday.1]
    rfl
  obtain ⟨hlast, engines, hengines, hends'⟩ := laterBars_eq hday.2.2 hmetrics hfirst hlater
  refine ⟨?_, hhead, done :: engines, ?_, ?_⟩
  · rw [hlast, hcfg, hprevious, hprevious2]
    rfl
  · show (frozenAt e).stepFrozen b >>= _ = _
    rw [hstep]
    show states _ done day >>= _ = _
    rw [hengines]
    rfl
  · rw [hends, hends']
    rfl

/-! ### Days -/

theorem replayBars_append (hday : ∀ b ∈ day, b.date = date) (hrest : ∀ b ∈ rest.head?, b.date ≠ date) :
    e.replayBars (day ++ rest) = do
      let (mid, first) ← e.replayBars day
      let (last, later) ← mid.replayBars rest
      return (last, first ++ later) := by
  induction day generalizing e with
  | nil =>
    show e.replayBars rest = e.replayBars rest >>= _
    cases e.replayBars rest with
    | error | ok => rfl
  | cons b day ih =>
    obtain ⟨hb, hday⟩ := List.forall_mem_cons.mp hday
    have hnext : (day ++ rest).head?.filter (·.date = b.date) = day.head?.filter (·.date = b.date) := by
      cases day with
      | nil =>
        show rest.head?.filter _ = none
        rw [Option.filter_eq_none_iff]
        intro next hnext
        rw [hb]
        simpa using hrest next hnext
      | cons next day => rfl
    rw [List.cons_append, replayBars, replayBars, hnext]
    simp only [ih hday, bind_assoc, pure_bind, List.append_assoc]

theorem replayBars_eq : e.replayBars bars = logged Engine.replayBars e (daysOf bars) := by
  induction bars using daysOf.induct generalizing e with
  | case1 =>
    rw [daysOf_nil]
    rfl
  | case2 b bars ih =>
    have hbars : b :: bars =
        (b :: bars.takeWhile (·.date = b.date)) ++ bars.dropWhile (·.date = b.date) := by
      rw [List.cons_append, List.takeWhile_append_dropWhile]
    have hday : ∀ bar ∈ b :: bars.takeWhile (·.date = b.date), bar.date = b.date := by
      refine List.forall_mem_cons.mpr ⟨rfl, ?_⟩
      intro bar hbar
      simpa using List.mem_takeWhile_imp hbar
    rw [daysOf_cons, logged]
    conv_lhs => rw [hbars, replayBars_append hday fun next hnext => ne_of_mem_head?_dropWhile hnext]
    simp only [ih]

theorem setting_of_applyPending {wasPending : Bool} (h : e.applyPending b = .ok (e', wasPending)) :
    e'.setting = e.setting := by
  obtain ⟨done, -, ⟨rfl, hsetting⟩, -⟩ := (applyPending_after (.new e.cfg) e b).exists_of_ok h
  exact hsetting

theorem setting_of_decide {next : Option NaiveDateTime} (h : e.decide m b next = .ok e') :
    e'.setting = e.setting := by
  obtain ⟨done, -, rfl, hsetting⟩ := (decide_after (.new e.cfg) e m b next).exists_of_ok h
  exact hsetting

theorem metrics_of_observe {observed : Engine} (h : e.observe b = .ok (observed, m)) :
    observed.cfg = e.cfg ∧ observed.metrics = some m ∧ m.first.date = b.date := by
  unfold Engine.observe at h
  cases hmetrics : e.metrics.filter (·.first.date = b.date) with
  | some m₀ =>
    rw [hmetrics] at h
    obtain ⟨rfl, rfl⟩ := Prod.mk.inj (Except.ok.inj h)
    have hdate := (Option.filter_eq_some_iff.mp hmetrics).2
    exact ⟨rfl, rfl, of_decide_eq_true hdate⟩
  | none =>
    rw [hmetrics] at h
    obtain ⟨-, hrolled⟩ := ensure_bind_eq_ok.mp h
    obtain ⟨rfl, rfl⟩ := Prod.mk.inj (Except.ok.inj hrolled)
    exact ⟨rfl, rfl, rfl⟩

theorem metrics_of_replayBars (hday : ∀ b ∈ day, b.date = date)
    (hmetrics : day = [] → ∃ m, e.metrics = some m ∧ m.first.date = date)
    (h : e.replayBars day = .ok (last, calls)) :
    last.cfg = e.cfg ∧ ∃ m, last.metrics = some m ∧ m.first.date = date := by
  induction day generalizing e calls with
  | nil =>
    obtain ⟨rfl, -⟩ := Prod.mk.inj (Except.ok.inj h)
    exact ⟨rfl, hmetrics rfl⟩
  | cons b day ih =>
    obtain ⟨hb, hday⟩ := List.forall_mem_cons.mp hday
    obtain ⟨observed, m, applied, wasPending, done, later, hobserve, happly, hdecide, -, hlater, -, -⟩ :=
      replayBars_cons h
    obtain ⟨hcfg, hm, hdate⟩ := metrics_of_observe hobserve
    have happlied := setting_of_applyPending happly
    have hsetting : done.setting = observed.setting := (setting_of_decide hdecide).trans happlied
    have hdoneCfg : done.cfg = observed.cfg := congrArg (·.1) hsetting
    have hdoneMetrics : done.metrics = observed.metrics := congrArg (·.2.1) hsetting
    obtain ⟨hlastCfg, hlast⟩ := ih hday (fun _ => ⟨m, hdoneMetrics.trans hm, hdate.trans hb⟩) hlater
    exact ⟨hlastCfg.trans (hdoneCfg.trans hcfg), hlast⟩

theorem metrics_of_days {days : List (List Bar)} (hdays : ∀ day ∈ days, ∃ date, ∀ b ∈ day, b.date = date)
    (hne : ∀ day ∈ days, day ≠ []) (h : logged Engine.replayBars e days = .ok (last, calls))
    (hnone : e.metrics = none) :
    last.cfg = e.cfg ∧ ∀ m ∈ last.metrics, ∃ b day init, days = init ++ [b :: day] ∧
      m.first.date = b.date := by
  induction days using List.reverseRecOn generalizing last calls with
  | nil =>
    obtain ⟨rfl, -⟩ := Prod.mk.inj (Except.ok.inj h)
    refine ⟨rfl, ?_⟩
    intro m hm
    rw [hnone] at hm
    exact (nomatch hm)
  | append_singleton init day ih =>
    obtain ⟨mid, firsts, _, hinit, hlast, -⟩ := logged_append_eq_ok.mp h
    obtain ⟨last', _, _, hday, hend, -⟩ := logged_cons_eq_ok.mp hlast
    obtain ⟨rfl, -⟩ := Prod.mk.inj (Except.ok.inj hend)
    obtain ⟨date, hdate⟩ := hdays day (List.mem_append_right _ List.mem_cons_self)
    have hnil : day ≠ [] := hne day (List.mem_append_right _ List.mem_cons_self)
    obtain ⟨hcfg, -⟩ := ih (fun d hd => hdays d (List.mem_append_left _ hd))
      (fun d hd => hne d (List.mem_append_left _ hd)) hinit
    obtain ⟨hcfg', m, hm, hfirst⟩ := metrics_of_replayBars hdate (fun hempty => absurd hempty hnil) hday
    refine ⟨hcfg'.trans hcfg, ?_⟩
    intro m' hm'
    obtain rfl := Option.some.inj (hm.symm.trans hm')
    cases day with
    | nil => exact absurd rfl hnil
    | cons b day => exact ⟨b, day, init, rfl, hfirst.trans (hdate b List.mem_cons_self).symm⟩

theorem thirdDay_eq {b₁ b₂ : Bar} {day₁ day₂ : List Bar} {start : Engine}
    (h₂ : IsSessionFrom date secs (b₂ :: day₂)) {date₁ : NaiveDate} {secs₁ : ℕ}
    (h₁ : IsSessionFrom date₁ secs₁ (b₁ :: day₁)) {date₀ : NaiveDate} {secs₀ : ℕ}
    (h₀ : IsSessionFrom date₀ secs₀ (b :: day))
    (hnew₂ : ∀ m ∈ start.metrics, m.first.date ≠ b₂.date) (hne₁ : b₁.date ≠ b₂.date)
    (hne : b.date ≠ b₁.date)
    (h : logged Engine.replayBars start [b₂ :: day₂, b₁ :: day₁] = .ok (e, calls))
    {thisDay : List Call} (hday : e.replayBars (b :: day) = .ok (last, thisDay)) :
    thisDay.head? = some ⟨"bar_start", rolledAt e b, b⟩ ∧ ∃ engines, states Engine.stepFrozen
          { Engine.new start.cfg with
            previous := some (metricsOf b₁ day₁)
            previous2 := some (metricsOf b₂ day₂) } (b :: day) = .ok engines ∧
        ends thisDay = List.zipWith (fun f b => ⟨"bar_end", e.after f, b⟩) engines (b :: day) := by
  obtain ⟨mid, calls₂, _, hfirst, hrest, -⟩ := logged_cons_eq_ok.mp h
  obtain ⟨mid', calls₁, _, hsecond, hend, -⟩ := logged_cons_eq_ok.mp hrest
  obtain ⟨rfl, -⟩ := Prod.mk.inj (Except.ok.inj hend)
  obtain ⟨hsetting₂, -⟩ := day_eq h₂ hnew₂ hfirst
  have hmetrics₂ : mid.metrics = some (metricsOf b₂ day₂) := congrArg (·.2.1) hsetting₂
  have hnew₁ : ∀ m ∈ mid.metrics, m.first.date ≠ b₁.date := by
    intro m hm
    obtain ⟨-, m', hm', hdate⟩ := metrics_of_replayBars h₂.date_eq (fun hnil => (nomatch hnil)) hfirst
    obtain rfl := Option.some.inj (hm'.symm.trans hm)
    rw [hdate, ← h₂.date_eq b₂ List.mem_cons_self]
    exact hne₁.symm
  obtain ⟨hsetting₁, -⟩ := day_eq h₁ hnew₁ hsecond
  have hnew : ∀ m ∈ mid'.metrics, m.first.date ≠ b.date := by
    intro m hm
    obtain ⟨-, m', hm', hdate⟩ := metrics_of_replayBars h₁.date_eq (fun hnil => (nomatch hnil)) hsecond
    obtain rfl := Option.some.inj (hm'.symm.trans hm)
    rw [hdate, ← h₁.date_eq b₁ List.mem_cons_self]
    exact hne.symm
  obtain ⟨-, hhead, hfrozen⟩ := day_eq h₀ hnew hday
  have hcfg : mid'.cfg = start.cfg := (congrArg (·.1) hsetting₁).trans (congrArg (·.1) hsetting₂)
  have hmetrics₁ : mid'.metrics = some (metricsOf b₁ day₁) := congrArg (·.2.1) hsetting₁
  have hprevious : mid'.previous = some (metricsOf b₂ day₂) :=
    (congrArg (·.2.2.1) hsetting₁).trans hmetrics₂
  unfold frozenAt at hfrozen
  rw [hcfg, hmetrics₁, hprevious] at hfrozen
  exact ⟨hhead, hfrozen⟩

def validateDay (cfg : Config) : List Bar → Except String Unit
  | [] => .ok ()
  | bar :: day => do
    let expected ← validateSession bar.date ⟨bar.date, time (opening bar.date cfg.contextHour) 0⟩
      (bar :: day)
    ensure (expected = ⟨bar.date, time 23 50⟩) ("incomplete model session " ++ dateText bar.date)

theorem validateDates_eq (cfg : Config) : validateDates cfg bars = (daysOf bars).forM (validateDay cfg) := by
  induction bars using daysOf.induct with
  | case1 =>
    rw [validateDates, daysOf_nil]
    rfl
  | case2 bar bars ih =>
    rw [validateDates, daysOf_cons, ih]
    show _ = validateDay cfg _ >>= fun _ => _
    rw [validateDay]
    simp only [bind_assoc]

end AlorRs.ShadowReaction.Usdrubf
