import AlorRs.StrategyRuntime.Equiv.ShadowReaction.Replay.Imoexf
import AlorRs.StrategyRuntime.Equiv.ShadowReaction.Replay.Usdrubf

/-!
# Frozen sessions and replays

From its third day on a replay does what frozen sessions do that are started over what it observed on the
two days before each.
-/

namespace AlorRs.ShadowReaction

open Outcome

theorem sessions_of_days {hour : NaiveDate → ℕ} {bars day₂ day₁ day : List Bar}
    {earlier later : List (List Bar)} (hdays : daysOf bars = earlier ++ day₂ :: day₁ :: day :: later)
    (h : ∀ day ∈ daysOf bars, ∃ date, IsSessionFrom date (hour date) day) :
    (∀ day ∈ earlier, ∃ date secs, IsSessionFrom date secs day) ∧
      (∃ date secs, IsSessionFrom date secs day₂) ∧ (∃ date secs, IsSessionFrom date secs day₁) ∧
      ∃ date secs, IsSessionFrom date secs day := by
  have hsession {day : List Bar} (hmem : day ∈ daysOf bars) : ∃ date secs, IsSessionFrom date secs day :=
    (h day hmem).imp fun date hday => ⟨_, hday⟩
  rw [hdays] at hsession
  exact ⟨fun day hmem => hsession (List.mem_append_left _ hmem), hsession (by simp),
    hsession (by simp), hsession (by simp)⟩

/-- The engines after the bars of a day, in a frozen session and in a replay of all days. -/
theorem frozen_sessions_eq_replay :
    (∀ (sleeve : Imoexf.Sleeve) (costs : Imoexf.Costs) (bars : List Bar) (last : Imoexf.Engine)
        (calls : List Imoexf.Engine.Call),
      (Imoexf.Engine.new sleeve costs).replay bars = .ok (last, calls) →
        (∀ day ∈ daysOf bars, ∃ date, IsSessionFrom date (Imoexf.startHour date * 3600) day) →
          ∀ earlier b₂ day₂ b₁ day₁ b day later,
            daysOf bars = earlier ++ (b₂ :: day₂) :: (b₁ :: day₁) :: (b :: day) :: later →
              ∃ frozen engines before callsBefore thisDay callsAfter,
                (Imoexf.Engine.new sleeve costs).startFrozen b.tsLocal
                    (Imoexf.observationOf b₁ day₁) (Imoexf.observationOf b₂ day₂) = .ok frozen ∧
                  states Imoexf.Engine.stepFrozen frozen (b :: day) = .ok engines ∧
                    calls = callsBefore ++ thisDay ++ callsAfter ∧
                      thisDay.head? = some ⟨"bar_start", before, b⟩ ∧ Imoexf.ends thisDay =
                          List.zipWith (fun f b => ⟨"bar_end", before.after f, b⟩) engines (b :: day)) ∧
      ∀ (cfg : Usdrubf.Config) (bars : List Bar) (last : Usdrubf.Engine)
          (calls : List Usdrubf.Engine.Call),
        cfg.family = .previousDay → (Usdrubf.Engine.new cfg).replay bars = .ok (last, calls) →
          (∀ day ∈ daysOf bars, ∃ date,
            IsSessionFrom date (Usdrubf.opening date cfg.contextHour * 3600) day) →
            ∀ earlier b₂ day₂ b₁ day₁ b day later,
              daysOf bars = earlier ++ (b₂ :: day₂) :: (b₁ :: day₁) :: (b :: day) :: later →
                ∃ frozen engines before callsBefore thisDay callsAfter,
                  (Usdrubf.Engine.new cfg).startFrozen (Usdrubf.metricsOf b₁ day₁)
                      (Usdrubf.metricsOf b₂ day₂) = .ok frozen ∧
                    states Usdrubf.Engine.stepFrozen frozen (b :: day) = .ok engines ∧
                      calls = callsBefore ++ thisDay ++ callsAfter ∧
                        thisDay.head? = some ⟨"bar_start", before, b⟩ ∧ Usdrubf.ends thisDay =
                            List.zipWith (fun f b => ⟨"bar_end", before.after f, b⟩) engines
                              (b :: day) := by
  constructor
  · intro sleeve costs bars last calls hreplay hcomplete earlier b₂ day₂ b₁ day₁ b day later hdays
    obtain ⟨_, -, hreplay⟩ := bind_eq_ok.mp hreplay
    obtain ⟨-, hrun⟩ := ensure_bind_eq_ok.mp hreplay
    rw [Imoexf.replayDays_eq, hdays] at hrun
    obtain ⟨e₀, e₂, e₃, calls₀, calls₁, thisDay, callsAfter, hearlier, htwo, hday, rfl⟩ :=
      exists_third_of_logged hrun
    obtain ⟨hbefore, ⟨date₂, secs₂, h₂⟩, ⟨date₁, secs₁, h₁⟩, date₀, secs₀, h₀⟩ :=
      sessions_of_days hdays hcomplete
    obtain ⟨hsleeve, hcosts⟩ := Imoexf.setting_of_days hbefore hearlier
    obtain ⟨hhead, frozen, engines, hfrozen, hengines, hends⟩ := Imoexf.thirdDay_eq h₂ h₁ h₀ htwo hday
    rw [hsleeve, hcosts] at hfrozen
    exact ⟨frozen, engines, _, calls₀ ++ calls₁, thisDay, callsAfter, hfrozen, hengines, rfl, hhead,
      hends⟩
  · intro cfg bars last calls hfamily hreplay hcomplete earlier b₂ day₂ b₁ day₁ b day later hdays
    obtain ⟨-, -, hreplay⟩ := bind_eq_ok.mp hreplay
    obtain ⟨-, -, hreplay⟩ := bind_eq_ok.mp hreplay
    obtain ⟨-, -, hreplay⟩ := bind_eq_ok.mp hreplay
    obtain ⟨-, hrun⟩ := ensure_bind_eq_ok.mp hreplay
    rw [Usdrubf.replayBars_eq, hdays] at hrun
    obtain ⟨e₀, e₂, e₃, calls₀, calls₁, thisDay, callsAfter, hearlier, htwo, hday, rfl⟩ :=
      exists_third_of_logged hrun
    obtain ⟨hbefore, ⟨date₂, secs₂, h₂⟩, ⟨date₁, secs₁, h₁⟩, date₀, secs₀, h₀⟩ :=
      sessions_of_days hdays hcomplete
    have hdates : ∀ day ∈ earlier, ∃ date, ∀ b ∈ day, b.date = date := by
      intro day hmem
      obtain ⟨date, secs, hday⟩ := hbefore day hmem
      exact ⟨date, hday.date_eq⟩
    have hne : ∀ day ∈ earlier, day ≠ [] := by
      intro day hmem
      exact ne_nil_of_mem_daysOf (hdays ▸ List.mem_append_left _ hmem)
    obtain ⟨hcfg, hmetrics⟩ := Usdrubf.metrics_of_days hdates hne hearlier rfl
    have hnew : ∀ m ∈ e₀.metrics, m.first.date ≠ b₂.date := by
      intro m hm
      obtain ⟨c, rest, init, rfl, hfirst⟩ := hmetrics m hm
      rw [List.append_assoc] at hdays
      rw [hfirst]
      exact (date_ne_of_daysOf hdays).symm
    have hne₁ : b₁.date ≠ b₂.date := date_ne_of_daysOf hdays
    have hne₀ : b.date ≠ b₁.date := by
      rw [List.append_cons] at hdays
      exact date_ne_of_daysOf hdays
    obtain ⟨hhead, engines, hengines, hends⟩ :=
      Usdrubf.thirdDay_eq h₂ h₁ h₀ hnew hne₁ hne₀ htwo hday
    rw [hcfg] at hengines
    refine ⟨_, engines, _, calls₀ ++ calls₁, thisDay, callsAfter, ?_, hengines, rfl, hhead, hends⟩
    · unfold Usdrubf.Engine.startFrozen
      refine ensure_bind_eq_ok.mpr ⟨rfl, ensure_bind_eq_ok.mpr ⟨rfl, ensure_bind_eq_ok.mpr ⟨?_, rfl⟩⟩⟩
      exact decide_eq_true hfamily

/-! ### Three days at one price -/

namespace Sample

def day (i : ℕ) : List Bar := steadySession (.fromYmd 2026 7 (7 + i)) 89

def bars : List Bar := day 0 ++ (day 1 ++ day 2)

theorem daysOf_bars : daysOf bars = [day 0, day 1, day 2] := by
  have hdate : ∀ i : ℕ, ∀ b ∈ day i, b.date = .fromYmd 2026 7 (7 + i) := fun i =>
    IsSessionFrom.date_eq (isSessionFrom_steadySession (n := 89) (by decide))
  unfold bars
  have h₂ : daysOf (day 2) = [day 2] := daysOf_day fun b hb => hdate 2 b (List.mem_cons_of_mem _ hb)
  have h₁ : daysOf (day 1 ++ day 2) = day 1 :: daysOf (day 2) := by
    refine daysOf_append (fun b hb => hdate 1 b (List.mem_cons_of_mem _ hb)) ?_
    rintro _ ⟨⟩
    decide
  have h₀ : daysOf (day 0 ++ (day 1 ++ day 2)) = day 0 :: daysOf (day 1 ++ day 2) := by
    refine daysOf_append (fun b hb => hdate 0 b (List.mem_cons_of_mem _ hb)) ?_
    rintro _ ⟨⟩
    decide
  rw [h₀, h₁, h₂]

theorem isSessionFrom_day (i : ℕ) : IsSessionFrom (.fromYmd 2026 7 (7 + i)) 32400 (day i) :=
  isSessionFrom_steadySession (n := 89) (by decide)

theorem exists_of_isOk {V W : Type} {outcome : Except String (V × W)} (h : outcome.toBool = true) :
    ∃ last calls, outcome = .ok (last, calls) := by
  cases outcome with
  | error message => exact (nomatch h)
  | ok result => exact ⟨result.1, result.2, rfl⟩

theorem eq_ok_of_isOk {outcome : Except String Unit} (h : outcome.toBool = true) :
    outcome = .ok () := by
  cases outcome with
  | error message => exact (nomatch h)
  | ok _ => rfl

def costs : Imoexf.Costs := ⟨10, 5, 1, 2⟩

def cfg : Usdrubf.Config := ⟨"p7_h3_w2", .previousDay, 7, 7, 3, 2, 0⟩

theorem imoexf_replay : ∃ last calls,
    (Imoexf.Engine.new .combo costs).replay bars = .ok (last, calls) := by
  have hvalid : (Imoexf.validateBars bars).toBool = true := by decide +kernel
  have hrun : (logged Imoexf.oneDay (.new .combo costs) [day 0, day 1, day 2]).toBool = true := by
    decide +kernel
  obtain ⟨last, calls, hrun⟩ := exists_of_isOk hrun
  rw [← daysOf_bars, ← Imoexf.replayDays_eq] at hrun
  exact ⟨last, calls, bind_eq_ok.mpr ⟨(), eq_ok_of_isOk hvalid, ensure_bind_eq_ok.mpr ⟨rfl, hrun⟩⟩⟩

theorem usdrubf_replay : ∃ last calls, (Usdrubf.Engine.new cfg).replay bars = .ok (last, calls) := by
  have hraw : (Usdrubf.validateRaw bars).toBool = true := by decide +kernel
  have hdays : ([day 0, day 1, day 2].forM (Usdrubf.validateDay cfg)).toBool = true := by
    decide +kernel
  have hsessions : Usdrubf.validateSessions bars cfg = .ok () := by
    refine ensure_bind_eq_ok.mpr ⟨rfl, ?_⟩
    rw [Usdrubf.validateDates_eq, daysOf_bars]
    exact eq_ok_of_isOk hdays
  have heligible : bars.all cfg.eligible = true := by decide +kernel
  have hrun : (logged Usdrubf.Engine.replayBars (.new cfg) [day 0, day 1, day 2]).toBool = true := by
    decide +kernel
  obtain ⟨last, calls, hrun⟩ := exists_of_isOk hrun
  rw [← daysOf_bars, ← Usdrubf.replayBars_eq] at hrun
  exact ⟨last, calls, bind_eq_ok.mpr ⟨(), rfl, bind_eq_ok.mpr ⟨(), eq_ok_of_isOk hraw,
    bind_eq_ok.mpr ⟨(), hsessions, ensure_bind_eq_ok.mpr ⟨heligible, hrun⟩⟩⟩⟩⟩

theorem complete {hour : NaiveDate → ℕ} (hhour : ∀ i < 3, hour (.fromYmd 2026 7 (7 + i)) = 9) :
    ∀ d ∈ daysOf bars, ∃ date, IsSessionFrom date (hour date * 3600) d := by
  have hday : ∀ i < 3, ∃ date, IsSessionFrom date (hour date * 3600) (day i) := by
    intro i hi
    refine ⟨.fromYmd 2026 7 (7 + i), ?_⟩
    rw [hhour i hi]
    exact isSessionFrom_day i
  rw [daysOf_bars]
  intro d hd
  simp only [List.mem_cons, List.not_mem_nil, or_false] at hd
  rcases hd with rfl | rfl | rfl
  · exact hday 0 (by decide)
  · exact hday 1 (by decide)
  · exact hday 2 (by decide)

end Sample

theorem frozen_sessions_eq_replay_steady :
    (∃ frozen engines, Imoexf.Engine.startFrozen (.new .combo Sample.costs)
          (label (.fromYmd 2026 7 9) 32400)
          (Imoexf.observationOf ⟨label (.fromYmd 2026 7 8) 32400, 100, 100, 100, 100, 1⟩
            (steadySession (.fromYmd 2026 7 8) 88))
          (Imoexf.observationOf ⟨label (.fromYmd 2026 7 7) 32400, 100, 100, 100, 100, 1⟩
            (steadySession (.fromYmd 2026 7 7) 88)) = .ok frozen ∧
        states Imoexf.Engine.stepFrozen frozen (Sample.day 2) = .ok engines) ∧
      ∃ frozen engines, Usdrubf.Engine.startFrozen (.new Sample.cfg)
          (Usdrubf.metricsOf ⟨label (.fromYmd 2026 7 8) 32400, 100, 100, 100, 100, 1⟩
            (steadySession (.fromYmd 2026 7 8) 88))
          (Usdrubf.metricsOf ⟨label (.fromYmd 2026 7 7) 32400, 100, 100, 100, 100, 1⟩
            (steadySession (.fromYmd 2026 7 7) 88)) = .ok frozen ∧
        states Usdrubf.Engine.stepFrozen frozen (Sample.day 2) = .ok engines := by
  constructor
  · obtain ⟨last, calls, hreplay⟩ := Sample.imoexf_replay
    obtain ⟨frozen, engines, -, -, -, -, hfrozen, hengines, -⟩ :=
      frozen_sessions_eq_replay.1 .combo Sample.costs Sample.bars last calls hreplay
        (Sample.complete (by decide)) [] _ _ _ _ _ _ [] Sample.daysOf_bars
    exact ⟨frozen, engines, hfrozen, hengines⟩
  · obtain ⟨last, calls, hreplay⟩ := Sample.usdrubf_replay
    obtain ⟨frozen, engines, -, -, -, -, hfrozen, hengines, -⟩ :=
      frozen_sessions_eq_replay.2 Sample.cfg Sample.bars last calls rfl hreplay
        (Sample.complete (by decide)) [] _ _ _ _ _ _ [] Sample.daysOf_bars
    exact ⟨frozen, engines, hfrozen, hengines⟩

end AlorRs.ShadowReaction
