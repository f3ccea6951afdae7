import AlorRs.StrategyRuntime.Equiv.ShadowReaction.Imoexf
import AlorRs.StrategyRuntime.Equiv.ShadowReaction.Usdrubf

/-!
# The reaction models end a session flat

Whatever the bars of a complete session are, an engine that is stepped through them makes round trips
only, and nothing is open or pending when it ends.
-/

namespace AlorRs.ShadowReaction

variable {date : NaiveDate} {secs : ℕ} {bars : List Bar}

namespace Imoexf

theorem Waiting.start (sleeve : Sleeve) (costs : Costs) (date : NaiveDate) (secs : ℕ)
    (first : NaiveDateTime) (previous previous2 : Observation) :
    ∃ e, (Engine.new sleeve costs).startFrozen first previous previous2 = .ok e ∧
      Waiting date secs [] e := by
  refine ⟨_, rfl, .empty _ _ _, ⟨rfl, ⟨rfl, rfl⟩, Nat.zero_le _⟩, ?_⟩
  intro a ha
  exact (nomatch ha)

theorem Waiting.closed {e : Engine} (h : Waiting date 85800 bars e) :
    e.book.Closed bars ∧ e.book.trips.countP (·.owner = .mr) ≤ 2 := by
  obtain ⟨hopened, hpending⟩ := h.book.flat (by decide)
  have hmr := h.counted.mr
  rw [Book.holders_of_none hopened, List.countP_map] at hmr
  refine ⟨h.book.sound.closed h.counted.marks hopened hpending, ?_⟩
  exact hmr.trans_le h.counted.mr_le

end Imoexf

namespace Usdrubf

theorem Waiting.new {cfg : Config} (hcfg : cfg.validate = .ok ()) (date : NaiveDate) (secs : ℕ)
    (previous previous2 : Option Metrics) :
    Waiting date secs []
      { Engine.new cfg with
        previous := previous
        previous2 := previous2 } where
  book := .empty _ _ _
  marks := ⟨rfl, rfl⟩
  levels _ hnone := (nomatch hnone)
  unmarked _ hnone := (nomatch hnone)
  held _ hnone := (nomatch hnone)
  metrics _ hnone := (nomatch hnone)
  valid := hcfg

theorem Waiting.closed {e : Engine} (h : Waiting date 85800 bars e) : e.book.Closed bars := by
  obtain ⟨hopened, hpending⟩ := h.book.flat (force_le h.valid date)
  exact h.book.sound.closed h.marks hopened hpending

end Usdrubf

/-- Sessions end flat: an engine of IMOEXF of any sleeve over any frozen observations, and one of
USDRUBF with any valid settings over any metrics.  Only the previous-day family has frozen metrics. -/
theorem sessions_end_flat :
    (∀ (sleeve : Imoexf.Sleeve) (costs : Imoexf.Costs) (first : NaiveDateTime)
        (previous previous2 : Imoexf.Observation) (date : NaiveDate) (bars : List Bar),
      IsSessionFrom date (Imoexf.startHour date * 3600) bars → ∃ start last,
          (Imoexf.Engine.new sleeve costs).startFrozen first previous previous2 = .ok start ∧
            bars.foldlM Imoexf.Engine.stepFrozen start = .ok last ∧ last.book.Closed bars ∧
              last.book.trips.countP (·.owner = .mr) ≤ 2 ∧ last.position = none ∧
                last.pending = none) ∧
      ∀ (cfg : Usdrubf.Config) (date : NaiveDate) (bars : List Bar), cfg.validate = .ok () →
        IsSessionFrom date (Usdrubf.opening date cfg.contextHour * 3600) bars →
          (∀ previous previous2 : Option Usdrubf.Metrics,
            ∃ last,
              bars.foldlM Usdrubf.Engine.stepFrozen
                  { Usdrubf.Engine.new cfg with
                    previous := previous
                    previous2 := previous2 } = .ok last ∧
                last.book.Closed bars ∧ last.position = none ∧ last.pending = none) ∧
            (cfg.family = .previousDay → ∀ previous previous2 : Usdrubf.Metrics,
              (Usdrubf.Engine.new cfg).startFrozen previous previous2 =
                .ok { Usdrubf.Engine.new cfg with
                  previous := some previous
                  previous2 := some previous2 }) := by
  constructor
  · intro sleeve costs first previous previous2 date bars hbars
    obtain ⟨start, hstart, hwaiting⟩ :=
      Imoexf.Waiting.start sleeve costs date (Imoexf.startHour date * 3600) first previous previous2
    obtain ⟨last, hlast, hend⟩ := foldlM_session Imoexf.Waiting.stepFrozen hwaiting hbars
    obtain ⟨hclosed, hmr⟩ := hend.closed
    exact ⟨start, last, hstart, hlast, hclosed, hmr, hend.flat⟩
  · intro cfg date bars hcfg hbars
    refine ⟨?_, ?_⟩
    · intro previous previous2
      have hwaiting := Usdrubf.Waiting.new hcfg date (Usdrubf.opening date cfg.contextHour * 3600)
        previous previous2
      obtain ⟨last, hlast, hend⟩ := foldlM_session Usdrubf.Waiting.stepFrozen hwaiting hbars
      exact ⟨last, hlast, hend.closed, hend.flat⟩
    · intro hfamily previous previous2
      unfold Usdrubf.Engine.startFrozen
      simp [Outcome.ensure, Usdrubf.Engine.new, hfamily]
      rfl

/-- The day from which on sessions start at seven. -/
theorem sessions_end_flat_transition :
    (∃ start last,
      (Imoexf.Engine.new .combo ⟨10, 5, 1, 2⟩).startFrozen (label transition 25200)
          (.empty (label transition 0)) (.empty (label transition 0)) = .ok start ∧
        (steadySession transition 101).foldlM Imoexf.Engine.stepFrozen start = .ok last ∧
          last.book.Closed (steadySession transition 101) ∧ last.pending = none) ∧
      ∃ last,
        (steadySession transition 101).foldlM Usdrubf.Engine.stepFrozen
            (.new ⟨"p7_h3_w2", .previousDay, 7, 7, 3, 2, 0⟩) = .ok last ∧
          last.book.Closed (steadySession transition 101) ∧ last.pending = none := by
  have hbars : IsSessionFrom transition 25200 (steadySession transition 101) :=
    isSessionFrom_steadySession (n := 101) (by decide)
  constructor
  · obtain ⟨start, last, hstart, hlast, hclosed, -, -, hpending⟩ :=
      sessions_end_flat.1 .combo ⟨10, 5, 1, 2⟩ (label transition 25200)
        (.empty (label transition 0)) (.empty (label transition 0)) transition _ hbars
    exact ⟨start, last, hstart, hlast, hclosed, hpending⟩
  · obtain ⟨last, hlast, hclosed, -, hpending⟩ :=
      (sessions_end_flat.2 ⟨"p7_h3_w2", .previousDay, 7, 7, 3, 2, 0⟩ transition _ rfl hbars).1 none none
    exact ⟨last, hlast, hclosed, hpending⟩

end AlorRs.ShadowReaction
