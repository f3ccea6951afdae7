import AlorRs.StrategyRuntime.Equiv.SessionGapStandalone.Bars
import AlorRs.StrategyRuntime.Equiv.SessionGapStandalone.Positions

/-!
# The timeouts of the session-gap strategy

A phase that waits is left at a bar when what it waits for took too long.  The elapsed time is clipped to
an `i64` and then taken for a `u64`, so that a clock that runs behind counts as a huge delay
(`isGivenUp_iff_elapsed`).
-/

namespace AlorRs.SessionGap

open SessionGapStandaloneStrategy

variable {s : SessionGapStandaloneStrategy} {ctx : StrategyCtx} {bar : BarEvent} {now since : ℤ}
  {timeoutMs : ℕ}

/-! ### The elapsed time -/

theorem saturate_of_nonneg {n : ℤ} (h : 0 ≤ n) : saturate n = min n (2 ^ 63 - 1) := by
  unfold saturate
  omega

theorem saturate_of_nonpos {n : ℤ} (h : n ≤ 0) : saturate n = max n (-2 ^ 63) := by
  unfold saturate
  omega

theorem elapsedMs_of_le (h : since ≤ now) :
    (elapsedMs now since : ℤ) = min ((now - since) * 1000) (2 ^ 63 - 1) := by
  have hclipped : saturate (saturate (now - since) * 1000) =
      min ((now - since) * 1000) (2 ^ 63 - 1) := by
    rw [saturate_of_nonneg (n := now - since) (by omega), saturate_of_nonneg (by omega)]
    omega
  unfold elapsedMs
  rw [hclipped, Int.emod_eq_of_lt (by omega) (by omega), Int.toNat_of_nonneg (by omega)]

/-- A negative number wraps around. -/
theorem elapsedMs_of_lt (h : now < since) :
    (elapsedMs now since : ℤ) = 2 ^ 64 + max ((now - since) * 1000) (-2 ^ 63) := by
  have hclipped : saturate (saturate (now - since) * 1000) =
      max ((now - since) * 1000) (-2 ^ 63) := by
    rw [saturate_of_nonpos (n := now - since) (by omega), saturate_of_nonpos (by omega)]
    omega
  have hwrapped : max ((now - since) * 1000) (-2 ^ 63) % 2 ^ 64 =
      2 ^ 64 + max ((now - since) * 1000) (-2 ^ 63) := by
    rw [← Int.add_emod_left, Int.emod_eq_of_lt (by omega) (by omega)]
  unfold elapsedMs
  rw [hclipped, hwrapped, Int.toNat_of_nonneg (by omega)]

def IsExact (now since : ℤ) (timeoutMs : ℕ) : Prop :=
  if since ≤ now then (now - since) * 1000 ≤ timeoutMs ∨ timeoutMs < 2 ^ 63 - 1
  else 2 ^ 64 + max ((now - since) * 1000) (-2 ^ 63) ≤ timeoutMs

theorem elapsed_iff :
    (timeoutMs < elapsedMs now since ↔ timeoutMs < (now - since) * 1000) ↔
      IsExact now since timeoutMs := by
  unfold IsExact
  split_ifs with h
  · have helapsed := elapsedMs_of_le h
    omega
  · have helapsed := elapsedMs_of_lt (not_le.mp h)
    omega

/-! ### The phases that wait -/

def SessionGapLivePhase.wait? (config : SessionGapStandaloneConfig) :
    SessionGapLivePhase → Option (ℤ × ℕ)
  | .pendingEntry phase =>
    some (phase.sentTs, if phase.acked then config.entryFillTimeoutMs else config.entryAckTimeoutMs)
  | .entryRecoveryVerificationPending phase =>
    some (phase.verificationStartedTs, entryRecoveryVerificationWindowMs config)
  | .pendingExit phase =>
    some (phase.sentTs, if phase.acked then config.exitFillTimeoutMs else config.exitAckTimeoutMs)
  | .exitRecoveryPending phase =>
    some (phase.sentTs, if phase.acked then config.exitFillTimeoutMs else config.exitAckTimeoutMs)
  | .flat | .entryDeferredWindowClosed _ | .inPosition _ | .exitDeferredWindowClosed _
  | .closeOnlyDegraded _ | .blocked _ _ => none

/-- A bar finds no position that an entry opened while its transport was broken. -/
def SeesNoEntry (ctx : StrategyCtx) : SessionGapLivePhase → Prop
  | .entryRecoveryVerificationPending phase =>
    |ctx.positionQty.getD phase.baselineQty - phase.baselineQty| ≤ epsilon
  | _ => True

def SessionGapLivePhase.IsGivenUp : SessionGapLivePhase → SessionGapLivePhase → Prop
  | .pendingEntry _, .blocked _ _ => True
  | .entryRecoveryVerificationPending _, .flat => True
  | .pendingExit _, .closeOnlyDegraded _ => True
  | .exitRecoveryPending _, .closeOnlyDegraded _ => True
  | _, _ => False

/-- The two tests of a phase whose request may be answered already. -/
theorem cases_of_acked {IsLeft : SessionGapLivePhase → Prop} {ackLimit fillLimit elapsed : ℕ}
    {unanswered unfilled stays : SessionGapLivePhase} (acked : Bool) (hunanswered : IsLeft unanswered)
    (hunfilled : IsLeft unfilled) :
    let next := if !acked && ackLimit < elapsed then unanswered
      else if acked && fillLimit < elapsed then unfilled else stays
    IsLeft next ∧ (if acked then fillLimit else ackLimit) < elapsed ∨
      next = stays ∧ ¬(if acked then fillLimit else ackLimit) < elapsed := by
  cases acked with
  | true =>
    by_cases htime : fillLimit < elapsed
    · exact .inl ⟨by simpa [htime] using hunfilled, htime⟩
    · exact .inr ⟨by simp [htime], htime⟩
  | false =>
    by_cases htime : ackLimit < elapsed
    · exact .inl ⟨by simpa [htime] using hunanswered, htime⟩
    · exact .inr ⟨by simp [htime], htime⟩

theorem barPhase_of_wait {phase : SessionGapLivePhase} (bar : BarEvent) (sessionDate : NaiveDate)
    (barDt : LocalDateTime) (forced : Bool) (hwait : phase.wait? s.config = some (since, timeoutMs))
    (hentry : SeesNoEntry ctx phase) :
    phase.IsGivenUp (s.barPhase ctx sessionDate barDt bar forced phase).2.1 ∧
        timeoutMs < elapsedMs ctx.nowTsUtc since ∨
      (s.barPhase ctx sessionDate barDt bar forced phase).2.1 = phase ∧
        ¬timeoutMs < elapsedMs ctx.nowTsUtc since := by
  cases phase with
  | pendingEntry phase =>
    obtain ⟨rfl, rfl⟩ := Prod.mk.inj (Option.some.inj hwait)
    exact cases_of_acked phase.acked trivial trivial
  | entryRecoveryVerificationPending phase =>
    obtain ⟨rfl, rfl⟩ := Prod.mk.inj (Option.some.inj hwait)
    simp only [barPhase, barEntryRecovery]
    rw [if_neg (not_lt.mpr hentry)]
    split_ifs with htime
    · exact .inl ⟨trivial, htime⟩
    · exact .inr ⟨rfl, htime⟩
  | pendingExit phase =>
    obtain ⟨rfl, rfl⟩ := Prod.mk.inj (Option.some.inj hwait)
    exact cases_of_acked phase.acked trivial trivial
  | exitRecoveryPending phase =>
    obtain ⟨rfl, rfl⟩ := Prod.mk.inj (Option.some.inj hwait)
    exact cases_of_acked phase.acked trivial trivial
  | _ => cases hwait

theorem isUnforced_of_wait (hwait : s.persistedPhaseOrFlat.wait? s.config = some (since, timeoutMs)) :
    IsUnforced s := by
  right
  cases hphase : s.persistedPhaseOrFlat with
  | flat | blocked =>
    rw [hphase] at hwait
    exact (nomatch hwait)
  | _ => exact ⟨nofun, rfl⟩

theorem not_isGivenUp_self (phase : SessionGapLivePhase) : ¬phase.IsGivenUp phase := by
  cases phase <;> exact id

/-- The clocks for which a bar gives up exactly the phases whose time has passed. -/
theorem isGivenUp_iff_elapsed (s : SessionGapStandaloneStrategy) (ctx : StrategyCtx) (bar : BarEvent)
    (since : ℤ) (timeoutMs : ℕ) (hacts : Acts s ctx bar)
    (hwait : s.persistedPhaseOrFlat.wait? s.config = some (since, timeoutMs))
    (hentry : SeesNoEntry ctx s.persistedPhaseOrFlat) :
    (s.persistedPhaseOrFlat.IsGivenUp (s.onBar ctx bar).1.persistedPhaseOrFlat ↔
        timeoutMs < (ctx.nowTsUtc - since) * 1000) ↔
      IsExact ctx.nowTsUtc since timeoutMs := by
  have hcore := sameCore_signalled s bar
  have hwait' : s.persistedPhaseOrFlat.wait? (signalled s bar).config = some (since, timeoutMs) := by
    rw [hcore.config]
    exact hwait
  have hcases := barPhase_of_wait bar (localTime s.config bar).date (localTime s.config bar) false
    hwait' hentry
  have hphase : (s.onBar ctx bar).1.persistedPhaseOrFlat = (phaseAfter s ctx bar).2.1 := by
    rw [onBar_of_unforced hacts (isUnforced_of_wait hwait)]
    rfl
  have hgivenUp : s.persistedPhaseOrFlat.IsGivenUp (s.onBar ctx bar).1.persistedPhaseOrFlat ↔
      timeoutMs < elapsedMs ctx.nowTsUtc since := by
    rw [hphase]
    rcases hcases with ⟨hleft, htime⟩ | ⟨hstays, htime⟩
    · exact ⟨fun _ => htime, fun _ => hleft⟩
    · refine ⟨fun hleft => ?_, fun htime' => absurd htime' htime⟩
      unfold phaseAfter at hleft
      rw [hstays] at hleft
      exact absurd hleft (not_isGivenUp_self _)
  rw [hgivenUp]
  exact elapsed_iff

namespace Sample

def waiting (sentTs : ℤ) : SessionGapStandaloneStrategy :=
  strategy.persistStateSnapshot (toSessionDt .default 1699959540).date
    (.pendingEntry
      { requestId := deterministicRequestId "session_gap" "D1" "USDRUBF" "place" 1699959540 0
        side := .buy
        qty := 1
        baselineQty := 0
        tp := none
        sl := none
        sentTs := sentTs
        acked := false })
    1699959540

theorem isOwn_bar : IsOwn strategy.config (Sample.bar 1699959600) := ⟨rfl, by decide +kernel⟩

theorem acts_waiting (sentTs : ℤ) :
    Acts (waiting sentTs) (Sample.ctx 1699959600 0) (Sample.bar 1699959600) where
  accepts := ⟨isOwn_bar, fun _ hnone => (nomatch hnone)⟩
  live := rfl
  passes := rfl

end Sample

/-- An entry of ten seconds ago is waited for. -/
theorem isGivenUp_iff_elapsed_soon :
    (Sample.waiting 1699959590).persistedPhaseOrFlat.IsGivenUp
        ((Sample.waiting 1699959590).onBar (Sample.ctx 1699959600 0)
          (Sample.bar 1699959600)).1.persistedPhaseOrFlat ↔
      (15000 : ℕ) < ((1699959600 : ℤ) - 1699959590) * 1000 :=
  (isGivenUp_iff_elapsed (Sample.waiting 1699959590) (Sample.ctx 1699959600 0)
    (Sample.bar 1699959600) 1699959590 15000 (Sample.acts_waiting _) rfl trivial).mpr
      (by unfold IsExact; decide)

/-- An entry that was sent two seconds later, by a clock that runs ahead, is given up. -/
theorem isGivenUp_ahead :
    Acts (Sample.waiting 1699959602) (Sample.ctx 1699959600 0) (Sample.bar 1699959600) ∧
      (Sample.waiting 1699959602).persistedPhaseOrFlat.wait? (Sample.waiting 1699959602).config =
        some (1699959602, 15000) ∧
      ((Sample.waiting 1699959602).onBar (Sample.ctx 1699959600 0)
        (Sample.bar 1699959600)).1.persistedPhaseOrFlat = .blocked "entry_ack_timeout" 1699959600 ∧
      ¬((Sample.waiting 1699959602).persistedPhaseOrFlat.IsGivenUp
          ((Sample.waiting 1699959602).onBar (Sample.ctx 1699959600 0)
            (Sample.bar 1699959600)).1.persistedPhaseOrFlat ↔
        (15000 : ℕ) < ((1699959600 : ℤ) - 1699959602) * 1000) := by
  have hblocked : ((Sample.waiting 1699959602).onBar (Sample.ctx 1699959600 0)
      (Sample.bar 1699959600)).1.persistedPhaseOrFlat = .blocked "entry_ack_timeout" 1699959600 := by
    decide +kernel
  refine ⟨Sample.acts_waiting _, rfl, hblocked, ?_⟩
  rw [hblocked]
  intro hiff
  have hlate := hiff.mp trivial
  omega

end AlorRs.SessionGap
