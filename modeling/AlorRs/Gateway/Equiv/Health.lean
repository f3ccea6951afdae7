import AlorRs.Gateway.Equiv.Sessions
import AlorRs.Gateway.Health

/-!
# Messages that are lost to a full queue

A message that finds the queue of the router full is lost, which the gateway reports by
`backpressureLagged` until a later message is taken into the queue (`lagged_until_enqueued`),
whether or not what was lost has been asked for again.
-/

namespace AlorRs.Gateway.MonitoredGateway

open Reaction

variable {text : RouterText} {config : HealthConfig} {gateway : MonitoredGateway}

/-- The next event of the hub is a message of the current generation. -/
def HandlesRaw (gateway : MonitoredGateway) (step : MonitorStep) : Prop :=
  ∃ now value wsEvents, step = .supervise (.wsEvent now) ∧
    gateway.supervisor.wsEvents = .raw value gateway.supervisor.currentGeneration :: wsEvents

def Drops (gateway : MonitoredGateway) (step : MonitorStep) : Prop :=
  HandlesRaw gateway step ∧ Supervisor.rawCapacity ≤ gateway.supervisor.raw.length

def Enqueues (gateway : MonitoredGateway) (step : MonitorStep) : Prop :=
  HandlesRaw gateway step ∧ gateway.supervisor.raw.length < Supervisor.rawCapacity

def ReportsLoss (gateway : MonitoredGateway) : Prop :=
  gateway.health.backpressureLagged = true ∧ gateway.health.readiness = false

/-! ### Steps -/

theorem reportsLoss_of_drops {step : MonitorStep} (h : Drops gateway step) :
    ReportsLoss (act text config gateway step).1 := by
  obtain ⟨⟨now, value, wsEvents, rfl, hevents⟩, hfull⟩ := h
  have hhealth : gateway.healthAfter (.wsEvent now) =
      { gateway.health with backpressureLagged := true, readiness := false } := by
    rw [healthAfter, hevents]
    show gateway.health.handle gateway.supervisor
      (.raw value gateway.supervisor.currentGeneration) = _
    rw [HealthState.handle, WsEvent.generation, if_neg (not_not.mpr rfl),
      HealthState.handleCurrent, if_neg (not_lt.mpr hfull)]
  have hact : (act text config gateway (.supervise (.wsEvent now))).1.health =
      gateway.healthAfter (.wsEvent now) := by
    have hstep : gateway.supervisor.step text config.toSupervisorConfig (.wsEvent now) = some
        ({ gateway.supervisor with wsEvents := wsEvents }.handleWsEvent config.toSupervisorConfig now
          (.raw value gateway.supervisor.currentGeneration)) := by
      simp only [Supervisor.step]
      rw [hevents]
    simp only [act]
    rw [hstep]
  unfold ReportsLoss
  rw [hact, hhealth]
  exact ⟨rfl, rfl⟩

/-- Only a message that is taken into the queue clears the report. -/
theorem ReportsLoss.handle {event : WsEvent} (h : ReportsLoss gateway)
    (henqueues : ∀ value, event = .raw value gateway.supervisor.currentGeneration →
      Supervisor.rawCapacity ≤ gateway.supervisor.raw.length) :
    (gateway.health.handle gateway.supervisor event).backpressureLagged = true ∧
      (gateway.health.handle gateway.supervisor event).readiness = false := by
  unfold HealthState.handle
  split_ifs with hgeneration
  · exact h
  · cases event with
    | raw value generation =>
      have hcurrent : generation = gateway.supervisor.currentGeneration := not_not.mp hgeneration
      rw [HealthState.handleCurrent, if_neg (not_lt.mpr (henqueues value (by rw [hcurrent])))]
      exact ⟨rfl, rfl⟩
    | wsRx | conn | subscribed | subscriptionAck | subscriptionStats => exact h

theorem ReportsLoss.step {step : MonitorStep} (h : ReportsLoss gateway)
    (hfull : ¬Enqueues gateway step) :
    ReportsLoss (act text config gateway step).1 := by
  cases step with
  | supervise step =>
    simp only [act]
    cases gateway.supervisor.step text config.toSupervisorConfig step with
    | none => exact h
    | some supervisor =>
      show (gateway.healthAfter step).backpressureLagged = true ∧ _
      cases step with
      | wsEvent now =>
        unfold healthAfter
        cases hevents : gateway.supervisor.wsEvents with
        | nil => exact h
        | cons event wsEvents =>
          refine h.handle fun value heq => not_lt.mp fun hlt => hfull ?_
          exact ⟨⟨now, value, wsEvents, rfl, by rw [hevents, heq]⟩, hlt⟩
      | _ => exact h
  | tick now =>
    refine ⟨h.1, ?_⟩
    -- the ticker does not find the gateway ready while messages count as lost
    show gateway.readiness config now = false
    simp [readiness, h.1]

/-! ### Runs -/

/-- After a message was lost, the gateway reports it and is not ready until a later message is taken
into the queue. -/
theorem lagged_until_enqueued (text : RouterText) (config : HealthConfig) (before rest : List MonitorStep)
    (step : MonitorStep) (hdrops : Drops (after (act text config) (start config) before) step)
    (hfull : Always (act text config) (fun gateway step => ¬Enqueues gateway step)
      (after (act text config) (start config) (before ++ [step])) rest) :
    ReportsLoss (after (act text config) (start config) (before ++ step :: rest)) := by
  have hlost : ReportsLoss (after (act text config) (start config) (before ++ [step])) := by
    rw [after_append]
    exact reportsLoss_of_drops hdrops
  have hsplit : before ++ step :: rest = before ++ [step] ++ rest := by
    rw [List.append_assoc, List.singleton_append]
  rw [hsplit, after_append]
  exact after_invariant (fun gateway step hreports hnone => hreports.step hnone) hlost hfull

/-! ### A full queue -/

/-- The hub runs, what it sent has been handled, and the queue holds some messages without news. -/
structure Holds (n : ℕ) (gateway : MonitoredGateway) : Prop where
  running : gateway.supervisor.hub.stage = .running
  handled : gateway.supervisor.wsEvents = []
  generation : gateway.supervisor.currentGeneration = gateway.supervisor.hub.generation
  raw : gateway.supervisor.raw = List.replicate n .null

def sending : MonitorStep := .supervise (.hub (.raw .null))

/-- The task of the hub's events handles the next one. -/
def handling : MonitorStep := .supervise (.wsEvent 0)

/-- The message is the next event. -/
structure Sent (n : ℕ) (gateway : MonitoredGateway) : Prop where
  running : gateway.supervisor.hub.stage = .running
  sent : gateway.supervisor.wsEvents = [.raw .null gateway.supervisor.currentGeneration]
  generation : gateway.supervisor.currentGeneration = gateway.supervisor.hub.generation
  raw : gateway.supervisor.raw = List.replicate n .null

variable {n : ℕ} (text : RouterText) (config : HealthConfig)

theorem Holds.send (h : Holds n gateway) : Sent n (act text config gateway sending).1 := by
  have hhub : gateway.supervisor.hub.step config.hub gateway.supervisor.backfillPlan
      gateway.supervisor.hubCommands (.raw .null) = some (gateway.supervisor.hub,
        [.raw .null gateway.supervisor.hub.generation], gateway.supervisor.hubCommands) := by
    simp only [Hub.step]
    rw [h.running]
  have hstep : gateway.supervisor.step text config.toSupervisorConfig (.hub (.raw .null)) = some
      { gateway.supervisor with
        wsEvents := [.raw .null gateway.supervisor.hub.generation] } := by
    simp only [Supervisor.step]
    rw [hhub, h.handled]
    rfl
  simp only [sending, act]
  rw [hstep]
  refine ⟨h.running, ?_, h.generation, h.raw⟩
  rw [← h.generation]

theorem Sent.drops (h : Sent n gateway) (hn : Supervisor.rawCapacity ≤ n) : Drops gateway handling := by
  refine ⟨⟨0, .null, [], rfl, h.sent⟩, ?_⟩
  rw [h.raw, List.length_replicate]
  exact hn

theorem Sent.handle (h : Sent n gateway) : let handled := (act text config gateway handling).1
    (n < Supervisor.rawCapacity → Holds (n + 1) handled ∧ handled.health.backpressureLagged = false) ∧
      (Supervisor.rawCapacity ≤ n → Holds n handled) := by
  have hlength : gateway.supervisor.raw.length = n := by rw [h.raw, List.length_replicate]
  -- the raw channel takes the message while it has room
  have hstep : gateway.supervisor.step text config.toSupervisorConfig (.wsEvent 0) = some
      (if n < Supervisor.rawCapacity then
        { gateway.supervisor with wsEvents := [], raw := gateway.supervisor.raw ++ [.null] }
      else { gateway.supervisor with wsEvents := [] }) := by
    simp only [Supervisor.step]
    rw [h.sent, ← hlength]
    show some (if gateway.supervisor.currentGeneration ≠ gateway.supervisor.currentGeneration then _
      else _) = _
    rw [if_neg (not_not.mpr rfl)]
    rfl
  have hhealth : gateway.healthAfter (.wsEvent 0) =
      if n < Supervisor.rawCapacity then { gateway.health with backpressureLagged := false }
      else { gateway.health with backpressureLagged := true, readiness := false } := by
    rw [healthAfter, h.sent, ← hlength]
    show (if gateway.supervisor.currentGeneration ≠ gateway.supervisor.currentGeneration then _
      else _) = _
    rw [if_neg (not_not.mpr rfl)]
    rfl
  simp only [handling, act]
  rw [hstep, hhealth]
  refine ⟨fun hn => ?_, fun hn => ?_⟩
  · rw [if_pos hn, if_pos hn]
    refine ⟨⟨h.running, rfl, h.generation, ?_⟩, rfl⟩
    show gateway.supervisor.raw ++ [.null] = _
    rw [h.raw, List.replicate_succ']
  · rw [if_neg (not_lt.mpr hn)]
    exact ⟨h.running, rfl, h.generation, h.raw⟩

theorem Holds.fill (h : Holds 0 gateway) (hn : n ≤ Supervisor.rawCapacity) :
    Holds n (after (act text config) gateway (List.replicate n [sending, handling]).flatten) := by
  induction n with
  | zero => exact h
  | succ n ih =>
    have hbefore := ih (Nat.le_of_succ_le hn)
    rw [List.replicate_succ', List.flatten_append, after_append]
    exact (((hbefore.send text config).handle text config).1 hn).1

theorem Holds.routeRaw (h : Holds (n + 1) gateway) :
    Holds n (act text config gateway (.supervise (.routeRaw 0))).1 := by
  have hstep : gateway.supervisor.step text config.toSupervisorConfig (.routeRaw 0) = some
      { gateway.supervisor with raw := List.replicate n .null } := by
    simp only [Supervisor.step, Supervisor.routeRaw]
    rw [h.raw, List.replicate_succ]
    rfl
  simp only [act]
  rw [hstep]
  exact ⟨h.running, h.handled, h.generation, rfl⟩

def portfolioHealth : HealthConfig := ⟨Supervisor.portfolioOnly, 60⟩

def connected : List MonitorStep :=
  Supervisor.connecting.map .supervise ++ List.replicate 16 handling

theorem holds_connected :
    Holds 0 (after (act plainText portfolioHealth) (start portfolioHealth) connected) := by
  refine ⟨rfl, ?_, by decide +kernel, ?_⟩
  · rw [← List.isEmpty_iff]
    decide +kernel
  · apply List.isEmpty_iff.mp
    decide +kernel

def filling (n : ℕ) : List MonitorStep :=
  connected ++ ((List.replicate n [sending, handling]).flatten ++ [sending])

theorem sent_filling (hn : n ≤ Supervisor.rawCapacity) :
    Sent n (after (act plainText portfolioHealth) (start portfolioHealth) (filling n)) := by
  rw [filling, after_append, after_append]
  exact (holds_connected.fill plainText portfolioHealth hn).send plainText portfolioHealth

/-- The gateway reports the loss of a message. -/
theorem reportsLoss_filling :
    ReportsLoss (after (act plainText portfolioHealth) (start portfolioHealth)
      (filling Supervisor.rawCapacity ++ handling :: [.tick 0])) := by
  refine lagged_until_enqueued plainText portfolioHealth (filling Supervisor.rawCapacity) [.tick 0]
    handling ((sent_filling (le_refl _)).drops (le_refl _)) ⟨?_, trivial⟩
  rintro ⟨⟨now, value, wsEvents, hstep, -⟩, -⟩
  cases hstep

def Resubscribes (gateway : MonitoredGateway) (step : MonitorStep) : Prop :=
  ∃ now wallclockTs historyOrigin wsEvents, step = .supervise (.wsEvent now) ∧
    gateway.supervisor.wsEvents =
      .subscribed wallclockTs historyOrigin gateway.supervisor.currentGeneration :: wsEvents

/-- A message is lost, and the next one clears the report before anything is subscribed again. -/
theorem loss_forgotten :
    ¬∀ (text : RouterText) (config : HealthConfig) (before rest : List MonitorStep)
      (step : MonitorStep), Drops (after (act text config) (start config) before) step →
      Always (act text config) (fun gateway step => ¬Resubscribes gateway step)
        (after (act text config) (start config) (before ++ [step])) rest →
      ReportsLoss (after (act text config) (start config) (before ++ step :: rest)) := by
  intro h
  -- the channel is filled, overflows, and takes one more after the router has taken one
  obtain ⟨n, hn⟩ : ∃ n, n + 1 = Supervisor.rawCapacity := ⟨1023, rfl⟩
  have hfilled := sent_filling hn.le
  have hfull := (hfilled.handle plainText portfolioHealth).2 hn.ge
  have hfreed := hfull.routeRaw plainText portfolioHealth
  have hsent := hfreed.send plainText portfolioHealth
  have hcleared := (hsent.handle plainText portfolioHealth).1 (by rw [← hn]; exact Nat.lt_succ_self n)
  have hreports := h plainText portfolioHealth (filling (n + 1))
    [.supervise (.routeRaw 0), sending, handling] handling (hfilled.drops hn.ge) ?_
  · rw [← List.singleton_append, ← List.append_assoc, after_append, after_append] at hreports
    have hlagged := hreports.1
    have hclear : (after (act plainText portfolioHealth)
        (after (act plainText portfolioHealth)
          (after (act plainText portfolioHealth) (start portfolioHealth) (filling (n + 1)))
          [handling])
        [.supervise (.routeRaw 0), sending, handling]).health.backpressureLagged = false :=
      hcleared.2
    rw [hclear] at hlagged
    cases hlagged
  -- none of the steps after the loss is of a subscription
  · have hnone {gateway : MonitoredGateway} {step : MonitorStep}
        (hevents : ∀ wallclockTs historyOrigin generation wsEvents, gateway.supervisor.wsEvents ≠
          .subscribed wallclockTs historyOrigin generation :: wsEvents) :
        ¬Resubscribes gateway step := by
      rintro ⟨now, wallclockTs, historyOrigin, wsEvents, -, heq⟩
      exact hevents _ _ _ _ heq
    rw [after_append]
    refine ⟨hnone ?_, hnone ?_, hnone ?_, trivial⟩
    · intro wallclockTs historyOrigin generation wsEvents heq
      have hhandled := hfull.handled
      cases hhandled.symm.trans heq
    · intro wallclockTs historyOrigin generation wsEvents heq
      have hhandled := hfreed.handled
      cases hhandled.symm.trans heq
    · intro wallclockTs historyOrigin generation wsEvents heq
      have hone := hsent.sent
      cases hone.symm.trans heq

end AlorRs.Gateway.MonitoredGateway
