import AlorRs.Gateway.ControlPath
import AlorRs.Lib.OneShot
import AlorRs.Lib.Reaction

/-!
# Correctness of the control path

A recycle arms the send of one exit.  However the calls, the sends and the session interleave, each send
that begins belongs to another arming of the same request and connection, nothing happened to it in
between, and its window has not passed.  An entry that passes has just seen a fresh path, and if it asked
for a recycle, then since the recycle (`sends_once`).
-/

namespace AlorRs.Gateway

open History Reaction

/-- The clock does not count far enough for `as_millis() as u64` to lose a digit. -/
theorem Instant.elapsedMs_eq (since now : Instant) :
    since.elapsedMs now = (now.nanos - since.nanos) / 10 ^ 6 := by
  have hnow := now.inRange
  unfold elapsedMs elapsed
  apply Nat.mod_eq_of_lt
  omega

theorem bump_min (count : ℕ) : bump (min count (2 ^ 64 - 1)) = min (count + 1) (2 ^ 64 - 1) := by
  unfold bump
  omega

/-! ### What the armed send is -/

/-- The send of an exit that a recycle arms. -/
structure ExitGrant where
  requestId : Uuid
  connectionInstanceId : Option String
  windowMs : ℕ
  armedAt : Instant

namespace ControlPathEntry

def move : ControlPathEntry → OneShot.Move ExitGrant
  | .armed requestId connectionInstanceId windowMs at' =>
    .grant ⟨requestId, connectionInstanceId, windowMs, at'⟩
  | .began _ _ _ => .use
  | .blocked _ _ | .unauthorized _ => .revoke
  | .looked _ _ | .recycling _ _ | .returned _ _ _ _ | .finished _ _ => .keep

def isArmed : ControlPathEntry → Bool
  | .armed _ _ _ _ => true
  | _ => false

def isBegan : ControlPathEntry → Bool
  | .began _ _ _ => true
  | _ => false

/-- A send is armed, begins or is blocked, or the session is disconnected or recycled. -/
def disturbs : ControlPathEntry → Bool
  | .armed _ _ _ _ | .began _ _ _ | .blocked _ _ | .unauthorized _ => true
  | .looked _ _ | .recycling _ _ | .returned _ _ _ _ | .finished _ _ => false

def looker : ControlPathEntry → Option ℕ
  | .looked call _ => some call
  | _ => none

variable (e : ControlPathEntry)

theorem isGrant_move : e.move.isGrant = e.isArmed := by cases e <;> rfl

theorem isUse_move : e.move.isUse = e.isBegan := by cases e <;> rfl

theorem move_eq_use {e : ControlPathEntry} (h : e.isBegan = true) : e.move = .use := by
  cases e <;> first | rfl | cases h

theorem isBegan_of_move {e : ControlPathEntry} (h : e.move = .use) : e.isBegan = true := by
  cases e <;> first | rfl | cases h

theorem disturbs_of_move {e : ControlPathEntry} (h : e.move = .keep) : e.disturbs = false := by
  cases e <;> first | rfl | cases h

theorem eq_armed_of_move {e : ControlPathEntry} {grant : ExitGrant} (h : e.move = .grant grant) :
    e = .armed grant.requestId grant.connectionInstanceId grant.windowMs grant.armedAt := by
  cases e <;> first | (obtain rfl := OneShot.Move.grant.inj h; rfl) | cases h

end ControlPathEntry

def ExitGrant.Fits (grant : ExitGrant) (e : ControlPathEntry) : Prop :=
  ∃ now, e = .began grant.requestId grant.connectionInstanceId now ∧
    grant.armedAt.elapsedMs now ≤ grant.windowMs

/-- The part of the health that the sends of exits depend on. -/
structure ExitSend where
  armed : Bool
  used : Bool
  windowMs : Option ℕ
  requestId : Option Uuid
  expectedConnInstanceId : Option String
  armedAt : Option Instant
  armedTotal : ℕ
  attemptTotal : ℕ

def ControlPathHealth.exitSend (health : ControlPathHealth) : ExitSend :=
  ⟨health.postRecycleExitSendArmed, health.postRecycleExitSendUsed,
    health.postRecycleExitSendWindowMs, health.postRecycleExitSendRequestId,
    health.postRecycleExitSendExpectedConnInstanceId, health.postRecycleExitSendArmedAt,
    health.postRecycleExitSendArmedTotal, health.postRecycleExitSendAttemptTotal⟩

def ExitSend.Holds (send : ExitSend) : Option ExitGrant → Prop
  | some grant => send.armed = true ∧ send.used = false ∧ send.windowMs = some grant.windowMs ∧
      send.requestId = some grant.requestId ∧
      send.expectedConnInstanceId = grant.connectionInstanceId ∧ send.armedAt = some grant.armedAt
  | none => send.armed = false

/-- The health of a log: what is armed in it, and how many sends were armed and begun. -/
structure ControlPathHealth.Tracks (health : ControlPathHealth) (log : List ControlPathEntry) : Prop where
  holds : health.exitSend.Holds (OneShot.held ControlPathEntry.move log)
  armedTotal : health.exitSend.armedTotal = min (log.countP ControlPathEntry.isArmed) (2 ^ 64 - 1)
  attemptTotal : health.exitSend.attemptTotal = min (log.countP ControlPathEntry.isBegan) (2 ^ 64 - 1)

abbrev BeginsArmed : List ControlPathEntry → ControlPathEntry → Prop :=
  OneShot.Meets ControlPathEntry.move ExitGrant.Fits

variable {now : Instant}

namespace ControlPathHealth

variable {health health' : ControlPathHealth} {log new : List ControlPathEntry}

theorem Tracks.start (controlPathStaleAfterSec : ℕ) : (start controlPathStaleAfterSec).Tracks [] :=
  ⟨rfl, rfl, rfl⟩

theorem Tracks.keep (h : health.Tracks log) (hsame : health'.exitSend = health.exitSend)
    (hkeep : ∀ e ∈ new, e.move = .keep) : health'.Tracks (log ++ new) := by
  have hnone : ∀ e ∈ new, e.isArmed = false ∧ e.isBegan = false := by
    intro e hmem
    rw [← ControlPathEntry.isGrant_move, ← ControlPathEntry.isUse_move, hkeep e hmem]
    exact ⟨rfl, rfl⟩
  have harmed : new.countP ControlPathEntry.isArmed = 0 :=
    List.countP_eq_zero.mpr fun e hmem => Bool.eq_false_iff.mp (hnone e hmem).1
  have hbegan : new.countP ControlPathEntry.isBegan = 0 :=
    List.countP_eq_zero.mpr fun e hmem => Bool.eq_false_iff.mp (hnone e hmem).2
  constructor
  · rw [OneShot.held_append hkeep, hsame]
    exact h.holds
  · rw [List.countP_append, harmed, hsame]
    exact h.armedTotal
  · rw [List.countP_append, hbegan, hsame]
    exact h.attemptTotal

theorem Tracks.unauthorize (h : health.Tracks log) (recycled : Bool) :
    health.markCwsUnauthorized.Tracks (log ++ [.unauthorized recycled]) := by
  constructor
  · rw [OneShot.held_concat]
    rfl
  · rw [List.countP_append]
    exact h.armedTotal
  · rw [List.countP_append]
    exact h.attemptTotal

theorem Tracks.of_same (h : health.Tracks log) (hsame : health'.exitSend = health.exitSend) :
    health'.Tracks log :=
  ⟨hsame ▸ h.holds, hsame ▸ h.armedTotal, hsame ▸ h.attemptTotal⟩

theorem Tracks.arm (h : health.Tracks log) (call : EnsureCall) (reason fresh : Option String)
    (authorizeTsUtc : Option ℤ) (now : Instant) (nowTsUtc : ℤ) :
    (ControlPath.armPostRecycleExitSend health call reason fresh authorizeTsUtc now nowTsUtc).Tracks
      (log ++ [.armed call.requestId fresh
        (min (call.postRecycleExitSendWindow / 10 ^ 6) (2 ^ 64 - 1)) now]) := by
  constructor
  · rw [OneShot.held_concat]
    exact ⟨rfl, rfl, rfl, rfl, rfl, rfl⟩
  · rw [List.countP_append, List.countP_singleton]
    show bump health.postRecycleExitSendArmedTotal = _
    rw [show health.postRecycleExitSendArmedTotal = _ from h.armedTotal]
    exact bump_min _
  · rw [List.countP_append]
    exact h.attemptTotal

/-- A send that is not blocked is the one that is armed. -/
theorem Tracks.of_not_blocked (h : health.Tracks log) {requestId : Uuid} {current : Option String}
    (hopen : health.blockedReason requestId current now = none) :
    ∃ grant, OneShot.held ControlPathEntry.move log = some grant ∧
      grant.Fits (.began requestId current now) := by
  have hholds := h.holds
  unfold blockedReason at hopen
  cases hheld : OneShot.held ControlPathEntry.move log with
  | none =>
    rw [hheld] at hholds
    have harmed : health.postRecycleExitSendArmed = false := hholds
    rw [harmed] at hopen
    cases hopen
  | some grant =>
    rw [hheld] at hholds
    obtain ⟨-, -, hwindow, hrequest, hconn, harmedAt⟩ := hholds
    have hlimit : health.postRecycleExitSendWindowMs = some grant.windowMs := hwindow
    have hat : health.postRecycleExitSendArmedAt = some grant.armedAt := harmedAt
    dsimp only at hopen
    rw [hlimit, hat] at hopen
    split_ifs at hopen with _ _ hother hconnOther hexpired
    have hsame : some grant.requestId = some requestId := hrequest.symm.trans (not_not.mp hother)
    have hcurrent : grant.connectionInstanceId = current := hconn.symm.trans (not_not.mp hconnOther)
    obtain rfl := Option.some.inj hsame
    subst hcurrent
    exact ⟨grant, rfl, now, rfl, not_lt.mp (fun hlt => hexpired (decide_eq_true hlt))⟩

end ControlPathHealth

/-! ### Steps of the health -/

variable (log : List ControlPathEntry)

/-- The entries of a step begin what was armed, and the health tracks them. -/
def Follows (path : ControlPath) (new : List ControlPathEntry) : Prop :=
  EachAfter (fun before => BeginsArmed (log ++ before)) new ∧ path.health.Tracks (log ++ new)

theorem eachAfter_of_not_began {log new : List ControlPathEntry}
    (h : ∀ e ∈ new, e.isBegan = false) : EachAfter (fun before => BeginsArmed (log ++ before)) new := by
  intro i e hget huse
  have hnone := h e (List.mem_of_getElem? hget)
  rw [ControlPathEntry.isBegan_of_move huse] at hnone
  cases hnone

variable {health : ControlPathHealth}

namespace ControlPath

variable {path path' : ControlPath} {log new : List ControlPathEntry} {n : ℕ} {call : EnsureCall}

theorem follows_keep (h : path.health.Tracks log)
    (hsame : path'.health.exitSend = path.health.exitSend) (hkeep : ∀ e ∈ new, e.move = .keep) :
    Follows log path' new := by
  refine ⟨eachAfter_of_not_began fun e hmem => ?_, h.keep hsame hkeep⟩
  rw [← ControlPathEntry.isUse_move, hkeep e hmem]
  rfl

theorem follows_unauthorize (h : path.health.Tracks log) (recycled : Bool) :
    Follows log (path.unauthorize recycled).1 (path.unauthorize recycled).2 := by
  refine ⟨eachAfter_of_not_began fun e hmem => ?_, h.unauthorize recycled⟩
  rw [List.mem_singleton.mp hmem]
  rfl

theorem follows_beginSend (h : path.health.Tracks log) (requestId : Uuid) (current : Option String)
    (now : Instant) :
    Follows log (path.beginSend requestId current now).1 (path.beginSend requestId current now).2 := by
  unfold beginSend ControlPathHealth.beginPostRecycleExitSend
  cases hblocked : path.health.blockedReason requestId current now with
  | some reason =>
    refine ⟨eachAfter_of_not_began fun e hmem => ?_, ?_, ?_, ?_⟩
    · rw [List.mem_singleton.mp hmem]
      rfl
    · rw [OneShot.held_concat]
      rfl
    · rw [List.countP_append]
      exact h.armedTotal
    · rw [List.countP_append]
      exact h.attemptTotal
  | none =>
    obtain ⟨grant, hheld, hfits⟩ := h.of_not_blocked hblocked
    refine ⟨?_, ?_, ?_, ?_⟩
    · rw [eachAfter_singleton, List.append_nil]
      exact fun _ => ⟨grant, hheld, hfits⟩
    · rw [OneShot.held_concat]
      rfl
    · rw [List.countP_append]
      exact h.armedTotal
    · rw [List.countP_append, List.countP_singleton]
      show bump path.health.postRecycleExitSendAttemptTotal = _
      rw [show path.health.postRecycleExitSendAttemptTotal = _ from h.attemptTotal]
      exact bump_min _

@[simp] theorem health_setPhase (phase : EnsurePhase) : (path.setPhase n call phase).health = path.health :=
  rfl

@[simp] theorem health_release : (path.release n).health = path.health := by
  unfold release
  split_ifs <;> rfl

theorem health_answer (result : Except ControlPathFailure ControlPathRecycleOutcome) :
    (path.answer n call result).1.health = path.health := by
  show ((path.setPhase n call .returned).release n).health = path.health
  rw [health_release, health_setPhase]

theorem follows_answer (h : path.health.Tracks log)
    (hsame : path'.health.exitSend = path.health.exitSend)
    (result : Except ControlPathFailure ControlPathRecycleOutcome) :
    Follows log (path'.answer n call result).1 (path'.answer n call result).2 := by
  refine follows_keep h ?_ ?_
  · rw [health_answer, hsame]
  · intro e hmem
    rw [List.mem_singleton.mp hmem]
    rfl

theorem follows_check (h : path.health.Tracks log) (now : Instant)
    (next : ControlPathStaleStatus → Option String → EnsurePhase) :
    Follows log (path.check n call now next).1 (path.check n call now next).2 := by
  unfold check
  dsimp only
  split_ifs with hstale
  · refine follows_keep h rfl fun e hmem => ?_
    rw [List.mem_singleton.mp hmem]
    rfl
  · refine follows_keep h ?_ ?_
    · rw [health_answer]
    · intro e hmem
      rcases List.mem_cons.mp hmem with rfl | hmem
      · rfl
      · rw [List.mem_singleton.mp hmem]
        rfl

theorem follows_finishRecycle (h : path.health.Tracks log) (stale : ControlPathStaleStatus)
    (conn fresh : Option String) (authorizeTsUtc : Option ℤ) (now : Instant) (nowTsUtc : ℤ) :
    Follows log (path.finishRecycle n call stale conn fresh authorizeTsUtc now nowTsUtc).1
      (path.finishRecycle n call stale conn fresh authorizeTsUtc now nowTsUtc).2 := by
  unfold finishRecycle
  dsimp only
  split_ifs with harms
  · constructor
    · refine eachAfter_of_not_began fun e hmem => ?_
      rcases List.mem_cons.mp hmem with rfl | hmem
      · rfl
      · rw [List.mem_singleton.mp hmem]
        rfl
    · -- the send is armed, and then the call returns
      rw [← List.singleton_append, ← List.append_assoc]
      refine ControlPathHealth.Tracks.keep ((h.of_same rfl).arm call stale.reason fresh authorizeTsUtc
        now nowTsUtc) ?_ fun e hmem => ?_
      · rw [health_answer]
        rfl
      · rw [List.mem_singleton.mp hmem]
        rfl
  · exact follows_answer h (by rfl) _

theorem follows_failRecycle (h : path.health.Tracks log)
    (hsame : health.exitSend = path.health.exitSend) (message : String) :
    Follows log (path.failRecycle n call health message).1 (path.failRecycle n call health message).2 :=
  follows_answer h hsame _

theorem follows_poll (h : path.health.Tracks log) (stale : ControlPathStaleStatus)
    (conn : Option String) (startedAt now : Instant) :
    Follows log (path.poll n call stale conn startedAt now).1
      (path.poll n call stale conn startedAt now).2 := by
  have hlooked : ∀ e ∈ [ControlPathEntry.looked n (path.health.evaluateControlPathStale now).stale],
      e.move = .keep := by
    intro e hmem
    rw [List.mem_singleton.mp hmem]
    rfl
  unfold poll
  dsimp only
  split_ifs
  all_goals exact follows_keep h rfl hlooked

theorem follows_advance (h : path.health.Tracks log) (now : Instant) (nowTsUtc : ℤ) :
    Follows log (path.advance n call now nowTsUtc).1 (path.advance n call now nowTsUtc).2 := by
  unfold advance
  split
  · exact follows_check h now _
  · dsimp only
    split_ifs
    · exact follows_answer h (by rfl) _
    · exact follows_keep h rfl (List.forall_mem_nil _)
  · split_ifs
    all_goals exact follows_keep h rfl (List.forall_mem_nil _)
  · exact follows_check h now _
  · exact follows_keep h rfl (List.forall_mem_nil _)
  · dsimp only
    split_ifs
    · exact follows_failRecycle h (by rfl) _
    · refine follows_keep h rfl fun e hmem => ?_
      rw [List.mem_singleton.mp hmem]
      rfl
    · exact follows_keep h rfl (List.forall_mem_nil _)
  · exact follows_poll h _ _ _ now
  · exact follows_finishRecycle h _ _ _ _ now nowTsUtc
  · exact follows_failRecycle h (by rfl) _
  · exact follows_keep h rfl (List.forall_mem_nil _)

theorem follows_sessionStep (h : path.health.Tracks log) (event : SessionEvent) :
    Follows log (path.sessionStep event).1 (path.sessionStep event).2 := by
  cases event with
  | connected id =>
    obtain ⟨hafter, htracks⟩ := follows_unauthorize h false
    refine ⟨hafter, ?_⟩
    rw [← List.append_nil (log ++ _)]
    exact htracks.keep rfl (List.forall_mem_nil _)
  | takes at' =>
    unfold sessionStep
    dsimp only
    split
    · exact follows_keep h rfl (List.forall_mem_nil _)
    · exact follows_keep h rfl (List.forall_mem_nil _)
    · have hqueue : { path with queue := _ }.health.Tracks log := h
      exact follows_unauthorize hqueue true
  | resolved success at' =>
    unfold sessionStep
    dsimp only
    split_ifs <;> exact follows_keep h rfl (List.forall_mem_nil _)
  | lost => exact follows_unauthorize h false
  | authorizing at' | received at' | authorized tsUtc | ping at' | pong at' | ended =>
    exact follows_keep h rfl (List.forall_mem_nil _)

/-- Every step begins what was armed. -/
theorem follows_step (h : path.health.Tracks log) (step : Step) :
    Follows log (path.step step).1 (path.step step).2 := by
  cases step with
  | ensure requestId policy timeout window logOnly => exact follows_keep h rfl (List.forall_mem_nil _)
  | advance n now nowTsUtc =>
    unfold ControlPath.step
    dsimp only
    split
    · exact follows_advance h now nowTsUtc
    · exact follows_keep h rfl (List.forall_mem_nil _)
  | drop n =>
    unfold ControlPath.step
    dsimp only
    split
    · split_ifs
      · exact follows_keep h (congrArg ControlPathHealth.exitSend health_release) (List.forall_mem_nil _)
      · exact follows_keep h rfl (List.forall_mem_nil _)
    · exact follows_keep h rfl (List.forall_mem_nil _)
  | beginSend requestId current now => exact follows_beginSend h requestId current now
  | finishSend requestId success =>
    refine follows_keep h ?_ fun e hmem => ?_
    · cases success <;> rfl
    · rw [List.mem_singleton.mp hmem]
      rfl
  | send command =>
    unfold ControlPath.step
    split_ifs <;> exact follows_keep h rfl (List.forall_mem_nil _)
  | session event => exact follows_sessionStep h event
  | tick readiness => exact follows_keep h rfl (List.forall_mem_nil _)

end ControlPath

/-! ### Entries that pass -/

/-- At its last look a call has seen a fresh path, and if it recycled, then since it asked for that. -/
def SeesFresh (n : ℕ) (recycled : Bool) (log : List ControlPathEntry) : Prop :=
  ∃ older newer, log = older ++ .looked n false :: newer ∧ (∀ e ∈ newer, e.looker ≠ some n) ∧
    (recycled = true → ∃ reason, .recycling n reason ∈ older)

/-- A call for an entry that passes has seen a fresh path, which is a new connection after a recycle. -/
def PassesFresh (before : List ControlPathEntry) (e : ControlPathEntry) : Prop :=
  ∀ n outcome, e = .returned n .entry false (.ok outcome) → SeesFresh n outcome.recycled before ∧
      (outcome.recycled = true → outcome.currentConnectionInstanceId.isSome = true ∧
        outcome.currentConnectionInstanceId ≠ outcome.previousConnectionInstanceId)

def EnsureCall.Knows (n : ℕ) (call : EnsureCall) (log : List ControlPathEntry) : Prop :=
  match call.phase with
  | .polling _ _ _ => ∃ reason, .recycling n reason ∈ log
  | .ready _ previous fresh _ =>
    fresh.isSome = true ∧ fresh ≠ previous ∧ (call.policy = .entry → SeesFresh n true log)
  | _ => True

def ControlPath.Known (path : ControlPath) (log : List ControlPathEntry) : Prop :=
  ∀ n (call : EnsureCall), path.calls[n]? = some call → call.Knows n log

/-- The entries that pass in a step see a fresh path, and the calls know what they rely on. -/
def Enters (path : ControlPath) (new : List ControlPathEntry) : Prop :=
  EachAfter (fun before => PassesFresh (log ++ before)) new ∧ path.Known (log ++ new)

section Calls

variable {path path' : ControlPath} {log new : List ControlPathEntry} {n : ℕ} {call : EnsureCall}

theorem SeesFresh.append {recycled : Bool} (h : SeesFresh n recycled log)
    (hothers : ∀ e ∈ new, e.looker ≠ some n) : SeesFresh n recycled (log ++ new) := by
  obtain ⟨older, newer, rfl, hnewer, hrecycled⟩ := h
  refine ⟨older, newer ++ new, by simp, fun e hmem => ?_, hrecycled⟩
  rcases List.mem_append.mp hmem with hmem | hmem
  · exact hnewer e hmem
  · exact hothers e hmem

theorem EnsureCall.Knows.append (h : call.Knows n log) (hothers : ∀ e ∈ new, e.looker ≠ some n) :
    call.Knows n (log ++ new) := by
  unfold Knows at h ⊢
  cases hphase : call.phase with
  | polling stale previous startedAt =>
    rw [hphase] at h
    obtain ⟨reason, hmem⟩ := h
    exact ⟨reason, List.mem_append_left _ hmem⟩
  | ready stale previous fresh authorizeTsUtc =>
    rw [hphase] at h
    obtain ⟨hsome, hne, hfresh⟩ := h
    exact ⟨hsome, hne, fun hentry => (hfresh hentry).append hothers⟩
  | checking | detected _ _ | locking | rechecking | recycling _ _ | sending _ _ | expired _
  | returned => trivial

namespace ControlPath

theorem Known.keep (h : path.Known log) (hcalls : path'.calls = path.calls)
    (hnobody : ∀ e ∈ new, e.looker = none) : path'.Known (log ++ new) := by
  intro m call' hget
  rw [hcalls] at hget
  refine (h m call' hget).append fun e hmem => ?_
  rw [hnobody e hmem]
  exact nofun

theorem Known.set (h : path.Known log) {call' : EnsureCall}
    (hcalls : path'.calls = path.calls.set n call') (hknows : call'.Knows n (log ++ new))
    (hlooker : ∀ e ∈ new, e.looker = none ∨ e.looker = some n) : path'.Known (log ++ new) := by
  intro m call'' hget
  rw [hcalls] at hget
  by_cases hsame : n = m
  · subst hsame
    have hlt : n < path.calls.length := by
      have hlength := (List.getElem?_eq_some_iff.mp hget).1
      rwa [List.length_set] at hlength
    rw [List.getElem?_set_self hlt] at hget
    obtain rfl := Option.some.inj hget
    exact hknows
  · rw [List.getElem?_set_ne hsame] at hget
    refine (h m call'' hget).append fun e hmem => ?_
    rcases hlooker e hmem with hnone | hself
    · rw [hnone]
      exact nofun
    · rw [hself]
      exact fun heq => hsame (Option.some.inj heq)

theorem enters_keep (h : path.Known log) (hcalls : path'.calls = path.calls) : Enters log path' [] :=
  ⟨eachAfter_nil, h.keep hcalls (List.forall_mem_nil _)⟩

theorem enters_set (h : path.Known log) {call' : EnsureCall}
    (hcalls : path'.calls = path.calls.set n call') (hknows : call'.Knows n (log ++ [])) :
    Enters log path' [] :=
  ⟨eachAfter_nil, h.set hcalls hknows (List.forall_mem_nil _)⟩

theorem enters_single {e : ControlPathEntry}
    (hreturned : ∀ m policy logOnly result, e ≠ .returned m policy logOnly result)
    (h : path'.Known (log ++ [e])) : Enters log path' [e] :=
  ⟨eachAfter_singleton.mpr fun m _ heq => absurd heq (hreturned m _ _ _), h⟩

theorem calls_answer (result : Except ControlPathFailure ControlPathRecycleOutcome) :
    (path.answer n call result).1.calls = path.calls.set n { call with phase := .returned } := by
  show ((path.setPhase n call .returned).release n).calls = _
  unfold release
  split_ifs <;> rfl

variable {result : Except ControlPathFailure ControlPathRecycleOutcome}

theorem enters_answer (h : path.Known log) (hcalls : path'.calls = path.calls)
    {before : List ControlPathEntry}
    (hbefore : ∀ e ∈ before, (∀ m policy logOnly result, e ≠ .returned m policy logOnly result) ∧
      (e.looker = none ∨ e.looker = some n))
    (hpass : PassesFresh (log ++ before) (.returned n call.policy call.logOnly result)) :
    Enters log (path'.answer n call result).1 (before ++ (path'.answer n call result).2) := by
  constructor
  · refine eachAfter_append.mpr ⟨fun i e hget m outcome heq => ?_, ?_⟩
    · exact absurd heq ((hbefore e (List.mem_of_getElem? hget)).1 m _ _ _)
    · refine eachAfter_singleton.mpr ?_
      rw [List.append_nil]
      exact hpass
  · have hreturned : EnsureCall.Knows n { call with phase := .returned }
        (log ++ (before ++ (path'.answer n call result).2)) := trivial
    refine h.set ((calls_answer result).trans (by rw [hcalls])) hreturned fun e hmem => ?_
    rcases List.mem_append.mp hmem with hmem | hmem
    · exact (hbefore e hmem).2
    · rw [List.mem_singleton.mp hmem]
      exact .inl rfl

theorem enters_answer_alone (h : path.Known log) (hcalls : path'.calls = path.calls)
    (hpass : PassesFresh log (.returned n call.policy call.logOnly result)) :
    Enters log (path'.answer n call result).1 (path'.answer n call result).2 := by
  rw [← List.append_nil log] at hpass
  exact enters_answer h hcalls (fun e hmem => absurd hmem List.not_mem_nil) hpass

theorem enters_check (h : path.Known log) (now : Instant)
    {next : ControlPathStaleStatus → Option String → EnsurePhase}
    (hnext : ∀ stale previous log,
      EnsureCall.Knows n { call with phase := next stale previous } log) :
    Enters log (path.check n call now next).1 (path.check n call now next).2 := by
  unfold check
  dsimp only
  split_ifs with hstale
  · refine enters_single (by intro _ _ _ _ heq; cases heq) (h.set (by rfl) (hnext _ _ _) fun e hmem => ?_)
    rw [List.mem_singleton.mp hmem]
    exact .inr rfl
  · rw [← List.singleton_append]
    refine enters_answer h rfl (fun e hmem => ?_) fun m outcome heq => ?_
    · rw [List.mem_singleton.mp hmem]
      exact ⟨(by intro _ _ _ _ heq; cases heq), .inr rfl⟩
    · obtain ⟨rfl, -, -, hresult⟩ := ControlPathEntry.returned.inj heq
      obtain rfl := Except.ok.inj hresult
      exact ⟨⟨log, [], rfl, List.forall_mem_nil _, Bool.noConfusion⟩, Bool.noConfusion⟩

variable {previous : Option String} {stale : ControlPathStaleStatus}

theorem enters_finishRecycle (h : path.Known log) {fresh : Option String}
    {authorizeTsUtc : Option ℤ} {nowTsUtc : ℤ} (hsome : fresh.isSome = true)
    (hne : fresh ≠ previous) (hfresh : call.policy = .entry → SeesFresh n true log) :
    Enters log (path.finishRecycle n call stale previous fresh authorizeTsUtc now nowTsUtc).1
      (path.finishRecycle n call stale previous fresh authorizeTsUtc now nowTsUtc).2 := by
  unfold finishRecycle
  dsimp only
  split_ifs with harms
  · rw [← List.singleton_append]
    refine enters_answer h (by rfl) (fun e hmem => ?_) fun m outcome heq => ?_
    · rw [List.mem_singleton.mp hmem]
      exact ⟨(by intro _ _ _ _ heq; cases heq), .inl rfl⟩
    · -- an entry is not armed
      obtain ⟨-, hpolicy, -, -⟩ := ControlPathEntry.returned.inj heq
      rw [hpolicy] at harms
      cases harms
  · refine enters_answer_alone h (by rfl) fun m outcome heq => ?_
    obtain ⟨rfl, hpolicy, -, hresult⟩ := ControlPathEntry.returned.inj heq
    obtain rfl := Except.ok.inj hresult
    exact ⟨hfresh hpolicy, fun _ => ⟨hsome, hne⟩⟩

theorem enters_failRecycle (h : path.Known log) {message : String} :
    Enters log (path.failRecycle n call health message).1 (path.failRecycle n call health message).2 := by
  refine enters_answer_alone h (by rfl) fun m outcome heq => ?_
  obtain ⟨-, -, -, hresult⟩ := ControlPathEntry.returned.inj heq
  cases hresult

/-- A connection that is ready is a new one, and for an entry it is fresh. -/
theorem of_isReady {policy : ControlPathAdmissionPolicy} {stale : Bool}
    (h : isReady health policy previous stale = true) :
    health.cwsConnectionInstanceId.isSome = true ∧ health.cwsConnectionInstanceId ≠ previous ∧
      (policy = .entry → stale = false) := by
  unfold isReady at h
  cases policy with
  | entry =>
    simp only [ControlPathAdmissionPolicy.allowsPostRecycleExitSend, Bool.false_eq_true, if_false,
      Bool.and_eq_true, decide_eq_true_eq, Bool.not_eq_true'] at h
    exact ⟨h.1.1.2, h.1.2, fun _ => h.2⟩
  | exitRiskReducing =>
    simp only [ControlPathAdmissionPolicy.allowsPostRecycleExitSend, if_true, Bool.and_eq_true,
      decide_eq_true_eq] at h
    exact ⟨h.1.2, h.2, nofun⟩

theorem enters_poll (h : path.Known log) {startedAt : Instant} (hget : path.calls[n]? = some call)
    (hphase : call.phase = .polling stale previous startedAt) :
    Enters log (path.poll n call stale previous startedAt now).1
      (path.poll n call stale previous startedAt now).2 := by
  have hknows := h n call hget
  have hrecycling : ∃ reason, .recycling n reason ∈ log := by
    unfold EnsureCall.Knows at hknows
    rw [hphase] at hknows
    exact hknows
  -- the only entry is of this call
  have hlooker : ∀ e ∈ [ControlPathEntry.looked n (path.health.evaluateControlPathStale now).stale],
      e.looker = none ∨ e.looker = some n := by
    intro e hmem
    rw [List.mem_singleton.mp hmem]
    exact .inr rfl
  unfold poll
  dsimp only
  split_ifs with hready htimeout
  -- the path is fresh again, as the entry of the recycling shows
  · obtain ⟨hsome, hne, hfresh⟩ := of_isReady hready
    have hready : EnsureCall.Knows n
        { call with
          phase := .ready stale previous path.health.cwsConnectionInstanceId
            path.health.cwsLastAuthorizeTsUtc }
        (log ++ [.looked n (path.health.evaluateControlPathStale now).stale]) := by
      refine ⟨hsome, hne, fun hentry => ?_⟩
      rw [hfresh hentry]
      exact ⟨log, [], rfl, fun e hmem => absurd hmem List.not_mem_nil, fun _ => hrecycling⟩
    exact enters_single (by intro _ _ _ _ heq; cases heq) (h.set (by rfl) hready hlooker)
  · have hexpired : EnsureCall.Knows n
        { call with phase := .expired (path.health.evaluateControlPathStale now).reason }
        (log ++ [.looked n (path.health.evaluateControlPathStale now).stale]) := trivial
    exact enters_single (by intro _ _ _ _ heq; cases heq) (h.set (by rfl) hexpired hlooker)
  -- the call goes on polling
  · have hsame : path.calls = path.calls.set n call := by
      obtain ⟨hlt, heq⟩ := List.getElem?_eq_some_iff.mp hget
      rw [← heq]
      exact (List.set_getElem_self hlt).symm
    have hpolling : call.Knows n
        (log ++ [.looked n (path.health.evaluateControlPathStale now).stale]) := by
      unfold EnsureCall.Knows
      rw [hphase]
      exact hrecycling.imp fun reason hmem => List.mem_append_left _ hmem
    exact enters_single (by intro _ _ _ _ heq; cases heq) (h.set hsame hpolling hlooker)

theorem enters_advance (h : path.Known log) (hget : path.calls[n]? = some call) (now : Instant)
    (nowTsUtc : ℤ) :
    Enters log (path.advance n call now nowTsUtc).1 (path.advance n call now nowTsUtc).2 := by
  have hknows := h n call hget
  unfold EnsureCall.Knows at hknows
  unfold advance
  cases hphase : call.phase with
  | checking => exact enters_check h now fun _ _ _ => trivial
  | detected stale previous =>
    dsimp only
    split_ifs with hlog
    · -- a call that is only logged does not count
      refine enters_answer_alone h (by rfl) fun m outcome heq => ?_
      obtain ⟨-, -, hlogOnly, -⟩ := ControlPathEntry.returned.inj heq
      rw [hlog] at hlogOnly
      cases hlogOnly
    · exact enters_set h (by rfl) (by exact trivial)
  | locking =>
    dsimp only
    split_ifs
    · exact enters_set h (by rfl) (by exact trivial)
    · exact enters_keep h rfl
  | rechecking => exact enters_check h now fun _ _ _ => trivial
  | recycling stale previous => exact enters_set h (by rfl) (by exact trivial)
  | sending stale previous =>
    dsimp only
    split_ifs
    · exact enters_failRecycle h
    · refine enters_single (by intro _ _ _ _ heq; cases heq) (h.set (by rfl) ?_ fun e hmem => ?_)
      · exact ⟨_, List.mem_append_right _ (List.mem_singleton_self _)⟩
      · rw [List.mem_singleton.mp hmem]
        exact .inl rfl
    · exact enters_keep h rfl
  | polling stale previous startedAt => exact enters_poll h hget hphase
  | ready stale previous fresh authorizeTsUtc =>
    rw [hphase] at hknows
    exact enters_finishRecycle h hknows.1 hknows.2.1 hknows.2.2
  | expired reason => exact enters_failRecycle h
  | returned => exact enters_keep h rfl

theorem enters_others (h : path.Known log) (hcalls : path'.calls = path.calls) {e : ControlPathEntry}
    (hreturned : ∀ m policy logOnly result, e ≠ .returned m policy logOnly result)
    (hlooker : e.looker = none) : Enters log path' [e] := by
  refine enters_single hreturned (h.keep hcalls fun e' hmem => ?_)
  rw [List.mem_singleton.mp hmem]
  exact hlooker

theorem enters_sessionStep (h : path.Known log) (event : SessionEvent) :
    Enters log (path.sessionStep event).1 (path.sessionStep event).2 := by
  cases event with
  | connected id => exact enters_others h (by rfl) (by intro _ _ _ _ heq; cases heq) rfl
  | takes at' =>
    unfold sessionStep
    dsimp only
    split
    · exact enters_keep h rfl
    · exact enters_keep h (by rfl)
    · exact enters_others h (by rfl) (by intro _ _ _ _ heq; cases heq) rfl
  | resolved success at' =>
    unfold sessionStep
    dsimp only
    split_ifs <;> exact enters_keep h (by rfl)
  | lost => exact enters_others h (by rfl) (by intro _ _ _ _ heq; cases heq) rfl
  | authorizing at' | received at' | authorized tsUtc | ping at' | pong at' | ended =>
    exact enters_keep h (by rfl)

/-- Every step lets entries pass that see a fresh path. -/
theorem enters_step (h : path.Known log) (step : Step) :
    Enters log (path.step step).1 (path.step step).2 := by
  cases step with
  | ensure requestId policy timeout window logOnly =>
    refine ⟨eachAfter_nil, fun m call' hget => ?_⟩
    show call'.Knows m (log ++ [])
    rw [List.append_nil]
    -- a call is one of those before, or the new one
    have hcases : path.calls[m]? = some call' ∨
        call' = ⟨requestId, policy, timeout, window, logOnly, .checking⟩ := by
      by_cases hlt : m < path.calls.length
      · left
        have hold : (path.calls ++ [_])[m]? = some call' := hget
        rwa [List.getElem?_append_left hlt] at hold
      · right
        have hnew : (path.calls ++ [_])[m]? = some call' := hget
        rw [List.getElem?_append_right (Nat.le_of_not_lt hlt)] at hnew
        exact List.mem_singleton.mp (List.mem_of_getElem? hnew)
    rcases hcases with hold | rfl
    · exact h m call' hold
    · trivial
  | advance n now nowTsUtc =>
    unfold ControlPath.step
    dsimp only
    split
    · rename_i call' hget
      exact enters_advance h hget now nowTsUtc
    · exact enters_keep h rfl
  | drop n =>
    unfold ControlPath.step
    dsimp only
    split
    · rename_i call' hget
      split_ifs
      · exact enters_set h (calls_answer (.error ⟨"", ""⟩)) (by exact trivial)
      · exact enters_keep h rfl
    · exact enters_keep h rfl
  | beginSend requestId current now =>
    show Enters log (path.beginSend requestId current now).1 (path.beginSend requestId current now).2
    unfold beginSend
    split <;> exact enters_others h (by rfl) (by intro _ _ _ _ heq; cases heq) rfl
  | finishSend requestId success =>
    exact enters_others h (by rfl) (by intro _ _ _ _ heq; cases heq) rfl
  | send command =>
    unfold ControlPath.step
    split_ifs
    · exact enters_keep h (by rfl)
    · exact enters_keep h rfl
  | session event => exact enters_sessionStep h event
  | tick readiness => exact enters_keep h (by rfl)

end ControlPath

end Calls

/-! ### Sends that begin -/

/-- The send that begins at `j` was armed at `i`, for the same request and connection: in between the
session is not disconnected or recycled and no send is armed, begins or is blocked, and the window has not
passed. -/
structure ArmsSend (log : List ControlPathEntry) (i j : ℕ) (requestId : Uuid)
    (connectionInstanceId : Option String) (now : Instant) : Prop where
  before : i < j
  armed : ∃ windowMs armedAt, log[i]? = some (.armed requestId connectionInstanceId windowMs armedAt) ∧
    (now.nanos - armedAt.nanos) / 10 ^ 6 ≤ windowMs
  undisturbed : ∀ k e, i < k → k < j → log[k]? = some e → e.disturbs = false

def ArmsOnce : Prop :=
  ∃ arming : ℕ → ℕ, StrictMonoOn arming {j | ∃ e, log[j]? = some e ∧ e.isBegan = true} ∧
    ∀ j requestId connectionInstanceId now,
      log[j]? = some (.began requestId connectionInstanceId now) →
        ArmsSend log (arming j) j requestId connectionInstanceId now

theorem armsOnce_of_beginsArmed {log : List ControlPathEntry} (h : EachAfter BeginsArmed log) :
    ArmsOnce log := by
  obtain ⟨arming, hmono, harming⟩ := OneShot.exists_matching h
  refine ⟨arming, ?_, ?_⟩
  · rintro j ⟨e, hget, hbegan⟩ j' ⟨e', hget', hbegan'⟩ hlt
    exact hmono ⟨e, hget, ControlPathEntry.move_eq_use hbegan⟩
      ⟨e', hget', ControlPathEntry.move_eq_use hbegan'⟩ hlt
  · intro j requestId conn now hget
    obtain ⟨grant, ⟨⟨e, hgranter, hgrant⟩, hkept⟩, now', hbegan, hwindow⟩ := harming j _ hget rfl
    obtain ⟨rfl, rfl, rfl⟩ := ControlPathEntry.began.inj hbegan
    have hbefore : arming j < j := by
      have hlength := (List.getElem?_eq_some_iff.mp hgranter).1
      rw [List.length_take] at hlength
      omega
    rw [List.getElem?_take_of_lt hbefore, ControlPathEntry.eq_armed_of_move hgrant] at hgranter
    refine ⟨hbefore, ⟨grant.windowMs, grant.armedAt, hgranter, ?_⟩, fun k e' hk hlt hget' => ?_⟩
    · rw [← Instant.elapsedMs_eq]
      exact hwindow
    · rw [← List.getElem?_take_of_lt hlt] at hget'
      exact ControlPathEntry.disturbs_of_move (hkept k e' hk hget')

/-- However calls, sends and the session interleave: every send of an exit that begins belongs to another
arming, so that there are no more of them than armings, also by the totals of the health; and a call for
an entry only passes when it has just seen a fresh path, after its recycle if there was one. -/
theorem sends_once (controlPathStaleAfterSec : ℕ) (steps : List ControlPath.Step) :
    let log := outputs ControlPath.step (.start controlPathStaleAfterSec) steps
    let health := (after ControlPath.step (.start controlPathStaleAfterSec) steps).health
    ArmsOnce log ∧ log.countP ControlPathEntry.isBegan ≤ log.countP ControlPathEntry.isArmed ∧
      health.postRecycleExitSendAttemptTotal ≤ health.postRecycleExitSendArmedTotal ∧
      EachAfter PassesFresh log := by
  intro log health
  have hbegins : EachAfter BeginsArmed ([] ++ log) :=
    outputs_eachAfter (C := fun _ _ => True) (J := fun (path : ControlPath) log => path.health.Tracks log)
      (fun path step log h _ => ControlPath.follows_step h step)
      (.start controlPathStaleAfterSec) eachAfter_nil (.of_forall fun _ _ => trivial)
  have htracks : health.Tracks ([] ++ log) :=
    outputs_invariant (C := fun _ _ => True) (J := fun (path : ControlPath) log => path.health.Tracks log)
      (fun path step log h _ => (ControlPath.follows_step h step).2)
      (.start controlPathStaleAfterSec) (.of_forall fun _ _ => trivial)
  have hpasses : EachAfter PassesFresh ([] ++ log) :=
    outputs_eachAfter (C := fun _ _ => True) (J := ControlPath.Known)
      (fun path step log h _ => ControlPath.enters_step h step)
      (fun n call hget => by cases hget) eachAfter_nil (.of_forall fun _ _ => trivial)
  have hcount : log.countP ControlPathEntry.isBegan ≤ log.countP ControlPathEntry.isArmed := by
    have hle := OneShot.countP_use_le hbegins
    simp only [ControlPathEntry.isUse_move, ControlPathEntry.isGrant_move] at hle
    exact hle
  refine ⟨armsOnce_of_beginsArmed hbegins, hcount, ?_, hpasses⟩
  have hattempts : health.postRecycleExitSendAttemptTotal = _ := htracks.attemptTotal
  have harmings : health.postRecycleExitSendArmedTotal = _ := htracks.armedTotal
  rw [hattempts, harmings]
  exact min_le_min_right _ hcount

/-- An exit recycles a stale path and is sent once; the second send is blocked. -/
example :
    let early : Instant := ⟨0, by decide⟩
    let late : Instant := ⟨2 * 10 ^ 9, by decide⟩
    let log := outputs ControlPath.step (.start 1)
      ([.session (.connected "first"), .session (.authorizing early),
          .ensure (.other 1) .exitRiskReducing 1000 (5 * 10 ^ 9) false] ++
        List.replicate 6 (.advance 0 late 0) ++
        [.session (.takes late), .session (.connected "second"), .session (.authorized 0), .tick true] ++
        List.replicate 2 (.advance 0 late 0) ++
        List.replicate 2 (.beginSend (.other 1) (some "second") late))
    (log.countP ControlPathEntry.isArmed, log.countP ControlPathEntry.isBegan, log.length) =
      (1, 1, 11) := by
  decide +kernel

end AlorRs.Gateway
