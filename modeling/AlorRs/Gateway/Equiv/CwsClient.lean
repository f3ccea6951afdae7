import AlorRs.Gateway.CwsClient
import AlorRs.Lib.History

/-!
# Correctness of the client of the command websocket

No command is sent after its caller has its answer, unless a caller stops waiting while its
command is still in the queue (`Reached.sendsOnTime`).
-/

namespace AlorRs.Gateway

open History

/-! ### Callers -/

def SessionCommand.caller? : SessionCommand → Option ℕ
  | .send command => some command.respTx
  | .recycle _ => none

def CwsEvent.sentCaller? : CwsEvent → Option ℕ
  | .sent request _ => some request.respTx
  | _ => none

def CwsEvent.InTime (before : List CwsEvent) : CwsEvent → Prop
  | .sent request _ => ∀ event ∈ before, event.answers request.respTx = false
  | _ => True

def queuedCallers (queue : List SessionCommand) : List ℕ := queue.filterMap SessionCommand.caller?

def sentCallers (log : List CwsEvent) : List ℕ := log.filterMap CwsEvent.sentCaller?

theorem sentCallers_append (log new : List CwsEvent) :
    sentCallers (log ++ new) = sentCallers log ++ sentCallers new := List.filterMap_append

variable {log : List CwsEvent} {request : PendingRequest}

theorem mem_sentCallers {payload : Json} (h : CwsEvent.sent request payload ∈ log) :
    request.respTx ∈ sentCallers log :=
  List.mem_filterMap.mpr ⟨_, h, rfl⟩

variable {new : List CwsEvent}

theorem sentCallers_eq_nil (h : ∀ event ∈ new, event.sentCaller? = none) : sentCallers new = [] :=
  List.filterMap_eq_nil_iff.mpr h

namespace CwsClient

variable {floatText : ℚ → String} {client client' : CwsClient} {session : CwsSession}

def requests (client : CwsClient) : List PendingRequest :=
  match client.session with
  | none => []
  | some session => session.requests

theorem requests_of_session (h : client.session = some session) :
    client.requests = session.requests := by
  rw [requests, h]

/-! ### Moves -/

variable {guid : String}

theorem mem_requests_insert {pending : AList fun _ : String => PendingRequest}
    {other : PendingRequest} (h : other ∈ (pending.insert guid request).entries.map Sigma.snd) :
    other = request ∨ other ∈ pending.entries.map Sigma.snd := by
  obtain ⟨entry, hentry, rfl⟩ := List.mem_map.mp h
  rw [AList.entries_insert, List.mem_cons] at hentry
  rcases hentry with rfl | hentry
  · exact .inl rfl
  · exact .inr (List.mem_map_of_mem ((List.kerase_sublist _ _).subset hentry))

/-- A move that takes nothing from the queue and sends nothing. -/
structure Settling (client client' : CwsClient) : Prop where
  calls : client'.calls = client.calls
  queue : queuedCallers client'.queue = queuedCallers client.queue
  requests : client'.requests ⊆ client.requests
  log : ∃ new, client'.log = client.log ++ new ∧ (∀ event ∈ new, event.sentCaller? = none) ∧
    ∀ event ∈ new, ∀ caller, event.answers caller = true →
      caller ∈ client.requests.map PendingRequest.respTx

theorem Settling.of_eq (hcalls : client'.calls = client.calls)
    (hqueue : queuedCallers client'.queue = queuedCallers client.queue)
    (hrequests : client'.requests ⊆ client.requests) (hlog : client'.log = client.log) :
    Settling client client' := by
  refine ⟨hcalls, hqueue, hrequests, [], by rw [hlog, List.append_nil], ?_, ?_⟩ <;>
    exact fun _ hmem => absurd hmem List.not_mem_nil

theorem settling_handleTransportFailure (failure : CwsTransportFailure)
    (h : client.session = some session) :
    Settling client (client.handleTransportFailure session failure) := by
  refine ⟨rfl, rfl, List.nil_subset _, _, rfl, fun event hmem => ?_, fun event hmem caller hcaller => ?_⟩
  · rcases List.mem_append.mp hmem with hmem | hmem
    · obtain ⟨request, -, rfl⟩ := List.mem_map.mp hmem
      rfl
    · rw [List.mem_singleton.mp hmem]
      rfl
  · rcases List.mem_append.mp hmem with hmem | hmem
    · obtain ⟨request, hrequest, rfl⟩ := List.mem_map.mp hmem
      rw [requests_of_session h]
      exact List.mem_map.mpr ⟨request, hrequest, beq_iff_eq.mp hcaller⟩
    · rw [List.mem_singleton.mp hmem] at hcaller
      cases hcaller

theorem settling_abandonSession (exit : SessionExit) (h : client.session = some session) :
    Settling client (client.abandonSession session exit) := by
  refine ⟨rfl, rfl, List.nil_subset _, _, rfl, fun event hmem => ?_, fun event hmem caller hcaller => ?_⟩
  · rcases List.mem_cons.mp hmem with rfl | hmem
    · rfl
    · obtain ⟨request, -, rfl⟩ := List.mem_map.mp hmem
      rfl
  · rcases List.mem_cons.mp hmem with rfl | hmem
    · cases hcaller
    · obtain ⟨request, hrequest, rfl⟩ := List.mem_map.mp hmem
      rw [requests_of_session h]
      exact List.mem_map.mpr ⟨request, hrequest, beq_iff_eq.mp hcaller⟩

theorem mem_requests_of_lookup (h : session.pending.lookup guid = some request) :
    request ∈ session.requests :=
  List.mem_map.mpr ⟨⟨guid, request⟩, AList.mem_lookup_iff.mp h, rfl⟩

theorem settling_resolvePending (value : Json) (h : client.session = some session)
    (hlookup : session.pending.lookup guid = some request) :
    Settling client (client.resolvePending session guid request value) := by
  refine ⟨rfl, rfl, ?_, _, rfl, fun event hmem => ?_, fun event hmem caller hcaller => ?_⟩
  · rw [requests_of_session h]
    exact List.map_subset _ (List.kerase_sublist _ _).subset
  · rw [List.mem_singleton.mp hmem]
    rfl
  · rw [List.mem_singleton.mp hmem] at hcaller
    rw [requests_of_session h]
    exact List.mem_map.mpr ⟨request, mem_requests_of_lookup hlookup, beq_iff_eq.mp hcaller⟩

/-! ### Runs -/

/-- A send that fails is a send, and then a connection that fails. -/
theorem sendPending_some (floatText : ℚ → String) (client : CwsClient) (session : CwsSession)
    (command : CwsCommand) (newGuid : String) (error : WsError) :
    ∃ session', (sendPending floatText client session command newGuid none).session = some session' ∧
      sendPending floatText client session command newGuid (some error) =
        (sendPending floatText client session command newGuid none).handleTransportFailure session'
          (transportFailureOfWsError error true) := ⟨_, rfl, rfl⟩

def SendsNothing (client : CwsClient) : Prop :=
  ∀ command queue, client.queue ≠ .send command :: queue

structure Preserved (floatText : ℚ → String) (allowed : CwsClient → Step → Prop)
    (I : CwsClient → Prop) : Prop where
  start : I CwsClient.start
  quiet : ∀ client handlesAlive loopAlive queue, I client →
    queuedCallers queue = queuedCallers client.queue →
    I { client with handlesAlive := handlesAlive, loopAlive := loopAlive, queue := queue }
  call : ∀ client payload requestId symbol, I client → I (client.call payload requestId symbol)
  timeout : ∀ client respTx, I client → allowed client (.timeout respTx) →
    client.waiting respTx = true → I { client with log := client.log ++ [.timedOut respTx] }
  connected : ∀ client session, I client → client.session = none →
    (∀ session', session = some session' → session'.pending = ∅) → I (client.connected session)
  send : ∀ client session command queue newGuid, I client → client.session = some session →
    client.queue = .send command :: queue →
    I (sendPending floatText { client with queue := queue } session command newGuid none)
  resolve : ∀ client session guid request value, I client → client.session = some session →
    classifyInboundCwsMessage value = .requestResponse → correlationGuidOf value = some guid →
    session.pending.lookup guid = some request →
    I (client.resolvePending session guid request value)
  fail : ∀ client session failure, I client → client.session = some session →
    I (client.handleTransportFailure session failure)
  abandon : ∀ client session exit newGuid error, I client → client.session = some session →
    allowed client (.receive newGuid error) → client.SendsNothing →
    I (client.abandonSession session exit)

variable {allowed : CwsClient → Step → Prop} {I : CwsClient → Prop}

theorem Preserved.receive {newGuid : String} {error : Option WsError}
    (h : Preserved floatText allowed I) (hclient : I client) (hsession : client.session = some session)
    (hallowed : allowed client (.receive newGuid error))
    (hreceive : client.receive floatText session newGuid error = some client') : I client' := by
  simp only [CwsClient.receive] at hreceive
  split at hreceive
  · rename_i command queue hqueue
    rw [← Option.some.inj hreceive]
    have hsent := h.send client session command queue newGuid hclient hsession hqueue
    cases error with
    | none => exact hsent
    | some error =>
      obtain ⟨session', hsession', heq⟩ := sendPending_some floatText
        { client with queue := queue } session command newGuid error
      rw [heq]
      exact h.fail _ _ _ hsent hsession'
  -- a recycling ends the session
  · rename_i reason queue hqueue
    rw [← Option.some.inj hreceive]
    have hnothing : client.SendsNothing := by
      intro command queue' heq
      rw [hqueue] at heq
      cases heq
    refine h.quiet _ client.handlesAlive client.loopAlive queue
      (h.abandon client session (.recycled reason) newGuid error hclient hsession hallowed hnothing) ?_
    show queuedCallers queue = queuedCallers client.queue
    rw [hqueue]
    rfl
  -- the queue is empty, and the session ends if no handle is left
  · rename_i hqueue
    have hnothing : client.SendsNothing := by
      intro command queue' heq
      rw [hqueue] at heq
      cases heq
    split at hreceive
    · cases hreceive
    · rw [← Option.some.inj hreceive]
      exact h.quiet _ client.handlesAlive false client.queue
        (h.abandon client session .channelClosed newGuid error hclient hsession hallowed hnothing) rfl

theorem Preserved.receiveMessage (h : Preserved floatText allowed I) (hclient : I client)
    (hsession : client.session = some session) (message : WsMessage) :
    I (client.receiveMessage session message) := by
  cases message with
  | text value =>
    cases value with
    | none => exact hclient
    | some value =>
      simp only [CwsClient.receiveMessage]
      split
      · rename_i guid hclass hguid
        split
        · rename_i request hlookup
          exact h.resolve client session guid request value hclient hsession hclass hguid hlookup
        · exact hclient
      · exact hclient
  | ping | pong | other => exact hclient
  | close | error | eof => exact h.fail client session _ hclient hsession

/-- An invariant of the moves holds in every run. -/
theorem Preserved.reached (hpreserved : Preserved floatText allowed I)
    (h : Reached floatText allowed client) : I client := by
  induction h with
  | start => exact hpreserved.start
  | @step client client' step _ hallowed hstep ih =>
    cases step with
    | call payload requestId symbol =>
      simp only [CwsClient.step, Option.ite_none_right_eq_some] at hstep
      rw [← Option.some.inj hstep.2]
      exact hpreserved.call client payload requestId symbol ih
    | recycle reason =>
      simp only [CwsClient.step, Option.ite_none_right_eq_some] at hstep
      rw [← Option.some.inj hstep.2]
      refine hpreserved.quiet client _ _ _ ih ?_
      rw [queuedCallers, queuedCallers, List.filterMap_append]
      exact List.append_nil _
    | timeout respTx =>
      simp only [CwsClient.step, Option.ite_none_right_eq_some] at hstep
      rw [← Option.some.inj hstep.2]
      exact hpreserved.timeout client respTx ih hallowed hstep.1
    | release =>
      simp only [CwsClient.step, Option.ite_none_left_eq_some] at hstep
      rw [← Option.some.inj hstep.2]
      exact hpreserved.quiet client _ _ _ ih rfl
    | connect token authorized =>
      simp only [CwsClient.step] at hstep
      split at hstep
      · cases hstep
      · rename_i hsession
        rw [Option.ite_none_right_eq_some] at hstep
        rw [← Option.some.inj hstep.2]
        refine hpreserved.connected client _ ih hsession fun session' heq => ?_
        cases authorized
        · cases heq
        · rw [← Option.some.inj heq]
    | receive newGuid error =>
      obtain ⟨session, hsession, hreceive⟩ := Option.bind_eq_some_iff.mp hstep
      exact hpreserved.receive ih hsession hallowed hreceive
    | message message =>
      obtain ⟨session, hsession, heq⟩ := Option.map_eq_some_iff.mp hstep
      rw [← heq]
      exact hpreserved.receiveMessage ih hsession message

/-- The moves that neither take from the queue nor send may be looked at as one. -/
theorem Preserved.of_settling (hstart : I CwsClient.start)
    (hsettling : ∀ client client', I client → Settling client client' → I client')
    (hcall : ∀ client payload requestId symbol, I client → I (client.call payload requestId symbol))
    (htimeout : ∀ client respTx, I client → allowed client (.timeout respTx) →
      client.waiting respTx = true → I { client with log := client.log ++ [.timedOut respTx] })
    (hsend : ∀ client session command queue newGuid, I client → client.session = some session →
      client.queue = .send command :: queue →
      I (sendPending floatText { client with queue := queue } session command newGuid none)) :
    Preserved floatText allowed I where
  start := hstart
  quiet client _ _ _ hclient hqueue :=
    hsettling client _ hclient (.of_eq rfl hqueue (List.Subset.refl _) rfl)
  call := hcall
  timeout := htimeout
  connected client session hclient _ hempty := by
    refine hsettling client _ hclient (.of_eq rfl rfl ?_ rfl)
    cases session with
    | none => exact List.nil_subset _
    | some session =>
      rw [requests_of_session rfl, CwsSession.requests, hempty session rfl]
      exact List.nil_subset _
  send := hsend
  resolve client _ _ _ value hclient hsession _ _ hlookup :=
    hsettling client _ hclient (settling_resolvePending value hsession hlookup)
  fail client _ failure hclient hsession :=
    hsettling client _ hclient (settling_handleTransportFailure failure hsession)
  abandon client _ exit _ _ hclient hsession _ _ :=
    hsettling client _ hclient (settling_abandonSession exit hsession)

/-! ### The numbers of the callers -/

/-- Every caller has one command, which is in the queue or was sent. -/
structure Numbered (client : CwsClient) : Prop where
  nodup : (queuedCallers client.queue ++ sentCallers client.log).Nodup
  lt : ∀ caller ∈ queuedCallers client.queue ++ sentCallers client.log, caller < client.calls
  pending : ∀ request ∈ client.requests, request.respTx ∈ sentCallers client.log

theorem sentCallers_sendPending (session : CwsSession) (command : CwsCommand) (newGuid : String) :
    sentCallers (sendPending floatText client session command newGuid none).log =
      sentCallers client.log ++ [command.respTx] := by
  have hreplaced : ∀ replaced : Option PendingRequest,
      sentCallers (replaced.toList.map CwsEvent.replaced) = [] := by
    intro replaced
    cases replaced <;> rfl
  simp only [sendPending, sentCallers_append, hreplaced, List.nil_append]
  rfl

variable {command : CwsCommand}

theorem mem_requests_sendPending (client : CwsClient) {newGuid : String}
    (h : client.session = some session)
    (hmem : request ∈ (sendPending floatText client session command newGuid none).requests) :
    request.respTx = command.respTx ∨ request ∈ client.requests := by
  rw [requests_of_session h]
  exact (mem_requests_insert hmem).imp_left fun heq => by rw [heq]; rfl

theorem numbered_start : Numbered start :=
  ⟨List.nodup_nil, fun _ hmem => absurd hmem List.not_mem_nil,
    fun _ hmem => absurd hmem List.not_mem_nil⟩

theorem Numbered.settling (h : Numbered client) (hsettling : Settling client client') :
    Numbered client' := by
  obtain ⟨new, hlog, hnew, -⟩ := hsettling.log
  have hsent : sentCallers client'.log = sentCallers client.log := by
    rw [hlog, sentCallers_append, sentCallers_eq_nil hnew, List.append_nil]
  refine ⟨?_, ?_, fun request hmem => ?_⟩
  · rw [hsettling.queue, hsent]
    exact h.nodup
  · rw [hsettling.queue, hsent, hsettling.calls]
    exact h.lt
  · rw [hsent]
    exact h.pending request (hsettling.requests hmem)

theorem Numbered.answer {event : CwsEvent} {calls : ℕ} (h : Numbered client)
    (hevent : event.sentCaller? = none) (hcalls : client.calls ≤ calls) :
    Numbered { client with calls := calls, log := client.log ++ [event] } := by
  have hnil : sentCallers [event] = [] := by
    refine sentCallers_eq_nil fun event' hmem => ?_
    rwa [List.mem_singleton.mp hmem]
  have hsent : sentCallers (client.log ++ [event]) = sentCallers client.log := by
    rw [sentCallers_append, hnil, List.append_nil]
  refine ⟨?_, fun caller hmem => ?_, fun request hmem => ?_⟩
  · rw [hsent]
    exact h.nodup
  · rw [hsent] at hmem
    exact lt_of_lt_of_le (h.lt caller hmem) hcalls
  · rw [hsent]
    exact h.pending request hmem

theorem queuedCallers_push (queue : List SessionCommand) (command : CwsCommand) :
    queuedCallers (queue ++ [.send command]) = queuedCallers queue ++ [command.respTx] :=
  List.filterMap_append

theorem Numbered.call (h : Numbered client) (payload : Json) (requestId symbol : Option String) :
    Numbered (client.call payload requestId symbol) := by
  unfold CwsClient.call
  split
  · have hfresh : client.calls ∉ queuedCallers client.queue ++ sentCallers client.log :=
      fun hmem => absurd (h.lt _ hmem) (lt_irrefl _)
    have hperm : (queuedCallers (client.queue ++
        [.send ⟨payload, requestId, symbol, client.calls⟩]) ++ sentCallers client.log).Perm
        (client.calls :: (queuedCallers client.queue ++ sentCallers client.log)) := by
      rw [queuedCallers_push, List.append_assoc]
      exact List.perm_middle
    refine ⟨?_, fun caller hmem => ?_, h.pending⟩
    · rw [hperm.nodup_iff]
      exact List.nodup_cons.mpr ⟨hfresh, h.nodup⟩
    · rcases List.mem_cons.mp (hperm.mem_iff.mp hmem) with rfl | hmem
      · exact Nat.lt_succ_self _
      · exact Nat.lt_succ_of_lt (h.lt _ hmem)
  · exact h.answer rfl (Nat.le_succ _)

variable {queue : List SessionCommand}

theorem Numbered.sendPending (h : Numbered client) (hsession : client.session = some session)
    (hqueue : client.queue = .send command :: queue) (newGuid : String) :
    Numbered (sendPending floatText { client with queue := queue } session command newGuid none) := by
  have hperm : (queuedCallers queue ++
      sentCallers (CwsClient.sendPending floatText { client with queue := queue } session command
        newGuid none).log).Perm (queuedCallers client.queue ++ sentCallers client.log) := by
    rw [sentCallers_sendPending, hqueue, ← List.append_assoc]
    exact List.perm_append_singleton _ _
  refine ⟨?_, fun caller hmem => ?_, fun request hmem => ?_⟩
  · exact hperm.nodup_iff.mpr h.nodup
  · exact h.lt caller (hperm.mem_iff.mp hmem)
  · rw [sentCallers_sendPending, List.mem_append]
    rcases mem_requests_sendPending { client with queue := queue } hsession hmem with
      heq | hold
    · rw [heq]
      exact .inr (List.mem_singleton_self _)
    · exact .inl (h.pending request hold)

/-! ### Commands that are sent on time -/

def SendsOnTime (log : List CwsEvent) : Prop := EachAfter CwsEvent.InTime log

theorem SendsOnTime.append (h : SendsOnTime log) (hnew : ∀ event ∈ new, event.sentCaller? = none) :
    SendsOnTime (log ++ new) := by
  refine EachAfter.append h fun event hmem before => ?_
  cases event with
  | sent request payload => exact absurd (hnew _ hmem) (Option.some_ne_none _)
  | _ => exact trivial

/-- The callers of the queue have no answer. -/
structure OnTime (client : CwsClient) : Prop where
  numbered : Numbered client
  answered : ∀ event ∈ client.log, ∀ caller, event.answers caller = true → caller < client.calls
  queued : ∀ caller ∈ queuedCallers client.queue, ∀ event ∈ client.log,
    event.answers caller = false
  sends : SendsOnTime client.log

/-- A caller of a pending request has no command in the queue. -/
theorem Numbered.notMem_queued {caller : ℕ} (h : Numbered client)
    (hpending : caller ∈ client.requests.map PendingRequest.respTx) :
    caller ∉ queuedCallers client.queue := by
  obtain ⟨request, hmem, rfl⟩ := List.mem_map.mp hpending
  intro hqueued
  exact (List.nodup_append.mp h.nodup).2.2 _ hqueued _ (h.pending request hmem) rfl

theorem OnTime.settling (h : OnTime client) (hsettling : Settling client client') :
    OnTime client' := by
  obtain ⟨new, hlog, hnew, hanswers⟩ := hsettling.log
  refine ⟨h.numbered.settling hsettling, fun event hmem caller hcaller => ?_,
    fun caller hqueued event hmem => ?_, ?_⟩
  · rw [hsettling.calls]
    rw [hlog] at hmem
    rcases List.mem_append.mp hmem with hmem | hmem
    · exact h.answered event hmem caller hcaller
    · obtain ⟨request, hrequest, rfl⟩ := List.mem_map.mp (hanswers event hmem caller hcaller)
      exact h.numbered.lt _ (List.mem_append_right _ (h.numbered.pending request hrequest))
  · rw [hsettling.queue] at hqueued
    rw [hlog] at hmem
    rcases List.mem_append.mp hmem with hmem | hmem
    · exact h.queued caller hqueued event hmem
    · rw [Bool.eq_false_iff]
      exact fun hcaller => h.numbered.notMem_queued (hanswers event hmem caller hcaller) hqueued
  · rw [hlog]
    exact h.sends.append hnew

theorem OnTime.call (h : OnTime client) (payload : Json) (requestId symbol : Option String) :
    OnTime (client.call payload requestId symbol) := by
  have hnumbered := h.numbered.call payload requestId symbol
  unfold CwsClient.call at *
  split at hnumbered
  · rename_i halive
    rw [if_pos halive]
    refine ⟨hnumbered, fun event hmem caller hcaller => ?_, fun caller hqueued event hmem => ?_,
      h.sends⟩
    · exact Nat.lt_succ_of_lt (h.answered event hmem caller hcaller)
    -- the new caller has the next number, so no event answers it
    · rw [queuedCallers_push, List.mem_append, List.mem_singleton] at hqueued
      rcases hqueued with hqueued | rfl
      · exact h.queued caller hqueued event hmem
      · rw [Bool.eq_false_iff]
        exact fun hcaller => absurd (h.answered event hmem _ hcaller) (lt_irrefl _)
  -- without a loop the call fails at once
  · rename_i halive
    rw [if_neg halive]
    refine ⟨hnumbered, fun event hmem caller hcaller => ?_, fun caller hqueued event hmem => ?_,
      h.sends.append ?_⟩
    · rcases List.mem_append.mp hmem with hmem | hmem
      · exact Nat.lt_succ_of_lt (h.answered event hmem caller hcaller)
      · rw [List.mem_singleton.mp hmem] at hcaller
        rw [← beq_iff_eq.mp hcaller]
        exact Nat.lt_succ_self _
    · rcases List.mem_append.mp hmem with hmem | hmem
      · exact h.queued caller hqueued event hmem
      · rw [List.mem_singleton.mp hmem, Bool.eq_false_iff]
        -- those that wait have lower numbers
        intro hcaller
        have hlt := h.numbered.lt caller (List.mem_append_left _ hqueued)
        rw [← beq_iff_eq.mp hcaller] at hlt
        exact lt_irrefl _ hlt
    · intro event hmem
      rw [List.mem_singleton.mp hmem]
      rfl

/-- A caller that stops waiting for a command that was sent. -/
theorem OnTime.timeout {respTx : ℕ} (h : OnTime client)
    (hqueued : respTx ∉ queuedCallers client.queue) (hwaiting : client.waiting respTx = true) :
    OnTime { client with log := client.log ++ [.timedOut respTx] } := by
  refine ⟨h.numbered.answer rfl (le_refl _), fun event hmem caller hcaller => ?_,
    fun caller hcaller event hmem => ?_, h.sends.append ?_⟩
  · rcases List.mem_append.mp hmem with hmem | hmem
    · exact h.answered event hmem caller hcaller
    · rw [List.mem_singleton.mp hmem] at hcaller
      rw [← beq_iff_eq.mp hcaller]
      exact of_decide_eq_true (Bool.and_eq_true_iff.mp hwaiting).1
  · rcases List.mem_append.mp hmem with hmem | hmem
    · exact h.queued caller hcaller event hmem
    · rw [List.mem_singleton.mp hmem, Bool.eq_false_iff]
      intro heq
      rw [beq_iff_eq.mp heq] at hqueued
      exact hqueued hcaller
  · intro event hmem
    rw [List.mem_singleton.mp hmem]
    rfl

theorem OnTime.sendPending (h : OnTime client) (hsession : client.session = some session)
    (hqueue : client.queue = .send command :: queue) (newGuid : String) :
    OnTime (sendPending floatText { client with queue := queue } session command newGuid none) := by
  have hcallers : queuedCallers client.queue = command.respTx :: queuedCallers queue := by
    rw [hqueue]
    rfl
  -- a request that gives up its guid belongs to another caller, whose command was sent
  have hreplaced : ∀ guid, ∀ event ∈ (session.pending.lookup guid).toList.map CwsEvent.replaced,
      event.sentCaller? = none ∧ ∀ caller, event.answers caller = true →
        caller ∈ client.requests.map PendingRequest.respTx := by
    intro guid event hmem
    obtain ⟨request, hrequest, rfl⟩ := List.mem_map.mp hmem
    refine ⟨rfl, fun caller hcaller => ?_⟩
    rw [requests_of_session hsession]
    exact List.mem_map.mpr ⟨request, mem_requests_of_lookup (Option.mem_toList.mp hrequest),
      beq_iff_eq.mp hcaller⟩
  -- those in the queue stay unanswered
  have hsame : ∀ guid, ∀ caller ∈ queuedCallers client.queue,
      ∀ event ∈ client.log ++ (session.pending.lookup guid).toList.map CwsEvent.replaced,
        event.answers caller = false := by
    intro guid caller hcaller event hmem
    rcases List.mem_append.mp hmem with hmem | hmem
    · exact h.queued caller hcaller event hmem
    · rw [Bool.eq_false_iff]
      exact fun heq => h.numbered.notMem_queued ((hreplaced guid event hmem).2 caller heq) hcaller
  refine ⟨h.numbered.sendPending hsession hqueue newGuid, fun event hmem caller hcaller => ?_,
    fun caller hcaller event hmem => ?_, ?_⟩
  · rcases List.mem_append.mp hmem with hmem | hmem
    · exact h.answered event hmem caller hcaller
    · rcases List.mem_append.mp hmem with hmem | hmem
      · obtain ⟨request, hrequest, rfl⟩ := List.mem_map.mp ((hreplaced _ event hmem).2 caller hcaller)
        exact h.numbered.lt _ (List.mem_append_right _ (h.numbered.pending request hrequest))
      · rw [List.mem_singleton.mp hmem] at hcaller
        cases hcaller
  -- the queue is what it was, less its head
  · have hqueued : caller ∈ queuedCallers client.queue := by
      rw [hcallers]
      exact List.mem_cons_of_mem _ hcaller
    simp only [CwsClient.sendPending, ← List.append_assoc] at hmem
    rcases List.mem_append.mp hmem with hmem | hmem
    · exact hsame _ caller hqueued event hmem
    · rw [List.mem_singleton.mp hmem]
      rfl
  · simp only [CwsClient.sendPending, ← List.append_assoc]
    refine eachAfter_concat.mpr
      ⟨h.sends.append fun event hmem => (hreplaced _ event hmem).1, hsame _ command.respTx ?_⟩
    rw [hcallers]
    exact List.mem_cons_self

/-- A caller stops waiting while its command is still in the queue. -/
def ExpiresQueued (client : CwsClient) : Step → Prop
  | .timeout respTx => respTx ∈ queuedCallers client.queue
  | _ => False

/-- If no caller stops waiting while its command is in the queue, no command is sent after its
caller has its answer. -/
theorem Reached.sendsOnTime
    (h : Reached floatText (fun client step => ¬ client.ExpiresQueued step) client) :
    SendsOnTime client.log := by
  refine OnTime.sends ((Preserved.of_settling ?_ ?_ ?_ ?_ ?_).reached h)
  · exact ⟨numbered_start, fun _ hmem => absurd hmem List.not_mem_nil,
      fun _ hmem => absurd hmem List.not_mem_nil, eachAfter_nil⟩
  · exact fun client client' hclient => hclient.settling
  · exact fun client payload requestId symbol hclient => hclient.call payload requestId symbol
  · exact fun client respTx hclient hexpires => hclient.timeout hexpires
  · exact fun client session command queue newGuid hclient hsession hqueue =>
      hclient.sendPending hsession hqueue newGuid

def limitPayload (guid : String) : Json :=
  .object [("opcode", .string "create:limit"), ("guid", .string guid)]

/-- A caller that stops waiting after its command was sent. -/
theorem sendsOnTime_sent_timeout :
    ∃ client, Reached (fun _ => "") (fun client step => ¬ client.ExpiresQueued step) client ∧
      (0 < client.log.length ∧ client.queue = []) ∧ SendsOnTime client.log := by
  have hreached : Reached (fun _ => "") (fun client step => ¬ client.ExpiresQueued step) _ :=
    .step (.timeout 0)
      (.step (.receive "g" none)
        (.step (.call (limitPayload "r-1") (some "r-1") none)
          (.step (.connect "t" true) .start id rfl) id rfl) id rfl) List.not_mem_nil rfl
  exact ⟨_, hreached, ⟨by decide, rfl⟩, hreached.sendsOnTime⟩

/-- A caller that stops waiting before the client connects: its command is sent afterwards. -/
theorem not_reached_sendsOnTime :
    ¬ ∀ (floatText : ℚ → String) (client : CwsClient),
      Reached floatText (fun _ _ => True) client → SendsOnTime client.log := by
  intro h
  have hreached : Reached (fun _ => "") (fun _ _ => True) _ :=
    .step (.receive "g" none)
      (.step (.connect "t" true)
        (.step (.timeout 0)
          (.step (.call (limitPayload "r-1") (some "r-1") none) .start trivial rfl)
          trivial rfl) trivial rfl) trivial rfl
  have hlate := h _ _ hreached 1 _ rfl (.timedOut 0) List.mem_cons_self
  cases hlate

end CwsClient

end AlorRs.Gateway
