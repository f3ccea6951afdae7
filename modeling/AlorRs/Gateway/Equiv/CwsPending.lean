import AlorRs.Gateway.Equiv.CwsClient

/-!
# Correctness of the pending requests

A request is answered at most once, by a response with its guid or by the failure of its
connection.  When a session ends, every request that is still pending has failed, unless the
session is recycled or its channel is closed (`Reached.pendingSettled`).
-/

namespace AlorRs.Gateway

open History

/-! ### What a log says of the requests -/

def CwsEvent.resolvedCaller? : CwsEvent → Option ℕ
  | .resolved request _ => some request.respTx
  | _ => none

variable (log new : List CwsEvent)

def resolvedCallers : List ℕ := log.filterMap CwsEvent.resolvedCaller?

def CwsEvent.failsRequest : CwsEvent → Bool
  | .resolved _ (.error _) => true
  | _ => false

def openAfter (requests : List PendingRequest) : CwsEvent → List PendingRequest
  | .sent request _ => request :: requests
  | .resolved request _ | .replaced request | .dropped request => requests.erase request
  | .refused _ | .timedOut _ | .exited _ => requests

/-- The requests that were sent and are open: not resolved, replaced or dropped. -/
def openRequests : List PendingRequest := log.foldl openAfter []

/-- What may be delivered to a request: a response with its guid, or a failure with its guid and
request id, of which an ack shows the class and the guid. -/
def PendingRequest.AnsweredBy (request : PendingRequest) : Except CwsError Json → Prop
  | .ok value => classifyInboundCwsMessage value = .requestResponse ∧
      correlationGuidOf value = some request.cwsGuid
  | .error error => ∃ failure, error = .failure failure ∧ failure.cwsGuid = request.cwsGuid ∧
      failure.requestId = request.requestId ∧ ∀ requestId now,
        (buildTransportErrorAck requestId error now).cwsMessage =
          some failure.transport.disconnectKind.asStr ∧
        (buildTransportErrorAck requestId error now).cwsRequestGuid = some request.cwsGuid

/-- A request is resolved after it was sent, by what belongs to it; when a session ends, what was
sent before was resolved, or gave its guid to a later request. -/
def CwsEvent.Settles (before : List CwsEvent) : CwsEvent → Prop
  | .resolved request result =>
    (∃ payload, CwsEvent.sent request payload ∈ before) ∧ request.AnsweredBy result
  | .exited _ => ∀ request payload, CwsEvent.sent request payload ∈ before →
    (∃ result, CwsEvent.resolved request result ∈ before) ∨ CwsEvent.replaced request ∈ before
  | _ => True

/-- The requests of a client are settled: each of them at most once, as its guid says and by the
end of its session, with its failures and the open requests counted. -/
structure PendingSettled (client : CwsClient) : Prop where
  settles : EachAfter CwsEvent.Settles client.log
  once : (resolvedCallers client.log).Nodup
  counted : client.health.pendingFailedTotal =
    min (client.log.countP CwsEvent.failsRequest) (2 ^ 64 - 1)
  count : client.health.pendingCount = (openRequests client.log).length

theorem openRequests_append :
    openRequests (log ++ new) = new.foldl openAfter (openRequests log) := List.foldl_append

theorem resolvedCallers_append :
    resolvedCallers (log ++ new) = resolvedCallers log ++ resolvedCallers new :=
  List.filterMap_append

theorem foldl_openAfter_close {close : PendingRequest → CwsEvent}
    (h : ∀ request requests, openAfter requests (close request) = requests.erase request)
    (requests : List PendingRequest) : (requests.map close).foldl openAfter requests = [] := by
  induction requests with
  | nil => rfl
  | cons request requests ih =>
    rw [List.map_cons, List.foldl_cons, h, List.erase_cons_head]
    exact ih

/-! ### The requests under their guids -/

theorem map_snd_kerase {guid : String} {request : PendingRequest} :
    ∀ {entries : List (Sigma fun _ : String => PendingRequest)},
      (∀ entry ∈ entries, entry.2.cwsGuid = entry.1) → entries.dlookup guid = some request →
      (entries.kerase guid).map Sigma.snd = (entries.map Sigma.snd).erase request
  | [], _, hlookup => by cases hlookup
  | ⟨guid', request'⟩ :: entries, hguids, hlookup => by
    by_cases heq : guid = guid'
    · subst heq
      rw [List.dlookup_cons_eq] at hlookup
      have hhead : (⟨guid, request'⟩ :: entries : List (Sigma fun _ : String => PendingRequest)).kerase
          guid = entries := List.kerase_cons_eq rfl
      rw [hhead, List.map_cons, ← Option.some.inj hlookup, List.erase_cons_head]
    · rw [List.dlookup_cons_ne _ _ heq] at hlookup
      have hmem : (⟨guid, request⟩ : Sigma fun _ : String => PendingRequest) ∈ entries :=
        List.of_mem_dlookup hlookup
      have hne : request' ≠ request := by
        intro hsame
        have hguid := hguids _ (List.mem_cons_of_mem _ hmem)
        have hguid' := hguids _ List.mem_cons_self
        rw [hsame] at hguid'
        exact heq (hguid.symm.trans hguid')
      rw [List.kerase_cons_ne heq, List.map_cons, List.map_cons,
        List.erase_cons_tail (by simpa using hne),
        map_snd_kerase (fun entry hentry => hguids entry (List.mem_cons_of_mem _ hentry)) hlookup]

namespace CwsClient

variable {floatText : ℚ → String} {client client' : CwsClient} {session : CwsSession}

/-- The requests of the client are those that its log leaves open. -/
structure Accounted (client : CwsClient) : Prop where
  numbered : Numbered client
  keyed : ∀ session, client.session = some session →
    ∀ entry ∈ session.pending.entries, entry.2.cwsGuid = entry.1
  open_eq : openRequests client.log = client.requests
  sent : ∀ request ∈ client.requests, ∃ payload, CwsEvent.sent request payload ∈ client.log
  nodup : (resolvedCallers client.log ++ client.requests.map PendingRequest.respTx).Nodup
  resolved : ∀ caller ∈ resolvedCallers client.log, caller ∈ sentCallers client.log
  outcome : ∀ request payload, CwsEvent.sent request payload ∈ client.log →
    request ∈ client.requests ∨ (∃ result, CwsEvent.resolved request result ∈ client.log) ∨
      CwsEvent.replaced request ∈ client.log
  settled : PendingSettled client

theorem accounted_start : Accounted start where
  numbered := numbered_start
  keyed _ h := by cases h
  open_eq := rfl
  sent _ h := absurd h List.not_mem_nil
  nodup := List.nodup_nil
  resolved _ h := absurd h List.not_mem_nil
  outcome _ _ h := absurd h List.not_mem_nil
  settled := ⟨eachAfter_nil, List.nodup_nil, rfl, rfl⟩

variable {new : List CwsEvent}

theorem Accounted.grow (h : Accounted client) (hnumbered : Numbered client')
    (hkeyed : ∀ session, client'.session = some session →
      ∀ entry ∈ session.pending.entries, entry.2.cwsGuid = entry.1)
    (hlog : client'.log = client.log ++ new)
    (hopen : new.foldl openAfter client.requests = client'.requests)
    (hsent : ∀ request ∈ client'.requests,
      request ∈ client.requests ∨ ∃ payload, CwsEvent.sent request payload ∈ new)
    (hnodup : (resolvedCallers client.log ++
      (resolvedCallers new ++ client'.requests.map PendingRequest.respTx)).Nodup)
    (hresolved : ∀ caller ∈ resolvedCallers new, caller ∈ client.requests.map PendingRequest.respTx)
    (hold : ∀ request ∈ client.requests, request ∈ client'.requests ∨
      (∃ result, CwsEvent.resolved request result ∈ new) ∨ CwsEvent.replaced request ∈ new)
    (hnew : ∀ request payload, CwsEvent.sent request payload ∈ new → request ∈ client'.requests)
    (hsettles : EachAfter (fun before => CwsEvent.Settles (client.log ++ before)) new)
    (hfailed : client'.health.pendingFailedTotal =
      min (client.health.pendingFailedTotal + new.countP CwsEvent.failsRequest) (2 ^ 64 - 1))
    (hcount : client'.health.pendingCount = client'.requests.length) : Accounted client' := by
  have hopened : openRequests client'.log = client'.requests := by
    rw [hlog, openRequests_append, h.open_eq, hopen]
  refine ⟨hnumbered, hkeyed, hopened, fun request hmem => ?_, ?_, fun caller hmem => ?_,
    fun request payload hmem => ?_, ?_, ?_, ?_, ?_⟩
  · rw [hlog]
    rcases hsent request hmem with hmem | ⟨payload, hpayload⟩
    · obtain ⟨payload, hpayload⟩ := h.sent request hmem
      exact ⟨payload, List.mem_append_left _ hpayload⟩
    · exact ⟨payload, List.mem_append_right _ hpayload⟩
  · rw [hlog, resolvedCallers_append, List.append_assoc]
    exact hnodup
  · rw [hlog, resolvedCallers_append] at hmem
    rw [hlog, sentCallers_append]
    refine List.mem_append_left _ ?_
    rcases List.mem_append.mp hmem with hmem | hmem
    · exact h.resolved caller hmem
    · obtain ⟨request, hrequest, rfl⟩ := List.mem_map.mp (hresolved caller hmem)
      exact h.numbered.pending request hrequest
  · have hlater : ((∃ result, CwsEvent.resolved request result ∈ new) ∨
        CwsEvent.replaced request ∈ new) → (∃ result, CwsEvent.resolved request result ∈ client'.log) ∨
        CwsEvent.replaced request ∈ client'.log := by
      rw [hlog]
      rintro (⟨result, hresult⟩ | hreplaced)
      · exact .inl ⟨result, List.mem_append_right _ hresult⟩
      · exact .inr (List.mem_append_right _ hreplaced)
    rw [hlog] at hmem
    -- what was sent before may be settled by the new events
    rcases List.mem_append.mp hmem with hmem | hmem
    · rcases h.outcome request payload hmem with hpending | ⟨result, hresult⟩ | hreplaced
      · exact (hold request hpending).imp_right hlater
      · rw [hlog]
        exact .inr (.inl ⟨result, List.mem_append_left _ hresult⟩)
      · rw [hlog]
        exact .inr (.inr (List.mem_append_left _ hreplaced))
    · exact .inl (hnew request payload hmem)
  · rw [hlog]
    exact eachAfter_append.mpr ⟨h.settled.settles, hsettles⟩
  · rw [hlog, resolvedCallers_append]
    rw [← List.append_assoc] at hnodup
    exact (List.nodup_append.mp hnodup).1
  · rw [hfailed, hlog, List.countP_append, h.settled.counted]
    omega
  · rw [hcount, hopened]

theorem Accounted.same (h : Accounted client) (hnumbered : Numbered client')
    (hkeyed : ∀ session, client'.session = some session →
      ∀ entry ∈ session.pending.entries, entry.2.cwsGuid = entry.1)
    (hlog : client'.log = client.log ++ new) (hrequests : client'.requests = client.requests)
    (hfailed : client'.health.pendingFailedTotal = client.health.pendingFailedTotal)
    (hcount : client'.health.pendingCount = client.requests.length)
    (hopen : new.foldl openAfter client.requests = client.requests)
    (hnew : ∀ event ∈ new, event.sentCaller? = none ∧ event.resolvedCaller? = none ∧
      event.failsRequest = false)
    (hsettles : EachAfter (fun before => CwsEvent.Settles (client.log ++ before)) new) :
    Accounted client' := by
  have hresolved : resolvedCallers new = [] :=
    List.filterMap_eq_nil_iff.mpr fun event hmem => (hnew event hmem).2.1
  have hfails : new.countP CwsEvent.failsRequest = 0 := by
    rw [List.countP_eq_zero]
    exact fun event hmem => by rw [(hnew event hmem).2.2]; exact Bool.false_ne_true
  refine h.grow hnumbered hkeyed hlog (by rw [hopen, hrequests]) (fun request hmem => .inl ?_) ?_
    (fun caller hmem => ?_) (fun request hmem => .inl ?_) (fun request payload hmem => ?_) hsettles
    ?_ (by rw [hcount, hrequests])
  · rwa [hrequests] at hmem
  · rw [hresolved, hrequests, List.nil_append]
    exact h.nodup
  · rw [hresolved] at hmem
    exact absurd hmem List.not_mem_nil
  · rwa [hrequests]
  · exact absurd (hnew _ hmem).1 (Option.some_ne_none _)
  · have hcounted := h.settled.counted
    rw [hfailed, hfails]
    omega

theorem Accounted.count (h : Accounted client) :
    client.health.pendingCount = client.requests.length := by
  rw [← h.open_eq]
  exact h.settled.count

variable {queue : List SessionCommand}

theorem Accounted.quiet (h : Accounted client) (handlesAlive loopAlive : Bool)
    (hqueue : queuedCallers queue = queuedCallers client.queue) :
    Accounted { client with handlesAlive := handlesAlive, loopAlive := loopAlive, queue := queue } :=
  h.same (h.numbered.settling (.of_eq rfl hqueue (List.Subset.refl _) rfl)) h.keyed
    (List.append_nil _).symm rfl rfl h.count rfl (fun _ hmem => absurd hmem List.not_mem_nil)
    eachAfter_nil

theorem Accounted.answer {event : CwsEvent} {calls : ℕ} (h : Accounted client)
    (hevent : ∃ respTx, event = .refused respTx ∨ event = .timedOut respTx)
    (hcalls : client.calls ≤ calls) :
    Accounted { client with calls := calls, log := client.log ++ [event] } := by
  have hnew : ∀ event' ∈ [event], event'.sentCaller? = none ∧ event'.resolvedCaller? = none ∧
      event'.failsRequest = false := by
    intro event' hmem
    rw [List.mem_singleton.mp hmem]
    obtain ⟨respTx, rfl | rfl⟩ := hevent
    all_goals exact ⟨rfl, rfl, rfl⟩
  refine h.same (h.numbered.answer (hnew event (List.mem_singleton_self _)).1 hcalls) h.keyed rfl rfl
    rfl h.count ?_ hnew ?_
  · obtain ⟨respTx, rfl | rfl⟩ := hevent
    · rfl
    · rfl
  · obtain ⟨respTx, rfl | rfl⟩ := hevent
    all_goals exact eachAfter_singleton.mpr trivial

theorem Accounted.call (h : Accounted client) (payload : Json) (requestId symbol : Option String) :
    Accounted (client.call payload requestId symbol) := by
  have hnumbered := h.numbered.call payload requestId symbol
  unfold CwsClient.call at *
  split at hnumbered
  · rename_i halive
    rw [if_pos halive]
    exact h.same hnumbered h.keyed (List.append_nil _).symm rfl rfl h.count rfl
      (fun _ hmem => absurd hmem List.not_mem_nil) eachAfter_nil
  · rename_i halive
    rw [if_neg halive]
    exact h.answer ⟨_, .inl rfl⟩ (Nat.le_succ _)

theorem Accounted.connected {session : Option CwsSession} (h : Accounted client)
    (hnone : client.session = none) (hempty : ∀ session', session = some session' →
      session'.pending = ∅) : Accounted (client.connected session) := by
  have hbefore : client.requests = [] := by rw [requests, hnone]
  have hafter : (client.connected session).requests = [] := by
    cases session with
    | none => rfl
    | some session =>
      show session.pending.entries.map Sigma.snd = []
      rw [hempty session rfl]
      rfl
  refine h.same ?_ (fun session' hsession entry hentry => ?_) (List.append_nil _).symm
    (hafter.trans hbefore.symm) rfl (by rw [hbefore]; rfl) rfl
    (fun _ hmem => absurd hmem List.not_mem_nil) eachAfter_nil
  · refine h.numbered.settling (.of_eq rfl rfl ?_ rfl)
    rw [hafter]
    exact List.nil_subset _
  · rw [hempty session' hsession] at hentry
    exact absurd hentry List.not_mem_nil

theorem Accounted.settles_exited (h : Accounted client) (hnone : client.requests = [])
    (exit : SessionExit) : (CwsEvent.exited exit).Settles client.log := by
  intro request payload hmem
  refine (h.outcome request payload hmem).resolve_left ?_
  rw [hnone]
  exact List.not_mem_nil

theorem Accounted.abandon (h : Accounted client) (hsession : client.session = some session)
    (hnone : client.requests = []) (exit : SessionExit) :
    Accounted (client.abandonSession session exit) := by
  have hlog : (client.abandonSession session exit).log = client.log ++ [.exited exit] := by
    rw [abandonSession, ← requests_of_session hsession, hnone]
    rfl
  refine h.same (h.numbered.settling (settling_abandonSession exit hsession))
    (fun _ heq => by cases heq) hlog hnone.symm rfl h.count rfl (fun event hmem => ?_) ?_
  · rw [List.mem_singleton.mp hmem]
    exact ⟨rfl, rfl, rfl⟩
  · rw [eachAfter_singleton, List.append_nil]
    exact h.settles_exited hnone exit

/-- A connection that fails resolves every request that is open. -/
theorem Accounted.fail (h : Accounted client) (hsession : client.session = some session)
    (failure : CwsTransportFailure) : Accounted (client.handleTransportFailure session failure) := by
  -- the failure is logged for each open request, and then the exit
  have hlog : (client.handleTransportFailure session failure).log = client.log ++
      (client.requests.map (failRequest failure) ++ [CwsEvent.exited (.transport failure)]) := by
    rw [requests_of_session hsession]
    rfl
  have hcallers : resolvedCallers (client.requests.map (failRequest failure) ++
      [CwsEvent.exited (.transport failure)]) = client.requests.map PendingRequest.respTx := by
    rw [resolvedCallers_append, resolvedCallers, List.filterMap_map, ← List.filterMap_eq_map]
    exact List.append_nil _
  have hcount : (client.requests.map (failRequest failure) ++
      [CwsEvent.exited (.transport failure)]).countP CwsEvent.failsRequest =
        client.requests.length := by
    have hall : client.requests.countP (CwsEvent.failsRequest ∘ failRequest failure) =
        client.requests.length := List.countP_eq_length.mpr fun _ _ => rfl
    rw [List.countP_append, List.countP_map, hall]
    rfl
  have hnew : ∀ request payload, CwsEvent.sent request payload ∉
      client.requests.map (failRequest failure) := by
    intro request payload hmem
    obtain ⟨_, -, heq⟩ := List.mem_map.mp hmem
    cases heq
  -- each of the failed requests was sent, and is open
  have hsettles : EachAfter (fun before => CwsEvent.Settles (client.log ++ before))
      (client.requests.map (failRequest failure)) := by
    intro i event hi
    obtain ⟨request, hrequest, rfl⟩ := List.mem_map.mp (List.mem_of_getElem? hi)
    obtain ⟨payload, hpayload⟩ := h.sent request hrequest
    exact ⟨⟨payload, List.mem_append_left _ hpayload⟩, _, rfl, rfl, rfl, fun _ _ => ⟨rfl, rfl⟩⟩
  refine h.grow (h.numbered.settling (settling_handleTransportFailure failure hsession))
    (fun _ heq => by cases heq) hlog ?_ (fun _ hmem => absurd hmem List.not_mem_nil) ?_
    (fun caller hmem => ?_) (fun request hmem => ?_) (fun request payload hmem => ?_) ?_ ?_ rfl
  · rw [List.foldl_append, foldl_openAfter_close fun _ _ => rfl]
    rfl
  · rw [hcallers]
    show (resolvedCallers client.log ++ (client.requests.map PendingRequest.respTx ++ [])).Nodup
    rw [List.append_nil]
    exact h.nodup
  · rwa [hcallers] at hmem
  · exact .inr (.inl ⟨_, List.mem_append_left _ (List.mem_map_of_mem hmem)⟩)
  · rcases List.mem_append.mp hmem with hmem | hmem
    · exact absurd hmem (hnew request payload)
    · cases List.mem_singleton.mp hmem
  -- at the exit every request that was sent is settled
  · refine eachAfter_concat.mpr ⟨hsettles, fun request payload hmem => ?_⟩
    have hmem := (List.mem_append.mp hmem).resolve_right (hnew request payload)
    rcases h.outcome request payload hmem with hpending | ⟨result, hresult⟩ | hreplaced
    · exact .inl ⟨_, List.mem_append_right _ (List.mem_map_of_mem hpending)⟩
    · exact .inl ⟨result, List.mem_append_left _ hresult⟩
    · exact .inr (List.mem_append_left _ hreplaced)
  · rw [hcount, requests_of_session hsession]
    rfl

theorem Accounted.resolve {guid : String} {request : PendingRequest} {value : Json}
    (h : Accounted client) (hsession : client.session = some session)
    (hclass : classifyInboundCwsMessage value = .requestResponse)
    (hguid : correlationGuidOf value = some guid)
    (hlookup : session.pending.lookup guid = some request) :
    Accounted (client.resolvePending session guid request value) := by
  have hrequests := requests_of_session hsession
  have hmem : request ∈ client.requests := by
    rw [hrequests]
    exact mem_requests_of_lookup hlookup
  have hkey : request.cwsGuid = guid :=
    h.keyed session hsession ⟨guid, request⟩ (AList.mem_lookup_iff.mp hlookup)
  have hafter : (client.resolvePending session guid request value).requests =
      client.requests.erase request := by
    rw [hrequests]
    exact map_snd_kerase (h.keyed session hsession) hlookup
  -- the open requests are the one that is answered and the rest
  have hperm : (request.respTx :: (client.requests.erase request).map PendingRequest.respTx).Perm
      (client.requests.map PendingRequest.respTx) :=
    ((List.perm_cons_erase hmem).map PendingRequest.respTx).symm
  refine h.grow (h.numbered.settling (settling_resolvePending value hsession hlookup))
    (fun session' heq entry hentry => ?_) rfl hafter.symm (fun other hother => ?_) ?_
    (fun caller hcaller => ?_) (fun other hother => ?_) (fun other payload hother => ?_) ?_ ?_ rfl
  · rw [← Option.some.inj heq] at hentry
    exact h.keyed session hsession entry ((List.kerase_sublist _ _).subset hentry)
  · rw [hafter] at hother
    exact .inl (List.mem_of_mem_erase hother)
  · rw [hafter]
    exact ((List.Perm.refl _).append hperm).nodup_iff.mpr h.nodup
  · rw [List.mem_singleton.mp hcaller]
    exact List.mem_map_of_mem hmem
  · rw [hafter]
    -- another request is kept
    by_cases heq : other = request
    · rw [heq]
      exact .inr (.inl ⟨_, List.mem_singleton_self _⟩)
    · exact .inl ((List.mem_erase_of_ne heq).mpr hother)
  · cases List.mem_singleton.mp hother
  · obtain ⟨payload, hpayload⟩ := h.sent request hmem
    rw [eachAfter_singleton, List.append_nil]
    refine ⟨⟨payload, hpayload⟩, hclass, ?_⟩
    rw [hkey, hguid]
  · have hcounted := h.settled.counted
    show client.health.pendingFailedTotal = min (client.health.pendingFailedTotal + 0) (2 ^ 64 - 1)
    omega

theorem requests_insert {pending : AList fun _ : String => PendingRequest} (guid : String)
    (request : PendingRequest) (hkeyed : ∀ entry ∈ pending.entries, entry.2.cwsGuid = entry.1) :
    (pending.insert guid request).entries.map Sigma.snd =
      request :: ((pending.lookup guid).toList.map CwsEvent.replaced).foldl openAfter
        (pending.entries.map Sigma.snd) := by
  rw [AList.entries_insert, List.map_cons]
  cases hlookup : pending.lookup guid with
  | none =>
    rw [List.kerase_of_notMem_keys]
    · rfl
    · exact AList.lookup_eq_none.mp hlookup
  | some old => rw [map_snd_kerase hkeyed hlookup]; rfl

theorem sendPending_none (floatText : ℚ → String) (client : CwsClient) (session : CwsSession)
    (command : CwsCommand) (newGuid : String) :
    ∃ guid payload, ∃ request : PendingRequest, request.cwsGuid = guid ∧
      request.respTx = command.respTx ∧
      sendPending floatText client session command newGuid none = { client with
          session := some
            { session with pending := session.pending.insert guid request, sendSeq := request.sendSeq }
          health := syncPendingHealth
            { session with pending := session.pending.insert guid request, sendSeq := request.sendSeq }
            client.health
          log := client.log ++ ((session.pending.lookup guid).toList.map CwsEvent.replaced ++
            [CwsEvent.sent request payload]) } := by
  let guid := ((command.payload.get "guid").bind Json.asStr).getD newGuid
  let payload := (command.payload.insertField "guid" (.string guid)).insertField "token"
    (.string session.token)
  exact ⟨guid, payload, pendingRequest floatText session command guid payload, rfl, rfl, rfl⟩

/-- A request that gives up its guid is the only one that is no longer open. -/
theorem foldl_openAfter_replaced (requests : List PendingRequest) (old : Option PendingRequest) :
    ((old.toList.map CwsEvent.replaced).foldl openAfter requests).Sublist requests ∧
      ∀ request ∈ requests, request ∈ (old.toList.map CwsEvent.replaced).foldl openAfter requests ∨
        CwsEvent.replaced request ∈ old.toList.map CwsEvent.replaced := by
  cases old with
  | none => exact ⟨List.Sublist.refl _, fun _ hmem => .inl hmem⟩
  | some old =>
    refine ⟨List.erase_sublist, fun request hmem => ?_⟩
    by_cases heq : request = old
    · rw [heq]
      exact .inr (List.mem_singleton_self _)
    · exact .inl ((List.mem_erase_of_ne heq).mpr hmem)

theorem Accounted.send {command : CwsCommand} (h : Accounted client)
    (hsession : client.session = some session) (hqueue : client.queue = .send command :: queue)
    (newGuid : String) :
    Accounted (sendPending floatText { client with queue := queue } session command newGuid none) := by
  have hnumbered : Numbered
      (sendPending floatText { client with queue := queue } session command newGuid none) :=
    h.numbered.sendPending hsession hqueue newGuid
  obtain ⟨guid, payload, request, hguid, hcaller, heq⟩ :=
    sendPending_none floatText { client with queue := queue } session command newGuid
  rw [heq] at hnumbered ⊢
  have hafter := requests_insert guid request (h.keyed session hsession)
  -- the guid may be taken from a request that is open
  obtain ⟨hsublist, hreplaced⟩ := foldl_openAfter_replaced client.requests
    (session.pending.lookup guid)
  rw [show session.pending.entries.map Sigma.snd = client.requests from
    (requests_of_session hsession).symm] at hafter
  -- the new caller is none of those whose requests were sent before
  have hfresh : command.respTx ∉ sentCallers client.log := by
    intro hmem
    refine (List.nodup_append.mp h.numbered.nodup).2.2 command.respTx ?_ _ hmem rfl
    rw [hqueue]
    exact List.mem_cons_self
  have hresolved : resolvedCallers ((session.pending.lookup guid).toList.map CwsEvent.replaced ++
      [CwsEvent.sent request payload]) = [] := by
    cases session.pending.lookup guid <;> rfl
  have hfails : ((session.pending.lookup guid).toList.map CwsEvent.replaced ++
      [CwsEvent.sent request payload]).countP CwsEvent.failsRequest = 0 := by
    cases session.pending.lookup guid <;> rfl
  refine h.grow hnumbered (fun session' heq' entry hentry => ?_) rfl ?_ (fun other hother => ?_) ?_
    (fun caller hmem => ?_) (fun other hother => ?_) (fun other payload' hother => ?_) ?_ ?_ rfl
  · rw [← Option.some.inj heq'] at hentry
    rcases List.mem_cons.mp hentry with rfl | hentry
    · exact hguid
    · exact h.keyed session hsession entry ((List.kerase_sublist _ _).subset hentry)
  · rw [List.foldl_append]
    exact hafter.symm
  · have hother : other ∈ (session.pending.insert guid request).entries.map Sigma.snd := hother
    rw [hafter] at hother
    rcases List.mem_cons.mp hother with rfl | hother
    · exact .inr ⟨payload, List.mem_append_right _ (List.mem_singleton_self _)⟩
    · exact .inl (hsublist.subset hother)
  · rw [hresolved]
    show (resolvedCallers client.log ++
      ((session.pending.insert guid request).entries.map Sigma.snd).map PendingRequest.respTx).Nodup
    -- the new request comes in front, so its caller has to be new
    rw [hafter, List.map_cons, hcaller, List.perm_middle.nodup_iff, List.nodup_cons]
    refine ⟨fun hmem => hfresh ?_, h.nodup.sublist ((hsublist.map _).append_left _)⟩
    rcases List.mem_append.mp hmem with hmem | hmem
    · exact h.resolved _ hmem
    · obtain ⟨other, hother, heq⟩ := List.mem_map.mp hmem
      rw [← heq]
      exact h.numbered.pending other (hsublist.subset hother)
  · rw [hresolved] at hmem
    exact absurd hmem List.not_mem_nil
  · rcases hreplaced other hother with hother | hother
    · refine .inl ?_
      show other ∈ (session.pending.insert guid request).entries.map Sigma.snd
      rw [hafter]
      exact List.mem_cons_of_mem _ hother
    · exact .inr (.inr (List.mem_append_left _ hother))
  · rcases List.mem_append.mp hother with hother | hother
    · obtain ⟨_, -, heq⟩ := List.mem_map.mp hother
      cases heq
    · obtain ⟨rfl, -⟩ := CwsEvent.sent.inj (List.mem_singleton.mp hother)
      exact List.mem_map_of_mem (List.mem_cons_self)
  · refine EachAfter.append (fun i event hi => ?_) fun event hmem before => ?_
    · obtain ⟨_, -, rfl⟩ := List.mem_map.mp (List.mem_of_getElem? hi)
      exact trivial
    · rw [List.mem_singleton.mp hmem]
      exact trivial
  · have hcounted := h.settled.counted
    rw [hfails]
    show client.health.pendingFailedTotal = min (client.health.pendingFailedTotal + 0) (2 ^ 64 - 1)
    omega

/-! ### Runs -/

/-- The session ends with open requests without a failure: it is recycled, or its channel is
closed. -/
def AbandonsPending (client : CwsClient) : Step → Prop
  | .receive _ _ => client.SendsNothing ∧ client.requests ≠ []
  | _ => False

/-- If no session is recycled, and no channel closed, while requests are open, the requests are
settled after every step. -/
theorem Reached.pendingSettled
    (h : Reached floatText (fun client step => ¬ client.AbandonsPending step) client) :
    PendingSettled client := by
  have hpreserved : Preserved floatText (fun client step => ¬ client.AbandonsPending step)
      Accounted :=
    { start := accounted_start
      quiet := fun client handlesAlive loopAlive queue hclient hqueue =>
        hclient.quiet handlesAlive loopAlive hqueue
      call := fun client payload requestId symbol hclient => hclient.call payload requestId symbol
      timeout := fun client respTx hclient _ _ => hclient.answer ⟨respTx, .inr rfl⟩ (le_refl _)
      connected := fun client session hclient => hclient.connected
      send := fun client session command queue newGuid hclient hsession hqueue =>
        hclient.send hsession hqueue newGuid
      resolve := fun client session guid request value hclient => hclient.resolve
      fail := fun client session failure hclient hsession => hclient.fail hsession failure
      abandon := fun client session exit newGuid error hclient hsession hkeeps hnothing => by
        refine hclient.abandon hsession ?_ exit
        by_contra hpending
        exact hkeeps ⟨hnothing, hpending⟩ }
  exact (hpreserved.reached h).settled

/-- A response and a broken connection: of two requests, one is answered and one fails. -/
theorem pendingSettled_answered_failed :
    ∃ client, Reached (fun _ => "") (fun client step => ¬ client.AbandonsPending step) client ∧
      client.health.pendingFailedTotal = 1 ∧ PendingSettled client := by
  have hreached : Reached (fun _ => "") (fun client step => ¬ client.AbandonsPending step) _ :=
    .step (.message .eof)
      (.step (.message (.text (some (.object
          [("requestGuid", .string "r-1"), ("httpCode", .number (.posInt 200))]))))
        (.step (.receive "g" none)
          (.step (.receive "g" none)
            (.step (.call (limitPayload "r-2") (some "r-2") none)
              (.step (.call (limitPayload "r-1") (some "r-1") none)
                (.step (.connect "t" true) .start id rfl) id rfl) id rfl)
            (fun h => h.1 _ _ rfl) rfl)
          (fun h => h.1 _ _ rfl) rfl) id rfl) id rfl
  exact ⟨_, hreached, rfl, hreached.pendingSettled⟩

/-- A recycled session leaves its request without an answer and uncounted. -/
theorem not_reached_pendingSettled :
    ¬ ∀ (floatText : ℚ → String) (client : CwsClient),
      Reached floatText (fun _ _ => True) client → PendingSettled client := by
  intro h
  have hreached : Reached (fun _ => "") (fun _ _ => True) _ :=
    .step (.receive "g" none)
      (.step (.receive "g" none)
        (.step (.recycle "control_path_stale")
          (.step (.call (limitPayload "r-1") (some "r-1") none)
            (.step (.connect "t" true) .start trivial rfl) trivial rfl) trivial rfl)
        trivial rfl) trivial rfl
  have hexit := (h _ _ hreached).settles 1 _ rfl _ _ List.mem_cons_self
  rcases hexit with ⟨result, hresolved⟩ | hreplaced
  · cases List.mem_singleton.mp hresolved
  · cases List.mem_singleton.mp hreplaced

end CwsClient

end AlorRs.Gateway
