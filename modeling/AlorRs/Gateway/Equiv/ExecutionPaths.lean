import AlorRs.Gateway.Equiv.CwsClient
import AlorRs.Gateway.ExecutionPaths
import Std.Data.String.ToInt

/-!
# Correctness of the two execution paths

The long-lived connection and a connection for one command send the same order.  They
acknowledge it alike if and only if the first text at which the reader of the second connection
stops, which may be no JSON or a domain event with the guid, answers like the response
(`executions_agree_iff`).
-/

namespace AlorRs.Gateway

/-! ### Texts -/

def guidFields : List String := ["requestGuid", "guid", "correlationGuid"]

/-- Two frames that differ in their guids only, and carry the guids of the two paths in the same
fields. -/
structure SameFrame (guid guid' : String) (value value' : Json) : Prop where
  other : ∀ name, name ∉ guidFields → value'.get name = value.get name
  present : ∀ name ∈ guidFields, (value'.get name).isSome = (value.get name).isSome
  text : ∀ name ∈ guidFields,
    ((value'.get name).bind Json.asStr).isSome = ((value.get name).bind Json.asStr).isSome
  guid : ∀ name ∈ guidFields, (value'.get name).bind Json.asStr = some guid' ↔
    (value.get name).bind Json.asStr = some guid

inductive SameText (parse : String → Option Json) (guid guid' : String) : String → String → Prop
  | noJson {text text' : String} :
    parse text = none → parse text' = none → SameText parse guid guid' text text'
  | frame {text text' : String} {value value' : Json} :
    parse text = some value → parse text' = some value' → SameFrame guid guid' value value' →
      SameText parse guid guid' text text'

variable (parse : String → Option Json)

/-- The text is a response with the guid, as `classify_inbound_cws_message` and
`correlation_guid_of` see it. -/
def isResponse (guid text : String) : Bool :=
  (parse text).any fun value =>
    classifyInboundCwsMessage value = .requestResponse && correlationGuidOf value = some guid

variable {text : String}

theorem isResponse_iff {parse : String → Option Json} {guid : String} :
    isResponse parse guid text = true ↔ ∃ response, parse text = some response ∧
      classifyInboundCwsMessage response = .requestResponse ∧
      correlationGuidOf response = some guid := by
  rw [isResponse, Option.any_eq_true]
  simp only [Bool.and_eq_true, decide_eq_true_eq]

/-- The text is no JSON, or a frame whose first guid field has the guid. -/
def stopsReader (guid text : String) : Bool :=
  (parse text).all fun value => ActionScope.responseGuid value = guid

/-- What an ack takes over from a frame: its http code, of which none and a negative one count as
zero, and its order ids. -/
def frameAnswer (value : Json) : ℤ × Option ℤ × Option String :=
  let info := parseCwsResponse value
  (max 0 (info.httpCode.getD 0), info.orderId, info.orderIdStr.or (info.orderId.map toString))

/-- What an ack takes over from the first text of a kind, which is nothing if there is none or if
it is no JSON. -/
def firstAnswer (kind : String → Bool) (texts : List String) : ℤ × Option ℤ × Option String :=
  (((texts.find? kind).bind parse).map frameAnswer).getD (0, none, none)

/-- The first text at which the reader stops answers like the first response. -/
def StopsAlike (guid : String) (texts : List String) : Prop :=
  firstAnswer parse (stopsReader parse guid) texts = firstAnswer parse (isResponse parse guid) texts

/-! ### Frames that differ in their guids -/

section SameFrame

variable {guid guid' : String} {value value' : Json}

theorem SameFrame.getFirst (h : SameFrame guid guid' value value') {names : List String}
    (hnames : ∀ name ∈ names, name ∉ guidFields) : value'.getFirst names = value.getFirst names := by
  induction names with
  | nil => rfl
  | cons name names ih =>
    have htail := ih fun name' hmem => hnames name' (List.mem_cons_of_mem _ hmem)
    unfold Json.getFirst at htail ⊢
    rw [List.findSome?_cons, List.findSome?_cons, htail, h.other name (hnames name List.mem_cons_self)]

theorem SameFrame.classifyInboundCwsMessage (h : SameFrame guid guid' value value') :
    classifyInboundCwsMessage value' = classifyInboundCwsMessage value := by
  have hpresent := h.present "requestGuid" (by decide)
  have hother : ∀ name, name ∉ guidFields → value'.get name = value.get name := h.other
  unfold Gateway.classifyInboundCwsMessage
  simp only [hpresent, hother "httpCode" (by decide), hother "status" (by decide),
    hother "cwsAuthorized" (by decide), hother "cws_authorized" (by decide),
    hother "orderId" (by decide), hother "orderNumber" (by decide), hother "data" (by decide),
    hother "event" (by decide), hother "type" (by decide), hother "code" (by decide)]

theorem SameFrame.correlationGuidOf (h : SameFrame guid guid' value value') :
    correlationGuidOf value' = some guid' ↔ correlationGuidOf value = some guid := by
  have htext := h.text "requestGuid" (by decide)
  have hrequest := h.guid "requestGuid" (by decide)
  have hguid := h.guid "guid" (by decide)
  unfold Gateway.correlationGuidOf
  cases hold : (value.get "requestGuid").bind Json.asStr with
  | none =>
    rw [hold, Option.isSome_none, Option.isSome_eq_false_iff, Option.isNone_iff_eq_none] at htext
    rw [htext, Option.none_or, Option.none_or]
    exact hguid
  | some text =>
    rw [hold, Option.isSome_some] at htext
    obtain ⟨text', htext'⟩ := Option.isSome_iff_exists.mp htext
    rw [hold, htext'] at hrequest
    rw [htext', Option.some_or, Option.some_or]
    exact hrequest

theorem SameFrame.frameAnswer (h : SameFrame guid guid' value value') :
    frameAnswer value' = frameAnswer value := by
  have hcode := h.other "httpCode" (by decide)
  have hdata := h.other "data" (by decide)
  have horder : value'.getFirst ["orderNumber", "orderId"] = value.getFirst ["orderNumber", "orderId"] :=
    h.getFirst (by decide)
  simp only [Gateway.frameAnswer, parseCwsResponse, extractOrder, hcode, hdata, horder]

end SameFrame

section SameText

variable {parse : String → Option Json} {guid guid' : String} {text text' : String}
  {texts texts' : List String}

theorem SameText.isResponse (h : SameText parse guid guid' text text') :
    isResponse parse guid' text' = isResponse parse guid text := by
  unfold Gateway.isResponse
  cases h with
  | noJson htext htext' =>
    rw [htext, htext']
    rfl
  | frame htext htext' hsame =>
    rw [htext, htext', Option.any_some, Option.any_some, hsame.classifyInboundCwsMessage,
      decide_eq_decide.mpr hsame.correlationGuidOf]

/-- Both paths see the same first response. -/
theorem firstAnswer_isResponse (h : List.Forall₂ (SameText parse guid guid') texts texts') :
    firstAnswer parse (isResponse parse guid') texts' =
      firstAnswer parse (isResponse parse guid) texts := by
  induction h with
  | nil => rfl
  | @cons text text' texts texts' hsame _ ih =>
    unfold firstAnswer at ih ⊢
    rw [List.find?_cons, List.find?_cons, hsame.isResponse]
    cases hresponse : Gateway.isResponse parse guid text with
    | false => exact ih
    | true =>
      cases hsame with
      | noJson htext htext' =>
        rw [Gateway.isResponse, htext] at hresponse
        cases hresponse
      | frame htext htext' hsame =>
        show ((parse text').map frameAnswer).getD _ = ((parse text).map frameAnswer).getD _
        rw [htext, htext', Option.map_some, Option.map_some, hsame.frameAnswer]

end SameText

/-! ### Acks -/

/-- The acks have the same status, order ids and error code. -/
structure AcksAgree (ack ack' : CommandAck) : Prop where
  status : ack'.status = ack.status
  brokerOrderId : ack'.brokerOrderId = ack.brokerOrderId
  brokerOrderIdStr : ack'.brokerOrderIdStr = ack.brokerOrderIdStr
  errorCode : ack'.errorCode = ack.errorCode

def resultAnswer : Except CwsError Json → ℤ × Option ℤ × Option String
  | .ok response => frameAnswer response
  | .error _ => (0, none, none)

def codeStatus (code : ℤ) : AckStatus × Option String :=
  if code = 200 then (.accepted, none)
  else if 0 < code then (.rejected, some ("cws_http_" ++ toString code))
  else (.error, some "cws_error")

theorem codeStatus_max (code : ℤ) : codeStatus (max 0 code) = codeStatus code := by
  rcases le_total code 0 with hle | hle
  · rw [max_eq_left hle]
    have hne : ¬ code = 200 := by omega
    have hpos : ¬ 0 < code := by omega
    unfold codeStatus
    rw [if_neg hne, if_neg hpos]
    rfl
  · rw [max_eq_right hle]

theorem codeStatus_injective {code code' : ℤ} (hcode : 0 ≤ code) (hcode' : 0 ≤ code')
    (h : codeStatus code = codeStatus code') : code = code' := by
  unfold codeStatus at h
  split_ifs at h with h₁ h₂ h₃ h₄ h₅ h₆
  · omega
  · cases (Prod.mk.inj h).1
  · cases (Prod.mk.inj h).1
  · cases (Prod.mk.inj h).1
  · have htext := Option.some.inj (Prod.mk.inj h).2
    exact Int.repr_injective ((String.append_right_inj _).mp htext)
  · cases (Prod.mk.inj h).1
  · cases (Prod.mk.inj h).1
  · cases (Prod.mk.inj h).1
  · omega

theorem executionAck_eq (requestId : Uuid) (result : Except CwsError Json) (now : ℤ) :
    let ack := executionAck requestId result now
    (ack.status, ack.errorCode) = codeStatus (resultAnswer result).1 ∧
      (ack.brokerOrderId, ack.brokerOrderIdStr) = (resultAnswer result).2 := by
  cases result with
  | ok response =>
    refine ⟨?_, rfl⟩
    show (_, _) = codeStatus (max 0 ((parseCwsResponse response).httpCode.getD 0))
    rw [codeStatus_max]
    simp only [executionAck, buildCwsAck, classifyResponse, codeStatus]
    split_ifs <;> rfl
  | error error => cases error <;> exact ⟨rfl, rfl⟩

theorem resultAnswer_nonneg (result : Except CwsError Json) : 0 ≤ (resultAnswer result).1 := by
  cases result with
  | ok response => exact le_max_left _ _
  | error error => exact le_refl _

theorem acksAgree_iff (requestId : Uuid) (result result' : Except CwsError Json) (now now' : ℤ) :
    AcksAgree (executionAck requestId result now) (executionAck requestId result' now') ↔
      resultAnswer result' = resultAnswer result := by
  obtain ⟨hstatus, horder⟩ := executionAck_eq requestId result now
  obtain ⟨hstatus', horder'⟩ := executionAck_eq requestId result' now'
  constructor
  · intro h
    rw [h.status, h.errorCode, hstatus] at hstatus'
    rw [h.brokerOrderId, h.brokerOrderIdStr, horder] at horder'
    exact Prod.ext (codeStatus_injective (resultAnswer_nonneg _) (resultAnswer_nonneg _)
      hstatus'.symm) horder'.symm
  · intro h
    rw [h, ← hstatus] at hstatus'
    rw [h, ← horder] at horder'
    exact ⟨(Prod.mk.inj hstatus').1, (Prod.mk.inj horder').1, (Prod.mk.inj horder').2,
      (Prod.mk.inj hstatus').2⟩

/-! ### The reader of a connection for one command -/

theorem resultAnswer_readUntilGuid (guid : String) (texts : List String) (timeout : CwsError) :
    resultAnswer ((ActionScope.readUntilGuid parse guid texts).getD (.error timeout)) =
      firstAnswer parse (stopsReader parse guid) texts := by
  induction texts with
  | nil => rfl
  | cons text texts ih =>
    unfold firstAnswer at ih ⊢
    rw [List.find?_cons, ActionScope.readUntilGuid]
    cases htext : parse text with
    | none =>
      have hstops : stopsReader parse guid text = true := by
        rw [stopsReader, htext]
        rfl
      rw [hstops]
      show _ = (((parse text)).map frameAnswer).getD _
      rw [htext]
      rfl
    | some value =>
      have hstops : stopsReader parse guid text = decide (ActionScope.responseGuid value = guid) := by
        rw [stopsReader, htext]
        rfl
      rw [hstops]
      by_cases hguid : ActionScope.responseGuid value = guid
      · simp only [hguid, if_true, decide_true, Option.getD_some, Option.bind_some, htext,
          Option.map_some]
        rfl
      · simp only [hguid, if_false, decide_false]
        exact ih

/-! ### The long-lived connection -/

def CwsEvent.resultFor? (respTx : ℕ) : CwsEvent → Option (Except CwsError Json)
  | .resolved request result => if request.respTx = respTx then some result else none
  | _ => none

def CwsEvent.payloadFor? (respTx : ℕ) : CwsEvent → Option Json
  | .sent request payload => if request.respTx = respTx then some payload else none
  | _ => none

def resultFor (respTx : ℕ) (log : List CwsEvent) : Option (Except CwsError Json) :=
  log.findSome? (CwsEvent.resultFor? respTx)

def payloadFor (respTx : ℕ) (log : List CwsEvent) : Option Json :=
  log.findSome? (CwsEvent.payloadFor? respTx)

variable {log : List CwsEvent} (new : List CwsEvent) {respTx : ℕ}

theorem resultFor_append (h : resultFor respTx log = none) :
    resultFor respTx (log ++ new) = resultFor respTx new := by
  unfold resultFor at h ⊢
  rw [List.findSome?_append, h, Option.none_or]

theorem resultFor_append_some {result : Except CwsError Json}
    (h : resultFor respTx log = some result) : resultFor respTx (log ++ new) = some result := by
  unfold resultFor at h ⊢
  rw [List.findSome?_append, h, Option.some_or]

theorem payloadFor_append_some {payload : Json} (h : payloadFor respTx log = some payload) :
    payloadFor respTx (log ++ new) = some payload := by
  unfold payloadFor at h ⊢
  rw [List.findSome?_append, h, Option.some_or]

namespace CwsClient

variable (floatText : ℚ → String) {parse : String → Option Json} {client : CwsClient}
  {session : CwsSession} {guid : String} {respTx : ℕ}

def receiveTexts (floatText : ℚ → String) (parse : String → Option Json) (client : CwsClient)
    (texts : List String) : Option CwsClient :=
  texts.foldlM (fun client text => client.step floatText (.message (.text (parse text)))) client

/-- The request of a caller is pending under a guid, and no other request is the caller's. -/
structure Awaits (client : CwsClient) (guid : String) (respTx : ℕ) : Prop where
  pending : ∃ session request, client.session = some session ∧
    session.pending.lookup guid = some request ∧ request.respTx = respTx ∧
      ∀ key request', session.pending.lookup key = some request' → request'.respTx = respTx →
        key = guid
  unanswered : resultFor respTx client.log = none

/-- A text answers the request that is pending under its guid, or changes nothing. -/
theorem receiveMessage_text (client : CwsClient) (session : CwsSession) (value : Option Json) :
    client.receiveMessage session (.text value) = client ∨
      ∃ guid request response, value = some response ∧
        classifyInboundCwsMessage response = .requestResponse ∧
        correlationGuidOf response = some guid ∧ session.pending.lookup guid = some request ∧
        client.receiveMessage session (.text value) =
          client.resolvePending session guid request response := by
  cases value with
  | none => exact .inl rfl
  | some response =>
    simp only [receiveMessage]
    split
    · rename_i guid hclass hguid
      split
      · rename_i request hlookup
        exact .inr ⟨guid, request, response, rfl, hclass, hguid, hlookup, rfl⟩
      · exact .inl rfl
    · exact .inl rfl

theorem step_text (h : client.session = some session) (value : Option Json) :
    client.step floatText (.message (.text value)) =
      some (client.receiveMessage session (.text value)) := by
  show Option.map _ client.session = _
  rw [h]
  rfl

/-- Texts neither end the session nor take back what was logged. -/
theorem receiveTexts_grows (parse : String → Option Json) (texts : List String)
    (h : client.session = some session) :
    ∃ client' new, receiveTexts floatText parse client texts = some client' ∧
      client'.log = client.log ++ new := by
  induction texts generalizing client session with
  | nil => exact ⟨client, [], rfl, (List.append_nil _).symm⟩
  | cons text texts ih =>
    unfold receiveTexts at ih ⊢
    rw [List.foldlM_cons, step_text floatText h, Option.bind_eq_bind, Option.bind_some]
    rcases receiveMessage_text client session (parse text) with heq | ⟨_, _, _, -, -, -, -, heq⟩
    · rw [heq]
      exact ih h
    · rw [heq]
      obtain ⟨client', new, hrun, hlog⟩ :=
        ih (show (client.resolvePending session _ _ _).session = some _ from rfl)
      exact ⟨client', _ :: new, hrun, hlog.trans (List.append_assoc _ _ _)⟩

/-- The response to a request answers its caller. -/
theorem Awaits.response (h : Awaits client guid respTx)
    (hresponse : isResponse parse guid text = true) :
    ∃ client' session' response new, parse text = some response ∧
      client.step floatText (.message (.text (parse text))) = some client' ∧
      client'.session = some session' ∧ client'.log = client.log ++ new ∧
      resultFor respTx client'.log = some (.ok response) := by
  obtain ⟨session, request, hsession, hlookup, hcaller, -⟩ := h.pending
  obtain ⟨response, htext, hclass, hguid⟩ := isResponse_iff.mp hresponse
  have hstep : client.step floatText (.message (.text (parse text))) =
      some (client.resolvePending session guid request response) := by
    rw [step_text floatText hsession]
    simp only [htext, receiveMessage, hclass, hguid, hlookup]
  refine ⟨_, _, response, [.resolved request (.ok response)], htext, hstep, rfl, rfl, ?_⟩
  show resultFor respTx (client.log ++ [.resolved request (.ok response)]) = _
  rw [resultFor_append _ h.unanswered, resultFor, List.findSome?_cons, CwsEvent.resultFor?,
    if_pos hcaller]

/-- Any other text leaves the request pending. -/
theorem Awaits.other (h : Awaits client guid respTx)
    (hresponse : isResponse parse guid text = false) :
    ∃ client' new, client.step floatText (.message (.text (parse text))) = some client' ∧
      client'.log = client.log ++ new ∧ Awaits client' guid respTx := by
  obtain ⟨session, request, hsession, hlookup, hcaller, honly⟩ := h.pending
  have hstep := step_text floatText hsession (parse text)
  -- the text answers nobody, or the request of another guid
  rcases receiveMessage_text client session (parse text) with
    heq | ⟨guid', request', response, htext, hclass, hguid, hlookup', heq⟩
  · rw [heq] at hstep
    exact ⟨client, [], hstep, (List.append_nil _).symm, h⟩
  · rw [heq] at hstep
    have hne : guid ≠ guid' := by
      intro hsame
      rw [isResponse_iff.mpr ⟨response, htext, hclass, hsame ▸ hguid⟩] at hresponse
      cases hresponse
    -- no two pending requests are of one caller
    have hother : ¬ request'.respTx = respTx :=
      fun hsame => hne (honly guid' request' hlookup' hsame).symm
    refine ⟨_, [.resolved request' (.ok response)], hstep, rfl,
      ⟨⟨_, request, rfl, ?_, hcaller, fun key request'' hkey => ?_⟩, ?_⟩⟩
    · rw [AList.lookup_erase_ne hne]
      exact hlookup
    -- the entry of another guid stays where it was
    · have hkept : key ≠ guid' := by
        intro hsame
        rw [hsame, AList.lookup_erase] at hkey
        cases hkey
      rw [AList.lookup_erase_ne hkept] at hkey
      exact honly key request'' hkey
    · show resultFor respTx (client.log ++ [.resolved request' (.ok response)]) = none
      rw [resultFor_append _ h.unanswered, resultFor, List.findSome?_cons, CwsEvent.resultFor?,
        if_neg hother]
      rfl

/-- The first response answers the caller. -/
theorem Awaits.receiveTexts {texts : List String} (h : Awaits client guid respTx)
    (hfirst : texts.find? (isResponse parse guid) = some text) :
    ∃ client' new response, CwsClient.receiveTexts floatText parse client texts = some client' ∧
      client'.log = client.log ++ new ∧ parse text = some response ∧
      resultFor respTx client'.log = some (.ok response) := by
  induction texts generalizing client with
  | nil => cases hfirst
  | cons text' texts ih =>
    rw [List.find?_cons] at hfirst
    cases hresponse : isResponse parse guid text' with
    | true =>
      rw [hresponse] at hfirst
      rw [← Option.some.inj hfirst]
      -- the texts after it only add to the log
      obtain ⟨client₁, session₁, response, new₁, htext, hstep, hsession, hlog, hanswer⟩ :=
        h.response floatText hresponse
      obtain ⟨client₂, new₂, hrun, hlog₂⟩ :=
        receiveTexts_grows floatText parse texts hsession
      refine ⟨client₂, new₁ ++ new₂, response, ?_, ?_, htext, ?_⟩
      · unfold CwsClient.receiveTexts
        rw [List.foldlM_cons, hstep]
        exact hrun
      · rw [hlog₂, hlog, List.append_assoc]
      · rw [hlog₂]
        exact resultFor_append_some _ hanswer
    | false =>
      rw [hresponse] at hfirst
      obtain ⟨client₁, new₁, hstep, hlog, hawaits⟩ :=
        h.other floatText hresponse
      obtain ⟨client₂, new₂, response, hrun, hlog₂, htext, hanswer⟩ := ih hawaits hfirst
      refine ⟨client₂, new₁ ++ new₂, response, ?_, ?_, htext, hanswer⟩
      · unfold CwsClient.receiveTexts
        rw [List.foldlM_cons, hstep]
        exact hrun
      · rw [hlog₂, hlog, List.append_assoc]

/-! ### The send -/

theorem payloadFor_eq_none (h : respTx ∉ sentCallers log) : payloadFor respTx log = none := by
  refine List.findSome?_eq_none_iff.mpr fun event hmem => ?_
  cases event with
  | sent request payload =>
    have hother : ¬ request.respTx = respTx := fun hcaller => h (hcaller ▸ mem_sentCallers hmem)
    rw [CwsEvent.payloadFor?, if_neg hother]
  | _ => rfl

/-- A caller that waits is not answered. -/
theorem resultFor_eq_none (h : client.waiting respTx = true) : resultFor respTx client.log = none := by
  refine List.findSome?_eq_none_iff.mpr fun event hmem => ?_
  have hanswers := List.all_eq_true.mp (Bool.and_eq_true_iff.mp h).2 event hmem
  cases event with
  | resolved request result =>
    have hother : ¬ request.respTx = respTx := by simpa [CwsEvent.answers] using hanswers
    rw [CwsEvent.resultFor?, if_neg hother]
  | _ => rfl

/-- What a send adds to the log answers nobody, and sends one payload. -/
theorem resultFor_send (old : Option PendingRequest) (request : PendingRequest) (payload : Json)
    (h : request.respTx = respTx) :
    resultFor respTx (old.toList.map .replaced ++ [.sent request payload]) = none ∧
      payloadFor respTx (old.toList.map .replaced ++ [.sent request payload]) = some payload := by
  cases old with
  | none => exact ⟨rfl, by simp [payloadFor, CwsEvent.payloadFor?, h]⟩
  | some old => exact ⟨rfl, by simp [payloadFor, CwsEvent.payloadFor?, List.findSome?_cons, h]⟩

/-- A command that a caller waits for is pending once it is sent. -/
theorem awaits_send {command : CwsCommand} {queue : List SessionCommand} (newGuid : String)
    (h : Numbered client) (hsession : client.session = some session)
    (hqueue : client.queue = .send command :: queue) (hwaits : client.waiting command.respTx = true)
    (hguid : (command.payload.get "guid").bind Json.asStr = some guid) :
    ∃ client', client.step floatText (.receive newGuid none) = some client' ∧
      Awaits client' guid command.respTx ∧
      payloadFor command.respTx client'.log = some ((command.payload.insertField "guid"
        (.string guid)).insertField "token" (.string session.token)) := by
  have hfresh : command.respTx ∉ sentCallers client.log := by
    intro hsent
    have hqueued : command.respTx ∈ queuedCallers client.queue := by
      rw [hqueue]
      exact List.mem_cons_self
    exact (List.nodup_append.mp h.nodup).2.2 _ hqueued _ hsent rfl
  have hstep : client.step floatText (.receive newGuid none) =
      some (sendPending floatText { client with queue := queue } session command newGuid none) := by
    show Option.bind client.session _ = _
    simp only [hsession, Option.bind_some, CwsClient.receive, hqueue]
  simp only [sendPending, hguid, Option.getD_some] at hstep
  refine ⟨_, hstep, ⟨⟨_, _, rfl, AList.lookup_insert _, rfl, fun key request' hlookup hcaller => ?_⟩,
    ?_⟩, ?_⟩
  -- a request under another guid is of a caller who has sent
  · by_contra hne
    rw [AList.lookup_insert_ne hne] at hlookup
    have hpending : request' ∈ client.requests := by
      rw [requests_of_session hsession]
      exact mem_requests_of_lookup hlookup
    exact hfresh (hcaller ▸ h.pending request' hpending)
  · rw [resultFor_append _ (resultFor_eq_none hwaits)]
    exact (resultFor_send _ (pendingRequest floatText session command guid _) _ rfl).1
  · unfold payloadFor
    rw [List.findSome?_append, show client.log.findSome? _ = none from payloadFor_eq_none hfresh,
      Option.none_or]
    exact (resultFor_send _ (pendingRequest floatText session command guid _) _ rfl).2

end CwsClient

/-! ### Payloads -/

def orderFields : List String :=
  ["opcode", "side", "quantity", "price", "instrument", "user", "checkDuplicates"]

theorem Json.get_insertField {value field : Json} {name name' : String} (h : name' ≠ name) :
    (value.insertField name field).get name' = value.get name' := by
  have hfilter : ∀ fields : List (String × Json),
      (fields.filter fun entry => entry.1 ≠ name).lookup name' = fields.lookup name' := by
    intro fields
    induction fields with
    | nil => rfl
    | cons entry fields ih =>
      by_cases hkey : entry.1 = name
      · rw [List.filter_cons_of_neg (by simpa using hkey), ih, List.lookup_cons,
          beq_false_of_ne (hkey ▸ h)]
      · rw [List.filter_cons_of_pos (by simpa using hkey), List.lookup_cons, List.lookup_cons, ih]
  cases value with
  | object fields =>
    show List.lookup name' ((name, field) :: _) = fields.lookup name'
    rw [List.lookup_cons, beq_false_of_ne h]
    exact hfilter fields
  | _ => rfl

def payloadGuid (payload : Json) : String := ((payload.get "guid").bind Json.asStr).getD ""

variable {config : ExecutionConfig} {command : OrderCommand} {payload : Json}

theorem legacyCall_guid (config : ExecutionConfig) (command : OrderCommand) :
    ((legacyCall config command).payload.get "guid").bind Json.asStr =
      some (payloadGuid (legacyCall config command).payload) := by
  unfold payloadGuid legacyCall
  cases command.action <;> rfl

theorem actionScopedPayload_guid (h : actionScopedPayload config command = some payload) :
    (payload.get "guid").bind Json.asStr = some (payloadGuid payload) := by
  simp only [actionScopedPayload] at h
  split at h <;> first | (cases h; done) | (rw [← Option.some.inj h]; rfl)

theorem payloads_agree {newGuid : String} (name : String) (hname : name ∈ orderFields)
    (h : actionScopedPayload { config with newGuid := newGuid } command = some payload) :
    payload.get name = (legacyCall config command).payload.get name := by
  simp only [orderFields, List.mem_cons, List.not_mem_nil, or_false] at hname
  simp only [actionScopedPayload] at h
  simp only [legacyCall]
  split at h
  · rename_i order _
    rw [← Option.some.inj h]
    rcases hname with rfl | rfl | rfl | rfl | rfl | rfl | rfl <;> rfl
  · rename_i order _
    rw [← Option.some.inj h]
    rcases hname with rfl | rfl | rfl | rfl | rfl | rfl | rfl <;> cases order.comment <;> rfl
  · rw [← Option.some.inj h]
    rcases hname with rfl | rfl | rfl | rfl | rfl | rfl | rfl <;> rfl
  · cases h
  · rw [← Option.some.inj h]
    rcases hname with rfl | rfl | rfl | rfl | rfl | rfl | rfl <;> rfl
  · rename_i order _
    rw [← Option.some.inj h]
    rcases hname with rfl | rfl | rfl | rfl | rfl | rfl | rfl <;> cases order.side <;> rfl

/-! ### Executions -/

/-- What a path sent, and how the command is acknowledged. -/
structure Execution where
  sent : Json
  ack : CommandAck

/-- The same is ordered, and acknowledged alike. -/
structure Execution.Agree (execution execution' : Execution) : Prop where
  sent : ∀ name ∈ orderFields, execution'.sent.get name = execution.sent.get name
  ack : AcksAgree execution.ack execution'.ack

/-- A command that is executed on both paths, with what arrives in time on each of them: the
long-lived connection takes it off the queue of its client, and its caller waits; `newGuid` is the
fresh guid of the other path, and `now` and `now'` are the clocks. -/
structure Exchange where
  floatText : ℚ → String
  parse : String → Option Json
  config : ExecutionConfig
  command : OrderCommand
  client : CwsClient
  queue : List SessionCommand
  respTx : ℕ
  texts : List String
  now : ℤ
  newGuid : String
  texts' : List String
  now' : ℤ

namespace Exchange

variable (exchange : Exchange)

def call : CwsCall := legacyCall exchange.config exchange.command

def cwsCommand : CwsCommand where
  payload := exchange.call.payload
  requestId := exchange.call.requestId
  symbol := exchange.call.symbol
  respTx := exchange.respTx

def scopedPayload : Option Json :=
  actionScopedPayload { exchange.config with newGuid := exchange.newGuid } exchange.command

def guid : String := payloadGuid exchange.call.payload

def guid' : String := (exchange.scopedPayload.map payloadGuid).getD ""

def legacyLongLived : Option Execution := do
  let client ← exchange.client.step exchange.floatText (.receive exchange.config.newGuid none)
  let client ← client.receiveTexts exchange.floatText exchange.parse exchange.texts
  let sent ← payloadFor exchange.respTx client.log
  let result ← resultFor exchange.respTx client.log
  return ⟨sent, executionAck exchange.command.requestId result exchange.now⟩

def actionScoped : Option Execution :=
  exchange.scopedPayload.map fun payload =>
    ⟨payload, executionAck exchange.command.requestId
      (ActionScope.sendAndAwaitResponse exchange.parse payload exchange.texts') exchange.now'⟩

def Agree (exchange : Exchange) : Prop :=
  ∃ execution execution', exchange.legacyLongLived = some execution ∧ exchange.actionScoped = some execution' ∧
    execution.Agree execution'

/-- Both paths support the command, its caller waits for it in a run of the client that is
connected, and what arrives is the same but for the guids and has a response. -/
structure Regular (exchange : Exchange) : Prop where
  supported : exchange.scopedPayload.isSome = true
  reached : CwsClient.Reached exchange.floatText (fun _ _ => True) exchange.client
  connected : exchange.client.session.isSome = true
  queued : exchange.client.queue = .send exchange.cwsCommand :: exchange.queue
  waits : exchange.client.waiting exchange.respTx = true
  same : List.Forall₂ (SameText exchange.parse exchange.guid exchange.guid') exchange.texts
    exchange.texts'
  response : exchange.texts.any (isResponse exchange.parse exchange.guid) = true

variable {exchange : Exchange}

/-- The long-lived connection sends the payload of the call, and its caller gets the first
response. -/
theorem Regular.legacyLongLived_eq (h : exchange.Regular) :
    ∃ sent result, exchange.legacyLongLived =
        some ⟨sent, executionAck exchange.command.requestId result exchange.now⟩ ∧
      (∀ name ∈ orderFields, sent.get name = exchange.call.payload.get name) ∧
      resultAnswer result =
        firstAnswer exchange.parse (isResponse exchange.parse exchange.guid) exchange.texts := by
  obtain ⟨session, hsession⟩ := Option.isSome_iff_exists.mp h.connected
  have hnumbered : exchange.client.Numbered := by
    refine CwsClient.Preserved.reached (CwsClient.Preserved.of_settling CwsClient.numbered_start
      (fun _ _ hclient => hclient.settling) (fun _ payload requestId symbol hclient =>
        hclient.call payload requestId symbol) (fun _ _ hclient _ _ => hclient.answer rfl (le_refl _))
      (fun _ _ _ _ newGuid hclient hsession hqueue => hclient.sendPending hsession hqueue newGuid))
      h.reached
  obtain ⟨client, hsend, hawaits, hpayload⟩ := CwsClient.awaits_send exchange.floatText
    exchange.config.newGuid hnumbered hsession h.queued h.waits (legacyCall_guid _ _)
  -- the exchange promises a response among the texts
  have hfind : (exchange.texts.find? (isResponse exchange.parse exchange.guid)).isSome = true :=
    List.find?_isSome.mpr (List.any_eq_true.mp h.response)
  obtain ⟨text, hfirst⟩ := Option.isSome_iff_exists.mp hfind
  obtain ⟨client', new, response, hrun, hlog, htext, hanswer⟩ :=
    hawaits.receiveTexts exchange.floatText hfirst
  have hsent := payloadFor_append_some new hpayload
  rw [← hlog] at hsent
  generalize hpayload' : Json.insertField _ "token" _ = sent at hsent
  refine ⟨sent, .ok response, ?_, fun name hname => ?_, ?_⟩
  · have hsent' : payloadFor exchange.respTx client'.log = some sent := hsent
    have hanswer' : resultFor exchange.respTx client'.log = some (.ok response) := hanswer
    simp only [Exchange.legacyLongLived, hsend, Option.bind_eq_bind, Option.bind_some, hrun, hsent',
      hanswer', Option.pure_def]
  -- the guid and the token are no fields of the order
  · have hguid : name ≠ "guid" := fun heq => absurd (heq ▸ hname) (by decide)
    have htoken : name ≠ "token" := fun heq => absurd (heq ▸ hname) (by decide)
    rw [← hpayload', Json.get_insertField htoken, Json.get_insertField hguid]
    rfl
  · rw [firstAnswer, hfirst, Option.bind_some, htext]
    rfl

/-- The connection for one command sends the same order, and ends with what its reader stops
at. -/
theorem Regular.actionScoped_eq (h : exchange.Regular) :
    ∃ sent result, exchange.actionScoped =
        some ⟨sent, executionAck exchange.command.requestId result exchange.now'⟩ ∧
      (∀ name ∈ orderFields, sent.get name = exchange.call.payload.get name) ∧
      resultAnswer result =
        firstAnswer exchange.parse (stopsReader exchange.parse exchange.guid') exchange.texts' := by
  obtain ⟨payload, hpayload⟩ := Option.isSome_iff_exists.mp h.supported
  have hguid : exchange.guid' = payloadGuid payload := by
    rw [Exchange.guid', hpayload]
    rfl
  refine ⟨payload, ActionScope.sendAndAwaitResponse exchange.parse payload exchange.texts', ?_,
    fun name hname => payloads_agree name hname hpayload, ?_⟩
  · rw [Exchange.actionScoped, hpayload]
    rfl
  · rw [ActionScope.sendAndAwaitResponse, actionScopedPayload_guid hpayload, hguid]
    exact resultAnswer_readUntilGuid _ _ _ _

/-- Both paths order the same and acknowledge it alike if and only if the first text at which the
reader of the second path stops answers like the response. -/
theorem executions_agree_iff (exchange : Exchange) (h : exchange.Regular) :
    exchange.Agree ↔ StopsAlike exchange.parse exchange.guid' exchange.texts' := by
  obtain ⟨sent, result, hlegacy, hsent, hresult⟩ := h.legacyLongLived_eq
  obtain ⟨sent', result', hscoped, hsent', hresult'⟩ := h.actionScoped_eq
  rw [StopsAlike, firstAnswer_isResponse h.same, ← hresult, ← hresult',
    ← acksAgree_iff exchange.command.requestId result result' exchange.now exchange.now']
  constructor
  · rintro ⟨execution, execution', hexecution, hexecution', hagree⟩
    rw [hlegacy] at hexecution
    rw [hscoped] at hexecution'
    have hack := hagree.ack
    rwa [← Option.some.inj hexecution, ← Option.some.inj hexecution'] at hack
  · intro hack
    exact ⟨_, _, hlegacy, hscoped,
      fun name hname => (hsent' name hname).trans (hsent name hname).symm, hack⟩

/-! ### Runs -/

def orderEvent (guid : String) : Json :=
  .object [("guid", .string guid), ("orderId", .string "17")]

def acceptedResponse (guid : String) : Json :=
  .object [("requestGuid", .string guid), ("orderNumber", .string "17"),
    ("httpCode", .number (.posInt 200))]

def orderEventText (guid : String) : String :=
  "\x7b\"guid\":\"" ++ guid ++ "\",\"orderId\":\"17\"\x7d"

def acceptedText (guid : String) : String :=
  "\x7b\"requestGuid\":\"" ++ guid ++ "\",\"orderNumber\":\"17\",\"httpCode\":200\x7d"

def parseSample (text : String) : Option Json :=
  [(orderEventText "r-1", orderEvent "r-1"), (acceptedText "r-1", acceptedResponse "r-1"),
    (orderEventText "g-2", orderEvent "g-2"), (acceptedText "g-2", acceptedResponse "g-2")].lookup
    text

def sampleConfig : ExecutionConfig where
  instrumentGroup := "RFUD"
  priceStep := 1
  volumeStep := 1
  uuidText _ := "r-1"
  newGuid := "g-1"

/-- A limit order, which the long-lived connection sends under its request id. -/
def sampleCommand : OrderCommand where
  requestId := .other 1
  createdTsUtc := 0
  strategyId := "s"
  portfolio := "p"
  exchange := "MOEX"
  symbol := "RIM6"
  action := .place ⟨100, 1, .buy, none⟩
  intentClass := none
  ttlMs := none

/-- An exchange on the limit order: what arrives for each guid. -/
def sample (texts : String → List String) : Exchange where
  floatText _ := ""
  parse := parseSample
  config := sampleConfig
  command := sampleCommand
  client := (CwsClient.start.connected (some ⟨"t", ∅, 0⟩)).call
    (legacyCall sampleConfig sampleCommand).payload (some "r-1") (some "RIM6")
  queue := []
  respTx := 0
  texts := texts "r-1"
  now := 0
  newGuid := "g-2"
  texts' := texts "g-2"
  now' := 0

theorem sameFrame_orderEvent : SameFrame "r-1" "g-2" (orderEvent "r-1") (orderEvent "g-2") where
  other name hname := by
    have hne : name ≠ "guid" := fun heq => hname (heq ▸ by decide)
    simp only [orderEvent, Json.get, List.lookup_cons, beq_false_of_ne hne]
  present := by decide
  text := by decide
  guid := by decide

theorem sameFrame_acceptedResponse :
    SameFrame "r-1" "g-2" (acceptedResponse "r-1") (acceptedResponse "g-2") where
  other name hname := by
    have hne : name ≠ "requestGuid" := fun heq => hname (heq ▸ by decide)
    simp only [acceptedResponse, Json.get, List.lookup_cons, beq_false_of_ne hne]
  present := by decide
  text := by decide
  guid := by decide

theorem sample_regular {texts : String → List String}
    (hsame : List.Forall₂ (SameText parseSample "r-1" "g-2") (texts "r-1") (texts "g-2"))
    (hresponse : (texts "r-1").any (isResponse parseSample "r-1") = true) :
    (sample texts).Regular where
  supported := rfl
  reached := .step (.call _ _ _) (.step (.connect "t" true) .start trivial rfl) trivial rfl
  connected := rfl
  queued := rfl
  waits := rfl
  same := hsame
  response := hresponse

/-- The response comes first, and then an event on the order. -/
theorem executions_agree_response_event :
    (sample fun guid => [acceptedText guid, orderEventText guid]).Regular ∧
      (sample fun guid => [acceptedText guid, orderEventText guid]).Agree := by
  have hregular : (sample fun guid => [acceptedText guid, orderEventText guid]).Regular :=
    sample_regular (.cons (.frame rfl rfl sameFrame_acceptedResponse)
      (.cons (.frame rfl rfl sameFrame_orderEvent) .nil)) rfl
  exact ⟨hregular, (executions_agree_iff _ hregular).mpr rfl⟩

/-- An event on the order comes before the response: the long-lived connection reports the
accepted order, the connection for one command an error. -/
theorem not_executions_agree_event_response : ¬ ∀ exchange : Exchange, exchange.Regular →
    exchange.Agree := by
  intro h
  have hregular : (sample fun guid => [orderEventText guid, acceptedText guid]).Regular :=
    sample_regular (.cons (.frame rfl rfl sameFrame_orderEvent)
      (.cons (.frame rfl rfl sameFrame_acceptedResponse) .nil)) rfl
  obtain ⟨execution, execution', hlegacy, hscoped, hagree⟩ := h _ hregular
  have haccepted : (sample fun guid => [orderEventText guid, acceptedText guid]).legacyLongLived.map
      (fun execution => execution.ack.status) = some .accepted := rfl
  have herror : (sample fun guid => [orderEventText guid, acceptedText guid]).actionScoped.map
      (fun execution => execution.ack.status) = some .error := rfl
  rw [hlegacy] at haccepted
  rw [hscoped] at herror
  have hlegacyStatus : execution.ack.status = .accepted := Option.some.inj haccepted
  have hscopedStatus : execution'.ack.status = .error := Option.some.inj herror
  have hstatus := hagree.ack.status
  rw [hlegacyStatus, hscopedStatus] at hstatus
  cases hstatus

end Exchange

end AlorRs.Gateway
