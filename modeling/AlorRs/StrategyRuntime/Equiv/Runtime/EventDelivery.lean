import AlorRs.StrategyRuntime.Equiv.Runtime.Recovery

/-!
# What becomes of the entries of the streams

The acknowledgment of an entry is the last that its handling does, after its handler or its dead
letter; and an entry that cannot be decoded is dead-lettered and acknowledged where the writes are
taken, so that the next one follows (`keepsEntries`).  This is so for an entry that decodes, and for one
whose envelope is rejected, where it is one of the orders stream or its dead letter is not refused.
-/

namespace AlorRs

open Eff

namespace StrategyRuntime

open RuntimeM RedisTransport

variable {σ P : Type} {env : Env σ P} {s t : StrategyRuntime σ P} {name messageId : String}

/-! ### Handlers acknowledge last -/

/-- The log grows by what a handler does, and then perhaps by the acknowledgment of its entry. -/
def Closes (name messageId : String) (s t : StrategyRuntime σ P) : Prop :=
  ∃ new, (∀ event ∈ new, event.Calling) ∧
    (t.log = s.log ++ new ∨ t.log = s.log ++ (new ++ [.acked name messageId]))

section Closes

theorem Closes.after {u : StrategyRuntime σ P} (h : Extends log HostEvent.Calling s t)
    (h' : Closes name messageId t u) : Closes name messageId s u := by
  obtain ⟨new, hlog, hnew⟩ := h
  obtain ⟨new', hnew', hlog'⟩ := h'
  refine ⟨new ++ new', ?_, ?_⟩
  · intro event hmem
    exact (List.mem_append.mp hmem).elim (hnew event) (hnew' event)
  · simpa only [hlog, List.append_assoc] using hlog'

theorem Closes.of_calling (h : Extends log HostEvent.Calling s t) : Closes name messageId s t :=
  .after h ⟨[], by simp, .inl (by simp)⟩

theorem closes_bind {α : Type} {m : RuntimeM σ P α} {f : α → RuntimeM σ P Unit}
    (hm : Within env (Extends log HostEvent.Calling) m)
    (hf : ∀ a, Within env (Closes name messageId) (f a)) :
    Within env (Closes name messageId) (m >>= f) := by
  intro s
  rw [wp_bind]
  refine wp_mono (hm s) (fun a t ht => ?_) fun _ _ ht => .of_calling ht
  exact wp_mono (hf a t) (fun _ _ hu => hu.after ht) fun _ _ hu => hu.after ht

theorem closes_xack : Within env (Closes (σ := σ) (P := P) name messageId) (xack name messageId) := by
  intro s
  have hacked : Closes name messageId s
      { s with tick := s.tick + 1, log := s.log ++ [.acked name messageId] } :=
    ⟨[], by simp, .inr rfl⟩
  simp only [xack, write, wp_bind, wp_ask]
  cases env.delivery s.tick with
  | done => exact hacked
  | refused => exact .of_calling (.of_eq rfl)
  | lost => exact hacked

theorem closes_whenLive {symbol : String} {handle : RuntimeM σ P Unit}
    (h : Within env (Closes name messageId) handle) :
    Within env (Closes name messageId) (whenLive name messageId symbol handle) := by
  refine within_read_bind ?_
  split
  · exact closes_xack
  · split
    · exact closes_xack
    · exact h

theorem calling_callbackAt (eventTsUtc : ℤ) (lastBar : RuntimeConfig → StrategyRuntime σ P → Option ℤ)
    {callback : Strategy σ P → σ → StrategyCtx → σ × List Intent}
    (h : ∀ s ctx, Reactions env.strategy s (callback env.strategy s ctx).1) :
    Within env (Extends log HostEvent.Calling) (callbackAt eventTsUtc lastBar callback) :=
  fun s => wp_mono (wp_callbackAt eventTsUtc lastBar h s) (fun _ _ ht => ht.extends)
    fun _ _ ht => ht.extends

theorem calling_update {f : Env σ P → StrategyRuntime σ P → StrategyRuntime σ P}
    (hf : ∀ s, SameFrame s (f env s)) : Within env (Extends log HostEvent.Calling) (update f) :=
  within_read_bind (within_modify fun s => .of_eq (hf s).log)

theorem closes_mirror (f : RuntimeState P → RuntimeState P) :
    Within env (Closes name messageId) (do modifyState f; xack (σ := σ) name messageId) :=
  closes_bind (within_modify fun _ => .of_eq rfl) fun _ => closes_xack

theorem closes_brokerEvent (event : BrokerEvent) :
    Within env (Closes (σ := σ) (P := P) name messageId) (event.handle name messageId) := by
  cases event with
  | ack ack =>
    exact closes_bind (calling_update fun s => (sameView_registerAcknowledgedOrder _ s ack).frame) fun _ =>
      closes_bind (calling_callbackAt _ _ fun s ctx => .single (.ack s ctx ack)) fun _ => closes_xack
  | order order =>
    refine closes_whenLive (closes_bind
      (calling_callbackAt _ _ fun s ctx => .single (.order s ctx order)) fun _ =>
      closes_bind (calling_update fun s => ?_) fun _ => closes_xack)
    have hledger := sameView_updateLedgerFromOrder env.text s env.config order
    refine SameView.frame (hledger.trans (SameView.trans ?_
      (sameView_replayPendingTradesForOrder env.text _ order.orderId)))
    exact ⟨rfl, rfl, rfl, rfl, rfl, rfl, rfl⟩
  | stopOrder stopOrder =>
    refine closes_whenLive (within_read_bind ?_)
    split
    · exact closes_bind (calling_callbackAt _ _ fun s ctx => .single (.stopOrder s ctx stopOrder))
        fun _ => closes_mirror _
    · exact closes_mirror _
  | trade trade =>
    exact closes_whenLive (closes_bind (calling_update fun s => sameFrame_trade env.text s trade)
      fun _ => closes_xack)
  | position position =>
    refine within_read_bind ?_
    split
    · intro s
      rw [wp_bind, wp_attempt]
      exact closes_xack s
    · exact closes_whenLive (closes_bind
        (calling_callbackAt _ _ fun s ctx => .single (.position s ctx position)) fun _ => closes_mirror _)

theorem closes_handleBar (bar : BarEvent) :
    Within env (Closes (σ := σ) (P := P) name messageId) (handleBar name messageId bar) := by
  have hsettle ctx eventTs intents (previousState : P) :
      Makes env (returning (σ := σ) fun _ => True) (settleBar ctx eventTs bar intents previousState) :=
    makes_settleBar ctx eventTs bar intents trivial
  refine within_read_bind <| within_get_bind fun rt => ?_
  split
  · exact closes_xack
  · refine closes_bind ?_ fun prepared => closes_bind (fun s => ?_) fun called =>
      closes_bind ?_ fun _ => closes_bind (within_modify fun s => .of_eq rfl) fun _ => closes_xack
    · have hprepare : Makes env (returning fun _ => False) (prepareBar bar) :=
        makes_prepareBar bar
      exact hprepare.mono fun _ _ h => h.extends
    · rw [wp_invokeStrategyCallback]
      exact .of_eq rfl
    · exact (hsettle _ _ _ _).mono fun _ _ h => h.extends

end Closes

/-! ### Acknowledged last -/

/-- An acknowledgment is the entry's own, it is the last event, and a handler or the dead-letter stream
had the entry before. -/
def AckedLast (name messageId : String) (new : List (HostEvent P)) : Prop :=
  ∀ before name' messageId' after, new = before ++ .acked name' messageId' :: after →
    name' = name ∧ messageId' = messageId ∧ after = [] ∧ ∃ event ∈ before, event.Settles name messageId

theorem ackedLast_of_calling {event : HostEvent P} {work : List (HostEvent P)}
    (hsettles : event.Settles name messageId) (hwork : ∀ event ∈ work, event.Calling) :
    AckedLast name messageId (event :: work) ∧
      AckedLast name messageId (event :: (work ++ [.acked name messageId])) := by
  have hnever : ∀ name' messageId', .acked name' messageId' ∉ event :: work := by
    intro name' messageId' hmem
    rcases List.mem_cons.mp hmem with rfl | hmem
    · exact hsettles
    · exact hwork _ hmem
  constructor
  · rintro before name' messageId' after heq
    exact absurd (heq ▸ by simp) (hnever name' messageId')
  · intro before name' messageId' after heq
    rw [← List.cons_append] at heq
    rcases List.append_eq_append_iff.mp heq with ⟨cut, hbefore, hacked⟩ | ⟨cut, hbefore, hacked⟩
    · cases cut with
      | nil =>
        obtain ⟨hevent, hafter⟩ := List.cons.inj hacked
        obtain ⟨rfl, rfl⟩ := HostEvent.acked.inj hevent
        refine ⟨rfl, rfl, hafter.symm, event, ?_, hsettles⟩
        rw [hbefore]
        exact List.mem_append_left _ (List.mem_cons_self ..)
      | cons _ cut => simp at hacked
    · cases cut with
      | nil =>
        obtain ⟨hevent, hafter⟩ := List.cons.inj hacked
        obtain ⟨rfl, rfl⟩ := HostEvent.acked.inj hevent
        refine ⟨rfl, rfl, hafter, event, ?_, hsettles⟩
        rw [List.append_nil] at hbefore
        rw [← hbefore]
        exact List.mem_cons_self ..
      | cons first cut =>
        obtain ⟨rfl, -⟩ := List.cons.inj hacked
        exact absurd (hbefore ▸ by simp) (hnever name' messageId')

theorem ackedLast_nil : AckedLast (P := P) name messageId [] := by
  intro before name' messageId' after heq
  exact absurd heq (by simp)

/-! ### Entries -/

def envelope? (transport : RedisTransport) (stream : RecoveredStream) (payload : String) :
    Option (Envelope JsonValue) :=
  if payload = "" then none
  else
    match stream with
    | .orders => (transport.fromStr payload).toOption.filter fun envelope =>
      decide (envelope.schemaVersion ≤ schemaVersion) &&
        (envelope.msgType = .order || envelope.msgType = .stopOrder)
    | stream => (transport.parseMessage payload stream.msgType).toOption

def HasHandler (config : RuntimeConfig) (name : String) (payload : JsonValue) : Bool :=
  if name = config.streams.acks then payload.commandAck.isSome
  else if name = config.streams.orders then payload.order.isSome
  else if name = config.streams.trades then payload.trade.isSome
  else if name = config.streams.positions then payload.position.isSome
  else payload.bar.isSome

def Decodes (env : Env σ P) (stream : RecoveredStream) (entry : RedisStreamMessage) : Bool :=
  (envelope? env.transport stream entry.payload).any fun envelope =>
    if stream = .orders ∧ envelope.msgType = .stopOrder then envelope.payload.stopOrder.isSome
    else HasHandler env.config (stream.name env.config) envelope.payload

def dismissal (name messageId reason : String) : List (HostEvent P) :=
  [.deadLetter name messageId reason, .acked name messageId]

/-- What becomes of an entry.  It is acknowledged last; and if it cannot be decoded, and the writes
are taken, it is dead-lettered and acknowledged, and the handling ends well. -/
structure Kept (env : Env σ P) (stream : RecoveredStream) (entry : RedisStreamMessage)
    (s : StrategyRuntime σ P) (out : Except RuntimeError Unit) (t : StrategyRuntime σ P) : Prop where
  acked : ∃ new, t.log = s.log ++ new ∧ AckedLast (stream.name env.config) entry.id new
  dismissed : Decodes env stream entry = false →
    env.transport.deadLetter (stream.name env.config) entry.id = .done →
    (∀ tick, s.tick ≤ tick → tick < t.tick → env.delivery tick = .done) →
    out = .ok () ∧ ∃ reason, t.log = s.log ++ dismissal (stream.name env.config) entry.id reason

def KeepsEntry (env : Env σ P) (stream : RecoveredStream) (entry : RedisStreamMessage)
    (s : StrategyRuntime σ P) : Prop :=
  wp (handleRecovered env.config stream entry) env s (fun out => Kept env stream entry s (.ok out))
    fun error => Kept env stream entry s (.error error)

/-- Every entry of a batch is kept, up to one whose handling fails. -/
def KeepsEntries (env : Env σ P) (stream : RecoveredStream) :
    List RedisStreamMessage → StrategyRuntime σ P → Prop
  | [], _ => True
  | entry :: entries, s => KeepsEntry env stream entry s ∧
    ∀ t, (handleRecovered env.config stream entry).run env s = (.ok (), t) →
      KeepsEntries env stream entries t

/-- The entry decodes, or its envelope is rejected where that ends in the dead-letter stream. -/
def Fit (env : Env σ P) (stream : RecoveredStream) (entry : RedisStreamMessage) : Prop :=
  Decodes env stream entry = true ∨ envelope? env.transport stream entry.payload = none ∧
    (stream = .orders ∨ Takes env.transport (stream.name env.config) entry.id)

section Entries

variable {stream : RecoveredStream} {entry : RedisStreamMessage}

theorem Kept.of_decodes {out : Except RuntimeError Unit} (h : Decodes env stream entry = true)
    (hacked : ∃ new, t.log = s.log ++ new ∧ AckedLast (stream.name env.config) entry.id new) :
    Kept env stream entry s out t :=
  ⟨hacked, fun hnot => absurd (h.symm.trans hnot) (by decide)⟩

theorem keeps_fromValue {T : Type} {value : Option T} {handle : T → RuntimeM σ P Unit}
    {message : RuntimeMessage} (hvalue : value.isSome = true)
    (hhandle : ∀ value, Within env (Closes message.stream message.messageId) (handle value)) :
    Within env (fun s t => ∃ new, t.log = s.log ++ new ∧
      AckedLast message.stream message.messageId new) (fromValue value message handle) := by
  intro s
  obtain ⟨value, rfl⟩ := Option.isSome_iff_exists.mp hvalue
  have hsettles : (HostEvent.dispatched message.stream message.messageId : HostEvent P).Settles
      message.stream message.messageId := ⟨rfl, rfl⟩
  have hcloses : ∀ t, Closes message.stream message.messageId
      { s with log := s.log ++ [.dispatched message.stream message.messageId] } t →
      ∃ new, t.log = s.log ++ new ∧ AckedLast message.stream message.messageId new := by
    rintro t ⟨work, hwork, hlog | hlog⟩
    · exact ⟨_, by simpa using hlog, (ackedLast_of_calling hsettles hwork).1⟩
    · exact ⟨_, by simpa using hlog, (ackedLast_of_calling hsettles hwork).2⟩
  rw [fromValue, wp_bind, wp_record]
  exact wp_mono (hhandle value _) (fun _ t ht => hcloses t ht) fun _ t ht => hcloses t ht

theorem keeps_dispatchMessage (stream : RecoveredStream) (message : RuntimeMessage)
    (hstream : message.stream = stream.name env.config)
    (h : HasHandler env.config message.stream message.payload = true) :
    Within env (fun s t => ∃ new, t.log = s.log ++ new ∧
      AckedLast message.stream message.messageId new) (dispatchMessage (σ := σ) (P := P) message) := by
  refine within_read_bind ?_
  unfold HasHandler at h
  dsimp only
  split_ifs at h ⊢ with hacks horders htrades hpositions hbars
  · exact keeps_fromValue h fun ack => closes_brokerEvent (.ack ack)
  · exact keeps_fromValue h fun order => closes_brokerEvent (.order order)
  · exact keeps_fromValue h fun trade => closes_brokerEvent (.trade trade)
  · exact keeps_fromValue h fun position => closes_brokerEvent (.position position)
  · exact keeps_fromValue h fun bar => closes_handleBar bar
  · -- the name is one of the five
    cases stream with
    | acks => exact absurd hstream hacks
    | orders => exact absurd hstream horders
    | trades => exact absurd hstream htrades
    | positions => exact absurd hstream hpositions
    | bars => exact absurd hstream hbars

theorem dismissal_acked (name messageId reason : String) :
    AckedLast (P := P) name messageId [.deadLetter name messageId reason] ∧
      AckedLast (P := P) name messageId (dismissal name messageId reason) :=
  ackedLast_of_calling ⟨rfl, rfl⟩ fun _ hmem => absurd hmem List.not_mem_nil

theorem keeps_rejectOrdersEntry (stream : RecoveredStream) (entry : RedisStreamMessage)
    (reason : String) :
    wp (rejectOrdersEntry (stream.name env.config) entry.id reason) env s
      (fun out => Kept env stream entry s (.ok out)) fun error => Kept env stream entry s (.error error) := by
  obtain ⟨hletter, hdismissal⟩ := dismissal_acked (P := P) (stream.name env.config) entry.id reason
  simp only [rejectOrdersEntry, writeDlq, wp_bind, wp_now, wp_read]
  cases hdead : env.transport.deadLetter (stream.name env.config) entry.id with
  | refused => exact ⟨⟨[], by simp, ackedLast_nil⟩, fun _ hdone => by rw [hdead] at hdone; cases hdone⟩
  | lost => exact ⟨⟨_, rfl, hletter⟩, fun _ hdone => by rw [hdead] at hdone; cases hdone⟩
  | done =>
    simp only [wp_record, xack, write, wp_bind, wp_ask]
    cases hack : env.delivery (s.tick + 1) with
    | done => exact ⟨⟨_, List.append_assoc .., hdismissal⟩, fun _ _ _ => ⟨rfl, reason, List.append_assoc ..⟩⟩
    | refused =>
      refine ⟨⟨_, rfl, hletter⟩, fun _ _ htaken => ?_⟩
      have hdone := htaken (s.tick + 1) (by omega) (show s.tick + 1 < s.tick + 1 + 1 by omega)
      rw [hack] at hdone
      cases hdone
    | lost =>
      refine ⟨⟨_, List.append_assoc .., hdismissal⟩, fun _ _ htaken => ?_⟩
      have hdone := htaken (s.tick + 1) (by omega) (show s.tick + 1 < s.tick + 1 + 1 by omega)
      rw [hack] at hdone
      cases hdone

/-- A rejected entry of another stream, whose dead letter is taken. -/
theorem keeps_dropEntry (htakes : Takes env.transport (stream.name env.config) entry.id)
    (reason : String) :
    wp (dropEntry (stream.name env.config) entry.id reason) env s
      (fun message t => message = none ∧ Kept env stream entry s (.ok ()) t) fun _ _ => False := by
  obtain ⟨hletter, hdismissal⟩ := dismissal_acked (P := P) (stream.name env.config) entry.id reason
  -- once the letter is written, only a refused acknowledgment is missing
  have hacks : wp (do let _ ← attempt (xack (stream.name env.config) entry.id)
                      return (none : Option RuntimeMessage)) env
      { s with
        tick := s.tick + 1
        log := s.log ++ [.deadLetter (stream.name env.config) entry.id reason] }
      (fun message t => message = none ∧ Kept env stream entry s (.ok ()) t) fun _ _ => False := by
    simp only [xack, write, wp_bind, wp_attempt, wp_ask]
    cases hack : env.delivery (s.tick + 1) with
    | refused =>
      refine ⟨rfl, ⟨_, rfl, hletter⟩, fun _ _ htaken => ?_⟩
      have hdone := htaken (s.tick + 1) (by omega) (show s.tick + 1 < s.tick + 1 + 1 by omega)
      rw [hack] at hdone
      cases hdone
    | _ =>
      exact ⟨rfl, ⟨_, List.append_assoc .., hdismissal⟩, fun _ _ _ => ⟨rfl, reason, List.append_assoc ..⟩⟩
  rw [wp_bind, wp_attempt] at hacks
  simp only [dropEntry, writeDlq, wp_bind, wp_attempt, wp_now, wp_read]
  cases hdead : env.transport.deadLetter (stream.name env.config) entry.id with
  | refused => exact absurd hdead htakes
  | _ => exact hacks

theorem keeps_recoverEntry (horders : stream ≠ .orders) (hfit : Fit env stream entry) :
    wp (recoverEntry (stream.name env.config) stream.msgType entry) env s
      (fun out => Kept env stream entry s (.ok out)) fun error => Kept env stream entry s (.error error) := by
  have henvelope : envelope? env.transport stream entry.payload = if entry.payload = "" then none
      else (env.transport.parseMessage entry.payload stream.msgType).toOption := by
    cases stream with
    | orders => exact absurd rfl horders
    | _ => rfl
  have hdrop (reason : String) (next : Option RuntimeMessage → RuntimeM σ P Unit)
      (hnext : next none = return ()) (hnone : envelope? env.transport stream entry.payload = none) :
      wp (dropEntry (stream.name env.config) entry.id reason) env s
        (fun message t => wp (next message) env t (fun out => Kept env stream entry s (.ok out))
          fun error => Kept env stream entry s (.error error))
        fun error => Kept env stream entry s (.error error) := by
    have htakes : Takes env.transport (stream.name env.config) entry.id := by
      rcases hfit with hdecodes | ⟨-, horders' | htakes⟩
      · rw [Decodes, hnone] at hdecodes
        cases hdecodes
      · exact absurd horders' horders
      · exact htakes
    refine wp_mono (keeps_dropEntry htakes reason) (fun message t ht => ?_) fun _ _ h => h.elim
    obtain ⟨rfl, ht⟩ := ht
    rw [hnext]
    exact ht
  rw [recoverEntry, wp_bind, decodeEntry, wp_bind, wp_read]
  split_ifs with hempty
  · exact hdrop _ _ rfl (by rw [henvelope, if_pos hempty])
  · rw [if_neg hempty] at henvelope
    cases hparse : env.transport.parseMessage entry.payload stream.msgType with
    | error reason => exact hdrop reason _ rfl (by rw [henvelope, hparse]; rfl)
    | ok envelope =>
      rw [hparse] at henvelope
      have hdecodes : Decodes env stream entry = true :=
        hfit.resolve_right fun hnone => by rw [henvelope] at hnone; cases hnone.1
      have hhandler := hdecodes
      rw [Decodes, henvelope] at hhandler
      simp only [Except.toOption, Option.any_some, horders, false_and, if_false] at hhandler
      rw [wp_pure]
      exact wp_mono (keeps_dispatchMessage stream ⟨_, entry.id, envelope.payload⟩ rfl hhandler s)
        (fun _ _ h => .of_decodes hdecodes h) fun _ _ h => .of_decodes hdecodes h

theorem keeps_ordersEntry (hfit : Fit env .orders entry) :
    wp (decodeAndDispatchOrdersEntry (RecoveredStream.orders.name env.config) entry) env s
      (fun out => Kept env .orders entry s (.ok out)) fun error => Kept env .orders entry s (.error error) := by
  rw [decodeAndDispatchOrdersEntry, wp_bind, wp_read]
  split_ifs with hempty
  · exact keeps_rejectOrdersEntry .orders entry _
  · cases hparse : env.transport.fromStr entry.payload with
    | error error => exact keeps_rejectOrdersEntry .orders entry _
    | ok envelope =>
      dsimp only
      split_ifs with hschema
      · exact keeps_rejectOrdersEntry .orders entry _
      have hread (htype : envelope.msgType = .order ∨ envelope.msgType = .stopOrder) :
          Decodes env .orders entry = true ∧ (if envelope.msgType = .stopOrder then
            envelope.payload.stopOrder.isSome
            else HasHandler env.config (RecoveredStream.orders.name env.config) envelope.payload) = true := by
        have henvelope : envelope? env.transport .orders entry.payload = some envelope := by
          simp [envelope?, hempty, hparse, Except.toOption, not_lt.mp hschema, htype]
        have hdecodes := hfit.resolve_right fun hnone => by rw [henvelope] at hnone; cases hnone.1
        refine ⟨hdecodes, ?_⟩
        rw [Decodes, henvelope] at hdecodes
        simpa using hdecodes
      cases htype : envelope.msgType with
      | order =>
        obtain ⟨hdecodes, hhandler⟩ := hread (.inl htype)
        rw [htype, if_neg (by decide)] at hhandler
        exact wp_mono (keeps_dispatchMessage .orders _ rfl hhandler s)
          (fun _ _ h => .of_decodes hdecodes h) fun _ _ h => .of_decodes hdecodes h
      | stopOrder =>
        obtain ⟨hdecodes, hvalue⟩ := hread (.inr htype)
        rw [htype, if_pos rfl] at hvalue
        exact wp_mono (keeps_fromValue hvalue (fun stopOrder => closes_brokerEvent (.stopOrder stopOrder)) s)
          (fun _ _ h => .of_decodes hdecodes h) fun _ _ h => .of_decodes hdecodes h
      | _ => exact keeps_rejectOrdersEntry .orders entry _

theorem keepsEntry (hfit : Fit env stream entry) (s : StrategyRuntime σ P) :
    KeepsEntry env stream entry s := by
  cases stream with
  | orders => exact keeps_ordersEntry hfit
  | acks | trades | positions | bars => exact keeps_recoverEntry (by decide) hfit

/-- Of fit entries every one is kept, in every batch that is read or claimed and from every state. -/
theorem keepsEntries {entries : List RedisStreamMessage} (hfit : ∀ entry ∈ entries, Fit env stream entry)
    (s : StrategyRuntime σ P) : KeepsEntries env stream entries s := by
  induction entries generalizing s with
  | nil => exact True.intro
  | cons entry entries ih =>
    refine ⟨keepsEntry (hfit entry (List.mem_cons_self ..)) s, fun t _ => ?_⟩
    exact ih (fun entry' hmem => hfit entry' (List.mem_cons_of_mem _ hmem)) t

end Entries

/-! ### An ack whose payload does not decode -/

/-- A transport that reads every payload but one as an ack; that one has an envelope of acks with
something else in it. -/
def mixedTransport : RedisTransport :=
  { ackTransport [] with
    fromStr := fun payload =>
      if payload = "other" then .ok ⟨1, 0, "gateway", .commandAck, ⟨none, none, none, none, none, none⟩⟩
      else (ackTransport []).fromStr payload }

def mixedEnv : Env Unit Unit := { ackEnv [] with transport := mixedTransport }

def mixedReply : RedisValue :=
  .bulk [.bulk [.data "acks", .bulk [(StreamEntry.value ⟨"1-0", [("payload", "other")]⟩),
    (ackEntry "2-0").value]]]

/-- The first entry fails its batch and is neither dead-lettered nor acknowledged; the second one is
not handled. -/
theorem undecodable_blocks :
    ¬ KeepsEntries mixedEnv .acks (parseReadGroupEntries "acks" mixedReply) ackRuntime ∧
      ((RecoveredStream.acks.drain (some mixedReply)).run mixedEnv ackRuntime).1 = .error .decode ∧
      ((RecoveredStream.acks.drain (some mixedReply)).run mixedEnv ackRuntime).2.log = [] := by
  refine ⟨fun h => ?_, rfl, rfl⟩
  have hkept := h.1.dismissed (by decide) rfl fun _ _ _ => rfl
  cases hkept.1

/-- Acks are kept. -/
theorem keepsEntries_acks :
    KeepsEntries mixedEnv .acks [⟨"acks", "2-0", "ack"⟩] ackRuntime := by
  refine keepsEntries (fun entry hmem => ?_) ackRuntime
  obtain rfl := List.mem_singleton.mp hmem
  exact .inl (by decide)

end StrategyRuntime

end AlorRs
