import AlorRs.StrategyRuntime.Equiv.Runtime.Bars
import AlorRs.StrategyRuntime.Runtime.Recovery

/-!
# Correctness of the recovery of pending entries

What the recovery of a stream settles, that is, hands to a handler or to the dead-letter stream,
is exactly the entries of the batches that it claims.  There are at most `maxPendingLoops` batches, and an
entry that does not decode is lost if the dead-letter stream refuses it (`recover_settles_iff`).
-/

namespace AlorRs

open Eff

/-- The event hands an entry to its handler or to the dead-letter stream. -/
def HostEvent.Settles {P : Type} (stream messageId : String) : HostEvent P → Prop
  | .dispatched stream' messageId' => stream' = stream ∧ messageId' = messageId
  | .deadLetter stream' messageId' _ => stream' = stream ∧ messageId' = messageId
  | _ => False

theorem HostEvent.Handling.not_settles {P : Type} {event : HostEvent P} (h : event.Handling)
    (stream messageId : String) : ¬ event.Settles stream messageId := by
  cases event <;> first | exact id | exact h.elim

namespace StrategyRuntime

open RuntimeM RedisTransport

variable {σ P : Type} {env : Env σ P}

/-! ### What the log settles -/

/-- Since `s`, an entry was handed to its handler or to the dead-letter stream. -/
def SettledSince (s t : StrategyRuntime σ P) (stream messageId : String) : Prop :=
  ∃ event ∈ t.log.drop s.log.length, event.Settles stream messageId

/-- The log grows, and what it settles of the stream meanwhile are the given entries. -/
def Settling (stream : String) (ids : Set String) (s t : StrategyRuntime σ P) : Prop :=
  ∃ new, t.log = s.log ++ new ∧ ∀ id, (∃ event ∈ new, event.Settles stream id) ↔ id ∈ ids

section Settling

variable {stream : String} {ids ids' : Set String} {s t u : StrategyRuntime σ P}

theorem Settling.settledSince_iff (h : Settling stream ids s t) (id : String) :
    SettledSince s t stream id ↔ id ∈ ids := by
  obtain ⟨new, hlog, hnew⟩ := h
  unfold SettledSince
  rw [hlog, List.drop_left]
  exact hnew id

theorem Settling.trans (h : Settling stream ids s t) (h' : Settling stream ids' t u) :
    Settling stream (ids ∪ ids') s u := by
  obtain ⟨new, hlog, hnew⟩ := h
  obtain ⟨new', hlog', hnew'⟩ := h'
  refine ⟨new ++ new', by rw [hlog', hlog, List.append_assoc], fun id => ?_⟩
  rw [Set.mem_union, ← hnew, ← hnew']
  constructor
  · rintro ⟨event, hmem, hsettles⟩
    rcases List.mem_append.mp hmem with hmem | hmem
    · exact .inl ⟨event, hmem, hsettles⟩
    · exact .inr ⟨event, hmem, hsettles⟩
  · rintro (⟨event, hmem, hsettles⟩ | ⟨event, hmem, hsettles⟩)
    · exact ⟨event, List.mem_append_left _ hmem, hsettles⟩
    · exact ⟨event, List.mem_append_right _ hmem, hsettles⟩

theorem Settling.of_handling (h : Extends log HostEvent.Handling s t) : Settling stream ∅ s t := by
  obtain ⟨new, hlog, hnew⟩ := h
  refine ⟨new, hlog, fun id => ⟨?_, fun h => h.elim⟩⟩
  rintro ⟨event, hmem, hsettles⟩
  exact ((hnew event hmem).not_settles stream id hsettles).elim

theorem Settling.after (h : Extends log HostEvent.Handling s t) (h' : Settling stream ids t u) :
    Settling stream ids s u := by
  have hboth := (.of_handling h : Settling stream ∅ s t).trans h'
  rwa [Set.empty_union] at hboth

theorem Settling.then (h : Settling stream ids s t) (h' : Extends log HostEvent.Handling t u) :
    Settling stream ids s u := by
  have hboth := h.trans (.of_handling h')
  rwa [Set.union_empty] at hboth

theorem Settling.push {event : HostEvent P} (h : t.log = s.log ++ [event])
    (hevent : ∀ id, event.Settles stream id ↔ id ∈ ids) : Settling stream ids s t := by
  refine ⟨[event], h, fun id => ?_⟩
  rw [← hevent]
  simp

end Settling

/-! ### Handlers -/

theorem handling_observes :
    Observes env (Extends log HostEvent.Handling : StrategyRuntime σ P → _ → Prop) where
  calling _ _ h := h.extends.mono fun _ => HostEvent.Calling.handling
  forward _ _ h := h.extends
  frame _ _ h := .of_eq h.log

theorem handling_handleBar (stream messageId : String) (bar : BarEvent) :
    Within env (Extends log HostEvent.Handling) (handleBar (σ := σ) (P := P) stream messageId bar) := by
  have hsettle : ∀ ctx eventTs intents previousState,
      Within env (Extends log HostEvent.Handling)
        (settleBar (σ := σ) (P := P) ctx eventTs bar intents previousState) := by
    intro ctx eventTs intents previousState
    have hmakes : Makes env (returning fun _ => True)
        (settleBar ctx eventTs bar intents previousState) :=
      makes_settleBar ctx eventTs bar intents trivial
    exact hmakes.mono fun _ _ h => h.extends.mono fun _ => HostEvent.Calling.handling
  refine within_read_bind <| within_get_bind fun rt => ?_
  split
  · exact handling_observes.within_xack stream messageId
  · refine within_bind (handling_observes.within_prepareBar bar) fun prepared =>
      within_bind (fun s => ?_) fun called => within_bind (hsettle _ _ _ _) fun _ =>
      within_bind (within_modify fun s => .of_eq rfl) fun _ =>
      handling_observes.within_xack stream messageId
    rw [wp_invokeStrategyCallback]
    exact .of_eq rfl

/-! ### Entries -/

variable (transport : RedisTransport)

def Readable (msgType : MessageType) (entry : RedisStreamMessage) : Prop :=
  entry.payload ≠ "" ∧ ∃ envelope, transport.parseMessage entry.payload msgType = .ok envelope

def Takes (stream messageId : String) : Prop :=
  transport.deadLetter stream messageId ≠ .refused

abbrev only (messageId : String) (p : Prop) : Set String := {id | id = messageId ∧ p}

section Entries

variable {s : StrategyRuntime σ P}

theorem only_of_true {messageId : String} {p : Prop} (h : p) : only messageId p = {messageId} := by
  ext id
  simp [h]

theorem only_of_false {messageId : String} {p : Prop} (h : ¬ p) : only messageId p = ∅ := by
  ext id
  simp [h]

/-- A dead letter is written if the stream takes it, whatever is reported. -/
theorem wp_writeDlq (stream messageId reason : String) :
    wp (writeDlq stream messageId reason) env s
      (fun _ t => Settling stream {messageId} s t ∧ Takes env.transport stream messageId)
      fun _ t => Settling stream (only messageId (Takes env.transport stream messageId)) s t := by
  have hpush : Settling stream {messageId} s
      { s with tick := s.tick + 1, log := s.log ++ [.deadLetter stream messageId reason] } := by
    refine .push rfl fun id => ?_
    simp [HostEvent.Settles, eq_comm]
  simp only [writeDlq, wp_bind, wp_now, wp_read]
  cases hletter : env.transport.deadLetter stream messageId with
  | done =>
    have htakes : Takes env.transport stream messageId := by simp [Takes, hletter]
    exact ⟨hpush, htakes⟩
  | refused =>
    have htakes : ¬ Takes env.transport stream messageId := by simp [Takes, hletter]
    rw [only_of_false htakes]
    exact .of_handling (.of_eq rfl)
  | lost =>
    have htakes : Takes env.transport stream messageId := by simp [Takes, hletter]
    rw [only_of_true htakes]
    exact hpush

theorem wp_xack_handling (stream messageId : String) :
    wp (xack stream messageId) env s (fun _ t => Extends log HostEvent.Handling s t)
      fun _ t => Extends log HostEvent.Handling s t :=
  handling_observes.within_xack stream messageId s

theorem wp_dropEntry (stream messageId reason : String) :
    wp (dropEntry stream messageId reason) env s
      (fun message t => message = none ∧
        Settling stream (only messageId (Takes env.transport stream messageId)) s t)
      fun _ _ => False := by
  have hrest : ∀ t, Settling stream (only messageId (Takes env.transport stream messageId)) s t →
      wp (do let _ ← attempt (xack stream messageId); return (none : Option RuntimeMessage)) env t
        (fun message u => message = none ∧
          Settling stream (only messageId (Takes env.transport stream messageId)) s u)
        fun _ _ => False := by
    intro t ht
    rw [wp_bind, wp_attempt]
    exact wp_mono (wp_xack_handling stream messageId) (fun _ _ hu => ⟨rfl, ht.then hu⟩)
      fun _ _ hu => ⟨rfl, ht.then hu⟩
  rw [dropEntry, wp_bind, wp_attempt]
  refine wp_mono (wp_writeDlq stream messageId reason) (fun _ t ht => hrest t ?_)
    fun _ t ht => hrest t ht
  rw [only_of_true ht.2]
  exact ht.1

/-- A value that decodes is handed to its handler. -/
theorem wp_fromValue {T : Type} (value : Option T) (message : RuntimeMessage)
    {handle : T → RuntimeM σ P Unit}
    (h : ∀ value, Within env (Extends log HostEvent.Handling) (handle value)) :
    wp (fromValue value message handle) env s
      (fun _ t => Settling message.stream {message.messageId} s t) fun _ _ => True := by
  cases value with
  | none => trivial
  | some value =>
    rw [fromValue, wp_bind, wp_record]
    have hpush : Settling message.stream {message.messageId} s
        { s with log := s.log ++ [.dispatched message.stream message.messageId] } := by
      refine .push rfl fun id => ?_
      simp [HostEvent.Settles, eq_comm]
    exact wp_mono (h value _) (fun _ _ ht => hpush.then ht) fun _ _ _ => trivial

variable (stream : RecoveredStream)

theorem wp_dispatchMessage {message : RuntimeMessage} (h : message.stream = stream.name env.config)
    :
    wp (dispatchMessage message) env s
      (fun _ t => Settling message.stream {message.messageId} s t) fun _ _ => True := by
  have hevent : ∀ event : BrokerEvent, Within env (Extends log HostEvent.Handling)
      (event.handle (σ := σ) (P := P) message.stream message.messageId) :=
    fun event => handling_observes.within_brokerEvent message.stream message.messageId event
  rw [dispatchMessage, wp_bind, wp_read]
  dsimp only
  split
  · exact wp_fromValue _ message fun ack => hevent (.ack ack)
  · split
    · exact wp_fromValue _ message fun order => hevent (.order order)
    · split
      · exact wp_fromValue _ message fun trade => hevent (.trade trade)
      · split
        · exact wp_fromValue _ message fun position => hevent (.position position)
        · split
          · exact wp_fromValue _ message fun bar => handling_handleBar _ _ bar
          · next hacks horders htrades hpositions hbars =>
            -- the name is none of the five
            cases stream with
            | acks => exact absurd h hacks
            | orders => exact absurd h horders
            | trades => exact absurd h htrades
            | positions => exact absurd h hpositions
            | bars => exact absurd h hbars

theorem wp_recoverEntry (msgType : MessageType) (entry : RedisStreamMessage) :
    wp (recoverEntry (stream.name env.config) msgType entry) env s
      (fun _ t => Settling (stream.name env.config)
        (only entry.id (Readable env.transport msgType entry ∨
          Takes env.transport (stream.name env.config) entry.id)) s t)
      fun _ _ => True := by
  -- an entry that does not decode leaves nothing to dispatch
  have hdrop : ∀ (next : Option RuntimeMessage → RuntimeM σ P Unit) reason, next none = pure () →
      ¬ Readable env.transport msgType entry →
      wp (dropEntry (stream.name env.config) entry.id reason) env s
        (fun message t => wp (next message) env t
          (fun _ u => Settling (stream.name env.config)
            (only entry.id (Readable env.transport msgType entry ∨
              Takes env.transport (stream.name env.config) entry.id)) s u)
          fun _ _ => True)
        fun _ _ => True := by
    intro next reason hnext hunreadable
    refine wp_mono (wp_dropEntry _ _ reason) (fun message t ht => ?_) fun _ _ _ => trivial
    obtain ⟨rfl, ht⟩ := ht
    rw [hnext, wp_pure]
    simpa only [hunreadable, false_or] using ht
  rw [recoverEntry, wp_bind, decodeEntry, wp_bind, wp_read]
  split
  · next hempty => exact hdrop _ _ rfl fun hreadable => hreadable.1 hempty
  · next hpayload =>
    cases hparse : env.transport.parseMessage entry.payload msgType with
    | error reason =>
      refine hdrop _ reason rfl ?_
      rintro ⟨_, envelope, hok⟩
      rw [hparse] at hok
      cases hok
    | ok envelope =>
      rw [wp_pure, only_of_true (.inl ⟨hpayload, envelope, hparse⟩)]
      exact wp_dispatchMessage stream rfl

theorem wp_rejectOrdersEntry (stream messageId reason : String) :
    wp (rejectOrdersEntry stream messageId reason) env s
      (fun _ t => Settling stream {messageId} s t) fun _ _ => True := by
  rw [rejectOrdersEntry, wp_bind]
  refine wp_mono (wp_writeDlq stream messageId reason) (fun _ t ht => ?_) fun _ _ _ => trivial
  exact wp_mono (wp_xack_handling stream messageId) (fun _ _ hu => ht.1.then hu) fun _ _ _ => trivial

/-- On the orders stream, an entry that can be neither dispatched nor given up ends the
recovery. -/
theorem wp_decodeAndDispatchOrdersEntry (entry : RedisStreamMessage) :
    wp (decodeAndDispatchOrdersEntry env.config.streams.orders entry) env s
      (fun _ t => Settling env.config.streams.orders {entry.id} s t) fun _ _ => True := by
  have hreject : ∀ reason, wp (rejectOrdersEntry env.config.streams.orders entry.id reason) env s
      (fun _ t => Settling env.config.streams.orders {entry.id} s t) fun _ _ => True :=
    fun reason => wp_rejectOrdersEntry _ _ reason
  rw [decodeAndDispatchOrdersEntry, wp_bind, wp_read]
  split
  · exact hreject _
  · split
    · exact hreject _
    · dsimp only
      split
      · exact hreject _
      · split
        · exact wp_dispatchMessage .orders rfl
        · exact wp_fromValue _ _ fun stopOrder =>
            handling_observes.within_brokerEvent _ _ (.stopOrder stopOrder)
        · exact hreject _

end Entries

/-! ### Batches -/

def handleRecovered (config : RuntimeConfig) (stream : RecoveredStream) :
    RedisStreamMessage → RuntimeM σ P Unit :=
  match stream with
  | .orders => decodeAndDispatchOrdersEntry (stream.name config)
  | stream => recoverEntry (stream.name config) stream.msgType

/-- The recovery settles the entry: it decodes, or the dead-letter stream takes it.  On the orders
stream the recovery fails otherwise. -/
def Recoverable (env : Env σ P) (stream : RecoveredStream) (entry : RedisStreamMessage) : Prop :=
  stream = .orders ∨ Readable env.transport stream.msgType entry ∨
    Takes env.transport (stream.name env.config) entry.id

def settledIds (env : Env σ P) (stream : RecoveredStream) (entries : List RedisStreamMessage) :
    Set String := {id | ∃ entry ∈ entries, entry.id = id ∧ Recoverable env stream entry}

section Batches

variable {stream : RecoveredStream} {s : StrategyRuntime σ P}

theorem settledIds_nil : settledIds env stream [] = ∅ := by
  ext id
  simp [settledIds]

theorem settledIds_append (entries entries' : List RedisStreamMessage) :
    settledIds env stream (entries ++ entries') =
      settledIds env stream entries ∪ settledIds env stream entries' := by
  ext id
  simp only [settledIds, List.mem_append, Set.mem_ofPred_eq, Set.mem_union, or_and_right, exists_or]

theorem settledIds_singleton (entry : RedisStreamMessage) :
    settledIds env stream [entry] = only entry.id (Recoverable env stream entry) := by
  ext id
  simp [settledIds, eq_comm]

variable (stream : RecoveredStream)

theorem wp_handleRecovered (entry : RedisStreamMessage) :
    wp (handleRecovered env.config stream entry) env s
      (fun _ t => Settling (stream.name env.config) (settledIds env stream [entry]) s t)
      fun _ _ => True := by
  rw [settledIds_singleton]
  have hother : stream ≠ .orders →
      wp (recoverEntry (stream.name env.config) stream.msgType entry) env s
        (fun _ t => Settling (stream.name env.config)
          (only entry.id (Recoverable env stream entry)) s t) fun _ _ => True := by
    intro horders
    simp only [Recoverable, horders, false_or]
    exact wp_recoverEntry stream stream.msgType entry
  cases stream with
  | orders =>
    rw [only_of_true (.inl rfl)]
    exact wp_decodeAndDispatchOrdersEntry entry
  | acks | trades | positions | bars => exact hother (by decide)

theorem wp_handleEntries (entries : List RedisStreamMessage) (s : StrategyRuntime σ P) :
    wp (handleEntries (handleRecovered env.config stream) entries) env s
      (fun _ t => Settling (stream.name env.config) (settledIds env stream entries) s t)
      fun _ _ => True := by
  induction entries generalizing s with
  | nil =>
    rw [settledIds_nil]
    exact Settling.of_handling (.of_eq rfl)
  | cons entry entries ih =>
    rw [handleEntries, wp_bind]
    refine wp_mono (wp_handleRecovered stream entry) (fun _ t ht => ?_) fun _ _ _ => trivial
    refine wp_mono (ih t) (fun _ u hu => ?_) fun _ _ _ => trivial
    have hsplit : settledIds env stream (entry :: entries) =
        settledIds env stream [entry] ∪ settledIds env stream entries :=
      settledIds_append [entry] entries
    rw [hsplit]
    exact ht.trans hu

end Batches

/-! ### Replies to a claim -/

structure StreamEntry where
  id : String
  fields : List (String × String)
deriving DecidableEq

namespace StreamEntry

def value (entry : StreamEntry) : RedisValue :=
  .bulk [.data entry.id, .bulk (entry.fields.flatMap fun field => [.data field.1, .data field.2])]

def message (stream : String) (entry : StreamEntry) : RedisStreamMessage :=
  ⟨stream, entry.id, (entry.fields.lookup payloadField).getD ""⟩

theorem extractPayload_fields (fields : List (String × String)) :
    extractPayload (fields.flatMap fun field => [.data field.1, .data field.2]) =
      fields.lookup payloadField := by
  induction fields with
  | nil => rfl
  | cons field fields ih =>
    obtain ⟨key, value⟩ := field
    rw [List.flatMap_cons, List.lookup_cons, ← ih]
    show (if key = payloadField then some value else extractPayload (fields.flatMap _)) = _
    by_cases hkey : key = payloadField
    · simp [hkey]
    · have hne : (payloadField == key) = false := by
        rw [beq_eq_false_iff_ne]
        exact fun h => hkey h.symm
      rw [if_neg hkey, hne]

theorem parseEntry_value (stream : String) (entry : StreamEntry) :
    parseEntry stream entry.value = some (entry.message stream) := by
  show some (⟨stream, entry.id, (extractPayload _).getD ""⟩ : RedisStreamMessage) = _
  rw [extractPayload_fields]
  rfl

end StreamEntry

/-- A reply with the next cursor and some entries; later versions of Redis add the ids of deleted
entries. -/
def Replies (reply : RedisValue) (nextStart : String) (entries : List StreamEntry) : Prop :=
  ∃ rest, reply = .bulk (.data nextStart :: .bulk (entries.map StreamEntry.value) :: rest)

variable {entries : List StreamEntry}

theorem Replies.parse {reply : RedisValue} {nextStart : String}
    (h : Replies reply nextStart entries) (stream : String) :
    parseAutoclaimEntries stream reply = (nextStart, entries.map (·.message stream)) := by
  obtain ⟨rest, rfl⟩ := h
  show (nextStart, (entries.map StreamEntry.value).filterMap (parseEntry stream)) = _
  rw [List.filterMap_map, ← List.filterMap_eq_map]
  congr 1
  refine List.filterMap_congr fun entry _ => ?_
  exact StreamEntry.parseEntry_value stream entry

def cursor (entries : List StreamEntry) : String := (entries.head?.map (·.id)).getD "0-0"

/-- `XAUTOCLAIM` over the pending entries of a stream, all of them idle: from the cursor, the next
`count` entries and the id of the entry after them.  The first claim is made at `tick`. -/
structure Autoclaims (transport : RedisTransport) (stream : String) (count tick : ℕ)
    (pending : List StreamEntry) : Prop where
  distinct : (pending.map (·.id)).Nodup
  first : ∃ reply, transport.autoclaim tick stream "0-0" count = some reply ∧
    Replies reply (cursor (pending.drop count)) (pending.take count)
  next : ∀ tick' i (h : i < pending.length), 0 < i →
    ∃ reply, transport.autoclaim tick' stream pending[i].id count = some reply ∧
      Replies reply (cursor (pending.drop (i + count))) ((pending.drop i).take count)
  pendingOnly : ∀ tick' start reply, transport.autoclaim tick' stream start count = some reply →
    ∃ nextStart entries, Replies reply nextStart entries ∧ entries ⊆ pending

/-! ### The loop -/

section Loop

variable {stream : RecoveredStream} {pending : List StreamEntry} {count tick : ℕ}

abbrev settledOf (env : Env σ P) (stream : RecoveredStream) (entries : List StreamEntry) : Set String :=
  settledIds env stream (entries.map (·.message (stream.name env.config)))

theorem settledOf_append (entries entries' : List StreamEntry) :
    settledOf env stream (entries ++ entries') =
      settledOf env stream entries ∪ settledOf env stream entries' := by
  rw [settledOf, List.map_append, settledIds_append]

variable {s : StrategyRuntime σ P}

theorem Settling.settledOf_nil {t : StrategyRuntime σ P}
    (h : Settling (stream.name env.config) ∅ s t) :
    Settling (stream.name env.config) (settledOf env stream []) s t := by
  rwa [settledOf, List.map_nil, settledIds_nil]

variable {start : String}

theorem wp_recoverLoop_succ {nextStart : String} {loops : ℕ} {reply : RedisValue}
    {Q : StrategyRuntime σ P → Prop}
    (hclaim : env.transport.autoclaim s.tick (stream.name env.config) start env.config.claimBatch =
      some reply) (hreply : Replies reply nextStart entries)
    (hend : entries = [] → ∀ t, Settling (stream.name env.config) ∅ s t → Q t)
    (hgo : entries ≠ [] → ∀ t, Settling (stream.name env.config) (settledOf env stream entries) s t →
      wp (recoverLoop (handleRecovered env.config stream) (stream.name env.config) loops nextStart)
        env t (fun _ => Q) fun _ _ => True) :
    wp (recoverLoop (handleRecovered env.config stream) (stream.name env.config) (loops + 1) start)
      env s (fun _ => Q) fun _ _ => True := by
  have hasked : Extends log HostEvent.Handling s { s with tick := s.tick + 1 } := .of_eq rfl
  rw [recoverLoop, wp_bind, wp_read, wp_bind, claimIdle, wp_ask, hclaim]
  dsimp only
  rw [hreply.parse]
  split
  · next hempty =>
    rw [List.isEmpty_iff, List.map_eq_nil_iff] at hempty
    exact hend hempty _ (.of_handling hasked)
  · next hsome =>
    rw [List.isEmpty_iff, List.map_eq_nil_iff] at hsome
    rw [wp_bind]
    exact wp_mono (wp_handleEntries stream _ _) (fun _ t ht => hgo hsome t (ht.after hasked))
      fun _ _ _ => trivial

/-- Whatever is claimed, only pending entries are settled. -/
theorem wp_recoverLoop_pending
    (h : Autoclaims env.transport (stream.name env.config) env.config.claimBatch tick pending)
    (loops : ℕ) (start : String) (s : StrategyRuntime σ P) :
    wp (recoverLoop (handleRecovered env.config stream) (stream.name env.config) loops start) env s
      (fun _ t => ∃ entries ⊆ pending,
        Settling (stream.name env.config) (settledOf env stream entries) s t)
      fun _ _ => True := by
  have hnone : ∀ s t, Settling (stream.name env.config) ∅ s t → ∃ entries ⊆ pending,
      Settling (stream.name env.config) (settledOf env stream entries) s t :=
    fun s t ht => ⟨[], List.nil_subset _, ht.settledOf_nil⟩
  induction loops generalizing s start with
  | zero => exact hnone s s (.of_handling (.of_eq rfl))
  | succ loops ih =>
    cases hclaim : env.transport.autoclaim s.tick (stream.name env.config) start
        env.config.claimBatch with
    | none =>
      rw [recoverLoop, wp_bind, wp_read, wp_bind, claimIdle, wp_ask, hclaim]
      exact hnone s _ (.of_handling (.of_eq rfl))
    | some reply =>
      obtain ⟨nextStart, entries, hreply, hsub⟩ := h.pendingOnly _ _ _ hclaim
      refine wp_recoverLoop_succ hclaim hreply (fun _ => hnone s) fun _ t ht => ?_
      refine wp_mono (ih nextStart t) (fun _ u hu => ?_) fun _ _ _ => trivial
      obtain ⟨entries', hsub', hu⟩ := hu
      refine ⟨entries ++ entries', List.append_subset.mpr ⟨hsub, hsub'⟩, ?_⟩
      rw [settledOf_append]
      exact ht.trans hu

def StartsAt (pending : List StreamEntry) (tick i : ℕ) (start : String) (s : StrategyRuntime σ P) :
    Prop :=
  (i = 0 ∧ start = "0-0" ∧ s.tick = tick) ∨ 0 < i ∧ ∃ h : i < pending.length, start = pending[i].id

theorem Autoclaims.claim {name : String} {i : ℕ}
    (h : Autoclaims env.transport name count tick pending)
    (hstart : StartsAt pending tick i start s) :
    ∃ reply, env.transport.autoclaim s.tick name start count = some reply ∧
      Replies reply (cursor (pending.drop (i + count))) ((pending.drop i).take count) := by
  rcases hstart with ⟨rfl, rfl, rfl⟩ | ⟨hpos, hi, rfl⟩
  · rw [Nat.zero_add, List.drop_zero]
    exact h.first
  · exact h.next s.tick i hi hpos

/-- The claimed entries are the next `loops` batches, unless the end is reached before. -/
theorem wp_recoverLoop
    (h : Autoclaims env.transport (stream.name env.config) env.config.claimBatch tick pending)
    (loops i : ℕ) (hstart : StartsAt pending tick i start s) :
    wp (recoverLoop (handleRecovered env.config stream) (stream.name env.config) loops start) env s
      (fun _ t => ∃ entries ⊆ pending,
        (pending.drop i).take (loops * env.config.claimBatch) ⊆ entries ∧
        (i + loops * env.config.claimBatch < pending.length →
          entries ⊆ (pending.drop i).take (loops * env.config.claimBatch)) ∧
        Settling (stream.name env.config) (settledOf env stream entries) s t)
      fun _ _ => True := by
  induction loops generalizing i start s with
  | zero =>
    exact ⟨[], List.nil_subset _, by simp, by simp,
      (Settling.of_handling (.of_eq rfl)).settledOf_nil⟩
  | succ loops ih =>
    obtain ⟨reply, hclaim, hreply⟩ := h.claim hstart
    have hsub : (pending.drop i).take env.config.claimBatch ⊆ pending :=
      fun entry hmem => List.mem_of_mem_drop (List.mem_of_mem_take hmem)
    -- the batches are the first of them and the others
    have hsplit : (pending.drop i).take ((loops + 1) * env.config.claimBatch) =
        (pending.drop i).take env.config.claimBatch ++
          (pending.drop (i + env.config.claimBatch)).take (loops * env.config.claimBatch) := by
      rw [Nat.succ_mul, Nat.add_comm, List.take_add, List.drop_drop]
    refine wp_recoverLoop_succ hclaim hreply (fun hempty t ht => ?_) fun hsome t ht => ?_
    · -- an empty batch is the end of the list, or batches are empty
      have hnone : (pending.drop i).take ((loops + 1) * env.config.claimBatch) = [] := by
        rcases List.take_eq_nil_iff.mp hempty with hzero | hdrop
        · rw [hzero, Nat.mul_zero, List.take_zero]
        · rw [hdrop, List.take_nil]
      refine ⟨[], List.nil_subset _, by rw [hnone]; exact List.nil_subset _, fun _ => List.nil_subset _,
        ht.settledOf_nil⟩
    · have hcount : 0 < env.config.claimBatch := by
        refine Nat.pos_of_ne_zero fun hzero => hsome ?_
        rw [hzero, List.take_zero]
      by_cases hmore : i + env.config.claimBatch < pending.length
      · have hnext : StartsAt pending tick (i + env.config.claimBatch)
            (cursor (pending.drop (i + env.config.claimBatch))) t := by
          refine .inr ⟨by omega, hmore, ?_⟩
          rw [cursor, List.head?_drop, List.getElem?_eq_getElem hmore]
          rfl
        refine wp_mono (ih _ hnext) (fun _ u hu => ?_) fun _ _ _ => trivial
        obtain ⟨entries, hpending, hall, honly, hu⟩ := hu
        refine ⟨_ ++ entries, List.append_subset.mpr ⟨hsub, hpending⟩, ?_, fun hlt => ?_, ?_⟩
        · rw [hsplit]
          exact List.append_subset.mpr
            ⟨List.subset_append_left _ _, List.Subset.trans hall (List.subset_append_right _ _)⟩
        · rw [hsplit]
          have hrest : i + env.config.claimBatch + loops * env.config.claimBatch < pending.length := by
            rw [Nat.succ_mul] at hlt
            omega
          exact List.append_subset.mpr
            ⟨List.subset_append_left _ _, List.Subset.trans (honly hrest) (List.subset_append_right _ _)⟩
        · rw [settledOf_append]
          exact ht.trans hu
      · -- the last batch; what is claimed after it is pending as well
        have hlast : pending.drop (i + env.config.claimBatch) = [] :=
          List.drop_eq_nil_of_le (by omega)
        refine wp_mono (wp_recoverLoop_pending h loops _ t) (fun _ u hu => ?_) fun _ _ _ => trivial
        obtain ⟨entries, hpending, hu⟩ := hu
        refine ⟨_ ++ entries, List.append_subset.mpr ⟨hsub, hpending⟩, ?_, fun hlt => ?_, ?_⟩
        · rw [hsplit, hlast, List.take_nil, List.append_nil]
          exact List.subset_append_left _ _
        · rw [Nat.succ_mul] at hlt
          omega
        · rw [settledOf_append]
          exact ht.trans hu

end Loop

/-! ### Completeness -/

theorem recover_eq (stream : RecoveredStream) (s : StrategyRuntime σ P) :
    stream.recover.run env s = (recoverLoop (handleRecovered env.config stream)
      (stream.name env.config) maxPendingLoops "0-0").run env s := by
  cases stream <;> rfl

/-- A recovery that ends well settles every pending entry if and only if there are at most
`maxPendingLoops` batches of them and each one decodes or is taken by the dead-letter stream. -/
theorem recover_settles_iff {stream : RecoveredStream} {rt rt' : StrategyRuntime σ P}
    {pending : List StreamEntry}
    (hclaims : Autoclaims env.transport (stream.name env.config) env.config.claimBatch rt.tick pending)
    (hrun : stream.recover.run env rt = (.ok (), rt')) :
    (∀ entry ∈ pending, SettledSince rt rt' (stream.name env.config) entry.id) ↔
      pending.length ≤ maxPendingLoops * env.config.claimBatch ∧
      ∀ entry ∈ pending, Recoverable env stream (entry.message (stream.name env.config)) := by
  have hstart : StartsAt pending rt.tick 0 "0-0" rt := .inl ⟨rfl, rfl, rfl⟩
  rw [recover_eq] at hrun
  obtain ⟨entries, hsub, hall, honly, hsettling⟩ :=
    wp_ok (wp_recoverLoop hclaims maxPendingLoops 0 hstart) hrun
  rw [List.drop_zero] at hall honly
  rw [Nat.zero_add] at honly
  have hsame : ∀ a ∈ pending, ∀ b ∈ pending, a.id = b.id → a = b :=
    fun a ha b hb => List.inj_on_of_nodup_map hclaims.distinct ha hb
  -- an entry is settled if it was claimed and can be recovered
  have hiff : ∀ entry ∈ pending, SettledSince rt rt' (stream.name env.config) entry.id ↔
      entry ∈ entries ∧ Recoverable env stream (entry.message (stream.name env.config)) := by
    intro entry hmem
    rw [hsettling.settledSince_iff]
    constructor
    · rintro ⟨message, hmessage, hid, hrecoverable⟩
      obtain ⟨claimed, hclaimed, rfl⟩ := List.mem_map.mp hmessage
      rw [hsame entry hmem claimed (hsub hclaimed) hid.symm]
      exact ⟨hclaimed, hrecoverable⟩
    · rintro ⟨hclaimed, hrecoverable⟩
      exact ⟨_, List.mem_map.mpr ⟨entry, hclaimed, rfl⟩, rfl, hrecoverable⟩
  constructor
  · intro hsettled
    refine ⟨?_, fun entry hmem => ((hiff entry hmem).mp (hsettled entry hmem)).2⟩
    by_contra! hlong
    have hmem : pending[maxPendingLoops * env.config.claimBatch] ∈ pending := List.getElem_mem _
    have hclaimed := honly hlong ((hiff _ hmem).mp (hsettled _ hmem)).1
    -- the first entry after the last batch would stand at an earlier place as well
    obtain ⟨j, hj, hsome⟩ := List.mem_take_iff_getElem.mp hclaimed
    have hnodup : pending.Nodup := List.Nodup.of_map _ hclaims.distinct
    have hindex := (hnodup.getElem_inj_iff).mp hsome
    omega
  · rintro ⟨hlength, hrecoverable⟩ entry hmem
    have htaken : pending.take (maxPendingLoops * env.config.claimBatch) = pending :=
      List.take_of_length_le hlength
    rw [htaken] at hall
    exact (hiff entry hmem).mpr ⟨hall hmem, hrecoverable entry hmem⟩

/-! ### A backlog -/

def entriesFrom (pending : List StreamEntry) (start : String) : List StreamEntry :=
  if start = "0-0" then pending else pending.dropWhile (·.id ≠ start)

variable {pending : List StreamEntry}

theorem dropWhile_getElem (h : (pending.map (·.id)).Nodup) {i : ℕ} (hi : i < pending.length) :
    pending.dropWhile (·.id ≠ pending[i].id) = pending.drop i := by
  induction pending generalizing i with
  | nil => exact absurd hi (by simp)
  | cons entry pending ih =>
    obtain ⟨hnew, hrest⟩ := List.nodup_cons.mp h
    cases i with
    | zero => simp
    | succ i =>
      have hi' : i < pending.length := by simpa using hi
      have hne : entry.id ≠ pending[i].id :=
        fun heq => hnew (List.mem_map.mpr ⟨_, List.getElem_mem hi', heq.symm⟩)
      have hdrop := ih hrest hi'
      simpa [List.dropWhile_cons, hne] using hdrop

/-- A group with some pending entries that are idle when the first claim is made at `0`; afterwards
there are no others. -/
def backlogTransport (fromStr : String → Except String (Envelope JsonValue))
    (pending : List StreamEntry) : RedisTransport where
  fromStr := fromStr
  autoclaim tick _ start count :=
    let entries := if tick ≠ 0 ∧ start = "0-0" then [] else entriesFrom pending start
    some (.bulk [.data (cursor (entries.drop count)), .bulk ((entries.take count).map StreamEntry.value)])
  deadLetter _ _ := .done

theorem backlogTransport_autoclaims {fromStr : String → Except String (Envelope JsonValue)}
    (hnodup : (pending.map (·.id)).Nodup) (hzero : "0-0" ∉ pending.map (·.id)) (stream : String)
    (count : ℕ) :
    Autoclaims (backlogTransport fromStr pending) stream count 0 pending where
  distinct := hnodup
  first := ⟨_, rfl, [], by simp [entriesFrom]⟩
  next tick' i hi _ := by
    have hne : pending[i].id ≠ "0-0" :=
      fun heq => hzero (heq ▸ List.mem_map.mpr ⟨_, List.getElem_mem hi, rfl⟩)
    have hfrom : entriesFrom pending pending[i].id = pending.drop i := by
      rw [entriesFrom, if_neg hne, dropWhile_getElem hnodup hi]
    refine ⟨_, rfl, [], ?_⟩
    simp only [hne, and_false, if_false, hfrom, List.drop_drop]
  pendingOnly tick' start reply hreply := by
    rw [← Option.some.inj hreply]
    refine ⟨_, _, ⟨[], rfl⟩, fun entry hmem => ?_⟩
    have hentry := List.mem_of_mem_take hmem
    split at hentry
    · exact absurd hentry List.not_mem_nil
    · unfold entriesFrom at hentry
      split at hentry
      · exact hentry
      · exact (List.dropWhile_sublist _).subset hentry

def ackEntry (id : String) : StreamEntry := ⟨id, [("payload", "ack")]⟩

def ackTransport (pending : List StreamEntry) : RedisTransport :=
  backlogTransport (fun _ => .ok ⟨1, 0, "gateway", .commandAck,
    ⟨some (.confirmed (.other 0) none 0), none, none, none, none, none⟩⟩) pending

/-- A live runtime with a group of pending acks that it claims one by one. -/
def ackEnv (pending : List StreamEntry) : Env Unit Unit :=
  { calmEnv { liveConfig with claimBatch := 1 } silentStrategy 0 with
    transport := ackTransport pending }

def ackRuntime : StrategyRuntime Unit Unit := .new () ()

def recoveredAcks (pending : List StreamEntry) : StrategyRuntime Unit Unit :=
  RecoveredStream.acks.recover.post (ackEnv pending) ackRuntime

theorem ackEnv_autoclaims (hnodup : (pending.map (·.id)).Nodup) (hzero : "0-0" ∉ pending.map (·.id)) :
    Autoclaims (ackEnv pending).transport (RecoveredStream.acks.name (ackEnv pending).config)
      (ackEnv pending).config.claimBatch ackRuntime.tick pending :=
  backlogTransport_autoclaims hnodup hzero "acks" 1

/-- Two pending acks are both settled. -/
theorem recover_settles_acks :
    SettledSince ackRuntime (recoveredAcks [ackEntry "1-0", ackEntry "2-0"]) "acks" "1-0" ∧
      SettledSince ackRuntime (recoveredAcks [ackEntry "1-0", ackEntry "2-0"]) "acks" "2-0" := by
  have hsettled : ∀ entry ∈ [ackEntry "1-0", ackEntry "2-0"],
      SettledSince ackRuntime (recoveredAcks [ackEntry "1-0", ackEntry "2-0"]) "acks" entry.id :=
    (recover_settles_iff (ackEnv_autoclaims (by decide) (by decide)) rfl).mpr
      ⟨by decide, fun entry _ => .inr (.inr fun hrefused => Delivery.noConfusion hrefused)⟩
  exact ⟨hsettled (ackEntry "1-0") (by simp), hsettled (ackEntry "2-0") (by simp)⟩

instance (stream messageId : String) (event : HostEvent Unit) :
    Decidable (event.Settles stream messageId) := by
  cases event <;> unfold HostEvent.Settles <;> infer_instance

def elevenAcks : List StreamEntry :=
  ["1-0", "2-0", "3-0", "4-0", "5-0", "6-0", "7-0", "8-0", "9-0", "10-0", "11-0"].map ackEntry

/-- The last of eleven acks is claimed in no batch. -/
theorem not_recover_settles :
    ¬ ∀ (env : Env Unit Unit) (stream : RecoveredStream) (rt rt' : StrategyRuntime Unit Unit)
        (pending : List StreamEntry),
        Autoclaims env.transport (stream.name env.config) env.config.claimBatch rt.tick pending →
        stream.recover.run env rt = (.ok (), rt') →
        ∀ entry ∈ pending, SettledSince rt rt' (stream.name env.config) entry.id := by
  intro hclaim
  have hended : (RecoveredStream.acks.recover.run (ackEnv elevenAcks) ackRuntime).1.isOk = true := by
    decide +kernel
  have hleft : ¬ SettledSince ackRuntime (recoveredAcks elevenAcks) "acks" "11-0" := by
    unfold SettledSince
    decide +kernel
  exact hleft (hclaim (ackEnv elevenAcks) .acks ackRuntime _ elevenAcks
    (ackEnv_autoclaims (by decide) (by decide)) (run_eq_of_isOk hended) (ackEntry "11-0") (by decide))

end StrategyRuntime

end AlorRs
