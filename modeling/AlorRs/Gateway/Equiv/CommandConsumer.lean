import AlorRs.Gateway.CommandConsumer
import AlorRs.Lib.History

/-!
# Correctness of the command consumer

No command is sent twice, whatever fails in between (`Reached.executedOnce`).  A command is only
answered `Duplicate` if it was sent or answered before, unless a process ends between the mark of
the command and its answer (`Reached.duplicatesAnswered`).
-/

namespace AlorRs.Gateway

open Eff ConsumerM History

/-! ### What a log says of a command -/

/-- The event ends the handling of a command: it was executed, or answered other than
`Duplicate`. -/
def ConsumerEvent.Settles (requestId : Uuid) : ConsumerEvent → Prop
  | .executed requestId' => requestId' = requestId
  | .published ack => ack.requestId = requestId ∧ ack.status ≠ .duplicate
  | _ => False

def ConsumerEvent.executing? : ConsumerEvent → Option Uuid
  | .executing command _ => some command.requestId
  | _ => none

variable (log : List ConsumerEvent)

/-- The commands that were handed to `execute_command`, in order. -/
def executions : List Uuid := log.filterMap ConsumerEvent.executing?

/-- A `Duplicate` comes after an event that settles the command. -/
def ConsumerEvent.AnswersKnown (before : List ConsumerEvent) : ConsumerEvent → Prop
  | .published ack => ack.status = .duplicate → ∃ event ∈ before, event.Settles ack.requestId
  | _ => True

/-- Every `Duplicate` of the log comes after an event that settles the command. -/
def DuplicatesAnswered : Prop :=
  EachAfter ConsumerEvent.AnswersKnown log

theorem executions_append (new : List ConsumerEvent) :
    executions (log ++ new) = executions log ++ executions new := List.filterMap_append

/-- A log may go on with a `Duplicate` for what it settles. -/
theorem DuplicatesAnswered.append {log new : List ConsumerEvent} (h : DuplicatesAnswered log)
    (hnew : ∀ ack, .published ack ∈ new → ack.status = .duplicate →
      ∃ event ∈ log, event.Settles ack.requestId) : DuplicatesAnswered (log ++ new) := by
  refine EachAfter.append h fun event hmem before => ?_
  cases event with
  | published ack =>
    intro hduplicate
    obtain ⟨event, hevent, hsettles⟩ := hnew ack hmem hduplicate
    exact ⟨event, List.mem_append_left _ hevent, hsettles⟩
  | _ => exact trivial

/-! ### The end of a process -/

/-- How `prepareControlPath` ends from a tick on, with the next tick; without a value, the process
ends. -/
def controlPathAnswer (env : ConsumerEnv) (command : OrderCommand) (tick : ℕ) :
    Option (Option ControlPathFailure × ℕ) :=
  match legacyHardeningPolicy command env.config with
  | none => some (none, tick)
  | some _ =>
    (env.ensureFresh tick).bind fun
      | .error failure => some (some failure, tick + 1)
      | .ok outcome =>
        if outcome.recycled && outcome.postRecycleExitSendArmed then
          (env.beginExitSend (tick + 1)).bind fun
            | .error failure => some (some failure, tick + 2)
            | .ok () => some (none, tick + 2)
        else some (none, tick + 1)

/-- From a tick on, the consumer ends before the command was executed or answered: its answer
cannot be published, or the process ends while the command is sent. -/
def interrupted (env : ConsumerEnv) (command : OrderCommand) (tick : ℕ) : Bool :=
  match validateCommand command env.priceStep env.volumeStep (env.health tick)
    env.config.pauseWhenDegraded with
  | some _ => decide (env.delivery (tick + 2) = .refused)
  | none =>
    if isCommandExpired command (env.nowMs (tick + 1)) then
      decide (env.delivery (tick + 3) = .refused)
    else
      match controlPathAnswer env command (tick + 2) with
      | none => true
      | some (some _, tick) => decide (env.delivery (tick + 1) = .refused)
      | some (none, tick) => (env.execute tick).isNone

/-! ### The handling of a new command -/

/-- The log grows by the given executions, without a `Duplicate`, and nothing is marked. -/
def Sends (requestIds : List Uuid) (s t : CommandConsumer) : Prop :=
  t.marks = s.marks ∧ ∃ new, t.log = s.log ++ new ∧ executions new = requestIds ∧
    ∀ ack, .published ack ∈ new → ack.status ≠ .duplicate

def SettledSince (requestId : Uuid) (s t : CommandConsumer) : Prop :=
  ∃ event ∈ t.log.drop s.log.length, event.Settles requestId

section Sends

variable {requestId : Uuid} {requestIds requestIds' : List Uuid} {s t u : CommandConsumer}

theorem Sends.trans (h : Sends requestIds s t) (h' : Sends requestIds' t u) :
    Sends (requestIds ++ requestIds') s u := by
  obtain ⟨hmarks, new, hlog, hexecutions, hplain⟩ := h
  obtain ⟨hmarks', new', hlog', hexecutions', hplain'⟩ := h'
  refine ⟨hmarks'.trans hmarks, new ++ new', by rw [hlog', hlog, List.append_assoc], ?_, ?_⟩
  · rw [executions_append, hexecutions, hexecutions']
  · intro ack hack
    rcases List.mem_append.mp hack with hack | hack
    · exact hplain ack hack
    · exact hplain' ack hack

theorem Sends.of_eq (hmarks : t.marks = s.marks) (hlog : t.log = s.log) : Sends [] s t :=
  ⟨hmarks, [], by rw [hlog, List.append_nil], rfl, fun _ hack => absurd hack List.not_mem_nil⟩

variable {event : ConsumerEvent}

theorem Sends.push (hmarks : t.marks = s.marks) (hlog : t.log = s.log ++ [event])
    (hevent : executions [event] = requestIds)
    (hplain : ∀ ack, event = .published ack → ack.status ≠ .duplicate) : Sends requestIds s t := by
  refine ⟨hmarks, [event], hlog, hevent, fun ack hack => hplain ack ?_⟩
  exact (List.mem_singleton.mp hack).symm

instance : Std.Refl (Sends []) := ⟨fun _ => .of_eq rfl rfl⟩

instance : IsTrans CommandConsumer (Sends []) := ⟨fun _ _ _ => .trans⟩

theorem Sends.settledSince_left (h : SettledSince requestId s t) (h' : Sends requestIds s t)
    (h'' : Sends requestIds' t u) : SettledSince requestId s u := by
  obtain ⟨_, new, hlog, _⟩ := h'
  obtain ⟨_, new', hlog', _⟩ := h''
  obtain ⟨event, hmem, hsettles⟩ := h
  refine ⟨event, ?_, hsettles⟩
  rw [hlog, List.drop_left] at hmem
  rw [hlog', hlog, List.append_assoc, List.drop_left]
  exact List.mem_append_left _ hmem

theorem Sends.settledSince_right (h : Sends requestIds s t) (h' : Sends requestIds' t u)
    (h'' : SettledSince requestId t u) : SettledSince requestId s u := by
  obtain ⟨_, new, hlog, _⟩ := h
  obtain ⟨_, new', hlog', _⟩ := h'
  obtain ⟨event, hmem, hsettles⟩ := h''
  refine ⟨event, ?_, hsettles⟩
  rw [hlog', List.drop_left] at hmem
  rw [hlog', hlog, List.append_assoc, List.drop_left]
  exact List.mem_append_right _ hmem

theorem SettledSince.of_push (hlog : t.log = s.log ++ [event]) (h : event.Settles requestId) :
    SettledSince requestId s t := by
  refine ⟨event, ?_, h⟩
  rw [hlog, List.drop_left]
  exact List.mem_singleton.mpr rfl

end Sends

/-! ### Specifications -/

section Specs

variable {env : ConsumerEnv} {s : CommandConsumer} {envelope : CommandEnvelope} {α : Type}

@[simp] theorem wp_ask {ans : ConsumerEnv → ℕ → α} {Q : α → CommandConsumer → Prop}
    {R : ConsumerError → CommandConsumer → Prop} :
    wp (ask ans) env s Q R ↔ Q (ans env s.tick) { s with tick := s.tick + 1 } := Iff.rfl

@[simp] theorem wp_now {Q : ℤ → CommandConsumer → Prop}
    {R : ConsumerError → CommandConsumer → Prop} :
    wp now env s Q R ↔ Q (env.nowMs s.tick / 1000) { s with tick := s.tick + 1 } := Iff.rfl

theorem wp_write_record (event : ConsumerEvent) :
    wp (write (record event)) env s
      (fun _ t => t.marks = s.marks ∧ t.log = s.log ++ [event])
      fun _ t => t.marks = s.marks ∧
        (t.log = s.log ∧ env.delivery s.tick = .refused ∨ t.log = s.log ++ [event]) := by
  rw [write, wp_bind, wp_ask]
  cases hdelivery : env.delivery s.tick with
  | done => exact ⟨rfl, rfl⟩
  | refused => exact ⟨rfl, .inl ⟨rfl, rfl⟩⟩
  | lost => exact ⟨rfl, .inr rfl⟩

/-- The answer to a command is published before its message is acknowledged. -/
theorem wp_answer_log (ack : CommandAck) :
    wp (answer envelope ack) env s
      (fun _ t => t.marks = s.marks ∧ ∃ rest, t.log = s.log ++ .published ack :: rest ∧
        ∀ event ∈ rest, ∃ messageId, event = .acked messageId)
      fun _ t => t.marks = s.marks ∧ (t.log = s.log ∧ env.delivery s.tick = .refused ∨
        ∃ rest, t.log = s.log ++ .published ack :: rest ∧
          ∀ event ∈ rest, ∃ messageId, event = .acked messageId) := by
  have hnone : ∀ event ∈ ([] : List ConsumerEvent), ∃ messageId, event = .acked messageId :=
    fun _ hmem => absurd hmem List.not_mem_nil
  rw [answer, wp_bind]
  refine wp_mono (wp_write_record (.published ack)) (fun _ t ht => ?_) fun _ t ht => ?_
  · obtain ⟨hmarks, hlog⟩ := ht
    cases envelope.messageId with
    | none => exact ⟨hmarks, [], hlog, hnone⟩
    | some messageId =>
      have hacked : ∀ event ∈ [ConsumerEvent.acked messageId], ∃ messageId, event = .acked messageId :=
        fun event hmem => ⟨messageId, List.mem_singleton.mp hmem⟩
      refine wp_mono (wp_write_record (.acked messageId)) (fun _ u hu => ?_) fun _ u hu => ?_
      · refine ⟨hu.1.trans hmarks, [.acked messageId], ?_, hacked⟩
        rw [hu.2, hlog, List.append_assoc]
        rfl
      · refine ⟨hu.1.trans hmarks, .inr ?_⟩
        rcases hu.2 with ⟨hu, -⟩ | hu
        · exact ⟨[], hu.trans hlog, hnone⟩
        · refine ⟨[.acked messageId], ?_, hacked⟩
          rw [hu, hlog, List.append_assoc]
          rfl
  · exact ⟨ht.1, ht.2.imp_right fun hlog => ⟨[], hlog, hnone⟩⟩

/-- An answer other than `Duplicate` settles its command unless it cannot be published. -/
theorem wp_answer {ack : CommandAck} (h : ack.status ≠ .duplicate) :
    wp (answer envelope ack) env s (fun _ t => Sends [] s t ∧ SettledSince ack.requestId s t)
      fun _ t => Sends [] s t ∧
        (SettledSince ack.requestId s t ∨ env.delivery s.tick = .refused) := by
  have hsends : ∀ (t : CommandConsumer) rest, t.marks = s.marks →
      t.log = s.log ++ .published ack :: rest →
      (∀ event ∈ rest, ∃ messageId, event = .acked messageId) →
      Sends [] s t ∧ SettledSince ack.requestId s t := by
    intro t rest hmarks hlog hrest
    refine ⟨⟨hmarks, _, hlog, ?_, fun ack' hack' => ?_⟩, .published ack, ?_, rfl, h⟩
    · rw [executions, List.filterMap_eq_nil_iff]
      intro event hmem
      rcases List.mem_cons.mp hmem with rfl | hmem
      · rfl
      · obtain ⟨messageId, rfl⟩ := hrest event hmem
        rfl
    · rcases List.mem_cons.mp hack' with heq | hmem
      · rw [ConsumerEvent.published.inj heq]
        exact h
      · obtain ⟨messageId, heq⟩ := hrest _ hmem
        cases heq
    · rw [hlog, List.drop_left]
      exact List.mem_cons_self
  refine wp_mono (wp_answer_log ack) (fun _ t ht => ?_) fun _ t ht => ?_
  · obtain ⟨hmarks, rest, hlog, hrest⟩ := ht
    exact hsends t rest hmarks hlog hrest
  · obtain ⟨hmarks, ⟨hlog, hrefused⟩ | ⟨rest, hlog, hrest⟩⟩ := ht
    · exact ⟨.of_eq hmarks hlog, .inr hrefused⟩
    · exact (hsends t rest hmarks hlog hrest).imp_right .inl

variable (command : OrderCommand)

theorem wp_prepareControlPath :
    wp (prepareControlPath command) env s
      (fun failure t => Sends [] s t ∧ controlPathAnswer env command s.tick = some (failure, t.tick))
      fun _ t => Sends [] s t ∧ controlPathAnswer env command s.tick = none := by
  simp only [prepareControlPath, controlPathAnswer, wp_bind, wp_read]
  cases legacyHardeningPolicy command env.config with
  | none => exact ⟨.of_eq rfl rfl, rfl⟩
  | some policy =>
    rw [wp_bind, call, wp_bind, wp_ask]
    cases env.ensureFresh s.tick with
    | none => exact ⟨.of_eq rfl rfl, rfl⟩
    | some outcome =>
      cases outcome with
      | error failure => exact ⟨.of_eq rfl rfl, rfl⟩
      | ok outcome =>
        simp only [wp_pure, Option.bind_some]
        split
        · rw [wp_bind, call, wp_bind, wp_ask]
          cases env.beginExitSend (s.tick + 1) with
          | none => exact ⟨.of_eq rfl rfl, rfl⟩
          | some began =>
            cases began with
            | error | ok => exact ⟨.of_eq rfl rfl, rfl⟩
        · exact ⟨.of_eq rfl rfl, rfl⟩

theorem wp_executeCommand :
    wp (executeCommand command) env s
      (fun _ t => Sends [command.requestId] s t ∧ SettledSince command.requestId s t)
      fun _ t => Sends [command.requestId] s t ∧ (env.execute s.tick).isNone = true := by
  have hplain : ∀ {event : ConsumerEvent}, (∀ ack, event ≠ .published ack) →
      ∀ ack, event = .published ack → ack.status ≠ .duplicate :=
    fun h ack heq => absurd heq (h ack)
  simp only [executeCommand, record, call, wp_bind, wp_read, wp_modify, wp_ask]
  cases env.execute s.tick with
  | none => exact ⟨.push rfl rfl rfl (hplain fun _ => ConsumerEvent.noConfusion), rfl⟩
  | some response =>
    have hexecuting : Sends [command.requestId] s (CommandConsumer.mk s.marks s.requestMap
        (s.tick + 1) (s.log ++ [.executing command (executionPathForCommand command env.config)])) :=
      .push rfl rfl rfl (hplain fun _ => ConsumerEvent.noConfusion)
    have hexecuted : Sends [] (CommandConsumer.mk s.marks s.requestMap
        (s.tick + 1) (s.log ++ [.executing command (executionPathForCommand command env.config)]))
        (CommandConsumer.mk s.marks s.requestMap (s.tick + 1)
          (s.log ++ [.executing command (executionPathForCommand command env.config)] ++
            [.executed command.requestId])) :=
      .push rfl rfl rfl (hplain fun _ => ConsumerEvent.noConfusion)
    exact ⟨hexecuting.trans hexecuted,
      Sends.settledSince_right hexecuting hexecuted (.of_push rfl rfl)⟩

theorem wp_answer_settled {requestId : Uuid} {requestIds : List Uuid} {s₀ : CommandConsumer}
    {ack : CommandAck} (hack : ack.status ≠ .duplicate) (hsends : Sends requestIds s₀ s)
    (hsettled : SettledSince requestId s₀ s) :
    wp (answer envelope ack) env s
      (fun _ t => Sends requestIds s₀ t ∧ SettledSince requestId s₀ t)
      fun _ t => Sends requestIds s₀ t ∧ SettledSince requestId s₀ t := by
  have hnil : ∀ {t}, Sends [] s t → Sends requestIds s₀ t := by
    intro t ht
    have := hsends.trans ht
    rwa [List.append_nil] at this
  refine wp_mono (wp_answer hack) (fun _ t ht => ?_) fun _ t ht => ?_ <;>
    exact ⟨hnil ht.1, Sends.settledSince_left hsettled hsends ht.1⟩

variable (requestId : Uuid)

theorem buildCwsAck_status_ne (info : CwsResponseInfo) (now : ℤ) :
    (buildCwsAck requestId info now).status ≠ .duplicate := by
  unfold buildCwsAck classifyResponse
  dsimp only
  split_ifs <;> exact AckStatus.noConfusion

variable (envelope : CommandEnvelope)

/-- The command is executed once, and settled unless the process ends meanwhile. -/
theorem wp_sendCommand :
    wp (sendCommand envelope) env s
      (fun _ t => Sends [envelope.command.requestId] s t ∧
        SettledSince envelope.command.requestId s t)
      fun _ t => Sends [envelope.command.requestId] s t ∧
        (SettledSince envelope.command.requestId s t ∨ (env.execute s.tick).isNone = true) := by
  rw [sendCommand, wp_bind]
  refine wp_mono (wp_executeCommand _) (fun response t ht => ?_) fun _ t ht => ⟨ht.1, .inr ht.2⟩
  obtain ⟨hsends, hsettled⟩ := ht
  -- what leaves the marks and the log alone changes nothing here
  have hsame : ∀ u : CommandConsumer, u.marks = t.marks → u.log = t.log →
      Sends [envelope.command.requestId] s u ∧ SettledSince envelope.command.requestId s u := by
    intro u hmarks hlog
    refine ⟨?_, Sends.settledSince_left hsettled hsends (.of_eq hmarks hlog)⟩
    have := hsends.trans (Sends.of_eq hmarks hlog)
    rwa [List.append_nil] at this
  -- an answer settles the command, whatever it says
  have hanswer : ∀ (u : CommandConsumer) (ack : CommandAck), ack.status ≠ .duplicate →
      u.marks = t.marks → u.log = t.log →
      wp (answer envelope ack) env u
        (fun _ v => Sends [envelope.command.requestId] s v ∧
          SettledSince envelope.command.requestId s v)
        fun _ v => Sends [envelope.command.requestId] s v ∧
          (SettledSince envelope.command.requestId s v ∨ (env.execute s.tick).isNone = true) := by
    intro u ack hack hmarks hlog
    refine wp_mono (wp_answer_settled hack (hsame u hmarks hlog).1 (hsame u hmarks hlog).2)
      (fun _ v hv => hv) fun _ v hv => ⟨hv.1, .inl hv.2⟩
  cases response with
  | error error =>
    rw [wp_bind, wp_now]
    refine hanswer _ _ ?_ rfl rfl
    cases error <;> exact AckStatus.noConfusion
  | ok response =>
    dsimp only
    rw [wp_bind, wp_now]
    split
    · rw [wp_bind, wp_modify]
      exact hanswer _ _ (buildCwsAck_status_ne _ _ _) rfl rfl
    · exact hanswer _ _ (buildCwsAck_status_ne _ _ _) rfl rfl

def SendsOnce (s t : CommandConsumer) : Prop :=
  Sends [] s t ∨ Sends [requestId] s t

/-- A command that was not seen before is settled unless the handling is interrupted. -/
theorem wp_processCommand (s : CommandConsumer) :
    wp (processCommand envelope) env s
      (fun _ t => SendsOnce envelope.command.requestId s t ∧
        SettledSince envelope.command.requestId s t)
      fun _ t => SendsOnce envelope.command.requestId s t ∧
        (SettledSince envelope.command.requestId s t ∨
          interrupted env envelope.command s.tick = true) := by
  -- an answer settles the command unless its delivery is refused
  have hanswer : ∀ (t : CommandConsumer) (ack : CommandAck), ack.status ≠ .duplicate →
      ack.requestId = envelope.command.requestId → Sends [] s t →
      (env.delivery t.tick = .refused → interrupted env envelope.command s.tick = true) →
      wp (answer envelope ack) env t
        (fun _ u => SendsOnce envelope.command.requestId s u ∧
          SettledSince envelope.command.requestId s u)
        fun _ u => SendsOnce envelope.command.requestId s u ∧
          (SettledSince envelope.command.requestId s u ∨
            interrupted env envelope.command s.tick = true) := by
    intro t ack hack hid ht hrefused
    refine wp_mono (wp_answer hack) (fun _ u hu => ?_) fun _ u hu => ⟨.inl (ht.trans hu.1), ?_⟩
    · rw [hid] at hu
      exact ⟨.inl (ht.trans hu.1), Sends.settledSince_right ht hu.1 hu.2⟩
    · rw [hid] at hu
      exact hu.2.imp (Sends.settledSince_right ht hu.1) hrefused
  simp only [processCommand, wp_bind, wp_read, wp_ask]
  cases hvalid : validateCommand envelope.command env.priceStep env.volumeStep
      (env.health s.tick) env.config.pauseWhenDegraded with
  | some errorCode =>
    rw [wp_bind, wp_now]
    refine hanswer _ _ AckStatus.noConfusion rfl (.of_eq rfl rfl) fun hrefused => ?_
    rw [interrupted, hvalid]
    exact decide_eq_true hrefused
  | none =>
    rw [wp_bind, wp_ask]
    by_cases hexpired : isCommandExpired envelope.command (env.nowMs (s.tick + 1)) = true
    · rw [if_pos hexpired, wp_bind, wp_now]
      refine hanswer _ _ AckStatus.noConfusion rfl (.of_eq rfl rfl) fun hrefused => ?_
      simp only [interrupted, hvalid, hexpired, if_true]
      exact decide_eq_true hrefused
    · rw [if_neg hexpired, wp_bind, wp_modify, wp_bind]
      -- nothing is sent before the control path is asked for
      obtain ⟨hstart, htick⟩ : Sends [] s (preinsertCancel envelope.command
          { s with tick := s.tick + 1 + 1 }) ∧ (preinsertCancel envelope.command
          { s with tick := s.tick + 1 + 1 }).tick = s.tick + 2 := by
        unfold preinsertCancel
        split <;> exact ⟨.of_eq rfl rfl, rfl⟩
      refine wp_mono (wp_prepareControlPath envelope.command) (fun failure t ht => ?_)
        fun _ t ht => ?_
      · obtain ⟨hready, hpath⟩ := ht
        rw [htick] at hpath
        have hready := hstart.trans hready
        cases failure with
        | some failure =>
          rw [wp_bind, wp_now]
          refine hanswer _ _ AckStatus.noConfusion rfl (hready.trans (.of_eq rfl rfl))
            fun hrefused => ?_
          simp only [interrupted, hvalid, hexpired, hpath]
          exact decide_eq_true hrefused
        | none =>
          -- the path is ready, and the command goes out
          refine wp_mono (wp_sendCommand envelope) (fun _ u hu => ?_) fun _ u hu => ?_
          · exact ⟨.inr (hready.trans hu.1), Sends.settledSince_right hready hu.1 hu.2⟩
          · refine ⟨.inr (hready.trans hu.1), hu.2.imp (Sends.settledSince_right hready hu.1) ?_⟩
            intro hnone
            simp only [interrupted, hvalid, hexpired, hpath]
            exact hnone
      -- the control path was dropped
      · rw [htick] at ht
        refine ⟨.inl (hstart.trans ht.1), .inr ?_⟩
        simp only [interrupted, hvalid, hexpired, ht.2]
        rfl

theorem wp_checkAndSet :
    wp (checkAndSet requestId) env s
      (fun fresh t => env.delivery s.tick = .done ∧ t.tick = s.tick + 1 ∧
        ((fresh = false ∧ requestId ∈ s.marks ∧ t.marks = s.marks ∧ t.log = s.log) ∨
        (fresh = true ∧ requestId ∉ s.marks ∧ t.marks = requestId :: s.marks ∧
          t.log = s.log ++ [.marked requestId])))
      fun _ t => (t.marks = s.marks ∧ t.log = s.log) ∨
        (env.delivery s.tick = .lost ∧ requestId ∉ s.marks ∧ t.marks = requestId :: s.marks ∧
          t.log = s.log ++ [.marked requestId]) := by
  simp only [checkAndSet, write, wp_bind, wp_get, wp_ask]
  by_cases hmem : requestId ∈ s.marks
  · simp only [hmem, if_true, not_true_eq_false, decide_false]
    cases env.delivery s.tick with
    | done => exact ⟨rfl, rfl, .inl ⟨rfl, trivial, rfl, rfl⟩⟩
    | refused | lost => exact .inl ⟨rfl, rfl⟩
  · simp only [hmem, if_false, not_false_eq_true, decide_true]
    cases env.delivery s.tick with
    | done => exact ⟨rfl, rfl, .inr ⟨rfl, trivial, rfl, rfl⟩⟩
    | refused => exact .inl ⟨rfl, rfl⟩
    | lost => exact .inr ⟨rfl, trivial, rfl, rfl⟩

end Specs

/-! ### Runs -/

/-- A message that is handed to the consumer, with the answers that its handling meets. -/
structure Attempt where
  env : ConsumerEnv
  envelope : CommandEnvelope

namespace Attempt

variable (attempt : Attempt) (consumer : CommandConsumer)

/-- The consumer handles the message.  If it ends, it is started again: the keys of the store are
what it finds. -/
def apply : CommandConsumer :=
  match (consumeCommand attempt.envelope).run attempt.env consumer with
  | (.ok (), consumer) => consumer
  | (.error _, consumer) => { consumer with requestMap := ∅ }

def Unacked : Prop :=
  ∀ messageId, attempt.envelope.messageId = some messageId →
    ConsumerEvent.acked messageId ∉ consumer.log

/-- The consumer ends between the mark of a new command and its execution or answer. -/
def CutsShort : Prop :=
  attempt.envelope.command.requestId ∉ consumer.marks ∧
    (attempt.env.delivery consumer.tick = .lost ∨ attempt.env.delivery consumer.tick = .done ∧
        interrupted attempt.env attempt.envelope.command (consumer.tick + 1) = true)

end Attempt

inductive Reached (allowed : Attempt → CommandConsumer → Prop) : CommandConsumer → Prop
  | new : Reached allowed .new
  | handled {consumer : CommandConsumer} (attempt : Attempt) :
    Reached allowed consumer → allowed attempt consumer → Reached allowed (attempt.apply consumer)

/-- What the handling of a message does to the marks and the log. -/
inductive Handles (attempt : Attempt) (s t : CommandConsumer) : Prop
  | ended (marks : t.marks = s.marks) (log : t.log = s.log)
  | repeated (known : attempt.envelope.command.requestId ∈ s.marks) (marks : t.marks = s.marks)
      (ack : CommandAck) (rest : List ConsumerEvent)
      (requestId : ack.requestId = attempt.envelope.command.requestId)
      (log : t.log = s.log ++ .published ack :: rest)
      (acked : ∀ event ∈ rest, ∃ messageId, event = .acked messageId)
  | started (new : attempt.envelope.command.requestId ∉ s.marks)
      (marks : t.marks = attempt.envelope.command.requestId :: s.marks)
      (events : List ConsumerEvent) (log : t.log = s.log ++ events)
      (once : executions events = [] ∨ executions events = [attempt.envelope.command.requestId])
      (plain : ∀ ack, .published ack ∈ events → ack.status ≠ .duplicate)
      (settled : (∃ event ∈ events, event.Settles attempt.envelope.command.requestId) ∨
        attempt.CutsShort s)

variable {attempt : Attempt} {s t : CommandConsumer}

/-- A new command, from its mark on. -/
theorem Handles.of_sendsOnce {u : CommandConsumer}
    (hnew : attempt.envelope.command.requestId ∉ s.marks)
    (hmarks : t.marks = attempt.envelope.command.requestId :: s.marks)
    (hlog : t.log = s.log ++ [.marked attempt.envelope.command.requestId])
    (hsends : SendsOnce attempt.envelope.command.requestId t u)
    (hsettled : SettledSince attempt.envelope.command.requestId t u ∨ attempt.CutsShort s) :
    Handles attempt s u := by
  obtain ⟨new, hmarks', hlog', honce, hplain⟩ : ∃ new, u.marks = t.marks ∧ u.log = t.log ++ new ∧
      (executions new = [] ∨ executions new = [attempt.envelope.command.requestId]) ∧
      ∀ ack, .published ack ∈ new → ack.status ≠ .duplicate := by
    rcases hsends with ⟨hmarks', new, hlog', hexecutions, hplain⟩ |
      ⟨hmarks', new, hlog', hexecutions, hplain⟩
    · exact ⟨new, hmarks', hlog', .inl hexecutions, hplain⟩
    · exact ⟨new, hmarks', hlog', .inr hexecutions, hplain⟩
  refine .started hnew (hmarks'.trans hmarks)
    (.marked attempt.envelope.command.requestId :: new) ?_ honce (fun ack hack => ?_) ?_
  · rw [hlog', hlog, List.append_assoc]
    rfl
  · rcases List.mem_cons.mp hack with heq | hmem
    · cases heq
    · exact hplain ack hmem
  · refine hsettled.imp_left fun ⟨event, hmem, hsettles⟩ => ⟨event, ?_, hsettles⟩
    rw [hlog', List.drop_left] at hmem
    exact List.mem_cons_of_mem _ hmem

theorem handles_apply (attempt : Attempt) (s : CommandConsumer) :
    Handles attempt s (attempt.apply s) := by
  have hspec : wp (consumeCommand attempt.envelope) attempt.env s
      (fun _ => Handles attempt s) fun _ => Handles attempt s := by
    rw [consumeCommand, wp_bind]
    refine wp_mono (wp_checkAndSet _) (fun fresh t ht => ?_) fun _ t ht => ?_
    -- the command was seen before, and only the answer is repeated
    · obtain ⟨hdone, htick, ⟨rfl, hknown, hmarks, hlog⟩ | ⟨rfl, hnew, hmarks, hlog⟩⟩ := ht
      · rw [if_neg Bool.false_ne_true, wp_bind, wp_now]
        refine wp_mono (wp_answer_log _) (fun _ u hu => ?_) fun _ u hu => ?_
        · obtain ⟨hmarks', rest, hlog', hrest⟩ := hu
          exact .repeated hknown (hmarks'.trans hmarks) _ rest rfl (by rw [hlog', hlog]) hrest
        · obtain ⟨hmarks', ⟨hlog', -⟩ | ⟨rest, hlog', hrest⟩⟩ := hu
          · exact .ended (hmarks'.trans hmarks) (hlog'.trans hlog)
          · exact .repeated hknown (hmarks'.trans hmarks) _ rest rfl (by rw [hlog', hlog]) hrest
      · rw [if_pos rfl]
        refine wp_mono (wp_processCommand attempt.envelope t) (fun _ u hu => ?_) fun _ u hu => ?_
        · exact .of_sendsOnce hnew hmarks hlog hu.1 (.inl hu.2)
        · rw [htick] at hu
          exact .of_sendsOnce hnew hmarks hlog hu.1
            (hu.2.imp_right fun hinterrupted => ⟨hnew, .inr ⟨hdone, hinterrupted⟩⟩)
    -- the process ended while it looked the command up
    · rcases ht with ⟨hmarks, hlog⟩ | ⟨hlost, hnew, hmarks, hlog⟩
      · exact .ended hmarks hlog
      · exact .of_sendsOnce hnew hmarks hlog (.inl (.of_eq rfl rfl)) (.inr ⟨hnew, .inl hlost⟩)
  -- a restart forgets the map of requests, which the log does not show
  have hforget : ∀ t : CommandConsumer, Handles attempt s t →
      Handles attempt s { t with requestMap := ∅ } := by
    intro t ht
    cases ht with
    | ended hmarks hlog => exact .ended hmarks hlog
    | repeated hknown hmarks ack rest hid hlog hrest =>
      exact .repeated hknown hmarks ack rest hid hlog hrest
    | started hnew hmarks events hlog honce hplain hsettled =>
      exact .started hnew hmarks events hlog honce hplain hsettled
  unfold wp at hspec
  unfold Attempt.apply
  generalize (consumeCommand attempt.envelope).run attempt.env s = out at *
  rcases out with ⟨_ | ⟨⟩, t⟩
  · exact hforget t hspec
  · exact hspec

/-! ### Invariants of runs -/

structure ExecutedOnce (consumer : CommandConsumer) : Prop where
  marked : ∀ requestId ∈ executions consumer.log, requestId ∈ consumer.marks
  once : (executions consumer.log).Nodup

theorem ExecutedOnce.handles (h : ExecutedOnce s) (hstep : Handles attempt s t) : ExecutedOnce t := by
  cases hstep with
  | ended hmarks hlog => exact ⟨by rw [hlog, hmarks]; exact h.marked, by rw [hlog]; exact h.once⟩
  | repeated hknown hmarks ack rest hid hlog hrest =>
    -- a repeated answer executes nothing
    have hnone : executions (.published ack :: rest) = [] := by
      rw [executions, List.filterMap_eq_nil_iff]
      intro event hmem
      rcases List.mem_cons.mp hmem with rfl | hmem
      · rfl
      · obtain ⟨messageId, rfl⟩ := hrest event hmem
        rfl
    have hsame : executions t.log = executions s.log := by
      rw [hlog, executions_append, hnone, List.append_nil]
    exact ⟨by rw [hsame, hmarks]; exact h.marked, by rw [hsame]; exact h.once⟩
  | started hnew hmarks events hlog honce hplain hsettled =>
    rcases honce with hnone | hone
    · have hsame : executions t.log = executions s.log := by
        rw [hlog, executions_append, hnone, List.append_nil]
      refine ⟨fun requestId hmem => ?_, by rw [hsame]; exact h.once⟩
      rw [hsame] at hmem
      rw [hmarks]
      exact List.mem_cons_of_mem _ (h.marked requestId hmem)
    -- the one execution is of the command that was just marked
    · have hmore : executions t.log = executions s.log ++ [attempt.envelope.command.requestId] := by
        rw [hlog, executions_append, hone]
      refine ⟨fun requestId hmem => ?_, ?_⟩
      · rw [hmore, List.mem_append, List.mem_singleton] at hmem
        rw [hmarks]
        rcases hmem with hmem | rfl
        · exact List.mem_cons_of_mem _ (h.marked requestId hmem)
        · exact List.mem_cons_self
      · rw [hmore, List.nodup_append]
        refine ⟨h.once, List.nodup_singleton _, fun requestId hmem other hother heq => hnew ?_⟩
        rw [← List.mem_singleton.mp hother, ← heq]
        exact h.marked requestId hmem

theorem Reached.executedOnce {allowed : Attempt → CommandConsumer → Prop}
    {consumer : CommandConsumer} (h : Reached allowed consumer) : ExecutedOnce consumer := by
  induction h with
  | new => exact ⟨fun _ hmem => absurd hmem List.not_mem_nil, List.nodup_nil⟩
  | handled attempt _ _ ih => exact ih.handles (handles_apply attempt _)

structure MarkedSettled (consumer : CommandConsumer) : Prop where
  settled : ∀ requestId ∈ consumer.marks, ∃ event ∈ consumer.log, event.Settles requestId
  answered : DuplicatesAnswered consumer.log

theorem MarkedSettled.handles (h : MarkedSettled s) (hstep : Handles attempt s t)
    (hcut : ¬ attempt.CutsShort s) : MarkedSettled t := by
  cases hstep with
  | ended hmarks hlog =>
    exact ⟨by rw [hlog, hmarks]; exact h.settled, by rw [hlog]; exact h.answered⟩
  | repeated hknown hmarks ack rest hid hlog hrest =>
    refine ⟨fun requestId hmem => ?_, ?_⟩
    · rw [hmarks] at hmem
      obtain ⟨event, hevent, hsettles⟩ := h.settled requestId hmem
      exact ⟨event, by rw [hlog]; exact List.mem_append_left _ hevent, hsettles⟩
    · rw [hlog]
      refine h.answered.append fun ack' hack' _ => ?_
      rcases List.mem_cons.mp hack' with heq | hmem
      · rw [ConsumerEvent.published.inj heq, hid]
        exact h.settled _ hknown
      · obtain ⟨messageId, heq⟩ := hrest _ hmem
        cases heq
  | started hnew hmarks events hlog honce hplain hsettled =>
    refine ⟨fun requestId hmem => ?_, ?_⟩
    · rw [hmarks] at hmem
      rw [hlog]
      rcases List.mem_cons.mp hmem with rfl | hmem
      · obtain ⟨event, hevent, hsettles⟩ := hsettled.resolve_right hcut
        exact ⟨event, List.mem_append_right _ hevent, hsettles⟩
      · obtain ⟨event, hevent, hsettles⟩ := h.settled requestId hmem
        exact ⟨event, List.mem_append_left _ hevent, hsettles⟩
    · rw [hlog]
      exact h.answered.append fun ack hack hduplicate => absurd hduplicate (hplain ack hack)

/-- If no handling is cut short, a command is only answered `Duplicate` after it was executed or
answered, and no command is executed twice. -/
theorem Reached.duplicatesAnswered {consumer : CommandConsumer}
    (h : Reached (fun attempt consumer => attempt.Unacked consumer ∧ ¬ attempt.CutsShort consumer)
      consumer) : DuplicatesAnswered consumer.log ∧ (executions consumer.log).Nodup := by
  refine ⟨?_, h.executedOnce.once⟩
  have hsettled : MarkedSettled consumer := by
    induction h with
    | new =>
      exact ⟨fun _ hmem => absurd hmem List.not_mem_nil, eachAfter_nil⟩
    | handled attempt _ hallowed ih => exact ih.handles (handles_apply attempt _) hallowed.2
  exact hsettled.answered

/-! ### A market order that is delivered twice -/

/-- A gateway that is ready and answers every command with code 200; the given writes fail with
their effect. -/
def readyConsumer (lost : List ℕ) (executes : Bool) : ConsumerEnv where
  config := ⟨true, false, false, .legacyLongLived, false, false, false, false⟩
  priceStep := 1
  volumeStep := 1
  nowMs := fun _ => 1700000000000
  health := fun _ => ⟨.liveReady, false, some .opened⟩
  delivery := fun tick => if tick ∈ lost then .lost else .done
  ensureFresh := fun _ => none
  beginExitSend := fun _ => none
  execute := fun _ =>
    if executes then some (.ok (.object [("httpCode", .number (.posInt 200))])) else none

def marketDelivery : CommandEnvelope where
  command :=
    { requestId := .other 1, createdTsUtc := 1700000000, strategyId := "s", portfolio := "p"
      exchange := "MOEX", symbol := "SBER", action := .market ⟨1, .buy, none⟩, intentClass := none
      ttlMs := none }
  messageId := some "1-0"

/-- The ack of the order is published, but its message is not acknowledged; then the message is
delivered again. -/
theorem reached_duplicatesAnswered_marketDelivery :
    DuplicatesAnswered ((Attempt.mk (readyConsumer [] true) marketDelivery).apply
      ((Attempt.mk (readyConsumer [5] true) marketDelivery).apply .new)).log ∧
    (executions ((Attempt.mk (readyConsumer [] true) marketDelivery).apply
      ((Attempt.mk (readyConsumer [5] true) marketDelivery).apply .new)).log).Nodup := by
  refine Reached.duplicatesAnswered (.handled _ (.handled _ .new ⟨?_, ?_⟩) ⟨?_, ?_⟩)
  · intro messageId _
    exact List.not_mem_nil
  · rintro ⟨-, hlost | ⟨-, hinterrupted⟩⟩
    · revert hlost
      decide
    · revert hinterrupted
      decide +kernel
  · intro messageId hid
    cases hid
    decide +kernel
  · rintro ⟨hnew, -⟩
    revert hnew
    decide +kernel

/-- A process that ends while it sends the order is followed by a `Duplicate` for an order that
was neither executed nor answered. -/
theorem not_reached_duplicatesAnswered :
    ¬ ∀ consumer : CommandConsumer, Reached Attempt.Unacked consumer →
      DuplicatesAnswered consumer.log ∧ (executions consumer.log).Nodup := by
  intro h
  have hreached : Reached Attempt.Unacked
      ((Attempt.mk (readyConsumer [] true) marketDelivery).apply
        ((Attempt.mk (readyConsumer [] false) marketDelivery).apply .new)) := by
    refine .handled _ (.handled _ .new fun _ _ => List.not_mem_nil) fun messageId hid => ?_
    cases hid
    decide +kernel
  obtain ⟨event, hmem, hsettles⟩ := (h _ hreached).1 2
    (.published (.duplicate (.other 1) 1700000000)) (by decide +kernel) rfl
  have hlog : ((Attempt.mk (readyConsumer [] true) marketDelivery).apply
      ((Attempt.mk (readyConsumer [] false) marketDelivery).apply .new)).log.take 2 =
      [.marked (.other 1), .executing marketDelivery.command .legacyLongLived] := by
    decide +kernel
  rw [hlog] at hmem
  rcases List.mem_cons.mp hmem with rfl | hmem
  · exact hsettles
  · rw [List.mem_singleton.mp hmem] at hsettles
    exact hsettles

/-! ### Expiry -/

/-- A deadline that no `i64` holds has wrapped round to the past: the command is not expired by
then only if the wrapped deadline is still ahead. -/
theorem wrapI64_deadline {createdMs ttl : ℤ} (hcreated : 0 < createdMs) (hlast : createdMs < 2 ^ 63)
    (httl : 0 < ttl) (hmax : ttl < 2 ^ 64) :
    wrapI64 (createdMs + wrapI64 ttl) =
      if createdMs + ttl < 2 ^ 63 then createdMs + ttl else createdMs + ttl - 2 ^ 64 := by
  unfold wrapI64
  simp only [Int.bmod_def]
  split_ifs <;> omega

/-- The expiry of a command is the comparison of the exact integers, unless the deadline is past
the last `i64` and wraps to a time that is over. -/
theorem isCommandExpired_iff {command : OrderCommand} {ttl : ℕ} {nowMs : ℤ}
    (hsome : command.ttlMs = some ttl) (httl : 0 < ttl) (hmax : ttl < 2 ^ 64)
    (hcreated : 0 < command.createdTsUtc) (hlast : command.createdTsUtc < 2 ^ 63)
    (hnow : nowMs < 2 ^ 63) :
    (isCommandExpired command nowMs = true ↔ command.createdTsUtc * 1000 + ttl < nowMs) ↔
      command.createdTsUtc * 1000 + ttl < 2 ^ 63 ∨
        nowMs + 2 ^ 64 ≤ min (command.createdTsUtc * 1000) (2 ^ 63 - 1) + ttl := by
  have hthousand : saturatingThousand command.createdTsUtc =
      min (command.createdTsUtc * 1000) (2 ^ 63 - 1) := by
    unfold saturatingThousand
    omega
  have hexpired : isCommandExpired command nowMs = true ↔
      wrapI64 (saturatingThousand command.createdTsUtc + wrapI64 ttl) < nowMs := by
    simp [isCommandExpired, hsome, httl.ne', hcreated.not_ge]
  rw [hexpired, hthousand,
    wrapI64_deadline (lt_min (by omega) (by norm_num)) (by omega) (by omega) (by omega)]
  split_ifs <;> omega

def expiringOrder (ttl : ℕ) : OrderCommand :=
  { marketDelivery.command with ttlMs := some ttl }

/-- A minute after its creation, an order that lives for a minute is not expired. -/
theorem isCommandExpired_iff_expiringOrder :
    isCommandExpired (expiringOrder 60000) 1700000060000 = true ↔
      1700000000 * 1000 + 60000 < (1700000060000 : ℤ) :=
  (@isCommandExpired_iff (expiringOrder 60000) _ _ rfl (by norm_num) (by norm_num) (by decide)
    (by decide) (by norm_num)).mpr (.inl (by decide))

/-- An order that lives for `2 ^ 63` milliseconds is expired a second after its creation. -/
theorem isCommandExpired_expiringOrder :
    ¬ (isCommandExpired (expiringOrder (2 ^ 63)) 1700000001000 = true ↔
      (expiringOrder (2 ^ 63)).createdTsUtc * 1000 + (2 ^ 63 : ℕ) < 1700000001000) := by
  decide

end AlorRs.Gateway
