import AlorRs.Gateway.TransportRedis
import AlorRs.Lib.Reaction

/-!
# No command vanishes

Every entry of the commands stream is waiting or pending, was returned as an envelope, or was acknowledged
by the source, and what the source acknowledged is in the dead-letter stream, as long as no entry is
acknowledged whose dead-letter entry could not be written (`always_accounted_iff`).
-/

namespace AlorRs

namespace Gateway

open RedisCommandSource

/-- What happens to the stream: an entry is added, a consumer asks for a command, or a caller acknowledges
an envelope that it was given. -/
inductive CommandsEvent where
  | add (entry : RawEntry)
  | next (turn : Turn)
  | ackEnvelope (messageId : String) (outcome : Delivery)

def idsOf (entries : List RawEntry) : List String := entries.map RawEntry.id

def CommandsState.openIds (s : CommandsState) : List String := idsOf s.waiting ++ idsOf s.pending

def CommandsState.deadIds (s : CommandsState) : List String := s.dlq.map DlqRecord.originalId

/-- The streams, with the entries that were ever added, that were returned as envelopes, and that the source
acknowledged by itself. -/
structure CommandsRun where
  state : CommandsState
  added : List String
  handed : List String
  acked : List String

namespace CommandsRun

def start : CommandsRun := ⟨⟨[], [], [], []⟩, [], [], []⟩

variable (source : RedisCommandSource) (r : CommandsRun)

def afterNext (turn : Turn) : CommandsRun :=
  let (s', result) := source.nextCommand r.state turn
  { r with
    state := s'
    handed := r.handed ++ (result.join.bind CommandEnvelope.messageId).toList
    acked := r.acked ++ r.state.openIds.filter fun id => id ∉ s'.openIds }

def step : CommandsEvent → CommandsRun × Unit
  | .add entry =>
    if entry.id ∈ r.added then (r, ())
    else ({ r with
      state := { r.state with waiting := r.state.waiting ++ [entry] }
      added := r.added ++ [entry.id] }, ())
  | .next turn => (r.afterNext source turn, ())
  | .ackEnvelope messageId outcome =>
    if messageId ∈ r.handed then ({ r with state := r.state.ack messageId outcome }, ()) else (r, ())

/-- No entry vanishes, and the source acknowledges only what is in the dead-letter stream. -/
structure Accounts (r : CommandsRun) : Prop where
  added : ∀ id ∈ r.added, id ∈ r.state.openIds ∨ id ∈ r.handed ∨ id ∈ r.acked
  acked : ∀ id ∈ r.acked, id ∈ r.state.deadIds

def Accounted (e : CommandsEvent) : Prop := (r.step source e).1.Accounts

/-- An entry that carries no command is written to the dead-letter stream, now or in an earlier attempt, or
its acknowledgment fails too. -/
def WritesFirst : CommandsEvent → Prop
  | .next turn =>
    ∀ entry, (source.receive r.state turn).2 = some (some entry) →
      (source.commandOf entry).isOk = false →
        applies turn.writeDlq = true ∨ entry.messageId ∈ r.state.deadIds ∨ applies turn.ack = false
  | .add _ | .ackEnvelope _ _ => True

variable {source}
variable {r : CommandsRun}

/-! ### What a run keeps -/

/-- Entries have ids of their own, and none is open that was not added. -/
structure Kept (r : CommandsRun) : Prop where
  nodup : r.state.openIds.Nodup
  opened : ∀ id ∈ r.state.openIds, id ∈ r.added
  accounts : r.Accounts

theorem kept_start : start.Kept :=
  ⟨List.nodup_nil, List.forall_mem_nil _, ⟨List.forall_mem_nil _, List.forall_mem_nil _⟩⟩

end CommandsRun

/-! ### What the source does to the streams -/

namespace CommandsState

variable {s : CommandsState}

theorem openIds_deliver : s.deliver.openIds.Perm s.openIds := by
  unfold openIds deliver idsOf
  cases s.waiting with
  | nil => simp
  | cons entry waiting =>
    simp only [List.tail_cons, List.head?_cons, Option.toList_some, List.map_append, List.map_cons,
      List.map_nil, ← List.append_assoc, List.cons_append]
    exact List.perm_append_singleton ..

theorem mem_openIds_ack {id messageId : String} {outcome : Delivery} :
    id ∈ (s.ack messageId outcome).openIds ↔ id ∈ idsOf s.waiting ∨
      id ∈ idsOf s.pending ∧ (applies outcome = true → id ≠ messageId) := by
  unfold openIds ack idsOf
  rw [List.mem_append]
  cases happlies : applies outcome with
  | true =>
    rw [if_pos rfl]
    simp only [List.mem_map, List.mem_filter, decide_eq_true_eq, forall_const]
    refine or_congr_right ⟨?_, ?_⟩
    · rintro ⟨entry, ⟨hmem, hne⟩, rfl⟩
      exact ⟨⟨entry, hmem, rfl⟩, hne⟩
    · rintro ⟨⟨entry, hmem, rfl⟩, hne⟩
      exact ⟨entry, ⟨hmem, hne⟩, rfl⟩
  | false =>
    rw [if_neg Bool.false_ne_true]
    exact or_congr_right (and_iff_left (fun heq => by cases heq)).symm

theorem openIds_ack_sublist (messageId : String) (outcome : Delivery) :
    (s.ack messageId outcome).openIds.Sublist s.openIds := by
  unfold ack
  split_ifs
  · exact List.Sublist.append_left (List.filter_sublist.map _) _
  · exact List.Sublist.refl _

variable (record : DlqRecord) (outcome : Delivery)

theorem waiting_writeDlq : (s.writeDlq record outcome).waiting = s.waiting := by
  unfold writeDlq
  split <;> rfl

theorem pending_writeDlq : (s.writeDlq record outcome).pending = s.pending := by
  unfold writeDlq
  split <;> rfl

theorem openIds_writeDlq : (s.writeDlq record outcome).openIds = s.openIds := by
  unfold openIds
  rw [waiting_writeDlq, pending_writeDlq]

theorem deadIds_writeDlq :
    (s.writeDlq record outcome).deadIds =
      s.deadIds ++ if applies outcome then [record.originalId] else [] := by
  unfold writeDlq
  split_ifs
  · exact List.map_append
  · exact (List.append_nil _).symm

theorem deadIds_ack (messageId : String) (outcome : Delivery) :
    (s.ack messageId outcome).deadIds = s.deadIds := by
  unfold ack
  split <;> rfl

end CommandsState

namespace RedisCommandSource

variable {source : RedisCommandSource} {s s' : CommandsState} {turn : Turn}

theorem ensureGroup_streams (s : CommandsState) (turn : Turn) :
    (ensureGroup s turn).1.waiting = s.waiting ∧ (ensureGroup s turn).1.pending = s.pending ∧
      (ensureGroup s turn).1.dlq = s.dlq := by
  unfold ensureGroup
  split_ifs
  · exact ⟨rfl, rfl, rfl⟩
  · cases turn.createGroup <;> exact ⟨rfl, rfl, rfl⟩

/-- What getting an entry does to the streams: every entry stays open, and the one that is got is
pending. -/
structure Received (s s' : CommandsState) (result : Option (Option StreamEntry)) : Prop where
  openIds : s'.openIds.Perm s.openIds
  dlq : s'.dlq = s.dlq
  pending : ∀ entry, result = some (some entry) → entry.messageId ∈ idsOf s'.pending

theorem receive_spec (source : RedisCommandSource) (s : CommandsState) (turn : Turn) :
    Received s (source.receive s turn).1 (source.receive s turn).2 := by
  obtain ⟨hwaiting, hpending, hdlq⟩ := ensureGroup_streams s turn
  -- making the group moves no entry
  have hopen : (ensureGroup s turn).1.openIds = s.openIds := by
    unfold CommandsState.openIds
    rw [hwaiting, hpending]
  have hnone : Received s (ensureGroup s turn).1 none :=
    ⟨List.Perm.of_eq hopen, hdlq, fun _ heq => by cases heq⟩
  -- a delivery moves the next entry from waiting to pending
  have hdeliver (result : Option (Option StreamEntry))
      (hresult : ∀ entry, result = some (some entry) →
        entry.messageId ∈ idsOf (ensureGroup s turn).1.deliver.pending) :
      Received s (ensureGroup s turn).1.deliver result :=
    ⟨CommandsState.openIds_deliver.trans (List.Perm.of_eq hopen), hdlq, hresult⟩
  unfold receive
  dsimp only
  cases (ensureGroup s turn).2 with
  | false => exact hnone
  | true =>
    cases turn.claim with
    | refused => exact hnone
    | lost => exact hnone
    | done =>
      -- an idle entry is claimed before a new one is read
      cases hidle : (ensureGroup s turn).1.pending.find? fun entry => turn.isIdle entry.id with
      | some claimed =>
        refine ⟨List.Perm.of_eq hopen, hdlq, fun entry heq => ?_⟩
        have hentry := Option.some.inj (Option.some.inj heq)
        rw [← hentry]
        exact List.mem_map_of_mem (List.mem_of_find?_eq_some hidle)
      | none =>
        cases turn.read with
        | refused => exact hnone
        | lost => exact hdeliver none fun _ heq => by cases heq
        | done =>
          refine hdeliver _ fun entry heq => ?_
          cases hhead : (ensureGroup s turn).1.waiting.head? with
          | none =>
            rw [hhead] at heq
            cases heq
          | some first =>
            rw [hhead] at heq
            have hentry := Option.some.inj (Option.some.inj heq)
            rw [← hentry]
            unfold CommandsState.deliver idsOf
            rw [hhead]
            exact List.mem_map_of_mem (List.mem_append_right _ (List.mem_singleton.mpr rfl))

end RedisCommandSource

namespace CommandsRun

variable {source : RedisCommandSource} {r : CommandsRun} {turn : Turn}

/-- The entries that a call of `next_command` takes away. -/
theorem mem_acked_afterNext {id : String} :
    id ∈ (r.afterNext source turn).acked ↔
      id ∈ r.acked ∨ id ∈ r.state.openIds ∧ id ∉ (r.afterNext source turn).state.openIds := by
  show id ∈ r.acked ++ r.state.openIds.filter _ ↔ _
  rw [List.mem_append, List.mem_filter, decide_eq_true_eq]
  rfl

/-- What was added is accounted for: what a call takes away counts as acknowledged. -/
theorem added_afterNext (h : r.Kept) : ∀ id ∈ (r.afterNext source turn).added,
    id ∈ (r.afterNext source turn).state.openIds ∨ id ∈ (r.afterNext source turn).handed ∨
      id ∈ (r.afterNext source turn).acked := by
  intro id hadded
  rw [mem_acked_afterNext]
  rcases h.accounts.added id hadded with hopen | hhanded | hacked
  · by_cases hstill : id ∈ (r.afterNext source turn).state.openIds
    · exact .inl hstill
    · exact .inr (.inr (.inr ⟨hopen, hstill⟩))
  · exact .inr (.inl (List.mem_append_left _ hhanded))
  · exact .inr (.inr (.inl hacked))

theorem state_afterNext (hkeep : ∀ entry, (source.receive r.state turn).2 = some (some entry) →
    (source.commandOf entry).isOk = true) :
    (r.afterNext source turn).state = (source.receive r.state turn).1 := by
  unfold afterNext nextCommand
  rcases hreceive : source.receive r.state turn with ⟨s', result⟩
  rw [hreceive] at hkeep
  cases result with
  | none => rfl
  | some result =>
    cases result with
    | none => rfl
    | some entry =>
      have hok := hkeep entry rfl
      unfold handlePayload
      cases hcommand : source.commandOf entry with
      | ok command => simp only [hcommand]
      | error why =>
        rw [hcommand] at hok
        cases hok

theorem state_afterNext_rejected {entry : StreamEntry}
    (hentry : (source.receive r.state turn).2 = some (some entry))
    (hrejected : (source.commandOf entry).isOk = false) :
    ∃ raw reason, (r.afterNext source turn).state =
      ((source.receive r.state turn).1.writeDlq ⟨source.stream, entry.messageId, reason, raw⟩
        turn.writeDlq).ack entry.messageId turn.ack := by
  unfold afterNext nextCommand
  rcases hreceive : source.receive r.state turn with ⟨s', result⟩
  rw [hreceive] at hentry
  subst hentry
  unfold handlePayload
  cases hcommand : source.commandOf entry with
  | ok command =>
    rw [hcommand] at hrejected
    cases hrejected
  | error why => exact ⟨why.1, why.2, by simp only [hcommand]⟩

/-- A call keeps entries apart, and opens none. -/
theorem openIds_afterNext :
    ∃ ids, ids.Perm r.state.openIds ∧ (r.afterNext source turn).state.openIds.Sublist ids := by
  have hspec := receive_spec source r.state turn
  by_cases hkeep : ∀ entry, (source.receive r.state turn).2 = some (some entry) →
      (source.commandOf entry).isOk = true
  · rw [state_afterNext hkeep]
    exact ⟨_, hspec.openIds, List.Sublist.refl _⟩
  · push Not at hkeep
    obtain ⟨entry, hentry, hrejected⟩ := hkeep
    obtain ⟨raw, reason, hstate⟩ := state_afterNext_rejected hentry (Bool.not_eq_true _ |>.mp hrejected)
    rw [hstate]
    refine ⟨_, hspec.openIds, ?_⟩
    exact (CommandsState.openIds_ack_sublist ..).trans
      (CommandsState.openIds_writeDlq (s := (source.receive r.state turn).1) _ _ ▸ List.Sublist.refl _)

theorem kept_afterNext (h : r.Kept) (haccounts : (r.afterNext source turn).Accounts) :
    (r.afterNext source turn).Kept := by
  obtain ⟨ids, hperm, hsub⟩ :
      ∃ ids, ids.Perm r.state.openIds ∧ (r.afterNext source turn).state.openIds.Sublist ids :=
    openIds_afterNext
  refine ⟨hsub.nodup (hperm.nodup_iff.mpr h.nodup), fun id hid => ?_, haccounts⟩
  exact h.opened id (hperm.mem_iff.mp (hsub.subset hid))

theorem accounts_afterNext_iff (h : r.Kept) :
    (r.afterNext source turn).Accounts ↔ WritesFirst source r (.next turn) := by
  have hspec := receive_spec source r.state turn
  by_cases hkeep : ∀ entry, (source.receive r.state turn).2 = some (some entry) →
      (source.commandOf entry).isOk = true
  -- an entry that can be read stays open
  · have hstate := state_afterNext hkeep
    refine iff_of_true ⟨added_afterNext h, fun id hid => ?_⟩ fun entry hentry hrejected => ?_
    · unfold CommandsState.deadIds
      rw [hstate, hspec.dlq]
      rcases mem_acked_afterNext.mp hid with hacked | ⟨hopen, hgone⟩
      · exact h.accounts.acked id hacked
      · rw [hstate] at hgone
        exact absurd (hspec.openIds.mem_iff.mpr hopen) hgone
    · rw [hkeep entry hentry] at hrejected
      cases hrejected
  · push Not at hkeep
    obtain ⟨entry, hentry, hrejected⟩ := hkeep
    have hrejected' := Bool.not_eq_true _ |>.mp hrejected
    obtain ⟨raw, reason, hstate⟩ := state_afterNext_rejected hentry hrejected'
    have hpending := hspec.pending entry hentry
    have hnodup := hspec.openIds.nodup_iff.mpr h.nodup
    -- the write to the dead-letter stream adds the entry, if it applies
    have hdead : (r.afterNext source turn).state.deadIds =
        r.state.deadIds ++ if applies turn.writeDlq then [entry.messageId] else [] := by
      rw [hstate, CommandsState.deadIds_ack, CommandsState.deadIds_writeDlq]
      unfold CommandsState.deadIds
      rw [hspec.dlq]
    -- the acknowledgement takes away just this entry
    have hopen (id : String) : id ∈ (r.afterNext source turn).state.openIds ↔
        id ∈ idsOf (source.receive r.state turn).1.waiting ∨
          id ∈ idsOf (source.receive r.state turn).1.pending ∧
            (applies turn.ack = true → id ≠ entry.messageId) := by
      rw [hstate, CommandsState.mem_openIds_ack, CommandsState.waiting_writeDlq,
        CommandsState.pending_writeDlq]
    constructor
    · intro haccounts other hother _
      have hsame := Option.some.inj (Option.some.inj (hentry.symm.trans hother))
      subst hsame
      cases hack : applies turn.ack with
      | false => exact .inr (.inr rfl)
      | true =>
        -- the entry is not waiting besides, so the call takes it away
        have hgone : entry.messageId ∉ (r.afterNext source turn).state.openIds := by
          rw [hopen]
          rintro (hwaiting | ⟨-, hne⟩)
          · exact List.disjoint_of_nodup_append hnodup hwaiting hpending
          · exact hne hack rfl
        have hmem : entry.messageId ∈ r.state.openIds :=
          hspec.openIds.mem_iff.mp (List.mem_append_right _ hpending)
        have hdied := haccounts.acked _ (mem_acked_afterNext.mpr (.inr ⟨hmem, hgone⟩))
        rw [hdead, List.mem_append] at hdied
        rcases hdied with hbefore | hnow
        · exact .inr (.inl hbefore)
        · cases hwrite : applies turn.writeDlq with
          | true => exact .inl rfl
          | false =>
            rw [hwrite] at hnow
            cases hnow
    · intro hwrites
      refine ⟨added_afterNext h, fun id hid => ?_⟩
      rw [hdead, List.mem_append]
      rcases mem_acked_afterNext.mp hid with hacked | ⟨hmem, hgone⟩
      · exact .inl (h.accounts.acked id hacked)
      · have hbefore := hspec.openIds.mem_iff.mpr hmem
        rw [hopen, not_or, not_and] at hgone
        rcases List.mem_append.mp hbefore with hwaiting | hpend
        · exact absurd hwaiting hgone.1
        · have hwhy := hgone.2 hpend
          push Not at hwhy
          obtain ⟨hack, rfl⟩ := hwhy
          -- the entry was written, is there already, or is not acknowledged
          rcases hwrites entry hentry hrejected' with hwrite | hdied | hfails
          · rw [hwrite]
            exact .inr (List.mem_singleton.mpr rfl)
          · exact .inl hdied
          · rw [hack] at hfails
            cases hfails

theorem kept_add (h : r.Kept) (entry : RawEntry) : (r.step source (.add entry)).1.Kept := by
  unfold step
  dsimp only
  split_ifs with hknown
  · exact h
  · have hopen (id : String) :
        id ∈ idsOf (r.state.waiting ++ [entry]) ++ idsOf r.state.pending ↔
          id ∈ r.state.openIds ∨ id = entry.id := by
      unfold CommandsState.openIds idsOf
      simp only [List.map_append, List.map_cons, List.map_nil, List.mem_append, List.mem_singleton]
      exact or_right_comm
    refine ⟨?_, fun id hid => ?_, fun id hid => ?_, h.accounts.acked⟩
    · have hfresh : entry.id ∉ r.state.openIds := fun hmem => hknown (h.opened _ hmem)
      have hperm : (idsOf (r.state.waiting ++ [entry]) ++ idsOf r.state.pending).Perm
          (entry.id :: r.state.openIds) := by
        unfold CommandsState.openIds idsOf
        rw [List.map_append, List.append_assoc]
        exact List.perm_middle
      exact hperm.nodup_iff.mpr (List.nodup_cons.mpr ⟨hfresh, h.nodup⟩)
    · rcases (hopen id).mp hid with hmem | rfl
      · exact List.mem_append_left _ (h.opened id hmem)
      · exact List.mem_append_right _ (List.mem_singleton.mpr rfl)
    · rcases List.mem_append.mp hid with hadded | hnew
      · exact (h.accounts.added id hadded).imp_left fun hmem => (hopen id).mpr (.inl hmem)
      · exact .inl ((hopen id).mpr (.inr (List.mem_singleton.mp hnew)))

/-- A caller acknowledges only what it was given. -/
theorem kept_ackEnvelope (h : r.Kept) (messageId : String) (outcome : Delivery) :
    (r.step source (.ackEnvelope messageId outcome)).1.Kept := by
  unfold step
  dsimp only
  split_ifs with hhanded
  · have hsub := CommandsState.openIds_ack_sublist (s := r.state) messageId outcome
    refine ⟨hsub.nodup h.nodup, fun id hid => h.opened id (hsub.subset hid), fun id hid => ?_,
      fun id hid => ?_⟩
    · rcases h.accounts.added id hid with hmem | hrest
      · by_cases hsame : id = messageId
        · exact .inr (.inl (hsame ▸ hhanded))
        · refine .inl (CommandsState.mem_openIds_ack.mpr ?_)
          exact (List.mem_append.mp hmem).imp_right fun hpending => ⟨hpending, fun _ => hsame⟩
      · exact .inr hrest
    · show id ∈ (r.state.ack messageId outcome).deadIds
      rw [CommandsState.deadIds_ack]
      exact h.accounts.acked id hid
  · exact h

end CommandsRun

/-- No command vanishes just as long as no entry is acknowledged whose dead-letter entry could not be
written. -/
theorem always_accounted_iff (source : RedisCommandSource) (events : List CommandsEvent) :
    Reaction.Always (CommandsRun.step source) (CommandsRun.Accounted source) .start events ↔
      Reaction.Always (CommandsRun.step source) (CommandsRun.WritesFirst source) .start events := by
  refine Reaction.Always.iff_of_invariant (I := CommandsRun.Kept) (fun r e hkept => ?_)
    (fun r e hkept haccounted => ?_) CommandsRun.kept_start
  · cases e with
    | add entry => exact iff_of_true (CommandsRun.kept_add hkept entry).accounts trivial
    | next turn => exact CommandsRun.accounts_afterNext_iff hkept
    | ackEnvelope messageId outcome =>
      exact iff_of_true (CommandsRun.kept_ackEnvelope hkept messageId outcome).accounts trivial
  · cases e with
    | add entry => exact CommandsRun.kept_add hkept entry
    | next turn => exact CommandsRun.kept_afterNext hkept haccounted
    | ackEnvelope messageId outcome => exact CommandsRun.kept_ackEnvelope hkept messageId outcome

/-- An entry that does not decode is acknowledged although it could not be written to the dead-letter
stream. -/
theorem not_always_accounted_refused :
    ¬ Reaction.Always (CommandsRun.step ⟨"cmd.orders", fun _ => .error "expected value"⟩)
      (CommandsRun.Accounted ⟨"cmd.orders", fun _ => .error "expected value"⟩) .start
      [.add ⟨"1-0", .bulk [.data "payload", .data "\x7bbroken"]⟩,
        .next ⟨0, fun _ => false, .done, .done, .done, .refused, .done⟩] := by
  rintro ⟨-, haccounts, -⟩
  have hdead := haccounts.acked "1-0" (by decide +kernel)
  revert hdead
  decide +kernel

end Gateway

end AlorRs
