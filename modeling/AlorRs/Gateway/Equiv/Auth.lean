import AlorRs.Gateway.Auth
import AlorRs.Lib.Reaction
import Mathlib.Tactic.Linarith

/-!
# Tokens that are served

Along every run of the calls a token that is returned is the one stored under its count, before its
expiry, and was never invalidated before; a refresh that fails leaves the state that it found; one
refresh waits at a time.  A call panics exactly at an answer that is not timely
(`TokenProvider.sound_iff`): one whose seconds are not positive or too many for an instant, or where
the clock passes them before the snapshot is taken.
-/

namespace AlorRs.Gateway

variable {fingerprint : String → String} {p start : TokenProvider} {log given : List TokenRecord}
  {call : ℕ} {clock : Readings}

/-! ### Expiry -/

variable (payload : TokenResponse)

def TokenResponse.IsTimely (obtainedAt check : ℕ) : Prop :=
  0 < payload.secs ∧ obtainedAt / 10 ^ 9 + payload.secs < 2 ^ 63 ∧
    check < obtainedAt + payload.secs * 10 ^ 9

theorem TokenResponse.secs_inRange : -2 ^ 63 ≤ payload.secs ∧ payload.secs < 2 ^ 63 := by
  unfold secs
  cases hsecs : payload.expiresIn with
  | none => decide
  | some secs => exact payload.inRange secs hsecs

variable {payload : TokenResponse} {obtainedAt : ℕ}

/-- A negative number of seconds is cast to one that no instant has room for. -/
theorem addSecs_isTimely {check : ℕ} (later : obtainedAt ≤ check) :
    (∃ expiresAt, addSecs obtainedAt (asU64 payload.secs) = some expiresAt ∧ check < expiresAt) ↔
      payload.IsTimely obtainedAt check := by
  obtain ⟨hlow, hhigh⟩ := payload.secs_inRange
  unfold addSecs asU64 TokenResponse.IsTimely
  generalize payload.secs = secs at hlow hhigh ⊢
  constructor
  · rintro ⟨expiresAt, hadd, hcheck⟩
    split_ifs at hadd with hroom
    obtain rfl := Option.some.inj hadd
    omega
  · rintro ⟨hpos, hroom, hcheck⟩
    refine ⟨_, if_pos ?_, ?_⟩ <;> omega

variable {source : AccessTokenSource} {snapshot : AccessTokenSnapshot}

theorem of_snapshot {guard : TokenState}
    (h : tokenSnapshotFromState fingerprint guard source clock = some snapshot) :
    guard.token = some snapshot.token ∧ snapshot.refreshCount = guard.refreshCount ∧
      ∀ expiresAt ∈ guard.expiresAt, clock.check < expiresAt := by
  obtain ⟨token, htoken, h⟩ := Option.bind_eq_some_iff.mp h
  split_ifs at h with hlive
  obtain rfl := Option.some.inj h
  refine ⟨htoken, rfl, fun expiresAt hexpires => ?_⟩
  rw [Option.mem_def.mp hexpires] at hlive
  exact of_decide_eq_true hlive

/-! ### Panics -/

variable {miss : TokenProvider × List TokenRecord}

namespace TokenProvider

def Timely (p : TokenProvider) : TokenEvent → Prop
  | .answers call (.decoded payload obtainedAt _ clock _) =>
    p.phase call = some .refreshing → payload.IsTimely obtainedAt clock.check
  | _ => True

theorem not_panicked_lookup (hmiss : ∀ call, .panicked call ∉ miss.2) (call' : ℕ) :
    .panicked call' ∉ (p.lookup fingerprint call clock miss).2 := by
  unfold lookup
  split
  · simp
  · exact hmiss call'

theorem not_panicked_store {obtainedTsUtc : ℤ} (later : obtainedAt ≤ clock.check) :
    (∀ call', .panicked call' ∉
        (p.store fingerprint call payload obtainedAt obtainedTsUtc clock).2) ↔
      payload.IsTimely obtainedAt clock.check := by
  rw [← addSecs_isTimely later]
  unfold store
  cases addSecs obtainedAt (asU64 payload.secs) with
  | none => simp
  | some expiresAt =>
    by_cases hlive : clock.check < expiresAt <;> simp [tokenSnapshotFromState, hlive]

/-- A step panics exactly at an answer that is not timely. -/
theorem not_panicked_answer (e : TokenEvent) :
    (∀ call', .panicked call' ∉ (p.answer fingerprint e).2) ↔ p.Timely e := by
  have hbegin (call : ℕ) (phase : CallPhase) (call' : ℕ) :
      .panicked call' ∉ (p.begin call phase).2 := by
    unfold begin
    split_ifs <;> simp
  cases e with
  | accessToken call => exact iff_true_intro (hbegin call _)
  | forceRefresh call => exact iff_true_intro (hbegin call _)
  | invalidate call => exact iff_true_intro (hbegin call _)
  | locks call clock =>
    refine iff_true_intro fun call' => ?_
    rw [answer]
    split_ifs
    · unfold lock
      split
      · simp [TokenProvider.invalidate]
      · exact not_panicked_lookup (by simp) call'
      · exact not_panicked_lookup (by simp) call'
      · simp
    · simp
  | answers call answer =>
    rw [TokenProvider.answer]
    split_ifs with hphase
    · cases answer with
      -- only an answer that is stored can be out of time
      | decoded payload obtainedAt obtainedTsUtc clock later =>
        simp only [Timely, hphase, true_imp_iff]
        exact not_panicked_store later
      | _ => simp [takeAnswer, Timely]
    · cases answer <;> simp [Timely, hphase]
  | drops call =>
    refine iff_true_intro fun call' => ?_
    rw [answer]
    split_ifs <;> simp

theorem not_panicked_outputs (events : List TokenEvent) :
    (∀ call', .panicked call' ∉ Reaction.outputs (answer fingerprint) p events) ↔
      Reaction.Always (answer fingerprint) Timely p events := by
  induction events generalizing p with
  | nil => simp [Reaction.outputs, Reaction.Always]
  | cons e events ih =>
    simp only [Reaction.outputs, Reaction.Always, List.mem_append, not_or, forall_and,
      not_panicked_answer, ih]

end TokenProvider

/-! ### What holds of every record -/

def TokenRecord.isRefresh : TokenRecord → Bool
  | .stored caller _ _ _ => caller.isSome
  | _ => false

def TokenRecord.isEnd : TokenRecord → Bool
  | .returned .. | .failed .. | .panicked _ => true
  | _ => false

def TokenRecord.Right (before : List TokenRecord) : TokenRecord → Prop
  | .returned _ snapshot check =>
    (∃ caller expiresAt, .stored caller snapshot.refreshCount snapshot.token expiresAt ∈ before ∧
        ∀ instant ∈ expiresAt, check < instant) ∧
      ∀ call hadToken, .invalidated call hadToken snapshot.refreshCount ∉ before
  | .failed call _ state => ∀ found, .refreshing call found ∈ before → state = found
  | _ => True

namespace TokenProvider

/-- What the state has to do with the records so far. -/
structure Served (p : TokenProvider) (log : List TokenRecord) : Prop where
  locked : ∀ call, p.phase call = some .refreshing ↔ p.writer = some call
  counted : p.state.refreshCount = log.countP TokenRecord.isRefresh
  held : ∀ token ∈ p.state.token,
    (∃ caller, .stored caller p.state.refreshCount token p.state.expiresAt ∈ log) ∧
      ∀ call hadToken, .invalidated call hadToken p.state.refreshCount ∉ log
  past : ∀ call hadToken count, .invalidated call hadToken count ∈ log → count ≤ p.state.refreshCount
  sent : ∀ call found, .refreshing call found ∈ log →
    p.phase call = some .done ∨ p.phase call = some .refreshing ∧ p.state = found

theorem Served.finish (h : Served p log) (call : ℕ) : Served (p.finish call) log where
  locked := by
    intro call'
    by_cases heq : call' = call
    · subst heq
      simp [TokenProvider.finish, enter]
    · have hold := h.locked call'
      simp only [TokenProvider.finish, enter, Function.update_of_ne heq]
      rw [hold]
      split_ifs with hw
      · simp [hw, Ne.symm heq]
      · rfl
  counted := h.counted
  held := h.held
  past := h.past
  sent := by
    intro call' found hmem
    by_cases heq : call' = call
    · exact .inl (by simp [TokenProvider.finish, enter, heq])
    · simpa [TokenProvider.finish, enter, heq] using h.sent call' found hmem

theorem Served.enter {phase : CallPhase} (h : Served p log) (hnot : p.phase call ≠ some .refreshing)
    (hdone : p.phase call ≠ some .done) (hphase : phase ≠ .refreshing) :
    Served (p.enter call phase) log where
  locked := by
    intro call'
    by_cases heq : call' = call
    · subst heq
      have hold := h.locked call'
      simp only [TokenProvider.enter, Function.update_self, Option.some.injEq, hphase, false_iff]
      exact fun hw => hnot (hold.mpr hw)
    · simpa [TokenProvider.enter, heq] using h.locked call'
  counted := h.counted
  held := h.held
  past := h.past
  sent := by
    intro call' found hmem
    have hold := h.sent call' found hmem
    by_cases heq : call' = call
    · subst heq
      exact (hold.elim hdone fun hold => hnot hold.1).elim
    · simpa [TokenProvider.enter, heq] using hold

variable {record : TokenRecord}

theorem Served.note (h : Served p log) (hend : record.isEnd = true) : Served p (log ++ [record]) := by
  cases record with
  | returned | failed | panicked =>
    refine ⟨h.locked, ?_, ?_, ?_, ?_⟩
    · simp [h.counted, TokenRecord.isRefresh]
    · simpa using h.held
    · simpa using h.past
    · simpa using h.sent
  | _ => cases hend

/-- While no call holds the lock, nobody waits for an answer. -/
theorem Served.sent_done (h : Served p log) (hfree : p.writer = none) {found : TokenState}
    (hmem : .refreshing call found ∈ log) : p.phase call = some .done := by
  refine (h.sent call found hmem).resolve_right fun hwaits => ?_
  rw [(h.locked call).mp hwaits.1] at hfree
  cases hfree

theorem Served.refreshing (h : Served p log) (hfree : p.writer = none)
    (hphase : p.phase call = some .writing) :
    Served { p.enter call .refreshing with writer := some call }
      (log ++ [.refreshing call p.state]) where
  locked := by
    intro call'
    have hold := h.locked call'
    rw [hfree] at hold
    by_cases heq : call' = call
    · simp [TokenProvider.enter, heq]
    · simp [TokenProvider.enter, heq, Ne.symm heq, hold]
  counted := by simp [TokenProvider.enter, h.counted, TokenRecord.isRefresh]
  held := by simpa [TokenProvider.enter] using h.held
  past := by simpa [TokenProvider.enter] using h.past
  sent := by
    intro call' found hmem
    rcases List.mem_append.mp hmem with hmem | hmem
    · have hdone := h.sent_done hfree hmem
      have hne : call' ≠ call := by
        rintro rfl
        rw [hphase] at hdone
        cases hdone
      exact .inl (by simpa [TokenProvider.enter, hne] using hdone)
    · obtain ⟨rfl, rfl⟩ := TokenRecord.refreshing.inj (List.mem_singleton.mp hmem)
      exact .inr ⟨by simp [TokenProvider.enter], rfl⟩

theorem Served.cleared (h : Served p log) (hfree : p.writer = none) (call : ℕ) (hadToken : Bool) :
    Served { p with state := ⟨none, none, none, none, none, p.state.refreshCount⟩ }
      (log ++ [.invalidated call hadToken p.state.refreshCount]) where
  locked := h.locked
  counted := by simp [h.counted, TokenRecord.isRefresh]
  held := by simp
  past := by
    intro call' had count hmem
    rcases List.mem_append.mp hmem with hmem | hmem
    · exact h.past call' had count hmem
    · exact (TokenRecord.invalidated.inj (List.mem_singleton.mp hmem)).2.2.le
  sent := fun call' found hmem => .inl (h.sent_done hfree (by simpa using hmem))

theorem Served.stored (h : Served p log) (hfree : p.writer = none) {state : TokenState} {token : String}
    (hcount : state.refreshCount = p.state.refreshCount + 1) (htoken : state.token = some token) :
    Served { p with state }
      (log ++ [.stored (some call) state.refreshCount token state.expiresAt]) where
  locked := h.locked
  counted := by simp [hcount, h.counted, TokenRecord.isRefresh]
  held := by
    rintro token' htoken'
    obtain rfl := Option.some.inj (htoken.symm.trans htoken')
    refine ⟨⟨some call, by simp⟩, fun call' had hmem => ?_⟩
    have hle := h.past call' had state.refreshCount (by simpa using hmem)
    omega
  past := by
    intro call' had count hmem
    have hle := h.past call' had count (by simpa using hmem)
    show count ≤ state.refreshCount
    omega
  sent := fun call' found hmem => .inl (h.sent_done hfree (by simpa using hmem))

/-- The token of the state may be returned. -/
theorem Served.right (h : Served p log)
    (hsnap : tokenSnapshotFromState fingerprint p.state source clock = some snapshot) :
    TokenRecord.Right log (.returned call snapshot clock.check) := by
  obtain ⟨htoken, hcount, hlive⟩ := of_snapshot hsnap
  obtain ⟨⟨caller, hstored⟩, hnever⟩ := h.held _ htoken
  rw [← hcount] at hstored hnever
  exact ⟨⟨caller, _, hstored, hlive⟩, hnever⟩

/-! ### Steps and runs -/

def StepRight (log : List TokenRecord) (out : TokenProvider × List TokenRecord) : Prop :=
  History.EachAfter (fun before => TokenRecord.Right (log ++ before)) out.2 ∧ Served out.1 (log ++ out.2)

theorem stepRight_silent (h : Served p log) : StepRight log (p, []) :=
  ⟨History.eachAfter_nil, by rwa [List.append_nil]⟩

theorem stepRight_single (hright : TokenRecord.Right log record) (h : Served p (log ++ [record])) :
    StepRight log (p, [record]) :=
  ⟨History.eachAfter_singleton.mpr (by rwa [List.append_nil]), h⟩

theorem stepRight_lookup (h : Served p log) (hmiss : StepRight log miss) :
    StepRight log (p.lookup fingerprint call clock miss) := by
  unfold lookup
  split
  · next snapshot hsnap => exact stepRight_single (h.right hsnap) ((h.finish call).note rfl)
  · exact hmiss

theorem stepRight_store {obtainedTsUtc : ℤ} (h : Served p log)
    (hphase : p.phase call = some .refreshing) :
    StepRight log (p.store fingerprint call payload obtainedAt obtainedTsUtc clock) := by
  unfold store
  split
  · exact stepRight_single trivial ((h.finish call).note rfl)
  · next expiresAt hadd =>
    have hfree : (p.finish call).writer = none := if_pos ((h.locked call).mp hphase)
    dsimp only
    refine ⟨?_, ?_⟩
    · rw [← List.singleton_append, History.eachAfter_append]
      refine ⟨History.eachAfter_singleton.mpr trivial, History.eachAfter_singleton.mpr ?_⟩
      split
      · next snapshot hsnap =>
        rw [List.append_nil]
        exact ((h.finish call).stored hfree rfl rfl).right hsnap
      · trivial
    · rw [← List.singleton_append, ← List.append_assoc]
      refine ((h.finish call).stored hfree rfl rfl).note ?_
      split <;> rfl

theorem stepRight_begin (h : Served p log) {phase : CallPhase} (hphase : phase ≠ .refreshing) :
    StepRight log (p.begin call phase) := by
  unfold begin
  split_ifs with hnew
  · exact stepRight_silent (h.enter (by simp [hnew]) (by simp [hnew]) hphase)
  · exact stepRight_silent h

theorem stepRight_lock (h : Served p log) (hfree : p.writer = none) :
    StepRight log (p.lock fingerprint call clock) := by
  unfold lock
  split
  · next thenAccess hphase =>
    refine stepRight_single trivial ?_
    refine Served.cleared (h.enter (by simp [hphase]) (by simp [hphase]) ?_) hfree call _
    cases thenAccess <;> simp
  · next hphase =>
    exact stepRight_lookup h (stepRight_silent (h.enter (by simp [hphase]) (by simp [hphase]) (by simp)))
  · next hphase => exact stepRight_lookup h (stepRight_single trivial (h.refreshing hfree hphase))
  · exact stepRight_silent h

theorem stepRight_takeAnswer (h : Served p log) (hphase : p.phase call = some .refreshing)
    (answer : OAuthAnswer) : StepRight log (p.takeAnswer fingerprint call answer) := by
  have hfailed (error : String) : TokenRecord.Right log (.failed call error p.state) := by
    intro found hmem
    rcases h.sent call found hmem with hdone | ⟨_, hfound⟩
    · rw [hphase] at hdone
      cases hdone
    · exact hfound
  cases answer with
  | decoded => exact stepRight_store h hphase
  | _ => exact stepRight_single (hfailed _) ((h.finish call).note rfl)

theorem stepRight_answer (h : Served p log) (e : TokenEvent) :
    StepRight log (p.answer fingerprint e) := by
  cases e with
  | accessToken | forceRefresh | invalidate => exact stepRight_begin h (by simp)
  | locks call clock =>
    rw [answer]
    split_ifs with hfree
    · exact stepRight_lock h hfree
    · exact stepRight_silent h
  | answers call answer =>
    rw [TokenProvider.answer]
    split_ifs with hphase
    · exact stepRight_takeAnswer h hphase answer
    · exact stepRight_silent h
  | drops call =>
    rw [answer]
    split_ifs
    · exact stepRight_silent h
    · exact stepRight_silent (h.finish call)

inductive Built (fingerprint : String → String) : TokenProvider → List TokenRecord → Prop where
  | new : Built fingerprint .new []
  | newWithToken {token : String} {now : ℕ} {tsUtc : ℤ} {p : TokenProvider}
      (h : TokenProvider.newWithToken fingerprint token now tsUtc = some p) :
      Built fingerprint p [.stored none 0 token p.state.expiresAt]

theorem Built.served (h : Built fingerprint start given) : Served start given := by
  cases h with
  | new => exact ⟨by simp [TokenProvider.new], rfl, by simp [TokenProvider.new], by simp, by simp⟩
  | newWithToken h =>
    obtain ⟨expiresAt, _, rfl⟩ := Option.map_eq_some_iff.mp h
    exact ⟨by simp, rfl, by simp, by simp, by simp⟩

/-- A run of the calls is right: no call panics, every token that is returned is good, a refresh that
fails changes nothing, one refresh waits at a time, and the refreshes are counted. -/
structure Sound (fingerprint : String → String) (start : TokenProvider) (given : List TokenRecord)
    (events : List TokenEvent) : Prop where
  noPanic : ∀ call, .panicked call ∉ Reaction.outputs (answer fingerprint) start events
  right : History.EachAfter TokenRecord.Right (given ++ Reaction.outputs (answer fingerprint) start events)
  oneRefresh : ∀ call call',
    (Reaction.after (answer fingerprint) start events).phase call = some .refreshing →
      (Reaction.after (answer fingerprint) start events).phase call' = some .refreshing → call = call'
  counted : (Reaction.after (answer fingerprint) start events).state.refreshCount =
    (Reaction.outputs (answer fingerprint) start events).countP TokenRecord.isRefresh

/-- A run is right exactly if every answer that a call waits for is timely. -/
theorem sound_iff (hbuilt : Built fingerprint start given) (events : List TokenEvent) :
    Sound fingerprint start given events ↔
      Reaction.Always (answer fingerprint) Timely start events := by
  refine ⟨fun h => (not_panicked_outputs events).mp h.noPanic, fun h => ?_⟩
  have hstep (p : TokenProvider) (e : TokenEvent) (log : List TokenRecord) (h : Served p log)
      (_ : True) : StepRight log (p.answer fingerprint e) := stepRight_answer h e
  have hserved := Reaction.outputs_invariant (fun p e log h hC => (hstep p e log h hC).2) hbuilt.served
    (Reaction.Always.of_forall fun _ _ => trivial : Reaction.Always _ _ _ events)
  have hgiven : History.EachAfter TokenRecord.Right given ∧ given.countP TokenRecord.isRefresh = 0 := by
    cases hbuilt with
    | new => exact ⟨History.eachAfter_nil, rfl⟩
    | newWithToken => exact ⟨History.eachAfter_singleton.mpr trivial, rfl⟩
  refine ⟨(not_panicked_outputs events).mpr h, ?_, ?_, ?_⟩
  · exact Reaction.outputs_eachAfter hstep hbuilt.served hgiven.1 (Reaction.Always.of_forall fun _ _ => trivial)
  · intro call call' hcall hcall'
    have hwriter := (hserved.locked call).mp hcall
    exact Option.some.inj (hwriter.symm.trans ((hserved.locked call').mp hcall'))
  · have hcounted := hserved.counted
    rwa [List.countP_append, hgiven.2, zero_add] at hcounted

namespace Sample

/-- A first call, whose refresh is answered at once with a token for the given seconds. -/
def firstCall (secs : ℤ) (inRange : ∀ n ∈ some secs, -2 ^ 63 ≤ n ∧ n < 2 ^ 63) : List TokenEvent :=
  [.accessToken 0, .locks 0 ⟨1, 1, 1⟩, .locks 0 ⟨2, 2, 2⟩,
    .answers 0 (.decoded ⟨"token", some secs, inRange⟩ 3 0 ⟨4, 5, 6⟩ (by decide))]

theorem sound_firstCall : Sound id .new [] (firstCall 60 (by decide)) :=
  (sound_iff .new _).mpr ⟨trivial, trivial, trivial, fun _ => ⟨by decide, by decide, by decide⟩, trivial⟩

/-- A token that lives for no time at all. -/
theorem firstCall_panics : ¬ Sound id .new [] (firstCall 0 (by decide)) :=
  fun h => h.noPanic 0 (by decide)

end Sample

end TokenProvider

end AlorRs.Gateway
