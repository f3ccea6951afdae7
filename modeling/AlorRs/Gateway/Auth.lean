import Mathlib.Algebra.Order.Ring.Int

/-!
# The token provider

Any number of calls share one token behind a lock.  A call looks for the token under the read lock, then
under the write lock, which it keeps while it waits for the answer of the OAuth service.  What a call
does between two awaits is one step here, with the readings of the clock that it makes.  Instants are
nanoseconds of the monotonic clock; the count of the refreshes is not bounded.
-/

namespace AlorRs.Gateway

inductive AccessTokenSource where
  | cached
  | refreshed
deriving DecidableEq, Repr

structure AccessTokenSnapshot where
  token : String
  fingerprint : String
  source : AccessTokenSource
  refreshCount : ℕ
  obtainedTsUtc : Option ℤ
  ageMs : Option ℕ
  ttlRemainingMs : Option ℕ
deriving DecidableEq, Repr

structure TokenState where
  token : Option String
  tokenFingerprint : Option String
  expiresAt : Option ℕ
  obtainedAt : Option ℕ
  obtainedTsUtc : Option ℤ
  refreshCount : ℕ
deriving DecidableEq, Repr

/-- An answer of the OAuth service that decodes. -/
structure TokenResponse where
  accessToken : String
  expiresIn : Option ℤ
  inRange : ∀ secs ∈ expiresIn, -2 ^ 63 ≤ secs ∧ secs < 2 ^ 63

def TokenResponse.secs (payload : TokenResponse) : ℤ := payload.expiresIn.getD (60 * 45)

def asU64 (n : ℤ) : ℕ := (n % 2 ^ 64).toNat

/-- `Instant + Duration::from_secs`; none where it panics, which is past the `i64` of the seconds. -/
def addSecs (instant secs : ℕ) : Option ℕ :=
  if instant / 10 ^ 9 + secs < 2 ^ 63 then some (instant + secs * 10 ^ 9) else none

def asMillis (nanos : ℕ) : ℕ := min (nanos / 10 ^ 6) (2 ^ 64 - 1)

/-- The clock as `token_snapshot_from_state` reads it. -/
structure Readings where
  check : ℕ
  elapsed : ℕ
  remaining : ℕ
deriving DecidableEq, Repr

/-- What becomes of the request for a token. -/
inductive OAuthAnswer where
  | sendError (kind : String)
  | httpError (status : String)
  | decodeError (kind : String)
  | decoded (payload : TokenResponse) (obtainedAt : ℕ) (obtainedTsUtc : ℤ) (clock : Readings)
      (later : obtainedAt ≤ clock.check)

inductive CallPhase where
  | invalidating (thenAccess : Bool)
  | reading
  | writing
  | refreshing
  | done
deriving DecidableEq, Repr

structure TokenProvider where
  state : TokenState
  /-- the call that holds the write lock while it waits -/
  writer : Option ℕ
  phase : ℕ → Option CallPhase

/-- What can happen: a call is made, gets the lock that it waits for, has its answer, or is given up. -/
inductive TokenEvent where
  | accessToken (call : ℕ)
  | forceRefresh (call : ℕ)
  | invalidate (call : ℕ)
  | locks (call : ℕ) (clock : Readings)
  | answers (call : ℕ) (answer : OAuthAnswer)
  | drops (call : ℕ)

/-- What is seen of it.  A token is stored by a call, or is the one that the provider begins with. -/
inductive TokenRecord where
  | refreshing (call : ℕ) (state : TokenState)
  | stored (caller : Option ℕ) (count : ℕ) (token : String) (expiresAt : Option ℕ)
  | invalidated (call : ℕ) (hadToken : Bool) (count : ℕ)
  | returned (call : ℕ) (snapshot : AccessTokenSnapshot) (check : ℕ)
  | failed (call : ℕ) (error : String) (state : TokenState)
  | panicked (call : ℕ)
deriving DecidableEq, Repr

variable (accessTokenFingerprint : String → String)

def tokenSnapshotFromState (guard : TokenState) (source : AccessTokenSource) (clock : Readings) :
    Option AccessTokenSnapshot :=
  guard.token.bind fun token =>
    if guard.expiresAt.all fun expiresAt => decide (clock.check < expiresAt) then
      some
        { token
          fingerprint := guard.tokenFingerprint.getD (accessTokenFingerprint token)
          source
          refreshCount := guard.refreshCount
          obtainedTsUtc := guard.obtainedTsUtc
          ageMs := guard.obtainedAt.map fun instant => asMillis (clock.elapsed - instant)
          ttlRemainingMs := guard.expiresAt.map fun instant => asMillis (instant - clock.remaining) }
    else none

namespace TokenProvider

def new : TokenProvider := ⟨⟨none, none, none, none, none, 0⟩, none, fun _ => none⟩

def newWithToken (token : String) (now : ℕ) (tsUtc : ℤ) : Option TokenProvider :=
  (addSecs now (60 * 60)).map fun expiresAt =>
    ⟨⟨some token, some (accessTokenFingerprint token), some expiresAt, some now, some tsUtc, 0⟩, none,
      fun _ => none⟩

variable (p : TokenProvider) (call : ℕ)

def enter (phase : CallPhase) : TokenProvider :=
  { p with phase := Function.update p.phase call (some phase) }

/-- A call that ends, by a panic as well, gives its lock back. -/
def finish : TokenProvider :=
  { p.enter call .done with writer := if p.writer = some call then none else p.writer }

def invalidate (p : TokenProvider) (call : ℕ) (thenAccess : Bool) : TokenProvider × List TokenRecord :=
  ({ p.enter call (if thenAccess then .reading else .done) with
      state := ⟨none, none, none, none, none, p.state.refreshCount⟩ },
    [.invalidated call p.state.token.isSome p.state.refreshCount])

/-- The look at the cached token, under the lock of the phase; `miss` is what follows where there is
none. -/
def lookup (clock : Readings) (miss : TokenProvider × List TokenRecord)
    : TokenProvider × List TokenRecord :=
  match tokenSnapshotFromState accessTokenFingerprint p.state .cached clock with
  | some snapshot => (p.finish call, [.returned call snapshot clock.check])
  | none => miss

/-- An answer that decodes: the token is stored, and then the snapshot is expected to be there. -/
def store (p : TokenProvider) (call : ℕ) (payload : TokenResponse) (obtainedAt : ℕ)
    (obtainedTsUtc : ℤ) (clock : Readings) : TokenProvider × List TokenRecord :=
  match addSecs obtainedAt (asU64 payload.secs) with
  | none => (p.finish call, [.panicked call])
  | some expiresAt =>
    let state : TokenState :=
      { token := some payload.accessToken
        tokenFingerprint := some (accessTokenFingerprint payload.accessToken)
        expiresAt := some expiresAt
        obtainedAt := some obtainedAt
        obtainedTsUtc := some obtainedTsUtc
        refreshCount := p.state.refreshCount + 1 }
    ({ p.finish call with state },
      [.stored (some call) state.refreshCount payload.accessToken state.expiresAt,
        match tokenSnapshotFromState accessTokenFingerprint state .refreshed clock with
        | some snapshot => .returned call snapshot clock.check
        | none => .panicked call])

def takeAnswer : OAuthAnswer → TokenProvider × List TokenRecord
  | .sendError kind => (p.finish call, [.failed call ("alor oauth refresh failed: " ++ kind) p.state])
  | .httpError status =>
    (p.finish call, [.failed call ("alor oauth refresh returned HTTP " ++ status) p.state])
  | .decodeError kind =>
    (p.finish call, [.failed call ("alor oauth response decode failed: " ++ kind) p.state])
  | .decoded payload obtainedAt obtainedTsUtc clock _ =>
    p.store accessTokenFingerprint call payload obtainedAt obtainedTsUtc clock

def lock (clock : Readings) : TokenProvider × List TokenRecord :=
  match p.phase call with
  | some (.invalidating thenAccess) => p.invalidate call thenAccess
  | some .reading => p.lookup accessTokenFingerprint call clock (p.enter call .writing, [])
  | some .writing =>
    p.lookup accessTokenFingerprint call clock
      ({ p.enter call .refreshing with writer := some call }, [.refreshing call p.state])
  | _ => (p, [])

def begin (phase : CallPhase) : TokenProvider × List TokenRecord :=
  if p.phase call = none then (p.enter call phase, []) else (p, [])

/-- What happens next; an event that cannot happen changes nothing. -/
def answer (p : TokenProvider) : TokenEvent → TokenProvider × List TokenRecord
  | .accessToken call => p.begin call .reading
  | .forceRefresh call => p.begin call (.invalidating true)
  | .invalidate call => p.begin call (.invalidating false)
  | .locks call clock => if p.writer = none then p.lock accessTokenFingerprint call clock else (p, [])
  | .answers call answer =>
    if p.phase call = some .refreshing then p.takeAnswer accessTokenFingerprint call answer else (p, [])
  | .drops call => if p.phase call = none then (p, []) else (p.finish call, [])

end TokenProvider

end AlorRs.Gateway
