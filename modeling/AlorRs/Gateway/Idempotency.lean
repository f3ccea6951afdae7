import AlorRs.Protocol
import Mathlib.Data.List.AList

/-!
# The gateway's idempotency check

`InMemoryIdempotency` remembers the identifiers of the commands it was asked about, for a time
and up to a number; the gateway answers `Duplicate` to a command whose identifier it remembers.
Instants are milliseconds of a monotonic clock.
-/

namespace AlorRs

structure InMemoryIdempotency where
  entries : AList fun _ : Uuid => ℤ
  order : List Uuid
  ttl : ℤ
  max : ℕ

namespace InMemoryIdempotency

def new (ttl : ℤ) (max : ℕ) : InMemoryIdempotency := ⟨∅, [], ttl, max⟩

/-- The loop of `evict_expired`: identifiers leave at the front while they are too old. -/
def evictExpiredLoop (now ttl : ℤ) (entries : AList fun _ : Uuid => ℤ) :
    List Uuid → (AList fun _ : Uuid => ℤ) × List Uuid
  | [] => (entries, [])
  | front :: order =>
    match entries.lookup front with
    | none => evictExpiredLoop now ttl entries order
    | some ts =>
      if ttl < now - ts then evictExpiredLoop now ttl (entries.erase front) order
      else (entries, front :: order)

variable (store : InMemoryIdempotency)

def evictExpired (now : ℤ) : InMemoryIdempotency :=
  let (entries, order) := evictExpiredLoop now store.ttl store.entries store.order
  { store with entries := entries, order := order }

def evictOverflowLoop (max : ℕ) (entries : AList fun _ : Uuid => ℤ) :
    List Uuid → (AList fun _ : Uuid => ℤ) × List Uuid
  | [] => (entries, [])
  | front :: order =>
    if max < (front :: order).length then evictOverflowLoop max (entries.erase front) order
    else (entries, front :: order)

def evictOverflow : InMemoryIdempotency :=
  let (entries, order) := evictOverflowLoop store.max store.entries store.order
  { store with entries := entries, order := order }

/-- `check_and_set`, where `now` and `later` are the clock's two readings: true if the
identifier is new. -/
def checkAndSet (now later : ℤ) (requestId : Uuid) : InMemoryIdempotency × Bool :=
  let store := store.evictExpired now
  if (store.entries.lookup requestId).isSome then (store, false)
  else
    let store :=
      { store with
        entries := store.entries.insert requestId later
        order := store.order ++ [requestId] }
    (store.evictOverflow, true)

end InMemoryIdempotency

/-- A command as the gateway receives it, with the clock's readings at its check. -/
structure CommandDelivery where
  command : OrderCommand
  now : ℤ
  later : ℤ

/-- The idempotency branch of `run_command_consumer`, over a sequence of commands: the store
afterwards, and for each command whether it is answered `Duplicate`. -/
def consumeCommands (store : InMemoryIdempotency) : List CommandDelivery →
    InMemoryIdempotency × List Bool
  | [] => (store, [])
  | delivery :: deliveries =>
    let (store, fresh) := store.checkAndSet delivery.now delivery.later delivery.command.requestId
    let (store, duplicates) := consumeCommands store deliveries
    (store, (!fresh) :: duplicates)

end AlorRs
