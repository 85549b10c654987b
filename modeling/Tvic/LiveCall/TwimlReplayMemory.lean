import Tvic.Lib.Publication

/-!
# The in-memory TwiML replay store

`createInMemoryTwimlReplayStore` and its `ownerLease`, for one key: a reservation is an object that
its owner's lease and the acquires waiting for its response keep after the map has let go of it.
A waiting acquire goes on when the first of three promises settles (the response, the timer, the
abort signal), and what it then returns is decided by that promise alone.
-/
namespace Tvic

open Lib.Publication

inductive TwimlReplayAcquire where
  | owner (lease : Nat)
  | replayed (response : String)
  | consumed
  | conflict
  | busy
  deriving DecidableEq, Repr

structure MemoryReplayEntry where
  requestHash : String
  /-- The lifetime its owner's lease publishes with. -/
  ttlMs : Nat
  expiresAtMs : Nat
  response : Option String
  consumed : Bool
  /-- What the `ready` promise is resolved with. -/
  ready : Option (Option String)
  /-- The owner's lease is settled. -/
  settled : Bool

/-- An acquire in `waitForResponse`. -/
structure ReplayWaiter where
  requestHash : String
  entry : Nat
  /-- What the race is settled with. -/
  outcome : Option (Option String)
  aborted : Bool

structure MemoryReplayStore where
  /-- Every reservation made, by its owner. -/
  reservations : List MemoryReplayEntry
  /-- The entry of the map. -/
  current : Option Nat
  waiters : List ReplayWaiter

/-- What the synchronous part of `acquire` comes to. -/
inductive ReplayAcquireStart where
  | returned (result : TwimlReplayAcquire)
  | waiting
  deriving DecidableEq, Repr

def replayStateUnavailable : String := "TwiML replay state is unavailable before consumption"

def replayReservationLost : String := "TwiML replay reservation was lost before completion"

def validTtl (ttlMs : Int) : Except String Nat :=
  if ttlMs ≤ 0 ∨ 9007199254740991 < ttlMs then
    .error "Twiml replay TTL must be a positive safe integer"
  else .ok ttlMs.toNat

namespace MemoryReplayStore

def new : MemoryReplayStore := ⟨[], none, []⟩

variable (store : MemoryReplayStore) (now : Nat)

/-- The reservation the map holds, with its owner. -/
def get : Option (Nat × MemoryReplayEntry) :=
  store.current.bind fun owner => store.reservations[owner]?.map fun entry => (owner, entry)

def update (owner : Nat) (change : MemoryReplayEntry → MemoryReplayEntry) : MemoryReplayStore :=
  { store with reservations := store.reservations.modify owner change }

def delete : MemoryReplayStore :=
  { store with current := none }

/-- Resolve the `ready` promise of a reservation, and with it the race of every acquire waiting
for it; what is settled stays as it is. -/
def resolve (owner : Nat) (response : Option String) : MemoryReplayStore :=
  { store with
    reservations := store.reservations.modify owner fun entry =>
      { entry with ready := entry.ready <|> some response }
    waiters := store.waiters.map fun waiter =>
      if waiter.entry = owner then { waiter with outcome := waiter.outcome <|> some response }
      else waiter }

def dropExpired : MemoryReplayStore :=
  match store.get with
  | some (owner, entry) => if entry.expiresAtMs ≤ now then store.delete.resolve owner none else store
  | none => store

/-- `acquire` up to the point where it returns or waits; `elapsed` passes between its two readings
of the clock. -/
def acquire (elapsed : Nat) (requestHash : String) (ttlMs : Int) (aborted : Bool) :
    Except String ReplayAcquireStart × MemoryReplayStore :=
  if aborted then (.ok (.returned .busy), store)
  else
    match validTtl ttlMs with
    | .error message => (.error message, store)
    | .ok ttl =>
      let store := store.dropExpired now
      match store.get with
      | none =>
        let entry : MemoryReplayEntry :=
          { requestHash, ttlMs := ttl, expiresAtMs := now + elapsed + ttl, response := none
            consumed := false, ready := none, settled := false }
        (.ok (.returned (.owner store.reservations.length)),
          { store with
            reservations := store.reservations ++ [entry]
            current := some store.reservations.length })
      | some (owner, entry) =>
        if entry.requestHash ≠ requestHash then (.ok (.returned .conflict), store)
        else if entry.consumed then (.ok (.returned .consumed), store)
        else
          match entry.response with
          | some response => (.ok (.returned (.replayed response)), store)
          | none =>
            (.ok .waiting,
              { store with waiters := store.waiters ++ [⟨requestHash, owner, entry.ready, false⟩] })

def timeout (waiter : Nat) : MemoryReplayStore :=
  { store with waiters := store.waiters.modify waiter fun waiter =>
      { waiter with outcome := waiter.outcome <|> some none } }

def abortSignal (waiter : Nat) : MemoryReplayStore :=
  { store with waiters := store.waiters.modify waiter fun waiter =>
      { waiter with outcome := waiter.outcome <|> some none, aborted := true } }

/-- What a waiting acquire returns once its race is settled. -/
def ReplayWaiter.result (waiter : ReplayWaiter) : Option TwimlReplayAcquire :=
  waiter.outcome.map fun response =>
    if waiter.aborted then .busy
    else
      match response with
      | some response => .replayed response
      | none => .busy

/-- A waiting acquire goes on and returns. -/
def resume (waiter : Nat) : Option TwimlReplayAcquire × MemoryReplayStore :=
  match store.waiters[waiter]?.bind ReplayWaiter.result with
  | some result => (some result, { store with waiters := store.waiters.eraseIdx waiter })
  | none => (none, store)

def complete (owner : Nat) (response : String) : Except String Unit × MemoryReplayStore :=
  match store.reservations[owner]? with
  | none => (.ok (), store)
  | some entry =>
    if entry.settled then (.ok (), store)
    else if store.current ≠ some owner ∨ entry.expiresAtMs ≤ now then
      let store := if store.current = some owner then store.delete else store
      (.error replayReservationLost,
        (store.update owner fun entry => { entry with settled := true }).resolve owner none)
    else
      (.ok (),
        (store.update owner fun entry =>
          { entry with
            settled := true
            expiresAtMs := now + entry.ttlMs
            response := some response }).resolve owner (some response))

def abort (owner : Nat) : MemoryReplayStore :=
  match store.reservations[owner]? with
  | none => store
  | some entry =>
    if entry.settled then store
    else
      let store := if store.current = some owner then store.delete else store
      (store.update owner fun entry => { entry with settled := true }).resolve owner none

def markConsumed : Except String Unit × MemoryReplayStore :=
  match store.get with
  | none => (.error replayStateUnavailable, store)
  | some (owner, entry) =>
    if entry.expiresAtMs ≤ now then
      (.error replayStateUnavailable, store.delete.resolve owner none)
    else if entry.response.isNone then (.error replayStateUnavailable, store)
    else (.ok (), store.update owner fun entry => { entry with consumed := true })

def prune : MemoryReplayStore :=
  store.dropExpired now

end MemoryReplayStore

/-- The calls of the store and of the leases it gave out, and what goes on in a waiting acquire. -/
inductive MemoryReplayCall where
  | acquire (elapsed : Nat) (requestHash : String) (ttlMs : Int) (aborted : Bool)
  | timeout (waiter : Nat)
  | abortSignal (waiter : Nat)
  | resume (waiter : Nat)
  | complete (owner : Nat) (response : String)
  | abort (owner : Nat)
  | markConsumed
  | prune

namespace MemoryReplayStore

variable (store : MemoryReplayStore)

/-- A call at a reading of the clock. -/
def step : Nat × MemoryReplayCall → MemoryReplayStore
  | (now, .acquire elapsed requestHash ttlMs aborted) =>
    (store.acquire now elapsed requestHash ttlMs aborted).2
  | (_, .timeout waiter) => store.timeout waiter
  | (_, .abortSignal waiter) => store.abortSignal waiter
  | (_, .resume waiter) => (store.resume waiter).2
  | (now, .complete owner response) => (store.complete now owner response).2
  | (_, .abort owner) => store.abort owner
  | (now, .markConsumed) => (store.markConsumed now).2
  | (now, .prune) => store.prune now

/-- What is seen of an acquire that has come this far. -/
def seenOfAcquire (requestHash : String) :
    Except String ReplayAcquireStart × MemoryReplayStore → Option (Act Nat String String)
  | (.ok (.returned (.owner owner)), after) =>
    after.reservations[owner]?.map fun entry =>
      .reserved owner entry.requestHash entry.expiresAtMs
  | (.ok (.returned (.replayed response)), _) => some (.replayed requestHash response)
  | _ => none

/-- The owner's reservation that a call of `caller` took out of the map. -/
def removal (caller : Nat) (after : MemoryReplayStore) : Option (Act Nat String String) :=
  if after.current.isNone then store.current.map (.removed caller) else none

/-- What is seen of a call: a reservation, a publication, a removal by an owner, a consumption, a
replayed response. -/
def observe : Nat × MemoryReplayCall → Option (Act Nat String String)
  | (now, .acquire elapsed requestHash ttlMs aborted) =>
    seenOfAcquire requestHash (store.acquire now elapsed requestHash ttlMs aborted)
  | (_, .resume waiter) =>
    match store.waiters[waiter]?, (store.resume waiter).1 with
    | some waiter, some (.replayed response) => some (.replayed waiter.requestHash response)
    | _, _ => none
  | (now, .complete owner response) =>
    match store.reservations[owner]?, store.complete now owner response with
    | some entry, (.ok (), _) =>
      if entry.settled then none else some (.published owner entry.requestHash response)
    | _, (_, after) => store.removal owner after
  | (_, .abort owner) => store.removal owner (store.abort owner)
  | (now, .markConsumed) =>
    match (store.markConsumed now).1 with
    | .ok () => store.get.map fun entry => .consumed entry.2.expiresAtMs
    | .error _ => none
  | _ => none

end MemoryReplayStore

end Tvic
