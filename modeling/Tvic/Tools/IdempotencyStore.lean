import Tvic.Core.Tool
import Tvic.Lib.Expiry

/-!
# The in-memory idempotency store

`InMemoryToolIdempotencyStore` of `packages/tools/src/idempotency-store.ts`. No method awaits
anything, so each runs as a whole. A method first checks its lease and its input, and may throw
or return there; then `#active` drops expired entries and looks up the key; and what is left
depends on the record found alone.
-/
namespace Tvic

open Lib

structure InMemoryLeaseSnapshot where
  holder : String
  fence : Nat
  generationId : String
  expiresAtMs : Nat
  deriving DecidableEq, Repr

/-- The clock during one method, in whole milliseconds, in the order the method reads it. -/
structure Readings where
  expiry : Nat
  lease : Nat
  prune : Nat
  active : Nat
  ordered : expiry ≤ lease ∧ lease ≤ prune ∧ prune ≤ active

/-- A clock that stands still during a method. -/
def Readings.still (now : Nat) : Readings where
  expiry := now
  lease := now
  prune := now
  active := now
  ordered := by omega

/-- The clock and the leases as a method finds them. `readLeaseSnapshot` is missing where the
store was made without one. -/
structure Moment where
  readings : Readings
  readLeaseSnapshot : Option (SessionId → Option InMemoryLeaseSnapshot)

/-- `serialization.ts`: `snapshotJsonValue` of a caller's value and of a JSON value, and the
text that outcomes are compared by. -/
structure Serialization (V J : Type) where
  snapshotJsonValue : V → Except DalError J
  copyJsonValue : J → J
  stableStringify : Option J → String

abbrev InMemoryToolIdempotencyStore (J : Type) := IteratedMap String (ToolIdempotencyRecord J)

variable {V J α β : Type}

def snapshotIdempotencyRecord (serialization : Serialization V J)
    (record : ToolIdempotencyRecord J) : ToolIdempotencyRecord J :=
  { record with
    output := record.output.map serialization.copyJsonValue
    error := record.error.map serialization.copyJsonValue }

/-- What a method does to the entry of its key. -/
inductive Change (ρ : Type) where
  | keep
  | write (record : ρ)
  | remove
  deriving DecidableEq

/-- What a method answers and does, by the record that `#active` finds. -/
abbrev Continuation (J α : Type) :=
  Option (ToolIdempotencyRecord J) → Except DalError α × Change (ToolIdempotencyRecord J)

/-- A step that goes on with a `β`, or ends its method with what is on the left. -/
abbrev Early (α β : Type) := Except (Except DalError α) β

def throwing (result : Except DalError β) : Early α β := result.mapError .error

def returnIf (condition : Prop) [Decidable condition] (result : Except DalError α) : Early α Unit :=
  if condition then .error result else .ok ()

abbrev Method (J α : Type) := Early α (Continuation J α)

def Method.map (f : α → β) : Method J α → Method J β
  | .error result => .error (result.map f)
  | .ok next => .ok fun existing => ((next existing).1.map f, (next existing).2)

namespace InMemoryToolIdempotencyStore

def assertLeaseSnapshot (current : Option InMemoryLeaseSnapshot) (lease : ToolIdempotencyLease)
    (nowMs : Nat) : Except DalError Unit :=
  match current with
  | none => .error (.leaseLost lease.sessionId)
  | some current =>
    if current.holder ≠ lease.holder ∨ .int current.fence ≠ lease.fence ∨
        current.generationId ≠ lease.generationId ∨ current.expiresAtMs ≤ nowMs then
      .error (.leaseLost lease.sessionId)
    else .ok ()

def assertLease (moment : Moment) : Option ToolIdempotencyLease → Except DalError Unit
  | none => .ok ()
  | some lease =>
    match moment.readLeaseSnapshot with
    | none => .error (.leaseLost lease.sessionId)
    | some readLeaseSnapshot =>
      assertLeaseSnapshot (readLeaseSnapshot lease.sessionId) lease moment.readings.lease

def hasLiveLease (moment : Moment) (sessionId : SessionId) : Bool :=
  match moment.readLeaseSnapshot.bind (· sessionId) with
  | none => false
  | some lease => moment.readings.lease < lease.expiresAtMs

/-- `lease && sessionId && lease.sessionId !== sessionId`. -/
def otherSession (lease : Option ToolIdempotencyLease) (sessionId : Option SessionId) : Bool :=
  lease.any fun lease => (truthy sessionId).any fun sessionId => lease.sessionId ≠ sessionId

/-- `!lease && sessionId && this.#hasLiveLease(sessionId)`. -/
def shutOut (moment : Moment) (lease : Option ToolIdempotencyLease)
    (sessionId : Option SessionId) : Bool :=
  lease.isNone && (truthy sessionId).any (hasLiveLease moment)

/-- `lease?.sessionId ?? sessionId`. -/
def leasedSession (lease : Option ToolIdempotencyLease) (sessionId : Option SessionId) :
    Option SessionId :=
  (lease.map (·.sessionId)).or sessionId

/-- `previous < next` of two fences; a claim's fence is that of a lease, so both are integers. -/
def fenceBefore : Number → Number → Bool
  | .int previous, .int next => previous < next
  | _, _ => false

/-- Whether the claim of a record is of another generation, or where it has none of an earlier
fence, than the lease. -/
def claimedBefore (existing : ToolIdempotencyRecord J) (lease : ToolIdempotencyLease) : Bool :=
  match existing.claimedGenerationId with
  | some generationId => generationId ≠ lease.generationId
  | none => existing.claimedFence.any fun fence => fenceBefore fence lease.fence

section Methods

variable (serialization : Serialization V J) (moment : Moment)

def lookup (requestHash : String) (sessionId : Option SessionId)
    (lease : Option ToolIdempotencyLease) :
    Early (ToolIdempotencyLookupResult J) (Continuation J (ToolIdempotencyLookupResult J)) := do
  throwing (assertLease moment lease)
  returnIf (otherSession lease sessionId) (.ok .conflict)
  returnIf (shutOut moment lease sessionId) (.ok .conflict)
  return fun existing => match existing with
    | none => (.ok .missing, .keep)
    | some found =>
      if found.requestHash ≠ requestHash ∨ found.sessionId ≠ leasedSession lease sessionId then
        (.ok .conflict, .keep)
      else (.ok (.found (snapshotIdempotencyRecord serialization found)), .keep)

/-- Both are named, and they differ. -/
def differs (stored requested : Option String) : Bool :=
  (truthy stored).any fun stored => (truthy requested).any fun requested => stored ≠ requested

/-- The `if (existing)` of `claim`: nothing where the call goes on to claim the key. -/
def claimExisting (input : ToolIdempotencyClaim) (sessionId : Option SessionId)
    (existing : ToolIdempotencyRecord J) : Option (ToolIdempotencyClaimResult J) :=
  if existing.sessionId ≠ sessionId then some .conflict
  else if differs existing.toolId input.toolId ∨ differs existing.toolVersion input.toolVersion then
    some .conflict
  else if existing.requestHash ≠ input.requestHash then some .conflict
  else if existing.status = .succeeded then
    some (.succeeded (snapshotIdempotencyRecord serialization existing))
  else if existing.status ≠ .claimed then
    some (.terminal (snapshotIdempotencyRecord serialization existing))
  else
    let staleClaim := input.lease.any fun lease =>
      existing.sessionId = some lease.sessionId && claimedBefore existing lease
    if staleClaim then none
    else some (.inProgress (snapshotIdempotencyRecord serialization existing))

def claimRecord (input : ToolIdempotencyClaim) (sessionId : Option SessionId) (expiresAtMs : Nat) :
    ToolIdempotencyRecord J where
  key := input.key
  sessionId := truthy sessionId
  toolId := truthy input.toolId
  toolVersion := truthy input.toolVersion
  requestHash := input.requestHash
  status := .claimed
  owner := some input.owner
  claimedFence := input.lease.map (·.fence)
  claimedGenerationId := input.lease.map (·.generationId)
  expiresAtMs
  output := none
  error := none

def claim (input : ToolIdempotencyClaim) :
    Early (ToolIdempotencyClaimResult J) (Continuation J (ToolIdempotencyClaimResult J)) := do
  let expiresAtMs ← throwing (safeLeaseExpiryAt (.int moment.readings.expiry) input.ttlMs)
  throwing (assertLease moment input.lease)
  returnIf (otherSession input.lease input.sessionId) (.ok .conflict)
  let sessionId := leasedSession input.lease input.sessionId
  returnIf (shutOut moment input.lease sessionId) (.ok .conflict)
  return fun existing => match existing.bind (claimExisting serialization input sessionId) with
    | some result => (.ok result, .keep)
    | none =>
      let record := claimRecord input sessionId expiresAtMs
      (.ok (.claimed (snapshotIdempotencyRecord serialization record)), .write record)

def releaseClaim (input : ToolIdempotencyRelease) : Early Bool (Continuation J Bool) := do
  throwing (assertLease moment input.lease)
  returnIf (otherSession input.lease input.sessionId) (.ok false)
  let sessionId := leasedSession input.lease input.sessionId
  returnIf (shutOut moment input.lease sessionId) (.ok false)
  return fun existing => match existing with
    | none => (.ok false, .keep)
    | some existing =>
      if existing.status ≠ .claimed ∨ existing.requestHash ≠ input.requestHash ∨
          existing.owner ≠ some input.owner ∨ existing.sessionId ≠ sessionId then
        (.ok false, .keep)
      else if existing.claimedGenerationId.any fun generationId =>
          input.lease.all fun lease => generationId ≠ lease.generationId then (.ok false, .keep)
      else if existing.claimedFence.any fun fence =>
          input.lease.all fun lease => fence ≠ lease.fence then (.ok false, .keep)
      else (.ok true, .remove)

/-- The condition under which `complete` throws a lost lease. -/
def completionLeaseLost (outcome : ToolIdempotencyOutcome V) (existing : ToolIdempotencyRecord J) :
    Bool :=
  leasedSession outcome.lease outcome.sessionId ≠ existing.sessionId ||
    ((existing.claimedFence.isSome || existing.claimedGenerationId.isSome) &&
      outcome.lease.all fun lease =>
        match existing.claimedGenerationId with
        | some generationId =>
            generationId ≠ lease.generationId ||
              existing.claimedFence.any fun fence => fence ≠ lease.fence
        | none => existing.claimedFence ≠ some lease.fence)

/-- The end of `complete`, for the record that `#active` has found. -/
def completeExisting (requestHash : String) (outcome : ToolIdempotencyOutcome V) (key : String)
    (output error : Option J) (expiresAtMs : Nat) (existing : ToolIdempotencyRecord J) :
    Except DalError Unit × Change (ToolIdempotencyRecord J) :=
  let conflict := .recordConflict "tool_idempotency"
  if existing.requestHash ≠ requestHash then (.error conflict, .keep)
  else if completionLeaseLost outcome existing then
    let session := (existing.sessionId.or (outcome.lease.map (·.sessionId))).getD "unknown"
    (.error (.leaseLost session), .keep)
  else if (truthy (some outcome.owner)).any (fun owner => existing.owner ≠ some owner) ∨
      outcome.lease.any fun lease =>
        (truthy existing.sessionId).any fun sessionId => sessionId ≠ lease.sessionId then
    (.error conflict, .keep)
  else if existing.status ≠ .claimed then
    if existing.status = outcome.status ∧
        serialization.stableStringify existing.output = serialization.stableStringify output ∧
        serialization.stableStringify existing.error = serialization.stableStringify error then
      (.ok (), .keep)
    else (.error conflict, .keep)
  else
    (.ok (), .write
      { existing with
        key
        requestHash
        status := outcome.status
        expiresAtMs
        owner := (truthy (some outcome.owner)).or existing.owner
        output := output.or existing.output
        error := error.or existing.error })

def complete (key requestHash : String) (outcome : ToolIdempotencyOutcome V) :
    Early Unit (Continuation J Unit) := do
  let expiresAtMs ← throwing (safeLeaseExpiryAt (.int moment.readings.expiry) outcome.ttlMs)
  let output ← throwing (outcome.output.mapM serialization.snapshotJsonValue)
  let error ← throwing (outcome.error.mapM serialization.snapshotJsonValue)
  throwing (assertLease moment outcome.lease)
  returnIf (otherSession outcome.lease outcome.sessionId)
    (.error (.recordConflict "tool_idempotency"))
  let sessionId := leasedSession outcome.lease outcome.sessionId
  returnIf (shutOut moment outcome.lease sessionId) (.error (.recordConflict "tool_idempotency"))
  return fun existing => match existing with
    | none => (.error (.recordNotFound "tool_idempotency"), .keep)
    | some existing =>
      completeExisting serialization requestHash outcome key output error expiresAtMs existing

/-- The `if (existing)` of `quarantine`: nothing where the call goes on to write. -/
def quarantineExisting (input : ToolIdempotencyQuarantine V) (existing : ToolIdempotencyRecord J) :
    Option (ToolIdempotencyQuarantineResult J) :=
  if existing.sessionId ≠ some input.sessionId ∨ existing.toolId ≠ some input.toolId ∨
      existing.toolVersion ≠ some input.toolVersion ∨ existing.requestHash ≠ input.requestHash then
    some .conflict
  else if existing.status = .succeeded then
    some (.succeeded (snapshotIdempotencyRecord serialization existing))
  else if existing.status ≠ .claimed then
    some (.terminal (snapshotIdempotencyRecord serialization existing))
  else if existing.owner ≠ some input.owner then
    some (.inProgress (snapshotIdempotencyRecord serialization existing))
  else if claimedBefore existing input.lease then none
  else some (.inProgress (snapshotIdempotencyRecord serialization existing))

def quarantineRecord (input : ToolIdempotencyQuarantine V) (error : J) (expiresAtMs : Nat) :
    ToolIdempotencyRecord J where
  key := input.key
  sessionId := some input.sessionId
  toolId := some input.toolId
  toolVersion := some input.toolVersion
  requestHash := input.requestHash
  status := .failed
  owner := some input.owner
  claimedFence := some input.lease.fence
  claimedGenerationId := some input.lease.generationId
  expiresAtMs
  output := none
  error := some error

def quarantine (input : ToolIdempotencyQuarantine V) :
    Early (ToolIdempotencyQuarantineResult J)
      (Continuation J (ToolIdempotencyQuarantineResult J)) := do
  let expiresAtMs ← throwing (safeLeaseExpiryAt (.int moment.readings.expiry) input.ttlMs)
  let error ← throwing (serialization.snapshotJsonValue input.error)
  throwing (assertLease moment (some input.lease))
  returnIf (input.sessionId ≠ input.lease.sessionId) (.ok .conflict)
  return fun existing => match existing.bind (quarantineExisting serialization input) with
    | some result => (.ok result, .keep)
    | none =>
      let record := quarantineRecord input error expiresAtMs
      (.ok (.quarantined (snapshotIdempotencyRecord serialization record)), .write record)

def method : ToolIdempotencyCall V → Method J (ToolIdempotencyAnswer J)
  | .lookup _ requestHash sessionId lease =>
      Method.map .lookup (lookup serialization moment requestHash sessionId lease)
  | .claim input => Method.map .claim (claim serialization moment input)
  | .releaseClaim input => Method.map .releaseClaim (releaseClaim moment input)
  | .complete key requestHash outcome =>
      Method.map (fun _ => .complete) (complete serialization moment key requestHash outcome)
  | .quarantine input => Method.map .quarantine (quarantine serialization moment input)

end Methods

/-! ### The entries -/

def new : InMemoryToolIdempotencyStore J := IteratedMap.empty

def pruneExpiredBatch (limit now : Nat) (store : InMemoryToolIdempotencyStore J) :
    InMemoryToolIdempotencyStore J :=
  store.pruneBatch (·.expiresAtMs) now limit

/-- `pruneExpired`, and the number of entries it removes. -/
def pruneExpired (now : Nat) (store : InMemoryToolIdempotencyStore J) :
    Nat × InMemoryToolIdempotencyStore J :=
  let expired := store.entries.filter fun entry => entry.2.expiresAtMs ≤ now
  (expired.length, (expired.foldl (fun store entry => store.delete entry.1) store).restart)

def active (readings : Readings) (key : String) (store : InMemoryToolIdempotencyStore J) :
    Option (ToolIdempotencyRecord J) × InMemoryToolIdempotencyStore J :=
  let store := store.pruneExpiredBatch 32 readings.prune
  match store.get key with
  | none => (none, store)
  | some found =>
    if found.expiresAtMs ≤ readings.active then (none, store.delete key) else (some found, store)

def apply (key : String) (store : InMemoryToolIdempotencyStore J) :
    Change (ToolIdempotencyRecord J) → InMemoryToolIdempotencyStore J
  | .keep => store
  | .write record => store.set key record
  | .remove => store.delete key

def perform (readings : Readings) (key : String) (method : Method J α)
    (store : InMemoryToolIdempotencyStore J) : Except DalError α × InMemoryToolIdempotencyStore J :=
  match method with
  | .error result => (result, store)
  | .ok next =>
    let (existing, store) := store.active readings key
    let (result, change) := next existing
    (result, store.apply key change)

def serve (serialization : Serialization V J) (moment : Moment) (call : ToolIdempotencyCall V)
    (store : InMemoryToolIdempotencyStore J) :
    Except DalError (ToolIdempotencyAnswer J) × InMemoryToolIdempotencyStore J :=
  store.perform moment.readings call.key (method serialization moment call)

end InMemoryToolIdempotencyStore

end Tvic
