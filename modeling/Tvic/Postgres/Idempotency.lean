import Tvic.Lib.RowLock
import Tvic.Lib.Run
import Tvic.Tools.IdempotencyStore

/-!
# The PostgreSQL idempotency store

`claim`, `releaseClaim` and `complete` of `PostgresToolIdempotencyStore`, in
`packages/dal-postgres/src/idempotency.ts`: transactions on the row of one key that run statement by
statement between those of others. The triggers on the table and the advisory lock of a session can
only hold a statement up or make it fail, and a transaction may fail at any moment.
-/
namespace Tvic.Postgres

open Lib

variable {τ V J : Type} [DecidableEq τ]

/-- The transactions of this module; `complete` is of the key they all have. -/
inductive IdempotencyOperation (V : Type) where
  | claim (input : ToolIdempotencyClaim)
  | releaseClaim (input : ToolIdempotencyRelease)
  | complete (requestHash : String) (outcome : ToolIdempotencyOutcome V)

namespace IdempotencyOperation

def lease : IdempotencyOperation V → Option ToolIdempotencyLease
  | .claim input => input.lease
  | .releaseClaim input => input.lease
  | .complete _ outcome => outcome.lease

def sessionId : IdempotencyOperation V → Option SessionId
  | .claim input => input.sessionId
  | .releaseClaim input => input.sessionId
  | .complete _ outcome => outcome.sessionId

def ttlMs : IdempotencyOperation V → Option Number
  | .claim input => some input.ttlMs
  | .releaseClaim _ => none
  | .complete _ outcome => some outcome.ttlMs

/-- What a transaction answers of another session than its lease's, or one that is not its own;
`complete` throws. -/
def refused : IdempotencyOperation V → Option (ToolIdempotencyAnswer J)
  | .claim _ => some (.claim .conflict)
  | .releaseClaim _ => some (.releaseClaim false)
  | .complete _ _ => none

end IdempotencyOperation

/-- What the store asks of the rest of the database, and of the codec. -/
structure IdempotencyHost (V J : Type) where
  /-- `assertLease` passes at this moment. -/
  leaseLive : ToolIdempotencyLease → Nat → Bool
  /-- The session has a row in `tvic_sessions`. -/
  sessionExists : SessionId → Bool
  readPersistedError : J → Option J
  encodeOutput : V → J
  encodeError : V → J
  /-- `sameOutcome` of outputs and of errors. -/
  sameValue : Option J → Option V → Bool

/-- `idempotencyFromRow`; nothing where it throws `CorruptRecordError`. -/
def idempotencyFromRow (host : IdempotencyHost V J) (row : ToolIdempotencyRecord J)
    (requestHash : String) : Option (ToolIdempotencyRecord J) :=
  if row.claimedGenerationId = some "" then none
  else
    let record := { row with
      sessionId := truthy row.sessionId
      toolId := truthy row.toolId
      toolVersion := truthy row.toolVersion
      owner := truthy row.owner
      output := none
      error := none }
    if row.requestHash ≠ requestHash then some record
    else
      match row.error with
      | none => some { record with output := row.output }
      | some error =>
        (host.readPersistedError error).map fun error =>
          { record with output := row.output, error := some error }

open InMemoryToolIdempotencyStore (differs claimedBefore leasedSession otherSession)

/-- The answer of `claim` to a record that has not expired; nothing where it goes on to write. -/
def claimLive (input : ToolIdempotencyClaim) (sessionId : Option SessionId)
    (insertedByCurrentClaim : Bool) (record : ToolIdempotencyRecord J) :
    Option (ToolIdempotencyClaimResult J) :=
  if record.sessionId ≠ sessionId then some .conflict
  else if differs record.toolId input.toolId ∨ differs record.toolVersion input.toolVersion then
    some .conflict
  else if record.requestHash ≠ input.requestHash then some .conflict
  else if record.status = .succeeded then some (.succeeded record)
  else if record.status ≠ .claimed then some (.terminal record)
  else if insertedByCurrentClaim then some (.claimed record)
  else
    let staleClaim := input.lease.any fun lease =>
      record.sessionId = some lease.sessionId && claimedBefore record lease
    if staleClaim then none else some (.inProgress record)

theorem claimLive_claimed {input : ToolIdempotencyClaim} {sessionId : Option SessionId}
    {inserted : Bool} {record claimed : ToolIdempotencyRecord J}
    (answered : claimLive input sessionId inserted record = some (.claimed claimed)) :
    inserted = true := by
  unfold claimLive at answered
  grind -ring -linarith -order

theorem claimLive_isSome {input : ToolIdempotencyClaim} {sessionId : Option SessionId}
    {inserted : Bool} {record : ToolIdempotencyRecord J}
    (generation : record.claimedGenerationId = input.lease.map (·.generationId)) :
    claimLive input sessionId inserted record ≠ none := by
  cases held : input.lease with
  | none => grind -ring -linarith -order [claimLive]
  | some lease =>
    have current : claimedBefore record lease = false := by
      simp [claimedBefore, generation, held]
    grind -ring -linarith -order [claimLive]

theorem idempotencyFromRow_generation {host : IdempotencyHost V J}
    {row record : ToolIdempotencyRecord J} {requestHash : String}
    (read : idempotencyFromRow host row requestHash = some record) :
    record.claimedGenerationId = row.claimedGenerationId := by
  unfold idempotencyFromRow at read
  dsimp only at read
  split_ifs at read
  · cases read
    rfl
  · split at read
    · cases read
      rfl
    · obtain ⟨error, -, read⟩ := Option.map_eq_some_iff.mp read
      cases read
      rfl

/-- The row that `claim` inserts and that it writes over another. -/
def claimRow (input : ToolIdempotencyClaim) (sessionId : Option SessionId) (expiresAtMs : Nat) :
    ToolIdempotencyRecord J where
  key := input.key
  sessionId
  toolId := input.toolId
  toolVersion := input.toolVersion
  requestHash := input.requestHash
  status := .claimed
  owner := some input.owner
  claimedFence := input.lease.map (·.fence)
  claimedGenerationId := input.lease.map (·.generationId)
  expiresAtMs
  output := none
  error := none

/-- Whether `releaseClaim` deletes the row it has locked. -/
def releases (input : ToolIdempotencyRelease) (sessionId : Option SessionId) (now : Nat)
    (row : ToolIdempotencyRecord J) : Bool :=
  now < row.expiresAtMs && row.status = .claimed && row.requestHash = input.requestHash &&
    row.owner = some input.owner && row.sessionId = sessionId &&
    (row.claimedGenerationId.all fun generationId =>
      input.lease.any fun lease => generationId = lease.generationId) &&
    row.claimedFence.all fun fence => input.lease.any fun lease => fence = lease.fence

/-- The condition under which `complete` throws a lost lease. -/
def completionLeaseLost (outcome : ToolIdempotencyOutcome V) (record : ToolIdempotencyRecord J) :
    Bool :=
  record.sessionId ≠ leasedSession outcome.lease outcome.sessionId ||
    ((record.claimedFence.isSome || record.claimedGenerationId.isSome) &&
      outcome.lease.all fun lease =>
        match record.claimedGenerationId with
        | some generationId =>
            generationId ≠ lease.generationId ||
              record.claimedFence.any fun fence => fence ≠ lease.fence
        | none => record.claimedFence ≠ some lease.fence)

/-- The part of the `WHERE` of `complete` that its checks do not imply. -/
def completionMatches (lease : Option ToolIdempotencyLease) (row : ToolIdempotencyRecord J) :
    Bool :=
  lease.all fun lease => match row.claimedGenerationId with
    | some generationId => generationId = lease.generationId
    | none => row.claimedFence = some lease.fence

/-- The row `complete` leaves and its answer, for the row it has locked; nothing where it throws. -/
def completeRow (host : IdempotencyHost V J) (requestHash : String)
    (outcome : ToolIdempotencyOutcome V) (now : Nat) (row : ToolIdempotencyRecord J) :
    Option (Option (ToolIdempotencyRecord J)) := do
  if row.expiresAtMs ≤ now then none
  else
    let record ← idempotencyFromRow host row requestHash
    if completionLeaseLost outcome record then none
    else if record.requestHash ≠ requestHash ∨ record.owner ≠ some outcome.owner then none
    else if record.status ≠ .claimed then
      if record.status = outcome.status.val ∧ host.sameValue record.output outcome.output ∧
          host.sameValue record.error outcome.error then some none
      else none
    else
      let expiresAtMs ← (safeLeaseExpiryAt (.int now) outcome.ttlMs).toOption
      if completionMatches outcome.lease row then
        some (some { row with
          status := outcome.status.val
          output := outcome.output.map host.encodeOutput
          error := outcome.error.map host.encodeError
          expiresAtMs
          claimedFence := row.claimedFence.or (outcome.lease.map (·.fence))
          claimedGenerationId :=
            row.claimedGenerationId.or (outcome.lease.map (·.generationId)) })
      else none

theorem completeRow_written {host : IdempotencyHost V J} {requestHash : String}
    {outcome : ToolIdempotencyOutcome V} {now : Nat} {row new : ToolIdempotencyRecord J}
    (generation : row.claimedGenerationId = outcome.lease.map (·.generationId))
    (written : completeRow host requestHash outcome now row = some (some new)) :
    new.status ≠ .claimed ∧ new.claimedGenerationId = outcome.lease.map (·.generationId) := by
  unfold completeRow at written
  split at written
  · cases written
  obtain ⟨record, -, written⟩ := Option.bind_eq_some_iff.mp written
  split at written
  · cases written
  split at written
  · cases written
  split at written
  · -- a row completed already is left as it is
    split at written <;> cases written
  obtain ⟨expiresAtMs, -, written⟩ := Option.bind_eq_some_iff.mp written
  split at written
  · cases written
    refine ⟨outcome.status.property, ?_⟩
    simp [generation]
  · cases written

end Tvic.Postgres
