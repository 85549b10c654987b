import Tvic.Core.Dal

/-!
# The tool idempotency contract

The `ToolIdempotency` types of `packages/core/src/tool.ts`. An output is any value the tool gave
back, `V` as the caller hands it over and `J` as JSON; an error is an object, of the same types.
-/
namespace Tvic

inductive ToolIdempotencyStatus where
  | claimed
  | succeeded
  | failed
  | timedOut
  | cancelled
  deriving DecidableEq, Repr

/-- `Exclude<ToolIdempotencyStatus, "claimed">`. -/
abbrev TerminalStatus := { status : ToolIdempotencyStatus // status ≠ .claimed }

theorem succeeded_ne_claimed : ToolIdempotencyStatus.succeeded ≠ .claimed := by decide

structure ToolIdempotencyRecord (J : Type) where
  key : String
  sessionId : Option SessionId
  toolId : Option String
  toolVersion : Option String
  requestHash : String
  status : ToolIdempotencyStatus
  owner : Option String
  claimedFence : Option Number
  claimedGenerationId : Option String
  expiresAtMs : Nat
  output : Option J
  error : Option J
  deriving DecidableEq, Repr

structure ToolIdempotencyLease where
  sessionId : SessionId
  holder : String
  fence : Number
  generationId : String
  deriving DecidableEq, Repr

structure ToolIdempotencyClaim where
  key : String
  sessionId : Option SessionId
  lease : Option ToolIdempotencyLease
  toolId : Option String
  toolVersion : Option String
  requestHash : String
  owner : String
  ttlMs : Number
  deriving DecidableEq, Repr

inductive ToolIdempotencyClaimResult (J : Type) where
  | claimed (record : ToolIdempotencyRecord J)
  | succeeded (record : ToolIdempotencyRecord J)
  | terminal (record : ToolIdempotencyRecord J)
  | inProgress (record : ToolIdempotencyRecord J)
  | conflict
  deriving DecidableEq, Repr

inductive ToolIdempotencyLookupResult (J : Type) where
  | found (record : ToolIdempotencyRecord J)
  | conflict
  | missing
  deriving DecidableEq, Repr

structure ToolIdempotencyOutcome (V : Type) where
  status : TerminalStatus
  ttlMs : Number
  owner : String
  sessionId : Option SessionId
  lease : Option ToolIdempotencyLease
  output : Option V
  error : Option V

structure ToolIdempotencyRelease where
  key : String
  requestHash : String
  owner : String
  sessionId : Option SessionId
  lease : Option ToolIdempotencyLease
  deriving DecidableEq, Repr

structure ToolIdempotencyQuarantine (V : Type) where
  key : String
  sessionId : SessionId
  lease : ToolIdempotencyLease
  toolId : String
  toolVersion : String
  requestHash : String
  owner : String
  ttlMs : Number
  error : V

inductive ToolIdempotencyQuarantineResult (J : Type) where
  | quarantined (record : ToolIdempotencyRecord J)
  | succeeded (record : ToolIdempotencyRecord J)
  | terminal (record : ToolIdempotencyRecord J)
  | inProgress (record : ToolIdempotencyRecord J)
  | conflict
  deriving DecidableEq, Repr

inductive ToolIdempotencyCall (V : Type) where
  | lookup (key requestHash : String) (sessionId : Option SessionId)
      (lease : Option ToolIdempotencyLease)
  | claim (input : ToolIdempotencyClaim)
  | releaseClaim (input : ToolIdempotencyRelease)
  | complete (key requestHash : String) (outcome : ToolIdempotencyOutcome V)
  | quarantine (input : ToolIdempotencyQuarantine V)

/-- What a call resolves to. -/
inductive ToolIdempotencyAnswer (J : Type) where
  | lookup (result : ToolIdempotencyLookupResult J)
  | claim (result : ToolIdempotencyClaimResult J)
  | releaseClaim (released : Bool)
  | complete
  | quarantine (result : ToolIdempotencyQuarantineResult J)
  deriving DecidableEq, Repr

def ToolIdempotencyCall.key {V : Type} : ToolIdempotencyCall V → String
  | .lookup key .. => key
  | .claim input => input.key
  | .releaseClaim input => input.key
  | .complete key .. => key
  | .quarantine input => input.key

/-- A text that JavaScript takes for true; the empty one and a missing one are false. -/
def truthy (text : Option String) : Option String := text.filter (· ≠ "")

theorem truthy_eq_some {text : Option String} {value : String} :
    truthy text = some value ↔ text = some value ∧ value ≠ "" := by
  simp [truthy, Option.filter_eq_some_iff]

end Tvic
