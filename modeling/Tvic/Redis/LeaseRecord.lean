import Tvic.Core.Dal

/-!
# Lease records in Redis

What `readLease` of `redis-script-helpers.ts` makes of the text under a lease key. Fences and
timestamps are written as exact integer strings, so a record holds them as natural numbers.
-/
namespace Tvic.Redis

/-- The table `readLease` returns. A record written before generations has no generation id. -/
structure LeaseRecord where
  sessionId : SessionId
  holder : String
  fence : Nat
  generationId : Option String
  acquiredAtMs : Nat
  renewedAtMs : Nat
  expiresAtMs : Nat
  recoveryResolvedFence : Option Nat
  recoveryResolvedGenerationId : Option String
  deriving DecidableEq, Repr

/-- A text that `readLease` accepts, or one that it does not. -/
inductive StoredLease where
  | record (lease : LeaseRecord)
  | corrupt
  deriving DecidableEq, Repr

/-- The generation id the scripts give a lease: its own, or one made from its fence. -/
def LeaseRecord.generation (lease : LeaseRecord) : String :=
  lease.generationId.getD
    ("legacy:" ++ toString lease.fence ++ ":" ++ toString lease.acquiredAtMs)

/-- What `readLease` has checked of a table it returns. -/
structure LeaseRecord.Accepted (lease : LeaseRecord) : Prop where
  sessionId : lease.sessionId ≠ ""
  fence : 1 ≤ lease.fence ∧ lease.fence ≤ maxSafeInteger
  generationId : lease.generationId ≠ some ""
  acquiredAtMs : lease.acquiredAtMs ≤ maxSafeInteger
  renewedAtMs : lease.renewedAtMs ≤ maxSafeInteger
  expiresAtMs : lease.expiresAtMs ≤ maxSafeInteger
  recoveryResolvedFence : ∀ fence, lease.recoveryResolvedFence = some fence →
    1 ≤ fence ∧ fence ≤ maxSafeInteger
  recoveryResolvedGenerationId : lease.recoveryResolvedGenerationId ≠ some ""

theorem LeaseRecord.Accepted.generation_ne {lease : LeaseRecord} (accepted : lease.Accepted) :
    lease.generation ≠ "" := by
  intro empty
  cases own : lease.generationId with
  | some generationId =>
    rw [generation, own, Option.getD_some] at empty
    exact accepted.generationId (by rw [own, empty])
  | none =>
    have length := congrArg String.length empty
    simp [generation, own] at length

end Tvic.Redis
