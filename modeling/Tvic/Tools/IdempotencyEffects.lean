import Tvic.Tools.IdempotencyStore

/-!
# What an idempotency call can do

The methods of the in-memory store, inverted: `Effect` lists what a call may answer and do to the
entry of its key, and `method_effect` finds every call in the list. What follows about runs of the
store is derived from it and does not look into the methods again.
-/
namespace Tvic

open Lib

variable {V J α β : Type}

namespace InMemoryToolIdempotencyStore

variable {result : Except DalError β}

theorem throwing_eq_ok {value : β} :
    (throwing result : Early α β) = .ok value ↔ result = .ok value := by
  cases result <;> simp [throwing, Except.mapError]

theorem throwing_eq_error {early : Except DalError α}
    (thrown : (throwing result : Early α β) = .error early) : ∃ e, early = .error e := by
  cases result with
  | ok value => cases thrown
  | error e =>
    cases thrown
    exact ⟨e, rfl⟩

theorem returnIf_eq_error {condition : Prop} [Decidable condition]
    {result early : Except DalError α} (returned : returnIf condition result = .error early) :
    early = result := by
  unfold returnIf at returned
  split at returned <;> cases returned
  rfl

/-- The lease is the one in the store, and has not expired at the method's reading. -/
def LiveLease (moment : Moment) (lease : ToolIdempotencyLease) : Prop :=
  ∃ readLeaseSnapshot snapshot, moment.readLeaseSnapshot = some readLeaseSnapshot ∧
    readLeaseSnapshot lease.sessionId = some snapshot ∧ snapshot.holder = lease.holder ∧
    .int snapshot.fence = lease.fence ∧ snapshot.generationId = lease.generationId ∧
    moment.readings.lease < snapshot.expiresAtMs

theorem assertLease_eq_ok {moment : Moment} {lease : ToolIdempotencyLease} {value : Unit}
    (asserted : assertLease moment (some lease) = .ok value) : LiveLease moment lease := by
  simp only [assertLease] at asserted
  split at asserted
  · cases asserted
  next readLeaseSnapshot reader =>
    unfold assertLeaseSnapshot at asserted
    split at asserted
    · cases asserted
    next snapshot found =>
      split at asserted
      · cases asserted
      next matching =>
        simp only [not_or, not_not, Nat.not_le] at matching
        obtain ⟨holder, fence, generationId, live⟩ := matching
        exact ⟨readLeaseSnapshot, snapshot, reader, found, holder, fence, generationId, live⟩

def Plain : Except DalError (ToolIdempotencyAnswer J) → Prop
  | .ok (.claim (.claimed _)) => False
  | .ok (.releaseClaim true) => False
  | _ => True

/-- What a call may answer and do to the entry of its key, by the record it found. -/
inductive Effect (moment : Moment) (existing : Option (ToolIdempotencyRecord J)) :
    ToolIdempotencyCall V → Except DalError (ToolIdempotencyAnswer J) →
      Change (ToolIdempotencyRecord J) → Prop where
  | kept (call : ToolIdempotencyCall V) (answer : Except DalError (ToolIdempotencyAnswer J))
      (plain : Plain answer) : Effect moment existing call answer .keep
  | claimed (input : ToolIdempotencyClaim) (record : ToolIdempotencyRecord J) (expiresAtMs : Nat)
      (live : ∀ lease, input.lease = some lease → LiveLease moment lease)
      (free : ∀ found, existing = some found → found.status = .claimed ∧
        ∃ lease, input.lease = some lease ∧ found.sessionId = some lease.sessionId ∧
          claimedBefore found lease) :
      Effect moment existing (.claim input) (.ok (.claim (.claimed record)))
        (.write (claimRecord input (leasedSession input.lease input.sessionId) expiresAtMs))
  | released (input : ToolIdempotencyRelease) (found : ToolIdempotencyRecord J)
      (present : existing = some found) (claimed : found.status = .claimed)
      (owner : found.owner = some input.owner) :
      Effect moment existing (.releaseClaim input) (.ok (.releaseClaim true)) .remove
  | settled (call : ToolIdempotencyCall V) (answer : Except DalError (ToolIdempotencyAnswer J))
      (record : ToolIdempotencyRecord J) (plain : Plain answer)
      (free : ∀ found, existing = some found → found.status = .claimed)
      (terminal : record.status ≠ .claimed) : Effect moment existing call answer (.write record)

section Effects

variable {serialization : Serialization V J} {moment : Moment}
  {existing : Option (ToolIdempotencyRecord J)}

variable {sessionId : Option SessionId}

theorem lookup_effect {key requestHash : String} {lease : Option ToolIdempotencyLease}
    {next : Continuation J (ToolIdempotencyLookupResult J)}
    (reached : lookup serialization moment requestHash sessionId lease = .ok next) :
    Effect (V := V) moment existing (.lookup key requestHash sessionId lease)
      ((next existing).1.map .lookup) (next existing).2 := by
  obtain ⟨_, _, reached⟩ := bind_eq_ok.mp reached
  obtain ⟨_, _, reached⟩ := bind_eq_ok.mp reached
  obtain ⟨_, _, reached⟩ := bind_eq_ok.mp reached
  cases reached
  cases existing with
  | none => exact .kept _ _ trivial
  | some found =>
    dsimp only
    split <;> exact .kept _ _ trivial

variable {input : ToolIdempotencyClaim} {found : ToolIdempotencyRecord J}

theorem claimExisting_eq_none (goesOn : claimExisting serialization input sessionId found = none) :
    found.status = .claimed ∧ ∃ lease, input.lease = some lease ∧
      found.sessionId = some lease.sessionId ∧ claimedBefore found lease := by
  unfold claimExisting at goesOn
  dsimp only at goesOn
  split_ifs at goesOn with session tool hash succeeded terminal stale
  simp only [Option.any_eq_true, Bool.and_eq_true, decide_eq_true_eq] at stale
  exact ⟨not_not.mp terminal, stale⟩

theorem claimExisting_plain {result : ToolIdempotencyClaimResult J}
    (settled : claimExisting serialization input sessionId found = some result) :
    Plain (.ok (.claim result)) := by
  unfold claimExisting at settled
  dsimp only at settled
  split_ifs at settled <;> cases settled <;> trivial

theorem claim_effect {next : Continuation J (ToolIdempotencyClaimResult J)}
    (reached : claim serialization moment input = .ok next) :
    Effect (V := V) moment existing (.claim input) ((next existing).1.map .claim)
      (next existing).2 := by
  obtain ⟨expiresAtMs, _, reached⟩ := bind_eq_ok.mp reached
  obtain ⟨_, asserted, reached⟩ := bind_eq_ok.mp reached
  obtain ⟨_, _, reached⟩ := bind_eq_ok.mp reached
  obtain ⟨_, _, reached⟩ := bind_eq_ok.mp reached
  cases reached
  have asserted := throwing_eq_ok.mp asserted
  have live : ∀ lease, input.lease = some lease → LiveLease moment lease := by
    intro lease leased
    rw [leased] at asserted
    exact assertLease_eq_ok asserted
  dsimp only
  split
  next result settled =>
    obtain ⟨found, _, settled⟩ := Option.bind_eq_some_iff.mp settled
    exact .kept _ _ (claimExisting_plain settled)
  next goesOn =>
    refine .claimed input _ expiresAtMs live ?_
    intro found present
    rw [present] at goesOn
    exact claimExisting_eq_none goesOn

theorem releaseClaim_effect {input : ToolIdempotencyRelease} {next : Continuation J Bool}
    (reached : releaseClaim moment input = .ok next) :
    Effect (V := V) moment existing (.releaseClaim input) ((next existing).1.map .releaseClaim)
      (next existing).2 := by
  obtain ⟨_, _, reached⟩ := bind_eq_ok.mp reached
  obtain ⟨_, _, reached⟩ := bind_eq_ok.mp reached
  obtain ⟨_, _, reached⟩ := bind_eq_ok.mp reached
  cases reached
  cases existing with
  | none => exact .kept _ _ trivial
  | some found =>
    dsimp only
    split_ifs with unmatched generation fence
    · exact .kept _ _ trivial
    · exact .kept _ _ trivial
    · exact .kept _ _ trivial
    · simp only [not_or, not_not] at unmatched
      exact .released input found rfl unmatched.1 unmatched.2.2.1

theorem complete_effect {key requestHash : String} {outcome : ToolIdempotencyOutcome V}
    {next : Continuation J Unit}
    (reached : complete serialization moment key requestHash outcome = .ok next) :
    Effect moment existing (.complete key requestHash outcome)
      ((next existing).1.map fun _ => .complete) (next existing).2 := by
  obtain ⟨expiresAtMs, _, reached⟩ := bind_eq_ok.mp reached
  obtain ⟨output, _, reached⟩ := bind_eq_ok.mp reached
  obtain ⟨error, _, reached⟩ := bind_eq_ok.mp reached
  obtain ⟨_, _, reached⟩ := bind_eq_ok.mp reached
  obtain ⟨_, _, reached⟩ := bind_eq_ok.mp reached
  obtain ⟨_, _, reached⟩ := bind_eq_ok.mp reached
  cases reached
  cases existing with
  | none => exact .kept _ _ trivial
  | some found =>
    dsimp only [completeExisting]
    split_ifs with hash lost owner terminal same
    · exact .kept _ _ trivial
    · exact .kept _ _ trivial
    · exact .kept _ _ trivial
    · exact .kept _ _ trivial
    · exact .kept _ _ trivial
    · refine .settled _ _ _ trivial ?_ outcome.status.2
      rintro _ ⟨⟩
      exact not_not.mp terminal

theorem quarantineExisting_eq_none {input : ToolIdempotencyQuarantine V}
    (goesOn : quarantineExisting serialization input found = none) : found.status = .claimed := by
  unfold quarantineExisting at goesOn
  split_ifs at goesOn with other succeeded terminal owner before
  exact not_not.mp terminal

theorem quarantine_effect {input : ToolIdempotencyQuarantine V}
    {next : Continuation J (ToolIdempotencyQuarantineResult J)}
    (reached : quarantine serialization moment input = .ok next) :
    Effect moment existing (.quarantine input) ((next existing).1.map .quarantine)
      (next existing).2 := by
  obtain ⟨expiresAtMs, _, reached⟩ := bind_eq_ok.mp reached
  obtain ⟨error, _, reached⟩ := bind_eq_ok.mp reached
  obtain ⟨_, _, reached⟩ := bind_eq_ok.mp reached
  obtain ⟨_, _, reached⟩ := bind_eq_ok.mp reached
  cases reached
  dsimp only
  split
  · exact .kept _ _ trivial
  next goesOn =>
    refine .settled _ _ _ trivial ?_ (by simp [quarantineRecord])
    intro found present
    rw [present] at goesOn
    exact quarantineExisting_eq_none goesOn

theorem map_eq_ok {f : α → β} {inner : Method J α} {next : Continuation J β}
    (reached : Method.map f inner = .ok next) :
    ∃ before, inner = .ok before ∧
      next = fun existing => ((before existing).1.map f, (before existing).2) := by
  cases inner with
  | error result => cases reached
  | ok before =>
    cases reached
    exact ⟨before, rfl, rfl⟩

theorem map_eq_error {f : α → β} {inner : Method J α} (early : Method.map f inner = .error result) :
    ∃ before, inner = .error before ∧ result = before.map f := by
  cases inner with
  | ok next => cases early
  | error before =>
    cases early
    exact ⟨before, rfl, rfl⟩

theorem method_effect {call : ToolIdempotencyCall V}
    {next : Continuation J (ToolIdempotencyAnswer J)}
    (reached : method serialization moment call = .ok next) :
    Effect moment existing call (next existing).1 (next existing).2 := by
  cases call with
  | lookup key requestHash sessionId lease =>
    obtain ⟨before, inner, rfl⟩ := map_eq_ok reached
    exact lookup_effect inner
  | claim input =>
    obtain ⟨before, inner, rfl⟩ := map_eq_ok reached
    exact claim_effect inner
  | releaseClaim input =>
    obtain ⟨before, inner, rfl⟩ := map_eq_ok reached
    exact releaseClaim_effect inner
  | complete key requestHash outcome =>
    obtain ⟨before, inner, rfl⟩ := map_eq_ok reached
    exact complete_effect inner
  | quarantine input =>
    obtain ⟨before, inner, rfl⟩ := map_eq_ok reached
    exact quarantine_effect inner

theorem claim_early {result : Except DalError (ToolIdempotencyClaimResult J)}
    (early : claim serialization moment input = .error result) :
    (∃ e, result = .error e) ∨ result = .ok .conflict := by
  rcases bind_eq_error.mp early with early | ⟨_, _, early⟩
  · exact .inl (throwing_eq_error early)
  rcases bind_eq_error.mp early with early | ⟨_, _, early⟩
  · exact .inl (throwing_eq_error early)
  rcases bind_eq_error.mp early with early | ⟨_, _, early⟩
  · exact .inr (returnIf_eq_error early)
  rcases bind_eq_error.mp early with early | ⟨_, _, early⟩
  · exact .inr (returnIf_eq_error early)
  cases early

theorem releaseClaim_early {input : ToolIdempotencyRelease} {result : Except DalError Bool}
    (early : releaseClaim (J := J) moment input = .error result) :
    (∃ e, result = .error e) ∨ result = .ok false := by
  rcases bind_eq_error.mp early with early | ⟨_, _, early⟩
  · exact .inl (throwing_eq_error early)
  rcases bind_eq_error.mp early with early | ⟨_, _, early⟩
  · exact .inr (returnIf_eq_error early)
  rcases bind_eq_error.mp early with early | ⟨_, _, early⟩
  · exact .inr (returnIf_eq_error early)
  cases early

theorem method_early {call : ToolIdempotencyCall V}
    {result : Except DalError (ToolIdempotencyAnswer J)}
    (early : method serialization moment call = .error result) : Plain result := by
  cases call with
  | claim input =>
    obtain ⟨before, inner, rfl⟩ := map_eq_error early
    rcases claim_early inner with ⟨e, rfl⟩ | rfl <;> trivial
  | releaseClaim input =>
    obtain ⟨before, inner, rfl⟩ := map_eq_error early
    rcases releaseClaim_early inner with ⟨e, rfl⟩ | rfl <;> trivial
  | lookup | complete | quarantine =>
    obtain ⟨before, inner, rfl⟩ := map_eq_error early
    cases before <;> trivial

end Effects

end InMemoryToolIdempotencyStore

end Tvic
