import Tvic.Tools.ExecuteTool

/-!
# One execution for each idempotency key

While the record of a key has not expired, one call at most is engaged: it holds the claim, or it has
started the executor. Everything follows from what a call may do to the record of its key, which
`IdempotencyEffects` sums up; here only the answers of `claim` are looked at once more.
-/
namespace Tvic

open Lib

variable {V J : Type}

namespace InMemoryToolIdempotencyStore

variable {serialization : Serialization V J} {moment : Moment}

/-! ## The record of one key -/

theorem active_spec (store : InMemoryToolIdempotencyStore J) (readings : Readings) (key : String) :
    (store.active readings key).1 = live (·.expiresAtMs) readings.active (store.get key) ∧
      (store.active readings key).2.get key = (store.active readings key).1 := by
  have itself : Agrees 0 store fun key => store.get key := fun _ => .inl rfl
  refine ⟨(itself.active _ (Nat.zero_le _) key).1, ?_⟩
  unfold active
  dsimp only
  split
  next missing => exact missing
  next found present =>
    split
    · exact IteratedMap.get_delete_self _ _
    · exact present

theorem apply_get (store : InMemoryToolIdempotencyStore J) (key : String)
    (change : Change (ToolIdempotencyRecord J)) :
    (store.apply key change).get key =
      match change with
      | .keep => store.get key
      | .write record => some record
      | .remove => none := by
  cases change <;> simp [apply]

/-- A method that comes to its `#active` works on what counts of the record of its key; one that
ends before leaves the store alone. -/
theorem perform_own {α : Type} (store : InMemoryToolIdempotencyStore J) (readings : Readings)
    (key : String) (method : Method J α) :
    (∃ result, method = .error result ∧ store.perform readings key method = (result, store)) ∨
      ∃ next, method = .ok next ∧
        (store.perform readings key method).1 =
          (next (live (·.expiresAtMs) readings.active (store.get key))).1 ∧
        (store.perform readings key method).2.get key =
          match (next (live (·.expiresAtMs) readings.active (store.get key))).2 with
          | .keep => live (·.expiresAtMs) readings.active (store.get key)
          | .write record => some record
          | .remove => none := by
  cases method with
  | error result => exact .inl ⟨result, rfl, rfl⟩
  | ok next =>
    obtain ⟨found, left⟩ := store.active_spec readings key
    refine .inr ⟨next, rfl, ?_, ?_⟩
    · rw [← found]
      rfl
    · unfold perform
      dsimp only
      rw [apply_get, left, found]

/-- Between `before` and `after`, what is stored may only be lost, and that only once it has expired
by `finish`. -/
def Undisturbed (finish : Nat) (before after : Option (ToolIdempotencyRecord J)) : Prop :=
  (∀ record, after = some record → before = some record) ∧
    ∀ record, before = some record → finish < record.expiresAtMs → after = some record

theorem Undisturbed.refl (finish : Nat) (slot : Option (ToolIdempotencyRecord J)) :
    Undisturbed finish slot slot :=
  ⟨fun _ stored => stored, fun _ stored _ => stored⟩

theorem Undisturbed.live (finish : Nat) (slot : Option (ToolIdempotencyRecord J)) :
    Undisturbed finish slot (live (·.expiresAtMs) finish slot) :=
  ⟨fun _ stored => (live_eq_some.mp stored).1, fun _ stored counts => live_eq_some.mpr ⟨stored, counts⟩⟩

variable (serialization) in
theorem step_other (store : InMemoryToolIdempotencyStore J) (event : IdempotencyEvent V) {key : String}
    (other : ∀ moment call, event = .call moment call → call.key ≠ key) :
    Undisturbed event.finish (store.get key) ((store.step serialization event).get key) := by
  have itself : Agrees 0 store fun key => store.get key := fun _ => .inl rfl
  have agrees := itself.step serialization event (Nat.zero_le _) key
  have untouched : IdempotencyLedger.step serialization (fun key => store.get key) event key =
      store.get key := by
    cases event with
    | pruneExpired now => rfl
    | call moment call =>
      obtain ⟨change, -, written⟩ : ∃ change, True ∧
          (IdempotencyLedger.serve serialization moment call fun key => store.get key).2 =
            IdempotencyLedger.apply call.key (fun key => store.get key) change := by
        unfold IdempotencyLedger.serve IdempotencyLedger.perform
        cases method serialization moment call with
        | error result => exact ⟨.keep, trivial, rfl⟩
        | ok next => exact ⟨_, trivial, rfl⟩
      rw [IdempotencyLedger.step, written]
      have ne := other moment call rfl
      cases change <;> simp [IdempotencyLedger.apply, Ne.symm ne]
  rw [untouched] at agrees
  constructor
  · intro record held
    rcases agrees with same | ⟨dropped, -⟩
    · rw [← same, held]
    · rw [held] at dropped
      cases dropped
  · intro record held counts
    rcases agrees with same | ⟨-, gone⟩
    · rw [same, held]
    · rw [held, live_eq_none] at gone
      exact absurd (gone record rfl) (Nat.not_le_of_lt counts)

/-- What `claim` may answer to a call that does not get the claim, by the record it finds. -/
inductive Declined (serialization : Serialization V J) (slot : Option (ToolIdempotencyRecord J)) :
    Except DalError (ToolIdempotencyClaimResult J) → Prop where
  | threw (error : DalError) : Declined serialization slot (.error error)
  | conflict : Declined serialization slot (.ok .conflict)
  | inProgress (record : ToolIdempotencyRecord J) : Declined serialization slot (.ok (.inProgress record))
  | succeeded (record : ToolIdempotencyRecord J) (stored : slot = some record)
      (status : record.status = .succeeded) :
      Declined serialization slot (.ok (.succeeded (snapshotIdempotencyRecord serialization record)))
  | terminal (record : ToolIdempotencyRecord J) (stored : slot = some record)
      (ended : record.status ≠ .claimed) (status : record.status ≠ .succeeded) :
      Declined serialization slot (.ok (.terminal (snapshotIdempotencyRecord serialization record)))

theorem Declined.transport {slot after : Option (ToolIdempotencyRecord J)}
    {answer : Except DalError (ToolIdempotencyClaimResult J)}
    (declined : Declined serialization slot answer)
    (kept : ∀ record, slot = some record → record.status ≠ .claimed → after = some record) :
    Declined serialization after answer := by
  cases declined with
  | threw error => exact .threw error
  | conflict => exact .conflict
  | inProgress record => exact .inProgress record
  | succeeded record stored status =>
    exact .succeeded record (kept record stored (by simp [status])) status
  | terminal record stored ended status => exact .terminal record (kept record stored ended) ended status

theorem claimExisting_declined {input : ToolIdempotencyClaim} {sessionId : Option SessionId}
    {found : ToolIdempotencyRecord J} {result : ToolIdempotencyClaimResult J}
    (settled : claimExisting serialization input sessionId found = some result) :
    Declined serialization (some found) (.ok result) := by
  unfold claimExisting at settled
  dsimp only at settled
  split_ifs at settled with session tool hash succeeded terminal stale <;> cases settled
  · exact .conflict
  · exact .conflict
  · exact .conflict
  · exact .succeeded found rfl succeeded
  · exact .terminal found rfl terminal succeeded
  · exact .inProgress _

variable (serialization moment) in
/-- `claim` grants the key, over a claim of another generation or an earlier fence at most, or
declines and leaves the record. -/
theorem perform_claim (store : InMemoryToolIdempotencyStore J) (input : ToolIdempotencyClaim) :
    let slot := live (·.expiresAtMs) moment.readings.active (store.get input.key)
    let (answer, after) :=
      store.perform moment.readings input.key (claim serialization moment input)
    (∃ record sessionId expiresAtMs, answer = .ok (.claimed record) ∧
        after.get input.key = some (claimRecord input sessionId expiresAtMs) ∧
        ∀ found, slot = some found → found.status = .claimed ∧
          ∃ lease, input.lease = some lease ∧ claimedBefore found lease) ∨
      Declined serialization slot answer ∧
        Undisturbed moment.readings.active (store.get input.key) (after.get input.key) := by
  intro slot
  dsimp only
  rcases store.perform_own moment.readings input.key (claim serialization moment input) with
    ⟨result, early, same⟩ | ⟨next, reached, answer, left⟩
  · rw [same]
    right
    refine ⟨?_, .refl _ _⟩
    rcases claim_early early with ⟨error, rfl⟩ | rfl
    · exact .threw error
    · exact .conflict
  · rw [answer, left]
    obtain ⟨expiresAtMs, _, reached⟩ := bind_eq_ok.mp reached
    obtain ⟨_, _, reached⟩ := bind_eq_ok.mp reached
    obtain ⟨_, _, reached⟩ := bind_eq_ok.mp reached
    obtain ⟨_, _, reached⟩ := bind_eq_ok.mp reached
    cases reached
    dsimp only
    generalize stored : slot = existing
    change live (·.expiresAtMs) moment.readings.active (store.get input.key) = existing at stored
    rw [stored]
    cases goesOn : existing.bind
        (claimExisting serialization input (leasedSession input.lease input.sessionId)) with
    | some result =>
      -- the record found settles the answer, and stays
      obtain ⟨found, rfl, settled⟩ := Option.bind_eq_some_iff.mp goesOn
      refine .inr ⟨claimExisting_declined settled, ?_⟩
      rw [← stored]
      exact .live _ _
    | none =>
      refine .inl ⟨_, _, expiresAtMs, rfl, rfl, ?_⟩
      rintro found rfl
      obtain ⟨claimed, lease, leased, _, before⟩ := claimExisting_eq_none goesOn
      exact ⟨claimed, lease, leased, before⟩

theorem perform_releaseClaim (store : InMemoryToolIdempotencyStore J)
    (input : ToolIdempotencyRelease) :
    let after := (store.perform moment.readings input.key (releaseClaim moment input)).2
    (after.get input.key = none ∧ ∃ found, store.get input.key = some found ∧ found.status = .claimed) ∨
      Undisturbed moment.readings.active (store.get input.key) (after.get input.key) := by
  dsimp only
  rcases store.perform_own moment.readings input.key (releaseClaim moment input) with
    ⟨result, _, same⟩ | ⟨next, reached, _, left⟩
  · rw [same]
    exact .inr (.refl _ _)
  · rw [left]
    obtain ⟨_, _, reached⟩ := bind_eq_ok.mp reached
    obtain ⟨_, _, reached⟩ := bind_eq_ok.mp reached
    obtain ⟨_, _, reached⟩ := bind_eq_ok.mp reached
    cases reached
    have kept := Undisturbed.live moment.readings.active (store.get input.key)
    obtain ⟨slot, stored⟩ : ∃ slot, live (·.expiresAtMs) moment.readings.active
        (store.get input.key) = slot := ⟨_, rfl⟩
    rw [stored] at kept ⊢
    cases slot with
    | none => exact .inr kept
    | some found =>
      dsimp only
      split_ifs with unmatched generation fence
      · exact .inr kept
      · exact .inr kept
      · exact .inr kept
      · simp only [not_or, not_not] at unmatched
        exact .inl ⟨rfl, found, (live_eq_some.mp stored).1, unmatched.1⟩

theorem perform_complete (store : InMemoryToolIdempotencyStore J) (key requestHash : String)
    (outcome : ToolIdempotencyOutcome V) :
    let after :=
      (store.perform moment.readings key (complete serialization moment key requestHash outcome)).2
    (∃ found record, store.get key = some found ∧ found.status = .claimed ∧
        after.get key = some record ∧ record.status ≠ .claimed) ∨
      Undisturbed moment.readings.active (store.get key) (after.get key) := by
  dsimp only
  rcases store.perform_own moment.readings key
      (complete serialization moment key requestHash outcome) with
    ⟨result, _, same⟩ | ⟨next, reached, _, left⟩
  · rw [same]
    exact .inr (.refl _ _)
  · rw [left]
    obtain ⟨expiresAtMs, _, reached⟩ := bind_eq_ok.mp reached
    obtain ⟨output, _, reached⟩ := bind_eq_ok.mp reached
    obtain ⟨error, _, reached⟩ := bind_eq_ok.mp reached
    obtain ⟨_, _, reached⟩ := bind_eq_ok.mp reached
    obtain ⟨_, _, reached⟩ := bind_eq_ok.mp reached
    obtain ⟨_, _, reached⟩ := bind_eq_ok.mp reached
    cases reached
    have kept := Undisturbed.live moment.readings.active (store.get key)
    obtain ⟨slot, stored⟩ : ∃ slot, live (·.expiresAtMs) moment.readings.active
        (store.get key) = slot := ⟨_, rfl⟩
    rw [stored] at kept ⊢
    cases slot with
    | none => exact .inr kept
    | some found =>
      dsimp only [completeExisting]
      split_ifs with hash lost owner terminal same
      · exact .inr kept
      · exact .inr kept
      · exact .inr kept
      · exact .inr kept
      · exact .inr kept
      · exact .inl ⟨found, _, (live_eq_some.mp stored).1, not_not.mp terminal, rfl, outcome.status.2⟩

theorem perform_map {α β : Type} (f : α → β) (inner : Method J α) (readings : Readings) (key : String)
    (store : InMemoryToolIdempotencyStore J) :
    store.perform readings key (Method.map f inner) =
      ((store.perform readings key inner).1.map f, (store.perform readings key inner).2) := by
  cases inner <;> rfl

theorem perform_lookup (store : InMemoryToolIdempotencyStore J) {key other : String} (apart : other ≠ key)
    (requestHash : String) (sessionId : Option SessionId) (lease : Option ToolIdempotencyLease) :
    Undisturbed moment.readings.active (store.get key)
      ((store.perform moment.readings other
        (lookup serialization moment requestHash sessionId lease)).2.get key) := by
  have undisturbed := store.step_other serialization
    (.call moment (.lookup other requestHash sessionId lease))
    (by rintro _ _ ⟨⟩; exact apart)
  simp only [step, serve, method, perform_map] at undisturbed
  exact undisturbed

end InMemoryToolIdempotencyStore

open InMemoryToolIdempotencyStore

/-! ## Calls that hold the key -/

namespace ToolExecution

/-- The call has been granted the claim and not given it back, or has started the executor. -/
def Engaged (execution : ToolExecution J) : Prop :=
  execution.executionStarted = true ∨
    match execution.phase with
    | .awaitingClaim (.ok (.claimed _)) | .awaitingAttempt .. => True
    | _ => False

theorem not_engaged_released (released : Except DalError Bool) (result : ToolCallResult J) :
    ¬(⟨.awaitingRelease released result, false⟩ : ToolExecution J).Engaged := by
  simp [Engaged]

end ToolExecution

section Calls

variable (host : ToolHost V J) (slot : Option (ToolIdempotencyRecord J)) (request : ToolRequest)

/-- What a call may return that has not started the executor, where `slot` is stored under its key:
the recorded end of the key, a failure that says why it was not run, or its own cancellation. -/
inductive Refused : ToolCallResult J → Prop where
  | conflict : Refused request.idempotencyConflict
  | inProgress : Refused request.idempotencyInProgress
  | hit (record : ToolIdempotencyRecord J) (stored : slot = some record)
      (succeeded : record.status = .succeeded) :
      Refused (request.idempotentHit (snapshotIdempotencyRecord host.serialization record))
  | terminal (record : ToolIdempotencyRecord J) (stored : slot = some record)
      (ended : record.status ≠ .claimed) (unsuccessful : record.status ≠ .succeeded) :
      Refused (request.idempotentTerminal host (snapshotIdempotencyRecord host.serialization record))
  | cancelled (attempt : Nat) : Refused (cancelledAttempt attempt)

/-- Where a call may be that has not started the executor. -/
inductive Unstarted : CallPhase J → Prop where
  | lookup (answer : Except DalError (ToolIdempotencyLookupResult J)) :
      Unstarted (.awaitingLookup answer)
  | granted (record : ToolIdempotencyRecord J) : Unstarted (.awaitingClaim (.ok (.claimed record)))
  | declined (answer : Except DalError (ToolIdempotencyClaimResult J))
      (declined : Declined host.serialization slot answer) : Unstarted (.awaitingClaim answer)
  | cancelled (attempt : Nat) : Unstarted (.awaitingAttempt attempt (cancelledAttempt attempt))
  | released (released : Except DalError Bool) (attempt : Nat) :
      Unstarted (.awaitingRelease released (cancelledAttempt attempt))
  | returned (result : ToolCallResult J) (refused : Refused host slot request result) :
      Unstarted (.returned result)
  | thrown (error : DalError) : Unstarted (.thrown error)

def Underway : CallPhase J → Prop
  | .executing _ | .awaitingAttempt .. | .delaying .. | .awaitingCompletion .. | .returned _ => True
  | _ => False

def Sound (execution : ToolExecution J) : Prop :=
  if execution.executionStarted then Underway execution.phase
  else Unstarted host slot request execution.phase

variable {host slot request} {after : Option (ToolIdempotencyRecord J)}

theorem Refused.transport {result : ToolCallResult J} (refused : Refused host slot request result)
    (kept : ∀ record, slot = some record → record.status ≠ .claimed → after = some record) :
    Refused host after request result := by
  cases refused with
  | conflict => exact .conflict
  | inProgress => exact .inProgress
  | hit record stored status => exact .hit record (kept record stored (by simp [status])) status
  | terminal record stored ended status => exact .terminal record (kept record stored ended) ended status
  | cancelled attempt => exact .cancelled attempt

theorem Unstarted.transport {phase : CallPhase J} (unstarted : Unstarted host slot request phase)
    (kept : ∀ record, slot = some record → record.status ≠ .claimed → after = some record) :
    Unstarted host after request phase := by
  cases unstarted with
  | lookup answer => exact .lookup answer
  | granted record => exact .granted record
  | declined answer declined => exact .declined answer (declined.transport kept)
  | cancelled attempt => exact .cancelled attempt
  | released released attempt => exact .released released attempt
  | returned result refused => exact .returned result (refused.transport kept)
  | thrown error => exact .thrown error

theorem Sound.transport {execution : ToolExecution J} (sound : Sound host slot request execution)
    (kept : ∀ record, slot = some record → record.status ≠ .claimed → after = some record) :
    Sound host after request execution := by
  unfold Sound at sound ⊢
  split at sound
  next started => simpa [started] using sound
  next unstarted => simpa [unstarted] using sound.transport kept

end Calls

/-! ## What the segments do to the record of the key -/

namespace ToolRequest

variable (host : ToolHost V J) (request : ToolRequest) (moment : Moment)
  (store : InMemoryToolIdempotencyStore J)

theorem callClaim_spec :
    (∃ record sessionId expiresAtMs,
        (request.callClaim host moment store).2 = ⟨.awaitingClaim (.ok (.claimed record)), false⟩ ∧
        (request.callClaim host moment store).1.get request.idempotencyKey =
          some (claimRecord request.claimInput sessionId expiresAtMs) ∧
        ∀ found, store.get request.idempotencyKey = some found →
          moment.readings.active < found.expiresAtMs → found.status = .claimed ∧
            ∃ lease, request.lease = some lease ∧ claimedBefore found lease) ∨
      ∃ answer, (request.callClaim host moment store).2 = ⟨.awaitingClaim answer, false⟩ ∧
        Declined host.serialization
          (live (·.expiresAtMs) moment.readings.active (store.get request.idempotencyKey)) answer ∧
        Undisturbed moment.readings.active (store.get request.idempotencyKey)
          ((request.callClaim host moment store).1.get request.idempotencyKey) := by
  have claims := store.perform_claim host.serialization moment
    request.claimInput
  rcases claims with ⟨record, sessionId, expiresAtMs, answer, written, free⟩ | ⟨declined, undisturbed⟩
  · refine .inl ⟨record, sessionId, expiresAtMs, ?_, written, ?_⟩
    · exact congrArg (fun answer => (⟨.awaitingClaim answer, false⟩ : ToolExecution J)) answer
    · intro found stored counts
      exact free found (live_eq_some.mpr ⟨stored, counts⟩)
  · exact .inr ⟨_, rfl, declined, undisturbed⟩

/-- A call that has started the executor tries to complete the record, and one that was cancelled
before that to release its claim. -/
theorem conclude_spec (result : ToolCallResult J) (execution : ToolExecution J)
    (cancelled : execution.executionStarted = false → result.status = cancelledStatus) :
    (execution.executionStarted = false ∧
        (∃ released, (request.conclude host moment result store execution).2 =
          ⟨.awaitingRelease released result, false⟩) ∧
        ((request.conclude host moment result store execution).1.get request.idempotencyKey = none ∧
            (∃ found, store.get request.idempotencyKey = some found ∧ found.status = .claimed) ∨
          Undisturbed moment.readings.active (store.get request.idempotencyKey)
            ((request.conclude host moment result store execution).1.get request.idempotencyKey))) ∨
      (execution.executionStarted = true ∧
        (∃ answer, (request.conclude host moment result store execution).2 =
          ⟨.awaitingCompletion answer result, true⟩) ∧
        ((∃ found record, store.get request.idempotencyKey = some found ∧ found.status = .claimed ∧
            (request.conclude host moment result store execution).1.get request.idempotencyKey =
              some record ∧ record.status ≠ .claimed) ∨
          Undisturbed moment.readings.active (store.get request.idempotencyKey)
            ((request.conclude host moment result store execution).1.get request.idempotencyKey))) := by
  cases started : execution.executionStarted with
  | false =>
    refine .inl ⟨rfl, ?_⟩
    unfold conclude
    rw [if_pos ⟨by simp [started], cancelled started⟩]
    exact ⟨⟨_, by rw [started]⟩, store.perform_releaseClaim request.releaseInput⟩
  | true =>
    refine .inr ⟨rfl, ?_⟩
    unfold conclude
    rw [if_neg (by simp [started])]
    exact ⟨⟨_, by rw [started]⟩, store.perform_complete _ _ _⟩

end ToolRequest

/-! ## The calls together -/

/-- The last reading of the clock. -/
def ToolEvent.finish : ToolEvent V → Nat
  | .start _ moment | .resume _ moment _ => moment.readings.active
  | .settle .. => 0
  | .other event => event.finish

/-- The claim was made under a lease of the generation, or under none. -/
def OfGeneration (generation : String) (record : ToolIdempotencyRecord J) : Prop :=
  record.claimedGenerationId = none ∧ record.claimedFence = none ∨
    record.claimedGenerationId = some generation

theorem OfGeneration.not_claimedBefore {generation : String} {record : ToolIdempotencyRecord J}
    (of_generation : OfGeneration generation record) {lease : ToolIdempotencyLease}
    (same : lease.generationId = generation) : claimedBefore record lease = false := by
  unfold claimedBefore
  rcases of_generation with ⟨generationId, fence⟩ | generationId
  · simp [generationId, fence]
  · simp [generationId, same]

theorem OfGeneration.claimRecord {generation : String} {input : ToolIdempotencyClaim}
    (same : ∀ lease, input.lease = some lease → lease.generationId = generation)
    (sessionId : Option SessionId) (expiresAtMs : Nat) :
    OfGeneration generation (claimRecord (J := J) input sessionId expiresAtMs) := by
  cases leased : input.lease with
  | none => exact .inl (by simp [InMemoryToolIdempotencyStore.claimRecord, leased])
  | some lease =>
    exact .inr (by simp [InMemoryToolIdempotencyStore.claimRecord, leased, same lease leased])

namespace ToolWorld

def Engaged (world : ToolWorld J) (id : Nat) : Prop :=
  ∃ execution, world.calls id = some execution ∧ execution.Engaged

theorem Started.engaged {world : ToolWorld J} {id : Nat} (started : world.Started id) :
    world.Engaged id := by
  obtain ⟨execution, call, started⟩ := started
  exact ⟨execution, call, .inl started⟩

section Set

variable (world : ToolWorld J) {id other : Nat} (segment : Segment J)

@[simp] theorem set_store : (world.set id segment).store = segment.1 := rfl

@[simp] theorem set_calls_self : (world.set id segment).calls id = some segment.2 := by
  simp [set]

theorem set_calls_of_ne (ne : other ≠ id) :
    (world.set id segment).calls other = world.calls other := by
  simp [set, ne]

@[simp] theorem set_engaged_self : (world.set id segment).Engaged id ↔ segment.2.Engaged := by
  simp [Engaged]

theorem set_engaged_of_ne (ne : other ≠ id) :
    (world.set id segment).Engaged other ↔ world.Engaged other := by
  simp [Engaged, set_calls_of_ne world segment ne]

@[simp] theorem set_started_self :
    (world.set id segment).Started id ↔ segment.2.executionStarted = true := by
  simp [Started]

theorem set_started_of_ne (ne : other ≠ id) :
    (world.set id segment).Started other ↔ world.Started other := by
  simp [Started, set_calls_of_ne world segment ne]

end Set

/-- As long as a call is engaged the record of the key has not expired, as the event reads the
clock. -/
def Within (key : String) (world : ToolWorld J) (event : ToolEvent V) : Prop :=
  ∀ id record, world.Engaged id → world.store.get key = some record →
    event.finish < record.expiresAtMs

section Invariant

variable (host : ToolHost V J) (requests : Nat → ToolRequest) (key generation : String)

/-- One call at most is engaged. The record of the key is there as long as it is, and only a call
that has started the executor ends it. -/
structure Exclusive (world : ToolWorld J) : Prop where
  single : ∀ i j, world.Engaged i → world.Engaged j → i = j
  held : ∀ id, world.Engaged id → ∃ record, world.store.get key = some record ∧
    (record.status = .claimed → record.owner = some (requests id).toolCallId)
  generation : ∀ record, world.store.get key = some record → record.status = .claimed →
    OfGeneration generation record
  recorded : ∀ record, world.store.get key = some record → record.status ≠ .claimed →
    ∃ id, world.Started id
  sound : ∀ id execution, world.calls id = some execution →
    Sound host (world.store.get key) (requests id) execution

variable {host requests key generation} {world : ToolWorld J}

theorem Exclusive.initial : Exclusive host requests key generation (.initial : ToolWorld J) where
  single := by rintro i j ⟨execution, call, -⟩; cases call
  held := by rintro id ⟨execution, call, -⟩; cases call
  generation := by rintro record stored; cases stored
  recorded := by rintro record stored; cases stored
  sound := by rintro id execution call; cases call

theorem Exclusive.set (holds : Exclusive host requests key generation world) (id : Nat)
    (segment : Segment J)
    (kept : ∀ record, world.store.get key = some record → record.status ≠ .claimed →
      segment.1.get key = some record)
    (single : segment.2.Engaged → ∀ other, world.Engaged other → other = id)
    (held : ∀ other, (world.set id segment).Engaged other → ∃ record, segment.1.get key = some record ∧
      (record.status = .claimed → record.owner = some (requests other).toolCallId))
    (of_generation : ∀ record, segment.1.get key = some record → record.status = .claimed →
      OfGeneration generation record)
    (recorded : ∀ record, segment.1.get key = some record → record.status ≠ .claimed →
      ∃ other, (world.set id segment).Started other)
    (sound : Sound host (segment.1.get key) (requests id) segment.2) :
    Exclusive host requests key generation (world.set id segment) where
  single := by
    intro i j first second
    by_cases own : i = id <;> by_cases same : j = id
    · rw [own, same]
    · rw [own, set_engaged_self] at first
      rw [set_engaged_of_ne world segment same] at second
      exact absurd (single first j second) same
    · rw [same, set_engaged_self] at second
      rw [set_engaged_of_ne world segment own] at first
      exact absurd (single second i first) own
    · rw [set_engaged_of_ne world segment own] at first
      rw [set_engaged_of_ne world segment same] at second
      exact holds.single i j first second
  held := held
  generation := of_generation
  recorded := recorded
  sound := by
    intro other execution call
    by_cases own : other = id
    · subst own
      rw [set_calls_self] at call
      cases call
      exact sound
    · rw [set_calls_of_ne world segment own] at call
      exact (holds.sound other execution call).transport kept

section Steps

variable {moment : Moment} {finish : Nat} {id : Nat} (holds : Exclusive host requests key generation world)
  (within : ∀ id record, world.Engaged id → world.store.get key = some record →
    finish < record.expiresAtMs)

include holds within

theorem Exclusive.kept {after : Option (ToolIdempotencyRecord J)}
    (undisturbed : Undisturbed finish (world.store.get key) after) :
    ∀ record, world.store.get key = some record → record.status ≠ .claimed → after = some record := by
  intro record stored ended
  obtain ⟨id, started⟩ := holds.recorded record stored ended
  exact undisturbed.2 record stored (within id record started.engaged stored)

theorem Exclusive.set_undisturbed (segment : Segment J)
    (undisturbed : Undisturbed finish (world.store.get key) (segment.1.get key))
    (engaged : segment.2.Engaged → world.Engaged id)
    (started : world.Started id → segment.2.executionStarted = true)
    (sound : Sound host (segment.1.get key) (requests id) segment.2) :
    Exclusive host requests key generation (world.set id segment) := by
  have earlier : ∀ other, (world.set id segment).Engaged other → world.Engaged other := by
    intro other now
    by_cases own : other = id
    · subst own
      exact engaged ((set_engaged_self world segment).mp now)
    · exact (set_engaged_of_ne world segment own).mp now
  refine holds.set id segment (holds.kept within undisturbed) ?_ ?_ ?_ ?_ sound
  · intro now other before
    exact holds.single other id before (engaged now)
  · intro other now
    obtain ⟨record, stored, owner⟩ := holds.held other (earlier other now)
    exact ⟨record, undisturbed.2 record stored (within other record (earlier other now) stored), owner⟩
  · intro record stored
    exact holds.generation record (undisturbed.1 record stored)
  · intro record stored ended
    obtain ⟨other, before⟩ := holds.recorded record (undisturbed.1 record stored) ended
    refine ⟨other, ?_⟩
    by_cases own : other = id
    · subst own
      exact (set_started_self world segment).mpr (started before)
    · exact (set_started_of_ne world segment own).mpr before

theorem Exclusive.callClaim (same_key : (requests id).idempotencyKey = key)
    (same_generation : ∀ lease, (requests id).lease = some lease → lease.generationId = generation)
    (finishes : moment.readings.active = finish) (idle : ¬world.Engaged id) :
    Exclusive host requests key generation
      (world.set id ((requests id).callClaim host moment world.store)) := by
  have spec := (requests id).callClaim_spec host moment world.store
  generalize (requests id).callClaim host moment world.store = segment at spec ⊢
  obtain ⟨after, execution⟩ := segment
  rw [same_key, finishes] at spec
  rcases spec with ⟨record, sessionId, expiresAtMs, rfl, written, free⟩ |
    ⟨answer, rfl, declined, undisturbed⟩
  · -- the claim is granted: a call that was engaged would have kept it from being
    have alone : ∀ other, ¬world.Engaged other := by
      intro other engaged
      obtain ⟨found, stored, -⟩ := holds.held other engaged
      obtain ⟨claimed, lease, leased, before⟩ := free found stored (within other found engaged stored)
      rw [(holds.generation found stored claimed).not_claimedBefore (same_generation lease leased)]
        at before
      cases before
    refine holds.set id _ ?_ ?_ ?_ ?_ ?_ ?_
    · intro record stored ended
      obtain ⟨other, started⟩ := holds.recorded record stored ended
      exact absurd started.engaged (alone other)
    · intro _ other engaged
      exact absurd engaged (alone other)
    · intro other engaged
      by_cases own : other = id
      · subst own
        exact ⟨_, written, fun _ => rfl⟩
      · exact absurd ((set_engaged_of_ne _ _ own).mp engaged) (alone other)
    · intro stored same _
      cases same.symm.trans written
      exact .claimRecord same_generation _ _
    · intro stored same ended
      cases same.symm.trans written
      exact absurd rfl ended
    · exact .granted record
  · have started : ¬world.Started id := fun started => idle started.engaged
    refine holds.set_undisturbed within _ undisturbed ?_ (fun now => absurd now started) ?_
    · rintro (now | granted)
      · cases now
      · cases declined <;> cases granted
    · refine .declined answer (declined.transport ?_)
      intro record found ended
      obtain ⟨stored, counts⟩ := live_eq_some.mp found
      exact undisturbed.2 record stored counts

theorem Exclusive.conclude (same_key : (requests id).idempotencyKey = key)
    (finishes : moment.readings.active = finish) {execution : ToolExecution J}
    (call : world.calls id = some execution) (engaged : execution.Engaged)
    (result : ToolCallResult J)
    (cancelled : execution.executionStarted = false → ∃ attempt, result = cancelledAttempt attempt) :
    Exclusive host requests key generation
      (world.set id ((requests id).conclude host moment result world.store execution)) := by
  have engaged : world.Engaged id := ⟨execution, call, engaged⟩
  have spec := (requests id).conclude_spec host moment world.store result execution (by
    intro unstarted
    obtain ⟨attempt, rfl⟩ := cancelled unstarted
    rfl)
  generalize (requests id).conclude host moment result world.store execution = segment at spec ⊢
  obtain ⟨after, next⟩ := segment
  rw [same_key, finishes] at spec
  have claimed_kept : ∀ found, world.store.get key = some found → found.status = .claimed →
      ∀ record, world.store.get key = some record → record.status ≠ .claimed →
        after.get key = some record := by
    intro found stored claimed record same ended
    cases stored.symm.trans same
    exact absurd claimed ended
  rcases spec with ⟨unstarted, ⟨released, rfl⟩, gone | undisturbed⟩ |
    ⟨started, ⟨answer, rfl⟩, completed | undisturbed⟩
  · -- the claim is released
    obtain ⟨attempt, rfl⟩ := cancelled unstarted
    obtain ⟨gone, found, stored, claimed⟩ := gone
    refine holds.set id _ (claimed_kept found stored claimed) ?_ ?_ ?_ ?_ ?_
    · intro now
      exact absurd now (ToolExecution.not_engaged_released _ _)
    · intro other now
      exfalso
      by_cases own : other = id
      · subst own
        exact ToolExecution.not_engaged_released _ _ ((set_engaged_self _ _).mp now)
      · exact own (holds.single other id ((set_engaged_of_ne _ _ own).mp now) engaged)
    · intro record same
      cases gone.symm.trans same
    · intro record same
      cases gone.symm.trans same
    · exact .released released attempt
  · obtain ⟨attempt, rfl⟩ := cancelled unstarted
    refine holds.set_undisturbed within _ undisturbed ?_ ?_ (.released released attempt)
    · intro now
      exact absurd now (ToolExecution.not_engaged_released _ _)
    · rintro ⟨_, same, started⟩
      cases call.symm.trans same
      rw [unstarted] at started
      cases started
  · -- the claim becomes a record that has ended
    obtain ⟨found, record, stored, claimed, written, ended⟩ := completed
    refine holds.set id _ (claimed_kept found stored claimed) ?_ ?_ ?_ ?_ trivial
    · intro _ other before
      exact holds.single other id before engaged
    · intro other _
      exact ⟨record, written, fun claimed => absurd claimed ended⟩
    · intro record' same claimed
      cases written.symm.trans same
      exact absurd claimed ended
    · intro _ _ _
      exact ⟨id, (set_started_self _ _).mpr rfl⟩
  · exact holds.set_undisturbed within _ undisturbed (fun _ => engaged) (fun _ => rfl) trivial

theorem Exclusive.advance {execution : ToolExecution J} (call : world.calls id = some execution)
    (next : ToolExecution J) (engaged : next.Engaged → execution.Engaged)
    (started : execution.executionStarted = true → next.executionStarted = true)
    (sound : Sound host (world.store.get key) (requests id) next) :
    Exclusive host requests key generation (world.set id (world.store, next)) := by
  refine holds.set_undisturbed within _ (.refl _ _) ?_ ?_ sound
  · exact fun now => ⟨execution, call, engaged now⟩
  · rintro ⟨_, same, before⟩
    cases call.symm.trans same
    exact started before

theorem Exclusive.start (same_key : (requests id).idempotencyKey = key)
    (same_generation : ∀ lease, (requests id).lease = some lease → lease.generationId = generation)
    (finishes : moment.readings.active = finish) (missing : world.calls id = none) :
    Exclusive host requests key generation
      (world.set id ((requests id).start host moment world.store)) := by
  have idle : ¬world.Engaged id := by
    rintro ⟨execution, call, -⟩
    cases missing.symm.trans call
  unfold ToolRequest.start
  split
  · exact holds.callClaim within same_key same_generation finishes idle
  next legacyKey legacyHash _ =>
    split
    next other =>
      subst finishes
      refine holds.set_undisturbed within _ (perform_lookup _ (same_key ▸ other) _ _ _) ?_ ?_ (.lookup _)
      · rintro (now | now) <;> cases now
      · exact fun started => absurd started.engaged idle
    · exact holds.callClaim within same_key same_generation finishes idle

theorem Exclusive.resume (same_key : (requests id).idempotencyKey = key)
    (same_generation : ∀ lease, (requests id).lease = some lease → lease.generationId = generation)
    (finishes : moment.readings.active = finish) {execution : ToolExecution J}
    (call : world.calls id = some execution) (aborted : Bool) :
    Exclusive host requests key generation
      (world.set id ((requests id).resume host moment aborted world.store execution)) := by
  have sound := holds.sound id execution call
  have advance := holds.advance within call
  obtain ⟨phase, started⟩ := execution
  cases started with
  | false =>
    have sound : Unstarted host (world.store.get key) (requests id) phase := sound
    cases sound with
    | lookup answer =>
      rcases answer with error | (record | _ | _)
      · exact advance _ (fun now => now) (fun before => before) (.thrown error)
      · exact advance _ (fun now => now) (fun before => before) (.returned _ .conflict)
      · exact advance _ (fun now => now) (fun before => before) (.returned _ .conflict)
      · refine holds.callClaim within same_key same_generation finishes ?_
        rintro ⟨_, same, now⟩
        cases call.symm.trans same
        rcases now with now | now <;> cases now
    | granted record =>
      cases aborted with
      | true => exact advance _ (fun _ => .inr trivial) (fun before => before) (.cancelled _)
      | false => exact advance _ (fun _ => .inr trivial) (fun _ => rfl) trivial
    | declined answer declined =>
      refine advance _ ?_ (by rintro ⟨⟩) ?_
      · cases declined <;> exact fun now => now
      · cases declined with
        | threw error => exact .thrown error
        | conflict => exact .returned _ .conflict
        | inProgress record => exact .returned _ .inProgress
        | succeeded record stored status => exact .returned _ (.hit record stored status)
        | terminal record stored ended status =>
          exact .returned _ (.terminal record stored ended status)
    | cancelled attempt =>
      exact holds.conclude within same_key finishes call (.inr trivial) _ fun _ => ⟨attempt, rfl⟩
    | released released attempt => 
      exact advance _ (fun now => now) (fun before => before) (.returned _ (.cancelled attempt))
    | returned result refused => exact advance _ (fun now => now) (fun before => before) (.returned result refused)
    | thrown error => exact advance _ (fun now => now) (fun before => before) (.thrown error)
  | true =>
    have engaged : (⟨phase, true⟩ : ToolExecution J).Engaged := .inl rfl
    have underway : Underway phase := sound
    cases phase with
    | executing attempt => exact advance _ (fun now => now) (fun before => before) trivial
    | returned result => exact advance _ (fun now => now) (fun before => before) trivial
    | awaitingAttempt attempt result =>
      simp only [ToolRequest.resume]
      split
      · exact advance _ (fun _ => engaged) (fun before => before) trivial
      · exact holds.conclude within same_key finishes call engaged _ (by rintro ⟨⟩)
    | delaying attempt result =>
      simp only [ToolRequest.resume]
      split
      · exact holds.conclude within same_key finishes call engaged _ (by rintro ⟨⟩)
      · exact advance _ (fun _ => engaged) (fun before => before) trivial
    | awaitingCompletion answer result =>
      cases answer <;> exact advance _ (fun _ => engaged) (fun before => before) trivial
    | awaitingLookup answer => exact underway.elim
    | awaitingClaim answer => exact underway.elim
    | awaitingRelease released result => exact underway.elim
    | thrown error => exact underway.elim

theorem Exclusive.other (event : IdempotencyEvent V) (finishes : event.finish = finish)
    (apart : ∀ moment call, event = .call moment call → call.key ≠ key) :
    Exclusive host requests key generation
      { world with store := world.store.step host.serialization event } := by
  have undisturbed := world.store.step_other host.serialization event apart
  rw [finishes] at undisturbed
  exact {
    single := holds.single
    held := by
      intro other engaged
      obtain ⟨record, stored, owner⟩ := holds.held other engaged
      exact ⟨record, undisturbed.2 record stored (within other record engaged stored), owner⟩
    generation := fun record stored => holds.generation record (undisturbed.1 record stored)
    recorded := fun record stored => holds.recorded record (undisturbed.1 record stored)
    sound := fun other execution call =>
      (holds.sound other execution call).transport (holds.kept within undisturbed) }

end Steps

theorem Exclusive.step (holds : Exclusive host requests key generation world)
    (same_key : ∀ id, (requests id).idempotencyKey = key)
    (same_generation : ∀ id lease, (requests id).lease = some lease → lease.generationId = generation)
    (event : ToolEvent V) (within : Within key world event)
    (apart : ∀ moment call, event = .other (.call moment call) → call.key ≠ key) :
    Exclusive host requests key generation (world.step host requests event) := by
  cases event with
  | start id moment =>
    simp only [ToolWorld.step]
    split
    next missing => exact holds.start within (same_key id) (same_generation id) rfl missing
    · exact holds
  | resume id moment aborted =>
    simp only [ToolWorld.step]
    split
    · exact holds
    next execution call =>
      exact holds.resume within (same_key id) (same_generation id) rfl call aborted
  | settle id outcome =>
    simp only [ToolWorld.step]
    split
    next attempt started call =>
      -- only a call that has started the executor waits for it
      cases started with
      | false => cases show Unstarted host _ _ (.executing attempt) from holds.sound id _ call
      | true => exact holds.advance within call _ (fun _ => .inl rfl) (fun started => started) trivial
    · exact holds
  | other event =>
    refine holds.other within event rfl ?_
    rintro moment call rfl
    exact apart moment call rfl

/-! ## Runs -/

/-- The calls after a run that began with an empty store. -/
def worldAfter (host : ToolHost V J) (requests : Nat → ToolRequest) (events : List (ToolEvent V)) :
    ToolWorld J :=
  run (ToolWorld.step host requests) initial events

theorem Exclusive.run (same_key : ∀ id, (requests id).idempotencyKey = key)
    (same_generation : ∀ id lease, (requests id).lease = some lease → lease.generationId = generation)
    (events : List (ToolEvent V))
    (apart : ∀ moment call, .other (.call moment call) ∈ events → call.key ≠ key)
    (within : ∀ before event after, events = before ++ event :: after →
      Within key (worldAfter host requests before) event) :
    Exclusive host requests key generation (worldAfter host requests events) := by
  induction events using List.reverseRecOn with
  | nil => exact .initial
  | append_singleton events last ih =>
    have earlier := ih (fun moment call member => apart moment call (by simp [member]))
      (fun before event after split => within before event (after ++ [last]) (by simp [split]))
    rw [worldAfter, run_snoc]
    refine earlier.step same_key same_generation last (within events last [] rfl) ?_
    rintro moment call rfl
    exact apart moment call (by simp)

/-- How many segments a call has before it at most, unless it starts the executor. -/
def segmentsLeft : CallPhase J → Nat
  | .awaitingLookup _ => 4
  | .awaitingClaim _ => 3
  | .awaitingAttempt .. => 2
  | .awaitingRelease .. => 1
  | _ => 0

theorem resume_progress {slot : Option (ToolIdempotencyRecord J)} {request : ToolRequest}
    {phase : CallPhase J} (unstarted : Unstarted host slot request phase) (left : 0 < segmentsLeft phase)
    (moment : Moment) (aborted : Bool) (store : InMemoryToolIdempotencyStore J) :
    let next := (request.resume host moment aborted store ⟨phase, false⟩).2
    next.executionStarted = true ∨ segmentsLeft next.phase < segmentsLeft phase := by
  cases unstarted with
  | lookup answer =>
    right
    rcases answer with error | (record | _ | _) <;> simp [ToolRequest.resume, segmentsLeft,
      ToolRequest.callClaim]
  | granted record =>
    cases aborted with
    | true => exact .inr (Nat.lt_succ_self 2)
    | false => exact .inl rfl
  | declined answer declined =>
    right
    cases declined <;> simp [ToolRequest.resume, ToolRequest.claimAnswered, segmentsLeft]
  | cancelled attempt =>
    -- nobody retries what was cancelled: the claim is released
    right
    have ended : goesOn request.tool attempt aborted (cancelledAttempt (J := J) attempt) = false := by
      simp [goesOn, cancelledAttempt, cancelledStatus, failedStatus, timedOutStatus]
    simp only [ToolRequest.resume, ended, Bool.false_eq_true, if_false]
    unfold ToolRequest.conclude
    rw [if_pos ⟨by simp, rfl⟩]
    exact Nat.lt_succ_self 1
  | released released attempt => exact .inr Nat.zero_lt_one
  | returned result refused => exact absurd left (Nat.lt_irrefl 0)
  | thrown error => exact absurd left (Nat.lt_irrefl 0)

theorem unstarted_settled {slot : Option (ToolIdempotencyRecord J)} {request : ToolRequest}
    {phase : CallPhase J} (unstarted : Unstarted host slot request phase)
    (done : segmentsLeft phase = 0) :
    (∃ result, phase = .returned result ∧ Refused host slot request result) ∨
      ∃ error, phase = .thrown error := by
  cases unstarted with
  | returned result refused => exact .inl ⟨result, rfl, refused⟩
  | thrown error => exact .inr ⟨error, rfl⟩
  | lookup | granted | declined | cancelled | released => cases done

/-- Any number of calls with one key, under leases of one generation or none: as long as the record
of the key does not expire while a call holds it or has run, one call at most starts the executor.
The record that call works on is never released. Every other call has returned the recorded end of
the key, a failure that says why it was not run, or its own cancellation, or the store has thrown;
or it is on its way to one of these. -/
theorem single_execution (host : ToolHost V J) (requests : Nat → ToolRequest)
    (key generation : String) (same_key : ∀ id, (requests id).idempotencyKey = key)
    (same_generation : ∀ id lease, (requests id).lease = some lease → lease.generationId = generation)
    (events : List (ToolEvent V))
    (apart : ∀ moment call, .other (.call moment call) ∈ events → call.key ≠ key)
    (within : ∀ before event after, events = before ++ event :: after →
      Within key (worldAfter host requests before) event) :
    let world := worldAfter host requests events
    (∀ i j, world.Started i → world.Started j → i = j) ∧
      (∀ id, world.Started id → ∃ record, world.store.get key = some record ∧
        (record.status = .claimed → record.owner = some (requests id).toolCallId)) ∧
      ∀ id phase, world.calls id = some ⟨phase, false⟩ →
        (∃ result, phase = .returned result ∧
          Refused host (world.store.get key) (requests id) result) ∨
        (∃ error, phase = .thrown error) ∨
        ∀ moment aborted, let next := ((requests id).resume host moment aborted world.store ⟨phase, false⟩).2
          next.executionStarted = true ∨ segmentsLeft next.phase < segmentsLeft phase := by
  intro world
  have exclusive := Exclusive.run same_key same_generation events apart within
  refine ⟨?_, ?_, ?_⟩
  · intro i j first second
    exact exclusive.single i j first.engaged second.engaged
  · intro id started
    exact exclusive.held id started.engaged
  · intro id phase call
    have unstarted : Unstarted host (world.store.get key) (requests id) phase :=
      exclusive.sound id _ call
    rcases Nat.eq_zero_or_pos (segmentsLeft phase) with done | left
    · rcases unstarted_settled unstarted done with returned | thrown
      · exact .inl returned
      · exact .inr (.inl thrown)
    · exact .inr (.inr fun moment aborted => resume_progress unstarted left moment aborted _)

end Invariant

/-! ### A lapsed claim -/

/-- A tool that gives nothing. -/
def silentHost : ToolHost Unit Unit where
  serialization :=
    { snapshotJsonValue := fun _ => .ok ()
      copyJsonValue := fun value => value
      stableStringify := fun _ => "null" }
  validateOutput _ := .ok []
  errorMessage _ := "unserializable"
  outputValue _ := ()
  errorValue _ := ()
  withoutRetry error := error

/-- A booking of the session: the first call is made under a lease, the others under none. -/
def bookings (id : Nat) : ToolRequest where
  toolCallId := if id = 0 then "first" else "later"
  sessionId := "session"
  lease := if id = 0 then some ⟨"session", "worker", .int 1, "g1"⟩ else none
  tool :=
    { toolId := "book"
      toolVersion := "1"
      maxAttempts := 1
      maxDelayMs := .int 0
      retryableErrorCodes := none
      timeoutMs := 10000
      ttlMs := none }
  attempt := 1
  idempotencyKey := "booking"
  requestHash := "hash"
  legacy := none

theorem bookings_generation (id : Nat) (lease : ToolIdempotencyLease)
    (leased : (bookings id).lease = some lease) : lease.generationId = "g1" := by
  simp only [bookings] at leased
  split at leased <;> cases leased
  rfl

/-- A moment of that session, whose lease runs out after five seconds. -/
def bookingMoment (now : Nat) : Moment where
  readings := .still now
  readLeaseSnapshot := some fun _ => some ⟨"worker", 1, "g1", 5000⟩

/-- The first call books while a second one asks. -/
def bookedOnce : List (ToolEvent Unit) :=
  [.start 0 (bookingMoment 0), .resume 0 (bookingMoment 0) false, .start 1 (bookingMoment 0),
    .settle 0 (.resolved ()), .resume 1 (bookingMoment 0) false,
    .resume 0 (bookingMoment 1000) false, .resume 0 (bookingMoment 1000) false]

theorem within_of_counts {host : ToolHost V J} {requests : Nat → ToolRequest} {key : String}
    {events : List (ToolEvent V)}
    (counts : ∀ n < events.length,
      ((worldAfter host requests (events.take n)).store.get key).all fun record =>
        events[n]?.all fun event => event.finish < record.expiresAtMs) :
    ∀ before event after, events = before ++ event :: after →
      Within key (worldAfter host requests before) event := by
  rintro before event after rfl id record - stored
  have counted := counts before.length (by simp)
  rw [List.take_left, stored] at counted
  simpa using counted

theorem single_execution_booking :
    (worldAfter silentHost bookings bookedOnce).Started 0 ∧
      ∀ id, (worldAfter silentHost bookings bookedOnce).Started id → id = 0 := by
  have started : (worldAfter silentHost bookings bookedOnce).Started 0 := ⟨_, rfl, rfl⟩
  obtain ⟨single, -⟩ := single_execution silentHost bookings "booking" "g1" (fun _ => rfl)
    bookings_generation bookedOnce (by simp [bookedOnce])
    (within_of_counts (by decide +kernel))
  exact ⟨started, fun id other => single id 0 other started⟩

/-- The lease of the first call has run out when it would record its result. A minute later its claim
has expired, and the booking is made again. -/
def bookedTwice : List (ToolEvent Unit) :=
  [.start 0 (bookingMoment 0), .resume 0 (bookingMoment 0) false, .settle 0 (.resolved ()),
    .resume 0 (bookingMoment 6000) false, .resume 0 (bookingMoment 6000) false,
    .start 1 (bookingMoment 61000), .resume 1 (bookingMoment 61000) false, .settle 1 (.resolved ()),
    .resume 1 (bookingMoment 61000) false]

/-- Two calls have started the executor, and the only record that was ever completed is the second
one's, which has not expired. -/
theorem lapsed_claim_executes_twice :
    (∀ id, (bookings id).idempotencyKey = "booking" ∧ (bookings id).requestHash = "hash" ∧
        (bookings id).sessionId = "session" ∧
        ∀ lease, (bookings id).lease = some lease → lease.generationId = "g1") ∧
      (worldAfter silentHost bookings bookedTwice).Started 0 ∧
      (worldAfter silentHost bookings bookedTwice).Started 1 ∧
      (∀ n < bookedTwice.length,
        ((worldAfter silentHost bookings (bookedTwice.take n)).store.get "booking").all
          (·.status = .claimed)) ∧
      ∃ record, (worldAfter silentHost bookings bookedTwice).store.get "booking" = some record ∧
        record.status = .succeeded ∧ record.owner = some "later" ∧ 61000 < record.expiresAtMs := by
  refine ⟨fun id => ⟨rfl, rfl, rfl, bookings_generation id⟩, ⟨_, rfl, rfl⟩, ⟨_, rfl, rfl⟩, ?_, ?_⟩
  · decide +kernel
  · exact ⟨_, rfl, by decide +kernel⟩

end ToolWorld

end Tvic
