import Tvic.Redis.IdempotencyMirror

/-!
# Which fenced calls the idempotency stores let pass

Fenced calls under leases and clock readings that the in-memory store and Redis share, and the
checks both make before they look at a record. `Passing` and `Timed` are what both check, in
different orders and words; a call that fails them is rejected by both and changes neither.
-/
namespace Tvic.Redis.IdempotencyAgreement

open Lib

variable {V J K α β : Type}

/-! ### Runs of fenced calls -/

/-- The leases as both stores see them: records that `readLease` accepts, each under its session. -/
structure LeaseState where
  lease : SessionId → Option LeaseRecord
  accepted : ∀ sessionId record, lease sessionId = some record →
    record.Accepted ∧ record.sessionId = sessionId

structure FencedEvent (V : Type) where
  now : Nat
  leases : LeaseState
  sessionExists : SessionId → Bool
  rewritesAlias : Bool
  call : ToolIdempotencyCall V

def leaseSnapshot (record : LeaseRecord) : InMemoryLeaseSnapshot where
  holder := record.holder
  fence := record.fence
  generationId := record.generation
  expiresAtMs := record.expiresAtMs

def FencedEvent.moment (event : FencedEvent V) : Moment where
  readings := .still event.now
  readLeaseSnapshot := some fun sessionId => (event.leases.lease sessionId).map leaseSnapshot

def FencedEvent.redisMoment (event : FencedEvent V) : RedisMoment where
  now := event.now
  leases := fun sessionId => (event.leases.lease sessionId).map .record
  sessionExists := event.sessionExists
  rewritesAlias := event.rewritesAlias

/-- The call carries a lease, and names no session or the lease's. -/
def Fenced (lease : Option ToolIdempotencyLease) (sessionId : Option SessionId) : Prop :=
  ∃ own, lease = some own ∧ (sessionId = none ∨ sessionId = some own.sessionId)

/-- `cjson` keeps the expiry that the call gives its record. -/
def KeptExpiry (now : Nat) (ttlMs : Number) : Prop :=
  ∀ ttl : Nat, ttlMs = .int ttl → cjsonNumber (now + ttl) = now + ttl

/-- The calls on which the stores agree, by the outputs and errors they may carry. -/
def Admissible (outputs errors : V → Prop) (event : FencedEvent V) : Prop :=
  match event.call with
  | .lookup _ _ sessionId lease => Fenced lease sessionId
  | .claim input => Fenced input.lease input.sessionId ∧ KeptExpiry event.now input.ttlMs
  | .releaseClaim input => Fenced input.lease input.sessionId
  | .complete _ _ outcome =>
      Fenced outcome.lease outcome.sessionId ∧ KeptExpiry event.now outcome.ttlMs ∧
        outcome.owner ≠ "" ∧ (∀ output ∈ outcome.output, outputs output) ∧
        ∀ error ∈ outcome.error, errors error
  | .quarantine input =>
      input.sessionId = input.lease.sessionId ∧ KeptExpiry event.now input.ttlMs ∧
        input.toolId ≠ "" ∧ input.toolVersion ≠ "" ∧ errors input.error

/-- What an answer says, its records apart. -/
inductive OutcomeClass where
  | claimed
  | inProgress
  | succeeded
  | terminal
  | conflict
  | found
  | missing
  | quarantined
  | released
  | notReleased
  | completed
  | rejection
  deriving DecidableEq, Repr

def lookupClass : Except DalError (ToolIdempotencyLookupResult J) → OutcomeClass
  | .ok (.found _) => .found
  | .ok .conflict => .conflict
  | .ok .missing => .missing
  | .error _ => .rejection

def claimClass : Except DalError (ToolIdempotencyClaimResult J) → OutcomeClass
  | .ok (.claimed _) => .claimed
  | .ok (.succeeded _) => .succeeded
  | .ok (.terminal _) => .terminal
  | .ok (.inProgress _) => .inProgress
  | .ok .conflict => .conflict
  | .error _ => .rejection

def releaseClass : Except DalError Bool → OutcomeClass
  | .ok true => .released
  | .ok false => .notReleased
  | .error _ => .rejection

def completeClass : Except DalError Unit → OutcomeClass
  | .ok () => .completed
  | .error _ => .rejection

def quarantineClass : Except DalError (ToolIdempotencyQuarantineResult J) → OutcomeClass
  | .ok (.quarantined _) => .quarantined
  | .ok (.succeeded _) => .succeeded
  | .ok (.terminal _) => .terminal
  | .ok (.inProgress _) => .inProgress
  | .ok .conflict => .conflict
  | .error _ => .rejection

def outcomeClass : Except DalError (ToolIdempotencyAnswer J) → OutcomeClass
  | .ok (.lookup result) => lookupClass (.ok result)
  | .ok (.claim result) => claimClass (.ok result)
  | .ok (.releaseClaim released) => releaseClass (.ok released)
  | .ok .complete => .completed
  | .ok (.quarantine result) => quarantineClass (.ok result)
  | .error _ => .rejection

/-! ### The heads of the scripts -/

def Rejects : IdempotencyReply → Prop
  | .errorReply _ => True
  | .result (-1) _ => True
  | .result _ _ => False

variable {reply : IdempotencyReply}

@[elab_as_elim] theorem Rejects.elim {motive : IdempotencyReply → Prop} (rejects : Rejects reply)
    (errorReply : ∀ text, motive (.errorReply text)) (rejection : ∀ raw, motive (.result (-1) raw))
    :
    
    motive reply := by
  unfold Rejects at rejects
  split at rejects
  · exact errorReply _
  · exact rejection _
  · cases rejects

/-- The head of a script lets exactly the calls of `passes` through, and rejects the others. -/
def Decides (head : Script α) (passes : Prop) (value : α) : Prop :=
  (passes → head = .ok value) ∧ (¬passes → ∃ reply, head = .error reply ∧ Rejects reply)

theorem orReply_eq_ok {found : Option α} {value : α} :
    orReply found reply = .ok value ↔ found = some value := by
  cases found <;> simp [orReply]

theorem orReply_eq_error {found : Option α} {reply early : IdempotencyReply}
    (replied : orReply found reply = .error early) : early = reply := by
  cases found <;> cases replied
  rfl

theorem replyIf_eq_ok {condition : Prop} [Decidable condition] {value : Unit} :
    replyIf condition reply = .ok value ↔ ¬condition := by
  unfold replyIf
  split <;> simp_all

theorem replyIf_eq_error {condition : Prop} [Decidable condition]
    {reply early : IdempotencyReply} (replied : replyIf condition reply = .error early) :
    early = reply := by
  unfold replyIf at replied
  split at replied <;> cases replied
  rfl

theorem readScriptLease_eq_ok {leaseRaw : Option StoredLease} {fence fence' : Nat}
    {lease : LeaseRecord} :
    readScriptLease leaseRaw fence = .ok (lease, fence') ↔
      leaseRaw = some (.record lease) ∧ safeInteger fence 1 = some fence' := by
  unfold readScriptLease
  cases leaseRaw with
  | none => simp
  | some stored => cases stored <;> cases safeInteger fence 1 <;> simp

theorem readScriptLease_rejects {leaseRaw : Option StoredLease} {fence : Nat}
    (replied : readScriptLease leaseRaw fence = .error reply) :
    Rejects reply := by
  unfold readScriptLease at replied
  split at replied <;> cases replied <;> trivial

def Holds (leases : LeaseState) (now : Nat) (sessionId : SessionId) (holder : String) (fence : Nat)
    (generationId : String) : Prop :=
  1 ≤ fence ∧ ∃ record, leases.lease sessionId = some record ∧
    record.holder = holder ∧ record.fence = fence ∧ record.generation = generationId ∧
    now < record.expiresAtMs

theorem holds_of_lease {leases : LeaseState} {now fence requestedFence : Nat}
    {sessionId holder generationId : String} {lease : LeaseRecord}
    (read : readScriptLease ((leases.lease sessionId).map .record) fence =
      .ok (lease, requestedFence))
    (matching : ¬leaseDiffers lease holder requestedFence generationId now) :
    Holds leases now sessionId holder fence generationId := by
  obtain ⟨stored, safe⟩ := readScriptLease_eq_ok.mp read
  obtain ⟨record, present, same⟩ := Option.map_eq_some_iff.mp stored
  cases same
  obtain ⟨rfl, positive, -⟩ := safeInteger_eq_some.mp safe
  simp only [leaseDiffers, not_or, not_not, Nat.not_le] at matching
  exact ⟨positive, lease, present, matching⟩

theorem lease_of_holds {leases : LeaseState} {now fence : Nat}
    {sessionId holder generationId : String}
    (holds : Holds leases now sessionId holder fence generationId) :
    ∃ lease, readScriptLease ((leases.lease sessionId).map .record) fence = .ok (lease, fence) ∧
      lease.sessionId = sessionId ∧ ¬leaseDiffers lease holder fence generationId now ∧
      safeTimestamp now = some now ∧ ((leases.lease sessionId).map StoredLease.record).isNone = false := by
  obtain ⟨positive, lease, present, holder, rfl, generation, live⟩ := holds
  obtain ⟨accepted, own⟩ := leases.accepted sessionId lease present
  have early : now ≤ maxSafeInteger := Nat.le_trans (Nat.le_of_lt live) accepted.expiresAtMs
  refine ⟨lease, ?_, own, ?_, ?_, by simp [present]⟩
  · rw [readScriptLease_eq_ok]
    exact ⟨by rw [present]; rfl, safeInteger_eq_some.mpr ⟨rfl, accepted.fence⟩⟩
  · rintro (other | other | other | expired)
    · exact other holder
    · exact other rfl
    · exact other generation
    · exact absurd live (Nat.not_lt_of_le expired)
  · exact safeInteger_eq_some.mpr ⟨rfl, Nat.zero_le _, early⟩

variable {head : Script α}

theorem decides_of {passes : Prop} {value : α} (lets : passes → head = .ok value)
    (only : ∀ value, head = .ok value → passes)
    (rejects : ∀ reply, head = .error reply → Rejects reply) : Decides head passes value := by
  refine ⟨lets, fun fails => ?_⟩
  cases result : head with
  | ok value => exact absurd (only value result) fails
  | error reply => exact ⟨reply, rfl, rejects reply result⟩

section Heads

variable (leases : LeaseState) (now : Nat) (sessionId : SessionId) (holder : String) (fence : Nat)
  (generationId : String) (ttlMs : Nat)

theorem expiryThenLease_decides :
    Decides (expiryThenLease now ((leases.lease sessionId).map .record) holder fence sessionId
      generationId ttlMs)
      (Holds leases now sessionId holder fence generationId ∧ 1 ≤ ttlMs ∧
        now + ttlMs ≤ maxSafeInteger) (now + ttlMs, fence) := by
  apply decides_of
  · rintro ⟨holds, positive, small⟩
    obtain ⟨lease, read, own, matching, time, -⟩ := lease_of_holds holds
    have expiry : safeLeaseExpiry now ttlMs = some (now + ttlMs) :=
      safeLeaseExpiry_eq_some.mpr ⟨rfl, positive, small⟩
    simp [expiryThenLease, time, expiry, read, own, matching, orReply, replyIf, bind, Except.bind,
      pure, Except.pure]
  · intro value passed
    obtain ⟨time, timed, afterTime⟩ := bind_eq_ok.mp passed
    obtain ⟨expiry, expires, afterExpiry⟩ := bind_eq_ok.mp afterTime
    obtain ⟨⟨lease, requestedFence⟩, read, afterRead⟩ := bind_eq_ok.mp afterExpiry
    obtain ⟨_, _, afterSession⟩ := bind_eq_ok.mp afterRead
    obtain ⟨_, matching, _⟩ := bind_eq_ok.mp afterSession
    obtain ⟨rfl, -, -⟩ := safeInteger_eq_some.mp (orReply_eq_ok.mp timed)
    obtain ⟨rfl, positive, small⟩ := safeLeaseExpiry_eq_some.mp (orReply_eq_ok.mp expires)
    exact ⟨holds_of_lease read (replyIf_eq_ok.mp matching), positive, small⟩
  · intro reply failed
    rcases bind_eq_error.mp failed with early | ⟨time, -, afterTime⟩
    · rw [orReply_eq_error early]
      trivial
    rcases bind_eq_error.mp afterTime with early | ⟨expiry, -, afterExpiry⟩
    · rw [orReply_eq_error early]
      trivial
    rcases bind_eq_error.mp afterExpiry with early | ⟨lease, -, afterRead⟩
    · exact readScriptLease_rejects early
    rcases bind_eq_error.mp afterRead with early | ⟨-, -, afterSession⟩
    · rw [replyIf_eq_error early]
      trivial
    rcases bind_eq_error.mp afterSession with early | ⟨-, -, passed⟩
    · rw [replyIf_eq_error early]
      trivial
    cases passed

theorem leaseThenExpiry_decides :
    Decides (leaseThenExpiry now ((leases.lease sessionId).map .record) holder fence sessionId
      generationId ttlMs)
      (Holds leases now sessionId holder fence generationId ∧ 1 ≤ ttlMs ∧
        now + ttlMs ≤ maxSafeInteger) (now + ttlMs, fence) := by
  apply decides_of
  · rintro ⟨holds, positive, small⟩
    obtain ⟨lease, read, own, matching, time, -⟩ := lease_of_holds holds
    have expiry : safeLeaseExpiry now ttlMs = some (now + ttlMs) :=
      safeLeaseExpiry_eq_some.mpr ⟨rfl, positive, small⟩
    simp [leaseThenExpiry, time, expiry, read, own, matching, orReply, replyIf, bind, Except.bind,
      pure, Except.pure]
  · intro value passed
    obtain ⟨⟨lease, requestedFence⟩, read, afterRead⟩ := bind_eq_ok.mp passed
    obtain ⟨_, _, afterSession⟩ := bind_eq_ok.mp afterRead
    obtain ⟨time, timed, afterTime⟩ := bind_eq_ok.mp afterSession
    obtain ⟨expiry, expires, afterExpiry⟩ := bind_eq_ok.mp afterTime
    obtain ⟨_, matching, _⟩ := bind_eq_ok.mp afterExpiry
    obtain ⟨rfl, -, -⟩ := safeInteger_eq_some.mp (orReply_eq_ok.mp timed)
    obtain ⟨rfl, positive, small⟩ := safeLeaseExpiry_eq_some.mp (orReply_eq_ok.mp expires)
    exact ⟨holds_of_lease read (replyIf_eq_ok.mp matching), positive, small⟩
  · intro reply failed
    rcases bind_eq_error.mp failed with early | ⟨lease, -, afterRead⟩
    · exact readScriptLease_rejects early
    rcases bind_eq_error.mp afterRead with early | ⟨-, -, afterSession⟩
    · rw [replyIf_eq_error early]
      trivial
    rcases bind_eq_error.mp afterSession with early | ⟨time, -, afterTime⟩
    · rw [orReply_eq_error early]
      trivial
    rcases bind_eq_error.mp afterTime with early | ⟨expiry, -, afterExpiry⟩
    · rw [orReply_eq_error early]
      trivial
    rcases bind_eq_error.mp afterExpiry with early | ⟨-, -, passed⟩
    · rw [replyIf_eq_error early]
      trivial
    cases passed

theorem timeThenLease_decides :
    Decides (timeThenLease now ((leases.lease sessionId).map .record) holder fence sessionId
      generationId) (Holds leases now sessionId holder fence generationId) fence := by
  apply decides_of
  · intro holds
    obtain ⟨lease, read, own, matching, time, present⟩ := lease_of_holds holds
    simp only [timeThenLease, time, read, own, matching, present, orReply, replyIf, bind,
      Except.bind, pure, Except.pure, Bool.false_eq_true, if_false, ne_eq, not_true_eq_false,
      or_self]
  · intro value passed
    obtain ⟨_, _, afterPresent⟩ := bind_eq_ok.mp passed
    obtain ⟨time, timed, afterTime⟩ := bind_eq_ok.mp afterPresent
    obtain ⟨⟨lease, requestedFence⟩, read, afterRead⟩ := bind_eq_ok.mp afterTime
    obtain ⟨_, matching, _⟩ := bind_eq_ok.mp afterRead
    obtain ⟨rfl, -, -⟩ := safeInteger_eq_some.mp (orReply_eq_ok.mp timed)
    exact holds_of_lease read (not_or.mp (replyIf_eq_ok.mp matching)).2
  · intro reply failed
    rcases bind_eq_error.mp failed with early | ⟨-, -, afterPresent⟩
    · rw [replyIf_eq_error early]
      trivial
    rcases bind_eq_error.mp afterPresent with early | ⟨time, -, afterTime⟩
    · rw [orReply_eq_error early]
      trivial
    rcases bind_eq_error.mp afterTime with early | ⟨lease, -, afterRead⟩
    · exact readScriptLease_rejects early
    rcases bind_eq_error.mp afterRead with early | ⟨-, -, passed⟩
    · rw [replyIf_eq_error early]
      trivial
    cases passed

theorem leaseThenTime_decides :
    Decides (leaseThenTime now ((leases.lease sessionId).map .record) holder fence sessionId
      generationId) (Holds leases now sessionId holder fence generationId) fence := by
  apply decides_of
  · intro holds
    obtain ⟨lease, read, own, matching, time, -⟩ := lease_of_holds holds
    simp only [leaseThenTime, time, read, own, matching, orReply, replyIf, bind,
      Except.bind, pure, Except.pure, if_false, ne_eq, not_true_eq_false, or_self]
  · intro value passed
    obtain ⟨⟨lease, requestedFence⟩, read, afterRead⟩ := bind_eq_ok.mp passed
    obtain ⟨time, timed, afterTime⟩ := bind_eq_ok.mp afterRead
    obtain ⟨_, matching, _⟩ := bind_eq_ok.mp afterTime
    obtain ⟨rfl, -, -⟩ := safeInteger_eq_some.mp (orReply_eq_ok.mp timed)
    exact holds_of_lease read (not_or.mp (replyIf_eq_ok.mp matching)).2
  · intro reply failed
    rcases bind_eq_error.mp failed with early | ⟨lease, -, afterRead⟩
    · exact readScriptLease_rejects early
    rcases bind_eq_error.mp afterRead with early | ⟨time, -, afterTime⟩
    · rw [orReply_eq_error early]
      trivial
    rcases bind_eq_error.mp afterTime with early | ⟨-, -, passed⟩
    · rw [replyIf_eq_error early]
      trivial
    cases passed

end Heads

/-! ### Calls that neither store lets pass -/

/-- The caller's lease, with the fence it states, is the live one of its session. -/
def Passing (event : FencedEvent V) (lease : ToolIdempotencyLease) (fence : Nat) : Prop :=
  lease.fence = .int fence ∧
    Holds event.leases event.now lease.sessionId lease.holder fence lease.generationId

variable {event : FencedEvent V}

theorem assertLease_eq_ok {lease : ToolIdempotencyLease} {value : Unit} :
    InMemoryToolIdempotencyStore.assertLease event.moment (some lease) = .ok value ↔
      ∃ fence, Passing event lease fence := by
  constructor
  · intro asserted
    obtain ⟨reader, snapshot, same, found, holder, fence, generation, live⟩ :=
      InMemoryToolIdempotencyStore.assertLease_eq_ok asserted
    cases same
    obtain ⟨record, present, rfl⟩ := Option.map_eq_some_iff.mp found
    obtain ⟨accepted, -⟩ := event.leases.accepted _ record present
    exact ⟨record.fence, fence.symm, accepted.fence.1, record, present, holder, rfl, generation,
      live⟩
  · rintro ⟨fence, stated, positive, record, present, holder, rfl, generation, live⟩
    have found : (event.leases.lease lease.sessionId).map leaseSnapshot =
        some (leaseSnapshot record) := by rw [present]; rfl
    have early : ¬record.expiresAtMs ≤ event.now := Nat.not_le_of_lt live
    simp [InMemoryToolIdempotencyStore.assertLease, FencedEvent.moment, found,
      InMemoryToolIdempotencyStore.assertLeaseSnapshot, leaseSnapshot, holder, stated, generation,
      Readings.still, early]

theorem assertLeaseFence_of_passing {lease : ToolIdempotencyLease} {fence : Nat}
    (passing : Passing event lease fence) : assertLeaseFence lease.fence = .ok fence := by
  obtain ⟨stated, positive, record, present, -, rfl, -⟩ := passing
  obtain ⟨accepted, -⟩ := event.leases.accepted _ record present
  rw [assertLeaseFence, assertSafeInteger, stated,
    Number.safeInteger?_natCast 1 _ positive accepted.fence.2]

theorem fence_of_assert {fence : Number} {checked : Nat} (asserted : assertLeaseFence fence = .ok checked) :
    fence = .int checked :=
  (Number.safeInteger?_eq_some (assertSafeInteger_eq_ok asserted)).1

theorem finish_of_head {rest : α → Script (IdempotencyReply × Change RedisIdempotencyRecord)}
    (failed : head = .error reply) : Script.finish (head >>= rest) = (reply, .keep) := by
  rw [failed]
  rfl

theorem finish_of_passed {rest : α → Script (IdempotencyReply × Change RedisIdempotencyRecord)}
    {value : α} (passed : head = .ok value) :
    Script.finish (head >>= rest) = Script.finish (rest value) := by
  rw [passed]
  rfl

/-- A Redis call that its own checks or its script's head reject changes nothing. -/
def RejectedBy (keyPrefix : Option String) (moment : RedisMoment) (key : String) (db : IdempotencyDb)
    (method : RedisMethod β) : Prop :=
  ∃ e, RedisToolIdempotencyStore.eval keyPrefix moment key method db = (.error e, db)

variable {keyPrefix : Option String}

theorem rejectedBy_error {moment : RedisMoment} {key : String} {db : IdempotencyDb}
    {method : RedisMethod β} {e : DalError} (early : method = .error (.error e)) :
    RejectedBy keyPrefix moment key db method := by
  rw [early]
  exact ⟨e, rfl⟩

theorem rejectedBy_reply {moment : RedisMoment} {key : String} {db : IdempotencyDb}
    {method : RedisMethod β} {ev : Eval β} (reached : method = .ok ev) (rejects : Rejects reply)
    (replied : ∀ raw, ev.script raw = (reply, .keep))
    (answers : ∀ reply db, Rejects reply → ∃ e, ev.answer reply db = (.error e, db)) :
    RejectedBy keyPrefix moment key db method := by
  obtain ⟨e, answered⟩ := answers reply db rejects
  refine ⟨e, ?_⟩
  rw [reached]
  simp only [RedisToolIdempotencyStore.eval, replied]
  exact answered

def Timed (event : FencedEvent V) (ttlMs : Number) (ttl : Nat) : Prop :=
  ttlMs = .int ttl ∧ 1 ≤ ttl ∧ event.now + ttl ≤ maxSafeInteger

variable {ttlMs : Number}

theorem safeLeaseExpiryAt_of_timed {ttl : Nat} (timed : Timed event ttlMs ttl) :
    safeLeaseExpiryAt (.int event.now) ttlMs = .ok (event.now + ttl) := by
  obtain ⟨rfl, positive, small⟩ := timed
  have ttlFound := Number.safeInteger?_natCast 1 ttl positive (by omega)
  have nowFound := Number.safeInteger?_natCast 0 event.now (Nat.zero_le _) (by omega)
  have early : ¬maxSafeInteger - ttl < event.now := by omega
  simp [safeLeaseExpiryAt, assertLeaseTtlMs, assertLeaseTimestampMs, assertSafeInteger, ttlFound,
    nowFound, early, bind, Except.bind]

theorem timed_of_safeLeaseExpiryAt {expiry : Nat}
    (checked : safeLeaseExpiryAt (.int event.now) ttlMs = .ok expiry) :
    ∃ ttl, Timed event ttlMs ttl ∧ expiry = event.now + ttl := by
  obtain ⟨now, ttl, nowFound, ttlFound, positive, rfl, small⟩ := safeLeaseExpiryAt_eq_ok checked
  obtain ⟨sameNow, -, -⟩ := Number.safeInteger?_eq_some nowFound
  obtain ⟨stated, -, -⟩ := Number.safeInteger?_eq_some ttlFound
  have same : event.now = now := by
    have ints := Number.int.inj sameNow
    omega
  subst same
  exact ⟨ttl, ⟨stated, positive, small⟩, rfl⟩

theorem assertLeaseTtlMs_of_timed {ttl : Nat} (timed : Timed event ttlMs ttl) :
    assertLeaseTtlMs ttlMs = .ok ttl := by
  obtain ⟨rfl, positive, small⟩ := timed
  rw [assertLeaseTtlMs, assertSafeInteger,
    Number.safeInteger?_natCast 1 ttl positive (by omega)]

theorem ttl_of_assert {checked : Nat} (asserted : assertLeaseTtlMs ttlMs = .ok checked) :
    ttlMs = .int checked ∧ 1 ≤ checked := by
  obtain ⟨stated, positive, -⟩ := Number.safeInteger?_eq_some (assertSafeInteger_eq_ok asserted)
  exact ⟨stated, positive⟩

theorem rejectedBy_head {moment : RedisMoment} {key : String} {db : IdempotencyDb}
    {method : RedisMethod β} {ev : Eval β} {passes : Prop} {value : α}
    {rest : Option RedisIdempotencyRecord → α → Script (IdempotencyReply × Change RedisIdempotencyRecord)}
    (decides : Decides head passes value) (fails : ¬passes) (reached : method = .ok ev)
    (script : ∀ raw, ev.script raw = Script.finish (head >>= rest raw))
    (answers : ∀ reply db, Rejects reply → ∃ e, ev.answer reply db = (.error e, db)) :
    RejectedBy keyPrefix moment key db method := by
  obtain ⟨reply, failed, rejects⟩ := decides.2 fails
  refine rejectedBy_reply reached rejects ?_ answers
  intro raw
  rw [script]
  exact finish_of_head failed

end Tvic.Redis.IdempotencyAgreement
