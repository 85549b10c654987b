import Mathlib.Data.List.Lex
import Tvic.Core.Dal

/-!
# The in-memory session lease store

`InMemorySessionLeaseStore` of `packages/dal/src/in-memory-stores.ts`. An operation that throws
has not written anything by then, so an operation is a value of `Except DalError`: on success
its result with the new store, on failure the error alone.
-/
namespace Tvic

structure InMemorySessionLeaseStore where
  leases : SessionId → Option SessionLease
  leaseIds : List SessionId
  recoveryAcknowledgedGenerations : SessionId → Option String
  closed : Bool

/-- One page of `listRecoveryCandidates`. -/
structure RecoveryPage where
  candidates : List SessionRecoveryCandidate
  nextCursor : Option SessionId
  deriving DecidableEq, Repr

def maxRecoveryPageSize : Nat := 1000

namespace InMemorySessionLeaseStore

def new : InMemorySessionLeaseStore where
  leases := fun _ => none
  leaseIds := []
  recoveryAcknowledgedGenerations := fun _ => none
  closed := false

def assertOpen (store : InMemorySessionLeaseStore) : Except DalError Unit :=
  if store.closed then .error (.error "SessionLeaseStore is closed") else .ok ()

def setLease (store : InMemorySessionLeaseStore) (sessionId : SessionId) (lease : SessionLease) :
    InMemorySessionLeaseStore :=
  { store with leases := Function.update store.leases sessionId (some lease) }

def setAcknowledged (store : InMemorySessionLeaseStore) (sessionId : SessionId)
    (generationId : String) : InMemorySessionLeaseStore :=
  let acknowledged := store.recoveryAcknowledgedGenerations
  { store with
    recoveryAcknowledgedGenerations :=
      Function.update acknowledged sessionId (some generationId) }

/-- The record that `current && current.expiresAtMs > now` lets through. -/
def liveAt (store : InMemorySessionLeaseStore) (sessionId : SessionId) (now : Nat) :
    Option SessionLease :=
  (store.leases sessionId).filter fun current => now < current.expiresAtMs

/-- The `while (low < high)` loop of `#upperBoundLeaseId`; the list's length is fuel enough, as
every round shrinks `high - low`. -/
def upperBoundFrom (ids : List SessionId) (sessionId : SessionId) : Nat → Nat → Nat → Nat
  | 0, low, _ => low
  | fuel + 1, low, high =>
      if low < high then
        let middle := (low + high) / 2
        if utf16Units (ids.getD middle "") ≤ utf16Units sessionId then
          upperBoundFrom ids sessionId fuel (middle + 1) high
        else upperBoundFrom ids sessionId fuel low middle
      else low

def upperBoundLeaseId (store : InMemorySessionLeaseStore) (sessionId : SessionId) : Nat :=
  upperBoundFrom store.leaseIds sessionId store.leaseIds.length 0 store.leaseIds.length

def insertLeaseId (store : InMemorySessionLeaseStore) (sessionId : SessionId) :
    InMemorySessionLeaseStore :=
  { store with leaseIds := store.leaseIds.insertIdx (store.upperBoundLeaseId sessionId) sessionId }

/-- The fence of the stored record, 0 where there is none. -/
def currentFence (store : InMemorySessionLeaseStore) (sessionId : SessionId) : Nat :=
  ((store.leases sessionId).map (·.fence)).getD 0

/-- `acquire`; `randomUUID` is the identifier `crypto.randomUUID()` would give this call. -/
def acquire (store : InMemorySessionLeaseStore) (now : Number) (randomUUID : String)
    (sessionId : SessionId) (holder : String) (ttlMs : Number) :
    Except DalError (Option SessionLease × InMemorySessionLeaseStore) := do
  store.assertOpen
  let _ ← assertLeaseTtlMs ttlMs
  let nowMs ← assertLeaseTimestampMs now
  match store.liveAt sessionId nowMs with
  | some current => .ok (if current.holder = holder then some current else none, store)
  | none =>
    if maxSafeInteger ≤ store.currentFence sessionId then
      .error (.backendUnavailable "In-memory lease fence exhausted the safe integer range")
    else do
      let expiresAtMs ← safeLeaseExpiryAt now ttlMs
      let lease : SessionLease :=
        { sessionId, holder, fence := store.currentFence sessionId + 1,
          generationId := randomUUID, acquiredAtMs := nowMs, renewedAtMs := nowMs, expiresAtMs }
      let store :=
        if (store.leases sessionId).isNone then store.insertLeaseId sessionId else store
      .ok (some lease, store.setLease sessionId lease)

/-- The identity fields `renew` and `release` compare. -/
def matching (store : InMemorySessionLeaseStore) (sessionId : SessionId) (holder : String)
    (fence : Nat) (generationId : String) : Option SessionLease :=
  (store.leases sessionId).filter fun current =>
    current.holder = holder ∧ current.fence = fence ∧ current.generationId = generationId

def renew (store : InMemorySessionLeaseStore) (now : Number) (sessionId : SessionId)
    (holder : String) (fence ttlMs : Number) (generationId : String) :
    Except DalError (Option SessionLease × InMemorySessionLeaseStore) := do
  store.assertOpen
  let fence ← assertLeaseFence fence
  let _ ← assertLeaseTtlMs ttlMs
  let nowMs ← assertLeaseTimestampMs now
  match store.matching sessionId holder fence generationId with
  | none => .ok (none, store)
  | some current =>
    if current.expiresAtMs ≤ nowMs then .ok (none, store)
    else do
      let expiresAtMs ← safeLeaseExpiryAt now ttlMs
      let renewed := { current with renewedAtMs := nowMs, expiresAtMs }
      .ok (some renewed, store.setLease sessionId renewed)

def release (store : InMemorySessionLeaseStore) (now : Number) (sessionId : SessionId)
    (holder : String) (fence : Number) (generationId : String) :
    Except DalError (Unit × InMemorySessionLeaseStore) := do
  store.assertOpen
  let fence ← assertLeaseFence fence
  match store.matching sessionId holder fence generationId with
  | none => .ok ((), store)
  | some current => do
    let nowMs ← assertLeaseTimestampMs now
    .ok ((), store.setLease sessionId { current with expiresAtMs := nowMs })

/-- `getCurrent`, and `get`, which awaits it. The clock is read only when there is a record. -/
def getCurrent (store : InMemorySessionLeaseStore) (now : Number) (sessionId : SessionId) :
    Except DalError (Option SessionLease) := do
  store.assertOpen
  match store.leases sessionId with
  | none => .ok none
  | some _ => do
    let nowMs ← assertLeaseTimestampMs now
    .ok (store.liveAt sessionId nowMs)

def listRecoveryCandidates (store : InMemorySessionLeaseStore) (nowMs limit : Number)
    (cursor : Option SessionId) : Except DalError RecoveryPage := do
  store.assertOpen
  let limit ← match limit.safeInteger? 1 with
    | some n => if n ≤ maxRecoveryPageSize then .ok n else .error recoveryPageSizeError
    | none => .error recoveryPageSizeError
  let nowMs ← assertLeaseTimestampMs nowMs
  let start := match cursor with
    | none => 0
    | some sessionId => store.upperBoundLeaseId sessionId
  let examined := (store.leaseIds.drop start).take limit
  let candidates := examined.filterMap fun sessionId => do
    let lease ← store.leases sessionId
    if nowMs < lease.expiresAtMs ∨
        store.recoveryAcknowledgedGenerations sessionId = some lease.generationId then none
    else some { sessionId, fence := lease.fence, generationId := lease.generationId }
  .ok {
    candidates
    nextCursor :=
      if start + examined.length < store.leaseIds.length then examined.getLast? else none }
where
  recoveryPageSizeError : DalError :=
    .error "Recovery page size must be an integer from 1 to 1000"

def acknowledgeRecoveryCandidate (store : InMemorySessionLeaseStore) (now : Number)
    (candidate : SessionRecoveryCandidate) : Except DalError InMemorySessionLeaseStore := do
  store.assertOpen
  let fence ← assertLeaseFence (.int candidate.fence)
  match store.leases candidate.sessionId with
  | none => .ok store
  | some lease =>
    if lease.fence = fence ∧ lease.generationId = candidate.generationId then do
      let nowMs ← assertLeaseTimestampMs now
      if lease.expiresAtMs ≤ nowMs then
        .ok (store.setAcknowledged candidate.sessionId lease.generationId)
      else .ok store
    else .ok store

def close (_ : InMemorySessionLeaseStore) : InMemorySessionLeaseStore :=
  { new with closed := true }

/-! ### What each operation can do -/

variable {store : InMemorySessionLeaseStore} {sessionId : SessionId}

theorem liveAt_eq_some {now : Nat} {lease : SessionLease} :
    store.liveAt sessionId now = some lease ↔
      store.leases sessionId = some lease ∧ now < lease.expiresAtMs := by
  simp [liveAt, Option.filter_eq_some_iff]

theorem matching_eq_some {holder : String} {fence : Nat} {generationId : String}
    {lease : SessionLease} :
    store.matching sessionId holder fence generationId = some lease ↔
      store.leases sessionId = some lease ∧ lease.holder = holder ∧ lease.fence = fence ∧
        lease.generationId = generationId := by
  simp [matching, Option.filter_eq_some_iff]

@[simp] theorem setLease_leases (store : InMemorySessionLeaseStore) (sessionId : SessionId)
    (lease : SessionLease) :
    (store.setLease sessionId lease).leases =
      Function.update store.leases sessionId (some lease) := rfl

@[simp] theorem setLease_closed (store : InMemorySessionLeaseStore) (sessionId : SessionId)
    (lease : SessionLease) : (store.setLease sessionId lease).closed = store.closed := rfl

variable {store store' : InMemorySessionLeaseStore}

theorem acquire_eq_ok {now ttlMs : Number} {randomUUID holder : String}
    {result : Option SessionLease}
    (returned : store.acquire now randomUUID sessionId holder ttlMs = .ok (result, store')) :
    ∃ nowMs, now.safeInteger? 0 = some nowMs ∧
      ((∃ current, store.liveAt sessionId nowMs = some current ∧
          result = (if current.holder = holder then some current else none) ∧ store' = store) ∨
        store.liveAt sessionId nowMs = none ∧ ∃ lease, result = some lease ∧
          lease.sessionId = sessionId ∧ lease.holder = holder ∧
          lease.fence = store.currentFence sessionId + 1 ∧ lease.fence ≤ maxSafeInteger ∧
          lease.generationId = randomUUID ∧ nowMs < lease.expiresAtMs ∧
          store'.leases = Function.update store.leases sessionId (some lease) ∧
          store'.closed = store.closed) := by
  obtain ⟨-, -, returned⟩ := bind_eq_ok.mp returned
  obtain ⟨ttl, -, returned⟩ := bind_eq_ok.mp returned
  obtain ⟨nowMs, clock, returned⟩ := bind_eq_ok.mp returned
  have reading := assertSafeInteger_eq_ok clock
  refine ⟨nowMs, reading, ?_⟩
  split at returned
  next current live =>
    cases returned
    exact Or.inl ⟨current, live, rfl, rfl⟩
  next idle =>
    refine Or.inr ⟨idle, ?_⟩
    split at returned
    · cases returned
    next below =>
      obtain ⟨expiry, checked, returned⟩ := bind_eq_ok.mp returned
      obtain ⟨n, ttlMs', again, -, positive, sum, -⟩ := safeLeaseExpiryAt_eq_ok checked
      have same : nowMs = n := Option.some.inj (reading.symm.trans again)
      cases returned
      refine ⟨_, rfl, rfl, rfl, rfl, Nat.lt_of_not_le below, rfl, ?_, ?_, ?_⟩
      · show nowMs < expiry
        omega
      · split <;> rfl
      · split <;> rfl

theorem renew_eq_ok {now fence ttlMs : Number} {holder generationId : String}
    {result : Option SessionLease}
    (returned : store.renew now sessionId holder fence ttlMs generationId = .ok (result, store')) :
    (result = none ∧ store' = store) ∨
      ∃ nowMs n current renewed, now.safeInteger? 0 = some nowMs ∧ fence = .int (n : Nat) ∧
        store.matching sessionId holder n generationId = some current ∧
        nowMs < current.expiresAtMs ∧ result = some renewed ∧
        renewed.sessionId = current.sessionId ∧ renewed.holder = current.holder ∧
        renewed.fence = current.fence ∧ renewed.generationId = current.generationId ∧
        store' = store.setLease sessionId renewed := by
  obtain ⟨-, -, returned⟩ := bind_eq_ok.mp returned
  obtain ⟨n, fenceChecked, returned⟩ := bind_eq_ok.mp returned
  obtain ⟨-, -, returned⟩ := bind_eq_ok.mp returned
  obtain ⟨nowMs, clock, returned⟩ := bind_eq_ok.mp returned
  have fenceEq := (Number.safeInteger?_eq_some (assertSafeInteger_eq_ok fenceChecked)).1
  split at returned
  · cases returned
    exact Or.inl ⟨rfl, rfl⟩
  next current found =>
    split at returned
    · cases returned
      exact Or.inl ⟨rfl, rfl⟩
    next live =>
      obtain ⟨expiry, -, returned⟩ := bind_eq_ok.mp returned
      cases returned
      exact Or.inr ⟨nowMs, n, current, _, assertSafeInteger_eq_ok clock, fenceEq, found,
        Nat.lt_of_not_le live, rfl, rfl, rfl, rfl, rfl, rfl⟩

theorem release_eq_ok {now fence : Number} {holder generationId : String}
    (returned : store.release now sessionId holder fence generationId = .ok ((), store')) :
    ∃ n, fence = .int (n : Nat) ∧
      ((store.matching sessionId holder n generationId = none ∧ store' = store) ∨
        ∃ nowMs current, now.safeInteger? 0 = some nowMs ∧
          store.matching sessionId holder n generationId = some current ∧
          store' = store.setLease sessionId { current with expiresAtMs := nowMs }) := by
  obtain ⟨-, -, returned⟩ := bind_eq_ok.mp returned
  obtain ⟨n, fenceChecked, returned⟩ := bind_eq_ok.mp returned
  refine ⟨n, (Number.safeInteger?_eq_some (assertSafeInteger_eq_ok fenceChecked)).1, ?_⟩
  split at returned
  next absent =>
    cases returned
    exact Or.inl ⟨absent, rfl⟩
  next current found =>
    obtain ⟨nowMs, clock, returned⟩ := bind_eq_ok.mp returned
    cases returned
    exact Or.inr ⟨nowMs, current, assertSafeInteger_eq_ok clock, found, rfl⟩

theorem getCurrent_eq_ok {now : Nat} {active : Option SessionLease}
    (returned : store.getCurrent (.int now) sessionId = .ok active) :
    active = store.liveAt sessionId now := by
  obtain ⟨-, -, returned⟩ := bind_eq_ok.mp returned
  split at returned
  next absent =>
    cases returned
    rw [liveAt, absent]
    rfl
  next current stored =>
    obtain ⟨nowMs, clock, returned⟩ := bind_eq_ok.mp returned
    cases returned
    have same := (Number.safeInteger?_eq_some (assertSafeInteger_eq_ok clock)).1
    obtain rfl : now = nowMs := Int.ofNat.inj (Number.int.inj same)
    rfl

theorem acknowledgeRecoveryCandidate_leases {now : Number} {candidate : SessionRecoveryCandidate}
    (returned : store.acknowledgeRecoveryCandidate now candidate = .ok store') :
    store'.leases = store.leases ∧ store'.closed = store.closed := by
  obtain ⟨-, -, returned⟩ := bind_eq_ok.mp returned
  obtain ⟨fence, -, returned⟩ := bind_eq_ok.mp returned
  split at returned
  · cases returned; exact ⟨rfl, rfl⟩
  · split at returned
    · obtain ⟨nowMs, -, returned⟩ := bind_eq_ok.mp returned
      split at returned <;> cases returned <;> exact ⟨rfl, rfl⟩
    · cases returned; exact ⟨rfl, rfl⟩

end InMemorySessionLeaseStore

end Tvic
