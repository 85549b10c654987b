import Mathlib.Control.Monad.Basic
import Mathlib.Data.Int.Init

/-!
# Lease records and the checks on their numbers

`packages/core/src/dal.ts` and the error classes of `dal-errors.ts`.
-/
namespace Tvic

abbrev SessionId := String

/-- A JavaScript number as the lease code sees it: an integer, or one of the values
`Number.isSafeInteger` rejects whatever their size (fractions, NaN, the infinities). -/
inductive Number where
  | int (value : Int)
  | nonInteger
  deriving DecidableEq, Repr

/-- `Number.MAX_SAFE_INTEGER`. -/
def maxSafeInteger : Nat := 9007199254740991

/-- `Number.isSafeInteger(n) && n >= minimum`, giving the integer on success. -/
def Number.safeInteger? (minimum : Nat) : Number → Option Nat
  | .int value =>
      if (minimum : Int) ≤ value ∧ value ≤ (maxSafeInteger : Int) then some value.toNat else none
  | .nonInteger => none

theorem Number.safeInteger?_eq_some {minimum n : Nat} {number : Number}
    (accepted : number.safeInteger? minimum = some n) :
    number = .int n ∧ minimum ≤ n ∧ n ≤ maxSafeInteger := by
  cases number with
  | nonInteger => simp [safeInteger?] at accepted
  | int value =>
    simp only [safeInteger?] at accepted
    split at accepted
    next range =>
      have equal : value.toNat = n := by simpa using accepted
      have cast : value = (n : Int) := by omega
      exact ⟨by rw [cast], by omega, by omega⟩
    · simp at accepted

@[simp] theorem Number.safeInteger?_natCast (minimum n : Nat) (low : minimum ≤ n)
    (high : n ≤ maxSafeInteger) : (Number.int n).safeInteger? minimum = some n := by
  have range : (minimum : Int) ≤ (n : Int) ∧ (n : Int) ≤ (maxSafeInteger : Int) := by omega
  simp [safeInteger?, range]

/-- The error classes the stores throw, with what they are constructed from. -/
inductive DalError where
  | invalidArgument (message : String)
  | backendUnavailable (message : String)
  | leaseLost (sessionId : SessionId)
  | recordConflict (record : String)
  | recordNotFound (record : String)
  | corruptRecord (key : String) (message : String)
  | error (message : String)
  deriving DecidableEq, Repr

/-- A check that throws `InvalidArgumentError`, and otherwise gives the number it checked. -/
def assertSafeInteger (minimum : Nat) (message : String) (number : Number) : Except DalError Nat :=
  match number.safeInteger? minimum with
  | some n => .ok n
  | none => .error (.invalidArgument message)

def assertLeaseTtlMs (ttlMs : Number) : Except DalError Nat :=
  assertSafeInteger 1 "Lease TTL must be a positive safe integer in milliseconds" ttlMs

def assertLeaseFence (fence : Number) : Except DalError Nat :=
  assertSafeInteger 1 "Lease fence must be a positive safe integer" fence

def assertLeaseTimestampMs (timestampMs : Number) : Except DalError Nat :=
  assertSafeInteger 0 "Lease timestamp must be a non-negative safe integer in milliseconds"
    timestampMs

theorem assertSafeInteger_eq_ok {minimum n : Nat} {message : String} {number : Number}
    (accepted : assertSafeInteger minimum message number = .ok n) :
    number.safeInteger? minimum = some n := by
  unfold assertSafeInteger at accepted
  split at accepted
  next value found =>
    cases accepted
    exact found
  · cases accepted

theorem bind_eq_ok {ε α β : Type} {x : Except ε α} {f : α → Except ε β} {b : β} :
    (x >>= f) = .ok b ↔ ∃ a, x = .ok a ∧ f a = .ok b := by
  cases x <;> simp [bind, Except.bind]

theorem bind_eq_error {ε α β : Type} {x : Except ε α} {f : α → Except ε β} {e : ε} :
    (x >>= f) = .error e ↔ x = .error e ∨ ∃ a, x = .ok a ∧ f a = .error e := by
  cases x <;> simp [bind, Except.bind]

def safeLeaseExpiryAt (nowMs ttlMs : Number) : Except DalError Nat := do
  let ttlMs ← assertLeaseTtlMs ttlMs
  let nowMs ← assertLeaseTimestampMs nowMs
  if maxSafeInteger - ttlMs < nowMs then
    .error (.invalidArgument "Lease expiry must be a non-negative safe integer timestamp")
  else .ok (nowMs + ttlMs)

theorem safeLeaseExpiryAt_eq_ok {nowMs ttlMs : Number} {expiry : Nat}
    (accepted : safeLeaseExpiryAt nowMs ttlMs = .ok expiry) :
    ∃ now ttl, nowMs.safeInteger? 0 = some now ∧ ttlMs.safeInteger? 1 = some ttl ∧ 1 ≤ ttl ∧
      expiry = now + ttl ∧ expiry ≤ maxSafeInteger := by
  obtain ⟨ttl, ttlChecked, accepted⟩ := bind_eq_ok.mp accepted
  obtain ⟨now, nowChecked, accepted⟩ := bind_eq_ok.mp accepted
  have ttlFound := assertSafeInteger_eq_ok ttlChecked
  have nowFound := assertSafeInteger_eq_ok nowChecked
  obtain ⟨-, positive, small⟩ := Number.safeInteger?_eq_some ttlFound
  split at accepted
  · cases accepted
  · cases accepted
    exact ⟨now, ttl, nowFound, ttlFound, positive, rfl, by omega⟩

/-- The code units a JavaScript string comparison goes through. -/
def utf16Units (text : String) : List Nat :=
  text.toList.flatMap fun c =>
    if c.toNat < 0x10000 then [c.toNat]
    else [0xD800 + (c.toNat - 0x10000) / 0x400, 0xDC00 + (c.toNat - 0x10000) % 0x400]

structure SessionLease where
  sessionId : SessionId
  holder : String
  fence : Nat
  generationId : String
  acquiredAtMs : Nat
  renewedAtMs : Nat
  expiresAtMs : Nat
  deriving DecidableEq, Repr

structure SessionRecoveryCandidate where
  sessionId : SessionId
  fence : Nat
  generationId : String
  deriving DecidableEq, Repr

end Tvic
