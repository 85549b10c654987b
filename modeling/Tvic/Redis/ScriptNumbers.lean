import Mathlib.Tactic.NormNum
import Tvic.Core.Dal

/-!
# Numbers in the Redis scripts

`LEASE_NUMERIC_GUARD` of `redis-script-helpers.ts`, on the integers that come through it, and what
`cjson` keeps of a number: Redis encodes with 14 significant digits.
-/
namespace Tvic.Redis

/-- `safeInteger` of a number, or of the decimal text of one. -/
def safeInteger (value minimum : Nat) : Option Nat :=
  if minimum ≤ value ∧ value ≤ maxSafeInteger then some value else none

def safeTimestamp (value : Nat) : Option Nat := safeInteger value 0

def safeLeaseExpiry (now ttl : Nat) : Option Nat := do
  let safeNow ← safeTimestamp now
  let safeTtl ← safeInteger ttl 1
  if maxSafeInteger - safeNow < safeTtl then none else some (safeNow + safeTtl)

/-- The multiple of `unit` that `printf` rounds to, the even one where two are as near. -/
def roundTo (unit n : Nat) : Nat :=
  let below := n / unit
  let rest := n % unit
  if unit < 2 * rest ∨ 2 * rest = unit ∧ below % 2 = 1 then (below + 1) * unit else below * unit

/-- A safe integer after `cjson.encode` and a decoder: `%.14g` drops its fifteenth and sixteenth
digits. -/
def cjsonNumber (n : Nat) : Nat :=
  if n < 10 ^ 14 then n else if n < 10 ^ 15 then roundTo 10 n else roundTo 100 n

theorem safeInteger_eq_some {value minimum n : Nat} :
    safeInteger value minimum = some n ↔ n = value ∧ minimum ≤ value ∧ value ≤ maxSafeInteger := by
  unfold safeInteger
  split
  next range => simp [range, eq_comm]
  next range => simp [range]

theorem safeLeaseExpiry_eq_some {now ttl expiry : Nat} :
    safeLeaseExpiry now ttl = some expiry ↔
      expiry = now + ttl ∧ 1 ≤ ttl ∧ expiry ≤ maxSafeInteger := by
  constructor
  · intro found
    obtain ⟨safeNow, nowFound, withNow⟩ := Option.bind_eq_some_iff.mp found
    obtain ⟨safeTtl, ttlFound, withTtl⟩ := Option.bind_eq_some_iff.mp withNow
    obtain ⟨rfl, -, nowSmall⟩ := safeInteger_eq_some.mp nowFound
    obtain ⟨rfl, positive, -⟩ := safeInteger_eq_some.mp ttlFound
    split at withTtl
    · cases withTtl
    · cases withTtl
      exact ⟨rfl, positive, by omega⟩
  · rintro ⟨rfl, positive, small⟩
    have nowFound : safeTimestamp now = some now := safeInteger_eq_some.mpr ⟨rfl, by omega, by omega⟩
    have ttlFound : safeInteger ttl 1 = some ttl := safeInteger_eq_some.mpr ⟨rfl, positive, by omega⟩
    simp only [safeLeaseExpiry, nowFound, ttlFound, Option.bind_eq_bind, Option.bind_some]
    rw [if_neg (by omega)]

theorem cjsonNumber_of_lt {n : Nat} (small : n < 10 ^ 14) : cjsonNumber n = n := if_pos small

end Tvic.Redis
