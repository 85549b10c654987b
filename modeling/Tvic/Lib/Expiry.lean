import Mathlib.Data.Option.Basic
import Tvic.Lib.InsertionMap

/-!
# Records that expire

A ledger keeps whatever was last written under a key. A store that drops expired records, some at
once and some late, is worth the same as long as nobody asks it about a record that has expired:
`Stored` is what such a store may hold for a ledger entry, and `live_eq` is why its answers are
the ledger's.
-/
namespace Tvic.Lib

variable {κ ν : Type} (expiry : ν → Nat)

/-- The entry as it counts at the moment `now`. -/
def live (now : Nat) (entry : Option ν) : Option ν :=
  entry.filter fun value => now < expiry value

/-- What a store may hold at the moment `now` for what was last written: that, or nothing once
it has expired. -/
def Stored (now : Nat) (stored written : Option ν) : Prop :=
  stored = written ∨ stored = none ∧ live expiry now written = none

variable {expiry} {now later : Nat} {stored written : Option ν}

theorem live_eq_some {value : ν} :
    live expiry now written = some value ↔ written = some value ∧ now < expiry value := by
  simp [live, Option.filter_eq_some_iff]

theorem live_eq_none :
    live expiry now written = none ↔ ∀ value, written = some value → expiry value ≤ now := by
  cases written <;> simp [live, Option.filter_eq_none_iff]

theorem live_none_mono (gone : live expiry now written = none) (le : now ≤ later) :
    live expiry later written = none := by
  rw [live_eq_none] at gone ⊢
  exact fun value held => Nat.le_trans (gone value held) le

theorem Stored.mono (holds : Stored expiry now stored written) (le : now ≤ later) :
    Stored expiry later stored written := by
  rcases holds with same | ⟨dropped, gone⟩
  · exact .inl same
  · exact .inr ⟨dropped, live_none_mono gone le⟩

theorem Stored.live_eq (holds : Stored expiry now stored written) (le : now ≤ later) :
    live expiry later stored = live expiry later written := by
  rcases holds with same | ⟨dropped, gone⟩
  · rw [same]
  · rw [dropped, live_none_mono gone le, live_eq_none]
    simp

theorem Stored.drop (holds : Stored expiry now stored written)
    (gone : live expiry now stored = none) : Stored expiry now none written :=
  .inr ⟨rfl, holds.live_eq (Nat.le_refl now) ▸ gone⟩

namespace IteratedMap

variable [DecidableEq κ] (expiry)

/-- Take at most `limit` entries from the iterator and delete those that have expired; when the
iterator is done a new one takes its place, and this batch is over. -/
def pruneBatch (now : Nat) : Nat → IteratedMap κ ν → IteratedMap κ ν
  | 0, map => map
  | limit + 1, map =>
    match map.next with
    | none => map.restart
    | some (entry, map) =>
      pruneBatch now limit (if expiry entry.2 ≤ now then map.delete entry.1 else map)

variable {expiry}

theorem pruneBatch_stored (limit : Nat) (map : IteratedMap κ ν) (key : κ) (written : Option ν)
    (holds : Stored expiry now (map.get key) written) :
    Stored expiry now ((map.pruneBatch expiry now limit).get key) written := by
  induction limit generalizing map with
  | zero => exact holds
  | succ limit ih =>
    rw [pruneBatch]
    split
    · exact holds
    next entry rest found =>
      obtain ⟨kept, own⟩ := next_eq_some found
      apply ih
      split
      next expired =>
        by_cases same : key = entry.1
        · -- the iterator has come to this very record, and its time is over
          subst same
          rw [get_delete_self]
          apply holds.drop
          rw [own, live_eq_none]
          rintro _ ⟨⟩
          exact expired
        · rw [get_delete_of_ne _ same, kept]
          exact holds
      next => rw [kept]; exact holds

end IteratedMap

end Tvic.Lib
