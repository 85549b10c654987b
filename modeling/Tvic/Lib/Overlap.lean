import Mathlib.Data.List.Basic
import Mathlib.Data.Nat.Find

/-!
# Joining two lists that overlap

The longest overlap of two lists, where the end of one is the beginning of the other, gives the shortest
list that begins with the one and ends with the other.
-/
namespace Tvic.Lib

variable {α : Type} [DecidableEq α]

def Overlaps (front back : List α) (count : Nat) : Prop :=
  front.drop (front.length - count) = back.take count

instance (front back : List α) : DecidablePred (Overlaps front back) :=
  fun _ => inferInstanceAs (Decidable (_ = _))

def overlap (front back : List α) : Nat :=
  Nat.findGreatest (Overlaps front back) (min front.length back.length)

def joinOverlapping (front back : List α) : List α := front ++ back.drop (overlap front back)

variable {front back joined : List α}

theorem overlap_le (front back : List α) :
    overlap front back ≤ front.length ∧ overlap front back ≤ back.length := by
  have le := Nat.findGreatest_le (P := Overlaps front back) (min front.length back.length)
  exact ⟨Nat.le_trans le (Nat.min_le_left _ _), Nat.le_trans le (Nat.min_le_right _ _)⟩

theorem overlaps_overlap (front back : List α) : Overlaps front back (overlap front back) := by
  have none_ : Overlaps front back 0 := by
    rw [Overlaps, Nat.sub_zero, List.drop_length, List.take_zero]
  exact Nat.findGreatest_spec (Nat.zero_le _) none_

theorem joinOverlapping_prefix (front back : List α) : front <+: joinOverlapping front back :=
  List.prefix_append _ _

theorem joinOverlapping_suffix (front back : List α) : back <:+ joinOverlapping front back := by
  refine ⟨front.take (front.length - overlap front back), ?_⟩
  have same := overlaps_overlap front back
  rw [Overlaps] at same
  calc front.take (front.length - overlap front back) ++ back
      = front.take (front.length - overlap front back) ++
          (back.take (overlap front back) ++ back.drop (overlap front back)) := by
        rw [List.take_append_drop]
    _ = joinOverlapping front back := by
        rw [← same, ← List.append_assoc, List.take_append_drop]
        rfl

theorem joinOverlapping_length (front back : List α) :
    (joinOverlapping front back).length + overlap front back = front.length + back.length := by
  have within := (overlap_le front back).2
  rw [joinOverlapping, List.length_append, List.length_drop]
  omega

theorem joinOverlapping_shortest (begins : front <+: joined) (ends : back <:+ joined) :
    (joinOverlapping front back).length ≤ joined.length ∧
      (joined.length = (joinOverlapping front back).length → joined = joinOverlapping front back) := by
  have length := joinOverlapping_length front back
  have frontLength := begins.length_le
  have backLength := ends.length_le
  obtain ⟨rest, split⟩ := begins
  obtain ⟨before, ended⟩ := ends
  rcases Nat.lt_or_ge (front.length + back.length) joined.length with apart | meet
  · exact ⟨by omega, fun same => by omega⟩
  · -- where the two meet, they overlap in what they have too much
    obtain ⟨count, meets⟩ := Nat.exists_eq_add_of_le meet
    have position : before.length = front.length - count := by
      have total := congrArg List.length ended
      rw [List.length_append] at total
      omega
    have tail : back = front.drop (front.length - count) ++ rest := by
      rw [← List.drop_append_of_le_length (Nat.sub_le _ _), split, ← ended, ← position, List.drop_left]
    have taken : (front.drop (front.length - count)).length = count := by
      rw [List.length_drop]
      omega
    have overlaps : Overlaps front back count := by
      rw [Overlaps, tail, List.take_left' taken]
    have most : count ≤ overlap front back :=
      Nat.le_findGreatest (by rw [Nat.le_min]; omega) overlaps
    refine ⟨by omega, fun same => ?_⟩
    have exact_ : overlap front back = count := by omega
    rw [joinOverlapping, exact_, ← split, tail, List.drop_left' taken]

end Tvic.Lib
