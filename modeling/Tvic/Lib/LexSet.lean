import Tvic.Lib.Paging

/-!
# Sets in the order of their members

A set as the list of its members in increasing order, each once: the order is a field. A range of
it is what lies beyond a bound, up to a count. When a set grows, its ranges lose members at
the end only.
-/
namespace Tvic.Lib

structure LexSet (μ : Type) [LinearOrder μ] where
  members : List μ
  inOrder : InOrder id members

namespace LexSet

variable {μ : Type} [LinearOrder μ]

def empty : LexSet μ := ⟨[], List.Pairwise.nil⟩

def add (set : LexSet μ) (member : μ) : LexSet μ :=
  if fresh : member ∉ set.members then
    { members := set.members.orderedInsert (· ≤ ·) member
      inOrder := by
        have sorted : set.members.Pairwise (· ≤ ·) := set.inOrder.imp le_of_lt
        have inserted := List.perm_orderedInsert (· ≤ ·) member set.members
        have nodup : (set.members.orderedInsert (· ≤ ·) member).Nodup :=
          inserted.nodup_iff.mpr (List.nodup_cons.mpr ⟨fresh, set.inOrder.nodup⟩)
        exact (List.Pairwise.orderedInsert member _ sorted).imp₂
          (fun _ _ le ne => lt_of_le_of_ne le ne) nodup }
  else set

def remove (set : LexSet μ) (member : μ) : LexSet μ where
  members := set.members.filter (· ≠ member)
  inOrder := List.Pairwise.filter _ set.inOrder

/-- The members beyond a bound, or all where there is none, up to a count. -/
def range (set : LexSet μ) (bound : Option μ) (count : Nat) : List μ :=
  (beyond id bound set.members).take count

theorem mem_add {set : LexSet μ} {added member : μ} :
    member ∈ (set.add added).members ↔ member = added ∨ member ∈ set.members := by
  unfold add
  split
  next => exact List.mem_orderedInsert _
  next there =>
    constructor
    · exact .inr
    · rintro (rfl | old)
      · exact not_not.mp there
      · exact old

theorem mem_range {set : LexSet μ} {bound : Option μ} {count : Nat} {member : μ}
    (listed : member ∈ set.range bound count) :
    member ∈ set.members ∧ Beyond id bound member :=
  mem_beyond.mp (List.mem_of_mem_take listed)

theorem mem_range_of_subset {set larger : LexSet μ} (grown : set.members ⊆ larger.members)
    {bound : Option μ} {count : Nat} {member : μ} (old : member ∈ set.members)
    (listed : member ∈ larger.range bound count) : member ∈ set.range bound count :=
  mem_take_beyond set.inOrder larger.inOrder grown old listed

end LexSet

end Tvic.Lib
