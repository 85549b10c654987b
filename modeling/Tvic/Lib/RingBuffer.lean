import Mathlib.Data.List.Basic

/-!
# Ring buffers

A queue in an array: `count` cells from `head` on, with the end of the array followed by its start.
Cells that are not in use hold anything. `ring` is what the queue holds; the other lemmas say what
becomes of it when the first is taken off, when one is appended, and when the array is replaced.
-/
namespace Tvic.Lib

variable {α : Type*}

/-- The cell `offset` places behind `head`, for offsets within the array. -/
def ringIndex (capacity head offset : Nat) : Nat :=
  if capacity ≤ head + offset then head + offset - capacity else head + offset

/-- What the queue holds, oldest first. -/
def ring (spare : α) (cells : List α) (head count : Nat) : List α :=
  (List.range count).map fun offset => cells.getD (ringIndex cells.length head offset) spare

@[simp] theorem length_ring (spare : α) (cells : List α) (head count : Nat) :
    (ring spare cells head count).length = count := by
  simp [ring]

theorem ringIndex_lt {capacity head offset : Nat} (inside : head < capacity)
    (within : offset < capacity) :
    ringIndex capacity head offset < capacity := by
  unfold ringIndex
  split <;> omega

theorem ringIndex_injective {capacity head offset other : Nat} (within : offset < capacity)
    (within' : other < capacity)
    (same : ringIndex capacity head offset = ringIndex capacity head other) : offset = other := by
  unfold ringIndex at same
  split at same <;> split at same <;> omega

/-- The head after the first has been taken off. -/
def ringNext (capacity head : Nat) : Nat := if head + 1 = capacity then 0 else head + 1

theorem ringNext_lt {capacity head : Nat} (inside : head < capacity) :
    ringNext capacity head < capacity := by
  unfold ringNext
  split <;> omega

theorem ring_succ (spare : α) {cells : List α} {head count : Nat} (inside : head < cells.length)
    (fits : count < cells.length) :
    ring spare cells head (count + 1) =
      cells.getD head spare :: ring spare cells (ringNext cells.length head) count := by
  unfold ring
  rw [List.range_succ_eq_map, List.map_cons, List.map_map]
  refine congrArg₂ List.cons ?_ (List.map_congr_left fun offset listed => ?_)
  · rw [ringIndex, if_neg (by omega), Nat.add_zero]
  · have within := List.mem_range.mp listed
    refine congrArg (cells.getD · spare) ?_
    show ringIndex cells.length head (offset + 1) = _
    unfold ringIndex ringNext
    split <;> split <;> split <;> omega

theorem ring_append (spare : α) {cells : List α} {head count : Nat} (inside : head < cells.length)
    (fits : count < cells.length) (item : α) :
    ring spare (cells.set (ringIndex cells.length head count) item) head (count + 1) =
      ring spare cells head count ++ [item] := by
  unfold ring
  rw [List.length_set, List.range_succ, List.map_append, List.map_singleton]
  refine congrArg₂ (· ++ ·) (List.map_congr_left fun offset listed => ?_) ?_
  · have within := List.mem_range.mp listed
    have apart : ringIndex cells.length head count ≠ ringIndex cells.length head offset := by
      intro same
      have := ringIndex_injective fits (by omega) same
      omega
    rw [List.getD_eq_getElem?_getD, List.getD_eq_getElem?_getD, List.getElem?_set_ne apart]
  · rw [List.getD_eq_getElem?_getD, List.getElem?_set_self (ringIndex_lt inside fits)]
    rfl

theorem ring_moved (spare : α) (items rest : List α) :
    ring spare (items ++ rest) 0 items.length = items := by
  refine List.ext_getElem? fun index => ?_
  unfold ring
  rw [List.getElem?_map]
  rcases Nat.lt_or_ge index items.length with inside | beyond
  · rw [List.getElem?_range inside, Option.map_some, ringIndex, Nat.zero_add,
      if_neg (by rw [List.length_append]; omega), List.getD_eq_getElem?_getD,
      List.getElem?_append_left inside, List.getElem?_eq_getElem inside]
    rfl
  · rw [List.getElem?_eq_none (by simpa using beyond), List.getElem?_eq_none beyond]
    rfl

end Tvic.Lib
