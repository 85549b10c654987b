import Mathlib.Data.List.Basic

/-!
# Promises

The promises that a component has handed out, by the order in which it did so, each with what it has
been settled with. Only the first settlement of a promise counts.
-/
namespace Tvic.Lib

variable {σ : Type*}

/-- `none` is a promise that is still pending. -/
abbrev PromiseTable (σ : Type*) := List (Option σ)

namespace PromiseTable

def settle (promises : PromiseTable σ) (promise : Nat) (outcome : σ) : PromiseTable σ :=
  promises.modify promise fun settled => settled.or (some outcome)

def settleAll (promises : PromiseTable σ) (pending : List Nat) (outcome : σ) : PromiseTable σ :=
  pending.foldl (fun promises promise => promises.settle promise outcome) promises

/-- Nothing that has been settled is settled again. -/
def Keeps (before after : PromiseTable σ) : Prop :=
  ∀ (promise : Nat) (outcome : σ), before[promise]? = some (some outcome) → after[promise]? = some (some outcome)

@[simp] theorem length_settle (promises : PromiseTable σ) (promise : Nat) (outcome : σ) :
    (promises.settle promise outcome).length = promises.length :=
  List.length_modify ..

@[simp] theorem length_settleAll (promises : PromiseTable σ) (pending : List Nat) (outcome : σ) :
    (promises.settleAll pending outcome).length = promises.length := by
  induction pending generalizing promises with
  | nil => rfl
  | cons promise pending ih => exact (ih _).trans (length_settle promises promise outcome)

theorem getElem?_settle (promises : PromiseTable σ) (promise other : Nat) (outcome : σ) :
    (promises.settle promise outcome)[other]? =
      if promise = other then promises[other]?.map fun settled => settled.or (some outcome)
      else promises[other]? := by
  rw [settle, List.getElem?_modify]
  split
  · rfl
  · simp

theorem Keeps.refl (promises : PromiseTable σ) : Keeps promises promises := fun _ _ settled => settled

theorem Keeps.trans {first second third : PromiseTable σ} (before : Keeps first second)
    (after : Keeps second third) : Keeps first third :=
  fun promise outcome settled => after promise outcome (before promise outcome settled)

theorem keeps_settle (promises : PromiseTable σ) (promise : Nat) (outcome : σ) :
    Keeps promises (promises.settle promise outcome) := by
  intro other settled known
  rw [getElem?_settle, known]
  split <;> rfl

theorem keeps_settleAll (promises : PromiseTable σ) (pending : List Nat) (outcome : σ) :
    Keeps promises (promises.settleAll pending outcome) := by
  induction pending generalizing promises with
  | nil => exact Keeps.refl promises
  | cons promise pending ih => exact (keeps_settle promises promise outcome).trans (ih _)

theorem keeps_append (promises added : PromiseTable σ) : Keeps promises (promises ++ added) := by
  intro promise outcome known
  rwa [List.getElem?_append_left (List.getElem?_eq_some_iff.mp known).1]

theorem pending_settle {promises : PromiseTable σ} {promise other : Nat} {outcome : σ}
    (pending : (promises.settle promise outcome)[other]? = some none) :
    promises[other]? = some none ∧ other ≠ promise := by
  rw [getElem?_settle] at pending
  split at pending
  · obtain ⟨settled, _, none⟩ := Option.map_eq_some_iff.mp pending
    cases settled <;> cases none
  next ne => exact ⟨pending, Ne.symm ne⟩

theorem pending_settleAll {promises : PromiseTable σ} {settled : List Nat} {other : Nat}
    {outcome : σ} (pending : (promises.settleAll settled outcome)[other]? = some none) :
    promises[other]? = some none ∧ other ∉ settled := by
  induction settled generalizing promises with
  | nil => exact ⟨pending, List.not_mem_nil⟩
  | cons promise rest ih =>
    obtain ⟨before, later⟩ := ih pending
    obtain ⟨before, ne⟩ := pending_settle before
    exact ⟨before, fun listed => (List.mem_cons.mp listed).elim ne later⟩

theorem settle_pending {promises : PromiseTable σ} {promise : Nat}
    (pending : promises[promise]? = some none) (outcome : σ) :
    (promises.settle promise outcome)[promise]? = some (some outcome) := by
  rw [getElem?_settle, if_pos rfl, pending]
  rfl

end PromiseTable

end Tvic.Lib
