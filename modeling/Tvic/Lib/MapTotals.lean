import Mathlib.Algebra.BigOperators.Group.List.Basic
import Mathlib.Algebra.GroupWithZero.Nat
import Tvic.Lib.InsertionMap

/-!
# What the entries of a map add up to

A weight for the values gives every map a total. A key is counted once, so that a deletion takes the
weight of what it deletes and a `set` puts the weight of the new value in the place of the old one.
-/
namespace Tvic.Lib.InsertionMap

variable {κ ν : Type} (weight : ν → Nat)

def total (map : InsertionMap κ ν) : Nat := (map.map fun entry => weight entry.2).sum

@[simp] theorem total_nil : total weight ([] : InsertionMap κ ν) = 0 := rfl

@[simp] theorem total_cons (entry : κ × ν) (rest : InsertionMap κ ν) :
    total weight (entry :: rest) = weight entry.2 + total weight rest := by
  simp [total]

@[simp] theorem total_append (first second : InsertionMap κ ν) :
    total weight (first ++ second) = total weight first + total weight second := by
  simp [total]

variable {map : InsertionMap κ ν}

theorem total_eq_zero :
    total weight map = 0 ↔ ∀ entry ∈ map, weight entry.2 = 0 := by
  induction map with
  | nil => simp
  | cons entry rest ih => simp [ih]

theorem total_filter_add (test : κ × ν → Bool) (map : InsertionMap κ ν) :
    total weight (map.filter test) + total weight (map.filter fun entry => !test entry) =
      total weight map := by
  induction map with
  | nil => rfl
  | cons entry rest ih =>
    cases passes : test entry <;> simp [passes] <;> omega

variable [DecidableEq κ]

variable {key : κ}

theorem delete_of_get_eq_none (absent : get map key = none) :
    delete map key = map := by
  rw [delete, List.filter_eq_self]
  intro entry member
  have other : entry.1 ≠ key := by
    rintro rfl
    exact get_eq_none.mp absent (List.mem_map_of_mem member)
  simpa using other

theorem mem_of_get {value : ν} (found : get map key = some value) :
    (key, value) ∈ map := by
  obtain ⟨entry, located, rfl⟩ := Option.map_eq_some_iff.mp found
  have own := List.find?_some located
  obtain rfl : entry.1 = key := by simpa using own
  exact List.mem_of_find?_eq_some located

theorem has_of_get {value : ν} (found : get map key = some value) :
    has map key = true :=
  has_eq_true.mpr (List.mem_map_of_mem (mem_of_get found))

theorem mem_delete {entry : κ × ν} :
    entry ∈ delete map key ↔ entry ∈ map ∧ entry.1 ≠ key := by
  simp [delete]

theorem eq_or_mem_of_mem_set {value : ν} {entry : κ × ν} (member : entry ∈ set map key value) :
    entry = (key, value) ∨ entry ∈ map := by
  unfold set at member
  split at member
  · obtain ⟨old, held, rfl⟩ := List.mem_map.mp member
    split
    · exact .inl rfl
    · exact .inr held
  · rcases List.mem_append.mp member with held | new
    · exact .inr held
    · exact .inl (List.mem_singleton.mp new)

theorem total_delete (unique : (keys map).Nodup) {value : ν} (found : get map key = some value) :
    total weight (delete map key) + weight value = total weight map := by
  induction map with
  | nil => simp at found
  | cons entry rest ih =>
    simp only [keys, List.map_cons, List.nodup_cons] at unique
    by_cases own : entry.1 = key
    · -- the rest of the map has no second entry under the key
      have absent : get rest key = none := get_eq_none.mpr (own ▸ unique.1)
      have value : entry.2 = value := by simpa [own] using found
      have kept : delete (entry :: rest) key = delete rest key := by simp [delete, own]
      rw [kept, delete_of_get_eq_none absent, total_cons, value, Nat.add_comm]
    · have found : get rest key = some value := by simpa [own] using found
      have kept : delete (entry :: rest) key = entry :: delete rest key := by simp [delete, own]
      have tail := ih unique.2 found
      rw [kept, total_cons, total_cons]
      omega

private theorem total_overwrite (unique : (keys map).Nodup) (key : κ) (value : ν) :
    total weight (map.map fun entry => if entry.1 = key then (key, value) else entry) =
      total weight (delete map key) + if has map key = true then weight value else 0 := by
  induction map with
  | nil => simp [delete, has]
  | cons entry rest ih =>
    simp only [keys, List.map_cons, List.nodup_cons] at unique
    have tail := ih unique.2
    by_cases own : entry.1 = key
    · -- the new value is weighed here and not again further on
      have absent : has rest key = false := by
        rw [← Bool.not_eq_true, has_eq_true]
        exact own ▸ unique.1
      have kept : delete (entry :: rest) key = delete rest key := by simp [delete, own]
      have here : has (entry :: rest) key = true := by simp [has, own]
      rw [List.map_cons, if_pos own, total_cons, tail, absent, kept, here]
      simp [Nat.add_comm]
    · have kept : delete (entry :: rest) key = entry :: delete rest key := by simp [delete, own]
      have later : has (entry :: rest) key = has rest key := by simp [has, own]
      rw [List.map_cons, if_neg own, total_cons, tail, kept, later, total_cons]
      omega

theorem total_set (unique : (keys map).Nodup) (key : κ) (value : ν) :
    total weight (set map key value) = total weight (delete map key) + weight value := by
  by_cases present : has map key = true
  · rw [set, if_pos present, total_overwrite weight unique, if_pos present]
  · have absent : get map key = none :=
      get_eq_none.mpr fun member => present (has_eq_true.mpr member)
    rw [set, if_neg present, delete_of_get_eq_none absent]
    simp

end Tvic.Lib.InsertionMap
