import Mathlib.Data.List.Nodup

/-!
# Maps that remember the order of insertion

A JavaScript `Map`: keys keep the place of their first `set` until they are deleted. An
`IteratedMap` is such a map with an iterator under way, which goes on to find the entries
that are added while it runs and not those that are deleted before it comes to them.
-/
namespace Tvic.Lib

/-- The entries of the map in its order; the operations keep each key once. -/
abbrev InsertionMap (κ ν : Type) := List (κ × ν)

namespace InsertionMap

variable {κ ν : Type} [DecidableEq κ]

def get (map : InsertionMap κ ν) (key : κ) : Option ν :=
  (map.find? fun entry => entry.1 = key).map (·.2)

def has (map : InsertionMap κ ν) (key : κ) : Bool :=
  map.any fun entry => entry.1 = key

def set (map : InsertionMap κ ν) (key : κ) (value : ν) : InsertionMap κ ν :=
  if has map key then map.map fun entry => if entry.1 = key then (key, value) else entry
  else map ++ [(key, value)]

def delete (map : InsertionMap κ ν) (key : κ) : InsertionMap κ ν :=
  map.filter fun entry => entry.1 ≠ key

def values (map : InsertionMap κ ν) : List ν := map.map (·.2)

omit [DecidableEq κ] in
def keys (map : InsertionMap κ ν) : List κ := map.map (·.1)

@[simp] theorem get_nil (key : κ) : get ([] : InsertionMap κ ν) key = none := rfl

@[simp] theorem get_cons (entry : κ × ν) (rest : InsertionMap κ ν) (key : κ) :
    get (entry :: rest) key = if entry.1 = key then some entry.2 else get rest key := by
  by_cases same : entry.1 = key <;> simp [get, same]

theorem get_append (first second : InsertionMap κ ν) (key : κ) :
    get (first ++ second) key = (get first key).or (get second key) := by
  induction first with
  | nil => rfl
  | cons entry rest ih =>
    simp only [List.cons_append, get_cons, ih]
    split <;> rfl

variable {map : InsertionMap κ ν}

theorem has_eq_true {key : κ} : has map key = true ↔ key ∈ keys map := by
  simp only [has, keys, List.any_eq_true, decide_eq_true_eq, List.mem_map]

theorem get_eq_none {key : κ} : get map key = none ↔ key ∉ keys map := by
  induction map with
  | nil => simp [keys]
  | cons entry rest ih =>
    by_cases same : entry.1 = key
    · simp [keys, same]
    · rw [get_cons, if_neg same, ih]
      simp [keys, Ne.symm same]

theorem get_of_mem (unique : (keys map).Nodup) {entry : κ × ν} (member : entry ∈ map) :
    get map entry.1 = some entry.2 := by
  induction map with
  | nil => cases member
  | cons first rest ih =>
    simp only [keys, List.map_cons, List.nodup_cons] at unique
    rcases List.mem_cons.mp member with rfl | later
    · rw [get_cons, if_pos rfl]
    · have other : first.1 ≠ entry.1 := fun same => unique.1 (same ▸ List.mem_map_of_mem later)
      rw [get_cons, if_neg other, ih unique.2 later]

private theorem get_map_set (map : InsertionMap κ ν) (key other : κ) (value : ν) :
    get (map.map fun entry => if entry.1 = key then (key, value) else entry) other =
      if other = key then (get map key).map fun _ => value else get map other := by
  induction map with
  | nil => simp
  | cons entry rest ih =>
    rw [List.map_cons, get_cons, ih, get_cons, get_cons]
    by_cases own : entry.1 = key
    · by_cases asked : other = key
      · simp [own, asked]
      · simp [own, asked, Ne.symm asked]
    · by_cases asked : other = key
      · subst asked
        simp [own]
      · simp [own, asked]

@[simp] theorem get_set_self (map : InsertionMap κ ν) (key : κ) (value : ν) :
    get (set map key value) key = some value := by
  by_cases present : has map key = true
  · have member := has_eq_true.mp present
    have found : get map key ≠ none := fun missing => get_eq_none.mp missing member
    obtain ⟨old, equal⟩ := Option.ne_none_iff_exists'.mp found
    rw [set, if_pos present, get_map_set, if_pos rfl, equal]
    rfl
  · have missing : get map key = none := get_eq_none.mpr fun member => present (has_eq_true.mpr member)
    rw [set, if_neg present, get_append, missing]
    simp

theorem get_set_of_ne (map : InsertionMap κ ν) {key other : κ} (ne : other ≠ key) (value : ν) :
    get (set map key value) other = get map other := by
  rw [set]
  split
  · rw [get_map_set, if_neg ne]
  · rw [get_append, get_cons, if_neg (Ne.symm ne), get_nil, Option.or_none]

@[simp] theorem get_delete_self (map : InsertionMap κ ν) (key : κ) :
    get (delete map key) key = none := by
  rw [get_eq_none]
  simp [keys, delete]

theorem get_delete_of_ne (map : InsertionMap κ ν) {key other : κ} (ne : other ≠ key) :
    get (delete map key) other = get map other := by
  induction map with
  | nil => rfl
  | cons entry rest ih =>
    by_cases own : entry.1 = key
    · have kept : delete (entry :: rest) key = delete rest key := by simp [delete, own]
      rw [kept, ih, get_cons, if_neg (by rw [own]; exact Ne.symm ne)]
    · have kept : delete (entry :: rest) key = entry :: delete rest key := by simp [delete, own]
      rw [kept, get_cons, get_cons, ih]

theorem keys_set_nodup (unique : (keys map).Nodup) (key : κ) (value : ν) :
    (keys (set map key value)).Nodup := by
  by_cases present : has map key = true
  · have same : keys (set map key value) = keys map := by
      rw [set, if_pos present, keys, keys, List.map_map]
      apply List.map_congr_left
      intro entry _
      simp only [Function.comp]
      split
      next own => exact own.symm
      next => rfl
    rwa [same]
  · have fresh : key ∉ keys map := fun member => present (has_eq_true.mpr member)
    have added : keys (set map key value) = keys map ++ [key] := by
      simp [set, present, keys]
    rw [added, List.nodup_append]
    refine ⟨unique, by simp, ?_⟩
    rintro a member b only rfl
    rw [List.mem_singleton] at only
    exact fresh (only ▸ member)

theorem keys_delete_nodup (unique : (keys map).Nodup) (key : κ) :
    (keys (delete map key)).Nodup :=
  unique.sublist (List.filter_sublist.map _)

theorem delete_set (map : InsertionMap κ ν) (key : κ) (value : ν) :
    delete (set map key value) key = delete map key := by
  rw [set]
  split
  next present =>
    rw [delete, delete]
    clear present
    induction map with
    | nil => rfl
    | cons entry rest ih =>
      by_cases own : entry.1 = key
      · simpa [own] using ih
      · simpa [own] using ih
  · simp [delete]

theorem delete_delete (map : InsertionMap κ ν) (key : κ) :
    delete (delete map key) key = delete map key := by
  simp [delete]

theorem length_set_of_has {key : κ} (present : has map key = true) (value : ν) :
    (set map key value).length = map.length := by
  rw [set, if_pos present, List.length_map]

theorem length_set_le (map : InsertionMap κ ν) (key : κ) (value : ν) :
    (set map key value).length ≤ map.length + 1 := by
  rw [set]
  split <;> simp

omit [DecidableEq κ] in
theorem keys_filter_nodup (unique : (keys map).Nodup) (test : κ × ν → Bool) :
    (keys (map.filter test)).Nodup :=
  unique.sublist (List.filter_sublist.map _)

theorem get_filter (unique : (keys map).Nodup) (test : κ × ν → Bool) (key : κ) :
    get (map.filter test) key = (get map key).filter fun value => test (key, value) := by
  induction map with
  | nil => rfl
  | cons entry rest ih =>
    simp only [keys, List.map_cons, List.nodup_cons] at unique
    have tail := ih unique.2
    by_cases own : entry.1 = key
    · subst own
      -- what the filter takes has no second entry further on
      have absent : get rest entry.1 = none := get_eq_none.mpr unique.1
      rw [absent] at tail
      cases passes : test entry <;> simp [passes, tail, Option.filter_some]
    · cases passes : test entry <;> simp [passes, own, tail]

theorem set_append {first second : InsertionMap κ ν} (unique : (keys (first ++ second)).Nodup)
    (key : κ) (value : ν) :
    set (first ++ second) key value =
      if has first key then set first key value ++ second else first ++ set second key value := by
  have apart : key ∈ keys first → key ∉ keys second := by
    intro early late
    rw [keys, List.map_append, List.nodup_append] at unique
    exact unique.2.2 key early key late rfl
  have untouched : ∀ {map : InsertionMap κ ν}, key ∉ keys map →
      (map.map fun entry => if entry.1 = key then (key, value) else entry) = map := by
    intro map absent
    conv_rhs => rw [← List.map_id map]
    apply List.map_congr_left
    intro entry member
    have other : entry.1 ≠ key := fun own => absent (own ▸ List.mem_map_of_mem member)
    rw [if_neg other, id]
  by_cases early : has first key = true
  · have either : has (first ++ second) key = true := by simp [has] at early ⊢; exact .inl early
    have alone := untouched (apart (has_eq_true.mp early))
    rw [if_pos early, set, if_pos either, List.map_append, alone, set, if_pos early]
  · have absent := untouched (fun member => early (has_eq_true.mpr member))
    have either : has (first ++ second) key = has second key := by
      have none := eq_false_of_ne_true early
      simp only [has, List.any_append] at none ⊢
      rw [none, Bool.false_or]
    rw [if_neg early, set, set, either]
    split
    · rw [List.map_append, absent]
    · rw [List.append_assoc]

end InsertionMap

/-- A map and the iterator over its entries: those it has passed and those still to come. -/
structure IteratedMap (κ ν : Type) where
  passed : InsertionMap κ ν
  ahead : InsertionMap κ ν
  unique : (InsertionMap.keys (passed ++ ahead)).Nodup

namespace IteratedMap

variable {κ ν : Type}

def empty : IteratedMap κ ν where
  passed := []
  ahead := []
  unique := List.nodup_nil

def entries (map : IteratedMap κ ν) : InsertionMap κ ν := map.passed ++ map.ahead

/-- A new iterator takes the place of the old one. -/
def restart (map : IteratedMap κ ν) : IteratedMap κ ν where
  passed := []
  ahead := map.entries
  unique := map.unique

/-- The iterator's `next`: nothing when it is done. -/
def next (map : IteratedMap κ ν) : Option ((κ × ν) × IteratedMap κ ν) :=
  match equation : map.ahead with
  | [] => none
  | entry :: rest =>
    some (entry,
      { passed := map.passed ++ [entry]
        ahead := rest
        unique := by simpa [equation] using map.unique })

variable [DecidableEq κ]

def get (map : IteratedMap κ ν) (key : κ) : Option ν := InsertionMap.get map.entries key

/-- A key that is not there yet goes to the end, ahead of the iterator. -/
def set (map : IteratedMap κ ν) (key : κ) (value : ν) : IteratedMap κ ν where
  passed :=
    if InsertionMap.has map.passed key then InsertionMap.set map.passed key value else map.passed
  ahead :=
    if InsertionMap.has map.passed key then map.ahead else InsertionMap.set map.ahead key value
  unique := by
    have whole := InsertionMap.keys_set_nodup map.unique key value
    rw [InsertionMap.set_append map.unique] at whole
    by_cases passed : InsertionMap.has map.passed key = true <;> simpa [passed] using whole

def delete (map : IteratedMap κ ν) (key : κ) : IteratedMap κ ν where
  passed := InsertionMap.delete map.passed key
  ahead := InsertionMap.delete map.ahead key
  unique := by
    have whole := InsertionMap.keys_delete_nodup map.unique key
    simpa [InsertionMap.delete] using whole

@[simp] theorem get_empty (key : κ) : (empty : IteratedMap κ ν).get key = none := rfl

section

variable (map : IteratedMap κ ν)
include map

@[simp] theorem get_restart (key : κ) :
    map.restart.get key = map.get key := rfl

theorem entries_set (key : κ) (value : ν) :
    (map.set key value).entries = InsertionMap.set map.entries key value := by
  have split := InsertionMap.set_append map.unique key value
  rw [entries, entries, split]
  by_cases passed : InsertionMap.has map.passed key = true <;> simp [set, passed]

theorem entries_delete (key : κ) :
    (map.delete key).entries = InsertionMap.delete map.entries key := by
  simp [entries, delete, InsertionMap.delete]

@[simp] theorem get_set_self (key : κ) (value : ν) :
    (map.set key value).get key = some value := by
  rw [get, entries_set, InsertionMap.get_set_self]

theorem get_set_of_ne {key other : κ} (ne : other ≠ key) (value : ν) :
    (map.set key value).get other = map.get other := by
  rw [get, entries_set, InsertionMap.get_set_of_ne _ ne, get]

@[simp] theorem get_delete_self (key : κ) :
    (map.delete key).get key = none := by
  rw [get, entries_delete, InsertionMap.get_delete_self]

theorem get_delete_of_ne {key other : κ} (ne : other ≠ key) :
    (map.delete key).get other = map.get other := by
  rw [get, entries_delete, InsertionMap.get_delete_of_ne _ ne, get]

theorem get_of_mem {entry : κ × ν} (member : entry ∈ map.entries) :
    map.get entry.1 = some entry.2 :=
  InsertionMap.get_of_mem map.unique member

end

theorem next_eq_some {map rest : IteratedMap κ ν} {entry : κ × ν}
    (found : map.next = some (entry, rest)) :
    (∀ key, rest.get key = map.get key) ∧ map.get entry.1 = some entry.2 := by
  obtain ⟨passed, ahead, unique⟩ := map
  cases ahead with
  | nil => simp [next] at found
  | cons first others =>
    simp only [next, Option.some.injEq, Prod.mk.injEq] at found
    obtain ⟨rfl, rfl⟩ := found
    constructor
    · intro key
      simp [get, entries]
    · have fresh : first.1 ∉ InsertionMap.keys passed := by
        intro early
        rw [InsertionMap.keys, List.map_append, List.nodup_append] at unique
        exact unique.2.2 first.1 early first.1 (by simp) rfl
      rw [get, entries, InsertionMap.get_append, InsertionMap.get_eq_none.mpr fresh]
      simp

end IteratedMap

end Tvic.Lib
