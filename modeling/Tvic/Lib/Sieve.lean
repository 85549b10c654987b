import Mathlib.Data.List.Basic

/-!
# Keeping part of a list by index

Compacting a list keeps some of its indices and moves the positions that point into it. The kept
entries are a `sieve` of the list; a position goes to the number of kept indices before it, and
splits the sieve where it split the list.
-/
namespace Tvic.Lib

variable {α : Type}

def sieve (keep : Nat → Bool) : List α → List α
  | [] => []
  | a :: rest => (if keep 0 then [a] else []) ++ sieve (fun index => keep (index + 1)) rest

def kept (keep : Nat → Bool) (length : Nat) : List Nat := (List.range length).filter keep

@[simp] theorem sieve_nil (keep : Nat → Bool) : sieve keep ([] : List α) = [] := rfl

theorem sieve_append (keep : Nat → Bool) (before after : List α) :
    sieve keep (before ++ after) =
      sieve keep before ++ sieve (fun index => keep (before.length + index)) after := by
  induction before generalizing keep with
  | nil => simp
  | cons a rest ih =>
    simp only [List.cons_append, sieve, ih, List.append_assoc, List.length_cons, Nat.add_right_comm]

theorem sieve_split (keep : Nat → Bool) {list : List α} {position : Nat}
    (le : position ≤ list.length) :
    sieve keep list = sieve keep (list.take position) ++
      sieve (fun index => keep (position + index)) (list.drop position) := by
  have parts := sieve_append keep (list.take position) (list.drop position)
  rwa [List.take_append_drop, List.length_take, Nat.min_eq_left le] at parts

theorem mem_sieve {keep : Nat → Bool} {list : List α} {a : α} :
    a ∈ sieve keep list ↔ ∃ index, list[index]? = some a ∧ keep index = true := by
  induction list generalizing keep with
  | nil => simp
  | cons b rest ih =>
    rw [sieve, List.mem_append, ih]
    constructor
    · rintro (first | ⟨index, found, holds⟩)
      · split at first
        next holds =>
          obtain rfl := List.mem_singleton.mp first
          exact ⟨0, rfl, holds⟩
        · cases first
      · exact ⟨index + 1, found, holds⟩
    · rintro ⟨index, found, holds⟩
      cases index with
      | zero =>
        cases found
        exact .inl (by simp [holds])
      | succ index => exact .inr ⟨index, found, holds⟩

theorem sieve_sublist (keep : Nat → Bool) (list : List α) : (sieve keep list).Sublist list := by
  induction list generalizing keep with
  | nil => exact .slnil
  | cons a rest ih =>
    rw [sieve]
    split
    · exact (ih _).cons_cons a
    · exact (ih _).cons a

theorem sieve_eq_filter {keep : Nat → Bool} {list : List α} {p : α → Bool}
    (decides : ∀ index a, list[index]? = some a → keep index = p a) :
    sieve keep list = list.filter p := by
  induction list generalizing keep with
  | nil => rfl
  | cons a rest ih =>
    rw [sieve, ih fun index b found => decides (index + 1) b found, decides 0 a rfl]
    cases holds : p a <;> simp [holds]

theorem filter_sieve_iff {keep : Nat → Bool} {list : List α} {p : α → Bool} :
    (sieve keep list).filter p = list.filter p ↔
      ∀ index a, list[index]? = some a → p a = true → keep index = true := by
  induction list generalizing keep with
  | nil => simp
  | cons a rest ih =>
    rw [sieve, List.filter_append, List.filter_cons]
    constructor
    · intro same index b found wanted
      have shorter := ((sieve_sublist (fun index => keep (index + 1)) rest).filter p).length_le
      -- an entry that is wanted and dropped would leave too few
      have first : p a = true → keep 0 = true := by
        intro holds
        by_contra dropped
        have lengths := congrArg List.length same
        simp [holds, dropped] at lengths
        omega
      cases index with
      | zero =>
        cases found
        exact first wanted
      | succ index =>
        have others := @ih fun index => keep (index + 1)
        refine others.mp ?_ index b found wanted
        cases holds : p a with
        | true => simpa [holds, first holds] using same
        | false => cases kept : keep 0 <;> simpa [holds, kept] using same
    · intro all
      rw [ih.mpr fun index b found => all (index + 1) b found]
      cases holds : p a with
      | true => simp [all 0 a rfl holds, holds]
      | false => cases kept : keep 0 <;> simp [holds]

/-- Entries without a property cannot stand before a list and leave it the start of the same
list, if the property holds further on. -/
theorem eq_nil_of_shift {p : α → Bool} {first middle last last' : List α} {a : α}
    (without : ∀ b ∈ first, p b = false) (holds : p a = true)
    (shifted : first ++ (middle ++ a :: last) = middle ++ a :: last') : first = [] := by
  induction middle generalizing first with
  | nil =>
    cases first with
    | nil => rfl
    | cons b rest =>
      obtain ⟨rfl, -⟩ := List.cons.inj shifted
      rw [without b (by simp)] at holds
      cases holds
  | cons c middle ih =>
    cases first with
    | nil => rfl
    | cons b rest =>
      obtain ⟨rfl, shifted⟩ := List.cons.inj shifted
      -- one step on, the head of the first part has gone to its end
      have moved : rest ++ [b] = [] := by
        refine ih ?_ (by simpa using shifted)
        intro d member
        refine without d ?_
        simpa [or_comm] using member
      simp at moved

theorem length_kept (keep : Nat → Bool) (list : List α) :
    (kept keep list.length).length = (sieve keep list).length := by
  induction list generalizing keep with
  | nil => rfl
  | cons a rest ih =>
    rw [sieve, List.length_append, ← ih, kept, List.length_cons, List.range_succ_eq_map,
      List.filter_cons, List.filter_map, kept]
    split
    · simp [Nat.add_comm, Function.comp_def]
    · simp [Function.comp_def]

theorem filterMap_kept (keep : Nat → Bool) (list : List α) :
    (kept keep list.length).filterMap (fun index => list[index]?) = sieve keep list := by
  induction list generalizing keep with
  | nil => rfl
  | cons a rest ih =>
    rw [sieve, ← ih, kept, List.length_cons, List.range_succ_eq_map, List.filter_cons,
      List.filter_map, kept]
    split <;> simp [List.filterMap_map, Function.comp_def]

theorem place_append (keep : Nat → Bool) (before after : List α) :
    ((kept keep (before ++ after).length).takeWhile (· < before.length)).length =
      (sieve keep before).length := by
  rw [← length_kept, kept, List.length_append, List.range_add, List.filter_append,
    List.takeWhile_append_of_pos]
  · rw [List.length_append, kept, Nat.add_eq_left, List.length_eq_zero_iff]
    -- the indices of the second part are all too large
    cases later : ((List.range after.length).map (before.length + ·)).filter keep with
    | nil => rfl
    | cons first others =>
      have member : first ∈ ((List.range after.length).map (before.length + ·)).filter keep := by
        simp [later]
      obtain ⟨index, -, rfl⟩ := List.mem_map.mp (List.mem_filter.mp member).1
      exact List.takeWhile_cons_of_neg (by simp)
  · intro index member
    simpa using List.mem_range.mp (List.mem_filter.mp member).1

theorem sieve_eq_self {keep : Nat → Bool} {list : List α}
    (all : (kept keep list.length).length = list.length) : sieve keep list = list :=
  (sieve_sublist keep list).eq_of_length (by rw [← length_kept, all])

end Tvic.Lib
