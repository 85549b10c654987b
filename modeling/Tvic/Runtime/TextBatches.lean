import Mathlib.Data.List.Induction
import Tvic.Runtime.IncrementalTtsDelivery

/-!
# When the splitting of a text ends

A round of `splitTextIntoBatches` takes what the scan has found to fit. A character that does not fit in a
batch by itself is never taken: once it comes first, every round leaves the text as it is.
-/
namespace Tvic

open Lib

theorem characters_fit_of_splitRounds {maximum rounds : Nat} {text : Text} {batches : List Text}
    (ended : splitRounds maximum rounds text = some batches) :
    ∀ character ∈ characters text, character.length ≤ maximum := by
  have within (text : Text) (short : text.length ≤ maximum) :
      ∀ character ∈ characters text, character.length ≤ maximum := by
    intro character member
    have part := List.Sublist.length_le (List.sublist_flatten_of_mem member)
    rw [characters_flatten] at part
    exact Nat.le_trans part short
  induction rounds generalizing text batches with
  | zero =>
    rw [splitRounds] at ended
    split at ended
    next => cases ended
    next short => exact within text (Nat.not_lt.mp short)
  | succ rounds ih =>
    rw [splitRounds] at ended
    split at ended
    next long =>
      -- what is taken fits, and so does what is left
      obtain ⟨later, laterEnded, -⟩ := Option.map_eq_some_iff.mp ended
      obtain ⟨-, -, -, -, bounded, -⟩ := findBatchBoundary_spec text maximum
      rw [← characters_take_drop_boundary text maximum]
      intro character member
      rcases List.mem_append.mp member with taken | left
      · exact within _ (by rw [List.length_take]; omega) character taken
      · exact ih laterEnded character left
    next short => exact within text (Nat.not_lt.mp short)

theorem exists_pair_of_splitsPair {left right : Text} (parted : splitsPair left right = true) :
    ∃ before high low after, left = before ++ [high] ∧ right = low :: after ∧
      isHighSurrogate high = true ∧ isLowSurrogate low = true := by
  rw [splitsPair, Bool.and_eq_true] at parted
  obtain ⟨ends, starts⟩ := parted
  induction left using List.reverseRecOn with
  | nil => cases ends
  | append_singleton before high _ =>
    cases right with
    | nil => cases starts
    | cons low after =>
      rw [endsHigh_append_of_ne_nil before (List.cons_ne_nil high [])] at ends
      exact ⟨before, high, low, after, rfl, rfl, ends, starts⟩

theorem noPair_of_characters {text : Text} (single : ∀ character ∈ characters text, character.length ≤ 1) :
    NoPair text := by
  rintro left right rfl
  rw [← Bool.not_eq_true]
  intro parted
  obtain ⟨before, high, low, after, rfl, rfl, isHigh, isLow⟩ := exists_pair_of_splitsPair parted
  -- The pair is a character, since no pair ends with its high half.
  have notLow : isLowSurrogate high = false := by
    rw [← Bool.not_eq_true]
    intro alsoLow
    rw [isHighSurrogate_of_low alsoLow] at isHigh
    cases isHigh
  have apart : splitsPair before (high :: low :: after) = false := by
    rw [splitsPair, startsLow_cons, notLow, Bool.and_false]
  have pair : [high, low] ∈ characters (before ++ [high] ++ low :: after) := by
    rw [List.append_assoc, List.singleton_append, characters_append apart, characters, isHigh, isLow]
    simp
  exact absurd (single _ pair) (by simp)

/-- The splitting of a text ends, in non-empty batches within the bound that make it up and part no pair,
exactly if a batch can hold a surrogate pair or the text has none. -/
theorem splitTextIntoBatches_iff (text : Text) {maximumCharacters : Nat} (positive : 1 ≤ maximumCharacters) :
    (∃ rounds batches, splitRounds maximumCharacters rounds text = some batches ∧ batches.flatten = text ∧
      (∀ batch ∈ batches, batch ≠ [] ∧ batch.length ≤ maximumCharacters) ∧
      ∀ first second, batches = first ++ second → splitsPair first.flatten second.flatten = false) ↔
    2 ≤ maximumCharacters ∨ NoPair text := by
  constructor
  · rintro ⟨rounds, batches, ended, -⟩
    have fit := characters_fit_of_splitRounds ended
    rcases Nat.lt_or_ge 1 maximumCharacters with room | tight
    · exact .inl room
    · exact .inr (noPair_of_characters fun character member => Nat.le_trans (fit character member) tight)
  · intro room
    have fit := characters_fit [] text [] positive room (by simp)
    obtain ⟨batches, ended, batched, sized⟩ := splitRounds_spec text (Nat.le_refl _) fit
    refine ⟨_, batches, ended, by rw [batched.flatten, characters_flatten], sized, ?_⟩
    rintro first second rfl
    exact batched.splitsPair_eq_false (areCharacters_characters text)

theorem splitTextIntoBatches_iff_words :
    ∃ rounds batches, splitRounds 8 rounds (utf16 "Hello world.") = some batches ∧
      batches.flatten = utf16 "Hello world." ∧
      (∀ batch ∈ batches, batch ≠ [] ∧ batch.length ≤ 8) ∧
      ∀ first second, batches = first ++ second → splitsPair first.flatten second.flatten = false :=
  (splitTextIntoBatches_iff (utf16 "Hello world.") (by decide)).mpr (.inl (by decide))

/-- A pair is not split into batches of one unit, whatever the number of rounds. -/
theorem splitTextIntoBatches_pair :
    ¬ ∃ rounds batches, splitRounds 1 rounds [0xD83D, 0xDE00] = some batches ∧
      batches.flatten = [0xD83D, 0xDE00] ∧
      (∀ batch ∈ batches, batch ≠ [] ∧ batch.length ≤ 1) ∧
      ∀ first second, batches = first ++ second → splitsPair first.flatten second.flatten = false := by
  rintro ⟨rounds, batches, ended, -⟩
  exact absurd (characters_fit_of_splitRounds ended [0xD83D, 0xDE00] (by decide)) (by decide)

end Tvic
