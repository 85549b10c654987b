import Mathlib.Data.List.DropRight

/-!
# Trimming, and what a text spells out

`trim blank` takes what is blank off both ends of a list. A list spells out some words when it is
their trimmed units in order, with nothing but blanks before, between and after them; joining one
more word behind a blank and trimming again keeps that.
-/
namespace Tvic.Lib

variable {α : Type*} (blank : α → Bool)

def trim (text : List α) : List α := (text.dropWhile blank).rdropWhile blank

/-- The words stand in the text in order, each once, and the rest of it is blank. -/
def SpellsOut : List (List α) → List α → Prop
  | [], text => ∀ unit ∈ text, blank unit = true
  | word :: rest, text => ∃ gap after, text = gap ++ (trim blank word ++ after) ∧
      (∀ unit ∈ gap, blank unit = true) ∧ SpellsOut rest after

variable {blank}

@[simp] theorem trim_nil : trim blank ([] : List α) = [] := rfl

variable {text : List α}

theorem rdropWhile_eq_nil (all : ∀ unit ∈ text, blank unit = true) :
    text.rdropWhile blank = [] := List.rdropWhile_eq_nil_iff.mpr all

theorem rdropWhile_append_of_ne_nil (first : List α) {second : List α}
    (kept : second.rdropWhile blank ≠ []) :
    (first ++ second).rdropWhile blank = first ++ second.rdropWhile blank := by
  induction second using List.reverseRecOn with
  | nil => exact absurd rfl kept
  | append_singleton rest last ih =>
    rw [← List.append_assoc, List.rdropWhile_concat, List.rdropWhile_concat]
    split
    · next isBlank => exact ih (by rwa [List.rdropWhile_concat, if_pos isBlank] at kept)
    · rw [List.append_assoc]

theorem rdropWhile_append_of_eq_nil (first : List α) {second : List α}
    (gone : second.rdropWhile blank = []) :
    (first ++ second).rdropWhile blank = first.rdropWhile blank := by
  induction second using List.reverseRecOn with
  | nil => rw [List.append_nil]
  | append_singleton rest last ih =>
    rw [List.rdropWhile_concat] at gone
    split at gone
    · next isBlank => rw [← List.append_assoc, List.rdropWhile_concat, if_pos isBlank, ih gone]
    · simp at gone

theorem rdropWhile_trim (text : List α) : (trim blank text).rdropWhile blank = trim blank text :=
  List.rdropWhile_idempotent _ _

variable (blank) in
theorem trim_gaps (text : List α) : ∃ before after, text = before ++ (trim blank text ++ after) ∧
    (∀ unit ∈ before, blank unit = true) ∧ ∀ unit ∈ after, blank unit = true := by
  refine ⟨text.takeWhile blank, (text.dropWhile blank).rtakeWhile blank, ?_, ?_, ?_⟩
  · rw [trim, List.rdropWhile_append_rtakeWhile, List.takeWhile_append_dropWhile]
  · exact fun unit member => List.mem_takeWhile_imp member
  · exact fun unit member => List.mem_rtakeWhile_imp member

theorem trim_eq_nil_iff :
    trim blank text = [] ↔ ∀ unit ∈ text, blank unit = true := by
  constructor
  · intro empty
    obtain ⟨before, after, whole, beforeBlank, afterBlank⟩ := trim_gaps blank text
    rw [empty, List.nil_append] at whole
    rw [whole]
    exact fun unit member => (List.mem_append.mp member).elim (beforeBlank unit) (afterBlank unit)
  · intro all
    rw [trim, List.dropWhile_eq_nil_iff.mpr all]
    rfl

namespace SpellsOut

variable {words : List (List α)}

theorem trim_eq_nil (spelled : SpellsOut blank words []) :
    ∀ word ∈ words, Lib.trim blank word = [] := by
  induction words with
  | nil => simp
  | cons word rest ih =>
    obtain ⟨gap, after, whole, -, next⟩ := spelled
    simp only [List.nil_eq, List.append_eq_nil_iff] at whole
    rw [whole.2.2] at next
    exact List.forall_mem_cons.mpr ⟨whole.2.1, ih next⟩

theorem snoc (spelled : SpellsOut blank words text) (gap word : List α)
    (gapBlank : ∀ unit ∈ gap, blank unit = true) :
    SpellsOut blank (words ++ [word]) (text ++ (gap ++ word)) := by
  induction words generalizing text with
  | nil =>
    obtain ⟨before, after, whole, beforeBlank, afterBlank⟩ := trim_gaps blank word
    refine ⟨text ++ (gap ++ before), after, ?_, ?_, afterBlank⟩
    · conv_lhs => rw [whole]
      simp only [List.append_assoc]
    · simp only [List.mem_append]
      rintro unit (inText | inGap | inBefore)
      · exact spelled unit inText
      · exact gapBlank unit inGap
      · exact beforeBlank unit inBefore
  | cons first rest ih =>
    obtain ⟨before, after, rfl, beforeBlank, next⟩ := spelled
    exact ⟨before, after ++ (gap ++ word), by simp only [List.append_assoc], beforeBlank, ih next⟩

theorem dropWhile (spelled : SpellsOut blank words text) :
    SpellsOut blank words (text.dropWhile blank) := by
  induction words generalizing text with
  | nil => exact fun unit member => spelled unit (List.dropWhile_suffix _ |>.subset member)
  | cons word rest ih =>
    obtain ⟨gap, after, rfl, gapBlank, next⟩ := spelled
    rw [List.dropWhile_append_of_pos gapBlank]
    cases shape : trim blank word with
    | nil => exact ⟨[], after.dropWhile blank, by rw [shape]; rfl, by simp, ih next⟩
    | cons unit units =>
      -- A trimmed word does not begin with a blank, so that nothing more is dropped.
      have solid : blank unit = false := by
        have head : ∀ dropped : List α, dropped = word.dropWhile blank →
            dropped.rdropWhile blank = unit :: units → blank unit = false := by
          intro dropped isDropped kept
          obtain ⟨tail, whole⟩ := List.rdropWhile_prefix blank (l := dropped)
          rw [kept, isDropped] at whole
          have := List.head?_dropWhile_not blank word
          rw [← whole] at this
          simpa using this
        exact head _ rfl shape
      rw [List.cons_append, List.dropWhile_cons_of_neg (by simp [solid])]
      exact ⟨[], after, by rw [shape]; rfl, by simp, next⟩

theorem rdropWhile (spelled : SpellsOut blank words text) :
    SpellsOut blank words (text.rdropWhile blank) := by
  induction words generalizing text with
  | nil => exact fun unit member => spelled unit ((List.rdropWhile_prefix _ _).subset member)
  | cons word rest ih =>
    obtain ⟨gap, after, rfl, gapBlank, next⟩ := spelled
    by_cases gone : after.rdropWhile blank = []
    · -- Everything behind this word goes, and the word itself stays.
      have last := ih next
      rw [gone] at last
      rw [← List.append_assoc, rdropWhile_append_of_eq_nil _ gone]
      by_cases empty : trim blank word = []
      · rw [empty, List.append_nil, rdropWhile_eq_nil gapBlank]
        exact ⟨[], [], by rw [empty]; rfl, by simp, last⟩
      · rw [rdropWhile_append_of_ne_nil _ (by rwa [rdropWhile_trim]), rdropWhile_trim]
        exact ⟨gap, [], by rw [List.append_nil], gapBlank, last⟩
    · rw [← List.append_assoc, rdropWhile_append_of_ne_nil _ gone, List.append_assoc]
      exact ⟨gap, after.rdropWhile blank, rfl, gapBlank, ih next⟩

theorem trim (spelled : SpellsOut blank words text) :
    SpellsOut blank words (trim blank text) := spelled.dropWhile.rdropWhile

end SpellsOut

end Tvic.Lib
