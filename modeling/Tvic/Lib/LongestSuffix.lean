import Mathlib.Data.List.Basic

/-!
# The longest suffix that fits

What remains of a sequence when only its last elements fit a budget. A budget is closed if whatever
fits still fits without its first element; under a closed budget, adding elements from the back until
one does not fit finds the longest suffix.
-/
namespace Tvic.Lib

variable {α : Type}

def longestSuffix (fits : List α → Bool) : List α → List α
  | [] => []
  | first :: rest => if fits (first :: rest) then first :: rest else longestSuffix fits rest

def ClosedBudget (fits : List α → Bool) : Prop :=
  ∀ first rest, fits (first :: rest) = true → fits rest = true

variable {fits : List α → Bool}

theorem longestSuffix_suffix (elements : List α) : longestSuffix fits elements <:+ elements := by
  induction elements with
  | nil => exact List.suffix_rfl
  | cons first rest ih =>
    rw [longestSuffix]
    split
    · exact List.suffix_rfl
    · exact ih.trans (List.suffix_cons first rest)

theorem longestSuffix_fits {elements : List α} (some : longestSuffix fits elements ≠ []) :
    fits (longestSuffix fits elements) = true := by
  induction elements with
  | nil => exact absurd rfl some
  | cons first rest ih =>
    rw [longestSuffix] at some ⊢
    split
    next fit => exact fit
    next beyond =>
      rw [if_neg beyond] at some
      exact ih some

theorem longestSuffix_of_fits {elements : List α} (fit : fits elements = true) :
    longestSuffix fits elements = elements := by
  cases elements with
  | nil => rfl
  | cons first rest => rw [longestSuffix, if_pos fit]

theorem longestSuffix_longest {elements suffix : List α} (within : suffix <:+ elements)
    (fit : fits suffix = true) : suffix <:+ longestSuffix fits elements := by
  induction elements with
  | nil => exact within
  | cons first rest ih =>
    rw [longestSuffix]
    split
    next => exact within
    next beyond =>
      rcases List.suffix_cons_iff.mp within with rfl | later
      · exact absurd fit beyond
      · exact ih later

theorem ClosedBudget.of_append (closed : ClosedBudget fits) (dropped : List α) {rest : List α}
    (fit : fits (dropped ++ rest) = true) : fits rest = true := by
  induction dropped with
  | nil => exact fit
  | cons first later ih => exact ih (closed first (later ++ rest) fit)

theorem longestSuffix_stop (closed : ClosedBudget fits) (dropped : List α) {beyond : α}
    {kept : List α} (fit : kept = [] ∨ fits kept = true) (tooMuch : fits (beyond :: kept) = false) :
    longestSuffix fits (dropped ++ beyond :: kept) = kept := by
  have keptAll : longestSuffix fits kept = kept := by
    rcases fit with rfl | fit
    · rfl
    · exact longestSuffix_of_fits fit
  induction dropped with
  | nil => rw [List.nil_append, longestSuffix, tooMuch, if_neg Bool.false_ne_true, keptAll]
  | cons first rest ih =>
    -- a suffix that starts earlier contains the one that is too much
    have excess : fits (first :: (rest ++ beyond :: kept)) = false := by
      by_contra fit
      rw [Bool.not_eq_false] at fit
      have inner := closed.of_append (first :: rest) fit
      rw [tooMuch] at inner
      cases inner
    rw [List.cons_append, longestSuffix, excess, if_neg Bool.false_ne_true, ih]

end Tvic.Lib
