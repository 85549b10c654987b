import Mathlib.Data.List.Basic

/-!
# Logs

A log grows at its end. `Follows` says of every entry what the log held before it; a log that has
it keeps it when the new entry has it too. `SinceLast` says that something has come up and nothing that
matters has happened since.
-/
namespace Tvic.Lib

variable {α : Type}

/-- Every entry is one that may follow what the log holds before it. -/
def Follows (may : List α → α → Prop) (log : List α) : Prop :=
  ∀ before a after, log = before ++ a :: after → may before a

variable {may : List α → α → Prop} {log : List α} {a : α}

theorem follows_nil : Follows may ([] : List α) := by
  intro before a after split
  simp at split

theorem follows_snoc_iff : Follows may (log ++ [a]) ↔ Follows may log ∧ may log a := by
  constructor
  · intro follows
    refine ⟨fun before b after split => ?_, follows log a [] rfl⟩
    exact follows before b (after ++ [a]) (by simp [split])
  · rintro ⟨follows, last⟩ before b after split
    rcases List.eq_nil_or_concat after with rfl | ⟨after, c, rfl⟩
    · obtain ⟨rfl, same⟩ := List.append_inj' split rfl
      obtain rfl := List.singleton_inj.mp same
      exact last
    · rw [List.concat_eq_append, ← List.cons_append, ← List.append_assoc] at split
      obtain ⟨rfl, -⟩ := List.append_inj' split rfl
      exact follows before b after rfl

theorem Follows.append {extra : List α} (follows : Follows may log)
    (free : ∀ a ∈ extra, ∀ before, may before a) : Follows may (log ++ extra) := by
  induction extra generalizing log with
  | nil => simpa using follows
  | cons a extra ih =>
    have first : Follows may (log ++ [a]) :=
      follows_snoc_iff.mpr ⟨follows, free a (by simp) log⟩
    simpa using ih first fun b member => free b (by simp [member])

/-- An entry that opens has come up, and every entry after it is quiet. -/
def SinceLast (opens quiet : α → Prop) (log : List α) : Prop :=
  ∃ before a after, log = before ++ a :: after ∧ opens a ∧ ∀ b ∈ after, quiet b

variable {opens quiet : α → Prop}

theorem SinceLast.of_opens (log : List α) (opened : opens a) : SinceLast opens quiet (log ++ [a]) :=
  ⟨log, a, [], rfl, opened, by simp⟩

theorem SinceLast.append {extra : List α} (since : SinceLast opens quiet log)
    (silent : ∀ b ∈ extra, quiet b) : SinceLast opens quiet (log ++ extra) := by
  obtain ⟨before, a, after, rfl, opened, still⟩ := since
  refine ⟨before, a, after ++ extra, by simp, opened, fun b member => ?_⟩
  rcases List.mem_append.mp member with early | late
  · exact still b early
  · exact silent b late

theorem SinceLast.snoc (since : SinceLast opens quiet log) (silent : quiet a) :
    SinceLast opens quiet (log ++ [a]) :=
  since.append fun b member => by rwa [List.mem_singleton.mp member]

theorem SinceLast.exists_between {before after : List α} (since : SinceLast opens quiet (before ++ a :: after))
    (loud : ¬ quiet a) (other : ¬ opens a) : SinceLast opens quiet after := by
  obtain ⟨before', b, after', split, opened, still⟩ := since
  rcases List.append_eq_append_iff.mp split with ⟨mid, rfl, same⟩ | ⟨mid, rfl, same⟩
  · cases mid with
    | nil =>
      obtain ⟨rfl, -⟩ := List.cons.inj same
      exact absurd opened other
    | cons c mid =>
      obtain ⟨rfl, rfl⟩ := List.cons.inj same
      exact ⟨mid, b, after', rfl, opened, still⟩
  · cases mid with
    | nil =>
      obtain ⟨rfl, -⟩ := List.cons.inj same
      exact absurd opened other
    | cons c mid =>
      obtain ⟨rfl, rfl⟩ := List.cons.inj same
      exact absurd (still a (by simp)) loud

end Tvic.Lib
