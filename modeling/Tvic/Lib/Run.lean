import Mathlib.Data.List.Basic
import Mathlib.Data.List.Induction

/-!
# Runs of a step function under a clock

A store is a step function on its state. A run is the list of its calls, and what is said of
a run is said of a list of calls: invariants are proved by adding one call at the end
(`List.reverseRecOn`), with `run_snoc` and `history_snoc` to peel the last call off.

Calls may carry a clock reading. `Nondecreasing` is a clock that never goes back, `Upto` says
that a moment lies after every reading of a run.
-/
namespace Tvic.Lib

variable {σ ε α : Type*}

/-- The state a run ends in. -/
def run (step : σ → ε → σ) (start : σ) (calls : List ε) : σ :=
  calls.foldl step start

/-- What an observer of single calls has seen by the end of a run, oldest first. -/
def history (step : σ → ε → σ) (observe : σ → ε → Option α) : σ → List ε → List α
  | _, [] => []
  | s, call :: rest => (observe s call).toList ++ history step observe (step s call) rest

@[simp] theorem run_nil (step : σ → ε → σ) (start : σ) : run step start [] = start := rfl

@[simp] theorem run_cons (step : σ → ε → σ) (start : σ) (call : ε) (rest : List ε) :
    run step start (call :: rest) = run step (step start call) rest := rfl

theorem run_append (step : σ → ε → σ) (start : σ) (before after : List ε) :
    run step start (before ++ after) = run step (run step start before) after :=
  List.foldl_append

@[simp] theorem run_snoc (step : σ → ε → σ) (start : σ) (calls : List ε) (last : ε) :
    run step start (calls ++ [last]) = step (run step start calls) last := by
  rw [run_append, run_cons, run_nil]

theorem history_append (step : σ → ε → σ) (observe : σ → ε → Option α) (start : σ)
    (before after : List ε) :
    history step observe start (before ++ after) =
      history step observe start before ++ history step observe (run step start before) after := by
  induction before generalizing start with
  | nil => rfl
  | cons call rest ih => simp only [List.cons_append, history, run_cons, ih, List.append_assoc]

@[simp] theorem history_snoc (step : σ → ε → σ) (observe : σ → ε → Option α) (start : σ)
    (calls : List ε) (last : ε) :
    history step observe start (calls ++ [last]) =
      history step observe start calls ++ (observe (run step start calls) last).toList := by
  simp [history_append, history]

theorem run_invariant (step : σ → ε → σ) (P : σ → Prop)
    (preserved : ∀ s call, P s → P (step s call)) (start : σ) (initial : P start)
    (calls : List ε) : P (run step start calls) := by
  induction calls using List.reverseRecOn with
  | nil => exact initial
  | append_singleton calls last ih => rw [run_snoc]; exact preserved _ last ih

section Admitted

variable {admits : σ → ε → Prop} {step : σ → ε → σ}

/-- Every call of a run is made in a state that admits it. -/
def Admitted (admits : σ → ε → Prop) (step : σ → ε → σ) : σ → List ε → Prop
  | _, [] => True
  | s, call :: rest => admits s call ∧ Admitted admits step (step s call) rest

@[simp] theorem admitted_cons {start : σ} {call : ε} {rest : List ε} :
    Admitted admits step start (call :: rest) ↔
      admits start call ∧ Admitted admits step (step start call) rest := Iff.rfl

instance decidableAdmitted [∀ s call, Decidable (admits s call)] :
    (start : σ) → (calls : List ε) → Decidable (Admitted admits step start calls)
  | _, [] => .isTrue trivial
  | start, call :: rest =>
    have := decidableAdmitted (step start call) rest
    inferInstanceAs (Decidable (admits start call ∧ Admitted admits step (step start call) rest))

theorem run_invariant_of_admitted (P : σ → Prop)
    (preserved : ∀ s call, admits s call → P s → P (step s call)) {start : σ} (initial : P start)
    {calls : List ε} (admitted : Admitted admits step start calls) :
    P (run step start calls) := by
  induction calls generalizing start with
  | nil => exact initial
  | cons call rest ih =>
    have next : P (step start call) := preserved start call admitted.1 initial
    exact ih next admitted.2

end Admitted

section Clock

variable (time : ε → Option Nat)

/-- The clock never goes back from one reading to the next. -/
def Nondecreasing (calls : List ε) : Prop :=
  (calls.filterMap time).Pairwise (· ≤ ·)

/-- The moment `t` is no earlier than any reading of the run. -/
def Upto (calls : List ε) (t : Nat) : Prop :=
  ∀ n ∈ calls.filterMap time, n ≤ t

/-- Every reading of the run is at `t` or later. -/
def Since (t : Nat) (calls : List ε) : Prop :=
  ∀ n ∈ calls.filterMap time, t ≤ n

variable {time}

theorem upto_append {before after : List ε} {t : Nat} :
    Upto time (before ++ after) t ↔ Upto time before t ∧ Upto time after t := by
  simp only [Upto, List.filterMap_append, List.mem_append, or_imp, forall_and]

theorem since_append {before after : List ε} {t : Nat} :
    Since time t (before ++ after) ↔ Since time t before ∧ Since time t after := by
  simp only [Since, List.filterMap_append, List.mem_append, or_imp, forall_and]

theorem upto_singleton {call : ε} {t : Nat} : Upto time [call] t ↔ ∀ n ∈ time call, n ≤ t := by
  cases reading : time call <;> simp [Upto, reading]

theorem since_singleton {call : ε} {t : Nat} : Since time t [call] ↔ ∀ n ∈ time call, t ≤ n := by
  cases reading : time call <;> simp [Since, reading]

theorem nondecreasing_append {before after : List ε} :
    Nondecreasing time (before ++ after) ↔
      Nondecreasing time before ∧ Nondecreasing time after ∧
        ∀ n ∈ after.filterMap time, Upto time before n := by
  simp only [Nondecreasing, List.filterMap_append, List.pairwise_append, Upto]
  constructor
  · rintro ⟨first, second, across⟩
    exact ⟨first, second, fun n late m early => across m early n late⟩
  · rintro ⟨first, second, across⟩
    exact ⟨first, second, fun m early n late => across n late m early⟩

theorem Nondecreasing.before {before after : List ε}
    (clock : Nondecreasing time (before ++ after)) : Nondecreasing time before :=
  (nondecreasing_append.mp clock).1

end Clock

end Tvic.Lib
