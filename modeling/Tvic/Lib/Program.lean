import Mathlib.Logic.Basic

/-!
# Programs that run step by step

An asynchronous operation touches the shared state in steps, with other work in between. A
`Program` is such an operation: each step takes an input from outside (a clock reading, a random
identifier, an answer), writes the state and says how to go on. `ExceptT` adds rejection.

`Triple` is the usual pre- and postcondition of a whole run, with one postcondition for a result
and one for a rejection. The rules follow the constructors of a program.
-/
namespace Tvic.Lib

inductive Program (ι σ α : Type) where
  | done (result : α)
  | step (write : ι → σ → σ) (rest : ι → σ → Program ι σ α)

namespace Program

variable {ι σ ε α β : Type}

def bind : Program ι σ α → (α → Program ι σ β) → Program ι σ β
  | .done a, f => f a
  | .step write rest, f => .step write fun input s => (rest input s).bind f

instance : Monad (Program ι σ) where
  pure := .done
  bind := bind

/-- Runs a program on a list of inputs: the state it leaves and what is left to run. -/
def exec : Program ι σ α → List ι → σ → σ × Program ι σ α
  | p, [], s => (s, p)
  | .done a, _ :: _, s => (s, .done a)
  | .step write rest, input :: inputs, s => (rest input s).exec inputs (write input s)

@[simp] theorem exec_nil (p : Program ι σ α) (s : σ) : p.exec [] s = (s, p) := by
  cases p <;> rfl

@[simp] theorem exec_done (a : α) (inputs : List ι) (s : σ) :
    (Program.done a).exec inputs s = (s, .done a) := by
  cases inputs <;> rfl

theorem exec_append (p : Program ι σ α) (first second : List ι) (s : σ) :
    p.exec (first ++ second) s = (p.exec first s).2.exec second (p.exec first s).1 := by
  induction first generalizing p s with
  | nil => simp
  | cons input first ih =>
    cases p with
    | done a => simp
    | step write rest => exact ih _ _

/-- One step that computes a result, or rejects, and the new state. -/
def atomic (f : ι → σ → Except ε α × σ) : ExceptT ε (Program ι σ) α :=
  ExceptT.mk (.step (fun input s => (f input s).2) fun input s => .done (f input s).1)

end Program

/-- An operation that may reject. -/
abbrev Async (ι σ ε : Type) := ExceptT ε (Program ι σ)

variable {ι σ ε α β : Type}

/-- Every run of the program from a state with `pre` to its end leaves a state with `post`. -/
def Program.Triple (pre : σ → Prop) (p : Program ι σ α) (post : α → σ → Prop) : Prop :=
  ∀ s inputs s' a, pre s → p.exec inputs s = (s', .done a) → post a s'

namespace Program.Triple

variable {pre : σ → Prop} {post : α → σ → Prop}

theorem done {a : α} (holds : ∀ s, pre s → post a s) :
    Triple pre (.done a : Program ι σ α) post := by
  intro s inputs s' result start ends
  rw [exec_done] at ends
  cases ends
  exact holds s start

theorem step {write : ι → σ → σ} {rest : ι → σ → Program ι σ α}
    (next : ∀ input s, pre s → Triple (· = write input s) (rest input s) post) :
    Triple pre (.step write rest) post := by
  intro s inputs s' result start ends
  cases inputs with
  | nil => cases ends
  | cons input inputs => exact next input s start _ inputs s' result rfl ends

private theorem exec_bind (p : Program ι σ α) (f : α → Program ι σ β) {inputs : List ι}
    {s s' : σ} {b : β} (ends : (p.bind f).exec inputs s = (s', .done b)) :
    ∃ first second middle a, inputs = first ++ second ∧ p.exec first s = (middle, .done a) ∧
      (f a).exec second middle = (s', .done b) := by
  induction p generalizing inputs s with
  | done a => exact ⟨[], inputs, s, a, rfl, exec_nil .., ends⟩
  | step write rest ih =>
    cases inputs with
    | nil => cases ends
    | cons input inputs =>
      obtain ⟨first, second, middle, a, rfl, before, after⟩ := ih input s ends
      exact ⟨input :: first, second, middle, a, rfl, before, after⟩

theorem bind {p : Program ι σ α} {f : α → Program ι σ β} {post' : β → σ → Prop}
    (first : Triple pre p post) (next : ∀ a, Triple (post a) (f a) post') :
    Triple pre (p.bind f) post' := by
  intro s inputs s' b start ends
  obtain ⟨before, after, middle, a, -, ran, goes⟩ := exec_bind p f ends
  exact next a middle after s' b (first s before middle a start ran) goes

theorem consequence {pre' : σ → Prop} {post' : α → σ → Prop} {p : Program ι σ α}
    (triple : Triple pre p post) (before : ∀ s, pre' s → pre s)
    (after : ∀ a s, post a s → post' a s) : Triple pre' p post' := by
  intro s inputs s' a start ends
  exact after a s' (triple s inputs s' a (before s start) ends)

end Program.Triple

def Settles (post : α → σ → Prop) (raised : ε → σ → Prop) : Except ε α → σ → Prop
  | .ok a => post a
  | .error e => raised e

/-- The triple of an operation that may reject, with a postcondition for either end. -/
def Triple (pre : σ → Prop) (p : Async ι σ ε α) (post : α → σ → Prop) (raised : ε → σ → Prop) :
    Prop :=
  Program.Triple pre p.run (Settles post raised)

namespace Triple

variable {pre : σ → Prop} {post : α → σ → Prop} {raised : ε → σ → Prop}

theorem pure {a : α} (holds : ∀ s, pre s → post a s) :
    Triple pre (Pure.pure a : Async ι σ ε α) post raised :=
  Program.Triple.done holds

theorem throw {e : ε} (holds : ∀ s, pre s → raised e s) :
    Triple pre (MonadExcept.throw e : Async ι σ ε α) post raised :=
  Program.Triple.done holds

theorem done {result : Except ε α} (holds : ∀ s, pre s → Settles post raised result s) :
    Triple pre (ExceptT.mk (.done result) : Async ι σ ε α) post raised :=
  Program.Triple.done holds

theorem step {write : ι → σ → σ} {rest : ι → σ → Program ι σ (Except ε α)}
    (next : ∀ input s, pre s → Triple (· = write input s) (ExceptT.mk (rest input s)) post raised) :
    Triple pre (ExceptT.mk (.step write rest) : Async ι σ ε α) post raised :=
  Program.Triple.step next

theorem atomic {f : ι → σ → Except ε α × σ}
    (holds : ∀ input s, pre s → Settles post raised (f input s).1 (f input s).2) :
    Triple pre (Program.atomic f) post raised := by
  apply Program.Triple.step
  intro input s start
  apply Program.Triple.done
  rintro s' rfl
  exact holds input s start

variable {p : Async ι σ ε α}

theorem consequence {pre' : σ → Prop} {post' : α → σ → Prop} {raised' : ε → σ → Prop}
    (triple : Triple pre p post raised) (before : ∀ s, pre' s → pre s)
    (after : ∀ a s, post a s → post' a s) (failed : ∀ e s, raised e s → raised' e s) :
    Triple pre' p post' raised' := by
  refine Program.Triple.consequence triple before ?_
  rintro (e | a) s holds
  · exact failed e s holds
  · exact after a s holds

theorem given {fact : Prop} (known : ∀ s, pre s → fact) (triple : fact → Triple pre p post raised) :
    Triple pre p post raised :=
  fun s inputs s' a start ends => triple (known s start) s inputs s' a start ends

theorem bind {f : α → Async ι σ ε β} {post' : β → σ → Prop} (first : Triple pre p post raised)
    (next : ∀ a, Triple (post a) (f a) post' raised) :
    Triple pre (p >>= f) post' raised := by
  show Program.Triple pre (Program.bind p.run (ExceptT.bindCont f)) (Settles post' raised)
  refine Program.Triple.bind first ?_
  rintro (e | a)
  · exact Program.Triple.done fun s holds => holds
  · exact next a

theorem bind_value {f : α → Async ι σ ε β} {value : α} {middle : σ → Prop} {post' : β → σ → Prop}
    (first : Triple pre p (fun a s => a = value ∧ middle s) raised)
    (next : Triple middle (f value) post' raised) : Triple pre (p >>= f) post' raised := by
  refine first.bind fun a => given (fun _ holds => holds.1) ?_
  rintro rfl
  exact next.consequence (fun _ holds => holds.2) (fun _ _ => id) fun _ _ => id

theorem tryCatch {handle : ε → Async ι σ ε α} {raised' : ε → σ → Prop}
    (body : Triple pre p post raised) (handler : ∀ e, Triple (raised e) (handle e) post raised') :
    Triple pre (tryCatchThe ε p handle) post raised' := by
  refine Program.Triple.bind body ?_
  rintro (e | a)
  · exact handler e
  · exact Program.Triple.done fun s holds => holds

end Triple

/-! ### Runs on admitted inputs

What an operation does may rest on what comes in from outside. Its triple then speaks of the runs
whose inputs are all admitted. -/

/-- Every run on admitted inputs from a state with `pre` to its end leaves one with `post`. -/
def Program.TripleOn (admits : ι → Prop) (pre : σ → Prop) (p : Program ι σ α)
    (post : α → σ → Prop) : Prop :=
  ∀ s inputs s' a, (∀ input ∈ inputs, admits input) → pre s → p.exec inputs s = (s', .done a) →
    post a s'

namespace Program.TripleOn

variable {admits : ι → Prop} {pre : σ → Prop} {post : α → σ → Prop}

theorem done {a : α} (holds : ∀ s, pre s → post a s) :
    TripleOn admits pre (.done a : Program ι σ α) post :=
  fun s inputs s' result _ => Triple.done holds s inputs s' result

theorem step {write : ι → σ → σ} {rest : ι → σ → Program ι σ α}
    (next : ∀ input s, admits input → pre s →
      TripleOn admits (· = write input s) (rest input s) post) :
    TripleOn admits pre (.step write rest) post := by
  intro s inputs s' result admitted start ends
  cases inputs with
  | nil => cases ends
  | cons input inputs =>
    obtain ⟨first, others⟩ := List.forall_mem_cons.mp admitted
    exact next input s first start _ inputs s' result others rfl ends

theorem bind {p : Program ι σ α} {f : α → Program ι σ β} {post' : β → σ → Prop}
    (first : TripleOn admits pre p post) (next : ∀ a, TripleOn admits (post a) (f a) post') :
    TripleOn admits pre (p.bind f) post' := by
  intro s inputs s' b admitted start ends
  obtain ⟨before, after, middle, a, rfl, ran, goes⟩ := Triple.exec_bind p f ends
  obtain ⟨early, late⟩ := List.forall_mem_append.mp admitted
  exact next a middle after s' b late (first s before middle a early start ran) goes

end Program.TripleOn

/-- The same for an operation that may reject, with a postcondition for either end. -/
def TripleOn (admits : ι → Prop) (pre : σ → Prop) (p : Async ι σ ε α) (post : α → σ → Prop)
    (raised : ε → σ → Prop) : Prop :=
  Program.TripleOn admits pre p.run (Settles post raised)

namespace TripleOn

variable {admits : ι → Prop} {pre : σ → Prop} {post : α → σ → Prop} {raised : ε → σ → Prop}

variable {p : Async ι σ ε α}

theorem of_triple (triple : Triple pre p post raised) :
    TripleOn admits pre p post raised :=
  fun s inputs s' a _ => triple s inputs s' a

theorem pure {a : α} (holds : ∀ s, pre s → post a s) :
    TripleOn admits pre (Pure.pure a : Async ι σ ε α) post raised :=
  of_triple (Triple.pure holds)

theorem throw {e : ε} (holds : ∀ s, pre s → raised e s) :
    TripleOn admits pre (MonadExcept.throw e : Async ι σ ε α) post raised :=
  of_triple (Triple.throw holds)

theorem atomic {f : ι → σ → Except ε α × σ}
    (holds : ∀ input s, admits input → pre s → Settles post raised (f input s).1 (f input s).2) :
    TripleOn admits pre (Program.atomic f) post raised := by
  apply Program.TripleOn.step
  intro input s admitted start
  apply Program.TripleOn.done
  rintro s' rfl
  exact holds input s admitted start

theorem consequence {pre' : σ → Prop} {post' : α → σ → Prop} {raised' : ε → σ → Prop}
    (triple : TripleOn admits pre p post raised) (before : ∀ s, pre' s → pre s)
    (after : ∀ a s, post a s → post' a s) (failed : ∀ e s, raised e s → raised' e s) :
    TripleOn admits pre' p post' raised' := by
  intro s inputs s' result admitted start ends
  have settles := triple s inputs s' result admitted (before s start) ends
  match result, settles with
  | .ok a, holds => exact after a s' holds
  | .error e, holds => exact failed e s' holds

theorem given {fact : Prop} (known : ∀ s, pre s → fact)
    (triple : fact → TripleOn admits pre p post raised) : TripleOn admits pre p post raised :=
  fun s inputs s' a admitted start ends => triple (known s start) s inputs s' a admitted start ends

theorem fixing (part : σ → β) {allowed : β → Prop}
    (triple : ∀ b, allowed b → TripleOn admits (fun s => part s = b) p post raised) :
    TripleOn admits (fun s => allowed (part s)) p post raised :=
  fun s inputs s' a admitted start ends => triple (part s) start s inputs s' a admitted rfl ends

theorem bind {f : α → Async ι σ ε β} {post' : β → σ → Prop}
    (first : TripleOn admits pre p post raised)
    (next : ∀ a, TripleOn admits (post a) (f a) post' raised) :
    TripleOn admits pre (p >>= f) post' raised := by
  refine Program.TripleOn.bind (f := ExceptT.bindCont f) first ?_
  rintro (e | a)
  · exact Program.TripleOn.done fun s holds => holds
  · exact next a

theorem tryCatch {handle : ε → Async ι σ ε α} {raised' : ε → σ → Prop}
    (body : TripleOn admits pre p post raised)
    (handler : ∀ e, TripleOn admits (raised e) (handle e) post raised') :
    TripleOn admits pre (tryCatchThe ε p handle) post raised' := by
  refine Program.TripleOn.bind body ?_
  rintro (e | a)
  · exact handler e
  · exact Program.TripleOn.done fun s holds => holds

end TripleOn

end Tvic.Lib
