import Tvic.Lib.Run

/-!
# Optimistic transactions

Calls that read a shared state without holding it and then commit at once, or are refused. A call
is a `Reader`, a tree of reads whose result says what to commit. `Race` is any number of calls
with their reads and commits in any order.

`commits_serialize`: when every value a call has read is still there at its commit, either because
the commit itself checks it or because nothing changed it, the calls that committed have the effect
of running one after another in the order of their commits.
-/
namespace Tvic.Lib

/-- A tree of reads of `ο`, each with its own type of answer, and questions to the outside. -/
inductive Reader (ο : Type) (ν : ο → Type) (ι α : Type) where
  | done (result : α)
  | read (what : ο) (next : ν what → Reader ο ν ι α)
  | consult (next : ι → Reader ο ν ι α)

namespace Reader

variable {ο : Type} {ν : ο → Type} {ι α β : Type}

def bind : Reader ο ν ι α → (α → Reader ο ν ι β) → Reader ο ν ι β
  | .done a, f => f a
  | .read what next, f => .read what fun seen => (next seen).bind f
  | .consult next, f => .consult fun input => (next input).bind f

instance : Monad (Reader ο ν ι) where
  pure := .done
  bind := bind

/-- The result of reading from one state all along, unless the inputs run out. -/
def run (observe : (o : ο) → ν o) : Reader ο ν ι α → List ι → Option α
  | .done a, _ => some a
  | .read what next, inputs => (next (observe what)).run observe inputs
  | .consult next, input :: inputs => (next input).run observe inputs
  | .consult _, [] => none

end Reader

/-- A call under way: what is left to read, what it has read so far and the inputs it has had.
The verdict of its commit, once there is one, is whether it was applied. -/
structure Attempt (ο : Type) (ν : ο → Type) (ι α : Type) where
  rest : Reader ο ν ι α
  log : List (Σ o, ν o)
  inputs : List ι
  verdict : Option Bool

/-- A commit that was applied, with the inputs of its call and those of the commit itself. -/
structure Commit (π ι κ : Type) where
  call : π
  inputs : List ι
  at_ : κ
  deriving DecidableEq

structure Race (π : Type) (ο : Type) (ν : ο → Type) (ι α κ σ : Type) where
  state : σ
  attempts : π → Attempt ο ν ι α
  commits : List (Commit π ι κ)

inductive RaceEvent (π ι κ : Type) where
  | read (call : π)
  | consult (call : π) (input : ι)
  | commit (call : π) (at_ : κ)

namespace Race

variable {π ο : Type} [DecidableEq π] {ν : ο → Type} {ι α κ σ : Type}
variable (observe : σ → (o : ο) → ν o) (commit : κ → α → σ → Option σ)
variable (program : π → Reader ο ν ι α)

def new (start : σ) : Race π ο ν ι α κ σ where
  state := start
  attempts call := ⟨program call, [], [], none⟩
  commits := []

def setAttempt (race : Race π ο ν ι α κ σ) (call : π) (attempt : Attempt ο ν ι α) :
    Race π ο ν ι α κ σ :=
  { race with attempts := Function.update race.attempts call attempt }

/-- An event that is not enabled changes nothing; a refused commit leaves the state alone. -/
def step (race : Race π ο ν ι α κ σ) : RaceEvent π ι κ → Race π ο ν ι α κ σ
  | .read call =>
      match race.attempts call with
      | ⟨.read what next, log, inputs, verdict⟩ =>
          let seen := observe race.state what
          race.setAttempt call ⟨next seen, log ++ [⟨what, seen⟩], inputs, verdict⟩
      | _ => race
  | .consult call input =>
      match race.attempts call with
      | ⟨.consult next, log, inputs, verdict⟩ =>
          race.setAttempt call ⟨next input, log, inputs ++ [input], verdict⟩
      | _ => race
  | .commit call at_ =>
      match race.attempts call with
      | ⟨.done result, log, inputs, none⟩ =>
          match commit at_ result race.state with
          | some state =>
              { race.setAttempt call ⟨.done result, log, inputs, some true⟩ with
                state, commits := race.commits ++ [⟨call, inputs, at_⟩] }
          | none => race.setAttempt call ⟨.done result, log, inputs, some false⟩
      | _ => race

/-- One call run on its own: it reads from the state it commits to. -/
def execute (state : σ) (c : Commit π ι κ) : Option σ :=
  ((program c.call).run (observe state) c.inputs).bind fun result => commit c.at_ result state

/-- The calls run one after another, all of them committing. -/
def serial (start : σ) (commits : List (Commit π ι κ)) : Option σ :=
  commits.foldlM (execute observe commit program) start

def after (start : σ) (events : List (RaceEvent π ι κ)) : Race π ο ν ι α κ σ :=
  run (step observe commit) (new program start) events

variable {observe commit program}

omit [DecidableEq π] in
theorem serial_snoc (start : σ) (commits : List (Commit π ι κ)) (c : Commit π ι κ) :
    serial observe commit program start (commits ++ [c]) =
      (serial observe commit program start commits).bind
        fun state => execute observe commit program state c := by
  simp only [serial, List.foldlM_append, List.foldlM_cons, List.foldlM_nil, bind_pure]
  rfl

/-- What holds at every moment: from a state in which everything a call has read is still there,
the call run on its own gets to where it is; and until the first commit everything is. -/
structure Inv (observe : σ → (o : ο) → ν o) (program : π → Reader ο ν ι α) (start : σ)
    (race : Race π ο ν ι α κ σ) : Prop where
  replay : ∀ call state, (∀ seen ∈ (race.attempts call).log, observe state seen.1 = seen.2) →
    ∀ more, (program call).run (observe state) ((race.attempts call).inputs ++ more) =
      (race.attempts call).rest.run (observe state) more
  fresh : race.commits = [] → race.state = start ∧
    ∀ call, ∀ seen ∈ (race.attempts call).log, observe race.state seen.1 = seen.2
  applied : ∀ call, (race.attempts call).verdict = some true ↔
    call ∈ race.commits.map (·.call)
  once : (race.commits.map (·.call)).Nodup

omit [DecidableEq π] in
theorem inv_new (start : σ) :
    Inv observe program start (new program start : Race π ο ν ι α κ σ) :=
  ⟨fun _ _ _ _ => rfl, fun _ => ⟨rfl, by simp [new]⟩, by simp [new], by simp [new]⟩

variable {start : σ} {race : Race π ο ν ι α κ σ}

private theorem inv_setAttempt {call : π} {attempt : Attempt ο ν ι α}
    (inv : Inv observe program start race)
    (replay : ∀ state, (∀ seen ∈ attempt.log, observe state seen.1 = seen.2) →
      ∀ more, (program call).run (observe state) (attempt.inputs ++ more) =
        attempt.rest.run (observe state) more)
    (log : ∀ seen ∈ attempt.log, seen ∈ (race.attempts call).log ∨
      observe race.state seen.1 = seen.2)
    (verdict : attempt.verdict = some true ↔ (race.attempts call).verdict = some true) :
    Inv observe program start (race.setAttempt call attempt) := by
  refine ⟨?_, ?_, ?_, inv.once⟩
  · intro other state holds
    by_cases same : other = call
    · subst same
      simp only [setAttempt, Function.update_self] at holds ⊢
      exact replay state holds
    · simp only [setAttempt, Function.update_of_ne same] at holds ⊢
      exact inv.replay other state holds
  · intro none
    obtain ⟨same, logged⟩ := inv.fresh none
    refine ⟨same, ?_⟩
    intro other seen member
    by_cases same : other = call
    · subst same
      simp only [setAttempt, Function.update_self] at member
      rcases log seen member with old | new
      · exact logged other seen old
      · exact new
    · simp only [setAttempt, Function.update_of_ne same] at member
      exact logged other seen member
  · intro other
    by_cases same : other = call
    · subst same
      simp only [setAttempt, Function.update_self, verdict]
      exact inv.applied other
    · simp only [setAttempt, Function.update_of_ne same]
      exact inv.applied other

theorem inv_step (event : RaceEvent π ι κ) (inv : Inv observe program start race) :
    Inv observe program start (step observe commit race event) := by
  cases event with
  | read call =>
    simp only [step]
    split
    next what next log inputs verdict found =>
      have before := inv.replay call
      rw [found] at before
      refine inv_setAttempt inv ?_ ?_ (by rw [found])
      · intro state holds more
        have old : ∀ seen ∈ log, observe state seen.1 = seen.2 :=
          fun seen member => holds seen (List.mem_append_left _ member)
        have new : observe state what = observe race.state what :=
          holds ⟨what, observe race.state what⟩ (by simp)
        rw [before state old more]
        show (next (observe state what)).run _ _ = _
        rw [new]
      · intro seen member
        rcases List.mem_append.mp member with old | new
        · exact Or.inl (by rw [found]; exact old)
        · rw [List.mem_singleton.mp new]
          exact Or.inr rfl
    · exact inv
  | consult call input =>
    simp only [step]
    split
    next next log inputs verdict found =>
      have before := inv.replay call
      rw [found] at before
      refine inv_setAttempt inv ?_ (by rw [found]; exact fun _ => Or.inl) (by rw [found])
      intro state holds more
      rw [List.append_assoc, before state holds]
      rfl
    · exact inv
  | commit call at_ =>
    simp only [step]
    split
    next result log inputs found =>
      have kept : ∀ verdict : Option Bool, ∀ other,
          (∀ seen, seen ∈ (Function.update race.attempts call
            ⟨.done result, log, inputs, verdict⟩ other).log ↔ seen ∈ (race.attempts other).log) ∧
          (Function.update race.attempts call ⟨.done result, log, inputs, verdict⟩ other).inputs =
            (race.attempts other).inputs ∧
          (Function.update race.attempts call ⟨.done result, log, inputs, verdict⟩ other).rest =
            (race.attempts other).rest := by
        intro verdict other
        by_cases same : other = call
        · subst same
          rw [Function.update_self, found]
          exact ⟨fun _ => Iff.rfl, rfl, rfl⟩
        · rw [Function.update_of_ne same]
          exact ⟨fun _ => Iff.rfl, rfl, rfl⟩
      split
      next state ended =>
        refine ⟨?_, ?_, ?_, ?_⟩
        · intro other state holds more
          obtain ⟨log', inputs', rest'⟩ := kept (some true) other
          simp only [setAttempt, inputs', rest']
          exact inv.replay other state (fun seen member => holds seen ((log' seen).mpr member)) more
        · intro none
          simp at none
        · intro other
          by_cases same : other = call
          · subst same
            simp [setAttempt]
          · simpa [setAttempt, Function.update_of_ne same, same] using inv.applied other
        · have absent : call ∉ race.commits.map (·.call) := by
            rw [← inv.applied call, found]
            simp
          simpa [List.nodup_append, inv.once] using absent
      · have before := inv.replay call
        rw [found] at before
        refine inv_setAttempt inv before (by rw [found]; exact fun _ => Or.inl) ?_
        rw [found]
        simp
    · exact inv

theorem inv_run (observe : σ → (o : ο) → ν o) (commit : κ → α → σ → Option σ)
    (program : π → Reader ο ν ι α) (start : σ) (events : List (RaceEvent π ι κ)) :
    Inv observe program start (after observe commit program start events) :=
  run_invariant (step observe commit) (Inv observe program start)
    (fun _ event inv => inv_step event inv) _ (inv_new start) events

def Sound (observe : σ → (o : ο) → ν o) (commit : κ → α → σ → Option σ)
    (checks : α → (Σ o, ν o) → Prop) : Prop :=
  ∀ at_ result state state' seen, commit at_ result state = some state' → checks result seen →
    observe state seen.1 = seen.2

/-- At this event nothing a commit relies on and does not check itself has changed. The first
commit of all relies on nothing that can have changed. -/
def Undisturbed (observe : σ → (o : ο) → ν o) (checks : α → (Σ o, ν o) → Prop)
    (race : Race π ο ν ι α κ σ) : RaceEvent π ι κ → Prop
  | .commit call _ => race.commits ≠ [] → ∀ result, (race.attempts call).rest = .done result →
      ∀ seen ∈ (race.attempts call).log, ¬ checks result seen →
        observe race.state seen.1 = seen.2
  | _ => True

theorem serial_step {checks : α → (Σ o, ν o) → Prop} (sound : Sound observe commit checks)
    (event : RaceEvent π ι κ) (inv : Inv observe program start race)
    (undisturbed : Undisturbed observe checks race event)
    (serialized : serial observe commit program start race.commits = some race.state) :
    serial observe commit program start (step observe commit race event).commits =
      some (step observe commit race event).state := by
  cases event with
  | read call =>
    simp only [step]
    split <;> exact serialized
  | consult call input =>
    simp only [step]
    split <;> exact serialized
  | commit call at_ =>
    simp only [step]
    split
    next result log inputs found =>
      split
      next state ended =>
        have seen : ∀ seen ∈ log, observe race.state seen.1 = seen.2 := by
          intro seen member
          have logged : seen ∈ (race.attempts call).log := by rw [found]; exact member
          by_cases first : race.commits = []
          · exact (inv.fresh first).2 call seen logged
          · by_cases checked : checks result seen
            · exact sound at_ result race.state state seen ended checked
            · exact undisturbed first result (by rw [found]) seen logged checked
        have replay := inv.replay call race.state (by rw [found]; exact seen) []
        rw [found, List.append_nil] at replay
        simp only [serial_snoc, serialized, Option.bind_some, execute, replay]
        exact ended
      · exact serialized
    · exact serialized

def UndisturbedRun (observe : σ → (o : ο) → ν o) (commit : κ → α → σ → Option σ)
    (checks : α → (Σ o, ν o) → Prop) : Race π ο ν ι α κ σ → List (RaceEvent π ι κ) → Prop
  | _, [] => True
  | race, event :: rest =>
      Undisturbed observe checks race event ∧
        UndisturbedRun observe commit checks (step observe commit race event) rest

/-- In a run in which no commit is disturbed, the committed calls have the effect of running one
after another, all of them committing, in the order of their commits. -/
theorem commits_serialize {checks : α → (Σ o, ν o) → Prop} (sound : Sound observe commit checks)
    (events : List (RaceEvent π ι κ))
    (undisturbed : UndisturbedRun observe commit checks (new program start) events) :
    serial observe commit program start (after observe commit program start events).commits =
      some (after observe commit program start events).state := by
  have run : ∀ race : Race π ο ν ι α κ σ, Inv observe program start race →
      serial observe commit program start race.commits = some race.state →
      UndisturbedRun observe commit checks race events →
      serial observe commit program start (run (step observe commit) race events).commits =
        some (run (step observe commit) race events).state := by
    clear undisturbed
    induction events with
    | nil => exact fun race _ serialized _ => serialized
    | cons event rest ih =>
      intro race inv serialized undisturbed
      exact ih _ (inv_step event inv) (serial_step sound event inv undisturbed.1 serialized)
        undisturbed.2
  exact run _ (inv_new start) rfl undisturbed

end Race

end Tvic.Lib
