import Tvic.Lib.Program
import Tvic.Lib.Run

/-!
# A queue kept as a chain of promises

Operations that must not overlap are chained: each submission takes the promise that is last in
the chain as its predecessor, makes its own promise the last, and starts once the predecessor has
settled, however it settled. A settled promise that is still last is dropped from the chain some
time later.

`PromiseChain` is that mechanism with its promises and predecessors. Its result is `serial`: at
every moment of every run the shared state is what the operations leave when they run one at a
time, in the order of submission, each on the inputs it was given.
-/
namespace Tvic.Lib

/-- Where a promise stands: behind its predecessor, with a program left to run, or settled. -/
inductive Status (ι σ α : Type) where
  | waiting (previous : Option Nat)
  | running (rest : Program ι σ α)
  | settled (result : α)

namespace Status

variable {ι σ α : Type}

/-- A program that has nothing left to run settles its promise. -/
def ofProgram : Program ι σ α → Status ι σ α
  | .done a => .settled a
  | .step write rest => .running (.step write rest)

def isSettled : Status ι σ α → Bool
  | .settled _ => true
  | _ => false

def isWaiting : Status ι σ α → Bool
  | .waiting _ => true
  | _ => false

def rest? : Status ι σ α → Option (Program ι σ α)
  | .waiting _ => none
  | .running rest => some rest
  | .settled a => some (.done a)

@[simp] theorem rest?_ofProgram (p : Program ι σ α) : (ofProgram p).rest? = some p := by
  cases p <;> rfl

end Status

/-- A submitted operation; `inputs` are those its steps have taken so far. -/
structure Job (κ : Type*) (ι σ α : Type) where
  operation : κ
  inputs : List ι
  status : Status ι σ α

structure PromiseChain (κ : Type*) (ι σ α : Type) where
  state : σ
  jobs : List (Job κ ι σ α)
  last : Option Nat

/-- What can happen next: a submission, the start of an operation whose predecessor has settled,
a step of a running operation, the clean-up after a settled one. -/
inductive ChainEvent (κ : Type*) (ι : Type) where
  | submit (operation : κ)
  | start (n : Nat)
  | advance (n : Nat) (input : ι)
  | cleanup (n : Nat)

namespace PromiseChain

universe u

variable {κ : Type u} {ι σ α : Type} (program : κ → Program ι σ α)

def new (state : σ) : PromiseChain κ ι σ α := ⟨state, [], none⟩

def settledAt (c : PromiseChain κ ι σ α) (n : Nat) : Bool :=
  (c.jobs[n]?.map fun job => job.status.isSettled).getD false

/-- Whether the promise a submission waits for has settled; with no promise there is nothing to
wait for. -/
def ready (c : PromiseChain κ ι σ α) : Option Nat → Bool
  | none => true
  | some previous => c.settledAt previous

/-- An event that is not enabled changes nothing. -/
def step (c : PromiseChain κ ι σ α) : ChainEvent κ ι → PromiseChain κ ι σ α
  | .submit operation =>
      { c with jobs := c.jobs ++ [⟨operation, [], .waiting c.last⟩], last := some c.jobs.length }
  | .start n =>
      match c.jobs[n]? with
      | some ⟨operation, inputs, .waiting previous⟩ =>
          if c.ready previous then
            { c with jobs := c.jobs.set n ⟨operation, inputs, .ofProgram (program operation)⟩ }
          else c
      | _ => c
  | .advance n input =>
      match c.jobs[n]? with
      | some ⟨operation, inputs, .running (.step write rest)⟩ =>
          { c with
            state := write input c.state
            jobs := c.jobs.set n ⟨operation, inputs ++ [input], .ofProgram (rest input c.state)⟩ }
      | _ => c
  | .cleanup n => if c.last = some n ∧ c.settledAt n then { c with last := none } else c

/-- The jobs run one after another, each on its inputs. -/
def serial (start : σ) (jobs : List (Job κ ι σ α)) : σ :=
  jobs.foldl (fun s job => ((program job.operation).exec job.inputs s).1) start

/-! ### Serial runs -/

variable {program}

theorem serial_append (start : σ) (first second : List (Job κ ι σ α)) :
    serial program start (first ++ second) =
      serial program (serial program start first) second :=
  List.foldl_append

theorem serial_idle {jobs : List (Job κ ι σ α)} (idle : ∀ job ∈ jobs, job.inputs = [])
    (start : σ) : serial program start jobs = start := by
  induction jobs with
  | nil => rfl
  | cons job jobs ih =>
    have none := idle job List.mem_cons_self
    have rest := ih fun job member => idle job (List.mem_cons_of_mem _ member)
    simpa [serial, none] using rest

theorem serial_take_succ {jobs : List (Job κ ι σ α)} {n : Nat} {job : Job κ ι σ α}
    (found : jobs[n]? = some job) (start : σ) :
    serial program start (jobs.take (n + 1)) =
      ((program job.operation).exec job.inputs (serial program start (jobs.take n))).1 := by
  rw [List.take_add_one, found, serial_append]
  rfl

theorem serial_filter {jobs : List (Job κ ι σ α)} (keep : Job κ ι σ α → Bool) (start : σ)
    (skipped : ∀ n job, jobs[n]? = some job → keep job = false →
      serial program start (jobs.take (n + 1)) = serial program start (jobs.take n)) :
    serial program start (jobs.filter keep) = serial program start jobs := by
  induction jobs generalizing start with
  | nil => rfl
  | cons job jobs ih =>
    have rest := ih ((program job.operation).exec job.inputs start).1
      fun n next found out => skipped (n + 1) next found out
    by_cases kept : keep job = true
    · rw [List.filter_cons_of_pos kept]
      exact rest
    · have same : ((program job.operation).exec job.inputs start).1 = start :=
        skipped 0 job rfl (by simpa using kept)
      rw [List.filter_cons_of_neg kept]
      calc serial program start (jobs.filter keep)
        _ = serial program ((program job.operation).exec job.inputs start).1
              (jobs.filter keep) := by rw [same]
        _ = serial program start (job :: jobs) := rest

/-! ### The invariant -/

/-- What holds at every moment: an operation that has begun comes after settled ones only, a
promise waits for the one just before it, or for none when all before it have settled, and the
state and every begun operation are where the serial run of the jobs takes them. -/
structure Inv (program : κ → Program ι σ α) (start : σ) (c : PromiseChain κ ι σ α) : Prop where
  begun : ∀ (m n : Nat) (a b : Job κ ι σ α), m < n → c.jobs[m]? = some a → c.jobs[n]? = some b →
    b.status.isWaiting = false → a.status.isSettled = true
  behind : ∀ (n : Nat) (b : Job κ ι σ α) (m : Nat), c.jobs[n]? = some b →
    b.status = .waiting (some m) → n = m + 1
  first : ∀ (m n : Nat) (a b : Job κ ι σ α), m < n → c.jobs[m]? = some a → c.jobs[n]? = some b →
    b.status = .waiting none → a.status.isSettled = true
  tail : ∀ m, c.last = some m → c.jobs.length = m + 1
  drained : c.last = none → ∀ job ∈ c.jobs, job.status.isSettled = true
  idle : ∀ job ∈ c.jobs, job.status.isWaiting = true → job.inputs = []
  replay : ∀ (n : Nat) (job : Job κ ι σ α) (rest : Program ι σ α), c.jobs[n]? = some job →
    job.status.rest? = some rest →
    ((program job.operation).exec job.inputs (serial program start (c.jobs.take n))).2 = rest
  state : c.state = serial program start c.jobs

variable {start : σ} {c : PromiseChain κ ι σ α}

theorem not_waiting_of_rest? {status : Status ι σ α} {rest : Program ι σ α}
    (found : status.rest? = some rest) : status.isWaiting = false := by
  cases status <;> simp_all [Status.rest?, Status.isWaiting]

private theorem idle_after {n : Nat} {a : Job κ ι σ α} (inv : Inv program start c)
    (found : c.jobs[n]? = some a) (unsettled : a.status.isSettled = false) :
    ∀ job ∈ c.jobs.drop (n + 1), job.inputs = [] := by
  intro job member
  obtain ⟨k, at_⟩ := List.mem_iff_getElem?.mp member
  rw [List.getElem?_drop] at at_
  apply inv.idle job (List.mem_of_getElem? at_)
  by_contra begun
  have settled := inv.begun n (n + 1 + k) a job (by omega) found at_ (by simpa using begun)
  simp [settled] at unsettled

private theorem inv_set {n : Nat} {a b : Job κ ι σ α} {state : σ} {rest : Program ι σ α}
    (inv : Inv program start c) (found : c.jobs[n]? = some a)
    (unsettled : a.status.isSettled = false)
    (before : ∀ m earlier, m < n → c.jobs[m]? = some earlier → earlier.status.isSettled = true)
    (left : b.status.rest? = some rest)
    (ran : (program b.operation).exec b.inputs (serial program start (c.jobs.take n)) =
      (state, rest)) :
    Inv program start { c with state, jobs := c.jobs.set n b } := by
  have going := not_waiting_of_rest? left
  have small : n < c.jobs.length := (List.getElem?_eq_some_iff.mp found).1
  have at_ : ∀ k, (c.jobs.set n b)[k]? = if n = k then some b else c.jobs[k]? := by
    intro k
    rw [List.getElem?_set]
    by_cases same : n = k <;> simp [same]
    omega
  refine ⟨?_, ?_, ?_, ?_, ?_, ?_, ?_, ?_⟩
  · intro m k x y lt atM atK begun
    rw [at_] at atM atK
    split at atK
    next same =>
      subst same
      rw [if_neg (by omega)] at atM
      exact before m x lt atM
    · split at atM
      next same =>
        subst same
        have settled := inv.begun n k a y lt found atK begun
        simp [settled] at unsettled
      · exact inv.begun m k x y lt atM atK begun
  · intro k y m atK waits
    rw [at_] at atK
    split at atK
    · cases atK
      simp [waits, Status.isWaiting] at going
    · exact inv.behind k y m atK waits
  · intro m k x y lt atM atK waits
    rw [at_] at atM atK
    split at atK
    · cases atK
      simp [waits, Status.isWaiting] at going
    · split at atM
      next same =>
        subst same
        have settled := inv.first n k a y lt found atK waits
        simp [settled] at unsettled
      · exact inv.first m k x y lt atM atK waits
  · intro m last
    simpa using inv.tail m last
  · intro none
    have settled := inv.drained none a (List.mem_of_getElem? found)
    simp [settled] at unsettled
  · intro job member waits
    obtain ⟨k, atK⟩ := List.mem_iff_getElem?.mp member
    rw [at_] at atK
    split at atK
    · cases atK
      simp [waits] at going
    · exact inv.idle job (List.mem_of_getElem? atK) waits
  · intro k job rest' atK left'
    have upTo : ∀ j ≤ n, (c.jobs.set n b).take j = c.jobs.take j :=
      fun j le => List.take_set_of_le le
    rw [at_] at atK
    split at atK
    next same =>
      subst same
      cases atK
      rw [left, Option.some.injEq] at left'
      simp only [upTo n (Nat.le_refl n), ran, left']
    next other =>
      rcases Nat.lt_or_gt_of_ne other with lt | gt
      · have settled := inv.begun n k a job lt found atK (not_waiting_of_rest? left')
        simp [settled] at unsettled
      · simp only [upTo k (Nat.le_of_lt gt)]
        exact inv.replay k job rest' atK left'
  · have after := idle_after inv found unsettled
    simp only [List.set_eq_take_append_cons_drop, small, if_true, serial_append]
    show state = serial program _ (c.jobs.drop (n + 1))
    rw [serial_idle after]
    exact (congrArg Prod.fst ran).symm

private theorem state_eq {n : Nat} {a : Job κ ι σ α} (inv : Inv program start c)
    (found : c.jobs[n]? = some a) (unsettled : a.status.isSettled = false) :
    c.state = ((program a.operation).exec a.inputs (serial program start (c.jobs.take n))).1 := by
  rw [← serial_take_succ found, inv.state]
  conv_lhs => rw [← List.take_append_drop (n + 1) c.jobs]
  rw [serial_append, serial_idle (idle_after inv found unsettled)]

theorem inv_new (start : σ) : Inv program start (new start) := by
  refine ⟨?_, ?_, ?_, ?_, ?_, ?_, ?_, rfl⟩ <;> simp [new]

private theorem inv_submit (operation : κ) (inv : Inv program start c) :
    Inv program start (step program c (.submit operation)) := by
  have at_ : ∀ k job, (c.jobs ++ [⟨operation, [], .waiting c.last⟩])[k]? = some job →
      c.jobs[k]? = some job ∧ k < c.jobs.length ∨
        k = c.jobs.length ∧ job = ⟨operation, [], .waiting c.last⟩ := by
    intro k job found
    rcases Nat.lt_trichotomy k c.jobs.length with lt | rfl | gt
    · rw [List.getElem?_append_left lt] at found
      exact Or.inl ⟨found, lt⟩
    · exact Or.inr ⟨rfl, by simpa using found.symm⟩
    · rw [List.getElem?_eq_none (by simp; omega)] at found
      cases found
  refine ⟨?_, ?_, ?_, ?_, ?_, ?_, ?_, ?_⟩
  · intro m k x y lt atM atK begun
    rcases at_ k y atK with ⟨old, small⟩ | ⟨-, rfl⟩
    · rcases at_ m x atM with ⟨older, -⟩ | ⟨rfl, -⟩
      · exact inv.begun m k x y lt older old begun
      · omega
    · cases begun
  · intro k y m atK waits
    rcases at_ k y atK with ⟨old, -⟩ | ⟨rfl, rfl⟩
    · exact inv.behind k y m old waits
    · exact inv.tail m (Status.waiting.inj waits)
  · intro m k x y lt atM atK waits
    rcases at_ m x atM with ⟨older, -⟩ | ⟨rfl, -⟩
    · rcases at_ k y atK with ⟨old, -⟩ | ⟨rfl, rfl⟩
      · exact inv.first m k x y lt older old waits
      · exact inv.drained (Status.waiting.inj waits) x (List.mem_of_getElem? older)
    · rcases at_ k y atK with ⟨-, small⟩ | ⟨rfl, -⟩ <;> omega
  · intro m last
    have same : c.jobs.length = m := Option.some.inj last
    simp [step, same]
  · intro none
    cases none
  · intro job member waits
    rcases List.mem_append.mp member with old | new
    · exact inv.idle job old waits
    · rw [List.mem_singleton.mp new]
  · intro k job rest found left
    rcases at_ k job found with ⟨old, small⟩ | ⟨-, rfl⟩
    · have same : (step program c (.submit operation)).jobs.take k = c.jobs.take k :=
        List.take_append_of_le_length (Nat.le_of_lt small)
      rw [same]
      exact inv.replay k job rest old left
    · cases left
  · show c.state = serial program start (c.jobs ++ [_])
    rw [serial_append, ← inv.state, serial_idle]
    simp

private theorem inv_start (n : Nat) (inv : Inv program start c) :
    Inv program start (step program c (.start n)) := by
  simp only [step]
  split
  next operation inputs previous found =>
    split
    next ready =>
      have none : inputs = [] := inv.idle _ (List.mem_of_getElem? found) rfl
      subst none
      have sofar := state_eq inv found rfl
      simp only [Program.exec_nil] at sofar
      refine inv_set inv found rfl ?_ (Status.rest?_ofProgram _) ?_
      · intro m earlier lt atM
        cases previous with
        | none => exact inv.first m n earlier _ lt atM found rfl
        | some before =>
          -- the predecessor is the promise just before, and it has settled
          have next := inv.behind n _ before found rfl
          obtain ⟨job, atBefore⟩ : ∃ job, c.jobs[before]? = some job := by
            have small := (List.getElem?_eq_some_iff.mp found).1
            exact ⟨_, List.getElem?_eq_getElem (by omega)⟩
          have settled : job.status.isSettled = true := by
            simpa [PromiseChain.ready, settledAt, atBefore] using ready
          rcases Nat.lt_or_ge m before with older | last
          · have begun : job.status.isWaiting = false := by
              cases status : job.status <;> simp_all [Status.isSettled, Status.isWaiting]
            exact inv.begun m before earlier job older atM atBefore begun
          · obtain rfl : m = before := by omega
            rw [atM, Option.some.injEq] at atBefore
            rw [atBefore, settled]
      · rw [Program.exec_nil, ← sofar]
    · exact inv
  · exact inv

private theorem inv_advance (n : Nat) (input : ι) (inv : Inv program start c) :
    Inv program start (step program c (.advance n input)) := by
  simp only [step]
  split
  next operation inputs write rest found =>
    have sofar := state_eq inv found rfl
    have left := inv.replay n _ _ found rfl
    refine inv_set inv found rfl ?_ (Status.rest?_ofProgram _) ?_
    · intro m earlier lt atM
      exact inv.begun m n earlier _ lt atM found rfl
    · simp only [Program.exec_append, left, ← sofar]
      exact Program.exec_nil ..
  · exact inv

private theorem inv_cleanup (n : Nat) (inv : Inv program start c) :
    Inv program start (step program c (.cleanup n)) := by
  simp only [step]
  split
  next done =>
    obtain ⟨last, settled⟩ := done
    refine ⟨inv.begun, inv.behind, inv.first, ?_, ?_, inv.idle, inv.replay, inv.state⟩
    · intro m found
      cases found
    · intro _ job member
      obtain ⟨k, atK⟩ := List.mem_iff_getElem?.mp member
      have small : k < c.jobs.length := (List.getElem?_eq_some_iff.mp atK).1
      have length := inv.tail n last
      obtain ⟨end_, atN⟩ : ∃ end_, c.jobs[n]? = some end_ :=
        ⟨_, List.getElem?_eq_getElem (by omega)⟩
      have gone : end_.status.isSettled = true := by
        simpa [settledAt, atN] using settled
      rcases Nat.lt_or_ge k n with lt | ge
      · have begun : end_.status.isWaiting = false := by
          cases status : end_.status <;> simp_all [Status.isSettled, Status.isWaiting]
        exact inv.begun k n job end_ lt atK atN begun
      · obtain rfl : k = n := by omega
        rw [atK, Option.some.injEq] at atN
        rw [atN, gone]
  · exact inv

theorem inv_step (event : ChainEvent κ ι) (inv : Inv program start c) :
    Inv program start (step program c event) := by
  cases event with
  | submit operation => exact inv_submit operation inv
  | start n => exact inv_start n inv
  | advance n input => exact inv_advance n input inv
  | cleanup n => exact inv_cleanup n inv

theorem job_of_step {event : ChainEvent κ ι} {k : Nat} {b : Job κ ι σ α}
    (found : (step program c event).jobs[k]? = some b) :
    (∃ a, c.jobs[k]? = some a ∧ b.operation = a.operation ∧
      (b.inputs = a.inputs ∨ ∃ input, event = .advance k input ∧ b.inputs = a.inputs ++ [input])) ∨
      event = .submit b.operation ∧ k = c.jobs.length ∧ b.inputs = [] := by
  have unchanged : ∀ {jobs : List (Job κ ι σ α)}, jobs = c.jobs → jobs[k]? = some b →
      ∃ a, c.jobs[k]? = some a ∧ b.operation = a.operation ∧
        (b.inputs = a.inputs ∨ ∃ input, event = .advance k input ∧ b.inputs = a.inputs ++ [input]) :=
    fun same at_ => ⟨b, same ▸ at_, rfl, .inl rfl⟩
  cases event with
  | submit operation =>
    simp only [step, List.getElem?_append] at found
    split at found
    · exact .inl ⟨b, found, rfl, .inl rfl⟩
    · rename_i beyond
      obtain ⟨bound, rfl⟩ := List.getElem?_eq_some_iff.mp found
      have last : k = c.jobs.length := by
        simp only [List.length_singleton] at bound
        omega
      exact .inr ⟨by simp, last, by simp⟩
  | start n =>
    simp only [step] at found
    split at found
    next at_ =>
      split at found
      · rw [List.getElem?_set] at found
        split at found
        next same =>
          subst same
          split at found
          · rw [Option.some.injEq] at found
            subst found
            exact .inl ⟨_, at_, rfl, .inl rfl⟩
          · exact nomatch found
        · exact .inl (unchanged rfl found)
      · exact .inl (unchanged rfl found)
    · exact .inl (unchanged rfl found)
  | advance n input =>
    simp only [step] at found
    split at found
    next at_ =>
      rw [List.getElem?_set] at found
      split at found
      next same =>
        subst same
        split at found
        · rw [Option.some.injEq] at found
          subst found
          exact .inl ⟨_, at_, rfl, .inr ⟨input, rfl, rfl⟩⟩
        · exact nomatch found
      · exact .inl (unchanged rfl found)
    · exact .inl (unchanged rfl found)
  | cleanup n =>
    simp only [step] at found
    split at found <;> exact .inl (unchanged rfl found)

def after (program : κ → Program ι σ α) (start : σ) (events : List (ChainEvent κ ι)) :
    PromiseChain κ ι σ α :=
  run (step program) (new start) events

theorem inv_run (program : κ → Program ι σ α) (start : σ) (events : List (ChainEvent κ ι)) :
    Inv program start (after program start events) :=
  run_invariant (step program) (Inv program start) (fun _ event inv => inv_step event inv) _
    (inv_new start) events

theorem settled_eq {n : Nat} {job : Job κ ι σ α} {result : α} (inv : Inv program start c)
    (found : c.jobs[n]? = some job) (settled : job.status = .settled result) :
    (program job.operation).exec job.inputs (serial program start (c.jobs.take n)) =
      (serial program start (c.jobs.take (n + 1)), .done result) := by
  rw [serial_take_succ found]
  exact Prod.ext rfl (inv.replay n job _ found (by rw [settled]; rfl))

def submitted : ChainEvent κ ι → Option κ
  | .submit operation => some operation
  | _ => none

private theorem operations_set {jobs : List (Job κ ι σ α)} {n : Nat} {a b : Job κ ι σ α}
    (found : jobs[n]? = some a) (same : a.operation = b.operation) :
    (jobs.set n b).map (·.operation) = jobs.map (·.operation) := by
  apply List.ext_getElem?
  intro k
  rw [List.getElem?_map, List.getElem?_map, List.getElem?_set]
  by_cases at_ : n = k
  · subst at_
    have small := (List.getElem?_eq_some_iff.mp found).1
    rw [if_pos rfl, if_pos small, found, Option.map_some, Option.map_some, same]
  · rw [if_neg at_]

private theorem operations_step (c : PromiseChain κ ι σ α) (event : ChainEvent κ ι) :
    (step program c event).jobs.map (·.operation) =
      c.jobs.map (·.operation) ++ (submitted event).toList := by
  cases event with
  | submit operation => simp [step, submitted]
  | start n =>
    simp only [step, submitted, Option.toList_none, List.append_nil]
    split
    next found =>
      split
      · exact operations_set found rfl
      · rfl
    · rfl
  | advance n input =>
    simp only [step, submitted, Option.toList_none, List.append_nil]
    split
    next found => exact operations_set found rfl
    · rfl
  | cleanup n =>
    simp only [step, submitted, Option.toList_none, List.append_nil]
    split <;> rfl

theorem operations_eq (program : κ → Program ι σ α) (start : σ) (events : List (ChainEvent κ ι)) :
    (after program start events).jobs.map (·.operation) = events.filterMap submitted := by
  induction events using List.reverseRecOn with
  | nil => rfl
  | append_singleton events event ih =>
    rw [after, run_snoc, operations_step, List.filterMap_append, ← ih]
    cases found : submitted event <;> simp [found, after]

end PromiseChain

end Tvic.Lib
