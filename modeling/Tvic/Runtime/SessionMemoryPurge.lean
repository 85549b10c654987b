import Mathlib.Data.List.Pairwise
import Tvic.Runtime.SessionEndCoordinator

/-!
# The purge of session memory

The queue runs its tasks one after another, so what happens at the memory is what each task does,
task by task, and a purge starts with everything before it settled. What comes behind a purge
starts nothing as long as it finds admission open when its turn comes: it then reads the record,
which is terminal. `closeAdmission` while such an operation waits is the way around that.
-/
namespace Tvic

open Lib

namespace MemoryTask

/-- What the program appends to the log and where it then stands do not depend on the log. -/
def Appends (program : MemoryProgram) : Prop :=
  ∀ inputs log, program.exec inputs log =
    (log ++ (program.exec inputs []).1, (program.exec inputs []).2)

theorem appends_done : Appends (.done ()) := by
  intro inputs log
  simp

theorem appends_step {write : MemoryTaskInput → List MemoryHappening → List MemoryHappening}
    {rest : MemoryTaskInput → List MemoryHappening → MemoryProgram}
    (written : MemoryTaskInput → List MemoryHappening) (next : MemoryTaskInput → MemoryProgram)
    (writes : ∀ input log, write input log = log ++ written input)
    (goesOn : ∀ input log, rest input log = next input) (each : ∀ input, Appends (next input)) :
    Appends (.step write rest) := by
  intro inputs log
  cases inputs with
  | nil => simp
  | cons input inputs =>
    simp only [Program.exec, writes, goesOn, List.nil_append]
    rw [each input inputs (log ++ written input), each input inputs (written input),
      List.append_assoc]

theorem appends_happening {happens : MemoryHappening} {rest : MemoryProgram}
    (appends : Appends rest) : Appends (happening happens rest) :=
  appends_step (fun _ => [happens]) (fun _ => rest) (fun _ _ => rfl) (fun _ _ => rfl)
    fun _ => appends

theorem appends_silently {rest : MemoryTaskInput → MemoryProgram}
    (appends : ∀ input, Appends (rest input)) : Appends (silently rest) :=
  appends_step (fun _ => []) rest (fun _ _ => (List.append_nil _).symm) (fun _ _ => rfl) appends

theorem appends_program (task : MemoryTask) : Appends task.program := by
  cases task with
  | operation id =>
    refine appends_step (fun input => if input.admissionClosed then [.started id] else [])
      (fun input => if input.admissionClosed then happening (.settled id) (.done ())
        else silently fun record =>
          if record.readFails || record.recordTerminal then .done ()
          else happening (.started id) (happening (.settled id) (.done ())))
      (fun input log => ?_) (fun _ _ => rfl) fun input => ?_
    · cases input.admissionClosed <;> simp
    · split
      · exact appends_happening appends_done
      · refine appends_silently fun record => ?_
        split
        · exact appends_done
        · exact appends_happening (appends_happening appends_done)
  | finalization deletes =>
    rw [program, finalizeMemory]
    split
    · exact appends_happening (appends_happening appends_done)
    · exact appends_silently fun _ => appends_done

def output (task : MemoryTask) (inputs : List MemoryTaskInput) : List MemoryHappening :=
  (task.program.exec inputs []).1

/-- The inputs on which an operation is refused, as far as they go. -/
def Refused : List MemoryTaskInput → Prop
  | [] => True
  | [first] => first.admissionClosed = false
  | first :: second :: _ => first.admissionClosed = false ∧ second.recordTerminal = true

theorem output_of_refused {id : Nat} {inputs : List MemoryTaskInput} (refused : Refused inputs) :
    (operation id).output inputs = [] := by
  match inputs with
  | [] => rfl
  | [first] => simp_all [output, program, runOperation, Refused, Program.exec]
  | first :: second :: rest =>
    obtain ⟨opened, terminal⟩ := refused
    simp [output, program, runOperation, silently, Program.exec, opened, terminal]

theorem settling_cases (id : Nat) (inputs : List MemoryTaskInput) (log : List MemoryHappening) :
    ((happening (.settled id) (.done ())).exec inputs log).1 = log ∧
        ((happening (.settled id) (.done ())).exec inputs log).2 ≠ .done () ∨
      ((happening (.settled id) (.done ())).exec inputs log).1 = log ++ [.settled id] := by
  cases inputs with
  | nil => exact .inl ⟨rfl, nofun⟩
  | cons input rest => exact .inr (by simp [happening, Program.exec])

/-- An operation does nothing, or starts, or starts and settles; having started it does not come
to its end without settling. -/
theorem output_operation (id : Nat) (inputs : List MemoryTaskInput) :
    (operation id).output inputs = [] ∨
      (operation id).output inputs = [.started id] ∧
        ((operation id).program.exec inputs []).2 ≠ .done () ∨
      (operation id).output inputs = [.started id, .settled id] := by
  simp only [output, program, runOperation]
  match inputs with
  | [] => exact .inl rfl
  | first :: rest =>
    simp only [Program.exec]
    cases closed : first.admissionClosed with
    | true =>
      simp only [if_true, List.nil_append]
      exact .inr (settling_cases id rest [.started id])
    | false =>
      simp only [Bool.false_eq_true, if_false]
      match rest with
      | [] => exact .inl rfl
      | second :: rest =>
        simp only [silently, Program.exec]
        cases refused : second.readFails || second.recordTerminal with
        | true => exact .inl (by simp)
        | false =>
          simp only [Bool.false_eq_true, if_false]
          match rest with
          | [] => exact .inl rfl
          | _ :: rest => exact .inr (settling_cases id rest [.started id])

theorem output_finalization (deletes : Bool) (inputs : List MemoryTaskInput) :
    (finalization deletes).output inputs = [] ∨
      deletes = true ∧ inputs ≠ [] ∧ ∃ rest, (finalization deletes).output inputs = .purgeStarted :: rest ∧
        ∀ happens ∈ rest, happens = .purgeSettled := by
  cases deletes with
  | false =>
    left
    cases inputs <;> simp [output, program, finalizeMemory, silently, Program.exec]
  | true =>
    match inputs with
    | [] => exact .inl rfl
    | [first] => exact .inr ⟨rfl, by simp, [], rfl, by simp⟩
    | first :: second :: rest =>
      refine .inr ⟨rfl, by simp, [.purgeSettled], ?_, by simp⟩
      simp [output, program, finalizeMemory, happening, Program.exec]

end MemoryTask

abbrev MemoryJob := Job MemoryTask MemoryTaskInput (List MemoryHappening) Unit

namespace MemoryJob

def output (job : MemoryJob) : List MemoryHappening :=
  job.operation.output job.inputs

theorem serial_eq (jobs : List MemoryJob) :
    PromiseChain.serial MemoryTask.program [] jobs = jobs.flatMap output := by
  induction jobs using List.reverseRecOn with
  | nil => rfl
  | append_singleton jobs job ih =>
    rw [PromiseChain.serial_append, ih, List.flatMap_append, List.flatMap_singleton]
    show ((job.operation.program.exec job.inputs) _).1 = _
    rw [job.operation.appends_program]
    rfl

/-- How a task stands to one queued before it: it begins once that one is at its end, and an
operation behind a purge is refused. -/
structure Behind (first second : MemoryJob) : Prop where
  ended : second.inputs ≠ [] → (first.operation.program.exec first.inputs []).2 = .done ()
  refused : first.operation = .finalization true → ∀ id, second.operation = .operation id →
    MemoryTask.Refused second.inputs

theorem finalization_of_purge {job : MemoryJob} (purges : .purgeStarted ∈ job.output) :
    job.operation = .finalization true := by
  rw [output] at purges
  cases task : job.operation with
  | operation id =>
    rw [task] at purges
    rcases MemoryTask.output_operation id job.inputs with out | ⟨out, _⟩ | out <;>
      simp [out] at purges
  | finalization deletes =>
    rw [task] at purges
    rcases MemoryTask.output_finalization deletes job.inputs with out | ⟨deletes, _⟩
    · simp [out] at purges
    · rw [deletes]

theorem settled_of_started {job : MemoryJob} {id : Nat}
    (ended : (job.operation.program.exec job.inputs []).2 = .done ())
    (started : .started id ∈ job.output) : .settled id ∈ job.output := by
  rw [output] at started ⊢
  cases task : job.operation with
  | operation other =>
    rw [task] at started ended
    rcases MemoryTask.output_operation other job.inputs with out | ⟨_, unended⟩ | out
    · simp [out] at started
    · exact absurd ended unended
    · simp_all
  | finalization deletes =>
    rw [task] at started
    rcases MemoryTask.output_finalization deletes job.inputs with out | ⟨_, _, rest, out, purges⟩
    · simp [out] at started
    · rw [out] at started
      rcases List.mem_cons.mp started with impossible | member
      · exact nomatch impossible
      · exact nomatch purges _ member

theorem purgesExclude {jobs : List MemoryJob} (behind : jobs.Pairwise Behind) :
    PurgesExclude (jobs.flatMap output) := by
  induction jobs using List.reverseRecOn with
  | nil => exact fun before after split => by simp at split
  | append_singleton jobs job ih =>
    obtain ⟨earlier, _, across⟩ := List.pairwise_append.mp behind
    have across : ∀ first ∈ jobs, Behind first job := fun first member =>
      across first member job (List.mem_singleton_self job)
    have exclusive := ih earlier
    rw [List.flatMap_append, List.flatMap_singleton]
    cases task : job.operation with
    | operation id =>
      by_cases idle : job.output = []
      · simpa [idle] using exclusive
      · -- whatever starts is behind no purge
        have none : .purgeStarted ∉ jobs.flatMap output ++ job.output := by
          intro purges
          rcases List.mem_append.mp purges with purges | purges
          · obtain ⟨first, member, purges⟩ := List.mem_flatMap.mp purges
            have refused := (across first member).refused (finalization_of_purge purges) id task
            exact idle (by rw [output, task, MemoryTask.output_of_refused refused])
          · rw [finalization_of_purge purges] at task
            exact nomatch task
        exact fun before after split => absurd (split ▸ by simp) none
    | finalization deletes =>
      rcases MemoryTask.output_finalization deletes job.inputs with
        out | ⟨_, begun, rest, out, purges⟩
      · have idle : job.output = [] := by rw [output, task, out]
        simpa [idle] using exclusive
      · have out : job.output = .purgeStarted :: rest := by rw [output, task, out]
        have complete : ∀ id, .started id ∈ jobs.flatMap output → .settled id ∈ jobs.flatMap output := by
          intro id started
          obtain ⟨first, member, started⟩ := List.mem_flatMap.mp started
          exact List.mem_flatMap.mpr
            ⟨first, member, settled_of_started ((across first member).ended begun) started⟩
        have quiet : ∀ id, .started id ∉ rest := fun id member => nomatch purges _ member
        rw [out]
        intro before after split
        rcases List.append_eq_append_iff.mp split with
          ⟨extra, rfl, tail⟩ | ⟨extra, whole, tail⟩
        · cases extra with
          | nil =>
            rw [List.nil_append, List.cons.injEq] at tail
            rw [List.append_nil, ← tail.2]
            exact ⟨complete, quiet⟩
          | cons head extra =>
            rw [List.cons_append, List.cons.injEq] at tail
            exact nomatch purges .purgeStarted (tail.2 ▸ by simp)
        · cases extra with
          | nil =>
            rw [List.nil_append, List.cons.injEq] at tail
            rw [List.append_nil] at whole
            rw [← whole, tail.2]
            exact ⟨complete, quiet⟩
          | cons head extra =>
            rw [List.cons_append, List.cons.injEq] at tail
            obtain ⟨rfl, rfl⟩ := tail
            obtain ⟨settled, none⟩ := exclusive before extra whole
            refine ⟨settled, fun id member => ?_⟩
            rcases List.mem_append.mp member with member | member
            · exact none id member
            · rcases List.mem_cons.mp member with impossible | member
              · exact nomatch impossible
              · exact quiet id member

end MemoryJob

namespace SessionEndCoordinator

/-- What keeps an operation behind a purge from starting: the record is terminal once a purge is
queued, and admission is open until the operation has looked. -/
structure Guarded (coordinator : SessionEndCoordinator) : Prop where
  chain : PromiseChain.Inv MemoryTask.program [] coordinator.queue
  observing : coordinator.observation = .audioTap → coordinator.recordTerminal = true
  terminal : ∀ job ∈ coordinator.queue.jobs, job.operation = .finalization true →
    coordinator.recordTerminal = true
  opened : coordinator.WaitingBehindPurge → coordinator.admissionClosed = false
  refused : ∀ (m n id : Nat) (purge job : MemoryJob), m < n →
    coordinator.queue.jobs[m]? = some purge → purge.operation = .finalization true →
    coordinator.queue.jobs[n]? = some job → job.operation = .operation id →
    MemoryTask.Refused job.inputs

variable {coordinator : SessionEndCoordinator}

theorem Guarded.purgesExclude (guarded : coordinator.Guarded) : PurgesExclude coordinator.log := by
  rw [log, guarded.chain.state, MemoryJob.serial_eq]
  refine MemoryJob.purgesExclude (List.pairwise_iff_getElem.mpr fun m n small bound lt => ?_)
  have atM := List.getElem?_eq_getElem small
  have atN := List.getElem?_eq_getElem bound
  refine ⟨fun begun => ?_, fun purges id task => guarded.refused m n id _ _ lt atM purges atN task⟩
  have going : (coordinator.queue.jobs[n]).status.isWaiting = false := by
    by_contra waits
    exact begun (guarded.chain.idle _ (List.getElem_mem bound) (by simpa using waits))
  have settled := guarded.chain.begun m n _ _ lt atM atN going
  cases status : (coordinator.queue.jobs[m]).status with
  | waiting previous => simp [status, Status.isSettled] at settled
  | running rest => simp [status, Status.isSettled] at settled
  | settled result =>
    have ended := guarded.chain.replay m _ (.done result) atM (by rw [status]; rfl)
    rwa [MemoryTask.appends_program] at ended

theorem guarded_new : new.Guarded where
  chain := PromiseChain.inv_new []
  observing := nofun
  terminal := nofun
  opened := fun _ => rfl
  refused := fun m _ _ _ _ _ found => by simp [new, PromiseChain.new] at found

theorem Guarded.queueStep (guarded : coordinator.Guarded)
    (event : ChainEvent MemoryTask MemoryTaskInput)
    (admits : ∀ id, event = .submit (.operation id) → coordinator.admissionClosed = false)
    (purges : event = .submit (.finalization true) → coordinator.recordTerminal = true)
    (looks : ∀ n input, event = .advance n input →
      input.admissionClosed = coordinator.admissionClosed ∧
        input.recordTerminal = coordinator.recordTerminal) :
    (coordinator.queueStep event).Guarded where
  chain := PromiseChain.inv_step event guarded.chain
  observing := guarded.observing
  terminal := fun job member task => by
    obtain ⟨k, found⟩ := List.getElem?_of_mem member
    rcases PromiseChain.job_of_step found with ⟨before, was, same, _⟩ | ⟨submitted, _⟩
    · exact guarded.terminal before (List.mem_of_getElem? was) (same ▸ task)
    · exact purges (task ▸ submitted)
  opened := by
    rintro ⟨m, n, id, purge, waiting, lt, atM, purging, atN, task, idle⟩
    rcases PromiseChain.job_of_step atN with ⟨b, wasN, sameN, inputs⟩ | ⟨submitted, _⟩
    · rcases PromiseChain.job_of_step atM with ⟨a, wasM, sameM, _⟩ | ⟨_, last, _⟩
      · refine guarded.opened ⟨m, n, id, a, b, lt, wasM, sameM ▸ purging, wasN, sameN ▸ task, ?_⟩
        rcases inputs with inputs | ⟨input, _, inputs⟩
        · rw [← inputs, idle]
        · rw [idle] at inputs
          simp at inputs
      · have := (List.getElem?_eq_some_iff.mp wasN).1
        omega
    · exact admits id (task ▸ submitted)
  refused := by
    intro m n id purge job lt atM purging atN task
    rcases PromiseChain.job_of_step atN with ⟨b, wasN, sameN, inputs⟩ | ⟨_, _, idle⟩
    · rcases PromiseChain.job_of_step atM with ⟨a, wasM, sameM, _⟩ | ⟨_, last, _⟩
      · have refused := guarded.refused m n id a b lt wasM (sameM ▸ purging) wasN (sameN ▸ task)
        rcases inputs with inputs | ⟨input, advanced, inputs⟩
        · rwa [inputs]
        · obtain ⟨closed, terminal⟩ := looks n input advanced
          rw [inputs]
          match taken : b.inputs with
          | [] =>
            -- its turn has come, and it finds admission open
            exact closed.trans (guarded.opened ⟨m, n, id, a, b, lt, wasM, sameM ▸ purging, wasN,
              sameN ▸ task, taken⟩)
          | [first] =>
            rw [taken] at refused
            exact ⟨refused, terminal.trans
              (guarded.terminal a (List.mem_of_getElem? wasM) (sameM ▸ purging))⟩
          | first :: second :: rest =>
            rw [taken] at refused
            exact refused
      · have := (List.getElem?_eq_some_iff.mp wasN).1
        omega
    · rw [idle]
      trivial

theorem Guarded.release (guarded : coordinator.Guarded) :
    coordinator.releaseAdmissionIfReady.Guarded := by
  unfold releaseAdmissionIfReady
  split
  · exact guarded
  · exact { guarded with opened := fun _ => rfl }

theorem Guarded.step (guarded : coordinator.Guarded) (event : SessionEndEvent)
    (inTime : event = .closeAdmission → ¬ coordinator.WaitingBehindPurge) :
    (coordinator.step event).Guarded := by
  cases event with
  | recordTerminates =>
    exact { guarded with observing := fun _ => rfl, terminal := fun _ _ _ => rfl }
  | closeAdmission => exact { guarded with opened := fun waits => absurd waits (inTime rfl) }
  | runMemoryOperation =>
    simp only [SessionEndCoordinator.step]
    split
    · exact guarded
    · rename_i opened
      exact guarded.queueStep _ (fun _ _ => by simpa using opened) nofun nofun
  | emit =>
    simp only [SessionEndCoordinator.step]
    split
    · rename_i ready
      exact { guarded with observing := fun _ => ready.1 }
    · exact guarded
  | finalizeMemory deletes =>
    simp only [SessionEndCoordinator.step]
    split
    · rename_i observing
      have queued := guarded.queueStep (.submit (.finalization deletes)) nofun
        (fun _ => guarded.observing observing) nofun
      exact { queued with observing := nofun }
    · exact guarded
  | finalizationReports task =>
    simp only [SessionEndCoordinator.step]
    split
    · exact Guarded.release { guarded with }
    · exact guarded
  | observationEnds =>
    simp only [SessionEndCoordinator.step]
    split
    · exact Guarded.release { guarded with observing := nofun }
    · exact guarded
  | emitReturns =>
    simp only [SessionEndCoordinator.step]
    split
    · exact { guarded with observing := nofun }
    · exact guarded
  | start task => exact guarded.queueStep _ nofun nofun nofun
  | advance task readFails =>
    exact guarded.queueStep _ nofun nofun fun n input advanced => by
      cases advanced
      exact ⟨rfl, rfl⟩
  | clearQueue task => exact guarded.queueStep _ nofun nofun nofun

theorem guarded_after (events : List SessionEndEvent)
    (inTime : ∀ before rest, events = before ++ .closeAdmission :: rest →
      ¬ (after before).WaitingBehindPurge) : (after events).Guarded := by
  induction events using List.reverseRecOn with
  | nil => exact guarded_new
  | append_singleton events event ih =>
    rw [after, run_snoc]
    refine Guarded.step (ih fun before rest split => ?_) event fun closes => ?_
    · exact inTime before (rest ++ [event]) (by rw [split, List.append_assoc]; rfl)
    · exact inTime events [] (by rw [closes])

/-- **No session memory survives the end of its session.** In every run that closes admission only
while no operation admitted after a purge was queued waits for its turn, a purge starts with every
started operation settled, and no operation starts afterwards. -/
theorem session_memory_purged (events : List SessionEndEvent)
    (inTime : ∀ before rest, events = before ++ .closeAdmission :: rest →
      ¬ (after before).WaitingBehindPurge) : PurgesExclude (after events).log :=
  (guarded_after events inTime).purgesExclude

/-- The purge is under way when an operation is admitted, and admission is closed before the
operation has its turn. -/
def closedBehindPurge : List SessionEndEvent :=
  [.recordTerminates, .emit, .finalizeMemory true, .start 0, .advance 0 false,
    .runMemoryOperation, .closeAdmission, .advance 0 false, .start 1, .advance 1 false]

theorem closedBehindPurge_starts : ¬ PurgesExclude (after closedBehindPurge).log := by
  have log : (after closedBehindPurge).log = [.purgeStarted, .purgeSettled, .started 1] := rfl
  intro exclude
  rw [log] at exclude
  exact (exclude [] [.purgeSettled, .started 1] rfl).2 1 (by simp)

/-- A write that was admitted in time settles before the purge; one that comes too late reads the
record and is refused. -/
def closedInTime : List SessionEndEvent :=
  [.runMemoryOperation, .start 0, .advance 0 false, .advance 0 false, .advance 0 false,
    .recordTerminates, .closeAdmission, .emit, .finalizeMemory true, .advance 0 false, .start 1,
    .advance 1 false, .advance 1 false]

theorem session_memory_purged_closedInTime :
    PurgesExclude (after closedInTime).log ∧
      (after closedInTime).log = [.started 0, .settled 0, .purgeStarted, .purgeSettled] := by
  refine ⟨session_memory_purged closedInTime fun before rest split => ?_, rfl⟩
  have only : before = closedInTime.take 6 := by
    simp [closedInTime, List.cons_eq_append_iff] at split
    simp [closedInTime, split.1]
  subst only
  rintro ⟨m, n, _, _, _, lt, _, _, atN, _⟩
  have one : (after (closedInTime.take 6)).queue.jobs.length = 1 := rfl
  have bound := (List.getElem?_eq_some_iff.mp atN).1
  omega

end SessionEndCoordinator

end Tvic
