import Tvic.Lib.PromiseChain

/-!
# The session-end coordinator

What `SessionEndCoordinator` of `packages/runtime/src/session-end.ts` does with the memory of one
session: the queue of its operations, the admission flag, and the observation that `emit` starts,
whose finalization goes through the same queue. Timeouts only decide how long an observation waits
for its finalization, so its end may come at any time after the finalization was queued.
-/
namespace Tvic

open Lib

/-- What can be seen at the memory of the session. -/
inductive MemoryHappening where
  | started (operation : Nat)
  | settled (operation : Nat)
  | purgeStarted
  | purgeSettled
  deriving DecidableEq, Repr

/-- What a task finds when it goes on. -/
structure MemoryTaskInput where
  admissionClosed : Bool
  recordTerminal : Bool
  readFails : Bool

/-- A task of the queue; `deletes` is whether `shouldDeleteSessionMemory` holds and the memory has
the capability to purge a scope. -/
inductive MemoryTask where
  | operation (id : Nat)
  | finalization (deletes : Bool)
  deriving DecidableEq, Repr

abbrev MemoryProgram := Program MemoryTaskInput (List MemoryHappening) Unit

namespace MemoryTask

def silently (rest : MemoryTaskInput → MemoryProgram) : MemoryProgram :=
  .step (fun _ log => log) fun input _ => rest input

def happening (happens : MemoryHappening) (rest : MemoryProgram) : MemoryProgram :=
  .step (fun _ log => log ++ [happens]) fun _ _ => rest

/-- The task that `runMemoryOperation` queues. When its turn comes and admission is open it reads
the record first; when admission was closed in the meantime it goes ahead. -/
def runOperation (id : Nat) : MemoryProgram :=
  .step (fun input log => if input.admissionClosed then log ++ [.started id] else log)
    fun input _ =>
      if input.admissionClosed then happening (.settled id) (.done ())
      else
        silently fun record =>
          if record.readFails || record.recordTerminal then .done ()
          else happening (.started id) (happening (.settled id) (.done ()))

/-- The task that `#finalizeMemory` queues. -/
def finalizeMemory (deletes : Bool) : MemoryProgram :=
  if deletes then happening .purgeStarted (happening .purgeSettled (.done ()))
  else silently fun _ => .done ()

def program : MemoryTask → MemoryProgram
  | .operation id => runOperation id
  | .finalization deletes => finalizeMemory deletes

end MemoryTask

/-- How far the observation is: `#observations` holds the session until it is over, and
`#finalizations` a little longer. -/
inductive Observation where
  | none
  | audioTap
  | memory
  | gone
  deriving DecidableEq, Repr

structure SessionEndCoordinator where
  queue : PromiseChain MemoryTask MemoryTaskInput (List MemoryHappening) Unit
  admissionClosed : Bool
  observation : Observation
  memoryFinalizationsPending : Bool
  /-- The finalizations that have not reported back. -/
  reporting : List Nat
  recordTerminal : Bool

inductive SessionEndEvent where
  | recordTerminates
  | closeAdmission
  | runMemoryOperation
  | emit
  | finalizeMemory (deletes : Bool)
  | finalizationReports (task : Nat)
  | observationEnds
  | emitReturns
  | start (task : Nat)
  | advance (task : Nat) (readFails : Bool)
  | clearQueue (task : Nat)

namespace SessionEndCoordinator

def new : SessionEndCoordinator := ⟨.new [], false, .none, false, [], false⟩

variable (coordinator : SessionEndCoordinator)

def log : List MemoryHappening :=
  coordinator.queue.state

def queueStep (event : ChainEvent MemoryTask MemoryTaskInput) : SessionEndCoordinator :=
  { coordinator with queue := coordinator.queue.step MemoryTask.program event }

def releaseAdmissionIfReady : SessionEndCoordinator :=
  if coordinator.observation = .audioTap ∨ coordinator.observation = .memory ∨
      coordinator.memoryFinalizationsPending then coordinator
  else { coordinator with admissionClosed := false }

/-- The calls and what goes on between them; an event that is not enabled changes nothing. `emit`
is called for a session whose record is terminal, and awaits an observation that is under way. -/
def step : SessionEndEvent → SessionEndCoordinator
  | .recordTerminates => { coordinator with recordTerminal := true }
  | .closeAdmission => { coordinator with admissionClosed := true }
  | .runMemoryOperation =>
    if coordinator.admissionClosed then coordinator
    else coordinator.queueStep (.submit (.operation coordinator.queue.jobs.length))
  | .emit =>
    if coordinator.recordTerminal ∧ coordinator.observation = .none then
      { coordinator with observation := .audioTap }
    else coordinator
  | .finalizeMemory deletes =>
    if coordinator.observation = .audioTap then
      { coordinator.queueStep (.submit (.finalization deletes)) with
        observation := .memory
        memoryFinalizationsPending := true
        reporting := coordinator.reporting ++ [coordinator.queue.jobs.length] }
    else coordinator
  | .finalizationReports task =>
    if task ∈ coordinator.reporting ∧ coordinator.queue.settledAt task then
      releaseAdmissionIfReady { coordinator with
        memoryFinalizationsPending := false
        reporting := coordinator.reporting.erase task }
    else coordinator
  | .observationEnds =>
    if coordinator.observation = .memory then
      releaseAdmissionIfReady { coordinator with observation := .gone }
    else coordinator
  | .emitReturns =>
    if coordinator.observation = .gone then { coordinator with observation := .none }
    else coordinator
  | .start task => coordinator.queueStep (.start task)
  | .advance task readFails =>
    coordinator.queueStep (.advance task
      ⟨coordinator.admissionClosed, coordinator.recordTerminal, readFails⟩)
  | .clearQueue task => coordinator.queueStep (.cleanup task)

def after (events : List SessionEndEvent) : SessionEndCoordinator :=
  run step new events

/-- A memory operation that was admitted after a purge was queued has not had its turn. -/
def WaitingBehindPurge : Prop :=
  ∃ (m n id : Nat) (purge waiting : Job MemoryTask MemoryTaskInput (List MemoryHappening) Unit),
    m < n ∧ coordinator.queue.jobs[m]? = some purge ∧ purge.operation = .finalization true ∧
      coordinator.queue.jobs[n]? = some waiting ∧ waiting.operation = .operation id ∧
      waiting.inputs = []

end SessionEndCoordinator

/-- Whenever a purge starts, every operation that has started has settled, and none starts
afterwards. -/
def PurgesExclude (log : List MemoryHappening) : Prop :=
  ∀ before after, log = before ++ .purgeStarted :: after →
    (∀ id, .started id ∈ before → .settled id ∈ before) ∧ ∀ id, .started id ∉ after

end Tvic
