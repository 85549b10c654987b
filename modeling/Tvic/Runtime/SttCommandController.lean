import Tvic.Lib.PromiseTable
import Tvic.Lib.Run
import Tvic.Lib.Text

/-!
# The command controller of a speech-to-text stream

`SerialSttCommandController` of `packages/runtime/src/stt-command-controller.ts`. A step is what runs
between two awaits, or something that the stream or a timer does. The worker stands at an `await` or has
stopped; a race between the stream, a timer and the abort signal is decided by the first of them, and
the worker goes on in a later step. Callers may act between any two steps.

The reporters of audio usage do not throw where a write begins; what they throw later fails the
controller. Errors are told apart by where they come from.
-/
namespace Tvic

open Lib

/-- The limits, and what the stream offers. -/
structure SttCommandSettings where
  maxBufferedBytes : Nat
  maxBufferedCommands : Nat
  /-- `stream.commitMode === "none"` -/
  commitModeNone : Bool
  /-- `typeof stream.updateAgentContext === "function"` -/
  updatesAgentContext : Bool

inductive SttCommandError (ε : Type) where
  | closed
  | bufferOverflow
  | invalidContext
  | contextUpdateMissing
  | audioWriteTimeout
  | commitTimeout
  | contextUpdateTimeout
  | drainTimeout
  /-- What the stream, a reporter or the caller of `abort` gives as the reason. -/
  | given (error : ε)
  deriving DecidableEq, Repr

inductive Settlement (ε : Type) where
  | fulfilled
  | rejected (error : SttCommandError ε)
  deriving DecidableEq, Repr

/-- The promises of commits and contexts are known by their place in the table. -/
inductive SttCommand (κ : Type) where
  | audio (chunk : κ)
  | agentContext (context : Text) (waiter : Nat)
  | commit (promise : Nat)
  deriving DecidableEq, Repr

/-- A call of `stream.sendAudio` or `stream.commit`. -/
inductive SttStreamCall (κ : Type) where
  | sendAudio (chunk : κ)
  | commit (promise : Nat)
  deriving DecidableEq, Repr

/-- Where `#run` stands. In a race, whether the stream has been called, and how the race is decided. -/
inductive SttWorker (κ ε : Type) where
  /-- `await this.#wake` -/
  | waiting
  /-- The wait is over, and the loop is about to go on. -/
  | woken
  | sendingAudio (chunk : κ) (called : Bool) (race : Option (Settlement ε))
  | committing (promise : Nat) (called : Bool) (race : Option (Settlement ε))
  | stopped
  deriving DecidableEq, Repr

inductive ContextWritePhase (ε : Type) where
  /-- Behind the tail of the chain. -/
  | queued
  | updating (race : Option (Settlement ε))
  deriving DecidableEq, Repr

structure ContextWrite (ε : Type) where
  waiter : Nat
  context : Text
  phase : ContextWritePhase ε
  deriving DecidableEq, Repr

inductive SttDrain where
  | idle
  | waiting
  /-- The worker and the context writes have ended in time. -/
  | drained
  | expired
  | closing
  /-- With whether the controller had failed or been aborted by then. -/
  | resolved (terminated : Bool)
  | rejected
  deriving DecidableEq, Repr

structure SttCommandController (κ ε : Type) where
  commands : List (SttCommand κ)
  bufferedBytes : Int
  accepting : Bool
  terminal : Bool
  drainRequested : Bool
  worker : SttWorker κ ε
  /-- The promise that `#activeCommitReject` rejects. -/
  activeCommit : Option Nat
  pendingAgentContextCommands : List Nat
  /-- In the order of the chain; those before have settled. -/
  contextWrites : List (ContextWrite ε)
  contextWriteTail : Bool
  drain : SttDrain
  closeStarted : Bool
  streamClosed : Bool
  failure : Option (SttCommandError ε)
  promises : PromiseTable (Settlement ε)
  /-- The audio and the commits that have been admitted, the calls of the stream, and those of them that
  the stream has fulfilled in time. -/
  admitted : List (SttStreamCall κ)
  handed : List (SttStreamCall κ)
  completed : List (SttStreamCall κ)
  deriving DecidableEq, Repr

variable {κ ε : Type}

def SttWorker.wake : SttWorker κ ε → SttWorker κ ε
  | .waiting => .woken
  | worker => worker

def abortRace (error : SttCommandError ε) (race : Option (Settlement ε)) : Option (Settlement ε) :=
  race.or (some (.rejected error))

def SttWorker.abort (error : SttCommandError ε) : SttWorker κ ε → SttWorker κ ε
  | .sendingAudio chunk called race => .sendingAudio chunk called (abortRace error race)
  | .committing promise called race => .committing promise called (abortRace error race)
  | worker => worker

def ContextWrite.abort (error : SttCommandError ε) (write : ContextWrite ε) : ContextWrite ε :=
  match write.phase with
  | .updating race => { write with phase := .updating (abortRace error race) }
  | .queued => write

/-- The calls that have been fulfilled, once one more has settled. -/
def Settlement.complete (outcome : Settlement ε) (call : SttStreamCall κ)
    (completed : List (SttStreamCall κ)) : List (SttStreamCall κ) :=
  match outcome with
  | .fulfilled => completed ++ [call]
  | .rejected _ => completed

def SttCommand.promise? : SttCommand κ → Option Nat
  | .audio _ => none
  | .agentContext _ waiter => some waiter
  | .commit promise => some promise

namespace SttCommandController

def start : SttCommandController κ ε where
  commands := []
  bufferedBytes := 0
  accepting := true
  terminal := false
  drainRequested := false
  worker := .waiting
  activeCommit := none
  pendingAgentContextCommands := []
  contextWrites := []
  contextWriteTail := false
  drain := .idle
  closeStarted := false
  streamClosed := false
  failure := none
  promises := []
  admitted := []
  handed := []
  completed := []

/-! ## Failing and aborting -/

def signalWork (c : SttCommandController κ ε) : SttCommandController κ ε :=
  { c with worker := c.worker.wake }

def settle (promise : Nat) (outcome : Settlement ε) (c : SttCommandController κ ε) :
    SttCommandController κ ε :=
  { c with promises := c.promises.settle promise outcome }

def rejectQueued (error : SttCommandError ε) (c : SttCommandController κ ε) :
    SttCommandController κ ε :=
  signalWork
    { c with
      bufferedBytes := 0
      commands := []
      pendingAgentContextCommands := []
      promises :=
        (c.promises.settleAll (c.commands.filterMap SttCommand.promise?) (.rejected error)).settleAll
          c.pendingAgentContextCommands (.rejected error) }

def abortSignal (error : SttCommandError ε) (c : SttCommandController κ ε) :
    SttCommandController κ ε :=
  { c with
    worker := c.worker.abort error
    contextWrites := c.contextWrites.map (ContextWrite.abort error) }

def rejectActiveCommit (error : SttCommandError ε) (c : SttCommandController κ ε) :
    SttCommandController κ ε :=
  { c with
    activeCommit := none
    promises := c.promises.settleAll c.activeCommit.toList (.rejected error) }

/-- What `#fail` and `#abort` do alike. -/
def terminate (error : SttCommandError ε) (c : SttCommandController κ ε) :
    SttCommandController κ ε :=
  rejectQueued error
    (rejectActiveCommit error (abortSignal error { c with accepting := false, terminal := true }))

def rejectFailure (error : SttCommandError ε) (c : SttCommandController κ ε) :
    SttCommandController κ ε :=
  { c with failure := c.failure.or (some error) }

def closeStream (c : SttCommandController κ ε) : SttCommandController κ ε :=
  { c with closeStarted := true }

def fail (error : SttCommandError ε) (c : SttCommandController κ ε) : SttCommandController κ ε :=
  if c.terminal then c else closeStream (rejectFailure error (terminate error c))

def abort (error : SttCommandError ε) (c : SttCommandController κ ε) : SttCommandController κ ε :=
  closeStream (signalWork (terminate error c))

/-! ## Admission -/

def rejectedPromise (error : SttCommandError ε) (c : SttCommandController κ ε) :
    SttCommandController κ ε :=
  { c with promises := c.promises ++ [some (.rejected error)] }

section

variable (settings : SttCommandSettings) (byteLength : κ → Nat)

/-- With what the returned promise is settled, which it is from the start. -/
def admitAudio (chunk : κ) (c : SttCommandController κ ε) :
    SttCommandController κ ε × Settlement ε :=
  if c.terminal || !c.accepting then (c, .rejected .closed)
  else if settings.maxBufferedCommands ≤ c.commands.length ∨
      settings.maxBufferedBytes < c.bufferedBytes + byteLength chunk then
    (c.fail .bufferOverflow, .rejected .bufferOverflow)
  else
    (signalWork
      { c with
        commands := c.commands ++ [.audio chunk]
        bufferedBytes := c.bufferedBytes + byteLength chunk
        admitted := c.admitted ++ [.sendAudio chunk] }, .fulfilled)

def admitCommit (c : SttCommandController κ ε) : SttCommandController κ ε :=
  if c.terminal || !c.accepting then c.rejectedPromise .closed
  else if settings.maxBufferedCommands ≤ c.commands.length then
    (c.fail .bufferOverflow).rejectedPromise .bufferOverflow
  else
    signalWork
      { c with
        promises := c.promises ++ [none]
        commands := c.commands ++ [.commit c.promises.length]
        admitted := c.admitted ++ [.commit c.promises.length] }

def maxRuntimeSttAgentContextCharacters : Nat := 1500

/-- `coalescePendingSttAgentContext`: the first context in the queue is replaced. -/
def coalesceContext? (context : Text) : List (SttCommand κ) → Option (List (SttCommand κ))
  | [] => none
  | .agentContext _ waiter :: rest => some (.agentContext context waiter :: rest)
  | command :: rest => (coalesceContext? context rest).map (command :: ·)

def admitAgentContext (context : Text) (c : SttCommandController κ ε) :
    SttCommandController κ ε :=
  if c.terminal || !c.accepting then c.rejectedPromise .closed
  else if maxRuntimeSttAgentContextCharacters < (characters context).length then
    c.rejectedPromise .invalidContext
  else if !settings.updatesAgentContext then c.rejectedPromise .contextUpdateMissing
  else
    match coalesceContext? context c.commands with
    | some commands => { c with commands }
    | none =>
      if settings.maxBufferedCommands ≤
          c.commands.length + c.pendingAgentContextCommands.length then
        (c.fail .bufferOverflow).rejectedPromise .bufferOverflow
      else
        signalWork
          { c with
            promises := c.promises ++ [none]
            commands := c.commands ++ [.agentContext context c.promises.length] }

/-! ## `#run` -/

/-- The write of a context goes behind those before it; the very first is dispatched at once. -/
def startContextWrite (context : Text) (waiter : Nat) (c : SttCommandController κ ε) :
    SttCommandController κ ε :=
  { c with
    pendingAgentContextCommands := c.pendingAgentContextCommands ++ [waiter]
    contextWrites := c.contextWrites ++
      [{ waiter, context, phase := if c.contextWriteTail then .queued else .updating none }]
    contextWriteTail := true }

/-- The rounds of the loop up to the next await, while the controller is not terminal. -/
def runCommands : List (SttCommand κ) → SttCommandController κ ε → SttCommandController κ ε
  | [], c =>
    if c.drainRequested then { c with commands := [], worker := .stopped }
    else { c with commands := [], worker := .waiting }
  | .audio chunk :: rest, c =>
    { c with
      commands := rest
      bufferedBytes := c.bufferedBytes - byteLength chunk
      worker := .sendingAudio chunk false none }
  | .agentContext context waiter :: rest, c =>
    runCommands rest ({ c with commands := rest }.startContextWrite context waiter)
  | .commit promise :: rest, c =>
    if settings.commitModeNone then
      runCommands rest ({ c with commands := rest }.settle promise .fulfilled)
    else
      { c with commands := rest, activeCommit := some promise, worker := .committing promise false none }

def runLoop (c : SttCommandController κ ε) : SttCommandController κ ε :=
  if c.terminal then { c with worker := .stopped }
  else runCommands settings byteLength c.commands { c with worker := .woken }

/-- The worker goes on once what it awaits is settled. -/
def resumeWorker (c : SttCommandController κ ε) : SttCommandController κ ε :=
  match c.worker with
  | .woken => c.runLoop settings byteLength
  | .sendingAudio _ true (some .fulfilled) => c.runLoop settings byteLength
  | .sendingAudio _ true (some (.rejected error)) => (c.fail error).runLoop settings byteLength
  | .committing promise true (some .fulfilled) =>
    { c.settle promise .fulfilled with activeCommit := none }.runLoop settings byteLength
  | .committing promise true (some (.rejected error)) =>
    { (c.settle promise (.rejected error)).fail error with activeCommit := none }.runLoop settings
      byteLength
  | _ => c

end

/-- The stream is called one microtask after the worker has come to the command. -/
def callStream (c : SttCommandController κ ε) : SttCommandController κ ε :=
  match c.worker with
  | .sendingAudio chunk false race =>
    { c with worker := .sendingAudio chunk true race, handed := c.handed ++ [.sendAudio chunk] }
  | .committing promise false race =>
    { c with worker := .committing promise true race, handed := c.handed ++ [.commit promise] }
  | _ => c

/-- The promise of the stream settles; what comes too late is not seen. -/
def streamSettles (outcome : Settlement ε) (c : SttCommandController κ ε) :
    SttCommandController κ ε :=
  match c.worker with
  | .sendingAudio chunk true none =>
    { c with
      worker := .sendingAudio chunk true (some outcome)
      completed := outcome.complete (.sendAudio chunk) c.completed }
  | .committing promise true none =>
    { c with
      worker := .committing promise true (some outcome)
      completed := outcome.complete (.commit promise) c.completed }
  | _ => c

def streamTimesOut (c : SttCommandController κ ε) : SttCommandController κ ε :=
  match c.worker with
  | .sendingAudio chunk called none =>
    { c with worker := .sendingAudio chunk called (some (.rejected .audioWriteTimeout)) }
  | .committing promise called none =>
    { c with worker := .committing promise called (some (.rejected .commitTimeout)) }
  | _ => c

/-! ## Contexts -/

def settleAgentContext (waiter : Nat) (outcome : Settlement ε) (c : SttCommandController κ ε) :
    SttCommandController κ ε :=
  if waiter ∈ c.pendingAgentContextCommands then
    { c.settle waiter outcome with
      pendingAgentContextCommands := c.pendingAgentContextCommands.filter (· ≠ waiter) }
  else c

/-- `dispatch` of the write whose turn it is. -/
def dispatchContext (c : SttCommandController κ ε) : SttCommandController κ ε :=
  match c.contextWrites with
  | { waiter, context, phase := .queued } :: rest =>
    if waiter ∉ c.pendingAgentContextCommands then { c with contextWrites := rest }
    else if c.terminal then
      { c.settleAgentContext waiter (.rejected .closed) with contextWrites := rest }
    else { c with contextWrites := { waiter, context, phase := .updating none } :: rest }
  | _ => c

/-- The stream or the timer decides the race of the write whose turn it is. -/
def decideContext (outcome : Settlement ε) (c : SttCommandController κ ε) :
    SttCommandController κ ε :=
  match c.contextWrites with
  | { waiter, context, phase := .updating none } :: rest =>
    { c with contextWrites := { waiter, context, phase := .updating (some outcome) } :: rest }
  | _ => c

def resumeContext (c : SttCommandController κ ε) : SttCommandController κ ε :=
  match c.contextWrites with
  | { waiter, context := _, phase := .updating (some outcome) } :: rest =>
    { c.settleAgentContext waiter outcome with contextWrites := rest }
  | _ => c

/-! ## Draining -/

def requestDrain (c : SttCommandController κ ε) : SttCommandController κ ε :=
  match c.drain with
  | .idle => signalWork { c with accepting := false, drainRequested := true, drain := .waiting }
  | _ => c

/-- The worker has stopped and no context is being written. -/
def finishDrain (c : SttCommandController κ ε) : SttCommandController κ ε :=
  match c.drain, c.worker, c.contextWrites with
  | .waiting, .stopped, [] => { c with drain := .drained }
  | _, _, _ => c

def expireDrain (c : SttCommandController κ ε) : SttCommandController κ ε :=
  match c.drain with
  | .waiting => { c with drain := .expired }
  | _ => c

def resumeDrain (c : SttCommandController κ ε) : SttCommandController κ ε :=
  match c.drain with
  | .drained => { c.closeStream with drain := .closing }
  | .expired => { (c.rejectFailure .drainTimeout).abort .drainTimeout with drain := .rejected }
  | .closing => if c.streamClosed then { c with drain := .resolved c.terminal } else c
  | _ => c

/-- `stream.close()` settles, or its time is over. -/
def endClose (c : SttCommandController κ ε) : SttCommandController κ ε :=
  if c.closeStarted then { c with streamClosed := true } else c

/-! ## Steps -/

inductive Event (κ ε : Type) where
  | admitAudio (chunk : κ)
  | admitCommit
  | admitAgentContext (context : Text)
  | requestDrain
  | abort (error : SttCommandError ε)
  | callStream
  | streamSettles (outcome : Settlement ε)
  | streamTimesOut
  | resumeWorker
  /-- A reporter of audio usage throws. -/
  | usageFails (error : ε)
  | dispatchContext
  | contextSettles (outcome : Settlement ε)
  | contextTimesOut
  | resumeContext
  | finishDrain
  | expireDrain
  | resumeDrain
  | endClose
  deriving DecidableEq, Repr

def step (settings : SttCommandSettings) (byteLength : κ → Nat) (c : SttCommandController κ ε) :
    Event κ ε → SttCommandController κ ε
  | .admitAudio chunk => (c.admitAudio settings byteLength chunk).1
  | .admitCommit => c.admitCommit settings
  | .admitAgentContext context => c.admitAgentContext settings context
  | .requestDrain => c.requestDrain
  | .abort error => c.abort error
  | .callStream => c.callStream
  | .streamSettles outcome => c.streamSettles outcome
  | .streamTimesOut => c.streamTimesOut
  | .resumeWorker => c.resumeWorker settings byteLength
  | .usageFails error => c.fail (.given error)
  | .dispatchContext => c.dispatchContext
  | .contextSettles outcome => c.decideContext outcome
  | .contextTimesOut => c.decideContext (.rejected .contextUpdateTimeout)
  | .resumeContext => c.resumeContext
  | .finishDrain => c.finishDrain
  | .expireDrain => c.expireDrain
  | .resumeDrain => c.resumeDrain
  | .endClose => c.endClose

end SttCommandController

end Tvic
