import Tvic.Core.Session
import Tvic.Runtime.ConversationPolicy
import Tvic.Runtime.TerminalArbitration

/-!
# The turns of a voice pipeline

`#handleTranscript` of `PipelineVoiceLoop`, with the persistence health around it, `#recoverFailedTurn`,
`#endSessionAfterPersistenceFailure`, the turn chain and the end of `#runBody`, from one await to the
next. Beside the turn in progress run the interruption checkpoint, durable calls that were given up
and may still commit, shutdowns, and other users of the runtime, who may take the session's clock away.

Of the store the model keeps the turns of the session, the number of the last and which one is
current. A turn is named by its place among them. Deadlines are not modelled: whatever waits for one
may also give up.
-/
namespace Tvic

open Lib (Text)

/-! ## The store -/

def TurnStatus.isTerminal : TurnStatus → Bool
  | .completed | .cancelled | .failed => true
  | _ => false

structure StoredTurn where
  sequence : Nat
  transcript : Text
  status : TurnStatus
  outputText : Option Text
  deriving DecidableEq, Repr

/-- What the durable calls of the loop read and write of a session. -/
structure TurnStore where
  turns : List StoredTurn
  turnSequence : Nat
  currentTurnId : Option Nat
  /-- The session is active, not terminal. -/
  active : Bool
  deriving DecidableEq, Repr

/-- A durable call of the loop; a call for a tool leaves the turns alone. -/
inductive DurableCall where
  | startTurn (transcript : Text)
  | updateTurnStatus (turnId : Nat) (status : TurnStatus)
  | checkpointTurnInterruption (turnId : Nat)
  | endTurn (turnId : Nat) (status : TurnStatus) (outputText : Option Text)
  | toolCall
  deriving DecidableEq, Repr

namespace TurnStore

variable (store : TurnStore)

/-- Whether some turn of the session is not terminal. -/
def hasOpenTurn : Bool := store.turns.any fun turn => !turn.status.isTerminal

/-- `startTurn` throws unless the session is active, and for `turn.already_active`. -/
def mayStart : Bool := store.active && !store.hasOpenTurn

def startTurn (transcript : Text) : TurnStore :=
  { store with
    turns := store.turns ++ [⟨store.turnSequence + 1, transcript, .started, none⟩]
    turnSequence := store.turnSequence + 1
    currentTurnId := some store.turns.length }

def changeOpen (turnId : Nat) (change : StoredTurn → StoredTurn) : TurnStore :=
  { store with
    turns := store.turns.modify turnId fun turn => if turn.status.isTerminal then turn else change turn }

def endTurn (turnId : Nat) (status : TurnStatus) (outputText : Option Text) : TurnStore :=
  { store.changeOpen turnId fun turn => { turn with status := status, outputText := outputText } with
    currentTurnId := if store.currentTurnId = some turnId then none else store.currentTurnId }

def endSession (failed : Bool) : TurnStore :=
  { store with
    turns := store.turns.map fun turn =>
      if turn.status.isTerminal then turn
      else { turn with status := if failed then .failed else .cancelled }
    currentTurnId := none
    active := false }

def terminalStatus (turnId : Nat) : Option TurnStatus :=
  match store.turns[turnId]? with
  | some turn => if turn.status.isTerminal then some turn.status else none
  | none => none

/-- What a call leaves once it commits. -/
def commit : DurableCall → TurnStore
  | .startTurn transcript => if store.mayStart then store.startTurn transcript else store
  | .updateTurnStatus turnId status => store.changeOpen turnId fun turn =>
      if turn.status = .interrupted then turn else { turn with status := status }
  | .checkpointTurnInterruption turnId =>
    store.changeOpen turnId fun turn => { turn with status := .interrupted }
  | .endTurn turnId status outputText =>
    if (store.terminalStatus turnId).isSome then store else store.endTurn turnId status outputText
  | .toolCall => store

/-- The candidate `#recoverFailedTurn` takes from a snapshot, given the current turn the snapshot has. -/
def lateTurn (currentTurnId : Option Nat) (afterSequence : Nat) : Option Nat :=
  match currentTurnId with
  | some turnId =>
    if (store.turns[turnId]?).any fun turn => afterSequence < turn.sequence then some turnId else none
  | none => store.turns.findIdx? fun turn => afterSequence < turn.sequence

end TurnStore

/-- How a durable call ends for its caller. One that times out may commit later; the timeout error of
the runtime lets the loop track it, the timer of `settleWithinDeadline` does not. -/
inductive CallOutcome where
  | resolves
  | rejects (committed unavailable : Bool)
  | timesOut (tracked : Bool)
  deriving DecidableEq, Repr

def CallOutcome.isResolved : CallOutcome → Bool
  | .resolves => true
  | _ => false

/-- `isBackendUnavailableError` of the error of a call. -/
def CallOutcome.isUnavailable : CallOutcome → Bool
  | .rejects _ unavailable => unavailable
  | .timesOut _ => true
  | .resolves => false

/-- A call that was given up and has not settled. -/
structure LateWrite where
  id : Nat
  call : DurableCall
  committed : Bool
  tracked : Bool
  deriving DecidableEq, Repr

/-! ## The loop -/

/-- The events of the run. Text, tool and recovery events are all `output`. -/
inductive VoiceEvent where
  | turnStarted (turnId : Nat)
  | transcriptDelta (turnId : Nat) (text : Text)
  | output
  | error
  | turnCompleted (turnId : Nat) (status : TurnStatus)
  | callEnded (reason : TerminalKind) (totalTurns : Nat)
  deriving DecidableEq, Repr

/-- The local variables of `#handleTranscript` and the control of the active turn. -/
structure LiveTurn where
  turnId : Nat := 0
  transcript : Text := []
  sequenceBeforeStart : Nat := 0
  finalText : Text := []
  interruption : Option TurnCancellationReason := none
  aborted : Bool := false
  outputDelivered : Bool := false
  audioDelivered : Bool := false
  audioError : Bool := false
  interruptedText : Option Text := none
  terminalWriteMayBeLate : Bool := false
  recoveryGeneration : Nat := 0
  turnCompletedEmitted : Bool := false
  deriving DecidableEq, Repr

/-- Who has called `#recoverFailedTurn`. -/
inductive RecoveryCaller where
  | turnStart
  | turnFailure
  /-- After the terminal write of the failure path has failed. -/
  | terminalWrite
  deriving DecidableEq, Repr

inductive RecoveryStep where
  | pendingWrites (writes : List Nat)
  | readingSession
  | readingTurns (currentTurnId : Option Nat)
  | deciding
  | terminalizing
  deriving DecidableEq, Repr

/-- Who has called `#endSessionAfterPersistenceFailure`. -/
inductive EndingCaller where
  | gate
  | turnStart
  | terminalWrite
  | turnFailure
  deriving DecidableEq, Repr

/-- What `#handleTranscript` awaits. -/
inductive TranscriptPhase where
  | idle
  | gate
  | starting
  | thinking
  | running
  | speaking
  | delivering (attempted : Bool)
  | ending (cancelled : Bool)
  /-- `#updateMemory` before the turn is observed with this status. -/
  | remembering (status : TurnStatus)
  | readingTerminal
  /-- The terminal write of the failure path. -/
  | failing
  | recovering (caller : RecoveryCaller) (candidate : Option Nat) (afterSequence : Nat)
      (step : RecoveryStep)
  | endingSession (caller : EndingCaller)
  /-- The `finally`. -/
  | finishing
  deriving DecidableEq, Repr

/-- `#persistenceGate`: resolved with `true`, waiting for a checkpoint, waiting for the session to be
ended after a checkpoint failed, or resolved with `false`. -/
inductive PersistenceGate where
  | recovered
  | checkpointing
  | failing
  | failed
  deriving DecidableEq, Repr

/-- What was the case when `startTurn` was called. -/
structure StartCall where
  store : TurnStore
  lateWrites : List LateWrite
  sessionEnding : Bool
  deriving DecidableEq, Repr

/-- A terminal state the loop has come to know: whether through the acknowledgement of the turn's own
terminal write, as an acknowledged barge-in, and with which text remembered. -/
structure KnownEnd where
  turnId : Nat
  status : TurnStatus
  acknowledged : Bool
  bargeIn : Bool
  heard : Text
  deriving DecidableEq, Repr

structure PipelineVoiceLoop where
  audioTap : Bool
  store : TurnStore
  lateWrites : List LateWrite := []
  nextLateWrite : Nat := 0
  /-- Turns of late starts, which the runtime abandons. -/
  lateStarted : List Nat := []
  /-- The runtime has no clock for the session any more. -/
  clockLost : Bool := false
  phase : TranscriptPhase := .idle
  turn : LiveTurn := {}
  active : Bool := false
  turnChain : List Text := []
  inputEnded : Bool := false
  terminalShutdown : Bool := false
  lastTurnSequence : Nat
  turnsHandled : Nat := 0
  turnsFailed : Nat := 0
  nonCheckpointPersistenceDegraded : Bool := false
  checkpointPersistenceDegraded : Bool := false
  nonCheckpointPersistenceGeneration : Nat := 0
  /-- What `setPersistenceHealth` was told last. -/
  persistenceHealth : Bool := false
  persistenceGate : PersistenceGate := .recovered
  persistenceSessionEnding : Bool := false
  /-- How often the session was ended after a persistence failure. -/
  sessionEndings : Nat := 0
  events : List VoiceEvent := []
  eventsClosed : Bool := false
  /-- How the run promise was settled, each time. -/
  settlements : List (Option TerminalKind) := []
  policyCalls : List PolicyCall := []
  /-- The transcripts that were queued, and those whose handling has begun. -/
  queued : List Text := []
  begun : List Text := []
  startCalls : List StartCall := []
  knownEnds : List KnownEnd := []
  /-- The turn handled last was confirmed terminal. -/
  confirmed : Bool := false
  deriving DecidableEq

namespace PipelineVoiceLoop

variable (s : PipelineVoiceLoop)

def new (audioTap : Bool) (store : TurnStore) : PipelineVoiceLoop :=
  { audioTap := audioTap, store := store, lastTurnSequence := store.turnSequence }

/-- `#monotonicMs` does not throw. -/
def clockReadable : Bool := !s.clockLost || s.audioTap

def emitVoiceEvent (event : VoiceEvent) : PipelineVoiceLoop :=
  if s.eventsClosed then s else { s with events := s.events ++ [event] }

/-! ### Persistence health -/

def persistenceDegraded : Bool :=
  s.nonCheckpointPersistenceDegraded || s.checkpointPersistenceDegraded

/-- The runtime is told, and the active turn is aborted if writes fail. -/
def syncPersistenceHealth : PipelineVoiceLoop :=
  { s with
    persistenceHealth := s.persistenceDegraded
    turn := { s.turn with aborted := s.turn.aborted || (s.active && s.persistenceDegraded) } }

def emitPersistenceFailure (wasDegraded : Bool) : PipelineVoiceLoop :=
  if wasDegraded then s else s.emitVoiceEvent .error

def markPersistenceDegraded : PipelineVoiceLoop :=
  { s with
    nonCheckpointPersistenceGeneration :=
      if s.nonCheckpointPersistenceDegraded then s.nonCheckpointPersistenceGeneration
      else s.nonCheckpointPersistenceGeneration + 1
    nonCheckpointPersistenceDegraded := true }.syncPersistenceHealth.emitPersistenceFailure
      s.persistenceDegraded

def markCheckpointPersistenceDegraded : PipelineVoiceLoop :=
  { s with checkpointPersistenceDegraded := true }.syncPersistenceHealth.emitPersistenceFailure
    s.persistenceDegraded

def recoverCheckpointPersistence : PipelineVoiceLoop :=
  { s with checkpointPersistenceDegraded := false }.syncPersistenceHealth

def recoverNonCheckpointPersistence (generation : Nat) : PipelineVoiceLoop :=
  if generation = s.nonCheckpointPersistenceGeneration ∧ s.nonCheckpointPersistenceDegraded then
    { s with nonCheckpointPersistenceDegraded := false }.syncPersistenceHealth
  else s

/-! ### Durable calls -/

/-- What a durable call that has ended for its caller has done to the store, and may still do. -/
def settleCall (call : DurableCall) : CallOutcome → PipelineVoiceLoop
  | .resolves | .rejects true _ => { s with store := s.store.commit call }
  | .rejects false _ => s
  | .timesOut tracked =>
    { s with
      lateWrites := s.lateWrites ++ [⟨s.nextLateWrite, call, false, tracked⟩]
      nextLateWrite := s.nextLateWrite + 1 }

/-! ### Endings of a turn -/

def cancelledByBargeIn : Bool := s.turn.interruption = some .bargeIn

def memoryText : Text :=
  match s.turn.interruptedText with
  | some (unit :: rest) => unit :: rest
  | _ => s.turn.finalText

def knowEnd (status : TurnStatus) (acknowledged : Bool) : PipelineVoiceLoop :=
  { s with
    knownEnds := s.knownEnds ++
      [⟨s.turn.turnId, status, acknowledged, s.cancelledByBargeIn, s.memoryText⟩]
    confirmed := true }

def emitTurnCompleted (status : TurnStatus) : PipelineVoiceLoop :=
  if s.turn.turnCompletedEmitted then s
  else { s.emitVoiceEvent (.turnCompleted s.turn.turnId status) with
    turn := { s.turn with turnCompletedEmitted := true } }

def observeTerminalTurn (status : TurnStatus) (withError : Bool) : PipelineVoiceLoop :=
  let reported := if withError then s.emitVoiceEvent .error else s
  { reported.emitTurnCompleted status with phase := .finishing }

/-- `recordTurn` or `recordInterruptedTurn`, and then `#updateMemory`. -/
def remember (call : PolicyCall) (status : TurnStatus) : PipelineVoiceLoop :=
  { s with policyCalls := s.policyCalls ++ [call], phase := .remembering status }

def failTurn : PipelineVoiceLoop := { s with turnsFailed := s.turnsFailed + 1 }

/-- The terminal write of the turn, as cancelled or as completed, was acknowledged. -/
def turnEnded (cancelled : Bool) (status : TurnStatus) : PipelineVoiceLoop :=
  let known := s.knowEnd status true
  match status with
  | .completed => known.remember (.recordTurn s.turn.transcript s.turn.finalText) .completed
  | .failed => known.failTurn.observeTerminalTurn .failed true
  | _ =>
    if cancelled ∧ s.cancelledByBargeIn then
      known.remember (.recordInterruptedTurn s.turn.transcript s.memoryText) .cancelled
    else known.observeTerminalTurn .cancelled false

/-- How the failure path leaves the turn. -/
def concludeFailure : Option TurnStatus → PipelineVoiceLoop
  | some .completed => s.remember (.recordTurn s.turn.transcript s.turn.finalText) .completed
  | some .cancelled => s.observeTerminalTurn .cancelled false
  | _ => s.failTurn.observeTerminalTurn .failed true

/-! ### Ending the session -/

/-- The flags `#endSessionAfterPersistenceFailure` sets, once. -/
def beginSessionEnding : PipelineVoiceLoop :=
  { s with
    persistenceSessionEnding := true
    sessionEndings := s.sessionEndings + 1
    turnsFailed := max 1 s.turnsFailed }

/-- The failure path once it has, or has not, come to know the terminal turn. -/
def afterFailure : Option TurnStatus → PipelineVoiceLoop
  | some status =>
    ((s.knowEnd status false).recoverNonCheckpointPersistence
      s.turn.recoveryGeneration).concludeFailure (some status)
  | none =>
    if s.nonCheckpointPersistenceDegraded ∧ ¬ s.persistenceSessionEnding then
      { s.beginSessionEnding with phase := .endingSession .turnFailure }
    else s.concludeFailure none

/-- `#endSessionAfterPersistenceFailure` has returned. -/
def afterSessionEnding : EndingCaller → PipelineVoiceLoop
  | .gate | .turnStart => { s with phase := .idle }
  | .terminalWrite => s.afterFailure none
  | .turnFailure => s.concludeFailure none

def endSession (caller : EndingCaller) : PipelineVoiceLoop :=
  if s.persistenceSessionEnding then s.afterSessionEnding caller
  else { s.beginSessionEnding with phase := .endingSession caller }

/-! ### Recovery -/

def recoverFailedTurn (caller : RecoveryCaller) (candidate : Option Nat) (afterSequence : Nat) :
    PipelineVoiceLoop :=
  let pendingWrites := (s.lateWrites.filter (·.tracked)).map (·.id)
  { s with
    phase := .recovering caller candidate afterSequence
      (if pendingWrites = [] then .readingSession else .pendingWrites pendingWrites) }

def recovered (caller : RecoveryCaller) (terminal : Option TurnStatus) : PipelineVoiceLoop :=
  match caller, terminal with
  | .turnStart, some _ =>
    { s.recoverNonCheckpointPersistence s.turn.recoveryGeneration with phase := .idle, confirmed := true }
  | .turnStart, none => s.endSession .turnStart
  | .turnFailure, terminal => s.afterFailure terminal
  | .terminalWrite, some status => s.afterFailure (some status)
  | .terminalWrite, none => s.endSession .terminalWrite

/-- The turns of the snapshot are read. -/
def inspected (caller : RecoveryCaller) (candidate : Option Nat) (afterSequence : Nat)
    (currentTurnId : Option Nat) : PipelineVoiceLoop :=
  let candidate := candidate <|> s.store.lateTurn currentTurnId afterSequence
  match candidate.bind s.store.terminalStatus with
  | some status => s.recovered caller (some status)
  | none => { s with phase := .recovering caller candidate afterSequence .deciding }

/-! ### Throwing -/

/-- `#markPersistenceDegraded`, with the generation kept for the recovery. -/
def markForRecovery : PipelineVoiceLoop :=
  let marked := s.markPersistenceDegraded
  { marked with
    turn := { marked.turn with recoveryGeneration := marked.nonCheckpointPersistenceGeneration } }

/-- The `catch` around `startTurn` and the first status. -/
def startFailed (candidate : Option Nat) : PipelineVoiceLoop :=
  s.markForRecovery.failTurn.recoverFailedTurn .turnStart candidate s.turn.sequenceBeforeStart

/-- The `catch` around the turn. It reads the clock first, and when that throws nothing more is done. -/
def throwTurn : PipelineVoiceLoop :=
  if s.clockReadable then
    { s with
      turn := { s.turn with recoveryGeneration := s.nonCheckpointPersistenceGeneration }
      phase := .readingTerminal }
  else { s with phase := .finishing }

/-- Whether `#abortActive` gets past its guard. -/
def mayAbortActive : Bool :=
  s.active && s.turn.interruption.isNone && !s.turn.outputDelivered

def abortActive (reason : TurnCancellationReason) : PipelineVoiceLoop :=
  if s.mayAbortActive then
    { s with turn := { s.turn with interruption := some reason, aborted := true } }
  else s

/-- On to `deliverAssistantText`, which is called if the transport may be given text, and does nothing
for a turn that was barged in on. -/
def deliverText : PipelineVoiceLoop :=
  { s with
    phase := .delivering (!s.terminalShutdown && (!s.turn.aborted || s.turn.audioError) &&
      !s.cancelledByBargeIn) }

/-- The inner `catch`, around speaking. -/
def audioFailed : PipelineVoiceLoop :=
  let failed := { s with turn := { s.turn with audioError := true } }
  if failed.mayAbortActive && !failed.clockReadable then failed.throwTurn
  else (failed.abortActive .transportLost).deliverText

/-- Whether and how the turn is to end once the text was delivered, or not. -/
def textSettled (textDelivered : Option Bool) (alignedText : Text) : PipelineVoiceLoop :=
  let accepted := textDelivered = some true
  let outputDelivered := s.turn.audioDelivered || accepted
  let acceptedAfterTerminalShutdown := accepted && !s.turn.audioDelivered && s.terminalShutdown
  let settled := { s with turn := { s.turn with outputDelivered := outputDelivered } }
  if ¬ s.clockReadable then settled.throwTurn
  else if !outputDelivered || acceptedAfterTerminalShutdown then
    { settled with
      turn := { settled.turn with
        interruptedText := if s.cancelledByBargeIn then some alignedText else none }
      phase := .ending true }
  else { settled with phase := .ending false }

/-! ### Starting -/

/-- The gate has let the transcript through, or not. -/
def passGate (checkpointRecovered : Bool) : PipelineVoiceLoop :=
  if s.persistenceSessionEnding then { s with phase := .idle }
  else if !checkpointRecovered || s.persistenceDegraded then
    s.markPersistenceDegraded.endSession .gate
  else
    { s with
      phase := .starting
      turn := { transcript := s.turn.transcript, sequenceBeforeStart := s.lastTurnSequence }
      startCalls := s.startCalls ++ [⟨s.store, s.lateWrites, s.persistenceSessionEnding⟩] }

end PipelineVoiceLoop

/-- What the set-up of a turn meets: a shutdown to cancel it for, and an incremental TTS input whose
options throw. -/
structure TurnSetUp where
  shutdown : Option TurnCancellationReason := none
  incrementalTtsInputThrows : Bool := false
  deriving DecidableEq, Repr

namespace PipelineVoiceLoop

variable (s : PipelineVoiceLoop)

/-- The events of a new turn, which is active from then on. -/
def announceTurn : PipelineVoiceLoop :=
  ({ s with
      turnsHandled := s.turnsHandled + 1
      active := true
      turn := { s.turn with turnCompletedEmitted := false } }.emitVoiceEvent
    (.turnStarted s.turn.turnId)).emitVoiceEvent (.transcriptDelta s.turn.turnId s.turn.transcript)

/-- From the first status to the `try`. What throws here rejects at once, and leaves the turn active. -/
def setUpTurn (setUp : TurnSetUp) : PipelineVoiceLoop :=
  let announced := s.announceTurn
  if (setUp.shutdown.isSome && !s.clockReadable) || setUp.incrementalTtsInputThrows then
    { announced with phase := .idle }
  else
    { announced with
      phase := .running
      turn := { announced.turn with
        interruption := setUp.shutdown
        aborted := setUp.shutdown.isSome } }

/-! ### The end of the run -/

/-- `call_ended` is emitted, the events are closed and the run promise is settled. -/
def closeRun (reason : TerminalKind) (settlement : Option TerminalKind) : PipelineVoiceLoop :=
  { s.emitVoiceEvent (.callEnded reason s.turnsHandled) with
    eventsClosed := true
    settlements := s.settlements ++ [settlement] }

/-- The end of `#runBody`, which reports the error first if there is one. -/
def endRun (reason : TerminalKind) (resolves : Bool) : PipelineVoiceLoop :=
  if resolves then s.closeRun reason (some reason)
  else (s.emitVoiceEvent .error).closeRun reason none

end PipelineVoiceLoop

/-! ## Events -/

inductive LoopEvent where
  -- the run
  | speaks (transcript : Text)
  | inputEnds
  | begins
  | runEnds (reason : TerminalKind) (resolves : Bool)
  /-- `#runLegacy` throws for the clock, before it has awaited the turn chain. -/
  | runThrows (reason : TerminalKind)
  -- the turn
  | gateResolves
  | startSettles (outcome : CallOutcome)
  | thinkingSettles (outcome : CallOutcome) (setUp : TurnSetUp)
  | promptResolves (instruction : Option Text)
  | llmAnswers (text : Text)
  | callingToolSettles (outcome : CallOutcome)
  | toolCallSettles (outcome : CallOutcome)
  | bodyThrows
  /-- The turn is aborted, or has no TTS provider. -/
  | speechSkipped
  | speakingSettles (outcome : CallOutcome)
  | audioSettles (outputDelivered failed : Bool)
  | textSettles (textDelivered : Option Bool) (alignedText : Text)
  | turnEnds (outcome : CallOutcome)
  | remembered
  | terminalRead (found : Bool)
  | failedTurnEnds (outcome : CallOutcome)
  | turnFinished
  -- recovery
  | pendingWritesSettle
  | sessionRead
  | turnsRead
  | inspectionFails
  | recoveryWrites
  | recoveryWriteSettles (outcome : CallOutcome)
  | recoverySleeps
  | recoveryGivesUp
  | sessionEndingSettles
  -- meanwhile
  | emits
  | interrupted (cause : TurnCancellationReason)
  | abortsActive (reason : TurnCancellationReason)
  | signalAborts
  | shutsDown
  | clockIsLost
  | checkpointCommits
  /-- The checkpoint commits, and its caller is told otherwise. -/
  | checkpointWrites
  | checkpointDegrades (timedOut : Bool)
  | checkpointFails
  | checkpointEnds
  | lateCommits (id : Nat)
  | lateSettles (id : Nat)
  | abandons (turnId : Nat)
  /-- The session is ended, by the loop or by another caller. -/
  | sessionEnds (failed : Bool)
  deriving DecidableEq, Repr

namespace PipelineVoiceLoop

variable (s : PipelineVoiceLoop)

def enqueueTranscript (transcript : Text) : PipelineVoiceLoop :=
  if s.inputEnded ∨ transcript = [] then s
  else { s with turnChain := s.turnChain ++ [transcript], queued := s.queued ++ [transcript] }

def beginNext : PipelineVoiceLoop :=
  match s.phase, s.turnChain with
  | .idle, transcript :: rest =>
    { s with
      phase := .gate
      turn := { s.turn with transcript := transcript }
      turnChain := rest
      begun := s.begun ++ [transcript]
      confirmed := false }
  | _, _ => s

def startSettled (outcome : CallOutcome) : PipelineVoiceLoop :=
  -- A call the store does not admit cannot resolve.
  if outcome.isResolved && !s.store.mayStart then s
  else
    let called := s.settleCall (.startTurn s.turn.transcript) outcome
    if outcome.isResolved then
      { called with
        turn := { called.turn with turnId := s.store.turns.length }
        lastTurnSequence := s.store.turnSequence + 1
        phase := .thinking }
    else called.startFailed none

def thinkingSettled (outcome : CallOutcome) (setUp : TurnSetUp) : PipelineVoiceLoop :=
  let called := s.settleCall (.updateTurnStatus s.turn.turnId .thinking) outcome
  if outcome.isResolved then called.setUpTurn setUp
  -- Marked by `#persistTurnStatus`, and again by the `catch`.
  else called.markPersistenceDegraded.startFailed (some s.turn.turnId)

/-- A durable call within the turn; one that fails is thrown on to the `catch`. -/
def bodyCallSettled (call : DurableCall) (outcome : CallOutcome) : PipelineVoiceLoop :=
  let called := s.settleCall call outcome
  if outcome.isResolved then called else called.markPersistenceDegraded.throwTurn

def speakingSettled (outcome : CallOutcome) : PipelineVoiceLoop :=
  let called := s.settleCall (.updateTurnStatus s.turn.turnId .speaking) outcome
  if outcome.isResolved then { called with phase := .speaking }
  else called.markPersistenceDegraded.audioFailed

def audioSettled (outputDelivered failed : Bool) : PipelineVoiceLoop :=
  let delivered := { s with turn := { s.turn with outputDelivered := outputDelivered } }
  if failed then delivered.audioFailed
  else { delivered with turn := { delivered.turn with audioDelivered := outputDelivered } }.deliverText

def turnEndSettled (cancelled : Bool) (outcome : CallOutcome) : PipelineVoiceLoop :=
  let called := s.settleCall
    (.endTurn s.turn.turnId (if cancelled then .cancelled else .completed) (some s.turn.finalText))
    outcome
  if outcome.isResolved then
    match called.store.terminalStatus s.turn.turnId with
    | some status => called.turnEnded cancelled status
    | none => s
  else
    { called with turn := { called.turn with
        terminalWriteMayBeLate := outcome.isUnavailable } }.markPersistenceDegraded.throwTurn

def terminalReadSettled (found : Bool) : PipelineVoiceLoop :=
  match if found then s.store.terminalStatus s.turn.turnId else none with
  | some status => s.afterFailure (some status)
  | none =>
    if s.nonCheckpointPersistenceDegraded ∨ s.turn.terminalWriteMayBeLate then
      s.recoverFailedTurn .turnFailure (some s.turn.turnId) (s.lastTurnSequence - 1)
    else { s with phase := .failing }

def failedTurnEndSettled (outcome : CallOutcome) : PipelineVoiceLoop :=
  let called := s.settleCall (.endTurn s.turn.turnId .failed (some s.turn.finalText)) outcome
  if outcome.isResolved then
    match called.store.terminalStatus s.turn.turnId with
    | some status => called.afterFailure (some status)
    | none => s
  else
    called.markForRecovery.recoverFailedTurn .terminalWrite (some s.turn.turnId)
      (s.lastTurnSequence - 1)

/-- The `endTurn` of the recovery loop; a call its own timer gives up ends the loop. -/
def recoveryWriteSettled (caller : RecoveryCaller) (turnId : Nat) (afterSequence : Nat)
    (outcome : CallOutcome) : PipelineVoiceLoop :=
  let called := s.settleCall (.endTurn turnId .failed none) outcome
  let deciding := TranscriptPhase.recovering caller (some turnId) afterSequence .deciding
  match outcome with
  | .resolves =>
    match called.store.terminalStatus turnId with
    | some status => called.recovered caller (some status)
    | none => { called with phase := deciding }
  | .rejects .. | .timesOut true => { called.markPersistenceDegraded with phase := deciding }
  | .timesOut false => called.recovered caller none

/-- One event of the turn being handled, or of its recovery; one that cannot happen changes nothing. -/
def handle (event : LoopEvent) : PipelineVoiceLoop :=
  match s.phase, event with
  | .gate, .gateResolves =>
    match s.persistenceGate with
    | .recovered => s.passGate true
    | .failed => s.passGate false
    | _ => s
  | .starting, .startSettles outcome => s.startSettled outcome
  | .thinking, .thinkingSettles outcome setUp => s.thinkingSettled outcome setUp
  | .running, .promptResolves instruction =>
    { s with policyCalls := s.policyCalls ++ [.setTurnSystemInstruction instruction] }
  | .running, .llmAnswers text => { s with turn := { s.turn with finalText := text } }
  | .running, .callingToolSettles outcome =>
    s.bodyCallSettled (.updateTurnStatus s.turn.turnId .callingTool) outcome
  | .running, .toolCallSettles outcome => s.bodyCallSettled .toolCall outcome
  | .running, .bodyThrows => s.throwTurn
  | .running, .speechSkipped => s.deliverText
  | .running, .speakingSettles outcome => if s.turn.aborted then s else s.speakingSettled outcome
  | .speaking, .audioSettles outputDelivered failed => s.audioSettled outputDelivered failed
  | .delivering attempted, .textSettles textDelivered alignedText =>
    s.textSettled (if attempted then textDelivered else none) alignedText
  | .ending cancelled, .turnEnds outcome => s.turnEndSettled cancelled outcome
  | .remembering status, .remembered => s.observeTerminalTurn status false
  | .readingTerminal, .terminalRead found => s.terminalReadSettled found
  | .failing, .failedTurnEnds outcome => s.failedTurnEndSettled outcome
  | .finishing, .turnFinished => { s with active := false, phase := .idle }
  | .recovering caller candidate afterSequence (.pendingWrites writes), .pendingWritesSettle =>
    if s.lateWrites.any fun write => write.id ∈ writes then s
    else { s with phase := .recovering caller candidate afterSequence .readingSession }
  | .recovering caller candidate afterSequence .readingSession, .sessionRead =>
    { s with
      phase := .recovering caller candidate afterSequence (.readingTurns s.store.currentTurnId) }
  | .recovering caller candidate afterSequence (.readingTurns currentTurnId), .turnsRead =>
    s.inspected caller candidate afterSequence currentTurnId
  | .recovering caller candidate afterSequence .readingSession, .inspectionFails =>
    { s with phase := .recovering caller candidate afterSequence .deciding }
  | .recovering caller candidate afterSequence (.readingTurns _), .inspectionFails =>
    { s with phase := .recovering caller candidate afterSequence .deciding }
  | .recovering caller (some turnId) afterSequence .deciding, .recoveryWrites =>
    { s with phase := .recovering caller (some turnId) afterSequence .terminalizing }
  | .recovering caller (some turnId) afterSequence .terminalizing, .recoveryWriteSettles outcome =>
    s.recoveryWriteSettled caller turnId afterSequence outcome
  | .recovering caller candidate afterSequence .deciding, .recoverySleeps =>
    s.recoverFailedTurn caller candidate afterSequence
  | .recovering _ _ _ .terminalizing, .recoveryGivesUp => s
  | .recovering caller _ _ _, .recoveryGivesUp => s.recovered caller none
  | .endingSession caller, .sessionEndingSettles => s.afterSessionEnding caller
  | _, _ => s

/-! ### Beside the turn -/

/-- `#interrupt`; it rejects when the clock cannot be read. -/
def interrupt (cause : TurnCancellationReason) : PipelineVoiceLoop :=
  if s.active && s.turn.interruption.isNone && s.clockReadable then
    { s with
      turn := { s.turn with interruption := some cause, aborted := true }
      persistenceGate :=
        match s.persistenceGate with
        | .failing => .failing
        | .failed => .failed
        | _ => .checkpointing }
  else s

def checkpointCommitted : PipelineVoiceLoop :=
  { s.settleCall (.checkpointTurnInterruption s.turn.turnId) .resolves with
    persistenceGate := .recovered }.recoverCheckpointPersistence

def checkpointDegraded (timedOut : Bool) : PipelineVoiceLoop :=
  (if timedOut then s.settleCall (.checkpointTurnInterruption s.turn.turnId) (.timesOut true)
    else s).markCheckpointPersistenceDegraded

/-- `onFatal` -/
def checkpointFailed : PipelineVoiceLoop :=
  { if s.persistenceSessionEnding then s else s.beginSessionEnding with persistenceGate := .failing }

/-- A call that was given up commits. -/
def lateCommitted (id : Nat) : PipelineVoiceLoop :=
  match s.lateWrites.find? fun write => write.id = id && !write.committed with
  | none => s
  | some write =>
    { s with
      store := s.store.commit write.call
      lateWrites := s.lateWrites.map fun other =>
        if other.id = id then { other with committed := true } else other
      lateStarted :=
        match write.call with
        | .startTurn _ =>
          if s.store.mayStart then s.lateStarted ++ [s.store.turns.length] else s.lateStarted
        | _ => s.lateStarted }

def step (event : LoopEvent) : PipelineVoiceLoop :=
  match event with
  | .speaks transcript => s.enqueueTranscript transcript
  | .inputEnds => { s with inputEnded := true }
  | .begins => s.beginNext
  | .runEnds reason resolves =>
    if s.phase = .idle ∧ s.turnChain = [] ∧ s.inputEnded ∧ s.settlements = [] then
      s.endRun reason resolves
    else s
  | .runThrows reason =>
    if s.clockReadable ∨ s.settlements ≠ [] then s else s.endRun reason false
  | .emits => s.emitVoiceEvent .output
  | .interrupted cause => s.interrupt cause
  | .abortsActive reason => if s.clockReadable then s.abortActive reason else s
  | .signalAborts => { s with turn := { s.turn with aborted := s.turn.aborted || s.active } }
  | .shutsDown => { s with terminalShutdown := true }
  | .clockIsLost => { s with clockLost := true }
  | .checkpointCommits =>
    if s.persistenceGate = .checkpointing then s.checkpointCommitted else s
  | .checkpointWrites =>
    if s.persistenceGate = .recovered then s
    else { s with store := s.store.commit (.checkpointTurnInterruption s.turn.turnId) }
  | .checkpointDegrades timedOut =>
    if s.persistenceGate = .recovered then s else s.checkpointDegraded timedOut
  | .checkpointFails => if s.persistenceGate = .checkpointing then s.checkpointFailed else s
  | .checkpointEnds =>
    if s.persistenceGate = .failing then { s with persistenceGate := .failed } else s
  | .lateCommits id => s.lateCommitted id
  | .lateSettles id => { s with lateWrites := s.lateWrites.filter fun write => write.id ≠ id }
  | .abandons turnId =>
    if turnId ∈ s.lateStarted then
      { s with store := s.store.commit (.endTurn turnId .cancelled none) }
    else s
  | .sessionEnds failed => { s with store := s.store.endSession failed }
  | event => s.handle event

def after (audioTap : Bool) (store : TurnStore) (events : List LoopEvent) : PipelineVoiceLoop :=
  Lib.run step (new audioTap store) events

/-! ## What the parts of a step change -/

theorem emitVoiceEvent_eq (event : VoiceEvent) :
    ∃ events, s.emitVoiceEvent event = { s with events := events } := by
  unfold emitVoiceEvent
  split
  · exact ⟨s.events, rfl⟩
  · exact ⟨_, rfl⟩

theorem emitPersistenceFailure_eq (wasDegraded : Bool) :
    ∃ events, s.emitPersistenceFailure wasDegraded = { s with events := events } := by
  cases wasDegraded with
  | true => exact ⟨s.events, rfl⟩
  | false => exact s.emitVoiceEvent_eq .error

theorem markPersistenceDegraded_eq :
    ∃ events, s.markPersistenceDegraded =
      { s with
        events := events
        persistenceHealth := true
        nonCheckpointPersistenceDegraded := true
        nonCheckpointPersistenceGeneration :=
          if s.nonCheckpointPersistenceDegraded then s.nonCheckpointPersistenceGeneration
          else s.nonCheckpointPersistenceGeneration + 1
        turn := { s.turn with aborted := s.turn.aborted || s.active } } := by
  obtain ⟨events, emitted⟩ := emitPersistenceFailure_eq
    (syncPersistenceHealth
      { s with
        nonCheckpointPersistenceGeneration :=
          if s.nonCheckpointPersistenceDegraded then s.nonCheckpointPersistenceGeneration
          else s.nonCheckpointPersistenceGeneration + 1
        nonCheckpointPersistenceDegraded := true }) s.persistenceDegraded
  refine ⟨events, emitted.trans ?_⟩
  simp [syncPersistenceHealth, persistenceDegraded]

theorem settleCall_eq (call : DurableCall) (outcome : CallOutcome) :
    ∃ store lateWrites nextLateWrite, s.settleCall call outcome =
      { s with store := store, lateWrites := lateWrites, nextLateWrite := nextLateWrite } := by
  cases outcome with
  | resolves => exact ⟨_, s.lateWrites, s.nextLateWrite, rfl⟩
  | rejects committed unavailable =>
    cases committed with
    | true => exact ⟨_, s.lateWrites, s.nextLateWrite, rfl⟩
    | false => exact ⟨s.store, s.lateWrites, s.nextLateWrite, rfl⟩
  | timesOut tracked => exact ⟨s.store, _, _, rfl⟩

theorem markCheckpointPersistenceDegraded_eq :
    ∃ events, s.markCheckpointPersistenceDegraded =
      { s with
        events := events
        persistenceHealth := true
        checkpointPersistenceDegraded := true
        turn := { s.turn with aborted := s.turn.aborted || s.active } } := by
  obtain ⟨events, emitted⟩ := emitPersistenceFailure_eq
    (syncPersistenceHealth { s with checkpointPersistenceDegraded := true }) s.persistenceDegraded
  refine ⟨events, emitted.trans ?_⟩
  simp [syncPersistenceHealth, persistenceDegraded]

theorem emitTurnCompleted_eq (status : TurnStatus) :
    ∃ events, s.emitTurnCompleted status =
      { s with events := events, turn := { s.turn with turnCompletedEmitted := true } } := by
  unfold emitTurnCompleted
  split
  · next emitted => exact ⟨s.events, by rw [← emitted]⟩
  · obtain ⟨events, emitted⟩ := s.emitVoiceEvent_eq (.turnCompleted s.turn.turnId status)
    exact ⟨events, by rw [emitted]⟩

theorem observeTerminalTurn_eq (status : TurnStatus) (withError : Bool) :
    ∃ events, s.observeTerminalTurn status withError =
      { s with
        events := events
        turn := { s.turn with turnCompletedEmitted := true }
        phase := .finishing } := by
  have finish {t t' : PipelineVoiceLoop} (same : t = t') :
      ({ t with phase := .finishing } : PipelineVoiceLoop) = { t' with phase := .finishing } := by
    rw [same]
  cases withError with
  | true =>
    obtain ⟨reported, report⟩ := s.emitVoiceEvent_eq .error
    obtain ⟨events, emitted⟩ := emitTurnCompleted_eq { s with events := reported } status
    exact ⟨events, finish ((congrArg (emitTurnCompleted · status) report).trans emitted)⟩
  | false =>
    obtain ⟨events, emitted⟩ := s.emitTurnCompleted_eq status
    exact ⟨events, finish emitted⟩

theorem announceTurn_eq :
    ∃ events, s.announceTurn =
      { s with
        events := events
        turnsHandled := s.turnsHandled + 1
        active := true
        turn := { s.turn with turnCompletedEmitted := false } } := by
  unfold announceTurn
  obtain ⟨started, start⟩ := emitVoiceEvent_eq
    { s with
      turnsHandled := s.turnsHandled + 1
      active := true
      turn := { s.turn with turnCompletedEmitted := false } } (.turnStarted s.turn.turnId)
  rw [start]
  obtain ⟨events, said⟩ := emitVoiceEvent_eq
    { s with
      events := started
      turnsHandled := s.turnsHandled + 1
      active := true
      turn := { s.turn with turnCompletedEmitted := false } } (.transcriptDelta s.turn.turnId s.turn.transcript)
  exact ⟨events, said⟩

/-! ## What one event of the turn can do -/

/-- The events of the turn being handled, each in the phase it belongs to, with the state it leads to. -/
inductive Handled (s : PipelineVoiceLoop) : LoopEvent → PipelineVoiceLoop → Prop where
  | gateRecovered (phase : s.phase = .gate) (gate : s.persistenceGate = .recovered) :
      Handled s .gateResolves (s.passGate true)
  | gateFailed (phase : s.phase = .gate) (gate : s.persistenceGate = .failed) :
      Handled s .gateResolves (s.passGate false)
  | start (outcome : CallOutcome) (phase : s.phase = .starting) :
      Handled s (.startSettles outcome) (s.startSettled outcome)
  | thinking (outcome : CallOutcome) (setUp : TurnSetUp) (phase : s.phase = .thinking) :
      Handled s (.thinkingSettles outcome setUp) (s.thinkingSettled outcome setUp)
  | prompt (instruction : Option Text) (phase : s.phase = .running) :
      Handled s (.promptResolves instruction)
        { s with policyCalls := s.policyCalls ++ [.setTurnSystemInstruction instruction] }
  | answer (text : Text) (phase : s.phase = .running) :
      Handled s (.llmAnswers text) { s with turn := { s.turn with finalText := text } }
  | callingTool (outcome : CallOutcome) (phase : s.phase = .running) :
      Handled s (.callingToolSettles outcome)
        (s.bodyCallSettled (.updateTurnStatus s.turn.turnId .callingTool) outcome)
  | toolCall (outcome : CallOutcome) (phase : s.phase = .running) :
      Handled s (.toolCallSettles outcome) (s.bodyCallSettled .toolCall outcome)
  | throws (phase : s.phase = .running) : Handled s .bodyThrows s.throwTurn
  | silent (phase : s.phase = .running) : Handled s .speechSkipped s.deliverText
  | speaking (outcome : CallOutcome) (phase : s.phase = .running) (going : s.turn.aborted = false) :
      Handled s (.speakingSettles outcome) (s.speakingSettled outcome)
  | audio (outputDelivered failed : Bool) (phase : s.phase = .speaking) :
      Handled s (.audioSettles outputDelivered failed) (s.audioSettled outputDelivered failed)
  | text (attempted : Bool) (textDelivered : Option Bool) (alignedText : Text)
      (phase : s.phase = .delivering attempted) :
      Handled s (.textSettles textDelivered alignedText)
        (s.textSettled (if attempted then textDelivered else none) alignedText)
  | turnEnd (cancelled : Bool) (outcome : CallOutcome) (phase : s.phase = .ending cancelled) :
      Handled s (.turnEnds outcome) (s.turnEndSettled cancelled outcome)
  | memory (status : TurnStatus) (phase : s.phase = .remembering status) :
      Handled s .remembered (s.observeTerminalTurn status false)
  | read (found : Bool) (phase : s.phase = .readingTerminal) :
      Handled s (.terminalRead found) (s.terminalReadSettled found)
  | failedTurnEnd (outcome : CallOutcome) (phase : s.phase = .failing) :
      Handled s (.failedTurnEnds outcome) (s.failedTurnEndSettled outcome)
  | finish (phase : s.phase = .finishing) :
      Handled s .turnFinished { s with active := false, phase := .idle }
  | waited (caller : RecoveryCaller) (candidate : Option Nat) (afterSequence : Nat) (writes : List Nat)
      (phase : s.phase = .recovering caller candidate afterSequence (.pendingWrites writes))
      (settled : ∀ write ∈ s.lateWrites, write.id ∉ writes) :
      Handled s .pendingWritesSettle
        { s with phase := .recovering caller candidate afterSequence .readingSession }
  | session (caller : RecoveryCaller) (candidate : Option Nat) (afterSequence : Nat)
      (phase : s.phase = .recovering caller candidate afterSequence .readingSession) :
      Handled s .sessionRead
        { s with
          phase := .recovering caller candidate afterSequence (.readingTurns s.store.currentTurnId) }
  | turns (caller : RecoveryCaller) (candidate : Option Nat) (afterSequence : Nat)
      (currentTurnId : Option Nat)
      (phase : s.phase = .recovering caller candidate afterSequence (.readingTurns currentTurnId)) :
      Handled s .turnsRead (s.inspected caller candidate afterSequence currentTurnId)
  | notInspected (caller : RecoveryCaller) (candidate : Option Nat) (afterSequence : Nat)
      (step : RecoveryStep) (phase : s.phase = .recovering caller candidate afterSequence step)
      (reading : step = .readingSession ∨ ∃ currentTurnId, step = .readingTurns currentTurnId) :
      Handled s .inspectionFails
        { s with phase := .recovering caller candidate afterSequence .deciding }
  | write (caller : RecoveryCaller) (turnId afterSequence : Nat)
      (phase : s.phase = .recovering caller (some turnId) afterSequence .deciding) :
      Handled s .recoveryWrites
        { s with phase := .recovering caller (some turnId) afterSequence .terminalizing }
  | written (caller : RecoveryCaller) (turnId afterSequence : Nat) (outcome : CallOutcome)
      (phase : s.phase = .recovering caller (some turnId) afterSequence .terminalizing) :
      Handled s (.recoveryWriteSettles outcome)
        (s.recoveryWriteSettled caller turnId afterSequence outcome)
  | again (caller : RecoveryCaller) (candidate : Option Nat) (afterSequence : Nat)
      (phase : s.phase = .recovering caller candidate afterSequence .deciding) :
      Handled s .recoverySleeps (s.recoverFailedTurn caller candidate afterSequence)
  | giveUp (caller : RecoveryCaller) (candidate : Option Nat) (afterSequence : Nat)
      (step : RecoveryStep) (phase : s.phase = .recovering caller candidate afterSequence step) :
      Handled s .recoveryGivesUp (s.recovered caller none)
  | sessionEnded (caller : EndingCaller) (phase : s.phase = .endingSession caller) :
      Handled s .sessionEndingSettles (s.afterSessionEnding caller)
  /-- The event cannot happen. -/
  | nothing (event : LoopEvent) : Handled s event s

theorem handled (event : LoopEvent) : Handled s event (s.handle event) := by
  unfold handle
  split
  · split
    · exact .gateRecovered ‹_› ‹_›
    · exact .gateFailed ‹_› ‹_›
    · exact .nothing _
  · exact .start _ ‹_›
  · exact .thinking _ _ ‹_›
  · exact .prompt _ ‹_›
  · exact .answer _ ‹_›
  · exact .callingTool _ ‹_›
  · exact .toolCall _ ‹_›
  · exact .throws ‹_›
  · exact .silent ‹_›
  · split
    · exact .nothing _
    · exact .speaking _ ‹_› (by simpa using ‹¬ s.turn.aborted = true›)
  · exact .audio _ _ ‹_›
  · exact .text _ _ _ ‹_›
  · exact .turnEnd _ _ ‹_›
  · exact .memory _ ‹_›
  · exact .read _ ‹_›
  · exact .failedTurnEnd _ ‹_›
  · exact .finish ‹_›
  · split
    · exact .nothing _
    · next unsettled => exact .waited _ _ _ _ ‹_› (by simpa using unsettled)
  · exact .session _ _ _ ‹_›
  · exact .turns _ _ _ _ ‹_›
  · exact .notInspected _ _ _ _ ‹_› (.inl rfl)
  · exact .notInspected _ _ _ _ ‹_› (.inr ⟨_, rfl⟩)
  · exact .write _ _ _ ‹_›
  · exact .written _ _ _ _ ‹_›
  · exact .again _ _ _ ‹_›
  · exact .nothing _
  · exact .giveUp _ _ _ _ ‹_›
  · exact .sessionEnded _ ‹_›
  · exact .nothing _

end PipelineVoiceLoop

end Tvic
