import Tvic.Runtime.PipelineVoiceLoop

/-!
# The events of a run

Turns are handled in the order of their transcripts, each `turn_started` has its `turn_completed` before
the next, and `call_ended` comes last, with the number of turns and the reason the run promise resolves
with. That is so in every run in which the clock of the session can be read whenever the loop reads it
and the incremental TTS input can be set up. Both are read outside of what the `catch` of the turn
catches, or by the `catch` itself: a turn they break off has no `turn_completed`.

By induction on a run; the invariant says whether a turn is open, and that is read off the phase.
-/
namespace Tvic

open Lib (Text)

def VoiceEvent.isOrdered : VoiceEvent → Bool
  | .turnStarted _ | .turnCompleted _ _ | .callEnded _ _ => true
  | _ => false

/-- Turns that were started and completed one after another, and the one that is still open. -/
inductive TurnEvents : List VoiceEvent → Option Nat → Prop where
  | nil : TurnEvents [] none
  | other {events : List VoiceEvent} {openTurn : Option Nat} {event : VoiceEvent} :
      TurnEvents events openTurn → event.isOrdered = false → TurnEvents (events ++ [event]) openTurn
  | started {events : List VoiceEvent} (turnId : Nat) :
      TurnEvents events none → TurnEvents (events ++ [.turnStarted turnId]) (some turnId)
  | completed {events : List VoiceEvent} {turnId : Nat} (status : TurnStatus) :
      TurnEvents events (some turnId) → TurnEvents (events ++ [.turnCompleted turnId status]) none

def VoiceEvent.isTurnStarted : VoiceEvent → Bool
  | .turnStarted _ => true
  | _ => false

def turnsStarted (events : List VoiceEvent) : Nat := events.countP VoiceEvent.isTurnStarted

@[simp] theorem turnsStarted_snoc (events : List VoiceEvent) (event : VoiceEvent) :
    turnsStarted (events ++ [event]) = turnsStarted events + if event.isTurnStarted then 1 else 0 := by
  simp [turnsStarted, List.countP_append, List.countP_singleton]

def VoiceEvent.isTurnCompleted : VoiceEvent → Bool
  | .turnCompleted _ _ => true
  | _ => false

theorem TurnEvents.balanced {events : List VoiceEvent} {openTurn : Option Nat}
    (turns : TurnEvents events openTurn) :
    turnsStarted events =
      events.countP VoiceEvent.isTurnCompleted + if openTurn.isSome then 1 else 0 := by
  induction turns with
  | nil => rfl
  | @other events openTurn event _ unordered ih =>
    have neither : event.isTurnStarted = false ∧ event.isTurnCompleted = false := by
      cases event <;> first | exact ⟨rfl, rfl⟩ | cases unordered
    simp [neither, ih]
  | started turnId _ ih => simp [VoiceEvent.isTurnStarted, VoiceEvent.isTurnCompleted, ih]
  | completed status _ ih => simp [VoiceEvent.isTurnStarted, VoiceEvent.isTurnCompleted, ih]

/-- Whether a turn was announced and is not over in a phase. -/
def TranscriptPhase.inTurn : TranscriptPhase → Bool
  | .running | .speaking | .delivering _ | .ending _ | .remembering _ | .readingTerminal | .failing => true
  | .recovering caller _ _ _ => caller != .turnStart
  | .endingSession caller => caller == .terminalWrite || caller == .turnFailure
  | _ => false

namespace PipelineVoiceLoop

def readsClock (s : PipelineVoiceLoop) (event : LoopEvent) : Bool :=
  match s.phase, event with
  | .thinking, .thinkingSettles outcome setUp => outcome.isResolved && setUp.shutdown.isSome
  | .running, .callingToolSettles outcome => !outcome.isResolved
  | .running, .toolCallSettles outcome => !outcome.isResolved
  | .running, .bodyThrows => true
  | .running, .speakingSettles outcome => !outcome.isResolved
  | .speaking, .audioSettles _ failed => failed
  | .delivering _, .textSettles _ _ => true
  | .ending _, .turnEnds outcome => !outcome.isResolved
  | _, .runThrows _ => true
  | _, _ => false

/-- Whether an event sets up a turn with an incremental TTS input that throws. -/
def setUpThrows : LoopEvent → Bool
  | .thinkingSettles _ setUp => setUp.incrementalTtsInputThrows
  | _ => false

/-- The clock can be read if it is read, and the set-up of a turn does not throw. -/
def Timed (s : PipelineVoiceLoop) (event : LoopEvent) : Prop :=
  (s.readsClock event = true → s.clockReadable = true) ∧ setUpThrows event = false

instance (s : PipelineVoiceLoop) (event : LoopEvent) : Decidable (s.Timed event) :=
  inferInstanceAs (Decidable (_ ∧ _))

/-! ## What is logged -/

/-- What the protocol is about. -/
structure RunLog where
  events : List VoiceEvent
  eventsClosed : Bool
  turnsHandled : Nat
  settlements : List (Option TerminalKind)
  queued : List Text
  begun : List Text
  turnChain : List Text
  turnId : Nat
  turnCompletedEmitted : Bool

def runLog (s : PipelineVoiceLoop) : RunLog :=
  ⟨s.events, s.eventsClosed, s.turnsHandled, s.settlements, s.queued, s.begun, s.turnChain,
    s.turn.turnId, s.turn.turnCompletedEmitted⟩

/-- The run goes on, with a turn open or not. -/
structure RunLog.Orderly (log : RunLog) (inTurn : Bool) : Prop where
  notClosed : log.eventsClosed = false
  notSettled : log.settlements = []
  events : TurnEvents log.events (if inTurn then some log.turnId else none)
  counted : turnsStarted log.events = log.turnsHandled
  order : log.begun ++ log.turnChain = log.queued
  notCompleted : inTurn = true → log.turnCompletedEmitted = false

/-- The run is over. -/
structure Finished (s : PipelineVoiceLoop) : Prop where
  closed : s.eventsClosed = true
  idle : s.phase = .idle
  noChain : s.turnChain = []
  noInput : s.inputEnded = true
  order : s.begun ++ s.turnChain = s.queued
  events : ∃ body reason, s.events = body ++ [.callEnded reason (turnsStarted body)] ∧
    TurnEvents body none ∧ (s.settlements = [some reason] ∨ s.settlements = [none])

def Inv (s : PipelineVoiceLoop) : Prop := s.runLog.Orderly s.phase.inTurn ∨ s.Finished

variable {s : PipelineVoiceLoop}

/-! ## What logs nothing of the protocol -/

theorem emit_orderly {b : Bool} (orderly : s.runLog.Orderly b) {event : VoiceEvent}
    (other : event.isOrdered = false) : (s.emitVoiceEvent event).runLog.Orderly b := by
  have going : s.eventsClosed = false := orderly.notClosed
  have notStarted : event.isTurnStarted = false := by
    cases event with
    | turnStarted turnId => cases other
    | _ => rfl
  rw [emitVoiceEvent, if_neg (by simp [going])]
  refine ⟨going, orderly.notSettled, orderly.events.other other, ?_, orderly.order,
    orderly.notCompleted⟩
  have counted : turnsStarted s.events = s.turnsHandled := orderly.counted
  change turnsStarted (s.events ++ [event]) = s.turnsHandled
  simp [notStarted, counted]

theorem emitPersistenceFailure_orderly {b : Bool} (orderly : s.runLog.Orderly b)
    (wasDegraded : Bool) : (s.emitPersistenceFailure wasDegraded).runLog.Orderly b := by
  cases wasDegraded with
  | true => exact orderly
  | false => exact emit_orderly orderly rfl

theorem markPersistenceDegraded_orderly {b : Bool} (orderly : s.runLog.Orderly b) :
    s.markPersistenceDegraded.runLog.Orderly b := by
  unfold markPersistenceDegraded
  apply emitPersistenceFailure_orderly
  exact orderly

@[simp] theorem settleCall_runLog (call : DurableCall) (outcome : CallOutcome) :
    (s.settleCall call outcome).runLog = s.runLog := by
  cases outcome with
  | rejects committed unavailable => cases committed <;> rfl
  | _ => rfl

@[simp] theorem recoverNonCheckpointPersistence_runLog (generation : Nat) :
    (s.recoverNonCheckpointPersistence generation).runLog = s.runLog := by
  unfold recoverNonCheckpointPersistence
  split <;> rfl

@[simp] theorem abortActive_runLog (reason : TurnCancellationReason) :
    (s.abortActive reason).runLog = s.runLog := by
  unfold abortActive
  split <;> rfl

/-! ## Where the handling of a turn goes -/

theorem Inv.of_orderly {b : Bool} (orderly : s.runLog.Orderly b)
    (phase : s.phase.inTurn = b) : s.Inv := .inl (phase ▸ orderly)

theorem Inv.withPhase {b : Bool} (orderly : s.runLog.Orderly b) (phase : TranscriptPhase)
    (same : phase.inTurn = b) : Inv { s with phase := phase } :=
  .inl (same ▸ orderly)

section

variable (orderly : s.runLog.Orderly true)
include orderly

theorem Inv.observeTerminalTurn (status : TurnStatus) (withError : Bool) :
    (s.observeTerminalTurn status withError).Inv := by
  have emitted : ∀ reported : PipelineVoiceLoop, reported.runLog.Orderly true →
      ({ reported.emitTurnCompleted status with phase := .finishing } : PipelineVoiceLoop).Inv := by
    intro reported orderly
    have going : reported.eventsClosed = false := orderly.notClosed
    have pending : reported.turn.turnCompletedEmitted = false := orderly.notCompleted rfl
    rw [emitTurnCompleted, if_neg (by simp [pending]), emitVoiceEvent, if_neg (by simp [going])]
    refine .inl ⟨going, orderly.notSettled, orderly.events.completed status, ?_, orderly.order, nofun⟩
    have counted : turnsStarted reported.events = reported.turnsHandled := orderly.counted
    change turnsStarted (reported.events ++ [_]) = reported.turnsHandled
    simp [VoiceEvent.isTurnStarted, counted]
  cases withError with
  | true => exact emitted _ (emit_orderly orderly rfl)
  | false => exact emitted s orderly

theorem Inv.remember (call : PolicyCall) (status : TurnStatus) :
    (s.remember call status).Inv := .inl orderly

theorem Inv.turnEnded (cancelled : Bool) (status : TurnStatus) :
    (s.turnEnded cancelled status).Inv := by
  have known : (s.knowEnd status true).runLog.Orderly true := orderly
  unfold PipelineVoiceLoop.turnEnded
  dsimp only
  split
  · exact .remember known _ _
  · exact .observeTerminalTurn (s := (s.knowEnd .failed true).failTurn) known _ _
  · split
    · exact .remember known _ _
    · exact .observeTerminalTurn known _ _

theorem Inv.concludeFailure (terminal : Option TurnStatus) :
    (s.concludeFailure terminal).Inv := by
  unfold PipelineVoiceLoop.concludeFailure
  split
  · exact .remember orderly _ _
  · exact .observeTerminalTurn orderly _ _
  · exact .observeTerminalTurn (s := failTurn _) orderly _ _

theorem Inv.afterFailure (terminal : Option TurnStatus) :
    (s.afterFailure terminal).Inv := by
  unfold PipelineVoiceLoop.afterFailure
  split
  · exact .concludeFailure (by rw [recoverNonCheckpointPersistence_runLog]; exact orderly) _
  · split
    · exact .withPhase (s := s.beginSessionEnding) orderly _ rfl
    · exact .concludeFailure orderly _

end

theorem Inv.afterSessionEnding (caller : EndingCaller)
    (orderly : s.runLog.Orderly (TranscriptPhase.endingSession caller).inTurn) :
    (s.afterSessionEnding caller).Inv := by
  cases caller with
  | gate => exact .withPhase orderly _ rfl
  | turnStart => exact .withPhase orderly _ rfl
  | terminalWrite => exact .afterFailure orderly _
  | turnFailure => exact .concludeFailure orderly _

theorem Inv.endSession (caller : EndingCaller)
    (orderly : s.runLog.Orderly (TranscriptPhase.endingSession caller).inTurn) :
    (s.endSession caller).Inv := by
  unfold PipelineVoiceLoop.endSession
  split
  · exact .afterSessionEnding caller orderly
  · exact .withPhase (s := s.beginSessionEnding) orderly _ rfl

theorem Inv.recoverFailedTurn (caller : RecoveryCaller) (candidate : Option Nat) (afterSequence : Nat)
    (orderly : s.runLog.Orderly (caller != .turnStart)) :
    (s.recoverFailedTurn caller candidate afterSequence).Inv :=
  .withPhase orderly _ rfl

theorem Inv.recovered (caller : RecoveryCaller) (orderly : s.runLog.Orderly (caller != .turnStart))
    (terminal : Option TurnStatus) : (s.recovered caller terminal).Inv := by
  unfold PipelineVoiceLoop.recovered
  split
  · refine .of_orderly (b := false) ?_ rfl
    change (s.recoverNonCheckpointPersistence s.turn.recoveryGeneration).runLog.Orderly false
    rw [recoverNonCheckpointPersistence_runLog]
    exact orderly
  · exact .endSession .turnStart orderly
  · exact .afterFailure orderly _
  · exact .afterFailure orderly _
  · exact .endSession .terminalWrite orderly

theorem Inv.inspected (caller : RecoveryCaller) (candidate : Option Nat) (afterSequence : Nat)
    (currentTurnId : Option Nat) (orderly : s.runLog.Orderly (caller != .turnStart)) :
    (s.inspected caller candidate afterSequence currentTurnId).Inv := by
  unfold PipelineVoiceLoop.inspected
  dsimp only
  split
  · exact .recovered caller orderly _
  · exact .withPhase orderly _ rfl

theorem Inv.throwTurn (orderly : s.runLog.Orderly true) (readable : s.clockReadable = true) :
    s.throwTurn.Inv := by
  unfold PipelineVoiceLoop.throwTurn
  rw [if_pos readable]
  exact .inl orderly

theorem markForRecovery_orderly {b : Bool} (orderly : s.runLog.Orderly b) :
    s.markForRecovery.runLog.Orderly b :=
  markPersistenceDegraded_orderly orderly

theorem Inv.startFailed (orderly : s.runLog.Orderly false) (candidate : Option Nat) :
    (s.startFailed candidate).Inv :=
  .recoverFailedTurn (s := failTurn _) .turnStart _ _ (markForRecovery_orderly orderly)

theorem Inv.audioFailed (orderly : s.runLog.Orderly true) (readable : s.clockReadable = true) :
    s.audioFailed.Inv := by
  have failed : clockReadable { s with turn := { s.turn with audioError := true } } = true := readable
  unfold PipelineVoiceLoop.audioFailed
  dsimp only
  rw [failed, Bool.not_true, Bool.and_false, if_neg Bool.false_ne_true]
  refine .withPhase (b := true) ?_ _ rfl
  rw [abortActive_runLog]
  exact orderly

theorem Inv.textSettled (orderly : s.runLog.Orderly true) (readable : s.clockReadable = true)
    (textDelivered : Option Bool) (alignedText : Text) :
    (s.textSettled textDelivered alignedText).Inv := by
  unfold PipelineVoiceLoop.textSettled
  dsimp only
  rw [if_neg (by simp [readable])]
  split
  · exact .inl orderly
  · exact .inl orderly

section

variable (orderly : s.runLog.Orderly false)
include orderly

theorem Inv.passGate (checkpointRecovered : Bool) :
    (s.passGate checkpointRecovered).Inv := by
  unfold PipelineVoiceLoop.passGate
  split
  · exact .withPhase orderly _ rfl
  · split
    · exact .endSession .gate (markPersistenceDegraded_orderly orderly)
    · exact .of_orderly (b := false) ⟨orderly.notClosed, orderly.notSettled, orderly.events,
        orderly.counted, orderly.order, nofun⟩ rfl

theorem announceTurn_orderly : s.announceTurn.runLog.Orderly true := by
  have going : s.eventsClosed = false := orderly.notClosed
  have counted : turnsStarted s.events = s.turnsHandled := orderly.counted
  unfold announceTurn
  apply emit_orderly _ rfl
  rw [emitVoiceEvent, if_neg (by simp [going])]
  refine ⟨going, orderly.notSettled, orderly.events.started _, ?_, orderly.order, fun _ => rfl⟩
  change turnsStarted (s.events ++ [_]) = s.turnsHandled + 1
  simp [VoiceEvent.isTurnStarted, counted]

theorem Inv.setUpTurn (setUp : TurnSetUp)
    (readable : setUp.shutdown.isSome = true → s.clockReadable = true)
    (works : setUp.incrementalTtsInputThrows = false) : (s.setUpTurn setUp).Inv := by
  have runs : (setUp.shutdown.isSome && !s.clockReadable || setUp.incrementalTtsInputThrows) = false := by
    rw [works, Bool.or_false]
    cases shut : setUp.shutdown.isSome with
    | true => simp [readable shut]
    | false => rfl
  unfold PipelineVoiceLoop.setUpTurn
  dsimp only
  rw [runs, if_neg Bool.false_ne_true]
  exact .inl (announceTurn_orderly orderly)

/-! ## Steps -/

theorem Inv.startSettled (outcome : CallOutcome) (phase : s.phase = .starting) :
    (s.startSettled outcome).Inv := by
  unfold PipelineVoiceLoop.startSettled
  split
  · exact .of_orderly orderly (by rw [phase]; rfl)
  · have called : (s.settleCall (.startTurn s.turn.transcript) outcome).runLog.Orderly false := by
      rw [settleCall_runLog]
      exact orderly
    dsimp only
    split
    · exact .inl ⟨called.notClosed, called.notSettled, called.events, called.counted, called.order, nofun⟩
    · exact .startFailed called none

end

theorem settleCall_orderly {b : Bool} (orderly : s.runLog.Orderly b) (call : DurableCall)
    (outcome : CallOutcome) : (s.settleCall call outcome).runLog.Orderly b := by
  rw [settleCall_runLog]
  exact orderly

@[simp] theorem settleCall_clockReadable (call : DurableCall) (outcome : CallOutcome) :
    (s.settleCall call outcome).clockReadable = s.clockReadable := by
  cases outcome with
  | rejects committed unavailable => cases committed <;> rfl
  | _ => rfl

theorem emitVoiceEvent_clockReadable (event : VoiceEvent) :
    (s.emitVoiceEvent event).clockReadable = s.clockReadable := by
  unfold emitVoiceEvent
  split <;> rfl

theorem emitPersistenceFailure_clockReadable (wasDegraded : Bool) :
    (s.emitPersistenceFailure wasDegraded).clockReadable = s.clockReadable := by
  cases wasDegraded with
  | true => rfl
  | false => exact emitVoiceEvent_clockReadable .error

@[simp] theorem markPersistenceDegraded_clockReadable :
    s.markPersistenceDegraded.clockReadable = s.clockReadable :=
  emitPersistenceFailure_clockReadable _

theorem Inv.thinkingSettled (orderly : s.runLog.Orderly false) (outcome : CallOutcome)
    (setUp : TurnSetUp)
    (readable : (outcome.isResolved && setUp.shutdown.isSome) = true → s.clockReadable = true)
    (works : setUp.incrementalTtsInputThrows = false) : (s.thinkingSettled outcome setUp).Inv := by
  have called := settleCall_orderly orderly (.updateTurnStatus s.turn.turnId .thinking) outcome
  unfold PipelineVoiceLoop.thinkingSettled
  dsimp only
  split
  · next resolved =>
    refine .setUpTurn called setUp (fun shut => ?_) works
    rw [settleCall_clockReadable]
    exact readable (by simp [resolved, shut])
  · exact .startFailed (markPersistenceDegraded_orderly called) _

section

variable (orderly : s.runLog.Orderly true)
include orderly

theorem Inv.bodyCallSettled (phase : s.phase.inTurn = true) (call : DurableCall)
    (outcome : CallOutcome) (readable : (!outcome.isResolved) = true → s.clockReadable = true) :
    (s.bodyCallSettled call outcome).Inv := by
  have called := settleCall_orderly orderly call outcome
  have samePhase : (s.settleCall call outcome).phase = s.phase := by
    cases outcome with
    | rejects committed unavailable => cases committed <;> rfl
    | _ => rfl
  unfold PipelineVoiceLoop.bodyCallSettled
  dsimp only
  split
  · exact .of_orderly called (by rw [samePhase, phase])
  · next failed =>
    refine .throwTurn (markPersistenceDegraded_orderly called) ?_
    rw [markPersistenceDegraded_clockReadable, settleCall_clockReadable]
    exact readable (by simpa using failed)

theorem Inv.speakingSettled (outcome : CallOutcome)
    (readable : (!outcome.isResolved) = true → s.clockReadable = true) :
    (s.speakingSettled outcome).Inv := by
  have called := settleCall_orderly orderly (.updateTurnStatus s.turn.turnId .speaking) outcome
  unfold PipelineVoiceLoop.speakingSettled
  dsimp only
  split
  · exact .withPhase called _ rfl
  · next failed =>
    refine .audioFailed (markPersistenceDegraded_orderly called) ?_
    rw [markPersistenceDegraded_clockReadable, settleCall_clockReadable]
    exact readable (by simpa using failed)

theorem Inv.audioSettled (outputDelivered failed : Bool)
    (readable : failed = true → s.clockReadable = true) :
    (s.audioSettled outputDelivered failed).Inv := by
  unfold PipelineVoiceLoop.audioSettled
  dsimp only
  split
  · next failed => exact .audioFailed orderly (readable failed)
  · exact .inl orderly

theorem Inv.turnEndSettled (phase : s.phase.inTurn = true) (cancelled : Bool)
    (outcome : CallOutcome) (readable : (!outcome.isResolved) = true → s.clockReadable = true) :
    (s.turnEndSettled cancelled outcome).Inv := by
  have called := settleCall_orderly orderly
    (.endTurn s.turn.turnId (if cancelled then .cancelled else .completed) (some s.turn.finalText)) outcome
  unfold PipelineVoiceLoop.turnEndSettled
  dsimp only
  split
  · split
    · exact .turnEnded called _ _
    · exact .of_orderly orderly phase
  · next failed =>
    refine .throwTurn (markPersistenceDegraded_orderly called) ?_
    rw [markPersistenceDegraded_clockReadable]
    change (s.settleCall _ outcome).clockReadable = true
    rw [settleCall_clockReadable]
    exact readable (by simpa using failed)

theorem Inv.terminalReadSettled (found : Bool) :
    (s.terminalReadSettled found).Inv := by
  unfold PipelineVoiceLoop.terminalReadSettled
  split
  · exact .afterFailure orderly _
  · split
    · exact .recoverFailedTurn .turnFailure _ _ orderly
    · exact .withPhase orderly _ rfl

theorem Inv.failedTurnEndSettled (phase : s.phase.inTurn = true) (outcome : CallOutcome) :
    (s.failedTurnEndSettled outcome).Inv := by
  have called := settleCall_orderly orderly
    (.endTurn s.turn.turnId .failed (some s.turn.finalText)) outcome
  unfold PipelineVoiceLoop.failedTurnEndSettled
  dsimp only
  split
  · split
    · exact .afterFailure called _
    · exact .of_orderly orderly phase
  · exact .recoverFailedTurn .terminalWrite _ _ (markForRecovery_orderly called)

end

theorem Inv.recoveryWriteSettled (caller : RecoveryCaller)
    (orderly : s.runLog.Orderly (caller != .turnStart)) (turnId afterSequence : Nat)
    (outcome : CallOutcome) : (s.recoveryWriteSettled caller turnId afterSequence outcome).Inv := by
  have called := settleCall_orderly orderly (.endTurn turnId .failed none) outcome
  unfold PipelineVoiceLoop.recoveryWriteSettled
  dsimp only
  split
  · split
    · exact .recovered caller called _
    · exact .withPhase called _ rfl
  · exact .withPhase (markPersistenceDegraded_orderly called) _ rfl
  · exact .withPhase (markPersistenceDegraded_orderly called) _ rfl
  · exact .recovered caller called none

theorem Inv.handle (orderly : s.runLog.Orderly s.phase.inTurn) {event : LoopEvent} (timed : s.Timed event)
    {next : PipelineVoiceLoop} (handled : Handled s event next) : next.Inv := by
  obtain ⟨readable, works⟩ := timed
  cases handled with
  | gateRecovered phase | gateFailed phase =>
    rw [phase] at orderly
    exact .passGate orderly _
  | start outcome phase =>
    rw [phase] at orderly
    exact .startSettled orderly outcome phase
  | thinking outcome setUp phase =>
    rw [phase] at orderly
    exact .thinkingSettled orderly outcome setUp (by simpa [readsClock, phase] using readable)
      works
  | prompt | answer | nothing => exact .of_orderly orderly rfl
  | callingTool outcome phase | toolCall outcome phase =>
    rw [phase] at orderly
    exact .bodyCallSettled orderly (by rw [phase]; rfl) _ outcome
      (by simpa [readsClock, phase] using readable)
  | throws phase =>
    rw [phase] at orderly
    exact .throwTurn orderly (by simpa [readsClock, phase] using readable)
  | speaking outcome phase =>
    rw [phase] at orderly
    exact .speakingSettled orderly outcome (by simpa [readsClock, phase] using readable)
  | audio outputDelivered failed phase =>
    rw [phase] at orderly
    exact .audioSettled orderly outputDelivered failed (by simpa [readsClock, phase] using readable)
  | text attempted textDelivered alignedText phase =>
    rw [phase] at orderly
    exact .textSettled orderly (by simpa [readsClock, phase] using readable) _ alignedText
  | turnEnd cancelled outcome phase =>
    rw [phase] at orderly
    exact .turnEndSettled orderly (by rw [phase]; rfl) cancelled outcome
      (by simpa [readsClock, phase] using readable)
  | memory status phase =>
    rw [phase] at orderly
    exact .observeTerminalTurn orderly status false
  | read found phase =>
    rw [phase] at orderly
    exact .terminalReadSettled orderly found
  | failedTurnEnd outcome phase =>
    rw [phase] at orderly
    exact .failedTurnEndSettled orderly (by rw [phase]; rfl) outcome
  | turns caller candidate afterSequence currentTurnId phase =>
    rw [phase] at orderly
    exact .inspected caller candidate afterSequence currentTurnId orderly
  | written caller turnId afterSequence outcome phase =>
    rw [phase] at orderly
    exact .recoveryWriteSettled caller orderly turnId afterSequence outcome
  | again caller candidate afterSequence phase =>
    rw [phase] at orderly
    exact .recoverFailedTurn caller candidate afterSequence orderly
  | giveUp caller candidate afterSequence step phase =>
    rw [phase] at orderly
    exact .recovered caller orderly none
  | sessionEnded caller phase =>
    rw [phase] at orderly
    exact .afterSessionEnding caller orderly
  -- The remaining ones go on to a phase of the same kind.
  | silent phase | finish phase | waited _ _ _ _ phase | session _ _ _ phase
  | notInspected _ _ _ _ phase | write _ _ _ phase =>
    rw [phase] at orderly
    exact .inl orderly

/-! ## The end of the run -/

theorem emit_eq (going : s.eventsClosed = false) (event : VoiceEvent) :
    s.emitVoiceEvent event = { s with events := s.events ++ [event] } := by
  rw [emitVoiceEvent, if_neg (by simp [going])]

theorem emit_closed (closed : s.eventsClosed = true) (event : VoiceEvent) :
    s.emitVoiceEvent event = s := by
  rw [emitVoiceEvent, if_pos closed]

theorem Finished.closeRun (orderly : s.runLog.Orderly false) (idle : s.phase = .idle)
    (noChain : s.turnChain = []) (noInput : s.inputEnded = true) (reason : TerminalKind)
    {settlement : Option TerminalKind} (settled : settlement = some reason ∨ settlement = none) :
    (s.closeRun reason settlement).Finished := by
  have going : s.eventsClosed = false := orderly.notClosed
  have noSettlement : s.settlements = [] := orderly.notSettled
  have counted : turnsStarted s.events = s.turnsHandled := orderly.counted
  unfold PipelineVoiceLoop.closeRun
  rw [emit_eq going, ← counted]
  refine ⟨rfl, idle, noChain, noInput, orderly.order, s.events, reason, rfl, orderly.events, ?_⟩
  rcases settled with rfl | rfl
  · exact .inl (by simp [noSettlement])
  · exact .inr (by simp [noSettlement])

theorem Finished.endRun (orderly : s.runLog.Orderly false) (idle : s.phase = .idle)
    (noChain : s.turnChain = []) (noInput : s.inputEnded = true) (reason : TerminalKind)
    (resolves : Bool) : (s.endRun reason resolves).Finished := by
  cases resolves with
  | true => exact .closeRun orderly idle noChain noInput reason (.inl rfl)
  | false =>
    have reported : (s.emitVoiceEvent .error).runLog.Orderly false := emit_orderly orderly rfl
    rw [emit_eq orderly.notClosed] at reported
    unfold PipelineVoiceLoop.endRun
    rw [if_neg Bool.false_ne_true, emit_eq orderly.notClosed]
    exact .closeRun reported idle noChain noInput reason (.inr rfl)

def finalView (s : PipelineVoiceLoop) :=
  (s.eventsClosed, s.phase, s.turnChain, s.inputEnded, s.begun, s.queued, s.events, s.settlements)

theorem Finished.of_same (finished : s.Finished) {next : PipelineVoiceLoop}
    (same : next.finalView = s.finalView) : next.Finished := by
  simp only [finalView, Prod.mk.injEq] at same
  obtain ⟨closed, phase, chain, input, begun, queued, events, settlements⟩ := same
  constructor
  · rw [closed, finished.closed]
  · rw [phase, finished.idle]
  · rw [chain, finished.noChain]
  · rw [input, finished.noInput]
  · rw [begun, chain, queued, finished.order]
  · rw [events, settlements]
    exact finished.events

theorem Finished.handled (finished : s.Finished) {event : LoopEvent} {next : PipelineVoiceLoop}
    (handled : Handled s event next) : next = s := by
  have idle := finished.idle
  cases handled with
  | nothing => rfl
  | _ => simp_all

theorem emitPersistenceFailure_finalView (closed : s.eventsClosed = true) (wasDegraded : Bool) :
    (s.emitPersistenceFailure wasDegraded).finalView = s.finalView := by
  cases wasDegraded with
  | true => rfl
  | false => rw [emitPersistenceFailure, if_neg Bool.false_ne_true, emit_closed closed]

theorem checkpointDegraded_finalView (closed : s.eventsClosed = true) (timedOut : Bool) :
    (s.checkpointDegraded timedOut).finalView = s.finalView := by
  unfold checkpointDegraded markCheckpointPersistenceDegraded
  refine (emitPersistenceFailure_finalView ?_ _).trans ?_
  · cases timedOut <;> exact closed
  · cases timedOut <;> rfl

theorem checkpointDegraded_orderly {b : Bool} (orderly : s.runLog.Orderly b) (timedOut : Bool) :
    (s.checkpointDegraded timedOut).runLog.Orderly b := by
  unfold checkpointDegraded markCheckpointPersistenceDegraded
  apply emitPersistenceFailure_orderly
  cases timedOut <;> exact orderly

theorem emit_phase (s : PipelineVoiceLoop) (event : VoiceEvent) : (s.emitVoiceEvent event).phase = s.phase := by
  unfold emitVoiceEvent
  split <;> rfl

theorem emitPersistenceFailure_phase (wasDegraded : Bool) :
    (s.emitPersistenceFailure wasDegraded).phase = s.phase := by
  cases wasDegraded with
  | true => rfl
  | false => exact emit_phase _ .error

theorem checkpointDegraded_phase (timedOut : Bool) :
    (s.checkpointDegraded timedOut).phase = s.phase := by
  unfold checkpointDegraded markCheckpointPersistenceDegraded
  refine (emitPersistenceFailure_phase _).trans ?_
  cases timedOut <;> rfl

theorem Finished.step (finished : s.Finished) (event : LoopEvent) : (s.step event).Finished := by
  have settled : s.settlements ≠ [] := by
    obtain ⟨-, reason, -, -, resolved | rejected⟩ := finished.events
    · rw [resolved]; simp
    · rw [rejected]; simp
  cases event with
  | speaks transcript =>
    refine finished.of_same ?_
    rw [PipelineVoiceLoop.step, enqueueTranscript, if_pos (.inl finished.noInput)]
  | begins =>
    refine finished.of_same ?_
    rw [PipelineVoiceLoop.step, beginNext, finished.noChain, finished.idle]
  | inputEnds => exact finished.of_same (by simp [finalView, PipelineVoiceLoop.step, finished.noInput])
  | runEnds reason resolves =>
    refine finished.of_same ?_
    rw [PipelineVoiceLoop.step, if_neg (fun gone => settled gone.2.2.2)]
  | runThrows reason =>
    refine finished.of_same ?_
    rw [PipelineVoiceLoop.step, if_pos (.inr settled)]
  | emits => rw [PipelineVoiceLoop.step, emit_closed finished.closed]; exact finished
  | interrupted cause =>
    refine finished.of_same ?_
    rw [PipelineVoiceLoop.step, interrupt]
    split <;> rfl
  | abortsActive reason =>
    refine finished.of_same ?_
    rw [PipelineVoiceLoop.step, abortActive]
    split
    · split <;> rfl
    · rfl
  | signalAborts | shutsDown | clockIsLost | lateSettles | sessionEnds => exact finished.of_same rfl
  | checkpointCommits =>
    refine finished.of_same ?_
    rw [PipelineVoiceLoop.step]
    split <;> rfl
  | checkpointWrites =>
    refine finished.of_same ?_
    rw [PipelineVoiceLoop.step]
    split <;> rfl
  | checkpointDegrades timedOut =>
    refine finished.of_same ?_
    rw [PipelineVoiceLoop.step]
    split
    · rfl
    · exact checkpointDegraded_finalView finished.closed timedOut
  | checkpointFails =>
    refine finished.of_same ?_
    rw [PipelineVoiceLoop.step, checkpointFailed]
    split
    · split <;> rfl
    · rfl
  | checkpointEnds =>
    refine finished.of_same ?_
    rw [PipelineVoiceLoop.step]
    split <;> rfl
  | lateCommits id =>
    refine finished.of_same ?_
    rw [PipelineVoiceLoop.step, lateCommitted]
    split <;> rfl
  | abandons turnId =>
    refine finished.of_same ?_
    rw [PipelineVoiceLoop.step]
    split <;> rfl
  | _ => exact finished.of_same (congrArg finalView (finished.handled (s.handled _)))

theorem Inv.going (orderly : s.runLog.Orderly s.phase.inTurn) (event : LoopEvent)
    (timed : s.Timed event) : (s.step event).Inv := by
  cases event with
  | speaks transcript =>
    rw [PipelineVoiceLoop.step, enqueueTranscript]
    split
    · exact .inl orderly
    · refine .inl ⟨orderly.notClosed, orderly.notSettled, orderly.events, orderly.counted, ?_,
        orderly.notCompleted⟩
      have order : s.begun ++ s.turnChain = s.queued := orderly.order
      change s.begun ++ (s.turnChain ++ [transcript]) = s.queued ++ [transcript]
      rw [← List.append_assoc, order]
  | begins =>
    rw [PipelineVoiceLoop.step, beginNext]
    split
    · next transcript rest idle chained =>
      rw [idle] at orderly
      have order : s.begun ++ s.turnChain = s.queued := orderly.order
      refine .inl ⟨orderly.notClosed, orderly.notSettled, orderly.events, orderly.counted, ?_, nofun⟩
      change s.begun ++ [transcript] ++ rest = s.queued
      rw [← order, chained, List.append_assoc]
      rfl
    · exact .inl orderly
  | runEnds reason resolves =>
    rw [PipelineVoiceLoop.step]
    split
    · next gone =>
      obtain ⟨idle, noChain, noInput, -⟩ := gone
      rw [idle] at orderly
      exact .inr (.endRun orderly idle noChain noInput reason resolves)
    · exact .inl orderly
  | runThrows reason =>
    rw [PipelineVoiceLoop.step, if_pos (.inl (timed.1 (by unfold readsClock; split <;> simp_all)))]
    exact .inl orderly
  | emits =>
    have samePhase := congrArg TranscriptPhase.inTurn (s.emit_phase .output)
    exact .of_orderly (emit_orderly orderly rfl) samePhase
  | interrupted cause =>
    rw [PipelineVoiceLoop.step, interrupt]
    split <;> exact .inl orderly
  | abortsActive reason =>
    rw [PipelineVoiceLoop.step, abortActive]
    split
    · split <;> exact .inl orderly
    · exact .inl orderly
  | inputEnds | signalAborts | shutsDown | clockIsLost | lateSettles | sessionEnds => exact .inl orderly
  | checkpointCommits | checkpointWrites | checkpointEnds | abandons =>
    rw [PipelineVoiceLoop.step]
    split <;> exact .inl orderly
  | checkpointDegrades timedOut =>
    rw [PipelineVoiceLoop.step]
    split
    · exact .inl orderly
    · exact .of_orderly (checkpointDegraded_orderly orderly timedOut)
        (congrArg TranscriptPhase.inTurn (checkpointDegraded_phase timedOut))
  | checkpointFails =>
    rw [PipelineVoiceLoop.step, checkpointFailed]
    split
    · split <;> exact .inl orderly
    · exact .inl orderly
  | lateCommits id =>
    rw [PipelineVoiceLoop.step, lateCommitted]
    split <;> exact .inl orderly
  | _ => exact .handle orderly timed (s.handled _)

theorem Inv.step (inv : s.Inv) (event : LoopEvent) (timed : s.Timed event) : (s.step event).Inv := by
  rcases inv with orderly | finished
  · exact .going orderly event timed
  · exact .inr (finished.step event)

theorem inv_new (audioTap : Bool) (store : TurnStore) : (new audioTap store).Inv :=
  .inl ⟨rfl, rfl, .nil, rfl, rfl, nofun⟩

/-- A turn that is answered by text, after which the caller's stream ends. -/
def answeredTurn : List LoopEvent :=
  [.speaks [104], .begins, .gateResolves, .startSettles .resolves, .thinkingSettles .resolves {},
    .llmAnswers [105], .speechSkipped, .textSettles (some true) [], .turnEnds .resolves, .remembered,
    .turnFinished, .inputEnds, .runEnds .completed true]

/-- Another caller ends the session while the model answers; the stream then ends as completed. -/
def endedTurn : List LoopEvent :=
  [.speaks [104], .begins, .gateResolves, .startSettles .resolves, .thinkingSettles .resolves {},
    .sessionEnds false, .clockIsLost, .llmAnswers [105], .speechSkipped, .textSettles (some true) [],
    .turnFinished, .inputEnds, .runEnds .completed true]

end PipelineVoiceLoop

end Tvic
