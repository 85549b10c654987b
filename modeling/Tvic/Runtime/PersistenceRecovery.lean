import Tvic.Runtime.PipelineVoiceLoop

/-!
# Recovery of the persistence health

When a turn was confirmed terminal in the store and no interruption checkpoint is unresolved, the loop is
not degraded once it is done with the turn, the runtime knows it, and the next transcript starts a turn.
That is so in every run in which no terminal write of a turn is acknowledged to a degraded loop. One can
be: a `speaking` status that fails is taken for a failure of the audio, and the turn goes on to its
terminal write with the loop still degraded. Nothing after the acknowledgement recovers it.

The invariant follows the flags through the phases. While a turn fails, the generation it will recover
is the current one; once it is confirmed, the flag is down.
-/
namespace Tvic

open Lib (Text)

def TranscriptPhase.isPending : TranscriptPhase → Bool
  | .idle | .remembering _ | .finishing => false
  | _ => true

/-- From the call of `startTurn` on, until the turn is confirmed or the session is ended. -/
def TranscriptPhase.isTended : TranscriptPhase → Bool
  | .idle | .gate | .remembering _ | .endingSession _ | .finishing => false
  | _ => true

def TranscriptPhase.isFailing : TranscriptPhase → Bool
  | .readingTerminal | .failing | .recovering _ _ _ _ => true
  | _ => false

def TranscriptPhase.isRecovering : TranscriptPhase → Bool
  | .recovering _ _ _ _ => true
  | _ => false

theorem TranscriptPhase.isFailing_of_isRecovering {phase : TranscriptPhase}
    (recovering : phase.isRecovering = true) : phase.isFailing = true := by
  cases phase <;> first | rfl | cases recovering

namespace PipelineVoiceLoop

/-- No terminal write is acknowledged to a degraded loop. -/
def Undegraded (s : PipelineVoiceLoop) (event : LoopEvent) : Prop :=
  event = .turnEnds .resolves → s.nonCheckpointPersistenceDegraded = false

instance (s : PipelineVoiceLoop) (event : LoopEvent) : Decidable (s.Undegraded event) :=
  inferInstanceAs (Decidable (_ → _))

def Shut (s : PipelineVoiceLoop) : Prop :=
  s.persistenceSessionEnding = true → s.persistenceGate = .failing ∨ s.persistenceGate = .failed

structure Healthy (s : PipelineVoiceLoop) : Prop where
  told : s.persistenceHealth = s.persistenceDegraded
  recovered : s.confirmed = true → s.nonCheckpointPersistenceDegraded = false ∧ s.Shut
  pending : s.phase.isPending = true → s.confirmed = false
  tended : s.phase.isTended = true → s.Shut
  generation : s.phase.isFailing = true →
    s.turn.recoveryGeneration = s.nonCheckpointPersistenceGeneration
  late : s.phase.isTended = true → s.turn.terminalWriteMayBeLate = true →
    s.nonCheckpointPersistenceDegraded = true
  degraded : s.phase.isRecovering = true → s.nonCheckpointPersistenceDegraded = true

/-- What holds of a turn that is being handled, whatever the phase. -/
structure Tended (s : PipelineVoiceLoop) : Prop where
  told : s.persistenceHealth = s.persistenceDegraded
  pending : s.confirmed = false
  shut : s.Shut
  late : s.turn.terminalWriteMayBeLate = true → s.nonCheckpointPersistenceDegraded = true

/-- What holds of a turn that was handled. -/
structure Concluded (s : PipelineVoiceLoop) : Prop where
  told : s.persistenceHealth = s.persistenceDegraded
  recovered : s.confirmed = true → s.nonCheckpointPersistenceDegraded = false ∧ s.Shut

def healthState (s : PipelineVoiceLoop) :=
  (s.phase, s.confirmed, s.persistenceHealth, s.nonCheckpointPersistenceDegraded,
    s.checkpointPersistenceDegraded, s.nonCheckpointPersistenceGeneration, s.turn.recoveryGeneration,
    s.turn.terminalWriteMayBeLate, s.persistenceSessionEnding, s.persistenceGate)

variable {s : PipelineVoiceLoop}

/-! ## What leaves the flags alone -/

theorem Tended.concluded (tended : s.Tended) : s.Concluded :=
  ⟨tended.told, fun confirmed => absurd (tended.pending.symm.trans confirmed) Bool.false_ne_true⟩

theorem Tended.settleCall (tended : s.Tended) (call : DurableCall) (outcome : CallOutcome) :
    (s.settleCall call outcome).Tended := by
  obtain ⟨store, lateWrites, nextLateWrite, called⟩ := s.settleCall_eq call outcome
  rw [called]
  exact ⟨tended.told, tended.pending, tended.shut, tended.late⟩

theorem Tended.mark (tended : s.Tended) : s.markPersistenceDegraded.Tended := by
  obtain ⟨events, marked⟩ := s.markPersistenceDegraded_eq
  rw [marked]
  exact ⟨rfl, tended.pending, tended.shut, fun _ => rfl⟩

theorem Concluded.failTurn (concluded : s.Concluded) : s.failTurn.Concluded :=
  ⟨concluded.told, concluded.recovered⟩

theorem Concluded.observe (concluded : s.Concluded) (status : TurnStatus) (withError : Bool) :
    (s.observeTerminalTurn status withError).Concluded := by
  obtain ⟨events, observed⟩ := s.observeTerminalTurn_eq status withError
  rw [observed]
  exact ⟨concluded.told, concluded.recovered⟩

/-! ## Where the handling of a turn goes -/

theorem Healthy.of_tended (tended : s.Tended) (notFailing : s.phase.isFailing = false) :
    s.Healthy := by
  refine ⟨tended.told, tended.concluded.recovered, fun _ => tended.pending, fun _ => tended.shut,
    fun failing => ?_, fun _ => tended.late, fun recovering => ?_⟩
  · exact absurd (notFailing.symm.trans failing) Bool.false_ne_true
  · have failing := TranscriptPhase.isFailing_of_isRecovering recovering
    exact absurd (notFailing.symm.trans failing) Bool.false_ne_true

theorem Healthy.of_concluded (concluded : s.Concluded) (gone : s.phase.isPending = false) :
    s.Healthy := by
  have notTended : s.phase.isTended = false ∧ s.phase.isFailing = false ∧
      s.phase.isRecovering = false := by
    cases phase : s.phase <;> rw [phase] at gone <;> first | exact ⟨rfl, rfl, rfl⟩ | cases gone
  exact ⟨concluded.told, concluded.recovered, by simp [gone], by simp [notTended],
    by simp [notTended], by simp [notTended], by simp [notTended]⟩

theorem Healthy.of_failing (tended : s.Tended)
    (generation : s.turn.recoveryGeneration = s.nonCheckpointPersistenceGeneration)
    (degraded : s.phase.isRecovering = true → s.nonCheckpointPersistenceDegraded = true) :
    s.Healthy :=
  ⟨tended.told, tended.concluded.recovered, fun _ => tended.pending, fun _ => tended.shut,
    fun _ => generation, fun _ => tended.late, degraded⟩

theorem Healthy.observe (concluded : s.Concluded) (status : TurnStatus) (withError : Bool) :
    (s.observeTerminalTurn status withError).Healthy :=
  .of_concluded (concluded.observe status withError) rfl

theorem Healthy.remember (concluded : s.Concluded) (call : PolicyCall) (status : TurnStatus) :
    (s.remember call status).Healthy :=
  .of_concluded ⟨concluded.told, concluded.recovered⟩ rfl

theorem Healthy.turnEnded (tended : s.Tended) (undegraded : s.nonCheckpointPersistenceDegraded = false)
    (cancelled : Bool) (status : TurnStatus) : (s.turnEnded cancelled status).Healthy := by
  have known : (s.knowEnd status true).Concluded := ⟨tended.told, fun _ => ⟨undegraded, tended.shut⟩⟩
  unfold PipelineVoiceLoop.turnEnded
  dsimp only
  split
  · exact .remember known _ _
  · exact .observe known.failTurn _ _
  · split
    · exact .remember known _ _
    · exact .observe known _ _

theorem Healthy.concludeFailure (concluded : s.Concluded) (terminal : Option TurnStatus) :
    (s.concludeFailure terminal).Healthy := by
  unfold PipelineVoiceLoop.concludeFailure
  split
  · exact .remember concluded _ _
  · exact .observe concluded _ _
  · exact .observe concluded.failTurn _ _

theorem recovers (told : s.persistenceHealth = s.persistenceDegraded) {generation : Nat}
    (current : generation = s.nonCheckpointPersistenceGeneration) :
    (s.recoverNonCheckpointPersistence generation).persistenceHealth =
        (s.recoverNonCheckpointPersistence generation).persistenceDegraded ∧
      (s.recoverNonCheckpointPersistence generation).nonCheckpointPersistenceDegraded = false := by
  unfold recoverNonCheckpointPersistence
  split
  · exact ⟨rfl, rfl⟩
  · next other =>
    refine ⟨told, ?_⟩
    cases degraded : s.nonCheckpointPersistenceDegraded with
    | true => exact absurd ⟨current, degraded⟩ other
    | false => rfl

theorem Shut.recover (shut : s.Shut) (generation : Nat) :
    (s.recoverNonCheckpointPersistence generation).Shut := by
  unfold recoverNonCheckpointPersistence
  split <;> exact shut

theorem Concluded.of_pending (told : s.persistenceHealth = s.persistenceDegraded)
    (pending : s.confirmed = false) : s.Concluded :=
  ⟨told, fun confirmed => absurd (pending.symm.trans confirmed) Bool.false_ne_true⟩

theorem Healthy.endingSession (told : s.persistenceHealth = s.persistenceDegraded)
    (pending : s.confirmed = false) (caller : EndingCaller) :
    Healthy { s.beginSessionEnding with phase := .endingSession caller } :=
  ⟨told, fun confirmed => absurd (pending.symm.trans confirmed) Bool.false_ne_true, fun _ => pending,
    nofun, nofun, nofun, nofun⟩

theorem Healthy.afterFailure_none (told : s.persistenceHealth = s.persistenceDegraded)
    (pending : s.confirmed = false) : (s.afterFailure none).Healthy := by
  unfold PipelineVoiceLoop.afterFailure
  dsimp only
  split
  · exact .endingSession told pending _
  · exact .concludeFailure (.of_pending told pending) none

theorem Healthy.afterFailure (tended : s.Tended)
    (current : s.turn.recoveryGeneration = s.nonCheckpointPersistenceGeneration)
    (terminal : Option TurnStatus) : (s.afterFailure terminal).Healthy := by
  cases terminal with
  | some status =>
    obtain ⟨told, recovered⟩ := recovers (s := s.knowEnd status false) tended.told current
    have shut : (s.knowEnd status false).Shut := tended.shut
    exact .concludeFailure ⟨told, fun _ => ⟨recovered, shut.recover _⟩⟩ _
  | none => exact .afterFailure_none tended.told tended.pending

theorem Healthy.afterSessionEnding (told : s.persistenceHealth = s.persistenceDegraded)
    (pending : s.confirmed = false) (caller : EndingCaller) :
    (s.afterSessionEnding caller).Healthy := by
  have concluded : s.Concluded := .of_pending told pending
  cases caller with
  | gate | turnStart => exact .of_concluded ⟨concluded.told, concluded.recovered⟩ rfl
  | terminalWrite => exact .afterFailure_none told pending
  | turnFailure => exact .concludeFailure concluded none

theorem Healthy.endSession (told : s.persistenceHealth = s.persistenceDegraded)
    (pending : s.confirmed = false) (caller : EndingCaller) : (s.endSession caller).Healthy := by
  unfold PipelineVoiceLoop.endSession
  split
  · exact .afterSessionEnding told pending caller
  · exact .endingSession told pending caller

section

variable (tended : s.Tended)
include tended

theorem Healthy.recoverFailedTurn
    (current : s.turn.recoveryGeneration = s.nonCheckpointPersistenceGeneration)
    (degraded : s.nonCheckpointPersistenceDegraded = true) (caller : RecoveryCaller)
    (candidate : Option Nat) (afterSequence : Nat) :
    (s.recoverFailedTurn caller candidate afterSequence).Healthy :=
  .of_failing ⟨tended.told, tended.pending, tended.shut, tended.late⟩ current fun _ => degraded

theorem Healthy.afterRecovery
    (current : s.turn.recoveryGeneration = s.nonCheckpointPersistenceGeneration)
    (caller : RecoveryCaller) (terminal : Option TurnStatus) :
    (s.recovered caller terminal).Healthy := by
  unfold PipelineVoiceLoop.recovered
  split
  · obtain ⟨told, recovered⟩ := recovers tended.told current
    exact .of_concluded ⟨told, fun _ => ⟨recovered, tended.shut.recover _⟩⟩ rfl
  · exact .endSession tended.told tended.pending _
  · exact .afterFailure tended current _
  · exact .afterFailure tended current _
  · exact .endSession tended.told tended.pending _

theorem Healthy.inspected
    (current : s.turn.recoveryGeneration = s.nonCheckpointPersistenceGeneration)
    (degraded : s.nonCheckpointPersistenceDegraded = true) (caller : RecoveryCaller)
    (candidate : Option Nat) (afterSequence : Nat) (currentTurnId : Option Nat) :
    (s.inspected caller candidate afterSequence currentTurnId).Healthy := by
  unfold PipelineVoiceLoop.inspected
  dsimp only
  split
  · exact .afterRecovery tended current caller _
  · exact .of_failing ⟨tended.told, tended.pending, tended.shut, tended.late⟩ current fun _ => degraded

theorem Healthy.throwTurn : s.throwTurn.Healthy := by
  unfold PipelineVoiceLoop.throwTurn
  split
  · exact .of_failing ⟨tended.told, tended.pending, tended.shut, tended.late⟩ rfl nofun
  · exact .of_concluded ⟨tended.told, tended.concluded.recovered⟩ rfl

theorem markForRecovery_spec :
    s.markForRecovery.Tended ∧
      s.markForRecovery.turn.recoveryGeneration =
        s.markForRecovery.nonCheckpointPersistenceGeneration ∧
      s.markForRecovery.nonCheckpointPersistenceDegraded = true := by
  have marked := tended.mark
  refine ⟨⟨marked.told, marked.pending, marked.shut, marked.late⟩, rfl, ?_⟩
  obtain ⟨events, eq⟩ := s.markPersistenceDegraded_eq
  change s.markPersistenceDegraded.nonCheckpointPersistenceDegraded = true
  rw [eq]

theorem Healthy.startFailed (candidate : Option Nat) :
    (s.startFailed candidate).Healthy := by
  obtain ⟨marked, current, degraded⟩ := markForRecovery_spec tended
  exact .recoverFailedTurn (s := s.markForRecovery.failTurn) ⟨marked.told, marked.pending, marked.shut, marked.late⟩
    current degraded _ _ _

end

/-! ## The steps of a turn -/

theorem Healthy.gatePassed (told : s.persistenceHealth = s.persistenceDegraded)
    (pending : s.confirmed = false) (checkpointRecovered : Bool) :
    (s.passGate checkpointRecovered).Healthy := by
  unfold PipelineVoiceLoop.passGate
  split
  · exact .of_concluded (.of_pending told pending) rfl
  · next notEnding =>
    split
    · obtain ⟨events, marked⟩ := s.markPersistenceDegraded_eq
      refine .endSession ?_ ?_ .gate
      · rw [marked]
        rfl
      · rw [marked]
        exact pending
    · exact .of_tended ⟨told, pending, fun ending => absurd ending notEnding, nofun⟩ rfl

theorem Healthy.startSettled (healthy : s.Healthy) (tended : s.Tended) (outcome : CallOutcome) :
    (s.startSettled outcome).Healthy := by
  unfold PipelineVoiceLoop.startSettled
  split
  · exact healthy
  · have called := tended.settleCall (.startTurn s.turn.transcript) outcome
    dsimp only
    split
    · exact .of_tended ⟨called.told, called.pending, called.shut, called.late⟩ rfl
    · exact .startFailed called none

section

variable (tended : s.Tended)
include tended

theorem Tended.announceTurn : s.announceTurn.Tended := by
  obtain ⟨events, announced⟩ := s.announceTurn_eq
  rw [announced]
  exact ⟨tended.told, tended.pending, tended.shut, tended.late⟩

theorem Healthy.thinkingSettled (outcome : CallOutcome) (setUp : TurnSetUp) :
    (s.thinkingSettled outcome setUp).Healthy := by
  have called := tended.settleCall (.updateTurnStatus s.turn.turnId .thinking) outcome
  unfold PipelineVoiceLoop.thinkingSettled
  dsimp only
  split
  · have announced := called.announceTurn
    unfold PipelineVoiceLoop.setUpTurn
    dsimp only
    split
    · exact .of_concluded ⟨announced.told, announced.concluded.recovered⟩ rfl
    · exact .of_tended ⟨announced.told, announced.pending, announced.shut, announced.late⟩ rfl
  · exact .startFailed called.mark _

theorem Healthy.deliverText : s.deliverText.Healthy :=
  .of_tended ⟨tended.told, tended.pending, tended.shut, tended.late⟩ rfl

theorem Tended.abortActive (reason : TurnCancellationReason) :
    (s.abortActive reason).Tended := by
  unfold PipelineVoiceLoop.abortActive
  split <;> exact ⟨tended.told, tended.pending, tended.shut, tended.late⟩

theorem Healthy.audioFailed : s.audioFailed.Healthy := by
  have failed : Tended { s with turn := { s.turn with audioError := true } } :=
    ⟨tended.told, tended.pending, tended.shut, tended.late⟩
  unfold PipelineVoiceLoop.audioFailed
  dsimp only
  split
  · exact .throwTurn failed
  · exact .deliverText (failed.abortActive _)

end

theorem Healthy.bodyCallSettled (running : s.phase = .running)
    (tended : s.Tended) (call : DurableCall) (outcome : CallOutcome) :
    (s.bodyCallSettled call outcome).Healthy := by
  have called := tended.settleCall call outcome
  obtain ⟨store, lateWrites, nextLateWrite, eq⟩ := s.settleCall_eq call outcome
  unfold PipelineVoiceLoop.bodyCallSettled
  dsimp only
  split
  · refine .of_tended called ?_
    rw [eq]
    exact congrArg TranscriptPhase.isFailing running
  · exact .throwTurn called.mark

theorem Healthy.speakingSettled (tended : s.Tended) (outcome : CallOutcome) :
    (s.speakingSettled outcome).Healthy := by
  have called := tended.settleCall (.updateTurnStatus s.turn.turnId .speaking) outcome
  unfold PipelineVoiceLoop.speakingSettled
  dsimp only
  split
  · exact .of_tended ⟨called.told, called.pending, called.shut, called.late⟩ rfl
  · exact .audioFailed called.mark

theorem Healthy.audioSettled (tended : s.Tended) (outputDelivered failed : Bool) :
    (s.audioSettled outputDelivered failed).Healthy := by
  unfold PipelineVoiceLoop.audioSettled
  dsimp only
  split
  · exact .audioFailed ⟨tended.told, tended.pending, tended.shut, tended.late⟩
  · exact .deliverText ⟨tended.told, tended.pending, tended.shut, tended.late⟩

theorem Healthy.textSettled (tended : s.Tended) (textDelivered : Option Bool) (alignedText : Text) :
    (s.textSettled textDelivered alignedText).Healthy := by
  unfold PipelineVoiceLoop.textSettled
  dsimp only
  split
  · exact .throwTurn ⟨tended.told, tended.pending, tended.shut, tended.late⟩
  · split
    · exact .of_tended ⟨tended.told, tended.pending, tended.shut, tended.late⟩ rfl
    · exact .of_tended ⟨tended.told, tended.pending, tended.shut, tended.late⟩ rfl

theorem Healthy.turnEndSettled (healthy : s.Healthy) (tended : s.Tended) (cancelled : Bool)
    (outcome : CallOutcome) (undegraded : s.Undegraded (.turnEnds outcome)) :
    (s.turnEndSettled cancelled outcome).Healthy := by
  have called := tended.settleCall
    (.endTurn s.turn.turnId (if cancelled then .cancelled else .completed) (some s.turn.finalText))
    outcome
  unfold PipelineVoiceLoop.turnEndSettled
  dsimp only
  split
  · next resolved =>
    cases outcome with
    | resolves =>
      split
      · exact .turnEnded called (undegraded rfl) cancelled _
      · exact healthy
    | rejects | timesOut => cases resolved
  · -- The write may be late, and that the loop knows it is why it is degraded.
    refine .throwTurn ?_
    obtain ⟨events, marked⟩ := markPersistenceDegraded_eq
      { s.settleCall (.endTurn s.turn.turnId (if cancelled then .cancelled else .completed)
          (some s.turn.finalText)) outcome with
        turn := { (s.settleCall (.endTurn s.turn.turnId (if cancelled then .cancelled else .completed)
          (some s.turn.finalText)) outcome).turn with terminalWriteMayBeLate := outcome.isUnavailable } }
    rw [marked]
    exact ⟨rfl, called.pending, called.shut, fun _ => rfl⟩

theorem Healthy.terminalReadSettled (healthy : s.Healthy) (reading : s.phase = .readingTerminal)
    (tended : s.Tended) (found : Bool) : (s.terminalReadSettled found).Healthy := by
  have current := healthy.generation (congrArg TranscriptPhase.isFailing reading)
  unfold PipelineVoiceLoop.terminalReadSettled
  split
  · exact .afterFailure tended current _
  · split
    · next late => exact .recoverFailedTurn tended current (late.elim id tended.late) _ _ _
    · exact .of_failing ⟨tended.told, tended.pending, tended.shut, tended.late⟩ current nofun

theorem Healthy.failedTurnEndSettled (healthy : s.Healthy) (failing : s.phase = .failing)
    (tended : s.Tended) (outcome : CallOutcome) : (s.failedTurnEndSettled outcome).Healthy := by
  have current := healthy.generation (congrArg TranscriptPhase.isFailing failing)
  have called := tended.settleCall (.endTurn s.turn.turnId .failed (some s.turn.finalText)) outcome
  obtain ⟨store, lateWrites, nextLateWrite, eq⟩ :=
    s.settleCall_eq (.endTurn s.turn.turnId .failed (some s.turn.finalText)) outcome
  unfold PipelineVoiceLoop.failedTurnEndSettled
  dsimp only
  split
  · split
    · refine .afterFailure called ?_ _
      rw [eq]
      exact current
    · exact healthy
  · obtain ⟨marked, kept, degraded⟩ := markForRecovery_spec called
    exact .recoverFailedTurn marked kept degraded _ _ _

theorem mark_generation (degraded : s.nonCheckpointPersistenceDegraded = true) :
    s.markPersistenceDegraded.nonCheckpointPersistenceGeneration =
        s.nonCheckpointPersistenceGeneration ∧
      s.markPersistenceDegraded.turn.recoveryGeneration = s.turn.recoveryGeneration ∧
      s.markPersistenceDegraded.nonCheckpointPersistenceDegraded = true := by
  obtain ⟨events, marked⟩ := s.markPersistenceDegraded_eq
  rw [marked]
  exact ⟨if_pos degraded, rfl, rfl⟩

section

variable (healthy : s.Healthy)
include healthy

theorem Healthy.recoveryWriteSettled (recovering : s.phase.isRecovering = true) (tended : s.Tended)
    (caller : RecoveryCaller) (turnId afterSequence : Nat) (outcome : CallOutcome) :
    (s.recoveryWriteSettled caller turnId afterSequence outcome).Healthy := by
  have called := tended.settleCall (.endTurn turnId .failed none) outcome
  obtain ⟨store, lateWrites, nextLateWrite, eq⟩ := s.settleCall_eq (.endTurn turnId .failed none) outcome
  have current : (s.settleCall (.endTurn turnId .failed none) outcome).turn.recoveryGeneration =
      (s.settleCall (.endTurn turnId .failed none) outcome).nonCheckpointPersistenceGeneration := by
    rw [eq]
    exact healthy.generation (TranscriptPhase.isFailing_of_isRecovering recovering)
  have degraded :
      (s.settleCall (.endTurn turnId .failed none) outcome).nonCheckpointPersistenceDegraded = true := by
    rw [eq]
    exact healthy.degraded recovering
  have decide {t : PipelineVoiceLoop} (tended : t.Tended)
      (current : t.turn.recoveryGeneration = t.nonCheckpointPersistenceGeneration)
      (degraded : t.nonCheckpointPersistenceDegraded = true) :
      Healthy { t with phase := .recovering caller (some turnId) afterSequence .deciding } :=
    .of_failing ⟨tended.told, tended.pending, tended.shut, tended.late⟩ current fun _ => degraded
  have again : Healthy
      { (s.settleCall (.endTurn turnId .failed none) outcome).markPersistenceDegraded with
        phase := .recovering caller (some turnId) afterSequence .deciding } := by
    obtain ⟨kept, generation, stays⟩ := mark_generation degraded
    exact decide called.mark (generation.trans (current.trans kept.symm)) stays
  unfold PipelineVoiceLoop.recoveryWriteSettled
  dsimp only
  split
  · split
    · exact .afterRecovery called current caller _
    · exact decide called current degraded
  · exact again
  · exact again
  · exact .afterRecovery called current caller _

/-! ## Every event -/

theorem Healthy.frame {t : PipelineVoiceLoop} (same : t.healthState = s.healthState) :
    t.Healthy := by
  simp only [healthState, Prod.mk.injEq] at same
  obtain ⟨phase, confirmed, told, degraded, checkpoint, generation, kept, late, ending, gate⟩ := same
  have allDegraded : t.persistenceDegraded = s.persistenceDegraded := by
    rw [persistenceDegraded, degraded, checkpoint, persistenceDegraded]
  have shut : s.Shut → t.Shut := by
    intro shut again
    rw [gate]
    exact shut (ending.symm.trans again)
  constructor
  · rw [told, allDegraded]
    exact healthy.told
  · rw [confirmed, degraded]
    exact fun known => ⟨(healthy.recovered known).1, shut (healthy.recovered known).2⟩
  · rw [phase, confirmed]
    exact healthy.pending
  · rw [phase]
    exact fun tended => shut (healthy.tended tended)
  · rw [phase, kept, generation]
    exact healthy.generation
  · rw [phase, late, degraded]
    exact healthy.late
  · rw [phase, degraded]
    exact healthy.degraded

theorem Healthy.concluded : s.Concluded := ⟨healthy.told, healthy.recovered⟩

theorem Healthy.tending (tended : s.phase.isTended = true) : s.Tended := by
  have pending : s.phase.isPending = true := by
    cases phase : s.phase <;> rw [phase] at tended <;> first | rfl | cases tended
  exact ⟨healthy.told, healthy.pending pending, healthy.tended tended, healthy.late tended⟩

theorem Healthy.handle {event : LoopEvent} (undegraded : s.Undegraded event) :
    (s.handle event).Healthy := by
  have handled := s.handled event
  revert undegraded
  generalize s.handle event = next at handled
  intro undegraded
  have tending := healthy.tending
  cases handled with
  | gateRecovered phase | gateFailed phase =>
    exact .gatePassed healthy.told (healthy.pending (congrArg TranscriptPhase.isPending phase)) _
  | start outcome phase =>
    exact .startSettled healthy (tending (congrArg TranscriptPhase.isTended phase)) outcome
  | thinking outcome setUp phase =>
    exact .thinkingSettled (tending (congrArg TranscriptPhase.isTended phase)) outcome setUp
  | prompt | answer =>
    exact healthy.frame rfl
  | callingTool outcome phase | toolCall outcome phase =>
    exact .bodyCallSettled phase (tending (congrArg TranscriptPhase.isTended phase)) _ outcome
  | throws phase => exact .throwTurn (tending (congrArg TranscriptPhase.isTended phase))
  | silent phase => exact .deliverText (tending (congrArg TranscriptPhase.isTended phase))
  | speaking outcome phase =>
    exact .speakingSettled (tending (congrArg TranscriptPhase.isTended phase)) outcome
  | audio outputDelivered failed phase =>
    exact .audioSettled (tending (congrArg TranscriptPhase.isTended phase)) outputDelivered failed
  | text attempted textDelivered alignedText phase =>
    exact .textSettled (tending (congrArg TranscriptPhase.isTended phase)) _ alignedText
  | turnEnd cancelled outcome phase =>
    exact .turnEndSettled healthy (tending (congrArg TranscriptPhase.isTended phase)) cancelled outcome
      undegraded
  | memory status phase => exact .observe healthy.concluded status false
  | read found phase =>
    exact .terminalReadSettled healthy phase (tending (congrArg TranscriptPhase.isTended phase)) found
  | failedTurnEnd outcome phase =>
    exact .failedTurnEndSettled healthy phase (tending (congrArg TranscriptPhase.isTended phase))
      outcome
  | finish phase => exact .of_concluded ⟨healthy.told, healthy.recovered⟩ rfl
  | waited caller candidate afterSequence writes phase
  | session caller candidate afterSequence phase
  | notInspected caller candidate afterSequence step phase
  | write caller turnId afterSequence phase =>
    have tended := tending (congrArg TranscriptPhase.isTended phase)
    exact .of_failing ⟨tended.told, tended.pending, tended.shut, tended.late⟩
      (healthy.generation (congrArg TranscriptPhase.isFailing phase))
      fun _ => healthy.degraded (congrArg TranscriptPhase.isRecovering phase)
  | turns caller candidate afterSequence currentTurnId phase =>
    exact .inspected (tending (congrArg TranscriptPhase.isTended phase))
      (healthy.generation (congrArg TranscriptPhase.isFailing phase))
      (healthy.degraded (congrArg TranscriptPhase.isRecovering phase)) _ _ _ _
  | written caller turnId afterSequence outcome phase =>
    exact .recoveryWriteSettled healthy (congrArg TranscriptPhase.isRecovering phase)
      (tending (congrArg TranscriptPhase.isTended phase)) _ _ _ outcome
  | again caller candidate afterSequence phase =>
    exact .recoverFailedTurn (tending (congrArg TranscriptPhase.isTended phase))
      (healthy.generation (congrArg TranscriptPhase.isFailing phase))
      (healthy.degraded (congrArg TranscriptPhase.isRecovering phase)) _ _ _
  | giveUp caller candidate afterSequence step phase =>
    exact .afterRecovery (tending (congrArg TranscriptPhase.isTended phase))
      (healthy.generation (congrArg TranscriptPhase.isFailing phase)) _ _
  | sessionEnded caller phase =>
    exact .afterSessionEnding healthy.told
      (healthy.pending (congrArg TranscriptPhase.isPending phase)) caller
  | nothing => exact healthy

theorem Healthy.beside {gate : PersistenceGate} {ending : Bool}
    (shut : s.Shut → ending = true → gate = .failing ∨ gate = .failed) :
    Healthy { s with persistenceGate := gate, persistenceSessionEnding := ending } :=
  ⟨healthy.told, fun confirmed => ⟨(healthy.recovered confirmed).1, shut (healthy.recovered confirmed).2⟩,
    healthy.pending, fun tended => shut (healthy.tended tended), healthy.generation, healthy.late,
    healthy.degraded⟩

theorem Healthy.beginNext : s.beginNext.Healthy := by
  unfold PipelineVoiceLoop.beginNext
  split
  · exact ⟨healthy.told, nofun, fun _ => rfl, nofun, nofun, nofun, nofun⟩
  · exact healthy

theorem Healthy.emitVoiceEvent (event : VoiceEvent) :
    (s.emitVoiceEvent event).Healthy := by
  obtain ⟨events, emitted⟩ := s.emitVoiceEvent_eq event
  rw [emitted]
  exact healthy.frame rfl

theorem Healthy.endRun (reason : TerminalKind) (resolves : Bool) :
    (s.endRun reason resolves).Healthy := by
  have close {t : PipelineVoiceLoop} (healthy : t.Healthy) (settlement : Option TerminalKind) :
      (t.closeRun reason settlement).Healthy := by
    exact (healthy.emitVoiceEvent (.callEnded reason t.turnsHandled)).frame rfl
  unfold PipelineVoiceLoop.endRun
  split
  · exact close healthy _
  · exact close (healthy.emitVoiceEvent .error) _

theorem Healthy.settleCall (call : DurableCall) (outcome : CallOutcome) :
    (s.settleCall call outcome).Healthy := by
  obtain ⟨store, lateWrites, nextLateWrite, called⟩ := s.settleCall_eq call outcome
  rw [called]
  exact healthy.frame rfl

theorem Healthy.markCheckpoint : s.markCheckpointPersistenceDegraded.Healthy := by
  obtain ⟨events, marked⟩ := s.markCheckpointPersistenceDegraded_eq
  rw [marked]
  exact ⟨(Bool.or_true _).symm, healthy.recovered, healthy.pending, healthy.tended, healthy.generation,
    healthy.late, healthy.degraded⟩

theorem Healthy.checkpointCommitted (gate : s.persistenceGate = .checkpointing) :
    s.checkpointCommitted.Healthy := by
  -- No session is ended while a checkpoint is being written.
  have shut : s.Shut → s.persistenceSessionEnding = true →
      PersistenceGate.recovered = .failing ∨ PersistenceGate.recovered = .failed := by
    intro shut ending
    rcases shut ending with failing | failed
    · cases gate.symm.trans failing
    · cases gate.symm.trans failed
  have opened := healthy.beside shut
  exact ⟨rfl, opened.recovered, opened.pending, opened.tended, opened.generation, opened.late,
    opened.degraded⟩

theorem Healthy.checkpointFailed : s.checkpointFailed.Healthy := by
  have failing : Healthy { s with persistenceGate := .failing, persistenceSessionEnding := true } :=
    healthy.beside fun _ _ => .inl rfl
  unfold PipelineVoiceLoop.checkpointFailed
  split
  · next ending =>
    rw [← ending] at failing
    exact failing
  · exact failing.frame rfl

theorem Healthy.interrupt (cause : TurnCancellationReason) :
    (s.interrupt cause).Healthy := by
  have gate : s.Shut → s.persistenceSessionEnding = true → (s.interrupt cause).persistenceGate = .failing ∨
      (s.interrupt cause).persistenceGate = .failed := by
    intro shut ending
    unfold PipelineVoiceLoop.interrupt
    split <;> rcases shut ending with shut | shut <;> simp [shut]
  refine (healthy.beside gate).frame ?_
  unfold PipelineVoiceLoop.interrupt
  split <;> rfl

theorem Healthy.step {event : LoopEvent} (undegraded : s.Undegraded event) :
    (s.step event).Healthy := by
  unfold PipelineVoiceLoop.step
  split
  · unfold enqueueTranscript
    split
    · exact healthy
    · exact healthy.frame rfl
  · exact healthy.frame rfl
  · exact healthy.beginNext
  · split
    · exact healthy.endRun _ _
    · exact healthy
  · split
    · exact healthy
    · exact healthy.endRun _ _
  · exact healthy.emitVoiceEvent .output
  · exact healthy.interrupt _
  · split
    · unfold PipelineVoiceLoop.abortActive
      split
      · exact healthy.frame rfl
      · exact healthy
    · exact healthy
  · exact healthy.frame rfl
  · exact healthy.frame rfl
  · exact healthy.frame rfl
  · split
    · exact healthy.checkpointCommitted ‹_›
    · exact healthy
  · split
    · exact healthy
    · exact healthy.frame rfl
  · split
    · exact healthy
    · unfold PipelineVoiceLoop.checkpointDegraded
      split
      · exact (healthy.settleCall _ _).markCheckpoint
      · exact healthy.markCheckpoint
  · split
    · exact healthy.checkpointFailed
    · exact healthy
  · split
    · exact healthy.beside fun _ _ => .inr rfl
    · exact healthy
  · unfold lateCommitted
    split
    · exact healthy
    · exact healthy.frame rfl
  · exact healthy.frame rfl
  · split
    · exact healthy.frame rfl
    · exact healthy
  · exact healthy.frame rfl
  · exact healthy.handle undegraded

end

theorem healthy_new (audioTap : Bool) (store : TurnStore) : (new audioTap store).Healthy :=
  ⟨rfl, nofun, nofun, nofun, nofun, nofun, nofun⟩

theorem healthy_after (audioTap : Bool) (store : TurnStore) {events : List LoopEvent}
    (undegraded : Lib.Admitted Undegraded step (new audioTap store) events) :
    (after audioTap store events).Healthy :=
  Lib.run_invariant_of_admitted Healthy (fun _ _ undegraded healthy => healthy.step undegraded)
    (healthy_new audioTap store) undegraded

/-! ## After a turn that was confirmed -/

theorem passGate_of_healthy (ending : s.persistenceSessionEnding = false)
    (healthy : s.persistenceDegraded = false) :
    s.passGate true =
      { s with
        phase := .starting
        turn := { transcript := s.turn.transcript, sequenceBeforeStart := s.lastTurnSequence }
        startCalls := s.startCalls ++ [⟨s.store, s.lateWrites, s.persistenceSessionEnding⟩] } := by
  unfold passGate
  rw [if_neg (by simp [ending]), if_neg (by simp [healthy])]

theorem startsTurn (phase : s.phase = .idle) (gate : s.persistenceGate = .recovered)
    (ending : s.persistenceSessionEnding = false) (healthy : s.persistenceDegraded = false)
    {transcript : Text} {rest : List Text} (queued : s.turnChain = transcript :: rest) :
    let next := (s.step .begins).step .gateResolves
    next.phase = .starting ∧ next.turn.transcript = transcript ∧
      next.startCalls.length = s.startCalls.length + 1 := by
  have begins : ∃ b : PipelineVoiceLoop, s.step .begins = b ∧ b.phase = .gate ∧
      b.persistenceGate = .recovered ∧ b.persistenceSessionEnding = false ∧
      b.persistenceDegraded = false ∧ b.turn.transcript = transcript ∧ b.startCalls = s.startCalls := by
    change ∃ b : PipelineVoiceLoop, s.beginNext = b ∧ _
    rw [beginNext, phase, queued]
    exact ⟨_, rfl, rfl, gate, ending, healthy, rfl, rfl⟩
  obtain ⟨b, begun, atGate, opened, notEnding, undegraded, transcript_eq, startCalls_eq⟩ := begins
  have passes : b.step .gateResolves = b.passGate true := by
    change b.handle .gateResolves = _
    simp only [handle, atGate, opened]
  dsimp only
  rw [begun, passes, passGate_of_healthy notEnding undegraded, ← startCalls_eq]
  exact ⟨rfl, transcript_eq, List.length_append⟩

/-- Whatever writes of a turn have failed: if the turn was confirmed terminal, and no checkpoint is
unresolved, the loop has recovered and goes on with the next transcript. -/
theorem persistence_recovery (audioTap : Bool) (store : TurnStore) (events : List LoopEvent)
    (undegraded : Lib.Admitted Undegraded step (new audioTap store) events) :
    let s := after audioTap store events
    s.phase = .idle → s.confirmed = true → s.persistenceGate = .recovered →
      s.checkpointPersistenceDegraded = false →
      s.persistenceDegraded = false ∧ s.persistenceHealth = false ∧
        ∀ transcript rest, s.turnChain = transcript :: rest →
          let next := (s.step .begins).step .gateResolves
          next.phase = .starting ∧ next.turn.transcript = transcript ∧
            next.startCalls.length = s.startCalls.length + 1 := by
  intro s phase confirmed gate checkpoint
  have healthy : s.Healthy := healthy_after audioTap store undegraded
  obtain ⟨recovered, shut⟩ := healthy.recovered confirmed
  have undegraded : s.persistenceDegraded = false := by
    rw [persistenceDegraded, recovered, checkpoint]
    rfl
  have notEnding : s.persistenceSessionEnding = false := by
    cases ending : s.persistenceSessionEnding with
    | false => rfl
    | true =>
      rcases shut ending with failing | failed
      · cases gate.symm.trans failing
      · cases gate.symm.trans failed
  exact ⟨undegraded, healthy.told.trans undegraded,
    fun _ _ queued => startsTurn phase gate notEnding undegraded queued⟩

/-- The first status of a turn is not written; the recovery ends the turn while the next transcript waits. -/
def recoveredTurn : List LoopEvent :=
  [.speaks [104], .speaks [105], .begins, .gateResolves, .startSettles .resolves,
    .thinkingSettles (.rejects false true) {}, .sessionRead, .turnsRead, .recoveryWrites,
    .recoveryWriteSettles .resolves]

theorem persistence_recovery_recoveredTurn :
    let s := after false ⟨[], 0, none, true⟩ recoveredTurn
    s.persistenceDegraded = false ∧ s.persistenceHealth = false ∧
      ((s.step .begins).step .gateResolves).phase = .starting := by
  obtain ⟨recovered, told, starts⟩ :=
    persistence_recovery false ⟨[], 0, none, true⟩ recoveredTurn (by decide) (by decide) (by decide)
      (by decide) (by decide)
  exact ⟨recovered, told, (starts [105] [] (by decide)).1⟩

/-- The `speaking` status is not written, the text is delivered instead, and the turn completed. -/
def spokenTurn : List LoopEvent :=
  [.speaks [104], .speaks [105], .begins, .gateResolves, .startSettles .resolves,
    .thinkingSettles .resolves {}, .llmAnswers [106], .speakingSettles (.rejects false true),
    .textSettles (some true) [], .turnEnds .resolves, .remembered, .turnFinished]

/-- The turn is completed in the store and confirmed, yet the loop stays degraded, and the next transcript
has the session ended. -/
theorem spokenTurn_notRecovered :
    let s := after false ⟨[], 0, none, true⟩ spokenTurn
    (s.phase = .idle ∧ s.confirmed = true ∧ s.persistenceGate = .recovered ∧
      s.checkpointPersistenceDegraded = false ∧ s.store.terminalStatus 0 = some .completed) ∧
    s.persistenceDegraded = true ∧ s.persistenceHealth = true ∧ s.turnChain = [[105]] ∧
    ((s.step .begins).step .gateResolves).phase = .endingSession .gate := by
  decide

end PipelineVoiceLoop

end Tvic
