import Mathlib.Data.List.Find
import Tvic.Runtime.Recollection

/-!
# What a reattached conversation remembers

A fresh policy reads the end of every turn from the store, and takes each cancelled turn for an interrupted
one, with the text that is stored. The live policy was told of completed turns and of barge-ins. The pairs
of the two therefore agree turn by turn exactly if every cancelled turn was barged in on and heard to the
end of its text.

The invariant says of how many turns the policy was told: all, or all but the one being handled.
-/
namespace Tvic

open Lib (Text)

/-- The turn is over in this phase, and no other has begun. -/
def TranscriptPhase.isConcluded : TranscriptPhase → Bool
  | .idle | .remembering _ | .finishing => true
  | _ => false

def TranscriptPhase.isConversing : TranscriptPhase → Bool
  | .thinking | .running | .speaking | .delivering _ | .ending _ => true
  | _ => false

namespace PipelineVoiceLoop

def recollection (s : PipelineVoiceLoop) : Recollection :=
  ⟨s.store, s.lateWrites, s.lateStarted, s.turnChain, s.policyCalls, s.knownEnds, s.turn.turnId,
    s.turn.transcript, s.turn.finalText⟩

variable {s : PipelineVoiceLoop} {localeCompare : Text → Text → Ordering}

/-! ## What leaves the recollection alone -/

@[simp] theorem markPersistenceDegraded_recollection :
    s.markPersistenceDegraded.recollection = s.recollection := by
  obtain ⟨events, marked⟩ := s.markPersistenceDegraded_eq
  rw [marked]
  rfl

@[simp] theorem observeTerminalTurn_recollection (status : TurnStatus) (withError : Bool) :
    (s.observeTerminalTurn status withError).recollection = s.recollection := by
  obtain ⟨events, observed⟩ := s.observeTerminalTurn_eq status withError
  rw [observed]
  rfl

@[simp] theorem recoverNonCheckpointPersistence_recollection (generation : Nat) :
    (s.recoverNonCheckpointPersistence generation).recollection = s.recollection := by
  unfold recoverNonCheckpointPersistence
  split <;> rfl

theorem settleCall_calls (call : DurableCall) (outcome : CallOutcome) :
    s.recollection.Calls (s.settleCall call outcome).recollection call := by
  have kept : ∀ write ∈ s.lateWrites, (∃ was ∈ s.lateWrites, was.call = write.call) ∨
      write.call = call := fun write member => .inl ⟨write, member, rfl⟩
  cases outcome with
  | resolves => exact ⟨.inr rfl, kept, rfl, rfl, rfl, rfl, rfl, rfl, rfl⟩
  | rejects committed unavailable =>
    cases committed with
    | true => exact ⟨.inr rfl, kept, rfl, rfl, rfl, rfl, rfl, rfl, rfl⟩
    | false => exact ⟨.inl rfl, kept, rfl, rfl, rfl, rfl, rfl, rfl, rfl⟩
  | timesOut tracked =>
    refine ⟨.inl rfl, fun write member => ?_, rfl, rfl, rfl, rfl, rfl, rfl, rfl⟩
    rcases List.mem_append.mp member with before | added
    · exact kept write before
    · obtain rfl := List.mem_singleton.mp added
      exact .inr rfl

theorem settleCall_ending (call : DurableCall) (outcome : CallOutcome) :
    (s.settleCall call outcome).persistenceSessionEnding = s.persistenceSessionEnding := by
  obtain ⟨store, lateWrites, nextLateWrite, called⟩ := s.settleCall_eq call outcome
  rw [called]

/-! ## The invariant -/

/-- The policy was told of every turn. -/
structure Told (localeCompare : Text → Text → Ordering) (r : Recollection) : Prop where
  kept : r.Kept
  complete : r.Complete localeCompare

/-- Nothing was done to end the turn being handled. -/
structure Converses (localeCompare : Text → Text → Ordering) (r : Recollection) : Prop where
  kept : r.Kept
  ongoing : r.Ongoing localeCompare

/-- The turn being handled may have been ended. -/
structure Fails (localeCompare : Text → Text → Ordering) (r : Recollection) : Prop where
  kept : r.Kept
  unsettled : r.Unsettled localeCompare

def Recovers (localeCompare : Text → Text → Ordering) (r : Recollection) (caller : RecoveryCaller)
    (candidate : Option Nat) : Prop :=
  match caller with
  | .turnStart => Told localeCompare r ∧
      ∀ turnId, candidate = some turnId → turnId < r.store.turns.length
  | _ => Fails localeCompare r ∧ candidate = some r.turnId

def RecallStage (localeCompare : Text → Text → Ordering) (r : Recollection) : TranscriptPhase → Prop
  | .idle | .remembering _ | .finishing => Told localeCompare r
  | .gate | .starting => Told localeCompare r ∧ r.transcript ≠ []
  | .recovering caller candidate _ _ => Recovers localeCompare r caller candidate
  | .readingTerminal | .failing => Fails localeCompare r
  | .endingSession _ => False
  | _ => Converses localeCompare r

def Recollected (localeCompare : Text → Text → Ordering) (s : PipelineVoiceLoop) : Prop :=
  s.persistenceSessionEnding = false → RecallStage localeCompare s.recollection s.phase

theorem Told.recollected
    (told : s.persistenceSessionEnding = false → Told localeCompare s.recollection)
    (concluded : s.phase.isConcluded = true) : s.Recollected localeCompare := by
  intro going
  cases phase : s.phase <;> rw [phase] at concluded <;> first | exact told going | cases concluded

theorem Converses.recollected
    (converses : s.persistenceSessionEnding = false → Converses localeCompare s.recollection)
    (conversing : s.phase.isConversing = true) : s.Recollected localeCompare := by
  intro going
  cases phase : s.phase <;> rw [phase] at conversing <;>
    first | exact converses going | cases conversing

theorem Recollected.converses (recollected : s.Recollected localeCompare)
    (conversing : s.phase.isConversing = true) (going : s.persistenceSessionEnding = false) :
    Converses localeCompare s.recollection := by
  have stage := recollected going
  cases phase : s.phase <;> rw [phase] at conversing stage <;> first | exact stage | cases conversing

theorem Recollected.of_ending (ending : s.persistenceSessionEnding = true) :
    s.Recollected localeCompare :=
  fun going => absurd (ending.symm.trans going) (by simp)

/-! ## Coming to know the end of a turn -/

/-- The turn being handled is terminal, and no other turn is open. -/
structure Ended (localeCompare : Text → Text → Ordering) (s : PipelineVoiceLoop) (turn : StoredTurn) :
    Prop where
  kept : s.recollection.Kept
  handles : s.recollection.Handles localeCompare
  found : s.store.turns[s.turn.turnId]? = some turn
  completed : turn.status = .completed → turn.outputText = some s.turn.finalText
  closed : ∀ turnId, ¬ s.store.IsOpen turnId

variable {turn : StoredTurn}

section

variable (ended : s.Ended localeCompare turn)
include ended

theorem Ended.told (acknowledged : Bool) (calls : List PolicyCall)
    (told : recordedPairs localeCompare calls =
      (remembered [⟨s.turn.turnId, turn.status, acknowledged, s.cancelledByBargeIn, s.memoryText⟩]
        s.turn.turnId turn).toList) :
    Told localeCompare
      { (s.knowEnd turn.status acknowledged).recollection with policyCalls := s.policyCalls ++ calls } := by
  have kept := ended.kept
  refine ⟨⟨kept.transcripts, kept.sequences, kept.bounded, kept.chain, kept.late, kept.ends,
    kept.lateStarted⟩, ended.handles.knows ended.found rfl rfl rfl ?_ ended.closed⟩
  exact List.flatMap_append.trans (congrArg (recordedPairs localeCompare s.policyCalls ++ ·) told)

theorem Ended.transcript :
    turn.transcript = s.turn.transcript := ended.handles.spoken turn ended.found

theorem Ended.recordTurn (completed : turn.status = .completed) (acknowledged : Bool) :
    Told localeCompare
      { (s.knowEnd .completed acknowledged).recollection with
        policyCalls := s.policyCalls ++ [.recordTurn s.turn.transcript s.turn.finalText] } := by
  have told := ended.told acknowledged [.recordTurn s.turn.transcript s.turn.finalText]
  rw [completed] at told
  refine told ?_
  rw [remembered, completed, ended.completed completed, ended.transcript]
  rfl

theorem Ended.unrecorded (notCompleted : turn.status ≠ .completed) {acknowledged : Bool}
    (notHeard : turn.status = .cancelled → (acknowledged && s.cancelledByBargeIn) = false) :
    Told localeCompare (s.knowEnd turn.status acknowledged).recollection := by
  have told := ended.told acknowledged []
  rw [List.append_nil] at told
  refine told ?_
  unfold remembered
  split
  · next completed => exact absurd completed notCompleted
  · next cancelled =>
    have not := notHeard cancelled
    simp [not, recordedPairs]
  · rfl

theorem Ended.recordInterruptedTurn (cancelled : turn.status = .cancelled)
    (bargeIn : s.cancelledByBargeIn = true) :
    Told localeCompare
      { (s.knowEnd .cancelled true).recollection with
        policyCalls := s.policyCalls ++ [.recordInterruptedTurn s.turn.transcript s.memoryText] } := by
  have told := ended.told true [.recordInterruptedTurn s.turn.transcript s.memoryText]
  rw [cancelled] at told
  refine told ?_
  rw [remembered, cancelled, ended.transcript, bargeIn]
  simp [recordedPairs, PolicyCall.pairs]

end

theorem Told.observe
    (told : s.persistenceSessionEnding = false → Told localeCompare s.recollection)
    (status : TurnStatus) (withError : Bool) :
    (s.observeTerminalTurn status withError).Recollected localeCompare := by
  have same := s.observeTerminalTurn_recollection status withError
  have ending := congrArg StartLedger.sessionEnding (s.observeTerminalTurn_ledger status withError)
  refine Told.recollected (fun going => ?_) rfl
  rw [same]
  exact told (ending.symm.trans going)

theorem Recollected.turnEnded (terminal : turn.status.isTerminal = true)
    (ended : s.persistenceSessionEnding = false → s.Ended localeCompare turn) (cancelled : Bool)
    (own : s.persistenceSessionEnding = false → turn.status = .cancelled → cancelled = true) :
    (s.turnEnded cancelled turn.status).Recollected localeCompare := by
  have cancelledOf (notCompleted : turn.status ≠ .completed) (notFailed : turn.status ≠ .failed) :
      turn.status = .cancelled := by
    cases status : turn.status <;> rw [status] at terminal notCompleted notFailed <;>
      first | rfl | exact absurd rfl notCompleted | exact absurd rfl notFailed | cases terminal
  unfold PipelineVoiceLoop.turnEnded
  dsimp only
  split
  · next completed =>
    rw [completed]
    exact Told.recollected (fun going => (ended going).recordTurn completed true) rfl
  · next failed =>
    refine Told.observe (s := (s.knowEnd turn.status true).failTurn) (fun going => ?_) _ _
    exact (ended going).unrecorded (by rw [failed]; nofun) (by rw [failed]; nofun)
  · next notCompleted notFailed =>
    have status := cancelledOf notCompleted notFailed
    split
    · next bargedIn =>
      rw [status]
      exact Told.recollected
        (fun going => (ended going).recordInterruptedTurn status bargedIn.2) rfl
    · next notHeard =>
      refine Told.observe (s := s.knowEnd turn.status true)
        (fun going => (ended going).unrecorded notCompleted fun _ => ?_) _ _
      rw [Bool.true_and]
      cases bargeIn : s.cancelledByBargeIn with
      | false => rfl
      | true => exact absurd ⟨own going status, bargeIn⟩ notHeard

theorem remember_recollection (call : PolicyCall) (status : TurnStatus) :
    (s.remember call status).recollection =
      { s.recollection with policyCalls := s.recollection.policyCalls ++ [call] } := rfl

theorem Recollected.afterFailure_some
    (ended : s.persistenceSessionEnding = false → s.Ended localeCompare turn) :
    (s.afterFailure (some turn.status)).Recollected localeCompare := by
  have same : ((s.knowEnd turn.status false).recoverNonCheckpointPersistence
      s.turn.recoveryGeneration).recollection = (s.knowEnd turn.status false).recollection :=
    recoverNonCheckpointPersistence_recollection _
  have ending : ((s.knowEnd turn.status false).recoverNonCheckpointPersistence
      s.turn.recoveryGeneration).persistenceSessionEnding = s.persistenceSessionEnding :=
    congrArg StartLedger.sessionEnding (recoverNonCheckpointPersistence_ledger _)
  have unrecorded (going : s.persistenceSessionEnding = false) (notCompleted : turn.status ≠ .completed) :
      Told localeCompare (s.knowEnd turn.status false).recollection :=
    (ended going).unrecorded notCompleted fun _ => rfl
  unfold PipelineVoiceLoop.afterFailure
  dsimp only
  generalize recoverNonCheckpointPersistence _ _ = recovered at same ending
  unfold PipelineVoiceLoop.concludeFailure
  split
  · next completed =>
    rw [Option.some.injEq] at completed
    refine Told.recollected (fun going => ?_) rfl
    have told := (ended (ending.symm.trans going)).recordTurn completed false
    have transcript : recovered.turn.transcript = s.turn.transcript :=
      congrArg Recollection.transcript same
    have finalText : recovered.turn.finalText = s.turn.finalText :=
      congrArg Recollection.finalText same
    rw [transcript, finalText, remember_recollection, same, completed]
    exact told
  · next cancelled =>
    rw [Option.some.injEq] at cancelled
    refine Told.observe (fun going => ?_) _ _
    rw [same]
    exact unrecorded (ending.symm.trans going) (by rw [cancelled]; nofun)
  · next notCompleted _ =>
    refine Told.observe (s := recovered.failTurn) (fun going => ?_) _ _
    change Told localeCompare recovered.recollection
    rw [same]
    exact unrecorded (ending.symm.trans going) fun completed => notCompleted (by rw [completed])

/-! ## Ending the session, and recovery -/

theorem Recollected.concludeFailure_none (ending : s.persistenceSessionEnding = true) :
    (s.concludeFailure none).Recollected localeCompare :=
  Told.observe (s := s.failTurn) (fun going => absurd (ending.symm.trans going) (by simp)) _ _

theorem Recollected.afterFailure_none
    (lost : s.persistenceSessionEnding = false → s.nonCheckpointPersistenceDegraded = true) :
    (s.afterFailure none).Recollected localeCompare := by
  unfold PipelineVoiceLoop.afterFailure
  dsimp only
  cases ending : s.persistenceSessionEnding with
  | false =>
    rw [if_pos ⟨lost ending, by simp⟩]
    exact .of_ending rfl
  | true =>
    rw [if_neg (by simp)]
    exact .concludeFailure_none ending

theorem Recollected.afterSessionEnding (ending : s.persistenceSessionEnding = true)
    (caller : EndingCaller) : (s.afterSessionEnding caller).Recollected localeCompare := by
  have notGoing {P : Prop} (going : s.persistenceSessionEnding = false) : P :=
    absurd (ending.symm.trans going) (by simp)
  cases caller with
  | gate | turnStart => exact Told.recollected notGoing rfl
  | terminalWrite => exact .afterFailure_none notGoing
  | turnFailure => exact .concludeFailure_none ending

theorem Recollected.endSession (caller : EndingCaller) :
    (s.endSession caller).Recollected localeCompare := by
  unfold PipelineVoiceLoop.endSession
  split
  · next ending => exact .afterSessionEnding ending caller
  · exact .of_ending rfl

theorem Recollected.recovered_none (caller : RecoveryCaller)
    (degraded : s.persistenceSessionEnding = false → caller = .turnFailure →
      s.nonCheckpointPersistenceDegraded = true) : (s.recovered caller none).Recollected localeCompare := by
  cases caller with
  | turnStart => exact .endSession .turnStart
  | turnFailure => exact .afterFailure_none fun going => degraded going rfl
  | terminalWrite => exact .endSession .terminalWrite

theorem Recollected.recovered_some {caller : RecoveryCaller} {turnId : Nat} {status : TurnStatus}
    (recovers : s.persistenceSessionEnding = false →
      Recovers localeCompare s.recollection caller (some turnId))
    (terminal : s.store.terminalStatus turnId = some status)
    (closed : s.persistenceSessionEnding = false → ∀ other, ¬ s.store.IsOpen other) :
    (s.recovered caller (some status)).Recollected localeCompare := by
  -- Of a turn that failed the policy is told now.
  have failure (notStart : caller ≠ .turnStart) :
      (s.afterFailure (some status)).Recollected localeCompare := by
    obtain ⟨turn, found, rfl, -⟩ := TurnStore.terminalStatus_eq_some terminal
    refine .afterFailure_some fun going => ?_
    have recovers := recovers going
    have fails : Fails localeCompare s.recollection ∧ some turnId = some s.turn.turnId := by
      cases caller with
      | turnStart => exact absurd rfl notStart
      | turnFailure | terminalWrite => exact recovers
    obtain ⟨⟨kept, unsettled⟩, same⟩ := fails
    obtain rfl := Option.some.inj same
    exact ⟨kept, unsettled.handles, found, unsettled.completed turn found, closed going⟩
  cases caller with
  | turnStart =>
    have same : (s.recoverNonCheckpointPersistence s.turn.recoveryGeneration).recollection =
        s.recollection := recoverNonCheckpointPersistence_recollection _
    have ending : (s.recoverNonCheckpointPersistence
        s.turn.recoveryGeneration).persistenceSessionEnding = s.persistenceSessionEnding :=
      congrArg StartLedger.sessionEnding (recoverNonCheckpointPersistence_ledger _)
    refine Told.recollected (fun going => ?_) rfl
    have told := (recovers (ending.symm.trans going)).1
    rw [← same] at told
    exact told
  | turnFailure | terminalWrite => exact failure nofun

theorem Recollected.inspected {caller : RecoveryCaller} {candidate : Option Nat} {afterSequence : Nat}
    {currentTurnId : Option Nat}
    (recovers : s.persistenceSessionEnding = false →
      Recovers localeCompare s.recollection caller candidate)
    (closed : s.persistenceSessionEnding = false → ∀ status,
      ((candidate <|> s.store.lateTurn currentTurnId afterSequence).bind s.store.terminalStatus) =
        some status → ∀ other, ¬ s.store.IsOpen other) :
    (s.inspected caller candidate afterSequence currentTurnId).Recollected localeCompare := by
  have found (going : s.persistenceSessionEnding = false) : Recovers localeCompare s.recollection caller
      (candidate <|> s.store.lateTurn currentTurnId afterSequence) := by
    have recovers := recovers going
    cases caller with
    | turnStart =>
      refine ⟨recovers.1, fun turnId same => ?_⟩
      cases candidate with
      | some known => exact recovers.2 turnId same
      | none => exact TurnStore.lateTurn_lt same
    | turnFailure | terminalWrite =>
      obtain ⟨fails, rfl⟩ := recovers
      exact ⟨fails, rfl⟩
  unfold PipelineVoiceLoop.inspected
  dsimp only
  split
  · next status terminal =>
    obtain ⟨turnId, chosen, stored⟩ := Option.bind_eq_some_iff.mp terminal
    refine .recovered_some (fun going => ?_) stored fun going => closed going status terminal
    have recovers := found going
    rwa [chosen] at recovers
  · exact found

/-! ## Handling a turn -/

variable {r : Recollection}

theorem Converses.fails (converses : Converses localeCompare r) :
    Fails localeCompare r := ⟨converses.kept, converses.ongoing.unsettled⟩

theorem Converses.turnId_lt (converses : Converses localeCompare r) :
    r.turnId < r.store.turns.length := by
  rw [converses.ongoing.handles.newest]
  exact Nat.lt_succ_self _

variable {call : DurableCall}

theorem Converses.calls {r next : Recollection} (converses : Converses localeCompare r)
    (calls : r.Calls next call) (ordinary : call.isOrdinary = true)
    (ends : ∀ turnId status text, call ≠ .endTurn turnId status text) :
    Converses localeCompare next :=
  ⟨converses.kept.calls calls ordinary fun _ _ _ same => absurd same (ends _ _ _),
    converses.ongoing.calls calls ordinary fun _ _ _ same => absurd same (ends _ _ _)⟩

/-- A conversation that goes on, by what has happened to the loop so far. -/
def Talks (localeCompare : Text → Text → Ordering) (s : PipelineVoiceLoop) : Prop :=
  s.persistenceSessionEnding = false → Converses localeCompare s.recollection

section

variable (talks : s.Talks localeCompare)
include talks

theorem Talks.frame {t : PipelineVoiceLoop} (same : t.recollection = s.recollection)
    (ending : t.persistenceSessionEnding = s.persistenceSessionEnding) : t.Talks localeCompare := by
  intro going
  rw [same]
  exact talks (ending.symm.trans going)

theorem Talks.mark : s.markPersistenceDegraded.Talks localeCompare :=
  talks.frame s.markPersistenceDegraded_recollection
    (congrArg StartLedger.sessionEnding s.markPersistenceDegraded_ledger)

theorem Talks.settleCall (ordinary : call.isOrdinary = true)
    (ends : ∀ turnId status text, call ≠ .endTurn turnId status text) (outcome : CallOutcome) :
    (s.settleCall call outcome).Talks localeCompare := by
  intro going
  rw [settleCall_ending] at going
  exact (talks going).calls (s.settleCall_calls call outcome) ordinary ends

theorem Talks.recollected (phase : s.phase.isConversing = true) :
    s.Recollected localeCompare := Converses.recollected talks phase

theorem Talks.throwTurn (readable : s.clockReadable = true) :
    s.throwTurn.Recollected localeCompare := by
  rw [PipelineVoiceLoop.throwTurn, if_pos readable]
  exact fun going => (talks going).fails

theorem Talks.deliverText :
    s.deliverText.Recollected localeCompare :=
  Talks.recollected (talks.frame rfl rfl) rfl

theorem Talks.abortActive (reason : TurnCancellationReason) :
    (s.abortActive reason).Talks localeCompare := by
  unfold PipelineVoiceLoop.abortActive
  split
  · exact talks.frame rfl rfl
  · exact talks

theorem Talks.audioFailed (readable : s.clockReadable = true) :
    s.audioFailed.Recollected localeCompare := by
  have failed : Talks localeCompare { s with turn := { s.turn with audioError := true } } :=
    talks.frame rfl rfl
  unfold PipelineVoiceLoop.audioFailed
  dsimp only
  split
  · exact failed.throwTurn readable
  · exact (failed.abortActive _).deliverText

theorem Talks.bodyCallSettled (running : s.phase = .running) (ordinary : call.isOrdinary = true)
    (ends : ∀ turnId status text, call ≠ .endTurn turnId status text) (outcome : CallOutcome)
    (readable : (!outcome.isResolved) = true → s.clockReadable = true) :
    (s.bodyCallSettled call outcome).Recollected localeCompare := by
  have called := talks.settleCall ordinary ends outcome
  unfold PipelineVoiceLoop.bodyCallSettled
  dsimp only
  split
  · refine called.recollected ?_
    obtain ⟨store, lateWrites, nextLateWrite, eq⟩ := s.settleCall_eq call outcome
    rw [eq]
    exact congrArg TranscriptPhase.isConversing running
  · next failed =>
    refine called.mark.throwTurn ?_
    rw [markPersistenceDegraded_clockReadable, settleCall_clockReadable]
    exact readable (by simpa using failed)

theorem Talks.speakingSettled (outcome : CallOutcome)
    (readable : (!outcome.isResolved) = true → s.clockReadable = true) :
    (s.speakingSettled outcome).Recollected localeCompare := by
  have called : (s.settleCall (.updateTurnStatus s.turn.turnId .speaking) outcome).Talks localeCompare :=
    talks.settleCall rfl (fun _ _ _ same => by cases same) outcome
  unfold PipelineVoiceLoop.speakingSettled
  dsimp only
  split
  · exact Talks.recollected (called.frame rfl rfl) rfl
  · next failed =>
    refine called.mark.audioFailed ?_
    rw [markPersistenceDegraded_clockReadable, settleCall_clockReadable]
    exact readable (by simpa using failed)

theorem Talks.audioSettled (outputDelivered failed : Bool)
    (readable : failed = true → s.clockReadable = true) :
    (s.audioSettled outputDelivered failed).Recollected localeCompare := by
  unfold PipelineVoiceLoop.audioSettled
  dsimp only
  split
  · next failed => exact Talks.audioFailed (talks.frame rfl rfl) (readable failed)
  · exact Talks.deliverText (talks.frame rfl rfl)

theorem Talks.textSettled (textDelivered : Option Bool) (alignedText : Text)
    (readable : s.clockReadable = true) :
    (s.textSettled textDelivered alignedText).Recollected localeCompare := by
  unfold PipelineVoiceLoop.textSettled
  dsimp only
  rw [if_neg (by simpa using readable)]
  split
  · exact Talks.recollected (talks.frame rfl rfl) rfl
  · exact Talks.recollected (talks.frame rfl rfl) rfl

end

/-! ## The end of a turn -/

theorem Fails.endTurn {r next : Recollection} (fails : Fails localeCompare r) {status : TurnStatus}
    {outputText : Option Text} (terminal : status.isTerminal = true)
    (calls : r.Calls next (.endTurn r.turnId status outputText))
    (own : status = .completed → outputText = some r.finalText) : Fails localeCompare next := by
  have ordinary : (DurableCall.endTurn r.turnId status outputText).isOrdinary = true := by
    simp [DurableCall.isOrdinary, DurableCall.endsTurn, DurableCall.startsTurn, terminal]
  refine ⟨fails.kept.calls calls ordinary fun turnId other text same => ?_,
    fails.unsettled.calls calls ordinary fun turnId text completes _ => ?_⟩
  · obtain ⟨rfl, -, -⟩ := DurableCall.endTurn.inj same
    rw [fails.unsettled.handles.newest]
    exact Nat.lt_succ_self _
  · obtain ⟨rfl, rfl, rfl⟩ := DurableCall.endTurn.inj completes
    exact ⟨rfl, own rfl⟩

theorem Fails.ended (fails : Fails localeCompare s.recollection)
    (found : s.store.turns[s.turn.turnId]? = some turn) (closed : ∀ other, ¬ s.store.IsOpen other) :
    s.Ended localeCompare turn :=
  ⟨fails.kept, fails.unsettled.handles, found, fails.unsettled.completed turn found, closed⟩

theorem settleCall_turn (call : DurableCall) (outcome : CallOutcome) :
    (s.settleCall call outcome).turn = s.turn := by
  obtain ⟨store, lateWrites, nextLateWrite, called⟩ := s.settleCall_eq call outcome
  rw [called]

theorem Talks.turnEndSettled (talks : s.Talks localeCompare) (recollected : s.Recollected localeCompare)
    (cancelled : Bool) (outcome : CallOutcome)
    (readable : (!outcome.isResolved) = true → s.clockReadable = true)
    (closed : s.persistenceSessionEnding = false → ∀ called : PipelineVoiceLoop,
      called = s.settleCall (.endTurn s.turn.turnId (if cancelled then .cancelled else .completed)
        (some s.turn.finalText)) outcome →
      (called.store.terminalStatus s.turn.turnId).isSome = true →
      ∀ other, ¬ called.store.IsOpen other) :
    (s.turnEndSettled cancelled outcome).Recollected localeCompare := by
  obtain ⟨status, terminal, chosen⟩ : ∃ status : TurnStatus, status.isTerminal = true ∧
      status = (if cancelled then .cancelled else .completed) := by
    cases cancelled <;> exact ⟨_, rfl, rfl⟩
  have own : status = .cancelled → cancelled = true := by
    intro isCancelled
    cases cancelled with
    | true => rfl
    | false => cases chosen.symm.trans isCancelled
  unfold PipelineVoiceLoop.turnEndSettled
  dsimp only
  rw [← chosen] at closed ⊢
  have calls := s.settleCall_calls (.endTurn s.turn.turnId status (some s.turn.finalText)) outcome
  have ending := s.settleCall_ending (.endTurn s.turn.turnId status (some s.turn.finalText)) outcome
  have turn_eq := s.settleCall_turn (.endTurn s.turn.turnId status (some s.turn.finalText)) outcome
  have readable_eq := s.settleCall_clockReadable
    (.endTurn s.turn.turnId status (some s.turn.finalText)) outcome
  have fails (going : s.persistenceSessionEnding = false) := (talks going).fails.endTurn terminal calls
    fun _ => rfl
  have committed : outcome.isResolved = true →
      (s.settleCall (.endTurn s.turn.turnId status (some s.turn.finalText)) outcome).store =
        s.store.commit (.endTurn s.turn.turnId status (some s.turn.finalText)) := by
    intro resolved
    cases outcome with
    | resolves => rfl
    | rejects | timesOut => cases resolved
  generalize s.settleCall (.endTurn s.turn.turnId status (some s.turn.finalText)) outcome = called
    at closed calls ending turn_eq readable_eq fails committed ⊢
  split
  · next resolved =>
    split
    · next found terminal_ =>
      obtain ⟨turn, stored, rfl, isTerminal⟩ := TurnStore.terminalStatus_eq_some terminal_
      refine Recollected.turnEnded isTerminal (fun going => ?_) cancelled fun going isCancelled => own ?_
      · refine Fails.ended (fails (ending.symm.trans going)) (by rw [turn_eq]; exact stored) ?_
        exact closed (ending.symm.trans going) called rfl (by rw [terminal_]; rfl)
      · rw [committed resolved] at stored
        exact (TurnStore.commit_endTurn (talks (ending.symm.trans going)).ongoing.isOpen status _
          stored).symm.trans isCancelled
    · exact recollected
  · next failed =>
    obtain ⟨events, marked⟩ := markPersistenceDegraded_eq
      { called with turn := { called.turn with terminalWriteMayBeLate := outcome.isUnavailable } }
    have readable_ : clockReadable { called with turn :=
        { called.turn with terminalWriteMayBeLate := outcome.isUnavailable } } = true :=
      readable_eq.trans (readable (by simpa using failed))
    have throws : (markPersistenceDegraded { called with turn :=
        { called.turn with terminalWriteMayBeLate := outcome.isUnavailable } }).clockReadable = true := by
      rw [markPersistenceDegraded_clockReadable]
      exact readable_
    rw [PipelineVoiceLoop.throwTurn, if_pos throws, marked]
    exact fun going => fails (ending.symm.trans going)

theorem Recollected.terminalReadSettled
    (fails : s.persistenceSessionEnding = false → Fails localeCompare s.recollection) (found : Bool)
    (closed : s.persistenceSessionEnding = false →
      (s.store.terminalStatus s.turn.turnId).isSome = true → ∀ other, ¬ s.store.IsOpen other) :
    (s.terminalReadSettled found).Recollected localeCompare := by
  unfold PipelineVoiceLoop.terminalReadSettled
  split
  · next status read =>
    have terminal : s.store.terminalStatus s.turn.turnId = some status := by
      cases found with
      | true => exact read
      | false => cases read
    obtain ⟨turn, stored, rfl, -⟩ := TurnStore.terminalStatus_eq_some terminal
    exact .afterFailure_some fun going =>
      Fails.ended (fails going) stored (closed going (by rw [terminal]; rfl))
  · split
    · exact fun going => ⟨fails going, rfl⟩
    · exact fails

theorem Recollected.failedTurnEndSettled (recollected : s.Recollected localeCompare)
    (fails : s.persistenceSessionEnding = false → Fails localeCompare s.recollection)
    (outcome : CallOutcome)
    (closed : s.persistenceSessionEnding = false → ∀ called : PipelineVoiceLoop,
      called = s.settleCall (.endTurn s.turn.turnId .failed (some s.turn.finalText)) outcome →
      (called.store.terminalStatus s.turn.turnId).isSome = true →
      ∀ other, ¬ called.store.IsOpen other) :
    (s.failedTurnEndSettled outcome).Recollected localeCompare := by
  unfold PipelineVoiceLoop.failedTurnEndSettled
  dsimp only
  have calls := s.settleCall_calls (.endTurn s.turn.turnId .failed (some s.turn.finalText)) outcome
  have ending := s.settleCall_ending (.endTurn s.turn.turnId .failed (some s.turn.finalText)) outcome
  have turn_eq := s.settleCall_turn (.endTurn s.turn.turnId .failed (some s.turn.finalText)) outcome
  have fails (going : s.persistenceSessionEnding = false) := (fails going).endTurn rfl calls nofun
  generalize s.settleCall (.endTurn s.turn.turnId .failed (some s.turn.finalText)) outcome = called
    at closed calls ending turn_eq fails ⊢
  split
  · split
    · next status terminal =>
      obtain ⟨turn, stored, rfl, -⟩ := TurnStore.terminalStatus_eq_some terminal
      refine .afterFailure_some fun going => ?_
      refine Fails.ended (fails (ending.symm.trans going)) (by rw [turn_eq]; exact stored) ?_
      exact closed (ending.symm.trans going) called rfl (by rw [terminal]; rfl)
    · exact recollected
  · obtain ⟨events, marked⟩ := called.markPersistenceDegraded_eq
    unfold markForRecovery
    rw [marked]
    exact fun going => ⟨fails (ending.symm.trans going), congrArg (some ·.turnId) turn_eq.symm⟩

theorem Recollected.recoveryWriteSettled {caller : RecoveryCaller} {turnId afterSequence : Nat}
    (recovers : s.persistenceSessionEnding = false →
      Recovers localeCompare s.recollection caller (some turnId)) (outcome : CallOutcome)
    (degraded : s.persistenceSessionEnding = false → caller = .turnFailure →
      s.nonCheckpointPersistenceDegraded = true)
    (closed : s.persistenceSessionEnding = false → ∀ called : PipelineVoiceLoop,
      called = s.settleCall (.endTurn turnId .failed none) outcome →
      (called.store.terminalStatus turnId).isSome = true → ∀ other, ¬ called.store.IsOpen other) :
    (s.recoveryWriteSettled caller turnId afterSequence outcome).Recollected localeCompare := by
  unfold PipelineVoiceLoop.recoveryWriteSettled
  dsimp only
  have calls := s.settleCall_calls (.endTurn turnId .failed none) outcome
  have ending := s.settleCall_ending (.endTurn turnId .failed none) outcome
  have degraded_eq : (s.settleCall (.endTurn turnId .failed none)
      outcome).nonCheckpointPersistenceDegraded = s.nonCheckpointPersistenceDegraded := by
    obtain ⟨store, lateWrites, nextLateWrite, eq⟩ := s.settleCall_eq (.endTurn turnId .failed none) outcome
    rw [eq]
  have after_ (going : s.persistenceSessionEnding = false) : Recovers localeCompare
      (s.settleCall (.endTurn turnId .failed none) outcome).recollection caller (some turnId) := by
    have recovers := recovers going
    cases caller with
    | turnStart =>
      obtain ⟨⟨kept, complete⟩, within⟩ := recovers
      have alters := calls.alters rfl
      refine ⟨⟨kept.calls calls rfl fun other status text same => ?_,
        complete.calls calls rfl nofun⟩, fun other same => ?_⟩
      · obtain ⟨rfl, -, -⟩ := DurableCall.endTurn.inj same
        exact within _ rfl
      · rw [alters.length]
        exact within other same
    | turnFailure | terminalWrite =>
      obtain ⟨fails, same⟩ := recovers
      obtain rfl := Option.some.inj same
      exact ⟨fails.endTurn rfl calls nofun, congrArg some calls.turnId.symm⟩
  generalize s.settleCall (.endTurn turnId .failed none) outcome = called
    at closed calls ending degraded_eq after_ ⊢
  have again : Recollected localeCompare
      { called.markPersistenceDegraded with
        phase := .recovering caller (some turnId) afterSequence .deciding } := by
    obtain ⟨events, marked⟩ := called.markPersistenceDegraded_eq
    rw [marked]
    exact fun going => after_ (ending.symm.trans going)
  split
  · split
    · next status terminal =>
      exact .recovered_some (fun going => after_ (ending.symm.trans going)) terminal
        fun going => closed (ending.symm.trans going) called rfl (by rw [terminal]; rfl)
    · exact fun going => after_ (ending.symm.trans going)
  · exact again
  · exact again
  · exact .recovered_none caller fun going failure =>
      degraded_eq.trans (degraded (ending.symm.trans going) failure)

/-! ## Starting a turn -/

theorem Recollected.passGate (recollected : s.Recollected localeCompare) (phase : s.phase = .gate)
    (checkpointRecovered : Bool) : (s.passGate checkpointRecovered).Recollected localeCompare := by
  unfold PipelineVoiceLoop.passGate
  split
  · next ending => exact .of_ending ending
  · split
    · exact .endSession .gate
    · intro going
      have stage := recollected going
      rw [phase] at stage
      obtain ⟨⟨kept, complete⟩, spoken⟩ := stage
      exact ⟨⟨⟨kept.transcripts, kept.sequences, kept.bounded, kept.chain, kept.late, kept.ends,
        kept.lateStarted⟩, complete.frame rfl rfl rfl rfl⟩, spoken⟩

theorem Recollected.startFailed
    (told : s.persistenceSessionEnding = false → Told localeCompare s.recollection)
    {candidate : Option Nat} (within : s.persistenceSessionEnding = false →
      ∀ turnId, candidate = some turnId → turnId < s.store.turns.length) :
    (s.startFailed candidate).Recollected localeCompare := by
  obtain ⟨events, marked⟩ := s.markPersistenceDegraded_eq
  unfold PipelineVoiceLoop.startFailed markForRecovery
  rw [marked]
  exact fun going => ⟨told going, within going⟩

theorem Recollected.startSettled (recollected : s.Recollected localeCompare)
    (phase : s.phase = .starting) (outcome : CallOutcome) :
    (s.startSettled outcome).Recollected localeCompare := by
  have stage (going : s.persistenceSessionEnding = false) :
      Told localeCompare s.recollection ∧ s.turn.transcript ≠ [] := by
    have stage := recollected going
    rwa [phase] at stage
  -- A start that commits here is told to the loop as it is, or as failed.
  have starts (mayStart : s.store.mayStart = true) : s.recollection.Starts
      (recollection { s with store := s.store.commit (.startTurn s.turn.transcript) })
      s.turn.transcript :=
    ⟨mayStart, if_pos mayStart, fun write member => ⟨write, member, rfl⟩, fun _ member => .inl member,
      rfl, rfl, rfl⟩
  unfold PipelineVoiceLoop.startSettled
  split
  · exact recollected
  · next admitted =>
    dsimp only
    cases outcome with
    | resolves =>
      have mayStart : s.store.mayStart = true := by simpa [CallOutcome.isResolved] using admitted
      rw [if_pos (by rfl)]
      refine Talks.recollected (fun going => ?_) rfl
      obtain ⟨⟨kept, complete⟩, spoken⟩ := stage going
      have started : s.recollection.Starts
          { (recollection { s with store := s.store.commit (.startTurn s.turn.transcript) }) with
            turnId := s.store.turns.length } s.turn.transcript :=
        ⟨mayStart, if_pos mayStart, fun write member => ⟨write, member, rfl⟩,
          fun _ member => .inl member, rfl, rfl, rfl⟩
      exact ⟨kept.starts started spoken, complete.ongoing kept started rfl rfl rfl⟩
    | rejects committed unavailable =>
      rw [if_neg (by simp [CallOutcome.isResolved])]
      refine .startFailed (fun going => ?_) fun _ _ => by simp
      obtain ⟨⟨kept, complete⟩, spoken⟩ := stage ((settleCall_ending _ _).symm.trans going)
      cases committed with
      | false => exact ⟨kept, complete⟩
      | true =>
        cases mayStart : s.store.mayStart with
        | true => exact ⟨kept.starts (starts mayStart) spoken, complete.starts kept (starts mayStart)⟩
        | false =>
          have refused : s.store.commit (.startTurn s.turn.transcript) = s.store :=
            if_neg (by simp [mayStart])
          change Told localeCompare
            (recollection { s with store := s.store.commit (.startTurn s.turn.transcript) })
          rw [refused]
          exact ⟨kept, complete⟩
    | timesOut tracked =>
      rw [if_neg (by simp [CallOutcome.isResolved])]
      refine .startFailed (fun going => ?_) fun _ _ => by simp
      obtain ⟨⟨kept, complete⟩, spoken⟩ := stage going
      have pending {turnId : Nat} {status : TurnStatus} {text : Option Text}
          (pending : (s.settleCall (.startTurn s.turn.transcript)
            (.timesOut tracked)).recollection.PendingEnd turnId status text) :
          s.recollection.PendingEnd turnId status text := by
        obtain ⟨write, member, same⟩ := pending
        rcases List.mem_append.mp member with before | added
        · exact ⟨write, before, same⟩
        · obtain rfl := List.mem_singleton.mp added
          cases same
      refine ⟨⟨kept.transcripts, kept.sequences, kept.bounded, kept.chain, fun write member => ?_,
        fun _ _ _ ends => kept.ends _ _ _ (pending ends), kept.lateStarted⟩,
        ⟨⟨complete.recalls.pairs, complete.recalls.known⟩,
          fun _ _ ends => complete.noCompletion _ _ (pending ends)⟩⟩
      rcases List.mem_append.mp member with before | added
      · exact kept.late write before
      · obtain rfl := List.mem_singleton.mp added
        exact .inr ⟨s.turn.transcript, spoken, rfl⟩

theorem Talks.thinkingSettled (talks : s.Talks localeCompare) (outcome : CallOutcome) (setUp : TurnSetUp)
    (readable : (outcome.isResolved && setUp.shutdown.isSome) = true → s.clockReadable = true)
    (works : setUp.incrementalTtsInputThrows = false) :
    (s.thinkingSettled outcome setUp).Recollected localeCompare := by
  have called : (s.settleCall (.updateTurnStatus s.turn.turnId .thinking) outcome).Talks localeCompare :=
    talks.settleCall rfl (fun _ _ _ same => by cases same) outcome
  have turn_eq := s.settleCall_turn (.updateTurnStatus s.turn.turnId .thinking) outcome
  have readable_eq := s.settleCall_clockReadable (.updateTurnStatus s.turn.turnId .thinking) outcome
  unfold PipelineVoiceLoop.thinkingSettled
  dsimp only
  generalize s.settleCall (.updateTurnStatus s.turn.turnId .thinking) outcome = settled
    at called turn_eq readable_eq ⊢
  split
  · next resolved =>
    have runs : (setUp.shutdown.isSome && !settled.clockReadable ||
        setUp.incrementalTtsInputThrows) = false := by
      rw [readable_eq, works, Bool.or_false]
      cases shutdown : setUp.shutdown.isSome with
      | false => rfl
      | true => rw [readable (by rw [resolved, shutdown]; rfl)]; rfl
    unfold PipelineVoiceLoop.setUpTurn
    dsimp only
    rw [runs]
    obtain ⟨events, announced⟩ := settled.announceTurn_eq
    rw [announced]
    exact Talks.recollected (called.frame rfl rfl) rfl
  · refine .startFailed (fun going => ?_) fun going turnId same => ?_
    · exact ⟨(called.mark going).kept, (called.mark going).ongoing.complete⟩
    · obtain rfl := Option.some.inj same
      have within := (called.mark going).turnId_lt
      rw [markPersistenceDegraded_recollection] at within
      rw [← turn_eq]
      have store := congrArg Recollection.store settled.markPersistenceDegraded_recollection
      change settled.markPersistenceDegraded.store = settled.store at store
      rw [store]
      exact within

/-! ## Every event -/

theorem closed_of_settled (settled : s.ledger.Settled 0) (turnId : Nat) : ¬ s.store.IsOpen turnId := by
  rintro ⟨turn, found, open_⟩
  exact settled.closed turnId turn (Nat.zero_le _) found open_

theorem InTurn.closed (inTurn : s.InTurn 0) (ends : call.endsTurn = true)
    (noStart : call.startsTurn = false) {outcome : CallOutcome} {called : PipelineVoiceLoop}
    (eq : called = s.settleCall call outcome) (going : s.persistenceSessionEnding = false)
    (terminal : (called.store.terminalStatus s.turn.turnId).isSome = true) (other : Nat) :
    ¬ called.store.IsOpen other := by
  subst eq
  obtain ⟨status, found⟩ := Option.isSome_iff_exists.mp terminal
  rw [← settleCall_turn call outcome] at found
  exact closed_of_settled ((inTurn.settleCall ends noStart outcome).settled found
    ((settleCall_ending call outcome).trans going)) other

theorem Recollected.told (recollected : s.Recollected localeCompare)
    (concluded : s.phase.isConcluded = true) (going : s.persistenceSessionEnding = false) :
    Told localeCompare s.recollection := by
  have stage := recollected going
  cases phase : s.phase <;> rw [phase] at concluded stage <;> first | exact stage | cases concluded

theorem Recollected.handle (recollected : s.Recollected localeCompare) (guarded : s.Guarded 0)
    {event : LoopEvent} (caught : s.Caught event) : (s.handle event).Recollected localeCompare := by
  have handled := s.handled event
  generalize s.handle event = next at handled
  have timed (ofTurn : throwsRun event = false) : s.Timed event :=
    caught.2.resolve_left fun ofRun => absurd (ofTurn.symm.trans ofRun) (by simp)
  have talks (conversing : s.phase.isConversing = true) : s.Talks localeCompare :=
    recollected.converses conversing
  cases handled with
  | gateRecovered phase | gateFailed phase => exact recollected.passGate phase _
  | start outcome phase => exact recollected.startSettled phase outcome
  | thinking outcome setUp phase =>
    exact (talks (congrArg TranscriptPhase.isConversing phase)).thinkingSettled outcome setUp
      (by simpa [readsClock, phase] using (timed rfl).1) (timed rfl).2
  | prompt instruction phase =>
    -- Setting the system instruction records no pair.
    have running : s.phase.isConversing = true := congrArg TranscriptPhase.isConversing phase
    refine Converses.recollected (fun going => ?_) running
    obtain ⟨kept, ongoing⟩ := talks running going
    refine ⟨⟨kept.transcripts, kept.sequences, kept.bounded, kept.chain, kept.late, kept.ends,
      kept.lateStarted⟩, ongoing.frame rfl rfl rfl ?_ rfl rfl rfl⟩
    exact List.flatMap_append.trans (List.append_nil _)
  | answer text phase =>
    have running : s.phase.isConversing = true := congrArg TranscriptPhase.isConversing phase
    refine Converses.recollected (fun going => ?_) running
    obtain ⟨kept, ongoing⟩ := talks running going
    exact ⟨⟨kept.transcripts, kept.sequences, kept.bounded, kept.chain, kept.late, kept.ends,
      kept.lateStarted⟩, ongoing.frame rfl rfl rfl rfl rfl rfl rfl⟩
  | callingTool outcome phase =>
    exact (talks (congrArg TranscriptPhase.isConversing phase)).bodyCallSettled phase rfl
      (fun _ _ _ same => by cases same) outcome (by simpa [readsClock, phase] using (timed rfl).1)
  | toolCall outcome phase =>
    exact (talks (congrArg TranscriptPhase.isConversing phase)).bodyCallSettled phase rfl
      (fun _ _ _ same => by cases same) outcome (by simpa [readsClock, phase] using (timed rfl).1)
  | throws phase =>
    exact (talks (congrArg TranscriptPhase.isConversing phase)).throwTurn
      (by simpa [readsClock, phase] using (timed rfl).1)
  | silent phase => exact (talks (congrArg TranscriptPhase.isConversing phase)).deliverText
  | speaking outcome phase =>
    exact (talks (congrArg TranscriptPhase.isConversing phase)).speakingSettled outcome
      (by simpa [readsClock, phase] using (timed rfl).1)
  | audio outputDelivered failed phase =>
    exact (talks (congrArg TranscriptPhase.isConversing phase)).audioSettled outputDelivered failed
      (by simpa [readsClock, phase] using (timed rfl).1)
  | text attempted textDelivered alignedText phase =>
    exact (talks (congrArg TranscriptPhase.isConversing phase)).textSettled _ alignedText
      (by simpa [readsClock, phase] using (timed rfl).1)
  | turnEnd cancelled outcome phase =>
    have inTurn := guarded.inTurn (congrArg TranscriptPhase.isTurning phase)
    refine (talks (congrArg TranscriptPhase.isConversing phase)).turnEndSettled recollected cancelled
      outcome (by simpa [readsClock, phase] using (timed rfl).1) fun going called eq terminal => ?_
    exact inTurn.closed (by cases cancelled <;> rfl) rfl eq going terminal
  | memory status phase =>
    exact Told.observe (recollected.told (congrArg TranscriptPhase.isConcluded phase)) status false
  | read found phase =>
    have inTurn := guarded.inTurn (congrArg TranscriptPhase.isTurning phase)
    refine .terminalReadSettled (fun going => ?_) found fun going terminal => ?_
    · have stage := recollected going
      rwa [phase] at stage
    · obtain ⟨status, known⟩ := Option.isSome_iff_exists.mp terminal
      exact closed_of_settled (inTurn.settled known going)
  | failedTurnEnd outcome phase =>
    have inTurn := guarded.inTurn (congrArg TranscriptPhase.isTurning phase)
    refine recollected.failedTurnEndSettled (fun going => ?_) outcome fun going called eq terminal => ?_
    · have stage := recollected going
      rwa [phase] at stage
    · exact inTurn.closed rfl rfl eq going terminal
  | finish phase =>
    exact Told.recollected (recollected.told (congrArg TranscriptPhase.isConcluded phase)) rfl
  | waited caller candidate afterSequence writes phase
  | session caller candidate afterSequence phase
  | notInspected caller candidate afterSequence step phase
  | write caller turnId afterSequence phase
  | again caller candidate afterSequence phase =>
    intro going
    have stage := recollected going
    rwa [phase] at stage
  | turns caller candidate afterSequence currentTurnId phase =>
    refine .inspected (fun going => ?_) fun going status terminal other => ?_
    · have stage := recollected going
      rwa [phase] at stage
    · rintro ⟨turn, stored, open_⟩
      have found := (guarded.recovering phase going).1.found other turn (Nat.zero_le _) stored open_
      change (candidate <|> s.store.lateTurn currentTurnId afterSequence) = some other at found
      rw [found, Option.bind_some] at terminal
      exact TurnStore.not_isOpen_of_terminalStatus terminal ⟨turn, stored, open_⟩
  | written caller turnId afterSequence outcome phase =>
    refine .recoveryWriteSettled (fun going => ?_) outcome
      (fun going => (guarded.recovering phase going).2) fun going called eq terminal other => ?_
    · have stage := recollected going
      rwa [phase] at stage
    · subst eq
      obtain ⟨status, known⟩ := Option.isSome_iff_exists.mp terminal
      rintro ⟨turn, stored, open_⟩
      have narrows : s.ledger.Narrows (s.settleCall (.endTurn turnId .failed none) outcome).ledger :=
        settleCall_narrows rfl rfl outcome
      rcases ((guarded.recovering phase going).1.narrows narrows).opens other turn (Nat.zero_le _)
        stored open_ with same | ⟨unknown, -⟩
      · obtain rfl := Option.some.inj same
        exact TurnStore.not_isOpen_of_terminalStatus known ⟨turn, stored, open_⟩
      · cases unknown
  | giveUp caller candidate afterSequence step phase =>
    exact .recovered_none caller fun going => (guarded.recovering phase going).2
  | sessionEnded caller phase =>
    refine .afterSessionEnding ?_ caller
    cases ending : s.persistenceSessionEnding with
    | true => rfl
    | false =>
      have stage := recollected ending
      rw [phase] at stage
      exact stage.elim
  | nothing => exact recollected

/-- A call beside the turn: it completes nothing but what was given up, and does not end the turn of a
conversation that goes on. -/
theorem RecallStage.calls {r next : Recollection} {phase : TranscriptPhase}
    (stage : RecallStage localeCompare r phase) (calls : r.Calls next call)
    (ordinary : call.isOrdinary = true)
    (within : r.Kept → ∀ turnId status text, call = .endTurn turnId status text →
      turnId < r.store.turns.length)
    (pending : ∀ turnId text, call.Completes turnId text → r.PendingEnd turnId .completed text)
    (own : r.Ongoing localeCompare → ∀ turnId status text, call = .endTurn turnId status text →
      ¬ r.store.IsOpen turnId) : RecallStage localeCompare next phase := by
  have told (told : Told localeCompare r) : Told localeCompare next :=
    ⟨told.kept.calls calls ordinary (within told.kept), told.complete.calls calls ordinary
      fun turnId text completes => told.complete.noCompletion turnId text (pending turnId text completes)⟩
  have fails (fails : Fails localeCompare r) : Fails localeCompare next :=
    ⟨fails.kept.calls calls ordinary (within fails.kept), fails.unsettled.calls calls ordinary
      fun turnId text completes => fails.unsettled.completions turnId text (pending turnId text completes)⟩
  have converses (converses : Converses localeCompare r) : Converses localeCompare next :=
    ⟨converses.kept.calls calls ordinary (within converses.kept),
      converses.ongoing.calls calls ordinary (own converses.ongoing)⟩
  cases phase with
  | idle | remembering | finishing => exact told stage
  | gate | starting =>
    refine ⟨told stage.1, ?_⟩
    rw [calls.transcript]
    exact stage.2
  | recovering caller candidate afterSequence step =>
    cases caller with
    | turnStart =>
      refine ⟨told stage.1, ?_⟩
      rw [(calls.alters ordinary).length]
      exact stage.2
    | turnFailure | terminalWrite =>
      refine ⟨fails stage.1, ?_⟩
      rw [calls.turnId]
      exact stage.2
  | readingTerminal | failing => exact fails stage
  | endingSession => exact stage
  | _ => exact converses stage

theorem RecallStage.kept {phase : TranscriptPhase} (stage : RecallStage localeCompare r phase) :
    r.Kept := by
  cases phase with
  | idle | remembering | finishing => exact Told.kept stage
  | gate | starting => exact stage.1.kept
  | recovering caller candidate afterSequence step => cases caller <;> exact stage.1.kept
  | readingTerminal | failing => exact Fails.kept stage
  | endingSession => exact stage.elim
  | _ => exact Converses.kept stage

theorem RecallStage.speaks {phase : TranscriptPhase} (stage : RecallStage localeCompare r phase)
    {transcript : Text} (spoken : transcript ≠ []) :
    RecallStage localeCompare { r with turnChain := r.turnChain ++ [transcript] } phase := by
  have kept (kept : r.Kept) :
      Recollection.Kept { r with turnChain := r.turnChain ++ [transcript] } := by
    refine ⟨kept.transcripts, kept.sequences, kept.bounded, fun other member => ?_, kept.late, kept.ends,
      kept.lateStarted⟩
    rcases List.mem_append.mp member with before | new
    · exact kept.chain other before
    · rwa [List.mem_singleton.mp new]
  have told (told : Told localeCompare r) :
      Told localeCompare { r with turnChain := r.turnChain ++ [transcript] } :=
    ⟨kept told.kept, told.complete.frame rfl rfl rfl rfl⟩
  have fails (fails : Fails localeCompare r) :
      Fails localeCompare { r with turnChain := r.turnChain ++ [transcript] } :=
    ⟨kept fails.kept, fails.unsettled.frame rfl rfl rfl rfl rfl rfl rfl⟩
  have converses (converses : Converses localeCompare r) :
      Converses localeCompare { r with turnChain := r.turnChain ++ [transcript] } :=
    ⟨kept converses.kept, converses.ongoing.frame rfl rfl rfl rfl rfl rfl rfl⟩
  cases phase with
  | idle | remembering | finishing => exact told stage
  | gate | starting => exact ⟨told stage.1, stage.2⟩
  | recovering caller candidate afterSequence step =>
    cases caller with
    | turnStart => exact ⟨told stage.1, stage.2⟩
    | turnFailure | terminalWrite => exact ⟨fails stage.1, stage.2⟩
  | readingTerminal | failing => exact fails stage
  | endingSession => exact stage
  | _ => exact converses stage

section

variable (recollected : s.Recollected localeCompare)
include recollected

theorem Recollected.frame {t : PipelineVoiceLoop} (same : t.recollection = s.recollection)
    (phase : t.phase = s.phase) (ending : t.persistenceSessionEnding = s.persistenceSessionEnding) :
    t.Recollected localeCompare := by
  intro going
  rw [same, phase]
  exact recollected (ending.symm.trans going)

theorem Recollected.settleCall (ordinary : call.isOrdinary = true)
    (ends : ∀ turnId status text, call ≠ .endTurn turnId status text) (outcome : CallOutcome) :
    (s.settleCall call outcome).Recollected localeCompare := by
  have calls := s.settleCall_calls call outcome
  obtain ⟨store, lateWrites, nextLateWrite, called⟩ := s.settleCall_eq call outcome
  rw [called] at calls ⊢
  exact fun going => (recollected going).calls calls ordinary
    (fun _ _ _ _ same => absurd same (ends _ _ _)) (fun _ _ same => absurd same (ends _ _ _))
    fun _ _ _ _ same => absurd same (ends _ _ _)

theorem Recollected.lateStart (guarded : s.Guarded 0) {write : LateWrite}
    (member : write ∈ s.lateWrites) (pending : write.isPendingStart = true) {transcript : Text}
    (call : write.call = .startTurn transcript) {next : PipelineVoiceLoop}
    (starts : s.recollection.Starts next.recollection transcript) (phase : next.phase = s.phase)
    (ending : next.persistenceSessionEnding = s.persistenceSessionEnding)
    (turn : next.turn = s.turn) : next.Recollected localeCompare := by
  intro nextGoing
  have going := ending.symm.trans nextGoing
  have told (told : Told localeCompare s.recollection) : Told localeCompare next.recollection := by
    have spoken : transcript ≠ [] := by
      rcases told.kept.late write member with ordinary | ⟨other, spoken, same⟩
      · rw [call] at ordinary
        cases ordinary
      · obtain rfl := DurableCall.startTurn.inj (call.symm.trans same)
        exact spoken
    exact ⟨told.kept.starts starts spoken, told.complete.starts told.kept starts⟩
  have excluded {P : Prop} (turning : s.phase.isTurning = true) : P := by
    have noStart := ((guarded.inTurn turning).turning going).handling.noStart write member
    exact absurd (noStart.symm.trans pending) (by simp)
  have stage := recollected going
  rw [phase]
  cases at_ : s.phase with
  | idle | remembering | finishing =>
    rw [at_] at stage
    exact told stage
  | gate | starting =>
    rw [at_] at stage
    refine ⟨told stage.1, ?_⟩
    change next.turn.transcript ≠ []
    rw [turn]
    exact stage.2
  | recovering caller candidate afterSequence step =>
    rw [at_] at stage
    have unknown := ((guarded.recovering at_ going).1.pending write member pending).1
    cases caller with
    | turnStart => exact ⟨told stage.1, by rw [unknown]; exact nofun⟩
    | turnFailure | terminalWrite => cases unknown.symm.trans stage.2
  | endingSession =>
    rw [at_] at stage
    exact stage
  | _ => exact excluded (by rw [at_]; rfl)

theorem Recollected.lateCommitted (guarded : s.Guarded 0) (id : Nat) :
    (s.lateCommitted id).Recollected localeCompare := by
  unfold PipelineVoiceLoop.lateCommitted
  split
  · exact recollected
  · next write found =>
    have member := List.mem_of_find?_eq_some found
    have matched := List.find?_some found
    rw [Bool.and_eq_true, decide_eq_true_iff, Bool.not_eq_true'] at matched
    obtain ⟨rfl, uncommitted⟩ := matched
    have marked : ∀ other ∈ s.lateWrites.map (fun other =>
        if other.id = write.id then { other with committed := true } else other),
        ∃ was ∈ s.lateWrites, was.call = other.call := by
      intro other isMarked
      obtain ⟨was, before, -, same, -, -⟩ := markCommitted_mem isMarked
      exact ⟨was, before, same⟩
    cases call : write.call with
    | startTurn transcript =>
      have pending : write.isPendingStart = true := by
        rw [LateWrite.isPendingStart, call, uncommitted]
        rfl
      cases mayStart : s.store.mayStart with
      | true =>
        refine recollected.lateStart guarded member pending call
          ⟨mayStart, if_pos mayStart, marked, fun turnId started => ?_, rfl, rfl, rfl⟩ rfl rfl rfl
        rcases List.mem_append.mp started with before | new
        · exact .inl before
        · exact .inr (List.mem_singleton.mp new)
      | false =>
        have refused : s.store.commit (.startTurn transcript) = s.store := if_neg (by simp [mayStart])
        rw [refused]
        have unchanged : s.recollection.Calls (recollection
            { s with
              lateWrites := s.lateWrites.map fun other =>
                if other.id = write.id then { other with committed := true } else other }) .toolCall :=
          ⟨.inl rfl, fun other isMarked => .inl (marked other isMarked), rfl, rfl, rfl, rfl, rfl, rfl, rfl⟩
        exact fun going => (recollected going).calls unchanged rfl (fun _ _ _ _ h => by cases h)
          (fun _ _ h => by cases h) (fun _ _ _ _ h => by cases h)
    | updateTurnStatus | checkpointTurnInterruption | endTurn | toolCall =>
      intro going
      have stage := recollected going
      have ordinary : write.call.isOrdinary = true := by
        refine (stage.kept.late write member).resolve_right ?_
        rintro ⟨transcript, -, same⟩
        cases call.symm.trans same
      rw [call] at ordinary
      exact stage.calls ⟨.inr rfl, fun other isMarked => .inl (marked other isMarked), rfl, rfl, rfl, rfl,
        rfl, rfl, rfl⟩ ordinary
        (fun kept _ _ _ same => kept.ends _ _ _ ⟨write, member, call.trans same⟩)
        (fun _ _ same => ⟨write, member, call.trans same⟩)
        fun ongoing _ _ _ same => ongoing.noEnd _ _ _ ⟨write, member, call.trans same⟩

end

def endsSession : LoopEvent → Bool
  | .sessionEnds _ => true
  | _ => false

/-- The session goes on, so that a call can be attached to it again. -/
def Attachable (s : PipelineVoiceLoop) (event : LoopEvent) : Prop :=
  s.Caught event ∧ endsSession event = false

instance (s : PipelineVoiceLoop) (event : LoopEvent) : Decidable (s.Attachable event) :=
  inferInstanceAs (Decidable (_ ∧ _))

theorem Recollected.endRun (recollected : s.Recollected localeCompare) (reason : TerminalKind)
    (resolves : Bool) : (s.endRun reason resolves).Recollected localeCompare := by
  have emit {t : PipelineVoiceLoop} (recollected : t.Recollected localeCompare) (event : VoiceEvent) :
      (t.emitVoiceEvent event).Recollected localeCompare := by
    obtain ⟨events, emitted⟩ := t.emitVoiceEvent_eq event
    rw [emitted]
    exact recollected.frame rfl rfl rfl
  unfold PipelineVoiceLoop.endRun
  split
  · exact (emit recollected _).frame rfl rfl rfl
  · exact (emit (emit recollected _) _).frame rfl rfl rfl

theorem Recollected.step (recollected : s.Recollected localeCompare) (guarded : s.Guarded 0)
    {event : LoopEvent} (attachable : s.Attachable event) : (s.step event).Recollected localeCompare := by
  have checkpointCall (turnId : Nat) : ∀ other status text,
      DurableCall.checkpointTurnInterruption turnId ≠ .endTurn other status text :=
    fun _ _ _ => by simp
  cases event with
  | speaks transcript =>
    rw [PipelineVoiceLoop.step, enqueueTranscript]
    split
    · exact recollected
    · next accepted =>
      -- What is queued is not empty.
      intro going
      have spoken : transcript ≠ [] := fun empty => accepted (.inr empty)
      exact (recollected going).speaks spoken
  | inputEnds | signalAborts | shutsDown | clockIsLost => exact recollected.frame rfl rfl rfl
  | begins =>
    rw [PipelineVoiceLoop.step, beginNext]
    split
    · next transcript rest idle chained =>
      intro going
      have stage := recollected going
      rw [idle] at stage
      obtain ⟨kept, complete⟩ := stage
      have chain : ∀ other ∈ transcript :: rest, other ≠ [] := by
        rw [← chained]
        exact kept.chain
      exact ⟨⟨⟨kept.transcripts, kept.sequences, kept.bounded,
        fun other member => chain other (List.mem_cons_of_mem _ member), kept.late, kept.ends,
        kept.lateStarted⟩, complete.frame rfl rfl rfl rfl⟩, chain transcript List.mem_cons_self⟩
    · exact recollected
  | runEnds reason resolves =>
    rw [PipelineVoiceLoop.step]
    split
    · exact recollected.endRun reason resolves
    · exact recollected
  | runThrows reason =>
    rw [PipelineVoiceLoop.step]
    split
    · exact recollected
    · exact recollected.endRun reason false
  | emits =>
    obtain ⟨events, emitted⟩ := s.emitVoiceEvent_eq .output
    rw [PipelineVoiceLoop.step, emitted]
    exact recollected.frame rfl rfl rfl
  | interrupted cause =>
    rw [PipelineVoiceLoop.step, interrupt]
    split
    · exact recollected.frame rfl rfl rfl
    · exact recollected
  | abortsActive reason =>
    rw [PipelineVoiceLoop.step]
    split
    · unfold PipelineVoiceLoop.abortActive
      split
      · exact recollected.frame rfl rfl rfl
      · exact recollected
    · exact recollected
  | checkpointCommits =>
    rw [PipelineVoiceLoop.step]
    split
    · exact (recollected.settleCall rfl (checkpointCall s.turn.turnId) .resolves).frame rfl rfl rfl
    · exact recollected
  | checkpointWrites =>
    rw [PipelineVoiceLoop.step]
    split
    · exact recollected
    · exact recollected.settleCall rfl (checkpointCall s.turn.turnId) .resolves
  | checkpointDegrades timedOut =>
    have mark {t : PipelineVoiceLoop} (recollected : t.Recollected localeCompare) :
        t.markCheckpointPersistenceDegraded.Recollected localeCompare := by
      obtain ⟨events, marked⟩ := t.markCheckpointPersistenceDegraded_eq
      rw [marked]
      exact recollected.frame rfl rfl rfl
    rw [PipelineVoiceLoop.step]
    split
    · exact recollected
    · unfold PipelineVoiceLoop.checkpointDegraded
      split
      · exact mark (recollected.settleCall rfl (checkpointCall s.turn.turnId) _)
      · exact mark recollected
  | checkpointFails =>
    rw [PipelineVoiceLoop.step]
    split
    · unfold PipelineVoiceLoop.checkpointFailed
      cases ending : s.persistenceSessionEnding with
      | true => exact recollected.frame rfl rfl rfl
      | false => exact .of_ending rfl
    · exact recollected
  | checkpointEnds =>
    rw [PipelineVoiceLoop.step]
    split
    · exact recollected.frame rfl rfl rfl
    · exact recollected
  | lateCommits id => exact recollected.lateCommitted guarded id
  | lateSettles id =>
    have settled : s.recollection.Calls (recollection
        { s with lateWrites := s.lateWrites.filter fun write => write.id ≠ id }) .toolCall :=
      ⟨.inl rfl, fun write member => .inl ⟨write, (List.mem_filter.mp member).1, rfl⟩, rfl, rfl, rfl, rfl,
        rfl, rfl, rfl⟩
    exact fun going => (recollected going).calls settled rfl (fun _ _ _ _ h => by cases h) (fun _ _ h => by cases h)
      (fun _ _ _ _ h => by cases h)
  | abandons turnId =>
    rw [PipelineVoiceLoop.step]
    split
    · next abandoned =>
      intro going
      have abandons : s.recollection.Calls (recollection
          { s with store := s.store.commit (.endTurn turnId .cancelled none) })
          (.endTurn turnId .cancelled none) :=
        ⟨.inr rfl, fun write member => .inl ⟨write, member, rfl⟩, rfl, rfl, rfl, rfl, rfl, rfl, rfl⟩
      refine (recollected going).calls abandons rfl (fun kept other status text same => ?_)
        (fun _ _ h => by cases h) fun ongoing other status text same open_ => ?_
      · obtain ⟨rfl, -, -⟩ := DurableCall.endTurn.inj same
        exact kept.lateStarted _ abandoned
      · -- The turn of the loop is not one of a late start.
        obtain ⟨rfl, -, -⟩ := DurableCall.endTurn.inj same
        have current {turnId : Nat} (isOpen : s.store.IsOpen turnId) :
            s.store.currentTurnId = some turnId := guarded.kept.current turnId (Nat.zero_le _) isOpen
        obtain rfl := Option.some.inj ((current open_).symm.trans (current ongoing.isOpen))
        exact ongoing.own abandoned
    · exact recollected
  | sessionEnds failed => cases attachable.2
  | _ => exact recollected.handle guarded attachable.1

/-! ## Whole runs -/

theorem recollected_new (audioTap : Bool) (turnSequence : Nat) (currentTurnId : Option Nat) (active : Bool) :
    (new audioTap ⟨[], turnSequence, currentTurnId, active⟩).Recollected localeCompare := by
  intro _
  have noEnd : ∀ turnId status text, ¬ Recollection.PendingEnd
      (new audioTap ⟨[], turnSequence, currentTurnId, active⟩).recollection turnId status text := by
    rintro turnId status text ⟨write, member, -⟩
    cases member
  exact ⟨⟨nofun, List.Pairwise.nil, nofun, nofun, nofun,
    fun turnId status text pending => (noEnd turnId status text pending).elim, nofun⟩,
    ⟨rfl, nofun⟩, fun turnId text pending => (noEnd turnId .completed text pending).elim⟩

theorem after_recollected (localeCompare : Text → Text → Ordering) {audioTap : Bool} {turnSequence : Nat}
    {currentTurnId : Option Nat} {active : Bool} {events : List LoopEvent}
    (attachable : Lib.Admitted Attachable step
      (new audioTap ⟨[], turnSequence, currentTurnId, active⟩) events) :
    (after audioTap ⟨[], turnSequence, currentTurnId, active⟩ events).Guarded 0 ∧
      (after audioTap ⟨[], turnSequence, currentTurnId, active⟩ events).Recollected localeCompare :=
  Lib.run_invariant_of_admitted
    (fun s : PipelineVoiceLoop => s.Guarded 0 ∧ s.Recollected localeCompare)
    (fun _ _ attachable before =>
      ⟨before.1.step attachable.1, before.2.step before.1 attachable⟩)
    ⟨guarded_new audioTap ⟨[], turnSequence, currentTurnId, active⟩,
      recollected_new audioTap turnSequence currentTurnId active⟩ attachable

theorem Guarded.terminal (guarded : s.Guarded 0) (concluded : s.phase.isConcluded = true)
    (going : s.persistenceSessionEnding = false) (member : turn ∈ s.store.turns) :
    turn.status.isTerminal = true := by
  have settled : s.ledger.Settled 0 := by
    have stage := guarded.stage going
    unfold Stage at stage
    cases phase : s.phase <;> rw [phase] at concluded stage <;> first | exact stage | cases concluded
  obtain ⟨turnId, found⟩ := List.mem_iff_getElem?.mp member
  cases terminal : turn.status.isTerminal with
  | true => rfl
  | false => exact (settled.closed turnId turn (Nat.zero_le _) found terminal).elim

end PipelineVoiceLoop

/-! ## The two conversations -/

def bargeInOf (knownEnds : List KnownEnd) (turnId : Nat) : Option KnownEnd :=
  knownEnds.find? fun known => known.turnId = turnId && known.bargeIn

/-- The turn was barged in on, and what had been heard is the text that is stored. -/
def HeardAsStored (knownEnds : List KnownEnd) (turnId : Nat) (turn : StoredTurn) : Prop :=
  ∃ known, bargeInOf knownEnds turnId = some known ∧ known.heard = turn.outputText.getD []

theorem messages_flatMap_iff {pairs others : List TurnPair} :
    pairs.flatMap TurnPair.messages = others.flatMap TurnPair.messages ↔ pairs = others :=
  ⟨messages_flatMap_injective, congrArg _⟩

theorem interruptedText_injective {text other : Text}
    (same : interruptedText text = interruptedText other) : text = other := by
  -- The note on a text that was heard in part is the longer one.
  have differ (unit : UInt16) (rest : Text) :
      interruptedText [] ≠ interruptedText (unit :: rest) := by
    intro same
    have shorter : (interruptedText []).length < (interruptedText [0]).length := by decide +kernel
    have longer : (interruptedText [0]).length ≤ (interruptedText (unit :: rest)).length := by
      simp [interruptedText]
    exact absurd (congrArg List.length same) (Nat.ne_of_lt (Nat.lt_of_lt_of_le shorter longer))
  cases text with
  | nil =>
    cases other with
    | nil => rfl
    | cons unit rest => exact absurd same (differ unit rest)
  | cons unit rest =>
    cases other with
    | nil => exact absurd same.symm (differ unit rest)
    | cons unit' rest' => exact List.append_cancel_left same

theorem StoredTurn.pair_hydrated {turn : StoredTurn} (spoken : turn.transcript ≠ []) (turnId : Text) :
    (turn.hydrated turnId).pair =
      match turn.status with
      | .completed => some ⟨turn.transcript, turn.outputText.getD []⟩
      | .cancelled | .interrupted => some ⟨turn.transcript, interruptedText (turn.outputText.getD [])⟩
      | _ => none := by
  unfold HydratedTurn.pair StoredTurn.hydrated
  cases turn.status <;> simp [spoken]

/-- The write that cancels a turn after a barge-in was acknowledged. -/
def Acknowledged (knownEnds : List KnownEnd) (turnId : Nat) : Prop :=
  ∀ known ∈ knownEnds, known.turnId = turnId → known.bargeIn = true → known.acknowledged = true

variable {knownEnds : List KnownEnd}

theorem bargeInOf_eq {turnId : Nat} (acknowledged : Acknowledged knownEnds turnId) :
    (knownEnds.find? fun known => known.turnId = turnId && known.acknowledged && known.bargeIn) =
      bargeInOf knownEnds turnId := by
  refine List.find?_congr fun known member => ?_
  rw [Bool.eq_iff_iff]
  simp only [Bool.and_eq_true, decide_eq_true_eq]
  exact ⟨fun holds => ⟨holds.1.1, holds.2⟩,
    fun holds => ⟨⟨holds.1, acknowledged known member holds.1 holds.2⟩, holds.2⟩⟩

theorem remembered_eq_pair_iff {turnId : Nat} {turn : StoredTurn} (spoken : turn.transcript ≠ [])
    (settled : turn.status ≠ .interrupted)
    (acknowledged : turn.status = .cancelled → Acknowledged knownEnds turnId) (id : Text) :
    remembered knownEnds turnId turn = (turn.hydrated id).pair ↔
      (turn.status = .cancelled → HeardAsStored knownEnds turnId turn) := by
  rw [StoredTurn.pair_hydrated spoken, remembered]
  cases status : turn.status with
  | cancelled =>
    refine Iff.trans ?_ ⟨fun heard _ => heard, fun heard => heard rfl⟩
    rw [bargeInOf_eq (acknowledged status), Option.map_eq_some_iff]
    refine exists_congr fun known => and_congr_right fun _ => ⟨fun same => ?_, fun same => by rw [same]⟩
    exact interruptedText_injective (congrArg TurnPair.assistantText same)
  | interrupted => exact absurd status settled
  | _ => exact ⟨fun _ => nofun, fun _ => rfl⟩

theorem pair_ne_none_of_remembered {turnId : Nat} {turn : StoredTurn}
    (spoken : turn.transcript ≠ []) (id : Text) (told : remembered knownEnds turnId turn ≠ none) :
    (turn.hydrated id).pair ≠ none := by
  rw [StoredTurn.pair_hydrated spoken]
  rw [remembered] at told
  cases status : turn.status <;> rw [status] at told <;> first | exact absurd rfl told | nofun

namespace TurnStore

variable {store : TurnStore}

theorem orderedTurns_hydrated (localeCompare : Text → Text → Ordering)
    (sequences : store.turns.Pairwise fun turn later => turn.sequence < later.sequence)
    (turnIds : Nat → Text) :
    ConversationPolicy.orderedTurns localeCompare (store.hydrated turnIds) = store.hydrated turnIds := by
  refine List.mergeSort_of_pairwise ?_
  rw [hydrated, List.pairwise_filterMap]
  refine List.pairwise_lt_range.imp fun {i j} lt first hydratedFirst second hydratedSecond => ?_
  obtain ⟨turn, found, rfl⟩ := Option.map_eq_some_iff.mp hydratedFirst
  obtain ⟨later, laterFound, rfl⟩ := Option.map_eq_some_iff.mp hydratedSecond
  obtain ⟨iLt, rfl⟩ := List.getElem?_eq_some_iff.mp found
  obtain ⟨jLt, rfl⟩ := List.getElem?_eq_some_iff.mp laterFound
  have ordered := List.pairwise_iff_getElem.mp sequences i j iLt jLt lt
  simp [StoredTurn.hydrated, ordered]

theorem recordedPairs_hydrateTurns (localeCompare : Text → Text → Ordering)
    (sequences : store.turns.Pairwise fun turn later => turn.sequence < later.sequence)
    (turnIds : Nat → Text) :
    recordedPairs localeCompare [.hydrateTurns (store.hydrated turnIds)] =
      (List.range store.turns.length).filterMap fun turnId =>
        (store.turns[turnId]?).bind fun turn => (turn.hydrated (turnIds turnId)).pair := by
  rw [recordedPairs, List.flatMap_singleton, PolicyCall.pairs, orderedTurns_hydrated _ sequences,
    hydrated, List.filterMap_filterMap]
  refine List.filterMap_congr fun turnId _ => ?_
  cases store.turns[turnId]? <;> rfl

end TurnStore

namespace PipelineVoiceLoop

open ConversationPolicy

variable {C : Type} {format : C → Nat → Text} {localeCompare : Text → Text → Ordering}

/-- Between two turns the live policy remembers the completed turns and the barge-ins, as they were heard,
and a fresh one the completed turns and every cancelled one, as they are stored. Their pairs are the same
exactly if every cancelled turn was barged in on when its text had been heard. -/
theorem reattached_conversation {audioTap : Bool} {turnSequence : Nat} {currentTurnId : Option Nat}
    {active : Bool} {events : List LoopEvent} {s : PipelineVoiceLoop}
    (ran : after audioTap ⟨[], turnSequence, currentTurnId, active⟩ events = s)
    (attachable : Lib.Admitted Attachable step
      (new audioTap ⟨[], turnSequence, currentTurnId, active⟩) events)
    (concluded : s.phase.isConcluded = true) (going : s.persistenceSessionEnding = false)
    (acknowledged : ∀ (turnId : Nat) (turn : StoredTurn), s.store.turns[turnId]? = some turn →
      turn.status = .cancelled → Acknowledged s.knownEnds turnId)
    {options freshOptions : ConversationPolicyOptions C} {live fresh : ConversationPolicy C}
    (liveNew : ConversationPolicy.new format options = .ok live)
    (freshNew : ConversationPolicy.new format freshOptions = .ok fresh) (turnIds : Nat → Text)
    (untrimmed : live.Untrimmed format localeCompare s.policyCalls)
    (freshUntrimmed : fresh.Untrimmed format localeCompare [.hydrateTurns (s.store.hydrated turnIds)]) :
    (live.after format localeCompare s.policyCalls).history.drop 1 =
        (s.store.remembered s.knownEnds s.store.turns.length).flatMap TurnPair.messages ∧
      ((live.after format localeCompare s.policyCalls).history.drop 1 =
          (fresh.after format localeCompare
            [.hydrateTurns (s.store.hydrated turnIds)]).history.drop 1 ↔
        ∀ (turnId : Nat) (turn : StoredTurn), s.store.turns[turnId]? = some turn →
          turn.status = .cancelled → HeardAsStored s.knownEnds turnId turn) := by
  subst ran
  obtain ⟨guarded, recollected⟩ := after_recollected localeCompare attachable
  generalize after audioTap _ events = s at *
  have told := recollected.told concluded going
  have liveHistory : (live.after format localeCompare s.policyCalls).history.drop 1 =
      (s.store.remembered s.knownEnds s.store.turns.length).flatMap TurnPair.messages := by
    rw [after_remembersAll (remembersAll_of_new liveNew) untrimmed, List.drop_one, List.tail_cons]
    exact congrArg _ told.complete.recalls.pairs
  have freshHistory : (fresh.after format localeCompare
      [.hydrateTurns (s.store.hydrated turnIds)]).history.drop 1 =
        ((List.range s.store.turns.length).filterMap fun turnId => (s.store.turns[turnId]?).bind
          fun turn => (turn.hydrated (turnIds turnId)).pair).flatMap TurnPair.messages := by
    rw [after_remembersAll (remembersAll_of_new freshNew) freshUntrimmed, List.drop_one, List.tail_cons]
    exact congrArg _ (TurnStore.recordedPairs_hydrateTurns localeCompare told.kept.sequences turnIds)
  refine ⟨liveHistory, ?_⟩
  rw [liveHistory, freshHistory, messages_flatMap_iff, TurnStore.remembered,
    filterMap_eq_filterMap_iff (fun turnId member => ?_)]
  · have agree {turnId : Nat} {turn : StoredTurn} (found : s.store.turns[turnId]? = some turn) :
        remembered s.knownEnds turnId turn = (turn.hydrated (turnIds turnId)).pair ↔
          (turn.status = .cancelled → HeardAsStored s.knownEnds turnId turn) := by
      have member := List.mem_of_getElem? found
      refine remembered_eq_pair_iff (told.kept.transcripts turn member) (fun interrupted => ?_)
        (acknowledged turnId turn found) _
      have terminal := guarded.terminal concluded going member
      rw [interrupted] at terminal
      cases terminal
    refine ⟨fun same turnId turn found => ?_, fun heard turnId member => ?_⟩
    · have within := List.mem_range.mpr (List.getElem?_eq_some_iff.mp found).1
      have now := same turnId within
      rw [found] at now
      exact (agree found).mp now
    · have found := List.getElem?_eq_getElem (List.mem_range.mp member)
      rw [found]
      exact (agree found).mpr (heard turnId _ found)
  · -- No turn is remembered that is not hydrated.
    have found := List.getElem?_eq_getElem (List.mem_range.mp member)
    rw [found]
    exact pair_ne_none_of_remembered (told.kept.transcripts _ (List.mem_of_getElem? found)) _

/-- A turn that is completed. -/
def answered : List LoopEvent :=
  [.speaks [104], .begins, .gateResolves, .startSettles .resolves, .thinkingSettles .resolves {},
    .promptResolves none, .llmAnswers [111], .speakingSettles .resolves, .audioSettles true false,
    .textSettles none [], .turnEnds .resolves, .remembered, .turnFinished]

def bargedIn : List LoopEvent :=
  [.speaks [105], .begins, .gateResolves, .startSettles .resolves, .thinkingSettles .resolves {},
    .promptResolves none, .llmAnswers [112], .speakingSettles .resolves, .interrupted .bargeIn,
    .audioSettles false false, .textSettles none [], .turnEnds .resolves, .remembered, .turnFinished]

/-- A turn of which nothing is delivered. -/
def unheard : List LoopEvent :=
  [.speaks [105], .begins, .gateResolves, .startSettles .resolves, .thinkingSettles .resolves {},
    .promptResolves none, .llmAnswers [112], .speakingSettles .resolves, .audioSettles false false,
    .textSettles none [], .turnEnds .resolves, .turnFinished]

/-- The policy of an agent with short instructions. -/
def shortPolicy : ConversationPolicy Unit :=
  trimHistory
    { baseSystemInstruction := [72], preCallContext := none, maxHistoryBytes := 32 * 1024,
      maxHistoryMessages := 32, maxPreCallBytes := 16 * 1024,
      history := [{ role := .system, content := [72] }] }

theorem shortPolicy_untrimmed {calls : List PolicyCall}
    (affords : ∀ count ≤ calls.length, (shortPolicy.after (fun _ _ => []) compare
      (calls.take count)).Affords (fun _ _ => []) (recordedPairs compare (calls.take count))) :
    shortPolicy.Untrimmed (fun _ _ => []) compare calls := by
  intro earlier first
  rw [List.prefix_iff_eq_take.mp first]
  exact affords _ first.length_le

theorem shortPolicy_hydrates {store : TurnStore} {turnIds : Nat → Text}
    (sequences : store.turns.Pairwise fun turn later => turn.sequence < later.sequence)
    (affords : shortPolicy.Affords (fun _ _ => []) ((List.range store.turns.length).filterMap fun turnId =>
      (store.turns[turnId]?).bind fun turn => (turn.hydrated (turnIds turnId)).pair)) :
    shortPolicy.Untrimmed (fun _ _ => []) compare [.hydrateTurns (store.hydrated turnIds)] := by
  intro earlier first
  rcases List.prefix_cons_iff.mp first with rfl | ⟨rest, rfl, restFirst⟩
  · decide +kernel
  · obtain rfl := List.prefix_nil.mp restFirst
    refine affords_foldl_hydrateTurn.mpr ?_
    rw [TurnStore.recordedPairs_hydrateTurns compare sequences turnIds]
    exact affords

theorem reattached_conversation_bargedIn :
    (shortPolicy.after (fun _ _ => []) compare
        (after false ⟨[], 0, none, true⟩ (answered ++ bargedIn)).policyCalls).history.drop 1 =
      (shortPolicy.after (fun _ _ => []) compare [.hydrateTurns
        ((after false ⟨[], 0, none, true⟩ (answered ++ bargedIn)).store.hydrated fun _ => [])]).history.drop
          1 := by
  refine (@reattached_conversation Unit (fun _ _ => []) compare false 0 none true (answered ++ bargedIn) _
    rfl (by decide) (by decide) (by decide) (fun turnId turn _ _ => ?_) { instructions := [72] }
    { instructions := [72] } shortPolicy shortPolicy rfl rfl (fun _ => [])
    (shortPolicy_untrimmed (by decide +kernel)) (shortPolicy_hydrates (by decide) (by decide +kernel))).2.mpr
    fun turnId turn found cancelled => ?_
  · have all : ∀ known ∈ (after false ⟨[], 0, none, true⟩ (answered ++ bargedIn)).knownEnds,
        known.acknowledged = true := by decide
    exact fun known member _ _ => all known member
  · have stored : (after false ⟨[], 0, none, true⟩ (answered ++ bargedIn)).store.turns =
        [⟨1, [104], .completed, some [111]⟩, ⟨2, [105], .cancelled, some [112]⟩] := by decide
    rw [stored] at found
    match turnId, found with
    | 0, rfl => cases cancelled
    | 1, rfl => exact ⟨⟨1, .cancelled, true, true, [112]⟩, by decide, rfl⟩

/-- A turn that was not heard is hydrated all the same. -/
theorem unheard_hydrated :
    (shortPolicy.after (fun _ _ => []) compare
        (after false ⟨[], 0, none, true⟩ unheard).policyCalls).history.drop 1 ≠
      (shortPolicy.after (fun _ _ => []) compare [.hydrateTurns
        ((after false ⟨[], 0, none, true⟩ unheard).store.hydrated fun _ => [])]).history.drop 1 := by
  have stored : (after false ⟨[], 0, none, true⟩ unheard).store.hydrated (fun _ => []) =
      [⟨[], 1, .cancelled, some [105], some [112]⟩] := by decide
  rw [stored, ConversationPolicy.after, ConversationPolicy.after, Lib.run_cons, Lib.run_nil,
    ConversationPolicy.step, hydrateTurns, orderedTurns, List.mergeSort_singleton]
  decide +kernel

end PipelineVoiceLoop

end Tvic
