import Tvic.Runtime.TurnEvents

/-!
# One open turn at a time

Whenever the loop calls `startTurn`, every turn it has started before is terminal in the store, and no
`startTurn` it was told has failed may still commit; once it has begun to end the session after a
persistence failure it starts no turn, and it does so once. That is so in every run in which the handling
of a turn is not broken off by the clock or by the set-up of the turn, which throw past the `catch`.

The store admits a start only when no turn is open, so an open turn is the current one. Of a start that
was given up the recovery first waits for the end; then the turn, if there is one, is the open one, and it
is found by its sequence.
-/
namespace Tvic

open Lib (Text)

/-! ## Open turns in the store -/

namespace TurnStore

variable {store : TurnStore}

def IsOpen (store : TurnStore) (turnId : Nat) : Prop :=
  ∃ turn, store.turns[turnId]? = some turn ∧ turn.status.isTerminal = false

theorem not_isOpen_of_terminalStatus {turnId : Nat} {status : TurnStatus}
    (terminal : store.terminalStatus turnId = some status) : ¬ store.IsOpen turnId := by
  rintro ⟨turn, found, open_⟩
  rw [terminalStatus, found] at terminal
  simp [open_] at terminal

theorem hasOpenTurn_of_isOpen {turnId : Nat} (open_ : store.IsOpen turnId) :
    store.hasOpenTurn = true := by
  obtain ⟨turn, found, notTerminal⟩ := open_
  rw [hasOpenTurn, List.any_eq_true]
  exact ⟨turn, List.mem_of_getElem? found, by simp [notTerminal]⟩

/-- No turn is opened from one store to the other, and an open turn that was current still is. -/
structure Narrows (before after : TurnStore) : Prop where
  turns : ∀ (turnId : Nat) (turn : StoredTurn), after.turns[turnId]? = some turn → turn.status.isTerminal = false →
    ∃ was : StoredTurn, before.turns[turnId]? = some was ∧ was.status.isTerminal = false ∧
      was.sequence = turn.sequence
  current : ∀ turnId, after.IsOpen turnId → before.currentTurnId = some turnId →
    after.currentTurnId = some turnId
  sequence : after.turnSequence = before.turnSequence

theorem Narrows.refl (store : TurnStore) : store.Narrows store :=
  ⟨fun _ turn found open_ => ⟨turn, found, open_, rfl⟩, fun _ _ current => current, rfl⟩

theorem Narrows.isOpen {after : TurnStore} (narrows : store.Narrows after) {turnId : Nat}
    (open_ : after.IsOpen turnId) : store.IsOpen turnId := by
  obtain ⟨turn, found, notTerminal⟩ := open_
  obtain ⟨was, before, open_, -⟩ := narrows.turns turnId turn found notTerminal
  exact ⟨was, before, open_⟩

theorem changeOpen_narrows (changed : Nat) {change : StoredTurn → StoredTurn}
    (keeps : ∀ turn, (change turn).sequence = turn.sequence) :
    store.Narrows (store.changeOpen changed change) := by
  refine ⟨fun turnId turn found open_ => ?_, fun _ _ current => current, rfl⟩
  rw [changeOpen, List.getElem?_modify, Option.map_eq_map, Option.map_eq_some_iff] at found
  obtain ⟨was, before, rfl⟩ := found
  refine ⟨was, before, ?_⟩
  cases terminal : was.status.isTerminal with
  | false =>
    refine ⟨rfl, ?_⟩
    split
    · rw [if_neg (by simp)]
      exact (keeps was).symm
    · rfl
  | true =>
    -- A terminal turn is left as it is.
    rw [if_pos terminal, ite_self] at open_
    exact absurd (terminal.symm.trans open_) (by simp)

theorem not_isOpen_endTurn (turnId : Nat) {status : TurnStatus} (terminal : status.isTerminal = true)
    (outputText : Option Text) : ¬ (store.endTurn turnId status outputText).IsOpen turnId := by
  rintro ⟨turn, found, open_⟩
  rw [endTurn, changeOpen, List.getElem?_modify, Option.map_eq_map, Option.map_eq_some_iff] at found
  obtain ⟨was, -, rfl⟩ := found
  rw [if_pos rfl] at open_
  split at open_
  · next already => exact absurd (already.symm.trans open_) (by simp)
  · exact absurd (terminal.symm.trans open_) (by simp)

theorem endTurn_narrows (turnId : Nat) {status : TurnStatus} (terminal : status.isTerminal = true)
    (outputText : Option Text) : store.Narrows (store.endTurn turnId status outputText) := by
  have changes : store.Narrows (store.changeOpen turnId fun turn =>
      { turn with status := status, outputText := outputText }) := changeOpen_narrows turnId fun _ => rfl
  refine ⟨changes.turns, fun other open_ current => ?_, rfl⟩
  have differs : store.currentTurnId ≠ some turnId := by
    intro ended
    obtain rfl : other = turnId := Option.some.inj (current.symm.trans ended)
    exact not_isOpen_endTurn other terminal outputText open_
  exact (if_neg differs).trans current

theorem endSession_narrows (failed : Bool) : store.Narrows (store.endSession failed) := by
  have closed (turnId : Nat) (turn : StoredTurn)
      (found : (store.endSession failed).turns[turnId]? = some turn) :
      turn.status.isTerminal = true := by
    rw [endSession, List.getElem?_map, Option.map_eq_some_iff] at found
    obtain ⟨was, -, rfl⟩ := found
    split
    · assumption
    · cases failed <;> rfl
  refine ⟨fun turnId turn found open_ => ?_, ?_, rfl⟩
  · exact absurd ((closed turnId turn found).symm.trans open_) (by simp)
  · rintro turnId ⟨turn, found, open_⟩
    exact absurd ((closed turnId turn found).symm.trans open_) (by simp)

end TurnStore

def DurableCall.endsTurn : DurableCall → Bool
  | .endTurn _ status _ => status.isTerminal
  | _ => true

def DurableCall.startsTurn : DurableCall → Bool
  | .startTurn _ => true
  | _ => false

namespace TurnStore

variable {store : TurnStore}

theorem commit_narrows {call : DurableCall} (ends : call.endsTurn = true)
    (noStart : call.startsTurn = false) : store.Narrows (store.commit call) := by
  cases call with
  | startTurn => cases noStart
  | updateTurnStatus turnId status =>
    refine changeOpen_narrows turnId fun turn => ?_
    split <;> rfl
  | checkpointTurnInterruption turnId => exact changeOpen_narrows turnId fun _ => rfl
  | endTurn turnId status outputText =>
    unfold commit
    dsimp only
    split
    · exact .refl store
    · exact endTurn_narrows turnId ends outputText
  | toolCall => exact .refl store

theorem startTurn_open (admitted : store.mayStart = true) (transcript : Text) {turnId : Nat}
    {turn : StoredTurn} (found : (store.startTurn transcript).turns[turnId]? = some turn)
    (open_ : turn.status.isTerminal = false) :
    turnId = store.turns.length ∧ turn.sequence = store.turnSequence + 1 := by
  have noOpen : store.hasOpenTurn = false := by
    rw [mayStart, Bool.and_eq_true, Bool.not_eq_true'] at admitted
    exact admitted.2
  change (store.turns ++ [_])[turnId]? = some turn at found
  rcases Nat.lt_trichotomy turnId store.turns.length with before | rfl | after
  · rw [List.getElem?_append_left before] at found
    exact absurd (noOpen.symm.trans (hasOpenTurn_of_isOpen ⟨turn, found, open_⟩)) (by simp)
  · rw [List.getElem?_append_right (Nat.le_refl _), Nat.sub_self] at found
    obtain rfl := Option.some.inj found
    exact ⟨rfl, rfl⟩
  · rw [List.getElem?_eq_none (by rw [List.length_append]; exact after)] at found
    cases found

end TurnStore

/-! ## What is kept about starts -/

/-- What the starts of turns depend on. -/
structure StartLedger where
  store : TurnStore
  lateWrites : List LateWrite
  lastTurnSequence : Nat
  sessionEnding : Bool
  sessionEndings : Nat
  startCalls : List StartCall

/-- A start that was given up and may still commit. -/
def LateWrite.isPendingStart (write : LateWrite) : Bool := write.call.startsTurn && !write.committed

/-- When it was called, no turn of the loop was open or could still be opened, and the session was not
being ended. The first `known` turns of the session are not of the loop. -/
def StartCall.Alone (known : Nat) (call : StartCall) : Prop :=
  call.sessionEnding = false ∧ (∀ turnId, known ≤ turnId → ¬ call.store.IsOpen turnId) ∧
    ∀ write ∈ call.lateWrites, write.isPendingStart = false

namespace StartLedger

variable {ledger next : StartLedger} {known : Nat}

/-- The open turns of the loop, with their sequences, are of this kind. -/
def Opens (known : Nat) (ledger : StartLedger) (P : Nat → Nat → Prop) : Prop :=
  ∀ (turnId : Nat) (turn : StoredTurn), known ≤ turnId → ledger.store.turns[turnId]? = some turn →
    turn.status.isTerminal = false → P turnId turn.sequence

def NoPendingStart (ledger : StartLedger) : Prop :=
  ∀ write ∈ ledger.lateWrites, write.isPendingStart = false

/-- What holds in every phase. -/
structure Kept (known : Nat) (ledger : StartLedger) : Prop where
  current : ∀ turnId, known ≤ turnId → ledger.store.IsOpen turnId →
    ledger.store.currentTurnId = some turnId
  sequence : ledger.lastTurnSequence ≤ ledger.store.turnSequence
  late : ∀ write ∈ ledger.lateWrites, write.call.endsTurn = true ∧
    (write.call.startsTurn = true → write.tracked = true)
  endings : ledger.sessionEndings = if ledger.sessionEnding then 1 else 0
  starts : ∀ call ∈ ledger.startCalls, call.Alone known

/-- No turn of the loop is open, or can be opened by a start that was given up. -/
structure Settled (known : Nat) (ledger : StartLedger) : Prop where
  closed : ledger.Opens known fun _ _ => False
  noStart : ledger.NoPendingStart

/-- Only this turn may be open. -/
structure Handling (known : Nat) (ledger : StartLedger) (turnId : Nat) : Prop where
  only : ledger.Opens known fun other _ => other = turnId
  noStart : ledger.NoPendingStart

/-- The open turn is the candidate, or the one that will be found. -/
structure Recovering (known : Nat) (ledger : StartLedger) (candidate : Option Nat)
    (afterSequence : Nat) (step : RecoveryStep) : Prop where
  opens : ledger.Opens known fun turnId sequence =>
    candidate = some turnId ∨ candidate = none ∧ afterSequence < sequence
  bound : candidate = none → afterSequence ≤ ledger.store.turnSequence
  pending : ∀ write ∈ ledger.lateWrites, write.isPendingStart = true →
    candidate = none ∧ ∃ writes, step = .pendingWrites writes ∧ write.id ∈ writes
  read : ∀ currentTurnId, step = .readingTurns currentTurnId →
    ledger.Opens known fun turnId _ => currentTurnId = some turnId

/-- Nothing is started or opened from one to the other. -/
structure Narrows (ledger next : StartLedger) : Prop where
  store : ledger.store.Narrows next.store
  late : ∀ write ∈ next.lateWrites, write.call.endsTurn = true ∧ write.call.startsTurn = false ∨
    ∃ was ∈ ledger.lateWrites, was.id = write.id ∧ was.call = write.call ∧ was.tracked = write.tracked ∧
      (write.committed = false → was.committed = false)
  lastTurnSequence : next.lastTurnSequence = ledger.lastTurnSequence
  sessionEnding : next.sessionEnding = ledger.sessionEnding
  sessionEndings : next.sessionEndings = ledger.sessionEndings
  startCalls : next.startCalls = ledger.startCalls

theorem Narrows.refl (ledger : StartLedger) : ledger.Narrows ledger :=
  ⟨.refl _, fun write member => .inr ⟨write, member, rfl, rfl, rfl, id⟩, rfl, rfl, rfl, rfl⟩

theorem Opens.imp {P Q : Nat → Nat → Prop} (opens : ledger.Opens known P)
    (weaker : ∀ turnId sequence, P turnId sequence → Q turnId sequence) : ledger.Opens known Q :=
  fun turnId turn own found open_ => weaker _ _ (opens turnId turn own found open_)

theorem Opens.narrows {P : Nat → Nat → Prop} (opens : ledger.Opens known P)
    (narrows : ledger.Narrows next) : next.Opens known P := by
  intro turnId turn own found open_
  obtain ⟨was, before, wasOpen, sequence⟩ := narrows.store.turns turnId turn found open_
  rw [← sequence]
  exact opens turnId was own before wasOpen

theorem Narrows.pendingStart (narrows : ledger.Narrows next) {write : LateWrite}
    (member : write ∈ next.lateWrites) (pending : write.isPendingStart = true) :
    ∃ was ∈ ledger.lateWrites, was.id = write.id ∧ was.isPendingStart = true := by
  rw [LateWrite.isPendingStart, Bool.and_eq_true, Bool.not_eq_true'] at pending
  rcases narrows.late write member with ⟨-, noStart⟩ | ⟨was, before, id_eq, call_eq, -, uncommitted⟩
  · exact absurd (noStart.symm.trans pending.1) (by simp)
  · refine ⟨was, before, id_eq, ?_⟩
    rw [LateWrite.isPendingStart, call_eq, uncommitted pending.2, pending.1]
    rfl

theorem NoPendingStart.narrows (noStart : ledger.NoPendingStart) (narrows : ledger.Narrows next) :
    next.NoPendingStart := by
  intro write member
  cases pending : write.isPendingStart with
  | false => rfl
  | true =>
    obtain ⟨was, before, -, wasPending⟩ := narrows.pendingStart member pending
    exact absurd ((noStart was before).symm.trans wasPending) (by simp)

theorem Kept.narrows (kept : ledger.Kept known) (narrows : ledger.Narrows next) : next.Kept known where
  current turnId own open_ :=
    narrows.store.current turnId open_ (kept.current turnId own (narrows.store.isOpen open_))
  sequence := by
    rw [narrows.lastTurnSequence, narrows.store.sequence]
    exact kept.sequence
  late write member := by
    rcases narrows.late write member with ⟨ends, noStart⟩ | ⟨was, before, -, call_eq, tracked, -⟩
    · exact ⟨ends, fun start => absurd (noStart.symm.trans start) (by simp)⟩
    · rw [← call_eq, ← tracked]
      exact kept.late was before
  endings := by
    rw [narrows.sessionEndings, narrows.sessionEnding]
    exact kept.endings
  starts := by
    rw [narrows.startCalls]
    exact kept.starts

theorem Settled.narrows (settled : ledger.Settled known) (narrows : ledger.Narrows next) :
    next.Settled known :=
  ⟨settled.closed.narrows narrows, settled.noStart.narrows narrows⟩

theorem Handling.narrows {turnId : Nat} (handling : ledger.Handling known turnId)
    (narrows : ledger.Narrows next) : next.Handling known turnId :=
  ⟨handling.only.narrows narrows, handling.noStart.narrows narrows⟩

variable {candidate : Option Nat} {afterSequence : Nat}

theorem Recovering.narrows {step : RecoveryStep}
    (recovering : ledger.Recovering known candidate afterSequence step)
    (narrows : ledger.Narrows next) : next.Recovering known candidate afterSequence step where
  opens := recovering.opens.narrows narrows
  bound unknown := by
    rw [narrows.store.sequence]
    exact recovering.bound unknown
  pending write member pending := by
    obtain ⟨was, before, id_eq, wasPending⟩ := narrows.pendingStart member pending
    rw [← id_eq]
    exact recovering.pending was before wasPending
  read currentTurnId reading := (recovering.read currentTurnId reading).narrows narrows

theorem Recovering.noStart {step : RecoveryStep}
    (recovering : ledger.Recovering known candidate afterSequence step)
    (waited : ∀ writes, step ≠ .pendingWrites writes) : ledger.NoPendingStart := by
  intro write member
  cases start : write.isPendingStart with
  | false => rfl
  | true =>
    obtain ⟨-, writes, waiting, -⟩ := recovering.pending write member start
    exact absurd waiting (waited writes)

theorem Recovering.goesOn {step next : RecoveryStep}
    (recovering : ledger.Recovering known candidate afterSequence step)
    (waited : ∀ writes, step ≠ .pendingWrites writes)
    (unread : ∀ currentTurnId, next ≠ .readingTurns currentTurnId) :
    ledger.Recovering known candidate afterSequence next where
  opens := recovering.opens
  bound := recovering.bound
  pending write member start :=
    absurd ((recovering.noStart waited write member).symm.trans start) (by simp)
  read currentTurnId reading := absurd reading (unread currentTurnId)

theorem Recovering.found {currentTurnId : Option Nat}
    (recovering : ledger.Recovering known candidate afterSequence (.readingTurns currentTurnId)) :
    ledger.Opens known fun turnId _ =>
      (candidate <|> ledger.store.lateTurn currentTurnId afterSequence) = some turnId := by
  intro turnId turn own stored open_
  rcases recovering.opens turnId turn own stored open_ with rfl | ⟨rfl, later⟩
  · rfl
  · have current : currentTurnId = some turnId :=
      recovering.read currentTurnId rfl turnId turn own stored open_
    change ledger.store.lateTurn currentTurnId afterSequence = some turnId
    rw [current, TurnStore.lateTurn]
    rw [stored, Option.any_some, if_pos (by simpa using later)]

theorem Handling.settled {turnId : Nat} (handling : ledger.Handling known turnId)
    (closed : ¬ ledger.store.IsOpen turnId) : ledger.Settled known := by
  refine ⟨fun other turn own found open_ => ?_, handling.noStart⟩
  obtain rfl := handling.only other turn own found open_
  exact closed ⟨turn, found, open_⟩

end StartLedger

def TranscriptPhase.isOver : TranscriptPhase → Bool
  | .idle | .gate | .remembering _ | .finishing => true
  | _ => false

/-- The turn was started, and nothing has failed yet but perhaps what is being caught. -/
def TranscriptPhase.isTurning : TranscriptPhase → Bool
  | .thinking | .running | .speaking | .delivering _ | .ending _ | .readingTerminal | .failing => true
  | _ => false

namespace PipelineVoiceLoop

def ledger (s : PipelineVoiceLoop) : StartLedger :=
  ⟨s.store, s.lateWrites, s.lastTurnSequence, s.persistenceSessionEnding, s.sessionEndings, s.startCalls⟩

variable {s : PipelineVoiceLoop} {known : Nat}

/-! ## What leaves the ledger alone -/

@[simp] theorem markPersistenceDegraded_ledger : s.markPersistenceDegraded.ledger = s.ledger := by
  obtain ⟨events, marked⟩ := s.markPersistenceDegraded_eq
  rw [marked]
  rfl

@[simp] theorem observeTerminalTurn_ledger (status : TurnStatus) (withError : Bool) :
    (s.observeTerminalTurn status withError).ledger = s.ledger := by
  obtain ⟨events, observed⟩ := s.observeTerminalTurn_eq status withError
  rw [observed]
  rfl

@[simp] theorem recoverNonCheckpointPersistence_ledger (generation : Nat) :
    (s.recoverNonCheckpointPersistence generation).ledger = s.ledger := by
  unfold recoverNonCheckpointPersistence
  split <;> rfl

variable {call : DurableCall}

theorem settleCall_narrows (ends : call.endsTurn = true) (noStart : call.startsTurn = false)
    (outcome : CallOutcome) :
    s.ledger.Narrows (s.settleCall call outcome).ledger := by
  have kept : ∀ write ∈ s.lateWrites, write.call.endsTurn = true ∧ write.call.startsTurn = false ∨
      ∃ was ∈ s.lateWrites, was.id = write.id ∧ was.call = write.call ∧
        was.tracked = write.tracked ∧ (write.committed = false → was.committed = false) :=
    fun write member => .inr ⟨write, member, rfl, rfl, rfl, id⟩
  have committed : s.ledger.Narrows { s.ledger with store := s.store.commit call } :=
    ⟨TurnStore.commit_narrows ends noStart, kept, rfl, rfl, rfl, rfl⟩
  cases outcome with
  | resolves => exact committed
  | rejects wasCommitted unavailable =>
    cases wasCommitted with
    | true => exact committed
    | false => exact ⟨.refl _, kept, rfl, rfl, rfl, rfl⟩
  | timesOut tracked =>
    refine ⟨.refl _, fun write member => ?_, rfl, rfl, rfl, rfl⟩
    rcases List.mem_append.mp member with before | added
    · exact kept write before
    · obtain rfl := List.mem_singleton.mp added
      exact .inl ⟨ends, noStart⟩

/-! ## The invariant -/

/-- A turn of which the failure path is yet to be taken. -/
structure Turning (known : Nat) (s : PipelineVoiceLoop) : Prop where
  handling : s.ledger.Handling known s.turn.turnId
  late : s.turn.terminalWriteMayBeLate = true → s.nonCheckpointPersistenceDegraded = true

/-- What holds in the phase of a loop that is not ending the session. -/
def Stage (known : Nat) (s : PipelineVoiceLoop) : Prop :=
  match s.phase with
  | .idle | .gate | .remembering _ | .finishing => s.ledger.Settled known
  | .starting => s.ledger.Settled known ∧ s.turn.sequenceBeforeStart ≤ s.store.turnSequence ∧
      (s.turn.terminalWriteMayBeLate = true → s.nonCheckpointPersistenceDegraded = true)
  | .recovering caller candidate afterSequence step =>
    s.ledger.Recovering known candidate afterSequence step ∧
      (caller = .turnFailure → s.nonCheckpointPersistenceDegraded = true)
  | .endingSession _ => False
  | _ => s.Turning known

structure Guarded (known : Nat) (s : PipelineVoiceLoop) : Prop where
  kept : s.ledger.Kept known
  stage : s.persistenceSessionEnding = false → s.Stage known

section

variable (kept : s.ledger.Kept known)
include kept

theorem Guarded.of_settled (settled : s.persistenceSessionEnding = false → s.ledger.Settled known)
    (gone : s.phase.isOver = true) : s.Guarded known := by
  refine ⟨kept, fun going => ?_⟩
  unfold Stage
  cases phase : s.phase <;> rw [phase] at gone <;> first | exact settled going | cases gone

theorem Guarded.of_turning (turning : s.persistenceSessionEnding = false → s.Turning known)
    (inTurn : s.phase.isTurning = true) : s.Guarded known := by
  refine ⟨kept, fun going => ?_⟩
  unfold Stage
  cases phase : s.phase <;> rw [phase] at inTurn <;> first | exact turning going | cases inTurn

theorem Guarded.of_ending (ending : s.persistenceSessionEnding = true) :
    s.Guarded known :=
  ⟨kept, fun going => absurd (ending.symm.trans going) (by simp)⟩

/-! ## The end of a turn -/

theorem Guarded.observe (settled : s.persistenceSessionEnding = false → s.ledger.Settled known)
    (status : TurnStatus) (withError : Bool) :
    (s.observeTerminalTurn status withError).Guarded known := by
  have same := s.observeTerminalTurn_ledger status withError
  refine .of_settled (by rwa [same]) (fun going => ?_) rfl
  rw [same]
  exact settled ((congrArg StartLedger.sessionEnding same).symm.trans going)

theorem Guarded.remember (settled : s.persistenceSessionEnding = false → s.ledger.Settled known)
    (call : PolicyCall) (status : TurnStatus) : (s.remember call status).Guarded known :=
  .of_settled kept settled rfl

theorem Guarded.turnEnded (settled : s.persistenceSessionEnding = false → s.ledger.Settled known)
    (cancelled : Bool) (status : TurnStatus) : (s.turnEnded cancelled status).Guarded known := by
  have known_kept : (s.knowEnd status true).ledger.Kept known := kept
  unfold PipelineVoiceLoop.turnEnded
  dsimp only
  split
  · exact .remember known_kept settled _ _
  · exact .observe (s := (s.knowEnd .failed true).failTurn) kept settled _ _
  · split
    · exact .remember known_kept settled _ _
    · exact .observe known_kept settled _ _

theorem Guarded.concludeFailure
    (settled : s.persistenceSessionEnding = false → s.ledger.Settled known)
    (terminal : Option TurnStatus) : (s.concludeFailure terminal).Guarded known := by
  unfold PipelineVoiceLoop.concludeFailure
  split
  · exact .remember kept settled _ _
  · exact .observe kept settled _ _
  · exact .observe (s := s.failTurn) kept settled _ _

theorem beginSessionEnding_kept (going : s.persistenceSessionEnding = false) :
    s.beginSessionEnding.ledger.Kept known := by
  refine ⟨kept.current, kept.sequence, kept.late, ?_, kept.starts⟩
  have endings : s.sessionEndings = 0 := kept.endings.trans (by rw [ledger, going]; rfl)
  change s.sessionEndings + 1 = 1
  rw [endings]

theorem Guarded.afterFailure_none
    (lost : s.persistenceSessionEnding = false → s.nonCheckpointPersistenceDegraded = true) :
    (s.afterFailure none).Guarded known := by
  unfold PipelineVoiceLoop.afterFailure
  dsimp only
  cases ending : s.persistenceSessionEnding with
  | false =>
    rw [if_pos ⟨lost ending, by simp⟩]
    exact .of_ending (beginSessionEnding_kept kept ending) rfl
  | true =>
    rw [if_neg (by simp)]
    exact .concludeFailure kept (fun going => absurd (ending.symm.trans going) (by simp)) none

theorem Guarded.afterFailure_some
    (settled : s.persistenceSessionEnding = false → s.ledger.Settled known) (status : TurnStatus) :
    (s.afterFailure (some status)).Guarded known := by
  have same : ((s.knowEnd status false).recoverNonCheckpointPersistence
      s.turn.recoveryGeneration).ledger = s.ledger := recoverNonCheckpointPersistence_ledger _
  refine .concludeFailure (by rwa [same]) (fun going => ?_) _
  rw [same]
  exact settled ((congrArg StartLedger.sessionEnding same).symm.trans going)

theorem Guarded.afterSessionEnding (ending : s.persistenceSessionEnding = true)
    (caller : EndingCaller) :
    (s.afterSessionEnding caller).Guarded known := by
  have notGoing {P : Prop} (going : s.persistenceSessionEnding = false) : P :=
    absurd (ending.symm.trans going) (by simp)
  cases caller with
  | gate | turnStart => exact .of_settled kept notGoing rfl
  | terminalWrite => exact .afterFailure_none kept notGoing
  | turnFailure => exact .concludeFailure kept notGoing none

theorem Guarded.endSession (caller : EndingCaller) :
    (s.endSession caller).Guarded known := by
  unfold PipelineVoiceLoop.endSession
  split
  · next ending => exact .afterSessionEnding kept ending caller
  · next going =>
    exact .of_ending (beginSessionEnding_kept kept (by simpa using going)) rfl

end

/-! ## Recovery -/

variable {caller : RecoveryCaller}

section

variable (kept : s.ledger.Kept known)
include kept

theorem Guarded.recoverFailedTurn {candidate : Option Nat} {afterSequence : Nat}
    (opens : s.persistenceSessionEnding = false → s.ledger.Opens known fun turnId sequence =>
      candidate = some turnId ∨ candidate = none ∧ afterSequence < sequence)
    (bound : s.persistenceSessionEnding = false → candidate = none →
      afterSequence ≤ s.store.turnSequence)
    (pending : s.persistenceSessionEnding = false → ∀ write ∈ s.lateWrites,
      write.isPendingStart = true → candidate = none)
    (degraded : s.persistenceSessionEnding = false → caller = .turnFailure →
      s.nonCheckpointPersistenceDegraded = true) :
    (s.recoverFailedTurn caller candidate afterSequence).Guarded known := by
  have awaited : ∀ write ∈ s.lateWrites, write.isPendingStart = true →
      write.id ∈ (s.lateWrites.filter (·.tracked)).map (·.id) := by
    intro write member start
    rw [LateWrite.isPendingStart, Bool.and_eq_true] at start
    exact List.mem_map_of_mem (List.mem_filter.mpr ⟨member, (kept.late write member).2 start.1⟩)
  refine ⟨kept, fun going => ⟨⟨opens going, bound going, fun write member start => ?_, ?_⟩, degraded going⟩⟩
  · refine ⟨pending going write member start, ?_⟩
    have waits := awaited write member start
    rw [if_neg (List.ne_nil_of_mem waits)]
    exact ⟨_, rfl, waits⟩
  · intro current reading
    split at reading <;> cases reading

theorem Guarded.recovered_some
    (settled : s.persistenceSessionEnding = false → s.ledger.Settled known)
    (caller : RecoveryCaller) (status : TurnStatus) :
    (s.recovered caller (some status)).Guarded known := by
  cases caller with
  | turnStart =>
    have same : (s.recoverNonCheckpointPersistence s.turn.recoveryGeneration).ledger = s.ledger :=
      recoverNonCheckpointPersistence_ledger _
    refine .of_settled (by rw [← same] at kept; exact kept) (fun going => ?_) rfl
    rw [← same] at settled
    exact settled ((congrArg StartLedger.sessionEnding same).symm.trans going)
  | turnFailure | terminalWrite => exact .afterFailure_some kept settled status

theorem Guarded.recovered_none (caller : RecoveryCaller)
    (degraded : s.persistenceSessionEnding = false → caller = .turnFailure →
      s.nonCheckpointPersistenceDegraded = true) : (s.recovered caller none).Guarded known := by
  cases caller with
  | turnStart => exact .endSession kept .turnStart
  | turnFailure => exact .afterFailure_none kept fun going => degraded going rfl
  | terminalWrite => exact .endSession kept .terminalWrite

theorem Guarded.inspected {candidate : Option Nat} {afterSequence : Nat}
    {currentTurnId : Option Nat} (recovering : s.persistenceSessionEnding = false →
      s.ledger.Recovering known candidate afterSequence (.readingTurns currentTurnId))
    (degraded : s.persistenceSessionEnding = false → caller = .turnFailure →
      s.nonCheckpointPersistenceDegraded = true) :
    (s.inspected caller candidate afterSequence currentTurnId).Guarded known := by
  have found (going : s.persistenceSessionEnding = false) : s.ledger.Opens known fun turnId _ =>
      (candidate <|> s.store.lateTurn currentTurnId afterSequence) = some turnId :=
    (recovering going).found
  have noStart (going : s.persistenceSessionEnding = false) : s.ledger.NoPendingStart :=
    (recovering going).noStart nofun
  unfold PipelineVoiceLoop.inspected
  dsimp only
  split
  · next status terminal =>
    refine .recovered_some kept (fun going => ⟨?_, noStart going⟩) caller status
    intro turnId turn own stored open_
    rw [found going turnId turn own stored open_, Option.bind_some] at terminal
    exact TurnStore.not_isOpen_of_terminalStatus terminal ⟨turn, stored, open_⟩
  · refine ⟨kept, fun going => ⟨⟨fun turnId turn own stored open_ => ?_, fun unknown => ?_, ?_, nofun⟩,
      degraded going⟩⟩
    · exact .inl (found going turnId turn own stored open_)
    · cases candidate with
      | some => cases unknown
      | none => exact (recovering going).bound rfl
    · intro write member start
      exact absurd ((noStart going write member).symm.trans start) (by simp)

end

/-! ## Handling a turn -/

/-- A turn is being handled. -/
structure InTurn (known : Nat) (s : PipelineVoiceLoop) : Prop where
  kept : s.ledger.Kept known
  turning : s.persistenceSessionEnding = false → s.Turning known

def turnState (s : PipelineVoiceLoop) :=
  (s.turn.turnId, s.turn.terminalWriteMayBeLate, s.nonCheckpointPersistenceDegraded)

variable {t : PipelineVoiceLoop}

section

variable (inTurn : s.InTurn known)
include inTurn

theorem InTurn.frame (sameLedger : t.ledger = s.ledger) (sameTurn : t.turnState = s.turnState) :
    t.InTurn known := by
  simp only [turnState, Prod.mk.injEq] at sameTurn
  obtain ⟨turnId, late, degraded⟩ := sameTurn
  refine ⟨by rw [sameLedger]; exact inTurn.kept, fun going => ?_⟩
  have turning := inTurn.turning ((congrArg StartLedger.sessionEnding sameLedger).symm.trans going)
  constructor
  · rw [sameLedger, turnId]
    exact turning.handling
  · rw [late, degraded]
    exact turning.late

theorem InTurn.mark : s.markPersistenceDegraded.InTurn known := by
  obtain ⟨events, marked⟩ := s.markPersistenceDegraded_eq
  rw [marked]
  exact ⟨inTurn.kept, fun going => ⟨(inTurn.turning going).handling, fun _ => rfl⟩⟩

theorem InTurn.settleCall (ends : call.endsTurn = true) (noStart : call.startsTurn = false)
    (outcome : CallOutcome) :
    (s.settleCall call outcome).InTurn known := by
  have narrows : s.ledger.Narrows (s.settleCall call outcome).ledger :=
    settleCall_narrows ends noStart outcome
  obtain ⟨store, lateWrites, nextLateWrite, called⟩ := s.settleCall_eq call outcome
  rw [called] at narrows ⊢
  exact ⟨inTurn.kept.narrows narrows,
    fun going => ⟨(inTurn.turning going).handling.narrows narrows, (inTurn.turning going).late⟩⟩

theorem Guarded.of_inTurn (phase : s.phase.isTurning = true) :
    s.Guarded known := .of_turning inTurn.kept inTurn.turning phase

theorem InTurn.settled {status : TurnStatus}
    (terminal : s.store.terminalStatus s.turn.turnId = some status)
    (going : s.persistenceSessionEnding = false) : s.ledger.Settled known :=
  (inTurn.turning going).handling.settled (TurnStore.not_isOpen_of_terminalStatus terminal)

theorem InTurn.recoverFailedTurn (caller : RecoveryCaller) (afterSequence : Nat)
    (degraded : s.persistenceSessionEnding = false → caller = .turnFailure →
      s.nonCheckpointPersistenceDegraded = true) :
    (s.recoverFailedTurn caller (some s.turn.turnId) afterSequence).Guarded known := by
  refine .recoverFailedTurn inTurn.kept (fun going => ?_) (fun _ => nofun) (fun going write member start => ?_)
    degraded
  · exact (inTurn.turning going).handling.only.imp fun _ _ same => .inl (by rw [same])
  · exact absurd (((inTurn.turning going).handling.noStart write member).symm.trans start) (by simp)

theorem Guarded.throwTurn (readable : s.clockReadable = true) :
    s.throwTurn.Guarded known := by
  rw [PipelineVoiceLoop.throwTurn, if_pos readable]
  exact .of_inTurn (inTurn.frame rfl rfl) rfl

theorem Guarded.deliverText : s.deliverText.Guarded known :=
  .of_inTurn (inTurn.frame rfl rfl) rfl

theorem InTurn.abortActive (reason : TurnCancellationReason) :
    (s.abortActive reason).InTurn known := by
  unfold PipelineVoiceLoop.abortActive
  split
  · exact inTurn.frame rfl rfl
  · exact inTurn

theorem Guarded.audioFailed (readable : s.clockReadable = true) :
    s.audioFailed.Guarded known := by
  have failed : InTurn known { s with turn := { s.turn with audioError := true } } :=
    inTurn.frame rfl rfl
  unfold PipelineVoiceLoop.audioFailed
  dsimp only
  split
  · exact .throwTurn failed readable
  · exact .deliverText (failed.abortActive _)

theorem Guarded.bodyCallSettled (running : s.phase = .running) (ends : call.endsTurn = true)
    (noStart : call.startsTurn = false) (outcome : CallOutcome)
    (readable : (!outcome.isResolved) = true → s.clockReadable = true) :
    (s.bodyCallSettled call outcome).Guarded known := by
  have called := inTurn.settleCall ends noStart outcome
  unfold PipelineVoiceLoop.bodyCallSettled
  dsimp only
  split
  · refine .of_inTurn called ?_
    obtain ⟨store, lateWrites, nextLateWrite, eq⟩ := s.settleCall_eq call outcome
    rw [eq]
    exact congrArg TranscriptPhase.isTurning running
  · next failed =>
    refine .throwTurn called.mark ?_
    rw [markPersistenceDegraded_clockReadable, settleCall_clockReadable]
    exact readable (by simpa using failed)

theorem Guarded.speakingSettled (outcome : CallOutcome)
    (readable : (!outcome.isResolved) = true → s.clockReadable = true) :
    (s.speakingSettled outcome).Guarded known := by
  have called : (s.settleCall (.updateTurnStatus s.turn.turnId .speaking) outcome).InTurn known :=
    inTurn.settleCall rfl rfl outcome
  unfold PipelineVoiceLoop.speakingSettled
  dsimp only
  split
  · exact .of_inTurn (called.frame rfl rfl) rfl
  · next failed =>
    refine .audioFailed called.mark ?_
    rw [markPersistenceDegraded_clockReadable, settleCall_clockReadable]
    exact readable (by simpa using failed)

theorem Guarded.audioSettled (outputDelivered failed : Bool)
    (readable : failed = true → s.clockReadable = true) :
    (s.audioSettled outputDelivered failed).Guarded known := by
  unfold PipelineVoiceLoop.audioSettled
  dsimp only
  split
  · next failed =>
    exact .audioFailed (inTurn.frame rfl rfl) (readable failed)
  · exact .deliverText (inTurn.frame rfl rfl)

theorem Guarded.textSettled (textDelivered : Option Bool) (alignedText : Text)
    (readable : s.clockReadable = true) :
    (s.textSettled textDelivered alignedText).Guarded known := by
  unfold PipelineVoiceLoop.textSettled
  dsimp only
  rw [if_neg (by simpa using readable)]
  split
  · exact .of_inTurn (inTurn.frame rfl rfl) rfl
  · exact .of_inTurn (inTurn.frame rfl rfl) rfl

end

theorem Guarded.turnEndSettled (guarded : s.Guarded known) (inTurn : s.InTurn known) (cancelled : Bool)
    (outcome : CallOutcome) (readable : (!outcome.isResolved) = true → s.clockReadable = true) :
    (s.turnEndSettled cancelled outcome).Guarded known := by
  have called : (s.settleCall (.endTurn s.turn.turnId (if cancelled then .cancelled else .completed)
      (some s.turn.finalText)) outcome).InTurn known := by
    refine inTurn.settleCall ?_ rfl outcome
    cases cancelled <;> rfl
  obtain ⟨store, lateWrites, nextLateWrite, eq⟩ := s.settleCall_eq (.endTurn s.turn.turnId
    (if cancelled then .cancelled else .completed) (some s.turn.finalText)) outcome
  unfold PipelineVoiceLoop.turnEndSettled
  dsimp only
  split
  · split
    · next status terminal =>
      rw [eq] at called terminal ⊢
      exact .turnEnded called.kept (called.settled terminal) cancelled status
    · exact guarded
  · next failed =>
    -- The write may be late; as it is marked, the loop knows.
    refine .throwTurn ?_ ?_
    · rw [eq] at called ⊢
      obtain ⟨events, marked⟩ := markPersistenceDegraded_eq
        { s with
          store := store
          lateWrites := lateWrites
          nextLateWrite := nextLateWrite
          turn := { s.turn with terminalWriteMayBeLate := outcome.isUnavailable } }
      rw [marked]
      exact ⟨called.kept, fun going => ⟨(called.turning going).handling, fun _ => rfl⟩⟩
    · rw [markPersistenceDegraded_clockReadable]
      change (s.settleCall _ outcome).clockReadable = true
      rw [settleCall_clockReadable]
      exact readable (by simpa using failed)

theorem Guarded.terminalReadSettled (inTurn : s.InTurn known) (found : Bool) :
    (s.terminalReadSettled found).Guarded known := by
  unfold PipelineVoiceLoop.terminalReadSettled
  split
  · next status read =>
    have terminal : s.store.terminalStatus s.turn.turnId = some status := by
      cases found with
      | true => exact read
      | false => cases read
    exact .afterFailure_some inTurn.kept (inTurn.settled terminal) status
  · split
    · next late =>
      exact inTurn.recoverFailedTurn _ _ fun going _ => late.elim id (inTurn.turning going).late
    · exact .of_inTurn (inTurn.frame rfl rfl) rfl

theorem Guarded.failedTurnEndSettled (guarded : s.Guarded known) (inTurn : s.InTurn known)
    (outcome : CallOutcome) : (s.failedTurnEndSettled outcome).Guarded known := by
  have called : (s.settleCall (.endTurn s.turn.turnId .failed (some s.turn.finalText)) outcome).InTurn
      known := inTurn.settleCall rfl rfl outcome
  obtain ⟨store, lateWrites, nextLateWrite, eq⟩ :=
    s.settleCall_eq (.endTurn s.turn.turnId .failed (some s.turn.finalText)) outcome
  unfold PipelineVoiceLoop.failedTurnEndSettled
  dsimp only
  split
  · split
    · next status terminal =>
      rw [eq] at called terminal ⊢
      exact .afterFailure_some called.kept (called.settled terminal) status
    · exact guarded
  · have turnId : (s.settleCall (.endTurn s.turn.turnId .failed (some s.turn.finalText))
        outcome).markForRecovery.turn.turnId = s.turn.turnId := by
      obtain ⟨events, marked⟩ := markPersistenceDegraded_eq (s.settleCall
        (.endTurn s.turn.turnId .failed (some s.turn.finalText)) outcome)
      rw [markForRecovery, marked, eq]
    have marked := (called.mark.frame (t := (s.settleCall (.endTurn s.turn.turnId .failed
      (some s.turn.finalText)) outcome).markForRecovery) rfl rfl).recoverFailedTurn .terminalWrite
        (s.lastTurnSequence - 1) nofun
    rw [turnId] at marked
    exact marked

theorem Guarded.recoveryWriteSettled {turnId afterSequence : Nat} (kept : s.ledger.Kept known)
    (recovering : s.persistenceSessionEnding = false →
      s.ledger.Recovering known (some turnId) afterSequence .terminalizing)
    (degraded : s.persistenceSessionEnding = false → caller = .turnFailure →
      s.nonCheckpointPersistenceDegraded = true) (outcome : CallOutcome) :
    (s.recoveryWriteSettled caller turnId afterSequence outcome).Guarded known := by
  have narrows : s.ledger.Narrows (s.settleCall (.endTurn turnId .failed none) outcome).ledger :=
    settleCall_narrows rfl rfl outcome
  obtain ⟨store, lateWrites, nextLateWrite, eq⟩ := s.settleCall_eq (.endTurn turnId .failed none) outcome
  unfold PipelineVoiceLoop.recoveryWriteSettled
  dsimp only
  rw [eq] at narrows ⊢
  have called := kept.narrows narrows
  have handling (going : s.persistenceSessionEnding = false) :=
    (recovering going).narrows narrows
  have noStart (going : s.persistenceSessionEnding = false) := (handling going).noStart nofun
  have deciding (going : s.persistenceSessionEnding = false) : StartLedger.Recovering known
      (ledger { s with store := store, lateWrites := lateWrites, nextLateWrite := nextLateWrite })
      (some turnId) afterSequence .deciding := (handling going).goesOn nofun nofun
  have again : Guarded known
      { markPersistenceDegraded
          { s with store := store, lateWrites := lateWrites, nextLateWrite := nextLateWrite } with
        phase := .recovering caller (some turnId) afterSequence .deciding } := by
    obtain ⟨events, marked⟩ := markPersistenceDegraded_eq
      { s with store := store, lateWrites := lateWrites, nextLateWrite := nextLateWrite }
    rw [marked]
    exact ⟨called, fun going => ⟨deciding going, fun _ => rfl⟩⟩
  split
  · split
    · next status terminal =>
      refine .recovered_some called (fun going => ⟨fun other turn own stored open_ => ?_,
        noStart going⟩) caller status
      rcases (handling going).opens other turn own stored open_ with same | ⟨unknown, -⟩
      · obtain rfl := Option.some.inj same
        exact TurnStore.not_isOpen_of_terminalStatus terminal ⟨turn, stored, open_⟩
      · cases unknown
    · exact ⟨called, fun going => ⟨deciding going, degraded going⟩⟩
  · exact again
  · exact again
  · exact .recovered_none called caller degraded

/-! ## Starting a turn -/

theorem Guarded.passGate (guarded : s.Guarded known) (phase : s.phase = .gate)
    (checkpointRecovered : Bool) : (s.passGate checkpointRecovered).Guarded known := by
  have settled (going : s.persistenceSessionEnding = false) : s.ledger.Settled known := by
    have stage := guarded.stage going
    rwa [Stage, phase] at stage
  unfold PipelineVoiceLoop.passGate
  split
  · exact .of_settled guarded.kept settled rfl
  · next notEnding =>
    have going : s.persistenceSessionEnding = false := by simpa using notEnding
    split
    · refine .endSession ?_ .gate
      rw [markPersistenceDegraded_ledger]
      exact guarded.kept
    · refine ⟨⟨guarded.kept.current, guarded.kept.sequence, guarded.kept.late, guarded.kept.endings, ?_⟩,
        fun _ => ⟨⟨(settled going).closed, (settled going).noStart⟩, guarded.kept.sequence, nofun⟩⟩
      intro call member
      rcases List.mem_append.mp member with before | now
      · exact guarded.kept.starts call before
      · obtain rfl := List.mem_singleton.mp now
        refine ⟨going, fun turnId own => ?_, (settled going).noStart⟩
        rintro ⟨turn, found, open_⟩
        exact (settled going).closed turnId turn own found open_

theorem Guarded.startFailed (kept : s.ledger.Kept known) (candidate : Option Nat)
    (opens : s.persistenceSessionEnding = false → s.ledger.Opens known fun turnId sequence =>
      candidate = some turnId ∨ candidate = none ∧ s.turn.sequenceBeforeStart < sequence)
    (bound : s.persistenceSessionEnding = false → candidate = none →
      s.turn.sequenceBeforeStart ≤ s.store.turnSequence)
    (pending : s.persistenceSessionEnding = false → ∀ write ∈ s.lateWrites,
      write.isPendingStart = true → candidate = none) :
    (s.startFailed candidate).Guarded known := by
  have same : s.markForRecovery.failTurn.ledger = s.ledger := s.markPersistenceDegraded_ledger
  have ending : s.markForRecovery.failTurn.persistenceSessionEnding = s.persistenceSessionEnding :=
    congrArg StartLedger.sessionEnding same
  have store : s.markForRecovery.failTurn.store = s.store := congrArg StartLedger.store same
  have lateWrites : s.markForRecovery.failTurn.lateWrites = s.lateWrites :=
    congrArg StartLedger.lateWrites same
  refine .recoverFailedTurn (s := s.markForRecovery.failTurn) (by rwa [same]) ?_ ?_ ?_
    (fun _ other => nomatch other)
  · rwa [same, ending]
  · rwa [ending, store]
  · rwa [ending, lateWrites]

theorem startTurn_kept (kept : s.ledger.Kept known) (admitted : s.store.mayStart = true)
    (transcript : Text) (started : t.store = s.store.startTurn transcript)
    (sequence : t.lastTurnSequence ≤ s.store.turnSequence + 1)
    (late : ∀ write ∈ t.lateWrites, ∃ was ∈ s.lateWrites, was.call = write.call ∧
      was.tracked = write.tracked)
    (same : (t.persistenceSessionEnding, t.sessionEndings, t.startCalls) =
      (s.persistenceSessionEnding, s.sessionEndings, s.startCalls)) : t.ledger.Kept known := by
  simp only [Prod.mk.injEq] at same
  obtain ⟨ending, endings, calls⟩ := same
  refine ⟨fun turnId own open_ => ?_, ?_, fun write member => ?_, ?_, ?_⟩
  · obtain ⟨turn, found, notTerminal⟩ := open_
    change t.store.turns[turnId]? = some turn at found
    rw [started] at found
    obtain ⟨rfl, -⟩ := TurnStore.startTurn_open admitted transcript found notTerminal
    change t.store.currentTurnId = _
    rw [started]
    rfl
  · change t.lastTurnSequence ≤ t.store.turnSequence
    rw [started]
    exact sequence
  · obtain ⟨was, before, call_eq, tracked⟩ := late write member
    rw [← call_eq, ← tracked]
    exact kept.late was before
  · change t.sessionEndings = if t.persistenceSessionEnding then 1 else 0
    rw [endings, ending]
    exact kept.endings
  · change ∀ call ∈ t.startCalls, call.Alone known
    rw [calls]
    exact kept.starts

theorem Guarded.startSettled (guarded : s.Guarded known) (phase : s.phase = .starting)
    {outcome : CallOutcome} (tracked : outcome ≠ .timesOut false) :
    (s.startSettled outcome).Guarded known := by
  have kept := guarded.kept
  have stage (going : s.persistenceSessionEnding = false) : s.ledger.Settled known ∧
      s.turn.sequenceBeforeStart ≤ s.store.turnSequence ∧
      (s.turn.terminalWriteMayBeLate = true → s.nonCheckpointPersistenceDegraded = true) := by
    have stage := guarded.stage going
    rwa [Stage, phase] at stage
  unfold PipelineVoiceLoop.startSettled
  split
  · exact guarded
  · next admitted =>
    dsimp only
    cases outcome with
    | resolves =>
      have mayStart : s.store.mayStart = true := by simpa [CallOutcome.isResolved] using admitted
      have started : s.store.commit (.startTurn s.turn.transcript) =
          s.store.startTurn s.turn.transcript := if_pos mayStart
      rw [if_pos (by rfl)]
      refine .of_inTurn ⟨startTurn_kept kept mayStart s.turn.transcript started (Nat.le_refl _)
        (fun write member => ⟨write, member, rfl, rfl⟩) rfl, fun going => ⟨⟨?_, ?_⟩, ?_⟩⟩ rfl
      · intro turnId turn own found open_
        change (s.store.commit (.startTurn s.turn.transcript)).turns[turnId]? = some turn at found
        rw [started] at found
        exact (TurnStore.startTurn_open mayStart s.turn.transcript found open_).1
      · exact (stage going).1.noStart
      · exact (stage going).2.2
    | rejects committed unavailable =>
      rw [if_neg (by simp [CallOutcome.isResolved])]
      have noStart (going : s.persistenceSessionEnding = false) (write : LateWrite)
          (member : write ∈ s.lateWrites) (start : write.isPendingStart = true) :
          (none : Option Nat) = none := rfl
      by_cases opened : committed = true ∧ s.store.mayStart = true
      · -- The start was reported as failed, and has committed.
        obtain ⟨rfl, mayStart⟩ := opened
        have started : s.store.commit (.startTurn s.turn.transcript) =
            s.store.startTurn s.turn.transcript := if_pos mayStart
        refine .startFailed (s := { s with store := s.store.commit (.startTurn s.turn.transcript) })
          (startTurn_kept kept mayStart s.turn.transcript started
            (kept.sequence.trans (Nat.le_succ _)) (fun write member => ⟨write, member, rfl, rfl⟩) rfl)
          none (fun going turnId turn own found open_ => .inr ⟨rfl, ?_⟩) (fun going _ => ?_) noStart
        · change (s.store.commit (.startTurn s.turn.transcript)).turns[turnId]? = some turn at found
          rw [started] at found
          rw [(TurnStore.startTurn_open mayStart s.turn.transcript found open_).2]
          exact Nat.lt_succ_of_le (stage going).2.1
        · change s.turn.sequenceBeforeStart ≤
            (s.store.commit (.startTurn s.turn.transcript)).turnSequence
          rw [started]
          exact (stage going).2.1.trans (Nat.le_succ _)
      · have same : s.settleCall (.startTurn s.turn.transcript) (.rejects committed unavailable) = s := by
          cases committed with
          | false => rfl
          | true =>
            have refused : s.store.commit (.startTurn s.turn.transcript) = s.store :=
              if_neg fun mayStart => opened ⟨rfl, mayStart⟩
            rw [PipelineVoiceLoop.settleCall, refused]
        rw [same]
        exact .startFailed kept none (fun going => (stage going).1.closed.imp fun _ _ => False.elim)
          (fun going _ => (stage going).2.1) noStart
    | timesOut wasTracked =>
      rw [if_neg (by simp [CallOutcome.isResolved])]
      cases wasTracked with
      | false => exact absurd rfl tracked
      | true =>
        refine .startFailed (s := s.settleCall (.startTurn s.turn.transcript) (.timesOut true))
          ⟨kept.current, kept.sequence, fun write member => ?_, kept.endings, kept.starts⟩ none
          (fun going turnId turn own found open_ =>
            ((stage going).1.closed turnId turn own found open_).elim)
          (fun going _ => (stage going).2.1) (fun _ _ _ _ => rfl)
        rcases List.mem_append.mp member with before | added
        · exact kept.late write before
        · obtain rfl := List.mem_singleton.mp added
          exact ⟨rfl, fun _ => rfl⟩

theorem Guarded.thinkingSettled (inTurn : s.InTurn known) (outcome : CallOutcome) (setUp : TurnSetUp)
    (readable : (outcome.isResolved && setUp.shutdown.isSome) = true → s.clockReadable = true)
    (works : setUp.incrementalTtsInputThrows = false) :
    (s.thinkingSettled outcome setUp).Guarded known := by
  have called : (s.settleCall (.updateTurnStatus s.turn.turnId .thinking) outcome).InTurn known :=
    inTurn.settleCall rfl rfl outcome
  unfold PipelineVoiceLoop.thinkingSettled
  dsimp only
  split
  · next resolved =>
    unfold PipelineVoiceLoop.setUpTurn
    have runs : (setUp.shutdown.isSome &&
        !(s.settleCall (.updateTurnStatus s.turn.turnId .thinking) outcome).clockReadable ||
          setUp.incrementalTtsInputThrows) = false := by
      rw [settleCall_clockReadable, works, Bool.or_false]
      cases shutdown : setUp.shutdown.isSome with
      | false => rfl
      | true => rw [readable (by rw [resolved, shutdown]; rfl)]; rfl
    dsimp only
    rw [runs]
    obtain ⟨events, announced⟩ := announceTurn_eq
      (s.settleCall (.updateTurnStatus s.turn.turnId .thinking) outcome)
    rw [announced]
    exact .of_inTurn (called.frame rfl rfl) rfl
  · have marked := called.mark
    have turnId : (s.settleCall (.updateTurnStatus s.turn.turnId .thinking)
        outcome).markPersistenceDegraded.turn.turnId = s.turn.turnId := by
      obtain ⟨store, lateWrites, nextLateWrite, eq⟩ :=
        s.settleCall_eq (.updateTurnStatus s.turn.turnId .thinking) outcome
      obtain ⟨events, degraded⟩ := markPersistenceDegraded_eq
        (s.settleCall (.updateTurnStatus s.turn.turnId .thinking) outcome)
      rw [degraded, eq]
    refine .startFailed marked.kept _ (fun going => ?_) (fun _ => nofun)
      (fun going write member start => ?_)
    · exact (marked.turning going).handling.only.imp fun _ _ same => .inl (by rw [same, turnId])
    · exact absurd (((marked.turning going).handling.noStart write member).symm.trans start) (by simp)

/-! ## Every event -/

def throwsRun : LoopEvent → Bool
  | .runThrows _ => true
  | _ => false

/-- What breaks off the handling of a turn past its `catch` does not happen, and a start that is given up
can be waited for. -/
def Caught (s : PipelineVoiceLoop) (event : LoopEvent) : Prop :=
  event ≠ .startSettles (.timesOut false) ∧ (throwsRun event = true ∨ s.Timed event)

instance (s : PipelineVoiceLoop) (event : LoopEvent) : Decidable (s.Caught event) :=
  inferInstanceAs (Decidable (_ ∧ _))

section

variable (guarded : s.Guarded known)
include guarded

theorem Guarded.inTurn (phase : s.phase.isTurning = true) :
    s.InTurn known := by
  refine ⟨guarded.kept, fun going => ?_⟩
  have stage := guarded.stage going
  unfold Stage at stage
  cases at_ : s.phase <;> rw [at_] at phase stage <;> first | exact stage | cases phase

theorem Guarded.settled (phase : s.phase.isOver = true) (going : s.persistenceSessionEnding = false)
    :
    s.ledger.Settled known := by
  have stage := guarded.stage going
  unfold Stage at stage
  cases at_ : s.phase <;> rw [at_] at phase stage <;> first | exact stage | cases phase

theorem Guarded.recovering {candidate : Option Nat} {afterSequence : Nat} {step : RecoveryStep}
    (phase : s.phase = .recovering caller candidate afterSequence step)
    (going : s.persistenceSessionEnding = false) :
    s.ledger.Recovering known candidate afterSequence step ∧
      (caller = .turnFailure → s.nonCheckpointPersistenceDegraded = true) := by
  have stage := guarded.stage going
  rwa [Stage, phase] at stage

theorem Guarded.handle {event : LoopEvent} (caught : s.Caught event) :
    (s.handle event).Guarded known := by
  have handled := s.handled event
  generalize s.handle event = next at handled
  have kept := guarded.kept
  have timed (ofTurn : throwsRun event = false) : s.Timed event :=
    caught.2.resolve_left fun ofRun => absurd (ofTurn.symm.trans ofRun) (by simp)
  cases handled with
  | gateRecovered phase | gateFailed phase => exact guarded.passGate phase _
  | start outcome phase =>
    exact guarded.startSettled phase fun lost => caught.1 (congrArg LoopEvent.startSettles lost)
  | thinking outcome setUp phase =>
    exact .thinkingSettled (guarded.inTurn (congrArg TranscriptPhase.isTurning phase)) outcome setUp
      (by simpa [readsClock, phase] using (timed rfl).1) (timed rfl).2
  | prompt instruction phase | answer text phase =>
    exact .of_inTurn ((guarded.inTurn (congrArg TranscriptPhase.isTurning phase)).frame rfl rfl)
      (congrArg TranscriptPhase.isTurning phase)
  | callingTool outcome phase | toolCall outcome phase =>
    exact .bodyCallSettled (guarded.inTurn (congrArg TranscriptPhase.isTurning phase)) phase rfl rfl
      outcome (by simpa [readsClock, phase] using (timed rfl).1)
  | throws phase =>
    exact .throwTurn (guarded.inTurn (congrArg TranscriptPhase.isTurning phase))
      (by simpa [readsClock, phase] using (timed rfl).1)
  | silent phase => exact .deliverText (guarded.inTurn (congrArg TranscriptPhase.isTurning phase))
  | speaking outcome phase =>
    exact .speakingSettled (guarded.inTurn (congrArg TranscriptPhase.isTurning phase)) outcome
      (by simpa [readsClock, phase] using (timed rfl).1)
  | audio outputDelivered failed phase =>
    exact .audioSettled (guarded.inTurn (congrArg TranscriptPhase.isTurning phase)) outputDelivered
      failed (by simpa [readsClock, phase] using (timed rfl).1)
  | text attempted textDelivered alignedText phase =>
    exact .textSettled (guarded.inTurn (congrArg TranscriptPhase.isTurning phase)) _ alignedText
      (by simpa [readsClock, phase] using (timed rfl).1)
  | turnEnd cancelled outcome phase =>
    exact guarded.turnEndSettled (guarded.inTurn (congrArg TranscriptPhase.isTurning phase)) cancelled
      outcome (by simpa [readsClock, phase] using (timed rfl).1)
  | memory status phase =>
    exact .observe kept (guarded.settled (congrArg TranscriptPhase.isOver phase)) status false
  | read found phase =>
    exact .terminalReadSettled (guarded.inTurn (congrArg TranscriptPhase.isTurning phase)) found
  | failedTurnEnd outcome phase =>
    exact guarded.failedTurnEndSettled (guarded.inTurn (congrArg TranscriptPhase.isTurning phase)) outcome
  | finish phase =>
    exact .of_settled kept (guarded.settled (congrArg TranscriptPhase.isOver phase)) rfl
  | waited caller candidate afterSequence writes phase settled =>
    -- Every start that was waited for has settled.
    refine ⟨kept, fun going => ?_⟩
    obtain ⟨recovering, degraded⟩ := guarded.recovering phase going
    refine ⟨⟨recovering.opens, recovering.bound, fun write member start => ?_, by simp⟩, degraded⟩
    obtain ⟨-, _, ⟨⟩, waits⟩ := recovering.pending write member start
    exact absurd waits (settled write member)
  | session caller candidate afterSequence phase =>
    refine ⟨kept, fun going => ?_⟩
    obtain ⟨recovering, degraded⟩ := guarded.recovering phase going
    refine ⟨⟨recovering.opens, recovering.bound, fun write member start => ?_, ?_⟩, degraded⟩
    · exact absurd ((recovering.noStart (by simp) write member).symm.trans start) (by simp)
    · rintro currentTurnId ⟨⟩ turnId turn own found open_
      exact kept.current turnId own ⟨turn, found, open_⟩
  | turns caller candidate afterSequence currentTurnId phase =>
    exact .inspected kept (fun going => (guarded.recovering phase going).1)
      fun going => (guarded.recovering phase going).2
  | notInspected caller candidate afterSequence step phase reading =>
    refine ⟨kept, fun going => ?_⟩
    obtain ⟨recovering, degraded⟩ := guarded.recovering phase going
    have waited : ∀ writes, step ≠ .pendingWrites writes := by
      rcases reading with rfl | ⟨currentTurnId, rfl⟩ <;> simp
    exact ⟨recovering.goesOn waited (by simp), degraded⟩
  | write caller turnId afterSequence phase =>
    refine ⟨kept, fun going => ?_⟩
    obtain ⟨recovering, degraded⟩ := guarded.recovering phase going
    exact ⟨recovering.goesOn (by simp) (by simp), degraded⟩
  | written caller turnId afterSequence outcome phase =>
    exact .recoveryWriteSettled kept (fun going => (guarded.recovering phase going).1)
      (fun going => (guarded.recovering phase going).2) outcome
  | again caller candidate afterSequence phase =>
    refine .recoverFailedTurn kept (fun going => (guarded.recovering phase going).1.opens)
      (fun going => (guarded.recovering phase going).1.bound) (fun going write member start => ?_)
      fun going => (guarded.recovering phase going).2
    exact ((guarded.recovering phase going).1.pending write member start).1
  | giveUp caller candidate afterSequence step phase =>
    exact .recovered_none kept caller fun going => (guarded.recovering phase going).2
  | sessionEnded caller phase =>
    refine .afterSessionEnding kept ?_ caller
    cases ending : s.persistenceSessionEnding with
    | true => rfl
    | false =>
      have stage := guarded.stage ending
      rw [Stage, phase] at stage
      exact stage.elim
  | nothing => exact guarded

end

def stageState (s : PipelineVoiceLoop) :=
  (s.phase, s.turn.sequenceBeforeStart, s.turnState)

theorem Guarded.narrows (guarded : s.Guarded known) (narrows : s.ledger.Narrows t.ledger)
    (same : t.stageState = s.stageState) : t.Guarded known := by
  simp only [stageState, turnState, Prod.mk.injEq] at same
  obtain ⟨phase, sequenceBeforeStart, turnId, late, degraded⟩ := same
  refine ⟨guarded.kept.narrows narrows, fun going => ?_⟩
  have stage := guarded.stage (narrows.sessionEnding.symm.trans going)
  have sequence : t.store.turnSequence = s.store.turnSequence := narrows.store.sequence
  have turning (turning : s.Turning known) : t.Turning known := by
    refine ⟨?_, ?_⟩
    · rw [turnId]
      exact turning.handling.narrows narrows
    · rw [late, degraded]
      exact turning.late
  unfold Stage at stage ⊢
  rw [phase]
  split at stage
  · exact stage.narrows narrows
  · exact stage.narrows narrows
  · exact stage.narrows narrows
  · exact stage.narrows narrows
  · rw [sequenceBeforeStart, sequence, late, degraded]
    exact ⟨stage.1.narrows narrows, stage.2⟩
  · rw [degraded]
    exact ⟨stage.1.narrows narrows, stage.2⟩
  · exact stage
  · exact turning stage

theorem Guarded.frame (guarded : s.Guarded known) (sameLedger : t.ledger = s.ledger)
    (same : t.stageState = s.stageState) : t.Guarded known :=
  guarded.narrows (by rw [sameLedger]; exact .refl _) same

theorem Guarded.settleCall (guarded : s.Guarded known) (ends : call.endsTurn = true)
    (noStart : call.startsTurn = false) (outcome : CallOutcome) :
    (s.settleCall call outcome).Guarded known := by
  refine guarded.narrows (settleCall_narrows ends noStart outcome) ?_
  obtain ⟨store, lateWrites, nextLateWrite, called⟩ := s.settleCall_eq call outcome
  rw [called]
  rfl

theorem markCommitted_mem {writes : List LateWrite} {id : Nat} {write : LateWrite}
    (member : write ∈ writes.map fun other =>
      if other.id = id then { other with committed := true } else other) :
    ∃ was ∈ writes, was.id = write.id ∧ was.call = write.call ∧ was.tracked = write.tracked ∧
      (write.committed = false → was.committed = false) := by
  obtain ⟨was, before, rfl⟩ := List.mem_map.mp member
  refine ⟨was, before, ?_⟩
  split
  · exact ⟨rfl, rfl, rfl, nofun⟩
  · exact ⟨rfl, rfl, rfl, fun uncommitted => uncommitted⟩

section

variable (guarded : s.Guarded known)
include guarded

theorem Guarded.lateStart {write : LateWrite} (member : write ∈ s.lateWrites) {transcript : Text}
    (call : write.call = .startTurn transcript) (uncommitted : write.committed = false)
    (admitted : s.store.mayStart = true) {lateStarted : List Nat} :
    Guarded known
      { s with
        store := s.store.commit write.call
        lateWrites := s.lateWrites.map fun other =>
          if other.id = write.id then { other with committed := true } else other
        lateStarted := lateStarted } := by
  have pending : write.isPendingStart = true := by
    rw [LateWrite.isPendingStart, call, uncommitted]
    rfl
  have started : s.store.commit write.call = s.store.startTurn transcript := by
    rw [call]
    exact if_pos admitted
  refine ⟨startTurn_kept guarded.kept admitted transcript started
    (guarded.kept.sequence.trans (Nat.le_succ _)) (fun other marked => ?_) rfl, fun going => ?_⟩
  · obtain ⟨was, before, -, call_eq, tracked, -⟩ := markCommitted_mem marked
    exact ⟨was, before, call_eq, tracked⟩
  have excluded {P : Prop} (noStart : s.ledger.NoPendingStart) : P :=
    absurd ((noStart write member).symm.trans pending) (by simp)
  have stage := guarded.stage going
  unfold Stage at stage ⊢
  dsimp only
  split at stage
  · exact excluded stage.noStart
  · exact excluded stage.noStart
  · exact excluded stage.noStart
  · exact excluded stage.noStart
  · exact excluded stage.1.noStart
  · next caller candidate afterSequence step phase =>
    obtain ⟨recovering, degraded⟩ := stage
    obtain ⟨rfl, writes, rfl, -⟩ := recovering.pending write member pending
    refine ⟨⟨fun turnId turn own found open_ => .inr ⟨rfl, ?_⟩, fun _ => ?_,
      fun other marked start => ?_, nofun⟩, degraded⟩
    · change (s.store.commit write.call).turns[turnId]? = some turn at found
      rw [started] at found
      rw [(TurnStore.startTurn_open admitted transcript found open_).2]
      exact Nat.lt_succ_of_le (recovering.bound rfl)
    · change afterSequence ≤ (s.store.commit write.call).turnSequence
      rw [started]
      exact (recovering.bound rfl).trans (Nat.le_succ _)
    · obtain ⟨was, before, id_eq, call_eq, -, unmarked⟩ := markCommitted_mem marked
      rw [LateWrite.isPendingStart, Bool.and_eq_true, Bool.not_eq_true'] at start
      have wasPending : was.isPendingStart = true := by
        rw [LateWrite.isPendingStart, call_eq, start.1, unmarked start.2]
        rfl
      rw [← id_eq]
      exact recovering.pending was before wasPending
  · exact stage
  · exact excluded stage.handling.noStart

theorem Guarded.lateCommitted (id : Nat) :
    (s.lateCommitted id).Guarded known := by
  unfold PipelineVoiceLoop.lateCommitted
  split
  · exact guarded
  · next write found =>
    have member := List.mem_of_find?_eq_some found
    have matched := List.find?_some found
    rw [Bool.and_eq_true, decide_eq_true_iff, Bool.not_eq_true'] at matched
    obtain ⟨rfl, uncommitted⟩ := matched
    by_cases starts : write.call.startsTurn = true ∧ s.store.mayStart = true
    · cases call : write.call with
      | startTurn transcript =>
        rw [← call]
        exact guarded.lateStart member call uncommitted starts.2
      | _ =>
        rw [call] at starts
        cases starts.1
    · refine guarded.narrows ⟨?_, fun other marked => .inr (markCommitted_mem marked), rfl, rfl, rfl,
        rfl⟩ rfl
      cases call : write.call.startsTurn with
      | false => exact TurnStore.commit_narrows (guarded.kept.late write member).1 call
      | true =>
        -- The store refuses the start.
        have refused : s.store.commit write.call = s.store := by
          cases of : write.call with
          | startTurn transcript => exact if_neg fun admitted => starts ⟨call, admitted⟩
          | _ =>
            rw [of] at call
            cases call
        change s.store.Narrows (s.store.commit write.call)
        rw [refused]
        exact .refl _

theorem Guarded.checkpointFailed : s.checkpointFailed.Guarded known := by
  unfold PipelineVoiceLoop.checkpointFailed
  cases ending : s.persistenceSessionEnding with
  | true => exact guarded.frame rfl rfl
  | false => exact .of_ending (beginSessionEnding_kept guarded.kept ending) rfl

theorem Guarded.endRun (reason : TerminalKind) (resolves : Bool) :
    (s.endRun reason resolves).Guarded known := by
  have emit {t : PipelineVoiceLoop} (guarded : t.Guarded known) (event : VoiceEvent) :
      (t.emitVoiceEvent event).Guarded known := by
    obtain ⟨events, emitted⟩ := t.emitVoiceEvent_eq event
    rw [emitted]
    exact guarded.frame rfl rfl
  unfold PipelineVoiceLoop.endRun
  split
  · exact (emit guarded _).frame rfl rfl
  · exact (emit (emit guarded _) _).frame rfl rfl

theorem Guarded.step {event : LoopEvent} (caught : s.Caught event) :
    (s.step event).Guarded known := by
  cases event with
  | speaks transcript =>
    rw [PipelineVoiceLoop.step, enqueueTranscript]
    split
    · exact guarded
    · exact guarded.frame rfl rfl
  | inputEnds | signalAborts | shutsDown | clockIsLost => exact guarded.frame rfl rfl
  | begins =>
    rw [PipelineVoiceLoop.step, beginNext]
    split
    · next idle _ => exact .of_settled guarded.kept (guarded.settled (by rw [idle]; rfl)) rfl
    · exact guarded
  | runEnds reason resolves =>
    rw [PipelineVoiceLoop.step]
    split
    · exact guarded.endRun reason resolves
    · exact guarded
  | runThrows reason =>
    rw [PipelineVoiceLoop.step]
    split
    · exact guarded
    · exact guarded.endRun reason false
  | emits =>
    obtain ⟨events, emitted⟩ := s.emitVoiceEvent_eq .output
    rw [PipelineVoiceLoop.step, emitted]
    exact guarded.frame rfl rfl
  | interrupted cause =>
    rw [PipelineVoiceLoop.step, interrupt]
    split
    · exact guarded.frame rfl rfl
    · exact guarded
  | abortsActive reason =>
    rw [PipelineVoiceLoop.step]
    split
    · unfold PipelineVoiceLoop.abortActive
      split
      · exact guarded.frame rfl rfl
      · exact guarded
    · exact guarded
  | checkpointCommits =>
    rw [PipelineVoiceLoop.step]
    split
    · have written : (s.settleCall (.checkpointTurnInterruption s.turn.turnId) .resolves).Guarded known :=
        guarded.settleCall rfl rfl .resolves
      exact written.frame rfl rfl
    · exact guarded
  | checkpointWrites =>
    rw [PipelineVoiceLoop.step]
    split
    · exact guarded
    · have written : (s.settleCall (.checkpointTurnInterruption s.turn.turnId) .resolves).Guarded known :=
        guarded.settleCall rfl rfl .resolves
      exact written
  | checkpointDegrades timedOut =>
    have mark {t : PipelineVoiceLoop} (guarded : t.Guarded known) :
        t.markCheckpointPersistenceDegraded.Guarded known := by
      obtain ⟨events, marked⟩ := t.markCheckpointPersistenceDegraded_eq
      rw [marked]
      exact guarded.frame rfl rfl
    rw [PipelineVoiceLoop.step]
    split
    · exact guarded
    · unfold PipelineVoiceLoop.checkpointDegraded
      split
      · exact mark (guarded.settleCall rfl rfl _)
      · exact mark guarded
  | checkpointFails =>
    rw [PipelineVoiceLoop.step]
    split
    · exact guarded.checkpointFailed
    · exact guarded
  | checkpointEnds =>
    rw [PipelineVoiceLoop.step]
    split
    · exact guarded.frame rfl rfl
    · exact guarded
  | lateCommits id => exact guarded.lateCommitted id
  | lateSettles id =>
    refine guarded.narrows ⟨.refl _, fun write member => .inr ?_, rfl, rfl, rfl, rfl⟩ rfl
    exact ⟨write, (List.mem_filter.mp member).1, rfl, rfl, rfl, fun uncommitted => uncommitted⟩
  | abandons turnId =>
    rw [PipelineVoiceLoop.step]
    split
    · have abandoned : (s.settleCall (.endTurn turnId .cancelled none) .resolves).Guarded known :=
        guarded.settleCall rfl rfl .resolves
      exact abandoned
    · exact guarded
  | sessionEnds failed =>
    exact guarded.narrows ⟨TurnStore.endSession_narrows failed,
      fun write member => .inr ⟨write, member, rfl, rfl, rfl, fun uncommitted => uncommitted⟩,
      rfl, rfl, rfl, rfl⟩ rfl
  | _ => exact guarded.handle caught

end

theorem guarded_new (audioTap : Bool) (store : TurnStore) :
    (new audioTap store).Guarded store.turns.length := by
  have none_own {turnId : Nat} {turn : StoredTurn} (own : store.turns.length ≤ turnId)
      (found : store.turns[turnId]? = some turn) : False := by
    rw [List.getElem?_eq_none own] at found
    cases found
  refine ⟨⟨?_, Nat.le_refl _, nofun, rfl, nofun⟩, fun _ => ⟨?_, nofun⟩⟩
  · rintro turnId own ⟨turn, found, -⟩
    exact (none_own own found).elim
  · exact fun turnId turn own found _ => none_own own found

/-- Whenever the loop has called `startTurn`, the session was not being ended, and every turn it had
started before was terminal, one whose start had failed or was given up included. The session is ended
once at most. -/
theorem no_second_open_turn {audioTap : Bool} {store : TurnStore} {events : List LoopEvent}
    (caught : Lib.Admitted Caught step (new audioTap store) events) :
    (∀ call ∈ (after audioTap store events).startCalls, call.Alone store.turns.length) ∧
      (after audioTap store events).sessionEndings ≤ 1 := by
  have guarded : (after audioTap store events).Guarded store.turns.length :=
    Lib.run_invariant_of_admitted (Guarded store.turns.length)
      (fun _ _ caught guarded => guarded.step caught) (guarded_new audioTap store) caught
  refine ⟨guarded.kept.starts, guarded.kept.endings.trans_le ?_⟩
  split
  · exact Nat.le_refl 1
  · exact Nat.zero_le 1

/-- The start of a turn is given up and commits all the same; the recovery waits for it, finds the turn and
ends it, and the next transcript is started. -/
def lateTurn : List LoopEvent :=
  [.speaks [104], .speaks [105], .begins, .gateResolves, .startSettles (.timesOut true), .lateCommits 0,
    .lateSettles 0, .pendingWritesSettle, .sessionRead, .turnsRead, .recoveryWrites,
    .recoveryWriteSettles .resolves, .begins, .gateResolves]

theorem no_second_open_turn_lateTurn :
    (after false ⟨[], 0, none, true⟩ lateTurn).startCalls.length = 2 ∧
    (∀ call ∈ (after false ⟨[], 0, none, true⟩ lateTurn).startCalls, call.Alone 0) :=
  ⟨by decide, (@no_second_open_turn false ⟨[], 0, none, true⟩ lateTurn (by decide)).1⟩

/-- The incremental TTS input of the first turn cannot be set up. -/
def brokenSetUp : List LoopEvent :=
  [.speaks [104], .speaks [105], .begins, .gateResolves, .startSettles .resolves,
    .thinkingSettles .resolves { incrementalTtsInputThrows := true }, .begins, .gateResolves]

/-- The next turn is started while the first is open. -/
theorem brokenSetUp_notAlone :
    ¬ ∀ call ∈ (after false ⟨[], 0, none, true⟩ brokenSetUp).startCalls, call.Alone 0 := by
  intro alone
  have called : (⟨⟨[⟨1, [104], .thinking, none⟩], 1, some 0, true⟩, [], false⟩ : StartCall) ∈
      (after false ⟨[], 0, none, true⟩ brokenSetUp).startCalls := by decide
  exact (alone _ called).2.1 0 (Nat.le_refl 0) ⟨_, rfl, rfl⟩

end PipelineVoiceLoop

end Tvic
