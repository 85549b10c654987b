import Mathlib.Data.List.Basic
import Mathlib.Order.Defs.LinearOrder

/-!
# The checkpoint of an interruption

`persistInterruptionCheckpoint` of `packages/runtime/src/persistence-policy.ts`. The clock counts whole
milliseconds and timers are exact; what each call of `checkpointTurnInterruption` comes to is given.

The first loop has its own budget of attempts and of time. What it leaves undone the second loop tries again
until the recovery deadline, whether or not the budget of the first is spent.
-/
namespace Tvic

structure WriteSettlement where
  afterMs : Nat
  /-- Of a timer that is due at the same moment, whether the promise comes before it. -/
  beforeTimer : Bool := true
  deriving DecidableEq, Repr

/-- An error, as `isRetryablePersistenceFailure` and `criticalWriteLateSettlement` read it. -/
inductive PersistenceFailure where
  | durable (retriable : Bool)
  | normalized (retriable : Bool)
  /-- A `CriticalWriteTimeoutError`, and when the transaction settles that it leaves behind, if ever. -/
  | criticalWriteTimeout (lateSettlement : Option WriteSettlement)
  | unknown
  deriving DecidableEq, Repr

namespace PersistenceFailure

def backendUnavailable : PersistenceFailure := .durable true

def isRetryable : PersistenceFailure → Bool
  | durable retriable => retriable
  | normalized retriable => retriable
  | criticalWriteTimeout _ => true
  | unknown => true

end PersistenceFailure

/-- What a call of `checkpointTurnInterruption` comes to. -/
structure CheckpointBehaviour where
  /-- `none` where the promise never settles. -/
  settles : Option WriteSettlement
  /-- `none` where the promise is fulfilled. -/
  rejection : Option PersistenceFailure := none
  deriving DecidableEq, Repr

structure CheckpointPolicy where
  bargeCheckpointMaxAttempts : Nat := 3
  bargeCheckpointRetryBudgetMs : Nat := 500

structure CheckpointInput where
  durablePolicy : Option CheckpointPolicy := none
  recoveryDeadlineMs : Nat
  /-- The calls of `checkpointTurnInterruption`, by how many there were before. -/
  checkpointTurnInterruption : Nat → CheckpointBehaviour
  onFatalMs : Nat := 0

namespace CheckpointInput

variable (input : CheckpointInput)

def maxAttempts : Nat := (input.durablePolicy.map (·.bargeCheckpointMaxAttempts)).getD 3

def retryBudgetMs : Nat := (input.durablePolicy.map (·.bargeCheckpointRetryBudgetMs)).getD 500

end CheckpointInput

structure CheckpointAttempt where
  startedAtMs : Nat
  /-- Started by the second loop. -/
  grace : Bool
  behaviour : CheckpointBehaviour
  deriving DecidableEq, Repr

structure CheckpointRun where
  nowMs : Nat
  grace : Bool := false
  attempts : List CheckpointAttempt := []
  lastError : Option PersistenceFailure := none
  pendingCheckpointWrite : Bool := false
  onDegraded : List PersistenceFailure := []
  onRecovered : Nat := 0
  /-- The error of each call, and whether it was given a pending write. -/
  onFatal : List (PersistenceFailure × Bool) := []
  deriving DecidableEq, Repr

inductive CheckpointOutcome where
  | completed
  | rejected (error : PersistenceFailure)
  | timeout (pending : Bool)
  deriving DecidableEq, Repr

/-- How a loop is left. -/
inductive CheckpointLoopEnd where
  | recovered (s : CheckpointRun)
  | left (s : CheckpointRun)
  deriving DecidableEq, Repr

def CheckpointLoopEnd.run : CheckpointLoopEnd → CheckpointRun
  | recovered s => s
  | left s => s

/-- Whether a promise settles before the deadline, and when that is known. -/
def settlePromiseUntil (settlesAt : Option (Nat × Bool)) (deadlineMs nowMs : Nat) : Bool × Nat :=
  if deadlineMs ≤ nowMs then (false, nowMs)
  else
    match settlesAt with
    | none => (false, deadlineMs)
    | some (atMs, beforeTimer) =>
      if atMs < deadlineMs ∨ atMs = deadlineMs ∧ beforeTimer then (true, max nowMs atMs)
      else (false, deadlineMs)

/-- The moment of a settlement that is counted from another one. -/
def WriteSettlement.from (settlement : WriteSettlement) (nowMs : Nat) : Nat × Bool :=
  (nowMs + settlement.afterMs, settlement.beforeTimer)

namespace CheckpointRun

variable (input : CheckpointInput)

def waitMs (durationMs : Nat) (s : CheckpointRun) : CheckpointRun := { s with nowMs := s.nowMs + durationMs }

def attemptCheckpoint (s : CheckpointRun) : CheckpointOutcome × CheckpointRun :=
  if input.recoveryDeadlineMs ≤ s.nowMs then (.timeout false, s)
  else
    let behaviour := input.checkpointTurnInterruption s.attempts.length
    let attempts := s.attempts ++ [{ startedAtMs := s.nowMs, grace := s.grace, behaviour }]
    match settlePromiseUntil (behaviour.settles.map (·.from s.nowMs)) input.recoveryDeadlineMs s.nowMs with
    | (false, nowMs) => (.timeout true, { s with nowMs, attempts })
    | (true, nowMs) =>
      match behaviour.rejection with
      | none => (.completed, { s with nowMs, attempts })
      | some error => (.rejected error, { s with nowMs, attempts })

/-- What both loops do after an error that may be retried: whether they go on. -/
def settleLateWrite (error : PersistenceFailure) (s : CheckpointRun) : Bool × CheckpointRun :=
  match error with
  | .criticalWriteTimeout lateSettlement =>
    match settlePromiseUntil (lateSettlement.map (·.from s.nowMs)) input.recoveryDeadlineMs s.nowMs with
    | (settled, nowMs) => (settled, { s with nowMs })
  | _ => (true, s)

/-- The first loop, with the attempts that are left and those that were made. -/
def retryLoop (initialRetryDeadline : Nat) : Nat → Nat → CheckpointRun → CheckpointLoopEnd
  | 0, _, s => .left s
  | more + 1, attempts, s =>
    if 0 < attempts ∧ initialRetryDeadline ≤ s.nowMs then .left s
    else
      let s := if 0 < attempts then s.waitMs (min (50 * attempts) (initialRetryDeadline - s.nowMs)) else s
      match s.attemptCheckpoint input with
      | (.completed, s) => .recovered s
      | (.timeout pending, s) =>
        .left { s with
          lastError := some .backendUnavailable
          pendingCheckpointWrite := pending
          onDegraded := s.onDegraded ++ [.backendUnavailable] }
      | (.rejected error, s) =>
        let s := { s with lastError := some error, onDegraded := s.onDegraded ++ [error] }
        if ¬ error.isRetryable then .left s
        else
          match s.settleLateWrite input error with
          | (false, s) => .left s
          | (true, s) => retryLoop initialRetryDeadline more (attempts + 1) s

theorem le_settlePromiseUntil (settlesAt : Option (Nat × Bool)) (deadlineMs nowMs : Nat) :
    nowMs ≤ (settlePromiseUntil settlesAt deadlineMs nowMs).2 := by
  unfold settlePromiseUntil
  split
  · exact Nat.le_refl nowMs
  · split
    · simp only
      omega
    · split
      · exact Nat.le_max_left _ _
      · simp only
        omega

theorem le_attemptCheckpoint (s : CheckpointRun) : s.nowMs ≤ (s.attemptCheckpoint input).2.nowMs := by
  unfold attemptCheckpoint
  split
  · exact Nat.le_refl s.nowMs
  · have later := le_settlePromiseUntil
      ((input.checkpointTurnInterruption s.attempts.length).settles.map (·.from s.nowMs))
      input.recoveryDeadlineMs s.nowMs
    simp only
    split
    next race => simpa [race] using later
    next race =>
      rw [race] at later
      split <;> exact later

theorem le_settleLateWrite (error : PersistenceFailure) (s : CheckpointRun) :
    s.nowMs ≤ (s.settleLateWrite input error).2.nowMs := by
  cases error with
  | criticalWriteTimeout lateSettlement => exact le_settlePromiseUntil _ _ _
  | _ => exact Nat.le_refl s.nowMs

def graceLoop (s : CheckpointRun) : CheckpointLoopEnd :=
  if input.recoveryDeadlineMs ≤ s.nowMs then .left s
  else
    let waited := s.waitMs (min 50 (max 1 (input.recoveryDeadlineMs - s.nowMs)))
    if input.recoveryDeadlineMs ≤ waited.nowMs then .left waited
    else
      match attempted : waited.attemptCheckpoint input with
      | (.completed, s) => .recovered s
      | (.timeout pending, s) =>
        .left { s with lastError := some .backendUnavailable, pendingCheckpointWrite := pending }
      | (.rejected error, rejected) =>
        let failed := { rejected with lastError := some error }
        if ¬ error.isRetryable then .left failed
        else
          match late : failed.settleLateWrite input error with
          | (false, settled) => .left settled
          | (true, settled) => graceLoop settled
termination_by input.recoveryDeadlineMs - s.nowMs
decreasing_by
  -- the wait is of at least a millisecond, and the clock does not go back
  have first := le_attemptCheckpoint input waited
  have second := le_settleLateWrite input error failed
  rw [attempted] at first
  rw [late] at second
  have ahead : s.nowMs + 1 ≤ waited.nowMs := by
    simp only [waited, waitMs]
    omega
  have ended : rejected.nowMs ≤ settled.nowMs := second
  have tried : waited.nowMs ≤ rejected.nowMs := first
  omega

end CheckpointRun

open CheckpointRun in
/-- What the promise of the call is fulfilled with, and the run. -/
def persistInterruptionCheckpoint (input : CheckpointInput) (startedAtMs : Nat) : Bool × CheckpointRun :=
  let initialRetryDeadline := min (startedAtMs + input.retryBudgetMs) input.recoveryDeadlineMs
  let fatal (s : CheckpointRun) (error : PersistenceFailure) :=
    { s with nowMs := s.nowMs + input.onFatalMs, onFatal := s.onFatal ++ [(error, s.pendingCheckpointWrite)] }
  match retryLoop input initialRetryDeadline input.maxAttempts 0 { nowMs := startedAtMs } with
  | .recovered s => (true, { s with onRecovered := s.onRecovered + 1 })
  | .left s =>
    let lastError := s.lastError.getD .backendUnavailable
    if ¬ lastError.isRetryable then (false, fatal s lastError)
    else
      match graceLoop input { s with grace := true, lastError := some lastError } with
      | .recovered s => (true, { s with onRecovered := s.onRecovered + 1 })
      | .left s => (false, fatal s (s.lastError.getD lastError))

/-! ## What a call does -/

namespace CheckpointAttempt

variable (a : CheckpointAttempt)

/-- When the transaction of the attempt settles, if ever: after a critical-write timeout, with the late write. -/
def transactionSettlesAt : Option Nat :=
  a.behaviour.settles.bind fun settlement =>
    match a.behaviour.rejection with
    | some (.criticalWriteTimeout lateSettlement) =>
      lateSettlement.map fun late => a.startedAtMs + settlement.afterMs + late.afterMs
    | _ => some (a.startedAtMs + settlement.afterMs)

def SettledBy (nowMs : Nat) : Prop := ∃ settledAtMs ∈ a.transactionSettlesAt, settledAtMs ≤ nowMs

/-- The attempt is rejected with an error that is not retriable. -/
def RejectedForGood : Prop := ∃ error ∈ a.behaviour.rejection, error.isRetryable = false

/-- Another attempt may be started at the moment. -/
def Allows (nowMs : Nat) : Prop := a.SettledBy nowMs ∧ ¬ a.RejectedForGood

variable {a}

theorem Allows.mono {nowMs laterMs : Nat} (allows : a.Allows nowMs) (le : nowMs ≤ laterMs) :
    a.Allows laterMs := by
  obtain ⟨⟨settledAtMs, settles, before⟩, retriable⟩ := allows
  exact ⟨⟨settledAtMs, settles, Nat.le_trans before le⟩, retriable⟩

end CheckpointAttempt

/-- What is said of a call that began at a moment. -/
structure CheckpointContract (input : CheckpointInput) (startedAtMs : Nat) (verdict : Bool)
    (run : CheckpointRun) : Prop where
  /-- No attempt is started while the transaction of an earlier one is open, or after a final rejection. -/
  spaced : run.attempts.Pairwise fun earlier later => earlier.Allows later.startedAtMs
  beforeDeadline : ∀ a ∈ run.attempts, a.startedAtMs < input.recoveryDeadlineMs
  firstLoop : (run.attempts.countP fun a => ¬ a.grace) ≤ input.maxAttempts
  ends : run.nowMs ≤ max startedAtMs input.recoveryDeadlineMs + (if verdict then 0 else input.onFatalMs)
  reported : verdict = true ∧ run.onRecovered = 1 ∧ run.onFatal.length = 0 ∨
    verdict = false ∧ run.onRecovered = 0 ∧ run.onFatal.length = 1

namespace CheckpointRun

variable {input : CheckpointInput} {startedAtMs made : Nat} {s : CheckpointRun} {error : PersistenceFailure}

/-- What holds in a run until it is reported, when the first loop has made so many attempts. -/
structure Begun (input : CheckpointInput) (startedAtMs made : Nat) (s : CheckpointRun) : Prop where
  spaced : s.attempts.Pairwise fun earlier later => earlier.Allows later.startedAtMs
  beforeDeadline : ∀ a ∈ s.attempts, a.startedAtMs < input.recoveryDeadlineMs
  firstLoop : (s.attempts.countP fun a => ¬ a.grace) ≤ made
  within : s.nowMs ≤ max startedAtMs input.recoveryDeadlineMs
  unreported : s.onRecovered = 0 ∧ s.onFatal = []

/-- A run that may start another attempt. -/
structure Ready (input : CheckpointInput) (startedAtMs made : Nat) (s : CheckpointRun) : Prop
    extends Begun input startedAtMs made s where
  allows : ∀ a ∈ s.attempts, a.Allows s.nowMs

/-- A run whose last attempt was rejected just now. -/
structure Rejected (input : CheckpointInput) (startedAtMs made : Nat) (error : PersistenceFailure)
    (s : CheckpointRun) : Prop extends Begun input startedAtMs made s where
  rejected : ∃ before last settlement, s.attempts = before ++ [last] ∧
    (∀ a ∈ before, a.Allows s.nowMs) ∧ last.behaviour = ⟨some settlement, some error⟩ ∧
    last.startedAtMs + settlement.afterMs = s.nowMs

theorem Begun.noted (begun : Begun input startedAtMs made s) (lastError : Option PersistenceFailure)
    (pendingCheckpointWrite : Bool) (onDegraded : List PersistenceFailure) :
    Begun input startedAtMs made { s with lastError, pendingCheckpointWrite, onDegraded } :=
  ⟨begun.spaced, begun.beforeDeadline, begun.firstLoop, begun.within, begun.unreported⟩

theorem Rejected.noted (rejected : Rejected input startedAtMs made error s)
    (lastError : Option PersistenceFailure) (onDegraded : List PersistenceFailure) :
    Rejected input startedAtMs made error { s with lastError, onDegraded } :=
  { rejected.toBegun.noted lastError s.pendingCheckpointWrite onDegraded with rejected := rejected.rejected }

theorem Ready.wait (ready : Ready input startedAtMs made s) {durationMs : Nat}
    (within : s.nowMs + durationMs ≤ max startedAtMs input.recoveryDeadlineMs) :
    Ready input startedAtMs made (s.waitMs durationMs) :=
  { ready with
    within
    allows := fun a member => (ready.allows a member).mono (Nat.le_add_right _ _) }

theorem settlePromiseUntil_cases (settlesAt : Option (Nat × Bool)) (deadlineMs nowMs : Nat) :
    (∃ laterMs, settlePromiseUntil settlesAt deadlineMs nowMs = (false, laterMs) ∧ deadlineMs ≤ laterMs ∧
      laterMs ≤ max nowMs deadlineMs) ∨
    ∃ atMs beforeTimer, settlesAt = some (atMs, beforeTimer) ∧
      settlePromiseUntil settlesAt deadlineMs nowMs = (true, max nowMs atMs) ∧ nowMs < deadlineMs ∧
      atMs ≤ deadlineMs := by
  unfold settlePromiseUntil
  split
  next passed => exact .inl ⟨nowMs, rfl, passed, Nat.le_max_left _ _⟩
  next ahead =>
    cases settlesAt with
    | none => exact .inl ⟨deadlineMs, rfl, Nat.le_refl _, Nat.le_max_right _ _⟩
    | some settlement =>
      obtain ⟨atMs, beforeTimer⟩ := settlement
      simp only
      split
      next settles => exact .inr ⟨atMs, beforeTimer, rfl, rfl, by omega, by omega⟩
      next late => exact .inl ⟨deadlineMs, rfl, Nat.le_refl _, Nat.le_max_right _ _⟩

theorem Ready.attempt (ready : Ready input startedAtMs made s) :
    ∃ outcome t, s.attemptCheckpoint input = (outcome, t) ∧ t.grace = s.grace ∧
      Begun input startedAtMs (made + if s.grace then 0 else 1) t ∧
      (∀ pending, outcome = .timeout pending → input.recoveryDeadlineMs ≤ t.nowMs) ∧
      ∀ error, outcome = .rejected error →
        Rejected input startedAtMs (made + if s.grace then 0 else 1) error t := by
  unfold attemptCheckpoint
  by_cases passed : input.recoveryDeadlineMs ≤ s.nowMs
  · rw [if_pos passed]
    refine ⟨_, _, rfl, rfl, ?_, fun pending _ => passed, (fun error is => nomatch is)⟩
    exact { ready.toBegun with firstLoop := Nat.le_trans ready.firstLoop (Nat.le_add_right _ _) }
  rw [if_neg passed]
  simp only
  generalize called : input.checkpointTurnInterruption s.attempts.length = behaviour
  generalize made_now : ({ startedAtMs := s.nowMs, grace := s.grace, behaviour } : CheckpointAttempt) = last
  -- the attempt is started before the deadline, and all earlier ones allow it
  have begun : ∀ laterMs, s.nowMs ≤ laterMs → laterMs ≤ max startedAtMs input.recoveryDeadlineMs →
      Begun input startedAtMs (made + if s.grace then 0 else 1)
        { s with nowMs := laterMs, attempts := s.attempts ++ [last] } := by
    intro laterMs later within
    constructor
    · refine List.pairwise_append.mpr ⟨ready.spaced, List.pairwise_singleton _ _, ?_⟩
      intro a member b is_last
      rw [List.mem_singleton.mp is_last, ← made_now]
      exact ready.allows a member
    · intro a member
      rcases List.mem_append.mp member with earlier | is_last
      · exact ready.beforeDeadline a earlier
      · rw [List.mem_singleton.mp is_last, ← made_now]
        exact Nat.lt_of_not_le passed
    · rw [List.countP_append, List.countP_singleton, ← made_now]
      have few := ready.firstLoop
      cases s.grace <;> simpa using few
    · exact within
    · exact ready.unreported
  rcases settlePromiseUntil_cases (behaviour.settles.map (·.from s.nowMs)) input.recoveryDeadlineMs s.nowMs with
    ⟨laterMs, race, reached, upTo⟩ | ⟨atMs, beforeTimer, settles, race, -, upTo⟩
  · rw [race]
    refine ⟨_, _, rfl, rfl, begun laterMs (by omega) (by omega), fun pending _ => reached, ?_⟩
    exact fun error is => nomatch is
  · rw [race]
    obtain ⟨settlement, is_some, counted⟩ := Option.map_eq_some_iff.mp settles
    obtain rfl : s.nowMs + settlement.afterMs = atMs := congrArg Prod.fst counted
    have ended : max s.nowMs (s.nowMs + settlement.afterMs) = s.nowMs + settlement.afterMs := by omega
    rw [ended]
    have after := begun (s.nowMs + settlement.afterMs) (by omega) (by omega)
    cases rejection : behaviour.rejection with
    | none => exact ⟨_, _, rfl, rfl, after, (fun pending is => nomatch is), (fun error is => nomatch is)⟩
    | some error =>
      refine ⟨_, _, rfl, rfl, after, (fun pending is => nomatch is), ?_⟩
      rintro other ⟨⟩
      refine { after with rejected := ⟨s.attempts, last, settlement, rfl, ?_, ?_, ?_⟩ }
      · exact fun a member => (ready.allows a member).mono (Nat.le_add_right _ _)
      · rw [← made_now]
        cases behaviour
        cases is_some
        cases rejection
        rfl
      · rw [← made_now]

theorem Rejected.settleLateWrite (rejected : Rejected input startedAtMs made error s)
    (retryable : error.isRetryable = true) :
    ∃ goesOn t, s.settleLateWrite input error = (goesOn, t) ∧ t.grace = s.grace ∧
      t.lastError = s.lastError ∧ Begun input startedAtMs made t ∧
      (goesOn = false → input.recoveryDeadlineMs ≤ t.nowMs) ∧
      (goesOn = true → Ready input startedAtMs made t) := by
  obtain ⟨before, last, settlement, attempts, allows, behaviour, settledAt⟩ := rejected.rejected
  have final : ¬ last.RejectedForGood := by
    rintro ⟨other, is_error, final⟩
    rw [behaviour] at is_error
    cases is_error
    exact absurd retryable (by simp [final])
  have ready : ∀ laterMs, s.nowMs ≤ laterMs → laterMs ≤ max startedAtMs input.recoveryDeadlineMs →
      last.SettledBy laterMs → Ready input startedAtMs made { s with nowMs := laterMs } := by
    intro laterMs later within settled
    refine { rejected.toBegun with within, allows := ?_ }
    intro a member
    have parts : a ∈ before ++ [last] := attempts ▸ member
    rcases List.mem_append.mp parts with earlier | is_last
    · exact (allows a earlier).mono later
    · rw [List.mem_singleton.mp is_last]
      exact ⟨settled, final⟩
  have within := rejected.within
  cases error with
  | criticalWriteTimeout lateSettlement =>
    unfold CheckpointRun.settleLateWrite
    simp only
    rcases settlePromiseUntil_cases (lateSettlement.map (·.from s.nowMs)) input.recoveryDeadlineMs s.nowMs with
      ⟨laterMs, race, reached, upTo⟩ | ⟨atMs, beforeTimer, settles, race, -, upTo⟩
    · rw [race]
      refine ⟨_, _, rfl, rfl, rfl, ?_, fun _ => reached, (fun is => nomatch is)⟩
      exact { rejected.toBegun with within := by simp only; omega }
    · rw [race]
      obtain ⟨late, is_some, counted⟩ := Option.map_eq_some_iff.mp settles
      obtain rfl : s.nowMs + late.afterMs = atMs := congrArg Prod.fst counted
      have settled : last.SettledBy (max s.nowMs (s.nowMs + late.afterMs)) := by
        refine ⟨s.nowMs + late.afterMs, ?_, Nat.le_max_right _ _⟩
        simp [CheckpointAttempt.transactionSettlesAt, behaviour, is_some, settledAt]
      have next := ready _ (Nat.le_max_left _ _) (by omega) settled
      exact ⟨_, _, rfl, rfl, rfl, next.toBegun, (fun is => nomatch is), fun _ => next⟩
  | _ =>
    have settled : last.SettledBy s.nowMs := by
      refine ⟨s.nowMs, ?_, Nat.le_refl _⟩
      simp [CheckpointAttempt.transactionSettlesAt, behaviour, settledAt]
    have next := ready s.nowMs (Nat.le_refl _) within settled
    exact ⟨_, _, rfl, rfl, rfl, next.toBegun, (fun is => nomatch is), fun _ => next⟩

theorem Ready.retryLoop {initialRetryDeadline : Nat} (early : initialRetryDeadline ≤ input.recoveryDeadlineMs)
    (more attempts : Nat) (ready : Ready input startedAtMs made s) (first : s.grace = false) :
    match CheckpointRun.retryLoop input initialRetryDeadline more attempts s with
    | .recovered t => Begun input startedAtMs (made + more) t
    | .left t => Begun input startedAtMs (made + more) t ∧
        ((t.lastError.getD .backendUnavailable).isRetryable = true → t.nowMs < input.recoveryDeadlineMs →
          Ready input startedAtMs (made + more) t) := by
  induction more generalizing s made attempts with
  | zero => exact ⟨ready.toBegun, fun _ _ => ready⟩
  | succ more ih =>
    have more_made : ∀ t, Begun input startedAtMs made t → Begun input startedAtMs (made + (more + 1)) t :=
      fun t begun => { begun with firstLoop := Nat.le_trans begun.firstLoop (Nat.le_add_right _ _) }
    have once_more : ∀ t, Begun input startedAtMs (made + 1) t →
        Begun input startedAtMs (made + (more + 1)) t :=
      fun t begun => { begun with firstLoop := Nat.le_trans begun.firstLoop (by omega) }
    unfold CheckpointRun.retryLoop
    by_cases spent : 0 < attempts ∧ initialRetryDeadline ≤ s.nowMs
    · rw [if_pos spent]
      exact ⟨more_made s ready.toBegun, fun _ _ => { more_made s ready.toBegun with allows := ready.allows }⟩
    rw [if_neg spent]
    simp only
    generalize waits : (if 0 < attempts then
      s.waitMs (min (50 * attempts) (initialRetryDeadline - s.nowMs)) else s) = waited
    have waited_ready : Ready input startedAtMs made waited ∧ waited.grace = false := by
      have within := ready.within
      rw [← waits]
      split
      · exact ⟨ready.wait (by omega), first⟩
      · exact ⟨ready, first⟩
    obtain ⟨outcome, t, attempted, same, begun, timedOut, failed⟩ := waited_ready.1.attempt
    rw [waited_ready.2] at same begun failed
    simp only [Bool.false_eq_true, ↓reduceIte] at begun failed
    rw [attempted]
    cases outcome with
    | completed => exact once_more t begun
    | timeout pending =>
      refine ⟨once_more _ (begun.noted _ _ _), fun _ before => ?_⟩
      exact absurd (timedOut pending rfl) (Nat.not_le_of_lt before)
    | rejected error =>
      simp only
      have noted := (failed error rfl).noted (some error) (t.onDegraded ++ [error])
      by_cases retryable : error.isRetryable = true
      · rw [if_neg (by simp [retryable])]
        obtain ⟨goesOn, u, settled, keeps, told, after, gone, next⟩ := noted.settleLateWrite retryable
        rw [settled]
        cases goesOn with
        | false =>
          refine ⟨once_more u after, fun _ before => ?_⟩
          exact absurd (gone rfl) (Nat.not_le_of_lt before)
        | true =>
          have rest := ih (attempts + 1) (next rfl) (keeps.trans same)
          rwa [show made + 1 + more = made + (more + 1) by omega] at rest
      · rw [if_pos (by simp [retryable])]
        exact ⟨once_more _ noted.toBegun, fun again => absurd again retryable⟩

theorem Ready.graceLoop (ready : Ready input startedAtMs made s) (second : s.grace = true) :
    Begun input startedAtMs made (CheckpointRun.graceLoop input s).run := by
  induction remaining : input.recoveryDeadlineMs - s.nowMs using Nat.strongRecOn generalizing s with
  | _ remainingMs ih =>
    rw [CheckpointRun.graceLoop]
    by_cases passed : input.recoveryDeadlineMs ≤ s.nowMs
    · rw [if_pos passed]
      exact ready.toBegun
    rw [if_neg passed]
    dsimp only
    generalize waits : s.waitMs (min 50 (max 1 (input.recoveryDeadlineMs - s.nowMs))) = waited
    have within := ready.within
    have waited_ready : Ready input startedAtMs made waited := waits ▸ ready.wait (by omega)
    have waited_grace : waited.grace = true := by rw [← waits]; exact second
    have ahead : s.nowMs < waited.nowMs := by
      rw [← waits]
      simp only [CheckpointRun.waitMs]
      omega
    by_cases late : input.recoveryDeadlineMs ≤ waited.nowMs
    · rw [if_pos late]
      exact waited_ready.toBegun
    rw [if_neg late]
    obtain ⟨outcome, t, attempted, same, begun, -, failed⟩ := waited_ready.attempt
    rw [waited_grace] at same begun failed
    have tried := le_attemptCheckpoint input waited
    rw [attempted] at tried
    split
    next u is =>
      obtain ⟨-, rfl⟩ := Prod.mk.inj (attempted.symm.trans is)
      exact begun
    next pending u is =>
      obtain ⟨-, rfl⟩ := Prod.mk.inj (attempted.symm.trans is)
      exact begun.noted _ _ _
    next error u is =>
      obtain ⟨rfl, rfl⟩ := Prod.mk.inj (attempted.symm.trans is)
      have noted := (failed error rfl).noted (some error) t.onDegraded
      by_cases retryable : error.isRetryable = true
      · rw [if_neg (by simp [retryable])]
        obtain ⟨goesOn, u, settled, keeps, told, after, -, next⟩ := noted.settleLateWrite retryable
        have waited_for := le_settleLateWrite input error { t with lastError := some error }
        rw [settled] at waited_for
        split
        next v late_is =>
          obtain ⟨rfl, rfl⟩ := Prod.mk.inj (settled.symm.trans late_is)
          exact after
        next v late_is =>
          obtain ⟨rfl, rfl⟩ := Prod.mk.inj (settled.symm.trans late_is)
          have before : t.nowMs ≤ u.nowMs := waited_for
          have earlier : waited.nowMs ≤ t.nowMs := tried
          exact ih _ (by omega) (next rfl) (keeps.trans same) rfl
      · rw [if_pos (by simp [retryable])]
        exact noted.toBegun

end CheckpointRun

open CheckpointRun in
/-- What a call does, for every behaviour of `checkpointTurnInterruption`. -/
theorem persistInterruptionCheckpoint_contract (input : CheckpointInput) (startedAtMs : Nat) :
    CheckpointContract input startedAtMs (persistInterruptionCheckpoint input startedAtMs).1
      (persistInterruptionCheckpoint input startedAtMs).2 := by
  have recovers : ∀ t, Begun input startedAtMs input.maxAttempts t →
      CheckpointContract input startedAtMs true { t with onRecovered := t.onRecovered + 1 } := by
    intro t begun
    obtain ⟨unrecovered, not_fatal⟩ := begun.unreported
    refine ⟨begun.spaced, begun.beforeDeadline, begun.firstLoop, begun.within, .inl ⟨rfl, ?_, ?_⟩⟩
    · simp [unrecovered]
    · simp [not_fatal]
  have fails : ∀ t error, Begun input startedAtMs input.maxAttempts t →
      CheckpointContract input startedAtMs false { t with
          nowMs := t.nowMs + input.onFatalMs
          onFatal := t.onFatal ++ [(error, t.pendingCheckpointWrite)] } := by
    intro t error begun
    obtain ⟨unrecovered, not_fatal⟩ := begun.unreported
    refine ⟨begun.spaced, begun.beforeDeadline, begun.firstLoop, ?_, .inr ⟨rfl, unrecovered, ?_⟩⟩
    · exact Nat.add_le_add_right begun.within input.onFatalMs
    · simp [not_fatal]
  have start : Ready input startedAtMs 0 { nowMs := startedAtMs } := by
    constructor
    · exact ⟨List.Pairwise.nil, nofun, Nat.le_refl 0, Nat.le_max_left _ _, rfl, rfl⟩
    · exact nofun
  unfold persistInterruptionCheckpoint
  simp only
  generalize deadline : min (startedAtMs + input.retryBudgetMs) input.recoveryDeadlineMs = initialRetryDeadline
  have early : initialRetryDeadline ≤ input.recoveryDeadlineMs := deadline ▸ Nat.min_le_right _ _
  have first := start.retryLoop early input.maxAttempts 0 rfl
  rw [Nat.zero_add] at first
  split
  next s ended =>
    rw [ended] at first
    exact recovers s first
  next s ended =>
    rw [ended] at first
    obtain ⟨begun, again⟩ := first
    split
    next final => exact fails s _ begun
    next retryable =>
      have retryable : (s.lastError.getD .backendUnavailable).isRetryable = true := by simpa using retryable
      generalize begins : { s with
        grace := true
        lastError := some (s.lastError.getD .backendUnavailable) } = grace
      have second : Begun input startedAtMs input.maxAttempts (graceLoop input grace).run := by
        by_cases ahead : s.nowMs < input.recoveryDeadlineMs
        · have ready := again retryable ahead
          have marked : Ready input startedAtMs input.maxAttempts grace := by
            rw [← begins]
            exact { ready with }
          exact marked.graceLoop (by rw [← begins])
        · -- the deadline has passed, and the loop is not entered
          have gone : input.recoveryDeadlineMs ≤ grace.nowMs := by
            rw [← begins]
            exact Nat.le_of_not_lt ahead
          rw [graceLoop, if_pos gone, ← begins]
          exact { begun with }
      split
      next t ended =>
        rw [ended] at second
        exact recovers t second
      next t ended =>
        rw [ended] at second
        exact fails t _ second

/-- With one attempt to make and 500 ms for it, the second loop starts another one after 50 ms. And a call
whose recovery deadline has passed ends after it. -/
theorem persistInterruptionCheckpoint_late_attempt :
    let failing : CheckpointInput :=
      { durablePolicy := some { bargeCheckpointMaxAttempts := 1 }
        recoveryDeadlineMs := 2000
        checkpointTurnInterruption := fun earlier =>
          ⟨some { afterMs := 0 }, if earlier = 0 then some .unknown else none⟩ }
    let overdue : CheckpointInput :=
      { recoveryDeadlineMs := 5, checkpointTurnInterruption := fun _ => { settles := none } }
    (persistInterruptionCheckpoint failing 0).2.attempts.map (·.startedAtMs) = [0, 50] ∧
      (persistInterruptionCheckpoint overdue 10).2.nowMs = 10 := by
  intro failing overdue
  constructor
  · simp [failing, persistInterruptionCheckpoint, CheckpointRun.retryLoop, CheckpointRun.graceLoop,
      CheckpointRun.attemptCheckpoint, CheckpointRun.settleLateWrite, CheckpointRun.waitMs, settlePromiseUntil,
      WriteSettlement.from, PersistenceFailure.isRetryable, CheckpointInput.maxAttempts,
      CheckpointInput.retryBudgetMs]
  · simp [overdue, persistInterruptionCheckpoint, CheckpointRun.retryLoop, CheckpointRun.graceLoop,
      CheckpointRun.attemptCheckpoint, PersistenceFailure.isRetryable, PersistenceFailure.backendUnavailable,
      CheckpointInput.maxAttempts]

end Tvic
