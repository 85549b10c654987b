import Tvic.Tools.IdempotencyLedger

/-!
# Executing a tool once

`executeTool` of `packages/tools/src/index.ts`, from where it has checked its input and computed the
idempotency identity of the call. Any number of calls share the in-memory store; each runs from one
`await` to the next, and between two of its segments all the others may run. The clock, the leases,
the signal of a call and what its executor comes to are the events'.
-/
namespace Tvic

open InMemoryToolIdempotencyStore (lookup claim releaseClaim complete)

/-! ## Lifetimes, `packages/tools/src/idempotency.ts` -/

def defaultIdempotencyTtlMs : Nat := 60000

def idempotencyClaimSafetyMs : Nat := 1000

def idempotencyRetentionTtlMs (ttlMs : Option Number) : Nat :=
  ((ttlMs.getD (.int defaultIdempotencyTtlMs)).safeInteger? 1).getD defaultIdempotencyTtlMs

def idempotencyClaimTtlMs (maxAttempts timeoutMs maxDelayMs : Number) (retentionTtlMs : Nat) : Nat :=
  match maxAttempts.safeInteger? 1, timeoutMs.safeInteger? 1, maxDelayMs.safeInteger? 0 with
  | some attempts, some timeoutMs, some maxDelayMs =>
    let executionBudgetMs := timeoutMs * attempts + maxDelayMs * (attempts - 1)
    if executionBudgetMs ≤ maxSafeInteger then
      max retentionTtlMs (executionBudgetMs + idempotencyClaimSafetyMs)
    else max retentionTtlMs defaultIdempotencyTtlMs
  | _, _, _ => max retentionTtlMs defaultIdempotencyTtlMs

/-! ## Calls and their results -/

/-- What `executeTool` uses of a tool, as its definition was snapshotted. -/
structure ToolPolicy where
  toolId : String
  toolVersion : String
  maxAttempts : Nat
  maxDelayMs : Number
  retryableErrorCodes : Option (List String)
  timeoutMs : Nat
  ttlMs : Option Number
  deriving Repr

/-- A call once its input is checked. -/
structure ToolRequest where
  toolCallId : String
  sessionId : SessionId
  lease : Option ToolIdempotencyLease
  tool : ToolPolicy
  attempt : Nat
  idempotencyKey : String
  requestHash : String
  /-- The key and the request hash of the old form. -/
  legacy : Option (String × String)

/-- A normalized error, as far as the execution looks at it. -/
structure ToolError where
  code : String
  category : String
  message : String
  retriable : Bool
  deriving DecidableEq, Repr

inductive ToolCallError (J : Type) where
  | own (error : ToolError)
  | recorded (error : J)
  deriving DecidableEq, Repr

structure ToolCallMetadata where
  idempotentHit : Bool := false
  executionAmbiguous : Bool := false
  recoveryPolicy : Option String := none
  resultRecordFailed : Bool := false
  cancellationPhase : Option String := none
  deriving DecidableEq, Repr

structure ToolCallResult (J : Type) where
  attempts : Nat
  status : TerminalStatus
  output : Option J := none
  error : Option (ToolCallError J) := none
  metadata : ToolCallMetadata := {}
  deriving DecidableEq

/-- How the promise of the executor settles under its limits: a timeout and an abort reject it. Errors
are normalized. -/
inductive ExecutorOutcome (V : Type) where
  | resolved (output : V)
  | rejected (error : ToolError)

/-- What the execution uses besides the store. -/
structure ToolHost (V J : Type) where
  serialization : Serialization V J
  /-- The errors of the output schema, or the message of what its validation throws. -/
  validateOutput : J → Except String (List String)
  errorMessage : DalError → String
  outputValue : J → V
  errorValue : ToolError → V
  /-- `{ ...error, retriable: false }` -/
  withoutRetry : J → J

variable {V J : Type} (host : ToolHost V J)

def validationError (code message : String) : ToolError where
  code := code
  category := "validation"
  message := message
  retriable := false

def toolCancelledError : ToolError where
  code := "tool.cancelled"
  category := "cancelled"
  message := "Tool execution cancelled"
  retriable := false

def terminalError : ToolError where
  code := "tool.idempotency_terminal"
  category := "tool"
  message :=
    "This action already ended and will not be repeated with the same idempotency key"
  retriable := false

def unrecordedError : ToolError where
  code := "tool.idempotency_result_unrecorded"
  category := "tool"
  message :=
    "The action may have completed, but its result could not be recorded. Do not repeat it with a new key until it is reconciled."
  retriable := false

def succeededStatus : TerminalStatus := ⟨.succeeded, succeeded_ne_claimed⟩

def failedStatus : TerminalStatus := ⟨.failed, by decide⟩

def cancelledStatus : TerminalStatus := ⟨.cancelled, by decide⟩

def timedOutStatus : TerminalStatus := ⟨.timedOut, by decide⟩

/-- A result that may have had effects: `executionAmbiguous` and `do_not_replay`. -/
def ambiguousMetadata : ToolCallMetadata where
  executionAmbiguous := true
  recoveryPolicy := some "do_not_replay"

namespace ToolRequest

variable (request : ToolRequest)

def idempotencyConflict : ToolCallResult J where
  attempts := request.attempt
  status := failedStatus
  error := some (.own (validationError "tool.idempotency_conflict"
    "Idempotency key is already associated with a different request or session"))

def idempotencyInProgress : ToolCallResult J where
  attempts := request.attempt
  status := failedStatus
  error := some (.own (validationError "tool.idempotency_in_progress"
    ("Idempotent tool call is already running: " ++ request.idempotencyKey)))

/-- What a recorded success gives. -/
def idempotentHit (record : ToolIdempotencyRecord J) : ToolCallResult J where
  attempts := request.attempt
  status := succeededStatus
  output := record.output
  metadata := { idempotentHit := true }

/-- What any other recorded end gives. -/
def idempotentTerminal (record : ToolIdempotencyRecord J) : ToolCallResult J :=
  if open_status : record.status = .claimed ∨ record.status = .succeeded then
    request.idempotencyConflict
  else
    { attempts := request.attempt
      status := ⟨record.status, fun claimed => open_status (.inl claimed)⟩
      error := some (match record.error with
        | some error => .recorded (host.withoutRetry error)
        | none => .own terminalError)
      metadata := { ambiguousMetadata with idempotentHit := true } }

end ToolRequest

/-! ## One attempt -/

def cancelledAttempt (attempt : Nat) : ToolCallResult J where
  attempts := attempt
  status := cancelledStatus
  error := some (.own toolCancelledError)

def toolFailureStatus (error : ToolError) : TerminalStatus :=
  if error.category = "timeout" then timedOutStatus
  else if error.category = "cancelled" then cancelledStatus
  else failedStatus

/-- The failure of an attempt whose executor ran. -/
def ambiguousFailure (attempt : Nat) (status : TerminalStatus) (error : ToolError) :
    ToolCallResult J where
  attempts := attempt
  status := status
  error := some (.own error)
  metadata := ambiguousMetadata

def attemptResult (attempt : Nat) : ExecutorOutcome V → ToolCallResult J
  | .rejected error =>
    let ambiguous := error.category = "timeout" ∨ error.category = "cancelled"
    let safeError := if ambiguous then { error with retriable := false } else error
    ambiguousFailure attempt (toolFailureStatus safeError) safeError
  | .resolved rawOutput =>
    match host.serialization.snapshotJsonValue rawOutput with
    | .error error =>
      ambiguousFailure attempt failedStatus (validationError "tool.output_not_serializable"
        ("Tool output cannot be persisted: " ++ host.errorMessage error))
    | .ok output =>
      match host.validateOutput output with
      | .error message =>
        ambiguousFailure attempt failedStatus (validationError "tool.output_validation_failed"
          ("Tool output validation failed: " ++ message))
      | .ok (first :: others) =>
        ambiguousFailure attempt failedStatus (validationError "tool.output_validation_failed"
          ("; ".intercalate (first :: others)))
      | .ok [] => { attempts := attempt, status := succeededStatus, output := some output }

def isRetriable (tool : ToolPolicy) : ToolCallError J → Bool
  | .recorded _ => false
  | .own error =>
    error.retriable &&
      match tool.retryableErrorCodes with
      | some (first :: others) => (first :: others).contains error.code
      | _ => true

/-- Whether the loop of `executeTool` goes on after this result. -/
def goesOn (tool : ToolPolicy) (attempt : Nat) (aborted : Bool) (result : ToolCallResult J) : Bool :=
  (result.status = failedStatus || result.status = timedOutStatus) && attempt < tool.maxAttempts &&
    result.error.any (isRetriable tool) && !aborted

/-- The result of a call that was cancelled while it waited for its next attempt. -/
def cancelledInBackoff (result : ToolCallResult J) : ToolCallResult J where
  attempts := result.attempts
  status := cancelledStatus
  error := some (.own toolCancelledError)
  metadata := { result.metadata with cancellationPhase := some "retry_backoff" }

def idempotencyCompletionFailure (result : ToolCallResult J) : ToolCallResult J where
  attempts := result.attempts
  status := failedStatus
  error := some (.own unrecordedError)
  metadata :=
    { result.metadata with
      executionAmbiguous := true
      recoveryPolicy := some "do_not_replay"
      resultRecordFailed := true }

/-! ## The execution -/

/-- What a call waits for, with what it will find. -/
inductive CallPhase (J : Type) where
  | awaitingLookup (answer : Except DalError (ToolIdempotencyLookupResult J))
  | awaitingClaim (answer : Except DalError (ToolIdempotencyClaimResult J))
  | executing (attempt : Nat)
  | awaitingAttempt (attempt : Nat) (result : ToolCallResult J)
  | delaying (attempt : Nat) (result : ToolCallResult J)
  | awaitingRelease (released : Except DalError Bool) (result : ToolCallResult J)
  | awaitingCompletion (answer : Except DalError Unit) (result : ToolCallResult J)
  | returned (result : ToolCallResult J)
  | thrown (error : DalError)
  deriving DecidableEq

structure ToolExecution (J : Type) where
  phase : CallPhase J
  executionStarted : Bool
  deriving DecidableEq

abbrev Segment (J : Type) := InMemoryToolIdempotencyStore J × ToolExecution J

namespace ToolRequest

variable (request : ToolRequest) (moment : Moment)

def claimInput : ToolIdempotencyClaim where
  key := request.idempotencyKey
  sessionId := some request.sessionId
  lease := request.lease
  toolId := some request.tool.toolId
  toolVersion := some request.tool.toolVersion
  requestHash := request.requestHash
  owner := request.toolCallId
  ttlMs := .int (idempotencyClaimTtlMs (.int request.tool.maxAttempts) (.int request.tool.timeoutMs)
    request.tool.maxDelayMs (idempotencyRetentionTtlMs request.tool.ttlMs))

def releaseInput : ToolIdempotencyRelease where
  key := request.idempotencyKey
  requestHash := request.requestHash
  owner := request.toolCallId
  sessionId := some request.sessionId
  lease := request.lease

def outcome (result : ToolCallResult J) : ToolIdempotencyOutcome V where
  status := result.status
  ttlMs := .int (idempotencyRetentionTtlMs request.tool.ttlMs)
  owner := request.toolCallId
  sessionId := some request.sessionId
  lease := request.lease
  output := if result.status = succeededStatus then result.output.map host.outputValue else none
  error :=
    if result.status = succeededStatus then none
    else result.error.bind fun
      | .own error => some (host.errorValue error)
      | .recorded _ => none

def callClaim (store : InMemoryToolIdempotencyStore J) : Segment J :=
  let (answer, store) := store.perform moment.readings request.idempotencyKey
    (claim host.serialization moment request.claimInput)
  (store, { phase := .awaitingClaim answer, executionStarted := false })

def start (store : InMemoryToolIdempotencyStore J) : Segment J :=
  match request.legacy with
  | none => request.callClaim host moment store
  | some (legacyKey, legacyHash) =>
    if legacyKey ≠ request.idempotencyKey then
      let (answer, store) := store.perform moment.readings legacyKey
        (lookup host.serialization moment legacyHash (some request.sessionId) request.lease)
      (store, { phase := .awaitingLookup answer, executionStarted := false })
    else request.callClaim host moment store

def runToolAttempt (attempt : Nat) (aborted : Bool) (execution : ToolExecution J) :
    ToolExecution J :=
  if aborted then { execution with phase := .awaitingAttempt attempt (cancelledAttempt attempt) }
  else { phase := .executing attempt, executionStarted := true }

/-- What comes after the last attempt. -/
def conclude (result : ToolCallResult J) (store : InMemoryToolIdempotencyStore J)
    (execution : ToolExecution J) : Segment J :=
  if ¬ execution.executionStarted ∧ result.status = cancelledStatus then
    let (released, store) := store.perform moment.readings request.idempotencyKey
      (releaseClaim moment request.releaseInput)
    (store, { execution with phase := .awaitingRelease released result })
  else
    let (answer, store) := store.perform moment.readings request.idempotencyKey
      (complete host.serialization moment request.idempotencyKey request.requestHash
        (request.outcome host result))
    (store, { execution with phase := .awaitingCompletion answer result })

/-- The segment after the answer to the claim. -/
def claimAnswered (aborted : Bool) (execution : ToolExecution J) :
    Except DalError (ToolIdempotencyClaimResult J) → ToolExecution J
  | .error error => { execution with phase := .thrown error }
  | .ok .conflict => { execution with phase := .returned request.idempotencyConflict }
  | .ok (.inProgress _) => { execution with phase := .returned request.idempotencyInProgress }
  | .ok (.succeeded record) => { execution with phase := .returned (request.idempotentHit record) }
  | .ok (.terminal record) =>
    { execution with phase := .returned (request.idempotentTerminal host record) }
  | .ok (.claimed _) => runToolAttempt request.attempt aborted execution

/-- A segment that begins when what the call awaits has settled. -/
def resume (aborted : Bool) (store : InMemoryToolIdempotencyStore J) (execution : ToolExecution J) :
    Segment J :=
  match execution.phase with
  | .awaitingLookup (.error error) => (store, { execution with phase := .thrown error })
  | .awaitingLookup (.ok .missing) => request.callClaim host moment store
  | .awaitingLookup (.ok _) =>
    (store, { execution with phase := .returned request.idempotencyConflict })
  | .awaitingClaim answer => (store, request.claimAnswered host aborted execution answer)
  | .awaitingAttempt attempt result =>
    if goesOn request.tool attempt aborted result then
      (store, { execution with phase := .delaying attempt result })
    else request.conclude host moment result store execution
  | .delaying attempt result =>
    if aborted then request.conclude host moment (cancelledInBackoff result) store execution
    else (store, runToolAttempt (attempt + 1) false execution)
  | .awaitingRelease _ result => (store, { execution with phase := .returned result })
  | .awaitingCompletion (.ok ()) result => (store, { execution with phase := .returned result })
  | .awaitingCompletion (.error _) result =>
    (store, { execution with phase := .returned (idempotencyCompletionFailure result) })
  | .executing _ | .returned _ | .thrown _ => (store, execution)

end ToolRequest

/-! ## Calls side by side -/

/-- What happens next: a call begins, goes on or has its executor settle, by number, or somebody else
uses the store. -/
inductive ToolEvent (V : Type) where
  | start (id : Nat) (moment : Moment)
  | resume (id : Nat) (moment : Moment) (aborted : Bool)
  | settle (id : Nat) (outcome : ExecutorOutcome V)
  | other (event : IdempotencyEvent V)

structure ToolWorld (J : Type) where
  store : InMemoryToolIdempotencyStore J
  calls : Nat → Option (ToolExecution J)

namespace ToolWorld

def initial : ToolWorld J where
  store := InMemoryToolIdempotencyStore.new
  calls _ := none

def set (world : ToolWorld J) (id : Nat) (segment : Segment J) : ToolWorld J where
  store := segment.1
  calls := Function.update world.calls id (some segment.2)

/-- An event that cannot happen now leaves the world as it is. -/
def step (requests : Nat → ToolRequest) (world : ToolWorld J) : ToolEvent V → ToolWorld J
  | .start id moment =>
    match world.calls id with
    | none => world.set id ((requests id).start host moment world.store)
    | some _ => world
  | .resume id moment aborted =>
    match world.calls id with
    | none => world
    | some execution =>
      world.set id ((requests id).resume host moment aborted world.store execution)
  | .settle id outcome =>
    match world.calls id with
    | some { phase := .executing attempt, executionStarted } =>
      world.set id (world.store,
        { phase := .awaitingAttempt attempt (attemptResult host attempt outcome), executionStarted })
    | _ => world
  | .other event => { world with store := world.store.step host.serialization event }

def Started (world : ToolWorld J) (id : Nat) : Prop :=
  ∃ execution, world.calls id = some execution ∧ execution.executionStarted = true

end ToolWorld

end Tvic
