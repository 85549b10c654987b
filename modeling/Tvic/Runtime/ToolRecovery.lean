import Tvic.Runtime.RuntimeTurns

/-!
# Tool calls of a runtime that is gone

What becomes of a running tool call when its session is attached again, from
`packages/runtime/src/tool-recovery.ts`.
-/
namespace Tvic.Runtime

open Lib

variable {N : Type}

/-- What a terminal record of the idempotency store says about a call. -/
inductive RecordedOutcome (J : Type) where
  | succeeded (output : J)
  | failed (status : FailedToolCallStatus) (error : Option (NormalizedError J))

def idempotencyTerminalError : NormalizedError (JsValue N) :=
  .internalError (utf16 "tool.idempotency_terminal")
    (utf16 "Tool execution has a persisted terminal idempotency outcome") (by decide +kernel)
    (by decide +kernel)

def runtimeRestartedError : NormalizedError (JsValue N) :=
  .internalError (utf16 "tool.runtime_restarted")
    (utf16 "Tool execution was interrupted by runtime ownership loss") (by decide +kernel)
    (by decide +kernel)

/-- `recoveredToolCallFromIdempotencyRecord`, for a record that matches the call and is terminal. -/
def recoveredToolCall (toolCall : ToolCall (JsValue N)) (startedAt : Timestamp) (key : String)
    (outcome : RecordedOutcome (JsValue N)) (endedAt : Timestamp) : ToolCall (JsValue N) :=
  { toolCall with
    idempotencyKey := toolCall.idempotencyKey.map fun _ => key
    metadata := some (spreadWith toolCall.metadata
      [(utf16 "recovery", .string (utf16 "idempotent_replay")),
        (utf16 "idempotentHit", .boolean true)])
    phase := match outcome with
      | .succeeded output => .succeeded startedAt endedAt output
      | .failed status error =>
        .failed status startedAt endedAt
          { error.getD idempotencyTerminalError with retriable := false } }

def ambiguousRecoveredToolCall (toolCall : ToolCall (JsValue N)) (startedAt endedAt : Timestamp) :
    ToolCall (JsValue N) :=
  { toolCall with
    idempotencyKey := none
    metadata := some (spreadWith toolCall.metadata
      [(utf16 "recovery", .string (utf16 "ambiguous"))])
    phase := .failed .failed startedAt endedAt runtimeRestartedError }

/-- What the idempotency store had for a running call, and when it was asked. -/
structure ToolRecoveryLookup (J : Type) where
  recoveredAt : Timestamp
  found : Option (String × RecordedOutcome J)

structure PreparedToolRecovery (J : Type) where
  version : Option Nat
  toolCall : ToolCall J
  recoveredAt : Timestamp
  replayed : Option (ToolCall J)

structure ToolRecoverySnapshot (J : Type) where
  records : List (StoredToolCallRecord J)
  prepared : List (String × PreparedToolRecovery J)

def prepareToolCall (lookup : String → ToolRecoveryLookup (JsValue N))
    (record : StoredToolCallRecord (JsValue N)) :
    Option (String × PreparedToolRecovery (JsValue N)) :=
  match record.toolCall.phase with
  | .running startedAt =>
    let answer := lookup record.toolCall.toolCallId
    some (record.toolCall.toolCallId,
      { version := record.version
        toolCall := record.toolCall
        recoveredAt := answer.recoveredAt
        replayed := answer.found.map fun (key, outcome) =>
          recoveredToolCall record.toolCall startedAt key outcome answer.recoveredAt })
  | _ => none

def prepareToolRecovery (lookup : String → ToolRecoveryLookup (JsValue N))
    (records : List (StoredToolCallRecord (JsValue N))) : ToolRecoverySnapshot (JsValue N) where
  records := records
  prepared := records.filterMap (prepareToolCall lookup)

variable (json : JsonCodec (JsValue N))

/-- Two open calls whose texts in `packages/tools` are the same. -/
def sameToolCallText (a b : ToolCall (JsValue N)) : Bool :=
  let text (value : JsValue N) : Except DalError Text :=
    match json.toolText value with
    | some text => .ok text
    | none => .error (.error "")
  sameText (a.traverse text fun _ => .error (.error "")) (b.traverse text fun _ => .error (.error ""))

/-- `resolvePreparedToolRecovery` for a call that runs since `startedAt`. -/
def resolvePreparedToolRecovery (current : StoredToolCallRecord (JsValue N)) (startedAt : Timestamp)
    (prepared : Option (PreparedToolRecovery (JsValue N))) (fallbackEndedAt : Timestamp) :
    ToolCall (JsValue N) :=
  match prepared with
  | some prepared =>
    let matchingPersistedVersion := prepared.version.isSome && current.version.isSome &&
      prepared.version == current.version
    let matchingUnversionedRecord := prepared.version.isNone && current.version.isNone &&
      sameToolCallText json prepared.toolCall current.toolCall
    if matchingPersistedVersion || matchingUnversionedRecord then
      prepared.replayed.getD
        (ambiguousRecoveredToolCall current.toolCall startedAt prepared.recoveredAt)
    else ambiguousRecoveredToolCall current.toolCall startedAt fallbackEndedAt
  | none => ambiguousRecoveredToolCall current.toolCall startedAt fallbackEndedAt

end Tvic.Runtime
