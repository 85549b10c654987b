import Tvic.Core.Session
import Tvic.Dal.InMemoryDurableRuntime

/-!
# Normalization of stored records

`normalizeStoredSession`, `normalizeStoredTurn`, `normalizeStoredToolCall` and the outbox envelopes of
`packages/dal-codec/src/index.ts`, on records: the JSON values and the errors in a record go through
the serializer and the decoder, everything else has to be valid and stays as it is.
-/
namespace Tvic

open Lib

/-- What the codec does to the JSON values and the errors inside a record. -/
structure JsonCodec (J : Type) where
  text : J → Except DalError Text
  reread : J → Except DalError J
  isRecord : J → Bool
  /-- Whether the value is there at all, as a member of a JSON object. -/
  isPresent : J → Bool
  /-- `stableStringify` of `packages/tools`, where it does not throw. -/
  toolText : J → Option Text
  storeError : NormalizedError J → Except DalError (NormalizedError J)
  readError : NormalizedError J → Except DalError (NormalizedError J)

namespace JsonCodec

variable {J : Type} (json : JsonCodec J)

def normalizeError (error : NormalizedError J) : Except DalError (NormalizedError J) := do
  let stored ← json.storeError error
  json.readError stored

def allRecords (value : Option J) : Bool := value.all json.isRecord

/-- Values that are stored and read as they are. -/
def verbatim : JsonCodec J where
  text _ := .ok []
  reread := .ok
  isRecord _ := true
  isPresent _ := true
  toolText _ := some []
  storeError := .ok
  readError := .ok

end JsonCodec

/-! ### The values inside a record -/

section Traverse

variable {J J' : Type} (value : J → Except DalError J')

def NormalizedError.traverse (error : NormalizedError J) : Except DalError (NormalizedError J') := do
  let cause ← error.cause.mapM value
  let metadata ← error.metadata.mapM value
  .ok { error with cause, metadata }

variable (error : NormalizedError J → Except DalError (NormalizedError J'))

def SessionPhase.traverse : SessionPhase J → Except DalError (SessionPhase J')
  | .created => .ok .created
  | .starting => .ok .starting
  | .active status startedAt => .ok (.active status startedAt)
  | .completed startedAt endedAt terminalSource => .ok (.completed startedAt endedAt terminalSource)
  | .failed startedAt endedAt terminalSource e => do
    .ok (.failed startedAt endedAt terminalSource (← error e))
  | .cancelled startedAt endedAt terminalSource cancelReason =>
    .ok (.cancelled startedAt endedAt terminalSource cancelReason)

def Session.traverse (session : Session J) : Except DalError (Session J') := do
  let metadata ← session.metadata.mapM value
  let sessionVariables ← value session.state.sessionVariables
  let phase ← session.phase.traverse error
  .ok { session with metadata, state := { session.state with sessionVariables }, phase }

def TurnPhase.traverse : TurnPhase J → Except DalError (TurnPhase J')
  | .active status => .ok (.active status)
  | .completed endedAt => .ok (.completed endedAt)
  | .cancelled endedAt reason => .ok (.cancelled endedAt reason)
  | .failed endedAt e => do .ok (.failed endedAt (← error e))

def Turn.traverse (turn : Turn J) : Except DalError (Turn J') := do
  let inputMetadata ← turn.input.metadata.mapM value
  let outputMetadata ← turn.output.metadata.mapM value
  let metadata ← turn.metadata.mapM value
  let phase ← turn.phase.traverse error
  .ok { turn with
    input := { turn.input with metadata := inputMetadata }
    output := { turn.output with metadata := outputMetadata }
    metadata, phase }

def ToolCallPhase.traverse : ToolCallPhase J → Except DalError (ToolCallPhase J')
  | .queued => .ok .queued
  | .running startedAt => .ok (.running startedAt)
  | .succeeded startedAt endedAt output => do .ok (.succeeded startedAt endedAt (← value output))
  | .failed status startedAt endedAt e => do .ok (.failed status startedAt endedAt (← error e))

def ToolCall.traverse (toolCall : ToolCall J) : Except DalError (ToolCall J') := do
  let input ← value toolCall.input
  let metadata ← toolCall.metadata.mapM value
  let phase ← toolCall.phase.traverse value error
  .ok { toolCall with input, metadata, phase }

end Traverse

/-! ### What stays as it is -/

section Alike

variable {J J' : Type} {value : J → Except DalError J'}
  {error : NormalizedError J → Except DalError (NormalizedError J')}

/-- Two sessions that differ in JSON values and errors at most. -/
structure Session.Alike (a : Session J) (b : Session J') : Prop where
  id : b.id = a.id
  agentId : b.agentId = a.agentId
  currentTurnId : b.state.currentTurnId = a.state.currentTurnId
  pendingToolCallIds : b.state.pendingToolCallIds = a.state.pendingToolCallIds
  turnSequence : b.state.turnSequence = a.state.turnSequence
  status : b.status = a.status

structure Turn.Alike (a : Turn J) (b : Turn J') : Prop where
  id : b.id = a.id
  sessionId : b.sessionId = a.sessionId
  sequence : b.sequence = a.sequence
  toolCallIds : b.toolCallIds = a.toolCallIds
  startedAt : b.startedAt = a.startedAt
  status : b.status = a.status

structure ToolCall.Alike (a : ToolCall J) (b : ToolCall J') : Prop where
  toolCallId : b.toolCallId = a.toolCallId
  toolId : b.toolId = a.toolId
  toolName : b.toolName = a.toolName
  sessionId : b.sessionId = a.sessionId
  turnId : b.turnId = a.turnId
  idempotencyKey : b.idempotencyKey = a.idempotencyKey
  queuedAt : b.queuedAt = a.queuedAt
  status : b.status = a.status

theorem Session.Alike.isTerminal {a : Session J} {b : Session J'} (alike : a.Alike b) :
    b.isTerminal = a.isTerminal := by
  rw [Session.isTerminal, Session.isTerminal, alike.status]

theorem Turn.Alike.isTerminal {a : Turn J} {b : Turn J'} (alike : a.Alike b) :
    b.isTerminal = a.isTerminal := by
  rw [Turn.isTerminal, Turn.isTerminal, alike.status]

theorem ToolCall.Alike.isTerminal {a : ToolCall J} {b : ToolCall J'} (alike : a.Alike b) :
    b.isTerminal = a.isTerminal := by
  rw [ToolCall.isTerminal, ToolCall.isTerminal, alike.status]

theorem Session.Alike.of_common {J'' : Type} {a : Session J} {b : Session J'} {c : Session J''}
    (first : a.Alike c) (second : b.Alike c) : a.Alike b where
  id := second.id.symm.trans first.id
  agentId := second.agentId.symm.trans first.agentId
  currentTurnId := second.currentTurnId.symm.trans first.currentTurnId
  pendingToolCallIds := second.pendingToolCallIds.symm.trans first.pendingToolCallIds
  turnSequence := second.turnSequence.symm.trans first.turnSequence
  status := second.status.symm.trans first.status

theorem Turn.Alike.of_common {J'' : Type} {a : Turn J} {b : Turn J'} {c : Turn J''}
    (first : a.Alike c) (second : b.Alike c) : a.Alike b where
  id := second.id.symm.trans first.id
  sessionId := second.sessionId.symm.trans first.sessionId
  sequence := second.sequence.symm.trans first.sequence
  toolCallIds := second.toolCallIds.symm.trans first.toolCallIds
  startedAt := second.startedAt.symm.trans first.startedAt
  status := second.status.symm.trans first.status

theorem ToolCall.Alike.refl (toolCall : ToolCall J) : toolCall.Alike toolCall :=
  ⟨rfl, rfl, rfl, rfl, rfl, rfl, rfl, rfl⟩

theorem ToolCall.Alike.of_common {J'' : Type} {a : ToolCall J} {b : ToolCall J'}
    {c : ToolCall J''} (first : a.Alike c) (second : b.Alike c) : a.Alike b where
  toolCallId := second.toolCallId.symm.trans first.toolCallId
  toolId := second.toolId.symm.trans first.toolId
  toolName := second.toolName.symm.trans first.toolName
  sessionId := second.sessionId.symm.trans first.sessionId
  turnId := second.turnId.symm.trans first.turnId
  idempotencyKey := second.idempotencyKey.symm.trans first.idempotencyKey
  queuedAt := second.queuedAt.symm.trans first.queuedAt
  status := second.status.symm.trans first.status

theorem Session.traverse_alike {session : Session J} {session' : Session J'}
    (traversed : session.traverse value error = .ok session') : session.Alike session' := by
  obtain ⟨metadata, -, traversed⟩ := bind_eq_ok.mp traversed
  obtain ⟨sessionVariables, -, traversed⟩ := bind_eq_ok.mp traversed
  obtain ⟨phase, phased, traversed⟩ := bind_eq_ok.mp traversed
  cases traversed
  refine ⟨rfl, rfl, rfl, rfl, rfl, ?_⟩
  obtain ⟨_, _, _, _, _, _, _, _, before⟩ := session
  cases before with
  | failed startedAt endedAt terminalSource e =>
    obtain ⟨e', -, phased⟩ := bind_eq_ok.mp phased
    cases phased
    rfl
  | _ => cases phased; rfl

theorem Turn.traverse_alike {turn : Turn J} {turn' : Turn J'}
    (traversed : turn.traverse value error = .ok turn') : turn.Alike turn' := by
  obtain ⟨inputMetadata, -, traversed⟩ := bind_eq_ok.mp traversed
  obtain ⟨outputMetadata, -, traversed⟩ := bind_eq_ok.mp traversed
  obtain ⟨metadata, -, traversed⟩ := bind_eq_ok.mp traversed
  obtain ⟨phase, phased, traversed⟩ := bind_eq_ok.mp traversed
  cases traversed
  refine ⟨rfl, rfl, rfl, rfl, rfl, ?_⟩
  obtain ⟨_, _, _, _, _, _, _, _, _, before⟩ := turn
  cases before with
  | failed endedAt e =>
    obtain ⟨e', -, phased⟩ := bind_eq_ok.mp phased
    cases phased
    rfl
  | _ => cases phased; rfl

theorem ToolCall.traverse_alike {toolCall : ToolCall J} {toolCall' : ToolCall J'}
    (traversed : toolCall.traverse value error = .ok toolCall') : toolCall.Alike toolCall' := by
  obtain ⟨input, -, traversed⟩ := bind_eq_ok.mp traversed
  obtain ⟨metadata, -, traversed⟩ := bind_eq_ok.mp traversed
  obtain ⟨phase, phased, traversed⟩ := bind_eq_ok.mp traversed
  cases traversed
  refine ⟨rfl, rfl, rfl, rfl, rfl, rfl, rfl, ?_⟩
  obtain ⟨_, _, _, _, _, _, _, _, _, _, before⟩ := toolCall
  cases before with
  | succeeded startedAt endedAt output =>
    obtain ⟨output', -, phased⟩ := bind_eq_ok.mp phased
    cases phased
    rfl
  | failed status startedAt endedAt e =>
    obtain ⟨e', -, phased⟩ := bind_eq_ok.mp phased
    cases phased
    rfl
  | _ => cases phased; rfl

end Alike

/-! ### Domain validation -/

section Validation

variable {J : Type} (json : JsonCodec J)

/-- `isTimestamp`: a time that a `Date` can hold. -/
def isTimestamp (timestamp : Timestamp) : Bool :=
  decide (-8640000000000000 ≤ timestamp) && decide (timestamp ≤ 8640000000000000)

def SessionPhase.timestamps : SessionPhase J → List Timestamp
  | .created | .starting => []
  | .active _ startedAt => [startedAt]
  | .completed startedAt endedAt _ => [startedAt, endedAt]
  | .failed startedAt endedAt _ _ => [startedAt, endedAt]
  | .cancelled startedAt endedAt _ _ => [startedAt, endedAt]

/-- What `isSession` checks and the type does not say. -/
def isSession (session : Session J) : Bool :=
  session.id != "" && session.agentId != "" && isTimestamp session.createdAt &&
    json.allRecords session.metadata && json.isRecord session.state.sessionVariables &&
    session.phase.timestamps.all isTimestamp

def TurnPhase.timestamps : TurnPhase J → List Timestamp
  | .active _ => []
  | .completed endedAt => [endedAt]
  | .cancelled endedAt _ => [endedAt]
  | .failed endedAt _ => [endedAt]

def isTurnLatency (latency : TurnLatency) : Bool :=
  latency.fields.all fun field => field.all fun ms => decide (0 ≤ ms)

/-- What `isTurn` checks and the type does not say. -/
def isTurn (turn : Turn J) : Bool :=
  turn.id != "" && turn.sessionId != "" && decide (1 ≤ turn.sequence) &&
    json.allRecords turn.metadata && json.allRecords turn.input.metadata &&
    json.allRecords turn.output.metadata && isTimestamp turn.startedAt &&
    isTurnLatency turn.latency && turn.phase.timestamps.all isTimestamp

def ToolCallPhase.timestamps : ToolCallPhase J → List Timestamp
  | .queued => []
  | .running startedAt => [startedAt]
  | .succeeded startedAt endedAt _ => [startedAt, endedAt]
  | .failed _ startedAt endedAt _ => [startedAt, endedAt]

def ToolCallPhase.hasOutput : ToolCallPhase J → Bool
  | .succeeded _ _ output => json.isPresent output
  | _ => true

/-- What `isToolCall` checks and the type does not say. -/
def isToolCall (toolCall : ToolCall J) : Bool :=
  toolCall.toolCallId != "" && toolCall.sessionId != "" && toolCall.toolId != "" &&
    toolCall.toolName != "" && toolCall.turnId != "" && decide (1 ≤ toolCall.attempts) &&
    isTimestamp toolCall.queuedAt && json.allRecords toolCall.metadata &&
    toolCall.phase.timestamps.all isTimestamp && toolCall.phase.hasOutput json

end Validation

/-! ### Normalization -/

section Normalize

variable {J : Type} (json : JsonCodec J)

/-- `decodeEnvelope` on a payload and its validator. -/
def validated {α : Type} (valid : α → Bool) (key : String) (payload : α) : Except DalError α :=
  if valid payload then .ok payload
  else .error (.corruptRecord key "payload failed domain validation")

def normalizeStoredSession (record : StoredSessionRecord J) (key : String) :
    Except DalError (StoredSessionRecord J) := do
  let payload ← record.session.traverse json.reread json.normalizeError
  let session ← validated (isSession json) key payload
  .ok { record with session }

def normalizeStoredTurn (record : StoredTurnRecord J) (key : String) :
    Except DalError (StoredTurnRecord J) := do
  let payload ← record.turn.traverse json.reread json.normalizeError
  let turn ← validated (isTurn json) key payload
  .ok { record with turn }

def normalizeStoredToolCall (record : StoredToolCallRecord J) (key : String) :
    Except DalError (StoredToolCallRecord J) := do
  let payload ← record.toolCall.traverse json.reread json.normalizeError
  let toolCall ← validated (isToolCall json) key payload
  .ok { record with toolCall }

theorem validated_eq_ok {α : Type} {valid : α → Bool} {key : String} {payload result : α}
    (passed : validated valid key payload = .ok result) : result = payload := by
  unfold validated at passed
  split at passed <;> cases passed
  rfl

variable {json}

theorem normalizeStoredSession_alike {record stored : StoredSessionRecord J} {key : String}
    (normalized : normalizeStoredSession json record key = .ok stored) :
    record.session.Alike stored.session ∧ stored.runtime = record.runtime ∧
      stored.version = record.version := by
  obtain ⟨payload, traversed, normalized⟩ := bind_eq_ok.mp normalized
  obtain ⟨session, passed, normalized⟩ := bind_eq_ok.mp normalized
  cases normalized
  obtain rfl := validated_eq_ok passed
  exact ⟨Session.traverse_alike traversed, rfl, rfl⟩

theorem normalizeStoredTurn_alike {record stored : StoredTurnRecord J} {key : String}
    (normalized : normalizeStoredTurn json record key = .ok stored) :
    record.turn.Alike stored.turn ∧ stored.runtime = record.runtime ∧
      stored.version = record.version := by
  obtain ⟨payload, traversed, normalized⟩ := bind_eq_ok.mp normalized
  obtain ⟨turn, passed, normalized⟩ := bind_eq_ok.mp normalized
  cases normalized
  obtain rfl := validated_eq_ok passed
  exact ⟨Turn.traverse_alike traversed, rfl, rfl⟩

theorem normalizeStoredToolCall_alike {record stored : StoredToolCallRecord J} {key : String}
    (normalized : normalizeStoredToolCall json record key = .ok stored) :
    record.toolCall.Alike stored.toolCall ∧ stored.runtime = record.runtime ∧
      stored.version = record.version := by
  obtain ⟨payload, traversed, normalized⟩ := bind_eq_ok.mp normalized
  obtain ⟨toolCall, passed, normalized⟩ := bind_eq_ok.mp normalized
  cases normalized
  obtain rfl := validated_eq_ok passed
  exact ⟨ToolCall.traverse_alike traversed, rfl, rfl⟩

variable (json)

/-! ### The same record -/

/-- Two texts that are the same; a value that has none is the same as no other. -/
def sameText {α : Type} [DecidableEq α] (first second : Except DalError α) : Bool :=
  match first, second with
  | .ok first, .ok second => decide (first = second)
  | _, _ => false

def stableError (error : NormalizedError J) : Except DalError (NormalizedError Text) := do
  let stored ← json.storeError error
  stored.traverse json.text

def sameSessionRecord (a b : StoredSessionRecord J) : Bool :=
  sameText (a.session.traverse json.text (stableError json))
    (b.session.traverse json.text (stableError json)) && decide (a.runtime = b.runtime)

def sameTurnRecord (a b : StoredTurnRecord J) : Bool :=
  sameText (a.turn.traverse json.text (stableError json))
    (b.turn.traverse json.text (stableError json)) && decide (a.runtime = b.runtime)

def sameToolCallRecord (a b : StoredToolCallRecord J) : Bool :=
  sameText (a.toolCall.traverse json.text (stableError json))
    (b.toolCall.traverse json.text (stableError json)) && decide (a.runtime = b.runtime)

variable {json}

theorem sameText_eq_true {α : Type} [DecidableEq α] {first second : Except DalError α}
    (same : sameText first second = true) : ∃ text, first = .ok text ∧ second = .ok text := by
  unfold sameText at same
  split at same
  next a b =>
    obtain rfl := of_decide_eq_true same
    exact ⟨a, rfl, rfl⟩
  · cases same

theorem sameSessionRecord_alike {a b : StoredSessionRecord J}
    (same : sameSessionRecord json a b = true) : a.session.Alike b.session ∧ a.runtime = b.runtime := by
  obtain ⟨texts, runtimes⟩ := Bool.and_eq_true_iff.mp same
  obtain ⟨text, first, second⟩ := sameText_eq_true texts
  exact ⟨(Session.traverse_alike first).of_common (Session.traverse_alike second),
    of_decide_eq_true runtimes⟩

theorem sameTurnRecord_alike {a b : StoredTurnRecord J} (same : sameTurnRecord json a b = true) :
    a.turn.Alike b.turn ∧ a.runtime = b.runtime := by
  obtain ⟨texts, runtimes⟩ := Bool.and_eq_true_iff.mp same
  obtain ⟨text, first, second⟩ := sameText_eq_true texts
  exact ⟨(Turn.traverse_alike first).of_common (Turn.traverse_alike second),
    of_decide_eq_true runtimes⟩

theorem sameToolCallRecord_alike {a b : StoredToolCallRecord J}
    (same : sameToolCallRecord json a b = true) :
    a.toolCall.Alike b.toolCall ∧ a.runtime = b.runtime := by
  obtain ⟨texts, runtimes⟩ := Bool.and_eq_true_iff.mp same
  obtain ⟨text, first, second⟩ := sameText_eq_true texts
  exact ⟨(ToolCall.traverse_alike first).of_common (ToolCall.traverse_alike second),
    of_decide_eq_true runtimes⟩

variable (json)

/-! ### The codecs of the stores -/

def sessionCodec : RecordCodec (StoredSessionRecord J) where
  sessionId record := record.session.id
  id record := record.session.id
  version record := record.version
  withVersion record version := { record with version := some version }
  sameRecord := sameSessionRecord json
  normalize := normalizeStoredSession json

def turnCodec : RecordCodec (StoredTurnRecord J) where
  sessionId record := record.turn.sessionId
  id record := record.turn.id
  version record := record.version
  withVersion record version := { record with version := some version }
  sameRecord := sameTurnRecord json
  normalize := normalizeStoredTurn json

def toolCallCodec : RecordCodec (StoredToolCallRecord J) where
  sessionId record := record.toolCall.sessionId
  id record := record.toolCall.toolCallId
  version record := record.version
  withVersion record version := { record with version := some version }
  sameRecord := sameToolCallRecord json
  normalize := normalizeStoredToolCall json

end Normalize

/-! ### Outbox envelopes -/

section Envelopes

def AggregateType.text : AggregateType → String
  | .session => "session"
  | .turn => "turn"
  | .toolCall => "tool_call"

/-- A normalized envelope: its kind, payload, runtime metadata and version. -/
inductive OutboxEnvelope (J : Type) where
  | session (payload : Session J) (runtime : SessionRuntimeMetadata) (version : Nat)
  | turn (payload : Turn J) (runtime : TurnRuntimeMetadata) (version : Nat)
  | toolCall (payload : ToolCall J) (runtime : ToolCallRuntimeMetadata) (version : Nat)
  deriving DecidableEq

variable {J : Type} (json : JsonCodec J)

def OutboxEnvelope.kind : OutboxEnvelope J → AggregateType
  | .session .. => .session
  | .turn .. => .turn
  | .toolCall .. => .toolCall

def encodeOutboxEnvelope (input : OutboxEnvelope J) (key : String) :
    Except DalError (OutboxEnvelope J) :=
  match input with
  | .session payload runtime version => do
    let decoded ← normalizeStoredSession json ⟨payload, runtime, some version⟩ key
    .ok (.session decoded.session decoded.runtime version)
  | .turn payload runtime version => do
    let decoded ← normalizeStoredTurn json ⟨payload, runtime, some version⟩ key
    .ok (.turn decoded.turn decoded.runtime version)
  | .toolCall payload runtime version => do
    let decoded ← normalizeStoredToolCall json ⟨payload, runtime, some version⟩ key
    .ok (.toolCall decoded.toolCall decoded.runtime version)

/-- An envelope that is decoded as an object has its error read and its payload checked again. -/
def decodeOutboxEnvelope (kind : AggregateType) (raw : OutboxEnvelope J) (key : String)
    (expectedVersion : Nat) : Except DalError (OutboxEnvelope J) :=
  let mismatched (version : Nat) : Except DalError (OutboxEnvelope J) :=
    .error (.corruptRecord key ("envelope version " ++ toString version ++
      " does not match outbox version " ++ toString expectedVersion))
  match kind, raw with
  | .session, .session payload runtime version => do
    let read ← payload.traverse .ok json.readError
    let payload ← validated (isSession json) key read
    if version = expectedVersion then .ok (.session payload runtime version)
    else mismatched version
  | .turn, .turn payload runtime version => do
    let read ← payload.traverse .ok json.readError
    let payload ← validated (isTurn json) key read
    if version = expectedVersion then .ok (.turn payload runtime version) else mismatched version
  | .toolCall, .toolCall payload runtime version => do
    let read ← payload.traverse .ok json.readError
    let payload ← validated (isToolCall json) key read
    if version = expectedVersion then .ok (.toolCall payload runtime version)
    else mismatched version
  | kind, raw =>
    .error (.corruptRecord key ("expected " ++ kind.text ++ ", received " ++ raw.kind.text))

def dalCodec : DalCodec (StoredSessionRecord J) (StoredTurnRecord J) (StoredToolCallRecord J)
    (OutboxEnvelope J) where
  session := sessionCodec json
  turn := turnCodec json
  toolCall := toolCallCodec json
  decodeOutboxEnvelope := decodeOutboxEnvelope json

end Envelopes

end Tvic
