import Tvic.Core.Dal
import Tvic.Core.Errors

/-!
# Sessions, turns and tool calls

The records of `session.ts`, `turn.ts` and `tool.ts` in `packages/core`, their stored forms in
`dal.ts`, and `domain.ts`. The type `J` of the JSON values inside a record is a parameter, so that
`map` can pass all of them through a function.
-/
namespace Tvic

open Lib

/-- An ISO timestamp, by its milliseconds since 1970. -/
abbrev Timestamp := Int

inductive ChannelKind where
  | phone
  | webAudio
  | simulated
  deriving DecidableEq, Repr

inductive SessionCancellationReason where
  | callerHangup
  | transportLost
  | recoveryExpired
  | operatorRequested
  | shutdown
  deriving DecidableEq, Repr

inductive TerminalSource where
  | operatorStop
  | callerAbort
  | runTimeout
  | remoteTransport
  | providerRuntime
  | normalCompletion
  | runtimeRecovery
  | runtimeShutdown
  | legacyUnknown
  deriving DecidableEq, Repr

/-! ### Sessions -/

structure SessionState (J : Type) where
  sessionVariables : J
  currentTurnId : Option String
  pendingToolCallIds : List String
  turnSequence : Nat
  deriving DecidableEq

inductive ActiveSessionStatus where
  | active
  | interrupted
  | waitingForTool
  | ending
  deriving DecidableEq, Repr

/-- A status with the fields that only sessions of that status have. -/
inductive SessionPhase (J : Type) where
  | created
  | starting
  | active (status : ActiveSessionStatus) (startedAt : Timestamp)
  | completed (startedAt endedAt : Timestamp) (terminalSource : Option TerminalSource)
  | failed (startedAt endedAt : Timestamp) (terminalSource : Option TerminalSource)
      (error : NormalizedError J)
  | cancelled (startedAt endedAt : Timestamp) (terminalSource : Option TerminalSource)
      (cancelReason : SessionCancellationReason)
  deriving DecidableEq

structure Session (J : Type) where
  id : SessionId
  agentId : String
  channel : ChannelKind
  callId : Option String
  memoryRefs : List String
  metadata : Option J
  createdAt : Timestamp
  state : SessionState J
  phase : SessionPhase J
  deriving DecidableEq

/-! ### Turns -/

inductive TurnCancellationReason where
  | bargeIn
  | dtmf
  | explicit
  | timeout
  | notHeard
  | transportLost
  | leaseLost
  | runtimeRestarted
  deriving DecidableEq, Repr

inductive AudioOutputDeliveryStatus where
  | notAttempted
  | notAccepted
  | partiallyAccepted
  | transportAccepted
  | playoutConfirmed
  | playoutUnconfirmed
  deriving DecidableEq, Repr

inductive TextOutputDeliveryStatus where
  | notAttempted
  | notAccepted
  | transportAccepted
  deriving DecidableEq, Repr

structure TurnOutputDelivery where
  audio : AudioOutputDeliveryStatus
  text : TextOutputDeliveryStatus
  deriving DecidableEq, Repr

structure TurnInput (J : Type) where
  transcript : Option Text
  mediaEventIds : List String
  metadata : Option J
  deriving DecidableEq

structure TurnOutput (J : Type) where
  text : Option Text
  mediaEventIds : List String
  metadata : Option J
  delivery : Option TurnOutputDelivery
  deriving DecidableEq

structure TurnLatency where
  listenedMs : Option Int
  endpointMs : Option Int
  firstTokenMs : Option Int
  firstAudioMs : Option Int
  toolMs : Option Int
  interruptionTailMs : Option Int
  totalMs : Option Int
  recoveryGapMs : Option Int
  deriving DecidableEq, Repr

namespace TurnLatency

def empty : TurnLatency := ⟨none, none, none, none, none, none, none, none⟩

/-- `{ ...latency, ...update }` -/
def spread (latency update : TurnLatency) : TurnLatency where
  listenedMs := update.listenedMs.or latency.listenedMs
  endpointMs := update.endpointMs.or latency.endpointMs
  firstTokenMs := update.firstTokenMs.or latency.firstTokenMs
  firstAudioMs := update.firstAudioMs.or latency.firstAudioMs
  toolMs := update.toolMs.or latency.toolMs
  interruptionTailMs := update.interruptionTailMs.or latency.interruptionTailMs
  totalMs := update.totalMs.or latency.totalMs
  recoveryGapMs := update.recoveryGapMs.or latency.recoveryGapMs

def fields (latency : TurnLatency) : List (Option Int) :=
  [latency.listenedMs, latency.endpointMs, latency.firstTokenMs, latency.firstAudioMs,
    latency.toolMs, latency.interruptionTailMs, latency.totalMs, latency.recoveryGapMs]

end TurnLatency

inductive ActiveTurnStatus where
  | started
  | listening
  | thinking
  | callingTool
  | speaking
  | interrupted
  deriving DecidableEq, Repr

inductive TurnPhase (J : Type) where
  | active (status : ActiveTurnStatus)
  | completed (endedAt : Timestamp)
  | cancelled (endedAt : Timestamp) (reason : TurnCancellationReason)
  | failed (endedAt : Timestamp) (error : NormalizedError J)
  deriving DecidableEq

structure Turn (J : Type) where
  id : String
  sessionId : SessionId
  sequence : Nat
  input : TurnInput J
  output : TurnOutput J
  toolCallIds : List String
  startedAt : Timestamp
  latency : TurnLatency
  metadata : Option J
  phase : TurnPhase J
  deriving DecidableEq

/-! ### Tool calls -/

inductive FailedToolCallStatus where
  | failed
  | timedOut
  | cancelled
  deriving DecidableEq, Repr

inductive ToolCallPhase (J : Type) where
  | queued
  | running (startedAt : Timestamp)
  | succeeded (startedAt endedAt : Timestamp) (output : J)
  | failed (status : FailedToolCallStatus) (startedAt endedAt : Timestamp)
      (error : NormalizedError J)
  deriving DecidableEq

structure ToolCall (J : Type) where
  toolCallId : String
  toolId : String
  toolName : String
  sessionId : SessionId
  turnId : String
  input : J
  attempts : Nat
  idempotencyKey : Option String
  metadata : Option J
  queuedAt : Timestamp
  phase : ToolCallPhase J
  deriving DecidableEq

/-! ### Stored records -/

structure SessionRuntimeMetadata where
  monotonicStartedAtMs : Int
  lastActivityWallAtMs : Option Int
  clockEpoch : Option Int
  clockDiscontinuityMs : Option Int
  deriving DecidableEq, Repr

structure TurnRuntimeMetadata where
  monotonicStartedAtMs : Int
  recoveryGapMs : Option Int
  deriving DecidableEq, Repr

structure ToolCallRuntimeMetadata where
  monotonicQueuedAtMs : Int
  deriving DecidableEq, Repr

structure StoredSessionRecord (J : Type) where
  session : Session J
  runtime : SessionRuntimeMetadata
  version : Option Nat
  deriving DecidableEq

structure StoredTurnRecord (J : Type) where
  turn : Turn J
  runtime : TurnRuntimeMetadata
  version : Option Nat
  deriving DecidableEq

structure StoredToolCallRecord (J : Type) where
  toolCall : ToolCall J
  runtime : ToolCallRuntimeMetadata
  version : Option Nat
  deriving DecidableEq

/-! ### Statuses -/

variable {J : Type}

inductive Session.Status where
  | created
  | starting
  | active (status : ActiveSessionStatus)
  | completed
  | failed
  | cancelled
  deriving DecidableEq, Repr

def Session.Status.text : Session.Status → String
  | .created => "created"
  | .starting => "starting"
  | .active .active => "active"
  | .active .interrupted => "interrupted"
  | .active .waitingForTool => "waiting_for_tool"
  | .active .ending => "ending"
  | .completed => "completed"
  | .failed => "failed"
  | .cancelled => "cancelled"

def Session.status (session : Session J) : Session.Status :=
  match session.phase with
  | .created => .created
  | .starting => .starting
  | .active status _ => .active status
  | .completed .. => .completed
  | .failed .. => .failed
  | .cancelled .. => .cancelled

inductive Turn.Status where
  | active (status : ActiveTurnStatus)
  | completed
  | cancelled
  | failed
  deriving DecidableEq, Repr

def Turn.Status.text : Turn.Status → String
  | .active .started => "started"
  | .active .listening => "listening"
  | .active .thinking => "thinking"
  | .active .callingTool => "calling_tool"
  | .active .speaking => "speaking"
  | .active .interrupted => "interrupted"
  | .completed => "completed"
  | .cancelled => "cancelled"
  | .failed => "failed"

def Turn.status (turn : Turn J) : Turn.Status :=
  match turn.phase with
  | .active status => .active status
  | .completed .. => .completed
  | .cancelled .. => .cancelled
  | .failed .. => .failed

inductive ToolCall.Status where
  | queued
  | running
  | succeeded
  | failed (status : FailedToolCallStatus)
  deriving DecidableEq, Repr

def ToolCall.Status.text : ToolCall.Status → String
  | .queued => "queued"
  | .running => "running"
  | .succeeded => "succeeded"
  | .failed .failed => "failed"
  | .failed .timedOut => "timed_out"
  | .failed .cancelled => "cancelled"

def ToolCall.status (toolCall : ToolCall J) : ToolCall.Status :=
  match toolCall.phase with
  | .queued => .queued
  | .running .. => .running
  | .succeeded .. => .succeeded
  | .failed status .. => .failed status

def Session.Status.isTerminal : Session.Status → Bool
  | .completed | .failed | .cancelled => true
  | _ => false

def Turn.Status.isTerminal : Turn.Status → Bool
  | .active _ => false
  | _ => true

def ToolCall.Status.isTerminal : ToolCall.Status → Bool
  | .queued | .running => false
  | _ => true

/-! ### Terminal records -/

def Session.isTerminal (session : Session J) : Bool := session.status.isTerminal

def Turn.isTerminal (turn : Turn J) : Bool := turn.status.isTerminal

def ToolCall.isTerminal (toolCall : ToolCall J) : Bool := toolCall.status.isTerminal

abbrev ActiveTurn (J : Type) := { turn : Turn J // turn.isTerminal = false }

abbrev TerminalTurn (J : Type) := { turn : Turn J // turn.isTerminal = true }

abbrev TerminalSession (J : Type) := { session : Session J // session.isTerminal = true }

abbrev QueuedToolCall (J : Type) := { toolCall : ToolCall J // toolCall.phase = .queued }

abbrev TerminalToolCall (J : Type) := { toolCall : ToolCall J // toolCall.isTerminal = true }

/-! ### Requests -/

/-- The source narrows `terminalSource` to each reason; here it is any. -/
inductive EndSessionRequest (J : Type) where
  | completed (terminalSource : Option TerminalSource)
  | cancelled (cancelReason : SessionCancellationReason) (terminalSource : Option TerminalSource)
  | failed (error : NormalizedError J) (terminalSource : Option TerminalSource)
  | timeout (error : NormalizedError J) (terminalSource : Option TerminalSource)
  deriving DecidableEq

inductive EndTurnReason (J : Type) where
  | completed
  | cancelled (cancelReason : TurnCancellationReason)
  | failed (error : NormalizedError J)
  deriving DecidableEq

structure EndTurnRequest (J : Type) where
  reason : EndTurnReason J
  output : Option (TurnOutput J)
  latency : Option TurnLatency
  toolCallIds : Option (List String)
  deriving DecidableEq

def terminalSourceForRequest : EndSessionRequest J → TerminalSource
  | .completed terminalSource => terminalSource.getD .normalCompletion
  | .failed _ terminalSource => terminalSource.getD .legacyUnknown
  | .timeout _ terminalSource => terminalSource.getD .runTimeout
  | .cancelled cancelReason terminalSource => terminalSource.getD <|
    match cancelReason with
    | .callerHangup => .callerAbort
    | .transportLost => .remoteTransport
    | .operatorRequested => .operatorStop
    | .recoveryExpired => .runtimeRecovery
    | .shutdown => .runtimeShutdown

/-- The phase that `terminalSessionFromRequest` gives a draft with these timestamps. -/
def terminalSessionPhase (startedAt endedAt : Timestamp) (request : EndSessionRequest J) :
    SessionPhase J :=
  let terminalSource := some (terminalSourceForRequest request)
  match request with
  | .completed _ => .completed startedAt endedAt terminalSource
  | .cancelled cancelReason _ => .cancelled startedAt endedAt terminalSource cancelReason
  | .failed error _ | .timeout error _ => .failed startedAt endedAt terminalSource error

/-- `terminalSessionFromRequest`, where the draft is a session with its phase left out. -/
def terminalSessionFromRequest (draft : Session J) (startedAt endedAt : Timestamp)
    (request : EndSessionRequest J) : TerminalSession J :=
  ⟨{ draft with phase := terminalSessionPhase startedAt endedAt request }, by
    cases request <;> rfl⟩

def terminalTurnPhase (endedAt : Timestamp) : EndTurnReason J → TurnPhase J
  | .completed => .completed endedAt
  | .cancelled cancelReason => .cancelled endedAt cancelReason
  | .failed error => .failed endedAt error

def terminalTurnFromRequest (turn : Turn J) (request : EndTurnRequest J) (endedAt : Timestamp)
    (durationMs : Option Int) : TerminalTurn J :=
  let latency := request.latency.getD .empty
  ⟨{ turn with
      output := request.output.getD turn.output
      toolCallIds := request.toolCallIds.getD turn.toolCallIds
      latency := (turn.latency.spread latency).spread
        (if latency.totalMs = none then { TurnLatency.empty with totalMs := durationMs } else .empty)
      phase := terminalTurnPhase endedAt request.reason }, by
    cases h : request.reason <;> rfl⟩

end Tvic
