import Tvic.Core.Tool
import Tvic.Runtime.SessionTransaction

/-!
# The end of a session

`persistSessionEnd` of `packages/runtime/src/session-terminalization.ts` and the requests it derives,
from `runtime-request-helpers.ts`.
-/
namespace Tvic.Runtime

open Lib

variable {J : Type}

def turnCancellationForSession : SessionCancellationReason → TurnCancellationReason
  | .callerHangup | .transportLost => .transportLost
  | .recoveryExpired => .runtimeRestarted
  | .operatorRequested | .shutdown => .explicit

def turnEndRequestForSession (request : EndSessionRequest J) : EndTurnRequest J where
  reason := match request with
    | .failed error _ | .timeout error _ => .failed error
    | .completed _ => .cancelled .explicit
    | .cancelled cancelReason _ => .cancelled (turnCancellationForSession cancelReason)
  output := none
  latency := none
  toolCallIds := none

def sessionEndedError : NormalizedError J :=
  .cancelledError (utf16 "tool.session_ended")
    (utf16 "Tool execution was stopped with the session") (by decide +kernel) (by decide +kernel)

def cancelOpenToolCall (toolCall : ToolCall J) (endedAt : Timestamp) : ToolCall J :=
  match toolCall.phase with
  | .queued => { toolCall with phase := .failed .cancelled endedAt endedAt sessionEndedError }
  | .running startedAt =>
    { toolCall with phase := .failed .cancelled startedAt endedAt sessionEndedError }
  | _ => toolCall

structure PersistedSessionEnd (J : Type) where
  session : Session J
  shouldEmit : Bool
  terminalTurns : List (Turn J)

def SessionPhase.startedAt : SessionPhase J → Option Timestamp
  | .created | .starting => none
  | .active _ startedAt => some startedAt
  | .completed startedAt _ _ => some startedAt
  | .failed startedAt _ _ _ => some startedAt
  | .cancelled startedAt _ _ _ => some startedAt

/-- `terminalFor`: an empty call id is left out. -/
def terminalFor (current : Session J) (request : EndSessionRequest J) (now : Timestamp) :
    Session J :=
  (terminalSessionFromRequest
    { current with
      callId := truthy current.callId
      state := { current.state with currentTurnId := none, pendingToolCallIds := [] } }
    ((SessionPhase.startedAt current.phase).getD now) now request).val

def endOpenTurn (request : EndSessionRequest J) (now : Timestamp)
    (durationForTurn : Turn J → Int → Timestamp → Option Int) (listed : StoredTurnRecord J) :
    Option (StoredTurnRecord J → StoredTurnRecord J) :=
  if listed.turn.isTerminal then none
  else
    let terminalTurn := (terminalTurnFromRequest listed.turn (turnEndRequestForSession request) now
      (durationForTurn listed.turn listed.runtime.monotonicStartedAtMs now)).val
    some fun record => { record with turn := terminalTurn }

def endOpenToolCall (now : Timestamp) (listed : StoredToolCallRecord J) :
    Option (StoredToolCallRecord J → StoredToolCallRecord J) :=
  if listed.toolCall.isTerminal then none
  else
    let terminalTool := cancelOpenToolCall listed.toolCall now
    some fun record => { record with toolCall := terminalTool }

variable (json : JsonCodec J)

def persistSessionEnd (id : SessionId) (request : EndSessionRequest J) (now : Timestamp)
    (fence : Nat) (durationForTurn : Turn J → Int → Timestamp → Option Int) :
    Tx J (PersistedSessionEnd J) := do
  match ← Tx.call json id (.getSession id) with
  | none => Tx.notFound ("session:" ++ id)
  | some current =>
    if current.session.isTerminal then return ⟨current.session, false, []⟩
    else
      let turns ← Tx.call json id (.listTurns id)
      let terminalTurns ← sweepTurns json id fence (endOpenTurn request now durationForTurn) turns
      let toolCalls ← Tx.call json id (.listToolCalls id)
      let _ ← sweepToolCalls json id fence (endOpenToolCall now) toolCalls
      let updated ← Tx.call json id (.updateSession id fun record =>
        .ok { record with
          session := terminalFor current.session request now
          runtime := { record.runtime with lastActivityWallAtMs := some now } })
      appendSession json id fence updated
      let terminalTurns := terminalTurns.filterMap fun record => record.map (·.turn)
      return ⟨updated.session, true,
        terminalTurns.mergeSort fun left right => left.sequence ≤ right.sequence⟩

/-! ### What the end of a session has done -/

section Effects

variable {json} {view view' : View J} {id : SessionId} {request : EndSessionRequest J}
  {now : Timestamp} {fence : Nat} {durationForTurn : Turn J → Int → Timestamp → Option Int}

theorem cancelOpenToolCall_toolCallId (toolCall : ToolCall J) (endedAt : Timestamp) :
    (cancelOpenToolCall toolCall endedAt).toolCallId = toolCall.toolCallId := by
  unfold cancelOpenToolCall
  split <;> rfl

theorem endOpenTurn_id {listed : StoredTurnRecord J}
    {updater : StoredTurnRecord J → StoredTurnRecord J}
    (chosen : endOpenTurn request now durationForTurn listed = some updater) :
    (updater listed).turn.id = listed.turn.id := by
  unfold endOpenTurn at chosen
  split at chosen
  · cases chosen
  · cases chosen
    rfl

theorem endOpenToolCall_toolCallId {listed : StoredToolCallRecord J}
    {updater : StoredToolCallRecord J → StoredToolCallRecord J}
    (chosen : endOpenToolCall now listed = some updater) :
    (updater listed).toolCall.toolCallId = listed.toolCall.toolCallId := by
  unfold endOpenToolCall at chosen
  split at chosen
  · cases chosen
  · cases chosen
    exact cancelOpenToolCall_toolCallId ..

/-- Each open turn and tool call is replaced by its end, then the session by its. -/
structure SessionEnded (json : JsonCodec J) (id : SessionId) (request : EndSessionRequest J)
    (now : Timestamp) (fence : Nat) (durationForTurn : Turn J → Int → Timestamp → Option Int)
    (view view' : View J) (turns' : List (StoredTurnRecord J))
    (toolCalls' : List (StoredToolCallRecord J)) (current stored : StoredSessionRecord J)
    (turnEvents toolEvents : List (Event J)) (sessionEvent : Event J) : Prop where
  turns : ∃ results, Swept (fun record => endOpenTurn request now durationForTurn record = none)
    (fun record stored => ∃ updater,
      endOpenTurn request now durationForTurn record = some updater ∧
      normalizeStoredTurn json { updater record with version := some (record.version.getD 1 + 1) }
        ("turn:" ++ id ++ ":" ++ record.turn.id) = .ok stored)
    (RecordsTurn json id fence) (view.turns id) results turns' turnEvents
  toolCalls : ∃ results, Swept (fun record => endOpenToolCall now record = none)
    (fun record stored => ∃ updater, endOpenToolCall now record = some updater ∧
      normalizeStoredToolCall json
        { updater record with version := some (record.version.getD 1 + 1) }
        ("tool_call:" ++ id ++ ":" ++ record.toolCall.toolCallId) = .ok stored)
    (RecordsToolCall json id fence) (view.toolCalls id) results toolCalls' toolEvents
  session : SessionReplaced json id
    (fun record => { record with
      session := terminalFor record.session request now
      runtime := { record.runtime with lastActivityWallAtMs := some now } })
    (view.session id) current stored
  recorded : RecordsSession json id fence stored sessionEvent
  view_eq : view' = view.write id turns' toolCalls' stored (turnEvents ++ toolEvents ++ [sessionEvent])

theorem persistSessionEnd_eq_ok {result : PersistedSessionEnd J} (distinct : Distinct view id)
    (returned : persistSessionEnd json id request now fence durationForTurn view =
      .ok (result, view')) :
    ∃ current, view.session id = some current ∧
      ((current.session.isTerminal = true ∧ view' = view ∧ result.shouldEmit = false) ∨
        (current.session.isTerminal = false ∧ result.shouldEmit = true ∧
          ∃ turns' toolCalls' stored turnEvents toolEvents sessionEvent,
            SessionEnded json id request now fence durationForTurn view view' turns' toolCalls'
              current stored turnEvents toolEvents sessionEvent)) := by
  obtain ⟨_, _, got, returned⟩ := Tx.bind_eq_ok.mp returned
  obtain ⟨-, rfl, rfl⟩ := Tx.getSession_eq_ok got
  cases found : view.session id with
  | none =>
    rw [found] at returned
    exact absurd returned Tx.notFound_ne_ok
  | some current =>
  rw [found] at returned
  dsimp only at returned
  split at returned
  next terminal =>
    obtain ⟨rfl, rfl⟩ := Tx.pure_eq_ok.mp returned
    exact ⟨current, rfl, .inl ⟨terminal, rfl, rfl⟩⟩
  next alive =>
    obtain ⟨_, _, listed, returned⟩ := Tx.bind_eq_ok.mp returned
    obtain ⟨-, rfl, rfl⟩ := Tx.listTurns_eq_ok listed
    obtain ⟨turnResults, _, loop, returned⟩ := Tx.bind_eq_ok.mp returned
    obtain ⟨turns', turnEvents, turnsSwept, rfl⟩ := sweepTurns_eq_ok
      (fun _ _ => endOpenTurn_id) [] rfl distinct.turns loop
    obtain ⟨_, _, listed, returned⟩ := Tx.bind_eq_ok.mp returned
    obtain ⟨-, rfl, rfl⟩ := Tx.listToolCalls_eq_ok listed
    obtain ⟨toolResults, _, loop, returned⟩ := Tx.bind_eq_ok.mp returned
    have table : ((view.setTurns id ([] ++ turns')).stageAll turnEvents).toolCalls id =
        [] ++ view.toolCalls id := by simp
    simp only [View.toolCalls_stageAll, View.toolCalls_setTurns] at loop
    obtain ⟨toolCalls', toolEvents, toolsSwept, rfl⟩ := sweepToolCalls_eq_ok
      (fun _ _ => endOpenToolCall_toolCallId) [] table distinct.toolCalls loop
    obtain ⟨updated, _, update, returned⟩ := Tx.bind_eq_ok.mp returned
    obtain ⟨-, before, next, sessionFound, next_eq, normalized, rfl⟩ := Tx.updateSession_eq_ok update
    cases next_eq
    obtain ⟨_, _, appended, returned⟩ := Tx.bind_eq_ok.mp returned
    obtain ⟨sessionEvent, recorded, rfl⟩ := appendEvent_eq_ok appended
    obtain ⟨rfl, rfl⟩ := Tx.pure_eq_ok.mp returned
    -- the loops leave the session's record as it was read
    simp only [View.session_stageAll, View.session_setTurns, View.session_setToolCalls] at sessionFound
    obtain rfl : current = before := Option.some.inj (found.symm.trans sessionFound)
    refine ⟨current, rfl, .inr ⟨by simpa using alive, rfl, turns', toolCalls', updated, turnEvents,
      toolEvents, sessionEvent, ⟨turnResults, turnsSwept⟩, ⟨toolResults, toolsSwept⟩,
      ⟨found, normalized⟩, recorded, ?_⟩⟩
    rw [View.write, View.setToolCalls_stageAll, View.setSession_stageAll, View.setSession_stageAll,
      View.stageAll_append, View.stageAll_append]
    rfl

end Effects

end Tvic.Runtime
