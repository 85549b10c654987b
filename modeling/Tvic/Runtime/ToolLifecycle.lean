import Tvic.Runtime.SessionTransaction

/-!
# Tool-call transactions

The transactions of `startToolCall`, `finishToolCall` and `recordToolCall` in
`packages/runtime/src/tool-lifecycle.ts`. The fenced and the unfenced ones have the same body but for
the version of a record that `finishToolCall` inserts.
-/
namespace Tvic.Runtime

open Lib

variable {J : Type}

/-! ### The session's state -/

def activeSessionWithState (session : Session J) (state : SessionState J) :
    Except DalError (Session J) :=
  match session.phase with
  | .active _ _ => .ok { session with state }
  | _ => .error (.error ("Expected an active session, received " ++ session.status.text))

def withPending (toolCallId : String) (state : SessionState J) : SessionState J :=
  { state with pendingToolCallIds :=
      if toolCallId ∈ state.pendingToolCallIds then state.pendingToolCallIds
      else state.pendingToolCallIds ++ [toolCallId] }

def withoutPending (toolCallId : String) (state : SessionState J) : SessionState J :=
  { state with pendingToolCallIds := state.pendingToolCallIds.filter (· ≠ toolCallId) }

def withState (next : SessionState J → SessionState J) (activityAt : Timestamp)
    (record : StoredSessionRecord J) : StoredSessionRecord J :=
  { record with
    session := { record.session with state := next record.session.state }
    runtime := { record.runtime with lastActivityWallAtMs := some activityAt } }

def updatePending (next : SessionState J → SessionState J) (activityAt : Timestamp)
    (record : StoredSessionRecord J) : Except DalError (StoredSessionRecord J) := do
  let session ← activeSessionWithState record.session (next record.session.state)
  .ok { record with
    session
    runtime := { record.runtime with lastActivityWallAtMs := some activityAt } }

theorem updatePending_eq_ok {next : SessionState J → SessionState J} {activityAt : Timestamp}
    {record record' : StoredSessionRecord J}
    (updated : updatePending next activityAt record = .ok record') :
    (∃ status, record.session.status = .active status) ∧ record' = withState next activityAt record := by
  obtain ⟨session, active, updated⟩ := bind_eq_ok.mp updated
  cases updated
  unfold activeSessionWithState at active
  split at active
  next status startedAt phase =>
    cases active
    exact ⟨⟨status, by rw [Session.status, phase]⟩, rfl⟩
  · cases active

/-! ### The transactions -/

variable (json : JsonCodec J)

/-- An input that cannot be stringified is the stored one by reference only, so never. -/
def sameInput (current incoming : J) : Bool :=
  match json.toolText current, json.toolText incoming with
  | some current, some incoming => decide (current = incoming)
  | _, _ => false

def assertToolCallIdentity (current incoming : ToolCall J) : Except DalError Unit :=
  if current.toolCallId ≠ incoming.toolCallId ∨ current.sessionId ≠ incoming.sessionId ∨
      current.turnId ≠ incoming.turnId ∨ current.toolId ≠ incoming.toolId ∨
      current.toolName ≠ incoming.toolName ∨ current.queuedAt ≠ incoming.queuedAt ∨
      (current.idempotencyKey.isSome ∧ incoming.idempotencyKey.isSome ∧
        current.idempotencyKey ≠ incoming.idempotencyKey) ∨
      sameInput json current.input incoming.input = false then
    .error (.recordConflict ("tool_call:" ++ incoming.toolCallId))
  else .ok ()

/-- `persistQueuedAndRunning` of `startToolCall`; `clockMs` is `sessionClockMs`. -/
def startToolCall (toolCall : QueuedToolCall J) (clockMs : Int) (startedAt activityAt : Timestamp)
    (fence : Nat) : Tx J Unit := do
  let sessionId := toolCall.val.sessionId
  let queuedRecord : StoredToolCallRecord J := ⟨toolCall.val, ⟨clockMs⟩, some 1⟩
  let running := { toolCall.val with phase := .running startedAt }
  Tx.call json sessionId (.putToolCall queuedRecord)
  let updatedSession ← Tx.call json sessionId
    (.updateSession sessionId (updatePending (withPending toolCall.val.toolCallId) activityAt))
  appendToolCall json sessionId fence queuedRecord
  appendSession json sessionId fence updatedSession
  let updatedTool ← Tx.call json sessionId
    (.updateToolCall sessionId toolCall.val.toolCallId fun current =>
      .ok { current with toolCall := running })
  appendToolCall json sessionId fence updatedTool

/-- The transaction of `finishToolCall`; `version` is what an inserted record says. -/
def persistToolCallEnd (toolCall : TerminalToolCall J) (clockMs : Int) (activityAt : Timestamp)
    (version : Option Nat) (fence : Nat) : Tx J (ToolCall J) := do
  let sessionId := toolCall.val.sessionId
  let toolCallId := toolCall.val.toolCallId
  match ← Tx.call json sessionId (.getToolCall sessionId toolCallId) with
  | none =>
    let inserted : StoredToolCallRecord J := ⟨toolCall.val, ⟨clockMs⟩, version⟩
    Tx.call json sessionId (.putToolCall inserted)
    let updatedSession ← Tx.call json sessionId
      (.updateSession sessionId (updatePending (withoutPending toolCallId) activityAt))
    appendToolCall json sessionId fence { inserted with version := some 1 }
    appendSession json sessionId fence updatedSession
    return toolCall.val
  | some current =>
    Tx.lift (assertToolCallIdentity json current.toolCall toolCall.val)
    if current.toolCall.isTerminal then return current.toolCall
    else
      let updatedTool ← Tx.call json sessionId
        (.updateToolCall sessionId toolCallId fun record =>
          .ok { record with toolCall := toolCall.val })
      let updatedSession ← Tx.call json sessionId
        (.updateSession sessionId (updatePending (withoutPending toolCallId) activityAt))
      appendToolCall json sessionId fence updatedTool
      appendSession json sessionId fence updatedSession
      return toolCall.val

def finishToolCall (toolCall : TerminalToolCall J) (clockMs : Int) (activityAt : Timestamp) :
    Option Nat → Tx J (ToolCall J)
  | some fence => persistToolCallEnd json toolCall clockMs activityAt (some 1) fence
  | none => persistToolCallEnd json toolCall clockMs activityAt none 0

/-- `persistOpen` of `recordToolCall`, for a call that is queued or running. -/
def persistOpen (toolCall : ToolCall J) (clockMs : Int) (activityAt : Timestamp) (fence : Nat) :
    Tx J Unit := do
  let sessionId := toolCall.sessionId
  let toolCallId := toolCall.toolCallId
  match ← Tx.call json sessionId (.getSession sessionId) with
  | none => Tx.error ("Session not found: " ++ sessionId)
  | some session =>
    if session.session.status = .active .active then
      let existing ← Tx.call json sessionId (.getToolCall sessionId toolCallId)
      match existing with
      | some existing =>
        Tx.lift (assertToolCallIdentity json existing.toolCall toolCall)
        if existing.toolCall.isTerminal then return ()
        else
          let nextToolCall :=
            if existing.toolCall.status = .running ∧ toolCall.status = .queued then
              existing.toolCall
            else toolCall
          let stored ← Tx.call json sessionId
            (.updateToolCall sessionId toolCallId fun record =>
              .ok { record with toolCall := nextToolCall })
          recordPending stored
      | none =>
        let stored : StoredToolCallRecord J := ⟨toolCall, ⟨clockMs⟩, some 1⟩
        Tx.call json sessionId (.putToolCall stored)
        recordPending stored
    else
      Tx.error ("Cannot record a tool call for " ++ session.session.status.text ++ " session: " ++
        sessionId)
where
  recordPending (stored : StoredToolCallRecord J) : Tx J Unit := do
    let sessionId := toolCall.sessionId
    let updatedSession ← Tx.call json sessionId
      (.updateSession sessionId (updatePending (withPending toolCall.toolCallId) activityAt))
    appendToolCall json sessionId fence stored
    appendSession json sessionId fence updatedSession

/-- `recordToolCall`: a call that is over is finished. -/
def recordToolCall (toolCall : ToolCall J) (clockMs : Int) (activityAt : Timestamp)
    (fence : Option Nat) : Tx J Unit :=
  if gone : toolCall.isTerminal then do
    let _ ← finishToolCall json ⟨toolCall, gone⟩ clockMs activityAt fence
    return ()
  else persistOpen json toolCall clockMs activityAt (fence.getD 0)

/-! ### What a transaction that returns has done -/

section Effects

variable {json} {view view' : View J} {sessionId : SessionId} {toolCallId : String} {fence : Nat}
  {clockMs : Int} {activityAt startedAt : Timestamp}

/-- A put: the record is there already, or it is inserted. -/
inductive ToolCallPut (json : JsonCodec J) (record : StoredToolCallRecord J)
    (toolCalls : List (StoredToolCallRecord J)) :
    StoredToolCallRecord J → List (StoredToolCallRecord J) → Prop where
  | present {existing : StoredToolCallRecord J}
      (found : toolCalls.find? (fun item =>
        item.toolCall.toolCallId = record.toolCall.toolCallId) = some existing)
      (same : sameToolCallRecord json existing record = true) :
      ToolCallPut json record toolCalls existing toolCalls
  | inserted {stored : StoredToolCallRecord J}
      (fresh : ∀ existing ∈ toolCalls,
        existing.toolCall.toolCallId ≠ record.toolCall.toolCallId)
      (normalized : normalizeStoredToolCall json
        { record with version := some (record.version.getD 1) }
        ("tool_call:" ++ record.toolCall.toolCallId) = .ok stored) :
      ToolCallPut json record toolCalls stored (toolCalls ++ [stored])

theorem ToolCallPut.found {record stored : StoredToolCallRecord J}
    {toolCalls toolCalls' : List (StoredToolCallRecord J)}
    (put : ToolCallPut json record toolCalls stored toolCalls') :
    toolCalls'.find? (fun item => item.toolCall.toolCallId = record.toolCall.toolCallId) =
      some stored := by
  cases put with
  | present found same => exact found
  | inserted fresh normalized =>
    have own := (normalizeStoredToolCall_alike normalized).1.toolCallId
    dsimp only at own
    rw [List.find?_append, List.find?_eq_none.mpr (by simpa using fresh)]
    simp [own]

theorem ToolCallPut.alike {record stored : StoredToolCallRecord J}
    {toolCalls toolCalls' : List (StoredToolCallRecord J)}
    (put : ToolCallPut json record toolCalls stored toolCalls') :
    record.toolCall.Alike stored.toolCall := by
  cases put with
  | present found same =>
    exact (ToolCall.Alike.refl record.toolCall).of_common (sameToolCallRecord_alike same).1
  | inserted fresh normalized => exact (normalizeStoredToolCall_alike normalized).1

theorem putToolCall_spec {record : StoredToolCallRecord J}
    (called : Tx.call json sessionId (.putToolCall record) view = .ok ((), view')) :
    record.toolCall.sessionId = sessionId ∧ ∃ stored toolCalls',
      ToolCallPut json record (view.toolCalls sessionId) stored toolCalls' ∧
      view' = view.setToolCalls sessionId toolCalls' := by
  obtain ⟨own, put⟩ := Tx.putToolCall_eq_ok called
  refine ⟨own, ?_⟩
  rcases put with ⟨existing, found, same, rfl⟩ | ⟨stored, fresh, normalized, rfl⟩
  · exact ⟨existing, _, .present found same, (View.setToolCalls_eq rfl).symm⟩
  · exact ⟨stored, _, .inserted fresh normalized, rfl⟩

structure PendingUpdated (json : JsonCodec J) (sessionId : SessionId)
    (next : SessionState J → SessionState J) (activityAt : Timestamp)
    (session : Option (StoredSessionRecord J)) (current stored : StoredSessionRecord J) : Prop where
  active : ∃ status, current.session.status = .active status
  replaced : SessionReplaced json sessionId (withState next activityAt) session current stored

theorem updatePending_spec {next : SessionState J → SessionState J} {id : SessionId}
    {stored : StoredSessionRecord J}
    (called : Tx.call json sessionId (.updateSession id (updatePending next activityAt)) view =
      .ok (stored, view')) :
    ∃ current,
      PendingUpdated json sessionId next activityAt (view.session sessionId) current stored ∧
      view' = view.setSession sessionId stored := by
  obtain ⟨-, current, next', found, updated, normalized, rfl⟩ := Tx.updateSession_eq_ok called
  obtain ⟨active, rfl⟩ := updatePending_eq_ok updated
  exact ⟨current, ⟨active, found, normalized⟩, rfl⟩

theorem findToolCall_split {toolCalls before after : List (StoredToolCallRecord J)}
    {current : StoredToolCallRecord J} (listed : toolCalls = before ++ current :: after)
    (others : ∀ other ∈ before, other.toolCall.toolCallId ≠ toolCallId)
    (own : current.toolCall.toolCallId = toolCallId) :
    toolCalls.find? (fun stored => stored.toolCall.toolCallId = toolCallId) = some current := by
  rw [listed, List.find?_append, List.find?_eq_none.mpr (by simpa using others)]
  simp [own]

theorem updateToolCall_spec {id : SessionId}
    {updater : StoredToolCallRecord J → StoredToolCallRecord J} {stored : StoredToolCallRecord J}
    (called : Tx.call json sessionId (.updateToolCall id toolCallId fun record =>
      .ok (updater record)) view = .ok (stored, view')) :
    ∃ current toolCalls',
      (view.toolCalls sessionId).find? (fun stored => stored.toolCall.toolCallId = toolCallId) =
        some current ∧
      ToolCallReplaced json sessionId toolCallId updater (view.toolCalls sessionId) current stored
        toolCalls' ∧
      view' = view.setToolCalls sessionId toolCalls' := by
  obtain ⟨-, before, current, after, next, listed, others, own, next_eq, normalized, rfl⟩ :=
    Tx.updateToolCall_eq_ok called
  cases next_eq
  exact ⟨current, _, findToolCall_split listed others own,
    ⟨⟨before, after, listed, others, rfl⟩, own, normalized⟩, rfl⟩

/-- A start: the queued record, put where it is not there yet, and the running one in its place. -/
structure ToolCallStarted (json : JsonCodec J) (toolCall : ToolCall J) (clockMs : Int)
    (startedAt activityAt : Timestamp) (fence : Nat) (view view' : View J)
    (queued running : StoredToolCallRecord J) (listed toolCalls' : List (StoredToolCallRecord J))
    (current stored : StoredSessionRecord J) : Prop where
  put : ToolCallPut json ⟨toolCall, ⟨clockMs⟩, some 1⟩ (view.toolCalls toolCall.sessionId) queued
    listed
  replaced : ToolCallReplaced json toolCall.sessionId toolCall.toolCallId
    (fun record => { record with toolCall := { toolCall with phase := .running startedAt } })
    listed queued running toolCalls'
  session : PendingUpdated json toolCall.sessionId (withPending toolCall.toolCallId) activityAt
    (view.session toolCall.sessionId) current stored
  written : ∃ queuedEvent sessionEvent runningEvent,
    RecordsToolCall json toolCall.sessionId fence ⟨toolCall, ⟨clockMs⟩, some 1⟩ queuedEvent ∧
    RecordsSession json toolCall.sessionId fence stored sessionEvent ∧
    RecordsToolCall json toolCall.sessionId fence running runningEvent ∧
    view' = view.write toolCall.sessionId (view.turns toolCall.sessionId) toolCalls' stored
      [queuedEvent, sessionEvent, runningEvent]

theorem startToolCall_eq_ok {toolCall : QueuedToolCall J}
    (returned : startToolCall json toolCall clockMs startedAt activityAt fence view =
      .ok ((), view')) :
    ∃ queued running listed toolCalls' current stored,
      ToolCallStarted json toolCall.val clockMs startedAt activityAt fence view view' queued running
        listed toolCalls' current stored := by
  obtain ⟨_, _, called, returned⟩ := Tx.bind_eq_ok.mp returned
  obtain ⟨-, queued, listed, put, rfl⟩ := putToolCall_spec called
  obtain ⟨stored, _, update, returned⟩ := Tx.bind_eq_ok.mp returned
  obtain ⟨current, session, rfl⟩ := updatePending_spec update
  obtain ⟨_, _, appended, returned⟩ := Tx.bind_eq_ok.mp returned
  obtain ⟨queuedEvent, queuedRecorded, rfl⟩ := appendEvent_eq_ok appended
  obtain ⟨_, _, appended, returned⟩ := Tx.bind_eq_ok.mp returned
  obtain ⟨sessionEvent, sessionRecorded, rfl⟩ := appendEvent_eq_ok appended
  obtain ⟨running, _, update, returned⟩ := Tx.bind_eq_ok.mp returned
  obtain ⟨_, toolCalls', found, replaced, rfl⟩ := updateToolCall_spec update
  obtain ⟨runningEvent, runningRecorded, rfl⟩ := appendEvent_eq_ok returned
  simp only [View.toolCalls_stage, View.toolCalls_setSession, View.toolCalls_setToolCalls] at found replaced
  -- the update finds what the put has left
  obtain rfl := Option.some.inj (found.symm.trans put.found)
  rw [View.session_setToolCalls] at session
  refine ⟨_, running, listed, toolCalls', current, stored, put, replaced, session, queuedEvent,
    sessionEvent, runningEvent, queuedRecorded, sessionRecorded, runningRecorded, ?_⟩
  rw [View.write_toolCalls, View.setToolCalls_stage, View.setToolCalls_stage,
    View.setToolCalls_setSession, View.setToolCalls_setToolCalls]
  rfl

/-- What `finishToolCall` and `recordToolCall` do to the table: the call is inserted, or takes the
place of an open call with the same identity. -/
inductive ToolCallSet (json : JsonCodec J) (incoming : ToolCall J) (clockMs : Int)
    (toolCalls : List (StoredToolCallRecord J)) :
    (next : ToolCall J) → (reported stored : StoredToolCallRecord J) →
      List (StoredToolCallRecord J) → Prop where
  | inserted {stored : StoredToolCallRecord J}
      (fresh : ∀ existing ∈ toolCalls, existing.toolCall.toolCallId ≠ incoming.toolCallId)
      (normalized : normalizeStoredToolCall json ⟨incoming, ⟨clockMs⟩, some 1⟩
        ("tool_call:" ++ incoming.toolCallId) = .ok stored) :
      ToolCallSet json incoming clockMs toolCalls incoming ⟨incoming, ⟨clockMs⟩, some 1⟩ stored
        (toolCalls ++ [stored])
  | replaced {next : ToolCall J} {current stored : StoredToolCallRecord J}
      {toolCalls' : List (StoredToolCallRecord J)}
      (identity : assertToolCallIdentity json current.toolCall incoming = .ok ())
      (unfinished : current.toolCall.isTerminal = false)
      (chosen : next = incoming ∨
        (next = current.toolCall ∧ current.toolCall.status = .running ∧ incoming.status = .queued))
      (kept : current.toolCall.status = .running → next.status ≠ .queued)
      (replaced : ToolCallReplaced json incoming.sessionId incoming.toolCallId
        (fun record => { record with toolCall := next }) toolCalls current stored toolCalls') :
      ToolCallSet json incoming clockMs toolCalls next stored stored toolCalls'

/-- The call in the table, then the session, and an event for each. -/
structure ToolCallWritten (json : JsonCodec J) (incoming : ToolCall J) (clockMs : Int)
    (nextState : SessionState J → SessionState J) (activityAt : Timestamp) (fence : Nat)
    (view view' : View J) (next : ToolCall J) (reported stored : StoredToolCallRecord J)
    (toolCalls' : List (StoredToolCallRecord J)) (current session' : StoredSessionRecord J) :
    Prop where
  table : ToolCallSet json incoming clockMs (view.toolCalls incoming.sessionId) next reported stored
    toolCalls'
  session : PendingUpdated json incoming.sessionId nextState activityAt
    (view.session incoming.sessionId) current session'
  written : ∃ toolEvent sessionEvent,
    RecordsToolCall json incoming.sessionId fence reported toolEvent ∧
    RecordsSession json incoming.sessionId fence session' sessionEvent ∧
    view' = view.write incoming.sessionId (view.turns incoming.sessionId) toolCalls' session'
      [toolEvent, sessionEvent]

theorem fresh_of_find? {toolCalls : List (StoredToolCallRecord J)}
    (absent : toolCalls.find? (fun stored => stored.toolCall.toolCallId = toolCallId) = none) :
    ∀ existing ∈ toolCalls, existing.toolCall.toolCallId ≠ toolCallId := by
  simpa using absent

theorem persistToolCallEnd_eq_ok {toolCall : TerminalToolCall J} {version : Option Nat}
    (first : version.getD 1 = 1) {result : ToolCall J}
    (returned : persistToolCallEnd json toolCall clockMs activityAt version fence view =
      .ok (result, view')) :
    view' = view ∨ ∃ reported stored toolCalls' current session',
      ToolCallWritten json toolCall.val clockMs (withoutPending toolCall.val.toolCallId) activityAt
        fence view view' toolCall.val reported stored toolCalls' current session' := by
  obtain ⟨_, _, got, returned⟩ := Tx.bind_eq_ok.mp returned
  obtain ⟨-, rfl, rfl⟩ := Tx.getToolCall_eq_ok got
  cases found : (view.toolCalls toolCall.val.sessionId).find? fun stored =>
      stored.toolCall.toolCallId = toolCall.val.toolCallId with
  | none =>
    rw [found] at returned
    obtain ⟨_, _, called, returned⟩ := Tx.bind_eq_ok.mp returned
    obtain ⟨-, stored, toolCalls', put, rfl⟩ := putToolCall_spec called
    obtain ⟨session', _, update, returned⟩ := Tx.bind_eq_ok.mp returned
    obtain ⟨current, session, rfl⟩ := updatePending_spec update
    obtain ⟨_, _, appended, returned⟩ := Tx.bind_eq_ok.mp returned
    obtain ⟨toolEvent, toolRecorded, rfl⟩ := appendEvent_eq_ok appended
    obtain ⟨_, _, appended, returned⟩ := Tx.bind_eq_ok.mp returned
    obtain ⟨sessionEvent, sessionRecorded, rfl⟩ := appendEvent_eq_ok appended
    obtain ⟨rfl, rfl⟩ := Tx.pure_eq_ok.mp returned
    rw [View.session_setToolCalls] at session
    cases put with
    | present listed same =>
      rw [found] at listed
      cases listed
    | inserted fresh normalized =>
      rw [first] at normalized
      refine .inr ⟨_, stored, _, current, session', .inserted (fresh_of_find? found) normalized,
        session, toolEvent, sessionEvent, toolRecorded, sessionRecorded, ?_⟩
      rw [View.write_toolCalls]
      rfl
  | some existing =>
    rw [found] at returned
    obtain ⟨_, _, checked, returned⟩ := Tx.bind_eq_ok.mp returned
    obtain ⟨identity, rfl⟩ := Tx.lift_eq_ok.mp checked
    split at returned
    · obtain ⟨-, rfl⟩ := Tx.pure_eq_ok.mp returned
      exact .inl rfl
    next unfinished =>
    obtain ⟨stored, _, update, returned⟩ := Tx.bind_eq_ok.mp returned
    obtain ⟨_, toolCalls', same, replaced, rfl⟩ := updateToolCall_spec update
    obtain rfl := Option.some.inj (found.symm.trans same)
    obtain ⟨session', _, update, returned⟩ := Tx.bind_eq_ok.mp returned
    obtain ⟨current, session, rfl⟩ := updatePending_spec update
    obtain ⟨_, _, appended, returned⟩ := Tx.bind_eq_ok.mp returned
    obtain ⟨toolEvent, toolRecorded, rfl⟩ := appendEvent_eq_ok appended
    obtain ⟨_, _, appended, returned⟩ := Tx.bind_eq_ok.mp returned
    obtain ⟨sessionEvent, sessionRecorded, rfl⟩ := appendEvent_eq_ok appended
    obtain ⟨rfl, rfl⟩ := Tx.pure_eq_ok.mp returned
    rw [View.session_setToolCalls] at session
    have gone : toolCall.val.status ≠ .queued := by
      intro queued
      have terminal := toolCall.property
      rw [ToolCall.isTerminal, queued] at terminal
      cases terminal
    refine .inr ⟨_, stored, toolCalls', current, session',
      .replaced identity (by simpa using unfinished) (.inl rfl) (fun _ => gone) replaced, session,
      toolEvent, sessionEvent, toolRecorded, sessionRecorded, ?_⟩
    rw [View.write_toolCalls]
    rfl

theorem recordPending_eq_ok {toolCall : ToolCall J} {reported : StoredToolCallRecord J}
    (returned : persistOpen.recordPending json toolCall activityAt fence reported view =
      .ok ((), view')) :
    ∃ current session' toolEvent sessionEvent,
      PendingUpdated json toolCall.sessionId (withPending toolCall.toolCallId) activityAt
        (view.session toolCall.sessionId) current session' ∧
      RecordsToolCall json toolCall.sessionId fence reported toolEvent ∧
      RecordsSession json toolCall.sessionId fence session' sessionEvent ∧
      view' = (view.setSession toolCall.sessionId session').stageAll [toolEvent, sessionEvent] := by
  obtain ⟨session', _, update, returned⟩ := Tx.bind_eq_ok.mp returned
  obtain ⟨current, session, rfl⟩ := updatePending_spec update
  obtain ⟨_, _, appended, returned⟩ := Tx.bind_eq_ok.mp returned
  obtain ⟨toolEvent, toolRecorded, rfl⟩ := appendEvent_eq_ok appended
  obtain ⟨sessionEvent, sessionRecorded, rfl⟩ := appendEvent_eq_ok returned
  exact ⟨current, session', toolEvent, sessionEvent, session, toolRecorded, sessionRecorded, rfl⟩

theorem nextToolCall_chosen (current incoming : ToolCall J) :
    let next := if current.status = .running ∧ incoming.status = .queued then current else incoming
    (next = incoming ∨
      (next = current ∧ current.status = .running ∧ incoming.status = .queued)) ∧
      (current.status = .running → next.status ≠ .queued) := by
  dsimp only
  split
  next both =>
    exact ⟨.inr ⟨rfl, both⟩, fun running => by rw [running]; exact nofun⟩
  next other =>
    exact ⟨.inl rfl, fun running queued => other ⟨running, queued⟩⟩

theorem persistOpen_eq_ok {toolCall : ToolCall J} 
    (returned : persistOpen json toolCall clockMs activityAt fence view = .ok ((), view')) :
    view' = view ∨ ∃ next reported stored toolCalls' current session',
      ToolCallWritten json toolCall clockMs (withPending toolCall.toolCallId) activityAt fence view
        view' next reported stored toolCalls' current session' := by
  obtain ⟨_, _, got, returned⟩ := Tx.bind_eq_ok.mp returned
  obtain ⟨-, rfl, rfl⟩ := Tx.getSession_eq_ok got
  cases sessionFound : view.session toolCall.sessionId with
  | none =>
    rw [sessionFound] at returned
    exact absurd returned Tx.error_ne_ok
  | some session =>
  rw [sessionFound] at returned
  dsimp only at returned
  split at returned
  next active =>
    obtain ⟨_, _, got, returned⟩ := Tx.bind_eq_ok.mp returned
    obtain ⟨-, rfl, rfl⟩ := Tx.getToolCall_eq_ok got
    cases found : (view.toolCalls toolCall.sessionId).find? fun stored =>
        stored.toolCall.toolCallId = toolCall.toolCallId with
    | none =>
      rw [found] at returned
      obtain ⟨_, _, called, returned⟩ := Tx.bind_eq_ok.mp returned
      obtain ⟨-, stored, toolCalls', put, rfl⟩ := putToolCall_spec called
      obtain ⟨current, session', toolEvent, sessionEvent, updated, toolRecorded, sessionRecorded,
        rfl⟩ := recordPending_eq_ok returned
      rw [View.session_setToolCalls] at updated
      cases put with
      | present listed same =>
        rw [found] at listed
        cases listed
      | inserted fresh normalized =>
        refine .inr ⟨_, _, stored, _, current, session',
          .inserted (fresh_of_find? found) normalized, updated, toolEvent, sessionEvent,
          toolRecorded, sessionRecorded, ?_⟩
        rw [View.write_toolCalls]
    | some existing =>
      rw [found] at returned
      obtain ⟨_, _, checked, returned⟩ := Tx.bind_eq_ok.mp returned
      obtain ⟨identity, rfl⟩ := Tx.lift_eq_ok.mp checked
      split at returned
      · obtain ⟨-, rfl⟩ := Tx.pure_eq_ok.mp returned
        exact .inl rfl
      next unfinished =>
      obtain ⟨stored, _, update, returned⟩ := Tx.bind_eq_ok.mp returned
      obtain ⟨_, toolCalls', same, replaced, rfl⟩ := updateToolCall_spec update
      obtain rfl := Option.some.inj (found.symm.trans same)
      obtain ⟨current, session', toolEvent, sessionEvent, updated, toolRecorded, sessionRecorded,
        rfl⟩ := recordPending_eq_ok returned
      rw [View.session_setToolCalls] at updated
      obtain ⟨chosen, kept⟩ := nextToolCall_chosen existing.toolCall toolCall
      refine .inr ⟨_, _, stored, toolCalls', current, session',
        .replaced identity (by simpa using unfinished) chosen kept replaced, updated, toolEvent,
        sessionEvent, toolRecorded, sessionRecorded, ?_⟩
      rw [View.write_toolCalls]
  · exact absurd returned Tx.error_ne_ok

theorem finishToolCall_eq_ok {toolCall : TerminalToolCall J} {lease : Option Nat}
    {result : ToolCall J}
    (returned : finishToolCall json toolCall clockMs activityAt lease view = .ok (result, view')) :
    view' = view ∨ ∃ reported stored toolCalls' current session',
      ToolCallWritten json toolCall.val clockMs (withoutPending toolCall.val.toolCallId) activityAt
        (lease.getD 0) view view' toolCall.val reported stored toolCalls' current session' := by
  cases lease with
  | none => exact persistToolCallEnd_eq_ok rfl returned
  | some fence => exact persistToolCallEnd_eq_ok rfl returned

end Effects

end Tvic.Runtime
