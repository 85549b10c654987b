import Tvic.Runtime.ToolLifecycle
import Tvic.Runtime.ToolRecovery

/-!
# The recovery transaction of an attachment

The transaction in which `attachRuntimeSession` closes the work that a former runtime left open, from
`packages/runtime/src/runtime-attachment.ts`.
-/
namespace Tvic.Runtime

open Lib

variable {N : Type}

def durationForTerminalTurn (turnStartedAt endedAt : Timestamp) : Int :=
  max 0 (endedAt - turnStartedAt)

/-- What the transaction takes from outside: clock readings, by the record they are for, the time of
the attachment, the gap since the last activity and the gap that is too long. -/
structure RecoveryReadings where
  turnRecoveredAt : String → Timestamp
  toolRecoveredAt : String → Timestamp
  nowMs : Timestamp
  recoveryGapMs : Int
  recoveryGraceMs : Int

def orphanedTurn (readings : RecoveryReadings) (turn : Turn (JsValue N)) : Turn (JsValue N) :=
  let recoveredAt := readings.turnRecoveredAt turn.id
  (terminalTurnFromRequest turn
    { reason := .cancelled .runtimeRestarted
      output := none
      latency := some { TurnLatency.empty with recoveryGapMs := some readings.recoveryGapMs }
      toolCallIds := none }
    recoveredAt (some (durationForTerminalTurn turn.startedAt recoveredAt))).val

def recoverTurn (readings : RecoveryReadings) (listed : StoredTurnRecord (JsValue N)) :
    Option (StoredTurnRecord (JsValue N) → StoredTurnRecord (JsValue N)) :=
  if listed.turn.isTerminal then none
  else
    some fun record => { record with
      turn := orphanedTurn readings listed.turn
      runtime := { record.runtime with recoveryGapMs := some readings.recoveryGapMs } }

variable (json : JsonCodec (JsValue N))

def recoverToolCall (snapshot : ToolRecoverySnapshot (JsValue N)) (readings : RecoveryReadings)
    (listed : StoredToolCallRecord (JsValue N)) :
    Option (StoredToolCallRecord (JsValue N) → StoredToolCallRecord (JsValue N)) :=
  match listed.toolCall.phase with
  | .running startedAt =>
    let toolCallId := listed.toolCall.toolCallId
    let recoveredTool := resolvePreparedToolRecovery json listed startedAt
      (snapshot.prepared.lookup toolCallId) (readings.toolRecoveredAt toolCallId)
    some fun record => { record with toolCall := recoveredTool }
  | _ => none

def withRecovery (readings : RecoveryReadings) (turnSequence : Nat)
    (pendingToolCallIds : List String) (record : StoredSessionRecord (JsValue N)) :
    StoredSessionRecord (JsValue N) :=
  { record with
    session := { record.session with
      state := { record.session.state with
        currentTurnId := none, turnSequence, pendingToolCallIds } }
    runtime := { record.runtime with
      lastActivityWallAtMs := some readings.nowMs
      clockEpoch := some (record.runtime.clockEpoch.getD 0 + 1)
      clockDiscontinuityMs :=
        if readings.recoveryGraceMs < readings.recoveryGapMs then some readings.recoveryGapMs
        else record.runtime.clockDiscontinuityMs } }

def ensureActiveSession (session : Session (JsValue N)) : Except DalError Unit :=
  match session.phase with
  | .active _ _ => .ok ()
  | _ => .error (.error ("Expected an active session, received " ++ session.status.text))

def maxSequence (turns : List (StoredTurnRecord (JsValue N))) (former : Nat) : Nat :=
  turns.foldl (fun sequence record => max sequence record.turn.sequence) former

def queuedToolCallIds (records : List (StoredToolCallRecord (JsValue N))) : List String :=
  (records.filter fun record => record.toolCall.status = .queued).map (·.toolCall.toolCallId)

structure SessionSnapshot (J : Type) where
  session : Session J
  turns : List (Turn J)
  toolCalls : List (ToolCall J)

/-- What a loop has made of each record: the updated one, or the listed one. -/
def recovered {ρ : Type} (listed : List ρ) (results : List (Option ρ)) : List ρ :=
  List.zipWith (fun record result => result.getD record) listed results

def Session.isActive (session : Session (JsValue N)) : Bool :=
  match session.phase with
  | .active _ _ => true
  | _ => false

/-- `toolRecords` of the transaction: read again only where a running call was prepared. -/
def toolRecordsToRecover (sessionId : SessionId) (snapshot : ToolRecoverySnapshot (JsValue N)) :
    Tx (JsValue N) (List (StoredToolCallRecord (JsValue N))) :=
  if snapshot.prepared.isEmpty then pure snapshot.records
  else Tx.call json sessionId (.listToolCalls sessionId)

/-- The transaction, and the turns it has ended. -/
def recoverAttachment (sessionId : SessionId) (snapshot : ToolRecoverySnapshot (JsValue N))
    (readings : RecoveryReadings) (fence : Nat) :
    Tx (JsValue N) (SessionSnapshot (JsValue N) × List (Turn (JsValue N))) := do
  match ← Tx.call json sessionId (.getSession sessionId) with
  | none => Tx.error ("Session is no longer attachable: " ++ sessionId)
  | some current =>
    if Session.isActive current.session then
      let turns ← Tx.call json sessionId (.listTurns sessionId)
      let turnResults ← sweepTurns json sessionId fence (recoverTurn readings) turns
      let toolRecords ← toolRecordsToRecover json sessionId snapshot
      let toolResults ← sweepToolCalls json sessionId fence
        (recoverToolCall json snapshot readings) toolRecords
      let updatedSession ← Tx.call json sessionId (.updateSession sessionId fun record => do
        ensureActiveSession record.session
        .ok (withRecovery readings (maxSequence turns current.session.state.turnSequence)
          (queuedToolCallIds toolRecords) record))
      appendSession json sessionId fence updatedSession
      return (⟨updatedSession.session, (recovered turns turnResults).map (·.turn),
          (recovered toolRecords toolResults).map (·.toolCall)⟩,
        (turns.filter fun record => !record.turn.isTerminal).map fun record =>
          orphanedTurn readings record.turn)
    else Tx.error ("Session is no longer attachable: " ++ sessionId)

/-! ### What a recovery has done -/

section Effects

variable {json} {view view' : View (JsValue N)} {sessionId : SessionId} {fence : Nat}
  {snapshot : ToolRecoverySnapshot (JsValue N)} {readings : RecoveryReadings}

/-- Each open turn and each running tool call is replaced by its end, then the session. -/
structure Recovered (json : JsonCodec (JsValue N)) (sessionId : SessionId)
    (snapshot : ToolRecoverySnapshot (JsValue N)) (readings : RecoveryReadings) (fence : Nat)
    (view view' : View (JsValue N)) (toolRecords : List (StoredToolCallRecord (JsValue N)))
    (turns' : List (StoredTurnRecord (JsValue N)))
    (toolCalls' : List (StoredToolCallRecord (JsValue N)))
    (current stored : StoredSessionRecord (JsValue N))
    (turnEvents toolEvents : List (Event (JsValue N))) (sessionEvent : Event (JsValue N)) :
    Prop where
  active : ∃ status startedAt, current.session.phase = .active status startedAt
  turns : ∃ results, Swept (fun record => recoverTurn readings record = none)
    (fun record stored => ∃ updater, recoverTurn readings record = some updater ∧
      normalizeStoredTurn json { updater record with version := some (record.version.getD 1 + 1) }
        ("turn:" ++ sessionId ++ ":" ++ record.turn.id) = .ok stored)
    (RecordsTurn json sessionId fence) (view.turns sessionId) results turns' turnEvents
  listed : toolRecords = if snapshot.prepared.isEmpty then snapshot.records
    else view.toolCalls sessionId
  toolCalls : if snapshot.prepared.isEmpty then
      toolCalls' = view.toolCalls sessionId ∧ toolEvents = []
    else ∃ results, Swept (fun record => recoverToolCall json snapshot readings record = none)
      (fun record stored => ∃ updater,
        recoverToolCall json snapshot readings record = some updater ∧
        normalizeStoredToolCall json
          { updater record with version := some (record.version.getD 1 + 1) }
          ("tool_call:" ++ sessionId ++ ":" ++ record.toolCall.toolCallId) = .ok stored)
      (RecordsToolCall json sessionId fence) (view.toolCalls sessionId) results toolCalls' toolEvents
  session : SessionReplaced json sessionId
    (withRecovery readings (maxSequence (view.turns sessionId) current.session.state.turnSequence)
      (queuedToolCallIds toolRecords))
    (view.session sessionId) current stored
  recorded : RecordsSession json sessionId fence stored sessionEvent
  view_eq : view' = view.write sessionId turns' toolCalls' stored
    (turnEvents ++ toolEvents ++ [sessionEvent])

theorem recoverTurn_id {listed : StoredTurnRecord (JsValue N)}
    {updater : StoredTurnRecord (JsValue N) → StoredTurnRecord (JsValue N)}
    (chosen : recoverTurn readings listed = some updater) :
    (updater listed).turn.id = listed.turn.id := by
  unfold recoverTurn at chosen
  split at chosen
  · cases chosen
  · cases chosen
    rfl

/-- The identity of a call, which no recovery changes. -/
structure SameIdentity (a b : ToolCall (JsValue N)) : Prop where
  toolCallId : b.toolCallId = a.toolCallId
  toolId : b.toolId = a.toolId
  toolName : b.toolName = a.toolName
  sessionId : b.sessionId = a.sessionId
  turnId : b.turnId = a.turnId
  queuedAt : b.queuedAt = a.queuedAt
  input : b.input = a.input

theorem ambiguousRecoveredToolCall_identity (toolCall : ToolCall (JsValue N))
    (startedAt endedAt : Timestamp) :
    SameIdentity toolCall (ambiguousRecoveredToolCall toolCall startedAt endedAt) :=
  ⟨rfl, rfl, rfl, rfl, rfl, rfl, rfl⟩

theorem prepared_identity {lookup : String → ToolRecoveryLookup (JsValue N)}
    {records : List (StoredToolCallRecord (JsValue N))} {toolCallId : String}
    {prepared : PreparedToolRecovery (JsValue N)}
    (found : (prepareToolRecovery lookup records).prepared.lookup toolCallId = some prepared) :
    ∃ record ∈ records, record.toolCall.toolCallId = toolCallId ∧
      prepared.version = record.version ∧ prepared.toolCall = record.toolCall ∧
      record.toolCall.status = .running ∧
      ∀ replayed ∈ prepared.replayed, SameIdentity record.toolCall replayed ∧
        replayed.isTerminal = true := by
  obtain ⟨before, after, split, -⟩ := List.lookup_eq_some_iff.mp found
  have member : (toolCallId, prepared) ∈ records.filterMap (prepareToolCall lookup) := by
    rw [show records.filterMap (prepareToolCall lookup) = _ from split]
    simp
  obtain ⟨record, listed, prepares⟩ := List.mem_filterMap.mp member
  unfold prepareToolCall at prepares
  split at prepares
  next startedAt phase =>
    cases prepares
    refine ⟨record, listed, rfl, rfl, rfl, by rw [ToolCall.status, phase], fun replayed from_ => ?_⟩
    obtain ⟨⟨key, outcome⟩, -, rfl⟩ := Option.map_eq_some_iff.mp from_
    refine ⟨⟨rfl, rfl, rfl, rfl, rfl, rfl, rfl⟩, ?_⟩
    cases outcome <;> rfl
  · cases prepares

variable {lookup : String → ToolRecoveryLookup (JsValue N)}
  {records : List (StoredToolCallRecord (JsValue N))}

/-- What a recovered call becomes: the ambiguous end of the call itself, or the replay that was
prepared for a record of the same id and version. -/
theorem resolvePreparedToolRecovery_cases {current : StoredToolCallRecord (JsValue N)}
    {startedAt fallbackEndedAt : Timestamp} :
    let resolved := resolvePreparedToolRecovery json current startedAt
      ((prepareToolRecovery lookup records).prepared.lookup current.toolCall.toolCallId)
      fallbackEndedAt
    resolved.isTerminal = true ∧ resolved.toolCallId = current.toolCall.toolCallId ∧
      (SameIdentity current.toolCall resolved ∨
        ∃ record ∈ records, record.toolCall.toolCallId = current.toolCall.toolCallId ∧
          record.version = current.version ∧ SameIdentity record.toolCall resolved) := by
  have ambiguous (endedAt : Timestamp) :
      let resolved := ambiguousRecoveredToolCall current.toolCall startedAt endedAt
      resolved.isTerminal = true ∧ resolved.toolCallId = current.toolCall.toolCallId ∧
        (SameIdentity current.toolCall resolved ∨
          ∃ record ∈ records, record.toolCall.toolCallId = current.toolCall.toolCallId ∧
            record.version = current.version ∧ SameIdentity record.toolCall resolved) :=
    ⟨rfl, rfl, .inl (ambiguousRecoveredToolCall_identity ..)⟩
  cases found : (prepareToolRecovery lookup records).prepared.lookup current.toolCall.toolCallId with
  | none => exact ambiguous _
  | some prepared =>
    obtain ⟨record, listed, own, version, -, -, replays⟩ := prepared_identity found
    simp only [resolvePreparedToolRecovery]
    split
    next matching =>
      cases replayed : prepared.replayed with
      | none => exact ambiguous _
      | some resolved =>
        obtain ⟨same, terminal⟩ := replays resolved replayed
        refine ⟨terminal, same.toolCallId.trans own, .inr ⟨record, listed, own, ?_, same⟩⟩
        rw [← version]
        simp only [Bool.or_eq_true, Bool.and_eq_true, beq_iff_eq, Option.isNone_iff_eq_none] at matching
        rcases matching with ⟨_, versions⟩ | ⟨⟨none, none'⟩, _⟩
        · exact versions
        · rw [none, none']
    · exact ambiguous _

theorem recoverToolCall_spec {listed : StoredToolCallRecord (JsValue N)}
    {updater : StoredToolCallRecord (JsValue N) → StoredToolCallRecord (JsValue N)}
    (chosen : recoverToolCall json (prepareToolRecovery lookup records) readings listed =
      some updater) :
    listed.toolCall.status = .running ∧ (updater listed).toolCall.isTerminal = true ∧
      (updater listed).toolCall.toolCallId = listed.toolCall.toolCallId ∧
      (SameIdentity listed.toolCall (updater listed).toolCall ∨
        ∃ record ∈ records, record.toolCall.toolCallId = listed.toolCall.toolCallId ∧
          record.version = listed.version ∧
          SameIdentity record.toolCall (updater listed).toolCall) := by
  unfold recoverToolCall at chosen
  split at chosen
  next startedAt phase =>
    cases chosen
    exact ⟨by rw [ToolCall.status, phase], resolvePreparedToolRecovery_cases⟩
  · cases chosen

theorem prepared_nonempty {record : StoredToolCallRecord (JsValue N)} (listed : record ∈ records)
    (running : record.toolCall.status = .running) :
    (prepareToolRecovery lookup records).prepared.isEmpty = false := by
  rw [List.isEmpty_eq_false_iff_exists_mem]
  have prepares : ∃ prepared, prepareToolCall lookup record = some prepared := by
    unfold prepareToolCall
    cases phase : record.toolCall.phase with
    | running startedAt => exact ⟨_, rfl⟩
    | _ => simp [ToolCall.status, phase] at running
  obtain ⟨prepared, prepares⟩ := prepares
  exact ⟨prepared, List.mem_filterMap.mpr ⟨record, listed, prepares⟩⟩

theorem recoverToolCall_eq_none {listed : StoredToolCallRecord (JsValue N)} :
    recoverToolCall json snapshot readings listed = none ↔ listed.toolCall.status ≠ .running := by
  unfold recoverToolCall ToolCall.status
  cases listed.toolCall.phase <;> simp

theorem Session.isActive_iff {session : Session (JsValue N)} :
    Session.isActive session = true ↔
      ∃ status startedAt, session.phase = .active status startedAt := by
  unfold Session.isActive
  cases session.phase <;> simp

theorem recoverTools_eq_ok {view middle view' : View (JsValue N)}
    {toolRecords : List (StoredToolCallRecord (JsValue N))}
    {results : List (Option (StoredToolCallRecord (JsValue N)))}
    (distinct : ((view.toolCalls sessionId).map (·.toolCall.toolCallId)).Nodup)
    (listed : toolRecordsToRecover json sessionId (prepareToolRecovery lookup records) view =
      .ok (toolRecords, middle))
    (loop : sweepToolCalls json sessionId fence
      (recoverToolCall json (prepareToolRecovery lookup records) readings) toolRecords middle =
        .ok (results, view')) :
    toolRecords = (if (prepareToolRecovery lookup records).prepared.isEmpty then records
      else view.toolCalls sessionId) ∧
    ∃ toolCalls' toolEvents,
      (if (prepareToolRecovery lookup records).prepared.isEmpty then
        toolCalls' = view.toolCalls sessionId ∧ toolEvents = []
      else ∃ results, Swept
        (fun record => recoverToolCall json (prepareToolRecovery lookup records) readings record =
          none)
        (fun record stored => ∃ updater,
          recoverToolCall json (prepareToolRecovery lookup records) readings record =
            some updater ∧
          normalizeStoredToolCall json
            { updater record with version := some (record.version.getD 1 + 1) }
            ("tool_call:" ++ sessionId ++ ":" ++ record.toolCall.toolCallId) = .ok stored)
        (RecordsToolCall json sessionId fence) (view.toolCalls sessionId) results toolCalls'
        toolEvents) ∧
      view' = (view.setToolCalls sessionId toolCalls').stageAll toolEvents := by
  unfold toolRecordsToRecover at listed
  split at listed
  next nothing =>
    obtain ⟨sameRecords, rfl⟩ := Tx.pure_eq_ok.mp listed
    obtain rfl : records = toolRecords := sameRecords
    rw [if_pos nothing]
    have quiet : ∀ record ∈ records,
        recoverToolCall json (prepareToolRecovery lookup records) readings record = none :=
      fun record member => recoverToolCall_eq_none.mpr fun running => by
        rw [prepared_nonempty member running] at nothing
        cases nothing
    obtain rfl := sweepToolCalls_keep quiet loop
    exact ⟨rfl, _, [], by rw [if_pos nothing]; exact ⟨rfl, rfl⟩, (View.setToolCalls_eq rfl).symm⟩
  next something =>
    obtain ⟨-, rfl, rfl⟩ := Tx.listToolCalls_eq_ok listed
    obtain ⟨toolCalls', toolEvents, swept, rfl⟩ := sweepToolCalls_eq_ok
      (fun _ _ chosen => (recoverToolCall_spec chosen).2.2.1) [] rfl distinct loop
    rw [if_neg something]
    exact ⟨rfl, toolCalls', toolEvents, by rw [if_neg something]; exact ⟨results, swept⟩, rfl⟩

theorem recoverAttachment_eq_ok
    {result : SessionSnapshot (JsValue N) × List (Turn (JsValue N))}
    (distinct : Distinct view sessionId)
    (returned : recoverAttachment json sessionId (prepareToolRecovery lookup records) readings fence
      view = .ok (result, view')) :
    ∃ toolRecords turns' toolCalls' current stored turnEvents toolEvents sessionEvent,
      Recovered json sessionId (prepareToolRecovery lookup records) readings fence view view'
        toolRecords turns' toolCalls' current stored turnEvents toolEvents sessionEvent := by
  obtain ⟨_, _, got, returned⟩ := Tx.bind_eq_ok.mp returned
  obtain ⟨-, rfl, rfl⟩ := Tx.getSession_eq_ok got
  cases found : view.session sessionId with
  | none =>
    rw [found] at returned
    exact absurd returned Tx.error_ne_ok
  | some current =>
  rw [found] at returned
  dsimp only at returned
  split at returned
  next active =>
    obtain ⟨_, _, listed, returned⟩ := Tx.bind_eq_ok.mp returned
    obtain ⟨-, rfl, rfl⟩ := Tx.listTurns_eq_ok listed
    obtain ⟨turnResults, _, loop, returned⟩ := Tx.bind_eq_ok.mp returned
    obtain ⟨turns', turnEvents, turnsSwept, rfl⟩ := sweepTurns_eq_ok
      (fun _ _ => recoverTurn_id) [] rfl distinct.turns loop
    obtain ⟨toolRecords, _, listed, returned⟩ := Tx.bind_eq_ok.mp returned
    obtain ⟨toolResults, middle, loop, returned⟩ := Tx.bind_eq_ok.mp returned
    have swept := recoverTools_eq_ok (by simpa using distinct.toolCalls) listed loop
    obtain ⟨toolRecords_eq, toolCalls', toolEvents, toolsSwept, rfl⟩ := swept
    obtain ⟨updated, _, update, returned⟩ := Tx.bind_eq_ok.mp returned
    obtain ⟨-, before, next, sessionFound, next_eq, normalized, rfl⟩ := Tx.updateSession_eq_ok update
    obtain ⟨_, -, next_eq⟩ := Tvic.bind_eq_ok.mp next_eq
    cases next_eq
    obtain ⟨_, _, appended, returned⟩ := Tx.bind_eq_ok.mp returned
    obtain ⟨sessionEvent, recorded, rfl⟩ := appendEvent_eq_ok appended
    obtain ⟨rfl, rfl⟩ := Tx.pure_eq_ok.mp returned
    -- the loops leave the session's record as it was read
    simp only [View.session_stageAll, View.session_setTurns, View.session_setToolCalls] at sessionFound
    obtain rfl : current = before := Option.some.inj (found.symm.trans sessionFound)
    refine ⟨toolRecords, turns', toolCalls', current, updated, turnEvents, toolEvents, sessionEvent,
      Session.isActive_iff.mp active, ⟨turnResults, turnsSwept⟩, by simpa [prepareToolRecovery] using toolRecords_eq,
      by simpa using toolsSwept, ⟨found, normalized⟩, recorded, ?_⟩
    rw [View.write, View.setToolCalls_stageAll, View.setSession_stageAll, View.setSession_stageAll,
      View.stageAll_append, View.stageAll_append]
    rfl
  · exact absurd returned Tx.error_ne_ok

end Effects

end Tvic.Runtime
