import Tvic.Lib.JsValue
import Tvic.Runtime.SessionTransaction

/-!
# Turn transactions

The transactions of `startTurn`, `endTurn`, `updateTurnStatus` and `checkpointTurnInterruption` in
`packages/runtime/src/runtime-turns.ts`. What a transaction reads from the clocks and the id generator
is passed to it; `fence` is the fence of the caller's lease, or 0.
-/
namespace Tvic.Runtime

open Lib

variable {N : Type} (json : JsonCodec (JsValue N))

/-! ### Objects -/

def spreadMembers : Option (JsValue N) → List (Text × JsValue N)
  | some (.object members) => members
  | _ => []

/-- `{ ...(base ?? {}), key: value, … }` -/
def spreadWith (base : Option (JsValue N)) (added : List (Text × JsValue N)) : JsValue N :=
  .object (added.foldl (fun members member => setMember member.1 member.2 members)
    (spreadMembers base))

/-! ### Starting a turn -/

structure StartTurnRequest (J : Type) where
  sessionId : SessionId
  input : Option (TurnInput J)
  metadata : Option J

/-- What a start draws: the id, the two clock readings of `create` and the one for the session. -/
structure TurnDraws where
  turnId : String
  now : Timestamp
  monotonicMs : Int
  activityAt : Timestamp

inductive TurnStartTransactionResult (J : Type) where
  | started (turn : Turn J)
  | alreadyActive

def createTurn (request : StartTurnRequest (JsValue N)) (draws : TurnDraws)
    (current : StoredSessionRecord (JsValue N)) : StoredTurnRecord (JsValue N) where
  turn :=
    { id := draws.turnId
      sessionId := current.session.id
      sequence := current.session.state.turnSequence + 1
      input := request.input.getD ⟨none, [], none⟩
      output := ⟨none, [], none, none⟩
      toolCallIds := []
      startedAt := draws.now
      latency := .empty
      metadata := request.metadata
      phase := .active .started }
  runtime := ⟨draws.monotonicMs, none⟩
  version := none

def withStartedTurn (turn : Turn (JsValue N)) (activityAt : Timestamp)
    (stored : StoredSessionRecord (JsValue N)) : StoredSessionRecord (JsValue N) :=
  { stored with
    session := { stored.session with
      state := { stored.session.state with
        turnSequence := turn.sequence
        currentTurnId := some turn.id } }
    runtime := { stored.runtime with lastActivityWallAtMs := some activityAt } }

def startTurn (request : StartTurnRequest (JsValue N)) (draws : TurnDraws) (fence : Nat) :
    Tx (JsValue N) (TurnStartTransactionResult (JsValue N)) := do
  let sessionId := request.sessionId
  match ← Tx.call json sessionId (.getSession sessionId) with
  | none => Tx.error ("Cannot start turn for " ++ sessionId)
  | some current =>
    if current.session.status = .active .active then
      let turns ← Tx.call json sessionId (.listTurns sessionId)
      if turns.any fun record => !record.turn.isTerminal then
        return .alreadyActive
      else
        let record := createTurn request draws current
        Tx.call json sessionId (.putTurn record)
        let updatedSession ← Tx.call json sessionId (.updateSession sessionId fun stored =>
          .ok (withStartedTurn record.turn draws.activityAt stored))
        appendTurn json sessionId fence record
        appendSession json sessionId fence updatedSession
        return .started record.turn
    else Tx.error ("Cannot start turn for " ++ sessionId)

/-! ### Ending a turn -/

def withEndedTurn (terminal : Turn (JsValue N)) (activityAt : Timestamp)
    (current : StoredSessionRecord (JsValue N)) : StoredSessionRecord (JsValue N) :=
  let state := current.session.state
  { current with
    session := { current.session with
      state := { state with
        currentTurnId := if state.currentTurnId = some terminal.id then none
          else state.currentTurnId
        pendingToolCallIds := state.pendingToolCallIds.filter (· ∉ terminal.toolCallIds) } }
    runtime := { current.runtime with lastActivityWallAtMs := some activityAt } }

/-- `persist` of `endTurn`; `durationSince` of the turn's monotonic start. -/
def endTurn (sessionId : SessionId) (turnId : String) (request : EndTurnRequest (JsValue N))
    (now : Timestamp) (durationSince : Int → Int) (activityAt : Timestamp) (fence : Nat) :
    Tx (JsValue N) (Turn (JsValue N)) := do
  match ← Tx.call json sessionId (.getTurn sessionId turnId) with
  | none => Tx.notFound ("turn:" ++ sessionId ++ ":" ++ turnId)
  | some record =>
    if record.turn.isTerminal then return record.turn
    else
      let terminal := (terminalTurnFromRequest record.turn request now
        (some (durationSince record.runtime.monotonicStartedAtMs))).val
      let updatedTurn ← Tx.call json sessionId (.updateTurn sessionId turnId fun current =>
        .ok { current with turn := terminal })
      let updatedSession ← Tx.call json sessionId (.updateSession sessionId fun current =>
        .ok (withEndedTurn terminal activityAt current))
      appendTurn json sessionId fence updatedTurn
      appendSession json sessionId fence updatedSession
      return terminal

/-! ### Changing the status of a turn -/

def allowedTurnTransitions : ActiveTurnStatus → List ActiveTurnStatus
  | .started => [.listening, .thinking, .interrupted]
  | .listening => [.thinking, .interrupted]
  | .thinking => [.callingTool, .speaking, .interrupted]
  | .callingTool => [.thinking, .speaking, .interrupted]
  | .speaking => [.interrupted]
  | .interrupted => []

/-- `ALLOWED_TURN_TRANSITIONS`; the terminal statuses allow nothing. -/
def isAllowedTurnTransition : Turn.Status → Turn.Status → Bool
  | .active source, .active target => (allowedTurnTransitions source).contains target
  | _, _ => false

def invalidTransition (source target : Turn.Status) : NormalizedError (JsValue N) :=
  .validationError (utf16 "turn.invalid_transition")
    (utf16 "Turn cannot transition from " ++ utf16 (source.text ++ " to " ++ target.text))
    (by decide +kernel) (by simp [utf16, encodeUtf16])

/-- `{ ...record, runtime: { ...record.runtime, lastActivityWallAtMs } }` -/
def withActivity (activityAt : Timestamp) (record : StoredSessionRecord (JsValue N)) :
    StoredSessionRecord (JsValue N) :=
  { record with runtime := { record.runtime with lastActivityWallAtMs := some activityAt } }

/-- The tail of the transactions that change a turn in place and stamp the session. -/
def replaceTurn (sessionId : SessionId) (turnId : String)
    (next : Turn (JsValue N) → Turn (JsValue N)) (activityAt : Timestamp) (fence : Nat) :
    Tx (JsValue N) (Turn (JsValue N)) := do
  let updatedTurn ← Tx.call json sessionId (.updateTurn sessionId turnId fun record =>
    .ok { record with turn := next record.turn })
  let updatedSession ← Tx.call json sessionId (.updateSession sessionId fun record =>
    .ok (withActivity activityAt record))
  appendTurn json sessionId fence updatedTurn
  appendSession json sessionId fence updatedSession
  return updatedTurn.turn

/-- `updateTurnStatus`: only the statuses between the start and the end reach a transaction; for
`started` the code reads the record outside one. -/
def updateTurnStatus (sessionId : SessionId) (turnId : String) (status : Turn.Status)
    (activityAt : Timestamp) (fence : Nat) : Tx (JsValue N) (Turn (JsValue N)) :=
  match status with
  | .completed | .cancelled | .failed =>
    Tx.error ("Status transition " ++ status.text ++ " requires a terminal turn request")
  | .active .interrupted =>
    Tx.error "Status transition interrupted requires a checkpointTurnInterruption call"
  | .active .started => do
    match ← Tx.call json sessionId (.getTurn sessionId turnId) with
    | none => Tx.notFound ("turn:" ++ sessionId ++ ":" ++ turnId)
    | some record => return record.turn
  | .active status => do
    match ← Tx.call json sessionId (.getTurn sessionId turnId) with
    | none => Tx.notFound ("turn:" ++ sessionId ++ ":" ++ turnId)
    | some current =>
      if current.turn.isTerminal then return current.turn
      else if current.turn.status = .active .interrupted then return current.turn
      else if current.turn.status ≠ .active status ∧
          isAllowedTurnTransition current.turn.status (.active status) = false then
        Tx.throw (invalidTransition current.turn.status (.active status))
      else if current.turn.status = .active status then return current.turn
      else
        replaceTurn json sessionId turnId (fun turn => { turn with phase := .active status })
          activityAt fence

/-! ### The checkpoint -/

def TurnCancellationReason.text : TurnCancellationReason → Text
  | .bargeIn => utf16 "barge_in"
  | .dtmf => utf16 "dtmf"
  | .explicit => utf16 "explicit"
  | .timeout => utf16 "timeout"
  | .notHeard => utf16 "not_heard"
  | .transportLost => utf16 "transport_lost"
  | .leaseLost => utf16 "lease_lost"
  | .runtimeRestarted => utf16 "runtime_restarted"

def interruptedTurn (reason : TurnCancellationReason) (turn : Turn (JsValue N)) :
    Turn (JsValue N) :=
  { turn with
    metadata := some (spreadWith turn.metadata
      [(utf16 "interruptionReason", .string (TurnCancellationReason.text reason))])
    phase := .active .interrupted }

def checkpointTurnInterruption (sessionId : SessionId) (turnId : String)
    (reason : TurnCancellationReason) (activityAt : Timestamp) (fence : Nat) :
    Tx (JsValue N) (Turn (JsValue N)) := do
  match ← Tx.call json sessionId (.getTurn sessionId turnId) with
  | none => Tx.notFound ("turn:" ++ sessionId ++ ":" ++ turnId)
  | some record =>
    if record.turn.isTerminal then return record.turn
    else if record.turn.status = .active .interrupted then return record.turn
    else replaceTurn json sessionId turnId (interruptedTurn reason) activityAt fence

/-! ### What a transaction that returns has done -/

section Effects

variable {json} {view view' : View (JsValue N)} {sessionId : SessionId} {turnId : String}
  {fence : Nat} {activityAt now : Timestamp}

/-- What a transaction writes that changes one turn and the session: both records, then an event
for each. -/
structure TurnWritten (json : JsonCodec (JsValue N)) (sessionId : SessionId) (fence : Nat)
    (nextSession : StoredSessionRecord (JsValue N) → StoredSessionRecord (JsValue N))
    (turns' : List (StoredTurnRecord (JsValue N))) (reported : StoredTurnRecord (JsValue N))
    (view view' : View (JsValue N)) : Prop where
  written : ∃ current stored turnEvent sessionEvent,
    SessionReplaced json sessionId nextSession (view.session sessionId) current stored ∧
    RecordsTurn json sessionId fence reported turnEvent ∧
    RecordsSession json sessionId fence stored sessionEvent ∧
    view' = view.write sessionId turns' (view.toolCalls sessionId) stored [turnEvent, sessionEvent]

theorem startTurn_eq_ok {request : StartTurnRequest (JsValue N)} {draws : TurnDraws}
    {result : TurnStartTransactionResult (JsValue N)}
    (returned : startTurn json request draws fence view = .ok (result, view')) :
    (view' = view ∧ result = .alreadyActive) ∨
      ∃ current stored, view.session request.sessionId = some current ∧
        current.session.status = .active .active ∧
        (∀ record ∈ view.turns request.sessionId, record.turn.isTerminal = true) ∧
        current.session.id = request.sessionId ∧
        (∀ record ∈ view.turns request.sessionId, record.turn.id ≠ draws.turnId) ∧
        normalizeStoredTurn json { createTurn request draws current with version := some 1 }
          ("turn:" ++ draws.turnId) = .ok stored ∧
        result = .started (createTurn request draws current).turn ∧
        TurnWritten json request.sessionId fence
          (withStartedTurn (createTurn request draws current).turn draws.activityAt)
          (view.turns request.sessionId ++ [stored]) (createTurn request draws current)
          view view' := by
  obtain ⟨_, _, got, returned⟩ := Tx.bind_eq_ok.mp returned
  obtain ⟨-, rfl, rfl⟩ := Tx.getSession_eq_ok got
  cases found : view.session request.sessionId with
  | none =>
    rw [found] at returned
    exact absurd returned Tx.error_ne_ok
  | some current =>
  rw [found] at returned
  dsimp only at returned
  split at returned
  next active =>
    obtain ⟨_, _, listed, returned⟩ := Tx.bind_eq_ok.mp returned
    obtain ⟨-, rfl, rfl⟩ := Tx.listTurns_eq_ok listed
    split at returned
    · obtain ⟨rfl, rfl⟩ := Tx.pure_eq_ok.mp returned
      exact .inl ⟨rfl, rfl⟩
    next idle =>
    have terminal : ∀ record ∈ view.turns request.sessionId, record.turn.isTerminal = true := by
      simpa using idle
    obtain ⟨_, _, put, returned⟩ := Tx.bind_eq_ok.mp returned
    obtain ⟨own, put⟩ := Tx.putTurn_eq_ok put
    rcases put with ⟨existing, listed, same, -⟩ | ⟨stored, fresh, normalized, rfl⟩
    · -- a record of the same content would be one of a turn that has just started
      have alike := (sameTurnRecord_alike same).1.isTerminal
      rw [terminal existing (List.mem_of_find?_eq_some listed)] at alike
      cases alike
    obtain ⟨updated, _, update, returned⟩ := Tx.bind_eq_ok.mp returned
    obtain ⟨-, before, next, sessionFound, next_eq, sessionNormalized, rfl⟩ :=
      Tx.updateSession_eq_ok update
    cases next_eq
    obtain ⟨_, _, appended, returned⟩ := Tx.bind_eq_ok.mp returned
    obtain ⟨turnEvent, turnRecords, rfl⟩ := appendEvent_eq_ok appended
    obtain ⟨_, _, appended, returned⟩ := Tx.bind_eq_ok.mp returned
    obtain ⟨sessionEvent, sessionRecords, rfl⟩ := appendEvent_eq_ok appended
    obtain ⟨rfl, rfl⟩ := Tx.pure_eq_ok.mp returned
    rw [View.session_setTurns] at sessionFound
    exact .inr ⟨current, stored, rfl, active, terminal, own, fresh, normalized, rfl,
      ⟨before, updated, turnEvent, sessionEvent, ⟨sessionFound, sessionNormalized⟩, turnRecords,
        sessionRecords, by rw [View.write_turns]; rfl⟩⟩
  · exact absurd returned Tx.error_ne_ok

theorem find?_split {turns before after : List (StoredTurnRecord (JsValue N))}
    {current : StoredTurnRecord (JsValue N)} (listed : turns = before ++ current :: after)
    (others : ∀ other ∈ before, other.turn.id ≠ turnId) (own : current.turn.id = turnId) :
    turns.find? (fun stored => stored.turn.id = turnId) = some current := by
  rw [listed, List.find?_append, List.find?_eq_none.mpr (by simpa using others)]
  simp [own]

theorem turnWritten_of_updates {updater : StoredTurnRecord (JsValue N) → StoredTurnRecord (JsValue N)}
    {nextSession : StoredSessionRecord (JsValue N) → StoredSessionRecord (JsValue N)}
    {α : Type} {result : α} {value : StoredTurnRecord (JsValue N) → α}
    (returned : (do
      let updatedTurn ← Tx.call json sessionId (.updateTurn sessionId turnId fun current =>
        .ok (updater current))
      let updatedSession ← Tx.call json sessionId (.updateSession sessionId fun current =>
        .ok (nextSession current))
      appendTurn json sessionId fence updatedTurn
      appendSession json sessionId fence updatedSession
      return value updatedTurn : Tx (JsValue N) α) view = .ok (result, view')) :
    ∃ current stored turns',
      (view.turns sessionId).find? (fun stored => stored.turn.id = turnId) = some current ∧
      TurnReplaced json sessionId turnId updater (view.turns sessionId) current stored turns' ∧
      result = value stored ∧
      TurnWritten json sessionId fence nextSession turns' stored view view' := by
  obtain ⟨stored, _, update, returned⟩ := Tx.bind_eq_ok.mp returned
  obtain ⟨-, before, current, after, next, listed, others, own, next_eq, normalized, rfl⟩ :=
    Tx.updateTurn_eq_ok update
  cases next_eq
  obtain ⟨updated, _, update, returned⟩ := Tx.bind_eq_ok.mp returned
  obtain ⟨-, former, next, found, next_eq, sessionNormalized, rfl⟩ := Tx.updateSession_eq_ok update
  cases next_eq
  obtain ⟨_, _, appended, returned⟩ := Tx.bind_eq_ok.mp returned
  obtain ⟨turnEvent, turnRecords, rfl⟩ := appendEvent_eq_ok appended
  obtain ⟨_, _, appended, returned⟩ := Tx.bind_eq_ok.mp returned
  obtain ⟨sessionEvent, sessionRecords, rfl⟩ := appendEvent_eq_ok appended
  obtain ⟨rfl, rfl⟩ := Tx.pure_eq_ok.mp returned
  rw [View.session_setTurns] at found
  exact ⟨current, stored, _, find?_split listed others own,
    ⟨⟨before, after, listed, others, rfl⟩, own, normalized⟩, rfl,
    ⟨former, updated, turnEvent, sessionEvent, ⟨found, sessionNormalized⟩, turnRecords,
      sessionRecords, by rw [View.write_turns]; rfl⟩⟩

theorem endTurn_eq_ok {request : EndTurnRequest (JsValue N)} {durationSince : Int → Int}
    {result : Turn (JsValue N)}
    (returned : endTurn json sessionId turnId request now durationSince activityAt fence view =
      .ok (result, view')) :
    view' = view ∨ ∃ current stored turns',
      current.turn.isTerminal = false ∧
      let terminal := (terminalTurnFromRequest current.turn request now
        (some (durationSince current.runtime.monotonicStartedAtMs))).val
      TurnReplaced json sessionId turnId (fun record => { record with turn := terminal })
        (view.turns sessionId) current stored turns' ∧
      TurnWritten json sessionId fence (withEndedTurn terminal activityAt) turns' stored
        view view' := by
  obtain ⟨_, _, got, returned⟩ := Tx.bind_eq_ok.mp returned
  obtain ⟨-, rfl, rfl⟩ := Tx.getTurn_eq_ok got
  cases found : (view.turns sessionId).find? fun stored => stored.turn.id = turnId with
  | none =>
    rw [found] at returned
    exact absurd returned Tx.notFound_ne_ok
  | some record =>
    rw [found] at returned
    dsimp only at returned
    split at returned
    · obtain ⟨-, rfl⟩ := Tx.pure_eq_ok.mp returned
      exact .inl rfl
    next active =>
      obtain ⟨current, stored, turns', same, replaced, -, written⟩ :=
        turnWritten_of_updates returned
      obtain rfl : record = current := Option.some.inj (found.symm.trans same)
      exact .inr ⟨record, stored, turns', by simpa using active, replaced, written⟩

def TurnChanged (json : JsonCodec (JsValue N)) (sessionId : SessionId) (turnId : String)
    (activityAt : Timestamp) (fence : Nat)
    (allowed : Turn (JsValue N) → Prop) (next : Turn (JsValue N) → Turn (JsValue N))
    (view view' : View (JsValue N)) : Prop :=
  ∃ current stored turns', current.turn.isTerminal = false ∧ allowed current.turn ∧
    TurnReplaced json sessionId turnId (fun record => { record with turn := next record.turn })
      (view.turns sessionId) current stored turns' ∧
    TurnWritten json sessionId fence (withActivity activityAt) turns' stored view view'

theorem updateTurnStatus_eq_ok {status : Turn.Status} {result : Turn (JsValue N)}
    (returned : updateTurnStatus json sessionId turnId status activityAt fence view =
      .ok (result, view')) :
    view' = view ∨ ∃ target, status = .active target ∧ target ≠ .interrupted ∧
      TurnChanged json sessionId turnId activityAt fence
        (fun turn => turn.status ≠ .active .interrupted ∧
          isAllowedTurnTransition turn.status (.active target) = true)
        (fun turn => { turn with phase := .active target }) view view' := by
  unfold updateTurnStatus at returned
  split at returned
  · exact absurd returned Tx.error_ne_ok
  · exact absurd returned Tx.error_ne_ok
  · exact absurd returned Tx.error_ne_ok
  · exact absurd returned Tx.error_ne_ok
  · -- `started` only reads
    obtain ⟨_, _, got, returned⟩ := Tx.bind_eq_ok.mp returned
    obtain ⟨-, rfl, rfl⟩ := Tx.getTurn_eq_ok got
    cases found : (view.turns sessionId).find? fun stored => stored.turn.id = turnId with
    | none =>
      rw [found] at returned
      exact absurd returned Tx.notFound_ne_ok
    | some record =>
      rw [found] at returned
      obtain ⟨-, rfl⟩ := Tx.pure_eq_ok.mp returned
      exact .inl rfl
  next target notInterrupted notStarted =>
    obtain ⟨_, _, got, returned⟩ := Tx.bind_eq_ok.mp returned
    obtain ⟨-, rfl, rfl⟩ := Tx.getTurn_eq_ok got
    cases found : (view.turns sessionId).find? fun stored => stored.turn.id = turnId with
    | none =>
      rw [found] at returned
      exact absurd returned Tx.notFound_ne_ok
    | some record =>
      rw [found] at returned
      dsimp only at returned
      split at returned
      · obtain ⟨-, rfl⟩ := Tx.pure_eq_ok.mp returned
        exact .inl rfl
      next active =>
      split at returned
      · obtain ⟨-, rfl⟩ := Tx.pure_eq_ok.mp returned
        exact .inl rfl
      next running =>
      split at returned
      · exact absurd returned Tx.throw_ne_ok
      next allowed =>
      split at returned
      · obtain ⟨-, rfl⟩ := Tx.pure_eq_ok.mp returned
        exact .inl rfl
      next other =>
        obtain ⟨current, stored, turns', same, replaced, -, written⟩ :=
          turnWritten_of_updates returned
        obtain rfl : record = current := Option.some.inj (found.symm.trans same)
        refine .inr ⟨target, rfl, fun interrupted => notInterrupted interrupted, record, stored,
          turns', by simpa using active, ⟨running, ?_⟩, replaced, written⟩
        simpa [other] using allowed

theorem checkpointTurnInterruption_eq_ok {reason : TurnCancellationReason}
    {result : Turn (JsValue N)}
    (returned : checkpointTurnInterruption json sessionId turnId reason activityAt fence view =
      .ok (result, view')) :
    view' = view ∨ TurnChanged json sessionId turnId activityAt fence
      (fun turn => turn.status ≠ .active .interrupted) (interruptedTurn reason) view view' := by
  obtain ⟨_, _, got, returned⟩ := Tx.bind_eq_ok.mp returned
  obtain ⟨-, rfl, rfl⟩ := Tx.getTurn_eq_ok got
  cases found : (view.turns sessionId).find? fun stored => stored.turn.id = turnId with
  | none =>
    rw [found] at returned
    exact absurd returned Tx.notFound_ne_ok
  | some record =>
    rw [found] at returned
    dsimp only at returned
    split at returned
    · obtain ⟨-, rfl⟩ := Tx.pure_eq_ok.mp returned
      exact .inl rfl
    next active =>
    split at returned
    · obtain ⟨-, rfl⟩ := Tx.pure_eq_ok.mp returned
      exact .inl rfl
    next running =>
      obtain ⟨current, stored, turns', same, replaced, -, written⟩ :=
        turnWritten_of_updates returned
      obtain rfl : record = current := Option.some.inj (found.symm.trans same)
      exact .inr ⟨record, stored, turns', by simpa using active, running, replaced, written⟩

end Effects

end Tvic.Runtime
