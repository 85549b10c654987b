import Tvic.Dal.StoredRecords

/-!
# The runtime's transactions on a session

What the transaction bodies of the runtime are written with: the calls of a transaction on the
in-memory store, run to a result and a view or to an error, and `durableEvent` of
`packages/runtime/src/runtime-support.ts`. A body runs without anything in between; what commits it
or rolls it back is around it.
-/
namespace Tvic.Runtime

open Lib InMemoryDurableRuntime

variable {J : Type}

/-- What a body throws: an error of the stores or a plain `Error`, or a `TvicThrowableError`. -/
inductive RuntimeError (J : Type) where
  | dal (error : DalError)
  | throwable (error : NormalizedError J)
  deriving DecidableEq

abbrev Store (J : Type) :=
  InMemoryDurableRuntimeStore (StoredSessionRecord J) (StoredTurnRecord J) (StoredToolCallRecord J)
    (OutboxEnvelope J)

abbrev View (J : Type) :=
  Staged (StoredSessionRecord J) (StoredTurnRecord J) (StoredToolCallRecord J) (OutboxEnvelope J)

abbrev Event (J : Type) := DurableOutboxEvent (OutboxEnvelope J)

abbrev Call (J : Type) :=
  TxCall (StoredSessionRecord J) (StoredTurnRecord J) (StoredToolCallRecord J) (OutboxEnvelope J)

abbrev Tx (J : Type) := StateT (View J) (Except (RuntimeError J))

namespace Tx

def lift {α : Type} (result : Except DalError α) : Tx J α :=
  fun view => match result with
    | .ok value => .ok (value, view)
    | .error e => .error (.dal e)

def error {α : Type} (message : String) : Tx J α := lift (.error (.error message))

def notFound {α : Type} (record : String) : Tx J α := lift (.error (.recordNotFound record))

def throw {α : Type} (error : NormalizedError J) : Tx J α := fun _ => .error (.throwable error)

def call (json : JsonCodec J) (sessionId : SessionId) {α : Type} (request : Call J α) : Tx J α :=
  fun view => match callTransaction (dalCodec json) sessionId view request with
    | .ok answer => .ok answer
    | .error e => .error (.dal e)

variable {α β : Type} {view view' : View J}

theorem bind_eq_ok {x : Tx J α} {f : α → Tx J β} {b : β} :
    (x >>= f) view = .ok (b, view') ↔
      ∃ a middle, x view = .ok (a, middle) ∧ f a middle = .ok (b, view') := by
  simp only [bind, StateT.bind, Except.bind]
  cases x view with
  | error e => simp
  | ok answer => simp [Prod.ext_iff]

theorem pure_eq_ok {a b : α} : (pure a : Tx J α) view = .ok (b, view') ↔ a = b ∧ view = view' := by
  exact ⟨fun same => by cases same; exact ⟨rfl, rfl⟩, by rintro ⟨rfl, rfl⟩; rfl⟩

theorem lift_eq_ok {result : Except DalError α} {a : α} :
    lift result view = .ok (a, view') ↔ result = .ok a ∧ view = view' := by
  cases result <;> simp [lift]

theorem error_ne_ok {message : String} {a : α} :
    ¬error (J := J) message view = .ok (a, view') := by
  simp [error, lift]

theorem notFound_ne_ok {record : String} {a : α} :
    ¬notFound (J := J) record view = .ok (a, view') := by
  simp [notFound, lift]

theorem throw_ne_ok {error : NormalizedError J} {a : α} : ¬throw error view = .ok (a, view') := by
  simp [throw]

theorem call_eq_ok {json : JsonCodec J} {sessionId : SessionId} {request : Call J α} {a : α} :
    call json sessionId request view = .ok (a, view') ↔
      callTransaction (dalCodec json) sessionId view request = .ok (a, view') := by
  unfold call
  split <;> simp_all

end Tx

/-! ### What a call does to the view -/

namespace View

def session (view : View J) (sessionId : SessionId) : Option (StoredSessionRecord J) :=
  view.store.sessions.records sessionId

def turns (view : View J) (sessionId : SessionId) : List (StoredTurnRecord J) :=
  view.store.turns.records sessionId

def toolCalls (view : View J) (sessionId : SessionId) : List (StoredToolCallRecord J) :=
  view.store.toolCalls.records sessionId

def setSession (view : View J) (sessionId : SessionId) (record : StoredSessionRecord J) : View J :=
  { view with store :=
    { view.store with sessions := view.store.sessions.set sessionId (some record) } }

def setTurns (view : View J) (sessionId : SessionId) (records : List (StoredTurnRecord J)) :
    View J :=
  { view with store := { view.store with turns := view.store.turns.set sessionId records } }

def setToolCalls (view : View J) (sessionId : SessionId) (records : List (StoredToolCallRecord J)) :
    View J :=
  { view with store := { view.store with toolCalls := view.store.toolCalls.set sessionId records } }

def isKnown (view : View J) (event : Event J) : Bool :=
  (view.store.outbox.any fun existing => existing.id = event.id) ||
    view.stagedOutbox.any fun existing => existing.id = event.id

def stage (view : View J) (event : Event J) : View J :=
  if view.isKnown event then view
  else { view with stagedOutbox := view.stagedOutbox ++ [event] }

variable {view : View J} {sessionId : SessionId}

section Lookups

variable (record : StoredSessionRecord J) (turnRecords : List (StoredTurnRecord J))
  (toolRecords : List (StoredToolCallRecord J)) (event : Event J)

@[simp] theorem session_setSession :
    (view.setSession sessionId record).session sessionId = some record :=
  Function.update_self ..

@[simp] theorem turns_setSession : (view.setSession sessionId record).turns = view.turns := rfl

@[simp] theorem toolCalls_setSession :
    (view.setSession sessionId record).toolCalls = view.toolCalls := rfl

@[simp] theorem session_setTurns :
    (view.setTurns sessionId turnRecords).session = view.session := rfl

@[simp] theorem turns_setTurns :
    (view.setTurns sessionId turnRecords).turns sessionId = turnRecords :=
  Function.update_self ..

@[simp] theorem toolCalls_setTurns :
    (view.setTurns sessionId turnRecords).toolCalls = view.toolCalls := rfl

@[simp] theorem session_setToolCalls :
    (view.setToolCalls sessionId toolRecords).session = view.session := rfl

@[simp] theorem turns_setToolCalls :
    (view.setToolCalls sessionId toolRecords).turns = view.turns := rfl

@[simp] theorem toolCalls_setToolCalls :
    (view.setToolCalls sessionId toolRecords).toolCalls sessionId = toolRecords :=
  Function.update_self ..

@[simp] theorem store_stage : (view.stage event).store = view.store := by
  unfold stage
  split <;> rfl

@[simp] theorem session_stage : (view.stage event).session = view.session := by
  funext other
  simp [session]

@[simp] theorem turns_stage : (view.stage event).turns = view.turns := by
  funext other
  simp [turns]

@[simp] theorem toolCalls_stage : (view.stage event).toolCalls = view.toolCalls := by
  funext other
  simp [toolCalls]

theorem setTurns_stage (records : List (StoredTurnRecord J)) :
    (view.stage event).setTurns sessionId records =
      (view.setTurns sessionId records).stage event := by
  have same : (view.setTurns sessionId records).isKnown event = view.isKnown event := rfl
  rw [stage, stage, same]
  split <;> rfl

theorem setTurns_setTurns (first second : List (StoredTurnRecord J)) :
    (view.setTurns sessionId first).setTurns sessionId second =
      view.setTurns sessionId second := by
  simp [setTurns, InMemoryRecords.set]

theorem setToolCalls_stage (records : List (StoredToolCallRecord J)) :
    (view.stage event).setToolCalls sessionId records =
      (view.setToolCalls sessionId records).stage event := by
  have same : (view.setToolCalls sessionId records).isKnown event = view.isKnown event := rfl
  rw [stage, stage, same]
  split <;> rfl

theorem setToolCalls_setToolCalls (first second : List (StoredToolCallRecord J)) :
    (view.setToolCalls sessionId first).setToolCalls sessionId second =
      view.setToolCalls sessionId second := by
  simp [setToolCalls, InMemoryRecords.set]

theorem setSession_stage :
    (view.stage event).setSession sessionId record =
      (view.setSession sessionId record).stage event := by
  have same : (view.setSession sessionId record).isKnown event = view.isKnown event := rfl
  rw [stage, stage, same]
  split <;> rfl

theorem setTurns_eq {records : List (StoredTurnRecord J)}
    (same : records = view.turns sessionId) : view.setTurns sessionId records = view := by
  subst same
  simp [setTurns, turns, InMemoryRecords.set]

theorem setToolCalls_setSession (records : List (StoredToolCallRecord J)) :
    (view.setSession sessionId record).setToolCalls sessionId records =
      (view.setToolCalls sessionId records).setSession sessionId record := rfl

theorem setToolCalls_eq {records : List (StoredToolCallRecord J)}
    (same : records = view.toolCalls sessionId) : view.setToolCalls sessionId records = view := by
  subst same
  simp [setToolCalls, toolCalls, InMemoryRecords.set]

end Lookups

def stageAll (view : View J) (events : List (Event J)) : View J := events.foldl stage view

section StageAll

variable (events : List (Event J))

@[simp] theorem stageAll_nil : view.stageAll [] = view := rfl

@[simp] theorem stageAll_cons (event : Event J) :
    view.stageAll (event :: events) = (view.stage event).stageAll events := rfl

theorem stageAll_append (later : List (Event J)) :
    view.stageAll (events ++ later) = (view.stageAll events).stageAll later :=
  List.foldl_append ..

@[simp] theorem store_stageAll : (view.stageAll events).store = view.store := by
  induction events generalizing view with
  | nil => rfl
  | cons event events ih => rw [stageAll_cons, ih, store_stage]

@[simp] theorem session_stageAll : (view.stageAll events).session = view.session := by
  funext other
  simp [session]

@[simp] theorem turns_stageAll : (view.stageAll events).turns = view.turns := by
  funext other
  simp [turns]

@[simp] theorem toolCalls_stageAll : (view.stageAll events).toolCalls = view.toolCalls := by
  funext other
  simp [toolCalls]

theorem setSession_stageAll (record : StoredSessionRecord J) :
    (view.stageAll events).setSession sessionId record =
      (view.setSession sessionId record).stageAll events := by
  induction events generalizing view with
  | nil => rfl
  | cons event events ih => rw [stageAll_cons, ih, setSession_stage, stageAll_cons]

theorem setToolCalls_stageAll (records : List (StoredToolCallRecord J)) :
    (view.stageAll events).setToolCalls sessionId records =
      (view.setToolCalls sessionId records).stageAll events := by
  induction events generalizing view with
  | nil => rfl
  | cons event events ih => rw [stageAll_cons, ih, setToolCalls_stage, stageAll_cons]

end StageAll

/-- All that a body writes: the tables of its session, then its events. -/
def write (view : View J) (sessionId : SessionId) (turns' : List (StoredTurnRecord J))
    (toolCalls' : List (StoredToolCallRecord J)) (session' : StoredSessionRecord J)
    (events : List (Event J)) : View J :=
  (((view.setTurns sessionId turns').setToolCalls sessionId toolCalls').setSession sessionId
    session').stageAll events

section Write

variable {turns' : List (StoredTurnRecord J)} {toolCalls' : List (StoredToolCallRecord J)}
  {session' : StoredSessionRecord J} {events : List (Event J)}

@[simp] theorem session_write :
    (view.write sessionId turns' toolCalls' session' events).session sessionId = some session' := by
  simp [write]

@[simp] theorem turns_write :
    (view.write sessionId turns' toolCalls' session' events).turns sessionId = turns' := by
  simp [write]

@[simp] theorem toolCalls_write :
    (view.write sessionId turns' toolCalls' session' events).toolCalls sessionId = toolCalls' := by
  simp [write]

theorem write_turns :
    view.write sessionId turns' (view.toolCalls sessionId) session' events =
      ((view.setTurns sessionId turns').setSession sessionId session').stageAll events := by
  rw [write, setToolCalls_eq (by simp)]

theorem write_toolCalls :
    view.write sessionId (view.turns sessionId) toolCalls' session' events =
      ((view.setToolCalls sessionId toolCalls').setSession sessionId session').stageAll events := by
  rw [write, setTurns_eq rfl]

end Write

end View

namespace Tx

variable {json : JsonCodec J} {sessionId id : SessionId} {view view' : View J}

theorem assertSession_eq_ok {candidate : SessionId}
    (passed : assertSession sessionId candidate = .ok ()) : candidate = sessionId := by
  unfold assertSession at passed
  split at passed
  next same => exact same
  · cases passed

theorem getSession_eq_ok {record : Option (StoredSessionRecord J)}
    (called : call json sessionId (.getSession id) view = .ok (record, view')) :
    id = sessionId ∧ record = view.session sessionId ∧ view = view' := by
  obtain ⟨_, allowed, returned⟩ := Tvic.bind_eq_ok.mp (call_eq_ok.mp called)
  obtain rfl := assertSession_eq_ok allowed
  obtain ⟨found, got, returned⟩ := Tvic.bind_eq_ok.mp returned
  obtain ⟨_, -, got⟩ := Tvic.bind_eq_ok.mp got
  cases got
  cases returned
  exact ⟨rfl, rfl, rfl⟩

theorem putSession_eq_ok {record : StoredSessionRecord J}
    (called : call json sessionId (.putSession record) view = .ok ((), view')) :
    record.session.id = sessionId ∧
      (∀ existing, view.session sessionId = some existing →
        sameSessionRecord json existing record = true) ∧
      ∃ version stored, normalizeStoredSession json { record with version := some version }
          ("session:" ++ sessionId) = .ok stored ∧
        version = ((((view.session sessionId).bind (·.version)).or record.version).getD 1) ∧
        view' = view.setSession sessionId stored := by
  obtain ⟨_, allowed, returned⟩ := Tvic.bind_eq_ok.mp (call_eq_ok.mp called)
  obtain rfl := assertSession_eq_ok allowed
  obtain ⟨sessions, put, returned⟩ := Tvic.bind_eq_ok.mp returned
  cases returned
  obtain ⟨same, stored, normalized, rfl⟩ := InMemorySessionStore.put_eq_ok put
  exact ⟨rfl, same, _, stored, normalized, rfl, rfl⟩

theorem updateSession_eq_ok {updater : StoredSessionRecord J → Except DalError (StoredSessionRecord J)}
    {record : StoredSessionRecord J}
    (called : call json sessionId (.updateSession id updater) view = .ok (record, view')) :
    id = sessionId ∧ ∃ current next, view.session sessionId = some current ∧
      updater current = .ok next ∧
      normalizeStoredSession json { next with version := some (current.version.getD 1 + 1) }
        ("session:" ++ sessionId) = .ok record ∧
      view' = view.setSession sessionId record := by
  obtain ⟨_, allowed, returned⟩ := Tvic.bind_eq_ok.mp (call_eq_ok.mp called)
  obtain rfl := assertSession_eq_ok allowed
  obtain ⟨⟨_, sessions⟩, updated, returned⟩ := Tvic.bind_eq_ok.mp returned
  cases returned
  obtain ⟨current, next, found, next_eq, normalized, rfl⟩ :=
    InMemorySessionStore.update_eq_ok updated
  exact ⟨rfl, current, next, found, next_eq, normalized, rfl⟩

theorem getTurn_eq_ok {turnId : String} {record : Option (StoredTurnRecord J)}
    (called : call json sessionId (.getTurn id turnId) view = .ok (record, view')) :
    id = sessionId ∧
      record = (view.turns sessionId).find? (fun stored => stored.turn.id = turnId) ∧
      view = view' := by
  obtain ⟨_, allowed, returned⟩ := Tvic.bind_eq_ok.mp (call_eq_ok.mp called)
  obtain rfl := assertSession_eq_ok allowed
  obtain ⟨found, got, returned⟩ := Tvic.bind_eq_ok.mp returned
  obtain ⟨_, -, got⟩ := Tvic.bind_eq_ok.mp got
  cases got
  cases returned
  exact ⟨rfl, rfl, rfl⟩

theorem listTurns_eq_ok {records : List (StoredTurnRecord J)}
    (called : call json sessionId (.listTurns id) view = .ok (records, view')) :
    id = sessionId ∧ records = view.turns sessionId ∧ view = view' := by
  obtain ⟨_, allowed, returned⟩ := Tvic.bind_eq_ok.mp (call_eq_ok.mp called)
  obtain rfl := assertSession_eq_ok allowed
  obtain ⟨found, got, returned⟩ := Tvic.bind_eq_ok.mp returned
  obtain ⟨_, -, got⟩ := Tvic.bind_eq_ok.mp got
  cases got
  cases returned
  exact ⟨rfl, rfl, rfl⟩

theorem putTurn_eq_ok {record : StoredTurnRecord J}
    (called : call json sessionId (.putTurn record) view = .ok ((), view')) :
    record.turn.sessionId = sessionId ∧
      ((∃ existing, (view.turns sessionId).find? (fun item => item.turn.id = record.turn.id) =
            some existing ∧
          sameTurnRecord json existing record = true ∧ view = view') ∨
        ∃ stored, (∀ existing ∈ view.turns sessionId, existing.turn.id ≠ record.turn.id) ∧
          normalizeStoredTurn json { record with version := some (record.version.getD 1) }
            ("turn:" ++ record.turn.id) = .ok stored ∧
          view' = view.setTurns sessionId (view.turns sessionId ++ [stored])) := by
  obtain ⟨_, allowed, returned⟩ := Tvic.bind_eq_ok.mp (call_eq_ok.mp called)
  obtain rfl := assertSession_eq_ok allowed
  obtain ⟨turns, put, returned⟩ := Tvic.bind_eq_ok.mp returned
  cases returned
  refine ⟨rfl, ?_⟩
  rcases InMemoryChildStore.put_eq_ok put with
    ⟨existing, listed, same, rfl⟩ | ⟨stored, fresh, normalized, rfl⟩
  · exact .inl ⟨existing, listed, same, rfl⟩
  · exact .inr ⟨stored, fresh, normalized, rfl⟩

theorem updateTurn_eq_ok {turnId : String}
    {updater : StoredTurnRecord J → Except DalError (StoredTurnRecord J)}
    {record : StoredTurnRecord J}
    (called : call json sessionId (.updateTurn id turnId updater) view = .ok (record, view')) :
    id = sessionId ∧ ∃ before current after next,
      view.turns sessionId = before ++ current :: after ∧
      (∀ other ∈ before, other.turn.id ≠ turnId) ∧ current.turn.id = turnId ∧
      updater current = .ok next ∧
      normalizeStoredTurn json { next with version := some (current.version.getD 1 + 1) }
        ("turn:" ++ sessionId ++ ":" ++ turnId) = .ok record ∧
      view' = view.setTurns sessionId (before ++ record :: after) := by
  obtain ⟨_, allowed, returned⟩ := Tvic.bind_eq_ok.mp (call_eq_ok.mp called)
  obtain rfl := assertSession_eq_ok allowed
  obtain ⟨⟨_, turns⟩, updated, returned⟩ := Tvic.bind_eq_ok.mp returned
  cases returned
  obtain ⟨before, current, after, next, listed, others, own, next_eq, normalized, rfl⟩ :=
    InMemoryChildStore.update_eq_ok updated
  exact ⟨rfl, before, current, after, next, listed, others, own, next_eq, normalized, rfl⟩

theorem getToolCall_eq_ok {toolCallId : String} {record : Option (StoredToolCallRecord J)}
    (called : call json sessionId (.getToolCall id toolCallId) view = .ok (record, view')) :
    id = sessionId ∧
      record = (view.toolCalls sessionId).find?
        (fun stored => stored.toolCall.toolCallId = toolCallId) ∧
      view = view' := by
  obtain ⟨_, allowed, returned⟩ := Tvic.bind_eq_ok.mp (call_eq_ok.mp called)
  obtain rfl := assertSession_eq_ok allowed
  obtain ⟨found, got, returned⟩ := Tvic.bind_eq_ok.mp returned
  obtain ⟨_, -, got⟩ := Tvic.bind_eq_ok.mp got
  cases got
  cases returned
  exact ⟨rfl, rfl, rfl⟩

theorem listToolCalls_eq_ok {records : List (StoredToolCallRecord J)}
    (called : call json sessionId (.listToolCalls id) view = .ok (records, view')) :
    id = sessionId ∧ records = view.toolCalls sessionId ∧ view = view' := by
  obtain ⟨_, allowed, returned⟩ := Tvic.bind_eq_ok.mp (call_eq_ok.mp called)
  obtain rfl := assertSession_eq_ok allowed
  obtain ⟨found, got, returned⟩ := Tvic.bind_eq_ok.mp returned
  obtain ⟨_, -, got⟩ := Tvic.bind_eq_ok.mp got
  cases got
  cases returned
  exact ⟨rfl, rfl, rfl⟩

theorem putToolCall_eq_ok {record : StoredToolCallRecord J}
    (called : call json sessionId (.putToolCall record) view = .ok ((), view')) :
    record.toolCall.sessionId = sessionId ∧
      ((∃ existing, (view.toolCalls sessionId).find?
            (fun item => item.toolCall.toolCallId = record.toolCall.toolCallId) = some existing ∧
          sameToolCallRecord json existing record = true ∧ view = view') ∨
        ∃ stored, (∀ existing ∈ view.toolCalls sessionId,
            existing.toolCall.toolCallId ≠ record.toolCall.toolCallId) ∧
          normalizeStoredToolCall json { record with version := some (record.version.getD 1) }
            ("tool_call:" ++ record.toolCall.toolCallId) = .ok stored ∧
          view' = view.setToolCalls sessionId (view.toolCalls sessionId ++ [stored])) := by
  obtain ⟨_, allowed, returned⟩ := Tvic.bind_eq_ok.mp (call_eq_ok.mp called)
  obtain rfl := assertSession_eq_ok allowed
  obtain ⟨toolCalls, put, returned⟩ := Tvic.bind_eq_ok.mp returned
  cases returned
  refine ⟨rfl, ?_⟩
  rcases InMemoryChildStore.put_eq_ok put with
    ⟨existing, listed, same, rfl⟩ | ⟨stored, fresh, normalized, rfl⟩
  · exact .inl ⟨existing, listed, same, rfl⟩
  · exact .inr ⟨stored, fresh, normalized, rfl⟩

theorem updateToolCall_eq_ok {toolCallId : String}
    {updater : StoredToolCallRecord J → Except DalError (StoredToolCallRecord J)}
    {record : StoredToolCallRecord J}
    (called : call json sessionId (.updateToolCall id toolCallId updater) view =
      .ok (record, view')) :
    id = sessionId ∧ ∃ before current after next,
      view.toolCalls sessionId = before ++ current :: after ∧
      (∀ other ∈ before, other.toolCall.toolCallId ≠ toolCallId) ∧
      current.toolCall.toolCallId = toolCallId ∧ updater current = .ok next ∧
      normalizeStoredToolCall json { next with version := some (current.version.getD 1 + 1) }
        ("tool_call:" ++ sessionId ++ ":" ++ toolCallId) = .ok record ∧
      view' = view.setToolCalls sessionId (before ++ record :: after) := by
  obtain ⟨_, allowed, returned⟩ := Tvic.bind_eq_ok.mp (call_eq_ok.mp called)
  obtain rfl := assertSession_eq_ok allowed
  obtain ⟨⟨_, toolCalls⟩, updated, returned⟩ := Tvic.bind_eq_ok.mp returned
  cases returned
  obtain ⟨before, current, after, next, listed, others, own, next_eq, normalized, rfl⟩ :=
    InMemoryChildStore.update_eq_ok updated
  exact ⟨rfl, before, current, after, next, listed, others, own, next_eq, normalized, rfl⟩

theorem appendOutbox_eq_ok {event : Event J}
    (called : call json sessionId (.appendOutbox event) view = .ok ((), view')) :
    event.sessionId = sessionId ∧ ∃ envelope,
      decodeOutboxEnvelope json event.aggregateType event.envelope ("outbox:" ++ event.id)
        event.version = .ok envelope ∧
      view' = view.stage { event with envelope } := by
  obtain ⟨_, allowed, returned⟩ := Tvic.bind_eq_ok.mp (call_eq_ok.mp called)
  refine ⟨assertSession_eq_ok allowed, ?_⟩
  obtain ⟨envelope, decoded, returned⟩ := Tvic.bind_eq_ok.mp returned
  refine ⟨envelope, decoded, ?_⟩
  rw [View.stage]
  dsimp only at returned
  split at returned <;> rename_i known
  · cases returned
    exact (if_pos known).symm
  · cases returned
    exact (if_neg known).symm

end Tx

/-! ### Outbox events -/

def durableEventKey (kind : AggregateType) (aggregateId : String) (version fence : Nat) : String :=
  kind.text ++ ":" ++ aggregateId ++ ":" ++ toString version ++ ":" ++ toString fence

/-- `durableEvent`. Every caller passes the payload's own status, which the type leaves out, and a
version that defaults to 1. -/
def durableEvent (json : JsonCodec J) (aggregateId : String) (sessionId : SessionId) (fence : Nat)
    (payload : Nat → OutboxEnvelope J) (version : Option Nat) : Except DalError (Event J) := do
  let version := version.getD 1
  let kind := (payload version).kind
  let id := durableEventKey kind aggregateId version fence
  let envelope ← encodeOutboxEnvelope json (payload version) ("outbox:" ++ id)
  .ok ⟨id, kind, aggregateId, sessionId, none, version, fence, envelope⟩

section Append

variable (json : JsonCodec J) (sessionId : SessionId) (fence : Nat)

def appendEvent (aggregateId : String) (payload : Nat → OutboxEnvelope J) (version : Option Nat) :
    Tx J Unit := do
  let event ← Tx.lift (durableEvent json aggregateId sessionId fence payload version)
  Tx.call json sessionId (.appendOutbox event)

def appendSession (record : StoredSessionRecord J) : Tx J Unit :=
  appendEvent json sessionId fence sessionId (.session record.session record.runtime) record.version

def appendTurn (record : StoredTurnRecord J) : Tx J Unit :=
  appendEvent json sessionId fence record.turn.id (.turn record.turn record.runtime) record.version

def appendToolCall (record : StoredToolCallRecord J) : Tx J Unit :=
  appendEvent json sessionId fence record.toolCall.toolCallId
    (.toolCall record.toolCall record.runtime) record.version

/-- An event as `durableEvent` builds it for a record and `appendOutbox` stores it. -/
def Records (aggregateId : String) (payload : Nat → OutboxEnvelope J) (version : Option Nat)
    (event : Event J) : Prop :=
  let version := version.getD 1
  let kind := (payload version).kind
  let id := durableEventKey kind aggregateId version fence
  ∃ encoded envelope, encodeOutboxEnvelope json (payload version) ("outbox:" ++ id) = .ok encoded ∧
    decodeOutboxEnvelope json kind encoded ("outbox:" ++ id) version = .ok envelope ∧
    event = ⟨id, kind, aggregateId, sessionId, none, version, fence, envelope⟩

def RecordsSession (record : StoredSessionRecord J) : Event J → Prop :=
  Records json sessionId fence sessionId (.session record.session record.runtime) record.version

def RecordsTurn (record : StoredTurnRecord J) : Event J → Prop :=
  Records json sessionId fence record.turn.id (.turn record.turn record.runtime) record.version

def RecordsToolCall (record : StoredToolCallRecord J) : Event J → Prop :=
  Records json sessionId fence record.toolCall.toolCallId
    (.toolCall record.toolCall record.runtime) record.version

variable {json sessionId fence}

theorem appendEvent_eq_ok {aggregateId : String} {payload : Nat → OutboxEnvelope J}
    {version : Option Nat} {view view' : View J}
    (called : appendEvent json sessionId fence aggregateId payload version view = .ok ((), view')) :
    ∃ event, Records json sessionId fence aggregateId payload version event ∧
      view' = view.stage event := by
  obtain ⟨event, _, lifted, called⟩ := Tx.bind_eq_ok.mp called
  obtain ⟨built, rfl⟩ := Tx.lift_eq_ok.mp lifted
  obtain ⟨encoded, encodes, built⟩ := Tvic.bind_eq_ok.mp built
  cases built
  obtain ⟨-, envelope, decodes, rfl⟩ := Tx.appendOutbox_eq_ok called
  exact ⟨_, ⟨encoded, envelope, encodes, decodes, rfl⟩, rfl⟩

/-- The record of the session, put in place of the one before. -/
structure SessionReplaced (json : JsonCodec J) (sessionId : SessionId)
    (next : StoredSessionRecord J → StoredSessionRecord J) (session : Option (StoredSessionRecord J))
    (current stored : StoredSessionRecord J) : Prop where
  found : session = some current
  normalized : normalizeStoredSession json
    { next current with version := some (current.version.getD 1 + 1) }
    ("session:" ++ sessionId) = .ok stored

/-- The record of a turn behind others with other ids, put in place of the one before. -/
structure TurnReplaced (json : JsonCodec J) (sessionId : SessionId) (turnId : String)
    (next : StoredTurnRecord J → StoredTurnRecord J) (turns : List (StoredTurnRecord J))
    (current stored : StoredTurnRecord J) (turns' : List (StoredTurnRecord J)) : Prop where
  split : ∃ before after, turns = before ++ current :: after ∧
    (∀ other ∈ before, other.turn.id ≠ turnId) ∧ turns' = before ++ stored :: after
  own : current.turn.id = turnId
  normalized : normalizeStoredTurn json
    { next current with version := some (current.version.getD 1 + 1) }
    ("turn:" ++ sessionId ++ ":" ++ turnId) = .ok stored

structure ToolCallReplaced (json : JsonCodec J) (sessionId : SessionId) (toolCallId : String)
    (next : StoredToolCallRecord J → StoredToolCallRecord J)
    (toolCalls : List (StoredToolCallRecord J)) (current stored : StoredToolCallRecord J)
    (toolCalls' : List (StoredToolCallRecord J)) : Prop where
  split : ∃ before after, toolCalls = before ++ current :: after ∧
    (∀ other ∈ before, other.toolCall.toolCallId ≠ toolCallId) ∧
    toolCalls' = before ++ stored :: after
  own : current.toolCall.toolCallId = toolCallId
  normalized : normalizeStoredToolCall json
    { next current with version := some (current.version.getD 1 + 1) }
    ("tool_call:" ++ sessionId ++ ":" ++ toolCallId) = .ok stored

end Append

/-! ### Loops over the records of a session -/

section Sweep

variable (json : JsonCodec J) (sessionId : SessionId) (fence : Nat)

/-- A loop over turns that updates some of them: what it updated each of them to. -/
def sweepTurns (next : StoredTurnRecord J → Option (StoredTurnRecord J → StoredTurnRecord J)) :
    List (StoredTurnRecord J) → Tx J (List (Option (StoredTurnRecord J)))
  | [] => return []
  | listed :: rest => do
    match next listed with
    | none =>
      let results ← sweepTurns next rest
      return none :: results
    | some updater =>
      let updatedTurn ← Tx.call json sessionId (.updateTurn sessionId listed.turn.id fun record =>
        .ok (updater record))
      appendTurn json sessionId fence updatedTurn
      let results ← sweepTurns next rest
      return some updatedTurn :: results

def sweepToolCalls
    (next : StoredToolCallRecord J → Option (StoredToolCallRecord J → StoredToolCallRecord J)) :
    List (StoredToolCallRecord J) → Tx J (List (Option (StoredToolCallRecord J)))
  | [] => return []
  | listed :: rest => do
    match next listed with
    | none =>
      let results ← sweepToolCalls next rest
      return none :: results
    | some updater =>
      let updatedTool ← Tx.call json sessionId
        (.updateToolCall sessionId listed.toolCall.toolCallId fun record => .ok (updater record))
      appendToolCall json sessionId fence updatedTool
      let results ← sweepToolCalls next rest
      return some updatedTool :: results

/-- Records before and after a loop: some are kept, each other one is replaced and has its event. -/
inductive Swept {ρ η : Type} (keeps : ρ → Prop) (replaces : ρ → ρ → Prop)
    (records : ρ → η → Prop) : List ρ → List (Option ρ) → List ρ → List η → Prop where
  | nil : Swept keeps replaces records [] [] [] []
  | keep {record : ρ} {rest : List ρ} {results : List (Option ρ)} {rest' : List ρ}
      {events : List η} (kept : keeps record) (later : Swept keeps replaces records rest results rest' events) :
      Swept keeps replaces records (record :: rest) (none :: results) (record :: rest') events
  | replace {record stored : ρ} {event : η} {rest : List ρ} {results : List (Option ρ)}
      {rest' : List ρ} {events : List η} (replaced : replaces record stored)
      (recorded : records stored event)
      (later : Swept keeps replaces records rest results rest' events) :
      Swept keeps replaces records (record :: rest) (some stored :: results) (stored :: rest')
        (event :: events)

variable {json sessionId fence}

/-- The ids of a session's turns and of its tool calls are distinct. -/
structure Distinct (view : View J) (sessionId : SessionId) : Prop where
  turns : ((view.turns sessionId).map (·.turn.id)).Nodup
  toolCalls : ((view.toolCalls sessionId).map (·.toolCall.toolCallId)).Nodup

theorem split_unique {ρ κ : Type} {key : ρ → κ} {passed rest before after : List ρ} {a b : ρ}
    (same : passed ++ a :: rest = before ++ b :: after)
    (distinct : ((passed ++ a :: rest).map key).Nodup) (own : key b = key a) :
    before = passed ∧ b = a ∧ after = rest := by
  induction passed generalizing before with
  | nil =>
    cases before with
    | nil =>
      obtain ⟨rfl, rfl⟩ := List.cons.inj same
      exact ⟨rfl, rfl, rfl⟩
    | cons first before =>
      obtain ⟨rfl, rfl⟩ := List.cons.inj same
      exact absurd own.symm (by simp at distinct; tauto)
  | cons first passed ih =>
    cases before with
    | nil =>
      obtain ⟨rfl, rfl⟩ := List.cons.inj same
      exact absurd own (by simp at distinct; tauto)
    | cons first' before =>
      obtain ⟨rfl, later⟩ := List.cons.inj same
      obtain ⟨rfl, rfl, rfl⟩ := ih later (List.nodup_cons.mp (by simpa using distinct)).2
      exact ⟨rfl, rfl, rfl⟩

theorem sweepTurns_eq_ok
    {next : StoredTurnRecord J → Option (StoredTurnRecord J → StoredTurnRecord J)}
    (sameId : ∀ listed updater, next listed = some updater →
      (updater listed).turn.id = listed.turn.id)
    (passed : List (StoredTurnRecord J)) {rest : List (StoredTurnRecord J)}
    {results : List (Option (StoredTurnRecord J))} {view view' : View J}
    (table : view.turns sessionId = passed ++ rest)
    (distinct : ((passed ++ rest).map (·.turn.id)).Nodup)
    (returned : sweepTurns json sessionId fence next rest view = .ok (results, view')) :
    ∃ rest' events,
      Swept (fun record => next record = none)
        (fun record stored => ∃ updater, next record = some updater ∧
          normalizeStoredTurn json
            { updater record with version := some (record.version.getD 1 + 1) }
            ("turn:" ++ sessionId ++ ":" ++ record.turn.id) = .ok stored)
        (RecordsTurn json sessionId fence) rest results rest' events ∧
      view' = (view.setTurns sessionId (passed ++ rest')).stageAll events := by
  induction rest generalizing passed results view with
  | nil =>
    obtain ⟨rfl, rfl⟩ := Tx.pure_eq_ok.mp returned
    exact ⟨[], [], .nil, by rw [View.setTurns_eq table.symm]; rfl⟩
  | cons listed rest ih =>
    unfold sweepTurns at returned
    cases chosen : next listed with
    | none =>
      rw [chosen] at returned
      obtain ⟨later, _, loop, returned⟩ := Tx.bind_eq_ok.mp returned
      obtain ⟨rfl, rfl⟩ := Tx.pure_eq_ok.mp returned
      obtain ⟨rest', events, swept, rfl⟩ := ih (passed ++ [listed]) (by simpa using table)
        (by simpa using distinct) loop
      exact ⟨listed :: rest', events, .keep chosen swept, by simp⟩
    | some updater =>
      rw [chosen] at returned
      obtain ⟨stored, _, update, continued⟩ := Tx.bind_eq_ok.mp returned
      obtain ⟨-, before, current, after, next', split, others, own, next_eq, normalized, rfl⟩ :=
        Tx.updateTurn_eq_ok update
      cases next_eq
      obtain ⟨rfl, rfl, rfl⟩ := split_unique (table.symm.trans split) distinct own
      obtain ⟨_, _, appended, continued⟩ := Tx.bind_eq_ok.mp continued
      obtain ⟨event, records, rfl⟩ := appendEvent_eq_ok appended
      obtain ⟨later, _, loop, continued⟩ := Tx.bind_eq_ok.mp continued
      obtain ⟨rfl, rfl⟩ := Tx.pure_eq_ok.mp continued
      have sameTurnId : stored.turn.id = current.turn.id :=
        (normalizeStoredTurn_alike normalized).1.id.trans (sameId _ _ chosen)
      obtain ⟨rest', events, swept, rfl⟩ := ih (before ++ [stored])
        (by simp) (by simpa [sameTurnId] using distinct) loop
      refine ⟨stored :: rest', event :: events, .replace ⟨updater, chosen, normalized⟩ records swept,
        ?_⟩
      rw [View.setTurns_stage, View.setTurns_setTurns, View.stageAll_cons, List.append_assoc]
      rfl

theorem sweepToolCalls_eq_ok
    {next : StoredToolCallRecord J → Option (StoredToolCallRecord J → StoredToolCallRecord J)}
    (sameId : ∀ listed updater, next listed = some updater →
      (updater listed).toolCall.toolCallId = listed.toolCall.toolCallId)
    (passed : List (StoredToolCallRecord J)) {rest : List (StoredToolCallRecord J)}
    {results : List (Option (StoredToolCallRecord J))} {view view' : View J}
    (table : view.toolCalls sessionId = passed ++ rest)
    (distinct : ((passed ++ rest).map (·.toolCall.toolCallId)).Nodup)
    (returned : sweepToolCalls json sessionId fence next rest view = .ok (results, view')) :
    ∃ rest' events,
      Swept (fun record => next record = none)
        (fun record stored => ∃ updater, next record = some updater ∧
          normalizeStoredToolCall json
            { updater record with version := some (record.version.getD 1 + 1) }
            ("tool_call:" ++ sessionId ++ ":" ++ record.toolCall.toolCallId) = .ok stored)
        (RecordsToolCall json sessionId fence) rest results rest' events ∧
      view' = (view.setToolCalls sessionId (passed ++ rest')).stageAll events := by
  induction rest generalizing passed results view with
  | nil =>
    obtain ⟨rfl, rfl⟩ := Tx.pure_eq_ok.mp returned
    exact ⟨[], [], .nil, by rw [View.setToolCalls_eq table.symm]; rfl⟩
  | cons listed rest ih =>
    unfold sweepToolCalls at returned
    cases chosen : next listed with
    | none =>
      rw [chosen] at returned
      obtain ⟨later, _, loop, returned⟩ := Tx.bind_eq_ok.mp returned
      obtain ⟨rfl, rfl⟩ := Tx.pure_eq_ok.mp returned
      obtain ⟨rest', events, swept, rfl⟩ := ih (passed ++ [listed]) (by simpa using table)
        (by simpa using distinct) loop
      exact ⟨listed :: rest', events, .keep chosen swept, by simp⟩
    | some updater =>
      rw [chosen] at returned
      obtain ⟨stored, _, update, continued⟩ := Tx.bind_eq_ok.mp returned
      obtain ⟨-, before, current, after, next', split, others, own, next_eq, normalized, rfl⟩ :=
        Tx.updateToolCall_eq_ok update
      cases next_eq
      obtain ⟨rfl, rfl, rfl⟩ := split_unique (table.symm.trans split) distinct own
      obtain ⟨_, _, appended, continued⟩ := Tx.bind_eq_ok.mp continued
      obtain ⟨event, records, rfl⟩ := appendEvent_eq_ok appended
      obtain ⟨later, _, loop, continued⟩ := Tx.bind_eq_ok.mp continued
      obtain ⟨rfl, rfl⟩ := Tx.pure_eq_ok.mp continued
      have sameToolCallId : stored.toolCall.toolCallId = current.toolCall.toolCallId :=
        (normalizeStoredToolCall_alike normalized).1.toolCallId.trans (sameId _ _ chosen)
      obtain ⟨rest', events, swept, rfl⟩ := ih (before ++ [stored])
        (by simp) (by simpa [sameToolCallId] using distinct) loop
      refine ⟨stored :: rest', event :: events, .replace ⟨updater, chosen, normalized⟩ records swept,
        ?_⟩
      rw [View.setToolCalls_stage, View.setToolCalls_setToolCalls, View.stageAll_cons,
        List.append_assoc]
      rfl

theorem sweepToolCalls_keep
    {next : StoredToolCallRecord J → Option (StoredToolCallRecord J → StoredToolCallRecord J)}
    {listed : List (StoredToolCallRecord J)} {results : List (Option (StoredToolCallRecord J))}
    {view view' : View J} (kept : ∀ record ∈ listed, next record = none)
    (returned : sweepToolCalls json sessionId fence next listed view = .ok (results, view')) :
    view = view' := by
  induction listed generalizing results with
  | nil =>
    obtain ⟨-, rfl⟩ := Tx.pure_eq_ok.mp returned
    rfl
  | cons record rest ih =>
    obtain ⟨keeps, later⟩ := List.forall_mem_cons.mp kept
    unfold sweepToolCalls at returned
    rw [keeps] at returned
    obtain ⟨results, _, loop, returned⟩ := Tx.bind_eq_ok.mp returned
    obtain ⟨-, rfl⟩ := Tx.pure_eq_ok.mp returned
    exact ih later loop

end Sweep

end Tvic.Runtime
