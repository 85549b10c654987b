import Tvic.Runtime.RuntimeAttachment
import Tvic.Runtime.SessionTerminalization

/-!
# Runs of the transactions on a session

The store runs the transactions of one session one at a time. An attempt is a transaction with the
fence of its caller's lease; it is committed with all that its body has written, or it leaves the
store as it is: because its body throws, or because the store refuses the lease before the body or
after it.
-/
namespace Tvic.Runtime

open Lib InMemoryDurableRuntime

variable {N : Type}

/-! ### The start of a session -/

/-- What `buildSession` takes from the agent and the options; the metadata has the ids and the memory
policy in it. -/
structure SessionOptions (J : Type) where
  agentId : String
  channel : ChannelKind
  callId : Option String
  metadata : Option J
  sessionVariables : Option J

structure SessionDraws where
  sessionId : SessionId
  now : Timestamp
  monotonicMs : Int

def buildSession (options : SessionOptions (JsValue N)) (draws : SessionDraws) :
    StoredSessionRecord (JsValue N) where
  session :=
    { id := draws.sessionId
      agentId := options.agentId
      channel := options.channel
      callId := options.callId
      memoryRefs := []
      metadata := options.metadata
      createdAt := draws.now
      state :=
        { sessionVariables := options.sessionVariables.getD (.object [])
          currentTurnId := none
          pendingToolCallIds := []
          turnSequence := 0 }
      phase := .active .active draws.now }
  runtime := ⟨draws.monotonicMs, some draws.now, some 0, none⟩
  version := none

def startSession (json : JsonCodec (JsValue N)) (options : SessionOptions (JsValue N))
    (draws : SessionDraws) (fence : Nat) : Tx (JsValue N) Unit := do
  let built := buildSession options draws
  Tx.call json draws.sessionId (.putSession built)
  appendEvent json draws.sessionId fence draws.sessionId (.session built.session built.runtime)
    (some 1)

/-! ### Transactions -/

/-- The transactions with what they take from their callers, the clocks and the id generator. -/
inductive SessionTransaction (N : Type) where
  | startSession (options : SessionOptions (JsValue N)) (draws : SessionDraws)
  | startTurn (request : StartTurnRequest (JsValue N)) (draws : TurnDraws)
  | endTurn (sessionId : SessionId) (turnId : String) (request : EndTurnRequest (JsValue N))
      (now : Timestamp) (durationSince : Int → Int) (activityAt : Timestamp)
  | updateTurnStatus (sessionId : SessionId) (turnId : String) (status : Turn.Status)
      (activityAt : Timestamp)
  | checkpointTurnInterruption (sessionId : SessionId) (turnId : String)
      (reason : TurnCancellationReason) (activityAt : Timestamp)
  | startToolCall (toolCall : QueuedToolCall (JsValue N)) (clockMs : Int)
      (startedAt activityAt : Timestamp)
  | finishToolCall (toolCall : TerminalToolCall (JsValue N)) (clockMs : Int)
      (activityAt : Timestamp)
  | recordToolCall (toolCall : ToolCall (JsValue N)) (clockMs : Int) (activityAt : Timestamp)
  | recoverAttachment (sessionId : SessionId) (lookup : String → ToolRecoveryLookup (JsValue N))
      (records : List (StoredToolCallRecord (JsValue N))) (readings : RecoveryReadings)
  | persistSessionEnd (sessionId : SessionId) (request : EndSessionRequest (JsValue N))
      (now : Timestamp)
      (durationForTurn : Turn (JsValue N) → Int → Timestamp → Option Int)

namespace SessionTransaction

def sessionId : SessionTransaction N → SessionId
  | .startSession _ draws => draws.sessionId
  | .startTurn request _ => request.sessionId
  | .endTurn sessionId .. => sessionId
  | .updateTurnStatus sessionId .. => sessionId
  | .checkpointTurnInterruption sessionId .. => sessionId
  | .startToolCall toolCall .. => toolCall.val.sessionId
  | .finishToolCall toolCall .. => toolCall.val.sessionId
  | .recordToolCall toolCall .. => toolCall.sessionId
  | .recoverAttachment sessionId .. => sessionId
  | .persistSessionEnd sessionId .. => sessionId

def snapshot : SessionTransaction N → Option (List (StoredToolCallRecord (JsValue N)))
  | .recoverAttachment _ _ records _ => some records
  | _ => none

/-- The body, with the fence of the lease or without one. An end of the session reports itself. -/
def body (json : JsonCodec (JsValue N)) (lease : Option Nat) :
    SessionTransaction N → Tx (JsValue N) (Option (PersistedSessionEnd (JsValue N)))
  | .startSession options draws => do
    Runtime.startSession json options draws (lease.getD 0)
    return none
  | .startTurn request draws => do
    let _ ← Runtime.startTurn json request draws (lease.getD 0)
    return none
  | .endTurn sessionId turnId request now durationSince activityAt => do
    let _ ← Runtime.endTurn json sessionId turnId request now durationSince activityAt
      (lease.getD 0)
    return none
  | .updateTurnStatus sessionId turnId status activityAt => do
    let _ ← Runtime.updateTurnStatus json sessionId turnId status activityAt (lease.getD 0)
    return none
  | .checkpointTurnInterruption sessionId turnId reason activityAt => do
    let _ ← Runtime.checkpointTurnInterruption json sessionId turnId reason activityAt
      (lease.getD 0)
    return none
  | .startToolCall toolCall clockMs startedAt activityAt => do
    Runtime.startToolCall json toolCall clockMs startedAt activityAt (lease.getD 0)
    return none
  | .finishToolCall toolCall clockMs activityAt => do
    let _ ← Runtime.finishToolCall json toolCall clockMs activityAt lease
    return none
  | .recordToolCall toolCall clockMs activityAt => do
    Runtime.recordToolCall json toolCall clockMs activityAt lease
    return none
  | .recoverAttachment sessionId lookup records readings => do
    let _ ← Runtime.recoverAttachment json sessionId (prepareToolRecovery lookup records) readings
      (lease.getD 0)
    return none
  | .persistSessionEnd sessionId request now durationForTurn => do
    let persisted ← Runtime.persistSessionEnd json sessionId request now (lease.getD 0)
      durationForTurn
    return some persisted

end SessionTransaction

/-! ### Runs -/

/-- One transaction of a run; a refused one is not committed. -/
structure Attempt (N : Type) where
  transaction : SessionTransaction N
  lease : Option Nat
  refused : Bool

/-- `createInMemoryDurableRuntimeStore()` -/
def Store.new {J : Type} : Store J where
  sessions := InMemorySessionStore.new
  turns := InMemoryChildStore.new
  toolCalls := InMemoryChildStore.new
  rawLeases := InMemorySessionLeaseStore.new
  outbox := []

/-- The view on which a transaction starts. -/
def Store.view {J : Type} (store : Store J) : View J := ⟨store, []⟩

def View.commit {J : Type} (view : View J) : Store J :=
  { view.store with outbox := commitOutbox view.store.outbox view.stagedOutbox }

variable (json : JsonCodec (JsValue N))

def committed (store : Store (JsValue N)) (attempt : Attempt N) :
    Option (Option (PersistedSessionEnd (JsValue N)) × View (JsValue N)) :=
  if attempt.refused then none
  else (attempt.transaction.body json attempt.lease store.view).toOption

def step (store : Store (JsValue N)) (attempt : Attempt N) : Store (JsValue N) :=
  match committed json store attempt with
  | some (_, view) => view.commit
  | none => store

/-! ### What a body that returns has done -/

variable {json}

/-- The record of a session that starts, and the event of the record as it was built. -/
structure SessionStarted (json : JsonCodec (JsValue N)) (options : SessionOptions (JsValue N))
    (draws : SessionDraws) (fence : Nat) (view view' : View (JsValue N))
    (stored : StoredSessionRecord (JsValue N)) : Prop where
  same : ∀ existing, view.session draws.sessionId = some existing →
    sameSessionRecord json existing (buildSession options draws) = true
  normalized : normalizeStoredSession json
    { buildSession options draws with
      version := some (((view.session draws.sessionId).bind (·.version)).getD 1) }
    ("session:" ++ draws.sessionId) = .ok stored
  written : ∃ event, RecordsSession json draws.sessionId fence
      { buildSession options draws with version := some 1 } event ∧
    view' = (view.setSession draws.sessionId stored).stage event

theorem startSession_eq_ok {options : SessionOptions (JsValue N)} {draws : SessionDraws}
    {fence : Nat} {view view' : View (JsValue N)}
    (returned : startSession json options draws fence view = .ok ((), view')) :
    ∃ stored, SessionStarted json options draws fence view view' stored := by
  obtain ⟨_, _, put, returned⟩ := Tx.bind_eq_ok.mp returned
  obtain ⟨-, same, version, stored, normalized, version_eq, rfl⟩ := Tx.putSession_eq_ok put
  obtain ⟨event, recorded, rfl⟩ := appendEvent_eq_ok returned
  have first : version = ((view.session draws.sessionId).bind (·.version)).getD 1 := by
    rw [version_eq, show (buildSession options draws).version = none from rfl, Option.or_none]
  exact ⟨stored, same, first ▸ normalized, event, recorded, rfl⟩

/-- What a transaction does: one constructor for each way of writing. -/
inductive Effect (json : JsonCodec (JsValue N)) (sessionId : SessionId) (fence : Nat)
    (snapshot : Option (List (StoredToolCallRecord (JsValue N)))) (view view' : View (JsValue N)) :
    Option (PersistedSessionEnd (JsValue N)) → Prop where
  | unchanged {report : Option (PersistedSessionEnd (JsValue N))} (same : view' = view)
      (silent : ∀ persisted ∈ report, persisted.shouldEmit = false ∧
        ∃ current, view.session sessionId = some current ∧ current.session.isTerminal = true) :
      Effect json sessionId fence snapshot view view' report
  | sessionStarted {options : SessionOptions (JsValue N)} {draws : SessionDraws}
      {stored : StoredSessionRecord (JsValue N)} (own : draws.sessionId = sessionId)
      (started : SessionStarted json options draws fence view view' stored) :
      Effect json sessionId fence snapshot view view' none
  | turnStarted {request : StartTurnRequest (JsValue N)} {draws : TurnDraws}
      {current : StoredSessionRecord (JsValue N)} {stored : StoredTurnRecord (JsValue N)}
      (found : view.session sessionId = some current)
      (active : current.session.status = .active .active)
      (closed : ∀ record ∈ view.turns sessionId, record.turn.isTerminal = true)
      (fresh : ∀ record ∈ view.turns sessionId, record.turn.id ≠ draws.turnId)
      (normalized : normalizeStoredTurn json
        { createTurn request draws current with version := some 1 } ("turn:" ++ draws.turnId) =
          .ok stored)
      (written : TurnWritten json sessionId fence
        (withStartedTurn (createTurn request draws current).turn draws.activityAt)
        (view.turns sessionId ++ [stored]) (createTurn request draws current) view view') :
      Effect json sessionId fence snapshot view view' none
  | turnEnded {turnId : String} {request : EndTurnRequest (JsValue N)} {now activityAt : Timestamp}
      {durationSince : Int → Int} {current stored : StoredTurnRecord (JsValue N)}
      {turns' : List (StoredTurnRecord (JsValue N))} (unfinished : current.turn.isTerminal = false)
      (replaced : TurnReplaced json sessionId turnId
        (fun record => { record with turn := (terminalTurnFromRequest current.turn request now
          (some (durationSince current.runtime.monotonicStartedAtMs))).val })
        (view.turns sessionId) current stored turns')
      (written : TurnWritten json sessionId fence
        (withEndedTurn (terminalTurnFromRequest current.turn request now
          (some (durationSince current.runtime.monotonicStartedAtMs))).val activityAt)
        turns' stored view view') :
      Effect json sessionId fence snapshot view view' none
  | turnChanged {turnId : String} {activityAt : Timestamp} {allowed : Turn (JsValue N) → Prop}
      {next : Turn (JsValue N) → Turn (JsValue N)}
      (moves : ∀ turn, allowed turn → turn.isTerminal = false → (next turn).id = turn.id ∧
        (next turn).sequence = turn.sequence ∧ turn.status ≠ .active .interrupted ∧
        ((next turn).status = .active .interrupted ∨
          isAllowedTurnTransition turn.status (next turn).status = true))
      (changed : TurnChanged json sessionId turnId activityAt fence allowed next view view') :
      Effect json sessionId fence snapshot view view' none
  | toolCallStarted {toolCall : QueuedToolCall (JsValue N)} {clockMs : Int}
      {startedAt activityAt : Timestamp} {queued running : StoredToolCallRecord (JsValue N)}
      {listed toolCalls' : List (StoredToolCallRecord (JsValue N))}
      {current stored : StoredSessionRecord (JsValue N)}
      (own : toolCall.val.sessionId = sessionId)
      (started : ToolCallStarted json toolCall.val clockMs startedAt activityAt fence view view'
        queued running listed toolCalls' current stored) :
      Effect json sessionId fence snapshot view view' none
  | toolCallWritten {incoming next : ToolCall (JsValue N)} {clockMs : Int}
      {nextState : SessionState (JsValue N) → SessionState (JsValue N)} {activityAt : Timestamp}
      {reported stored : StoredToolCallRecord (JsValue N)}
      {toolCalls' : List (StoredToolCallRecord (JsValue N))}
      {current session' : StoredSessionRecord (JsValue N)}
      (own : incoming.sessionId = sessionId)
      (pending : (incoming.isTerminal = true ∧ nextState = withoutPending incoming.toolCallId) ∨
        (incoming.isTerminal = false ∧ nextState = withPending incoming.toolCallId))
      (written : ToolCallWritten json incoming clockMs nextState activityAt fence view view' next
        reported stored toolCalls' current session') :
      Effect json sessionId fence snapshot view view' none
  | recovered {lookup : String → ToolRecoveryLookup (JsValue N)}
      {records : List (StoredToolCallRecord (JsValue N))} {readings : RecoveryReadings}
      {toolRecords : List (StoredToolCallRecord (JsValue N))}
      {turns' : List (StoredTurnRecord (JsValue N))}
      {toolCalls' : List (StoredToolCallRecord (JsValue N))}
      {current stored : StoredSessionRecord (JsValue N)}
      {turnEvents toolEvents : List (Event (JsValue N))} {sessionEvent : Event (JsValue N)}
      (taken : snapshot = some records)
      (recovery : Recovered json sessionId (prepareToolRecovery lookup records) readings fence view
        view' toolRecords turns' toolCalls' current stored turnEvents toolEvents sessionEvent) :
      Effect json sessionId fence snapshot view view' none
  | ended {persisted : PersistedSessionEnd (JsValue N)} {request : EndSessionRequest (JsValue N)}
      {now : Timestamp} {durationForTurn : Turn (JsValue N) → Int → Timestamp → Option Int}
      {turns' : List (StoredTurnRecord (JsValue N))}
      {toolCalls' : List (StoredToolCallRecord (JsValue N))}
      {current stored : StoredSessionRecord (JsValue N)}
      {turnEvents toolEvents : List (Event (JsValue N))} {sessionEvent : Event (JsValue N)}
      (emits : persisted.shouldEmit = true) (unfinished : current.session.isTerminal = false)
      (ending : SessionEnded json sessionId request now fence durationForTurn view view' turns'
        toolCalls' current stored turnEvents toolEvents sessionEvent) :
      Effect json sessionId fence snapshot view view' (some persisted)

section Bodies

variable {view view' : View (JsValue N)} {sessionId : SessionId} {lease : Option Nat}
  {transaction : SessionTransaction N} {report : Option (PersistedSessionEnd (JsValue N))}

theorem Effect.of_unchanged {fence : Nat}
    {snapshot : Option (List (StoredToolCallRecord (JsValue N)))} (same : view' = view) :
    Effect json sessionId fence snapshot view view' none :=
  .unchanged same (by simp)

theorem body_effect (own : transaction.sessionId = sessionId) (distinct : Distinct view sessionId)
    (returned : transaction.body json lease view = .ok (report, view')) :
    Effect json sessionId (lease.getD 0) transaction.snapshot view view' report := by
  cases transaction with
  | startSession options draws =>
    obtain ⟨_, _, ran, returned⟩ := Tx.bind_eq_ok.mp returned
    obtain ⟨rfl, rfl⟩ := Tx.pure_eq_ok.mp returned
    obtain ⟨stored, started⟩ := startSession_eq_ok ran
    exact .sessionStarted own started
  | startTurn request draws =>
    obtain ⟨_, _, ran, returned⟩ := Tx.bind_eq_ok.mp returned
    obtain ⟨rfl, rfl⟩ := Tx.pure_eq_ok.mp returned
    obtain rfl : request.sessionId = sessionId := own
    rcases startTurn_eq_ok ran with ⟨same, -⟩ |
      ⟨current, stored, found, active, closed, -, fresh, normalized, -, written⟩
    · exact .of_unchanged same
    · exact .turnStarted found active closed fresh normalized written
  | endTurn id turnId request now durationSince activityAt =>
    obtain ⟨_, _, ran, returned⟩ := Tx.bind_eq_ok.mp returned
    obtain ⟨rfl, rfl⟩ := Tx.pure_eq_ok.mp returned
    obtain rfl : id = sessionId := own
    rcases endTurn_eq_ok ran with same | ⟨current, stored, turns', unfinished, replaced, written⟩
    · exact .of_unchanged same
    · exact .turnEnded unfinished replaced written
  | updateTurnStatus id turnId status activityAt =>
    obtain ⟨_, _, ran, returned⟩ := Tx.bind_eq_ok.mp returned
    obtain ⟨rfl, rfl⟩ := Tx.pure_eq_ok.mp returned
    obtain rfl : id = sessionId := own
    rcases updateTurnStatus_eq_ok ran with same | ⟨target, -, -, changed⟩
    · exact .of_unchanged same
    · refine .turnChanged ?_ changed
      intro turn allowed _
      exact ⟨rfl, rfl, allowed.1, .inr allowed.2⟩
  | checkpointTurnInterruption id turnId reason activityAt =>
    obtain ⟨_, _, ran, returned⟩ := Tx.bind_eq_ok.mp returned
    obtain ⟨rfl, rfl⟩ := Tx.pure_eq_ok.mp returned
    obtain rfl : id = sessionId := own
    rcases checkpointTurnInterruption_eq_ok ran with same | changed
    · exact .of_unchanged same
    · refine .turnChanged ?_ changed
      intro turn allowed _
      exact ⟨rfl, rfl, allowed, .inl rfl⟩
  | startToolCall toolCall clockMs startedAt activityAt =>
    obtain ⟨_, _, ran, returned⟩ := Tx.bind_eq_ok.mp returned
    obtain ⟨rfl, rfl⟩ := Tx.pure_eq_ok.mp returned
    obtain ⟨queued, running, listed, toolCalls', current, stored, started⟩ := startToolCall_eq_ok ran
    exact .toolCallStarted own started
  | finishToolCall toolCall clockMs activityAt =>
    obtain ⟨_, _, ran, returned⟩ := Tx.bind_eq_ok.mp returned
    obtain ⟨rfl, rfl⟩ := Tx.pure_eq_ok.mp returned
    rcases finishToolCall_eq_ok ran with
      same | ⟨reported, stored, toolCalls', current, session', written⟩
    · exact .of_unchanged same
    · exact .toolCallWritten own (.inl ⟨toolCall.property, rfl⟩) written
  | recordToolCall toolCall clockMs activityAt =>
    obtain ⟨_, _, ran, returned⟩ := Tx.bind_eq_ok.mp returned
    obtain ⟨rfl, rfl⟩ := Tx.pure_eq_ok.mp returned
    unfold recordToolCall at ran
    split at ran
    next gone =>
      obtain ⟨_, _, finished, settled⟩ := Tx.bind_eq_ok.mp ran
      obtain ⟨-, rfl⟩ := Tx.pure_eq_ok.mp settled
      rcases finishToolCall_eq_ok finished with
        same | ⟨reported, stored, toolCalls', current, session', written⟩
      · exact .of_unchanged same
      · exact .toolCallWritten own (.inl ⟨gone, rfl⟩) written
    next unfinished =>
      rcases persistOpen_eq_ok ran with
        same | ⟨next, reported, stored, toolCalls', current, session', written⟩
      · exact .of_unchanged same
      · exact .toolCallWritten own (.inr ⟨by simpa using unfinished, rfl⟩) written
  | recoverAttachment id lookup records readings =>
    obtain ⟨_, _, ran, returned⟩ := Tx.bind_eq_ok.mp returned
    obtain ⟨rfl, rfl⟩ := Tx.pure_eq_ok.mp returned
    obtain rfl : id = sessionId := own
    obtain ⟨toolRecords, turns', toolCalls', current, stored, turnEvents, toolEvents, sessionEvent,
      recovery⟩ := recoverAttachment_eq_ok distinct ran
    exact .recovered rfl recovery
  | persistSessionEnd id request now durationForTurn =>
    obtain ⟨persisted, _, ran, returned⟩ := Tx.bind_eq_ok.mp returned
    obtain ⟨rfl, rfl⟩ := Tx.pure_eq_ok.mp returned
    obtain rfl : id = sessionId := own
    obtain ⟨current, found, ⟨terminal, same, silent⟩ | ⟨unfinished, emits, turns', toolCalls',
      stored, turnEvents, toolEvents, sessionEvent, ending⟩⟩ := persistSessionEnd_eq_ok distinct ran
    · refine .unchanged same fun other reported => ?_
      obtain rfl := Option.some.inj reported
      exact ⟨silent, current, found, terminal⟩
    · exact .ended emits unfinished ending

variable {store : Store (JsValue N)} {attempt : Attempt N}

theorem committed_eq_some
    (returned : committed json store attempt = some (report, view)) :
    attempt.refused = false ∧
      attempt.transaction.body json attempt.lease store.view = .ok (report, view) := by
  unfold committed at returned
  split at returned
  · cases returned
  next allowed =>
    refine ⟨by simpa using allowed, ?_⟩
    cases ran : attempt.transaction.body json attempt.lease store.view with
    | error e =>
      rw [ran] at returned
      cases returned
    | ok result =>
      rw [ran] at returned
      cases returned
      rfl

theorem step_effect (json : JsonCodec (JsValue N)) (own : attempt.transaction.sessionId = sessionId)
    (distinct : Distinct store.view sessionId) :
    (committed json store attempt = none ∧ step json store attempt = store) ∨
      ∃ report view, committed json store attempt = some (report, view) ∧
        step json store attempt = view.commit ∧
        Effect json sessionId (attempt.lease.getD 0) attempt.transaction.snapshot store.view view
          report := by
  cases ran : committed json store attempt with
  | none => exact .inl ⟨rfl, by rw [step, ran]⟩
  | some result =>
    obtain ⟨report, view⟩ := result
    exact .inr ⟨report, view, rfl, by rw [step, ran],
      body_effect own distinct (committed_eq_some ran).2⟩

end Bodies

section Commit

variable {J : Type} (view : View J)

@[simp] theorem View.session_commit : view.commit.view.session = view.session := rfl

@[simp] theorem View.turns_commit : view.commit.view.turns = view.turns := rfl

@[simp] theorem View.toolCalls_commit : view.commit.view.toolCalls = view.toolCalls := rfl

end Commit

end Tvic.Runtime
