import Tvic.Runtime.TurnLifecycle

/-!
# Terminal sessions

The first end of a session that is committed closes all that is open in it; after that no transaction
writes anything any more.
-/
namespace Tvic.Runtime

open Lib InMemoryDurableRuntime

variable {N : Type} {json : JsonCodec (JsValue N)} {sessionId : SessionId} {fence : Nat}
  {snapshot : Option (List (StoredToolCallRecord (JsValue N)))} {view view' : View (JsValue N)}
  {report : Option (PersistedSessionEnd (JsValue N))}

/-- A session that is over, with nothing left open. -/
structure SessionClosed (view : View (JsValue N)) (sessionId : SessionId) : Prop where
  session : ∃ record, view.session sessionId = some record ∧ record.session.isTerminal = true ∧
    record.session.state.pendingToolCallIds = [] ∧ record.session.state.currentTurnId = none
  turns : ∀ record ∈ view.turns sessionId, record.turn.isTerminal = true
  toolCalls : ∀ record ∈ view.toolCalls sessionId, record.toolCall.isTerminal = true

def SessionAlive (view : View (JsValue N)) (sessionId : SessionId) : Prop :=
  ∀ record ∈ view.session sessionId, record.session.isTerminal = false

/-! ### The end of a session -/

theorem Swept.closedToolCalls {η : Type}
    {keeps : StoredToolCallRecord (JsValue N) → Prop}
    {replaces : StoredToolCallRecord (JsValue N) → StoredToolCallRecord (JsValue N) → Prop}
    {records : StoredToolCallRecord (JsValue N) → η → Prop}
    {toolCalls toolCalls' : List (StoredToolCallRecord (JsValue N))}
    {results : List (Option (StoredToolCallRecord (JsValue N)))} {events : List η}
    (swept : Swept keeps replaces records toolCalls results toolCalls' events)
    (kept : ∀ record, keeps record → record.toolCall.isTerminal = true)
    (replaced : ∀ a b, replaces a b → b.toolCall.isTerminal = true) :
    ∀ record ∈ toolCalls', record.toolCall.isTerminal = true := by
  induction swept with
  | nil => simp
  | keep keeps _ ih => exact List.forall_mem_cons.mpr ⟨kept _ keeps, ih⟩
  | replace replaces _ _ ih => exact List.forall_mem_cons.mpr ⟨replaced _ _ replaces, ih⟩

theorem SessionEnded.closed {request : EndSessionRequest (JsValue N)} {now : Timestamp}
    {durationForTurn : Turn (JsValue N) → Int → Timestamp → Option Int}
    {turns' : List (StoredTurnRecord (JsValue N))}
    {toolCalls' : List (StoredToolCallRecord (JsValue N))}
    {current stored : StoredSessionRecord (JsValue N)}
    {turnEvents toolEvents : List (Event (JsValue N))} {sessionEvent : Event (JsValue N)}
    (ending : SessionEnded json sessionId request now fence durationForTurn view view' turns'
      toolCalls' current stored turnEvents toolEvents sessionEvent) :
    SessionClosed view' sessionId := by
  obtain ⟨_, turns⟩ := ending.turns
  obtain ⟨_, toolCalls⟩ := ending.toolCalls
  have alike := (normalizeStoredSession_alike ending.session.normalized).1
  rw [ending.view_eq]
  refine ⟨⟨stored, View.session_write, ?_, ?_, ?_⟩, ?_, ?_⟩
  · rw [alike.isTerminal]
    exact (terminalSessionFromRequest ..).property
  · rw [alike.pendingToolCallIds]
    rfl
  · rw [alike.currentTurnId]
    rfl
  · rw [View.turns_write]
    exact (turns.turnRows (fun _ => endOpenTurn_eq_none.mp)
      fun a b ⟨_, chosen, normalized⟩ => endOpenTurn_replaces chosen normalized).2
  · rw [View.toolCalls_write]
    exact toolCalls.closedToolCalls (fun _ => endOpenToolCall_eq_none.mp)
      fun a b ⟨_, chosen, normalized⟩ =>
        (endOpenToolCall_replaces False chosen normalized).1

/-! ### What a transaction does to a session that is not over -/

theorem SessionReplaced.alive
    {next : StoredSessionRecord (JsValue N) → StoredSessionRecord (JsValue N)}
    {current stored : StoredSessionRecord (JsValue N)} (alive : SessionAlive view sessionId)
    (replaced : SessionReplaced json sessionId next (view.session sessionId) current stored)
    (keeps : (next current).session.phase = current.session.phase) :
    stored.session.isTerminal = false := by
  rw [(normalizeStoredSession_alike replaced.normalized).1.isTerminal]
  have same : (next current).session.isTerminal = current.session.isTerminal := by
    rw [Session.isTerminal, Session.isTerminal, Session.status, Session.status, keeps]
  exact same.trans (alive current replaced.found)

theorem alive_write {turns' : List (StoredTurnRecord (JsValue N))}
    {toolCalls' : List (StoredToolCallRecord (JsValue N))} {events : List (Event (JsValue N))}
    {stored : StoredSessionRecord (JsValue N)} (alive : stored.session.isTerminal = false) :
    SessionAlive (view.write sessionId turns' toolCalls' stored events) sessionId := by
  intro record found
  rw [View.session_write] at found
  obtain rfl := Option.some.inj found
  exact alive

theorem Effect.of_alive (alive : SessionAlive view sessionId)
    (effect : Effect json sessionId fence snapshot view view' report) :
    (report = none ∧ SessionAlive view' sessionId) ∨
      ∃ persisted, report = some persisted ∧ persisted.shouldEmit = true ∧
        SessionClosed view' sessionId := by
  cases effect with
  | unchanged same silent =>
    refine .inl ⟨?_, same ▸ alive⟩
    cases report with
    | none => rfl
    | some persisted =>
      obtain ⟨-, current, found, terminal⟩ := silent persisted rfl
      rw [alive current found] at terminal
      cases terminal
  | sessionStarted own started =>
    subst own
    obtain ⟨event, -, rfl⟩ := started.written
    refine .inl ⟨rfl, fun record found => ?_⟩
    rw [View.session_stage, View.session_setSession] at found
    obtain rfl := Option.some.inj found
    exact (normalizeStoredSession_alike started.normalized).1.isTerminal
  | turnStarted _ _ _ _ _ written =>
    obtain ⟨_, _, _, _, session, -, -, rfl⟩ := written.written
    exact .inl ⟨rfl, alive_write (session.alive alive rfl)⟩
  | turnEnded _ _ written =>
    obtain ⟨_, _, _, _, session, -, -, rfl⟩ := written.written
    exact .inl ⟨rfl, alive_write (session.alive alive rfl)⟩
  | turnChanged _ changed =>
    obtain ⟨_, _, _, -, -, -, written⟩ := changed
    obtain ⟨_, _, _, _, session, -, -, rfl⟩ := written.written
    exact .inl ⟨rfl, alive_write (session.alive alive rfl)⟩
  | toolCallStarted own started =>
    subst own
    obtain ⟨_, _, _, -, -, -, rfl⟩ := started.written
    exact .inl ⟨rfl, alive_write (started.session.replaced.alive alive rfl)⟩
  | toolCallWritten own _ written =>
    subst own
    obtain ⟨_, _, -, -, rfl⟩ := written.written
    exact .inl ⟨rfl, alive_write (written.session.replaced.alive alive rfl)⟩
  | recovered _ recovery =>
    rw [recovery.view_eq]
    exact .inl ⟨rfl, alive_write (recovery.session.alive alive rfl)⟩
  | ended emits _ ending => exact .inr ⟨_, rfl, emits, ending.closed⟩

/-! ### What a transaction does to a closed session -/

theorem SessionClosed.not_active (closed : SessionClosed view sessionId)
    {current : StoredSessionRecord (JsValue N)} {status : ActiveSessionStatus}
    (found : view.session sessionId = some current) :
    current.session.status ≠ .active status := by
  obtain ⟨record, found', terminal, -, -⟩ := closed.session
  obtain rfl := Option.some.inj (found.symm.trans found')
  intro active
  rw [Session.isTerminal, active] at terminal
  cases terminal

theorem Effect.of_closed (closed : SessionClosed view sessionId)
    (effect : Effect json sessionId fence snapshot view view' report) :
    view' = view ∧ ∀ persisted ∈ report, persisted.shouldEmit = false := by
  have turn_unfinished : ∀ {turnId : String} {updater} {turns' : List (StoredTurnRecord (JsValue N))}
      {current stored : StoredTurnRecord (JsValue N)},
      TurnReplaced json sessionId turnId updater (view.turns sessionId) current stored turns' →
        current.turn.isTerminal ≠ false := by
    intro _ _ _ current _ replaced unfinished
    obtain ⟨before, after, listed, -, -⟩ := replaced.split
    rw [closed.turns current (by rw [listed]; simp)] at unfinished
    cases unfinished
  cases effect with
  | unchanged same silent => exact ⟨same, fun persisted reported => (silent persisted reported).1⟩
  | @sessionStarted options draws _ own started =>
    -- the record that is put is that of an active session
    subst own
    obtain ⟨record, found, terminal, -, -⟩ := closed.session
    have same := (sameSessionRecord_alike (started.same record found)).1.isTerminal
    rw [terminal] at same
    cases same
  | turnStarted found active _ _ _ _ => exact absurd active (closed.not_active found)
  | turnEnded unfinished replaced _ => exact absurd unfinished (turn_unfinished replaced)
  | turnChanged _ changed =>
    obtain ⟨_, _, _, unfinished, -, replaced, -⟩ := changed
    exact absurd unfinished (turn_unfinished replaced)
  | toolCallStarted own started =>
    subst own
    obtain ⟨status, active⟩ := started.session.active
    exact absurd active (closed.not_active started.session.replaced.found)
  | toolCallWritten own _ written =>
    subst own
    obtain ⟨status, active⟩ := written.session.active
    exact absurd active (closed.not_active written.session.replaced.found)
  | recovered _ recovery =>
    obtain ⟨status, startedAt, phase⟩ := recovery.active
    exact absurd (by rw [Session.status, phase]) (closed.not_active recovery.session.found)
  | ended _ unfinished ending =>
    obtain ⟨record, found, terminal, -, -⟩ := closed.session
    obtain rfl := Option.some.inj (found.symm.trans ending.session.found)
    rw [terminal] at unfinished
    cases unfinished

/-! ### Runs -/

section Runs

variable {store start : Store (JsValue N)} {attempt : Attempt N} {attempts : List (Attempt N)}

/-- What an end of the session that is committed reports. -/
def endReport (json : JsonCodec (JsValue N)) (store : Store (JsValue N)) (attempt : Attempt N) :
    Option Bool :=
  (committed json store attempt).bind fun result => result.1.map (·.shouldEmit)

theorem commit_view : store.view.commit = store := by
  cases store
  rfl

theorem SessionClosed.step (json : JsonCodec (JsValue N)) (own : attempt.transaction.sessionId = sessionId)
    (distinct : Distinct store.view sessionId) (closed : SessionClosed store.view sessionId) :
    Runtime.step json store attempt = store ∧ ∀ shouldEmit ∈ endReport json store attempt,
      shouldEmit = false := by
  rcases step_effect json own distinct with
    ⟨rejected, same⟩ | ⟨report, view, returned, same, effect⟩
  · exact ⟨same, by simp [endReport, rejected]⟩
  · obtain ⟨unchanged, silent⟩ := effect.of_closed closed
    refine ⟨by rw [same, unchanged, commit_view], ?_⟩
    simpa [endReport, returned] using silent

theorem closed_run (json : JsonCodec (JsValue N))
    (own : ∀ attempt ∈ attempts, attempt.transaction.sessionId = sessionId)
    (distinct : Distinct start.view sessionId) (closed : SessionClosed start.view sessionId) :
    run (step json) start attempts = start ∧
      ∀ shouldEmit ∈ history (step json) (endReport json) start attempts, shouldEmit = false := by
  induction attempts with
  | nil => exact ⟨rfl, by simp [history]⟩
  | cons attempt rest ih =>
    obtain ⟨first, later⟩ := List.forall_mem_cons.mp own
    obtain ⟨same, silent⟩ := closed.step json first distinct
    obtain ⟨unchanged, quiet⟩ := ih later
    rw [run_cons, history, same]
    refine ⟨unchanged, fun shouldEmit reported => ?_⟩
    rcases List.mem_append.mp reported with now | later
    · exact silent shouldEmit (Option.mem_toList.mp now)
    · exact quiet shouldEmit later

theorem alive_step (json : JsonCodec (JsValue N))
    (own : attempt.transaction.sessionId = sessionId)
    (distinct : Distinct store.view sessionId) (alive : SessionAlive store.view sessionId) :
    (endReport json store attempt = none ∧ SessionAlive (step json store attempt).view sessionId) ∨
      (endReport json store attempt = some true ∧
        SessionClosed (step json store attempt).view sessionId) := by
  rcases step_effect json own distinct with
    ⟨rejected, same⟩ | ⟨report, view, returned, same, effect⟩
  · exact .inl ⟨by simp [endReport, rejected], by rw [same]; exact alive⟩
  · rw [same]
    rcases effect.of_alive alive with ⟨rfl, alive'⟩ | ⟨persisted, rfl, emits, closed⟩
    · exact .inl ⟨by simp [endReport, returned], alive'⟩
    · exact .inr ⟨by simp [endReport, returned, emits],
        ⟨closed.session, closed.turns, closed.toolCalls⟩⟩

theorem alive_run (json : JsonCodec (JsValue N))
    (own : ∀ attempt ∈ attempts, attempt.transaction.sessionId = sessionId)
    (distinct : Distinct start.view sessionId) (alive : SessionAlive start.view sessionId) :
    (history (step json) (endReport json) start attempts = [] ∧
        SessionAlive (run (step json) start attempts).view sessionId) ∨
      ∃ later, history (step json) (endReport json) start attempts = true :: later ∧
        (∀ shouldEmit ∈ later, shouldEmit = false) ∧
        SessionClosed (run (step json) start attempts).view sessionId := by
  induction attempts generalizing start with
  | nil => exact .inl ⟨rfl, alive⟩
  | cons attempt rest ih =>
    obtain ⟨first, others⟩ := List.forall_mem_cons.mp own
    have distinct' := distinct_step json first distinct
    rw [run_cons, history]
    rcases alive_step json first distinct alive with ⟨silent, alive'⟩ | ⟨emits, closed⟩
    · rw [silent]
      exact ih others distinct' alive'
    · obtain ⟨same, quiet⟩ := closed_run json others distinct' closed
      refine .inr ⟨_, by rw [emits]; rfl, quiet, ?_⟩
      rw [same]
      exact closed

/-- An end that is committed leaves the session over and nothing open, whichever it is; what comes
after it changes nothing in the store; and of all ends that are committed the first one, and no other,
reports `shouldEmit`. -/
theorem terminal_session_absorbs (json : JsonCodec (JsValue N)) (attempts : List (Attempt N))
    (own : ∀ attempt ∈ attempts, attempt.transaction.sessionId = sessionId)
    (distinct : Distinct start.view sessionId) (alive : SessionAlive start.view sessionId) :
    (∀ before attempt after shouldEmit, attempts = before ++ attempt :: after →
      endReport json (run (step json) start before) attempt = some shouldEmit →
        SessionClosed (run (step json) start (before ++ [attempt])).view sessionId ∧
          run (step json) start attempts = run (step json) start (before ++ [attempt])) ∧
      (history (step json) (endReport json) start attempts = [] ∨
        ∃ later, history (step json) (endReport json) start attempts = true :: later ∧
          ∀ shouldEmit ∈ later, shouldEmit = false) := by
  refine ⟨?_, ?_⟩
  · rintro before attempt after shouldEmit rfl reported
    have earlier : ∀ attempt ∈ before, attempt.transaction.sessionId = sessionId :=
      fun attempt listed => own attempt (List.mem_append_left _ listed)
    have here : attempt.transaction.sessionId = sessionId := own attempt (by simp)
    have later : ∀ attempt ∈ after, attempt.transaction.sessionId = sessionId :=
      fun attempt listed => own attempt (by simp [listed])
    have distinct' : Distinct (run (step json) start before).view sessionId :=
      distinct_run json earlier distinct
    have closed : SessionClosed (run (step json) start (before ++ [attempt])).view sessionId := by
      rw [run_snoc]
      rcases alive_run json earlier distinct alive with ⟨-, alive'⟩ | ⟨_, -, -, closed⟩
      · rcases alive_step json here distinct' alive' with ⟨silent, -⟩ | ⟨-, closed⟩
        · rw [silent] at reported
          cases reported
        · exact closed
      · rw [(closed.step json here distinct').1]
        exact closed
    refine ⟨closed, ?_⟩
    have again : Distinct (run (step json) start (before ++ [attempt])).view sessionId := by
      rw [run_snoc]
      exact distinct_step json here distinct'
    rw [List.append_cons, run_append]
    exact (closed_run json later again closed).1
  · rcases alive_run json own distinct alive with ⟨silent, -⟩ | ⟨later, reports, quiet, -⟩
    · exact .inl silent
    · exact .inr ⟨later, reports, quiet⟩

end Runs

def hangup : Attempt Nat :=
  ⟨.persistSessionEnd "call" (.cancelled .callerHangup none) 4 fun _ _ _ => none, none, false⟩

/-- A call that ends with a turn and a tool call open; a turn that starts too late and a second end
follow. -/
def hangupDuringTool : List (Attempt Nat) :=
  [⟨.startSession ⟨"agent", .phone, none, none, none⟩ ⟨"call", 0, 0⟩, none, false⟩,
    ⟨.startTurn ⟨"call", none, none⟩ ⟨"turn", 1, 1, 1⟩, none, false⟩,
    ⟨.startToolCall ⟨⟨"tool", "lookup", "lookup", "call", "turn", .object [], 1, none, none, 2,
      .queued⟩, rfl⟩ 2 2 2, none, false⟩,
    hangup, ⟨.startTurn ⟨"call", none, none⟩ ⟨"late", 5, 5, 5⟩, none, false⟩, hangup]

theorem terminal_session_absorbs_hangupDuringTool :
    endReport .verbatim (run (step .verbatim) .new (hangupDuringTool.take 3)) hangup = some true ∧
      SessionClosed (run (step .verbatim) .new (hangupDuringTool.take 4)).view "call" ∧
      run (step .verbatim) .new hangupDuringTool =
        run (step .verbatim) .new (hangupDuringTool.take 4) := by
  have emits : endReport .verbatim (run (step .verbatim) .new (hangupDuringTool.take 3)) hangup =
      some true := by decide +kernel
  have alive : SessionAlive (.new : Store (JsValue Nat)).view "call" := by
    intro record found
    cases found
  have distinct : Distinct (.new : Store (JsValue Nat)).view "call" := ⟨.nil, .nil⟩
  exact ⟨emits, (terminal_session_absorbs .verbatim hangupDuringTool (by decide) distinct alive).1
    (hangupDuringTool.take 3) hangup (hangupDuringTool.drop 4) true rfl emits⟩

def overWithOpenTurn : Store (JsValue Nat) :=
  { Store.new with
    sessions := InMemorySessionStore.new.set "call" (some
      ⟨⟨"call", "agent", .phone, none, [], none, 0, ⟨.object [], some "turn", [], 1⟩,
        .completed 0 3 none⟩, ⟨0, none, none, none⟩, some 2⟩)
    turns := InMemoryChildStore.new.set "call"
      [⟨⟨"turn", "call", 1, ⟨none, [], none⟩, ⟨none, [], none, none⟩, [], 1, .empty, none,
        .active .speaking⟩, ⟨1, none⟩, some 1⟩] }

/-- Its first end changes nothing and reports nothing. -/
theorem overWithOpenTurn_not_closed :
    endReport .verbatim overWithOpenTurn hangup = some false ∧
      ¬SessionClosed (step .verbatim overWithOpenTurn hangup).view "call" := by
  refine ⟨by decide +kernel, fun closed => ?_⟩
  have opened : ((step .verbatim overWithOpenTurn hangup).view.turns "call").all
      (·.turn.isTerminal) = false := by decide +kernel
  rw [List.all_eq_true.mpr closed.turns] at opened
  cases opened

end Tvic.Runtime
