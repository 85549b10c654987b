import Tvic.Runtime.ToolCallLifecycle

/-!
# The lifecycle of turns

What the transactions on a session do to its turns, and what holds of the turns in every run: their
sequences count up from 1, at most one of them is open, and a terminal one is final.
-/
namespace Tvic.Runtime

open Lib

variable {N : Type} {J : Type}

/-! ### Status changes -/

inductive StatusChange : Turn.Status → Turn.Status → Prop where
  | allowed {source target : Turn.Status}
      (transition : isAllowedTurnTransition source target = true) : StatusChange source target
  | interrupted {source : Turn.Status} (unfinished : source.isTerminal = false)
      (running : source ≠ .active .interrupted) : StatusChange source (.active .interrupted)
  | ended {source target : Turn.Status} (unfinished : source.isTerminal = false)
      (terminal : target.isTerminal = true) : StatusChange source target

theorem target_unfinished {source target : Turn.Status}
    (transition : isAllowedTurnTransition source target = true) : target.isTerminal = false := by
  cases target with
  | active status => rfl
  | _ => cases source <;> cases transition

theorem StatusChange.unfinished {source target : Turn.Status} (change : StatusChange source target) :
    source.isTerminal = false := by
  cases change with
  | allowed transition =>
    cases source with
    | active status => rfl
    | _ => cases transition
  | interrupted unfinished _ => exact unfinished
  | ended unfinished _ => exact unfinished

theorem StatusChange.of_interrupted {target : Turn.Status}
    (change : StatusChange (.active .interrupted) target) : target.isTerminal = true := by
  cases change with
  | allowed transition =>
    cases target with
    | active status => cases transition
    | _ => rfl
  | interrupted _ running => exact absurd rfl running
  | ended _ terminal => exact terminal

/-! ### What a transaction does to the turns -/

structure TurnReplaces (a b : StoredTurnRecord J) : Prop where
  sequence : b.turn.sequence = a.turn.sequence
  change : StatusChange a.turn.status b.turn.status

abbrev turnId (record : StoredTurnRecord J) : String := record.turn.id

abbrev TurnBecomes (a b : StoredTurnRecord J) : Prop := Becomes turnId TurnReplaces a b

def turnFields (record : StoredSessionRecord J) : Option String × Nat :=
  (record.session.state.currentTurnId, record.session.state.turnSequence)

inductive TurnEffect (turns : List (StoredTurnRecord J)) (session : Option (StoredSessionRecord J)) :
    List (StoredTurnRecord J) → Option (StoredSessionRecord J) → Prop where
  | kept {session' : Option (StoredSessionRecord J)}
      (same : session'.map turnFields = session.map turnFields) :
      TurnEffect turns session turns session'
  | opened {stored : StoredSessionRecord J} (absent : session = none)
      (fields : turnFields stored = (none, 0)) : TurnEffect turns session turns (some stored)
  | started {current stored : StoredSessionRecord J} {row : StoredTurnRecord J}
      (found : session = some current)
      (closed : ∀ record ∈ turns, record.turn.isTerminal = true)
      (fresh : ∀ record ∈ turns, record.turn.id ≠ row.turn.id)
      (sequence : row.turn.sequence = current.session.state.turnSequence + 1)
      (status : row.turn.status = .active .started)
      (fields : turnFields stored = (some row.turn.id, row.turn.sequence)) :
      TurnEffect turns session (turns ++ [row]) (some stored)
  | replaced {before after : List (StoredTurnRecord J)} {a b : StoredTurnRecord J}
      {current stored : StoredSessionRecord J} (found : session = some current)
      (listed : turns = before ++ a :: after) (own : b.turn.id = a.turn.id)
      (replaces : TurnReplaces a b)
      (fields : turnFields stored =
        (if b.turn.isTerminal = true ∧ current.session.state.currentTurnId = some a.turn.id then none
          else current.session.state.currentTurnId, current.session.state.turnSequence)) :
      TurnEffect turns session (before ++ b :: after) (some stored)
  | closed {turns' : List (StoredTurnRecord J)} {current stored : StoredSessionRecord J}
      (found : session = some current) (rows : List.Forall₂ TurnBecomes turns turns')
      (closed : ∀ record ∈ turns', record.turn.isTerminal = true)
      (current' : stored.session.state.currentTurnId = none)
      (sequence : stored.session.state.turnSequence = current.session.state.turnSequence ∨
        stored.session.state.turnSequence =
          turns.foldl (fun sequence record => max sequence record.turn.sequence)
            current.session.state.turnSequence) :
      TurnEffect turns session turns' (some stored)

section Effects

variable {json : JsonCodec (JsValue N)} {sessionId : SessionId} {fence : Nat}
  {snapshot : Option (List (StoredToolCallRecord (JsValue N)))} {view view' : View (JsValue N)}
  {report : Option (PersistedSessionEnd (JsValue N))}

theorem turnFields_alike {record stored : StoredSessionRecord J}
    (alike : record.session.Alike stored.session) : turnFields stored = turnFields record := by
  rw [turnFields, turnFields, alike.currentTurnId, alike.turnSequence]

theorem turnFields_replaced {next : StoredSessionRecord J → StoredSessionRecord J}
    {json : JsonCodec J} {session : Option (StoredSessionRecord J)}
    {current stored : StoredSessionRecord J}
    (replaced : SessionReplaced json sessionId next session current stored) :
    turnFields stored = turnFields (next current) :=
  turnFields_alike (normalizeStoredSession_alike replaced.normalized).1

theorem turnFields_withState {next : SessionState J → SessionState J} {activityAt : Timestamp}
    {record : StoredSessionRecord J}
    (keeps : ∀ state, (next state).currentTurnId = state.currentTurnId ∧
      (next state).turnSequence = state.turnSequence) :
    turnFields (withState next activityAt record) = turnFields record := by
  obtain ⟨current, sequence⟩ := keeps record.session.state
  rw [turnFields, turnFields, withState, current, sequence]

theorem withPending_keeps (toolCallId : String) (state : SessionState J) :
    (withPending toolCallId state).currentTurnId = state.currentTurnId ∧
      (withPending toolCallId state).turnSequence = state.turnSequence := ⟨rfl, rfl⟩

theorem withoutPending_keeps (toolCallId : String) (state : SessionState J) :
    (withoutPending toolCallId state).currentTurnId = state.currentTurnId ∧
      (withoutPending toolCallId state).turnSequence = state.turnSequence := ⟨rfl, rfl⟩

theorem TurnEffect.of_pending {next : SessionState (JsValue N) → SessionState (JsValue N)}
    {activityAt : Timestamp} {turns : List (StoredTurnRecord (JsValue N))}
    {session : Option (StoredSessionRecord (JsValue N))}
    {current stored : StoredSessionRecord (JsValue N)}
    (keeps : ∀ state, (next state).currentTurnId = state.currentTurnId ∧
      (next state).turnSequence = state.turnSequence)
    (updated : PendingUpdated json sessionId next activityAt session current stored) :
    TurnEffect turns session turns (some stored) := by
  refine .kept ?_
  rw [updated.replaced.found, Option.map_some, Option.map_some,
    turnFields_replaced updated.replaced, turnFields_withState keeps]

theorem Swept.turnRows {η : Type} {keeps : StoredTurnRecord J → Prop}
    {replaces : StoredTurnRecord J → StoredTurnRecord J → Prop}
    {records : StoredTurnRecord J → η → Prop} {turns turns' : List (StoredTurnRecord J)}
    {results : List (Option (StoredTurnRecord J))} {events : List η}
    (keeps_terminal : ∀ record, keeps record → record.turn.isTerminal = true)
    (replaces_terminal : ∀ a b, replaces a b → b.turn.id = a.turn.id ∧ TurnReplaces a b ∧
      b.turn.isTerminal = true)
    (swept : Swept keeps replaces records turns results turns' events) :
    List.Forall₂ TurnBecomes turns turns' ∧ ∀ record ∈ turns', record.turn.isTerminal = true := by
  induction swept with
  | nil => exact ⟨.nil, by simp⟩
  | keep kept _ ih =>
    exact ⟨.cons (.refl _) ih.1, List.forall_mem_cons.mpr ⟨keeps_terminal _ kept, ih.2⟩⟩
  | replace replaced _ _ ih =>
    obtain ⟨own, replaces, terminal⟩ := replaces_terminal _ _ replaced
    exact ⟨.cons ⟨own, .inr replaces⟩ ih.1, List.forall_mem_cons.mpr ⟨terminal, ih.2⟩⟩

theorem recoverTurn_eq_none {readings : RecoveryReadings} {record : StoredTurnRecord (JsValue N)} :
    recoverTurn readings record = none ↔ record.turn.isTerminal = true := by
  unfold recoverTurn
  split <;> simp_all

theorem endOpenTurn_eq_none {request : EndSessionRequest (JsValue N)} {now : Timestamp}
    {durationForTurn : Turn (JsValue N) → Int → Timestamp → Option Int}
    {record : StoredTurnRecord (JsValue N)} :
    endOpenTurn request now durationForTurn record = none ↔ record.turn.isTerminal = true := by
  unfold endOpenTurn
  split <;> simp_all

theorem replaces_of_ended {a b : StoredTurnRecord J} (terminal : TerminalTurn J)
    (unfinished : a.turn.isTerminal = false) (own : terminal.val.id = a.turn.id)
    (sequence : terminal.val.sequence = a.turn.sequence) (alike : terminal.val.Alike b.turn) :
    b.turn.id = a.turn.id ∧ TurnReplaces a b ∧ b.turn.isTerminal = true := by
  have ended : b.turn.isTerminal = true := alike.isTerminal.trans terminal.property
  exact ⟨alike.id.trans own,
    ⟨alike.sequence.trans sequence, .ended unfinished ended⟩, ended⟩

variable {updater : StoredTurnRecord (JsValue N) → StoredTurnRecord (JsValue N)}

theorem recoverTurn_replaces {readings : RecoveryReadings} {a b : StoredTurnRecord (JsValue N)}
    {version : Nat} {key : String} (chosen : recoverTurn readings a = some updater)
    (normalized : normalizeStoredTurn json { updater a with version := some version } key = .ok b) :
    b.turn.id = a.turn.id ∧ TurnReplaces a b ∧ b.turn.isTerminal = true := by
  unfold recoverTurn at chosen
  split at chosen
  · cases chosen
  next unfinished =>
    cases chosen
    exact replaces_of_ended (terminalTurnFromRequest ..) (by simpa using unfinished)
      rfl rfl (normalizeStoredTurn_alike normalized).1

theorem endOpenTurn_replaces {request : EndSessionRequest (JsValue N)} {now : Timestamp}
    {durationForTurn : Turn (JsValue N) → Int → Timestamp → Option Int}
    {a b : StoredTurnRecord (JsValue N)} {version : Nat} {key : String}
    (chosen : endOpenTurn request now durationForTurn a = some updater)
    (normalized : normalizeStoredTurn json { updater a with version := some version } key = .ok b) :
    b.turn.id = a.turn.id ∧ TurnReplaces a b ∧ b.turn.isTerminal = true := by
  unfold endOpenTurn at chosen
  split at chosen
  · cases chosen
  next unfinished =>
    cases chosen
    exact replaces_of_ended (terminalTurnFromRequest ..) (by simpa using unfinished)
      rfl rfl (normalizeStoredTurn_alike normalized).1

theorem TurnEffect.of_replaced {turnId : String}
    {nextSession : StoredSessionRecord (JsValue N) → StoredSessionRecord (JsValue N)}
    {turns' : List (StoredTurnRecord (JsValue N))} {a b reported : StoredTurnRecord (JsValue N)}
    (replaced : TurnReplaced json sessionId turnId updater (view.turns sessionId) a b turns')
    (written : TurnWritten json sessionId fence nextSession turns' reported view view')
    (own : b.turn.id = a.turn.id) (replaces : TurnReplaces a b)
    (fields : ∀ current, turnFields (nextSession current) =
      (if b.turn.isTerminal = true ∧ current.session.state.currentTurnId = some a.turn.id then none
        else current.session.state.currentTurnId, current.session.state.turnSequence)) :
    TurnEffect (view.turns sessionId) (view.session sessionId) (view'.turns sessionId)
      (view'.session sessionId) := by
  obtain ⟨before, after, listed, -, rfl⟩ := replaced.split
  obtain ⟨current, stored, _, _, session, -, -, rfl⟩ := written.written
  rw [View.turns_write, View.session_write]
  exact .replaced session.found listed own replaces ((turnFields_replaced session).trans (fields current))

theorem Effect.turns (effect : Effect json sessionId fence snapshot view view' report) :
    TurnEffect (view.turns sessionId) (view.session sessionId) (view'.turns sessionId)
      (view'.session sessionId) := by
  cases effect with
  | unchanged same _ =>
    rw [same]
    exact .kept rfl
  | @sessionStarted options draws stored own started =>
    subst own
    obtain ⟨event, -, rfl⟩ := started.written
    have built := turnFields_alike (normalizeStoredSession_alike started.normalized).1
    simp only [View.turns_stage, View.turns_setSession, View.session_stage, View.session_setSession]
    cases found : view.session draws.sessionId with
    | none => exact .opened rfl built
    | some existing =>
      -- the record that is put is the one that is there
      refine .kept ?_
      rw [Option.map_some, Option.map_some, built,
        ← turnFields_alike (sameSessionRecord_alike (started.same existing found)).1]
      rfl
  | @turnStarted request draws current stored found active closed fresh normalized written =>
    obtain ⟨current', stored', _, _, session, -, -, rfl⟩ := written.written
    obtain rfl := Option.some.inj (found.symm.trans session.found)
    have alike := (normalizeStoredTurn_alike normalized).1
    have fields := turnFields_replaced session
    rw [View.turns_write, View.session_write]
    refine .started found closed ?_ alike.sequence alike.status ?_
    · rw [alike.id]
      exact fresh
    · rw [fields, alike.id, alike.sequence]
      rfl
  | @turnEnded turnId request now activityAt durationSince current stored turns' unfinished replaced
      written =>
    have alike := (normalizeStoredTurn_alike replaced.normalized).1
    obtain ⟨own, replaces, terminal⟩ := replaces_of_ended (terminalTurnFromRequest ..)
      unfinished rfl rfl alike
    refine .of_replaced replaced written own replaces fun session => ?_
    rw [if_congr (and_iff_right terminal) rfl rfl]
    rfl
  | turnChanged moves changed =>
    obtain ⟨current, stored, turns', unfinished, allowed, replaced, written⟩ := changed
    have alike := (normalizeStoredTurn_alike replaced.normalized).1
    obtain ⟨own, sequence, running, moved⟩ := moves _ allowed unfinished
    have change : StatusChange current.turn.status stored.turn.status := by
      rw [alike.status]
      rcases moved with interrupted | transition
      · rw [interrupted]
        exact .interrupted unfinished running
      · exact .allowed transition
    have unfinished' : stored.turn.isTerminal = false := by
      rw [alike.isTerminal, Turn.isTerminal]
      rcases moved with interrupted | transition
      · rw [interrupted]
        rfl
      · exact target_unfinished transition
    refine .of_replaced replaced written (alike.id.trans own) ⟨alike.sequence.trans sequence, change⟩
      fun session => ?_
    rw [unfinished', if_neg (by simp)]
    rfl
  | toolCallStarted own started =>
    subst own
    obtain ⟨_, _, _, -, -, -, rfl⟩ := started.written
    rw [View.turns_write, View.session_write]
    exact .of_pending (withPending_keeps _) started.session
  | toolCallWritten own pending written =>
    subst own
    obtain ⟨_, _, -, -, rfl⟩ := written.written
    rw [View.turns_write, View.session_write]
    rcases pending with ⟨-, rfl⟩ | ⟨-, rfl⟩
    · exact .of_pending (withoutPending_keeps _) written.session
    · exact .of_pending (withPending_keeps _) written.session
  | recovered _ recovery =>
    obtain ⟨results, swept⟩ := recovery.turns
    obtain ⟨rows, closed⟩ := swept.turnRows (fun _ => recoverTurn_eq_none.mp) (by
      rintro a b ⟨updater, chosen, normalized⟩
      exact recoverTurn_replaces chosen normalized)
    have fields := turnFields_replaced recovery.session
    rw [recovery.view_eq, View.turns_write, View.session_write]
    exact .closed recovery.session.found rows closed (congrArg Prod.fst fields)
      (.inr (congrArg Prod.snd fields))
  | ended _ _ ending =>
    obtain ⟨results, swept⟩ := ending.turns
    obtain ⟨rows, closed⟩ := swept.turnRows (fun _ => endOpenTurn_eq_none.mp) (by
      rintro a b ⟨updater, chosen, normalized⟩
      exact endOpenTurn_replaces chosen normalized)
    have fields := turnFields_replaced ending.session
    rw [ending.view_eq, View.turns_write, View.session_write]
    exact .closed ending.session.found rows closed (congrArg Prod.fst fields)
      (.inl (congrArg Prod.snd fields))

end Effects

variable {turns turns' : List (StoredTurnRecord J)}

theorem TurnEffect.advance {session session' : Option (StoredSessionRecord J)}
    (effect : TurnEffect turns session turns' session') :
    Advance turnId TurnReplaces turns turns' := by
  cases effect with
  | kept _ => exact .refl _
  | opened _ _ => exact .refl _
  | started _ _ fresh _ _ _ => exact .added (becomes_all _) fresh
  | replaced _ listed own replaces _ =>
    rw [listed]
    exact .kept (becomes_replace own replaces)
  | closed _ rows _ _ _ => exact .kept rows

/-! ### The table of turns -/

def openTurns (turns : List (StoredTurnRecord J)) : List (StoredTurnRecord J) :=
  turns.filter fun record => !record.turn.isTerminal

variable {turns : List (StoredTurnRecord J)}

theorem openTurns_of_closed (closed : ∀ record ∈ turns, record.turn.isTerminal = true) :
    openTurns turns = [] := by
  simpa [openTurns] using closed

structure TurnTable (turns : List (StoredTurnRecord J)) (session : Option (StoredSessionRecord J)) :
    Prop where
  numbered : turns.map (·.turn.sequence) = List.range' 1 turns.length
  distinct : (turns.map turnId).Nodup
  single : (openTurns turns).length ≤ 1
  unstarted : session = none → turns = []
  counted : ∀ record ∈ session, record.session.state.turnSequence = turns.length
  current : ∀ record ∈ session, ∀ id ∈ record.session.state.currentTurnId,
    ∃ turn ∈ openTurns turns, turn.turn.id = id

theorem sequences_of_rows (rows : List.Forall₂ TurnBecomes turns turns') :
    turns'.map (·.turn.sequence) = turns.map (·.turn.sequence) ∧ turns'.length = turns.length := by
  induction rows with
  | nil => exact ⟨rfl, rfl⟩
  | cons row _ ih =>
    refine ⟨?_, congrArg (· + 1) ih.2⟩
    rw [List.map_cons, List.map_cons, ih.1]
    rcases row.2 with rfl | replaces
    · rfl
    · rw [replaces.sequence]

theorem maxSequence_eq {former : Nat} (below : ∀ record ∈ turns, record.turn.sequence ≤ former) :
    turns.foldl (fun sequence record => max sequence record.turn.sequence) former = former := by
  induction turns with
  | nil => rfl
  | cons record rest ih =>
    obtain ⟨first, later⟩ := List.forall_mem_cons.mp below
    rw [List.foldl_cons, Nat.max_eq_left first, ih later]

theorem TurnTable.below {session : Option (StoredSessionRecord J)} (table : TurnTable turns session)
    :
    
    ∀ record ∈ turns, record.turn.sequence ≤ turns.length := by
  intro record listed
  have member : record.turn.sequence ∈ turns.map (·.turn.sequence) := List.mem_map_of_mem listed
  rw [table.numbered, List.mem_range'_1] at member
  omega

theorem eq_of_single {ρ : Type} {rows : List ρ} {a b : ρ} (single : rows.length ≤ 1)
    (first : a ∈ rows) (second : b ∈ rows) : a = b := by
  cases rows with
  | nil => cases first
  | cons row rest =>
    obtain rfl : rest = [] := List.length_eq_zero_iff.mp (by simpa using single)
    rw [List.mem_singleton.mp first, List.mem_singleton.mp second]

theorem turnFields_eq {record record' : StoredSessionRecord J}
    (same : turnFields record' = turnFields record) :
    record'.session.state.currentTurnId = record.session.state.currentTurnId ∧
      record'.session.state.turnSequence = record.session.state.turnSequence :=
  Prod.mk.inj same

theorem TurnTable.preserved {session session' : Option (StoredSessionRecord J)}
    (table : TurnTable turns session) (effect : TurnEffect turns session turns' session') :
    TurnTable turns' session' := by
  have distinct := effect.advance.nodup table.distinct
  cases effect with
  | kept same =>
    have former : ∀ record' ∈ session', ∃ record ∈ session, turnFields record' = turnFields record := by
      intro record' found
      cases session with
      | none => simp_all
      | some record => exact ⟨record, rfl, by simpa [Option.mem_def.mp found] using same⟩
    refine ⟨table.numbered, distinct, table.single, fun absent => ?_, fun record' found => ?_,
      fun record' found => ?_⟩
    · exact table.unstarted (by simpa [absent] using same.symm)
    · obtain ⟨record, found, fields⟩ := former record' found
      rw [(turnFields_eq fields).2]
      exact table.counted record found
    · obtain ⟨record, found, fields⟩ := former record' found
      rw [(turnFields_eq fields).1]
      exact table.current record found
  | @opened stored absent fields =>
    obtain rfl := table.unstarted absent
    obtain ⟨current, sequence⟩ := Prod.mk.inj fields
    refine ⟨rfl, distinct, table.single, nofun, fun record found => ?_, fun record found id own => ?_⟩
    · obtain rfl := Option.some.inj found
      exact sequence
    · obtain rfl := Option.some.inj found
      rw [current] at own
      cases own
  | @started current stored row found closed fresh sequence status fields =>
    obtain ⟨currentId, count⟩ := Prod.mk.inj fields
    have length := table.counted current found
    have unfinished : row.turn.isTerminal = false := by
      rw [Turn.isTerminal, status]
      rfl
    have opened : openTurns (turns ++ [row]) = [row] := by
      rw [openTurns, List.filter_append, show turns.filter _ = [] from openTurns_of_closed closed]
      simp [unfinished]
    refine ⟨?_, distinct, ?_, nofun, fun record found => ?_, fun record found id own => ?_⟩
    · rw [List.map_append, table.numbered, List.length_append, List.length_singleton,
        List.range'_1_concat]
      simp [sequence, length, Nat.add_comm]
    · rw [opened]
      exact le_rfl
    · obtain rfl := Option.some.inj found
      rw [count, sequence, length, List.length_append, List.length_singleton]
    · obtain rfl := Option.some.inj found
      rw [currentId] at own
      exact ⟨row, by simp [opened], Option.some.inj own⟩
  | @replaced before after a b current stored found listed own replaces fields =>
    subst listed
    obtain ⟨currentId, count⟩ := Prod.mk.inj fields
    have unfinished : a.turn.isTerminal = false := replaces.change.unfinished
    have listed : a ∈ openTurns (before ++ a :: after) := by simp [openTurns, unfinished]
    refine ⟨?_, distinct, ?_, nofun, fun record found' => ?_, fun record found' id own' => ?_⟩
    · simpa [replaces.sequence] using table.numbered
    · have single := table.single
      simp only [openTurns, List.filter_append, List.filter_cons, List.length_append, unfinished] at single ⊢
      split
      · simp_all
      · simp_all
        omega
    · obtain rfl := Option.some.inj found'
      rw [count, table.counted current found]
      simp
    · obtain rfl := Option.some.inj found'
      rw [currentId] at own'
      split at own'
      · cases own'
      next remains =>
        -- the turn that the session names is the one that has been replaced
        obtain ⟨turn, member, named⟩ := table.current current found id own'
        obtain rfl : turn = a := eq_of_single table.single member listed
        have unfinished' : b.turn.isTerminal = false := by
          by_contra terminal
          exact remains ⟨by simpa using terminal, by rw [own', named]⟩
        exact ⟨b, by simp [openTurns, unfinished'], own.trans named⟩
  | @closed _ current stored found rows closed currentId sequence =>
    obtain ⟨sequences, length⟩ := sequences_of_rows rows
    have count := table.counted current found
    refine ⟨?_, distinct, ?_, nofun, fun record found => ?_, fun record found id own => ?_⟩
    · rw [sequences, length, table.numbered]
    · rw [openTurns_of_closed closed]
      exact Nat.zero_le _
    · obtain rfl := Option.some.inj found
      rw [length]
      rcases sequence with same | largest
      · rw [same, count]
      · rw [largest, count, maxSequence_eq table.below]
    · obtain rfl := Option.some.inj found
      rw [currentId] at own
      cases own

/-! ### Runs -/

section Runs

variable {json : JsonCodec (JsValue N)} {sessionId : SessionId} {start store : Store (JsValue N)}
  {attempt : Attempt N} {attempts : List (Attempt N)}

/-- What every transaction of a session may rely on. -/
structure SessionSound (store : Store (JsValue N)) (sessionId : SessionId) : Prop where
  distinct : Distinct store.view sessionId
  turns : TurnTable (store.view.turns sessionId) (store.view.session sessionId)

theorem Effect.distinct {fence : Nat}
    {snapshot : Option (List (StoredToolCallRecord (JsValue N)))} {view view' : View (JsValue N)}
    {report : Option (PersistedSessionEnd (JsValue N))} (distinct : Distinct view sessionId)
    (effect : Effect json sessionId fence snapshot view view' report) :
    Distinct view' sessionId :=
  ⟨effect.turns.advance.nodup distinct.turns, (effect.toolCalls distinct).nodup distinct.toolCalls⟩

theorem distinct_step (json : JsonCodec (JsValue N)) (own : attempt.transaction.sessionId = sessionId)
    (distinct : Distinct store.view sessionId) :
    Distinct (step json store attempt).view sessionId := by
  rcases step_effect json own distinct with ⟨-, same⟩ | ⟨report, view, -, same, effect⟩
  · rwa [same]
  · rw [same]
    exact ⟨(effect.distinct distinct).turns, (effect.distinct distinct).toolCalls⟩

theorem distinct_run (json : JsonCodec (JsValue N))
    (own : ∀ attempt ∈ attempts, attempt.transaction.sessionId = sessionId)
    (distinct : Distinct start.view sessionId) :
    Distinct (run (step json) start attempts).view sessionId := by
  induction attempts generalizing start with
  | nil => exact distinct
  | cons attempt rest ih =>
    obtain ⟨first, later⟩ := List.forall_mem_cons.mp own
    exact ih later (distinct_step json first distinct)

theorem sound_step (json : JsonCodec (JsValue N))
    (own : attempt.transaction.sessionId = sessionId) (sound : SessionSound store sessionId) :
    SessionSound (step json store attempt) sessionId := by
  refine ⟨distinct_step json own sound.distinct, ?_⟩
  rcases step_effect json own sound.distinct with ⟨-, same⟩ | ⟨report, view, -, same, effect⟩
  · rw [same]
    exact sound.turns
  · rw [same]
    exact sound.turns.preserved effect.turns

theorem turns_step (json : JsonCodec (JsValue N)) (own : attempt.transaction.sessionId = sessionId)
    (distinct : Distinct store.view sessionId) :
    Advance turnId TurnReplaces (store.view.turns sessionId)
      ((step json store attempt).view.turns sessionId) := by
  rcases step_effect json own distinct with ⟨-, same⟩ | ⟨report, view, -, same, effect⟩
  · rw [same]
    exact .refl _
  · rw [same]
    exact effect.turns.advance

theorem sound_run (json : JsonCodec (JsValue N)) (own : ∀ attempt ∈ attempts, attempt.transaction.sessionId = sessionId)
    (sound : SessionSound start sessionId) :
    SessionSound (run (step json) start attempts) sessionId := by
  induction attempts generalizing start with
  | nil => exact sound
  | cons attempt rest ih =>
    obtain ⟨first, later⟩ := List.forall_mem_cons.mp own
    exact ih later (sound_step json first sound)

theorem turn_run (json : JsonCodec (JsValue N)) {record : StoredTurnRecord (JsValue N)}
    (own : ∀ attempt ∈ attempts, attempt.transaction.sessionId = sessionId)
    (distinct : Distinct start.view sessionId)
    (listed : record ∈ start.view.turns sessionId)
    (settled : record.turn.isTerminal = true ∨ record.turn.status = .active .interrupted) :
    ∃ later ∈ (run (step json) start attempts).view.turns sessionId,
      later.turn.id = record.turn.id ∧
        (later = record ∨ (record.turn.isTerminal = false ∧ later.turn.isTerminal = true)) := by
  induction attempts generalizing start record with
  | nil => exact ⟨record, listed, rfl, .inl rfl⟩
  | cons attempt rest ih =>
    obtain ⟨first, rest⟩ := List.forall_mem_cons.mp own
    have distinct' := distinct_step json first distinct
    obtain ⟨next, listed', own', same | replaced⟩ :=
      (turns_step json first distinct).forward record listed
    · subst same
      exact ih rest distinct' listed' settled
    · -- a turn that is replaced was interrupted, and its end is final
      have unfinished : record.turn.isTerminal = false := replaced.change.unfinished
      have interrupted : record.turn.status = .active .interrupted := by
        rcases settled with terminal | interrupted
        · rw [unfinished] at terminal
          cases terminal
        · exact interrupted
      have terminal : next.turn.isTerminal = true :=
        StatusChange.of_interrupted (interrupted ▸ replaced.change)
      obtain ⟨later, listed', same, kept | ⟨open_, -⟩⟩ := ih rest distinct' listed' (.inl terminal)
      · exact ⟨later, listed', same.trans own', .inr ⟨unfinished, kept ▸ terminal⟩⟩
      · rw [terminal] at open_
        cases open_

structure Unstarted (store : Store (JsValue N)) (sessionId : SessionId) : Prop where
  session : store.view.session sessionId = none
  turns : store.view.turns sessionId = []
  toolCalls : store.view.toolCalls sessionId = []

theorem Unstarted.sound (unstarted : Unstarted start sessionId) : SessionSound start sessionId where
  distinct := ⟨by rw [unstarted.turns]; exact .nil, by rw [unstarted.toolCalls]; exact .nil⟩
  turns := by
    rw [unstarted.session, unstarted.turns]
    exact ⟨rfl, .nil, Nat.zero_le _, fun _ => rfl, by simp, by simp⟩

/-- In every run of the transactions on a session, from before its start: what the table of turns and
the session say of each other, how one transaction changes a turn, and what a run makes of a turn
that is interrupted or over. -/
theorem turn_lifecycle (json : JsonCodec (JsValue N)) (attempts : List (Attempt N))
    (own : ∀ attempt ∈ attempts, attempt.transaction.sessionId = sessionId)
    (unstarted : Unstarted start sessionId) :
    TurnTable ((run (step json) start attempts).view.turns sessionId)
        ((run (step json) start attempts).view.session sessionId) ∧
      (∀ before attempt after, attempts = before ++ attempt :: after →
        Advance turnId TurnReplaces ((run (step json) start before).view.turns sessionId)
          ((run (step json) start (before ++ [attempt])).view.turns sessionId)) ∧
      ∀ before after, attempts = before ++ after →
        ∀ record ∈ (run (step json) start before).view.turns sessionId,
          (record.turn.isTerminal = true →
            record ∈ (run (step json) start attempts).view.turns sessionId) ∧
          (record.turn.status = .active .interrupted →
            ∃ later ∈ (run (step json) start attempts).view.turns sessionId,
              later.turn.id = record.turn.id ∧
                (later = record ∨ later.turn.isTerminal = true)) := by
  have sound := unstarted.sound
  refine ⟨(sound_run json own sound).turns, ?_, ?_⟩
  · rintro before attempt after rfl
    have earlier : SessionSound (run (step json) start before) sessionId := sound_run json
      (fun attempt listed => own attempt (List.mem_append_left _ listed)) sound
    rw [run_snoc]
    exact turns_step json (own attempt (by simp)) earlier.distinct
  · rintro before after rfl record listed
    have earlier : SessionSound (run (step json) start before) sessionId := sound_run json
      (fun attempt listed => own attempt (List.mem_append_left _ listed)) sound
    have rest : ∀ attempt ∈ after, attempt.transaction.sessionId = sessionId :=
      fun attempt listed => own attempt (List.mem_append_right _ listed)
    rw [run_append]
    refine ⟨fun terminal => ?_, fun interrupted => ?_⟩
    · obtain ⟨later, listed', -, rfl | ⟨unfinished, -⟩⟩ :=
        turn_run json rest earlier.distinct listed (.inl terminal)
      · exact listed'
      · rw [terminal] at unfinished
        cases unfinished
    · obtain ⟨later, listed', same, becomes⟩ :=
        turn_run json rest earlier.distinct listed (.inr interrupted)
      exact ⟨later, listed', same, becomes.imp_right And.right⟩

end Runs

/-- A turn that is answered, interrupted and ended; the store refuses a first attempt to end it. -/
def interruptedAnswer : List (Attempt Nat) :=
  [⟨.startSession ⟨"agent", .phone, none, none, none⟩ ⟨"call", 0, 0⟩, none, false⟩,
    ⟨.startTurn ⟨"call", none, none⟩ ⟨"turn", 1, 1, 1⟩, none, false⟩,
    ⟨.updateTurnStatus "call" "turn" (.active .thinking) 2, none, false⟩,
    ⟨.endTurn "call" "turn" ⟨.completed, none, none, none⟩ 3 id 3, none, true⟩,
    ⟨.checkpointTurnInterruption "call" "turn" .bargeIn 4, none, false⟩,
    ⟨.endTurn "call" "turn" ⟨.cancelled .bargeIn, none, none, none⟩ 5 id 5, none, false⟩]

theorem turn_lifecycle_interruptedAnswer :
    (((run (step .verbatim) .new interruptedAnswer).view.turns "call").map (·.turn.status) =
      [.cancelled]) ∧
    TurnTable ((run (step .verbatim) .new interruptedAnswer).view.turns "call")
      ((run (step .verbatim) .new interruptedAnswer).view.session "call") :=
  ⟨by decide +kernel,
    (turn_lifecycle .verbatim interruptedAnswer (by decide) ⟨rfl, rfl, rfl⟩).1⟩

end Tvic.Runtime
