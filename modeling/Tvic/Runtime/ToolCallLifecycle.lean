import Tvic.Lib.Table
import Tvic.Runtime.SessionRuns

/-!
# The lifecycle of tool calls

What the transactions on a session do to its tool calls: the status of a call only moves forward, a
terminal call is final, and its identity stays.
-/
namespace Tvic.Runtime

open Lib

variable {N : Type} {J : Type}

/-! ### What a transaction does to the tool calls -/

def ToolCall.Status.rank : ToolCall.Status → Nat
  | .queued => 0
  | .running => 1
  | _ => 2

theorem rank_of_terminal {status : ToolCall.Status} (terminal : status.isTerminal = true) :
    ToolCall.Status.rank status = 2 := by
  cases status <;> first | rfl | cases terminal

theorem rank_le (status : ToolCall.Status) : ToolCall.Status.rank status ≤ 2 := by
  cases status <;> simp [ToolCall.Status.rank]

/-- An input is given again: the same value, or one with the same text in one of the two ways in
which inputs are compared. -/
def SameInput (json : JsonCodec J) (input given : J) : Prop :=
  given = input ∨ sameInput json input given = true ∨
    ∃ text, json.text input = .ok text ∧ json.text given = .ok text

/-- What an update of a call keeps; the store reads the input from its text again. -/
structure IdentityKept (json : JsonCodec J) (a b : ToolCall J) : Prop where
  sessionId : b.sessionId = a.sessionId
  turnId : b.turnId = a.turnId
  toolId : b.toolId = a.toolId
  toolName : b.toolName = a.toolName
  queuedAt : b.queuedAt = a.queuedAt
  input : ∃ given, SameInput json a.input given ∧ json.reread given = .ok b.input

/-- How a call is replaced, where what is `known` of the transaction's snapshot holds. -/
structure ToolCallReplaces (json : JsonCodec J) (known : Prop) (a b : StoredToolCallRecord J) :
    Prop where
  unfinished : a.toolCall.isTerminal = false
  forward : ToolCall.Status.rank a.toolCall.status ≤ ToolCall.Status.rank b.toolCall.status
  identity : known → IdentityKept json a.toolCall b.toolCall

abbrev toolCallId (record : StoredToolCallRecord J) : String := record.toolCall.toolCallId

abbrev ToolCallBecomes (json : JsonCodec J) (known : Prop) (a b : StoredToolCallRecord J) : Prop :=
  Becomes toolCallId (ToolCallReplaces json known) a b

section Stored

variable {json : JsonCodec J} {known : Prop} {a b : StoredToolCallRecord J}
  {key : String}

theorem normalizeStoredToolCall_input {record stored : StoredToolCallRecord J}
    (normalized : normalizeStoredToolCall json record key = .ok stored) :
    json.reread record.toolCall.input = .ok stored.toolCall.input := by
  obtain ⟨payload, traversed, normalized⟩ := bind_eq_ok.mp normalized
  obtain ⟨toolCall, passed, normalized⟩ := bind_eq_ok.mp normalized
  cases normalized
  obtain rfl := validated_eq_ok passed
  obtain ⟨input, read, traversed⟩ := bind_eq_ok.mp traversed
  obtain ⟨metadata, -, traversed⟩ := bind_eq_ok.mp traversed
  obtain ⟨phase, -, traversed⟩ := bind_eq_ok.mp traversed
  cases traversed
  exact read

theorem sameToolCallRecord_input {a b : StoredToolCallRecord J}
    (same : sameToolCallRecord json a b = true) :
    ∃ text, json.text a.toolCall.input = .ok text ∧ json.text b.toolCall.input = .ok text := by
  obtain ⟨texts, -⟩ := Bool.and_eq_true_iff.mp same
  obtain ⟨text, first, second⟩ := sameText_eq_true texts
  obtain ⟨input, firstText, first⟩ := bind_eq_ok.mp first
  obtain ⟨metadata, -, first⟩ := bind_eq_ok.mp first
  obtain ⟨phase, -, first⟩ := bind_eq_ok.mp first
  obtain ⟨input', secondText, second⟩ := bind_eq_ok.mp second
  obtain ⟨metadata', -, second⟩ := bind_eq_ok.mp second
  obtain ⟨phase', -, second⟩ := bind_eq_ok.mp second
  cases first
  have inputs : input' = input := by
    injection second with calls
    exact congrArg ToolCall.input calls
  exact ⟨_, firstText, inputs ▸ secondText⟩

/-- A call with the identity of another. -/
structure SameCall (json : JsonCodec J) (a next : ToolCall J) : Prop where
  sessionId : next.sessionId = a.sessionId
  turnId : next.turnId = a.turnId
  toolId : next.toolId = a.toolId
  toolName : next.toolName = a.toolName
  queuedAt : next.queuedAt = a.queuedAt
  input : SameInput json a.input next.input

theorem SameCall.refl (toolCall : ToolCall J) : SameCall json toolCall toolCall :=
  ⟨rfl, rfl, rfl, rfl, rfl, .inl rfl⟩

theorem ToolCallReplaces.of_stored (a : StoredToolCallRecord J) {written : StoredToolCallRecord J}
    (normalized : normalizeStoredToolCall json written key = .ok b)
    (own : written.toolCall.toolCallId = a.toolCall.toolCallId)
    (unfinished : a.toolCall.isTerminal = false)
    (forward : ToolCall.Status.rank a.toolCall.status ≤ ToolCall.Status.rank written.toolCall.status)
    (identity : known → SameCall json a.toolCall written.toolCall) :
    b.toolCall.toolCallId = a.toolCall.toolCallId ∧ ToolCallReplaces json known a b := by
  have alike := (normalizeStoredToolCall_alike normalized).1
  refine ⟨alike.toolCallId.trans own, unfinished, ?_, fun holds => ?_⟩
  · rw [alike.status]
    exact forward
  · obtain ⟨sessionId, turnId, toolId, toolName, queuedAt, input⟩ := identity holds
    exact ⟨alike.sessionId.trans sessionId, alike.turnId.trans turnId, alike.toolId.trans toolId,
      alike.toolName.trans toolName, alike.queuedAt.trans queuedAt, _, input,
      normalizeStoredToolCall_input normalized⟩

theorem rank_le_of_terminal {next : ToolCall J} {status : ToolCall.Status} (terminal : next.isTerminal = true) :
    ToolCall.Status.rank status ≤ ToolCall.Status.rank next.status := by
  rw [rank_of_terminal terminal]
  exact rank_le status

theorem assertToolCallIdentity_eq_ok {current incoming : ToolCall J}
    (passed : assertToolCallIdentity json current incoming = .ok ()) :
    incoming.toolCallId = current.toolCallId ∧ SameCall json current incoming := by
  unfold assertToolCallIdentity at passed
  split at passed
  · cases passed
  next identity =>
    simp only [not_or, not_not, Bool.not_eq_false] at identity
    obtain ⟨id, session, turn, tool, name, queued, -, input⟩ := identity
    exact ⟨id.symm, session.symm, turn.symm, tool.symm, name.symm, queued.symm, .inr (.inl input)⟩

theorem ToolCallSet.advance {incoming next : ToolCall J} {clockMs : Int}
    {toolCalls toolCalls' : List (StoredToolCallRecord J)} {reported stored : StoredToolCallRecord J}
    (table : ToolCallSet json incoming clockMs toolCalls next reported stored toolCalls') :
    Advance toolCallId (ToolCallReplaces json known) toolCalls toolCalls' := by
  cases table with
  | inserted fresh normalized =>
    have own := (normalizeStoredToolCall_alike normalized).1.toolCallId
    refine .added (becomes_all toolCalls) fun existing listed => ?_
    rw [toolCallId, toolCallId, own]
    exact fresh existing listed
  | @replaced _ current _ _ identity unfinished chosen kept replaced =>
    obtain ⟨before, after, rfl, -, rfl⟩ := replaced.split
    obtain ⟨id, same⟩ := assertToolCallIdentity_eq_ok identity
    have forward : ToolCall.Status.rank current.toolCall.status ≤
        ToolCall.Status.rank next.status := by
      cases running : current.toolCall.status with
      | queued => exact Nat.zero_le _
      | running =>
        have later := kept running
        revert later
        cases next.status <;> simp [ToolCall.Status.rank]
      | succeeded => rw [ToolCall.isTerminal, running] at unfinished; cases unfinished
      | failed status => rw [ToolCall.isTerminal, running] at unfinished; cases unfinished
    have identity : next.toolCallId = current.toolCall.toolCallId ∧
        SameCall json current.toolCall next := by
      rcases chosen with rfl | ⟨rfl, -, -⟩
      · exact ⟨id, same⟩
      · exact ⟨rfl, .refl _⟩
    obtain ⟨own, replaces⟩ := ToolCallReplaces.of_stored current replaced.normalized identity.1
      unfinished forward fun _ => identity.2
    exact .kept (becomes_replace own replaces)

theorem ToolCallStarted.advance {toolCall : QueuedToolCall J} {clockMs : Int}
    {startedAt activityAt : Timestamp} {fence : Nat} {view view' : View J}
    {queued running : StoredToolCallRecord J} {listed toolCalls' : List (StoredToolCallRecord J)}
    {current stored : StoredSessionRecord J}
    (started : ToolCallStarted json toolCall.val clockMs startedAt activityAt fence view view' queued
      running listed toolCalls' current stored) :
    Advance toolCallId (ToolCallReplaces json known) (view.toolCalls toolCall.val.sessionId)
      toolCalls' := by
  obtain ⟨before, after, listed_eq, others, rfl⟩ := started.replaced.split
  have put := started.put
  have alike := put.alike
  cases put with
  | present found same =>
    obtain ⟨text, stored, given⟩ := sameToolCallRecord_input same
    obtain ⟨own, replaces⟩ := ToolCallReplaces.of_stored queued
      started.replaced.normalized alike.toolCallId.symm
      (by rw [alike.isTerminal, ToolCall.isTerminal, ToolCall.status, toolCall.property]; rfl)
      (by rw [alike.status, ToolCall.status, toolCall.property]; exact Nat.zero_le _)
      fun _ => ⟨alike.sessionId.symm, alike.turnId.symm, alike.toolId.symm, alike.toolName.symm,
        alike.queuedAt.symm, .inr (.inr ⟨text, stored, given⟩)⟩
    rw [listed_eq]
    exact .kept (becomes_replace own replaces)
  | inserted fresh normalized =>
    -- the record that was put is the last one
    obtain ⟨rfl, -, rfl⟩ := last_split listed_eq fresh started.replaced.own
    refine .added (becomes_all _) fun existing listed => ?_
    have own := (normalizeStoredToolCall_alike started.replaced.normalized).1.toolCallId
    rw [toolCallId, toolCallId, own]
    exact fresh existing listed

theorem Swept.toolCallRows {η : Type} {keeps : StoredToolCallRecord J → Prop}
    {replaces : StoredToolCallRecord J → StoredToolCallRecord J → Prop}
    {records : StoredToolCallRecord J → η → Prop}
    {toolCalls toolCalls' : List (StoredToolCallRecord J)}
    {results : List (Option (StoredToolCallRecord J))} {events : List η}
    (swept : Swept keeps replaces records toolCalls results toolCalls' events)
    (allowed : ∀ a ∈ toolCalls, ∀ b, replaces a b →
      b.toolCall.toolCallId = a.toolCall.toolCallId ∧ ToolCallReplaces json known a b) :
    List.Forall₂ (ToolCallBecomes json known) toolCalls toolCalls' := by
  induction swept with
  | nil => exact .nil
  | keep kept _ ih =>
    exact .cons (.refl _) (ih (List.forall_mem_cons.mp allowed).2)
  | replace replaced _ _ ih =>
    obtain ⟨first, later⟩ := List.forall_mem_cons.mp allowed
    obtain ⟨own, replaces⟩ := first _ replaced
    exact .cons ⟨own, .inr replaces⟩ (ih later)

end Stored

section Effects

variable {json : JsonCodec (JsValue N)} {known : Prop} {sessionId : SessionId} {fence : Nat}
  {snapshot : Option (List (StoredToolCallRecord (JsValue N)))} {view view' : View (JsValue N)}
  {report : Option (PersistedSessionEnd (JsValue N))}
  {a b : StoredToolCallRecord (JsValue N)} {version : Nat} {key : String}

theorem cancelOpenToolCall_same (toolCall : ToolCall J) (endedAt : Timestamp) (json : JsonCodec J) :
    SameCall json toolCall (cancelOpenToolCall toolCall endedAt) := by
  unfold cancelOpenToolCall
  split <;> exact ⟨rfl, rfl, rfl, rfl, rfl, .inl rfl⟩

theorem cancelOpenToolCall_terminal (toolCall : ToolCall J) (endedAt : Timestamp) :
    (cancelOpenToolCall toolCall endedAt).isTerminal = true := by
  unfold cancelOpenToolCall
  split
  · rfl
  · rfl
  next notQueued notRunning =>
    unfold ToolCall.isTerminal ToolCall.status
    cases phase : toolCall.phase with
    | queued => exact absurd phase notQueued
    | running startedAt => exact absurd phase (notRunning startedAt)
    | _ => rfl

theorem endOpenToolCall_eq_none {now : Timestamp} {record : StoredToolCallRecord J} :
    endOpenToolCall now record = none ↔ record.toolCall.isTerminal = true := by
  unfold endOpenToolCall
  split <;> simp_all

theorem endOpenToolCall_replaces (known : Prop) {now : Timestamp}
    {updater : StoredToolCallRecord (JsValue N) → StoredToolCallRecord (JsValue N)}
    (chosen : endOpenToolCall now a = some updater)
    (normalized : normalizeStoredToolCall json { updater a with version := some version } key =
      .ok b) :
    b.toolCall.isTerminal = true ∧ b.toolCall.toolCallId = a.toolCall.toolCallId ∧
      ToolCallReplaces json known a b := by
  unfold endOpenToolCall at chosen
  split at chosen
  · cases chosen
  next unfinished =>
    cases chosen
    have terminal := cancelOpenToolCall_terminal a.toolCall now
    exact ⟨(normalizeStoredToolCall_alike normalized).1.isTerminal.trans terminal,
      ToolCallReplaces.of_stored a normalized (cancelOpenToolCall_toolCallId ..) (by simpa using unfinished)
        (rank_le_of_terminal terminal) fun _ => cancelOpenToolCall_same ..⟩

theorem recoverToolCall_replaces {lookup : String → ToolRecoveryLookup (JsValue N)}
    {records : List (StoredToolCallRecord (JsValue N))} {readings : RecoveryReadings}
    {updater : StoredToolCallRecord (JsValue N) → StoredToolCallRecord (JsValue N)}
    (chosen : recoverToolCall json (prepareToolRecovery lookup records) readings a = some updater)
    (normalized : normalizeStoredToolCall json { updater a with version := some version } key =
      .ok b)
    (taken : known → ∀ record ∈ records,
      record.toolCall.toolCallId = a.toolCall.toolCallId → record = a) :
    b.toolCall.isTerminal = true ∧ b.toolCall.toolCallId = a.toolCall.toolCallId ∧
      ToolCallReplaces json known a b := by
  obtain ⟨running, terminal, own, identity⟩ := recoverToolCall_spec chosen
  have unfinished : a.toolCall.isTerminal = false := by
    rw [ToolCall.isTerminal, running]
    rfl
  refine ⟨(normalizeStoredToolCall_alike normalized).1.isTerminal.trans terminal,
    ToolCallReplaces.of_stored a normalized own unfinished (rank_le_of_terminal terminal) fun holds => ?_⟩
  -- the call that was prepared is the one that the transaction finds
  have same : SameIdentity a.toolCall (updater a).toolCall := by
    rcases identity with same | ⟨record, listed, sameId, -, same⟩
    · exact same
    · rwa [taken holds record listed sameId] at same
  exact ⟨same.sessionId, same.turnId, same.toolId, same.toolName, same.queuedAt, .inl same.input⟩

/-- The snapshot of a recovery is the table that its transaction finds. -/
def SnapshotCurrent (snapshot : Option (List (StoredToolCallRecord (JsValue N))))
    (toolCalls : List (StoredToolCallRecord (JsValue N))) : Prop :=
  ∀ records ∈ snapshot, records = toolCalls

theorem Effect.toolCalls (distinct : Distinct view sessionId)
    (effect : Effect json sessionId fence snapshot view view' report) :
    Advance toolCallId
      (ToolCallReplaces json (SnapshotCurrent snapshot (view.toolCalls sessionId)))
      (view.toolCalls sessionId) (view'.toolCalls sessionId) := by
  cases effect with
  | unchanged same _ =>
    rw [same]
    exact .refl _
  | sessionStarted own started =>
    obtain ⟨event, -, rfl⟩ := started.written
    rw [View.toolCalls_stage, View.toolCalls_setSession]
    exact .refl _
  | turnStarted _ _ _ _ _ written =>
    obtain ⟨_, _, _, _, -, -, -, rfl⟩ := written.written
    rw [View.toolCalls_write]
    exact .refl _
  | turnEnded _ _ written =>
    obtain ⟨_, _, _, _, -, -, -, rfl⟩ := written.written
    rw [View.toolCalls_write]
    exact .refl _
  | turnChanged _ changed =>
    obtain ⟨_, _, _, -, -, -, written⟩ := changed
    obtain ⟨_, _, _, _, -, -, -, rfl⟩ := written.written
    rw [View.toolCalls_write]
    exact .refl _
  | toolCallStarted own started =>
    subst own
    obtain ⟨_, _, _, -, -, -, rfl⟩ := started.written
    rw [View.toolCalls_write]
    exact started.advance
  | toolCallWritten own _ written =>
    subst own
    obtain ⟨_, _, -, -, rfl⟩ := written.written
    rw [View.toolCalls_write]
    exact written.table.advance
  | @recovered lookup records readings _ _ _ _ _ _ _ _ taken recovery =>
    have rows := recovery.toolCalls
    rw [recovery.view_eq, View.toolCalls_write]
    split at rows
    · rw [rows.1]
      exact .refl _
    · obtain ⟨results, swept⟩ := rows
      refine .kept (swept.toolCallRows fun a listed b ⟨updater, chosen, normalized⟩ =>
        (recoverToolCall_replaces chosen normalized fun current record prepared sameId => ?_).2)
      rw [current records taken] at prepared
      exact eq_of_key distinct.toolCalls prepared listed sameId
  | ended _ _ ending =>
    obtain ⟨results, swept⟩ := ending.toolCalls
    rw [ending.view_eq, View.toolCalls_write]
    exact .kept (swept.toolCallRows fun a _ b ⟨updater, chosen, normalized⟩ =>
      (endOpenToolCall_replaces _ chosen normalized).2)

end Effects

end Tvic.Runtime
