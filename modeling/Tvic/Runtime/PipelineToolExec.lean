import Mathlib.Data.List.Nodup
import Mathlib.Data.List.Range

/-!
# A round of tool calls

`executePipelineToolCalls` of `packages/runtime/src/pipeline-tool-exec.ts`, and of `executeTool` of
`packages/tools/src/index.ts` what it checks before an executor may run. What the tools, the durable writes and
the abort signal do is given for each call of the round; a write that is rejected rejects the round.
-/
namespace Tvic.PipelineToolExec

/-- A value from a provider, after `serializableToolValue`: `REDACTED_TOOL_INPUT`, or a snapshot. -/
inductive ToolInput (V : Type) where
  | redacted
  | value (value : V)
  deriving DecidableEq

structure LlmInlineToolCall (V : Type) where
  callRef : String
  toolName : String
  input : ToolInput V

structure ToolDefinition (Schema : Type) where
  id : String
  name : String
  inputSchema : Schema

inductive ToolCallStatus where
  | succeeded
  | failed
  | cancelled
  | timedOut
  deriving DecidableEq, Repr

/-- The code and the message of an error. -/
structure ToolErrorText where
  code : String
  message : String
  deriving DecidableEq, Repr

/-- A terminal tool call, as far as the round reads it. -/
structure TerminalToolCall (V : Type) where
  status : ToolCallStatus
  output : Option V := none
  error : Option ToolErrorText := none
  /-- `metadata.recoveryPolicy === "do_not_replay"`. -/
  doNotReplay : Bool := false

/-- What a tool message and a `tool_result` event carry. -/
inductive ToolOutput (V : Type) where
  | output (output : Option V)
  | ended (status : ToolCallStatus) (error : ToolErrorText) (doNotReplay : Bool)

structure ToolMessage where
  content : String
  toolName : String
  toolCallRef : String
  deriving DecidableEq

/-- How the rest of `executeTool` ends, once its input is accepted. -/
inductive ToolExecution (V : Type) where
  | returned (result : TerminalToolCall V)
  | unfinished
  | threw (leaseLost : Bool)

/-- What happens while a call of the round is handled. -/
structure ToolCallRun (V : Type) where
  /-- The signal aborts before the call is looked at, or while it is handled. -/
  abortsBefore : Bool := false
  abortsDuring : Bool := false
  /-- What `recordToolCall` returns; `none` where it rejects. -/
  recorded : TerminalToolCall V → Option (TerminalToolCall V) := some
  /-- `startToolCall` does not reject. -/
  starts : Bool := true
  /-- The definition of the tool can be snapshotted. -/
  snapshots : Bool := true
  /-- How often the executor is invoked. -/
  invocations : Nat := 1
  execution : ToolExecution V
  /-- What `finishToolCall` returns; `none` where it rejects. -/
  finished : TerminalToolCall V → Option (TerminalToolCall V) := some

inductive ToolRoundAction (V : Type) where
  | recordToolCall (toolCallId : String)
  | startToolCall (toolCallId : String)
  | finishToolCall (toolCallId : String)
  | execute (toolCallId : String) (input : V)
  | toolCall (toolCallId toolName : String) (input : ToolInput V)
  | toolResult (toolCallId : String) (output : ToolOutput V) (status : ToolCallStatus)
  | error (error : ToolErrorText)

structure ToolRound (V : Type) where
  messages : List ToolMessage := []
  toolCallIds : List String := []
  assistantToolCalls : List (LlmInlineToolCall V) := []
  log : List (ToolRoundAction V) := []
  /-- The ids that the generator has given before. -/
  idsGiven : Nat
  aborted : Bool := false

/-- What the round uses: the tools, the ids, and what the packages make of a value. -/
structure ToolRoundDeps (V Schema : Type) where
  findTool : LlmInlineToolCall V → Option (ToolDefinition Schema)
  memoryTool : Option (ToolDefinition Schema)
  toolCallId : Nat → String
  snapshotJsonValue : V → Option V
  truncateToolInput : ToolInput V → ToolInput V
  truncateToolOutput : ToolOutput V → ToolOutput V
  safeJsonStringify : ToolOutput V → String
  toolInputSchemaError : V → Schema → Option ToolErrorText
  serializabilityError : V → Option ToolErrorText

namespace ToolRoundDeps

variable {V Schema : Type} (deps : ToolRoundDeps V Schema)

def serializableToolValue : ToolInput V → ToolInput V
  | .redacted => .redacted
  | .value value =>
    match deps.snapshotJsonValue value with
    | some snapshot => .value snapshot
    | none => .redacted

def toolInputError (value : V) (schema : Schema) : Option ToolErrorText :=
  match deps.serializabilityError value with
  | some error => some error
  | none => deps.toolInputSchemaError value schema

def toolOf (call : LlmInlineToolCall V) : Option (ToolDefinition Schema) :=
  if call.toolName = "remember_fact" then deps.memoryTool else deps.findTool call

def notSerializable : ToolErrorText where
  code := "tool.input_not_serializable"
  message := "Tool input cannot be persisted: provider input was not serializable"

/-- The error of an input that is recorded and not executed. -/
def inputError (tool : ToolDefinition Schema) : ToolInput V → Option ToolErrorText
  | .redacted => some notSerializable
  | .value value => deps.toolInputError value tool.inputSchema

/-- What the assistant message says of a call. -/
def assistantToolCall (call : LlmInlineToolCall V) : LlmInlineToolCall V :=
  { call with
    input := deps.truncateToolInput (deps.serializableToolValue (deps.serializableToolValue call.input)) }

def invalidDefinition : ToolErrorText where
  code := "tool.invalid_definition"
  message := "Tool definition cannot be snapshotted"

/-- `executeTool`: how it ends, and the inputs that its executor is invoked with. -/
def executeTool (tool : ToolDefinition Schema) (input : V) (run : ToolCallRun V) :
    ToolExecution V × List V :=
  if ¬ run.snapshots then (.returned { status := .failed, error := some invalidDefinition }, [])
  else
    match deps.snapshotJsonValue input with
    | none => (.returned { status := .failed, error := some notSerializable }, [])
    | some executionInput =>
      match deps.toolInputSchemaError executionInput tool.inputSchema with
      | some error => (.returned { status := .failed, error := some error }, [])
      | none => (run.execution, List.replicate run.invocations executionInput)

/-- The terminal call that is finished, whatever `executeTool` comes to. -/
def terminalCall : ToolExecution V → TerminalToolCall V
  | .returned result => result
  | .unfinished | .threw false =>
    { status := .failed, error := some { code := "tool.execution_failed", message := "Tool execution failed" } }
  | .threw true =>
    { status := .failed
      error := some { code := "tool.lease_lost", message := "Tool execution lost its session lease" } }

def notFound (call : LlmInlineToolCall V) : ToolErrorText where
  code := "tool.not_found"
  message := "No tool registered named " ++ call.toolName

def toolOutput (result : TerminalToolCall V) : ToolOutput V :=
  if result.status = .succeeded then .output result.output
  else
    .ended result.status (result.error.getD { code := "tool.failed", message := "Tool failed" })
      result.doNotReplay

/-- What follows for a call whose tool is not registered; `none` where the write is rejected. -/
def unknownToolCall (call : LlmInlineToolCall V) (run : ToolCallRun V) (s : ToolRound V) :
    Option (ToolRound V) :=
  match run.recorded { status := .failed, error := some (notFound call) } with
  | none => none
  | some _ =>
    let toolCallId := deps.toolCallId s.idsGiven
    let output : ToolOutput V := .ended .failed (notFound call) false
    some { s with
      idsGiven := s.idsGiven + 1
      toolCallIds := s.toolCallIds ++ [toolCallId]
      messages := s.messages ++
        [{ content := deps.safeJsonStringify output, toolName := call.toolName, toolCallRef := call.callRef }]
      log := s.log ++
        [.recordToolCall toolCallId,
          .toolCall toolCallId call.toolName (deps.serializableToolValue call.input),
          .toolResult toolCallId output .failed,
          .error (notFound call)] }

/-- The durable part for a call of a tool: what it comes to, and what is logged. -/
def settleToolCall (tool : ToolDefinition Schema) (toolCallId : String) (input : ToolInput V)
    (run : ToolCallRun V) : Option (TerminalToolCall V × List (ToolRoundAction V)) :=
  let recordError (error : ToolErrorText) :=
    (run.recorded { status := .failed, error := some error }).map fun result =>
      (result, [.recordToolCall toolCallId])
  match input with
  | .redacted => recordError notSerializable
  | .value value =>
    match deps.toolInputError value tool.inputSchema with
    | some error => recordError error
    | none =>
      if ¬ run.starts then none
      else
        let executed := deps.executeTool tool value run
        (run.finished (terminalCall executed.1)).map fun result =>
          (result, .startToolCall toolCallId :: executed.2.map (.execute toolCallId ·) ++
            [.finishToolCall toolCallId])

/-- A call of the round: `none` where a write is rejected, and whether the round goes on. -/
def handleCall (call : LlmInlineToolCall V) (run : ToolCallRun V) (s : ToolRound V) :
    Option (Bool × ToolRound V) :=
  let persistedInput := deps.serializableToolValue call.input
  let s := { s with assistantToolCalls := s.assistantToolCalls ++ [deps.assistantToolCall call] }
  match deps.toolOf call with
  | none => (deps.unknownToolCall call run { s with aborted := s.aborted || run.abortsDuring }).map (true, ·)
  | some tool =>
    let toolCallId := deps.toolCallId s.idsGiven
    let safeInput := if (deps.inputError tool persistedInput).isSome then .redacted else persistedInput
    match deps.settleToolCall tool toolCallId persistedInput run with
    | none => none
    | some (result, actions) =>
      let output := toolOutput result
      let bounded := deps.truncateToolOutput output
      let s := { s with
        idsGiven := s.idsGiven + 1
        aborted := s.aborted || run.abortsDuring
        toolCallIds := s.toolCallIds ++ [toolCallId]
        log := s.log ++ .toolCall toolCallId call.toolName (deps.serializableToolValue safeInput) ::
          actions ++ [.toolResult toolCallId bounded result.status] }
      let content := deps.safeJsonStringify (if result.status = .succeeded then bounded else output)
      let answered := { s with
        messages := s.messages ++ [{ content, toolName := tool.name, toolCallRef := call.callRef }] }
      if result.status = .cancelled ∧ s.aborted then some (false, s) else some (true, answered)

/-- The loop over the calls, with what happens at each. -/
def executeCalls (runs : Nat → ToolCallRun V) :
    List (LlmInlineToolCall V) → Nat → ToolRound V → Option (ToolRound V)
  | [], _, s => some s
  | call :: rest, index, s =>
    let s := { s with aborted := s.aborted || (runs index).abortsBefore }
    if s.aborted then some s
    else
      match deps.handleCall call (runs index) s with
      | none => none
      | some (false, s) => some s
      | some (true, s) => executeCalls runs rest (index + 1) s

/-- The round, or `none` where it is rejected. -/
def executePipelineToolCalls (runs : Nat → ToolCallRun V) (calls : List (LlmInlineToolCall V))
    (idsGiven : Nat) : Option (ToolRound V) :=
  deps.executeCalls runs calls 0 { idsGiven }

end ToolRoundDeps

/-! ## What a round leaves -/

namespace ToolRoundAction

variable {V : Type}

def isWrite : ToolRoundAction V → Bool
  | recordToolCall _ | startToolCall _ | finishToolCall _ => true
  | _ => false

/-- Of the events, whether it is the result, and the id. -/
def voice? : ToolRoundAction V → Option (Bool × String)
  | toolCall toolCallId _ _ => some (false, toolCallId)
  | toolResult toolCallId _ _ => some (true, toolCallId)
  | _ => none

@[simp] theorem filter_execute (toolCallId : String) (inputs : List V) :
    (inputs.map (execute toolCallId ·)).filter (·.isWrite) = [] := by
  induction inputs with
  | nil => rfl
  | cons input rest ih => exact ih

@[simp] theorem filterMap_execute (toolCallId : String) (inputs : List V) :
    (inputs.map (execute toolCallId ·)).filterMap voice? = [] := by
  induction inputs with
  | nil => rfl
  | cons input rest ih => exact ih

end ToolRoundAction

open ToolRoundAction (voice?)

namespace ToolRoundDeps

variable {V Schema : Type} (deps : ToolRoundDeps V Schema)

/-- The call is recorded and not started: its tool is unknown, or its input is rejected. -/
def Rejects (call : LlmInlineToolCall V) : Prop :=
  ∀ tool, deps.toolOf call = some tool → (deps.inputError tool (deps.serializableToolValue call.input)).isSome

instance (call : LlmInlineToolCall V) : Decidable (deps.Rejects call) :=
  decidable_of_iff (∀ tool ∈ deps.toolOf call, _) Iff.rfl

/-- The durable writes for an id. -/
def writes (entry : String × LlmInlineToolCall V) : List (ToolRoundAction V) :=
  if deps.Rejects entry.2 then [.recordToolCall entry.1]
  else [.startToolCall entry.1, .finishToolCall entry.1]

/-- What a round has come to with the calls it handled, each with its id. -/
structure Paired (idsGiven : Nat) (entries : List (String × LlmInlineToolCall V)) (s : ToolRound V) : Prop where
  given : s.idsGiven = idsGiven + entries.length
  fresh : entries.map (·.1) = (List.range' idsGiven entries.length).map deps.toolCallId
  toolCallIds : s.toolCallIds = entries.map (·.1)
  assistantToolCalls : s.assistantToolCalls = entries.map fun entry => deps.assistantToolCall entry.2
  /-- Each id has its terminal record, and no other. -/
  writes : s.log.filter (·.isWrite) = entries.flatMap deps.writes
  /-- The events come in pairs. -/
  events : s.log.filterMap voice? = entries.flatMap fun entry => [(false, entry.1), (true, entry.1)]
  executed : ∀ toolCallId input, .execute toolCallId input ∈ s.log →
    ∃ entry ∈ entries, entry.1 = toolCallId ∧ ∃ tool, deps.toolOf entry.2 = some tool ∧
      deps.toolInputSchemaError input tool.inputSchema = none

variable {deps} {idsGiven : Nat} {entries : List (String × LlmInlineToolCall V)} {s : ToolRound V}
  {call : LlmInlineToolCall V} {run : ToolCallRun V}

theorem Paired.snoc (paired : deps.Paired idsGiven entries s) {t : ToolRound V} {added : List (ToolRoundAction V)}
    (given : t.idsGiven = s.idsGiven + 1)
    (toolCallIds : t.toolCallIds = s.toolCallIds ++ [deps.toolCallId s.idsGiven])
    (assistantToolCalls : t.assistantToolCalls = s.assistantToolCalls ++ [deps.assistantToolCall call])
    (log : t.log = s.log ++ added)
    (writes : added.filter (·.isWrite) = deps.writes (deps.toolCallId s.idsGiven, call))
    (events : added.filterMap voice? =
      [(false, deps.toolCallId s.idsGiven), (true, deps.toolCallId s.idsGiven)])
    (executed : ∀ toolCallId input, .execute toolCallId input ∈ added →
      deps.toolCallId s.idsGiven = toolCallId ∧ ∃ tool, deps.toolOf call = some tool ∧
        deps.toolInputSchemaError input tool.inputSchema = none) :
    deps.Paired idsGiven (entries ++ [(deps.toolCallId s.idsGiven, call)]) t := by
  constructor
  · rw [given, paired.given, List.length_append, List.length_singleton, Nat.add_assoc]
  · simp only [List.map_append, List.length_append, List.length_singleton, List.range'_concat, paired.fresh,
      paired.given]
    simp
  · rw [toolCallIds, paired.toolCallIds, List.map_append]
    rfl
  · rw [assistantToolCalls, paired.assistantToolCalls, List.map_append]
    rfl
  · rw [log, List.filter_append, paired.writes, writes, List.flatMap_append, List.flatMap_singleton]
  · rw [log, List.filterMap_append, paired.events, events, List.flatMap_append, List.flatMap_singleton]
  · intro toolCallId input member
    rw [log] at member
    rcases List.mem_append.mp member with earlier | now
    · obtain ⟨entry, among, is⟩ := paired.executed toolCallId input earlier
      exact ⟨entry, List.mem_append_left _ among, is⟩
    · exact ⟨_, List.mem_append_right _ (List.mem_singleton_self _), executed toolCallId input now⟩

theorem executeTool_inputs {tool : ToolDefinition Schema} {value input : V}
    (invoked : input ∈ (deps.executeTool tool value run).2) :
    deps.toolInputSchemaError input tool.inputSchema = none := by
  unfold executeTool at invoked
  split at invoked
  · cases invoked
  · split at invoked
    · cases invoked
    · split at invoked
      · cases invoked
      next accepted =>
        rw [List.eq_of_mem_replicate invoked]
        exact accepted

theorem settleToolCall_eq {tool : ToolDefinition Schema} {toolCallId : String} {result : TerminalToolCall V}
    {actions : List (ToolRoundAction V)} (is_tool : deps.toolOf call = some tool)
    (settled : deps.settleToolCall tool toolCallId (deps.serializableToolValue call.input) run =
      some (result, actions)) :
    actions.filter (·.isWrite) = deps.writes (toolCallId, call) ∧ actions.filterMap voice? = [] ∧
      ∀ other input, .execute other input ∈ actions →
        other = toolCallId ∧ deps.toolInputSchemaError input tool.inputSchema = none := by
  have recorded : ∀ error, deps.inputError tool (deps.serializableToolValue call.input) = some error →
      ((run.recorded { status := .failed, error := some error }).map fun result =>
        (result, [ToolRoundAction.recordToolCall toolCallId])) = some (result, actions) →
      actions.filter (·.isWrite) = deps.writes (toolCallId, call) ∧ actions.filterMap voice? = [] ∧
        ∀ other input, .execute other input ∈ actions →
          other = toolCallId ∧ deps.toolInputSchemaError input tool.inputSchema = none := by
    intro error rejected is_recorded
    obtain ⟨_, _, same⟩ := Option.map_eq_some_iff.mp is_recorded
    obtain rfl := (Prod.mk.inj same).2
    have rejects : deps.Rejects call := by
      intro other is_other
      obtain rfl := Option.some.inj (is_tool.symm.trans is_other)
      rw [rejected]
      rfl
    refine ⟨by simp [writes, rejects, ToolRoundAction.isWrite], rfl, ?_⟩
    intro other input member
    simp at member
  unfold settleToolCall at settled
  simp only at settled
  split at settled
  next redacted => exact recorded _ (by rw [redacted]; rfl) settled
  next value is_value =>
    split at settled
    next error rejected => exact recorded error (by rw [is_value]; exact rejected) settled
    next accepted =>
      split at settled
      · cases settled
      · -- the call is started, and finished once
        obtain ⟨final, _, same⟩ := Option.map_eq_some_iff.mp settled
        obtain rfl := (Prod.mk.inj same).2
        have starts : ¬ deps.Rejects call := by
          intro rejects
          have some_error := rejects tool is_tool
          simp [is_value, inputError, accepted] at some_error
        refine ⟨?_, ?_, ?_⟩
        · rw [List.filter_append, List.filter_cons_of_pos rfl, ToolRoundAction.filter_execute]
          simp [writes, starts, ToolRoundAction.isWrite]
        · rw [List.filterMap_append, List.filterMap_cons_none rfl, ToolRoundAction.filterMap_execute]
          rfl
        · intro other input member
          simp only [List.mem_append, List.mem_cons, List.mem_map, reduceCtorEq, false_or, List.not_mem_nil,
            or_false] at member
          obtain ⟨invoked, among, is⟩ := member
          obtain ⟨rfl, rfl⟩ := ToolRoundAction.execute.inj is
          exact ⟨rfl, executeTool_inputs among⟩

theorem Paired.handleCall (paired : deps.Paired idsGiven entries s)
    (answered : s.messages.map (·.toolCallRef) = entries.map (·.2.callRef)) {goesOn : Bool} {t : ToolRound V}
    (handled : deps.handleCall call run s = some (goesOn, t)) :
    deps.Paired idsGiven (entries ++ [(deps.toolCallId s.idsGiven, call)]) t ∧
      if goesOn then t.messages.map (·.toolCallRef) = entries.map (·.2.callRef) ++ [call.callRef]
      else t.aborted = true ∧ t.messages.map (·.toolCallRef) = entries.map (·.2.callRef) := by
  unfold ToolRoundDeps.handleCall at handled
  simp only at handled
  split at handled
  next unknown =>
    obtain ⟨u, recorded, same⟩ := Option.map_eq_some_iff.mp handled
    obtain ⟨rfl, rfl⟩ := Prod.mk.inj same
    unfold unknownToolCall at recorded
    split at recorded
    · cases recorded
    · obtain rfl := Option.some.inj recorded
      have rejects : deps.Rejects call := fun tool is_tool => by simp [unknown] at is_tool
      refine ⟨paired.snoc rfl rfl rfl rfl ?_ rfl ?_, ?_⟩
      · simp [ToolRoundDeps.writes, rejects, ToolRoundAction.isWrite]
      · intro toolCallId input member
        simp at member
      · simp [answered]
  next tool is_tool =>
    split at handled
    · cases handled
    next result actions settled =>
      obtain ⟨durable, silent, executed⟩ := settleToolCall_eq is_tool settled
      have next : ∀ messages, deps.Paired idsGiven (entries ++ [(deps.toolCallId s.idsGiven, call)])
          { s with
            assistantToolCalls := s.assistantToolCalls ++ [deps.assistantToolCall call]
            idsGiven := s.idsGiven + 1
            aborted := s.aborted || run.abortsDuring
            toolCallIds := s.toolCallIds ++ [deps.toolCallId s.idsGiven]
            messages
            log := s.log ++ (.toolCall (deps.toolCallId s.idsGiven) call.toolName
              (deps.serializableToolValue (if (deps.inputError tool
                (deps.serializableToolValue call.input)).isSome then .redacted
                else deps.serializableToolValue call.input)) :: actions ++
              [.toolResult (deps.toolCallId s.idsGiven) (deps.truncateToolOutput (toolOutput result))
                result.status]) } := by
        intro messages
        refine paired.snoc rfl rfl rfl rfl ?_ ?_ ?_
        · rw [List.filter_append, List.filter_cons_of_neg Bool.false_ne_true, durable,
            List.filter_cons_of_neg Bool.false_ne_true, List.filter_nil, List.append_nil]
        · rw [List.filterMap_append, List.filterMap_cons, silent]
          rfl
        · intro toolCallId input member
          simp only [List.cons_append, List.mem_cons, List.mem_append, reduceCtorEq, false_or, List.not_mem_nil,
            or_false] at member
          obtain ⟨rfl, accepted⟩ := executed toolCallId input member
          exact ⟨rfl, tool, is_tool, accepted⟩
      split at handled
      next stops =>
        obtain ⟨rfl, rfl⟩ := Prod.mk.inj (Option.some.inj handled)
        refine ⟨?_, ?_⟩
        · simpa only [List.append_assoc] using next s.messages
        · exact ⟨stops.2, answered⟩
      next =>
        obtain ⟨rfl, rfl⟩ := Prod.mk.inj (Option.some.inj handled)
        refine ⟨?_, ?_⟩
        · simpa only [List.append_assoc] using next _
        · simp [answered]

/-- What is said of a round that resolves. -/
structure RoundPaired (deps : ToolRoundDeps V Schema) (calls : List (LlmInlineToolCall V)) (idsGiven : Nat)
    (entries : List (String × LlmInlineToolCall V)) (s : ToolRound V) : Prop
    extends deps.Paired idsGiven entries s where
  isPrefix : entries.map (·.2) <+: calls
  nodup : s.toolCallIds.Nodup
  /-- Every call has its tool message, but for the last one of a round that was aborted. -/
  messages : s.messages.map (·.toolCallRef) = entries.map (·.2.callRef) ∨
    s.aborted = true ∧ s.messages.map (·.toolCallRef) = (entries.map (·.2.callRef)).dropLast

theorem Paired.executeCalls {runs : Nat → ToolCallRun V} {calls : List (LlmInlineToolCall V)} {index : Nat}
    {t : ToolRound V} (paired : deps.Paired idsGiven entries s)
    (answered : s.messages.map (·.toolCallRef) = entries.map (·.2.callRef))
    (resolved : deps.executeCalls runs calls index s = some t) :
    ∃ more, deps.Paired idsGiven (entries ++ more) t ∧ more.map (·.2) <+: calls ∧
      (t.messages.map (·.toolCallRef) = (entries ++ more).map (·.2.callRef) ∨
        t.aborted = true ∧ t.messages.map (·.toolCallRef) = ((entries ++ more).map (·.2.callRef)).dropLast) := by
  induction calls generalizing entries index s with
  | nil =>
    obtain rfl := Option.some.inj resolved
    exact ⟨[], by simpa using paired, List.nil_prefix, .inl (by simpa using answered)⟩
  | cons call rest ih =>
    unfold ToolRoundDeps.executeCalls at resolved
    simp only at resolved
    have begun : deps.Paired idsGiven entries { s with aborted := s.aborted || (runs index).abortsBefore } :=
      { paired with }
    split at resolved
    · -- the signal has aborted before the call
      obtain rfl := Option.some.inj resolved
      exact ⟨[], by simpa using begun, List.nil_prefix, .inl (by simpa using answered)⟩
    · split at resolved
      · cases resolved
      next u handled =>
        obtain rfl := Option.some.inj resolved
        obtain ⟨next, unanswered⟩ := begun.handleCall answered handled
        simp only [Bool.false_eq_true, if_false] at unanswered
        refine ⟨[(deps.toolCallId s.idsGiven, call)], next, ?_, .inr ⟨unanswered.1, ?_⟩⟩
        · simp
        · simpa using unanswered.2
      next u handled =>
        obtain ⟨next, all_answered⟩ := begun.handleCall answered handled
        simp only [if_true] at all_answered
        obtain ⟨more, last, isPrefix, messages⟩ := ih next (by simpa using all_answered) resolved
        refine ⟨(deps.toolCallId s.idsGiven, call) :: more, ?_, ?_, ?_⟩
        · simpa using last
        · simpa using isPrefix
        · simpa using messages

/-- A round that resolves has paired its lists, its durable records and its events. -/
theorem executePipelineToolCalls_paired (deps : ToolRoundDeps V Schema)
    (distinct : Function.Injective deps.toolCallId) (runs : Nat → ToolCallRun V)
    (calls : List (LlmInlineToolCall V)) (idsGiven : Nat) (round : ToolRound V)
    (resolved : deps.executePipelineToolCalls runs calls idsGiven = some round) :
    ∃ entries, RoundPaired deps calls idsGiven entries round := by
  have start : deps.Paired idsGiven [] ({ idsGiven } : ToolRound V) := by
    constructor
    · rfl
    · rfl
    · rfl
    · rfl
    · rfl
    · rfl
    · exact fun toolCallId input member => nomatch member
  obtain ⟨entries, paired, isPrefix, messages⟩ := start.executeCalls rfl resolved
  rw [List.nil_append] at paired messages
  have nodup : round.toolCallIds.Nodup := by
    rw [paired.toolCallIds, paired.fresh]
    exact List.Nodup.map distinct List.nodup_range'
  exact ⟨entries, { paired with isPrefix, nodup, messages }⟩

/-- Tools named `pay`, whose schema is a bound of the input. -/
def payments : ToolRoundDeps Nat Nat where
  findTool call := if call.toolName = "pay" then some { id := "tool_pay", name := "pay", inputSchema := 10 } else none
  memoryTool := none
  toolCallId given := String.ofList (List.replicate given 'c')
  snapshotJsonValue := some
  truncateToolInput input := input
  truncateToolOutput output := output
  safeJsonStringify _ := "null"
  toolInputSchemaError input bound :=
    if input ≤ bound then none else some { code := "tool.input_validation_failed", message := "too large" }
  serializabilityError _ := none

theorem payments_toolCallId_injective : Function.Injective payments.toolCallId := by
  intro first second same
  have lengths := congrArg String.length same
  simpa [payments] using lengths

/-- An unknown tool, an input that is too large, and a payment that is cancelled when the turn is. -/
theorem executePipelineToolCalls_paired_three :
    let calls : List (LlmInlineToolCall Nat) :=
      [⟨"a", "refund", .value 3⟩, ⟨"b", "pay", .value 11⟩, ⟨"b", "pay", .value 4⟩]
    let runs (index : Nat) : ToolCallRun Nat :=
      { abortsDuring := index == 2, execution := .returned { status := .cancelled } }
    ∃ round entries, payments.executePipelineToolCalls runs calls 0 = some round ∧
      RoundPaired payments calls 0 entries round ∧ round.messages.length = 2 := by
  intro calls runs
  obtain ⟨round, resolved, answers⟩ : ∃ round, payments.executePipelineToolCalls runs calls 0 = some round ∧
      round.messages.length = 2 := ⟨_, rfl, rfl⟩
  obtain ⟨entries, paired⟩ :=
    executePipelineToolCalls_paired payments payments_toolCallId_injective runs calls 0 round resolved
  exact ⟨round, entries, resolved, paired, answers⟩

end ToolRoundDeps

end Tvic.PipelineToolExec
