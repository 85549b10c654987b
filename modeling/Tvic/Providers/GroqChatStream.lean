import Tvic.Providers.SseParsing
import Tvic.Runtime.SessionUsage

/-!
# The stream of a Groq completion

`complete` of `packages/providers/src/groq-chat.ts` with its event stream. Items are what `parseSse` has made
of the response; an item is an object that `JSON.parse` has returned. The response ends after its items or
it throws. Whether the queue of events takes an event is up to its consumer: `accepts` says so for each
identifier.
-/
namespace Tvic

open Lib

namespace GroqChat

def maxProviderLlmOutputChars : Nat := 4194304

def maxProviderLlmToolArgumentChars : Nat := 1048576

def maxProviderLlmToolCalls : Nat := 128

def maxProviderLlmToolFieldChars : Nat := 4096

variable {N E : Type}

/-- An object that has been parsed, by its own properties. -/
abbrev JsonObject (N : Type) := List (Text × JsValue N)

/-! ## Fields -/

/-- `objectField(value, "")` -/
def asObject : JsValue N → Option (JsonObject N)
  | .object members => some members
  | _ => none

def objectField (object : JsonObject N) (key : String) : Option (JsonObject N) :=
  (getMember (utf16 key) object).bind asObject

def arrayField (object : JsonObject N) (key : String) : Option (List (JsValue N)) :=
  match getMember (utf16 key) object with
  | some (.array items) => some items
  | _ => none

def stringField (object : JsonObject N) (key : String) : Option Text :=
  match getMember (utf16 key) object with
  | some (.string value) => some value
  | _ => none

/-- Whether the property is something else than `undefined`. -/
def isPresent (object : JsonObject N) (key : String) : Bool :=
  match getMember (utf16 key) object with
  | none | some .undefined => false
  | _ => true

/-! ## Usage -/

def absentUsageReport : LlmUsageReport :=
  ⟨.notReported .absent, .notReported .absent, .notReported .absent⟩

def invalidUsageReport : LlmUsageReport :=
  ⟨.notReported .invalid, .notReported .invalid, .notReported .invalid⟩

def reconcileField : ProviderUsageField → ProviderUsageField → ProviderUsageField
  | .notReported .invalid, _ => .notReported .invalid
  | _, .notReported .invalid => .notReported .invalid
  | .reported left, .reported right =>
    if left = right then .reported left else .notReported .invalid
  | .reported left, _ => .reported left
  | _, .reported right => .reported right
  | _, _ => .notReported .absent

variable [FiniteNumber N]

/-- A number of tokens: nothing is said, it is invalid, or it is the number. -/
def tokenValue (usage : JsonObject N) (key : String) : Option (Option Nat) :=
  match getMember (utf16 key) usage with
  | none | some .undefined => none
  | some (.number value) =>
    some (((Double.finite (FiniteNumber.value value)).safeInteger? 0).map (·.val))
  | _ => some none

def aliasedTokenField (usage : JsonObject N) (keys : List String) : ProviderUsageField :=
  let found := keys.filterMap (tokenValue usage)
  match found with
  | [] => .notReported .absent
  | some value :: _ =>
    if found.all (· = some value) then .reported (.finite value) else .notReported .invalid
  | none :: _ => .notReported .invalid

def cachedTokenField (usage : JsonObject N) : ProviderUsageField :=
  let field := fun key =>
    match getMember (utf16 key) usage with
    | none | some .null | some .undefined => none
    | some (.object details) => some (aliasedTokenField details ["cached_tokens"])
    | _ => some (.notReported .invalid)
  (["prompt_tokens_details", "input_tokens_details"].filterMap field).foldl reconcileField
    (.notReported .absent)

def usageSource : JsValue N → LlmUsageReport
  | .undefined | .null => absentUsageReport
  | .object usage =>
    { inputTokens := aliasedTokenField usage ["prompt_tokens", "input_tokens"]
      outputTokens := aliasedTokenField usage ["completion_tokens", "output_tokens"]
      cachedTokens := cachedTokenField usage }
  | _ => invalidUsageReport

def groqUsageReport (item : JsonObject N) : Option LlmUsageReport :=
  let topLevel := getMember (utf16 "usage") item
  let xGroq := getMember (utf16 "x_groq") item
  let nested := (xGroq.bind asObject).bind (getMember (utf16 "usage"))
  let invalidNestedContainer := xGroq.isSome && (xGroq.bind asObject).isNone
  if topLevel.isNone && nested.isNone && !invalidNestedContainer then none
  else
    let top := (topLevel.map usageSource).getD absentUsageReport
    let inner :=
      if invalidNestedContainer then invalidUsageReport
      else (nested.map usageSource).getD absentUsageReport
    let report : LlmUsageReport :=
      { inputTokens := reconcileField top.inputTokens inner.inputTokens
        outputTokens := reconcileField top.outputTokens inner.outputTokens
        cachedTokens := reconcileField top.cachedTokens inner.cachedTokens }
    match report.inputTokens, report.cachedTokens with
    | .reported (.finite input), .reported (.finite cached) =>
      some (if input < cached then { report with cachedTokens := .notReported .invalid } else report)
    | _, _ => some report

def legacyLlmUsage (report : LlmUsageReport) : Option LlmUsage :=
  match report.inputTokens, report.outputTokens with
  | .reported input, .reported output =>
    some
      { inputTokens := input
        outputTokens := output
        cachedTokens :=
          match report.cachedTokens with
          | .reported cached => some cached
          | .notReported _ => none }
  | _, _ => none

/-! ## Tool calls -/

inductive Failure (N E : Type) where
  | protocol (message : String)
  /-- `providerEventQueueOverflow` -/
  | bufferOverflow
  | streaming (error : Option (JsonObject N))
  | thrown (error : E)

structure MutableToolCall where
  callRef : Text := []
  toolName : Text := []
  argumentsJson : Text := []
  deriving DecidableEq, Repr

structure InlineToolCall (N : Type) where
  callRef : Text
  toolName : Text
  input : JsValue N

def orElse (new : Option Text) (old : Text) : Text :=
  match new with
  | none | some [] => old
  | some new => new

/-- Whether a text contradicts one that has come before it. -/
def conflicts (new : Option Text) (old : Text) : Bool :=
  match new with
  | none | some [] => false
  | some new => old ≠ [] && old ≠ new

/-- The index of a tool call: `numberField` and the check of it. -/
def toolCallIndex (item : JsonObject N) : Option Nat :=
  match getMember (utf16 "index") item with
  | some (.number value) => ((Double.finite (FiniteNumber.value value)).safeInteger? 0).map (·.val)
  | _ => none

/-- The calls with a fragment, and the number of characters of its arguments. -/
def absorbToolCall (calls : InsertionMap Nat MutableToolCall) (value : JsValue N)
    (existingArgumentChars : Nat) (allowedToolNames : List Text) :
    Except (Failure N E) (InsertionMap Nat MutableToolCall × Nat) :=
  match asObject value with
  | none => .error (.protocol "Groq returned a malformed tool call delta")
  | some item =>
    match toolCallIndex item with
    | none => .error (.protocol "Groq returned a tool call without a valid index")
    | some index =>
      if calls.has index = false ∧ maxProviderLlmToolCalls ≤ calls.length then .error .bufferOverflow
      else if isPresent item "function" ∧ (objectField item "function").isNone then
        .error (.protocol "Groq returned a malformed tool function")
      else
        let functionValue := (objectField item "function").getD []
        let call := (calls.get index).getD {}
        let callRef := stringField item "id"
        let toolName := stringField functionValue "name"
        let argumentsJson := stringField functionValue "arguments"
        if isPresent functionValue "arguments" ∧ argumentsJson.isNone then
          .error (.protocol "Groq returned a non-string tool call arguments field")
        else if maxProviderLlmToolFieldChars < (callRef.getD []).length ∨
            maxProviderLlmToolFieldChars < (toolName.getD []).length then
          .error .bufferOverflow
        else
          let appended := argumentsJson.getD []
          if maxProviderLlmToolArgumentChars < existingArgumentChars + appended.length then
            .error .bufferOverflow
          else if conflicts callRef call.callRef then
            .error (.protocol "Groq returned conflicting tool call identity")
          else if conflicts toolName call.toolName then
            .error (.protocol "Groq returned conflicting tool name identity")
          else if toolName.getD [] ≠ [] ∧ toolName.getD [] ∉ allowedToolNames then
            .error (.protocol "Groq returned a tool call for an unknown tool")
          else
            .ok (calls.set index
              { callRef := orElse callRef call.callRef
                toolName := orElse toolName call.toolName
                argumentsJson := call.argumentsJson ++ appended }, appended.length)

def parseToolArguments (value : Text) : Except (Failure N E) (JsValue N) :=
  if value = [] then .ok (.object [])
  else
    match parseJson value with
    | some input => .ok input
    | none => .error (.protocol "Groq returned malformed tool call arguments")

def freezeToolCall (call : MutableToolCall) : Except (Failure N E) (InlineToolCall N) :=
  if call.callRef = [] ∨ call.toolName = [] then
    .error (.protocol "Groq returned an incomplete tool call")
  else (parseToolArguments call.argumentsJson).map fun input => ⟨call.callRef, call.toolName, input⟩

/-! ## Events -/

inductive StreamEvent (N E : Type) where
  | started (model : Text)
  | token (text : Text)
  | toolCall (call : InlineToolCall N)
  | completed (text : Text) (toolCalls : List (InlineToolCall N)) (providerModel : Option Text)
      (usageReport : LlmUsageReport) (usage : Option LlmUsage)
  | failed (error : Failure N E) (providerModel : Option Text) (usageReport : LlmUsageReport)

structure LlmStreamEvent (N E : Type) where
  id : Nat
  sequence : Nat
  event : StreamEvent N E

structure Request where
  model : Text
  tools : List Text
  deriving DecidableEq, Repr

structure Run (N E : Type) where
  /-- What the queue of events has taken. -/
  emitted : List (LlmStreamEvent N E) := []
  /-- The identifiers that have been given. -/
  ids : Nat := 0
  isClosed : Bool := false
  sequence : Nat := 1
  outputText : Text := []
  providerModel : Option Text := none
  usage : Option LlmUsage := none
  usageReport : LlmUsageReport := absentUsageReport
  terminal : Bool := false
  toolCalls : InsertionMap Nat MutableToolCall := []
  toolArgumentChars : Nat := 0
  sawChoice : Bool := false

/-- How the loop goes on after an item. -/
inductive Control (N E : Type) where
  | proceed
  | leave
  | throws (error : Failure N E)

namespace Run

variable (accepts : Nat → Bool)

omit [FiniteNumber N] in
def pushEvent (s : Run N E) (event : LlmStreamEvent N E) : Run N E × Bool :=
  if s.isClosed = false ∧ accepts event.id then ({ s with emitted := s.emitted ++ [event] }, true)
  else ({ s with terminal := true, isClosed := true }, false)

omit [FiniteNumber N] in
def pushSequencedEvent (s : Run N E) (event : StreamEvent N E) : Run N E × Bool :=
  match pushEvent accepts { s with ids := s.ids + 1 } ⟨s.ids + 1, s.sequence, event⟩ with
  | (s, true) => ({ s with sequence := s.sequence + 1 }, true)
  | (s, false) => (s, false)

omit [FiniteNumber N] in
def emitFailure (s : Run N E) (error : Failure N E) : Run N E :=
  if s.terminal ∨ s.isClosed then s
  else
    let pushed := (pushEvent accepts { s with terminal := true, ids := s.ids + 1 }
      ⟨s.ids + 1, s.sequence, .failed error s.providerModel s.usageReport⟩).1
    { pushed with
      sequence := if pushed.isClosed then pushed.sequence else pushed.sequence + 1
      isClosed := true }

omit [FiniteNumber N] in
/-- The events of the calls, as long as they are taken. -/
def pushToolCalls (s : Run N E) : List (InlineToolCall N) → Run N E × Bool
  | [] => (s, true)
  | call :: calls =>
    match s.pushSequencedEvent accepts (.toolCall call) with
    | (s, true) => s.pushToolCalls calls
    | refused => refused

def emitCompleted (s : Run N E) : Run N E × Control N E :=
  if s.terminal then (s, .leave)
  else
    match ((s.toolCalls.mergeSort fun a b => a.1 ≤ b.1).map (·.2)).mapM freezeToolCall with
    | .error error => (s, .throws error)
    | .ok calls =>
      match s.pushToolCalls accepts calls with
      | (s, false) => (s, .leave)
      | (s, true) =>
        match s.pushSequencedEvent accepts
            (.completed s.outputText calls s.providerModel s.usageReport s.usage) with
        | (s, false) => (s, .leave)
        | (s, true) => ({ s with terminal := true, isClosed := true }, .leave)

omit [FiniteNumber N] in
/-- The text of a delta, if it has one. -/
def handleText (s : Run N E) (text : Text) : Run N E × Control N E :=
  if text = [] then (s, .proceed)
  else if maxProviderLlmOutputChars < s.outputText.length + text.length then
    (s, .throws .bufferOverflow)
  else
    match s.pushSequencedEvent accepts (.token text) with
    | (s, true) => ({ s with outputText := s.outputText ++ text }, .proceed)
    | (s, false) => (s, .leave)

/-- The fragments of tool calls, up to one that is refused. -/
def absorbToolCalls (tools : List Text) (s : Run N E) : List (JsValue N) → Run N E × Control N E
  | [] => (s, .proceed)
  | value :: values =>
    match absorbToolCall s.toolCalls value s.toolArgumentChars tools with
    | .error error => (s, .throws error)
    | .ok (calls, appended) =>
      absorbToolCalls tools
        { s with toolCalls := calls, toolArgumentChars := s.toolArgumentChars + appended } values

def handleDelta (tools : List Text) (s : Run N E) (delta : JsonObject N) : Run N E × Control N E :=
  if isPresent delta "content" ∧ (stringField delta "content").isNone then
    (s, .throws (.protocol "Groq returned a non-text response delta"))
  else
    match s.handleText accepts ((stringField delta "content").getD []) with
    | (s, .proceed) =>
      if isPresent delta "tool_calls" ∧ (arrayField delta "tool_calls").isNone then
        (s, .throws (.protocol "Groq returned malformed tool call deltas"))
      else absorbToolCalls tools s ((arrayField delta "tool_calls").getD [])
    | stopped => stopped

/-- The model and the usage that an item reports. -/
def observe (s : Run N E) (item : JsonObject N) : Run N E :=
  let named :=
    match stringField item "model" with
    | some model => if trim isWhitespace model = [] then s else { s with providerModel := some model }
    | none => s
  match groqUsageReport item with
  | some report => { named with usageReport := report, usage := legacyLlmUsage report }
  | none => named

def handleChoices (tools : List Text) (s : Run N E) (item : JsonObject N) : Run N E × Control N E :=
  match arrayField item "choices" with
  | none => (s, .throws (.protocol "Groq response omitted its choices array"))
  | some [] => (s, .proceed)
  | some [choice] =>
    match asObject choice with
    | none => (s, .throws (.protocol "Groq returned a malformed response choice"))
    | some choice =>
      let s := { s with sawChoice := true }
      match objectField choice "delta" with
      | none => (s, .throws (.protocol "Groq returned a response choice without a delta"))
      | some delta => s.handleDelta accepts tools delta
  | some _ => (s, .throws (.protocol "Groq returned an unexpected number of response choices"))

def handleEvent (tools : List Text) (s : Run N E) (item : JsonObject N) : Run N E × Control N E :=
  let s := s.observe item
  match getMember (utf16 "error") item with
  | none | some .undefined | some .null => s.handleChoices accepts tools item
  | some error => (s.emitFailure accepts (.streaming (asObject error)), .leave)

/-- The loop over the items, with whether the marker has been seen. -/
def readItems (tools : List Text) (s : Run N E) :
    List (SseItem (JsonObject N)) → (Run N E × Control N E) × Bool
  | [] => ((s, .proceed), false)
  | .done :: _ =>
    if s.sawChoice = false then
      ((s, .throws (.protocol "Groq stream completed without a response choice")), true)
    else (s.emitCompleted accepts, true)
  | .event item :: items =>
    if s.terminal then ((s, .leave), false)
    else
      match s.handleEvent accepts tools item with
      | (s, .proceed) => s.readItems tools items
      | stopped => (stopped, false)

omit [FiniteNumber N] in
/-- What becomes of the stream when the loop has come to its end. -/
def finish (ending : Option E) : (Run N E × Control N E) × Bool → Run N E
  | ((s, .throws error), _) => s.emitFailure accepts error
  | ((s, .proceed), _) =>
    match ending with
    | some error => s.emitFailure accepts (.thrown error)
    | none => s.emitFailure accepts (.protocol "Groq stream ended before its completion marker")
  | ((s, .leave), sawDone) =>
    if sawDone = false ∧ s.terminal = false then
      s.emitFailure accepts (.protocol "Groq stream ended before its completion marker")
    else s

end Run

/-- A completion with all the items of its response; `ending` is what the response throws after them. -/
def complete (accepts : Nat → Bool) (request : Request) (items : List (SseItem (JsonObject N)))
    (ending : Option E) : Run N E :=
  match Run.pushSequencedEvent accepts {} (.started request.model) with
  | (s, false) => s
  | (s, true) => Run.finish accepts ending (s.readItems accepts request.tools items)

end GroqChat

end Tvic
