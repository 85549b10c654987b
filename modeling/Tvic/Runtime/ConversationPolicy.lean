import Tvic.Core.Dal
import Tvic.Lib.InsertionMap
import Tvic.Lib.Run
import Tvic.Lib.Text

/-!
# The conversation policy

`packages/runtime/src/conversation-policy.ts`, as far as it keeps the history of a conversation: the
messages a live conversation remembers, one system message and the turns after it, within the limits
of the agent's context policy. What `formatPreCallContextAsSystemBlock` renders and how `localeCompare`
orders ids are parameters.
-/
namespace Tvic

open Lib (Text utf16 utf8Bytes quoteJsonString InsertionMap isWhitespace)

inductive LlmMessageRole where
  | system
  | user
  | assistant
  | tool
  deriving DecidableEq, Repr

def LlmMessageRole.text : LlmMessageRole → Text
  | .system => utf16 "system"
  | .user => utf16 "user"
  | .assistant => utf16 "assistant"
  | .tool => utf16 "tool"

/-- A tool call of a message, its input as `JSON.stringify` gives it. -/
structure LlmInlineToolCall where
  callRef : Text
  toolName : Text
  input : Option Text
  deriving DecidableEq, Repr

/-- A message, its metadata as `JSON.stringify` gives them. -/
structure LlmMessage where
  role : LlmMessageRole
  content : Text
  toolCallRef : Option Text := none
  toolName : Option Text := none
  toolCalls : Option (List LlmInlineToolCall) := none
  metadata : Option Text := none
  deriving DecidableEq, Repr

/-- A property of an object, without those that are undefined. -/
def jsonProperty (name : String) (value : Option Text) : List Text :=
  match value with
  | none => []
  | some json => [quoteJsonString (utf16 name) ++ utf16 ":" ++ json]

def jsonObject (properties : List Text) : Text :=
  utf16 "\x7b" ++ (utf16 ",").intercalate properties ++ utf16 "\x7d"

def jsonArray (items : List Text) : Text :=
  utf16 "[" ++ (utf16 ",").intercalate items ++ utf16 "]"

def LlmInlineToolCall.json (call : LlmInlineToolCall) : Text :=
  jsonObject (jsonProperty "callRef" (some (quoteJsonString call.callRef)) ++
    jsonProperty "toolName" (some (quoteJsonString call.toolName)) ++
    jsonProperty "input" call.input)

def LlmMessage.json (message : LlmMessage) : Text :=
  jsonObject (jsonProperty "role" (some (quoteJsonString message.role.text)) ++
    jsonProperty "content" (some (quoteJsonString message.content)) ++
    jsonProperty "toolCallRef" (message.toolCallRef.map quoteJsonString) ++
    jsonProperty "toolName" (message.toolName.map quoteJsonString) ++
    jsonProperty "toolCalls" (message.toolCalls.map fun calls =>
      jsonArray (calls.map LlmInlineToolCall.json)) ++
    jsonProperty "metadata" message.metadata)

def messageBytes (message : LlmMessage) : Nat := utf8Bytes message.json

/-! ## Options -/

structure AgentContextPolicy where
  maxHistoryBytes : Option Number := none
  maxHistoryMessages : Option Number := none
  maxPreCallBytes : Option Number := none

/-- What the policy reads of its agent and its other options; `C` is the type of pre-call contexts. -/
structure ConversationPolicyOptions (C : Type) where
  instructions : Text
  contextPolicy : Option AgentContextPolicy := none
  preCallContext : Option C := none
  maxHistoryBytes : Option Number := none
  maxHistoryMessages : Option Number := none
  maxPreCallBytes : Option Number := none

def defaultMaxHistoryBytes : Nat := 32 * 1024

def defaultMaxHistoryMessages : Nat := 32

def defaultMaxPreCallBytes : Nat := 16 * 1024

/-- The validation errors of the policy, with what their messages are made from. -/
inductive PolicyError where
  | invalidContextPolicy (name : String) (minimum : Nat) (value : Number)
  deriving DecidableEq, Repr

/-- A budget, which the constructor has checked. -/
def positiveBudget (value : Number) (name : String) (minimum : Nat) :
    Except PolicyError { budget : Nat // minimum ≤ budget } :=
  match found : value.safeInteger? minimum with
  | some budget => .ok ⟨budget, (Number.safeInteger?_eq_some found).2.1⟩
  | none => .error (.invalidContextPolicy name minimum value)

/-! ## Rendering the system instruction -/

/-- `[A-Za-z0-9_.-]` -/
def isPlaceholderKeyUnit (unit : UInt16) : Bool :=
  (65 ≤ unit && unit ≤ 90) || (97 ≤ unit && unit ≤ 122) || (48 ≤ unit && unit ≤ 57) ||
    unit == 95 || unit == 46 || unit == 45

/-- The key and the length of the placeholder `\x7b\x7b key \x7d\x7d` a text starts with. None of the
four kinds of units of a placeholder is another's, so that every match is found without going back. -/
def placeholderAt (text : Text) : Option (Text × Nat) :=
  if text.take 2 = [123, 123] then
    let opened := text.drop 2
    let fromKey := opened.dropWhile isWhitespace
    let key := fromKey.takeWhile isPlaceholderKeyUnit
    let closing := (fromKey.drop key.length).dropWhile isWhitespace
    if key ≠ [] ∧ closing.take 2 = [125, 125] then
      some (key, text.length - (closing.length - 2))
    else none
  else none

/-- The text from a place on, of which the first `skip` units belong to a placeholder already handled. -/
def substituteFrom (staticVariables : InsertionMap Text Text) : Nat → Text → Text
  | _, [] => []
  | skip + 1, _ :: rest => substituteFrom staticVariables skip rest
  | 0, unit :: rest =>
    match placeholderAt (unit :: rest) with
    | none => unit :: substituteFrom staticVariables 0 rest
    | some (key, length) =>
      (staticVariables.get key).getD ((unit :: rest).take length) ++
        substituteFrom staticVariables (length - 1) rest

def substituteVariables (instruction : Text) (staticVariables : InsertionMap Text Text) : Text :=
  substituteFrom staticVariables 0 instruction

/-! ## The policy -/

structure ConversationPolicy (C : Type) where
  baseSystemInstruction : Text
  preCallContext : Option C
  systemInstructionOverride : Option Text := none
  turnSystemInstruction : Option Text := none
  staticVariables : InsertionMap Text Text := []
  maxHistoryBytes : Nat
  maxHistoryMessages : Nat
  maxPreCallBytes : Nat
  history : List LlmMessage := []

inductive TurnStatus where
  | started
  | listening
  | thinking
  | callingTool
  | speaking
  | interrupted
  | completed
  | cancelled
  | failed
  deriving DecidableEq, Repr

structure HydratedTurn where
  id : Text
  sequence : Int
  status : TurnStatus
  transcript : Option Text
  outputText : Option Text
  deriving DecidableEq, Repr

def interruptedText (assistantText : Text) : Text :=
  if assistantText ≠ [] then
    utf16 "[Response interrupted before completion; some of this may not have been heard.] " ++
      assistantText
  else utf16 "[Response interrupted before completion.]"

/-- The loop of `#trimHistory`: from the pair at `index` backwards, what is kept so far. -/
def trimLoop (maxHistoryBytes maxHistoryMessages : Nat) (history : List LlmMessage)
    (index bytes messages : Nat) (retained : List LlmMessage) : List LlmMessage :=
  if index < 1 then retained
  else
    let pair := (history.drop index).take 2
    if pair.length ≠ 2 then
      trimLoop maxHistoryBytes maxHistoryMessages history (index - 2) bytes messages retained
    else
      let pairBytes := (pair.map messageBytes).sum
      if maxHistoryMessages < messages + pair.length ∨ maxHistoryBytes < bytes + pairBytes then
        retained
      else
        trimLoop maxHistoryBytes maxHistoryMessages history (index - 2) (bytes + pairBytes)
          (messages + pair.length) (pair ++ retained)
termination_by index

namespace ConversationPolicy

variable {C : Type}

def trimHistory (policy : ConversationPolicy C) : ConversationPolicy C :=
  match policy.history with
  | [] => policy
  | system :: _ =>
    { policy with
      history := system ::
        trimLoop policy.maxHistoryBytes policy.maxHistoryMessages policy.history
          (policy.history.length - 2) (messageBytes system) 1 [] }

section

variable (formatPreCallContextAsSystemBlock : C → Nat → Text) (localeCompare : Text → Text → Ordering)

def renderSystemInstruction (policy : ConversationPolicy C) : Text :=
  let instruction := policy.turnSystemInstruction.getD
    (policy.systemInstructionOverride.getD policy.baseSystemInstruction)
  let variablesBlock :=
    if policy.staticVariables.length > 0 then
      [[utf16 "<variables>"] ++
        policy.staticVariables.map (fun entry => utf16 "  " ++ entry.1 ++ utf16 " = " ++ entry.2) ++
        [utf16 "</variables>"]].map (utf16 "\n").intercalate
    else []
  let preCall := policy.preCallContext.toList.map fun context =>
    formatPreCallContextAsSystemBlock context policy.maxPreCallBytes
  (utf16 "\n\n").intercalate
    ([substituteVariables instruction policy.staticVariables] ++ variablesBlock ++ preCall)

def systemMessage (policy : ConversationPolicy C) : LlmMessage :=
  { role := .system, content := policy.renderSystemInstruction formatPreCallContextAsSystemBlock }

/-- The constructor; the checks are in its order. -/
def new (options : ConversationPolicyOptions C) : Except PolicyError (ConversationPolicy C) := do
  let contextPolicy := options.contextPolicy.getD {}
  let maxHistoryBytes ← positiveBudget
    ((options.maxHistoryBytes <|> contextPolicy.maxHistoryBytes).getD (.int defaultMaxHistoryBytes))
    "maxHistoryBytes" 1
  let maxHistoryMessages ← positiveBudget
    ((options.maxHistoryMessages <|> contextPolicy.maxHistoryMessages).getD
      (.int defaultMaxHistoryMessages))
    "maxHistoryMessages" 2
  let maxPreCallBytes ← positiveBudget
    ((options.maxPreCallBytes <|> contextPolicy.maxPreCallBytes).getD (.int defaultMaxPreCallBytes))
    "maxPreCallBytes" 1
  let policy : ConversationPolicy C :=
    { baseSystemInstruction := options.instructions
      preCallContext := options.preCallContext
      maxHistoryBytes := maxHistoryBytes
      maxHistoryMessages := maxHistoryMessages
      maxPreCallBytes := maxPreCallBytes }
  return trimHistory
    { policy with history := [policy.systemMessage formatPreCallContextAsSystemBlock] }

def recordTurn (policy : ConversationPolicy C) (transcript assistantText : Text) :
    ConversationPolicy C :=
  trimHistory { policy with
    history := policy.history ++
      [{ role := .user, content := transcript }, { role := .assistant, content := assistantText }] }

def recordInterruptedTurn (policy : ConversationPolicy C) (transcript assistantText : Text) :
    ConversationPolicy C :=
  trimHistory { policy with
    history := policy.history ++
      [{ role := .user, content := transcript },
        { role := .assistant, content := interruptedText assistantText }] }

/-- `[...turns].sort(...)`, a stable sort by sequence number, then id. -/
def orderedTurns (turns : List HydratedTurn) : List HydratedTurn :=
  turns.mergeSort fun a b =>
    a.sequence < b.sequence || (a.sequence = b.sequence && localeCompare a.id b.id ≠ .gt)

def hydrateTurn (policy : ConversationPolicy C) (turn : HydratedTurn) : ConversationPolicy C :=
  match turn.transcript with
  | none => policy
  | some transcript =>
    if transcript = [] then policy
    else if turn.status = .completed then policy.recordTurn transcript (turn.outputText.getD [])
    else if turn.status = .cancelled ∨ turn.status = .interrupted then
      policy.recordInterruptedTurn transcript (turn.outputText.getD [])
    else policy

def hydrateTurns (policy : ConversationPolicy C) (turns : List HydratedTurn) :
    ConversationPolicy C :=
  (orderedTurns localeCompare turns).foldl hydrateTurn policy

def refreshSystemInstruction (policy : ConversationPolicy C) : ConversationPolicy C :=
  trimHistory { policy with
    history := policy.systemMessage formatPreCallContextAsSystemBlock :: policy.history.drop 1 }

def replaceSystemInstruction (policy : ConversationPolicy C) (instruction : Text) :
    ConversationPolicy C :=
  refreshSystemInstruction formatPreCallContextAsSystemBlock
    { policy with systemInstructionOverride := some instruction, turnSystemInstruction := none }

def setTurnSystemInstruction (policy : ConversationPolicy C) (instruction : Option Text) :
    ConversationPolicy C :=
  refreshSystemInstruction formatPreCallContextAsSystemBlock
    { policy with turnSystemInstruction := instruction }

def setStaticVariables (policy : ConversationPolicy C) (staticVariables : InsertionMap Text Text) :
    ConversationPolicy C :=
  refreshSystemInstruction formatPreCallContextAsSystemBlock
    { policy with staticVariables := staticVariables }

end

end ConversationPolicy

/-- The calls that change what a policy remembers. -/
inductive PolicyCall where
  | recordTurn (transcript assistantText : Text)
  | recordInterruptedTurn (transcript assistantText : Text)
  | hydrateTurns (turns : List HydratedTurn)
  | replaceSystemInstruction (instruction : Text)
  | setTurnSystemInstruction (instruction : Option Text)
  | setStaticVariables (staticVariables : InsertionMap Text Text)
  deriving DecidableEq, Repr

namespace ConversationPolicy

variable {C : Type} (formatPreCallContextAsSystemBlock : C → Nat → Text)
  (localeCompare : Text → Text → Ordering)

def step (policy : ConversationPolicy C) : PolicyCall → ConversationPolicy C
  | .recordTurn transcript assistantText => policy.recordTurn transcript assistantText
  | .recordInterruptedTurn transcript assistantText =>
    policy.recordInterruptedTurn transcript assistantText
  | .hydrateTurns turns => policy.hydrateTurns localeCompare turns
  | .replaceSystemInstruction instruction =>
    policy.replaceSystemInstruction formatPreCallContextAsSystemBlock instruction
  | .setTurnSystemInstruction instruction =>
    policy.setTurnSystemInstruction formatPreCallContextAsSystemBlock instruction
  | .setStaticVariables staticVariables =>
    policy.setStaticVariables formatPreCallContextAsSystemBlock staticVariables

def after (policy : ConversationPolicy C) (calls : List PolicyCall) : ConversationPolicy C :=
  Lib.run (step formatPreCallContextAsSystemBlock localeCompare) policy calls

end ConversationPolicy

end Tvic
