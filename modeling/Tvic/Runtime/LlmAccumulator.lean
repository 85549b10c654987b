import Tvic.Runtime.ConversationPolicy

/-!
# What a turn takes from an LLM stream

`PipelineLlmAccumulator` of `packages/runtime/src/pipeline-llm-accumulator.ts`. Text and tool calls are
taken within bounds; a completion repeats the tool calls of its stream, and those are recognized by their
references. A call that is refused also cancels the stream, which takes nothing back.
-/
namespace Tvic

open Lib (Text utf16 utf8Bytes quoteJsonString)

def maxRuntimeLlmOutputBytes : Nat := 4 * 1024 * 1024

def maxRuntimeLlmEvents : Nat := 16384

def maxRuntimeLlmToolCalls : Nat := 128

def maxRuntimeLlmToolArgumentBytes : Nat := 1024 * 1024

def maxRuntimeLlmToolFieldBytes : Nat := 4096

/-- A tool call as a provider gives it. -/
structure StreamedToolCall where
  callRef : Text
  toolName : Text
  /-- What `JSON.stringify` makes of the input: it may throw, or give nothing. -/
  json : Option (Option Text)
  /-- Whether `stableStringify` takes the input. -/
  stable : Bool
  deriving DecidableEq, Repr

def redactedToolInput : Text :=
  jsonObject (jsonProperty "$tvic" (some (quoteJsonString (utf16 "input_unavailable"))) ++
    jsonProperty "reason" (some (quoteJsonString (utf16 "not_serializable"))))

/-- `safeJsonStringify(call.input)` -/
def StreamedToolCall.encodedInput (call : StreamedToolCall) : Text :=
  match call.json with
  | some (some json) => json
  | some none => utf16 "null"
  | none => redactedToolInput

/-- `runtimeResourceLimitError`, or what `onText` has thrown. -/
inductive AccumulatorError where
  | resourceLimit (resource unit : String) (limit : Nat)
  | onText
  deriving DecidableEq, Repr

structure PipelineLlmAccumulator where
  toolCalls : List LlmInlineToolCall := []
  seenToolRefs : List Text := []
  text : Text := []
  textBytes : Nat := 0
  eventCount : Nat := 0
  toolArgumentBytes : Nat := 0
  deriving DecidableEq, Repr

namespace PipelineLlmAccumulator

/-- A call leaves a state and resolves or throws. -/
abbrev Outcome := PipelineLlmAccumulator × Except AccumulatorError Unit

def fail (accumulator : PipelineLlmAccumulator) (resource unit : String) (limit : Nat) : Outcome :=
  (accumulator, .error (.resourceLimit resource unit limit))

def recordEvent (accumulator : PipelineLlmAccumulator) : Outcome :=
  let counted := { accumulator with eventCount := accumulator.eventCount + 1 }
  if maxRuntimeLlmEvents < counted.eventCount then
    counted.fail "LLM stream events" "events" maxRuntimeLlmEvents
  else (counted, .ok ())

/-- `onText` is told of the text when it has been taken, and may throw. -/
def appendText (accumulator : PipelineLlmAccumulator) (value : Text) (onTextThrows : Bool) : Outcome :=
  let bytes := utf8Bytes value
  if maxRuntimeLlmOutputBytes < accumulator.textBytes + bytes then
    accumulator.fail "LLM output" "bytes" maxRuntimeLlmOutputBytes
  else
    ({ accumulator with text := accumulator.text ++ value, textBytes := accumulator.textBytes + bytes },
      if onTextThrows then .error .onText else .ok ())

def addToolCall (accumulator : PipelineLlmAccumulator) (call : StreamedToolCall) : Outcome :=
  let callRefBytes := utf8Bytes call.callRef
  let toolNameBytes := utf8Bytes call.toolName
  if maxRuntimeLlmToolFieldBytes < callRefBytes ∨ maxRuntimeLlmToolFieldBytes < toolNameBytes then
    accumulator.fail "LLM tool-call fields" "bytes" maxRuntimeLlmToolFieldBytes
  else
    let inputBytes := utf8Bytes call.encodedInput
    if maxRuntimeLlmToolArgumentBytes < inputBytes ∨
        maxRuntimeLlmToolArgumentBytes < accumulator.toolArgumentBytes + inputBytes then
      accumulator.fail "LLM tool arguments" "bytes" maxRuntimeLlmToolArgumentBytes
    else if call.callRef ∈ accumulator.seenToolRefs then (accumulator, .ok ())
    else if maxRuntimeLlmToolCalls ≤ accumulator.toolCalls.length then
      accumulator.fail "LLM tool calls" "calls" maxRuntimeLlmToolCalls
    else
      -- an input is kept as the JSON it is parsed from
      let boundedInput := if call.stable then call.encodedInput else redactedToolInput
      ({ accumulator with
          toolCalls := accumulator.toolCalls ++ [⟨call.callRef, call.toolName, some boundedInput⟩]
          seenToolRefs := accumulator.seenToolRefs ++ [call.callRef]
          toolArgumentBytes := accumulator.toolArgumentBytes + inputBytes }, .ok ())

/-- The loop of `complete`. -/
def addToolCalls (accumulator : PipelineLlmAccumulator) : List StreamedToolCall → Outcome
  | [] => (accumulator, .ok ())
  | call :: rest =>
    match accumulator.addToolCall call with
    | (next, .ok ()) => next.addToolCalls rest
    | refused => refused

/-- The text of a completion is taken if none has come. -/
def completeText (accumulator : PipelineLlmAccumulator) (text : Text) (onTextThrows : Bool) : Outcome :=
  if maxRuntimeLlmOutputBytes < utf8Bytes text then
    accumulator.fail "LLM completion text" "bytes" maxRuntimeLlmOutputBytes
  else if accumulator.text = [] ∧ text ≠ [] then accumulator.appendText text onTextThrows
  else (accumulator, .ok ())

def complete (accumulator : PipelineLlmAccumulator) (text : Text) (calls : List StreamedToolCall)
    (onTextThrows : Bool) : Outcome :=
  match accumulator.completeText text onTextThrows with
  | (next, .ok ()) => next.addToolCalls calls
  | refused => refused

end PipelineLlmAccumulator

inductive AccumulatorCall where
  | recordEvent
  | appendText (value : Text) (onTextThrows : Bool)
  | addToolCall (call : StreamedToolCall)
  | complete (text : Text) (calls : List StreamedToolCall) (onTextThrows : Bool)
  deriving DecidableEq, Repr

namespace PipelineLlmAccumulator

def perform (accumulator : PipelineLlmAccumulator) : AccumulatorCall → Outcome
  | .recordEvent => accumulator.recordEvent
  | .appendText value onTextThrows => accumulator.appendText value onTextThrows
  | .addToolCall call => accumulator.addToolCall call
  | .complete text calls onTextThrows => accumulator.complete text calls onTextThrows

def step (accumulator : PipelineLlmAccumulator) (call : AccumulatorCall) : PipelineLlmAccumulator :=
  (accumulator.perform call).1

def after (calls : List AccumulatorCall) : PipelineLlmAccumulator := Lib.run step {} calls

/-! ## What is added -/

variable {accumulator : PipelineLlmAccumulator} {call : StreamedToolCall}

/-- The fields and the input of the call are within their limits. -/
def Fits (accumulator : PipelineLlmAccumulator) (call : StreamedToolCall) : Prop :=
  utf8Bytes call.callRef ≤ maxRuntimeLlmToolFieldBytes ∧
    utf8Bytes call.toolName ≤ maxRuntimeLlmToolFieldBytes ∧
    accumulator.toolArgumentBytes + utf8Bytes call.encodedInput ≤ maxRuntimeLlmToolArgumentBytes

/-- What a call can do: it is refused and changes nothing, it is known and changes nothing, or it is the
last call from then on. -/
inductive Added (accumulator : PipelineLlmAccumulator) (call : StreamedToolCall) : Outcome → Prop
  | refused (error : AccumulatorError)
    (beyond : ¬ accumulator.Fits call ∨ call.callRef ∉ accumulator.seenToolRefs) :
    Added accumulator call (accumulator, .error error)
  | known (fits : accumulator.Fits call) (seen : call.callRef ∈ accumulator.seenToolRefs) :
    Added accumulator call (accumulator, .ok ())
  | new (added : LlmInlineToolCall) (fits : accumulator.Fits call)
    (unseen : call.callRef ∉ accumulator.seenToolRefs) (ref : added.callRef = call.callRef) :
    Added accumulator call
      ({ accumulator with
          toolCalls := accumulator.toolCalls ++ [added]
          seenToolRefs := accumulator.seenToolRefs ++ [call.callRef]
          toolArgumentBytes := accumulator.toolArgumentBytes + utf8Bytes call.encodedInput }, .ok ())

theorem addToolCall_added (accumulator : PipelineLlmAccumulator) (call : StreamedToolCall) :
    accumulator.Added call (accumulator.addToolCall call) := by
  unfold addToolCall
  dsimp only
  split
  next beyond =>
    refine .refused _ (.inl fun fits => ?_)
    rcases beyond with ref | name
    · exact Nat.not_lt.mpr fits.1 ref
    · exact Nat.not_lt.mpr fits.2.1 name
  next fields =>
    split
    next beyond =>
      refine .refused _ (.inl fun fits => ?_)
      have within := fits.2.2
      omega
    next room =>
      have fits : accumulator.Fits call := by
        rw [not_or, Nat.not_lt, Nat.not_lt] at fields room
        exact ⟨fields.1, fields.2, room.2⟩
      split
      next seen => exact .known fits seen
      next unseen =>
        split
        · exact .refused _ (.inr unseen)
        · exact .new _ fits unseen rfl

theorem addToolCall_eq_iff (seen : call.callRef ∈ accumulator.seenToolRefs) :
    accumulator.addToolCall call = (accumulator, .ok ()) ↔ accumulator.Fits call := by
  have added := accumulator.addToolCall_added call
  generalize accumulator.addToolCall call = outcome at added
  cases added with
  | refused error beyond =>
    refine ⟨nofun, fun fits => ?_⟩
    rcases beyond with beyond | unseen
    · exact absurd fits beyond
    · exact absurd seen unseen
  | known fits => exact ⟨fun _ => fits, fun _ => rfl⟩
  | new _ _ unseen => exact absurd seen unseen

/-! ## Whole runs -/

/-- The references of the calls that are taken, known ones included. -/
def takenRefs (accumulator : PipelineLlmAccumulator) : List StreamedToolCall → List Text
  | [] => []
  | call :: rest =>
    match accumulator.addToolCall call with
    | (next, .ok ()) => call.callRef :: next.takenRefs rest
    | _ => []

def taken (accumulator : PipelineLlmAccumulator) : AccumulatorCall → List Text
  | .addToolCall call => accumulator.takenRefs [call]
  | .complete text calls onTextThrows =>
    match accumulator.completeText text onTextThrows with
    | (next, .ok ()) => next.takenRefs calls
    | _ => []
  | .recordEvent | .appendText .. => []

/-- The references that were taken in a run, in turn. -/
def refsTaken (calls : List AccumulatorCall) : List Text :=
  (Lib.history step (fun accumulator call => some (accumulator.taken call)) {} calls).flatten

/-- The calls are recorded under their references, each once and in the order they were taken first, and
the counters are within their limits. -/
structure Accounts (accumulator : PipelineLlmAccumulator) (taken : List Text) : Prop where
  refs : accumulator.toolCalls.map LlmInlineToolCall.callRef = accumulator.seenToolRefs
  firstTaken : accumulator.seenToolRefs = taken.eraseDups
  distinct : accumulator.seenToolRefs.Nodup
  textBytes : accumulator.textBytes ≤ maxRuntimeLlmOutputBytes
  toolArgumentBytes : accumulator.toolArgumentBytes ≤ maxRuntimeLlmToolArgumentBytes

variable {taken : List Text}

variable {next : PipelineLlmAccumulator}

theorem Accounts.added (accounts : accumulator.Accounts taken)
    (added : accumulator.addToolCall call = (next, .ok ())) : next.Accounts (taken ++ [call.callRef]) := by
  have cases_ := accumulator.addToolCall_added call
  rw [added] at cases_
  generalize result : (next, Except.ok ()) = outcome at cases_
  cases cases_ with
  | refused => cases result
  | known _ seen =>
    cases result
    refine { accounts with firstTaken := ?_ }
    -- it has been taken before
    have before : call.callRef ∈ taken := by
      rw [accounts.firstTaken, List.mem_eraseDups] at seen
      exact seen
    simp [List.eraseDups_append, List.removeAll, before, accounts.firstTaken]
  | new added fits unseen ref =>
    cases result
    have notBefore : call.callRef ∉ taken := by
      rw [accounts.firstTaken, List.mem_eraseDups] at unseen
      exact unseen
    refine ⟨?_, ?_, ?_, accounts.textBytes, fits.2.2⟩
    · rw [List.map_append, List.map_singleton, accounts.refs, ref]
    · simp [List.eraseDups_append, List.removeAll, notBefore, accounts.firstTaken, List.eraseDups_cons]
    · exact List.Nodup.append accounts.distinct (List.nodup_singleton _)
        (List.disjoint_singleton.mpr unseen)

theorem addToolCall_error {error : AccumulatorError}
    (refused : accumulator.addToolCall call = (next, .error error)) : next = accumulator := by
  have cases_ := accumulator.addToolCall_added call
  rw [refused] at cases_
  generalize result : (next, Except.error error) = outcome at cases_
  cases cases_ <;> cases result
  rfl

theorem Accounts.addToolCalls (accounts : accumulator.Accounts taken) (calls : List StreamedToolCall) :
    (accumulator.addToolCalls calls).1.Accounts (taken ++ accumulator.takenRefs calls) := by
  induction calls generalizing accumulator taken with
  | nil =>
    rw [takenRefs, List.append_nil]
    exact accounts
  | cons call rest ih =>
    rw [PipelineLlmAccumulator.addToolCalls, takenRefs]
    rcases result : accumulator.addToolCall call with ⟨next, error | _⟩
    · rw [addToolCall_error result, List.append_nil]
      exact accounts
    · rw [List.append_cons]
      exact ih (accounts.added result)

theorem Accounts.appendText (accounts : accumulator.Accounts taken) (value : Text) (onTextThrows : Bool) :
    (accumulator.appendText value onTextThrows).1.Accounts taken := by
  unfold PipelineLlmAccumulator.appendText
  dsimp only
  split
  next => exact accounts
  next within => exact { accounts with textBytes := Nat.not_lt.mp within }

theorem Accounts.completeText (accounts : accumulator.Accounts taken) (text : Text) (onTextThrows : Bool) :
    (accumulator.completeText text onTextThrows).1.Accounts taken := by
  unfold PipelineLlmAccumulator.completeText
  split
  · exact accounts
  · split
    · exact accounts.appendText text onTextThrows
    · exact accounts

theorem Accounts.step (accounts : accumulator.Accounts taken) (call : AccumulatorCall) :
    (accumulator.step call).Accounts (taken ++ accumulator.taken call) := by
  cases call with
  | recordEvent =>
    rw [PipelineLlmAccumulator.taken, List.append_nil, PipelineLlmAccumulator.step, perform,
      PipelineLlmAccumulator.recordEvent]
    dsimp only
    split
    · exact { accounts with }
    · exact { accounts with }
  | appendText value onTextThrows =>
    rw [PipelineLlmAccumulator.taken, List.append_nil]
    exact accounts.appendText value onTextThrows
  | addToolCall call =>
    have added := accounts.addToolCalls [call]
    rw [PipelineLlmAccumulator.addToolCalls] at added
    rw [PipelineLlmAccumulator.taken, PipelineLlmAccumulator.step, perform]
    rcases result : accumulator.addToolCall call with ⟨next, error | _⟩
    · rw [result] at added
      exact added
    · rw [result] at added
      exact added
  | complete text calls onTextThrows =>
    have completed := accounts.completeText text onTextThrows
    rw [PipelineLlmAccumulator.taken, PipelineLlmAccumulator.step, perform, PipelineLlmAccumulator.complete]
    rcases result : accumulator.completeText text onTextThrows with ⟨next, error | _⟩
    · rw [result] at completed
      rw [List.append_nil]
      exact completed
    · rw [result] at completed
      exact completed.addToolCalls calls

theorem after_accounts (calls : List AccumulatorCall) : (after calls).Accounts (refsTaken calls) := by
  induction calls using List.reverseRecOn with
  | nil => exact ⟨rfl, rfl, List.nodup_nil, Nat.zero_le _, Nat.zero_le _⟩
  | append_singleton calls last ih =>
    rw [after, refsTaken, Lib.run_snoc, Lib.history_snoc, List.flatten_append]
    simp only [Option.toList_some, List.flatten_singleton]
    exact ih.step last

theorem addToolCalls_eq_iff {calls : List StreamedToolCall}
    (seen : ∀ call ∈ calls, call.callRef ∈ accumulator.seenToolRefs) :
    accumulator.addToolCalls calls = (accumulator, .ok ()) ↔ ∀ call ∈ calls, accumulator.Fits call := by
  induction calls with
  | nil => exact ⟨fun _ => nofun, fun _ => rfl⟩
  | cons call rest ih =>
    rw [List.forall_mem_cons] at seen
    have again := addToolCall_eq_iff seen.1
    rw [List.forall_mem_cons, ← ih seen.2, ← again, PipelineLlmAccumulator.addToolCalls]
    rcases result : accumulator.addToolCall call with ⟨next, error | _⟩
    · exact ⟨nofun, fun fits => absurd fits.1 nofun⟩
    · -- a known call is not recorded again
      have same : next = accumulator := by
        have added := accumulator.addToolCall_added call
        rw [result] at added
        generalize outcome_eq : (next, Except.ok ()) = outcome at added
        cases added with
        | refused => cases outcome_eq
        | known => exact congrArg Prod.fst outcome_eq
        | new _ _ unseen => exact absurd seen.1 unseen
      rw [same]
      exact ⟨fun rest => ⟨rfl, rest⟩, fun both => both.2⟩

/-- After any calls, the recorded references are distinct and in the order in which they were taken first,
and the counters are within their limits. A recorded call is taken again without effect, by itself or with
a completion, exactly if it is within the limits once more. -/
theorem llm_accumulator (calls : List AccumulatorCall) :
    (∀ call : StreamedToolCall, call.callRef ∈ (after calls).toolCalls.map LlmInlineToolCall.callRef →
      ((after calls).addToolCall call = (after calls, .ok ()) ↔ (after calls).Fits call)) ∧
    (∀ (text : Text) (again : List StreamedToolCall) (onTextThrows : Bool),
      (after calls).completeText text onTextThrows = (after calls, .ok ()) →
      (∀ call ∈ again, call.callRef ∈ (after calls).toolCalls.map LlmInlineToolCall.callRef) →
      ((after calls).complete text again onTextThrows = (after calls, .ok ()) ↔
        ∀ call ∈ again, (after calls).Fits call)) ∧
    ((after calls).toolCalls.map LlmInlineToolCall.callRef).Nodup ∧
    (after calls).toolCalls.map LlmInlineToolCall.callRef = (refsTaken calls).eraseDups ∧
    (after calls).textBytes ≤ maxRuntimeLlmOutputBytes ∧
    (after calls).toolArgumentBytes ≤ maxRuntimeLlmToolArgumentBytes := by
  have accounts := after_accounts calls
  rw [accounts.refs]
  refine ⟨fun call seen => addToolCall_eq_iff seen, fun text again onTextThrows completed seen => ?_,
    accounts.distinct, accounts.firstTaken, accounts.textBytes, accounts.toolArgumentBytes⟩
  rw [complete, completed]
  exact addToolCalls_eq_iff seen

/-! ## A large completion -/

/-- A JSON string of so many letters. -/
def letters (count : Nat) : Text := 34 :: (List.replicate count 97 ++ [34])

theorem letters_bytes (count : Nat) : utf8Bytes (letters count) = count + 2 := by
  rw [letters, Lib.utf8Bytes_ascii]
  · simp
  · intro unit member
    simp only [List.mem_cons, List.mem_append, List.mem_replicate, List.not_mem_nil, or_false] at member
    rcases member with rfl | ⟨-, rfl⟩ | rfl <;> decide

def lettersCall (count : Nat) : StreamedToolCall where
  callRef := [49]
  toolName := [116]
  json := some (some (letters count))
  stable := true

theorem shortField_bytes (unit : UInt16) (ascii : unit < 0x80) :
    utf8Bytes [unit] ≤ maxRuntimeLlmToolFieldBytes := by
  rw [Lib.utf8Bytes_ascii (List.forall_mem_singleton.mpr ascii), List.length_singleton]
  decide

theorem fits_lettersCall {count : Nat} :
    accumulator.Fits (lettersCall count) ↔
      accumulator.toolArgumentBytes + (count + 2) ≤ maxRuntimeLlmToolArgumentBytes := by
  have encoded : (lettersCall count).encodedInput = letters count := rfl
  rw [Fits, encoded, letters_bytes]
  exact ⟨fun fits => fits.2.2,
    fun fits => ⟨shortField_bytes 49 (by decide), shortField_bytes 116 (by decide), fits⟩⟩

theorem after_lettersCall {count : Nat} (fits : count + 2 ≤ maxRuntimeLlmToolArgumentBytes) :
    after [.addToolCall (lettersCall count)] =
      { toolCalls := [⟨[49], [116], some (letters count)⟩], seenToolRefs := [[49]],
        toolArgumentBytes := count + 2 } := by
  have fields : ¬ (maxRuntimeLlmToolFieldBytes < utf8Bytes (lettersCall count).callRef ∨
      maxRuntimeLlmToolFieldBytes < utf8Bytes (lettersCall count).toolName) := by
    rw [not_or, Nat.not_lt, Nat.not_lt]
    exact ⟨shortField_bytes 49 (by decide), shortField_bytes 116 (by decide)⟩
  have within : ¬ (maxRuntimeLlmToolArgumentBytes < count + 2 ∨
      maxRuntimeLlmToolArgumentBytes < 0 + (count + 2)) := by omega
  have encoded : (lettersCall count).encodedInput = letters count := rfl
  rw [after, Lib.run_cons, Lib.run_nil, step, perform, addToolCall, encoded, letters_bytes]
  dsimp only
  rw [if_neg fields, if_neg within, if_neg (by simp), if_neg (by decide)]
  simp [lettersCall]

theorem lettersCall_overflows {count : Nat} (fits : count + 2 ≤ maxRuntimeLlmToolArgumentBytes)
    (large : maxRuntimeLlmToolArgumentBytes < count + 2 + (count + 2)) :
    (lettersCall count).callRef ∈
        (after [.addToolCall (lettersCall count)]).toolCalls.map LlmInlineToolCall.callRef ∧
      (after [.addToolCall (lettersCall count)]).complete [] [lettersCall count] false ≠
        (after [.addToolCall (lettersCall count)], .ok ()) := by
  have once := after_lettersCall fits
  have seen : (lettersCall count).callRef ∈ (after [.addToolCall (lettersCall count)]).seenToolRefs := by
    rw [once]
    exact List.mem_singleton_self _
  have noText : (after [.addToolCall (lettersCall count)]).completeText [] false =
      (after [.addToolCall (lettersCall count)], .ok ()) := by
    rw [completeText, if_neg (by decide), if_neg (by simp)]
  refine ⟨by rw [(after_accounts _).refs]; exact seen, fun completed => ?_⟩
  rw [complete, noText] at completed
  have again := (addToolCalls_eq_iff (List.forall_mem_singleton.mpr seen)).mp completed _
    List.mem_cons_self
  rw [fits_lettersCall, once] at again
  exact Nat.not_lt.mpr again large

/-- A streamed call with a string of 600000 letters. -/
theorem lettersCall_refused :
    (lettersCall 600000).callRef ∈
        (after [.addToolCall (lettersCall 600000)]).toolCalls.map LlmInlineToolCall.callRef ∧
      (after [.addToolCall (lettersCall 600000)]).complete [] [lettersCall 600000] false ≠
        (after [.addToolCall (lettersCall 600000)], .ok ()) :=
  lettersCall_overflows (by decide) (by decide)

end PipelineLlmAccumulator

end Tvic
