import Tvic.Runtime.ConversationHistory

/-!
# What an LLM is asked

`messagesForTranscript` and `messagesForToolContinuation`: the system message, as many pairs of the history
as fit before what has to be asked, and that. A continuation takes its history from the request it
continues.
-/
namespace Tvic

open Lib (Text longestSuffix ClosedBudget)

/-- The validation errors with the code `llm.context_limit`, with what their messages are made from. -/
inductive ContextLimit where
  | contextLimitError (maxBytes maxMessages requiredBytes requiredMessages : Nat)
  | noSystemInstruction
  | noUserMessage
  deriving DecidableEq, Repr

/-- The loop of `#buildRequest`: from the pair at `index` backwards, what is retained so far. -/
def retainLoop (maxHistoryBytes maxHistoryMessages : Nat) (history : List LlmMessage) (index : Int)
    (bytes messages : Nat) (retained : List LlmMessage) : List LlmMessage :=
  if index < 0 then retained
  else
    let pair := (history.drop index.toNat).take 2
    if pair.length ≠ 2 then
      retainLoop maxHistoryBytes maxHistoryMessages history (index - 2) bytes messages retained
    else
      let pairBytes := (pair.map messageBytes).sum
      if maxHistoryMessages < messages + pair.length ∨ maxHistoryBytes < bytes + pairBytes then
        retained
      else
        retainLoop maxHistoryBytes maxHistoryMessages history (index - 2) (bytes + pairBytes)
          (messages + pair.length) (pair ++ retained)
termination_by (index + 2).toNat

namespace ConversationPolicy

variable {C : Type}

def buildRequest (policy : ConversationPolicy C) (current : LlmMessage) (history active : List LlmMessage) :
    Except ContextLimit (List LlmMessage) :=
  match policy.history with
  | [] => .error .noSystemInstruction
  | system :: _ =>
    let required := system :: current :: active
    let requiredBytes := (required.map messageBytes).sum
    if policy.maxHistoryMessages < required.length ∨ policy.maxHistoryBytes < requiredBytes then
      .error (.contextLimitError policy.maxHistoryBytes policy.maxHistoryMessages requiredBytes
        required.length)
    else
      .ok (system :: retainLoop policy.maxHistoryBytes policy.maxHistoryMessages history
        (history.length - 2) requiredBytes required.length [] ++ current :: active)

def userMessage (transcript : Text) : LlmMessage := { role := .user, content := transcript }

def messagesForTranscript (policy : ConversationPolicy C) (transcript : Text) :
    Except ContextLimit (List LlmMessage) :=
  policy.buildRequest (userMessage transcript) (policy.history.drop 1) []

def callingMessage (assistantText : Text) (assistantToolCalls : List LlmInlineToolCall) : LlmMessage :=
  { role := .assistant, content := assistantText
    toolCalls := if assistantToolCalls.length > 0 then some assistantToolCalls else none }

def messagesForToolContinuation (policy : ConversationPolicy C) (messages : List LlmMessage)
    (assistantText : Text) (toolMessages : List LlmMessage)
    (assistantToolCalls : List LlmInlineToolCall) : Except ContextLimit (List LlmMessage) :=
  match messages.head?, messages.getLast? with
  | some system, some current =>
    if system.role ≠ .system ∨ current.role ≠ .user then .error .noUserMessage
    else
      -- `messages.slice(1, -1)`
      policy.buildRequest current (messages.drop 1).dropLast
        (callingMessage assistantText assistantToolCalls :: toolMessages)
  | _, _ => .error .noUserMessage

end ConversationPolicy

/-! ## The loop -/

def fitsBeside (maxHistoryBytes maxHistoryMessages requiredBytes requiredMessages : Nat)
    (pairs : List TurnPair) : Bool :=
  requiredMessages + 2 * pairs.length ≤ maxHistoryMessages ∧
    requiredBytes + (pairs.map TurnPair.bytes).sum ≤ maxHistoryBytes

section

variable {maxHistoryBytes maxHistoryMessages requiredBytes requiredMessages : Nat}

theorem fitsBeside_cons {pair : TurnPair} {pairs : List TurnPair} :
    fitsBeside maxHistoryBytes maxHistoryMessages requiredBytes requiredMessages (pair :: pairs) = true ↔
      requiredMessages + 2 * pairs.length + 2 ≤ maxHistoryMessages ∧
        requiredBytes + (pairs.map TurnPair.bytes).sum + pair.bytes ≤ maxHistoryBytes := by
  simp only [fitsBeside, List.length_cons, List.map_cons, List.sum_cons, decide_eq_true_eq]
  omega

theorem fitsBeside_closed :
    ClosedBudget (fitsBeside maxHistoryBytes maxHistoryMessages requiredBytes requiredMessages) := by
  intro first rest fit
  rw [fitsBeside_cons] at fit
  simp only [fitsBeside, decide_eq_true_eq]
  omega

theorem messages_pair_at (before : List TurnPair) (pair : TurnPair) (later : List TurnPair) :
    (((before ++ pair :: later).flatMap TurnPair.messages).drop (2 * before.length)).take 2 =
      pair.messages := by
  rw [← messages_flatMap_length before, List.flatMap_append, List.drop_left, List.flatMap_cons]
  exact List.take_left' (TurnPair.messages_length pair)

theorem retainLoop_eq (before kept : List TurnPair)
    (fit : kept = [] ∨
      fitsBeside maxHistoryBytes maxHistoryMessages requiredBytes requiredMessages kept = true) :
    retainLoop maxHistoryBytes maxHistoryMessages ((before ++ kept).flatMap TurnPair.messages)
        (2 * before.length - 2) (requiredBytes + (kept.map TurnPair.bytes).sum)
        (requiredMessages + 2 * kept.length) (kept.flatMap TurnPair.messages) =
      (longestSuffix (fitsBeside maxHistoryBytes maxHistoryMessages requiredBytes requiredMessages)
        (before ++ kept)).flatMap TurnPair.messages := by
  -- the pairs are taken from the back
  induction before using List.reverseRecOn generalizing kept with
  | nil =>
    have whole : longestSuffix
        (fitsBeside maxHistoryBytes maxHistoryMessages requiredBytes requiredMessages) kept = kept := by
      rcases fit with rfl | fit
      · rfl
      · exact Lib.longestSuffix_of_fits fit
    rw [retainLoop, if_pos (by simp), List.nil_append, whole]
  | append_singleton before pair ih =>
    have index : (2 * (before ++ [pair]).length - 2 : Int) = (2 * before.length : Nat) := by
      rw [List.length_append, List.length_singleton]
      omega
    have split : before ++ [pair] ++ kept = before ++ pair :: kept := by simp
    have size : (pair.messages.map messageBytes).sum = pair.bytes := rfl
    rw [index, split, retainLoop, if_neg (by omega), Int.toNat_natCast, messages_pair_at]
    dsimp only
    rw [TurnPair.messages_length, if_neg (by simp), size]
    by_cases beyond : maxHistoryMessages < requiredMessages + 2 * kept.length + 2 ∨
        maxHistoryBytes < requiredBytes + (kept.map TurnPair.bytes).sum + pair.bytes
    · -- this pair is too much, and the loop stops
      have tooMuch : fitsBeside maxHistoryBytes maxHistoryMessages requiredBytes requiredMessages
          (pair :: kept) = false := by
        rw [← Bool.not_eq_true, fitsBeside_cons]
        omega
      rw [if_pos beyond, Lib.longestSuffix_stop fitsBeside_closed before fit tooMuch]
    · have fits : fitsBeside maxHistoryBytes maxHistoryMessages requiredBytes requiredMessages
          (pair :: kept) = true := by
        rw [fitsBeside_cons]
        omega
      have bytes : requiredBytes + (kept.map TurnPair.bytes).sum + pair.bytes =
          requiredBytes + ((pair :: kept).map TurnPair.bytes).sum := by
        rw [List.map_cons, List.sum_cons]
        omega
      have messages : requiredMessages + 2 * kept.length + 2 =
          requiredMessages + 2 * (pair :: kept).length := by
        rw [List.length_cons]
        omega
      have step : ((2 * before.length : Nat) - 2 : Int) = 2 * before.length - 2 := by omega
      rw [if_neg beyond, bytes, messages, step, ← List.flatMap_cons]
      exact ih (pair :: kept) (.inr fits)

theorem retainLoop_pairs (pairs : List TurnPair) :
    retainLoop maxHistoryBytes maxHistoryMessages (pairs.flatMap TurnPair.messages)
        ((pairs.flatMap TurnPair.messages).length - 2) requiredBytes requiredMessages [] =
      (longestSuffix (fitsBeside maxHistoryBytes maxHistoryMessages requiredBytes requiredMessages)
        pairs).flatMap TurnPair.messages := by
  have index : ((pairs.flatMap TurnPair.messages).length - 2 : Int) = 2 * pairs.length - 2 := by
    rw [messages_flatMap_length]
    omega
  have loop := @retainLoop_eq maxHistoryBytes maxHistoryMessages requiredBytes requiredMessages pairs []
    (.inl rfl)
  rw [List.append_nil] at loop
  rw [index]
  exact loop

end

/-! ## Requests -/

namespace ConversationPolicy

variable {C : Type} {policy : ConversationPolicy C}

/-- The messages are within both budgets. -/
def FitsContext (policy : ConversationPolicy C) (messages : List LlmMessage) : Prop :=
  messages.length ≤ policy.maxHistoryMessages ∧ historyBytes messages ≤ policy.maxHistoryBytes

/-- What is to be made of the pairs of a history and what has to be asked. -/
inductive Builds (policy : ConversationPolicy C) (system : LlmMessage) (pairs : List TurnPair)
    (current : LlmMessage) (active : List LlmMessage) : Except ContextLimit (List LlmMessage) → Prop
  | exceeds (exceeds : ¬ policy.FitsContext (system :: current :: active)) :
    Builds policy system pairs current active
      (.error (.contextLimitError policy.maxHistoryBytes policy.maxHistoryMessages
        (historyBytes (system :: current :: active)) (system :: current :: active).length))
  | retains (retained : List TurnPair) (fits : policy.FitsContext (system :: current :: active))
    (request : policy.FitsContext (system :: retained.flatMap TurnPair.messages ++ current :: active))
    (suffix : retained <:+ pairs)
    (longest : ∀ longer, longer <:+ pairs →
      policy.FitsContext (system :: longer.flatMap TurnPair.messages ++ current :: active) →
        longer <:+ retained) :
    Builds policy system pairs current active
      (.ok (system :: retained.flatMap TurnPair.messages ++ current :: active))

theorem fitsContext_iff {system current : LlmMessage} {active : List LlmMessage} {pairs : List TurnPair} :
    policy.FitsContext (system :: pairs.flatMap TurnPair.messages ++ current :: active) ↔
      fitsBeside policy.maxHistoryBytes policy.maxHistoryMessages (historyBytes (system :: current :: active))
        (system :: current :: active).length pairs = true := by
  have bytes := messages_flatMap_bytes pairs
  have messages := messages_flatMap_length pairs
  simp only [historyBytes] at bytes
  simp only [FitsContext, fitsBeside, historyBytes, List.length_append, List.length_cons, List.map_append,
    List.map_cons, List.sum_append, List.sum_cons, decide_eq_true_eq, bytes, messages]
  omega

theorem buildRequest_builds {system : LlmMessage} {rest : List LlmMessage}
    (history : policy.history = system :: rest) (pairs : List TurnPair) (current : LlmMessage)
    (active : List LlmMessage) :
    policy.Builds system pairs current active
      (policy.buildRequest current (pairs.flatMap TurnPair.messages) active) := by
  rw [buildRequest, history]
  dsimp only
  split
  next beyond =>
    refine .exceeds fun fits => ?_
    rcases beyond with messages | bytes
    · exact Nat.not_lt.mpr fits.1 messages
    · exact Nat.not_lt.mpr fits.2 bytes
  next within =>
    rw [not_or, Nat.not_lt, Nat.not_lt] at within
    rw [retainLoop_pairs]
    refine .retains _ within ?_ (Lib.longestSuffix_suffix pairs) fun longer suffix fits => ?_
    · -- what has to be asked fits, also if no pair does
      rw [fitsContext_iff]
      by_cases none_ : longestSuffix (fitsBeside policy.maxHistoryBytes policy.maxHistoryMessages
          ((system :: current :: active).map messageBytes).sum (system :: current :: active).length)
            pairs = []
      · rw [none_, ← fitsContext_iff]
        exact within
      · exact Lib.longestSuffix_fits none_
    · exact Lib.longestSuffix_longest suffix (fitsContext_iff.mp fits)

theorem FitsContext.of_active {before active : List LlmMessage} {current : LlmMessage}
    (fits : policy.FitsContext (before ++ current :: active)) : policy.FitsContext (before ++ [current]) := by
  simp only [FitsContext, historyBytes, List.length_append, List.length_cons, List.map_append, List.map_cons,
    List.sum_append, List.sum_cons, List.length_nil, List.map_nil, List.sum_nil] at fits ⊢
  omega

/-- What is retained of the pairs of a request is what would be retained of the whole history, if the
system message is the one it was asked with. -/
theorem Builds.of_requested {system current : LlmMessage} {pairs requested : List TurnPair}
    {active : List LlmMessage} {result : Except ContextLimit (List LlmMessage)}
    (within : requested <:+ pairs)
    (asked : ∀ longer, longer <:+ pairs →
      policy.FitsContext (system :: longer.flatMap TurnPair.messages ++ [current]) → longer <:+ requested)
    (builds : policy.Builds system requested current active result) :
    policy.Builds system pairs current active result := by
  cases builds with
  | exceeds exceeds => exact .exceeds exceeds
  | retains retained fits request suffix longest =>
    exact .retains retained fits request (suffix.trans within)
      fun longer longerWithin longerFits =>
        longest longer (asked longer longerWithin longerFits.of_active) longerFits

theorem messagesForToolContinuation_request (system : LlmMessage) (system_role : system.role = .system)
    (pairs : List TurnPair) (transcript assistantText : Text) (toolMessages : List LlmMessage)
    (assistantToolCalls : List LlmInlineToolCall) :
    policy.messagesForToolContinuation
        (system :: pairs.flatMap TurnPair.messages ++ [userMessage transcript]) assistantText toolMessages
        assistantToolCalls =
      policy.buildRequest (userMessage transcript) (pairs.flatMap TurnPair.messages)
        (callingMessage assistantText assistantToolCalls :: toolMessages) := by
  have middle : ((system :: pairs.flatMap TurnPair.messages ++ [userMessage transcript]).drop 1).dropLast =
      pairs.flatMap TurnPair.messages := by
    rw [List.cons_append, List.drop_one, List.tail_cons, List.dropLast_concat]
  rw [messagesForToolContinuation, middle, List.getLast?_concat, List.cons_append, List.head?_cons]
  dsimp only
  rw [if_neg (by simp [system_role, userMessage])]

variable {format : C → Nat → Text} {localeCompare : Text → Text → Ordering}

theorem fitsContext_after (calls : List PolicyCall) (messages : List LlmMessage) :
    (policy.after format localeCompare calls).FitsContext messages ↔ policy.FitsContext messages := by
  have budgets : SameBudgets policy (policy.after format localeCompare calls) :=
    Lib.run_invariant _ (SameBudgets policy) (fun _ call same => same.step call) policy ⟨rfl, rfl⟩ calls
  rw [FitsContext, FitsContext, budgets.1, budgets.2]

/-- After any calls the history is the system message and whole pairs, and a request is built from these.
A request can be continued after more calls: from its own pairs, which are as good as the whole history
unless the system message has changed. -/
theorem context_request {options : ConversationPolicyOptions C} (opened : new format options = .ok policy)
    {calls : List PolicyCall} {asked : ConversationPolicy C}
    (asks : policy.after format localeCompare calls = asked) (transcript : Text) :
    ∃ pairs, asked.history = asked.systemMessage format :: pairs.flatMap TurnPair.messages ∧
      asked.Builds (asked.systemMessage format) pairs (userMessage transcript) []
        (asked.messagesForTranscript transcript) ∧
      ∀ request, asked.messagesForTranscript transcript = .ok request →
        ∃ requested, requested <:+ pairs ∧
          request = asked.systemMessage format ::
            requested.flatMap TurnPair.messages ++ [userMessage transcript] ∧
          ∀ (more : List PolicyCall) (continued : ConversationPolicy C) (assistantText : Text)
            (toolMessages : List LlmMessage) (assistantToolCalls : List LlmInlineToolCall),
            asked.after format localeCompare more = continued →
            continued.Builds (continued.systemMessage format) requested (userMessage transcript)
                (callingMessage assistantText assistantToolCalls :: toolMessages)
                (continued.messagesForToolContinuation request assistantText toolMessages
                  assistantToolCalls) ∧
              (continued.systemMessage format = asked.systemMessage format →
                continued.Builds (continued.systemMessage format) pairs (userMessage transcript)
                  (callingMessage assistantText assistantToolCalls :: toolMessages)
                  (continued.messagesForToolContinuation request assistantText toolMessages
                    assistantToolCalls)) := by
  subst asks
  obtain ⟨_, _, initial⟩ := new_eq_ok opened
  obtain ⟨pairs, remembers⟩ := @after_remembers _ format localeCompare _ _ initial calls
  have builds := buildRequest_builds remembers.history pairs (userMessage transcript) []
  have asks : (policy.after format localeCompare calls).messagesForTranscript transcript =
      (policy.after format localeCompare calls).buildRequest (userMessage transcript)
        (pairs.flatMap TurnPair.messages) [] := by
    rw [messagesForTranscript, remembers.history, List.drop_one, List.tail_cons]
  rw [asks]
  refine ⟨pairs, remembers.history, builds, fun request built => ?_⟩
  rw [built] at builds
  generalize made : Except.ok request = result at builds
  cases builds with
  | exceeds => cases made
  | retains requested _ _ within longest =>
    obtain rfl := Except.ok.inj made
    refine ⟨requested, within, rfl, ?_⟩
    rintro more _ assistantText toolMessages assistantToolCalls rfl
    have all : (policy.after format localeCompare calls).after format localeCompare more =
        policy.after format localeCompare (calls ++ more) := (Lib.run_append _ _ _ _).symm
    obtain ⟨_, continued⟩ := @after_remembers _ format localeCompare _ _ initial (calls ++ more)
    rw [← all] at continued
    have continues := buildRequest_builds continued.history requested (userMessage transcript)
      (callingMessage assistantText assistantToolCalls :: toolMessages)
    rw [messagesForToolContinuation_request _ rfl]
    refine ⟨continues, fun same => ?_⟩
    refine continues.of_requested within fun longer longerWithin fits => longest longer longerWithin ?_
    rw [same] at fits
    exact (fitsContext_after more _).mp fits

/-- A policy with room for four messages, after two turns. -/
def fourMessages : ConversationPolicy Unit :=
  after (fun _ _ => []) compare
    (trimHistory
      { baseSystemInstruction := [72], preCallContext := none, maxHistoryBytes := 32 * 1024,
        maxHistoryMessages := 4, maxPreCallBytes := 16 * 1024,
        history := [{ role := .system, content := [72] }] })
    [.recordTurn [97] [98], .recordTurn [99] [100]]

/-- The last turn is asked along with the next transcript, and left out when there is the answer of a tool
to be asked about. -/
theorem context_request_four :
    ∃ pairs,
      fourMessages.Builds { role := .system, content := [72] } pairs (userMessage [101]) []
        (.ok [{ role := .system, content := [72] }, userMessage [99],
          { role := .assistant, content := [100] }, userMessage [101]]) ∧
      ∃ requested, requested <:+ pairs ∧
        fourMessages.Builds { role := .system, content := [72] } requested (userMessage [101])
          [callingMessage [] [⟨[49], [116], none⟩], { role := .tool, content := [48] }]
          (.ok [{ role := .system, content := [72] }, userMessage [101],
            callingMessage [] [⟨[49], [116], none⟩], { role := .tool, content := [48] }]) := by
  have system : fourMessages.systemMessage (fun _ _ => []) = { role := .system, content := [72] } := by
    decide +kernel
  have asks : fourMessages.messagesForTranscript [101] =
      .ok [{ role := .system, content := [72] }, userMessage [99],
        { role := .assistant, content := [100] }, userMessage [101]] := by
    decide +kernel
  have asksAgain : fourMessages.messagesForToolContinuation
      [{ role := .system, content := [72] }, userMessage [99], { role := .assistant, content := [100] },
        userMessage [101]] [] [{ role := .tool, content := [48] }] [⟨[49], [116], none⟩] =
      .ok [{ role := .system, content := [72] }, userMessage [101],
        callingMessage [] [⟨[49], [116], none⟩], { role := .tool, content := [48] }] := by
    decide +kernel
  obtain ⟨pairs, _, builds, continues⟩ := @context_request Unit _ (fun _ _ => []) compare
    { instructions := [72], maxHistoryMessages := some (.int 4) } rfl
    [.recordTurn [97] [98], .recordTurn [99] [100]] fourMessages rfl [101]
  obtain ⟨requested, within, _, continued⟩ := continues _ asks
  have again := (continued [] fourMessages [] [{ role := .tool, content := [48] }]
    [⟨[49], [116], none⟩] rfl).1
  rw [system, asks] at builds
  rw [system, asksAgain] at again
  exact ⟨pairs, builds, requested, within, again⟩

end ConversationPolicy

end Tvic
