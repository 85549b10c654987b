import Tvic.Lib.LongestSuffix
import Tvic.Runtime.ConversationPolicy

/-!
# What a conversation policy remembers

The history is the system message and the longest suffix of the recorded pairs that fits both budgets
at the last trimming. `trimHistory_eq` says so of the loop; everything else follows from the algebra
of longest suffixes.
-/
namespace Tvic

open Lib (Text InsertionMap longestSuffix ClosedBudget)

/-- A recorded turn: what the user said and what the assistant answered. -/
structure TurnPair where
  transcript : Text
  assistantText : Text
  deriving DecidableEq, Repr

def TurnPair.messages (pair : TurnPair) : List LlmMessage :=
  [{ role := .user, content := pair.transcript }, { role := .assistant, content := pair.assistantText }]

def TurnPair.bytes (pair : TurnPair) : Nat := (pair.messages.map messageBytes).sum

def historyBytes (history : List LlmMessage) : Nat := (history.map messageBytes).sum

@[simp] theorem TurnPair.messages_length (pair : TurnPair) : pair.messages.length = 2 := rfl

theorem messages_flatMap_length (pairs : List TurnPair) :
    (pairs.flatMap TurnPair.messages).length = 2 * pairs.length := by
  induction pairs with
  | nil => rfl
  | cons pair rest ih =>
    rw [List.flatMap_cons, List.length_append, ih, TurnPair.messages_length, List.length_cons]
    omega

theorem messages_flatMap_bytes (pairs : List TurnPair) :
    historyBytes (pairs.flatMap TurnPair.messages) = (pairs.map TurnPair.bytes).sum := by
  induction pairs with
  | nil => rfl
  | cons pair rest ih =>
    rw [List.flatMap_cons, historyBytes, List.map_append, List.sum_append, List.map_cons,
      List.sum_cons, ← ih]
    rfl

/-- Whether pairs fit the budgets of a policy after a system message of the given size. -/
def fitsBudgets (maxHistoryBytes maxHistoryMessages systemBytes : Nat) (pairs : List TurnPair) : Bool :=
  1 + 2 * pairs.length ≤ maxHistoryMessages ∧
    systemBytes + (pairs.map TurnPair.bytes).sum ≤ maxHistoryBytes

theorem fitsBudgets_closed (maxHistoryBytes maxHistoryMessages systemBytes : Nat) :
    ClosedBudget (fitsBudgets maxHistoryBytes maxHistoryMessages systemBytes) := by
  intro first rest fit
  simp only [fitsBudgets, List.length_cons, List.map_cons, List.sum_cons, decide_eq_true_eq] at fit ⊢
  omega

theorem pair_at (system : LlmMessage) (before : List TurnPair) (pair : TurnPair)
    (after : List TurnPair) :
    ((system :: (before ++ pair :: after).flatMap TurnPair.messages).drop (2 * before.length + 1)).take 2 =
      pair.messages := by
  have position : (before.flatMap TurnPair.messages).length = 2 * before.length :=
    messages_flatMap_length before
  rw [List.drop_succ_cons, List.flatMap_append, ← position, List.drop_left, List.flatMap_cons]
  exact List.take_left' (TurnPair.messages_length pair)

theorem trimLoop_eq (maxHistoryBytes maxHistoryMessages : Nat) (system : LlmMessage)
    (before kept : List TurnPair)
    (fit : kept = [] ∨ fitsBudgets maxHistoryBytes maxHistoryMessages (messageBytes system) kept = true) :
    trimLoop maxHistoryBytes maxHistoryMessages
        (system :: (before ++ kept).flatMap TurnPair.messages) (2 * before.length - 1)
        (messageBytes system + (kept.map TurnPair.bytes).sum) (1 + 2 * kept.length)
        (kept.flatMap TurnPair.messages) =
      (longestSuffix (fitsBudgets maxHistoryBytes maxHistoryMessages (messageBytes system))
        (before ++ kept)).flatMap TurnPair.messages := by
  -- the pairs are taken from the back
  induction before using List.reverseRecOn generalizing kept with
  | nil =>
    have whole : longestSuffix (fitsBudgets maxHistoryBytes maxHistoryMessages (messageBytes system))
        kept = kept := by
      rcases fit with rfl | fit
      · rfl
      · exact Lib.longestSuffix_of_fits fit
    rw [trimLoop, if_pos (by simp), List.nil_append, whole]
  | append_singleton before pair ih =>
    have index : 2 * (before ++ [pair]).length - 1 = 2 * before.length + 1 := by
      rw [List.length_append, List.length_singleton]
      omega
    have split : before ++ [pair] ++ kept = before ++ pair :: kept := by simp
    have size : (pair.messages.map messageBytes).sum = pair.bytes := rfl
    rw [index, split, trimLoop, if_neg (by omega), pair_at]
    dsimp only
    rw [TurnPair.messages_length, if_neg (by simp), size]
    by_cases beyond : maxHistoryMessages < 1 + 2 * kept.length + 2 ∨
        maxHistoryBytes < messageBytes system + (kept.map TurnPair.bytes).sum + pair.bytes
    · -- this pair is too much, and the loop stops
      have tooMuch : fitsBudgets maxHistoryBytes maxHistoryMessages (messageBytes system)
          (pair :: kept) = false := by
        simp only [fitsBudgets, List.length_cons, List.map_cons, List.sum_cons,
          decide_eq_false_iff_not]
        omega
      rw [if_pos beyond, Lib.longestSuffix_stop (fitsBudgets_closed _ _ _) before fit tooMuch]
    · have fits : fitsBudgets maxHistoryBytes maxHistoryMessages (messageBytes system)
          (pair :: kept) = true := by
        simp only [fitsBudgets, List.length_cons, List.map_cons, List.sum_cons, decide_eq_true_eq]
        omega
      have bytes : messageBytes system + (kept.map TurnPair.bytes).sum + pair.bytes =
          messageBytes system + ((pair :: kept).map TurnPair.bytes).sum := by
        rw [List.map_cons, List.sum_cons]
        omega
      have messages : 1 + 2 * kept.length + 2 = 1 + 2 * (pair :: kept).length := by
        rw [List.length_cons]
        omega
      have step : 2 * before.length + 1 - 2 = 2 * before.length - 1 := by omega
      rw [if_neg beyond, bytes, messages, step, ← List.flatMap_cons]
      exact ih (pair :: kept) (.inr fits)

namespace ConversationPolicy

variable {C : Type}

variable {policy : ConversationPolicy C}

theorem trimHistory_eq {system : LlmMessage} {pairs : List TurnPair}
    (history : policy.history = system :: pairs.flatMap TurnPair.messages) :
    trimHistory policy =
      { policy with
        history := system ::
          (longestSuffix
            (fitsBudgets policy.maxHistoryBytes policy.maxHistoryMessages (messageBytes system))
            pairs).flatMap TurnPair.messages } := by
  have start : policy.history.length - 2 = 2 * pairs.length - 1 := by
    rw [history, List.length_cons, messages_flatMap_length]
    omega
  have run := trimLoop_eq policy.maxHistoryBytes policy.maxHistoryMessages system pairs [] (.inl rfl)
  simp only [List.append_nil, List.map_nil, List.sum_nil, Nat.add_zero, List.length_nil, Nat.mul_zero,
    List.flatMap_nil] at run
  rw [trimHistory, start, history]
  dsimp only
  rw [run]

/-- The invariant: one system message, the one rendered last, and a suffix of the recorded pairs that
fits the budgets, or none. -/
structure Remembers (format : C → Nat → Text) (policy : ConversationPolicy C)
    (recorded retained : List TurnPair) : Prop where
  suffix : retained <:+ recorded
  history : policy.history = policy.systemMessage format :: retained.flatMap TurnPair.messages
  fits : retained ≠ [] → fitsBudgets policy.maxHistoryBytes policy.maxHistoryMessages
    (messageBytes (policy.systemMessage format)) retained = true

variable {format : C → Nat → Text}

theorem trimHistory_remembers {pairs recorded : List TurnPair} (suffix : pairs <:+ recorded)
    (history : policy.history = policy.systemMessage format :: pairs.flatMap TurnPair.messages) :
    ∃ retained, (trimHistory policy).Remembers format recorded retained := by
  refine ⟨longestSuffix (fitsBudgets policy.maxHistoryBytes policy.maxHistoryMessages
    (messageBytes (policy.systemMessage format))) pairs, ?_⟩
  rw [trimHistory_eq history]
  constructor
  · exact (Lib.longestSuffix_suffix pairs).trans suffix
  · rfl
  · exact Lib.longestSuffix_fits

theorem Remembers.record {recorded retained : List TurnPair}
    (remembers : policy.Remembers format recorded retained) (pair : TurnPair) :
    ∃ kept, (trimHistory { policy with history := policy.history ++ pair.messages }).Remembers format
      (recorded ++ [pair]) kept := by
  obtain ⟨before, split⟩ := remembers.suffix
  have suffix : retained ++ [pair] <:+ recorded ++ [pair] := ⟨before, by rw [← split]; simp⟩
  apply trimHistory_remembers suffix
  rw [remembers.history, List.flatMap_append]
  rfl

theorem Remembers.refresh {policy changed : ConversationPolicy C} {recorded retained : List TurnPair}
    (remembers : policy.Remembers format recorded retained)
    (same : changed.history = policy.history) :
    ∃ kept, (refreshSystemInstruction format changed).Remembers format recorded kept := by
  apply trimHistory_remembers remembers.suffix
  rw [same, remembers.history]
  rfl

end ConversationPolicy

/-! ## What the calls record -/

def HydratedTurn.pair (turn : HydratedTurn) : Option TurnPair :=
  match turn.transcript with
  | none => none
  | some transcript =>
    if transcript = [] then none
    else if turn.status = .completed then some ⟨transcript, turn.outputText.getD []⟩
    else if turn.status = .cancelled ∨ turn.status = .interrupted then
      some ⟨transcript, interruptedText (turn.outputText.getD [])⟩
    else none

def PolicyCall.pairs (localeCompare : Text → Text → Ordering) : PolicyCall → List TurnPair
  | .recordTurn transcript assistantText => [⟨transcript, assistantText⟩]
  | .recordInterruptedTurn transcript assistantText => [⟨transcript, interruptedText assistantText⟩]
  | .hydrateTurns turns =>
    (ConversationPolicy.orderedTurns localeCompare turns).filterMap HydratedTurn.pair
  | .replaceSystemInstruction _ | .setTurnSystemInstruction _ | .setStaticVariables _ => []

def recordedPairs (localeCompare : Text → Text → Ordering) (calls : List PolicyCall) :
    List TurnPair :=
  calls.flatMap (PolicyCall.pairs localeCompare)

namespace ConversationPolicy

variable {C : Type} {format : C → Nat → Text} {localeCompare : Text → Text → Ordering}

theorem hydrateTurn_eq (policy : ConversationPolicy C) (turn : HydratedTurn) :
    policy.hydrateTurn turn =
      match turn.pair with
      | none => policy
      | some pair => trimHistory { policy with history := policy.history ++ pair.messages } := by
  cases spoken : turn.transcript with
  | none => simp [HydratedTurn.pair, ConversationPolicy.hydrateTurn, spoken]
  | some transcript =>
    by_cases empty : transcript = []
    · simp [HydratedTurn.pair, ConversationPolicy.hydrateTurn, spoken, empty]
    by_cases completed : turn.status = .completed
    · simp [HydratedTurn.pair, ConversationPolicy.hydrateTurn, spoken, empty, completed, recordTurn,
        TurnPair.messages]
    by_cases stopped : turn.status = .cancelled ∨ turn.status = .interrupted
    · simp [HydratedTurn.pair, ConversationPolicy.hydrateTurn, spoken, empty, completed, stopped,
        recordInterruptedTurn, TurnPair.messages]
    · simp [HydratedTurn.pair, ConversationPolicy.hydrateTurn, spoken, empty, completed, stopped]

variable {policy : ConversationPolicy C} {recorded retained : List TurnPair}

theorem Remembers.hydrateTurn (remembers : policy.Remembers format recorded retained)
    (turn : HydratedTurn) :
    ∃ kept, (policy.hydrateTurn turn).Remembers format (recorded ++ turn.pair.toList) kept := by
  rw [hydrateTurn_eq]
  cases turn.pair with
  | none =>
    rw [Option.toList_none, List.append_nil]
    exact ⟨retained, remembers⟩
  | some pair => exact remembers.record pair

theorem Remembers.hydrate (remembers : policy.Remembers format recorded retained)
    (turns : List HydratedTurn) :
    ∃ kept, (turns.foldl ConversationPolicy.hydrateTurn policy).Remembers format
      (recorded ++ turns.filterMap HydratedTurn.pair) kept := by
  induction turns generalizing policy recorded retained with
  | nil =>
    rw [List.filterMap_nil, List.append_nil]
    exact ⟨retained, remembers⟩
  | cons turn rest ih =>
    obtain ⟨kept, first⟩ := remembers.hydrateTurn turn
    have later := ih first
    have joined : recorded ++ turn.pair.toList ++ rest.filterMap HydratedTurn.pair =
        recorded ++ (turn :: rest).filterMap HydratedTurn.pair := by
      cases turn_pair : turn.pair <;> simp [turn_pair]
    rwa [joined] at later

theorem Remembers.step (remembers : policy.Remembers format recorded retained) (call : PolicyCall) :
    ∃ kept, (policy.step format localeCompare call).Remembers format
      (recorded ++ call.pairs localeCompare) kept := by
  cases call with
  | recordTurn transcript assistantText => exact remembers.record ⟨transcript, assistantText⟩
  | recordInterruptedTurn transcript assistantText =>
    exact remembers.record ⟨transcript, interruptedText assistantText⟩
  | hydrateTurns turns => exact remembers.hydrate (orderedTurns localeCompare turns)
  | replaceSystemInstruction instruction =>
    rw [PolicyCall.pairs, List.append_nil]
    exact remembers.refresh rfl
  | setTurnSystemInstruction instruction =>
    rw [PolicyCall.pairs, List.append_nil]
    exact remembers.refresh rfl
  | setStaticVariables staticVariables =>
    rw [PolicyCall.pairs, List.append_nil]
    exact remembers.refresh rfl

/-! ## The budgets -/

def SameBudgets (policy other : ConversationPolicy C) : Prop :=
  other.maxHistoryBytes = policy.maxHistoryBytes ∧
    other.maxHistoryMessages = policy.maxHistoryMessages

variable {policy other : ConversationPolicy C}

theorem SameBudgets.trimmed (same : SameBudgets policy other) :
    SameBudgets policy other.trimHistory := by
  unfold trimHistory
  split
  · exact same
  · exact same

theorem SameBudgets.hydrateTurn (same : SameBudgets policy other) (turn : HydratedTurn) :
    SameBudgets policy (other.hydrateTurn turn) := by
  unfold ConversationPolicy.hydrateTurn
  split
  · exact same
  · split_ifs
    · exact same
    · exact SameBudgets.trimmed same
    · exact SameBudgets.trimmed same
    · exact same

theorem SameBudgets.step (same : SameBudgets policy other) (call : PolicyCall) :
    SameBudgets policy (other.step format localeCompare call) := by
  cases call with
  | hydrateTurns turns =>
    exact List.foldlRecOn (orderedTurns localeCompare turns) ConversationPolicy.hydrateTurn same
      fun _ reached turn _ => reached.hydrateTurn turn
  | _ => exact SameBudgets.trimmed same

theorem new_eq_ok {options : ConversationPolicyOptions C} (opened : new format options = .ok policy)
    :
    
    2 ≤ policy.maxHistoryMessages ∧ ∃ retained, policy.Remembers format [] retained := by
  obtain ⟨bytes, _, opened⟩ := bind_eq_ok.mp opened
  obtain ⟨messages, _, opened⟩ := bind_eq_ok.mp opened
  obtain ⟨preCall, _, opened⟩ := bind_eq_ok.mp opened
  cases opened
  constructor
  · exact messages.property
  · exact trimHistory_remembers List.suffix_rfl rfl

theorem after_remembers {retained : List TurnPair} (remembers : policy.Remembers format [] retained)
    (calls : List PolicyCall) :
    ∃ kept, (policy.after format localeCompare calls).Remembers format
      (recordedPairs localeCompare calls) kept := by
  induction calls using List.reverseRecOn with
  | nil => exact ⟨retained, remembers⟩
  | append_singleton calls last ih =>
    obtain ⟨before, reached⟩ := ih
    simp only [after, Lib.run_snoc, recordedPairs, List.flatMap_append, List.flatMap_singleton]
    exact reached.step last

/-- The history of a policy after any calls: the system message and then whole pairs, the last of all
that were recorded, within the limit of messages, and within that of bytes if there is any pair. -/
theorem conversation_history {options : ConversationPolicyOptions C} {policy : ConversationPolicy C}
    (opened : new format options = .ok policy) (calls : List PolicyCall) :
    ∃ retained,
      retained <:+ recordedPairs localeCompare calls ∧
      (policy.after format localeCompare calls).history =
        (policy.after format localeCompare calls).systemMessage format ::
          retained.flatMap TurnPair.messages ∧
      (policy.after format localeCompare calls).history.length ≤ policy.maxHistoryMessages ∧
      (retained ≠ [] →
        historyBytes (policy.after format localeCompare calls).history ≤ policy.maxHistoryBytes) := by
  obtain ⟨atLeastTwo, _, initial⟩ := new_eq_ok opened
  obtain ⟨retained, remembers⟩ := after_remembers initial calls
  have budgets : SameBudgets policy (policy.after format localeCompare calls) :=
    Lib.run_invariant _ (SameBudgets policy) (fun _ call same => same.step call) policy ⟨rfl, rfl⟩ calls
  refine ⟨retained, remembers.suffix, remembers.history, ?_, ?_⟩
  · by_cases empty : retained = []
    · rw [remembers.history, empty]
      exact Nat.le_trans (Nat.le_succ 1) atLeastTwo
    · have fits := remembers.fits empty
      simp only [fitsBudgets, decide_eq_true_eq, budgets.2] at fits
      rw [remembers.history, List.length_cons, messages_flatMap_length]
      omega
  · intro some
    have fits := remembers.fits some
    simp only [fitsBudgets, decide_eq_true_eq, budgets.1] at fits
    rw [remembers.history, historyBytes, List.map_cons, List.sum_cons]
    have pairs := messages_flatMap_bytes retained
    rw [historyBytes] at pairs
    omega

/-- Two turns under a limit of three messages. -/
theorem conversation_history_three :
    ∃ policy, new (C := Unit) (fun _ _ => []) { instructions := [72], maxHistoryMessages := some (.int 3) } =
        .ok policy ∧
      ∃ retained,
        retained <:+ recordedPairs compare [.recordTurn [97] [98], .recordInterruptedTurn [99] []] ∧
        (policy.after (fun _ _ => []) compare
            [.recordTurn [97] [98], .recordInterruptedTurn [99] []]).history.length ≤ 3 := by
  have opened : new (C := Unit) (fun _ _ => [])
      { instructions := [72], maxHistoryMessages := some (.int 3) } = .ok (trimHistory
        { baseSystemInstruction := [72], preCallContext := none, maxHistoryBytes := 32 * 1024,
          maxHistoryMessages := 3, maxPreCallBytes := 16 * 1024,
          history := [{ role := .system, content := [72] }] }) := rfl
  obtain ⟨retained, suffix, _, messages, _⟩ := conversation_history opened
    [.recordTurn [97] [98], .recordInterruptedTurn [99] []]
  exact ⟨_, opened, retained, suffix, messages⟩

/-! ## Large budgets -/

def RemembersAll (format : C → Nat → Text) (policy : ConversationPolicy C) (recorded : List TurnPair) :
    Prop :=
  policy.history = policy.systemMessage format :: recorded.flatMap TurnPair.messages

/-- The budgets are large enough for these pairs after the current system message. -/
def Affords (format : C → Nat → Text) (policy : ConversationPolicy C) (pairs : List TurnPair) : Prop :=
  fitsBudgets policy.maxHistoryBytes policy.maxHistoryMessages
    (messageBytes (policy.systemMessage format)) pairs = true

instance (policy : ConversationPolicy C) (pairs : List TurnPair) :
    Decidable (policy.Affords format pairs) :=
  inferInstanceAs (Decidable (_ = true))

theorem Affords.of_append {pairs more : List TurnPair}
    (affords : policy.Affords format (pairs ++ more)) : policy.Affords format pairs := by
  simp only [Affords, fitsBudgets, List.length_append, List.map_append, List.sum_append,
    decide_eq_true_eq] at affords ⊢
  omega

theorem affords_trimHistory {pairs : List TurnPair} :
    policy.trimHistory.Affords format pairs ↔ policy.Affords format pairs := by
  unfold trimHistory
  split <;> rfl

variable {recorded : List TurnPair}

theorem trimHistory_of_affords (all : policy.RemembersAll format recorded)
    (affords : policy.Affords format recorded) :
    policy.trimHistory = policy := by
  rw [trimHistory_eq all, Lib.longestSuffix_of_fits affords, ← all]

theorem RemembersAll.record (all : policy.RemembersAll format recorded) (pair : TurnPair)
    (affords : policy.Affords format (recorded ++ [pair])) :
    (trimHistory { policy with history := policy.history ++ pair.messages }).RemembersAll format
      (recorded ++ [pair]) := by
  have added : RemembersAll format { policy with history := policy.history ++ pair.messages }
      (recorded ++ [pair]) := by
    rw [RemembersAll, all, List.flatMap_append]
    simp [systemMessage, renderSystemInstruction]
  rw [trimHistory_of_affords added affords]
  exact added

theorem RemembersAll.refresh {policy changed : ConversationPolicy C}
    (all : policy.RemembersAll format recorded) (same : changed.history = policy.history)
    (affords : (refreshSystemInstruction format changed).Affords format recorded) :
    (refreshSystemInstruction format changed).RemembersAll format recorded := by
  have refreshed : RemembersAll format
      { changed with history := changed.systemMessage format :: changed.history.drop 1 } recorded := by
    rw [RemembersAll, same, all]
    rfl
  rw [refreshSystemInstruction, affords_trimHistory] at affords
  rw [refreshSystemInstruction, trimHistory_of_affords refreshed affords]
  exact refreshed

theorem affords_hydrateTurn {turn : HydratedTurn} {pairs : List TurnPair} :
    (policy.hydrateTurn turn).Affords format pairs ↔ policy.Affords format pairs := by
  rw [hydrateTurn_eq]
  split
  · rfl
  · exact affords_trimHistory

theorem RemembersAll.hydrate (all : policy.RemembersAll format recorded) (turns : List HydratedTurn)
    (affords : policy.Affords format (recorded ++ turns.filterMap HydratedTurn.pair)) :
    (turns.foldl ConversationPolicy.hydrateTurn policy).RemembersAll format
      (recorded ++ turns.filterMap HydratedTurn.pair) := by
  induction turns generalizing policy recorded with
  | nil => rwa [List.filterMap_nil, List.append_nil]
  | cons turn rest ih =>
    have joined : recorded ++ (turn :: rest).filterMap HydratedTurn.pair =
        recorded ++ turn.pair.toList ++ rest.filterMap HydratedTurn.pair := by
      cases turn_pair : turn.pair <;> simp [turn_pair]
    rw [joined] at affords ⊢
    refine ih ?_ (affords_hydrateTurn.mpr affords)
    rw [hydrateTurn_eq]
    cases turn_pair : turn.pair with
    | none => rwa [Option.toList_none, List.append_nil]
    | some pair =>
      rw [turn_pair] at affords
      exact all.record pair affords.of_append

/-- The budgets are large enough for what is recorded, whatever the system message is by then. -/
def Untrimmed (format : C → Nat → Text) (localeCompare : Text → Text → Ordering)
    (policy : ConversationPolicy C) (calls : List PolicyCall) : Prop :=
  ∀ earlier, earlier <+: calls →
    (policy.after format localeCompare earlier).Affords format (recordedPairs localeCompare earlier)

theorem affords_foldl_hydrateTurn {turns : List HydratedTurn} {pairs : List TurnPair} :
    (turns.foldl ConversationPolicy.hydrateTurn policy).Affords format pairs ↔
      policy.Affords format pairs := by
  induction turns generalizing policy with
  | nil => rfl
  | cons turn rest ih => exact ih.trans affords_hydrateTurn

theorem RemembersAll.step (all : policy.RemembersAll format recorded) (call : PolicyCall)
    (affords : (policy.step format localeCompare call).Affords format
      (recorded ++ call.pairs localeCompare)) :
    (policy.step format localeCompare call).RemembersAll format
      (recorded ++ call.pairs localeCompare) := by
  cases call with
  | recordTurn transcript assistantText =>
    have afforded : Affords format
        { policy with history := policy.history ++ TurnPair.messages ⟨transcript, assistantText⟩ }
        (recorded ++ [⟨transcript, assistantText⟩]) := affords_trimHistory.mp affords
    exact all.record _ afforded
  | recordInterruptedTurn transcript assistantText =>
    have afforded : Affords format
        { policy with
          history := policy.history ++ TurnPair.messages ⟨transcript, interruptedText assistantText⟩ }
        (recorded ++ [⟨transcript, interruptedText assistantText⟩]) := affords_trimHistory.mp affords
    exact all.record _ afforded
  | hydrateTurns turns => exact all.hydrate _ (affords_foldl_hydrateTurn.mp affords)
  | replaceSystemInstruction instruction =>
    rw [PolicyCall.pairs, List.append_nil] at affords ⊢
    exact all.refresh rfl affords
  | setTurnSystemInstruction instruction =>
    rw [PolicyCall.pairs, List.append_nil] at affords ⊢
    exact all.refresh rfl affords
  | setStaticVariables staticVariables =>
    rw [PolicyCall.pairs, List.append_nil] at affords ⊢
    exact all.refresh rfl affords

theorem after_remembersAll (initial : policy.RemembersAll format []) {calls : List PolicyCall}
    (untrimmed : policy.Untrimmed format localeCompare calls) :
    (policy.after format localeCompare calls).RemembersAll format
      (recordedPairs localeCompare calls) := by
  induction calls using List.reverseRecOn with
  | nil => exact initial
  | append_singleton calls last ih =>
    have before := ih fun earlier first => untrimmed earlier (first.trans (List.prefix_append _ _))
    have now := untrimmed (calls ++ [last]) (List.prefix_refl _)
    simp only [after, Lib.run_snoc, recordedPairs, List.flatMap_append, List.flatMap_singleton]
      at before now ⊢
    exact before.step last now

theorem remembersAll_of_new {options : ConversationPolicyOptions C}
    (opened : new format options = .ok policy) : policy.RemembersAll format [] := by
  obtain ⟨-, retained, remembers⟩ := new_eq_ok opened
  obtain rfl := List.suffix_nil.mp remembers.suffix
  exact remembers.history

end ConversationPolicy

end Tvic
