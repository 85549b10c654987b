import Tvic.Providers.GroqToolCalls

/-!
# The events of a Groq completion

As long as the queue takes the events, a completion reports that it has started, then its tokens, and then
either all of its tool calls and its end or one failure. The events are numbered from 1 on.
-/
namespace Tvic.GroqChat

open Lib

variable {N E : Type} [FiniteNumber N]

/-! ## What the items say -/

def itemDelta? (item : JsonObject N) : Option (JsonObject N) :=
  match arrayField item "choices" with
  | some [choice] => (asObject choice).bind (objectField · "delta")
  | _ => none

def itemText (item : JsonObject N) : Text :=
  ((itemDelta? item).bind (stringField · "content")).getD []

def itemFragments (item : JsonObject N) : List Fragment :=
  (((itemDelta? item).bind (arrayField · "tool_calls")).getD []).filterMap fragment?

def textsOf (items : List (JsonObject N)) : List Text := (items.map itemText).filter (· ≠ [])

def fragmentsOf (items : List (JsonObject N)) : List Fragment := items.flatMap itemFragments

def numbered (events : List (StreamEvent N E)) : List (LlmStreamEvent N E) :=
  events.mapIdx fun i event => ⟨i + 1, i + 1, event⟩

/-- The events that a response may have: it is read up to its marker, or it fails on the way. -/
inductive Protocol (model : Text) (items : List (SseItem (JsonObject N))) :
    List (StreamEvent N E) → Prop where
  | completed {read : List (JsonObject N)} {rest : List (SseItem (JsonObject N))}
      (whole : items = read.map .event ++ .done :: rest) {calls : List (InlineToolCall N)}
      (assembled : Assembled (fragmentsOf read) calls) (providerModel : Option Text)
      (usageReport : LlmUsageReport) (usage : Option LlmUsage) :
      Protocol model items (.started model :: ((textsOf read).map .token ++ calls.map .toolCall ++
        [.completed (textsOf read).flatten calls providerModel usageReport usage]))
  | failed {read : List (JsonObject N)} {texts : List Text} (come : read.map .event <+: items)
      (tokens : texts <+: textsOf read) (error : Failure N E) (providerModel : Option Text)
      (usageReport : LlmUsageReport) :
      Protocol model items (.started model :: (texts.map .token ++
        [.failed error providerModel usageReport]))

/-! ## Pushing events -/

section Pushing

omit [FiniteNumber N]

theorem numbered_concat (events : List (StreamEvent N E)) (event : StreamEvent N E) :
    numbered (events ++ [event]) =
      numbered events ++ [⟨events.length + 1, events.length + 1, event⟩] := by
  simp [numbered]

/-- The events that have been pushed, with room for more. -/
structure Emitted (events : List (StreamEvent N E)) (s : Run N E) : Prop where
  emitted : s.emitted = numbered events
  ids : s.ids = events.length
  sequence : s.sequence = events.length + 1
  isOpen : s.isClosed = false

def Run.pushed (s : Run N E) (event : StreamEvent N E) : Run N E :=
  { s with
    emitted := s.emitted ++ [⟨s.ids + 1, s.sequence, event⟩]
    ids := s.ids + 1
    sequence := s.sequence + 1 }

variable {events : List (StreamEvent N E)} {s : Run N E}

theorem Emitted.pushed (held : Emitted events s) (event : StreamEvent N E) :
    Emitted (events ++ [event]) (s.pushed event) where
  emitted := by
    rw [numbered_concat, Run.pushed, held.emitted, held.ids, held.sequence]
  ids := by simp [Run.pushed, held.ids]
  sequence := by simp [Run.pushed, held.sequence]
  isOpen := held.isOpen

variable {accepts : Nat → Bool}

theorem pushSequencedEvent_eq (room : ∀ id, accepts id = true) (isOpen : s.isClosed = false)
    (event : StreamEvent N E) :
    s.pushSequencedEvent accepts event = (s.pushed event, true) := by
  simp [Run.pushSequencedEvent, Run.pushEvent, isOpen, room, Run.pushed]

variable (room : ∀ id, accepts id = true)

include room in
theorem pushToolCalls_eq (held : Emitted events s) (calls : List (InlineToolCall N)) :
    ∃ s', s.pushToolCalls accepts calls = (s', true) ∧
      Emitted (events ++ calls.map .toolCall) s' ∧ s'.outputText = s.outputText := by
  induction calls generalizing s events with
  | nil => exact ⟨s, rfl, by simpa using held, rfl⟩
  | cons call calls ih =>
    rw [Run.pushToolCalls, pushSequencedEvent_eq room held.isOpen]
    obtain ⟨s', pushed, emitted, text⟩ := ih (held.pushed (.toolCall call))
    refine ⟨s', pushed, ?_, text⟩
    simpa using emitted

include room in
theorem emitFailure_emitted (held : Emitted events s) (running : s.terminal = false)
    (error : Failure N E) :
    (s.emitFailure accepts error).emitted =
      numbered (events ++ [.failed error s.providerModel s.usageReport]) := by
  have pushing : ¬(s.terminal = true ∨ s.isClosed = true) := by
    simp [running, held.isOpen]
  rw [Run.emitFailure, if_neg pushing, numbered_concat]
  simp [Run.pushEvent, held.isOpen, room, held.emitted, held.ids, held.sequence]

/-! ## Reading items -/

/-- The stream goes on: what has been emitted are the tokens, and the calls are those of the fragments. -/
structure Streaming (model : Text) (texts : List Text) (fragments : List Fragment) (s : Run N E) :
    Prop where
  emitted : Emitted (.started model :: texts.map .token) s
  running : s.terminal = false
  outputText : s.outputText = texts.flatten
  absorbed : Absorbed fragments s.toolCalls

variable {fragments : List Fragment}

theorem Streaming.of_eq {model : Text} {texts : List Text} {s s' : Run N E}
    (held : Streaming model texts fragments s) (emitted : s'.emitted = s.emitted)
    (ids : s'.ids = s.ids) (sequence : s'.sequence = s.sequence) (closed : s'.isClosed = s.isClosed)
    (terminal : s'.terminal = s.terminal) (outputText : s'.outputText = s.outputText)
    (toolCalls : s'.toolCalls = s.toolCalls) : Streaming model texts fragments s' where
  emitted := ⟨emitted ▸ held.emitted.emitted, ids ▸ held.emitted.ids, sequence ▸ held.emitted.sequence,
    closed ▸ held.emitted.isOpen⟩
  running := terminal ▸ held.running
  outputText := outputText ▸ held.outputText
  absorbed := toolCalls ▸ held.absorbed

def tokensOf (item : JsonObject N) : List Text := if itemText item = [] then [] else [itemText item]

theorem textsOf_concat (items : List (JsonObject N)) (item : JsonObject N) :
    textsOf (items ++ [item]) = textsOf items ++ tokensOf item := by
  rw [textsOf, List.map_append, List.filter_append, tokensOf]
  by_cases silent : itemText item = []
  · simp [textsOf, silent]
  · simp [textsOf, silent]

def Failed (model : Text) (texts : List Text) (s : Run N E) : Prop :=
  s.terminal = true ∧ ∃ error providerModel usageReport, s.emitted =
    numbered (.started model :: (texts.map .token ++ [.failed error providerModel usageReport]))

/-- What is left of a stream when something has been handled that says `texts'` and `fragments'`: the stream
goes on with them, or with some of them to its failure. -/
def Handled (model : Text) (texts texts' : List Text) (fragments' : List Fragment) :
    Run N E × Control N E → Prop
  | (s, .proceed) => Streaming model texts' fragments' s
  | (s, .throws _) => ∃ some fragments, some <+: texts' ∧ Streaming model some fragments s
  | (s, .leave) => Failed model texts s

theorem emitFailure_terminal (running : s.terminal = false) (isOpen : s.isClosed = false)
    (error : Failure N E) : (s.emitFailure accepts error).terminal = true := by
  have pushing : ¬(s.terminal = true ∨ s.isClosed = true) := by
    simp [running, isOpen]
  rw [Run.emitFailure, if_neg pushing]
  simp only [Run.pushEvent]
  split
  · rfl
  · rfl

include room in
theorem Streaming.fails {model : Text} {texts : List Text}
    (held : Streaming model texts fragments s) (error : Failure N E) :
    Failed model texts (s.emitFailure accepts error) :=
  ⟨emitFailure_terminal held.running held.emitted.isOpen error, error, s.providerModel, s.usageReport,
    emitFailure_emitted room held.emitted held.running error⟩

include room in
theorem handleText_handled {model : Text} {texts : List Text}
    (held : Streaming model texts fragments s) (item : JsonObject N) :
    Handled model texts (texts ++ tokensOf item) fragments (s.handleText accepts (itemText item)) := by
  unfold Run.handleText
  split_ifs with silent long
  · have nothing : tokensOf item = [] := if_pos silent
    rw [nothing, List.append_nil]
    exact held
  · exact ⟨texts, fragments, List.prefix_append _ _, held⟩
  · rw [pushSequencedEvent_eq room held.emitted.isOpen]
    have one : tokensOf item = [itemText item] := if_neg silent
    have pushed := held.emitted.pushed (.token (itemText item))
    rw [one]
    refine ⟨⟨?_, ?_, ?_, pushed.isOpen⟩, held.running, ?_, held.absorbed⟩
    · rw [List.map_append]
      exact pushed.emitted
    · rw [List.map_append]
      exact pushed.ids
    · rw [List.map_append]
      exact pushed.sequence
    · rw [List.flatten_append, ← held.outputText]
      simp [Run.pushed]

end Pushing

variable {accepts : Nat → Bool} (room : ∀ id, accepts id = true)

theorem fragmentsOf_concat (items : List (JsonObject N)) (item : JsonObject N) :
    fragmentsOf (items ++ [item]) = fragmentsOf items ++ itemFragments item := by
  simp [fragmentsOf]

variable {s : Run N E} {model : Text} {texts : List Text} {fragments : List Fragment}

theorem absorbToolCalls_handled (held : Streaming model texts fragments s) (tools : List Text)
    (values : List (JsValue N)) (before : List Text) :
    (Run.absorbToolCalls tools s values).2 ≠ .leave ∧
    Handled model before texts (fragments ++ values.filterMap fragment?)
      (Run.absorbToolCalls tools s values) := by
  induction values generalizing s fragments with
  | nil =>
    rw [List.filterMap_nil, List.append_nil]
    exact ⟨nofun, held⟩
  | cons value values ih =>
    rw [Run.absorbToolCalls]
    cases absorbing : (absorbToolCall s.toolCalls value s.toolArgumentChars tools :
        Except (Failure N E) _) with
    | error error => exact ⟨nofun, texts, fragments, List.prefix_refl _, held⟩
    | ok result =>
      obtain ⟨calls, appended⟩ := result
      obtain ⟨fragment, said, rfl, agrees⟩ := absorbToolCall_ok absorbing
      have next : Streaming model texts (fragments ++ [fragment])
          { s with toolCalls := absorbed s.toolCalls fragment,
                   toolArgumentChars := s.toolArgumentChars + appended } :=
        ⟨⟨held.emitted.emitted, held.emitted.ids, held.emitted.sequence, held.emitted.isOpen⟩,
          held.running, held.outputText, held.absorbed.append agrees⟩
      have later := ih next
      rw [List.filterMap_cons_some said]
      rw [List.append_assoc] at later
      exact later

include room in
theorem handleDelta_handled (held : Streaming model texts fragments s) (tools : List Text)
    {item delta : JsonObject N} (own : itemDelta? item = some delta) :
    Handled model texts (texts ++ tokensOf item) (fragments ++ itemFragments item)
      (s.handleDelta accepts tools delta) := by
  have text : (stringField delta "content").getD [] = itemText item := by
    rw [itemText, own, Option.bind_some]
  have calls : ((arrayField delta "tool_calls").getD []).filterMap fragment? = itemFragments item := by
    rw [itemFragments, own, Option.bind_some]
  unfold Run.handleDelta
  by_cases typed : isPresent delta "content" = true ∧ (stringField delta "content").isNone = true
  · rw [if_pos typed]
    exact ⟨texts, fragments, List.prefix_append _ _, held⟩
  · rw [if_neg typed]
    have said := handleText_handled room held item
    rw [text]
    cases handling : s.handleText accepts (itemText item) with
    | mk s' control =>
      rw [handling] at said
      cases control with
      | leave => exact said
      | throws error => exact said
      | proceed =>
        dsimp only
        split_ifs with listed
        · exact ⟨_, fragments, List.prefix_refl _, said⟩
        · have absorbing := (absorbToolCalls_handled said tools
            ((arrayField delta "tool_calls").getD []) texts).2
          rw [calls] at absorbing
          exact absorbing

theorem observe_streaming (held : Streaming model texts fragments s) (item : JsonObject N) :
    Streaming model texts fragments (s.observe item) := by
  unfold Run.observe
  refine held.of_eq ?_ ?_ ?_ ?_ ?_ ?_ ?_
  all_goals
    dsimp only
    split <;> split <;> (try split_ifs) <;> rfl

include room in
theorem handleEvent_handled (held : Streaming model texts fragments s) (tools : List Text)
    (item : JsonObject N) :
    Handled model texts (texts ++ tokensOf item) (fragments ++ itemFragments item)
      (s.handleEvent accepts tools item) := by
  have observed := observe_streaming held item
  -- whatever is wrong with the choices, nothing of the item has been taken yet
  have throws : ∃ some fragments, some <+: texts ++ tokensOf item ∧
      Streaming model some fragments (s.observe item) :=
    ⟨texts, fragments, List.prefix_append _ _, observed⟩
  have choices : Handled model texts (texts ++ tokensOf item) (fragments ++ itemFragments item)
      (Run.handleChoices accepts tools (s.observe item) item) := by
    unfold Run.handleChoices
    split
    · exact throws
    next listed =>
      -- there is no choice, and so no delta
      have nothing : itemDelta? item = none := by rw [itemDelta?, listed]
      have silent : tokensOf item = [] ∧ itemFragments item = [] := by
        simp [tokensOf, itemText, itemFragments, nothing]
      rw [silent.1, silent.2, List.append_nil, List.append_nil]
      exact observed
    next choice listed =>
      split
      · exact throws
      next members object =>
        have chosen : Streaming model texts fragments { s.observe item with sawChoice := true } :=
          observed.of_eq rfl rfl rfl rfl rfl rfl rfl
        dsimp only
        split
        · exact ⟨texts, fragments, List.prefix_append _ _, chosen⟩
        next delta there =>
          refine handleDelta_handled room chosen tools ?_
          rw [itemDelta?, listed]
          simpa [object] using there
    · exact throws
  unfold Run.handleEvent
  dsimp only
  split
  · exact choices
  · exact choices
  · exact choices
  · exact observed.fails room _

/-! ## The whole response -/

include room in
theorem emitCompleted_handled (held : Streaming model texts fragments s) :
    (∃ calls providerModel usageReport usage, Assembled fragments calls ∧
      (s.emitCompleted accepts).2 = .leave ∧ (s.emitCompleted accepts).1.emitted =
        numbered (.started model :: (texts.map .token ++ calls.map .toolCall ++
          [.completed texts.flatten calls providerModel usageReport usage]))) ∨
      ∃ error, s.emitCompleted accepts = (s, .throws error) := by
  unfold Run.emitCompleted
  rw [if_neg (by simp [held.running])]
  cases frozen : (((s.toolCalls.mergeSort fun a b => a.1 ≤ b.1).map (·.2)).mapM freezeToolCall :
      Except (Failure N E) (List (InlineToolCall N))) with
  | error error => exact Or.inr ⟨error, rfl⟩
  | ok calls =>
    obtain ⟨s', pushed, emitted, text⟩ := pushToolCalls_eq room held.emitted calls
    dsimp only
    rw [pushed]
    dsimp only
    rw [pushSequencedEvent_eq room emitted.isOpen]
    refine Or.inl ⟨calls, s'.providerModel, s'.usageReport, s'.usage, held.absorbed.assembled frozen,
      rfl, ?_⟩
    have last := emitted.pushed (.completed s'.outputText calls s'.providerModel s'.usageReport s'.usage)
    have all := last.emitted
    rw [text, held.outputText] at all
    rw [text, held.outputText]
    simpa using all

/-- What may be left of a stream when the loop has come to its end. -/
def Closing (model : Text) (items : List (SseItem (JsonObject N))) (s : Run N E) : Prop :=
  ∃ events, s.emitted = numbered events ∧ Protocol model items events

include room in
theorem readItems_closing {read : List (JsonObject N)}
    (held : Streaming model (textsOf read) (fragmentsOf read) s) (tools : List Text)
    (ending : Option E) (items : List (SseItem (JsonObject N))) :
    Closing model (read.map .event ++ items)
      (Run.finish accepts ending (s.readItems accepts tools items)) := by
  -- a failure after what has been read
  have fails : ∀ {come : List (JsonObject N)} {texts fragments} {s' : Run N E}
      {all : List (SseItem (JsonObject N))}, come.map .event <+: all → texts <+: textsOf come →
      Streaming model texts fragments s' → ∀ error, Closing model all (s'.emitFailure accepts error) := by
    intro come texts fragments s' all there tokens held' error
    obtain ⟨-, error, providerModel, usageReport, emitted⟩ := held'.fails room error
    exact ⟨_, emitted, .failed there tokens error providerModel usageReport⟩
  induction items generalizing read s with
  | nil =>
    rw [List.append_nil, Run.readItems]
    cases ending with
    | none => exact fails (List.prefix_refl _) (List.prefix_refl _) held _
    | some error => exact fails (List.prefix_refl _) (List.prefix_refl _) held _
  | cons item items ih =>
    cases item with
    | done =>
      rw [Run.readItems]
      split_ifs with chosen
      · exact fails (List.prefix_append _ _) (List.prefix_refl _) held _
      · rcases emitCompleted_handled room held with
          ⟨calls, providerModel, usageReport, usage, assembled, leaves, emitted⟩ | ⟨error, same⟩
        · cases completing : s.emitCompleted accepts with
          | mk s' control =>
            rw [completing] at leaves emitted
            subst leaves
            refine ⟨_, emitted, ?_⟩
            exact .completed rfl assembled providerModel usageReport usage
        · rw [same]
          exact fails (List.prefix_append _ _) (List.prefix_refl _) held _
    | event item =>
      rw [Run.readItems, if_neg (by simp [held.running])]
      have handled := handleEvent_handled room held tools item
      rw [← textsOf_concat, ← fragmentsOf_concat] at handled
      have whole : read.map .event ++ .event item :: items = (read ++ [item]).map .event ++ items := by
        simp
      cases handling : s.handleEvent accepts tools item with
      | mk s' control =>
        rw [handling] at handled
        cases control with
        | proceed =>
          rw [whole]
          exact ih handled
        | throws error =>
          obtain ⟨texts, fragments, some, held'⟩ := handled
          rw [whole]
          exact fails (List.prefix_append _ _) some held' error
        | leave =>
          obtain ⟨ended, error, providerModel, usageReport, emitted⟩ := handled
          have kept : Run.finish accepts ending ((s', .leave), false) = s' := by
            simp [Run.finish, ended]
          rw [show Run.finish accepts ending ((s', Control.leave), false) = s' from kept]
          exact ⟨_, emitted, .failed (List.prefix_append _ _) (List.prefix_refl _) error providerModel
            usageReport⟩

/-- Whatever items a response has and however it ends, the events of a completion keep to the protocol as
long as the queue takes them. -/
theorem complete_protocol {accepts : Nat → Bool} (room : ∀ id, accepts id = true) (request : Request)
    (items : List (SseItem (JsonObject N))) (ending : Option E) :
    ∃ events, (complete accepts request items ending).emitted = numbered events ∧
      Protocol request.model items events := by
  have begun : Streaming request.model (textsOf ([] : List (JsonObject N)))
      (fragmentsOf ([] : List (JsonObject N))) (Run.pushed ({} : Run N E) (.started request.model)) :=
    ⟨⟨rfl, rfl, rfl, rfl⟩, rfl, rfl, .nil⟩
  rw [complete, pushSequencedEvent_eq room rfl]
  exact readItems_closing room begun request.tools ending items

/-- An item with one choice that gives a call its reference and its name, and nothing else. -/
def namedCall : JsonObject Int :=
  [(utf16 "choices", .array [.object [(utf16 "delta", .object [(utf16 "tool_calls", .array
    [.object [(utf16 "index", .number 0), (utf16 "id", .string (utf16 "a")),
      (utf16 "function", .object [(utf16 "name", .string (utf16 "f"))])]])])]])]

theorem handleEvent_namedCall :
    Run.handleEvent (fun _ => true) [utf16 "f"] (Run.pushed ({} : Run Int Unit) (.started [])) namedCall =
      ({ Run.pushed ({} : Run Int Unit) (.started []) with
        sawChoice := true, toolCalls := [(0, ⟨utf16 "a", utf16 "f", []⟩)] }, .proceed) := by
  rfl

/-- A call without arguments is reported with an empty object, which is not what its arguments say. -/
theorem complete_namedCall :
    (complete (fun _ => true) ⟨[], [utf16 "f"]⟩ [.event namedCall, .done]
        (none : Option Unit)).emitted.map (·.event) =
      [.started [], .toolCall ⟨utf16 "a", utf16 "f", .object []⟩,
        .completed [] [⟨utf16 "a", utf16 "f", .object []⟩] none absentUsageReport none] ∧
    argumentsOf (fragmentsOf [namedCall]) 0 = [] ∧ (parseJson [] : Option (JsValue Int)) = none := by
  refine ⟨?_, rfl, rfl⟩
  have begun : Run.pushSequencedEvent (fun _ => true) ({} : Run Int Unit) (.started []) =
      (Run.pushed {} (.started []), true) := rfl
  have sorted : ([(0, ⟨utf16 "a", utf16 "f", []⟩)] : InsertionMap Nat MutableToolCall).mergeSort
      (fun a b => a.1 ≤ b.1) = [(0, ⟨utf16 "a", utf16 "f", []⟩)] := List.mergeSort_singleton _
  rw [complete, begun]
  simp only [Run.readItems, handleEvent_namedCall]
  have running : (Run.pushed ({} : Run Int Unit) (.started [])).terminal = false := rfl
  rw [if_neg (by simp [running]), if_neg (by simp)]
  unfold Run.emitCompleted
  dsimp only
  rw [if_neg (by simp [running]), sorted]
  rfl

/-- The response of `complete_namedCall` keeps to the protocol. -/
theorem complete_protocol_namedCall :
    ∃ events, (complete (fun _ => true) ⟨[], [utf16 "f"]⟩ [.event namedCall, .done]
      (none : Option Unit)).emitted = numbered events ∧
        Protocol [] [.event namedCall, .done] events :=
  complete_protocol (fun _ => rfl) ⟨[], [utf16 "f"]⟩ [.event namedCall, .done] none

end Tvic.GroqChat
