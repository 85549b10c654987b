import Tvic.Lib.Run
import Tvic.Providers.TranscriptOutput

/-!
# Committed transcripts and their metadata

`#handleMessage` of `ElevenLabsSttStream`. A committed transcript waits for its timestamped form, for its
entities or for both, which come in messages of their own. They name it by its text alone, and go to the
first that waits with that text, even if that one has had a message of the kind.
-/
namespace Tvic

open Lib (Text)

inductive ElevenLabsMessageType where
  | sessionStarted
  | warning
  | partialTranscript
  | finalTranscript
  | finalTranscriptWithTimestamps
  | committedTranscript
  | committedTranscriptWithTimestamps
  | committedTranscriptEntities
  | unknown
  deriving DecidableEq, Repr

/-- What the check of an optional list makes of it. -/
inductive BoundedField (α : Type) where
  | absent
  | malformed
  | given (value : α)
  deriving DecidableEq, Repr

def BoundedField.value? {α : Type} : BoundedField α → Option α
  | .given value => some value
  | _ => none

/-- A message that is no error, with words of type `W` and entities of type `E`. -/
structure ElevenLabsMessage (W E : Type) where
  messageType : ElevenLabsMessageType
  /-- Missing where it is no string. -/
  text : Option Text
  language : BoundedField Text
  words : BoundedField W
  entities : BoundedField E
  deriving DecidableEq, Repr

inductive ElevenLabsEvent (W E : Type) where
  | partialText (text : Text)
  | final (text : Text) (messageType : ElevenLabsMessageType) (language : Option Text) (words : Option W)
      (entities : Option E)
  | endpoint
  deriving DecidableEq, Repr

inductive ElevenLabsFailure where
  | malformedText
  | transcriptExceeded
  | tooManyPending
  | malformedLanguage
  | malformedWords
  | malformedEntities
  | timestampsWithoutCommit
  | entitiesWithoutCommit
  | unknownMessage
  | eventQueueOverflow
  deriving DecidableEq, Repr

structure PendingElevenLabsCommit (W E : Type) where
  committed : ElevenLabsMessage W E
  text : Text
  timestamped : Option (ElevenLabsMessage W E) := none
  entities : Option E := none
  deriving DecidableEq, Repr

def maxElevenLabsPendingCommits : ℕ := 64

def maxElevenLabsTranscriptLength : ℕ := 16384

structure ElevenLabsSttStream (W E : Type) where
  interimResults : Bool
  awaitsTimestampedCommit : Bool
  awaitsEntityEvent : Bool
  output : TranscriptOutput (ElevenLabsEvent W E) := {}
  failure : Option ElevenLabsFailure := none
  lastFinalText : Option Text := none
  committed : Bool := false
  pendingCommits : List (PendingElevenLabsCommit W E) := []
  deriving DecidableEq

namespace ElevenLabsSttStream

variable {W E : Type} (s : ElevenLabsSttStream W E)

def fail (error : ElevenLabsFailure) : ElevenLabsSttStream W E :=
  { s with failure := s.failure.or (some error) }

def transcriptText (message : ElevenLabsMessage W E) : Except ElevenLabsFailure Text :=
  match message.text with
  | none => .error .malformedText
  | some text =>
    if maxElevenLabsTranscriptLength < (trimText text).length then .error .transcriptExceeded
    else .ok (trimText text)

/-- `#pushSegment` of a text that is to be emitted. -/
def pushSegment (message : ElevenLabsMessage W E) (event : ElevenLabsEvent W E) :
    Except ElevenLabsFailure (TranscriptOutput (ElevenLabsEvent W E)) :=
  match message.language, message.words with
  | .malformed, _ => .error .malformedLanguage
  | _, .malformed => .error .malformedWords
  | _, _ =>
    match s.output.push event with
    | none => .error .eventQueueOverflow
    | some output => .ok output

def pushPartial (message : ElevenLabsMessage W E) : ElevenLabsSttStream W E :=
  match transcriptText message with
  | .error error => s.fail error
  | .ok text =>
    if text = [] then s
    else
      match s.pushSegment message (.partialText text) with
      | .error error => s.fail error
      | .ok output => { s with output }

/-- `#pushSegment(message, "stt.final", entities)`; a text that was the last is not emitted again. -/
def pushFinal (message : ElevenLabsMessage W E) (entities : Option E) : ElevenLabsSttStream W E :=
  match transcriptText message with
  | .error error => s.fail error
  | .ok text =>
    if text = [] ∨ s.lastFinalText = some text then s
    else
      match s.pushSegment message
        (.final text message.messageType message.language.value? message.words.value? entities) with
      | .error error => s.fail error
      | .ok output => { s with output, lastFinalText := some text, committed := false }

def handleCommitted (message : ElevenLabsMessage W E) (entities : Option E) : ElevenLabsSttStream W E :=
  match transcriptText message with
  | .error error => s.fail error
  | .ok _ =>
    let s := s.pushFinal message entities
    if s.failure.isSome || s.committed then s
    else
      match s.output.push .endpoint with
      | none => s.fail .eventQueueOverflow
      | some output => { s with output, committed := true, lastFinalText := none }

def tryEmitPending (index : ℕ) : ElevenLabsSttStream W E :=
  match s.pendingCommits[index]? with
  | none => s
  | some pending =>
    if s.awaitsTimestampedCommit && pending.timestamped.isNone then s
    else if s.awaitsEntityEvent && pending.entities.isNone then s
    else
      { s with pendingCommits := s.pendingCommits.eraseIdx index }.handleCommitted
        (pending.timestamped.getD pending.committed) pending.entities

def completePending (text : Text) (missing : ElevenLabsFailure)
    (complete : PendingElevenLabsCommit W E → PendingElevenLabsCommit W E) : ElevenLabsSttStream W E :=
  match s.pendingCommits.findIdx? fun entry => entry.text = text with
  | none => s.fail missing
  | some index =>
    { s with pendingCommits := s.pendingCommits.modify index complete }.tryEmitPending index

def handleTimestamped (message : ElevenLabsMessage W E) : ElevenLabsSttStream W E :=
  match transcriptText message with
  | .error error => s.fail error
  | .ok text => s.completePending text .timestampsWithoutCommit fun pending =>
      { pending with timestamped := some message }

def handleEntities (message : ElevenLabsMessage W E) : ElevenLabsSttStream W E :=
  if s.awaitsEntityEvent = false then s
  else
    match transcriptText message, message.entities with
    | .error error, _ => s.fail error
    | .ok text, .given entities => s.completePending text .entitiesWithoutCommit fun pending =>
        { pending with entities := some entities }
    | .ok _, _ => s.fail .malformedEntities

def awaitsMetadata : Bool := s.awaitsTimestampedCommit || s.awaitsEntityEvent

/-- The commit waits for its metadata. -/
def awaitMetadata (message : ElevenLabsMessage W E) : ElevenLabsSttStream W E :=
  match transcriptText message with
  | .error error => s.fail error
  | .ok text =>
    if maxElevenLabsPendingCommits ≤ s.pendingCommits.length then s.fail .tooManyPending
    else { s with pendingCommits := s.pendingCommits ++ [{ committed := message, text }] }

def handleMessage (message : ElevenLabsMessage W E) : ElevenLabsSttStream W E :=
  if s.failure.isSome then s
  else
    match message.messageType with
    | .sessionStarted | .warning => s
    | .committedTranscriptEntities => s.handleEntities message
    | .partialTranscript => if s.interimResults then s.pushPartial message else s
    | .finalTranscript | .finalTranscriptWithTimestamps => s.pushFinal message none
    | .committedTranscript =>
      if s.awaitsMetadata then s.awaitMetadata message else s.handleCommitted message none
    | .committedTranscriptWithTimestamps =>
      if s.awaitsMetadata then s.handleTimestamped message else s.handleCommitted message none
    | .unknown => s.fail .unknownMessage

end ElevenLabsSttStream

/-! ## What arrives -/

def ElevenLabsMessage.WellFormed {W E : Type} (message : ElevenLabsMessage W E)
    (messageType : ElevenLabsMessageType) (text : Text) : Prop :=
  message.messageType = messageType ∧ message.text.map trimText = some text ∧
    text.length ≤ maxElevenLabsTranscriptLength ∧ message.language ≠ .malformed ∧
    message.words ≠ .malformed

/-- A committed utterance and its messages. -/
structure ElevenLabsUtterance (W E : Type) where
  text : Text
  committed : ElevenLabsMessage W E
  timestamped : ElevenLabsMessage W E
  withEntities : ElevenLabsMessage W E
  entities : E
  notBlank : text ≠ []
  committed_wellFormed : committed.WellFormed .committedTranscript text
  timestamped_wellFormed : timestamped.WellFormed .committedTranscriptWithTimestamps text
  withEntities_wellFormed : withEntities.WellFormed .committedTranscriptEntities text
  entities_given : withEntities.entities = .given entities

/-- What arrives next: a message about the next utterance of the kind, another message, or the consumer
reads an event. -/
inductive ElevenLabsArrival (W E : Type) where
  | committed
  | timestamped
  | entities
  | other (message : ElevenLabsMessage W E)
  | read

/-- A stream, with how many messages of each kind have arrived. -/
structure ElevenLabsSession (W E : Type) where
  stream : ElevenLabsSttStream W E
  committed : ℕ := 0
  timestamped : ℕ := 0
  entities : ℕ := 0

namespace ElevenLabsSession

variable {W E : Type} (utterances : ℕ → ElevenLabsUtterance W E) (session : ElevenLabsSession W E)

def step : ElevenLabsArrival W E → ElevenLabsSession W E
  | .committed =>
    { session with
      stream := session.stream.handleMessage (utterances session.committed).committed
      committed := session.committed + 1 }
  | .timestamped =>
    { session with
      stream := session.stream.handleMessage (utterances session.timestamped).timestamped
      timestamped := session.timestamped + 1 }
  | .entities =>
    { session with
      stream := session.stream.handleMessage (utterances session.entities).withEntities
      entities := session.entities + 1 }
  | .other message => { session with stream := session.stream.handleMessage message }
  | .read =>
    { session with stream := { session.stream with output := session.stream.output.readNext } }

/-- The utterances that have everything that is awaited. -/
def complete : ℕ :=
  if session.stream.awaitsTimestampedCommit then
    if session.stream.awaitsEntityEvent then min session.timestamped session.entities
    else session.timestamped
  else session.entities

/-- Every message is about an utterance that is announced, and of an awaited kind; not too many are
pending, and no message is a final transcript. -/
def Expected : ElevenLabsArrival W E → Prop
  | .committed => session.committed - session.complete < maxElevenLabsPendingCommits
  | .timestamped =>
    session.stream.awaitsTimestampedCommit = true ∧ session.timestamped < session.committed
  | .entities => session.stream.awaitsEntityEvent = true ∧ session.entities < session.committed
  | .other message =>
    message.messageType = .sessionStarted ∨ message.messageType = .warning ∨
      message.WellFormed .partialTranscript (message.text.elim [] trimText)
  | .read => True

/-- No utterance before the `index`-th that is not complete has its text. -/
def Unmistakable (index : ℕ) : Prop :=
  ∀ earlier < index, (utterances earlier).text = (utterances index).text → earlier < session.complete

/-- A message is not about an utterance with the text of an earlier one that still waits. -/
def Apart : ElevenLabsArrival W E → Prop
  | .timestamped => session.Unmistakable utterances session.timestamped
  | .entities => session.Unmistakable utterances session.entities
  | _ => True

abbrev counted (timestamped entities : ℕ) : ElevenLabsSession W E :=
  { session with timestamped, entities }

/-- How many events what arrives leads to. -/
def needs : ElevenLabsArrival W E → ℕ
  | .timestamped =>
    2 * ((session.counted (session.timestamped + 1) session.entities).complete - session.complete)
  | .entities =>
    2 * ((session.counted session.timestamped (session.entities + 1)).complete - session.complete)
  | .other message =>
    if message.messageType = .partialTranscript ∧ session.stream.interimResults = true then 1 else 0
  | _ => 0

/-- What is expected comes, in an order and at a time the stream is up to. -/
def Admits (arrival : ElevenLabsArrival W E) : Prop :=
  session.Expected arrival ∧ session.Apart utterances arrival ∧
    session.stream.output.HasRoom (session.needs arrival)

def outcome (stream : ElevenLabsSttStream W E) (utterance : ElevenLabsUtterance W E) :
    List (ElevenLabsEvent W E) :=
  let message := if stream.awaitsTimestampedCommit then utterance.timestamped else utterance.committed
  [.final utterance.text message.messageType message.language.value? message.words.value?
      (if stream.awaitsEntityEvent then some utterance.entities else none), .endpoint]

/-! ## The invariant -/

variable {utterances session}

/-- How an utterance waits. -/
def pending (utterances : ℕ → ElevenLabsUtterance W E) (session : ElevenLabsSession W E) (index : ℕ) :
    PendingElevenLabsCommit W E where
  committed := (utterances index).committed
  text := (utterances index).text
  timestamped := if index < session.timestamped then some (utterances index).timestamped else none
  entities := if index < session.entities then some (utterances index).entities else none

def isOutcome : ElevenLabsEvent W E → Bool
  | .partialText _ => false
  | _ => true

/-- The utterances before the first have been emitted, and the others wait, all in order. -/
structure Window (settings : Bool × Bool) (utterances : ℕ → ElevenLabsUtterance W E)
    (session : ElevenLabsSession W E) (first : ℕ) : Prop where
  settings_eq : (session.stream.awaitsTimestampedCommit, session.stream.awaitsEntityEvent) = settings
  awaits : session.stream.awaitsMetadata = true
  unfailed : session.stream.failure = none
  fresh : session.stream.lastFinalText = none
  waiting : session.stream.pendingCommits =
    (List.range' first (session.committed - first)).map (pending utterances session)
  emitted : session.stream.output.events.filter isOutcome =
    (List.range first).flatMap fun index => outcome session.stream (utterances index)
  timestamped_le : session.timestamped ≤ session.committed
  entities_le : session.entities ≤ session.committed
  untimed : session.stream.awaitsTimestampedCommit = false → session.timestamped = 0
  bare : session.stream.awaitsEntityEvent = false → session.entities = 0

/-- The first that waits is the first that is not complete. -/
def Correlated (settings : Bool × Bool) (utterances : ℕ → ElevenLabsUtterance W E)
    (session : ElevenLabsSession W E) : Prop :=
  Window settings utterances session session.complete

variable {settings : Bool × Bool}

theorem transcriptText_of_wellFormed {message : ElevenLabsMessage W E}
    {messageType : ElevenLabsMessageType} {text : Text} (wellFormed : message.WellFormed messageType text) :
    ElevenLabsSttStream.transcriptText message = .ok text := by
  obtain ⟨-, trimmed, short, -, -⟩ := wellFormed
  obtain ⟨raw, given, rfl⟩ := Option.map_eq_some_iff.mp trimmed
  rw [ElevenLabsSttStream.transcriptText, given]
  exact if_neg (Nat.not_lt.mpr short)

theorem pushSegment_of_wellFormed {s : ElevenLabsSttStream W E} {message : ElevenLabsMessage W E}
    {messageType : ElevenLabsMessageType} {text : Text} (wellFormed : message.WellFormed messageType text)
    {count : ℕ} (room : s.output.HasRoom (count + 1)) (event : ElevenLabsEvent W E) :
    ∃ output, s.pushSegment message event = .ok output ∧ output.events = s.output.events ++ [event] ∧
      output.HasRoom count := by
  obtain ⟨-, -, -, language, words⟩ := wellFormed
  obtain ⟨output, taken, room⟩ := TranscriptOutput.push_of_hasRoom room event
  refine ⟨output, ?_, TranscriptOutput.events_push taken, room⟩
  rw [ElevenLabsSttStream.pushSegment, taken]
  split <;> first | contradiction | rfl

/-- A commit that is complete is emitted, with its endpoint. -/
theorem handleCommitted_eq {s : ElevenLabsSttStream W E} (unfailed : s.failure = none)
    (fresh : s.lastFinalText = none) {message : ElevenLabsMessage W E}
    {messageType : ElevenLabsMessageType} {text : Text} (wellFormed : message.WellFormed messageType text)
    (notBlank : text ≠ []) (room : s.output.HasRoom 2) (entities : Option E) :
    ∃ output : TranscriptOutput (ElevenLabsEvent W E),
      s.handleCommitted message entities = { s with output, committed := true } ∧
      output.events = s.output.events ++ [.final text message.messageType message.language.value?
        message.words.value? entities, .endpoint] := by
  have text_eq := transcriptText_of_wellFormed wellFormed
  obtain ⟨spoken, pushed, events, room⟩ := pushSegment_of_wellFormed wellFormed room
    (.final text message.messageType message.language.value? message.words.value? entities)
  obtain ⟨output, taken, -⟩ := TranscriptOutput.push_of_hasRoom room .endpoint
  have final : s.pushFinal message entities =
      { s with output := spoken, lastFinalText := some text, committed := false } := by
    rw [ElevenLabsSttStream.pushFinal, text_eq]
    simp [notBlank, fresh, pushed]
  refine ⟨output, ?_, ?_⟩
  · rw [ElevenLabsSttStream.handleCommitted, text_eq, final]
    simp [unfailed, taken, fresh]
  · rw [TranscriptOutput.events_push taken, events, List.append_assoc]
    rfl

/-- The commit has everything that is awaited. -/
def Ready (stream : ElevenLabsSttStream W E) (commit : PendingElevenLabsCommit W E) : Prop :=
  (stream.awaitsTimestampedCommit = true → commit.timestamped.isSome) ∧
    (stream.awaitsEntityEvent = true → commit.entities.isSome)

theorem tryEmitPending_ready {s : ElevenLabsSttStream W E} {index : ℕ}
    {commit : PendingElevenLabsCommit W E} (located : s.pendingCommits[index]? = some commit)
    (ready : Ready s commit) :
    s.tryEmitPending index =
      { s with pendingCommits := s.pendingCommits.eraseIdx index }.handleCommitted
        (commit.timestamped.getD commit.committed) commit.entities := by
  obtain ⟨timed, annotated⟩ := ready
  rw [ElevenLabsSttStream.tryEmitPending, located]
  dsimp only
  rw [if_neg, if_neg]
  · simpa [Option.isSome_iff_ne_none] using annotated
  · simpa [Option.isSome_iff_ne_none] using timed

theorem tryEmitPending_unready {s : ElevenLabsSttStream W E} {index : ℕ}
    {commit : PendingElevenLabsCommit W E} (located : s.pendingCommits[index]? = some commit)
    (unready : ¬Ready s commit) : s.tryEmitPending index = s := by
  rw [ElevenLabsSttStream.tryEmitPending, located]
  dsimp only
  split_ifs with untimed bare
  · rfl
  · rfl
  · simp only [Bool.and_eq_true, not_and, Bool.not_eq_true, Option.isNone_eq_false_iff] at untimed bare
    exact absurd ⟨untimed, bare⟩ unready

theorem outcome_of_ready {index : ℕ} (ready : Ready session.stream (pending utterances session index))
    (untimed : session.stream.awaitsTimestampedCommit = false → session.timestamped = 0)
    (bare : session.stream.awaitsEntityEvent = false → session.entities = 0) :
    let commit := pending utterances session index
    let message := commit.timestamped.getD commit.committed
    (∃ messageType, message.WellFormed messageType (utterances index).text) ∧
      outcome session.stream (utterances index) =
        [.final (utterances index).text message.messageType message.language.value?
          message.words.value? commit.entities, .endpoint] := by
  obtain ⟨timed, annotated⟩ := ready
  constructor
  · dsimp only [pending]
    split_ifs with arrived
    · exact ⟨_, (utterances index).timestamped_wellFormed⟩
    · exact ⟨_, (utterances index).committed_wellFormed⟩
  · have timed_iff : index < session.timestamped ↔ session.stream.awaitsTimestampedCommit = true := by
      refine ⟨fun arrived => ?_, fun awaited => by simpa [pending] using timed awaited⟩
      by_contra unawaited
      have := untimed (Bool.not_eq_true _ ▸ unawaited)
      omega
    have annotated_iff : index < session.entities ↔ session.stream.awaitsEntityEvent = true := by
      refine ⟨fun arrived => ?_, fun awaited => by simpa [pending] using annotated awaited⟩
      by_contra unawaited
      have := bare (Bool.not_eq_true _ ▸ unawaited)
      omega
    simp only [outcome, pending, timed_iff, annotated_iff]
    by_cases awaited : session.stream.awaitsTimestampedCommit = true
    · simp only [if_pos awaited, Option.getD_some]
    · simp only [if_neg awaited, Option.getD_none]

/-- The commit at a place of the window is emitted if it is ready, which the first alone may be. -/
theorem Window.tryEmitPending {first place : ℕ} (held : Window settings utterances session first)
    (announced : first + place < session.committed)
    (room : session.complete = first + 1 → session.stream.output.HasRoom 2)
    (ready : Ready session.stream (pending utterances session (first + place)) →
      place = 0 ∧ session.complete = first + 1)
    (unready : ¬Ready session.stream (pending utterances session (first + place)) →
      session.complete = first) :
    Correlated settings utterances { session with stream := session.stream.tryEmitPending place } := by
  have located : session.stream.pendingCommits[place]? =
      some (pending utterances session (first + place)) := by
    rw [held.waiting, List.getElem?_map, List.getElem?_range' (by omega), Nat.one_mul]
    rfl
  by_cases is_ready : Ready session.stream (pending utterances session (first + place))
  · obtain ⟨rfl, advanced⟩ := ready is_ready
    obtain ⟨⟨messageType, wellFormed⟩, outcome_eq⟩ := outcome_of_ready is_ready held.untimed held.bare
    obtain ⟨output, handled, events⟩ := handleCommitted_eq
      (s := { session.stream with pendingCommits := session.stream.pendingCommits.eraseIdx 0 })
      held.unfailed held.fresh wellFormed (utterances _).notBlank (room advanced)
      (pending utterances session (first + 0)).entities
    rw [tryEmitPending_ready located is_ready, handled]
    have rest : session.stream.pendingCommits.eraseIdx 0 =
        (List.range' (first + 1) (session.committed - (first + 1))).map (pending utterances session) := by
      obtain ⟨count, count_eq⟩ : ∃ count, session.committed - first = count + 1 :=
        ⟨session.committed - first - 1, by omega⟩
      rw [held.waiting, count_eq, List.range'_succ, show session.committed - (first + 1) = count by omega]
      rfl
    refine (?_ : Window settings utterances _ session.complete)
    rw [advanced]
    exact { held with
      waiting := rest
      emitted := by
        show output.events.filter isOutcome = _
        rw [events, List.filter_append, held.emitted, List.range_succ, List.flatMap_append]
        simp only [List.flatMap_singleton]
        exact congrArg _ outcome_eq.symm }
  · rw [tryEmitPending_unready located is_ready]
    have same := unready is_ready
    exact (same ▸ held : Window settings utterances session session.complete)

/-- A message comes to the commit it is about, and completes it just if it is the first that waits. -/
theorem Correlated.completePending (held : Correlated settings utterances session)
    {next : ElevenLabsSession W E} {timestamped entities : ℕ}
    (next_eq : session.counted timestamped entities = next) {index : ℕ}
    (waits : session.complete ≤ index) (announced : index < session.committed)
    (apart : session.Unmistakable utterances index)
    (room : session.stream.output.HasRoom (2 * (next.complete - session.complete)))
    {change : PendingElevenLabsCommit W E → PendingElevenLabsCommit W E}
    (changed : ∀ other, pending utterances next other =
      if other = index then change (pending utterances session other) else pending utterances session other)
    (timestamped_le : timestamped ≤ session.committed) (entities_le : entities ≤ session.committed)
    (untimed : session.stream.awaitsTimestampedCommit = false → timestamped = 0)
    (bare : session.stream.awaitsEntityEvent = false → entities = 0)
    (ready : Ready session.stream (pending utterances next index) →
      session.complete = index ∧ next.complete = index + 1)
    (unready : ¬Ready session.stream (pending utterances next index) → next.complete = session.complete)
    (missing : ElevenLabsFailure) :
    Correlated settings utterances { next with
      stream := session.stream.completePending (utterances index).text missing change } := by
  obtain ⟨place, rfl⟩ := Nat.exists_eq_add_of_le waits
  have found : session.stream.pendingCommits.findIdx?
      (fun entry => entry.text = (utterances (session.complete + place)).text) = some place := by
    rw [held.waiting, List.findIdx?_eq_some_iff_getElem]
    refine ⟨by simpa using (by omega), by simp [pending], fun other before => ?_⟩
    simp only [List.getElem_map, List.getElem_range', Nat.one_mul, pending, decide_eq_true_eq]
    intro same
    have := apart (session.complete + other) (by omega) same
    omega
  have modified : session.stream.pendingCommits.modify place change =
      (List.range' session.complete (session.committed - session.complete)).map
        (pending utterances next) := by
    rw [held.waiting]
    refine List.ext_getElem (by simp) fun other _ _ => ?_
    simp only [List.getElem_modify, List.getElem_map, List.getElem_range', Nat.one_mul, changed,
      Nat.add_left_cancel_iff, eq_comm]
  rw [ElevenLabsSttStream.completePending, found]
  subst next_eq
  -- the commit is changed in its place, and the window starts where it did
  have window : Window settings utterances
      { session.counted timestamped entities with
        stream := { session.stream with
          pendingCommits := session.stream.pendingCommits.modify place change } } session.complete :=
    { held with waiting := modified, timestamped_le, entities_le, untimed, bare }
  refine window.tryEmitPending announced (fun advanced => ?_) (fun is_ready => ?_) unready
  · have one : (session.counted timestamped entities).complete - session.complete = 1 :=
      Nat.sub_eq_of_eq_add' advanced
    rwa [one] at room
  · obtain ⟨first, advanced⟩ := ready is_ready
    exact ⟨by omega, advanced.trans (by omega)⟩

theorem Correlated.handleMessage (held : Correlated settings utterances session)
    (message : ElevenLabsMessage W E) :
    session.stream.handleMessage message =
      match message.messageType with
      | .sessionStarted | .warning => session.stream
      | .committedTranscriptEntities => session.stream.handleEntities message
      | .partialTranscript =>
        if session.stream.interimResults then session.stream.pushPartial message else session.stream
      | .finalTranscript | .finalTranscriptWithTimestamps => session.stream.pushFinal message none
      | .committedTranscript => session.stream.awaitMetadata message
      | .committedTranscriptWithTimestamps => session.stream.handleTimestamped message
      | .unknown => session.stream.fail .unknownMessage := by
  rw [ElevenLabsSttStream.handleMessage, held.unfailed, if_neg (by simp)]
  simp only [held.awaits, if_true]

theorem Correlated.complete_le (held : Correlated settings utterances session) :
    session.complete ≤ session.committed := by
  rw [complete]
  split_ifs
  · exact (min_le_left _ _).trans held.timestamped_le
  · exact held.timestamped_le
  · exact held.entities_le

theorem Correlated.committed (held : Correlated settings utterances session)
    (few : session.committed - session.complete < maxElevenLabsPendingCommits) :
    Correlated settings utterances (session.step utterances .committed) := by
  have wellFormed := (utterances session.committed).committed_wellFormed
  have length : session.stream.pendingCommits.length = session.committed - session.complete := by
    rw [held.waiting, List.length_map, List.length_range']
  have complete_le := held.complete_le
  rw [step, held.handleMessage, wellFormed.1]
  dsimp only
  rw [ElevenLabsSttStream.awaitMetadata, transcriptText_of_wellFormed wellFormed]
  dsimp only
  rw [if_neg (by omega)]
  refine { held with
    waiting := ?_
    timestamped_le := Nat.le_succ_of_le held.timestamped_le
    entities_le := Nat.le_succ_of_le held.entities_le }
  show session.stream.pendingCommits ++ [_] =
    (List.range' session.complete (session.committed + 1 - session.complete)).map (pending utterances session)
  have last : pending utterances session session.committed =
      { committed := (utterances session.committed).committed, text := (utterances session.committed).text } := by
    simp [pending, held.timestamped_le, held.entities_le]
  rw [Nat.succ_sub complete_le, List.range'_concat, List.map_append, ← held.waiting, Nat.one_mul,
    Nat.add_sub_cancel' complete_le, List.map_singleton, last]

theorem Correlated.timestamped (held : Correlated settings utterances session)
    (admitted : session.Admits utterances .timestamped) :
    Correlated settings utterances (session.step utterances .timestamped) := by
  obtain ⟨⟨awaited, announced⟩, apart, room⟩ := admitted
  have wellFormed := (utterances session.timestamped).timestamped_wellFormed
  rw [step, held.handleMessage, wellFormed.1]
  dsimp only
  rw [ElevenLabsSttStream.handleTimestamped, transcriptText_of_wellFormed wellFormed]
  refine held.completePending rfl ?_ announced apart room (fun other => ?_) announced held.entities_le
    (by simp [awaited]) held.bare (fun ready => ?_) (fun unready => ?_) _
  · rw [complete, if_pos awaited]
    split_ifs <;> omega
  · split_ifs with same
    · simp [pending, counted, same]
    · have earlier : other < session.timestamped + 1 ↔ other < session.timestamped := by omega
      simp [pending, counted, earlier]
  · have annotated : session.stream.awaitsEntityEvent = true → session.timestamped < session.entities := by
      simpa [pending, counted] using ready.2
    simp only [complete, counted, if_pos awaited]
    split_ifs with entity
    · have := annotated entity
      omega
    · exact ⟨rfl, rfl⟩
  · have bare : session.stream.awaitsEntityEvent = true ∧ session.entities ≤ session.timestamped := by
      simpa [Ready, pending, counted] using unready
    simp only [complete, counted, if_pos awaited, if_pos bare.1]
    omega

theorem Correlated.entities (held : Correlated settings utterances session)
    (admitted : session.Admits utterances .entities) :
    Correlated settings utterances (session.step utterances .entities) := by
  obtain ⟨⟨awaited, announced⟩, apart, room⟩ := admitted
  have wellFormed := (utterances session.entities).withEntities_wellFormed
  rw [step, held.handleMessage, wellFormed.1]
  dsimp only
  rw [ElevenLabsSttStream.handleEntities, if_neg (by simp [awaited]),
    transcriptText_of_wellFormed wellFormed, (utterances session.entities).entities_given]
  refine held.completePending rfl ?_ announced apart room (fun other => ?_) held.timestamped_le announced
    held.untimed (by simp [awaited]) (fun ready => ?_) (fun unready => ?_) _
  · rw [complete, if_pos awaited]
    split_ifs <;> omega
  · split_ifs with same
    · simp [pending, counted, same]
    · have earlier : other < session.entities + 1 ↔ other < session.entities := by omega
      simp [pending, counted, earlier]
  · have timed : session.stream.awaitsTimestampedCommit = true → session.entities < session.timestamped := by
      simpa [pending, counted] using ready.1
    simp only [complete, counted, if_pos awaited]
    split_ifs with timestamps
    · have := timed timestamps
      omega
    · exact ⟨rfl, rfl⟩
  · have untimed : session.stream.awaitsTimestampedCommit = true ∧ session.timestamped ≤ session.entities := by
      simpa [Ready, pending, counted, awaited] using unready
    simp only [complete, counted, if_pos awaited, if_pos untimed.1]
    omega

/-- A partial transcript is emitted, and no commit is affected. -/
theorem Correlated.other (held : Correlated settings utterances session) {message : ElevenLabsMessage W E}
    (admitted : session.Admits utterances (.other message)) :
    Correlated settings utterances (session.step utterances (.other message)) := by
  obtain ⟨expected, -, room⟩ := admitted
  rw [step, held.handleMessage]
  rcases expected with started | warned | wellFormed
  · rw [started]
    exact held
  · rw [warned]
    exact held
  · rw [wellFormed.1]
    dsimp only
    split_ifs with interim
    · rw [needs, if_pos ⟨wellFormed.1, interim⟩] at room
      rw [ElevenLabsSttStream.pushPartial, transcriptText_of_wellFormed wellFormed]
      obtain ⟨output, pushed, events, -⟩ := pushSegment_of_wellFormed wellFormed room (.partialText _)
      dsimp only
      rw [pushed]
      split_ifs
      · exact held
      · exact { held with
          emitted := by
            show output.events.filter isOutcome = _
            rw [events, List.filter_append, held.emitted, List.filter_cons_of_neg (by simp [isOutcome]),
              List.filter_nil, List.append_nil]
            rfl }
    · exact held

theorem Correlated.step (held : Correlated settings utterances session) (arrival : ElevenLabsArrival W E)
    (admitted : session.Admits utterances arrival) :
    Correlated settings utterances (session.step utterances arrival) := by
  cases arrival with
  | committed => exact held.committed admitted.1
  | timestamped => exact held.timestamped admitted
  | entities => exact held.entities admitted
  | other message => exact held.other admitted
  | read => exact { held with }

/-- A session before anything has arrived. -/
def opened (interimResults awaitsTimestampedCommit awaitsEntityEvent : Bool) : ElevenLabsSession W E :=
  { stream := { interimResults, awaitsTimestampedCommit, awaitsEntityEvent } }

/-- Everything has arrived that is awaited for the utterances that are announced. -/
def Settled (session : ElevenLabsSession W E) : Prop :=
  (session.stream.awaitsTimestampedCommit = true → session.timestamped = session.committed) ∧
    (session.stream.awaitsEntityEvent = true → session.entities = session.committed)

theorem Correlated.settled (held : Correlated settings utterances session) (settled : session.Settled) :
    session.complete = session.committed ∧ session.stream.pendingCommits = [] := by
  have all : session.complete = session.committed := by
    have awaited := held.awaits
    rw [ElevenLabsSttStream.awaitsMetadata, Bool.or_eq_true] at awaited
    rw [complete]
    split_ifs with timed annotated
    · rw [settled.1 timed, settled.2 annotated, min_self]
    · exact settled.1 timed
    · exact settled.2 (awaited.resolve_left timed)
  refine ⟨all, ?_⟩
  rw [held.waiting, all, Nat.sub_self]
  rfl

/-- In a run in which no message is about an utterance that has the text of an earlier one that still
waits, the stream does not fail, every utterance that is complete has been emitted with what is its own,
in order, and once everything has arrived no commit is pending. -/
theorem commits_correlated (utterances : ℕ → ElevenLabsUtterance W E)
    (interimResults awaitsTimestampedCommit awaitsEntityEvent : Bool)
    (awaits : awaitsTimestampedCommit = true ∨ awaitsEntityEvent = true)
    (arrivals : List (ElevenLabsArrival W E)) :
    let start := opened interimResults awaitsTimestampedCommit awaitsEntityEvent
    Lib.Admitted (Admits utterances) (step utterances) start arrivals →
      let session := Lib.run (step utterances) start arrivals
      session.stream.failure = none ∧
        session.stream.output.events.filter isOutcome =
          (List.range session.complete).flatMap (fun index => outcome start.stream (utterances index)) ∧
        (session.Settled → session.complete = session.committed ∧ session.stream.pendingCommits = []) := by
  intro start admitted session
  have initial : Correlated (awaitsTimestampedCommit, awaitsEntityEvent) utterances start :=
    { settings_eq := rfl
      awaits := Bool.or_eq_true _ _ ▸ awaits
      unfailed := rfl
      fresh := rfl
      waiting := by simp [start, opened]
      emitted := by simp [start, opened, complete, TranscriptOutput.events]
      timestamped_le := le_rfl
      entities_le := le_rfl
      untimed := fun _ => rfl
      bare := fun _ => rfl }
  have held : Correlated (awaitsTimestampedCommit, awaitsEntityEvent) utterances session :=
    Lib.run_invariant_of_admitted _ (fun _ arrival admitted held => held.step arrival admitted) initial admitted
  have settings_eq := Prod.mk.inj held.settings_eq
  refine ⟨held.unfailed, ?_, held.settled⟩
  rw [held.emitted]
  simp only [outcome, settings_eq]
  rfl

/-! ## Two utterances with one text -/

instance [DecidableEq W] (message : ElevenLabsMessage W E) (messageType : ElevenLabsMessageType)
    (text : Text) : Decidable (message.WellFormed messageType text) :=
  inferInstanceAs (Decidable (_ ∧ _ ∧ _ ∧ _ ∧ _))

instance [DecidableEq W] : (arrival : ElevenLabsArrival W E) → Decidable (session.Expected arrival)
  | .committed => inferInstanceAs (Decidable (_ < _))
  | .timestamped | .entities => inferInstanceAs (Decidable (_ ∧ _))
  | .other _ => inferInstanceAs (Decidable (_ ∨ _ ∨ _))
  | .read => .isTrue trivial

instance : (arrival : ElevenLabsArrival W E) → Decidable (session.Apart utterances arrival)
  | .timestamped | .entities => inferInstanceAs (Decidable (∀ earlier < _, _ → _))
  | .committed | .other _ | .read => .isTrue trivial

instance [DecidableEq W] (arrival : ElevenLabsArrival W E) : Decidable (session.Admits utterances arrival) :=
  inferInstanceAs (Decidable (_ ∧ _ ∧ _))

/-- Someone says yes, over and over. -/
def yes (index : ℕ) : ElevenLabsUtterance ℕ ℕ where
  text := [121]
  committed := ⟨.committedTranscript, some [121], .absent, .absent, .absent⟩
  timestamped := ⟨.committedTranscriptWithTimestamps, some [121], .absent, .given index, .absent⟩
  withEntities := ⟨.committedTranscriptEntities, some [121], .absent, .absent, .given index⟩
  entities := index
  notBlank := by decide
  committed_wellFormed := ⟨rfl, rfl, by decide, nofun, nofun⟩
  timestamped_wellFormed := ⟨rfl, rfl, by decide, nofun, nofun⟩
  withEntities_wellFormed := ⟨rfl, rfl, by decide, nofun, nofun⟩
  entities_given := rfl

/-- The metadata of the first comes before that of the second. -/
theorem commits_correlated_yes_yes :
    let session := Lib.run (step yes) (opened false true true)
      [.committed, .committed, .timestamped, .entities, .timestamped, .entities]
    session.stream.failure = none ∧ session.stream.pendingCommits = [] := by
  have correlated := commits_correlated yes false true true (.inl rfl)
    [.committed, .committed, .timestamped, .entities, .timestamped, .entities]
    (by decide)
  exact ⟨correlated.1, (correlated.2.2 ⟨by decide, by decide⟩).2⟩

/-- Both words come before both entities: the first is emitted with the words of the second, which stays
pending after everything has arrived. -/
theorem yes_yes_leftPending :
    let arrivals := [.committed, .committed, .timestamped, .timestamped, .entities, .entities]
    let session := Lib.run (step yes) (opened false true true) arrivals
    Lib.Admitted (fun session arrival => session.Expected arrival ∧
        session.stream.output.HasRoom (session.needs arrival)) (step yes) (opened false true true) arrivals ∧
      session.Settled ∧
      session.stream.output.events =
        [.final [121] .committedTranscriptWithTimestamps none (some 1) (some 0), .endpoint] ∧
      session.stream.pendingCommits.length = 1 := by
  exact ⟨by decide, ⟨by decide, by decide⟩, by decide, by decide⟩

end ElevenLabsSession

end Tvic
