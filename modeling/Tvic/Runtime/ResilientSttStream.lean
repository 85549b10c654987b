import Mathlib.Algebra.Notation.Defs
import Tvic.Media.AsyncQueue
import Tvic.Runtime.SttJournal

/-!
# The resilient STT stream

`ResilientSttStream` of `packages/runtime/src/resilient-stt-stream.ts`, from one await to the next:
admission to the journal, the loop that sends the journal to the active generation, the consumers of
the generations' events, recovery after a failure, and the two ways to end.

What the agent context coordinator, the provider and the timers answer comes in with the events, so
that every order and every answer is a run. `happened` keeps what an observer of the stream sees.
-/
namespace Tvic

open SttJournal

inductive SttRecoveryState where
  | healthy
  | recovering
  | opening
  | probationary
  | failed
  | closed
  deriving DecidableEq, Repr

inductive SttTimestampOrigin where
  | session
  | generation
  deriving DecidableEq, Repr

/-- A transcript event apart from its envelope. -/
inductive SttEventBody (δ : Type) where
  | segment (final : Bool) (text : String) (audioStartMs audioEndMs : Option δ)
  | endpoint (audioOffsetMs : Option δ)
  | speechStarted (audioOffsetMs : Option δ)
  deriving DecidableEq, Repr

structure SttEvent (δ : Type) where
  sessionId : SessionId
  sequence : Nat
  body : SttEventBody δ
  reconnectGeneration : Option Nat
  deriving DecidableEq, Repr

/-- `ResolvedSttReconnectOptions`, its times apart. -/
structure SttReconnectOptions where
  maxAttempts : Nat
  maxQuickFailures : Nat
  uncertainWindowMs : Nat
  maxBufferedBytes : Nat
  maxBufferedCommands : Nat

/-- What the constructor is given. -/
structure SttStreamConfig where
  sessionId : SessionId
  /-- `commitMode` is not "none". -/
  commitsToProvider : Bool
  timestampOrigin : SttTimestampOrigin
  options : SttReconnectOptions

/-- A normalized error, as far as recovery looks at it. -/
structure SttGenerationError where
  retriable : Bool
  /-- Its code is `STT_ERROR_CODES.recoveryExhausted`. -/
  exhausted : Bool
  deriving DecidableEq, Repr

inductive GenerationOutcome where
  | stable
  | failed (error : SttGenerationError)
  deriving DecidableEq, Repr

structure GenerationWait where
  generation : Nat
  replayBoundary : Nat
  stableReached : Bool
  deriving DecidableEq, Repr

inductive RecoveryPhase where
  /-- The failed stream is being closed, or the backoff passes. -/
  | pausing
  | opening
  /-- `#waitForGeneration` is awaited. -/
  | watching (generation stream : Nat)
  /-- It has resolved. -/
  | settled (generation stream : Nat) (outcome : GenerationOutcome)
  /-- `#recover` has returned, and its `finally` is still to run. -/
  | returned
  deriving DecidableEq, Repr

structure SttRecovery where
  phase : RecoveryPhase
  attempts : Nat
  quickFailures : Nat
  deriving DecidableEq, Repr

inductive JournalRun (δ : Type) where
  | looping
  | sending (entry : SttJournalEntry δ) (generation stream : Nat)
  | returned
  deriving DecidableEq, Repr

/-- Where `#closeGracefully` stands. -/
inductive ClosePhase where
  | unasked
  | draining (drained : Bool)
  | finishing (failed : Bool)
  | closed (failed : Bool)
  deriving DecidableEq, Repr

/-- What the coordinator says of its writes: `pendingWriteCount` of the awaited generation and
`inFlightWriteCount` are positive. -/
structure ContextWrites where
  pending : Bool
  inFlight : Bool

/-- What the coordinator does with a context entry that the journal has come to. -/
inductive ContextAnswer where
  | applied
  | dispatched
  | dispatches

/-- What an observer sees of the stream. -/
inductive SttHappening (δ : Type) where
  | admitted (entry : SttJournalEntry δ)
  /-- A generation becomes active. -/
  | opened (generation : Nat) (offsetMs : δ)
  /-- An entry is handed to a generation's stream. -/
  | sent (generation : Nat) (entry : SttJournalEntry δ)
  /-- The journal moves past an entry that a generation has. -/
  | dispatched (generation id : Nat) (atMs : Int)
  | resolved (commit : Nat)
  | rejected (commit : Nat)
  /-- An event of the active generation arrives, with the state of the stream. -/
  | received (arrival generation : Nat) (state : SttRecoveryState) (event : SttEvent δ)
  | emitted (arrival generation : Nat) (event : SttEvent δ)
  /-- The queue of the events does not take one. -/
  | refused (arrival generation : Nat)
  | failed (generation : Nat)
  | healthy (generation : Nat)
  | terminal
  deriving DecidableEq

structure ResilientSttStream (δ : Type) where
  journal : List (SttJournalEntry δ)
  /-- The entries created so far. -/
  entries : Nat
  state : SttRecoveryState
  active : Option Nat
  generation : Nat
  generationOffsetMs : δ
  cursor : Nat
  sequence : Nat
  sessionAudioMs : δ
  isClosed : Bool
  closing : Bool
  terminal : Bool
  generationWait : Option GenerationWait
  replayStart : Nat
  replayBoundary : Nat
  heldEndpoints : List (Nat × Nat × SttEvent δ)
  events : AsyncQueue (SttEvent δ) Unit
  recovery : Option SttRecovery
  recoveryRestartSource : Option SttGenerationError
  journalRun : JournalRun δ
  closePhase : ClosePhase
  /-- The streams are being closed, by either way to end. -/
  shutting : Bool
  pendingEntries : List Nat
  contextVersion : Nat
  arrivals : Nat
  happened : List (SttHappening δ)

inductive SttStreamEvent (δ : Type) where
  | sendAudio (chunk : InputAudioChunk δ) (now admittedAtMs : Int)
  | commit (now admittedAtMs : Int)
  /-- `coalesced` is the pending entry that takes the new context. -/
  | updateAgentContext (coalesced : Option Nat) (now admittedAtMs : Int)
  | contextSettles (id : Nat)
  | contextCompletes (writes : ContextWrites)
  | contextFails (generation stream : Nat) (error : SttGenerationError) (now : Int)
  | usageFails
  | journalTurn (answer : ContextAnswer) (now : Int) (writes : ContextWrites)
  /-- The send that `#runJournal` awaits resolves, or rejects with an error. -/
  | sendSettles (error : Option SttGenerationError) (now : Int) (writes : ContextWrites)
  | providerEvent (generation stream : Nat) (event : SttEvent δ) (now : Int)
  | providerEnds (generation stream : Nat) (error : SttGenerationError) (now : Int)
  | recoveryPaused (expired : Bool)
  | recoveryThrows
  | opened (stream : Nat) (replayed : List Nat)
  | openFails (error : SttGenerationError)
  | stableTimer (writes : ContextWrites)
  | deadlineTimer
  | recoveryContinues
  | recoveryFinally
  | close (writes : ContextWrites)
  | closeDrains
  | closeTimesOut
  | abort
  | streamsClosed
  | next (call : Nat)
  | consumerReturn

namespace ResilientSttStream

variable {δ : Type}

def sttEventQueueOptions : AsyncQueueOptions where
  maxBuffered := some asyncQueueDefaultMaxBuffered
  positive := by
    rintro _ ⟨⟩
    decide
  onOverflow := false

/-- The stream over a first generation. -/
def new [Zero δ] (stream : Nat) : ResilientSttStream δ where
  journal := []
  entries := 0
  state := .healthy
  active := some stream
  generation := 1
  generationOffsetMs := 0
  cursor := 0
  sequence := 1
  sessionAudioMs := 0
  isClosed := false
  closing := false
  terminal := false
  generationWait := none
  replayStart := 0
  replayBoundary := 0
  heldEndpoints := []
  events := .new sttEventQueueOptions
  recovery := none
  recoveryRestartSource := none
  journalRun := .looping
  closePhase := .unasked
  shutting := false
  pendingEntries := []
  contextVersion := 0
  arrivals := 0
  happened := []

end ResilientSttStream

namespace SttJournalEntry

variable {δ : Type}

def id : SttJournalEntry δ → Nat
  | .audio id _ _ _ _ => id
  | .commit id _ _ => id
  | .agentContext id _ _ _ => id

/-- `entry.settled = true`, where it has the field. -/
def settle : SttJournalEntry δ → SttJournalEntry δ
  | .audio id chunk offsetMs admittedAtMs dispatchedAtMs =>
      .audio id chunk offsetMs admittedAtMs dispatchedAtMs
  | .commit id admittedAtMs _ => .commit id admittedAtMs true
  | .agentContext id version admittedAtMs _ => .agentContext id version admittedAtMs true

def isUnsettledCommit : SttJournalEntry δ → Bool
  | .commit _ _ settled => !settled
  | _ => false

def isUnsettledContext : SttJournalEntry δ → Bool
  | .agentContext _ _ _ settled => !settled
  | _ => false

/-- What the acceptance of a send writes to its entry. -/
def accept (now : Int) : SttJournalEntry δ → SttJournalEntry δ
  | .audio id chunk offsetMs admittedAtMs _ => .audio id chunk offsetMs admittedAtMs (some now)
  | entry => entry.settle

def withVersion (version : Nat) : SttJournalEntry δ → SttJournalEntry δ
  | .agentContext id _ admittedAtMs settled => .agentContext id version admittedAtMs settled
  | entry => entry

end SttJournalEntry

namespace ResilientSttStream

variable {δ : Type} (config : SttStreamConfig) (s : ResilientSttStream δ)

def changeEntry (id : Nat) (change : SttJournalEntry δ → SttJournalEntry δ) :
    ResilientSttStream δ :=
  { s with journal := s.journal.map fun entry => if entry.id = id then change entry else entry }

def happen (happening : SttHappening δ) : ResilientSttStream δ :=
  { s with happened := s.happened ++ [happening] }

/-! ### Terminal failure -/

def resolvePhase (outcome : GenerationOutcome) : RecoveryPhase → RecoveryPhase
  | .watching generation stream => .settled generation stream outcome
  | phase => phase

/-- `#clearGenerationWait`; the wait's promise is the one that `#recover` awaits. -/
def clearGenerationWait (outcome : GenerationOutcome) : ResilientSttStream δ :=
  match s.generationWait with
  | none => s
  | some _ =>
    { s with
      generationWait := none
      recovery := s.recovery.map fun recovery =>
        { recovery with phase := resolvePhase outcome recovery.phase } }

def isJournalDrained (writes : ContextWrites) : Bool :=
  s.terminal || (decide (s.journal.length ≤ s.cursor) && !writes.inFlight)

/-- The first half of `#notifyProgress`. -/
def resolveStable (writes : ContextWrites) : ResilientSttStream δ :=
  match s.generationWait with
  | some wait =>
    if wait.stableReached && !writes.pending && decide (wait.replayBoundary ≤ s.cursor) then
      s.clearGenerationWait .stable
    else s
  | none => s

/-- The second half, for the one caller of `#waitForJournalDrain`. -/
def resolveDrain (writes : ContextWrites) : ResilientSttStream δ :=
  match s.closePhase with
  | .draining _ =>
    if s.isJournalDrained writes || s.isClosed then { s with closePhase := .draining true } else s
  | _ => s

def notifyProgress (writes : ContextWrites) : ResilientSttStream δ :=
  (s.resolveStable writes).resolveDrain writes

def rejectPending : ResilientSttStream δ :=
  { s with
    journal := s.journal.map fun entry =>
      if entry.isUnsettledCommit || entry.isUnsettledContext then entry.settle else entry
    pendingEntries := []
    happened := s.happened ++
      (s.journal.filter SttJournalEntry.isUnsettledCommit).map fun entry => .rejected entry.id }

def failTerminal (error : SttGenerationError) : ResilientSttStream δ :=
  if s.terminal || s.isClosed then s
  else
    let s := { s with terminal := true, state := .failed }.happen .terminal
    let s := (s.clearGenerationWait (.failed error)).rejectPending
    let s := { s with events := (s.events.fail ()).2 }
    let s := s.notifyProgress ⟨false, false⟩
    -- `#closeActive` runs up to its first await
    { s with active := none }

/-! ### The journal -/

def compactJournal (now : Int) : ResilientSttStream δ :=
  let compacted := SttJournal.compactJournal s.journal s.cursor s.replayStart s.replayBoundary now
    config.options.uncertainWindowMs
  { s with
    journal := compacted.1
    cursor := compacted.2.cursor
    replayStart := compacted.2.replayStart
    replayBoundary := compacted.2.replayBoundary
    generationWait := s.generationWait.map fun wait =>
      if wait.replayBoundary = s.replayBoundary then
        { wait with replayBoundary := compacted.2.replayBoundary }
      else wait }

def detachedPendingEntryCount : Nat :=
  (s.pendingEntries.filter fun id => s.journal.all fun entry => entry.id ≠ id).length

def bufferedCommandCount : Nat :=
  (s.journal.filter fun entry => !isSettledContext entry).length + s.detachedPendingEntryCount

def hasCommandCapacity : Bool := s.bufferedCommandCount < config.options.maxBufferedCommands

def accepting : Bool := !(s.isClosed || s.closing || s.terminal)

def bufferOverflow : SttGenerationError := ⟨false, false⟩

def push (entry : SttJournalEntry δ) : ResilientSttStream δ :=
  { s with journal := s.journal ++ [entry], entries := s.entries + 1 }.happen (.admitted entry)

def sendAudio [Add δ] (chunk : InputAudioChunk δ) (now admittedAtMs : Int) : ResilientSttStream δ :=
  if !s.accepting then s
  else
    let s := s.compactJournal config now
    if !s.hasCommandCapacity config then s.failTerminal bufferOverflow
    else if config.options.maxBufferedBytes < journalBytes s.journal + chunk.bytes.length then
      s.failTerminal bufferOverflow
    else
      { s.push (.audio s.entries chunk s.sessionAudioMs admittedAtMs none) with
        sessionAudioMs := s.sessionAudioMs + chunk.durationMs }

def commit (now admittedAtMs : Int) : ResilientSttStream δ :=
  if !s.accepting then s
  else
    let s := s.compactJournal config now
    if !s.hasCommandCapacity config then s.failTerminal bufferOverflow
    else s.push (.commit s.entries admittedAtMs false)

/-- `update` of the coordinator, from its `compactJournal` on. -/
def updateAgentContext (coalesced : Option Nat) (now admittedAtMs : Int) : ResilientSttStream δ :=
  if !s.accepting then s
  else
    let s := s.compactJournal config now
    let s := { s with contextVersion := s.contextVersion + 1 }
    match coalesced with
    | some id => s.changeEntry id (·.withVersion s.contextVersion)
    | none =>
      if !s.hasCommandCapacity config then s.failTerminal bufferOverflow
      else s.push (.agentContext s.entries s.contextVersion admittedAtMs false)

/-- `settle` of the coordinator. Only context entries are settled by it. -/
def settleContext (id : Nat) : ResilientSttStream δ :=
  { s with
    journal := s.journal.map fun entry =>
      if entry.id = id && entry.isUnsettledContext then entry.settle else entry
    pendingEntries := s.pendingEntries.filter (· ≠ id) }

/-! ### Events to the outside -/

section Events

variable [Zero δ] [Add δ] [DecidableEq δ]

def shiftBody (offsetMs : δ) : SttEventBody δ → SttEventBody δ
  | .segment final text audioStartMs audioEndMs =>
      .segment final text (audioStartMs.map (· + offsetMs)) (audioEndMs.map (· + offsetMs))
  | .endpoint audioOffsetMs => .endpoint (audioOffsetMs.map (· + offsetMs))
  | .speechStarted audioOffsetMs => .speechStarted (audioOffsetMs.map (· + offsetMs))

def normalizeAudioOffsets (event : SttEvent δ) (origin : SttTimestampOrigin) (offsetMs : δ) :
    SttEvent δ :=
  if origin = .session ∨ offsetMs = 0 then event
  else { event with body := shiftBody offsetMs event.body }

end Events

def emit (event : SttEvent δ) (arrival generation : Nat) : ResilientSttStream δ :=
  if s.isClosed || s.terminal then s
  else
    let publicEvent :=
      { event with sequence := s.sequence, reconnectGeneration := some generation }
    let s := { s with sequence := s.sequence + 1 }
    match s.events.push publicEvent with
    | (.accepted, _, events) =>
        { s with events }.happen (.emitted arrival generation publicEvent)
    | (_, _, events) =>
        ({ s with events }.happen (.refused arrival generation)).failTerminal bufferOverflow

def isEndpoint : SttEventBody δ → Bool
  | .endpoint _ => true
  | _ => false

def forwardGenerationEvent [Zero δ] [Add δ] [DecidableEq δ] (event : SttEvent δ)
    (arrival generation : Nat) : ResilientSttStream δ :=
  let normalized := normalizeAudioOffsets event config.timestampOrigin s.generationOffsetMs
  if isEndpoint normalized.body && (s.state ≠ .healthy || s.cursor < s.replayBoundary) then
    if config.options.maxBufferedCommands ≤ s.heldEndpoints.length then s.failTerminal bufferOverflow
    else { s with heldEndpoints := s.heldEndpoints ++ [(arrival, generation, normalized)] }
  else s.emit normalized arrival generation

def releaseHeldEndpoints : ResilientSttStream δ :=
  if s.state ≠ .healthy || s.cursor < s.replayBoundary then s
  else
    s.heldEndpoints.foldl (fun s held => s.emit held.2.2 held.1 held.2.1)
      { s with heldEndpoints := [] }

/-! ### Failure and recovery -/

def startRecovery (source : SttGenerationError) : ResilientSttStream δ :=
  if s.isClosed || s.terminal then s
  else
    match s.recovery with
    | some _ => { s with recoveryRestartSource := some source }
    | none => { s with recovery := some { phase := .pausing, attempts := 0, quickFailures := 0 } }

def current (generation stream : Nat) : Bool :=
  generation = s.generation && s.active = some stream

def handleGenerationFailure (generation stream : Nat) (error : SttGenerationError) (now : Int) :
    ResilientSttStream δ :=
  if s.isClosed || s.terminal || !s.current generation stream then s
  else
    let replayStart := findReplayStart s.journal s.cursor now config.options.uncertainWindowMs
    let s :=
      { s with
        heldEndpoints := []
        active := none
        replayStart
        replayBoundary := s.journal.length
        cursor := replayStart }.happen (.failed generation)
    if s.closing || !error.retriable then s.failTerminal error
    else
      let s := { s with state := .recovering }
      (s.clearGenerationWait (.failed error)).startRecovery error

def consumeEvent [Zero δ] [Add δ] [DecidableEq δ] (generation stream : Nat) (event : SttEvent δ)
    (now : Int) : ResilientSttStream δ :=
  let arrival := s.arrivals
  let s := { s with arrivals := arrival + 1 }
  if s.isClosed || !s.current generation stream then s
  else
    let s := s.happen (.received arrival generation s.state event)
    if event.sessionId ≠ config.sessionId then
      -- the identity mismatch is not retriable
      s.handleGenerationFailure config generation stream ⟨false, false⟩ now
    else s.forwardGenerationEvent config event arrival generation

def generationAudioOffset : δ :=
  ((s.journal.drop s.replayStart).findSome? fun entry =>
    match entry with
    | .audio _ _ offsetMs _ _ => some offsetMs
    | _ => none).getD s.sessionAudioMs

def withPhase (recovery : SttRecovery) (phase : RecoveryPhase) : ResilientSttStream δ :=
  { s with recovery := some { recovery with phase } }

/-- The failed attempts are counted, and the loop of `#recover` goes on while they are few. -/
def countQuickFailure (recovery : SttRecovery) (cause : SttGenerationError) :
    ResilientSttStream δ :=
  let counted := { recovery with quickFailures := recovery.quickFailures + 1 }
  if config.options.maxQuickFailures ≤ counted.quickFailures then
    (s.withPhase counted .returned).failTerminal cause
  else s.withPhase counted .pausing

/-- The loop of `#recover` from its head to `#openAttempt`; `expired` says that the recovery has
taken too long. -/
def recoveryPaused (recovery : SttRecovery) (expired : Bool) : ResilientSttStream δ :=
  if s.isClosed || s.terminal then s.withPhase recovery .returned
  else if expired || decide (config.options.maxAttempts ≤ recovery.attempts) then
    (s.withPhase recovery .returned).failTerminal ⟨false, true⟩
  else
    { s.withPhase { recovery with attempts := recovery.attempts + 1 } .opening with
      state := .opening }

/-- `#openAttempt` has resolved; `replayed` are the context entries that `replayLatest` takes up. -/
def opened (recovery : SttRecovery) (stream : Nat) (replayed : List Nat) : ResilientSttStream δ :=
  if s.isClosed || s.terminal then s.withPhase recovery .returned
  else
    let generation := s.generation + 1
    let taken := replayed.filter fun id =>
      s.journal.any (fun entry => entry.id = id && entry.isUnsettledContext) &&
        !s.pendingEntries.contains id
    let s :=
      { s with
        pendingEntries := s.pendingEntries ++ taken.dedup
        generation
        active := some stream
        generationOffsetMs := s.generationAudioOffset
        state := .probationary
        generationWait := some
          { generation, replayBoundary := s.replayBoundary, stableReached := false } }
    (s.withPhase recovery (.watching generation stream)).happen
      (.opened generation s.generationOffsetMs)

def openFails (recovery : SttRecovery) (error : SttGenerationError) : ResilientSttStream δ :=
  if !error.retriable then (s.withPhase recovery .returned).failTerminal error
  else s.countQuickFailure config recovery error

/-- `#recover` goes on after `#waitForGeneration`. -/
def recoveryContinues (recovery : SttRecovery) (generation stream : Nat) :
    GenerationOutcome → ResilientSttStream δ
  | .stable =>
      if s.isClosed || s.terminal || !s.current generation stream || s.state ≠ .probationary then
        { s with recoveryRestartSource := none }.countQuickFailure config recovery ⟨true, false⟩
      else
        let s := { s with state := .healthy, replayStart := s.cursor }.happen (.healthy generation)
        { s.releaseHeldEndpoints with replayBoundary := 0 }.withPhase recovery .returned
  | .failed error =>
      if !error.retriable || error.exhausted then
        (s.withPhase recovery .returned).failTerminal error
      else s.countQuickFailure config recovery error

def recoveryFinally : ResilientSttStream δ :=
  let restartSource := s.recoveryRestartSource
  let s := { s with recovery := none, recoveryRestartSource := none }
  match restartSource with
  | some source =>
      if !s.isClosed && !s.terminal && s.state = .recovering && s.active.isNone then
        s.startRecovery source
      else s
  | none => s

def stableTimer (wait : GenerationWait) (writes : ContextWrites) : ResilientSttStream δ :=
  if s.isClosed || s.terminal then s
  else
    let s := { s with generationWait := some { wait with stableReached := true } }
    if writes.pending || decide (s.cursor < wait.replayBoundary) then s
    else s.clearGenerationWait .stable

/-! ### The journal loop -/

def afterDispatch (now : Int) (writes : ContextWrites) : ResilientSttStream δ :=
  ((s.notifyProgress writes).compactJournal config now).releaseHeldEndpoints

/-- The cursor moves past an entry. -/
def advance (id : Nat) (now : Int) : ResilientSttStream δ :=
  { s with cursor := s.cursor + 1 }.happen (.dispatched s.generation id now)

def contextTurn (entry : SttJournalEntry δ) (answer : ContextAnswer) (now : Int) :
    ResilientSttStream δ :=
  if isSettledContext entry then { s with cursor := s.cursor + 1 }
  else
    match answer with
    | .applied => (s.settleContext entry.id).advance entry.id now
    | _ =>
      let pendingEntries :=
        if s.pendingEntries.contains entry.id then s.pendingEntries
        else s.pendingEntries ++ [entry.id]
      { s with pendingEntries }.advance entry.id now

/-- One round of the loop of `#runJournal`, to its await. -/
def journalTurn (answer : ContextAnswer) (now : Int) (writes : ContextWrites) :
    ResilientSttStream δ :=
  if s.isClosed || s.terminal then { s with journalRun := .returned }
  else
    match s.journal[s.cursor]? with
    | none => if s.closing then { s with journalRun := .returned } else s
    | some entry =>
      match s.active with
      | none => s
      | some stream =>
        if s.state ≠ .healthy ∧ s.state ≠ .probationary then s
        else
          match entry with
          | .agentContext .. => (s.contextTurn entry answer now).afterDispatch config now writes
          | .commit id _ _ =>
            if config.commitsToProvider then
              { s with journalRun := .sending entry s.generation stream }.happen
                (.sent s.generation entry)
            else
              (((s.changeEntry id (·.settle)).happen (.resolved id)).advance id now).afterDispatch
                config now writes
          | .audio .. =>
            { s with journalRun := .sending entry s.generation stream }.happen
              (.sent s.generation entry)

/-- `#runJournal` goes on after the send that it awaits. -/
def sendSettles (entry : SttJournalEntry δ) (generation stream : Nat)
    (error : Option SttGenerationError) (now : Int) (writes : ContextWrites) :
    ResilientSttStream δ :=
  let s := { s with journalRun := .looping }
  match error with
  | some error => s.handleGenerationFailure config generation stream error now
  | none =>
    if !s.current generation stream then s
    else
      let s := s.changeEntry entry.id (·.accept now)
      let s := if isCommit entry then s.happen (.resolved entry.id) else s
      (s.advance entry.id now).afterDispatch config now writes

/-! ### The two ways to end -/

/-- What `#closeGracefully` and `#abort` do once nothing more is to be sent. -/
def shut : ResilientSttStream δ :=
  let s := { s with isClosed := true, closing := true, state := .closed }
  let s := (s.clearGenerationWait (.failed ⟨false, false⟩)).rejectPending
  { s.notifyProgress ⟨false, false⟩ with shutting := true }

def close (writes : ContextWrites) : ResilientSttStream δ :=
  match s.closePhase with
  | .unasked =>
    if s.isClosed && !s.terminal then { s with closePhase := .closed false }
    else
      let s := { s with closing := true }
      if s.terminal then { s.shut with closePhase := .finishing false }
      else { s with closePhase := .draining (s.isJournalDrained writes) }
  | _ => s

def closeDrains : ResilientSttStream δ :=
  match s.closePhase with
  | .draining true => { s.shut with closePhase := .finishing false }
  | _ => s

/-- The drain takes too long, or is cut off. -/
def closeTimesOut : ResilientSttStream δ :=
  match s.closePhase with
  | .draining _ => { (s.failTerminal ⟨false, false⟩).shut with closePhase := .finishing true }
  | _ => s

def abort : ResilientSttStream δ := if s.isClosed then s else s.shut

def streamsClosed : ResilientSttStream δ :=
  if s.shutting then
    let closePhase := match s.closePhase with
      | .finishing failed => .closed failed
      | phase => phase
    { s with active := none, events := s.events.close.2, closePhase }
  else s

/-- One event; one that cannot happen changes nothing. -/
def step [Zero δ] [Add δ] [DecidableEq δ] (s : ResilientSttStream δ) :
    SttStreamEvent δ → ResilientSttStream δ
  | .sendAudio chunk now admittedAtMs => s.sendAudio config chunk now admittedAtMs
  | .commit now admittedAtMs => s.commit config now admittedAtMs
  | .updateAgentContext coalesced now admittedAtMs =>
      s.updateAgentContext config coalesced now admittedAtMs
  | .contextSettles id => s.settleContext id
  | .contextCompletes writes => s.notifyProgress writes
  | .contextFails generation stream error now =>
      s.handleGenerationFailure config generation stream error now
  | .usageFails => s.failTerminal ⟨false, false⟩
  | .journalTurn answer now writes =>
      match s.journalRun with
      | .looping => s.journalTurn config answer now writes
      | _ => s
  | .sendSettles error now writes =>
      match s.journalRun with
      | .sending entry generation stream =>
          s.sendSettles config entry generation stream error now writes
      | _ => s
  | .providerEvent generation stream event now => s.consumeEvent config generation stream event now
  | .providerEnds generation stream error now =>
      s.handleGenerationFailure config generation stream error now
  | .recoveryPaused expired =>
      match s.recovery with
      | some { phase := .pausing, attempts, quickFailures } =>
          s.recoveryPaused config ⟨.pausing, attempts, quickFailures⟩ expired
      | _ => s
  | .recoveryThrows =>
      match s.recovery with
      | some { phase := .pausing, attempts, quickFailures } =>
          (s.withPhase ⟨.pausing, attempts, quickFailures⟩ .returned).failTerminal ⟨false, true⟩
      | _ => s
  | .opened stream replayed =>
      match s.recovery with
      | some { phase := .opening, attempts, quickFailures } =>
          s.opened ⟨.opening, attempts, quickFailures⟩ stream replayed
      | _ => s
  | .openFails error =>
      match s.recovery with
      | some { phase := .opening, attempts, quickFailures } =>
          s.openFails config ⟨.opening, attempts, quickFailures⟩ error
      | _ => s
  | .stableTimer writes =>
      match s.generationWait with
      | some wait => s.stableTimer wait writes
      | none => s
  | .deadlineTimer =>
      if s.isClosed || s.terminal then s else s.clearGenerationWait (.failed ⟨false, true⟩)
  | .recoveryContinues =>
      match s.recovery with
      | some { phase := .settled generation stream outcome, attempts, quickFailures } =>
          s.recoveryContinues config ⟨.settled generation stream outcome, attempts, quickFailures⟩
            generation stream outcome
      | _ => s
  | .recoveryFinally =>
      match s.recovery with
      | some { phase := .returned, .. } => s.recoveryFinally
      | _ => s
  | .close writes => s.close writes
  | .closeDrains => s.closeDrains
  | .closeTimesOut => s.closeTimesOut
  | .abort => s.abort
  | .streamsClosed => s.streamsClosed
  | .next call => { s with events := (s.events.next call).2 }
  | .consumerReturn => { s with events := s.events.consumerReturn.2 }

/-- The stream over a first generation, after these events. -/
def after [Zero δ] [Add δ] [DecidableEq δ] (stream : Nat) (events : List (SttStreamEvent δ)) :
    ResilientSttStream δ :=
  Lib.run (step config) (new stream) events

end ResilientSttStream

end Tvic
