import Tvic.Lib.TextCuts

/-!
# The incremental input of speech synthesis

`IncrementalTtsInput` of `packages/runtime/src/incremental-tts-input.ts`. Tokens gather in a buffer;
sentences that are complete, and whatever a boundary or the end finds there, go to the session in
batches of bounded length. Operations run one after the other, each to its end; what the provider makes
of a call is a `TtsProvider`, how a buffer falls into sentences a `SentenceRules`. There is no
cancellation.
-/
namespace Tvic

open Lib (Text utf16 characters isWhitespace isSurrogate utf8Bytes)

/-- The sentence segmenter and the character classes of the two patterns, which hold no surrogate. -/
structure SentenceRules where
  segment : Text → List Text
  segment_flatten : ∀ text, (segment text).flatten = text
  /-- `\p{Sentence_Terminal}` and the ellipsis -/
  terminal : Text → Bool
  /-- White space, closing punctuation and quotes. -/
  closing : Text → Bool
  terminal_surrogate : ∀ unit, isSurrogate unit = true → terminal [unit] = false
  closing_surrogate : ∀ unit, isSurrogate unit = true → closing [unit] = false

namespace SentenceRules

variable (rules : SentenceRules)

def hasTerminal (text : Text) : Bool := (characters text).any rules.terminal

/-- A terminal and nothing but closing characters after it. -/
def endsCharacters : List Text → Bool
  | [] => false
  | character :: rest => rules.terminal character && rest.all rules.closing || endsCharacters rest

def endsSentence (segment : Text) : Bool := rules.endsCharacters (characters segment)

end SentenceRules

/-! ## Batches -/

/-- The variables of `findBatchBoundary`. -/
structure BoundaryScan where
  characters : Nat
  lastWordBoundary : Nat
  firstNonWhitespace : Bool
  safeBoundary : Nat

def scanBoundary (maximumCharacters : Nat) (scan : BoundaryScan) : List Text → BoundaryScan
  | [] => scan
  | character :: rest =>
    if maximumCharacters < scan.characters + character.length then scan
    else
      let characters := scan.characters + character.length
      let whitespace := character.any isWhitespace
      scanBoundary maximumCharacters
        { characters
          lastWordBoundary :=
            if whitespace && scan.firstNonWhitespace then characters else scan.lastWordBoundary
          firstNonWhitespace := scan.firstNonWhitespace || !whitespace
          safeBoundary := characters }
        rest

def findBatchBoundary (text : Text) (maximumCharacters : Nat) : Nat :=
  let start : BoundaryScan :=
    { characters := 0, lastWordBoundary := 0, firstNonWhitespace := false, safeBoundary := 0 }
  let scan := scanBoundary maximumCharacters start (characters text)
  if 0 < scan.lastWordBoundary then scan.lastWordBoundary else scan.safeBoundary

/-- The rounds of the loop; nothing when they do not suffice. -/
def splitRounds (maximumCharacters : Nat) : Nat → Text → Option (List Text)
  | 0, remaining => if maximumCharacters < remaining.length then none else some (lastBatch remaining)
  | rounds + 1, remaining =>
    if maximumCharacters < remaining.length then
      let boundary := findBatchBoundary remaining maximumCharacters
      (splitRounds maximumCharacters rounds (remaining.drop boundary)).map
        (remaining.take boundary :: ·)
    else some (lastBatch remaining)
where
  lastBatch (remaining : Text) : List Text := if remaining.isEmpty then [] else [remaining]

/-- The batches, or nothing when the loop does not end: each round that makes progress takes a unit
at least, and a round that makes none is repeated for ever. -/
def splitTextIntoBatches (text : Text) (maximumCharacters : Nat) : Option (List Text) :=
  splitRounds maximumCharacters text.length text

/-- The variables of `#takeCompleteSentences`. -/
structure SentenceBatches where
  batches : List Text
  batch : List Text
  batchCharacters : Nat
  consumed : Nat
  sentenceCount : Nat

namespace SentenceBatches

def empty : SentenceBatches where
  batches := []
  batch := []
  batchCharacters := 0
  consumed := 0
  sentenceCount := 0

def flushBatch (state : SentenceBatches) : SentenceBatches :=
  if state.batchCharacters = 0 then state
  else
    { state with
      batches := state.batches ++ [state.batch.flatten]
      batch := []
      batchCharacters := 0 }

/-- Make room for one more character: the batch ends at a word boundary and its rest is carried on,
or it ends here. -/
def makeRoom (maxBatchCharacters : Nat) (state : SentenceBatches) : SentenceBatches :=
  let text := state.batch.flatten
  let boundary := findBatchBoundary text maxBatchCharacters
  if 0 < boundary ∧ boundary < text.length then
    { state with
      batches := state.batches ++ [text.take boundary]
      batch := characters (text.drop boundary)
      batchCharacters := text.length - boundary }
  else state.flushBatch

def addCharacter (maxBatchCharacters : Nat) (state : SentenceBatches) (character : Text) :
    SentenceBatches :=
  let state :=
    if maxBatchCharacters < state.batchCharacters + character.length then
      state.makeRoom maxBatchCharacters
    else state
  { state with
    batch := state.batch ++ [character]
    batchCharacters := state.batchCharacters + character.length }

def individualTtsSentencesPerPush : Nat := 32

def addSentence (maxBatchCharacters : Nat) (state : SentenceBatches) (segment : Text) :
    SentenceBatches :=
  let stop := state.consumed + segment.length
  let counted := { state with sentenceCount := state.sentenceCount + 1 }
  let added := (characters segment).foldl (addCharacter maxBatchCharacters) counted
  let flushed :=
    if added.sentenceCount ≤ individualTtsSentencesPerPush then added.flushBatch else added
  { flushed with consumed := stop }

/-- The segments up to the first that does not end a sentence. -/
def addSentences (rules : SentenceRules) (maxBatchCharacters : Nat) (state : SentenceBatches)
    (segments : List Text) : SentenceBatches :=
  (segments.takeWhile rules.endsSentence).foldl (addSentence maxBatchCharacters) state

end SentenceBatches

/-- The batches of the complete sentences of a buffer, and what stays in it. -/
def takeCompleteSentences (rules : SentenceRules) (maxBatchCharacters : Nat) (buffer : Text) :
    List Text × Text :=
  let state :=
    (SentenceBatches.empty.addSentences rules maxBatchCharacters (rules.segment buffer)).flushBatch
  (state.batches, buffer.drop state.consumed)

/-! ## Operations -/

/-- What becomes of the calls to the provider's session: the errors they end with. -/
structure TtsProvider (ε : Type) where
  openError : Option ε
  /-- Of the calls of `sendText`, by number. -/
  sendError : Nat → Option ε
  flushError : Nat → Option ε
  finishError : Option ε

inductive TtsInputError (ε : Type) where
  | finished
  | resourceLimit (resource : String) (unit : String) (limit : Nat)
  | provider (error : ε)
  deriving DecidableEq, Repr

/-- `#session`; finishing without text leaves it closed. -/
inductive TtsSessionState where
  | missing
  | opening
  | closed
  deriving DecidableEq, Repr

structure IncrementalTtsInput (ε : Type) where
  buffer : Text
  session : TtsSessionState
  finishing : Bool
  sent : List Text
  flushes : Nat
  flushError : Option ε
  finishCalls : Nat
  deriving DecidableEq, Repr

/-- How an operation ends. -/
abbrev TtsOutcome (ε : Type) := Except (TtsInputError ε) Unit

inductive TtsCall where
  | pushToken (text : Text)
  | flushBoundary
  | finish
  deriving DecidableEq, Repr

def maxRuntimeIncrementalTtsBufferBytes : Nat := 1024 * 1024

variable {ε : Type} (rules : SentenceRules) (provider : TtsProvider ε) (maxBatchCharacters : Nat)

namespace IncrementalTtsInput

def empty : IncrementalTtsInput ε where
  buffer := []
  session := .missing
  finishing := false
  sent := []
  flushes := 0
  flushError := none
  finishCalls := 0

def sendText (input : IncrementalTtsInput ε) (text : Text) :
    IncrementalTtsInput ε × TtsOutcome ε :=
  ({ input with sent := input.sent ++ [text] },
    match provider.sendError input.sent.length with
    | some error => .error (.provider error)
    | none => .ok ())

/-- The error of a flush is remembered for `finish`, the first of them. -/
def flushAndRemember (input : IncrementalTtsInput ε) : IncrementalTtsInput ε :=
  { input with
    flushes := input.flushes + 1
    flushError := input.flushError.or (provider.flushError input.flushes) }

/-- The loop of `pushToken`: each batch is sent and flushed. -/
def sendSentences (input : IncrementalTtsInput ε) :
    List Text → IncrementalTtsInput ε × TtsOutcome ε
  | [] => (input, .ok ())
  | batch :: rest =>
    match provider.openError with
    | some error => (input, .error (.provider error))
    | none =>
      match input.sendText provider batch with
      | (input, .error error) => (input, .error error)
      | (input, .ok ()) => sendSentences (input.flushAndRemember provider) rest

def pushToken (input : IncrementalTtsInput ε) (text : Text) :
    IncrementalTtsInput ε × TtsOutcome ε :=
  if text.isEmpty then (input, .ok ())
  else
    let session := if input.session = .missing then .opening else input.session
    let input := { input with session }
    if input.finishing then (input, .error .finished)
    else
      let nextBuffer := input.buffer ++ text
      if maxRuntimeIncrementalTtsBufferBytes < utf8Bytes nextBuffer then
        ({ input with buffer := [] },
          .error (.resourceLimit "incremental TTS input buffer" "bytes"
            maxRuntimeIncrementalTtsBufferBytes))
      else if rules.hasTerminal text then
        let (batches, buffer) := takeCompleteSentences rules maxBatchCharacters nextBuffer
        sendSentences provider { input with buffer } batches
      else ({ input with buffer := nextBuffer }, .ok ())

/-- The batches are sent one after the other. -/
def sendAll (input : IncrementalTtsInput ε) : List Text → IncrementalTtsInput ε × TtsOutcome ε
  | [] => (input, .ok ())
  | batch :: rest =>
    match input.sendText provider batch with
    | (input, .error error) => (input, .error error)
    | (input, .ok ()) => sendAll input rest

/-- `#sendTextBatches` of `#takeBuffer`; nothing when the splitting does not end. -/
def sendTextBatches (input : IncrementalTtsInput ε) :
    Option (IncrementalTtsInput ε × TtsOutcome ε) :=
  (splitTextIntoBatches input.buffer maxBatchCharacters).map fun batches =>
    sendAll provider { input with buffer := [] } batches

def flushBoundary (input : IncrementalTtsInput ε) :
    Option (IncrementalTtsInput ε × TtsOutcome ε) :=
  if input.buffer.isEmpty then some (input, .ok ())
  else
    match provider.openError with
    | some error => some (input, .error (.provider error))
    | none =>
      (input.sendTextBatches provider maxBatchCharacters).map fun
        | (input, .error error) => (input, .error error)
        | (input, .ok ()) => (input.flushAndRemember provider, .ok ())

/-- The end of `finish`: the session's own `finish`, and the error of a flush. -/
def finishSession (input : IncrementalTtsInput ε) : IncrementalTtsInput ε × TtsOutcome ε :=
  let input := { input with finishCalls := input.finishCalls + 1 }
  match provider.finishError.or input.flushError with
  | some error => (input, .error (.provider error))
  | none => (input, .ok ())

def finish (input : IncrementalTtsInput ε) : Option (IncrementalTtsInput ε × TtsOutcome ε) :=
  if input.finishing then some (input, .ok ())
  else
    let input := { input with finishing := true }
    match input.session with
    | .missing => some ({ input with session := .closed }, .ok ())
    | .closed => some (input, .ok ())
    | .opening =>
      match provider.openError with
      | some error => some (input, .error (.provider error))
      | none =>
        if input.buffer.isEmpty then some (input.finishSession provider)
        else
          (input.sendTextBatches provider maxBatchCharacters).map fun
            | (input, .error error) => (input, .error error)
            | (input, .ok ()) => input.finishSession provider

/-- An operation and its outcome; nothing when it does not end. -/
def step (input : IncrementalTtsInput ε) : TtsCall → Option (IncrementalTtsInput ε × TtsOutcome ε)
  | .pushToken text => some (input.pushToken rules provider maxBatchCharacters text)
  | .flushBoundary => input.flushBoundary provider maxBatchCharacters
  | .finish => input.finish provider maxBatchCharacters

/-- The operations in their order. One that does not end holds up all that come after it. -/
def runCalls (input : IncrementalTtsInput ε) :
    List TtsCall → Option (IncrementalTtsInput ε × List (TtsOutcome ε))
  | [] => some (input, [])
  | call :: rest =>
    (input.step rules provider maxBatchCharacters call).bind fun (next, outcome) =>
      (runCalls next rest).map fun (last, outcomes) => (last, outcome :: outcomes)

end IncrementalTtsInput

end Tvic
