import Tvic.Lib.Run
import Tvic.Lib.Text
import Tvic.Lib.Trimming

/-!
# The caller's words on their way to turns

`consumeTranscripts`, `commitAndFlush` and `flushTrailing` of `PipelineSttInput`, the transcript
buffer of `ConversationPolicy`, and the graceful end of `PipelineVoiceLoop.#runLegacy`, from one
await to the next. An event of the STT stream waits in `sttEvents` until `consumeTranscripts` takes
it, and is in its hand while `#considerSpeechForBargeIn` runs.

The runs are those with no STT, media or persistence error, no abort and no timeout. When the
endpoint timer fires and when a commit flush is due is left open.
-/
namespace Tvic

open Lib (Text utf16 isWhitespace)

/-- A transcript event, as far as `acceptTranscript` looks at it. -/
inductive TranscriptEvent where
  | speechStarted
  | interim (text : Text)
  | final (text : Text)
  | endpoint
  deriving DecidableEq, Repr

/-- `stt.final`: the text that joins the buffer. -/
def TranscriptEvent.finalText : TranscriptEvent → Option Text
  | .final text => some text
  | _ => none

def finalTexts (events : List TranscriptEvent) : List Text := events.filterMap TranscriptEvent.finalText

def acceptFinal (buffer text : Text) : Text := Lib.trim isWhitespace (buffer ++ utf16 " " ++ text)

/-- Where `#runLegacy` stands. -/
inductive GracefulEndPhase where
  /-- `consumeInput` runs. -/
  | listening
  /-- The media stream has ended as completed. -/
  | mediaEnded
  /-- The terminal commit flush and those before it are awaited. -/
  | flushing
  /-- `commandController.drain()` is awaited. -/
  | draining
  /-- `transcriptTask` and then the turn chain are awaited. -/
  | awaitingTranscripts
  | ended
  deriving DecidableEq, Repr

structure PipelineSttInput where
  phase : GracefulEndPhase := .listening
  /-- Yielded by the STT stream and not yet taken. -/
  sttEvents : List TranscriptEvent := []
  sttStreamEnded : Bool := false
  /-- Taken by `consumeTranscripts` and not yet accepted. -/
  considered : Option TranscriptEvent := none
  /-- `transcriptTask` has settled. -/
  sttEnded : Bool := false
  finalTranscriptBuffer : Text := []
  inputEnded : Bool := false
  turnChain : List Text := []
  /-- The transcripts of the turns that were handled, oldest first. -/
  handled : List Text := []
  /-- The texts of all finals the STT stream has yielded. -/
  yielded : List Text := []
  deriving DecidableEq, Repr

inductive SttInputEvent where
  | yields (event : TranscriptEvent)
  | streamEnds
  | takes
  | accepts
  /-- `consumeTranscripts` finds its iterator done. -/
  | transcriptsEnd
  | endpointTimer
  | commitFlush
  | mediaEnds
  | flushes
  | drains
  | inputShuts
  | turnHandled
  | runEnds
  deriving DecidableEq, Repr

namespace PipelineSttInput

variable (s : PipelineSttInput)

def onTranscript (transcript : Text) : PipelineSttInput :=
  if s.inputEnded then s else { s with turnChain := s.turnChain ++ [transcript] }

/-- `flushBufferedTranscript`, and `#queueTranscript` if there is a transcript. -/
def flushToQueue : PipelineSttInput :=
  let flushed := { s with finalTranscriptBuffer := [] }
  if s.finalTranscriptBuffer = [] then flushed else flushed.onTranscript s.finalTranscriptBuffer

/-- `acceptTranscript`, and what `consumeTranscripts` does with its result. -/
def acceptTranscript : TranscriptEvent → PipelineSttInput
  | .speechStarted => s
  | .interim _ => s
  | .final text => { s with finalTranscriptBuffer := acceptFinal s.finalTranscriptBuffer text }
  | .endpoint => s.flushToQueue

/-- The straggler is chained past `onTranscript`, and the input is shut. -/
def shutInput : PipelineSttInput :=
  let straggler := if s.finalTranscriptBuffer = [] then [] else [s.finalTranscriptBuffer]
  { s with
    finalTranscriptBuffer := []
    turnChain := s.turnChain ++ straggler
    inputEnded := true
    phase := .awaitingTranscripts }

/-- One event; one that cannot happen changes nothing. -/
def step : SttInputEvent → PipelineSttInput
  | .yields event =>
    if s.sttStreamEnded then s
    else
      { s with
        sttEvents := s.sttEvents ++ [event]
        yielded := s.yielded ++ event.finalText.toList }
  | .streamEnds => { s with sttStreamEnded := true }
  | .takes =>
    match s.considered, s.sttEvents with
    | none, event :: rest => { s with considered := some event, sttEvents := rest }
    | _, _ => s
  | .accepts =>
    match s.considered with
    | some event => acceptTranscript { s with considered := none } event
    | none => s
  | .transcriptsEnd =>
    if s.sttStreamEnded ∧ s.sttEvents = [] ∧ s.considered = none ∧ ¬ s.sttEnded then
      { s.flushToQueue with sttEnded := true }
    else s
  | .endpointTimer => if s.sttEnded then s else s.flushToQueue
  | .commitFlush =>
    match s.phase with
    | .listening | .mediaEnded | .flushing => s.flushToQueue
    | _ => s
  | .mediaEnds =>
    match s.phase with
    | .listening => { s with phase := .mediaEnded }
    | _ => s
  | .flushes =>
    match s.phase with
    -- A transcript stream that is over by then is not drained.
    | .mediaEnded => { s with phase := if s.sttEnded then .awaitingTranscripts else .flushing }
    | _ => s
  | .drains =>
    match s.phase with
    | .flushing => { s with phase := .draining }
    | _ => s
  | .inputShuts =>
    match s.phase with
    | .draining => s.shutInput
    | _ => s
  | .turnHandled =>
    match s.turnChain with
    | transcript :: rest => { s with turnChain := rest, handled := s.handled ++ [transcript] }
    | [] => s
  | .runEnds =>
    match s.phase with
    | .awaitingTranscripts =>
      if s.sttEnded ∧ s.turnChain = [] then { s with phase := .ended } else s
    | _ => s

/-- The finals that were yielded and have not reached the buffer. -/
def inTransit : List Text := finalTexts (s.considered.toList ++ s.sttEvents)

end PipelineSttInput

end Tvic
