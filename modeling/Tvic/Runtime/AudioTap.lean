import Tvic.Core.Tool
import Tvic.Lib.InsertionMap
import Tvic.Lib.Run
import Tvic.Lib.Text

/-!
# The audio tap

`packages/runtime/src/audio-tap.ts`: a bounded queue of media frames and control events between the
media loop and the callbacks of an observer. The callbacks run later: a drain that a microtask starts
delivers one frame and goes on when the callback has settled, and a timer notifies that everything has
been drained. Whatever a callback calls comes as further events before it settles.
-/
namespace Tvic

open Lib (Text InsertionMap)

abbrev TurnId := String

def audioTapMaxBufferedAudioFrames : Nat := 128

def audioTapMaxBufferedControlEvents : Nat := 64

def audioTapMaxBufferedBytes : Nat := 4 * 1024 * 1024

def audioTapMaxMarkIdLength : Nat := 256

def audioTapMaxTrackedTurns : Nat := 128

inductive AudioTapDirection where
  | caller
  | agent
  deriving DecidableEq, Repr

/-- `φ` is the type of audio formats, which are only copied. -/
structure AudioTapAudioFrame (φ : Type) where
  sessionId : SessionId
  direction : AudioTapDirection
  turnId : Option TurnId
  sequence : Nat
  timestampMs : Number
  format : φ
  bytes : List UInt8

structure AudioTapClearedFrame where
  sessionId : SessionId
  turnId : Option TurnId
  throughSequence : Option Int
  hadPendingSends : Bool
  pendingSendTurnIds : Option (List TurnId)
  pendingSendTurnIdsTruncated : Bool
  sequence : Nat
  timestampMs : Number

structure AudioTapPlayoutFrame where
  sessionId : SessionId
  turnId : TurnId
  markId : Text
  confirmed : Bool
  throughSequence : Option Int
  sequence : Nat
  timestampMs : Number

inductive AudioTapFrame (φ : Type) where
  | audio (frame : AudioTapAudioFrame φ)
  | cleared (frame : AudioTapClearedFrame)
  | playout (frame : AudioTapPlayoutFrame)

def AudioTapFrame.sequence {φ : Type} : AudioTapFrame φ → Nat
  | .audio frame => frame.sequence
  | .cleared frame => frame.sequence
  | .playout frame => frame.sequence

structure QueuedFrame (φ : Type) where
  frame : AudioTapFrame φ
  isAudio : Bool
  audioBytes : Nat

structure AudioTapSummary where
  enabled : Bool
  droppedFrames : Nat
  droppedEvents : Nat
  callbackErrors : Nat
  deriving DecidableEq, Repr

/-- The observer, and whether it wants to know when everything has been drained. -/
structure AudioTapOptions where
  onDrained : Bool
  deriving DecidableEq, Repr

/-- While `scheduled` is set one microtask waits to drain, while `drainedScheduled` is set one timer to
notify. -/
structure AudioTapDispatcher (φ : Type) where
  sessionId : SessionId
  tap : Option AudioTapOptions
  queue : List (QueuedFrame φ) := []
  lastAgentAudioByTurn : InsertionMap TurnId Nat := []
  lastAgentAudioSequence : Option Nat := none
  nextSequence : Nat := 0
  queuedAudioFrames : Int := 0
  queuedAudioBytes : Int := 0
  queuedControlEvents : Int := 0
  droppedFrames : Nat := 0
  droppedEvents : Nat := 0
  callbackErrors : Nat := 0
  scheduled : Bool := false
  drainedScheduled : Bool := false
  drainedNotified : Bool := false
  draining : Bool := false
  closed : Bool := false

structure AudioTapAudioInput (φ : Type) where
  direction : AudioTapDirection
  turnId : Option TurnId
  format : φ
  bytes : Option (List UInt8)
  timestampMs : Number

/-- `throughSequence` is missing from the input, or has a value that may be `undefined`. -/
structure AudioTapClearedInput where
  turnId : Option TurnId
  throughSequence : Option (Option Int)
  hadPendingSends : Option Bool
  pendingSendTurnIds : Option (List TurnId)
  pendingSendTurnIdsTruncated : Option Bool
  timestampMs : Number

structure AudioTapPlayoutInput where
  turnId : TurnId
  markId : Text
  confirmed : Bool
  timestampMs : Number

namespace AudioTapDispatcher

variable {φ : Type}

def summary (dispatcher : AudioTapDispatcher φ) : AudioTapSummary :=
  { enabled := dispatcher.tap.isSome
    droppedFrames := dispatcher.droppedFrames
    droppedEvents := dispatcher.droppedEvents
    callbackErrors := dispatcher.callbackErrors }

def scheduleDrain (dispatcher : AudioTapDispatcher φ) : AudioTapDispatcher φ :=
  if dispatcher.tap.isNone ∨ dispatcher.scheduled ∨ dispatcher.draining ∨ dispatcher.queue.length = 0 then
    dispatcher
  else { dispatcher with scheduled := true }

def scheduleDrainedNotification (dispatcher : AudioTapDispatcher φ) : AudioTapDispatcher φ :=
  if ¬dispatcher.closed ∨ ¬(dispatcher.tap.any (·.onDrained)) ∨ dispatcher.drainedScheduled ∨
      dispatcher.drainedNotified ∨ dispatcher.draining ∨ dispatcher.queue.length > 0 then
    dispatcher
  else { dispatcher with drainedScheduled := true }

def enqueue (dispatcher : AudioTapDispatcher φ) (frame : AudioTapFrame φ) (isAudio : Bool)
    (audioBytes : Nat) : AudioTapDispatcher φ :=
  let item : QueuedFrame φ := { frame, isAudio, audioBytes }
  let pushed := { dispatcher with queue := dispatcher.queue ++ [item] }
  scheduleDrain
    (if isAudio then
      { pushed with
        queuedAudioFrames := pushed.queuedAudioFrames + 1
        queuedAudioBytes := pushed.queuedAudioBytes + audioBytes }
    else { pushed with queuedControlEvents := pushed.queuedControlEvents + 1 })

/-- A control event makes the oldest one that is queued give way. -/
def control (dispatcher : AudioTapDispatcher φ) (frame : AudioTapFrame φ) : AudioTapDispatcher φ :=
  if (audioTapMaxBufferedControlEvents : Int) ≤ dispatcher.queuedControlEvents then
    match dispatcher.queue.findIdx? fun item => !item.isAudio with
    | some oldestControlIndex =>
      enqueue
        { dispatcher with
          queue := dispatcher.queue.eraseIdx oldestControlIndex
          queuedControlEvents := dispatcher.queuedControlEvents - 1
          droppedEvents := dispatcher.droppedEvents + 1 }
        frame false 0
    | none => { dispatcher with droppedEvents := dispatcher.droppedEvents + 1 }
  else enqueue dispatcher frame false 0

/-- The map of the turns' last audio after another one, without the oldest turn if there are too many. -/
def trackAgentAudio (lastAgentAudioByTurn : InsertionMap TurnId Nat) (turnId : TurnId)
    (sequence : Nat) : InsertionMap TurnId Nat :=
  let moved := (lastAgentAudioByTurn.delete turnId).set turnId sequence
  if audioTapMaxTrackedTurns < moved.length then
    match moved with
    | [] => moved
    | (oldestTurnId, _) :: _ => InsertionMap.delete moved oldestTurnId
  else moved

/-- `copies` says whether the bytes can be copied. -/
def audio (dispatcher : AudioTapDispatcher φ) (input : AudioTapAudioInput φ) (copies : Bool) :
    Option Nat × AudioTapDispatcher φ :=
  if dispatcher.tap.isNone ∨ dispatcher.closed then (none, dispatcher)
  else
    let sequence := dispatcher.nextSequence
    let issued := { dispatcher with nextSequence := sequence + 1 }
    let tracked :=
      if input.direction = .agent then
        { issued with
          lastAgentAudioSequence := some sequence
          lastAgentAudioByTurn :=
            match truthy input.turnId with
            | none => issued.lastAgentAudioByTurn
            | some turnId => trackAgentAudio issued.lastAgentAudioByTurn turnId sequence }
      else issued
    let dropped := { tracked with droppedFrames := tracked.droppedFrames + 1 }
    match input.bytes with
    | none => (some sequence, dropped)
    | some bytes =>
      if (audioTapMaxBufferedAudioFrames : Int) ≤ tracked.queuedAudioFrames ∨
          (audioTapMaxBufferedBytes : Int) - tracked.queuedAudioBytes < bytes.length then
        (some sequence, dropped)
      else if copies then
        (some sequence, tracked.enqueue
          (.audio
            { sessionId := dispatcher.sessionId
              direction := input.direction
              turnId := truthy input.turnId
              sequence
              timestampMs := input.timestampMs
              format := input.format
              bytes })
          true bytes.length)
      else (some sequence, dropped)

def agentAudioThroughSequence (dispatcher : AudioTapDispatcher φ) (turnId : Option TurnId) :
    Option Nat :=
  match truthy turnId with
  | some turnId => dispatcher.lastAgentAudioByTurn.get turnId
  | none => dispatcher.lastAgentAudioSequence

def cleared (dispatcher : AudioTapDispatcher φ) (input : AudioTapClearedInput) :
    AudioTapDispatcher φ :=
  if dispatcher.tap.isNone ∨ dispatcher.closed then dispatcher
  else
    let throughSequence : Option Int :=
      match input.throughSequence with
      | some given => given
      | none => (dispatcher.agentAudioThroughSequence input.turnId).map fun sequence => (sequence : Int)
    let lastAgentAudioByTurn :=
      match input.throughSequence with
      | some none => dispatcher.lastAgentAudioByTurn
      | some (some through) =>
        dispatcher.lastAgentAudioByTurn.filter fun entry => ¬((entry.2 : Int) ≤ through)
      | none =>
        match truthy input.turnId with
        | some turnId => dispatcher.lastAgentAudioByTurn.delete turnId
        | none => []
    control
      { dispatcher with lastAgentAudioByTurn, nextSequence := dispatcher.nextSequence + 1 }
      (.cleared
        { sessionId := dispatcher.sessionId
          turnId := truthy input.turnId
          throughSequence
          hadPendingSends := input.hadPendingSends.getD false
          pendingSendTurnIds := input.pendingSendTurnIds.filter fun ids => ids.length > 0
          pendingSendTurnIdsTruncated := input.pendingSendTurnIdsTruncated.getD false
          sequence := dispatcher.nextSequence
          timestampMs := input.timestampMs })

def playout (dispatcher : AudioTapDispatcher φ) (input : AudioTapPlayoutInput) :
    AudioTapDispatcher φ :=
  if dispatcher.tap.isNone ∨ dispatcher.closed then dispatcher
  else
    let sequence := dispatcher.nextSequence
    let issued := { dispatcher with nextSequence := sequence + 1 }
    if audioTapMaxMarkIdLength < input.markId.length then
      { issued with droppedEvents := issued.droppedEvents + 1 }
    else
      let throughSequence := issued.lastAgentAudioByTurn.get input.turnId
      control
        (if input.confirmed then
          { issued with lastAgentAudioByTurn := issued.lastAgentAudioByTurn.delete input.turnId }
        else issued)
        (.playout
          { sessionId := dispatcher.sessionId
            turnId := input.turnId
            markId := input.markId
            confirmed := input.confirmed
            throughSequence := throughSequence.map fun sequence => (sequence : Int)
            sequence
            timestampMs := input.timestampMs })

def close (dispatcher : AudioTapDispatcher φ) : AudioTapDispatcher φ :=
  scheduleDrainedNotification (scheduleDrain { dispatcher with closed := true })

/-- What a call of `recordDroppedEvents` or `recordDroppedFrames` adds. -/
def recorded (dispatcher : AudioTapDispatcher φ) (count : Number) : Nat :=
  if dispatcher.tap.isSome then (count.safeInteger? 1).getD 0 else 0

def recordDroppedEvents (dispatcher : AudioTapDispatcher φ) (count : Number) : AudioTapDispatcher φ :=
  { dispatcher with droppedEvents := dispatcher.droppedEvents + dispatcher.recorded count }

def recordDroppedFrames (dispatcher : AudioTapDispatcher φ) (count : Number) : AudioTapDispatcher φ :=
  { dispatcher with droppedFrames := dispatcher.droppedFrames + dispatcher.recorded count }

def shift (dispatcher : AudioTapDispatcher φ) (item : QueuedFrame φ) (rest : List (QueuedFrame φ)) :
    AudioTapDispatcher φ :=
  if item.isAudio then
    { dispatcher with
      queue := rest
      queuedAudioFrames := dispatcher.queuedAudioFrames - 1
      queuedAudioBytes := dispatcher.queuedAudioBytes - item.audioBytes }
  else
    { dispatcher with
      queue := rest
      queuedControlEvents := dispatcher.queuedControlEvents - 1 }

/-- What the `finally` of `#drain` does. -/
def stopDraining (dispatcher : AudioTapDispatcher φ) : AudioTapDispatcher φ :=
  scheduleDrainedNotification (scheduleDrain { dispatcher with draining := false })

end AudioTapDispatcher

/-! ## The dispatcher among its producers and callbacks -/

/-- What an observer sees, and the calls of `close`. -/
inductive TapTrace (φ : Type) where
  | delivered (item : QueuedFrame φ)
  | settled
  | closed
  | drained (summary : AudioTapSummary)

/-- A dispatcher, whether its drain awaits a callback, and what has happened so far. -/
structure TapWorld (φ : Type) where
  dispatcher : AudioTapDispatcher φ
  awaiting : Bool := false
  trace : List (TapTrace φ) := []

/-- The calls of the media loop, and the steps of the drain: its microtask, the callback that settles, and
the timer of the notification. -/
inductive TapEvent (φ : Type) where
  | audio (input : AudioTapAudioInput φ) (copies : Bool)
  | cleared (input : AudioTapClearedInput)
  | playout (input : AudioTapPlayoutInput)
  | close
  | recordDroppedEvents (count : Number)
  | recordDroppedFrames (count : Number)
  | drain
  | settle (rejected : Bool)
  | notify

namespace TapWorld

variable {φ : Type}

def new (sessionId : SessionId) (tap : Option AudioTapOptions) : TapWorld φ :=
  { dispatcher := { sessionId, tap } }

/-- The loop of `#drain` up to the next `await`, or to its end. -/
def drainLoop (world : TapWorld φ) : TapWorld φ :=
  match world.dispatcher.queue with
  | [] => { world with dispatcher := world.dispatcher.stopDraining, awaiting := false }
  | item :: rest =>
    { world with
      dispatcher := world.dispatcher.shift item rest
      awaiting := true
      trace := world.trace ++ [.delivered item] }

/-- The microtask that `#scheduleDrain` has queued. -/
def drain (world : TapWorld φ) : TapWorld φ :=
  if world.dispatcher.scheduled then
    let started := { world with dispatcher := { world.dispatcher with scheduled := false } }
    if started.dispatcher.draining ∨ started.dispatcher.tap.isNone then started
    else drainLoop { started with dispatcher := { started.dispatcher with draining := true } }
  else world

/-- The callback that the drain awaits has returned, or has failed. -/
def settle (world : TapWorld φ) (rejected : Bool) : TapWorld φ :=
  if world.awaiting then
    drainLoop
      { world with
        dispatcher :=
          if rejected then
            { world.dispatcher with callbackErrors := world.dispatcher.callbackErrors + 1 }
          else world.dispatcher
        awaiting := false
        trace := world.trace ++ [.settled] }
  else world

/-- The timer that `#scheduleDrainedNotification` has set. -/
def notify (world : TapWorld φ) : TapWorld φ :=
  if world.dispatcher.drainedScheduled then
    let fired := { world.dispatcher with drainedScheduled := false }
    if fired.draining ∨ fired.queue.length > 0 then
      { world with dispatcher := fired.scheduleDrain.scheduleDrainedNotification }
    else
      let notified := { fired with drainedNotified := true }
      { world with
        dispatcher := notified
        trace := world.trace ++ [.drained notified.summary] }
  else world

def step (world : TapWorld φ) : TapEvent φ → TapWorld φ
  | .audio input copies => { world with dispatcher := (world.dispatcher.audio input copies).2 }
  | .cleared input => { world with dispatcher := world.dispatcher.cleared input }
  | .playout input => { world with dispatcher := world.dispatcher.playout input }
  | .close =>
    { world with dispatcher := world.dispatcher.close, trace := world.trace ++ [.closed] }
  | .recordDroppedEvents count =>
    { world with dispatcher := world.dispatcher.recordDroppedEvents count }
  | .recordDroppedFrames count =>
    { world with dispatcher := world.dispatcher.recordDroppedFrames count }
  | .drain => world.drain
  | .settle rejected => world.settle rejected
  | .notify => world.notify

def after (sessionId : SessionId) (tap : Option AudioTapOptions) (events : List (TapEvent φ)) :
    TapWorld φ :=
  Lib.run step (new sessionId tap) events

end TapWorld

end Tvic
