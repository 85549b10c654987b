import Tvic.Lib.Run

/-!
# TTS failover

`synthesize` of `createTtsFailoverProvider`, its `startFallback`, `synthesizeWithAbort` and the
stream of `createFailoverStream`, from one await to the next. A provider is called in a microtask
of its own once `synthesizeWithAbort` has looked at the signal; a stream it opens is passed on in
steps, each of which looks whether the request was aborted or the stream cancelled by then.

Whether the error and the request admit a fallback, what the mapper and the checks say of the
mapped request, is `guardsPass` or `guardsFail`. When the primary does not even open, the caller is
given the fallback's own stream.
-/
namespace Tvic

inductive TtsStreamStatus where
  | unopened
  | scheduled
  | called
  | failed
  /-- Opened, and on its way through `synthesizeWithAbort` and `startFallback`. -/
  | opened
  /-- Returned by `startFallback`, and on its way to the generator. -/
  | passed
  | active
  | completed
  | cancelled
  deriving DecidableEq, Repr

/-- Where `synthesize` and then the generator of events stand. -/
inductive TtsFailoverPhase (ε : Type) where
  | openingPrimary
  /-- The failover stream was returned and nothing pulled yet. -/
  | idle
  | awaitingNext
  /-- Suspended at a `yield`, with the rest of what is being flushed; after the last flush the
  stream is over. -/
  | suspended (rest : List ε) (last : Bool)
  /-- Closing the iterator and the stream of the primary. -/
  | cleaning
  /-- `startFallback` before it opens the fallback; `direct` if the primary did not open. -/
  | guarding (direct : Bool)
  | awaitingFallback (direct : Bool)
  /-- The caller was given the fallback's own stream. -/
  | direct
  | ended

/-- What was the case when the fallback's `synthesize` was called. -/
structure FallbackCall (ε : Type) where
  primaryFailed : Bool
  delivered : List ε
  cancelled : Bool

structure TtsFailover (ε : Type) where
  phase : TtsFailoverPhase ε
  primary : TtsStreamStatus
  fallback : TtsStreamStatus
  usingFallback : Bool
  sawAudio : Bool
  primaryEventsCommitted : Bool
  cancelled : Bool
  completed : Bool
  requestAborted : Bool
  pendingPrimaryEvents : List ε
  pendingPrimaryEventBytes : Nat
  primaryFailed : Bool
  primaryEvents : List ε
  fallbackEvents : List ε
  /-- What the consumer was given. -/
  delivered : List ε
  fallbackCalls : List (FallbackCall ε)

def maxFailoverPreAudioEventBytes : Nat := 1048576

inductive TtsFailoverEvent (ε : Type) where
  | callPrimary
  | primaryOpens
  | primaryOpenFails
  | primaryHandedOver
  | primaryOpeningAborted
  | requestAborts
  | guardsPass
  | guardsFail
  | callFallback
  | fallbackOpens
  | fallbackOpenFails
  | startupAborted
  | passOn
  | adopt (iteratorFails : Bool)
  | pull (iteratorFails : Bool)
  | nextValue (event : ε)
  | nextDone
  | nextFails
  | nextAborted
  | cleaned
  | cancel

namespace TtsFailover

variable {ε : Type}

/-- `synthesize` has passed its own checks and is about to open the primary. -/
def new : TtsFailover ε :=
  ⟨.openingPrimary, .scheduled, .unopened, false, false, false, false, false, false, [], 0, false,
    [], [], [], []⟩

variable (s : TtsFailover ε)

/-- `cancelStream(activeStream)`; a stream that is over has nothing to cancel. -/
def cancelActive : TtsFailover ε :=
  if s.usingFallback then
    { s with fallback := if s.fallback = .active then .cancelled else s.fallback }
  else { s with primary := if s.primary = .active then .cancelled else s.primary }

/-- The generator's `finally`. -/
def finish : TtsFailover ε :=
  if s.completed || s.cancelled then { s with phase := .ended }
  else { s.cancelActive with phase := .ended }

/-- Back at the head of the loop. -/
def loop : TtsFailover ε :=
  if s.cancelled then s.finish else { s with phase := .awaitingNext }

/-- Yield what is to be flushed, one by one. -/
def flush (last : Bool) : List ε → TtsFailover ε
  | event :: rest =>
    { s with phase := .suspended rest last, delivered := s.delivered ++ [event] }
  | [] => if last then finish { s with completed := true } else s.loop

/-- `startFallback` throws: `synthesize` rejects, or the generator is over. -/
def throwStartup (direct : Bool) : TtsFailover ε :=
  if direct then { s with phase := .ended } else s.finish

section Receive

variable (isAudio : ε → Bool) (eventBytes : ε → Nat)

/-- The iterator has given an event. -/
def receive (event : ε) : TtsFailover ε :=
  if s.usingFallback then
    let s := { s with fallbackEvents := s.fallbackEvents ++ [event] }
    flush { s with sawAudio := s.sawAudio || isAudio event } false [event]
  else
    let s := { s with primaryEvents := s.primaryEvents ++ [event] }
    if s.sawAudio then flush s false [event]
    else if isAudio event then
      flush { s with sawAudio := true, pendingPrimaryEvents := [], pendingPrimaryEventBytes := 0 }
        false (s.pendingPrimaryEvents ++ [event])
    else if maxFailoverPreAudioEventBytes < s.pendingPrimaryEventBytes + eventBytes event then
      flush { s with
          primaryEventsCommitted := true
          pendingPrimaryEvents := []
          pendingPrimaryEventBytes := 0 }
        false (s.pendingPrimaryEvents ++ [event])
    else
      loop { s with
        pendingPrimaryEvents := s.pendingPrimaryEvents ++ [event]
        pendingPrimaryEventBytes := s.pendingPrimaryEventBytes + eventBytes event }

def receiveDone : TtsFailover ε :=
  flush { s with
      primary := if s.usingFallback then s.primary else .completed
      fallback := if s.usingFallback then .completed else s.fallback
      pendingPrimaryEvents := []
      pendingPrimaryEventBytes := 0 }
    true s.pendingPrimaryEvents

def receiveError : TtsFailover ε :=
  if s.usingFallback || s.sawAudio || s.primaryEventsCommitted || s.cancelled then
    finish { s with primaryFailed := s.primaryFailed || !s.usingFallback }
  else
    { s.cancelActive with
      phase := .cleaning
      primaryFailed := true
      pendingPrimaryEvents := []
      pendingPrimaryEventBytes := 0 }

/-- One step; an event that is not enabled changes nothing. -/
def step : TtsFailoverEvent ε → TtsFailover ε
  | .callPrimary => if s.primary = .scheduled then { s with primary := .called } else s
  | .primaryOpens => if s.primary = .called then { s with primary := .opened } else s
  | .primaryOpenFails =>
    if s.primary = .called then
      match s.phase with
      | .openingPrimary =>
        { s with primary := .failed, primaryFailed := true, phase := .guarding true }
      | _ => { s with primary := .failed }
    else s
  | .primaryHandedOver =>
    if s.primary = .opened then
      match s.phase with
      | .openingPrimary =>
        if s.requestAborted then { s with primary := .cancelled, phase := .ended }
        else { s with primary := .active, phase := .idle }
      | _ => { s with primary := .cancelled }
    else s
  | .primaryOpeningAborted =>
    match s.phase with
    | .openingPrimary => if s.requestAborted then { s with phase := .ended } else s
    | _ => s
  | .requestAborts => { s with requestAborted := true }
  | .guardsPass =>
    match s.phase with
    | .guarding direct =>
      if s.cancelled || s.requestAborted then s
      else { s with fallback := .scheduled, phase := .awaitingFallback direct }
    | _ => s
  | .guardsFail =>
    match s.phase with
    | .guarding direct => s.throwStartup direct
    | _ => s
  | .callFallback =>
    if s.fallback = .scheduled then
      { s with
        fallback := .called
        fallbackCalls := s.fallbackCalls ++ [⟨s.primaryFailed, s.delivered, s.cancelled⟩] }
    else s
  | .fallbackOpens => if s.fallback = .called then { s with fallback := .opened } else s
  | .fallbackOpenFails =>
    if s.fallback = .called then
      match s.phase with
      | .awaitingFallback direct => throwStartup { s with fallback := .failed } direct
      | _ => { s with fallback := .failed }
    else s
  | .startupAborted =>
    match s.phase with
    | .awaitingFallback direct =>
      if (s.cancelled || s.requestAborted) && s.fallback ≠ .passed then s.throwStartup direct else s
    | _ => s
  | .passOn =>
    if s.fallback = .opened then
      match s.phase with
      | .awaitingFallback direct =>
        if s.cancelled || s.requestAborted then
          throwStartup { s with fallback := .cancelled } direct
        else if direct then
          { s with fallback := .active, usingFallback := true, phase := .direct }
        else { s with fallback := .passed }
      | _ => { s with fallback := .cancelled }
    else s
  | .adopt iteratorFails =>
    if s.fallback = .passed then
      if s.cancelled then finish { s with fallback := .cancelled }
      else
        let s := { s with fallback := .active, usingFallback := true }
        if iteratorFails then s.finish else s.loop
    else s
  | .pull iteratorFails =>
    match s.phase with
    | .idle => if iteratorFails then s.finish else s.loop
    | .suspended rest last => s.flush last rest
    | _ => s
  | .nextValue event =>
    match s.phase with
    | .awaitingNext => s.receive isAudio eventBytes event
    | .direct =>
      { s with
        fallbackEvents := s.fallbackEvents ++ [event]
        delivered := s.delivered ++ [event] }
    | _ => s
  | .nextDone =>
    match s.phase with
    | .awaitingNext => s.receiveDone
    | .direct => { s with fallback := .completed, phase := .ended }
    | _ => s
  | .nextFails =>
    match s.phase with
    | .awaitingNext => s.receiveError
    | .direct => { s with fallback := .completed, phase := .ended }
    | _ => s
  | .nextAborted =>
    match s.phase with
    | .awaitingNext => if s.cancelled then s.finish else s
    | _ => s
  | .cleaned =>
    match s.phase with
    | .cleaning => if s.cancelled then s.finish else { s with phase := .guarding false }
    | _ => s
  | .cancel =>
    match s.phase with
    | .openingPrimary => s
    | .guarding true => s
    | .awaitingFallback true => s
    | _ => if s.cancelled then s else { s.cancelActive with cancelled := true }

/-- The state after a run of steps. -/
def after (events : List (TtsFailoverEvent ε)) : TtsFailover ε :=
  Lib.run (fun s event => s.step isAudio eventBytes event) new events

end Receive

end TtsFailover

end Tvic
