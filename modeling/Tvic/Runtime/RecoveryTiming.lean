import Mathlib.Algebra.Order.Ring.Int
import Tvic.Runtime.PipelineSttInput

/-!
# Synthetic endpoints

`RecoveryAwareTiming` of `packages/runtime/src/recovery-timing.ts` (all but `waitForActive`), and
what `PipelineSttInput` does with its timers. Times are whole milliseconds of the wall clock. A
timer is held by the time it is due at, and fires when the clock reads that time.
-/
namespace Tvic

open Lib

inductive RecoveryTimingState where
  | healthy
  | recovering
  | opening
  | probationary
  | failed
  | closed
  deriving DecidableEq, Repr

/-- The fields of the endpoint timer, or of the duration timer. -/
structure SyntheticTimer where
  timer : Option ℤ := none
  startedAtActiveMs : Option ℤ := none
  remainingMs : Option ℤ := none
  deriving DecidableEq, Repr

namespace SyntheticTimer

variable (t : SyntheticTimer)

def cancel (activeNow : ℤ) (reset : Bool) : SyntheticTimer :=
  let stopped : SyntheticTimer :=
    match t.timer with
    | none => t
    | some _ =>
      let elapsed := match t.startedAtActiveMs with
        | none => 0
        | some started => max 0 (activeNow - started)
      { remainingMs := some (max 0 (t.remainingMs.getD 0 - elapsed)) }
  if reset then { stopped with remainingMs := none } else stopped

def schedule (now activeNow : ℤ) : SyntheticTimer :=
  match t.remainingMs, t.timer with
  | some remaining, none =>
    { t with startedAtActiveMs := some activeNow, timer := some (now + remaining) }
  | _, _ => t

/-- `??=` -/
def orRemaining (milliseconds : ℤ) : SyntheticTimer :=
  { t with remainingMs := some (t.remainingMs.getD milliseconds) }

end SyntheticTimer

structure RecoveryAwareTiming where
  endpointTimeoutMs : Nat
  maxDurationMs : Nat
  state : RecoveryTimingState := .healthy
  recoveryStartedAtMs : Option ℤ := none
  recoveryElapsedMs : ℤ := 0
  endpoint : SyntheticTimer := {}
  duration : SyntheticTimer := {}
  deriving DecidableEq, Repr

namespace RecoveryAwareTiming

variable (timing : RecoveryAwareTiming) (now : ℤ)

def isHealthy : Bool := timing.state = .healthy

def activeNow : ℤ :=
  let recoveryNow := match timing.recoveryStartedAtMs with
    | none => 0
    | some started => max 0 (now - started)
  now - timing.recoveryElapsedMs - recoveryNow

def pauseTimers : RecoveryAwareTiming :=
  { timing with
    endpoint := timing.endpoint.cancel (timing.activeNow now) false
    duration := timing.duration.cancel (timing.activeNow now) false }

def scheduleTimers : RecoveryAwareTiming :=
  if timing.isHealthy then
    { timing with
      endpoint := timing.endpoint.schedule now (timing.activeNow now)
      duration := timing.duration.schedule now (timing.activeNow now) }
  else timing

def setState (state : RecoveryTimingState) (hasBufferedTranscript : Bool) : RecoveryAwareTiming :=
  if timing.state = state then timing
  else
    let wasRecovering := timing.state ≠ .healthy
    let isRecovering := state ≠ .healthy
    let changed := { timing with state }
    if ¬wasRecovering ∧ isRecovering then
      { changed with recoveryStartedAtMs := some now }.pauseTimers now
    else if wasRecovering ∧ ¬isRecovering then
      let elapsed := match timing.recoveryStartedAtMs with
        | none => 0
        | some started => max 0 (now - started)
      let recovered := { changed with
        recoveryElapsedMs := timing.recoveryElapsedMs + elapsed
        recoveryStartedAtMs := none }
      if hasBufferedTranscript then
        { recovered with
          endpoint := recovered.endpoint.orRemaining timing.endpointTimeoutMs
          duration := recovered.duration.orRemaining timing.maxDurationMs }.scheduleTimers now
      else recovered
    else if isRecovering then changed.pauseTimers now
    else changed

def armEndpointTimers (hasBufferedTranscript : Bool) : RecoveryAwareTiming :=
  if hasBufferedTranscript && timing.isHealthy then
    { timing with
      endpoint := { timing.endpoint.cancel (timing.activeNow now) false with
        remainingMs := some timing.endpointTimeoutMs }
      duration := timing.duration.orRemaining timing.maxDurationMs }.scheduleTimers now
  else timing

def cancelEndpointTimer : RecoveryAwareTiming :=
  { timing with endpoint := timing.endpoint.cancel (timing.activeNow now) true }

def cancelEndpointTimers : RecoveryAwareTiming :=
  { timing with
    endpoint := timing.endpoint.cancel (timing.activeNow now) true
    duration := timing.duration.cancel (timing.activeNow now) true }

end RecoveryAwareTiming

/-- The clock, the timing and the transcript buffer of a `PipelineSttInput`. -/
structure TimedSttInput where
  now : ℤ
  timing : RecoveryAwareTiming
  finalTranscriptBuffer : Text
  deriving DecidableEq, Repr

inductive TimedSttEvent where
  | clockAdvances (milliseconds : Nat)
  | final (text : Text)
  | endpoint
  | flush
  /-- `consumeTranscripts` comes to its end. -/
  | transcriptsEnd (aborted : Bool)
  | setRecoveryState (state : RecoveryTimingState)
  | endpointTimer
  | durationTimer
  deriving DecidableEq, Repr

namespace TimedSttInput

variable (s : TimedSttInput)

def new (endpointTimeoutMs maxDurationMs : Nat) (now : ℤ) : TimedSttInput where
  now
  timing := { endpointTimeoutMs, maxDurationMs }
  finalTranscriptBuffer := []

def activeNow : ℤ := s.timing.activeNow s.now

def hasBufferedTranscript : Bool := s.finalTranscriptBuffer ≠ []

/-- `#cancelEndpointTimers` and `flushBufferedTranscript` -/
def cancelAndFlush : TimedSttInput :=
  { s with timing := s.timing.cancelEndpointTimers s.now, finalTranscriptBuffer := [] }

/-- The callback of a timer, after what it cancels by itself. -/
def timerFires (cancelled : RecoveryAwareTiming) : TimedSttInput :=
  if s.timing.isHealthy then { s with timing := cancelled }.cancelAndFlush
  else { s with timing := s.timing.pauseTimers s.now }

def step : TimedSttEvent → TimedSttInput
  | .clockAdvances milliseconds => { s with now := s.now + milliseconds }
  | .final text =>
    let accepted := { s with finalTranscriptBuffer := acceptFinal s.finalTranscriptBuffer text }
    if accepted.hasBufferedTranscript && s.timing.isHealthy then
      { accepted with timing := s.timing.armEndpointTimers s.now accepted.hasBufferedTranscript }
    else accepted
  | .endpoint => s.cancelAndFlush
  | .flush => s.cancelAndFlush
  | .transcriptsEnd aborted =>
    if aborted then { s with timing := s.timing.cancelEndpointTimers s.now } else s.cancelAndFlush
  | .setRecoveryState state =>
    { s with timing := s.timing.setState s.now state s.hasBufferedTranscript }
  | .endpointTimer => s.timerFires (s.timing.cancelEndpointTimer s.now)
  | .durationTimer => s.timerFires (s.timing.cancelEndpointTimers s.now)

/-- Timers fire when they are due: the clock passes no due time, and no timer fires before it. -/
def admits : TimedSttEvent → Prop
  | .clockAdvances milliseconds =>
    (∀ due ∈ s.timing.endpoint.timer, s.now + milliseconds ≤ due) ∧
      ∀ due ∈ s.timing.duration.timer, s.now + milliseconds ≤ due
  | .endpointTimer => s.timing.endpoint.timer = some s.now
  | .durationTimer => s.timing.duration.timer = some s.now
  | _ => True

/-- The transcript that a timer hands over. -/
def flushedByTimer : TimedSttEvent → Option Text
  | .endpointTimer | .durationTimer =>
    if s.timing.isHealthy ∧ s.finalTranscriptBuffer ≠ [] then some s.finalTranscriptBuffer else none
  | _ => none

end TimedSttInput

end Tvic
