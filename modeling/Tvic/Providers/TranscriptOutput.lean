import Tvic.Lib.Text
import Tvic.Lib.Trimming
import Tvic.Media.AsyncQueue

/-!
# What a speech-to-text stream emits

`#pushEvent` and `#sequence` of the streams of the providers. An event that the queue does not take, as
too many before it were not read yet, makes the stream fail.
-/
namespace Tvic

def trimText (text : Lib.Text) : Lib.Text := Lib.trim Lib.isWhitespace text

structure TranscriptOutput (ε : Type) where
  /-- The events taken by the queue, with their sequence numbers. -/
  emitted : List (ℕ × ε) := []
  /-- How many of them were read. -/
  read : ℕ := 0
  sequence : ℕ := 1
  deriving DecidableEq, Repr

namespace TranscriptOutput

variable {ε : Type} (output : TranscriptOutput ε)

def push (event : ε) : Option (TranscriptOutput ε) :=
  if output.emitted.length - output.read < asyncQueueDefaultMaxBuffered then
    some { output with
      emitted := output.emitted ++ [(output.sequence, event)], sequence := output.sequence + 1 }
  else none

/-- The consumer takes the next event. -/
def readNext : TranscriptOutput ε :=
  { output with read := min (output.read + 1) output.emitted.length }

def events : List ε := output.emitted.map (·.2)

variable {output}

theorem events_push {event : ε} {pushed : TranscriptOutput ε}
    (taken : output.push event = some pushed) : pushed.events = output.events ++ [event] := by
  rw [push] at taken
  split at taken
  · obtain rfl := Option.some.inj taken
    simp [events]
  · cases taken

/-- The queue takes so many events more. -/
def HasRoom (output : TranscriptOutput ε) (count : ℕ) : Prop :=
  output.emitted.length - output.read + count ≤ asyncQueueDefaultMaxBuffered

instance {count : ℕ} : Decidable (output.HasRoom count) := inferInstanceAs (Decidable (_ ≤ _))

theorem push_of_hasRoom {count : ℕ} (room : output.HasRoom (count + 1)) (event : ε) :
    ∃ pushed, output.push event = some pushed ∧ pushed.HasRoom count := by
  rw [HasRoom] at room
  refine ⟨_, if_pos (by omega), ?_⟩
  show (output.emitted ++ [_]).length - output.read + count ≤ asyncQueueDefaultMaxBuffered
  rw [List.length_append, List.length_singleton]
  omega

end TranscriptOutput

end Tvic
