import Mathlib.Algebra.Order.Ring.Rat
import Tvic.Core.Dal
import Tvic.Lib.InsertionMap
import Tvic.Lib.Run
import Tvic.Providers.PlayoutLog

/-!
# Playout acknowledgements of a web client

The output half of `WebClientAudioCallHandle` in `packages/providers/src/web-client-audio-runtime.ts`:
`send` of audio and of commits, `clear`, `confirmPlayout` with its timers, the `output.playout_ack` frames of the
client, and whatever closes the handle. Every reading of `nowMs` is an argument; a timer may fire at any time.
-/
namespace Tvic

open Lib

inductive AckState where
  | pending
  | acked
  | timedOut
  deriving DecidableEq, Repr

structure AckRecord where
  state : AckState
  expiresAt : ℚ
  deriving DecidableEq

def WEB_CLIENT_AUDIO_ACK_RETENTION_MS : ℚ := 60000

def MAX_WEB_AUDIO_SEQUENCE : Nat := 0xffffffff

/-- What comes of handing a frame to the socket: it goes out, the socket does not take it, or one of the limits
on frames and on the socket's buffer closes the handle. -/
inductive FrameWrite where
  | written
  | refused
  | overLimit
  deriving DecidableEq, Repr

structure WebClientAudioCallHandle where
  closed : Bool := false
  nextOutputSequence : Nat := 1
  ackRecords : InsertionMap Text AckRecord := []
  /-- The calls that wait for a commit, in the order in which they came. -/
  waiters : InsertionMap Text (List Nat) := []
  calls : List PlayoutCall := []
  log : List PlayoutEntry := []

inductive PlayoutStep where
  | sendAudio (sequence : Number) (nowMs : ℚ) (write : FrameWrite)
  | sendCommit (commitId : Text) (start finish : Number) (pruneMs nowMs : ℚ) (write : FrameWrite)
  | clear (nowMs : ℚ) (write : FrameWrite)
  /-- `close`, `terminate`, a limit, a protocol error or the end of the transport. -/
  | close (nowMs : ℚ)
  /-- An `output.playout_ack` frame that the handle comes to read. -/
  | ack (commitId : Text) (pruneMs nowMs : ℚ)
  | confirmPlayout (markId : Text) (nowMs : ℚ)
  | timeout (call : Nat) (nowMs : ℚ)

def normalizeSequenceRange (start finish : Number) : Option (Nat × Nat) :=
  match start.safeInteger? 1, finish.safeInteger? 1 with
  | some start, some finish =>
    if finish < start ∨ MAX_WEB_AUDIO_SEQUENCE < finish then none else some (start, finish)
  | _, _ => none

namespace WebClientAudioCallHandle

def note (s : WebClientAudioCallHandle) (entry : PlayoutEntry) : WebClientAudioCallHandle :=
  { s with log := s.log ++ [entry] }

def pruneAckRecords (s : WebClientAudioCallHandle) (nowMs : ℚ) : WebClientAudioCallHandle :=
  { s with
    ackRecords := s.ackRecords.filter fun entry =>
      decide (nowMs < entry.2.expiresAt) || s.waiters.has entry.1 }

/-- The waiters once a call is no longer among them. -/
def removeWaiter (waiters : InsertionMap Text (List Nat)) (markId : Text) (call : Nat) :
    InsertionMap Text (List Nat) :=
  match waiters.get markId with
  | none => waiters
  | some calls =>
    if calls.filter (· ≠ call) = [] then waiters.delete markId
    else waiters.set markId (calls.filter (· ≠ call))

/-- A record that is still pending times out. -/
def timeOutRecord (records : InsertionMap Text AckRecord) (markId : Text) (nowMs : ℚ) :
    InsertionMap Text AckRecord :=
  match records.get markId with
  | none => records
  | some record =>
    if record.state = .pending then
      records.set markId ⟨.timedOut, nowMs + WEB_CLIENT_AUDIO_ACK_RETENTION_MS⟩
    else records

/-- The `finish` of a call of `confirmPlayout`; it counts once. -/
def finish (s : WebClientAudioCallHandle) (nowMs : ℚ) (call : Nat) (acked : Bool) : WebClientAudioCallHandle :=
  match s.calls[call]? with
  | some ⟨markId, none⟩ =>
    { s with
      waiters := removeWaiter s.waiters markId call
      ackRecords :=
        if acked then s.ackRecords.delete markId else timeOutRecord s.ackRecords markId nowMs
      calls := s.calls.set call ⟨markId, some acked⟩
      log := s.log ++ [.settled call markId acked] }
  | _ => s

def finishAll (s : WebClientAudioCallHandle) (nowMs : ℚ) (waiters : List Nat) (acked : Bool) :
    WebClientAudioCallHandle :=
  waiters.foldl (fun s call => s.finish nowMs call acked) s

def invalidateAcknowledgements (s : WebClientAudioCallHandle) (nowMs : ℚ) : WebClientAudioCallHandle :=
  { s.finishAll nowMs (s.waiters.values.flatten) false with waiters := [], ackRecords := [] }.note .dropped

def closeEvents (s : WebClientAudioCallHandle) (nowMs : ℚ) : WebClientAudioCallHandle :=
  if s.closed then s
  else { s.invalidateAcknowledgements nowMs with closed := true, nextOutputSequence := 1 }

def hasOutputSequenceRange (s : WebClientAudioCallHandle) (start finish : Nat) : Prop :=
  1 ≤ start ∧ start ≤ finish ∧ finish < s.nextOutputSequence

instance (s : WebClientAudioCallHandle) (start finish : Nat) :
    Decidable (s.hasOutputSequenceRange start finish) :=
  inferInstanceAs (Decidable (_ ∧ _ ∧ _))

def sendAudio (s : WebClientAudioCallHandle) (sequence : Number) (nowMs : ℚ) (write : FrameWrite) :
    WebClientAudioCallHandle :=
  if s.closed then s
  else
    match sequence.safeInteger? 1 with
    | none => s
    | some sequence =>
      if MAX_WEB_AUDIO_SEQUENCE < sequence ∨ sequence ≠ s.nextOutputSequence then s
      else
        match write with
        | .written => { s with nextOutputSequence := s.nextOutputSequence + 1 }
        | .refused => s
        | .overLimit => s.closeEvents nowMs

variable (maxPendingAcks : Nat)

/-- `send` of a commit: its record is there before the frame goes out. -/
def sendCommit (s : WebClientAudioCallHandle) (commitId : Text) (start finish : Number)
    (pruneMs nowMs : ℚ) (write : FrameWrite) : WebClientAudioCallHandle :=
  if s.closed then s
  else
    let s := s.pruneAckRecords pruneMs
    match normalizeSequenceRange start finish with
    | none => s
    | some (start, finish) =>
      if ¬ s.hasOutputSequenceRange start finish ∨ s.ackRecords.has commitId then s
      else if maxPendingAcks ≤ s.ackRecords.length then s.closeEvents nowMs
      else
        let reserved :=
          { s with
            ackRecords := s.ackRecords.set commitId
              ⟨.pending, nowMs + WEB_CLIENT_AUDIO_ACK_RETENTION_MS⟩ }
        match write with
        | .written => { reserved.note (.written commitId) with nextOutputSequence := 1 }
        | .refused => { reserved with ackRecords := reserved.ackRecords.delete commitId }
        | .overLimit =>
          let closed := reserved.closeEvents nowMs
          { closed with ackRecords := closed.ackRecords.delete commitId }

def clear (s : WebClientAudioCallHandle) (nowMs : ℚ) (write : FrameWrite) : WebClientAudioCallHandle :=
  if s.closed then s
  else
    let s := s.invalidateAcknowledgements nowMs
    match write with
    | .written => { s with nextOutputSequence := 1 }
    | .refused | .overLimit => s.closeEvents nowMs

/-- `#resolveAck`, for a frame that a handle reads while it is open. -/
def resolveAck (s : WebClientAudioCallHandle) (markId : Text) (pruneMs nowMs : ℚ) :
    WebClientAudioCallHandle :=
  if s.closed then s
  else
    let s := (s.pruneAckRecords pruneMs).note (.acked markId)
    match s.ackRecords.get markId with
    | none => s
    | some record =>
      if record.state ≠ .pending then s
      else
        let acked :=
          { s with
            ackRecords := s.ackRecords.set markId ⟨.acked, nowMs + WEB_CLIENT_AUDIO_ACK_RETENTION_MS⟩ }
        match s.waiters.get markId with
        | none => acked
        | some waiters => acked.finishAll nowMs waiters true

/-- The call comes to its answer at once. -/
def answer (s : WebClientAudioCallHandle) (markId : Text) (acked : Bool) : WebClientAudioCallHandle :=
  { s with
    calls := s.calls ++ [⟨markId, some acked⟩]
    log := s.log ++ [.settled s.calls.length markId acked] }

/-- The call waits, with its timer set. -/
def wait (s : WebClientAudioCallHandle) (markId : Text) : WebClientAudioCallHandle :=
  { s with
    calls := s.calls ++ [⟨markId, none⟩]
    waiters := s.waiters.set markId ((s.waiters.get markId).getD [] ++ [s.calls.length]) }

def confirmPlayout (s : WebClientAudioCallHandle) (markId : Text) (nowMs : ℚ) : WebClientAudioCallHandle :=
  let s := (s.pruneAckRecords nowMs).note (.called s.calls.length markId)
  match s.ackRecords.get markId with
  | none => s.answer markId false
  | some record =>
    if record.state = .timedOut ∨ s.closed then s.answer markId false
    else if record.state = .acked then
      { s with ackRecords := s.ackRecords.delete markId }.answer markId true
    else s.wait markId

def step (s : WebClientAudioCallHandle) : PlayoutStep → WebClientAudioCallHandle
  | .sendAudio sequence nowMs write => s.sendAudio sequence nowMs write
  | .sendCommit commitId start finish pruneMs nowMs write =>
    s.sendCommit maxPendingAcks commitId start finish pruneMs nowMs write
  | .clear nowMs write => s.clear nowMs write
  | .close nowMs => s.closeEvents nowMs
  | .ack commitId pruneMs nowMs => s.resolveAck commitId pruneMs nowMs
  | .confirmPlayout markId nowMs => s.confirmPlayout markId nowMs
  | .timeout call nowMs => s.finish nowMs call false

/-- A timer that fires leaves nobody behind who waits for the same commit. -/
def Undisturbed (s : WebClientAudioCallHandle) : PlayoutStep → Prop
  | .timeout call _ => ∀ markId other, s.calls[call]? = some ⟨markId, none⟩ →
      s.calls[other]? = some ⟨markId, none⟩ → other = call
  | _ => True

end WebClientAudioCallHandle

end Tvic
