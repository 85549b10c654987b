import Tvic.Runtime.AudioTapLedger

/-!
# Deliveries of the audio tap

What an observer sees of a dispatcher over a whole run. `Account` is the ledger of the dispatcher with
the deliveries of the trace and the numbers issued by the run; `Flow` says how the flags of the drain
and of the notification follow the trace.
-/
namespace Tvic

variable {φ : Type}

/-! ## What a run issues and records -/

namespace TapWorld

/-- The sequence number an event takes, and whether it is for audio. -/
def issues (world : TapWorld φ) (event : TapEvent φ) : Option TapTag :=
  if world.dispatcher.Accepts then
    match event with
    | .audio _ _ => some (world.dispatcher.nextSequence, true)
    | .cleared _ | .playout _ => some (world.dispatcher.nextSequence, false)
    | _ => none
  else none

def recordsFrames (world : TapWorld φ) : TapEvent φ → Option Nat
  | .recordDroppedFrames count => some (world.dispatcher.recorded count)
  | _ => none

def recordsEvents (world : TapWorld φ) : TapEvent φ → Option Nat
  | .recordDroppedEvents count => some (world.dispatcher.recorded count)
  | _ => none

end TapWorld

def issuedTags (sessionId : SessionId) (tap : Option AudioTapOptions) (events : List (TapEvent φ)) :
    List TapTag :=
  Lib.history TapWorld.step TapWorld.issues (TapWorld.new sessionId tap) events

def recordedDroppedFrames (sessionId : SessionId) (tap : Option AudioTapOptions)
    (events : List (TapEvent φ)) : Nat :=
  (Lib.history TapWorld.step TapWorld.recordsFrames (TapWorld.new sessionId tap) events).sum

def recordedDroppedEvents (sessionId : SessionId) (tap : Option AudioTapOptions)
    (events : List (TapEvent φ)) : Nat :=
  (Lib.history TapWorld.step TapWorld.recordsEvents (TapWorld.new sessionId tap) events).sum

/-! ## Traces -/

def TapTrace.item : TapTrace φ → Option (QueuedFrame φ)
  | .delivered item => some item
  | _ => none

/-- The frames delivered, in order. -/
def deliveredTags (trace : List (TapTrace φ)) : List TapTag :=
  (trace.filterMap TapTrace.item).map QueuedFrame.tag

def TapTrace.isSettled : TapTrace φ → Bool
  | .settled => true
  | _ => false

def TapTrace.isClosed : TapTrace φ → Bool
  | .closed => true
  | _ => false

def TapTrace.isDrained : TapTrace φ → Bool
  | .drained _ => true
  | _ => false

/-- Every callback that was called has settled. -/
def AllSettled (trace : List (TapTrace φ)) : Prop :=
  (deliveredTags trace).length = trace.countP TapTrace.isSettled

/-- What may happen after a trace: a delivery when every callback has settled and before the notification;
the notification once, after `close`, when every callback has settled. -/
def MayFollow (before : List (TapTrace φ)) : TapTrace φ → Prop
  | .delivered _ => AllSettled before ∧ before.any TapTrace.isDrained = false
  | .drained _ =>
    before.any TapTrace.isClosed = true ∧ AllSettled before ∧ before.any TapTrace.isDrained = false
  | .settled | .closed => True

/-- A trace of which every entry may follow those before it. -/
def Orderly (trace : List (TapTrace φ)) : Prop :=
  ∀ before entry rest, trace = before ++ entry :: rest → MayFollow before entry

theorem Orderly.snoc {trace : List (TapTrace φ)} (orderly : Orderly trace) {entry : TapTrace φ}
    (may : MayFollow trace entry) : Orderly (trace ++ [entry]) := by
  intro before other rest split
  cases rest using List.reverseRecOn with
  | nil =>
    obtain ⟨rfl, same⟩ := List.append_inj' split rfl
    cases same
    exact may
  | append_singleton rest last =>
    rw [← List.cons_append, ← List.append_assoc] at split
    exact orderly before other rest (List.append_inj' split rfl).1

theorem deliveredTags_append (first second : List (TapTrace φ)) :
    deliveredTags (first ++ second) = deliveredTags first ++ deliveredTags second := by
  rw [deliveredTags, List.filterMap_append, List.map_append]
  rfl

theorem deliveredTags_other {entry : TapTrace φ} (trace : List (TapTrace φ))
    (other : entry.item = none) : deliveredTags (trace ++ [entry]) = deliveredTags trace := by
  rw [deliveredTags_append]
  simp [deliveredTags, other]

theorem any_other {entry : TapTrace φ} (kind : TapTrace φ → Bool) (trace : List (TapTrace φ))
    (other : kind entry = false) : (trace ++ [entry]).any kind = trace.any kind := by
  simp [other]

/-! ## The ledger of a run -/

namespace TapWorld

variable {world : TapWorld φ} {issued : List TapTag} {recordedFrames recordedEvents : Nat}

def Account (world : TapWorld φ) (issued : List TapTag) (recordedFrames recordedEvents : Nat) : Prop :=
  Ledger world.dispatcher.core (deliveredTags world.trace) issued [] recordedFrames recordedEvents

section

variable (account : world.Account issued recordedFrames recordedEvents)
include account

theorem Account.drainLoop :
    world.drainLoop.Account issued recordedFrames recordedEvents := by
  unfold TapWorld.drainLoop
  cases queue : world.dispatcher.queue with
  | nil =>
    change Ledger world.dispatcher.stopDraining.core _ _ _ _ _
    rw [AudioTapDispatcher.stopDraining, AudioTapDispatcher.scheduleDrainedNotification_core,
      AudioTapDispatcher.scheduleDrain_core]
    exact account
  | cons item rest =>
    change Ledger (world.dispatcher.shift item rest).core
      (deliveredTags (world.trace ++ [.delivered item])) _ _ _ _
    rw [AudioTapDispatcher.shift_core, deliveredTags_append]
    exact Ledger.deliver account queue

theorem Account.drain :
    world.drain.Account issued recordedFrames recordedEvents := by
  unfold TapWorld.drain
  split
  · dsimp only
    split
    · exact account
    · exact Account.drainLoop account
  · exact account

theorem Account.settle (rejected : Bool) :
    (world.settle rejected).Account issued recordedFrames recordedEvents := by
  unfold TapWorld.settle
  split
  · apply Account.drainLoop
    unfold Account
    rw [deliveredTags_other world.trace rfl]
    cases rejected <;> exact account
  · exact account

theorem Account.notify :
    world.notify.Account issued recordedFrames recordedEvents := by
  unfold TapWorld.notify
  split
  · dsimp only
    split
    · unfold Account
      dsimp only
      rw [AudioTapDispatcher.scheduleDrainedNotification_core, AudioTapDispatcher.scheduleDrain_core]
      exact account
    · unfold Account
      dsimp only
      rw [deliveredTags_other world.trace rfl]
      exact account
  · exact account

theorem Account.step (event : TapEvent φ) :
    (world.step event).Account (issued ++ (world.issues event).toList)
      (recordedFrames + (world.recordsFrames event).toList.sum)
      (recordedEvents + (world.recordsEvents event).toList.sum) := by
  have silent : ∀ {other : TapWorld φ}, other.Account issued recordedFrames recordedEvents →
      other.Account (issued ++ (none : Option TapTag).toList)
        (recordedFrames + (none : Option Nat).toList.sum)
        (recordedEvents + (none : Option Nat).toList.sum) := by
    intro other same
    simpa using same
  cases event with
  | audio input copies =>
    by_cases accepts : world.dispatcher.Accepts
    · simp only [issues, if_pos accepts]
      exact AudioTapDispatcher.audio_ledger account input copies accepts
    · have closed : (world.dispatcher.audio input copies).2 = world.dispatcher := by
        rw [AudioTapDispatcher.audio, if_pos (Decidable.not_not.mp accepts)]
      simp only [issues, if_neg accepts, TapWorld.step, closed]
      exact silent account
  | cleared input =>
    by_cases accepts : world.dispatcher.Accepts
    · simp only [issues, if_pos accepts]
      exact AudioTapDispatcher.cleared_ledger account input accepts
    · have closed : world.dispatcher.cleared input = world.dispatcher := by
        rw [AudioTapDispatcher.cleared, if_pos (Decidable.not_not.mp accepts)]
      simp only [issues, if_neg accepts, TapWorld.step, closed]
      exact silent account
  | playout input =>
    by_cases accepts : world.dispatcher.Accepts
    · simp only [issues, if_pos accepts]
      exact AudioTapDispatcher.playout_ledger account input accepts
    · have closed : world.dispatcher.playout input = world.dispatcher := by
        rw [AudioTapDispatcher.playout, if_pos (Decidable.not_not.mp accepts)]
      simp only [issues, if_neg accepts, TapWorld.step, closed]
      exact silent account
  | close =>
    simp only [issues, ite_self]
    apply silent
    unfold Account
    simp only [TapWorld.step, AudioTapDispatcher.close, AudioTapDispatcher.scheduleDrainedNotification_core,
      AudioTapDispatcher.scheduleDrain_core]
    rw [deliveredTags_other world.trace rfl]
    exact account
  | recordDroppedEvents count =>
    obtain ⟨mirrors, increasing, issued_eq, lost, located, frames, events⟩ := account
    simp only [issues, ite_self, Option.toList_none, List.append_nil]
    refine ⟨⟨mirrors.frames, mirrors.bytes, mirrors.events, mirrors.genuine, mirrors.frameLimit,
      mirrors.byteLimit, mirrors.eventLimit⟩, increasing, issued_eq, lost, located, frames, ?_⟩
    change world.dispatcher.droppedEvents + world.dispatcher.recorded count = _
    simp only [AudioTapDispatcher.core] at events
    simp only [recordsEvents, Option.toList_some, List.sum_singleton, events]
    omega
  | recordDroppedFrames count =>
    obtain ⟨mirrors, increasing, issued_eq, lost, located, frames, events⟩ := account
    simp only [issues, ite_self, Option.toList_none, List.append_nil]
    refine ⟨⟨mirrors.frames, mirrors.bytes, mirrors.events, mirrors.genuine, mirrors.frameLimit,
      mirrors.byteLimit, mirrors.eventLimit⟩, increasing, issued_eq, lost, located, ?_, events⟩
    change world.dispatcher.droppedFrames + world.dispatcher.recorded count = _
    simp only [AudioTapDispatcher.core] at frames
    simp only [recordsFrames, Option.toList_some, List.sum_singleton, frames]
    omega
  | drain =>
    simp only [issues, ite_self]
    exact silent account.drain
  | settle rejected =>
    simp only [issues, ite_self]
    exact silent (account.settle rejected)
  | notify =>
    simp only [issues, ite_self]
    exact silent account.notify

end

theorem new_account (sessionId : SessionId) (tap : Option AudioTapOptions) :
    (new (φ := φ) sessionId tap).Account [] 0 0 := by
  constructor
  · constructor
    · rfl
    · rfl
    · rfl
    · intro item member
      cases member
    · exact Nat.zero_le _
    · exact Nat.zero_le _
    · exact Nat.zero_le _
  · refine ⟨List.Pairwise.nil, rfl, [], List.Perm.refl _, rfl, rfl⟩

theorem after_account (sessionId : SessionId) (tap : Option AudioTapOptions)
    (events : List (TapEvent φ)) :
    (after sessionId tap events).Account (issuedTags sessionId tap events)
      (recordedDroppedFrames sessionId tap events) (recordedDroppedEvents sessionId tap events) := by
  induction events using List.reverseRecOn with
  | nil => exact new_account sessionId tap
  | append_singleton events last ih =>
    have next := ih.step last
    simp only [issuedTags, recordedDroppedFrames, recordedDroppedEvents, after, Lib.run_snoc,
      Lib.history_snoc, List.sum_append] at next ⊢
    exact next

end TapWorld

/-! ## The flags and the trace -/

/-- The flags of the drain and of the notification. -/
structure TapFlags where
  draining : Bool
  closed : Bool
  drainedScheduled : Bool
  drainedNotified : Bool

def AudioTapDispatcher.flags (dispatcher : AudioTapDispatcher φ) : TapFlags :=
  { draining := dispatcher.draining
    closed := dispatcher.closed
    drainedScheduled := dispatcher.drainedScheduled
    drainedNotified := dispatcher.drainedNotified }

/-- What the flags say about the trace, between two steps of the drain. -/
structure Flow (flags : TapFlags) (queue : List (QueuedFrame φ)) (trace : List (TapTrace φ)) :
    Prop where
  closed : flags.closed = trace.any TapTrace.isClosed
  drained : flags.drainedNotified = trace.any TapTrace.isDrained
  timer : flags.drainedScheduled = true → flags.closed = true
  notified : flags.drainedNotified = true →
    flags.closed = true ∧ flags.drainedScheduled = false ∧ queue = []
  orderly : Orderly trace

namespace AudioTapDispatcher

section

variable (dispatcher : AudioTapDispatcher φ)
include dispatcher

theorem scheduleDrain_flags :
    dispatcher.scheduleDrain.flags = dispatcher.flags := by
  unfold scheduleDrain
  split <;> rfl

theorem scheduleDrain_queue :
    dispatcher.scheduleDrain.queue = dispatcher.queue := by
  unfold scheduleDrain
  split <;> rfl

theorem enqueue_flags (frame : AudioTapFrame φ) (isAudio : Bool) (bytes : Nat) :
    (dispatcher.enqueue frame isAudio bytes).flags = dispatcher.flags := by
  rw [enqueue, scheduleDrain_flags]
  cases isAudio <;> rfl

theorem control_flags (frame : AudioTapFrame φ) :
    (dispatcher.control frame).flags = dispatcher.flags := by
  unfold control
  split
  · split
    · exact enqueue_flags _ _ _ _
    · rfl
  · exact enqueue_flags _ _ _ _

theorem audio_flags (input : AudioTapAudioInput φ) (copies : Bool) :
    (dispatcher.audio input copies).2.flags = dispatcher.flags := by
  unfold audio
  split
  · rfl
  · extract_lets sequence issued tracked dropped
    have same : tracked.flags = dispatcher.flags := by
      simp only [tracked]
      split <;> rfl
    split
    · exact same
    · split
      · exact same
      · split
        · exact (enqueue_flags _ _ _ _).trans same
        · exact same

theorem cleared_flags (input : AudioTapClearedInput) :
    (dispatcher.cleared input).flags = dispatcher.flags := by
  unfold cleared
  split
  · rfl
  · exact control_flags _ _

theorem playout_flags (input : AudioTapPlayoutInput) :
    (dispatcher.playout input).flags = dispatcher.flags := by
  unfold playout
  split
  · rfl
  · dsimp only
    split
    · rfl
    · rw [control_flags]
      split <;> rfl

end

/-- Scheduling the notification sets a timer at most, and only after `close`, before the notification and
with nothing queued. -/
theorem scheduleDrainedNotification_flow {dispatcher : AudioTapDispatcher φ}
    {trace : List (TapTrace φ)} (flow : Flow dispatcher.flags dispatcher.queue trace) :
    Flow dispatcher.scheduleDrainedNotification.flags dispatcher.scheduleDrainedNotification.queue
      trace := by
  unfold scheduleDrainedNotification
  split
  · exact flow
  next ready =>
    simp only [not_or, Bool.not_eq_true, Bool.not_eq_false] at ready
    obtain ⟨closed, _, _, notNotified, _⟩ := ready
    refine ⟨flow.closed, flow.drained, ?_, ?_, flow.orderly⟩
    · intro _
      exact closed
    · intro notified
      exact absurd notified (by
        change ¬ dispatcher.drainedNotified = true
        rw [notNotified]
        exact Bool.false_ne_true)

end AudioTapDispatcher

namespace TapWorld

variable {world : TapWorld φ}

/-- A world between two events: its drain awaits the one callback that has not settled. -/
structure Runs (world : TapWorld φ) : Prop where
  flow : Flow world.dispatcher.flags world.dispatcher.queue world.trace
  awaiting : world.awaiting = world.dispatcher.draining
  settled : (deliveredTags world.trace).length =
    world.trace.countP TapTrace.isSettled + if world.awaiting then 1 else 0
  idle : world.dispatcher.drainedNotified = true → world.awaiting = false

theorem drainLoop_runs (flow : Flow world.dispatcher.flags world.dispatcher.queue world.trace)
    (draining : world.dispatcher.draining = true) (settled : AllSettled world.trace) :
    world.drainLoop.Runs := by
  unfold drainLoop
  cases queue : world.dispatcher.queue with
  | nil =>
    dsimp only
    have stopped : Flow world.dispatcher.stopDraining.flags world.dispatcher.stopDraining.queue
        world.trace := by
      apply AudioTapDispatcher.scheduleDrainedNotification_flow
      rw [AudioTapDispatcher.scheduleDrain_flags, AudioTapDispatcher.scheduleDrain_queue]
      exact ⟨flow.closed, flow.drained, flow.timer, flow.notified, flow.orderly⟩
    refine ⟨stopped, ?_, ?_, fun _ => rfl⟩
    · dsimp only
      unfold AudioTapDispatcher.stopDraining AudioTapDispatcher.scheduleDrainedNotification
        AudioTapDispatcher.scheduleDrain
      split <;> split <;> rfl
    · rw [if_neg Bool.false_ne_true, Nat.add_zero]
      exact settled
  | cons item rest =>
    dsimp only
    have flags : (world.dispatcher.shift item rest).flags = world.dispatcher.flags := by
      unfold AudioTapDispatcher.shift
      split <;> rfl
    -- with a frame in the queue the notification is still to come
    have notNotified : world.dispatcher.flags.drainedNotified = false := by
      by_contra notified
      rw [Bool.not_eq_false] at notified
      have empty := (flow.notified notified).2.2
      rw [queue] at empty
      cases empty
    refine ⟨?_, ?_, ?_, ?_⟩
    · dsimp only
      rw [flags]
      refine ⟨?_, ?_, flow.timer, ?_, flow.orderly.snoc ⟨settled, ?_⟩⟩
      · exact flow.closed.trans (any_other _ _ rfl).symm
      · exact flow.drained.trans (any_other _ _ rfl).symm
      · intro notified
        rw [notNotified] at notified
        cases notified
      · rw [← flow.drained, notNotified]
    · exact (draining.symm.trans (congrArg TapFlags.draining flags).symm :)
    · have delivered : (deliveredTags [TapTrace.delivered item]).length = 1 := rfl
      have settledNone : [TapTrace.delivered item].countP TapTrace.isSettled = 0 := rfl
      rw [AllSettled] at settled
      rw [if_pos rfl, deliveredTags_append, List.length_append, List.countP_append, delivered, settledNone,
        settled, Nat.add_zero]
    · intro notified
      have same := congrArg TapFlags.drainedNotified flags
      rw [notNotified] at same
      rw [show (world.dispatcher.shift item rest).drainedNotified = false from same] at notified
      cases notified

section

variable (runs : world.Runs)
include runs

theorem Runs.call {dispatcher : AudioTapDispatcher φ}
    (flags : dispatcher.flags = world.dispatcher.flags)
    (queue : world.dispatcher.closed = true → dispatcher.queue = world.dispatcher.queue) :
    ({ world with dispatcher } : TapWorld φ).Runs := by
  obtain ⟨flow, awaiting, settled, idle⟩ := runs
  refine ⟨?_, ?_, settled, ?_⟩
  · dsimp only
    rw [flags]
    refine ⟨flow.closed, flow.drained, flow.timer, ?_, flow.orderly⟩
    intro notified
    obtain ⟨closed, timer, empty⟩ := flow.notified notified
    exact ⟨closed, timer, (queue closed).trans empty⟩
  · exact awaiting.trans (congrArg TapFlags.draining flags).symm
  · intro notified
    exact idle ((congrArg TapFlags.drainedNotified flags).symm.trans notified)

theorem Runs.close : (world.step .close).Runs := by
  obtain ⟨flow, awaiting, settled, idle⟩ := runs
  have closing : Flow { world.dispatcher with closed := true }.flags world.dispatcher.queue
      (world.trace ++ [.closed]) := by
    refine ⟨?_, ?_, fun _ => rfl, ?_, flow.orderly.snoc trivial⟩
    · simp [AudioTapDispatcher.flags, TapTrace.isClosed]
    · exact flow.drained.trans (any_other _ _ rfl).symm
    · intro notified
      obtain ⟨_, timer, empty⟩ := flow.notified notified
      exact ⟨rfl, timer, empty⟩
  have scheduled : Flow world.dispatcher.close.flags world.dispatcher.close.queue
      (world.trace ++ [.closed]) := by
    apply AudioTapDispatcher.scheduleDrainedNotification_flow
    rw [AudioTapDispatcher.scheduleDrain_flags, AudioTapDispatcher.scheduleDrain_queue]
    exact closing
  have kept : world.dispatcher.close.draining = world.dispatcher.draining ∧
      world.dispatcher.close.drainedNotified = world.dispatcher.drainedNotified := by
    unfold AudioTapDispatcher.close AudioTapDispatcher.scheduleDrainedNotification
      AudioTapDispatcher.scheduleDrain
    split <;> split <;> exact ⟨rfl, rfl⟩
  refine ⟨scheduled, awaiting.trans kept.1.symm, ?_, ?_⟩
  · change (deliveredTags (world.trace ++ [TapTrace.closed])).length =
      (world.trace ++ [TapTrace.closed]).countP TapTrace.isSettled + if world.awaiting then 1 else 0
    rw [deliveredTags_other world.trace rfl, List.countP_append, settled]
    rfl
  · intro notified
    exact idle (kept.2.symm.trans notified)

theorem Runs.drain : world.drain.Runs := by
  obtain ⟨flow, awaiting, settled, idle⟩ := runs
  unfold TapWorld.drain
  split
  · dsimp only
    split
    · exact ⟨flow, awaiting, settled, idle⟩
    next ready =>
      rw [not_or, Bool.not_eq_true] at ready
      have waits : world.awaiting = false := awaiting.trans ready.1
      rw [waits, if_neg Bool.false_ne_true, Nat.add_zero] at settled
      apply drainLoop_runs
      · exact ⟨flow.closed, flow.drained, flow.timer, flow.notified, flow.orderly⟩
      · rfl
      · exact settled
  · exact ⟨flow, awaiting, settled, idle⟩

theorem Runs.settle (rejected : Bool) : (world.settle rejected).Runs := by
  obtain ⟨flow, awaiting, settled, idle⟩ := runs
  unfold TapWorld.settle
  split
  next waits =>
    rw [waits, if_pos rfl] at settled
    have flags : (if rejected then
          { world.dispatcher with callbackErrors := world.dispatcher.callbackErrors + 1 }
        else world.dispatcher).flags = world.dispatcher.flags ∧
        (if rejected then
          { world.dispatcher with callbackErrors := world.dispatcher.callbackErrors + 1 }
        else world.dispatcher).queue = world.dispatcher.queue := by
      cases rejected <;> exact ⟨rfl, rfl⟩
    apply drainLoop_runs
    · dsimp only
      rw [flags.1, flags.2]
      refine ⟨?_, ?_, flow.timer, flow.notified, flow.orderly.snoc trivial⟩
      · exact flow.closed.trans (any_other _ _ rfl).symm
      · exact flow.drained.trans (any_other _ _ rfl).symm
    · exact (congrArg TapFlags.draining flags.1).trans (awaiting.symm.trans waits)
    · change (deliveredTags (world.trace ++ [TapTrace.settled])).length =
        (world.trace ++ [TapTrace.settled]).countP TapTrace.isSettled
      rw [deliveredTags_other world.trace rfl, List.countP_append, settled]
      rfl
  · exact ⟨flow, awaiting, settled, idle⟩

theorem Runs.notify : world.notify.Runs := by
  obtain ⟨flow, awaiting, settled, idle⟩ := runs
  unfold TapWorld.notify
  split
  next scheduled =>
    have closed := flow.timer scheduled
    -- the timer is only set before the notification
    have notNotified : world.dispatcher.drainedNotified = false := by
      by_contra notified
      rw [Bool.not_eq_false] at notified
      have timer := (flow.notified notified).2.1
      rw [show world.dispatcher.flags.drainedScheduled = true from scheduled] at timer
      cases timer
    have fired : Flow { world.dispatcher with drainedScheduled := false }.flags world.dispatcher.queue
        world.trace := by
      refine ⟨flow.closed, flow.drained, fun _ => closed, ?_, flow.orderly⟩
      intro notified
      exact absurd (notNotified.symm.trans notified) Bool.false_ne_true
    dsimp only
    split
    · refine ⟨?_, ?_, settled, ?_⟩
      · apply AudioTapDispatcher.scheduleDrainedNotification_flow
        rw [AudioTapDispatcher.scheduleDrain_flags, AudioTapDispatcher.scheduleDrain_queue]
        exact fired
      · rw [awaiting]
        unfold AudioTapDispatcher.scheduleDrainedNotification AudioTapDispatcher.scheduleDrain
        split <;> split <;> rfl
      · intro notified
        apply idle
        revert notified
        unfold AudioTapDispatcher.scheduleDrainedNotification AudioTapDispatcher.scheduleDrain
        split <;> split <;> exact id
    next ready =>
      rw [not_or, Bool.not_eq_true, Nat.not_lt, Nat.le_zero, List.length_eq_zero_iff] at ready
      have waits : world.awaiting = false := awaiting.trans ready.1
      refine ⟨?_, awaiting, ?_, fun _ => waits⟩
      · refine ⟨?_, ?_, fun _ => closed, fun _ => ⟨closed, rfl, ready.2⟩, flow.orderly.snoc ⟨?_, ?_, ?_⟩⟩
        · exact flow.closed.trans (any_other _ _ rfl).symm
        · simp [AudioTapDispatcher.flags, TapTrace.isDrained]
        · rw [← flow.closed, closed]
        · rwa [waits, if_neg Bool.false_ne_true, Nat.add_zero] at settled
        · rw [← flow.drained]
          exact notNotified
      · dsimp only
        rw [deliveredTags_other world.trace rfl, List.countP_append, settled]
        rfl
  · exact ⟨flow, awaiting, settled, idle⟩

theorem Runs.step (event : TapEvent φ) : (world.step event).Runs := by
  cases event with
  | audio input copies =>
    apply runs.call (AudioTapDispatcher.audio_flags _ _ _)
    intro closed
    rw [AudioTapDispatcher.audio, if_pos (.inr closed)]
  | cleared input =>
    apply runs.call (AudioTapDispatcher.cleared_flags _ _)
    intro closed
    rw [AudioTapDispatcher.cleared, if_pos (.inr closed)]
  | playout input =>
    apply runs.call (AudioTapDispatcher.playout_flags _ _)
    intro closed
    rw [AudioTapDispatcher.playout, if_pos (.inr closed)]
  | close => exact runs.close
  | recordDroppedEvents count => exact runs.call rfl fun _ => rfl
  | recordDroppedFrames count => exact runs.call rfl fun _ => rfl
  | drain => exact runs.drain
  | settle rejected => exact runs.settle rejected
  | notify => exact runs.notify

end

theorem new_runs (sessionId : SessionId) (tap : Option AudioTapOptions) :
    (new (φ := φ) sessionId tap).Runs := by
  refine ⟨⟨rfl, rfl, ?_, ?_, ?_⟩, rfl, rfl, fun _ => rfl⟩
  · intro scheduled
    cases scheduled
  · intro notified
    cases notified
  · intro before entry rest split
    exact absurd split (by simp [new])

theorem after_runs (sessionId : SessionId) (tap : Option AudioTapOptions)
    (events : List (TapEvent φ)) : (after sessionId tap events).Runs :=
  Lib.run_invariant step Runs (fun _ event runs => runs.step event) _ (new_runs sessionId tap) events

/-- The audio tap over every run of calls and drain steps. The frames delivered, then those queued, are in
increasing order of their numbers; every number issued is delivered, queued, or lost, and the counts of
drops count the lost ones, besides what the callers record; the counters are those of the queue and
within the limits; and every delivery comes when the earlier callbacks have settled, the one notification
after `close` and after all of them. -/
theorem audio_tap (sessionId : SessionId) (tap : Option AudioTapOptions) (events : List (TapEvent φ)) :
    let world := after sessionId tap events
    let dispatcher := world.dispatcher
    let delivered := deliveredTags world.trace
    let queued := dispatcher.queue.map QueuedFrame.tag
    ((delivered ++ queued).map Prod.fst).Pairwise (· < ·) ∧
      (issuedTags sessionId tap events).map Prod.fst = List.range dispatcher.nextSequence ∧
      (∃ lost : List TapTag,
        (delivered ++ queued ++ lost).Perm (issuedTags sessionId tap events) ∧
        dispatcher.droppedFrames =
          lost.countP (fun tag => tag.2) + recordedDroppedFrames sessionId tap events ∧
        dispatcher.droppedEvents =
          lost.countP (fun tag => !tag.2) + recordedDroppedEvents sessionId tap events) ∧
      dispatcher.queuedAudioFrames = audioFrames dispatcher.queue ∧
      dispatcher.queuedAudioBytes = audioBytes dispatcher.queue ∧
      dispatcher.queuedControlEvents = controlEvents dispatcher.queue ∧
      audioFrames dispatcher.queue ≤ audioTapMaxBufferedAudioFrames ∧
      audioBytes dispatcher.queue ≤ audioTapMaxBufferedBytes ∧
      controlEvents dispatcher.queue ≤ audioTapMaxBufferedControlEvents ∧
      Orderly world.trace := by
  obtain ⟨mirrors, increasing, issued_eq, lost, located, frames, events'⟩ :=
    after_account sessionId tap events
  rw [List.append_nil] at increasing located
  exact ⟨increasing, issued_eq, ⟨lost, located, frames, events'⟩, mirrors.frames, mirrors.bytes,
    mirrors.events, mirrors.frameLimit, mirrors.byteLimit, mirrors.eventLimit,
    (after_runs sessionId tap events).flow.orderly⟩

end TapWorld

end Tvic
