import Tvic.Runtime.AudioTap

/-!
# The ledger of the audio tap

`Ledger` is what the queue, its three counters and the two counts of drops say about the sequence
numbers issued so far: each is delivered, queued, lost, or the one that a call under way is about to
place. The lemmas follow what the calls do to the queue, and the calls are put together from them.
-/
namespace Tvic

variable {φ : Type}

def AudioTapFrame.isAudio : AudioTapFrame φ → Bool
  | .audio _ => true
  | .cleared _ | .playout _ => false

def AudioTapFrame.audioBytes : AudioTapFrame φ → Nat
  | .audio frame => frame.bytes.length
  | .cleared _ | .playout _ => 0

/-- A sequence number, and whether it belongs to audio. -/
abbrev TapTag := Nat × Bool

def QueuedFrame.tag (item : QueuedFrame φ) : TapTag := (item.frame.sequence, item.frame.isAudio)

/-- What the ledger is about. -/
structure TapCore (φ : Type) where
  queue : List (QueuedFrame φ)
  nextSequence : Nat
  queuedAudioFrames : Int
  queuedAudioBytes : Int
  queuedControlEvents : Int
  droppedFrames : Nat
  droppedEvents : Nat

def AudioTapDispatcher.core (dispatcher : AudioTapDispatcher φ) : TapCore φ :=
  { queue := dispatcher.queue
    nextSequence := dispatcher.nextSequence
    queuedAudioFrames := dispatcher.queuedAudioFrames
    queuedAudioBytes := dispatcher.queuedAudioBytes
    queuedControlEvents := dispatcher.queuedControlEvents
    droppedFrames := dispatcher.droppedFrames
    droppedEvents := dispatcher.droppedEvents }

def audioFrames (queue : List (QueuedFrame φ)) : Nat := queue.countP fun item => item.frame.isAudio

def controlEvents (queue : List (QueuedFrame φ)) : Nat := queue.countP fun item => !item.frame.isAudio

def audioBytes (queue : List (QueuedFrame φ)) : Nat := (queue.map fun item => item.frame.audioBytes).sum

/-- The counters mirror the queue, and the queue is within its limits. -/
structure Mirrors (core : TapCore φ) : Prop where
  frames : core.queuedAudioFrames = audioFrames core.queue
  bytes : core.queuedAudioBytes = audioBytes core.queue
  events : core.queuedControlEvents = controlEvents core.queue
  genuine : ∀ item ∈ core.queue, item.isAudio = item.frame.isAudio ∧
    item.audioBytes = item.frame.audioBytes
  frameLimit : audioFrames core.queue ≤ audioTapMaxBufferedAudioFrames
  byteLimit : audioBytes core.queue ≤ audioTapMaxBufferedBytes
  eventLimit : controlEvents core.queue ≤ audioTapMaxBufferedControlEvents

/-- Where the sequence numbers are: delivered, queued, pending in a call, or lost and counted once. -/
structure Accounts (core : TapCore φ) (delivered issued pending : List TapTag)
    (recordedFrames recordedEvents : Nat) : Prop where
  increasing : ((delivered ++ core.queue.map QueuedFrame.tag ++ pending).map Prod.fst).Pairwise (· < ·)
  issued_eq : issued.map Prod.fst = List.range core.nextSequence
  lost : ∃ lost : List TapTag,
    (delivered ++ core.queue.map QueuedFrame.tag ++ pending ++ lost).Perm issued ∧
      core.droppedFrames = lost.countP (fun tag => tag.2) + recordedFrames ∧
      core.droppedEvents = lost.countP (fun tag => !tag.2) + recordedEvents

structure Ledger (core : TapCore φ) (delivered issued pending : List TapTag)
    (recordedFrames recordedEvents : Nat) : Prop where
  mirrors : Mirrors core
  accounts : Accounts core delivered issued pending recordedFrames recordedEvents

variable {core : TapCore φ} {delivered issued pending : List TapTag}
  {recordedFrames recordedEvents : Nat}

/-! ## What happens to the queue -/

theorem Ledger.issue (ledger : Ledger core delivered issued [] recordedFrames recordedEvents)
    (isAudio : Bool) :
    Ledger { core with nextSequence := core.nextSequence + 1 } delivered
      (issued ++ [(core.nextSequence, isAudio)]) [(core.nextSequence, isAudio)]
      recordedFrames recordedEvents := by
  obtain ⟨mirrors, increasing, issued_eq, lost, located, frames, events⟩ := ledger
  rw [List.append_nil] at increasing located
  refine ⟨⟨mirrors.frames, mirrors.bytes, mirrors.events, mirrors.genuine, mirrors.frameLimit,
    mirrors.byteLimit, mirrors.eventLimit⟩, ?_, ?_, lost, ?_, frames, events⟩
  · rw [List.map_append, List.pairwise_append]
    refine ⟨increasing, List.pairwise_singleton _ _, ?_⟩
    -- every number placed so far has been issued, and the new one is the next
    intro sequence placed next member
    rw [List.mem_singleton.mp member]
    obtain ⟨tag, present, rfl⟩ := List.mem_map.mp placed
    have known : tag.1 ∈ issued.map Prod.fst :=
      List.mem_map_of_mem (located.subset (List.mem_append_left lost present))
    rw [issued_eq] at known
    exact List.mem_range.mp known
  · rw [List.map_append, issued_eq, List.range_succ]
    rfl
  · have moved : (delivered ++ core.queue.map QueuedFrame.tag ++ [(core.nextSequence, isAudio)] ++
        lost).Perm (delivered ++ core.queue.map QueuedFrame.tag ++ lost ++
          [(core.nextSequence, isAudio)]) := by
      rw [List.append_assoc, List.append_assoc _ lost]
      exact List.Perm.append_left _ List.perm_append_comm
    exact moved.trans (located.append_right _)

theorem Ledger.loseAudio {sequence : Nat}
    (ledger : Ledger core delivered issued [(sequence, true)] recordedFrames recordedEvents) :
    Ledger { core with droppedFrames := core.droppedFrames + 1 } delivered issued []
      recordedFrames recordedEvents := by
  obtain ⟨mirrors, increasing, issued_eq, lost, located, frames, events⟩ := ledger
  refine ⟨⟨mirrors.frames, mirrors.bytes, mirrors.events, mirrors.genuine, mirrors.frameLimit,
    mirrors.byteLimit, mirrors.eventLimit⟩, ?_, issued_eq, (sequence, true) :: lost, ?_, ?_, ?_⟩
  · rw [List.append_nil]
    rw [List.map_append] at increasing
    exact (List.pairwise_append.mp increasing).1
  · simpa only [List.append_assoc, List.nil_append, List.cons_append] using located
  · simp only [List.countP_cons, frames, if_true]
    omega
  · simp only [List.countP_cons, events, Bool.not_true, Bool.false_eq_true, if_false, Nat.add_zero]

theorem Ledger.loseControl {sequence : Nat}
    (ledger : Ledger core delivered issued [(sequence, false)] recordedFrames recordedEvents) :
    Ledger { core with droppedEvents := core.droppedEvents + 1 } delivered issued []
      recordedFrames recordedEvents := by
  obtain ⟨mirrors, increasing, issued_eq, lost, located, frames, events⟩ := ledger
  refine ⟨⟨mirrors.frames, mirrors.bytes, mirrors.events, mirrors.genuine, mirrors.frameLimit,
    mirrors.byteLimit, mirrors.eventLimit⟩, ?_, issued_eq, (sequence, false) :: lost, ?_, ?_, ?_⟩
  · rw [List.append_nil]
    rw [List.map_append] at increasing
    exact (List.pairwise_append.mp increasing).1
  · simpa only [List.append_assoc, List.nil_append, List.cons_append] using located
  · simp only [List.countP_cons, frames, Bool.false_eq_true, if_false, Nat.add_zero]
  · simp only [List.countP_cons, events, Bool.not_false, if_true]
    omega

def TapCore.push (core : TapCore φ) (item : QueuedFrame φ) : TapCore φ :=
  if item.isAudio then
    { core with
      queue := core.queue ++ [item]
      queuedAudioFrames := core.queuedAudioFrames + 1
      queuedAudioBytes := core.queuedAudioBytes + item.audioBytes }
  else
    { core with
      queue := core.queue ++ [item]
      queuedControlEvents := core.queuedControlEvents + 1 }

theorem audioFrames_append (first second : List (QueuedFrame φ)) :
    audioFrames (first ++ second) = audioFrames first + audioFrames second := List.countP_append

theorem controlEvents_append (first second : List (QueuedFrame φ)) :
    controlEvents (first ++ second) = controlEvents first + controlEvents second := List.countP_append

theorem audioBytes_append (first second : List (QueuedFrame φ)) :
    audioBytes (first ++ second) = audioBytes first + audioBytes second := by
  rw [audioBytes, List.map_append, List.sum_append]
  rfl

theorem audioBytes_control (frame : AudioTapFrame φ) (control : frame.isAudio = false) :
    frame.audioBytes = 0 := by
  cases frame with
  | audio frame => cases control
  | cleared frame => rfl
  | playout frame => rfl

theorem counts_single (item : QueuedFrame φ) :
    audioFrames [item] = (if item.frame.isAudio then 1 else 0) ∧
      controlEvents [item] = (if item.frame.isAudio then 0 else 1) ∧
      audioBytes [item] = (if item.frame.isAudio then item.frame.audioBytes else 0) := by
  cases audio : item.frame.isAudio with
  | true => simp [audioFrames, controlEvents, audioBytes, audio]
  | false => simp [audioFrames, controlEvents, audioBytes, audio, audioBytes_control _ audio]

theorem Mirrors.push (mirrors : Mirrors core) {item : QueuedFrame φ}
    (isAudio : item.isAudio = item.frame.isAudio) (bytes : item.audioBytes = item.frame.audioBytes)
    (frameRoom : item.frame.isAudio = true → audioFrames core.queue < audioTapMaxBufferedAudioFrames)
    (byteRoom : audioBytes core.queue + item.frame.audioBytes ≤ audioTapMaxBufferedBytes)
    (eventRoom : item.frame.isAudio = false →
      controlEvents core.queue < audioTapMaxBufferedControlEvents) :
    Mirrors (core.push item) := by
  have queue : (core.push item).queue = core.queue ++ [item] := by
    unfold TapCore.push
    split <;> rfl
  have genuine : ∀ queued ∈ core.queue ++ [item], queued.isAudio = queued.frame.isAudio ∧
      queued.audioBytes = queued.frame.audioBytes := by
    intro queued member
    rcases List.mem_append.mp member with before | last
    · exact mirrors.genuine queued before
    · rw [List.mem_singleton.mp last]
      exact ⟨isAudio, bytes⟩
  obtain ⟨frames1, events1, bytes1⟩ := counts_single item
  have frameLimit := mirrors.frameLimit
  have byteLimit := mirrors.byteLimit
  have eventLimit := mirrors.eventLimit
  cases kind : item.frame.isAudio with
  | true =>
    rw [kind] at isAudio
    simp only [kind, if_true] at frames1 events1 bytes1
    have room := frameRoom kind
    have pushed : core.push item = { core with
        queue := core.queue ++ [item]
        queuedAudioFrames := core.queuedAudioFrames + 1
        queuedAudioBytes := core.queuedAudioBytes + item.audioBytes } := by
      rw [TapCore.push, if_pos isAudio]
    rw [pushed]
    constructor
    · rw [audioFrames_append, frames1, mirrors.frames]
      rfl
    · rw [audioBytes_append, bytes1, mirrors.bytes, bytes]
      rfl
    · rw [controlEvents_append, events1, mirrors.events]
      rfl
    · exact genuine
    · rw [audioFrames_append, frames1]
      omega
    · rw [audioBytes_append, bytes1]
      exact byteRoom
    · rw [controlEvents_append, events1]
      exact eventLimit
  | false =>
    rw [kind] at isAudio
    simp only [kind, Bool.false_eq_true, if_false] at frames1 events1 bytes1
    have room := eventRoom kind
    have pushed : core.push item = { core with
        queue := core.queue ++ [item]
        queuedControlEvents := core.queuedControlEvents + 1 } := by
      rw [TapCore.push, if_neg (by rw [isAudio]; exact Bool.false_ne_true)]
    rw [pushed]
    constructor
    · rw [audioFrames_append, frames1, mirrors.frames]
      rfl
    · rw [audioBytes_append, bytes1, mirrors.bytes]
      rfl
    · rw [controlEvents_append, events1, mirrors.events]
      rfl
    · exact genuine
    · rw [audioFrames_append, frames1]
      exact frameLimit
    · rw [audioBytes_append, bytes1]
      exact byteLimit
    · rw [controlEvents_append, events1]
      omega

theorem TapCore.push_queue (core : TapCore φ) (item : QueuedFrame φ) :
    (core.push item).queue = core.queue ++ [item] := by
  unfold push
  split <;> rfl

theorem TapCore.push_counts (core : TapCore φ) (item : QueuedFrame φ) :
    (core.push item).nextSequence = core.nextSequence ∧
      (core.push item).droppedFrames = core.droppedFrames ∧
      (core.push item).droppedEvents = core.droppedEvents := by
  unfold push
  split <;> exact ⟨rfl, rfl, rfl⟩

theorem Accounts.push {item : QueuedFrame φ}
    (accounts : Accounts core delivered issued [item.tag] recordedFrames recordedEvents) :
    Accounts (core.push item) delivered issued [] recordedFrames recordedEvents := by
  obtain ⟨increasing, issued_eq, lost, located, frames, events⟩ := accounts
  obtain ⟨next, droppedFrames, droppedEvents⟩ := core.push_counts item
  refine ⟨?_, ?_, lost, ?_, ?_, ?_⟩
  · simpa only [TapCore.push_queue, List.map_append, List.map_singleton, List.append_assoc,
      List.append_nil] using increasing
  · rw [next, issued_eq]
  · simpa only [TapCore.push_queue, List.map_append, List.map_singleton, List.append_assoc,
      List.append_nil, List.nil_append] using located
  · rw [droppedFrames, frames]
  · rw [droppedEvents, events]

def TapCore.remove (core : TapCore φ) (item : QueuedFrame φ) (queue : List (QueuedFrame φ)) :
    TapCore φ :=
  if item.isAudio then
    { core with
      queue
      queuedAudioFrames := core.queuedAudioFrames - 1
      queuedAudioBytes := core.queuedAudioBytes - item.audioBytes }
  else { core with queue, queuedControlEvents := core.queuedControlEvents - 1 }

theorem Mirrors.remove (mirrors : Mirrors core) {before after : List (QueuedFrame φ)}
    {item : QueuedFrame φ} (queue : core.queue = before ++ item :: after) :
    Mirrors (core.remove item (before ++ after)) := by
  obtain ⟨frames, bytes, events, genuine, frameLimit, byteLimit, eventLimit⟩ := mirrors
  have split : before ++ item :: after = before ++ [item] ++ after := by simp
  have own := genuine item (by rw [queue]; simp)
  have others : ∀ queued ∈ before ++ after, queued.isAudio = queued.frame.isAudio ∧
      queued.audioBytes = queued.frame.audioBytes := by
    intro queued member
    apply genuine
    rw [queue]
    rcases List.mem_append.mp member with early | late
    · exact List.mem_append_left _ early
    · exact List.mem_append_right _ (List.mem_cons_of_mem item late)
  obtain ⟨frames1, events1, bytes1⟩ := counts_single item
  rw [queue, split, audioFrames_append, audioFrames_append] at frames frameLimit
  rw [queue, split, audioBytes_append, audioBytes_append] at bytes byteLimit
  rw [queue, split, controlEvents_append, controlEvents_append] at events eventLimit
  have frames2 := audioFrames_append before after
  have bytes2 := audioBytes_append before after
  have events2 := controlEvents_append before after
  cases kind : item.frame.isAudio with
  | true =>
    simp only [kind, if_true] at frames1 events1 bytes1
    have removed : core.remove item (before ++ after) = { core with
        queue := before ++ after
        queuedAudioFrames := core.queuedAudioFrames - 1
        queuedAudioBytes := core.queuedAudioBytes - item.audioBytes } := by
      rw [TapCore.remove, if_pos (own.1.trans kind)]
    rw [removed]
    constructor
    · dsimp only
      omega
    · have size := own.2
      dsimp only
      omega
    · dsimp only
      omega
    · exact others
    · dsimp only
      omega
    · dsimp only
      omega
    · dsimp only
      omega
  | false =>
    simp only [kind, Bool.false_eq_true, if_false] at frames1 events1 bytes1
    have removed : core.remove item (before ++ after) = { core with
        queue := before ++ after
        queuedControlEvents := core.queuedControlEvents - 1 } := by
      rw [TapCore.remove, if_neg (by rw [own.1, kind]; exact Bool.false_ne_true)]
    rw [removed]
    constructor
    · dsimp only
      omega
    · dsimp only
      omega
    · dsimp only
      omega
    · exact others
    · dsimp only
      omega
    · dsimp only
      omega
    · dsimp only
      omega

theorem Ledger.deliver (ledger : Ledger core delivered issued [] recordedFrames recordedEvents)
    {item : QueuedFrame φ} {rest : List (QueuedFrame φ)} (queue : core.queue = item :: rest) :
    Ledger (core.remove item rest) (delivered ++ [item.tag]) issued [] recordedFrames recordedEvents := by
  obtain ⟨mirrors, increasing, issued_eq, lost, located, frames, events⟩ := ledger
  have first : core.queue = [] ++ item :: rest := queue
  rw [queue, List.map_cons] at increasing located
  have left : (core.remove item rest).queue = rest := by
    unfold TapCore.remove
    split <;> rfl
  have same : (core.remove item rest).nextSequence = core.nextSequence ∧
      (core.remove item rest).droppedFrames = core.droppedFrames ∧
      (core.remove item rest).droppedEvents = core.droppedEvents := by
    unfold TapCore.remove
    split <;> exact ⟨rfl, rfl, rfl⟩
  refine ⟨mirrors.remove first, ?_, ?_, lost, ?_, ?_, ?_⟩
  · simpa only [left, List.append_assoc, List.cons_append, List.nil_append] using increasing
  · rw [same.1, issued_eq]
  · simpa only [left, List.append_assoc, List.cons_append, List.nil_append] using located
  · rw [same.2.1, frames]
  · rw [same.2.2, events]

theorem Ledger.evict (ledger : Ledger core delivered issued pending recordedFrames recordedEvents)
    {before after : List (QueuedFrame φ)} {item : QueuedFrame φ}
    (queue : core.queue = before ++ item :: after) (control : item.isAudio = false) :
    Ledger { core with
        queue := before ++ after
        queuedControlEvents := core.queuedControlEvents - 1
        droppedEvents := core.droppedEvents + 1 }
      delivered issued pending recordedFrames recordedEvents := by
  obtain ⟨mirrors, increasing, issued_eq, lost, located, frames, events⟩ := ledger
  have kind : item.frame.isAudio = false := by
    rw [← (mirrors.genuine item (by rw [queue]; simp)).1, control]
  have removed := mirrors.remove queue
  rw [TapCore.remove, if_neg (by rw [control]; exact Bool.false_ne_true)] at removed
  have tags : core.queue.map QueuedFrame.tag =
      before.map QueuedFrame.tag ++ item.tag :: after.map QueuedFrame.tag := by
    rw [queue, List.map_append, List.map_cons]
  rw [tags] at increasing located
  refine ⟨⟨removed.frames, removed.bytes, removed.events, removed.genuine, removed.frameLimit,
    removed.byteLimit, removed.eventLimit⟩, ?_, issued_eq, item.tag :: lost, ?_, ?_, ?_⟩
  · refine increasing.sublist (List.Sublist.map _ ?_)
    dsimp only
    rw [List.map_append]
    exact ((List.Sublist.append_left ((List.sublist_cons_self item.tag _).append_left _) _).append_right _)
  · -- the evicted number moves to the lost ones
    refine List.Perm.trans ?_ located
    dsimp only
    rw [List.map_append]
    simp only [List.append_assoc, List.cons_append]
    refine List.Perm.append_left _ (List.Perm.append_left _ ?_)
    rw [← List.append_assoc, ← List.append_assoc]
    exact List.perm_middle
  · simp only [List.countP_cons, QueuedFrame.tag, kind, Bool.false_eq_true, if_false, Nat.add_zero, frames]
  · simp only [List.countP_cons, QueuedFrame.tag, kind, Bool.not_false, if_true, events]
    omega

/-! ## The calls -/

namespace AudioTapDispatcher

variable {dispatcher : AudioTapDispatcher φ}

@[simp] theorem scheduleDrain_core (dispatcher : AudioTapDispatcher φ) :
    dispatcher.scheduleDrain.core = dispatcher.core := by
  unfold scheduleDrain
  split <;> rfl

@[simp] theorem scheduleDrainedNotification_core (dispatcher : AudioTapDispatcher φ) :
    dispatcher.scheduleDrainedNotification.core = dispatcher.core := by
  unfold scheduleDrainedNotification
  split <;> rfl

theorem enqueue_core (dispatcher : AudioTapDispatcher φ) (frame : AudioTapFrame φ) (isAudio : Bool)
    (bytes : Nat) : (dispatcher.enqueue frame isAudio bytes).core =
      dispatcher.core.push { frame, isAudio, audioBytes := bytes } := by
  rw [enqueue, scheduleDrain_core]
  cases isAudio <;> rfl

theorem shift_core (dispatcher : AudioTapDispatcher φ) (item : QueuedFrame φ)
    (rest : List (QueuedFrame φ)) :
    (dispatcher.shift item rest).core = dispatcher.core.remove item rest := by
  unfold shift TapCore.remove
  split <;> rfl

/-- An open dispatcher with an observer; a call does nothing otherwise. -/
def Accepts (dispatcher : AudioTapDispatcher φ) : Prop :=
  ¬(dispatcher.tap.isNone = true ∨ dispatcher.closed = true)

instance (dispatcher : AudioTapDispatcher φ) : Decidable dispatcher.Accepts := by
  unfold Accepts
  infer_instance

theorem control_ledger {frame : AudioTapFrame φ}
    (ledger : Ledger dispatcher.core delivered issued [(frame.sequence, false)]
      recordedFrames recordedEvents)
    (kind : frame.isAudio = false) :
    Ledger (dispatcher.control frame).core delivered issued [] recordedFrames recordedEvents := by
  have bytes : 0 = frame.audioBytes := (audioBytes_control frame kind).symm
  have tag : ({ frame, isAudio := false, audioBytes := 0 } : QueuedFrame φ).tag =
      (frame.sequence, false) := by rw [QueuedFrame.tag, kind]
  have count := ledger.mirrors.events
  have limit := ledger.mirrors.eventLimit
  have byteLimit := ledger.mirrors.byteLimit
  rw [AudioTapDispatcher.control]
  by_cases full : (audioTapMaxBufferedControlEvents : Int) ≤ dispatcher.queuedControlEvents
  · rw [if_pos full]
    cases found : dispatcher.queue.findIdx? fun item => !item.isAudio with
    | none => exact ledger.loseControl
    | some index =>
      obtain ⟨inside, control, _⟩ := List.findIdx?_eq_some_iff_getElem.mp found
      rw [Bool.not_eq_true'] at control
      have split : dispatcher.queue =
          dispatcher.queue.take index ++ dispatcher.queue[index] :: dispatcher.queue.drop (index + 1) := by
        rw [← List.drop_eq_getElem_cons inside, List.take_append_drop]
      have evicted := ledger.evict split control
      rw [← List.eraseIdx_eq_take_drop_succ] at evicted
      rw [← tag] at evicted
      dsimp only
      rw [enqueue_core]
      -- the event that gave way has made room for this one
      have removed := ledger.mirrors.remove split
      rw [TapCore.remove, if_neg (by rw [control]; exact Bool.false_ne_true),
        ← List.eraseIdx_eq_take_drop_succ] at removed
      have fewer := removed.events
      refine ⟨evicted.mirrors.push kind.symm bytes ?_ ?_ ?_, evicted.accounts.push⟩
      · intro audio
        rw [kind] at audio
        cases audio
      · have bounded := evicted.mirrors.byteLimit
        rw [← bytes, Nat.add_zero]
        exact bounded
      · intro _
        dsimp only [core] at count limit fewer ⊢
        omega
  · rw [if_neg full, enqueue_core]
    rw [← tag] at ledger
    refine ⟨ledger.mirrors.push kind.symm bytes ?_ ?_ ?_, ledger.accounts.push⟩
    · intro audio
      rw [kind] at audio
      cases audio
    · rw [← bytes, Nat.add_zero]
      exact byteLimit
    · intro _
      dsimp only [core] at count ⊢
      omega

theorem audio_ledger (ledger : Ledger dispatcher.core delivered issued [] recordedFrames recordedEvents)
    (input : AudioTapAudioInput φ) (copies : Bool) (accepts : dispatcher.Accepts) :
    Ledger (dispatcher.audio input copies).2.core delivered
      (issued ++ [(dispatcher.nextSequence, true)]) [] recordedFrames recordedEvents := by
  have taken := ledger.issue true
  rw [audio, if_neg accepts]
  extract_lets sequence issued' tracked dropped
  -- keeping track of the turns does not touch the queue
  have same : tracked.core = { dispatcher.core with nextSequence := dispatcher.core.nextSequence + 1 } := by
    simp only [tracked]
    split <;> rfl
  have lost : Ledger dropped.core delivered (issued ++ [(dispatcher.nextSequence, true)]) []
      recordedFrames recordedEvents := by
    change Ledger { tracked.core with droppedFrames := tracked.core.droppedFrames + 1 } _ _ _ _ _
    rw [same]
    exact taken.loseAudio
  cases given : input.bytes with
  | none => exact lost
  | some bytes =>
    dsimp only
    by_cases full : (audioTapMaxBufferedAudioFrames : Int) ≤ tracked.queuedAudioFrames ∨
        (audioTapMaxBufferedBytes : Int) - tracked.queuedAudioBytes < bytes.length
    · rw [if_pos full]
      exact lost
    rw [if_neg full]
    cases copies with
    | false => exact lost
    | true =>
      rw [if_pos rfl]
      dsimp only
      rw [enqueue_core, same]
      have frames := ledger.mirrors.frames
      have size := ledger.mirrors.bytes
      have counters : tracked.queuedAudioFrames = dispatcher.core.queuedAudioFrames ∧
          tracked.queuedAudioBytes = dispatcher.core.queuedAudioBytes :=
        ⟨congrArg TapCore.queuedAudioFrames same, congrArg TapCore.queuedAudioBytes same⟩
      rw [not_or, counters.1, counters.2] at full
      refine ⟨taken.mirrors.push rfl rfl ?_ ?_ ?_, taken.accounts.push⟩
      · intro _
        dsimp only
        omega
      · dsimp only [AudioTapFrame.audioBytes]
        omega
      · intro control
        cases control

theorem cleared_ledger (ledger : Ledger dispatcher.core delivered issued [] recordedFrames recordedEvents)
    (input : AudioTapClearedInput) (accepts : dispatcher.Accepts) :
    Ledger (dispatcher.cleared input).core delivered
      (issued ++ [(dispatcher.nextSequence, false)]) [] recordedFrames recordedEvents := by
  have taken := ledger.issue false
  rw [cleared, if_neg accepts]
  exact control_ledger taken rfl

theorem playout_ledger (ledger : Ledger dispatcher.core delivered issued [] recordedFrames recordedEvents)
    (input : AudioTapPlayoutInput) (accepts : dispatcher.Accepts) :
    Ledger (dispatcher.playout input).core delivered
      (issued ++ [(dispatcher.nextSequence, false)]) [] recordedFrames recordedEvents := by
  have taken := ledger.issue false
  rw [playout, if_neg accepts]
  dsimp only
  by_cases long : audioTapMaxMarkIdLength < input.markId.length
  · rw [if_pos long]
    exact taken.loseControl
  · rw [if_neg long]
    apply control_ledger
    · split <;> exact taken
    · rfl

end AudioTapDispatcher

end Tvic
