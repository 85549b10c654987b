import Mathlib.Logic.Relation
import Tvic.Runtime.SttCommandController

/-!
# The moves of the command controller

Every function of the controller is made of a few changes to it: a command enters or leaves the queue,
a race is decided, a promise is settled, the controller terminates. What is to hold of the controller
is checked of these moves, and holds of every step that is made of them.
-/
namespace Tvic

open Lib

variable {κ ε : Type}

/-! ## The worker and its call -/

/-- The call that the worker is about to make. -/
def SttWorker.uncalled : SttWorker κ ε → List (SttStreamCall κ)
  | .sendingAudio chunk false _ => [.sendAudio chunk]
  | .committing promise false _ => [.commit promise]
  | _ => []

def SttWorker.outstanding : SttWorker κ ε → List (SttStreamCall κ)
  | .sendingAudio _ true (some .fulfilled) | .committing _ true (some .fulfilled) => []
  | .sendingAudio chunk true _ => [.sendAudio chunk]
  | .committing promise true _ => [.commit promise]
  | _ => []

def SttWorker.wonEarly : SttWorker κ ε → Bool
  | .sendingAudio _ false (some .fulfilled) | .committing _ false (some .fulfilled) => true
  | _ => false

def SttWorker.current : SttWorker κ ε → Option (SttStreamCall κ)
  | .sendingAudio chunk _ _ => some (.sendAudio chunk)
  | .committing promise _ _ => some (.commit promise)
  | _ => none

section

variable (error : SttCommandError ε) (worker : SttWorker κ ε)

@[simp] theorem SttWorker.uncalled_wake : worker.wake.uncalled = worker.uncalled := by
  cases worker <;> rfl

@[simp] theorem SttWorker.outstanding_wake : worker.wake.outstanding = worker.outstanding := by
  cases worker <;> rfl

@[simp] theorem SttWorker.wonEarly_wake : worker.wake.wonEarly = worker.wonEarly := by
  cases worker <;> rfl

@[simp] theorem SttWorker.uncalled_abort : (worker.abort error).uncalled = worker.uncalled := by
  cases worker with
  | sendingAudio item called race | committing item called race => cases called <;> rfl
  | _ => rfl

@[simp] theorem SttWorker.outstanding_abort :
    (worker.abort error).outstanding = worker.outstanding := by
  cases worker with
  | sendingAudio item called race | committing item called race => cases called <;> cases race <;> rfl
  | _ => rfl

@[simp] theorem SttWorker.wonEarly_abort : (worker.abort error).wonEarly = worker.wonEarly := by
  cases worker with
  | sendingAudio item called race | committing item called race => cases called <;> cases race <;> rfl
  | _ => rfl

variable {error worker}

@[simp] theorem SttWorker.wake_eq_stopped : worker.wake = .stopped ↔ worker = .stopped := by
  cases worker <;> simp [SttWorker.wake]

@[simp] theorem SttWorker.abort_eq_stopped : worker.abort error = .stopped ↔ worker = .stopped := by
  cases worker <;> simp [SttWorker.abort]

theorem SttWorker.wake_ne_waiting (worker : SttWorker κ ε) : worker.wake ≠ .waiting := by
  cases worker <;> simp [SttWorker.wake]

end

def queuedBytes (byteLength : κ → Nat) : List (SttCommand κ) → Int
  | [] => 0
  | .audio chunk :: commands => byteLength chunk + queuedBytes byteLength commands
  | _ :: commands => queuedBytes byteLength commands

def SttDrain.IsDone : SttDrain → Prop
  | .drained | .closing | .resolved _ => True
  | _ => False

namespace SttCommandController

/-! ## The moves -/

/-- What admission does with a command: the promises, the bytes and the calls that it leaves. -/
inductive Admits (byteLength : κ → Nat) (c : SttCommandController κ ε) :
    SttCommand κ → PromiseTable (Settlement ε) → Int → List (SttStreamCall κ) → Prop
  | audio (chunk : κ) : Admits byteLength c (.audio chunk) c.promises
      (c.bufferedBytes + byteLength chunk) (c.admitted ++ [.sendAudio chunk])
  | agentContext (context : Text) : Admits byteLength c (.agentContext context c.promises.length)
      (c.promises ++ [none]) c.bufferedBytes c.admitted
  | commit : Admits byteLength c (.commit c.promises.length) (c.promises ++ [none]) c.bufferedBytes
      (c.admitted ++ [.commit c.promises.length])

/-- Everything that is pending is settled, and nothing twice. -/
structure Releases (c : SttCommandController κ ε) (promises : PromiseTable (Settlement ε)) : Prop where
  keeps : c.promises.Keeps promises
  length : promises.length = c.promises.length
  pending : ∀ promise : Nat, promises[promise]? = some none → c.promises[promise]? = some none ∧
    promise ∉ c.commands.filterMap SttCommand.promise? ∧ c.activeCommit ≠ some promise ∧
      promise ∉ c.pendingAgentContextCommands

inductive Move (settings : SttCommandSettings) (byteLength : κ → Nat) :
    SttCommandController κ ε → SttCommandController κ ε → Prop
  | aside {c} (contextWrites contextWriteTail closeStarted streamClosed failure)
      (same : contextWrites.map ContextWrite.waiter = c.contextWrites.map ContextWrite.waiter) :
      Move settings byteLength c
        { c with contextWrites, contextWriteTail, closeStarted, streamClosed, failure }
  | wake {c} : Move settings byteLength c c.signalWork
  | reject {c} (error) : Move settings byteLength c (c.rejectedPromise error)
  | push {c command promises bufferedBytes admitted} (active : c.terminal = false)
      (accepts : c.accepting = true) (admits : Admits byteLength c command promises bufferedBytes admitted) :
      Move settings byteLength c
        (signalWork { c with promises, commands := c.commands ++ [command], bufferedBytes, admitted })
  | coalesce {c context commands} (accepts : c.accepting = true)
      (found : coalesceContext? context c.commands = some commands) :
      Move settings byteLength c { c with commands }
  | terminate {c promises} (error) (releases : Releases c promises) :
      Move settings byteLength c { c.terminate error with promises }
  -- the worker comes to a command, or has nothing left to do
  | write {c context waiter rest} (woken : c.worker = .woken)
      (queue : c.commands = .agentContext context waiter :: rest) :
      Move settings byteLength c ({ c with commands := rest }.startContextWrite context waiter)
  | skip {c promise rest} (woken : c.worker = .woken) (none : settings.commitModeNone = true)
      (queue : c.commands = .commit promise :: rest) :
      Move settings byteLength c ({ c with commands := rest }.settle promise .fulfilled)
  | takeAudio {c chunk rest} (woken : c.worker = .woken) (queue : c.commands = .audio chunk :: rest) :
      Move settings byteLength c
        { c with
          commands := rest
          bufferedBytes := c.bufferedBytes - byteLength chunk
          worker := .sendingAudio chunk false none }
  | takeCommit {c promise rest} (woken : c.worker = .woken)
      (called : ¬ settings.commitModeNone = true) (queue : c.commands = .commit promise :: rest) :
      Move settings byteLength c
        { c with
          commands := rest
          activeCommit := some promise
          worker := .committing promise false none }
  | rest {c worker} (woken : c.worker = .woken) (queue : c.commands = [])
      (stays : worker = .waiting ∧ c.drainRequested = false ∧ c.terminal = false ∨
        worker = .stopped ∧ c.drainRequested = true) :
      Move settings byteLength c { c with commands := [], worker }
  | stop {c} (terminal : c.terminal = true) :
      Move settings byteLength c { c with worker := .stopped }
  | resume {c} (busy : c.worker ≠ .stopped) (uncalled : c.worker.uncalled = [])
      (outstanding : c.worker.outstanding = [])
      (free : ∀ promise, c.worker.current = some (.commit promise) → c.activeCommit = none) :
      Move settings byteLength c { c with worker := .woken }
  -- the call that the worker is at
  | race {c call} (worker handed completed) (before : c.worker.current = some call)
      (after : worker.current = some call)
      (uncalled : handed ++ worker.uncalled = c.handed ++ c.worker.uncalled)
      (fulfilled : c.worker.wonEarly = false → c.handed = c.completed ++ c.worker.outstanding →
        handed = completed ++ worker.outstanding)
      (timely : c.worker.wonEarly = false → worker.wonEarly = false) :
      Move settings byteLength c { c with worker, handed, completed }
  | endCommit {c promise outcome}
      (ends : outcome = .fulfilled ∧ c.worker.current = some (.commit promise) ∨ c.terminal = true) :
      Move settings byteLength c { c.settle promise outcome with activeCommit := none }
  | endWrite {c write rest} (outcome) (writes : c.contextWrites = write :: rest) :
      Move settings byteLength c
        { c.settleAgentContext write.waiter outcome with contextWrites := rest }
  | request {c} (idle : c.drain = .idle) :
      Move settings byteLength c
        (signalWork { c with accepting := false, drainRequested := true, drain := .waiting })
  | drains {c} (drain) (begun : c.drain ≠ .idle)
      (done : drain.IsDone → c.drain.IsDone ∨ c.worker = .stopped ∧ c.contextWrites = [])
      (rejected : drain = .rejected → c.terminal = true)
      (resolved : drain = .resolved false → c.terminal = false) :
      Move settings byteLength c { c with drain }

/-- What one move after another can do. -/
abbrev Moves (settings : SttCommandSettings) (byteLength : κ → Nat) :
    SttCommandController κ ε → SttCommandController κ ε → Prop :=
  Relation.ReflTransGen (Move settings byteLength)

variable {settings : SttCommandSettings} {byteLength : κ → Nat} {c : SttCommandController κ ε}

/-! ## Failing and aborting -/

theorem releases_terminate (error : SttCommandError ε) (c : SttCommandController κ ε) :
    Releases c (c.terminate error).promises where
  keeps := ((PromiseTable.keeps_settleAll _ _ _).trans (PromiseTable.keeps_settleAll _ _ _)).trans
    (PromiseTable.keeps_settleAll _ _ _)
  length := by simp [terminate, rejectQueued, rejectActiveCommit, abortSignal, signalWork]
  pending promise pending := by
    -- whoever holds a promise has rejected it
    obtain ⟨pending, waiting⟩ := PromiseTable.pending_settleAll pending
    obtain ⟨pending, queued⟩ := PromiseTable.pending_settleAll pending
    obtain ⟨pending, committing⟩ := PromiseTable.pending_settleAll pending
    refine ⟨pending, queued, fun active => committing ?_, waiting⟩
    show promise ∈ c.activeCommit.toList
    simp [active]

theorem Releases.of_settle {promise : Nat} {outcome : Settlement ε}
    {promises : PromiseTable (Settlement ε)} (releases : Releases (c.settle promise outcome) promises) :
    Releases c promises where
  keeps := (PromiseTable.keeps_settle c.promises promise outcome).trans releases.keeps
  length := releases.length.trans (PromiseTable.length_settle _ _ _)
  pending other pending := by
    obtain ⟨before, elsewhere⟩ := releases.pending other pending
    exact ⟨(PromiseTable.pending_settle before).1, elsewhere⟩

theorem terminal_fail (c : SttCommandController κ ε) (error : SttCommandError ε) :
    (c.fail error).terminal = true := by
  unfold fail
  split
  next terminal => exact terminal
  · rfl

theorem moves_fail (error : SttCommandError ε) (c : SttCommandController κ ε) :
    Moves settings byteLength c (c.fail error) := by
  unfold fail
  split
  · exact .refl
  · refine .head (.terminate error (releases_terminate error c)) (.single ?_)
    exact .aside _ _ true _ (c.failure.or (some error)) rfl

theorem moves_abort (error : SttCommandError ε) (c : SttCommandController κ ε) :
    Moves settings byteLength c (c.abort error) := by
  refine .head (.terminate error (releases_terminate error c)) (.head .wake (.single ?_))
  exact .aside _ _ true _ _ rfl

/-! ## Admission -/

theorem accepts_of_not_closed (accepts : ¬ (c.terminal || !c.accepting) = true) :
    c.terminal = false ∧ c.accepting = true := by
  rw [Bool.or_eq_true, not_or] at accepts
  exact ⟨Bool.eq_false_iff.mpr accepts.1, by simpa using accepts.2⟩

theorem moves_admitAudio (chunk : κ) :
    Moves settings byteLength c (c.admitAudio settings byteLength chunk).1 := by
  unfold admitAudio
  split
  · exact .refl
  next accepts =>
    obtain ⟨active, accepts⟩ := accepts_of_not_closed accepts
    split
    · exact moves_fail _ c
    · exact .single (.push active accepts (.audio chunk))

theorem moves_admitCommit : Moves settings byteLength c (c.admitCommit settings) := by
  unfold admitCommit
  split
  · exact .single (.reject _)
  next accepts =>
    obtain ⟨active, accepts⟩ := accepts_of_not_closed accepts
    split
    · exact (moves_fail _ c).tail (.reject _)
    · exact .single (.push active accepts .commit)

theorem moves_admitAgentContext (context : Text) :
    Moves settings byteLength c (c.admitAgentContext settings context) := by
  unfold admitAgentContext
  split
  · exact .single (.reject _)
  next accepts =>
    obtain ⟨active, accepts⟩ := accepts_of_not_closed accepts
    split
    · exact .single (.reject _)
    split
    · exact .single (.reject _)
    split
    next commands found => exact .single (.coalesce accepts found)
    · split
      · exact (moves_fail _ c).tail (.reject _)
      · exact .single (.push active accepts (.agentContext context))

/-! ## The worker -/

theorem moves_runCommands {commands : List (SttCommand κ)} (queue : c.commands = commands)
    (woken : c.worker = .woken) (active : c.terminal = false) :
    Moves settings byteLength c (c.runCommands settings byteLength commands) := by
  induction commands generalizing c with
  | nil =>
    unfold runCommands
    split
    next requested => exact .single (.rest woken queue (.inr ⟨rfl, requested⟩))
    next idle => exact .single (.rest woken queue (.inl ⟨rfl, Bool.eq_false_iff.mpr idle, active⟩))
  | cons command rest ih =>
    cases command with
    | audio chunk => exact .single (.takeAudio woken queue)
    | agentContext context waiter => exact .head (.write woken queue) (ih rfl woken active)
    | commit promise =>
      unfold runCommands
      split
      next none => exact .head (.skip woken none queue) (ih rfl woken active)
      next called => exact .single (.takeCommit woken called queue)

theorem moves_runLoop (ready : c.terminal = false → c.worker ≠ .stopped ∧ c.worker.uncalled = [] ∧
      c.worker.outstanding = [] ∧
        ∀ promise, c.worker.current = some (.commit promise) → c.activeCommit = none) :
    Moves settings byteLength c (c.runLoop settings byteLength) := by
  unfold runLoop
  split
  next terminal => exact .single (.stop terminal)
  next active =>
    have active := Bool.eq_false_iff.mpr active
    obtain ⟨busy, uncalled, outstanding, free⟩ := ready active
    exact .head (.resume busy uncalled outstanding free) (moves_runCommands rfl rfl active)

theorem moves_runLoop_of_terminal (terminal : c.terminal = true) :
    Moves settings byteLength c (c.runLoop settings byteLength) :=
  moves_runLoop fun active => absurd (terminal.symm.trans active) (by simp)

theorem moves_resumeWorker : Moves settings byteLength c (c.resumeWorker settings byteLength) := by
  unfold resumeWorker
  split
  next worker => exact moves_runLoop fun _ => by simp [worker, SttWorker.uncalled,
    SttWorker.outstanding, SttWorker.current]
  next worker => exact moves_runLoop fun _ => by simp [worker, SttWorker.uncalled,
    SttWorker.outstanding, SttWorker.current]
  next error worker =>
    exact (moves_fail error c).trans (moves_runLoop_of_terminal (terminal_fail c error))
  next promise worker =>
    refine .head (.endCommit (.inl ⟨rfl, congrArg SttWorker.current worker⟩)) (moves_runLoop fun _ => ?_)
    exact ⟨fun stopped => absurd (worker.symm.trans stopped) (by simp),
      congrArg SttWorker.uncalled worker, congrArg SttWorker.outstanding worker, fun _ _ => rfl⟩
  next promise error worker =>
    have failed : Moves settings byteLength c
        { (c.settle promise (.rejected error)).fail error with activeCommit := none } := by
      unfold fail
      split
      next terminal => exact .single (.endCommit (.inr terminal))
      · have releases := (releases_terminate error (c.settle promise (.rejected error))).of_settle
        refine .head (.terminate error releases) (.single ?_)
        exact .aside _ _ true _ (c.failure.or (some error)) rfl
    exact failed.trans (moves_runLoop_of_terminal (terminal_fail _ error))
  · exact .refl

theorem moves_callStream : Moves settings byteLength c c.callStream := by
  unfold callStream
  cases worker : c.worker with
  | sendingAudio item called race | committing item called race =>
    cases called with
    | true => exact .refl
    | false =>
      refine .single (.race _ (c.handed ++ [_]) c.completed (congrArg SttWorker.current worker) rfl
        (by simp [worker, SttWorker.uncalled]) (fun timely handed => ?_) fun _ => rfl)
      rw [worker] at timely handed
      -- the stream cannot have won before
      rcases race with _ | _ | error
      · simpa [SttWorker.outstanding] using handed
      · cases timely
      · simpa [SttWorker.outstanding] using handed
  | _ => exact .refl

theorem moves_streamSettles (outcome : Settlement ε) :
    Moves settings byteLength c (c.streamSettles outcome) := by
  unfold streamSettles
  cases worker : c.worker with
  | sendingAudio item called race | committing item called race =>
    match called, race with
    | true, none =>
      refine .single (.race _ c.handed _ (congrArg SttWorker.current worker) rfl (by rw [worker]; rfl)
        (fun _ handed => handed.trans ?_) fun _ => rfl)
      rw [worker]
      cases outcome <;> simp [SttWorker.outstanding, Settlement.complete]
    | false, _ | true, some _ => exact .refl
  | _ => exact .refl

theorem moves_streamTimesOut : Moves settings byteLength c c.streamTimesOut := by
  unfold streamTimesOut
  cases worker : c.worker with
  | sendingAudio item called race | committing item called race =>
    cases race with
    | some outcome => exact .refl
    | none =>
      refine .single (.race _ c.handed c.completed (congrArg SttWorker.current worker) rfl ?_
        (fun _ handed => handed.trans ?_) fun _ => ?_)
      all_goals
        try rw [worker]
        cases called <;> rfl
  | _ => exact .refl

/-! ## Contexts and draining -/

theorem moves_dispatchContext : Moves settings byteLength c c.dispatchContext := by
  unfold dispatchContext
  split
  next waiter context rest writes =>
    split
    next gone =>
      have ended : Move settings byteLength c _ := .endWrite .fulfilled writes
      rw [settleAgentContext, if_neg gone] at ended
      exact .single ended
    · split
      · exact .single (.endWrite _ writes)
      · exact .single (.aside _ _ _ _ _ (by rw [writes]; rfl))
  · exact .refl

theorem moves_decideContext (outcome : Settlement ε) :
    Moves settings byteLength c (c.decideContext outcome) := by
  unfold decideContext
  split
  next writes => exact .single (.aside _ _ _ _ _ (by rw [writes]; rfl))
  · exact .refl

theorem moves_resumeContext : Moves settings byteLength c c.resumeContext := by
  unfold resumeContext
  split
  next writes => exact .single (.endWrite _ writes)
  · exact .refl

theorem moves_resumeDrain : Moves settings byteLength c c.resumeDrain := by
  unfold resumeDrain
  split
  next drained =>
    refine .head (.aside _ _ true _ _ rfl) (.single (.drains .closing ?_ (fun _ => .inl ?_) nofun nofun))
    · exact fun idle => absurd (drained.symm.trans idle) (by simp)
    · show c.drain.IsDone
      rw [drained]
      trivial
  next expired =>
    refine .head (.aside _ c.contextWriteTail c.closeStarted c.streamClosed
      (c.failure.or (some .drainTimeout)) rfl) ?_
    refine (moves_abort _ _).tail (.drains .rejected ?_ (fun impossible => impossible.elim)
      (fun _ => rfl) nofun)
    exact fun idle => absurd (expired.symm.trans idle) (by simp)
  next closing =>
    split
    · exact .single (.drains _ (by simp [closing]) (fun _ => .inl (by rw [closing]; trivial)) nofun
        fun resolved => by simpa using resolved)
    · exact .refl
  · exact .refl

theorem moves_step (event : Event κ ε) : Moves settings byteLength c (c.step settings byteLength event) := by
  cases event with
  | admitAudio chunk => exact moves_admitAudio chunk
  | admitCommit => exact moves_admitCommit
  | admitAgentContext context => exact moves_admitAgentContext context
  | abort error => exact moves_abort error c
  | callStream => exact moves_callStream
  | streamSettles outcome => exact moves_streamSettles outcome
  | streamTimesOut => exact moves_streamTimesOut
  | resumeWorker => exact moves_resumeWorker
  | usageFails error => exact moves_fail _ c
  | dispatchContext => exact moves_dispatchContext
  | contextSettles outcome => exact moves_decideContext outcome
  | contextTimesOut => exact moves_decideContext _
  | resumeContext => exact moves_resumeContext
  | resumeDrain => exact moves_resumeDrain
  | requestDrain =>
    show Moves settings byteLength c c.requestDrain
    unfold requestDrain
    split
    next idle => exact .single (.request idle)
    · exact .refl
  | finishDrain =>
    show Moves settings byteLength c c.finishDrain
    unfold finishDrain
    split
    next waiting stopped none =>
      exact .single (.drains _ (by simp [waiting]) (fun _ => .inr ⟨stopped, none⟩) nofun nofun)
    · exact .refl
  | expireDrain =>
    show Moves settings byteLength c c.expireDrain
    unfold expireDrain
    split
    next waiting => exact .single (.drains _ (by simp [waiting]) (fun done => done.elim) nofun nofun)
    · exact .refl
  | endClose =>
    show Moves settings byteLength c c.endClose
    unfold endClose
    split
    · exact .single (.aside _ _ _ true _ rfl)
    · exact .refl

end SttCommandController

end Tvic
