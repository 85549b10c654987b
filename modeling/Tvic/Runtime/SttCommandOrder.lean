import Tvic.Runtime.SttCommandMoves

/-!
# The order of commands to a speech-to-text stream

What the stream is given is a prefix of what has been admitted, one call after the other, and nothing is
left out until the controller terminates. The bytes that are counted are those of the queue.
-/
namespace Tvic

open Lib

variable {κ ε : Type}

/-! ## What is due to the stream -/

def SttStreamCall.reaches (settings : SttCommandSettings) : SttStreamCall κ → Bool
  | .sendAudio _ => true
  | .commit _ => !settings.commitModeNone

def SttCommand.call? (settings : SttCommandSettings) : SttCommand κ → Option (SttStreamCall κ)
  | .audio chunk => some (.sendAudio chunk)
  | .agentContext _ _ => none
  | .commit promise => if settings.commitModeNone then none else some (.commit promise)

theorem queuedBytes_append (byteLength : κ → Nat) (commands later : List (SttCommand κ)) :
    queuedBytes byteLength (commands ++ later) =
      queuedBytes byteLength commands + queuedBytes byteLength later := by
  induction commands with
  | nil => simp [queuedBytes]
  | cons command commands ih => cases command <;> simp [queuedBytes, ih, Int.add_assoc]

def callsDue (settings : SttCommandSettings) (admitted : List (SttStreamCall κ)) :
    List (SttStreamCall κ) :=
  admitted.filter fun call => call.reaches settings

namespace SttCommandController

/-! ## Order -/

structure Ordered (settings : SttCommandSettings) (byteLength : κ → Nat)
    (c : SttCommandController κ ε) : Prop where
  bytes : c.bufferedBytes = queuedBytes byteLength c.commands
  due : c.terminal = false → callsDue settings c.admitted =
    c.handed ++ c.worker.uncalled ++ c.commands.filterMap (SttCommand.call? settings)
  handed : c.handed ++ c.worker.uncalled <+: callsDue settings c.admitted
  fulfilled : c.worker ≠ .stopped → c.handed = c.completed ++ c.worker.outstanding
  stopped : c.worker = .stopped →
    c.completed <+: c.handed ∧ c.handed.length ≤ c.completed.length + 1
  cleared : c.terminal = true → c.commands = []
  timely : c.worker.wonEarly = false

variable {settings : SttCommandSettings} {byteLength : κ → Nat} {c : SttCommandController κ ε}

theorem ordered_start : Ordered settings byteLength (start : SttCommandController κ ε) where
  bytes := rfl
  due _ := rfl
  handed := List.nil_prefix
  fulfilled _ := rfl
  stopped impossible := by cases impossible
  cleared impossible := by cases impossible
  timely := rfl

theorem Ordered.oneAtATime (ordered : Ordered settings byteLength c) :
    c.completed <+: c.handed ∧ c.handed.length ≤ c.completed.length + 1 := by
  by_cases stopped : c.worker = .stopped
  · exact ordered.stopped stopped
  · rw [ordered.fulfilled stopped, List.length_append]
    refine ⟨List.prefix_append _ _, Nat.add_le_add_left ?_ _⟩
    unfold SttWorker.outstanding
    split <;> simp

theorem Ordered.signalWork (ordered : Ordered settings byteLength c) :
    Ordered settings byteLength c.signalWork where
  bytes := ordered.bytes
  due := by simpa [SttCommandController.signalWork] using ordered.due
  handed := by simpa [SttCommandController.signalWork] using ordered.handed
  fulfilled := by simpa [SttCommandController.signalWork] using ordered.fulfilled
  stopped := by simpa [SttCommandController.signalWork] using ordered.stopped
  cleared := ordered.cleared
  timely := by simpa [SttCommandController.signalWork] using ordered.timely

theorem Ordered.frame (ordered : Ordered settings byteLength c) {c' : SttCommandController κ ε}
    (same : c' = { c with
      accepting := c'.accepting
      drainRequested := c'.drainRequested
      activeCommit := c'.activeCommit
      pendingAgentContextCommands := c'.pendingAgentContextCommands
      contextWrites := c'.contextWrites
      contextWriteTail := c'.contextWriteTail
      drain := c'.drain
      closeStarted := c'.closeStarted
      streamClosed := c'.streamClosed
      failure := c'.failure
      promises := c'.promises }) : Ordered settings byteLength c' := by
  rw [same]
  exact ⟨ordered.bytes, ordered.due, ordered.handed, ordered.fulfilled, ordered.stopped,
    ordered.cleared, ordered.timely⟩

variable (settings byteLength) in
theorem coalesceContext?_eq_some {context : Text} {commands coalesced : List (SttCommand κ)}
    (found : coalesceContext? context commands = some coalesced) :
    queuedBytes byteLength coalesced = queuedBytes byteLength commands ∧
      coalesced.filterMap (SttCommand.call? settings) = commands.filterMap (SttCommand.call? settings) ∧
      coalesced.filterMap SttCommand.promise? = commands.filterMap SttCommand.promise? := by
  induction commands generalizing coalesced with
  | nil => cases found
  | cons command commands ih =>
    cases command with
    | agentContext earlier waiter =>
      cases found
      exact ⟨rfl, rfl, rfl⟩
    | _ =>
      obtain ⟨rest, later, rfl⟩ := Option.map_eq_some_iff.mp found
      obtain ⟨bytes, calls, promises⟩ := ih later
      simp [queuedBytes, List.filterMap_cons, bytes, calls, promises]

theorem settleAgentContext_eq (waiter : Nat) (outcome : Settlement ε) (c : SttCommandController κ ε) :
    c.settleAgentContext waiter outcome =
      { c with
        promises := (c.settleAgentContext waiter outcome).promises
        pendingAgentContextCommands :=
          (c.settleAgentContext waiter outcome).pendingAgentContextCommands } := by
  unfold settleAgentContext
  split <;> rfl

theorem Admits.due {command : SttCommand κ} {promises : PromiseTable (Settlement ε)} {bytes : Int}
    {admitted : List (SttStreamCall κ)} (admits : Admits byteLength c command promises bytes admitted) :
    bytes = c.bufferedBytes + queuedBytes byteLength [command] ∧ callsDue settings admitted =
      callsDue settings c.admitted ++ [command].filterMap (SttCommand.call? settings) := by
  cases admits with
  | audio chunk => simp [queuedBytes, callsDue, SttStreamCall.reaches, SttCommand.call?]
  | agentContext context => simp [queuedBytes, SttCommand.call?]
  | commit =>
    cases none : settings.commitModeNone <;>
      simp [queuedBytes, callsDue, SttStreamCall.reaches, SttCommand.call?, none]

theorem Ordered.take (ordered : Ordered settings byteLength c) (woken : c.worker = .woken)
    {command : SttCommand κ} {rest : List (SttCommand κ)} (queue : c.commands = command :: rest)
    {w : SttWorker κ ε} (busy : w ≠ .stopped) (uncalled : w.uncalled =
      [command].filterMap (SttCommand.call? settings)) (outstanding : w.outstanding = [])
    (timely : w.wonEarly = false) (activeCommit : Option Nat) :
    Ordered settings byteLength
      { c with
        commands := rest
        bufferedBytes := c.bufferedBytes - queuedBytes byteLength [command]
        activeCommit
        worker := w } := by
  have active : c.terminal = false := by
    cases terminal : c.terminal with
    | false => rfl
    | true => exact absurd ((ordered.cleared terminal).symm.trans queue) (by simp)
  have due := ordered.due active
  rw [woken, queue, ← List.singleton_append, List.filterMap_append, ← uncalled] at due
  have due : callsDue settings c.admitted =
      c.handed ++ w.uncalled ++ rest.filterMap (SttCommand.call? settings) := by
    simpa [SttWorker.uncalled] using due
  have fulfilled := ordered.fulfilled (by simp [woken])
  rw [woken] at fulfilled
  refine ⟨?_, fun _ => due, ?_, fun _ => ?_, fun stopped => absurd stopped busy, fun terminal => ?_, timely⟩
  · have bytes := ordered.bytes
    rw [queue, ← List.singleton_append, queuedBytes_append] at bytes
    show c.bufferedBytes - queuedBytes byteLength [command] = queuedBytes byteLength rest
    omega
  · show c.handed ++ w.uncalled <+: callsDue settings c.admitted
    rw [due]
    exact List.prefix_append _ _
  · show c.handed = c.completed ++ w.outstanding
    rw [outstanding]
    exact fulfilled
  · exact absurd (active.symm.trans terminal) (by simp)

theorem Ordered.move (ordered : Ordered settings byteLength c) {c' : SttCommandController κ ε}
    (move : Move settings byteLength c c') : Ordered settings byteLength c' := by
  cases move with
  | aside | reject | endCommit | drains => exact ordered.frame rfl
  | endWrite => exact ordered.frame (by rw [settleAgentContext_eq])
  | wake => exact ordered.signalWork
  | request idle =>
    have closed : Ordered settings byteLength
        { c with accepting := false, drainRequested := true, drain := .waiting } := ordered.frame rfl
    exact closed.signalWork
  | push active accepts admits =>
    obtain ⟨bytes, due⟩ := @Admits.due _ _ settings _ _ _ _ _ _ admits
    refine Ordered.signalWork ⟨?_, fun _ => ?_, ?_, ordered.fulfilled, ordered.stopped,
      fun terminal => absurd (active.symm.trans terminal) (by simp), ordered.timely⟩
    · rw [queuedBytes_append, bytes, ordered.bytes]
    · rw [due, ordered.due active, List.filterMap_append, List.append_assoc]
    · rw [due]
      exact ordered.handed.trans (List.prefix_append _ _)
  | coalesce accepts found =>
    obtain ⟨bytes, calls, _⟩ := coalesceContext?_eq_some settings byteLength found
    refine ⟨ordered.bytes.trans bytes.symm, fun active => ?_, ordered.handed, ordered.fulfilled,
      ordered.stopped, fun terminal => ?_, ordered.timely⟩
    · rw [calls]
      exact ordered.due active
    · rw [ordered.cleared terminal] at found
      cases found
  | terminate error releases =>
    refine ⟨rfl, (fun h => by cases h), ?_, ?_, ?_, fun _ => rfl, ?_⟩
    · show c.handed ++ (c.worker.abort error).wake.uncalled <+: callsDue settings c.admitted
      simpa using ordered.handed
    · show (c.worker.abort error).wake ≠ .stopped →
        c.handed = c.completed ++ (c.worker.abort error).wake.outstanding
      simpa using ordered.fulfilled
    · show (c.worker.abort error).wake = .stopped →
        c.completed <+: c.handed ∧ c.handed.length ≤ c.completed.length + 1
      simpa using ordered.stopped
    · show (c.worker.abort error).wake.wonEarly = false
      simpa using ordered.timely
  | write woken queue =>
    have popped := ordered.take woken queue (w := c.worker) (by simp [woken])
      (by simp [woken, SttWorker.uncalled, SttCommand.call?]) (by simp [woken, SttWorker.outstanding])
      ordered.timely c.activeCommit
    rw [show queuedBytes byteLength [_] = 0 from rfl, Int.sub_zero] at popped
    exact popped.frame rfl
  | skip woken none queue =>
    have popped := ordered.take woken queue (w := c.worker) (by simp [woken])
      (by simp [woken, SttWorker.uncalled, SttCommand.call?, none])
      (by simp [woken, SttWorker.outstanding]) ordered.timely c.activeCommit
    rw [show queuedBytes byteLength [_] = 0 from rfl, Int.sub_zero] at popped
    exact popped.frame rfl
  | takeAudio woken queue =>
    rename_i chunk rest
    have taken := ordered.take woken queue (w := .sendingAudio chunk false none) (by simp) rfl rfl
      rfl c.activeCommit
    rwa [show queuedBytes byteLength [.audio chunk] = byteLength chunk by simp [queuedBytes]] at taken
  | takeCommit woken called queue =>
    rename_i promise rest
    have taken := ordered.take woken queue (w := .committing promise false none) (by simp)
      (by simp [SttWorker.uncalled, SttCommand.call?, called]) rfl rfl (some promise)
    rwa [show queuedBytes byteLength [.commit promise] = 0 from rfl, Int.sub_zero] at taken
  | rest woken queue stays =>
    have fulfilled := ordered.fulfilled (by simp [woken])
    have due := ordered.due
    have handed := ordered.handed
    rw [woken] at fulfilled due handed
    rw [queue] at due
    have bytes := ordered.bytes.trans (by rw [queue])
    rcases stays with ⟨rfl, -, -⟩ | ⟨rfl, -⟩
    · exact ⟨bytes, due, handed, fun _ => fulfilled, by simp, fun _ => rfl, rfl⟩
    · exact ⟨bytes, due, handed, fun busy => (busy rfl).elim, fun _ => ordered.oneAtATime, fun _ => rfl, rfl⟩
  | stop terminal =>
    refine ⟨ordered.bytes, fun active => absurd (terminal.symm.trans active) (by simp), ?_,
      fun busy => (busy rfl).elim, fun _ => ordered.oneAtATime, ordered.cleared, rfl⟩
    show c.handed ++ [] <+: callsDue settings c.admitted
    rw [List.append_nil]
    exact (List.prefix_append _ _).trans ordered.handed
  | resume busy uncalled outstanding free =>
    have due := ordered.due
    have handed := ordered.handed
    have fulfilled := ordered.fulfilled busy
    rw [uncalled] at due handed
    rw [outstanding] at fulfilled
    exact ⟨ordered.bytes, due, handed, fun _ => fulfilled, by simp, ordered.cleared, rfl⟩
  | race worker handed completed before after uncalled fulfilled timely =>
    have busy : c.worker ≠ .stopped := fun stopped => by simp [stopped, SttWorker.current] at before
    refine ⟨ordered.bytes, fun active => ?_, ?_,
      fun _ => fulfilled ordered.timely (ordered.fulfilled busy), fun stopped => ?_, ordered.cleared,
      timely ordered.timely⟩
    · show callsDue settings c.admitted = handed ++ worker.uncalled ++ _
      rw [uncalled]
      exact ordered.due active
    · show handed ++ worker.uncalled <+: _
      rw [uncalled]
      exact ordered.handed
    · have stopped : worker = .stopped := stopped
      simp [stopped, SttWorker.current] at after

end SttCommandController

end Tvic
