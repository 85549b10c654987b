import Tvic.Runtime.SttCommandPromises

/-!
# Draining the command controller

The worker waits only while the queue is empty, and stops when the controller has terminated or the
queue is empty in a drain. A drain that ends well leaves nothing behind: all that was admitted has been
sent, unless the controller has failed or been aborted, which `failure` and the caller of `abort` know.
-/
namespace Tvic

open Lib

variable {κ ε : Type}

namespace SttCommandController

variable {settings : SttCommandSettings} {byteLength : κ → Nat} {c c' : SttCommandController κ ε}

/-! ## Steps beside the worker's -/

/-- What a step does not do that is neither the worker's nor the drain's. -/
structure Beside (c c' : SttCommandController κ ε) : Prop where
  drain : c'.drain = c.drain
  requested : c'.drainRequested = c.drainRequested
  terminal : c.terminal = true → c'.terminal = true
  accepting : c.accepting = false → c'.accepting = false ∧ c'.admitted = c.admitted ∧
    (c.commands = [] → c'.commands = [])
  stopped : c'.worker = .stopped ↔ c.worker = .stopped
  done : c.worker = .stopped → c'.completed = c.completed ∧ c'.handed = c.handed ∧
    (c.contextWrites = [] → c'.contextWrites = [])
  waiting : c'.worker = .waiting → c.worker = .waiting ∧ c'.terminal = c.terminal ∧
    (c.commands = [] → c'.commands = [])

/-! ## What holds of the worker and of a drain -/

structure Drained (settings : SttCommandSettings) (c : SttCommandController κ ε) : Prop where
  waiting : c.worker = .waiting →
    c.terminal = false ∧ c.drainRequested = false ∧ c.commands = []
  stopped : c.worker = .stopped →
    c.terminal = true ∨ c.drainRequested = true ∧ c.commands = [] ∧ c.handed = c.completed
  accepting : c.drainRequested = true → c.accepting = false
  asked : c.drain ≠ .idle → c.drainRequested = true
  done : SttDrain.IsDone c.drain → c.worker = .stopped ∧ c.contextWrites = []
  rejected : c.drain = .rejected → c.terminal = true
  resolved : c.drain = .resolved false → c.completed = callsDue settings c.admitted ∧
    ∀ promise, .commit promise ∈ c.admitted → c.promises[promise]? = some (some .fulfilled)

theorem drained_start : Drained settings (start : SttCommandController κ ε) where
  waiting _ := ⟨rfl, rfl, rfl⟩
  stopped impossible := by cases impossible
  accepting impossible := by cases impossible
  asked busy := (busy rfl).elim
  done impossible := impossible.elim
  rejected impossible := by cases impossible
  resolved impossible := by cases impossible

theorem Drained.beside (drained : Drained settings c) (beside : Beside c c')
    (keeps : c.promises.Keeps c'.promises) : Drained settings c' where
  waiting waits := by
    obtain ⟨waits, terminal, commands⟩ := beside.waiting waits
    obtain ⟨active, requested, none⟩ := drained.waiting waits
    exact ⟨terminal.trans active, beside.requested.trans requested, commands none⟩
  stopped stopped := by
    have stopped := beside.stopped.mp stopped
    rcases drained.stopped stopped with terminal | ⟨requested, none, completed⟩
    · exact .inl (beside.terminal terminal)
    · obtain ⟨_, _, commands⟩ := beside.accepting (drained.accepting requested)
      obtain ⟨same, same', _⟩ := beside.done stopped
      exact .inr ⟨beside.requested.trans requested, commands none, by rw [same, same', completed]⟩
  accepting requested := (beside.accepting (drained.accepting (beside.requested ▸ requested))).1
  asked busy := beside.requested.trans (drained.asked (beside.drain ▸ busy))
  done done := by
    obtain ⟨stopped, none⟩ := drained.done (beside.drain ▸ done)
    exact ⟨beside.stopped.mpr stopped, (beside.done stopped).2.2 none⟩
  rejected rejected := beside.terminal (drained.rejected (beside.drain ▸ rejected))
  resolved resolved := by
    have before : c.drain = .resolved false := beside.drain ▸ resolved
    have requested := drained.asked (by simp [before])
    obtain ⟨stopped, _⟩ := drained.done (by rw [before]; trivial)
    obtain ⟨sent, fulfilled⟩ := drained.resolved before
    obtain ⟨_, admitted, _⟩ := beside.accepting (drained.accepting requested)
    refine ⟨by rw [(beside.done stopped).1, admitted, sent], fun promise listed => ?_⟩
    exact keeps _ _ (fulfilled promise (admitted ▸ listed))

theorem beside_busy {commands : List (SttCommand κ)} {bytes : Int} {worker : SttWorker κ ε}
    {activeCommit : Option Nat} {handed completed : List (SttStreamCall κ)}
    (emptied : c.commands = [] → commands = []) (busy : c.worker ≠ .stopped)
    (busy' : worker ≠ .stopped) (racing : worker ≠ .waiting) :
    Beside c { c with commands, bufferedBytes := bytes, worker, activeCommit, handed, completed } :=
  ⟨rfl, rfl, id, fun closed => ⟨closed, rfl, emptied⟩, iff_of_false busy' busy,
    fun stopped => (busy stopped).elim, fun waits => (racing waits).elim⟩

theorem beside_promises (c' : SttCommandController κ ε) (none : c.contextWrites = [] → c'.contextWrites = [])
    (same : c' = { c with
      activeCommit := c'.activeCommit
      pendingAgentContextCommands := c'.pendingAgentContextCommands
      contextWrites := c'.contextWrites
      contextWriteTail := c'.contextWriteTail
      closeStarted := c'.closeStarted
      streamClosed := c'.streamClosed
      failure := c'.failure
      promises := c'.promises }) : Beside c c' := by
  rw [same]
  exact ⟨rfl, rfl, id, fun closed => ⟨closed, rfl, id⟩, .rfl, fun _ => ⟨rfl, rfl, none⟩,
    fun waits => ⟨waits, rfl, id⟩⟩

/-- Of the moves only those by which the worker comes to rest and those of the drain say something new;
the others leave it, or do not go with it. -/
theorem Drained.move (drained : Drained settings c) (ordered : Ordered settings byteLength c)
    (held : Held c) (move : Move settings byteLength c c') : Drained settings c' := by
  have keeps := move.keeps
  cases move with
  | aside _ _ _ _ _ same =>
    refine drained.beside (beside_promises _ (fun none => ?_) rfl) keeps
    rw [none] at same
    exact List.map_eq_nil_iff.mp same
  | reject | endCommit => exact drained.beside (beside_promises _ id rfl) keeps
  | endWrite outcome writes =>
    refine drained.beside (beside_promises _ (fun none => ?_) (by rw [settleAgentContext_eq])) keeps
    exact absurd (writes.symm.trans none) (by simp)
  | wake =>
    refine drained.beside ⟨rfl, rfl, id, fun closed => ⟨closed, rfl, id⟩, SttWorker.wake_eq_stopped,
      fun _ => ⟨rfl, rfl, id⟩, fun waits => ?_⟩ keeps
    exact (SttWorker.wake_ne_waiting _ waits).elim
  | push _ accepts =>
    refine drained.beside ⟨rfl, rfl, id, fun closed => absurd (accepts.symm.trans closed) (by simp),
      SttWorker.wake_eq_stopped, fun _ => ⟨rfl, rfl, id⟩, fun waits => ?_⟩ keeps
    exact (SttWorker.wake_ne_waiting _ waits).elim
  | coalesce accepts found =>
    refine drained.beside ⟨rfl, rfl, id, fun closed => absurd (accepts.symm.trans closed) (by simp),
      .rfl, fun _ => ⟨rfl, rfl, id⟩, fun waits => ⟨waits, rfl, fun none => ?_⟩⟩ keeps
    rw [none] at found
    cases found
  | terminate error =>
    refine drained.beside ⟨rfl, rfl, fun _ => rfl, fun _ => ⟨rfl, rfl, fun _ => rfl⟩, ?_,
      fun _ => ⟨rfl, rfl, fun none => ?_⟩, fun waits => ?_⟩ keeps
    · exact SttWorker.wake_eq_stopped.trans SttWorker.abort_eq_stopped
    · simp [terminate, rejectQueued, rejectActiveCommit, abortSignal, signalWork, none]
    · exact (SttWorker.wake_ne_waiting _ waits).elim
  | write woken queue =>
    refine drained.beside ⟨rfl, rfl, id, fun closed => ⟨closed, rfl, fun none => ?_⟩, .rfl,
      fun stopped => ?_, fun waits => ?_⟩ keeps
    · exact absurd (queue.symm.trans none) (by simp)
    · exact absurd (woken.symm.trans stopped) (by simp)
    · exact absurd (woken.symm.trans waits) (by simp)
  | skip woken _ queue =>
    refine drained.beside ⟨rfl, rfl, id, fun closed => ⟨closed, rfl, fun none => ?_⟩, .rfl,
      fun _ => ⟨rfl, rfl, id⟩, fun waits => ?_⟩ keeps
    · exact absurd (queue.symm.trans none) (by simp)
    · exact absurd (woken.symm.trans waits) (by simp)
  | takeAudio woken queue | takeCommit woken _ queue =>
    exact drained.beside (beside_busy (fun none => absurd (queue.symm.trans none) (by simp))
      (by simp [woken]) (by simp) (by simp)) keeps
  | resume busy => exact drained.beside (beside_busy id busy (by simp) (by simp)) keeps
  | race worker _ _ before after =>
    refine drained.beside (beside_busy id ?_ ?_ ?_) keeps
    · exact fun stopped => by simp [stopped, SttWorker.current] at before
    · exact fun stopped => by simp [stopped, SttWorker.current] at after
    · exact fun waits => by simp [waits, SttWorker.current] at after
  | rest woken queue stays =>
    have undone : ¬ c.drain.IsDone := fun done => by simpa [woken] using (drained.done done).1
    have completed : c.handed = c.completed := by
      have fulfilled := ordered.fulfilled (by simp [woken])
      rw [woken] at fulfilled
      exact fulfilled.trans (List.append_nil _)
    refine ⟨fun waits => ?_, fun stopped => .inr ?_, drained.accepting, drained.asked,
      fun done => (undone done).elim, drained.rejected, fun resolved => (undone ?_).elim⟩
    · rcases stays with ⟨-, idle, active⟩ | ⟨rfl, -⟩
      · exact ⟨active, idle, rfl⟩
      · cases waits
    · rcases stays with ⟨rfl, -⟩ | ⟨-, requested⟩
      · cases stopped
      · exact ⟨requested, rfl, completed⟩
    · rw [show c.drain = .resolved false from resolved]
      trivial
  | stop terminal =>
    exact ⟨by simp, fun _ => .inl terminal, drained.accepting, drained.asked,
      fun done => ⟨rfl, (drained.done done).2⟩, drained.rejected, drained.resolved⟩
  | request idle =>
    refine ⟨fun waits => (SttWorker.wake_ne_waiting _ waits).elim, fun stopped => ?_, fun _ => rfl,
      fun _ => rfl, fun impossible => impossible.elim, (fun h => by cases h), fun h => by cases h⟩
    rcases drained.stopped (SttWorker.wake_eq_stopped.mp stopped) with terminal | ⟨_, none, completed⟩
    · exact .inl terminal
    · exact .inr ⟨rfl, none, completed⟩
  | drains drain begun done rejected resolved =>
    have ended (done' : drain.IsDone) : c.worker = .stopped ∧ c.contextWrites = [] :=
      (done done').elim drained.done id
    refine ⟨drained.waiting, drained.stopped, drained.accepting, fun _ => drained.asked begun, ended,
      rejected, fun gone => ?_⟩
    -- a drain that ends while the controller is active has seen everything sent and committed
    have active := resolved gone
    obtain ⟨stopped, _⟩ := ended (by rw [show drain = .resolved false from gone]; trivial)
    rcases drained.stopped stopped with terminal | ⟨_, none, completed⟩
    · exact absurd (terminal.symm.trans active) (by simp)
    · constructor
      · have due := ordered.due active
        rw [stopped, none] at due
        show c.completed = callsDue settings c.admitted
        rw [due, completed]
        simp [SttWorker.uncalled]
      · intro promise listed
        refine (held.kept active promise listed).resolve_right fun placed => ?_
        rw [none, held.free (by simp [stopped])] at placed
        rcases placed.2 with queued | impossible
        · cases queued
        · cases impossible

theorem Moves.sound (moves : Moves settings byteLength c c')
    (sound : Ordered settings byteLength c ∧ Held c ∧ Drained settings c) :
    Ordered settings byteLength c' ∧ Held c' ∧ Drained settings c' := by
  induction moves with
  | refl => exact sound
  | tail _ move ih =>
    obtain ⟨ordered, held, drained⟩ := ih
    exact ⟨ordered.move move, held.move move, drained.move ordered held move⟩

theorem Moves.keeps (moves : Moves settings byteLength c c') : c.promises.Keeps c'.promises := by
  induction moves with
  | refl => exact .refl _
  | tail _ move ih => exact ih.trans move.keeps

end SttCommandController

/-! ## Runs -/

open SttCommandController

def runController (settings : SttCommandSettings) (byteLength : κ → Nat) (events : List (Event κ ε)) :
    SttCommandController κ ε :=
  run (step settings byteLength) start events

theorem runController_sound (settings : SttCommandSettings) (byteLength : κ → Nat)
    (events : List (Event κ ε)) :
    Ordered settings byteLength (runController settings byteLength events) ∧
      Held (runController settings byteLength events) ∧
      Drained settings (runController settings byteLength events) := by
  refine run_invariant (step settings byteLength)
    (fun c => Ordered settings byteLength c ∧ Held c ∧ Drained settings c) ?_ start
    ⟨ordered_start, held_start, drained_start⟩ events
  rintro c event ⟨ordered, held, drained⟩
  exact (moves_step event).sound ⟨ordered, held, drained⟩

theorem runController_keeps (settings : SttCommandSettings) (byteLength : κ → Nat)
    (events later : List (Event κ ε)) :
    (runController settings byteLength events).promises.Keeps
      (runController settings byteLength (events ++ later)).promises := by
  induction later using List.reverseRecOn with
  | nil =>
    rw [List.append_nil]
    exact .refl _
  | append_singleton later last ih =>
    refine ih.trans ?_
    unfold runController
    rw [← List.append_assoc, run_snoc]
    exact Moves.keeps (moves_step last)

/-- Whatever happens in whatever order, the calls of the stream are a prefix of what has been admitted,
each made after the one before was fulfilled, and until the controller terminates nothing is left out;
the bytes are those of the queue; a promise is settled once, and none is pending once the controller
has failed, has been aborted or has drained; and a drain that resolves before the controller has failed
or been aborted leaves every chunk sent and every commit fulfilled. -/
theorem sttCommands_orderly (settings : SttCommandSettings) (byteLength : κ → Nat)
    (events : List (Event κ ε)) :
    let c := runController settings byteLength events
    (c.handed <+: callsDue settings c.admitted ∧
      (c.terminal = false → callsDue settings c.admitted =
        c.handed ++ c.worker.uncalled ++ c.commands.filterMap (SttCommand.call? settings)) ∧
      c.completed <+: c.handed ∧ c.handed.length ≤ c.completed.length + 1 ∧
      (c.worker = .waiting → c.commands = [])) ∧
    c.bufferedBytes = queuedBytes byteLength c.commands ∧
    (∀ later, c.promises.Keeps (runController settings byteLength (events ++ later)).promises) ∧
    (c.terminal = true ∨ c.drain = .rejected ∨ (∃ terminated, c.drain = .resolved terminated) →
      ∀ promise ∈ c.promises, promise ≠ none) ∧
    (c.drain = .resolved false → c.completed = callsDue settings c.admitted ∧
      ∀ promise, .commit promise ∈ c.admitted →
        c.promises[promise]? = some (some .fulfilled)) := by
  intro c
  obtain ⟨ordered, held, drained⟩ := runController_sound settings byteLength events
  refine ⟨⟨(List.prefix_append _ _).trans ordered.handed, ordered.due, ordered.oneAtATime.1,
    ordered.oneAtATime.2, fun waits => (drained.waiting waits).2.2⟩, ordered.bytes,
    runController_keeps settings byteLength events, fun gone => ?_, drained.resolved⟩
  have empty : c.commands = [] ∧ c.activeCommit = none ∧ c.pendingAgentContextCommands = [] := by
    by_cases terminal : c.terminal = true
    · exact held.cleared terminal
    · have finished : ∃ terminated, c.drain = .resolved terminated := by
        rcases gone with ended | rejected | resolved
        · exact absurd ended terminal
        · exact absurd (drained.rejected rejected) terminal
        · exact resolved
      obtain ⟨terminated, resolved⟩ := finished
      obtain ⟨stopped, none⟩ := drained.done (by rw [resolved]; trivial)
      refine ⟨((drained.stopped stopped).resolve_left terminal).2.1, held.free (by simp [stopped]), ?_⟩
      refine List.eq_nil_iff_forall_not_mem.mpr fun waiter listed => ?_
      have written := held.writing waiter listed
      rw [none] at written
      cases written
  intro promise listed pending
  obtain ⟨index, place⟩ := List.mem_iff_getElem?.mp listed
  rw [pending] at place
  have somewhere := held.pending index place
  rw [empty.1, empty.2.1, empty.2.2] at somewhere
  rcases somewhere with queued | active | written
  · cases queued
  · cases active
  · cases written

/-- After a failed write a drain resolves although the chunk has not been sent. -/
theorem drain_resolves_unsent :
    ¬ ∀ events : List (Event Unit Unit), ∀ terminated,
      (runController ⟨8, 8, false, true⟩ (fun _ => 1) events).drain = .resolved terminated →
        (runController ⟨8, 8, false, true⟩ (fun _ => 1) events).completed =
          callsDue ⟨8, 8, false, true⟩
            (runController ⟨8, 8, false, true⟩ (fun _ => 1) events).admitted := by
  intro all
  exact absurd (all [.admitAudio (), .resumeWorker, .callStream,
    .streamSettles (.rejected (.given ())), .resumeWorker, .requestDrain, .finishDrain, .resumeDrain,
    .endClose, .resumeDrain] true rfl) (by decide)

end Tvic
