import Tvic.Runtime.SttCommandOrder

/-!
# The promises of the command controller

Every promise that is pending is in the hands of the controller: its command is queued, the commit is
under way, or the context is being written. The controller lets go of all of them when it terminates,
and none is left when it has drained.
-/
namespace Tvic

open Lib

variable {κ ε : Type}

def SttCommand.waiter? : SttCommand κ → Option Nat
  | .agentContext _ waiter => some waiter
  | _ => none

theorem SttWorker.wake_committing {worker : SttWorker κ ε} {promise : Nat}
    (committing : ∃ called race, worker = .committing promise called race) :
    ∃ called race, worker.wake = .committing promise called race := by
  obtain ⟨called, race, rfl⟩ := committing
  exact ⟨called, race, rfl⟩

namespace SttCommandController

/-! ## Settled for good -/

variable {settings : SttCommandSettings} {byteLength : κ → Nat} {c : SttCommandController κ ε}

theorem Move.keeps {c' : SttCommandController κ ε} (move : Move settings byteLength c c') :
    c.promises.Keeps c'.promises := by
  cases move with
  | reject => exact PromiseTable.keeps_append _ _
  | push _ _ admits =>
    cases admits with
    | audio => exact .refl _
    | agentContext | commit => exact PromiseTable.keeps_append _ _
  | terminate error releases => exact releases.keeps
  | skip | endCommit => exact PromiseTable.keeps_settle _ _ _
  | endWrite =>
    unfold settleAgentContext
    split
    · exact PromiseTable.keeps_settle _ _ _
    · exact .refl _
  | _ => exact .refl _

/-! ## Pending promises -/

/-- Where the promises that are pending are, and the commits among them. -/
structure Held (c : SttCommandController κ ε) : Prop where
  pending : ∀ promise, c.promises[promise]? = some none →
    promise ∈ c.commands.filterMap SttCommand.promise? ∨ c.activeCommit = some promise ∨
      promise ∈ c.pendingAgentContextCommands
  cleared : c.terminal = true →
    c.commands = [] ∧ c.activeCommit = none ∧ c.pendingAgentContextCommands = []
  committing : ∀ promise, c.activeCommit = some promise →
    ∃ called race, c.worker = .committing promise called race
  writing : ∀ waiter ∈ c.pendingAgentContextCommands, waiter ∈ c.contextWrites.map (·.waiter)
  waiters : ∀ waiter, waiter ∈ c.commands.filterMap SttCommand.waiter? ∨
    waiter ∈ c.pendingAgentContextCommands → waiter < c.promises.length
  commits : ∀ promise, .commit promise ∈ c.admitted → promise < c.promises.length ∧
    promise ∉ c.commands.filterMap SttCommand.waiter? ∧ promise ∉ c.pendingAgentContextCommands
  kept : c.terminal = false → ∀ promise, .commit promise ∈ c.admitted →
    c.promises[promise]? = some (some .fulfilled) ∨
      c.promises[promise]? = some none ∧
        (.commit promise ∈ c.commands ∨ c.activeCommit = some promise)

theorem held_start : Held (start : SttCommandController κ ε) where
  pending promise impossible := by simp [start] at impossible
  cleared impossible := by cases impossible
  committing promise impossible := by cases impossible
  writing waiter listed := by cases listed
  waiters waiter listed := by rcases listed with listed | listed <;> cases listed
  commits promise listed := by cases listed
  kept _ promise listed := by cases listed

theorem Held.frame (held : Held c) {c' : SttCommandController κ ε}
    (committing : ∀ promise, c.activeCommit = some promise →
      ∃ called race, c'.worker = .committing promise called race)
    (writing : c'.contextWrites.map (·.waiter) = c.contextWrites.map (·.waiter))
    (same : c' = { c with
      bufferedBytes := c'.bufferedBytes
      accepting := c'.accepting
      drainRequested := c'.drainRequested
      worker := c'.worker
      contextWrites := c'.contextWrites
      contextWriteTail := c'.contextWriteTail
      drain := c'.drain
      closeStarted := c'.closeStarted
      streamClosed := c'.streamClosed
      failure := c'.failure
      handed := c'.handed
      completed := c'.completed }) : Held c' := by
  rw [same]
  exact ⟨held.pending, held.cleared, committing, fun waiter listed => writing ▸ held.writing waiter listed,
    held.waiters, held.commits, held.kept⟩

theorem Held.signalWork (held : Held c) : Held c.signalWork :=
  held.frame (fun promise active => SttWorker.wake_committing (held.committing promise active)) rfl rfl

theorem coalesceContext?_commits {context : Text} {commands coalesced : List (SttCommand κ)}
    (found : coalesceContext? context commands = some coalesced) :
    coalesced.filterMap SttCommand.waiter? = commands.filterMap SttCommand.waiter? ∧
      ∀ promise, .commit promise ∈ commands → .commit promise ∈ coalesced := by
  induction commands generalizing coalesced with
  | nil => cases found
  | cons command commands ih =>
    cases command with
    | agentContext earlier waiter =>
      cases found
      exact ⟨rfl, fun promise listed => by simpa using listed⟩
    | _ =>
      obtain ⟨rest, later, rfl⟩ := Option.map_eq_some_iff.mp found
      obtain ⟨waiters, commits⟩ := ih later
      refine ⟨by simp [List.filterMap_cons, waiters], fun promise listed => ?_⟩
      rcases List.mem_cons.mp listed with same | below
      · exact same ▸ List.mem_cons_self
      · exact List.mem_cons_of_mem _ (commits promise below)

theorem Held.free (held : Held c) (elsewhere : ∀ promise called race,
    c.worker ≠ .committing promise called race) : c.activeCommit = none := by
  cases active : c.activeCommit with
  | none => rfl
  | some promise =>
    obtain ⟨called, race, committing⟩ := held.committing promise active
    exact absurd committing (elsewhere promise called race)


def Holds (c : SttCommandController κ ε) (promise : Nat) : Prop :=
  promise ∈ c.commands.filterMap SttCommand.promise? ∨ c.activeCommit = some promise ∨
    promise ∈ c.pendingAgentContextCommands

theorem Held.grow (held : Held c) {added : PromiseTable (Settlement ε)} {queued : List (SttCommand κ)}
    {calls : List (SttStreamCall κ)} (bufferedBytes : Int)
    (pending : none ∈ added → c.promises.length ∈ queued.filterMap SttCommand.promise?)
    (short : added.length ≤ 1)
    (waiters : ∀ waiter ∈ queued.filterMap SttCommand.waiter?, waiter = c.promises.length ∧ none ∈ added)
    (commits : ∀ promise, .commit promise ∈ calls → promise = c.promises.length ∧ added = [none] ∧
      queued = [.commit promise])
    (active : c.terminal = true → queued = []) :
    Held
      { c with
        promises := c.promises ++ added
        commands := c.commands ++ queued
        bufferedBytes
        admitted := c.admitted ++ calls } where
  pending promise open_ := by
    rcases Nat.lt_or_ge promise c.promises.length with inside | beyond
    · have open_ : (c.promises ++ added)[promise]? = some none := open_
      rw [List.getElem?_append_left inside] at open_
      refine (held.pending promise open_).imp_left fun queued => ?_
      rw [List.filterMap_append]
      exact List.mem_append_left _ queued
    · have open_ : (c.promises ++ added)[promise]? = some none := open_
      rw [List.getElem?_append_right beyond] at open_
      have new := pending (List.mem_of_getElem? open_)
      have last := (List.getElem?_eq_some_iff.mp open_).1
      obtain rfl : promise = c.promises.length := by omega
      refine .inl ?_
      rw [List.filterMap_append]
      exact List.mem_append_right _ new
  cleared terminal := by
    obtain ⟨commands, rest⟩ := held.cleared terminal
    exact ⟨by simp [commands, active terminal], rest⟩
  committing := held.committing
  writing := held.writing
  waiters waiter listed := by
    rw [List.filterMap_append, List.mem_append] at listed
    have longer : (c.promises ++ added).length = c.promises.length + added.length := List.length_append
    show waiter < (c.promises ++ added).length
    rcases listed with (before | last) | written
    · have := held.waiters waiter (.inl before)
      omega
    · obtain ⟨same, new⟩ := waiters waiter last
      have := List.length_pos_of_mem new
      omega
    · have := held.waiters waiter (.inr written)
      omega
  commits promise listed := by
    have longer : (c.promises ++ added).length = c.promises.length + added.length := List.length_append
    show promise < (c.promises ++ added).length ∧
      promise ∉ (c.commands ++ queued).filterMap SttCommand.waiter? ∧ _
    rw [List.filterMap_append, List.mem_append, not_or]
    rcases List.mem_append.mp listed with before | last
    · obtain ⟨bounded, apart, written⟩ := held.commits promise before
      exact ⟨by omega, ⟨apart, fun waits => by have := (waiters promise waits).1; omega⟩, written⟩
    · -- the new promise is beyond all waiters
      obtain ⟨rfl, rfl, rfl⟩ := commits promise last
      have beyond := fun waits => Nat.lt_irrefl _ (held.waiters c.promises.length waits)
      exact ⟨by simp, ⟨fun waits => beyond (.inl waits), by simp [SttCommand.waiter?]⟩,
        fun waits => beyond (.inr waits)⟩
  kept going promise listed := by
    rcases List.mem_append.mp listed with before | last
    · show (c.promises ++ added)[promise]? = _ ∨ (c.promises ++ added)[promise]? = _ ∧ _
      rw [List.getElem?_append_left (held.commits promise before).1]
      refine (held.kept going promise before).imp_right fun ⟨pending, place⟩ => ⟨pending, ?_⟩
      exact place.imp_left fun queued => List.mem_append_left _ queued
    · obtain ⟨rfl, rfl, rfl⟩ := commits promise last
      exact .inr ⟨by simp, .inl (by simp)⟩

theorem Held.pass (held : Held c) {c' : SttCommandController κ ε} (admitted : c'.admitted = c.admitted)
    (length : c'.promises.length = c.promises.length) (keeps : c.promises.Keeps c'.promises)
    (holds : ∀ promise, c'.promises[promise]? = some none →
      c.promises[promise]? = some none ∧ (Holds c promise → Holds c' promise))
    (cleared : c'.terminal = true →
      c'.commands = [] ∧ c'.activeCommit = none ∧ c'.pendingAgentContextCommands = [])
    (committing : ∀ promise, c'.activeCommit = some promise →
      ∃ called race, c'.worker = .committing promise called race)
    (writing : ∀ waiter ∈ c'.pendingAgentContextCommands, waiter ∈ c'.contextWrites.map (·.waiter))
    (waiters : ∀ waiter, waiter ∈ c'.commands.filterMap SttCommand.waiter? ∨
        waiter ∈ c'.pendingAgentContextCommands →
      waiter ∈ c.commands.filterMap SttCommand.waiter? ∨ waiter ∈ c.pendingAgentContextCommands)
    (kept : c'.terminal = false → c.terminal = false ∧ ∀ promise, .commit promise ∈ c.admitted →
      c.promises[promise]? = some none → (.commit promise ∈ c.commands ∨ c.activeCommit = some promise) →
        c'.promises[promise]? = some (some .fulfilled) ∨ c'.promises[promise]? = some none ∧
          (.commit promise ∈ c'.commands ∨ c'.activeCommit = some promise)) : Held c' where
  pending promise open_ := by
    obtain ⟨before, passes⟩ := holds promise open_
    exact passes (held.pending promise before)
  cleared := cleared
  committing := committing
  writing := writing
  waiters waiter listed := length ▸ held.waiters waiter (waiters waiter listed)
  commits promise listed := by
    obtain ⟨bounded, queued, written⟩ := held.commits promise (admitted ▸ listed)
    have apart : ¬ (promise ∈ c'.commands.filterMap SttCommand.waiter? ∨
        promise ∈ c'.pendingAgentContextCommands) :=
      fun listed => (waiters promise listed).elim queued written
    exact ⟨length ▸ bounded, not_or.mp apart⟩
  kept going promise listed := by
    rw [admitted] at listed
    obtain ⟨active, passes⟩ := kept going
    rcases held.kept active promise listed with fulfilled | ⟨pending, place⟩
    · exact .inl (keeps _ _ fulfilled)
    · exact passes promise listed pending place

theorem settle_other {promises : PromiseTable (Settlement ε)} {promise other : Nat}
    (pending : promises[other]? = some none) (outcome : Settlement ε) :
    (promises.settle promise outcome)[other]? = some (some outcome) ∧ other = promise ∨
      (promises.settle promise outcome)[other]? = some none ∧ other ≠ promise := by
  by_cases same : other = promise
  · subst same
    exact .inl ⟨PromiseTable.settle_pending pending _, rfl⟩
  · refine .inr ⟨?_, same⟩
    rw [PromiseTable.getElem?_settle, if_neg (Ne.symm same)]
    exact pending

theorem Held.move (held : Held c) {c' : SttCommandController κ ε}
    (move : Move settings byteLength c c') : Held c' := by
  have active {command : SttCommand κ} {rest : List (SttCommand κ)}
      (queue : c.commands = command :: rest) : c.terminal = false := by
    cases terminal : c.terminal with
    | false => rfl
    | true => exact absurd ((held.cleared terminal).1.symm.trans queue) (by simp)
  have idle (woken : c.worker = .woken) : c.activeCommit = none := held.free (by simp [woken])
  have promises {command : SttCommand κ} {rest : List (SttCommand κ)}
      (queue : c.commands = command :: rest) : c.commands.filterMap SttCommand.promise? =
        command.promise?.toList ++ rest.filterMap SttCommand.promise? := by
    rw [queue]
    cases command <;> rfl
  have waiters {command : SttCommand κ} {rest : List (SttCommand κ)}
      (queue : c.commands = command :: rest) : c.commands.filterMap SttCommand.waiter? =
        command.waiter?.toList ++ rest.filterMap SttCommand.waiter? := by
    rw [queue]
    cases command <;> rfl
  have keeps := move.keeps
  cases move with
  | aside _ _ _ _ _ same => exact held.frame held.committing same rfl
  | drains => exact held.frame held.committing rfl rfl
  | wake => exact held.signalWork
  | request => exact held.signalWork.frame held.signalWork.committing rfl rfl
  | reject error =>
    have grown := @Held.grow _ _ c held [some (.rejected error)] [] []
      c.bufferedBytes (by simp) (by simp) (by simp) (by simp) (fun _ => rfl)
    rwa [List.append_nil, List.append_nil] at grown
  | push accepts _ admits =>
    have never {queued : List (SttCommand κ)} (terminal : c.terminal = true) : queued = [] :=
      absurd (accepts.symm.trans terminal) (by simp)
    refine Held.signalWork ?_
    cases admits with
    | audio chunk =>
      have grown := @Held.grow _ _ c held [] [.audio chunk] [.sendAudio chunk]
        (c.bufferedBytes + byteLength chunk) (by simp) (by simp) (by simp [SttCommand.waiter?]) (by simp)
        never
      rwa [List.append_nil] at grown
    | agentContext context =>
      have grown := @Held.grow _ _ c held [none] [.agentContext context c.promises.length] []
        c.bufferedBytes (by simp [SttCommand.promise?]) (by simp)
        (by simp [SttCommand.waiter?]) (by simp) never
      rwa [List.append_nil] at grown
    | commit =>
      exact held.grow c.bufferedBytes (by simp [SttCommand.promise?]) (by simp)
        (by simp [SttCommand.waiter?]) (by simp) never
  | coalesce _ found =>
    obtain ⟨_, _, promises⟩ := coalesceContext?_eq_some settings byteLength found
    obtain ⟨waiters, commits⟩ := coalesceContext?_commits found
    refine held.pass rfl rfl keeps (fun promise pending => ⟨pending, ?_⟩) (fun terminal => ?_)
      held.committing held.writing (fun waiter listed => waiters ▸ listed) fun going => ⟨going, ?_⟩
    · unfold Holds
      rw [← promises]
      exact id
    · rw [(held.cleared terminal).1] at found
      cases found
    · exact fun promise _ pending place => .inr ⟨pending, place.imp_left (commits promise)⟩
  | terminate error releases =>
    refine held.pass rfl releases.length keeps (fun promise pending => ?_) (fun _ => ⟨rfl, rfl, rfl⟩)
      nofun nofun (fun waiter listed => ?_) nofun
    · obtain ⟨pending, queued, active, written⟩ := releases.pending promise pending
      exact ⟨pending, fun holds => absurd holds (not_or.mpr ⟨queued, not_or.mpr ⟨active, written⟩⟩)⟩
    · rcases listed with listed | listed <;> cases listed
  | write woken queue =>
    rename_i context waiter rest
    refine held.pass rfl rfl keeps (fun promise pending => ⟨pending, fun holds => ?_⟩)
      (fun terminal => absurd (terminal.symm.trans (active queue)) (by simp)) held.committing
      (fun other listed => ?_) (fun other listed => ?_) fun going => ⟨going, fun promise _ pending place => ?_⟩
    · simp [Holds, startContextWrite, promises queue, SttCommand.promise?, -List.mem_filterMap] at holds ⊢
      tauto
    · rw [SttCommandController.startContextWrite, List.map_append]
      rcases List.mem_append.mp listed with before | last
      · exact List.mem_append_left _ (held.writing other before)
      · exact List.mem_append_right _ (by simpa using last)
    · simp [startContextWrite, waiters queue, SttCommand.waiter?, -List.mem_filterMap] at listed ⊢
      tauto
    · refine .inr ⟨pending, place.imp_left fun queued => ?_⟩
      rw [queue] at queued
      exact (List.mem_cons.mp queued).resolve_left (by simp)
  | skip woken none queue =>
    refine held.pass rfl (PromiseTable.length_settle _ _ _) keeps (fun other pending => ?_)
      (fun terminal => absurd (terminal.symm.trans (active queue)) (by simp)) held.committing held.writing
      (fun waiter listed => ?_) fun going => ⟨going, fun other _ pending place => ?_⟩
    · obtain ⟨pending, ne⟩ := PromiseTable.pending_settle pending
      refine ⟨pending, fun holds => ?_⟩
      simpa [Holds, SttCommandController.settle, queue, SttCommand.promise?, ne] using holds
    · simpa [SttCommandController.settle, queue, SttCommand.waiter?] using listed
    · rcases settle_other pending .fulfilled with ⟨fulfilled, -⟩ | ⟨pending, ne⟩
      · exact .inl fulfilled
      · refine .inr ⟨pending, place.imp_left fun queued => ?_⟩
        rw [queue] at queued
        exact (List.mem_cons.mp queued).resolve_left (by simpa using ne)
  | takeAudio woken queue =>
    refine held.pass rfl rfl keeps (fun promise pending => ⟨pending, ?_⟩)
      (fun terminal => absurd (terminal.symm.trans (active queue)) (by simp)) (fun promise taken => ?_)
      held.writing (fun waiter listed => ?_) fun going => ⟨going, fun promise _ pending place => ?_⟩
    · simp [Holds, queue, SttCommand.promise?]
    · exact absurd ((idle woken).symm.trans taken) (by simp)
    · simpa [queue, SttCommand.waiter?] using listed
    · simpa [queue, pending] using place
  | takeCommit woken called queue =>
    refine held.pass rfl rfl keeps (fun promise pending => ⟨pending, fun holds => ?_⟩)
      (fun terminal => absurd (terminal.symm.trans (active queue)) (by simp)) (fun promise taken => ?_)
      held.writing (fun waiter listed => ?_) fun going => ⟨going, fun promise _ pending place => ?_⟩
    · simp [Holds, promises queue, SttCommand.promise?, idle woken, -List.mem_filterMap] at holds ⊢
      tauto
    · cases taken
      exact ⟨false, none, rfl⟩
    · simpa [queue, SttCommand.waiter?] using listed
    · simp [queue, pending, idle woken] at place ⊢
      tauto
  | rest woken queue =>
    rw [← queue]
    exact held.frame (fun promise taken => absurd ((idle woken).symm.trans taken) (by simp)) rfl rfl
  | stop terminal =>
    refine held.frame (fun promise taken => ?_) rfl rfl
    exact absurd ((held.cleared terminal).2.1.symm.trans taken) (by simp)
  | resume _ _ _ free =>
    refine held.frame (fun promise taken => ?_) rfl rfl
    obtain ⟨called, race, worker⟩ := held.committing promise taken
    exact absurd ((free promise (by rw [worker]; rfl)).symm.trans taken) (by simp)
  | race worker _ _ before after =>
    refine held.frame (fun promise taken => ?_) rfl rfl
    obtain ⟨called, race, committing⟩ := held.committing promise taken
    rw [committing] at before
    cases before
    cases worker with
    | committing other called race =>
      cases after
      exact ⟨called, race, rfl⟩
    | _ => cases after
  | endCommit ends =>
    rename_i promise outcome
    -- no other commit is under way
    have same : ∀ other, c.activeCommit = some other → other = promise := by
      intro other taken
      rcases ends with ⟨-, current⟩ | terminal
      · obtain ⟨called, race, committing⟩ := held.committing other taken
        rw [committing] at current
        cases current
        rfl
      · exact absurd ((held.cleared terminal).2.1.symm.trans taken) (by simp)
    refine held.pass rfl (PromiseTable.length_settle _ _ _) keeps (fun other pending => ?_)
      (fun terminal => ?_) nofun held.writing (fun _ listed => listed)
      fun going => ⟨going, fun other _ pending place => ?_⟩
    · obtain ⟨pending, ne⟩ := PromiseTable.pending_settle pending
      refine ⟨pending, fun holds => holds.imp_right fun elsewhere => .inr ?_⟩
      exact elsewhere.resolve_left fun taken => ne (same other taken)
    · obtain ⟨commands, _, written⟩ := held.cleared terminal
      exact ⟨commands, rfl, written⟩
    · obtain ⟨rfl, -⟩ := ends.resolve_right fun terminal => absurd (going.symm.trans terminal) (by simp)
      rcases settle_other pending .fulfilled with ⟨fulfilled, -⟩ | ⟨pending, ne⟩
      · exact .inl fulfilled
      · exact .inr ⟨pending, .inl (place.resolve_right fun taken => ne (same other taken))⟩
  | endWrite outcome writes =>
    rename_i write rest
    have later : ∀ waiter ∈ c.pendingAgentContextCommands, waiter ≠ write.waiter →
        waiter ∈ rest.map (·.waiter) := by
      intro waiter listed ne
      have place := held.writing waiter listed
      rw [writes, List.map_cons] at place
      exact (List.mem_cons.mp place).resolve_left ne
    unfold settleAgentContext at keeps ⊢
    split at keeps
    next own =>
      rw [if_pos own]
      refine held.pass rfl (PromiseTable.length_settle _ _ _) keeps (fun promise pending => ?_)
        (fun terminal => ?_) held.committing (fun waiter listed => ?_) (fun waiter listed => ?_)
        fun going => ⟨going, fun promise admitted pending place => ?_⟩
      · obtain ⟨pending, ne⟩ := PromiseTable.pending_settle pending
        refine ⟨pending, fun holds => holds.imp_right fun elsewhere => elsewhere.imp_right fun written => ?_⟩
        exact List.mem_filter.mpr ⟨written, by simpa using ne⟩
      · rw [(held.cleared terminal).2.2] at own
        cases own
      · obtain ⟨written, ne⟩ := List.mem_filter.mp listed
        exact later waiter written (by simpa using ne)
      · exact listed.imp_right fun written => (List.mem_filter.mp written).1
      · -- the waiter is not the promise of a commit
        rcases settle_other pending outcome with ⟨-, same⟩ | ⟨pending, -⟩
        · exact absurd (same ▸ own) (held.commits promise admitted).2.2
        · exact .inr ⟨pending, place⟩
    next gone =>
      rw [if_neg gone]
      refine ⟨held.pending, held.cleared, held.committing, fun waiter listed => ?_, held.waiters,
        held.commits, held.kept⟩
      exact later waiter listed (by rintro rfl; exact gone listed)

end SttCommandController

end Tvic
