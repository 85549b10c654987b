import Tvic.Runtime.SessionRecovery

/-!
# Handing sessions over

What the logs of the two workers tell. The coordinator's evidence is where its attachments are: all
of them kept or detached while it looks for the next candidate, and all but the one in hand while
that is activated or rolled back.
-/
namespace Tvic

open Worker

variable {J : Type}

namespace SessionRecoveryCoordinator

abbrev Entry (J : Type) := WorkerEntry (RecoveryAction J)

/-- The activator has accepted the attachment before the coordinator was stopped. -/
def Kept (poll place : Nat) (log : List (Entry J)) : Prop :=
  ∃ before, .did poll (.activated place) :: before <:+ log ∧ ¬ StoppedSince poll before

def Settled (poll place : Nat) (log : List (Entry J)) : Prop :=
  .did poll (.detach place) ∈ log ∨ Kept poll place log

/-- What an entry of the coordinator's log says of those before it. -/
def HandsOver (hasDeactivate : Bool) (older : List (Entry J)) : Entry J → Prop
  | .pollBegan _ => ∀ other, .pollBegan other ∈ older → .pollEnded other ∈ older
  | .did poll (.attachSession _ _) | .did poll (.activate _ _) | .did poll (.endSession _ _) =>
    ¬ StoppedSince poll older
  | .did poll (.acknowledgeRecoveryCandidate place candidate) =>
    ∃ stored, recoveryOver stored = true ∧
      .did poll (.got place candidate.sessionId stored) ∈ older
  | .did poll (.detach place) => ∀ sessionId, .did poll (.activate place sessionId) ∈ older →
    hasDeactivate = true → ∃ sessionId', .did poll (.deactivate place sessionId') ∈ older
  | .pollEnded poll => ∀ place, .did poll (.attached place) ∈ older → Settled poll place older
  | _ => True

variable {poll place : Nat} {log : List (Entry J)} {entry : Entry J} {hasDeactivate : Bool}

theorem Settled.cons (settled : Settled poll place log) : Settled poll place (entry :: log) := by
  obtain detached | ⟨before, suffix, awake⟩ := settled
  · exact .inl (List.mem_cons_of_mem _ detached)
  · exact .inr ⟨before, suffix.trans (List.suffix_cons _ _), awake⟩

/-- Every attachment is settled but perhaps one in hand, and nothing from `bound` on was
activated. -/
structure Tidy (poll : Nat) (log : List (Entry J)) (inHand : Option Nat) (bound : Nat) :
    Prop where
  settled : ∀ place, .did poll (.attached place) ∈ log → inHand = some place ∨
    Settled poll place log
  fresh : ∀ place sessionId, .did poll (.activate place sessionId) ∈ log → place < bound

variable {inHand : Option Nat} {bound : Nat}

theorem Tidy.cons (tidy : Tidy poll log inHand bound)
    (attached : ∀ place, entry ≠ .did poll (.attached place))
    (activate : ∀ place sessionId, entry ≠ .did poll (.activate place sessionId)) :
    Tidy poll (entry :: log) inHand bound where
  settled place found := by
    obtain same | before := List.mem_cons.mp found
    · exact absurd same.symm (attached place)
    · exact (tidy.settled place before).imp_right .cons
  fresh place sessionId found := by
    obtain same | before := List.mem_cons.mp found
    · exact absurd same.symm (activate place sessionId)
    · exact tidy.fresh place sessionId before

theorem Tidy.weaken (tidy : Tidy poll log inHand bound) {larger : Nat} (le : bound ≤ larger) :
    Tidy poll log inHand larger :=
  ⟨tidy.settled, fun place sessionId found =>
    Nat.lt_of_lt_of_le (tidy.fresh place sessionId found) le⟩

theorem Tidy.settle (tidy : Tidy poll log (some place) bound) (settled : Settled poll place log) :
    Tidy poll log none bound where
  settled other found := by
    obtain same | before := tidy.settled other found
    · cases same
      exact .inr settled
    · exact .inr before
  fresh := tidy.fresh

def Evidence (poll : Nat) (log : List (Entry J)) : CoordinatorPhase J → Prop
  | .listing => Tidy poll log none 0
  | .reading v | .acknowledging v | .checkingTransport v _ | .resolvingAgent v | .attaching v =>
    Tidy poll log none v.place
  | .activating v => Tidy poll log (some v.place) (v.place + 1)
  | .deactivating v _ => Tidy poll log (some v.place) (v.place + 1) ∧
    ∃ sessionId, .did poll (.deactivate v.place sessionId) ∈ log
  | .detaching v _ => Tidy poll log none (v.place + 1)

theorem runs_finish (cursor : Option String) {total attached failed : Nat}
    (tidy : Tidy poll log none bound) :
    Runs (HandsOver hasDeactivate) Evidence poll
      (finish cursor [] total attached failed : Turn J).actions
      (finish cursor [] total attached failed : Turn J).phase log := by
  refine ⟨trivial, fun place found => ?_⟩
  have later : Tidy poll (.did poll (.returned total attached failed) :: log) none bound :=
    tidy.cons (by simp) (by simp)
  simpa using later.settled place found

theorem runs_visit {stopped : Bool} {cursor : Option String}
    {candidates : List SessionRecoveryCandidate} {total attached failed : Nat}
    (tidy : Tidy poll log none place) :
    Runs (HandsOver hasDeactivate) Evidence poll
      (visit stopped cursor [] place candidates total attached failed : Turn J).actions
      (visit stopped cursor [] place candidates total attached failed : Turn J).phase log := by
  unfold visit
  split
  · exact runs_finish cursor tidy
  · split
    · exact runs_finish cursor tidy
    · exact ⟨trivial, tidy.cons (by simp) (by simp)⟩

theorem visit_cons (stopped : Bool) (cursor : Option String) (action : RecoveryAction J)
    (place : Nat) (candidates : List SessionRecoveryCandidate) (total attached failed : Nat) :
    (visit stopped cursor [action] place candidates total attached failed).actions =
        action :: (visit stopped cursor [] place candidates total attached failed).actions ∧
      (visit stopped cursor [action] place candidates total attached failed).phase =
        (visit stopped cursor [] place candidates total attached failed).phase := by
  unfold visit
  split
  · exact ⟨rfl, rfl⟩
  · split <;> exact ⟨rfl, rfl⟩

theorem runs_cons_visit {stopped : Bool} {cursor : Option String} {action : RecoveryAction J}
    {candidates : List SessionRecoveryCandidate} {total attached failed : Nat}
    (stands : HandsOver hasDeactivate log (.did poll action))
    (tidy : Tidy poll (.did poll action :: log) none place) :
    Runs (HandsOver hasDeactivate) Evidence poll
      (visit stopped cursor [action] place candidates total attached failed : Turn J).actions
      (visit stopped cursor [action] place candidates total attached failed : Turn J).phase log := by
  obtain ⟨actions, phase⟩ :=
    visit_cons stopped cursor action place candidates total attached failed
  rw [actions, phase]
  exact ⟨stands, runs_visit tidy⟩

theorem rollBack_cons (hasDeactivate : Bool) (cursor : Option String) (action : RecoveryAction J)
    (v : RecoveryVisit) (failed : Bool) :
    (rollBack v hasDeactivate cursor [action] failed).actions =
        action :: (rollBack v hasDeactivate cursor [] failed).actions ∧
      (rollBack v hasDeactivate cursor [action] failed).phase =
        (rollBack v hasDeactivate cursor [] failed).phase := by
  unfold rollBack
  split <;> exact ⟨rfl, rfl⟩

theorem runs_rollBack {cursor : Option String} {v : RecoveryVisit} {failed : Bool}
    (tidy : Tidy poll log (some v.place) (v.place + 1)) :
    Runs (HandsOver hasDeactivate) Evidence poll
      (rollBack v hasDeactivate cursor [] failed : Turn J).actions
      (rollBack v hasDeactivate cursor [] failed : Turn J).phase log := by
  unfold rollBack
  cases hasDeactivate with
  | true =>
    refine ⟨trivial, tidy.cons (by simp) (by simp), v.candidate.sessionId, ?_⟩
    exact List.mem_cons_self
  | false =>
    have detached : Settled poll v.place (.did poll (.detach v.place) :: log) := .inl (by simp)
    refine ⟨fun _ _ missing => ?_, (tidy.cons (by simp) (by simp)).settle detached⟩
    cases missing

theorem resume_runs {stopped : Bool} {cursor : Option String} {phase : CoordinatorPhase J}
    {outcome : RecoveryOutcome J} {turn : Turn J}
    (resumed : resume hasDeactivate stopped cursor phase outcome = some turn)
    (evidence : Evidence poll log phase) (awake : stopped = false → ¬ StoppedSince poll log) :
    Runs (HandsOver hasDeactivate) Evidence poll turn.actions turn.phase log := by
  cases phase with
  | listing =>
    cases outcome with
    | listed page =>
      dsimp only [resume] at resumed
      split at resumed <;> cases resumed
      · exact runs_finish cursor evidence
      · exact runs_visit evidence
    | failed =>
      cases resumed
      exact fun place found => by simpa using evidence.settled place found
    | _ => cases resumed
  | reading v =>
    cases outcome with
    | got stored =>
      have read : Tidy poll (.did poll (.got v.place v.candidate.sessionId stored) :: log) none
          v.place := evidence.cons (by simp) (by simp)
      dsimp only [resume] at resumed
      split at resumed
      · cases resumed
        exact ⟨trivial, runs_finish cursor read⟩
      split at resumed
      next gone =>
        cases resumed
        refine ⟨trivial, ⟨stored, gone, by simp⟩, read.cons (by simp) (by simp)⟩
      · obtain ⟨record, -, rfl⟩ := Option.map_eq_some_iff.mp resumed
        exact ⟨trivial, trivial, read.cons (by simp) (by simp)⟩
    | failed =>
      cases resumed
      exact runs_visit (evidence.weaken (by omega))
    | _ => cases resumed
  | acknowledging v =>
    cases outcome with
    | done | failed =>
      cases resumed
      exact runs_visit (evidence.weaken (by omega))
    | _ => cases resumed
  | checkingTransport v agentId =>
    cases outcome with
    | transport found nowMs =>
      have asked : Tidy poll
          (.did poll (.transport v.place v.candidate.sessionId found nowMs) :: log) none v.place :=
        evidence.cons (by simp) (by simp)
      dsimp only [resume] at resumed
      split at resumed
      · cases resumed
        exact ⟨trivial, runs_finish cursor asked⟩
      split at resumed
      · cases resumed
        exact ⟨trivial, trivial, asked.cons (by simp) (by simp)⟩
      · cases resumed
        exact runs_cons_visit trivial (asked.weaken (by omega))
    | failed =>
      cases resumed
      exact runs_visit (evidence.weaken (by omega))
    | _ => cases resumed
  | resolvingAgent v =>
    cases outcome with
    | agent found =>
      dsimp only [resume] at resumed
      split at resumed
      · cases resumed
        exact runs_finish cursor evidence
      next running =>
        split at resumed
        · cases resumed
          exact ⟨awake (by simpa using running), evidence.cons (by simp) (by simp)⟩
        · cases resumed
          exact runs_visit (evidence.weaken (by omega))
    | failed =>
      cases resumed
      exact runs_visit (evidence.weaken (by omega))
    | _ => cases resumed
  | attaching v =>
    cases outcome with
    | attached lease =>
      have inHand : Tidy poll (.did poll (.attached v.place) :: log) (some v.place) v.place := by
        refine ⟨fun place found => ?_, fun place sessionId found => ?_⟩
        · obtain same | before := List.mem_cons.mp found
          · cases same
            exact .inl rfl
          · exact .inr ((evidence.settled place before).resolve_left nofun).cons
        · exact evidence.fresh place sessionId (by simpa using found)
      dsimp only [resume] at resumed
      split at resumed
      · cases resumed
        refine ⟨trivial, fun sessionId found => ?_, ?_⟩
        · -- it was never activated
          have below := inHand.fresh v.place sessionId found
          omega
        · have detached : Settled poll v.place
              (.did poll (.detach v.place) :: .did poll (.attached v.place) :: log) :=
            .inl (by simp)
          exact ((inHand.weaken (by omega)).cons (by simp) (by simp)).settle detached
      next running =>
        cases resumed
        refine ⟨trivial, ?_, ⟨fun place found => ?_, fun place sessionId found => ?_⟩⟩
        · rw [HandsOver, stoppedSince_cons (by simp)]
          exact awake (by simpa using running)
        · exact (inHand.settled place (by simpa using found)).imp_right .cons
        · obtain same | before := List.mem_cons.mp found
          · cases same
            omega
          · have below := inHand.fresh place sessionId before
            omega
    | failed =>
      cases resumed
      exact runs_visit (evidence.weaken (by omega))
    | _ => cases resumed
  | activating v =>
    cases outcome with
    | done =>
      have activated : Tidy poll (.did poll (.activated v.place) :: log) (some v.place)
          (v.place + 1) := evidence.cons (by simp) (by simp)
      dsimp only [resume] at resumed
      split at resumed
      · cases resumed
        obtain ⟨actions, phase⟩ := rollBack_cons hasDeactivate cursor
          (.activated v.place) v false
        rw [actions, phase]
        exact ⟨trivial, runs_rollBack activated⟩
      next running =>
        cases resumed
        refine runs_cons_visit trivial (activated.settle (.inr ⟨log, List.suffix_refl _, ?_⟩))
        exact awake (by simpa using running)
    | failed =>
      cases resumed
      exact runs_rollBack evidence
    | _ => cases resumed
  | deactivating v failed =>
    obtain ⟨tidy, sessionId, deactivated⟩ := evidence
    have detached : Settled poll v.place (.did poll (.detach v.place) :: log) := .inl (by simp)
    cases outcome with
    | done | failed =>
      cases resumed
      exact ⟨fun _ _ _ => ⟨sessionId, deactivated⟩,
        (tidy.cons (by simp) (by simp)).settle detached⟩
    | _ => cases resumed
  | detaching v failed =>
    cases outcome with
    | done | failed =>
      cases resumed
      split
      · exact runs_visit evidence
      · exact runs_finish cursor evidence
    | _ => cases resumed

theorem certified (hasDeactivate : Bool) :
    Certified (program hasDeactivate : PollProgram (CoordinatorPhase J) _ _)
      (HandsOver hasDeactivate) Evidence where
  idle _ := ⟨trivial, trivial⟩
  alone _ _ ended := ended
  stable poll log phase entry mark evidence := by
    have kept : ∀ inHand bound, Tidy poll log inHand bound →
        Tidy poll (entry :: log) inHand bound := by
      obtain rfl | rfl := mark <;>
        exact fun inHand bound tidy => tidy.cons (by simp) (by simp)
    cases phase with
    | deactivating v failed =>
      obtain ⟨tidy, sessionId, deactivated⟩ := evidence
      exact ⟨kept _ _ tidy, sessionId, List.mem_cons_of_mem _ deactivated⟩
    | _ => exact kept _ _ evidence
  begin cursor nowMs poll log unused :=
    ⟨trivial, fun place found => by simp_all, fun place sessionId found => by simp_all⟩
  resume _ _ _ _ _ _ _ resumed evidence awake := resume_runs resumed evidence awake

end SessionRecoveryCoordinator

namespace SessionReaper

/-- What an entry of the reaper's log says of those before it. -/
def Reaps (recoveryGraceMs : Int) (older : List (WorkerEntry (RecoveryAction J))) :
    WorkerEntry (RecoveryAction J) → Prop
  | .pollBegan _ => ∀ other, .pollBegan other ∈ older → .pollEnded other ∈ older
  | .did poll (.attachSession _ _) | .did poll (.activate _ _) => ¬ StoppedSince poll older
  | .did poll (.endSession place sessionId) => ¬ StoppedSince poll older ∧
    ∃ stored nowMs, .did poll (.got place sessionId (some stored)) ∈ older ∧
      .did poll (.transport place sessionId false nowMs) ∈ older ∧
        recoveryGraceMs ≤ nowMs - lastActivity stored
  | .did poll (.acknowledgeRecoveryCandidate place candidate) =>
    (∃ stored, recoveryOver stored = true ∧
      .did poll (.got place candidate.sessionId stored) ∈ older) ∨
        .did poll (.sessionEnded place candidate.sessionId) ∈ older
  | _ => True

variable {recoveryGraceMs : Int} {poll : Nat} {log : List (WorkerEntry (RecoveryAction J))}

/-- The candidate's session has neither a transport nor any recent activity. -/
def Expired (recoveryGraceMs : Int) (poll : Nat) (log : List (WorkerEntry (RecoveryAction J)))
    (v : RecoveryVisit) : Prop :=
  ∃ stored nowMs, .did poll (.got v.place v.candidate.sessionId (some stored)) ∈ log ∧
    .did poll (.transport v.place v.candidate.sessionId false nowMs) ∈ log ∧
      recoveryGraceMs ≤ nowMs - lastActivity stored

def Evidence (recoveryGraceMs : Int) (poll : Nat) (log : List (WorkerEntry (RecoveryAction J))) :
    ReaperPhase J → Prop
  | .checkingTransport v stored =>
    .did poll (.got v.place v.candidate.sessionId (some stored)) ∈ log
  | .resolvingAgent v | .attaching v => Expired recoveryGraceMs poll log v
  | _ => True

theorem Expired.cons {v : RecoveryVisit} {entry : WorkerEntry (RecoveryAction J)}
    (expired : Expired recoveryGraceMs poll log v) :
    Expired recoveryGraceMs poll (entry :: log) v := by
  obtain ⟨stored, nowMs, got, transport, old⟩ := expired
  exact ⟨stored, nowMs, List.mem_cons_of_mem _ got, List.mem_cons_of_mem _ transport, old⟩

theorem runs_finish (cursor : Option String) (actions : List (RecoveryAction J)) (reaped : Nat)
    (harmless : ∀ action ∈ actions, ∀ log, Reaps recoveryGraceMs log (.did poll action)) :
    Runs (Reaps recoveryGraceMs) (Evidence recoveryGraceMs) poll
      (finish cursor actions reaped : Turn J).actions
      (finish cursor actions reaped : Turn J).phase log := by
  induction actions generalizing log with
  | nil => exact ⟨trivial, trivial⟩
  | cons action rest ih =>
    exact ⟨harmless action List.mem_cons_self log,
      ih fun other member => harmless other (List.mem_cons_of_mem _ member)⟩

theorem runs_visit (stopped : Bool) (cursor : Option String) (actions : List (RecoveryAction J))
    (place : Nat) (candidates : List SessionRecoveryCandidate) (total reaped : Nat)
    (harmless : ∀ action ∈ actions, ∀ log, Reaps recoveryGraceMs log (.did poll action)) :
    Runs (Reaps recoveryGraceMs) (Evidence recoveryGraceMs) poll
      (visit stopped cursor actions place candidates total reaped : Turn J).actions
      (visit stopped cursor actions place candidates total reaped : Turn J).phase log := by
  unfold visit
  split
  · exact runs_finish cursor actions reaped harmless
  split
  · exact runs_finish cursor actions reaped harmless
  · induction actions generalizing log with
    | nil => exact ⟨trivial, trivial⟩
    | cons action rest ih =>
      exact ⟨harmless action List.mem_cons_self log,
        ih fun other member => harmless other (List.mem_cons_of_mem _ member)⟩

theorem resume_runs {stopped : Bool} {cursor : Option String} {phase : ReaperPhase J}
    {outcome : RecoveryOutcome J} {turn : Turn J}
    (resumed : resume recoveryGraceMs stopped cursor phase outcome = some turn)
    (evidence : Evidence recoveryGraceMs poll log phase)
    (awake : stopped = false → ¬ StoppedSince poll log) :
    Runs (Reaps recoveryGraceMs) (Evidence recoveryGraceMs) poll turn.actions turn.phase log := by
  have none_ : ∀ action ∈ ([] : List (RecoveryAction J)), ∀ log,
      Reaps recoveryGraceMs log (.did poll action) := by simp
  cases phase with
  | listing =>
    cases outcome with
    | listed page =>
      dsimp only [resume] at resumed
      split at resumed <;> cases resumed
      · exact runs_finish _ _ _ none_
      · exact runs_visit _ _ _ _ _ _ _ none_
    | failed =>
      cases resumed
      trivial
    | _ => cases resumed
  | reading v =>
    cases outcome with
    | got stored =>
      dsimp only [resume] at resumed
      split at resumed
      · cases resumed
        exact runs_finish _ _ _ (by simp [Reaps])
      split at resumed
      next gone =>
        cases resumed
        exact ⟨trivial, .inl ⟨stored, gone, by simp⟩, trivial⟩
      · obtain ⟨record, rfl, rfl⟩ := Option.map_eq_some_iff.mp resumed
        exact ⟨trivial, trivial, List.mem_cons_of_mem _ List.mem_cons_self⟩
    | failed =>
      cases resumed
      exact runs_visit _ _ _ _ _ _ _ none_
    | _ => cases resumed
  | acknowledging v =>
    cases outcome with
    | done | failed =>
      cases resumed
      exact runs_visit _ _ _ _ _ _ _ none_
    | _ => cases resumed
  | checkingTransport v stored =>
    cases outcome with
    | transport found nowMs =>
      have asked : ∀ action ∈ [RecoveryAction.transport v.place v.candidate.sessionId found nowMs],
          ∀ log, Reaps (J := J) recoveryGraceMs log (.did poll action) := by simp [Reaps]
      dsimp only [resume] at resumed
      split at resumed
      · cases resumed
        exact runs_finish _ _ _ asked
      split at resumed
      · cases resumed
        exact runs_visit _ _ _ _ _ _ _ asked
      split at resumed
      · cases resumed
        exact runs_visit _ _ _ _ _ _ _ asked
      next none_ recent =>
        cases resumed
        -- the one way to go on: no transport, and no activity for the grace period
        have absent : found = false := by simpa using none_
        subst absent
        refine ⟨trivial, trivial, stored, nowMs, ?_, ?_, by omega⟩
        · exact List.mem_cons_of_mem _ (List.mem_cons_of_mem _ evidence)
        · simp
    | failed =>
      cases resumed
      exact runs_visit _ _ _ _ _ _ _ none_
    | _ => cases resumed
  | resolvingAgent v =>
    cases outcome with
    | agent found =>
      dsimp only [resume] at resumed
      split at resumed
      · cases resumed
        exact runs_finish _ _ _ none_
      next running =>
        split at resumed
        · cases resumed
          exact ⟨awake (by simpa using running), evidence.cons⟩
        · cases resumed
          exact runs_visit _ _ _ _ _ _ _ none_
    | failed =>
      cases resumed
      exact runs_visit _ _ _ _ _ _ _ none_
    | _ => cases resumed
  | attaching v =>
    cases outcome with
    | attached lease =>
      dsimp only [resume] at resumed
      split at resumed
      · cases resumed
        exact ⟨trivial, trivial, trivial⟩
      next running =>
        cases resumed
        refine ⟨trivial, ⟨?_, evidence.cons⟩, trivial⟩
        rw [stoppedSince_cons (by simp)]
        exact awake (by simpa using running)
    | failed =>
      cases resumed
      exact runs_visit _ _ _ _ _ _ _ none_
    | _ => cases resumed
  | ending v lease =>
    cases outcome with
    | done =>
      cases resumed
      exact ⟨trivial, .inr (by simp), trivial⟩
    | failed =>
      cases resumed
      exact ⟨trivial, trivial⟩
    | _ => cases resumed
  | retiring v =>
    cases outcome with
    | done =>
      cases resumed
      exact runs_visit _ _ _ _ _ _ _ none_
    | failed =>
      cases resumed
      exact ⟨trivial, trivial⟩
    | _ => cases resumed
  | detaching v failed =>
    cases outcome with
    | done | failed =>
      cases resumed
      split
      · exact runs_visit _ _ _ _ _ _ _ none_
      · exact runs_finish _ _ _ none_
    | _ => cases resumed

theorem certified (recoveryGraceMs : Int) :
    Certified (program recoveryGraceMs : PollProgram (ReaperPhase J) _ _)
      (Reaps recoveryGraceMs) (Evidence recoveryGraceMs) where
  idle _ := ⟨trivial, trivial⟩
  alone _ _ ended := ended
  stable poll log phase entry mark evidence := by
    cases phase with
    | checkingTransport v stored => exact List.mem_cons_of_mem _ evidence
    | resolvingAgent v | attaching v => exact evidence.cons
    | _ => trivial
  begin _ _ _ _ _ := ⟨trivial, trivial⟩
  resume _ _ _ _ _ _ _ resumed evidence awake := resume_runs resumed evidence awake

end SessionReaper

/-- Started again only when no poll is left, the workers hand sessions over: what every entry of
their logs owes to those before it. -/
theorem recovery_hands_over (hasDeactivate : Bool) (recoveryGraceMs : Int)
    (coordinator reaper : List (WorkerEvent (RecoveryOutcome J)))
    (coordinatorDrained : Drained (SessionRecoveryCoordinator.program hasDeactivate) coordinator)
    (reaperDrained : Drained (SessionReaper.program recoveryGraceMs) reaper) :
    Each (SessionRecoveryCoordinator.HandsOver hasDeactivate)
        (after (SessionRecoveryCoordinator.program hasDeactivate) coordinator).log ∧
      Each (SessionReaper.Reaps recoveryGraceMs)
        (after (SessionReaper.program recoveryGraceMs) reaper).log :=
  ⟨(SessionRecoveryCoordinator.certified hasDeactivate).each coordinator coordinatorDrained,
    (SessionReaper.certified recoveryGraceMs).each reaper reaperDrained⟩

/-- An active session that was last active at 0. -/
def recoverableSession : StoredSessionRecord Unit where
  session := ⟨"session", "agent", .phone, none, [], none, 0, ⟨(), none, [], 0⟩, .active .active 0⟩
  runtime := ⟨0, some 0, none, none⟩
  version := some 1

/-- A coordinator stopped while its activator is at work, and a reaper that ends a session. -/
theorem recovery_hands_over_stopped :
    Each (SessionRecoveryCoordinator.HandsOver true)
        (after (SessionRecoveryCoordinator.program (J := Unit) true)
          [.start, .tick 0, .settle 0 (.listed ⟨[⟨"session", 1, "g"⟩], none⟩),
            .settle 0 (.got (some recoverableSession)), .settle 0 (.transport true 5),
            .settle 0 (.agent true), .settle 0 (.attached none), .stop, .settle 0 .done,
            .settle 0 .done, .settle 0 .done]).log ∧
      Each (SessionReaper.Reaps 10)
        (after (SessionReaper.program (J := Unit) 10)
          [.pollOnce 0, .settle 0 (.listed ⟨[⟨"session", 1, "g"⟩], none⟩),
            .settle 0 (.got (some recoverableSession)), .settle 0 (.transport false 20),
            .settle 0 (.agent true), .settle 0 (.attached none), .settle 0 .done,
            .settle 0 .done]).log := by
  refine recovery_hands_over true 10 _ _ (fun before rest split stopped => ?_)
    fun before rest split stopped => ?_
  · have first : before = [] := by
      simp [List.cons_eq_append_iff] at split
      grind -ring -linarith -order
    subst first
    cases stopped
  · simp [List.cons_eq_append_iff] at split

/-- A poll that was stopped goes on to attach a session once `start` is called again. -/
theorem startedOverStoppedPoll_attaches :
    ¬ ∀ (hasDeactivate : Bool) (events : List (WorkerEvent (RecoveryOutcome Unit))),
      Each (SessionRecoveryCoordinator.HandsOver hasDeactivate)
        (after (SessionRecoveryCoordinator.program hasDeactivate) events).log := by
  intro claimed
  have each := claimed true
    [.pollOnce 0, .settle 0 (.listed ⟨[⟨"session", 1, "g"⟩], none⟩),
      .settle 0 (.got (some recoverableSession)), .stop, .start, .settle 0 (.transport true 5),
      .settle 0 (.agent true)]
  refine each (.did 0 (.attachSession 0 "session")) _ (List.suffix_refl _) ?_
  refine ⟨[.did 0 (.hasReconnectableTransport 0 "session"),
    .did 0 (.got 0 "session" (some recoverableSession)), .did 0 (.get 0 "session"),
    .did 0 (.listRecoveryCandidates none 0), .pollBegan 0], ?_, by simp⟩
  exact ⟨[.did 0 (.resolveAgent 0 "agent"), .did 0 (.transport 0 "session" true 5), .start], rfl⟩

end Tvic
