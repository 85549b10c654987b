import Tvic.Dal.RetentionJob

/-!
# What the runs of the retention job delete

A run does the candidates before the first whose hooks throw (`runOnce_eq`). While there is none, the sessions
to delete all lie after the cursor, and every run brings a page of them behind it. Where one comes first, it
and what lies after it stay for good.
-/
namespace Tvic

open Lib
open RetentionSession (position)

variable {Id : Type} [LinearOrder Id] (hooks : RetentionHooks Id)

/-- The sessions that are to be deleted come before those whose hooks throw. -/
def NothingBehind (sessions : List (RetentionSession Id)) : Prop :=
  ∀ bad ∈ sessions, hooks.Throws bad.sessionId →
    ∀ good ∈ sessions, hooks.Deletes good.sessionId → good.position < bad.position

instance (sessions : List (RetentionSession Id)) : Decidable (NothingBehind hooks sessions) :=
  inferInstanceAs (Decidable (∀ bad ∈ sessions, _ → ∀ good ∈ sessions, _ → _))

/-- The runs that are enough: for each session whose hooks throw, for each page, and two more. -/
def enoughRuns (sessions : List (RetentionSession Id)) : Nat :=
  (sessions.countP fun row => hooks.Throws row.sessionId) +
    (sessions.length + (retentionBatchSize - 1)) / retentionBatchSize + 2

namespace RetentionJob

structure Drained (sessions : List (RetentionSession Id)) (s : RetentionJob Id) : Prop where
  deleted : ∀ row ∈ sessions, hooks.Deletes row.sessionId → row ∉ s.sessions
  kept : ∀ row ∈ sessions, hooks.hasLegalHold row.sessionId = some true → row ∈ s.sessions
  answered : s.Answered

variable {hooks} {endedUpTo : Int} {s : RetentionJob Id} {sessions : List (RetentionSession Id)}

/-- What every run keeps: no session is added, and only those to be deleted go. -/
structure Inv (hooks : RetentionHooks Id) (sessions : List (RetentionSession Id)) (s : RetentionJob Id) :
    Prop where
  part : s.sessions.Sublist sessions
  kept : ∀ row ∈ sessions, ¬ hooks.Deletes row.sessionId → row ∈ s.sessions
  answered : s.Answered

theorem Inv.step (idsNodup : (sessions.map (·.sessionId)).Nodup) (inv : Inv hooks sessions s) :
    Inv hooks sessions (runOnce hooks s endedUpTo) := by
  obtain ⟨done, rest, -, -, -, remaining, -, answered⟩ :=
    @runOnce_eq _ _ hooks endedUpTo s (idsNodup.sublist (inv.part.map _))
  constructor
  · rw [remaining]
    exact List.filter_sublist.trans inv.part
  · intro row member kept
    rw [remaining, mem_without]
    exact ⟨inv.kept row member kept, fun _ => kept⟩
  · exact answered inv.answered

/-! ## Where nothing comes after a session whose hooks throw -/

/-- After so many runs all that is to be deleted is, or it lies after the cursor and that many pages
are behind. -/
def Progress (hooks : RetentionHooks Id) (sessions : List (RetentionSession Id)) (runs : Nat)
    (s : RetentionJob Id) : Prop :=
  (∀ row ∈ s.sessions, ¬ hooks.Deletes row.sessionId) ∨
    (∀ row ∈ s.sessions, hooks.Deletes row.sessionId → AfterCursor s.sessionCursor row) ∧
      (s.sessions.filter (AfterCursor s.sessionCursor ·)).length + retentionBatchSize * runs ≤ sessions.length

theorem backlog_after_candidates (idsNodup : (s.sessions.map (·.sessionId)).Nodup) :
    ∀ row ∈ s.candidates endedUpTo, ∀ later ∈ (s.backlog endedUpTo).drop retentionBatchSize,
      row.position < later.position := by
  have inOrder := @backlog_inOrder _ _ endedUpTo _ idsNodup
  rw [InOrder, ← List.take_append_drop retentionBatchSize (s.backlog endedUpTo), List.pairwise_append] at inOrder
  exact inOrder.2.2

theorem mem_backlog_parts {row : RetentionSession Id} :
    row ∈ s.backlog endedUpTo ↔
      row ∈ s.candidates endedUpTo ∨ row ∈ (s.backlog endedUpTo).drop retentionBatchSize := by
  conv_lhs => rw [← List.take_append_drop retentionBatchSize (s.backlog endedUpTo)]
  exact List.mem_append

theorem Progress.step {runs : Nat} (idsNodup : (sessions.map (·.sessionId)).Nodup)
    (retired : ∀ row ∈ sessions, row.Retired endedUpTo) (inv : Inv hooks sessions s)
    (nothingBehind : NothingBehind hooks sessions) (progress : Progress hooks sessions runs s) :
    Progress hooks sessions (runs + 1) (runOnce hooks s endedUpTo) := by
  have nodup : (s.sessions.map (·.sessionId)).Nodup := idsNodup.sublist (inv.part.map _)
  obtain ⟨done, rest, parts, calm, stop, remaining, cursor, -⟩ := @runOnce_eq _ _ hooks endedUpTo s nodup
  have shrinks : ∀ row ∈ (runOnce hooks s endedUpTo).sessions, row ∈ s.sessions := by
    intro row member
    rw [remaining] at member
    exact (mem_without.mp member).1
  rcases progress with beyond | ⟨ahead, behind⟩
  · exact .inl fun row member => beyond row (shrinks row member)
  -- all that is to be deleted is in the backlog
  have listed : ∀ row ∈ s.sessions, hooks.Deletes row.sessionId → row ∈ s.backlog endedUpTo :=
    fun row member deletes =>
      mem_backlog.mpr ⟨member, retired row (inv.part.subset member), ahead row member deletes⟩
  cases rest with
  | cons bad later =>
    -- the run ends at `bad`, and what is to be deleted lies before it
    left
    intro row member deletes
    have throws : hooks.Throws bad.sessionId := stop bad rfl
    have bad_listed : bad ∈ s.candidates endedUpTo := by simp [parts]
    have bad_there : bad ∈ s.backlog endedUpTo := mem_backlog_parts.mpr (.inl bad_listed)
    have before : row.position < bad.position :=
      nothingBehind bad (inv.part.subset (mem_backlog.mp bad_there).1) throws row
        (inv.part.subset (shrinks row member)) deletes
    have on_page : row ∈ s.candidates endedUpTo := by
      rcases mem_backlog_parts.mp (listed row (shrinks row member) deletes) with on_page | after
      · exact on_page
      · exact absurd (backlog_after_candidates nodup bad bad_listed row after) before.not_gt
    have among : row ∈ done := by
      have inOrder : InOrder position (done ++ bad :: later) :=
        parts ▸ (backlog_inOrder nodup).sublist (List.take_sublist _ _)
      rw [parts, List.mem_append] at on_page
      rcases on_page with among | after
      · exact among
      · rcases List.mem_cons.mp after with rfl | after
        · exact absurd before (lt_irrefl _)
        · have inOrder := (List.pairwise_append.mp inOrder).2.1
          exact absurd (List.rel_of_pairwise_cons inOrder after) before.not_gt
    rw [remaining] at member
    exact (mem_without.mp member).2 among deletes
  | nil =>
    rw [List.append_nil] at parts
    by_cases full : (s.candidates endedUpTo).length < retentionBatchSize
    · -- the page is all there is
      left
      intro row member deletes
      have all : (s.backlog endedUpTo).drop retentionBatchSize = [] := by
        apply List.drop_eq_nil_of_le
        rw [candidates, List.length_take] at full
        omega
      have on_page : row ∈ done := by
        have split := mem_backlog_parts.mp (listed row (shrinks row member) deletes)
        rw [all, parts] at split
        exact split.resolve_right (by simp)
      rw [remaining] at member
      exact (mem_without.mp member).2 on_page deletes
    · right
      have nonempty : done ≠ [] := by
        rintro rfl
        rw [parts] at full
        exact full (by simp [retentionBatchSize])
      obtain ⟨last, ends⟩ : ∃ last, done.getLast? = some last :=
        ⟨_, List.getLast?_eq_some_getLast nonempty⟩
      rw [if_neg (by rw [parts]; exact nonempty), ends] at cursor
      have after_last : ∀ row, AfterCursor (runOnce hooks s endedUpTo).sessionCursor row ↔
          last.position < row.position := by
        intro row
        rw [cursor]
        simp [AfterCursor]
      have last_listed : last ∈ s.candidates endedUpTo := parts ▸ List.mem_of_getLast? ends
      have inOrder : InOrder position (s.candidates endedUpTo) :=
        (backlog_inOrder nodup).sublist (List.take_sublist _ _)
      constructor
      · intro row member deletes
        rw [after_last]
        rcases mem_backlog_parts.mp (listed row (shrinks row member) deletes) with on_page | after
        · rw [remaining] at member
          exact absurd deletes ((mem_without.mp member).2 (parts ▸ on_page))
        · exact backlog_after_candidates nodup last last_listed row after
      · -- what is after the new cursor was in the backlog, behind the page
        have subset : (runOnce hooks s endedUpTo).sessions.filter
              (AfterCursor (runOnce hooks s endedUpTo).sessionCursor ·) ⊆
            (s.backlog endedUpTo).drop retentionBatchSize := by
          intro row member
          obtain ⟨there, after⟩ := List.mem_filter.mp member
          have past : last.position < row.position := (after_last row).mp (of_decide_eq_true after)
          have ahead_of_cursor : AfterCursor s.sessionCursor row := fun reached is_cursor =>
            ((mem_backlog.mp (mem_backlog_parts.mpr (.inl last_listed))).2.2 reached is_cursor).trans past
          have backlogged : row ∈ s.backlog endedUpTo := mem_backlog.mpr
            ⟨shrinks row there, retired row (inv.part.subset (shrinks row there)), ahead_of_cursor⟩
          rcases mem_backlog_parts.mp backlogged with on_page | behind_page
          · exact absurd past (not_lt.mpr (inOrder.le_last (parts ▸ ends) on_page))
          · exact behind_page
        have unique : ((runOnce hooks s endedUpTo).sessions.filter
            (AfterCursor (runOnce hooks s endedUpTo).sessionCursor ·)).Nodup := by
          rw [remaining]
          exact ((List.Nodup.of_map _ nodup).filter _).filter _
        have fewer := (List.subperm_of_subset unique subset).length_le
        have counted : (s.backlog endedUpTo).length =
            (s.sessions.filter (AfterCursor s.sessionCursor ·)).length := by
          rw [backlog, List.length_mergeSort]
          congr 1
          apply List.filter_congr
          intro row member
          simp [retired row (inv.part.subset member)]
        rw [List.length_drop, counted] at fewer
        have page : retentionBatchSize ≤ (s.backlog endedUpTo).length := by
          rw [candidates, List.length_take] at full
          omega
        rw [Nat.mul_succ]
        omega

/-! ## Where something does -/

/-- A session whose hooks throw, and after it one that is to be deleted; the cursor is before both. -/
structure Blocked (hooks : RetentionHooks Id) (bad good : RetentionSession Id) (s : RetentionJob Id) :
    Prop where
  bad_there : bad ∈ s.sessions
  good_there : good ∈ s.sessions
  before : AfterCursor s.sessionCursor bad

theorem Blocked.step {bad good : RetentionSession Id} (nodup : (s.sessions.map (·.sessionId)).Nodup)
    (retired : bad.Retired endedUpTo) (throws : hooks.Throws bad.sessionId)
    (behind : bad.position ≤ good.position) (blocked : Blocked hooks bad good s) :
    Blocked hooks bad good (runOnce hooks s endedUpTo) := by
  obtain ⟨done, rest, parts, calm, stop, remaining, cursor, -⟩ := @runOnce_eq _ _ hooks endedUpTo s nodup
  have listed : bad ∈ s.backlog endedUpTo := mem_backlog.mpr ⟨blocked.bad_there, retired, blocked.before⟩
  have inOrder : InOrder position (done ++ rest) :=
    parts ▸ (backlog_inOrder nodup).sublist (List.take_sublist _ _)
  have all_before : ∀ row ∈ done, row.position < bad.position := by
    intro row member
    have on_page : row ∈ s.candidates endedUpTo := by simp [parts, member]
    rcases mem_backlog_parts.mp listed with bad_on_page | after
    · -- what is done goes only to the first whose hooks throw
      rw [parts, List.mem_append] at bad_on_page
      rcases bad_on_page with among | later
      · exact absurd throws (calm bad among)
      · exact (List.pairwise_append.mp inOrder).2.2 row member bad later
    · exact backlog_after_candidates nodup row on_page bad after
  have stays : ∀ row ∈ s.sessions, bad.position ≤ row.position →
      row ∈ (runOnce hooks s endedUpTo).sessions := by
    intro row member after
    rw [remaining, mem_without]
    exact ⟨member, fun among => absurd (all_before row among) after.not_gt⟩
  constructor
  · exact stays bad blocked.bad_there le_rfl
  · exact stays good blocked.good_there behind
  · rw [cursor]
    split
    · simp [AfterCursor]
    · intro reached is_cursor
      cases ends : done.getLast? with
      | none => exact blocked.before reached (by simpa [ends] using is_cursor)
      | some last =>
        obtain rfl : last.position = reached := by simpa [ends] using is_cursor
        exact all_before last (List.mem_of_getLast? ends)

/-! ## Runs -/

section Runs

variable {runs : List Int}

theorem Inv.run (idsNodup : (sessions.map (·.sessionId)).Nodup) :
    Inv hooks sessions (Lib.run (runOnce hooks) { sessions } runs) := by
  apply run_invariant (runOnce hooks) (Inv hooks sessions)
  · exact fun s endedUpTo inv => inv.step idsNodup
  · constructor
    · exact List.Sublist.refl sessions
    · exact fun row member _ => member
    · exact fun row purgeToken invoked => nomatch invoked

theorem Progress.run (retained : RetainedSessions runs sessions)
    (nothingBehind : NothingBehind hooks sessions) :
    Progress hooks sessions runs.length (Lib.run (runOnce hooks) { sessions } runs) := by
  induction runs using List.reverseRecOn with
  | nil =>
    right
    constructor
    · exact fun row member deletes reached is_cursor => nomatch is_cursor
    · exact List.length_filter_le _ _
  | append_singleton runs last ih =>
    have earlier : RetainedSessions runs sessions :=
      ⟨retained.idsNodup, fun endedUpTo member => retained.retired endedUpTo (by simp [member])⟩
    rw [run_snoc, List.length_append, List.length_singleton]
    exact Progress.step retained.idsNodup (retained.retired last (by simp)) (Inv.run retained.idsNodup)
      nothingBehind (ih earlier)

theorem Blocked.run {bad good : RetentionSession Id} (retained : RetainedSessions runs sessions)
    (bad_there : bad ∈ sessions) (throws : hooks.Throws bad.sessionId) (good_there : good ∈ sessions)
    (behind : bad.position ≤ good.position) :
    Blocked hooks bad good (Lib.run (runOnce hooks) { sessions } runs) := by
  induction runs using List.reverseRecOn with
  | nil => exact ⟨bad_there, good_there, fun reached is_cursor => nomatch is_cursor⟩
  | append_singleton runs last ih =>
    have earlier : RetainedSessions runs sessions :=
      ⟨retained.idsNodup, fun endedUpTo member => retained.retired endedUpTo (by simp [member])⟩
    have part := (@Inv.run _ _ hooks sessions runs retained.idsNodup).part
    rw [run_snoc]
    exact (ih earlier).step (retained.idsNodup.sublist (part.map _))
      (retained.retired last (by simp) bad bad_there) throws behind

/-- With enough runs, retention has done what it is for just when no session that is to be deleted comes
after one whose hooks throw. -/
theorem runOnce_drained (retained : RetainedSessions runs sessions)
    (enough : enoughRuns hooks sessions ≤ runs.length) :
    Drained hooks sessions (Lib.run (runOnce hooks) { sessions } runs) ↔ NothingBehind hooks sessions := by
  have inv := @Inv.run _ _ hooks sessions runs retained.idsNodup
  constructor
  · intro drained bad bad_there throws good good_there deletes
    by_contra not_before
    have blocked := @Blocked.run _ _ hooks _ runs bad good retained bad_there throws good_there
      (not_lt.mp not_before)
    exact drained.deleted good good_there deletes blocked.good_there
  · intro nothingBehind
    have none_left : ∀ row ∈ (Lib.run (runOnce hooks) { sessions } runs).sessions,
        ¬ hooks.Deletes row.sessionId := by
      rcases Progress.run retained nothingBehind with beyond | ⟨ahead, behind⟩
      · exact beyond
      · intro row member deletes
        have after : row ∈ (Lib.run (runOnce hooks) { sessions } runs).sessions.filter
            (AfterCursor (Lib.run (runOnce hooks) { sessions } runs).sessionCursor ·) :=
          List.mem_filter.mpr ⟨member, decide_eq_true (ahead row member deletes)⟩
        have some_left := List.length_pos_of_mem after
        -- the pages of the runs are all that there was
        unfold enoughRuns at enough
        simp only [retentionBatchSize] at enough behind
        omega
    constructor
    · exact fun row member deletes there => none_left row there deletes
    · intro row member held
      exact inv.kept row member (by simp [RetentionHooks.Deletes, held])
    · exact inv.answered

def completedAt (sessionId : Nat) (endedAt : Int) : RetentionSession Nat :=
  { sessionId, incarnation := 1, version := 4, fence := 2, status := .completed, endedAt, outboxEvents := 0 }

/-- Of three sessions the first is deleted, the second is held, and the hook of the third throws. -/
theorem runOnce_drained_three :
    let hooks : RetentionHooks Nat :=
      { hasLegalHold := fun id => some (id == 8), beforeSessionDelete := fun id => id != 9 }
    let sessions := [completedAt 9 30, completedAt 7 10, completedAt 8 20]
    Drained hooks sessions (Lib.run (runOnce hooks) { sessions } [50, 60, 70, 80]) := by
  intro hooks sessions
  refine (runOnce_drained ⟨by decide, by decide⟩ (by decide)).mpr ?_
  decide

/-- The archive of the session that ended first throws, and the other one is never deleted. -/
theorem runOnce_blocked :
    let hooks : RetentionHooks Nat := { hasLegalHold := fun _ => some false, archive := fun id => id != 7 }
    let sessions := [completedAt 7 10, completedAt 8 20]
    RetainedSessions [50, 60, 70, 80] sessions ∧ enoughRuns hooks sessions = 4 ∧
      hooks.Deletes 8 ∧
      ¬ Drained hooks sessions (Lib.run (runOnce hooks) { sessions } [50, 60, 70, 80]) := by
  intro hooks sessions
  have retained : RetainedSessions [50, 60, 70, 80] sessions := ⟨by decide, by decide⟩
  refine ⟨retained, by decide, by decide, fun drained => ?_⟩
  have blocked : Blocked hooks (completedAt 7 10) (completedAt 8 20)
      (Lib.run (runOnce hooks) { sessions } [50, 60, 70, 80]) :=
    Blocked.run retained (by decide) (by decide) (by decide) (by decide)
  exact drained.deleted (completedAt 8 20) (by decide) (by decide) blocked.good_there

end Runs

end RetentionJob

end Tvic
