import Mathlib.Data.Prod.Lex
import Tvic.Lib.Paging
import Tvic.Lib.Run

/-!
# The retention job

`PostgresRetentionJob` of `packages/dal-postgres/src/maintenance.ts`, as far as it deletes sessions. The hooks
answer by the session id, and a hook may throw. The clock of the database is read as the moment up to which a
session must have ended for a run to delete it.

The cursor of the job moves over a session when its attempt returns, and an attempt that throws ends the run.
So a session whose hooks throw is the first that every later run meets: what comes after it is never deleted.
-/
namespace Tvic

open Lib

/-- The `status` column of `tvic_sessions`. -/
inductive SessionRowStatus where
  | created | starting | active | interrupted | waitingForTool | ending
  | completed | failed | cancelled
  deriving DecidableEq, Repr

/-- A row of `tvic_sessions`. -/
structure RetentionSession (Id : Type) where
  sessionId : Id
  incarnation : Nat
  version : Nat
  fence : Nat
  status : SessionRowStatus
  /-- In microseconds. A session that is not over is never read for it. -/
  endedAt : Int
  /-- The rows of `tvic_outbox` that reference the session. -/
  outboxEvents : Nat
  deriving DecidableEq

/-- What the hooks of the options do with a session. A hook that is absent returns. -/
structure RetentionHooks (Id : Type) where
  /-- `none` where it throws. -/
  hasLegalHold : Id → Option Bool
  /-- `false` where it throws. -/
  archive : Id → Bool := fun _ => true
  /-- `false` where it throws. -/
  beforeSessionDelete : Id → Bool := fun _ => true

inductive RetentionEvent (Id : Type) where
  | beforeSessionDelete (candidate : RetentionSession Id) (purgeToken : Nat)
  | afterSessionDeleteFailure (candidate : RetentionSession Id) (purgeToken : Nat)
  | deleted (candidate : RetentionSession Id) (purgeToken : Nat)
  deriving DecidableEq

def retentionBatchSize : Nat := 100

variable {Id : Type} [LinearOrder Id]

namespace RetentionSession

def position (row : RetentionSession Id) : ℤ ×ₗ Id := toLex (row.endedAt, row.sessionId)

/-- The conditions on a session that is deleted, with the moment up to which it must have ended. -/
def Retired (endedUpTo : Int) (row : RetentionSession Id) : Prop :=
  row.status ∈ [.completed, .failed, .cancelled] ∧ row.endedAt ≤ endedUpTo ∧ row.outboxEvents = 0

instance (endedUpTo : Int) (row : RetentionSession Id) : Decidable (row.Retired endedUpTo) :=
  inferInstanceAs (Decidable (_ ∧ _ ∧ _))

/-- `WHERE id = $1 AND incarnation = $2` and the conditions. -/
def Matches (endedUpTo : Int) (row other : RetentionSession Id) : Prop :=
  other.sessionId = row.sessionId ∧ other.incarnation = row.incarnation ∧ other.Retired endedUpTo

instance (endedUpTo : Int) (row other : RetentionSession Id) : Decidable (row.Matches endedUpTo other) :=
  inferInstanceAs (Decidable (_ ∧ _ ∧ _))

end RetentionSession

open RetentionSession (position)

/-- The job, with the sessions of its database and what has come of its attempts. -/
structure RetentionJob (Id : Type) where
  sessionCursor : Option (ℤ ×ₗ Id) := none
  sessions : List (RetentionSession Id)
  log : List (RetentionEvent Id) := []
  /-- The attempts so far; `randomUUID` gives each its own purge token. -/
  attempts : Nat := 0

namespace RetentionJob

variable (hooks : RetentionHooks Id) (endedUpTo : Int)

def AfterCursor (cursor : Option (ℤ ×ₗ Id)) (row : RetentionSession Id) : Prop :=
  ∀ reached ∈ cursor, reached < row.position

instance (cursor : Option (ℤ ×ₗ Id)) : DecidablePred (@AfterCursor Id _ cursor) := fun row =>
  match cursor with
  | none => .isTrue (fun _ none => nomatch none)
  | some reached => decidable_of_iff (reached < row.position) (by simp [AfterCursor])

/-- The candidates of a run before its limit. -/
def backlog (s : RetentionJob Id) : List (RetentionSession Id) :=
  (s.sessions.filter fun row => row.Retired endedUpTo ∧ AfterCursor s.sessionCursor row).mergeSort
    fun row other => row.position ≤ other.position

def candidates (s : RetentionJob Id) : List (RetentionSession Id) :=
  (s.backlog endedUpTo).take retentionBatchSize

def record (s : RetentionJob Id) (event : RetentionEvent Id) : RetentionJob Id :=
  { s with log := s.log ++ [event] }

omit [LinearOrder Id] in
@[simp] theorem record_sessions (s : RetentionJob Id) (event : RetentionEvent Id) :
    (s.record event).sessions = s.sessions := rfl

/-- One candidate. An attempt that throws keeps what it has recorded, and no change of the database. -/
def attempt (row : RetentionSession Id) (s : RetentionJob Id) : Except (RetentionJob Id) (RetentionJob Id) :=
  let purgeToken := s.attempts
  let s := { s with attempts := s.attempts + 1 }
  match s.sessions.find? fun other => row.Matches endedUpTo other with
  | none => .ok s
  | some candidate =>
    match hooks.hasLegalHold candidate.sessionId with
    | none => .error s
    | some true => .ok s
    | some false =>
      if hooks.archive candidate.sessionId = false then .error s
      else
        let s := s.record (.beforeSessionDelete candidate purgeToken)
        if hooks.beforeSessionDelete candidate.sessionId = false then
          .error (s.record (.afterSessionDeleteFailure row purgeToken))
        else
          let deletes := fun other => candidate.Matches endedUpTo other
          if s.sessions.countP deletes = 0 then .ok (s.record (.afterSessionDeleteFailure row purgeToken))
          else
            .ok ({ s with sessions := s.sessions.filter (¬ deletes ·) }.record
              (.deleted candidate purgeToken))

def processRows : List (RetentionSession Id) → RetentionJob Id → Except (RetentionJob Id) (RetentionJob Id)
  | [], s => .ok s
  | row :: rest, s =>
    match attempt hooks endedUpTo row s with
    | .error thrown => .error thrown
    | .ok s => processRows rest { s with sessionCursor := some row.position }

def runOnce (s : RetentionJob Id) (endedUpTo : Int) : RetentionJob Id :=
  match processRows hooks endedUpTo (s.candidates endedUpTo) s with
  | .error thrown => thrown
  | .ok t => if (s.candidates endedUpTo).length = 0 then { t with sessionCursor := none } else t

end RetentionJob

/-! ## What a session comes to -/

namespace RetentionHooks

variable (hooks : RetentionHooks Id)

/-- The session is not held, and its hooks succeed. -/
def Deletes (id : Id) : Prop :=
  hooks.hasLegalHold id = some false ∧ hooks.archive id = true ∧ hooks.beforeSessionDelete id = true

/-- A hook that is called for the session throws. -/
def Throws (id : Id) : Prop :=
  hooks.hasLegalHold id = none ∨
    hooks.hasLegalHold id = some false ∧ (hooks.archive id = false ∨ hooks.beforeSessionDelete id = false)

instance (id : Id) : Decidable (hooks.Deletes id) := inferInstanceAs (Decidable (_ ∧ _ ∧ _))

instance (id : Id) : Decidable (hooks.Throws id) := inferInstanceAs (Decidable (_ ∨ _ ∧ _))

omit [LinearOrder Id] in
theorem Deletes.not_throws {hooks : RetentionHooks Id} {id : Id} (deletes : hooks.Deletes id) :
    ¬ hooks.Throws id := by
  obtain ⟨free, archived, purged⟩ := deletes
  simp [Throws, free, archived, purged]

end RetentionHooks

/-- The sessions of the database: each id once, and all of them retired whenever a run begins. -/
structure RetainedSessions (runs : List Int) (sessions : List (RetentionSession Id)) : Prop where
  idsNodup : (sessions.map (·.sessionId)).Nodup
  retired : ∀ endedUpTo ∈ runs, ∀ row ∈ sessions, row.Retired endedUpTo

/-- What is left of the sessions when those among `rows` that are to be deleted are. -/
def without (hooks : RetentionHooks Id) (rows sessions : List (RetentionSession Id)) :
    List (RetentionSession Id) :=
  sessions.filter fun other => ¬ (other ∈ rows ∧ hooks.Deletes other.sessionId)

theorem mem_without {hooks : RetentionHooks Id} {rows sessions : List (RetentionSession Id)}
    {row : RetentionSession Id} :
    row ∈ without hooks rows sessions ↔ row ∈ sessions ∧ (row ∈ rows → ¬ hooks.Deletes row.sessionId) := by
  simp only [without, List.mem_filter, decide_eq_true_eq, not_and]

theorem without_eq_self {hooks : RetentionHooks Id} {rows : List (RetentionSession Id)}
    (kept : ∀ row ∈ rows, ¬ hooks.Deletes row.sessionId) (sessions : List (RetentionSession Id)) :
    without hooks rows sessions = sessions := by
  apply List.filter_eq_self.mpr
  intro other member
  rw [decide_eq_true_eq]
  rintro ⟨listed, deletes⟩
  exact kept other listed deletes

theorem without_cons (hooks : RetentionHooks Id) (row : RetentionSession Id)
    (rest sessions : List (RetentionSession Id)) :
    without hooks rest (without hooks [row] sessions) = without hooks (row :: rest) sessions := by
  simp only [without, List.filter_filter]
  apply List.filter_congr
  intro other member
  by_cases deletes : hooks.Deletes other.sessionId
  · simp [deletes, Bool.and_comm]
  · simp [deletes]

namespace RetentionJob

variable {hooks : RetentionHooks Id} {endedUpTo : Int} {s : RetentionJob Id}

/-- The before-delete hook was invoked, then either the session was deleted or the failure hook was
invoked with the same token. -/
def Answered (s : RetentionJob Id) : Prop :=
  ∀ row purgeToken, .beforeSessionDelete row purgeToken ∈ s.log →
    .deleted row purgeToken ∈ s.log ∨ .afterSessionDeleteFailure row purgeToken ∈ s.log

omit [LinearOrder Id] in
theorem Answered.record_two (answered : s.Answered) (row : RetentionSession Id) (purgeToken : Nat)
    {answer : RetentionEvent Id}
    (answers : answer = .deleted row purgeToken ∨ answer = .afterSessionDeleteFailure row purgeToken) :
    ((s.record (.beforeSessionDelete row purgeToken)).record answer).Answered := by
  intro other token invoked
  simp only [record, List.mem_append, List.mem_singleton] at invoked ⊢
  rcases invoked with (earlier | now) | last
  · exact (answered other token earlier).imp (fun told => .inl (.inl told)) (fun told => .inl (.inl told))
  · obtain ⟨rfl, rfl⟩ := RetentionEvent.beforeSessionDelete.inj now
    exact answers.imp (fun is => .inr is.symm) (fun is => .inr is.symm)
  · rcases answers with rfl | rfl <;> cases last

theorem attempt_eq {row : RetentionSession Id} (idsNodup : (s.sessions.map (·.sessionId)).Nodup)
    (present : row ∈ s.sessions) (retired : row.Retired endedUpTo) :
    ∃ t : RetentionJob Id,
      attempt hooks endedUpTo row s = (if hooks.Throws row.sessionId then .error t else .ok t) ∧
      t.sessions = without hooks [row] s.sessions ∧ t.sessionCursor = s.sessionCursor ∧
      (s.Answered → t.Answered) := by
  have same : ∀ other ∈ s.sessions, other.sessionId = row.sessionId → other = row :=
    fun other member ids => List.inj_on_of_nodup_map idsNodup member present ids
  have found : (s.sessions.find? fun other => row.Matches endedUpTo other) = some row := by
    cases search : s.sessions.find? fun other => row.Matches endedUpTo other with
    | none =>
      have missed := List.find?_eq_none.mp search row present
      exact absurd (decide_eq_true (And.intro rfl (And.intro rfl retired))) missed
    | some other =>
      have hit : row.Matches endedUpTo other := by simpa using List.find?_some search
      rw [same other (List.mem_of_find?_eq_some search) hit.1]
  have keeps : ¬ hooks.Deletes row.sessionId → without hooks [row] s.sessions = s.sessions := by
    intro kept
    exact without_eq_self (by simpa using kept) s.sessions
  unfold attempt
  simp only [found]
  cases hold : hooks.hasLegalHold row.sessionId with
  | none =>
    have throws : hooks.Throws row.sessionId := .inl hold
    simp only [throws, ↓reduceIte, keeps (fun deletes => deletes.not_throws throws)]
    exact ⟨_, rfl, rfl, rfl, id⟩
  | some held =>
    cases held with
    | true =>
      have calm : ¬ hooks.Throws row.sessionId := by simp [RetentionHooks.Throws, hold]
      simp only [calm, ↓reduceIte, keeps (by simp [RetentionHooks.Deletes, hold])]
      exact ⟨_, rfl, rfl, rfl, id⟩
    | false =>
      cases archived : hooks.archive row.sessionId with
      | false =>
        have throws : hooks.Throws row.sessionId := .inr ⟨hold, .inl archived⟩
        simp only [throws, ↓reduceIte, keeps (fun deletes => deletes.not_throws throws)]
        exact ⟨_, rfl, rfl, rfl, id⟩
      | true =>
        cases purged : hooks.beforeSessionDelete row.sessionId with
        | false =>
          have throws : hooks.Throws row.sessionId := .inr ⟨hold, .inr purged⟩
          simp only [throws, ↓reduceIte, keeps (fun deletes => deletes.not_throws throws)]
          refine ⟨_, rfl, rfl, rfl, fun answered => ?_⟩
          have begun : RetentionJob.Answered { s with attempts := s.attempts + 1 } := answered
          exact begun.record_two row s.attempts (.inr rfl)
        | true =>
          have deletes : hooks.Deletes row.sessionId := ⟨hold, archived, purged⟩
          simp only [deletes.not_throws, ↓reduceIte]
          -- the row itself is among those that the statement deletes
          have some_deleted : (s.sessions.countP fun other => row.Matches endedUpTo other) ≠ 0 := by
            intro zero
            have missed := List.countP_eq_zero.mp zero row present
            exact absurd (decide_eq_true (And.intro rfl (And.intro rfl retired))) missed
          simp only [record_sessions, Bool.true_eq_false, ↓reduceIte, some_deleted]
          refine ⟨_, rfl, ?_, rfl, fun answered => ?_⟩
          · apply List.filter_congr
            intro other member
            by_cases is_row : other = row
            · subst is_row
              simp [RetentionSession.Matches, retired, deletes]
            · have distinct : other.sessionId ≠ row.sessionId := fun ids => is_row (same other member ids)
              simp [RetentionSession.Matches, distinct, is_row]
          · have begun : RetentionJob.Answered { s with
                attempts := s.attempts + 1
                sessions := s.sessions.filter (¬ row.Matches endedUpTo ·) } := answered
            exact begun.record_two row s.attempts (.inl rfl)

theorem backlog_inOrder (idsNodup : (s.sessions.map (·.sessionId)).Nodup) :
    InOrder position (s.backlog endedUpTo) := by
  have sorted : (s.backlog endedUpTo).Pairwise fun row other => decide (row.position ≤ other.position) := by
    apply List.pairwise_mergeSort
    · intro a b c first second
      simp only [decide_eq_true_eq] at first second ⊢
      exact first.trans second
    · intro a b
      simpa using le_total a.position b.position
  have distinct : (s.backlog endedUpTo).Pairwise fun row other => row.sessionId ≠ other.sessionId := by
    have filtered := (List.filter_sublist
      (p := fun row => row.Retired endedUpTo ∧ AfterCursor s.sessionCursor row) (l := s.sessions)).map
        (·.sessionId)
    have perm := (List.mergeSort_perm (s.sessions.filter fun row => row.Retired endedUpTo ∧
      AfterCursor s.sessionCursor row) fun row other => row.position ≤ other.position).map (·.sessionId)
    exact List.pairwise_map.mp (perm.nodup_iff.mpr (idsNodup.sublist filtered))
  refine (sorted.and distinct).imp fun {row other} both => ?_
  refine lt_of_le_of_ne (of_decide_eq_true both.1) fun same => both.2 ?_
  exact (Prod.ext_iff.mp (toLex.injective same)).2

theorem mem_backlog {row : RetentionSession Id} :
    row ∈ s.backlog endedUpTo ↔
      row ∈ s.sessions ∧ row.Retired endedUpTo ∧ AfterCursor s.sessionCursor row := by
  rw [backlog, List.mem_mergeSort]
  simp

theorem processRows_eq {rows : List (RetentionSession Id)}
    (idsNodup : (s.sessions.map (·.sessionId)).Nodup) (rowsNodup : rows.Nodup)
    (present : ∀ row ∈ rows, row ∈ s.sessions) (retired : ∀ row ∈ rows, row.Retired endedUpTo) :
    ∃ (done rest : List (RetentionSession Id)) (t : RetentionJob Id),
      rows = done ++ rest ∧ (∀ row ∈ done, ¬ hooks.Throws row.sessionId) ∧
      (∀ first ∈ rest.head?, hooks.Throws first.sessionId) ∧
      processRows hooks endedUpTo rows s = (if rest = [] then .ok t else .error t) ∧
      t.sessions = without hooks done s.sessions ∧
      t.sessionCursor = (done.getLast?.map (·.position)).or s.sessionCursor ∧
      (s.Answered → t.Answered) := by
  induction rows generalizing s with
  | nil =>
    refine ⟨[], [], s, rfl, by simp, by simp, rfl, ?_, rfl, id⟩
    simp [without]
  | cons row rest ih =>
    obtain ⟨fresh, restNodup⟩ := List.nodup_cons.mp rowsNodup
    obtain ⟨t, attempted, sessions, cursor, answered⟩ :=
      @attempt_eq _ _ hooks _ _ _ idsNodup (present row (by simp)) (retired row (by simp))
    by_cases throws : hooks.Throws row.sessionId
    · -- the loop is left at once
      rw [if_pos throws] at attempted
      refine ⟨[], row :: rest, t, rfl, by simp, by simpa using throws, ?_, ?_, by simp [cursor], answered⟩
      · simp [processRows, attempted]
      · -- nothing is deleted: the hooks of `row` throw
        rw [sessions, @without_eq_self _ _ hooks [] (by simp)]
        apply without_eq_self
        intro other is_row deletes
        rw [List.mem_singleton.mp is_row] at deletes
        exact deletes.not_throws throws
    · rw [if_neg throws] at attempted
      have stays : ∀ later ∈ rest, later ∈ t.sessions := by
        intro later member
        rw [sessions, mem_without]
        refine ⟨present later (by simp [member]), fun same => ?_⟩
        rw [List.mem_singleton] at same
        exact absurd (same ▸ member) fresh
      have nodup : (t.sessions.map (·.sessionId)).Nodup := by
        rw [sessions]
        exact idsNodup.sublist (List.filter_sublist.map _)
      obtain ⟨done, left, u, parts, calm, stop, result, remaining, reached, told⟩ :=
        @ih { t with sessionCursor := some row.position } nodup restNodup stays
          (fun later member => retired later (by simp [member]))
      refine ⟨row :: done, left, u, by simp [parts], ?_, stop, ?_, ?_, ?_, fun before => told (answered before)⟩
      · simpa [throws] using calm
      · simp only [processRows, attempted, result]
      · rw [remaining, sessions, without_cons]
      · rw [reached]
        cases done with
        | nil => rfl
        | cons next more =>
          obtain ⟨last, ends⟩ : ∃ last, (next :: more).getLast? = some last :=
            ⟨_, List.getLast?_eq_some_getLast (List.cons_ne_nil next more)⟩
          rw [List.getLast?_cons_cons, ends]
          rfl

theorem runOnce_eq (idsNodup : (s.sessions.map (·.sessionId)).Nodup) :
    ∃ done rest : List (RetentionSession Id),
      s.candidates endedUpTo = done ++ rest ∧ (∀ row ∈ done, ¬ hooks.Throws row.sessionId) ∧
      (∀ first ∈ rest.head?, hooks.Throws first.sessionId) ∧
      (runOnce hooks s endedUpTo).sessions = without hooks done s.sessions ∧
      (runOnce hooks s endedUpTo).sessionCursor =
        (if s.candidates endedUpTo = [] then none
         else (done.getLast?.map (·.position)).or s.sessionCursor) ∧
      (s.Answered → (runOnce hooks s endedUpTo).Answered) := by
  have listed : ∀ row ∈ s.candidates endedUpTo, row ∈ s.backlog endedUpTo :=
    fun row member => List.mem_of_mem_take member
  obtain ⟨done, rest, t, parts, calm, stop, result, sessions, cursor, answered⟩ :=
    @processRows_eq _ _ hooks endedUpTo s (s.candidates endedUpTo) idsNodup
      ((backlog_inOrder idsNodup).nodup.sublist (List.take_sublist _ _))
      (fun row member => (mem_backlog.mp (listed row member)).1)
      (fun row member => (mem_backlog.mp (listed row member)).2.1)
  refine ⟨done, rest, parts, calm, stop, ?_⟩
  unfold runOnce
  rw [result]
  by_cases finished : rest = []
  · by_cases empty : s.candidates endedUpTo = []
    · simpa [finished, empty] using ⟨sessions, answered⟩
    · simpa [finished, empty] using ⟨sessions, cursor, answered⟩
  · have nonempty : s.candidates endedUpTo ≠ [] := by
      rw [parts]
      simp [finished]
    simpa [finished, nonempty] using ⟨sessions, cursor, answered⟩

end RetentionJob

end Tvic
