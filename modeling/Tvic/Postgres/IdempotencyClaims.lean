import Tvic.Postgres.IdempotencyExclusive

/-!
# Who claims a key on PostgreSQL

Under a lease the lock on the session's row puts the transactions one after the other, so that a
claim whose insert met a row still finds it. Callers without a session have no such lock: there the
row may be gone by the second select, and `claim` goes on where `quarantine` throws.
-/
namespace Tvic.Postgres

open Lib InMemoryToolIdempotencyStore

variable {τ V J : Type} [DecidableEq τ]

/-- Between the checks and the commit, with the session's row locked under a lease. -/
@[simp, grind] def IdempotencyStage.inside : IdempotencyStage J → Bool
  | .begin | .commit _ | .committed _ | .rolledBack => false
  | _ => true

namespace IdempotencyDatabase

@[simp, grind] def Sees (row : RowLock τ (ToolIdempotencyRecord J)) (t : τ)
    (operation : IdempotencyOperation V) : IdempotencyStage J → Prop
  | .selectLocking tuple | .selectAgainLocking _ tuple =>
    ∃ version, row.visible t = some version ∧ version.tuple = tuple
  | .provisionalClock | .insert _ => row.visible t = none
  | .selectAgain _ => row.visible t ≠ none
  | .clock none _ => ∀ input, operation ≠ .claim input
  | _ => True

structure Serial (sessionId : SessionId) (s : IdempotencyDatabase τ V J) : Prop where
  alone : ∀ t, s.row.holder = some t → s.sessions sessionId = some t
  inside : ∀ t operation stage, s.transactions t = some (operation, stage) →
    stage.inside = true → s.sessions sessionId = some t
  sees : ∀ t operation stage, s.transactions t = some (operation, stage) →
    Sees s.row t operation stage

variable {lease : ToolIdempotencyLease} {s : IdempotencyDatabase τ V J}
variable {row row' : RowLock τ (ToolIdempotencyRecord J)} {t : τ}

theorem Serial.settle {sessionId : SessionId} (serial : s.Serial sessionId) :
    s.settle.Serial sessionId := by
  unfold IdempotencyDatabase.settle
  split
  · exact { serial with }
  · exact serial

variable {host : IdempotencyHost V J} {operation : IdempotencyOperation V}
  {next : IdempotencyStage J}

theorem sees_decide {now : Nat} {existing : Option (ToolIdempotencyRecord J)} {inserted : Bool}
    (decided : operation.decide host now existing inserted = some next) :
    Sees row t operation next := by
  cases operation with
  | claim input =>
    obtain ⟨claimExpiresAtMs, -, decided⟩ := Option.bind_eq_some_iff.mp decided
    obtain ⟨answered, -, decided⟩ := Option.bind_eq_some_iff.mp decided
    cases decided
    cases answered <;> trivial
  | releaseClaim input =>
    obtain ⟨found, -, decided⟩ := Option.bind_eq_some_iff.mp decided
    split at decided <;> cases decided <;> trivial
  | complete requestHash outcome =>
    obtain ⟨found, -, decided⟩ := Option.bind_eq_some_iff.mp decided
    obtain ⟨left, -, decided⟩ := Option.bind_eq_some_iff.mp decided
    cases left <;> cases decided <;> trivial

theorem Sees.statement {stage next : IdempotencyStage J} (sees : Sees s.row t operation stage)
    (ran : s.statement host t operation stage = .next next row') :
    Sees row' t operation next := by
  cases stage with
  | select =>
    dsimp only [IdempotencyDatabase.statement] at ran
    split at ran
    next none_ =>
      cases ran
      cases operation <;> simp [IdempotencyOperation.selected, none_]
    next version seen =>
      cases ran
      exact ⟨version, seen, rfl⟩
  | selectLocking tuple =>
    dsimp only [IdempotencyDatabase.statement] at ran
    split at ran
    · cases ran
    next existing row' read =>
      cases ran
      obtain ⟨version, seen, same⟩ := sees
      obtain ⟨-, ⟨-, -, gone⟩ | ⟨version, rfl, -, -, rfl⟩⟩ := RowLock.selectForUpdate_cases read
      · exact absurd same (gone version seen)
      · cases operation <;> simp [IdempotencyOperation.selected]
  | provisionalClock =>
    dsimp only [IdempotencyDatabase.statement] at ran
    split at ran
    · cases ran
    · cases ran
      exact sees
  | insert provisionalExpiryAtMs =>
    dsimp only [IdempotencyDatabase.statement] at ran
    split at ran
    next input =>
      split at ran
      · cases ran
      next inserted row' tried =>
        cases ran
        obtain ⟨rfl, rfl, found⟩ | ⟨rfl, -, -, rfl⟩ := RowLock.insertOrNothing_cases tried
        · simp_all
        · obtain ⟨version, -, hold⟩ := RowLock.write_hold (s := s.row) (t := t)
            (claimRow input (leasedSession input.lease input.sessionId) provisionalExpiryAtMs)
          simp [RowLock.visible, hold]
    · cases ran
  | selectAgain inserted =>
    dsimp only [IdempotencyDatabase.statement] at ran
    split at ran
    next none_ => exact absurd none_ sees
    next version seen =>
      cases ran
      exact ⟨version, seen, rfl⟩
  | selectAgainLocking inserted tuple =>
    dsimp only [IdempotencyDatabase.statement] at ran
    split at ran
    · cases ran
    next existing row' read =>
      cases ran
      obtain ⟨version, seen, same⟩ := sees
      obtain ⟨-, ⟨-, -, gone⟩ | ⟨version, rfl, -, -, rfl⟩⟩ := RowLock.selectForUpdate_cases read
      · exact absurd same (gone version seen)
      · trivial
  | clock existing inserted =>
    dsimp only [IdempotencyDatabase.statement] at ran
    split at ran
    · cases ran
    next decided =>
      cases ran
      exact sees_decide decided
  | upsert new =>
    dsimp only [IdempotencyDatabase.statement] at ran
    split at ran
    · cases ran
    · cases ran
      trivial
    · cases ran
  | update new =>
    cases ran
    trivial
  | delete =>
    cases ran
    trivial
  | _ => cases ran

theorem sees_checks {now : Nat} {stage : IdempotencyStage J}
    (passed : operation.checks host now = some stage) :
    Sees row t operation stage := by
  have refused : operation.refused.map .commit = some stage → Sees row t operation stage := by
    cases operation <;> simp only [IdempotencyOperation.refused] <;> rintro ⟨⟩ <;> trivial
  unfold IdempotencyOperation.checks at passed
  split at passed
  · cases passed
  split at passed
  · exact refused passed
  split at passed
  · split at passed <;> cases passed
    trivial
  · split at passed
    · exact refused passed
    · cases passed
      trivial

theorem checks_of_locks_none {now : Nat} {stage : IdempotencyStage J}
    (of_lease : operation.lease = some lease) (unlocked : operation.locks = none)
    (passed : operation.checks host now = some stage) :
    ∃ answer, stage = .commit answer := by
  unfold IdempotencyOperation.locks at unlocked
  unfold IdempotencyOperation.checks at passed
  split at unlocked
  next early =>
    split at passed
    · cases passed
    · rw [if_pos (by simp_all)] at passed
      obtain ⟨answer, -, rfl⟩ := Option.map_eq_some_iff.mp passed
      exact ⟨answer, rfl⟩
  · simp [of_lease] at unlocked

theorem locks_eq {sessionId : SessionId} (of_lease : operation.lease = some lease)
    (locked : operation.locks = some sessionId) :
    sessionId = lease.sessionId := by
  unfold IdempotencyOperation.locks at locked
  split at locked
  · cases locked
  · simpa [of_lease] using locked.symm

section

variable (serial : s.Serial lease.sessionId)
include serial

theorem Serial.move (locked : s.sessions lease.sessionId = some t) (step : RowStep t s.row row')
    (sees : Sees row' t operation next) :
    Serial lease.sessionId (moveTo { s with row := row' } t operation next) where
  alone other held := by
    by_cases same : other = t
    · exact same ▸ locked
    · exact serial.alone other (step.holder held same)
  inside other operation' stage placed inside := by
    by_cases same : other = t
    · exact same ▸ locked
    · exact serial.inside other operation' stage
        (by simpa [moveTo, Function.update_of_ne same] using placed) inside
  sees other operation' stage placed := by
    by_cases same : other = t
    · subst same
      have known : operation = operation' ∧ next = stage := by simpa [moveTo] using placed
      obtain ⟨rfl, rfl⟩ := known
      exact sees
    · have before : s.transactions other = some (operation', stage) := by
        simpa [moveTo, Function.update_of_ne same] using placed
      by_cases within : stage.inside = true
      · have also := serial.inside other operation' stage before within
        exact absurd (Option.some.inj (also.symm.trans locked)) same
      · cases stage <;> simp_all

theorem Serial.leave (outside : next.inside = false) (frames : Frames t s.row row')
    (others : s.row.holder ≠ some t → row' = s.row) {sessions : SessionId → Option τ}
    (freed : ∀ other, other ≠ t → s.sessions lease.sessionId = some other →
      sessions lease.sessionId = some other)
    (mine : row'.holder = some t → sessions lease.sessionId = some t) :
    Serial lease.sessionId (moveTo { s with row := row', sessions } t operation next) where
  alone other held := by
    by_cases same : other = t
    · exact same ▸ mine (same ▸ held)
    · exact freed other same (serial.alone other ((frames other same).2 held))
  inside other operation' stage placed inside := by
    by_cases same : other = t
    · subst same
      have known : operation = operation' ∧ next = stage := by simpa [moveTo] using placed
      grind -ring -linarith -order
    · exact freed other same (serial.inside other operation' stage
        (by simpa [moveTo, Function.update_of_ne same] using placed) inside)
  sees other operation' stage placed := by
    by_cases same : other = t
    · subst same
      have known : operation = operation' ∧ next = stage := by simpa [moveTo] using placed
      obtain ⟨rfl, rfl⟩ := known
      cases next <;> simp_all
    · have before : s.transactions other = some (operation', stage) := by
        simpa [moveTo, Function.update_of_ne same] using placed
      have seen := serial.sees other operation' stage before
      by_cases within : stage.inside = true
      · have also := serial.inside other operation' stage before within
        have unheld : s.row.holder ≠ some t := fun held =>
          same (Option.some.inj (also.symm.trans (serial.alone t held)))
        rw [others unheld]
        exact seen
      · cases stage <;> simp_all

theorem Serial.rollback (operation : IdempotencyOperation V) :
    Serial lease.sessionId (s.rollback t operation) :=
  serial.leave rfl rollback_frames (fun unheld => RowLock.rollback_of_not_holder unheld)
    (fun _ differs held => by simp [held, differs])
    (fun held => absurd held RowLock.rollback_holder)

theorem Serial.commit (operation : IdempotencyOperation V) (answer : ToolIdempotencyAnswer J) :
    Serial lease.sessionId (s.commit t operation answer) := by
  have left : Serial lease.sessionId (moveTo
      { s with row := s.row.commit t, sessions := (s.release t).sessions } t operation
      (.committed answer)) :=
    serial.leave rfl commit_frames (fun unheld => RowLock.commit_of_not_holder unheld)
      (fun _ differs held => by simp [IdempotencyDatabase.release, held, differs])
      (fun held => absurd held RowLock.commit_holder)
  exact { left with }

theorem Serial.check (of_lease : operation.lease = some lease)
    (locked : operation.locks = none ∨ s.sessions lease.sessionId = some t) :
    Serial lease.sessionId (s.check host t operation) := by
  unfold IdempotencyDatabase.check
  split
  next stage passed =>
    obtain unlocked | locked := locked
    · obtain ⟨answer, rfl⟩ := checks_of_locks_none of_lease unlocked passed
      exact serial.leave rfl (fun _ _ => ⟨fun _ => rfl, id⟩) (fun _ => rfl) (fun _ _ => id)
        (serial.alone t)
    · refine serial.move locked .keep ?_
      exact sees_checks passed
  · exact serial.rollback operation

theorem Serial.act {event : IdempotencyEvent τ V} (core : s.Core (some lease))
    (settled : s.free = true → s.granted = []) :
    (s.act host event).Serial lease.sessionId := by
  cases event with
  | clock now => exact { serial with }
  | start t operation =>
    dsimp only [IdempotencyDatabase.act]
    split
    · exact serial.leave rfl (fun _ _ => ⟨fun _ => rfl, id⟩) (fun _ => rfl) (fun _ _ => id)
        (serial.alone t)
    · exact serial
  | abort t =>
    dsimp only [IdempotencyDatabase.act]
    split
    · exact serial
    · exact serial
    · exact serial
    · exact serial.rollback _
  | advance t =>
    dsimp only [IdempotencyDatabase.act, IdempotencyDatabase.advance]
    split
    · exact serial
    · exact serial
    · exact serial
    next operation placed =>
      have of_lease := (core.stands t operation _ placed).1
      unfold beginTransaction
      split
      next sessionId locks =>
        split_ifs with unlocked
        · have same := locks_eq of_lease locks
          subst same
          have alone : ∀ other, s.sessions lease.sessionId ≠ some other := by simp [unlocked]
          have entered : Serial lease.sessionId
              { s with sessions := Function.update s.sessions lease.sessionId (some t) } :=
            ⟨fun other held => absurd (serial.alone other held) (alone other),
              fun other operation' stage found inside =>
                absurd (serial.inside other operation' stage found inside) (alone other),
              serial.sees⟩
          exact entered.check of_lease (.inr (by simp))
        · exact serial
      next locks => exact serial.check of_lease (.inl locks)
    next operation answer placed => exact serial.commit operation answer
    next operation stage notCommitted notRolledBack notBegin notCommit placed =>
      have inside : stage.inside = true := by
        cases stage <;> simp_all
      have locked := serial.inside t operation stage placed inside
      split
      · exact serial
      next next row' ran =>
        have sees := serial.sees t operation stage placed
        have lands := core.lands settled placed
          (fun input inserted same at_ => by simp_all) ran
        exact serial.move locked lands.step (sees.statement ran)
      · exact serial.rollback operation

end

/-- At most one claim is granted while the key is taken, and no granted claim is replaced. -/
structure Exclusive (s : IdempotencyDatabase τ V J) : Prop where
  granted : s.granted.length ≤ 1
  overwritten : s.overwritten = []

omit [DecidableEq τ] in
theorem core_new (lease : Option ToolIdempotencyLease) :
    Core lease (new : IdempotencyDatabase τ V J) := by
  constructor <;> simp [new, RowLock.new, RowLock.holder]

theorem serial_new (sessionId : SessionId) :
    Serial sessionId (new : IdempotencyDatabase τ V J) := by
  constructor <;> simp [new, RowLock.new, RowLock.holder]

omit [DecidableEq τ] in
theorem settle_free (settled : s.settle.free = true) : s.settle.granted = [] := by
  unfold IdempotencyDatabase.settle at *
  split at settled <;> simp_all

/-- Callers without a session or lease, or all under one lease: claims exclude each other as long
as, without a lease, no claim goes on whose second select has found no row. -/
theorem claims_exclusive (host : IdempotencyHost V J) (lease : Option ToolIdempotencyLease)
    (events : List (IdempotencyEvent τ V))
    (callers : ∀ t operation, .start t operation ∈ events →
      operation.lease = lease ∧ (lease = none → operation.sessionId = none))
    (found : lease = none → ∀ before t rest input inserted, events = before ++ .advance t :: rest →
      (after host before).transactions t ≠ some (.claim input, .clock none inserted)) :
    (after host events).Exclusive := by
  suffices all : (after host events).Core lease ∧
      ((after host events).free = true → (after host events).granted = []) ∧
      ∀ held, lease = some held → (after host events).Serial held.sessionId from
    ⟨all.1.few, all.1.kept⟩
  induction events using List.reverseRecOn with
  | nil => exact ⟨core_new lease, fun _ => rfl, fun held _ => serial_new held.sessionId⟩
  | append_singleton events event ih =>
    obtain ⟨core, settled, serial⟩ := ih
      (fun t operation started => callers t operation (by simp [started]))
      (fun unleased before t rest input inserted split =>
        found unleased before t (rest ++ [event]) input inserted (by simp [split]))
    have advanced : after host (events ++ [event]) = (after host events).step host event := by
      simp [after]
    rw [advanced]
    have started : ∀ t operation, event = .start t operation → operation.lease = lease :=
      fun t operation same => (callers t operation (by simp [same])).1
    refine ⟨(core.act settled started fun t input inserted advances => ?_).settle, settle_free, ?_⟩
    · cases held : lease with
      | none => exact found held events t [] input inserted (by simp [advances])
      | some lease =>
        intro placed
        exact (serial lease held).sees t _ _ placed input rfl
    · rintro held rfl
      exact ((serial held rfl).act core settled).settle

def plainHost : IdempotencyHost Unit Unit where
  leaseLive _ _ := true
  sessionExists _ := false
  readPersistedError := some
  encodeOutput := id
  encodeError := id
  sameValue _ _ := true

def unscopedClaim (owner : String) : IdempotencyOperation Unit :=
  .claim ⟨"payment", none, none, none, none, "hash", owner, .int 1000⟩

/-- Two claims of which the second finds the first. -/
def claimsInTurn : List (IdempotencyEvent Nat Unit) :=
  .start 0 (unscopedClaim "first") :: List.replicate 8 (.advance 0) ++
    .start 1 (unscopedClaim "second") :: List.replicate 5 (.advance 1)

def expectsRow : IdempotencyOperation Unit × IdempotencyStage Unit → Bool
  | (.claim _, .clock none _) => false
  | _ => true

theorem claims_exclusive_inTurn : (after plainHost claimsInTurn).Exclusive := by
  refine claims_exclusive plainHost none _ (fun t operation started => ?_)
    fun _ before t rest input inserted split placed => ?_
  · simp only [claimsInTurn, List.replicate, List.cons_append, List.nil_append, List.mem_cons,
      reduceCtorEq, IdempotencyEvent.start.injEq, List.not_mem_nil, or_false, false_or] at started
    obtain ⟨rfl, rfl⟩ | ⟨rfl, rfl⟩ := started <;> exact ⟨rfl, fun _ => rfl⟩
  · have checked : ∀ size < 15, ∀ t ∈ [0, 1],
        ((after plainHost (claimsInTurn.take size)).transactions t).all expectsRow := by
      decide +kernel
    have short : before.length < 15 := by
      have sizes := congrArg List.length split
      simp only [claimsInTurn, List.length_append, List.length_cons, List.length_replicate] at sizes
      omega
    have who : t ∈ [0, 1] := by
      have member : .advance t ∈ claimsInTurn := by simp [split]
      simpa [claimsInTurn] using member
    have place : claimsInTurn.take before.length = before := by simp [split]
    have known := checked before.length short t who
    rw [place, placed] at known
    simp [expectsRow] at known

/-- The row that a claim's insert has met is released before its second select, and claimed again
before the claim writes: it writes over the claim of another. -/
theorem releasedBetweenSelects_overwrites :
    ¬ ∀ (host : IdempotencyHost Unit Unit) (events : List (IdempotencyEvent Nat Unit)),
      (∀ t operation, .start t operation ∈ events →
        operation.lease = none ∧ operation.sessionId = none) →
      (after host events).Exclusive := by
  intro claimed
  have exclusive := claimed plainHost (.start 0 (unscopedClaim "slow") ::
    List.replicate 3 (.advance 0) ++ .start 1 (unscopedClaim "first") ::
    List.replicate 8 (.advance 1) ++ .advance 0 ::
    .start 2 (.releaseClaim ⟨"payment", "hash", "first", none, none⟩) ::
    List.replicate 6 (.advance 2) ++ .advance 0 :: .start 3 (unscopedClaim "second") ::
    List.replicate 8 (.advance 3) ++ List.replicate 3 (.advance 0))
    (fun t operation started => by
      simp at started
      obtain ⟨rfl, rfl⟩ | ⟨rfl, rfl⟩ | ⟨rfl, rfl⟩ | ⟨rfl, rfl⟩ := started <;> exact ⟨rfl, rfl⟩)
  have both := exclusive.granted
  revert both
  decide +kernel

end IdempotencyDatabase

end Tvic.Postgres
