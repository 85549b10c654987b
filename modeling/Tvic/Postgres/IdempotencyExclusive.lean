import Tvic.Postgres.IdempotencyRuns

/-!
# Claims on PostgreSQL exclude each other

`Core` says what the holder of the row has in hand: a claim about to be written or granted finds no
claim granted since the key was last free, because the row it holds was free when it came to hold
it. Without a row to hold, a claim relies on its insert; the transactions of one lease are one
after the other, so that there it always finds a row.
-/
namespace Tvic.Postgres

open Lib InMemoryToolIdempotencyStore

variable {τ V J : Type} [DecidableEq τ]

namespace IdempotencyDatabase

/-- What is so of a transaction at its stage. `generation` is that of its lease. -/
def Stands (generation : Option String) (row : RowLock τ (ToolIdempotencyRecord J))
    (granted : List τ) (t : τ) : IdempotencyStage J → Prop
  | .begin | .select | .selectLocking _ | .provisionalClock | .insert _ => row.holder ≠ some t
  | .selectAgain inserted | .selectAgainLocking inserted _ =>
    if inserted then row.holder = some t ∧ granted = [] else row.holder ≠ some t
  | .clock existing inserted =>
    (inserted = true → row.holder = some t ∧ granted = []) ∧
    ∀ found, existing = some found → row.holder = some t ∧
      found.claimedGenerationId = generation ∧
        (granted = [] ∨ ∃ version, row.committed = some version ∧ version.row = found)
  | .upsert new =>
    row.holder = some t ∧ granted = [] ∧ new.status = .claimed ∧
      new.claimedGenerationId = generation
  | .update new =>
    row.holder = some t ∧ new.status ≠ .claimed ∧ new.claimedGenerationId = generation
  | .delete => row.holder = some t
  | .commit (.claim (.claimed _)) => row.holder = some t ∧ granted = []
  | .commit _ => True
  | .committed _ | .rolledBack => row.holder ≠ some t

structure Core (lease : Option ToolIdempotencyLease) (s : IdempotencyDatabase τ V J) : Prop where
  few : s.granted.length ≤ 1
  kept : s.overwritten = []
  holders : ∀ t, s.row.holder = some t → s.transactions t ≠ none
  written : ∀ hold version, s.row.hold = some hold → hold.written = some (some version) →
    version.row.status = .claimed → s.granted = []
  generations : ∀ version, (s.row.committed = some version ∨
      ∃ hold, s.row.hold = some hold ∧ hold.written = some (some version)) →
    version.row.claimedGenerationId = lease.map (·.generationId)
  stands : ∀ t operation stage, s.transactions t = some (operation, stage) →
    operation.lease = lease ∧
      Stands (lease.map (·.generationId)) s.row s.granted t stage

variable {lease : Option ToolIdempotencyLease} {s : IdempotencyDatabase τ V J}
variable {row row' : RowLock τ (ToolIdempotencyRecord J)} {t other : τ}

variable {generation : Option String} {granted : List τ} {stage : IdempotencyStage J}

omit [DecidableEq τ] in
theorem Stands.settle (stands : Stands generation row granted t stage) :
    Stands generation row [] t stage := by
  unfold Stands at *
  split <;> grind -ring -linarith -order

omit [DecidableEq τ] in
theorem Core.settle (core : s.Core lease) : s.settle.Core lease := by
  unfold IdempotencyDatabase.settle
  split
  · exact { core with
      few := by simp
      written := by simp
      stands := fun t operation stage at_ =>
        ⟨(core.stands t operation stage at_).1, (core.stands t operation stage at_).2.settle⟩ }
  · exact core

theorem Core.visible_generation {version : RowVersion (ToolIdempotencyRecord J)}
    (core : s.Core lease) (seen : s.row.visible t = some version) :
    version.row.claimedGenerationId = lease.map (·.generationId) := by
  exact core.generations version (RowLock.visible_cases seen)

omit [DecidableEq τ] in
theorem Stands.of_not_holder {granted granted' : List τ}
    (stands : Stands generation row granted t stage) (unheld : row.holder ≠ some t) :
    Stands generation row granted' t stage := by
  unfold Stands at *
  split <;> grind -ring -linarith -order

/-- What one transaction's statement makes of the row. -/
inductive RowStep (t : τ) (row : RowLock τ (ToolIdempotencyRecord J)) :
    RowLock τ (ToolIdempotencyRecord J) → Prop where
  | keep : RowStep t row row
  | take (free : row.freeFor t = true) : RowStep t row (row.take t)
  | write (free : row.freeFor t = true) (new : ToolIdempotencyRecord J) :
      RowStep t row (row.write t new)
  | delete (held : row.holder = some t) : RowStep t row (row.delete t)

theorem RowStep.of_holder (step : RowStep t row row') (held : row.holder = some other)
    (differs : other ≠ t) : row' = row := by
  cases step with
  | keep => rfl
  | take free => exact absurd (RowLock.eq_of_holder free held) differs
  | write free => exact absurd (RowLock.eq_of_holder free held) differs
  | delete mine => grind -ring -linarith -order

theorem RowStep.committed (step : RowStep t row row') : row'.committed = row.committed := by
  cases step <;> simp

theorem RowStep.holder (step : RowStep t row row') (held : row'.holder = some other)
    (differs : other ≠ t) : row.holder = some other := by
  cases step with
  | keep => exact held
  | take free => 
    have mine := RowLock.take_of_free free
    grind -ring -linarith -order
  | write free new =>
    obtain ⟨version, -, hold⟩ := RowLock.write_hold (s := row) (t := t) new
    have mine := RowLock.holder_of_hold hold
    grind -ring -linarith -order
  | delete mine =>
    have held' := RowLock.holder_of_hold (RowLock.delete_hold (s := row) (t := t))
    grind -ring -linarith -order

/-- Nobody else comes to hold the row, or sees it change while he does. -/
def Frames (t : τ) (row row' : RowLock τ (ToolIdempotencyRecord J)) : Prop :=
  ∀ other, other ≠ t →
    (row.holder = some other → row' = row) ∧ (row'.holder = some other → row.holder = some other)

theorem RowStep.frames (step : RowStep t row row') : Frames t row row' :=
  fun _ differs => ⟨fun held => step.of_holder held differs, fun held => step.holder held differs⟩

theorem commit_frames : Frames t row (row.commit t) := by
  intro other differs
  by_cases mine : row.holder = some t
  · unfold RowLock.commit
    cases hold : row.hold <;> grind -ring -linarith -order [RowLock.holder]
  · rw [RowLock.commit_of_not_holder mine]
    exact ⟨fun _ => rfl, id⟩

theorem rollback_frames : Frames t row (row.rollback t) := by
  intro other differs
  unfold RowLock.rollback
  split <;> grind -ring -linarith -order [RowLock.holder]

omit [DecidableEq τ] in
theorem Stands.frame (stands : Stands generation row granted other stage)
    (frames : Frames t row row') (differs : other ≠ t) :
    Stands generation row' granted other stage := by
  obtain ⟨kept, new⟩ := frames other differs
  unfold Stands at *
  split <;> grind -ring -linarith -order

variable {operation : IdempotencyOperation V}

theorem Core.move (core : s.Core lease) (step : RowStep t s.row row')
    (of_lease : operation.lease = lease)
    (holds : ∀ hold version, row'.hold = some hold → hold.written = some (some version) →
      (version.row.status = .claimed → s.granted = []) ∧
        version.row.claimedGenerationId = lease.map (·.generationId))
    (stands : Stands (lease.map (·.generationId)) row' s.granted t stage) :
    Core lease (moveTo { s with row := row' } t operation stage) where
  few := core.few
  kept := core.kept
  holders other held := by
    by_cases same : other = t
    · simp [moveTo, same]
    · have before := core.holders other (step.holder held same)
      simpa [moveTo, Function.update_of_ne same] using before
  written hold version held wrote := (holds hold version held wrote).1
  generations version source := by
    obtain source | ⟨hold, held, wrote⟩ := source
    · exact core.generations version (.inl (step.committed ▸ source))
    · exact (holds hold version held wrote).2
  stands other operation' stage' placed := by
    by_cases same : other = t
    · subst same
      have known : operation = operation' ∧ stage = stage' := by
        simpa [moveTo] using placed
      obtain ⟨rfl, rfl⟩ := known
      exact ⟨of_lease, stands⟩
    · have before := core.stands other operation' stage' (by
        simpa [moveTo, Function.update_of_ne same] using placed)
      exact ⟨before.1, before.2.frame step.frames same⟩

omit [DecidableEq τ] in
theorem Stands.selected_none (operation : IdempotencyOperation V) (unheld : row.holder ≠ some t) :
    Stands generation row granted t (operation.selected none) := by
  cases operation <;> simp [IdempotencyOperation.selected, Stands, unheld]

omit [DecidableEq τ] in
theorem Stands.selected_some (operation : IdempotencyOperation V)
    {version : RowVersion (ToolIdempotencyRecord J)} (held : row.holder = some t)
    (committed : row.committed = some version)
    (known : version.row.claimedGenerationId = generation) :
    Stands generation row granted t (operation.selected (some version.row)) := by
  cases operation <;> simp [IdempotencyOperation.selected, Stands, held, committed, known]

variable {host : IdempotencyHost V J} {next : IdempotencyStage J}

omit [DecidableEq τ] in
theorem Stands.decide_claim {input : ToolIdempotencyClaim} {found : ToolIdempotencyRecord J}
    {inserted : Bool} (settled : s.free = true → s.granted = []) (of_lease : input.lease = lease)
    (stands : Stands (lease.map (·.generationId)) s.row s.granted t (.clock (some found) inserted))
    (decided : IdempotencyOperation.decide host s.now (some found) inserted (.claim input) =
      some next) :
    Stands (lease.map (·.generationId)) s.row s.granted t next := by
  obtain ⟨ofInsert, ofRow⟩ := stands
  obtain ⟨held, generation, origin⟩ := ofRow found rfl
  obtain ⟨claimExpiresAtMs, -, decided⟩ := Option.bind_eq_some_iff.mp decided
  obtain ⟨answered, source, decided⟩ := Option.bind_eq_some_iff.mp decided
  have row : (claimRow (J := J) input (leasedSession input.lease input.sessionId)
      claimExpiresAtMs).claimedGenerationId = lease.map (·.generationId) := by
    simp [claimRow, of_lease]
  by_cases live : s.now < found.expiresAtMs
  · have source : (idempotencyFromRow host found input.requestHash).map
        (claimLive input (leasedSession input.lease input.sessionId) inserted) =
          some answered := by
      simpa [IdempotencyOperation.claimAnswer, live] using source
    obtain ⟨record, read, answer⟩ := Option.map_eq_some_iff.mp source
    have known := (idempotencyFromRow_generation read).trans generation
    cases answered with
    | none => exact absurd answer (claimLive_isSome (of_lease ▸ known))
    | some result =>
      cases decided
      cases result with
      | claimed claimed => exact ofInsert (claimLive_claimed answer)
      | _ => trivial
  · -- an expired row was free when the clock was read, or is the claim's own
    have quiet : s.granted = [] := by
      obtain quiet | ⟨version, committed, same⟩ := origin
      · exact quiet
      · exact settled (by simp [free, committed, same]; omega)
    have none_ : answered = none := by
      simpa [IdempotencyOperation.claimAnswer, live] using source.symm
    subst none_
    cases decided
    exact ⟨held, quiet, rfl, row⟩

omit [DecidableEq τ] in
theorem Stands.decide {existing : Option (ToolIdempotencyRecord J)} {inserted : Bool}
    (settled : s.free = true → s.granted = []) (of_lease : operation.lease = lease)
    (calm : existing = none → ∀ input, operation ≠ .claim input)
    (stands : Stands (lease.map (·.generationId)) s.row s.granted t (.clock existing inserted))
    (decided : operation.decide host s.now existing inserted = some next) :
    Stands (lease.map (·.generationId)) s.row s.granted t next := by
  cases existing with
  | none =>
    cases operation with
    | claim input => exact absurd rfl (calm rfl input)
    | releaseClaim input => cases decided
    | complete requestHash outcome => cases decided
  | some found =>
    obtain ⟨held, generation, -⟩ := stands.2 found rfl
    cases operation with
    | claim input => exact Stands.decide_claim settled of_lease stands decided
    | releaseClaim input =>
      change (if releases input _ s.now found then some IdempotencyStage.delete
        else some (.commit (.releaseClaim false))) = some next at decided
      split_ifs at decided
      · cases decided
        exact held
      · cases decided
        trivial
    | complete requestHash outcome =>
      obtain ⟨left, written, decided⟩ := Option.bind_eq_some_iff.mp decided
      cases left with
      | none =>
        cases decided
        trivial
      | some new =>
        cases decided
        obtain ⟨closed, kept⟩ := completeRow_written (generation.trans (by rw [← of_lease]; rfl))
          written
        exact ⟨held, closed, kept.trans (by rw [← of_lease]; rfl)⟩

/-- What `Core.move` asks of a statement. -/
structure Lands (lease : Option ToolIdempotencyLease) (s : IdempotencyDatabase τ V J) (t : τ)
    (next : IdempotencyStage J) (row' : RowLock τ (ToolIdempotencyRecord J)) : Prop where
  step : RowStep t s.row row'
  holds : ∀ hold version, row'.hold = some hold → hold.written = some (some version) →
    (version.row.status = .claimed → s.granted = []) ∧
      version.row.claimedGenerationId = lease.map (·.generationId)
  stands : Stands (lease.map (·.generationId)) row' s.granted t next

theorem Core.lands_keep (core : s.Core lease)
    (stands : Stands (lease.map (·.generationId)) s.row s.granted t next) :
    Lands lease s t next s.row where
  step := .keep
  holds hold version held wrote :=
    ⟨core.written hold version held wrote, core.generations version (.inr ⟨hold, held, wrote⟩)⟩
  stands := stands

theorem lands_write {new : ToolIdempotencyRecord J} (free : s.row.freeFor t = true)
    (quiet : new.status = .claimed → s.granted = [])
    (generation : new.claimedGenerationId = lease.map (·.generationId))
    (stands : (s.row.write t new).holder = some t →
      Stands (lease.map (·.generationId)) (s.row.write t new) s.granted t next) :
    Lands lease s t next (s.row.write t new) := by
  obtain ⟨version, same, hold⟩ := RowLock.write_hold (s := s.row) (t := t) new
  refine ⟨.write free new, fun hold' version' held wrote => ?_,
    stands (RowLock.holder_of_hold hold)⟩
  have known : version' = version := by grind -ring -linarith -order
  subst known
  exact ⟨same ▸ quiet, same ▸ generation⟩

theorem Core.lands {stage next : IdempotencyStage J} (core : s.Core lease)
    (settled : s.free = true → s.granted = []) (placed : s.transactions t = some (operation, stage))
    (calm : ∀ input inserted, operation = .claim input → stage ≠ .clock none inserted)
    (ran : s.statement host t operation stage = .next next row') : Lands lease s t next row' := by
  obtain ⟨of_lease, stands⟩ := core.stands t operation stage placed
  cases stage with
  | select =>
    dsimp only [statement] at ran
    split at ran
    · cases ran
      exact core.lands_keep (.selected_none operation stands)
    · cases ran
      exact core.lands_keep stands
  | selectLocking tuple =>
    dsimp only [statement] at ran
    split at ran
    · cases ran
    next existing row' read =>
      cases ran
      obtain ⟨free, ⟨rfl, rfl, -⟩ | ⟨version, rfl, seen, -, rfl⟩⟩ :=
        RowLock.selectForUpdate_cases read
      · exact core.lands_keep (.selected_none operation stands)
      · have committed : s.row.committed = some version :=
          (RowLock.visible_of_not_holder stands) ▸ seen
        have hold := RowLock.take_of_hold_none (t := t) (RowLock.hold_eq_none free stands)
        refine ⟨.take free, fun hold' version' held wrote => ?_, ?_⟩
        · grind -ring -linarith -order
        · exact .selected_some operation (RowLock.take_of_free free) (by simpa using committed)
            (core.generations version (.inl committed))
  | provisionalClock =>
    dsimp only [statement] at ran
    split at ran
    · cases ran
    · cases ran
      exact core.lands_keep stands
  | insert provisionalExpiryAtMs =>
    dsimp only [statement] at ran
    split at ran
    next input =>
      split at ran
      · cases ran
      next inserted row' tried =>
        cases ran
        obtain ⟨rfl, rfl, -⟩ | ⟨rfl, free, none_, rfl⟩ := RowLock.insertOrNothing_cases tried
        · exact core.lands_keep stands
        · -- there is no row to be seen, so that the key is free
          have absent : s.row.committed = none :=
            (RowLock.visible_of_not_holder stands) ▸ none_
          have quiet := settled (by simp [IdempotencyDatabase.free, absent])
          have generation : (claimRow (J := J) input (leasedSession input.lease input.sessionId)
              provisionalExpiryAtMs).claimedGenerationId = lease.map (·.generationId) := by
            rw [← of_lease]
            rfl
          exact lands_write free (fun _ => quiet) generation fun held => ⟨held, quiet⟩
    · cases ran
  | selectAgain inserted =>
    dsimp only [statement] at ran
    split at ran
    · cases ran
      refine core.lands_keep ⟨fun own => ?_, by simp⟩
      simpa [Stands, own] using stands
    · cases ran
      exact core.lands_keep stands
  | selectAgainLocking inserted tuple =>
    dsimp only [statement] at ran
    split at ran
    · cases ran
    next existing row' read =>
      cases ran
      obtain ⟨free, ⟨rfl, rfl, -⟩ | ⟨version, rfl, seen, -, rfl⟩⟩ :=
        RowLock.selectForUpdate_cases read
      · refine core.lands_keep ⟨fun own => ?_, by simp⟩
        simpa [Stands, own] using stands
      · cases inserted with
        | true =>
          obtain ⟨held, quiet⟩ : s.row.holder = some t ∧ s.granted = [] := by
            simpa [Stands] using stands
          rw [RowLock.take_of_holder held]
          refine core.lands_keep ⟨fun _ => ⟨held, quiet⟩, fun found same => ?_⟩
          cases same
          exact ⟨held, core.visible_generation seen, .inl quiet⟩
        | false =>
          have unheld : s.row.holder ≠ some t := by simpa [Stands] using stands
          have committed : s.row.committed = some version :=
            (RowLock.visible_of_not_holder unheld) ▸ seen
          have hold := RowLock.take_of_hold_none (t := t) (RowLock.hold_eq_none free unheld)
          refine ⟨.take free, fun hold' version' held wrote => ?_, by simp, fun found same => ?_⟩
          · grind -ring -linarith -order
          · cases same
            exact ⟨RowLock.take_of_free free, core.generations version (.inl committed),
              .inr ⟨version, by simpa using committed, rfl⟩⟩
  | clock existing inserted =>
    dsimp only [statement] at ran
    split at ran
    · cases ran
    next decided =>
      cases ran
      refine core.lands_keep (.decide settled of_lease (fun none_ input same => ?_) stands decided)
      exact calm input inserted same (by rw [none_])
  | upsert new =>
    obtain ⟨held, quiet, claimed, generation⟩ := stands
    dsimp only [statement] at ran
    split at ran
    · cases ran
    next written =>
      obtain ⟨free, rfl⟩ := RowLock.upsert_eq written
      cases ran
      exact lands_write free (fun _ => quiet) generation fun held => ⟨held, quiet⟩
    · cases ran
  | update new =>
    obtain ⟨held, closed, generation⟩ := stands
    cases ran
    exact lands_write (RowLock.freeFor_self held) (fun claimed => absurd claimed closed) generation
      fun _ => trivial
  | delete =>
    cases ran
    exact ⟨.delete stands, by grind -ring -linarith -order [RowLock.delete], trivial⟩
  | _ => cases ran

theorem Core.rollback (core : s.Core lease) (of_lease : operation.lease = lease) :
    Core lease (s.rollback t operation) where
  few := core.few
  kept := core.kept
  holders other held := by
    by_cases same : other = t
    · simp [IdempotencyDatabase.rollback, moveTo, same]
    · have before := core.holders other ((rollback_frames other same).2 held)
      simpa [IdempotencyDatabase.rollback, moveTo, IdempotencyDatabase.release,
        Function.update_of_ne same] using before
  written hold version held wrote := by
    refine core.written hold version ?_ wrote
    change (s.row.rollback t).hold = some hold at held
    unfold RowLock.rollback at held
    split at held <;> simp_all
  generations version source := by
    refine core.generations version ?_
    change (s.row.rollback t).committed = some version ∨
      (∃ hold, (s.row.rollback t).hold = some hold ∧ hold.written = some (some version)) at source
    unfold RowLock.rollback at source
    split at source <;> simp_all
  stands other operation' stage' placed := by
    by_cases same : other = t
    · subst same
      have known : operation = operation' ∧ .rolledBack = stage' := by
        simpa [IdempotencyDatabase.rollback, moveTo, IdempotencyDatabase.release] using placed
      obtain ⟨rfl, rfl⟩ := known
      exact ⟨of_lease, RowLock.rollback_holder⟩
    · have before := core.stands other operation' stage' (by
        simpa [IdempotencyDatabase.rollback, moveTo, IdempotencyDatabase.release,
          Function.update_of_ne same] using placed)
      exact ⟨before.1, before.2.frame rollback_frames same⟩

theorem Core.replaced_eq_none (core : s.Core lease) : s.replaced t = none := by
  unfold replaced
  split
  next old new committed seen =>
    split
    next gone =>
      obtain same | ⟨hold, held, wrote⟩ := RowLock.visible_cases seen
      · have known : old = new := by grind -ring -linarith -order
        exact absurd (by rw [known]) gone.2.2.2
      · exact absurd (core.written hold new held wrote gone.2.2.1) gone.1
    · rfl
  · rfl

theorem Core.commit (core : s.Core lease) {answer : ToolIdempotencyAnswer J}
    (placed : s.transactions t = some (operation, .commit answer)) :
    Core lease (s.commit t operation answer) := by
  obtain ⟨of_lease, stands⟩ := core.stands t operation _ placed
  have unheld : (s.row.commit t).holder ≠ some t := RowLock.commit_holder
  -- a grant is the holder's, and the first since the key was free
  have granting : (s.commit t operation answer).granted = s.granted ∨
      (s.row.holder = some t ∧ s.granted = [] ∧
        (s.commit t operation answer).granted = [t]) := by
    unfold IdempotencyDatabase.commit moveTo
    dsimp only
    split
    · obtain ⟨held, quiet⟩ := stands
      exact .inr ⟨held, quiet, by simp [IdempotencyDatabase.release, quiet]⟩
    · exact .inl rfl
  have committed : (s.row.commit t).committed = s.row.committed ∨ ∃ hold,
      s.row.hold = some hold ∧ hold.written = some (s.row.commit t).committed := by
    unfold RowLock.commit
    cases hold : s.row.hold with
    | none => exact .inl rfl
    | some hold' => cases wrote : hold'.written <;> by_cases mine : hold'.holder = t <;> simp_all
  have remaining : ∀ hold, (s.row.commit t).hold = some hold →
      s.row.hold = some hold ∧ s.row.holder ≠ some t := by
    unfold RowLock.commit
    cases hold : s.row.hold <;> grind -ring -linarith -order [RowLock.holder]
  refine ⟨?_, ?_, fun other held => ?_, fun hold version held wrote claimed => ?_,
    fun version source => ?_, fun other operation' stage' found => ?_⟩
  · obtain same | ⟨-, -, one⟩ := granting
    · exact same ▸ core.few
    · simp [one]
  · change s.overwritten ++ (s.replaced t).toList = []
    simp [core.kept, core.replaced_eq_none]
  · by_cases same : other = t
    · exact absurd (same ▸ held) unheld
    · have before := core.holders other ((commit_frames other same).2 held)
      simpa [IdempotencyDatabase.commit, moveTo, IdempotencyDatabase.release,
        Function.update_of_ne same] using before
  · obtain ⟨held, others⟩ := remaining hold held
    obtain same | ⟨mine, -, -⟩ := granting
    · rw [same]
      exact core.written hold version held wrote claimed
    · exact absurd mine others
  · obtain now | ⟨hold, held, wrote⟩ := source
    · obtain same | ⟨hold, held, wrote⟩ := committed
      · exact core.generations version (.inl (same ▸ now))
      · exact core.generations version (.inr ⟨hold, held, wrote.trans (congrArg some now)⟩)
    · exact core.generations version (.inr ⟨hold, (remaining hold held).1, wrote⟩)
  · by_cases same : other = t
    · subst same
      have known : operation = operation' ∧ .committed answer = stage' := by
        simpa [IdempotencyDatabase.commit, moveTo, IdempotencyDatabase.release] using found
      obtain ⟨rfl, rfl⟩ := known
      exact ⟨of_lease, unheld⟩
    · obtain ⟨known, at_⟩ := core.stands other operation' stage' (by
        simpa [IdempotencyDatabase.commit, moveTo, IdempotencyDatabase.release,
          Function.update_of_ne same] using found)
      refine ⟨known, ?_⟩
      have framed := at_.frame commit_frames same
      obtain quiet | ⟨mine, -, -⟩ := granting
      · exact quiet ▸ framed
      · refine framed.of_not_holder fun held => same ?_
        have before := (commit_frames other same).2 held
        exact (Option.some.inj (mine.symm.trans before)).symm

omit [DecidableEq τ] in
theorem Stands.checks {now : Nat} (unheld : row.holder ≠ some t)
    (passed : operation.checks host now = some stage) :
    Stands generation row granted t stage := by
  have refused : operation.refused.map .commit = some stage →
      Stands generation row granted t stage := by
    cases operation <;> simp only [IdempotencyOperation.refused] <;> rintro ⟨⟩ <;> trivial
  unfold IdempotencyOperation.checks at passed
  split at passed
  · cases passed
  split at passed
  · exact refused passed
  split at passed
  · split at passed
    · cases passed
      exact unheld
    · cases passed
  · split at passed
    · exact refused passed
    · cases passed
      exact unheld

theorem Core.check (core : s.Core lease) (placed : s.transactions t = some (operation, .begin)) :
    Core lease (s.check host t operation) := by
  obtain ⟨of_lease, unheld⟩ := core.stands t operation _ placed
  unfold IdempotencyDatabase.check
  split
  next stage passed =>
    have lands := core.lands_keep (.checks unheld passed)
    exact core.move lands.step of_lease lands.holds lands.stands
  · exact core.rollback of_lease

theorem Core.act {event : IdempotencyEvent τ V} (core : s.Core lease)
    (settled : s.free = true → s.granted = [])
    (started : ∀ t operation, event = .start t operation → operation.lease = lease)
    (calm : ∀ t input inserted, event = .advance t →
      s.transactions t ≠ some (.claim input, .clock none inserted)) :
    (s.act host event).Core lease := by
  cases event with
  | clock now => exact { core with }
  | start t operation =>
    dsimp only [IdempotencyDatabase.act]
    split
    next absent =>
      have unheld : s.row.holder ≠ some t := fun held => core.holders t held absent
      have lands : Lands lease s t .begin s.row := core.lands_keep unheld
      exact core.move lands.step (started t operation rfl) lands.holds lands.stands
    · exact core
  | abort t =>
    dsimp only [IdempotencyDatabase.act]
    split
    · exact core
    · exact core
    · exact core
    next operation stage _ _ placed =>
      exact core.rollback (core.stands t operation stage placed).1
  | advance t =>
    dsimp only [IdempotencyDatabase.act, IdempotencyDatabase.advance]
    split
    · exact core
    · exact core
    · exact core
    next operation placed =>
      unfold beginTransaction
      split
      · split_ifs
        · exact Core.check { core with } placed
        · exact core
      · exact core.check placed
    next operation answer placed => exact core.commit placed
    next operation stage _ _ _ _ placed =>
      split
      · exact core
      next next row' ran =>
        have lands := core.lands settled placed
          (fun input inserted same at_ => calm t input inserted rfl (by rw [placed, same, at_])) ran
        exact core.move lands.step (core.stands t operation stage placed).1 lands.holds
          lands.stands
      · exact core.rollback (core.stands t operation stage placed).1

end IdempotencyDatabase

end Tvic.Postgres
