import Tvic.Postgres.Idempotency

/-!
# Interleaved idempotency transactions

Any number of `claim`, `releaseClaim` and `complete` transactions on one key, one statement at a
time. A transaction under a lease first takes the lock on its session's row; a reading of the
database clock is a step of its own. A statement that has to wait changes nothing and may be tried
again; what a transaction wrote is seen by others once it has committed.

Beside the database a state keeps, for what is proved of it, the claims granted since the key was
last free, and the rows of granted claims that another owner's claim has replaced.
-/
namespace Tvic.Postgres

open Lib InMemoryToolIdempotencyStore

variable {τ V J : Type} [DecidableEq τ]

/-- Where a transaction stands: the statement that comes next. -/
inductive IdempotencyStage (J : Type) where
  | begin
  | select
  | selectLocking (tuple : Nat)
  | provisionalClock
  | insert (provisionalExpiryAtMs : Nat)
  | selectAgain (insertedByCurrentClaim : Bool)
  | selectAgainLocking (insertedByCurrentClaim : Bool) (tuple : Nat)
  /-- The reading of the clock that the row found is held against. -/
  | clock (existing : Option (ToolIdempotencyRecord J)) (insertedByCurrentClaim : Bool)
  | upsert (row : ToolIdempotencyRecord J)
  | update (row : ToolIdempotencyRecord J)
  | delete
  | commit (answer : ToolIdempotencyAnswer J)
  | committed (answer : ToolIdempotencyAnswer J)
  | rolledBack

/-- A statement of a transaction: what comes next, and the row after it. -/
inductive IdempotencyStatement (τ J : Type) where
  | wait
  | next (stage : IdempotencyStage J) (row : RowLock τ (ToolIdempotencyRecord J))
  | fail

namespace IdempotencyOperation

variable (host : IdempotencyHost V J) (now : Nat)

/-- `assertLeaseTtlMs` throws. -/
def badTtl (operation : IdempotencyOperation V) : Bool :=
  operation.ttlMs.any fun ttlMs => (assertLeaseTtlMs ttlMs).toOption.isNone

/-- The session whose row `assertLease` locks, if it comes to that. -/
def locks (operation : IdempotencyOperation V) : Option SessionId :=
  if operation.badTtl || otherSession operation.lease operation.sessionId then none
  else operation.lease.map (·.sessionId)

/-- What the checks of the input, of the session and of the lease come to. -/
def checks (operation : IdempotencyOperation V) : Option (IdempotencyStage J) :=
  if operation.badTtl then none
  else if otherSession operation.lease operation.sessionId then
    operation.refused.map .commit
  else
    match operation.lease with
    | some lease => if host.leaseLive lease now then some .select else none
    | none =>
      if (truthy operation.sessionId).any host.sessionExists then operation.refused.map .commit
      else some .select

/-- After the first select: only a claim reads the clock before it goes on without a row. -/
def selected : IdempotencyOperation V → Option (ToolIdempotencyRecord J) → IdempotencyStage J
  | .claim _, none => .provisionalClock
  | .releaseClaim _, none => .commit (.releaseClaim false)
  | _, existing => .clock existing false

/-- The `if` of `claim` on a row that has not expired; nothing where it throws. -/
def claimAnswer (input : ToolIdempotencyClaim) (sessionId : Option SessionId) (inserted : Bool) :
    Option (ToolIdempotencyRecord J) → Option (Option (ToolIdempotencyClaimResult J))
  | none => some none
  | some row =>
    if now < row.expiresAtMs then
      (idempotencyFromRow host row input.requestHash).map (claimLive input sessionId inserted)
    else some none

/-- The answer and the write that an operation comes to at its clock reading. -/
def decide (existing : Option (ToolIdempotencyRecord J)) (inserted : Bool) :
    IdempotencyOperation V → Option (IdempotencyStage J)
  | .claim input => do
    let sessionId := leasedSession input.lease input.sessionId
    let claimExpiresAtMs ← (safeLeaseExpiryAt (.int now) input.ttlMs).toOption
    let answered ← claimAnswer host now input sessionId inserted existing
    return match answered with
      | some result => .commit (.claim result)
      | none => .upsert (claimRow input sessionId claimExpiresAtMs)
  | .releaseClaim input => do
    let row ← existing
    if releases input (leasedSession input.lease input.sessionId) now row then some .delete
    else some (.commit (.releaseClaim false))
  | .complete requestHash outcome => do
    match ← completeRow host requestHash outcome now (← existing) with
    | some row => some (.update row)
    | none => some (.commit .complete)

end IdempotencyOperation

structure IdempotencyDatabase (τ V J : Type) where
  now : Nat
  row : RowLock τ (ToolIdempotencyRecord J)
  /-- The transaction that has locked the row of a session. -/
  sessions : SessionId → Option τ
  transactions : τ → Option (IdempotencyOperation V × IdempotencyStage J)
  granted : List τ
  overwritten : List (ToolIdempotencyRecord J)

inductive IdempotencyEvent (τ V : Type) where
  | clock (now : Nat)
  | start (t : τ) (operation : IdempotencyOperation V)
  | advance (t : τ)
  | abort (t : τ)

namespace IdempotencyDatabase

def new : IdempotencyDatabase τ V J :=
  ⟨0, .new, fun _ => none, fun _ => none, [], []⟩

variable (s : IdempotencyDatabase τ V J)

/-- There is no row, or it has expired. -/
def free : Bool :=
  s.row.committed.all fun version => version.row.expiresAtMs ≤ s.now

/-- Claims no longer count once the key is free. -/
def settle : IdempotencyDatabase τ V J := if s.free then { s with granted := [] } else s

def moveTo (t : τ) (operation : IdempotencyOperation V) (stage : IdempotencyStage J) :
    IdempotencyDatabase τ V J :=
  { s with transactions := Function.update s.transactions t (some (operation, stage)) }

/-- The locks of a transaction are gone when it ends. -/
def release (t : τ) : IdempotencyDatabase τ V J :=
  { s with sessions := fun sessionId =>
      if s.sessions sessionId = some t then none else s.sessions sessionId }

def rollback (t : τ) (operation : IdempotencyOperation V) : IdempotencyDatabase τ V J :=
  moveTo (release { s with row := s.row.rollback t } t) t operation .rolledBack

/-- The granted claim that a claim's commit replaces, if it is another owner's. -/
def replaced (t : τ) : Option (ToolIdempotencyRecord J) :=
  match s.row.committed, s.row.visible t with
  | some old, some new =>
    if s.granted ≠ [] ∧ old.row.status = .claimed ∧ new.row.status = .claimed ∧
        old.row.owner ≠ new.row.owner then some old.row else none
  | _, _ => none

def commit (t : τ) (operation : IdempotencyOperation V) (answer : ToolIdempotencyAnswer J) :
    IdempotencyDatabase τ V J :=
  let s' := { s with
    row := s.row.commit t
    granted := match answer with
      | .claim (.claimed _) => s.granted ++ [t]
      | _ => s.granted
    overwritten := s.overwritten ++ (s.replaced t).toList }
  moveTo (s'.release t) t operation (.committed answer)

variable (host : IdempotencyHost V J)

/-- The next statement of a transaction, `begin` and the end apart. -/
def statement (t : τ) (operation : IdempotencyOperation V) :
    IdempotencyStage J → IdempotencyStatement τ J
  | .select =>
    match s.row.visible t with
    | none => .next (operation.selected none) s.row
    | some version => .next (.selectLocking version.tuple) s.row
  | .selectLocking tuple =>
    match s.row.selectForUpdate t tuple with
    | none => .wait
    | some (existing, row) => .next (operation.selected existing) row
  | .provisionalClock =>
    match operation.ttlMs.bind fun ttlMs => (safeLeaseExpiryAt (.int s.now) ttlMs).toOption with
    | none => .fail
    | some provisionalExpiryAtMs => .next (.insert provisionalExpiryAtMs) s.row
  | .insert provisionalExpiryAtMs =>
    match operation with
    | .claim input =>
      match s.row.insertOrNothing t (claimRow input (leasedSession input.lease input.sessionId)
          provisionalExpiryAtMs) with
      | none => .wait
      | some (inserted, row) => .next (.selectAgain inserted) row
    | _ => .fail
  | .selectAgain inserted =>
    match s.row.visible t with
    | none => .next (.clock none inserted) s.row
    | some version => .next (.selectAgainLocking inserted version.tuple) s.row
  | .selectAgainLocking inserted tuple =>
    match s.row.selectForUpdate t tuple with
    | none => .wait
    | some (existing, row) => .next (.clock existing inserted) row
  | .clock existing inserted =>
    match operation.decide host s.now existing inserted with
    | none => .fail
    | some stage => .next stage s.row
  | .upsert row =>
    match s.row.upsert t row, operation with
    | none, _ => .wait
    | some row', .claim input =>
      let record := { row with
        sessionId := truthy row.sessionId
        toolId := truthy input.toolId
        toolVersion := truthy input.toolVersion }
      .next (.commit (.claim (.claimed record))) row'
    | some _, _ => .fail
  | .update row => .next (.commit .complete) (s.row.write t row)
  | .delete => .next (.commit (.releaseClaim true)) (s.row.delete t)
  | _ => .wait

/-- The checks, once the session's row is locked where they need it. -/
def check (t : τ) (operation : IdempotencyOperation V) : IdempotencyDatabase τ V J :=
  match operation.checks host s.now with
  | some stage => s.moveTo t operation stage
  | none => s.rollback t operation

/-- Under a lease a transaction waits for its session's row, and keeps it locked to the end. -/
def beginTransaction (t : τ) (operation : IdempotencyOperation V) : IdempotencyDatabase τ V J :=
  match operation.locks with
  | some sessionId =>
    if s.sessions sessionId = none then
      check { s with sessions := Function.update s.sessions sessionId (some t) } host t operation
    else s
  | none => s.check host t operation

def advance (t : τ) : IdempotencyDatabase τ V J :=
  match s.transactions t with
  | none => s
  | some (_, .committed _) => s
  | some (_, .rolledBack) => s
  | some (operation, .begin) => s.beginTransaction host t operation
  | some (operation, .commit answer) => s.commit t operation answer
  | some (operation, stage) =>
    match s.statement host t operation stage with
    | .wait => s
    | .next stage row => moveTo { s with row } t operation stage
    | .fail => s.rollback t operation

def act : IdempotencyEvent τ V → IdempotencyDatabase τ V J
  | .clock now => { s with now }
  | .start t operation =>
    match s.transactions t with
    | none => s.moveTo t operation .begin
    | some _ => s
  | .advance t => s.advance host t
  | .abort t =>
    match s.transactions t with
    | none => s
    | some (_, .committed _) => s
    | some (_, .rolledBack) => s
    | some (operation, _) => s.rollback t operation

def step (event : IdempotencyEvent τ V) : IdempotencyDatabase τ V J := (s.act host event).settle

/-- The state after a run, from a key that has no row. -/
def after (events : List (IdempotencyEvent τ V)) : IdempotencyDatabase τ V J :=
  Lib.run (fun s event => step s host event) new events

end IdempotencyDatabase

end Tvic.Postgres
