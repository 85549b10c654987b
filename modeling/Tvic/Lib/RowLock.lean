import Mathlib.Data.Option.Basic

/-!
# One row of a table under READ COMMITTED

The row of one unique key as transactions see it that lock it and write it, statement by statement.
A version is known by its tuple, which updates keep and a new insert does not: a locking read waits
for the tuple its snapshot has shown, and finds nothing if that was deleted meanwhile, whatever was
inserted since. An insert sees a committed row whether or not a snapshot shows it. What a
transaction has written is in its hold until it commits.

A statement that has to wait gives `none`.
-/
namespace Tvic.Lib

structure RowVersion (ρ : Type*) where
  tuple : Nat
  row : ρ
  deriving DecidableEq

/-- The lock on the row, and what its holder has written: a version, or that there is none. -/
structure RowHold (τ ρ : Type*) where
  holder : τ
  written : Option (Option (RowVersion ρ))
  deriving DecidableEq

structure RowLock (τ ρ : Type*) where
  committed : Option (RowVersion ρ)
  hold : Option (RowHold τ ρ)
  nextTuple : Nat
  deriving DecidableEq

namespace RowLock

variable {τ ρ : Type*} [DecidableEq τ] (s : RowLock τ ρ) (t : τ)

def new : RowLock τ ρ := ⟨none, none, 0⟩

def holder : Option τ := s.hold.map (·.holder)

/-- Nobody else holds the row. -/
def freeFor : Bool := s.hold.all fun hold => hold.holder = t

/-- The version that the transaction's statements see. -/
def visible : Option (RowVersion ρ) :=
  match s.hold with
  | some hold => if hold.holder = t then hold.written.getD s.committed else s.committed
  | none => s.committed

/-- The lock, without a write of its own. -/
def take : RowLock τ ρ :=
  match s.hold with
  | some _ => s
  | none => { s with hold := some ⟨t, none⟩ }

/-- `SELECT … FOR UPDATE` once its snapshot has shown a tuple. -/
def selectForUpdate (tuple : Nat) : Option (Option ρ × RowLock τ ρ) :=
  if s.freeFor t then
    match s.visible t with
    | some version =>
      if version.tuple = tuple then some (some version.row, s.take t) else some (none, s)
    | none => some (none, s)
  else none

/-- A version in the hold of the transaction, in place of what it sees. -/
def write (row : ρ) : RowLock τ ρ :=
  match s.visible t with
  | some version => { s with hold := some ⟨t, some (some { version with row })⟩ }
  | none =>
    { s with hold := some ⟨t, some (some ⟨s.nextTuple, row⟩)⟩, nextTuple := s.nextTuple + 1 }

/-- `INSERT … ON CONFLICT DO NOTHING`: whether it has inserted. It waits for the writes of others,
not for their locks. -/
def insertOrNothing (row : ρ) : Option (Bool × RowLock τ ρ) :=
  if s.freeFor t then
    if (s.visible t).isSome then some (false, s) else some (true, s.write t row)
  else
    match s.hold, s.committed with
    | some ⟨_, none⟩, some _ => some (false, s)
    | _, _ => none

def upsert (row : ρ) : Option (RowLock τ ρ) :=
  if s.freeFor t then some (s.write t row) else none

def delete : RowLock τ ρ := { s with hold := some ⟨t, some none⟩ }

def commit : RowLock τ ρ :=
  match s.hold with
  | some hold =>
    if hold.holder = t then { s with committed := hold.written.getD s.committed, hold := none }
    else s
  | none => s

def rollback : RowLock τ ρ := if s.holder = some t then { s with hold := none } else s

variable {s : RowLock τ ρ} {t other : τ}

theorem freeFor_of_holder (held : s.holder = some t) : s.freeFor other = true → other = t := by
  cases hold : s.hold <;> grind -ring -linarith -order [holder, freeFor]

theorem eq_of_holder (free : s.freeFor t = true) (held : s.holder = some other) : other = t :=
  (freeFor_of_holder held free).symm

theorem freeFor_self (held : s.holder = some t) : s.freeFor t = true := by
  cases hold : s.hold <;> grind -ring -linarith -order [holder, freeFor]

theorem hold_eq_none (free : s.freeFor t = true) (unheld : s.holder ≠ some t) : s.hold = none := by
  cases hold : s.hold <;> grind -ring -linarith -order [holder, freeFor]

omit [DecidableEq τ] in
theorem holder_of_hold {hold : RowHold τ ρ} (held : s.hold = some hold) :
    s.holder = some hold.holder := by
  simp [holder, held]

theorem visible_of_not_holder (unheld : s.holder ≠ some t) : s.visible t = s.committed := by
  cases hold : s.hold <;> grind -ring -linarith -order [holder, visible]

theorem visible_cases {version : RowVersion ρ} (seen : s.visible t = some version) :
    s.committed = some version ∨
      ∃ hold, s.hold = some hold ∧ hold.written = some (some version) := by
  cases hold : s.hold with
  | none => exact .inl (by simpa [visible, hold] using seen)
  | some hold' =>
    cases wrote : hold'.written with
    | none => exact .inl (by simpa [visible, hold, wrote] using seen)
    | some left => by_cases mine : hold'.holder = t <;> simp_all [visible]

omit [DecidableEq τ] in
@[simp] theorem take_committed : (s.take t).committed = s.committed := by
  unfold take
  split <;> rfl

omit [DecidableEq τ] in
theorem take_of_holder (held : s.holder = some t) : s.take t = s := by
  cases hold : s.hold <;> grind -ring -linarith -order [holder, take]

omit [DecidableEq τ] in
theorem take_of_hold_none (unheld : s.hold = none) :
    (s.take t).hold = some ⟨t, none⟩ := by
  simp [take, unheld]

theorem take_of_free (free : s.freeFor t = true) : (s.take t).holder = some t := by
  cases hold : s.hold <;> grind -ring -linarith -order [holder, freeFor, take]

@[simp] theorem write_committed (row : ρ) : (s.write t row).committed = s.committed := by
  unfold write
  split <;> rfl

theorem write_hold (row : ρ) : ∃ version : RowVersion ρ, version.row = row ∧
    (s.write t row).hold = some ⟨t, some (some version)⟩ := by
  unfold write
  split
  next version _ => exact ⟨{ version with row }, rfl, rfl⟩
  · exact ⟨⟨s.nextTuple, row⟩, rfl, rfl⟩

omit [DecidableEq τ] in
@[simp] theorem delete_committed : (s.delete t).committed = s.committed := rfl

omit [DecidableEq τ] in
@[simp] theorem delete_hold : (s.delete t).hold = some ⟨t, some none⟩ := rfl

theorem selectForUpdate_cases {tuple : Nat} {found : Option ρ} {s' : RowLock τ ρ}
    (read : s.selectForUpdate t tuple = some (found, s')) : s.freeFor t = true ∧
      ((found = none ∧ s' = s ∧ ∀ version, s.visible t = some version → version.tuple ≠ tuple) ∨
        ∃ version, found = some version.row ∧ s.visible t = some version ∧
          version.tuple = tuple ∧ s' = s.take t) := by
  unfold selectForUpdate at read
  grind -ring -linarith -order

theorem insertOrNothing_cases {row : ρ} {inserted : Bool} {s' : RowLock τ ρ}
    (tried : s.insertOrNothing t row = some (inserted, s')) :
    (inserted = false ∧ s' = s ∧ (s.visible t).isSome) ∨
      (inserted = true ∧ s.freeFor t = true ∧ s.visible t = none ∧ s' = s.write t row) := by
  unfold insertOrNothing at tried
  by_cases free : s.freeFor t = true
  · cases seen : s.visible t <;> simp [free, seen] at tried <;> simp_all
  · cases hold : s.hold <;> grind -ring -linarith -order [freeFor, visible]

theorem upsert_eq {row : ρ} {s' : RowLock τ ρ} (written : s.upsert t row = some s') :
    s.freeFor t = true ∧ s' = s.write t row := by
  unfold upsert at written
  grind -ring -linarith -order

theorem commit_of_not_holder (unheld : s.holder ≠ some t) : s.commit t = s := by
  cases hold : s.hold <;> grind -ring -linarith -order [holder, commit]

theorem commit_holder : (s.commit t).holder ≠ some t := by
  cases hold : s.hold <;> grind -ring -linarith -order [holder, commit]

theorem rollback_of_not_holder (unheld : s.holder ≠ some t) : s.rollback t = s := by
  simp [rollback, unheld]

theorem rollback_holder : (s.rollback t).holder ≠ some t := by
  unfold rollback
  split <;> simp_all [holder]

end RowLock

end Tvic.Lib
