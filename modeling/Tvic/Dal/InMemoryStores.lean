import Mathlib.Logic.Function.Basic
import Tvic.Core.Dal

/-!
# The in-memory record stores

`InMemorySessionStore`, `InMemoryTurnStore` and `InMemoryToolCallStore` of
`packages/dal/src/in-memory-stores.ts`. The stores treat a record through its ids, its version and
the codec, so a record type is a parameter with a `RecordCodec`. An operation that throws has not
written anything by then.
-/
namespace Tvic

/-- What the stores use of a record: its ids and version, `sameRecord` (equal up to the version),
and the `normalizeStored…` function of the codec, which takes the record and its key. -/
structure RecordCodec (ρ : Type) where
  sessionId : ρ → SessionId
  id : ρ → String
  version : ρ → Option Nat
  withVersion : ρ → Nat → ρ
  sameRecord : ρ → ρ → Bool
  normalize : ρ → String → Except DalError ρ

/-- `#records`, with an entry for each session, and `#closed`. -/
structure InMemoryRecords (α : Type) where
  records : SessionId → α
  closed : Bool

namespace InMemoryRecords

variable {α : Type}

/-- `#records.set`, or `delete` for the entry of a session the store does not have. -/
def set (store : InMemoryRecords α) (sessionId : SessionId) (entry : α) : InMemoryRecords α :=
  { store with records := Function.update store.records sessionId entry }

/-- `restore`, which does not look at `#closed`. -/
def restore (store : InMemoryRecords α) (sessionId : SessionId) (entry : α) : InMemoryRecords α :=
  store.set sessionId entry

def SameBut (sessionId : SessionId) (a b : InMemoryRecords α) : Prop :=
  a.closed = b.closed ∧ ∀ other, other ≠ sessionId → a.records other = b.records other

variable {sessionId : SessionId}

theorem SameBut.refl (a : InMemoryRecords α) : SameBut sessionId a a :=
  ⟨rfl, fun _ _ => rfl⟩

theorem SameBut.trans {a b c : InMemoryRecords α} (first : SameBut sessionId a b)
    (second : SameBut sessionId b c) : SameBut sessionId a c :=
  ⟨first.1.trans second.1, fun other ne => (first.2 other ne).trans (second.2 other ne)⟩

theorem sameBut_set (a : InMemoryRecords α) (entry : α) :
    SameBut sessionId a (a.set sessionId entry) :=
  ⟨rfl, fun _ ne => (Function.update_of_ne ne ..).symm⟩

theorem restore_eq {before after : InMemoryRecords α} (same : SameBut sessionId before after) :
    after.restore sessionId (before.records sessionId) = before := by
  obtain ⟨closed, others⟩ := same
  obtain ⟨records, _⟩ := before
  simp only [restore, set] at closed others ⊢
  congr 1
  · funext other
    by_cases own : other = sessionId
    · rw [own, Function.update_self]
    · rw [Function.update_of_ne own, others other own]
  · exact closed.symm

end InMemoryRecords

abbrev InMemorySessionStore (S : Type) := InMemoryRecords (Option S)

namespace InMemorySessionStore

open InMemoryRecords

variable {S : Type} (codec : RecordCodec S)

def new : InMemorySessionStore S := ⟨fun _ => none, false⟩

def assertOpen (store : InMemorySessionStore S) : Except DalError Unit :=
  if store.closed then .error (.error "SessionStore is closed") else .ok ()

def get (store : InMemorySessionStore S) (id : SessionId) : Except DalError (Option S) := do
  assertOpen store
  return store.records id

def put (store : InMemorySessionStore S) (record : S) :
    Except DalError (InMemorySessionStore S) := do
  assertOpen store
  let id := codec.id record
  let existing := store.records id
  if existing.any fun stored => !codec.sameRecord stored record then
    .error (.recordConflict ("Session:" ++ id))
  else do
    let version := ((existing.bind codec.version).or (codec.version record)).getD 1
    let stored ← codec.normalize (codec.withVersion record version) ("session:" ++ id)
    .ok (store.set id (some stored))

def update (store : InMemorySessionStore S) (id : SessionId)
    (updater : S → Except DalError S) : Except DalError (S × InMemorySessionStore S) := do
  assertOpen store
  match store.records id with
  | none => .error (.recordNotFound ("session:" ++ id))
  | some current => do
    let next ← updater current
    let versioned ← codec.normalize
      (codec.withVersion next ((codec.version current).getD 1 + 1)) ("session:" ++ id)
    .ok (versioned, store.set id (some versioned))

variable {codec}

variable {store store' : InMemorySessionStore S}

theorem put_sameBut {record : S} (returned : put codec store record = .ok store') :
    SameBut (codec.id record) store store' := by
  obtain ⟨-, -, returned⟩ := bind_eq_ok.mp returned
  dsimp only at returned
  split at returned
  · cases returned
  · obtain ⟨stored, -, returned⟩ := bind_eq_ok.mp returned
    cases returned
    exact sameBut_set ..

theorem update_sameBut {id : SessionId} {versioned : S} {updater : S → Except DalError S}
    (returned : update codec store id updater = .ok (versioned, store')) :
    SameBut id store store' := by
  obtain ⟨-, -, returned⟩ := bind_eq_ok.mp returned
  split at returned
  · cases returned
  · obtain ⟨next, -, returned⟩ := bind_eq_ok.mp returned
    obtain ⟨stored, -, returned⟩ := bind_eq_ok.mp returned
    cases returned
    exact sameBut_set ..

theorem update_eq_ok {id : SessionId} {versioned : S} {updater : S → Except DalError S}
    (returned : update codec store id updater = .ok (versioned, store')) :
    ∃ current next, store.records id = some current ∧ updater current = .ok next ∧
      codec.normalize (codec.withVersion next ((codec.version current).getD 1 + 1))
        ("session:" ++ id) = .ok versioned ∧
      store' = store.set id (some versioned) := by
  obtain ⟨-, -, returned⟩ := bind_eq_ok.mp returned
  split at returned
  · cases returned
  next current found =>
    obtain ⟨next, updated, returned⟩ := bind_eq_ok.mp returned
    obtain ⟨stored, normalized, returned⟩ := bind_eq_ok.mp returned
    cases returned
    exact ⟨current, next, found, updated, normalized, rfl⟩

theorem put_eq_ok {record : S} (returned : put codec store record = .ok store') :
    (∀ existing, store.records (codec.id record) = some existing →
      codec.sameRecord existing record = true) ∧
      ∃ stored, codec.normalize (codec.withVersion record
          ((((store.records (codec.id record)).bind codec.version).or (codec.version record)).getD 1))
          ("session:" ++ codec.id record) = .ok stored ∧
        store' = store.set (codec.id record) (some stored) := by
  obtain ⟨-, -, returned⟩ := bind_eq_ok.mp returned
  dsimp only at returned
  split at returned
  · cases returned
  next same =>
    obtain ⟨stored, normalized, returned⟩ := bind_eq_ok.mp returned
    cases returned
    exact ⟨fun existing found => by simpa [found] using same, stored, normalized, rfl⟩

end InMemorySessionStore

/-- The turns, or the tool calls, of each session in the order of their first write. A session
without an entry has the empty list: the code reads it as one, and deletes empty entries. -/
abbrev InMemoryChildStore (ρ : Type) := InMemoryRecords (List ρ)

/-- The words in which the turn store and the tool-call store differ. -/
structure ChildKind where
  storeName : String
  conflictKind : String
  keyKind : String

def InMemoryTurnStore.kind : ChildKind := ⟨"TurnStore", "Turn", "turn"⟩

def InMemoryToolCallStore.kind : ChildKind := ⟨"ToolCallStore", "Tool call", "tool_call"⟩

theorem findIdx_split {α : Type} {p : α → Bool} {list : List α} {a : α}
    (found : list[list.findIdx p]? = some a) :
    ∃ before after, list = before ++ a :: after ∧ (∀ other ∈ before, p other = false) ∧
      p a = true ∧ ∀ b, list.set (list.findIdx p) b = before ++ b :: after := by
  induction list with
  | nil => cases found
  | cons first rest ih =>
    cases holds : p first with
    | true =>
      simp only [List.findIdx_cons, holds, cond_true, List.getElem?_cons_zero,
        Option.some.injEq] at found
      subst found
      exact ⟨[], rest, rfl, by simp, holds, fun b => by simp [List.findIdx_cons, holds]⟩
    | false =>
      simp only [List.findIdx_cons, holds, cond_false, List.getElem?_cons_succ] at found
      obtain ⟨before, after, listed, others, own, replaced⟩ := ih found
      refine ⟨first :: before, after, by rw [listed, List.cons_append], ?_, own, fun b => ?_⟩
      · simpa [holds] using others
      · simp [List.findIdx_cons, holds, replaced]

namespace InMemoryChildStore

open InMemoryRecords

variable {ρ : Type} (kind : ChildKind) (codec : RecordCodec ρ)

def new : InMemoryChildStore ρ := ⟨fun _ => [], false⟩

def assertOpen (store : InMemoryChildStore ρ) : Except DalError Unit :=
  if store.closed then .error (.error (kind.storeName ++ " is closed")) else .ok ()

def get (store : InMemoryChildStore ρ) (sessionId : SessionId) (id : String) :
    Except DalError (Option ρ) := do
  assertOpen kind store
  return (store.records sessionId).find? fun record => codec.id record = id

def listBySession (store : InMemoryChildStore ρ) (sessionId : SessionId) :
    Except DalError (List ρ) := do
  assertOpen kind store
  return store.records sessionId

def put (store : InMemoryChildStore ρ) (record : ρ) : Except DalError (InMemoryChildStore ρ) := do
  assertOpen kind store
  let sessionId := codec.sessionId record
  let id := codec.id record
  match (store.records sessionId).find? fun item => codec.id item = id with
  | some existing =>
    if codec.sameRecord existing record then .ok store
    else .error (.recordConflict (kind.conflictKind ++ ":" ++ id))
  | none => do
    let stored ← codec.normalize (codec.withVersion record ((codec.version record).getD 1))
      (kind.keyKind ++ ":" ++ id)
    .ok (store.set sessionId (store.records sessionId ++ [stored]))

def update (store : InMemoryChildStore ρ) (sessionId : SessionId) (id : String)
    (updater : ρ → Except DalError ρ) : Except DalError (ρ × InMemoryChildStore ρ) := do
  assertOpen kind store
  let records := store.records sessionId
  let index := records.findIdx fun record => codec.id record = id
  match records[index]? with
  | none => .error (.recordNotFound (kind.keyKind ++ ":" ++ sessionId ++ ":" ++ id))
  | some current => do
    let next ← updater current
    let versioned ← codec.normalize
      (codec.withVersion next ((codec.version current).getD 1 + 1))
      (kind.keyKind ++ ":" ++ sessionId ++ ":" ++ id)
    .ok (versioned, store.set sessionId (records.set index versioned))

variable {kind codec} {sessionId : SessionId}

variable {store store' : InMemoryChildStore ρ}

theorem put_sameBut {record : ρ} (returned : put kind codec store record = .ok store') :
    SameBut (codec.sessionId record) store store' := by
  obtain ⟨-, -, returned⟩ := bind_eq_ok.mp returned
  dsimp only at returned
  split at returned
  · split at returned
    · cases returned
      exact .refl _
    · cases returned
  · obtain ⟨stored, -, returned⟩ := bind_eq_ok.mp returned
    cases returned
    exact sameBut_set ..

theorem update_sameBut {id : String} {versioned : ρ} {updater : ρ → Except DalError ρ}
    (returned : update kind codec store sessionId id updater = .ok (versioned, store')) :
    SameBut sessionId store store' := by
  obtain ⟨-, -, returned⟩ := bind_eq_ok.mp returned
  dsimp only at returned
  split at returned
  · cases returned
  · obtain ⟨next, -, returned⟩ := bind_eq_ok.mp returned
    obtain ⟨stored, -, returned⟩ := bind_eq_ok.mp returned
    cases returned
    exact sameBut_set ..

theorem put_eq_ok {record : ρ} (returned : put kind codec store record = .ok store') :
    (∃ existing, (store.records (codec.sessionId record)).find?
          (fun item => codec.id item = codec.id record) = some existing ∧
        codec.sameRecord existing record = true ∧ store' = store) ∨
      ∃ stored, (∀ existing ∈ store.records (codec.sessionId record),
          codec.id existing ≠ codec.id record) ∧
        codec.normalize (codec.withVersion record ((codec.version record).getD 1))
          (kind.keyKind ++ ":" ++ codec.id record) = .ok stored ∧
        store' = store.set (codec.sessionId record)
          (store.records (codec.sessionId record) ++ [stored]) := by
  obtain ⟨-, -, returned⟩ := bind_eq_ok.mp returned
  dsimp only at returned
  split at returned
  next existing found =>
    split at returned
    next same =>
      cases returned
      exact .inl ⟨existing, found, same, rfl⟩
    · cases returned
  next absent =>
    obtain ⟨stored, normalized, returned⟩ := bind_eq_ok.mp returned
    cases returned
    exact .inr ⟨stored, by simpa using absent, normalized, rfl⟩

theorem update_eq_ok {id : String} {versioned : ρ} {updater : ρ → Except DalError ρ}
    (returned : update kind codec store sessionId id updater = .ok (versioned, store')) :
    ∃ before current after next, store.records sessionId = before ++ current :: after ∧
      (∀ other ∈ before, codec.id other ≠ id) ∧ codec.id current = id ∧
      updater current = .ok next ∧
      codec.normalize (codec.withVersion next ((codec.version current).getD 1 + 1))
        (kind.keyKind ++ ":" ++ sessionId ++ ":" ++ id) = .ok versioned ∧
      store' = store.set sessionId (before ++ versioned :: after) := by
  obtain ⟨-, -, returned⟩ := bind_eq_ok.mp returned
  dsimp only at returned
  split at returned
  · cases returned
  next current found =>
    obtain ⟨next, updated, returned⟩ := bind_eq_ok.mp returned
    obtain ⟨stored, normalized, returned⟩ := bind_eq_ok.mp returned
    cases returned
    obtain ⟨before, after, listed, others, own, replaced⟩ := findIdx_split found
    refine ⟨before, current, after, next, listed, fun other earlier => ?_, ?_, updated, normalized,
      ?_⟩
    · simpa using others other earlier
    · simpa using own
    · rw [replaced]

end InMemoryChildStore

end Tvic
