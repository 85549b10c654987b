import Tvic.Core.Transaction
import Tvic.Dal.InMemoryStores
import Tvic.Dal.SessionLeases
import Tvic.Lib.PromiseChain

/-!
# The in-memory durable runtime store

`createInMemoryDurableRuntimeStore` of `packages/dal/src/in-memory-durable-runtime.ts`, with its
built-in stores. Every await on a store is one step of a program, with the clock reading and the
identifier that step draws; what a callback asks of the outside comes in the same way.
-/
namespace Tvic

open Lib

/-- What one step may draw from outside. -/
structure Env (χ : Type) where
  now : Number
  randomUUID : String
  answer : χ

/-- The record codecs, and `decodeOutboxEnvelope(aggregateType, envelope, key, version)`. -/
structure DalCodec (S T C η : Type) where
  session : RecordCodec S
  turn : RecordCodec T
  toolCall : RecordCodec C
  decodeOutboxEnvelope : AggregateType → η → String → Nat → Except DalError η

structure InMemoryDurableRuntimeStore (S T C η : Type) where
  sessions : InMemorySessionStore S
  turns : InMemoryChildStore T
  toolCalls : InMemoryChildStore C
  rawLeases : InMemorySessionLeaseStore
  outbox : List (DurableOutboxEvent η)

namespace InMemoryDurableRuntime

variable {S T C η χ τ α : Type}

def maxOutboxEvents : Nat := 512

/-- One round of the loop of `commitOutbox`. -/
def commitEvent (outbox : List (DurableOutboxEvent η)) (event : DurableOutboxEvent η) :
    List (DurableOutboxEvent η) :=
  if outbox.any fun existing => existing.id = event.id then outbox
  else (if maxOutboxEvents ≤ outbox.length then outbox.tail else outbox) ++ [event]

def commitOutbox (outbox staged : List (DurableOutboxEvent η)) : List (DurableOutboxEvent η) :=
  staged.foldl commitEvent outbox

/-! ### Steps on the stores -/

section Steps

variable (S T C η χ) in
/-- An operation of the store, for one step or more. -/
abbrev Operation := Async (Env χ) (InMemoryDurableRuntimeStore S T C η) DalError

def reading (f : Env χ → InMemoryDurableRuntimeStore S T C η → Except DalError α) :
    Operation S T C η χ α :=
  Program.atomic fun env store => (f env store, store)

/-- A write that cannot fail. -/
def writing (f : InMemoryDurableRuntimeStore S T C η → InMemoryDurableRuntimeStore S T C η) :
    Operation S T C η χ Unit :=
  Program.atomic fun _ store => (.ok (), f store)

/-- A call of `rawLeases` that may write it. -/
def leasing
    (f : Env χ → InMemorySessionLeaseStore → Except DalError (α × InMemorySessionLeaseStore)) :
    Operation S T C η χ α :=
  Program.atomic fun env store =>
    match f env store.rawLeases with
    | .ok (result, rawLeases) => (.ok result, { store with rawLeases })
    | .error e => (.error e, store)

def leasesAcquire (sessionId : SessionId) (holder : String) (ttlMs : Number) :
    Operation S T C η χ (Option SessionLease) :=
  leasing fun env leases => leases.acquire env.now env.randomUUID sessionId holder ttlMs

def leasesRenew (sessionId : SessionId) (holder : String) (fence ttlMs : Number)
    (generationId : String) : Operation S T C η χ (Option SessionLease) :=
  leasing fun env leases => leases.renew env.now sessionId holder fence ttlMs generationId

def leasesRelease (sessionId : SessionId) (holder : String) (fence : Number)
    (generationId : String) : Operation S T C η χ Unit :=
  leasing fun env leases => leases.release env.now sessionId holder fence generationId

def leasesAcknowledge (candidate : SessionRecoveryCandidate) : Operation S T C η χ Unit :=
  leasing fun env leases =>
    (leases.acknowledgeRecoveryCandidate env.now candidate).map fun leases => ((), leases)

def leasesGet (sessionId : SessionId) : Operation S T C η χ (Option SessionLease) :=
  reading fun env store => store.rawLeases.getCurrent env.now sessionId

def sessionsGet (sessionId : SessionId) : Operation S T C η χ (Option S) :=
  reading fun _ store => InMemorySessionStore.get store.sessions sessionId

def turnsList (sessionId : SessionId) : Operation S T C η χ (List T) :=
  reading fun _ store =>
    InMemoryChildStore.listBySession InMemoryTurnStore.kind store.turns sessionId

def toolCallsList (sessionId : SessionId) : Operation S T C η χ (List C) :=
  reading fun _ store =>
    InMemoryChildStore.listBySession InMemoryToolCallStore.kind store.toolCalls sessionId

def restoreSession (sessionId : SessionId) (record : Option S) : Operation S T C η χ Unit :=
  writing fun store => { store with sessions := store.sessions.restore sessionId record }

def restoreTurns (sessionId : SessionId) (records : List T) : Operation S T C η χ Unit :=
  writing fun store => { store with turns := store.turns.restore sessionId records }

def restoreToolCalls (sessionId : SessionId) (records : List C) : Operation S T C η χ Unit :=
  writing fun store => { store with toolCalls := store.toolCalls.restore sessionId records }

def outboxCommit (staged : List (DurableOutboxEvent η)) : Operation S T C η χ Unit :=
  writing fun store => { store with outbox := commitOutbox store.outbox staged }

end Steps

/-! ### The transaction -/

section Transaction

variable (codec : DalCodec S T C η) (sessionId : SessionId)

/-- A transaction's view: the store and `stagedOutbox`. -/
structure Staged (S T C η : Type) where
  store : InMemoryDurableRuntimeStore S T C η
  stagedOutbox : List (DurableOutboxEvent η)

def callTransaction (view : Staged S T C η) :
    {α : Type} → TxCall S T C η α → Except DalError (α × Staged S T C η)
  | _, .getSession id => do
      assertSession sessionId id
      let record ← InMemorySessionStore.get view.store.sessions id
      .ok (record, view)
  | _, .putSession record => do
      assertSession sessionId (codec.session.id record)
      let sessions ← InMemorySessionStore.put codec.session view.store.sessions record
      .ok ((), { view with store := { view.store with sessions } })
  | _, .updateSession id updater => do
      assertSession sessionId id
      let (record, sessions) ←
        InMemorySessionStore.update codec.session view.store.sessions id updater
      .ok (record, { view with store := { view.store with sessions } })
  | _, .getTurn candidate id => do
      assertSession sessionId candidate
      let record ← InMemoryChildStore.get InMemoryTurnStore.kind codec.turn view.store.turns
        candidate id
      .ok (record, view)
  | _, .listTurns candidate => do
      assertSession sessionId candidate
      let records ← InMemoryChildStore.listBySession InMemoryTurnStore.kind view.store.turns
        candidate
      .ok (records, view)
  | _, .putTurn record => do
      assertSession sessionId (codec.turn.sessionId record)
      let turns ← InMemoryChildStore.put InMemoryTurnStore.kind codec.turn view.store.turns record
      .ok ((), { view with store := { view.store with turns } })
  | _, .updateTurn candidate id updater => do
      assertSession sessionId candidate
      let (record, turns) ← InMemoryChildStore.update InMemoryTurnStore.kind codec.turn
        view.store.turns candidate id updater
      .ok (record, { view with store := { view.store with turns } })
  | _, .getToolCall candidate id => do
      assertSession sessionId candidate
      let record ← InMemoryChildStore.get InMemoryToolCallStore.kind codec.toolCall
        view.store.toolCalls candidate id
      .ok (record, view)
  | _, .listToolCalls candidate => do
      assertSession sessionId candidate
      let records ← InMemoryChildStore.listBySession InMemoryToolCallStore.kind
        view.store.toolCalls candidate
      .ok (records, view)
  | _, .putToolCall record => do
      assertSession sessionId (codec.toolCall.sessionId record)
      let toolCalls ← InMemoryChildStore.put InMemoryToolCallStore.kind codec.toolCall
        view.store.toolCalls record
      .ok ((), { view with store := { view.store with toolCalls } })
  | _, .updateToolCall candidate id updater => do
      assertSession sessionId candidate
      let (record, toolCalls) ← InMemoryChildStore.update InMemoryToolCallStore.kind
        codec.toolCall view.store.toolCalls candidate id updater
      .ok (record, { view with store := { view.store with toolCalls } })
  | _, .appendOutbox event => do
      assertSession sessionId event.sessionId
      let envelope ← codec.decodeOutboxEnvelope event.aggregateType event.envelope
        ("outbox:" ++ event.id) event.version
      let known (events : List (DurableOutboxEvent η)) : Bool :=
        events.any fun existing => existing.id = event.id
      if known view.store.outbox || known view.stagedOutbox then .ok ((), view)
      else .ok ((), { view with stagedOutbox := view.stagedOutbox ++ [{ event with envelope }] })

/-- A callback run in its transaction, to its result and what it staged. -/
def operate : TxProgram S T C η χ τ → List (DurableOutboxEvent η) →
    Operation S T C η χ (τ × List (DurableOutboxEvent η))
  | .settle result, staged => ExceptT.mk (.done (result.map fun value => (value, staged)))
  | .consult next, staged =>
      ExceptT.mk (.step (fun _ store => store) fun env _ => operate (next env.answer) staged)
  | .call request next, staged =>
      ExceptT.mk (.step
        (fun _ store => match callTransaction codec sessionId ⟨store, staged⟩ request with
          | .ok (_, view) => view.store
          | .error _ => store)
        fun _ store => match callTransaction codec sessionId ⟨store, staged⟩ request with
          | .ok (value, view) => operate (next (.ok value)) view.stagedOutbox
          | .error e => operate (next (.error e)) staged)

end Transaction

/-! ### The operations -/

section Operations

variable (codec : DalCodec S T C η)

/-- The body that the fenced and the unfenced transaction share: `allowed` is asked before the
callback and again after it, and anything thrown in between restores what was read before. -/
def transact (sessionId : SessionId) (allowed : Option SessionLease → Bool)
    (operation : TxProgram S T C η χ τ) : Operation S T C η χ τ := do
  let active ← leasesGet sessionId
  if allowed active then
    let sessionBefore ← sessionsGet sessionId
    let turnsBefore ← turnsList sessionId
    let toolsBefore ← toolCallsList sessionId
    tryCatchThe DalError
      (do
        let (result, staged) ← operate codec sessionId operation []
        let still ← leasesGet sessionId
        if allowed still then
          outboxCommit staged
          return result
        else throw (.leaseLost sessionId))
      fun error => do
        restoreSession sessionId sessionBefore
        restoreTurns sessionId turnsBefore
        restoreToolCalls sessionId toolsBefore
        throw error
  else throw (.leaseLost sessionId)

/-- Whether the live lease is the one the caller holds. -/
def owns (lease : LeaseIdentity) (active : Option SessionLease) : Bool :=
  active.any fun active => active.holder = lease.holder ∧ .int active.fence = lease.fence ∧
    active.generationId = lease.generationId

theorem owns_eq_true {lease : LeaseIdentity} {active : Option SessionLease} :
    owns lease active = true ↔ ∃ current, active = some current ∧ current.holder = lease.holder ∧
      .int current.fence = lease.fence ∧ current.generationId = lease.generationId := by
  cases active <;> simp [owns]

def runSessionTransaction (sessionId : SessionId) (lease : LeaseIdentity)
    (operation : TxProgram S T C η χ τ) : Operation S T C η χ τ :=
  transact codec sessionId (owns lease) operation

def runUnfencedSessionTransaction (sessionId : SessionId)
    (operation : TxProgram S T C η χ τ) : Operation S T C η χ τ :=
  transact codec sessionId (·.isNone) operation

/-- `.catch(() => null)` and `.catch(() => undefined)`. -/
def ignoring (operation : Operation S T C η χ α) (fallback : α) : Operation S T C η χ α :=
  tryCatchThe DalError operation fun _ => pure fallback

/-- `createTransaction(sessionId, stagedOutbox).appendOutbox(initialEvent(lease))` on a fresh
stage, then `commitOutbox`. -/
def appendInitial (sessionId : SessionId)
    (initialEvent : SessionLease → Except DalError (DurableOutboxEvent η))
    (lease : SessionLease) : Operation S T C η χ Unit := do
  let staged ← reading fun _ store => do
    let event ← initialEvent lease
    let (_, view) ← callTransaction codec sessionId ⟨store, []⟩ (.appendOutbox event)
    .ok view.stagedOutbox
  outboxCommit staged

/-- The branch of `createSessionWithLease` for a session that is already stored. -/
def attachLease (record existing : S) (holder : String) (ttlMs : Number)
    (initialEvent : Option (SessionLease → Except DalError (DurableOutboxEvent η))) :
    Operation S T C η χ (Option SessionLease) := do
  let sessionId := codec.session.id record
  if codec.session.sameRecord existing record then
    let leaseBefore ← ignoring (leasesGet sessionId) none
    let lease ← leasesAcquire sessionId holder ttlMs
    match lease, initialEvent with
    | some granted, some initialEvent =>
      tryCatchThe DalError (appendInitial codec sessionId initialEvent granted) fun error => do
        let fresh := leaseBefore.all fun before =>
          decide (before.fence ≠ granted.fence ∨ before.holder ≠ holder)
        if fresh then
          ignoring (leasesRelease sessionId holder (.int granted.fence) granted.generationId) ()
        throw error
      return lease
    | _, _ => return lease
  else throw (.recordConflict ("Session:" ++ sessionId))

/-- The branch of `createSessionWithLease` for a session that is not stored yet. -/
def insertWithLease (record : S) (holder : String) (ttlMs : Number)
    (initialEvent : Option (SessionLease → Except DalError (DurableOutboxEvent η))) :
    Operation S T C η χ (Option SessionLease) := do
  let sessionId := codec.session.id record
  tryCatchThe DalError
    (do
      Program.atomic fun _ store =>
        match InMemorySessionStore.put codec.session store.sessions record with
        | .ok sessions => (.ok (), { store with sessions })
        | .error e => (.error e, store)
      let lease ← leasesAcquire sessionId holder ttlMs
      match lease, initialEvent with
      | none, _ => restoreSession sessionId none
      | some granted, some initialEvent => appendInitial codec sessionId initialEvent granted
      | some _, none => pure ()
      return lease)
    fun error => do
      let lease ← ignoring (leasesGet sessionId) none
      match lease with
      | some current =>
        if current.holder = holder then
          ignoring (leasesRelease sessionId holder (.int current.fence) current.generationId) ()
      | none => pure ()
      restoreSession sessionId none
      throw error

def createSessionWithLease (record : S) (holder : String) (ttlMs : Number)
    (initialEvent : Option (SessionLease → Except DalError (DurableOutboxEvent η))) :
    Operation S T C η χ (Option SessionLease) := do
  let existing ← sessionsGet (codec.session.id record)
  match existing with
  | some existing => attachLease codec record existing holder ttlMs initialEvent
  | none => insertWithLease codec record holder ttlMs initialEvent

end Operations

end InMemoryDurableRuntime

end Tvic
