import Tvic.Core.Transaction
import Tvic.Dal.InMemoryStores
import Tvic.Lib.InsertionMap
import Tvic.Lib.Optimistic
import Tvic.Lib.SortedSet
import Tvic.Redis.Keys
import Tvic.Redis.LeaseRecord

/-!
# Redis session transactions

`RedisSessionTransaction` of `packages/dal-redis/src/redis-transaction.ts`, the
`listBySession` it reads through (`record-stores.ts`), `FENCED_TRANSACTION_SCRIPT` and
`runSessionTransaction` of `index.ts`. A transaction reads the live keys one at a time and keeps
its writes to itself; the script checks and applies them at once.
-/
namespace Tvic.Redis

open Lib

inductive RedisValue where
  | string (raw : String)
  | zset (set : SortedSet String)

/-- The record and index keys, and the lease of each session as `readLease` sees it. -/
structure RedisDb where
  values : String → Option RedisValue
  leases : SessionId → Option StoredLease

namespace RedisDb

def wrongType : DalError :=
  .error "WRONGTYPE Operation against a key holding the wrong kind of value"

def get (db : RedisDb) (key : String) : Except DalError (Option String) :=
  match db.values key with
  | none => .ok none
  | some (.string raw) => .ok (some raw)
  | some (.zset _) => .error wrongType

def zrange (db : RedisDb) (key : String) : Except DalError (List String) :=
  match db.values key with
  | none => .ok []
  | some (.zset set) => .ok set.members
  | some (.string _) => .error wrongType

def isSortedSetOrMissing (db : RedisDb) (key : String) : Bool :=
  match db.values key with
  | some (.string _) => false
  | _ => true

def set (db : RedisDb) (key raw : String) : RedisDb :=
  { db with values := Function.update db.values key (some (.string raw)) }

/-- `ZADD`, on a key that `isSortedSetOrMissing` has let through. -/
def zadd (db : RedisDb) (key : String) (score : Int) (member : String) : RedisDb :=
  match db.values key with
  | some (.string _) => db
  | some (.zset set) =>
      { db with values := Function.update db.values key (some (.zset (set.add score member))) }
  | none =>
      { db with
        values := Function.update db.values key (some (.zset (SortedSet.empty.add score member))) }

end RedisDb

/-! ### The commit script -/

/-- `expectedValue ?? "*"`. The texts `*` and `__absent__` are no JSON, so no record has them. -/
inductive Expected where
  | any
  | absent
  | value (raw : String)
  deriving DecidableEq

/-- One write of a transaction. An `orderScore` that is not a number is `none`. -/
structure RedisWrite where
  key : String
  value : String
  indexKey : String
  orderScore : Option Int
  expectedValue : Expected
  deriving DecidableEq

inductive ScriptReply where
  | committed
  | leaseLost
  | conflict
  | errorReply (code : String)
  deriving DecidableEq

/-- The values gathered so far by `commitRecords` in one `MSET`. -/
def mset (db : RedisDb) (values : List RedisWrite) : RedisDb :=
  values.foldl (fun db write => db.set write.key write.value) db

/-- `commitRecords`, which writes at most 500 records with one `MSET`. -/
def commitRecords (db : RedisDb) (values : List RedisWrite) : List RedisWrite → RedisDb
  | [] => mset db values
  | write :: rest =>
      let db := if write.indexKey = "" then db
        else db.zadd write.indexKey (write.orderScore.getD 0) write.key
      let values := values ++ [write]
      if values.length = 500 then commitRecords (mset db values) [] rest
      else commitRecords db values rest

/-- The script's check of a write's index, before anything is written. -/
def indexReply (db : RedisDb) (write : RedisWrite) : Option ScriptReply :=
  if write.indexKey = "" then none
  else if write.orderScore.isNone then some (.errorReply "TVIC_RECORD_INDEX_SCORE")
  else if db.isSortedSetOrMissing write.indexKey then none
  else some (.errorReply "TVIC_RECORD_INDEX_TYPE")

/-- Whether the key still has what the write expects. -/
def RedisWrite.accepts (write : RedisWrite) (current : Option String) : Bool :=
  match write.expectedValue with
  | .any => current.isNone || current = some write.value
  | .absent => current.isNone
  | .value raw => current = some raw

def expectedReply (db : RedisDb) (write : RedisWrite) : Option ScriptReply :=
  match db.get write.key with
  | .error _ => some (.errorReply "WRONGTYPE")
  | .ok current => if write.accepts current then none else some .conflict

/-- The script's check of the lease, at the server's clock. -/
def leaseReply (db : RedisDb) (now : Nat) (sessionId : SessionId) (holder : String) (fence : Nat)
    (generationId : String) : Option ScriptReply :=
  match db.leases sessionId with
  | none => some .leaseLost
  | some .corrupt => some (.errorReply "TVIC_LEASE_RECORD_INVALID")
  | some (.record lease) =>
    if lease.sessionId ≠ sessionId then some .leaseLost
    else if maxSafeInteger < now then some (.errorReply "TVIC_LEASE_TIMESTAMP_RANGE")
    else if lease.holder ≠ holder ∨ lease.fence ≠ fence ∨ lease.generation ≠ generationId ∨
        lease.expiresAtMs ≤ now then some .leaseLost
    else none

/-- `FENCED_TRANSACTION_SCRIPT`: all checks come before the first write. -/
def fencedTransaction (db : RedisDb) (now : Nat) (sessionId : SessionId) (holder : String)
    (fence : Nat) (generationId : String) (writes : List RedisWrite) : ScriptReply × RedisDb :=
  match (leaseReply db now sessionId holder fence generationId).or
      ((writes.findSome? (indexReply db)).or (writes.findSome? (expectedReply db))) with
  | some reply => (reply, db)
  | none => (.committed, commitRecords db [] writes)

/-! ### Reading -/

inductive RedisRead where
  | get (key : String)
  | zrange (key : String)
  deriving DecidableEq

abbrev RedisRead.Reply : RedisRead → Type
  | .get _ => Except DalError (Option String)
  | .zrange _ => Except DalError (List String)

instance : (what : RedisRead) → DecidableEq what.Reply
  | .get _ => inferInstanceAs (DecidableEq (Except DalError (Option String)))
  | .zrange _ => inferInstanceAs (DecidableEq (Except DalError (List String)))

def observe (db : RedisDb) : (what : RedisRead) → what.Reply
  | .get key => db.get key
  | .zrange key => db.zrange key

/-- What a step may take from outside: what the callback consults, and which of the reads that are
under way at once comes next. -/
structure TxInput (χ : Type) where
  answer : χ
  pick : Nat
  deriving DecidableEq

/-- What the Redis stores use of a record beside the in-memory ones: the text form, the score in
the index, and the comparisons of the two sorts it goes through. -/
structure RedisRecordCodec (ρ : Type) extends RecordCodec ρ where
  decode : String → String → Except DalError ρ
  encode : ρ → Except DalError String
  orderScore : ρ → Option Int
  storeOrder : ρ → ρ → Bool
  transactionOrder : ρ → ρ → Bool

structure TxState (S T C : Type) where
  sessionCache : InsertionMap String (Option S) := []
  turnCache : InsertionMap String (Option T) := []
  toolCache : InsertionMap String (Option C) := []
  writes : InsertionMap String RedisWrite := []
  outbox : InsertionMap String RedisWrite := []
  expectedValues : InsertionMap String Expected := []
  rawSnapshots : InsertionMap String (Option String) := []

variable {S T C η χ τ ρ α : Type}

abbrev RedisReader (χ : Type) := Reader RedisRead RedisRead.Reply (TxInput χ)

/-- A method of the transaction. What it has cached stays cached when it rejects. -/
abbrev Tx (S T C χ : Type) := ExceptT DalError (StateT (TxState S T C) (RedisReader χ))

def Tx.reply (result : Except DalError α) : Tx S T C χ α := ExceptT.mk (pure result)

def clientGet (key : String) : Tx S T C χ (Option String) :=
  ExceptT.mk fun state => .read (.get key) fun result => .done (result, state)

def clientZrange (key : String) : Tx S T C χ (List String) :=
  ExceptT.mk fun state => .read (.zrange key) fun result => .done (result, state)

def consult : Tx S T C χ (TxInput χ) :=
  ExceptT.mk fun state => .consult fun input => .done (.ok input, state)

def toDurableError : DalError → DalError
  | .error message => .backendUnavailable ("Redis operation failed: " ++ message)
  | e => e

/-- What the methods for sessions, turns and tool calls differ in. -/
structure TxKind (S T C ρ : Type) where
  codec : RedisRecordCodec ρ
  key : String → String
  label : String → String
  notFound : String → String
  indexKey : String
  cache : TxState S T C → InsertionMap String (Option ρ)
  setCache : TxState S T C → InsertionMap String (Option ρ) → TxState S T C

section Methods

variable (kind : TxKind S T C ρ)

/-- The body of `getSession`, `getTurn` and `getToolCall`. -/
def readRecord (id : String) : Tx S T C χ (Option ρ) := do
  match InsertionMap.get (kind.cache (← get)) id with
  | some record => return record
  | none => do
    let raw ← clientGet (kind.key id)
    let record ← match raw with
      | none => pure none
      | some raw => some <$> Tx.reply (kind.codec.decode raw (kind.label id))
    modify fun state =>
      let snapshots := InsertionMap.set state.rawSnapshots (kind.key id) raw
      kind.setCache { state with rawSnapshots := snapshots }
        (InsertionMap.set (kind.cache state) id record)
    return record

def rememberExpected (key : String) (cacheKnown : Bool) : Tx S T C χ Unit := do
  let state ← get
  if InsertionMap.has state.expectedValues key then return ()
  else do
    let expected ←
      if cacheKnown then
        match InsertionMap.get state.rawSnapshots key with
        | none => throw (.error ("Missing Redis snapshot for transaction write " ++ key))
        | some none => pure .absent
        | some (some raw) => pure (.value raw)
      else pure .any
    modify fun state =>
      { state with expectedValues := InsertionMap.set state.expectedValues key expected }

/-- The body of `putSession`, `putTurn` and `putToolCall`. -/
def putRecord (record : ρ) : Tx S T C χ Unit := do
  let id := kind.codec.id record
  let previous := InsertionMap.get (kind.cache (← get)) id
  let version := (kind.codec.version record).or (previous.join.bind kind.codec.version)
  let normalized ← Tx.reply
    (kind.codec.normalize (kind.codec.withVersion record (version.getD 1)) (kind.label id))
  modify fun state =>
    kind.setCache state (InsertionMap.set (kind.cache state) id (some normalized))
  rememberExpected (kind.key id) previous.isSome
  let value ← Tx.reply (kind.codec.encode normalized)
  modify fun state =>
    let expected := (InsertionMap.get state.expectedValues (kind.key id)).getD .any
    let write : RedisWrite :=
      { key := kind.key id, value, indexKey := kind.indexKey,
        orderScore := kind.codec.orderScore record, expectedValue := expected }
    { state with writes := InsertionMap.set state.writes write.key write }

def withIncrementedVersion (current next : ρ) : ρ :=
  kind.codec.withVersion next (((kind.codec.version current).map (· + 1)).getD 2)

/-- The body of `updateSession`, `updateTurn` and `updateToolCall`; the put asserts the session of
what the updater returns. -/
def updateRecord (sessionId : SessionId) (id : String) (updater : ρ → Except DalError ρ) :
    Tx S T C χ ρ := do
  match ← readRecord kind id with
  | none => throw (.recordNotFound (kind.notFound id))
  | some current => do
    let next ← Tx.reply (updater current)
    let next := withIncrementedVersion kind current next
    Tx.reply (assertSession sessionId (kind.codec.sessionId next))
    putRecord kind next
    return next

end Methods

section Listing

variable (keyPrefix : Option String) (parseIncarnation : String → String → Except DalError (Option Nat))

/-- `readProjectedSessionIncarnation`: nothing without metadata, and null for a retired session. -/
def readProjectedSessionIncarnation (key : String) : Tx S T C χ (Option (Option Nat)) := do
  match ← clientGet key with
  | none => return none
  | some raw => return some (← Tx.reply (parseIncarnation raw key))

def belongsToProjectedSessionIncarnation (recordKey : String)
    (sessionIncarnation : Option (Option Nat)) : Tx S T C χ Bool := do
  match sessionIncarnation with
  | none => return true
  | some none => return false
  | some (some incarnation) =>
    let own ← readProjectedSessionIncarnation parseIncarnation (recordKey ++ ":cache_meta")
    return own == some (some incarnation)

/-- The callback that `listBySession` maps over the index. -/
def readIndexed (codec : RedisRecordCodec ρ) (sessionIncarnation : Option (Option Nat))
    (key : String) : Tx S T C χ (Option ρ) := do
  match ← clientGet key with
  | none => return none
  | some raw =>
    if ← belongsToProjectedSessionIncarnation parseIncarnation key sessionIncarnation then
      return some (← Tx.reply (codec.decode raw ("redis:" ++ key)))
    else return none

/-- `mapWithConcurrency`: the reads under way may answer in any order, so any of the pending keys
may come next, and the first failure is the failure of the whole. -/
def mapWithConcurrency (map : String → Tx S T C χ (Option ρ)) :
    Nat → List String → InsertionMap String (Option ρ) → Tx S T C χ (InsertionMap String (Option ρ))
  | 0, _, found => return found
  | n + 1, pending, found => do
    let input ← consult
    let index := input.pick % pending.length
    let key := pending.getD index ""
    let record ← map key
    mapWithConcurrency map n (pending.eraseIdx index) (InsertionMap.set found key record)

/-- `listBySession` of the turn and the tool-call store. -/
def listBySession (codec : RedisRecordCodec ρ) (indexKey : String) (sessionId : SessionId) :
    Tx S T C χ (List ρ) :=
  tryCatchThe DalError
    (do
      let sessionIncarnation ← readProjectedSessionIncarnation parseIncarnation
        (sessionKey keyPrefix sessionId ++ ":cache_meta")
      let keys ← clientZrange indexKey
      let found ← mapWithConcurrency (readIndexed parseIncarnation codec sessionIncarnation)
        keys.length keys []
      let records := keys.filterMap fun key => (InsertionMap.get found key).join
      return records.mergeSort codec.storeOrder)
    fun e => throw (toDurableError e)

/-- The body of `listTurns` and `listToolCalls`: what is stored, overlaid with the cache. -/
def listRecords (kind : TxKind S T C ρ) (sessionId : SessionId) : Tx S T C χ (List ρ) := do
  let stored ← listBySession keyPrefix parseIncarnation kind.codec kind.indexKey sessionId
  let records := stored.foldl
    (fun records record => InsertionMap.set records (kind.codec.id record) record) []
  let overlaid := (kind.cache (← get)).foldl
    (fun (records : InsertionMap String ρ) entry => match entry.2 with
      | some record => InsertionMap.set records (kind.codec.id record) record
      | none => InsertionMap.delete records entry.1) records
  return (InsertionMap.values overlaid).mergeSort kind.codec.transactionOrder

end Listing

/-- The codecs of a store, `parseIncarnation` of the projection metadata and the text of an outbox
event. -/
structure RedisCodec (S T C η : Type) where
  session : RedisRecordCodec S
  turn : RedisRecordCodec T
  toolCall : RedisRecordCodec C
  parseIncarnation : String → String → Except DalError (Option Nat)
  decodeOutboxEnvelope : AggregateType → η → String → Nat → Except DalError η
  encodeOutboxEvent : DurableOutboxEvent η → String

namespace RedisSessionTransaction

variable (keyPrefix : Option String) (codec : RedisCodec S T C η) (sessionId : SessionId)

/-! The caches of turns and tool calls are keyed by `${sessionId}:${id}` in the source, always with
the transaction's own session, and by the id alone here. -/

def sessionKind : TxKind S T C S where
  codec := codec.session
  key := sessionKey keyPrefix
  label id := "redis:session:" ++ id
  notFound id := "session:" ++ id
  indexKey := sessionIndexKey keyPrefix
  cache := (·.sessionCache)
  setCache state sessionCache := { state with sessionCache }

def turnKind : TxKind S T C T where
  codec := codec.turn
  key := turnKey keyPrefix sessionId
  label id := "redis:turn:" ++ sessionId ++ ":" ++ id
  notFound id := "turn:" ++ sessionId ++ ":" ++ id
  indexKey := turnIndexKey keyPrefix sessionId
  cache := (·.turnCache)
  setCache state turnCache := { state with turnCache }

def toolCallKind : TxKind S T C C where
  codec := codec.toolCall
  key := toolCallKey keyPrefix sessionId
  label id := "redis:tool_call:" ++ sessionId ++ ":" ++ id
  notFound id := "tool_call:" ++ sessionId ++ ":" ++ id
  indexKey := toolIndexKey keyPrefix sessionId
  cache := (·.toolCache)
  setCache state toolCache := { state with toolCache }

def appendOutbox (event : DurableOutboxEvent η) : Tx S T C χ Unit := do
  let envelope ← Tx.reply (codec.decodeOutboxEnvelope event.aggregateType event.envelope
    ("outbox:" ++ event.id) event.version)
  let write : RedisWrite :=
    { key := outboxKey keyPrefix event.id, value := codec.encodeOutboxEvent { event with envelope },
      indexKey := "", orderScore := some 0, expectedValue := .any }
  modify fun state => { state with outbox := InsertionMap.set state.outbox write.key write }

def method {α : Type} (request : TxCall S T C η α) : Tx S T C χ α :=
  let assert (candidate : SessionId) : Tx S T C χ Unit :=
    Tx.reply (assertSession sessionId candidate)
  let turns := turnKind keyPrefix codec sessionId
  let toolCalls := toolCallKind keyPrefix codec sessionId
  match request with
  | .getSession id => do
      assert id
      readRecord (sessionKind keyPrefix codec) id
  | .putSession record => do
      assert (codec.session.id record)
      putRecord (sessionKind keyPrefix codec) record
  | .updateSession id updater => do
      assert id
      updateRecord (sessionKind keyPrefix codec) sessionId id updater
  | .getTurn candidate id => do
      assert candidate
      readRecord turns id
  | .listTurns candidate => do
      assert candidate
      listRecords keyPrefix codec.parseIncarnation turns candidate
  | .putTurn record => do
      assert (codec.turn.sessionId record)
      putRecord turns record
  | .updateTurn candidate id updater => do
      assert candidate
      updateRecord turns sessionId id updater
  | .getToolCall candidate id => do
      assert candidate
      readRecord toolCalls id
  | .listToolCalls candidate => do
      assert candidate
      listRecords keyPrefix codec.parseIncarnation toolCalls candidate
  | .putToolCall record => do
      assert (codec.toolCall.sessionId record)
      putRecord toolCalls record
  | .updateToolCall candidate id updater => do
      assert candidate
      updateRecord toolCalls sessionId id updater
  | .appendOutbox event => do
      assert event.sessionId
      appendOutbox keyPrefix codec event

/-- `writes()`: the record writes, then the outbox writes. -/
def writes (state : TxState S T C) : List RedisWrite :=
  InsertionMap.values state.writes ++ InsertionMap.values state.outbox

/-- The callback's run on the transaction. -/
def operate : TxProgram S T C η χ τ → TxState S T C →
    RedisReader χ (Except DalError τ × TxState S T C)
  | .settle result, state => .done (result, state)
  | .consult next, state => .consult fun input => operate (next input.answer) state
  | .call request next, state =>
      ((method keyPrefix codec sessionId request).run.run state).bind fun (result, state) =>
        operate (next result) state

end RedisSessionTransaction

/-- What a call of `runSessionTransaction` has when it comes to its commit: the checked fence, the
callback's result and the writes, or the error it rejects with. -/
abbrev Prepared (τ : Type) := Except DalError (Nat × τ × List RedisWrite)

/-- `runSessionTransaction` up to its `eval`. -/
def prepare (keyPrefix : Option String) (codec : RedisCodec S T C η) (sessionId : SessionId)
    (lease : LeaseIdentity) (operation : TxProgram S T C η χ τ) : RedisReader χ (Prepared τ) :=
  match assertLeaseFence lease.fence with
  | .error e => .done (.error e)
  | .ok fence =>
      (RedisSessionTransaction.operate keyPrefix codec sessionId operation {}).bind
        fun (result, state) => .done <| match result with
          | .ok value => .ok (fence, value, RedisSessionTransaction.writes state)
          | .error e => .error (toDurableError e)

/-- `runSessionTransaction` from its `eval` on, at the server's clock. -/
def commit (sessionId : SessionId) (lease : LeaseIdentity) (now : Nat) (prepared : Prepared τ)
    (db : RedisDb) : Except DalError τ × RedisDb :=
  match prepared with
  | .error e => (.error e, db)
  | .ok (fence, value, writes) =>
    match fencedTransaction db now sessionId lease.holder fence lease.generationId writes with
    | (.committed, db) => (.ok value, db)
    | (.conflict, db) => (.error (.recordConflict ("session:" ++ sessionId)), db)
    | (.leaseLost, db) => (.error (.leaseLost sessionId), db)
    | (.errorReply code, db) =>
        (.error (.backendUnavailable ("Redis operation failed: " ++ code)), db)

end Tvic.Redis
