import Mathlib.Algebra.Order.Ring.Unbundled.Rat
import Mathlib.Data.List.Sort
import Tvic.Lib.MapTotals
import Tvic.Lib.Text
import Tvic.Redis.Keys

/-!
# The in-memory store of memories

`InMemoryMemory` of `packages/dal/src/in-memory-memory.ts`. The values of its callers, `V`, and the
JSON values it keeps, `J`, are those of a `MemoryHost`, which says what the codec makes of them. A
call brings the dates its readings of the clock give, and returns the memory it leaves beside what
it answers.
-/
namespace Tvic

open Lib (InsertionMap)

abbrev UserId := String
abbrev OrganizationId := String
abbrev WorkflowId := String

inductive MemoryRef where
  | session (sessionId : SessionId)
  | user (userId : UserId)
  | organization (organizationId : OrganizationId)
  | workflow (workflowId : WorkflowId)
  deriving DecidableEq, Repr

inductive MemoryKind where
  | fact
  | summary
  | openItem
  | entityRef
  | raw
  | workingMemory
  deriving DecidableEq, Repr

def MemoryKind.text : MemoryKind → String
  | .fact => "fact"
  | .summary => "summary"
  | .openItem => "open_item"
  | .entityRef => "entity_ref"
  | .raw => "raw"
  | .workingMemory => "working_memory"

/-- A number as a caller gives it: a finite one, or the text of NaN or of an infinity. -/
inductive Quantity where
  | finite (value : ℚ)
  | nonFinite (text : String)
  deriving DecidableEq, Repr

/-- `Number.isSafeInteger(quantity) && quantity >= minimum`, giving the integer on success. -/
def Quantity.safeInteger? (minimum : Nat) : Quantity → Option Nat
  | .finite value =>
    if value.den = 1 ∧ (minimum : Int) ≤ value.num ∧ value.num ≤ maxSafeInteger then
      some value.num.toNat
    else none
  | .nonFinite _ => none

/-- The `getTime` of a `Date`; an invalid one has none. -/
abbrev ClockReading := Option Int

/-- The dates that the readings of a call give, one after the other. -/
abbrev Clock := Nat → ClockReading

/-- A text that the serializer returns: no JSON value has an empty one. -/
abbrev SerializedValue := { text : String // text ≠ "" }

def SerializedValue.byteLength (serialized : SerializedValue) : Nat := serialized.val.utf8ByteSize

/-- What the store uses of its codec and of the language. -/
structure MemoryHost (V J : Type) where
  /-- The serializer, with the message of the error it throws. -/
  serializeJsonValue : V → Except String SerializedValue
  parse : SerializedValue → J
  asTags : J → Option (List String)
  isObject : J → Bool
  valuesEqual : J → J → Bool
  /-- A stored value serialized and parsed once more. -/
  snapshot : J → J
  decimal : ℚ → String
  /-- `date.getTime() + ttlMs` -/
  addMs : Int → ℚ → ℚ
  localeCompare : String → String → Int

/-- The error classes of the store, with what they are constructed from. -/
inductive MemoryError where
  | invalidArgument (message : String)
  | entryTooLarge (key : String) (sizeBytes maxBytes : Nat)
  | sessionQuotaExceeded (sessionId : SessionId) (usedBytes requestedBytes : Int) (maxBytes : Nat)
  | recordConflict (record : String)
  /-- What `toISOString` throws at an invalid date. -/
  | rangeError
  deriving DecidableEq, Repr

def MemoryError.isSessionQuotaExceeded : MemoryError → Bool
  | .sessionQuotaExceeded .. => true
  | _ => false

/-- The timestamps are kept as the milliseconds they stand for. -/
structure MemoryEntry (J : Type) where
  id : String
  ref : MemoryRef
  key : String
  kind : MemoryKind
  value : J
  version : Nat
  createdAt : Int
  updatedAt : Int
  tags : Option (List String)
  metadata : Option J
  expiresAtMs : Option ℚ
  deriving DecidableEq, Repr

structure StoredMemoryEntry (J : Type) where
  entry : MemoryEntry J
  valueBytes : Nat
  expiresAtMs : Option ℚ
  memoryUserId : Option UserId
  nonempty : 0 < valueBytes
  deriving DecidableEq

structure MemoryPutOptions (V : Type) where
  tags : Option V := none
  metadata : Option V := none
  ttlMs : Option Quantity := none
  sessionUserId : Option UserId := none
  maxSessionBytes : Option Quantity := none
  ifNotExists : Bool := false

structure MemoryQuery where
  key : Option String := none
  keyPrefix : Option String := none
  kind : Option MemoryKind := none
  tags : Option (List String) := none
  limit : Option Quantity := none
  cursor : Option String := none

structure InMemoryMemory (J : Type) where
  entries : InsertionMap String (StoredMemoryEntry J)
  sessionBytes : InsertionMap SessionId Int
  nextId : Nat
  deriving DecidableEq

/-- The options as the constructor keeps them. -/
structure InMemoryMemoryOptions where
  idPrefix : String
  maxEntryBytes : Option Nat

/-! ## Keys -/

def MemoryRef.scope : MemoryRef → String
  | .session _ => "session"
  | .user _ => "user"
  | .organization _ => "organization"
  | .workflow _ => "workflow"

def MemoryRef.ownerId : MemoryRef → String
  | .session id | .user id | .organization id | .workflow id => id

def refKey (ref : MemoryRef) : String := ref.scope ++ ":" ++ Redis.encodeKeyPart ref.ownerId

def entryKey (ref : MemoryRef) (key : String) (kind : MemoryKind) : String :=
  refKey ref ++ ":" ++ Redis.encodeKeyPart kind.text ++ ":" ++ Redis.encodeKeyPart key

def refKeyForError (ref : MemoryRef) : String := ref.scope ++ ":" ++ ref.ownerId

/-- `${refKey(ref)}:`, which the keys of the scope start with. -/
def underScope (ref : MemoryRef) (storageKey : String) : Bool :=
  (refKey ref ++ ":").toList.isPrefixOf storageKey.toList

/-! ## Checks of arguments -/

variable {V J : Type} (host : MemoryHost V J) (options : InMemoryMemoryOptions)

def Quantity.text : Quantity → String
  | .finite value => host.decimal value
  | .nonFinite text => text

def createInMemoryMemory (idPrefix : Option String) (maxEntryBytes : Option Quantity) :
    Except MemoryError InMemoryMemoryOptions :=
  match maxEntryBytes with
  | none => .ok { idPrefix := idPrefix.getD "mem", maxEntryBytes := none }
  | some maximum =>
    match maximum.safeInteger? 1 with
    | some bytes => .ok { idPrefix := idPrefix.getD "mem", maxEntryBytes := some bytes }
    | none =>
      .error (.invalidArgument
        ("maxEntryBytes must be a positive safe integer: " ++ maximum.text host))

/-- `text.trim().length === 0` -/
def isBlank (text : String) : Bool := (Lib.utf16 text).all Lib.isWhitespace

def serializeMemoryValue (key : String) (value : V) : Except MemoryError SerializedValue :=
  match host.serializeJsonValue value with
  | .ok serialized => .ok serialized
  | .error message =>
    .error (.invalidArgument ("Memory value " ++ key ++
      " must be a finite, acyclic JSON-compatible value: " ++ message))

def parseMemoryTags (serialized : SerializedValue) (key : String) :
    Except MemoryError (List String) :=
  match host.asTags (host.parse serialized) with
  | some tags => .ok tags
  | none => .error (.invalidArgument ("Memory tags " ++ key ++ " must be an array of strings"))

def parseMemoryMetadata (serialized : SerializedValue) (key : String) : Except MemoryError J :=
  if host.isObject (host.parse serialized) then .ok (host.parse serialized)
  else .error (.invalidArgument ("Memory metadata " ++ key ++ " must be an object"))

def cloneMemoryEntry (entry : MemoryEntry J) : MemoryEntry J :=
  { entry with
    value := host.snapshot entry.value
    metadata := entry.metadata.map host.snapshot }

/-- `/^(0|[1-9]\d*)$/` -/
def isDecimalOffset (cursor : String) : Bool :=
  match cursor.toList with
  | ['0'] => true
  | first :: rest => '1' ≤ first && first ≤ '9' && rest.all Char.isDigit
  | [] => false

def parseMemoryCursor (cursor : Option String) : Except MemoryError Nat :=
  match cursor with
  | none => .ok 0
  | some cursor =>
    if isDecimalOffset cursor then
      let offset := cursor.toList.foldl (fun offset digit => 10 * offset + (digit.toNat - 48)) 0
      if offset ≤ maxSafeInteger then .ok offset
      else
        .error (.invalidArgument ("Memory cursor exceeds the safe integer range: " ++ cursor))
    else
      .error (.invalidArgument
        ("Memory cursor must be a non-negative decimal offset: " ++ cursor))

def validateMemoryLimit (limit : Quantity) : Except MemoryError Nat :=
  match limit.safeInteger? 1 with
  | some limit => .ok limit
  | none =>
    .error (.invalidArgument ("Memory limit must be a positive safe integer: " ++ limit.text host))

def validateSessionQuota (ref : MemoryRef) (maxSessionBytes : Option Quantity) :
    Except MemoryError (Option Nat) :=
  match maxSessionBytes, ref with
  | none, _ => .ok none
  | some maximum, .session _ =>
    match maximum.safeInteger? 0 with
    | some bytes => .ok (some bytes)
    | none =>
      .error (.invalidArgument
        ("maxSessionBytes must be a non-negative safe integer: " ++ maximum.text host))
  | some _, _ =>
    .error (.invalidArgument "maxSessionBytes is only valid for session-scope writes")

def validateSessionUserId (ref : MemoryRef) (sessionUserId : Option UserId) :
    Except MemoryError Unit :=
  match sessionUserId, ref with
  | none, _ => .ok ()
  | some userId, .session _ =>
    if isBlank userId then
      .error (.invalidArgument
        "sessionUserId is only valid as a non-empty attribution for session-scope writes")
    else .ok ()
  | some _, _ =>
    .error (.invalidArgument
      "sessionUserId is only valid as a non-empty attribution for session-scope writes")

def enforceSize (key : String) (serializedValue : SerializedValue) : Except MemoryError Unit :=
  match options.maxEntryBytes with
  | none => .ok ()
  | some maximum =>
    if maximum < serializedValue.byteLength then
      .error (.entryTooLarge key serializedValue.byteLength maximum)
    else .ok ()

def validateTtl (ttlMs : Option Quantity) : Except MemoryError (Option ℚ) :=
  match ttlMs with
  | none => .ok none
  | some (.finite ttlMs) =>
    if ttlMs < 0 then
      .error (.invalidArgument
        ("ttlMs must be a non-negative finite number: " ++ host.decimal ttlMs))
    else .ok (some ttlMs)
  | some (.nonFinite text) =>
    .error (.invalidArgument ("ttlMs must be a non-negative finite number: " ++ text))

/-- The arguments of a `put` once they are checked. -/
structure CheckedPut (J : Type) where
  serializedValue : SerializedValue
  tags : Option (List String)
  metadata : Option J
  ttlMs : Option ℚ
  maxSessionBytes : Option Nat

/-- What `put` does before it looks at the stored entries. -/
def checkPut (ref : MemoryRef) (key : String) (value : V) (put : MemoryPutOptions V) :
    Except MemoryError (CheckedPut J) := do
  validateSessionUserId ref put.sessionUserId
  let maxSessionBytes ← validateSessionQuota host ref put.maxSessionBytes
  let serializedValue ← serializeMemoryValue host key value
  let serializedTags ← put.tags.mapM (serializeMemoryValue host (key ++ ":tags"))
  let serializedMetadata ← put.metadata.mapM (serializeMemoryValue host (key ++ ":metadata"))
  enforceSize options key serializedValue
  let tags ← serializedTags.mapM (parseMemoryTags host · (key ++ ":tags"))
  let metadata ← serializedMetadata.mapM (parseMemoryMetadata host · (key ++ ":metadata"))
  let ttlMs ← validateTtl host put.ttlMs
  .ok { serializedValue, tags, metadata, ttlMs, maxSessionBytes }

/-! ## The stored entries -/

def isExpired (stored : StoredMemoryEntry J) (now : ClockReading) : Bool :=
  match stored.expiresAtMs, now with
  | some expiresAtMs, some now => expiresAtMs ≤ now
  | _, _ => false

namespace InMemoryMemory

def empty : InMemoryMemory J where
  entries := []
  sessionBytes := []
  nextId := 1

def deleteStored (memory : InMemoryMemory J) (storageKey : String)
    (stored : StoredMemoryEntry J) : InMemoryMemory J :=
  if InsertionMap.has memory.entries storageKey then
    { memory with
      entries := InsertionMap.delete memory.entries storageKey
      sessionBytes :=
        match stored.entry.ref with
        | .session sessionId =>
          let used := (InsertionMap.get memory.sessionBytes sessionId).getD 0
          let remaining := used - stored.valueBytes
          if 0 < remaining then InsertionMap.set memory.sessionBytes sessionId remaining
          else InsertionMap.delete memory.sessionBytes sessionId
        | _ => memory.sessionBytes }
  else memory

def getStored (memory : InMemoryMemory J) (storageKey : String) (now : ClockReading) :
    InMemoryMemory J × Option (StoredMemoryEntry J) :=
  match InsertionMap.get memory.entries storageKey with
  | none => (memory, none)
  | some stored =>
    if isExpired stored now then (memory.deleteStored storageKey stored, none)
    else (memory, some stored)

def get (memory : InMemoryMemory J) (ref : MemoryRef) (key : String) (kind : Option MemoryKind)
    (clock : Clock) : InMemoryMemory J × Option (MemoryEntry J) :=
  let (memory, stored) := memory.getStored (entryKey ref key (kind.getD .raw)) (clock 0)
  (memory, stored.map fun stored => cloneMemoryEntry host stored.entry)

/-- What `put` answers on account of the entry that is there, where that ends the call. -/
def existingAnswer (ref : MemoryRef) (key : String) (kind : MemoryKind) (ifNotExists : Bool)
    (checked : CheckedPut J) :
    Option (StoredMemoryEntry J) → Option (Except MemoryError (MemoryEntry J))
  | none => none
  | some existing =>
    if ifNotExists then some (.ok (cloneMemoryEntry host existing.entry))
    else if host.valuesEqual existing.entry.value (host.parse checked.serializedValue) then none
    else
      some (.error (.recordConflict
        ("memory:" ++ refKeyForError ref ++ ":" ++ kind.text ++ ":" ++ key)))

/-- The quota error, where the projected bytes exceed the maximum. -/
def quotaError (memory : InMemoryMemory J) (ref : MemoryRef) (checked : CheckedPut J)
    (existing : Option (StoredMemoryEntry J)) : Option MemoryError :=
  match ref, checked.maxSessionBytes with
  | .session sessionId, some maxSessionBytes =>
    let usedBytes := (InsertionMap.get memory.sessionBytes sessionId).getD 0
    let previousBytes : Int := (existing.map (·.valueBytes)).getD 0
    let valueBytes : Int := checked.serializedValue.byteLength
    if usedBytes - previousBytes + valueBytes > maxSessionBytes then
      some (.sessionQuotaExceeded sessionId (usedBytes - previousBytes)
        (max 0 (valueBytes - previousBytes)) maxSessionBytes)
    else none
  | _, _ => none

def newEntry (ref : MemoryRef) (key : String) (kind : MemoryKind) (checked : CheckedPut J)
    (existing : Option (StoredMemoryEntry J)) (nextId : Nat) (now : Int) : MemoryEntry J where
  id := (existing.map (·.entry.id)).getD (options.idPrefix ++ "_" ++ toString nextId)
  ref := ref
  key := key
  kind := kind
  value := host.parse checked.serializedValue
  version := (existing.map (·.entry.version)).getD 0 + 1
  createdAt := (existing.map (·.entry.createdAt)).getD now
  updatedAt := now
  tags := checked.tags.or (existing.bind (·.entry.tags))
  metadata := checked.metadata.or (existing.bind (·.entry.metadata))
  expiresAtMs :=
    match checked.ttlMs with
    | some ttlMs => some (host.addMs now ttlMs)
    | none => existing.bind (·.entry.expiresAtMs)

/-- The last part of `put`: the entry and the session's counter. -/
def store (memory : InMemoryMemory J) (entry : MemoryEntry J) (sessionUserId : Option UserId)
    (serializedValue : SerializedValue) (existing : Option (StoredMemoryEntry J)) :
    InMemoryMemory J :=
  { memory with
    entries := InsertionMap.set memory.entries (entryKey entry.ref entry.key entry.kind)
      { entry := entry
        valueBytes := serializedValue.byteLength
        expiresAtMs := entry.expiresAtMs
        memoryUserId :=
          match entry.ref with
          | .session _ => sessionUserId.or (existing.bind (·.memoryUserId))
          | _ => none
        nonempty := by
          rw [SerializedValue.byteLength, Nat.pos_iff_ne_zero, ne_eq, String.utf8ByteSize_eq_zero_iff]
          exact serializedValue.property }
    sessionBytes :=
      match entry.ref with
      | .session sessionId =>
        let usedBytes := (InsertionMap.get memory.sessionBytes sessionId).getD 0
        InsertionMap.set memory.sessionBytes sessionId
          (usedBytes - (existing.map (·.valueBytes)).getD 0 + serializedValue.byteLength)
      | _ => memory.sessionBytes }

def put (memory : InMemoryMemory J) (ref : MemoryRef) (key : String) (kind : MemoryKind)
    (value : V) (putOptions : MemoryPutOptions V) (clock : Clock) :
    InMemoryMemory J × Except MemoryError (MemoryEntry J) :=
  match checkPut host options ref key value putOptions with
  | .error error => (memory, .error error)
  | .ok checked =>
    let (memory, existing) := memory.getStored (entryKey ref key kind) (clock 1)
    match existingAnswer host ref key kind putOptions.ifNotExists checked existing with
    | some answer => (memory, answer)
    | none =>
      match memory.quotaError ref checked existing with
      | some error => (memory, .error error)
      | none =>
        -- a new entry has its id before the timestamps are made
        let nextId := if existing.isSome then memory.nextId else memory.nextId + 1
        match clock 0 with
        | none => ({ memory with nextId }, .error .rangeError)
        | some now =>
          let entry := newEntry host options ref key kind checked existing memory.nextId now
          let memory := memory.store entry putOptions.sessionUserId checked.serializedValue existing
          ({ memory with nextId }, .ok (cloneMemoryEntry host entry))

/-- The entries of a scope that have not expired; those that have are removed on the way. -/
def sweep (ref : MemoryRef) (entries : InsertionMap String (StoredMemoryEntry J)) (clock : Clock)
    (memory : InMemoryMemory J) : InMemoryMemory J × List (StoredMemoryEntry J) :=
  match entries with
  | [] => (memory, [])
  | (storageKey, stored) :: rest =>
    if underScope ref storageKey then
      let later := if stored.expiresAtMs.isSome then fun reading => clock (reading + 1) else clock
      if isExpired stored (clock 0) then
        sweep ref rest later (memory.deleteStored storageKey stored)
      else
        let (memory, kept) := sweep ref rest later memory
        (memory, stored :: kept)
    else sweep ref rest clock memory

def tagsMatch (entryTags : Option (List String)) (queryTags : List String) : Bool :=
  queryTags.all fun tag => (entryTags.getD []).contains tag

def queryMatches (query : MemoryQuery) (entry : MemoryEntry J) : Bool :=
  query.key.all (entry.key = ·) &&
    query.keyPrefix.all (fun keyPrefix => keyPrefix.toList.isPrefixOf entry.key.toList) &&
    query.kind.all (entry.kind = ·) && tagsMatch entry.tags (query.tags.getD [])

/-- The latest first, then by key and by kind. -/
def listedBefore (a b : MemoryEntry J) : Bool :=
  let byDate := b.updatedAt - a.updatedAt
  let byKey := host.localeCompare a.key b.key
  let byKind := host.localeCompare a.kind.text b.kind.text
  (if byDate ≠ 0 then byDate else if byKey ≠ 0 then byKey else byKind) ≤ 0

def list (memory : InMemoryMemory J) (ref : MemoryRef) (query : MemoryQuery) (clock : Clock) :
    InMemoryMemory J × Except MemoryError (List (MemoryEntry J)) :=
  match parseMemoryCursor query.cursor with
  | .error error => (memory, .error error)
  | .ok offset =>
    match validateMemoryLimit host (query.limit.getD (.finite 100)) with
    | .error error => (memory, .error error)
    | .ok limit =>
      let (memory, stored) := sweep ref memory.entries clock memory
      let entries := (stored.map fun stored => cloneMemoryEntry host stored.entry).filter
        (queryMatches query)
      (memory, .ok (((entries.mergeSort (listedBefore host)).drop offset).take limit))

def delete (memory : InMemoryMemory J) (ref : MemoryRef) (key : String)
    (kind : Option MemoryKind) : InMemoryMemory J × Bool :=
  let storageKey := entryKey ref key (kind.getD .raw)
  match InsertionMap.get memory.entries storageKey with
  | none => (memory, false)
  | some stored => (memory.deleteStored storageKey stored, true)

/-- A loop over the entries that deletes those that pass a test, and counts them. -/
def deleteWhere (test : String × StoredMemoryEntry J → Bool)
    (entries : InsertionMap String (StoredMemoryEntry J)) (memory : InMemoryMemory J) :
    InMemoryMemory J × Nat :=
  match entries with
  | [] => (memory, 0)
  | entry :: rest =>
    if test entry then
      let (memory, deleted) := deleteWhere test rest (memory.deleteStored entry.1 entry.2)
      (memory, deleted + 1)
    else deleteWhere test rest memory

def deleteAll (memory : InMemoryMemory J) (ref : MemoryRef) : InMemoryMemory J × Nat :=
  deleteWhere (fun entry => underScope ref entry.1) memory.entries memory

def attributedTo (userId : UserId) (stored : StoredMemoryEntry J) : Bool :=
  match stored.entry.ref with
  | .session _ => stored.memoryUserId = some userId
  | _ => false

def deleteForUser (memory : InMemoryMemory J) (userId : UserId) : InMemoryMemory J × Nat :=
  let (memory, owned) := memory.deleteAll (.user userId)
  let (memory, attributed) :=
    deleteWhere (fun entry => attributedTo userId entry.2) memory.entries memory
  (memory, owned + attributed)

end InMemoryMemory

/-! ## Calls -/

inductive MemoryCall (V : Type) where
  | get (ref : MemoryRef) (key : String) (kind : Option MemoryKind) (clock : Clock)
  | put (ref : MemoryRef) (key : String) (kind : MemoryKind) (value : V)
      (putOptions : MemoryPutOptions V) (clock : Clock)
  | list (ref : MemoryRef) (query : MemoryQuery) (clock : Clock)
  | delete (ref : MemoryRef) (key : String) (kind : Option MemoryKind)
  | deleteAll (ref : MemoryRef)
  | deleteForUser (userId : UserId)

def InMemoryMemory.step (memory : InMemoryMemory J) : MemoryCall V → InMemoryMemory J
  | .get ref key kind clock => (memory.get host ref key kind clock).1
  | .put ref key kind value putOptions clock =>
    (memory.put host options ref key kind value putOptions clock).1
  | .list ref query clock => (memory.list host ref query clock).1
  | .delete ref key kind => (memory.delete ref key kind).1
  | .deleteAll ref => (memory.deleteAll ref).1
  | .deleteForUser userId => (memory.deleteForUser userId).1

end Tvic
