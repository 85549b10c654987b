import Tvic.Core.Numbers
import Tvic.Lib.InsertionMap
import Tvic.Lib.LexSet
import Tvic.Lib.SortedSet

/-!
# The recovery listing script

`LIST_RECOVERY_CANDIDATES_SCRIPT` of `packages/dal-redis/src/redis-lease-scripts.ts`, with
`readLease` of `redis-script-helpers.ts`. Redis and its scripts work on bytes. Every script adds the
candidates under the score 0, where `ZRANGEBYLEX` goes by the order of the members, so the set is a
`LexSet`. What `cjson.decode` makes of a text and what `GET` replies are parameters.
-/
namespace Tvic.Redis

open Lib

abbrev Byte := Fin 256

abbrev Bytes := List Byte

def bytes (literal : String) : Bytes := literal.toList.map fun char => Fin.ofNat 256 char.toNat

/-! ## Keys in the script -/

/-- The bytes that the script's `encodeKeyPart` leaves alone. -/
def safeByte (byte : Byte) : Bool :=
  (48 ≤ byte && byte ≤ 57) || (65 ≤ byte && byte ≤ 90) || (97 ≤ byte && byte ≤ 122) ||
    byte = 45 || byte = 95 || byte = 46 || byte = 33 || byte = 126 || byte = 42 || byte = 39 ||
    byte = 40 || byte = 41

def upperHexDigit (n : Nat) : Byte := Fin.ofNat 256 (if n < 10 then 48 + n else 55 + n)

/-- What `%x` of a Lua pattern matches, by its value. -/
def hexDigitValue (byte : Byte) : Option Nat :=
  if 48 ≤ byte && byte ≤ 57 then some (byte.val - 48)
  else if 65 ≤ byte && byte ≤ 70 then some (byte.val - 55)
  else if 97 ≤ byte && byte ≤ 102 then some (byte.val - 87)
  else none

namespace Script

def encodeByte (byte : Byte) : Bytes :=
  if safeByte byte then [byte]
  else [37, upperHexDigit (byte.val / 16), upperHexDigit (byte.val % 16)]

def encodeKeyPart (value : Bytes) : Bytes := value.flatMap encodeByte

def decodeKeyPart : Bytes → Bytes
  | 37 :: high :: low :: rest =>
    match hexDigitValue high, hexDigitValue low with
    | some h, some l => Fin.ofNat 256 (h * 16 + l) :: decodeKeyPart rest
    | _, _ => 37 :: decodeKeyPart (high :: low :: rest)
  | byte :: rest => byte :: decodeKeyPart rest
  | [] => []

end Script

/-! ## Lease records -/

/-- A value of `cjson.decode`. -/
inductive LuaValue where
  | null
  | boolean (value : Bool)
  | number (value : Double)
  | string (value : Bytes)
  | table (fields : List (Bytes × LuaValue))

/-- The number of a text of decimal digits. -/
def digitsValue (digits : Bytes) : Nat :=
  digits.foldl (fun value digit => value * 10 + (digit.val - 48)) 0

def LuaValue.safeInteger (value : LuaValue) (minimum : Nat) : Option Nat :=
  match value with
  | .number double => (double.safeInteger? minimum).map (·.val)
  | .string digits =>
    if digits = [] ∨ ¬digits.all (fun digit => 48 ≤ digit && digit ≤ 57) ∨
        (1 < digits.length ∧ digits.head? = some 48) then none
    else if minimum ≤ digitsValue digits ∧ digitsValue digits ≤ maxSafeInteger then
      some (digitsValue digits)
    else none
  | _ => none

/-- The fields of a lease that the listing reads. -/
structure IndexedLease where
  sessionId : Bytes
  fence : Nat
  generationId : Option Bytes
  acquiredAtMs : Nat
  expiresAtMs : Nat
  recoveryResolvedFence : Option Nat
  recoveryResolvedGenerationId : Option Bytes
  deriving DecidableEq, Repr

/-- A field that is absent, or a text that is not empty. -/
def optionalId (fields : List (Bytes × LuaValue)) (name : String) : Option (Option Bytes) :=
  match InsertionMap.get fields (bytes name) with
  | none => some none
  | some (.string id) => if id = [] then none else some (some id)
  | some _ => none

def readLease (decode : Bytes → Option LuaValue) (raw : Bytes) : Option IndexedLease :=
  match decode raw with
  | some (.table fields) => do
    let some (.string sessionId) := InsertionMap.get fields (bytes "sessionId") | none
    let some (.string _) := InsertionMap.get fields (bytes "holder") | none
    if sessionId = [] then none
    let fence ← (InsertionMap.get fields (bytes "fence")).bind (·.safeInteger 1)
    let acquiredAtMs ← (InsertionMap.get fields (bytes "acquiredAtMs")).bind (·.safeInteger 0)
    let _ ← (InsertionMap.get fields (bytes "renewedAtMs")).bind (·.safeInteger 0)
    let expiresAtMs ← (InsertionMap.get fields (bytes "expiresAtMs")).bind (·.safeInteger 0)
    let generationId ← optionalId fields "generationId"
    let recoveryResolvedFence ← match InsertionMap.get fields (bytes "recoveryResolvedFence") with
      | none => some none
      | some value => (value.safeInteger 1).map some
    let recoveryResolvedGenerationId ← optionalId fields "recoveryResolvedGenerationId"
    some {
      sessionId, fence, generationId, acquiredAtMs, expiresAtMs,
      recoveryResolvedFence, recoveryResolvedGenerationId }
  | _ => none

def IndexedLease.leaseGenerationId (lease : IndexedLease) : Option Bytes :=
  match lease.generationId with
  | some generationId => if generationId = [] then none else some generationId
  | none =>
    some (bytes "legacy:" ++ bytes (toString lease.fence) ++ bytes ":" ++
      bytes (toString lease.acquiredAtMs))

def IndexedLease.recoveryResolved (lease : IndexedLease) (generationId : Bytes) : Bool :=
  lease.recoveryResolvedGenerationId = some generationId ||
    lease.recoveryResolvedFence = some lease.fence

/-! ## The listing -/

/-- A reply of `redis.pcall('GET', key)`. -/
inductive GetReply where
  | value (raw : Option Bytes)
  | table (err : Option String)

inductive ScriptError where
  | indexType
  | timestampRange
  | read (message : String)
  | preflightMissed
  | nilIndex
  deriving DecidableEq, Repr

def ScriptError.text : ScriptError → String
  | .indexType => "TVIC_LEASE_INDEX_TYPE"
  | .timestampRange => "TVIC_LEASE_TIMESTAMP_RANGE"
  | .read message => message
  | .preflightMissed => "TVIC_LEASE_PREFLIGHT_MISSED"
  | .nilIndex => "attempt to index a nil value"

structure CachedLease where
  raw : Option Bytes
  wrongType : Bool

structure LeaseIndexes where
  due : SortedSet Bytes
  candidates : LexSet Bytes

structure RecoveryPage where
  candidates : List Bytes
  candidateFences : List Nat
  candidateGenerationIds : List Bytes
  lastExamined : Bytes
  hasMore : Bool
  inspected : Nat
  hasMoreDue : Bool
  corruptLeaseSessionIds : List Bytes
  deriving DecidableEq, Repr

/-- What the two loops change. -/
structure Listing where
  indexes : LeaseIndexes
  candidates : List (Bytes × Nat × Bytes)
  corrupt : List Bytes

def readIndexedLease (reply : GetReply) : Except ScriptError CachedLease :=
  match reply with
  | .value raw => .ok ⟨raw, false⟩
  | .table (some err) =>
    if "WRONGTYPE".isPrefixOf err then .ok ⟨none, true⟩ else .error (.read err)
  | .table none => .error (.read "TVIC_LEASE_READ_FAILED")

def Listing.reportCorruptLease (listing : Listing) (sessionId : Bytes) : Listing :=
  if sessionId ∈ listing.corrupt then listing
  else { listing with corrupt := listing.corrupt ++ [sessionId] }

def Listing.dropDue (listing : Listing) (encodedId : Bytes) : Listing :=
  { listing with indexes := { listing.indexes with due := listing.indexes.due.remove encodedId } }

def Listing.addDue (listing : Listing) (expiresAtMs : Nat) (encodedId : Bytes) : Listing :=
  { listing with
    indexes := { listing.indexes with due := listing.indexes.due.add expiresAtMs encodedId } }

def Listing.addCandidate (listing : Listing) (sessionId : Bytes) : Listing :=
  { listing with
    indexes := { listing.indexes with candidates := listing.indexes.candidates.add sessionId } }

def Listing.dropCandidate (listing : Listing) (sessionId : Bytes) : Listing :=
  { listing with
    indexes := { listing.indexes with candidates := listing.indexes.candidates.remove sessionId } }

abbrev LeaseCache := InsertionMap Bytes CachedLease

section

variable (decode : Bytes → Option LuaValue) (get : Bytes → GetReply) (keyPrefix : Bytes) (now : Nat)

def preloadIndexedLease (cache : LeaseCache) (encodedId : Bytes) : Except ScriptError LeaseCache :=
  let key := keyPrefix ++ encodedId
  if cache.has key then .ok cache
  else
    match readIndexedLease (get key) with
    | .error error => .error error
    | .ok lease => .ok (cache.set key lease)

/-- The loops that fill the cache. -/
def preload (encodedIds : List Bytes) : Except ScriptError LeaseCache :=
  encodedIds.foldlM (preloadIndexedLease get keyPrefix) []

/-- A member of the due index: moved to the candidates when its lease has expired. -/
def migrateDue (cache : LeaseCache) (listing : Listing) (encodedId : Bytes) :
    Except (ScriptError × LeaseIndexes) Listing :=
  match cache.get (keyPrefix ++ encodedId) with
  | none => .error (.nilIndex, listing.indexes)
  | some indexedLease =>
    match indexedLease.raw with
    | none =>
      let listing := if indexedLease.wrongType then
        listing.reportCorruptLease (Script.decodeKeyPart encodedId) else listing
      .ok (listing.dropDue encodedId)
    | some raw =>
      let lease := readLease decode raw
      match lease, lease.bind (·.leaseGenerationId) with
      | some lease, some generationId =>
        if Script.encodeKeyPart lease.sessionId = encodedId then
          if lease.recoveryResolved generationId then .ok (listing.dropDue encodedId)
          else if lease.expiresAtMs ≤ now then
            .ok ((listing.addCandidate lease.sessionId).dropDue encodedId)
          else .ok (listing.addDue lease.expiresAtMs encodedId)
        else
          .ok ((listing.reportCorruptLease (Script.decodeKeyPart encodedId)).dropDue encodedId)
      | _, _ =>
        .ok ((listing.reportCorruptLease (Script.decodeKeyPart encodedId)).dropDue encodedId)

/-- A member of the candidate set: listed when its lease is still expired and unresolved. -/
def inspectCandidate (cache : LeaseCache) (listing : Listing) (sessionId : Bytes) :
    Except (ScriptError × LeaseIndexes) Listing :=
  match cache.get (keyPrefix ++ Script.encodeKeyPart sessionId) with
  | none => .error (.preflightMissed, listing.indexes)
  | some indexedLease =>
    match indexedLease.raw with
    | none =>
      let listing := if indexedLease.wrongType then listing.reportCorruptLease sessionId
        else listing
      .ok (listing.dropCandidate sessionId)
    | some raw =>
      let lease := readLease decode raw
      let live := lease.bind fun lease => lease.leaseGenerationId.bind fun generationId =>
        if lease.sessionId = sessionId ∧ lease.expiresAtMs ≤ now then some (lease, generationId)
        else none
      match live with
      | some (lease, generationId) =>
        if lease.recoveryResolved generationId then .ok (listing.dropCandidate sessionId)
        else
          .ok { listing with
            candidates := listing.candidates ++ [(sessionId, lease.fence, generationId)] }
      | none =>
        match lease.filter (·.sessionId = sessionId) with
        | some lease =>
          .ok ((listing.addDue lease.expiresAtMs (Script.encodeKeyPart sessionId)).dropCandidate
            sessionId)
        | none => .ok ((listing.reportCorruptLease sessionId).dropCandidate sessionId)

end

/-- The members of the due index up to `now`, one more than a page. -/
def dueMembers (due : SortedSet Bytes) (now limit : Nat) : List Bytes :=
  ((due.entries.filter fun entry => entry.1 ≤ (now : ℤ)).take (limit + 1)).map (·.2)

/-- What the preflight reads: a page of the due index, and one of the candidates. -/
def preflightIds (indexes : LeaseIndexes) (cursor : Option Bytes) (limit now : Nat) : List Bytes :=
  (dueMembers indexes.due now limit).take limit ++
    ((indexes.candidates.range cursor (limit + 1)).take limit).map Script.encodeKeyPart

/-- The script, on the values under its two keys; `none` where a key holds another type. -/
def listRecoveryCandidates (decode : Bytes → Option LuaValue) (get : Bytes → GetReply)
    (keyPrefix : Bytes) (seconds microseconds : Nat) (cursor : Option Bytes) (limit : Nat)
    (due : Option (SortedSet Bytes)) (candidates : Option (LexSet Bytes)) :
    Except ScriptError RecoveryPage × Option (SortedSet Bytes) × Option (LexSet Bytes) :=
  match due, candidates with
  | some dueSet, some candidateSet =>
    let now := seconds * 1000 + microseconds / 1000
    if maxSafeInteger < now then (.error .timestampRange, due, candidates)
    else
      let indexes : LeaseIndexes := ⟨dueSet, candidateSet⟩
      let dueIds := dueMembers dueSet now limit
      match preload get keyPrefix (preflightIds indexes cursor limit now) with
      | .error error => (.error error, due, candidates)
      | .ok cache =>
        match (dueIds.take limit).foldlM (migrateDue decode keyPrefix now cache) ⟨indexes, [], []⟩ with
        | .error (error, indexes) => (.error error, some indexes.due, some indexes.candidates)
        | .ok migrated =>
          let members := migrated.indexes.candidates.range cursor (limit + 1)
          match (members.take limit).foldlM (inspectCandidate decode keyPrefix now cache) migrated with
          | .error (error, indexes) => (.error error, some indexes.due, some indexes.candidates)
          | .ok listing =>
            (.ok {
              candidates := listing.candidates.map (·.1)
              candidateFences := listing.candidates.map (·.2.1)
              candidateGenerationIds := listing.candidates.map (·.2.2)
              lastExamined := (members.take limit).getLast?.getD []
              hasMore := decide (limit < members.length)
              inspected := (members.take limit).length
              hasMoreDue := decide (limit < dueIds.length)
              corruptLeaseSessionIds := listing.corrupt },
              some listing.indexes.due, some listing.indexes.candidates)
  | _, _ => (.error .indexType, due, candidates)

end Tvic.Redis
