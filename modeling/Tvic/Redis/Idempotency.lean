import Tvic.Redis.ScriptNumbers
import Tvic.Redis.Transaction
import Tvic.Tools.IdempotencyStore

/-!
# The Redis idempotency store

`RedisToolIdempotencyStore` of `packages/dal-redis/src/redis-idempotency.ts` and the scripts of
`redis-idempotency-scripts.ts`. A script runs as a whole; it sees the lease and the record of its
key and either leaves the record, writes another with a time to live, or deletes it. A method
checks its input, runs one script, and makes its answer of the reply.
-/
namespace Tvic.Redis

/-- The table `cjson.decode` gives of a record. Records that hold an `output` or an `error` beside
these texts were written by an earlier version, and no script here writes one. -/
structure RedisIdempotencyRecord where
  key : String
  requestHash : String
  status : ToolIdempotencyStatus
  owner : String
  expiresAtMs : Nat
  sessionId : Option SessionId
  toolId : Option String
  toolVersion : Option String
  claimedFence : Option Nat
  claimedGenerationId : Option String
  outputJson : Option String
  errorJson : Option String
  deriving DecidableEq, Repr

/-- A record under its key, and when Redis drops it. -/
structure IdempotencyEntry where
  record : RedisIdempotencyRecord
  pxAt : Nat
  deriving DecidableEq

abbrev IdempotencyDb := String → Option IdempotencyEntry

namespace IdempotencyDb

def empty : IdempotencyDb := fun _ => none

/-- `GET` at the server's clock. -/
def get (db : IdempotencyDb) (now : Nat) (redisKey : String) : Option RedisIdempotencyRecord :=
  ((db redisKey).filter fun entry => now ≤ entry.pxAt).map (·.record)

/-- The command a script ends with: `SET … PX ttl`, `DEL` or none. -/
def apply (db : IdempotencyDb) (now ttlMs : Nat) (redisKey : String) :
    Change RedisIdempotencyRecord → IdempotencyDb
  | .keep => db
  | .write record => Function.update db redisKey (some { record, pxAt := now + ttlMs })
  | .remove => Function.update db redisKey none

end IdempotencyDb

/-! ### The scripts -/

inductive IdempotencyReply where
  | result (code : Int) (raw : Option RedisIdempotencyRecord)
  | errorReply (code : String)
  deriving DecidableEq

/-- A script by the record that `GET` finds; on the left what it has replied early. -/
abbrev IdempotencyScript :=
  Option RedisIdempotencyRecord → IdempotencyReply × Change RedisIdempotencyRecord

abbrev Script (α : Type) := Except IdempotencyReply α

def orReply {α : Type} (value : Option α) (reply : IdempotencyReply) : Script α :=
  match value with
  | some value => .ok value
  | none => .error reply

def replyIf (condition : Prop) [Decidable condition] (reply : IdempotencyReply) : Script Unit :=
  if condition then .error reply else .ok ()

def Script.finish : Script (IdempotencyReply × Change RedisIdempotencyRecord) →
    IdempotencyReply × Change RedisIdempotencyRecord
  | .error reply => (reply, .keep)
  | .ok result => result

/-- `readIdempotencyRecord` of `redis-script-helpers.ts`, on the decoded table. -/
def readIdempotencyRecord (record : RedisIdempotencyRecord) (expectedKey : String) :
    Option (RedisIdempotencyRecord × Nat) := do
  if record.key ≠ expectedKey then none
  else do
    let expiresAtMs ← safeTimestamp record.expiresAtMs
    if record.claimedFence.any fun fence => (safeInteger fence 1).isNone then none
    else if record.claimedGenerationId = some "" then none
    else some (record, expiresAtMs)

/-- `encodeIdempotencyRecord`: the fence goes out as an exact text, the expiry as a number. -/
def encodeIdempotencyRecord (record : RedisIdempotencyRecord) : Option RedisIdempotencyRecord :=
  if record.claimedFence.any fun fence => (safeInteger fence 1).isNone then none
  else some { record with expiresAtMs := cjsonNumber record.expiresAtMs }

def leaseInvalid : IdempotencyReply := .errorReply "TVIC_LEASE_RECORD_INVALID"
def recordInvalid : IdempotencyReply := .errorReply "TVIC_IDEMPOTENCY_RECORD_INVALID"
def timestampRange : IdempotencyReply := .errorReply "TVIC_LEASE_TIMESTAMP_RANGE"
def expiryRange : IdempotencyReply := .errorReply "TVIC_LEASE_EXPIRY_RANGE"

/-- `{-1, ''}`. -/
def leaseLost : IdempotencyReply := .result (-1) none

/-- The lease under its key, and `safeInteger(ARGV[…], 1)` of the requested fence. -/
def readScriptLease (leaseRaw : Option StoredLease) (fence : Nat) : Script (LeaseRecord × Nat) :=
  match leaseRaw, safeInteger fence 1 with
  | none, _ => .error leaseLost
  | some (.record lease), some requestedFence => .ok (lease, requestedFence)
  | some _, _ => .error leaseInvalid

/-- The comparison of the lease with the caller's, `lease.sessionId` apart. -/
def leaseDiffers (lease : LeaseRecord) (holder : String) (fence : Nat) (generationId : String)
    (now : Nat) : Prop :=
  lease.holder ≠ holder ∨ lease.fence ≠ fence ∨ lease.generation ≠ generationId ∨
    lease.expiresAtMs ≤ now

instance (lease : LeaseRecord) (holder : String) (fence : Nat) (generationId : String) (now : Nat) :
    Decidable (leaseDiffers lease holder fence generationId now) := by
  unfold leaseDiffers
  infer_instance

/-- `stale` of the claim script and `priorLease` of the quarantine script. -/
def claimedUnderPrior (current : RedisIdempotencyRecord) (generationId : String) (fence : Nat) :
    Bool :=
  match current.claimedGenerationId with
  | some claimed => claimed ≠ generationId
  | none => current.claimedFence.any fun claimed => claimed < fence

/-- `ARGV ~= '' and current ~= nil and current ~= ARGV`. -/
def argvDiffers (argv : String) (current : Option String) : Prop :=
  argv ≠ "" ∧ current.any fun current => current ≠ argv

instance (argv : String) (current : Option String) : Decidable (argvDiffers argv current) := by
  unfold argvDiffers
  infer_instance

def nonempty (argv : String) : Option String := if argv = "" then none else some argv

/-- The head of the claim and of the complete script: the expiry of what they write, the fence. -/
def expiryThenLease (now : Nat) (leaseRaw : Option StoredLease) (holder : String) (fence : Nat)
    (sessionId generationId : String) (ttlMs : Nat) : Script (Nat × Nat) := do
  let now ← orReply (safeTimestamp now) timestampRange
  let expiresAtMs ← orReply (safeLeaseExpiry now ttlMs) expiryRange
  let (lease, requestedFence) ← readScriptLease leaseRaw fence
  replyIf (lease.sessionId ≠ sessionId) leaseLost
  replyIf (leaseDiffers lease holder requestedFence generationId now) leaseLost
  return (expiresAtMs, requestedFence)

/-- The head of the quarantine script. -/
def leaseThenExpiry (now : Nat) (leaseRaw : Option StoredLease) (holder : String) (fence : Nat)
    (sessionId generationId : String) (ttlMs : Nat) : Script (Nat × Nat) := do
  let (lease, requestedFence) ← readScriptLease leaseRaw fence
  replyIf (lease.sessionId ≠ sessionId) leaseLost
  let now ← orReply (safeTimestamp now) timestampRange
  let expiresAtMs ← orReply (safeLeaseExpiry now ttlMs) expiryRange
  replyIf (leaseDiffers lease holder requestedFence generationId now) leaseLost
  return (expiresAtMs, requestedFence)

/-- The head of the release script. -/
def timeThenLease (now : Nat) (leaseRaw : Option StoredLease) (holder : String) (fence : Nat)
    (sessionId generationId : String) : Script Nat := do
  replyIf leaseRaw.isNone leaseLost
  let now ← orReply (safeTimestamp now) timestampRange
  let (lease, requestedFence) ← readScriptLease leaseRaw fence
  replyIf (lease.sessionId ≠ sessionId ∨
    leaseDiffers lease holder requestedFence generationId now) leaseLost
  return requestedFence

/-- The head of the lookup script. -/
def leaseThenTime (now : Nat) (leaseRaw : Option StoredLease) (holder : String) (fence : Nat)
    (sessionId generationId : String) : Script Nat := do
  let (lease, requestedFence) ← readScriptLease leaseRaw fence
  let now ← orReply (safeTimestamp now) timestampRange
  replyIf (lease.sessionId ≠ sessionId ∨
    leaseDiffers lease holder requestedFence generationId now) leaseLost
  return requestedFence

/-- The claim script's `if currentRaw`: it replies, or goes on to claim the key. -/
def claimCurrent (now fence : Nat) (key sessionId toolId toolVersion requestHash : String)
    (generationId : String) : Option RedisIdempotencyRecord → Script Unit
  | none => .ok ()
  | some currentRaw => do
    let (current, currentExpiresAtMs) ← orReply (readIdempotencyRecord currentRaw key) recordInvalid
    if now < currentExpiresAtMs then do
      replyIf (argvDiffers toolId current.toolId ∨ argvDiffers toolVersion current.toolVersion ∨
          current.requestHash ≠ requestHash ∨
          (sessionId ≠ "" ∧ current.sessionId ≠ some sessionId))
        (.result (-2) currentRaw)
      replyIf (current.status = .succeeded) (.result 2 currentRaw)
      if current.status = .claimed then
        let stale := sessionId ≠ "" && current.sessionId = some sessionId &&
          claimedUnderPrior current generationId fence
        replyIf (¬stale) (.result 0 currentRaw)
      else .error (.result 3 currentRaw)
    else .ok ()

def fencedClaimScript (now : Nat) (leaseRaw : Option StoredLease) (holder : String) (fence : Nat)
    (key sessionId toolId toolVersion requestHash owner : String) (ttlMs : Nat)
    (generationId : String) : IdempotencyScript := fun currentRaw => Script.finish do
  let (claimExpiresAtMs, requestedFence) ←
    expiryThenLease now leaseRaw holder fence sessionId generationId ttlMs
  claimCurrent now requestedFence key sessionId toolId toolVersion requestHash generationId currentRaw
  let encoded ← orReply (encodeIdempotencyRecord
    { key, requestHash, status := .claimed, owner, expiresAtMs := claimExpiresAtMs
      sessionId := nonempty sessionId
      claimedFence := if sessionId = "" then none else some fence
      claimedGenerationId := if sessionId = "" then none else some generationId
      toolId := nonempty toolId, toolVersion := nonempty toolVersion
      outputJson := none, errorJson := none }) recordInvalid
  return (.result 1 encoded, .write encoded)

def unfencedClaimScript (now : Nat) (sessionOrLeaseExists : Bool)
    (key sessionId toolId toolVersion requestHash owner : String) (ttlMs : Nat) :
    IdempotencyScript := fun currentRaw => Script.finish do
  replyIf (sessionId ≠ "" ∧ sessionOrLeaseExists) (.result (-2) none)
  let now ← orReply (safeTimestamp now) timestampRange
  let claimExpiresAtMs ← orReply (safeLeaseExpiry now ttlMs) expiryRange
  match currentRaw with
  | none => pure ()
  | some currentRaw => do
    let (current, currentExpiresAtMs) ← orReply (readIdempotencyRecord currentRaw key) recordInvalid
    if now < currentExpiresAtMs then do
      replyIf (current.sessionId ≠ nonempty sessionId ∨ argvDiffers toolId current.toolId ∨
          argvDiffers toolVersion current.toolVersion ∨ current.requestHash ≠ requestHash)
        (.result (-2) currentRaw)
      replyIf (current.status = .succeeded) (.result 2 currentRaw)
      replyIf (current.status = .claimed) (.result 0 currentRaw)
      .error (.result 3 currentRaw)
    else pure ()
  let next : RedisIdempotencyRecord :=
    { key, requestHash, status := .claimed, owner, expiresAtMs := claimExpiresAtMs
      sessionId := nonempty sessionId, claimedFence := none, claimedGenerationId := none
      toolId := nonempty toolId, toolVersion := nonempty toolVersion
      outputJson := none, errorJson := none }
  let encoded ← orReply (encodeIdempotencyRecord next) recordInvalid
  return (.result 1 encoded, .write encoded)

/-- The complete script's checks of the record, which it returns if it is still a claim. -/
def completeCurrent (now fence : Nat) (requestHash owner sessionId generationId key : String)
    (currentRaw : Option RedisIdempotencyRecord) : Script RedisIdempotencyRecord := do
  let currentRaw ← orReply currentRaw (.result (-2) none)
  let (current, currentExpiresAtMs) ← orReply (readIdempotencyRecord currentRaw key) recordInvalid
  replyIf (currentExpiresAtMs ≤ now ∨ current.requestHash ≠ requestHash ∨ current.owner ≠ owner ∨
      (sessionId ≠ "" ∧ current.sessionId ≠ some sessionId) ∨
      (current.claimedFence.any fun claimed => claimed ≠ fence) ∨
      (current.claimedGenerationId.any fun claimed => claimed ≠ generationId))
    (.result (-2) currentRaw)
  replyIf (current.status ≠ .claimed) (.result 2 currentRaw)
  return current

def fencedCompleteScript (now : Nat) (leaseRaw : Option StoredLease) (holder : String) (fence : Nat)
    (requestHash owner : String) (status : ToolIdempotencyStatus) (ttlMs : Nat)
    (outputJson errorJson : Option String) (sessionId generationId key : String) :
    IdempotencyScript := fun currentRaw => Script.finish do
  let (completionExpiresAtMs, requestedFence) ←
    expiryThenLease now leaseRaw holder fence sessionId generationId ttlMs
  let current ←
    completeCurrent now requestedFence requestHash owner sessionId generationId key currentRaw
  let encoded ← orReply (encodeIdempotencyRecord
    { current with
      status
      expiresAtMs := completionExpiresAtMs
      claimedFence := current.claimedFence.or (some fence)
      outputJson
      errorJson }) recordInvalid
  return (.result 1 encoded, .write encoded)

def unfencedCompleteScript (now : Nat) (sessionOrLeaseExists : Bool)
    (key sessionId requestHash owner : String) (status : ToolIdempotencyStatus) (ttlMs : Nat)
    (outputJson errorJson : Option String) : IdempotencyScript := fun raw => Script.finish do
  replyIf (sessionId ≠ "" ∧ sessionOrLeaseExists) (.result (-2) none)
  let raw ← orReply raw (.result (-2) none)
  let (current, currentExpiresAtMs) ← orReply (readIdempotencyRecord raw key) recordInvalid
  replyIf (current.claimedFence.isSome ∨ current.claimedGenerationId.isSome) (.result (-1) raw)
  let now ← orReply (safeTimestamp now) timestampRange
  let completionExpiresAtMs ← orReply (safeLeaseExpiry now ttlMs) expiryRange
  replyIf (currentExpiresAtMs ≤ now ∨ current.requestHash ≠ requestHash ∨ current.owner ≠ owner ∨
      current.sessionId ≠ nonempty sessionId)
    (.result (-2) raw)
  replyIf (current.status ≠ .claimed) (.result 2 raw)
  let encoded ← orReply (encodeIdempotencyRecord
    { current with
      status
      expiresAtMs := completionExpiresAtMs
      outputJson
      errorJson }) recordInvalid
  return (.result 1 encoded, .write encoded)

/-- The quarantine script's `if currentRaw`: it replies, or goes on to write. -/
def quarantineCurrent (now fence : Nat)
    (generationId key sessionId toolId toolVersion requestHash owner : String) :
    Option RedisIdempotencyRecord → Script Unit
  | none => .ok ()
  | some currentRaw => do
    let (current, currentExpiresAtMs) ← orReply (readIdempotencyRecord currentRaw key) recordInvalid
    if now < currentExpiresAtMs then do
      replyIf (current.sessionId ≠ some sessionId ∨ current.toolId ≠ some toolId ∨
          current.toolVersion ≠ some toolVersion ∨ current.requestHash ≠ requestHash)
        (.result (-2) currentRaw)
      replyIf (current.status = .succeeded) (.result 2 currentRaw)
      replyIf (current.status ≠ .claimed) (.result 3 currentRaw)
      replyIf (current.owner ≠ owner) (.result 0 currentRaw)
      replyIf (¬claimedUnderPrior current generationId fence) (.result 0 currentRaw)
    else .ok ()

def quarantineScript (now : Nat) (leaseRaw : Option StoredLease) (holder : String) (fence : Nat)
    (generationId key sessionId toolId toolVersion requestHash owner : String) (ttlMs : Nat)
    (errorJson : String) : IdempotencyScript := fun currentRaw => Script.finish do
  let (quarantineExpiresAtMs, requestedFence) ←
    leaseThenExpiry now leaseRaw holder fence sessionId generationId ttlMs
  quarantineCurrent now requestedFence generationId key sessionId toolId toolVersion requestHash owner
    currentRaw
  let encoded ← orReply (encodeIdempotencyRecord
    { key, requestHash, status := .failed, owner, expiresAtMs := quarantineExpiresAtMs
      sessionId := some sessionId, claimedFence := some fence
      claimedGenerationId := some generationId, toolId := some toolId
      toolVersion := some toolVersion, outputJson := none
      errorJson := some errorJson }) recordInvalid
  return (.result 1 encoded, .write encoded)

def fencedReleaseClaimScript (now : Nat) (leaseRaw : Option StoredLease) (holder : String)
    (fence : Nat) (generationId sessionId key requestHash owner : String) :
    IdempotencyScript := fun raw => Script.finish do
  let requestedFence ← timeThenLease now leaseRaw holder fence sessionId generationId
  let raw ← orReply raw (.result 0 none)
  let (record, expiresAtMs) ← orReply (readIdempotencyRecord raw key) recordInvalid
  replyIf (expiresAtMs ≤ now ∨ record.status ≠ .claimed ∨ record.requestHash ≠ requestHash ∨
      record.owner ≠ owner ∨ record.sessionId ≠ some sessionId ∨
      (record.claimedFence.any fun claimed => claimed ≠ requestedFence) ∨
      (record.claimedGenerationId.any fun claimed => claimed ≠ generationId))
    (.result 0 none)
  return (.result 1 none, .remove)

def unfencedReleaseClaimScript (now : Nat) (sessionOrLeaseExists : Bool)
    (key requestHash owner sessionId : String) : IdempotencyScript := fun raw => Script.finish do
  replyIf sessionOrLeaseExists (.result 0 none)
  let raw ← orReply raw (.result 0 none)
  let (record, expiresAtMs) ← orReply (readIdempotencyRecord raw key) recordInvalid
  let now ← orReply (safeTimestamp now) timestampRange
  replyIf (expiresAtMs ≤ now ∨ record.status ≠ .claimed ∨ record.requestHash ≠ requestHash ∨
      record.owner ≠ owner ∨ record.sessionId ≠ nonempty sessionId ∨
      record.claimedFence.isSome ∨ record.claimedGenerationId.isSome)
    (.result 0 none)
  return (.result 1 none, .remove)

def deleteExpiredScript (now : Nat) (key : String) :
    IdempotencyScript := fun raw => Script.finish do
  let raw ← orReply raw (.result 0 none)
  let (_, expiresAtMs) ← orReply (readIdempotencyRecord raw key) recordInvalid
  if expiresAtMs ≤ now then return (.result 1 none, .remove)
  else return (.result 0 none, .keep)

def unfencedLookupScript (now : Nat) (sessionOrLeaseExists : Bool)
    (key requestHash sessionId : String) : IdempotencyScript := fun raw => Script.finish do
  replyIf (sessionId ≠ "" ∧ sessionOrLeaseExists) (.result (-2) none)
  let raw ← orReply raw (.result 0 none)
  let (record, expiresAtMs) ← orReply (readIdempotencyRecord raw key) recordInvalid
  let now ← orReply (safeTimestamp now) timestampRange
  replyIf (expiresAtMs ≤ now) (.result 2 none)
  replyIf (record.requestHash ≠ requestHash ∨ record.sessionId ≠ nonempty sessionId)
    (.result (-2) none)
  return (.result 1 raw, .keep)

def fencedLookupScript (now : Nat) (leaseRaw : Option StoredLease) (sessionId holder : String)
    (fence : Nat) (generationId key requestHash : String) :
    IdempotencyScript := fun raw => Script.finish do
  let _ ← leaseThenTime now leaseRaw holder fence sessionId generationId
  let raw ← orReply raw (.result 0 none)
  let (record, expiresAtMs) ← orReply (readIdempotencyRecord raw key) recordInvalid
  replyIf (expiresAtMs ≤ now) (.result 2 none)
  replyIf (record.requestHash ≠ requestHash ∨ record.sessionId ≠ some sessionId)
    (.result (-2) none)
  return (.result 1 raw, .keep)

/-! ### The client -/

/-- `PersistedErrorRead`, with the error as `#parseIdempotency` returns it and the text an alias is
to be rewritten to. -/
structure PersistedErrorRead (J : Type) where
  error : J
  canonicalJson : Option String

/-- What the store uses of `dal-codec`: the texts of outputs and of sanitized errors, their
readers, and the texts that outcomes are compared by. -/
structure RedisSerialization (V J : Type) where
  stringifyOutput : V → Except DalError String
  stringifySanitizedError : V → Except DalError String
  parse : String → Option J
  readPersistedError : J → Option (PersistedErrorRead J)
  stableStringify : Option J → String
  stringifyNormalizedError : V → Except DalError String

/-- What one call meets: the server's clock, the keys its scripts look at beside the record, and
whether a rewrite of an aliased error code, where one is due, is tried. -/
structure RedisMoment where
  now : Nat
  leases : SessionId → Option StoredLease
  sessionExists : SessionId → Bool
  rewritesAlias : Bool

variable {V J α : Type}

def corruptIdempotency (message : String) : DalError :=
  .corruptRecord "redis:tool_idempotency" message

/-- An error reply through `withRedisBoundary`. -/
def replyError (code : String) : DalError :=
  .backendUnavailable ("Redis operation failed: " ++ code)

def idempotencyReplyError (code : String) : DalError :=
  if code = "TVIC_LEASE_EXPIRY_RANGE" then
    .invalidArgument "Lease expiry must be a non-negative safe integer timestamp"
  else replyError code

/-- `REWRITE_ALIAS_ERROR_SCRIPT`, which keeps the time to live. -/
def rewriteAlias (redisKey : String) (raw rewritten : RedisIdempotencyRecord) (db : IdempotencyDb) :
    IdempotencyDb :=
  match db redisKey with
  | some entry =>
    if entry.record = raw then
      Function.update db redisKey (some { entry with record := rewritten })
    else db
  | none => db

/-- The checks of `#parseIdempotency` on the fields that are no texts. -/
def parsesAs (value : RedisIdempotencyRecord) (logicalKey : String) : Bool :=
  value.key = logicalKey && value.expiresAtMs ≤ maxSafeInteger &&
    (value.claimedFence.all fun fence => 1 ≤ fence ∧ fence ≤ maxSafeInteger) &&
    value.claimedGenerationId ≠ some ""

/-- The reading part of `#parseIdempotency`: the output and the error. -/
def parseValues (redis : RedisSerialization V J) (raw : RedisIdempotencyRecord)
    (logicalKey : String) : Except DalError (Option J × Option (PersistedErrorRead J)) := do
  let output ← match raw.outputJson.mapM redis.parse with
    | none => .error (corruptIdempotency "invalid idempotency output JSON")
    | some output => .ok output
  let rawError ← match raw.errorJson.mapM redis.parse with
    | none => .error (corruptIdempotency "invalid idempotency error JSON")
    | some rawError => .ok rawError
  match rawError.mapM redis.readPersistedError with
  | none => .error (corruptIdempotency "invalid idempotency payload")
  | some read =>
    if parsesAs raw logicalKey then .ok (output, read)
    else .error (corruptIdempotency "invalid idempotency payload")

def parsedRecord (raw : RedisIdempotencyRecord) (output : Option J)
    (read : Option (PersistedErrorRead J)) : ToolIdempotencyRecord J where
  key := raw.key
  sessionId := raw.sessionId
  toolId := raw.toolId
  toolVersion := raw.toolVersion
  requestHash := raw.requestHash
  status := raw.status
  expiresAtMs := raw.expiresAtMs
  owner := some raw.owner
  claimedFence := raw.claimedFence.map fun (fence : Nat) => .int fence
  claimedGenerationId := raw.claimedGenerationId
  output
  error := read.map (·.error)

/-- The rewrite of a record's error under `redisKey`, where its code is an alias. -/
def rewriteRead (moment : RedisMoment) (redisKey : String) (raw : RedisIdempotencyRecord)
    (read : Option (PersistedErrorRead J)) (db : IdempotencyDb) : IdempotencyDb :=
  match read.bind (·.canonicalJson) with
  | some canonical =>
    if moment.rewritesAlias then
      rewriteAlias redisKey raw { raw with errorJson := some canonical } db
    else db
  | none => db

def parseIdempotency (redis : RedisSerialization V J) (moment : RedisMoment)
    (raw : RedisIdempotencyRecord) (redisKey logicalKey : String) (db : IdempotencyDb) :
    Except DalError (ToolIdempotencyRecord J) × IdempotencyDb :=
  match parseValues redis raw logicalKey with
  | .error e => (.error e, db)
  | .ok (output, read) =>
    (.ok (parsedRecord raw output read), rewriteRead moment redisKey raw read db)

/-- One `eval` of a method, and what it makes of the reply. -/
structure Eval (α : Type) where
  ttlMs : Nat
  script : IdempotencyScript
  answer : IdempotencyReply → IdempotencyDb → Except DalError α × IdempotencyDb

/-- A method that has come to its `eval`, or settled before. -/
abbrev RedisMethod (α : Type) := Early α (Eval α)

def answerRecord (redis : RedisSerialization V J) (moment : RedisMoment)
    (raw : RedisIdempotencyRecord) (redisKey logicalKey : String)
    (result : ToolIdempotencyRecord J → Except DalError α) (db : IdempotencyDb) :
    Except DalError α × IdempotencyDb :=
  match parseIdempotency redis moment raw redisKey logicalKey db with
  | (.error e, db) => (.error e, db)
  | (.ok record, db) => (result record, db)

namespace RedisToolIdempotencyStore

section Methods

variable (redis : RedisSerialization V J) (keyPrefix : Option String) (moment : RedisMoment)

/-- Whether one of the two keys the unfenced scripts check exists. -/
def sessionOrLeaseExists (sessionId : SessionId) : Bool :=
  moment.sessionExists sessionId || (moment.leases sessionId).isSome

/-- `lease && sessionId && sessionId !== lease.sessionId`. -/
def otherSession (lease : ToolIdempotencyLease) (sessionId : Option SessionId) : Bool :=
  (truthy sessionId).any fun sessionId => sessionId ≠ lease.sessionId

/-- What `lookup` makes of a reply; the lost lease is of the given session. An expired record it
deletes with a second script. -/
def lookupAnswer (key : String) (lostSession : SessionId) (reply : IdempotencyReply)
    (db : IdempotencyDb) : Except DalError (ToolIdempotencyLookupResult J) × IdempotencyDb :=
  let redisKey := idempotencyKey keyPrefix key
  match reply with
  | .errorReply code => (.error (replyError code), db)
  | .result (-1) _ => (.error (.leaseLost lostSession), db)
  | .result (-2) _ => (.ok .conflict, db)
  | .result 0 _ => (.ok .missing, db)
  | .result 2 _ =>
    match deleteExpiredScript moment.now key (db.get moment.now redisKey) with
    | (.errorReply code, _) => (.error (replyError code), db)
    | (.result _ _, change) => (.ok .missing, db.apply moment.now 0 redisKey change)
  | .result 1 (some raw) =>
    answerRecord redis moment raw redisKey key (fun record => .ok (.found record)) db
  | .result _ _ =>
    (.error (.corruptRecord ("redis:tool_idempotency:" ++ key) "invalid lookup result"), db)

def lookup (key requestHash : String) (sessionId : Option SessionId)
    (lease : Option ToolIdempotencyLease) :
    Early (ToolIdempotencyLookupResult J) (Eval (ToolIdempotencyLookupResult J)) := do
  let script ← match lease with
    | some lease => do
      let fence ← throwing (assertLeaseFence lease.fence)
      returnIf (otherSession lease sessionId) (.ok .conflict)
      pure (fencedLookupScript moment.now (moment.leases lease.sessionId) lease.sessionId
        lease.holder fence lease.generationId key requestHash)
    | none => pure (unfencedLookupScript moment.now
        (sessionOrLeaseExists moment (sessionId.getD "")) key requestHash (sessionId.getD ""))
  let lostSession := ((lease.map (·.sessionId)).or sessionId).getD "unknown"
  return { ttlMs := 0, script, answer := lookupAnswer redis keyPrefix moment key lostSession }

/-- The end of `claim` without a lease. -/
def unfencedClaimAnswer (input : ToolIdempotencyClaim) (reply : IdempotencyReply)
    (db : IdempotencyDb) : Except DalError (ToolIdempotencyClaimResult J) × IdempotencyDb :=
  match reply with
  | .errorReply code => (.error (idempotencyReplyError code), db)
  | .result (-2) _ => (.ok .conflict, db)
  | .result _ none => (.error (corruptIdempotency "missing idempotency claim result"), db)
  | .result code (some raw) =>
    answerRecord redis moment raw (idempotencyKey keyPrefix input.key) input.key
      (fun record => match code with
        | 0 => .ok (.inProgress record)
        | 2 => .ok (.succeeded record)
        | 3 => .ok (.terminal record)
        | 1 => .ok (.claimed record)
        | _ => .error (corruptIdempotency "unknown idempotency claim result")) db

/-- The end of `#fencedClaim`, which would rewrite an alias under a key that no record has. -/
def fencedClaimAnswer (input : ToolIdempotencyClaim) (lease : ToolIdempotencyLease)
    (reply : IdempotencyReply) (db : IdempotencyDb) :
    Except DalError (ToolIdempotencyClaimResult J) × IdempotencyDb :=
  match reply with
  | .errorReply code => (.error (idempotencyReplyError code), db)
  | .result (-1) _ => (.error (.leaseLost lease.sessionId), db)
  | .result (-2) _ => (.ok .conflict, db)
  | .result _ none => (.error (corruptIdempotency "missing idempotency script result"), db)
  | .result code (some raw) =>
    answerRecord redis moment raw "redis:tool_idempotency" input.key
      (fun record => match code with
        | 0 => .ok (.inProgress record)
        | 2 => .ok (.succeeded record)
        | 3 => .ok (.terminal record)
        | 1 => if record.status = .succeeded then .ok (.succeeded record) else .ok (.claimed record)
        | _ => .error (corruptIdempotency "unknown idempotency script result")) db

def claim (input : ToolIdempotencyClaim) :
    Early (ToolIdempotencyClaimResult J) (Eval (ToolIdempotencyClaimResult J)) := do
  let ttlMs ← throwing (assertLeaseTtlMs input.ttlMs)
  match input.lease with
  | some lease => do
    let fence ← throwing (assertLeaseFence lease.fence)
    returnIf (otherSession lease input.sessionId) (.ok .conflict)
    return {
      ttlMs
      script := fencedClaimScript moment.now (moment.leases lease.sessionId) lease.holder fence
        input.key lease.sessionId (input.toolId.getD "") (input.toolVersion.getD "")
        input.requestHash input.owner ttlMs lease.generationId
      answer := fencedClaimAnswer redis moment input lease }
  | none =>
    let sessionId := input.sessionId.getD ""
    return {
      ttlMs
      script := unfencedClaimScript moment.now (sessionOrLeaseExists moment sessionId) input.key
        sessionId (input.toolId.getD "") (input.toolVersion.getD "") input.requestHash input.owner
        ttlMs
      answer := unfencedClaimAnswer redis keyPrefix moment input }

/-- What `releaseClaim` makes of a reply; the lost lease is of the given session. -/
def releaseAnswer (lostSession : SessionId) (reply : IdempotencyReply) (db : IdempotencyDb) :
    Except DalError Bool × IdempotencyDb :=
  match reply with
  | .errorReply code => (.error (replyError code), db)
  | .result (-1) _ => (.error (.leaseLost lostSession), db)
  | .result code _ => (.ok (code = 1), db)

def releaseClaim (input : ToolIdempotencyRelease) : Early Bool (Eval Bool) := do
  let script ← match input.lease with
    | some lease => do
      let fence ← throwing (assertLeaseFence lease.fence)
      returnIf (otherSession lease input.sessionId) (.ok false)
      pure (fencedReleaseClaimScript moment.now (moment.leases lease.sessionId) lease.holder fence
        lease.generationId lease.sessionId input.key input.requestHash input.owner)
    | none => pure (unfencedReleaseClaimScript moment.now
        (sessionOrLeaseExists moment (input.sessionId.getD "")) input.key input.requestHash
        input.owner (input.sessionId.getD ""))
  let sessionId := (input.lease.map (·.sessionId)).or input.sessionId
  return { ttlMs := 0, script, answer := releaseAnswer (sessionId.getD "unknown") }

def sameOutcome (record : ToolIdempotencyRecord J) (outcome : ToolIdempotencyOutcome V) :
    Except DalError Bool := do
  if record.status ≠ outcome.status then .ok false
  else do
    let outputText ← match outcome.output with
      | none => .ok (redis.stableStringify none)
      | some output => redis.stringifyOutput output
    if redis.stableStringify record.output ≠ outputText then .ok false
    else do
      let errorText ← match outcome.error with
        | none => .ok (redis.stableStringify none)
        | some error => redis.stringifyNormalizedError error
      .ok (redis.stableStringify record.error = errorText)

/-- What `complete` makes of a reply; the lost lease is of the given session. -/
def completeAnswer (key : String) (outcome : ToolIdempotencyOutcome V) (lostSession : SessionId)
    (reply : IdempotencyReply) (db : IdempotencyDb) : Except DalError Unit × IdempotencyDb :=
  match reply with
  | .errorReply code => (.error (idempotencyReplyError code), db)
  | .result (-1) _ => (.error (.leaseLost lostSession), db)
  | .result 2 (some raw) =>
    answerRecord redis moment raw (idempotencyKey keyPrefix key) key
      (fun record => do
        if ← (sameOutcome redis record outcome).mapError toDurableError then .ok ()
        else .error (.recordConflict "tool_idempotency")) db
  | .result 1 _ => (.ok (), db)
  | .result _ _ => (.error (.recordConflict "tool_idempotency"), db)

def complete (key requestHash : String) (outcome : ToolIdempotencyOutcome V) :
    Early Unit (Eval Unit) := do
  let ttlMs ← throwing (assertLeaseTtlMs outcome.ttlMs)
  match outcome.lease with
  | some lease => do
    let fence ← throwing (assertLeaseFence lease.fence)
    returnIf (otherSession lease outcome.sessionId) (.error (.recordConflict "tool_idempotency"))
    let outputJson ← throwing ((outcome.output.mapM redis.stringifyOutput).mapError toDurableError)
    let errorJson ←
      throwing ((outcome.error.mapM redis.stringifySanitizedError).mapError toDurableError)
    return {
      ttlMs
      script := fencedCompleteScript moment.now (moment.leases lease.sessionId) lease.holder fence
        requestHash outcome.owner outcome.status ttlMs outputJson errorJson lease.sessionId
        lease.generationId key
      answer := completeAnswer redis keyPrefix moment key outcome lease.sessionId }
  | none => do
    let sessionId := outcome.sessionId.getD ""
    let outputJson ← throwing ((outcome.output.mapM redis.stringifyOutput).mapError toDurableError)
    let errorJson ←
      throwing ((outcome.error.mapM redis.stringifySanitizedError).mapError toDurableError)
    return {
      ttlMs
      script := unfencedCompleteScript moment.now (sessionOrLeaseExists moment sessionId) key
        sessionId requestHash outcome.owner outcome.status ttlMs outputJson errorJson
      answer := completeAnswer redis keyPrefix moment key outcome
        (outcome.sessionId.getD "unknown") }

def quarantineAnswer (input : ToolIdempotencyQuarantine V) (reply : IdempotencyReply)
    (db : IdempotencyDb) : Except DalError (ToolIdempotencyQuarantineResult J) × IdempotencyDb :=
  match reply with
  | .errorReply code => (.error (replyError code), db)
  | .result (-1) _ => (.error (.leaseLost input.sessionId), db)
  | .result (-2) _ => (.ok .conflict, db)
  | .result _ none => (.error (corruptIdempotency "missing quarantine script result"), db)
  | .result code (some raw) =>
    answerRecord redis moment raw (idempotencyKey keyPrefix input.key) input.key
      (fun record => match code with
        | 0 => .ok (.inProgress record)
        | 1 => .ok (.quarantined record)
        | 2 => .ok (.succeeded record)
        | 3 => .ok (.terminal record)
        | _ => .error (corruptIdempotency "unknown quarantine script result")) db

def quarantine (input : ToolIdempotencyQuarantine V) :
    Early (ToolIdempotencyQuarantineResult J) (Eval (ToolIdempotencyQuarantineResult J)) := do
  let ttlMs ← throwing (assertLeaseTtlMs input.ttlMs)
  let fence ← throwing (assertLeaseFence input.lease.fence)
  returnIf (input.sessionId ≠ input.lease.sessionId) (.ok .conflict)
  let errorJson ← throwing ((redis.stringifySanitizedError input.error).mapError toDurableError)
  return {
    ttlMs
    script := quarantineScript moment.now (moment.leases input.lease.sessionId) input.lease.holder
      fence input.lease.generationId input.key input.sessionId input.toolId input.toolVersion
      input.requestHash input.owner ttlMs errorJson
    answer := quarantineAnswer redis keyPrefix moment input }

/-- The script on the record of its key, and the answer to its reply. -/
def eval (key : String) (method : RedisMethod α) (db : IdempotencyDb) :
    Except DalError α × IdempotencyDb :=
  match method with
  | .error result => (result, db)
  | .ok eval =>
    let redisKey := idempotencyKey keyPrefix key
    let (reply, change) := eval.script (db.get moment.now redisKey)
    eval.answer reply (db.apply moment.now eval.ttlMs redisKey change)

def serve (call : ToolIdempotencyCall V) (db : IdempotencyDb) :
    Except DalError (ToolIdempotencyAnswer J) × IdempotencyDb :=
  match call with
  | .lookup key requestHash sessionId lease =>
    let (result, db) :=
      eval keyPrefix moment key (lookup redis keyPrefix moment key requestHash sessionId lease) db
    (result.map .lookup, db)
  | .claim input =>
    let (result, db) := eval keyPrefix moment input.key (claim redis keyPrefix moment input) db
    (result.map .claim, db)
  | .releaseClaim input =>
    let (result, db) := eval keyPrefix moment input.key (releaseClaim moment input) db
    (result.map .releaseClaim, db)
  | .complete key requestHash outcome =>
    let (result, db) :=
      eval keyPrefix moment key (complete redis keyPrefix moment key requestHash outcome) db
    (result.map fun _ => .complete, db)
  | .quarantine input =>
    let (result, db) := eval keyPrefix moment input.key (quarantine redis keyPrefix moment input) db
    (result.map .quarantine, db)

end Methods

end RedisToolIdempotencyStore

end Tvic.Redis
