import Tvic.Redis.Idempotency
import Tvic.Tools.IdempotencyLedger

/-!
# Redis records and in-memory records

When a stored Redis record stands for a record of the in-memory store, and when a Redis database
mirrors the in-memory ledger. The two stores serialize outputs and errors each in its own way;
`Alike` is what has to hold of the values of a run for their comparisons to agree.
-/
namespace Tvic.Redis

open Lib

variable {V J K : Type}

/-- A text that the record of an error may hold: the one stored with it, or what a rewrite of an
aliased code has made of such a text. -/
inductive StoredError (redis : RedisSerialization V K) (error : V) : String → Prop where
  | stored (text : String) (stringified : redis.stringifySanitizedError error = .ok text) :
      StoredError redis error text
  | rewritten (text canonical : String) (json : K) (read : PersistedErrorRead K)
      (held : StoredError redis error text) (parsed : redis.parse text = some json)
      (reading : redis.readPersistedError json = some read)
      (migrated : read.canonicalJson = some canonical) : StoredError redis error canonical

/-- The text of an error that may be missing. -/
inductive StoredErrorText (redis : RedisSerialization V K) : Option V → Option String → Prop where
  | none : StoredErrorText redis none none
  | some (error : V) (text : String) (stored : StoredError redis error text) :
      StoredErrorText redis (some error) (some text)

def readErrorText (redis : RedisSerialization V K) (text : Option String) :
    Option (Option (PersistedErrorRead K)) :=
  (text.mapM redis.parse).bind fun json => json.mapM redis.readPersistedError

/-- The text `sameOutcome` compares a recorded output with. -/
def outputText (redis : RedisSerialization V K) (output : Option V) : Except DalError String :=
  match output with
  | none => .ok (redis.stableStringify none)
  | some output => redis.stringifyOutput output

/-- The text `sameOutcome` compares a recorded error with. -/
def errorText (redis : RedisSerialization V K) (error : Option V) : Except DalError String :=
  match error with
  | none => .ok (redis.stableStringify none)
  | some error => redis.stringifyNormalizedError error

/-- Both stores take the given outputs and errors or neither does, what Redis has taken it reads
back, and the two comparisons of outcomes tell them apart alike. -/
structure Alike (memory : Serialization V J) (redis : RedisSerialization V K)
    (outputs errors : V → Prop) : Prop where
  output_taken : ∀ output, outputs output →
    ((∃ json, memory.snapshotJsonValue output = .ok json) ↔
      ∃ text, redis.stringifyOutput output = .ok text)
  output_read : ∀ output, outputs output → ∀ text, redis.stringifyOutput output = .ok text →
    ∃ json, redis.parse text = some json
  output_compared : ∀ output output' : Option V, (∀ value ∈ output, outputs value) →
    (∀ value ∈ output', outputs value) → ∀ json json' text read,
    output.mapM memory.snapshotJsonValue = .ok json →
    output'.mapM memory.snapshotJsonValue = .ok json' →
    output.mapM redis.stringifyOutput = .ok text → text.mapM redis.parse = some read →
    (memory.stableStringify json = memory.stableStringify json' ↔
      outputText redis output' = .ok (redis.stableStringify read))
  error_taken : ∀ error, errors error →
    ((∃ json, memory.snapshotJsonValue error = .ok json) ↔
      ∃ text, redis.stringifySanitizedError error = .ok text)
  error_read : ∀ error, errors error → ∀ text, StoredError redis error text →
    ∃ json read, redis.parse text = some json ∧ redis.readPersistedError json = some read
  error_compared : ∀ error error' : Option V, (∀ value ∈ error, errors value) →
    (∀ value ∈ error', errors value) → ∀ json json' text read,
    error.mapM memory.snapshotJsonValue = .ok json →
    error'.mapM memory.snapshotJsonValue = .ok json' →
    StoredErrorText redis error text → readErrorText redis text = some read →
    (memory.stableStringify json = memory.stableStringify json' ↔
      errorText redis error' = .ok (redis.stableStringify (read.map (·.error))))

section Relations

variable (memory : Serialization V J) (redis : RedisSerialization V K) (outputs errors : V → Prop)

/-- The stored record stands for the in-memory one, and is one that the scripts and the client
accept. Records of fenced calls have a session, a fence and a generation. -/
structure Represents (value : RedisIdempotencyRecord) (record : ToolIdempotencyRecord J) : Prop where
  key : value.key = record.key
  requestHash : value.requestHash = record.requestHash
  status : value.status = record.status
  owner : some value.owner = record.owner
  expiresAtMs : value.expiresAtMs = record.expiresAtMs
  sessionId : value.sessionId = record.sessionId
  toolId : value.toolId = record.toolId
  toolVersion : value.toolVersion = record.toolVersion
  claimedFence : (value.claimedFence.map fun (fence : Nat) => .int fence) = record.claimedFence
  claimedGenerationId : value.claimedGenerationId = record.claimedGenerationId
  fenced : ∃ sessionId fence generationId, value.sessionId = some sessionId ∧ sessionId ≠ "" ∧
    value.claimedFence = some fence ∧ 1 ≤ fence ∧ fence ≤ maxSafeInteger ∧
    value.claimedGenerationId = some generationId ∧ generationId ≠ ""
  tools : value.toolId ≠ some "" ∧ value.toolVersion ≠ some ""
  expiry : value.expiresAtMs ≤ maxSafeInteger
  output : ∃ output : Option V, (∀ value ∈ output, outputs value) ∧
    output.mapM memory.snapshotJsonValue = .ok record.output ∧
    output.mapM redis.stringifyOutput = .ok value.outputJson
  error : ∃ error : Option V, (∀ value ∈ error, errors value) ∧
    error.mapM memory.snapshotJsonValue = .ok record.error ∧
    StoredErrorText redis error value.errorJson
  claimed : record.status = .claimed → record.output = none ∧ record.error = none

/-- The entry of a key mirrors what was last written under it in memory; Redis may have dropped it
once it has expired. -/
inductive MirrorsAt (now : Nat) (key : String) :
    Option IdempotencyEntry → Option (ToolIdempotencyRecord J) → Prop where
  | nothing : MirrorsAt now key none none
  | held (entry : IdempotencyEntry) (record : ToolIdempotencyRecord J)
      (represents : Represents memory redis outputs errors entry.record record)
      (own : record.key = key) (px : entry.pxAt = record.expiresAtMs) :
      MirrorsAt now key (some entry) (some record)
  | dropped (record : ToolIdempotencyRecord J) (expired : record.expiresAtMs ≤ now) :
      MirrorsAt now key none (some record)

def Mirrors (keyPrefix : Option String) (now : Nat) (db : IdempotencyDb)
    (ledger : String → Option (ToolIdempotencyRecord J)) : Prop :=
  ∀ key, MirrorsAt memory redis outputs errors now key (db (idempotencyKey keyPrefix key))
    (ledger key)

/-- What a script's `GET` finds beside what the in-memory method finds. -/
inductive Found (now : Nat) (key : String) :
    Option RedisIdempotencyRecord → Option (ToolIdempotencyRecord J) → Prop where
  | missing : Found now key none none
  | expired (value : RedisIdempotencyRecord) (record : ToolIdempotencyRecord J)
      (represents : Represents memory redis outputs errors value record) (own : record.key = key)
      (expired : record.expiresAtMs ≤ now) : Found now key (some value) none
  | both (value : RedisIdempotencyRecord) (record : ToolIdempotencyRecord J)
      (represents : Represents memory redis outputs errors value record) (own : record.key = key)
      (counts : now < record.expiresAtMs) : Found now key (some value) (some record)

inductive SameChange (now ttlMs : Nat) (key : String) :
    Change RedisIdempotencyRecord → Change (ToolIdempotencyRecord J) → Prop where
  | keep : SameChange now ttlMs key .keep .keep
  | write (value : RedisIdempotencyRecord) (record : ToolIdempotencyRecord J)
      (represents : Represents memory redis outputs errors value record) (own : record.key = key)
      (expiry : record.expiresAtMs = now + ttlMs) :
      SameChange now ttlMs key (.write value) (.write record)
  | remove : SameChange now ttlMs key .remove .remove

end Relations

section Lemmas

variable {memory : Serialization V J} {redis : RedisSerialization V K} {outputs errors : V → Prop}
  {keyPrefix : Option String} {now later ttlMs : Nat} {key : String} {db : IdempotencyDb}
  {ledger : IdempotencyLedger J}

theorem MirrorsAt.mono {entry : Option IdempotencyEntry}
    {written : Option (ToolIdempotencyRecord J)}
    (mirrors : MirrorsAt memory redis outputs errors now key entry written) (le : now ≤ later) :
    MirrorsAt memory redis outputs errors later key entry written := by
  cases mirrors with
  | nothing => exact .nothing
  | held entry record represents own px => exact .held entry record represents own px
  | dropped record expired => exact .dropped record (Nat.le_trans expired le)

section

variable (mirrors : Mirrors memory redis outputs errors keyPrefix now db ledger)
include mirrors

theorem Mirrors.mono (le : now ≤ later) :
    Mirrors memory redis outputs errors keyPrefix later db ledger :=
  fun key => (mirrors key).mono le

theorem Mirrors.found (key : String) :
    Found memory redis outputs errors now key (db.get now (idempotencyKey keyPrefix key))
      (live (·.expiresAtMs) now (ledger key)) := by
  have own := mirrors key
  rw [IdempotencyDb.get]
  generalize db (idempotencyKey keyPrefix key) = entry at own ⊢
  generalize ledger key = written at own ⊢
  cases own with
  | nothing => exact .missing
  | dropped record expired =>
    have gone : live (·.expiresAtMs) now (some record) = none := by simpa [live_eq_none] using expired
    rw [gone]
    exact .missing
  | held entry record represents own px =>
    by_cases counts : now < record.expiresAtMs
    · have whole : live (·.expiresAtMs) now (some record) = some record :=
        live_eq_some.mpr ⟨rfl, counts⟩
      have present : now ≤ entry.pxAt := by omega
      rw [whole, Option.filter_some, if_pos (decide_eq_true present)]
      exact .both entry.record record represents own counts
    · have gone : live (·.expiresAtMs) now (some record) = none := by
        simpa [live_eq_none] using counts
      rw [gone]
      -- at the very millisecond of its expiry the key is still there
      by_cases present : now ≤ entry.pxAt
      · rw [Option.filter_some, if_pos (decide_eq_true present)]
        exact .expired entry.record record represents own (Nat.le_of_not_lt counts)
      · rw [Option.filter_some, if_neg (by simpa using present)]
        exact .missing

theorem Mirrors.update {entry : Option IdempotencyEntry}
    {written : Option (ToolIdempotencyRecord J)}
    (own : MirrorsAt memory redis outputs errors now key entry written) :
    Mirrors memory redis outputs errors keyPrefix now
      (Function.update db (idempotencyKey keyPrefix key) entry)
      (Function.update ledger key written) := by
  intro other
  by_cases same : other = key
  · subst same
    simpa using own
  · have apart : idempotencyKey keyPrefix other ≠ idempotencyKey keyPrefix key :=
      fun equal => same (idempotencyKey_injective keyPrefix equal)
    rw [Function.update_of_ne apart, Function.update_of_ne same]
    exact mirrors other

theorem Mirrors.apply {change : Change RedisIdempotencyRecord}
    {change' : Change (ToolIdempotencyRecord J)}
    (same : SameChange memory redis outputs errors now ttlMs key change change') :
    Mirrors memory redis outputs errors keyPrefix now
      (db.apply now ttlMs (idempotencyKey keyPrefix key) change) (ledger.apply key change') := by
  cases same with
  | keep => exact mirrors
  | write value record represents own expiry =>
    exact mirrors.update (.held _ record represents own expiry.symm)
  | remove => exact mirrors.update .nothing

theorem Mirrors.dropExpired (gone : live (·.expiresAtMs) now (ledger key) = none) :
    Mirrors memory redis outputs errors keyPrefix now
      (Function.update db (idempotencyKey keyPrefix key) none) ledger := by
  have own : MirrorsAt memory redis outputs errors now key none (ledger key) := by
    cases written : ledger key with
    | none => exact .nothing
    | some record =>
      rw [written, live_eq_none] at gone
      exact .dropped record (gone record rfl)
  have dropped := mirrors.update own
  rwa [Function.update_eq_self] at dropped

end

variable {read : Option (PersistedErrorRead K)}

theorem readErrorText_some {text : String} (reading : readErrorText redis (some text) = some read) :
    ∃ json own, redis.parse text = some json ∧ redis.readPersistedError json = some own ∧
      read = some own := by
  cases parsed : redis.parse text with
  | none => simp [readErrorText, parsed] at reading
  | some json =>
    cases found : redis.readPersistedError json with
    | none => simp [readErrorText, parsed, found] at reading
    | some own =>
      refine ⟨json, own, rfl, found, ?_⟩
      simpa [readErrorText, parsed, found, eq_comm] using reading

variable {value : RedisIdempotencyRecord} {record : ToolIdempotencyRecord J}

theorem Represents.parse (alike : Alike memory redis outputs errors)
    (represents : Represents memory redis outputs errors value record) (own : record.key = key) :
    ∃ output read, value.outputJson.mapM redis.parse = some output ∧
      readErrorText redis value.errorJson = some read ∧
      parseValues redis value key = .ok (output, read) := by
  obtain ⟨output, allowed, -, stringified⟩ := represents.output
  obtain ⟨error, allowed', -, stored⟩ := represents.error
  have parsed : ∃ output, value.outputJson.mapM redis.parse = some output := by
    cases output with
    | none =>
      have nothing : value.outputJson = none := by
        simpa [pure, Except.pure, eq_comm] using stringified
      exact ⟨none, by simp [nothing]⟩
    | some output =>
      cases text : redis.stringifyOutput output with
      | error e => simp [text, Functor.map, Except.map] at stringified
      | ok text' =>
        have held : value.outputJson = some text' := by
          simpa [text, Functor.map, Except.map, eq_comm] using stringified
        obtain ⟨json, parses⟩ := alike.output_read output (allowed output rfl) text' text
        exact ⟨some json, by simp [held, parses]⟩
  have readable : ∃ read, readErrorText redis value.errorJson = some read := by
    generalize value.errorJson = text at stored ⊢
    cases stored with
    | none => exact ⟨none, rfl⟩
    | some error text stored =>
      obtain ⟨json, read, parses, reads⟩ := alike.error_read error (allowed' error rfl) text stored
      exact ⟨some read, by simp [readErrorText, parses, reads]⟩
  obtain ⟨output, parsed⟩ := parsed
  obtain ⟨read, reading⟩ := readable
  refine ⟨output, read, parsed, reading, ?_⟩
  obtain ⟨sessionId, fence, generationId, -, -, claimedFence, low, high, generation, nonempty⟩ :=
    represents.fenced
  have accepted : parsesAs value key = true := by
    simp [parsesAs, represents.key, own, represents.expiry, claimedFence, low, high, generation,
      nonempty]
  obtain ⟨rawError, rawParsed, rawRead⟩ := Option.bind_eq_some_iff.mp reading
  simp [parseValues, parsed, rawParsed, rawRead, accepted, bind, Except.bind]

theorem Represents.rewritten (represents : Represents memory redis outputs errors value record)
    (reading : readErrorText redis value.errorJson = some read) {canonical : String}
    (migrated : read.bind (·.canonicalJson) = some canonical) :
    Represents memory redis outputs errors { value with errorJson := some canonical } record := by
  obtain ⟨error, allowed, snapshot, stored⟩ := represents.error
  refine { represents with error := ⟨error, allowed, snapshot, ?_⟩ }
  generalize value.errorJson = text at stored reading
  cases stored with
  | none =>
    cases reading
    cases migrated
  | some error text stored =>
    obtain ⟨json, own, parsed, found, rfl⟩ := readErrorText_some reading
    exact .some error canonical (.rewritten text canonical json own stored parsed found migrated)

theorem Mirrors.rewriteRead (mirrors : Mirrors memory redis outputs errors keyPrefix now db ledger)
    (moment : RedisMoment) (redisKey : String)
    (reading : readErrorText redis value.errorJson = some read) :
    Mirrors memory redis outputs errors keyPrefix now
      (Redis.rewriteRead moment redisKey value read db) ledger := by
  unfold Redis.rewriteRead
  split
  case h_2 => exact mirrors
  next canonical migrated =>
    split
    case isFalse => exact mirrors
    unfold rewriteAlias
    split
    case h_2 => exact mirrors
    next entry present =>
      split
      case isFalse => exact mirrors
      next same =>
        subst same
        intro other
        by_cases own : idempotencyKey keyPrefix other = redisKey
        case neg =>
          rw [Function.update_of_ne own]
          exact mirrors other
        subst own
        rw [Function.update_self]
        have held := mirrors other
        rw [present] at held
        generalize ledger other = written at held ⊢
        cases held with
        | held _ record represents own px =>
          exact .held _ record (represents.rewritten reading migrated) own px

theorem answerRecord_eq {α : Type} (alike : Alike memory redis outputs errors)
    (represents : Represents memory redis outputs errors value record) (own : record.key = key)
    (moment : RedisMoment) (redisKey : String)
    (result : ToolIdempotencyRecord K → Except DalError α)
    (mirrors : Mirrors memory redis outputs errors keyPrefix now db ledger) :
    ∃ output read db', value.outputJson.mapM redis.parse = some output ∧
      readErrorText redis value.errorJson = some read ∧
      answerRecord redis moment value redisKey key result db =
        (result (parsedRecord value output read), db') ∧
      Mirrors memory redis outputs errors keyPrefix now db' ledger := by
  obtain ⟨output, read, parsed, reading, values⟩ := represents.parse alike own
  refine ⟨output, read, Redis.rewriteRead moment redisKey value read db, parsed, reading, ?_,
    mirrors.rewriteRead moment redisKey reading⟩
  simp [answerRecord, parseIdempotency, values]

end Lemmas

end Tvic.Redis
