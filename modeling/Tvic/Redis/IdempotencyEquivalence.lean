import Tvic.Redis.IdempotencyAgreement

/-!
# Runs of both idempotency stores

`idempotency_agreement` for whole runs: at every step both stores answer with the same outcome, and
afterwards both hold the same logical record under every key, as long as the record has not expired.
-/
namespace Tvic.Redis.IdempotencyAgreement

open Lib

variable {V J K α β : Type} {memory : Serialization V J} {redis : RedisSerialization V K}
  {outputs errors : V → Prop} {keyPrefix : Option String}

/-! ### One event -/

theorem perform_map (f : α → β) (readings : Readings) (key : String) (method : Method J α)
    (ledger : IdempotencyLedger J) :
    ledger.perform readings key (method.map f) =
      ((ledger.perform readings key method).1.map f, (ledger.perform readings key method).2) := by
  cases method <;> rfl

theorem Agreement.map {now : Nat} {classify : Except DalError α → OutcomeClass}
    {classify' : Except DalError β → OutcomeClass} {f : α → ToolIdempotencyAnswer J}
    {f' : β → ToolIdempotencyAnswer K} {inMemory : Except DalError α × IdempotencyLedger J}
    {inRedis : Except DalError β × IdempotencyDb}
    (agreement : Agreement memory redis outputs errors keyPrefix now classify classify' inMemory
      inRedis)
    (class_eq : ∀ answer, outcomeClass (answer.map f) = classify answer)
    (class_eq' : ∀ answer, outcomeClass (answer.map f') = classify' answer) :
    Agreement memory redis outputs errors keyPrefix now outcomeClass outcomeClass
      (inMemory.1.map f, inMemory.2) (inRedis.1.map f', inRedis.2) := by
  constructor
  · rw [class_eq, class_eq', agreement.outcome]
  · exact agreement.mirrors

theorem step_agrees (alike : Alike memory redis outputs errors) {event : FencedEvent V}
    (admissible : Admissible outputs errors event) {db : IdempotencyDb} {ledger : IdempotencyLedger J}
    (mirrors : Mirrors memory redis outputs errors keyPrefix event.now db ledger) :
    Agreement memory redis outputs errors keyPrefix event.now outcomeClass outcomeClass
      (ledger.serve memory event.moment event.call)
      (RedisToolIdempotencyStore.serve redis keyPrefix event.redisMoment event.call db) := by
  unfold Admissible at admissible
  unfold IdempotencyLedger.serve RedisToolIdempotencyStore.serve
  cases call : event.call with
  | lookup key requestHash sessionId lease =>
    rw [call] at admissible
    obtain ⟨own, rfl, session⟩ := admissible
    have agreement := lookup_agrees key requestHash alike session mirrors
    simp only [InMemoryToolIdempotencyStore.method, perform_map, ToolIdempotencyCall.key]
    exact agreement.map (by rintro (_ | _) <;> rfl) (by rintro (_ | _) <;> rfl)
  | claim input =>
    rw [call] at admissible
    obtain ⟨⟨own, leased, session⟩, kept⟩ := admissible
    have agreement := claim_agrees alike leased session kept mirrors
    simp only [InMemoryToolIdempotencyStore.method, perform_map, ToolIdempotencyCall.key]
    exact agreement.map (by rintro (_ | _) <;> rfl) (by rintro (_ | _) <;> rfl)
  | releaseClaim input =>
    rw [call] at admissible
    obtain ⟨own, leased, session⟩ := admissible
    have agreement := releaseClaim_agrees leased session mirrors
    simp only [InMemoryToolIdempotencyStore.method, perform_map, ToolIdempotencyCall.key]
    exact agreement.map (by rintro (_ | _) <;> rfl) (by rintro (_ | _) <;> rfl)
  | complete key requestHash outcome =>
    rw [call] at admissible
    obtain ⟨⟨own, leased, session⟩, kept, owned, allowed, allowed'⟩ := admissible
    have agreement := complete_agrees key requestHash alike leased session
      kept owned allowed allowed' mirrors
    simp only [InMemoryToolIdempotencyStore.method, perform_map, ToolIdempotencyCall.key]
    exact agreement.map (by rintro (_ | _) <;> rfl) (by rintro (_ | _) <;> rfl)
  | quarantine input =>
    rw [call] at admissible
    obtain ⟨session, kept, tool, version, allowed⟩ := admissible
    have agreement := quarantine_agrees alike session kept tool version allowed mirrors
    simp only [InMemoryToolIdempotencyStore.method, perform_map, ToolIdempotencyCall.key]
    exact agreement.map (by rintro (_ | _) <;> rfl) (by rintro (_ | _) <;> rfl)

/-! ### Runs -/

/-- The event as the in-memory store meets it. -/
def FencedEvent.inMemory (event : FencedEvent V) : IdempotencyEvent V :=
  .call event.moment event.call

/-- The clock never goes back from one call to the next. -/
def SteadyNow (events : List (FencedEvent V)) : Prop :=
  events.Pairwise fun earlier later => earlier.now ≤ later.now

theorem SteadyNow.steadyClock {events : List (FencedEvent V)} (clock : SteadyNow events) :
    SteadyClock (events.map FencedEvent.inMemory) :=
  List.pairwise_map.mpr clock

section Runs

variable (redis : RedisSerialization V K) (keyPrefix : Option String)

/-- Redis after a run that began without any record. -/
def dbAfter (events : List (FencedEvent V)) : IdempotencyDb :=
  run (fun db event =>
    (RedisToolIdempotencyStore.serve redis keyPrefix event.redisMoment event.call db).2)
    IdempotencyDb.empty events

/-- What Redis's store answers to a call at the end of a run. -/
def redisAnswerAfter (events : List (FencedEvent V)) (last : FencedEvent V) :
    Except DalError (ToolIdempotencyAnswer K) :=
  (RedisToolIdempotencyStore.serve redis keyPrefix last.redisMoment last.call
    (dbAfter redis keyPrefix events)).1

end Runs

theorem dbAfter_snoc (events : List (FencedEvent V)) (last : FencedEvent V) :
    dbAfter redis keyPrefix (events ++ [last]) =
      (RedisToolIdempotencyStore.serve redis keyPrefix last.redisMoment last.call
        (dbAfter redis keyPrefix events)).2 :=
  run_snoc _ _ _ _

variable (keyPrefix) in
theorem run_mirrors (alike : Alike memory redis outputs errors) {events : List (FencedEvent V)}
    (admissible : ∀ event ∈ events, Admissible outputs errors event) (clock : SteadyNow events)
    (now : Nat) (upto : ∀ event ∈ events, event.now ≤ now) :
    Mirrors memory redis outputs errors keyPrefix now (dbAfter redis keyPrefix events)
      (IdempotencyLedger.after memory (events.map FencedEvent.inMemory)) := by
  induction events using List.reverseRecOn generalizing now with
  | nil => exact fun key => .nothing
  | append_singleton events last ih =>
    obtain ⟨before, -, earlier⟩ := List.pairwise_append.mp clock
    have mirrors := ih (fun event member => admissible event (by simp [member])) before
      _ fun event member => earlier event member last (by simp)
    have agreement := step_agrees alike (admissible last (by simp)) mirrors
    rw [dbAfter_snoc, List.map_append, List.map_singleton, IdempotencyLedger.after_snoc]
    exact agreement.mirrors.mono (upto last (by simp))

/-! ### Logical records -/

/-- What a record says, whichever store holds it. -/
structure LogicalRecord where
  status : ToolIdempotencyStatus
  owner : Option String
  requestHash : String
  sessionId : Option SessionId
  toolId : Option String
  toolVersion : Option String
  claimedFence : Option Number
  claimedGenerationId : Option String
  expiresAtMs : Nat
  deriving DecidableEq, Repr

def LogicalRecord.ofMemory (record : ToolIdempotencyRecord J) : LogicalRecord where
  status := record.status
  owner := record.owner
  requestHash := record.requestHash
  sessionId := record.sessionId
  toolId := record.toolId
  toolVersion := record.toolVersion
  claimedFence := record.claimedFence
  claimedGenerationId := record.claimedGenerationId
  expiresAtMs := record.expiresAtMs

def LogicalRecord.ofRedis (value : RedisIdempotencyRecord) : LogicalRecord where
  status := value.status
  owner := some value.owner
  requestHash := value.requestHash
  sessionId := value.sessionId
  toolId := value.toolId
  toolVersion := value.toolVersion
  claimedFence := value.claimedFence.map fun (fence : Nat) => .int fence
  claimedGenerationId := value.claimedGenerationId
  expiresAtMs := value.expiresAtMs

def memoryRecord (now : Nat) (key : String) (store : InMemoryToolIdempotencyStore J) :
    Option LogicalRecord :=
  (live (·.expiresAtMs) now (store.get key)).map .ofMemory

def redisRecord (keyPrefix : Option String) (now : Nat) (key : String) (db : IdempotencyDb) :
    Option LogicalRecord :=
  (live (·.expiresAtMs) now (db.get now (idempotencyKey keyPrefix key))).map .ofRedis

theorem logical_eq {value : RedisIdempotencyRecord} {record : ToolIdempotencyRecord J}
    (represents : Represents memory redis outputs errors value record) :
    LogicalRecord.ofRedis value = LogicalRecord.ofMemory record := by
  have fence := represents.claimedFence
  simp only [LogicalRecord.ofRedis, LogicalRecord.ofMemory, represents.status, represents.owner,
    represents.requestHash, represents.sessionId, represents.toolId, represents.toolVersion,
    represents.claimedGenerationId, represents.expiresAtMs, fence]

theorem redisRecord_eq {now : Nat} {db : IdempotencyDb} {ledger : IdempotencyLedger J}
    (mirrors : Mirrors memory redis outputs errors keyPrefix now db ledger) (key : String) :
    redisRecord keyPrefix now key db = (live (·.expiresAtMs) now (ledger key)).map .ofMemory := by
  have found := mirrors.found key
  rw [redisRecord]
  generalize db.get now (idempotencyKey keyPrefix key) = raw at found ⊢
  generalize live (·.expiresAtMs) now (ledger key) = existing at found ⊢
  cases found with
  | missing => rfl
  | expired value record represents own expired =>
    have gone : live (·.expiresAtMs) now (some value) = none := by
      simpa [live_eq_none, represents.expiresAtMs] using expired
    rw [gone]
    rfl
  | both value record represents own counts =>
    have whole : live (·.expiresAtMs) now (some value) = some value :=
      live_eq_some.mpr ⟨rfl, by simpa [represents.expiresAtMs] using counts⟩
    rw [whole, Option.map_some, logical_eq represents]
    rfl

/-- At every step of a run both stores answer with the same outcome, and from then on until the next
step hold the same unexpired record under every key. -/
def SameSteps (memory : Serialization V J) (redis : RedisSerialization V K)
    (keyPrefix : Option String) (events : List (FencedEvent V)) : Prop :=
  ∀ before event after, events = before ++ event :: after →
    outcomeClass (answerAfter memory (before.map FencedEvent.inMemory) event.moment event.call) =
        outcomeClass (redisAnswerAfter redis keyPrefix before event) ∧
      ∀ key now, event.now ≤ now →
        memoryRecord now key (storeAfter memory ((before ++ [event]).map FencedEvent.inMemory)) =
          redisRecord keyPrefix now key (dbAfter redis keyPrefix (before ++ [event]))

def quoted (text : String) : String := "\"" ++ text ++ "\""

def jsonText : Serialization String String where
  snapshotJsonValue := .ok
  copyJsonValue := id
  stableStringify text := (text.map quoted).getD "null"

def redisText : RedisSerialization String String where
  stringifyOutput text := .ok (quoted text)
  stringifySanitizedError text := .ok (quoted text)
  parse text := if text = quoted "done" then some "done" else none
  readPersistedError text := some { error := text, canonicalJson := none }
  stableStringify text := (text.map quoted).getD "null"
  stringifyNormalizedError text := .ok (quoted text)

/-- The lease of the second generation of "session". -/
def liveLeases : LeaseState where
  lease := fun sessionId => if sessionId = "session" then some
      { sessionId := "session", holder := "worker", fence := 2, generationId := some "g2"
        acquiredAtMs := 0, renewedAtMs := 0, expiresAtMs := 1000, recoveryResolvedFence := none
        recoveryResolvedGenerationId := none }
    else none
  accepted := by
    intro sessionId record present
    split at present
    case isFalse => cases present
    case isTrue own =>
      cases present
      exact ⟨⟨by decide, by decide, by decide, by decide, by decide, by decide, by simp, by simp⟩,
        own.symm⟩

def workerLease : ToolIdempotencyLease where
  sessionId := "session"
  holder := "worker"
  fence := .int 2
  generationId := "g2"

def eventAt (now : Nat) (call : ToolIdempotencyCall String) : FencedEvent String where
  now
  leases := liveLeases
  sessionExists := fun _ => true
  rewritesAlias := true
  call

def workerClaim (toolId : Option String) (ttlMs : Nat) : ToolIdempotencyCall String :=
  .claim
    { key := "call", sessionId := none, lease := some workerLease, toolId, toolVersion := none
      requestHash := "hash", owner := "worker", ttlMs := .int ttlMs }

def workerCompletion (owner : String) : ToolIdempotencyCall String :=
  .complete "call" "hash"
    { status := ⟨.succeeded, by decide⟩, ttlMs := .int 500, owner, sessionId := none
      lease := some workerLease, output := some "done", error := none }

theorem jsonText_alike : Alike jsonText redisText (· = "done") (fun _ => False) := by
  constructor
  case output_taken => simp [jsonText, redisText]
  case output_read =>
    rintro _ rfl text ⟨⟩
    exact ⟨"done", by simp [redisText]⟩
  case output_compared =>
    intro output output' allowed allowed' json json' text read snapshot snapshot' stringified parsed
    have taken : ∀ value : Option String, value.mapM jsonText.snapshotJsonValue = .ok value := by
      rintro (_ | _) <;> rfl
    rw [taken] at snapshot snapshot'
    cases snapshot
    cases snapshot'
    have same : read = output := by
      cases output with
      | none =>
        cases stringified
        cases parsed
        rfl
      | some value =>
        cases stringified
        simpa [redisText, allowed value rfl, eq_comm] using parsed
    subst same
    cases output' with
    | none => simp [jsonText, redisText, outputText, eq_comm]
    | some value => simp [jsonText, redisText, outputText, eq_comm]
  case error_taken | error_read => exact fun _ none => none.elim
  case error_compared =>
    intro error error' allowed allowed' json json' text read snapshot snapshot' stored reading
    cases error with
    | some value => exact (allowed value rfl).elim
    | none =>
      cases error' with
      | some value => exact (allowed' value rfl).elim
      | none =>
        cases stored
        cases snapshot
        cases snapshot'
        cases reading
        simp [jsonText, redisText, errorText]

/-- The call carries a lease of its session. -/
def CarriesLease (event : FencedEvent V) : Prop :=
  match event.call with
  | .lookup _ _ sessionId lease => Fenced lease sessionId
  | .claim input => Fenced input.lease input.sessionId
  | .releaseClaim input => Fenced input.lease input.sessionId
  | .complete _ _ outcome => Fenced outcome.lease outcome.sessionId
  | .quarantine input => input.sessionId = input.lease.sessionId

/-- The in-memory store takes a completion that names no owner. -/
def emptyOwner : List (FencedEvent String) :=
  [eventAt 10 (workerClaim none 100), eventAt 20 (workerCompletion "")]

/-- After a quarantine that names no tool, the in-memory store lets a claim name any. -/
def emptyTool : List (FencedEvent String) :=
  [eventAt 10 (.quarantine
      { key := "call", sessionId := "session", lease := workerLease, toolId := "", toolVersion := "1"
        requestHash := "hash", owner := "worker", ttlMs := .int 100, error := "done" }),
    eventAt 20 (workerClaim (some "tool") 100)]

/-- `cjson` rounds an expiry of fifteen digits. -/
def roundedExpiry : List (FencedEvent String) :=
  [eventAt 10 (workerClaim none 100000000000003)]

/-- Fenced calls after which the stores no longer agree. -/
def Part (events : List (FencedEvent String)) : Prop :=
  (∀ event ∈ events, CarriesLease event) ∧ SteadyNow events ∧
    ¬SameSteps jsonText redisText none events

end Tvic.Redis.IdempotencyAgreement
