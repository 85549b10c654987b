import Tvic.Redis.IdempotencyGuards

/-!
# What the idempotency stores decide on the record they find

For a call that passes, the script's reply and change beside the in-memory method's answer and
change, operation by operation. A script that finds an expired record goes on as if there were none.
-/
namespace Tvic.Redis.IdempotencyAgreement

open Lib

variable {V J K α β : Type} {memory : Serialization V J} {redis : RedisSerialization V K}
  {outputs errors : V → Prop} {keyPrefix : Option String} {now ttl fence : Nat} {key : String}
  {raw : Option RedisIdempotencyRecord} {existing : Option (ToolIdempotencyRecord J)}

/-! ### Reading a record in a script -/

variable {value : RedisIdempotencyRecord} {record : ToolIdempotencyRecord J}

theorem readIdempotencyRecord_eq (represents : Represents memory redis outputs errors value record)
    (own : record.key = key) :
    readIdempotencyRecord value key = some (value, record.expiresAtMs) := by
  obtain ⟨-, fence, generationId, -, -, claimedFence, low, high, generation, nonempty⟩ :=
    represents.fenced
  have sameKey : value.key = key := represents.key.trans own
  have expiry : safeTimestamp value.expiresAtMs = some record.expiresAtMs :=
    safeInteger_eq_some.mpr ⟨represents.expiresAtMs.symm, Nat.zero_le _, represents.expiry⟩
  have safe : safeInteger fence 1 = some fence := safeInteger_eq_some.mpr ⟨rfl, low, high⟩
  simp [readIdempotencyRecord, sameKey, expiry, claimedFence, safe, generation, nonempty]

theorem encodeIdempotencyRecord_eq (value : RedisIdempotencyRecord)
    (fences : ∀ fence, value.claimedFence = some fence → 1 ≤ fence ∧ fence ≤ maxSafeInteger)
    (kept : cjsonNumber value.expiresAtMs = value.expiresAtMs) :
    encodeIdempotencyRecord value = some value := by
  have safe : (value.claimedFence.any fun fence => (safeInteger fence 1).isNone) = false := by
    cases stated : value.claimedFence with
    | none => rfl
    | some fence =>
      obtain ⟨low, high⟩ := fences fence stated
      have safe : safeInteger fence 1 = some fence := safeInteger_eq_some.mpr ⟨rfl, low, high⟩
      simp [safe]
  rw [encodeIdempotencyRecord, safe, kept]
  rfl

theorem nonempty_getD (text : Option String) : nonempty (text.getD "") = truthy text := by
  cases text with
  | none => rfl
  | some text => by_cases empty : text = "" <;> simp [nonempty, truthy, empty, Option.filter]

theorem nonempty_of_ne {text : String} (ne : text ≠ "") : nonempty text = some text := if_neg ne

theorem truthy_of_ne {text : String} (ne : text ≠ "") : truthy (some text) = some text :=
  truthy_eq_some.mpr ⟨rfl, ne⟩

theorem differs_iff {stored : Option String} (requested : Option String) (ne : stored ≠ some "") :
    InMemoryToolIdempotencyStore.differs stored requested = true ↔
      argvDiffers (requested.getD "") stored := by
  cases stored with
  | none => simp [InMemoryToolIdempotencyStore.differs, argvDiffers, truthy]
  | some stored =>
    have nonempty : stored ≠ "" := fun empty => ne (by rw [empty])
    cases requested with
    | none => simp [InMemoryToolIdempotencyStore.differs, argvDiffers, truthy]
    | some requested =>
      by_cases empty : requested = ""
      · simp [InMemoryToolIdempotencyStore.differs, argvDiffers, truthy, empty]
      · simp [InMemoryToolIdempotencyStore.differs, argvDiffers, truthy_of_ne nonempty,
          truthy_of_ne empty, empty]

variable (fence) in
theorem claimedUnderPrior_eq (represents : Represents memory redis outputs errors value record)
    (lease : ToolIdempotencyLease) :
    claimedUnderPrior value lease.generationId fence =
      InMemoryToolIdempotencyStore.claimedBefore record lease := by
  obtain ⟨-, -, generationId, -, -, -, -, -, generation, -⟩ := represents.fenced
  simp [claimedUnderPrior, InMemoryToolIdempotencyStore.claimedBefore,
    ← represents.claimedGenerationId, generation]

/-! ### `claim` -/

def claimCode : ToolIdempotencyClaimResult J → Int
  | .conflict => -2
  | .inProgress _ => 0
  | .claimed _ => 1
  | .succeeded _ => 2
  | .terminal _ => 3

variable {reply : IdempotencyReply}

theorem replyIf_pos {condition : Prop} [Decidable condition] (holds : condition) :
    replyIf condition reply = .error reply := if_pos holds

theorem replyIf_neg {condition : Prop} [Decidable condition] (fails : ¬condition) :
    replyIf condition reply = .ok () := if_neg fails

variable {input : ToolIdempotencyClaim} {lease : ToolIdempotencyLease}

theorem claimCurrent_eq (leased : input.lease = some lease) (stated : lease.fence = .int fence)
    (session : lease.sessionId ≠ "")
    (found : Found memory redis outputs errors now input.key raw existing) :
    claimCurrent now fence input.key lease.sessionId (input.toolId.getD "")
        (input.toolVersion.getD "") input.requestHash lease.generationId raw =
      match existing.bind (InMemoryToolIdempotencyStore.claimExisting memory input
        (some lease.sessionId)) with
      | some result => .error (.result (claimCode result) raw)
      | none => .ok () := by
  cases found with
  | missing => rfl
  | expired value record represents own expired =>
    have late : ¬now < record.expiresAtMs := Nat.not_lt_of_le expired
    simp [claimCurrent, readIdempotencyRecord_eq represents own, orReply, late, bind, Except.bind]
  | both value record represents own counts =>
    have tool := differs_iff input.toolId represents.tools.1
    have version := differs_iff input.toolVersion represents.tools.2
    have prior := claimedUnderPrior_eq fence represents lease
    rw [represents.toolId] at tool
    rw [represents.toolVersion] at version
    simp only [claimCurrent, readIdempotencyRecord_eq represents own, orReply, bind, Except.bind,
      counts, if_true, Option.bind_some, InMemoryToolIdempotencyStore.claimExisting,
      represents.toolId, represents.toolVersion, represents.requestHash, represents.sessionId,
      represents.status, leased]
    by_cases otherSession : record.sessionId ≠ some lease.sessionId
    · simp [replyIf, otherSession, session, claimCode]
    have sameSession := not_not.mp otherSession
    by_cases otherTool : InMemoryToolIdempotencyStore.differs record.toolId input.toolId = true ∨
        InMemoryToolIdempotencyStore.differs record.toolVersion input.toolVersion = true
    · have argv := otherTool
      rw [tool, version] at argv
      simp [replyIf, sameSession, otherTool, or_assoc.symm, argv, claimCode]
    have argv := otherTool
    rw [tool, version, not_or] at argv
    by_cases hash : record.requestHash ≠ input.requestHash
    · simp [replyIf, sameSession, otherTool, hash, claimCode]
    by_cases succeeded : record.status = .succeeded
    · simp [replyIf, sameSession, otherTool, argv, hash, succeeded, claimCode]
    by_cases claimed : record.status = .claimed
    · by_cases stale : InMemoryToolIdempotencyStore.claimedBefore record lease = true
      · simp [replyIf, sameSession, otherTool, argv, hash, claimed, session, prior, stale]
      · simp [replyIf, sameSession, otherTool, argv, hash, claimed, session, prior, stale, claimCode]
    · simp [replyIf, sameSession, otherTool, argv, hash, succeeded, claimed, claimCode]

variable {event : FencedEvent V}

theorem Passing.facts (passing : Passing event lease fence) :
    lease.sessionId ≠ "" ∧ lease.generationId ≠ "" ∧ 1 ≤ fence ∧ fence ≤ maxSafeInteger := by
  obtain ⟨-, low, record, present, -, rfl, generation, -⟩ := passing
  obtain ⟨accepted, own⟩ := event.leases.accepted _ record present
  exact ⟨own ▸ accepted.sessionId, generation ▸ accepted.generation_ne, low, accepted.fence.2⟩

def claimValue (input : ToolIdempotencyClaim) (lease : ToolIdempotencyLease) (fence expiresAtMs : Nat) :
    RedisIdempotencyRecord where
  key := input.key
  requestHash := input.requestHash
  status := .claimed
  owner := input.owner
  expiresAtMs
  sessionId := some lease.sessionId
  toolId := truthy input.toolId
  toolVersion := truthy input.toolVersion
  claimedFence := some fence
  claimedGenerationId := some lease.generationId
  outputJson := none
  errorJson := none

theorem truthy_ne (text : Option String) : truthy text ≠ some "" :=
  fun equal => (truthy_eq_some.mp equal).2 rfl

variable (memory redis outputs errors) in
theorem claimValue_represents (leased : input.lease = some lease)
    (passing : Passing event lease fence) (small : event.now + ttl ≤ maxSafeInteger) :
    Represents memory redis outputs errors (claimValue input lease fence (event.now + ttl))
      (InMemoryToolIdempotencyStore.claimRecord input (some lease.sessionId) (event.now + ttl)) := by
  obtain ⟨session, generation, low, high⟩ := passing.facts
  constructor
  case key | requestHash | status | owner | expiresAtMs | toolId | toolVersion => rfl
  case sessionId => exact (truthy_of_ne session).symm
  case claimedFence =>
    simp [claimValue, InMemoryToolIdempotencyStore.claimRecord, leased, passing.1]
  case claimedGenerationId =>
    simp [claimValue, InMemoryToolIdempotencyStore.claimRecord, leased]
  case fenced =>
    exact ⟨lease.sessionId, fence, lease.generationId, rfl, session, rfl, low, high, rfl, generation⟩
  case tools => exact ⟨truthy_ne input.toolId, truthy_ne input.toolVersion⟩
  case expiry => exact small
  case output => exact ⟨none, by simp, rfl, rfl⟩
  case error => exact ⟨none, by simp, rfl, .none⟩
  case claimed => exact fun _ => ⟨rfl, rfl⟩

theorem claimScript_eq (leased : input.lease = some lease) (passing : Passing event lease fence)
    (timed : Timed event input.ttlMs ttl) (kept : cjsonNumber (event.now + ttl) = event.now + ttl)
    (found : Found memory redis outputs errors event.now input.key raw existing) :
    fencedClaimScript event.now (event.redisMoment.leases lease.sessionId) lease.holder fence
        input.key lease.sessionId (input.toolId.getD "") (input.toolVersion.getD "")
        input.requestHash input.owner ttl lease.generationId raw =
      match existing.bind (InMemoryToolIdempotencyStore.claimExisting memory input
        (some lease.sessionId)) with
      | some result => (.result (claimCode result) raw, .keep)
      | none =>
        (.result 1 (some (claimValue input lease fence (event.now + ttl))),
          .write (claimValue input lease fence (event.now + ttl))) := by
  obtain ⟨session, generation, low, high⟩ := passing.facts
  have head := (expiryThenLease_decides event.leases event.now lease.sessionId lease.holder fence
    lease.generationId ttl).1 ⟨passing.2, timed.2⟩
  unfold fencedClaimScript
  rw [FencedEvent.redisMoment, finish_of_passed head]
  dsimp only
  rw [claimCurrent_eq leased passing.1 session found]
  cases existing.bind (InMemoryToolIdempotencyStore.claimExisting memory input
      (some lease.sessionId)) with
  | some result => rfl
  | none =>
    have encoded : encodeIdempotencyRecord (claimValue input lease fence (event.now + ttl)) =
        some (claimValue input lease fence (event.now + ttl)) :=
      encodeIdempotencyRecord_eq _ (by rintro _ ⟨⟩; exact ⟨low, high⟩) kept
    rw [claimValue] at encoded
    simp only [nonempty_getD, nonempty_of_ne session, if_neg session, encoded, orReply]
    rfl

/-! ### `quarantine` -/

def quarantineCode : ToolIdempotencyQuarantineResult J → Int
  | .conflict => -2
  | .inProgress _ => 0
  | .quarantined _ => 1
  | .succeeded _ => 2
  | .terminal _ => 3

variable {input : ToolIdempotencyQuarantine V}

theorem quarantineCurrent_eq (stated : input.lease.fence = .int fence)
    (found : Found memory redis outputs errors now input.key raw existing) :
    quarantineCurrent now fence input.lease.generationId input.key input.sessionId input.toolId
        input.toolVersion input.requestHash input.owner raw =
      match existing.bind (InMemoryToolIdempotencyStore.quarantineExisting memory input) with
      | some result => .error (.result (quarantineCode result) raw)
      | none => .ok () := by
  cases found with
  | missing => rfl
  | expired value record represents own expired =>
    have late : ¬now < record.expiresAtMs := Nat.not_lt_of_le expired
    simp [quarantineCurrent, readIdempotencyRecord_eq represents own, orReply, late, bind,
      Except.bind]
  | both value record represents own counts =>
    have prior := claimedUnderPrior_eq fence represents input.lease
    have owner : value.owner = input.owner ↔ record.owner = some input.owner := by
      rw [← represents.owner, Option.some_inj]
    simp only [quarantineCurrent, readIdempotencyRecord_eq represents own, orReply, bind,
      Except.bind, counts, if_true, Option.bind_some,
      InMemoryToolIdempotencyStore.quarantineExisting, represents.toolId, represents.toolVersion,
      represents.requestHash, represents.sessionId, represents.status, ne_eq, owner, prior]
    by_cases conflict : ¬record.sessionId = some input.sessionId ∨
        ¬record.toolId = some input.toolId ∨ ¬record.toolVersion = some input.toolVersion ∨
        ¬record.requestHash = input.requestHash
    · simp only [replyIf, if_pos conflict, quarantineCode]
    simp only [replyIf, if_neg conflict]
    by_cases succeeded : record.status = .succeeded
    · simp [succeeded, quarantineCode]
    by_cases claimed : record.status = .claimed
    case neg => simp [succeeded, claimed, quarantineCode]
    by_cases same : record.owner = some input.owner
    case neg => simp [claimed, same, quarantineCode]
    by_cases before : InMemoryToolIdempotencyStore.claimedBefore record input.lease = true
    · simp [claimed, same, before]
    · simp [claimed, same, before, quarantineCode]

def quarantineValue (input : ToolIdempotencyQuarantine V) (fence expiresAtMs : Nat)
    (errorJson : String) : RedisIdempotencyRecord where
  key := input.key
  requestHash := input.requestHash
  status := .failed
  owner := input.owner
  expiresAtMs
  sessionId := some input.sessionId
  toolId := some input.toolId
  toolVersion := some input.toolVersion
  claimedFence := some fence
  claimedGenerationId := some input.lease.generationId
  outputJson := none
  errorJson := some errorJson

variable (outputs) in
theorem quarantineValue_represents (session : input.sessionId = input.lease.sessionId)
    (tool : input.toolId ≠ "") (version : input.toolVersion ≠ "") (allowed : errors input.error)
    (passing : Passing event input.lease fence) (small : event.now + ttl ≤ maxSafeInteger)
    {json : J} {text : String} (snapshot : memory.snapshotJsonValue input.error = .ok json)
    (stringified : redis.stringifySanitizedError input.error = .ok text) :
    Represents memory redis outputs errors (quarantineValue input fence (event.now + ttl) text)
      (InMemoryToolIdempotencyStore.quarantineRecord input json (event.now + ttl)) := by
  obtain ⟨nonempty, generation, low, high⟩ := passing.facts
  constructor
  case key | requestHash | status | owner | expiresAtMs | sessionId | toolId | toolVersion |
      claimedGenerationId => rfl
  case claimedFence =>
    simp [quarantineValue, InMemoryToolIdempotencyStore.quarantineRecord, passing.1]
  case fenced =>
    exact ⟨input.sessionId, fence, input.lease.generationId, rfl, session ▸ nonempty, rfl, low, high,
      rfl, generation⟩
  case tools => simp [quarantineValue, tool, version]
  case expiry => exact small
  case output => exact ⟨none, by simp, rfl, rfl⟩
  case error =>
    refine ⟨some input.error, by simpa using allowed, ?_, .some _ _ (.stored text stringified)⟩
    simp [snapshot, InMemoryToolIdempotencyStore.quarantineRecord, Functor.map, Except.map]
  case claimed => simp [InMemoryToolIdempotencyStore.quarantineRecord]

theorem quarantineScript_eq (session : input.sessionId = input.lease.sessionId)
    (passing : Passing event input.lease fence) (timed : Timed event input.ttlMs ttl)
    (kept : cjsonNumber (event.now + ttl) = event.now + ttl)
    (found : Found memory redis outputs errors event.now input.key raw existing) (text : String) :
    quarantineScript event.now (event.redisMoment.leases input.lease.sessionId) input.lease.holder
        fence input.lease.generationId input.key input.sessionId input.toolId input.toolVersion
        input.requestHash input.owner ttl text raw =
      match existing.bind (InMemoryToolIdempotencyStore.quarantineExisting memory input) with
      | some result => (.result (quarantineCode result) raw, .keep)
      | none =>
        (.result 1 (some (quarantineValue input fence (event.now + ttl) text)),
          .write (quarantineValue input fence (event.now + ttl) text)) := by
  obtain ⟨-, -, low, high⟩ := passing.facts
  have head := (leaseThenExpiry_decides event.leases event.now input.lease.sessionId
    input.lease.holder fence input.lease.generationId ttl).1 ⟨passing.2, timed.2⟩
  rw [← session] at head ⊢
  unfold quarantineScript
  rw [FencedEvent.redisMoment, finish_of_passed head]
  dsimp only
  rw [quarantineCurrent_eq passing.1 found]
  cases existing.bind (InMemoryToolIdempotencyStore.quarantineExisting memory input) with
  | some result => rfl
  | none =>
    have encoded := encodeIdempotencyRecord_eq
      (quarantineValue input fence (event.now + ttl) text)
      (by rintro _ ⟨⟩; exact ⟨low, high⟩) kept
    rw [quarantineValue] at encoded
    simp only [encoded, orReply]
    rfl

/-! ### `complete` and `releaseClaim` -/

/-- The record is not of the call's request, owner, session, fence and generation. -/
def Mismatch (record : ToolIdempotencyRecord J) (requestHash owner : String)
    (lease : ToolIdempotencyLease) : Prop :=
  record.requestHash ≠ requestHash ∨ record.owner ≠ some owner ∨
    record.sessionId ≠ some lease.sessionId ∨ record.claimedFence ≠ some lease.fence ∨
    record.claimedGenerationId ≠ some lease.generationId

theorem mismatch_iff (represents : Represents memory redis outputs errors value record)
    (requestHash owner : String) (stated : lease.fence = .int fence) :
    Mismatch record requestHash owner lease ↔
      value.requestHash ≠ requestHash ∨ value.owner ≠ owner ∨
        value.sessionId ≠ some lease.sessionId ∨
        (value.claimedFence.any fun claimed => claimed ≠ fence) ∨
        (value.claimedGenerationId.any fun claimed => claimed ≠ lease.generationId) := by
  obtain ⟨-, claimed, generation, -, -, claimedFence, -, -, claimedGeneration, -⟩ :=
    represents.fenced
  have owner' : record.owner ≠ some owner ↔ value.owner ≠ owner := by
    rw [← represents.owner, ne_eq, Option.some_inj]
  simp [Mismatch, represents.requestHash, owner', represents.sessionId, ← represents.claimedFence,
    ← represents.claimedGenerationId, claimedFence, claimedGeneration, stated]

variable {outcome : ToolIdempotencyOutcome V}

theorem completionLeaseLost_iff (represents : Represents memory redis outputs errors value record)
    (leased : outcome.lease = some lease) :
    InMemoryToolIdempotencyStore.completionLeaseLost outcome record = true ↔
      record.sessionId ≠ some lease.sessionId ∨ record.claimedFence ≠ some lease.fence ∨
        record.claimedGenerationId ≠ some lease.generationId := by
  obtain ⟨session, claimed, generation, own, -, claimedFence, -, -, claimedGeneration, -⟩ :=
    represents.fenced
  rw [represents.sessionId] at own
  rw [represents.claimedGenerationId] at claimedGeneration
  have fence := represents.claimedFence
  rw [claimedFence] at fence
  simp only [InMemoryToolIdempotencyStore.completionLeaseLost, leased,
    InMemoryToolIdempotencyStore.leasedSession, own, ← fence, claimedGeneration, Option.map_some,
    Option.some_or, ne_eq, Option.some_inj, eq_comm (a := lease.sessionId), Option.isSome_some,
    Bool.or_self, Option.all_some, Option.any_some, Bool.true_and, Bool.or_eq_true,
    decide_eq_true_eq]
  tauto

variable (key) in
theorem completeExisting_of_mismatch {requestHash : String} (output error : Option J) (expiry : Nat)
    (represents : Represents memory redis outputs errors value record)
    (leased : outcome.lease = some lease) (owned : outcome.owner ≠ "")
    (mismatch : Mismatch record requestHash outcome.owner lease) :
    ∃ e, InMemoryToolIdempotencyStore.completeExisting memory requestHash outcome key output error
      expiry record = (.error e, .keep) := by
  unfold InMemoryToolIdempotencyStore.completeExisting
  have lost := completionLeaseLost_iff represents leased
  dsimp only
  split_ifs with hash leaseLost owner status same
  · exact ⟨_, rfl⟩
  · exact ⟨_, rfl⟩
  · exact ⟨_, rfl⟩
  all_goals
    exfalso
    rw [lost] at leaseLost
    simp only [truthy_of_ne owned, Option.any_some, decide_eq_true_eq, not_or] at owner
    rcases mismatch with other | other | other
    · exact hash other
    · exact owner.1 other
    · exact leaseLost other

variable (key) in
theorem completeExisting_of_match {requestHash : String} (output error : Option J) (expiry : Nat)
    (represents : Represents memory redis outputs errors value record)
    (leased : outcome.lease = some lease) (owned : outcome.owner ≠ "")
    (matching : ¬Mismatch record requestHash outcome.owner lease) :
    InMemoryToolIdempotencyStore.completeExisting memory requestHash outcome key output error
        expiry record =
      if record.status ≠ .claimed then
        if record.status = outcome.status ∧
            memory.stableStringify record.output = memory.stableStringify output ∧
            memory.stableStringify record.error = memory.stableStringify error then (.ok (), .keep)
        else (.error (.recordConflict "tool_idempotency"), .keep)
      else
        (.ok (), .write
          { record with
            key
            requestHash
            status := outcome.status
            expiresAtMs := expiry
            owner := some outcome.owner
            output := output.or record.output
            error := error.or record.error }) := by
  have lost := completionLeaseLost_iff represents leased
  simp only [Mismatch, not_or, not_not] at matching
  obtain ⟨hash, owner, session, fence, generation⟩ := matching
  have kept : InMemoryToolIdempotencyStore.completionLeaseLost outcome record = false := by
    rw [← Bool.not_eq_true, lost]
    simp [session, fence, generation]
  have own : (truthy (some lease.sessionId)).any (fun sessionId => sessionId ≠ lease.sessionId) =
      false := by
    by_cases empty : lease.sessionId = "" <;> simp [truthy, Option.filter, empty]
  simp only [← session, ne_eq, decide_not] at own
  simp [InMemoryToolIdempotencyStore.completeExisting, hash, kept, truthy_of_ne owned, owner, leased,
    own]

/-- The complete script's checks: of a missing, an expired or another call's record, of one that has
its result, and of a claim. -/
theorem completeCurrent_eq (requestHash owner : String) (stated : lease.fence = .int fence)
    (session : lease.sessionId ≠ "")
    (found : Found memory redis outputs errors now key raw existing) :
    (existing = none ∧ completeCurrent now fence requestHash owner lease.sessionId
      lease.generationId key raw = .error (.result (-2) raw)) ∨
    ∃ value record, raw = some value ∧ existing = some record ∧ record.key = key ∧
      Represents memory redis outputs errors value record ∧
      (Mismatch record requestHash owner lease ∧ completeCurrent now fence requestHash owner
          lease.sessionId lease.generationId key raw = .error (.result (-2) raw) ∨
        ¬Mismatch record requestHash owner lease ∧ record.status ≠ .claimed ∧
          completeCurrent now fence requestHash owner lease.sessionId lease.generationId key raw =
            .error (.result 2 raw) ∨
        ¬Mismatch record requestHash owner lease ∧ record.status = .claimed ∧
          completeCurrent now fence requestHash owner lease.sessionId lease.generationId key raw =
            .ok value) := by
  cases found with
  | missing => exact .inl ⟨rfl, rfl⟩
  | expired value record represents own expired =>
    left
    simp [completeCurrent, readIdempotencyRecord_eq represents own, orReply, expired, replyIf, bind,
      Except.bind]
  | both value record represents own counts =>
    right
    refine ⟨value, record, rfl, rfl, own, represents, ?_⟩
    have compared := mismatch_iff represents requestHash owner stated
    have early : ¬record.expiresAtMs ≤ now := Nat.not_le_of_lt counts
    simp only [completeCurrent, readIdempotencyRecord_eq represents own, orReply, bind, Except.bind,
      early, false_or, session, ne_eq, not_false_eq_true, true_and, ← represents.status]
    by_cases mismatch : Mismatch record requestHash owner lease
    · have differs := compared.mp mismatch
      exact .inl ⟨mismatch, by rw [replyIf_pos differs]⟩
    have same := mt compared.mpr mismatch
    right
    by_cases claimed : value.status = .claimed
    · exact .inr ⟨mismatch, claimed, by rw [replyIf_neg same]; simp [replyIf, claimed]; rfl⟩
    · exact .inl ⟨mismatch, claimed, by rw [replyIf_neg same]; simp [replyIf, claimed]⟩

/-- The record that the complete script writes in the place of a claim. -/
def completeValue (value : RedisIdempotencyRecord) (status : ToolIdempotencyStatus)
    (fence expiresAtMs : Nat) (outputJson errorJson : Option String) : RedisIdempotencyRecord :=
  { value with
    status
    expiresAtMs
    claimedFence := value.claimedFence.or (some fence)
    outputJson
    errorJson }

variable (fence) in
theorem completeValue_represents {requestHash : String} {output error : Option J}
    {outputJson errorJson : Option String} {expiry : Nat}
    (represents : Represents memory redis outputs errors value record) (own : record.key = key)
    (matching : ¬Mismatch record requestHash outcome.owner lease)
    (claimed : record.status = .claimed) (small : expiry ≤ maxSafeInteger)
    (allowed : ∀ output ∈ outcome.output, outputs output)
    (allowed' : ∀ error ∈ outcome.error, errors error)
    (snapshot : outcome.output.mapM memory.snapshotJsonValue = .ok output)
    (snapshot' : outcome.error.mapM memory.snapshotJsonValue = .ok error)
    (stringified : outcome.output.mapM redis.stringifyOutput = .ok outputJson)
    (stringified' : outcome.error.mapM redis.stringifySanitizedError = .ok errorJson) :
    Represents memory redis outputs errors
      (completeValue value outcome.status fence expiry outputJson errorJson)
      { record with
        key
        requestHash
        status := outcome.status
        expiresAtMs := expiry
        owner := some outcome.owner
        output := output.or record.output
        error := error.or record.error } := by
  obtain ⟨noOutput, noError⟩ := represents.claimed claimed
  obtain ⟨sessionId, fence', generationId, session, nonempty, claimedFence, rest⟩ :=
    represents.fenced
  simp only [Mismatch, not_or, not_not] at matching
  obtain ⟨hash, owner, -⟩ := matching
  constructor
  case key => exact represents.key.trans own
  case requestHash => exact represents.requestHash.trans hash
  case status | expiresAtMs => rfl
  case owner => exact represents.owner.trans owner
  case sessionId => exact represents.sessionId
  case toolId => exact represents.toolId
  case toolVersion => exact represents.toolVersion
  case claimedFence => simp [completeValue, claimedFence, ← represents.claimedFence]
  case claimedGenerationId => exact represents.claimedGenerationId
  case fenced =>
    refine ⟨sessionId, fence', generationId, session, nonempty, ?_, rest⟩
    simp [completeValue, claimedFence]
  case tools => exact represents.tools
  case expiry => exact small
  case output => exact ⟨outcome.output, allowed, by simpa [noOutput] using snapshot, stringified⟩
  case error =>
    refine ⟨outcome.error, allowed', by simpa [noError] using snapshot', ?_⟩
    cases given : outcome.error with
    | none =>
      rw [given] at stringified'
      cases stringified'
      exact .none
    | some thrown =>
      rw [given] at stringified'
      cases text : redis.stringifySanitizedError thrown with
      | error e => simp [text, Functor.map, Except.map] at stringified'
      | ok text' =>
        have held : errorJson = some text' := by
          simpa [text, Functor.map, Except.map, eq_comm] using stringified'
        exact held ▸ .some thrown text' (.stored text' text)
  case claimed => exact fun status => absurd status outcome.status.2

section CompleteScript

variable {event : FencedEvent V} {outcome : ToolIdempotencyOutcome V} {lease : ToolIdempotencyLease}
  {requestHash : String} {outputJson errorJson : Option String}

variable (outputJson errorJson) in
theorem completeScript_error (passing : Passing event lease fence)
    (timed : Timed event outcome.ttlMs ttl)
    (replied : completeCurrent event.now fence requestHash outcome.owner lease.sessionId
      lease.generationId key raw = .error reply) :
    fencedCompleteScript event.now (event.redisMoment.leases lease.sessionId) lease.holder fence
      requestHash outcome.owner outcome.status ttl outputJson errorJson lease.sessionId
      lease.generationId key raw = (reply, .keep) := by
  have head := (expiryThenLease_decides event.leases event.now lease.sessionId lease.holder fence
    lease.generationId ttl).1 ⟨passing.2, timed.2⟩
  unfold fencedCompleteScript
  rw [FencedEvent.redisMoment, finish_of_passed head]
  exact finish_of_head replied

variable (outputJson errorJson) in
theorem completeScript_ok (passing : Passing event lease fence)
    (timed : Timed event outcome.ttlMs ttl) (kept : cjsonNumber (event.now + ttl) = event.now + ttl)
    (represents : Represents memory redis outputs errors value record)
    (current : completeCurrent event.now fence requestHash outcome.owner lease.sessionId
      lease.generationId key raw = .ok value) :
    fencedCompleteScript event.now (event.redisMoment.leases lease.sessionId) lease.holder fence
        requestHash outcome.owner outcome.status ttl outputJson errorJson lease.sessionId
        lease.generationId key raw =
      (.result 1 (some (completeValue value outcome.status fence (event.now + ttl) outputJson
          errorJson)),
        .write (completeValue value outcome.status fence (event.now + ttl) outputJson
          errorJson)) := by
  obtain ⟨-, claimed, -, -, -, claimedFence, low, high, -⟩ := represents.fenced
  have head := (expiryThenLease_decides event.leases event.now lease.sessionId lease.holder fence
    lease.generationId ttl).1 ⟨passing.2, timed.2⟩
  have encoded := encodeIdempotencyRecord_eq
    (completeValue value outcome.status fence (event.now + ttl) outputJson errorJson)
    (by
      intro stated same
      have equal : claimed = stated := by simpa [completeValue, claimedFence] using same
      exact equal ▸ ⟨low, high⟩) kept
  rw [completeValue] at encoded
  unfold fencedCompleteScript
  rw [FencedEvent.redisMoment, finish_of_passed head]
  dsimp only
  rw [finish_of_passed current, encoded]
  rfl

end CompleteScript

theorem release_decides {input : ToolIdempotencyRelease} (leased : input.lease = some lease)
    (passing : Passing event lease fence)
    (found : Found memory redis outputs errors event.now input.key raw existing)
    {next : Continuation J Bool}
    (reached : InMemoryToolIdempotencyStore.releaseClaim event.moment input = .ok next) :
    (fencedReleaseClaimScript event.now (event.redisMoment.leases lease.sessionId) lease.holder
        fence lease.generationId lease.sessionId input.key input.requestHash input.owner raw =
          (.result 1 none, .remove) ∧ next existing = (.ok true, .remove)) ∨
      (fencedReleaseClaimScript event.now (event.redisMoment.leases lease.sessionId) lease.holder
        fence lease.generationId lease.sessionId input.key input.requestHash input.owner raw =
          (.result 0 none, .keep) ∧ next existing = (.ok false, .keep)) := by
  have head := (timeThenLease_decides event.leases event.now lease.sessionId lease.holder fence
    lease.generationId).1 passing.2
  obtain ⟨_, _, afterLease⟩ := bind_eq_ok.mp reached
  obtain ⟨_, _, afterSession⟩ := bind_eq_ok.mp afterLease
  obtain ⟨_, _, whole⟩ := bind_eq_ok.mp afterSession
  cases whole
  unfold fencedReleaseClaimScript
  rw [FencedEvent.redisMoment, finish_of_passed head]
  cases found with
  | missing => exact .inr ⟨rfl, rfl⟩
  | expired value record represents own expired =>
    right
    simp [readIdempotencyRecord_eq represents own, orReply, expired, replyIf, bind, Except.bind,
      Script.finish]
  | both value record represents own counts =>
    have early : ¬record.expiresAtMs ≤ event.now := Nat.not_le_of_lt counts
    have compared := mismatch_iff represents input.requestHash
      input.owner passing.1
    obtain ⟨-, claimed, generation, -, -, claimedFence, -, -, claimedGeneration, -⟩ :=
      represents.fenced
    have recordFence := represents.claimedFence
    have recordGeneration := represents.claimedGenerationId
    rw [claimedFence] at recordFence
    rw [claimedGeneration] at recordGeneration
    by_cases releasable : record.status = .claimed ∧
        ¬Mismatch record input.requestHash input.owner lease
    · obtain ⟨status, matching⟩ := releasable
      have goes : ¬(value.status ≠ .claimed ∨ value.requestHash ≠ input.requestHash ∨
          value.owner ≠ input.owner ∨ value.sessionId ≠ some lease.sessionId ∨
          (value.claimedFence.any fun claimed => claimed ≠ fence) ∨
          (value.claimedGenerationId.any fun claimed => claimed ≠ lease.generationId)) := by
        rw [represents.status]
        exact not_or.mpr ⟨not_not.mpr status, mt compared.mpr matching⟩
      simp only [Mismatch, not_or, not_not] at matching
      obtain ⟨hash, owner, session, fence', generation'⟩ := matching
      left
      constructor
      · simp only [readIdempotencyRecord_eq represents own, orReply, bind, Except.bind]
        rw [replyIf_neg (not_or.mpr ⟨early, goes⟩)]
        rfl
      · simp [status, hash, owner, session, fence', generation', leased,
          InMemoryToolIdempotencyStore.leasedSession]
    · right
      constructor
      · have stays : value.status ≠ .claimed ∨ value.requestHash ≠ input.requestHash ∨
            value.owner ≠ input.owner ∨ value.sessionId ≠ some lease.sessionId ∨
            (value.claimedFence.any fun claimed => claimed ≠ fence) ∨
            (value.claimedGenerationId.any fun claimed => claimed ≠ lease.generationId) := by
          rw [represents.status]
          by_cases status : record.status = .claimed
          · have mismatch := not_not.mp fun matching => releasable ⟨status, matching⟩
            exact .inr (compared.mp mismatch)
          · exact .inl status
        simp only [readIdempotencyRecord_eq represents own, orReply, bind, Except.bind]
        rw [replyIf_pos (.inr stays)]
        rfl
      · dsimp only
        split_ifs with status generation' fence'
        · rfl
        · rfl
        · rfl
        · exfalso
          simp only [not_or, not_not] at status
          obtain ⟨claimedStatus, hash, owner, session⟩ := status
          apply releasable
          refine ⟨claimedStatus, ?_⟩
          simp only [← recordFence, Option.map_some, Option.any_some, leased, Option.all_some,
            decide_eq_true_eq, ne_eq, not_not] at fence'
          simp only [← recordGeneration, Option.any_some, leased, Option.all_some,
            decide_eq_true_eq, ne_eq, not_not] at generation'
          simp only [InMemoryToolIdempotencyStore.leasedSession, leased, Option.map_some,
            Option.some_or] at session
          simp [Mismatch, hash, owner, session, ← recordFence, ← recordGeneration, fence',
            generation']

/-! ### `lookup` -/

theorem lookupScript_eq (requestHash : String) (passing : Passing event lease fence)
    (found : Found memory redis outputs errors event.now key raw existing) :
    (existing = none ∧ raw = none ∧
      fencedLookupScript event.now (event.redisMoment.leases lease.sessionId) lease.sessionId
        lease.holder fence lease.generationId key requestHash raw = (.result 0 none, .keep)) ∨
    (existing = none ∧ (∃ value, raw = some value ∧
        ∃ expiresAtMs, readIdempotencyRecord value key = some (value, expiresAtMs) ∧
          expiresAtMs ≤ event.now) ∧
      fencedLookupScript event.now (event.redisMoment.leases lease.sessionId) lease.sessionId
        lease.holder fence lease.generationId key requestHash raw = (.result 2 none, .keep)) ∨
    ∃ value record, raw = some value ∧ existing = some record ∧ record.key = key ∧
      Represents memory redis outputs errors value record ∧
      fencedLookupScript event.now (event.redisMoment.leases lease.sessionId) lease.sessionId
          lease.holder fence lease.generationId key requestHash raw =
        if record.requestHash ≠ requestHash ∨ record.sessionId ≠ some lease.sessionId then
          (.result (-2) none, .keep)
        else (.result 1 raw, .keep) := by
  have head := (leaseThenTime_decides event.leases event.now lease.sessionId lease.holder fence
    lease.generationId).1 passing.2
  unfold fencedLookupScript
  rw [FencedEvent.redisMoment, finish_of_passed head]
  cases found with
  | missing => exact .inl ⟨rfl, rfl, rfl⟩
  | expired value record represents own expired =>
    have read := readIdempotencyRecord_eq represents own
    right; left
    refine ⟨rfl, ⟨value, rfl, record.expiresAtMs, read, expired⟩, ?_⟩
    simp [read, orReply, expired, replyIf, bind, Except.bind, Script.finish]
  | both value record represents own counts =>
    have early : ¬record.expiresAtMs ≤ event.now := Nat.not_le_of_lt counts
    right; right
    refine ⟨value, record, rfl, rfl, own, represents, ?_⟩
    simp only [readIdempotencyRecord_eq represents own, orReply, bind, Except.bind, replyIf, early,
      if_false, represents.requestHash, represents.sessionId]
    split_ifs <;> rfl

end Tvic.Redis.IdempotencyAgreement
