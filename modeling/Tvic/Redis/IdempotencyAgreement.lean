import Tvic.Redis.IdempotencyDecisions

/-!
# In-memory and Redis idempotency agree on fenced operations

The same fenced calls, under the same leases and clock readings, against the in-memory store and
against Redis. `step_agrees` is one call: the answers are of one class, and Redis still mirrors the
ledger. `run_mirrors` carries this through a run, and the ledger stands for the in-memory store.
-/
namespace Tvic.Redis.IdempotencyAgreement

open Lib

variable {V J K α β : Type} {memory : Serialization V J} {redis : RedisSerialization V K}
  {outputs errors : V → Prop} {keyPrefix : Option String} {ttl fence : Nat} {key : String}
  {ledger : IdempotencyLedger J} {db : IdempotencyDb}

/-! ### One call -/

/-- The answers are of one class, and Redis mirrors the ledger after the call. -/
structure Agreement (memory : Serialization V J) (redis : RedisSerialization V K)
    (outputs errors : V → Prop) (keyPrefix : Option String) (now : Nat)
    (classify : Except DalError α → OutcomeClass) (classify' : Except DalError β → OutcomeClass)
    (inMemory : Except DalError α × IdempotencyLedger J)
    (inRedis : Except DalError β × IdempotencyDb) : Prop where
  outcome : classify inMemory.1 = classify' inRedis.1
  mirrors : Mirrors memory redis outputs errors keyPrefix now inRedis.2 inMemory.2

variable {classify : Except DalError α → OutcomeClass}
  {classify' : Except DalError β → OutcomeClass}

theorem agreement_of_rejected {event : FencedEvent V}
    (rejection : ∀ e, classify (.error e) = .rejection)
    (rejection' : ∀ e, classify' (.error e) = .rejection) {method : Method J α}
    {method' : RedisMethod β} (rejected : ∃ e, method = .error (.error e))
    (rejected' : RejectedBy keyPrefix event.redisMoment key db method')
    (mirrors : Mirrors memory redis outputs errors keyPrefix event.now db ledger) :
    Agreement memory redis outputs errors keyPrefix event.now classify classify'
      (ledger.perform event.moment.readings key method)
      (RedisToolIdempotencyStore.eval keyPrefix event.redisMoment key method' db) := by
  obtain ⟨e, rfl⟩ := rejected
  obtain ⟨e', answered⟩ := rejected'
  constructor
  · rw [answered, IdempotencyLedger.perform, rejection, rejection']
  · rw [answered]
    exact mirrors

theorem agreement_of_ran {event : FencedEvent V} {next : Continuation J α} {ev : Eval β}
    {raw : Option RedisIdempotencyRecord} {existing : Option (ToolIdempotencyRecord J)}
    {reply : IdempotencyReply} {change : Change RedisIdempotencyRecord} {answer : Except DalError β}
    {db' : IdempotencyDb} (get : db.get event.now (idempotencyKey keyPrefix key) = raw)
    (active : live (·.expiresAtMs) event.now (ledger key) = existing)
    (ran : ev.script raw = (reply, change))
    (answered : ev.answer reply (db.apply event.now ev.ttlMs (idempotencyKey keyPrefix key) change) =
      (answer, db')) {returned : Except DalError α} {change' : Change (ToolIdempotencyRecord J)}
    (decided : next existing = (returned, change')) (outcome : classify returned = classify' answer)
    (mirrors : Mirrors memory redis outputs errors keyPrefix event.now db'
      (ledger.apply key change')) :
    Agreement memory redis outputs errors keyPrefix event.now classify classify'
      (ledger.perform event.moment.readings key (.ok next))
      (RedisToolIdempotencyStore.eval keyPrefix event.redisMoment key (.ok ev) db) := by
  have get' : db.get event.redisMoment.now (idempotencyKey keyPrefix key) = raw := get
  have active' : live (·.expiresAtMs) event.moment.readings.active (ledger key) = existing := active
  have answered' : ev.answer reply (db.apply event.redisMoment.now ev.ttlMs
    (idempotencyKey keyPrefix key) change) = (answer, db') := answered
  simp only [IdempotencyLedger.perform, RedisToolIdempotencyStore.eval, get', active', ran, answered',
    decided]
  exact ⟨outcome, mirrors⟩

variable {record : ToolIdempotencyRecord J}

theorem agreement_of_record {event : FencedEvent V} {next : Continuation J α} {ev : Eval β}
    {value : RedisIdempotencyRecord} {reply : IdempotencyReply} {redisKey : String}
    {result : ToolIdempotencyRecord K → Except DalError β} {returned : Except DalError α}
    (alike : Alike memory redis outputs errors)
    (represents : Represents memory redis outputs errors value record) (own : record.key = key)
    (get : db.get event.now (idempotencyKey keyPrefix key) = some value)
    (active : live (·.expiresAtMs) event.now (ledger key) = some record)
    (ran : ev.script (some value) = (reply, .keep))
    (answers : ev.answer reply db = answerRecord redis event.redisMoment value redisKey key result db)
    (decided : next (some record) = (returned, .keep))
    (outcome : ∀ parsed, classify returned = classify' (result parsed))
    (mirrors : Mirrors memory redis outputs errors keyPrefix event.now db ledger) :
    Agreement memory redis outputs errors keyPrefix event.now classify classify'
      (ledger.perform event.moment.readings key (.ok next))
      (RedisToolIdempotencyStore.eval keyPrefix event.redisMoment key (.ok ev) db) := by
  obtain ⟨output, read, db', -, -, answered, mirrors'⟩ :=
    answerRecord_eq alike represents own event.redisMoment redisKey result mirrors
  exact agreement_of_ran get active ran (answers.trans answered) decided (outcome _) mirrors'

section Prelude

variable {event : FencedEvent V} {lease : ToolIdempotencyLease} {sessionId : Option SessionId}

theorem own_session (own : sessionId = none ∨ sessionId = some lease.sessionId) :
    InMemoryToolIdempotencyStore.otherSession (some lease) sessionId = false ∧
      RedisToolIdempotencyStore.otherSession lease sessionId = false ∧
      InMemoryToolIdempotencyStore.leasedSession (some lease) sessionId = some lease.sessionId := by
  have none_other : (truthy sessionId).any (fun sessionId => lease.sessionId ≠ sessionId) = false := by
    rcases own with rfl | rfl
    · rfl
    · by_cases empty : lease.sessionId = "" <;> simp [truthy, Option.filter, empty]
  refine ⟨none_other, ?_, rfl⟩
  rw [← none_other]
  simp only [RedisToolIdempotencyStore.otherSession, ne_comm]

theorem throwing_error (e : DalError) : (throwing (.error e) : Early α β) = .error (.error e) := rfl

theorem throwing_ok (value : β) : (throwing (.ok value) : Early α β) = .ok value := rfl

theorem assertLease_of_passing (passing : Passing event lease fence) :
    InMemoryToolIdempotencyStore.assertLease event.moment (some lease) = .ok () :=
  assertLease_eq_ok.mpr ⟨fence, passing⟩

variable (event lease) in
theorem assertLease_rejects (fails : ¬∃ fence, Passing event lease fence) :
    ∃ e, InMemoryToolIdempotencyStore.assertLease event.moment (some lease) = .error e := by
  cases asserted : InMemoryToolIdempotencyStore.assertLease event.moment (some lease) with
  | error e => exact ⟨e, rfl⟩
  | ok value => exact absurd (assertLease_eq_ok.mp asserted) fails

theorem expiry_or_lease_rejects {ttlMs : Number}
    (fails : ¬∃ fence ttl, Passing event lease fence ∧ Timed event ttlMs ttl) :
    (∃ e, safeLeaseExpiryAt (.int event.now) ttlMs = .error e) ∨
      ∃ e, InMemoryToolIdempotencyStore.assertLease event.moment (some lease) = .error e := by
  cases expiry : safeLeaseExpiryAt (.int event.now) ttlMs with
  | error e => exact .inl ⟨e, rfl⟩
  | ok expiresAtMs =>
    obtain ⟨ttl, timed, -⟩ := timed_of_safeLeaseExpiryAt expiry
    exact .inr (assertLease_rejects _ _ fun ⟨fence, passing⟩ => fails ⟨fence, ttl, passing, timed⟩)

end Prelude

/-! ### `lookup` and `releaseClaim` -/

section LookupAndRelease

variable {event : FencedEvent V} {lease : ToolIdempotencyLease} {sessionId : Option SessionId}
  {requestHash : String}

theorem lookup_eq (own : sessionId = none ∨ sessionId = some lease.sessionId)
    (checked : assertLeaseFence lease.fence = .ok fence) :
    RedisToolIdempotencyStore.lookup redis keyPrefix event.redisMoment key requestHash sessionId
        (some lease) =
      .ok { ttlMs := 0
            script := fencedLookupScript event.now (event.redisMoment.leases lease.sessionId)
              lease.sessionId lease.holder fence lease.generationId key requestHash
            answer := RedisToolIdempotencyStore.lookupAnswer redis keyPrefix event.redisMoment key
              lease.sessionId } := by
  obtain ⟨-, notOther, -⟩ := own_session own
  simp [RedisToolIdempotencyStore.lookup, checked, throwing_ok, returnIf, notOther, bind, Except.bind,
    pure, Except.pure, FencedEvent.redisMoment]

theorem lookupAnswer_rejects {lostSession : SessionId} (reply : IdempotencyReply) (db : IdempotencyDb)
    (rejects : Rejects reply) :
    ∃ e, RedisToolIdempotencyStore.lookupAnswer redis keyPrefix event.redisMoment key lostSession
      reply db = (.error e, db) :=
  rejects.elim (fun _ => ⟨_, rfl⟩) fun _ => ⟨_, rfl⟩

variable (key requestHash) in
theorem lookup_agrees (alike : Alike memory redis outputs errors)
    (own : sessionId = none ∨ sessionId = some lease.sessionId)
    (mirrors : Mirrors memory redis outputs errors keyPrefix event.now db ledger) :
    Agreement memory redis outputs errors keyPrefix event.now lookupClass lookupClass
      (ledger.perform event.moment.readings key
        (InMemoryToolIdempotencyStore.lookup memory event.moment requestHash sessionId (some lease)))
      (RedisToolIdempotencyStore.eval keyPrefix event.redisMoment key
        (RedisToolIdempotencyStore.lookup redis keyPrefix event.redisMoment key requestHash sessionId
          (some lease)) db) := by
  obtain ⟨notOther, notOther', leased⟩ := own_session own
  by_cases passes : ∃ fence, Passing event lease fence
  case neg =>
    apply agreement_of_rejected (fun _ => rfl) (fun _ => rfl) ?_ ?_ mirrors
    · obtain ⟨e, rejected⟩ := assertLease_rejects _ _ passes
      exact ⟨e, by rw [InMemoryToolIdempotencyStore.lookup, rejected]; rfl⟩
    · cases checked : assertLeaseFence lease.fence with
      | error e =>
        exact rejectedBy_error (by rw [RedisToolIdempotencyStore.lookup, checked]; rfl)
      | ok fence =>
        exact rejectedBy_head
          (leaseThenTime_decides event.leases event.now lease.sessionId lease.holder fence
            lease.generationId)
          (fun holds => passes ⟨fence, fence_of_assert checked, holds⟩) (lookup_eq own checked)
          (fun raw => rfl) lookupAnswer_rejects
  obtain ⟨fence, passing⟩ := passes
  have reached : InMemoryToolIdempotencyStore.lookup memory event.moment requestHash sessionId
      (some lease) = .ok fun existing => existing.elim (.ok .missing, .keep) fun found =>
          if found.requestHash ≠ requestHash ∨ found.sessionId ≠ some lease.sessionId then
            (.ok .conflict, .keep)
          else (.ok (.found (snapshotIdempotencyRecord memory found)), .keep) := by
    simp [InMemoryToolIdempotencyStore.lookup, assertLease_of_passing passing, throwing_ok, returnIf,
      notOther, leased, InMemoryToolIdempotencyStore.shutOut, bind, Except.bind, pure, Except.pure]
    funext existing
    cases existing <;> rfl
  rw [reached, lookup_eq own (assertLeaseFence_of_passing passing)]
  have found := mirrors.found key
  generalize raw_eq : db.get event.now (idempotencyKey keyPrefix key) = raw at found
  generalize existing_eq : live (·.expiresAtMs) event.now (ledger key) = existing at found
  rcases lookupScript_eq requestHash passing found with
    ⟨rfl, rfl, ran⟩ | ⟨rfl, ⟨value, rfl, expiresAtMs, read, expired⟩, ran⟩ |
    ⟨value, record, rfl, rfl, sameKey, represents, ran⟩
  · exact agreement_of_ran raw_eq existing_eq ran rfl rfl rfl mirrors
  · -- an expired record that Redis still has is deleted with a second script
    have deleted : deleteExpiredScript event.now key (some value) = (.result 1 none, .remove) := by
      simp [deleteExpiredScript, orReply, read, expired, bind, Except.bind, pure, Except.pure,
        Script.finish]
    have answered : RedisToolIdempotencyStore.lookupAnswer redis keyPrefix event.redisMoment key
        lease.sessionId (.result 2 none) db =
          (.ok .missing, Function.update db (idempotencyKey keyPrefix key) none) := by
      simp [RedisToolIdempotencyStore.lookupAnswer, FencedEvent.redisMoment, raw_eq, deleted,
        IdempotencyDb.apply]
    exact agreement_of_ran raw_eq existing_eq ran answered rfl rfl (mirrors.dropExpired existing_eq)
  · by_cases conflict : record.requestHash ≠ requestHash ∨ record.sessionId ≠ some lease.sessionId
    · rw [if_pos conflict] at ran
      exact agreement_of_ran raw_eq existing_eq ran rfl (if_pos conflict) rfl mirrors
    · rw [if_neg conflict] at ran
      exact agreement_of_record alike represents sameKey raw_eq existing_eq ran rfl (if_neg conflict)
        (fun _ => rfl) mirrors

variable {input : ToolIdempotencyRelease}

theorem releaseClaim_eq (leased : input.lease = some lease)
    (own : input.sessionId = none ∨ input.sessionId = some lease.sessionId)
    (checked : assertLeaseFence lease.fence = .ok fence) :
    RedisToolIdempotencyStore.releaseClaim event.redisMoment input =
      .ok { ttlMs := 0
            script := fencedReleaseClaimScript event.now (event.redisMoment.leases lease.sessionId)
              lease.holder fence lease.generationId lease.sessionId input.key input.requestHash
              input.owner
            answer := RedisToolIdempotencyStore.releaseAnswer lease.sessionId } := by
  obtain ⟨-, notOther, -⟩ := own_session own
  simp [RedisToolIdempotencyStore.releaseClaim, leased, checked, throwing_ok, returnIf, notOther, bind,
    Except.bind, pure, Except.pure, FencedEvent.redisMoment]

theorem releaseAnswer_rejects {lostSession : SessionId} (reply : IdempotencyReply)
    (db : IdempotencyDb) (rejects : Rejects reply) :
    ∃ e, RedisToolIdempotencyStore.releaseAnswer lostSession reply db = (.error e, db) :=
  rejects.elim (fun _ => ⟨_, rfl⟩) fun _ => ⟨_, rfl⟩

theorem releaseClaim_agrees (leased : input.lease = some lease)
    (own : input.sessionId = none ∨ input.sessionId = some lease.sessionId)
    (mirrors : Mirrors memory redis outputs errors keyPrefix event.now db ledger) :
    Agreement memory redis outputs errors keyPrefix event.now releaseClass releaseClass
      (ledger.perform event.moment.readings input.key
        (InMemoryToolIdempotencyStore.releaseClaim event.moment input))
      (RedisToolIdempotencyStore.eval keyPrefix event.redisMoment input.key
        (RedisToolIdempotencyStore.releaseClaim event.redisMoment input) db) := by
  obtain ⟨notOther, notOther', leasedSession⟩ := own_session own
  by_cases passes : ∃ fence, Passing event lease fence
  case neg =>
    apply agreement_of_rejected (fun _ => rfl) (fun _ => rfl) ?_ ?_ mirrors
    · obtain ⟨e, rejected⟩ := assertLease_rejects _ _ passes
      exact ⟨e, by rw [InMemoryToolIdempotencyStore.releaseClaim, leased, rejected]; rfl⟩
    · cases checked : assertLeaseFence lease.fence with
      | error e =>
        refine rejectedBy_error (e := e) ?_
        simp only [RedisToolIdempotencyStore.releaseClaim, leased, checked, throwing_error, bind,
          Except.bind]
      | ok fence =>
        exact rejectedBy_head
          (timeThenLease_decides event.leases event.now lease.sessionId lease.holder fence
            lease.generationId)
          (fun holds => passes ⟨fence, fence_of_assert checked, holds⟩)
          (releaseClaim_eq leased own checked) (fun raw => rfl) releaseAnswer_rejects
  obtain ⟨fence, passing⟩ := passes
  have reached : ∃ next,
      InMemoryToolIdempotencyStore.releaseClaim (J := J) event.moment input = .ok next := by
    simp [InMemoryToolIdempotencyStore.releaseClaim, leased, assertLease_of_passing passing,
      throwing_ok, returnIf, notOther, leasedSession, InMemoryToolIdempotencyStore.shutOut, bind,
      Except.bind, pure, Except.pure]
  obtain ⟨next, reached⟩ := reached
  rw [reached, releaseClaim_eq leased own (assertLeaseFence_of_passing passing)]
  have found := mirrors.found input.key
  generalize raw_eq : db.get event.now (idempotencyKey keyPrefix input.key) = raw at found
  generalize existing_eq : live (·.expiresAtMs) event.now (ledger input.key) = existing at found
  rcases release_decides leased passing found reached with ⟨ran, memoryRan⟩ | ⟨ran, memoryRan⟩
  · exact agreement_of_ran raw_eq existing_eq ran rfl memoryRan rfl (mirrors.apply .remove)
  · exact agreement_of_ran raw_eq existing_eq ran rfl memoryRan rfl mirrors

end LookupAndRelease

/-! ### `claim` and `quarantine` -/

section Claim

variable {event : FencedEvent V} {lease : ToolIdempotencyLease} {input : ToolIdempotencyClaim}

theorem claim_eq (leased : input.lease = some lease)
    (own : input.sessionId = none ∨ input.sessionId = some lease.sessionId)
    (timed : assertLeaseTtlMs input.ttlMs = .ok ttl)
    (checked : assertLeaseFence lease.fence = .ok fence) :
    RedisToolIdempotencyStore.claim redis keyPrefix event.redisMoment input =
      .ok { ttlMs := ttl
            script := fencedClaimScript event.now (event.redisMoment.leases lease.sessionId)
              lease.holder fence input.key lease.sessionId (input.toolId.getD "")
              (input.toolVersion.getD "") input.requestHash input.owner ttl lease.generationId
            answer := RedisToolIdempotencyStore.fencedClaimAnswer redis event.redisMoment input
              lease } := by
  obtain ⟨-, notOther, -⟩ := own_session own
  simp [RedisToolIdempotencyStore.claim, leased, timed, checked, throwing_ok, returnIf, notOther, bind,
    Except.bind, pure, Except.pure, FencedEvent.redisMoment]

theorem fencedClaimAnswer_rejects (reply : IdempotencyReply) (db : IdempotencyDb)
    (rejects : Rejects reply) :
    ∃ e, RedisToolIdempotencyStore.fencedClaimAnswer redis event.redisMoment input lease reply db =
      (.error e, db) :=
  rejects.elim (fun _ => ⟨_, rfl⟩) fun _ => ⟨_, rfl⟩

theorem claim_rejected (leased : input.lease = some lease)
    (own : input.sessionId = none ∨ input.sessionId = some lease.sessionId)
    (fails : ¬∃ fence ttl, Passing event lease fence ∧ Timed event input.ttlMs ttl) :
    (∃ e, InMemoryToolIdempotencyStore.claim memory event.moment input = .error (.error e)) ∧
      RejectedBy keyPrefix event.redisMoment input.key db
        (RedisToolIdempotencyStore.claim redis keyPrefix event.redisMoment input) := by
  constructor
  · have expiry : event.moment.readings.expiry = event.now := rfl
    rcases expiry_or_lease_rejects fails with ⟨e, early⟩ | ⟨e, rejected⟩
    · exact ⟨e, by rw [InMemoryToolIdempotencyStore.claim, expiry, early]; rfl⟩
    · rw [InMemoryToolIdempotencyStore.claim, leased, rejected]
      cases safeLeaseExpiryAt (.int event.moment.readings.expiry) input.ttlMs with
      | error e => exact ⟨e, rfl⟩
      | ok expiresAtMs => exact ⟨e, rfl⟩
  cases timed : assertLeaseTtlMs input.ttlMs with
  | error e =>
    refine rejectedBy_error (e := e) ?_
    simp only [RedisToolIdempotencyStore.claim, timed, throwing_error, bind, Except.bind]
  | ok ttl =>
    cases checked : assertLeaseFence lease.fence with
    | error e =>
      refine rejectedBy_error (e := e) ?_
      simp only [RedisToolIdempotencyStore.claim, leased, timed, checked, throwing_error, throwing_ok,
        bind, Except.bind]
    | ok fence =>
      have fails' : ¬(Holds event.leases event.now lease.sessionId lease.holder fence
          lease.generationId ∧ 1 ≤ ttl ∧ event.now + ttl ≤ maxSafeInteger) := by
        rintro ⟨holds, positive, small⟩
        exact fails ⟨fence, ttl, ⟨fence_of_assert checked, holds⟩, (ttl_of_assert timed).1, positive,
          small⟩
      exact rejectedBy_head
        (expiryThenLease_decides event.leases event.now lease.sessionId lease.holder fence
          lease.generationId ttl) fails' (claim_eq leased own timed checked) (fun raw => rfl)
        fencedClaimAnswer_rejects

theorem claimExisting_ne_claimed {sessionId : Option SessionId} {existing : ToolIdempotencyRecord J}
    :
    
    InMemoryToolIdempotencyStore.claimExisting memory input sessionId existing ≠
      some (.claimed record) := by
  unfold InMemoryToolIdempotencyStore.claimExisting
  dsimp only
  split_ifs <;> simp

theorem claim_agrees (alike : Alike memory redis outputs errors) (leased : input.lease = some lease)
    (own : input.sessionId = none ∨ input.sessionId = some lease.sessionId)
    (kept : KeptExpiry event.now input.ttlMs)
    (mirrors : Mirrors memory redis outputs errors keyPrefix event.now db ledger) :
    Agreement memory redis outputs errors keyPrefix event.now claimClass claimClass
      (ledger.perform event.moment.readings input.key
        (InMemoryToolIdempotencyStore.claim memory event.moment input))
      (RedisToolIdempotencyStore.eval keyPrefix event.redisMoment input.key
        (RedisToolIdempotencyStore.claim redis keyPrefix event.redisMoment input) db) := by
  by_cases passes : ∃ fence ttl, Passing event lease fence ∧ Timed event input.ttlMs ttl
  case neg =>
    obtain ⟨rejected, rejected'⟩ := claim_rejected leased own passes
    exact agreement_of_rejected (fun _ => rfl) (fun _ => rfl) rejected rejected' mirrors
  obtain ⟨fence, ttl, passing, timed⟩ := passes
  obtain ⟨notOther, -, leasedSession⟩ := own_session own
  obtain ⟨next, reached, next_eq⟩ : ∃ next,
      InMemoryToolIdempotencyStore.claim memory event.moment input = .ok next ∧
      ∀ existing, next existing = (existing.bind
          (InMemoryToolIdempotencyStore.claimExisting memory input (some lease.sessionId))).elim
          (let record := InMemoryToolIdempotencyStore.claimRecord input (some lease.sessionId)
            (event.now + ttl)
          (.ok (.claimed (snapshotIdempotencyRecord memory record)), .write record))
          fun result => (.ok result, .keep) := by
    refine ⟨_, ?_, fun _ => rfl⟩
    have expiry : safeLeaseExpiryAt (.int event.moment.readings.expiry) input.ttlMs =
      .ok (event.now + ttl) := safeLeaseExpiryAt_of_timed timed
    simp [InMemoryToolIdempotencyStore.claim, expiry, leased, assertLease_of_passing passing,
      throwing_ok, returnIf, notOther, leasedSession, InMemoryToolIdempotencyStore.shutOut, bind,
      Except.bind, pure, Except.pure]
    funext existing
    rcases existing.bind _ with _ | _ <;> rfl
  rw [reached, claim_eq leased own (assertLeaseTtlMs_of_timed timed)
    (assertLeaseFence_of_passing passing)]
  have found := mirrors.found input.key
  generalize raw_eq : db.get event.now (idempotencyKey keyPrefix input.key) = raw at found
  generalize existing_eq : live (·.expiresAtMs) event.now (ledger input.key) = existing at found
  have ran := claimScript_eq leased passing timed (kept ttl timed.1) found
  have next_eq := next_eq existing
  cases decided : existing.bind
      (InMemoryToolIdempotencyStore.claimExisting memory input (some lease.sessionId)) with
  | some result =>
    rw [decided] at ran next_eq
    obtain ⟨record, rfl, decidedRecord⟩ := Option.bind_eq_some_iff.mp decided
    cases found with
    | both value _ represents sameKey counts =>
      cases result with
      | claimed record => exact absurd decidedRecord claimExisting_ne_claimed
      | conflict => exact agreement_of_ran raw_eq existing_eq ran rfl next_eq rfl mirrors
      | inProgress _ | succeeded _ | terminal _ =>
        exact agreement_of_record alike represents sameKey raw_eq existing_eq ran rfl next_eq
          (fun _ => rfl) mirrors
  | none =>
    rw [decided] at ran next_eq
    have represents := claimValue_represents memory redis outputs
      errors leased passing timed.2.2
    have mirrors' := mirrors.apply (.write _ _ represents rfl rfl)
    obtain ⟨output, read, db', -, -, answered, mirrors''⟩ := answerRecord_eq alike represents rfl
      event.redisMoment "redis:tool_idempotency"
      (fun record => if record.status = .succeeded then .ok (.succeeded record)
        else .ok (ToolIdempotencyClaimResult.claimed record)) mirrors'
    exact agreement_of_ran raw_eq existing_eq ran answered next_eq rfl mirrors''

end Claim

section Quarantine

variable {event : FencedEvent V} {input : ToolIdempotencyQuarantine V}

theorem quarantine_eq (session : input.sessionId = input.lease.sessionId)
    (timed : assertLeaseTtlMs input.ttlMs = .ok ttl)
    (checked : assertLeaseFence input.lease.fence = .ok fence) {text : String}
    (stringified : redis.stringifySanitizedError input.error = .ok text) :
    RedisToolIdempotencyStore.quarantine redis keyPrefix event.redisMoment input =
      .ok { ttlMs := ttl
            script := quarantineScript event.now (event.redisMoment.leases input.lease.sessionId)
              input.lease.holder fence input.lease.generationId input.key input.sessionId input.toolId
              input.toolVersion input.requestHash input.owner ttl text
            answer := RedisToolIdempotencyStore.quarantineAnswer redis keyPrefix event.redisMoment
              input } := by
  simp [RedisToolIdempotencyStore.quarantine, timed, checked, throwing_ok, returnIf, session,
    stringified, Except.mapError, bind, Except.bind, pure, Except.pure, FencedEvent.redisMoment]

theorem quarantineAnswer_rejects (reply : IdempotencyReply) (db : IdempotencyDb)
    (rejects : Rejects reply) :
    ∃ e, RedisToolIdempotencyStore.quarantineAnswer redis keyPrefix event.redisMoment input reply db =
      (.error e, db) :=
  rejects.elim (fun _ => ⟨_, rfl⟩) fun _ => ⟨_, rfl⟩

theorem quarantine_rejected (alike : Alike memory redis outputs errors)
    (session : input.sessionId = input.lease.sessionId) (allowed : errors input.error)
    (fails : ¬∃ fence ttl json, (Passing event input.lease fence ∧ Timed event input.ttlMs ttl) ∧
      memory.snapshotJsonValue input.error = .ok json) :
    (∃ e, InMemoryToolIdempotencyStore.quarantine memory event.moment input =
        .error (.error e)) ∧
      RejectedBy keyPrefix event.redisMoment input.key db
        (RedisToolIdempotencyStore.quarantine redis keyPrefix event.redisMoment input) := by
  have taken := alike.error_taken input.error allowed
  constructor
  · rw [InMemoryToolIdempotencyStore.quarantine]
    have expiry : event.moment.readings.expiry = event.now := rfl
    rw [expiry]
    cases timed : safeLeaseExpiryAt (.int event.now) input.ttlMs with
    | error e => exact ⟨e, rfl⟩
    | ok expiresAtMs =>
      cases snapshot : memory.snapshotJsonValue input.error with
      | error e => exact ⟨e, rfl⟩
      | ok json =>
        obtain ⟨ttl, timed, -⟩ := timed_of_safeLeaseExpiryAt timed
        obtain ⟨e, rejected⟩ := assertLease_rejects event input.lease
          fun ⟨fence, passing⟩ => fails ⟨fence, ttl, json, ⟨passing, timed⟩, snapshot⟩
        rw [rejected]
        exact ⟨e, rfl⟩
  cases timed : assertLeaseTtlMs input.ttlMs with
  | error e =>
    refine rejectedBy_error (e := e) ?_
    simp only [RedisToolIdempotencyStore.quarantine, timed, throwing_error, bind, Except.bind]
  | ok ttl =>
    cases checked : assertLeaseFence input.lease.fence with
    | error e =>
      refine rejectedBy_error (e := e) ?_
      simp only [RedisToolIdempotencyStore.quarantine, timed, checked, throwing_error, throwing_ok,
        bind, Except.bind]
    | ok fence =>
      cases stringified : redis.stringifySanitizedError input.error with
      | error e =>
        refine rejectedBy_error (e := toDurableError e) ?_
        simp [RedisToolIdempotencyStore.quarantine, timed, checked, throwing_error, throwing_ok,
          returnIf, session, stringified, Except.mapError, bind, Except.bind]
      | ok text =>
        obtain ⟨json, snapshot⟩ := taken.mpr ⟨text, stringified⟩
        have fails' : ¬(Holds event.leases event.now input.lease.sessionId input.lease.holder fence
            input.lease.generationId ∧ 1 ≤ ttl ∧ event.now + ttl ≤ maxSafeInteger) := by
          rintro ⟨holds, positive, small⟩
          exact fails ⟨fence, ttl, json, ⟨⟨fence_of_assert checked, holds⟩,
            (ttl_of_assert timed).1, positive, small⟩, snapshot⟩
        have decides := leaseThenExpiry_decides event.leases event.now input.lease.sessionId
          input.lease.holder fence input.lease.generationId ttl
        exact rejectedBy_head decides fails' (quarantine_eq session timed checked stringified)
          (fun raw => by rw [← session]; rfl) quarantineAnswer_rejects

theorem quarantineExisting_ne_quarantined {existing record : ToolIdempotencyRecord J} :
    InMemoryToolIdempotencyStore.quarantineExisting memory input existing ≠
      some (.quarantined record) := by
  unfold InMemoryToolIdempotencyStore.quarantineExisting
  split_ifs <;> simp

theorem quarantine_agrees (alike : Alike memory redis outputs errors)
    (session : input.sessionId = input.lease.sessionId) (kept : KeptExpiry event.now input.ttlMs)
    (tool : input.toolId ≠ "") (version : input.toolVersion ≠ "") (allowed : errors input.error)
    (mirrors : Mirrors memory redis outputs errors keyPrefix event.now db ledger) :
    Agreement memory redis outputs errors keyPrefix event.now quarantineClass quarantineClass
      (ledger.perform event.moment.readings input.key
        (InMemoryToolIdempotencyStore.quarantine memory event.moment input))
      (RedisToolIdempotencyStore.eval keyPrefix event.redisMoment input.key
        (RedisToolIdempotencyStore.quarantine redis keyPrefix event.redisMoment input) db) := by
  by_cases passes : ∃ fence ttl json,
      (Passing event input.lease fence ∧ Timed event input.ttlMs ttl) ∧
        memory.snapshotJsonValue input.error = .ok json
  case neg =>
    obtain ⟨rejected, rejected'⟩ := quarantine_rejected alike session allowed passes
    exact agreement_of_rejected (fun _ => rfl) (fun _ => rfl) rejected rejected' mirrors
  obtain ⟨fence, ttl, json, ⟨passing, timed⟩, snapshot⟩ := passes
  obtain ⟨text, stringified⟩ := (alike.error_taken input.error allowed).mp ⟨json, snapshot⟩
  obtain ⟨next, reached, next_eq⟩ : ∃ next,
      InMemoryToolIdempotencyStore.quarantine memory event.moment input = .ok next ∧
      ∀ existing, next existing = (existing.bind
          (InMemoryToolIdempotencyStore.quarantineExisting memory input)).elim
          (let record := InMemoryToolIdempotencyStore.quarantineRecord input json (event.now + ttl)
          (.ok (.quarantined (snapshotIdempotencyRecord memory record)), .write record))
          fun result => (.ok result, .keep) := by
    refine ⟨_, ?_, fun _ => rfl⟩
    have expiry : safeLeaseExpiryAt (.int event.moment.readings.expiry) input.ttlMs =
      .ok (event.now + ttl) := safeLeaseExpiryAt_of_timed timed
    simp [InMemoryToolIdempotencyStore.quarantine, expiry, snapshot, assertLease_of_passing passing,
      throwing_ok, returnIf, session, bind, Except.bind, pure, Except.pure]
    funext existing
    rcases existing.bind _ with _ | _ <;> rfl
  rw [reached, quarantine_eq session (assertLeaseTtlMs_of_timed timed)
    (assertLeaseFence_of_passing passing) stringified]
  have found := mirrors.found input.key
  generalize raw_eq : db.get event.now (idempotencyKey keyPrefix input.key) = raw at found
  generalize existing_eq : live (·.expiresAtMs) event.now (ledger input.key) = existing at found
  have ran := quarantineScript_eq session passing timed (kept ttl timed.1) found text
  have next_eq := next_eq existing
  cases decided : existing.bind (InMemoryToolIdempotencyStore.quarantineExisting memory input) with
  | some result =>
    rw [decided] at ran next_eq
    obtain ⟨record, rfl, decidedRecord⟩ := Option.bind_eq_some_iff.mp decided
    cases found with
    | both value _ represents sameKey counts =>
      cases result with
      | quarantined record => exact absurd decidedRecord quarantineExisting_ne_quarantined
      | conflict => exact agreement_of_ran raw_eq existing_eq ran rfl next_eq rfl mirrors
      | inProgress _ | succeeded _ | terminal _ =>
        exact agreement_of_record alike represents sameKey raw_eq existing_eq ran rfl next_eq
          (fun _ => rfl) mirrors
  | none =>
    rw [decided] at ran next_eq
    have represents := quarantineValue_represents outputs session tool version allowed
      passing timed.2.2 snapshot stringified
    have mirrors' := mirrors.apply (.write _ _ represents rfl rfl)
    obtain ⟨output, read, db', -, -, answered, mirrors''⟩ := answerRecord_eq alike represents rfl
      event.redisMoment (idempotencyKey keyPrefix input.key)
      (fun record => .ok (ToolIdempotencyQuarantineResult.quarantined record)) mirrors'
    exact agreement_of_ran raw_eq existing_eq ran answered next_eq rfl mirrors''

end Quarantine

/-! ### `complete` -/

section Complete

variable {event : FencedEvent V} {lease : ToolIdempotencyLease} {outcome : ToolIdempotencyOutcome V}
  {requestHash : String}

theorem mapM_taken {f : V → Except DalError α} {g : V → Except DalError β} (value : Option V)
    (taken : ∀ v ∈ value, (∃ x, f v = .ok x) ↔ ∃ y, g v = .ok y) :
    (∃ x, value.mapM f = .ok x) ↔ ∃ y, value.mapM g = .ok y := by
  cases value with
  | none => exact ⟨fun _ => ⟨none, rfl⟩, fun _ => ⟨none, rfl⟩⟩
  | some v =>
    have taken := taken v rfl
    constructor
    · rintro ⟨x, mapped⟩
      cases fv : f v with
      | error e => simp [fv, Functor.map, Except.map] at mapped
      | ok x =>
        obtain ⟨y, gv⟩ := taken.mp ⟨x, fv⟩
        exact ⟨some y, by simp [gv, Functor.map, Except.map]⟩
    · rintro ⟨y, mapped⟩
      cases gv : g v with
      | error e => simp [gv, Functor.map, Except.map] at mapped
      | ok y =>
        obtain ⟨x, fv⟩ := taken.mpr ⟨y, gv⟩
        exact ⟨some x, by simp [fv, Functor.map, Except.map]⟩

theorem complete_eq (leased : outcome.lease = some lease)
    (own : outcome.sessionId = none ∨ outcome.sessionId = some lease.sessionId)
    (timed : assertLeaseTtlMs outcome.ttlMs = .ok ttl)
    (checked : assertLeaseFence lease.fence = .ok fence) {outputJson errorJson : Option String}
    (stringified : outcome.output.mapM redis.stringifyOutput = .ok outputJson)
    (stringified' : outcome.error.mapM redis.stringifySanitizedError = .ok errorJson) :
    RedisToolIdempotencyStore.complete redis keyPrefix event.redisMoment key requestHash outcome =
      .ok { ttlMs := ttl
            script := fencedCompleteScript event.now (event.redisMoment.leases lease.sessionId)
              lease.holder fence requestHash outcome.owner outcome.status ttl outputJson errorJson
              lease.sessionId lease.generationId key
            answer := RedisToolIdempotencyStore.completeAnswer redis keyPrefix event.redisMoment key
              outcome lease.sessionId } := by
  obtain ⟨-, notOther, -⟩ := own_session own
  simp [RedisToolIdempotencyStore.complete, leased, timed, checked, throwing_ok, returnIf, notOther,
    stringified, stringified', Except.mapError, bind, Except.bind, pure, Except.pure,
    FencedEvent.redisMoment]

theorem completeAnswer_rejects {lostSession : SessionId} (reply : IdempotencyReply)
    (db : IdempotencyDb) (rejects : Rejects reply) :
    ∃ e, RedisToolIdempotencyStore.completeAnswer redis keyPrefix event.redisMoment key outcome
      lostSession reply db = (.error e, db) :=
  rejects.elim (fun _ => ⟨_, rfl⟩) fun _ => ⟨_, rfl⟩

/-- Both stores take the output and the error of the outcome, and the call passes. -/
def Completes (memory : Serialization V J) (event : FencedEvent V) (lease : ToolIdempotencyLease)
    (outcome : ToolIdempotencyOutcome V) (fence ttl : Nat) (output error : Option J) : Prop :=
  Passing event lease fence ∧ Timed event outcome.ttlMs ttl ∧
    outcome.output.mapM memory.snapshotJsonValue = .ok output ∧
    outcome.error.mapM memory.snapshotJsonValue = .ok error

theorem complete_rejected (alike : Alike memory redis outputs errors)
    (leased : outcome.lease = some lease)
    (own : outcome.sessionId = none ∨ outcome.sessionId = some lease.sessionId)
    (allowed : ∀ output ∈ outcome.output, outputs output)
    (allowed' : ∀ error ∈ outcome.error, errors error)
    (fails : ¬∃ fence ttl output error, Completes memory event lease outcome fence ttl output error) :
    (∃ e, InMemoryToolIdempotencyStore.complete memory event.moment key requestHash outcome =
        .error (.error e)) ∧
      RejectedBy keyPrefix event.redisMoment key db
        (RedisToolIdempotencyStore.complete redis keyPrefix event.redisMoment key requestHash
          outcome) := by
  have taken := mapM_taken outcome.output fun value given =>
    alike.output_taken value (allowed value given)
  have taken' := mapM_taken outcome.error fun value given =>
    alike.error_taken value (allowed' value given)
  constructor
  · rw [InMemoryToolIdempotencyStore.complete]
    have expiry : event.moment.readings.expiry = event.now := rfl
    rw [expiry]
    cases timed : safeLeaseExpiryAt (.int event.now) outcome.ttlMs with
    | error e => exact ⟨e, rfl⟩
    | ok expiresAtMs =>
      cases snapshot : outcome.output.mapM memory.snapshotJsonValue with
      | error e => exact ⟨e, rfl⟩
      | ok output =>
        cases snapshot' : outcome.error.mapM memory.snapshotJsonValue with
        | error e => exact ⟨e, rfl⟩
        | ok error =>
          obtain ⟨ttl, timed, -⟩ := timed_of_safeLeaseExpiryAt timed
          obtain ⟨e, rejected⟩ := assertLease_rejects event lease
            fun ⟨fence, passing⟩ =>
              fails ⟨fence, ttl, output, error, passing, timed, snapshot, snapshot'⟩
          rw [leased, rejected]
          exact ⟨e, rfl⟩
  obtain ⟨-, notOther, -⟩ := own_session own
  cases timed : assertLeaseTtlMs outcome.ttlMs with
  | error e =>
    refine rejectedBy_error (e := e) ?_
    simp only [RedisToolIdempotencyStore.complete, timed, throwing_error, bind, Except.bind]
  | ok ttl =>
    cases checked : assertLeaseFence lease.fence with
    | error e =>
      refine rejectedBy_error (e := e) ?_
      simp only [RedisToolIdempotencyStore.complete, leased, timed, checked, throwing_error,
        throwing_ok, bind, Except.bind]
    | ok fence =>
      cases stringified : outcome.output.mapM redis.stringifyOutput with
      | error e =>
        refine rejectedBy_error (e := toDurableError e) ?_
        simp [RedisToolIdempotencyStore.complete, leased, timed, checked, throwing_error, throwing_ok,
          returnIf, notOther, stringified, Except.mapError, bind, Except.bind]
      | ok outputJson =>
        cases stringified' : outcome.error.mapM redis.stringifySanitizedError with
        | error e =>
          refine rejectedBy_error (e := toDurableError e) ?_
          simp [RedisToolIdempotencyStore.complete, leased, timed, checked, throwing_error,
            throwing_ok, returnIf, notOther, stringified, stringified', Except.mapError, bind,
            Except.bind]
        | ok errorJson =>
          obtain ⟨output, snapshot⟩ := taken.mpr ⟨outputJson, stringified⟩
          obtain ⟨error, snapshot'⟩ := taken'.mpr ⟨errorJson, stringified'⟩
          have fails' : ¬(Holds event.leases event.now lease.sessionId lease.holder fence
              lease.generationId ∧ 1 ≤ ttl ∧ event.now + ttl ≤ maxSafeInteger) := by
            rintro ⟨holds, positive, small⟩
            exact fails ⟨fence, ttl, output, error, ⟨fence_of_assert checked, holds⟩,
              ⟨(ttl_of_assert timed).1, positive, small⟩, snapshot, snapshot'⟩
          exact rejectedBy_head
            (expiryThenLease_decides event.leases event.now lease.sessionId lease.holder fence
              lease.generationId ttl) fails'
            (complete_eq leased own timed checked stringified stringified') (fun raw => rfl)
            completeAnswer_rejects

/-- What `complete` makes of a record that has its result already: nothing if the outcome is the
same, and a conflict otherwise. -/
def repeated (redis : RedisSerialization V K) (outcome : ToolIdempotencyOutcome V)
    (record : ToolIdempotencyRecord K) : Except DalError Unit := do
  if ← (RedisToolIdempotencyStore.sameOutcome redis record outcome).mapError toDurableError then
    .ok ()
  else .error (.recordConflict "tool_idempotency")

theorem completeClass_repeated (record : ToolIdempotencyRecord K) :
    completeClass (repeated redis outcome record) = .completed ↔
      record.status = outcome.status ∧
        outputText redis outcome.output = .ok (redis.stableStringify record.output) ∧
        errorText redis outcome.error = .ok (redis.stableStringify record.error) := by
  have unfolded : RedisToolIdempotencyStore.sameOutcome redis record outcome =
      if record.status ≠ outcome.status then .ok false
      else outputText redis outcome.output >>= fun output =>
        if redis.stableStringify record.output ≠ output then .ok false
        else errorText redis outcome.error >>= fun error =>
          .ok (redis.stableStringify record.error = error) := by
    unfold RedisToolIdempotencyStore.sameOutcome outputText errorText
    cases outcome.output <;> cases outcome.error <;> rfl
  unfold repeated
  rw [unfolded]
  by_cases status : record.status = outcome.status
  case neg => simp [status, Except.mapError, bind, Except.bind, completeClass]
  cases output : outputText redis outcome.output with
  | error e => simp [status, Except.mapError, bind, Except.bind, completeClass]
  | ok text =>
    by_cases same : redis.stableStringify record.output = text
    case neg => simp [status, same, Ne.symm same, Except.mapError, bind, Except.bind, completeClass]
    cases error : errorText redis outcome.error with
    | error e => simp [status, same, Except.mapError, bind, Except.bind, completeClass]
    | ok text' =>
      by_cases same' : redis.stableStringify record.error = text'
      · simp [status, same, same', Except.mapError, bind, Except.bind, completeClass]
      · simp [status, same, same', Ne.symm same', Except.mapError, bind, Except.bind, completeClass]

theorem completeClass_of_ne {answer : Except DalError Unit} (ne : completeClass answer ≠ .completed) :
    completeClass answer = .rejection := by
  cases answer with
  | error e => rfl
  | ok value => exact absurd rfl ne

theorem repeated_iff (alike : Alike memory redis outputs errors)
    (allowed : ∀ output ∈ outcome.output, outputs output)
    (allowed' : ∀ error ∈ outcome.error, errors error) {output error : Option J}
    (snapshot : outcome.output.mapM memory.snapshotJsonValue = .ok output)
    (snapshot' : outcome.error.mapM memory.snapshotJsonValue = .ok error)
    {value : RedisIdempotencyRecord}
    (represents : Represents memory redis outputs errors value record) {read : Option K}
    {readError : Option (PersistedErrorRead K)}
    (parsed : value.outputJson.mapM redis.parse = some read)
    (reading : readErrorText redis value.errorJson = some readError) :
    completeClass (repeated redis outcome (parsedRecord value read readError)) = .completed ↔
      record.status = outcome.status ∧
        memory.stableStringify record.output = memory.stableStringify output ∧
        memory.stableStringify record.error = memory.stableStringify error := by
  obtain ⟨held, heldAllowed, heldSnapshot, heldText⟩ := represents.output
  obtain ⟨heldError, heldAllowed', heldSnapshot', heldText'⟩ := represents.error
  have outputs_compared := alike.output_compared held outcome.output heldAllowed allowed
    record.output output value.outputJson read heldSnapshot snapshot heldText parsed
  have errors_compared := alike.error_compared heldError outcome.error heldAllowed' allowed'
    record.error error value.errorJson readError heldSnapshot' snapshot' heldText' reading
  rw [completeClass_repeated, outputs_compared, errors_compared]
  exact and_congr_left' (by rw [parsedRecord, represents.status])

variable (key requestHash) in
theorem complete_agrees (alike : Alike memory redis outputs errors)
    (leased : outcome.lease = some lease)
    (own : outcome.sessionId = none ∨ outcome.sessionId = some lease.sessionId)
    (kept : KeptExpiry event.now outcome.ttlMs) (owned : outcome.owner ≠ "")
    (allowed : ∀ output ∈ outcome.output, outputs output)
    (allowed' : ∀ error ∈ outcome.error, errors error)
    (mirrors : Mirrors memory redis outputs errors keyPrefix event.now db ledger) :
    Agreement memory redis outputs errors keyPrefix event.now completeClass completeClass
      (ledger.perform event.moment.readings key
        (InMemoryToolIdempotencyStore.complete memory event.moment key requestHash outcome))
      (RedisToolIdempotencyStore.eval keyPrefix event.redisMoment key
        (RedisToolIdempotencyStore.complete redis keyPrefix event.redisMoment key requestHash outcome)
        db) := by
  by_cases passes : ∃ fence ttl output error,
      Completes memory event lease outcome fence ttl output error
  case neg =>
    obtain ⟨rejected, rejected'⟩ := complete_rejected alike leased own allowed allowed' passes
    exact agreement_of_rejected (fun _ => rfl) (fun _ => rfl) rejected rejected' mirrors
  obtain ⟨fence, ttl, output, error, passing, timed, snapshot, snapshot'⟩ := passes
  obtain ⟨outputJson, stringified⟩ := (mapM_taken outcome.output fun value given =>
    alike.output_taken value (allowed value given)).mp ⟨output, snapshot⟩
  obtain ⟨errorJson, stringified'⟩ := (mapM_taken outcome.error fun value given =>
    alike.error_taken value (allowed' value given)).mp ⟨error, snapshot'⟩
  obtain ⟨notOther, -, leasedSession⟩ := own_session own
  have reached : InMemoryToolIdempotencyStore.complete memory event.moment key requestHash outcome =
      .ok fun existing => existing.elim (.error (.recordNotFound "tool_idempotency"), .keep)
          fun existing => InMemoryToolIdempotencyStore.completeExisting memory requestHash outcome key
            output error (event.now + ttl) existing := by
    have expiry : safeLeaseExpiryAt (.int event.moment.readings.expiry) outcome.ttlMs =
      .ok (event.now + ttl) := safeLeaseExpiryAt_of_timed timed
    simp [InMemoryToolIdempotencyStore.complete, expiry, snapshot, snapshot', leased,
      assertLease_of_passing passing, throwing_ok, returnIf, notOther, leasedSession,
      InMemoryToolIdempotencyStore.shutOut, bind, Except.bind, pure, Except.pure]
    funext existing
    cases existing <;> rfl
  rw [reached, complete_eq leased own (assertLeaseTtlMs_of_timed timed)
    (assertLeaseFence_of_passing passing) stringified stringified']
  have found := mirrors.found key
  generalize raw_eq : db.get event.now (idempotencyKey keyPrefix key) = raw at found
  generalize existing_eq : live (·.expiresAtMs) event.now (ledger key) = existing at found
  rcases completeCurrent_eq requestHash outcome.owner passing.1
      passing.facts.1 found with
    ⟨rfl, current⟩ | ⟨value, record, rfl, rfl, sameKey, represents, current⟩
  · have ran := completeScript_error outputJson errorJson passing timed
      current
    have answered : RedisToolIdempotencyStore.completeAnswer redis keyPrefix event.redisMoment key
        outcome lease.sessionId (.result (-2) raw) db =
          (.error (.recordConflict "tool_idempotency"), db) := by
      cases raw <;> rfl
    exact agreement_of_ran raw_eq existing_eq ran answered rfl rfl mirrors
  rcases current with ⟨mismatch, current⟩ | ⟨matching, done, current⟩ | ⟨matching, claimed, current⟩
  · have ran := completeScript_error outputJson errorJson passing timed
      current
    obtain ⟨e, rejected⟩ := completeExisting_of_mismatch key output
      error (event.now + ttl) represents leased owned mismatch
    exact agreement_of_ran raw_eq existing_eq ran rfl rejected rfl mirrors
  · have ran := completeScript_error outputJson errorJson passing timed
      current
    have repeats := completeExisting_of_match key output error
      (event.now + ttl) represents leased owned matching
    rw [if_pos done] at repeats
    obtain ⟨read, readError, db', parsed, reading, answered, mirrors'⟩ := answerRecord_eq alike
      represents sameKey event.redisMoment (idempotencyKey keyPrefix key) (repeated redis outcome)
      mirrors
    have same := repeated_iff alike allowed allowed' snapshot snapshot' represents parsed reading
    split_ifs at repeats with equal
    · exact agreement_of_ran raw_eq existing_eq ran answered repeats (same.mpr equal).symm mirrors'
    · exact agreement_of_ran raw_eq existing_eq ran answered repeats
        (completeClass_of_ne (mt same.mp equal)).symm mirrors'
  · have ran := completeScript_ok outputJson errorJson passing timed
      (kept ttl timed.1) represents current
    have completed := completeExisting_of_match key output error
      (event.now + ttl) represents leased owned matching
    rw [if_neg (not_not.mpr claimed)] at completed
    have represents' := completeValue_represents fence represents sameKey matching claimed
      timed.2.2 allowed allowed' snapshot snapshot' stringified stringified'
    exact agreement_of_ran raw_eq existing_eq ran rfl completed rfl
      (mirrors.apply (.write _ _ represents' rfl rfl))

end Complete

end Tvic.Redis.IdempotencyAgreement
