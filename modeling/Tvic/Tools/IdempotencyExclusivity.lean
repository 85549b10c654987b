import Tvic.Tools.IdempotencyLedger

/-!
# A key is executed under one claim at a time

Two claims of a key that are granted one after the other, with none granted between them, come
with a reason: the first was released by its own owner, the record of the key had expired, or the
second holds a live lease of the same session under another generation. A result, once recorded,
stays as it is until it expires. The proofs are about the ledger alone: between two grants the
key's entry is the first claim's record or a result.
-/
namespace Tvic.IdempotencyExclusivity

open Lib InMemoryToolIdempotencyStore

variable {V J : Type} {serialization : Serialization V J}

/-! ### One call on the ledger -/

variable (serialization) in
theorem serve_effect (ledger : IdempotencyLedger J) (moment : Moment)
    (call : ToolIdempotencyCall V) :
    ∃ change,
      Effect moment (live (·.expiresAtMs) moment.readings.active (ledger call.key)) call
        (ledger.serve serialization moment call).1 change ∧
      (ledger.serve serialization moment call).2 = ledger.apply call.key change := by
  unfold IdempotencyLedger.serve IdempotencyLedger.perform
  cases reached : method serialization moment call with
  | error result => exact ⟨.keep, .kept _ _ (method_early reached), rfl⟩
  | ok next => exact ⟨_, method_effect reached, rfl⟩

theorem apply_of_ne (ledger : IdempotencyLedger J) {key other : String} (ne : other ≠ key)
    (change : Change (ToolIdempotencyRecord J)) : ledger.apply key change other = ledger other := by
  cases change <;> simp [IdempotencyLedger.apply, ne]

variable {ledger : IdempotencyLedger J} {record : ToolIdempotencyRecord J}

theorem grant_effect {moment : Moment} {input : ToolIdempotencyClaim}
    (granted : (ledger.serve serialization moment (.claim input)).1 =
      .ok (.claim (.claimed record))) :
    (∃ expiresAtMs, ledger.step serialization (.call moment (.claim input)) input.key =
      some (claimRecord input (leasedSession input.lease input.sessionId) expiresAtMs)) ∧
    (∀ lease, input.lease = some lease → LiveLease moment lease) ∧
    ∀ found, ledger input.key = some found → moment.readings.active < found.expiresAtMs →
      found.status = .claimed ∧ ∃ lease, input.lease = some lease ∧
        found.sessionId = some lease.sessionId ∧ claimedBefore found lease := by
  obtain ⟨change, effect, written⟩ := serve_effect serialization ledger moment
    (.claim input)
  rw [granted] at effect
  cases effect with
  | kept _ _ plain => exact plain.elim
  | settled _ _ _ plain => exact plain.elim
  | claimed _ _ expiresAtMs leased free =>
    refine ⟨⟨expiresAtMs, ?_⟩, leased, ?_⟩
    · rw [IdempotencyLedger.step, written]
      simp [IdempotencyLedger.apply, ToolIdempotencyCall.key]
    · intro found present counts
      exact free found (live_eq_some.mpr ⟨present, counts⟩)

variable {key : String}

/-- What a call that is granted nothing may make of a claim's record: the record itself, a
result, or nothing where the owner has released it. -/
theorem claim_kept {own : ToolIdempotencyRecord J} {moment : Moment} {call : ToolIdempotencyCall V}
    (held : ∃ record, ledger key = some record ∧ (record = own ∨ record.status ≠ .claimed))
    (ungranted : ∀ input record, call = .claim input →
      (ledger.serve serialization moment call).1 = .ok (.claim (.claimed record)) →
        input.key ≠ key) :
    (∃ record, ledger.step serialization (.call moment call) key = some record ∧
      (record = own ∨ record.status ≠ .claimed)) ∨
    ∃ input, call = .releaseClaim input ∧ input.key = key ∧ own.owner = some input.owner ∧
      (ledger.serve serialization moment call).1 = .ok (.releaseClaim true) := by
  obtain ⟨record, present, own_or_result⟩ := held
  obtain ⟨change, effect, written⟩ := serve_effect serialization ledger moment call
  rw [IdempotencyLedger.step, written]
  by_cases same : key = call.key
  case neg =>
    left
    rw [apply_of_ne ledger same]
    exact ⟨record, present, own_or_result⟩
  subst same
  generalize answered : (ledger.serve serialization moment call).1 = answer at effect ungranted ⊢
  cases effect with
  | kept => exact .inl ⟨record, present, own_or_result⟩
  | claimed input granted => exact absurd rfl (ungranted input granted rfl rfl)
  | settled _ _ result _ _ terminal =>
    exact .inl ⟨result, by simp [IdempotencyLedger.apply], .inr terminal⟩
  | released input found counts claimed owner =>
    right
    have same : record = found := by
      have stored := (live_eq_some.mp counts).1
      rw [present] at stored
      exact Option.some.inj stored
    subst same
    rcases own_or_result with rfl | result
    · exact ⟨input, rfl, rfl, owner, rfl⟩
    · exact absurd claimed result

theorem result_kept (present : ledger key = some record) (result : record.status ≠ .claimed)
    (event : IdempotencyEvent V) (counts : event.finish < record.expiresAtMs) :
    ledger.step serialization event key = some record := by
  cases event with
  | pruneExpired now => exact present
  | call moment call =>
    obtain ⟨change, effect, written⟩ :=
      serve_effect serialization ledger moment call
    rw [IdempotencyLedger.step, written]
    by_cases same : key = call.key
    case neg => rw [apply_of_ne ledger same, present]
    subst same
    have found : live (·.expiresAtMs) moment.readings.active (ledger call.key) = some record :=
      live_eq_some.mpr ⟨present, counts⟩
    rw [found] at effect
    generalize (ledger.serve serialization moment call).1 = answer at effect
    -- whatever changes the entry has found a claim there
    cases effect with
    | kept => exact present
    | claimed input granted expiresAtMs live free => exact absurd (free record rfl).1 result
    | released input other stored claimed owner =>
      cases stored
      exact absurd claimed result
    | settled _ _ _ _ free => exact absurd (free record rfl) result

/-! ### Runs -/

section Runs

variable (serialization)

/-- The call, made at the end of the run, is granted the claim. -/
def Granted (events : List (IdempotencyEvent V)) (moment : Moment) (input : ToolIdempotencyClaim) :
    Prop :=
  ∃ record, answerAfter serialization events moment (.claim input) = .ok (.claim (.claimed record))

/-- The call, made at the end of the run, releases the claim of its key. -/
def Released (events : List (IdempotencyEvent V)) (moment : Moment)
    (input : ToolIdempotencyRelease) : Prop :=
  answerAfter serialization events moment (.releaseClaim input) = .ok (.releaseClaim true)

/-- No claim of the key is granted in the events `between` that follow the run `before`. -/
def NoneGranted (key : String) (before between : List (IdempotencyEvent V)) : Prop :=
  ∀ early moment input late, between = early ++ .call moment (.claim input) :: late →
    Granted serialization (before ++ early) moment input → input.key ≠ key

/-- The owner's own release of the key succeeds in the events `between`. -/
def ReleasedByOwner (key owner : String) (before between : List (IdempotencyEvent V)) : Prop :=
  ∃ early moment input late, between = early ++ .call moment (.releaseClaim input) :: late ∧
    Released serialization (before ++ early) moment input ∧ input.key = key ∧ input.owner = owner

/-- The record last written under the key has expired by the time a method reads the clock to
look it up. -/
def RecordExpired (key : String) (events : List (IdempotencyEvent V)) (moment : Moment) : Prop :=
  ∃ record, IdempotencyLedger.after serialization events key = some record ∧
    record.expiresAtMs ≤ moment.readings.active

omit serialization in
/-- The second claim holds a live lease of the first one's session under another generation. -/
def Superseded (first second : ToolIdempotencyClaim) (moment : Moment) : Prop :=
  ∃ lease lease', first.lease = some lease ∧ second.lease = some lease' ∧
    lease'.sessionId = lease.sessionId ∧ lease'.generationId ≠ lease.generationId ∧
    LiveLease moment lease'

variable {serialization} {before between : List (IdempotencyEvent V)}

/-- From a grant on the entry of the key is the claim's record or a result, until the owner
releases the claim or another is granted. -/
theorem held_between {own : ToolIdempotencyRecord J} (clock : SteadyClock (before ++ between))
    (written : IdempotencyLedger.after serialization before key = some own)
    (none_granted : NoneGranted serialization key before between) :
    (∃ record, IdempotencyLedger.after serialization (before ++ between) key = some record ∧
      (record = own ∨ record.status ≠ .claimed)) ∨
    ∃ owner, own.owner = some owner ∧ ReleasedByOwner serialization key owner before between := by
  induction between using List.reverseRecOn with
  | nil => exact .inl ⟨own, by simpa using written, .inl rfl⟩
  | append_singleton between last ih =>
    rw [← List.append_assoc] at clock
    have earlier : NoneGranted serialization key before between := by
      intro early moment input late split
      exact none_granted early moment input (late ++ [last]) (by simp [split])
    rcases ih clock.earlier earlier with held | ⟨owner, own_owner, early, moment, input, late, split,
      released⟩
    case inr =>
      exact .inr ⟨owner, own_owner, early, moment, input, late ++ [last], by simp [split], released⟩
    rw [← List.append_assoc, IdempotencyLedger.after_snoc]
    cases last with
    | pruneExpired now => exact .inl held
    | call moment call =>
      have answer := answerAfter_eq serialization clock
      have ungranted : ∀ input record, call = .claim input →
          ((IdempotencyLedger.after serialization (before ++ between)).serve
            serialization moment call).1 = .ok (.claim (.claimed record)) → input.key ≠ key := by
        rintro input record rfl granted
        exact none_granted between moment input [] rfl ⟨record, answer.trans granted⟩
      rcases claim_kept held ungranted with held | ⟨input, rfl, same, owner, released⟩
      · exact .inl held
      · exact .inr ⟨input.owner, owner, between, moment, input, [], rfl, answer.trans released, same,
          rfl⟩

theorem successive_claims {moment moment' : Moment} {first second : ToolIdempotencyClaim}
    (clock : SteadyClock (before ++ .call moment (.claim first) :: between ++
      [.call moment' (.claim second)]))
    (same : second.key = first.key)
    (granted : Granted serialization before moment first)
    (granted' : Granted serialization (before ++ .call moment (.claim first) :: between) moment'
      second)
    (none_granted : NoneGranted serialization first.key
      (before ++ [.call moment (.claim first)]) between) :
    ReleasedByOwner serialization first.key first.owner (before ++ [.call moment (.claim first)])
        between ∨
      RecordExpired serialization first.key (before ++ .call moment (.claim first) :: between)
        moment' ∨
      Superseded first second moment' := by
  obtain ⟨record, granted⟩ := granted
  obtain ⟨record', granted'⟩ := granted'
  rw [answerAfter_eq _ clock] at granted'
  have whole : before ++ .call moment (.claim first) :: between =
      before ++ [.call moment (.claim first)] ++ between := by simp
  rw [whole] at clock granted' ⊢
  rw [answerAfter_eq _ clock.earlier.earlier] at granted
  obtain ⟨⟨expiresAtMs, written⟩, -, -⟩ := grant_effect granted
  rw [← IdempotencyLedger.after_snoc] at written
  obtain ⟨-, live, free⟩ := grant_effect granted'
  rw [same] at free
  rcases held_between clock.earlier written none_granted with
    ⟨held, present, own_or_result⟩ | ⟨owner, own, released⟩
  case inr =>
    cases own
    exact .inl released
  right
  by_cases expired : held.expiresAtMs ≤ moment'.readings.active
  · exact .inl ⟨held, present, expired⟩
  -- the second claim has found a claim that counts, so it is the first one's
  right
  obtain ⟨claimed, lease', leased', session, superseded⟩ :=
    free held present (Nat.lt_of_not_le expired)
  rcases own_or_result with rfl | result
  case inr => exact absurd claimed result
  cases leased : first.lease with
  | none => simp [claimedBefore, claimRecord, leased] at superseded
  | some lease =>
    have generation : lease.generationId ≠ lease'.generationId := by
      simpa [claimedBefore, claimRecord, leased] using superseded
    have sessions : lease.sessionId = lease'.sessionId := by
      have stored : truthy (some lease.sessionId) = some lease'.sessionId := by
        simpa [claimRecord, leasedSession, leased] using session
      exact Option.some.inj (truthy_eq_some.mp stored).1
    exact ⟨lease, lease', leased, leased', sessions.symm, generation.symm, live lease' leased'⟩

theorem ledger_of_store {events : List (IdempotencyEvent V)} (clock : SteadyClock events)
    (present : (storeAfter serialization events).get key = some record) :
    IdempotencyLedger.after serialization events key = some record := by
  have same : ∀ now, Agrees now (storeAfter serialization events)
      (IdempotencyLedger.after serialization events) →
      IdempotencyLedger.after serialization events key = some record := by
    intro now agrees
    rcases agrees key with same | ⟨dropped, -⟩
    · rw [← same, present]
    · rw [present] at dropped
      cases dropped
  rcases List.eq_nil_or_concat events with rfl | ⟨earlier, last, rfl⟩
  · exact same 0 fun key => .inl rfl
  · rw [List.concat_eq_append] at clock same ⊢
    exact same last.finish (run_agrees _ clock _ clock.upto_finish)

theorem result_stays {after : List (IdempotencyEvent V)} (clock : SteadyClock (before ++ after))
    (present : (storeAfter serialization before).get key = some record)
    (result : record.status ≠ .claimed)
    (counts : ∀ event ∈ after, event.finish < record.expiresAtMs) :
    (storeAfter serialization (before ++ after)).get key = some record := by
  have kept : ∀ early late, after = early ++ late →
      IdempotencyLedger.after serialization (before ++ early) key = some record := by
    intro early
    induction early using List.reverseRecOn with
    | nil =>
      intro late _
      simpa using ledger_of_store clock.earlier present
    | append_singleton early event ih =>
      intro late split
      have held := ih (event :: late) (by simpa using split)
      rw [← List.append_assoc, IdempotencyLedger.after_snoc]
      exact result_kept held result event (counts event (by simp [split]))
  rcases List.eq_nil_or_concat after with rfl | ⟨earlier, last, rfl⟩
  · simpa using present
  rw [List.concat_eq_append, ← List.append_assoc] at clock
  have agrees := run_agrees serialization clock _ clock.upto_finish
  have written := kept (earlier ++ [last]) [] (by simp)
  rw [← List.append_assoc] at written
  rcases agrees key with same | ⟨-, gone⟩
  · rw [List.concat_eq_append, ← List.append_assoc, same, written]
  · -- the ledger's record has not expired at the last reading, so it is not gone
    rw [written, live_eq_none] at gone
    have late := gone record rfl
    have early := counts last (by simp)
    omega

end Runs

/-- The store's exclusivity, over all runs under a clock that does not go back. -/
theorem idempotency_exclusivity (serialization : Serialization V J) :
    (∀ before between moment moment' first second,
      SteadyClock (before ++ .call moment (.claim first) :: between ++
        [.call moment' (.claim second)]) →
      second.key = first.key →
      Granted serialization before moment first →
      Granted serialization (before ++ .call moment (.claim first) :: between) moment' second →
      NoneGranted serialization first.key (before ++ [.call moment (.claim first)]) between →
      ReleasedByOwner serialization first.key first.owner
          (before ++ [.call moment (.claim first)]) between ∨
        RecordExpired serialization first.key (before ++ .call moment (.claim first) :: between)
          moment' ∨
        Superseded first second moment') ∧
    ∀ before after key record, SteadyClock (before ++ after) →
      (storeAfter serialization before).get key = some record →
      record.status ≠ .claimed →
      (∀ event ∈ after, event.finish < record.expiresAtMs) →
      (storeAfter serialization (before ++ after)).get key = some record := by
  constructor
  · intro before between moment moment' first second clock same granted granted' none_granted
    exact successive_claims clock same granted granted' none_granted
  · intro before after key record clock present result counts
    exact result_stays clock present result counts

def plainText : Serialization String String where
  snapshotJsonValue := .ok
  copyJsonValue := id
  stableStringify text := text.getD "null"

/-- A moment at which the session has the lease of a generation, whose number is its fence. -/
def leasedMoment (now : Nat) (holder generationId : String) (fence expiresAtMs : Nat) : Moment where
  readings := .still now
  readLeaseSnapshot := some fun _ => some { holder, fence, generationId, expiresAtMs }

def leasedClaim (holder generationId : String) (fence : Nat) : ToolIdempotencyClaim where
  key := "call"
  sessionId := none
  lease := some { sessionId := "session", holder, fence := .int fence, generationId }
  toolId := none
  toolVersion := none
  requestHash := "hash"
  owner := holder
  ttlMs := .int 1000

def leasedRelease (holder generationId : String) (fence : Nat) : ToolIdempotencyRelease where
  key := "call"
  requestHash := "hash"
  owner := holder
  sessionId := none
  lease := some { sessionId := "session", holder, fence := .int fence, generationId }

def unleasedClaim : ToolIdempotencyClaim :=
  { leasedClaim "" "" 0 with sessionId := some "session", lease := none, owner := "later" }

/-- A success with the given lease's claim. -/
def leasedSuccess (holder generationId : String) (fence : Nat) : ToolIdempotencyOutcome String where
  status := ⟨.succeeded, succeeded_ne_claimed⟩
  ttlMs := .int 1000
  owner := holder
  sessionId := none
  lease := some { sessionId := "session", holder, fence := .int fence, generationId }
  output := some "done"
  error := none

/-- The first lease's claim of the key. -/
def firstClaim : IdempotencyEvent String :=
  .call (leasedMoment 10 "first" "g1" 1 100) (.claim (leasedClaim "first" "g1" 1))

def firstSuccess : IdempotencyEvent String :=
  .call (leasedMoment 20 "first" "g1" 1 100)
    (.complete "call" "hash" (leasedSuccess "first" "g1" 1))

/-- The second lease's claim, when the first lease has expired. -/
def takeover : IdempotencyEvent String :=
  .call (leasedMoment 110 "second" "g2" 2 200) (.claim (leasedClaim "second" "g2" 2))

def takeoverRelease : IdempotencyEvent String :=
  .call (leasedMoment 120 "second" "g2" 2 200) (.releaseClaim (leasedRelease "second" "g2" 2))

def recordedSuccess : ToolIdempotencyRecord String :=
  { claimRecord (leasedClaim "first" "g1" 1) (some "session") 1020 with
    status := .succeeded
    output := some "done" }

theorem idempotency_exclusivity_takeover :
    (ReleasedByOwner plainText "call" "first" [firstClaim] [] ∨
      RecordExpired plainText "call" [firstClaim] (leasedMoment 110 "second" "g2" 2 200) ∨
      Superseded (leasedClaim "first" "g1" 1) (leasedClaim "second" "g2" 2)
        (leasedMoment 110 "second" "g2" 2 200)) ∧
    (storeAfter plainText [firstClaim, firstSuccess, takeover]).get "call" =
      some recordedSuccess := by
  constructor
  · exact (idempotency_exclusivity plainText).1 [] [] (leasedMoment 10 "first" "g1" 1 100)
      (leasedMoment 110 "second" "g2" 2 200) (leasedClaim "first" "g1" 1)
      (leasedClaim "second" "g2" 2) (by simp [SteadyClock]; decide) rfl
      ⟨claimRecord (leasedClaim "first" "g1" 1) (some "session") 1010, by decide +kernel⟩
      ⟨claimRecord (leasedClaim "second" "g2" 2) (some "session") 1110, by decide +kernel⟩
      (by intro early moment input late split; simp at split)
  · exact (idempotency_exclusivity plainText).2 [firstClaim, firstSuccess] [takeover] "call"
      recordedSuccess (by simp [SteadyClock]; decide) (by decide +kernel) (by decide)
      (by simp; decide)

/-- The takeover's owner gives the key back, and a caller without a lease claims it while the
first claim has neither been released by its owner nor expired. -/
theorem releasedTakeover_reopens :
    ¬∀ before between moment moment' first second,
      SteadyClock (before ++ .call moment (.claim first) :: between ++
        [.call moment' (.claim second)]) →
      second.key = first.key →
      Granted plainText before moment first →
      Granted plainText (before ++ .call moment (.claim first) :: between) moment' second →
      ReleasedByOwner plainText first.key first.owner (before ++ [.call moment (.claim first)])
          between ∨
        (∃ early late, between = early ++ late ∧ RecordExpired plainText first.key
          (before ++ [.call moment (.claim first)] ++ early) moment') ∨
        Superseded first second moment' := by
  intro literal
  have reason := literal [] [takeover, takeoverRelease] (leasedMoment 10 "first" "g1" 1 100)
    (leasedMoment 130 "second" "g2" 2 125) (leasedClaim "first" "g1" 1) unleasedClaim
    (by simp [SteadyClock]; decide) rfl
    ⟨claimRecord (leasedClaim "first" "g1" 1) (some "session") 1010, by decide +kernel⟩
    ⟨claimRecord unleasedClaim (some "session") 1130, by decide +kernel⟩
  rcases reason with released | expired | ⟨lease, lease', -, leased, -⟩
  · obtain ⟨early, moment, input, late, split, -, -, owner⟩ := released
    have member : .call moment (.releaseClaim input) ∈ [takeover, takeoverRelease] := by
      rw [split]
      simp
    simp only [takeover, takeoverRelease, List.mem_cons, IdempotencyEvent.call.injEq,
      ToolIdempotencyCall.releaseClaim.injEq, reduceCtorEq, and_false, false_or,
      List.not_mem_nil, or_false] at member
    rw [member.2] at owner
    revert owner
    decide
  · obtain ⟨early, late, split, record, held, expired⟩ := expired
    have counts : ∀ n < 3, ∀ record ∈ IdempotencyLedger.after plainText
        ([firstClaim] ++ [takeover, takeoverRelease].take n) "call", 130 < record.expiresAtMs := by
      decide +kernel
    have prefixes : early = [takeover, takeoverRelease].take early.length := by
      rw [split, List.take_left]
    have short : early.length < 3 := by
      have lengths := congrArg List.length split
      simp only [List.length_cons, List.length_nil, List.length_append] at lengths
      omega
    rw [prefixes] at held
    have late := counts early.length short record held
    exact absurd expired (Nat.not_le_of_lt late)
  · cases leased

end Tvic.IdempotencyExclusivity
