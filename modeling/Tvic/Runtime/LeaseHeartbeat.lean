import Mathlib.Data.Rat.Defs
import Tvic.Dal.LeaseFencing

/-!
# The heartbeat of an attachment

`renewLease` of `packages/runtime/src/runtime-support.ts` with `setPersistenceHealth` of
`packages/runtime/src/create-runtime.ts`, on one attachment of a session. Every tick calls `renewLease`; the
store answers a renewal when it comes to it, the answer arrives later or gets lost, the timeout of a call may
come first, and a call goes on some time after its race has been decided. The store is shared with others and
has a clock of its own. Local times are those of `clock.now()` and of `clock.monotonicMs()`.
-/
namespace Tvic

open Lib

inductive SessionAttachmentHealth where
  | healthy
  | persistenceDegraded
  | leaseLost
  | detached
  deriving DecidableEq, Repr

structure LeasePolicy where
  leaseTtlMs : Nat
  persistenceRecoveryGraceMs : ℚ
  deriving DecidableEq

/-- What a renewal comes to for its call. -/
structure RenewalOutcome where
  renewed : Option SessionLease
  transientFailure : Bool
  deriving DecidableEq, Repr

/-- A call of `renewLease` that has asked the store for a renewal. -/
structure RenewalCall where
  fence : Nat
  generationId : String
  /-- The store's reading and its answer, once it has come to the renewal. -/
  answer : Option (Nat × RenewalOutcome) := none
  settled : Bool := false
  /-- What has won the race of the renewal and the timeout. -/
  outcome : Option RenewalOutcome := none
  returned : Bool := false
  deriving DecidableEq, Repr

structure RuntimeAttachmentState where
  sessionId : SessionId
  holder : String
  lease : SessionLease
  health : SessionAttachmentHealth := .healthy
  aborted : Bool := false
  renewalFailureSinceMs : Option Int := none
  renewalFailureSinceMonotonicMs : Option ℚ := none
  /-- The call whose renewal is tracked. -/
  renewalInFlight : Option Nat := none

/-- An attachment, the store and the calls in their order. -/
structure LeaseHeartbeat where
  state : RuntimeAttachmentState
  store : InMemorySessionLeaseStore
  calls : List RenewalCall := []

inductive HeartbeatStep where
  | tick (nowMs : Int) (monotonicMs : ℚ)
  | answer (call : Nat) (nowMs : Nat)
  /-- The renewal of a call settles: with the answer of the store, or it fails on the way. -/
  | settle (call : Nat) (fails : Bool)
  | timeout (call : Nat)
  /-- A call goes on after its race. -/
  | resume (call : Nat) (nowMs : Int) (monotonicMs : ℚ)
  | setPersistenceHealth (degraded : Bool)
  | storeCall (call : LeaseFencing.TimedCall)

namespace RuntimeAttachmentState

/-- `lease_lost`, with the signal aborted. -/
def lose (state : RuntimeAttachmentState) : RuntimeAttachmentState :=
  { state with health := .leaseLost, aborted := true }

/-- How long renewals have failed, if they do. -/
def failsFor (state : RuntimeAttachmentState) (monotonicMs : ℚ) : Option ℚ :=
  state.renewalFailureSinceMonotonicMs.map (monotonicMs - ·)

/-- `renewLease` while a renewal is in flight. -/
def checkInFlight (policy : LeasePolicy) (state : RuntimeAttachmentState) (nowMs : Int)
    (monotonicMs : ℚ) : RuntimeAttachmentState :=
  let leaseExpired := (state.lease.expiresAtMs : Int) ≤ nowMs
  let graceOver := (state.failsFor monotonicMs).any (policy.persistenceRecoveryGraceMs ≤ ·)
  if leaseExpired ∨ graceOver then state.lose else state

/-- The end of `renewLease`, once the race is decided. -/
def finishRenewal (policy : LeasePolicy) (state : RuntimeAttachmentState) (outcome : RenewalOutcome)
    (nowMs : Int) (monotonicMs : ℚ) : RuntimeAttachmentState :=
  match outcome.renewed with
  | some renewed =>
    { state with
      lease := renewed
      renewalFailureSinceMs := none
      renewalFailureSinceMonotonicMs := none }
  | none =>
    if outcome.transientFailure then
      let since := state.renewalFailureSinceMonotonicMs.getD monotonicMs
      let failing :=
        { state with
          renewalFailureSinceMonotonicMs := some since
          renewalFailureSinceMs := some (state.renewalFailureSinceMs.getD nowMs) }
      if nowMs < state.lease.expiresAtMs ∧ monotonicMs - since < policy.persistenceRecoveryGraceMs then
        failing
      else failing.lose
    else state.lose

def setPersistenceHealth (state : RuntimeAttachmentState) (degraded : Bool) : RuntimeAttachmentState :=
  match state.health, degraded with
  | .healthy, true => { state with health := .persistenceDegraded }
  | .persistenceDegraded, false => { state with health := .healthy }
  | _, _ => state

end RuntimeAttachmentState

namespace LeaseHeartbeat

variable (policy : LeasePolicy)

/-- A tick: `renewLease` returns at once, or it asks the store. -/
def tick (s : LeaseHeartbeat) (nowMs : Int) (monotonicMs : ℚ) : LeaseHeartbeat :=
  if s.state.health = .leaseLost ∨ s.state.health = .detached then s
  else
    match s.state.renewalInFlight with
    | some _ => { s with state := s.state.checkInFlight policy nowMs monotonicMs }
    | none =>
      { s with
        state := { s.state with renewalInFlight := some s.calls.length }
        calls := s.calls ++ [{ fence := s.state.lease.fence, generationId := s.state.lease.generationId }] }

/-- The store answers a renewal, or it throws. -/
def answer (s : LeaseHeartbeat) (index : Nat) (nowMs : Nat) : LeaseHeartbeat :=
  match s.calls[index]? with
  | none => s
  | some call =>
    if call.answer.isSome then s
    else
      match s.store.renew (.int nowMs) s.state.sessionId s.state.holder (.int call.fence)
          (.int policy.leaseTtlMs) call.generationId with
      | .ok (renewed, store) =>
        { s with
          store := store
          calls := s.calls.set index { call with answer := some (nowMs, ⟨renewed, false⟩) } }
      | .error _ =>
        { s with calls := s.calls.set index { call with answer := some (nowMs, ⟨none, true⟩) } }

def settlement (call : RenewalCall) (fails : Bool) : Option RenewalOutcome :=
  if fails then some ⟨none, true⟩ else call.answer.map (·.2)

def settle (s : LeaseHeartbeat) (index : Nat) (fails : Bool) : LeaseHeartbeat :=
  match s.calls[index]? with
  | none => s
  | some call =>
    match settlement call fails with
    | none => s
    | some outcome =>
      if call.settled then s
      else
        { s with
          state := { s.state with
            renewalInFlight :=
              if s.state.renewalInFlight = some index then none else s.state.renewalInFlight }
          calls := s.calls.set index
            { call with settled := true, outcome := call.outcome.or (some outcome) } }

def timeout (s : LeaseHeartbeat) (index : Nat) : LeaseHeartbeat :=
  match s.calls[index]? with
  | none => s
  | some call =>
    { s with calls := s.calls.set index { call with outcome := call.outcome.or (some ⟨none, true⟩) } }

/-- The call that goes on, with what its race has come to. -/
def decided (s : LeaseHeartbeat) (index : Nat) : Option (RenewalCall × RenewalOutcome) :=
  match s.calls[index]? with
  | none => none
  | some call => if call.returned then none else call.outcome.map (call, ·)

def resume (s : LeaseHeartbeat) (index : Nat) (nowMs : Int) (monotonicMs : ℚ) : LeaseHeartbeat :=
  match s.decided index with
  | none => s
  | some (call, outcome) =>
    { s with
      state := s.state.finishRenewal policy outcome nowMs monotonicMs
      calls := s.calls.set index { call with returned := true } }

def step (s : LeaseHeartbeat) : HeartbeatStep → LeaseHeartbeat
  | .tick nowMs monotonicMs => s.tick policy nowMs monotonicMs
  | .answer index nowMs => s.answer policy index nowMs
  | .settle index fails => s.settle index fails
  | .timeout index => s.timeout index
  | .resume index nowMs monotonicMs => s.resume policy index nowMs monotonicMs
  | .setPersistenceHealth degraded =>
    { s with state := s.state.setPersistenceHealth degraded }
  | .storeCall call => { s with store := LeaseFencing.step s.store call }

/-- The local time at which a call of `renewLease` completes in a step. -/
def completes (s : LeaseHeartbeat) : HeartbeatStep → Option Int
  | .tick nowMs _ =>
    if s.state.health = .leaseLost ∨ s.state.health = .detached ∨ s.state.renewalInFlight.isSome then
      some nowMs
    else none
  | .resume index nowMs _ => (s.decided index).map fun _ => nowMs
  | _ => none

/-- The attachment is lost and aborted, or its lease is good at the time. -/
def Trusted (nowMs : Int) (state : RuntimeAttachmentState) : Prop :=
  state.health = .leaseLost ∧ state.aborted = true ∨ nowMs < state.lease.expiresAtMs

/-- A call that goes on with a renewed lease does so before the time that the store has added to its
reading has passed on the local clock. -/
def Timely (s : LeaseHeartbeat) : HeartbeatStep → Prop
  | .resume index nowMs _ => ∀ call outcome, s.decided index = some (call, outcome) →
      outcome.renewed.isSome → ∀ answer ∈ call.answer, nowMs < answer.1 + policy.leaseTtlMs
  | _ => True

structure Attached (s : LeaseHeartbeat) : Prop where
  health : s.state.health = .healthy
  calls : s.calls = []

/-! ## Renewals of the store -/

theorem renew_ok {store store' : InMemorySessionLeaseStore} {now ttlMs fence : Nat}
    {sessionId : SessionId} {holder generationId : String} {renewed : SessionLease}
    (returned : store.renew (.int now) sessionId holder (.int fence) (.int ttlMs) generationId =
      .ok (some renewed, store')) :
    renewed.fence = fence ∧ renewed.generationId = generationId ∧
      renewed.expiresAtMs = now + ttlMs := by
  obtain ⟨-, -, returned⟩ := bind_eq_ok.mp returned
  obtain ⟨n, fenceChecked, returned⟩ := bind_eq_ok.mp returned
  obtain ⟨-, -, returned⟩ := bind_eq_ok.mp returned
  obtain ⟨nowMs, -, returned⟩ := bind_eq_ok.mp returned
  obtain ⟨same, -⟩ := Number.safeInteger?_eq_some (assertSafeInteger_eq_ok fenceChecked)
  split at returned
  · cases returned
  next current found =>
    obtain ⟨-, -, fenceEq, generation⟩ := InMemorySessionLeaseStore.matching_eq_some.mp found
    split at returned
    · cases returned
    · obtain ⟨expiry, checked, returned⟩ := bind_eq_ok.mp returned
      obtain ⟨now', ttl, nowRead, ttlRead, -, sum, -⟩ := safeLeaseExpiryAt_eq_ok checked
      have reading := (Number.safeInteger?_eq_some nowRead).1
      have length := (Number.safeInteger?_eq_some ttlRead).1
      cases returned
      simp only [Number.int.injEq, Int.natCast_inj] at same reading length
      exact ⟨fenceEq.trans same.symm, generation, by rw [sum, reading, length]⟩

/-! ## What holds in every run -/

/-- A call asks for the lease of its attachment, and what it is told is that lease, renewed. -/
structure RenewsLease (policy : LeasePolicy) (fence : Nat) (generationId : String) (call : RenewalCall) :
    Prop where
  ofFence : call.fence = fence
  ofGeneration : call.generationId = generationId
  answer : ∀ reading outcome renewed, call.answer = some (reading, outcome) →
    outcome.renewed = some renewed → renewed.fence = fence ∧ renewed.generationId = generationId ∧
      renewed.expiresAtMs = reading + policy.leaseTtlMs
  outcome : ∀ outcome renewed, call.outcome = some outcome → outcome.renewed = some renewed →
    ∃ reading, call.answer = some (reading, outcome)

structure Keeps (policy : LeasePolicy) (fence : Nat) (generationId : String) (s : LeaseHeartbeat) :
    Prop where
  attached : s.state.health ≠ .detached
  lost : s.state.health = .leaseLost → s.state.aborted = true
  ofFence : s.state.lease.fence = fence
  ofGeneration : s.state.lease.generationId = generationId
  calls : ∀ call ∈ s.calls, RenewsLease policy fence generationId call

variable {policy} {fence : Nat} {generationId : String} {s : LeaseHeartbeat}

section

variable (held : Keeps policy fence generationId s)
include held

theorem Keeps.set {call : RenewalCall} (renews : RenewsLease policy fence generationId call)
    (index : Nat) :
    ∀ other ∈ s.calls.set index call, RenewsLease policy fence generationId other := by
  intro other member
  rcases List.mem_or_eq_of_mem_set member with old | rfl
  · exact held.calls other old
  · exact renews

theorem Keeps.call {index : Nat} {call : RenewalCall} (found : s.calls[index]? = some call) :
    RenewsLease policy fence generationId call :=
  held.calls call (List.mem_of_getElem? found)

theorem Keeps.tick (nowMs : Int) (monotonicMs : ℚ) :
    Keeps policy fence generationId (s.tick policy nowMs monotonicMs) := by
  unfold LeaseHeartbeat.tick
  split_ifs with stopped
  · exact held
  · split
    · rw [RuntimeAttachmentState.checkInFlight]
      split_ifs
      · exact ⟨nofun, fun _ => rfl, held.ofFence, held.ofGeneration, held.calls⟩
      · exact held
    · refine ⟨held.attached, held.lost, held.ofFence, held.ofGeneration, fun call member => ?_⟩
      rcases List.mem_append.mp member with old | new
      · exact held.calls call old
      · obtain rfl := List.mem_singleton.mp new
        exact ⟨held.ofFence, held.ofGeneration, nofun, nofun⟩

theorem Keeps.answer (index nowMs : Nat) :
    Keeps policy fence generationId (s.answer policy index nowMs) := by
  unfold LeaseHeartbeat.answer
  split
  · exact held
  next call found =>
    have renews := held.call found
    split_ifs with answered
    · exact held
    · have unanswered : call.answer = none := by simpa using answered
      -- nothing has been decided by an answer that has not come
      have undecided : ∀ outcome renewed, call.outcome = some outcome →
          outcome.renewed ≠ some renewed := by
        intro outcome renewed decided told
        obtain ⟨reading, there⟩ := renews.outcome outcome renewed decided told
        rw [unanswered] at there
        cases there
      split
      next renewed store' returned =>
        refine ⟨held.attached, held.lost, held.ofFence, held.ofGeneration, held.set ?_ index⟩
        refine ⟨renews.ofFence, renews.ofGeneration, ?_, ?_⟩
        · intro reading outcome lease answer told
          cases answer
          dsimp only at told
          subst told
          obtain ⟨sameFence, sameGeneration, expiry⟩ := renew_ok returned
          exact ⟨sameFence.trans renews.ofFence, sameGeneration.trans renews.ofGeneration, expiry⟩
        · intro outcome lease decided told
          exact absurd told (undecided outcome lease decided)
      · refine ⟨held.attached, held.lost, held.ofFence, held.ofGeneration, held.set ?_ index⟩
        refine ⟨renews.ofFence, renews.ofGeneration, ?_, ?_⟩
        · intro reading outcome lease answer told
          cases answer
          cases told
        · intro outcome lease decided told
          exact absurd told (undecided outcome lease decided)

theorem Keeps.settle (index : Nat) (fails : Bool) :
    Keeps policy fence generationId (s.settle index fails) := by
  unfold LeaseHeartbeat.settle
  split
  · exact held
  next call found =>
    have renews := held.call found
    split
    · exact held
    next outcome settled =>
      by_cases before : call.settled = true
      · rw [if_pos before]
        exact held
      · rw [if_neg before]
        refine ⟨held.attached, held.lost, held.ofFence, held.ofGeneration, held.set ?_ index⟩
        refine ⟨renews.ofFence, renews.ofGeneration, renews.answer, ?_⟩
        intro decided lease won told
        dsimp only at won
        cases first : call.outcome with
        | some earlier =>
          rw [first, Option.some_or] at won
          cases won
          exact renews.outcome _ lease first told
        | none =>
          rw [first, Option.none_or] at won
          obtain rfl := Option.some.inj won
          unfold settlement at settled
          split_ifs at settled
          · cases settled
            cases told
          · obtain ⟨⟨reading, answer⟩, there, rfl⟩ := Option.map_eq_some_iff.mp settled
            exact ⟨reading, there⟩

theorem Keeps.timeout (index : Nat) :
    Keeps policy fence generationId (s.timeout index) := by
  unfold LeaseHeartbeat.timeout
  split
  · exact held
  next call found =>
    have renews := held.call found
    refine ⟨held.attached, held.lost, held.ofFence, held.ofGeneration, held.set ?_ index⟩
    refine ⟨renews.ofFence, renews.ofGeneration, renews.answer, ?_⟩
    intro decided lease won told
    dsimp only at won
    cases first : call.outcome with
    | some earlier =>
      rw [first, Option.some_or] at won
      cases won
      exact renews.outcome _ lease first told
    | none =>
      rw [first, Option.none_or] at won
      cases won
      cases told

end

theorem decided_eq_some {index : Nat} {call : RenewalCall} {outcome : RenewalOutcome}
    (decides : s.decided index = some (call, outcome)) :
    s.calls[index]? = some call ∧ call.outcome = some outcome := by
  unfold decided at decides
  split at decides
  · cases decides
  next found =>
    split_ifs at decides
    obtain ⟨won, there, same⟩ := Option.map_eq_some_iff.mp decides
    cases same
    exact ⟨found, there⟩

theorem finishRenewal_cases (state : RuntimeAttachmentState) (outcome : RenewalOutcome) (nowMs : Int)
    (monotonicMs : ℚ) :
    let finished := state.finishRenewal policy outcome nowMs monotonicMs
    (∃ renewed, outcome.renewed = some renewed ∧ finished.lease = renewed ∧
      finished.health = state.health ∧ finished.aborted = state.aborted) ∨
    (finished.lease = state.lease ∧ (finished.health = .leaseLost ∧ finished.aborted = true ∨
      finished.health = state.health ∧ finished.aborted = state.aborted ∧
        nowMs < state.lease.expiresAtMs)) := by
  dsimp only
  unfold RuntimeAttachmentState.finishRenewal
  split
  next renewed told => exact Or.inl ⟨renewed, told, rfl, rfl, rfl⟩
  · right
    dsimp only
    split_ifs with transient fresh
    · exact ⟨rfl, Or.inr ⟨rfl, rfl, fresh.1⟩⟩
    · exact ⟨rfl, Or.inl ⟨rfl, rfl⟩⟩
    · exact ⟨rfl, Or.inl ⟨rfl, rfl⟩⟩

theorem Keeps.resume (held : Keeps policy fence generationId s) (index : Nat) (nowMs : Int)
    (monotonicMs : ℚ) : Keeps policy fence generationId (s.resume policy index nowMs monotonicMs) := by
  unfold LeaseHeartbeat.resume
  split
  · exact held
  next call outcome decides =>
    obtain ⟨found, won⟩ := decided_eq_some decides
    have renews := held.call found
    have renews' : RenewsLease policy fence generationId { call with returned := true } :=
      ⟨renews.ofFence, renews.ofGeneration, renews.answer, renews.outcome⟩
    have calls := held.set renews' index
    rcases @finishRenewal_cases policy s.state outcome nowMs monotonicMs with
      ⟨renewed, told, lease, health, aborted⟩ | ⟨lease, ⟨health, aborted⟩ | ⟨health, aborted, -⟩⟩
    · obtain ⟨reading, answered⟩ := renews.outcome outcome renewed won told
      obtain ⟨sameFence, sameGeneration, -⟩ := renews.answer reading outcome renewed answered told
      exact ⟨health ▸ held.attached, fun lost => aborted ▸ held.lost (health ▸ lost),
        lease ▸ sameFence, lease ▸ sameGeneration, calls⟩
    · exact ⟨by rw [health]; nofun, fun _ => aborted, lease ▸ held.ofFence, lease ▸ held.ofGeneration,
        calls⟩
    · exact ⟨health ▸ held.attached, fun lost => aborted ▸ held.lost (health ▸ lost),
        lease ▸ held.ofFence, lease ▸ held.ofGeneration, calls⟩

theorem setPersistenceHealth_cases (state : RuntimeAttachmentState) (degraded : Bool) :
    state.setPersistenceHealth degraded = state ∨
      (state.health = .healthy ∧ state.setPersistenceHealth degraded =
        { state with health := .persistenceDegraded }) ∨
      (state.health = .persistenceDegraded ∧ state.setPersistenceHealth degraded =
        { state with health := .healthy }) := by
  unfold RuntimeAttachmentState.setPersistenceHealth
  cases health : state.health with
  | healthy =>
    cases degraded with
    | true => exact Or.inr (Or.inl ⟨rfl, rfl⟩)
    | false => exact Or.inl rfl
  | persistenceDegraded =>
    cases degraded with
    | true => exact Or.inl rfl
    | false => exact Or.inr (Or.inr ⟨rfl, rfl⟩)
  | leaseLost => exact Or.inl rfl
  | detached => exact Or.inl rfl

theorem Keeps.step (held : Keeps policy fence generationId s) (step : HeartbeatStep) :
    Keeps policy fence generationId (s.step policy step) := by
  cases step with
  | tick nowMs monotonicMs => exact held.tick nowMs monotonicMs
  | answer index nowMs => exact held.answer index nowMs
  | settle index fails => exact held.settle index fails
  | timeout index => exact held.timeout index
  | resume index nowMs monotonicMs => exact held.resume index nowMs monotonicMs
  | storeCall call => exact ⟨held.attached, held.lost, held.ofFence, held.ofGeneration, held.calls⟩
  | setPersistenceHealth degraded =>
    rcases setPersistenceHealth_cases s.state degraded with same | ⟨-, same⟩ | ⟨-, same⟩
    · rw [LeaseHeartbeat.step, same]
      exact held
    · rw [LeaseHeartbeat.step, same]
      exact ⟨nofun, nofun, held.ofFence, held.ofGeneration, held.calls⟩
    · rw [LeaseHeartbeat.step, same]
      exact ⟨nofun, nofun, held.ofFence, held.ofGeneration, held.calls⟩

/-! ## Runs -/

theorem Attached.keeps (attached : s.Attached) :
    Keeps policy s.state.lease.fence s.state.lease.generationId s where
  attached := by rw [attached.health]; nofun
  lost := by rw [attached.health]; nofun
  ofFence := rfl
  ofGeneration := rfl
  calls := by rw [attached.calls]; nofun

theorem Keeps.run (held : Keeps policy fence generationId s) (steps : List HeartbeatStep) :
    Keeps policy fence generationId (Lib.run (LeaseHeartbeat.step policy) s steps) :=
  run_invariant (LeaseHeartbeat.step policy) (Keeps policy fence generationId) (fun _ call held => held.step call) s held
    steps

theorem lost_step (lost : s.state.health = .leaseLost) (step : HeartbeatStep) :
    (s.step policy step).state.health = .leaseLost := by
  cases step with
  | tick nowMs monotonicMs =>
    rw [LeaseHeartbeat.step, LeaseHeartbeat.tick, if_pos (Or.inl lost)]
    exact lost
  | answer index nowMs =>
    unfold LeaseHeartbeat.step LeaseHeartbeat.answer
    dsimp only
    split
    · exact lost
    · split_ifs
      · exact lost
      · split
        · exact lost
        · exact lost
  | settle index fails =>
    unfold LeaseHeartbeat.step LeaseHeartbeat.settle
    dsimp only
    split
    · exact lost
    · split
      · exact lost
      next call _ _ _ _ =>
        by_cases before : call.settled = true
        · rw [if_pos before]
          exact lost
        · rw [if_neg before]
          exact lost
  | timeout index =>
    unfold LeaseHeartbeat.step LeaseHeartbeat.timeout
    dsimp only
    split
    · exact lost
    · exact lost
  | resume index nowMs monotonicMs =>
    unfold LeaseHeartbeat.step LeaseHeartbeat.resume
    dsimp only
    split
    · exact lost
    next call outcome _ =>
      rcases @finishRenewal_cases policy s.state outcome nowMs monotonicMs with
        ⟨-, -, -, health, -⟩ | ⟨-, ⟨health, -⟩ | ⟨health, -, -⟩⟩
      · exact health.trans lost
      · exact health
      · exact health.trans lost
  | storeCall call => exact lost
  | setPersistenceHealth degraded =>
    rcases setPersistenceHealth_cases s.state degraded with same | ⟨healthy, -⟩ | ⟨healthy, -⟩
    · rw [LeaseHeartbeat.step, same]
      exact lost
    · rw [lost] at healthy
      cases healthy
    · rw [lost] at healthy
      cases healthy

theorem lost_run (lost : s.state.health = .leaseLost) (steps : List HeartbeatStep) :
    (run (step policy) s steps).state.health = .leaseLost :=
  run_invariant (step policy) (fun s => s.state.health = .leaseLost) (fun _ call lost => lost_step lost call)
    s lost steps

theorem Keeps.trusted (held : Keeps policy fence generationId s) {step : HeartbeatStep}
    (timely : Timely policy s step) {nowMs : Int} (completed : s.completes step = some nowMs) :
    Trusted nowMs (s.step policy step).state := by
  cases step with
  | tick now monotonicMs =>
    rw [completes] at completed
    split_ifs at completed with returned
    obtain rfl := Option.some.inj completed
    rw [LeaseHeartbeat.step, LeaseHeartbeat.tick]
    by_cases lost : s.state.health = .leaseLost
    · rw [if_pos (Or.inl lost)]
      exact Or.inl ⟨lost, held.lost lost⟩
    · rw [if_neg (not_or.mpr ⟨lost, held.attached⟩)]
      obtain ⟨index, tracked⟩ := Option.isSome_iff_exists.mp
        ((returned.resolve_left lost).resolve_left held.attached)
      rw [tracked]
      dsimp only
      rw [RuntimeAttachmentState.checkInFlight]
      split_ifs with gone
      · exact Or.inl ⟨rfl, rfl⟩
      · exact Or.inr (Int.lt_of_not_ge (not_or.mp gone).1)
  | resume index now monotonicMs =>
    obtain ⟨⟨call, outcome⟩, decides, same⟩ := Option.map_eq_some_iff.mp completed
    obtain rfl : now = nowMs := same
    obtain ⟨found, won⟩ := decided_eq_some decides
    have renews := held.call found
    rw [LeaseHeartbeat.step, LeaseHeartbeat.resume, decides]
    dsimp only
    rcases @finishRenewal_cases policy s.state outcome now monotonicMs with
      ⟨renewed, told, lease, -, -⟩ | ⟨lease, ⟨health, aborted⟩ | ⟨-, -, fresh⟩⟩
    · -- the lease that has come is the one of the store's reading
      obtain ⟨reading, answered⟩ := renews.outcome outcome renewed won told
      obtain ⟨-, -, expiry⟩ := renews.answer reading outcome renewed answered told
      have early := timely call outcome decides (by rw [told]; rfl) _ answered
      refine Or.inr ?_
      rw [lease, expiry]
      push_cast
      exact early
    · exact Or.inl ⟨health, aborted⟩
    · exact Or.inr (by rw [lease]; exact fresh)
  | _ => cases completed

def heldLease : SessionLease := ⟨"session", "holder", 1, "generation", 0, 0, 1000⟩

/-- An attachment whose lease is in the store. -/
def attachedHeartbeat : LeaseHeartbeat :=
  ⟨{ sessionId := "session", holder := "holder", lease := heldLease },
    InMemorySessionLeaseStore.new.setLease "session" heldLease, []⟩

/-- A renewal succeeds at once; the clock of the store is four and a half seconds behind. -/
def laggingRenewal : List HeartbeatStep := [.tick 5000 500, .answer 0 500, .settle 0 false]

end LeaseHeartbeat

end Tvic
