import Tvic.Lib.Run
import Tvic.Dal.SessionLeases

/-!
# Lease fencing

Every run of the in-memory lease store, over any sessions and holders. A call carries the reading
its `#now()` gives and, for `acquire`, the identifier its `crypto.randomUUID()` gives. A lease that
was granted is named by its generation: a renewal keeps the generation and moves the expiry.
-/
namespace Tvic.LeaseFencing

open Lib

/-- A call of the store, `close` apart. -/
inductive LeaseCall where
  | acquire (randomUUID : String) (sessionId : SessionId) (holder : String) (ttlMs : Number)
  | renew (sessionId : SessionId) (holder : String) (fence ttlMs : Number) (generationId : String)
  | release (sessionId : SessionId) (holder : String) (fence : Number) (generationId : String)
  | get (sessionId : SessionId)
  | listRecoveryCandidates (nowMs limit : Number) (cursor : Option SessionId)
  | acknowledgeRecoveryCandidate (candidate : SessionRecoveryCandidate)

structure TimedCall where
  now : Number
  call : LeaseCall

/-- The reading, unless it is one that `assertLeaseTimestampMs` rejects. -/
def TimedCall.time (c : TimedCall) : Option Nat := c.now.safeInteger? 0

/-- The identifier an `acquire` call draws. -/
def TimedCall.uuid (c : TimedCall) : Option String :=
  match c.call with
  | .acquire randomUUID _ _ _ => some randomUUID
  | _ => none

/-- The store after an operation: a rejected one has written nothing. -/
def settle {α : Type} (store : InMemorySessionLeaseStore)
    (result : Except DalError (α × InMemorySessionLeaseStore)) : InMemorySessionLeaseStore :=
  match result with
  | .ok (_, store') => store'
  | .error _ => store

def step (store : InMemorySessionLeaseStore) (c : TimedCall) : InMemorySessionLeaseStore :=
  match c.call with
  | .acquire randomUUID sessionId holder ttlMs =>
      settle store (store.acquire c.now randomUUID sessionId holder ttlMs)
  | .renew sessionId holder fence ttlMs generationId =>
      settle store (store.renew c.now sessionId holder fence ttlMs generationId)
  | .release sessionId holder fence generationId =>
      settle store (store.release c.now sessionId holder fence generationId)
  | .get _ => store
  | .listRecoveryCandidates _ _ _ => store
  | .acknowledgeRecoveryCandidate candidate =>
      settle store ((store.acknowledgeRecoveryCandidate c.now candidate).map fun s => ((), s))

/-- The lease a call grants: one that `acquire` returns and the store did not hold before. -/
def granted (store : InMemorySessionLeaseStore) (c : TimedCall) : Option SessionLease :=
  match c.call with
  | .acquire randomUUID sessionId holder ttlMs =>
      match store.acquire c.now randomUUID sessionId holder ttlMs with
      | .ok (some lease, _) => if store.leases sessionId = some lease then none else some lease
      | _ => none
  | _ => none

def storeAfter (calls : List TimedCall) : InMemorySessionLeaseStore :=
  run step .new calls

def grants (calls : List TimedCall) : List SessionLease :=
  history step granted .new calls

/-- The session's record is of this lease's generation and runs past the moment `t`. -/
def Live (store : InMemorySessionLeaseStore) (t : Nat) (lease : SessionLease) : Prop :=
  ∃ current, store.liveAt lease.sessionId t = some current ∧
    current.generationId = lease.generationId

/-- How a granted lease comes to its end by the moment `t`. -/
inductive Ended (calls : List TimedCall) (t : Nat) (lease : SessionLease) : Prop where
  | expired (current : SessionLease)
      (stored : (storeAfter calls).leases lease.sessionId = some current)
      (generation : current.generationId = lease.generationId)
      (past : current.expiresAtMs ≤ t)
  | released (before after : List TimedCall) (now fence : Nat) (holder : String)
      (split : calls = before ++ ⟨.int now, .release lease.sessionId holder (.int fence)
        lease.generationId⟩ :: after)
      (accepted : ((storeAfter before).release (.int now) lease.sessionId holder (.int fence)
        lease.generationId).isOk)
      (matched : ((storeAfter before).matching lease.sessionId holder fence
        lease.generationId).isSome)
  | superseded (current : SessionLease)
      (stored : (storeAfter calls).leases lease.sessionId = some current)
      (generation : current.generationId ≠ lease.generationId)

/-- Two grants in order: for one session the later has the larger fence and a generation of its
own. -/
def Before (earlier later : SessionLease) : Prop :=
  earlier.sessionId = later.sessionId →
    earlier.fence < later.fence ∧ earlier.generationId ≠ later.generationId

/-! ### What one call can do -/

/-- What a call does to the records. Only a grant needs the session to have no live lease; a
renewal moves the expiry of a live record, a release sets it to the call's own reading, which may
lie after an expiry already past. -/
inductive Effect (store : InMemorySessionLeaseStore) (c : TimedCall) : Prop where
  | kept (records : (step store c).leases = store.leases) (nothing : granted store c = none)
  | granted (n : Nat) (lease : SessionLease) (reading : c.time = some n)
      (drawn : c.uuid = some lease.generationId) (given : granted store c = some lease)
      (idle : store.liveAt lease.sessionId n = none)
      (fence : lease.fence = store.currentFence lease.sessionId + 1)
      (records : (step store c).leases =
        Function.update store.leases lease.sessionId (some lease))
  | renewed (n : Nat) (sessionId : SessionId) (current renewed : SessionLease)
      (reading : c.time = some n) (nothing : granted store c = none)
      (stored : store.leases sessionId = some current) (live : n < current.expiresAtMs)
      (fence : renewed.fence = current.fence)
      (generation : renewed.generationId = current.generationId)
      (records : (step store c).leases = Function.update store.leases sessionId (some renewed))
  | ended (n : Nat) (sessionId : SessionId) (current : SessionLease)
      (reading : c.time = some n) (nothing : granted store c = none)
      (stored : store.leases sessionId = some current)
      (records : (step store c).leases =
        Function.update store.leases sessionId (some { current with expiresAtMs := n }))

private theorem acquire_effect (store : InMemorySessionLeaseStore) (now ttlMs : Number)
    (randomUUID holder : String) (sessionId : SessionId) :
    Effect store ⟨now, .acquire randomUUID sessionId holder ttlMs⟩ := by
  cases returned : store.acquire now randomUUID sessionId holder ttlMs with
  | error e => exact .kept (by simp [step, settle, returned]) (by simp [granted, returned])
  | ok value =>
    obtain ⟨result, store'⟩ := value
    obtain ⟨n, reading, outcome⟩ := InMemorySessionLeaseStore.acquire_eq_ok returned
    rcases outcome with ⟨current, live, rfl, rfl⟩ | ⟨idle, lease, rfl, rfl, -, fence, -, rfl, -, new, -⟩
    · have stored := (InMemorySessionLeaseStore.liveAt_eq_some.mp live).1
      refine .kept (by simp [step, settle, returned]) ?_
      by_cases own : current.holder = holder <;> simp [granted, returned, own, stored]
    · -- the new fence is one above the stored one, so the lease is not the stored record
      have changed : store.leases lease.sessionId ≠ some lease := by
        intro stored
        simp [InMemorySessionLeaseStore.currentFence, stored] at fence
      exact .granted n lease reading rfl (by simp [granted, returned, changed]) idle fence
        (by simp [step, settle, returned, new])

private theorem renew_effect (store : InMemorySessionLeaseStore) (now fence ttlMs : Number)
    (sessionId : SessionId) (holder generationId : String) :
    Effect store ⟨now, .renew sessionId holder fence ttlMs generationId⟩ := by
  cases returned : store.renew now sessionId holder fence ttlMs generationId with
  | error e => exact .kept (by simp [step, settle, returned]) rfl
  | ok value =>
    obtain ⟨result, store'⟩ := value
    rcases InMemorySessionLeaseStore.renew_eq_ok returned with
      ⟨-, rfl⟩ | ⟨n, f, current, renewed, reading, -, found, live, -, -, -, same, own, rfl⟩
    · exact .kept (by simp [step, settle, returned]) rfl
    · have stored := (InMemorySessionLeaseStore.matching_eq_some.mp found).1
      exact .renewed n sessionId current renewed reading rfl stored live same own
        (by simp [step, settle, returned])

private theorem release_effect (store : InMemorySessionLeaseStore) (now fence : Number)
    (sessionId : SessionId) (holder generationId : String) :
    Effect store ⟨now, .release sessionId holder fence generationId⟩ := by
  cases returned : store.release now sessionId holder fence generationId with
  | error e => exact .kept (by simp [step, settle, returned]) rfl
  | ok value =>
    obtain ⟨⟨⟩, store'⟩ := value
    obtain ⟨f, -, ⟨-, rfl⟩ | ⟨n, current, reading, found, rfl⟩⟩ :=
      InMemorySessionLeaseStore.release_eq_ok returned
    · exact .kept (by simp [step, settle, returned]) rfl
    · have stored := (InMemorySessionLeaseStore.matching_eq_some.mp found).1
      exact .ended n sessionId current reading rfl stored (by simp [step, settle, returned])

theorem effect (store : InMemorySessionLeaseStore) (c : TimedCall) : Effect store c := by
  obtain ⟨now, call⟩ := c
  cases call with
  | acquire randomUUID sessionId holder ttlMs =>
    exact acquire_effect store now ttlMs randomUUID holder sessionId
  | renew sessionId holder fence ttlMs generationId =>
    exact renew_effect store now fence ttlMs sessionId holder generationId
  | release sessionId holder fence generationId =>
    exact release_effect store now fence sessionId holder generationId
  | get sessionId => exact .kept rfl rfl
  | listRecoveryCandidates nowMs limit cursor => exact .kept rfl rfl
  | acknowledgeRecoveryCandidate candidate =>
    refine .kept ?_ rfl
    cases returned : store.acknowledgeRecoveryCandidate now candidate with
    | error e => simp [step, settle, returned, Except.map]
    | ok store' =>
      have same := (InMemorySessionLeaseStore.acknowledgeRecoveryCandidate_leases returned).1
      simp [step, settle, returned, Except.map, same]

/-! ### The records over a run -/

variable {store : InMemorySessionLeaseStore}

theorem stored_step {sessionId : SessionId} {current : SessionLease} (c : TimedCall)
    (stored : store.leases sessionId = some current) :
    ∃ next, (step store c).leases sessionId = some next ∧ current.fence ≤ next.fence := by
  have moved : ∀ (key : SessionId) (next : SessionLease),
      (∀ old, store.leases key = some old → old.fence ≤ next.fence) →
      ∃ result, Function.update store.leases key (some next) sessionId = some result ∧
        current.fence ≤ result.fence := by
    intro key next below
    by_cases same : sessionId = key
    · subst same
      exact ⟨next, Function.update_self .., below current stored⟩
    · exact ⟨current, by rw [Function.update_of_ne same, stored], Nat.le_refl _⟩
  cases effect store c with
  | kept records _ => exact ⟨current, by rw [records, stored], Nat.le_refl _⟩
  | granted n lease _ _ _ _ fence records =>
    rw [records]
    apply moved
    intro old found
    simp only [fence, InMemorySessionLeaseStore.currentFence, found, Option.map_some,
      Option.getD_some]
    omega
  | renewed n key old next _ _ found _ fence _ records =>
    rw [records]
    apply moved
    intro old' found'
    rw [fence, Option.some.inj (found.symm.trans found')]
  | ended n key old _ _ found records =>
    rw [records]
    apply moved
    intro old' found'
    rw [Option.some.inj (found'.symm.trans found)]

variable {c : TimedCall}

theorem generation_step {sessionId : SessionId} {next : SessionLease}
    (stored : (step store c).leases sessionId = some next) :
    (∃ current, store.leases sessionId = some current ∧
      current.generationId = next.generationId) ∨ c.uuid = some next.generationId := by
  cases effect store c with
  | kept records _ => exact Or.inl ⟨next, by rw [← records, stored], rfl⟩
  | granted n lease _ drawn _ _ _ records =>
    rw [records] at stored
    by_cases same : sessionId = lease.sessionId
    · subst same
      rw [Function.update_self] at stored
      exact Or.inr (by rw [drawn, Option.some.inj stored])
    · rw [Function.update_of_ne same] at stored
      exact Or.inl ⟨next, stored, rfl⟩
  | renewed n key old renewed _ _ found _ _ generation records =>
    rw [records] at stored
    by_cases same : sessionId = key
    · subst same
      rw [Function.update_self] at stored
      exact Or.inl ⟨old, found, by rw [← generation, Option.some.inj stored]⟩
    · rw [Function.update_of_ne same] at stored
      exact Or.inl ⟨next, stored, rfl⟩
  | ended n key old _ _ found records =>
    rw [records] at stored
    by_cases same : sessionId = key
    · subst same
      rw [Function.update_self] at stored
      exact Or.inl ⟨old, found, by rw [← Option.some.inj stored]⟩
    · rw [Function.update_of_ne same] at stored
      exact Or.inl ⟨next, stored, rfl⟩

/-- What holds after every run: a granted lease's session has a record whose fence is no smaller,
and every generation stored or granted was drawn by one of the calls. -/
structure Inv (calls : List TimedCall) : Prop where
  held : ∀ lease ∈ grants calls, ∃ current,
    (storeAfter calls).leases lease.sessionId = some current ∧ lease.fence ≤ current.fence
  drawn : ∀ lease ∈ grants calls, lease.generationId ∈ calls.filterMap TimedCall.uuid
  named : ∀ sessionId current, (storeAfter calls).leases sessionId = some current →
    current.generationId ∈ calls.filterMap TimedCall.uuid
  ordered : (grants calls).Pairwise Before

theorem storeAfter_snoc (calls : List TimedCall) (c : TimedCall) :
    storeAfter (calls ++ [c]) = step (storeAfter calls) c :=
  run_snoc ..

theorem grants_snoc (calls : List TimedCall) (c : TimedCall) :
    grants (calls ++ [c]) = grants calls ++ (granted (storeAfter calls) c).toList :=
  history_snoc ..

variable {lease : SessionLease}

theorem granted_effect (given : granted store c = some lease) :
    c.uuid = some lease.generationId ∧ (step store c).leases lease.sessionId = some lease ∧
      lease.fence = store.currentFence lease.sessionId + 1 := by
  cases effect store c with
  | granted n lease' _ drawn given' _ fence records =>
    obtain rfl : lease' = lease := Option.some.inj (given'.symm.trans given)
    exact ⟨drawn, by rw [records, Function.update_self], fence⟩
  | kept _ nothing => simp [nothing] at given
  | renewed _ _ _ _ _ nothing => simp [nothing] at given
  | ended _ _ _ _ nothing => simp [nothing] at given

theorem inv_step {calls : List TimedCall} (inv : Inv calls)
    (fresh : ∀ uuid ∈ c.uuid, uuid ∉ calls.filterMap TimedCall.uuid) : Inv (calls ++ [c]) where
  held := by
    intro lease member
    rw [grants_snoc, List.mem_append, Option.mem_toList] at member
    rw [storeAfter_snoc]
    rcases member with old | new
    · obtain ⟨current, stored, le⟩ := inv.held lease old
      obtain ⟨next, found, le'⟩ := stored_step c stored
      exact ⟨next, found, Nat.le_trans le le'⟩
    · exact ⟨lease, (granted_effect new).2.1, Nat.le_refl _⟩
  drawn := by
    intro lease member
    rw [grants_snoc, List.mem_append, Option.mem_toList] at member
    rw [List.filterMap_append, List.mem_append]
    rcases member with old | new
    · exact Or.inl (inv.drawn lease old)
    · exact Or.inr (by simp [(granted_effect new).1])
  named := by
    intro sessionId next stored
    rw [storeAfter_snoc] at stored
    rw [List.filterMap_append, List.mem_append]
    rcases generation_step stored with ⟨current, found, same⟩ | drawn
    · exact Or.inl (same ▸ inv.named sessionId current found)
    · exact Or.inr (by simp [drawn])
  ordered := by
    rw [grants_snoc, List.pairwise_append]
    refine ⟨inv.ordered, by cases granted (storeAfter calls) c <;> simp, ?_⟩
    intro earlier old later new session
    rw [Option.mem_toList] at new
    obtain ⟨drawn, -, fence⟩ := granted_effect new
    obtain ⟨current, stored, le⟩ := inv.held earlier old
    constructor
    · rw [fence, ← session, InMemorySessionLeaseStore.currentFence, stored, Option.map_some,
        Option.getD_some]
      omega
    · intro same
      exact fresh _ drawn (same ▸ inv.drawn earlier old)

theorem inv_run (calls : List TimedCall) (fresh : (calls.filterMap TimedCall.uuid).Nodup) :
    Inv calls := by
  induction calls using List.reverseRecOn with
  | nil =>
    exact ⟨by simp [grants, history], by simp [grants, history],
      by simp [storeAfter, InMemorySessionLeaseStore.new], by simp [grants, history]⟩
  | append_singleton calls c ih =>
    rw [List.filterMap_append, List.nodup_append] at fresh
    obtain ⟨before, -, apart⟩ := fresh
    apply inv_step (ih before)
    intro uuid drawn old
    exact apart uuid old uuid (by simpa using drawn) rfl

/-! ### A generation that is no longer live -/

/-- A record of this lease's generation, if the session still has it, has expired by `t`. -/
def Past (store : InMemorySessionLeaseStore) (t : Nat) (lease : SessionLease) : Prop :=
  ∀ current, store.leases lease.sessionId = some current →
    current.generationId = lease.generationId → current.expiresAtMs ≤ t

variable {t : Nat}

theorem not_live_iff_past :
    ¬ Live store t lease ↔ Past store t lease := by
  simp only [Live, Past, InMemorySessionLeaseStore.liveAt_eq_some, not_exists, not_and]
  constructor
  · intro none current stored same
    by_contra late
    exact none current ⟨stored, Nat.lt_of_not_le late⟩ same
  · intro past current live same
    exact Nat.not_lt_of_le (past current live.1 same) live.2

/-- A call at or before `t` leaves a past generation past, provided it was past at the call's own
reading (so that no renewal finds it live) and the call does not draw its identifier again. -/
theorem past_step (past : Past store t lease) (atReading : ∀ n ∈ c.time, n ≤ t ∧ Past store n lease)
    (fresh : c.uuid ≠ some lease.generationId) : Past (step store c) t lease := by
  intro next stored same
  cases effect store c with
  | kept records _ => exact past next (records ▸ stored) same
  | granted n new _ drawn _ _ _ records =>
    rw [records] at stored
    by_cases key : lease.sessionId = new.sessionId
    · rw [key, Function.update_self] at stored
      rw [drawn, Option.some.inj stored] at fresh
      exact absurd (congrArg some same) fresh
    · exact past next (by rwa [Function.update_of_ne key] at stored) same
  | renewed n sessionId current renewed reading _ found live _ generation records =>
    rw [records] at stored
    by_cases key : lease.sessionId = sessionId
    · subst key
      rw [Function.update_self] at stored
      obtain rfl : renewed = next := Option.some.inj stored
      have gone := (atReading n reading).2 current found (generation ▸ same)
      exact absurd live (Nat.not_lt_of_le gone)
    · exact past next (by rwa [Function.update_of_ne key] at stored) same
  | ended n sessionId current reading _ found records =>
    rw [records] at stored
    by_cases key : lease.sessionId = sessionId
    · rw [key, Function.update_self] at stored
      rw [← Option.some.inj stored]
      exact (atReading n reading).1
    · exact past next (by rwa [Function.update_of_ne key] at stored) same

theorem Past.mono {t t' : Nat} (past : Past store t lease) (le : t ≤ t') : Past store t' lease :=
  fun current stored same => Nat.le_trans (past current stored same) le

theorem past_run {before after : List TimedCall} (past : Past (storeAfter before) t lease)
    (since : Since TimedCall.time t after) (clock : Nondecreasing TimedCall.time after)
    (fresh : lease.generationId ∉ after.filterMap TimedCall.uuid) :
    ∀ t', t ≤ t' → Upto TimedCall.time after t' → Past (storeAfter (before ++ after)) t' lease := by
  induction after using List.reverseRecOn with
  | nil =>
    intro t' le _
    simpa using past.mono le
  | append_singleton after c ih =>
    intro t' le upto
    rw [since_append, since_singleton] at since
    rw [upto_append, upto_singleton] at upto
    rw [List.filterMap_append, List.mem_append, not_or] at fresh
    obtain ⟨early, -, last⟩ := nondecreasing_append.mp clock
    have sofar := ih since.1 early fresh.1
    rw [← List.append_assoc, storeAfter_snoc]
    apply past_step (sofar t' le upto.1)
    · intro n reading
      exact ⟨upto.2 n reading, sofar n (since.2 n reading) (last n (by simpa using reading))⟩
    · intro drawn
      exact fresh.2 (by simp [drawn])

private theorem fresh_after {before after : List TimedCall} {uuid : String}
    (fresh : ((before ++ after).filterMap TimedCall.uuid).Nodup)
    (drawn : uuid ∈ before.filterMap TimedCall.uuid) : uuid ∉ after.filterMap TimedCall.uuid := by
  rw [List.filterMap_append, List.nodup_append] at fresh
  intro again
  exact fresh.2.2 uuid drawn uuid again rfl

private theorem release_past {now fence : Nat} {holder : String}
    (accepted : (store.release (.int now) lease.sessionId holder (.int fence)
      lease.generationId).isOk)
    (matched : (store.matching lease.sessionId holder fence lease.generationId).isSome) :
    ∃ n, (TimedCall.mk (.int now) (.release lease.sessionId holder (.int fence)
        lease.generationId)).time = some n ∧
      Past (step store ⟨.int now, .release lease.sessionId holder (.int fence)
        lease.generationId⟩) n lease := by
  cases returned : store.release (.int now) lease.sessionId holder (.int fence)
      lease.generationId with
  | error e => simp [returned, Except.isOk, Except.toBool] at accepted
  | ok value =>
    obtain ⟨⟨⟩, store'⟩ := value
    obtain ⟨f, fenceEq, outcome⟩ := InMemorySessionLeaseStore.release_eq_ok returned
    have same : (fence : Int) = f := Number.int.inj fenceEq
    obtain rfl : fence = f := by omega
    rcases outcome with ⟨absent, -⟩ | ⟨n, current, reading, found, rfl⟩
    · simp [absent] at matched
    · refine ⟨n, reading, ?_⟩
      intro next stored _
      simp only [step, settle, returned, InMemorySessionLeaseStore.setLease_leases,
        Function.update_self] at stored
      rw [← Option.some.inj stored]

theorem ended_past {calls : List TimedCall} (clock : Nondecreasing TimedCall.time calls)
    (upto : Upto TimedCall.time calls t) (fresh : (calls.filterMap TimedCall.uuid).Nodup)
    (ended : Ended calls t lease) :
    Past (storeAfter calls) t lease := by
  cases ended with
  | expired current stored _ past =>
    intro next found _
    rwa [← Option.some.inj (stored.symm.trans found)]
  | superseded current stored other =>
    intro next found same
    rw [Option.some.inj (stored.symm.trans found)] at other
    exact absurd same other
  | released before after now fence holder split accepted matched =>
    subst split
    obtain ⟨n, reading, past⟩ := release_past accepted matched
    obtain ⟨current, found⟩ := Option.isSome_iff_exists.mp matched
    obtain ⟨stored, -, -, same⟩ := InMemorySessionLeaseStore.matching_eq_some.mp found
    rw [List.append_cons] at clock upto fresh ⊢
    obtain ⟨-, later, order⟩ := nondecreasing_append.mp clock
    rw [upto_append, upto_append, upto_singleton] at upto
    rw [← storeAfter_snoc] at past
    have drawn := (inv_run before (by
      rw [List.append_assoc, List.filterMap_append, List.nodup_append] at fresh
      exact fresh.1)).named _ _ stored
    apply past_run past _ later _ t (upto.1.2 n reading) upto.2
    · intro m late
      exact order m late n (by simp [reading])
    · apply fresh_after fresh
      rw [List.filterMap_append, List.mem_append]
      exact Or.inl (same ▸ drawn)

/-! ### Fencing -/

theorem step_of_mismatch {sessionId : SessionId} {holder generationId : String} {fence : Number}
    (mismatch : ∀ current, store.leases sessionId = some current →
      current.holder ≠ holder ∨ fence ≠ .int current.fence ∨ current.generationId ≠ generationId)
    (now ttlMs : Number) :
    step store ⟨now, .renew sessionId holder fence ttlMs generationId⟩ = store ∧
      step store ⟨now, .release sessionId holder fence generationId⟩ = store := by
  have noMatch : ∀ n current, fence = .int (n : Nat) →
      store.matching sessionId holder n generationId ≠ some current := by
    rintro n current rfl found
    obtain ⟨stored, sameHolder, rfl, sameGeneration⟩ :=
      InMemorySessionLeaseStore.matching_eq_some.mp found
    rcases mismatch current stored with other | other | other
    · exact other sameHolder
    · exact other rfl
    · exact other sameGeneration
  constructor
  · cases returned : store.renew now sessionId holder fence ttlMs generationId with
    | error e => simp [step, settle, returned]
    | ok value =>
      obtain ⟨result, store'⟩ := value
      rcases InMemorySessionLeaseStore.renew_eq_ok returned with
        ⟨-, rfl⟩ | ⟨-, n, current, -, -, fenceEq, found, -⟩
      · simp [step, settle, returned]
      · exact absurd found (noMatch n current fenceEq)
  · cases returned : store.release now sessionId holder fence generationId with
    | error e => simp [step, settle, returned]
    | ok value =>
      obtain ⟨⟨⟩, store'⟩ := value
      obtain ⟨n, fenceEq, ⟨-, rfl⟩ | ⟨-, current, -, found, -⟩⟩ :=
        InMemorySessionLeaseStore.release_eq_ok returned
      · simp [step, settle, returned]
      · exact absurd found (noMatch n current fenceEq)

theorem live_unique {calls : List TimedCall} {x y : SessionLease}
    (fresh : (calls.filterMap TimedCall.uuid).Nodup) (xGranted : x ∈ grants calls)
    (yGranted : y ∈ grants calls) (session : x.sessionId = y.sessionId)
    (xLive : Live (storeAfter calls) t x) (yLive : Live (storeAfter calls) t y) : x = y := by
  obtain ⟨current, stored, xSame⟩ := xLive
  obtain ⟨current', stored', ySame⟩ := yLive
  rw [← session, stored, Option.some.injEq] at stored'
  have generation : x.generationId = y.generationId := by rw [← xSame, ← ySame, stored']
  by_contra apart
  have ordered : ∀ a ∈ grants calls, ∀ b ∈ grants calls, a ≠ b → Before a b ∨ Before b a := by
    intro a ha b hb ne
    apply List.Pairwise.forall_of_forall_of_flip (R := fun a b => a ≠ b → Before a b ∨ Before b a)
      _ _ _ ha hb ne
    · intro a _ ne
      exact absurd rfl ne
    · exact (inv_run calls fresh).ordered.imp fun before _ => Or.inl before
    · exact (inv_run calls fresh).ordered.imp fun before _ => Or.inr before
  rcases ordered x xGranted y yGranted apart with before | before
  · exact (before session).2 generation
  · exact (before session.symm).2 generation.symm

/-- Fencing of every run with a clock that never goes back and fresh generation identifiers: at
every moment at most one granted lease of a session is live; the grants of a session carry
increasing fences and distinct generations; a generation that has expired, been released or been
superseded by a moment is not live at any later one; and a renewal or release that does not match
changes nothing. -/
theorem lease_fencing (calls : List TimedCall) (clock : Nondecreasing TimedCall.time calls)
    (fresh : (calls.filterMap TimedCall.uuid).Nodup) :
    (∀ t, Upto TimedCall.time calls t → ∀ x ∈ grants calls, ∀ y ∈ grants calls,
      x.sessionId = y.sessionId → Live (storeAfter calls) t x → Live (storeAfter calls) t y →
        x = y) ∧
    (grants calls).Pairwise Before ∧
    (∀ before after t lease, calls = before ++ after → lease ∈ grants before →
      Upto TimedCall.time before t → Since TimedCall.time t after → Ended before t lease →
        ∀ t', t ≤ t' → Upto TimedCall.time calls t' → ¬ Live (storeAfter calls) t' lease) ∧
    (∀ sessionId holder generationId fence,
      (∀ current, (storeAfter calls).leases sessionId = some current →
        current.holder ≠ holder ∨ fence ≠ .int current.fence ∨
          current.generationId ≠ generationId) →
      ∀ now ttlMs,
        step (storeAfter calls) ⟨now, .renew sessionId holder fence ttlMs generationId⟩ =
            storeAfter calls ∧
          step (storeAfter calls) ⟨now, .release sessionId holder fence generationId⟩ =
            storeAfter calls) := by
  refine ⟨?_, (inv_run calls fresh).ordered, ?_, fun _ _ _ _ => step_of_mismatch⟩
  · intro t _ x xGranted y yGranted session
    exact live_unique fresh xGranted yGranted session
  · rintro before after t lease rfl member upto since ended t' le upto'
    have freshBefore : (before.filterMap TimedCall.uuid).Nodup := by
      rw [List.filterMap_append, List.nodup_append] at fresh
      exact fresh.1
    rw [not_live_iff_past]
    apply past_run _ since (nondecreasing_append.mp clock).2.1 _ t' le (upto_append.mp upto').2
    · exact ended_past clock.before upto freshBefore ended
    · exact fresh_after fresh ((inv_run before freshBefore).drawn lease member)

/-- A lease expires, its holder renews too late, another holder takes over at the same reading
and the first one's release arrives after that. -/
def lateRelease : List TimedCall :=
  [⟨.int 0, .acquire "first" "call" "worker-a" (.int 10)⟩,
    ⟨.int 20, .renew "call" "worker-a" (.int 1) (.int 10) "first"⟩,
    ⟨.int 20, .acquire "second" "call" "worker-b" (.int 10)⟩,
    ⟨.int 25, .release "call" "worker-a" (.int 1) "first"⟩]

theorem lease_fencing_lateRelease :
    (grants lateRelease).Pairwise Before ∧
      ¬ Live (storeAfter lateRelease) 25 ⟨"call", "worker-a", 1, "first", 0, 0, 10⟩ := by
  have clock : Nondecreasing TimedCall.time lateRelease := by
    unfold Nondecreasing
    decide
  obtain ⟨-, ordered, ends, -⟩ := lease_fencing lateRelease clock (by decide)
  refine ⟨ordered, ?_⟩
  have superseded : Ended (lateRelease.take 3) 20 ⟨"call", "worker-a", 1, "first", 0, 0, 10⟩ :=
    .superseded ⟨"call", "worker-b", 2, "second", 20, 20, 30⟩ rfl (by decide)
  apply ends (lateRelease.take 3) (lateRelease.drop 3) 20 _ rfl (by decide) _ _ superseded 25
  · decide
  · unfold Upto
    decide
  · unfold Upto
    decide
  · unfold Since
    decide

end Tvic.LeaseFencing
