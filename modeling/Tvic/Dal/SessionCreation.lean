import Tvic.Dal.LeaseFencing
import Tvic.Dal.SessionSerialization

/-!
# What a failed session creation does to leases

`createSessionWithLease` rolls back when it throws. Where the session was stored already it
compares the lease with the one that was live before, and gives up only a lease it acquired itself.
Where the session was not stored, it gives up whatever lease its holder has by then.

Leases come and go with the clock, so the comparison is made at a moment that no reading of the
call is later than.
-/
namespace Tvic

open Lib

variable {t nowMs : Nat} {sessionId : SessionId} {holder : String}

namespace InMemorySessionLeaseStore

variable {leases leases' : InMemorySessionLeaseStore} {lease : SessionLease} {now : Number}

theorem assertOpen_eq_ok {result : Unit} (passed : leases.assertOpen = .ok result) :
    leases.closed = false := by
  unfold assertOpen at passed
  split at passed
  · cases passed
  next isOpen => simpa using isOpen

theorem live_earlier (early : nowMs ≤ t) (live : leases.liveAt sessionId t = some lease) :
    leases.liveAt sessionId nowMs = some lease := by
  rw [liveAt_eq_some] at live ⊢
  exact ⟨live.1, Nat.lt_of_le_of_lt early live.2⟩

theorem not_live_later (early : nowMs ≤ t) (ended : leases.liveAt sessionId nowMs = none) :
    leases.liveAt sessionId t = none := by
  cases live : leases.liveAt sessionId t with
  | none => rfl
  | some lease =>
    rw [live_earlier early live] at ended
    cases ended

/-! ### Fences that can be given back -/

def WellFenced (leases : InMemorySessionLeaseStore) : Prop :=
  ∀ sessionId lease, leases.leases sessionId = some lease →
    1 ≤ lease.fence ∧ lease.fence ≤ maxSafeInteger

theorem wellFenced_new : WellFenced .new := by
  intro sessionId lease stored
  cases stored

theorem WellFenced.update (fenced : WellFenced leases)
    (fence : 1 ≤ lease.fence ∧ lease.fence ≤ maxSafeInteger)
    (stored : leases'.leases = Function.update leases.leases sessionId (some lease)) :
    WellFenced leases' := by
  intro other found held
  rw [stored] at held
  by_cases same : other = sessionId
  · subst same
    rw [Function.update_self] at held
    cases held
    exact fence
  · rw [Function.update_of_ne same] at held
    exact fenced other found held

theorem WellFenced.step (fenced : WellFenced leases) (call : LeaseFencing.TimedCall) :
    WellFenced (LeaseFencing.step leases call) := by
  obtain ⟨now, call⟩ := call
  cases call with
  | acquire randomUUID sessionId holder ttlMs =>
    cases returned : leases.acquire now randomUUID sessionId holder ttlMs with
    | error e => simpa [LeaseFencing.step, LeaseFencing.settle, returned] using fenced
    | ok value =>
      suffices WellFenced value.2 by
        simpa [LeaseFencing.step, LeaseFencing.settle, returned] using this
      obtain ⟨nowMs, -, ⟨current, -, -, same⟩ | ⟨-, lease, -, -, -, fence, safe, -, -, stored, -⟩⟩ :=
        acquire_eq_ok returned
      · exact same ▸ fenced
      · exact fenced.update ⟨by omega, safe⟩ stored
  | renew sessionId holder fence ttlMs generationId =>
    cases returned : leases.renew now sessionId holder fence ttlMs generationId with
    | error e => simpa [LeaseFencing.step, LeaseFencing.settle, returned] using fenced
    | ok value =>
      suffices WellFenced value.2 by
        simpa [LeaseFencing.step, LeaseFencing.settle, returned] using this
      obtain ⟨-, same⟩ | ⟨nowMs, n, current, renewed, -, -, found, -, -, -, -, fence, -, stored⟩ :=
        renew_eq_ok returned
      · exact same ▸ fenced
      · have held := fenced _ _ (matching_eq_some.mp found).1
        exact fenced.update (fence ▸ held) (congrArg InMemorySessionLeaseStore.leases stored)
  | release sessionId holder fence generationId =>
    cases returned : leases.release now sessionId holder fence generationId with
    | error e => simpa [LeaseFencing.step, LeaseFencing.settle, returned] using fenced
    | ok value =>
      suffices WellFenced value.2 by
        simpa [LeaseFencing.step, LeaseFencing.settle, returned] using this
      obtain ⟨n, -, ⟨-, same⟩ | ⟨nowMs, current, -, found, stored⟩⟩ := release_eq_ok returned
      · exact same ▸ fenced
      · have held := fenced _ _ (matching_eq_some.mp found).1
        refine fenced.update ?_ (congrArg InMemorySessionLeaseStore.leases stored)
        exact held
  | get sessionId => exact fenced
  | listRecoveryCandidates nowMs limit cursor => exact fenced
  | acknowledgeRecoveryCandidate candidate =>
    cases returned : leases.acknowledgeRecoveryCandidate now candidate with
    | error e =>
      simpa [LeaseFencing.step, LeaseFencing.settle, returned, Except.map] using fenced
    | ok leases' =>
      suffices WellFenced leases' by
        simpa [LeaseFencing.step, LeaseFencing.settle, returned, Except.map] using this
      intro other found held
      rw [(acknowledgeRecoveryCandidate_leases returned).1] at held
      exact fenced other found held

theorem wellFenced_run (calls : List LeaseFencing.TimedCall) :
    WellFenced (LeaseFencing.storeAfter calls) := by
  apply run_invariant LeaseFencing.step WellFenced
  · intro leases call fenced
    exact fenced.step call
  · exact wellFenced_new

/-! ### The lease calls of a creation -/

/-- What `getCurrent`, with its rejection taken for `null`, tells of the store. -/
structure SeenLive (t : Nat) (sessionId : SessionId) (leases : InMemorySessionLeaseStore)
    (active : Option SessionLease) : Prop where
  whenClosed : leases.closed = true → active = none
  whenOpen : leases.closed = false → ∃ nowMs ≤ t, active = leases.liveAt sessionId nowMs

/-- A lease that `acquire` made anew: none was live, and the store holds this one now. -/
structure Acquired (t : Nat) (sessionId : SessionId) (holder : String)
    (leases : InMemorySessionLeaseStore) (lease : SessionLease)
    (leases' : InMemorySessionLeaseStore) : Prop where
  idle : leases.liveAt sessionId t = none
  own : lease.holder = holder
  fence : lease.fence = leases.currentFence sessionId + 1
  safe : lease.fence ≤ maxSafeInteger
  stored : leases'.leases = Function.update leases.leases sessionId (some lease)
  isOpen : leases'.closed = false

/-- What `acquire` answers with a lease: the live one of the same holder again, or a new one. -/
structure Granted (t : Nat) (sessionId : SessionId) (holder : String)
    (leases : InMemorySessionLeaseStore) (lease : SessionLease)
    (leases' : InMemorySessionLeaseStore) : Prop where
  isOpen : leases.closed = false
  outcome : leases' = leases ∧ (∃ nowMs ≤ t, leases.liveAt sessionId nowMs = some lease) ∧
      lease.holder = holder ∨
    Acquired t sessionId holder leases lease leases'

/-- A session's lease is over, and those of the others are as they were. -/
structure Ended (t : Nat) (sessionId : SessionId) (leases leases' : InMemorySessionLeaseStore) :
    Prop where
  gone : leases'.liveAt sessionId t = none
  others : ∀ other, other ≠ sessionId → leases'.leases other = leases.leases other

theorem acquire_grants {randomUUID : String} {ttlMs : Number}
    (clock : now.safeInteger? 0 = some nowMs) (early : nowMs ≤ t)
    (returned : leases.acquire now randomUUID sessionId holder ttlMs = .ok (some lease, leases')) :
    Granted t sessionId holder leases lease leases' := by
  obtain ⟨passed, isOpen, -⟩ := bind_eq_ok.mp returned
  have isOpen := assertOpen_eq_ok isOpen
  obtain ⟨n, reading, outcome⟩ := acquire_eq_ok returned
  obtain rfl : nowMs = n := Option.some.inj (clock.symm.trans reading)
  refine ⟨isOpen, ?_⟩
  rcases outcome with ⟨current, live, given, same⟩ |
    ⟨idle, granted, given, -, own, fence, safe, -, -, stored, closed⟩
  · left
    split at given
    next own =>
      obtain rfl := Option.some.inj given
      exact ⟨same, ⟨nowMs, early, live⟩, own⟩
    · cases given
  · right
    obtain rfl := Option.some.inj given
    exact ⟨not_live_later early idle, own, fence, safe, stored, closed.trans isOpen⟩

namespace Granted

section

variable (granted : Granted t sessionId holder leases lease leases')
include granted

theorem holds :
    leases'.closed = false ∧ leases'.leases sessionId = some lease ∧ lease.holder = holder := by
  obtain ⟨isOpen, ⟨rfl, ⟨nowMs, -, live⟩, own⟩ | acquired⟩ := granted
  · exact ⟨isOpen, (liveAt_eq_some.mp live).1, own⟩
  · refine ⟨acquired.isOpen, ?_, acquired.own⟩
    rw [acquired.stored, Function.update_self]

theorem fence (fenced : WellFenced leases) : 1 ≤ lease.fence ∧ lease.fence ≤ maxSafeInteger := by
  rcases granted.outcome with ⟨rfl, -, -⟩ | acquired
  · exact fenced _ _ granted.holds.2.1
  · exact ⟨by have := acquired.fence; omega, acquired.safe⟩

theorem others {other : SessionId} (different : other ≠ sessionId) :
    leases'.leases other = leases.leases other := by
  rcases granted.outcome with ⟨rfl, -, -⟩ | acquired
  · rfl
  · rw [acquired.stored, Function.update_of_ne different]

/-- A lease that differs from the one seen before the call was not live then; one that does not
differ was there already, as a new one has a fence above it. -/
theorem compared {leaseBefore : Option SessionLease}
    (seen : SeenLive t sessionId leases leaseBefore) :
    if leaseBefore.all fun before => decide (before.fence ≠ lease.fence ∨ before.holder ≠ holder)
    then leases.liveAt sessionId t = none else leases' = leases := by
  obtain ⟨nowMs, early, rfl⟩ := seen.whenOpen granted.isOpen
  cases found : leases.liveAt sessionId nowMs with
  | none => simpa using not_live_later early found
  | some current =>
    have stored := (liveAt_eq_some.mp found).1
    rcases granted.outcome with ⟨rfl, -, own⟩ | acquired
    · have same := granted.holds.2.1
      rw [stored] at same
      obtain rfl := Option.some.inj same
      simp [own]
    · have fence := acquired.fence
      rw [currentFence, stored] at fence
      have different : current.fence ≠ lease.fence := by
        simp only [Option.map_some, Option.getD_some] at fence
        omega
      simpa [different] using acquired.idle

end

end Granted

theorem release_ends (clock : now.safeInteger? 0 = some nowMs) (early : nowMs ≤ t)
    (isOpen : leases.closed = false) (stored : leases.leases sessionId = some lease)
    (fence : 1 ≤ lease.fence ∧ lease.fence ≤ maxSafeInteger) :
    ∃ leases', leases.release now sessionId lease.holder (.int lease.fence) lease.generationId =
        .ok ((), leases') ∧
      Ended t sessionId leases leases' := by
  have found : leases.matching sessionId lease.holder lease.fence lease.generationId =
      some lease := matching_eq_some.mpr ⟨stored, rfl, rfl, rfl⟩
  refine ⟨leases.setLease sessionId { lease with expiresAtMs := nowMs }, ?_, ?_, ?_⟩
  · simp [release, assertOpen, isOpen, assertLeaseFence, assertLeaseTimestampMs, assertSafeInteger,
      fence.1, fence.2, clock, found, bind, Except.bind]
  · simp [liveAt, Option.filter_eq_none_iff, early]
  · intro other different
    exact Function.update_of_ne different ..

end InMemorySessionLeaseStore

namespace InMemoryDurableRuntime

open InMemorySessionLeaseStore SessionSerialization

variable {S T C η χ α : Type} {codec : DalCodec S T C η}
  {leases : InMemorySessionLeaseStore} {before : InMemoryDurableRuntimeStore S T C η}

/-- A clock that works: its reading is a timestamp, and no later than `t`. -/
def ReadsBy (t : Nat) (env : Env χ) : Prop :=
  ∃ nowMs, env.now.safeInteger? 0 = some nowMs ∧ nowMs ≤ t

def SameLive (t : Nat) (leases leases' : InMemorySessionLeaseStore) : Prop :=
  ∀ sessionId, leases'.liveAt sessionId t = leases.liveAt sessionId t

theorem SameLive.refl (leases : InMemorySessionLeaseStore) : SameLive t leases leases :=
  fun _ => rfl

/-- What a rejection of the new-session branch does to leases: it ends the session's one where it
belongs to the holder of the call. -/
structure GivesUp (t : Nat) (sessionId : SessionId) (holder : String)
    (leases leases' : InMemorySessionLeaseStore) : Prop where
  whenClosed : leases.closed = true → leases' = leases
  whenOpen : leases.closed = false → leases'.liveAt sessionId t =
    (leases.liveAt sessionId t).filter fun lease => lease.holder ≠ holder
  others : ∀ other, other ≠ sessionId → leases'.leases other = leases.leases other

theorem GivesUp.sameLive_iff {leases' : InMemorySessionLeaseStore}
    (givesUp : GivesUp t sessionId holder leases leases') :
    SameLive t leases leases' ↔ leases.closed = true ∨
      ∀ lease, leases.liveAt sessionId t = some lease → lease.holder ≠ holder := by
  cases closed : leases.closed with
  | true =>
    rw [givesUp.whenClosed closed]
    exact iff_of_true (.refl _) (.inl rfl)
  | false =>
    have live := givesUp.whenOpen closed
    constructor
    · intro same
      right
      intro lease found own
      rw [same sessionId, found] at live
      simp [Option.filter, own] at live
    · rintro (⟨⟨⟩⟩ | foreign) other
      by_cases different : other = sessionId
      · subst different
        cases found : leases.liveAt other t with
        | none => rw [live, found, Option.filter_none]
        | some lease => simp [live, found, Option.filter, foreign lease found]
      · rw [liveAt, liveAt, givesUp.others other different]

/-! ### The steps, as triples -/

abbrev Holding (leases : InMemorySessionLeaseStore) (store : InMemoryDurableRuntimeStore S T C η) :
    Prop :=
  store.rawLeases = leases

variable {pre : InMemoryDurableRuntimeStore S T C η → Prop}
  {post : α → InMemoryDurableRuntimeStore S T C η → Prop}
  {raised : DalError → InMemoryDurableRuntimeStore S T C η → Prop}

theorem reading_on {f : Env χ → InMemoryDurableRuntimeStore S T C η → Except DalError α}
    (resolved : ∀ env s a, ReadsBy t env → pre s → f env s = .ok a → post a s)
    (rejected : ∀ env s e, ReadsBy t env → pre s → f env s = .error e → raised e s) :
    TripleOn (ReadsBy t) pre (reading f) post raised := by
  apply TripleOn.atomic
  intro env s clock holds
  cases found : f env s with
  | ok a => exact resolved env s a clock holds found
  | error e => exact rejected env s e clock holds found

theorem leasing_on
    {f : Env χ → InMemorySessionLeaseStore → Except DalError (α × InMemorySessionLeaseStore)}
    (resolved : ∀ env s a leases, ReadsBy t env → pre s → f env s.rawLeases = .ok (a, leases) →
      post a { s with rawLeases := leases })
    (rejected : ∀ env s e, ReadsBy t env → pre s → f env s.rawLeases = .error e → raised e s) :
    TripleOn (ReadsBy t) pre (leasing f) post raised := by
  apply TripleOn.atomic
  intro env s clock holds
  cases found : f env s.rawLeases with
  | ok value => exact resolved env s value.1 value.2 clock holds found
  | error e => exact rejected env s e clock holds found

theorem ignoringGet_triple :
    TripleOn (ReadsBy t) (Holding leases)
      (ignoring (leasesGet sessionId) none : Operation S T C η χ (Option SessionLease))
      (fun active s => Holding leases s ∧ SeenLive t sessionId leases active) raised := by
  have get : TripleOn (ReadsBy t) (Holding leases)
      (leasesGet sessionId : Operation S T C η χ (Option SessionLease))
      (fun active s => Holding leases s ∧ SeenLive t sessionId leases active)
      fun _ s => Holding leases s ∧ leases.closed = true := by
    apply reading_on
    · rintro env s active ⟨nowMs, clock, early⟩ rfl found
      obtain ⟨passed, opened, -⟩ := bind_eq_ok.mp found
      have isOpen := assertOpen_eq_ok opened
      rw [(Number.safeInteger?_eq_some clock).1] at found
      refine ⟨rfl, fun closed => ?_, fun _ => ⟨nowMs, early, getCurrent_eq_ok found⟩⟩
      rw [isOpen] at closed
      cases closed
    · rintro env s e ⟨nowMs, clock, early⟩ rfl found
      refine ⟨rfl, ?_⟩
      -- on an open store only a bad reading could reject
      by_contra isOpen
      simp only [getCurrent, assertOpen, isOpen, assertLeaseTimestampMs, assertSafeInteger, clock,
        bind, Except.bind, if_false] at found
      split at found <;> cases found
  refine TripleOn.tryCatch get fun _ => TripleOn.pure ?_
  rintro s ⟨holding, closed⟩
  refine ⟨holding, fun _ => rfl, ?_⟩
  intro isOpen
  rw [closed] at isOpen
  cases isOpen

theorem leasesAcquire_triple (holder : String) {ttlMs : Number} :
    TripleOn (ReadsBy t) (Holding leases)
      (leasesAcquire sessionId holder ttlMs : Operation S T C η χ (Option SessionLease))
      (fun granted s => ∀ lease, granted = some lease →
        Granted t sessionId holder leases lease s.rawLeases)
      fun _ => Holding leases := by
  apply leasing_on
  · rintro env s granted leases' ⟨nowMs, clock, early⟩ rfl returned lease rfl
    exact acquire_grants clock early returned
  · intro env s e clock holding failed
    exact holding

theorem ignoringRelease_triple {lease : SessionLease}
    (isOpen : leases.closed = false) (stored : leases.leases sessionId = some lease)
    (fence : 1 ≤ lease.fence ∧ lease.fence ≤ maxSafeInteger) :
    TripleOn (ReadsBy t) (Holding leases)
      (ignoring (leasesRelease sessionId lease.holder (.int lease.fence) lease.generationId) () :
        Operation S T C η χ Unit)
      (fun _ s => Ended t sessionId leases s.rawLeases) raised := by
  have release : TripleOn (ReadsBy t) (Holding leases)
      (leasesRelease sessionId lease.holder (.int lease.fence) lease.generationId :
        Operation S T C η χ Unit)
      (fun _ s => Ended t sessionId leases s.rawLeases) fun _ _ => False := by
    apply leasing_on
    · rintro env s ⟨⟩ leases' ⟨nowMs, clock, early⟩ rfl returned
      obtain ⟨given, released, ended⟩ := release_ends clock early isOpen stored fence
      rw [released] at returned
      cases returned
      exact ended
    · rintro env s e ⟨nowMs, clock, early⟩ rfl failed
      obtain ⟨given, released, -⟩ := release_ends clock early isOpen stored fence
      rw [released] at failed
      cases failed
  exact TripleOn.tryCatch release fun _ => TripleOn.pure fun _ => False.elim

/-! ### The two branches -/

theorem appendInitial_on {initialEvent : SessionLease → Except DalError (DurableOutboxEvent η)}
    {lease : SessionLease} :
    TripleOn (ReadsBy t) (Holding leases)
      (appendInitial codec sessionId initialEvent lease : Operation S T C η χ Unit)
      (fun _ _ => True) fun _ => Holding leases :=
  .of_triple (appendInitial_triple _ _)

theorem rollBack_on {leases' : InMemorySessionLeaseStore} {lease : SessionLease}
    {leaseBefore : Option SessionLease} (fenced : WellFenced leases)
    (seen : SeenLive t sessionId leases leaseBefore)
    (granted : Granted t sessionId holder leases lease leases') (error : DalError) :
    TripleOn (ReadsBy t) (Holding leases')
      (do
        let fresh := leaseBefore.all fun before =>
          decide (before.fence ≠ lease.fence ∨ before.holder ≠ holder)
        if fresh then
          ignoring (leasesRelease sessionId holder (.int lease.fence) lease.generationId) ()
        throw error : Operation S T C η χ Unit)
      (fun _ _ => True) fun _ s => SameLive t leases s.rawLeases := by
  obtain ⟨isOpen, stored, own⟩ := granted.holds
  have compared := granted.compared seen
  dsimp only
  split
  next fresh =>
    rw [if_pos fresh] at compared
    refine TripleOn.bind (own ▸ ignoringRelease_triple isOpen stored (granted.fence fenced))
      fun _ => TripleOn.throw ?_
    intro s ended other
    by_cases same : other = sessionId
    · rw [same, ended.gone, compared]
    · rw [liveAt, liveAt, ended.others other same, granted.others same]
  next old =>
    rw [if_neg old] at compared
    refine TripleOn.throw ?_
    rintro s rfl
    exact compared ▸ .refl _

theorem attachLease_on (fenced : WellFenced leases) (record existing : S) (ttlMs : Number)
    (initialEvent : Option (SessionLease → Except DalError (DurableOutboxEvent η))) :
    TripleOn (ReadsBy t) (Holding leases)
      (attachLease codec record existing holder ttlMs initialEvent :
        Operation S T C η χ (Option SessionLease))
      (fun _ _ => True) fun _ s => SameLive t leases s.rawLeases := by
  have unchanged : ∀ s : InMemoryDurableRuntimeStore S T C η, Holding leases s →
      SameLive t leases s.rawLeases := by
    rintro s rfl
    exact .refl _
  unfold attachLease
  dsimp only
  split
  · refine TripleOn.bind ignoringGet_triple fun leaseBefore =>
      TripleOn.given (fun _ seen => seen.2) fun seen => ?_
    refine TripleOn.bind ((leasesAcquire_triple holder).consequence
      (fun _ holds => holds.1) (fun _ _ => id) fun _ => unchanged) fun granted => ?_
    split
    next lease initialEvent =>
      refine TripleOn.bind ?_ fun _ => TripleOn.pure fun _ => id
      refine (TripleOn.fixing (·.rawLeases) fun leases' granted => ?_).consequence
        (fun _ holds => holds lease rfl) (fun _ _ => id) fun _ _ => id
      exact TripleOn.tryCatch appendInitial_on (rollBack_on fenced seen granted)
    · exact TripleOn.pure fun _ _ => trivial
  · exact TripleOn.throw unchanged

/-- What the new-session branch has done to the leases when it comes to roll back. -/
def Reached (t : Nat) (sessionId : SessionId) (holder : String)
    (leases leases' : InMemorySessionLeaseStore) : Prop :=
  leases' = leases ∨ ∃ lease, Granted t sessionId holder leases lease leases'

namespace Reached

variable {leases' : InMemorySessionLeaseStore} {active : Option SessionLease}

section

variable (reached : Reached t sessionId holder leases leases')
include reached

theorem same_or_acquired :
    leases' = leases ∨
      leases.closed = false ∧ ∃ lease, Acquired t sessionId holder leases lease leases' := by
  obtain same | ⟨lease, isOpen, ⟨same, -⟩ | acquired⟩ := reached
  · exact .inl same
  · exact .inl same
  · exact .inr ⟨isOpen, lease, acquired⟩

theorem fenced (fenced : WellFenced leases) :
    WellFenced leases' := by
  obtain rfl | ⟨-, lease, acquired⟩ := reached.same_or_acquired
  · exact fenced
  · exact fenced.update ⟨by have := acquired.fence; omega, acquired.safe⟩ acquired.stored

theorem others {other : SessionId} (different : other ≠ sessionId) :
    leases'.leases other = leases.leases other := by
  obtain rfl | ⟨-, lease, acquired⟩ := reached.same_or_acquired
  · rfl
  · rw [acquired.stored, Function.update_of_ne different]

theorem givesUp (seen : SeenLive t sessionId leases' active)
    (foreign : ∀ lease, active = some lease → lease.holder ≠ holder) :
    GivesUp t sessionId holder leases leases' := by
  refine ⟨fun closed => ?_, fun isOpen => ?_, fun _ => reached.others⟩
  · obtain same | ⟨isOpen, -⟩ := reached.same_or_acquired
    · exact same
    · rw [closed] at isOpen
      cases isOpen
  · obtain rfl | ⟨-, lease, acquired⟩ := reached.same_or_acquired
    · obtain ⟨nowMs, early, rfl⟩ := seen.whenOpen isOpen
      cases live : leases'.liveAt sessionId t with
      | none => rfl
      | some lease => simp [Option.filter, foreign lease (live_earlier early live)]
    · obtain ⟨nowMs, early, rfl⟩ := seen.whenOpen acquired.isOpen
      rw [acquired.idle, Option.filter_none]
      refine not_live_later early ?_
      -- a live lease would be the acquired one, which is the holder's
      by_contra live
      obtain ⟨current, live⟩ := Option.ne_none_iff_exists'.mp live
      have stored := (liveAt_eq_some.mp live).1
      rw [acquired.stored, Function.update_self] at stored
      obtain rfl := Option.some.inj stored
      exact foreign _ live acquired.own

theorem givesUp_of_ended {leases'' : InMemorySessionLeaseStore} {current : SessionLease}
    (seen : SeenLive t sessionId leases' (some current)) (own : current.holder = holder)
    (ended : Ended t sessionId leases' leases'') : GivesUp t sessionId holder leases leases'' := by
  have isOpen : leases'.closed = false := by
    by_contra closed
    cases seen.whenClosed (by simpa using closed)
  refine ⟨fun closed => ?_, fun _ => ?_, fun other different => ?_⟩
  · obtain rfl | ⟨isOpen', -⟩ := reached.same_or_acquired
    · rw [closed] at isOpen
      cases isOpen
    · rw [closed] at isOpen'
      cases isOpen'
  · symm
    rw [ended.gone, Option.filter_eq_none_iff]
    intro lease live
    obtain rfl | ⟨-, lease', acquired⟩ := reached.same_or_acquired
    · obtain ⟨nowMs, early, now⟩ := seen.whenOpen isOpen
      rw [live_earlier early live] at now
      obtain rfl := Option.some.inj now
      simpa using own
    · rw [acquired.idle] at live
      cases live
  · exact (ended.others other different).trans (reached.others different)

end

end Reached

theorem restore_on {leases' : InMemorySessionLeaseStore} (fenced : WellFenced leases)
    (reached : Reached t sessionId holder leases leases') (error : DalError) :
    TripleOn (ReadsBy t) (Holding leases')
      (do
        let lease ← ignoring (leasesGet sessionId) none
        match lease with
        | some current =>
          if current.holder = holder then
            ignoring (leasesRelease sessionId holder (.int current.fence) current.generationId) ()
        | none => pure ()
        restoreSession sessionId none
        throw error : Operation S T C η χ (Option SessionLease))
      (fun _ _ => True) fun _ s => GivesUp t sessionId holder leases s.rawLeases := by
  have remove : TripleOn (ReadsBy t) (fun s => GivesUp t sessionId holder leases s.rawLeases)
      (do restoreSession sessionId none; throw error : Operation S T C η χ (Option SessionLease))
      (fun _ _ => True) fun _ s => GivesUp t sessionId holder leases s.rawLeases := by
    refine TripleOn.bind (.of_triple (writing_triple _)) fun _ => TripleOn.throw ?_
    rintro _ ⟨s, givesUp, rfl⟩
    exact givesUp
  refine TripleOn.bind ignoringGet_triple fun active => TripleOn.given (fun _ seen => seen.2)
    fun seen => ?_
  have unchanged : ∀ s : InMemoryDurableRuntimeStore S T C η,
      (∀ lease, active = some lease → lease.holder ≠ holder) →
      Holding leases' s ∧ SeenLive t sessionId leases' active →
      GivesUp t sessionId holder leases s.rawLeases := by
    rintro s foreign ⟨rfl, -⟩
    exact reached.givesUp seen foreign
  split
  next current =>
    split
    next own =>
      have isOpen : leases'.closed = false := by
        by_contra closed
        cases seen.whenClosed (by simpa using closed)
      obtain ⟨nowMs, -, live⟩ := seen.whenOpen isOpen
      have stored := (liveAt_eq_some.mp live.symm).1
      have fence := reached.fenced fenced sessionId current stored
      subst own
      exact TripleOn.bind ((ignoringRelease_triple isOpen stored fence).consequence
        (fun _ holds => holds.1) (fun _ _ ended => reached.givesUp_of_ended seen rfl ended)
        fun _ _ => id) fun _ => remove
    next other =>
      refine remove.consequence (fun s => unchanged s ?_) (fun _ _ => id) fun _ _ => id
      rintro lease ⟨⟩
      exact other
  next => exact remove.consequence (fun s => unchanged s nofun) (fun _ _ => id) fun _ _ => id

theorem insertWithLease_on (fenced : WellFenced leases) (record : S) (ttlMs : Number)
    (initialEvent : Option (SessionLease → Except DalError (DurableOutboxEvent η))) :
    TripleOn (ReadsBy t) (Holding leases)
      (insertWithLease codec record holder ttlMs initialEvent :
        Operation S T C η χ (Option SessionLease))
      (fun _ _ => True) fun _ s => GivesUp t (codec.session.id record) holder leases s.rawLeases := by
  refine TripleOn.tryCatch (TripleOn.bind
    (?_ : TripleOn (ReadsBy t) (Holding leases) _ (fun _ => Holding leases)
      fun _ s => Reached t (codec.session.id record) holder leases s.rawLeases) fun _ => TripleOn.bind
    ((leasesAcquire_triple holder).consequence (fun _ => id) (fun _ _ => id)
      fun _ _ same => .inl same) fun granted => ?_) fun error => ?_
  · apply TripleOn.atomic
    rintro _ s - rfl
    cases InMemorySessionStore.put codec.session s.sessions record with
    | ok sessions => rfl
    | error e => exact .inl rfl
  · split
    · exact TripleOn.bind (.of_triple (writing_triple _)) fun _ => TripleOn.pure fun _ _ => trivial
    next lease initialEvent =>
      refine TripleOn.bind ?_ fun _ => TripleOn.pure fun _ => id
      refine (TripleOn.fixing (·.rawLeases) fun leases' granted => ?_).consequence
        (fun _ holds => holds lease rfl) (fun _ _ => id) fun _ _ => id
      refine appendInitial_on.consequence (fun _ => id) (fun _ _ => id) ?_
      rintro _ s rfl
      exact .inr ⟨lease, granted⟩
    · exact TripleOn.pure fun _ _ => trivial
  · exact TripleOn.fixing InMemoryDurableRuntimeStore.rawLeases fun leases' reached =>
      restore_on fenced reached error

/-! ### A failed creation -/

/-- The condition under which nobody's lease is taken: nothing could be touched, the session was
stored already, or the holder of the call had no lease on it that outlives the call. -/
def OwnershipSafe (t : Nat) (sessionId : SessionId) (holder : String)
    (before : InMemoryDurableRuntimeStore S T C η) : Prop :=
  before.sessions.closed = true ∨ before.rawLeases.closed = true ∨
    before.sessions.records sessionId ≠ none ∨
    ∀ lease, before.rawLeases.liveAt sessionId t = some lease → lease.holder ≠ holder

theorem createSessionWithLease_on (fenced : WellFenced before.rawLeases) (record : S)
    (ttlMs : Number)
    (initialEvent : Option (SessionLease → Except DalError (DurableOutboxEvent η))) :
    TripleOn (ReadsBy t) (· = before)
      (createSessionWithLease codec record holder ttlMs initialEvent :
        Operation S T C η χ (Option SessionLease))
      (fun _ _ => True) fun _ s => SameLive t before.rawLeases s.rawLeases ↔
        OwnershipSafe t (codec.session.id record) holder before := by
  have get : TripleOn (ReadsBy t) (· = before)
      (sessionsGet (codec.session.id record) : Operation S T C η χ (Option S))
      (fun existing s => existing = before.sessions.records (codec.session.id record) ∧
        before.sessions.closed = false ∧ s = before)
      fun _ s => SameLive t before.rawLeases s.rawLeases ↔
        OwnershipSafe t (codec.session.id record) holder before := by
    apply reading_on
    · rintro env s existing - rfl found
      unfold InMemorySessionStore.get InMemorySessionStore.assertOpen at found
      split at found
      · cases found
      next isOpen =>
        cases found
        exact ⟨rfl, by simpa using isOpen, rfl⟩
    · rintro env s e - rfl found
      unfold InMemorySessionStore.get InMemorySessionStore.assertOpen at found
      split at found
      next closed => exact iff_of_true (.refl _) (.inl closed)
      · cases found
  refine TripleOn.bind get fun existing => TripleOn.given (fun _ holds => holds.1) fun found =>
    TripleOn.given (fun _ holds => holds.2.1) fun isOpen => ?_
  have start : ∀ s, existing = before.sessions.records (codec.session.id record) ∧
      before.sessions.closed = false ∧ s = before → Holding before.rawLeases s := by
    rintro s ⟨-, -, rfl⟩
    rfl
  cases existing with
  | some stored =>
    refine (attachLease_on fenced record stored ttlMs initialEvent).consequence start
      (fun _ _ => id) ?_
    intro e s same
    exact iff_of_true same (.inr (.inr (.inl (by simp [← found]))))
  | none =>
    refine (insertWithLease_on fenced record ttlMs initialEvent).consequence start (fun _ _ => id) ?_
    intro e s givesUp
    simpa [OwnershipSafe, isOpen, ← found] using givesUp.sameLive_iff

/-- A `createSessionWithLease` that throws has changed no record and no outbox event. The leases
that are live once it is over are those that were, in every case but one: no session was stored,
and the holder of the call had a lease on its identifier, which is ended. -/
theorem failed_creation {codec : DalCodec S T C η}
    {before after : InMemoryDurableRuntimeStore S T C η} (fenced : WellFenced before.rawLeases)
    {record : S} {holder : String} {ttlMs : Number}
    {initialEvent : Option (SessionLease → Except DalError (DurableOutboxEvent η))}
    {inputs : List (Env χ)} {t : Nat} (clock : ∀ env ∈ inputs, ReadsBy t env) {error : DalError}
    (ran : (createSessionWithLease codec record holder ttlMs initialEvent).run.exec inputs before =
      (after, .done (.error error))) :
    SameRecords before after ∧
      (SameLive t before.rawLeases after.rawLeases ↔
        OwnershipSafe t (codec.session.id record) holder before) := by
  refine ⟨createSessionWithLease_triple record holder ttlMs initialEvent before inputs after
    (.error error) rfl ran, ?_⟩
  exact createSessionWithLease_on fenced record ttlMs initialEvent before inputs after (.error error)
    clock rfl ran

/-- A creation by `worker` whose initial event throws, at moment 1. -/
def failingCreation : Operation (String × Option Nat) (String × Option Nat) (String × Option Nat)
    Unit Unit (Option SessionLease) :=
  createSessionWithLease plainCodec ("call", none) "worker" (.int 10)
    (some fun _ => .error (.error "no event"))

def atOne : List (Env Unit) := List.replicate 7 ⟨.int 1, "generation", ()⟩

theorem atOne_readsBy : ∀ env ∈ atOne, ReadsBy 1 env := by
  intro env member
  obtain rfl := List.eq_of_mem_replicate member
  exact ⟨1, by decide, by decide⟩

theorem failed_creation_fresh :
    ∃ after error, failingCreation.run.exec atOne emptyStore = (after, .done (.error error)) ∧
      SameRecords emptyStore after ∧
      (SameLive 1 emptyStore.rawLeases after.rawLeases ↔
        OwnershipSafe 1 "call" "worker" emptyStore) := by
  have ran : failingCreation.run.exec atOne emptyStore =
      ((failingCreation.run.exec atOne emptyStore).1, .done (.error (.error "no event"))) := rfl
  refine ⟨_, _, ran, ?_⟩
  unfold failingCreation at ran ⊢
  exact failed_creation wellFenced_new atOne_readsBy ran

/-- A store in which `worker` has a lease on a call whose session is not stored. -/
def leasedStore : InMemoryDurableRuntimeStore (String × Option Nat) (String × Option Nat)
    (String × Option Nat) Unit :=
  { emptyStore with
    rawLeases := LeaseFencing.storeAfter
      [⟨.int 0, .acquire "generation" "call" "worker" (.int 100)⟩] }

theorem failed_creation_ends_lease :
    ¬ ∀ (before after : InMemoryDurableRuntimeStore (String × Option Nat) (String × Option Nat)
          (String × Option Nat) Unit) (inputs : List (Env Unit)) (t : Nat) (error : DalError),
        WellFenced before.rawLeases → (∀ env ∈ inputs, ReadsBy t env) →
        failingCreation.run.exec inputs before = (after, .done (.error error)) →
        SameRecords before after ∧ SameLive t before.rawLeases after.rawLeases := by
  intro kept
  obtain ⟨-, same⟩ := kept leasedStore _ atOne 1 _ (wellFenced_run _) atOne_readsBy rfl
  have live := same "call"
  revert live
  decide

end InMemoryDurableRuntime

end Tvic
