import Mathlib.Data.Set.Card
import Tvic.Dal.LeaseFencing
import Tvic.Lib.Paging

/-!
# Paging through the recovery candidates

Every scan of the in-memory lease store with `listRecoveryCandidates`, other calls between its
pages. The ids of the store are in the order of their code units and nothing removes one, so the
binary search of `#upperBoundLeaseId` finds where a cursor was left, and the scan is a paging
through a growing ordered set.
-/
namespace Tvic

open Lib

/-! ## The order of the ids -/

theorem Char.toNat_bounds (c : Char) :
    c.toNat < 0xD800 ∨ 0xE000 ≤ c.toNat ∧ c.toNat < 0x110000 := by
  have valid := c.valid
  rcases valid with low | ⟨above, below⟩
  · exact .inl low
  · exact .inr ⟨above, below⟩

theorem utf16Units_injective : Function.Injective utf16Units := by
  intro a b same
  apply String.toList_inj.mp
  unfold utf16Units at same
  generalize a.toList = first at same ⊢
  generalize b.toList = second at same ⊢
  induction first generalizing second with
  | nil =>
    cases second with
    | nil => rfl
    | cons d rest =>
      exfalso
      rw [List.flatMap_cons, List.flatMap_nil] at same
      split at same <;> simp at same
  | cons c rest ih =>
    have cBounds := Char.toNat_bounds c
    cases second with
    | nil =>
      exfalso
      rw [List.flatMap_cons, List.flatMap_nil] at same
      split at same <;> simp at same
    | cons d others =>
      have dBounds := Char.toNat_bounds d
      rw [List.flatMap_cons, List.flatMap_cons] at same
      -- a first unit is one of a pair exactly for the characters beyond the basic plane
      have parts : c = d ∧ rest = others := by
        split at same <;> split at same <;> simp only [List.cons_append, List.nil_append,
          List.cons.injEq] at same
        · exact ⟨Char.toNat_inj.mp same.1, ih _ same.2⟩
        · omega
        · omega
        · exact ⟨Char.toNat_inj.mp (by omega), ih _ same.2.2⟩
      rw [parts.1, parts.2]

/-- The ids in order of their code units. -/
abbrev IdsInOrder (ids : List SessionId) : Prop := InOrder utf16Units ids

theorem IdsInOrder.lt_of_getElem? {ids : List SessionId} (inOrder : IdsInOrder ids) {i j : Nat}
    {a b : SessionId} (less : i < j) (first : ids[i]? = some a) (second : ids[j]? = some b) :
    utf16Units a < utf16Units b := by
  obtain ⟨iBound, rfl⟩ := List.getElem?_eq_some_iff.mp first
  obtain ⟨jBound, rfl⟩ := List.getElem?_eq_some_iff.mp second
  exact List.pairwise_iff_getElem.mp inOrder i j iBound jBound less

/-- `position` splits the ids: those before it are up to the session, the others beyond. -/
structure Splits (ids : List SessionId) (sessionId : SessionId) (position : Nat) : Prop where
  inside : position ≤ ids.length
  before : ∀ id ∈ ids.take position, utf16Units id ≤ utf16Units sessionId
  after : ∀ id ∈ ids.drop position, utf16Units sessionId < utf16Units id

variable {sessionId : SessionId}

theorem Splits.of_bounds {ids : List SessionId} {position : Nat} (inside : position ≤ ids.length)
    (below : ∀ i id, i < position → ids[i]? = some id → utf16Units id ≤ utf16Units sessionId)
    (above : ∀ i id, position ≤ i → ids[i]? = some id → utf16Units sessionId < utf16Units id) :
    Splits ids sessionId position where
  inside := inside
  before := by
    intro id member
    obtain ⟨i, bound, rfl⟩ := List.mem_take_iff_getElem.mp member
    exact below i _ (by omega) (List.getElem?_eq_getElem _)
  after := by
    intro id member
    obtain ⟨i, bound, rfl⟩ := List.mem_drop_iff_getElem.mp member
    exact above (position + i) _ (by omega) (List.getElem?_eq_getElem _)

namespace InMemorySessionLeaseStore

theorem upperBoundFrom_splits {ids : List SessionId} (inOrder : IdsInOrder ids)
    (sessionId : SessionId) (fuel low high : Nat) (ordered : low ≤ high)
    (enough : high - low ≤ fuel) (inside : high ≤ ids.length)
    (below : ∀ i id, i < low → ids[i]? = some id → utf16Units id ≤ utf16Units sessionId)
    (above : ∀ i id, high ≤ i → ids[i]? = some id → utf16Units sessionId < utf16Units id) :
    Splits ids sessionId (upperBoundFrom ids sessionId fuel low high) := by
  induction fuel generalizing low high with
  | zero =>
    obtain rfl : low = high := by omega
    exact .of_bounds inside below above
  | succ fuel ih =>
    rw [upperBoundFrom]
    by_cases open_ : low < high
    · rw [if_pos open_]
      have found : ids[(low + high) / 2]? = some (ids.getD ((low + high) / 2) "") := by
        rw [List.getD_eq_getElem?_getD,
          List.getElem?_eq_getElem (show (low + high) / 2 < ids.length by omega)]
        rfl
      dsimp only
      generalize ids.getD ((low + high) / 2) "" = middle at found ⊢
      split
      next upTo =>
        -- what is before the middle is smaller still
        apply ih ((low + high) / 2 + 1) high (by omega) (by omega) inside _ above
        intro i id early present
        rcases Nat.lt_or_eq_of_le (Nat.le_of_lt_succ early) with earlier | rfl
        · exact (inOrder.lt_of_getElem? earlier present found).le.trans upTo
        · rw [found] at present
          cases present
          exact upTo
      next past =>
        -- what is after the middle is larger still
        apply ih low ((low + high) / 2) (by omega) (by omega) (by omega) below
        intro i id late present
        have beyondMiddle : utf16Units sessionId < utf16Units middle := not_le.mp past
        rcases Nat.lt_or_eq_of_le late with later | rfl
        · exact beyondMiddle.trans (inOrder.lt_of_getElem? later found present)
        · rw [found] at present
          cases present
          exact beyondMiddle
    · obtain rfl : low = high := by omega
      rw [if_neg open_]
      exact .of_bounds inside below above

variable {store : InMemorySessionLeaseStore}

theorem upperBoundLeaseId_splits (inOrder : IdsInOrder store.leaseIds) (sessionId : SessionId) :
    Splits store.leaseIds sessionId (store.upperBoundLeaseId sessionId) := by
  apply upperBoundFrom_splits inOrder sessionId _ _ _ (Nat.zero_le _) (by omega) le_rfl
  · intro i id early
    omega
  · intro i id late present
    rw [List.getElem?_eq_none late] at present
    cases present

/-! ## The ids of a store -/

/-- The ids are those of the sessions with a record, in order. -/
structure Indexed (store : InMemorySessionLeaseStore) : Prop where
  inOrder : IdsInOrder store.leaseIds
  ids : ∀ sessionId, sessionId ∈ store.leaseIds ↔ (store.leases sessionId).isSome

theorem indexed_new : new.Indexed where
  inOrder := .nil
  ids := by simp [new]

theorem Indexed.setLease (indexed : store.Indexed) {current : SessionLease}
    (stored : store.leases sessionId = some current) (lease : SessionLease) :
    (store.setLease sessionId lease).Indexed where
  inOrder := indexed.inOrder
  ids := by
    intro other
    rw [setLease_leases, show (store.setLease sessionId lease).leaseIds = store.leaseIds from rfl,
      indexed.ids other]
    by_cases same : other = sessionId
    · simp [same, stored]
    · rw [Function.update_of_ne same]

theorem Indexed.insert (indexed : store.Indexed) (absent : store.leases sessionId = none)
    (lease : SessionLease) :
    ((store.insertLeaseId sessionId).setLease sessionId lease).Indexed := by
  have splits := upperBoundLeaseId_splits indexed.inOrder sessionId
  have inserted : (store.insertLeaseId sessionId).leaseIds =
      store.leaseIds.take (store.upperBoundLeaseId sessionId) ++
        sessionId :: store.leaseIds.drop (store.upperBoundLeaseId sessionId) :=
    insertIdx_eq_append sessionId splits.inside
  have fresh : sessionId ∉ store.leaseIds := by
    rw [indexed.ids, absent]
    simp
  constructor
  · show IdsInOrder (store.insertLeaseId sessionId).leaseIds
    rw [inserted]
    refine indexed.inOrder.insert (fun other member => ?_) splits.after
    -- an equal key would be the same id
    refine lt_of_le_of_ne (splits.before other member) (fun same => fresh ?_)
    rw [← utf16Units_injective same]
    exact List.mem_of_mem_take member
  · intro other
    show other ∈ (store.insertLeaseId sessionId).leaseIds ↔
      (Function.update store.leases sessionId (some lease) other).isSome
    have members : other ∈ (store.insertLeaseId sessionId).leaseIds ↔
        other = sessionId ∨ other ∈ store.leaseIds := by
      conv_rhs => rw [← List.take_append_drop (store.upperBoundLeaseId sessionId) store.leaseIds]
      rw [inserted]
      simp only [List.mem_append, List.mem_cons]
      tauto
    rw [members, indexed.ids]
    by_cases same : other = sessionId
    · simp [same]
    · rw [Function.update_of_ne same]
      simp [same]

/-! ### What a call does to the ids -/

/-- A call writes nothing, or one record in place of another, or a new one with its id. -/
inductive Writes (store : InMemorySessionLeaseStore) : InMemorySessionLeaseStore → Prop where
  | nothing : Writes store store
  | record (sessionId : SessionId) (current lease : SessionLease)
      (stored : store.leases sessionId = some current) :
      Writes store (store.setLease sessionId lease)
  | new (sessionId : SessionId) (lease : SessionLease) (absent : store.leases sessionId = none) :
      Writes store ((store.insertLeaseId sessionId).setLease sessionId lease)
  | acknowledged (sessionId : SessionId) (generationId : String) :
      Writes store (store.setAcknowledged sessionId generationId)

variable {store store' : InMemorySessionLeaseStore}

theorem Writes.indexed (writes : Writes store store') (indexed : store.Indexed) :
    store'.Indexed := by
  cases writes with
  | nothing => exact indexed
  | record sessionId current lease stored => exact indexed.setLease stored lease
  | new sessionId lease absent => exact indexed.insert absent lease
  | acknowledged sessionId generationId => exact ⟨indexed.inOrder, indexed.ids⟩

theorem Writes.keeps (writes : Writes store store') (stored : (store.leases sessionId).isSome) :
    (store'.leases sessionId).isSome := by
  have updated : ∀ other (lease : SessionLease),
      (Function.update store.leases other (some lease) sessionId).isSome := by
    intro other lease
    by_cases same : sessionId = other
    · simp [same]
    · rwa [Function.update_of_ne same]
  cases writes with
  | nothing => exact stored
  | record other current lease present => exact updated other lease
  | new other lease absent => exact updated other lease
  | acknowledged other generationId => exact stored

theorem acquire_writes {now ttlMs : Number} {randomUUID holder : String}
    {result : Option SessionLease}
    (returned : store.acquire now randomUUID sessionId holder ttlMs = .ok (result, store')) :
    Writes store store' := by
  obtain ⟨-, -, returned⟩ := bind_eq_ok.mp returned
  obtain ⟨ttl, -, returned⟩ := bind_eq_ok.mp returned
  obtain ⟨nowMs, -, returned⟩ := bind_eq_ok.mp returned
  split at returned
  · cases returned
    exact .nothing
  · split at returned
    · cases returned
    · obtain ⟨expiry, -, returned⟩ := bind_eq_ok.mp returned
      cases returned
      cases stored : store.leases sessionId with
      | none => exact .new sessionId _ stored
      | some current => exact .record sessionId current _ stored

theorem acknowledge_writes {now : Number} {candidate : SessionRecoveryCandidate}
    (returned : store.acknowledgeRecoveryCandidate now candidate = .ok store') :
    Writes store store' := by
  obtain ⟨-, -, returned⟩ := bind_eq_ok.mp returned
  obtain ⟨fence, -, returned⟩ := bind_eq_ok.mp returned
  split at returned
  · cases returned
    exact .nothing
  · split at returned
    · obtain ⟨nowMs, -, returned⟩ := bind_eq_ok.mp returned
      split at returned <;> cases returned
      · exact .acknowledged _ _
      · exact .nothing
    · cases returned
      exact .nothing

end InMemorySessionLeaseStore

open InMemorySessionLeaseStore

namespace RecoveryPaging

open LeaseFencing

theorem step_writes (store : InMemorySessionLeaseStore) (c : TimedCall) :
    Writes store (LeaseFencing.step store c) := by
  obtain ⟨now, call⟩ := c
  cases call with
  | acquire randomUUID sessionId holder ttlMs =>
    cases returned : store.acquire now randomUUID sessionId holder ttlMs with
    | error error => simpa [LeaseFencing.step, settle, returned] using Writes.nothing
    | ok result => simpa [LeaseFencing.step, settle, returned] using acquire_writes returned
  | renew sessionId holder fence ttlMs generationId =>
    cases returned : store.renew now sessionId holder fence ttlMs generationId with
    | error error => simpa [LeaseFencing.step, settle, returned] using Writes.nothing
    | ok result =>
      have stores : Writes store result.2 := by
        obtain ⟨-, same⟩ | ⟨_, _, current, renewed, -, -, found, -, -, -, -, -, -, same⟩ :=
          renew_eq_ok returned
        · rw [same]
          exact .nothing
        · rw [same]
          exact .record sessionId current renewed (matching_eq_some.mp found).1
      simpa [LeaseFencing.step, settle, returned] using stores
  | release sessionId holder fence generationId =>
    cases returned : store.release now sessionId holder fence generationId with
    | error error => simpa [LeaseFencing.step, settle, returned] using Writes.nothing
    | ok result =>
      have stores : Writes store result.2 := by
        obtain ⟨_, -, ⟨-, same⟩ | ⟨_, current, -, found, same⟩⟩ := release_eq_ok returned
        · rw [same]
          exact .nothing
        · rw [same]
          exact .record sessionId current _ (matching_eq_some.mp found).1
      simpa [LeaseFencing.step, settle, returned] using stores
  | get sessionId => exact .nothing
  | listRecoveryCandidates nowMs limit cursor => exact .nothing
  | acknowledgeRecoveryCandidate candidate =>
    cases returned : store.acknowledgeRecoveryCandidate now candidate with
    | error error =>
      simpa [LeaseFencing.step, settle, returned, Except.map] using Writes.nothing
    | ok store' =>
      simpa [LeaseFencing.step, settle, returned, Except.map] using acknowledge_writes returned

variable {store : InMemorySessionLeaseStore}

theorem indexed_run (indexed : store.Indexed) (calls : List TimedCall) :
    (run LeaseFencing.step store calls).Indexed :=
  run_invariant LeaseFencing.step Indexed (fun s c => (step_writes s c).indexed) store indexed calls

theorem keeps_run (stored : (store.leases sessionId).isSome) (calls : List TimedCall) :
    ((run LeaseFencing.step store calls).leases sessionId).isSome :=
  run_invariant LeaseFencing.step (fun s => (s.leases sessionId).isSome)
    (fun s c => (step_writes s c).keeps) store stored calls

/-! ## Scans -/

/-- One page of a scan, with the store it was read from. -/
structure Visit where
  store : InMemorySessionLeaseStore
  nowMs : Number
  page : RecoveryPage

/-- A scan from a cursor on: other calls run before each page, and each page is asked for with the
cursor that the one before gave, until one gives none. -/
inductive Scan (limit : Number) :
    InMemorySessionLeaseStore → Option SessionId → List Visit → Bool → Prop where
  | pause (store : InMemorySessionLeaseStore) (cursor : Option SessionId) :
      Scan limit store cursor [] false
  | last {store : InMemorySessionLeaseStore} {cursor : Option SessionId} (calls : List TimedCall)
      (nowMs : Number) {page : RecoveryPage}
      (returned : (run LeaseFencing.step store calls).listRecoveryCandidates nowMs limit cursor =
        .ok page)
      (exhausted : page.nextCursor = none) :
      Scan limit store cursor [⟨run LeaseFencing.step store calls, nowMs, page⟩] true
  | follow {store : InMemorySessionLeaseStore} {cursor : Option SessionId} (calls : List TimedCall)
      (nowMs : Number) {page : RecoveryPage} {next : SessionId} {rest : List Visit}
      {finished : Bool}
      (returned : (run LeaseFencing.step store calls).listRecoveryCandidates nowMs limit cursor =
        .ok page)
      (goes_on : page.nextCursor = some next)
      (later : Scan limit (run LeaseFencing.step store calls) (some next) rest finished) :
      Scan limit store cursor (⟨run LeaseFencing.step store calls, nowMs, page⟩ :: rest) finished

/-- The session's lease has expired by the page's moment, and is not acknowledged. -/
def Visit.Waiting (visit : Visit) (sessionId : SessionId) : Prop :=
  ∃ nowMs lease, visit.nowMs.safeInteger? 0 = some nowMs ∧
    visit.store.leases sessionId = some lease ∧ lease.expiresAtMs ≤ nowMs ∧
    visit.store.recoveryAcknowledgedGenerations sessionId ≠ some lease.generationId

def sessions (store : InMemorySessionLeaseStore) : Set SessionId :=
  { sessionId | (store.leases sessionId).isSome }

def examined (store : InMemorySessionLeaseStore) (limit : Nat) (cursor : Option SessionId) :
    List SessionId :=
  (beyond utf16Units cursor store.leaseIds).take limit

def candidate? (store : InMemorySessionLeaseStore) (nowMs : Nat) (sessionId : SessionId) :
    Option SessionRecoveryCandidate := do
  let lease ← store.leases sessionId
  if nowMs < lease.expiresAtMs ∨
      store.recoveryAcknowledgedGenerations sessionId = some lease.generationId then none
  else some { sessionId, fence := lease.fence, generationId := lease.generationId }

def pageStart (store : InMemorySessionLeaseStore) : Option SessionId → Nat
  | none => 0
  | some sessionId => store.upperBoundLeaseId sessionId

theorem drop_pageStart (indexed : store.Indexed) (cursor : Option SessionId) :
    pageStart store cursor ≤ store.leaseIds.length ∧
      store.leaseIds.drop (pageStart store cursor) = beyond utf16Units cursor store.leaseIds := by
  cases cursor with
  | none => exact ⟨Nat.zero_le _, by simp [pageStart, beyond, Beyond]⟩
  | some id =>
    have splits := upperBoundLeaseId_splits indexed.inOrder id
    exact ⟨splits.inside, (beyond_eq_drop splits.before splits.after).symm⟩

theorem listRecoveryCandidates_eq_ok (indexed : store.Indexed) {nowMs limit : Number}
    {cursor : Option SessionId} {page : RecoveryPage}
    (returned : store.listRecoveryCandidates nowMs limit cursor = .ok page) :
    ∃ n size, nowMs.safeInteger? 0 = some n ∧ limit = .int (size : Nat) ∧ 1 ≤ size ∧
      page.candidates = (examined store size cursor).filterMap (candidate? store n) ∧
      page.nextCursor =
        if size < (beyond utf16Units cursor store.leaseIds).length then
          (examined store size cursor).getLast?
        else none := by
  obtain ⟨-, -, returned⟩ := bind_eq_ok.mp returned
  dsimp only at returned
  split at returned
  case h_2 => cases returned
  next size whole =>
  split at returned
  case isFalse => cases returned
  obtain ⟨_, checked, returned⟩ := bind_eq_ok.mp returned
  cases checked
  obtain ⟨n, clock, returned⟩ := bind_eq_ok.mp returned
  obtain ⟨limitEq, positive, -⟩ := Number.safeInteger?_eq_some whole
  obtain ⟨inside, dropped⟩ := drop_pageStart indexed cursor
  have pageEq : page = {
      candidates := ((store.leaseIds.drop (pageStart store cursor)).take size).filterMap
        (candidate? store n)
      nextCursor :=
        if pageStart store cursor +
            ((store.leaseIds.drop (pageStart store cursor)).take size).length <
              store.leaseIds.length then
          ((store.leaseIds.drop (pageStart store cursor)).take size).getLast?
        else none } :=
    (Except.ok.inj returned).symm
  refine ⟨n, size, assertSafeInteger_eq_ok clock, limitEq, positive, ?_⟩
  rw [pageEq, dropped]
  refine ⟨rfl, ?_⟩
  generalize pageStart store cursor = start at inside dropped ⊢
  have lengths : (beyond utf16Units cursor store.leaseIds).length =
      store.leaseIds.length - start := by
    rw [← dropped, List.length_drop]
  show (if start + (examined store size cursor).length < store.leaseIds.length then _ else _) = _
  have same : start + (examined store size cursor).length < store.leaseIds.length ↔
      size < (beyond utf16Units cursor store.leaseIds).length := by
    rw [examined, List.length_take, lengths]
    omega
  simp only [same]
  rfl

/-- The ids that a visit examined, and the candidates that they gave. -/
structure Examined (visit : Visit) (read : List SessionId × List SessionId) : Prop where
  ids : read.1 = visit.store.leaseIds
  indexed : visit.store.Indexed
  candidates : ∃ n, visit.nowMs.safeInteger? 0 = some n ∧
    visit.page.candidates = read.2.filterMap (candidate? visit.store n)

variable {visits : List Visit}

theorem Scan.paging {limit : Nat} {cursor : Option SessionId} {finished : Bool}
    (scan : Scan (.int limit) store cursor visits finished) (indexed : store.Indexed) :
    ∃ reads, Paging utf16Units limit cursor reads finished ∧
      List.Forall₂ Examined visits reads ∧ reads.Pairwise (fun a b => a.1 ⊆ b.1) ∧
      (∀ read ∈ reads, store.leaseIds ⊆ read.1) ∧ (visits ≠ [] → 1 ≤ limit) := by
  induction scan with
  | pause store cursor => exact ⟨[], .pause cursor, .nil, .nil, by simp, by simp⟩
  | @last store cursor calls nowMs page returned exhausted =>
    have atCall := indexed_run indexed calls
    have kept : store.leaseIds ⊆ (run LeaseFencing.step store calls).leaseIds := fun id member =>
      (atCall.ids id).mpr (keeps_run ((indexed.ids id).mp member) calls)
    generalize run LeaseFencing.step store calls = called at returned atCall kept ⊢
    obtain ⟨n, size, clock, sized, positive, candidates, next⟩ :=
      listRecoveryCandidates_eq_ok atCall returned
    obtain rfl : limit = size := Int.ofNat.inj (Number.int.inj sized)
    refine ⟨[(called.leaseIds, examined called limit cursor)], .last ?_,
      .cons ⟨rfl, atCall, n, clock, candidates⟩ .nil, List.pairwise_singleton .., ?_,
      fun _ => positive⟩
    · by_contra more
      rw [exhausted, if_pos (not_le.mp more)] at next
      have empty := List.getLast?_eq_none_iff.mp next.symm
      have lengths := congrArg List.length empty
      rw [examined, List.length_take, List.length_nil] at lengths
      omega
    · intro read member
      rw [List.mem_singleton.mp member]
      exact kept
  | @follow store cursor calls nowMs page next rest finished returned goes_on later ih =>
    have atCall := indexed_run indexed calls
    have kept : store.leaseIds ⊆ (run LeaseFencing.step store calls).leaseIds := fun id member =>
      (atCall.ids id).mpr (keeps_run ((indexed.ids id).mp member) calls)
    obtain ⟨reads, paging, visited, grows, kept_later, -⟩ := ih atCall
    generalize run LeaseFencing.step store calls = called at returned atCall kept kept_later ⊢
    obtain ⟨n, size, clock, sized, positive, candidates, nextEq⟩ :=
      listRecoveryCandidates_eq_ok atCall returned
    obtain rfl : limit = size := Int.ofNat.inj (Number.int.inj sized)
    rw [goes_on] at nextEq
    split at nextEq
    next more =>
      refine ⟨(called.leaseIds, examined called limit cursor) :: reads,
        .follow more nextEq.symm paging,
        .cons ⟨rfl, atCall, n, clock, candidates⟩ visited,
        List.pairwise_cons.mpr ⟨kept_later, grows⟩, ?_, fun _ => positive⟩
      intro read member
      rcases List.mem_cons.mp member with rfl | member
      · exact kept
      · exact List.Subset.trans kept (kept_later read member)
    next => cases nextEq

theorem count_candidates {nowMs : Nat} {own : SessionRecoveryCandidate}
    (waiting : candidate? store nowMs sessionId = some own) (ids : List SessionId) :
    (ids.filterMap (candidate? store nowMs)).countP (·.sessionId = sessionId) =
      ids.count sessionId := by
  have identity : ∀ id candidate, candidate? store nowMs id = some candidate →
      candidate.sessionId = id := by
    intro id candidate found
    obtain ⟨lease, -, found⟩ := Option.bind_eq_some_iff.mp found
    split at found <;> cases found
    rfl
  induction ids with
  | nil => rfl
  | cons id rest ih =>
    cases found : candidate? store nowMs id with
    | none =>
      have other : id ≠ sessionId := by
        rintro rfl
        rw [waiting] at found
        cases found
      rw [List.filterMap_cons_none found, ih, List.count_cons_of_ne other]
    | some candidate =>
      rw [List.filterMap_cons_some found, List.countP_cons, ih, List.count_cons,
        identity id candidate found]
      simp

theorem Visit.Waiting.candidate {visit : Visit} (waiting : visit.Waiting sessionId) {n : Nat}
    (clock : visit.nowMs.safeInteger? 0 = some n) :
    ∃ own, candidate? visit.store n sessionId = some own := by
  obtain ⟨nowMs, lease, reading, stored, expired, unacknowledged⟩ := waiting
  obtain rfl : nowMs = n := Option.some.inj (reading.symm.trans clock)
  refine ⟨{ sessionId, fence := lease.fence, generationId := lease.generationId }, ?_⟩
  simp [candidate?, stored, unacknowledged, expired]

variable {reads : List (List SessionId × List SessionId)}

theorem count_visits (visited : List.Forall₂ Examined visits reads)
    (waiting : ∀ visit ∈ visits, visit.Waiting sessionId) :
    (visits.flatMap (·.page.candidates)).countP (·.sessionId = sessionId) =
      (reads.flatMap (·.2)).count sessionId := by
  induction visited with
  | nil => rfl
  | cons examined rest ih =>
    obtain ⟨n, clock, candidates⟩ := examined.candidates
    obtain ⟨own, found⟩ := (waiting _ List.mem_cons_self).candidate clock
    rw [List.flatMap_cons, List.flatMap_cons, List.countP_append, List.count_append,
      ih (fun visit member => waiting visit (List.mem_cons_of_mem _ member)), candidates,
      count_candidates found]

theorem sessions_ncard (indexed : store.Indexed) :
    (sessions store).ncard = store.leaseIds.length := by
  have members : sessions store = (store.leaseIds.toFinset : Set SessionId) := by
    ext sessionId
    simp [sessions, indexed.ids sessionId]
  rw [members, Set.ncard_coe_finset, List.toFinset_card_of_nodup indexed.inOrder.nodup]

theorem related_mem (visited : List.Forall₂ Examined visits reads) :
    ∀ read ∈ reads, ∃ visit ∈ visits, Examined visit read := by
  induction visited with
  | nil => simp
  | cons first rest ih =>
    intro read member
    rcases List.mem_cons.mp member with rfl | member
    · exact ⟨_, List.mem_cons_self, first⟩
    · obtain ⟨visit, visited, related⟩ := ih read member
      exact ⟨visit, List.mem_cons_of_mem _ visited, related⟩

theorem related_last (visited : List.Forall₂ Examined visits reads) {final : Visit}
    (ends : visits.getLast? = some final) :
    ∃ read, reads.getLast? = some read ∧ Examined final read := by
  induction visited with
  | nil => cases ends
  | cons first rest ih =>
    cases rest with
    | nil =>
      cases ends
      exact ⟨_, rfl, first⟩
    | cons second others =>
      rw [List.getLast?_cons_cons] at ends ⊢
      exact ih ends

theorem ids_inOrder (visited : List.Forall₂ Examined visits reads) :
    ∀ read ∈ reads, IdsInOrder read.1 := by
  intro read member
  obtain ⟨visit, -, examined⟩ := related_mem visited read member
  rw [examined.ids]
  exact examined.indexed.inOrder

theorem Scan.length_le {limit : Nat} {finished : Bool}
    (scan : Scan (.int limit) store none visits finished) (indexed : store.Indexed) {final : Visit}
    (ends : visits.getLast? = some final) :
    visits.length ≤ ((sessions final.store).ncard + limit - 1) / limit + 1 := by
  obtain ⟨reads, paging, visited, grows, -, limited⟩ := scan.paging indexed
  have positive : 1 ≤ limit := limited (List.ne_nil_of_mem (List.mem_of_getLast? ends))
  obtain ⟨read, last, examined⟩ := related_last visited ends
  have full := paging.length_le (ids_inOrder visited) grows last
  have part : (beyond utf16Units none read.1).length ≤ read.1.length := List.length_filter_le _ _
  have count : read.1.length = (sessions final.store).ncard := by
    rw [examined.ids, sessions_ncard examined.indexed]
  rw [← visited.length_eq] at full
  generalize (sessions final.store).ncard = number at count ⊢
  have pages : visits.length - 1 ≤ number / limit := by
    rw [Nat.le_div_iff_mul_le positive, Nat.mul_comm]
    omega
  have up : number / limit ≤ (number + limit - 1) / limit := Nat.div_le_div_right (by omega)
  omega

/-- Every scan ends, and returns once each session that waits all along. -/
theorem scan_complete (calls : List TimedCall) (limit : Nat) (visits : List Visit) (finished : Bool)
    (scan : Scan (.int limit) (storeAfter calls) none visits finished) :
    (∀ final ∈ visits.getLast?,
      visits.length ≤ ((sessions final.store).ncard + limit - 1) / limit + 1) ∧
    (finished = true → ∀ sessionId, (∀ visit ∈ visits, visit.Waiting sessionId) →
      (visits.flatMap (·.page.candidates)).countP (·.sessionId = sessionId) = 1) := by
  have indexed : (storeAfter calls).Indexed := indexed_run indexed_new calls
  refine ⟨fun final ends => scan.length_le indexed ends, ?_⟩
  rintro rfl sessionId waiting
  obtain ⟨reads, paging, visited, -, -, -⟩ := scan.paging indexed
  rw [count_visits visited waiting]
  refine paging.count_eq_one (ids_inOrder visited) (fun read member => ?_) (fun c absent => nomatch absent)
  obtain ⟨visit, present, examined⟩ := related_mem visited read member
  obtain ⟨nowMs, lease, -, stored, -, -⟩ := waiting visit present
  rw [examined.ids, examined.indexed.ids, stored]
  rfl

/-- Two sessions whose leases run out at once. -/
def twoExpired : List TimedCall :=
  [⟨.int 0, .acquire "generation-b" "b" "holder" (.int 1)⟩,
    ⟨.int 0, .acquire "generation-a" "a" "holder" (.int 1)⟩]

/-- A third session comes between the first two pages. -/
theorem scan_complete_twoExpired :
    ∃ visits, Scan (.int (1 : Nat)) (storeAfter twoExpired) none visits true ∧
      visits.length = 3 ∧
      ∀ sessionId, (∀ visit ∈ visits, visit.Waiting sessionId) →
        (visits.flatMap (·.page.candidates)).countP (·.sessionId = sessionId) = 1 := by
  let newcomer : List TimedCall :=
    [⟨.int 5, .acquire "generation-c" "c" "holder" (.int 100)⟩]
  let store := storeAfter twoExpired
  let joined := run LeaseFencing.step store newcomer
  have first : store.listRecoveryCandidates (.int 5) (.int 1) none =
      .ok ⟨[⟨"a", 1, "generation-a"⟩], some "a"⟩ := by decide +kernel
  have second : joined.listRecoveryCandidates (.int 5) (.int 1) (some "a") =
      .ok ⟨[⟨"b", 1, "generation-b"⟩], some "b"⟩ := by decide +kernel
  have third : joined.listRecoveryCandidates (.int 5) (.int 1) (some "b") = .ok ⟨[], none⟩ := by
    decide +kernel
  have scan : Scan (.int (1 : Nat)) store none _ true :=
    .follow [] (.int 5) first rfl (.follow newcomer (.int 5) second rfl (.last [] (.int 5) third rfl))
  exact ⟨_, scan, rfl, (scan_complete twoExpired 1 _ true scan).2 rfl⟩

end RecoveryPaging

end Tvic
