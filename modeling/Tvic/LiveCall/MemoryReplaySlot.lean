import Tvic.LiveCall.TwimlReplayMemory

/-!
# The in-memory replay store as a slot

Each call of the in-memory store is a step of the slot it keeps: the record is the map's entry, and
an acquire holds a response from the moment its race is settled with one until it returns.
-/
namespace Tvic

open Lib.Publication

namespace MemoryReplayEntry

/-- Where the reservation stands. -/
def phase (entry : MemoryReplayEntry) : Phase String :=
  if entry.consumed then .consumed
  else
    match entry.response with
    | some response => .published response
    | none => .reserved

def record (owner : Nat) (entry : MemoryReplayEntry) : Record Nat String String :=
  ⟨owner, entry.requestHash, entry.expiresAtMs, entry.phase⟩

/-- A lease that is not settled has published nothing, and a reservation without a response is
neither consumed nor is its promise resolved with a response. -/
structure Sound (entry : MemoryReplayEntry) : Prop where
  unsettled : entry.settled = false → entry.response = none
  unconsumed : entry.response = none → entry.consumed = false
  unresolved : entry.response = none → ∀ response, entry.ready ≠ some (some response)

variable {entry : MemoryReplayEntry}

theorem phase_of_none (sound : entry.Sound) (none : entry.response = none) :
    entry.phase = .reserved := by
  simp [phase, none, sound.unconsumed none]

theorem phase_of_some {response : String} (unconsumed : entry.consumed = false)
    (found : entry.response = some response) : entry.phase = .published response := by
  simp [phase, unconsumed, found]

theorem phase_ne_reserved (published : entry.response.isNone = false) :
    entry.phase ≠ .reserved := by
  unfold phase
  cases response : entry.response with
  | none => simp [response] at published
  | some value => split <;> simp

end MemoryReplayEntry

namespace MemoryReplayStore

variable (store : MemoryReplayStore) (now : Nat)

/-- The record of the map's entry. -/
def record : Option (Record Nat String String) :=
  store.get.map fun held => held.2.record held.1

/-- The responses that waiting acquires will return. -/
def held : Set (String × String) :=
  { known | ∃ waiter ∈ store.waiters, waiter.requestHash = known.1 ∧
      waiter.outcome = some (some known.2) ∧ waiter.aborted = false }

def slot : Slot Nat String String :=
  ⟨store.record, store.held, { owner | owner < store.reservations.length }⟩

/-- Every reservation is sound, and every waiting acquire waits for one of its own request. -/
structure Sound : Prop where
  reservations : ∀ (owner : Nat) (entry : MemoryReplayEntry),
    store.reservations[owner]? = some entry → entry.Sound
  waiting : ∀ waiter ∈ store.waiters, ∃ entry, store.reservations[waiter.entry]? = some entry ∧
    entry.requestHash = waiter.requestHash

variable {store now}

variable {owner : Nat} {entry : MemoryReplayEntry}

theorem get_eq_some :
    store.get = some (owner, entry) ↔
      store.current = some owner ∧ store.reservations[owner]? = some entry := by
  simp only [get, Option.bind_eq_some_iff, Option.map_eq_some_iff, Prod.mk.injEq]
  constructor
  · rintro ⟨_, current, _, found, rfl, rfl⟩
    exact ⟨current, found⟩
  · rintro ⟨current, found⟩
    exact ⟨owner, current, entry, found, rfl, rfl⟩

theorem record_of_get (found : store.get = some (owner, entry)) :
    store.record = some (entry.record owner) := by
  simp [record, found]

section Updates

variable (owner : Nat) (response : Option String) (change : MemoryReplayEntry → MemoryReplayEntry)

@[simp] theorem current_delete : store.delete.current = none := rfl
@[simp] theorem reservations_delete : store.delete.reservations = store.reservations := rfl
@[simp] theorem waiters_delete : store.delete.waiters = store.waiters := rfl
@[simp] theorem current_update : (store.update owner change).current = store.current := rfl
@[simp] theorem waiters_update : (store.update owner change).waiters = store.waiters := rfl
@[simp] theorem current_resolve : (store.resolve owner response).current = store.current := rfl

@[simp] theorem record_delete : store.delete.record = none := rfl

@[simp] theorem reservation_update (index : Nat) :
    (store.update owner change).reservations[index]? =
      (store.reservations[index]?).map fun entry => if owner = index then change entry else entry := by
  simp [update, List.getElem?_modify]

@[simp] theorem reservation_resolve (index : Nat) :
    (store.resolve owner response).reservations[index]? =
      (store.reservations[index]?).map fun entry =>
        if owner = index then { entry with ready := entry.ready <|> some response } else entry := by
  simp [resolve, List.getElem?_modify]

@[simp] theorem length_update :
    (store.update owner change).reservations.length = store.reservations.length := by
  simp [update]

@[simp] theorem length_resolve :
    (store.resolve owner response).reservations.length = store.reservations.length := by
  simp [resolve]

@[simp] theorem get_update :
    (store.update owner change).get =
      store.get.map fun held => (held.1, if owner = held.1 then change held.2 else held.2) := by
  cases current : store.current with
  | none => simp [get, current]
  | some index => simp [get, current, Option.map_map, Function.comp_def]

@[simp] theorem record_resolve : (store.resolve owner response).record = store.record := by
  cases current : store.current with
  | none => simp [record, get, current]
  | some index =>
    simp only [record, get, current_resolve, current, Option.bind_some, reservation_resolve,
      Option.map_map]
    congr 1
    funext entry
    simp only [Function.comp_apply]
    split <;> rfl

variable (store) in
theorem held_resolve_none : (store.resolve owner none).held ⊆ store.held := by
  rintro known ⟨waiter, member, hash, outcome, unaborted⟩
  obtain ⟨before, listed, rfl⟩ := List.mem_map.mp member
  refine ⟨before, listed, ?_⟩
  split at outcome
  · rename_i here
    rw [if_pos here] at hash unaborted
    cases earlier : before.outcome with
    | none => simp [earlier] at outcome
    | some value => exact ⟨hash, by simpa [earlier] using outcome, unaborted⟩
  · rename_i elsewhere
    rw [if_neg elsewhere] at hash unaborted
    exact ⟨hash, outcome, unaborted⟩

theorem held_resolve_some (sound : store.Sound) (found : store.reservations[owner]? = some entry)
    (response : String) :
    (store.resolve owner (some response)).held ⊆
      insert (entry.requestHash, response) store.held := by
  rintro known ⟨waiter, member, hash, outcome, unaborted⟩
  obtain ⟨before, listed, rfl⟩ := List.mem_map.mp member
  split at outcome
  · rename_i here
    rw [if_pos here] at hash unaborted
    cases earlier : before.outcome with
    | none =>
      obtain ⟨awaited, same, request⟩ := sound.waiting before listed
      rw [here, found, Option.some.injEq] at same
      have given : response = known.2 := by simpa [earlier] using outcome
      exact .inl (Prod.ext (by rw [← hash, same, request]) given.symm)
    | some value =>
      exact .inr ⟨before, listed, hash, by simpa [earlier] using outcome, unaborted⟩
  · rename_i elsewhere
    rw [if_neg elsewhere] at hash unaborted
    exact .inr ⟨before, listed, hash, outcome, unaborted⟩

end Updates

section Sound

variable (sound : store.Sound)
include sound

theorem sound_delete : store.delete.Sound := ⟨sound.reservations, sound.waiting⟩

theorem sound_update {change : MemoryReplayEntry → MemoryReplayEntry}
    (keeps : ∀ entry, store.reservations[owner]? = some entry →
      (change entry).Sound ∧ (change entry).requestHash = entry.requestHash) :
    (store.update owner change).Sound where
  reservations := fun index entry found => by
    obtain ⟨before, was, rfl⟩ := Option.map_eq_some_iff.mp ((reservation_update _ _ _) ▸ found)
    split
    · rename_i same
      exact (keeps before (same ▸ was)).1
    · exact sound.reservations index before was
  waiting := fun waiter member => by
    obtain ⟨entry, found, hash⟩ := sound.waiting waiter member
    refine ⟨if owner = waiter.entry then change entry else entry, by simp [found], ?_⟩
    split
    · rename_i same
      rw [(keeps entry (same ▸ found)).2, hash]
    · exact hash

theorem sound_resolve {response : Option String}
    (written : ∀ entry, store.reservations[owner]? = some entry → response.isSome →
      entry.response.isSome) : (store.resolve owner response).Sound where
  reservations := fun index entry found => by
    obtain ⟨before, was, rfl⟩ := Option.map_eq_some_iff.mp ((reservation_resolve _ _ _) ▸ found)
    have kept := sound.reservations index before was
    split
    · rename_i same
      refine ⟨kept.unsettled, kept.unconsumed, fun none value resolved => ?_⟩
      cases ready : before.ready with
      | none =>
        have given : response = some value := by simpa [ready] using resolved
        have := written before (same ▸ was) (by simp [given])
        simp only at none
        simp [none] at this
      | some settled =>
        exact kept.unresolved none value (by simpa [ready] using resolved)
    · exact kept
  waiting := fun waiter member => by
    obtain ⟨before, listed, rfl⟩ := List.mem_map.mp member
    obtain ⟨entry, found, hash⟩ := sound.waiting before listed
    have kept : ∀ waiter : ReplayWaiter, waiter.entry = before.entry →
        waiter.requestHash = before.requestHash →
        ∃ entry, (store.resolve owner response).reservations[waiter.entry]? = some entry ∧
          entry.requestHash = waiter.requestHash := by
      intro waiter same request
      refine ⟨_, by rw [reservation_resolve, same, found]; rfl, ?_⟩
      rw [request, ← hash]
      split <;> rfl
    split
    · exact kept _ rfl rfl
    · exact kept _ rfl rfl

theorem sound_settle (owner : Nat) :
    ((store.update owner fun entry => { entry with settled := true }).resolve owner none).Sound := by
  refine sound_resolve (sound_update sound fun entry found => ?_) (by simp)
  have kept := sound.reservations owner entry found
  exact ⟨⟨by simp, kept.unconsumed, kept.unresolved⟩, rfl⟩

theorem sound_write (owner : Nat) (response : String) (expiresAtMs : MemoryReplayEntry → Nat) :
    (store.update owner fun entry => { entry with
      settled := true, expiresAtMs := expiresAtMs entry, response := some response }).Sound :=
  sound_update sound fun _ _ => ⟨⟨by simp, by simp, by simp⟩, rfl⟩

theorem sound_publish {response : String} (expiresAtMs : MemoryReplayEntry → Nat) :
    ((store.update owner fun entry => { entry with
      settled := true, expiresAtMs := expiresAtMs entry, response := some response }).resolve owner
        (some response)).Sound := by
  refine sound_resolve (sound_write sound owner response expiresAtMs) fun entry found _ => ?_
  obtain ⟨before, _, rfl⟩ := Option.map_eq_some_iff.mp ((reservation_update _ _ _) ▸ found)
  simp

theorem sound_dropExpired (now : Nat) : (store.dropExpired now).Sound := by
  unfold dropExpired
  split
  · split
    · exact sound_resolve (sound_delete sound) (by simp)
    · exact sound
  · exact sound

theorem sound_acquire (elapsed : Nat) (requestHash : String) (ttlMs : Int) (aborted : Bool) :
    (store.acquire now elapsed requestHash ttlMs aborted).2.Sound := by
  unfold acquire
  split
  · exact sound
  split
  · exact sound
  have dropped := sound_dropExpired sound now
  simp only
  split
  · -- the new reservation comes after the ones there are
    refine ⟨fun owner entry found => ?_, fun waiter member => ?_⟩
    · rcases List.mem_append.mp (List.mem_of_getElem? found) with old | new
      · obtain ⟨index, was⟩ := List.getElem?_of_mem old
        exact dropped.reservations index entry was
      · rw [List.mem_singleton.mp new]
        exact ⟨by simp, by simp, by simp⟩
    · obtain ⟨entry, found, hash⟩ := dropped.waiting waiter member
      refine ⟨entry, ?_, hash⟩
      rw [List.getElem?_append_left (List.getElem?_eq_some_iff.mp found).1, found]
  · rename_i owner entry found
    split
    · exact dropped
    split
    · exact dropped
    split
    · exact dropped
    · rename_i same _ _ _
      refine ⟨dropped.reservations, fun waiter member => ?_⟩
      rcases List.mem_append.mp member with member | member
      · exact dropped.waiting waiter member
      · rw [List.mem_singleton.mp member]
        exact ⟨entry, (get_eq_some.mp found).2, by simpa using same⟩

theorem sound_waiters {change : ReplayWaiter → ReplayWaiter} (waiter : Nat)
    (keeps : ∀ waiter, (change waiter).entry = waiter.entry ∧
      (change waiter).requestHash = waiter.requestHash) :
    ({ store with waiters := store.waiters.modify waiter change } : MemoryReplayStore).Sound := by
  refine ⟨sound.reservations, fun after member => ?_⟩
  obtain ⟨index, at_⟩ := List.getElem?_of_mem member
  rw [List.getElem?_modify] at at_
  obtain ⟨before, was, rfl⟩ := Option.map_eq_some_iff.mp at_
  have waits := sound.waiting before (List.mem_of_getElem? was)
  split
  · rwa [(keeps before).1, (keeps before).2]
  · exact waits

theorem sound_step (call : Nat × MemoryReplayCall) : (store.step call).Sound := by
  obtain ⟨now, call⟩ := call
  cases call with
  | acquire elapsed requestHash ttlMs aborted =>
    exact sound_acquire sound elapsed requestHash ttlMs aborted
  | timeout waiter => exact sound_waiters sound waiter fun _ => ⟨rfl, rfl⟩
  | abortSignal waiter => exact sound_waiters sound waiter fun _ => ⟨rfl, rfl⟩
  | resume waiter =>
    simp only [step, resume]
    split
    · exact ⟨sound.reservations, fun waiter member =>
        sound.waiting waiter (List.mem_of_mem_eraseIdx member)⟩
    · exact sound
  | complete owner response =>
    simp only [step, complete]
    split
    · exact sound
    split
    · exact sound
    split
    · refine sound_settle ?_ owner
      split
      · exact sound_delete sound
      · exact sound
    · exact sound_publish sound _
  | abort owner =>
    simp only [step, abort]
    split
    · exact sound
    split
    · exact sound
    · refine sound_settle ?_ owner
      split
      · exact sound_delete sound
      · exact sound
  | markConsumed =>
    simp only [step, markConsumed]
    split
    · exact sound
    split
    · exact sound_resolve (sound_delete sound) (by simp)
    split
    · exact sound
    · rename_i owner entry found _ published
      refine sound_update sound fun other same => ?_
      rw [(get_eq_some.mp found).2, Option.some.injEq] at same
      subst same
      have kept := sound.reservations owner entry (get_eq_some.mp found).2
      refine ⟨⟨kept.unsettled, fun none => ?_, kept.unresolved⟩, rfl⟩
      simp only at none
      simp [none] at published
  | prune => exact sound_dropExpired sound now

end Sound

section Steps

variable {after : MemoryReplayStore}

theorem used_of_length (same : after.reservations.length = store.reservations.length) :
    store.slot.used ⊆ after.slot.used := by
  intro owner used
  simp only [slot, Set.mem_ofPred_eq] at used ⊢
  omega

theorem quiet_step (record : after.record = store.record)
    (length : after.reservations.length = store.reservations.length)
    (held : after.held ⊆ store.held) : store.slot.Step now none after.slot :=
  ⟨used_of_length length, .quiet record held⟩

variable (store now) in
theorem dropExpired_cases :
    store.dropExpired now = store ∧
        (∀ owner entry, store.get = some (owner, entry) → now < entry.expiresAtMs) ∨
      ∃ owner entry, store.get = some (owner, entry) ∧ entry.expiresAtMs ≤ now ∧
        store.dropExpired now = store.delete.resolve owner none := by
  cases found : store.get with
  | none => exact .inl ⟨by simp [dropExpired, found], by simp⟩
  | some held =>
    obtain ⟨owner, entry⟩ := held
    by_cases gone : entry.expiresAtMs ≤ now
    · exact .inr ⟨owner, entry, rfl, gone, by simp [dropExpired, found, gone]⟩
    · refine .inl ⟨by simp [dropExpired, found, gone], ?_⟩
      rintro _ _ ⟨⟩
      omega

theorem expire_step (found : store.get = some (owner, entry)) (gone : entry.expiresAtMs ≤ now) :
    store.slot.Step now none (store.delete.resolve owner none).slot :=
  ⟨used_of_length (by simp), .expire (record_of_get found) gone
    (by simp [slot])
    (held_resolve_none store.delete owner)⟩

theorem dropExpired_step : store.slot.Step now none (store.dropExpired now).slot := by
  rcases dropExpired_cases store now with ⟨same, _⟩ | ⟨owner, entry, found, gone, dropped⟩
  · rw [same]
    exact quiet_step rfl rfl (Set.Subset.refl _)
  · rw [dropped]
    exact expire_step found gone

theorem held_dropExpired : (store.dropExpired now).held ⊆ store.held := by
  rcases dropExpired_cases store now with ⟨same, _⟩ | ⟨owner, _, _, _, dropped⟩
  · rw [same]
  · rw [dropped]
    exact held_resolve_none store.delete owner

theorem dropExpired_of_get (found : (store.dropExpired now).get = some (owner, entry)) :
    store.dropExpired now = store ∧ now < entry.expiresAtMs := by
  rcases dropExpired_cases store now with ⟨same, alive⟩ | ⟨_, _, _, _, dropped⟩
  · rw [same] at found
    exact ⟨same, alive owner entry found⟩
  · rw [dropped, get_eq_some] at found
    exact nomatch found.1

theorem reserve_step (none : (store.dropExpired now).get = none) {requestHash : String}
    (fresh : entry.phase = .reserved) (reserved : after = { store.dropExpired now with
      reservations := (store.dropExpired now).reservations ++ [entry]
      current := some (store.dropExpired now).reservations.length }) :
    store.slot.Step now (seenOfAcquire requestHash
      (.ok (.returned (.owner (store.dropExpired now).reservations.length)), after)) after.slot := by
  subst reserved
  have length : (store.dropExpired now).reservations.length = store.reservations.length := by
    rcases dropExpired_cases store now with ⟨same, _⟩ | ⟨_, _, _, _, dropped⟩
    · rw [same]
    · simp [dropped]
  have free : ∀ record, store.record = some record → record.expiry ≤ now := by
    rintro record found
    obtain ⟨⟨owner, other⟩, got, rfl⟩ := Option.map_eq_some_iff.mp found
    rcases dropExpired_cases store now with ⟨same, _⟩ | ⟨_, _, held, gone, _⟩
    · rw [same, got] at none
      exact nomatch none
    · rw [held, Option.some.injEq, Prod.mk.injEq] at got
      obtain ⟨rfl, rfl⟩ := got
      exact gone
  simp only [seenOfAcquire, List.getElem?_concat_length, Option.map_some]
  refine ⟨fun owner used => ?_, .reserve free ?_ ?_ ?_ held_dropExpired⟩
  · simp only [slot, Set.mem_ofPred_eq, List.length_append, List.length_singleton, length] at used ⊢
    omega
  · simp [slot, length]
  · simp [slot]
  · simp [slot, record, get, MemoryReplayEntry.record, fresh]

theorem acquire_step (sound : store.Sound) (elapsed : Nat) (requestHash : String) (ttlMs : Int)
    (aborted : Bool) :
    store.slot.Step now (store.observe (now, .acquire elapsed requestHash ttlMs aborted))
      (store.acquire now elapsed requestHash ttlMs aborted).2.slot := by
  rw [observe]
  generalize acquired : store.acquire now elapsed requestHash ttlMs aborted = outcome
  have quiet : store.slot.Step now none store.slot := quiet_step rfl rfl (Set.Subset.refl _)
  unfold acquire at acquired
  split at acquired
  · subst acquired
    exact quiet
  split at acquired
  · subst acquired
    exact quiet
  simp only at acquired
  split at acquired
  · rename_i none
    subst acquired
    exact reserve_step none (by rfl) rfl
  rename_i owner entry found
  obtain ⟨same, alive⟩ := dropExpired_of_get found
  rw [same] at found acquired
  split at acquired
  · subst acquired
    exact quiet
  split at acquired
  · subst acquired
    exact quiet
  rename_i sameHash unconsumed
  have hash : entry.requestHash = requestHash := by simpa using sameHash
  split at acquired
  · rename_i response given
    subst acquired
    rw [seenOfAcquire, ← hash]
    have replay : Slot.Change now store.slot
        (some (.replayed (entry.record owner).request response)) store.slot :=
      .replay (record_of_get found)
        (MemoryReplayEntry.phase_of_some (by simpa using unconsumed) given) alive rfl
        (Set.Subset.refl _)
    exact ⟨used_of_length rfl, replay⟩
  · rename_i missing
    subst acquired
    refine quiet_step rfl rfl ?_
    rintro known ⟨waiter, member, request, outcome, unaborted⟩
    rcases List.mem_append.mp member with member | member
    · exact ⟨waiter, member, request, outcome, unaborted⟩
    · -- the promise of a reservation without a response is not resolved with one
      rw [List.mem_singleton.mp member] at outcome
      have kept := sound.reservations owner entry (get_eq_some.mp found).2
      exact absurd outcome (kept.unresolved missing known.2)

theorem waiter_step {change : ReplayWaiter → ReplayWaiter} (waiter : Nat)
    (keeps : ∀ waiter, (change waiter).requestHash = waiter.requestHash ∧
      ∀ response, (change waiter).outcome = some (some response) →
        (change waiter).aborted = false →
          waiter.outcome = some (some response) ∧ waiter.aborted = false) :
    store.slot.Step now none
      ({ store with waiters := store.waiters.modify waiter change } : MemoryReplayStore).slot := by
  refine quiet_step rfl rfl ?_
  rintro known ⟨after, member, request, outcome, unaborted⟩
  obtain ⟨index, at_⟩ := List.getElem?_of_mem member
  rw [List.getElem?_modify] at at_
  obtain ⟨before, was, rfl⟩ := Option.map_eq_some_iff.mp at_
  refine ⟨before, List.mem_of_getElem? was, ?_⟩
  split at outcome
  · rename_i here
    rw [if_pos here] at request unaborted
    obtain ⟨hash, held⟩ := keeps before
    exact ⟨by rw [← request, hash], held known.2 outcome unaborted⟩
  · rename_i elsewhere
    rw [if_neg elsewhere] at request unaborted
    exact ⟨request, outcome, unaborted⟩

theorem resume_step (waiter : Nat) :
    store.slot.Step now (store.observe (now, .resume waiter)) (store.resume waiter).2.slot := by
  have shrinks : ({ store with waiters := store.waiters.eraseIdx waiter } :
      MemoryReplayStore).held ⊆ store.held := by
    rintro known ⟨other, member, rest⟩
    exact ⟨other, List.mem_of_mem_eraseIdx member, rest⟩
  rw [observe]
  cases listed : store.waiters[waiter]? with
  | none =>
    simp only [resume, listed, Option.bind_none]
    exact quiet_step rfl rfl (Set.Subset.refl _)
  | some waiting =>
    cases settled : waiting.outcome with
    | none =>
      simp only [resume, listed, Option.bind_some, ReplayWaiter.result, settled, Option.map_none]
      exact quiet_step rfl rfl (Set.Subset.refl _)
    | some response =>
      simp only [resume, listed, Option.bind_some, ReplayWaiter.result, settled, Option.map_some]
      cases aborted : waiting.aborted with
      | true => exact quiet_step rfl rfl shrinks
      | false =>
        cases response with
        | none => exact quiet_step rfl rfl shrinks
        | some response =>
          exact ⟨used_of_length rfl, .give
            ⟨waiting, List.mem_of_getElem? listed, rfl, settled, aborted⟩ rfl shrinks⟩

/-- An owner's lease is settled without a response: what is removed, if anything, is the owner's
own reservation, which is unpublished or expired. -/
theorem settle_step (sound : store.Sound) (found : store.reservations[owner]? = some entry)
    (unsettled : entry.settled = false)
    (settled : after = ((if store.current = some owner then store.delete else store).update owner
      fun entry => { entry with settled := true }).resolve owner none) :
    store.slot.Step now (store.removal owner after) after.slot := by
  have kept := sound.reservations owner entry found
  by_cases current : store.current = some owner
  · rw [if_pos current] at settled
    have got : store.get = some (owner, entry) := get_eq_some.mpr ⟨current, found⟩
    have removal : store.removal owner after = some (.removed owner owner) := by
      simp [removal, settled, current]
    have cleared : after.record = none := by
      rw [settled, record_resolve]
      rfl
    have holds : after.held ⊆ store.held :=
      settled ▸ held_resolve_none (store.delete.update owner _) owner
    have remove : Slot.Change now store.slot
        (some (.removed (entry.record owner).owner (entry.record owner).owner)) after.slot :=
      .remove (record_of_get got)
        (.inl (MemoryReplayEntry.phase_of_none kept (kept.unsettled unsettled))) cleared holds
    rw [removal]
    exact ⟨used_of_length (by simp [settled]), remove⟩
  · rw [if_neg current] at settled
    have removal : store.removal owner after = none := by
      cases held : store.current <;> simp [removal, settled, held]
    have same : after.record = store.record := by
      -- the flag is no part of the record
      rw [settled, record_resolve, record, get_update, Option.map_map]
      cases got : store.get with
      | none => simp [record, got]
      | some held =>
        simp only [record, got, Option.map_some, Function.comp_apply]
        split <;> rfl
    rw [removal]
    exact quiet_step same (by simp [settled])
      (settled ▸ held_resolve_none (store.update owner _) owner)

theorem publish_step (sound : store.Sound) (got : store.get = some (owner, entry))
    (unsettled : entry.settled = false) (alive : now < entry.expiresAtMs) {response : String}
    (published : after = (store.update owner fun entry => { entry with
      settled := true, expiresAtMs := now + entry.ttlMs, response := some response }).resolve owner
        (some response)) :
    store.slot.Step now (some (.published owner entry.requestHash response)) after.slot := by
  have found := (get_eq_some.mp got).2
  have kept := sound.reservations owner entry found
  have none := kept.unsettled unsettled
  have written : after.record =
      some ⟨owner, entry.requestHash, now + entry.ttlMs, .published response⟩ := by
    rw [published, record_resolve]
    simp [record, got, MemoryReplayEntry.record, MemoryReplayEntry.phase, kept.unconsumed none]
  have holds : after.held ⊆ insert (entry.requestHash, response) store.held := by
    have changed : (store.update owner fun entry => { entry with
        settled := true, expiresAtMs := now + entry.ttlMs
        response := some response }).reservations[owner]? = some { entry with
          settled := true, expiresAtMs := now + entry.ttlMs, response := some response } := by
      rw [reservation_update, found, Option.map_some, if_pos rfl]
    rw [published]
    exact held_resolve_some owner (sound_write sound owner response fun entry => now + entry.ttlMs)
      changed response
  have publish : Slot.Change now store.slot
      (some (.published (entry.record owner).owner (entry.record owner).request response))
      after.slot :=
    .publish (record_of_get got) (MemoryReplayEntry.phase_of_none kept none) alive written holds
  exact ⟨used_of_length (by simp [published]), publish⟩

theorem complete_step (sound : store.Sound) (owner : Nat) (response : String) :
    store.slot.Step now (store.observe (now, .complete owner response))
      (store.complete now owner response).2.slot := by
  have quiet : store.slot.Step now none store.slot := quiet_step rfl rfl (Set.Subset.refl _)
  have unremoved : store.removal owner store = none := by
    cases current : store.current <;> simp [removal, current]
  rw [observe]
  cases found : store.reservations[owner]? with
  | none => simpa [complete, found, unremoved] using quiet
  | some entry =>
    cases settled : entry.settled with
    | true => simpa [complete, found, settled] using quiet
    | false =>
      by_cases lost : store.current ≠ some owner ∨ entry.expiresAtMs ≤ now
      · simp only [complete, found, settled, Bool.false_eq_true, if_false, if_pos lost]
        exact settle_step sound found settled rfl
      · simp only [complete, found, settled, Bool.false_eq_true, if_false, if_neg lost]
        obtain ⟨current, alive⟩ := not_or.mp lost
        exact publish_step sound (get_eq_some.mpr ⟨not_not.mp current, found⟩) settled
          (Nat.lt_of_not_le alive) rfl

theorem markConsumed_step :
    store.slot.Step now (store.observe (now, .markConsumed)) (store.markConsumed now).2.slot := by
  have quiet : store.slot.Step now none store.slot := quiet_step rfl rfl (Set.Subset.refl _)
  rw [observe]
  cases got : store.get with
  | none => simpa [markConsumed, got] using quiet
  | some held =>
    obtain ⟨owner, entry⟩ := held
    by_cases gone : entry.expiresAtMs ≤ now
    · simp only [markConsumed, got, if_pos gone]
      exact expire_step got gone
    · cases published : entry.response.isNone with
      | true => simpa [markConsumed, got, gone, published] using quiet
      | false =>
        simp only [markConsumed, got, if_neg gone, published, Bool.false_eq_true, if_false,
          Option.map_some]
        have written : (store.update owner fun entry => { entry with consumed := true }).record =
            some { entry.record owner with phase := .consumed } := by
          simp [record, got, MemoryReplayEntry.record, MemoryReplayEntry.phase]
        have consume : Slot.Change now store.slot
            (some (.consumed (entry.record owner).expiry))
            (store.update owner fun entry => { entry with consumed := true }).slot :=
          .consume (record_of_get got) (MemoryReplayEntry.phase_ne_reserved published) written
            (Set.Subset.refl _)
        exact ⟨used_of_length (by simp), consume⟩

theorem slot_step (sound : store.Sound) (call : Nat × MemoryReplayCall) :
    store.slot.Step call.1 (store.observe call) (store.step call).slot := by
  obtain ⟨now, call⟩ := call
  cases call with
  | acquire elapsed requestHash ttlMs aborted =>
    exact acquire_step sound elapsed requestHash ttlMs aborted
  | timeout waiter =>
    exact waiter_step waiter fun waiting => ⟨rfl, fun response outcome unaborted => by
      cases settled : waiting.outcome with
      | none => simp [settled] at outcome
      | some value => exact ⟨by simpa [settled] using outcome, unaborted⟩⟩
  | abortSignal waiter =>
    exact waiter_step waiter fun waiting => ⟨rfl, fun response _ unaborted => nomatch unaborted⟩
  | resume waiter => exact resume_step waiter
  | complete owner response => exact complete_step sound owner response
  | abort owner =>
    simp only [observe, step, abort]
    cases found : store.reservations[owner]? with
    | none =>
      have unremoved : store.removal owner store = none := by
        cases current : store.current <;> simp [removal, current]
      simpa [unremoved] using quiet_step rfl rfl (Set.Subset.refl _)
    | some entry =>
      cases settled : entry.settled with
      | true =>
        have unremoved : store.removal owner store = none := by
          cases current : store.current <;> simp [removal, current]
        simpa [settled, unremoved] using quiet_step rfl rfl (Set.Subset.refl _)
      | false =>
        simp only [settled, Bool.false_eq_true, if_false]
        exact settle_step sound found settled rfl
  | markConsumed => exact markConsumed_step
  | prune => exact dropExpired_step

end Steps

end MemoryReplayStore

end Tvic
