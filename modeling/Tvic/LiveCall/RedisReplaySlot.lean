import Mathlib.Data.List.Perm.Basic
import Mathlib.Data.Set.Insert
import Tvic.LiveCall.TwimlReplayRedis

/-!
# The Redis replay store as a slot

The record of the slot is the key's value, there for one millisecond more than its expiry says, and
an acquire holds a response from the moment the server has sent it until the reply is taken.
-/
namespace Tvic

open Lib.Publication

namespace RedisReplayRecord

def phase (record : RedisReplayRecord) : Phase String :=
  match record.status, record.response with
  | .consumed, _ => .consumed
  | .completed, some response => .published response
  | _, _ => .reserved

variable {record : RedisReplayRecord}

theorem phase_of_pending (pending : record.status = .pending) : record.phase = .reserved := by
  simp [phase, pending]

theorem phase_of_completed (completed : record.status = .completed) {response : String}
    (published : record.response = some response) : record.phase = .published response := by
  simp [phase, completed, published]

theorem phase_of_consumed (consumed : record.status = .consumed) : record.phase = .consumed := by
  simp [phase, consumed]

end RedisReplayRecord

theorem redisGet_eq_some {now : Nat} {key : Option StoredReplay} {stored : StoredReplay} :
    redisGet now key = some stored ↔ key = some stored ∧ now ≤ stored.expiresAtMs := by
  simp [redisGet, Option.filter_eq_some_iff]

theorem redisGet_eq_none {now : Nat} {key : Option StoredReplay} :
    redisGet now key = none ↔ ∀ stored, key = some stored → stored.expiresAtMs < now := by
  cases key <;> simp [redisGet, Option.filter_eq_none_iff]

section Scripts

variable {now : Nat} {key : Option StoredReplay}

def Whole (key : Option StoredReplay) : Prop :=
  ∀ stored, key = some stored → stored.record.status = .completed → stored.record.response.isSome

theorem reserveScript_cases (pending : RedisReplayRecord) (ttlMs : Nat) :
    (∃ current, redisGet now key = some current ∧
        reserveScript now key pending ttlMs = (.raw (some current.record), key)) ∨
      redisGet now key = none ∧
        reserveScript now key pending ttlMs = (.reserved, some ⟨pending, now + ttlMs⟩) := by
  unfold reserveScript
  cases redisGet now key with
  | none => exact .inr ⟨rfl, rfl⟩
  | some current => exact .inl ⟨current, rfl, rfl⟩

/-- Either the script leaves the key alone and publishes nothing, or it publishes for the owner of
a pending record that is not about to expire. -/
theorem completeScript_cases (owner : Nat) (response : String) (ttlMs : Nat) :
    ((completeScript now key owner response ttlMs).2 = key ∧
        ∀ current, redisGet now key = some current → current.record.status = .pending →
          (completeScript now key owner response ttlMs).1 = false) ∨
      ∃ current, redisGet now key = some current ∧ current.record.owner = owner ∧
        current.record.status = .pending ∧ now < current.expiresAtMs ∧
        completeScript now key owner response ttlMs =
          (true, some ⟨⟨current.record.hash, owner, .completed, some response⟩, now + ttlMs⟩) := by
  unfold completeScript
  cases redisGet now key with
  | none => exact .inl ⟨rfl, nofun⟩
  | some current =>
    by_cases owns : current.record.owner = owner
    · cases status : current.record.status with
      | pending =>
        by_cases gone : current.expiresAtMs - now = 0
        · exact .inl (by simp [owns, status, gone])
        · refine .inr ⟨current, rfl, owns, status, by omega, ?_⟩
          simp [owns, status, gone]
      | completed => exact .inl (by simp [owns, status])
      | consumed => exact .inl (by simp [owns, status])
    · exact .inl (by simp [owns])

theorem abortScript_cases (owner : Nat) :
    abortScript now key owner = (false, key) ∨
      ∃ current, redisGet now key = some current ∧ current.record.owner = owner ∧
        current.record.status = .pending ∧ abortScript now key owner = (true, none) := by
  unfold abortScript
  cases redisGet now key with
  | none => exact .inl rfl
  | some current =>
    by_cases other : current.record.owner ≠ owner ∨ current.record.status ≠ .pending
    · exact .inl (by simp only [if_pos other])
    · obtain ⟨owns, pending⟩ := not_or.mp other
      exact .inr ⟨current, rfl, not_not.mp owns, not_not.mp pending, by simp only [if_neg other]⟩

theorem consumeScript_cases :
    consumeScript now key = (false, key) ∨
      ∃ current, redisGet now key = some current ∧
        (current.record.status = .completed ∧ consumeScript now key =
            (true, some ⟨⟨current.record.hash, current.record.owner, .consumed, none⟩,
              current.expiresAtMs⟩) ∨
          current.record.status = .consumed ∧ consumeScript now key = (true, key)) := by
  unfold consumeScript
  cases redisGet now key with
  | none => exact .inl rfl
  | some current =>
    cases status : current.record.status with
    | pending => exact .inl (by simp [status])
    | consumed => exact .inr ⟨current, rfl, .inr ⟨status, by simp [status]⟩⟩
    | completed =>
      by_cases gone : current.expiresAtMs - now = 0
      · exact .inl (by simp [status, gone])
      · refine .inr ⟨current, rfl, .inl ⟨status, ?_⟩⟩
        have kept : now + (current.expiresAtMs - now) = current.expiresAtMs := by omega
        simp [status, gone, kept]

end Scripts

namespace StoredReplay

def slotRecord (stored : StoredReplay) : Record Nat String String :=
  ⟨stored.record.owner, stored.record.hash, RedisReplayStore.goneAt stored, stored.record.phase⟩

end StoredReplay

def ReplayCommand.owner : ReplayCommand → Option Nat
  | .reserve owner => some owner
  | .get owner => some owner
  | .complete owner _ => some owner
  | .abort owner => some owner
  | .consume => none

def ReplayCommand.reserves : ReplayCommand → Option Nat
  | .reserve owner => some owner
  | _ => none

def ReplayReply.owner : ReplayReply → Nat
  | .acquire owner _ => owner
  | .complete owner _ => owner

namespace RedisReplayStore

variable (store : RedisReplayStore)

/-- The responses on their way to acquires that have not given up. -/
def held : Set (String × String) :=
  { known | ∃ (owner : Nat) (call : RedisAcquire) (record : RedisReplayRecord),
      ReplayReply.acquire owner (.raw (some record)) ∈ store.replies ∧
      store.acquires[owner]? = some call ∧ call.phase ≠ .done ∧ call.requestHash = known.1 ∧
      record.hash = known.1 ∧ record.status = .completed ∧ record.response = some known.2 }

/-- The owners whose reservation was executed. -/
def used : Set Nat :=
  { owner | owner < store.acquires.length ∧ owner ∉ store.sent.filterMap ReplayCommand.reserves }

def slot : Slot Nat String String :=
  ⟨store.key.map StoredReplay.slotRecord, store.held, store.used⟩

/-- A completed record has its response; commands and replies belong to acquires there are, and no
reservation is on its way twice. -/
structure Sound : Prop where
  completed : Whole store.key
  sent : ∀ command ∈ store.sent, ∀ owner ∈ command.owner, owner < store.acquires.length
  replies : ∀ reply ∈ store.replies, reply.owner < store.acquires.length
  once : (store.sent.filterMap ReplayCommand.reserves).Nodup

variable {store} {now : Nat}

theorem quiet_step {after : RedisReplayStore} (key : after.key = store.key)
    (used : store.used ⊆ after.used) (held : after.held ⊆ store.held) :
    store.slot.Step now none after.slot :=
  ⟨used, .quiet (by simp [slot, key]) held⟩

section Updates

variable (owner : Nat) (change : RedisAcquire → RedisAcquire)

@[simp] theorem key_update : (store.update owner change).key = store.key := rfl
@[simp] theorem sent_update : (store.update owner change).sent = store.sent := rfl
@[simp] theorem replies_update : (store.update owner change).replies = store.replies := rfl

@[simp] theorem length_update :
    (store.update owner change).acquires.length = store.acquires.length := by
  simp [update]

theorem used_update : (store.update owner change).used = store.used := by
  simp [used]

theorem held_update (keeps : ∀ call, (change call).requestHash = call.requestHash)
    (revives : ∀ call, store.acquires[owner]? = some call → (change call).phase ≠ .done →
      call.phase ≠ .done) :
    (store.update owner change).held ⊆ store.held := by
  rintro known ⟨index, after, record, sent, found, waits, hash, rest⟩
  have found' : (store.acquires[index]?).map
      (fun call => if owner = index then change call else call) = some after := by
    simpa [update, List.getElem?_modify] using found
  obtain ⟨before, was, rfl⟩ := Option.map_eq_some_iff.mp found'
  refine ⟨index, before, record, sent, was, ?_⟩
  split at waits
  · rename_i here
    rw [if_pos here] at hash
    exact ⟨revives before (here ▸ was) waits, (keeps before) ▸ hash, rest⟩
  · rename_i elsewhere
    rw [if_neg elsewhere] at hash
    exact ⟨waits, hash, rest⟩

variable (store) (command : ReplayCommand)

theorem held_send : (store.send command).held = store.held := rfl

theorem used_send (other : command.reserves = none) : (store.send command).used = store.used := by
  simp [used, send, other]

end Updates

section Sound

variable (sound : store.Sound)
include sound

theorem sound_update (owner : Nat) (change : RedisAcquire → RedisAcquire) :
    (store.update owner change).Sound where
  completed := sound.completed
  sent := by simpa using sound.sent
  replies := by simpa using sound.replies
  once := sound.once

theorem sound_send {command : ReplayCommand} (other : command.reserves = none)
    (bound : ∀ owner ∈ command.owner, owner < store.acquires.length) :
    (store.send command).Sound where
  completed := sound.completed
  sent := fun earlier member => by
    rcases List.mem_append.mp member with member | member
    · exact sound.sent earlier member
    · rw [List.mem_singleton.mp member]
      exact bound
  replies := sound.replies
  once := by simpa [send, other] using sound.once

theorem sound_acquire (requestHash : String) (ttlMs : Int) :
    (store.acquire requestHash ttlMs).2.Sound := by
  unfold acquire
  split
  · exact sound
  refine ⟨sound.completed, fun command member owner of => ?_, fun reply member => ?_, ?_⟩
  · simp only [send, List.length_append, List.length_singleton]
    rcases List.mem_append.mp member with member | member
    · exact Nat.lt_succ_of_lt (sound.sent command member owner of)
    · rw [List.mem_singleton.mp member, ReplayCommand.owner, Option.mem_some_iff] at of
      omega
  · simpa [send] using Nat.lt_succ_of_lt (sound.replies reply member)
  · -- the owner is new
    simp only [send, List.filterMap_append, List.filterMap_cons, ReplayCommand.reserves,
      List.filterMap_nil, List.nodup_append]
    refine ⟨sound.once, by simp, fun owner member other new => ?_⟩
    obtain ⟨command, sent, reserves⟩ := List.mem_filterMap.mp member
    rw [List.mem_singleton.mp new]
    refine Nat.ne_of_lt (sound.sent command sent owner ?_)
    cases command <;> simp_all [ReplayCommand.reserves, ReplayCommand.owner]

theorem sound_execute (now : Nat) {command : ReplayCommand}
    (bound : ∀ owner ∈ command.owner, owner < store.acquires.length) :
    (store.execute now command).Sound := by
  have replied : ∀ (key : Option StoredReplay) (reply : ReplayReply), Whole key →
      reply.owner < store.acquires.length →
      ({ store with key, replies := store.replies ++ [reply] } : RedisReplayStore).Sound := by
    intro key reply whole known
    refine ⟨whole, sound.sent, fun other member => ?_, sound.once⟩
    rcases List.mem_append.mp member with member | member
    · exact sound.replies other member
    · rw [List.mem_singleton.mp member]
      exact known
  cases command with
  | reserve owner =>
    simp only [execute]
    split
    · exact sound
    refine replied _ _ ?_ (bound owner rfl)
    rcases @reserveScript_cases now store.key _ _ with ⟨_, _, same⟩ | ⟨_, written⟩
    · rw [same]
      exact sound.completed
    · rw [written]
      rintro stored ⟨⟩ completed
      exact nomatch completed
  | get owner => exact replied _ _ sound.completed (bound owner rfl)
  | complete owner response =>
    simp only [execute]
    split
    · exact sound
    refine replied _ _ ?_ (bound owner rfl)
    rcases completeScript_cases _ _ _ with ⟨same, _⟩ | ⟨_, _, _, _, _, written⟩
    · rw [same]
      exact sound.completed
    · rw [written]
      rintro stored ⟨⟩ -
      rfl
  | abort owner =>
    refine { sound with completed := ?_ }
    simp only [execute]
    rcases abortScript_cases owner with same | ⟨_, _, _, _, removed⟩
    · rw [same]
      exact sound.completed
    · rw [removed]
      exact fun stored impossible => nomatch impossible
  | consume =>
    refine { sound with completed := ?_ }
    simp only [execute]
    rcases consumeScript_cases with same | ⟨_, _, ⟨_, written⟩ | ⟨_, same⟩⟩
    · rw [same]
      exact sound.completed
    · rw [written]
      rintro stored ⟨⟩ completed
      exact nomatch completed
    · rw [same]
      exact sound.completed

theorem sound_unsent (index : Nat) :
    ({ store with sent := store.sent.eraseIdx index } : RedisReplayStore).Sound where
  completed := sound.completed
  sent := fun command member => sound.sent command (List.mem_of_mem_eraseIdx member)
  replies := sound.replies
  once := sound.once.sublist ((List.eraseIdx_sublist _ _).filterMap _)

theorem sound_takeReply {owner : Nat} (known : owner < store.acquires.length) (call : RedisAcquire)
    (reply : ReserveReply) (aborted : Bool) :
    (store.takeReply owner call reply aborted).2.Sound := by
  have updated := fun change => sound_update sound owner change
  have sends : ∀ (change : RedisAcquire → RedisAcquire) (command : ReplayCommand),
      command.reserves = none → command.owner = some owner →
      ((store.update owner change).send command).Sound := fun change command other of =>
    sound_send (updated change) other fun index same => by
      rw [of, Option.mem_some_iff] at same
      simpa [← same] using known
  unfold takeReply
  split
  · exact sound
  split
  · cases reply with
    | reserved => exact sends _ _ rfl rfl
    | raw raw => exact updated _
  · cases reply with
    | reserved => exact updated _
    | raw raw =>
      simp only
      split
      · exact updated _
      · exact sends _ _ rfl rfl

theorem sound_deliver (index : Nat) (aborted : Bool) : (store.deliver index aborted).2.Sound := by
  unfold deliver
  split
  · exact sound
  have taken : ({ store with replies := store.replies.eraseIdx index } : RedisReplayStore).Sound :=
    ⟨sound.completed, sound.sent, fun reply member =>
      sound.replies reply (List.mem_of_mem_eraseIdx member), sound.once⟩
  split
  · simp only
    split
    · exact taken
    · rename_i call found
      exact sound_takeReply taken (List.getElem?_eq_some_iff.mp found).1 call _ aborted
  · simp only
    split
    · exact sound_update taken _ _
    · exact taken

theorem sound_step (event : Nat × RedisReplayEvent) : (store.step event).Sound := by
  obtain ⟨now, event⟩ := event
  cases event with
  | acquire requestHash ttlMs => exact sound_acquire sound requestHash ttlMs
  | execute index =>
    simp only [step, unsent]
    cases listed : store.sent[index]? with
    | none => exact sound
    | some command =>
      exact sound_execute (sound_unsent sound index) now
        (sound.sent command (List.mem_of_getElem? listed))
  | deliver index aborted => exact sound_deliver sound index aborted
  | giveUp owner =>
    simp only [step, giveUp]
    split
    · exact sound
    · rename_i call found
      have known := (List.getElem?_eq_some_iff.mp found).1
      split
      · exact sound_send (sound_update sound owner _) rfl fun index same => by
          rw [ReplayCommand.owner, Option.mem_some_iff] at same
          simpa [← same] using known
      · exact sound_update sound owner _
      · exact sound
  | complete owner response =>
    simp only [step, complete]
    split
    · rename_i lease
      obtain ⟨call, found, _⟩ := Option.bind_eq_some_iff.mp lease
      exact sound_send sound rfl fun index same => by
        rw [ReplayCommand.owner, Option.mem_some_iff] at same
        exact same ▸ (List.getElem?_eq_some_iff.mp found).1
    · exact sound
  | abort owner =>
    simp only [step, abort]
    split
    · rename_i lease
      obtain ⟨call, found, _⟩ := Option.bind_eq_some_iff.mp lease
      exact sound_send (sound_update sound owner _) rfl fun index same => by
        rw [ReplayCommand.owner, Option.mem_some_iff] at same
        simpa [← same] using (List.getElem?_eq_some_iff.mp found).1
    · exact sound
  | markConsumed => exact sound_send sound rfl (by simp [ReplayCommand.owner])

end Sound

section Steps

theorem used_unsent (index : Nat) :
    store.used ⊆ ({ store with sent := store.sent.eraseIdx index } : RedisReplayStore).used := by
  rintro owner ⟨known, done⟩
  exact ⟨known, fun sent => done (((List.eraseIdx_sublist _ _).filterMap _).mem sent)⟩

theorem answered_step (owner : Nat) {after : RedisReplayStore} (key : after.key = store.key)
    (acquires : after.acquires = store.acquires) (used : store.used ⊆ after.used)
    (replies : after.replies = store.replies ++
      [.acquire owner (.raw ((redisGet now store.key).map StoredReplay.record))]) :
    store.slot.Step now none after.slot := by
  have holds : ∀ known ∈ after.held, known ∈ store.held ∨ ∃ stored, store.key = some stored ∧
      stored.record.hash = known.1 ∧ stored.record.status = .completed ∧
      stored.record.response = some known.2 := by
    rintro known ⟨index, call, record, sent, found, waits, request, hash, completed, response⟩
    rw [replies] at sent
    rcases List.mem_append.mp sent with sent | sent
    · exact .inl ⟨index, call, record, sent, acquires ▸ found, waits, request, hash, completed,
        response⟩
    · simp only [List.mem_singleton, ReplayReply.acquire.injEq, ReserveReply.raw.injEq] at sent
      obtain ⟨stored, got, rfl⟩ := Option.map_eq_some_iff.mp sent.2.symm
      exact .inr ⟨stored, (redisGet_eq_some.mp got).1, hash, completed, response⟩
  by_cases holding : ∃ stored response, store.key = some stored ∧
      stored.record.status = .completed ∧ stored.record.response = some response
  · obtain ⟨stored, response, found, completed, published⟩ := holding
    refine ⟨used, .hold (congrArg (Option.map StoredReplay.slotRecord) found)
      (RedisReplayRecord.phase_of_completed completed published) (by simp [slot, key]) ?_⟩
    intro known member
    rcases holds known member with old | ⟨other, again, hash, _, given⟩
    · exact .inr old
    · rw [found, Option.some.injEq] at again
      subst again
      rw [published, Option.some.injEq] at given
      exact .inl (Prod.ext hash.symm given.symm)
  · refine quiet_step key used fun known member => ?_
    rcases holds known member with old | ⟨stored, found, _, completed, published⟩
    · exact old
    · exact absurd ⟨stored, known.2, found, completed, published⟩ holding

theorem held_replied (reply : ReplayReply) {after : RedisReplayStore}
    (acquires : after.acquires = store.acquires) (replies : after.replies = store.replies ++ [reply])
    (other : ∀ owner record, reply ≠ .acquire owner (.raw (some record))) :
    after.held ⊆ store.held := by
  rintro known ⟨index, call, record, sent, found, rest⟩
  rw [replies] at sent
  rcases List.mem_append.mp sent with sent | sent
  · exact ⟨index, call, record, sent, acquires ▸ found, rest⟩
  · exact absurd (List.mem_singleton.mp sent).symm (other index record)

theorem not_mem_eraseIdx {commands : List ReplayCommand}
    (once : (commands.filterMap ReplayCommand.reserves).Nodup) {index : Nat}
    {command : ReplayCommand} (listed : commands[index]? = some command) {owner : Nat}
    (reserves : command.reserves = some owner) :
    owner ∉ (commands.eraseIdx index).filterMap ReplayCommand.reserves := by
  obtain ⟨bound, rfl⟩ := List.getElem?_eq_some_iff.mp listed
  have first := ((List.getElem_cons_eraseIdx_perm bound).filterMap ReplayCommand.reserves).nodup_iff.mpr once
  rw [List.filterMap_cons_some reserves, List.nodup_cons] at first
  exact first.1

theorem execute_step {before : RedisReplayStore} (sound : before.Sound) (index : Nat)
    {command : ReplayCommand} (listed : before.sent[index]? = some command)
    (unsent : store = { before with sent := before.sent.eraseIdx index }) :
    before.slot.Step now (store.seenOfCommand now command) (store.execute now command).slot := by
  have grows : before.used ⊆ store.used := unsent ▸ used_unsent index
  have key : store.key = before.key := by rw [unsent]
  have held : store.held = before.held := by rw [unsent]; rfl
  have acquires : store.acquires = before.acquires := by rw [unsent]
  have replies : store.replies = before.replies := by rw [unsent]
  have quiet : before.slot.Step now none store.slot := quiet_step key grows held.le
  cases command with
  | get owner =>
    exact answered_step owner key acquires grows (by simp [execute, key, replies])
  | reserve owner =>
    have known := sound.sent _ (List.mem_of_getElem? listed) owner rfl
    obtain ⟨call, found⟩ : ∃ call, store.acquires[owner]? = some call :=
      ⟨_, by rw [acquires]; exact List.getElem?_eq_getElem known⟩
    simp only [seenOfCommand, execute, found]
    rcases @reserveScript_cases now store.key
      ⟨call.requestHash, owner, .pending, none⟩ call.ttlMs with ⟨current, got, same⟩ | ⟨free, written⟩
    · rw [same]
      exact answered_step owner key acquires grows (by simp [← key, got, replies])
    · rw [written]
      have expired : ∀ record, before.slot.record = some record → record.expiry ≤ now := by
        rintro record has
        obtain ⟨stored, at_, rfl⟩ := Option.map_eq_some_iff.mp has
        exact redisGet_eq_none.mp free stored (key.trans at_)
      refine ⟨grows, .reserve expired (fun ⟨_, done⟩ => done ?_) ⟨?_, ?_⟩ rfl ?_⟩
      · exact List.mem_filterMap.mpr ⟨_, List.mem_of_getElem? listed, rfl⟩
      · simpa [acquires] using known
      · rw [unsent]
        exact not_mem_eraseIdx sound.once listed rfl
      · exact held_replied (.acquire owner .reserved) acquires (by rw [← replies]) (by simp)
  | complete owner response =>
    cases found : store.acquires[owner]? with
    | none =>
      simp only [seenOfCommand, execute, found]
      exact quiet
    | some call =>
      simp only [seenOfCommand, execute, found]
      rcases @completeScript_cases now store.key owner response call.ttlMs with
        ⟨same, unpublished⟩ | ⟨current, got, owns, pending, alive, written⟩
      · have replied : before.slot.Step now none
            ({ store with
              key := (completeScript now store.key owner response call.ttlMs).2
              replies := store.replies ++
                [.complete owner (completeScript now store.key owner response call.ttlMs).1] } :
              RedisReplayStore).slot :=
          quiet_step (same.trans key) grows
            (held_replied (.complete owner _) acquires (by rw [← replies]) (by simp))
        cases got : redisGet now store.key with
        | none => exact replied
        | some current =>
          simp only
          split
          · rename_i both
            rw [unpublished current got both.1] at both
            exact nomatch both.2
          · exact replied
      · subst owns
        simp only [got, pending, written, and_self, if_true]
        have has : before.slot.record = some current.slotRecord := by
          rw [slot, ← key, (redisGet_eq_some.mp got).1, Option.map_some]
        let stored : StoredReplay :=
          ⟨⟨current.record.hash, current.record.owner, .completed, some response⟩, now + call.ttlMs⟩
        let after : RedisReplayStore :=
          { store with
            key := some stored
            replies := store.replies ++ [.complete current.record.owner true] }
        have holds : after.held ⊆ before.held :=
          held_replied (.complete current.record.owner true) acquires
            (congrArg (· ++ [ReplayReply.complete current.record.owner true]) replies) (by simp)
        have publish : Slot.Change now before.slot
            (some (.published current.slotRecord.owner current.slotRecord.request response))
            after.slot :=
          .publish has (RedisReplayRecord.phase_of_pending pending) (Nat.lt_succ_of_lt alive)
            (show some stored.slotRecord = some
              ⟨current.record.owner, current.record.hash, goneAt stored, .published response⟩ from rfl)
            (holds.trans (Set.subset_insert _ _))
        exact ⟨grows, publish⟩
  | abort owner =>
    simp only [seenOfCommand, execute]
    rcases @abortScript_cases now store.key owner with
      same | ⟨current, got, owns, pending, removed⟩
    · rw [same]
      split
      · rename_i impossible
        simp at impossible
      · exact quiet
    · simp only [got, removed]
      have has : before.slot.record = some current.slotRecord := by
        rw [slot, ← key, (redisGet_eq_some.mp got).1, Option.map_some]
      have remove : Slot.Change now before.slot
          (some (.removed current.slotRecord.owner current.slotRecord.owner))
          ({ store with key := none } : RedisReplayStore).slot :=
        .remove has (.inl (RedisReplayRecord.phase_of_pending pending)) rfl held.le
      rw [← owns]
      exact ⟨grows, remove⟩
  | consume =>
    simp only [seenOfCommand, execute]
    rcases @consumeScript_cases now store.key with
      same | ⟨current, got, consumes⟩
    · rw [same]
      split
      · rename_i impossible
        simp at impossible
      · exact quiet
    · have has : before.slot.record = some current.slotRecord := by
        rw [slot, ← key, (redisGet_eq_some.mp got).1, Option.map_some]
      have consume : ∀ key : Option StoredReplay,
          key.map StoredReplay.slotRecord = some { current.slotRecord with phase := .consumed } →
          current.slotRecord.phase ≠ .reserved →
          Slot.Change now before.slot (some (.consumed current.slotRecord.expiry))
            ({ store with key } : RedisReplayStore).slot :=
        fun key written published => .consume has published written held.le
      rcases consumes with ⟨completed, written⟩ | ⟨consumed, same⟩
      · simp only [got, written]
        obtain ⟨response, published⟩ := Option.isSome_iff_exists.mp
          (sound.completed current (key.symm.trans (redisGet_eq_some.mp got).1) completed)
        refine ⟨grows, consume _ (by simp [StoredReplay.slotRecord, goneAt, RedisReplayRecord.phase]) ?_⟩
        simp [StoredReplay.slotRecord, RedisReplayRecord.phase_of_completed completed published]
      · simp only [got, same]
        have phase := RedisReplayRecord.phase_of_consumed consumed
        refine ⟨grows, consume _ ?_ ?_⟩
        · simp [(redisGet_eq_some.mp got).1, StoredReplay.slotRecord, phase]
        · simp [StoredReplay.slotRecord, phase]

theorem update_step (before : RedisReplayStore) (key : store.key = before.key)
    (used : before.used ⊆ store.used) (held : store.held ⊆ before.held) (owner : Nat)
    (change : RedisAcquire → RedisAcquire)
    (keeps : ∀ call, (change call).requestHash = call.requestHash)
    (revives : ∀ call, store.acquires[owner]? = some call → (change call).phase ≠ .done →
      call.phase ≠ .done) :
    before.slot.Step now none (store.update owner change).slot :=
  quiet_step key (used.trans (used_update owner change).ge)
    ((held_update owner change keeps revives).trans held)

theorem update_send_step (before : RedisReplayStore) (key : store.key = before.key)
    (used : before.used ⊆ store.used) (held : store.held ⊆ before.held) (owner : Nat)
    (change : RedisAcquire → RedisAcquire) {command : ReplayCommand}
    (other : command.reserves = none) (keeps : ∀ call, (change call).requestHash = call.requestHash)
    (revives : ∀ call, store.acquires[owner]? = some call → (change call).phase ≠ .done →
      call.phase ≠ .done) :
    before.slot.Step now none ((store.update owner change).send command).slot :=
  quiet_step key
    (by rw [used_send _ _ other, used_update]; exact used)
    ((held_update owner change keeps revives).trans held)

theorem answer_eq_replayed {call : RedisAcquire} {raw : Option RedisReplayRecord} {response : String}
    (answered : call.answer raw = some (.replayed response)) :
    ∃ record, raw = some record ∧ record.hash = call.requestHash ∧ record.status = .completed ∧
      record.response = some response := by
  cases raw with
  | none =>
    simp only [RedisAcquire.answer, Option.some.injEq] at answered
    split at answered <;> simp at answered
  | some record =>
    simp only [RedisAcquire.answer] at answered
    split at answered
    · simp at answered
    · rename_i same
      split at answered
      · simp at answered
      · rename_i status published
        rw [Option.some.injEq, TwimlReplayAcquire.replayed.injEq] at answered
        exact ⟨record, rfl, not_not.mp same, status, answered ▸ published⟩
      · simp at answered

theorem takeReply_step (before : RedisReplayStore) (key : store.key = before.key)
    (acquires : store.acquires = before.acquires) (used : before.used ⊆ store.used)
    (held : store.held ⊆ before.held) {owner : Nat} {call : RedisAcquire}
    (found : before.acquires[owner]? = some call) {reply : ReserveReply}
    (arrived : ReplayReply.acquire owner reply ∈ before.replies) (aborted : Bool) :
    before.slot.Step now (call.seenOfReply (store.takeReply owner call reply aborted).1)
      (store.takeReply owner call reply aborted).2.slot := by
  generalize taken : store.takeReply owner call reply aborted = outcome
  have done : ∀ lease : RedisAcquire → Option Bool, before.slot.Step now none
      (store.update owner fun call => { call with phase := .done, lease := lease call }).slot :=
    fun lease => update_step before key used held owner _ (fun _ => rfl) (by simp)
  unfold takeReply at taken
  split at taken
  · subst taken
    exact quiet_step key used held
  rename_i waits
  split at taken
  · split at taken
    · subst taken
      exact update_send_step before key used held owner _ rfl (fun _ => rfl) (by simp)
    · subst taken
      exact done RedisAcquire.lease
  split at taken
  · subst taken
    exact done fun _ => some false
  rename_i raw
  split at taken
  · rename_i result answered
    subst taken
    cases result with
    | replayed response =>
      obtain ⟨record, rfl, hash, completed, published⟩ := answer_eq_replayed answered
      have holds : (store.update owner fun call => { call with phase := .done }).held ⊆ before.held :=
        Set.Subset.trans (held_update owner _ (by simp) (by simp)) held
      exact ⟨(done RedisAcquire.lease).used, .give ⟨owner, call, record, arrived, found, waits, rfl,
        hash, completed, published⟩ (by simp [slot, key]) holds⟩
    | owner lease => exact done RedisAcquire.lease
    | consumed => exact done RedisAcquire.lease
    | conflict => exact done RedisAcquire.lease
    | busy => exact done RedisAcquire.lease
  · subst taken
    refine update_send_step before key used held owner _ rfl (fun _ => rfl) fun other same _ => ?_
    rw [acquires, found, Option.some.injEq] at same
    exact same ▸ waits

theorem deliver_step (index : Nat) (aborted : Bool) :
    store.slot.Step now (store.observe (now, .deliver index aborted))
      (store.deliver index aborted).2.slot := by
  rw [observe, deliver]
  cases arrived : store.replies[index]? with
  | none => exact quiet_step rfl (Set.Subset.refl _) (Set.Subset.refl _)
  | some reply =>
    have shrinks : ({ store with replies := store.replies.eraseIdx index } :
        RedisReplayStore).held ⊆ store.held := by
      rintro known ⟨owner, call, record, sent, rest⟩
      exact ⟨owner, call, record, List.mem_of_mem_eraseIdx sent, rest⟩
    have taken : store.slot.Step now none
        ({ store with replies := store.replies.eraseIdx index } : RedisReplayStore).slot :=
      quiet_step rfl (Set.Subset.refl _) shrinks
    cases reply with
    | complete owner published =>
      simp only
      split
      · refine update_step store ?_ ?_ shrinks owner _ (fun _ => rfl) fun _ _ waits => waits
        · rfl
        · exact Set.Subset.refl _
      · exact taken
    | acquire owner reply =>
      simp only
      cases found : store.acquires[owner]? with
      | none => exact taken
      | some call =>
        obtain ⟨rest, is⟩ : ∃ rest : RedisReplayStore,
            rest = { store with replies := store.replies.eraseIdx index } := ⟨_, rfl⟩
        have step : store.slot.Step now (call.seenOfReply (rest.takeReply owner call reply aborted).1)
            (rest.takeReply owner call reply aborted).2.slot :=
          takeReply_step store (by rw [is]) (by rw [is]) (by rw [is]; exact Set.Subset.refl _)
            (is ▸ shrinks) found (List.mem_of_getElem? arrived) aborted
        rw [is] at step
        simpa only [found, Option.bind_some] using step

theorem slot_step (sound : store.Sound) (event : Nat × RedisReplayEvent) :
    store.slot.Step event.1 (store.observe event) (store.step event).slot := by
  obtain ⟨now, event⟩ := event
  have quiet : store.slot.Step now none store.slot :=
    quiet_step rfl (Set.Subset.refl _) (Set.Subset.refl _)
  cases event with
  | acquire requestHash ttlMs =>
    simp only [observe, step, acquire]
    split
    · exact quiet
    refine quiet_step rfl ?_ ?_
    · rintro owner ⟨known, done⟩
      simp only [send, used, Set.mem_ofPred_eq, List.length_append, List.filterMap_append,
        List.mem_append, not_or]
      exact ⟨by simp; omega, done, by simp [ReplayCommand.reserves]; omega⟩
    · rintro known ⟨owner, call, record, sent, found, rest⟩
      -- replies go to acquires that were there before
      have bound : owner < store.acquires.length := sound.replies _ sent
      refine ⟨owner, call, record, sent, ?_, rest⟩
      simpa [send, List.getElem?_append_left bound] using found
  | execute index =>
    simp only [observe, step, unsent]
    cases listed : store.sent[index]? with
    | none => exact quiet
    | some command => exact execute_step sound index listed rfl
  | deliver index aborted => exact deliver_step index aborted
  | giveUp owner =>
    simp only [observe, step, giveUp]
    split
    · exact quiet
    split
    · exact update_send_step store rfl (Set.Subset.refl _) (Set.Subset.refl _) owner _ rfl
        (fun _ => rfl) (by simp)
    · exact update_step store rfl (Set.Subset.refl _) (Set.Subset.refl _) owner _ (fun _ => rfl)
        (by simp)
    · exact quiet
  | complete owner response =>
    simp only [observe, step, complete]
    split
    · exact quiet_step rfl (used_send _ _ rfl).ge (held_send _ _).le
    · exact quiet
  | abort owner =>
    simp only [observe, step, abort]
    split
    · exact update_send_step store rfl (Set.Subset.refl _) (Set.Subset.refl _) owner _ rfl
        (fun _ => rfl) fun _ _ waits => waits
    · exact quiet
  | markConsumed => exact quiet_step rfl (used_send _ _ rfl).ge (held_send _ _).le

end Steps

end RedisReplayStore

end Tvic
