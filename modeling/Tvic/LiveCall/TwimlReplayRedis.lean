import Tvic.LiveCall.TwimlReplayMemory

/-!
# The Redis TwiML replay store

`createRedisTwimlReplayStore` and its `redisOwnerLease`, for one key and any number of processes.
A script runs at the server in one step; between sending a command and its execution, and between
the execution and the arrival of the reply, anything may happen, and a caller may have given up by
then. A key is there up to the millisecond it expires in, where `PTTL` is already 0.
-/
namespace Tvic

open Lib.Publication

inductive ReplayStatus where
  | pending
  | completed
  | consumed
  deriving DecidableEq, Repr

structure RedisReplayRecord where
  hash : String
  owner : Nat
  status : ReplayStatus
  response : Option String
  deriving DecidableEq, Repr

/-- The key's value and when it expires. -/
structure StoredReplay where
  record : RedisReplayRecord
  expiresAtMs : Nat

section Scripts

variable (now : Nat) (key : Option StoredReplay)

def redisGet : Option StoredReplay :=
  key.filter fun stored => now ≤ stored.expiresAtMs

/-- What `REDIS_RESERVE_SCRIPT` or a `GET` answers. -/
inductive ReserveReply where
  | reserved
  | raw (record : Option RedisReplayRecord)

def reserveScript (pending : RedisReplayRecord) (ttlMs : Nat) :
    ReserveReply × Option StoredReplay :=
  match redisGet now key with
  | some current => (.raw (some current.record), key)
  | none => (.reserved, some ⟨pending, now + ttlMs⟩)

def completeScript (owner : Nat) (response : String) (ttlMs : Nat) :
    Bool × Option StoredReplay :=
  match redisGet now key with
  | none => (false, key)
  | some current =>
    if current.record.owner ≠ owner then (false, key)
    else
      match current.record.status with
      | .completed => (decide (current.record.response = some response), key)
      | .consumed => (false, key)
      | .pending =>
        if current.expiresAtMs - now = 0 then (false, key)
        else
          (true, some ⟨⟨current.record.hash, current.record.owner, .completed, some response⟩,
            now + ttlMs⟩)

def abortScript (owner : Nat) : Bool × Option StoredReplay :=
  match redisGet now key with
  | none => (false, key)
  | some current =>
    if current.record.owner ≠ owner ∨ current.record.status ≠ .pending then (false, key)
    else (true, none)

def consumeScript : Bool × Option StoredReplay :=
  match redisGet now key with
  | none => (false, key)
  | some current =>
    match current.record.status with
    | .consumed => (true, key)
    | .pending => (false, key)
    | .completed =>
      if current.expiresAtMs - now = 0 then (false, key)
      else
        (true, some ⟨⟨current.record.hash, current.record.owner, .consumed, none⟩,
          now + (current.expiresAtMs - now)⟩)

end Scripts

inductive AcquirePhase where
  | reserving
  | polling
  | done
  deriving DecidableEq, Repr

/-- An `acquire` of some process; its owner id is its place in the list of all of them. -/
structure RedisAcquire where
  requestHash : String
  ttlMs : Nat
  phase : AcquirePhase
  /-- The lease it returned, by whether that is settled. -/
  lease : Option Bool

/-- A command that was sent and has not been executed. -/
inductive ReplayCommand where
  | reserve (owner : Nat)
  | get (owner : Nat)
  | complete (owner : Nat) (response : String)
  | abort (owner : Nat)
  | consume

/-- A reply on its way to a caller. -/
inductive ReplayReply where
  | acquire (owner : Nat) (reply : ReserveReply)
  | complete (owner : Nat) (published : Bool)

structure RedisReplayStore where
  key : Option StoredReplay
  acquires : List RedisAcquire
  sent : List ReplayCommand
  replies : List ReplayReply

/-- What `acquire` makes of a record it was sent; nothing when it goes on polling. -/
def RedisAcquire.answer (call : RedisAcquire) : Option RedisReplayRecord → Option TwimlReplayAcquire
  | none => some (if call.phase = .reserving then .conflict else .busy)
  | some current =>
    if current.hash ≠ call.requestHash then some .conflict
    else
      match current.status, current.response with
      | .consumed, _ => some .consumed
      | .completed, some response => some (.replayed response)
      | _, _ => none

def RedisAcquire.seenOfReply (call : RedisAcquire) :
    Option TwimlReplayAcquire → Option (Act Nat String String)
  | some (.replayed response) => some (.replayed call.requestHash response)
  | _ => none

namespace RedisReplayStore

def new : RedisReplayStore := ⟨none, [], [], []⟩

variable (store : RedisReplayStore) (now : Nat)

def send (command : ReplayCommand) : RedisReplayStore :=
  { store with sent := store.sent ++ [command] }

def update (owner : Nat) (change : RedisAcquire → RedisAcquire) : RedisReplayStore :=
  { store with acquires := store.acquires.modify owner change }

/-- `acquire` up to its first command. -/
def acquire (requestHash : String) (ttlMs : Int) : Except String Unit × RedisReplayStore :=
  match validTtl ttlMs with
  | .error message => (.error message, store)
  | .ok ttl =>
    (.ok (), ({ store with acquires := store.acquires ++ [⟨requestHash, ttl, .reserving, none⟩] } :
      RedisReplayStore).send (.reserve store.acquires.length))

def execute (command : ReplayCommand) : RedisReplayStore :=
  match command with
  | .reserve owner =>
    match store.acquires[owner]? with
    | none => store
    | some call =>
      let (reply, key) :=
        reserveScript now store.key ⟨call.requestHash, owner, .pending, none⟩ call.ttlMs
      { store with key, replies := store.replies ++ [.acquire owner reply] }
  | .get owner =>
    { store with
      replies := store.replies ++
        [.acquire owner (.raw ((redisGet now store.key).map StoredReplay.record))] }
  | .complete owner response =>
    match store.acquires[owner]? with
    | none => store
    | some call =>
      let (published, key) := completeScript now store.key owner response call.ttlMs
      { store with key, replies := store.replies ++ [.complete owner published] }
  | .abort owner => { store with key := (abortScript now store.key owner).2 }
  | .consume => { store with key := (consumeScript now store.key).2 }

/-- An acquire takes a reply; `aborted` says whether its signal is by then. Afterwards it has
returned, with the lease if it is the owner, or sent its next `GET`. -/
def takeReply (owner : Nat) (call : RedisAcquire) (reply : ReserveReply) (aborted : Bool) :
    Option TwimlReplayAcquire × RedisReplayStore :=
  if call.phase = .done then (none, store)
  else if aborted then
    let store := store.update owner fun call => { call with phase := .done }
    match reply with
    | .reserved => (some .busy, store.send (.abort owner))
    | .raw _ => (some .busy, store)
  else
    match reply with
    | .reserved =>
      (some (.owner owner), store.update owner fun call =>
        { call with phase := .done, lease := some false })
    | .raw raw =>
      match call.answer raw with
      | some result => (some result, store.update owner fun call => { call with phase := .done })
      | none =>
        (none, (store.update owner fun call => { call with phase := .polling }).send (.get owner))

/-- The reply at this place arrives. -/
def deliver (index : Nat) (aborted : Bool) : Option TwimlReplayAcquire × RedisReplayStore :=
  match store.replies[index]? with
  | none => (none, store)
  | some reply =>
    let store : RedisReplayStore := { store with replies := store.replies.eraseIdx index }
    match reply with
    | .acquire owner reply =>
      match store.acquires[owner]? with
      | none => (none, store)
      | some call => store.takeReply owner call reply aborted
    | .complete owner published =>
      (none, if published then store.update owner fun call =>
        { call with lease := call.lease.map fun _ => true } else store)

/-- A command of the acquire fails or takes too long, its signal is aborted, or its deadline is
over: it returns `busy` or throws, after an `abort` if it may have reserved. -/
def giveUp (owner : Nat) : RedisReplayStore :=
  match store.acquires[owner]? with
  | none => store
  | some call =>
    let done := store.update owner fun call => { call with phase := .done }
    match call.phase with
    | .reserving => done.send (.abort owner)
    | .polling => done
    | .done => store

/-- `complete` of a lease sends its command unless the lease is settled. -/
def complete (owner : Nat) (response : String) : RedisReplayStore :=
  match store.acquires[owner]?.bind RedisAcquire.lease with
  | some false => store.send (.complete owner response)
  | _ => store

def abort (owner : Nat) : RedisReplayStore :=
  match store.acquires[owner]?.bind RedisAcquire.lease with
  | some false =>
    (store.update owner fun call => { call with lease := some true }).send (.abort owner)
  | _ => store

end RedisReplayStore

/-- What the processes and the server may do next. -/
inductive RedisReplayEvent where
  | acquire (requestHash : String) (ttlMs : Int)
  | execute (index : Nat)
  | deliver (index : Nat) (aborted : Bool)
  | giveUp (owner : Nat)
  | complete (owner : Nat) (response : String)
  | abort (owner : Nat)
  | markConsumed

namespace RedisReplayStore

variable (store : RedisReplayStore)

def unsent (index : Nat) : Option (ReplayCommand × RedisReplayStore) :=
  store.sent[index]?.map fun command => (command, { store with sent := store.sent.eraseIdx index })

/-- An event at a reading of the server's clock. -/
def step : Nat × RedisReplayEvent → RedisReplayStore
  | (_, .acquire requestHash ttlMs) => (store.acquire requestHash ttlMs).2
  | (now, .execute index) =>
    match store.unsent index with
    | some (command, store) => store.execute now command
    | none => store
  | (_, .deliver index aborted) => (store.deliver index aborted).2
  | (_, .giveUp owner) => store.giveUp owner
  | (_, .complete owner response) => store.complete owner response
  | (_, .abort owner) => store.abort owner
  | (_, .markConsumed) => store.send .consume

/-- A key as long as it can be read, its last millisecond included. -/
def goneAt (stored : StoredReplay) : Nat :=
  stored.expiresAtMs + 1

/-- What is seen when the server executes a command. -/
def seenOfCommand (now : Nat) : ReplayCommand → Option (Act Nat String String)
  | .reserve owner =>
    match store.acquires[owner]? with
    | none => none
    | some call =>
      match reserveScript now store.key ⟨call.requestHash, owner, .pending, none⟩ call.ttlMs with
      | (.reserved, some stored) => some (.reserved owner call.requestHash (goneAt stored))
      | _ => none
  | .get _ => none
  | .complete owner response =>
    match store.acquires[owner]?, redisGet now store.key with
    | some call, some current =>
      if current.record.status = .pending ∧
          (completeScript now store.key owner response call.ttlMs).1 then
        some (.published owner current.record.hash response)
      else none
    | _, _ => none
  | .abort owner =>
    match redisGet now store.key, abortScript now store.key owner with
    | some current, (true, _) => some (.removed owner current.record.owner)
    | _, _ => none
  | .consume =>
    match redisGet now store.key, consumeScript now store.key with
    | some current, (true, _) => some (.consumed (goneAt current))
    | _, _ => none

def observe : Nat × RedisReplayEvent → Option (Act Nat String String)
  | (now, .execute index) =>
    match store.unsent index with
    | some (command, store) => store.seenOfCommand now command
    | none => none
  | (_, .deliver index aborted) =>
    match store.replies[index]? with
    | some (.acquire owner _) =>
      store.acquires[owner]?.bind fun call => call.seenOfReply (store.deliver index aborted).1
    | _ => none
  | _ => none

end RedisReplayStore

end Tvic
