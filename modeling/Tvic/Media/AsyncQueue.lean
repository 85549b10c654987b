import Mathlib.Data.List.Range
import Tvic.Core.Dal
import Tvic.Lib.Run

/-!
# The async queue

`AsyncQueue` of `packages/media/src/async-queue.ts`. The promises of its `next` calls are numbered
in the order of the calls; what a method settles it returns beside the queue it leaves. An overflow
callback is host code and may use the queue while `push` waits for it, so its return is an event of
its own.
-/
namespace Tvic

inductive MaxBuffered where
  | number (value : Number)
  | infinity
  deriving DecidableEq, Repr

structure AsyncQueueOptions where
  maxBuffered : Option Nat
  positive : ∀ limit ∈ maxBuffered, 1 ≤ limit
  /-- Whether the options have an `onOverflow`. -/
  onOverflow : Bool

def asyncQueueDefaultMaxBuffered : Nat := 1024

def asyncQueueOptions (maxBuffered : Option MaxBuffered) (onOverflow : Bool) :
    Except String AsyncQueueOptions :=
  match maxBuffered.getD (.number (.int asyncQueueDefaultMaxBuffered)) with
  | .infinity => .ok { maxBuffered := none, positive := by simp, onOverflow }
  | .number value =>
    match accepted : value.safeInteger? 1 with
    | some limit =>
      .ok { maxBuffered := some limit
            positive := by
              rintro _ ⟨⟩
              exact (Number.safeInteger?_eq_some accepted).2.1
            onOverflow }
    | none => .error "AsyncQueue maxBuffered must be a positive safe integer"

/-- What a `next` call comes to. -/
inductive NextResult (α ε : Type) where
  | value (value : α)
  | done
  | rejected (error : ε)
  deriving DecidableEq, Repr

structure AsyncQueue (α ε : Type) where
  options : AsyncQueueOptions
  values : List α
  /-- The calls whose promises are pending. -/
  waiters : List Nat
  closed : Bool
  failed : Option ε
  claimed : Bool

/-- The promises that a method settles, in order. -/
abbrev Settled (α ε : Type) := List (Nat × NextResult α ε)

inductive PushAnswer where
  | accepted
  | refused
  | overflows
  deriving DecidableEq, Repr

variable {α ε : Type}

namespace AsyncQueue

def new (options : AsyncQueueOptions) : AsyncQueue α ε where
  options
  values := []
  waiters := []
  closed := false
  failed := none
  claimed := false

/-- `this.#values.length >= this.#maxBuffered`. -/
def full (queue : AsyncQueue α ε) : Bool :=
  queue.options.maxBuffered.any fun limit => limit ≤ queue.values.length

/-- `push` up to its overflow callback. -/
def push (value : α) (queue : AsyncQueue α ε) : PushAnswer × Settled α ε × AsyncQueue α ε :=
  if queue.closed then (.refused, [], queue)
  else
    match queue.waiters with
    | waiter :: waiters => (.accepted, [(waiter, .value value)], { queue with waiters })
    | [] =>
      if queue.full then
        (if queue.options.onOverflow then .overflows else .refused, [], queue)
      else (.accepted, [], { queue with values := queue.values ++ [value] })

def fail (error : ε) (queue : AsyncQueue α ε) : Settled α ε × AsyncQueue α ε :=
  if queue.closed then ([], queue)
  else
    (queue.waiters.map fun waiter => (waiter, .rejected error),
      { queue with failed := some error, closed := true, values := [], waiters := [] })

def close (queue : AsyncQueue α ε) : Settled α ε × AsyncQueue α ε :=
  if queue.closed then ([], queue)
  else
    (queue.waiters.map fun waiter => (waiter, .done), { queue with closed := true, waiters := [] })

/-- `#next`, of the call with the given number. -/
def next (call : Nat) (queue : AsyncQueue α ε) : Settled α ε × AsyncQueue α ε :=
  match queue.failed with
  | some error => ([(call, .rejected error)], queue)
  | none =>
    match queue.values with
    | value :: values => ([(call, .value value)], { queue with values })
    | [] =>
      if queue.closed then ([(call, .done)], queue)
      else ([], { queue with waiters := queue.waiters ++ [call] })

/-- An iterator's `return`, its `release` apart. -/
def consumerReturn (queue : AsyncQueue α ε) : Settled α ε × AsyncQueue α ε :=
  close { queue with values := [] }

/-- An iterator's `throw`, its `release` apart. -/
def consumerThrow (error : Option ε) (queue : AsyncQueue α ε) : Settled α ε × AsyncQueue α ε :=
  match error with
  | none => close { queue with values := [] }
  | some error => fail error { queue with values := [] }

end AsyncQueue

/-! ### The queue among its users -/

/-- The queue, its iterators and the promises of their `next` calls. -/
structure QueueWorld (α ε : Type) where
  queue : AsyncQueue α ε
  iterators : List Bool
  /-- The iterator of each `next` call. -/
  calls : List Nat
  results : Settled α ε
  /-- The values for which `push` has returned true. -/
  accepted : List α
  overflowing : Nat

/-- A call of the queue, the return of an overflow callback with what it has returned or thrown, and
the continuation of a `next` call after its `await`. -/
inductive QueueEvent (α ε : Type) where
  | push (value : α)
  | overflowReturned (error : Option ε)
  | fail (error : ε)
  | close
  | iterator
  | next (iterator : Nat)
  | resume (call : Nat)
  | consumerReturn (iterator : Nat)
  | consumerThrow (iterator : Nat) (error : Option ε)

namespace QueueWorld

def new (options : AsyncQueueOptions) : QueueWorld α ε where
  queue := .new options
  iterators := []
  calls := []
  results := []
  accepted := []
  overflowing := 0

/-- The world after a method that settles promises. -/
def settle (world : QueueWorld α ε) (outcome : Settled α ε × AsyncQueue α ε) : QueueWorld α ε :=
  { world with results := world.results ++ outcome.1, queue := outcome.2 }

def release (iterator : Nat) (world : QueueWorld α ε) : QueueWorld α ε :=
  if world.iterators[iterator]? = some false then
    { world with
      iterators := world.iterators.set iterator true
      queue := { world.queue with claimed := false } }
  else world

/-- The `try` and `catch` of `next` once the promise of the call is settled. -/
def resume (call : Nat) (world : QueueWorld α ε) : QueueWorld α ε :=
  match world.results.lookup call, world.calls[call]? with
  | some .done, some iterator | some (.rejected _), some iterator => world.release iterator
  | _, _ => world

/-- `new Error("AsyncQueue overflow")` is the given error. -/
def step (overflow : ε) (world : QueueWorld α ε) : QueueEvent α ε → QueueWorld α ε
  | .push value =>
    let (answer, outcome) := world.queue.push value
    let world := world.settle outcome
    match answer with
    | .accepted => { world with accepted := world.accepted ++ [value] }
    | .refused => world
    | .overflows => { world with overflowing := world.overflowing + 1 }
  | .overflowReturned error =>
    if world.overflowing = 0 then world
    else
      { world.settle (world.queue.fail (error.getD overflow)) with
        overflowing := world.overflowing - 1 }
  | .fail error => world.settle (world.queue.fail error)
  | .close => world.settle world.queue.close
  | .iterator =>
    if world.queue.claimed then world
    else
      { world with
        iterators := world.iterators ++ [false]
        queue := { world.queue with claimed := true } }
  | .next iterator =>
    if iterator < world.iterators.length then
      { world.settle (world.queue.next world.calls.length) with
        calls := world.calls ++ [iterator] }
    else world
  | .resume call => world.resume call
  | .consumerReturn iterator =>
    if iterator < world.iterators.length then
      (world.settle world.queue.consumerReturn).release iterator
    else world
  | .consumerThrow iterator error =>
    if iterator < world.iterators.length then
      (world.settle (world.queue.consumerThrow error)).release iterator
    else world

def after (options : AsyncQueueOptions) (overflow : ε) (events : List (QueueEvent α ε)) :
    QueueWorld α ε :=
  Lib.run (step overflow) (new options) events

theorem after_snoc (options : AsyncQueueOptions) (overflow : ε) (events : List (QueueEvent α ε))
    (last : QueueEvent α ε) :
    after options overflow (events ++ [last]) = (after options overflow events).step overflow last :=
  Lib.run_snoc _ _ _ _

end QueueWorld

end Tvic
