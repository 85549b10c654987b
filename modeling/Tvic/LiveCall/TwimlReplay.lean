import Tvic.LiveCall.MemoryReplaySlot
import Tvic.LiveCall.RedisReplaySlot

/-!
# TwiML replay protection

Both replay stores keep a slot, so what they do over a run of calls for one key is what a slot may
do: one live reservation at a time, published by its owner only, replayed only for its request and
no more once it is consumed. A response that was handed to a waiting acquire and has not been
returned is outside the store; a publication or a consumption in between makes it out of date.
-/
namespace Tvic

open Lib Lib.Publication

namespace MemoryReplayStore

/-- What is seen of a run of the in-memory store. -/
def trace (calls : List (Nat × MemoryReplayCall)) : List (Nat × Act Nat String String) :=
  Publication.trace step observe new calls

/-- Nothing is published or consumed while the race of a waiting acquire is settled with a
response that it has not returned yet. -/
def PromptCalls (calls : List (Nat × MemoryReplayCall)) : Prop :=
  PromptRun step observe slot new calls

def idle (store : MemoryReplayStore) : Bool :=
  store.waiters.all fun waiter => waiter.aborted || waiter.outcome.join.isNone

theorem held_of_idle {store : MemoryReplayStore} (idle : store.idle = true) :
    store.slot.held = ∅ := by
  refine Set.eq_empty_of_forall_notMem fun known ⟨waiter, member, _, outcome, unaborted⟩ => ?_
  have none := List.all_eq_true.mp idle waiter member
  simp [outcome, unaborted] at none

theorem sound_new : new.Sound := ⟨by simp [new], by simp [new]⟩

theorem held_new : new.slot.held = ∅ := by
  simp [slot, held, new]

end MemoryReplayStore

namespace RedisReplayStore

/-- What is seen of a run of the Redis store. -/
def trace (events : List (Nat × RedisReplayEvent)) : List (Nat × Act Nat String String) :=
  Publication.trace step observe new events

/-- Nothing is published or consumed while a completed record is on its way to an acquire. -/
def PromptEvents (events : List (Nat × RedisReplayEvent)) : Prop :=
  PromptRun step observe slot new events

def idle (store : RedisReplayStore) : Bool :=
  store.replies.all fun reply =>
    match reply with
    | .acquire _ (.raw (some _)) => false
    | _ => true

theorem held_of_idle {store : RedisReplayStore} (idle : store.idle = true) :
    store.slot.held = ∅ := by
  refine Set.eq_empty_of_forall_notMem fun known ⟨_, _, _, sent, _⟩ => ?_
  have none := List.all_eq_true.mp idle _ sent
  simp at none

theorem sound_new : new.Sound :=
  ⟨by simp [Whole, new], by simp [new], by simp [new], by simp [new]⟩

theorem held_new : new.slot.held = ∅ := by
  simp [slot, held, new]

end RedisReplayStore

/-- **TwiML replay protection.** In every run of either store that publishes and consumes only while
no acquire holds a response, the history is protected. -/
theorem twiml_replay_protection (calls : List (Nat × MemoryReplayCall))
    (events : List (Nat × RedisReplayEvent)) (clock : Nat) :
    (Nondecreasing (fun call => some call.1) calls → MemoryReplayStore.PromptCalls calls →
      Upto (fun call => some call.1) calls clock →
      Protected clock (MemoryReplayStore.trace calls)) ∧
    (Nondecreasing (fun event => some event.1) events → RedisReplayStore.PromptEvents events →
      Upto (fun event => some event.1) events clock →
      Protected clock (RedisReplayStore.trace events)) :=
  ⟨fun steady prompt upto => run_protected MemoryReplayStore.Sound .new
      (fun _ call sound => MemoryReplayStore.sound_step sound call)
      (fun _ call sound => MemoryReplayStore.slot_step sound call)
      MemoryReplayStore.sound_new rfl MemoryReplayStore.held_new steady prompt upto,
    fun steady prompt upto => run_protected RedisReplayStore.Sound .new
      (fun _ event sound => RedisReplayStore.sound_step sound event)
      (fun _ event sound => RedisReplayStore.slot_step sound event)
      RedisReplayStore.sound_new rfl RedisReplayStore.held_new steady prompt upto⟩

/-- A retry waits, the owner completes and the stream consumes the response, and only then does the
retry go on. -/
def consumedBeforeRetry : List (Nat × MemoryReplayCall) :=
  [(0, .acquire 0 "hash" 10000 false), (1, .acquire 0 "hash" 10000 false),
    (2, .complete 0 "<Response />"), (3, .markConsumed), (4, .resume 0)]

/-- The retry is given the response that was consumed. -/
theorem consumedBeforeRetry_replayed :
    Nondecreasing (fun call => some call.1) consumedBeforeRetry ∧
      ¬ Protected 4 (MemoryReplayStore.trace consumedBeforeRetry) := by
  have seen : MemoryReplayStore.trace consumedBeforeRetry =
      [(0, .reserved 0 "hash" 10000), (2, .published 0 "hash" "<Response />"),
        (3, .consumed 10002), (4, .replayed "hash" "<Response />")] := rfl
  refine ⟨by simp [Nondecreasing, consumedBeforeRetry], fun safe => ?_⟩
  rw [seen] at safe
  have gone := (safe.faithful [(0, .reserved 0 "hash" 10000), (2, .published 0 "hash" "<Response />"),
    (3, .consumed 10002)] 4 _ [] rfl).2 3 10002 (by simp)
  exact absurd gone (by decide)

/-- The owner completes, a waiting retry is given the response, and the stream consumes it. -/
def consumedAfterRetry : List (Nat × MemoryReplayCall) :=
  [(0, .acquire 0 "hash" 10000 false), (1, .acquire 0 "hash" 10000 false),
    (2, .complete 0 "<Response />"), (3, .resume 0), (4, .markConsumed),
    (5, .acquire 0 "hash" 10000 false)]

/-- The same at the Redis server, with a process for the owner and one for the retry. -/
def consumedAfterPoll : List (Nat × RedisReplayEvent) :=
  [(0, .acquire "hash" 10000), (1, .execute 0), (1, .deliver 0 false),
    (2, .complete 0 "<Response />"), (3, .execute 0), (3, .deliver 0 false),
    (4, .acquire "hash" 10000), (5, .execute 0), (5, .deliver 0 false),
    (6, .markConsumed), (7, .execute 0),
    (8, .acquire "hash" 10000), (9, .execute 0), (9, .deliver 0 false)]

theorem twiml_replay_protection_consumedAfter :
    Protected 5 (MemoryReplayStore.trace consumedAfterRetry) ∧
      Protected 9 (RedisReplayStore.trace consumedAfterPoll) := by
  refine ⟨(twiml_replay_protection consumedAfterRetry [] 5).1 ?_ ?_ ?_,
    (twiml_replay_protection [] consumedAfterPoll 9).2 ?_ ?_ ?_⟩
  · simp [Nondecreasing, consumedAfterRetry]
  · exact ⟨prompt_of_quiet (by rfl), prompt_of_quiet (by rfl),
      prompt_of_idle (MemoryReplayStore.held_of_idle (by rfl)), prompt_of_quiet (by rfl),
      prompt_of_idle (MemoryReplayStore.held_of_idle (by rfl)), prompt_of_quiet (by rfl), trivial⟩
  · simp [Upto, consumedAfterRetry]
  · simp [Nondecreasing, consumedAfterPoll]
  · exact ⟨prompt_of_quiet (by rfl), prompt_of_quiet (by rfl), prompt_of_quiet (by rfl),
      prompt_of_quiet (by rfl), prompt_of_idle (RedisReplayStore.held_of_idle (by rfl)),
      prompt_of_quiet (by rfl), prompt_of_quiet (by rfl), prompt_of_quiet (by rfl),
      prompt_of_quiet (by rfl), prompt_of_quiet (by rfl),
      prompt_of_idle (RedisReplayStore.held_of_idle (by rfl)), prompt_of_quiet (by rfl),
      prompt_of_quiet (by rfl), prompt_of_quiet (by rfl), trivial⟩
  · simp [Upto, consumedAfterPoll]

end Tvic
