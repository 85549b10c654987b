import Tvic.Lib.Run
import Tvic.Tools.IdempotencyEffects

/-!
# The idempotency ledger

What the in-memory store is for: a ledger of the record last written under each key, where only
a release removes anything and a record counts until it expires. The store drops expired records,
one by one as its iterator comes to them and those that are asked for at once. `run_agrees` says
that nobody can tell: after every run the store holds the ledger's record or, where that has
expired, perhaps none, and the next call is answered as the ledger would answer it.
-/
namespace Tvic

open Lib

variable {V J α : Type}

/-- A call of the store at its moment, or a `pruneExpired` at a reading of the clock. -/
inductive IdempotencyEvent (V : Type) where
  | call (moment : Moment) (call : ToolIdempotencyCall V)
  | pruneExpired (now : Nat)

namespace IdempotencyEvent

def start : IdempotencyEvent V → Nat
  | .call moment _ => moment.readings.expiry
  | .pruneExpired now => now

/-- The last reading of the clock. -/
def finish : IdempotencyEvent V → Nat
  | .call moment _ => moment.readings.active
  | .pruneExpired now => now

theorem start_le_finish (event : IdempotencyEvent V) : event.start ≤ event.finish := by
  cases event with
  | pruneExpired now => exact Nat.le_refl now
  | call moment call =>
    obtain ⟨first, second, third⟩ := moment.readings.ordered
    exact Nat.le_trans first (Nat.le_trans second third)

end IdempotencyEvent

/-- The clock never goes back from one event to the next. -/
def SteadyClock (events : List (IdempotencyEvent V)) : Prop :=
  events.Pairwise fun earlier later => earlier.finish ≤ later.start

theorem SteadyClock.earlier {before after : List (IdempotencyEvent V)}
    (clock : SteadyClock (before ++ after)) : SteadyClock before :=
  (List.pairwise_append.mp clock).1

theorem SteadyClock.upto_last {events : List (IdempotencyEvent V)} {last : IdempotencyEvent V}
    (clock : SteadyClock (events ++ [last])) : ∀ event ∈ events, event.finish ≤ last.start :=
  fun event member => (List.pairwise_append.mp clock).2.2 event member last (by simp)

theorem SteadyClock.upto_finish {events : List (IdempotencyEvent V)} {last : IdempotencyEvent V}
    (clock : SteadyClock (events ++ [last])) :
    ∀ event ∈ events ++ [last], event.finish ≤ last.finish := by
  intro event member
  rcases List.mem_append.mp member with early | only
  · exact Nat.le_trans (clock.upto_last event early) last.start_le_finish
  · exact Nat.le_of_eq (congrArg _ (List.mem_singleton.mp only))

namespace InMemoryToolIdempotencyStore

variable (serialization : Serialization V J)

def step (store : InMemoryToolIdempotencyStore J) :
    IdempotencyEvent V → InMemoryToolIdempotencyStore J
  | .call moment call => (store.serve serialization moment call).2
  | .pruneExpired now => (store.pruneExpired now).2

end InMemoryToolIdempotencyStore

/-- The record last written under each key and not released since. -/
abbrev IdempotencyLedger (J : Type) := String → Option (ToolIdempotencyRecord J)

namespace IdempotencyLedger

def apply (key : String) (ledger : IdempotencyLedger J) :
    Change (ToolIdempotencyRecord J) → IdempotencyLedger J
  | .keep => ledger
  | .write record => Function.update ledger key (some record)
  | .remove => Function.update ledger key none

/-- A method run on the ledger: it finds the record of its key unless that has expired. -/
def perform (readings : Readings) (key : String) (method : Method J α)
    (ledger : IdempotencyLedger J) : Except DalError α × IdempotencyLedger J :=
  match method with
  | .error result => (result, ledger)
  | .ok next =>
    let (result, change) := next (live (·.expiresAtMs) readings.active (ledger key))
    (result, ledger.apply key change)

variable (serialization : Serialization V J)

def serve (moment : Moment) (call : ToolIdempotencyCall V) (ledger : IdempotencyLedger J) :
    Except DalError (ToolIdempotencyAnswer J) × IdempotencyLedger J :=
  ledger.perform moment.readings call.key
    (InMemoryToolIdempotencyStore.method serialization moment call)

def step (ledger : IdempotencyLedger J) : IdempotencyEvent V → IdempotencyLedger J
  | .call moment call => (ledger.serve serialization moment call).2
  | .pruneExpired _ => ledger

/-- The ledger of a run of the store. -/
def after (events : List (IdempotencyEvent V)) : IdempotencyLedger J :=
  run (step serialization) (fun _ => none) events

theorem after_snoc (events : List (IdempotencyEvent V)) (last : IdempotencyEvent V) :
    after serialization (events ++ [last]) = (after serialization events).step serialization last :=
  run_snoc _ _ _ _

end IdempotencyLedger

/-- At the moment `now` the store holds of every record what a ledger entry may have become. -/
def Agrees (now : Nat) (store : InMemoryToolIdempotencyStore J) (ledger : IdempotencyLedger J) :
    Prop :=
  ∀ key, Stored (·.expiresAtMs) now (store.get key) (ledger key)

namespace Agrees

variable {now later : Nat} {store : InMemoryToolIdempotencyStore J} {ledger : IdempotencyLedger J}

section

variable (agrees : Agrees now store ledger)
include agrees

theorem mono (le : now ≤ later) : Agrees later store ledger :=
  fun key => (agrees key).mono le

theorem delete_expired {key : String} (gone : live (·.expiresAtMs) now (store.get key) = none) :
    Agrees now (store.delete key) ledger := by
  intro other
  by_cases same : other = key
  · subst same
    rw [IteratedMap.get_delete_self]
    exact (agrees other).drop gone
  · rw [IteratedMap.get_delete_of_ne _ same]
    exact agrees other

theorem active (readings : Readings) (le : now ≤ readings.prune) (key : String) :
    (store.active readings key).1 = live (·.expiresAtMs) readings.active (ledger key) ∧
      Agrees readings.active (store.active readings key).2 ledger := by
  have pruned : Agrees readings.prune (store.pruneExpiredBatch 32 readings.prune) ledger :=
    fun other => IteratedMap.pruneBatch_stored 32 store other _ ((agrees.mono le) other)
  have agrees := pruned.mono readings.ordered.2.2
  have answer := (agrees key).live_eq (Nat.le_refl _)
  unfold InMemoryToolIdempotencyStore.active
  dsimp only
  split
  next missing =>
    rw [missing] at answer
    exact ⟨answer, agrees⟩
  next found present =>
    rw [present] at answer
    split
    next expired =>
      have gone : live (·.expiresAtMs) readings.active (some found) = none := by
        simpa [live_eq_none] using expired
      exact ⟨gone.symm.trans answer, agrees.delete_expired (present ▸ gone)⟩
    next counts =>
      have whole : live (·.expiresAtMs) readings.active (some found) = some found :=
        live_eq_some.mpr ⟨rfl, Nat.lt_of_not_le counts⟩
      exact ⟨whole.symm.trans answer, agrees⟩

theorem apply (key : String) (change : Change (ToolIdempotencyRecord J)) :
    Agrees now (store.apply key change) (ledger.apply key change) := by
  intro other
  cases change with
  | keep => exact agrees other
  | write record =>
    by_cases same : other = key
    · subst same
      exact .inl (by simp [InMemoryToolIdempotencyStore.apply, IdempotencyLedger.apply])
    · simpa [InMemoryToolIdempotencyStore.apply, IdempotencyLedger.apply, same,
        IteratedMap.get_set_of_ne _ same] using agrees other
  | remove =>
    by_cases same : other = key
    · subst same
      exact .inl (by simp [InMemoryToolIdempotencyStore.apply, IdempotencyLedger.apply])
    · simpa [InMemoryToolIdempotencyStore.apply, IdempotencyLedger.apply, same,
        IteratedMap.get_delete_of_ne _ same] using agrees other

theorem perform {readings : Readings} (le : now ≤ readings.expiry) (key : String)
    (method : Method J α) :
    (store.perform readings key method).1 = (ledger.perform readings key method).1 ∧
      Agrees readings.active (store.perform readings key method).2
        (ledger.perform readings key method).2 := by
  obtain ⟨first, second, third⟩ := readings.ordered
  cases method with
  | error result => exact ⟨rfl, agrees.mono (by omega)⟩
  | ok next =>
    obtain ⟨found, agrees⟩ := agrees.active readings (by omega) key
    simp only [InMemoryToolIdempotencyStore.perform, IdempotencyLedger.perform, found]
    exact ⟨trivial, agrees.apply key _⟩

theorem delete_all (expired : List (String × ToolIdempotencyRecord J))
    (gone : ∀ entry ∈ expired, live (·.expiresAtMs) now (store.get entry.1) = none) :
    Agrees now (expired.foldl (fun store entry => store.delete entry.1) store) ledger := by
  induction expired generalizing store with
  | nil => exact agrees
  | cons entry rest ih =>
    rw [List.foldl_cons]
    apply ih (agrees.delete_expired (gone entry (by simp)))
    intro other member
    by_cases same : other.1 = entry.1
    · rw [same, IteratedMap.get_delete_self]
      rfl
    · rw [IteratedMap.get_delete_of_ne _ same]
      exact gone other (by simp [member])

theorem pruneExpired :
    Agrees now (store.pruneExpired now).2 ledger := by
  apply agrees.delete_all
  intro entry member
  obtain ⟨member, expired⟩ := List.mem_filter.mp member
  rw [store.get_of_mem member, live_eq_none]
  rintro _ ⟨⟩
  simpa using expired

end

theorem step (serialization : Serialization V J) (agrees : Agrees now store ledger)
    (event : IdempotencyEvent V) (le : now ≤ event.start) :
    Agrees event.finish (store.step serialization event) (ledger.step serialization event) := by
  cases event with
  | call moment call => exact (agrees.perform le call.key _).2
  | pruneExpired now' => exact (agrees.mono le).pruneExpired

end Agrees

section Runs

variable (serialization : Serialization V J)

/-- The store after a run that began with an empty one. -/
def storeAfter (events : List (IdempotencyEvent V)) : InMemoryToolIdempotencyStore J :=
  run (InMemoryToolIdempotencyStore.step serialization) InMemoryToolIdempotencyStore.new events

/-- What the store answers to a call at the end of a run. -/
def answerAfter (events : List (IdempotencyEvent V)) (moment : Moment)
    (call : ToolIdempotencyCall V) : Except DalError (ToolIdempotencyAnswer J) :=
  ((storeAfter serialization events).serve serialization moment call).1

variable {serialization} {events : List (IdempotencyEvent V)}

variable (serialization) in
theorem run_agrees (clock : SteadyClock events) (now : Nat)
    (upto : ∀ event ∈ events, event.finish ≤ now) :
    Agrees now (storeAfter serialization events) (IdempotencyLedger.after serialization events) := by
  induction events using List.reverseRecOn generalizing now with
  | nil => exact fun key => .inl rfl
  | append_singleton events last ih =>
    have before := ih clock.earlier _ clock.upto_last
    have agrees := before.step serialization last (Nat.le_refl _)
    rw [storeAfter, run_snoc, IdempotencyLedger.after_snoc]
    exact agrees.mono (upto last (by simp))

variable (serialization) in
theorem answerAfter_eq {moment : Moment} {call : ToolIdempotencyCall V}
    (clock : SteadyClock (events ++ [.call moment call])) :
    answerAfter serialization events moment call =
      ((IdempotencyLedger.after serialization events).serve serialization moment call).1 := by
  have agrees := run_agrees serialization clock.earlier _ clock.upto_last
  exact (agrees.perform (Nat.le_refl _) call.key _).1

end Runs

end Tvic
