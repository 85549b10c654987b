import Tvic.Media.AsyncQueue

/-!
# What the async queue delivers

`QueueRule` is the queue as its users need to know it: ten things that can happen to the values, the
pending calls and the settled ones. `step_rule` says that every event of the queue is one of them or
changes none of these, and the invariants are proved rule by rule.
-/
namespace Tvic

variable {α ε : Type}

/-- What the users of a queue see of it. -/
structure QueueView (α ε : Type) where
  values : List α
  waiters : List Nat
  closed : Bool
  failed : Option ε
  calls : Nat
  results : Settled α ε
  accepted : List α

/-- What can happen to a queue whose buffer has the given limit; only a consumer that leaves drops
values on the way. -/
inductive QueueRule (limit : Option Nat) (leaving : Prop) : QueueView α ε → QueueView α ε → Prop where
  | handOver (view : QueueView α ε) (value : α) (waiter : Nat) (waiters : List Nat)
      (isOpen : view.closed = false) (waiting : view.waiters = waiter :: waiters) :
      QueueRule limit leaving view { view with
        waiters
        results := view.results ++ [(waiter, .value value)]
        accepted := view.accepted ++ [value] }
  | buffer (view : QueueView α ε) (value : α) (isOpen : view.closed = false)
      (idle : view.waiters = []) (room : ∀ n ∈ limit, view.values.length < n) :
      QueueRule limit leaving view { view with
        values := view.values ++ [value]
        accepted := view.accepted ++ [value] }
  | fail (view : QueueView α ε) (error : ε) (isOpen : view.closed = false) :
      QueueRule limit leaving view { view with
        values := []
        waiters := []
        closed := true
        failed := some error
        results := view.results ++ view.waiters.map fun waiter => (waiter, .rejected error) }
  | close (view : QueueView α ε) (isOpen : view.closed = false) :
      QueueRule limit leaving view { view with
        waiters := []
        closed := true
        results := view.results ++ view.waiters.map fun waiter => (waiter, .done) }
  | leave (view : QueueView α ε) (left : leaving) (isOpen : view.closed = false) :
      QueueRule limit leaving view { view with
        values := []
        waiters := []
        closed := true
        results := view.results ++ view.waiters.map fun waiter => (waiter, .done) }
  | discard (view : QueueView α ε) (left : leaving) (isClosed : view.closed = true) :
      QueueRule limit leaving view { view with values := [] }
  | take (view : QueueView α ε) (value : α) (values : List α) (running : view.failed = none)
      (buffered : view.values = value :: values) :
      QueueRule limit leaving view { view with
        values
        calls := view.calls + 1
        results := view.results ++ [(view.calls, .value value)] }
  | finish (view : QueueView α ε) (running : view.failed = none) (isClosed : view.closed = true)
      (empty : view.values = []) :
      QueueRule limit leaving view { view with
        calls := view.calls + 1
        results := view.results ++ [(view.calls, .done)] }
  | reject (view : QueueView α ε) (error : ε) (failed : view.failed = some error) :
      QueueRule limit leaving view { view with
        calls := view.calls + 1
        results := view.results ++ [(view.calls, .rejected error)] }
  | wait (view : QueueView α ε) (running : view.failed = none) (isOpen : view.closed = false)
      (empty : view.values = []) :
      QueueRule limit leaving view { view with
        calls := view.calls + 1
        waiters := view.waiters ++ [view.calls] }

/-- The values delivered, in the order of their calls. -/
def QueueView.delivered (view : QueueView α ε) : List α :=
  view.results.filterMap fun result => match result.2 with
    | .value value => some value
    | _ => none

/-! ### Every event is a rule -/

def QueueEvent.Leaves : QueueEvent α ε → Prop
  | .consumerReturn _ | .consumerThrow _ _ => True
  | _ => False

namespace QueueWorld

variable {overflow : ε} {world : QueueWorld α ε} {leaving : Prop}

def view (world : QueueWorld α ε) : QueueView α ε where
  values := world.queue.values
  waiters := world.queue.waiters
  closed := world.queue.closed
  failed := world.queue.failed
  calls := world.calls.length
  results := world.results
  accepted := world.accepted

def Moves (leaving : Prop) (world world' : QueueWorld α ε) : Prop :=
  world'.queue.options = world.queue.options ∧
    (world'.view = world.view ∨
      QueueRule world.queue.options.maxBuffered leaving world.view world'.view)

variable (world) in
theorem release_view (iterator : Nat) :
    (world.release iterator).view = world.view ∧
      (world.release iterator).queue.options = world.queue.options := by
  unfold release
  split <;> exact ⟨rfl, rfl⟩

theorem Moves.release {world' : QueueWorld α ε} (moves : Moves leaving world world') (iterator : Nat) :
    Moves leaving world (world'.release iterator) := by
  obtain ⟨same, keeps⟩ := release_view world' iterator
  unfold Moves
  rw [same, keeps]
  exact moves

theorem fail_moves (error : ε) : Moves leaving world (world.settle (world.queue.fail error)) := by
  unfold AsyncQueue.fail
  split
  · refine ⟨rfl, .inl ?_⟩
    simp [settle, view]
  · next isOpen =>
    refine ⟨rfl, .inr ?_⟩
    exact .fail world.view error (by simpa [view] using isOpen)

theorem push_moves (value : α) : Moves leaving world (world.step overflow (.push value)) := by
  unfold step AsyncQueue.push
  by_cases closed : world.queue.closed = true
  · refine ⟨?_, .inl ?_⟩ <;> simp [closed, settle, view]
  have isOpen : world.view.closed = false := by simpa [view] using closed
  cases waiting : world.queue.waiters with
  | cons waiter waiters =>
    refine ⟨by simp [closed, waiting, settle], .inr ?_⟩
    have rule : QueueRule world.queue.options.maxBuffered leaving world.view _ :=
      .handOver world.view value waiter waiters isOpen waiting
    simpa [closed, waiting, settle, view] using rule
  | nil =>
    by_cases full : world.queue.full = true
    · -- neither an overflow that is only refused nor one that asks the host is seen
      cases asks : world.queue.options.onOverflow <;>
        exact ⟨by simp [closed, waiting, full, asks, settle],
          .inl (by simp [closed, waiting, full, asks, settle, view])⟩
    · have room : ∀ n ∈ world.queue.options.maxBuffered, world.view.values.length < n := by
        intro n limit
        simpa [AsyncQueue.full, Option.mem_def.mp limit, view] using full
      refine ⟨by simp [closed, waiting, full, settle], .inr ?_⟩
      have rule : QueueRule world.queue.options.maxBuffered leaving world.view _ :=
        .buffer world.view value isOpen waiting room
      simpa [closed, waiting, full, settle, view] using rule

theorem next_moves (iterator : Nat) : Moves leaving world (world.step overflow (.next iterator)) := by
  unfold step AsyncQueue.next
  dsimp only
  split
  case isFalse => exact ⟨rfl, .inl rfl⟩
  cases failed : world.queue.failed with
  | some error =>
    refine ⟨by simp [settle], .inr ?_⟩
    have rule : QueueRule world.queue.options.maxBuffered leaving world.view _ :=
      .reject world.view error failed
    simpa [settle, view, failed] using rule
  | none =>
    cases buffered : world.queue.values with
    | cons value values =>
      refine ⟨by simp [settle], .inr ?_⟩
      have rule : QueueRule world.queue.options.maxBuffered leaving world.view _ :=
        .take world.view value values failed buffered
      simpa [settle, view, failed] using rule
    | nil =>
      by_cases closed : world.queue.closed = true
      · refine ⟨by simp [closed, settle], .inr ?_⟩
        have rule : QueueRule world.queue.options.maxBuffered leaving world.view _ :=
          .finish world.view failed closed buffered
        simpa [settle, view, failed, closed, buffered] using rule
      · refine ⟨by simp [closed, settle], .inr ?_⟩
        have rule : QueueRule world.queue.options.maxBuffered leaving world.view _ :=
          .wait world.view failed (by simpa [view] using closed) buffered
        simpa [settle, view, failed, closed, buffered] using rule

theorem leave_moves (outcome : Settled α ε × AsyncQueue α ε)
    (leaves : outcome = world.queue.consumerReturn ∨
      ∃ error, outcome = world.queue.consumerThrow error) :
    Moves True world (world.settle outcome) := by
  have closes : Moves True world (world.settle (AsyncQueue.close { world.queue with values := [] })) := by
    unfold AsyncQueue.close
    by_cases closed : world.queue.closed = true
    · refine ⟨by simp [closed, settle], .inr ?_⟩
      have rule : QueueRule world.queue.options.maxBuffered True world.view _ :=
        .discard world.view trivial closed
      simpa [settle, view, closed] using rule
    · refine ⟨by simp [closed, settle], .inr ?_⟩
      have rule : QueueRule world.queue.options.maxBuffered True world.view _ :=
        .leave world.view trivial (by simpa [view] using closed)
      simpa [settle, view, closed] using rule
  rcases leaves with rfl | ⟨error, rfl⟩
  · exact closes
  cases error with
  | none => exact closes
  | some error =>
    unfold AsyncQueue.consumerThrow AsyncQueue.fail
    by_cases closed : world.queue.closed = true
    · refine ⟨by simp [closed, settle], .inr ?_⟩
      have rule : QueueRule world.queue.options.maxBuffered True world.view _ :=
        .discard world.view trivial closed
      simpa [settle, view, closed] using rule
    · refine ⟨by simp [closed, settle], .inr ?_⟩
      have rule : QueueRule world.queue.options.maxBuffered True world.view _ :=
        .fail world.view error (by simpa [view] using closed)
      simpa [settle, view, closed] using rule

variable (overflow world) in
theorem step_moves (event : QueueEvent α ε) :
    Moves event.Leaves world (world.step overflow event) := by
  cases event with
  | push value => exact push_moves value
  | overflowReturned error =>
    unfold step
    dsimp only
    split
    · exact ⟨rfl, .inl rfl⟩
    · exact fail_moves (error.getD overflow)
  | fail error => exact fail_moves error
  | close =>
    unfold step AsyncQueue.close
    dsimp only
    split
    · refine ⟨rfl, .inl ?_⟩
      simp [settle, view]
    · next isOpen => exact ⟨rfl, .inr (.close world.view (by simpa [view] using isOpen))⟩
  | iterator =>
    unfold step
    dsimp only
    split <;> exact ⟨rfl, .inl rfl⟩
  | next iterator => exact next_moves iterator
  | resume call =>
    have stays : Moves False world world := ⟨rfl, .inl rfl⟩
    unfold step resume
    dsimp only
    split
    · exact stays.release _
    · exact stays.release _
    · exact stays
  | consumerReturn iterator =>
    unfold step
    dsimp only
    split
    · exact (leave_moves _ (.inl rfl)).release iterator
    · exact ⟨rfl, .inl rfl⟩
  | consumerThrow iterator error =>
    unfold step
    dsimp only
    split
    · exact (leave_moves _ (.inr ⟨error, rfl⟩)).release iterator
    · exact ⟨rfl, .inl rfl⟩

end QueueWorld

/-! ### The invariant -/

/-- What holds of a queue with the given limit in every run. -/
structure QueueView.Sound (limit : Option Nat) (view : QueueView α ε) : Prop where
  idle : view.closed = true → view.waiters = []
  failure : view.failed ≠ none → view.closed = true ∧ view.values = []
  apart : view.values = [] ∨ view.waiters = []
  bounded : ∀ n ∈ limit, view.values.length ≤ n
  order : view.results.map (·.1) ++ view.waiters = List.range view.calls
  kept : view.closed = false → view.delivered ++ view.values = view.accepted
  inOrder : view.delivered ++ view.values <+: view.accepted
  finished : ∀ result ∈ view.results, result.2 = .done → view.closed = true ∧ view.values = []
  rejections : ∀ result ∈ view.results, ∀ error, result.2 = .rejected error →
    view.failed = some error

section Rules

variable {limit : Option Nat} {leaving : Prop} {view view' : QueueView α ε}

theorem filterMap_values_done (waiters : List Nat) :
    ((waiters.map fun waiter => (waiter, NextResult.done (α := α) (ε := ε))).filterMap fun result =>
      match result.2 with
      | .value value => some value
      | _ => none) = [] := by
  simp [List.filterMap_eq_nil_iff]

theorem filterMap_values_rejected (waiters : List Nat) (error : ε) :
    ((waiters.map fun waiter => (waiter, NextResult.rejected (α := α) error)).filterMap
      fun result => match result.2 with
      | .value value => some value
      | _ => none) = [] := by
  simp [List.filterMap_eq_nil_iff]

theorem range_snoc (waiters settled : List Nat) (calls : Nat)
    (order : settled ++ waiters = List.range calls) (idle : waiters = []) :
    settled ++ [calls] ++ waiters = List.range (calls + 1) := by
  subst idle
  rw [List.append_nil] at order
  rw [List.append_nil, order, List.range_succ]

theorem QueueRule.sound (sound : view.Sound limit) (rule : QueueRule limit leaving view view') :
    view'.Sound limit := by
  cases rule with
  | handOver value waiter waiters isOpen waiting =>
    have empty : view.values = [] := by
      rcases sound.apart with empty | idle
      · exact empty
      · simp [waiting] at idle
    have whole : view.delivered = view.accepted := by
      simpa [empty] using sound.kept isOpen
    constructor
    case idle => simp [isOpen]
    case failure => exact fun failed => absurd (sound.failure failed).1 (by simp [isOpen])
    case apart => exact .inl empty
    case bounded => exact sound.bounded
    case order => simpa [waiting] using sound.order
    case kept =>
      intro _
      simpa [QueueView.delivered, empty] using whole
    case inOrder =>
      have equal : view.delivered ++ [value] ++ view.values = view.accepted ++ [value] := by
        simp [whole, empty]
      simp only [QueueView.delivered, List.filterMap_append] at equal ⊢
      exact equal ▸ List.prefix_refl _
    case finished =>
      intro result member done
      rcases List.mem_append.mp member with old | new
      · exact absurd (sound.finished result old done).1 (by simp [isOpen])
      · rw [List.mem_singleton.mp new] at done
        cases done
    case rejections =>
      intro result member error rejected
      rcases List.mem_append.mp member with old | new
      · exact sound.rejections result old error rejected
      · rw [List.mem_singleton.mp new] at rejected
        cases rejected
  | buffer value isOpen idle room =>
    have whole := sound.kept isOpen
    constructor
    case idle => exact fun _ => idle
    case failure => exact fun failed => absurd (sound.failure failed).1 (by simp [isOpen])
    case apart => exact .inr idle
    case bounded =>
      intro n isLimit
      have short := room n isLimit
      simp only [List.length_append, List.length_singleton]
      omega
    case order => exact sound.order
    case kept =>
      intro _
      simp only [← whole, ← List.append_assoc]
      rfl
    case inOrder =>
      simp only [← whole, ← List.append_assoc]
      exact List.prefix_refl _
    case finished =>
      intro result member done
      exact absurd (sound.finished result member done).1 (by simp [isOpen])
    case rejections => exact sound.rejections
  | fail error isOpen =>
    constructor
    case idle | failure | bounded => simp
    case apart => exact .inl rfl
    case order =>
      simpa [List.map_append, List.map_map, Function.comp_def] using sound.order
    case kept => simp
    case inOrder =>
      have before := (List.prefix_append view.delivered view.values).trans sound.inOrder
      simpa [QueueView.delivered, filterMap_values_rejected] using before
    case finished => simp
    case rejections =>
      intro result member error' rejected
      rcases List.mem_append.mp member with old | new
      · -- an open queue has rejected nothing
        have failed := sound.rejections result old error' rejected
        exact absurd (sound.failure (by simp [failed])).1 (by simp [isOpen])
      · obtain ⟨waiter, -, rfl⟩ := List.mem_map.mp new
        cases rejected
        rfl
  | close isOpen =>
    have whole := sound.kept isOpen
    have delivered : ∀ results, view.results = results →
        QueueView.delivered { view with
          waiters := [], closed := true
          results := results ++ view.waiters.map fun waiter => (waiter, .done) } =
            view.delivered := by
      rintro _ rfl
      simp [QueueView.delivered, filterMap_values_done]
    constructor
    case idle => simp
    case failure => exact fun failed => absurd (sound.failure failed).1 (by simp [isOpen])
    case apart => exact .inr rfl
    case bounded => exact sound.bounded
    case order => simpa [List.map_append, List.map_map, Function.comp_def] using sound.order
    case kept => simp
    case inOrder =>
      rw [delivered _ rfl]
      exact sound.inOrder
    case finished =>
      intro result member done
      refine ⟨rfl, ?_⟩
      rcases List.mem_append.mp member with old | new
      · exact (sound.finished result old done).2
      · -- a call was pending, so nothing was buffered
        obtain ⟨waiter, waiting, -⟩ := List.mem_map.mp new
        rcases sound.apart with empty | idle
        · exact empty
        · simp [idle] at waiting
    case rejections =>
      intro result member error rejected
      rcases List.mem_append.mp member with old | new
      · exact sound.rejections result old error rejected
      · obtain ⟨waiter, -, rfl⟩ := List.mem_map.mp new
        cases rejected
  | leave left isOpen =>
    constructor
    case idle | bounded => simp
    case failure => exact fun failed => absurd (sound.failure failed).1 (by simp [isOpen])
    case apart => exact .inl rfl
    case order => simpa [List.map_append, List.map_map, Function.comp_def] using sound.order
    case kept => simp
    case inOrder =>
      have before := (List.prefix_append view.delivered view.values).trans sound.inOrder
      simpa [QueueView.delivered, filterMap_values_done] using before
    case finished => exact fun _ _ _ => ⟨rfl, rfl⟩
    case rejections =>
      intro result member error rejected
      rcases List.mem_append.mp member with old | new
      · exact sound.rejections result old error rejected
      · obtain ⟨waiter, -, rfl⟩ := List.mem_map.mp new
        cases rejected
  | discard left isClosed =>
    constructor
    case idle => exact sound.idle
    case failure => exact fun failed => ⟨isClosed, rfl⟩
    case apart => exact .inl rfl
    case bounded => simp
    case order => exact sound.order
    case kept => simp [isClosed]
    case inOrder =>
      rw [List.append_nil]
      exact (List.prefix_append view.delivered view.values).trans sound.inOrder
    case finished => exact fun _ _ _ => ⟨isClosed, rfl⟩
    case rejections => exact sound.rejections
  | take value values running buffered =>
    have idle : view.waiters = [] := by
      rcases sound.apart with empty | idle
      · simp [buffered] at empty
      · exact idle
    have moved : QueueView.delivered { view with
        values, calls := view.calls + 1
        results := view.results ++ [(view.calls, .value value)] } ++ values =
          view.delivered ++ view.values := by
      simp [QueueView.delivered, buffered]
    constructor
    case idle => exact fun _ => idle
    case failure => exact fun failed => absurd running failed
    case apart => exact .inr idle
    case bounded =>
      intro n isLimit
      have short := sound.bounded n isLimit
      simp only [buffered, List.length_cons] at short
      exact Nat.le_of_succ_le short
    case order =>
      simpa using range_snoc _ _ _ sound.order idle
    case kept => exact fun isOpen => moved.trans (sound.kept isOpen)
    case inOrder =>
      rw [moved]
      exact sound.inOrder
    case finished =>
      intro result member done
      rcases List.mem_append.mp member with old | new
      · -- after a `done` nothing is buffered
        have empty := (sound.finished result old done).2
        simp [buffered] at empty
      · rw [List.mem_singleton.mp new] at done
        cases done
    case rejections =>
      intro result member error rejected
      rcases List.mem_append.mp member with old | new
      · exact sound.rejections result old error rejected
      · rw [List.mem_singleton.mp new] at rejected
        cases rejected
  | finish running isClosed empty =>
    constructor
    case idle => exact sound.idle
    case failure => exact sound.failure
    case apart => exact .inl empty
    case bounded => exact sound.bounded
    case order => simpa using range_snoc _ _ _ sound.order (sound.idle isClosed)
    case kept => simp [isClosed]
    case inOrder => simpa [QueueView.delivered] using sound.inOrder
    case finished => exact fun _ _ _ => ⟨isClosed, empty⟩
    case rejections =>
      intro result member error rejected
      rcases List.mem_append.mp member with old | new
      · exact sound.rejections result old error rejected
      · rw [List.mem_singleton.mp new] at rejected
        cases rejected
  | reject error failed =>
    obtain ⟨isClosed, empty⟩ := sound.failure (by simp [failed])
    constructor
    case idle => exact sound.idle
    case failure => exact sound.failure
    case apart => exact .inl empty
    case bounded => exact sound.bounded
    case order => simpa using range_snoc _ _ _ sound.order (sound.idle isClosed)
    case kept => simp [isClosed]
    case inOrder => simpa [QueueView.delivered] using sound.inOrder
    case finished => exact fun _ _ _ => ⟨isClosed, empty⟩
    case rejections =>
      intro result member error' rejected
      rcases List.mem_append.mp member with old | new
      · exact sound.rejections result old error' rejected
      · rw [List.mem_singleton.mp new] at rejected
        cases rejected
        exact failed
  | wait running isOpen empty =>
    constructor
    case idle => simp [isOpen]
    case failure => exact fun failed => absurd running failed
    case apart => exact .inl empty
    case bounded => exact sound.bounded
    case order =>
      simp only [← List.append_assoc, sound.order, List.range_succ]
    case kept => exact sound.kept
    case inOrder => exact sound.inOrder
    case finished =>
      intro result member done
      exact absurd (sound.finished result member done).1 (by simp [isOpen])
    case rejections => exact sound.rejections

theorem QueueRule.rejects {error : ε} (sound : view.Sound limit) (failed : view.failed = some error)
    (rule : QueueRule limit leaving view view') :
    view'.failed = some error ∧ ∃ later, view'.results = view.results ++ later ∧
      ∀ result ∈ later, result.2 = .rejected error := by
  obtain ⟨isClosed, empty⟩ := sound.failure (by simp [failed])
  cases rule with
  | handOver _ _ _ isOpen | buffer _ isOpen | fail _ isOpen | close isOpen | leave _ isOpen
  | wait _ isOpen =>
    exact absurd isClosed (by simp [isOpen])
  | discard left isClosed => exact ⟨failed, [], by simp, by simp⟩
  | take _ _ running | finish running =>
    rw [failed] at running
    cases running
  | reject error' failed' =>
    rw [failed] at failed'
    cases failed'
    exact ⟨failed, _, rfl, by simp⟩

theorem QueueRule.keeps (kept : view.delivered ++ view.values = view.accepted)
    (sound : view'.Sound limit) (stays : ¬leaving) (running : view'.failed = none)
    (rule : QueueRule limit leaving view view') :
    view'.delivered ++ view'.values = view'.accepted := by
  cases rule with
  | handOver _ _ _ isOpen | buffer _ isOpen | wait _ isOpen => exact sound.kept isOpen
  | fail error isOpen => cases running
  | leave left => exact absurd left stays
  | discard left => exact absurd left stays
  | close isOpen => simpa [QueueView.delivered, filterMap_values_done] using kept
  | take value values running buffered =>
    simpa [QueueView.delivered, buffered] using kept
  | finish | reject => simpa [QueueView.delivered] using kept

end Rules

/-! ### Runs -/

namespace QueueWorld

section Runs

variable (options : AsyncQueueOptions) (overflow : ε)

theorem after_options (events : List (QueueEvent α ε)) :
    (after options overflow events).queue.options = options := by
  induction events using List.reverseRecOn with
  | nil => rfl
  | append_singleton events last ih =>
    rw [after_snoc, (step_moves overflow _ last).1, ih]

theorem after_sound (events : List (QueueEvent α ε)) :
    (after options overflow events).view.Sound options.maxBuffered := by
  induction events using List.reverseRecOn with
  | nil => constructor <;> simp [after, new, AsyncQueue.new, view, QueueView.delivered]
  | append_singleton events last ih =>
    obtain ⟨-, same | rule⟩ := step_moves overflow
      (after options overflow events) last
    · rw [after_snoc, same]
      exact ih
    · rw [after_options] at rule
      rw [after_snoc]
      exact rule.sound ih

theorem after_failed {error : ε} (before rest : List (QueueEvent α ε))
    (failed : (after options overflow before).view.failed = some error) :
    (after options overflow (before ++ rest)).view.failed = some error ∧
      ∃ later, (after options overflow (before ++ rest)).results =
        (after options overflow before).results ++ later ∧
          ∀ result ∈ later, result.2 = .rejected error := by
  induction rest using List.reverseRecOn with
  | nil => exact ⟨by simpa using failed, [], by simp, by simp⟩
  | append_singleton rest last ih =>
    obtain ⟨still, later, results, rejected⟩ := ih
    rw [← List.append_assoc, after_snoc]
    obtain ⟨-, same | rule⟩ := step_moves overflow
      (after options overflow (before ++ rest)) last
    · have unchanged := congrArg QueueView.results same
      exact ⟨by rw [same]; exact still, later, unchanged.trans results, rejected⟩
    · rw [after_options] at rule
      obtain ⟨still, more, extended, rejects⟩ := rule.rejects
        (after_sound options overflow (before ++ rest)) still
      refine ⟨still, later ++ more, ?_, ?_⟩
      · rw [← List.append_assoc, ← results]
        exact extended
      · intro result member
        rcases List.mem_append.mp member with early | late
        · exact rejected result early
        · exact rejects result late

theorem after_kept (events : List (QueueEvent α ε))
    (running : (after options overflow events).queue.failed = none)
    (stays : ∀ event ∈ events, ¬event.Leaves) :
    (after options overflow events).view.delivered ++ (after options overflow events).queue.values =
      (after options overflow events).accepted := by
  induction events using List.reverseRecOn with
  | nil => rfl
  | append_singleton events last ih =>
    have earlier : (after options overflow events).queue.failed = none := by
      cases failed : (after options overflow events).queue.failed with
      | none => rfl
      | some error =>
        have still := (after_failed options overflow events [last] failed).1
        exact absurd (still.symm.trans running) (by simp)
    have kept := ih earlier fun event member => stays event (by simp [member])
    have sound := after_sound options overflow (events ++ [last])
    rw [after_snoc] at running sound ⊢
    obtain ⟨-, same | rule⟩ := step_moves overflow
      (after options overflow events) last
    · have view_kept : (step overflow (after options overflow events) last).view.delivered ++
          (step overflow (after options overflow events) last).view.values =
            (step overflow (after options overflow events) last).view.accepted := by
        rw [same]
        exact kept
      exact view_kept
    · rw [after_options] at rule
      exact rule.keeps kept sound (stays last (by simp)) running

/-- AsyncQueue delivery, for every run: calls are settled in their order, each once; what is delivered
is what was accepted, in order, and all of it but what is buffered unless the queue fails or its
consumer leaves; the buffer keeps its limit, and no call waits beside a buffered value or on a closed
queue; `done` comes only after all that was buffered; and a `fail` of an open queue rejects every
pending and every future call. -/
theorem asyncQueue_delivery (events : List (QueueEvent α ε)) :
    let world := after options overflow events
    world.results.map (·.1) ++ world.queue.waiters = List.range world.calls.length ∧
      world.view.delivered <+: world.accepted ∧
      (world.queue.failed = none → (∀ event ∈ events, ¬event.Leaves) →
        world.view.delivered ++ world.queue.values = world.accepted) ∧
      (∀ limit ∈ options.maxBuffered, world.queue.values.length ≤ limit) ∧
      (world.queue.values = [] ∨ world.queue.waiters = []) ∧
      (world.queue.closed = true → world.queue.waiters = []) ∧
      ((∃ result ∈ world.results, result.2 = .done) →
        world.queue.closed = true ∧ world.queue.values = []) ∧
      ∀ before error rest, events = before ++ .fail error :: rest →
        (after options overflow before).queue.closed = false →
        ∃ later, world.results = (after options overflow before).results ++ later ∧
          ∀ result ∈ later, result.2 = .rejected error := by
  have sound := after_sound options overflow events
  dsimp only
  refine ⟨sound.order, (List.prefix_append _ _).trans sound.inOrder,
    after_kept options overflow events, sound.bounded, sound.apart, sound.idle, ?_, ?_⟩
  · rintro ⟨result, member, done⟩
    exact sound.finished result member done
  · rintro before error rest rfl isOpen
    have failing : (after options overflow (before ++ [.fail error])).view.failed = some error ∧
        (after options overflow (before ++ [.fail error])).results =
          (after options overflow before).results ++
            (after options overflow before).queue.waiters.map fun waiter =>
              (waiter, .rejected error) := by
      rw [after_snoc]
      simp [step, settle, view, AsyncQueue.fail, isOpen]
    obtain ⟨-, later, results, rejected⟩ :=
      after_failed options overflow (before ++ [.fail error]) rest failing.1
    rw [List.append_assoc, List.singleton_append] at results
    refine ⟨((after options overflow before).queue.waiters.map fun waiter =>
      (waiter, .rejected error)) ++ later, by rw [results, failing.2, List.append_assoc], ?_⟩
    intro result member
    rcases List.mem_append.mp member with pending | future
    · obtain ⟨waiter, -, rfl⟩ := List.mem_map.mp pending
      rfl
    · exact rejected result future

end Runs

/-- On a queue that is closed a `fail` is ignored, and the next call is told that it is done. -/
theorem closed_ignores_fail :
    ¬∀ (options : AsyncQueueOptions) (events before rest : List (QueueEvent Nat String))
      (error : String), events = before ++ .fail error :: rest →
      ∃ later, (after options "overflow" events).results =
          (after options "overflow" before).results ++ later ∧
        ∀ result ∈ later, result.2 = .rejected error := by
  intro literal
  obtain ⟨later, results, rejected⟩ := literal
    { maxBuffered := some 1, positive := by simp, onOverflow := false }
    [.iterator, .close, .fail "failed", .next 0] [.iterator, .close] [.next 0] "failed" rfl
  have ran : [(0, NextResult.done)] = later := by simpa [after, step, new, AsyncQueue.new,
    AsyncQueue.close, AsyncQueue.fail, AsyncQueue.next, settle] using results
  have wrong := rejected (0, .done) (ran ▸ List.mem_singleton_self _)
  cases wrong

end QueueWorld

end Tvic
