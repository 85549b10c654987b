import Tvic.Lib.Run

/-!
# A worker that polls

What `SessionRecoveryCoordinator` and `SessionReaper` of
`packages/runtime/src/session-recovery.ts` have in common: `start`, `stop` and the tracking of the
poll in flight. A poll goes on from await to await; `resume` gives what it does when its call
settles, by whether the worker is stopped and by its cursor. The log has what was done, the latest
first.
-/
namespace Tvic

inductive WorkerEntry (κ : Type) where
  | start
  | stop
  | pollBegan (poll : Nat)
  | did (poll : Nat) (action : κ)
  | pollEnded (poll : Nat)
  deriving DecidableEq

/-- What a poll does between two awaits: where it stands then, nothing if it has ended. -/
structure PollTurn (φ κ : Type) where
  cursor : Option String
  actions : List κ
  phase : Option φ

structure PollProgram (φ κ ο : Type) where
  begin : Option String → Int → PollTurn φ κ
  /-- Nothing for an outcome of a call that is not awaited. -/
  resume : Bool → Option String → φ → ο → Option (PollTurn φ κ)

structure Worker (φ κ : Type) where
  timer : Bool
  stopped : Bool
  cursor : Option String
  pollInFlight : Option Nat
  polls : Nat → Option φ
  nextPoll : Nat
  log : List (WorkerEntry κ)

inductive WorkerEvent (ο : Type) where
  | start
  | stop
  | tick (nowMs : Int)
  | pollOnce (nowMs : Int)
  | settle (poll : Nat) (outcome : ο)
  /-- The `finally` of a poll that has ended. -/
  | clear (poll : Nat)

namespace Worker

variable {φ κ ο : Type} (program : PollProgram φ κ ο) (s : Worker φ κ)

def new : Worker φ κ := ⟨false, false, none, none, fun _ => none, 0, []⟩

def start : Worker φ κ :=
  let s := { s with log := .start :: s.log }
  if s.timer then s else { s with timer := true, stopped := false }

def stop : Worker φ κ := { s with timer := false, stopped := true, log := .stop :: s.log }

/-- A poll up to its next await, or its end. -/
def take (poll : Nat) (turn : PollTurn φ κ) : Worker φ κ :=
  let did := (turn.actions.map (.did poll ·)).reverse ++ s.log
  { s with
    cursor := turn.cursor
    polls := Function.update s.polls poll turn.phase
    log := if turn.phase.isNone then .pollEnded poll :: did else did }

def pollOnce (nowMs : Int) : Worker φ κ :=
  if s.stopped then s
  else if s.pollInFlight.isSome then s
  else
    take
      { s with
        pollInFlight := some s.nextPoll
        nextPoll := s.nextPoll + 1
        log := .pollBegan s.nextPoll :: s.log }
      s.nextPoll (program.begin s.cursor nowMs)

def settle (poll : Nat) (outcome : ο) : Worker φ κ :=
  match s.polls poll with
  | none => s
  | some phase =>
    match program.resume s.stopped s.cursor phase outcome with
    | none => s
    | some turn => s.take poll turn

def step : WorkerEvent ο → Worker φ κ
  | .start => s.start
  | .stop => s.stop
  | .tick nowMs => if s.timer then s.pollOnce program nowMs else s
  | .pollOnce nowMs => s.pollOnce program nowMs
  | .settle poll outcome => s.settle program poll outcome
  | .clear poll =>
    if s.pollInFlight = some poll ∧ s.polls poll = none then { s with pollInFlight := none } else s

def after (events : List (WorkerEvent ο)) : Worker φ κ :=
  Lib.run (fun s event => s.step program event) new events

/-- No poll is left when the worker is started again. -/
def Drained (events : List (WorkerEvent ο)) : Prop :=
  ∀ before rest, events = before ++ .start :: rest → (after program before).stopped = true →
    ∀ poll, (after program before).polls poll = none

/-- `stop` was called while the poll was in flight. -/
def StoppedSince (poll : Nat) (log : List (WorkerEntry κ)) : Prop :=
  ∃ before, .stop :: before <:+ log ∧ .pollBegan poll ∈ before

/-- Every entry of a log stands in the relation to what is older. -/
def Each (R : List (WorkerEntry κ) → WorkerEntry κ → Prop) (log : List (WorkerEntry κ)) : Prop :=
  ∀ entry older, entry :: older <:+ log → R older entry

variable {R : List (WorkerEntry κ) → WorkerEntry κ → Prop} {log : List (WorkerEntry κ)}
variable {entry : WorkerEntry κ} {poll : Nat}

theorem each_nil : Each R [] := fun _ _ suffix => by simp at suffix

theorem Each.cons (each : Each R log) (stands : R log entry) : Each R (entry :: log) := by
  intro latest older suffix
  obtain same | earlier := List.suffix_cons_iff.mp suffix
  · cases same
    exact stands
  · exact each latest older earlier

theorem stoppedSince_cons (other : entry ≠ .stop) :
    StoppedSince poll (entry :: log) ↔ StoppedSince poll log := by
  constructor
  · rintro ⟨before, suffix, began⟩
    obtain same | earlier := List.suffix_cons_iff.mp suffix
    · exact absurd (List.cons.inj same).1.symm other
    · exact ⟨before, earlier, began⟩
  · rintro ⟨before, suffix, began⟩
    exact ⟨before, suffix.trans (List.suffix_cons _ _), began⟩

theorem StoppedSince.began (stopped : StoppedSince poll log) : .pollBegan poll ∈ log := by
  obtain ⟨before, suffix, began⟩ := stopped
  exact suffix.subset (List.mem_cons_of_mem _ began)

/-! ### Certified polls -/

/-- The actions of a turn, oldest first, and its end stand in the relation `R`, and `Evidence` holds
where the poll stands then. -/
def Runs (R : List (WorkerEntry κ) → WorkerEntry κ → Prop)
    (Evidence : Nat → List (WorkerEntry κ) → φ → Prop) (poll : Nat) :
    List κ → Option φ → List (WorkerEntry κ) → Prop
  | [], some phase, log => Evidence poll log phase
  | [], none, log => R log (.pollEnded poll)
  | action :: rest, phase, log =>
    R log (.did poll action) ∧ Runs R Evidence poll rest phase (.did poll action :: log)

/-- What has to be shown of a program for its log to stand in the relation. -/
structure Certified (program : PollProgram φ κ ο)
    (R : List (WorkerEntry κ) → WorkerEntry κ → Prop)
    (Evidence : Nat → List (WorkerEntry κ) → φ → Prop) : Prop where
  idle : ∀ log, R log .start ∧ R log .stop
  alone : ∀ log poll, (∀ other, .pollBegan other ∈ log → .pollEnded other ∈ log) →
    R log (.pollBegan poll)
  stable : ∀ poll log phase entry, entry = .start ∨ entry = .stop → Evidence poll log phase →
    Evidence poll (entry :: log) phase
  begin : ∀ cursor nowMs poll log, (∀ action, .did poll action ∉ log) →
    Runs R Evidence poll (program.begin cursor nowMs).actions (program.begin cursor nowMs).phase
      (.pollBegan poll :: log)
  resume : ∀ stopped cursor phase outcome turn poll log,
    program.resume stopped cursor phase outcome = some turn → Evidence poll log phase →
    (stopped = false → ¬ StoppedSince poll log) →
      Runs R Evidence poll turn.actions turn.phase log

structure Sound (s : Worker φ κ) : Prop where
  single : ∀ poll, s.polls poll ≠ none → s.pollInFlight = some poll
  known : ∀ poll, .pollBegan poll ∈ s.log ↔ poll < s.nextPoll
  running : ∀ poll, s.polls poll ≠ none → poll < s.nextPoll
  acted : ∀ poll action, .did poll action ∈ s.log → poll < s.nextPoll
  ended : ∀ poll, .pollBegan poll ∈ s.log → s.polls poll = none → .pollEnded poll ∈ s.log
  halted : ∀ poll, s.polls poll ≠ none → StoppedSince poll s.log → s.stopped = true

variable {program : PollProgram φ κ ο} {s : Worker φ κ}
variable {Evidence : Nat → List (WorkerEntry κ) → φ → Prop}

structure Inv (R : List (WorkerEntry κ) → WorkerEntry κ → Prop)
    (Evidence : Nat → List (WorkerEntry κ) → φ → Prop) (s : Worker φ κ) : Prop where
  sound : s.Sound
  each : Each R s.log
  evidence : ∀ poll phase, s.polls poll = some phase → Evidence poll s.log phase

theorem stoppedSince_did {actions : List κ} {other : Nat} :
    StoppedSince poll ((actions.map (.did other ·)).reverse ++ log) ↔ StoppedSince poll log := by
  induction actions generalizing log with
  | nil => rfl
  | cons action rest ih =>
    have tail := @ih (.did other action :: log)
    rw [stoppedSince_cons (by simp)] at tail
    simpa [List.append_assoc] using tail

theorem Runs.each {actions : List κ} {phase : Option φ}
    (runs : Runs R Evidence poll actions phase log) (each : Each R log) :
    let did := (actions.map (.did poll ·)).reverse ++ log
    Each R did ∧ (∀ there, phase = some there → Evidence poll did there) ∧
      (phase = none → R did (.pollEnded poll)) := by
  induction actions generalizing log with
  | nil => cases phase <;> simp_all [Runs]
  | cons action rest ih =>
    have later := ih runs.2 (each.cons runs.1)
    simpa [List.append_assoc] using later

/-- A worker whose one poll in flight is about to take a turn. -/
structure AtTurn (poll : Nat) (s : Worker φ κ) : Prop where
  inFlight : s.pollInFlight = some poll
  others : ∀ other, other ≠ poll → s.polls other = none
  known : ∀ other, .pollBegan other ∈ s.log ↔ other < s.nextPoll
  running : poll < s.nextPoll
  acted : ∀ other action, .did other action ∈ s.log → other < s.nextPoll
  ended : ∀ other, other ≠ poll → .pollBegan other ∈ s.log → .pollEnded other ∈ s.log
  halted : StoppedSince poll s.log → s.stopped = true

theorem Sound.atTurn (sound : s.Sound) {phase : φ} (runs : s.polls poll = some phase) :
    s.AtTurn poll := by
  have alone : ∀ other, other ≠ poll → s.polls other = none := by
    intro other differs
    by_contra busy
    have one := sound.single other busy
    have two := sound.single poll (by simp [runs])
    exact differs (Option.some.inj (one.symm.trans two))
  exact ⟨sound.single poll (by simp [runs]), alone, sound.known,
    sound.running poll (by simp [runs]), sound.acted,
    fun other differs began => sound.ended other began (alone other differs),
    sound.halted poll (by simp [runs])⟩

theorem AtTurn.take (at_ : s.AtTurn poll) (turn : PollTurn φ κ) : (s.take poll turn).Sound := by
  have members : ∀ entry, (∀ action, entry ≠ .did poll action) → entry ≠ .pollEnded poll →
      (entry ∈ (s.take poll turn).log ↔ entry ∈ s.log) := by
    intro entry notDid notEnded
    have notIn : entry ∉ (turn.actions.map (.did poll ·)).reverse := by
      simp only [List.mem_reverse, List.mem_map, not_exists, not_and]
      exact fun action _ same => notDid action same.symm
    simp only [Worker.take]
    split
    · rw [List.mem_cons, List.mem_append]
      tauto
    · rw [List.mem_append]
      tauto
  refine ⟨fun other busy => ?_, fun other => ?_, fun other busy => ?_, fun other action did => ?_,
    fun other began idle => ?_, fun other busy stopped => ?_⟩
  · by_cases same : other = poll
    · exact same ▸ at_.inFlight
    · simp [Worker.take, same, at_.others other same] at busy
  · rw [members _ (by simp) (by simp)]
    exact at_.known other
  · by_cases same : other = poll
    · exact same ▸ at_.running
    · simp [Worker.take, same, at_.others other same] at busy
  · by_cases same : other = poll
    · exact same ▸ at_.running
    · rw [members _ (by simp [same]) (by simp)] at did
      exact at_.acted other action did
  · rw [members _ (by simp) (by simp)] at began
    by_cases same : other = poll
    · subst same
      have gone : turn.phase = none := by simpa [Worker.take] using idle
      simp [Worker.take, gone]
    · rw [members _ (by simp) (by simp [same])]
      exact at_.ended other same began
  · by_cases same : other = poll
    · subst same
      refine at_.halted ?_
      have before : StoppedSince other ((turn.actions.map (.did other ·)).reverse ++ s.log) := by
        simp only [Worker.take] at stopped
        split at stopped
        · exact (stoppedSince_cons (by simp)).mp stopped
        · exact stopped
      exact stoppedSince_did.mp before
    · simp [Worker.take, same, at_.others other same] at busy

theorem Inv.of_turn (at_ : s.AtTurn poll) (each : Each R s.log) {turn : PollTurn φ κ}
    (runs : Runs R Evidence poll turn.actions turn.phase s.log) :
    (s.take poll turn).Inv R Evidence := by
  obtain ⟨along, there, gone⟩ := runs.each each
  refine ⟨at_.take turn, ?_, fun other phase busy => ?_⟩
  · cases ended : turn.phase with
    | none => simpa [Worker.take, ended] using along.cons (gone ended)
    | some phase => simpa [Worker.take, ended] using along
  · by_cases same : other = poll
    · subst same
      have phase_ : turn.phase = some phase := by simpa [Worker.take] using busy
      simpa [Worker.take, phase_] using there phase phase_
    · simp [Worker.take, same, at_.others other same] at busy

theorem Inv.pollOnce (certified : Certified program R Evidence) (inv : s.Inv R Evidence)
    (nowMs : Int) : (s.pollOnce program nowMs).Inv R Evidence := by
  unfold Worker.pollOnce
  split
  · exact inv
  split
  · exact inv
  next idle =>
    have none_ : ∀ other, s.polls other = none := by
      intro other
      by_contra busy
      simp [inv.sound.single other busy] at idle
    have finished : ∀ other, .pollBegan other ∈ s.log → .pollEnded other ∈ s.log :=
      fun other began => inv.sound.ended other began (none_ other)
    refine Inv.of_turn ?_ (inv.each.cons (certified.alone s.log s.nextPoll finished)) ?_
    · refine ⟨rfl, fun other _ => none_ other, fun other => ?_, by simp, fun other action did => ?_,
        fun other differs began => ?_, fun stopped => ?_⟩
      · simp only [List.mem_cons, WorkerEntry.pollBegan.injEq, inv.sound.known other]
        omega
      · have before : .did other action ∈ s.log := by simpa using did
        have known := inv.sound.acted other action before
        simp only
        omega
      · have before : .pollBegan other ∈ s.log := by simpa [differs] using began
        exact List.mem_cons_of_mem _ (finished other before)
      · have before := ((stoppedSince_cons (by simp)).mp stopped).began
        have known := (inv.sound.known s.nextPoll).mp before
        omega
    · refine certified.begin s.cursor nowMs s.nextPoll s.log fun action did => ?_
      have known := inv.sound.acted s.nextPoll action did
      omega

theorem Inv.marked (certified : Certified program R Evidence) (inv : s.Inv R Evidence)
    (mark : entry = .start ∨ entry = .stop) :
    (∀ poll, .pollBegan poll ∈ entry :: s.log ↔ poll < s.nextPoll) ∧
      (∀ poll action, .did poll action ∈ entry :: s.log → poll < s.nextPoll) ∧
      (∀ poll, .pollBegan poll ∈ entry :: s.log → s.polls poll = none →
        .pollEnded poll ∈ entry :: s.log) ∧
      ∀ poll phase, s.polls poll = some phase → Evidence poll (entry :: s.log) phase := by
  have known := inv.sound.known
  have acted := inv.sound.acted
  have ended := inv.sound.ended
  refine ⟨fun poll => ?_, fun poll action did => ?_, fun poll began idle => ?_,
    fun poll phase busy => certified.stable poll s.log phase entry mark
      (inv.evidence poll phase busy)⟩
  · obtain rfl | rfl := mark <;> simpa using known poll
  · obtain rfl | rfl := mark <;> exact acted poll action (by simpa using did)
  · refine List.mem_cons_of_mem _ (ended poll ?_ idle)
    obtain rfl | rfl := mark <;> simpa using began

theorem Inv.step (certified : Certified program R Evidence) (inv : s.Inv R Evidence)
    (event : WorkerEvent ο)
    (drained : event = .start → s.stopped = true → ∀ poll, s.polls poll = none) :
    (s.step program event).Inv R Evidence := by
  cases event with
  | start =>
    have quiet := inv.marked certified (.inl rfl)
    have each := inv.each.cons (certified.idle s.log).1
    dsimp only [Worker.step, Worker.start]
    split
    · exact ⟨⟨inv.sound.single, quiet.1, inv.sound.running, quiet.2.1, quiet.2.2.1,
        fun poll busy stopped => inv.sound.halted poll busy
          ((stoppedSince_cons (by simp)).mp stopped)⟩, each, quiet.2.2.2⟩
    · refine ⟨⟨inv.sound.single, quiet.1, inv.sound.running, quiet.2.1, quiet.2.2.1,
        fun poll busy stopped => ?_⟩, each, quiet.2.2.2⟩
      have halted := inv.sound.halted poll busy ((stoppedSince_cons (by simp)).mp stopped)
      exact absurd (drained rfl halted poll) busy
  | stop =>
    have quiet := inv.marked certified (.inr rfl)
    exact ⟨⟨inv.sound.single, quiet.1, inv.sound.running, quiet.2.1, quiet.2.2.1,
      fun _ _ _ => rfl⟩, inv.each.cons (certified.idle s.log).2, quiet.2.2.2⟩
  | tick nowMs =>
    dsimp only [Worker.step]
    split
    · exact inv.pollOnce certified nowMs
    · exact inv
  | pollOnce nowMs => exact inv.pollOnce certified nowMs
  | settle poll outcome =>
    dsimp only [Worker.step, Worker.settle]
    split
    · exact inv
    next phase busy =>
      split
      · exact inv
      next turn resumed =>
        have at_ := inv.sound.atTurn busy
        refine Inv.of_turn at_ inv.each ?_
        exact certified.resume _ _ phase outcome turn poll s.log resumed
          (inv.evidence poll phase busy) fun awake stopped => by
            simp [at_.halted stopped] at awake
  | clear poll =>
    dsimp only [Worker.step]
    split
    next gone =>
      refine ⟨{ inv.sound with single := fun other busy => ?_ }, inv.each, inv.evidence⟩
      have one := inv.sound.single other busy
      have same : other = poll := Option.some.inj (one.symm.trans gone.1)
      exact absurd (same ▸ gone.2) busy
    · exact inv

theorem Certified.each (certified : Certified program R Evidence) (events : List (WorkerEvent ο))
    (drained : Drained program events) : Each R (after program events).log := by
  suffices inv : (after program events).Inv R Evidence from inv.each
  induction events using List.reverseRecOn with
  | nil =>
    refine ⟨?_, each_nil, by simp [after, new]⟩
    constructor <;> simp [after, new]
  | append_singleton events event ih =>
    have inv := ih fun before rest split =>
      drained before (rest ++ [event]) (by simp [split])
    have advanced : after program (events ++ [event]) =
        (after program events).step program event := by
      simp [after]
    rw [advanced]
    exact inv.step certified event fun starts => drained events [] (by simp [starts])

end Worker

end Tvic
