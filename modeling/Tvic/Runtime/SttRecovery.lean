import Mathlib.Logic.Relation
import Tvic.Runtime.ResilientSttStream

/-!
# Where the recovery of an STT stream stands

What holds between the state of a resilient stream, its recovery and its positions in the journal,
in every run. `Attended` is stated over the part of the stream it is about, so that a step that
leaves this part alone keeps it by equality.
-/
namespace Tvic.ResilientSttStream

open SttJournal

variable {δ : Type}

/-- What never changes in an entry. -/
inductive EntryShape (δ : Type) where
  | audio (id : Nat) (offsetMs : δ)
  | commit (id : Nat)
  | agentContext (id : Nat)
  deriving DecidableEq

def shape : SttJournalEntry δ → EntryShape δ
  | .audio id _ offsetMs _ _ => .audio id offsetMs
  | .commit id _ _ => .commit id
  | .agentContext id _ _ _ => .agentContext id

def EntryShape.isCommand : EntryShape δ → Bool
  | .agentContext _ => false
  | _ => true

theorem isCommand_shape (entry : SttJournalEntry δ) :
    (shape entry).isCommand = SttJournal.isCommand entry := by
  cases entry <;> rfl

/-- The part of a stream that recovery is about. -/
structure RecoveryView (δ : Type) where
  shapes : List (EntryShape δ)
  cursor : Nat
  replayStart : Nat
  replayBoundary : Nat
  state : SttRecoveryState
  active : Option Nat
  generation : Nat
  live : Bool
  generationWait : Option GenerationWait
  phase : Option RecoveryPhase
  sending : Option (EntryShape δ × Nat × Nat)
  shutting : Bool

def sendInFlight : JournalRun δ → Option (EntryShape δ × Nat × Nat)
  | .sending entry generation stream => some (shape entry, generation, stream)
  | _ => none

def live (s : ResilientSttStream δ) : Bool := !s.isClosed && !s.terminal

def recoveryView (s : ResilientSttStream δ) : RecoveryView δ where
  shapes := s.journal.map shape
  cursor := s.cursor
  replayStart := s.replayStart
  replayBoundary := s.replayBoundary
  state := s.state
  active := s.active
  generation := s.generation
  live := s.live
  generationWait := s.generationWait
  phase := s.recovery.map (·.phase)
  sending := sendInFlight s.journalRun
  shutting := s.shutting

def PhaseHolds (v : RecoveryView δ) : RecoveryPhase → Prop
  | .pausing => v.active = none
  | .opening => v.active = none
  | .watching generation stream =>
      v.generation = generation ∧ v.active = some stream ∧ v.generationWait ≠ none
  | .settled generation stream .stable => v.generation = generation ∧ (v.active = none ∨
      v.active = some stream ∧ v.state = .probationary ∧ v.replayBoundary ≤ v.cursor)
  | .settled _ _ (.failed error) => error.exhausted = true ∨ v.active = none
  | .returned => True

/-- What holds even where a failure leaves off. -/
structure Placed (v : RecoveryView δ) : Prop where
  cursor : v.cursor ≤ v.shapes.length
  past : ∀ shape generation stream, v.sending = some (shape, generation, stream) →
    generation ≤ v.generation
  command : ∀ shape generation stream, v.sending = some (shape, generation, stream) →
    shape.isCommand = true

structure Attended (v : RecoveryView δ) : Prop extends Placed v where
  inFlight : ∀ shape generation stream, v.sending = some (shape, generation, stream) →
    v.generation = generation → v.active = some stream → v.shapes[v.cursor]? = some shape
  gone : v.shutting = true → v.live = false
  wait : ∀ wait, v.generationWait = some wait → v.live = true ∧
    wait.replayBoundary = v.replayBoundary ∧ v.state = .probationary ∧
    ∃ stream, v.phase = some (.watching v.generation stream)
  active : v.live = true → v.active ≠ none → v.state = .healthy ∨ v.state = .probationary
  idle : v.live = true → v.active = none → v.cursor = v.replayStart
  healthy : v.live = true → v.state = .healthy → v.replayBoundary = 0
  phase : v.live = true → ∀ phase, v.phase = some phase → PhaseHolds v phase

theorem attended_new [Zero δ] (stream : Nat) :
    Attended (new stream : ResilientSttStream δ).recoveryView where
  cursor := Nat.le_refl 0
  past _ _ _ := nofun
  command _ _ _ := nofun
  inFlight _ _ _ := nofun
  gone := nofun
  wait _ := nofun
  active _ _ := .inl rfl
  idle _ := nofun
  healthy _ _ := rfl
  phase _ _ := nofun

/-! ### Steps that leave the part alone -/

@[simp] theorem shape_settle (entry : SttJournalEntry δ) : shape entry.settle = shape entry := by
  cases entry <;> rfl

@[simp] theorem shape_accept (now : Int) (entry : SttJournalEntry δ) :
    shape (entry.accept now) = shape entry := by
  cases entry <;> rfl

@[simp] theorem shape_withVersion (version : Nat) (entry : SttJournalEntry δ) :
    shape (entry.withVersion version) = shape entry := by
  cases entry <;> rfl

variable (config : SttStreamConfig) (s : ResilientSttStream δ)

variable {change : SttJournalEntry δ → SttJournalEntry δ}

theorem recoveryView_mapJournal (same : ∀ entry, shape (change entry) = shape entry) :
    { s with journal := s.journal.map change }.recoveryView = s.recoveryView := by
  simp [recoveryView, live, same]

theorem recoveryView_changeEntry (id : Nat) (same : ∀ entry, shape (change entry) = shape entry) :
    (s.changeEntry id change).recoveryView = s.recoveryView := by
  refine recoveryView_mapJournal s fun entry => ?_
  split
  · exact same entry
  · rfl

theorem shapes_changeEntry (id : Nat) (same : ∀ entry, shape (change entry) = shape entry) :
    (s.changeEntry id change).journal.map shape = s.journal.map shape :=
  congrArg RecoveryView.shapes (recoveryView_changeEntry s id same)

theorem recoveryView_settleContext (id : Nat) :
    (s.settleContext id).recoveryView = s.recoveryView := by
  refine recoveryView_mapJournal s fun entry => ?_
  split
  · exact shape_settle entry
  · rfl

theorem recoveryView_rejectPending : s.rejectPending.recoveryView = s.recoveryView := by
  refine recoveryView_mapJournal s fun entry => ?_
  split
  · exact shape_settle entry
  · rfl

/-! ### The wait for a generation -/

theorem recoveryView_clearGenerationWait (outcome : GenerationOutcome) :
    (s.clearGenerationWait outcome).recoveryView =
      if s.generationWait.isSome then
        { s.recoveryView with
          generationWait := none
          phase := s.recoveryView.phase.map (resolvePhase outcome) }
      else s.recoveryView := by
  unfold clearGenerationWait
  split
  next none => simp [none]
  next wait found => simp [found, recoveryView, live, Function.comp_def]

theorem clearGenerationWait_active (outcome : GenerationOutcome) :
    (s.clearGenerationWait outcome).active = s.active := by
  unfold clearGenerationWait
  split <;> rfl

theorem recoveryView_resolveDrain (writes : ContextWrites) :
    (s.resolveDrain writes).recoveryView = s.recoveryView := by
  unfold resolveDrain
  split
  · split <;> rfl
  · rfl

theorem recoveryView_notifyProgress (writes : ContextWrites) :
    (s.notifyProgress writes).recoveryView = s.recoveryView ∨
      (∃ wait, s.generationWait = some wait ∧ wait.replayBoundary ≤ s.cursor) ∧
        (s.notifyProgress writes).recoveryView = (s.clearGenerationWait .stable).recoveryView := by
  rw [notifyProgress, recoveryView_resolveDrain, resolveStable]
  split
  next wait found =>
    split
    next ready =>
      simp only [Bool.and_eq_true, decide_eq_true_eq] at ready
      exact .inr ⟨⟨wait, found, ready.2⟩, rfl⟩
    · exact .inl rfl
  next => exact .inl rfl

theorem recoveryView_giveUp (error : SttGenerationError) (writes : ContextWrites)
    {change : ResilientSttStream δ → ResilientSttStream δ}
    (same : ∀ s, (change s).recoveryView = s.recoveryView) :
    ∃ phase, ((change (s.clearGenerationWait (.failed error)).rejectPending).notifyProgress
        writes).recoveryView = { s.recoveryView with generationWait := none, phase } := by
  have cleared : (s.clearGenerationWait (.failed error)).recoveryView =
      { s.recoveryView with
        generationWait := none
        phase := (s.clearGenerationWait (.failed error)).recoveryView.phase } := by
    rw [recoveryView_clearGenerationWait]
    split
    · rfl
    next absent =>
      have same : s.recoveryView.generationWait = none := Option.not_isSome_iff_eq_none.mp absent
      rw [← same]
  generalize s.clearGenerationWait (.failed error) = s₂ at cleared ⊢
  have view : (change s₂.rejectPending).recoveryView = s₂.recoveryView :=
    (same _).trans (recoveryView_rejectPending s₂)
  generalize change s₂.rejectPending = s₃ at view ⊢
  refine ⟨s₂.recoveryView.phase, ?_⟩
  obtain unmoved | ⟨⟨wait, found, -⟩, -⟩ := recoveryView_notifyProgress s₃ writes
  · rw [unmoved, view]
    exact cleared
  · have noWait : s₃.generationWait = none :=
      congrArg RecoveryView.generationWait (view.trans cleared)
    rw [noWait] at found
    cases found

def RecoveryView.ended (v : RecoveryView δ) (state : SttRecoveryState) (active : Option Nat)
    (phase : Option RecoveryPhase) : RecoveryView δ :=
  { v with state, active, live := false, generationWait := none, phase }

theorem recoveryView_failTerminal (alive : s.live = true) (error : SttGenerationError) :
    ∃ phase, (s.failTerminal error).recoveryView = s.recoveryView.ended .failed none phase := by
  have going : (s.terminal || s.isClosed) = false := by
    rw [live, Bool.and_eq_true] at alive
    simp_all
  unfold failTerminal
  rw [if_neg (by simp [going])]
  dsimp only
  generalize start : { s with terminal := true, state := .failed }.happen .terminal = s₁
  have view₁ : s₁.recoveryView = { s.recoveryView with state := .failed, live := false } := by
    subst start
    simp [recoveryView, happen, live]
  have silent : ∀ s : ResilientSttStream δ,
      { s with events := (s.events.fail ()).2 }.recoveryView = s.recoveryView := fun _ => rfl
  obtain ⟨phase, view₂⟩ := recoveryView_giveUp s₁ error ⟨false, false⟩ silent
  refine ⟨phase, ?_⟩
  show { (notifyProgress _ _).recoveryView with active := none } = _
  rw [view₂, view₁]
  rfl

theorem recoveryView_shut :
    ∃ phase, s.shut.recoveryView =
      { s.recoveryView.ended .closed s.active phase with shutting := true } := by
  unfold shut
  dsimp only
  generalize start : { s with isClosed := true, closing := true, state := .closed } = s₁
  have view₁ : s₁.recoveryView = { s.recoveryView with state := .closed, live := false } := by
    subst start
    simp [recoveryView, live]
  obtain ⟨phase, view₂⟩ := recoveryView_giveUp s₁ ⟨false, false⟩ ⟨false, false⟩ fun _ => rfl
  refine ⟨phase, ?_⟩
  show { (notifyProgress _ _).recoveryView with shutting := true } = _
  rw [view₂, view₁]
  rfl

/-! ### What keeps the invariant -/

variable {s} {config}

theorem live_eq_true (going : ¬ (s.isClosed || s.terminal) = true) : s.live = true := by
  cases closed : s.isClosed <;> cases terminal : s.terminal <;> simp_all [live]

theorem Attended.bound (attended : Attended s.recoveryView) : s.cursor ≤ s.journal.length := by
  simpa [recoveryView] using attended.cursor

theorem Placed.ended {v : RecoveryView δ} (placed : Placed v) (state : SttRecoveryState)
    (phase : Option RecoveryPhase) : Attended (v.ended state none phase) where
  cursor := placed.cursor
  past := placed.past
  command := placed.command
  inFlight _ _ _ _ _ := nofun
  gone _ := rfl
  wait := nofun
  active := nofun
  idle := nofun
  healthy := nofun
  phase := nofun

theorem Placed.failTerminal (placed : Placed s.recoveryView) (alive : s.live = true)
    (error : SttGenerationError) : Attended (s.failTerminal error).recoveryView := by
  obtain ⟨phase, view⟩ := recoveryView_failTerminal s alive error
  rw [view]
  exact placed.ended .failed phase

theorem failTerminal_eq_self (gone : s.live = false) (error : SttGenerationError) :
    s.failTerminal error = s := by
  rw [ResilientSttStream.failTerminal, if_pos]
  rw [live] at gone
  cases terminal : s.terminal <;> simp_all

theorem Attended.failTerminal (attended : Attended s.recoveryView) (error : SttGenerationError) :
    Attended (s.failTerminal error).recoveryView := by
  cases alive : s.live with
  | false =>
    rw [failTerminal_eq_self alive]
    exact attended
  | true => exact attended.toPlaced.failTerminal alive error

theorem Attended.clearStable (attended : Attended s.recoveryView)
    (reached : ∀ wait, s.generationWait = some wait → wait.replayBoundary ≤ s.cursor) :
    Attended (s.clearGenerationWait .stable).recoveryView := by
  rw [recoveryView_clearGenerationWait]
  cases found : s.generationWait with
  | none => exact attended
  | some wait =>
    obtain ⟨alive, boundary, state, stream, phase⟩ := attended.wait wait found
    obtain ⟨same, active, -⟩ := attended.phase alive _ phase
    rw [Option.isSome_some, if_pos rfl]
    refine { attended with wait := nofun, phase := ?_ }
    rintro - _ resolved
    simp only [phase, Option.map_some, resolvePhase] at resolved
    obtain rfl := Option.some.inj resolved
    refine ⟨rfl, .inr ⟨active, state, ?_⟩⟩
    exact boundary ▸ reached wait found

theorem compacted_at_cursor {journal : List (SttJournalEntry δ)} {cursor : Nat}
    (replayStart replayBoundary : Nat) (now window : Int) {entry : EntryShape δ}
    (command : entry.isCommand = true) (at_ : (journal.map shape)[cursor]? = some entry) :
    (((SttJournal.compactJournal journal cursor replayStart replayBoundary now window).1.map
      shape)[(SttJournal.compactJournal journal cursor replayStart replayBoundary now
        window).2.cursor]?) = some entry := by
  have within : cursor < journal.length := by
    simpa using (List.getElem?_eq_some_iff.mp at_).1
  rw [compactJournal_split (Nat.le_of_lt within), compactJournal_cursor (Nat.le_of_lt within),
    List.map_append, List.getElem?_append_right (by simp), List.length_map, Nat.sub_self,
    List.drop_eq_getElem_cons within]
  have same : shape journal[cursor] = entry := by
    rw [List.getElem?_map, List.getElem?_eq_getElem within, Option.map_some] at at_
    exact Option.some.inj at_
  have stays : (!isSettledContext journal[cursor]) = true := by
    have kind : SttJournal.isCommand journal[cursor] = true := by
      rw [← isCommand_shape, same]
      exact command
    cases entry : journal[cursor] <;> simp_all [SttJournal.isCommand, isSettledContext]
  rw [List.filter_cons, if_pos stays, List.map_cons, List.getElem?_cons_zero, same]

/-- What compaction does to this part: `place` moves the positions. -/
structure Compacts (s : ResilientSttStream δ) (place : Nat → Nat)
    (shapes : List (EntryShape δ)) : Prop where
  mono : ∀ low high, low ≤ high → place low ≤ place high
  zero : place 0 = 0
  sublist : shapes.Sublist (s.journal.map shape)
  bound : s.cursor ≤ s.journal.length → place s.cursor ≤ shapes.length
  stays : ∀ entry : EntryShape δ, entry.isCommand = true →
    (s.journal.map shape)[s.cursor]? = some entry → shapes[place s.cursor]? = some entry
  ahead : s.cursor ≤ s.journal.length → (shapes.drop (place s.cursor)).filter EntryShape.isCommand =
    ((s.journal.map shape).drop s.cursor).filter EntryShape.isCommand

theorem recoveryView_compactJournal (now : Int) :
    ∃ (place : Nat → Nat) (shapes : List (EntryShape δ)), Compacts s place shapes ∧
      (s.compactJournal config now).recoveryView =
        { s.recoveryView with
          shapes
          cursor := place s.cursor
          replayStart := place s.replayStart
          replayBoundary := place s.replayBoundary
          generationWait := s.generationWait.map fun wait =>
            if wait.replayBoundary = s.replayBoundary then
              { wait with replayBoundary := place s.replayBoundary }
            else wait } := by
  obtain ⟨place, mono, zero, places⟩ := compactJournal_places s.journal s.cursor s.replayStart
    s.replayBoundary now config.options.uncertainWindowMs
  have length : s.cursor ≤ s.journal.length → place s.cursor = (Lib.sieve (keepsIndex s.journal
      s.cursor (now - config.options.uncertainWindowMs)) (s.journal.take s.cursor)).length := by
    intro bound
    have cursor : _ = place s.cursor := congrArg CompactionResult.cursor places
    rw [← cursor, compactJournal_cursor bound]
  refine ⟨place, (s.compactJournal config now).journal.map shape, ?_, ?view⟩
  case view =>
    simp only [ResilientSttStream.compactJournal, places, recoveryView]
    rfl
  constructor
  case mono => exact mono
  case zero => exact zero
  case sublist =>
    rw [ResilientSttStream.compactJournal, compactJournal_fst]
    exact (Lib.sieve_sublist _ _).map shape
  case bound =>
    intro bound
    rw [length bound, ResilientSttStream.compactJournal, compactJournal_split bound,
      List.length_map, List.length_append]
    exact Nat.le_add_right ..
  case stays =>
    intro entry command at_
    have kept := compacted_at_cursor s.replayStart s.replayBoundary now
      config.options.uncertainWindowMs command at_
    rwa [places] at kept
  case ahead =>
    intro bound
    have command : ∀ entry : SttJournalEntry δ,
        ((shape entry).isCommand && !isSettledContext entry) = (shape entry).isCommand := by
      intro entry
      cases entry <;> rfl
    rw [length bound, ResilientSttStream.compactJournal, compactJournal_split bound,
      ← List.map_drop, ← List.map_drop, List.drop_left, List.filter_map, List.filter_map,
      List.filter_filter]
    simp only [Function.comp_def, command]

theorem Attended.compactJournal (attended : Attended s.recoveryView) (now : Int) :
    Attended (s.compactJournal config now).recoveryView := by
  obtain ⟨place, shapes, compacts, view⟩ :=
    @recoveryView_compactJournal δ config s now
  rw [view]
  refine { attended with
    cursor := ?cursor, inFlight := ?inFlight, wait := ?wait, idle := ?idle, healthy := ?healthy
    phase := ?phase }
  case cursor =>
    exact compacts.bound attended.bound
  case inFlight =>
    intro entry generation stream sending same active
    exact compacts.stays entry (attended.command entry generation stream sending)
      (attended.inFlight entry generation stream sending same active)
  case wait =>
    intro wait found
    obtain ⟨wait, there, rfl⟩ := Option.map_eq_some_iff.mp found
    obtain ⟨alive, boundary, rest⟩ := attended.wait wait there
    have boundary : wait.replayBoundary = s.replayBoundary := boundary
    refine ⟨alive, ?_, rest⟩
    rw [if_pos boundary]
  case idle =>
    intro alive idle
    exact congrArg place (attended.idle alive idle)
  case healthy =>
    intro alive healthy
    have none : s.replayBoundary = 0 := attended.healthy alive healthy
    show place s.replayBoundary = 0
    rw [none, compacts.zero]
  case phase =>
    intro alive phase found
    have holds := attended.phase alive phase found
    cases phase with
    | pausing => exact holds
    | opening => exact holds
    | returned => trivial
    | watching generation stream =>
      refine ⟨holds.1, holds.2.1, ?_⟩
      show Option.map _ s.generationWait ≠ none
      have waits : s.generationWait ≠ none := holds.2.2
      simpa using waits
    | settled generation stream outcome =>
      cases outcome with
      | failed error => exact holds
      | stable =>
        exact ⟨holds.1, holds.2.imp_right fun ⟨active, state, reached⟩ =>
          ⟨active, state, compacts.mono _ _ reached⟩⟩

theorem Attended.push (attended : Attended s.recoveryView) (entry : SttJournalEntry δ) :
    Attended (s.push entry).recoveryView := by
  have view : (s.push entry).recoveryView =
      { s.recoveryView with shapes := s.recoveryView.shapes ++ [shape entry] } := by
    simp [recoveryView, ResilientSttStream.push, happen, live]
  rw [view]
  refine { attended with cursor := ?_, inFlight := ?_ }
  · exact Nat.le_trans attended.cursor (by simp)
  · intro sent generation stream sending same active
    have at_ := attended.inFlight sent generation stream sending same active
    show (s.recoveryView.shapes ++ [shape entry])[s.recoveryView.cursor]? = _
    rw [List.getElem?_append_left (List.getElem?_eq_some_iff.mp at_).1]
    exact at_

/-! ### Events to the outside -/

def Unmoved (v w : RecoveryView δ) : Prop :=
  w = v ∨ v.live = true ∧ ∃ phase, w = v.ended .failed none phase

theorem Attended.unmoved {v w : RecoveryView δ} (attended : Attended v) (unmoved : Unmoved v w) :
    Attended w := by
  obtain rfl | ⟨-, phase, rfl⟩ := unmoved
  · exact attended
  · exact attended.toPlaced.ended .failed phase

theorem unmoved_failTerminal (error : SttGenerationError) :
    Unmoved s.recoveryView (s.failTerminal error).recoveryView := by
  cases alive : s.live with
  | false =>
    rw [failTerminal_eq_self alive]
    exact .inl rfl
  | true => exact .inr ⟨alive, recoveryView_failTerminal s alive error⟩

theorem unmoved_emit (s : ResilientSttStream δ) (event : SttEvent δ) (arrival generation : Nat) :
    Unmoved s.recoveryView (s.emit event arrival generation).recoveryView := by
  unfold emit
  split
  · exact .inl rfl
  · dsimp only
    split
    · exact .inl rfl
    · apply unmoved_failTerminal
        (s := happen { s with sequence := s.sequence + 1, events := _ } _)

theorem Unmoved.trans {u v w : RecoveryView δ} (first : Unmoved u v) (second : Unmoved v w) :
    Unmoved u w := by
  obtain rfl | ⟨alive, phase, rfl⟩ := first
  · exact second
  · obtain rfl | ⟨dead, -⟩ := second
    · exact .inr ⟨alive, phase, rfl⟩
    · cases dead

theorem unmoved_release (s : ResilientSttStream δ) :
    Unmoved s.recoveryView s.releaseHeldEndpoints.recoveryView := by
  unfold releaseHeldEndpoints
  split
  · exact .inl rfl
  · generalize s.heldEndpoints = held
    show Unmoved { s with heldEndpoints := [] }.recoveryView _
    generalize { s with heldEndpoints := [] } = s
    induction held generalizing s with
    | nil => exact .inl rfl
    | cons first held ih => exact (unmoved_emit s _ _ _).trans (ih _)

/-! ### Failure and recovery -/

theorem Attended.noWait {v : RecoveryView δ} (attended : Attended v)
    (unwatched : ∀ generation stream, v.phase ≠ some (.watching generation stream)) :
    v.generationWait = none := by
  by_contra waiting
  obtain ⟨wait, found⟩ := Option.ne_none_iff_exists'.mp waiting
  obtain ⟨-, -, -, stream, phase⟩ := attended.wait wait found
  exact unwatched _ _ phase

theorem Attended.startRecovery (attended : Attended s.recoveryView) (idle : s.active = none)
    (source : SttGenerationError) : Attended (s.startRecovery source).recoveryView := by
  unfold ResilientSttStream.startRecovery
  split
  · exact attended
  · split
    · exact attended
    next absent =>
      have unphased : s.recoveryView.phase = none := by simp [recoveryView, absent]
      have noWait := attended.noWait (by simp [unphased])
      refine { attended with wait := ?_, phase := ?_ }
      · intro wait found
        cases noWait.symm.trans found
      · rintro - _ ⟨⟩
        exact idle

def RecoveryView.interrupted (v : RecoveryView δ) (cursor replayBoundary : Nat)
    (phase : Option RecoveryPhase) : RecoveryView δ :=
  { v with
    state := .recovering
    active := none
    cursor
    replayStart := cursor
    replayBoundary
    generationWait := none
    phase }

theorem Attended.interrupted {v : RecoveryView δ} (attended : Attended v) {cursor : Nat}
    (bound : cursor ≤ v.shapes.length) (replayBoundary : Nat) {phase : Option RecoveryPhase}
    (kept : v.live = true → ∀ recovering, phase = some recovering → recovering = .pausing ∨
      recovering = .opening ∨ recovering = .returned ∨ ∃ generation stream outcome,
        recovering = .settled generation stream outcome ∧
          (outcome = .stable → v.generation = generation)) :
    Attended (v.interrupted cursor replayBoundary phase) where
  cursor := bound
  past := attended.past
  command := attended.command
  inFlight _ _ _ _ _ := nofun
  gone := attended.gone
  wait := nofun
  active _ absent := absurd rfl absent
  idle _ _ := rfl
  healthy _ := nofun
  phase := by
    intro alive recovering found
    obtain rfl | rfl | rfl | ⟨generation, stream, outcome, rfl, same⟩ := kept alive _ found
    · rfl
    · rfl
    · trivial
    · cases outcome with
      | stable => exact ⟨same rfl, .inl rfl⟩
      | failed error => exact .inr rfl

theorem Attended.interrupt (attended : Attended s.recoveryView) {cursor : Nat}
    (bound : cursor ≤ s.journal.length) (replayBoundary : Nat) (error : SttGenerationError)
    {s' : ResilientSttStream δ}
    (view : s'.recoveryView =
      { s.recoveryView with
        state := .recovering, active := none, cursor, replayStart := cursor, replayBoundary }) :
    Attended (s'.clearGenerationWait (.failed error)).recoveryView := by
  have bound : cursor ≤ s.recoveryView.shapes.length := by simpa [recoveryView] using bound
  have wait' : s'.generationWait = s.generationWait := congrArg RecoveryView.generationWait view
  rw [recoveryView_clearGenerationWait, view, wait']
  cases found : s.generationWait with
  | none =>
    have same : s.recoveryView.generationWait = none := found
    have kept : Attended
        (s.recoveryView.interrupted cursor replayBoundary s.recoveryView.phase) := by
      refine attended.interrupted bound replayBoundary ?_
      intro alive phase there
      have holds := attended.phase alive phase there
      cases phase with
      | watching generation stream => exact absurd same holds.2.2
      | settled generation stream outcome =>
        refine .inr (.inr (.inr ⟨generation, stream, outcome, rfl, ?_⟩))
        rintro rfl
        exact holds.1
      | _ => simp
    rw [RecoveryView.interrupted, ← same] at kept
    exact kept
  | some wait =>
    rw [Option.isSome_some, if_pos rfl]
    refine attended.interrupted bound replayBoundary ?_
    intro alive phase there
    obtain ⟨-, -, -, stream, watching⟩ := attended.wait wait found
    simp only [watching, Option.map_some, resolvePhase, Option.some.injEq] at there
    subst there
    simp

theorem Attended.handleGenerationFailure (attended : Attended s.recoveryView)
    (generation stream : Nat) (error : SttGenerationError) (now : Int) :
    Attended (s.handleGenerationFailure config generation stream error now).recoveryView := by
  unfold ResilientSttStream.handleGenerationFailure
  split
  · exact attended
  next going =>
    have alive : s.live = true := live_eq_true (by simp_all)
    have bound : findReplayStart s.journal s.cursor now config.options.uncertainWindowMs ≤
        s.journal.length := Nat.le_trans (walkBack_le ..) attended.bound
    dsimp only
    split
    · refine Placed.failTerminal ?_ ?_ error
      · exact ⟨by simpa [recoveryView, happen] using bound, attended.past, attended.command⟩
      · exact alive
    · refine Attended.startRecovery ?_ ?_ error
      · exact attended.interrupt bound s.journal.length error rfl
      · rw [clearGenerationWait_active]
        rfl

/-! ### The loop of recovery -/

variable {recovery : SttRecovery}

theorem Attended.withPhase (attended : Attended s.recoveryView)
    (running : s.recovery = some recovery)
    (unwatched : ∀ generation stream, recovery.phase ≠ .watching generation stream)
    (next : SttRecovery) {phase : RecoveryPhase}
    (holds : s.live = true → PhaseHolds s.recoveryView phase) :
    Attended (s.withPhase next phase).recoveryView := by
  have noWait := attended.noWait (by simpa [recoveryView, running] using unwatched)
  refine { attended with wait := ?_, phase := ?_ }
  · intro wait found
    cases noWait.symm.trans found
  · rintro alive _ ⟨⟩
    exact holds alive

theorem Attended.withReturned (attended : Attended s.recoveryView)
    (running : s.recovery = some recovery)
    (unwatched : ∀ generation stream, recovery.phase ≠ .watching generation stream)
    (next : SttRecovery) : Attended (s.withPhase next .returned).recoveryView := by
  apply attended.withPhase running unwatched
  intro alive
  trivial

section

variable (attended : Attended s.recoveryView)
include attended

theorem Attended.opened (running : s.recovery = some recovery) (opening : recovery.phase = .opening)
    (stream : Nat) (replayed : List Nat) :
    Attended (s.opened recovery stream replayed).recoveryView := by
  unfold ResilientSttStream.opened
  split
  · exact attended.withReturned running (by simp [opening]) _
  next going =>
    have alive := live_eq_true going
    refine { attended with
      past := ?_, inFlight := ?_, wait := ?_, active := ?_, idle := ?_, healthy := ?_, phase := ?_ }
    · intro entry generation stream sending
      exact Nat.le_succ_of_le (attended.past entry generation stream sending)
    · -- what is still in flight belongs to an earlier generation
      intro entry generation other sending same
      have past := attended.past entry generation other sending
      exact absurd same (Nat.ne_of_gt (Nat.lt_succ_of_le past))
    · rintro _ ⟨⟩
      exact ⟨alive, rfl, rfl, stream, rfl⟩
    · exact fun _ _ => .inr rfl
    · exact fun _ => nofun
    · exact fun _ => nofun
    · rintro - _ ⟨⟩
      exact ⟨rfl, rfl, nofun⟩

theorem Attended.opens (running : s.recovery = some recovery) (pausing : recovery.phase = .pausing)
    (alive : s.live = true) (next : SttRecovery) :
    Attended ({ s.withPhase next .opening with state := .opening } :
      ResilientSttStream δ).recoveryView := by
  have idle : s.active = none := attended.phase alive .pausing (by simp [recoveryView, running, pausing])
  have noWait := attended.noWait (by simp [recoveryView, running, pausing])
  refine { attended with wait := ?_, active := ?_, healthy := ?_, phase := ?_ }
  · intro wait found
    cases noWait.symm.trans found
  · exact fun _ active => absurd idle active
  · exact fun _ => nofun
  · rintro - _ ⟨⟩
    exact idle

/-- A generation that has been stable becomes healthy. -/
def heal (s : ResilientSttStream δ) (recovery : SttRecovery) (generation : Nat) : ResilientSttStream δ :=
  { (({ s with state := .healthy, replayStart := s.cursor } : ResilientSttStream δ).happen
    (.healthy generation)).releaseHeldEndpoints with replayBoundary := 0 }.withPhase recovery .returned

theorem Attended.heal (running : s.recovery = some recovery) {generation stream : Nat}
    (settled : recovery.phase = .settled generation stream .stable) :
    Attended (s.heal recovery generation).recoveryView := by
  have noWait := attended.noWait (by simp [recoveryView, running, settled])
  generalize start : ({ s with state := .healthy, replayStart := s.cursor }.happen
    (.healthy generation) : ResilientSttStream δ) = s₁
  have view₁ : s₁.recoveryView =
      { s.recoveryView with state := .healthy, replayStart := s.cursor } := by
    subst start
    rfl
  have view : (s.heal recovery generation).recoveryView =
      { s₁.releaseHeldEndpoints.recoveryView with
        replayBoundary := 0, phase := some .returned } := by
    subst start
    rfl
  rw [view]
  obtain same | ⟨-, phase, same⟩ := unmoved_release s₁
  · rw [same, view₁]
    refine { attended with wait := ?_, active := ?_, idle := ?_, healthy := ?_, phase := ?_ }
    · intro wait found
      cases noWait.symm.trans found
    · exact fun _ _ => .inl rfl
    · exact fun _ _ => rfl
    · exact fun _ _ => rfl
    · rintro - _ ⟨⟩
      trivial
  · rw [same, view₁]
    exact Placed.ended (v := { s.recoveryView with replayStart := s.cursor, replayBoundary := 0 })
      ⟨attended.cursor, attended.past, attended.command⟩ .failed (some .returned)

theorem Attended.finish (running : s.recovery = some recovery) (returned : recovery.phase = .returned) :
    Attended ({ s with recovery := none, recoveryRestartSource := none } :
      ResilientSttStream δ).recoveryView := by
  have noWait := attended.noWait (by simp [recoveryView, running, returned])
  refine { attended with wait := ?_, phase := ?_ }
  · intro wait found
    cases noWait.symm.trans found
  · exact fun _ _ => nofun

theorem Attended.stable {wait : GenerationWait} (found : s.generationWait = some wait) :
    Attended ({ s with generationWait := some { wait with stableReached := true } } :
      ResilientSttStream δ).recoveryView := by
  obtain ⟨alive, boundary, rest⟩ := attended.wait wait found
  refine { attended with wait := ?_, phase := ?_ }
  · rintro _ ⟨⟩
    exact ⟨alive, boundary, rest⟩
  · obtain ⟨-, stream, watching⟩ := rest
    intro alive phase there
    obtain rfl := Option.some.inj (watching.symm.trans there)
    have holds := attended.phase alive _ watching
    exact ⟨rfl, holds.2.1, nofun⟩

theorem Attended.clearExhausted {error : SttGenerationError} (exhausted : error.exhausted = true) :
    Attended (s.clearGenerationWait (.failed error)).recoveryView := by
  rw [recoveryView_clearGenerationWait]
  cases found : s.generationWait with
  | none => exact attended
  | some wait =>
    obtain ⟨alive, -, -, stream, phase⟩ := attended.wait wait found
    rw [Option.isSome_some, if_pos rfl]
    refine { attended with wait := nofun, phase := ?_ }
    rintro - _ resolved
    simp only [phase, Option.map_some, resolvePhase] at resolved
    obtain rfl := Option.some.inj resolved
    exact .inl exhausted

/-! ### The journal loop -/

theorem Attended.run {run : JournalRun δ} (idle : sendInFlight run = none) :
    Attended ({ s with journalRun := run } : ResilientSttStream δ).recoveryView :=
  { attended with
    inFlight := fun _ _ _ sending => by cases idle.symm.trans sending
    past := fun _ _ _ sending => by cases idle.symm.trans sending
    command := fun _ _ _ sending => by cases idle.symm.trans sending }

theorem Attended.skip {run : JournalRun δ} (idle : sendInFlight run = none) (current : s.active ≠ none)
    {entry : EntryShape δ} (at_ : (s.journal.map shape)[s.cursor]? = some entry) :
    Attended ({ s with journalRun := run, cursor := s.cursor + 1 } :
      ResilientSttStream δ).recoveryView := by
  refine { attended.run idle with cursor := ?_, inFlight := ?_, idle := ?_, phase := ?_ }
  · exact (List.getElem?_eq_some_iff.mp at_).1
  · intro entry generation stream sending
    cases idle.symm.trans sending
  · exact fun _ idle => absurd idle current
  · intro alive phase found
    have holds := attended.phase alive phase found
    cases phase with
    | settled generation stream outcome =>
      cases outcome with
      | failed error => exact holds
      | stable =>
        exact ⟨holds.1, holds.2.imp_right fun ⟨active, state, reached⟩ =>
          ⟨active, state, Nat.le_succ_of_le reached⟩⟩
    | _ => exact holds

theorem Attended.sends {entry : SttJournalEntry δ} (there : s.journal[s.cursor]? = some entry)
    (command : SttJournal.isCommand entry = true) (stream : Nat) :
    Attended ({ s with journalRun := .sending entry s.generation stream }.happen
      (.sent s.generation entry) : ResilientSttStream δ).recoveryView := by
  refine { attended with past := ?_, command := ?_, inFlight := ?_ }
  · rintro _ _ _ ⟨⟩
    exact Nat.le_refl _
  · rintro _ _ _ ⟨⟩
    rw [isCommand_shape]
    exact command
  · rintro _ _ _ ⟨⟩ - -
    show (s.journal.map shape)[s.cursor]? = _
    rw [List.getElem?_map, there, Option.map_some]

/-! ### What arrives, and the end -/

theorem Attended.forwardGenerationEvent [Zero δ] [Add δ] [DecidableEq δ] (event : SttEvent δ)
    (arrival generation : Nat) :
    Attended (s.forwardGenerationEvent config event arrival generation).recoveryView := by
  unfold ResilientSttStream.forwardGenerationEvent
  dsimp only
  split
  · split
    · exact attended.failTerminal _
    · exact attended
  · exact attended.unmoved (unmoved_emit s _ _ _)

theorem Attended.consumeEvent [Zero δ] [Add δ] [DecidableEq δ] (generation stream : Nat)
    (event : SttEvent δ) (now : Int) :
    Attended (s.consumeEvent config generation stream event now).recoveryView := by
  unfold ResilientSttStream.consumeEvent
  dsimp only
  split
  · exact attended
  · have received : Attended (({ s with arrivals := s.arrivals + 1 } :
        ResilientSttStream δ).happen
          (.received s.arrivals generation s.state event)).recoveryView := attended
    split
    · exact received.handleGenerationFailure generation stream _ now
    · exact received.forwardGenerationEvent event _ generation

theorem Attended.shut : Attended s.shut.recoveryView := by
  obtain ⟨phase, view⟩ := recoveryView_shut s
  rw [view]
  exact
    { cursor := attended.cursor
      past := attended.past
      command := attended.command
      inFlight := attended.inFlight
      gone := fun _ => rfl
      wait := nofun
      active := nofun
      idle := nofun
      healthy := nofun
      phase := nofun }

theorem Attended.streamsClosed :
    Attended s.streamsClosed.recoveryView := by
  unfold ResilientSttStream.streamsClosed
  split
  next shutting =>
    have dead : s.live = false := attended.gone shutting
    refine { attended with
      inFlight := ?_, wait := ?_, active := ?_, idle := ?_, healthy := ?_, phase := ?_ }
    · exact fun _ _ _ _ _ => nofun
    · intro wait found
      cases dead.symm.trans (attended.wait wait found).1
    all_goals
      intro alive
      cases dead.symm.trans alive
  · exact attended

end

/-! ### Every step -/

section Moves

variable [Zero δ] [Add δ] [DecidableEq δ]

/-- The stream without what neither recovery nor the timeline nor the endpoints look at. -/
def bare (s : ResilientSttStream δ) : ResilientSttStream δ :=
  { s with
    journal := []
    pendingEntries := []
    contextVersion := 0
    recoveryRestartSource := none
    closing := false
    closePhase := .unasked
    events := .new sttEventQueueOptions }

def EntryShape.audioOffset : EntryShape δ → Option δ
  | .audio _ offsetMs => some offsetMs
  | _ => none

def isNote : SttHappening δ → Bool
  | .resolved _ => true
  | .dispatched .. => true
  | _ => false

/-- The changes of which every step is made. -/
inductive Move (config : SttStreamConfig) (s : ResilientSttStream δ) : ResilientSttStream δ → Prop
  | still {s' : ResilientSttStream δ} (shapes : s'.journal.map shape = s.journal.map shape)
      (same : s'.bare = s.bare) : Move config s s'
  | failTerminal (error : SttGenerationError) : Move config s (s.failTerminal error)
  | compactJournal (now : Int) : Move config s (s.compactJournal config now)
  | pushAudio (chunk : InputAudioChunk δ) (admittedAtMs : Int) : Move config s
      { s.push (.audio s.entries chunk s.sessionAudioMs admittedAtMs none) with
        sessionAudioMs := s.sessionAudioMs + chunk.durationMs }
  | push {entry : SttJournalEntry δ} (fresh : entry.id = s.entries) (other : isAudio entry = false) :
      Move config s (s.push entry)
  | note {happening : SttHappening δ} (note : isNote happening = true) :
      Move config s (s.happen happening)
  | run {run : JournalRun δ} (idle : sendInFlight run = none) : Move config s { s with journalRun := run }
  | sends {entry : SttJournalEntry δ} {stream : Nat} (alive : s.live = true)
      (active : s.active = some stream) (there : s.journal[s.cursor]? = some entry)
      (command : SttJournal.isCommand entry = true) :
      Move config s ({ s with journalRun := .sending entry s.generation stream }.happen
        (.sent s.generation entry))
  | skip {entry : EntryShape δ} {r : JournalRun δ}
      (at_ : (s.journal.map shape)[s.cursor]? = some entry) (current : s.active ≠ none)
      (idle : sendInFlight r = none)
      (known : entry.audioOffset = none ∨
        ∃ stream, sendInFlight s.journalRun = some (entry, s.generation, stream)) :
      Move config s { s with journalRun := r, cursor := s.cursor + 1 }
  | clearStable (reached : ∀ wait, s.generationWait = some wait → wait.replayBoundary ≤ s.cursor) :
      Move config s (s.clearGenerationWait .stable)
  | clearExhausted {error : SttGenerationError} (exhausted : error.exhausted = true) :
      Move config s (s.clearGenerationWait (.failed error))
  | stable {wait : GenerationWait} (found : s.generationWait = some wait) :
      Move config s { s with generationWait := some { wait with stableReached := true } }
  | release : Move config s s.releaseHeldEndpoints
  | fails (generation stream : Nat) (error : SttGenerationError) (now : Int) :
      Move config s (s.handleGenerationFailure config generation stream error now)
  | consumes (generation stream : Nat) (event : SttEvent δ) (now : Int) :
      Move config s (s.consumeEvent config generation stream event now)
  | withPhase {recovery : SttRecovery} (running : s.recovery = some recovery)
      (unwatched : ∀ generation stream, recovery.phase ≠ .watching generation stream)
      (next : SttRecovery) {p : RecoveryPhase}
      (holds : s.live = true → PhaseHolds s.recoveryView p) : Move config s (s.withPhase next p)
  | opens {recovery : SttRecovery} (running : s.recovery = some recovery)
      (pausing : recovery.phase = .pausing) (alive : s.live = true) (next : SttRecovery) :
      Move config s { s.withPhase next .opening with state := .opening }
  | opened {recovery : SttRecovery} (running : s.recovery = some recovery)
      (opening : recovery.phase = .opening) (stream : Nat) (replayed : List Nat) :
      Move config s (s.opened recovery stream replayed)
  | heal {recovery : SttRecovery} {generation stream : Nat} (running : s.recovery = some recovery)
      (settled : recovery.phase = .settled generation stream .stable) (alive : s.live = true)
      (current : s.current generation stream = true) (state : s.state = .probationary) :
      Move config s (s.heal recovery generation)
  | finish {recovery : SttRecovery} (running : s.recovery = some recovery)
      (returned : recovery.phase = .returned) :
      Move config s { s with recovery := none, recoveryRestartSource := none }
  | startRecovery (idle : s.active = none) (source : SttGenerationError) :
      Move config s (s.startRecovery source)
  | shut : Move config s s.shut
  | streamsClosed : Move config s s.streamsClosed

abbrev Moves (config : SttStreamConfig) : ResilientSttStream δ → ResilientSttStream δ → Prop :=
  Relation.ReflTransGen (Move config)

variable {s' : ResilientSttStream δ}

theorem Attended.move (attended : Attended s.recoveryView) (move : Move config s s') :
    Attended s'.recoveryView := by
  cases move with
  | still shapes same =>
    have view : s'.recoveryView = s.recoveryView := by
      show ({ s'.bare.recoveryView with shapes := s'.journal.map shape } : RecoveryView δ) = _
      rw [same, shapes]
      rfl
    rw [view]
    exact attended
  | failTerminal error => exact attended.failTerminal error
  | compactJournal now => exact attended.compactJournal now
  | pushAudio chunk admittedAtMs => exact attended.push _
  | push fresh other => exact attended.push _
  | note note => exact attended
  | run idle => exact attended.run idle
  | sends alive active there command => exact attended.sends there command _
  | skip at_ current idle known => exact attended.skip idle current at_
  | clearStable reached => exact attended.clearStable reached
  | clearExhausted exhausted => exact attended.clearExhausted exhausted
  | stable found => exact attended.stable found
  | release => exact attended.unmoved (unmoved_release s)
  | fails generation stream error now => exact attended.handleGenerationFailure generation stream error now
  | consumes generation stream event now => exact attended.consumeEvent generation stream event now
  | withPhase running unwatched next holds => exact attended.withPhase running unwatched next holds
  | opens running pausing alive next => exact attended.opens running pausing alive next
  | opened running opening stream replayed => exact attended.opened running opening stream replayed
  | heal running settled => exact attended.heal running settled
  | finish running returned => exact attended.finish running returned
  | startRecovery idle source => exact attended.startRecovery idle source
  | shut => exact attended.shut
  | streamsClosed => exact attended.streamsClosed

theorem Moves.keeps {P : ResilientSttStream δ → Prop} (moves : Moves config s s')
    (preserved : ∀ s s', Move config s s' → P s → P s') (holds : P s) : P s' := by
  induction moves with
  | refl => exact holds
  | tail _ last ih => exact preserved _ _ last ih

theorem moves_changeEntry (id : Nat) (same : ∀ entry, shape (change entry) = shape entry) :
    Move config s (s.changeEntry id change) :=
  .still (shapes_changeEntry s id same) rfl

theorem moves_settleContext (id : Nat) : Move config s (s.settleContext id) :=
  .still (congrArg RecoveryView.shapes (recoveryView_settleContext s id)) rfl

theorem moves_notifyProgress (writes : ContextWrites) : Moves config s (s.notifyProgress writes) := by
  have drains : ∀ s : ResilientSttStream δ, Move config s (s.resolveDrain writes) := by
    intro s
    unfold resolveDrain
    split
    · split
      · exact .still rfl rfl
      · exact .still rfl rfl
    · exact .still rfl rfl
  refine .tail ?_ (drains _)
  unfold resolveStable
  split
  next wait found =>
    split
    next ready =>
      simp only [Bool.and_eq_true, decide_eq_true_eq] at ready
      refine .single (.clearStable fun other found' => ?_)
      obtain rfl := Option.some.inj (found.symm.trans found')
      exact ready.2
    · exact .refl
  · exact .refl

/-! ### Admission -/

theorem moves_sendAudio (chunk : InputAudioChunk δ) (now admittedAtMs : Int) :
    Moves config s (s.sendAudio config chunk now admittedAtMs) := by
  unfold sendAudio
  split
  · exact .refl
  · refine .head (.compactJournal now) ?_
    dsimp only
    split
    · exact .single (.failTerminal _)
    · split
      · exact .single (.failTerminal _)
      · exact .single (.pushAudio chunk admittedAtMs)

theorem moves_commit (now admittedAtMs : Int) : Moves config s (s.commit config now admittedAtMs) := by
  unfold commit
  split
  · exact .refl
  · refine .head (.compactJournal now) ?_
    dsimp only
    split
    · exact .single (.failTerminal _)
    · exact .single (.push rfl rfl)

theorem moves_updateAgentContext (coalesced : Option Nat) (now admittedAtMs : Int) :
    Moves config s (s.updateAgentContext config coalesced now admittedAtMs) := by
  unfold updateAgentContext
  split
  · exact .refl
  · refine .head (.compactJournal now) (.head (b := { s.compactJournal config now with
      contextVersion := (s.compactJournal config now).contextVersion + 1 }) (.still rfl rfl) ?_)
    dsimp only
    split
    · exact .single (moves_changeEntry _ (shape_withVersion _))
    · split
      · exact .single (.failTerminal _)
      · exact .single (.push rfl rfl)

/-! ### The loops of recovery and of the journal -/

theorem moves_giveUp {recovery : SttRecovery} (running : s.recovery = some recovery)
    (unwatched : ∀ generation stream, recovery.phase ≠ .watching generation stream)
    (next : SttRecovery) (error : SttGenerationError) :
    Moves config s ((s.withPhase next .returned).failTerminal error) :=
  .head (.withPhase (p := .returned) running unwatched next fun _ => trivial) (.single (.failTerminal error))

theorem moves_countQuickFailure {recovery : SttRecovery} (running : s.recovery = some recovery)
    (unwatched : ∀ generation stream, recovery.phase ≠ .watching generation stream)
    (idle : s.live = true → s.active = none) (cause : SttGenerationError) :
    Moves config s (s.countQuickFailure config recovery cause) := by
  unfold countQuickFailure
  dsimp only
  split
  · exact moves_giveUp running unwatched _ cause
  · exact .single (.withPhase running unwatched _ idle)

theorem moves_recoveryPaused {recovery : SttRecovery} (running : s.recovery = some recovery)
    (pausing : recovery.phase = .pausing) (expired : Bool) :
    Moves config s (s.recoveryPaused config recovery expired) := by
  have unwatched : ∀ generation stream, recovery.phase ≠ .watching generation stream := by
    simp [pausing]
  unfold recoveryPaused
  split
  · exact .single (.withPhase running unwatched _ fun _ => trivial)
  next going =>
    split
    · exact moves_giveUp running unwatched _ _
    · exact .single (.opens running pausing (live_eq_true going) _)

theorem moves_openFails (attended : Attended s.recoveryView) {recovery : SttRecovery}
    (running : s.recovery = some recovery) (opening : recovery.phase = .opening)
    (error : SttGenerationError) : Moves config s (s.openFails config recovery error) := by
  have unwatched : ∀ generation stream, recovery.phase ≠ .watching generation stream := by
    simp [opening]
  unfold openFails
  split
  · exact moves_giveUp running unwatched _ error
  · refine moves_countQuickFailure running unwatched (fun alive => ?_) error
    exact attended.phase alive .opening (by simp [recoveryView, running, opening])

theorem moves_recoveryContinues (attended : Attended s.recoveryView) {recovery : SttRecovery}
    (running : s.recovery = some recovery) {generation stream : Nat} {outcome : GenerationOutcome}
    (settled : recovery.phase = .settled generation stream outcome) :
    Moves config s (s.recoveryContinues config recovery generation stream outcome) := by
  have unwatched : ∀ generation stream, recovery.phase ≠ .watching generation stream := by
    simp [settled]
  have holds : s.live = true → PhaseHolds s.recoveryView (.settled generation stream outcome) :=
    fun alive => attended.phase alive _ (by simp [recoveryView, running, settled])
  unfold recoveryContinues
  cases outcome with
  | failed error =>
    dsimp only
    split
    · exact moves_giveUp running unwatched _ error
    next retried =>
      refine moves_countQuickFailure running unwatched (fun alive => ?_) error
      obtain exhausted | idle := holds alive
      · simp [exhausted] at retried
      · exact idle
  | stable =>
    dsimp only
    split
    next unfit =>
      refine .head (b := { s with recoveryRestartSource := none }) (.still rfl rfl)
        (moves_countQuickFailure (s := { s with recoveryRestartSource := none }) running unwatched
          (fun alive => ?_) _)
      obtain ⟨same, idle | ⟨active, state, -⟩⟩ := holds alive
      · exact idle
      · have same : s.generation = generation := same
        have active : s.active = some stream := active
        have state : s.state = .probationary := state
        simp [live] at alive
        simp [current, same, active, state, alive] at unfit
    next fit =>
      simp only [Bool.or_eq_true, Bool.not_eq_true', decide_eq_true_eq, not_or, ne_eq, not_not,
        Bool.not_eq_true, Bool.not_eq_false] at fit
      exact .single (.heal running settled (live_eq_true (by simp [fit])) fit.1.2 fit.2)

theorem moves_recoveryFinally {recovery : SttRecovery} (running : s.recovery = some recovery)
    (returned : recovery.phase = .returned) : Moves config s s.recoveryFinally := by
  refine .head (.finish running returned) ?_
  unfold recoveryFinally
  dsimp only
  split
  · split
    next restarts =>
      simp only [Bool.and_eq_true, Option.isNone_iff_eq_none] at restarts
      exact .single (.startRecovery (s := { s with recovery := none, recoveryRestartSource := none })
        restarts.2 _)
    · exact .refl
  · exact .refl

theorem moves_stableTimer {wait : GenerationWait} (found : s.generationWait = some wait)
    (writes : ContextWrites) : Moves config s (s.stableTimer wait writes) := by
  unfold stableTimer
  split
  · exact .refl
  · refine .head (.stable found) ?_
    dsimp only
    split
    · exact .refl
    next ready =>
      refine .single (.clearStable ?_)
      rintro _ ⟨⟩
      simp only [Bool.or_eq_true, decide_eq_true_eq, not_or, Nat.not_lt] at ready
      exact ready.2

theorem moves_afterDispatch (now : Int) (writes : ContextWrites) :
    Moves config s (s.afterDispatch config now writes) :=
  ((moves_notifyProgress writes).tail (.compactJournal now)).tail (.release)

theorem moves_advance {s : ResilientSttStream δ} (looping : sendInFlight s.journalRun = none)
    (current : s.active ≠ none) {e : EntryShape δ}
    (at_ : (s.journal.map shape)[s.cursor]? = some e) (silent : e.audioOffset = none) (id : Nat)
    (now : Int) : Moves config s (s.advance id now) :=
  .head (.skip (r := s.journalRun) at_ current looping (.inl silent)) (.single (.note rfl))

theorem moves_contextTurn (looping : sendInFlight s.journalRun = none) (current : s.active ≠ none)
    {entry : SttJournalEntry δ} (there : s.journal[s.cursor]? = some entry)
    (context : (shape entry).audioOffset = none) (answer : ContextAnswer) (now : Int) :
    Moves config s (s.contextTurn entry answer now) := by
  have at_ : (s.journal.map shape)[s.cursor]? = some (shape entry) := by
    rw [List.getElem?_map, there, Option.map_some]
  unfold contextTurn
  split
  · exact .single (.skip (r := s.journalRun) at_ current looping (.inl context))
  · cases answer with
    | applied =>
      have settled : (s.settleContext entry.id).journal.map shape = s.journal.map shape :=
        congrArg RecoveryView.shapes (recoveryView_settleContext s entry.id)
      exact .head (moves_settleContext entry.id)
        (moves_advance (s := s.settleContext entry.id) looping current (settled ▸ at_) context _ now)
    | _ =>
      dsimp only
      generalize (if s.pendingEntries.contains entry.id = true then s.pendingEntries
        else s.pendingEntries ++ [entry.id]) = pendingEntries
      exact .head (b := { s with pendingEntries }) (.still rfl rfl)
        (moves_advance (s := { s with pendingEntries }) looping current at_ context _ now)

theorem moves_journalTurn (looping : sendInFlight s.journalRun = none) (answer : ContextAnswer)
    (now : Int) (writes : ContextWrites) :
    Moves config s (s.journalTurn config answer now writes) := by
  have returned : Moves config s { s with journalRun := .returned } := .single (.run rfl)
  unfold journalTurn
  split
  · exact returned
  next going =>
    have alive := live_eq_true going
    split
    · split
      · exact returned
      · exact .refl
    next entry there =>
      split
      · exact .refl
      next stream active =>
        have current : s.active ≠ none := by simp [active]
        split
        · exact .refl
        · cases entry with
          | agentContext id version admittedAtMs settled =>
            exact (moves_contextTurn looping current there rfl answer now).trans
              (moves_afterDispatch now writes)
          | commit id admittedAtMs settled =>
            dsimp only
            split
            · exact .single (.sends alive active there rfl)
            · refine (Relation.ReflTransGen.head (moves_changeEntry id shape_settle)
                (.head (.note rfl) (moves_advance (s := (s.changeEntry id (·.settle)).happen (.resolved id))
                  (e := .commit id) looping current ?_ rfl id now))).trans (moves_afterDispatch now writes)
              show ((s.changeEntry id (·.settle)).journal.map shape)[s.cursor]? = some (.commit id)
              rw [shapes_changeEntry s id shape_settle, List.getElem?_map, there]
              rfl
          | audio id chunk offsetMs admittedAtMs dispatchedAtMs =>
            exact .single (.sends alive active there rfl)

theorem moves_sendSettles (attended : Attended s.recoveryView) {entry : SttJournalEntry δ}
    {generation stream : Nat} (sending : s.journalRun = .sending entry generation stream)
    (error : Option SttGenerationError) (now : Int) (writes : ContextWrites) :
    Moves config s (s.sendSettles config entry generation stream error now writes) := by
  have inFlight : sendInFlight s.journalRun = some (shape entry, generation, stream) := by
    rw [sending]
    rfl
  have looping : Move config s { s with journalRun := .looping } := .run rfl
  unfold sendSettles
  dsimp only
  split
  · exact .head looping (.single (.fails generation stream _ now))
  · split
    · exact .single looping
    next current =>
      simp only [ResilientSttStream.current, Bool.and_eq_true, decide_eq_true_eq, Bool.not_eq_true',
        Bool.not_eq_false] at current
      obtain ⟨rfl, active⟩ := current
      have there : (s.journal.map shape)[s.cursor]? = some (shape entry) :=
        attended.inFlight _ s.generation stream inFlight rfl active
      -- the entry is marked while the send is still known to be in flight
      have marked : Move config s (s.changeEntry entry.id (·.accept now)) :=
        moves_changeEntry entry.id (shape_accept now)
      have there' : ((s.changeEntry entry.id (·.accept now)).journal.map shape)[s.cursor]? =
          some (shape entry) := by
        rw [shapes_changeEntry s entry.id (shape_accept now)]
        exact there
      have current : s.active ≠ none := by simp [active]
      refine .trans ?_ (moves_afterDispatch now writes)
      split
      · exact .head marked (.head (.note rfl)
          (.head (.skip (r := .looping) there' current rfl (.inr ⟨stream, inFlight⟩)) (.single (.note rfl))))
      · exact .head marked
          (.head (.skip (r := .looping) there' current rfl (.inr ⟨stream, inFlight⟩)) (.single (.note rfl)))

/-! ### The two ways to end, and every step -/

theorem moves_close (writes : ContextWrites) : Moves config s (s.close writes) := by
  unfold close
  split
  · split
    · exact .single (.still rfl rfl)
    · refine .head (b := { s with closing := true }) (.still rfl rfl) ?_
      dsimp only
      split
      · exact .head .shut (.single (.still rfl rfl))
      · exact .single (.still rfl rfl)
  · exact .refl

theorem moves_closeDrains : Moves config s s.closeDrains := by
  unfold closeDrains
  split
  · exact .head .shut (.single (.still rfl rfl))
  · exact .refl

theorem moves_closeTimesOut : Moves config s s.closeTimesOut := by
  unfold closeTimesOut
  split
  · exact .head (.failTerminal _) (.head .shut (.single (.still rfl rfl)))
  · exact .refl

theorem moves_step (attended : Attended s.recoveryView) (event : SttStreamEvent δ) :
    Moves config s (step config s event) := by
  cases event with
  | sendAudio chunk now admittedAtMs => exact moves_sendAudio chunk now admittedAtMs
  | commit now admittedAtMs => exact moves_commit now admittedAtMs
  | updateAgentContext coalesced now admittedAtMs => exact moves_updateAgentContext coalesced now admittedAtMs
  | contextSettles id => exact .single (moves_settleContext id)
  | contextCompletes writes => exact moves_notifyProgress writes
  | contextFails generation stream error now | providerEnds generation stream error now =>
    exact .single (.fails generation stream error now)
  | usageFails => exact .single (.failTerminal _)
  | providerEvent generation stream event now => exact .single (.consumes generation stream event now)
  | close writes => exact moves_close writes
  | closeDrains => exact moves_closeDrains
  | closeTimesOut => exact moves_closeTimesOut
  | abort =>
    dsimp only [step, abort]
    split
    · exact .refl
    · exact .single (.shut)
  | streamsClosed => exact .single (.streamsClosed)
  | next call | consumerReturn => exact .single (.still rfl rfl)
  | deadlineTimer =>
    dsimp only [step]
    split
    · exact .refl
    · exact .single (.clearExhausted rfl)
  | _ =>
    dsimp only [step]
    split
    next there =>
      first
      | exact moves_journalTurn (by rw [there]; rfl) _ _ _
      | exact moves_sendSettles attended there _ _ _
      | exact moves_recoveryPaused there rfl _
      | exact moves_giveUp there nofun _ _
      | exact .single (.opened there rfl _ _)
      | exact moves_openFails attended there rfl _
      | exact moves_stableTimer there _
      | exact moves_recoveryContinues attended there rfl
      | exact moves_recoveryFinally there rfl
    · exact .refl

theorem Attended.step (attended : Attended s.recoveryView) (event : SttStreamEvent δ) :
    Attended (step config s event).recoveryView :=
  (moves_step attended event).keeps (P := fun s => Attended s.recoveryView)
    (fun _ _ move attended => attended.move move) attended

end Moves

end Tvic.ResilientSttStream
