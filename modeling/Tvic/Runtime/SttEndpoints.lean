import Tvic.Lib.Log
import Tvic.Runtime.SttRecovery

/-!
# Endpoints across a recovery

An endpoint event that arrives while the stream is not healthy is held. It is released once its
generation is healthy, and dropped when the generation fails first.

`EndpointsHeld` is what the log of a run says of it. The only way for a held endpoint of a healthy
generation to be lost is that the queue of the events does not take it, and then the stream fails for
good in the midst of the release.
-/
namespace Tvic.ResilientSttStream

open Lib

variable {δ : Type}

/-! ### What the log says -/

/-- The arrivals of the endpoints of a generation that find the stream not healthy. -/
def heldArrivals (generation : Nat) (log : List (SttHappening δ)) : List Nat :=
  log.filterMap fun
    | .received arrival sender state event =>
      if sender = generation ∧ state ≠ .healthy ∧ isEndpoint event.body = true then some arrival
      else none
    | _ => none

def emittedSequences (log : List (SttHappening δ)) : List Nat :=
  log.filterMap fun
    | .emitted _ _ event => some event.sequence
    | _ => none

/-- The arrivals that are emitted, of those that the whole log knows to be held. -/
def releasedFrom (whole log : List (SttHappening δ)) : List Nat :=
  log.filterMap fun
    | .emitted arrival generation _ =>
      if arrival ∈ heldArrivals generation whole then some arrival else none
    | _ => none

/-- What follows when a generation becomes healthy: its held endpoints one by one, up to one that
the queue refuses. -/
def Released (generation : Nat) (arrivals : List Nat) (rest : List (SttHappening δ)) : Prop :=
  ∃ (released : List (Nat × SttEvent δ)) (after : List (SttHappening δ)),
    (rest = released.map (fun event => .emitted event.1 generation event.2) ++ after ∧
      released.map Prod.fst = arrivals) ∨
    ∃ arrival, rest = released.map (fun event => .emitted event.1 generation event.2) ++
        .refused arrival generation :: .terminal :: after ∧
      released.map Prod.fst ++ [arrival] <+: arrivals

structure EndpointsHeld (log : List (SttHappening δ)) : Prop where
  sequences : emittedSequences log = List.range' 1 (emittedSequences log).length
  untilFailure : ∀ before arrival generation event rest,
    log = before ++ .emitted arrival generation event :: rest → .failed generation ∉ before
  untilHealthy : ∀ before arrival generation event rest,
    log = before ++ .emitted arrival generation event :: rest →
    arrival ∈ heldArrivals generation log → .healthy generation ∈ before
  inOrder : (releasedFrom log log).Pairwise (· < ·)
  delivered : ∀ before generation rest, log = before ++ .healthy generation :: rest →
    Released generation (heldArrivals generation log) rest

/-! ### How the log grows -/

def plain : SttHappening δ → Bool
  | .received .. => false
  | .emitted .. => false
  | _ => true

def quiet : SttHappening δ → Bool
  | .failed .. => false
  | .healthy .. => false
  | happening => plain happening

variable {log extra whole : List (SttHappening δ)} {generation arrival : Nat}

theorem heldArrivals_append : heldArrivals generation (log ++ extra) =
    heldArrivals generation log ++ heldArrivals generation extra :=
  List.filterMap_append

theorem emittedSequences_append :
    emittedSequences (log ++ extra) = emittedSequences log ++ emittedSequences extra :=
  List.filterMap_append

theorem releasedFrom_append :
    releasedFrom whole (log ++ extra) = releasedFrom whole log ++ releasedFrom whole extra :=
  List.filterMap_append

theorem heldArrivals_plain (silent : ∀ happening ∈ extra, plain happening = true) :
    heldArrivals generation extra = [] := by
  rw [heldArrivals, List.filterMap_eq_nil_iff]
  intro happening member
  cases happening with
  | received | emitted => cases silent _ member
  | _ => rfl

theorem emittedSequences_plain (silent : ∀ happening ∈ extra, plain happening = true) :
    emittedSequences extra = [] := by
  rw [emittedSequences, List.filterMap_eq_nil_iff]
  intro happening member
  cases happening with
  | received | emitted => cases silent _ member
  | _ => rfl

theorem releasedFrom_plain (silent : ∀ happening ∈ extra, plain happening = true) :
    releasedFrom whole extra = [] := by
  rw [releasedFrom, List.filterMap_eq_nil_iff]
  intro happening member
  cases happening with
  | received | emitted => cases silent _ member
  | _ => rfl

variable {happening : SttHappening δ}

theorem mem_append_plain (silent : ∀ happening ∈ extra, plain happening = true)
    (loud : plain happening = false) :
    happening ∈ log ++ extra ↔ happening ∈ log := by
  rw [List.mem_append, or_iff_left]
  intro member
  cases (silent happening member).symm.trans loud

theorem mem_heldArrivals_iff : arrival ∈ heldArrivals generation log ↔ ∃ state event,
    .received arrival generation state event ∈ log ∧ state ≠ .healthy ∧
      isEndpoint event.body = true := by
  rw [heldArrivals, List.mem_filterMap]
  constructor
  · rintro ⟨happening, member, kept⟩
    cases happening with
    | received arrival' sender state event =>
      obtain ⟨⟨rfl, holds⟩, rfl⟩ := by simpa using kept
      exact ⟨state, event, member, holds⟩
    | _ => cases kept
  · rintro ⟨state, event, member, holds⟩
    exact ⟨_, member, by simp [holds]⟩

theorem releasedFrom_congr {whole' : List (SttHappening δ)}
    (same : ∀ arrival generation event, .emitted arrival generation event ∈ log →
      (arrival ∈ heldArrivals generation whole' ↔ arrival ∈ heldArrivals generation whole)) :
    releasedFrom whole' log = releasedFrom whole log := by
  apply List.filterMap_congr
  intro happening member
  cases happening with
  | emitted arrival generation event => simp [same arrival generation event member]
  | _ => rfl

/-! ### The part of a stream that is about endpoints -/

structure HoldView (δ : Type) where
  log : List (SttHappening δ)
  held : List (Nat × Nat × SttEvent δ)
  sequence : Nat
  arrivals : Nat
  generation : Nat
  active : Bool
  state : SttRecoveryState
  isClosed : Bool
  terminal : Bool

def HoldView.live (v : HoldView δ) : Bool := !v.isClosed && !v.terminal

def holdView (s : ResilientSttStream δ) : HoldView δ where
  log := s.happened
  held := s.heldEndpoints
  sequence := s.sequence
  arrivals := s.arrivals
  generation := s.generation
  active := s.active.isSome
  state := s.state
  isClosed := s.isClosed
  terminal := s.terminal

def mayHappen (before : List (SttHappening δ)) : SttHappening δ → Prop
  | .emitted arrival generation _ => .failed generation ∉ before ∧
      (arrival ∈ heldArrivals generation before → .healthy generation ∈ before)
  | .received arrival generation state _ =>
      (∀ sender event, .emitted arrival sender event ∉ before) ∧
        (.healthy generation ∈ before → state = .healthy)
  | _ => True

/-- What holds of the log, also while an event is being handled. -/
structure Logged (v : HoldView δ) : Prop where
  sequences : emittedSequences v.log = List.range' 1 (emittedSequences v.log).length
  next : v.live = true → v.sequence = (emittedSequences v.log).length + 1
  received : ∀ arrival generation state event,
    .received arrival generation state event ∈ v.log →
      arrival < v.arrivals ∧ generation ≤ v.generation
  emitted : ∀ arrival generation event, .emitted arrival generation event ∈ v.log →
    arrival < v.arrivals
  failed : ∀ generation, .failed generation ∈ v.log →
    generation < v.generation ∨ generation = v.generation ∧ v.active = false
  healthy : ∀ generation, .healthy generation ∈ v.log → generation < v.generation ∨
    generation = v.generation ∧ (v.live = true → v.active = true → v.state = .healthy)
  fresh : ∀ held ∈ v.held, held.1 < v.arrivals
  order : (releasedFrom v.log v.log ++ v.held.map Prod.fst).Pairwise (· < ·)
  follows : Follows mayHappen v.log

/-- Every generation that has become healthy has its endpoints released. -/
def Delivered (log : List (SttHappening δ)) : Prop :=
  ∀ before generation rest, log = before ++ .healthy generation :: rest →
    Released generation (heldArrivals generation before) rest

structure Holding (v : HoldView δ) : Prop extends Logged v where
  delivered : Delivered v.log
  stopped : v.terminal = true → v.active = false
  heldOf : v.live = true → ∀ held ∈ v.held, held.2.1 = v.generation
  heldNow : v.live = true → v.held.map Prod.fst =
    if v.active = true ∧ v.state ≠ .healthy then heldArrivals v.generation v.log else []

/-! ### What the moves keep -/

variable {v : HoldView δ}

variable {w : HoldView δ}

theorem Logged.mark (logged : Logged v) (silent : ∀ happening ∈ extra, plain happening = true)
    (log : w.log = v.log ++ extra) (held : w.held.Sublist v.held)
    (sequence : w.sequence = v.sequence) (arrivals : w.arrivals = v.arrivals)
    (generation : w.generation = v.generation) (alive : w.live = true → v.live = true)
    (failed : ∀ generation, .failed generation ∈ w.log →
      generation < w.generation ∨ generation = w.generation ∧ w.active = false)
    (healthy : ∀ generation, .healthy generation ∈ w.log → generation < w.generation ∨
      generation = w.generation ∧ (w.live = true → w.active = true → w.state = .healthy)) :
    Logged w := by
  have same : ∀ generation : Nat, heldArrivals generation w.log = heldArrivals generation v.log := by
    intro generation
    rw [log, heldArrivals_append, heldArrivals_plain silent, List.append_nil]
  have sequences : emittedSequences w.log = emittedSequences v.log := by
    rw [log, emittedSequences_append, emittedSequences_plain silent, List.append_nil]
  have kept : releasedFrom w.log w.log = releasedFrom v.log v.log := by
    conv_lhs => rw [log, releasedFrom_append, releasedFrom_plain silent, List.append_nil, ← log]
    exact releasedFrom_congr fun arrival generation event _ => by rw [same]
  constructor
  case failed => exact failed
  case healthy => exact healthy
  case sequences =>
    rw [sequences]
    exact logged.sequences
  case next =>
    intro live
    rw [sequences, sequence]
    exact logged.next (alive live)
  case received =>
    rw [log, arrivals, generation]
    intro arrival generation state event member
    exact logged.received arrival generation state event ((mem_append_plain silent rfl).mp member)
  case emitted =>
    rw [log, arrivals]
    intro arrival generation event member
    exact logged.emitted arrival generation event ((mem_append_plain silent rfl).mp member)
  case fresh =>
    rw [arrivals]
    exact fun event member => logged.fresh event (held.subset member)
  case order =>
    rw [kept]
    exact logged.order.sublist ((held.map Prod.fst).append_left _)
  case follows =>
    rw [log]
    refine logged.follows.append fun happening member before => ?_
    cases happening with
    | received | emitted => cases silent _ member
    | _ => trivial

theorem plain_of_quiet (silent : quiet happening = true) :
    plain happening = true := by
  cases happening with
  | failed | healthy => rfl
  | _ => exact silent

theorem Logged.quiet (logged : Logged v) (silent : ∀ happening ∈ extra, quiet happening = true) :
    Logged { v with log := v.log ++ extra } := by
  have old : ∀ {happening : SttHappening δ}, ResilientSttStream.quiet happening = false →
      happening ∈ v.log ++ extra → happening ∈ v.log := by
    intro happening loud member
    rcases List.mem_append.mp member with old | new
    · exact old
    · cases (silent happening new).symm.trans loud
  refine logged.mark (fun happening member => plain_of_quiet (silent happening member)) rfl
    (List.Sublist.refl _) rfl rfl rfl id ?_ ?_
  · exact fun generation member => logged.failed generation (old rfl member)
  · exact fun generation member => logged.healthy generation (old rfl member)

theorem Logged.fail (logged : Logged v) :
    Logged { v with
      log := v.log ++ [SttHappening.failed v.generation], held := [], active := false } := by
  have silent : ∀ happening ∈ ([.failed v.generation] : List (SttHappening δ)),
      plain happening = true := by
    simp [plain]
  refine logged.mark silent rfl (List.nil_sublist _) rfl rfl rfl id ?_ ?_
  · intro generation member
    obtain earlier | last := List.mem_append.mp member
    · exact (logged.failed generation earlier).imp_right fun past => ⟨past.1, rfl⟩
    · obtain rfl := by simpa using last
      exact .inr ⟨rfl, rfl⟩
  · intro generation member
    exact (logged.healthy generation (by simpa using member)).imp_right fun past =>
      ⟨past.1, fun _ => nofun⟩

theorem Logged.heal (logged : Logged v) :
    Logged { v with log := v.log ++ [SttHappening.healthy v.generation], state := .healthy } := by
  have silent : ∀ happening ∈ ([.healthy v.generation] : List (SttHappening δ)),
      plain happening = true := by
    simp [plain]
  refine logged.mark silent rfl (List.Sublist.refl _) rfl rfl rfl id ?_ ?_
  · intro generation member
    exact logged.failed generation (by simpa using member)
  · intro generation member
    obtain earlier | last := List.mem_append.mp member
    · exact (logged.healthy generation earlier).imp_right fun past => ⟨past.1, fun _ _ => rfl⟩
    · obtain rfl := by simpa using last
      exact .inr ⟨rfl, fun _ _ => rfl⟩

theorem Released.append {arrivals : List Nat} {rest : List (SttHappening δ)}
    (released : Released generation arrivals rest) (extra : List (SttHappening δ)) :
    Released generation arrivals (rest ++ extra) := by
  obtain ⟨events, after, whole | ⟨arrival, cut⟩⟩ := released
  · exact ⟨events, after ++ extra, .inl ⟨by simp [whole.1], whole.2⟩⟩
  · exact ⟨events, after ++ extra, .inr ⟨arrival, by simp [cut.1], cut.2⟩⟩

theorem delivered_nil : Delivered ([] : List (SttHappening δ)) := by
  intro before generation rest split
  simp at split

theorem Delivered.snoc (delivered : Delivered log)
    (free : ∀ generation, happening ≠ .healthy generation) : Delivered (log ++ [happening]) := by
  intro before generation rest split
  rcases List.eq_nil_or_concat rest with rfl | ⟨rest, last, rfl⟩
  · obtain ⟨-, same⟩ := List.append_inj' split rfl
    exact absurd (List.singleton_inj.mp same) (free generation)
  · rw [List.concat_eq_append, ← List.cons_append, ← List.append_assoc] at split
    obtain ⟨rfl, -⟩ := List.append_inj' split rfl
    rw [List.concat_eq_append]
    exact (delivered before generation rest rfl).append [last]

theorem Delivered.append (delivered : Delivered log)
    (free : ∀ generation, .healthy generation ∉ extra) : Delivered (log ++ extra) := by
  induction extra generalizing log with
  | nil => rwa [List.append_nil]
  | cons happening extra ih =>
    rw [List.append_cons]
    refine ih (delivered.snoc ?_) ?_
    · rintro generation rfl
      exact free generation List.mem_cons_self
    · exact fun generation member => free generation (List.mem_cons_of_mem _ member)

theorem Delivered.heal (delivered : Delivered log)
    (released : Released generation (heldArrivals generation log) extra)
    (free : ∀ generation, .healthy generation ∉ extra) :
    Delivered (log ++ SttHappening.healthy generation :: extra) := by
  intro before other rest split
  rcases List.append_eq_append_iff.mp split with ⟨middle, rfl, here⟩ | ⟨middle, rfl, here⟩ <;>
    cases middle with
    | nil =>
      obtain ⟨same, rfl⟩ := List.cons.inj here
      obtain rfl := SttHappening.healthy.inj same
      simpa using released
    | cons first middle =>
      obtain ⟨rfl, rfl⟩ := List.cons.inj here
      first
      | exact absurd (by simp) (free other)
      | exact (delivered before other middle rfl).append _

theorem heldArrivals_snoc (happening : SttHappening δ) :
    heldArrivals generation (log ++ [happening]) =
      heldArrivals generation log ++ heldArrivals generation [happening] :=
  heldArrivals_append

theorem Logged.receive (logged : Logged v) (alive : v.live = true) (active : v.active = true)
    (event : SttEvent δ) :
    Logged { v with
      log := v.log ++ [SttHappening.received v.arrivals v.generation v.state event]
      arrivals := v.arrivals + 1 } := by
  have older : ∀ {arrival generation : Nat} {event' : SttEvent δ},
      .emitted arrival generation event' ∈ v.log → arrival ≠ v.arrivals :=
    fun member => Nat.ne_of_lt (logged.emitted _ _ _ member)
  have kept : ∀ received : SttHappening δ, received = .received v.arrivals v.generation v.state event →
      releasedFrom (v.log ++ [received]) (v.log ++ [received]) = releasedFrom v.log v.log := by
    rintro received rfl
    have none : releasedFrom (v.log ++ [SttHappening.received v.arrivals v.generation v.state event])
        [.received v.arrivals v.generation v.state event] = [] := rfl
    rw [releasedFrom_append, none, List.append_nil]
    refine releasedFrom_congr fun arrival generation event' member => ?_
    rw [heldArrivals_snoc, List.mem_append, or_iff_left]
    rw [mem_heldArrivals_iff]
    rintro ⟨state, other, same, -⟩
    obtain ⟨rfl, -⟩ := by simpa using same
    exact older member rfl
  have sequences :
      emittedSequences (v.log ++ [SttHappening.received v.arrivals v.generation v.state event]) =
      emittedSequences v.log := by
    rw [emittedSequences_append]
    exact List.append_nil _
  refine { logged with
    sequences := ?_, next := ?_, received := ?_, emitted := ?_, failed := ?_, healthy := ?_
    fresh := ?_, order := ?_, follows := ?_ }
  · rw [sequences]
    exact logged.sequences
  · rw [sequences]
    exact logged.next
  · intro arrival generation state event' member
    obtain earlier | last := List.mem_append.mp member
    · have bounds := logged.received _ _ _ _ earlier
      exact ⟨Nat.lt_succ_of_lt bounds.1, bounds.2⟩
    · obtain ⟨rfl, rfl, -, -⟩ := by simpa using last
      exact ⟨Nat.lt_succ_self _, Nat.le_refl _⟩
  · intro arrival generation event' member
    exact Nat.lt_succ_of_lt (logged.emitted _ _ _ (by simpa using member))
  · intro generation member
    exact logged.failed generation (by simpa using member)
  · intro generation member
    exact logged.healthy generation (by simpa using member)
  · intro held member
    exact Nat.lt_succ_of_lt (logged.fresh held member)
  · rw [kept _ rfl]
    exact logged.order
  · refine follows_snoc_iff.mpr ⟨logged.follows, ?_, ?_⟩
    · exact fun sender event' member => older member rfl
    · intro healthy
      obtain past | ⟨-, now⟩ := logged.healthy _ healthy
      · exact absurd past (Nat.lt_irrefl _)
      · exact now alive active

variable {event : SttEvent δ}

theorem Logged.emit (logged : Logged v) (alive : v.live = true) (active : v.active = true)
    (below : arrival < v.arrivals)
    (may : arrival ∈ heldArrivals v.generation v.log → .healthy v.generation ∈ v.log)
    (numbered : event.sequence = v.sequence) {held : List (Nat × Nat × SttEvent δ)}
    (fresh : ∀ held' ∈ held, held'.1 < v.arrivals) (order : (releasedFrom v.log v.log ++
      ((if arrival ∈ heldArrivals v.generation v.log then [arrival] else []) ++
        held.map Prod.fst)).Pairwise (· < ·)) :
    Logged { v with
      log := v.log ++ [SttHappening.emitted arrival v.generation event]
      sequence := v.sequence + 1
      held } := by
  have next := logged.next alive
  have sequences : emittedSequences (v.log ++ [SttHappening.emitted arrival v.generation event]) =
      emittedSequences v.log ++ [v.sequence] := by
    rw [emittedSequences_append, ← numbered]
    rfl
  have same : ∀ generation : Nat, heldArrivals generation
      (v.log ++ [SttHappening.emitted arrival v.generation event]) = heldArrivals generation v.log := by
    intro generation
    rw [heldArrivals_snoc]
    exact List.append_nil _
  refine { logged with
    sequences := ?_, next := ?_, received := ?_, emitted := ?_, failed := ?_, healthy := ?_
    fresh := fresh, order := ?_, follows := ?_ }
  · rw [sequences, List.length_append, List.length_singleton, List.range'_concat,
      ← logged.sequences, next]
    simp [Nat.add_comm]
  · intro _
    rw [sequences, next, List.length_append, List.length_singleton]
  · intro arrival generation state event' member
    exact logged.received _ _ _ _ (by simpa using member)
  · intro arrival' generation event' member
    obtain earlier | last := List.mem_append.mp member
    · exact logged.emitted _ _ _ earlier
    · obtain ⟨rfl, -, -⟩ := by simpa using last
      exact below
  · intro generation member
    exact logged.failed generation (by simpa using member)
  · intro generation member
    exact logged.healthy generation (by simpa using member)
  · have last : releasedFrom (v.log ++ [SttHappening.emitted arrival v.generation event])
        [.emitted arrival v.generation event] =
        if arrival ∈ heldArrivals v.generation v.log then [arrival] else [] := by
      by_cases held : arrival ∈ heldArrivals v.generation v.log <;>
        simp [releasedFrom, same, held]
    have kept : releasedFrom (v.log ++ [SttHappening.emitted arrival v.generation event]) v.log =
        releasedFrom v.log v.log :=
      releasedFrom_congr fun arrival generation event _ => by rw [same]
    rw [releasedFrom_append, kept, last, List.append_assoc]
    exact order
  · refine follows_snoc_iff.mpr ⟨logged.follows, fun failed => ?_, may⟩
    obtain past | ⟨-, inactive⟩ := logged.failed _ failed
    · exact absurd past (Nat.lt_irrefl _)
    · cases active.symm.trans inactive

theorem Logged.holding (logged : Logged v) (delivered : Delivered v.log)
    (stopped : v.terminal = true → v.active = false) (dead : v.live = false) : Holding v :=
  { logged with
    delivered
    stopped
    heldOf := fun alive => by cases dead.symm.trans alive
    heldNow := fun alive => by cases dead.symm.trans alive }

theorem not_healthy_of_quiet (silent : ∀ happening ∈ extra, quiet happening = true)
    (generation : Nat) : .healthy generation ∉ extra := by
  intro member
  cases silent _ member

theorem Holding.quiet (holding : Holding v)
    (silent : ∀ happening ∈ extra, quiet happening = true) :
    Holding { v with log := v.log ++ extra } where
  toLogged := holding.toLogged.quiet silent
  delivered := holding.delivered.append (not_healthy_of_quiet silent)
  stopped := holding.stopped
  heldOf := holding.heldOf
  heldNow := by
    intro alive
    have plain := fun happening member => plain_of_quiet (silent happening member)
    have same : heldArrivals v.generation (v.log ++ extra) = heldArrivals v.generation v.log := by
      rw [heldArrivals_append, heldArrivals_plain plain, List.append_nil]
    show v.held.map Prod.fst =
      if v.active = true ∧ v.state ≠ .healthy then heldArrivals v.generation (v.log ++ extra) else []
    rw [same]
    exact holding.heldNow alive

/-! ### What leaves the endpoints alone -/

variable (config : SttStreamConfig) (s : ResilientSttStream δ)

def Grows (v w : HoldView δ) : Prop :=
  ∃ extra, (∀ happening ∈ extra, quiet happening = true) ∧ w = { v with log := v.log ++ extra }

theorem Holding.grows (holding : Holding v) (grows : Grows v w) : Holding w := by
  obtain ⟨extra, silent, rfl⟩ := grows
  exact holding.quiet silent

theorem holdView_clearGenerationWait (outcome : GenerationOutcome) :
    (s.clearGenerationWait outcome).holdView = s.holdView := by
  unfold clearGenerationWait
  split <;> rfl

theorem holdView_notifyProgress (writes : ContextWrites) :
    (s.notifyProgress writes).holdView = s.holdView := by
  have drain : ∀ s : ResilientSttStream δ, (s.resolveDrain writes).holdView = s.holdView := by
    intro s
    unfold resolveDrain
    split
    · split <;> rfl
    · rfl
  rw [notifyProgress, drain, resolveStable]
  split
  · split
    · exact holdView_clearGenerationWait s .stable
    · rfl
  · rfl

theorem quiet_rejected (commits : List Nat) :
    ∀ happening ∈ (commits.map .rejected : List (SttHappening δ)), quiet happening = true := by
  intro happening member
  obtain ⟨commit, -, rfl⟩ := List.mem_map.mp member
  rfl

theorem holdView_rejectPending : s.rejectPending.holdView =
    { s.holdView with
      log := s.happened ++ ((s.journal.filter SttJournalEntry.isUnsettledCommit).map
        SttJournalEntry.id).map .rejected } := by
  rw [List.map_map]
  rfl

theorem grows_rejectPending : Grows s.holdView s.rejectPending.holdView :=
  ⟨_, quiet_rejected _, holdView_rejectPending s⟩

theorem grows_push (entry : SttJournalEntry δ) : Grows s.holdView (s.push entry).holdView :=
  ⟨[.admitted entry], by simp [quiet, plain], rfl⟩

theorem holdView_startRecovery (source : SttGenerationError) :
    (s.startRecovery source).holdView = s.holdView := by
  unfold startRecovery
  split
  · rfl
  · split <;> rfl

/-- The stream fails for good; its next number does not matter any more. -/
def Ends (v w : HoldView δ) : Prop :=
  ∃ (commits : List Nat) (sequence : Nat),
    w = { v with
      log := v.log ++ SttHappening.terminal :: commits.map .rejected
      sequence
      active := false
      state := .failed
      terminal := true }

theorem ends_failTerminal (alive : s.live = true) (error : SttGenerationError) :
    Ends s.holdView (s.failTerminal error).holdView := by
  have going : (s.terminal || s.isClosed) = false := by
    rw [live, Bool.and_eq_true] at alive
    simp_all
  unfold failTerminal
  rw [if_neg (by simp [going])]
  dsimp only
  generalize start : { s with terminal := true, state := .failed }.happen .terminal = s₁
  have view₁ : s₁.holdView =
      { s.holdView with
        log := s.happened ++ [SttHappening.terminal], terminal := true, state := .failed } := by
    subst start
    rfl
  have view₂ := holdView_rejectPending (s₁.clearGenerationWait (.failed error))
  refine ⟨((s₁.clearGenerationWait (.failed error)).journal.filter
    SttJournalEntry.isUnsettledCommit).map SttJournalEntry.id, s.sequence, ?_⟩
  show { (notifyProgress _ _).holdView with active := false } = _
  rw [holdView_notifyProgress]
  show { (rejectPending _).holdView with active := false } = _
  have log : (s₁.clearGenerationWait (.failed error)).happened = s.happened ++ [SttHappening.terminal] := by
    have := congrArg HoldView.log (holdView_clearGenerationWait s₁ (.failed error))
    exact this.trans (congrArg HoldView.log view₁)
  rw [view₂, log, holdView_clearGenerationWait, view₁, ← List.append_cons s.happened]
  rfl

theorem Logged.ends (logged : Logged v) (ends : Ends v w) : Logged w := by
  obtain ⟨commits, sequence, rfl⟩ := ends
  have silent : ∀ happening ∈ (.terminal :: commits.map .rejected : List (SttHappening δ)),
      ResilientSttStream.quiet happening = true := by
    intro happening member
    rcases List.mem_cons.mp member with rfl | member
    · rfl
    · exact quiet_rejected commits happening member
  have kept := logged.quiet silent
  exact { kept with
    next := fun alive => by simp [HoldView.live] at alive
    failed := fun generation member => (kept.failed generation member).imp_right fun past =>
      ⟨past.1, rfl⟩
    healthy := fun generation member => (kept.healthy generation member).imp_right fun past =>
      ⟨past.1, fun _ => nofun⟩ }

theorem Delivered.ends (delivered : Delivered v.log) (ends : Ends v w) :
    Delivered w.log := by
  obtain ⟨commits, sequence, rfl⟩ := ends
  exact delivered.append (by simp)

theorem Logged.holding_of_ends (logged : Logged v) (delivered : Delivered v.log) (ends : Ends v w) :
    Holding w := by
  refine (logged.ends ends).holding (delivered.ends ends) ?_ ?_ <;>
    obtain ⟨commits, sequence, rfl⟩ := ends
  · exact fun _ => rfl
  · simp [HoldView.live]

variable {config} {s}

theorem Logged.failTerminal (logged : Logged s.holdView) (delivered : Delivered s.happened)
    (alive : s.live = true) (error : SttGenerationError) :
    Holding (s.failTerminal error).holdView :=
  logged.holding_of_ends delivered (ends_failTerminal s alive error)

theorem Holding.failTerminal (holding : Holding s.holdView) (error : SttGenerationError) :
    Holding (s.failTerminal error).holdView := by
  cases alive : s.live with
  | false =>
    rw [failTerminal_eq_self alive]
    exact holding
  | true => exact holding.toLogged.failTerminal holding.delivered alive error

/-! ### Emission and release -/

def published (event : SttEvent δ) (sequence generation : Nat) : SttEvent δ :=
  { event with sequence, reconnectGeneration := some generation }

theorem emit_eq_self (dead : s.live = false) (event : SttEvent δ) (arrival generation : Nat) :
    s.emit event arrival generation = s := by
  unfold emit
  rw [if_pos]
  cases closed : s.isClosed <;> cases terminal : s.terminal <;> simp_all [live]

theorem foldl_emit_dead (held : List (Nat × Nat × SttEvent δ)) (dead : s.live = false) :
    held.foldl (fun s held => s.emit held.2.2 held.1 held.2.1) s = s := by
  induction held with
  | nil => rfl
  | cons first held ih => rw [List.foldl_cons, emit_eq_self dead, ih]

theorem holdView_emit (alive : s.live = true) (event : SttEvent δ) (arrival generation : Nat) :
    (s.emit event arrival generation).holdView =
        { s.holdView with
          log := s.happened ++
            [SttHappening.emitted arrival generation (published event s.sequence generation)]
          sequence := s.sequence + 1 } ∨
      Ends { s.holdView with
          log := s.happened ++ [SttHappening.refused arrival generation], sequence := s.sequence + 1 }
        (s.emit event arrival generation).holdView := by
  have going : ¬ (s.isClosed || s.terminal) = true := by
    rw [live, Bool.and_eq_true] at alive
    simp_all
  unfold emit
  rw [if_neg going]
  dsimp only
  split
  · exact .inl rfl
  next events _ _ =>
    refine .inr ?_
    exact ends_failTerminal
      (({ s with sequence := s.sequence + 1, events } : ResilientSttStream δ).happen
        (.refused arrival generation)) alive bufferOverflow

def emissions : List (Nat × Nat × SttEvent δ) → Nat → List (SttHappening δ)
  | [], _ => []
  | held :: rest, sequence =>
      .emitted held.1 held.2.1 (published held.2.2 sequence held.2.1) ::
        emissions rest (sequence + 1)

theorem holdView_foldl_emit (held : List (Nat × Nat × SttEvent δ)) (alive : s.live = true) :
    (held.foldl (fun s held => s.emit held.2.2 held.1 held.2.1) s).holdView =
        { s.holdView with
          log := s.happened ++ emissions held s.sequence
          sequence := s.sequence + held.length } ∨
      ∃ sent refused rest, held = sent ++ refused :: rest ∧
        Ends { s.holdView with
            log := s.happened ++ emissions sent s.sequence ++ [SttHappening.refused refused.1 refused.2.1]
            sequence := s.sequence + sent.length + 1 }
          (held.foldl (fun s held => s.emit held.2.2 held.1 held.2.1) s).holdView := by
  induction held generalizing s with
  | nil =>
    refine .inl ?_
    show s.holdView = { s.holdView with log := s.happened ++ [] }
    rw [List.append_nil]
    rfl
  | cons first held ih =>
    rw [List.foldl_cons]
    obtain out | refused := holdView_emit alive first.2.2 first.1 first.2.1
    · generalize s.emit first.2.2 first.1 first.2.1 = s' at out ⊢
      have alive' : s'.live = true := by
        have closed : s'.isClosed = s.isClosed := congrArg HoldView.isClosed out
        have terminal : s'.terminal = s.terminal := congrArg HoldView.terminal out
        rw [live, closed, terminal]
        exact alive
      have log : s'.happened = s.happened ++
          [.emitted first.1 first.2.1 (published first.2.2 s.sequence first.2.1)] :=
        congrArg HoldView.log out
      have sequence : s'.sequence = s.sequence + 1 := congrArg HoldView.sequence out
      obtain through | ⟨sent, refused, rest, rfl, ends⟩ := ih alive'
      · refine .inl ?_
        rw [through, out, log, sequence, List.append_assoc, List.length_cons, Nat.add_right_comm]
        rfl
      · refine .inr ⟨first :: sent, refused, rest, rfl, ?_⟩
        rw [log, sequence, out, List.append_assoc s.happened, Nat.add_right_comm s.sequence] at ends
        exact ends
    · refine .inr ⟨[], first, held, rfl, ?_⟩
      have dead : (s.emit first.2.2 first.1 first.2.1).live = false := by
        obtain ⟨commits, sequence, view⟩ := refused
        have terminal : (s.emit first.2.2 first.1 first.2.1).terminal = true :=
          congrArg HoldView.terminal view
        rw [live, terminal, Bool.not_true, Bool.and_false]
      rw [foldl_emit_dead held dead]
      simpa [emissions] using refused

theorem emissions_eq_map {held : List (Nat × Nat × SttEvent δ)}
    (same : ∀ event ∈ held, event.2.1 = generation) (sequence : Nat) :
    ∃ released : List (Nat × SttEvent δ),
      emissions held sequence = released.map (fun event => .emitted event.1 generation event.2) ∧
        released.map Prod.fst = held.map Prod.fst := by
  induction held generalizing sequence with
  | nil => exact ⟨[], rfl, rfl⟩
  | cons first held ih =>
    obtain ⟨released, out, arrivals⟩ :=
      ih (fun event member => same event (List.mem_cons_of_mem _ member)) (sequence + 1)
    have here : first.2.1 = generation := same first List.mem_cons_self
    refine ⟨(first.1, published first.2.2 sequence generation) :: released, ?_, ?_⟩
    · rw [emissions, out, here]
      rfl
    · rw [List.map_cons, List.map_cons, arrivals]

theorem Logged.emissions {held rest : List (Nat × Nat × SttEvent δ)}
    (logged : Logged { v with held := held ++ rest }) (alive : v.live = true)
    (active : v.active = true) (same : ∀ event ∈ held, event.2.1 = v.generation)
    (healthy : .healthy v.generation ∈ v.log) :
    Logged { v with
      log := v.log ++ ResilientSttStream.emissions held v.sequence
      sequence := v.sequence + held.length
      held := rest } := by
  induction held generalizing v with
  | nil =>
    show Logged { v with log := v.log ++ [], held := rest }
    rwa [List.append_nil]
  | cons first held ih =>
    have here : first.2.1 = v.generation := same first List.mem_cons_self
    have older : first.1 < v.arrivals := logged.fresh first List.mem_cons_self
    have out : Logged { v with
        log := v.log ++
          [SttHappening.emitted first.1 v.generation (published first.2.2 v.sequence v.generation)]
        sequence := v.sequence + 1
        held := held ++ rest } := by
      refine logged.emit alive active older (fun _ => healthy) rfl ?_ ?_
      · exact fun event member => logged.fresh event (List.mem_cons_of_mem _ member)
      · refine logged.order.sublist (List.Sublist.append_left ?_ _)
        show List.Sublist _ (first.1 :: (held ++ rest).map Prod.fst)
        split
        · exact List.Sublist.refl _
        · exact List.sublist_cons_self _ _
    have more := ih (v := { v with
        log := v.log ++
          [SttHappening.emitted first.1 v.generation (published first.2.2 v.sequence v.generation)]
        sequence := v.sequence + 1 })
      out alive active (fun event member => same event (List.mem_cons_of_mem _ member))
      (List.mem_append_left _ healthy)
    rw [ResilientSttStream.emissions, here, List.append_cons, List.length_cons,
      Nat.add_comm held.length, ← Nat.add_assoc]
    exact more

/-! ### What keeps the endpoints -/

theorem Logged.drop (logged : Logged v) : Logged { v with held := [] } :=
  { logged with
    fresh := by nofun
    order := by
      have released := (List.pairwise_append.mp logged.order).1
      rwa [List.map_nil, List.append_nil] }

theorem Holding.release (holding : Holding s.holdView) :
    Holding s.releaseHeldEndpoints.holdView := by
  unfold releaseHeldEndpoints
  split
  · exact holding
  next healthy =>
    cases alive : s.live with
    | false =>
      have dead : ({ s with heldEndpoints := [] } : ResilientSttStream δ).live = false := alive
      rw [foldl_emit_dead _ dead]
      exact holding.toLogged.drop.holding holding.delivered holding.stopped alive
    | true =>
      have state : s.state = .healthy := by
        simp at healthy
        exact healthy.1
      have none : s.heldEndpoints.map Prod.fst = [] := by
        rw [show s.heldEndpoints.map Prod.fst = _ from holding.heldNow alive, if_neg]
        exact fun unhealthy => unhealthy.2 state
      rw [List.map_eq_nil_iff] at none
      rw [none, List.foldl_nil]
      show Holding { s.holdView with held := [] }
      rw [← none]
      exact holding

theorem Logged.handleGenerationFailure (logged : Logged s.holdView)
    (delivered : Delivered s.happened) {generation stream : Nat} (alive : s.live = true)
    (current : s.current generation stream = true)
    (error : SttGenerationError) (now : Int) :
    Holding (s.handleGenerationFailure config generation stream error now).holdView := by
  have going : ¬ (s.isClosed || s.terminal || !s.current generation stream) = true := by
    rw [live, Bool.and_eq_true] at alive
    simp_all
  obtain ⟨rfl, active⟩ : generation = s.generation ∧ s.active = some stream := by
    simpa [ResilientSttStream.current] using current
  have failed := logged.fail
  have delivered' : Delivered (s.happened ++ [SttHappening.failed s.generation]) :=
    delivered.append (by simp)
  unfold ResilientSttStream.handleGenerationFailure
  rw [if_neg going]
  dsimp only
  split
  · refine Logged.failTerminal ?_ ?_ ?_ error
    · exact failed
    · exact delivered'
    · exact alive
  · rw [holdView_startRecovery, holdView_clearGenerationWait]
    exact
      { failed with
        healthy := fun generation member => (failed.healthy generation member).imp_right fun past =>
          ⟨past.1, fun _ h => by cases h⟩
        delivered := delivered'
        stopped := fun _ => rfl
        heldOf := fun _ _ h => by cases h
        heldNow := fun _ => rfl }

theorem Holding.handleGenerationFailure (holding : Holding s.holdView) (generation stream : Nat)
    (error : SttGenerationError) (now : Int) :
    Holding (s.handleGenerationFailure config generation stream error now).holdView := by
  by_cases going : (s.isClosed || s.terminal || !s.current generation stream) = true
  · unfold ResilientSttStream.handleGenerationFailure
    rw [if_pos going]
    exact holding
  · have alive : s.live = true := live_eq_true (by simp_all)
    have current : s.current generation stream = true := by simp_all
    exact holding.toLogged.handleGenerationFailure holding.delivered alive current error now

theorem isEndpoint_normalizeAudioOffsets [Zero δ] [Add δ] [DecidableEq δ] (event : SttEvent δ)
    (origin : SttTimestampOrigin) (offsetMs : δ) :
    isEndpoint (normalizeAudioOffsets event origin offsetMs).body = isEndpoint event.body := by
  unfold normalizeAudioOffsets
  split
  · rfl
  · cases event.body <;> rfl

/-! ### An event comes in -/

theorem heldArrivals_lt (logged : Logged v) (member : arrival ∈ heldArrivals generation v.log) :
    arrival < v.arrivals := by
  obtain ⟨state, event, received, -⟩ := mem_heldArrivals_iff.mp member
  exact (logged.received _ _ _ _ received).1

theorem releasedFrom_lt (logged : Logged v) (member : arrival ∈ releasedFrom whole v.log) :
    arrival < v.arrivals := by
  obtain ⟨happening, there, same⟩ := List.mem_filterMap.mp member
  cases happening with
  | emitted arrival' generation event =>
    obtain ⟨-, rfl⟩ := by simpa using same
    exact logged.emitted _ _ _ there
  | _ => cases same

theorem heldArrivals_received (arrival generation : Nat) (state : SttRecoveryState)
    (event : SttEvent δ) :
    heldArrivals generation [.received arrival generation state event] =
      if state ≠ .healthy ∧ isEndpoint event.body = true then [arrival] else [] := by
  by_cases held : state ≠ .healthy ∧ isEndpoint event.body = true <;> simp [heldArrivals, held]

theorem Holding.hold (holding : Holding v) (alive : v.live = true) (active : v.active = true)
    (unhealthy : v.state ≠ .healthy) (endpoint : isEndpoint event.body = true)
    (normalized : SttEvent δ) :
    Holding { v with
      log := v.log ++ [SttHappening.received v.arrivals v.generation v.state event]
      arrivals := v.arrivals + 1
      held := v.held ++ [(v.arrivals, v.generation, normalized)] } := by
  have received := holding.toLogged.receive alive active event
  refine { received with
    fresh := ?_, order := ?_, delivered := ?_, stopped := holding.stopped
    heldOf := ?_, heldNow := ?_ }
  · intro other member
    obtain old | new := List.mem_append.mp member
    · exact received.fresh other old
    · obtain rfl := List.mem_singleton.mp new
      exact Nat.lt_succ_self _
  · rw [List.map_append, ← List.append_assoc, List.pairwise_append]
    refine ⟨received.order, List.pairwise_singleton _ _, ?_⟩
    intro arrival member last newest
    obtain rfl := List.mem_singleton.mp newest
    obtain released | old := List.mem_append.mp member
    · rw [releasedFrom_append, List.mem_append] at released
      obtain old | new := released
      · exact releasedFrom_lt holding.toLogged old
      · cases new
    · obtain ⟨other, there, rfl⟩ := List.mem_map.mp old
      exact holding.fresh other there
  · exact holding.delivered.append (by simp)
  · intro _ other member
    obtain old | new := List.mem_append.mp member
    · exact holding.heldOf alive other old
    · obtain rfl := List.mem_singleton.mp new
      rfl
  · intro _
    have now := holding.heldNow alive
    rw [if_pos ⟨active, unhealthy⟩] at now
    dsimp only
    rw [if_pos ⟨active, unhealthy⟩, List.map_append, now, heldArrivals_append,
      heldArrivals_received, if_pos ⟨unhealthy, endpoint⟩]
    rfl

theorem Holding.pass (holding : Holding v) (alive : v.live = true) (active : v.active = true)
    (unheld : ¬ (v.state ≠ .healthy ∧ isEndpoint event.body = true)) :
    Holding { v with
      log := v.log ++ [SttHappening.received v.arrivals v.generation v.state event]
      arrivals := v.arrivals + 1 } := by
  refine { holding.toLogged.receive alive active event with
    delivered := ?_, stopped := holding.stopped, heldOf := holding.heldOf, heldNow := ?_ }
  · exact holding.delivered.append (by simp)
  · dsimp only
    rw [heldArrivals_append, heldArrivals_received, if_neg unheld, List.append_nil]
    exact holding.heldNow

theorem Holding.send (holding : Holding v) (alive : v.live = true) (active : v.active = true)
    (below : arrival < v.arrivals) (unheld : arrival ∉ heldArrivals v.generation v.log)
    (numbered : event.sequence = v.sequence) :
    Holding { v with
      log := v.log ++ [SttHappening.emitted arrival v.generation event], sequence := v.sequence + 1 } := by
  have out : Logged { v with
      log := v.log ++ [SttHappening.emitted arrival v.generation event], sequence := v.sequence + 1 } := by
    refine holding.toLogged.emit alive active below (fun held => absurd held unheld) numbered
      holding.fresh ?_
    rw [if_neg unheld]
    exact holding.order
  refine { out with
    delivered := holding.delivered.append (by simp), stopped := holding.stopped
    heldOf := holding.heldOf, heldNow := ?_ }
  dsimp only
  rw [heldArrivals_append, show heldArrivals v.generation [.emitted arrival v.generation event] = []
    from rfl, List.append_nil]
  exact holding.heldNow

section

variable (holding : Holding s.holdView)
include holding

theorem Holding.forwardGenerationEvent [Zero δ] [Add δ] [DecidableEq δ]
    (attended : Attended s.recoveryView) (alive : s.live = true) (active : s.active.isSome = true)
    (event : SttEvent δ) {s' : ResilientSttStream δ}
    (received : s' = ({ s with arrivals := s.arrivals + 1 } : ResilientSttStream δ).happen
      (.received s.arrivals s.generation s.state event)) :
    Holding (s'.forwardGenerationEvent config event s.arrivals s.generation).holdView := by
  have boundary : s.state = .healthy → s.replayBoundary = 0 := attended.healthy alive
  have same : s'.state = s.state ∧ s'.cursor = s.cursor ∧ s'.replayBoundary = s.replayBoundary ∧
      s'.live = s.live := by
    subst received
    exact ⟨rfl, rfl, rfl, rfl⟩
  obtain ⟨state, cursor, replayBoundary, live'⟩ := same
  have kind := isEndpoint_normalizeAudioOffsets event config.timestampOrigin s'.generationOffsetMs
  unfold ResilientSttStream.forwardGenerationEvent
  dsimp only
  generalize normalizeAudioOffsets event config.timestampOrigin s'.generationOffsetMs = normalized
    at kind ⊢
  rw [state, cursor, replayBoundary, kind]
  split
  next held =>
    simp only [Bool.and_eq_true, Bool.or_eq_true, decide_eq_true_eq] at held
    have unhealthy : s.state ≠ .healthy := by
      refine held.2.elim id fun before healthy => ?_
      rw [boundary healthy] at before
      exact Nat.not_lt_zero _ before
    split
    · refine Logged.failTerminal ?_ ?_ (live'.trans alive) _
      · subst received
        exact holding.toLogged.receive alive active event
      · subst received
        exact holding.delivered.append (by simp)
    · subst received
      exact holding.hold alive active unhealthy held.1 normalized
  next forwarded =>
    have unheld : ¬ (s.state ≠ .healthy ∧ isEndpoint event.body = true) := by
      rintro ⟨unhealthy, endpoint⟩
      simp [endpoint, unhealthy] at forwarded
    have passed := holding.pass alive active unheld
    have fresh : s.arrivals ∉ heldArrivals s.generation
        (s.happened ++ [SttHappening.received s.arrivals s.generation s.state event]) := by
      rw [heldArrivals_append, heldArrivals_received, if_neg unheld, List.append_nil]
      exact fun member => Nat.lt_irrefl _ (heldArrivals_lt holding.toLogged member)
    obtain out | refused := holdView_emit (live'.trans alive) normalized s.arrivals s.generation
    · rw [out]
      subst received
      exact passed.send alive active (Nat.lt_succ_self _) fresh rfl
    · subst received
      have silent : ∀ happening ∈ ([.refused s.arrivals s.generation] : List (SttHappening δ)),
          ResilientSttStream.quiet happening = true := by
        simp [ResilientSttStream.quiet, plain]
      obtain ⟨commits, sequence, view⟩ := refused
      have kept := passed.quiet silent
      exact kept.toLogged.holding_of_ends kept.delivered ⟨commits, sequence, view⟩

theorem Holding.consumeEvent [Zero δ] [Add δ] [DecidableEq δ] (attended : Attended s.recoveryView)
    (generation stream : Nat) (event : SttEvent δ) (now : Int) :
    Holding (s.consumeEvent config generation stream event now).holdView := by
  unfold ResilientSttStream.consumeEvent
  dsimp only
  split
  · -- an event of an older generation is left where it is
    exact
      { holding with
        received := fun arrival generation state event member =>
          (holding.received arrival generation state event member).imp_left Nat.lt_succ_of_lt
        emitted := fun arrival generation event member =>
          Nat.lt_succ_of_lt (holding.emitted arrival generation event member)
        fresh := fun held member => Nat.lt_succ_of_lt (holding.fresh held member) }
  next going =>
    obtain ⟨open_, current⟩ : s.isClosed = false ∧ s.current generation stream = true := by
      simpa [ResilientSttStream.current] using going
    obtain ⟨rfl, active⟩ : generation = s.generation ∧ s.active = some stream := by
      simpa [ResilientSttStream.current] using current
    have isActive : s.active.isSome = true := by rw [active]; rfl
    have alive : s.live = true := by
      cases terminal : s.terminal with
      | false => simp [live, open_, terminal]
      | true => cases isActive.symm.trans (holding.stopped terminal)
    split
    · refine Logged.handleGenerationFailure ?_ ?_ ?_ ?_ _ _
      · exact holding.toLogged.receive alive isActive event
      · exact holding.delivered.append (by simp)
      · exact alive
      · exact current
    · exact holding.forwardGenerationEvent attended alive isActive event rfl

/-! ### Failure, recovery and end -/

end

theorem Holding.idle {state : SttRecoveryState} (holding : Holding v) (idle : v.active = false) :
    Holding { v with state } :=
  { holding with
    healthy := fun generation member => (holding.healthy generation member).imp_right fun past =>
      ⟨past.1, fun _ active => by cases idle.symm.trans active⟩
    heldNow := fun alive => by
      have now := holding.heldNow alive
      simp only [idle, Bool.false_eq_true, false_and, if_false] at now ⊢
      exact now }

section

variable (holding : Holding s.holdView)
include holding

theorem Holding.opens (attended : Attended s.recoveryView) {recovery : SttRecovery}
    (running : s.recovery = some recovery) (pausing : recovery.phase = .pausing) (alive : s.live = true)
    (next : SttRecovery) :
    Holding ({ s.withPhase next .opening with state := .opening } : ResilientSttStream δ).holdView := by
  have none : s.active = none := attended.phase alive .pausing (by simp [recoveryView, running, pausing])
  refine Holding.idle (v := s.holdView) holding ?_
  show s.active.isSome = false
  rw [none]
  rfl

theorem Holding.opened (attended : Attended s.recoveryView) {recovery : SttRecovery}
    (running : s.recovery = some recovery) (opening : recovery.phase = .opening) (stream : Nat)
    (replayed : List Nat) : Holding (s.opened recovery stream replayed).holdView := by
  unfold ResilientSttStream.opened
  split
  · exact holding
  next going =>
    have alive := live_eq_true going
    have none : s.active = none := attended.phase alive .opening (by simp [recoveryView, running, opening])
    have released : s.heldEndpoints = [] := by
      have now := holding.heldNow alive
      rw [if_neg (by simp [holdView, none])] at now
      exact List.map_eq_nil_iff.mp now
    have silent : ∀ happening ∈ ([.opened (s.generation + 1) s.generationAudioOffset] :
        List (SttHappening δ)), ResilientSttStream.quiet happening = true := by
      simp [ResilientSttStream.quiet, plain]
    have fresh : heldArrivals (s.generation + 1) s.happened = [] := by
      rw [List.eq_nil_iff_forall_not_mem]
      intro arrival member
      obtain ⟨state, event, received, -⟩ := mem_heldArrivals_iff.mp member
      exact absurd (holding.received _ _ _ _ received).2 (Nat.not_succ_le_self _)
    refine Holding.grows (v := { s.holdView with
      generation := s.generation + 1, active := true, state := .probationary }) ?_
      ⟨_, silent, rfl⟩
    exact
      { holding with
        received := fun arrival generation state event member =>
          (holding.received arrival generation state event member).imp_right Nat.le_succ_of_le
        failed := fun generation member => .inl <| by
          rcases holding.failed generation member with past | ⟨rfl, -⟩
          · exact Nat.lt_succ_of_lt past
          · exact Nat.lt_succ_self _
        healthy := fun generation member => .inl <| by
          rcases holding.healthy generation member with past | ⟨rfl, -⟩
          · exact Nat.lt_succ_of_lt past
          · exact Nat.lt_succ_self _
        stopped := fun terminal => by
          rw [live, Bool.and_eq_true] at alive
          simp [show s.terminal = true from terminal] at alive
        heldOf := fun _ held member => by
          rw [show s.holdView.held = [] from released] at member
          cases member
        heldNow := fun _ => by
          dsimp only
          rw [show s.holdView.held = [] from released, if_pos ⟨rfl, by simp⟩]
          exact fresh.symm }

/-- The release when a generation becomes healthy: all that is held goes out, or the stream ends at
the first event that the queue refuses. -/
theorem Holding.heal (alive : s.live = true) (active : s.active.isSome = true)
    (unhealthy : s.state ≠ .healthy) (reached : s.replayBoundary ≤ s.cursor)
    {s' : ResilientSttStream δ}
    (healed : s' = ({ s with state := .healthy, replayStart := s.cursor } :
      ResilientSttStream δ).happen (.healthy s.generation)) :
    Holding { s'.releaseHeldEndpoints with replayBoundary := 0 }.holdView := by
  have now : s.heldEndpoints.map Prod.fst = heldArrivals s.generation s.happened := by
    have now := holding.heldNow alive
    rwa [if_pos ⟨active, unhealthy⟩] at now
  have same : ∀ held ∈ s.heldEndpoints, held.2.1 = s.generation := holding.heldOf alive
  have logged : Logged s'.holdView := by
    subst healed
    exact holding.toLogged.heal
  have here : .healthy s.generation ∈ s'.happened := by
    subst healed
    exact List.mem_append_right _ (List.mem_singleton_self _)
  have ready : ¬ (s'.state ≠ .healthy || s'.cursor < s'.replayBoundary) = true := by
    subst healed
    intro waits
    rcases Bool.or_eq_true_iff.mp waits with recovering | behind
    · exact of_decide_eq_true recovering rfl
    · exact Nat.not_lt.mpr reached (of_decide_eq_true behind)
  have alive' : ({ s' with heldEndpoints := [] } : ResilientSttStream δ).live = true := by
    subst healed
    exact alive
  have delivers : ∀ extra, Released s.generation (heldArrivals s.generation s.happened) extra →
      (∀ generation, .healthy generation ∉ extra) → Delivered (s'.happened ++ extra) := by
    intro extra released free
    subst healed
    rw [happen, List.append_assoc]
    exact holding.delivered.heal released free
  show Holding s'.releaseHeldEndpoints.holdView
  unfold releaseHeldEndpoints
  rw [if_neg ready]
  have held : s'.heldEndpoints = s.heldEndpoints := by rw [healed]; rfl
  have generation : s'.generation = s.generation := by rw [healed]; rfl
  have active' : s'.active.isSome = true := by rw [healed]; exact active
  have state' : s'.state = .healthy := by rw [healed]; rfl
  rw [held]
  obtain out | ⟨sent, refused, rest, split, ends⟩ := holdView_foldl_emit s.heldEndpoints alive'
  · obtain ⟨released, all, arrivals⟩ := emissions_eq_map same s'.sequence
    have kept : Logged { s'.holdView with
        log := s'.happened ++ emissions s.heldEndpoints s'.sequence
        sequence := s'.sequence + s.heldEndpoints.length
        held := [] } := by
      refine Logged.emissions (v := s'.holdView) ?_ alive' active' ?_ ?_
      · rw [List.append_nil, ← held]
        exact logged
      · exact fun event member => (same event member).trans generation.symm
      · rw [show s'.holdView.generation = s.generation from generation]
        exact here
    rw [out]
    refine { kept with delivered := ?_, stopped := ?_, heldOf := fun _ _ h => (by cases h), heldNow := ?_ }
    · refine delivers _ ⟨released, [], .inl ⟨?_, ?_⟩⟩ ?_
      · rw [List.append_nil]
        exact all
      · rw [arrivals, now]
      · rw [show emissions s.heldEndpoints _ = _ from all]
        simp
    · intro terminal
      rw [live, Bool.and_eq_true] at alive'
      simp [show s'.terminal = true from terminal] at alive'
    · intro _
      rw [if_neg fun recovering => recovering.2 state']
      rfl
  · obtain ⟨released, all, arrivals⟩ := emissions_eq_map
      (fun event member => same event (by rw [split]; exact List.mem_append_left _ member))
      s'.sequence
    have last : refused.2.1 = s.generation := same refused (by rw [split]; simp)
    have kept : Logged { s'.holdView with
        log := s'.happened ++ emissions sent s'.sequence
        sequence := s'.sequence + sent.length
        held := refused :: rest } := by
      refine Logged.emissions (v := s'.holdView) ?_ alive' active' ?_ ?_
      · rw [← split, ← held]
        exact logged
      · intro event member
        rw [show s'.holdView.generation = s.generation from generation]
        exact same event (by rw [split]; exact List.mem_append_left _ member)
      · rw [show s'.holdView.generation = s.generation from generation]
        exact here
    have silent : ∀ happening ∈ ([.refused refused.1 refused.2.1] : List (SttHappening δ)),
        ResilientSttStream.quiet happening = true := by
      simp [ResilientSttStream.quiet, plain]
    obtain ⟨commits, sequence, view⟩ := ends
    have ended := (kept.drop.quiet silent).ends ⟨commits, sequence, rfl⟩
    rw [view]
    refine ended.holding ?_ (fun _ => rfl) (by simp [HoldView.live])
    show Delivered (s'.happened ++ emissions sent s'.sequence ++
      [.refused refused.1 refused.2.1] ++ SttHappening.terminal :: commits.map .rejected)
    rw [List.append_assoc, List.append_assoc]
    refine delivers _ ⟨released, commits.map .rejected,
      .inr ⟨refused.1, ?_, rest.map Prod.fst, ?_⟩⟩ ?_
    · rw [show emissions sent s'.sequence = _ from all, last]
      rfl
    · rw [arrivals, ← now, split, List.map_append, List.map_cons, List.append_assoc]
      rfl
    · rw [show emissions sent s'.sequence = _ from all]
      simp

theorem Holding.shut : Holding s.shut.holdView := by
  unfold ResilientSttStream.shut
  dsimp only
  generalize start : { s with isClosed := true, closing := true, state := .closed } = s₁
  have dead : s₁.holdView.live = false := by
    subst start
    rfl
  have closed : Holding s₁.holdView := by
    subst start
    refine Logged.holding ?_ holding.delivered holding.stopped rfl
    exact
      { holding.toLogged with
        next := nofun
        healthy := fun generation member => (holding.healthy generation member).imp_right fun past =>
          ⟨past.1, nofun⟩ }
  have rejected : Holding (s₁.clearGenerationWait (.failed ⟨false, false⟩)).rejectPending.holdView := by
    refine Holding.grows ?_ (grows_rejectPending _)
    rw [holdView_clearGenerationWait]
    exact closed
  show Holding (notifyProgress _ _).holdView
  rw [holdView_notifyProgress]
  exact rejected

theorem Holding.streamsClosed (attended : Attended s.recoveryView) :
    Holding s.streamsClosed.holdView := by
  unfold ResilientSttStream.streamsClosed
  split
  next shutting =>
    refine Logged.holding ?_ holding.delivered (fun _ => rfl) (attended.gone shutting)
    exact
      { holding.toLogged with
        failed := fun generation member => (holding.failed generation member).imp_right fun past =>
          ⟨past.1, rfl⟩
        healthy := fun generation member => (holding.healthy generation member).imp_right fun past =>
          ⟨past.1, fun _ => nofun⟩ }
  · exact holding

/-! ### Every run -/

theorem Holding.move [Zero δ] [Add δ] [DecidableEq δ] (attended : Attended s.recoveryView)
    {s' : ResilientSttStream δ} (move : Move config s s') : Holding s'.holdView := by
  cases move with
  | still shapes same =>
    have view : s'.holdView = s.holdView := (congrArg holdView same : s'.bare.holdView = _)
    rw [view]
    exact holding
  | failTerminal error => exact holding.failTerminal error
  | compactJournal | run | stable | withPhase | finish | skip => exact holding
  | pushAudio | push => exact Holding.grows holding (grows_push s _)
  | @note happening note =>
    refine @Holding.quiet _ [happening] _ holding fun noted member => ?_
    obtain rfl := List.mem_singleton.mp member
    cases noted with
    | resolved | dispatched => rfl
    | _ => cases note
  | sends => exact holding.grows ⟨[.sent s.generation _], by simp [ResilientSttStream.quiet, plain], rfl⟩
  | clearStable | clearExhausted =>
    rw [holdView_clearGenerationWait]
    exact holding
  | release => exact holding.release
  | fails generation stream error now => exact holding.handleGenerationFailure generation stream error now
  | consumes generation stream event now => exact holding.consumeEvent attended generation stream event now
  | opens running pausing alive next => exact holding.opens attended running pausing alive next
  | opened running opening stream replayed => exact holding.opened attended running opening stream replayed
  | @heal recovery generation stream running settled alive current state =>
    obtain ⟨rfl, active⟩ : generation = s.generation ∧ s.active = some stream := by
      simpa [ResilientSttStream.current] using current
    obtain ⟨-, idle | ⟨-, -, reached⟩⟩ := attended.phase alive
      (.settled s.generation stream .stable) (by simp [recoveryView, running, settled])
    · cases active.symm.trans idle
    · have unhealthy : s.state ≠ .healthy := by
        rw [state]
        simp
      exact holding.heal alive (by rw [active]; rfl) unhealthy reached rfl
  | startRecovery idle source =>
    rw [holdView_startRecovery]
    exact holding
  | shut => exact holding.shut
  | streamsClosed => exact holding.streamsClosed attended

end

theorem holding_new [Zero δ] (stream : Nat) :
    Holding (new stream : ResilientSttStream δ).holdView where
  sequences := rfl
  next _ := rfl
  received := nofun
  emitted := nofun
  failed := nofun
  healthy := nofun
  fresh := nofun
  order := List.Pairwise.nil
  follows := follows_nil
  delivered := delivered_nil
  stopped := nofun
  heldOf _ := nofun
  heldNow _ := rfl

theorem holding_after [Zero δ] [Add δ] [DecidableEq δ] (config : SttStreamConfig) (stream : Nat)
    (events : List (SttStreamEvent δ)) :
    Holding (after config stream events).holdView := by
  have both := run_invariant (step config)
    (fun s : ResilientSttStream δ => Attended s.recoveryView ∧ Holding s.holdView)
    (fun s event kept => (moves_step kept.1 event).keeps
      (P := fun s => Attended s.recoveryView ∧ Holding s.holdView)
      (fun _ _ move kept => ⟨kept.1.move move, kept.2.move kept.1 move⟩) kept) (new stream)
    ⟨attended_new stream, holding_new stream⟩ events
  exact both.2

theorem Logged.heldArrivals_eq (logged : Logged v) {before rest : List (SttHappening δ)}
    (split : v.log = before ++ rest) (healthy : .healthy generation ∈ before) :
    heldArrivals generation v.log = heldArrivals generation before := by
  rw [split, heldArrivals_append, List.append_right_eq_self, List.eq_nil_iff_forall_not_mem]
  intro arrival member
  obtain ⟨state, event, received, unhealthy, -⟩ := mem_heldArrivals_iff.mp member
  obtain ⟨first, second, rfl⟩ := List.append_of_mem received
  have may := logged.follows (before ++ first) (.received arrival generation state event) second
    (by simp [split])
  exact unhealthy (may.2 (List.mem_append_left _ healthy))

/-- Over every run the events are numbered without gaps, nothing goes out of a generation that has
failed, and the endpoints that are held go out once each and in the order of their arrival as soon
as their generation is healthy. -/
theorem endpointsHeld_after [Zero δ] [Add δ] [DecidableEq δ] (config : SttStreamConfig)
    (stream : Nat) (events : List (SttStreamEvent δ)) :
    EndpointsHeld (after config stream events).happened := by
  have holding := holding_after config stream events
  generalize after config stream events = s at holding ⊢
  constructor
  case sequences => exact holding.sequences
  case inOrder => exact (List.pairwise_append.mp holding.order).1
  case untilFailure =>
    intro before arrival generation event rest split
    exact (holding.follows before _ rest split).1
  case untilHealthy =>
    intro before arrival generation event rest split member
    refine (holding.follows before _ rest split).2 ?_
    -- what arrives later has a later number than what went out before
    rw [split, heldArrivals_append, List.mem_append] at member
    refine member.resolve_right fun late => ?_
    obtain ⟨state, other, received, -⟩ := mem_heldArrivals_iff.mp late
    obtain ⟨first, second, there⟩ := List.append_of_mem received
    have may := holding.follows (before ++ first) _ second
      (by rw [show s.holdView.log = _ from split, there, List.append_assoc])
    cases first with
    | nil =>
      obtain ⟨same, -⟩ := List.cons.inj there
      cases same
    | cons next first =>
      obtain ⟨rfl, -⟩ := List.cons.inj there
      exact may.1 generation event (by simp)
  case delivered =>
    intro before generation rest split
    have released := holding.delivered before generation rest split
    have whole : s.happened = (before ++ [.healthy generation]) ++ rest := by
      rw [split, List.append_cons]
    have here : .healthy generation ∈ before ++ [.healthy generation] := by simp
    rw [show heldArrivals generation s.happened = _ from
      holding.toLogged.heldArrivals_eq whole here, heldArrivals_append]
    exact (congrArg (Released generation · rest) (List.append_nil _)).mpr released

/-- A held endpoint of a generation that becomes healthy is lost when nobody reads the events any
more: the queue refuses it, and the stream fails for good. -/
theorem held_endpoint_refused :
    ¬ ∀ (config : SttStreamConfig) (stream : Nat) (events : List (SttStreamEvent Nat))
        (generation arrival : Nat),
      .healthy generation ∈ (after config stream events).happened →
      arrival ∈ heldArrivals generation (after config stream events).happened →
      arrival ∈ releasedFrom (after config stream events).happened
        (after config stream events).happened := by
  intro promise
  have lost := promise ⟨"call", true, .generation, ⟨3, 3, 1000, 1000, 10⟩⟩ 0
    [.providerEnds 1 0 ⟨true, false⟩ 0, .recoveryPaused false, .opened 1 [],
      .providerEvent 2 1 ⟨"call", 1, .endpoint none, none⟩ 0, .consumerReturn,
      .stableTimer ⟨false, false⟩, .recoveryContinues]
    2 0
  revert lost
  decide

end Tvic.ResilientSttStream
