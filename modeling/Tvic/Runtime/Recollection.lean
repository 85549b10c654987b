import Tvic.Runtime.ConversationHistory
import Tvic.Runtime.OpenTurns

/-!
# What the live policy was told

The live policy is told of a turn when the loop comes to know its end: of a completed turn with its text,
of a turn it has cancelled for a barge-in with what was heard, of no other. Here is what starts and durable
calls do to that: an open turn is not remembered, so that only a turn that is completed behind the back of
the loop could make a difference.
-/
namespace Tvic

open Lib (Text)

/-! ## Lists that differ by what one leaves out -/

theorem filterMap_length_le {α β : Type} {f g : α → Option β} {l : List α}
    (dominated : ∀ x ∈ l, f x ≠ none → g x ≠ none) :
    (l.filterMap f).length ≤ (l.filterMap g).length := by
  induction l with
  | nil => exact Nat.le_refl 0
  | cons x rest ih =>
    have le := ih fun y member => dominated y (List.mem_cons_of_mem _ member)
    rw [List.filterMap_cons, List.filterMap_cons]
    cases left : f x with
    | none =>
      cases right : g x with
      | none => exact le
      | some b => exact Nat.le_succ_of_le le
    | some a =>
      cases right : g x with
      | none => exact absurd right (dominated x List.mem_cons_self (by simp [left]))
      | some b => exact Nat.succ_le_succ le

theorem filterMap_eq_filterMap_iff {α β : Type} {f g : α → Option β} {l : List α}
    (dominated : ∀ x ∈ l, f x ≠ none → g x ≠ none) :
    l.filterMap f = l.filterMap g ↔ ∀ x ∈ l, f x = g x := by
  refine ⟨fun same => ?_, fun same => List.filterMap_congr same⟩
  induction l with
  | nil => exact nofun
  | cons x rest ih =>
    have restDominated : ∀ y ∈ rest, f y ≠ none → g y ≠ none :=
      fun y member => dominated y (List.mem_cons_of_mem _ member)
    rw [List.filterMap_cons, List.filterMap_cons] at same
    rw [List.forall_mem_cons]
    cases left : f x with
    | none =>
      cases right : g x with
      | none =>
        rw [left, right] at same
        exact ⟨rfl, ih restDominated same⟩
      | some b =>
        -- One list would be longer than the other.
        rw [left, right] at same
        have le := filterMap_length_le restDominated
        have lengths : (rest.filterMap f).length = (rest.filterMap g).length + 1 :=
          congrArg List.length same
        omega
    | some a =>
      cases right : g x with
      | none => exact absurd right (dominated x List.mem_cons_self (by simp [left]))
      | some b =>
        rw [left, right] at same
        obtain ⟨rfl, restSame⟩ := List.cons.inj same
        exact ⟨rfl, ih restDominated restSame⟩

theorem messages_flatMap_injective {pairs others : List TurnPair}
    (same : pairs.flatMap TurnPair.messages = others.flatMap TurnPair.messages) : pairs = others := by
  induction pairs generalizing others with
  | nil =>
    cases others with
    | nil => rfl
    | cons other rest => cases same
  | cons pair rest ih =>
    cases others with
    | nil => cases same
    | cons other others =>
      rw [List.flatMap_cons, List.flatMap_cons] at same
      obtain ⟨user, assistant⟩ := List.cons.inj same
      obtain ⟨answer, later⟩ := List.cons.inj assistant
      rw [ih later]
      have spoken : pair.transcript = other.transcript := congrArg LlmMessage.content user
      have answered : pair.assistantText = other.assistantText := congrArg LlmMessage.content answer
      obtain ⟨transcript, assistantText⟩ := pair
      obtain rfl : transcript = other.transcript := spoken
      obtain rfl : assistantText = other.assistantText := answered
      rfl

/-! ## What is remembered of a stored turn -/

def StoredTurn.hydrated (turnId : Text) (turn : StoredTurn) : HydratedTurn :=
  ⟨turnId, turn.sequence, turn.status, some turn.transcript, turn.outputText⟩

/-- What the live policy was told of a turn, given the ends the loop has come to know. -/
def remembered (knownEnds : List KnownEnd) (turnId : Nat) (turn : StoredTurn) : Option TurnPair :=
  match turn.status with
  | .completed => some ⟨turn.transcript, turn.outputText.getD []⟩
  | .cancelled =>
    (knownEnds.find? fun known => known.turnId = turnId && known.acknowledged && known.bargeIn).map
      fun known => ⟨turn.transcript, interruptedText known.heard⟩
  | _ => none

namespace TurnStore

variable {store next : TurnStore}

/-- What is remembered of the first turns of a session. -/
def remembered (store : TurnStore) (knownEnds : List KnownEnd) (count : Nat) : List TurnPair :=
  (List.range count).filterMap fun turnId =>
    (store.turns[turnId]?).bind (Tvic.remembered knownEnds turnId)

/-- The turns of a session as they are hydrated, under any ids. -/
def hydrated (store : TurnStore) (turnIds : Nat → Text) : List HydratedTurn :=
  (List.range store.turns.length).filterMap fun turnId =>
    (store.turns[turnId]?).map (StoredTurn.hydrated (turnIds turnId))

/-- From one store to the other the terminal turns stay, and the open ones may end, a completed one with a
text that is allowed. -/
structure Alters (store next : TurnStore) (completes : Nat → Option Text → Prop) : Prop where
  length : next.turns.length = store.turns.length
  sequence : next.turnSequence = store.turnSequence
  terminal : ∀ (turnId : Nat) (turn : StoredTurn), store.turns[turnId]? = some turn →
    turn.status.isTerminal = true → next.turns[turnId]? = some turn
  open_ : ∀ (turnId : Nat) (turn : StoredTurn), store.turns[turnId]? = some turn →
    turn.status.isTerminal = false → ∃ now : StoredTurn, next.turns[turnId]? = some now ∧
      now.transcript = turn.transcript ∧ now.sequence = turn.sequence ∧
      (now.status = .completed → completes turnId now.outputText)

theorem Alters.refl (store : TurnStore) (completes : Nat → Option Text → Prop) :
    store.Alters store completes := by
  refine ⟨rfl, rfl, fun _ _ found _ => found, fun _ turn found open_ => ⟨turn, found, rfl, rfl, ?_⟩⟩
  intro completed
  rw [completed] at open_
  cases open_

theorem changeOpen_getElem? (changed : Nat) (change : StoredTurn → StoredTurn) (turnId : Nat) :
    (store.changeOpen changed change).turns[turnId]? = (store.turns[turnId]?).map fun turn =>
      if changed = turnId then (if turn.status.isTerminal then turn else change turn) else turn := by
  rw [changeOpen, List.getElem?_modify]
  rfl

theorem changeOpen_alters (changed : Nat) {change : StoredTurn → StoredTurn}
    {completes : Nat → Option Text → Prop}
    (keeps : ∀ turn, (change turn).transcript = turn.transcript ∧ (change turn).sequence = turn.sequence ∧
      (turn.status.isTerminal = false → (change turn).status = .completed →
        completes changed (change turn).outputText)) :
    store.Alters (store.changeOpen changed change) completes := by
  have found {turnId : Nat} {turn : StoredTurn} (before : store.turns[turnId]? = some turn) :
      (store.changeOpen changed change).turns[turnId]? = some
        (if changed = turnId then (if turn.status.isTerminal then turn else change turn) else turn) := by
    rw [changeOpen_getElem?, before]
    rfl
  refine ⟨List.length_modify _ _ _, rfl, fun turnId turn before terminal => ?_,
    fun turnId turn before open_ => ?_⟩
  · rw [found before, if_pos terminal, ite_self]
  · have after_ := found before
    by_cases same : changed = turnId
    · subst same
      rw [if_pos rfl, if_neg (by rw [open_]; exact Bool.false_ne_true)] at after_
      exact ⟨_, after_, (keeps turn).1, (keeps turn).2.1, (keeps turn).2.2 open_⟩
    · rw [if_neg same] at after_
      refine ⟨_, after_, rfl, rfl, fun completed => ?_⟩
      rw [completed] at open_
      cases open_

end TurnStore

/-- A status is updated to one that is not terminal, a turn ended with one that is. -/
def DurableCall.isOrdinary : DurableCall → Bool
  | .updateTurnStatus _ status => !status.isTerminal
  | call => call.endsTurn && !call.startsTurn

def DurableCall.Completes (call : DurableCall) (turnId : Nat) (outputText : Option Text) : Prop :=
  call = .endTurn turnId .completed outputText

namespace TurnStore

variable {store next : TurnStore}

theorem commit_alters {call : DurableCall} (ordinary : call.isOrdinary = true) :
    store.Alters (store.commit call) call.Completes := by
  cases call with
  | startTurn => cases ordinary
  | updateTurnStatus turnId status =>
    refine changeOpen_alters turnId fun turn => ?_
    split
    · next interrupted =>
      refine ⟨rfl, rfl, fun _ completed => ?_⟩
      rw [completed] at interrupted
      cases interrupted
    · refine ⟨rfl, rfl, fun _ completed => ?_⟩
      obtain rfl : status = .completed := completed
      cases ordinary
  | checkpointTurnInterruption turnId =>
    exact changeOpen_alters turnId fun _ => ⟨rfl, rfl, nofun⟩
  | endTurn turnId status outputText =>
    have ended : store.Alters (store.endTurn turnId status outputText)
        (DurableCall.endTurn turnId status outputText).Completes := by
      have changed : store.Alters (store.changeOpen turnId fun turn =>
          { turn with status := status, outputText := outputText })
          (DurableCall.endTurn turnId status outputText).Completes := by
        refine changeOpen_alters turnId fun turn => ⟨rfl, rfl, fun _ completed => ?_⟩
        obtain rfl : status = .completed := completed
        rfl
      exact ⟨changed.length, changed.sequence, changed.terminal, changed.open_⟩
    unfold commit
    dsimp only
    split
    · exact .refl store _
    · exact ended
  | toolCall => exact .refl store _

variable {completes : Nat → Option Text → Prop}

theorem Alters.isOpen (alters : store.Alters next completes) {turnId : Nat}
    (open_ : next.IsOpen turnId) : store.IsOpen turnId := by
  obtain ⟨turn, found, notTerminal⟩ := open_
  have within : turnId < store.turns.length := by
    rw [← alters.length]
    exact (List.getElem?_eq_some_iff.mp found).1
  refine ⟨store.turns[turnId], List.getElem?_eq_getElem within, ?_⟩
  cases terminal : store.turns[turnId].status.isTerminal with
  | false => rfl
  | true =>
    have stays := alters.terminal turnId _ (List.getElem?_eq_getElem within) terminal
    obtain rfl := Option.some.inj (found.symm.trans stays)
    exact terminal.symm.trans notTerminal

theorem Alters.turn (alters : store.Alters next completes) {turnId : Nat} {turn : StoredTurn}
    (found : next.turns[turnId]? = some turn) :
    ∃ was : StoredTurn, store.turns[turnId]? = some was ∧ turn.transcript = was.transcript ∧
      turn.sequence = was.sequence := by
  have within : turnId < store.turns.length := by
    rw [← alters.length]
    exact (List.getElem?_eq_some_iff.mp found).1
  have before := List.getElem?_eq_getElem within
  refine ⟨_, before, ?_⟩
  cases terminal : store.turns[turnId].status.isTerminal with
  | true =>
    obtain rfl := Option.some.inj (found.symm.trans (alters.terminal turnId _ before terminal))
    exact ⟨rfl, rfl⟩
  | false =>
    obtain ⟨now, now_found, transcript, sequence, -⟩ := alters.open_ turnId _ before terminal
    obtain rfl := Option.some.inj (found.symm.trans now_found)
    exact ⟨transcript, sequence⟩

theorem remembered_eq_none {knownEnds : List KnownEnd} {turnId : Nat} {turn : StoredTurn}
    (unknown : ∀ known ∈ knownEnds, known.turnId ≠ turnId) (notCompleted : turn.status ≠ .completed) :
    Tvic.remembered knownEnds turnId turn = none := by
  unfold Tvic.remembered
  split
  · next completed => exact absurd completed notCompleted
  · rw [Option.map_eq_none_iff, List.find?_eq_none]
    intro known member
    simp [unknown known member]
  · rfl

theorem Alters.remembered (alters : store.Alters next completes) {knownEnds : List KnownEnd}
    {count : Nat} (unknown : ∀ known ∈ knownEnds, ¬ store.IsOpen known.turnId)
    (noCompletion : ∀ turnId, turnId < count → store.IsOpen turnId → ∀ text, ¬ completes turnId text)
    :
    
    next.remembered knownEnds count = store.remembered knownEnds count := by
  refine List.filterMap_congr fun turnId member => ?_
  have within := List.mem_range.mp member
  cases found : store.turns[turnId]? with
  | none =>
    have beyond : next.turns[turnId]? = none := by
      rw [List.getElem?_eq_none_iff] at found ⊢
      rwa [alters.length]
    rw [beyond]
  | some turn =>
    cases terminal : turn.status.isTerminal with
    | true => rw [alters.terminal turnId turn found terminal]
    | false =>
      -- An open turn is remembered neither before nor after.
      have isOpen : store.IsOpen turnId := ⟨turn, found, terminal⟩
      have fresh : ∀ known ∈ knownEnds, known.turnId ≠ turnId :=
        fun known member same => unknown known member (by rwa [same])
      obtain ⟨now, now_found, -, -, completed⟩ := alters.open_ turnId turn found terminal
      rw [now_found, Option.bind_some, Option.bind_some, remembered_eq_none fresh fun completed_ =>
        noCompletion turnId within isOpen _ (completed completed_), remembered_eq_none fresh]
      intro completed_
      rw [completed_] at terminal
      cases terminal

end TurnStore

namespace TurnStore

variable {store : TurnStore}

theorem isOpen_commit {call : DurableCall} (ordinary : call.isOrdinary = true) {turnId : Nat}
    (open_ : store.IsOpen turnId)
    (stays : ∀ status text, call ≠ .endTurn turnId status text) : (store.commit call).IsOpen turnId := by
  have change {changed : Nat} {change : StoredTurn → StoredTurn}
      (keeps : changed = turnId → ∀ turn, turn.status.isTerminal = false →
        (change turn).status.isTerminal = false) :
      (store.changeOpen changed change).IsOpen turnId := by
    obtain ⟨turn, found, notTerminal⟩ := open_
    by_cases same : changed = turnId
    · refine ⟨change turn, ?_, keeps same turn notTerminal⟩
      rw [changeOpen_getElem?, found, Option.map_some, if_pos same, if_neg (by simp [notTerminal])]
    · refine ⟨turn, ?_, notTerminal⟩
      rw [changeOpen_getElem?, found, Option.map_some, if_neg same]
  cases call with
  | startTurn => cases ordinary
  | updateTurnStatus changed status =>
    refine change fun _ turn notTerminal => ?_
    split
    · exact notTerminal
    · simpa [DurableCall.isOrdinary] using ordinary
  | checkpointTurnInterruption changed => exact change fun _ _ _ => rfl
  | endTurn ended status text =>
    have other : ended ≠ turnId := fun same => stays status text (by rw [same])
    have kept : (store.endTurn ended status text).IsOpen turnId :=
      @change ended _ fun same => absurd same other
    unfold commit
    dsimp only
    split
    · exact open_
    · exact kept
  | toolCall => exact open_

end TurnStore

/-! ## What the loop recollects -/

/-- What the conversation of a loop depends on. -/
structure Recollection where
  store : TurnStore
  lateWrites : List LateWrite
  lateStarted : List Nat
  turnChain : List Text
  policyCalls : List PolicyCall
  knownEnds : List KnownEnd
  turnId : Nat
  transcript : Text
  finalText : Text

namespace Recollection

variable {r next : Recollection} {localeCompare : Text → Text → Ordering}

def PendingEnd (r : Recollection) (turnId : Nat) (status : TurnStatus) (outputText : Option Text) : Prop :=
  ∃ write ∈ r.lateWrites, write.call = .endTurn turnId status outputText

/-- What holds in every phase. -/
structure Kept (r : Recollection) : Prop where
  transcripts : ∀ turn ∈ r.store.turns, turn.transcript ≠ []
  sequences : r.store.turns.Pairwise fun turn later => turn.sequence < later.sequence
  bounded : ∀ turn ∈ r.store.turns, turn.sequence ≤ r.store.turnSequence
  chain : ∀ transcript ∈ r.turnChain, transcript ≠ []
  late : ∀ write ∈ r.lateWrites, write.call.isOrdinary = true ∨
    ∃ transcript, transcript ≠ [] ∧ write.call = .startTurn transcript
  ends : ∀ turnId status outputText, r.PendingEnd turnId status outputText →
    turnId < r.store.turns.length
  lateStarted : ∀ turnId ∈ r.lateStarted, turnId < r.store.turns.length

/-- The policy was told of the first turns, and their ends are known at most. -/
structure Recalls (localeCompare : Text → Text → Ordering) (r : Recollection) (count : Nat) : Prop where
  pairs : recordedPairs localeCompare r.policyCalls = r.store.remembered r.knownEnds count
  known : ∀ known ∈ r.knownEnds, known.turnId < count ∧ ¬ r.store.IsOpen known.turnId

/-- The policy was told of every turn. -/
structure Complete (localeCompare : Text → Text → Ordering) (r : Recollection) : Prop where
  recalls : r.Recalls localeCompare r.store.turns.length
  noCompletion : ∀ turnId outputText, r.PendingEnd turnId .completed outputText →
    ¬ r.store.IsOpen turnId

/-- The last turn is being handled: the policy was told of every turn before. -/
structure Handles (localeCompare : Text → Text → Ordering) (r : Recollection) : Prop where
  recalls : r.Recalls localeCompare r.turnId
  newest : r.store.turns.length = r.turnId + 1
  spoken : ∀ turn : StoredTurn, r.store.turns[r.turnId]? = some turn → turn.transcript = r.transcript

/-- Nothing was done to end the turn. -/
structure Ongoing (localeCompare : Text → Text → Ordering) (r : Recollection) : Prop where
  handles : r.Handles localeCompare
  isOpen : r.store.IsOpen r.turnId
  noEnd : ∀ turnId status outputText, r.PendingEnd turnId status outputText → ¬ r.store.IsOpen turnId
  own : r.turnId ∉ r.lateStarted

/-- A terminal write may have been made: one that completes the turn does so with its text. -/
structure Unsettled (localeCompare : Text → Text → Ordering) (r : Recollection) : Prop where
  handles : r.Handles localeCompare
  completed : ∀ turn : StoredTurn, r.store.turns[r.turnId]? = some turn → turn.status = .completed →
    turn.outputText = some r.finalText
  completions : ∀ turnId outputText, r.PendingEnd turnId .completed outputText →
    r.store.IsOpen turnId → turnId = r.turnId ∧ outputText = some r.finalText

/-- The call has committed, or not, and may still do so, or not. -/
structure Calls (r next : Recollection) (call : DurableCall) : Prop where
  store : next.store = r.store ∨ next.store = r.store.commit call
  late : ∀ write ∈ next.lateWrites, (∃ was ∈ r.lateWrites, was.call = write.call) ∨ write.call = call
  lateStarted : next.lateStarted = r.lateStarted
  turnChain : next.turnChain = r.turnChain
  policyCalls : next.policyCalls = r.policyCalls
  knownEnds : next.knownEnds = r.knownEnds
  turnId : next.turnId = r.turnId
  transcript : next.transcript = r.transcript
  finalText : next.finalText = r.finalText

variable {call : DurableCall}

theorem Calls.alters (calls : r.Calls next call) (ordinary : call.isOrdinary = true) :
    r.store.Alters next.store call.Completes := by
  rcases calls.store with same | committed
  · rw [same]
    exact .refl _ _
  · rw [committed]
    exact TurnStore.commit_alters ordinary

theorem Calls.pendingEnd (calls : r.Calls next call) {turnId : Nat} {status : TurnStatus}
    {outputText : Option Text} (pending : next.PendingEnd turnId status outputText) :
    r.PendingEnd turnId status outputText ∨ call = .endTurn turnId status outputText := by
  obtain ⟨write, member, call_eq⟩ := pending
  rcases calls.late write member with ⟨was, before, same⟩ | new
  · exact .inl ⟨was, before, same.trans call_eq⟩
  · exact .inr (new.symm.trans call_eq)

theorem Kept.calls (kept : r.Kept) (calls : r.Calls next call) (ordinary : call.isOrdinary = true)
    (within : ∀ turnId status outputText, call = .endTurn turnId status outputText →
      turnId < r.store.turns.length) : next.Kept := by
  have alters := calls.alters ordinary
  refine ⟨fun turn member => ?_, ?_, fun turn member => ?_, ?_, fun write member => ?_,
    fun turnId status text pending => ?_, fun turnId member => ?_⟩
  · obtain ⟨turnId, found⟩ := List.mem_iff_getElem?.mp member
    obtain ⟨was, before, transcript, -⟩ := alters.turn found
    rw [transcript]
    exact kept.transcripts was (List.mem_of_getElem? before)
  · rw [List.pairwise_iff_getElem]
    intro i j iLt jLt ordered
    obtain ⟨first, firstWas, -, firstSame⟩ := alters.turn (List.getElem?_eq_getElem iLt)
    obtain ⟨second, secondWas, -, secondSame⟩ := alters.turn (List.getElem?_eq_getElem jLt)
    obtain ⟨iLt', rfl⟩ := List.getElem?_eq_some_iff.mp firstWas
    obtain ⟨jLt', rfl⟩ := List.getElem?_eq_some_iff.mp secondWas
    rw [firstSame, secondSame]
    exact List.pairwise_iff_getElem.mp kept.sequences i j iLt' jLt' ordered
  · obtain ⟨turnId, found⟩ := List.mem_iff_getElem?.mp member
    obtain ⟨was, before, -, sequence⟩ := alters.turn found
    rw [sequence, alters.sequence]
    exact kept.bounded was (List.mem_of_getElem? before)
  · rw [calls.turnChain]
    exact kept.chain
  · rcases calls.late write member with ⟨was, before, same⟩ | rfl
    · rw [← same]
      exact kept.late was before
    · exact .inl ordinary
  · rw [alters.length]
    rcases calls.pendingEnd pending with before | new
    · exact kept.ends turnId status text before
    · exact within turnId status text new
  · rw [calls.lateStarted] at member
    rw [alters.length]
    exact kept.lateStarted turnId member

theorem Recalls.calls {count : Nat} (recalls : r.Recalls localeCompare count)
    (calls : r.Calls next call) (ordinary : call.isOrdinary = true)
    (noCompletion : ∀ turnId, turnId < count → r.store.IsOpen turnId →
      ∀ text, ¬ call.Completes turnId text) : next.Recalls localeCompare count := by
  have alters := calls.alters ordinary
  constructor
  · rw [calls.policyCalls, calls.knownEnds, recalls.pairs]
    exact (alters.remembered (fun known member => (recalls.known known member).2) noCompletion).symm
  · rw [calls.knownEnds]
    exact fun known member => ⟨(recalls.known known member).1,
      fun open_ => (recalls.known known member).2 (alters.isOpen open_)⟩

theorem Complete.calls (complete : r.Complete localeCompare) (calls : r.Calls next call)
    (ordinary : call.isOrdinary = true)
    (noCompletion : ∀ turnId text, call.Completes turnId text → ¬ r.store.IsOpen turnId) :
    next.Complete localeCompare := by
  have alters := calls.alters ordinary
  constructor
  · rw [alters.length]
    exact complete.recalls.calls calls ordinary
      fun turnId _ open_ text completes => noCompletion turnId text completes open_
  · intro turnId text pending open_
    rcases calls.pendingEnd pending with before | new
    · exact complete.noCompletion turnId text before (alters.isOpen open_)
    · exact noCompletion turnId text new (alters.isOpen open_)

theorem Handles.calls (handles : r.Handles localeCompare) (calls : r.Calls next call)
    (ordinary : call.isOrdinary = true)
    (noCompletion : ∀ turnId, turnId < r.turnId → r.store.IsOpen turnId →
      ∀ text, ¬ call.Completes turnId text) : next.Handles localeCompare := by
  have alters := calls.alters ordinary
  refine ⟨?_, ?_, fun turn found => ?_⟩
  · rw [calls.turnId]
    exact handles.recalls.calls calls ordinary noCompletion
  · rw [alters.length, calls.turnId]
    exact handles.newest
  · rw [calls.turnId] at found
    obtain ⟨was, before, transcript, -⟩ := alters.turn found
    rw [transcript, calls.transcript]
    exact handles.spoken was before

theorem Ongoing.calls (ongoing : r.Ongoing localeCompare) (calls : r.Calls next call)
    (ordinary : call.isOrdinary = true)
    (noEnd : ∀ turnId status text, call = .endTurn turnId status text → ¬ r.store.IsOpen turnId) :
    next.Ongoing localeCompare := by
  have alters := calls.alters ordinary
  refine ⟨ongoing.handles.calls calls ordinary fun turnId _ open_ text completes =>
    noEnd turnId .completed text completes open_, ?_, fun turnId status text pending open_ => ?_, ?_⟩
  · rw [calls.turnId]
    rcases calls.store with same | committed
    · rw [same]
      exact ongoing.isOpen
    · rw [committed]
      exact TurnStore.isOpen_commit ordinary ongoing.isOpen
        fun status text ends => noEnd _ status text ends ongoing.isOpen
  · rcases calls.pendingEnd pending with before | new
    · exact ongoing.noEnd turnId status text before (alters.isOpen open_)
    · exact noEnd turnId status text new (alters.isOpen open_)
  · rw [calls.turnId, calls.lateStarted]
    exact ongoing.own

theorem Unsettled.calls (unsettled : r.Unsettled localeCompare) (calls : r.Calls next call)
    (ordinary : call.isOrdinary = true)
    (completions : ∀ turnId text, call.Completes turnId text → r.store.IsOpen turnId →
      turnId = r.turnId ∧ text = some r.finalText) : next.Unsettled localeCompare := by
  have alters := calls.alters ordinary
  refine ⟨unsettled.handles.calls calls ordinary fun turnId older open_ text completes => ?_,
    fun turn found completed => ?_, fun turnId text pending open_ => ?_⟩
  · exact absurd (completions turnId text completes open_).1 (Nat.ne_of_lt older)
  · rw [calls.turnId] at found
    rw [calls.finalText]
    obtain ⟨was, before, -, -⟩ := alters.turn found
    cases terminal : was.status.isTerminal with
    | true =>
      obtain rfl := Option.some.inj (found.symm.trans (alters.terminal _ was before terminal))
      exact unsettled.completed turn before completed
    | false =>
      obtain ⟨now, now_found, -, -, completes⟩ := alters.open_ _ was before terminal
      obtain rfl := Option.some.inj (found.symm.trans now_found)
      exact (completions _ _ (completes completed) ⟨was, before, terminal⟩).2
  · rw [calls.turnId, calls.finalText]
    rcases calls.pendingEnd pending with before | new
    · exact unsettled.completions turnId text before (alters.isOpen open_)
    · exact completions turnId text new (alters.isOpen open_)

/-- A start has committed, of this turn or one that was given up. -/
structure Starts (r next : Recollection) (transcript : Text) : Prop where
  admitted : r.store.mayStart = true
  store : next.store = r.store.startTurn transcript
  late : ∀ write ∈ next.lateWrites, ∃ was ∈ r.lateWrites, was.call = write.call
  lateStarted : ∀ turnId ∈ next.lateStarted, turnId ∈ r.lateStarted ∨ turnId = r.store.turns.length
  turnChain : next.turnChain = r.turnChain
  policyCalls : next.policyCalls = r.policyCalls
  knownEnds : next.knownEnds = r.knownEnds

variable {transcript : Text}

theorem Starts.turns (starts : r.Starts next transcript) :
    next.store.turns = r.store.turns ++ [⟨r.store.turnSequence + 1, transcript, .started, none⟩] := by
  rw [starts.store]
  rfl

theorem Starts.length (starts : r.Starts next transcript) :
    next.store.turns.length = r.store.turns.length + 1 := by
  rw [starts.turns, List.length_append]
  rfl

theorem Starts.isOpen (starts : r.Starts next transcript) {turnId : Nat}
    (open_ : next.store.IsOpen turnId) : turnId = r.store.turns.length := by
  obtain ⟨turn, found, notTerminal⟩ := open_
  rw [starts.store] at found
  exact (TurnStore.startTurn_open starts.admitted transcript found notTerminal).1

theorem Starts.pendingEnd (starts : r.Starts next transcript) {turnId : Nat} {status : TurnStatus}
    {outputText : Option Text} (pending : next.PendingEnd turnId status outputText) :
    r.PendingEnd turnId status outputText := by
  obtain ⟨write, member, call_eq⟩ := pending
  obtain ⟨was, before, same⟩ := starts.late write member
  exact ⟨was, before, same.trans call_eq⟩

theorem Kept.starts (kept : r.Kept) (starts : r.Starts next transcript) (spoken : transcript ≠ []) :
    next.Kept where
  transcripts turn member := by
    rw [starts.turns] at member
    rcases List.mem_append.mp member with before | new
    · exact kept.transcripts turn before
    · obtain rfl := List.mem_singleton.mp new
      exact spoken
  sequences := by
    rw [starts.turns, List.pairwise_append]
    refine ⟨kept.sequences, List.pairwise_singleton _ _, fun turn before new member => ?_⟩
    obtain rfl := List.mem_singleton.mp member
    exact Nat.lt_succ_of_le (kept.bounded turn before)
  bounded turn member := by
    have sequence : next.store.turnSequence = r.store.turnSequence + 1 := by
      rw [starts.store]
      rfl
    rw [starts.turns] at member
    rw [sequence]
    rcases List.mem_append.mp member with before | new
    · exact Nat.le_succ_of_le (kept.bounded turn before)
    · obtain rfl := List.mem_singleton.mp new
      exact Nat.le_refl _
  chain := by
    rw [starts.turnChain]
    exact kept.chain
  late write member := by
    obtain ⟨was, before, same⟩ := starts.late write member
    rw [← same]
    exact kept.late was before
  ends turnId status text pending := by
    rw [starts.length]
    exact Nat.lt_succ_of_lt (kept.ends turnId status text (starts.pendingEnd pending))
  lateStarted turnId member := by
    rw [starts.length]
    rcases starts.lateStarted turnId member with before | rfl
    · exact Nat.lt_succ_of_lt (kept.lateStarted turnId before)
    · exact Nat.lt_succ_self _

theorem Starts.remembered (starts : r.Starts next transcript) (knownEnds : List KnownEnd) :
    next.store.remembered knownEnds r.store.turns.length =
      r.store.remembered knownEnds r.store.turns.length := by
  refine List.filterMap_congr fun turnId member => ?_
  rw [starts.turns, List.getElem?_append_left (List.mem_range.mp member)]

theorem Recalls.starts (recalls : r.Recalls localeCompare r.store.turns.length)
    (starts : r.Starts next transcript) : next.Recalls localeCompare r.store.turns.length := by
  constructor
  · rw [starts.policyCalls, starts.knownEnds, starts.remembered]
    exact recalls.pairs
  · rw [starts.knownEnds]
    refine fun known member => ⟨(recalls.known known member).1, fun open_ => ?_⟩
    exact absurd (starts.isOpen open_) (Nat.ne_of_lt (recalls.known known member).1)

theorem Complete.starts (complete : r.Complete localeCompare) (kept : r.Kept)
    (starts : r.Starts next transcript) : next.Complete localeCompare := by
  have recalls := complete.recalls.starts starts
  refine ⟨⟨?_, fun known member => ?_⟩, fun turnId text pending open_ => ?_⟩
  · have unknown : (next.store.turns[r.store.turns.length]?).bind
        (Tvic.remembered next.knownEnds r.store.turns.length) = none := by
      rw [starts.turns, List.getElem?_concat_length, Option.bind_some]
      exact TurnStore.remembered_eq_none
        (fun known member => Nat.ne_of_lt (recalls.known known member).1) nofun
    rw [starts.length, TurnStore.remembered, List.range_succ, List.filterMap_append,
      List.filterMap_cons, unknown, List.filterMap_nil, List.append_nil]
    exact recalls.pairs
  · rw [starts.length]
    exact ⟨Nat.lt_succ_of_lt (recalls.known known member).1, (recalls.known known member).2⟩
  · exact absurd (starts.isOpen open_)
      (Nat.ne_of_lt (kept.ends turnId .completed text (starts.pendingEnd pending)))

theorem Complete.ongoing (complete : r.Complete localeCompare) (kept : r.Kept)
    (starts : r.Starts next transcript) (turnId : next.turnId = r.store.turns.length)
    (same : next.transcript = transcript) (own : next.lateStarted = r.lateStarted) :
    next.Ongoing localeCompare := by
  have new : next.store.turns[r.store.turns.length]? =
      some ⟨r.store.turnSequence + 1, transcript, .started, none⟩ := by
    rw [starts.turns, List.getElem?_concat_length]
  refine ⟨⟨?_, ?_, ?_⟩, ?_, fun other status text pending open_ => ?_, fun member => ?_⟩
  · rw [turnId]
    exact complete.recalls.starts starts
  · rw [turnId, starts.length]
  · intro turn found
    rw [turnId, new] at found
    obtain rfl := Option.some.inj found
    exact same.symm
  · rw [turnId]
    exact ⟨_, new, rfl⟩
  · exact absurd (starts.isOpen open_)
      (Nat.ne_of_lt (kept.ends other status text (starts.pendingEnd pending)))
  · rw [own, turnId] at member
    exact absurd rfl (Nat.ne_of_lt (kept.lateStarted _ member))

theorem Handles.knows (handles : r.Handles localeCompare) {known : KnownEnd} {turn : StoredTurn}
    (found : r.store.turns[r.turnId]? = some turn) (of : known.turnId = r.turnId)
    (store : next.store = r.store) (knownEnds : next.knownEnds = r.knownEnds ++ [known])
    (told : recordedPairs localeCompare next.policyCalls =
      recordedPairs localeCompare r.policyCalls ++ (remembered [known] r.turnId turn).toList)
    (closed : ∀ turnId, ¬ r.store.IsOpen turnId) : next.Complete localeCompare := by
  have before : ∀ turnId ∈ List.range r.turnId,
      (r.store.turns[turnId]?).bind (Tvic.remembered (r.knownEnds ++ [known]) turnId) =
        (r.store.turns[turnId]?).bind (Tvic.remembered r.knownEnds turnId) := by
    intro turnId member
    have other : ¬ known.turnId = turnId := by
      rw [of]
      exact Nat.ne_of_gt (List.mem_range.mp member)
    congr 1
    funext stored
    unfold Tvic.remembered
    split
    · rfl
    · rw [List.find?_append]
      simp [other]
    · rfl
  have now : Tvic.remembered (r.knownEnds ++ [known]) r.turnId turn =
      Tvic.remembered [known] r.turnId turn := by
    unfold Tvic.remembered
    split
    · rfl
    · have none_before : r.knownEnds.find? (fun known => known.turnId = r.turnId &&
          known.acknowledged && known.bargeIn) = none := by
        rw [List.find?_eq_none]
        intro earlier member
        simp [Nat.ne_of_lt (handles.recalls.known earlier member).1]
      rw [List.find?_append, none_before, Option.none_or]
    · rfl
  refine ⟨⟨?_, fun earlier member => ?_⟩, fun turnId text _ => ?_⟩
  · rw [told, handles.recalls.pairs, store, knownEnds, handles.newest, TurnStore.remembered,
      TurnStore.remembered, List.range_succ, List.filterMap_append, List.filterMap_congr before,
      List.filterMap_cons, found, Option.bind_some, now]
    cases Tvic.remembered [known] r.turnId turn <;> rfl
  · rw [store]
    refine ⟨?_, closed _⟩
    rw [handles.newest]
    rw [knownEnds] at member
    rcases List.mem_append.mp member with earlierMember | new
    · exact Nat.lt_succ_of_lt (handles.recalls.known earlier earlierMember).1
    · obtain rfl := List.mem_singleton.mp new
      rw [of]
      exact Nat.lt_succ_self _
  · rw [store]
    exact closed turnId

theorem Ongoing.complete (ongoing : r.Ongoing localeCompare) : r.Complete localeCompare := by
  obtain ⟨recalls, newest, -⟩ := ongoing.handles
  obtain ⟨turn, found, open_⟩ := ongoing.isOpen
  refine ⟨⟨?_, fun known member => ?_⟩, fun turnId text => ongoing.noEnd turnId .completed text⟩
  · have unknown : Tvic.remembered r.knownEnds r.turnId turn = none := by
      refine TurnStore.remembered_eq_none
        (fun known member => Nat.ne_of_lt (recalls.known known member).1) fun completed => ?_
      rw [completed] at open_
      cases open_
    rw [newest, TurnStore.remembered, List.range_succ, List.filterMap_append, List.filterMap_cons,
      found, Option.bind_some, unknown, List.filterMap_nil, List.append_nil]
    exact recalls.pairs
  · rw [newest]
    exact ⟨Nat.lt_succ_of_lt (recalls.known known member).1, (recalls.known known member).2⟩

theorem Ongoing.unsettled (ongoing : r.Ongoing localeCompare) : r.Unsettled localeCompare := by
  refine ⟨ongoing.handles, fun turn found completed => ?_, fun turnId text pending open_ => ?_⟩
  · obtain ⟨was, before, open_⟩ := ongoing.isOpen
    obtain rfl := Option.some.inj (found.symm.trans before)
    rw [completed] at open_
    cases open_
  · exact absurd open_ (ongoing.noEnd turnId .completed text pending)

theorem Complete.frame (complete : r.Complete localeCompare) (store : next.store = r.store)
    (lateWrites : next.lateWrites = r.lateWrites)
    (told : recordedPairs localeCompare next.policyCalls = recordedPairs localeCompare r.policyCalls)
    (knownEnds : next.knownEnds = r.knownEnds) : next.Complete localeCompare := by
  obtain ⟨⟨pairs, known⟩, noCompletion⟩ := complete
  refine ⟨⟨?_, ?_⟩, ?_⟩
  · rw [told, store, knownEnds]
    exact pairs
  · rw [store, knownEnds]
    exact known
  · rw [store]
    unfold PendingEnd
    rw [lateWrites]
    exact noCompletion

theorem Ongoing.frame (ongoing : r.Ongoing localeCompare) (store : next.store = r.store)
    (lateWrites : next.lateWrites = r.lateWrites) (lateStarted : next.lateStarted = r.lateStarted)
    (told : recordedPairs localeCompare next.policyCalls = recordedPairs localeCompare r.policyCalls)
    (knownEnds : next.knownEnds = r.knownEnds) (turnId : next.turnId = r.turnId)
    (transcript : next.transcript = r.transcript) : next.Ongoing localeCompare := by
  obtain ⟨⟨⟨pairs, known⟩, newest, spoken⟩, isOpen, noEnd, own⟩ := ongoing
  refine ⟨⟨⟨?_, ?_⟩, ?_, ?_⟩, ?_, ?_, ?_⟩
  · rw [told, store, knownEnds, turnId]
    exact pairs
  · rw [store, knownEnds, turnId]
    exact known
  · rw [store, turnId]
    exact newest
  · rw [store, turnId, transcript]
    exact spoken
  · rw [store, turnId]
    exact isOpen
  · rw [store]
    unfold PendingEnd
    rw [lateWrites]
    exact noEnd
  · rw [turnId, lateStarted]
    exact own

theorem Unsettled.frame (unsettled : r.Unsettled localeCompare) (store : next.store = r.store)
    (lateWrites : next.lateWrites = r.lateWrites)
    (told : recordedPairs localeCompare next.policyCalls = recordedPairs localeCompare r.policyCalls)
    (knownEnds : next.knownEnds = r.knownEnds) (turnId : next.turnId = r.turnId)
    (transcript : next.transcript = r.transcript) (finalText : next.finalText = r.finalText) :
    next.Unsettled localeCompare := by
  obtain ⟨⟨⟨pairs, known⟩, newest, spoken⟩, completed, completions⟩ := unsettled
  refine ⟨⟨⟨?_, ?_⟩, ?_, ?_⟩, ?_, ?_⟩
  · rw [told, store, knownEnds, turnId]
    exact pairs
  · rw [store, knownEnds, turnId]
    exact known
  · rw [store, turnId]
    exact newest
  · rw [store, turnId, transcript]
    exact spoken
  · rw [store, turnId, finalText]
    exact completed
  · rw [store, turnId, finalText]
    unfold PendingEnd
    rw [lateWrites]
    exact completions

end Recollection

theorem TurnStore.commit_endTurn {store : TurnStore} {turnId : Nat} (open_ : store.IsOpen turnId)
    (status : TurnStatus) (outputText : Option Text) {turn : StoredTurn}
    (found : (store.commit (.endTurn turnId status outputText)).turns[turnId]? = some turn) :
    turn.status = status := by
  obtain ⟨was, before, notTerminal⟩ := open_
  have notEnded : store.terminalStatus turnId = none := by
    rw [terminalStatus, before]
    exact if_neg (by simp [notTerminal])
  rw [commit, notEnded, if_neg (by simp), endTurn] at found
  change (store.changeOpen turnId _).turns[turnId]? = some turn at found
  rw [changeOpen_getElem?, before, Option.map_some, if_pos rfl, if_neg (by simp [notTerminal])] at found
  obtain rfl := Option.some.inj found
  rfl

theorem TurnStore.terminalStatus_eq_some {store : TurnStore} {turnId : Nat} {status : TurnStatus}
    (terminal : store.terminalStatus turnId = some status) :
    ∃ turn, store.turns[turnId]? = some turn ∧ turn.status = status ∧
      turn.status.isTerminal = true := by
  unfold terminalStatus at terminal
  split at terminal
  · next turn found =>
    split at terminal
    · next isTerminal => exact ⟨turn, found, Option.some.inj terminal, isTerminal⟩
    · cases terminal
  · cases terminal

theorem TurnStore.lateTurn_lt {store : TurnStore} {currentTurnId : Option Nat}
    {afterSequence turnId : Nat} (late : store.lateTurn currentTurnId afterSequence = some turnId) :
    turnId < store.turns.length := by
  unfold lateTurn at late
  split at late
  · next current =>
    split at late
    · next later =>
      obtain rfl := Option.some.inj late
      cases found : store.turns[current]? with
      | none =>
        rw [found] at later
        cases later
      | some turn => exact (List.getElem?_eq_some_iff.mp found).1
    · cases late
  · exact (List.findIdx?_eq_some_iff_getElem.mp late).1

end Tvic
