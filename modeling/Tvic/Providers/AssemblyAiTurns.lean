import Tvic.Lib.MapTotals
import Tvic.Lib.Run
import Tvic.Providers.TranscriptOutput

/-!
# The turns of an AssemblyAI stream

`#handleTurn`, `#handleClose` and the end of `#close` of `AssemblyAiSttStream`. The end of a turn may be
announced before its text is formatted; until the formatted text comes the turn is pending. A message
that ends a pending turn without saying whether it is formatted ends the turn, but leaves it pending.
-/
namespace Tvic

open Lib (Text utf8Bytes InsertionMap run Admitted)

structure AssemblyAiTurnMessage where
  /-- What the checks of the fields and of the words come to. -/
  wellFormed : Bool
  transcript : Text
  endOfTurn : Option Bool
  turnIsFormatted : Option Bool
  turnOrder : Option ℕ
  deriving DecidableEq, Repr

inductive AssemblyAiFailure where
  | malformedTurn
  | turnOrderRequired
  | pendingTurnsExceeded
  | missingFormattedTurns
  | eventQueueOverflow
  | socketClosed
  deriving DecidableEq, Repr

/-- The transcript events, with the turn in their metadata. -/
inductive AssemblyAiEvent where
  | partialText (turnOrder : Option ℕ) (text : Text)
  | final (turnOrder : Option ℕ) (text : Text)
  | endpoint (turnOrder : Option ℕ)
  deriving DecidableEq, Repr

def assemblyAiMaxPendingTurns : ℕ := 64

def assemblyAiMaxPendingTurnBytes : ℕ := 64 * 1024

structure AssemblyAiSttStream where
  formatTurns : Bool
  interimResults : Bool
  output : TranscriptOutput AssemblyAiEvent := {}
  closed : Bool := false
  closing : Bool := false
  terminated : Bool := false
  lastError : Option AssemblyAiFailure := none
  finalizedTurns : List ℕ := []
  pendingUnformattedTurns : InsertionMap ℕ ℕ := []
  pendingUnformattedBytes : ℕ := 0
  deriving DecidableEq

namespace AssemblyAiSttStream

variable (s : AssemblyAiSttStream)

def fail (error : AssemblyAiFailure) : AssemblyAiSttStream :=
  if s.closed then s else { s with closed := true, lastError := some error }

/-- The end of a turn with unformatted text. -/
def awaitFormatted (turnOrder : Option ℕ) (text : Text) : AssemblyAiSttStream :=
  match turnOrder with
  | none => s.fail .turnOrderRequired
  | some order =>
    if s.pendingUnformattedTurns.has order then s
    else if assemblyAiMaxPendingTurns ≤ s.pendingUnformattedTurns.length ∨
        assemblyAiMaxPendingTurnBytes < s.pendingUnformattedBytes + utf8Bytes text then
      s.fail .pendingTurnsExceeded
    else
      { s with
        pendingUnformattedTurns := s.pendingUnformattedTurns.set order (utf8Bytes text)
        pendingUnformattedBytes := s.pendingUnformattedBytes + utf8Bytes text }

/-- `#finalizedTurns.add`, and the turn is not pending any more if it was with so many bytes. -/
def settleTurn (turnOrder pendingBytes : Option ℕ) : AssemblyAiSttStream :=
  match turnOrder with
  | none => s
  | some order =>
    let s := { s with finalizedTurns := s.finalizedTurns ++ [order] }
    match pendingBytes with
    | none => s
    | some bytes =>
      { s with
        pendingUnformattedTurns := s.pendingUnformattedTurns.delete order
        pendingUnformattedBytes := s.pendingUnformattedBytes - bytes }

def finalizeTurn (message : AssemblyAiTurnMessage) (text : Text) : AssemblyAiSttStream :=
  let pendingBytes :=
    if s.formatTurns ∧ message.turnIsFormatted = some true then
      message.turnOrder.bind s.pendingUnformattedTurns.get
    else none
  match if text = [] then some s.output else s.output.push (.final message.turnOrder text) with
  | none => s.fail .eventQueueOverflow
  | some output =>
    match output.push (.endpoint message.turnOrder) with
    | none => { s with output }.fail .eventQueueOverflow
    | some output => { s with output }.settleTurn message.turnOrder pendingBytes

def handleTurn (message : AssemblyAiTurnMessage) : AssemblyAiSttStream :=
  let text := trimText message.transcript
  if message.wellFormed = false then s.fail .malformedTurn
  else if message.endOfTurn ≠ some true then
    if text ≠ [] ∧ s.interimResults then
      match s.output.push (.partialText message.turnOrder text) with
      | none => s.fail .eventQueueOverflow
      | some output => { s with output }
    else s
  else if message.turnOrder.any (· ∈ s.finalizedTurns) then s
  else if s.formatTurns ∧ message.turnIsFormatted = some false then
    s.awaitFormatted message.turnOrder text
  else s.finalizeTurn message text

def handleClose : AssemblyAiSttStream :=
  if s.closing || s.closed then s
  else if 0 < s.pendingUnformattedTurns.length then s.fail .missingFormattedTurns
  else if s.terminated then { s with closed := true }
  else s.fail .socketClosed

/-- `#close`, once it has waited for the provider to terminate. -/
def finishClose : AssemblyAiSttStream :=
  let s := if 0 < s.pendingUnformattedTurns.length then s.fail .missingFormattedTurns else s
  { s with closed := true }

inductive Input where
  | turn (message : AssemblyAiTurnMessage)
  | termination
  | socketClosed
  /-- A call of `close`, and its end. -/
  | close
  | closeFinishes
  | read

def step : Input → AssemblyAiSttStream
  | .turn message => if s.closed then s else s.handleTurn message
  | .termination => if s.closed then s else { s with terminated := true }
  | .socketClosed => s.handleClose
  | .close => if s.closed then s else { s with closing := true }
  | .closeFinishes => if s.closing then s.finishClose else s
  | .read => { s with output := s.output.readNext }

/-! ## What is said of a turn -/

inductive TurnMark where
  | final
  | endpoint
  deriving DecidableEq, Repr

/-- What an event says of a turn, other than an interim text. -/
def markOf (order : ℕ) : AssemblyAiEvent → Option TurnMark
  | .final (some other) _ => if other = order then some .final else none
  | .endpoint (some other) => if other = order then some .endpoint else none
  | _ => none

def marks (order : ℕ) : List TurnMark := s.output.events.filterMap (markOf order)

def endAnnounced (inputs : List Input) (order : ℕ) : Prop :=
  ∃ message, .turn message ∈ inputs ∧ message.endOfTurn = some true ∧ message.turnOrder = some order

/-- The message ends a pending turn without saying whether its text is formatted. -/
def leavesPending : Input → Bool
  | .turn message => s.formatTurns && message.endOfTurn == some true &&
      message.turnIsFormatted == none && message.turnOrder.any s.pendingUnformattedTurns.has
  | _ => false

/-! ## The invariant -/

/-- Ended turns have their endpoint and are not pending; the others have at most a text, and that only
when the stream has failed on the endpoint. -/
structure Orderly (announced : ℕ → Prop) : Prop where
  unique : s.pendingUnformattedTurns.keys.Nodup
  formats : s.pendingUnformattedTurns.keys ≠ [] → s.formatTurns = true
  counted : s.pendingUnformattedBytes = s.pendingUnformattedTurns.total id
  apart : ∀ order ∈ s.finalizedTurns, order ∉ s.pendingUnformattedTurns.keys
  ended : ∀ order ∈ s.finalizedTurns, s.marks order = [.endpoint] ∨ s.marks order = [.final, .endpoint]
  unended : ∀ order ∉ s.finalizedTurns, s.marks order = [] ∨ s.closed = true ∧ s.marks order = [.final]
  known : s.closed = false → ∀ order,
    announced order ↔ order ∈ s.finalizedTurns ∨ order ∈ s.pendingUnformattedTurns.keys
  unfailed : s.closed = false → s.lastError = none

variable {s} {announced announced' : ℕ → Prop}

theorem Orderly.fail (orderly : s.Orderly announced) (error : AssemblyAiFailure) :
    (s.fail error).Orderly announced' := by
  cases closed : s.closed with
  | true =>
    rw [AssemblyAiSttStream.fail, if_pos closed]
    exact { orderly with known := by simp [closed], unfailed := by simp [closed] }
  | false =>
    rw [AssemblyAiSttStream.fail, if_neg (by simp [closed])]
    refine { orderly with unended := fun order new => ?_, known := by simp, unfailed := by simp }
    exact (orderly.unended order new).imp_right fun ended => ⟨rfl, ended.2⟩

theorem Orderly.congr (orderly : s.Orderly announced) (same : ∀ order, announced order ↔ announced' order) :
    s.Orderly announced' :=
  { orderly with known := fun opened order => (same order).symm.trans (orderly.known opened order) }

/-- An event that says nothing of a turn. -/
theorem Orderly.emit (orderly : s.Orderly announced) {output : TranscriptOutput AssemblyAiEvent}
    (same : ∀ order, { s with output }.marks order = s.marks order) :
    { s with output }.Orderly announced :=
  { orderly with
    ended := fun order => same order ▸ orderly.ended order
    unended := fun order => same order ▸ orderly.unended order }

theorem Orderly.awaitFormatted (orderly : s.Orderly announced) (formats : s.formatTurns = true)
    {turnOrder : Option ℕ}
    (fresh : turnOrder.any (· ∈ s.finalizedTurns) = false) (text : Text) :
    (s.awaitFormatted turnOrder text).Orderly
      fun order => announced order ∨ turnOrder = some order := by
  cases turnOrder with
  | none => exact orderly.fail _
  | some order =>
    have fresh : order ∉ s.finalizedTurns := by simpa using fresh
    rw [AssemblyAiSttStream.awaitFormatted]
    split_ifs with held
    · -- announced once more
      have pending := InsertionMap.has_eq_true.mp held
      refine { orderly with known := fun opened other => ?_ }
      rw [orderly.known opened, Option.some_inj]
      constructor
      · rintro (known | rfl)
        · exact known
        · exact .inr pending
      · exact .inl
    · exact orderly.fail _
    · have keys (other : ℕ) : other ∈ (s.pendingUnformattedTurns.set order (utf8Bytes text)).keys ↔
          other ∈ s.pendingUnformattedTurns.keys ∨ order = other := by
        rw [InsertionMap.set, if_neg held]
        simp [InsertionMap.keys, eq_comm]
      refine
        { orderly with
          unique := InsertionMap.keys_set_nodup orderly.unique _ _
          formats := fun _ => formats
          counted := ?_
          apart := fun other final => ?_
          known := fun opened other => ?_ }
      · rw [orderly.counted, InsertionMap.set, if_neg held]
        simp
      · rw [keys]
        rintro (pending | rfl)
        · exact orderly.apart other final pending
        · exact fresh final
      · rw [orderly.known opened, keys, Option.some_inj, or_assoc]

theorem finalizeTurn_cases (s : AssemblyAiSttStream) (message : AssemblyAiTurnMessage) (text : Text) :
    let spoken := if text = [] then [] else [AssemblyAiEvent.final message.turnOrder text]
    s.finalizeTurn message text = s.fail .eventQueueOverflow ∨
      ∃ output : TranscriptOutput AssemblyAiEvent,
        (output.events = s.output.events ++ spoken ∧
          s.finalizeTurn message text = { s with output }.fail .eventQueueOverflow) ∨
        (output.events = s.output.events ++ (spoken ++ [.endpoint message.turnOrder]) ∧
          s.finalizeTurn message text = { s with output }.settleTurn message.turnOrder
            (if s.formatTurns ∧ message.turnIsFormatted = some true then
              message.turnOrder.bind s.pendingUnformattedTurns.get else none)) := by
  intro spoken
  rw [finalizeTurn]
  have spoke : ∀ output, (if text = [] then some s.output
      else s.output.push (.final message.turnOrder text)) = some output →
      output.events = s.output.events ++ spoken := by
    intro output pushed
    by_cases empty : text = []
    · rw [if_pos empty] at pushed
      obtain rfl := Option.some.inj pushed
      simp [spoken, empty]
    · rw [if_neg empty] at pushed
      rw [TranscriptOutput.events_push pushed]
      simp [spoken, empty]
  cases first : (if text = [] then some s.output
      else s.output.push (.final message.turnOrder text)) with
  | none => exact .inl rfl
  | some output =>
    dsimp only
    cases second : output.push (.endpoint message.turnOrder) with
    | none => exact .inr ⟨output, .inl ⟨spoke output first, rfl⟩⟩
    | some ended =>
      refine .inr ⟨ended, .inr ⟨?_, rfl⟩⟩
      rw [TranscriptOutput.events_push second, spoke output first, List.append_assoc]

theorem Orderly.settle (orderly : s.Orderly announced) {order : ℕ}
    (fresh : order ∉ s.finalizedTurns) {output : TranscriptOutput AssemblyAiEvent}
    (ends : { s with output }.marks order = [.endpoint] ∨
      { s with output }.marks order = [.final, .endpoint])
    (same : ∀ other, other ≠ order → { s with output }.marks other = s.marks other)
    {pendingBytes : Option ℕ} (held : s.pendingUnformattedTurns.get order = pendingBytes) :
    ({ s with output }.settleTurn (some order) pendingBytes).Orderly
      fun other => announced other ∨ some order = some other := by
  -- what the turns left pending have in common with those before
  have removed : ∃ pending bytes,
      { s with output }.settleTurn (some order) pendingBytes =
        { s with
          output, finalizedTurns := s.finalizedTurns ++ [order]
          pendingUnformattedTurns := pending, pendingUnformattedBytes := bytes } ∧
      pending.keys.Nodup ∧ bytes = pending.total id ∧
      ∀ other, other ∈ pending.keys ↔ other ∈ s.pendingUnformattedTurns.keys ∧ other ≠ order := by
    cases pendingBytes with
    | none =>
      refine ⟨_, _, rfl, orderly.unique, orderly.counted, fun other => ?_⟩
      have absent := InsertionMap.get_eq_none.mp held
      refine (and_iff_left_of_imp ?_).symm
      rintro pending rfl
      exact absent pending
    | some bytes =>
      have total := InsertionMap.total_delete id orderly.unique held
      refine ⟨s.pendingUnformattedTurns.delete order, s.pendingUnformattedBytes - bytes, rfl,
        InsertionMap.keys_delete_nodup orderly.unique order, ?_, fun other => ?_⟩
      · rw [orderly.counted]
        exact Nat.sub_eq_of_eq_add total.symm
      · simp only [InsertionMap.keys, List.mem_map, InsertionMap.mem_delete]
        constructor
        · rintro ⟨entry, ⟨member, ne⟩, rfl⟩
          exact ⟨⟨entry, member, rfl⟩, ne⟩
        · rintro ⟨⟨entry, member, rfl⟩, ne⟩
          exact ⟨entry, ⟨member, ne⟩, rfl⟩
  obtain ⟨pending, bytes, settled, unique, counted, keys⟩ := removed
  rw [settled]
  refine
    { unique, counted
      formats := fun some => orderly.formats fun none => some ?_
      apart := fun other final pending => ?_
      ended := fun other final => ?_
      unended := fun other new => ?_
      known := fun opened other => ?_
      unfailed := orderly.unfailed }
  · refine List.eq_nil_iff_forall_not_mem.mpr fun other member => ?_
    have := ((keys other).mp member).1
    simp [none] at this
  · obtain ⟨before, ne⟩ := (keys other).mp pending
    rcases List.mem_append.mp final with final | last
    · exact orderly.apart other final before
    · exact ne (List.mem_singleton.mp last)
  · by_cases own : other = order
    · subst own
      exact ends
    · have final : other ∈ s.finalizedTurns := by simpa [own] using final
      show { s with output }.marks other = _ ∨ { s with output }.marks other = _
      rw [same other own]
      exact orderly.ended other final
  · have new : other ∉ s.finalizedTurns ∧ other ≠ order := by simpa using new
    show { s with output }.marks other = _ ∨ s.closed = true ∧ { s with output }.marks other = _
    rw [same other new.2]
    exact orderly.unended other new.1
  · rw [orderly.known opened, keys, List.mem_append, List.mem_singleton, Option.some_inj]
    by_cases own : other = order
    · simp [own]
    · simp [own, Ne.symm own]

theorem marks_of_events {output : TranscriptOutput AssemblyAiEvent} {extra : List AssemblyAiEvent}
    (emitted : output.events = s.output.events ++ extra) (order : ℕ) :
    { s with output }.marks order = s.marks order ++ extra.filterMap (markOf order) := by
  rw [marks, marks, ← List.filterMap_append, ← emitted]

theorem spoken_marks (turnOrder : Option ℕ) (text : Text) (order : ℕ) :
    (if text = [] then [] else [AssemblyAiEvent.final turnOrder text]).filterMap (markOf order) =
      if text ≠ [] ∧ turnOrder = some order then [.final] else [] := by
  by_cases empty : text = []
  · simp [empty]
  · cases turnOrder with
    | none => simp [empty, markOf]
    | some other => by_cases own : other = order <;> simp [empty, markOf, own]

theorem markOf_endpoint (turnOrder : Option ℕ) (order : ℕ) :
    markOf order (.endpoint turnOrder) = if turnOrder = some order then some .endpoint else none := by
  cases turnOrder with
  | none => simp [markOf]
  | some other => by_cases own : other = order <;> simp [markOf, own]

theorem Orderly.finalizeTurn (orderly : s.Orderly announced) {message : AssemblyAiTurnMessage}
    (opened : s.closed = false) (fresh : message.turnOrder.any (· ∈ s.finalizedTurns) = false)
    (formatted : ¬(s.formatTurns = true ∧ message.turnIsFormatted = some false))
    (ended : message.endOfTurn = some true) (clean : s.leavesPending (.turn message) = false) (text : Text) :
    (s.finalizeTurn message text).Orderly
      fun order => announced order ∨ message.turnOrder = some order := by
  have new {order : ℕ} (named : message.turnOrder = some order) : order ∉ s.finalizedTurns := by
    simpa [named] using fresh
  have silent {order : ℕ} (new : order ∉ s.finalizedTurns) : s.marks order = [] := by
    simpa [opened] using orderly.unended order new
  rcases finalizeTurn_cases s message text with same | ⟨output, ⟨emitted, same⟩ | ⟨emitted, same⟩⟩ <;>
    rw [same]
  · exact orderly.fail _
  · -- the endpoint is refused, maybe after the text was taken
    have marked (order : ℕ) := marks_of_events emitted order
    simp only [spoken_marks] at marked
    rw [AssemblyAiSttStream.fail, if_neg (by simp [opened])]
    refine
      { orderly with
        ended := fun order final => ?_
        unended := fun order other => ?_
        known := by simp
        unfailed := by simp }
    · have other : ¬(text ≠ [] ∧ message.turnOrder = some order) := fun own => new own.2 final
      have kept := marked order
      rw [if_neg other, List.append_nil] at kept
      show { s with output }.marks order = _ ∨ { s with output }.marks order = _
      rw [kept]
      exact orderly.ended order final
    · show { s with output }.marks order = [] ∨ true = true ∧ { s with output }.marks order = [.final]
      rw [marked order, silent other]
      split_ifs
      · exact .inr ⟨rfl, rfl⟩
      · exact .inl rfl
  · have marked (order : ℕ) := marks_of_events emitted order
    simp only [List.filterMap_append, spoken_marks, List.filterMap_cons, markOf_endpoint,
      List.filterMap_nil] at marked
    cases named : message.turnOrder with
    | none =>
      have same (order : ℕ) : { s with output }.marks order = s.marks order := by
        rw [marked order]
        simp [named]
      simpa [settleTurn] using orderly.emit same
    | some order =>
      refine orderly.settle (new named) ?_ (fun other ne => ?_) ?_
      · rw [marked order, silent (new named)]
        by_cases empty : text = [] <;> simp [empty, named]
      · rw [marked other]
        simp [named, Ne.symm ne]
      · -- a turn whose text is formatted is deleted; any other was not pending
        split_ifs with deletes
        · rfl
        · rw [InsertionMap.get_eq_none]
          intro pending
          have formats := orderly.formats (List.ne_nil_of_mem pending)
          cases stated : message.turnIsFormatted with
          | none =>
            have left := InsertionMap.has_eq_true.mpr pending
            simp [leavesPending, formats, ended, stated, named, left] at clean
          | some value =>
            cases value with
            | true => exact deletes ⟨formats, stated⟩
            | false => exact formatted ⟨formats, stated⟩

theorem Orderly.handleTurn (orderly : s.Orderly announced) (opened : s.closed = false)
    {message : AssemblyAiTurnMessage} (clean : s.leavesPending (.turn message) = false) :
    (s.handleTurn message).Orderly fun order => announced order ∨
      message.endOfTurn = some true ∧ message.turnOrder = some order := by
  rw [AssemblyAiSttStream.handleTurn]
  have interim (goesOn : message.endOfTurn ≠ some true) (order : ℕ) : announced order ↔
      announced order ∨ message.endOfTurn = some true ∧ message.turnOrder = some order :=
    (or_iff_left fun ends => goesOn ends.1).symm
  split_ifs with malformed goesOn shown final unformatted
  · exact orderly.fail _
  · refine Orderly.congr ?_ (interim goesOn)
    cases pushed : s.output.push (.partialText message.turnOrder (trimText message.transcript)) with
    | none => exact orderly.fail _
    | some output =>
      refine orderly.emit fun order => ?_
      rw [marks_of_events (TranscriptOutput.events_push pushed)]
      simp [markOf]
  · exact orderly.congr (interim goesOn)
  · -- a turn that has ended before
    refine orderly.congr fun order => (or_iff_left_of_imp fun ends => ?_).symm
    rw [orderly.known opened]
    exact .inl (by simpa [ends.2] using final)
  all_goals
    have ended : message.endOfTurn = some true := not_not.mp goesOn
    have fresh : message.turnOrder.any (· ∈ s.finalizedTurns) = false := by simpa using final
    simp only [ended, true_and]
  · exact orderly.awaitFormatted unformatted.1 fresh _
  · exact orderly.finalizeTurn opened fresh unformatted ended clean _

theorem Orderly.closes (orderly : s.Orderly announced) :
    { s with closed := true }.Orderly announced' :=
  { orderly with
    unended := fun order new => (orderly.unended order new).imp_right fun ended => ⟨rfl, ended.2⟩
    known := by simp
    unfailed := by simp }

/-! ## Runs -/

theorem Orderly.step (orderly : s.Orderly announced) {input : Input} (clean : s.leavesPending input = false) :
    (s.step input).Orderly fun order => announced order ∨ endAnnounced [input] order := by
  have other (others : ∀ message, input ≠ .turn message) (order : ℕ) :
      announced order ↔ announced order ∨ endAnnounced [input] order := by
    refine (or_iff_left ?_).symm
    rintro ⟨message, member, -⟩
    exact others message (List.mem_singleton.mp member).symm
  cases input with
  | turn message =>
    cases closed : s.closed with
    | true =>
      rw [AssemblyAiSttStream.step, if_pos closed]
      exact { orderly with known := by simp [closed] }
    | false =>
      rw [AssemblyAiSttStream.step, if_neg (by simp [closed])]
      refine (orderly.handleTurn closed clean).congr fun order => or_congr_right ?_
      simp [endAnnounced]
  | termination =>
    rw [AssemblyAiSttStream.step]
    refine Orderly.congr ?_ (other nofun)
    split_ifs
    · exact orderly
    · exact { orderly with }
  | socketClosed =>
    rw [AssemblyAiSttStream.step, AssemblyAiSttStream.handleClose]
    split_ifs
    · exact orderly.congr (other nofun)
    · exact orderly.fail _
    · exact { orderly.closes with }
    · exact orderly.fail _
  | close =>
    rw [AssemblyAiSttStream.step]
    refine Orderly.congr ?_ (other nofun)
    split_ifs
    · exact orderly
    · exact { orderly with }
  | closeFinishes =>
    rw [AssemblyAiSttStream.step, AssemblyAiSttStream.finishClose]
    split_ifs
    · exact (@Orderly.fail _ announced announced orderly _).closes
    · exact orderly.closes
    · exact orderly.congr (other nofun)
  | read =>
    refine Orderly.congr ?_ (other nofun)
    exact orderly.emit fun order => rfl

/-- A stream before its first message. -/
def opened (formatTurns interimResults : Bool) : AssemblyAiSttStream := { formatTurns, interimResults }

theorem orderly_opened (formatTurns interimResults : Bool) :
    (opened formatTurns interimResults).Orderly fun _ => False where
  unique := List.nodup_nil
  formats := fun some => absurd rfl some
  counted := rfl
  apart := by simp [opened]
  ended := by simp [opened]
  unended := fun _ _ => .inl rfl
  known := by simp [opened, InsertionMap.keys]
  unfailed := fun _ => rfl

/-- No message leaves a turn pending that it ends. -/
def Clean (inputs : List Input) : Prop :=
  Admitted (fun s input => s.leavesPending input = false) step s inputs

theorem Orderly.after (orderly : s.Orderly announced) {inputs : List Input} (clean : s.Clean inputs) :
    (run AssemblyAiSttStream.step s inputs).Orderly fun order => announced order ∨ endAnnounced inputs order := by
  induction inputs generalizing s announced with
  | nil => exact orderly.congr fun order => by simp [endAnnounced]
  | cons input inputs ih =>
    refine (ih (orderly.step clean.1) clean.2).congr fun order => ?_
    simp only [endAnnounced, List.mem_cons, List.not_mem_nil, or_false, or_and_right, exists_or, or_assoc]

theorem Orderly.endpoint_mem_iff (orderly : s.Orderly announced) (order : ℕ) :
    .endpoint ∈ s.marks order ↔ order ∈ s.finalizedTurns := by
  by_cases final : order ∈ s.finalizedTurns
  · rcases orderly.ended order final with marks | marks <;> simp [marks, final]
  · rcases orderly.unended order final with marks | ⟨-, marks⟩ <;> simp [marks, final]

/-- **Turns are finalized once and in order.** In every run in which no message leaves a turn pending that
it ends, a turn has at most one endpoint, after at most one text; no turn that has its endpoint is
pending; the counter is the size of what is pending; and the end of the stream is no error for missing
turns just if every turn whose end was announced has its endpoint. -/
theorem turns_finalized (formatTurns interimResults : Bool) (inputs : List Input)
    (clean : (opened formatTurns interimResults).Clean inputs) :
    let s := run step (opened formatTurns interimResults) inputs
    (∀ order, s.marks order ∈ [[], [.final], [.endpoint], [.final, .endpoint]]) ∧
      (∀ order, .endpoint ∈ s.marks order → s.pendingUnformattedTurns.has order = false) ∧
      s.pendingUnformattedBytes = s.pendingUnformattedTurns.total id ∧
      (s.closed = false → s.terminated = true →
        let emitted := ∀ order, endAnnounced inputs order → .endpoint ∈ s.marks order
        (s.closing = false → (s.handleClose.lastError ≠ some .missingFormattedTurns ↔ emitted)) ∧
        (s.finishClose.lastError ≠ some .missingFormattedTurns ↔ emitted)) := by
  intro s
  have orderly : s.Orderly (endAnnounced inputs) :=
    ((orderly_opened formatTurns interimResults).after clean).congr fun order => by simp
  refine ⟨fun order => ?_, fun order final => ?_, orderly.counted, fun opened terminated => ?_⟩
  · by_cases final : order ∈ s.finalizedTurns
    · rcases orderly.ended order final with marks | marks <;> simp [marks]
    · rcases orderly.unended order final with marks | ⟨-, marks⟩ <;> simp [marks]
  · rw [orderly.endpoint_mem_iff] at final
    exact Bool.not_eq_true _ ▸ fun pending => orderly.apart order final (InsertionMap.has_eq_true.mp pending)
  · intro emitted
    -- nothing is pending just if every announced end has come
    have drained : ¬0 < s.pendingUnformattedTurns.length ↔ emitted := by
      simp only [emitted, orderly.endpoint_mem_iff, orderly.known opened]
      constructor
      · intro empty order known
        have none : s.pendingUnformattedTurns = [] := by simpa using empty
        simpa [none, InsertionMap.keys] using known
      · intro finalized pending
        obtain ⟨entry, member⟩ := List.exists_mem_of_length_pos pending
        have key : entry.1 ∈ s.pendingUnformattedTurns.keys := List.mem_map_of_mem member
        exact orderly.apart _ (finalized _ (.inr key)) key
    constructor
    · intro staying
      rw [← drained, handleClose, if_neg (by simp [staying, opened]), if_pos terminated]
      split_ifs with pending
      · simp [pending, AssemblyAiSttStream.fail, opened]
      · simp [pending, orderly.unfailed opened]
    · rw [← drained, finishClose]
      split_ifs with pending
      · simp [pending, AssemblyAiSttStream.fail, opened]
      · simp [pending, orderly.unfailed opened]

/-- The messages that end turn `0`, announced unformatted, with this word on its format. -/
def endsOfTurn (turnIsFormatted : Option Bool) : List Input :=
  let message : AssemblyAiTurnMessage := ⟨true, [104], some true, some false, some 0⟩
  [.turn message, .turn { message with turnIsFormatted }, .termination]

theorem turns_finalized_formatted :
    (run step (opened true false) (endsOfTurn (some true))).handleClose.lastError ≠
      some .missingFormattedTurns := by
  have finalized := turns_finalized true false (endsOfTurn (some true)) ⟨by decide, by decide, by decide, trivial⟩
  refine ((finalized.2.2.2 (by decide) (by decide)).1 (by decide)).mpr ?_
  rintro order ⟨message, member, -, named⟩
  simp only [endsOfTurn, List.mem_cons, List.not_mem_nil, or_false, Input.turn.injEq, reduceCtorEq] at member
  rcases member with rfl | rfl <;> obtain rfl := Option.some.inj named <;> decide

/-- Without a word on its format the turn is ended and left pending, and the stream ends with an error. -/
theorem unmarkedTurn_leftPending :
    let s := run step (opened true false) (endsOfTurn none)
    .endpoint ∈ s.marks 0 ∧ s.pendingUnformattedTurns.has 0 = true ∧
      s.handleClose.lastError = some .missingFormattedTurns ∧
      ∀ order, endAnnounced (endsOfTurn none) order → .endpoint ∈ s.marks order := by
  refine ⟨by decide, by decide, by decide, ?_⟩
  rintro order ⟨message, member, -, named⟩
  simp only [endsOfTurn, List.mem_cons, List.not_mem_nil, or_false, Input.turn.injEq, reduceCtorEq] at member
  rcases member with rfl | rfl <;> obtain rfl := Option.some.inj named <;> decide

end AssemblyAiSttStream

end Tvic
