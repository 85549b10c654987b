import Tvic.Lib.Overlap
import Tvic.Lib.Run
import Tvic.Lib.Text

/-!
# What of a turn has been spoken

`appendAlignedTokens` of `packages/runtime/src/turn-alignment.ts`. Words of an alignment event are joined to
those that are there where the two overlap; characters are told apart by the times they start at. Nothing
is changed before every limit has been checked.
-/
namespace Tvic

open Lib (Text utf8Bytes overlap joinOverlapping Overlaps)

inductive TtsAlignmentUnit where
  | character
  | word
  deriving DecidableEq, Repr

structure RuntimeResourceLimit where
  resource : String
  unit : String
  limit : Nat
  deriving DecidableEq, Repr

def maxRuntimeTtsAlignmentTokens : Nat := 16384

def maxRuntimeTtsAlignmentTokenBytes : Nat := 1024 * 1024

def maxRuntimeTtsAlignmentArrayEntries : Nat := 16384

section

variable {ν : Type} [DecidableEq ν]

/-- One round of `forEach`: the starts seen in the event and the additions so far. -/
def addCharacterToken (startMs alignedCharacterStarts : List ν) (soFar : List ν × List Text)
    (entry : Text × Nat) : List ν × List Text :=
  match startMs[entry.2]? with
  | some start =>
    if start ∈ alignedCharacterStarts ∨ start ∈ soFar.1 then soFar
    else (soFar.1 ++ [start], soFar.2 ++ [entry.1])
  | none => (soFar.1, soFar.2 ++ [entry.1])

/-- The words at the end of the target are the first that come in. -/
def wordsMatch (target incoming : List Text) (count : Nat) : Bool :=
  (List.range count).all fun index => target[target.length - count + index]? = incoming[index]?

/-- The loop that looks for the overlap, downwards. -/
def wordOverlap (target incoming : List Text) : Nat → Nat
  | 0 => 0
  | count + 1 => if wordsMatch target incoming (count + 1) then count + 1 else wordOverlap target incoming count

def alignedAdditions (target incoming : List Text) (startMs alignedCharacterStarts : List ν) :
    TtsAlignmentUnit → List ν × List Text
  | .character =>
    let (startsSeenInEvent, additions) :=
      incoming.zipIdx.foldl (addCharacterToken startMs alignedCharacterStarts) ([], [])
    (startsSeenInEvent.filter fun start => start ∉ alignedCharacterStarts, additions)
  | .word => ([], incoming.drop (wordOverlap target incoming (min target.length incoming.length)))

/-- The loop that counts the bytes of the additions, of which there are so many. -/
def countAddedBytes (tokens currentBytes : Nat) (addedBytes : Nat) :
    List Text → Except RuntimeResourceLimit Nat
  | [] => .ok addedBytes
  | token :: rest =>
    let addedBytes := addedBytes + utf8Bytes token
    if maxRuntimeTtsAlignmentTokens < tokens ∨ maxRuntimeTtsAlignmentTokenBytes < currentBytes + addedBytes then
      .error ⟨"TTS alignment tokens", "bytes", maxRuntimeTtsAlignmentTokenBytes⟩
    else countAddedBytes tokens currentBytes addedBytes rest

/-- The target and the starts as the call leaves them, and what it returns. -/
def appendAlignedTokens (target incoming : List Text) (unit : TtsAlignmentUnit)
    (startMs alignedCharacterStarts : List ν) (currentBytes : Nat) :
    (List Text × List ν) × Except RuntimeResourceLimit Nat :=
  if maxRuntimeTtsAlignmentArrayEntries < incoming.length ∨
      maxRuntimeTtsAlignmentArrayEntries < startMs.length then
    ((target, alignedCharacterStarts),
      .error ⟨"TTS alignment event", "events", maxRuntimeTtsAlignmentArrayEntries⟩)
  else if maxRuntimeTtsAlignmentTokens < target.length ∨
      maxRuntimeTtsAlignmentTokenBytes < currentBytes then
    ((target, alignedCharacterStarts),
      .error ⟨"TTS alignment tokens", "events", maxRuntimeTtsAlignmentTokens⟩)
  else
    let (startsToAdd, additions) := alignedAdditions target incoming startMs alignedCharacterStarts unit
    match countAddedBytes (additions.length + target.length) currentBytes 0 additions with
    | .error error => ((target, alignedCharacterStarts), .error error)
    | .ok addedBytes =>
      ((target ++ additions, alignedCharacterStarts ++ startsToAdd), .ok (currentBytes + addedBytes))

end

/-- An alignment event, as far as its tokens are appended. -/
structure AlignmentEvent (ν : Type) where
  tokens : List Text
  unit : TtsAlignmentUnit
  startMs : List ν
  deriving DecidableEq, Repr

/-- What a turn keeps of the events: the tokens, the character starts, and the byte count returned last. -/
structure AlignedTurn (ν : Type) where
  alignedTokens : List Text := []
  alignedCharacterStarts : List ν := []
  alignedTokenBytes : Nat := 0
  deriving DecidableEq, Repr

namespace AlignedTurn

variable {ν : Type} [DecidableEq ν]

def append (turn : AlignedTurn ν) (event : AlignmentEvent ν) :
    (List Text × List ν) × Except RuntimeResourceLimit Nat :=
  appendAlignedTokens turn.alignedTokens event.tokens event.unit event.startMs turn.alignedCharacterStarts
    turn.alignedTokenBytes

/-- An event is delivered; a call that throws leaves the byte count. -/
def deliver (turn : AlignedTurn ν) (event : AlignmentEvent ν) : AlignedTurn ν :=
  let ((alignedTokens, alignedCharacterStarts), returned) := turn.append event
  { alignedTokens, alignedCharacterStarts
    alignedTokenBytes := match returned with
      | .ok bytes => bytes
      | .error _ => turn.alignedTokenBytes }

def after (events : List (AlignmentEvent ν)) : AlignedTurn ν := Lib.run deliver {} events

end AlignedTurn

/-! ## Words -/

theorem wordsMatch_iff {target incoming : List Text} {count : Nat} (within : count ≤ target.length) :
    wordsMatch target incoming count = true ↔ Overlaps target incoming count := by
  rw [wordsMatch, List.all_eq_true, Overlaps, List.ext_getElem?_iff]
  constructor
  · intro words index
    rw [List.getElem?_drop, List.getElem?_take]
    split
    next inside => simpa using words index (List.mem_range.mpr inside)
    next outside => rw [List.getElem?_eq_none (by omega)]
  · intro same index member
    have now := same index
    rw [List.getElem?_drop, List.getElem?_take, if_pos (List.mem_range.mp member)] at now
    simpa using now

theorem wordOverlap_eq_findGreatest {target incoming : List Text} {count : Nat}
    (within : count ≤ target.length) :
    wordOverlap target incoming count = Nat.findGreatest (Overlaps target incoming) count := by
  induction count with
  | zero => rfl
  | succ count ih =>
    rw [wordOverlap, Nat.findGreatest_succ, ih (by omega)]
    exact if_congr (wordsMatch_iff within) rfl rfl

theorem wordAdditions (target incoming : List Text) :
    target ++ incoming.drop (wordOverlap target incoming (min target.length incoming.length)) =
      joinOverlapping target incoming := by
  rw [wordOverlap_eq_findGreatest (Nat.min_le_left _ _)]
  rfl

/-! ## Characters -/

section

variable {ν : Type} [DecidableEq ν] {startMs alignedCharacterStarts : List ν}

theorem mem_addCharacterTokens {entries : List (Text × Nat)} {soFar : List ν × List Text} {start : ν}
    (seen : start ∈ soFar.1 ∨ ∃ entry ∈ entries, startMs[entry.2]? = some start)
    (unknown : start ∉ alignedCharacterStarts) :
    start ∈ (entries.foldl (addCharacterToken startMs alignedCharacterStarts) soFar).1 := by
  induction entries generalizing soFar with
  | nil => simpa using seen
  | cons entry rest ih =>
    rw [List.foldl_cons]
    apply ih
    rcases seen with before | ⟨other, member, found⟩
    · left
      unfold addCharacterToken
      split
      · split
        · exact before
        · exact List.mem_append_left _ before
      · exact before
    · rcases List.mem_cons.mp member with rfl | later
      · left
        rw [addCharacterToken, found]
        dsimp only
        split
        next known => exact known.resolve_left unknown
        next => simp
      · exact .inr ⟨other, later, found⟩

theorem addCharacterTokens_known {entries : List (Text × Nat)} {soFar : List ν × List Text}
    (known : ∀ entry ∈ entries, ∃ start ∈ alignedCharacterStarts, startMs[entry.2]? = some start) :
    entries.foldl (addCharacterToken startMs alignedCharacterStarts) soFar = soFar := by
  induction entries with
  | nil => rfl
  | cons entry rest ih =>
    rw [List.forall_mem_cons] at known
    obtain ⟨start, member, found⟩ := known.1
    rw [List.foldl_cons, addCharacterToken, found]
    dsimp only
    rw [if_pos (.inl member), ih known.2]

end

/-! ## The bytes -/

theorem countAddedBytes_eq_ok {tokens currentBytes addedBytes bytes : Nat} {additions : List Text}
    (counted : countAddedBytes tokens currentBytes addedBytes additions = .ok bytes) :
    bytes = addedBytes + (additions.map utf8Bytes).sum ∧
      (additions = [] ∨ tokens ≤ maxRuntimeTtsAlignmentTokens ∧
        currentBytes + bytes ≤ maxRuntimeTtsAlignmentTokenBytes) := by
  induction additions generalizing addedBytes with
  | nil =>
    obtain rfl := Except.ok.inj counted
    exact ⟨rfl, .inl rfl⟩
  | cons token rest ih =>
    rw [countAddedBytes] at counted
    split at counted
    next => cases counted
    next within =>
      rw [not_or, Nat.not_lt, Nat.not_lt] at within
      obtain ⟨total, limits⟩ := ih counted
      refine ⟨by rw [total, List.map_cons, List.sum_cons, Nat.add_assoc], .inr ⟨within.1, ?_⟩⟩
      rcases limits with rfl | limits
      · rw [total]
        exact within.2
      · exact limits.2

/-! ## One event -/

namespace AlignedTurn

variable {ν : Type} [DecidableEq ν] {turn : AlignedTurn ν} {event : AlignmentEvent ν}

def additions (turn : AlignedTurn ν) (event : AlignmentEvent ν) : List ν × List Text :=
  alignedAdditions turn.alignedTokens event.tokens event.startMs turn.alignedCharacterStarts event.unit

def Admits (turn : AlignedTurn ν) (event : AlignmentEvent ν) : Prop :=
  event.tokens.length ≤ maxRuntimeTtsAlignmentArrayEntries ∧
    event.startMs.length ≤ maxRuntimeTtsAlignmentArrayEntries ∧
    turn.alignedTokens.length ≤ maxRuntimeTtsAlignmentTokens ∧
    turn.alignedTokenBytes ≤ maxRuntimeTtsAlignmentTokenBytes

/-- A call changes nothing and throws, or appends what the event adds, within the limits. -/
inductive Appends (turn : AlignedTurn ν) (event : AlignmentEvent ν) :
    (List Text × List ν) × Except RuntimeResourceLimit Nat → Prop
  | throws (error : RuntimeResourceLimit)
    (beyond : turn.Admits event → (turn.additions event).2 ≠ []) :
    Appends turn event ((turn.alignedTokens, turn.alignedCharacterStarts), .error error)
  | returns (admits : turn.Admits event)
    (within : (turn.additions event).2 = [] ∨
      (turn.additions event).2.length + turn.alignedTokens.length ≤ maxRuntimeTtsAlignmentTokens ∧
        turn.alignedTokenBytes + ((turn.additions event).2.map utf8Bytes).sum ≤
          maxRuntimeTtsAlignmentTokenBytes) :
    Appends turn event
      ((turn.alignedTokens ++ (turn.additions event).2,
          turn.alignedCharacterStarts ++ (turn.additions event).1),
        .ok (turn.alignedTokenBytes + ((turn.additions event).2.map utf8Bytes).sum))

theorem append_appends (turn : AlignedTurn ν) (event : AlignmentEvent ν) :
    turn.Appends event (turn.append event) := by
  unfold append appendAlignedTokens
  split
  next beyond =>
    refine .throws _ fun admits => ?_
    obtain ⟨tokens, starts, -, -⟩ := admits
    omega
  next array =>
    split
    next beyond =>
      refine .throws _ fun admits => ?_
      obtain ⟨-, -, tokens, bytes⟩ := admits
      omega
    next limits =>
      rw [not_or, Nat.not_lt, Nat.not_lt] at array limits
      change turn.Appends event (match countAddedBytes ((turn.additions event).2.length +
        turn.alignedTokens.length) turn.alignedTokenBytes 0 (turn.additions event).2 with
        | .error error => _
        | .ok addedBytes => _)
      split
      next error counted =>
        refine .throws error fun _ none_ => ?_
        rw [none_] at counted
        cases counted
      next bytes counted =>
        obtain ⟨total, within⟩ := countAddedBytes_eq_ok counted
        rw [Nat.zero_add] at total
        subst total
        exact .returns ⟨array.1, array.2, limits.1, limits.2⟩ within

theorem deliver_of_error {error : RuntimeResourceLimit} (threw : (turn.append event).2 = .error error) :
    (turn.append event).1 = (turn.alignedTokens, turn.alignedCharacterStarts) ∧
      turn.deliver event = turn := by
  have appends := turn.append_appends event
  unfold deliver
  generalize turn.append event = outcome at appends threw
  cases appends with
  | throws error beyond => exact ⟨rfl, rfl⟩
  | returns => cases threw

theorem deliver_of_ok {bytes : Nat} (returned : (turn.append event).2 = .ok bytes) :
    bytes = turn.alignedTokenBytes + ((turn.additions event).2.map utf8Bytes).sum ∧
      (turn.append event).1 = (turn.alignedTokens ++ (turn.additions event).2,
        turn.alignedCharacterStarts ++ (turn.additions event).1) ∧
      turn.deliver event =
        ⟨turn.alignedTokens ++ (turn.additions event).2,
          turn.alignedCharacterStarts ++ (turn.additions event).1, bytes⟩ ∧
      (turn.deliver event).Admits event := by
  have appends := turn.append_appends event
  unfold deliver
  generalize turn.append event = outcome at appends returned
  cases appends with
  | throws => cases returned
  | returns admits within =>
    obtain rfl := Except.ok.inj returned
    refine ⟨rfl, rfl, rfl, admits.1, admits.2.1, ?_⟩
    -- within the limits before, if nothing is added
    rcases within with nothing | within
    · dsimp only
      rw [nothing, List.append_nil, List.map_nil, List.sum_nil, Nat.add_zero]
      exact admits.2.2
    · dsimp only
      rw [List.length_append, Nat.add_comm turn.alignedTokens.length]
      exact within

def Counted (turn : AlignedTurn ν) : Prop :=
  turn.alignedTokenBytes = (turn.alignedTokens.map utf8Bytes).sum

theorem Counted.deliver (counted : turn.Counted) (event : AlignmentEvent ν) :
    (turn.deliver event).Counted := by
  cases returned : (turn.append event).2 with
  | error error =>
    rw [(deliver_of_error returned).2]
    exact counted
  | ok bytes =>
    obtain ⟨total, -, delivered, -⟩ := deliver_of_ok returned
    rw [Counted] at counted
    rw [delivered, Counted, total, List.map_append, List.sum_append, counted]

theorem after_counted (events : List (AlignmentEvent ν)) : (after events).Counted :=
  Lib.run_invariant deliver Counted (fun _ event counted => counted.deliver event) {} rfl events

/-! ## The same event again -/

theorem tokens_of_word (words : event.unit = .word) :
    turn.alignedTokens ++ (turn.additions event).2 = joinOverlapping turn.alignedTokens event.tokens := by
  rw [additions, words]
  exact wordAdditions _ _

theorem additions_of_suffix (words : event.unit = .word) (suffix : event.tokens <:+ turn.alignedTokens) :
    turn.additions event = ([], []) := by
  have joined : turn.alignedTokens ++ (turn.additions event).2 = _ := tokens_of_word words
  have shortest := (Lib.joinOverlapping_shortest List.prefix_rfl suffix).1
  rw [← joined, List.length_append] at shortest
  have nothing : (turn.additions event).2 = [] := List.length_eq_zero_iff.mp (by omega)
  have noStarts : (turn.additions event).1 = [] := by
    rw [additions, words]
    rfl
  exact Prod.ext noStarts nothing

theorem additions_of_known (characters : event.unit = .character)
    (timed : event.tokens.length ≤ event.startMs.length)
    (known : ∀ start ∈ event.startMs.take event.tokens.length, start ∈ turn.alignedCharacterStarts) :
    turn.additions event = ([], []) := by
  have each : ∀ entry ∈ event.tokens.zipIdx, ∃ start ∈ turn.alignedCharacterStarts,
      event.startMs[entry.2]? = some start := by
    intro entry member
    have place := List.mem_zipIdx_iff_getElem?.mp member
    have within : entry.2 < event.tokens.length := (List.getElem?_eq_some_iff.mp place).1
    refine ⟨event.startMs[entry.2], known _ ?_, List.getElem?_eq_getElem _⟩
    rw [List.mem_take_iff_getElem]
    exact ⟨entry.2, by omega, rfl⟩
  rw [additions, characters, alignedAdditions, addCharacterTokens_known each]
  rfl

theorem additions_deliver {bytes : Nat} (returned : (turn.append event).2 = .ok bytes)
    (timed : event.unit = .word ∨ event.tokens.length ≤ event.startMs.length) :
    (turn.deliver event).additions event = ([], []) := by
  obtain ⟨-, -, delivered, -⟩ := deliver_of_ok returned
  cases unit : event.unit with
  | word =>
    refine additions_of_suffix unit ?_
    rw [delivered]
    dsimp only
    rw [tokens_of_word unit]
    exact Lib.joinOverlapping_suffix _ _
  | character =>
    have all := timed.resolve_left (by rw [unit]; nofun)
    refine additions_of_known unit all fun start member => ?_
    rw [delivered]
    dsimp only
    by_cases before : start ∈ turn.alignedCharacterStarts
    · exact List.mem_append_left _ before
    · refine List.mem_append_right _ ?_
      obtain ⟨index, within, rfl⟩ := List.mem_take_iff_getElem.mp member
      have isToken : index < event.tokens.length := by omega
      rw [additions, unit, alignedAdditions]
      dsimp only
      rw [List.mem_filter]
      refine ⟨mem_addCharacterTokens (.inr ?_) before, by simpa using before⟩
      exact ⟨(event.tokens[index], index),
        List.mk_mem_zipIdx_iff_getElem?.mpr (List.getElem?_eq_getElem isToken), List.getElem?_eq_getElem _⟩

theorem deliver_of_nothing (admits : turn.Admits event) (nothing : turn.additions event = ([], [])) :
    (turn.append event).2 = .ok turn.alignedTokenBytes ∧ turn.deliver event = turn := by
  have appends := turn.append_appends event
  unfold deliver
  generalize turn.append event = outcome at appends
  cases appends with
  | throws error beyond => exact absurd (congrArg Prod.snd nothing) (beyond admits)
  | returns => simp [nothing]

/-- After any events: the byte count a call returns is that of the tokens then, a call that throws changes
nothing, an event that is delivered again changes nothing and does not throw where it did not, if its
characters have start times, and words are joined to the target in the shortest way. -/
theorem aligned_tokens (events : List (AlignmentEvent ν)) (event : AlignmentEvent ν) :
    (∀ bytes, ((after events).append event).2 = .ok bytes →
      bytes = (((after events).append event).1.1.map utf8Bytes).sum) ∧
    (∀ error, ((after events).append event).2 = .error error →
      ((after events).append event).1 =
        ((after events).alignedTokens, (after events).alignedCharacterStarts)) ∧
    (event.unit = .word ∨ event.tokens.length ≤ event.startMs.length →
      ((after events).deliver event).deliver event = (after events).deliver event ∧
        ∀ bytes, ((after events).append event).2 = .ok bytes →
          (((after events).deliver event).append event).2 = .ok bytes) ∧
    (event.unit = .word → ∀ bytes, ((after events).append event).2 = .ok bytes →
      (after events).alignedTokens <+: ((after events).append event).1.1 ∧
      event.tokens <:+ ((after events).append event).1.1 ∧
      ∀ joined, (after events).alignedTokens <+: joined → event.tokens <:+ joined →
        ((after events).append event).1.1.length ≤ joined.length ∧
          (joined.length = ((after events).append event).1.1.length →
            joined = ((after events).append event).1.1)) := by
  have counted := after_counted events
  generalize after events = turn at counted
  refine ⟨fun bytes returned => ?_, fun error threw => (deliver_of_error threw).1, fun timed => ?_,
    fun words bytes returned => ?_⟩
  · obtain ⟨total, appended, -, -⟩ := deliver_of_ok returned
    rw [Counted] at counted
    rw [appended, List.map_append, List.sum_append, total, counted]
  · cases returned : (turn.append event).2 with
    | error error =>
      have same := (deliver_of_error returned).2
      exact ⟨by rw [same, same], nofun⟩
    | ok bytes =>
      obtain ⟨-, -, delivered, admits⟩ := deliver_of_ok returned
      obtain ⟨again, unchanged⟩ := deliver_of_nothing admits (additions_deliver returned timed)
      refine ⟨unchanged, fun _ same => ?_⟩
      obtain rfl := Except.ok.inj same
      rw [again, delivered]
  · obtain ⟨-, appended, -, -⟩ := deliver_of_ok returned
    rw [appended, tokens_of_word words]
    exact ⟨Lib.joinOverlapping_prefix _ _, Lib.joinOverlapping_suffix _ _,
      fun joined begins ends => Lib.joinOverlapping_shortest begins ends⟩

end AlignedTurn

end Tvic
