import Tvic.Lib.DecimalText
import Tvic.Providers.JsonObjectAccumulator

/-!
# A timed stream gives its objects

However the bytes of a sequence of objects are split, the accumulator returns these objects in their order. The
scan of what has been retained is the scan of whole objects, each ending with a brace at which nothing is open,
and of a part of the next one.
-/
namespace Tvic

open Lib JsonNesting

variable {N : Type} [FiniteNumber N]

/-- An object as it stands in the stream, with the white space before it. -/
structure SpacedObject (N : Type) [FiniteNumber N] where
  space : Text
  text : Text
  members : JsonRecord N
  blank : ∀ unit ∈ space, isJsonSpace unit = true
  object : IsObjectText text members

/-- What the object takes up of the stream. -/
def SpacedObject.source (object : SpacedObject N) : Text := object.space ++ object.text

namespace JsonObjectScan

def within (scan : JsonObjectScan N) (nesting : JsonNesting) : JsonObjectScan N :=
  { scan with depth := nesting.depth + 1, inString := nesting.inString, escaped := nesting.escaped }

def Idle (scan : JsonObjectScan N) : Prop :=
  scan.depth = 0 ∧ scan.inString = false ∧ scan.escaped = false ∧ scan.objectStart = none

theorem next_within (buffer : Text) (scan : JsonObjectScan N) {nesting later : JsonNesting} {char : UInt16}
    (stays : nesting.next char = some later) (index : Nat) :
    (scan.within nesting).next buffer char index = .ok (scan.within later) := by
  unfold JsonNesting.next at stays
  unfold next within
  split_ifs at stays with string escaped backslash quote quote opening closing outer
  · cases stays
    simp [string, escaped]
  · cases stays
    simp [string, escaped, backslash]
  · cases stays
    simp [string, escaped, quote]
  · cases stays
    simp [string, escaped, backslash, quote]
  · cases stays
    simp [string, quote]
  · cases stays
    simp [string, opening]
  · cases stays
    -- the brace closes an object within the object
    obtain ⟨depth, more⟩ := Nat.exists_eq_succ_of_ne_zero outer
    simp [string, closing, more]
  · cases stays
    simp [string, quote, opening, closing]

theorem run_within (buffer : Text) (scan : JsonObjectScan N) {nesting later : JsonNesting} {text : Text}
    (stays : nesting.run text = some later) (index : Nat) (rest : Text) :
    run buffer (scan.within nesting) index (text ++ rest) =
      run buffer (scan.within later) (index + text.length) rest := by
  induction text generalizing nesting index with
  | nil =>
    cases stays
    rfl
  | cons char text ih =>
    rw [JsonNesting.run_cons] at stays
    obtain ⟨middle, first, stays⟩ := Option.bind_eq_some_iff.mp stays
    rw [List.cons_append, run, next_within buffer scan first]
    dsimp only
    rw [ih stays, List.length_cons, Nat.add_assoc, Nat.add_comm 1]

theorem isJsonSpace_plain {unit : UInt16} (space : isJsonSpace unit = true) :
    unit ≠ 34 ∧ unit ≠ 123 ∧ unit ≠ 125 := by
  refine ⟨?_, ?_, ?_⟩ <;> rintro rfl <;> simp [isJsonSpace] at space

theorem run_space (buffer : Text) {scan : JsonObjectScan N} (idle : scan.Idle) {space : Text}
    (blank : ∀ unit ∈ space, isJsonSpace unit = true) (index : Nat) (rest : Text) :
    run buffer scan index (space ++ rest) = run buffer scan (index + space.length) rest := by
  induction space generalizing index with
  | nil => rfl
  | cons unit space ih =>
    obtain ⟨quote, opening, closing⟩ := isJsonSpace_plain (blank unit (by simp))
    have step : scan.next buffer unit index = .ok scan := by
      simp [next, idle.2.1, quote, opening, closing]
    rw [List.cons_append, run, step]
    dsimp only
    rw [ih (fun later member => blank later (List.mem_cons_of_mem _ member)), List.length_cons, Nat.add_assoc,
      Nat.add_comm 1]

theorem next_opening (buffer : Text) {scan : JsonObjectScan N} (idle : scan.Idle) (index : Nat) :
    scan.next buffer 123 index = .ok ({ scan with objectStart := some index }.within ⟨0, false, false⟩) := by
  obtain ⟨depth, string, escaped, -⟩ := idle
  simp [next, within, depth, string, escaped]

theorem next_closing {buffer : Text} (scan : JsonObjectScan N) {index objectStart : Nat}
    {members : JsonRecord N}
    (slice : parseJsonObject ((buffer.take (index + 1)).drop objectStart) = some members) :
    ({ scan with objectStart := some objectStart }.within ⟨0, false, false⟩).next buffer 125 index =
      .ok { scan with
        values := scan.values ++ [members], start := index + 1, depth := 0, inString := false
        escaped := false, objectStart := none } := by
  simp [next, within, slice]

theorem parseJsonObject_eq {text : Text} {members : JsonRecord N} (object : IsObjectText text members) :
    parseJsonObject text = some members := by
  rw [parseJsonObject, object.parsed]

theorem run_object {before text after : Text} {members : JsonRecord N} (object : IsObjectText text members)
    {scan : JsonObjectScan N} (idle : scan.Idle) (rest : Text) :
    run (before ++ text ++ after) scan before.length (text ++ rest) =
      run (before ++ text ++ after)
        { scan with values := scan.values ++ [members], start := before.length + text.length }
        (before.length + text.length) rest := by
  obtain ⟨inner, rfl, balanced⟩ := object.balanced
  have slice : parseJsonObject (((before ++ (123 :: inner ++ [125]) ++ after).take
      (before.length + 1 + inner.length + 1)).drop before.length) = some members := by
    have length : before.length + 1 + inner.length + 1 = (before ++ (123 :: inner ++ [125])).length := by
      simp
      omega
    rw [length, List.take_left, List.drop_left]
    exact parseJsonObject_eq object
  generalize before ++ (123 :: inner ++ [125]) ++ after = buffer at slice ⊢
  rw [List.cons_append, List.cons_append, run, next_opening _ idle]
  dsimp only
  rw [List.append_assoc, run_within _ _ (balanced 0), List.singleton_append, run, next_closing _ slice]
  obtain ⟨depth, string, escaped, start⟩ := idle
  have length : before.length + (123 :: (inner ++ [125])).length = before.length + 1 + inner.length + 1 := by
    simp
    omega
  rw [length]
  dsimp only
  rw [depth, string, escaped, start]

theorem run_objects (objects : List (SpacedObject N)) (before after : Text) {scan : JsonObjectScan N}
    (idle : scan.Idle) (start : scan.start = before.length) (rest : Text) :
    run (before ++ objects.flatMap SpacedObject.source ++ after) scan before.length
        (objects.flatMap SpacedObject.source ++ rest) =
      run (before ++ objects.flatMap SpacedObject.source ++ after)
        { scan with
          values := scan.values ++ objects.map (·.members)
          start := (before ++ objects.flatMap SpacedObject.source).length }
        (before ++ objects.flatMap SpacedObject.source).length rest := by
  induction objects generalizing before scan with
  | nil =>
    obtain ⟨values, _, depth, inString, escaped, objectStart⟩ := scan
    obtain rfl := start
    simp
  | cons object objects ih =>
    have first := @run_object N _ (before ++ object.space) object.text
      (objects.flatMap SpacedObject.source ++ after) object.members object.object scan idle
      (objects.flatMap SpacedObject.source ++ rest)
    have others := @ih (before ++ object.source)
      { scan with
        values := scan.values ++ [object.members]
        start := (before ++ object.source).length } idle rfl
    rw [SpacedObject.source, ← List.append_assoc] at others
    simp only [List.flatMap_cons, SpacedObject.source, List.append_assoc, List.length_append,
      List.map_cons, Nat.add_assoc, List.singleton_append] at first others ⊢
    rw [run_space _ idle object.blank, first, others]

theorem run_part (buffer : Text) {scan : JsonObjectScan N} (idle : scan.Idle) (object : SpacedObject N)
    {part missing : Text} (split : object.source = part ++ missing) (some' : missing ≠ []) (index : Nat) :
    ∃ later, run buffer scan index part = .ok later ∧ later.values = scan.values ∧ later.start = scan.start := by
  rcases List.append_eq_append_iff.mp split with ⟨mid, rfl, text⟩ | ⟨mid, spaces, rfl⟩
  · rw [run_space buffer idle object.blank]
    obtain ⟨inner, whole, balanced⟩ := object.object.balanced
    cases mid with
    | nil => exact ⟨scan, rfl, rfl, rfl⟩
    | cons unit mid =>
      rw [whole] at text
      obtain ⟨rfl, tail⟩ := List.cons.inj text
      have tail : inner ++ [125] = mid ++ missing := tail
      rw [run, next_opening _ idle]
      dsimp only
      -- the last brace is among what is missing
      obtain ⟨front, rfl⟩ : ∃ front, missing = front ++ [125] := by
        have last : (mid ++ missing).getLast? = some 125 := by
          rw [← tail]
          simp
        rw [List.getLast?_append_of_ne_nil _ some'] at last
        exact ⟨_, (List.dropLast_append_getLast? 125 last).symm⟩
      have inside : inner = mid ++ front := by
        rw [← List.append_assoc] at tail
        exact (List.append_inj' tail rfl).1
      have stays := balanced 0
      rw [inside, JsonNesting.run_append] at stays
      obtain ⟨nesting, stays, -⟩ := Option.bind_eq_some_iff.mp stays
      have scanned := run_within buffer { scan with objectStart := some (index + object.space.length) } stays
        (index + object.space.length + 1) []
      rw [List.append_nil] at scanned
      exact ⟨_, scanned, rfl, rfl⟩
  · have blank : ∀ unit ∈ part, isJsonSpace unit = true :=
      fun unit member => object.blank unit (by rw [spaces]; exact List.mem_append_left _ member)
    have scanned := run_space buffer idle blank index []
    rw [List.append_nil] at scanned
    exact ⟨scan, scanned, rfl, rfl⟩

end JsonObjectScan

namespace JsonObjectAccumulator

def Unfinished (N : Type) [FiniteNumber N] (part : Text) : Prop :=
  (∀ unit ∈ part, isJsonSpace unit = true) ∨
    ∃ (object : SpacedObject N) (missing : Text), object.source = part ++ missing ∧ missing ≠ []

theorem trim_blank {text : Text} (blank : ∀ unit ∈ text, isJsonSpace unit = true) :
    trim isWhitespace text = [] := by
  have white : ∀ unit ∈ text, isWhitespace unit = true := by
    intro unit member
    have space := blank unit member
    simp only [isJsonSpace, Bool.or_eq_true, beq_iff_eq] at space
    rcases space with ((rfl | rfl) | rfl) | rfl <;> decide
  rw [trim, List.dropWhile_eq_nil_iff.mpr white]
  rfl

theorem drain_objects (objects : List (SpacedObject N)) {part : Text} (unfinished : Unfinished N part)
    (short : part.length ≤ MAX_PROVIDER_FRAME_BYTES) {final : Bool}
    (ended : final = true → ∀ unit ∈ part, isJsonSpace unit = true) :
    drain (objects.flatMap SpacedObject.source ++ part) final = .ok (objects.map (·.members), part) := by
  have idle : ({} : JsonObjectScan N).Idle := ⟨rfl, rfl, rfl, rfl⟩
  have whole := JsonObjectScan.run_objects objects [] part idle rfl part
  simp only [List.nil_append, List.length_nil] at whole
  obtain ⟨later, scanned, values, start⟩ : ∃ later,
      JsonObjectScan.run (objects.flatMap SpacedObject.source ++ part) ({} : JsonObjectScan N) 0
        (objects.flatMap SpacedObject.source ++ part) = .ok later ∧
      later.values = objects.map (·.members) ∧
      later.start = (objects.flatMap SpacedObject.source).length := by
    rw [whole]
    rcases unfinished with blank | ⟨object, missing, split, some'⟩
    · have spaces := JsonObjectScan.run_space (objects.flatMap SpacedObject.source ++ part)
        (show JsonObjectScan.Idle { ({} : JsonObjectScan N) with
          values := objects.map (·.members), start := (objects.flatMap SpacedObject.source).length } from idle)
        blank (objects.flatMap SpacedObject.source).length []
      rw [List.append_nil] at spaces
      exact ⟨_, spaces, rfl, rfl⟩
    · exact @JsonObjectScan.run_part N _ _ { ({} : JsonObjectScan N) with
        values := objects.map (·.members), start := (objects.flatMap SpacedObject.source).length } idle object
        part missing split some' _
  have rest : (if 0 < later.start then (objects.flatMap SpacedObject.source ++ part).drop later.start
      else objects.flatMap SpacedObject.source ++ part) = part := by
    rw [start]
    split_ifs with some'
    · exact List.drop_left
    · have none : objects.flatMap SpacedObject.source = [] := List.length_eq_zero_iff.mp (by omega)
      rw [none, List.nil_append]
  rw [drain, scanned]
  dsimp only
  rw [rest, if_neg, if_neg (Nat.not_lt.mpr short), values]
  rintro ⟨last, some', -⟩
  rw [trim_blank (ended last)] at some'
  exact absurd some' (Nat.lt_irrefl 0)

theorem front_split (objects : List (SpacedObject N)) {tail text unread : Text}
    (blank : ∀ unit ∈ tail, isJsonSpace unit = true)
    (split : objects.flatMap SpacedObject.source ++ tail = text ++ unread) :
    ∃ whole left part, objects = whole ++ left ∧ text = whole.flatMap SpacedObject.source ++ part ∧
      part ++ unread = left.flatMap SpacedObject.source ++ tail ∧ Unfinished N part ∧
      (part.length ≤ tail.length ∨ ∃ object ∈ left, part.length ≤ object.source.length) := by
  induction objects generalizing text with
  | nil =>
    rw [List.flatMap_nil, List.nil_append] at split
    refine ⟨[], [], text, rfl, rfl, split.symm, .inl fun unit member => blank unit ?_, .inl ?_⟩
    · rw [split]
      exact List.mem_append_left _ member
    · rw [split]
      simp
  | cons object objects ih =>
    rw [List.flatMap_cons, List.append_assoc] at split
    rcases List.append_eq_append_iff.mp split with ⟨mid, rfl, rest⟩ | ⟨mid, source, rest⟩
    · obtain ⟨whole, left, part, rfl, rfl, remaining, unfinished, bound⟩ := ih rest
      refine ⟨object :: whole, left, part, rfl, ?_, remaining, unfinished, bound⟩
      rw [List.flatMap_cons, List.append_assoc]
    · by_cases ended : mid = []
      · -- the text ends where the object does
        subst ended
        rw [List.append_nil] at source
        have here : objects.flatMap SpacedObject.source ++ tail = [] ++ unread := rest.symm
        obtain ⟨whole, left, part, rfl, empty, remaining, unfinished, bound⟩ := ih here
        refine ⟨object :: whole, left, part, rfl, ?_, remaining, unfinished, bound⟩
        rw [List.flatMap_cons, List.append_assoc, ← empty, List.append_nil, source]
      · refine ⟨[], object :: objects, text, rfl, rfl, ?_, .inr ⟨object, mid, source, ended⟩, .inr ⟨object, by simp, ?_⟩⟩
        · rw [List.flatMap_cons, source, List.append_assoc, List.append_assoc, ← rest]
        · rw [source]
          simp

theorem readAll_objects (pieces : List (List UInt8)) (decoder : TextDecoder) (buffer : Text)
    (objects : List (SpacedObject N)) {tail : Text}
    (short : ∀ object ∈ objects, object.source.length ≤ MAX_PROVIDER_FRAME_BYTES)
    (blank : ∀ unit ∈ tail, isJsonSpace unit = true) (shortTail : tail.length ≤ MAX_PROVIDER_FRAME_BYTES)
    (ends : ((decoder.decodeAll pieces).1.decode [] false).2 = [])
    (stream : objects.flatMap SpacedObject.source ++ tail = buffer ++ (decoder.decodeAll pieces).2.flatten) :
    readAll ⟨decoder, buffer⟩ pieces = .ok (objects.map (·.members)) := by
  induction pieces generalizing decoder buffer objects with
  | nil =>
    rw [TextDecoder.decodeAll, List.flatten_nil, List.append_nil] at stream
    have text : (decoder.decode [] false).2 = [] := ends
    have drained := drain_objects objects (.inl blank) shortTail (fun _ : true = true => blank)
    rw [readAll, finish]
    dsimp only
    rw [text, List.append_nil, ← stream, drained]
    dsimp only
    rw [trim_blank blank]
    rfl
  | cons bytes pieces ih =>
    have next : decoder.decodeAll (bytes :: pieces) =
        (((decoder.decode bytes true).1.decodeAll pieces).1,
          (decoder.decode bytes true).2 :: ((decoder.decode bytes true).1.decodeAll pieces).2) := rfl
    rw [next] at ends stream
    rw [List.flatten_cons, ← List.append_assoc] at stream
    obtain ⟨whole, left, part, rfl, front, remaining, unfinished, bound⟩ := front_split objects blank stream
    have shortPart : part.length ≤ MAX_PROVIDER_FRAME_BYTES := by
      rcases bound with behind | ⟨object, member, within⟩
      · exact Nat.le_trans behind shortTail
      · exact Nat.le_trans within (short object (List.mem_append_right _ member))
    have drained := drain_objects whole unfinished shortPart fun stays => absurd stays Bool.false_ne_true
    rw [readAll, push]
    dsimp only
    rw [front, drained]
    dsimp only
    rw [ih _ part left (fun object member => short object (List.mem_append_right _ member)) ends remaining.symm,
      List.map_append]
    rfl

theorem stream_head (objects : List (SpacedObject N)) {tail : Text}
    (blank : ∀ unit ∈ tail, isJsonSpace unit = true) {unit : UInt16}
    (head : (objects.flatMap SpacedObject.source ++ tail).head? = some unit) :
    isJsonSpace unit = true ∨ unit = 123 := by
  cases objects with
  | nil => exact .inl (blank unit (List.mem_of_head? head))
  | cons object objects =>
    obtain ⟨space, text, members, blank, object⟩ := object
    rw [List.flatMap_cons, SpacedObject.source] at head
    cases space with
    | nil =>
      obtain ⟨inner, rfl, -⟩ := object.balanced
      exact .inr (Option.some.inj head).symm
    | cons first space =>
      obtain rfl : first = unit := Option.some.inj head
      exact .inl (blank first (by simp))

/-- However the UTF-8 of the objects is split, the calls of `push` and the `finish` return exactly these objects:
each of them, with the white space before it, fits into a frame, and so does the white space at the end. -/
theorem push_finish_objects (objects : List (SpacedObject N)) (tail : Text) (chars : List Char)
    (pieces : List (List UInt8))
    (short : ∀ object ∈ objects, object.source.length ≤ MAX_PROVIDER_FRAME_BYTES)
    (blank : ∀ unit ∈ tail, isJsonSpace unit = true) (shortTail : tail.length ≤ MAX_PROVIDER_FRAME_BYTES)
    (stream : chars.flatMap encodeUtf16 = objects.flatMap SpacedObject.source ++ tail)
    (bytes : pieces.flatten = chars.flatMap String.utf8EncodeChar) :
    readAll {} pieces = .ok (objects.map (·.members)) := by
  have unmarked : chars.head? ≠ some (Char.ofNat 0xFEFF) := by
    intro mark
    obtain ⟨rest, rfl⟩ : ∃ rest, chars = Char.ofNat 0xFEFF :: rest := by
      cases chars with
      | nil => cases mark
      | cons char rest => exact ⟨rest, by rw [Option.some.inj mark]⟩
    have head : (objects.flatMap SpacedObject.source ++ tail).head? = some 0xFEFF := by
      rw [← stream]
      rfl
    rcases stream_head objects blank head with space | brace
    · exact absurd space (by decide)
    · exact absurd brace (by decide)
  obtain ⟨texts, ends⟩ := TextDecoder.decodeAll_encode bytes unmarked
  exact readAll_objects pieces {} [] objects short blank shortTail ends (by rw [texts, stream]; rfl)

/-- Two objects in three pieces, the first with a brace in a string. -/
theorem push_finish_objects_two :
    readAll {} [[123, 34, 97, 34, 58, 34, 125], [34, 125, 10, 123], [125]] =
      .ok [[([97], JsValue.string [125])], ([] : JsonRecord Int)] :=
  push_finish_objects
    [⟨[], [123, 34, 97, 34, 58, 34, 125, 34, 125], [([97], .string [125])], nofun,
        ⟨rfl, rfl, rfl⟩⟩,
      ⟨[10], [123, 125], [], List.all_eq_true.mp (by decide), ⟨rfl, rfl, rfl⟩⟩]
    [] ([123, 34, 97, 34, 58, 34, 125, 34, 125, 10, 123, 125].map Char.ofNat) _ (by decide) nofun (by decide)
    (by decide) (by decide)

end JsonObjectAccumulator

end Tvic
