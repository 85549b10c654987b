import Mathlib.Tactic.FinCases
import Tvic.Providers.SseParsing

/-!
# The events of a stream

Both parsers read the same items however a stream comes in, but for the frames that Groq's limit catches
before their terminators are complete. Of a stream whose lines all end in the same way they read the
events between its blank lines.
-/
namespace Tvic

open Lib

/-- A line feed, or a carriage return and a line feed. -/
def lineTerminators : List (List Char) := [[lineFeed], [carriageReturn, lineFeed]]

structure Unbroken (line : List Char) : Prop where
  carriageReturn : Tvic.carriageReturn ∉ line
  lineFeed : Tvic.lineFeed ∉ line

/-- The groups of lines between the blank ones. -/
def sseEvents (lines : List (List Char)) : List (List (List Char)) := lines.splitOn []

def readEvents {Item : Type} (event : List (List Char) → Except String (Option Item)) :
    List (List (List Char)) → Reading Item String
  | [] => ⟨[], none⟩
  | lines :: events =>
    match event lines with
    | .error failure => ⟨[], some failure⟩
    | .ok item => (readEvents event events).after item.toList

/-! ## Frames of lines -/

/-- The boundary is what an empty line makes of the line terminators, and nothing else in such streams. -/
structure LineBoundary (boundary : Terminators Char) : Prop where
  breaks : ∀ terminator ∈ boundary.all, ∀ character, terminator.head? = some character →
    character = carriageReturn ∨ character = lineFeed
  quiet : ∀ text : List Char,
    (∀ character, text.head? = some character → character ≠ carriageReturn ∧ character ≠ lineFeed) →
    boundary.atStart (lineFeed :: text) = none ∧
      boundary.atStart (carriageReturn :: lineFeed :: text) = none
  blank : ∀ terminator ∈ lineTerminators, terminator ++ terminator ∈ boundary.all

theorem breaks_of_heads {boundary : Terminators Char}
    (heads : ∀ terminator ∈ boundary.all,
      terminator.head? = some carriageReturn ∨ terminator.head? = some lineFeed) :
    ∀ terminator ∈ boundary.all, ∀ character, terminator.head? = some character →
      character = carriageReturn ∨ character = lineFeed := by
  intro terminator member character starts
  rw [← Option.some_inj, ← Option.some_inj (a := character), ← starts]
  exact heads terminator member

theorem GroqChat.lineBoundary : LineBoundary GroqChat.boundary where
  breaks := breaks_of_heads (by decide)
  quiet := by
    rintro (_ | ⟨character, text⟩) ordinary
    · decide
    · obtain ⟨notReturn, notFeed⟩ := ordinary character rfl
      constructor
      all_goals
        refine boundary.atStart_eq_none fun terminator known => ?_
        fin_cases known
        all_goals
          rintro ⟨rest, same⟩
          have heads := congrArg (List.take 3) same
          simp [carriageReturn, lineFeed] at heads notReturn notFeed
      all_goals
        first
          | exact notReturn heads.symm
          | exact notFeed heads.symm
          | exact notReturn heads.1.symm
          | exact notFeed heads.1.symm
  blank := by decide

theorem OpenAiResponses.lineBoundary : LineBoundary OpenAiResponses.boundary where
  breaks := breaks_of_heads (by decide)
  quiet := by
    rintro (_ | ⟨character, text⟩) ordinary
    · decide
    · obtain ⟨notReturn, notFeed⟩ := ordinary character rfl
      constructor
      all_goals
        refine boundary.atStart_eq_none fun terminator known => ?_
        fin_cases known
        all_goals
          rintro ⟨rest, same⟩
          have heads := congrArg (List.take 3) same
          simp [carriageReturn, lineFeed] at heads notReturn notFeed
      all_goals
        first
          | exact notReturn heads.symm
          | exact notFeed heads.symm
          | exact notReturn heads.1.symm
          | exact notFeed heads.1.symm
  blank := by decide

/-- The lines before the first blank line that is neither first nor last, and those after it. -/
def cutLines : List (List Char) → Option (List (List Char) × List (List Char))
  | [] => none
  | line :: lines =>
    match lines.dropWhile (· ≠ []) with
    | _ :: next :: rest => some (line :: lines.takeWhile (· ≠ []), next :: rest)
    | _ => none

theorem cutLines_some {lines frame rest : List (List Char)} (cut : cutLines lines = some (frame, rest)) :
    ∃ line body, lines = line :: body ++ [] :: rest ∧ frame = line :: body ∧ [] ∉ body ∧ rest ≠ [] := by
  cases lines with
  | nil => cases cut
  | cons line lines =>
    unfold cutLines at cut
    dsimp only at cut
    split at cut
    next blank next rest' dropped =>
      cases cut
      refine ⟨line, lines.takeWhile (· ≠ []), ?_, rfl, ?_, List.cons_ne_nil _ _⟩
      · have whole := List.takeWhile_append_dropWhile (p := (· ≠ [])) (l := lines)
        have empty : blank = [] := by
          have head := List.head?_dropWhile_not (· ≠ []) lines
          rw [dropped] at head
          simpa using head
        rw [dropped, empty] at whole
        rw [List.cons_append, whole]
      · intro member
        simpa using List.mem_takeWhile_imp member
    · cases cut

theorem cutLines_none {lines : List (List Char)} (none : cutLines lines = none) (some : lines ≠ []) :
    ∃ line body, [] ∉ body ∧ (lines = line :: body ∨ lines = line :: body ++ [[]]) := by
  cases lines with
  | nil => exact (some rfl).elim
  | cons line lines =>
    refine ⟨line, lines.takeWhile (· ≠ []), ?_, ?_⟩
    · intro member
      simpa using List.mem_takeWhile_imp member
    · have whole := List.takeWhile_append_dropWhile (p := (· ≠ [])) (l := lines)
      have head := List.head?_dropWhile_not (· ≠ []) lines
      unfold cutLines at none
      dsimp only at none
      cases dropped : lines.dropWhile (· ≠ []) with
      | nil =>
        rw [dropped, List.append_nil] at whole
        exact Or.inl (by rw [whole])
      | cons blank rest =>
        rw [dropped] at whole none head
        cases rest with
        | nil =>
          have empty : blank = [] := by simpa using head
          rw [empty] at whole
          exact Or.inr (by rw [List.cons_append, whole])
        | cons next rest => cases none

section Cutting

variable {boundary : Terminators Char} (lineBoundary : LineBoundary boundary)
include lineBoundary

theorem nextFrame_line {line : List Char} (unbroken : Unbroken line) (text : List Char) :
    nextFrame boundary (line ++ text) =
      (nextFrame boundary text).map fun (frame, terminator, rest) =>
        (line ++ frame, terminator, rest) := by
  induction line with
  | nil => simp
  | cons character line ih =>
    have unbroken' : Unbroken line :=
      ⟨fun member => unbroken.1 (List.mem_cons_of_mem _ member),
        fun member => unbroken.2 (List.mem_cons_of_mem _ member)⟩
    have here : boundary.atStart (character :: (line ++ text)) = none := by
      refine boundary.atStart_eq_none fun terminator known start => ?_
      obtain ⟨rest, same⟩ := start
      have nonempty := boundary.nonempty terminator known
      obtain ⟨head, tail, rfl⟩ := List.exists_cons_of_ne_nil nonempty
      obtain ⟨rfl, -⟩ := List.cons.inj same
      rcases lineBoundary.breaks _ known head rfl with rfl | rfl
      · exact unbroken.1 (List.mem_cons_self ..)
      · exact unbroken.2 (List.mem_cons_self ..)
    rw [List.cons_append, nextFrame, here, ih unbroken']
    simp only [Option.map_map]
    rfl

theorem nextFrame_lineEnd {terminator text : List Char} (known : terminator ∈ lineTerminators)
    (ordinary : ∀ character, text.head? = some character →
      character ≠ carriageReturn ∧ character ≠ lineFeed) :
    nextFrame boundary (terminator ++ text) =
      (nextFrame boundary text).map fun (frame, terminator', rest) =>
        (terminator ++ frame, terminator', rest) := by
  obtain ⟨feed, both⟩ := lineBoundary.quiet text ordinary
  fin_cases known
  · show nextFrame boundary (lineFeed :: text) = _
    rw [nextFrame, feed]
    rfl
  · show nextFrame boundary (carriageReturn :: lineFeed :: text) = _
    rw [nextFrame, both, nextFrame, feed]
    simp only [Option.map_map]
    rfl

theorem nextFrame_blank {terminator : List Char} (known : terminator ∈ lineTerminators)
    (text : List Char) :
    nextFrame boundary (terminator ++ (terminator ++ text)) =
      some ([], terminator ++ terminator, text) := by
  have start := boundary.atStart_eq (lineBoundary.blank terminator known)
    ⟨text, List.append_assoc terminator terminator text⟩
  obtain ⟨head, tail, same⟩ : ∃ head tail, terminator = head :: tail := by
    fin_cases known
    · exact ⟨_, _, rfl⟩
    · exact ⟨_, _, rfl⟩
  have whole : terminator ++ (terminator ++ text) = head :: (tail ++ (terminator ++ text)) := by
    conv_lhs => arg 1; rw [same]
    rfl
  rw [whole] at start ⊢
  rw [nextFrame, start]
  dsimp only
  rw [← whole, ← List.append_assoc, List.drop_left]

theorem nextFrame_lines {terminator : List Char} (known : terminator ∈ lineTerminators)
    {lines : List (List Char)} (unbroken : ∀ line ∈ lines, Unbroken line) :
    nextFrame boundary (terminator.intercalate lines) =
      (cutLines lines).map fun (frame, rest) =>
        (terminator.intercalate frame, terminator ++ terminator, terminator.intercalate rest) := by
  induction lines with
  | nil => rfl
  | cons line lines ih =>
    have here := unbroken line (List.mem_cons_self ..)
    have later := fun other member => unbroken other (List.mem_cons_of_mem line member)
    cases lines with
    | nil =>
      have single := nextFrame_line lineBoundary here []
      rw [List.append_nil] at single
      rw [List.intercalate_singleton, single]
      rfl
    | cons next lines =>
      rw [List.intercalate_cons_cons, List.append_assoc, nextFrame_line lineBoundary here]
      cases next with
      | nil =>
        cases lines with
        | nil =>
          rw [List.intercalate_singleton, nextFrame_lineEnd lineBoundary known (by simp)]
          rfl
        | cons after lines =>
          rw [List.intercalate_cons_cons, List.nil_append, nextFrame_blank lineBoundary known]
          simp [cutLines]
      | cons character next =>
        have unbroken' := later (character :: next) (List.mem_cons_self ..)
        have ordinary : ∀ other,
            (terminator.intercalate ((character :: next) :: lines)).head? = some other →
            other ≠ carriageReturn ∧ other ≠ lineFeed := by
          have head : (terminator.intercalate ((character :: next) :: lines)).head? =
              some character := by
            cases lines with
            | nil => rw [List.intercalate_singleton, List.head?_cons]
            | cons after lines => rw [List.intercalate_cons_cons, List.append_assoc]; rfl
          rintro other same
          rw [head] at same
          cases same
          constructor
          · rintro rfl
            exact unbroken'.1 (List.mem_cons_self ..)
          · rintro rfl
            exact unbroken'.2 (List.mem_cons_self ..)
        rw [nextFrame_lineEnd lineBoundary known ordinary, ih later]
        have cut : cutLines (line :: (character :: next) :: lines) =
            (cutLines ((character :: next) :: lines)).map fun (frame, rest) =>
              (line :: frame, rest) := by
          unfold cutLines
          dsimp only
          rw [List.dropWhile_cons_of_pos (by simp), List.takeWhile_cons_of_pos (by simp)]
          split <;> rfl
        rw [cut]
        cases found : cutLines ((character :: next) :: lines) with
        | none => rfl
        | some parts =>
          obtain ⟨frame, rest⟩ := parts
          obtain ⟨first, body, -, rfl, -, -⟩ := cutLines_some found
          simp [List.intercalate_cons_cons]

end Cutting

/-! ## Reading the events -/

/-- A reader that parses lines by the data in them, and has no limit. -/
structure LineReader {Item : Type} (reader : FrameReader Char Item String)
    (event : List (List Char) → Except String (Option Item)) : Prop where
  boundary : LineBoundary reader.terminators
  noLimit : ∀ text, reader.tooLong text = false
  frame : ∀ terminator ∈ lineTerminators, ∀ lines, lines ≠ [] → (∀ line ∈ lines, Unbroken line) →
    reader.parseFrame (terminator.intercalate lines) = event lines
  rest : ∀ terminator ∈ lineTerminators, ∀ lines, lines ≠ [] → (∀ line ∈ lines, Unbroken line) →
    reader.parseRest (terminator.intercalate lines) = event lines
  data : ∀ lines lines', dataLines lines = dataLines lines' → event lines = event lines'
  nothing : event [] = .ok none

@[simp] theorem dataLines_cons_nil (lines : List (List Char)) : dataLines ([] :: lines) = dataLines lines :=
  rfl

@[simp] theorem dataLines_append (lines lines' : List (List Char)) :
    dataLines (lines ++ lines') = dataLines lines ++ dataLines lines' := by
  simp [dataLines]

namespace LineReader

variable {Item : Type} {reader : FrameReader Char Item String}
  {event : List (List Char) → Except String (Option Item)} (lineReader : LineReader reader event)
include lineReader

theorem readEvents_frame {line : List Char} {body : List (List Char)} (noBlank : [] ∉ body)
    (events : List (List (List Char))) :
    readEvents event (sseEvents (line :: body) ++ events) =
      readEvents event ((line :: body) :: events) := by
  unfold sseEvents
  by_cases blank : line = []
  · have split : (line :: body).splitOn [] = [[], body] := by
      rw [blank]
      have parts := List.splitOn_append_cons_self ([] : List (List Char)) body (a := [])
      rw [List.nil_append, List.splitOn_eq_singleton noBlank] at parts
      exact parts
    have same : event (line :: body) = event body := lineReader.data _ _ (by rw [blank]; rfl)
    rw [split, List.cons_append, readEvents, lineReader.nothing]
    dsimp only
    rw [Option.toList_none, Reading.after_nil, List.singleton_append, readEvents, readEvents, same]
  · have split : (line :: body).splitOn [] = [line :: body] := by
      refine List.splitOn_eq_singleton ?_
      rintro (_ | ⟨_, member⟩)
      · exact blank rfl
      · exact noBlank member
    rw [split, List.singleton_append]

theorem readEvents_rest {lines : List (List Char)} (uncut : cutLines lines = none)
    (nonempty : lines ≠ []) : readEvents event (sseEvents lines) = readEvents event [lines] := by
  obtain ⟨line, body, noBlank, rfl | rfl⟩ := cutLines_none uncut nonempty
  · have frame := @readEvents_frame _ _ _ lineReader line body noBlank []
    rwa [List.append_nil] at frame
  · have split : sseEvents (line :: body ++ [[]]) = sseEvents (line :: body) ++ [[]] :=
      List.splitOn_append_cons_self (line :: body) []
    have same : event (line :: body ++ [[]]) = event (line :: body) := by
      refine lineReader.data _ _ ?_
      rw [dataLines_append]
      exact List.append_nil _
    rw [split, lineReader.readEvents_frame noBlank]
    simp only [readEvents, lineReader.nothing, same]
    rfl

theorem conclude_eq {terminator : List Char} (known : terminator ∈ lineTerminators)
    {lines : List (List Char)} (unbroken : ∀ line ∈ lines, Unbroken line) (nonempty : lines ≠ []) :
    reader.conclude (frames reader.terminators (terminator.intercalate lines)).1
        (frames reader.terminators (terminator.intercalate lines)).2 =
      readEvents event (sseEvents lines) := by
  generalize count : lines.length = size
  induction size using Nat.strong_induction_on generalizing lines with
  | _ size shorter
  have next := nextFrame_lines lineReader.boundary known unbroken
  cases cut : cutLines lines with
  | none =>
    rw [cut, Option.map_none] at next
    rw [frames_of_none next, lineReader.readEvents_rest cut nonempty, FrameReader.conclude_nil,
      lineReader.noLimit, if_neg Bool.false_ne_true,
      lineReader.rest terminator known lines nonempty unbroken, readEvents]
    cases event lines with
    | error failure => rfl
    | ok item => simp [readEvents, Reading.after]
  | some parts =>
    obtain ⟨frame, rest⟩ := parts
    rw [cut, Option.map_some] at next
    obtain ⟨line, body, rfl, rfl, noBlank, more⟩ := cutLines_some cut
    have unbrokenFrame : ∀ other ∈ line :: body, Unbroken other := fun other member =>
      unbroken other (List.mem_append_left _ member)
    have unbrokenRest : ∀ other ∈ rest, Unbroken other := fun other member =>
      unbroken other (List.mem_append_right _ (List.mem_cons_of_mem _ member))
    have split : sseEvents (line :: body ++ [] :: rest) = sseEvents (line :: body) ++ sseEvents rest :=
      List.splitOn_append_cons_self (line :: body) rest
    have fewer : rest.length < size := by
      rw [← count, List.length_append, List.length_cons, List.length_cons]
      omega
    have ih := shorter rest.length fewer unbrokenRest more rfl
    have first := lineReader.frame terminator known _ (List.cons_ne_nil line body) unbrokenFrame
    rw [frames_of_some next, split, lineReader.readEvents_frame noBlank, readEvents, ← ih]
    have parts := @FrameReader.conclude_append _ _ _ reader
      [(terminator.intercalate (line :: body), terminator ++ terminator)]
      (frames reader.terminators (terminator.intercalate rest)).1
      (frames reader.terminators (terminator.intercalate rest)).2
    rw [List.singleton_append] at parts
    rw [parts, FrameReader.parseFrames, lineReader.noLimit, if_neg Bool.false_ne_true, first]
    cases event (line :: body) with
    | error failure => rfl
    | ok item => simp [FrameReader.parseFrames, Reading.after]

end LineReader

/-! ## The two parsers -/

theorem mem_intercalate {terminator line : List Char} {lines : List (List Char)} (member : line ∈ lines)
    {character : Char} (within : character ∈ line) : character ∈ terminator.intercalate lines := by
  induction lines with
  | nil => cases member
  | cons first lines ih =>
    cases lines with
    | nil =>
      rw [List.mem_singleton] at member
      rwa [List.intercalate_singleton, ← member]
    | cons second lines =>
      rw [List.intercalate_cons_cons, List.append_assoc]
      rcases List.mem_cons.mp member with rfl | later
      · exact List.mem_append_left _ within
      · exact List.mem_append_right _ (List.mem_append_right _ (ih later))

variable {terminator : List Char}

theorem dataLines_of_blank {lines : List (List Char)}
    (blank : trim isBlankChar (terminator.intercalate lines) = []) : dataLines lines = [] := by
  obtain ⟨before, after, whole, blankBefore, blankAfter⟩ :=
    trim_gaps isBlankChar (terminator.intercalate lines)
  rw [blank, List.nil_append] at whole
  unfold dataLines
  rw [List.map_eq_nil_iff, List.filter_eq_nil_iff]
  intro line member start
  have within : 'd' ∈ line :=
    (List.isPrefixOf_iff_prefix.mp start).subset (by decide)
  have character := @mem_intercalate terminator _ _ member _ within
  rw [whole] at character
  have isBlank : isBlankChar 'd' = true := by
    rcases List.mem_append.mp character with early | late
    · exact blankBefore _ early
    · exact blankAfter _ late
  exact absurd isBlank (by decide)

section SplitLines

variable {splitLines : List Char → List (List Char)} (empty : splitLines [] = [[]])
  (ordinary : ∀ character text, character ≠ carriageReturn → character ≠ lineFeed →
    splitLines (character :: text) = (splitLines text).modifyHead (character :: ·))
  (ends : ∀ terminator ∈ lineTerminators, ∀ text,
    splitLines (terminator ++ text) = [] :: splitLines text)
include ordinary

theorem splitLines_line {line : List Char} (unbroken : Unbroken line) (text : List Char) :
    splitLines (line ++ text) = (splitLines text).modifyHead (line ++ ·) := by
  induction line with
  | nil =>
    show splitLines text = (splitLines text).modifyHead id
    rw [List.modifyHead_id]
    rfl
  | cons character line ih =>
    have unbroken' : Unbroken line :=
      ⟨fun member => unbroken.1 (List.mem_cons_of_mem _ member),
        fun member => unbroken.2 (List.mem_cons_of_mem _ member)⟩
    have notReturn : character ≠ carriageReturn := by
      rintro rfl
      exact unbroken.1 (List.mem_cons_self ..)
    have notFeed : character ≠ lineFeed := by
      rintro rfl
      exact unbroken.2 (List.mem_cons_self ..)
    rw [List.cons_append, ordinary _ _ notReturn notFeed, ih unbroken', List.modifyHead_modifyHead]
    rfl

include empty ends

theorem splitLines_intercalate (known : terminator ∈ lineTerminators) {lines : List (List Char)}
    (nonempty : lines ≠ []) (unbroken : ∀ line ∈ lines, Unbroken line) :
    splitLines (terminator.intercalate lines) = lines := by
  induction lines with
  | nil => exact (nonempty rfl).elim
  | cons line lines ih =>
    have here := unbroken line (List.mem_cons_self ..)
    cases lines with
    | nil =>
      have single := splitLines_line ordinary here []
      rw [List.append_nil, empty] at single
      rw [List.intercalate_singleton, single]
      simp
    | cons next lines =>
      have later := ih (List.cons_ne_nil _ _) fun other member =>
        unbroken other (List.mem_cons_of_mem line member)
      rw [List.intercalate_cons_cons, List.append_assoc, splitLines_line ordinary here,
        ends terminator known, later]
      simp

end SplitLines

variable {Event : Type} (parseObject : List Char → Option Event)

theorem GroqChat.splitLines_lines (known : terminator ∈ lineTerminators) {lines : List (List Char)}
    (nonempty : lines ≠ []) (unbroken : ∀ line ∈ lines, Unbroken line) :
    GroqChat.splitLines (terminator.intercalate lines) = lines := by
  refine splitLines_intercalate rfl ?_ ?_ known nonempty unbroken
  · intro character text notReturn notFeed
    rw [splitLines, if_neg notFeed, if_neg fun both => notReturn both.1]
  · intro terminator known text
    fin_cases known
    · rfl
    · rfl

theorem OpenAiResponses.splitLines_lines (known : terminator ∈ lineTerminators)
    {lines : List (List Char)} (nonempty : lines ≠ []) (unbroken : ∀ line ∈ lines, Unbroken line) :
    OpenAiResponses.splitLines (terminator.intercalate lines) = lines := by
  refine splitLines_intercalate rfl ?_ ?_ known nonempty unbroken
  · intro character text notReturn notFeed
    rw [splitLines, if_neg fun both => notReturn both.1, if_neg fun either => either.elim notReturn notFeed]
  · intro terminator known text
    fin_cases known
    · rfl
    · rfl

theorem GroqChat.lineReader :
    LineReader (GroqChat.sseReader parseObject).unlimited
      fun lines => GroqChat.parseData parseObject (GroqChat.dataOf lines) where
  boundary := GroqChat.lineBoundary
  noLimit _ := rfl
  frame terminator known lines nonempty unbroken := by
    show parseSseFrame parseObject _ = _
    rw [parseSseFrame, splitLines_lines known nonempty unbroken]
  rest terminator known lines nonempty unbroken := by
    show parseSseRest parseObject _ = _
    unfold parseSseRest
    split
    next blank =>
      rw [dataOf, dataLines_of_blank blank]
      rfl
    next => rw [parseSseFrame, splitLines_lines known nonempty unbroken]
  data lines lines' same := by rw [dataOf, dataOf, same]
  nothing := rfl

theorem OpenAiResponses.lineReader :
    LineReader (OpenAiResponses.sseReader parseObject)
      fun lines => OpenAiResponses.parseData parseObject (OpenAiResponses.dataOf lines) where
  boundary := OpenAiResponses.lineBoundary
  noLimit _ := rfl
  frame terminator known lines nonempty unbroken := by
    show parseSseFrame parseObject _ = _
    rw [parseSseFrame, splitLines_lines known nonempty unbroken]
  rest terminator known lines nonempty unbroken := by
    show parseSseFrame parseObject _ = _
    rw [parseSseFrame, splitLines_lines known nonempty unbroken]
  data lines lines' same := by rw [dataOf, dataOf, same]
  nothing := rfl

theorem OpenAiResponses.parseSse_eq (reads : List (List Char)) (last : List Char) :
    OpenAiResponses.parseSse parseObject reads last =
      OpenAiResponses.parseSse parseObject [] (reads.flatten ++ last) :=
  @FrameReader.read_unlimited _ _ _ _ (OpenAiResponses.sseReader parseObject) reads last []

theorem OpenAiResponses.parseSse_events (known : terminator ∈ lineTerminators)
    {lines : List (List Char)} (nonempty : lines ≠ []) (unbroken : ∀ line ∈ lines, Unbroken line)
    {reads : List (List Char)} {last : List Char}
    (whole : reads.flatten ++ last = terminator.intercalate lines) :
    OpenAiResponses.parseSse parseObject reads last =
      readEvents (fun lines => parseData parseObject (dataOf lines)) (sseEvents lines) := by
  rw [parseSse_eq, whole, parseSse, FrameReader.read_at_once, List.nil_append]
  exact (lineReader parseObject).conclude_eq known unbroken nonempty

theorem GroqChat.parseSse_events (known : terminator ∈ lineTerminators) {lines : List (List Char)}
    (nonempty : lines ≠ []) (unbroken : ∀ line ∈ lines, Unbroken line) {reads : List (List Char)}
    {last : List Char} (whole : reads.flatten ++ last = terminator.intercalate lines) :
    let reading := GroqChat.parseSse parseObject reads last
    let events := readEvents (fun lines => parseData parseObject (dataOf lines)) (sseEvents lines)
    reading = events ∨ reading.failure = some limitMessage ∧ reading.items <+: events.items := by
  have cut := @FrameReader.read_cutOff _ _ _ _ (sseReader parseObject) reads last []
  have unlimited : (sseReader parseObject).unlimited.read reads last [] =
      readEvents (fun lines => parseData parseObject (dataOf lines)) (sseEvents lines) := by
    rw [FrameReader.read_unlimited, whole, FrameReader.read_at_once, List.nil_append]
    exact (lineReader parseObject).conclude_eq known unbroken nonempty
  rw [unlimited] at cut
  exact cut

/-- Both parsers read a stream in the same way however it is divided, and one whose lines all end alike
by its events; Groq's may refuse a frame for its size. -/
structure SseFaithful (text : List Char) : Prop where
  groq : ∀ reads last reads' last', reads.flatten ++ last = text → reads'.flatten ++ last' = text →
    (GroqChat.parseSse parseObject reads last).SameEnd (GroqChat.parseSse parseObject reads' last')
  openAi : ∀ reads last reads' last', reads.flatten ++ last = text → reads'.flatten ++ last' = text →
    OpenAiResponses.parseSse parseObject reads last = OpenAiResponses.parseSse parseObject reads' last'
  groqEvents : ∀ terminator ∈ lineTerminators, ∀ lines, lines ≠ [] →
    (∀ line ∈ lines, Unbroken line) → text = terminator.intercalate lines →
    ∀ reads last, reads.flatten ++ last = text →
    let reading := GroqChat.parseSse parseObject reads last
    let events := readEvents (fun lines => GroqChat.parseData parseObject (GroqChat.dataOf lines))
      (sseEvents lines)
    reading = events ∨
      reading.failure = some GroqChat.limitMessage ∧ reading.items <+: events.items
  openAiEvents : ∀ terminator ∈ lineTerminators, ∀ lines, lines ≠ [] →
    (∀ line ∈ lines, Unbroken line) → text = terminator.intercalate lines →
    ∀ reads last, reads.flatten ++ last = text →
    OpenAiResponses.parseSse parseObject reads last =
      readEvents
        (fun lines => OpenAiResponses.parseData parseObject (OpenAiResponses.dataOf lines))
        (sseEvents lines)

theorem byteLength_append (text more : List Char) :
    byteLength (text ++ more) = byteLength text + byteLength more := by
  unfold byteLength
  rw [List.map_append, List.sum_append]

theorem byteLength_replicate (count : Nat) (character : Char) :
    byteLength (List.replicate count character) = count * character.utf8Size := by
  induction count with
  | zero => simp [byteLength]
  | succ count ih =>
    rw [List.replicate_succ, ← List.singleton_append, byteLength_append, ih, Nat.succ_mul, Nat.add_comm]
    rfl

theorem GroqChat.exceedsLimit_append {text more : List Char} (long : exceedsLimit text = true) :
    exceedsLimit (text ++ more) = true := by
  unfold exceedsLimit at long ⊢
  rw [decide_eq_true_eq] at long ⊢
  rw [byteLength_append]
  exact Nat.lt_add_right _ long

theorem GroqChat.not_uncaught_line {line : List Char} (unbroken : Unbroken line)
    (size : byteLength line = maxSseFrameBytes) (noData : dataLines [line] = []) :
    ¬(sseReader parseObject).Uncaught (line ++ [lineFeed, lineFeed]) := by
  intro uncaught
  have next : nextFrame boundary (line ++ [lineFeed, lineFeed]) =
      some (line, [lineFeed, lineFeed], []) := by
    rw [nextFrame_line lineBoundary unbroken]
    show (nextFrame boundary [lineFeed, lineFeed]).map _ = _
    rw [show nextFrame boundary [lineFeed, lineFeed] = some ([], [lineFeed, lineFeed], []) by decide]
    simp
  have cut : frames boundary (line ++ [lineFeed, lineFeed]) = ([(line, [lineFeed, lineFeed])], []) := by
    rw [frames_of_some next, frames_of_none rfl]
  have caught : (sseReader parseObject).Caught line [lineFeed, lineFeed] := by
    constructor
    · show decide (maxSseFrameBytes < byteLength line) = false
      simp [size]
    · show decide (maxSseFrameBytes < byteLength (line ++ [lineFeed])) = true
      rw [byteLength_append, size]
      decide
  have parsed : (sseReader parseObject).parseFrame line = .ok none := by
    have split := @splitLines_lines [lineFeed] (by decide) [line] (List.cons_ne_nil line [])
      (by simpa using unbroken)
    rw [List.intercalate_singleton] at split
    show parseSseFrame parseObject line = _
    rw [parseSseFrame, split, dataOf, noData]
    rfl
  obtain ⟨-, failed⟩ := uncaught [] line [lineFeed, lineFeed] []
    (congrArg Prod.fst cut) rfl caught
  rw [show (frames (sseReader parseObject).terminators (line ++ [lineFeed, lineFeed])).2 = [] from
    congrArg Prod.snd cut] at failed
  have read : (sseReader parseObject).parseFrames [(line, [lineFeed, lineFeed])] = ⟨[], none⟩ := by
    rw [FrameReader.parseFrames, caught.1, if_neg Bool.false_ne_true, parsed]
    rfl
  rw [FrameReader.conclude, read] at failed
  exact absurd failed Bool.false_ne_true

/-- A comment as long as the limit allows. -/
def longComment : List Char := ':' :: List.replicate 1048575 ' '

end Tvic
