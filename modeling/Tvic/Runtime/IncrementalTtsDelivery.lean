import Tvic.Runtime.IncrementalTtsInput

/-!
# What incremental speech synthesis sends

Both ways of batching take whole characters in their order; a batch is cut where the scan of
`findBatchBoundary` has been, which is a place between two characters.
-/
namespace Tvic

open Lib

/-! ## The boundary of a batch -/

/-- What the scan knows after some characters. -/
structure Scanned (maximum : Nat) (done : List Text) (scan : BoundaryScan) : Prop where
  counted : scan.characters = done.flatten.length
  safe : scan.safeBoundary = scan.characters
  fits : scan.characters ≤ maximum
  started : scan.firstNonWhitespace = true → 1 ≤ scan.characters
  word : scan.lastWordBoundary = 0 ∨ 2 ≤ scan.lastWordBoundary ∧
    ∃ front back, done = front ++ back ∧ scan.lastWordBoundary = front.flatten.length

variable {maximum : Nat}

theorem scanBoundary_scanned (rest : List Text) {done : List Text} {scan : BoundaryScan}
    (scanned : Scanned maximum done scan) (nonempty : ∀ character ∈ rest, 1 ≤ character.length) :
    ∃ front back, done ++ rest = front ++ back ∧
      Scanned maximum front (scanBoundary maximum scan rest) ∧
      ∀ character ∈ back.head?, maximum < front.flatten.length + character.length := by
  induction rest generalizing done scan with
  | nil => exact ⟨done, [], rfl, scanned, by simp⟩
  | cons character rest ih =>
    rw [scanBoundary]
    split
    next full =>
      refine ⟨done, character :: rest, rfl, scanned, ?_⟩
      rintro _ ⟨⟩
      rw [← scanned.counted]
      exact full
    next room =>
      have positive := nonempty character (by simp)
      have counted := scanned.counted
      have next : Scanned maximum (done ++ [character])
          { characters := scan.characters + character.length
            lastWordBoundary :=
              if character.any isWhitespace && scan.firstNonWhitespace then
                scan.characters + character.length
              else scan.lastWordBoundary
            firstNonWhitespace := scan.firstNonWhitespace || !character.any isWhitespace
            safeBoundary := scan.characters + character.length } := by
        refine ⟨by simp [counted], rfl, by simpa using room, fun _ => by simp; omega, ?_⟩
        dsimp only
        split
        next boundary =>
          -- a word has begun before this white space
          rw [Bool.and_eq_true] at boundary
          have started := scanned.started boundary.2
          exact .inr ⟨by omega, done ++ [character], [], by simp, by simp [counted]⟩
        next =>
          rcases scanned.word with none | ⟨two, front, back, rfl, found⟩
          · exact .inl none
          · exact .inr ⟨two, front, back ++ [character], by simp, found⟩
      have later := ih next fun other member => nonempty other (List.mem_cons_of_mem _ member)
      rwa [List.append_assoc, List.singleton_append] at later

theorem findBatchBoundary_spec (text : Text) (maximum : Nat) :
    ∃ front back, characters text = front ++ back ∧
      findBatchBoundary text maximum = front.flatten.length ∧
      findBatchBoundary text maximum ≤ maximum ∧
      (2 ≤ findBatchBoundary text maximum ∨
        ∀ character ∈ back.head?, maximum < front.flatten.length + character.length) := by
  have start : Scanned maximum []
      { characters := 0, lastWordBoundary := 0, firstNonWhitespace := false, safeBoundary := 0 } :=
    ⟨rfl, rfl, Nat.zero_le _, nofun, .inl rfl⟩
  obtain ⟨front, back, split, scanned, full⟩ :=
    scanBoundary_scanned (characters text) start fun _ member => (character_length member).1
  rw [List.nil_append] at split
  unfold findBatchBoundary
  dsimp only
  have counted := scanned.counted
  have fits := scanned.fits
  rcases scanned.word with none | ⟨two, word, others, rfl, found⟩
  · rw [none, if_neg (Nat.lt_irrefl 0), scanned.safe]
    exact ⟨front, back, split, counted, fits, .inr full⟩
  · rw [if_pos (by omega)]
    refine ⟨word, others ++ back, by simpa using split, found, ?_, .inl two⟩
    rw [List.flatten_append, List.length_append] at counted
    omega

theorem findBatchBoundary_pos {text : Text} (some_text : text ≠ [])
    (fit : ∀ character ∈ characters text, character.length ≤ maximum) :
    1 ≤ findBatchBoundary text maximum := by
  obtain ⟨front, back, split, boundary, -, two | full⟩ := findBatchBoundary_spec text maximum
  · omega
  · by_contra zero
    have are := areCharacters_characters text
    rw [split] at are
    have empty : front = [] := by
      apply flatten_eq_nil_of_areCharacters are.split.1
      rw [← List.length_eq_zero_iff]
      omega
    subst empty
    cases back with
    | nil =>
      have := characters_flatten text
      rw [split] at this
      exact some_text this.symm
    | cons character rest =>
      have ceased := full character rfl
      have fits := fit character (by rw [split]; simp)
      simp only [List.flatten_nil, List.length_nil] at ceased
      omega

theorem findBatchBoundary_inside {text : Text} (fits : text.length ≤ maximum)
    (inside : findBatchBoundary text maximum < text.length) :
    2 ≤ findBatchBoundary text maximum := by
  obtain ⟨front, back, split, boundary, -, two | full⟩ := findBatchBoundary_spec text maximum
  · exact two
  · have whole : text.length = front.flatten.length + back.flatten.length := by
      rw [← List.length_append, ← List.flatten_append, ← split, characters_flatten]
    cases back with
    | nil =>
      rw [List.flatten_nil, List.length_nil] at whole
      omega
    | cons character rest =>
      have ceased := full character rfl
      simp only [List.flatten_cons, List.length_append] at whole
      omega

theorem characters_take_drop_boundary (text : Text) (maximum : Nat) :
    characters (text.take (findBatchBoundary text maximum)) ++
      characters (text.drop (findBatchBoundary text maximum)) = characters text := by
  obtain ⟨front, back, split, boundary, -, -⟩ := findBatchBoundary_spec text maximum
  have are := areCharacters_characters text
  have whole : text = front.flatten ++ back.flatten := by
    rw [← List.flatten_append, ← split, characters_flatten]
  rw [split] at are ⊢
  rw [boundary]
  conv_lhs => rw [whole]
  rw [List.take_left, List.drop_left, are.split.1, are.split.2.1]

/-! ## Splitting a text -/

theorem splitRounds_spec {maximum rounds : Nat} (text : Text) (enough : text.length ≤ rounds)
    (fit : ∀ character ∈ characters text, character.length ≤ maximum) :
    ∃ batches, splitRounds maximum rounds text = some batches ∧
      Batched batches (characters text) ∧
      ∀ batch ∈ batches, batch ≠ [] ∧ batch.length ≤ maximum := by
  have last : ∀ text : Text, ¬ maximum < text.length →
      Batched (splitRounds.lastBatch text) (characters text) ∧
        ∀ batch ∈ splitRounds.lastBatch text, batch ≠ [] ∧ batch.length ≤ maximum := by
    intro text short
    unfold splitRounds.lastBatch
    split
    next empty => rw [List.isEmpty_iff.mp empty]; exact ⟨rfl, by simp⟩
    next filled =>
      refine ⟨by simp [Batched], ?_⟩
      intro batch member
      rw [List.mem_singleton.mp member]
      exact ⟨fun empty => filled (List.isEmpty_iff.mpr empty), by omega⟩
  induction rounds generalizing text with
  | zero =>
    have short : ¬ maximum < text.length := by omega
    rw [splitRounds, if_neg short]
    exact ⟨_, rfl, last text short⟩
  | succ rounds ih =>
    rw [splitRounds]
    split
    next long =>
      have some_text : text ≠ [] := by
        rintro rfl
        simp at long
      have progress := findBatchBoundary_pos some_text fit
      obtain ⟨-, -, -, -, bounded, -⟩ := findBatchBoundary_spec text maximum
      have parts := characters_take_drop_boundary text maximum
      obtain ⟨batches, found, batched, sized⟩ :=
        ih (text.drop (findBatchBoundary text maximum)) (by rw [List.length_drop]; omega)
          fun character member => fit character (by rw [← parts]; simp [member])
      refine ⟨_, by dsimp only; rw [found]; rfl, ?_, ?_⟩
      · rw [Batched, List.flatMap_cons, batched, parts]
      · intro batch member
        rcases List.mem_cons.mp member with rfl | later
        · constructor
          · rw [ne_eq, List.take_eq_nil_iff]
            rintro (zero | empty)
            · omega
            · exact some_text empty
          · rw [List.length_take]
            omega
        · exact sized batch later
    next short => exact ⟨_, rfl, last text short⟩

/-! ## Gathering sentences -/

/-- The variables of the loop, once the characters `seen` have gone in. -/
structure Gathered (maximum : Nat) (seen : List Text) (state : SentenceBatches) : Prop where
  batched : state.batches.flatMap characters ++ state.batch = seen
  counted : state.batchCharacters = state.batch.flatten.length
  bounded : 2 ≤ maximum → state.batchCharacters ≤ maximum
  sized : ∀ batch ∈ state.batches, batch ≠ [] ∧ (2 ≤ maximum → batch.length ≤ maximum)

namespace Gathered

variable {maximum : Nat} {seen : List Text} {state : SentenceBatches}

theorem batch_characters (gathered : Gathered maximum seen state) (are : AreCharacters seen) :
    AreCharacters state.batch := by
  rw [← gathered.batched] at are
  exact are.split.2.1

theorem flushBatch (gathered : Gathered maximum seen state) (are : AreCharacters seen) :
    Gathered maximum seen state.flushBatch ∧ state.flushBatch.batch = [] := by
  have own := gathered.batch_characters are
  have counted := gathered.counted
  unfold SentenceBatches.flushBatch
  split
  next none =>
    refine ⟨gathered, flatten_eq_nil_of_areCharacters own (List.length_eq_zero_iff.mp ?_)⟩
    omega
  next =>
    refine ⟨⟨?_, rfl, fun _ => Nat.zero_le _, ?_⟩, rfl⟩
    · have whole : characters state.batch.flatten = state.batch := own
      simp only [List.flatMap_append, List.flatMap_singleton, List.append_nil, whole]
      exact gathered.batched
    · intro batch member
      rcases List.mem_append.mp member with old | new
      · exact gathered.sized batch old
      · rw [List.mem_singleton.mp new]
        refine ⟨?_, fun two => counted ▸ gathered.bounded two⟩
        intro empty
        rw [empty] at counted
        contradiction

theorem makeRoom (gathered : Gathered maximum seen state) (are : AreCharacters seen) :
    Gathered maximum seen (state.makeRoom maximum) ∧
      (2 ≤ maximum → (state.makeRoom maximum).batchCharacters + 2 ≤ maximum) := by
  have own : characters state.batch.flatten = state.batch := gathered.batch_characters are
  have counted := gathered.counted
  have parts := characters_take_drop_boundary state.batch.flatten maximum
  obtain ⟨-, -, -, -, within, -⟩ := findBatchBoundary_spec state.batch.flatten maximum
  rw [own] at parts
  unfold SentenceBatches.makeRoom
  dsimp only
  split
  next inside =>
    -- the rest is carried on; it leaves room since the cut is behind a word
    have cut : 2 ≤ maximum → state.batch.flatten.length ≤ maximum ∧
        2 ≤ findBatchBoundary state.batch.flatten maximum := by
      intro two
      have fits := gathered.bounded two
      rw [counted] at fits
      exact ⟨fits, findBatchBoundary_inside fits inside.2⟩
    refine ⟨⟨?_, ?_, ?_, ?_⟩, ?_⟩
    · rw [List.flatMap_append, List.flatMap_singleton, List.append_assoc, parts]
      exact gathered.batched
    · rw [characters_flatten, List.length_drop]
    · intro two
      have := cut two
      dsimp only
      omega
    · intro batch member
      rcases List.mem_append.mp member with old | new
      · exact gathered.sized batch old
      · rw [List.mem_singleton.mp new]
        constructor
        · intro empty
          have length := congrArg List.length empty
          rw [List.length_take, List.length_nil] at length
          omega
        · intro _
          rw [List.length_take]
          omega
    · intro two
      have := cut two
      dsimp only
      omega
  next =>
    obtain ⟨flushed, empty⟩ := gathered.flushBatch are
    refine ⟨flushed, fun two => ?_⟩
    rw [flushed.counted, empty]
    exact two

theorem addCharacter (gathered : Gathered maximum seen state) (are : AreCharacters seen)
    {character : Text} (small : character.length ≤ 2) :
    Gathered maximum (seen ++ [character]) (state.addCharacter maximum character) := by
  -- with the character the batch is within its bound
  have push : ∀ {state : SentenceBatches}, Gathered maximum seen state →
      (2 ≤ maximum → state.batchCharacters + character.length ≤ maximum) →
      Gathered maximum (seen ++ [character])
        { state with
          batch := state.batch ++ [character]
          batchCharacters := state.batchCharacters + character.length } := by
    intro state gathered fits
    refine ⟨?_, ?_, fits, gathered.sized⟩
    · rw [← List.append_assoc, gathered.batched]
    · simp [gathered.counted]
  unfold SentenceBatches.addCharacter
  split
  next =>
    obtain ⟨made, room⟩ := gathered.makeRoom are
    exact push made fun two => by have := room two; omega
  next fits => exact push gathered fun _ => by omega

theorem addCharacters {added : List Text} (gathered : Gathered maximum seen state)
    (are : AreCharacters (seen ++ added)) :
    Gathered maximum (seen ++ added)
      (added.foldl (SentenceBatches.addCharacter maximum) state) := by
  induction added generalizing seen state with
  | nil => simpa using gathered
  | cons character rest ih =>
    rw [List.append_cons] at are ⊢
    have small : character.length ≤ 2 := by
      have member : character ∈ characters (seen ++ [character] ++ rest).flatten := by
        rw [show characters _ = _ from are]
        simp
      exact (character_length member).2
    have before : AreCharacters seen := are.split.1.split.1
    exact ih (gathered.addCharacter before small) are

end Gathered

/-! ## Complete sentences -/

theorem exists_last_of_endsCharacters {rules : SentenceRules} {texts : List Text}
    (ends : rules.endsCharacters texts = true) :
    ∃ front last, texts = front ++ [last] ∧
      (rules.terminal last = true ∨ rules.closing last = true) := by
  induction texts with
  | nil => cases ends
  | cons character rest ih =>
    rw [SentenceRules.endsCharacters, Bool.or_eq_true, Bool.and_eq_true] at ends
    rcases ends with ⟨terminal, closing⟩ | later
    · rcases List.eq_nil_or_concat rest with rfl | ⟨front, last, rfl⟩
      · exact ⟨[], character, rfl, .inl terminal⟩
      · rw [List.all_eq_true] at closing
        exact ⟨character :: front, last, by simp, .inr (closing last (by simp))⟩
    · obtain ⟨front, last, rfl, either⟩ := ih later
      exact ⟨character :: front, last, rfl, either⟩

theorem endsHigh_of_endsSentence {rules : SentenceRules} {segment : Text}
    (ends : rules.endsSentence segment = true) : segment ≠ [] ∧ endsHigh segment = false := by
  obtain ⟨front, last, split, either⟩ := exists_last_of_endsCharacters ends
  have whole : segment = front.flatten ++ last := by
    rw [← characters_flatten segment, split]
    simp
  have member : last ∈ characters segment := by
    rw [split]
    simp
  have filled : last ≠ [] := (areCharacters_characters segment).ne_nil member
  refine ⟨by rw [whole]; simp [filled], ?_⟩
  rw [whole, endsHigh_append_of_ne_nil _ filled]
  rcases character_shape member with ⟨unit, rfl⟩ | ⟨high, low, rfl, -, paired⟩
  · rw [endsHigh_singleton]
    by_contra half
    have surrogate : isSurrogate unit = true := by simp_all [isSurrogate]
    rcases either with terminal | closing
    · rw [rules.terminal_surrogate unit surrogate] at terminal
      cases terminal
    · rw [rules.closing_surrogate unit surrogate] at closing
      cases closing
  · exact isHighSurrogate_of_low paired

/-- What the loop over the sentences keeps: all it has seen is whole and gathered. -/
structure SentencesGathered (maximum : Nat) (taken : Text) (state : SentenceBatches) : Prop where
  gathered : Gathered maximum (characters taken) state
  consumed : state.consumed = taken.length
  whole : endsHigh taken = false

theorem addSentence_gathered {rules : SentenceRules} {taken segment : Text}
    {state : SentenceBatches} (before : SentencesGathered maximum taken state)
    (ends : rules.endsSentence segment = true) :
    SentencesGathered maximum (taken ++ segment) (state.addSentence maximum segment) := by
  obtain ⟨filled, whole⟩ := endsHigh_of_endsSentence ends
  have split : characters (taken ++ segment) = characters taken ++ characters segment :=
    characters_append (by rw [splitsPair, before.whole, Bool.false_and])
  have are : AreCharacters (characters taken ++ characters segment) :=
    split ▸ areCharacters_characters _
  have counted : Gathered maximum (characters taken)
      { state with sentenceCount := state.sentenceCount + 1 } :=
    ⟨before.gathered.batched, before.gathered.counted, before.gathered.bounded,
      before.gathered.sized⟩
  have added := counted.addCharacters are
  refine ⟨?_, by simp [SentenceBatches.addSentence, before.consumed], ?_⟩
  · rw [split]
    unfold SentenceBatches.addSentence
    dsimp only
    split
    · obtain ⟨flushed, -⟩ := added.flushBatch are
      exact ⟨flushed.batched, flushed.counted, flushed.bounded, flushed.sized⟩
    · exact ⟨added.batched, added.counted, added.bounded, added.sized⟩
  · rw [endsHigh_append_of_ne_nil _ filled, whole]

theorem addSentences_gathered (rules : SentenceRules) (segments : List Text) {taken : Text}
    {state : SentenceBatches} (before : SentencesGathered maximum taken state)
    (ends : ∀ segment ∈ segments, rules.endsSentence segment = true) :
    SentencesGathered maximum (taken ++ segments.flatten)
      (segments.foldl (SentenceBatches.addSentence maximum) state) := by
  induction segments generalizing taken state with
  | nil => simpa using before
  | cons segment rest ih =>
    have later := ih (addSentence_gathered before (ends segment (by simp)))
      fun other member => ends other (List.mem_cons_of_mem _ member)
    simpa using later

theorem takeCompleteSentences_spec (rules : SentenceRules) (maximum : Nat) (buffer : Text) :
    ∃ taken, taken ++ (takeCompleteSentences rules maximum buffer).2 = buffer ∧
      endsHigh taken = false ∧
      Batched (takeCompleteSentences rules maximum buffer).1 (characters taken) ∧
      ∀ batch ∈ (takeCompleteSentences rules maximum buffer).1,
        batch ≠ [] ∧ (2 ≤ maximum → batch.length ≤ maximum) := by
  have start : SentencesGathered maximum [] SentenceBatches.empty :=
    ⟨⟨rfl, rfl, fun _ => Nat.zero_le _, by simp [SentenceBatches.empty]⟩, rfl, rfl⟩
  have sentences := addSentences_gathered rules
    ((rules.segment buffer).takeWhile rules.endsSentence) start
    (List.all_eq_true.mp List.all_takeWhile)
  rw [List.nil_append] at sentences
  have front : ((rules.segment buffer).takeWhile rules.endsSentence).flatten ++
      ((rules.segment buffer).dropWhile rules.endsSentence).flatten = buffer := by
    rw [← List.flatten_append, List.takeWhile_append_dropWhile, rules.segment_flatten]
  obtain ⟨flushed, empty⟩ := sentences.gathered.flushBatch (areCharacters_characters _)
  have consumed : (SentenceBatches.flushBatch (List.foldl (SentenceBatches.addSentence maximum)
      SentenceBatches.empty ((rules.segment buffer).takeWhile rules.endsSentence))).consumed =
      ((rules.segment buffer).takeWhile rules.endsSentence).flatten.length := by
    rw [← sentences.consumed, SentenceBatches.flushBatch]
    split <;> rfl
  have remaining : ∀ {taken rest buffer : Text}, taken ++ rest = buffer →
      taken ++ buffer.drop taken.length = buffer := by
    rintro taken rest _ rfl
    rw [List.drop_left]
  refine ⟨((rules.segment buffer).takeWhile rules.endsSentence).flatten, ?_, sentences.whole, ?_,
    flushed.sized⟩
  · unfold takeCompleteSentences SentenceBatches.addSentences
    dsimp only
    rw [consumed]
    exact remaining front
  · have batched := flushed.batched
    rw [empty, List.append_nil] at batched
    exact batched

/-! ## Operations -/

/-- The provider's session opens and takes every text. -/
structure TtsProvider.Reliable {ε : Type} (provider : TtsProvider ε) : Prop where
  opens : provider.openError = none
  sends : ∀ number, provider.sendError number = none

def pushedTokens (calls : List TtsCall) : List Text :=
  calls.filterMap fun
    | .pushToken text => some text
    | _ => none

def pushedText (calls : List TtsCall) : Text := (pushedTokens calls).flatten

@[simp] theorem pushedText_nil : pushedText [] = [] := rfl

@[simp] theorem pushedText_append (first second : List TtsCall) :
    pushedText (first ++ second) = pushedText first ++ pushedText second := by
  simp [pushedText, pushedTokens]

@[simp] theorem pushedText_pushToken (text : Text) : pushedText [.pushToken text] = text := by
  simp [pushedText, pushedTokens]

@[simp] theorem pushedText_flushBoundary : pushedText [.flushBoundary] = [] := rfl

def FlushedAfter (calls : List TtsCall) (text : Text) : Prop :=
  ∃ before after, calls = before ++ .flushBoundary :: after ∧ pushedText before = text

variable {calls : List TtsCall}

theorem FlushedAfter.append {text : Text} (flushed : FlushedAfter calls text) (more : List TtsCall)
    :
    FlushedAfter (calls ++ more) text := by
  obtain ⟨before, after, rfl, pushed⟩ := flushed
  exact ⟨before, after ++ more, by simp, pushed⟩

def NoPair (text : Text) : Prop := ∀ left right, text = left ++ right → splitsPair left right = false

theorem characters_fit {whole : Text} (before text after : Text) (positive : 1 ≤ maximum)
    (room : 2 ≤ maximum ∨ NoPair whole) (part : whole = before ++ text ++ after) :
    ∀ character ∈ characters text, character.length ≤ maximum := by
  intro character member
  have small := (character_length member).2
  rcases room with two | none
  · omega
  · rcases character_shape member with ⟨unit, rfl⟩ | ⟨high, low, rfl, isHigh, isLow⟩
    · simpa using positive
    · -- a pair would be one of the whole text
      obtain ⟨left, right, split⟩ := List.append_of_mem member
      have text_eq : text = (left.flatten ++ [high]) ++ ([low] ++ right.flatten) := by
        rw [← characters_flatten text, split]
        simp
      have apart := none (before ++ (left.flatten ++ [high])) ([low] ++ right.flatten ++ after)
        (by rw [part, text_eq]; simp)
      rw [splitsPair_append_left _ (by simp), splitsPair_append_left _ (by simp), splitsPair] at apart
      simp [isHigh, isLow] at apart

namespace IncrementalTtsInput

variable {ε : Type} {rules : SentenceRules} {provider : TtsProvider ε} {maximum : Nat}

theorem sendSentences_reliable (reliable : provider.Reliable) (batches : List Text)
    (input : IncrementalTtsInput ε) :
    ∃ flushes flushError, input.sendSentences provider batches =
      ({ input with sent := input.sent ++ batches, flushes, flushError }, .ok ()) := by
  induction batches generalizing input with
  | nil => exact ⟨input.flushes, input.flushError, by simp [sendSentences]⟩
  | cons batch rest ih =>
    rw [sendSentences, reliable.opens]
    simp only [sendText, reliable.sends]
    obtain ⟨flushes, flushError, later⟩ :=
      ih ({ input with sent := input.sent ++ [batch] }.flushAndRemember provider)
    refine ⟨flushes, flushError, ?_⟩
    rw [later]
    simp [flushAndRemember]

theorem sendAll_reliable (reliable : provider.Reliable) (batches : List Text)
    (input : IncrementalTtsInput ε) :
    input.sendAll provider batches = ({ input with sent := input.sent ++ batches }, .ok ()) := by
  induction batches generalizing input with
  | nil => simp [sendAll]
  | cons batch rest ih =>
    simp only [sendAll, sendText, reliable.sends, ih, List.append_assoc, List.singleton_append]

/-- What is always so before `finish`: the buffer is the end of the text, and there is a session
wherever there is text. -/
structure Open (calls : List TtsCall) (input : IncrementalTtsInput ε) : Prop where
  suffix : ∃ gone, gone ++ input.buffer = pushedText calls
  accepting : input.finishing = false
  open_session : input.session = .opening ∨ input.session = .missing ∧ input.buffer = []

/-- What is so as long as the buffer has not overflowed. -/
structure Conserved (maximum : Nat) (calls : List TtsCall) (input : IncrementalTtsInput ε) :
    Prop where
  text : input.sent.flatten ++ input.buffer = pushedText calls
  sized : ∀ text ∈ input.sent, text ≠ [] ∧ (2 ≤ maximum → text.length ≤ maximum)
  inside : PartsOnlyAt (FlushedAfter calls) input.sent
  last : endsHigh input.sent.flatten = true → FlushedAfter calls input.sent.flatten

variable {input : IncrementalTtsInput ε}

theorem Conserved.sentTexts (conserved : Conserved maximum calls input) {batches : List Text}
    {taken : Text} (batched : Batched batches (characters taken))
    (sized : ∀ batch ∈ batches, batch ≠ [] ∧ (2 ≤ maximum → batch.length ≤ maximum)) :
    (input.sent ++ batches).flatten = input.sent.flatten ++ taken ∧
      (∀ text ∈ input.sent ++ batches, text ≠ [] ∧ (2 ≤ maximum → text.length ≤ maximum)) ∧
      PartsOnlyAt (FlushedAfter calls) (input.sent ++ batches) := by
  refine ⟨by rw [List.flatten_append, batched.flatten, characters_flatten], ?_, ?_⟩
  · intro text member
    rcases List.mem_append.mp member with early | new
    · exact conserved.sized text early
    · exact sized text new
  · exact conserved.inside.append (fun text member => (conserved.sized text member).1)
      conserved.last batched (areCharacters_characters taken)

theorem Conserved.send {input next : IncrementalTtsInput ε}
    (conserved : Conserved maximum calls input) (batches : List Text) (taken : Text)
    (batched : Batched batches (characters taken))
    (sized : ∀ batch ∈ batches, batch ≠ [] ∧ (2 ≤ maximum → batch.length ≤ maximum))
    (sent : next.sent = input.sent ++ batches) (more : List TtsCall)
    (text : input.sent.flatten ++ taken ++ next.buffer = pushedText (calls ++ more))
    (last : endsHigh taken = true → FlushedAfter (calls ++ more) (input.sent.flatten ++ taken)) :
    Conserved maximum (calls ++ more) next := by
  obtain ⟨flat, all, inside⟩ := conserved.sentTexts batched sized
  rw [← sent] at flat all inside
  refine ⟨by rw [flat, text], all, ?_, ?_⟩
  · intro first second split parted
    exact (inside first second split parted).append more
  · rw [flat]
    by_cases none : taken = []
    · subst none
      rw [List.append_nil]
      exact fun high => (conserved.last high).append more
    · rw [endsHigh_append_of_ne_nil _ none]
      exact last

/-- The ways of `pushToken` with a reliable provider: an empty token, a buffer that overflows, and a
front of the buffer that is sent. -/
theorem pushToken_cases (reliable : provider.Reliable) (opened : input.Open calls) (text : Text) :
    let result := input.pushToken rules provider maximum text
    (text = [] ∧ result = (input, .ok ())) ∨
      (result.1.finishing = false ∧ result.1.session = .opening ∧
        (result.1.buffer = [] ∧
            result.2 = .error (.resourceLimit "incremental TTS input buffer" "bytes"
              maxRuntimeIncrementalTtsBufferBytes) ∨
          result.2 = .ok () ∧
            ∃ batches taken, taken ++ result.1.buffer = input.buffer ++ text ∧
              endsHigh taken = false ∧ Batched batches (characters taken) ∧
              (∀ batch ∈ batches, batch ≠ [] ∧ (2 ≤ maximum → batch.length ≤ maximum)) ∧
              result.1.sent = input.sent ++ batches)) := by
  intro result
  by_cases empty : text.isEmpty = true
  · left
    exact ⟨List.isEmpty_iff.mp empty, by simp only [result, pushToken, empty, if_true]⟩
  · right
    have session : (if input.session = .missing then .opening else input.session) =
        TtsSessionState.opening := by
      rcases opened.open_session with opening | ⟨missing, -⟩
      · rw [opening]
        rfl
      · rw [if_pos missing]
    have accepting := opened.accepting
    simp only [result, pushToken, if_neg empty, session, accepting, Bool.false_eq_true, if_false]
    split
    next => exact ⟨rfl, rfl, .inl ⟨rfl, rfl⟩⟩
    next =>
      split
      next =>
        obtain ⟨taken, whole, high, batched, sized⟩ :=
          takeCompleteSentences_spec rules maximum (input.buffer ++ text)
        obtain ⟨flushes, flushError, sent⟩ := sendSentences_reliable reliable
          (takeCompleteSentences rules maximum (input.buffer ++ text)).1
          { input with
            buffer := (takeCompleteSentences rules maximum (input.buffer ++ text)).2
            session := .opening
            finishing := false }
        rw [sent]
        exact ⟨rfl, rfl, .inr ⟨rfl, _, taken, whole, high, batched, sized, rfl⟩⟩
      next => exact ⟨rfl, rfl, .inr ⟨rfl, [], [], rfl, rfl, rfl, by simp, by simp⟩⟩

theorem pushToken_open (reliable : provider.Reliable) (opened : input.Open calls) (text : Text) :
    (input.pushToken rules provider maximum text).1.Open (calls ++ [.pushToken text]) := by
  obtain ⟨gone, whole⟩ := opened.suffix
  rcases pushToken_cases reliable opened text with
    ⟨rfl, result⟩ | ⟨accepting, session, ⟨cleared, -⟩ | ⟨-, -, taken, front, -, -, -, -⟩⟩
  · rw [result]
    exact ⟨⟨gone, by simpa using whole⟩, opened.accepting, opened.open_session⟩
  · exact ⟨⟨pushedText (calls ++ [.pushToken text]), by simp [cleared]⟩, accepting, .inl session⟩
  · refine ⟨⟨gone ++ taken, ?_⟩, accepting, .inl session⟩
    rw [List.append_assoc, front, ← List.append_assoc, whole, pushedText_append,
      pushedText_pushToken]

theorem pushToken_conserved (reliable : provider.Reliable) (opened : input.Open calls)
    (conserved : Conserved maximum calls input) (text : Text)
    (within : (input.pushToken rules provider maximum text).2 ≠
      .error (.resourceLimit "incremental TTS input buffer" "bytes"
        maxRuntimeIncrementalTtsBufferBytes)) :
    Conserved maximum (calls ++ [.pushToken text])
      (input.pushToken rules provider maximum text).1 := by
  rcases pushToken_cases reliable opened text with
    ⟨rfl, result⟩ | ⟨-, -, ⟨-, ceased⟩ | ⟨-, batches, taken, front, high, batched, sized, sent⟩⟩
  · rw [result]
    refine conserved.send [] [] rfl (by simp) (by simp) _ ?_ nofun
    simpa using conserved.text
  · exact absurd ceased within
  · refine conserved.send _ _ batched sized sent _ ?_ ?_
    · rw [List.append_assoc, front, ← List.append_assoc, conserved.text]
      simp
    · rw [high]
      nofun

variable (maximum) in
theorem sendTextBatches_reliable (reliable : provider.Reliable) (input : IncrementalTtsInput ε)
    (fit : ∀ character ∈ characters input.buffer, character.length ≤ maximum) :
    ∃ batches, input.sendTextBatches provider maximum =
        some ({ input with buffer := [], sent := input.sent ++ batches }, .ok ()) ∧
      Batched batches (characters input.buffer) ∧
      ∀ batch ∈ batches, batch ≠ [] ∧ batch.length ≤ maximum := by
  obtain ⟨batches, found, batched, sized⟩ := splitRounds_spec _ (Nat.le_refl _) fit
  refine ⟨batches, ?_, batched, sized⟩
  rw [sendTextBatches, splitTextIntoBatches, found, Option.map_some, sendAll_reliable reliable]

theorem flushBoundary_spec (reliable : provider.Reliable) (opened : input.Open calls)
    (fit : ∀ character ∈ characters input.buffer, character.length ≤ maximum) :
    ∃ next, input.flushBoundary provider maximum = some (next, .ok ()) ∧
      next.Open (calls ++ [.flushBoundary]) ∧
      (Conserved maximum calls input → Conserved maximum (calls ++ [.flushBoundary]) next) := by
  unfold flushBoundary
  split
  next empty =>
    rw [List.isEmpty_iff] at empty
    obtain ⟨gone, whole⟩ := opened.suffix
    refine ⟨input, rfl, ⟨⟨gone, by simpa using whole⟩, opened.accepting, opened.open_session⟩, ?_⟩
    intro conserved
    refine conserved.send [] [] rfl (by simp) (by simp) _ ?_ nofun
    simpa using conserved.text
  next filled =>
    obtain ⟨batches, found, batched, sized⟩ := sendTextBatches_reliable maximum reliable _ fit
    rw [reliable.opens, found]
    have session : input.session = .opening := by
      rcases opened.open_session with opening | ⟨-, empty⟩
      · exact opening
      · exact absurd (List.isEmpty_iff.mpr empty) filled
    refine ⟨_, rfl, ⟨⟨pushedText calls, ?_⟩, opened.accepting, .inl session⟩, ?_⟩
    · simp [flushAndRemember]
    · intro conserved
      refine conserved.send _ _ batched (fun batch member => ⟨(sized batch member).1,
        fun _ => (sized batch member).2⟩) rfl _ ?_ ?_
      · rw [conserved.text]
        simp [flushAndRemember]
      · -- whatever it ends with, the text has been flushed here
        intro _
        exact ⟨calls, [], rfl, conserved.text.symm⟩

variable (provider) in
theorem finishSession_sent (input : IncrementalTtsInput ε) :
    (input.finishSession provider).1.sent = input.sent := by
  simp only [finishSession]
  split <;> rfl

theorem finish_spec (reliable : provider.Reliable) (opened : input.Open calls)
    (fit : ∀ character ∈ characters input.buffer, character.length ≤ maximum) :
    ∃ next outcome, input.finish provider maximum = some (next, outcome) ∧
      ∃ batches, next.sent = input.sent ++ batches ∧
        Batched batches (characters input.buffer) ∧
        ∀ batch ∈ batches, batch ≠ [] ∧ batch.length ≤ maximum := by
  unfold finish
  rw [if_neg (by rw [opened.accepting]; nofun)]
  rcases opened.open_session with opening | ⟨missing, empty⟩
  · simp only [opening, reliable.opens]
    split
    next empty =>
      rw [List.isEmpty_iff] at empty
      have sent := finishSession_sent provider
        { input with session := .opening, finishing := true }
      exact ⟨_, _, rfl, [], sent.trans (List.append_nil _).symm, by rw [empty]; rfl, by simp⟩
    next =>
      obtain ⟨batches, found, batched, sized⟩ := sendTextBatches_reliable maximum
        reliable { input with session := .opening, finishing := true } fit
      rw [found]
      exact ⟨_, _, rfl, batches, finishSession_sent _ _, batched, sized⟩
  · simp only [missing]
    exact ⟨_, _, rfl, [], by simp, by rw [empty]; rfl, by simp⟩

/-! ## Runs -/

/-- The error of a buffer that has grown too large. -/
def bufferOverflow : TtsOutcome ε :=
  .error (.resourceLimit "incremental TTS input buffer" "bytes" maxRuntimeIncrementalTtsBufferBytes)

variable (rules) in
theorem step_spec (reliable : provider.Reliable) (opened : input.Open calls) {call : TtsCall}
    (other : call ≠ .finish)
    (fit : ∀ character ∈ characters input.buffer, character.length ≤ maximum) :
    ∃ next outcome, input.step rules provider maximum call = some (next, outcome) ∧
      next.Open (calls ++ [call]) ∧
      (Conserved maximum calls input → outcome ≠ bufferOverflow →
        Conserved maximum (calls ++ [call]) next) := by
  cases call with
  | pushToken text =>
    exact ⟨_, _, rfl, pushToken_open reliable opened text,
      fun conserved within => pushToken_conserved reliable opened conserved text within⟩
  | flushBoundary =>
    obtain ⟨next, found, still, kept⟩ := flushBoundary_spec reliable opened fit
    exact ⟨next, .ok (), found, still, fun conserved _ => kept conserved⟩
  | finish => exact absurd rfl other

variable (rules) in
theorem runCalls_spec (reliable : provider.Reliable) (positive : 1 ≤ maximum)
    {rest done : List TtsCall} (opened : input.Open done)
    (room : 2 ≤ maximum ∨ NoPair (pushedText (done ++ rest))) (unfinished : .finish ∉ rest)
    (last : TtsCall) :
    ∃ next outcomes, next.Open (done ++ rest) ∧
      input.runCalls rules provider maximum (rest ++ [last]) =
        (next.step rules provider maximum last).map
          (fun result => (result.1, outcomes ++ [result.2])) ∧
      (Conserved maximum done input → bufferOverflow ∉ outcomes →
        Conserved maximum (done ++ rest) next) := by
  induction rest generalizing done input with
  | nil =>
    refine ⟨input, [], by simpa using opened, ?_, fun conserved _ => by simpa using conserved⟩
    simp only [List.nil_append, runCalls]
    cases input.step rules provider maximum last <;> rfl
  | cons call rest ih =>
    rw [List.mem_cons, not_or] at unfinished
    obtain ⟨gone, suffix⟩ := opened.suffix
    have part : pushedText (done ++ call :: rest) =
        gone ++ input.buffer ++ pushedText (call :: rest) := by
      rw [suffix, pushedText_append]
    obtain ⟨next, outcome, stepped, still, kept⟩ := step_spec rules reliable opened
      (Ne.symm unfinished.1) (characters_fit _ _ _ positive room part)
    rw [List.append_cons] at room ⊢
    obtain ⟨final, outcomes, ended, ran, conserves⟩ := ih still room unfinished.2
    refine ⟨final, outcome :: outcomes, ended, ?_, ?_⟩
    · rw [List.cons_append, runCalls, stepped, Option.bind_some]
      dsimp only
      rw [ran, Option.map_map]
      rfl
    · intro conserved within
      rw [List.mem_cons, not_or] at within
      exact conserves (kept conserved (Ne.symm within.1)) within.2

/-- Tokens and boundaries in any order, and then the end: the run comes to its end, and unless the
buffer overflows it has sent the text of the tokens, in texts that are not empty and within the bound.
A surrogate pair is parted only where its halves came in two tokens and a boundary was flushed between
them. A batch that cannot hold a pair is left to texts without one. -/
theorem incremental_tts (rules : SentenceRules) (provider : TtsProvider ε)
    (reliable : provider.Reliable) (maximum : Nat) (positive : 1 ≤ maximum) (calls : List TtsCall)
    (unfinished : .finish ∉ calls) (room : 2 ≤ maximum ∨ NoPair (pushedText calls)) :
    ∃ final outcomes,
      runCalls rules provider maximum empty (calls ++ [.finish]) = some (final, outcomes) ∧
      (bufferOverflow ∉ outcomes →
        final.sent.flatten = pushedText calls ∧
        (∀ text ∈ final.sent, text ≠ [] ∧ (2 ≤ maximum → text.length ≤ maximum)) ∧
        ∀ first second, final.sent = first ++ second →
          splitsPair first.flatten second.flatten = true →
          ∃ before after, calls = before ++ .flushBoundary :: after ∧
            pushedText before = first.flatten) := by
  have opened : (empty : IncrementalTtsInput ε).Open [] :=
    ⟨⟨[], rfl⟩, rfl, .inr ⟨rfl, rfl⟩⟩
  have start : Conserved maximum [] (empty : IncrementalTtsInput ε) :=
    ⟨rfl, by simp [empty], partsOnlyAt_nil _, nofun⟩
  obtain ⟨next, outcomes, still, ran, kept⟩ :=
    runCalls_spec rules reliable positive opened (by simpa using room) unfinished .finish
  rw [List.nil_append] at still kept
  obtain ⟨gone, suffix⟩ := still.suffix
  have fit := characters_fit gone next.buffer [] positive room
    (by rw [List.append_nil, suffix])
  obtain ⟨final, outcome, finished, batches, sent, batched, sized⟩ := finish_spec reliable still fit
  refine ⟨final, outcomes ++ [outcome], ?_, ?_⟩
  · rw [ran]
    simp only [step, finished, Option.map_some]
  · intro within
    rw [List.mem_append, not_or] at within
    have conserved := kept start within.1
    obtain ⟨flat, all, inside⟩ := conserved.sentTexts batched fun batch member =>
      ⟨(sized batch member).1, fun _ => (sized batch member).2⟩
    rw [← sent] at flat all inside
    exact ⟨by rw [flat, conserved.text], all, inside⟩

def fullStopRules : SentenceRules where
  segment text := [text]
  segment_flatten text := by simp
  terminal character := character = [46]
  closing character := character.any isWhitespace
  terminal_surrogate unit surrogate := by
    simp only [decide_eq_false_iff_not, List.cons.injEq, and_true]
    rintro rfl
    revert surrogate
    decide
  closing_surrogate unit surrogate := by simp [isWhitespace_of_surrogate surrogate]

def reliableProvider : TtsProvider String where
  openError := none
  sendError _ := none
  flushError _ := none
  finishError := none

/-- A sentence that comes in two tokens, in batches of at most eight units, and what follows it. -/
theorem incremental_tts_sentence :
    ∃ final outcomes,
      runCalls fullStopRules reliableProvider 8 empty
        ([.pushToken (utf16 "Hello wor"), .pushToken (utf16 "ld."), .pushToken (utf16 " So"),
          .flushBoundary, .pushToken (utf16 "long"), .finish]) = some (final, outcomes) ∧
      (bufferOverflow ∉ outcomes →
        final.sent.flatten = pushedText [.pushToken (utf16 "Hello wor"), .pushToken (utf16 "ld."),
          .pushToken (utf16 " So"), .flushBoundary, .pushToken (utf16 "long")] ∧
        (∀ text ∈ final.sent, text ≠ [] ∧ (2 ≤ 8 → text.length ≤ 8)) ∧
        ∀ first second, final.sent = first ++ second →
          splitsPair first.flatten second.flatten = true →
          ∃ before after, ([.pushToken (utf16 "Hello wor"), .pushToken (utf16 "ld."),
            .pushToken (utf16 " So"), .flushBoundary, .pushToken (utf16 "long")] : List TtsCall) =
              before ++ .flushBoundary :: after ∧ pushedText before = first.flatten) :=
  incremental_tts fullStopRules reliableProvider ⟨rfl, fun _ => rfl⟩ 8 (by decide)
    [.pushToken (utf16 "Hello wor"), .pushToken (utf16 "ld."), .pushToken (utf16 " So"),
      .flushBoundary, .pushToken (utf16 "long")] (by decide) (.inl (by decide))

/-- A boundary flushed between the tokens of the two halves of a pair sends them apart. -/
theorem flushBoundary_parts_pair :
    (runCalls fullStopRules reliableProvider 100 empty
      [.pushToken [0xD83D], .flushBoundary, .pushToken [0xDE00], .finish]).map
        (fun result => (result.1.sent, result.2)) =
      some ([[0xD83D], [0xDE00]], [.ok (), .ok (), .ok (), .ok ()]) ∧
    splitsPair [0xD83D] [0xDE00] = true := by
  decide +kernel

end IncrementalTtsInput

end Tvic
