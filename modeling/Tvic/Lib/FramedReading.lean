import Tvic.Lib.Framing

/-!
# Reading frames as they come in

A reader parses every frame as soon as it is complete, and in the end the rest. It refuses a frame that is
too long, and refuses as early as it holds an incomplete one that is. Which items it reads, and whether it
fails, does not depend on how the text comes in, unless a frame is short enough by itself and too long
with a part of its terminator.
-/
namespace Tvic.Lib

/-- `tooLong` is never true, and `refusal` never used, where there is no limit. -/
structure FrameReader (α Item ε : Type*) where
  terminators : Terminators α
  tooLong : List α → Bool
  refusal : ε
  parseFrame : List α → Except ε (Option Item)
  parseRest : List α → Except ε (Option Item)

/-- The items of a reading, and how it failed if it did. -/
@[ext] structure Reading (Item ε : Type*) where
  items : List Item
  failure : Option ε

variable {α Item ε : Type*}

namespace Reading

def after (items : List Item) (reading : Reading Item ε) : Reading Item ε :=
  { reading with items := items ++ reading.items }

/-- The same items, and both fail or neither does. -/
def SameEnd (reading other : Reading Item ε) : Prop :=
  reading.items = other.items ∧ reading.failure.isSome = other.failure.isSome

theorem SameEnd.refl (reading : Reading Item ε) : reading.SameEnd reading := ⟨rfl, rfl⟩

theorem SameEnd.symm {reading other : Reading Item ε} (same : reading.SameEnd other) :
    other.SameEnd reading := ⟨same.1.symm, same.2.symm⟩

theorem SameEnd.trans {reading other third : Reading Item ε} (same : reading.SameEnd other)
    (same' : other.SameEnd third) : reading.SameEnd third :=
  ⟨same.1.trans same'.1, same.2.trans same'.2⟩

theorem SameEnd.after {reading other : Reading Item ε} (same : reading.SameEnd other)
    (items : List Item) : (reading.after items).SameEnd (other.after items) :=
  ⟨congrArg (items ++ ·) same.1, same.2⟩

@[simp] theorem after_after (first second : List Item) (reading : Reading Item ε) :
    (reading.after second).after first = reading.after (first ++ second) := by
  simp [Reading.after]

@[simp] theorem after_nil (reading : Reading Item ε) : reading.after [] = reading := rfl

@[simp] theorem failure_after (items : List Item) (reading : Reading Item ε) :
    (reading.after items).failure = reading.failure := rfl

end Reading

namespace FrameReader

variable [DecidableEq α] (reader : FrameReader α Item ε)

/-- Cuts frames off the buffer and parses them; gives what is left of it. -/
def drain (buffer : List α) : Reading Item ε × List α :=
  match _ : nextFrame reader.terminators buffer with
  | none => (⟨[], none⟩, buffer)
  | some (frame, _, rest) =>
    if reader.tooLong frame then (⟨[], some reader.refusal⟩, rest)
    else
      match reader.parseFrame frame with
      | .error failure => (⟨[], some failure⟩, rest)
      | .ok item => ((drain rest).1.after item.toList, (drain rest).2)
  termination_by buffer.length
  decreasing_by all_goals exact nextFrame_rest_length ‹_›

/-- The reads, of which the last comes with the end of the stream. -/
def read : List (List α) → List α → List α → Reading Item ε
  | [], last, buffer =>
    let drained := reader.drain (buffer ++ last)
    if drained.1.failure.isSome then drained.1
    else if reader.tooLong drained.2 then ⟨drained.1.items, some reader.refusal⟩
    else
      match reader.parseRest drained.2 with
      | .error failure => ⟨drained.1.items, some failure⟩
      | .ok item => ⟨drained.1.items ++ item.toList, none⟩
  | chunk :: chunks, last, buffer =>
    let drained := reader.drain (buffer ++ chunk)
    if drained.1.failure.isSome then drained.1
    else if reader.tooLong drained.2 then ⟨drained.1.items, some reader.refusal⟩
    else (read chunks last drained.2).after drained.1.items

/-! ## Frames one after the other -/

def parseFrames : List (List α × List α) → Reading Item ε
  | [] => ⟨[], none⟩
  | (frame, _) :: frames =>
    if reader.tooLong frame then ⟨[], some reader.refusal⟩
    else
      match reader.parseFrame frame with
      | .error failure => ⟨[], some failure⟩
      | .ok item => (parseFrames frames).after item.toList

def conclude (frames : List (List α × List α)) (rest : List α) : Reading Item ε :=
  let parsed := reader.parseFrames frames
  if parsed.failure.isSome then parsed
  else if reader.tooLong rest then ⟨parsed.items, some reader.refusal⟩
  else
    match reader.parseRest rest with
    | .error failure => ⟨parsed.items, some failure⟩
    | .ok item => ⟨parsed.items ++ item.toList, none⟩

variable {reader}

theorem drain_frames (buffer : List α) :
    (reader.drain buffer).1 = reader.parseFrames (frames reader.terminators buffer).1 ∧
      ((reader.drain buffer).1.failure = none →
        (reader.drain buffer).2 = (frames reader.terminators buffer).2) := by
  fun_induction drain reader buffer with
  | case1 buffer none =>
    rw [frames_of_none none]
    exact ⟨rfl, fun _ => rfl⟩
  | case2 buffer frame terminator rest cut long =>
    rw [frames_of_some cut, parseFrames, if_pos long]
    exact ⟨rfl, nofun⟩
  | case3 buffer frame terminator rest cut short failure wrong =>
    rw [frames_of_some cut, parseFrames, if_neg short, wrong]
    exact ⟨rfl, nofun⟩
  | case4 buffer frame terminator rest cut short item parsed ih =>
    rw [frames_of_some cut, parseFrames, if_neg short, parsed]
    exact ⟨congrArg (Reading.after item.toList) ih.1, ih.2⟩

omit [DecidableEq α] in
theorem parseFrames_append (first second : List (List α × List α)) :
    reader.parseFrames (first ++ second) =
      if (reader.parseFrames first).failure.isSome then reader.parseFrames first
      else (reader.parseFrames second).after (reader.parseFrames first).items := by
  induction first with
  | nil => rfl
  | cons frame first ih =>
    rw [List.cons_append, parseFrames, parseFrames]
    by_cases long : reader.tooLong frame.1
    · rw [if_pos long, if_pos long]
      rfl
    · rw [if_neg long, if_neg long]
      cases reader.parseFrame frame.1 with
      | error failure => rfl
      | ok item =>
        dsimp only
        rw [ih, Reading.failure_after]
        split
        · rfl
        · rw [Reading.after_after]
          rfl

omit [DecidableEq α] in
theorem conclude_append (first second : List (List α × List α)) (rest : List α) :
    reader.conclude (first ++ second) rest =
      if (reader.parseFrames first).failure.isSome then reader.parseFrames first
      else (reader.conclude second rest).after (reader.parseFrames first).items := by
  unfold conclude
  dsimp only
  rw [parseFrames_append]
  by_cases failed : (reader.parseFrames first).failure.isSome
  · rw [if_pos failed, if_pos failed, if_pos failed]
  · rw [if_neg failed, if_neg failed, Reading.failure_after]
    by_cases failed' : (reader.parseFrames second).failure.isSome
    · rw [if_pos failed', if_pos failed']
    · rw [if_neg failed', if_neg failed']
      by_cases long : reader.tooLong rest
      · rw [if_pos long, if_pos long]
        rfl
      · rw [if_neg long, if_neg long]
        cases reader.parseRest rest with
        | error failure => rfl
        | ok item => simp [Reading.after]

omit [DecidableEq α] in
theorem conclude_nil (rest : List α) :
    reader.conclude [] rest =
      if reader.tooLong rest then ⟨[], some reader.refusal⟩
      else
        match reader.parseRest rest with
        | .error failure => ⟨[], some failure⟩
        | .ok item => ⟨item.toList, none⟩ := rfl

theorem read_at_once (last buffer : List α) :
    reader.read [] last buffer =
      reader.conclude (frames reader.terminators (buffer ++ last)).1
        (frames reader.terminators (buffer ++ last)).2 := by
  obtain ⟨parsed, rest⟩ := @drain_frames _ _ _ _ reader (buffer ++ last)
  unfold read conclude
  dsimp only
  rw [← parsed]
  by_cases failed : (reader.drain (buffer ++ last)).1.failure.isSome
  · rw [if_pos failed, if_pos failed]
  · rw [if_neg failed, if_neg failed, rest (by simpa using failed)]

theorem read_cons (chunk : List α) (chunks : List (List α)) (last buffer : List α) :
    reader.read (chunk :: chunks) last buffer =
      let parsed := reader.parseFrames (frames reader.terminators (buffer ++ chunk)).1
      if parsed.failure.isSome then parsed
      else if reader.tooLong (frames reader.terminators (buffer ++ chunk)).2 then
        ⟨parsed.items, some reader.refusal⟩
      else
        (reader.read chunks last (frames reader.terminators (buffer ++ chunk)).2).after
          parsed.items := by
  obtain ⟨parsed, rest⟩ := @drain_frames _ _ _ _ reader (buffer ++ chunk)
  rw [read]
  dsimp only
  rw [← parsed]
  by_cases failed : (reader.drain (buffer ++ chunk)).1.failure.isSome
  · rw [if_pos failed, if_pos failed]
  · rw [if_neg failed, if_neg failed, rest (by simpa using failed)]

/-! ## Frames that are caught before they are complete -/

variable (reader) in
/-- The frame is not too long, and with what comes of its terminator before the last unit it is. -/
def Caught (frame terminator : List α) : Prop :=
  reader.tooLong frame = false ∧ reader.tooLong (frame ++ terminator.dropLast) = true

variable (reader) in
/-- No frame that the reader gets to is caught, except where nothing is read from it on and the reading
fails anyway. -/
def Uncaught (text : List α) : Prop :=
  ∀ before frame terminator later,
    (frames reader.terminators text).1 = before ++ (frame, terminator) :: later →
    (reader.parseFrames before).failure = none → reader.Caught frame terminator →
    (reader.conclude ((frame, terminator) :: later) (frames reader.terminators text).2).items = [] ∧
      (reader.conclude ((frame, terminator) :: later)
        (frames reader.terminators text).2).failure.isSome = true

theorem Uncaught.append {text more : List α} (uncaught : reader.Uncaught (text ++ more))
    (parsed : (reader.parseFrames (frames reader.terminators text).1).failure = none) :
    reader.Uncaught ((frames reader.terminators text).2 ++ more) := by
  intro before frame terminator later parts passed caught
  have whole := @frames_append _ _ reader.terminators text more
  have same := congrArg Prod.snd whole
  dsimp only at same
  rw [← same]
  refine uncaught ((frames reader.terminators text).1 ++ before) frame terminator later ?_ ?_ caught
  · rw [whole, parts, List.append_assoc]
  · rw [parseFrames_append, parsed]
    exact passed

theorem conclude_of_tooLong_rest
    (longer : ∀ {text more : List α}, reader.tooLong text → reader.tooLong (text ++ more))
    {held more : List α} (long : reader.tooLong held)
    (none : nextFrame reader.terminators held = none) (uncaught : reader.Uncaught (held ++ more)) :
    (reader.conclude (frames reader.terminators (held ++ more)).1
        (frames reader.terminators (held ++ more)).2).SameEnd ⟨[], some reader.refusal⟩ := by
  cases cut : nextFrame reader.terminators (held ++ more) with
  | none =>
    rw [frames_of_none cut]
    unfold conclude
    dsimp only [parseFrames]
    rw [if_neg nofun, if_pos (longer long)]
    exact Reading.SameEnd.refl _
  | some found =>
    obtain ⟨frame, terminator, rest⟩ := found
    have parts := frames_of_some cut
    obtain ⟨known, whole⟩ := nextFrame_some cut
    by_cases long' : reader.tooLong frame
    · rw [parts]
      unfold conclude
      rw [parseFrames, if_pos long']
      exact Reading.SameEnd.refl _
    · -- The held text ends within the terminator, or before it.
      have short : held.length < (frame ++ terminator).length := by
        by_contra beyond
        have start : frame ++ terminator <+: held ++ more := ⟨rest, whole.symm⟩
        have start' := List.prefix_of_prefix_length_le start (List.prefix_append held more)
          (Nat.not_lt.mp beyond)
        have inner : terminator <:+: held := (List.suffix_append frame terminator).isInfix.trans
          start'.isInfix
        exact nextFrame_eq_none_iff.mp none terminator known inner
      have start : held <+: frame ++ terminator := by
        refine List.prefix_of_prefix_length_le (List.prefix_append held more) ?_ short.le
        exact ⟨rest, whole.symm⟩
      have start' := prefix_dropLast start short
      rw [List.dropLast_append_of_ne_nil (reader.terminators.nonempty terminator known)] at start'
      obtain ⟨gap, reached⟩ := start'
      have caught : reader.Caught frame terminator :=
        ⟨by simpa using long', reached ▸ longer long⟩
      have nothing := uncaught [] frame terminator (frames reader.terminators rest).1
        (by rw [parts]; rfl) rfl caught
      rw [parts] at nothing ⊢
      exact ⟨nothing.1, nothing.2⟩

theorem read_sameEnd
    (longer : ∀ {text more : List α}, reader.tooLong text → reader.tooLong (text ++ more))
    (chunks : List (List α)) (last : List α) {buffer : List α}
    (uncaught : reader.Uncaught (buffer ++ (chunks.flatten ++ last))) :
    (reader.read chunks last buffer).SameEnd
      (reader.read [] (chunks.flatten ++ last) buffer) := by
  induction chunks generalizing buffer with
  | nil => exact Reading.SameEnd.refl _
  | cons chunk chunks ih =>
    rw [read_cons, read_at_once, List.flatten_cons, List.append_assoc, ← List.append_assoc buffer]
    rw [List.flatten_cons, List.append_assoc, ← List.append_assoc buffer] at uncaught
    rw [frames_append (buffer ++ chunk), conclude_append]
    dsimp only
    by_cases failed :
        (reader.parseFrames (frames reader.terminators (buffer ++ chunk)).1).failure.isSome
    · rw [if_pos failed, if_pos failed]
      exact Reading.SameEnd.refl _
    · rw [if_neg failed, if_neg failed]
      have later := uncaught.append (by simpa using failed)
      by_cases long : reader.tooLong (frames reader.terminators (buffer ++ chunk)).2
      · rw [if_pos long]
        have end' := conclude_of_tooLong_rest longer long (nextFrame_frames_rest _) later
        refine Reading.SameEnd.trans ?_ (end'.symm.after _)
        simpa [Reading.after] using Reading.SameEnd.refl _
      · rw [if_neg long, ← read_at_once]
        exact (ih later).after _

theorem nextFrame_alone {text frame terminator rest : List α}
    (cut : nextFrame reader.terminators text = some (frame, terminator, rest)) :
    nextFrame reader.terminators (frame ++ terminator) = some (frame, terminator, []) := by
  obtain ⟨known, whole⟩ := nextFrame_some cut
  cases alone : nextFrame reader.terminators (frame ++ terminator) with
  | none =>
    have inner := (List.suffix_append frame terminator).isInfix
    exact (nextFrame_eq_none_iff.mp alone terminator known inner).elim
  | some found =>
    obtain ⟨frame', terminator', rest'⟩ := found
    have again := nextFrame_append alone rest
    rw [← whole, cut] at again
    obtain ⟨sameFrame, again⟩ := Prod.mk.inj (Option.some.inj again)
    obtain ⟨sameTerminator, again⟩ := Prod.mk.inj again
    rw [sameFrame, sameTerminator, List.self_eq_append_left.mp again]

theorem nextFrame_incomplete {text frame terminator rest : List α}
    (cut : nextFrame reader.terminators text = some (frame, terminator, rest)) :
    nextFrame reader.terminators (frame ++ terminator.dropLast) = none := by
  have alone := nextFrame_alone cut
  have nonempty := reader.terminators.nonempty terminator (nextFrame_some cut).1
  cases early : nextFrame reader.terminators (frame ++ terminator.dropLast) with
  | none => rfl
  | some found =>
    obtain ⟨frame', terminator', rest'⟩ := found
    have again := nextFrame_append early [terminator.getLast nonempty]
    rw [List.append_assoc, List.dropLast_append_getLast, alone] at again
    have rests := (Prod.mk.inj (Prod.mk.inj (Option.some.inj again)).2).2
    exact (List.append_ne_nil_of_right_ne_nil rest' (List.cons_ne_nil _ []) rests.symm).elim

theorem frames_of_append {text : List α} {before later : List (List α × List α)}
    (parts : (frames reader.terminators text).1 = before ++ later) (held : List α) :
    frames reader.terminators
        ((before.flatMap fun (frame, terminator) => frame ++ terminator) ++ held) =
      (before ++ (frames reader.terminators held).1, (frames reader.terminators held).2) := by
  induction before generalizing text with
  | nil => rfl
  | cons head before ih =>
    cases cut : nextFrame reader.terminators text with
    | none =>
      rw [frames_of_none cut] at parts
      cases parts
    | some found =>
      obtain ⟨frame, terminator, rest⟩ := found
      rw [frames_of_some cut, List.cons_append] at parts
      obtain ⟨rfl, parts'⟩ := List.cons.inj parts
      have alone := nextFrame_append (nextFrame_alone cut)
        ((before.flatMap fun (frame, terminator) => frame ++ terminator) ++ held)
      rw [List.flatMap_cons, List.append_assoc, frames_of_some alone, List.nil_append, ih parts']
      rfl

theorem frames_split {text : List α} {before later : List (List α × List α)}
    (parts : (frames reader.terminators text).1 = before ++ later) :
    ∃ text', text = (before.flatMap fun (frame, terminator) => frame ++ terminator) ++ text' ∧
      frames reader.terminators text' = (later, (frames reader.terminators text).2) := by
  induction before generalizing text with
  | nil => exact ⟨text, rfl, Prod.ext parts rfl⟩
  | cons head before ih =>
    cases cut : nextFrame reader.terminators text with
    | none =>
      rw [frames_of_none cut] at parts
      cases parts
    | some found =>
      obtain ⟨frame, terminator, rest⟩ := found
      rw [frames_of_some cut] at parts ⊢
      obtain ⟨rfl, parts'⟩ := List.cons.inj parts
      obtain ⟨text', whole, cut'⟩ := ih parts'
      refine ⟨text', ?_, cut'⟩
      rw [(nextFrame_some cut).2, List.flatMap_cons, List.append_assoc _ _ text', ← whole]

/-- A reader for which longer texts are too long when shorter ones are reads the same however a text comes
if, and only if, it catches no frame. -/
theorem read_chunks_iff
    (longer : ∀ {text more : List α}, reader.tooLong text → reader.tooLong (text ++ more))
    (text : List α) :
    (∀ chunks last chunks' last', chunks.flatten ++ last = text → chunks'.flatten ++ last' = text →
      (reader.read chunks last []).SameEnd (reader.read chunks' last' [])) ↔
    reader.Uncaught text := by
  constructor
  · intro same before frame terminator later parts passed caught
    obtain ⟨text', whole, cut⟩ := frames_split parts
    have next : ∃ rest, nextFrame reader.terminators text' = some (frame, terminator, rest) := by
      cases found : nextFrame reader.terminators text' with
      | none =>
        rw [frames_of_none found] at cut
        cases cut
      | some found' =>
        obtain ⟨frame', terminator', rest⟩ := found'
        rw [frames_of_some found] at cut
        obtain ⟨rfl, rfl⟩ := Prod.mk.inj (List.cons.inj (Prod.mk.inj cut).1).1
        exact ⟨rest, rfl⟩
    obtain ⟨rest, next⟩ := next
    obtain ⟨known, whole'⟩ := nextFrame_some next
    have nonempty := reader.terminators.nonempty terminator known
    -- The text comes in two parts, the first of which lacks the last unit of the terminator.
    have cutHere := frames_of_append parts (frame ++ terminator.dropLast)
    rw [frames_of_none (nextFrame_incomplete next), List.append_nil] at cutHere
    have divided := same
      [(before.flatMap fun (frame, terminator) => frame ++ terminator) ++
        (frame ++ terminator.dropLast)] (terminator.getLast nonempty :: rest) [] text
      (by
        rw [whole, whole']
        conv_rhs => rw [← List.dropLast_append_getLast nonempty]
        simp) (by simp)
    rw [read_cons, List.nil_append, cutHere] at divided
    dsimp only at divided
    rw [passed, if_neg nofun, if_pos caught.2, read_at_once, List.nil_append, parts, conclude_append,
      passed, if_neg nofun] at divided
    obtain ⟨items, failed⟩ := divided
    refine ⟨?_, failed.symm⟩
    exact List.append_cancel_left (items.symm.trans (List.append_nil _).symm)
  · intro uncaught chunks last chunks' last' whole whole'
    have first := @read_sameEnd _ _ _ _ reader longer chunks last [] (by rwa [whole])
    have second := @read_sameEnd _ _ _ _ reader longer chunks' last' [] (by rwa [whole'])
    rw [whole] at first
    rw [whole'] at second
    exact first.trans second.symm

/-! ## Without the limit -/

variable (reader) in
def unlimited : FrameReader α Item ε := { reader with tooLong := fun _ => false }

theorem read_unlimited_at_once (last buffer : List α) :
    reader.unlimited.read [] last buffer =
      let parsed := reader.unlimited.parseFrames (frames reader.terminators (buffer ++ last)).1
      if parsed.failure.isSome then parsed
      else
        match reader.parseRest (frames reader.terminators (buffer ++ last)).2 with
        | .error failure => ⟨parsed.items, some failure⟩
        | .ok item => ⟨parsed.items ++ item.toList, none⟩ := by
  rw [read_at_once]
  rfl

theorem read_unlimited_cons (chunk : List α) (chunks : List (List α)) (last buffer : List α) :
    reader.unlimited.read (chunk :: chunks) last buffer =
      let parsed := reader.unlimited.parseFrames (frames reader.terminators (buffer ++ chunk)).1
      if parsed.failure.isSome then parsed
      else
        (reader.unlimited.read chunks last (frames reader.terminators (buffer ++ chunk)).2).after
          parsed.items := by
  rw [read_cons]
  rfl

omit [DecidableEq α] in
theorem parseFrames_unlimited_cons (frame terminator : List α) (frames : List (List α × List α)) :
    reader.unlimited.parseFrames ((frame, terminator) :: frames) =
      match reader.parseFrame frame with
      | .error failure => ⟨[], some failure⟩
      | .ok item => (reader.unlimited.parseFrames frames).after item.toList := rfl

variable (reader) in
/-- The reading is the other one, or ends before it with the refusal. -/
def CutOff (reading other : Reading Item ε) : Prop :=
  reading = other ∨ reading.failure = some reader.refusal ∧ reading.items <+: other.items

omit [DecidableEq α] in
theorem CutOff.after {reading other : Reading Item ε} (cut : reader.CutOff reading other)
    (items : List Item) : reader.CutOff (reading.after items) (other.after items) := by
  rcases cut with rfl | ⟨refused, start⟩
  · exact Or.inl rfl
  · exact Or.inr ⟨refused, (List.prefix_append_right_inj items).mpr start⟩

omit [DecidableEq α] in
theorem parseFrames_cutOff (frames : List (List α × List α)) :
    reader.CutOff (reader.parseFrames frames) (reader.unlimited.parseFrames frames) := by
  induction frames with
  | nil => exact Or.inl rfl
  | cons frame frames ih =>
    rw [parseFrames, parseFrames_unlimited_cons]
    by_cases long : reader.tooLong frame.1
    · rw [if_pos long]
      exact Or.inr ⟨rfl, List.nil_prefix⟩
    · rw [if_neg long]
      cases reader.parseFrame frame.1 with
      | error failure => exact Or.inl rfl
      | ok item => exact ih.after _

theorem read_cutOff (chunks : List (List α)) (last buffer : List α) :
    reader.CutOff (reader.read chunks last buffer) (reader.unlimited.read chunks last buffer) := by
  induction chunks generalizing buffer with
  | nil =>
    rw [read_at_once, read_unlimited_at_once]
    unfold conclude
    dsimp only
    rcases @parseFrames_cutOff _ _ _ reader (frames reader.terminators (buffer ++ last)).1 with
      same | ⟨refused, start⟩
    · rw [← same]
      split
      · exact Or.inl rfl
      · split
        · refine Or.inr ⟨rfl, ?_⟩
          split
          · exact List.prefix_refl _
          · exact List.prefix_append _ _
        · exact Or.inl rfl
    · rw [if_pos (by rw [refused]; rfl)]
      refine Or.inr ⟨refused, ?_⟩
      split
      · exact start
      · split
        · exact start
        · exact start.trans (List.prefix_append _ _)
  | cons chunk chunks ih =>
    rw [read_cons, read_unlimited_cons]
    dsimp only
    rcases @parseFrames_cutOff _ _ _ reader (frames reader.terminators (buffer ++ chunk)).1 with
      same | ⟨refused, start⟩
    · rw [← same]
      split
      · exact Or.inl rfl
      · split
        · exact Or.inr ⟨rfl, List.prefix_append _ _⟩
        · exact (ih _).after _
    · rw [if_pos (by rw [refused]; rfl)]
      refine Or.inr ⟨refused, ?_⟩
      split
      · exact start
      · exact start.trans (List.prefix_append _ _)

theorem read_unlimited (chunks : List (List α)) (last buffer : List α) :
    reader.unlimited.read chunks last buffer =
      reader.unlimited.read [] (chunks.flatten ++ last) buffer := by
  induction chunks generalizing buffer with
  | nil => rfl
  | cons chunk chunks ih =>
    rw [read_unlimited_cons, ih, read_at_once, read_at_once, List.flatten_cons, List.append_assoc,
      ← List.append_assoc buffer]
    change _ = reader.unlimited.conclude (frames reader.terminators _).1 (frames reader.terminators _).2
    rw [frames_append (buffer ++ chunk), conclude_append]
    rfl

end FrameReader

end Tvic.Lib
