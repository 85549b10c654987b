import Mathlib.Data.List.Infix

/-!
# Frames behind terminators

A text is cut at the leftmost terminator, again and again, while it still comes in. When no terminator
lies within the beginning of another, what has been cut does not depend on how the text came. A reader
that also refuses what is too long can notice that early, on a frame whose terminator has come in part.
-/
namespace Tvic.Lib

/-- Terminators of which none lies within another that lacks its last unit. -/
structure Terminators (α : Type*) where
  all : List (List α)
  nonempty : ∀ terminator ∈ all, terminator ≠ []
  apart : ∀ terminator ∈ all, ∀ other ∈ all, ¬other <:+: terminator.dropLast

variable {α : Type*} [DecidableEq α] (terminators : Terminators α)

def Terminators.atStart (text : List α) : Option (List α) :=
  terminators.all.find? (·.isPrefixOf text)

/-- What stands before the leftmost terminator, the terminator, and what follows. -/
def nextFrame : List α → Option (List α × List α × List α)
  | [] => none
  | unit :: text =>
    match terminators.atStart (unit :: text) with
    | some terminator => some ([], terminator, (unit :: text).drop terminator.length)
    | none =>
      (nextFrame text).map fun (frame, terminator, rest) => (unit :: frame, terminator, rest)

variable {terminators}

omit [DecidableEq α] in
theorem prefix_dropLast {short long : List α} (start : short <+: long)
    (less : short.length < long.length) : short <+: long.dropLast := by
  rw [List.dropLast_eq_take]
  exact List.prefix_take_iff.mpr ⟨start, by omega⟩

omit [DecidableEq α] in
theorem Terminators.unique {terminator other text : List α} (known : terminator ∈ terminators.all)
    (known' : other ∈ terminators.all) (start : terminator <+: text) (start' : other <+: text) :
    terminator = other := by
  rcases Nat.lt_trichotomy terminator.length other.length with less | same | more
  · have inner := prefix_dropLast (List.prefix_of_prefix_length_le start start' less.le) less
    exact (terminators.apart other known' terminator known inner.isInfix).elim
  · exact (List.prefix_of_prefix_length_le start start' same.le).eq_of_length same
  · have inner := prefix_dropLast (List.prefix_of_prefix_length_le start' start more.le) more
    exact (terminators.apart terminator known other known' inner.isInfix).elim

theorem Terminators.atStart_some {terminator text : List α}
    (found : terminators.atStart text = some terminator) :
    terminator ∈ terminators.all ∧ terminator <+: text := by
  refine ⟨List.mem_of_find?_eq_some found, ?_⟩
  have start := List.find?_some (p := fun other : List α => other.isPrefixOf text) found
  exact List.isPrefixOf_iff_prefix.mp start

variable {text : List α}

theorem Terminators.atStart_none (none : terminators.atStart text = none) :
    ∀ terminator ∈ terminators.all, ¬terminator <+: text := fun terminator known start =>
  List.find?_eq_none.mp none terminator known (List.isPrefixOf_iff_prefix.mpr start)

theorem Terminators.atStart_eq_none (absent : ∀ terminator ∈ terminators.all, ¬terminator <+: text)
    :
    
    terminators.atStart text = none :=
  List.find?_eq_none.mpr fun terminator known start =>
    absent terminator known (List.isPrefixOf_iff_prefix.mp start)

theorem Terminators.atStart_eq {terminator text : List α} (known : terminator ∈ terminators.all)
    (start : terminator <+: text) : terminators.atStart text = some terminator := by
  cases found : terminators.atStart text with
  | none => exact (terminators.atStart_none found terminator known start).elim
  | some other =>
    obtain ⟨known', start'⟩ := terminators.atStart_some found
    rw [terminators.unique known known' start start']

variable {text frame terminator rest : List α}

theorem nextFrame_some (cut : nextFrame terminators text = some (frame, terminator, rest)) :
    terminator ∈ terminators.all ∧ text = frame ++ terminator ++ rest := by
  induction text generalizing frame with
  | nil => cases cut
  | cons unit text ih =>
    unfold nextFrame at cut
    split at cut
    next terminator' found =>
      cases cut
      obtain ⟨known, start⟩ := terminators.atStart_some found
      refine ⟨known, ?_⟩
      rw [List.nil_append]
      exact (List.prefix_iff_eq_append.mp start).symm
    next =>
      obtain ⟨⟨frame', terminator', rest'⟩, later, same⟩ := Option.map_eq_some_iff.mp cut
      cases same
      obtain ⟨known, parts⟩ := ih later
      exact ⟨known, by rw [parts]; rfl⟩

theorem nextFrame_rest_length (cut : nextFrame terminators text = some (frame, terminator, rest)) :
    rest.length < text.length := by
  obtain ⟨known, parts⟩ := nextFrame_some cut
  have positive := List.length_pos_iff.mpr (terminators.nonempty terminator known)
  rw [parts, List.length_append, List.length_append]
  omega

theorem nextFrame_eq_none_iff :
    nextFrame terminators text = none ↔ ∀ terminator ∈ terminators.all, ¬terminator <:+: text := by
  induction text with
  | nil =>
    refine ⟨fun _ terminator known inner => ?_, fun _ => rfl⟩
    exact terminators.nonempty terminator known (List.infix_nil.mp inner)
  | cons unit text ih =>
    unfold nextFrame
    constructor
    · intro none terminator known inner
      rcases List.infix_cons_iff.mp inner with start | later
      · rw [terminators.atStart_eq known start] at none
        cases none
      · split at none
        · cases none
        · exact ih.mp (Option.map_eq_none_iff.mp none) terminator known later
    · intro absent
      rw [terminators.atStart_eq_none fun terminator known start => absent terminator known start.isInfix]
      refine Option.map_eq_none_iff.mpr (ih.mpr fun terminator known inner => ?_)
      exact absent terminator known (List.infix_cons inner)

theorem nextFrame_append (cut : nextFrame terminators text = some (frame, terminator, rest))
    (more : List α) :
    nextFrame terminators (text ++ more) = some (frame, terminator, rest ++ more) := by
  induction text generalizing frame with
  | nil => cases cut
  | cons unit text ih =>
    unfold nextFrame at cut
    rw [List.cons_append]
    unfold nextFrame
    split at cut
    next terminator' found =>
      cases cut
      obtain ⟨known, start⟩ := terminators.atStart_some found
      have longer : terminator <+: unit :: (text ++ more) := start.trans (List.prefix_append _ more)
      rw [terminators.atStart_eq known longer]
      dsimp only
      rw [← List.cons_append, List.drop_append_of_le_length start.length_le]
    next missing =>
      obtain ⟨⟨frame', terminator', rest'⟩, later, same⟩ := Option.map_eq_some_iff.mp cut
      cases same
      obtain ⟨known, parts⟩ := nextFrame_some later
      -- A terminator that began here and is not complete yet would have the later one within it.
      have here : terminators.atStart (unit :: (text ++ more)) = none := by
        refine terminators.atStart_eq_none fun other known' start => ?_
        have whole : unit :: text <+: unit :: (text ++ more) := List.prefix_append (unit :: text) more
        rcases Nat.lt_or_ge (unit :: text).length other.length with less | more
        · have inner := prefix_dropLast (List.prefix_of_prefix_length_le whole start less.le) less
          have within : terminator <:+: unit :: text := by
            rw [parts]
            exact List.infix_cons ⟨frame', rest, rfl⟩
          exact terminators.apart other known' terminator known (within.trans inner.isInfix)
        · have early := List.prefix_of_prefix_length_le start whole more
          exact terminators.atStart_none missing other known' early
      rw [here, ih later]
      rfl

variable (terminators) in
/-- All frames with their terminators, and the rest, in which there is no terminator. -/
def frames (text : List α) : List (List α × List α) × List α :=
  match _ : nextFrame terminators text with
  | none => ([], text)
  | some (frame, terminator, rest) => ((frame, terminator) :: (frames rest).1, (frames rest).2)
  termination_by text.length
  decreasing_by all_goals exact nextFrame_rest_length ‹_›

theorem frames_of_none (none : nextFrame terminators text = none) :
    frames terminators text = ([], text) := by
  unfold frames
  split
  · rfl
  next cut =>
    rw [none] at cut
    cases cut

theorem frames_of_some (cut : nextFrame terminators text = some (frame, terminator, rest)) :
    frames terminators text =
      ((frame, terminator) :: (frames terminators rest).1, (frames terminators rest).2) := by
  rw [frames]
  split
  next none =>
    rw [cut] at none
    cases none
  next cut' =>
    rw [cut] at cut'
    cases cut'
    rfl

theorem frames_append (text more : List α) :
    frames terminators (text ++ more) =
      ((frames terminators text).1 ++ (frames terminators ((frames terminators text).2 ++ more)).1,
        (frames terminators ((frames terminators text).2 ++ more)).2) := by
  fun_induction frames terminators text with
  | case1 text none => simp
  | case2 text frame terminator rest cut ih =>
    rw [frames_of_some (nextFrame_append cut more), ih]
    simp

theorem nextFrame_frames_rest (text : List α) :
    nextFrame terminators (frames terminators text).2 = none := by
  fun_induction frames terminators text with
  | case1 text none => exact none
  | case2 text frame terminator rest cut ih => exact ih

end Tvic.Lib
