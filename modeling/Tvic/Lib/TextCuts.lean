import Tvic.Lib.Text

/-!
# Cutting a string in pieces

A cut between two pieces parts a surrogate pair when the first ends with the high half and the second
begins with the low one. Where no cut does, the characters of the whole are those of its pieces.
-/
namespace Tvic.Lib

def endsHigh (text : Text) : Bool := text.getLast?.any isHighSurrogate

def startsLow (text : Text) : Bool := text.head?.any isLowSurrogate

/-- The cut between the two parts a pair. -/
def splitsPair (left right : Text) : Bool := endsHigh left && startsLow right

@[simp] theorem endsHigh_nil : endsHigh [] = false := rfl

@[simp] theorem startsLow_nil : startsLow [] = false := rfl

@[simp] theorem splitsPair_nil_left (right : Text) : splitsPair [] right = false := rfl

@[simp] theorem splitsPair_nil_right (left : Text) : splitsPair left [] = false := by
  simp [splitsPair]

@[simp] theorem startsLow_cons (unit : UInt16) (rest : Text) :
    startsLow (unit :: rest) = isLowSurrogate unit := rfl

@[simp] theorem endsHigh_singleton (unit : UInt16) : endsHigh [unit] = isHighSurrogate unit := rfl

@[simp] theorem endsHigh_cons_cons (first second : UInt16) (rest : Text) :
    endsHigh (first :: second :: rest) = endsHigh (second :: rest) := by
  simp [endsHigh, List.getLast?_cons_cons]

theorem endsHigh_append_of_ne_nil (left : Text) {right : Text} (nonempty : right ≠ []) :
    endsHigh (left ++ right) = endsHigh right := by
  rw [endsHigh, endsHigh, List.getLast?_append_of_ne_nil _ nonempty]

theorem startsLow_append_of_ne_nil {left : Text} (nonempty : left ≠ []) (right : Text) :
    startsLow (left ++ right) = startsLow left := by
  rw [startsLow, startsLow, List.head?_append_of_ne_nil _ nonempty]

theorem isHighSurrogate_of_low {unit : UInt16} (low : isLowSurrogate unit = true) :
    isHighSurrogate unit = false := by
  simp only [isLowSurrogate, isHighSurrogate, Bool.and_eq_true, decide_eq_true_eq, Bool.and_eq_false_iff,
    decide_eq_false_iff_not] at low ⊢
  right
  intro below
  have impossible := UInt16.le_trans low.1 below
  exact absurd impossible (by decide)

theorem isWhitespace_of_surrogate {unit : UInt16} (surrogate : isSurrogate unit = true) :
    isWhitespace unit = false := by
  simp only [isSurrogate, isHighSurrogate, isLowSurrogate, isWhitespace, Bool.or_eq_true,
    Bool.and_eq_true, decide_eq_true_eq, UInt16.le_iff_toNat_le, UInt16.reduceToNat,
    Bool.or_eq_false_iff, Bool.and_eq_false_iff, decide_eq_false_iff_not, beq_eq_false_iff_ne, ne_eq,
    ← UInt16.toNat_inj] at surrogate ⊢
  omega

theorem splitsPair_append_left (before : Text) {left : Text} (nonempty : left ≠ []) (right : Text) :
    splitsPair (before ++ left) right = splitsPair left right := by
  rw [splitsPair, splitsPair, endsHigh_append_of_ne_nil _ nonempty]

theorem splitsPair_append_right (left : Text) {right : Text} (nonempty : right ≠ []) (after : Text) :
    splitsPair left (right ++ after) = splitsPair left right := by
  rw [splitsPair, splitsPair, startsLow_append_of_ne_nil nonempty]

theorem characters_append {left right : Text} (whole : splitsPair left right = false) :
    characters (left ++ right) = characters left ++ characters right := by
  fun_induction characters left with
  | case1 => rfl
  | case2 unit =>
    cases right with
    | nil => rfl
    | cons next rest =>
      have apart : (isHighSurrogate unit && isLowSurrogate next) = false := by
        simpa [splitsPair] using whole
      rw [List.singleton_append, characters, apart]
      rfl
  | case3 high low rest pair ih =>
    have tail : splitsPair rest right = false := by
      cases rest with
      | nil => rfl
      | cons unit rest => simpa [splitsPair] using whole
    rw [List.cons_append, List.cons_append, characters, if_pos pair, ih tail, List.cons_append]
  | case4 high low rest single ih =>
    have tail : splitsPair (low :: rest) right = false := by simpa [splitsPair] using whole
    have later := ih tail
    rw [List.cons_append] at later
    rw [List.cons_append, List.cons_append, characters, if_neg single, later, List.cons_append]

theorem characters_eq_cons {text first : Text} {rest : List Text}
    (split : characters text = first :: rest) :
    first ≠ [] ∧ characters first = [first] ∧ characters rest.flatten = rest ∧
      splitsPair first rest.flatten = false := by
  fun_induction characters text with
  | case1 => cases split
  | case2 unit =>
    cases split
    simp [characters]
  | case3 high low others pair ih =>
    cases split
    rw [Bool.and_eq_true] at pair
    have last := isHighSurrogate_of_low pair.2
    simp [characters, pair, splitsPair, last]
  | case4 high low others single ih =>
    cases split
    simpa [characters, splitsPair] using single

/-! ## Lists of characters -/

def AreCharacters (texts : List Text) : Prop := characters texts.flatten = texts

theorem areCharacters_characters (text : Text) : AreCharacters (characters text) := by
  rw [AreCharacters, characters_flatten]

theorem areCharacters_nil : AreCharacters [] := rfl

theorem AreCharacters.ne_nil {texts : List Text} (are : AreCharacters texts) {text : Text}
    (member : text ∈ texts) : text ≠ [] := by
  rw [← are] at member
  have := (character_length member).1
  rintro rfl
  simp at this

theorem flatten_eq_nil_of_areCharacters {texts : List Text} (are : AreCharacters texts)
    (empty : texts.flatten = []) : texts = [] := by
  rw [← are, empty]
  rfl

theorem AreCharacters.split {left right : List Text} (are : AreCharacters (left ++ right)) :
    AreCharacters left ∧ AreCharacters right ∧ splitsPair left.flatten right.flatten = false := by
  induction left with
  | nil => exact ⟨areCharacters_nil, are, rfl⟩
  | cons first rest ih =>
    obtain ⟨-, single, tail, whole⟩ := characters_eq_cons are
    rw [List.append_eq, List.flatten_append] at whole
    obtain ⟨left, right, later⟩ := ih tail
    by_cases last : rest = []
    · subst last
      refine ⟨by simpa [AreCharacters] using single, right, ?_⟩
      simpa using whole
    · have inner : rest.flatten ≠ [] := fun empty => last (flatten_eq_nil_of_areCharacters left empty)
      rw [splitsPair_append_right first inner] at whole
      refine ⟨?_, right, ?_⟩
      · rw [AreCharacters, List.flatten_cons, characters_append whole, single, left]
        rfl
      · rw [List.flatten_cons, splitsPair_append_left first inner]
        exact later

/-! ## Batches -/

def Batched (batches : List Text) (texts : List Text) : Prop :=
  batches.flatMap characters = texts

theorem Batched.flatten {batches texts : List Text} (batched : Batched batches texts) :
    batches.flatten = texts.flatten := by
  rw [← batched]
  induction batches generalizing texts with
  | nil => rfl
  | cons batch rest ih =>
    rw [List.flatMap_cons, List.flatten_append, characters_flatten, List.flatten_cons, ih rfl]

theorem Batched.splitsPair_eq_false {first second texts : List Text}
    (batched : Batched (first ++ second) texts) (are : AreCharacters texts) :
    splitsPair first.flatten second.flatten = false := by
  rw [Batched, List.flatMap_append] at batched
  rw [← batched] at are
  have left : first.flatten = (first.flatMap characters).flatten := Batched.flatten rfl
  have right : second.flatten = (second.flatMap characters).flatten := Batched.flatten rfl
  rw [left, right]
  exact are.split.2.2

def PartsOnlyAt (P : Text → Prop) (texts : List Text) : Prop :=
  ∀ first second, texts = first ++ second → splitsPair first.flatten second.flatten = true →
    P first.flatten

theorem partsOnlyAt_nil (P : Text → Prop) : PartsOnlyAt P [] := by
  intro first second split parted
  obtain ⟨rfl, rfl⟩ := List.append_eq_nil_iff.mp split.symm
  cases parted

theorem PartsOnlyAt.append {P : Text → Prop} {texts batches chars : List Text}
    (inside : PartsOnlyAt P texts) (nonempty : ∀ text ∈ texts, text ≠ [])
    (last : endsHigh texts.flatten = true → P texts.flatten) (batched : Batched batches chars)
    (are : AreCharacters chars) : PartsOnlyAt P (texts ++ batches) := by
  intro first second split parted
  rcases List.append_eq_append_iff.mp split with ⟨front, rfl, rfl⟩ | ⟨back, rfl, rfl⟩
  · -- the cut is among the batches, or before the first of them
    by_cases none : front.flatten = []
    · rw [List.flatten_append, none, List.append_nil] at parted ⊢
      rw [splitsPair, Bool.and_eq_true] at parted
      exact last parted.1
    · rw [List.flatten_append, splitsPair_append_left _ none,
        Batched.splitsPair_eq_false batched are] at parted
      cases parted
  · by_cases none : back = []
    · subst none
      rw [List.append_nil] at last
      rw [splitsPair, Bool.and_eq_true] at parted
      exact last parted.1
    · obtain ⟨text, member⟩ := List.exists_mem_of_ne_nil back none
      have some_text : back.flatten ≠ [] := by
        intro empty
        exact nonempty text (List.mem_append_right _ member) (List.flatten_eq_nil_iff.mp empty _ member)
      rw [List.flatten_append, splitsPair_append_right _ some_text] at parted
      exact inside first back rfl parted

end Tvic.Lib
