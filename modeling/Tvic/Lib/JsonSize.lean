import Tvic.Lib.JsonUnits
import Tvic.Lib.TextCuts

/-!
# The size of JSON texts in UTF-8

The punctuation of a JSON text is ASCII, so no surrogate pair spreads over two of its parts, and the size
of the text is the sum of the sizes of its parts.
-/
namespace Tvic.Lib

theorem utf8Bytes_append {left right : Text} (whole : splitsPair left right = false) :
    utf8Bytes (left ++ right) = utf8Bytes left + utf8Bytes right := by
  rw [utf8Bytes, characters_append whole, List.map_append, List.sum_append]
  rfl

theorem isSurrogate_of_ascii {unit : UInt16} (ascii : unit < 0x80) : isSurrogate unit = false := by
  simp only [isSurrogate, isHighSurrogate, isLowSurrogate, Bool.or_eq_false_iff,
    Bool.and_eq_false_iff, decide_eq_false_iff_not, UInt16.le_iff_toNat_le, UInt16.lt_iff_toNat_lt,
    UInt16.reduceToNat] at ascii ⊢
  omega

theorem utf8Bytes_cons {unit : UInt16} (ascii : unit < 0x80) (rest : Text) :
    utf8Bytes (unit :: rest) = 1 + utf8Bytes rest := by
  have single : utf8Bytes [unit] = 1 := utf8Bytes_ascii (by simpa using ascii)
  have notHigh := (Bool.or_eq_false_iff.mp (isSurrogate_of_ascii ascii)).1
  rw [← single, ← utf8Bytes_append (by simp [splitsPair, notHigh])]
  rfl

theorem utf8Bytes_append_cons (left : Text) {unit : UInt16} (ascii : unit < 0x80) (right : Text) :
    utf8Bytes (left ++ unit :: right) = utf8Bytes left + (1 + utf8Bytes right) := by
  have notLow := (Bool.or_eq_false_iff.mp (isSurrogate_of_ascii ascii)).2
  rw [utf8Bytes_append (by simp [splitsPair, notLow]), utf8Bytes_cons ascii]

theorem isEscapeUnit_ascii {unit : UInt16} (escape : isEscapeUnit unit = true) : unit < 0x80 := by
  simp only [isEscapeUnit, isDigit, Bool.or_eq_true, Bool.and_eq_true, decide_eq_true_eq, beq_iff_eq,
    UInt16.le_iff_toNat_le, UInt16.lt_iff_toNat_lt, ← UInt16.toNat_inj, UInt16.reduceToNat] at escape ⊢
  omega

theorem unicodeEscape_ascii (unit : UInt16) : ∀ digit ∈ unicodeEscape unit, digit < 0x80 := by
  intro digit member
  simp only [unicodeEscape, List.mem_cons, List.not_mem_nil, or_false] at member
  rcases member with rfl | rfl | rfl | rfl | rfl | rfl
  · decide
  · decide
  · exact isEscapeUnit_ascii (isEscapeUnit_hexDigit (shiftRight_small unit))
  · exact isEscapeUnit_ascii (isEscapeUnit_hexDigit (and_small _))
  · exact isEscapeUnit_ascii (isEscapeUnit_hexDigit (and_small _))
  · exact isEscapeUnit_ascii (isEscapeUnit_hexDigit (and_small _))

/-! ## Lists of parts -/

/-- The parts with a separator of one byte before each but a first one. -/
def joinedBytes (first : Bool) : List Text → ℕ
  | [] => 0
  | text :: texts => (if first then 0 else 1) + utf8Bytes text + joinedBytes false texts

theorem utf8Bytes_joinWith {separator : UInt16} (ascii : separator < 0x80) (texts : List Text) :
    utf8Bytes (joinWith separator texts) = joinedBytes true texts := by
  induction texts with
  | nil => rfl
  | cons text texts ih =>
    cases texts with
    | nil => simp [joinWith, joinedBytes]
    | cons next texts =>
      rw [joinWith_cons_cons, utf8Bytes_append_cons text ascii, ih]
      simp [joinedBytes, Nat.add_assoc]

theorem utf8Bytes_arrayText (items : List Text) :
    utf8Bytes (arrayText items) = 1 + joinedBytes true items + 1 := by
  rw [arrayText, List.cons_append, utf8Bytes_cons (by decide), utf8Bytes_append_cons _ (by decide),
    utf8Bytes_joinWith (by decide), utf8Bytes_nil, Nat.add_assoc]

theorem utf8Bytes_objectTextBy (quote : Text → Text) (members : List (Text × Text)) :
    utf8Bytes (objectTextBy quote members) =
      1 + joinedBytes true (members.map (memberTextBy quote)) + 1 := by
  rw [objectTextBy, List.cons_append, utf8Bytes_cons (by decide), utf8Bytes_append_cons _ (by decide),
    utf8Bytes_joinWith (by decide), utf8Bytes_nil, Nat.add_assoc]

/-! ## Strings -/

/-- What is written of a character does not end in the first half of a pair. -/
theorem endsHigh_quoteCharacter {character : Text}
    (shape : (∃ unit, character = [unit]) ∨ ∃ high low, character = [high, low] ∧
      isHighSurrogate high = true ∧ isLowSurrogate low = true) :
    endsHigh (quoteCharacter character) = false := by
  rcases shape with ⟨unit, rfl⟩ | ⟨high, low, rfl, -, second⟩
  · simp only [quoteCharacter]
    split_ifs with b t n f r quote backslash escaped
    all_goals try rfl
    · -- `\uXXXX` ends in a digit
      have digit := unicodeEscape_ascii unit (hexDigit (unit &&& 15)) (by simp [unicodeEscape])
      exact (Bool.or_eq_false_iff.mp (isSurrogate_of_ascii digit)).1
    · simp only [isSurrogate, Bool.or_eq_true, not_or, Bool.not_eq_true] at escaped
      exact escaped.2.1
  · simp [quoteCharacter, isHighSurrogate_of_low second]

theorem utf8Bytes_quoteJsonString (text : Text) :
    utf8Bytes (quoteJsonString text) =
      2 + ((characters text).map fun character => utf8Bytes (quoteCharacter character)).sum := by
  have body : ∀ texts : List Text, (∀ character ∈ texts, endsHigh (quoteCharacter character) = false) →
      utf8Bytes (texts.flatMap quoteCharacter) =
        (texts.map fun character => utf8Bytes (quoteCharacter character)).sum := by
    intro texts ends
    induction texts with
    | nil => rfl
    | cons first rest ih =>
      rw [List.forall_mem_cons] at ends
      rw [List.flatMap_cons, utf8Bytes_append (by simp [splitsPair, ends.1]), ih ends.2]
      rfl
  rw [quoteJsonString, List.cons_append, utf8Bytes_cons (by decide), utf8Bytes_append_cons _ (by decide),
    body _ fun character known => endsHigh_quoteCharacter (character_shape known), utf8Bytes_nil]
  omega

end Tvic.Lib
