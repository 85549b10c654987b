import Mathlib.Algebra.GroupWithZero.Nat
import Mathlib.Data.List.Basic

/-!
# JavaScript strings

A string is the list of its UTF-16 code units, which need not be well formed. Iterating over it gives
its characters: a surrogate pair is one character, any other unit is one by itself.
-/
namespace Tvic.Lib

abbrev Text := List UInt16

instance : LawfulBEq Text := inferInstance

def encodeUtf16 (char : Char) : Text :=
  if char.val < 0x10000 then [char.val.toUInt16]
  else
    [(0xD800 + (char.val - 0x10000) / 0x400).toUInt16,
      (0xDC00 + (char.val - 0x10000) % 0x400).toUInt16]

def utf16 (literal : String) : Text := literal.toList.flatMap encodeUtf16

def isHighSurrogate (unit : UInt16) : Bool := 0xD800 ≤ unit && unit ≤ 0xDBFF

def isLowSurrogate (unit : UInt16) : Bool := 0xDC00 ≤ unit && unit ≤ 0xDFFF

def isSurrogate (unit : UInt16) : Bool := isHighSurrogate unit || isLowSurrogate unit

/-- `\s` of a regular expression: white space and line terminators, none of which is a surrogate. -/
def isWhitespace (unit : UInt16) : Bool :=
  (9 ≤ unit && unit ≤ 13) || unit == 0x20 || unit == 0xA0 || unit == 0x1680 ||
    (0x2000 ≤ unit && unit ≤ 0x200A) || unit == 0x2028 || unit == 0x2029 || unit == 0x202F ||
    unit == 0x205F || unit == 0x3000 || unit == 0xFEFF

/-- What `for (const character of text)` goes through. -/
def characters : Text → List Text
  | [] => []
  | [unit] => [[unit]]
  | high :: low :: rest =>
    if isHighSurrogate high && isLowSurrogate low then [high, low] :: characters rest
    else [high] :: characters (low :: rest)

@[simp] theorem characters_nil : characters [] = [] := rfl

@[simp] theorem characters_flatten (text : Text) : (characters text).flatten = text := by
  fun_induction characters text with
  | case1 => rfl
  | case2 unit => rfl
  | case3 high low rest pair ih => simp [ih]
  | case4 high low rest single ih => simp [ih]

theorem character_shape {text character : Text} (member : character ∈ characters text) :
    (∃ unit, character = [unit]) ∨
      ∃ high low, character = [high, low] ∧ isHighSurrogate high = true ∧ isLowSurrogate low = true := by
  fun_induction characters text with
  | case1 => cases member
  | case2 unit => exact .inl ⟨unit, List.mem_singleton.mp member⟩
  | case3 high low rest pair ih =>
    rw [Bool.and_eq_true] at pair
    rcases List.mem_cons.mp member with rfl | later
    · exact .inr ⟨high, low, rfl, pair.1, pair.2⟩
    · exact ih later
  | case4 high low rest single ih =>
    rcases List.mem_cons.mp member with rfl | later
    · exact .inl ⟨high, rfl⟩
    · exact ih later

theorem character_length {text character : Text} (member : character ∈ characters text) :
    1 ≤ character.length ∧ character.length ≤ 2 := by
  rcases character_shape member with ⟨unit, rfl⟩ | ⟨high, low, rfl, _, _⟩ <;> simp

/-! ## Sizes in UTF-8 -/

/-- The bytes `TextEncoder` writes for a character; a surrogate without its partner becomes U+FFFD. -/
def characterUtf8Bytes : Text → Nat
  | [unit] => if unit < 0x80 then 1 else if unit < 0x800 then 2 else 3
  | _ => 4

/-- `new TextEncoder().encode(text).byteLength` -/
def utf8Bytes (text : Text) : Nat := ((characters text).map characterUtf8Bytes).sum

@[simp] theorem utf8Bytes_nil : utf8Bytes [] = 0 := rfl

theorem utf8Bytes_ascii {text : Text} (ascii : ∀ unit ∈ text, unit < 0x80) :
    utf8Bytes text = text.length := by
  have single {unit : UInt16} (small : unit < 0x80) : characterUtf8Bytes [unit] = 1 := if_pos small
  unfold utf8Bytes
  fun_induction characters text with
  | case1 => rfl
  | case2 unit => simp [single (ascii unit List.mem_cons_self)]
  | case3 high low rest pair ih =>
    -- a surrogate is no ASCII character
    rw [Bool.and_eq_true] at pair
    have small := ascii high List.mem_cons_self
    have large : 0xD800 ≤ high := by
      have both := pair.1
      simp only [isHighSurrogate, Bool.and_eq_true, decide_eq_true_eq] at both
      exact both.1
    exact absurd (UInt16.lt_of_lt_of_le small (UInt16.le_trans (by decide) large)) (UInt16.lt_irrefl high)
  | case4 high low rest apart ih =>
    rw [List.forall_mem_cons] at ascii
    rw [List.map_cons, List.sum_cons, ih ascii.2, single ascii.1, Nat.add_comm]
    rfl

/-! ## JSON strings -/

def hexDigit (digit : UInt16) : UInt16 := if digit < 10 then 48 + digit else 87 + digit

/-- `\uXXXX` -/
def unicodeEscape (unit : UInt16) : Text :=
  [92, 117, hexDigit (unit >>> 12), hexDigit ((unit >>> 8) &&& 15), hexDigit ((unit >>> 4) &&& 15),
    hexDigit (unit &&& 15)]

/-- A character in a JSON string: the short escapes, the escapes of control characters and of
surrogates without a partner, and everything else as it is. -/
def quoteCharacter : Text → Text
  | [unit] =>
    if unit = 8 then utf16 "\\b"
    else if unit = 9 then utf16 "\\t"
    else if unit = 10 then utf16 "\\n"
    else if unit = 12 then utf16 "\\f"
    else if unit = 13 then utf16 "\\r"
    else if unit = 34 then utf16 "\\\""
    else if unit = 92 then utf16 "\\\\"
    else if unit < 0x20 || isSurrogate unit then unicodeEscape unit
    else [unit]
  | pair => pair

def quoteJsonString (text : Text) : Text :=
  34 :: (characters text).flatMap quoteCharacter ++ [34]

end Tvic.Lib
