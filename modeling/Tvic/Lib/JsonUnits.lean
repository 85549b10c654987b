import Tvic.Lib.JsonText

/-!
# The units of a JSON text

What stands in a JSON text outside of its strings, and what happens to a text in which some units are
replaced that stand only in strings.
-/
namespace Tvic.Lib

def isJsonSyntax (unit : UInt16) : Bool :=
  unit == 44 || unit == 58 || unit == 91 || unit == 93 || unit == 123 || unit == 125 ||
    isNumberUnit unit || (97 ≤ unit && unit ≤ 122)

variable {N : Type} [FiniteNumber N]

theorem leafText_syntactic {leaf : JsValue N} (plain : ∀ value, leaf ≠ .string value) :
    ∀ unit ∈ leaf.leafText, isJsonSyntax unit = true := by
  have words : (∀ unit ∈ utf16 "null", isJsonSyntax unit = true) ∧
      (∀ unit ∈ utf16 "true", isJsonSyntax unit = true) ∧
      ∀ unit ∈ utf16 "false", isJsonSyntax unit = true := by
    simp only [← List.all_eq_true]
    decide
  cases leaf with
  | boolean value =>
    cases value with
    | true => exact words.2.1
    | false => exact words.2.2
  | number value =>
    intro unit member
    have number := FiniteNumber.text_units value unit member
    simp [isJsonSyntax, number]
  | string value => exact (plain value rfl).elim
  | _ => exact words.1

section Units

variable (P : UInt16 → Prop) {quote : Text → Text}

theorem joinWith_forall {separator : UInt16} (here : P separator) {texts : List Text}
    (each : ∀ text ∈ texts, ∀ unit ∈ text, P unit) : ∀ unit ∈ joinWith separator texts, P unit := by
  induction texts with
  | nil => exact fun _ member => nomatch member
  | cons text texts ih =>
    have first := each text (List.mem_cons_self ..)
    have later := ih fun other member => each other (List.mem_cons_of_mem _ member)
    cases texts with
    | nil => exact first
    | cons next texts =>
      rw [joinWith_cons_cons]
      intro unit member
      rcases List.mem_append.mp member with member | member
      · exact first unit member
      · rcases List.mem_cons.mp member with rfl | member
        · exact here
        · exact later unit member

theorem textBy_forall (syntactic : ∀ unit, isJsonSyntax unit = true → P unit)
    (quoted : ∀ value, ∀ unit ∈ quote value, P unit) {value : JsValue N} (json : value.IsJson) :
    ∀ unit ∈ value.textBy quote, P unit := by
  induction json with
  | null => exact fun unit member => syntactic unit (@leafText_syntactic N _ .null nofun unit member)
  | boolean value =>
    exact fun unit member => syntactic unit (@leafText_syntactic N _ (.boolean value) nofun unit member)
  | number value =>
    exact fun unit member => syntactic unit (@leafText_syntactic N _ (.number value) nofun unit member)
  | string value => exact quoted value
  | array items each ih =>
    have inner := joinWith_forall P (syntactic 44 rfl) (List.forall_mem_map.mpr ih)
    rw [JsValue.textBy_array, arrayText]
    intro unit member
    simp only [List.cons_append, List.mem_cons, List.mem_append, List.not_mem_nil, or_false] at member
    rcases member with rfl | member | rfl
    · exact syntactic _ rfl
    · exact inner unit member
    · exact syntactic _ rfl
  | object members distinct each ih =>
    have inner : ∀ unit ∈ joinWith 44 (members.map fun member =>
        memberTextBy quote (member.1, member.2.textBy quote)), P unit := by
      refine joinWith_forall P (syntactic 44 rfl) (List.forall_mem_map.mpr fun member stored => ?_)
      intro unit within
      simp only [memberTextBy, List.mem_append, List.mem_cons] at within
      rcases within with within | rfl | within
      · exact quoted _ unit within
      · exact syntactic _ rfl
      · exact ih member stored unit within
    rw [JsValue.textBy_object, objectTextBy, List.map_map]
    intro unit member
    simp only [List.cons_append, List.mem_cons, List.mem_append, List.not_mem_nil, or_false] at member
    rcases member with rfl | member | rfl
    · exact syntactic _ rfl
    · exact inner unit member
    · exact syntactic _ rfl

end Units

section Replacement

variable {replace : UInt16 → Text} (kept : ∀ unit, isJsonSyntax unit = true → replace unit = [unit])
  {quote : Text → Text}
include kept

theorem flatMap_kept {text : Text} (plain : ∀ unit ∈ text, isJsonSyntax unit = true) :
    text.flatMap replace = text := by
  induction text with
  | nil => rfl
  | cons unit text ih =>
    rw [List.flatMap_cons, kept unit (plain unit (List.mem_cons_self ..)),
      ih fun other member => plain other (List.mem_cons_of_mem _ member)]
    rfl

theorem flatMap_joinWith {separator : UInt16} (here : isJsonSyntax separator = true)
    (texts : List Text) :
    (joinWith separator texts).flatMap replace =
      joinWith separator (texts.map (·.flatMap replace)) := by
  induction texts with
  | nil => rfl
  | cons text texts ih =>
    cases texts with
    | nil => rfl
    | cons next texts =>
      rw [joinWith_cons_cons, List.flatMap_append, List.flatMap_cons, kept separator here, ih]
      rfl

theorem textBy_flatMap {value : JsValue N} (json : value.IsJson) :
    (value.textBy quote).flatMap replace = value.textBy fun text => (quote text).flatMap replace := by
  induction json with
  | null => exact flatMap_kept kept (@leafText_syntactic N _ .null nofun)
  | boolean value => exact flatMap_kept kept (@leafText_syntactic N _ (.boolean value) nofun)
  | number value => exact flatMap_kept kept (@leafText_syntactic N _ (.number value) nofun)
  | string value => rfl
  | array items each ih =>
    rw [JsValue.textBy_array, JsValue.textBy_array, arrayText, arrayText, List.cons_append,
      List.flatMap_cons, List.flatMap_append, flatMap_joinWith kept rfl, kept _ rfl, List.map_map]
    have same : items.map ((·.flatMap replace) ∘ JsValue.textBy quote) =
        items.map (JsValue.textBy fun text => (quote text).flatMap replace) :=
      List.map_congr_left ih
    rw [same]
    simp [kept 93 rfl]
  | object members distinct each ih =>
    rw [JsValue.textBy_object, JsValue.textBy_object, objectTextBy, objectTextBy, List.cons_append,
      List.flatMap_cons, List.flatMap_append, flatMap_joinWith kept rfl, kept _ rfl, List.map_map,
      List.map_map, List.map_map]
    have same : members.map (((·.flatMap replace) ∘ memberTextBy quote) ∘
          fun member => (member.1, member.2.textBy quote)) =
        members.map ((memberTextBy fun text => (quote text).flatMap replace) ∘
          fun member => (member.1, member.2.textBy fun text => (quote text).flatMap replace)) := by
      refine List.map_congr_left fun member stored => ?_
      simp only [Function.comp_apply, memberTextBy, List.flatMap_append, List.flatMap_cons,
        kept 58 rfl, ih member stored]
      rfl
    rw [same]
    simp [kept 125 rfl]

end Replacement

/-! ## The units of strings -/

def isEscapeUnit (unit : UInt16) : Bool :=
  unit == 34 || unit == 92 || isDigit unit || (97 ≤ unit && unit ≤ 122)

theorem isEscapeUnit_hexDigit {digit : UInt16} (small : digit ≤ 15) :
    isEscapeUnit (hexDigit digit) = true := by
  have all : ∀ n < 16, isEscapeUnit (hexDigit (UInt16.ofNat n)) = true := by decide +kernel
  have bounded : digit.toNat < 16 := Nat.lt_succ_of_le (UInt16.le_iff_toNat_le.mp small)
  have this := all digit.toNat bounded
  rwa [UInt16.ofNat_toNat] at this

theorem shiftRight_small (unit : UInt16) : unit >>> 12 ≤ 15 := by
  rw [UInt16.le_iff_toNat_le, UInt16.toNat_shiftRight]
  have bounded := unit.toNat_lt
  have shift : (12 : UInt16).toNat % 16 = 12 := rfl
  rw [shift, Nat.shiftRight_eq_div_pow]
  show _ ≤ 15
  omega

theorem and_small (unit : UInt16) : unit &&& 15 ≤ 15 := by
  rw [UInt16.le_iff_toNat_le, UInt16.toNat_and]
  exact Nat.and_le_right

theorem quoteCharacter_cases {character : Text}
    (shape : (∃ unit, character = [unit]) ∨ ∃ high low, character = [high, low] ∧
      isHighSurrogate high = true ∧ isLowSurrogate low = true) :
    quoteCharacter character = character ∧ (∀ unit ∈ character, ¬unit < 32) ∨
      ∀ unit ∈ quoteCharacter character, isEscapeUnit unit = true := by
  rcases shape with ⟨unit, rfl⟩ | ⟨high, low, rfl, high_surrogate, low_surrogate⟩
  · unfold quoteCharacter
    dsimp only
    split_ifs with b t n f r quote backslash escaped
    · exact Or.inr (List.all_eq_true.mp (by decide))
    · exact Or.inr (List.all_eq_true.mp (by decide))
    · exact Or.inr (List.all_eq_true.mp (by decide))
    · exact Or.inr (List.all_eq_true.mp (by decide))
    · exact Or.inr (List.all_eq_true.mp (by decide))
    · exact Or.inr (List.all_eq_true.mp (by decide))
    · exact Or.inr (List.all_eq_true.mp (by decide))
    · right
      intro other member
      simp only [unicodeEscape, List.mem_cons, List.not_mem_nil, or_false] at member
      rcases member with rfl | rfl | rfl | rfl | rfl | rfl
      · rfl
      · rfl
      · exact isEscapeUnit_hexDigit (shiftRight_small unit)
      · exact isEscapeUnit_hexDigit (and_small _)
      · exact isEscapeUnit_hexDigit (and_small _)
      · exact isEscapeUnit_hexDigit (and_small _)
    · simp only [Bool.or_eq_true, decide_eq_true_eq, not_or] at escaped
      exact Or.inl ⟨rfl, by simpa using escaped.1⟩
  · left
    refine ⟨rfl, ?_⟩
    simp only [isHighSurrogate, isLowSurrogate, Bool.and_eq_true, decide_eq_true_eq,
      UInt16.le_iff_toNat_le, UInt16.reduceToNat] at high_surrogate low_surrogate
    intro unit member
    simp only [List.mem_cons, List.not_mem_nil, or_false] at member
    rw [UInt16.lt_iff_toNat_lt]
    show ¬_ < 32
    rcases member with rfl | rfl
    · omega
    · omega

theorem quoteJsonString_printable (text : Text) : ∀ unit ∈ quoteJsonString text, ¬unit < 32 := by
  have escapes : ∀ unit, isEscapeUnit unit = true → ¬unit < 32 := by
    intro unit escape
    simp only [isEscapeUnit, isDigit, Bool.or_eq_true, Bool.and_eq_true, decide_eq_true_eq, beq_iff_eq,
      UInt16.le_iff_toNat_le, ← UInt16.toNat_inj, UInt16.reduceToNat] at escape
    rw [UInt16.lt_iff_toNat_lt]
    show ¬_ < 32
    omega
  intro unit member
  simp only [quoteJsonString, List.cons_append, List.mem_cons, List.mem_append, List.mem_flatMap,
    List.not_mem_nil, or_false] at member
  rcases member with rfl | ⟨character, known, within⟩ | rfl
  · decide
  · rcases quoteCharacter_cases (character_shape known) with ⟨same, printable⟩ | escaped
    · rw [same] at within
      exact printable unit within
    · exact escapes unit (escaped unit within)
  · decide

end Tvic.Lib
