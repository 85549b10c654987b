import Mathlib.Data.Bool.AllAny
import Tvic.Runtime.PromptContext

/-!
# How values stand in the prompt

What `encodeUntrustedPromptValue` writes is the JSON text of the value, with the strings in it written in
another way. So it is read back as the value, there is no `<` and no `>` in it, and it stands on one line.
-/
namespace Tvic

open Lib

/-- The units that do not stand in a line of the prompt. -/
def closesLine (unit : UInt16) : Prop := unit = 60 ∨ unit = 62 ∨ unit = 10

/-! ## Escaped units -/

theorem escapePromptUnit_plain {text : Text} (plain : ∀ unit ∈ text, unit ≠ 38 ∧ unit ≠ 60 ∧ unit ≠ 62) :
    text.flatMap escapePromptUnit = text := by
  induction text with
  | nil => rfl
  | cons unit text ih =>
    obtain ⟨ampersand, less, greater⟩ := plain unit (List.mem_cons_self ..)
    have same : escapePromptUnit unit = [unit] := by
      simp [escapePromptUnit, ampersand, less, greater]
    rw [List.flatMap_cons, same, ih fun other member => plain other (List.mem_cons_of_mem _ member)]
    rfl

theorem plain_of_test {test : UInt16 → Bool}
    (others : test 38 = false ∧ test 60 = false ∧ test 62 = false) {unit : UInt16}
    (kind : test unit = true) : unit ≠ 38 ∧ unit ≠ 60 ∧ unit ≠ 62 := by
  refine ⟨?_, ?_, ?_⟩
  · rintro rfl
    exact Bool.false_ne_true (others.1.symm.trans kind)
  · rintro rfl
    exact Bool.false_ne_true (others.2.1.symm.trans kind)
  · rintro rfl
    exact Bool.false_ne_true (others.2.2.symm.trans kind)

theorem escapePromptUnit_syntax {unit : UInt16} (known : isJsonSyntax unit = true) :
    escapePromptUnit unit = [unit] := by
  have plain := plain_of_test (by decide) known
  simp [escapePromptUnit, plain]

theorem mem_escapePromptUnit {unit before : UInt16} (member : unit ∈ escapePromptUnit before) :
    unit = before ∧ unit ≠ 60 ∧ unit ≠ 62 ∨ isEscapeUnit unit = true ∨ unit = 67 ∨ unit = 69 := by
  have sequences : (∀ unit ∈ utf16 "\\u0026", isEscapeUnit unit = true) ∧
      (∀ unit ∈ utf16 "\\u003C", isEscapeUnit unit = true ∨ unit = 67 ∨ unit = 69) ∧
      ∀ unit ∈ utf16 "\\u003E", isEscapeUnit unit = true ∨ unit = 67 ∨ unit = 69 := by
    simp only [← List.all_iff_forall_prop]
    decide
  unfold escapePromptUnit at member
  split_ifs at member with ampersand less greater
  · exact Or.inr (Or.inl (sequences.1 unit member))
  · exact Or.inr (sequences.2.1 unit member)
  · exact Or.inr (sequences.2.2 unit member)
  · obtain rfl := List.mem_singleton.mp member
    exact Or.inl ⟨rfl, less, greater⟩

/-! ## Strings -/

def promptString (value : Text) : Text := (quoteJsonString value).flatMap escapePromptUnit

theorem parseString_escapePromptUnit {unit : UInt16} (special : unit = 38 ∨ unit = 60 ∨ unit = 62)
    (text : Text) :
    parseString (escapePromptUnit unit ++ text) =
      (parseString text).map fun parsed => (unit :: parsed.1, parsed.2) := by
  have digits : hexUnit? 48 48 50 54 = some 38 ∧ hexUnit? 48 48 51 67 = some 60 ∧
      hexUnit? 48 48 51 69 = some 62 := by decide
  rcases special with rfl | rfl | rfl
  · change parseString (92 :: 117 :: 48 :: 48 :: 50 :: 54 :: text) = _
    rw [parseString, digits.1]
    cases parseString text <;> rfl
  · change parseString (92 :: 117 :: 48 :: 48 :: 51 :: 67 :: text) = _
    rw [parseString, digits.2.1]
    cases parseString text <;> rfl
  · change parseString (92 :: 117 :: 48 :: 48 :: 51 :: 69 :: text) = _
    rw [parseString, digits.2.2]
    cases parseString text <;> rfl

theorem parseString_promptCharacter {character : Text}
    (shape : (∃ unit, character = [unit]) ∨ ∃ high low, character = [high, low] ∧
      isHighSurrogate high = true ∧ isLowSurrogate low = true) (text : Text) :
    parseString ((quoteCharacter character).flatMap escapePromptUnit ++ text) =
      (parseString text).map fun parsed => (character ++ parsed.1, parsed.2) := by
  -- of the characters that are left as they are by JSON, just three are escaped for the prompt
  by_cases special : character = [38] ∨ character = [60] ∨ character = [62]
  · rcases special with rfl | rfl | rfl
    · exact parseString_escapePromptUnit (Or.inl rfl) text
    · exact parseString_escapePromptUnit (Or.inr (Or.inl rfl)) text
    · exact parseString_escapePromptUnit (Or.inr (Or.inr rfl)) text
  · have plain : ∀ unit ∈ quoteCharacter character, unit ≠ 38 ∧ unit ≠ 60 ∧ unit ≠ 62 := by
      rcases quoteCharacter_cases shape with ⟨same, -⟩ | escaped
      · rw [same]
        rcases shape with ⟨unit, rfl⟩ | ⟨high, low, rfl, high_surrogate, low_surrogate⟩
        · intro other member
          obtain rfl := List.mem_singleton.mp member
          simpa [not_or] using special
        · intro unit member
          simp only [List.mem_cons, List.not_mem_nil, or_false] at member
          rcases member with rfl | rfl
          · exact plain_of_test (by decide) high_surrogate
          · exact plain_of_test (by decide) low_surrogate
      · exact fun unit member => plain_of_test (by decide) (escaped unit member)
    rw [escapePromptUnit_plain plain]
    exact parseString_quoteCharacter shape text

theorem readsQuoted_promptString : ReadsQuoted promptString := by
  intro value
  have opened : promptString value =
      34 :: (((characters value).flatMap quoteCharacter).flatMap escapePromptUnit ++ [34]) := by
    rw [promptString, quoteJsonString, List.cons_append, List.flatMap_cons, List.flatMap_append]
    rfl
  refine ⟨_, opened, fun rest => ?_⟩
  have all : ∀ written : List Text, (∀ character ∈ written, character ∈ characters value) →
      parseString ((written.flatMap quoteCharacter).flatMap escapePromptUnit ++ 34 :: rest) =
        some (written.flatten, rest) := by
    intro written members
    induction written with
    | nil => rfl
    | cons character written ih =>
      rw [List.flatMap_cons, List.flatMap_append, List.append_assoc,
        parseString_promptCharacter (character_shape (members character (by simp))),
        ih fun later member => members later (by simp [member])]
      rfl
  rw [List.append_assoc]
  exact (all (characters value) fun _ member => member).trans (by rw [characters_flatten])

/-! ## Values -/

variable {N : Type} [FiniteNumber N]

theorem encodeUntrustedPromptValue_eq {value : JsValue N} (json : value.IsJson) :
    encodeUntrustedPromptValue value = value.textBy promptString :=
  textBy_flatMap (fun _ => escapePromptUnit_syntax) json

theorem encodeUntrustedPromptValue_units {value : JsValue N} (json : value.IsJson) :
    ∀ unit ∈ encodeUntrustedPromptValue value, ¬closesLine unit := by
  have syntactic : ∀ unit, isJsonSyntax unit = true → ¬unit < 32 := by
    intro unit known small
    have all : ∀ n < 32, isJsonSyntax (UInt16.ofNat n) = false := by decide
    have other := all unit.toNat (UInt16.lt_iff_toNat_lt.mp small)
    rw [UInt16.ofNat_toNat, known] at other
    cases other
  have printable := textBy_forall (fun unit => ¬unit < 32) syntactic quoteJsonString_printable json
  intro unit member
  obtain ⟨before, written, member⟩ := List.mem_flatMap.mp member
  rcases mem_escapePromptUnit member with ⟨rfl, less, greater⟩ | other
  · rintro (rfl | rfl | rfl)
    · exact less rfl
    · exact greater rfl
    · exact printable 10 written (by decide)
  · rintro (rfl | rfl | rfl)
    all_goals
      revert other
      decide

theorem parseValue_space (fuel : Nat) (text : Text) :
    parseValue (N := N) (fuel + 1) (32 :: text) = parseValue (fuel + 1) text := by
  have skipped : skipSpace (32 :: text) = skipSpace text := rfl
  rw [parseValue, parseValue, skipped]

theorem parseJson_recordLine {record : JsValue N} (json : record.IsJson) :
    parseJson (recordLine record) = some record.ordered := by
  have written : recordLine record = 32 :: 32 :: record.textBy promptString := by
    rw [recordLine, encodeUntrustedPromptValue_eq json]
    rfl
  have read := parseValue_textBy readsQuoted_promptString json
    ((record.textBy promptString).length + 3) [] (by omega) (by rintro _ ⟨⟩)
  rw [List.append_nil] at read
  have spaced : parseValue (N := N) ((record.textBy promptString).length + 3)
      (32 :: 32 :: record.textBy promptString) = some (record.ordered, []) := by
    rw [parseValue_space, parseValue_space, read]
  rw [written, parseJson, List.length_cons, List.length_cons, spaced]
  show (if skipSpace [] = [] then some record.ordered else none) = _
  exact if_pos rfl

theorem recordLine_units {record : JsValue N} (json : record.IsJson) :
    ∀ unit ∈ recordLine record, ¬closesLine unit := by
  intro unit member
  rcases List.mem_append.mp member with space | member
  · have spaces : ∀ unit ∈ utf16 "  ", ¬(unit = 60 ∨ unit = 62 ∨ unit = 10) :=
      List.all_iff_forall_prop.mp (by decide)
    exact spaces unit space
  · exact encodeUntrustedPromptValue_units json unit member

/-! ## Records -/

omit [FiniteNumber N]

theorem PreCallMemoryRef.value_isJson (ref : PreCallMemoryRef) : (ref.value : JsValue N).IsJson := by
  refine .object _ ?_ ?_
  · cases scope : ref.scope <;> simp only [List.map_cons, List.map_nil] <;> decide
  · intro member stored
    simp only [List.mem_cons, List.not_mem_nil, or_false] at stored
    rcases stored with rfl | rfl
    · exact .string _
    · exact .string _

theorem memoryRecord_isJson (entry : PreCallMemoryEntry N) : (memoryRecord entry).IsJson := by
  have distinct : ∀ tags, (tagsMember (N := N) tags).map (·.1) = [] ∨
      (tagsMember (N := N) tags).map (·.1) = [utf16 "tags"] := by
    rintro (_ | _ | ⟨tag, tags⟩)
    · exact Or.inl rfl
    · exact Or.inl rfl
    · exact Or.inr rfl
  have tags : ∀ member ∈ tagsMember (N := N) entry.tags, member.2.IsJson := by
    intro member stored
    unfold tagsMember at stored
    split at stored
    · obtain rfl := List.mem_singleton.mp stored
      refine .array _ fun item held => ?_
      obtain ⟨tag, -, rfl⟩ := List.mem_map.mp held
      exact .string _
    · cases stored
  refine .object _ ?_ fun member stored => ?_
  · simp only [List.map_append, List.map_cons, List.map_nil]
    rcases distinct entry.tags with absent | present
    · rw [absent]
      decide
    · rw [present]
      decide
  · simp only [List.mem_append, List.mem_cons, List.not_mem_nil, or_false] at stored
    rcases stored with ((rfl | rfl | rfl) | stored) | rfl
    · exact entry.ref.value_isJson
    · exact .string _
    · exact .string _
    · exact tags member stored
    · exact entry.json

theorem staticRecord_isJson (member : Text × Text) : (staticRecord (N := N) member).IsJson := by
  refine .object _ ?_ ?_
  · simp only [List.map_cons, List.map_nil]
    decide
  · intro member stored
    simp only [List.mem_cons, List.not_mem_nil, or_false] at stored
    rcases stored with rfl | rfl
    · exact .string _
    · exact .string _

theorem memoryRecords_isJson (host : PromptHost) (context : PreCallContext N) :
    ∀ record ∈ memoryRecords host context, record.IsJson := by
  intro record stored
  obtain ⟨entry, -, rfl⟩ := List.mem_map.mp stored
  exact memoryRecord_isJson entry

theorem staticRecords_isJson (host : PromptHost) (context : PreCallContext N) :
    ∀ record ∈ staticRecords host context, record.IsJson := by
  intro record stored
  obtain ⟨member, -, rfl⟩ := List.mem_map.mp stored
  exact staticRecord_isJson member

end Tvic
