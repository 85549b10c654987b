import Mathlib.Data.Rat.Defs
import Tvic.Lib.JsValue

/-!
# JSON texts

`JSON.stringify` of a JSON value without spaces, but with the keys of every object in order, and
`JSON.parse`. How numbers are written is left to the type of the numbers; all that counts is that what
has been written is read back. `parse_text` is the round trip.
-/
namespace Tvic.Lib

def isNumberUnit (unit : UInt16) : Bool :=
  isDigit unit || unit == 43 || unit == 45 || unit == 46 || unit == 69 || unit == 101

/-- Finite numbers, with what `JSON.stringify` makes of them and `JSON.parse` of it. Zero has one
sign. -/
class FiniteNumber (N : Type) where
  value : N → ℚ
  text : N → Text
  read : Text → Option N
  read_text : ∀ number, read (text number) = some number
  text_ne_nil : ∀ number, text number ≠ []
  text_units : ∀ number, ∀ unit ∈ text number, isNumberUnit unit = true

/-! ## Writing -/

def joinWith (separator : UInt16) : List Text → Text
  | [] => []
  | [text] => text
  | text :: next :: texts => text ++ separator :: joinWith separator (next :: texts)

/-- `[…]` -/
def arrayText (items : List Text) : Text := 91 :: joinWith 44 items ++ [93]

def memberText (member : Text × Text) : Text := quoteJsonString member.1 ++ 58 :: member.2

/-- `{…}` -/
def objectText (members : List (Text × Text)) : Text :=
  123 :: joinWith 44 (members.map memberText) ++ [125]

namespace JsValue

variable {N : Type} [FiniteNumber N]

def leafText : JsValue N → Text
  | .boolean true => utf16 "true"
  | .boolean false => utf16 "false"
  | .number value => FiniteNumber.text value
  | .string value => quoteJsonString value
  | _ => utf16 "null"

def text : JsValue N → Text := fold leafText arrayText fun members => objectText (sortMembers members)

end JsValue

section TextBy

variable (quote : Text → Text)

def memberTextBy (member : Text × Text) : Text := quote member.1 ++ 58 :: member.2

def objectTextBy (members : List (Text × Text)) : Text :=
  123 :: joinWith 44 (members.map (memberTextBy quote)) ++ [125]

namespace JsValue

variable {N : Type} [FiniteNumber N]

def leafTextBy : JsValue N → Text
  | .string value => quote value
  | leaf => leafText leaf

/-- The text with the members as they stand and with strings written by `quote`. -/
def textBy : JsValue N → Text := fold (leafTextBy quote) arrayText (objectTextBy quote)

/-- The value with the members of every object in the order in which an object has them. -/
def ordered : JsValue N → JsValue N :=
  fold (fun leaf => leaf) .array fun members => .object (propertyOrder members)

end JsValue

end TextBy

/-! ## Reading -/

def isJsonSpace (unit : UInt16) : Bool := unit == 9 || unit == 10 || unit == 13 || unit == 32

def skipSpace (text : Text) : Text := text.dropWhile isJsonSpace

def hexValue? (unit : UInt16) : Option UInt16 :=
  if 48 ≤ unit ∧ unit ≤ 57 then some (unit - 48)
  else if 97 ≤ unit ∧ unit ≤ 102 then some (unit - 87)
  else if 65 ≤ unit ∧ unit ≤ 70 then some (unit - 55)
  else none

def hexUnit? (first second third fourth : UInt16) : Option UInt16 := do
  return (← hexValue? first) <<< 12 ||| (← hexValue? second) <<< 8 ||| (← hexValue? third) <<< 4 |||
    (← hexValue? fourth)

def shortEscape? (unit : UInt16) : Option UInt16 :=
  if unit = 34 ∨ unit = 92 ∨ unit = 47 then some unit
  else if unit = 98 then some 8
  else if unit = 102 then some 12
  else if unit = 110 then some 10
  else if unit = 114 then some 13
  else if unit = 116 then some 9
  else none

/-- A string after its opening quotation mark, and what follows it. -/
def parseString : Text → Option (Text × Text)
  | [] => none
  | 34 :: rest => some ([], rest)
  | 92 :: 117 :: first :: second :: third :: fourth :: rest => do
    let unit ← hexUnit? first second third fourth
    let (units, rest) ← parseString rest
    return (unit :: units, rest)
  | 92 :: escape :: rest => do
    let unit ← shortEscape? escape
    let (units, rest) ← parseString rest
    return (unit :: units, rest)
  | unit :: rest =>
    if unit < 32 ∨ unit = 92 then none
    else do
      let (units, rest) ← parseString rest
      return (unit :: units, rest)

def expect : Text → Text → Option Text
  | [], text => some text
  | _ :: _, [] => none
  | unit :: word, unit' :: text => if unit = unit' then expect word text else none

section Parse

variable {N : Type} [FiniteNumber N]

mutual

/-- A value and what follows it. Every call takes something off the text, so its length is enough
fuel. -/
def parseValue : Nat → Text → Option (JsValue N × Text)
  | 0, _ => none
  | fuel + 1, text =>
    match skipSpace text with
    | [] => none
    | 34 :: rest => (parseString rest).map fun (value, rest) => (.string value, rest)
    | 91 :: rest =>
      match skipSpace rest with
      | 93 :: rest => some (.array [], rest)
      | _ => (parseItems fuel rest).map fun (items, rest) => (.array items, rest)
    | 123 :: rest =>
      match skipSpace rest with
      | 125 :: rest => some (.object [], rest)
      | _ => (parseMembers fuel rest []).map fun (members, rest) =>
          (.object (propertyOrder members), rest)
    | 110 :: rest => (expect (utf16 "ull") rest).map fun rest => (.null, rest)
    | 116 :: rest => (expect (utf16 "rue") rest).map fun rest => (.boolean true, rest)
    | 102 :: rest => (expect (utf16 "alse") rest).map fun rest => (.boolean false, rest)
    | text => do
      let number ← FiniteNumber.read (text.takeWhile isNumberUnit)
      return (.number number, text.dropWhile isNumberUnit)

def parseItems : Nat → Text → Option (List (JsValue N) × Text)
  | 0, _ => none
  | fuel + 1, text => do
    let (item, rest) ← parseValue fuel text
    match skipSpace rest with
    | 44 :: rest =>
      let (items, rest) ← parseItems fuel rest
      return (item :: items, rest)
    | 93 :: rest => return ([item], rest)
    | _ => none

/-- The members of an object up to its brace, after those before. Of two with one key the later one
counts. -/
def parseMembers : Nat → Text → List (Text × JsValue N) → Option (List (Text × JsValue N) × Text)
  | 0, _, _ => none
  | fuel + 1, text, members =>
    match skipSpace text with
    | 34 :: rest => do
      let (key, rest) ← parseString rest
      match skipSpace rest with
      | 58 :: rest =>
        let (value, rest) ← parseValue fuel rest
        let members := setMember key value members
        match skipSpace rest with
        | 44 :: rest => parseMembers fuel rest members
        | 125 :: rest => return (members, rest)
        | _ => none
      | _ => none
    | _ => none

end

/-- `JSON.parse`, where it does not throw. -/
def parseJson (text : Text) : Option (JsValue N) := do
  let (value, rest) ← parseValue (text.length + 1) text
  if skipSpace rest = [] then some value else none

end Parse

/-! ## The round trip -/

variable {unit : UInt16}

theorem hexValue?_hexDigit {digit : UInt16} (small : digit < 16) : hexValue? (hexDigit digit) = some digit := by
  have each : ∀ n < 16, hexValue? (hexDigit (UInt16.ofNat n)) = some (UInt16.ofNat n) := by
    decide
  simpa using each digit.toNat (by simpa [UInt16.lt_iff_toNat_lt] using small)

theorem and_lt_sixteen (unit : UInt16) : unit &&& 15 < 16 := by
  rw [UInt16.lt_iff_toNat_lt, UInt16.toNat_and]
  exact @Nat.and_lt_two_pow _ 15 4 (by decide)

theorem shiftRight_lt_sixteen (unit : UInt16) : unit >>> 12 < 16 := by
  have bounded := unit.toNat_lt
  rw [UInt16.lt_iff_toNat_lt, UInt16.toNat_shiftRight]
  show unit.toNat >>> 12 < 16
  rw [Nat.shiftRight_eq_div_pow]
  omega

/-- A unit is made of its four hexadecimal digits. -/
theorem digits_or (unit : UInt16) :
    (unit >>> 12) <<< 12 ||| (unit >>> 8 &&& 15) <<< 8 ||| (unit >>> 4 &&& 15) <<< 4 ||| (unit &&& 15) =
      unit := by
  rw [← UInt16.toBitVec_inj]
  ext place within
  have places : place = 0 ∨ place = 1 ∨ place = 2 ∨ place = 3 ∨ place = 4 ∨ place = 5 ∨ place = 6 ∨
      place = 7 ∨ place = 8 ∨ place = 9 ∨ place = 10 ∨ place = 11 ∨ place = 12 ∨ place = 13 ∨
      place = 14 ∨ place = 15 := by
    omega
  rcases places with rfl | rfl | rfl | rfl | rfl | rfl | rfl | rfl | rfl | rfl | rfl | rfl | rfl |
    rfl | rfl | rfl <;> simp

theorem hexUnit?_hexDigits (unit : UInt16) :
    hexUnit? (hexDigit (unit >>> 12)) (hexDigit ((unit >>> 8) &&& 15))
      (hexDigit ((unit >>> 4) &&& 15)) (hexDigit (unit &&& 15)) = some unit := by
  rw [hexUnit?, hexValue?_hexDigit (shiftRight_lt_sixteen unit), hexValue?_hexDigit (and_lt_sixteen _),
    hexValue?_hexDigit (and_lt_sixteen _), hexValue?_hexDigit (and_lt_sixteen _)]
  exact congrArg some (digits_or unit)

theorem parseString_plain (printable : ¬unit < 32) (quote : unit ≠ 34) (backslash : unit ≠ 92)
    (text : Text) :
    parseString (unit :: text) =
      (parseString text).map fun parsed => (unit :: parsed.1, parsed.2) := by
  rw [parseString.eq_def]
  split
  · contradiction
  next same => exact absurd (List.cons.inj same).1 quote
  next same => exact absurd (List.cons.inj same).1 backslash
  next same => exact absurd (List.cons.inj same).1 backslash
  next same =>
    obtain ⟨rfl, rfl⟩ := List.cons.inj same
    rw [if_neg (by simp [printable, backslash])]
    cases parseString text <;> rfl

theorem parseString_escape {escape unit : UInt16} (escapes : shortEscape? escape = some unit)
    (text : Text) :
    parseString (92 :: escape :: text) =
      (parseString text).map fun parsed => (unit :: parsed.1, parsed.2) := by
  rw [parseString.eq_def]
  split
  · contradiction
  next same => cases same
  next same =>
    obtain ⟨_, same⟩ := List.cons.inj same
    rw [(List.cons.inj same).1] at escapes
    cases escapes
  next same =>
    obtain ⟨_, same⟩ := List.cons.inj same
    obtain ⟨rfl, rfl⟩ := List.cons.inj same
    rw [escapes]
    cases parseString text <;> rfl
  next others same =>
    obtain ⟨rfl, rfl⟩ := List.cons.inj same
    exact absurd rfl (others _ _ rfl)

theorem parseString_unicodeEscape (text : Text) :
    parseString (unicodeEscape unit ++ text) =
      (parseString text).map fun parsed => (unit :: parsed.1, parsed.2) := by
  have read := hexUnit?_hexDigits unit
  simp only [unicodeEscape, List.cons_append, List.nil_append, parseString, read]
  cases parseString text <;> rfl

theorem parseString_quoteCharacter {character : Text}
    (shape : (∃ unit, character = [unit]) ∨ ∃ high low, character = [high, low] ∧
      isHighSurrogate high = true ∧ isLowSurrogate low = true) (text : Text) :
    parseString (quoteCharacter character ++ text) =
      (parseString text).map fun parsed => (character ++ parsed.1, parsed.2) := by
  rcases shape with ⟨unit, rfl⟩ | ⟨high, low, rfl, high_surrogate, low_surrogate⟩
  · unfold quoteCharacter
    dsimp only
    split_ifs with b t n f r quote backslash escaped
    · exact b ▸ parseString_escape (by decide) text
    · exact t ▸ parseString_escape (by decide) text
    · exact n ▸ parseString_escape (by decide) text
    · exact f ▸ parseString_escape (by decide) text
    · exact r ▸ parseString_escape (by decide) text
    · exact quote ▸ parseString_escape (by decide) text
    · exact backslash ▸ parseString_escape (by decide) text
    · exact parseString_unicodeEscape text
    · simp only [Bool.or_eq_true, decide_eq_true_eq, not_or] at escaped
      exact parseString_plain escaped.1 quote backslash text
  · -- a pair stands as it is
    have plain : ∀ unit, isSurrogate unit = true → ¬unit < 32 ∧ unit ≠ 34 ∧ unit ≠ 92 := by
      intro unit half
      simp only [isSurrogate, isHighSurrogate, isLowSurrogate, Bool.or_eq_true, Bool.and_eq_true,
        decide_eq_true_eq, UInt16.le_iff_toNat_le, UInt16.reduceToNat] at half
      refine ⟨?_, ?_, ?_⟩
      · simp only [UInt16.lt_iff_toNat_lt, UInt16.reduceToNat]
        omega
      · rintro rfl
        simp at half
      · rintro rfl
        simp at half
    obtain ⟨first, second, third⟩ := plain high (by simp [isSurrogate, high_surrogate])
    obtain ⟨first', second', third'⟩ := plain low (by simp [isSurrogate, low_surrogate])
    change parseString (high :: low :: text) = _
    rw [parseString_plain first second third, parseString_plain first' second' third', Option.map_map]
    rfl

theorem parseString_quote (value rest : Text) :
    parseString ((characters value).flatMap quoteCharacter ++ 34 :: rest) = some (value, rest) := by
  have all : ∀ written : List Text, (∀ character ∈ written, character ∈ characters value) →
      parseString (written.flatMap quoteCharacter ++ 34 :: rest) = some (written.flatten, rest) := by
    intro written members
    induction written with
    | nil => rfl
    | cons character written ih =>
      rw [List.flatMap_cons, List.append_assoc,
        parseString_quoteCharacter (character_shape (members character (by simp))),
        ih fun later member => members later (by simp [member])]
      rfl
  rw [all (characters value) fun _ member => member, characters_flatten]

namespace JsValue

variable {N : Type} [FiniteNumber N]

@[simp] theorem text_array (items : List (JsValue N)) :
    (JsValue.array items).text = arrayText (items.map text) := by
  simp [text]

@[simp] theorem text_object (members : List (Text × JsValue N)) :
    (JsValue.object members).text =
      objectText ((sortMembers members).map fun member => (member.1, member.2.text)) := by
  simp only [text, fold_object, sortMembers_map]

end JsValue

variable {N : Type} [FiniteNumber N]

theorem numberUnit_plain (number : isNumberUnit unit = true) :
    isJsonSpace unit = false ∧ unit ≠ 34 ∧ unit ≠ 91 ∧ unit ≠ 93 ∧ unit ≠ 123 ∧ unit ≠ 125 ∧
      unit ≠ 110 ∧ unit ≠ 116 ∧ unit ≠ 102 := by
  have all : ∀ n < 128, let unit := UInt16.ofNat n
      isNumberUnit unit = true → isJsonSpace unit = false ∧ unit ≠ 34 ∧ unit ≠ 91 ∧ unit ≠ 93 ∧
        unit ≠ 123 ∧ unit ≠ 125 ∧ unit ≠ 110 ∧ unit ≠ 116 ∧ unit ≠ 102 := by
    decide +kernel
  have small : unit.toNat < 128 := by
    simp only [isNumberUnit, isDigit, Bool.or_eq_true, Bool.and_eq_true, decide_eq_true_eq, beq_iff_eq,
      UInt16.le_iff_toNat_le, ← UInt16.toNat_inj, UInt16.reduceToNat] at number
    omega
  have plain := all unit.toNat small
  simp only [UInt16.ofNat_toNat] at plain
  exact plain number

namespace JsValue

@[simp] theorem textBy_array (quote : Text → Text) (items : List (JsValue N)) :
    (JsValue.array items).textBy quote = arrayText (items.map (textBy quote)) := by
  simp [textBy]

@[simp] theorem textBy_object (quote : Text → Text) (members : List (Text × JsValue N)) :
    (JsValue.object members).textBy quote =
      objectTextBy quote (members.map fun member => (member.1, member.2.textBy quote)) := by
  simp [textBy]

omit [FiniteNumber N] in
@[simp] theorem ordered_array (items : List (JsValue N)) :
    (JsValue.array items).ordered = .array (items.map ordered) := by
  simp [ordered]

omit [FiniteNumber N] in
@[simp] theorem ordered_object (members : List (Text × JsValue N)) :
    (JsValue.object members).ordered =
      .object (propertyOrder (members.map fun member => (member.1, member.2.ordered))) := by
  simp [ordered]

end JsValue

/-- What has been quoted begins with a quotation mark and is read back. -/
def ReadsQuoted (quote : Text → Text) : Prop :=
  ∀ value, ∃ body, quote value = 34 :: body ∧
    ∀ rest, parseString (body ++ rest) = some (value, rest)

theorem readsQuoted_quoteJsonString : ReadsQuoted quoteJsonString := by
  intro value
  refine ⟨(characters value).flatMap quoteCharacter ++ [34], rfl, fun rest => ?_⟩
  rw [List.append_assoc]
  exact parseString_quote value rest

variable {quote : Text → Text} (readsQuoted : ReadsQuoted quote)
include readsQuoted

variable {value : JsValue N}

theorem textBy_head (json : value.IsJson) :
    ∃ unit rest, value.textBy quote = unit :: rest ∧ isJsonSpace unit = false ∧ unit ≠ 93 := by
  cases json with
  | null => exact ⟨110, utf16 "ull", rfl, by decide, by decide⟩
  | boolean value =>
    cases value with
    | true => exact ⟨116, utf16 "rue", rfl, by decide, by decide⟩
    | false => exact ⟨102, utf16 "alse", rfl, by decide, by decide⟩
  | number number =>
    cases written : FiniteNumber.text number with
    | nil => exact absurd written (FiniteNumber.text_ne_nil number)
    | cons unit rest =>
      have plain := numberUnit_plain (FiniteNumber.text_units number unit (by simp [written]))
      exact ⟨unit, rest, written, plain.1, plain.2.2.2.1⟩
  | string value =>
    obtain ⟨body, quoted, -⟩ := readsQuoted value
    exact ⟨34, body, quoted, by decide, by decide⟩
  | array items each => exact ⟨91, _, JsValue.textBy_array quote items, by decide, by decide⟩
  | object members distinct each =>
    exact ⟨123, _, JsValue.textBy_object quote members, by decide, by decide⟩

omit readsQuoted

theorem skipSpace_cons (plain : isJsonSpace unit = false) (text : Text) :
    skipSpace (unit :: text) = unit :: text := by
  simp [skipSpace, plain]

def EndsNumber (rest : Text) : Prop := ∀ unit ∈ rest.head?, isNumberUnit unit = false

theorem takeWhile_number {number rest : Text} (units : ∀ unit ∈ number, isNumberUnit unit = true)
    (ends : EndsNumber rest) :
    (number ++ rest).takeWhile isNumberUnit = number ∧
      (number ++ rest).dropWhile isNumberUnit = rest := by
  have stop : rest.takeWhile isNumberUnit = [] ∧ rest.dropWhile isNumberUnit = rest := by
    cases rest with
    | nil => exact ⟨rfl, rfl⟩
    | cons unit rest =>
      have other := ends unit rfl
      simp [other]
  rw [List.takeWhile_append_of_pos units, List.dropWhile_append_of_pos units, stop.1, stop.2]
  simp

theorem parseValue_number {number : N} {rest : Text} (ends : EndsNumber rest) (fuel : Nat) :
    parseValue (fuel + 1) (FiniteNumber.text number ++ rest) = some (.number number, rest) := by
  obtain ⟨taken, dropped⟩ := takeWhile_number (FiniteNumber.text_units number) ends
  cases written : FiniteNumber.text number with
  | nil => exact absurd written (FiniteNumber.text_ne_nil number)
  | cons unit tail =>
    have read := FiniteNumber.read_text number
    obtain ⟨space, quote, bracket, -, brace, -, n, t, f⟩ :=
      numberUnit_plain (FiniteNumber.text_units number unit (by simp [written]))
    rw [written] at taken dropped read
    rw [parseValue, List.cons_append, skipSpace_cons space]
    rw [List.cons_append] at taken dropped
    split
    · contradiction
    next same => exact absurd (List.cons.inj same).1 quote
    next same => exact absurd (List.cons.inj same).1 bracket
    next same => exact absurd (List.cons.inj same).1 brace
    next same => exact absurd (List.cons.inj same).1 n
    next same => exact absurd (List.cons.inj same).1 t
    next same => exact absurd (List.cons.inj same).1 f
    · rw [taken, dropped, read]
      rfl

variable (quote) in
def ReadBack (value : JsValue N) : Prop :=
  ∀ fuel rest, (value.textBy quote).length ≤ fuel → EndsNumber rest →
    parseValue fuel (value.textBy quote ++ rest) = some (value.ordered, rest)

theorem endsNumber_cons (other : isNumberUnit unit = false) (rest : Text) :
    EndsNumber (unit :: rest) := by
  rintro _ ⟨⟩
  exact other

theorem joinWith_cons_cons (separator : UInt16) (text next : Text) (texts : List Text) :
    joinWith separator (text :: next :: texts) =
      text ++ separator :: joinWith separator (next :: texts) := rfl

theorem parseItems_textBy {items : List (JsValue N)} (nonempty : items ≠ [])
    (each : ∀ item ∈ items, ReadBack quote item) {fuel : Nat} (rest : Text)
    (enough : (joinWith 44 (items.map (JsValue.textBy quote))).length < fuel) :
    parseItems fuel (joinWith 44 (items.map (JsValue.textBy quote)) ++ 93 :: rest) =
      some (items.map JsValue.ordered, rest) := by
  induction items generalizing fuel with
  | nil => exact absurd rfl nonempty
  | cons item items ih =>
    obtain ⟨fuel, rfl⟩ := Nat.exists_eq_add_of_lt (Nat.zero_lt_of_lt enough)
    rw [Nat.zero_add] at enough ⊢
    have read := each item (by simp)
    cases items with
    | nil =>
      simp only [List.map_cons, List.map_nil, joinWith] at enough ⊢
      rw [parseItems, read fuel (93 :: rest) (by omega) (endsNumber_cons (by decide) _)]
      rfl
    | cons next items =>
      simp only [List.map_cons] at enough ih ⊢
      rw [joinWith_cons_cons] at enough ⊢
      rw [List.length_append, List.length_cons] at enough
      rw [List.append_assoc, List.cons_append, parseItems,
        read fuel _ (by omega) (endsNumber_cons (by decide) _)]
      simp only [Option.bind_eq_bind, Option.bind_some]
      rw [skipSpace_cons (by decide)]
      simp only [ih (by simp) (fun later member => each later (by simp [member])) (by omega : _ < fuel)]
      rfl

include readsQuoted

theorem parseMembers_textBy {members : List (Text × JsValue N)} (nonempty : members ≠ [])
    (each : ∀ member ∈ members, ReadBack quote member.2) (before : List (Text × JsValue N))
    (distinct : ((before ++ members).map (·.1)).Nodup) {fuel : Nat} (rest : Text)
    (enough : (joinWith 44 (members.map fun member =>
      memberTextBy quote (member.1, member.2.textBy quote))).length < fuel) :
    parseMembers fuel
        (joinWith 44 (members.map fun member =>
          memberTextBy quote (member.1, member.2.textBy quote)) ++ 125 :: rest) before =
      some (before ++ members.map fun member => (member.1, member.2.ordered), rest) := by
  induction members generalizing fuel before with
  | nil => exact absurd rfl nonempty
  | cons member members ih =>
    obtain ⟨fuel, rfl⟩ := Nat.exists_eq_add_of_lt (Nat.zero_lt_of_lt enough)
    rw [Nat.zero_add] at enough ⊢
    have read := each member (by simp)
    obtain ⟨body, quoted, readKey⟩ := readsQuoted member.1
    -- the key has not been there before
    have missing : member.1 ∉ before.map (·.1) := by
      intro there
      rw [List.map_append, List.nodup_append] at distinct
      exact distinct.2.2 _ there _ (by simp) rfl
    cases members with
    | nil =>
      simp only [List.map_cons, List.map_nil, joinWith, memberTextBy, quoted, List.append_assoc,
        List.cons_append] at enough ⊢
      rw [List.length_cons, List.length_append, List.length_cons] at enough
      rw [parseMembers, skipSpace_cons (by decide)]
      simp only [readKey, Option.bind_eq_bind, Option.bind_some]
      rw [skipSpace_cons (by decide)]
      simp only [read fuel _ (by omega) (endsNumber_cons (by decide : isNumberUnit 125 = false) rest),
        Option.bind_some]
      rw [skipSpace_cons (by decide)]
      simp only [setMember_of_notMem missing]
      rfl
    | cons next members =>
      simp only [List.map_cons] at enough ih ⊢
      rw [joinWith_cons_cons] at enough ⊢
      have shorter : (joinWith 44 (memberTextBy quote (next.1, next.2.textBy quote) ::
          members.map fun member => memberTextBy quote (member.1, member.2.textBy quote))).length <
            fuel ∧ (member.2.textBy quote).length ≤ fuel := by
        rw [memberTextBy, quoted] at enough
        simp only [List.length_append, List.length_cons] at enough
        constructor <;> omega
      have first : memberTextBy quote (member.1, member.2.textBy quote) =
          34 :: (body ++ 58 :: member.2.textBy quote) := by
        rw [memberTextBy, quoted]
        rfl
      rw [first, List.cons_append, List.cons_append, parseMembers, skipSpace_cons (by decide)]
      simp only [List.append_assoc, List.cons_append, readKey, Option.bind_eq_bind, Option.bind_some]
      rw [skipSpace_cons (by decide)]
      simp only [read fuel _ shorter.2 (endsNumber_cons (by decide : isNumberUnit 44 = false) _),
        Option.bind_some]
      rw [skipSpace_cons (by decide)]
      simp only [setMember_of_notMem missing]
      have distinct' : ((before ++ [(member.1, member.2.ordered)] ++ next :: members).map (·.1)).Nodup := by
        simpa using distinct
      rw [ih (by simp) (fun later stored => each later (by simp [stored])) _ distinct' shorter.1]
      simp

theorem readBack_of_succ (json : value.IsJson)
    (read : ∀ fuel rest, (value.textBy quote).length ≤ fuel + 1 → EndsNumber rest →
      parseValue (fuel + 1) (value.textBy quote ++ rest) = some (value.ordered, rest)) :
    ReadBack quote value := by
  intro fuel rest enough ends
  cases fuel with
  | zero =>
    obtain ⟨head, tail, written, -⟩ := textBy_head readsQuoted json
    simp [written] at enough
  | succ fuel => exact read fuel rest enough ends

theorem parseValue_textBy (json : value.IsJson) : ReadBack quote value := by
  induction json with
  | null => exact readBack_of_succ readsQuoted .null fun _ _ _ _ => rfl
  | boolean value =>
    exact readBack_of_succ readsQuoted (.boolean value) fun _ _ _ _ => by cases value <;> rfl
  | number number =>
    exact readBack_of_succ readsQuoted (.number number) fun fuel _ _ ends =>
      parseValue_number ends fuel
  | string value =>
    refine readBack_of_succ readsQuoted (.string value) fun fuel rest _ _ => ?_
    obtain ⟨body, quoted, read⟩ := readsQuoted value
    change parseValue (fuel + 1) (quote value ++ rest) = _
    rw [quoted, List.cons_append, parseValue, skipSpace_cons (by decide)]
    simp only [read]
    rfl
  | array items each ih =>
    refine readBack_of_succ readsQuoted (.array items each) fun fuel rest enough ends => ?_
    rw [JsValue.textBy_array, JsValue.ordered_array] at *
    simp only [arrayText, List.cons_append, List.append_assoc, List.nil_append, List.length_cons,
      List.length_append, List.length_nil] at enough ⊢
    rw [parseValue, skipSpace_cons (by decide)]
    cases items with
    | nil => rfl
    | cons item items =>
      -- the first item begins with something else than the closing bracket
      obtain ⟨unit, tail, written, plain, bracket⟩ := textBy_head readsQuoted (each item (by simp))
      have starts : ∃ more, joinWith 44 ((item :: items).map (JsValue.textBy quote)) = unit :: more := by
        cases items with
        | nil => exact ⟨tail, written⟩
        | cons next items =>
          exact ⟨tail ++ 44 :: joinWith 44 ((next :: items).map (JsValue.textBy quote)), by
            rw [List.map_cons, List.map_cons, joinWith_cons_cons, written]
            rfl⟩
      obtain ⟨more, starts⟩ := starts
      have body := parseItems_textBy (by simp) ih rest (by omega : _ < fuel)
      rw [starts] at body ⊢
      rw [List.cons_append] at body ⊢
      simp only [skipSpace_cons plain]
      split
      next same => exact absurd (List.cons.inj same).1 bracket
      · rw [body]
        rfl
  | object members distinct each ih =>
    refine readBack_of_succ readsQuoted (.object members distinct each) fun fuel rest enough ends => ?_
    rw [JsValue.textBy_object] at enough ⊢
    rw [JsValue.ordered_object]
    simp only [objectTextBy, List.cons_append, List.append_assoc, List.nil_append, List.length_cons,
      List.length_append, List.length_nil, List.map_map, Function.comp_def] at enough ⊢
    rw [parseValue, skipSpace_cons (by decide)]
    cases members with
    | nil => rfl
    | cons member later =>
      have shorter : (joinWith 44 ((member :: later).map fun member =>
          memberTextBy quote (member.1, member.2.textBy quote))).length < fuel := by omega
      have body := parseMembers_textBy readsQuoted (by simp) ih [] distinct rest shorter
      have starts : ∃ more, joinWith 44 ((member :: later).map fun member =>
          memberTextBy quote (member.1, member.2.textBy quote)) = 34 :: more := by
        obtain ⟨key, quoted, -⟩ := readsQuoted member.1
        cases later with
        | nil => exact ⟨_, by rw [List.map_cons, List.map_nil, joinWith, memberTextBy, quoted]; rfl⟩
        | cons next later =>
          exact ⟨_, by
            rw [List.map_cons, List.map_cons, joinWith_cons_cons, memberTextBy, quoted]
            rfl⟩
      obtain ⟨more, starts⟩ := starts
      rw [starts, List.cons_append] at body ⊢
      simp only [skipSpace_cons (by decide : isJsonSpace 34 = false)]
      rw [body]
      rfl

theorem parse_textBy (json : value.IsJson) :
    parseJson (value.textBy quote) = some value.ordered := by
  have read := parseValue_textBy readsQuoted json ((value.textBy quote).length + 1) []
    (Nat.le_succ _) (by rintro _ ⟨⟩)
  rw [List.append_nil] at read
  rw [parseJson, read]
  show (if skipSpace [] = [] then some value.ordered else none) = _
  exact if_pos rfl

omit readsQuoted

omit [FiniteNumber N] in
theorem JsValue.isJson_sorted (json : value.IsJson) : value.sorted.IsJson := by
  induction json with
  | null => exact .null
  | boolean value => exact .boolean value
  | number value => exact .number value
  | string value => exact .string value
  | array items each ih =>
    rw [sorted_array]
    refine .array _ fun item stored => ?_
    obtain ⟨before, held, rfl⟩ := List.mem_map.mp stored
    exact ih before held
  | object members distinct each ih =>
    have perm := sortMembers_perm (members.map fun member => (member.1, member.2.sorted))
    rw [sorted_object]
    refine .object _ ?_ fun member stored => ?_
    · rw [(perm.map _).nodup_iff, map_keys]
      exact distinct
    · obtain ⟨before, held, rfl⟩ := List.mem_map.mp (perm.mem_iff.mp stored)
      exact ih before held

theorem JsValue.text_eq_textBy (json : value.IsJson) :
    value.text = value.sorted.textBy quoteJsonString := by
  induction json with
  | null => rfl
  | boolean value => rfl
  | number value => rfl
  | string value => rfl
  | array items each ih =>
    rw [sorted_array, text_array, textBy_array, List.map_map]
    exact congrArg arrayText (List.map_congr_left ih)
  | object members distinct each ih =>
    rw [sorted_object, text_object, textBy_object, ← sortMembers_map, ← sortMembers_map, List.map_map]
    refine congrArg (fun members => objectText (sortMembers members)) ?_
    exact List.map_congr_left fun member stored => by simp [ih member stored]

omit [FiniteNumber N] in
theorem JsValue.ordered_sorted (json : value.IsJson) :
    value.sorted.ordered = value.reread := by
  induction json with
  | null => rfl
  | boolean value => rfl
  | number value => rfl
  | string value => rfl
  | array items each ih =>
    rw [sorted_array, ordered_array, reread_array, List.map_map]
    exact congrArg _ (List.map_congr_left ih)
  | object members distinct each ih =>
    rw [sorted_object, ordered_object, reread_object, ← sortMembers_map, List.map_map]
    refine congrArg (fun members => JsValue.object (propertyOrder (sortMembers members))) ?_
    exact List.map_congr_left fun member stored => by simp [ih member stored]

theorem parse_text (json : value.IsJson) :
    parseJson value.text = some value.reread := by
  rw [JsValue.text_eq_textBy json, parse_textBy readsQuoted_quoteJsonString (JsValue.isJson_sorted json),
    JsValue.ordered_sorted json]

namespace JsValue

theorem text_sorted (json : value.IsJson) :
    value.sorted.text = value.text := by
  induction json with
  | null => rfl
  | boolean value => rfl
  | number value => rfl
  | string value => rfl
  | array items each ih =>
    rw [sorted_array, text_array, text_array, List.map_map]
    exact congrArg arrayText (List.map_congr_left ih)
  | object members distinct each ih =>
    have texts : (members.map fun member => (member.1, member.2.sorted)).map
        (fun member => (member.1, member.2.text)) =
          members.map fun member => (member.1, member.2.text) := by
      rw [List.map_map]
      exact List.map_congr_left fun member listed => by simp [ih member listed]
    have order := sortMembers_perm (members.map fun member => (member.1, member.2.sorted))
    rw [sorted_object, text_object, text_object, ← sortMembers_map text members, ← texts,
      ← sortMembers_map text (sortMembers _)]
    refine congrArg objectText (sortMembers_eq_of_perm (order.map _) ?_)
    rw [List.map_map]
    refine ((order.map (·.1)).nodup_iff).mpr ?_
    rwa [map_keys]

theorem text_eq_iff {a b : JsValue N} (left : a.IsJson) (right : b.IsJson) :
    a.text = b.text ↔ a.sorted = b.sorted := by
  constructor
  · intro same
    have read := parse_text left
    rw [same, parse_text right] at read
    rw [← sorted_reread left, ← sorted_reread right, Option.some.inj read]
  · intro same
    rw [← text_sorted left, ← text_sorted right, same]

end JsValue

end Tvic.Lib
