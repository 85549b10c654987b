import Tvic.Core.Errors
import Tvic.Lib.DecimalText

/-!
# Canonical JSON

`stableStringify` of `packages/tools/src/serialization.ts` and the copy of it in
`packages/dal-codec/src/index.ts`. The values are trees, so that none is its own ancestor, and have no
symbols among their keys. What is written for a normalized error is a parameter.

On JSON values without such an error in them both copies write the same text, `JSON.parse` reads the
value back, and two values have one text just if they differ in the order of keys.
-/
namespace Tvic

open Lib

inductive StringifyError where
  | undefinedValue
  | nonFiniteNumber
  | unsupportedType (type : Text)
  | nonJsonObject
  | ofNormalizedError (message : Text)
  deriving DecidableEq, Repr

def StringifyError.message : StringifyError → Text
  | .undefinedValue => utf16 "Cannot serialize undefined as a JSON value"
  | .nonFiniteNumber => utf16 "Cannot stable-stringify a non-finite number"
  | .unsupportedType type => utf16 "Cannot stable-stringify a " ++ type
  | .nonJsonObject => utf16 "Cannot stable-stringify a non-JSON object"
  | .ofNormalizedError message => message

variable {N : Type}

def isNormalizedErrorObject (members : List (Text × JsValue N)) : Bool :=
  match getMember (utf16 "name") members, getMember (utf16 "code") members,
      getMember (utf16 "category") members, getMember (utf16 "message") members,
      getMember (utf16 "retriable") members with
  | some (.string name), some (.string code), some (.string category), some (.string message),
      some (.boolean _) =>
    TvicErrorName.all.any (fun known => known.text = name ∧ known.category.text = category) &&
      isValidErrorCode code && message ≠ [] &&
      (match getMember (utf16 "provider") members with
        | none | some .undefined | some (.string _) => true
        | _ => false) &&
      (match getMember (utf16 "metadata") members with
        | none | some .undefined | some (.object _) | some (.error _ _ _) => true
        | _ => false)
  | _, _, _, _, _ => false

def errorProperties (name message : Text) (members : List (Text × JsValue N)) :
    List (Text × JsValue N) :=
  (utf16 "name", .string name) :: (utf16 "message", .string message) :: members

/-- The text of an object from the texts of its members, which are taken in the order of the keys. -/
def stringifyMembers (members : List (Text × Except StringifyError Text)) :
    Except StringifyError Text := do
  let texts ← (sortMembers members).mapM fun (key, text) => text.map (key, ·)
  .ok (objectText texts)

variable [FiniteNumber N]

/-! ## `packages/tools` -/

namespace Tools

section

variable (normalizedErrorText : List (Text × JsValue N) → Except StringifyError Text)
  (rejectUndefined : Bool)

mutual

def stableStringifyValue : JsValue N → Except StringifyError Text
  | .null => .ok (utf16 "null")
  | .undefined => if rejectUndefined then .error .undefinedValue else .ok (utf16 "null")
  | .string value => .ok (quoteJsonString value)
  | .boolean value => .ok (utf16 (if value then "true" else "false"))
  | .number value => .ok (FiniteNumber.text value)
  | .nonFinite => .error .nonFiniteNumber
  | .error name message members =>
    if isNormalizedErrorObject (errorProperties name message members) then
      normalizedErrorText (errorProperties name message members)
    else .error .nonJsonObject
  | .primitive text => .error (.unsupportedType text)
  | .function _ => .error (.unsupportedType (utf16 "function"))
  | .array items => (stableStringifyItems items).map arrayText
  | .object members =>
    if isNormalizedErrorObject members then normalizedErrorText members
    else stringifyMembers (stableStringifyEntries members)

def stableStringifyItems : List (JsValue N) → Except StringifyError (List Text)
  | [] => .ok []
  | item :: items => do
    let text ← stableStringifyValue item
    let texts ← stableStringifyItems items
    .ok (text :: texts)

def stableStringifyEntries : List (Text × JsValue N) → List (Text × Except StringifyError Text)
  | [] => []
  | (key, .undefined) :: members =>
    if rejectUndefined then (key, .error .undefinedValue) :: stableStringifyEntries members
    else stableStringifyEntries members
  | (key, value) :: members => (key, stableStringifyValue value) :: stableStringifyEntries members

end

end

def stableStringify (normalizedErrorText : List (Text × JsValue N) → Except StringifyError Text)
    (value : JsValue N) : Except StringifyError Text :=
  stableStringifyValue normalizedErrorText false value

def stableStringifyForPersistence
    (normalizedErrorText : List (Text × JsValue N) → Except StringifyError Text)
    (value : JsValue N) : Except StringifyError Text :=
  stableStringifyValue normalizedErrorText true value

end Tools

/-! ## `packages/dal-codec` -/

namespace DalCodec

section

variable (normalizedErrorText : List (Text × JsValue N) → Except StringifyError Text)
  (rejectUndefined : Bool)

mutual

def stableStringifyValue : JsValue N → Except StringifyError Text
  | .undefined => if rejectUndefined then .error .undefinedValue else .ok (utf16 "null")
  | .null => .ok (utf16 "null")
  | .string value => .ok (quoteJsonString value)
  | .boolean value => .ok (utf16 (if value then "true" else "false"))
  | .number value => .ok (FiniteNumber.text value)
  | .nonFinite => .error .nonFiniteNumber
  | .error name message members =>
    if isNormalizedErrorObject (errorProperties name message members) then
      normalizedErrorText (errorProperties name message members)
    else .error .nonJsonObject
  | .primitive text => .error (.unsupportedType text)
  | .function _ => .error (.unsupportedType (utf16 "function"))
  | .array items => (stableStringifyItems items).map arrayText
  | .object members =>
    if isNormalizedErrorObject members then normalizedErrorText members
    else stringifyMembers (stableStringifyEntries members)

def stableStringifyItems : List (JsValue N) → Except StringifyError (List Text)
  | [] => .ok []
  | item :: items => do
    let text ← stableStringifyValue item
    let texts ← stableStringifyItems items
    .ok (text :: texts)

def stableStringifyEntries : List (Text × JsValue N) → List (Text × Except StringifyError Text)
  | [] => []
  | (key, .undefined) :: members =>
    if rejectUndefined then (key, .error .undefinedValue) :: stableStringifyEntries members
    else stableStringifyEntries members
  | (key, value) :: members => (key, stableStringifyValue value) :: stableStringifyEntries members

end

end

def stableStringify (normalizedErrorText : List (Text × JsValue N) → Except StringifyError Text)
    (value : JsValue N) : Except StringifyError Text :=
  stableStringifyValue normalizedErrorText false value

def serializeJsonValue (normalizedErrorText : List (Text × JsValue N) → Except StringifyError Text)
    (value : JsValue N) : Except StringifyError Text :=
  stableStringifyValue normalizedErrorText true value

end DalCodec

/-! ## The text of a plain value -/

/-- A JSON value in which no object has the shape of a normalized error. -/
inductive IsPlainJson : JsValue N → Prop where
  | null : IsPlainJson .null
  | boolean (value : Bool) : IsPlainJson (.boolean value)
  | number (value : N) : IsPlainJson (.number value)
  | string (value : Text) : IsPlainJson (.string value)
  | array (items : List (JsValue N)) (each : ∀ item ∈ items, IsPlainJson item) :
      IsPlainJson (.array items)
  | object (members : List (Text × JsValue N)) (distinct : (members.map (·.1)).Nodup)
      (plain : isNormalizedErrorObject members = false)
      (each : ∀ member ∈ members, IsPlainJson member.2) : IsPlainJson (.object members)

omit [FiniteNumber N] in
theorem IsPlainJson.isJson {value : JsValue N} (plain : IsPlainJson value) : value.IsJson := by
  induction plain with
  | null => exact .null
  | boolean value => exact .boolean value
  | number value => exact .number value
  | string value => exact .string value
  | array items each ih => exact .array items ih
  | object members distinct plain each ih => exact .object members distinct ih

theorem mapM_texts (members : List (Text × Text)) :
    (members.map fun member => (member.1, (.ok member.2 : Except StringifyError Text))).mapM
      (fun (key, text) => text.map (key, ·)) = .ok members := by
  induction members with
  | nil => rfl
  | cons member members ih =>
    rw [List.map_cons, List.mapM_cons, ih]
    rfl

theorem stringifyMembers_texts (members : List (Text × Text)) :
    stringifyMembers (members.map fun member => (member.1, .ok member.2)) =
      .ok (objectText (sortMembers members)) := by
  unfold stringifyMembers
  rw [sortMembers_map, mapM_texts]
  rfl

section

variable (normalizedErrorText : List (Text × JsValue N) → Except StringifyError Text)
  (rejectUndefined : Bool)

theorem Tools.stableStringifyItems_texts {items : List (JsValue N)}
    (each : ∀ item ∈ items, stableStringifyValue normalizedErrorText rejectUndefined item =
      .ok item.text) :
    stableStringifyItems normalizedErrorText rejectUndefined items =
      .ok (items.map JsValue.text) := by
  induction items with
  | nil => rfl
  | cons item items ih =>
    rw [stableStringifyItems, each item List.mem_cons_self,
      ih fun later listed => each later (List.mem_cons_of_mem _ listed)]
    rfl

theorem Tools.stableStringifyEntries_texts {members : List (Text × JsValue N)}
    (json : ∀ member ∈ members, member.2.IsJson)
    (each : ∀ member ∈ members, stableStringifyValue normalizedErrorText rejectUndefined member.2 =
      .ok member.2.text) :
    stableStringifyEntries normalizedErrorText rejectUndefined members =
      members.map fun member => (member.1, .ok member.2.text) := by
  induction members with
  | nil => rfl
  | cons member members ih =>
    obtain ⟨key, value⟩ := member
    have rest := ih (fun later listed => json later (List.mem_cons_of_mem _ listed))
      (fun later listed => each later (List.mem_cons_of_mem _ listed))
    have own := each (key, value) List.mem_cons_self
    dsimp only at own
    rw [stableStringifyEntries, rest, own]
    · rfl
    · -- no member is `undefined`
      intro undefined
      have member := json (key, value) List.mem_cons_self
      rw [undefined] at member
      cases member

theorem Tools.stableStringifyValue_text {value : JsValue N} (plain : IsPlainJson value) :
    stableStringifyValue normalizedErrorText rejectUndefined value = .ok value.text := by
  induction plain with
  | null => rfl
  | boolean value => cases value <;> rfl
  | number value => rfl
  | string value => rfl
  | array items each ih =>
    rw [stableStringifyValue, stableStringifyItems_texts _ _ ih, JsValue.text_array]
    rfl
  | object members distinct plain each ih =>
    rw [stableStringifyValue, plain,
      stableStringifyEntries_texts _ _ (fun member listed => (each member listed).isJson) ih,
      JsValue.text_object, ← sortMembers_map, ← stringifyMembers_texts, List.map_map]
    rfl

/-! ## The two copies -/

theorem DalCodec.stableStringifyItems_eq {items : List (JsValue N)}
    (each : ∀ item ∈ items, stableStringifyValue normalizedErrorText rejectUndefined item =
      Tools.stableStringifyValue normalizedErrorText rejectUndefined item) :
    stableStringifyItems normalizedErrorText rejectUndefined items =
      Tools.stableStringifyItems normalizedErrorText rejectUndefined items := by
  induction items with
  | nil => rfl
  | cons item items ih =>
    rw [stableStringifyItems, Tools.stableStringifyItems, each item List.mem_cons_self,
      ih fun later listed => each later (List.mem_cons_of_mem _ listed)]

theorem DalCodec.stableStringifyEntries_eq {members : List (Text × JsValue N)}
    (json : ∀ member ∈ members, member.2.IsJson)
    (each : ∀ member ∈ members, stableStringifyValue normalizedErrorText rejectUndefined member.2 =
      Tools.stableStringifyValue normalizedErrorText rejectUndefined member.2) :
    stableStringifyEntries normalizedErrorText rejectUndefined members =
      Tools.stableStringifyEntries normalizedErrorText rejectUndefined members := by
  induction members with
  | nil => rfl
  | cons member members ih =>
    obtain ⟨key, value⟩ := member
    have rest := ih (fun later listed => json later (List.mem_cons_of_mem _ listed))
      (fun later listed => each later (List.mem_cons_of_mem _ listed))
    have own := each (key, value) List.mem_cons_self
    dsimp only at own
    have defined : value ≠ .undefined := by
      rintro rfl
      have member := json _ List.mem_cons_self
      cases member
    rw [stableStringifyEntries, Tools.stableStringifyEntries, rest, own]
    · exact defined
    · exact defined

theorem DalCodec.stableStringifyValue_eq {value : JsValue N} (json : value.IsJson) :
    stableStringifyValue normalizedErrorText rejectUndefined value =
      Tools.stableStringifyValue normalizedErrorText rejectUndefined value := by
  induction json with
  | null => rfl
  | boolean value => rfl
  | number value => rfl
  | string value => rfl
  | array items each ih =>
    rw [stableStringifyValue, Tools.stableStringifyValue, stableStringifyItems_eq _ _ ih]
  | object members distinct each ih =>
    rw [stableStringifyValue, Tools.stableStringifyValue, stableStringifyEntries_eq _ _ each ih]

end

/-- On plain JSON values all serializers write one text, `JSON.parse` reads the value back from it, and
two values have the same text just if they are equal up to the order of keys. -/
theorem stableStringify_canonical
    (toolsErrorText dalErrorText : List (Text × JsValue N) → Except StringifyError Text)
    {a b : JsValue N} (left : IsPlainJson a) (right : IsPlainJson b) :
    (∃ text, Tools.stableStringify toolsErrorText a = .ok text ∧
      (∃ read, parseJson text = some read ∧ read.sorted = a.sorted) ∧
      Tools.stableStringifyForPersistence toolsErrorText a = .ok text ∧
      DalCodec.stableStringify dalErrorText a = .ok text ∧
      DalCodec.serializeJsonValue dalErrorText a = .ok text) ∧
    (Tools.stableStringify toolsErrorText a = Tools.stableStringify toolsErrorText b ↔
      a.sorted = b.sorted) := by
  have tools : ∀ {value : JsValue N}, IsPlainJson value → ∀ rejectUndefined,
      Tools.stableStringifyValue toolsErrorText rejectUndefined value = .ok value.text :=
    fun plain rejectUndefined => Tools.stableStringifyValue_text _ rejectUndefined plain
  have dal : ∀ rejectUndefined,
      DalCodec.stableStringifyValue dalErrorText rejectUndefined a = .ok a.text :=
    fun rejectUndefined => (DalCodec.stableStringifyValue_eq _ rejectUndefined left.isJson).trans
      (Tools.stableStringifyValue_text _ rejectUndefined left)
  refine ⟨⟨a.text, tools left false, ⟨a.reread, parse_text left.isJson,
    JsValue.sorted_reread left.isJson⟩, tools left true, dal false, dal true⟩, ?_⟩
  unfold Tools.stableStringify
  rw [tools left, tools right, Except.ok.injEq]
  exact JsValue.text_eq_iff left.isJson right.isJson

/-- One object with its keys in two orders. -/
theorem stableStringify_canonical_twoOrders :
    Tools.stableStringify (fun _ => .error .nonJsonObject)
        (.object [(utf16 "b", .number (1 : Int)), (utf16 "a", .null)]) =
      Tools.stableStringify (fun _ => .error .nonJsonObject)
        (.object [(utf16 "a", .null), (utf16 "b", .number (1 : Int))]) := by
  have left : IsPlainJson
      (.object [(utf16 "b", .number (1 : Int)), (utf16 "a", .null)] : JsValue Int) := by
    refine .object _ (by decide) rfl fun member listed => ?_
    rcases List.mem_pair.mp listed with rfl | rfl
    · exact .number 1
    · exact .null
  have right : IsPlainJson
      (.object [(utf16 "a", .null), (utf16 "b", .number (1 : Int))] : JsValue Int) := by
    refine .object _ (by decide) rfl fun member listed => ?_
    rcases List.mem_pair.mp listed with rfl | rfl
    · exact .null
    · exact .number 1
  refine (stableStringify_canonical _ (fun _ => .error .nonJsonObject) left right).2.mpr ?_
  simp only [JsValue.sorted_object, List.map_cons, List.map_nil]
  rfl

end Tvic
