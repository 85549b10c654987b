import Tvic.Lib.DecimalText

/-!
# Schema validation

`validateJsonSchemaSubset` of `packages/tools/src/schema-validation.ts`, for schemas that declare a
type at every node. A schema stands here as the keywords that are read: a list of `properties` without
entries is an absent one, and `additionalProperties: false` is given together with `properties`.

The source looks members up with `in` and by index, and so finds what every object inherits. `Satisfies`
is the meaning of the keywords, which goes by own members and counts characters. The errors "expected
object" and "expected array" are left out: the type has been checked before.
-/
namespace Tvic

open Lib

inductive SchemaType where
  | object
  | array
  | string
  | number
  | integer
  | boolean
  | null
  deriving DecidableEq, Repr

def SchemaType.text : SchemaType → Text
  | .object => utf16 "object"
  | .array => utf16 "array"
  | .string => utf16 "string"
  | .number => utf16 "number"
  | .integer => utf16 "integer"
  | .boolean => utf16 "boolean"
  | .null => utf16 "null"

/-- The keywords of a node, but for those that hold schemas. -/
structure SchemaKeywords (N : Type) where
  const : Option (JsValue N)
  enum : Option (List (JsValue N))
  type : SchemaType
  required : List Text
  /-- `additionalProperties === false` -/
  closed : Bool
  minLength : Option N
  maxLength : Option N
  minimum : Option N
  maximum : Option N
  minItems : Option N
  maxItems : Option N

inductive Schema (N : Type) where
  | node (keywords : SchemaKeywords N) (properties : List (Text × Schema N))
      (items : Option (Schema N))

variable {N : Type}

/-! ## What objects inherit -/

/-- The methods of `Object.prototype`, and its constructor. -/
def inheritedFunctions : List Text :=
  [utf16 "constructor", utf16 "__defineGetter__", utf16 "__defineSetter__", utf16 "hasOwnProperty",
    utf16 "__lookupGetter__", utf16 "__lookupSetter__", utf16 "isPrototypeOf",
    utf16 "propertyIsEnumerable", utf16 "toString", utf16 "valueOf", utf16 "toLocaleString"]

/-- The accessor of an object's prototype. -/
def protoKey : Text := utf16 "__proto__"

def isInherited (key : Text) : Bool := key = protoKey || key ∈ inheritedFunctions

/-- `key in object` for an object with these members. -/
def hasMember {α : Type} (key : Text) (members : List (Text × α)) : Bool :=
  (getMember key members).isSome || isInherited key

/-- What is validated: a value, or the object that all objects inherit from. -/
inductive Subject (N : Type) where
  | ordinary (value : JsValue N)
  | objectPrototype

/-- What an object has under a key that is not its own. -/
def inherited? (key : Text) : Option (Subject N) :=
  if key = protoKey then some .objectPrototype
  else if key ∈ inheritedFunctions then some (.ordinary (.function none)) else none

/-- `object[key]` where `key in object`. -/
def Subject.member? (key : Text) : Subject N → Option (Subject N)
  | .ordinary (.object members) =>
    match getMember key members with
    | some value => some (.ordinary value)
    | none => inherited? key
  | .ordinary _ => none
  | .objectPrototype =>
    -- the prototype of `Object.prototype` is null
    if key = protoKey then some (.ordinary .null)
    else if key ∈ inheritedFunctions then some (.ordinary (.function none)) else none

/-- `Object.keys(object)`; what `Object.prototype` has is not enumerable. -/
def Subject.keys : Subject N → List Text
  | .ordinary (.object members) => members.map (·.1)
  | _ => []

/-! ## `deepEqual` -/

def isNull : JsValue N → Bool
  | .null => true
  | _ => false

/-- `deepEqual` with `Object.prototype` on the other side: no own member can be equal to a function that
it has, or to what it lacks. -/
def equalsPrototype : JsValue N → Bool
  | .object members => members.all fun member => member.1 = protoKey && isNull member.2
  | _ => false

/-- `deepEqual` of a member with what an object without it has under the key. -/
def equalsInherited (key : Text) (value : JsValue N) : Bool := key = protoKey && equalsPrototype value

section

variable [DecidableEq N]

mutual

/-- Values are trees here, so no pair of objects is met twice. -/
def deepEqual : JsValue N → JsValue N → Bool
  | .null, .null => true
  | .undefined, .undefined => true
  | .boolean a, .boolean b => a == b
  | .number a, .number b => a = b
  | .string a, .string b => a = b
  | .array a, .array b => deepEqualItems a b
  | .object a, .object b =>
    deepEqualMembers a b &&
      b.all fun member => (getMember member.1 a).isSome || equalsInherited member.1 member.2
  | _, _ => false

def deepEqualItems : List (JsValue N) → List (JsValue N) → Bool
  | [], [] => true
  | a :: as, b :: bs => deepEqual a b && deepEqualItems as bs
  | _, _ => false

def deepEqualMembers : List (Text × JsValue N) → List (Text × JsValue N) → Bool
  | [], _ => true
  | (key, value) :: members, b =>
    (match getMember key b with
      | some other => deepEqual value other
      | none => equalsInherited key value) && deepEqualMembers members b

end

def Subject.deepEqual : Subject N → JsValue N → Bool
  | .ordinary value, other => Tvic.deepEqual value other
  | .objectPrototype, other => equalsPrototype other

end

/-! ## `validateNode` -/

/-- `typeOf`; bigints and symbols do not come up. -/
def Subject.typeOf : Subject N → Text
  | .ordinary .undefined => utf16 "undefined"
  | .ordinary .null => utf16 "null"
  | .ordinary (.boolean _) => utf16 "boolean"
  | .ordinary (.number _) | .ordinary .nonFinite => utf16 "number"
  | .ordinary (.string _) => utf16 "string"
  | .ordinary (.primitive _) => utf16 "bigint"
  | .ordinary (.function _) => utf16 "function"
  | .ordinary (.array _) => utf16 "array"
  | .ordinary (.object _) | .ordinary (.error _ _ _) | .objectPrototype => utf16 "object"

variable [FiniteNumber N]

def isIntegral (number : N) : Bool := (FiniteNumber.value number).den = 1

def matchesType (subject : Subject N) : SchemaType → Bool
  | .integer =>
    match subject with
    | .ordinary (.number number) => isIntegral number
    | _ => false
  | expected => expected.text = subject.typeOf

def stringify : JsValue N → Text := JsValue.fold JsValue.leafText arrayText objectText

/-- The error where a size or a number is on the wrong side of a bound. -/
def boundError (bound : Option N) (violated : ℚ → Bool) (error : Text → Text) : List Text :=
  match bound with
  | some bound =>
    if violated (FiniteNumber.value bound) then [error (FiniteNumber.text bound)] else []
  | none => []

def lengthErrors (keywords : SchemaKeywords N) (text path : Text) : List Text :=
  boundError keywords.minLength (fun bound => (text.length : ℚ) < bound)
      (fun bound => path ++ utf16 " must have length >= " ++ bound) ++
    boundError keywords.maxLength (fun bound => (text.length : ℚ) > bound)
      (fun bound => path ++ utf16 " must have length <= " ++ bound)

def numberErrors (keywords : SchemaKeywords N) (number : N) (path : Text) : List Text :=
  boundError keywords.minimum (fun bound => FiniteNumber.value number < bound)
      (fun bound => path ++ utf16 " must be >= " ++ bound) ++
    boundError keywords.maximum (fun bound => FiniteNumber.value number > bound)
      (fun bound => path ++ utf16 " must be <= " ++ bound)

def itemCountErrors (keywords : SchemaKeywords N) (count : Nat) (path : Text) : List Text :=
  boundError keywords.minItems (fun bound => (count : ℚ) < bound)
      (fun bound => path ++ utf16 " must have >= " ++ bound ++ utf16 " items") ++
    boundError keywords.maxItems (fun bound => (count : ℚ) > bound)
      (fun bound => path ++ utf16 " must have <= " ++ bound ++ utf16 " items")

def requiredErrors (keywords : SchemaKeywords N) (subject : Subject N) (path : Text) : List Text :=
  (keywords.required.filter fun key => (subject.member? key).isNone).map fun key =>
    path ++ utf16 "." ++ key ++ utf16 " is required"

def additionalErrors (keywords : SchemaKeywords N) (properties : List (Text × Schema N))
    (subject : Subject N) (path : Text) : List Text :=
  if keywords.closed then
    (subject.keys.filter fun key => !hasMember key properties).map fun key =>
      path ++ utf16 "." ++ key ++ utf16 " is not an allowed property"
  else []

variable [DecidableEq N]

def constErrors (keywords : SchemaKeywords N) (subject : Subject N) (path : Text) : List Text :=
  match keywords.const with
  | some expected =>
    if subject.deepEqual expected then [] else [path ++ utf16 " must equal " ++ stringify expected]
  | none => []

def enumErrors (keywords : SchemaKeywords N) (subject : Subject N) (path : Text) : List Text :=
  match keywords.enum with
  | some options =>
    if options.any fun option =>
        match subject with
        | .ordinary value => deepEqual option value
        | .objectPrototype => equalsPrototype option
    then []
    else [path ++ utf16 " must be one of " ++ stringify (.array options)]
  | none => []

mutual

def validateNode (subject : Subject N) (path : Text) : Schema N → List Text
  | .node keywords properties items =>
    constErrors keywords subject path ++ enumErrors keywords subject path ++
      if matchesType subject keywords.type then
        match keywords.type, subject with
        | .object, subject =>
          requiredErrors keywords subject path ++ validateProperties subject path properties ++
            additionalErrors keywords properties subject path
        | .array, .ordinary (.array values) =>
          itemCountErrors keywords values.length path ++
            match items with
            | some schema =>
              values.zipIdx.flatMap fun (item, index) =>
                validateNode (.ordinary item)
                  (path ++ utf16 "[" ++ decimalText index ++ utf16 "]") schema
            | none => []
        | .string, .ordinary (.string text) => lengthErrors keywords text path
        | .number, .ordinary (.number number) | .integer, .ordinary (.number number) =>
          numberErrors keywords number path
        | _, _ => []
      else
        [path ++ utf16 " expected " ++ keywords.type.text ++ utf16 ", received " ++ subject.typeOf]

def validateProperties (subject : Subject N) (path : Text) : List (Text × Schema N) → List Text
  | [] => []
  | (key, schema) :: properties =>
    (match subject.member? key with
      | some member => validateNode member (path ++ utf16 "." ++ key) schema
      | none => []) ++ validateProperties subject path properties

end

structure SchemaValidationResult where
  valid : Bool
  errors : List Text
  deriving DecidableEq, Repr

def validateJsonSchemaSubset (value : JsValue N) (schema : Schema N) (path : Text) :
    SchemaValidationResult :=
  let errors := validateNode (.ordinary value) path schema
  { valid := errors.isEmpty, errors }

/-! ## The meaning of a schema -/

omit [DecidableEq N] in
def HasType : SchemaType → JsValue N → Prop
  | .object, .object _ => True
  | .array, .array _ => True
  | .string, .string _ => True
  | .number, .number _ => True
  | .integer, .number number => (FiniteNumber.value number).den = 1
  | .boolean, .boolean _ => True
  | .null, .null => True
  | _, _ => False

omit [DecidableEq N] in
/-- No less than the one bound and no more than the other, where they are given. -/
def Within (least most : Option N) (amount : ℚ) : Prop :=
  (∀ bound ∈ least, FiniteNumber.value bound ≤ amount) ∧
    ∀ bound ∈ most, amount ≤ FiniteNumber.value bound

omit [DecidableEq N] in
mutual

def Satisfies (value : JsValue N) : Schema N → Prop
  | .node keywords properties items =>
    (∀ expected ∈ keywords.const, value.sorted = expected.sorted) ∧
    (∀ options ∈ keywords.enum, ∃ option ∈ options, option.sorted = value.sorted) ∧
    HasType keywords.type value ∧
    match value with
    | .object members =>
      (∀ key ∈ keywords.required, key ∈ members.map (·.1)) ∧
      (keywords.closed = true → ∀ key ∈ members.map (·.1), key ∈ properties.map (·.1)) ∧
      SatisfiesProperties members properties
    | .array values =>
      Within keywords.minItems keywords.maxItems values.length ∧
      match items with
      | some schema => ∀ item ∈ values, Satisfies item schema
      | none => True
    | .string text => Within keywords.minLength keywords.maxLength (characters text).length
    | .number number => Within keywords.minimum keywords.maximum (FiniteNumber.value number)
    | _ => True

def SatisfiesProperties (members : List (Text × JsValue N)) : List (Text × Schema N) → Prop
  | [] => True
  | (key, schema) :: properties =>
    (∀ value, getMember key members = some value → Satisfies value schema) ∧
      SatisfiesProperties members properties

end

end Tvic
