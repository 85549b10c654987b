import Mathlib.Algebra.Order.Ring.Rat
import Mathlib.Data.Nat.Cast.Order.Ring
import Tvic.Tools.SchemaValidation

/-!
# Where validation goes by the meaning of a schema

At a node a value can be rejected by a check that both readings of the schema share, it can be accepted
for what it inherits or for its number of code units, and it can be rejected for these. Validation
agrees with the meaning of the schema if a shared check fails somewhere, or if both kinds of error
occur, or none.
-/
namespace Tvic

open Lib

variable {N : Type}

/-! ## Schemas with JSON in them -/

def SchemaKeywords.IsJson (keywords : SchemaKeywords N) : Prop :=
  (∀ expected ∈ keywords.const, expected.IsJson) ∧
    ∀ options ∈ keywords.enum, ∀ option ∈ options, option.IsJson

inductive Schema.IsJson : Schema N → Prop where
  | node {keywords : SchemaKeywords N} {properties : List (Text × Schema N)}
      {items : Option (Schema N)} (own : keywords.IsJson)
      (each : ∀ property ∈ properties, property.2.IsJson)
      (item : ∀ schema, items = some schema → schema.IsJson) :
      Schema.IsJson (.node keywords properties items)

/-! ## Nodes -/

/-- At one of the nodes that a value and a schema have together. -/
inductive Somewhere (P : JsValue N → Schema N → Prop) : JsValue N → Schema N → Prop where
  | here {value : JsValue N} {schema : Schema N} (holds : P value schema) : Somewhere P value schema
  | member {members : List (Text × JsValue N)} {keywords : SchemaKeywords N}
      {properties : List (Text × Schema N)} {items : Option (Schema N)} {key : Text}
      {value : JsValue N} {schema : Schema N} (listed : (key, schema) ∈ properties)
      (own : getMember key members = some value) (later : Somewhere P value schema) :
      Somewhere P (.object members) (.node keywords properties items)
  | item {values : List (JsValue N)} {keywords : SchemaKeywords N}
      {properties : List (Text × Schema N)} {schema : Schema N} {value : JsValue N}
      (listed : value ∈ values) (later : Somewhere P value schema) :
      Somewhere P (.array values) (.node keywords properties (some schema))

def EachChild (Q : JsValue N → Schema N → Prop) : JsValue N → Schema N → Prop
  | .object members, .node _ properties _ =>
    ∀ key schema, (key, schema) ∈ properties → ∀ value, getMember key members = some value →
      Q value schema
  | .array values, .node _ _ items => ∀ schema, items = some schema → ∀ item ∈ values, Q item schema
  | _, _ => True

variable {value : JsValue N} {schema : Schema N}

theorem not_somewhere_iff {P : JsValue N → Schema N → Prop} :
    ¬ Somewhere P value schema ↔
      ¬ P value schema ∧ EachChild (fun value schema => ¬ Somewhere P value schema) value schema := by
  constructor
  · intro nowhere
    refine ⟨fun holds => nowhere (.here holds), ?_⟩
    obtain ⟨keywords, properties, items⟩ := schema
    cases value with
    | object members =>
      intro key schema listed value own later
      exact nowhere (.member listed own later)
    | array values =>
      rintro schema rfl item listed later
      exact nowhere (.item listed later)
    | _ => trivial
  · rintro ⟨absent, each⟩ occurs
    cases occurs with
    | here holds => exact absent holds
    | member listed own later => exact each _ _ listed _ own later
    | item listed later => exact each _ rfl _ listed later

theorem somewhere_or {P Q : JsValue N → Schema N → Prop} :
    Somewhere (fun value schema => P value schema ∨ Q value schema) value schema ↔
      Somewhere P value schema ∨ Somewhere Q value schema := by
  constructor
  · intro occurs
    induction occurs with
    | here holds => exact holds.imp .here .here
    | member listed own _ ih => exact ih.imp (.member listed own) (.member listed own)
    | item listed _ ih => exact ih.imp (.item listed) (.item listed)
  · rintro (occurs | occurs)
    · induction occurs with
      | here holds => exact .here (.inl holds)
      | member listed own _ ih => exact .member listed own ih
      | item listed _ ih => exact .item listed ih
    · induction occurs with
      | here holds => exact .here (.inr holds)
      | member listed own _ ih => exact .member listed own ih
      | item listed _ ih => exact .item listed ih

/-! ## Equal values -/

theorem getMember_of_sorted {members others : List (Text × JsValue N)}
    (distinct : (members.map (·.1)).Nodup) (same : (JsValue.object members).sorted =
      (JsValue.object others).sorted) (key : Text) :
    (getMember key members).map JsValue.sorted = (getMember key others).map JsValue.sorted := by
  rw [JsValue.sorted_object, JsValue.sorted_object, JsValue.object.injEq] at same
  have perm := sortMembers_perm (members.map fun member => (member.1, member.2.sorted))
  have perm' := sortMembers_perm (others.map fun member => (member.1, member.2.sorted))
  rw [same] at perm
  have keys := getMember_perm (perm.symm.trans perm') (by simpa [Function.comp_def] using distinct) key
  rwa [getMember_map, getMember_map] at keys

section Equality

variable [DecidableEq N]

theorem deepEqualItems_of {items items' : List (JsValue N)}
    (each : ∀ item ∈ items, ∀ other : JsValue N, item.sorted = other.sorted → other.IsJson →
      deepEqual item other = true)
    (json : ∀ item ∈ items', item.IsJson)
    (same : items.map JsValue.sorted = items'.map JsValue.sorted) :
    deepEqualItems items items' = true := by
  induction items generalizing items' with
  | nil =>
    cases items' with
    | nil => rfl
    | cons item' items' => cases same
  | cons item items ih =>
    cases items' with
    | nil => cases same
    | cons item' items' =>
      obtain ⟨first, rest⟩ := List.cons.inj same
      rw [deepEqualItems, Bool.and_eq_true]
      exact ⟨each item List.mem_cons_self item' first (json item' List.mem_cons_self),
        ih (fun later listed => each later (List.mem_cons_of_mem _ listed))
          (fun later listed => json later (List.mem_cons_of_mem _ listed)) rest⟩

theorem deepEqualMembers_of {members others : List (Text × JsValue N)}
    (each : ∀ member ∈ members, ∃ other, getMember member.1 others = some other ∧
      deepEqual member.2 other = true) :
    deepEqualMembers members others = true := by
  induction members with
  | nil => rfl
  | cons member members ih =>
    obtain ⟨other, found, equal⟩ := each member List.mem_cons_self
    obtain ⟨key, value⟩ := member
    dsimp only at found equal
    rw [deepEqualMembers, found, Bool.and_eq_true]
    exact ⟨equal, ih fun later listed => each later (List.mem_cons_of_mem _ listed)⟩

theorem deepEqual_of_sorted {value other : JsValue N} (json : value.IsJson) (json' : other.IsJson)
    (same : value.sorted = other.sorted) : deepEqual value other = true := by
  induction json generalizing other with
  | null =>
    cases json' with
    | null => rfl
    | _ => simp [JsValue.sorted, JsValue.fold] at same
  | boolean value =>
    cases json' with
    | boolean value' => simpa [JsValue.sorted, JsValue.fold, deepEqual] using same
    | _ => simp [JsValue.sorted, JsValue.fold] at same
  | number value =>
    cases json' with
    | number value' => simpa [JsValue.sorted, JsValue.fold, deepEqual] using same
    | _ => simp [JsValue.sorted, JsValue.fold] at same
  | string value =>
    cases json' with
    | string value' => simpa [JsValue.sorted, JsValue.fold, deepEqual] using same
    | _ => simp [JsValue.sorted, JsValue.fold] at same
  | array items each ih =>
    cases json' with
    | array items' each' =>
      rw [JsValue.sorted_array, JsValue.sorted_array, JsValue.array.injEq] at same
      exact deepEqualItems_of (fun item listed other equal json => ih item listed json equal) each' same
    | _ => simp [JsValue.sorted, JsValue.fold] at same
  | object members distinct each ih =>
    cases json' with
    | object others distinct' each' =>
      have under := getMember_of_sorted distinct same
      rw [deepEqual, Bool.and_eq_true, List.all_eq_true]
      constructor
      · refine deepEqualMembers_of fun member listed => ?_
        have own := under member.1
        rw [(getMember_eq_some_iff distinct).mpr listed] at own
        obtain ⟨other, found, equal⟩ := Option.map_eq_some_iff.mp own.symm
        refine ⟨other, found, ih member listed ?_ equal.symm⟩
        exact each' _ ((getMember_eq_some_iff distinct').mp found)
      · intro member listed
        have own := under member.1
        rw [(getMember_eq_some_iff distinct').mpr listed] at own
        obtain ⟨other, found, -⟩ := Option.map_eq_some_iff.mp own
        rw [found]
        rfl
    | _ => simp [JsValue.sorted, JsValue.fold] at same

end Equality

/-! ## The checks of a node -/

variable {keywords : SchemaKeywords N} {subject : Subject N} {path : Text}

theorem requiredErrors_eq_nil :
    requiredErrors keywords subject path = [] ↔
      ∀ key ∈ keywords.required, (subject.member? key).isSome = true := by
  simp [requiredErrors, Option.isSome_iff_ne_none]

variable {properties : List (Text × Schema N)}

theorem additionalErrors_eq_nil :
    additionalErrors keywords properties subject path = [] ↔
      (keywords.closed = true → ∀ key ∈ subject.keys, hasMember key properties = true) := by
  cases closed : keywords.closed <;> simp [additionalErrors, closed]

variable [FiniteNumber N]

theorem boundError_eq_nil {bound : Option N} {violated : ℚ → Bool} {error : Text → Text} :
    boundError bound violated error = [] ↔
      ∀ limit ∈ bound, violated (FiniteNumber.value limit) = false := by
  cases bound with
  | none => simp [boundError]
  | some limit => simp [boundError]

theorem itemCountErrors_eq_nil {count : Nat} :
    itemCountErrors keywords count path = [] ↔ Within keywords.minItems keywords.maxItems count := by
  simp [itemCountErrors, boundError_eq_nil, Within]

theorem numberErrors_eq_nil {number : N} :
    numberErrors keywords number path = [] ↔
      Within keywords.minimum keywords.maximum (FiniteNumber.value number) := by
  simp [numberErrors, boundError_eq_nil, Within]

theorem lengthErrors_eq_nil {text path : Text} :
    lengthErrors keywords text path = [] ↔
      Within keywords.minLength keywords.maxLength text.length := by
  simp [lengthErrors, boundError_eq_nil, Within]

theorem matchesType_eq {type : SchemaType} (general : type ≠ .integer) :
    matchesType subject type = true ↔ type.text = subject.typeOf := by
  cases type with
  | integer => exact absurd rfl general
  | _ => exact decide_eq_true_iff

theorem matchesType_iff (json : value.IsJson) (type : SchemaType) :
    matchesType (.ordinary value) type = true ↔ HasType type value := by
  by_cases general : type = .integer
  · subst general
    cases json with
    | number number => simp [matchesType, HasType, isIntegral]
    | _ => simp [matchesType, HasType]
  · rw [matchesType_eq general]
    cases json with
    | _ =>
      cases type <;>
        first
        | exact absurd rfl general
        | simp only [HasType, Subject.typeOf]; decide

variable [DecidableEq N]

theorem constErrors_eq_nil :
    constErrors keywords subject path = [] ↔
      ∀ expected ∈ keywords.const, subject.deepEqual expected = true := by
  unfold constErrors
  cases keywords.const with
  | none => simp
  | some expected => simp

theorem enumErrors_eq_nil :
    enumErrors keywords (.ordinary value) path = [] ↔
      ∀ options ∈ keywords.enum, ∃ option ∈ options, deepEqual option value = true := by
  unfold enumErrors
  cases keywords.enum with
  | none => simp
  | some options => simp

theorem enumErrors_prototype_eq_nil :
    enumErrors keywords .objectPrototype path = [] ↔
      ∀ options ∈ keywords.enum, ∃ option ∈ options, equalsPrototype option = true := by
  unfold enumErrors
  cases keywords.enum with
  | none => simp
  | some options => simp

theorem validateProperties_eq_nil :
    validateProperties subject path properties = [] ↔
      ∀ key schema, (key, schema) ∈ properties → ∀ member, subject.member? key = some member →
        validateNode member (path ++ utf16 "." ++ key) schema = [] := by
  induction properties with
  | nil => simp [validateProperties]
  | cons property properties ih =>
    obtain ⟨key, schema⟩ := property
    rw [validateProperties, List.append_eq_nil_iff, ih]
    constructor
    · rintro ⟨first, rest⟩ key' schema' listed member found
      rcases List.mem_cons.mp listed with same | later
      · cases same
        rwa [found] at first
      · exact rest key' schema' later member found
    · intro each
      constructor
      · cases found : subject.member? key with
        | none => rfl
        | some member => exact each key schema List.mem_cons_self member found
      · exact fun key' schema' later => each key' schema' (List.mem_cons_of_mem _ later)

theorem validateNode_mismatch (mismatch : matchesType subject keywords.type = false) (path : Text)
    (properties : List (Text × Schema N)) (items : Option (Schema N)) :
    validateNode subject path (.node keywords properties items) ≠ [] := by
  unfold validateNode
  simp [mismatch]

def Fits (value : JsValue N) (path : Text) : Schema N → Prop
  | .node keywords properties items =>
    match value with
    | .object members =>
      (∀ key ∈ keywords.required, hasMember key members = true) ∧
      (keywords.closed = true → ∀ key ∈ members.map (·.1), hasMember key properties = true) ∧
      ∀ key schema, (key, schema) ∈ properties → ∀ member,
        Subject.member? key (.ordinary (.object members)) = some member →
          validateNode member (path ++ utf16 "." ++ key) schema = []
    | .array values =>
      Within keywords.minItems keywords.maxItems values.length ∧
      ∀ schema, items = some schema → ∀ item index, (item, index) ∈ values.zipIdx →
        validateNode (.ordinary item) (path ++ utf16 "[" ++ decimalText index ++ utf16 "]") schema = []
    | .string text => Within keywords.minLength keywords.maxLength text.length
    | .number number => Within keywords.minimum keywords.maximum (FiniteNumber.value number)
    | _ => True

variable {key : Text}

omit [FiniteNumber N] [DecidableEq N] in
theorem member?_isSome {members : List (Text × JsValue N)} :
    (Subject.member? key (.ordinary (.object members))).isSome = hasMember key members := by
  cases own : getMember key members with
  | some value => simp [Subject.member?, hasMember, own]
  | none =>
    by_cases proto : key = protoKey
    · subst proto
      simp [Subject.member?, hasMember, inherited?, isInherited, own]
    · by_cases function : key ∈ inheritedFunctions <;>
        simp [Subject.member?, hasMember, inherited?, isInherited, own, proto, function]

theorem validateNode_eq_nil (json : value.IsJson) (path : Text) (keywords : SchemaKeywords N)
    (properties : List (Text × Schema N)) (items : Option (Schema N)) :
    validateNode (.ordinary value) path (.node keywords properties items) = [] ↔
      (∀ expected ∈ keywords.const, deepEqual value expected = true) ∧
      (∀ options ∈ keywords.enum, ∃ option ∈ options, deepEqual option value = true) ∧
      HasType keywords.type value ∧ Fits value path (.node keywords properties items) := by
  by_cases typed : HasType keywords.type value
  · unfold validateNode
    rw [if_pos ((matchesType_iff json _).mpr typed), List.append_eq_nil_iff, List.append_eq_nil_iff,
      constErrors_eq_nil, enumErrors_eq_nil, and_assoc]
    refine and_congr_right fun _ => and_congr_right fun _ => ?_
    rw [and_iff_right typed]
    generalize type : keywords.type = declared at typed
    cases json with
    | object members =>
      cases declared <;> try cases typed
      simp [Fits, requiredErrors_eq_nil, additionalErrors_eq_nil, validateProperties_eq_nil,
        member?_isSome, Subject.keys, and_comm]
    | array values =>
      cases declared <;> try cases typed
      cases items with
      | none => simp [Fits, itemCountErrors_eq_nil]
      | some schema => simp [Fits, itemCountErrors_eq_nil]
    | string text =>
      cases declared <;> try cases typed
      simp [Fits, lengthErrors_eq_nil]
    | number number =>
      cases declared <;> try cases typed
      all_goals simp [Fits, numberErrors_eq_nil]
    | null =>
      cases declared <;> try cases typed
      exact iff_of_true rfl trivial
    | boolean value =>
      cases declared <;> try cases typed
      exact iff_of_true rfl trivial
  · have mismatch : matchesType (.ordinary value) keywords.type = false :=
      Bool.eq_false_iff.mpr fun matching => typed ((matchesType_iff json _).mp matching)
    refine iff_of_false (validateNode_mismatch mismatch path properties items) ?_
    rintro ⟨_, _, matching, _⟩
    exact typed matching

/-! ## What is rejected and accepted -/

def PrototypeFits : Schema N → Prop
  | .node keywords properties _ =>
    keywords.type = .object ∧
    (∀ expected ∈ keywords.const, equalsPrototype expected = true) ∧
    (∀ options ∈ keywords.enum, ∃ option ∈ options, equalsPrototype option = true) ∧
    (∀ key ∈ keywords.required, isInherited key = true) ∧
    ∀ key schema, (key, schema) ∈ properties →
      key ∉ inheritedFunctions ∧ (key = protoKey → Satisfies .null schema)

/-- No schema that declares a type is valid for a function. -/
def InheritedFits (key : Text) (schema : Schema N) : Prop :=
  key ∉ inheritedFunctions ∧ (key = protoKey → PrototypeFits schema)

/-- The checks of a node that fail whether or not members are inherited, and in whatever units lengths
are counted. -/
inductive RejectedAnyway : JsValue N → Schema N → Prop where
  | const {value : JsValue N} {keywords : SchemaKeywords N} {properties : List (Text × Schema N)}
      {items : Option (Schema N)} {expected : JsValue N} (given : expected ∈ keywords.const)
      (differs : deepEqual value expected = false) :
      RejectedAnyway value (.node keywords properties items)
  | enum {value : JsValue N} {keywords : SchemaKeywords N} {properties : List (Text × Schema N)}
      {items : Option (Schema N)} {options : List (JsValue N)} (given : options ∈ keywords.enum)
      (differs : ∀ option ∈ options, deepEqual option value = false) :
      RejectedAnyway value (.node keywords properties items)
  | type {value : JsValue N} {keywords : SchemaKeywords N} {properties : List (Text × Schema N)}
      {items : Option (Schema N)} (mismatch : ¬ HasType keywords.type value) :
      RejectedAnyway value (.node keywords properties items)
  | required {members : List (Text × JsValue N)} {keywords : SchemaKeywords N}
      {properties : List (Text × Schema N)} {items : Option (Schema N)} {key : Text}
      (listed : key ∈ keywords.required) (missing : hasMember key members = false) :
      RejectedAnyway (.object members) (.node keywords properties items)
  | additional {members : List (Text × JsValue N)} {keywords : SchemaKeywords N}
      {properties : List (Text × Schema N)} {items : Option (Schema N)} {key : Text}
      (closed : keywords.closed = true) (own : key ∈ members.map (·.1))
      (unknown : hasMember key properties = false) :
      RejectedAnyway (.object members) (.node keywords properties items)
  | itemCount {values : List (JsValue N)} {keywords : SchemaKeywords N}
      {properties : List (Text × Schema N)} {items : Option (Schema N)}
      (outside : ¬ Within keywords.minItems keywords.maxItems values.length) :
      RejectedAnyway (.array values) (.node keywords properties items)
  | tooShort {text : Text} {keywords : SchemaKeywords N} {properties : List (Text × Schema N)}
      {items : Option (Schema N)} {bound : N} (given : bound ∈ keywords.minLength)
      (short : (text.length : ℚ) < FiniteNumber.value bound) :
      RejectedAnyway (.string text) (.node keywords properties items)
  | tooLong {text : Text} {keywords : SchemaKeywords N} {properties : List (Text × Schema N)}
      {items : Option (Schema N)} {bound : N} (given : bound ∈ keywords.maxLength)
      (long : FiniteNumber.value bound < ((characters text).length : ℚ)) :
      RejectedAnyway (.string text) (.node keywords properties items)
  | number {number : N} {keywords : SchemaKeywords N} {properties : List (Text × Schema N)}
      {items : Option (Schema N)}
      (outside : ¬ Within keywords.minimum keywords.maximum (FiniteNumber.value number)) :
      RejectedAnyway (.number number) (.node keywords properties items)

/-- The checks of a node that pass only for what is inherited, or since a surrogate pair has two
units. -/
inductive AcceptedWrongly : JsValue N → Schema N → Prop where
  | const {value : JsValue N} {keywords : SchemaKeywords N} {properties : List (Text × Schema N)}
      {items : Option (Schema N)} {expected : JsValue N} (given : expected ∈ keywords.const)
      (equal : deepEqual value expected = true) (differs : value.sorted ≠ expected.sorted) :
      AcceptedWrongly value (.node keywords properties items)
  | enum {value : JsValue N} {keywords : SchemaKeywords N} {properties : List (Text × Schema N)}
      {items : Option (Schema N)} {options : List (JsValue N)} (given : options ∈ keywords.enum)
      (equal : ∃ option ∈ options, deepEqual option value = true)
      (differs : ∀ option ∈ options, option.sorted ≠ value.sorted) :
      AcceptedWrongly value (.node keywords properties items)
  | required {members : List (Text × JsValue N)} {keywords : SchemaKeywords N}
      {properties : List (Text × Schema N)} {items : Option (Schema N)} {key : Text}
      (listed : key ∈ keywords.required) (missing : key ∉ members.map (·.1))
      (inherited : isInherited key = true) :
      AcceptedWrongly (.object members) (.node keywords properties items)
  | additional {members : List (Text × JsValue N)} {keywords : SchemaKeywords N}
      {properties : List (Text × Schema N)} {items : Option (Schema N)} {key : Text}
      (closed : keywords.closed = true) (own : key ∈ members.map (·.1))
      (unknown : key ∉ properties.map (·.1)) (inherited : isInherited key = true) :
      AcceptedWrongly (.object members) (.node keywords properties items)
  | length {text : Text} {keywords : SchemaKeywords N} {properties : List (Text × Schema N)}
      {items : Option (Schema N)} {bound : N} (given : bound ∈ keywords.minLength)
      (short : ((characters text).length : ℚ) < FiniteNumber.value bound)
      (units : FiniteNumber.value bound ≤ (text.length : ℚ)) :
      AcceptedWrongly (.string text) (.node keywords properties items)

/-- The checks of a node that fail only for what is inherited, or since a surrogate pair has two
units. -/
inductive RejectedWrongly : JsValue N → Schema N → Prop where
  | property {members : List (Text × JsValue N)} {keywords : SchemaKeywords N}
      {properties : List (Text × Schema N)} {items : Option (Schema N)} {key : Text}
      {schema : Schema N} (listed : (key, schema) ∈ properties)
      (missing : key ∉ members.map (·.1)) (unfit : ¬ InheritedFits key schema) :
      RejectedWrongly (.object members) (.node keywords properties items)
  | length {text : Text} {keywords : SchemaKeywords N} {properties : List (Text × Schema N)}
      {items : Option (Schema N)} {bound : N} (given : bound ∈ keywords.maxLength)
      (short : ((characters text).length : ℚ) ≤ FiniteNumber.value bound)
      (units : FiniteNumber.value bound < (text.length : ℚ)) :
      RejectedWrongly (.string text) (.node keywords properties items)

omit [DecidableEq N] in
theorem satisfiesProperties_iff {members : List (Text × JsValue N)} :
    SatisfiesProperties members properties ↔
      ∀ key schema, (key, schema) ∈ properties → ∀ value, getMember key members = some value →
        Satisfies value schema := by
  induction properties with
  | nil => simp [SatisfiesProperties]
  | cons property properties ih =>
    obtain ⟨key, schema⟩ := property
    rw [SatisfiesProperties, ih]
    constructor
    · rintro ⟨first, rest⟩ key' schema' listed value own
      rcases List.mem_cons.mp listed with same | later
      · cases same
        exact first value own
      · exact rest key' schema' later value own
    · intro each
      exact ⟨fun value own => each key schema List.mem_cons_self value own,
        fun key' schema' later => each key' schema' (List.mem_cons_of_mem _ later)⟩

/-! ## What validation finds in inherited members -/

theorem validateNode_null (json : schema.IsJson) (path : Text) :
    validateNode (.ordinary .null) path schema = [] ↔ Satisfies .null schema := by
  obtain @⟨keywords, properties, items, ⟨const, enum⟩, _, _⟩ := json
  have null : ∀ {other : JsValue N}, other.IsJson →
      (deepEqual .null other = true ↔ (JsValue.null : JsValue N).sorted = other.sorted) ∧
      (deepEqual other .null = true ↔ other.sorted = (JsValue.null : JsValue N).sorted) := by
    intro other json
    cases json <;> simp [deepEqual, JsValue.sorted, JsValue.fold]
  rw [validateNode_eq_nil .null]
  unfold Satisfies
  refine and_congr ?_ (and_congr ?_ Iff.rfl)
  · exact forall₂_congr fun expected given => (null (const expected given)).1
  · exact forall₂_congr fun options given => exists_congr fun option =>
      and_congr_right fun listed => (null (enum options given option listed)).2

omit [FiniteNumber N] [DecidableEq N] in
theorem member?_prototype {member : Subject N} :
    Subject.member? key .objectPrototype = some member ↔
      (key = protoKey ∧ member = .ordinary .null) ∨
        (key ∈ inheritedFunctions ∧ member = .ordinary (.function none)) := by
  have other : protoKey ∉ inheritedFunctions := by decide
  by_cases proto : key = protoKey
  · subst proto
    simp [Subject.member?, other, eq_comm]
  · by_cases function : key ∈ inheritedFunctions <;>
      simp [Subject.member?, proto, function, eq_comm]

omit [FiniteNumber N] [DecidableEq N] in
theorem inherited?_eq_some {member : Subject N} :
    inherited? key = some member ↔
      (key = protoKey ∧ member = .objectPrototype) ∨
        (key ∈ inheritedFunctions ∧ member = .ordinary (.function none)) := by
  have other : protoKey ∉ inheritedFunctions := by decide
  by_cases proto : key = protoKey
  · subst proto
    simp [inherited?, other, eq_comm]
  · by_cases function : key ∈ inheritedFunctions <;>
      simp [inherited?, proto, function, eq_comm]

omit [FiniteNumber N] [DecidableEq N] in
theorem prototype_member?_isSome :
    (Subject.member? key (.objectPrototype : Subject N)).isSome = isInherited key := by
  by_cases proto : key = protoKey
  · simp [Subject.member?, isInherited, proto]
  · by_cases function : key ∈ inheritedFunctions <;>
      simp [Subject.member?, isInherited, proto, function]

theorem validateNode_function (schema : Schema N) (path : Text) :
    validateNode (.ordinary (.function none)) path schema ≠ [] := by
  obtain ⟨keywords, properties, items⟩ := schema
  refine validateNode_mismatch (Bool.eq_false_iff.mpr fun matching => ?_) path properties items
  cases type : keywords.type with
  | integer => simp [type, matchesType] at matching
  | _ =>
    rw [type, matchesType_eq (by simp), Subject.typeOf] at matching
    revert matching
    decide

theorem validateNode_prototype (json : schema.IsJson) (path : Text) :
    validateNode .objectPrototype path schema = [] ↔ PrototypeFits schema := by
  obtain @⟨keywords, properties, items, own, each, _⟩ := json
  by_cases typed : keywords.type = .object
  · have matching : matchesType (.objectPrototype : Subject N) keywords.type = true := by
      rw [typed, matchesType_eq (by simp)]
      rfl
    unfold validateNode
    rw [if_pos matching, typed, List.append_eq_nil_iff, List.append_eq_nil_iff, List.append_eq_nil_iff,
      List.append_eq_nil_iff, constErrors_eq_nil, enumErrors_prototype_eq_nil, requiredErrors_eq_nil,
      additionalErrors_eq_nil, validateProperties_eq_nil]
    constructor
    · rintro ⟨⟨const, enum⟩, ⟨required, properties⟩, _⟩
      refine ⟨typed, const, enum, fun key listed => ?_, fun key schema listed => ?_⟩
      · rw [← prototype_member?_isSome (N := N)]
        exact required key listed
      · constructor
        · intro function
          exact validateNode_function schema _
            (properties key schema listed _ (member?_prototype.mpr (.inr ⟨function, rfl⟩)))
        · intro proto
          exact (validateNode_null (each _ listed) _).mp
            (properties key schema listed _ (member?_prototype.mpr (.inl ⟨proto, rfl⟩)))
    · rintro ⟨_, const, enum, required, properties⟩
      refine ⟨⟨const, enum⟩, ⟨fun key listed => ?_, fun key schema listed member found => ?_⟩, ?_⟩
      · rw [prototype_member?_isSome]
        exact required key listed
      · obtain ⟨functions, null⟩ := properties key schema listed
        rcases member?_prototype.mp found with ⟨proto, rfl⟩ | ⟨function, _⟩
        · exact (validateNode_null (each _ listed) _).mpr (null proto)
        · exact absurd function functions
      · intro _ key listed
        cases listed
  · refine iff_of_false (validateNode_mismatch (Bool.eq_false_iff.mpr ?_) path properties items) ?_
    · intro matching
      by_cases integer : keywords.type = .integer
      · simp [integer, matchesType] at matching
      · rw [matchesType_eq integer, Subject.typeOf] at matching
        cases type : keywords.type with
        | object => exact typed type
        | integer => exact integer type
        | _ =>
          rw [type] at matching
          revert matching
          decide
    · intro fits
      exact typed fits.1

theorem validateNode_inherited (json : schema.IsJson) (path : Text) :
    (∀ member, inherited? key = some member → validateNode member path schema = []) ↔
      InheritedFits key schema := by
  constructor
  · intro each
    constructor
    · intro function
      exact validateNode_function schema path
        (each _ (inherited?_eq_some.mpr (.inr ⟨function, rfl⟩)))
    · intro proto
      exact (validateNode_prototype json path).mp
        (each _ (inherited?_eq_some.mpr (.inl ⟨proto, rfl⟩)))
  · rintro ⟨functions, prototype⟩ member found
    rcases inherited?_eq_some.mp found with ⟨proto, rfl⟩ | ⟨function, _⟩
    · exact (validateNode_prototype json path).mpr (prototype proto)
    · exact absurd function functions

/-! ## The two readings -/

omit [FiniteNumber N] [DecidableEq N] in
theorem characters_length_le (text : Text) : (characters text).length ≤ text.length := by
  fun_induction characters text with
  | case1 => exact Nat.le_refl 0
  | case2 unit => exact Nat.le_refl 1
  | case3 high low rest pair ih => simp only [List.length_cons]; omega
  | case4 high low rest single ih => simp only [List.length_cons] at ih ⊢; omega

omit [FiniteNumber N] [DecidableEq N] in
theorem hasMember_eq_false {α : Type} {members : List (Text × α)} :
    hasMember key members = false ↔ key ∉ members.map (·.1) ∧ isInherited key = false := by
  rw [hasMember, Bool.or_eq_false_iff, Option.isSome_eq_false_iff, Option.isNone_iff_eq_none,
    getMember_eq_none_iff]

/-- Validation rejects what fails a check that both readings share, or a check of inherited members or
of the number of units. -/
theorem validateNode_iff (json : value.IsJson) (schemaJson : schema.IsJson) (path : Text) :
    validateNode (.ordinary value) path schema = [] ↔
      ¬ Somewhere (fun value schema => RejectedAnyway value schema ∨ RejectedWrongly value schema)
        value schema := by
  induction schemaJson generalizing value path with
  | @node keywords properties items own each item ihEach ihItem =>
    rw [validateNode_eq_nil json, not_somewhere_iff]
    constructor
    · rintro ⟨const, enum, typed, fits⟩
      constructor
      · rintro (anyway | wrongly)
        · cases anyway with
          | const given differs => rw [const _ given] at differs; cases differs
          | enum given differs =>
            obtain ⟨option, listed, equal⟩ := enum _ given
            rw [differs option listed] at equal
            cases equal
          | type mismatch => exact mismatch typed
          | required listed missing => rw [fits.1 _ listed] at missing; cases missing
          | additional closed own unknown => rw [fits.2.1 closed _ own] at unknown; cases unknown
          | itemCount outside => exact outside fits.1
          | tooShort given short => exact absurd (fits.1 _ given) (not_le.mpr short)
          | @tooLong text _ _ _ _ given long =>
            exact absurd ((Nat.cast_le.mpr (characters_length_le text)).trans (fits.2 _ given))
              (not_le.mpr long)
          | number outside => exact outside fits
        · cases wrongly with
          | @property members _ _ _ key schema listed missing unfit =>
            have inherited : (∀ member, inherited? key = some member →
                validateNode member (path ++ utf16 "." ++ key) schema = []) ↔
                InheritedFits key schema := validateNode_inherited (each _ listed) _
            refine unfit (inherited.mp fun member found => ?_)
            refine fits.2.2 key schema listed member ?_
            rwa [Subject.member?, getMember_eq_none_iff.mpr missing]
          | length given short units => exact absurd (fits.2 _ given) (not_le.mpr units)
      · cases json with
        | object members distinct jsons =>
          intro key schema listed value own
          have stored := (getMember_eq_some_iff distinct).mp own
          refine (ihEach _ listed (jsons _ stored) _).mp (fits.2.2 key schema listed _ ?_)
          rw [Subject.member?, own]
        | array values jsons =>
          intro schema given value listed
          obtain ⟨index, place⟩ := List.mem_iff_getElem?.mp listed
          refine (ihItem _ given (jsons _ listed) _).mp (fits.2 schema given value index ?_)
          exact List.mk_mem_zipIdx_iff_getElem?.mpr place
        | _ => trivial
    · rintro ⟨passes, children⟩
      refine ⟨fun expected given => ?_, fun options given => ?_, ?_, ?_⟩
      · by_contra differs
        exact passes (.inl (.const given (Bool.eq_false_iff.mpr differs)))
      · by_contra none
        refine passes (.inl (.enum given fun option listed => Bool.eq_false_iff.mpr fun equal => ?_))
        exact none ⟨option, listed, equal⟩
      · by_contra mismatch
        exact passes (.inl (.type mismatch))
      · cases json with
        | object members distinct jsons =>
          refine ⟨fun key listed => ?_, fun closed key own => ?_, fun key schema listed member found => ?_⟩
          · by_contra missing
            exact passes (.inl (.required listed (Bool.eq_false_iff.mpr missing)))
          · by_contra unknown
            exact passes (.inl (.additional closed own (Bool.eq_false_iff.mpr unknown)))
          · cases own : getMember key members with
            | some value =>
              have stored := (getMember_eq_some_iff distinct).mp own
              rw [Subject.member?, own, Option.some.injEq] at found
              subst found
              exact (ihEach _ listed (jsons _ stored) _).mpr (children key schema listed value own)
            | none =>
              rw [Subject.member?, own] at found
              refine (validateNode_inherited (each _ listed) _).mpr ?_ member found
              by_contra unfit
              exact passes (.inr (.property listed (getMember_eq_none_iff.mp own) unfit))
        | array values jsons =>
          refine ⟨?_, fun schema given value index place => ?_⟩
          · by_contra outside
            exact passes (.inl (.itemCount outside))
          · have listed := List.fst_mem_of_mem_zipIdx place
            exact (ihItem _ given (jsons _ listed) _).mpr (children schema given value listed)
        | string text =>
          constructor
          · intro bound given
            by_contra short
            exact passes (.inl (.tooShort given (not_le.mp short)))
          · intro bound given
            by_contra units
            rcases lt_or_ge (FiniteNumber.value bound) ((characters text).length : ℚ) with long | short
            · exact passes (.inl (.tooLong given long))
            · exact passes (.inr (.length given short (not_le.mp units)))
        | number number =>
          by_contra outside
          exact passes (.inl (.number outside))
        | null => trivial
        | boolean value => trivial

/-- A value satisfies a schema unless it fails a check that both readings share, or one that validation
lets pass for what is inherited or for the number of units. -/
theorem satisfies_iff (json : value.IsJson) (schemaJson : schema.IsJson) :
    Satisfies value schema ↔
      ¬ Somewhere (fun value schema => RejectedAnyway value schema ∨ AcceptedWrongly value schema)
        value schema := by
  induction schemaJson generalizing value with
  | @node keywords properties items own each item ihEach ihItem =>
    rw [not_somewhere_iff]
    constructor
    · intro satisfied
      unfold Satisfies at satisfied
      obtain ⟨const, enum, typed, body⟩ := satisfied
      constructor
      · rintro (anyway | wrongly)
        · cases anyway with
          | const given differs =>
            rw [deepEqual_of_sorted json (own.1 _ given) (const _ given)] at differs
            cases differs
          | enum given differs =>
            obtain ⟨option, listed, same⟩ := enum _ given
            have equal := deepEqual_of_sorted (own.2 _ given option listed) json same
            rw [differs option listed] at equal
            cases equal
          | type mismatch => exact mismatch typed
          | required listed missing => exact (hasMember_eq_false.mp missing).1 (body.1 _ listed)
          | additional closed own unknown =>
            exact (hasMember_eq_false.mp unknown).1 (body.2.1 closed _ own)
          | itemCount outside => exact outside body.1
          | @tooShort text _ _ _ _ given short =>
            exact absurd ((body.1 _ given).trans (Nat.cast_le.mpr (characters_length_le text)))
              (not_le.mpr short)
          | tooLong given long => exact absurd (body.2 _ given) (not_le.mpr long)
          | number outside => exact outside body
        · cases wrongly with
          | const given equal differs => exact differs (const _ given)
          | enum given equal differs =>
            obtain ⟨option, listed, same⟩ := enum _ given
            exact differs option listed same
          | required listed missing inherited => exact missing (body.1 _ listed)
          | additional closed own unknown inherited => exact unknown (body.2.1 closed _ own)
          | length given short units => exact absurd (body.1 _ given) (not_le.mpr short)
      · cases json with
        | object members distinct jsons =>
          intro key schema listed value own
          have stored := (getMember_eq_some_iff distinct).mp own
          refine (ihEach _ listed (jsons _ stored)).mp ?_
          exact satisfiesProperties_iff.mp body.2.2 key schema listed value own
        | array values jsons =>
          rintro schema rfl value listed
          exact (ihItem schema rfl (jsons _ listed)).mp (body.2 value listed)
        | _ => trivial
    · rintro ⟨passes, children⟩
      unfold Satisfies
      refine ⟨fun expected given => ?_, fun options given => ?_, ?_, ?_⟩
      · by_contra differs
        cases equal : deepEqual value expected with
        | false => exact passes (.inl (.const given equal))
        | true => exact passes (.inr (.const given equal differs))
      · by_contra none
        have differs : ∀ option ∈ options, option.sorted ≠ value.sorted :=
          fun option listed same => none ⟨option, listed, same⟩
        by_cases equal : ∃ option ∈ options, deepEqual option value = true
        · exact passes (.inr (.enum given equal differs))
        · refine passes (.inl (.enum given fun option listed => Bool.eq_false_iff.mpr fun found => ?_))
          exact equal ⟨option, listed, found⟩
      · by_contra mismatch
        exact passes (.inl (.type mismatch))
      · cases json with
        | object members distinct jsons =>
          refine ⟨fun key listed => ?_, fun closed key own => ?_, ?_⟩
          · by_contra missing
            cases inherited : isInherited key with
            | false =>
              exact passes (.inl (.required listed (hasMember_eq_false.mpr ⟨missing, inherited⟩)))
            | true => exact passes (.inr (.required listed missing inherited))
          · by_contra unknown
            cases inherited : isInherited key with
            | false =>
              exact passes (.inl (.additional closed own (hasMember_eq_false.mpr ⟨unknown, inherited⟩)))
            | true => exact passes (.inr (.additional closed own unknown inherited))
          · refine satisfiesProperties_iff.mpr fun key schema listed value own => ?_
            have stored := (getMember_eq_some_iff distinct).mp own
            exact (ihEach _ listed (jsons _ stored)).mpr (children key schema listed value own)
        | array values jsons =>
          constructor
          · by_contra outside
            exact passes (.inl (.itemCount outside))
          · cases items with
            | none => trivial
            | some schema =>
              intro value listed
              exact (ihItem schema rfl (jsons _ listed)).mpr (children schema rfl value listed)
        | string text =>
          constructor
          · intro bound given
            by_contra short
            rcases lt_or_ge (text.length : ℚ) (FiniteNumber.value bound) with few | units
            · exact passes (.inl (.tooShort given few))
            · exact passes (.inr (.length given (not_le.mp short) units))
          · intro bound given
            by_contra long
            exact passes (.inl (.tooLong given (not_le.mp long)))
        | number number =>
          by_contra outside
          exact passes (.inl (.number outside))
        | null => trivial
        | boolean value => trivial

/-- Validation agrees with the meaning of the schema just if a check fails that both share, or if the
value is both accepted and rejected for what is inherited or for the number of units, or neither. -/
theorem validateJsonSchemaSubset_agrees {value : JsValue N} {schema : Schema N}
    (json : value.IsJson) (schemaJson : schema.IsJson) (path : Text) :
    ((validateJsonSchemaSubset value schema path).valid = true ↔ Satisfies value schema) ↔
      Somewhere RejectedAnyway value schema ∨
        (Somewhere RejectedWrongly value schema ↔ Somewhere AcceptedWrongly value schema) := by
  have valid : (validateJsonSchemaSubset value schema path).valid = true ↔
      validateNode (.ordinary value) path schema = [] := List.isEmpty_iff
  rw [valid, validateNode_iff json schemaJson, satisfies_iff json schemaJson, somewhere_or,
    somewhere_or]
  tauto

def SchemaKeywords.ofType (type : SchemaType) : SchemaKeywords N where
  const := none
  enum := none
  type
  required := []
  closed := false
  minLength := none
  maxLength := none
  minimum := none
  maximum := none
  minItems := none
  maxItems := none

/-- An object without members is not valid where `name` is required. -/
theorem validateJsonSchemaSubset_agrees_required :
    (validateJsonSchemaSubset (.object [] : JsValue Int)
        (.node { SchemaKeywords.ofType .object with required := [utf16 "name"] } [] none)
        (utf16 "$")).valid = true ↔
      Satisfies (.object [] : JsValue Int)
        (.node { SchemaKeywords.ofType .object with required := [utf16 "name"] } [] none) := by
  refine (validateJsonSchemaSubset_agrees (.object [] List.nodup_nil (by simp)) ?_ _).mpr ?_
  · exact .node ⟨by simp [SchemaKeywords.ofType], by simp [SchemaKeywords.ofType]⟩ (by simp) (by simp)
  · exact .inl (.here (.required List.mem_cons_self (by decide)))

/-- An object without members is valid where `toString` is required. -/
theorem required_inherited :
    (JsValue.object [] : JsValue Int).IsJson ∧
    (validateJsonSchemaSubset (.object [] : JsValue Int)
        (.node { SchemaKeywords.ofType .object with required := [utf16 "toString"] } [] none)
        (utf16 "$")).valid = true ∧
      ¬ Satisfies (.object [] : JsValue Int)
        (.node { SchemaKeywords.ofType .object with required := [utf16 "toString"] } [] none) := by
  refine ⟨.object [] List.nodup_nil (by simp), by decide, ?_⟩
  rintro ⟨_, _, _, required, _⟩
  exact absurd (required _ List.mem_cons_self) List.not_mem_nil

end Tvic
