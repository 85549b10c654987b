import Tvic.Lib.DecimalText
import Tvic.Lib.JsonSize
import Tvic.Providers.TtsFailover

/-!
# The size of a buffered event

`boundedJsonByteLength` of TTS failover: the bytes that `JSON.stringify` would make of a value in UTF-8,
counted without writing the text and given up on as soon as they are over a maximum.
-/
namespace Tvic

open Lib

variable {N : Type} [FiniteNumber N]

/-- A value without cycles. An index of an array without an element and a property with a getter stand
in the place of the value. -/
inductive EventValue (N : Type) where
  | undefined
  | null
  | boolean (value : Bool)
  | number (value : N)
  | negativeZero
  | nonFinite
  | string (value : Text)
  | bigint
  /-- A function or a symbol. -/
  | callable
  | hole
  | accessor
  /-- `plain`: with the standard prototype and without `toJSON`. -/
  | array (plain : Bool) (items : List (EventValue N))
  /-- The members in the order of `for...in`. -/
  | object (plain : Bool) (members : List (Text × EventValue N))

namespace EventValue

/-- The properties that the loop over an object continues at. -/
def isOmitted : EventValue N → Bool
  | .undefined | .callable | .hole => true
  | _ => false

mutual

/-- `JSON.stringify`, of a value without bigints, getters and `toJSON`. -/
def stringify : EventValue N → Option Text
  | .null | .nonFinite => some (utf16 "null")
  | .boolean value => some (if value then utf16 "true" else utf16 "false")
  | .number value => some (FiniteNumber.text value)
  | .negativeZero => some (utf16 "0")
  | .string value => some (quoteJsonString value)
  | .array _ items => some (arrayText (stringifyItems items))
  | .object _ members => some (objectTextBy quoteJsonString (stringifyMembers members))
  | .undefined | .callable | .hole | .bigint | .accessor => none

def stringifyItems : List (EventValue N) → List Text
  | [] => []
  | item :: items => (stringify item).getD (utf16 "null") :: stringifyItems items

def stringifyMembers : List (Text × EventValue N) → List (Text × Text)
  | [] => []
  | (key, value) :: members =>
    match stringify value with
    | some text => (key, text) :: stringifyMembers members
    | none => stringifyMembers members

end

mutual

/-- The value itself, the elements of its arrays and the members of its objects. -/
def nodes : EventValue N → ℕ
  | .array _ items => 1 + nodesOfItems items
  | .object _ members => 1 + nodesOfMembers members
  | _ => 1

def nodesOfItems : List (EventValue N) → ℕ
  | [] => 0
  | item :: items => nodes item + nodesOfItems items

def nodesOfMembers : List (Text × EventValue N) → ℕ
  | [] => 0
  | (_, value) :: members => nodes value + nodesOfMembers members

end

/-- Plain data with arrays and objects nested at most so deep. -/
inductive IsPlain : ℕ → EventValue N → Prop where
  | undefined {depth} : IsPlain depth .undefined
  | hole {depth} : IsPlain depth .hole
  | null {depth} : IsPlain depth .null
  | boolean {depth} (value : Bool) : IsPlain depth (.boolean value)
  | number {depth} (value : N) : IsPlain depth (.number value)
  | negativeZero {depth} : IsPlain depth .negativeZero
  | nonFinite {depth} : IsPlain depth .nonFinite
  | string {depth} (value : Text) : IsPlain depth (.string value)
  | array {depth} {items : List (EventValue N)}
      (each : ∀ item ∈ items, IsPlain depth item) : IsPlain (depth + 1) (.array true items)
  | object {depth} {members : List (Text × EventValue N)}
      (each : ∀ member ∈ members, IsPlain depth member.2) : IsPlain (depth + 1) (.object true members)

end EventValue

/-! ## The estimate -/

def maxFailoverEventEstimateDepth : ℕ := 64

def maxFailoverEventEstimateNodes : ℕ := 65536

/-- The counters, as long as none is over its bound. -/
@[ext]
structure ByteEstimate (maximum : ℕ) where
  bytes : ℕ
  visitedNodes : ℕ
  bytes_le : bytes ≤ maximum
  visitedNodes_le : visitedNodes ≤ maxFailoverEventEstimateNodes

namespace ByteEstimate

variable {maximum : ℕ}

def add (count : ℕ) (estimate : ByteEstimate maximum) : Option (ByteEstimate maximum) :=
  if within : estimate.bytes + count ≤ maximum then
    some { estimate with bytes := estimate.bytes + count, bytes_le := within }
  else none

def visitNode (estimate : ByteEstimate maximum) : Option (ByteEstimate maximum) :=
  if within : estimate.visitedNodes + 1 ≤ maxFailoverEventEstimateNodes then
    some { estimate with visitedNodes := estimate.visitedNodes + 1, visitedNodes_le := within }
  else none

/-- `if (!nodeVisited && !visitNode()) return false` -/
def enter (nodeVisited : Bool) (estimate : ByteEstimate maximum) : Option (ByteEstimate maximum) :=
  if nodeVisited then some estimate else estimate.visitNode

/-- The comma before all but the first. -/
def separate (first : Bool) (estimate : ByteEstimate maximum) : Option (ByteEstimate maximum) :=
  if first then some estimate else estimate.add 1

end ByteEstimate

def characterBytes (code : UInt16) (next : Option UInt16) : ℕ :=
  if code = 0x22 ∨ code = 0x5c then 2
  else if code < 0x20 then
    if code = 0x08 ∨ code = 0x09 ∨ code = 0x0a ∨ code = 0x0c ∨ code = 0x0d then 2 else 6
  else if isHighSurrogate code then if next.any isLowSurrogate then 4 else 6
  else if isLowSurrogate code then 6
  else if code < 0x80 then 1
  else if code < 0x800 then 2
  else 3

namespace ByteEstimate

variable {maximum : ℕ}

/-- The loop of `addString`. -/
def addUnits : Text → ByteEstimate maximum → Option (ByteEstimate maximum)
  | [], estimate => some estimate
  | [code], estimate => estimate.add (characterBytes code none)
  | code :: next :: rest, estimate => do
    let estimate ← estimate.add (characterBytes code (some next))
    -- a pair is counted at its first half
    if isHighSurrogate code && isLowSurrogate next then addUnits rest estimate
    else addUnits (next :: rest) estimate

def addString (value : Text) (estimate : ByteEstimate maximum) : Option (ByteEstimate maximum) := do
  let estimate ← estimate.add 2
  addUnits value estimate

mutual

def encode (current : EventValue N) (depth : ℕ) (inArray nodeVisited : Bool)
    (estimate : ByteEstimate maximum) : Option (ByteEstimate maximum) := do
  let estimate ← estimate.enter nodeVisited
  match current with
  | .null => estimate.add 4
  | .string value => addString value estimate
  | .boolean value => estimate.add (if value then 4 else 5)
  | .number value => estimate.add (FiniteNumber.text value).length
  | .negativeZero => estimate.add 1
  | .nonFinite => estimate.add 4
  | .undefined | .callable | .hole => if inArray then estimate.add 4 else some estimate
  | .bigint | .accessor => none
  | .array plain items =>
    if maxFailoverEventEstimateDepth ≤ depth ∨ plain = false then none
    else do
      let estimate ← estimate.add 1
      let estimate ← encodeItems items depth true estimate
      estimate.add 1
  | .object plain members =>
    if maxFailoverEventEstimateDepth ≤ depth ∨ plain = false then none
    else do
      let estimate ← estimate.add 1
      let estimate ← encodeMembers members depth true estimate
      estimate.add 1

/-- The loop over an array, from the index `0` or from a later one. -/
def encodeItems (items : List (EventValue N)) (depth : ℕ) (first : Bool)
    (estimate : ByteEstimate maximum) : Option (ByteEstimate maximum) :=
  match items with
  | [] => some estimate
  | item :: items => do
    let estimate ← estimate.separate first
    let estimate ← encode item (depth + 1) true false estimate
    encodeItems items depth false estimate

def encodeMembers (members : List (Text × EventValue N)) (depth : ℕ) (first : Bool)
    (estimate : ByteEstimate maximum) : Option (ByteEstimate maximum) :=
  match members with
  | [] => some estimate
  | (key, value) :: members => do
    let estimate ← estimate.visitNode
    if value.isOmitted then encodeMembers members depth first estimate
    else do
      let estimate ← estimate.separate first
      let estimate ← addString key estimate
      let estimate ← estimate.add 1
      let estimate ← encode value (depth + 1) false true estimate
      encodeMembers members depth false estimate

end

end ByteEstimate

def boundedJsonByteLength (value : EventValue N) (maximum : ℕ) : ℕ :=
  let start : ByteEstimate maximum := ⟨0, 0, Nat.zero_le _, Nat.zero_le _⟩
  match ByteEstimate.encode value 0 false false start with
  | some estimate => estimate.bytes
  | none => maximum + 1

def estimateTtsEventBytes (event : EventValue N) : ℕ :=
  boundedJsonByteLength event maxFailoverPreAudioEventBytes

/-! ## Counting in one go -/

namespace ByteEstimate

variable {maximum : ℕ}

/-- So many bytes and nodes more, in whatever order they come. -/
def grow (count visited : ℕ) (estimate : ByteEstimate maximum) : Option (ByteEstimate maximum) :=
  if within : estimate.bytes + count ≤ maximum ∧
      estimate.visitedNodes + visited ≤ maxFailoverEventEstimateNodes then
    some ⟨estimate.bytes + count, estimate.visitedNodes + visited, within.1, within.2⟩
  else none

theorem add_eq (count : ℕ) (estimate : ByteEstimate maximum) :
    estimate.add count = estimate.grow count 0 := by
  simp [add, grow, estimate.visitedNodes_le]

theorem visitNode_eq (estimate : ByteEstimate maximum) : estimate.visitNode = estimate.grow 0 1 := by
  simp [visitNode, grow, estimate.bytes_le]

theorem some_eq (estimate : ByteEstimate maximum) : some estimate = estimate.grow 0 0 := by
  simp [grow, estimate.bytes_le, estimate.visitedNodes_le]

theorem grow_bind {f : ByteEstimate maximum → Option (ByteEstimate maximum)} {later laterVisited : ℕ}
    (then_ : ∀ estimate, f estimate = estimate.grow later laterVisited) (count visited : ℕ)
    (estimate : ByteEstimate maximum) :
    (estimate.grow count visited >>= f) = estimate.grow (count + later) (visited + laterVisited) := by
  by_cases within : estimate.bytes + count ≤ maximum ∧
      estimate.visitedNodes + visited ≤ maxFailoverEventEstimateNodes
  · have stepped : estimate.grow count visited = some ⟨_, _, within.1, within.2⟩ := dif_pos within
    rw [stepped]
    show f _ = _
    rw [then_]
    simp only [grow, Nat.add_assoc]
  · have stuck : estimate.grow count visited = none := dif_neg within
    have later : estimate.grow (count + later) (visited + laterVisited) = none := dif_neg (by omega)
    rw [stuck, later]
    rfl

end ByteEstimate

open ByteEstimate

open ByteEstimate

variable {maximum : ℕ}

theorem characterBytes_single {code : UInt16} {next : Option UInt16}
    (alone : (isHighSurrogate code && next.any isLowSurrogate) = false) :
    utf8Bytes (quoteCharacter [code]) = characterBytes code next := by
  simp only [quoteCharacter]
  split_ifs with b t n f r quote backslash escaped
  · subst b; rfl
  · subst t; rfl
  · subst n; rfl
  · subst f; rfl
  · subst r; rfl
  · subst quote; rfl
  · subst backslash; rfl
  · -- a control character or half a pair
    rw [utf8Bytes_ascii (unicodeEscape_ascii code)]
    show 6 = _
    simp only [characterBytes, b, t, n, f, r, quote, backslash, or_self, if_false]
    simp only [Bool.or_eq_true, decide_eq_true_eq, isSurrogate] at escaped
    rcases escaped with control | high | low
    · rw [if_pos control]
    · have follows : next.any isLowSurrogate = false := by simpa [high] using alone
      simp [high, follows]
    · simp [low, isHighSurrogate_of_low low]
  · simp only [Bool.or_eq_true, decide_eq_true_eq, isSurrogate, not_or, Bool.not_eq_true] at escaped
    simp only [characterBytes, quote, backslash, or_self, if_false, escaped.1, escaped.2.1,
      escaped.2.2, Bool.false_eq_true]
    rfl

theorem characterBytes_pair {high low : UInt16} (first : isHighSurrogate high = true)
    (second : isLowSurrogate low = true) :
    utf8Bytes (quoteCharacter [high, low]) = characterBytes high (some low) := by
  have large : ¬high < 0x20 ∧ ¬(high = 0x22 ∨ high = 0x5c) := by
    simp only [isHighSurrogate, Bool.and_eq_true, decide_eq_true_eq, UInt16.le_iff_toNat_le,
      UInt16.lt_iff_toNat_lt, ← UInt16.toNat_inj, UInt16.reduceToNat] at first ⊢
    omega
  simp [characterBytes, quoteCharacter, utf8Bytes, characters, characterUtf8Bytes, first, second, large]

theorem addUnits_eq (value : Text) (estimate : ByteEstimate maximum) :
    addUnits value estimate =
      estimate.grow
        ((characters value).map fun character => utf8Bytes (quoteCharacter character)).sum 0 := by
  induction value using characters.induct generalizing estimate with
  | case1 => exact some_eq estimate
  | case2 code =>
    rw [addUnits, add_eq, characters, List.map_singleton, List.sum_singleton,
      @characterBytes_single code none (by simp)]
  | case3 high low rest pair ih =>
    have halves := Bool.and_eq_true_iff.mp pair
    simp only [addUnits, characters, if_pos pair]
    rw [add_eq, List.map_cons, List.sum_cons, characterBytes_pair halves.1 halves.2]
    exact grow_bind ih _ _ estimate
  | case4 code next rest single ih =>
    simp only [addUnits, characters, if_neg single]
    rw [add_eq, List.map_cons, List.sum_cons,
      @characterBytes_single code (some next) (by simpa using single)]
    exact grow_bind ih _ _ estimate

theorem addString_eq (value : Text) (estimate : ByteEstimate maximum) :
    addString value estimate = estimate.grow (utf8Bytes (quoteJsonString value)) 0 := by
  rw [addString, add_eq, grow_bind (addUnits_eq value), utf8Bytes_quoteJsonString]

/-! ## Counting a value -/

def writtenBytes (inArray : Bool) (value : EventValue N) : ℕ :=
  utf8Bytes (value.stringify.getD (if inArray then utf16 "null" else []))

/-- The nodes of a value other than itself. -/
def innerNodes : EventValue N → ℕ
  | .array _ items => EventValue.nodesOfItems items
  | .object _ members => EventValue.nodesOfMembers members
  | _ => 0

omit [FiniteNumber N] in
theorem nodes_eq (value : EventValue N) : value.nodes = 1 + innerNodes value := by
  cases value <;> simp [EventValue.nodes, innerNodes]

theorem number_bytes (value : N) : utf8Bytes (FiniteNumber.text value) = (FiniteNumber.text value).length := by
  refine utf8Bytes_ascii fun unit member => ?_
  have known := FiniteNumber.text_units value unit member
  simp only [isNumberUnit, isDigit, Bool.or_eq_true, Bool.and_eq_true, decide_eq_true_eq, beq_iff_eq,
    UInt16.le_iff_toNat_le, UInt16.lt_iff_toNat_lt, ← UInt16.toNat_inj, UInt16.reduceToNat] at known ⊢
  omega

theorem EventValue.IsPlain.stringify_cases {levels : ℕ} {value : EventValue N}
    (plain : value.IsPlain levels) :
    (value.isOmitted = true ∧ value.stringify = none ∧ innerNodes value = 0) ∨
      (value.isOmitted = false ∧ ∃ text, value.stringify = some text) := by
  cases plain with
  | undefined | hole => exact .inl ⟨rfl, by simp [EventValue.stringify], rfl⟩
  | _ => exact .inr ⟨rfl, by simp [EventValue.stringify]⟩

/-- `encode` counts the value and what is under it. -/
def Counts (maximum levels : ℕ) (value : EventValue N) : Prop :=
  ∀ depth inArray nodeVisited, depth + levels ≤ maxFailoverEventEstimateDepth →
    ∀ estimate : ByteEstimate maximum, ByteEstimate.encode value depth inArray nodeVisited estimate =
      estimate.grow (writtenBytes inArray value)
        ((if nodeVisited then 0 else 1) + innerNodes value)

theorem enter_eq (nodeVisited : Bool) (estimate : ByteEstimate maximum) :
    estimate.enter nodeVisited = estimate.grow 0 (if nodeVisited then 0 else 1) := by
  cases nodeVisited with
  | true => exact some_eq estimate
  | false => exact visitNode_eq estimate

theorem separate_eq (first : Bool) (estimate : ByteEstimate maximum) :
    estimate.separate first = estimate.grow (if first then 0 else 1) 0 := by
  cases first with
  | true => exact some_eq estimate
  | false => exact add_eq 1 estimate

theorem encodeItems_eq {levels depth : ℕ} (shallow : depth + 1 + levels ≤ maxFailoverEventEstimateDepth)
    {items : List (EventValue N)} (each : ∀ item ∈ items, Counts maximum levels item) (first : Bool)
    (estimate : ByteEstimate maximum) :
    encodeItems items depth first estimate =
      estimate.grow (joinedBytes first (EventValue.stringifyItems items))
        (EventValue.nodesOfItems items) := by
  induction items generalizing first estimate with
  | nil => exact some_eq estimate
  | cons item items ih =>
    rw [List.forall_mem_cons] at each
    have later (estimate : ByteEstimate maximum) :
        (ByteEstimate.encode item (depth + 1) true false estimate >>= encodeItems items depth false) = _ :=
      each.1 (depth + 1) true false shallow estimate ▸ grow_bind (ih each.2 false) _ _ estimate
    rw [encodeItems, separate_eq, grow_bind later, EventValue.stringifyItems, joinedBytes,
      EventValue.nodesOfItems, nodes_eq]
    simp only [Nat.add_assoc, Nat.zero_add]
    rfl

theorem encodeMembers_eq {levels depth : ℕ}
    (shallow : depth + 1 + levels ≤ maxFailoverEventEstimateDepth)
    {members : List (Text × EventValue N)} (plain : ∀ member ∈ members, member.2.IsPlain levels)
    (each : ∀ member ∈ members, Counts maximum levels member.2) (first : Bool)
    (estimate : ByteEstimate maximum) :
    encodeMembers members depth first estimate =
      estimate.grow (joinedBytes first
          ((EventValue.stringifyMembers members).map (memberTextBy quoteJsonString)))
        (EventValue.nodesOfMembers members) := by
  induction members generalizing first estimate with
  | nil => exact some_eq estimate
  | cons member members ih =>
    obtain ⟨key, value⟩ := member
    rw [List.forall_mem_cons] at plain each
    rw [encodeMembers, visitNode_eq]
    rcases plain.1.stringify_cases with ⟨omitted, unwritten, leaf⟩ | ⟨present, text, written⟩
    · -- a member without a value is visited, and no more
      simp only [omitted, if_true, EventValue.stringifyMembers, unwritten]
      rw [grow_bind (ih plain.2 each.2 first), EventValue.nodesOfMembers, nodes_eq, leaf]
      simp only [Nat.zero_add, Nat.add_zero]
    · simp only [present, Bool.false_eq_true, if_false, EventValue.stringifyMembers, written]
      have last (estimate : ByteEstimate maximum) :
          (ByteEstimate.encode value (depth + 1) false true estimate >>= encodeMembers members depth false) = _ :=
        each.1 (depth + 1) false true shallow estimate ▸
          grow_bind (ih plain.2 each.2 false) _ _ estimate
      have colon (estimate : ByteEstimate maximum) := add_eq 1 estimate ▸ grow_bind last _ _ estimate
      have named (estimate : ByteEstimate maximum) :=
        addString_eq key estimate ▸ grow_bind colon _ _ estimate
      have parted (estimate : ByteEstimate maximum) :=
        separate_eq first estimate ▸ grow_bind named _ _ estimate
      rw [grow_bind parted, List.map_cons, joinedBytes, EventValue.nodesOfMembers, nodes_eq,
        memberTextBy, utf8Bytes_append_cons _ (by decide)]
      simp only [writtenBytes, written, Option.getD_some, if_true, Nat.add_assoc, Nat.zero_add]

/-- It is enough to count a value whose node was counted before. -/
theorem Counts.of_visited {levels : ℕ} {value : EventValue N}
    (counts : ∀ depth inArray, depth + levels ≤ maxFailoverEventEstimateDepth →
      ∀ estimate : ByteEstimate maximum, ByteEstimate.encode value depth inArray true estimate =
        estimate.grow (writtenBytes inArray value) (innerNodes value)) :
    Counts maximum levels value := by
  intro depth inArray nodeVisited shallow estimate
  have entered : ByteEstimate.encode value depth inArray nodeVisited estimate =
      (estimate.enter nodeVisited >>= ByteEstimate.encode value depth inArray true) := by
    cases nodeVisited with
    | true => rfl
    | false =>
      have visited (estimate : ByteEstimate maximum) : estimate.enter true = some estimate := rfl
      rw [ByteEstimate.encode]
      simp only [ByteEstimate.encode, visited, Option.bind_eq_bind, Option.bind_some]
  rw [entered, enter_eq, grow_bind (counts depth inArray shallow), Nat.zero_add]

theorem counts_of_isPlain {levels : ℕ} {value : EventValue N} (plain : value.IsPlain levels) :
    Counts maximum levels value := by
  induction plain with
  | undefined | hole =>
    refine Counts.of_visited fun depth inArray shallow estimate => ?_
    cases inArray with
    | true => exact add_eq 4 estimate
    | false => exact some_eq estimate
  | null | nonFinite => exact Counts.of_visited fun _ _ _ estimate => add_eq 4 estimate
  | negativeZero => exact Counts.of_visited fun _ _ _ estimate => add_eq 1 estimate
  | boolean value =>
    refine Counts.of_visited fun depth inArray shallow estimate => ?_
    cases value with
    | true => exact add_eq 4 estimate
    | false => exact add_eq 5 estimate
  | number value =>
    refine Counts.of_visited fun depth inArray shallow estimate => ?_
    rw [writtenBytes, EventValue.stringify, Option.getD_some, number_bytes]
    exact add_eq _ estimate
  | string value =>
    refine Counts.of_visited fun depth inArray shallow estimate => ?_
    rw [writtenBytes, EventValue.stringify, Option.getD_some]
    exact addString_eq value estimate
  | @array levels items each ih =>
    refine Counts.of_visited fun depth inArray shallow estimate => ?_
    have room : ¬(maxFailoverEventEstimateDepth ≤ depth ∨ true = false) := by simp; omega
    have fits : depth + 1 + levels ≤ maxFailoverEventEstimateDepth := by omega
    have reached : ByteEstimate.encode (.array true items) depth inArray true estimate =
        (estimate.add 1 >>= fun estimate => encodeItems items depth true estimate >>= add 1) := by
      rw [ByteEstimate.encode]
      exact if_neg room
    have closed (estimate : ByteEstimate maximum) :=
      encodeItems_eq fits ih true estimate ▸ grow_bind (add_eq 1) _ _ estimate
    rw [reached, add_eq, grow_bind closed, writtenBytes, EventValue.stringify, Option.getD_some,
      utf8Bytes_arrayText, Nat.zero_add, ← Nat.add_assoc]
    rfl
  | @object levels members each ih =>
    refine Counts.of_visited fun depth inArray shallow estimate => ?_
    have room : ¬(maxFailoverEventEstimateDepth ≤ depth ∨ true = false) := by simp; omega
    have fits : depth + 1 + levels ≤ maxFailoverEventEstimateDepth := by omega
    have reached : ByteEstimate.encode (.object true members) depth inArray true estimate =
        (estimate.add 1 >>= fun estimate => encodeMembers members depth true estimate >>= add 1) := by
      rw [ByteEstimate.encode]
      exact if_neg room
    have closed (estimate : ByteEstimate maximum) :=
      encodeMembers_eq fits each ih true estimate ▸ grow_bind (add_eq 1) _ _ estimate
    rw [reached, add_eq, grow_bind closed, writtenBytes, EventValue.stringify, Option.getD_some,
      utf8Bytes_objectTextBy, Nat.zero_add, ← Nat.add_assoc]
    rfl

theorem boundedJsonByteLength_eq {value : EventValue N}
    (plain : value.IsPlain maxFailoverEventEstimateDepth)
    (nodes : value.nodes ≤ maxFailoverEventEstimateNodes) (maximum : ℕ) :
    boundedJsonByteLength value maximum =
      if writtenBytes false value ≤ maximum then writtenBytes false value else maximum + 1 := by
  have counts : Counts maximum _ value := counts_of_isPlain plain
  have counted := counts 0 false false (by simp) ⟨0, 0, Nat.zero_le _, Nat.zero_le _⟩
  rw [nodes_eq] at nodes
  rw [boundedJsonByteLength, counted]
  by_cases within : writtenBytes false value ≤ maximum
  · simp [grow, within, nodes]
  · simp [grow, within]

/-- **The estimate is exact.** Of plain data it is the size of the JSON text, where that is within the
maximum, and over the maximum otherwise. -/
theorem boundedJsonByteLength_exact {value : EventValue N}
    (plain : value.IsPlain maxFailoverEventEstimateDepth)
    (nodes : value.nodes ≤ maxFailoverEventEstimateNodes) {text : Text}
    (written : value.stringify = some text) (maximum : ℕ) :
    (utf8Bytes text ≤ maximum → boundedJsonByteLength value maximum = utf8Bytes text) ∧
      (maximum < utf8Bytes text → maximum < boundedJsonByteLength value maximum) := by
  have size : writtenBytes false value = utf8Bytes text := by rw [writtenBytes, written, Option.getD_some]
  rw [boundedJsonByteLength_eq plain nodes, size]
  constructor
  · intro within
    exact if_pos within
  · intro exceeds
    rw [if_neg (by omega)]
    exact Nat.lt_succ_self maximum

/-- `{ "a\n": [undefined, "\ud800"], "b": undefined }` -/
theorem boundedJsonByteLength_exact_nested :
    let value : EventValue ℤ := .object true [(utf16 "a\n", .array true [.undefined, .string [0xD800]]),
      (utf16 "b", .undefined)]
    boundedJsonByteLength value 23 = 23 ∧ 22 < boundedJsonByteLength value 22 := by
  intro value
  have plain : value.IsPlain maxFailoverEventEstimateDepth := by
    refine .object fun member known => ?_
    simp only [List.mem_cons, List.not_mem_nil, or_false] at known
    rcases known with rfl | rfl
    · refine .array fun item listed => ?_
      simp only [List.mem_cons, List.not_mem_nil, or_false] at listed
      rcases listed with rfl | rfl
      · exact .undefined
      · exact .string _
    · exact .undefined
  have nodes : value.nodes ≤ maxFailoverEventEstimateNodes := by decide
  have written : value.stringify = some (utf16 "\x7b\"a\\n\":[null,\"\\ud800\"]\x7d") := by decide +kernel
  have size : utf8Bytes (utf16 "\x7b\"a\\n\":[null,\"\\ud800\"]\x7d") = 23 := by decide +kernel
  have exact := boundedJsonByteLength_exact plain nodes written
  rw [size] at exact
  exact ⟨(exact 23).1 (by decide), (exact 22).2 (by decide)⟩

end Tvic
