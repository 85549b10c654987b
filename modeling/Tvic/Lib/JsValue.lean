import Mathlib.Data.List.Sort
import Tvic.Lib.Text

/-!
# JavaScript values

Values without cycles, as far as code can tell them apart that reads data properties. The members of
an object stand in the order in which `for...in` lists them. `IsJson` are the values that a JSON text
can denote; two of them are the same JSON value where they are equal once every object has its keys
in order.
-/
namespace Tvic.Lib

inductive JsValue (N : Type) where
  | undefined
  | null
  | boolean (value : Bool)
  | number (value : N)
  | nonFinite
  | string (value : Text)
  /-- A bigint or a symbol, by its `toString()`. -/
  | primitive (text : Text)
  | function (name : Option Text)
  | array (items : List (JsValue N))
  | object (members : List (Text × JsValue N))
  /-- An instance of `Error`, with its enumerable members. -/
  | error (name message : Text) (members : List (Text × JsValue N))

/-! ## Keys in order -/

/-- The order of strings by their code units. -/
def textLe : Text → Text → Bool
  | [], _ => true
  | _ :: _, [] => false
  | first :: rest, first' :: rest' => first < first' || (first == first' && textLe rest rest')

theorem textLe_total (a b : Text) : textLe a b = true ∨ textLe b a = true := by
  induction a generalizing b with
  | nil => exact .inl rfl
  | cons first rest ih =>
    cases b with
    | nil => exact .inr rfl
    | cons first' rest' =>
      simp only [textLe, Bool.or_eq_true, decide_eq_true_eq, Bool.and_eq_true, beq_iff_eq]
      rcases Nat.lt_trichotomy first.toNat first'.toNat with less | same | greater
      · exact .inl (.inl (UInt16.lt_iff_toNat_lt.mpr less))
      · have same := UInt16.toNat_inj.mp same
        rcases ih rest' with before | after
        · exact .inl (.inr ⟨same, before⟩)
        · exact .inr (.inr ⟨same.symm, after⟩)
      · exact .inr (.inl (UInt16.lt_iff_toNat_lt.mpr greater))

theorem textLe_trans {a b c : Text} (ab : textLe a b = true) (bc : textLe b c = true) :
    textLe a c = true := by
  induction a generalizing b c with
  | nil => rfl
  | cons first rest ih =>
    cases b with
    | nil => cases ab
    | cons first' rest' =>
      cases c with
      | nil => cases bc
      | cons first'' rest'' =>
        simp only [textLe, Bool.or_eq_true, decide_eq_true_eq, Bool.and_eq_true, beq_iff_eq]
          at ab bc ⊢
        rcases ab with less | ⟨rfl, before⟩
        · rcases bc with less' | ⟨rfl, _⟩
          · exact .inl (UInt16.lt_trans less less')
          · exact .inl less
        · rcases bc with less' | ⟨rfl, before'⟩
          · exact .inl less'
          · exact .inr ⟨rfl, ih before before'⟩

theorem textLe_antisymm {a b : Text} (ab : textLe a b = true) (ba : textLe b a = true) : a = b := by
  induction a generalizing b with
  | nil =>
    cases b with
    | nil => rfl
    | cons first' rest' => cases ba
  | cons first rest ih =>
    cases b with
    | nil => cases ab
    | cons first' rest' =>
      simp only [textLe, Bool.or_eq_true, decide_eq_true_eq, Bool.and_eq_true, beq_iff_eq] at ab ba
      rcases ab with less | ⟨rfl, before⟩
      · rcases ba with greater | ⟨rfl, _⟩
        · exact absurd (UInt16.lt_trans less greater) (UInt16.lt_irrefl _)
        · exact absurd less (UInt16.lt_irrefl _)
      · rcases ba with greater | ⟨_, after⟩
        · exact absurd greater (UInt16.lt_irrefl _)
        · rw [ih before after]

section Members

variable {α β : Type}

def sortMembers (members : List (Text × α)) : List (Text × α) :=
  members.insertionSort fun a b => textLe a.1 b.1 = true

theorem sortMembers_perm (members : List (Text × α)) : (sortMembers members).Perm members :=
  List.perm_insertionSort _ _

theorem sortMembers_pairwise (members : List (Text × α)) :
    (sortMembers members).Pairwise fun a b => textLe a.1 b.1 = true :=
  have : Std.Total fun a b : Text × α => textLe a.1 b.1 = true := ⟨fun a b => textLe_total a.1 b.1⟩
  have : IsTrans (Text × α) fun a b => textLe a.1 b.1 = true := ⟨fun _ _ _ => textLe_trans⟩
  List.pairwise_insertionSort _ members

theorem sortMembers_map (f : α → β) (members : List (Text × α)) :
    sortMembers (members.map fun member => (member.1, f member.2)) =
      (sortMembers members).map fun member => (member.1, f member.2) :=
  (List.map_insertionSort (fun a b : Text × α => textLe a.1 b.1 = true)
    (fun a b : Text × β => textLe a.1 b.1 = true) _ members fun _ _ _ _ => Iff.rfl).symm

theorem sortMembers_eq_of_perm {members members' : List (Text × α)} (perm : members.Perm members')
    (distinct : (members.map (·.1)).Nodup) : sortMembers members = sortMembers members' := by
  have perm' := (sortMembers_perm members).trans (perm.trans (sortMembers_perm members').symm)
  refine perm'.eq_of_pairwise ?_ (sortMembers_pairwise members) (sortMembers_pairwise members')
  intro a b left right ab ba
  have keys := textLe_antisymm ab ba
  have left := (sortMembers_perm members).mem_iff.mp left
  have right := perm.mem_iff.mpr ((sortMembers_perm members').mem_iff.mp right)
  exact List.inj_on_of_nodup_map distinct left right keys

def getMember (key : Text) (members : List (Text × α)) : Option α :=
  (members.find? fun member => member.1 = key).map (·.2)

/-- What assigning to a property leaves: a new one comes last. -/
def setMember (key : Text) (value : α) : List (Text × α) → List (Text × α)
  | [] => [(key, value)]
  | member :: members =>
    if member.1 = key then (key, value) :: members else member :: setMember key value members

theorem getMember_eq_some_iff {key : Text} {value : α} {members : List (Text × α)}
    (distinct : (members.map (·.1)).Nodup) :
    getMember key members = some value ↔ (key, value) ∈ members := by
  constructor
  · intro found
    obtain ⟨member, first, rfl⟩ := Option.map_eq_some_iff.mp found
    have same : member.1 = key := by simpa using List.find?_some first
    subst same
    exact List.mem_of_find?_eq_some first
  · intro stored
    unfold getMember
    cases found : members.find? fun member => member.1 = key with
    | none =>
      rw [List.find?_eq_none] at found
      exact absurd (by simp) (found _ stored)
    | some member =>
      have same : member.1 = key := by simpa using List.find?_some found
      have equal := List.inj_on_of_nodup_map distinct (List.mem_of_find?_eq_some found) stored same
      rw [equal]
      rfl

theorem getMember_perm {members members' : List (Text × α)} (perm : members.Perm members')
    (distinct : (members.map (·.1)).Nodup) (key : Text) :
    getMember key members = getMember key members' := by
  have distinct' := (perm.map _).nodup_iff.mp distinct
  ext value
  rw [getMember_eq_some_iff distinct, getMember_eq_some_iff distinct', perm.mem_iff]

theorem getMember_map (f : α → β) (members : List (Text × α)) (key : Text) :
    getMember key (members.map fun member => (member.1, f member.2)) =
      (getMember key members).map f := by
  simp [getMember, List.find?_map, Function.comp_def]

theorem getMember_eq_none_iff {key : Text} {members : List (Text × α)} :
    getMember key members = none ↔ key ∉ members.map (·.1) := by
  rw [getMember, Option.map_eq_none_iff, List.find?_eq_none]
  simp only [decide_eq_true_eq, List.mem_map, not_exists, not_and]

theorem setMember_of_notMem {key : Text} {members : List (Text × α)}
    (missing : key ∉ members.map (·.1)) (value : α) :
    setMember key value members = members ++ [(key, value)] := by
  induction members with
  | nil => rfl
  | cons member members ih =>
    simp only [List.map_cons, List.mem_cons, not_or] at missing
    simp [setMember, Ne.symm missing.1, ih missing.2]

end Members

/-! ## The order of properties -/

def isDigit (unit : UInt16) : Bool := 48 ≤ unit && unit ≤ 57

def decimalValue (digits : Text) : Nat := digits.foldl (fun n unit => 10 * n + (unit.toNat - 48)) 0

def arrayIndex? (key : Text) : Option Nat :=
  if key ≠ [] ∧ key.all isDigit ∧ (key.head? = some 48 → key.length = 1) ∧
      decimalValue key < 4294967295 then
    some (decimalValue key)
  else none

/-- `OrdinaryOwnPropertyKeys`: array indices come first, in ascending order. -/
def propertyOrder {α : Type} (members : List (Text × α)) : List (Text × α) :=
  (members.filter fun member => (arrayIndex? member.1).isSome).insertionSort
      (fun a b => (arrayIndex? a.1).getD 0 ≤ (arrayIndex? b.1).getD 0) ++
    members.filter fun member => !(arrayIndex? member.1).isSome

theorem propertyOrder_perm {α : Type} (members : List (Text × α)) :
    (propertyOrder members).Perm members :=
  ((List.perm_insertionSort _ _).append_right _).trans (List.filter_append_perm _ members)

/-! ## Values as trees -/

namespace JsValue

variable {N α : Type}

section Fold

variable (leaf : JsValue N → α) (array : List α → α) (object : List (Text × α) → α)

mutual

/-- What is computed from the leaves up; an `Error` is a leaf. -/
def fold : JsValue N → α
  | .array items => array (foldItems items)
  | .object members => object (foldMembers members)
  | value => leaf value

def foldItems : List (JsValue N) → List α
  | [] => []
  | item :: items => fold item :: foldItems items

def foldMembers : List (Text × JsValue N) → List (Text × α)
  | [] => []
  | (key, value) :: members => (key, fold value) :: foldMembers members

end

theorem foldItems_eq (items : List (JsValue N)) :
    foldItems leaf array object items = items.map (fold leaf array object) := by
  induction items with
  | nil => rfl
  | cons item items ih => rw [foldItems, List.map_cons, ih]

theorem foldMembers_eq (members : List (Text × JsValue N)) :
    foldMembers leaf array object members =
      members.map fun member => (member.1, fold leaf array object member.2) := by
  induction members with
  | nil => rfl
  | cons member members ih => rw [foldMembers, List.map_cons, ih]

@[simp] theorem fold_array (items : List (JsValue N)) :
    fold leaf array object (.array items) = array (items.map (fold leaf array object)) := by
  rw [fold, foldItems_eq]

@[simp] theorem fold_object (members : List (Text × JsValue N)) :
    fold leaf array object (.object members) =
      object (members.map fun member => (member.1, fold leaf array object member.2)) := by
  rw [fold, foldMembers_eq]

end Fold

/-- What JSON can say: no `undefined`, no functions and such, and no key twice. -/
inductive IsJson : JsValue N → Prop where
  | null : IsJson .null
  | boolean (value : Bool) : IsJson (.boolean value)
  | number (value : N) : IsJson (.number value)
  | string (value : Text) : IsJson (.string value)
  | array (items : List (JsValue N)) (each : ∀ item ∈ items, IsJson item) : IsJson (.array items)
  | object (members : List (Text × JsValue N)) (distinct : (members.map (·.1)).Nodup)
      (each : ∀ member ∈ members, IsJson member.2) : IsJson (.object members)

/-- The value with the keys of every object in order. -/
def sorted : JsValue N → JsValue N :=
  fold (fun leaf => leaf) .array fun members => .object (sortMembers members)

/-- The value that is read where it has been written with its keys in order. -/
def reread : JsValue N → JsValue N :=
  fold (fun leaf => leaf) .array fun members => .object (propertyOrder (sortMembers members))

@[simp] theorem sorted_array (items : List (JsValue N)) :
    (JsValue.array items).sorted = .array (items.map sorted) := by
  simp [sorted]

@[simp] theorem sorted_object (members : List (Text × JsValue N)) :
    (JsValue.object members).sorted =
      .object (sortMembers (members.map fun member => (member.1, member.2.sorted))) := by
  simp [sorted]

@[simp] theorem reread_array (items : List (JsValue N)) :
    (JsValue.array items).reread = .array (items.map reread) := by
  simp [reread]

@[simp] theorem reread_object (members : List (Text × JsValue N)) :
    (JsValue.object members).reread =
      .object (propertyOrder (sortMembers (members.map fun member => (member.1, member.2.reread)))) := by
  simp [reread]

theorem reread_members_perm (members : List (Text × JsValue N)) :
    (propertyOrder (sortMembers (members.map fun member => (member.1, member.2.reread)))).Perm
      (members.map fun member => (member.1, member.2.reread)) :=
  (propertyOrder_perm _).trans (sortMembers_perm _)

theorem map_keys {β : Type} (f : JsValue N → β) (members : List (Text × JsValue N)) :
    (members.map fun member => (member.1, f member.2)).map (·.1) = members.map (·.1) := by
  simp [Function.comp_def]

theorem sorted_reread {value : JsValue N} (json : IsJson value) :
    value.reread.sorted = value.sorted := by
  induction json with
  | null | boolean | number | string => rfl
  | array items each ih =>
    rw [reread_array, sorted_array, sorted_array, List.map_map]
    exact congrArg _ (List.map_congr_left ih)
  | object members distinct each ih =>
    rw [reread_object, sorted_object, sorted_object]
    have perm := (reread_members_perm members).map fun member => (member.1, member.2.sorted)
    rw [List.map_map] at perm
    have same : members.map ((fun member => (member.1, member.2.sorted)) ∘ fun member =>
        (member.1, member.2.reread)) = members.map fun member => (member.1, member.2.sorted) :=
      List.map_congr_left fun member stored => by simp [ih member stored]
    rw [same] at perm
    refine congrArg _ (sortMembers_eq_of_perm perm ?_)
    rw [(perm.map _).nodup_iff, map_keys]
    exact distinct

end JsValue

end Tvic.Lib
