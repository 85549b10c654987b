import Tvic.Providers.GroqChatStream

/-!
# The tool calls of a Groq completion

Fragments of several calls come in any order. What has been absorbed for an index is what its fragments
say, and the calls that are frozen are those of the fragments, in the order of their indexes.
-/
namespace Tvic.GroqChat

open Lib

variable {N E : Type} [FiniteNumber N]

/-- What an item says of a tool call; a text is empty if it says nothing. -/
structure Fragment where
  index : Nat
  callRef : Text
  toolName : Text
  argumentsJson : Text
  deriving DecidableEq, Repr

def fragment? (value : JsValue N) : Option Fragment :=
  (asObject value).bind fun item =>
    (toolCallIndex item).map fun index =>
      let functionValue := (objectField item "function").getD []
      ⟨index, (stringField item "id").getD [], (stringField functionValue "name").getD [],
        (stringField functionValue "arguments").getD []⟩

/-- The arguments of a call: those of its fragments, one after another. -/
def argumentsOf (fragments : List Fragment) (index : Nat) : Text :=
  (fragments.filter (·.index = index)).flatMap (·.argumentsJson)

/-- What the fragments of a call say of a field where they say something; nothing else is in it. -/
def GivenAs (field : Fragment → Text) (fragments : List Fragment) (index : Nat) (value : Text) : Prop :=
  (∀ fragment ∈ fragments, fragment.index = index → field fragment ≠ [] → field fragment = value) ∧
    (value ≠ [] → ∃ fragment ∈ fragments, fragment.index = index ∧ field fragment = value)

/-- The call of an index. A call without arguments has an empty object for them. -/
structure IsCallOf (fragments : List Fragment) (index : Nat) (call : InlineToolCall N) : Prop where
  complete : call.callRef ≠ [] ∧ call.toolName ≠ []
  callRef : GivenAs Fragment.callRef fragments index call.callRef
  toolName : GivenAs Fragment.toolName fragments index call.toolName
  input : if argumentsOf fragments index = [] then call.input = .object []
    else parseJson (argumentsOf fragments index) = some call.input

/-- One call for each index that occurs, in the order of the indexes. -/
def Assembled (fragments : List Fragment) (calls : List (InlineToolCall N)) : Prop :=
  ∃ indexes : List Nat, indexes.Pairwise (· < ·) ∧
    (∀ index, index ∈ indexes ↔ ∃ fragment ∈ fragments, fragment.index = index) ∧
    List.Forall₂ (IsCallOf fragments) indexes calls

/-! ## One fragment -/

section Given

variable {field : Fragment → Text} {fragments : List Fragment} {index : Nat} {value : Text}

theorem GivenAs.none (fresh : ∀ fragment ∈ fragments, fragment.index ≠ index) :
    GivenAs field fragments index [] :=
  ⟨fun fragment member same => absurd same (fresh fragment member), fun said => absurd rfl said⟩

theorem GivenAs.append_other {fragment : Fragment} (given : GivenAs field fragments index value)
    (other : fragment.index ≠ index) : GivenAs field (fragments ++ [fragment]) index value := by
  constructor
  · intro said member same
    rcases List.mem_append.mp member with old | new
    · exact given.1 said old same
    · obtain rfl := List.mem_singleton.mp new
      exact absurd same other
  · intro said
    obtain ⟨before, member, same⟩ := given.2 said
    exact ⟨before, List.mem_append_left _ member, same⟩

theorem GivenAs.append {fragment : Fragment} (given : GivenAs field fragments index value)
    (own : fragment.index = index) (agrees : field fragment ≠ [] → value = [] ∨ value = field fragment) :
    GivenAs field (fragments ++ [fragment]) index
      (if field fragment = [] then value else field fragment) := by
  by_cases silent : field fragment = []
  · rw [if_pos silent]
    constructor
    · intro said member same spoken
      rcases List.mem_append.mp member with old | new
      · exact given.1 said old same spoken
      · obtain rfl := List.mem_singleton.mp new
        exact absurd silent spoken
    · intro said
      obtain ⟨before, member, same⟩ := given.2 said
      exact ⟨before, List.mem_append_left _ member, same⟩
  · rw [if_neg silent]
    constructor
    · intro said member same spoken
      rcases List.mem_append.mp member with old | new
      · have before := given.1 said old same spoken
        rcases agrees silent with nothing | known
        · exact absurd (before.trans nothing) spoken
        · exact before.trans known
      · rw [List.mem_singleton.mp new]
    · exact fun _ => ⟨fragment, List.mem_append_right _ (List.mem_singleton_self _), own, rfl⟩

end Given

structure Gathered (fragments : List Fragment) (index : Nat) (call : MutableToolCall) : Prop where
  callRef : GivenAs Fragment.callRef fragments index call.callRef
  toolName : GivenAs Fragment.toolName fragments index call.toolName
  argumentsJson : call.argumentsJson = argumentsOf fragments index

def absorbed (calls : InsertionMap Nat MutableToolCall) (fragment : Fragment) :
    InsertionMap Nat MutableToolCall :=
  let call := (calls.get fragment.index).getD {}
  calls.set fragment.index
    { callRef := if fragment.callRef = [] then call.callRef else fragment.callRef
      toolName := if fragment.toolName = [] then call.toolName else fragment.toolName
      argumentsJson := call.argumentsJson ++ fragment.argumentsJson }

def Agrees (call : MutableToolCall) (fragment : Fragment) : Prop :=
  (fragment.callRef ≠ [] → call.callRef = [] ∨ call.callRef = fragment.callRef) ∧
    (fragment.toolName ≠ [] → call.toolName = [] ∨ call.toolName = fragment.toolName)

theorem orElse_eq (new : Option Text) (old : Text) :
    orElse new old = if new.getD [] = [] then old else new.getD [] := by
  rcases new with _ | _ | ⟨unit, text⟩
  · rfl
  · rfl
  · rfl

theorem agrees_of_conflicts {new : Option Text} {old : Text} (agree : ¬conflicts new old = true)
    (said : new.getD [] ≠ []) : old = [] ∨ old = new.getD [] := by
  rcases new with _ | _ | ⟨unit, text⟩
  · exact absurd rfl said
  · exact absurd rfl said
  · simp only [conflicts, Bool.and_eq_true, decide_eq_true_eq, not_and, not_not] at agree
    by_cases empty : old = []
    · exact Or.inl empty
    · exact Or.inr (agree empty)

theorem absorbToolCall_ok {calls calls' : InsertionMap Nat MutableToolCall} {value : JsValue N}
    {existing appended : Nat} {allowed : List Text}
    (ok : (absorbToolCall calls value existing allowed : Except (Failure N E) _) =
      .ok (calls', appended)) :
    ∃ fragment, fragment? value = some fragment ∧ calls' = absorbed calls fragment ∧
      Agrees ((calls.get fragment.index).getD {}) fragment := by
  unfold absorbToolCall at ok
  cases object : asObject value with
  | none =>
    rw [object] at ok
    cases ok
  | some item =>
    cases numbered : toolCallIndex item with
    | none =>
      rw [object] at ok
      dsimp only at ok
      rw [numbered] at ok
      cases ok
    | some index =>
      rw [object] at ok
      dsimp only at ok
      rw [numbered] at ok
      dsimp only at ok
      split_ifs at ok with room shaped typed short bounded identity name known
      have said : fragment? value = some ⟨index, (stringField item "id").getD [],
          (stringField ((objectField item "function").getD []) "name").getD [],
          (stringField ((objectField item "function").getD []) "arguments").getD []⟩ := by
        rw [fragment?, object, Option.bind_some, numbered]
        rfl
      refine ⟨_, said, ?_, ?_⟩
      · obtain ⟨same, -⟩ := Prod.mk.inj (Except.ok.inj ok)
        rw [← same]
        simp only [absorbed, orElse_eq]
      · exact ⟨agrees_of_conflicts identity, agrees_of_conflicts name⟩

/-! ## All fragments -/

structure Absorbed (fragments : List Fragment) (calls : InsertionMap Nat MutableToolCall) : Prop where
  unique : (InsertionMap.keys calls).Nodup
  indexes : ∀ index, index ∈ InsertionMap.keys calls ↔ ∃ fragment ∈ fragments, fragment.index = index
  gathered : ∀ index call, InsertionMap.get calls index = some call → Gathered fragments index call

theorem Absorbed.nil : Absorbed [] [] where
  unique := List.nodup_nil
  indexes index := by simp [InsertionMap.keys]
  gathered := nofun

theorem argumentsOf_append (fragments : List Fragment) (fragment : Fragment) (index : Nat) :
    argumentsOf (fragments ++ [fragment]) index =
      argumentsOf fragments index ++ if fragment.index = index then fragment.argumentsJson else [] := by
  rw [argumentsOf, List.filter_append, List.flatMap_append]
  by_cases own : fragment.index = index
  · simp [argumentsOf, own]
  · simp [argumentsOf, own]

theorem Absorbed.append {fragments : List Fragment} {calls : InsertionMap Nat MutableToolCall}
    (held : Absorbed fragments calls) {fragment : Fragment}
    (agrees : Agrees ((calls.get fragment.index).getD {}) fragment) :
    Absorbed (fragments ++ [fragment]) (absorbed calls fragment) := by
  have before : Gathered fragments fragment.index ((calls.get fragment.index).getD {}) := by
    cases found : calls.get fragment.index with
    | some call => exact held.gathered _ _ found
    | none =>
      have fresh : ∀ other ∈ fragments, other.index ≠ fragment.index := by
        intro other member same
        exact InsertionMap.get_eq_none.mp found ((held.indexes _).mpr ⟨other, member, same⟩)
      refine ⟨.none fresh, .none fresh, ?_⟩
      have nothing : fragments.filter (·.index = fragment.index) = [] := by
        rw [List.filter_eq_nil_iff]
        simpa using fresh
      simp [argumentsOf, nothing]
  refine ⟨InsertionMap.keys_set_nodup held.unique _ _, fun index => ?_, fun index call found => ?_⟩
  · rw [← InsertionMap.has_eq_true, InsertionMap.has_eq_true]
    have present : index ∈ InsertionMap.keys (absorbed calls fragment) ↔
        index = fragment.index ∨ index ∈ InsertionMap.keys calls := by
      rw [← not_iff_not, ← InsertionMap.get_eq_none, not_or, ← InsertionMap.get_eq_none]
      by_cases own : index = fragment.index
      · rw [own, absorbed, InsertionMap.get_set_self]
        simp
      · rw [absorbed, InsertionMap.get_set_of_ne _ own]
        simp [own]
    rw [present, held.indexes]
    simp only [List.mem_append, List.mem_singleton, or_and_right, exists_or, exists_eq_left]
    rw [or_comm, eq_comm]
  · by_cases own : index = fragment.index
    · subst own
      rw [absorbed, InsertionMap.get_set_self] at found
      obtain rfl := Option.some.inj found
      refine ⟨before.callRef.append rfl agrees.1, before.toolName.append rfl agrees.2, ?_⟩
      rw [argumentsOf_append, if_pos rfl, before.argumentsJson]
    · rw [absorbed, InsertionMap.get_set_of_ne _ own] at found
      have kept := held.gathered index call found
      refine ⟨kept.callRef.append_other (Ne.symm own), kept.toolName.append_other (Ne.symm own), ?_⟩
      rw [argumentsOf_append, if_neg (Ne.symm own), List.append_nil, kept.argumentsJson]

/-! ## Frozen calls -/

theorem freezeToolCall_ok {fragments : List Fragment} {index : Nat} {call : MutableToolCall}
    (held : Gathered fragments index call) {frozen : InlineToolCall N}
    (ok : (freezeToolCall call : Except (Failure N E) _) = .ok frozen) :
    IsCallOf fragments index frozen := by
  unfold freezeToolCall at ok
  split_ifs at ok with incomplete
  have complete := not_or.mp incomplete
  unfold parseToolArguments at ok
  split_ifs at ok with silent
  · cases ok
    refine ⟨complete, held.callRef, held.toolName, ?_⟩
    rw [← held.argumentsJson, if_pos silent]
  · cases parsed : (parseJson call.argumentsJson : Option (JsValue N)) with
    | none =>
      rw [parsed] at ok
      cases ok
    | some input =>
      rw [parsed] at ok
      cases ok
      refine ⟨complete, held.callRef, held.toolName, ?_⟩
      rw [← held.argumentsJson, if_neg silent]
      exact parsed

theorem mapM_ok_forall₂ {α β ε : Type} {f : α → Except ε β} {xs : List α} {ys : List β}
    (ok : xs.mapM f = .ok ys) : List.Forall₂ (fun x y => f x = .ok y) xs ys := by
  induction xs generalizing ys with
  | nil =>
    cases ok
    exact .nil
  | cons x xs ih =>
    rw [List.mapM_cons] at ok
    cases first : f x with
    | error error =>
      rw [first] at ok
      cases ok
    | ok y =>
      rw [first] at ok
      cases rest : xs.mapM f with
      | error error =>
        rw [rest] at ok
        cases ok
      | ok later =>
        rw [rest] at ok
        cases ok
        exact .cons first (ih rest)

theorem Absorbed.assembled {fragments : List Fragment} {calls : InsertionMap Nat MutableToolCall}
    (held : Absorbed fragments calls) {frozen : List (InlineToolCall N)}
    (ok : ((calls.mergeSort fun a b => a.1 ≤ b.1).map (·.2)).mapM freezeToolCall =
      (.ok frozen : Except (Failure N E) _)) : Assembled fragments frozen := by
  have perm := calls.mergeSort_perm fun a b => a.1 ≤ b.1
  have ordered : (calls.mergeSort fun a b => a.1 ≤ b.1).Pairwise fun a b => a.1 ≤ b.1 := by
    have sorted := @List.pairwise_mergeSort _ (fun a b => decide (a.1 ≤ b.1))
      (fun a b c ab bc => by simp only [decide_eq_true_eq] at *; omega)
      (fun a b => by simp only [Bool.or_eq_true, decide_eq_true_eq]; omega) calls
    exact sorted.imp fun le => by simpa using le
  refine ⟨(calls.mergeSort fun a b => a.1 ≤ b.1).map (·.1), ?_, fun index => ?_, ?_⟩
  · have distinct : ((calls.mergeSort fun a b => a.1 ≤ b.1).map (·.1)).Nodup := by
      rw [(perm.map _).nodup_iff]
      exact held.unique
    have both := (List.pairwise_map.mpr ordered).and distinct
    exact both.imp fun {a b} ordered => Nat.lt_of_le_of_ne ordered.1 ordered.2
  · rw [(perm.map _).mem_iff]
    exact held.indexes index
  · have each := mapM_ok_forall₂ ok
    rw [List.forall₂_map_left_iff] at each ⊢
    have known : ∀ entry ∈ calls.mergeSort fun a b => a.1 ≤ b.1,
        InsertionMap.get calls entry.1 = some entry.2 := by
      intro entry member
      exact InsertionMap.get_of_mem held.unique (perm.mem_iff.mp member)
    refine ((List.forall₂_and_left _ _).mpr ⟨known, each⟩).imp ?_
    rintro entry call ⟨found, ok⟩
    exact freezeToolCall_ok (held.gathered entry.1 entry.2 found) ok

end Tvic.GroqChat
