import Mathlib.Data.Bool.AllAny
import Mathlib.Data.List.TakeWhile
import Tvic.Lib.JsonText

/-!
# How a JSON text nests its braces

A scanner that knows of strings and braces only: it counts the braces that are open and stops at the one that
closes the first. `parseValue_passed`: what has been read of a JSON value leaves it at the count where it began, so
that the brace that closes an object is the one at which the scanner stops.
-/
namespace Tvic.Lib

/-- The state within an object: how many more braces are open than its own. -/
structure JsonNesting where
  depth : Nat
  inString : Bool := false
  escaped : Bool := false
  deriving DecidableEq, Repr

namespace JsonNesting

def next (self : JsonNesting) (unit : UInt16) : Option JsonNesting :=
  if self.inString then
    if self.escaped then some { self with escaped := false }
    else if unit = 92 then some { self with escaped := true }
    else if unit = 34 then some { self with inString := false }
    else some self
  else if unit = 34 then some { self with inString := true }
  else if unit = 123 then some { self with depth := self.depth + 1 }
  else if unit = 125 then if self.depth = 0 then none else some { self with depth := self.depth - 1 }
  else some self

def run (self : JsonNesting) (text : Text) : Option JsonNesting := text.foldlM next self

@[simp] theorem run_nil (self : JsonNesting) : self.run [] = some self := rfl

theorem run_cons (self : JsonNesting) (unit : UInt16) (text : Text) :
    self.run (unit :: text) = (self.next unit).bind fun later => later.run text := rfl

theorem run_append (self : JsonNesting) (text more : Text) :
    self.run (text ++ more) = (self.run text).bind fun later => later.run more :=
  List.foldlM_append

/-- A text that the scanner leaves at the count where it began, within the object. -/
def Balanced (text : Text) : Prop := ∀ depth, run ⟨depth, false, false⟩ text = some ⟨depth, false, false⟩

theorem balanced_nil : Balanced [] := fun _ => rfl

theorem Balanced.append {text more : Text} (first : Balanced text) (second : Balanced more) :
    Balanced (text ++ more) := by
  intro depth
  rw [run_append, first depth]
  exact second depth

theorem balanced_unit {unit : UInt16} (quote : unit ≠ 34) (opening : unit ≠ 123) (closing : unit ≠ 125) :
    Balanced [unit] := by
  intro depth
  rw [run_cons, next, if_neg (by simp), if_neg quote, if_neg opening, if_neg closing]
  rfl

theorem balanced_braces {text : Text} (inner : Balanced text) : Balanced (123 :: text ++ [125]) := by
  intro depth
  rw [List.cons_append, run_cons]
  change run ⟨depth + 1, false, false⟩ (text ++ [125]) = _
  rw [run_append, inner (depth + 1)]
  rfl

theorem balanced_of_units {text : Text}
    (plain : ∀ unit ∈ text, unit ≠ 34 ∧ unit ≠ 123 ∧ unit ≠ 125) : Balanced text := by
  induction text with
  | nil => exact balanced_nil
  | cons unit text ih =>
    obtain ⟨quote, opening, closing⟩ := plain unit (by simp)
    exact (balanced_unit quote opening closing).append (ih fun later member => plain later (by simp [member]))

end JsonNesting

open JsonNesting

def Passed (text rest : Text) : Prop := ∃ read, text = read ++ rest ∧ Balanced read

theorem Passed.refl (text : Text) : Passed text text := ⟨[], rfl, balanced_nil⟩

theorem Passed.trans {text middle rest : Text} (first : Passed text middle) (second : Passed middle rest) :
    Passed text rest := by
  obtain ⟨read, rfl, balanced⟩ := first
  obtain ⟨more, rfl, balanced'⟩ := second
  exact ⟨read ++ more, (List.append_assoc ..).symm, balanced.append balanced'⟩

theorem passed_cons {unit : UInt16} (quote : unit ≠ 34) (opening : unit ≠ 123) (closing : unit ≠ 125)
    (text : Text) : Passed (unit :: text) text :=
  ⟨[unit], rfl, balanced_unit quote opening closing⟩

theorem passed_dropWhile {test : UInt16 → Bool}
    (plain : ∀ unit, test unit = true → unit ≠ 34 ∧ unit ≠ 123 ∧ unit ≠ 125) (text : Text) :
    Passed text (text.dropWhile test) := by
  refine ⟨text.takeWhile test, List.takeWhile_append_dropWhile.symm, balanced_of_units fun unit member => ?_⟩
  exact plain unit (List.all_eq_true.mp List.all_takeWhile unit member)

theorem passed_skipSpace (text : Text) : Passed text (skipSpace text) := by
  refine passed_dropWhile (fun unit space => ?_) text
  refine ⟨?_, ?_, ?_⟩ <;> rintro rfl <;> simp [isJsonSpace] at space

theorem passed_expect {word text rest : Text}
    (plain : ∀ unit ∈ word, unit ≠ 34 ∧ unit ≠ 123 ∧ unit ≠ 125) (found : expect word text = some rest) :
    Passed text rest := by
  induction word generalizing text with
  | nil =>
    obtain rfl : text = rest := Option.some.inj found
    exact .refl _
  | cons unit word ih =>
    cases text with
    | nil => cases found
    | cons other text =>
      rw [expect] at found
      split_ifs at found with same
      obtain ⟨quote, opening, closing⟩ := plain unit (by simp)
      subst same
      exact (passed_cons quote opening closing text).trans
        (ih (fun later member => plain later (List.mem_cons_of_mem _ member)) found)

theorem Passed.object {text rest : Text} (members : Passed text (125 :: rest)) :
    Passed (123 :: text) rest := by
  obtain ⟨read, rfl, balanced⟩ := members
  exact ⟨123 :: read ++ [125], by simp, balanced_braces balanced⟩

theorem hexValue?_plain {unit value : UInt16} (digit : hexValue? unit = some value) :
    unit ≠ 34 ∧ unit ≠ 92 := by
  constructor <;> rintro rfl <;> simp [hexValue?] at digit

theorem run_string_cons {unit : UInt16} (quote : unit ≠ 34) (backslash : unit ≠ 92) (depth : Nat) (text : Text) :
    JsonNesting.run ⟨depth, true, false⟩ (unit :: text) = JsonNesting.run ⟨depth, true, false⟩ text := by
  rw [JsonNesting.run_cons, next, if_pos rfl, if_neg (by simp), if_neg backslash, if_neg quote]
  rfl

theorem run_string_escape (unit : UInt16) (depth : Nat) (text : Text) :
    JsonNesting.run ⟨depth, true, false⟩ (92 :: unit :: text) = JsonNesting.run ⟨depth, true, false⟩ text := rfl

theorem run_string {text value rest : Text} (parsed : parseString text = some (value, rest)) :
    ∃ read, text = read ++ rest ∧ ∀ depth, JsonNesting.run ⟨depth, true, false⟩ read = some ⟨depth, false, false⟩ := by
  fun_induction parseString text generalizing value with
  | case1 => cases parsed
  | case2 rest' =>
    cases parsed
    exact ⟨[34], rfl, fun depth => rfl⟩
  | case3 first second third fourth rest' ih =>
    obtain ⟨unit, digits, parsed⟩ := Option.bind_eq_some_iff.mp parsed
    obtain ⟨⟨units, after⟩, more, same⟩ := Option.bind_eq_some_iff.mp parsed
    cases same
    obtain ⟨read, rfl, ends⟩ := ih more
    refine ⟨92 :: 117 :: first :: second :: third :: fourth :: read, rfl, fun depth => ?_⟩
    obtain ⟨_, one, digits⟩ := Option.bind_eq_some_iff.mp digits
    obtain ⟨_, two, digits⟩ := Option.bind_eq_some_iff.mp digits
    obtain ⟨_, three, digits⟩ := Option.bind_eq_some_iff.mp digits
    obtain ⟨_, four, -⟩ := Option.bind_eq_some_iff.mp digits
    rw [run_string_escape, run_string_cons (hexValue?_plain one).1 (hexValue?_plain one).2,
      run_string_cons (hexValue?_plain two).1 (hexValue?_plain two).2,
      run_string_cons (hexValue?_plain three).1 (hexValue?_plain three).2,
      run_string_cons (hexValue?_plain four).1 (hexValue?_plain four).2, ends]
  | case4 escape rest' _ ih =>
    obtain ⟨unit, -, parsed⟩ := Option.bind_eq_some_iff.mp parsed
    obtain ⟨⟨units, after⟩, more, same⟩ := Option.bind_eq_some_iff.mp parsed
    cases same
    obtain ⟨read, rfl, ends⟩ := ih more
    exact ⟨92 :: escape :: read, rfl, fun depth => (run_string_escape escape depth read).trans (ends depth)⟩
  | case5 => cases parsed
  | case6 unit rest' quote _ _ plain ih =>
    obtain ⟨⟨units, after⟩, more, same⟩ := Option.bind_eq_some_iff.mp parsed
    cases same
    obtain ⟨read, rfl, ends⟩ := ih more
    refine ⟨unit :: read, rfl, fun depth => ?_⟩
    rw [run_string_cons quote fun backslash => plain (.inr backslash), ends]

theorem passed_string {text value rest : Text} (parsed : parseString text = some (value, rest)) :
    Passed (34 :: text) rest := by
  obtain ⟨read, rfl, ends⟩ := run_string parsed
  refine ⟨34 :: read, rfl, fun depth => ?_⟩
  rw [JsonNesting.run_cons]
  exact ends depth

variable {N : Type} [FiniteNumber N]

/-- What has been read of a value, of the items of an array or of the members of an object is balanced; the brace
that ends the members is not among it. -/
theorem parse_passed (fuel : Nat) :
    (∀ text (value : JsValue N) rest, parseValue fuel text = some (value, rest) → Passed text rest) ∧
    (∀ text (items : List (JsValue N)) rest, parseItems fuel text = some (items, rest) → Passed text rest) ∧
    ∀ text (before members : List (Text × JsValue N)) rest,
      parseMembers fuel text before = some (members, rest) → Passed text (125 :: rest) := by
  induction fuel with
  | zero => exact ⟨nofun, nofun, nofun⟩
  | succ fuel ih =>
    obtain ⟨values, items, members⟩ := ih
    have word : ∀ {name text rest : Text}, (∀ unit ∈ name, unit ≠ 34 ∧ unit ≠ 123 ∧ unit ≠ 125) →
        expect name text = some rest → Passed text rest := passed_expect
    refine ⟨?_, ?_, ?_⟩
    · intro text value rest parsed
      refine (passed_skipSpace text).trans ?_
      rw [parseValue] at parsed
      split at parsed
      · cases parsed
      next text' start =>
        obtain ⟨⟨read, after⟩, found, same⟩ := Option.map_eq_some_iff.mp parsed
        cases same
        rw [start]
        exact passed_string found
      next text' start =>
        rw [start]
        refine (passed_cons (by decide) (by decide) (by decide) _).trans ?_
        split at parsed
        next after ending =>
          cases parsed
          refine (passed_skipSpace text').trans ?_
          rw [ending]
          exact passed_cons (by decide) (by decide) (by decide) _
        · obtain ⟨⟨read, after⟩, found, same⟩ := Option.map_eq_some_iff.mp parsed
          cases same
          exact items _ _ _ found
      next text' start =>
        rw [start]
        refine Passed.object ?_
        split at parsed
        next after ending =>
          cases parsed
          exact ending ▸ passed_skipSpace text'
        · obtain ⟨⟨read, after⟩, found, same⟩ := Option.map_eq_some_iff.mp parsed
          cases same
          exact members _ _ _ _ found
      next text' start =>
        obtain ⟨after, found, same⟩ := Option.map_eq_some_iff.mp parsed
        cases same
        rw [start]
        exact (passed_cons (by decide) (by decide) (by decide) _).trans (word (List.all_iff_forall_prop.mp (by decide)) found)
      next text' start =>
        obtain ⟨after, found, same⟩ := Option.map_eq_some_iff.mp parsed
        cases same
        rw [start]
        exact (passed_cons (by decide) (by decide) (by decide) _).trans (word (List.all_iff_forall_prop.mp (by decide)) found)
      next text' start =>
        obtain ⟨after, found, same⟩ := Option.map_eq_some_iff.mp parsed
        cases same
        rw [start]
        exact (passed_cons (by decide) (by decide) (by decide) _).trans (word (List.all_iff_forall_prop.mp (by decide)) found)
      · obtain ⟨number, -, same⟩ := Option.bind_eq_some_iff.mp parsed
        cases same
        refine passed_dropWhile (fun unit number => ?_) _
        obtain ⟨-, quote, -, -, opening, closing, -⟩ := numberUnit_plain number
        exact ⟨quote, opening, closing⟩
    · intro text read rest parsed
      rw [parseItems] at parsed
      obtain ⟨⟨item, after⟩, first, parsed⟩ := Option.bind_eq_some_iff.mp parsed
      refine (values _ _ _ first).trans ((passed_skipSpace after).trans ?_)
      dsimp only at parsed
      split at parsed
      next more start =>
        obtain ⟨⟨later, end'⟩, found, same⟩ := Option.bind_eq_some_iff.mp parsed
        cases same
        rw [start]
        exact (passed_cons (by decide) (by decide) (by decide) _).trans (items _ _ _ found)
      next more start =>
        cases parsed
        rw [start]
        exact passed_cons (by decide) (by decide) (by decide) _
      · cases parsed
    · intro text before read rest parsed
      refine (passed_skipSpace text).trans ?_
      rw [parseMembers] at parsed
      split at parsed
      next text' start =>
        obtain ⟨⟨key, after⟩, found, parsed⟩ := Option.bind_eq_some_iff.mp parsed
        rw [start]
        refine (passed_string found).trans ((passed_skipSpace after).trans ?_)
        dsimp only at parsed
        split at parsed
        next more colon =>
          obtain ⟨⟨value, after'⟩, first, parsed⟩ := Option.bind_eq_some_iff.mp parsed
          rw [colon]
          refine (passed_cons (by decide) (by decide) (by decide) _).trans
            ((values _ _ _ first).trans ((passed_skipSpace after').trans ?_))
          dsimp only at parsed
          split at parsed
          next later comma =>
            rw [comma]
            exact (passed_cons (by decide) (by decide) (by decide) _).trans (members _ _ _ _ parsed)
          next later brace =>
            cases parsed
            rw [brace]
            exact .refl _
          · cases parsed
        · cases parsed
      · cases parsed

/-- A text that is an object from its first brace to its last one. -/
structure IsObjectText (text : Text) (members : List (Text × JsValue N)) : Prop where
  parsed : parseJson text = some (.object members)
  opens : text.head? = some 123
  closes : text.getLast? = some 125

/-- What `parseValue` does behind an opening brace. -/
def parseObject (fuel : Nat) (tail : Text) : Option (JsValue N × Text) :=
  match skipSpace tail with
  | 125 :: rest => some (.object [], rest)
  | _ => (parseMembers fuel tail []).map fun (members, rest) => (.object (propertyOrder members), rest)

theorem IsObjectText.balanced {text : Text} {members : List (Text × JsValue N)}
    (object : IsObjectText text members) : ∃ inner, text = 123 :: inner ++ [125] ∧ Balanced inner := by
  obtain ⟨parsed, opens, closes⟩ := object
  obtain ⟨tail, rfl⟩ : ∃ tail, text = 123 :: tail := by
    cases text with
    | nil => cases opens
    | cons unit tail =>
      obtain rfl := Option.some.inj opens
      exact ⟨tail, rfl⟩
  obtain ⟨⟨read, rest⟩, first, parsed⟩ := Option.bind_eq_some_iff.mp parsed
  obtain ⟨inner, split, balanced⟩ : Passed tail (125 :: rest) := by
    have shape : parseValue ((123 :: tail).length + 1) (123 :: tail) =
        parseObject (N := N) (123 :: tail).length tail := by
      rw [parseValue, skipSpace_cons (by decide)]
      rfl
    rw [shape, parseObject] at first
    split at first
    next after ending =>
      cases first
      exact ending ▸ passed_skipSpace tail
    · obtain ⟨⟨read, after⟩, found, same⟩ := Option.map_eq_some_iff.mp first
      cases same
      exact (parse_passed _).2.2 _ _ _ _ found
  refine ⟨inner, ?_, balanced⟩
  dsimp only at parsed
  split_ifs at parsed with blank
  -- what follows the object is white space, and the text ends with a brace
  cases rest with
  | nil => rw [split]; rfl
  | cons unit rest =>
    have spaces := List.dropWhile_eq_nil_iff.mp blank
    have last : (unit :: rest).getLast? = some 125 := by
      have whole : 123 :: tail = (123 :: inner ++ [125]) ++ unit :: rest := by simp [split]
      rwa [whole, List.getLast?_append_of_ne_nil _ (List.cons_ne_nil unit rest)] at closes
    have space := spaces 125 (List.mem_of_getLast? last)
    simp [isJsonSpace] at space

end Tvic.Lib
