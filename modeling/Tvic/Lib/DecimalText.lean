import Tvic.Lib.JsonText

/-!
# Integers in texts

The integers are numbers of JSON texts: they are written in decimal and read back.
-/
namespace Tvic.Lib

def decimalText (n : Nat) : Text := (Nat.toDigits 10 n).map fun digit => digit.toNat.toUInt16

/-- A sign and digits, which all have to be there. -/
def readInteger : Text → Option Int
  | [] => none
  | 45 :: digits =>
    if digits ≠ [] ∧ digits.all isDigit then some (-(decimalValue digits : Int)) else none
  | digits => if digits.all isDigit then some (decimalValue digits) else none

def integerText : Int → Text
  | .ofNat n => decimalText n
  | .negSucc n => 45 :: decimalText (n + 1)

theorem digit_toUInt16 {digit : Char} (decimal : digit.isDigit = true) :
    digit.toNat.toUInt16.toNat = digit.toNat ∧ isDigit digit.toNat.toUInt16 = true := by
  have bounds : 48 ≤ digit.toNat ∧ digit.toNat ≤ 57 := by
    simpa [Char.isDigit, UInt32.le_iff_toNat_le] using decimal
  have same : digit.toNat.toUInt16.toNat = digit.toNat := by
    simp only [Nat.toUInt16, UInt16.toNat_ofNat']
    omega
  refine ⟨same, ?_⟩
  simp only [isDigit, Bool.and_eq_true, decide_eq_true_eq, UInt16.le_iff_toNat_le, same]
  exact bounds

theorem decimalText_digits (n : Nat) : ∀ unit ∈ decimalText n, isDigit unit = true := by
  intro unit member
  obtain ⟨digit, stored, rfl⟩ := List.mem_map.mp member
  exact (digit_toUInt16 (Nat.isDigit_of_mem_toDigits (by decide) (by decide) stored)).2

theorem decimalText_ne_nil (n : Nat) : decimalText n ≠ [] := by
  intro empty
  have none := List.map_eq_nil_iff.mp empty
  have value := Nat.ofDigitChars_ten_toDigits (n := n)
  rw [none] at value
  subst value
  cases none

theorem decimalValue_decimalText (n : Nat) : decimalValue (decimalText n) = n := by
  have folded : ∀ (digits : List Char) (start : Nat), (∀ digit ∈ digits, digit.isDigit = true) →
      (digits.map fun digit => digit.toNat.toUInt16).foldl
          (fun n unit => 10 * n + (unit.toNat - 48)) start =
        Nat.ofDigitChars 10 digits start := by
    intro digits
    induction digits with
    | nil => exact fun _ _ => rfl
    | cons digit digits ih =>
      intro start decimal
      obtain ⟨first, rest⟩ := List.forall_mem_cons.mp decimal
      rw [List.map_cons, List.foldl_cons, (digit_toUInt16 first).1, ih _ rest]
      rfl
  exact (folded _ _ fun digit => Nat.isDigit_of_mem_toDigits (by decide) (by decide)).trans
    Nat.ofDigitChars_ten_toDigits

theorem readInteger_integerText (n : Int) : readInteger (integerText n) = some n := by
  have digits : ∀ n, (decimalText n).all isDigit = true := fun n =>
    List.all_eq_true.mpr (decimalText_digits n)
  cases n with
  | ofNat n =>
    rw [integerText]
    have positive : ∀ rest, decimalText n ≠ 45 :: rest := by
      intro rest same
      have sign := decimalText_digits n 45 (by rw [same]; exact List.mem_cons_self)
      exact absurd sign (by decide)
    unfold readInteger
    split
    next empty => exact absurd empty (decimalText_ne_nil n)
    next rest same => exact absurd same (positive rest)
    · rw [if_pos (digits n), decimalValue_decimalText]
      rfl
  | negSucc n =>
    rw [integerText, readInteger, if_pos ⟨decimalText_ne_nil _, digits _⟩, decimalValue_decimalText]
    rfl

theorem integerText_units (n : Int) : ∀ unit ∈ integerText n, isNumberUnit unit = true := by
  have digits : ∀ n, ∀ unit ∈ decimalText n, isNumberUnit unit = true := by
    intro n unit member
    simp [isNumberUnit, decimalText_digits n unit member]
  cases n with
  | ofNat n => exact digits n
  | negSucc n => exact List.forall_mem_cons.mpr ⟨by decide, digits (n + 1)⟩

instance : FiniteNumber Int where
  value n := n
  text := integerText
  read := readInteger
  read_text := readInteger_integerText
  text_ne_nil n := by
    cases n with
    | ofNat n => exact decimalText_ne_nil n
    | negSucc n => exact List.cons_ne_nil _ _
  text_units := integerText_units

end Tvic.Lib
