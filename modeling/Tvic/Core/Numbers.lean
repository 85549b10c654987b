import Tvic.Core.Dal
import Tvic.Lib.Binary64

/-!
# Checked numbers

The checks that the source makes of a number it was given, on doubles.
-/
namespace Tvic

/-- An integer from `minimum` on that every double operation below `2 ^ 53` keeps. -/
abbrev SafeInteger (minimum : ℕ) := { n : ℕ // minimum ≤ n ∧ n ≤ maxSafeInteger }

theorem toNat_safe {minimum : ℕ} {value : ℚ}
    (safe : value.den = 1 ∧ (minimum : ℤ) ≤ value.num ∧ value.num ≤ (maxSafeInteger : ℤ)) :
    minimum ≤ value.num.toNat ∧ value.num.toNat ≤ maxSafeInteger := by
  omega

/-- `Number.isSafeInteger(d) && d >= minimum`, giving the integer on success. -/
def Double.safeInteger? (minimum : ℕ) : Double → Option (SafeInteger minimum)
  | .finite value =>
    if safe : value.den = 1 ∧ (minimum : ℤ) ≤ value.num ∧ value.num ≤ (maxSafeInteger : ℤ) then
      some ⟨value.num.toNat, toNat_safe safe⟩
    else none
  | _ => none

/-- `Number.isFinite(d) && d >= 0`, giving the number on success. -/
def Double.nonNegative? : Double → Option { value : ℚ // 0 ≤ value }
  | .finite value => if nonneg : 0 ≤ value then some ⟨value, nonneg⟩ else none
  | _ => none

theorem Double.safeInteger?_natCast {minimum n : ℕ} (low : minimum ≤ n) (high : n ≤ maxSafeInteger) :
    (Double.finite n).safeInteger? minimum = some ⟨n, low, high⟩ := by
  have safe : (n : ℚ).den = 1 ∧ (minimum : ℤ) ≤ (n : ℚ).num ∧
      (n : ℚ).num ≤ (maxSafeInteger : ℤ) := by
    simp only [Rat.den_natCast, Rat.num_natCast, true_and]
    omega
  have kept : (Double.finite n).safeInteger? minimum = some ⟨(n : ℚ).num.toNat, _⟩ := dif_pos safe
  rw [kept]
  simp

theorem Double.safeInteger?_eq_some {minimum : ℕ} {value : ℚ} {n : SafeInteger minimum}
    (safe : (Double.finite value).safeInteger? minimum = some n) : value = n.val := by
  by_cases whole : value.den = 1 ∧ (minimum : ℤ) ≤ value.num ∧ value.num ≤ (maxSafeInteger : ℤ)
  · rw [Double.safeInteger?, dif_pos whole] at safe
    have same : value.num.toNat = n.val := congrArg Subtype.val (Option.some.inj safe)
    have numerator : value.num = (n.val : ℤ) := by omega
    rw [← Rat.num_div_den value, whole.1, numerator]
    simp
  · rw [Double.safeInteger?, dif_neg whole] at safe
    cases safe

theorem Double.safeInteger?_atLeast {minimum : ℕ} {d : Double} (large : d.AtLeast (2 ^ 53)) :
    d.safeInteger? minimum = none := by
  cases d with
  | nan => rfl
  | infinity negative => rfl
  | finite value =>
    rw [Option.eq_none_iff_forall_ne_some]
    intro n safe
    have lower : (2 : ℚ) ^ 53 ≤ value := large
    rw [safeInteger?_eq_some safe] at lower
    have bounded : (2 : ℕ) ^ 53 ≤ n.val := by exact_mod_cast lower
    have limit := n.property.2
    unfold maxSafeInteger at limit
    omega

end Tvic
