import Mathlib.Data.Int.Log
import Mathlib.Data.Rat.Floor
import Mathlib.Tactic.Positivity

/-!
# Double arithmetic

The numbers of IEEE 754 binary64 by their values, with the operations that round to nearest, ties
to even. Zero has one sign here. An operation is the exact one followed by `roundDouble`, and the
two facts its users need of rounding are that it is monotone and that it keeps what is on the grid.
-/
namespace Tvic

/-! ## Rounding -/

/-- The integer nearest to `q`, the even one of two. -/
def nearestEven (q : ℚ) : ℤ :=
  if q - ⌊q⌋ < 1 / 2 ∨ (q - ⌊q⌋ = 1 / 2 ∧ 2 ∣ ⌊q⌋) then ⌊q⌋ else ⌊q⌋ + 1

/-- The place of the last binary digit that a double of the size of `q` has. -/
def lastPlace (q : ℚ) : ℤ := max (Int.log 2 |q|) (-1022) - 52

/-- `q` to the digits that a double keeps. -/
def roundPlaces (q : ℚ) : ℚ := nearestEven (q / 2 ^ lastPlace q) * 2 ^ lastPlace q

theorem nearestEven_intCast (n : ℤ) : nearestEven n = n := by
  simp [nearestEven]

theorem nearestEven_mono {q r : ℚ} (le : q ≤ r) : nearestEven q ≤ nearestEven r := by
  have floors : ⌊q⌋ ≤ ⌊r⌋ := Int.floor_le_floor le
  rcases floors.eq_or_lt with same | less
  · unfold nearestEven
    rw [same]
    by_cases down : r - ⌊r⌋ < 1 / 2 ∨ (r - ⌊r⌋ = 1 / 2 ∧ 2 ∣ ⌊r⌋)
    · -- what is below a number that rounds down rounds down as well
      have below : q - ⌊r⌋ < 1 / 2 ∨ (q - ⌊r⌋ = 1 / 2 ∧ 2 ∣ ⌊r⌋) := by
        rcases down with small | ⟨half, even⟩
        · exact .inl (by linarith)
        · rcases le.eq_or_lt with rfl | strict
          · exact .inr ⟨half, even⟩
          · exact .inl (by linarith)
      rw [if_pos down, if_pos below]
    · rw [if_neg down]
      split <;> omega
  · have upper : nearestEven q ≤ ⌊q⌋ + 1 := by
      unfold nearestEven
      split <;> omega
    have lower : ⌊r⌋ ≤ nearestEven r := by
      unfold nearestEven
      split <;> omega
    omega

theorem nearestEven_le {q : ℚ} {n : ℤ} (le : q ≤ n) : nearestEven q ≤ n := by
  simpa [nearestEven_intCast] using nearestEven_mono le

theorem le_nearestEven {q : ℚ} {n : ℤ} (le : (n : ℚ) ≤ q) : n ≤ nearestEven q := by
  simpa [nearestEven_intCast] using nearestEven_mono le

theorem scaled_eq {d k : ℤ} (fine : d ≤ k) (n : ℤ) :
    (n : ℚ) * 2 ^ k = ((n * 2 ^ (k - d).toNat : ℤ) : ℚ) * 2 ^ d := by
  have split_place : k = ((k - d).toNat : ℤ) + d := by omega
  conv_lhs => rw [split_place, zpow_add₀ two_ne_zero, zpow_natCast]
  push_cast
  ring

theorem roundPlaces_le {q : ℚ} {n k : ℤ} (fine : lastPlace q ≤ k) (le : q ≤ n * 2 ^ k) :
    roundPlaces q ≤ n * 2 ^ k := by
  have positive : (0 : ℚ) < 2 ^ lastPlace q := zpow_pos two_pos _
  rw [scaled_eq fine n] at le ⊢
  have scaled : q / 2 ^ lastPlace q ≤ ((n * 2 ^ (k - lastPlace q).toNat : ℤ) : ℚ) :=
    (div_le_iff₀ positive).mpr le
  exact mul_le_mul_of_nonneg_right (by exact_mod_cast nearestEven_le scaled) positive.le

theorem le_roundPlaces {q : ℚ} {n k : ℤ} (fine : lastPlace q ≤ k) (le : (n : ℚ) * 2 ^ k ≤ q) :
    (n : ℚ) * 2 ^ k ≤ roundPlaces q := by
  have positive : (0 : ℚ) < 2 ^ lastPlace q := zpow_pos two_pos _
  rw [scaled_eq fine n] at le ⊢
  have scaled : ((n * 2 ^ (k - lastPlace q).toNat : ℤ) : ℚ) ≤ q / 2 ^ lastPlace q :=
    (le_div_iff₀ positive).mpr le
  exact mul_le_mul_of_nonneg_right (by exact_mod_cast le_nearestEven scaled) positive.le

theorem roundPlaces_eq {n k : ℤ} (fine : lastPlace (n * 2 ^ k) ≤ k) :
    roundPlaces ((n : ℚ) * 2 ^ k) = n * 2 ^ k :=
  le_antisymm (roundPlaces_le fine le_rfl) (le_roundPlaces fine le_rfl)

@[simp]
theorem roundPlaces_zero : roundPlaces 0 = 0 := by
  have kept : nearestEven 0 = 0 := by simpa using nearestEven_intCast 0
  simp [roundPlaces, kept]

theorem roundPlaces_nonneg {q : ℚ} (nonneg : 0 ≤ q) : 0 ≤ roundPlaces q := by
  have bound := @le_roundPlaces q 0 (lastPlace q) le_rfl (by simpa using nonneg)
  simpa using bound

theorem lastPlace_mono {q r : ℚ} (positive : 0 < q) (le : q ≤ r) : lastPlace q ≤ lastPlace r := by
  have logs : Int.log 2 |q| ≤ Int.log 2 |r| := by
    rw [abs_of_pos positive, abs_of_pos (positive.trans_le le)]
    exact Int.log_mono_right positive le
  unfold lastPlace
  omega

theorem roundPlaces_mono {q r : ℚ} (nonneg : 0 ≤ q) (le : q ≤ r) :
    roundPlaces q ≤ roundPlaces r := by
  rcases nonneg.eq_or_lt with rfl | positive
  · simpa using roundPlaces_nonneg le
  have places := lastPlace_mono positive le
  rcases places.eq_or_lt with same | less
  · have scale : (0 : ℚ) < 2 ^ lastPlace r := zpow_pos two_pos _
    unfold roundPlaces
    rw [same]
    have quotients : q / 2 ^ lastPlace r ≤ r / 2 ^ lastPlace r :=
      div_le_div_of_nonneg_right le scale.le
    exact mul_le_mul_of_nonneg_right (by exact_mod_cast nearestEven_mono quotients) scale.le
  · -- between two sizes there is a power of two, which is on both grids
    have larger : 0 < r := positive.trans_le le
    have absQ : |q| = q := abs_of_pos positive
    have absR : |r| = r := abs_of_pos larger
    have sizes : Int.log 2 q < Int.log 2 r ∧ lastPlace r = Int.log 2 r - 52 := by
      unfold lastPlace at less ⊢
      rw [absQ, absR] at less
      rw [absR]
      omega
    have reaches : q ≤ ((1 : ℤ) : ℚ) * 2 ^ Int.log 2 r := by
      rw [Int.cast_one, one_mul]
      exact ((Int.lt_zpow_iff_log_lt (by norm_num) positive).mpr sizes.1).le
    have starts : ((1 : ℤ) : ℚ) * 2 ^ Int.log 2 r ≤ r := by
      rw [Int.cast_one, one_mul]
      exact Int.zpow_log_le_self (by norm_num) larger
    exact (roundPlaces_le (by omega) reaches).trans (le_roundPlaces (by omega) starts)

theorem lastPlace_natCast {n : ℕ} (small : n < 2 ^ 53) : lastPlace n ≤ 0 := by
  unfold lastPlace
  rcases Nat.eq_zero_or_pos n with rfl | positive
  · simp
  · have digits : Int.log 2 |(n : ℚ)| < 53 := by
      rw [abs_of_nonneg (Nat.cast_nonneg n), Int.log_natCast]
      exact_mod_cast Nat.log_lt_of_lt_pow positive.ne' small
    omega

theorem roundPlaces_natCast {n : ℕ} (small : n < 2 ^ 53) : roundPlaces n = n := by
  have onGrid : lastPlace (((n : ℤ) : ℚ) * 2 ^ (0 : ℤ)) ≤ 0 := by
    simpa using lastPlace_natCast small
  simpa using roundPlaces_eq onGrid

theorem roundPlaces_twoPow (n : ℕ) : roundPlaces (2 ^ n) = 2 ^ n := by
  have size : Int.log 2 |(2 : ℚ) ^ n| = n := by
    rw [abs_of_pos (by positivity), ← zpow_natCast]
    exact Int.log_zpow (by norm_num) n
  have onGrid : lastPlace (((1 : ℤ) : ℚ) * 2 ^ (n : ℤ)) ≤ n := by
    unfold lastPlace
    rw [Int.cast_one, one_mul, zpow_natCast, size]
    omega
  simpa using roundPlaces_eq onGrid

/-! ## Numbers -/

/-- A number of the language by its value. -/
inductive Double where
  | finite (value : ℚ)
  | infinity (negative : Bool)
  | nan
  deriving DecidableEq, Repr

namespace Double

/-- The double nearest to `q`; from `2 ^ 1024` on there is only infinity. -/
def nearest (q : ℚ) : Double :=
  if 2 ^ 1024 ≤ |roundPlaces q| then .infinity (decide (q < 0)) else .finite (roundPlaces q)

def add : Double → Double → Double
  | .finite a, .finite b => nearest (a + b)
  | .finite _, .infinity negative => .infinity negative
  | .infinity negative, .finite _ => .infinity negative
  | .infinity first, .infinity second => if first = second then .infinity first else .nan
  | _, _ => .nan

def mul : Double → Double → Double
  | .finite a, .finite b => nearest (a * b)
  | .finite a, .infinity negative => if a = 0 then .nan else .infinity (negative ^^ decide (a < 0))
  | .infinity negative, .finite a => if a = 0 then .nan else .infinity (negative ^^ decide (a < 0))
  | .infinity first, .infinity second => .infinity (first ^^ second)
  | _, _ => .nan

def minimum : Double → Double → Double
  | .nan, _ => .nan
  | _, .nan => .nan
  | .finite a, .finite b => .finite (min a b)
  | .infinity true, _ => .infinity true
  | _, .infinity true => .infinity true
  | .infinity false, other => other
  | other, .infinity false => other

/-- `a < b`, which no NaN is part of. -/
def less : Double → Double → Bool
  | .nan, _ => false
  | _, .nan => false
  | .finite a, .finite b => a < b
  | .finite _, .infinity negative => !negative
  | .infinity negative, .finite _ => negative
  | .infinity first, .infinity second => first && !second

/-- `Math.round`: the nearest integer, the larger of two. -/
def mathRound : Double → Double
  | .finite value => .finite ⌊value + 1 / 2⌋
  | other => other

/-- `2 ** n` -/
def twoPow (n : ℕ) : Double := if n < 1024 then .finite (2 ^ n) else .infinity false

def finite? : Double → Option ℚ
  | .finite value => some value
  | _ => none

def AtMost (bound : ℚ) (d : Double) : Prop := ∃ value, d = .finite value ∧ value ≤ bound

def AtLeast (bound : ℚ) : Double → Prop
  | .finite value => bound ≤ value
  | .infinity negative => negative = false
  | .nan => False

/-! ### Bounds of the results -/

theorem nearest_natCast {n : ℕ} (small : n < 2 ^ 53) : nearest n = .finite n := by
  have bounded : ¬(2 : ℚ) ^ 1024 ≤ |(n : ℚ)| := by
    have narrow : (n : ℚ) < 2 ^ 53 := by exact_mod_cast small
    rw [abs_of_nonneg (Nat.cast_nonneg n), not_le]
    exact narrow.trans_le (pow_le_pow_right₀ one_le_two (by norm_num))
  rw [nearest, roundPlaces_natCast small, if_neg bounded]

theorem nearest_mono {q r value : ℚ} (nonneg : 0 ≤ q) (le : q ≤ r)
    (rounded : nearest r = .finite value) :
    nearest q = .finite (roundPlaces q) ∧ roundPlaces q ≤ value := by
  unfold nearest at rounded
  split at rounded
  · cases rounded
  next small =>
    obtain rfl : roundPlaces r = value := by simpa using rounded
    have ordered := roundPlaces_mono nonneg le
    rw [abs_of_nonneg ((roundPlaces_nonneg nonneg).trans ordered)] at small
    refine ⟨?_, ordered⟩
    unfold nearest
    rw [abs_of_nonneg (roundPlaces_nonneg nonneg), if_neg (fun large => small (large.trans ordered))]

theorem nearest_atMost {q : ℚ} {n : ℕ} (small : n < 2 ^ 53) (nonneg : 0 ≤ q) (le : q ≤ n) :
    (nearest q).AtMost n := by
  obtain ⟨finite, bounded⟩ := nearest_mono nonneg le (nearest_natCast small)
  exact ⟨_, finite, bounded⟩

theorem nearest_atLeast {bound q : ℚ} (exact : roundPlaces bound = bound) (nonneg : 0 ≤ bound)
    (le : bound ≤ q) : (nearest q).AtLeast bound := by
  have ordered := roundPlaces_mono nonneg le
  rw [exact] at ordered
  unfold nearest
  split
  · exact decide_eq_false (nonneg.trans le).not_gt
  · exact ordered

theorem add_comm (first second : Double) : first.add second = second.add first := by
  cases first <;> cases second <;> simp only [add, Rat.add_comm]
  next left right => cases left <;> cases right <;> rfl

theorem add_atLeast {bound : ℚ} {first second : Double} (exact : roundPlaces bound = bound)
    (nonneg : 0 ≤ bound) (left : first.AtLeast bound) (right : second.AtLeast 0) :
    (first.add second).AtLeast bound := by
  cases first with
  | nan => exact left.elim
  | infinity negative =>
    obtain rfl : negative = false := left
    cases second with
    | nan => exact right.elim
    | infinity other =>
      obtain rfl : other = false := right
      rfl
    | finite other => rfl
  | finite value =>
    cases second with
    | nan => exact right.elim
    | infinity other =>
      obtain rfl : other = false := right
      rfl
    | finite other =>
      have lower : bound ≤ value := left
      have rest : 0 ≤ other := right
      exact nearest_atLeast exact nonneg (by linarith)

end Double

end Tvic
