import Mathlib.Data.Int.Log
import Mathlib.Data.Rat.Floor
import Mathlib.Tactic.FieldSimp
import Mathlib.Tactic.Linarith
import Mathlib.Tactic.Ring

/-!
# Rounding to double precision

A finite double is the rational number it denotes. `round` is the rounding that the
conversions and the basic operations of IEEE 754 share: to 53 significant bits, and to the
even neighbour when two are as near. Numbers outside the normal range are not considered:
nothing here is smaller than the smallest normal double or larger than the largest.

Division followed by a ceiling is exact for a dividend of at most 53 bits: a quotient that
is no integer is too far from the next one for the rounding to reach it.
-/

namespace Binary64

/-- The nearest integer, and of two the even one. -/
def nearestEven (x : ℚ) : ℤ :=
  if x - ⌊x⌋ < 1 / 2 then ⌊x⌋
  else if 1 / 2 < x - ⌊x⌋ then ⌊x⌋ + 1
  else if ⌊x⌋ % 2 = 0 then ⌊x⌋ else ⌊x⌋ + 1

/-- The distance of neighbouring doubles in the binade of a number. -/
def ulp (x : ℚ) : ℚ := 2 ^ (Int.log 2 |x| - 52)

/-- The double nearest to a number. -/
def round (x : ℚ) : ℚ := nearestEven (x / ulp x) * ulp x

/-- The division of two doubles. -/
def div (x y : ℚ) : ℚ := round (x / y)

theorem nearestEven_intCast (n : ℤ) : nearestEven n = n := by
  simp [nearestEven]

theorem abs_nearestEven_sub_le (x : ℚ) : |(nearestEven x : ℚ) - x| ≤ 1 / 2 := by
  have lower := Int.floor_le x
  have upper := Int.lt_floor_add_one x
  unfold nearestEven
  split_ifs <;> push_cast <;> rw [abs_le] <;> constructor <;> linarith

theorem ulp_pos (x : ℚ) : 0 < ulp x := zpow_pos (by norm_num) _

/-- The relative size of the distance. -/
theorem ulp_mul_le {x : ℚ} (nonzero : x ≠ 0) : ulp x * 2 ^ 52 ≤ |x| := by
  have binade : (2 : ℚ) ^ Int.log 2 |x| ≤ |x| :=
    Int.zpow_log_le_self (by norm_num) (abs_pos.mpr nonzero)
  have shift : ulp x * 2 ^ 52 = (2 : ℚ) ^ Int.log 2 |x| := by
    rw [ulp, ← zpow_natCast, ← zpow_add₀ (by norm_num)]
    norm_num
  rw [shift]
  exact binade

theorem abs_round_sub_le (x : ℚ) : |round x - x| ≤ ulp x / 2 := by
  have pos := ulp_pos x
  have scaled : round x - x = (nearestEven (x / ulp x) - x / ulp x) * ulp x := by
    rw [round]
    field_simp
  calc |round x - x| = |(nearestEven (x / ulp x) : ℚ) - x / ulp x| * ulp x := by
        rw [scaled, abs_mul, abs_of_pos pos]
    _ ≤ 1 / 2 * ulp x := by gcongr; exact abs_nearestEven_sub_le _
    _ = ulp x / 2 := by ring

/-- In the binades below 53 bits the distance is a fraction of one. -/
theorem ulp_natCast {n : ℕ} (fits : n < 2 ^ 53) : ∃ k : ℕ, ulp n = 1 / 2 ^ k := by
  have small : Nat.log 2 n ≤ 52 := Nat.lt_succ_iff.mp (Nat.log_lt_of_lt_pow' (by omega) fits)
  refine ⟨52 - Nat.log 2 n, ?_⟩
  have exponent : (Nat.log 2 n : ℤ) - 52 = -((52 - Nat.log 2 n : ℕ) : ℤ) := by omega
  rw [ulp, Nat.abs_cast, Int.log_natCast, exponent, zpow_neg, zpow_natCast, one_div]

/-- Integers of at most 53 bits are doubles. -/
theorem round_natCast {n : ℕ} (fits : n < 2 ^ 53) : round n = n := by
  obtain ⟨k, unit⟩ := ulp_natCast fits
  have whole : (n : ℚ) / ulp n = ((n * 2 ^ k : ℕ) : ℤ) := by
    rw [unit]
    push_cast
    field_simp
  rw [round, whole, nearestEven_intCast, unit]
  push_cast
  field_simp

/-- Rounding moves a quotient by less than the distance of two quotients. -/
theorem abs_div_sub_lt {a b : ℕ} (fits : a < 2 ^ 53) (positive : 0 < b) (nonzero : 0 < a) :
    |div a b - (a : ℚ) / b| < 1 / b := by
  have bPos : (0 : ℚ) < b := by exact_mod_cast positive
  have aPos : (0 : ℚ) < a := by exact_mod_cast nonzero
  have quotient : 0 < (a : ℚ) / b := div_pos aPos bPos
  have size := ulp_mul_le quotient.ne'
  have error := abs_round_sub_le ((a : ℚ) / b)
  rw [abs_of_pos quotient] at size
  have small : (a : ℚ) / b < 2 ^ 53 * (1 / b) := by
    have fitsRat : (a : ℚ) < 2 ^ 53 := by exact_mod_cast fits
    rw [mul_one_div]
    gcongr
  calc |div a b - (a : ℚ) / b| ≤ ulp ((a : ℚ) / b) / 2 := error
    _ < 1 / b := by linarith

/-- A quotient that is no integer is at least one part of the divisor away from the
integers on both sides. -/
theorem ceil_gap {a b : ℕ} (positive : 0 < b) (rest : ¬ b ∣ a) :
    (⌈(a : ℚ) / b⌉ : ℚ) - 1 + 1 / b ≤ (a : ℚ) / b ∧
      (a : ℚ) / b ≤ ⌈(a : ℚ) / b⌉ - 1 / b := by
  have bPos : (0 : ℚ) < b := by exact_mod_cast positive
  set c := ⌈(a : ℚ) / b⌉ with ceiling
  have below : ((c - 1) * b : ℤ) < a := by
    have lower : (c : ℚ) - 1 < a / b := by
      have := Int.ceil_lt_add_one ((a : ℚ) / b)
      linarith
    rw [lt_div_iff₀ bPos] at lower
    exact_mod_cast lower
  have above : (a : ℤ) < c * b := by
    have upper : (a : ℚ) / b ≤ c := Int.le_ceil _
    rw [div_le_iff₀ bPos] at upper
    have le : (a : ℤ) ≤ c * b := by exact_mod_cast upper
    refine lt_of_le_of_ne le fun whole => rest ?_
    exact Int.natCast_dvd_natCast.mp ⟨c, by rw [whole, mul_comm]⟩
  have below' : ((c - 1) * b + 1 : ℚ) ≤ a := by exact_mod_cast below
  have above' : (a + 1 : ℚ) ≤ c * b := by exact_mod_cast above
  constructor
  · rw [le_div_iff₀ bPos, add_mul, one_div_mul_cancel bPos.ne']
    exact below'
  · rw [div_le_iff₀ bPos, sub_mul, one_div_mul_cancel bPos.ne']
    linarith

/-- The ceiling of a rounded quotient is that of the quotient. -/
theorem ceil_div_natCast {a b : ℕ} (fits : a < 2 ^ 53) (positive : 0 < b) :
    ⌈div a b⌉ = ⌈(a : ℚ) / b⌉ := by
  by_cases whole : b ∣ a
  · obtain ⟨q, rfl⟩ := whole
    have bound : q < 2 ^ 53 := lt_of_le_of_lt (Nat.le_mul_of_pos_left q positive) fits
    have exact_quotient : ((b * q : ℕ) : ℚ) / b = q := by
      push_cast
      field_simp
    rw [div, exact_quotient, round_natCast bound]
  · have nonzero : 0 < a := Nat.pos_of_ne_zero fun zero => whole (zero ▸ dvd_zero b)
    obtain ⟨lower, upper⟩ := ceil_gap positive whole
    obtain ⟨left, right⟩ := abs_lt.mp (abs_div_sub_lt fits positive nonzero)
    rw [Int.ceil_eq_iff]
    constructor <;> linarith

/-- The relative error of rounding. -/
theorem abs_round_sub_le_relative (x : ℚ) : |round x - x| ≤ |x| / 2 ^ 53 := by
  by_cases zero : x = 0
  · subst zero
    simp [round, nearestEven]
  · have size := ulp_mul_le zero
    calc |round x - x| ≤ ulp x / 2 := abs_round_sub_le x
      _ = ulp x * 2 ^ 52 / 2 ^ 53 := by ring
      _ ≤ |x| / 2 ^ 53 := by gcongr

/-- Different quotients of small numbers are rounded to different doubles. -/
theorem round_lt_round {a b p q : ℕ} (positive : 0 < b) (positive' : 0 < q)
    (fits : a * q + p * b < 2 ^ 53) (less : a * q < p * b) :
    round ((a : ℚ) / b) < round ((p : ℚ) / q) := by
  have bPos : (0 : ℚ) < b := by exact_mod_cast positive
  have qPos : (0 : ℚ) < q := by exact_mod_cast positive'
  have bqPos : (0 : ℚ) < b * q := mul_pos bPos qPos
  have lower := (abs_le.mp (abs_round_sub_le_relative ((p : ℚ) / q))).1
  have upper := (abs_le.mp (abs_round_sub_le_relative ((a : ℚ) / b))).2
  rw [abs_of_nonneg (by positivity)] at lower upper
  have fitsRat : ((a : ℚ) * q + p * b) < 2 ^ 53 := by exact_mod_cast fits
  have lessRat : (a : ℚ) * q + 1 ≤ p * b := by exact_mod_cast less
  -- the quotients differ by one part of `b * q`, and both errors together are smaller
  have gap : (a : ℚ) / b + 1 / (b * q) ≤ p / q := by
    rw [div_add_div _ _ bPos.ne' bqPos.ne', div_le_div_iff₀ (by positivity) qPos]
    nlinarith [mul_le_mul_of_nonneg_left lessRat (by positivity : (0 : ℚ) ≤ b * q)]
  have errors : ((a : ℚ) / b + p / q) / 2 ^ 53 < 1 / (b * q) := by
    rw [div_add_div _ _ bPos.ne' qPos.ne', div_div, div_lt_div_iff₀ (by positivity) bqPos]
    nlinarith [mul_lt_mul_of_pos_left fitsRat bqPos]
  have split : ((a : ℚ) / b + p / q) / 2 ^ 53 = (a : ℚ) / b / 2 ^ 53 + (p : ℚ) / q / 2 ^ 53 :=
    add_div _ _ _
  linarith

/-- A rounded quotient is compared with a rounded fraction as if neither were rounded. -/
theorem round_le_div_iff {a b p q : ℕ} (positive : 0 < b) (positive' : 0 < q)
    (fits : a * q + p * b < 2 ^ 53) : round ((p : ℚ) / q) ≤ div a b ↔ p * b ≤ a * q := by
  rw [div]
  obtain less | same | more := Nat.lt_trichotomy (a * q) (p * b)
  · have below := round_lt_round positive positive' fits less
    exact iff_of_false (not_le.mpr below) (by omega)
  · have bPos : (b : ℚ) ≠ 0 := by exact_mod_cast positive.ne'
    have qPos : (q : ℚ) ≠ 0 := by exact_mod_cast positive'.ne'
    have equal : (a : ℚ) / b = p / q := by
      rw [div_eq_div_iff bPos qPos]
      exact_mod_cast same
    exact iff_of_true (by rw [equal]) (by omega)
  · have above := round_lt_round positive' positive (by omega) more
    exact iff_of_true above.le (by omega)

end Binary64
