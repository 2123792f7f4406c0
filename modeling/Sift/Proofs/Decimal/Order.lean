import Mathlib.Algebra.Order.Field.Power
import Mathlib.Algebra.Order.Ring.Rat
import Mathlib.Order.Compare
import Mathlib.Tactic.Positivity
import Mathlib.Tactic.Ring
import Sift.Decimal.Basic
import Sift.Proofs.Text.Digits

/-!
# Decimals are ordered by their numbers

`Decimal.toRat` is the number that a decimal stands for, and `Decimal.compare` orders decimals as
the numbers are ordered (`compare_eq`).  So the scale does not matter to the order, and neither
does the shortcut by which two numbers whose leading digits stand at different places are ordered
without writing either of them out.
-/

namespace Sift.Decimal

/-- The number that a decimal stands for. -/
def toRat (d : Decimal) : ℚ :=
  d.digits * 10 ^ (-d.scale)

/-! ## Comparing numbers -/

section Compare

variable {α β : Type} [LinearOrder α] [LinearOrder β]

theorem compare_congr {a b : α} {c d : β} (hlt : a < b ↔ c < d) (hgt : b < a ↔ d < c) :
    Ord.compare a b = Ord.compare c d := by
  cases h : Ord.compare c d with
  | lt => exact compare_lt_iff_lt.mpr (hlt.mpr (compare_lt_iff_lt.mp h))
  | gt => exact compare_gt_iff_gt.mpr (hgt.mpr (compare_gt_iff_gt.mp h))
  | eq =>
    have heq := compare_eq_iff_eq.mp h
    have hnlt : ¬a < b := fun hab => absurd (hlt.mp hab) (by simp [heq])
    have hngt : ¬b < a := fun hba => absurd (hgt.mp hba) (by simp [heq])
    exact compare_eq_iff_eq.mpr (le_antisymm (not_lt.mp hngt) (not_lt.mp hnlt))

theorem compare_mul_right {c : ℚ} (hc : 0 < c) (x y : ℚ) :
    Ord.compare (x * c) (y * c) = Ord.compare x y :=
  compare_congr (mul_lt_mul_iff_of_pos_right hc) (mul_lt_mul_iff_of_pos_right hc)

theorem compare_natCast (m n : ℕ) : Ord.compare (m : ℚ) (n : ℚ) = Ord.compare m n :=
  compare_congr Nat.cast_lt Nat.cast_lt

theorem compare_neg (x y : ℚ) : Ord.compare (-x) (-y) = Ord.compare y x :=
  compare_congr neg_lt_neg_iff neg_lt_neg_iff

end Compare

/-! ## Magnitudes -/

theorem ten_zpow_pos (n : ℤ) : (0 : ℚ) < 10 ^ n := by
  positivity

/-- A number whose leading digit stands at a lower place is less. -/
theorem lt_of_place_lt {m n : ℕ} {s t : ℤ} (hn : 0 < n)
    (h : (Text.digitCount m : ℤ) - s < Text.digitCount n - t) :
    (m : ℚ) * 10 ^ (-s) < n * 10 ^ (-t) := by
  have hm : (m : ℚ) < 10 ^ (Text.digitCount m : ℤ) := by
    exact_mod_cast Text.lt_pow_digitCount m
  have hle : (10 : ℚ) ^ ((Text.digitCount n : ℤ) - 1) ≤ n := by
    have hpos := Text.digitCount_pos n
    have hcast : ((Text.digitCount n - 1 : ℕ) : ℤ) = (Text.digitCount n : ℤ) - 1 := by omega
    rw [← hcast]
    exact_mod_cast Text.pow_digitCount_le hn
  have hten : (1 : ℚ) ≤ 10 := by norm_num
  calc (m : ℚ) * 10 ^ (-s)
      < 10 ^ (Text.digitCount m : ℤ) * 10 ^ (-s) :=
        (mul_lt_mul_iff_of_pos_right (ten_zpow_pos _)).mpr hm
    _ = 10 ^ ((Text.digitCount m : ℤ) - s) := by
        rw [← zpow_add₀ (by norm_num), sub_eq_add_neg]
    _ ≤ 10 ^ ((Text.digitCount n : ℤ) - 1 - t) := zpow_le_zpow_right₀ hten (by omega)
    _ = 10 ^ ((Text.digitCount n : ℤ) - 1) * 10 ^ (-t) := by
        rw [← zpow_add₀ (by norm_num), ← sub_eq_add_neg]
    _ ≤ n * 10 ^ (-t) := mul_le_mul_of_nonneg_right hle (le_of_lt (ten_zpow_pos _))

/-- A number written with more places than its scale asks for. -/
theorem mul_zpow_eq {m : ℕ} {s t : ℤ} (h : s ≤ t) :
    (m : ℚ) * 10 ^ (-s) = ((m * Nat.pow 10 (t - s).toNat : ℕ) : ℚ) * 10 ^ (-t) := by
  have hplaces : (10 : ℚ) ^ (t - s).toNat = 10 ^ (t - s) := by
    rw [← zpow_natCast, Int.toNat_of_nonneg (by omega)]
  have hshift : (10 : ℚ) ^ (-s) = 10 ^ (t - s) * 10 ^ (-t) := by
    rw [← zpow_add₀ (by norm_num)]
    congr 1
    ring
  rw [Nat.pow_eq, Nat.cast_mul, Nat.cast_pow, Nat.cast_ofNat, hplaces, hshift, mul_assoc]

theorem compareMagnitudes_eq {m n : ℕ} (hm : 0 < m) (hn : 0 < n) (s t : ℤ) :
    compareMagnitudes m s n t = Ord.compare ((m : ℚ) * 10 ^ (-s)) (n * 10 ^ (-t)) := by
  rw [compareMagnitudes]
  split_ifs with hlow hhigh hscale
  · exact (compare_lt_iff_lt.mpr (lt_of_place_lt hn (by omega))).symm
  · exact (compare_gt_iff_gt.mpr (lt_of_place_lt hm (by omega))).symm
  · rw [mul_zpow_eq hscale, compare_mul_right (ten_zpow_pos _), compare_natCast]
  · rw [mul_zpow_eq (m := n) (show t ≤ s by omega), compare_mul_right (ten_zpow_pos _),
      compare_natCast]

/-! ## Decimals -/

/-- The number of a decimal by its sign and its magnitude. -/
theorem toRat_of_nonneg {d : Decimal} (h : 0 ≤ d.digits) :
    d.toRat = (d.digits.natAbs : ℚ) * 10 ^ (-d.scale) := by
  have hcast : (d.digits.natAbs : ℚ) = d.digits := by
    rw [Nat.cast_natAbs, abs_of_nonneg h]
  rw [toRat, hcast]

theorem toRat_of_neg {d : Decimal} (h : d.digits < 0) :
    d.toRat = -((d.digits.natAbs : ℚ) * 10 ^ (-d.scale)) := by
  have hcast : (d.digits.natAbs : ℚ) = -d.digits := by
    rw [Nat.cast_natAbs, abs_of_neg h, Int.cast_neg]
  rw [toRat, hcast]
  ring

theorem toRat_pos_iff (d : Decimal) : 0 < d.toRat ↔ 0 < d.digits := by
  rw [toRat, mul_pos_iff_of_pos_right (ten_zpow_pos _), Int.cast_pos]

theorem toRat_nonneg_iff (d : Decimal) : 0 ≤ d.toRat ↔ 0 ≤ d.digits := by
  rw [toRat, mul_nonneg_iff_of_pos_right (ten_zpow_pos _), Int.cast_nonneg_iff]

theorem sign_cases (n : ℤ) :
    (n < 0 ∧ n.sign = -1) ∨ (n = 0 ∧ n.sign = 0) ∨ (0 < n ∧ n.sign = 1) := by
  rcases lt_trichotomy n 0 with h | h | h
  · exact Or.inl ⟨h, Int.sign_eq_neg_one_of_neg h⟩
  · exact Or.inr (Or.inl ⟨h, by rw [h]; rfl⟩)
  · exact Or.inr (Or.inr ⟨h, Int.sign_eq_one_of_pos h⟩)

theorem toRat_lt_of_sign_lt {a b : Decimal} (h : a.digits.sign < b.digits.sign) :
    a.toRat < b.toRat := by
  have hsigns : (a.digits < 0 ∧ 0 ≤ b.digits) ∨ (a.digits ≤ 0 ∧ 0 < b.digits) := by
    rcases sign_cases a.digits with ha | ha | ha <;>
      rcases sign_cases b.digits with hb | hb | hb <;> omega
  rcases hsigns with ⟨ha, hb⟩ | ⟨ha, hb⟩
  · have hneg : a.toRat < 0 := not_le.mp fun hle => by
      have := (toRat_nonneg_iff a).mp hle
      omega
    exact lt_of_lt_of_le hneg ((toRat_nonneg_iff b).mpr hb)
  · have hnonpos : a.toRat ≤ 0 := not_lt.mp fun hlt => by
      have := (toRat_pos_iff a).mp hlt
      omega
    exact lt_of_le_of_lt hnonpos ((toRat_pos_iff b).mpr hb)

/-- Decimals are ordered as the numbers that they stand for. -/
theorem compare_eq (a b : Decimal) : a.compare b = Ord.compare a.toRat b.toRat := by
  rw [compare]
  cases hsign : Ord.compare a.digits.sign b.digits.sign with
  | lt =>
    have hlt := toRat_lt_of_sign_lt (compare_lt_iff_lt.mp hsign)
    exact (compare_lt_iff_lt.mpr hlt).symm
  | gt =>
    have hgt := toRat_lt_of_sign_lt (compare_gt_iff_gt.mp hsign)
    exact (compare_gt_iff_gt.mpr hgt).symm
  | eq =>
    have hsame := compare_eq_iff_eq.mp hsign
    have ha := sign_cases a.digits
    have hb := sign_cases b.digits
    simp only
    split_ifs with hzero hpos
    · have hzero' : b.digits = 0 := by omega
      rw [toRat, toRat, hzero, hzero', Int.cast_zero, zero_mul, zero_mul, compare_eq_iff_eq.mpr rfl]
    · rw [compareMagnitudes_eq (by omega) (by omega), ← toRat_of_nonneg (by omega),
        ← toRat_of_nonneg (by omega)]
    · rw [compareMagnitudes_eq (by omega) (by omega), ← compare_neg, ← toRat_of_neg (by omega),
        ← toRat_of_neg (by omega)]

end Sift.Decimal
