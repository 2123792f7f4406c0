import Mathlib.Tactic.FieldSimp
import Sift.Binary64.Basic
import Sift.Proofs.Decimal.Order

/-!
# The decimal of a float is exact

`Binary64.toRat?` is the number that a float stands for, and the decimal that `Binary64.toDecimal?`
gives is this number, not a rounded one (`toRat_toDecimal?`).  A power of two below one is a power
of five with as many places, so the decimal ends; the halvings only save places.
-/

namespace Sift.Binary64

/-- The number that a float stands for, if it is finite. -/
def toRat? : Binary64 → Option ℚ
  | .finite negative significand exponent =>
    some ((if negative then -1 else 1) * significand * 2 ^ exponent)
  | _ => none

/-! ## Powers -/

/-- A negative power of two is a power of five with as many places. -/
theorem five_pow_mul_ten_zpow (n : ℕ) : (5 : ℚ) ^ n * 10 ^ (-(n : ℤ)) = 2 ^ (-(n : ℤ)) := by
  rw [zpow_neg, zpow_neg, zpow_natCast, zpow_natCast, show (10 : ℚ) = 5 * 2 by norm_num, mul_pow]
  field_simp

/-- The halvings done and those left over make up all that `halve` was asked for. -/
theorem exists_halvings (m count : ℕ) :
    ∃ done, (halve m count).2 + done = count ∧ m = (halve m count).1 * 2 ^ done := by
  induction count generalizing m with
  | zero => exact ⟨0, rfl, by simp [halve]⟩
  | succ count ih =>
    rw [halve]
    split
    case isTrue heven =>
      obtain ⟨done, hcount, hm⟩ := ih (m / 2)
      refine ⟨done + 1, by omega, ?_⟩
      calc m = m / 2 * 2 := by omega
        _ = (halve (m / 2) count).1 * 2 ^ done * 2 := by rw [← hm]
        _ = (halve (m / 2) count).1 * 2 ^ (done + 1) := by ring
    case isFalse => exact ⟨0, rfl, by simp⟩

/-! ## Decimals -/

theorem exactDecimal_eq (m : ℕ) (exponent : ℤ) :
    ((exactDecimal m exponent).1 : ℚ) * 10 ^ (-((exactDecimal m exponent).2 : ℤ)) =
      m * 2 ^ exponent := by
  rw [exactDecimal]
  split_ifs with hzero hwhole hsmall
  · simp [hzero]
  · obtain ⟨n, rfl⟩ := Int.eq_ofNat_of_zero_le hwhole
    simp
  all_goals
    obtain ⟨n, rfl⟩ : ∃ n : ℕ, exponent = -n := ⟨exponent.natAbs, by omega⟩
    rw [Int.natAbs_neg, Int.natAbs_natCast]
  · rw [Nat.pow_eq, Nat.cast_mul, Nat.cast_pow, Nat.cast_ofNat, mul_assoc, five_pow_mul_ten_zpow]
  · obtain ⟨done, hcount, hm⟩ := exists_halvings m n
    set odd := (halve m n).1
    set places := (halve m n).2
    have hpower : (2 : ℚ) ^ (-(places : ℤ)) = 2 ^ done * 2 ^ (-(n : ℤ)) := by
      rw [← hcount, ← zpow_natCast, ← zpow_add₀ two_ne_zero]
      congr 1
      omega
    calc ((odd * Nat.pow 5 places : ℕ) : ℚ) * 10 ^ (-(places : ℤ))
        = odd * (5 ^ places * 10 ^ (-(places : ℤ))) := by
          rw [Nat.pow_eq]
          push_cast
          ring
      _ = odd * 2 ^ done * 2 ^ (-(n : ℤ)) := by rw [five_pow_mul_ten_zpow, hpower, mul_assoc]
      _ = m * 2 ^ (-(n : ℤ)) := by
          rw [hm]
          push_cast
          ring

/-- The decimal of a float is the number that the float stands for. -/
theorem toRat_toDecimal? (x : Binary64) : x.toDecimal?.map Decimal.toRat = x.toRat? := by
  cases x with
  | nan => rfl
  | infinite negative => rfl
  | finite negative m exponent =>
    have hexact := exactDecimal_eq m exponent
    rw [toRat?, mul_assoc, ← hexact]
    cases negative <;> simp [toDecimal?, Decimal.toRat]

end Sift.Binary64
