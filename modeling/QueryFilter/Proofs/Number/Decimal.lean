import QueryFilter.Number.Decimal
import QueryFilter.Proofs.Number.Rounding
import Mathlib.Data.Nat.Digits.Defs

/-!
# Rounding of decimal numbers

A decimal number becomes the member of the binary format that is nearest to it
(`Decimal.isRounded_toDouble`), also where the power of ten is not computed: a number is between
two powers of ten next to each other (`Decimal.size_lt`, `Decimal.le_size`), and the powers that
are not computed are beyond the limits of the format (`ten_pow_neg_lt`, `limit_le_ten_pow`).
-/

namespace QueryFilter

/-- A natural number has at least one digit. -/
theorem digitCount_pos (n : ℕ) : 0 < digitCount n :=
  Nat.length_toDigits_pos

/-- A natural number is below the power of ten of its digits. -/
theorem lt_pow_digitCount (n : ℕ) : n < 10 ^ digitCount n :=
  (Nat.length_toDigits_le_iff (by decide) (digitCount_pos n)).1 le_rfl

/-- A positive number is not below the power of ten of one digit less. -/
theorem pow_digitCount_le {n : ℕ} (hn : n ≠ 0) : 10 ^ (digitCount n - 1) ≤ n := by
  by_contra! hlt
  rcases Nat.eq_zero_or_pos (digitCount n - 1) with h | h
  · rw [h, pow_zero] at hlt
    omega
  · have hle : digitCount n ≤ digitCount n - 1 :=
      (Nat.length_toDigits_le_iff (by decide) h).2 hlt
    omega

/-- What is below `10 ^ (-324)` is less than half a unit. -/
theorem ten_pow_neg_lt : (10 : ℚ) ^ (-324 : ℤ) * 2 ^ 1074 < 1 / 2 := by
  have hpow : ∀ a b : ℕ, 2 ^ (a + 1) < 10 ^ b → (10 : ℚ) ^ (-(b : ℤ)) * 2 ^ a < 1 / 2 := by
    intro a b h
    have h : (2 : ℚ) ^ (a + 1) < 10 ^ b := by exact_mod_cast h
    rw [zpow_neg, zpow_natCast, inv_mul_eq_div, div_lt_div_iff₀ (by positivity) two_pos]
    rwa [one_mul, ← pow_succ]
  exact hpow 1074 324 (by decide +kernel)

/-- What is not below `10 ^ 309` is too large for a finite number. -/
theorem limit_le_ten_pow : Double.limit ≤ (10 : ℚ) ^ (309 : ℤ) := by
  have hpow : ∀ a b : ℕ, 2 ^ a < 10 ^ b → (2 : ℚ) ^ a ≤ 10 ^ (b : ℤ) := by
    intro a b h
    rw [zpow_natCast]
    exact_mod_cast h.le
  calc Double.limit ≤ 2 ^ 1024 := sub_le_self _ (by positivity)
    _ ≤ 10 ^ (309 : ℤ) := hpow 1024 309 (by decide +kernel)

/-- A power of ten as a quotient of powers with natural exponents. -/
theorem ten_zpow_eq_div (e : ℤ) : (10 : ℚ) ^ e = 10 ^ e.toNat / 10 ^ (-e).toNat := by
  conv_lhs => rw [← Int.toNat_sub_toNat_neg e]
  rw [zpow_sub₀ (by norm_num), zpow_natCast, zpow_natCast]

namespace Decimal

/-- The size of a decimal number. -/
def size (x : Decimal) : ℚ :=
  x.digits * 10 ^ x.exponent

/-- The size is the ratio. -/
theorem size_eq_ratio (x : Decimal) : x.size = (x.ratio.1 : ℚ) / x.ratio.2 := by
  have hpow : ∀ k, ((Nat.pow 10 k : ℕ) : ℚ) = 10 ^ k := fun k => Nat.cast_pow 10 k
  rw [size, ratio, Nat.cast_mul, hpow, hpow, ten_zpow_eq_div, mul_div_assoc]

/-- A number is below the power of ten of its leading digit. -/
theorem size_lt (x : Decimal) : x.size < 10 ^ (digitCount x.digits + x.exponent : ℤ) := by
  have hlt : (x.digits : ℚ) < 10 ^ digitCount x.digits := by
    exact_mod_cast lt_pow_digitCount x.digits
  rw [size, zpow_add₀ (by norm_num), zpow_natCast]
  exact mul_lt_mul_of_pos_right hlt (by positivity)

/-- A number that is not zero is not below the power of ten of one place less. -/
theorem le_size {x : Decimal} (hx : x.digits ≠ 0) :
    10 ^ (digitCount x.digits + x.exponent - 1 : ℤ) ≤ x.size := by
  have hpos := digitCount_pos x.digits
  have hle : (10 : ℚ) ^ (digitCount x.digits - 1) ≤ x.digits := by
    exact_mod_cast pow_digitCount_le hx
  have hexponent : (digitCount x.digits + x.exponent - 1 : ℤ) =
      (digitCount x.digits - 1 : ℕ) + x.exponent := by
    omega
  rw [size, hexponent, zpow_add₀ (by norm_num), zpow_natCast]
  exact mul_le_mul_of_nonneg_right hle (by positivity)

/-- A size is not negative. -/
theorem size_nonneg (x : Decimal) : 0 ≤ x.size :=
  mul_nonneg (Nat.cast_nonneg _) (by positivity)

/-- A decimal number is rounded. -/
theorem isRounded_toDouble (x : Decimal) : Double.IsRounded x.negative x.size x.toDouble := by
  have hten : (1 : ℚ) ≤ 10 := by norm_num
  rw [toDouble]
  split
  next hsmall =>
    refine Double.isRounded_zero x.negative x.size_nonneg ?_
    rcases hsmall with hzero | htop
    · rw [size, hzero, Nat.cast_zero, zero_mul, zero_mul]
      exact one_half_pos
    · have hlt : x.size < 10 ^ (-324 : ℤ) := x.size_lt.trans_le (zpow_le_zpow_right₀ hten htop)
      exact (mul_lt_mul_of_pos_right hlt (by positivity)).trans ten_pow_neg_lt
  next hsmall =>
    rw [not_or] at hsmall
    split
    next hlarge =>
      refine .infinite ?_
      calc Double.limit ≤ 10 ^ (309 : ℤ) := limit_le_ten_pow
        _ ≤ 10 ^ (digitCount x.digits + x.exponent - 1 : ℤ) :=
          zpow_le_zpow_right₀ hten (by omega)
        _ ≤ x.size := le_size hsmall.1
    next =>
      rw [size_eq_ratio]
      exact Double.isRounded_ofRatio x.negative x.ratio.1 (Nat.pow_pos (by decide))

end Decimal

end QueryFilter
