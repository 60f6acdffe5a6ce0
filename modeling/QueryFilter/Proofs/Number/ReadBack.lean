import QueryFilter.Proofs.Number.Decimal
import Mathlib.Order.Interval.Set.UnorderedInterval

/-!
# Sizes that are read as a number

A decimal number is read as a member of the binary format if its sign is that of the member and
its size is one of those that become the member (`FiniteDouble.IsReadFrom`). These sizes are an
interval around the size of the member: between one of them and the size of the member are no
others (`IsReadFrom.between`). The interval is not too short: from a member to any other one it is
at least the part `2 ^ (-53)` of its own size (`size_le_mul_abs_value_sub`), so that all sizes
closer than half of this are in the interval (`isReadFrom_of_close`).
-/

namespace QueryFilter

namespace FiniteDouble

variable {x y : FiniteDouble} {q r s t : ℚ}

/-- The number that a member of the format stands for, without its sign. -/
def size (x : FiniteDouble) : ℚ :=
  x.units / 2 ^ 1074

/-- A member of the format is its sign and its size. -/
theorem value_eq (x : FiniteDouble) : x.value = signFactor x.negative * x.size := rfl

/-- A size is the number of units, by those of one. -/
theorem size_eq_div (x : FiniteDouble) : x.size = x.units / (Nat.pow 2 1074 : ℕ) := by
  unfold size
  -- The exponent does not matter, and no step computes the power.
  generalize 1074 = k
  change (x.units / 2 ^ k : ℚ) = x.units / (2 ^ k : ℕ)
  rw [Nat.cast_pow, Nat.cast_ofNat]

/-- The units of one. -/
theorem units_of_one_pos : 0 < Nat.pow 2 1074 := by
  generalize 1074 = k
  exact Nat.two_pow_pos k

/-- A size is not negative. -/
theorem size_nonneg (x : FiniteDouble) : 0 ≤ x.size :=
  div_nonneg (Nat.cast_nonneg _) (by positivity)

/-- Distances of numbers of one sign are those of their sizes. -/
theorem abs_signFactor_mul_sub (negative : Bool) (s t : ℚ) :
    |signFactor negative * s - signFactor negative * t| = |s - t| := by
  rw [← mul_sub, abs_mul, abs_signFactor, one_mul]

/-! ## Nearest numbers -/

/-- A member of the format is nearest to itself. -/
theorem isNearest_value (x : FiniteDouble) : x.IsNearest x.value := by
  refine ⟨fun y => ?_, fun y hne htie => ?_⟩
  · rw [sub_self, abs_zero]
    exact abs_nonneg _
  · rw [sub_self, abs_zero, abs_eq_zero, sub_eq_zero] at htie
    exact absurd htie hne

/-- What is nearest to a number is nearest to all numbers on the way to it: their distances to
    other members are less by at most what the way is shorter. -/
theorem IsNearest.between (h : x.IsNearest q) (hway : |x.value - r| + |r - q| = |x.value - q|) :
    x.IsNearest r := by
  refine ⟨fun y => ?_, fun y hne htie => ?_⟩
  · linarith [h.le y, abs_sub_le y.value r q]
  · refine h.even y hne (le_antisymm ?_ (h.le y))
    linarith [abs_sub_le y.value r q]

/-! ## The distance to other numbers -/

/-- Up to a larger member of the format it is at least one step of the last place. -/
theorem two_pow_shift_le_of_lt (h : x.units < y.units) :
    2 ^ x.shift ≤ y.units - x.units := by
  have hunits : x.units = x.mantissa * 2 ^ x.shift := rfl
  rcases units_grid y x.shift with ⟨k, hk⟩ | ⟨hshift, hsmall⟩
  · rw [hk, hunits] at h ⊢
    rw [← Nat.sub_mul]
    exact Nat.le_mul_of_pos_left _ (Nat.sub_pos_of_lt (Nat.lt_of_mul_lt_mul_right h))
  · have hfull := le_units hshift
    omega

/-- Between two members of the format of one sign it is at least the part `2 ^ (-53)` of the larger
    one. -/
theorem units_le_of_lt (h : x.units < y.units) : y.units ≤ 2 ^ 53 * (y.units - x.units) := by
  have hmantissa : x.mantissa ≤ 2 ^ 53 - 1 := Nat.le_pred_of_lt x.mantissa_lt
  have hle : x.units ≤ (2 ^ 53 - 1) * (y.units - x.units) := by
    calc x.units ≤ (2 ^ 53 - 1) * 2 ^ x.shift := Nat.mul_le_mul_right _ hmantissa
      _ ≤ (2 ^ 53 - 1) * (y.units - x.units) :=
        Nat.mul_le_mul_left _ (two_pow_shift_le_of_lt h)
  omega

/-- From a member to any other one it is at least the part `2 ^ (-53)` of its own size. -/
theorem size_le_mul_abs_value_sub (h : y.value ≠ x.value) :
    x.size ≤ 2 ^ 53 * |y.value - x.value| := by
  have hone : (0 : ℚ) < 2 ^ 1074 := by positivity
  by_cases hsign : y.negative = x.negative
  · have hunits : y.units ≠ x.units := by
      intro heq
      rw [value_eq, value_eq, hsign, size, size, heq] at h
      exact h rfl
    have hle : (x.units : ℚ) ≤ 2 ^ 53 * |(y.units : ℚ) - x.units| := by
      rcases Nat.lt_or_gt_of_ne hunits with hlt | hgt
      · have hle := units_le_of_lt hlt
        rw [abs_sub_comm, ← Nat.cast_sub hlt.le, Nat.abs_cast]
        exact_mod_cast hle
      · have hle := hgt.le.trans (units_le_of_lt hgt)
        rw [← Nat.cast_sub hgt.le, Nat.abs_cast]
        exact_mod_cast hle
    rw [value_eq, value_eq, hsign, abs_signFactor_mul_sub, size, size, ← sub_div, abs_div,
      abs_of_pos hone, mul_div_assoc', div_le_div_iff_of_pos_right hone]
    exact hle
  · -- To a number of the other sign it is at least as far as to zero.
    have hdist : |y.value - x.value| = y.size + x.size := by
      rw [value_eq, value_eq, signFactor_eq_neg_of_ne hsign, neg_mul, ← neg_add', abs_neg,
        ← mul_add, abs_mul, abs_signFactor, one_mul]
      exact abs_of_nonneg (add_nonneg y.size_nonneg x.size_nonneg)
    rw [hdist]
    linarith [x.size_nonneg, y.size_nonneg]

/-- A size is below the limit, by more than any size that is a part `2 ^ (-54)` of it. -/
theorem size_add_lt_limit (h : 2 ^ 54 * t ≤ x.size) : x.size + t < Double.limit := by
  have hone : (0 : ℚ) < 2 ^ 1074 := by positivity
  have hmantissa : (x.mantissa : ℚ) ≤ 2 ^ 53 - 1 := by
    have hlt : x.mantissa + 1 ≤ 2 ^ 53 := x.mantissa_lt
    have hlt : (x.mantissa : ℚ) + 1 ≤ 2 ^ 53 := by exact_mod_cast hlt
    linarith
  have hshift : (2 : ℚ) ^ x.shift ≤ 2 ^ 2045 := pow_le_pow_right₀ one_le_two x.shift_le
  have hunits : (x.units : ℚ) ≤ (2 ^ 53 - 1) * 2 ^ 2045 := by
    have hcast : (x.units : ℚ) = x.mantissa * 2 ^ x.shift := by
      rw [units, Nat.cast_mul]
      exact congrArg _ (Nat.cast_pow 2 x.shift)
    rw [hcast]
    exact mul_le_mul hmantissa hshift (by positivity) (by norm_num)
  have hscaled : 2 ^ 54 * (t * 2 ^ 1074) ≤ x.units := by
    rw [← mul_assoc, ← le_div_iff₀ hone]
    exact h
  have htop : (0 : ℚ) < 2 ^ 2045 := by positivity
  rw [← mul_lt_mul_iff_of_pos_right hone, ← Double.limitUnits_eq, Double.limitUnits, add_mul, size,
    div_mul_cancel₀ _ hone.ne']
  generalize t * 2 ^ 1074 = part at hscaled
  generalize (2 : ℚ) ^ 2045 = top at hunits htop ⊢
  linarith

/-! ## Sizes -/

/-- Whether numbers of a size and of the sign of `x` become `x`: the size is below the limit, and
    `x` is nearest. -/
structure IsReadFrom (x : FiniteDouble) (s : ℚ) : Prop where
  lt_limit : s < Double.limit
  isNearest : x.IsNearest (signFactor x.negative * s)

/-- A member of the format is read from its own size. -/
theorem isReadFrom_size (x : FiniteDouble) : x.IsReadFrom x.size := by
  refine ⟨?_, x.isNearest_value⟩
  have hlt : x.size + 0 < Double.limit := size_add_lt_limit (by rw [mul_zero]; exact x.size_nonneg)
  rwa [add_zero] at hlt

/-- The sizes that a member of the format is read from are an interval around its own. -/
theorem IsReadFrom.between (h : x.IsReadFrom s) (ht : t ∈ Set.uIcc s x.size) :
    x.IsReadFrom t := by
  rw [Set.mem_uIcc] at ht
  refine ⟨?_, h.isNearest.between ?_⟩
  · rcases ht with ht | ht
    · exact ht.2.trans_lt x.isReadFrom_size.lt_limit
    · exact ht.2.trans_lt h.lt_limit
  · rw [value_eq, abs_signFactor_mul_sub, abs_signFactor_mul_sub, abs_signFactor_mul_sub]
    rcases ht with ⟨hst, htx⟩ | ⟨hxt, hts⟩
    · rw [abs_of_nonneg (sub_nonneg.2 htx), abs_of_nonneg (sub_nonneg.2 hst),
        abs_of_nonneg (sub_nonneg.2 (hst.trans htx)), sub_add_sub_cancel]
    · rw [abs_of_nonpos (sub_nonpos.2 hxt), abs_of_nonpos (sub_nonpos.2 hts),
        abs_of_nonpos (sub_nonpos.2 (hxt.trans hts)), ← neg_add, sub_add_sub_cancel]

/-- A member of the format is read from all sizes that are less than half of the least distance
    away from its own. -/
theorem isReadFrom_of_close (h : 2 ^ 54 * |s - x.size| < x.size) : x.IsReadFrom s := by
  refine ⟨?_, ?_⟩
  · refine lt_of_le_of_lt ?_ (size_add_lt_limit h.le)
    linarith [le_abs_self (s - x.size)]
  · -- Any other member is more than twice as far away.
    have hfar : ∀ y : FiniteDouble, y.value ≠ x.value →
        |x.value - signFactor x.negative * s| < |y.value - signFactor x.negative * s| := by
      intro y hne
      have hgap := size_le_mul_abs_value_sub hne
      have htriangle := abs_sub_le y.value (signFactor x.negative * s) x.value
      rw [abs_sub_comm (signFactor x.negative * s) x.value] at htriangle
      have hdist : |x.value - signFactor x.negative * s| = |s - x.size| := by
        rw [value_eq, abs_signFactor_mul_sub, abs_sub_comm]
      rw [hdist] at htriangle ⊢
      linarith
    refine ⟨fun y => ?_, fun y hne htie => absurd htie (hfar y hne).ne'⟩
    by_cases hvalue : y.value = x.value
    · rw [hvalue]
    · exact (hfar y hvalue).le

end FiniteDouble

/-- A decimal number is read as a member of the format if it has its sign, and one of the sizes that
    the member is read from. -/
theorem Decimal.toDouble_eq_finite_iff {d : Decimal} {x : FiniteDouble} :
    d.toDouble = .finite x ↔ d.negative = x.negative ∧ x.IsReadFrom d.size := by
  rw [d.isRounded_toDouble.eq_finite_iff]
  refine ⟨?_, ?_⟩
  · rintro ⟨hlt, hsign, hnearest⟩
    exact ⟨hsign.symm, hlt, hsign ▸ hnearest⟩
  · rintro ⟨hsign, hread⟩
    exact ⟨hread.lt_limit, hsign.symm, hsign ▸ hread.isNearest⟩

end QueryFilter
