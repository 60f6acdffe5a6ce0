import QueryFilter.Number.Double
import Mathlib.Algebra.Order.Field.Power
import Mathlib.Data.Rat.Floor
import Mathlib.Tactic.FieldSimp
import Mathlib.Tactic.Linarith
import Mathlib.Tactic.Positivity
import Mathlib.Tactic.Ring

/-!
# Nearest numbers

What it means for a member of the binary format to be the nearest one to a rational number
(`FiniteDouble.IsNearest`): no other is nearer, and of two equally near ones it is the one with
the even mantissa.

Distances are compared in units of `2 ^ (-1074)` and without signs
(`FiniteDouble.IsNearestUnits`), where the members of the format are natural numbers.

* `FiniteDouble.units_grid`: a member is on the grid of a shift, or it is smaller than all
  mantissas of full length there;
* `FiniteDouble.IsNearestUnits.isNearest`: numbers of the other sign do not matter;
* `FiniteDouble.IsNearest.unique`: of each sign, at most one member is the nearest one;
* `Double.IsRounded`: what a number becomes in the format, which is infinite from `Double.limit` on.
-/

namespace QueryFilter

/-- A sign as a factor. -/
def signFactor (negative : Bool) : ℚ :=
  if negative then -1 else 1

@[simp]
theorem signFactor_mul_self (negative : Bool) : signFactor negative * signFactor negative = 1 := by
  cases negative <;> simp [signFactor]

@[simp]
theorem abs_signFactor (negative : Bool) : |signFactor negative| = 1 := by
  cases negative <;> simp [signFactor]

/-- The other sign is the opposite factor. -/
theorem signFactor_eq_neg_of_ne {a b : Bool} (h : a ≠ b) : signFactor a = -signFactor b := by
  cases a <;> cases b <;> simp_all [signFactor]

namespace FiniteDouble

/-- The number that a member of the format stands for. -/
def value (x : FiniteDouble) : ℚ :=
  signFactor x.negative * (x.units / 2 ^ 1074)

/-- Whether no member of the format is nearer to a number, and if another one is as near, the
    mantissa is even. -/
structure IsNearest (x : FiniteDouble) (q : ℚ) : Prop where
  le : ∀ y : FiniteDouble, |x.value - q| ≤ |y.value - q|
  even : ∀ y : FiniteDouble, y.value ≠ x.value → |y.value - q| = |x.value - q| → Even x.mantissa

/-- The same for the sizes of numbers, in units. -/
structure IsNearestUnits (x : FiniteDouble) (t : ℚ) : Prop where
  le : ∀ y : FiniteDouble, |(x.units : ℚ) - t| ≤ |(y.units : ℚ) - t|
  even : ∀ y : FiniteDouble, y.units ≠ x.units → |(y.units : ℚ) - t| = |(x.units : ℚ) - t| →
    Even x.mantissa

/-- Distances in units. -/
theorem abs_value_sub (x : FiniteDouble) (q : ℚ) :
    |x.value - q| = |x.units - signFactor x.negative * (q * 2 ^ 1074)| / 2 ^ 1074 := by
  have hpos : (0 : ℚ) < 2 ^ 1074 := by positivity
  rw [value, eq_div_iff hpos.ne']
  generalize (2 : ℚ) ^ 1074 = one at hpos
  have hfactor : (x.units : ℚ) - signFactor x.negative * (q * one) =
      signFactor x.negative * ((signFactor x.negative * (x.units / one) - q) * one) := by
    calc (x.units : ℚ) - signFactor x.negative * (q * one)
        = signFactor x.negative * signFactor x.negative * (x.units / one * one) -
            signFactor x.negative * (q * one) := by
          rw [signFactor_mul_self, one_mul, div_mul_cancel₀ _ hpos.ne']
      _ = signFactor x.negative * ((signFactor x.negative * (x.units / one) - q) * one) := by ring
  rw [hfactor, abs_mul, abs_signFactor, one_mul, abs_mul, abs_of_pos hpos]

/-- A number is smaller than all mantissas of full length with a larger shift. -/
theorem units_lt_of_shift_lt {x : FiniteDouble} {shift : ℕ} (h : x.shift < shift) :
    x.units < 2 ^ 52 * 2 ^ shift := by
  calc x.units < 2 ^ 53 * 2 ^ x.shift :=
        Nat.mul_lt_mul_of_pos_right x.mantissa_lt (Nat.two_pow_pos _)
    _ = 2 ^ 52 * 2 ^ (x.shift + 1) := by ring
    _ ≤ 2 ^ 52 * 2 ^ shift := by gcongr <;> omega

/-- A mantissa has its full length, unless its shift is the least one. -/
theorem le_units {x : FiniteDouble} (h : 0 < x.shift) : 2 ^ 52 * 2 ^ x.shift ≤ x.units :=
  Nat.mul_le_mul_right _ (x.normal.resolve_right h.ne')

/-- A number is on the grid of a shift, at a multiple of its mantissa, or it is smaller than all
    mantissas of full length there. -/
theorem units_grid (x : FiniteDouble) (shift : ℕ) :
    (∃ k, x.units = x.mantissa * k * 2 ^ shift) ∨
      0 < shift ∧ x.units < 2 ^ 52 * 2 ^ shift := by
  rcases Nat.lt_or_ge x.shift shift with h | h
  · exact .inr ⟨by omega, units_lt_of_shift_lt h⟩
  · refine .inl ⟨2 ^ (x.shift - shift), ?_⟩
    rw [mul_assoc, ← pow_add, Nat.sub_add_cancel h]
    rfl

/-- A number is told by its sign and its size. -/
theorem ext_units {x y : FiniteDouble} (hsign : x.negative = y.negative)
    (hunits : x.units = y.units) : x = y := by
  have hle : ∀ {x y : FiniteDouble}, x.units = y.units → x.shift ≤ y.shift := by
    intro x y h
    by_contra! hlt
    have hsmall := units_lt_of_shift_lt hlt
    have hfull := le_units (Nat.zero_lt_of_lt hlt)
    omega
  have hshift : x.shift = y.shift := le_antisymm (hle hunits) (hle hunits.symm)
  have hmantissa : x.mantissa = y.mantissa := by
    rw [units, units, hshift] at hunits
    exact Nat.mul_right_cancel (Nat.two_pow_pos _) hunits
  exact FiniteDouble.ext hsign hmantissa hshift

/-- What is nearest to a number of units among the sizes is nearest to the number of its own
    sign. -/
theorem IsNearestUnits.isNearest {x : FiniteDouble} {t : ℚ} (h : x.IsNearestUnits t) (ht : 0 ≤ t) :
    x.IsNearest (signFactor x.negative * (t / 2 ^ 1074)) := by
  have hpos : (0 : ℚ) < 2 ^ 1074 := by positivity
  -- From a number of the other sign, the distance is the sum of the sizes.
  have hdist : ∀ y : FiniteDouble, |y.value - signFactor x.negative * (t / 2 ^ 1074)| =
      (if y.negative = x.negative then |(y.units : ℚ) - t| else y.units + t) / 2 ^ 1074 := by
    intro y
    rw [abs_value_sub]
    generalize (2 : ℚ) ^ 1074 = one at hpos
    congr 1
    have hcancel : t / one * one = t := div_mul_cancel₀ _ hpos.ne'
    split
    next hsign =>
      rw [hsign, mul_assoc, hcancel, ← mul_assoc, signFactor_mul_self, one_mul]
    next hsign =>
      rw [signFactor_eq_neg_of_ne hsign, mul_assoc, hcancel, neg_mul, ← mul_assoc,
        signFactor_mul_self, one_mul, sub_neg_eq_add, abs_of_nonneg (by positivity)]
  have hsum : ∀ y : FiniteDouble, |(y.units : ℚ) - t| ≤ y.units + t := by
    intro y
    rw [abs_le]
    constructor <;> linarith [Nat.cast_nonneg (α := ℚ) y.units]
  refine ⟨fun y => ?_, fun y hne htie => ?_⟩
  · rw [hdist, hdist, if_pos rfl]
    refine div_le_div_of_nonneg_right ?_ hpos.le
    split
    · exact h.le y
    · exact (h.le y).trans (hsum y)
  · rw [hdist, hdist, if_pos rfl, div_left_inj' hpos.ne'] at htie
    have htie' : |(y.units : ℚ) - t| = |(x.units : ℚ) - t| := by
      refine le_antisymm ?_ (h.le y)
      split at htie
      · exact htie.le
      · exact (hsum y).trans htie.le
    refine h.even y (fun hunits => hne ?_) htie'
    -- Only zeros of different signs are equally far and equally large.
    split at htie
    next hsign => rw [value, value, hsign, hunits]
    next hsign =>
      have hzero : (x.units : ℚ) = 0 := by
        have hle : |(x.units : ℚ) - t| ≤ |((zero false).units : ℚ) - t| := h.le _
        rw [(units_eq_zero_iff (zero false)).2 rfl, Nat.cast_zero, zero_sub, abs_neg,
          abs_of_nonneg ht] at hle
        rw [hunits] at htie
        linarith [Nat.cast_nonneg (α := ℚ) x.units]
      rw [value, value, hunits, hzero, zero_div, mul_zero, mul_zero]

/-- Between two numbers of one sign with even mantissas lies another one. -/
theorem exists_units_between {x y : FiniteDouble} (hx : Even x.mantissa) (hy : Even y.mantissa)
    (h : x.units < y.units) :
    ∃ z : FiniteDouble, z.negative = x.negative ∧ x.units < z.units ∧ z.units < y.units := by
  have hpos : 0 < 2 ^ x.shift := Nat.two_pow_pos _
  have hunits : x.units = x.mantissa * 2 ^ x.shift := rfl
  have hlt : x.mantissa + 1 < 2 ^ 53 := by
    have hmax : x.mantissa < 2 ^ 53 := x.mantissa_lt
    rw [Nat.even_iff] at hx
    omega
  refine ⟨⟨x.negative, x.mantissa + 1, x.shift, hlt, x.shift_le,
    x.normal.imp_left Nat.le_succ_of_le⟩, rfl, ?_, ?_⟩
  · rw [hunits]
    exact Nat.mul_lt_mul_of_pos_right (Nat.lt_succ_self _) hpos
  · change (x.mantissa + 1) * 2 ^ x.shift < y.units
    rcases units_grid y x.shift with ⟨k, hk⟩ | ⟨hshift, hsmall⟩
    · -- On the grid of the smaller number, the larger one is at an even place too.
      rw [hk, hunits, Nat.mul_lt_mul_right hpos] at h
      have hne : x.mantissa + 1 ≠ y.mantissa * k := by
        have heven : Even (y.mantissa * k) := hy.mul_right k
        rw [Nat.even_iff] at hx heven
        omega
      rw [hk]
      exact Nat.mul_lt_mul_of_pos_right (by omega) hpos
    · have hfull := le_units hshift
      omega

/-- Numbers of one sign with different sizes are different. -/
theorem value_ne_of_units_ne {x y : FiniteDouble} (hsign : x.negative = y.negative)
    (h : x.units ≠ y.units) : x.value ≠ y.value := by
  have hone : (2 : ℚ) ^ 1074 ≠ 0 := by positivity
  have hfactor : signFactor y.negative ≠ 0 := by
    intro hzero
    simpa [hzero] using abs_signFactor y.negative
  rw [value, value, hsign, Ne, mul_right_inj' hfactor, div_left_inj' hone, Nat.cast_inj]
  exact h

/-- A nearest number is not smaller than another one of its sign. -/
theorem IsNearest.not_units_lt {x y : FiniteDouble} {q : ℚ} (hx : x.IsNearest q)
    (hy : y.IsNearest q) (hsign : x.negative = y.negative) : ¬ x.units < y.units := by
  intro hlt
  have htie : |x.value - q| = |y.value - q| := le_antisymm (hx.le y) (hy.le x)
  have hne : y.value ≠ x.value := value_ne_of_units_ne hsign.symm hlt.ne'
  obtain ⟨z, hzsign, hxz, hzy⟩ :=
    exists_units_between (hx.even y hne htie.symm) (hy.even x hne.symm htie) hlt
  have hone : (0 : ℚ) < 2 ^ 1074 := by positivity
  have hle : |x.value - q| ≤ |z.value - q| := hx.le z
  rw [abs_value_sub, abs_value_sub, hzsign, div_le_div_iff_of_pos_right hone] at hle
  rw [abs_value_sub, abs_value_sub, hsign, div_left_inj' hone.ne', ← hsign] at htie
  generalize signFactor x.negative * (q * 2 ^ 1074) = t at hle htie
  have hxz : (x.units : ℚ) < z.units := by exact_mod_cast hxz
  have hzy : (z.units : ℚ) < y.units := by exact_mod_cast hzy
  -- The number is in the middle of the two, so that the one between them is nearer to it.
  rcases abs_eq_abs.1 htie with h | h
  · linarith
  · rw [abs_of_neg (by linarith : (x.units : ℚ) - t < 0)] at hle
    rcases le_abs.1 hle with h' | h' <;> linarith

/-- Of each sign, at most one number is the nearest one. -/
theorem IsNearest.unique {x y : FiniteDouble} {q : ℚ} (hx : x.IsNearest q) (hy : y.IsNearest q)
    (hsign : x.negative = y.negative) : x = y := by
  refine ext_units hsign (le_antisymm ?_ ?_)
  · exact Nat.le_of_not_lt (hy.not_units_lt hx hsign.symm)
  · exact Nat.le_of_not_lt (hx.not_units_lt hy hsign)

end FiniteDouble

namespace Double

/-- The least size that is too large for a finite number: half a unit of the last place above the
    largest one. -/
def limit : ℚ :=
  2 ^ 1024 - 2 ^ 970

/-- What a number of the given sign and size becomes in the format: the nearest member of that
    sign, or an infinite one from the limit on. -/
inductive IsRounded (negative : Bool) (size : ℚ) : Double → Prop
  | finite {x : FiniteDouble} (hsign : x.negative = negative)
      (hnearest : x.IsNearest (signFactor negative * size)) (hlt : size < limit) :
      IsRounded negative size (.finite x)
  | infinite (hle : limit ≤ size) : IsRounded negative size (.infinite negative)

/-- A number has a finite form if its size is below the limit and only then, and it is the nearest
    member of its sign. -/
theorem IsRounded.eq_finite_iff {negative : Bool} {size : ℚ} {x : Double}
    (h : IsRounded negative size x) {y : FiniteDouble} :
    x = .finite y ↔
      size < limit ∧ y.negative = negative ∧ y.IsNearest (signFactor negative * size) := by
  cases h with
  | finite hsign hnearest hlt =>
    refine ⟨?_, ?_⟩
    · intro heq
      obtain rfl := Double.finite.inj heq
      exact ⟨hlt, hsign, hnearest⟩
    · rintro ⟨-, hysign, hy⟩
      rw [hnearest.unique hy (hsign.trans hysign.symm)]
  | infinite hle =>
    exact ⟨fun heq => Double.noConfusion heq, fun hlt => absurd hlt.1 hle.not_gt⟩

/-- A number below the limit has a finite form. -/
theorem IsRounded.exists_eq_finite {negative : Bool} {size : ℚ} {x : Double}
    (h : IsRounded negative size x) (hlt : size < limit) : ∃ y, x = .finite y := by
  cases h with
  | @finite y _ _ _ => exact ⟨y, rfl⟩
  | infinite hle => exact absurd hlt hle.not_gt

end Double

end QueryFilter
