/-!
# Binary floating point numbers

The numbers of the 64-bit binary format, without its bit patterns: a finite one
(`FiniteDouble`) is a sign and a natural number of units of `2 ^ (-1074)`, held as
a mantissa of at most 53 bits times a power of two, in exactly one way; beside
them are the two infinities and the mark that is not a number (`Double`).

A ratio of natural numbers becomes the nearest such number, and of two equally
near ones the one with the even mantissa (`Double.ofRatio`); what is too large for
the format becomes infinite. All of it is exact arithmetic on natural numbers; powers
are written as `Nat.pow`, which means the same whatever else is imported.

* `FiniteDouble.units_eq_zero_iff`: only the two zeros have no units.
-/

namespace QueryFilter

/-- A finite number of the format: `mantissa * 2 ^ shift` units of `2 ^ (-1074)`,
    with a sign. A mantissa below `2 ^ 52` has the least shift, so that equal
    numbers are equal as structures, except that zero has two signs. -/
@[ext]
structure FiniteDouble where
  negative : Bool
  mantissa : Nat
  shift : Nat
  mantissa_lt : mantissa < Nat.pow 2 53
  shift_le : shift ≤ 2045
  normal : Nat.pow 2 52 ≤ mantissa ∨ shift = 0
deriving DecidableEq

namespace FiniteDouble

/-- The size of a number in units of `2 ^ (-1074)`. -/
def units (x : FiniteDouble) : Nat :=
  x.mantissa * Nat.pow 2 x.shift

/-- Zero, of either sign. -/
def zero (negative : Bool) : FiniteDouble where
  negative
  mantissa := 0
  shift := 0
  mantissa_lt := by decide
  shift_le := by decide
  normal := Or.inr rfl

instance : Inhabited FiniteDouble := ⟨zero false⟩

/-- Only the two zeros have no units. -/
theorem units_eq_zero_iff (x : FiniteDouble) : x.units = 0 ↔ x = zero x.negative := by
  constructor
  · intro h
    have hm : x.mantissa = 0 := by
      rcases Nat.mul_eq_zero.1 h with h | h
      · exact h
      · exact absurd h (Nat.pos_iff_ne_zero.1 (Nat.pow_pos (by decide)))
    have hs : x.shift = 0 := by
      rcases x.normal with h | h
      · rw [hm] at h
        exact absurd h (by decide)
      · exact h
    ext <;> simp [zero, hm, hs]
  · intro h
    rw [h]
    simp [units, zero]

/-- Whether a number is an integer. -/
def isIntegral (x : FiniteDouble) : Bool :=
  x.units % Nat.pow 2 1074 == 0

end FiniteDouble

/-- A number of the format, or the mark for "not a number". -/
inductive Double where
  | finite (x : FiniteDouble)
  | infinite (negative : Bool)
  | nan
deriving DecidableEq, Inhabited

/-- The natural number nearest to `n / d`; of two equally near ones the even one. -/
def roundQuotient (n d : Nat) : Nat :=
  let q := n / d
  let r := n % d
  if 2 * r < d then q else if d < 2 * r then q + 1 else q + q % 2

namespace Double

/-- The number of a mantissa and a shift; one that the format has no room for is
    infinite. -/
def ofParts (negative : Bool) (mantissa shift : Nat) : Double :=
  if h : mantissa < Nat.pow 2 53 ∧ shift ≤ 2045 ∧ (Nat.pow 2 52 ≤ mantissa ∨ shift = 0) then
    .finite ⟨negative, mantissa, shift, h.1, h.2.1, h.2.2⟩
  else .infinite negative

/-- The number nearest to `n / d`, ties to the even mantissa. The shift leaves a
    mantissa of 53 bits, or is the least one; a mantissa that rounding carries to
    `2 ^ 53` is halved. -/
def ofRatio (negative : Bool) (n d : Nat) : Double :=
  let units := n * Nat.pow 2 1074
  let shift := (units / d).log2 - 52
  let mantissa := roundQuotient units (d * Nat.pow 2 shift)
  if mantissa = Nat.pow 2 53 then ofParts negative (Nat.pow 2 52) (shift + 1)
  else ofParts negative mantissa shift

end Double

end QueryFilter
