import QueryFilter.Number.Double

/-!
# Decimal numbers

A decimal number is a natural number of tenths, hundredths and so on, or of tens,
hundreds and so on, with a sign: `digits * 10 ^ exponent`. It is what a numeral
says and what a printed number shows; as a number of the binary format it is the
nearest one (`Decimal.toDouble`).

The power of ten of a numeral may be larger than any memory, so that it is not
computed where the answer is known without it: from `10 ^ 309` on every number is
infinite, and below `10 ^ (-324)`, less than half a unit, every number is zero.
-/

namespace QueryFilter

/-- The number of decimal digits of `n`, which is 1 for zero. -/
def digitCount (n : Nat) : Nat :=
  (Nat.toDigits 10 n).length

/-- A number in decimal notation, `digits * 10 ^ exponent` with a sign. -/
@[ext]
structure Decimal where
  negative : Bool
  digits : Nat
  exponent : Int
deriving DecidableEq, Repr

namespace Decimal

/-- The number without its sign, as a ratio. -/
def ratio (x : Decimal) : Nat × Nat :=
  (x.digits * Nat.pow 10 x.exponent.toNat, Nat.pow 10 (-x.exponent).toNat)

/-- The number of the binary format nearest to a decimal number. -/
def toDouble (x : Decimal) : Double :=
  let top : Int := digitCount x.digits + x.exponent
  if x.digits = 0 ∨ top ≤ -324 then .finite (.zero x.negative)
  else if 310 ≤ top then .infinite x.negative
  else .ofRatio x.negative x.ratio.1 x.ratio.2

end Decimal

end QueryFilter
