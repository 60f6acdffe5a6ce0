import QueryFilter.Number.Numeral

/-!
# Shortest decimal numbers

A number of the binary format is printed with the fewest digits that read back to
it. For each count of digits, the decimal numbers of that count form a grid, and
only the two neighbours of the number on the grid can read back to it if any of
the grid does; the nearer one is tried first (`Decimal.onGrid?`). The first grid
with such a neighbour wins. A number always has its own exact decimal expansion,
`Decimal.expansion`, to fall back on.

The layout (`FiniteDouble.text`) is positional where the decimal point is close to
the digits, and has an exponent elsewhere.
-/

namespace QueryFilter

namespace Decimal

/-- The exact value of a number, as a decimal number. -/
def expansion (x : FiniteDouble) : Decimal :=
  ⟨x.negative, x.units * Nat.pow 5 1074, -1074⟩

/-- The position of the decimal point of the ratio `n / d`: the least `k` with
    `n / d < 10 ^ k`. -/
def pointOf (n d : Nat) : Int :=
  let k : Int := (digitCount n : Int) - digitCount d
  if d * Nat.pow 10 k.toNat ≤ n * Nat.pow 10 (-k).toNat then k + 1 else k

/-- The decimal number with exponent `e` that reads back to `x`, if one of the two
    neighbours of `x` does. The nearer neighbour is preferred, and of two equally
    near ones the even one. -/
def onGrid? (x : FiniteDouble) (e : Int) : Option Decimal :=
  let n := x.units * Nat.pow 10 (-e).toNat
  let d := Nat.pow 2 1074 * Nat.pow 10 e.toNat
  let near := roundQuotient n d
  let far := if near = n / d then near + 1 else near - 1
  [near, far].map (fun digits => (⟨x.negative, digits, e⟩ : Decimal)) |>.find? fun y =>
    y.toDouble = .finite x

/-- The first decimal number that reads back to `x`, with `count` more digits and
    the point at `k`, when the grid of exponent `e` has been tried last. -/
def searchGrids (x : FiniteDouble) : (count : Nat) → (e : Int) → Decimal
  | 0, _ => expansion x
  | count + 1, e => (onGrid? x (e - 1)).getD (searchGrids x count (e - 1))

/-- The decimal number with the fewest digits that reads back to `x`. Seventeen
    digits are enough for every number. -/
def shortest (x : FiniteDouble) : Decimal :=
  if x.units = 0 then ⟨x.negative, 0, 0⟩
  else searchGrids x 17 (pointOf x.units (Nat.pow 2 1074))

end Decimal

/-- How printed numbers are laid out: the decimal exponents of the leading digit
    that are written in positional notation are those from `least` up to below
    `limit`, and a written exponent has at least `exponentDigits` digits. -/
structure NumberLayout where
  least : Int
  limit : Int
  exponentDigits : Nat

/-- Positional from `0.0001` up to below `10 ^ 16`, and exponents of at least two
    digits. -/
def numberLayout : NumberLayout :=
  ⟨-4, 16, 2⟩

namespace Decimal

/-- The digits of a decimal number without the zeros at the end; zero has one. -/
def significant (x : Decimal) : List Char :=
  let ds := Nat.toDigits 10 x.digits
  if x.digits = 0 then ds else (ds.reverse.dropWhile (· == '0')).reverse

/-- The digits `ds` with the decimal point after the first `p` of them; there is a
    digit on both sides of it. -/
def positional (ds : List Char) (p : Int) : List Char :=
  if p ≤ 0 then '0' :: '.' :: List.replicate (-p).toNat '0' ++ ds
  else
    let whole := p.toNat
    if ds.length ≤ whole then ds ++ List.replicate (whole - ds.length) '0' ++ ['.', '0']
    else ds.take whole ++ '.' :: ds.drop whole

/-- The digits `ds` with the decimal point after the first of them and the decimal
    exponent `e`; no point follows a lone digit. -/
def scientific (layout : NumberLayout) (ds : List Char) (e : Int) : List Char :=
  let fraction := if ds.tail = [] then [] else '.' :: ds.tail
  let exponent := Nat.toDigits 10 e.natAbs
  let padding := List.replicate (layout.exponentDigits - exponent.length) '0'
  ds.take 1 ++ fraction ++ ['e', if e < 0 then '-' else '+'] ++ padding ++ exponent

/-- The text of a decimal number. -/
def text (layout : NumberLayout) (x : Decimal) : List Char :=
  let ds := x.significant
  let p : Int := digitCount x.digits + x.exponent
  let body :=
    if x.digits = 0 then positional ds 1
    else if layout.least ≤ p - 1 ∧ p - 1 < layout.limit then positional ds p
    else scientific layout ds (p - 1)
  if x.negative then '-' :: body else body

end Decimal

/-- The printed form of a number: the fewest digits that read back to it. -/
def FiniteDouble.text (x : FiniteDouble) : List Char :=
  (Decimal.shortest x).text numberLayout

/-- The printed form of a number, also of one that is not finite. -/
def Double.text : Double → String
  | .finite x => String.ofList x.text
  | .infinite false => "inf"
  | .infinite true => "-inf"
  | .nan => "nan"

end QueryFilter
