import QueryFilter.Number.Decimal
import QueryFilter.Text.Class

/-!
# Numerals

A numeral is a text that says a number, in ASCII alone: blanks, a sign or none,
digits, perhaps a point with or without digits after it, perhaps an exponent, and
blanks. `Decimal.ofNumeral?` reads the number that it says, exactly;
`FiniteDouble.ofNumeral?` goes on to the nearest number of the binary format and
refuses a numeral that is too large to have a finite one.
-/

namespace QueryFilter

/-- The value of a run of ASCII digits. -/
def valueOfDigits (ds : List Char) : Nat :=
  ds.foldl (fun n d => 10 * n + (d.toNat - '0'.toNat)) 0

/-- The largest number of digits that an integer may be written with. -/
def digitLimit : Nat := 4300

/-- An integer is written with more digits than are converted; so many. -/
structure TooManyDigits where
  count : Nat
deriving DecidableEq, Repr

/-- The message of the error. -/
def TooManyDigits.message (e : TooManyDigits) : String :=
  s!"Exceeds the limit ({digitLimit} digits) for integer string conversion: value has " ++
    s!"{e.count} digits; use sys.set_int_max_str_digits() to increase the limit"

/-- A sign at the start of a text, and what follows it. -/
def takeSign : List Char → Bool × List Char
  | '-' :: cs => (true, cs)
  | '+' :: cs => (false, cs)
  | cs => (false, cs)

/-- A value with the sign `negative`. -/
def signed (negative : Bool) (n : Nat) : Int :=
  if negative then -(n : Int) else n

namespace Decimal

/-- The digits after a point, if there is a point, and what follows them. -/
def takeFraction : List Char → List Char × List Char
  | '.' :: cs => (cs.takeWhile Char.isDigit, cs.dropWhile Char.isDigit)
  | cs => ([], cs)

/-- The exponent at the start of a text, if there is one, and what follows it. A
    letter `e` without digits after it is no exponent and stays. -/
def takeExponent : List Char → Int × List Char
  | [] => (0, [])
  | c :: cs =>
    let sign := takeSign cs
    let ds := sign.2.takeWhile Char.isDigit
    if (c = 'e' ∨ c = 'E') ∧ ds ≠ [] then
      (signed sign.1 (valueOfDigits ds), sign.2.dropWhile Char.isDigit)
    else (0, c :: cs)

/-- The number that a numeral says. -/
def ofNumeral? (cs : List Char) : Option Decimal :=
  let sign := takeSign (cs.dropWhile Text.isAsciiBlank)
  let whole := sign.2.takeWhile Char.isDigit
  let fraction := takeFraction (sign.2.dropWhile Char.isDigit)
  let exponent := takeExponent fraction.2
  if whole ≠ [] ∧ exponent.2.all Text.isAsciiBlank then
    some ⟨sign.1, valueOfDigits (whole ++ fraction.1), exponent.1 - fraction.1.length⟩
  else none

end Decimal

/-- The number of the binary format that a numeral says. A numeral too large for a
    finite one has none. -/
def FiniteDouble.ofNumeral? (cs : List Char) : Option FiniteDouble :=
  match (Decimal.ofNumeral? cs).map Decimal.toDouble with
  | some (.finite x) => some x
  | _ => none

/-- Whether a text is a numeral with a finite value. -/
def isNumeral (s : String) : Bool :=
  (FiniteDouble.ofNumeral? s.toList).isSome

end QueryFilter
