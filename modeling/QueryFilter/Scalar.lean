import QueryFilter.Number.Numeral
import QueryFilter.Value

/-!
# Scalars

A text in a request may stand for a truth value or a number. Which of the two are
looked for is a setting (`Coercion`); a text that stands for neither is a scalar of
its own (`Scalar.read`).
-/

namespace QueryFilter

/-- Which texts are read as something else than themselves: `true` and `false` as
    truth values, numerals as numbers. -/
structure Coercion where
  toBoolean : Bool
  toNumber : Bool
deriving DecidableEq, Repr

/-- A value that a text stands for. Its numbers are finite. -/
inductive Scalar where
  | bool (b : Bool)
  | num (x : FiniteDouble)
  | text (s : String)
deriving DecidableEq

namespace Scalar

/-- A scalar as a value. -/
def toValue : Scalar → Value
  | .bool b => .bool b
  | .num x => .num (.finite x)
  | .text s => .str s

/-- The truth value that a text spells, in any mixture of letter case. -/
def bool? (s : String) : Option Bool :=
  let low := s.toList.map Char.toLower
  if low = "true".toList then some true
  else if low = "false".toList then some false
  else none

/-- The scalar that a text stands for: a truth value, a number, or itself, whichever
    of them applies first. -/
def read (coercion : Coercion) (s : String) : Scalar :=
  match if coercion.toBoolean then bool? s else none with
  | some b => .bool b
  | none =>
    match if coercion.toNumber then FiniteDouble.ofNumeral? s.toList else none with
    | some x => .num x
    | none => .text s

end Scalar

end QueryFilter
