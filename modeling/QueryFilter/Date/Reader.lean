import QueryFilter.Date.Iso
import QueryFilter.Number.Numeral
import QueryFilter.Value

/-!
# Reading dates

A date in a request is a timestamp or an ISO 8601 date, with blanks around it or not.
A timestamp is a whole number of milliseconds since the epoch, of which a fraction
is ignored; if the text has exactly ten characters with its blanks and no point, it
is a number of seconds.

A date outside the calendar is no date. A timestamp with more digits than the limit
is an error of its own (`TooManyDigits`).
-/

namespace QueryFilter

/-- A timestamp as it is written: its sign, the digits before the point, and whether
    there is a point. -/
structure Timestamp where
  negative : Bool
  digits : List Char
  hasPoint : Bool
deriving DecidableEq, Repr

namespace Timestamp

/-- The length of a timestamp in seconds. -/
def secondsLength : Nat := 10

/-- The timestamp that a text without blanks around it is. -/
def read? (cs : List Char) : Option Timestamp :=
  let sign := takeSign cs
  let ds := sign.2.takeWhile Char.isDigit
  if ds = [] then none
  else
    match sign.2.dropWhile Char.isDigit with
    | [] => some ⟨sign.1, ds, false⟩
    | '.' :: rest => if rest.all Char.isDigit then some ⟨sign.1, ds, true⟩ else none
    | _ => none

/-- The digits that say a number of milliseconds, in a text of `length` characters. -/
def milliDigits (t : Timestamp) (length : Nat) : List Char :=
  if length = secondsLength ∧ t.hasPoint = false then t.digits ++ ['0', '0', '0'] else t.digits

/-- The instant of a timestamp in a text of `length` characters. -/
def instant (t : Timestamp) (length : Nat) : Except TooManyDigits (Option Instant) :=
  let ds := t.milliDigits length
  if digitLimit < ds.length then .error ⟨ds.length⟩
  else .ok (Instant.ofEpochMillis? (signed t.negative (valueOfDigits ds)))

end Timestamp

/-- The instant of a date in a request, if the text is a date. -/
def Instant.ofText (s : String) : Except TooManyDigits (Option Instant) :=
  let text := Text.trim s.toList
  match Timestamp.read? text with
  | some t => t.instant s.toList.length
  | none => .ok (Iso.read? text)

/-- The instant of a value. Only texts are dates. -/
def Instant.ofValue (v : Value) : Except TooManyDigits (Option Instant) :=
  match v with
  | .str s => Instant.ofText s
  | _ => .ok none

end QueryFilter
