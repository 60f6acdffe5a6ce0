import QueryFilter.Number.Numeral

/-!
# Integers

An integer as it is written on a command line: blanks, a sign or none, decimal digits
of any script, with single underscores between them if need be, and blanks. The four
separators of ASCII are no blanks here.
-/

namespace QueryFilter

/-- Whether a character may stand around an integer. -/
def isIntegerBlank (c : Char) : Bool :=
  Text.isAsciiBlank c || (decide (127 ≤ c.toNat) && Text.isBlank c)

/-- The values of digits between which single underscores may stand. -/
def digitGroups? : List Char → Option (List Nat)
  | [] => none
  | [c] => (Text.digitValue? c).map fun d => [d]
  | c :: '_' :: cs =>
    match Text.digitValue? c, digitGroups? cs with
    | some d, some ds => some (d :: ds)
    | _, _ => none
  | c :: cs =>
    match Text.digitValue? c, digitGroups? cs with
    | some d, some ds => some (d :: ds)
    | _, _ => none

/-- The integer that a text is. It may not have more digits than are converted. -/
def readInteger? (s : String) : Option Int :=
  let sign := takeSign (Text.trimBy isIntegerBlank s.toList)
  match digitGroups? sign.2 with
  | some ds =>
    if ds.length ≤ digitLimit then some (signed sign.1 (ds.foldl (fun n d => 10 * n + d) 0)) else none
  | none => none

end QueryFilter
