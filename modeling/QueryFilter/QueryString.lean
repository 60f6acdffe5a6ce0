import QueryFilter.Text.Percent
import QueryFilter.Text.Split
import QueryFilter.Value

/-!
# Query strings

A query string is a list of pairs of names and values, percent-encoded, joined by
`&` (`pairs`). It stands for a mapping from names to values in which the pairs of
one name are brought together, at the place of the first of them (`group`): their
values form a list if there are several, or if the name ends in the array suffix
`[]`, and a single text otherwise (`Field.ofValues`).

A mapping in which every field has the kind of value that its name and the number
of its values ask for is written as a query string by `encode`.
-/

namespace QueryFilter.QueryString

/-- The end of the name of a field that has several values. -/
def arraySuffix : List Char := ['[', ']']

/-- Whether a name ends in the array suffix. -/
def hasArraySuffix (name : String) : Bool :=
  arraySuffix.isSuffixOf name.toList

/-- A name without its last two characters if they are the array suffix. -/
def dropArraySuffix (name : String) : String :=
  if hasArraySuffix name then String.ofList (name.toList.take (name.toList.length - 2)) else name

/-- A part of a query string as text: plus signs are spaces, escapes are resolved. -/
def decodePart (cs : List Char) : String :=
  String.ofList (Text.Percent.decode (cs.map fun c => if c = '+' then ' ' else c))

/-- The name and the value of a piece of a query string, which ends the name at its
    first equals sign; without one the value is empty. -/
def decodePair (cs : List Char) : String × String :=
  let parts := Text.cut '=' cs
  (decodePart parts.1, decodePart (parts.2.getD []))

/-- The pairs of a query string. Question marks before it and empty pieces are
    skipped. -/
def pairs (query : List Char) : List (String × String) :=
  ((Text.splitOn '&' (query.dropWhile (· == '?'))).filter (· ≠ [])).map decodePair

/-- Brings together the values of each name, after the values `acc`. -/
def groupFrom (acc : Entries (List String)) : List (String × String) → Entries (List String)
  | [] => acc
  | (name, v) :: ps => groupFrom (acc.modify name [] (· ++ [v])) ps

/-- The values of each name, in order; the names in the order of their first pairs. -/
def group (ps : List (String × String)) : Entries (List String) :=
  groupFrom [] ps

/-- The value of a field: a list if there are several values or the name asks for a
    list, and a text otherwise. -/
def fieldValue (name : String) (values : List String) : Value :=
  match values with
  | [v] => if hasArraySuffix name then .list [.str v] else .str v
  | vs => .list (vs.map .str)

/-- The mapping that a query string stands for. -/
def decode (query : String) : Document :=
  (group (pairs query.toList)).map fun (name, values) => (name, fieldValue name values)

/-! ## Writing query strings -/

/-- The texts in a value: one for a text, and those of its items for a list. -/
def textsOf : Value → List String
  | .str s => [s]
  | .list items => items.filterMap Value.str?
  | _ => []

/-- A pair as a piece of a query string. -/
def encodePair (name value : String) : List Char :=
  Text.Percent.encode name.toList ++ '=' :: Text.Percent.encode value.toList

/-- The query string of a mapping. -/
def encode (fields : Document) : String :=
  String.ofList <| Text.joinWith ['&'] <|
    fields.flatMap fun (name, value) => (textsOf value).map (encodePair name)

/-- Whether a field has the kind of value that its name asks for: a text unless the
    name ends in the array suffix, or a list of texts, not empty, and of at least two
    unless the name ends in it. -/
def IsWellShapedField (name : String) : Value → Prop
  | .str _ => hasArraySuffix name = false
  | .list items =>
    (∀ v ∈ items, ∃ s, v = .str s) ∧ items ≠ [] ∧ (hasArraySuffix name = true ∨ 2 ≤ items.length)
  | _ => False

/-- Whether a mapping is one that a query string can stand for: no name occurs twice
    and every field is well shaped. -/
def IsWellShaped (fields : Document) : Prop :=
  fields.names.Nodup ∧ ∀ field ∈ fields, IsWellShapedField field.1 field.2

end QueryFilter.QueryString
