import QueryFilter.Number.Shortest
import QueryFilter.Text.Quoted
import QueryFilter.Text.Split
import QueryFilter.Value

/-!
# JSON texts

A value as an indented JSON text, one item or entry to a line. Characters are
written as they are, apart from the quote, the backslash and the controls.
-/

namespace QueryFilter.Value.Json

/-- A character of a JSON string. -/
def encodeChar (c : Char) : List Char :=
  if c = '\x22' ∨ c = '\\' then ['\\', c]
  else if c = '\n' then ['\\', 'n']
  else if c = '\r' then ['\\', 'r']
  else if c = '\t' then ['\\', 't']
  else if c = '\x08' then ['\\', 'b']
  else if c = '\x0c' then ['\\', 'f']
  else if c.toNat < 0x20 then '\\' :: 'u' :: Text.Quoted.hexDigits 4 c.toNat
  else [c]

/-- A JSON string. -/
def string (s : String) : List Char :=
  '\x22' :: s.toList.flatMap encodeChar ++ ['\x22']

/-- A JSON number; one that is not finite is written by name. -/
def number : Double → List Char
  | .finite x => x.text
  | .infinite false => "Infinity".toList
  | .infinite true => "-Infinity".toList
  | .nan => "NaN".toList

/-- A line break, and the indentation of the next line. -/
def lineBreak (indent depth : Nat) : List Char :=
  '\n' :: List.replicate (indent * depth) ' '

/-- Parts in brackets, each on a line of its own. -/
def block (indent depth : Nat) (left right : Char) (parts : List (List Char)) : List Char :=
  if parts.isEmpty then [left, right]
  else
    left :: lineBreak indent (depth + 1) ++
      Text.joinWith (',' :: lineBreak indent (depth + 1)) parts ++
        lineBreak indent depth ++ [right]

mutual

/-- The text of a value whose first line is indented to `depth`. -/
def encode (indent depth : Nat) : Value → List Char
  | .null => "null".toList
  | .bool true => "true".toList
  | .bool false => "false".toList
  | .int i => (toString i).toList
  | .num x => number x
  | .str s => string s
  | .list items => block indent depth '[' ']' (encodeItems indent (depth + 1) items)
  | .doc entries => block indent depth '\x7b' '\x7d' (encodeEntries indent (depth + 1) entries)

/-- The texts of list items. -/
def encodeItems (indent depth : Nat) : List Value → List (List Char)
  | [] => []
  | v :: vs => encode indent depth v :: encodeItems indent depth vs

/-- The texts of entries. -/
def encodeEntries (indent depth : Nat) : List (String × Value) → List (List Char)
  | [] => []
  | (k, v) :: es =>
    (string k ++ ':' :: ' ' :: encode indent depth v) :: encodeEntries indent depth es

end

end QueryFilter.Value.Json

namespace QueryFilter.Value

/-- The JSON text of a value, `indent` spaces to a level. -/
def json (indent : Nat) (v : Value) : String :=
  String.ofList (Json.encode indent 0 v)

end QueryFilter.Value
