import QueryFilter.Number.Shortest
import QueryFilter.Text.Quoted
import QueryFilter.Value

/-!
# Literals

How a value is shown inside a message: texts quoted, numbers in their printed form,
lists in brackets and documents in braces, with a comma and a space between items.
-/

namespace QueryFilter.Value

mutual

/-- The literal of a value. -/
def literal : Value → String
  | .null => "None"
  | .bool true => "True"
  | .bool false => "False"
  | .int i => toString i
  | .num x => x.text
  | .str s => Text.quoted s
  | .list items => "[" ++ literalItems items ++ "]"
  | .doc entries => "\x7b" ++ literalEntries entries ++ "\x7d"

/-- The literals of list items, separated by commas. -/
def literalItems : List Value → String
  | [] => ""
  | [v] => literal v
  | v :: w :: vs => literal v ++ ", " ++ literalItems (w :: vs)

/-- The literals of entries, separated by commas. -/
def literalEntries : List (String × Value) → String
  | [] => ""
  | [(k, v)] => Text.quoted k ++ ": " ++ literal v
  | (k, v) :: e :: es => Text.quoted k ++ ": " ++ literal v ++ ", " ++ literalEntries (e :: es)

end

/-- The literal of a list of texts. -/
def literalTexts (ss : List String) : String :=
  literal (.list (ss.map .str))

end QueryFilter.Value
