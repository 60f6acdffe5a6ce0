import QueryFilter.Entries
import QueryFilter.Number.Double

/-!
# Values and documents

The values that requests, options and filters are made of (`Value`). A document, such
as a filter, is a list of values under names whose order counts. The values of
requests are told apart by what a field can be: given once, given several times, or
neither (`Value.classOf`).
-/

namespace QueryFilter

/-- A value of a request, of an option, or of a filter. -/
inductive Value where
  | null
  | bool (b : Bool)
  | int (i : Int)
  | num (x : Double)
  | str (s : String)
  | list (items : List Value)
  | doc (entries : List (String × Value))
deriving Inhabited, BEq

/-- A document, such as a filter: values under names. -/
abbrev Document := Entries Value

namespace Value

mutual

/-- Decides whether two values are equal. -/
def decEq : (v w : Value) → Decidable (v = w)
  | .null, .null => isTrue rfl
  | .bool b, .bool c => decidable_of_iff (b = c) (by simp)
  | .int i, .int j => decidable_of_iff (i = j) (by simp)
  | .num x, .num y => decidable_of_iff (x = y) (by simp)
  | .str s, .str t => decidable_of_iff (s = t) (by simp)
  | .list vs, .list ws =>
    match decEqItems vs ws with
    | isTrue h => isTrue (by rw [h])
    | isFalse h => isFalse (by simpa using h)
  | .doc es, .doc fs =>
    match decEqEntries es fs with
    | isTrue h => isTrue (by rw [h])
    | isFalse h => isFalse (by simpa using h)
  | .null, .bool _ | .null, .int _ | .null, .num _ | .null, .str _ | .null, .list _
  | .null, .doc _ | .bool _, .null | .bool _, .int _ | .bool _, .num _ | .bool _, .str _
  | .bool _, .list _ | .bool _, .doc _ | .int _, .null | .int _, .bool _ | .int _, .num _
  | .int _, .str _ | .int _, .list _ | .int _, .doc _ | .num _, .null | .num _, .bool _
  | .num _, .int _ | .num _, .str _ | .num _, .list _ | .num _, .doc _ | .str _, .null
  | .str _, .bool _ | .str _, .int _ | .str _, .num _ | .str _, .list _ | .str _, .doc _
  | .list _, .null | .list _, .bool _ | .list _, .int _ | .list _, .num _ | .list _, .str _
  | .list _, .doc _ | .doc _, .null | .doc _, .bool _ | .doc _, .int _ | .doc _, .num _
  | .doc _, .str _ | .doc _, .list _ => isFalse nofun

/-- Decides whether two lists of values are equal. -/
def decEqItems : (vs ws : List Value) → Decidable (vs = ws)
  | [], [] => isTrue rfl
  | [], _ :: _ | _ :: _, [] => isFalse nofun
  | v :: vs, w :: ws =>
    match decEq v w, decEqItems vs ws with
    | isTrue h, isTrue h' => isTrue (by rw [h, h'])
    | isFalse h, _ => isFalse fun e => h (List.cons.inj e).1
    | _, isFalse h => isFalse fun e => h (List.cons.inj e).2

/-- Decides whether two lists of entries are equal. -/
def decEqEntries : (es fs : List (String × Value)) → Decidable (es = fs)
  | [], [] => isTrue rfl
  | [], _ :: _ | _ :: _, [] => isFalse nofun
  | (k, v) :: es, (l, w) :: fs =>
    match decEq v w, decEqEntries es fs with
    | isTrue h, isTrue h' => decidable_of_iff (k = l) (by simp [h, h'])
    | isFalse h, _ => isFalse (by simp [h])
    | _, isFalse h => isFalse (by simp [h])

end

instance : DecidableEq Value := decEq

/-- The names of the kinds of values in messages. -/
def kindName : Value → String
  | .null => "NoneType"
  | .bool _ => "bool"
  | .int _ => "int"
  | .num _ => "float"
  | .str _ => "str"
  | .list _ => "list"
  | .doc _ => "dict"

/-- Whether a value counts as set where it is used as a flag: not null, false, a zero
    of either kind of number, or empty. -/
def isTruthy : Value → Bool
  | .null => false
  | .bool b => b
  | .int i => i != 0
  | .num (.finite x) => x.units != 0
  | .num _ => true
  | .str s => s != ""
  | .list items => !items.isEmpty
  | .doc entries => !entries.isEmpty

/-- The text of a string value. -/
def str? : Value → Option String
  | .str s => some s
  | _ => none

end Value

/-- The three kinds of request values: a field given once, a field given several
    times or as a list, and anything else, which no filter is made from. -/
inductive ValueClass where
  | scalar
  | list
  | other
deriving DecidableEq, Repr

/-- The kind of a request value. -/
def Value.classOf : Value → ValueClass
  | .str _ => .scalar
  | .list _ => .list
  | _ => .other

end QueryFilter
