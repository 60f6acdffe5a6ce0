import QueryFilter.Pattern.Basic
import QueryFilter.Value

/-!
# Validation

What can be wrong with an option or a setting (`Problem`), and where (`Flaw`); and how
a value is read as a truth value, which numbers and words may stand for (`readBool`).
Checks of several parts find all flaws (`Checked.and`, `Checked.collect`). A number in a
pattern that is too large to be read is no flaw: it ends the check of which it is a part,
whatever else is wrong (`Refusal.ofFlaws`).

* `Checked.and_eq_ok_iff`, `Checked.andAlso_eq_ok_iff`: when a check of several parts
  succeeds.
-/

namespace QueryFilter

/-- What is wrong with a part of a configuration. -/
inductive Problem where
  | unknownName
  | missing
  | notString
  | notSequence
  | notMapping
  | notNameSet
  | notRecord (name : String)
  | notBool
  | unclearBool
  | notPattern
  | invalidPattern (e : PatternError)
  | notBuilder (name : String) (canBeField : Bool)
deriving DecidableEq, Repr

/-- The names of the built-in builders in alphabetical order, as one text. -/
def builderNameList : String := "after, bbox, before, between, near"

/-- The message of an error in a pattern. -/
def PatternError.message : PatternError → String
  | .invalid => "Input should be a valid regular expression"
  | .tooManyDigits e => "Value error, " ++ e.message
  | .asciiAndUnicode => "Value error, ASCII and UNICODE flags are incompatible"
  | .overflow o => o.message

/-- The message of a problem. -/
def Problem.message : Problem → String
  | .unknownName => "Extra inputs are not permitted"
  | .missing => "Field required"
  | .notString => "Input should be a valid string"
  | .notSequence => "Input should be a valid tuple"
  | .notMapping => "Input should be a valid dictionary"
  | .notNameSet => "Input should be a valid frozenset"
  | .notRecord name => "Input should be a valid dictionary or instance of " ++ name
  | .notBool => "Input should be a valid boolean"
  | .unclearBool => "Input should be a valid boolean, unable to interpret input"
  | .notPattern => "Input should be a valid pattern"
  | .invalidPattern e => e.message
  | .notBuilder name true =>
    "Value error, custom '" ++ name ++ "' must be an output field name or a callable"
  | .notBuilder name false =>
    "Value error, custom '" ++ name ++ "' must be a callable; output field names only apply to " ++
      "built-in builders (" ++ builderNameList ++ ")"

/-- A problem, and the names that lead to the part that has it. -/
structure Flaw where
  path : List String
  problem : Problem
deriving DecidableEq, Repr

namespace Flaw

/-- A flaw inside a part called `name`. -/
def within (name : String) (f : Flaw) : Flaw :=
  { f with path := name :: f.path }

/-- The text of a flaw. -/
def text (f : Flaw) : String :=
  String.intercalate "." f.path ++ ": " ++ f.problem.message

end Flaw

/-- What was too large to be read, if that is the problem. -/
def Problem.overflow? : Problem → Option Overflow
  | .invalidPattern (.overflow o) => some o
  | _ => none

/-- How a check ends that does not succeed: with all flaws, or early, because something was
    too large to be read. -/
inductive Refusal where
  | flaws (fs : List Flaw)
  | overflow (o : Overflow)
deriving DecidableEq, Repr

/-- The end of a check that finds flaws. The first number that is too large hides them. -/
def Refusal.ofFlaws (fs : List Flaw) : Refusal :=
  match fs.findSome? fun f => f.problem.overflow? with
  | some o => .overflow o
  | none => .flaws fs

/-- The result of checking something: what it is, or all its flaws. -/
abbrev Checked (α : Type) := Except (List Flaw) α

namespace Checked

variable {α β : Type}

/-- A part with one flaw. -/
def flaw (path : List String) (problem : Problem) : Checked α :=
  .error [⟨path, problem⟩]

/-- The flaws that were found. -/
def flaws : Checked α → List Flaw
  | .ok _ => []
  | .error fs => fs

/-- What is to be made of parts that have yet to be checked. -/
def start (f : α) : Checked α :=
  .ok f

/-- Adds one more part to what is being checked, and finds the flaws of both. -/
def and (f : Checked (α → β)) (x : Checked α) : Checked β :=
  match f, x with
  | .ok f, .ok a => .ok (f a)
  | f, x => .error (f.flaws ++ x.flaws)

/-- Adds flaws that belong to no part. -/
def andAlso (x : Checked α) (more : List Flaw) : Checked α :=
  if more = [] then x else .error (x.flaws ++ more)

/-- Both parts are sound if what they make is. -/
theorem and_eq_ok_iff {f : Checked (α → β)} {x : Checked α} {b : β} :
    and f x = .ok b ↔ ∃ g a, f = .ok g ∧ x = .ok a ∧ g a = b := by
  cases f <;> cases x <;> simp [and]

/-- A check succeeds only without other flaws. -/
theorem andAlso_eq_ok_iff {x : Checked α} {more : List Flaw} {a : α} :
    andAlso x more = .ok a ↔ x = .ok a ∧ more = [] := by
  by_cases h : more = [] <;> simp [andAlso, h]

/-- Checks all parts of a list, and finds the flaws of all. -/
def collect (check : α → Checked β) : List α → Checked (List β)
  | [] => .ok []
  | a :: as => start List.cons |>.and (check a) |>.and (collect check as)

end Checked

/-- The words for truth values. -/
def boolWords : List (String × Bool) :=
  [("true", true), ("t", true), ("yes", true), ("y", true), ("on", true), ("1", true),
    ("false", false), ("f", false), ("no", false), ("n", false), ("off", false), ("0", false)]

/-- The truth value that a word stands for in any letter case. -/
def boolOfWord? (s : String) : Option Bool :=
  let low := String.ofList (s.toList.map Char.toLower)
  (boolWords.find? fun entry => entry.1 == low).map Prod.snd

/-- The truth value that 0 or 1 stands for. -/
def boolOfInt? (i : Int) : Option Bool :=
  if i = 0 then some false else if i = 1 then some true else none

/-- The truth value that one of the numbers 0 and 1 stands for. -/
def boolOfNumber? (x : FiniteDouble) : Option Bool :=
  if x.units = 0 then some false
  else if x.negative = false ∧ x.units = Nat.pow 2 1074 then some true
  else none

/-- The numbers beyond the whole numbers of 64 bits begin here. -/
def wordLimit : Nat := Nat.pow 2 63

/-- Whether an integer is a whole number of 64 bits, with a sign. -/
def isWord (i : Int) : Bool :=
  decide (-(wordLimit : Int) ≤ i) && decide (i < wordLimit)

/-- Whether a number is a whole number inside the limit. -/
def isWholeNumber (x : FiniteDouble) : Bool :=
  x.isIntegral && decide (x.units < wordLimit * Nat.pow 2 1074)

/-- Reads a truth value. Words and whole numbers of 64 bits may be unclear; other
    numbers and other values cannot be meant. -/
def readBool (v : Value) : Except Problem Bool :=
  let orUnclear (b : Option Bool) : Except Problem Bool :=
    match b with
    | some b => .ok b
    | none => .error .unclearBool
  match v with
  | .bool b => .ok b
  | .str s => orUnclear (boolOfWord? s)
  | .int i => if isWord i then orUnclear (boolOfInt? i) else .error .notBool
  | .num (.finite x) => if isWholeNumber x then orUnclear (boolOfNumber? x) else .error .notBool
  | _ => .error .notBool

end QueryFilter
