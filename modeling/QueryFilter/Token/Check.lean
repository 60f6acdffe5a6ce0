import QueryFilter.Token
import QueryFilter.Validation

/-!
# Checking tokens

A token may also be given as an object with the parts of a token, of which the options
may be left out. Other names in the object do not count.
-/

namespace QueryFilter.Token

/-- The name of the record of tokens in messages. -/
def recordName : String := "ParsedToken"

/-- A part that must be there. -/
def checkPart (entries : Document) (name : String) : Checked Value :=
  match entries.get? name with
  | some v => .ok v
  | none => .flaw [name] .missing

/-- A part that must be a text. -/
def checkText (entries : Document) (name : String) : Checked String :=
  match entries.get? name with
  | some (.str s) => .ok s
  | some _ => .flaw [name] .notString
  | none => .flaw [name] .missing

/-- A part that may be left out, and otherwise is nothing or a text. -/
def checkOptional (entries : Document) (name : String) : Checked (Option String) :=
  match entries.get? name with
  | some (.str s) => .ok (some s)
  | some .null => .ok none
  | some _ => .flaw [name] .notString
  | none => .ok none

/-- The token that a value describes. -/
def check (v : Value) : Checked Token :=
  match v with
  | .doc entries =>
    Checked.start Token.mk
      |>.and (checkText entries "operator")
      |>.and (checkText entries "body")
      |>.and (checkPart entries "value")
      |>.and (checkText entries "filter_key")
      |>.and (checkOptional entries "options")
  | _ => .flaw [] (.notRecord recordName)

end QueryFilter.Token
