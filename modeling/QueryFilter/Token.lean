import QueryFilter.Pattern.Match
import QueryFilter.Scalar
import QueryFilter.Tag

/-!
# Operator tokens

One value of a query field is a token: an operator sigil and a body, or a body
alone. `Token.read` takes a token apart, whatever the text is; a text without a
sigil is a plain value. The condition that a token puts on its field is a small
document, its `fragment`.

An equals sign after a sigil is dropped. It makes the comparisons `>` and `<`
inclusive and means nothing after other sigils. `Token.print` writes a token back
as a text that reads as the same token.

* `Sigil.ofChar?_char`: the sigils are told apart by their characters.
-/

namespace QueryFilter

/-- The characters that begin a token with an operator. -/
inductive Sigil where
  | not
  | startsWith
  | endsWith
  | contains
  | greater
  | less
deriving DecidableEq, Repr

namespace Sigil

/-- The character of a sigil. -/
def char : Sigil → Char
  | .not => '!'
  | .startsWith => '^'
  | .endsWith => '$'
  | .contains => '~'
  | .greater => '>'
  | .less => '<'

/-- The sigil of a character. -/
def ofChar? : Char → Option Sigil
  | '!' => some .not
  | '^' => some .startsWith
  | '$' => some .endsWith
  | '~' => some .contains
  | '>' => some .greater
  | '<' => some .less
  | _ => none

/-- The sigils are told apart by their characters. -/
@[simp] theorem ofChar?_char (s : Sigil) : ofChar? s.char = some s := by
  cases s <;> rfl

/-- The sigil as a text. -/
def text (s : Sigil) : String :=
  String.singleton s.char

end Sigil

/-- A token: the sigil (or nothing), the body, and the condition it puts on its field,
    which is a value under an operator and the options of a pattern. -/
structure Token where
  operator : String
  body : String
  value : Value
  filterKey : String
  options : Option String
deriving Inhabited

namespace Token

/-- The condition of a token as a document. Options that are empty are left out. -/
def fragment (t : Token) : Document :=
  let condition : Document := [(t.filterKey, t.value)]
  match t.options with
  | some o => if o = "" then condition else condition.assign Tag.options.text (.str o)
  | none => condition

/-- How tokens are read: which texts are coerced, and which characters are removed
    from the bodies of pattern operators. -/
structure Grammar where
  coercion : Coercion
  unsafeChars : Pattern

/-- A body without the characters that may not be in a pattern. -/
def sanitize (p : Pattern) (body : String) : String :=
  String.ofList (p.remove body.toList)

/-- The options of every pattern that a token asks for: letter case is ignored. -/
def patternOptions : String := "i"

/-- A condition on a field: an operator and its value. -/
def condition (operator body : String) (tag : Tag) (value : Value) : Token :=
  ⟨operator, body, value, tag.text, none⟩

/-- A condition that a pattern is found in a field. -/
def patternCondition (operator body pattern : String) : Token :=
  ⟨operator, body, .str pattern, Tag.regex.text, some patternOptions⟩

/-- A plain value: what a field is equal to, one of the values of a list, or, if it is
    empty and stands alone, that the field is there. -/
def plain (g : Grammar) (array : Bool) (s : String) : Token :=
  let value := (Scalar.read g.coercion s).toValue
  if array then condition "" s .oneOf value
  else if s = "" then condition "" s .present (.bool true)
  else condition "" s .eq value

/-- The token of a sigil, which an equals sign follows if `inclusive`, and a body. -/
def ofSigil (g : Grammar) (array : Bool) (sigil : Sigil) (inclusive : Bool) (body : String) :
    Token :=
  let value := (Scalar.read g.coercion body).toValue
  match sigil with
  | .not =>
    if array then condition sigil.text body .noneOf value
    else if body = "" then condition sigil.text body .present (.bool false)
    else condition sigil.text body .ne value
  | .greater => condition sigil.text body (if inclusive then .gte else .gt) value
  | .less => condition sigil.text body (if inclusive then .lte else .lt) value
  | .startsWith => patternCondition sigil.text body ("^" ++ sanitize g.unsafeChars body)
  | .endsWith => patternCondition sigil.text body (sanitize g.unsafeChars body ++ "$")
  | .contains => patternCondition sigil.text body (sanitize g.unsafeChars body)

/-- An equals sign at the start of what follows a sigil, and the body after it. -/
def takeInclusive : List Char → Bool × List Char
  | '=' :: cs => (true, cs)
  | cs => (false, cs)

/-- Reads a token; `array` says that it is one of the values of a list. -/
def read (g : Grammar) (array : Bool) (s : String) : Token :=
  match s.toList with
  | [] => plain g array s
  | c :: cs =>
    match Sigil.ofChar? c with
    | none => plain g array s
    | some sigil =>
      let rest := takeInclusive cs
      ofSigil g array sigil rest.1 (String.ofList rest.2)

/-- A text that reads as the token: the sigil, an equals sign if the comparison is
    inclusive or the body begins with one, and the body. -/
def print (t : Token) : String :=
  if t.operator = "" then t.body
  else if t.filterKey = Tag.gte.text ∨ t.filterKey = Tag.lte.text ∨ t.body.toList.head? = some '='
  then t.operator ++ "=" ++ t.body
  else t.operator ++ t.body

end Token

end QueryFilter
