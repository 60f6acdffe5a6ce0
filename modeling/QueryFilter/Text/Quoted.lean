import QueryFilter.Text.Class

/-!
# Quoted texts

How a text is shown inside a message: in single quotes, or in double quotes if it
has single quotes and no double ones. The quote in use and the backslash are
escaped by a backslash, and so are line feed, carriage return and tab; other
unprintable characters are written by their code point, in two, four or eight
lower-case hexadecimal digits.
-/

namespace QueryFilter.Text.Quoted

/-- The single quote. -/
def single : Char := '\x27'

/-- The double quote. -/
def double : Char := '\x22'

/-- The quote around a text. -/
def quoteFor (cs : List Char) : Char :=
  if single ∈ cs ∧ double ∉ cs then double else single

/-- The last `width` lower-case hexadecimal digits of `n`. -/
def hexDigits (width n : Nat) : List Char :=
  let digits := Nat.toDigits 16 n
  List.replicate (width - digits.length) '0' ++ digits

/-- A character between two `quote`s. -/
def encodeChar (quote c : Char) : List Char :=
  if c = quote ∨ c = '\\' then ['\\', c]
  else if c = '\n' then ['\\', 'n']
  else if c = '\r' then ['\\', 'r']
  else if c = '\t' then ['\\', 't']
  else if isPrintable c then [c]
  else if c.toNat < 0x100 then '\\' :: 'x' :: hexDigits 2 c.toNat
  else if c.toNat < 0x10000 then '\\' :: 'u' :: hexDigits 4 c.toNat
  else '\\' :: 'U' :: hexDigits 8 c.toNat

/-- The quoted form of a text. -/
def encode (cs : List Char) : List Char :=
  let quote := quoteFor cs
  quote :: cs.flatMap (encodeChar quote) ++ [quote]

end QueryFilter.Text.Quoted

namespace QueryFilter.Text

/-- The quoted form of a string. -/
def quoted (s : String) : String :=
  String.ofList (Quoted.encode s.toList)

end QueryFilter.Text
