import QueryFilter.Text.Utf8

/-!
# Percent encoding

Octets in a text may be written as a percent sign and two hexadecimal digits. To
read such a text (`decode`), each longest run of ASCII characters is turned into
octets (`octets`) and these into characters; characters outside ASCII stand for
themselves and end a run. A percent sign without two digits after it stands for
itself. To write a text (`encode`), every octet other than those of letters, digits
and four marks is escaped.
-/

namespace QueryFilter.Text.Percent

/-- The value of a hexadecimal digit. -/
def hexValue? (c : Char) : Option Nat :=
  if '0' ≤ c ∧ c ≤ '9' then some (c.toNat - '0'.toNat)
  else if 'a' ≤ c ∧ c ≤ 'f' then some (c.toNat - 'a'.toNat + 10)
  else if 'A' ≤ c ∧ c ≤ 'F' then some (c.toNat - 'A'.toNat + 10)
  else none

/-- The upper-case hexadecimal digit of a number below 16. -/
def hexDigit (n : Nat) : Char :=
  if n < 10 then Char.ofNat ('0'.toNat + n) else Char.ofNat ('A'.toNat + (n - 10))

/-- The octet that two hexadecimal digits stand for. -/
def escaped? (high low : Char) : Option UInt8 :=
  match hexValue? high, hexValue? low with
  | some h, some l => some (UInt8.ofNat (16 * h + l))
  | _, _ => none

/-- The octets of a run of ASCII characters, escapes resolved. -/
def octets : List Char → List UInt8
  | [] => []
  | '%' :: high :: low :: rest =>
    match escaped? high low with
    | some b => b :: octets rest
    | none => UInt8.ofNat '%'.toNat :: octets (high :: low :: rest)
  | c :: rest => UInt8.ofNat c.toNat :: octets rest

/-- Reads the rest of a text, after the characters `run` (the latest one first) of
    an ASCII run. -/
def decodeRun (run : List Char) : List Char → List Char
  | [] => Utf8.decode (octets run.reverse)
  | c :: rest =>
    if c.toNat < 128 then decodeRun (c :: run) rest
    else Utf8.decode (octets run.reverse) ++ c :: decodeRun [] rest

/-- The text that a percent-encoded text stands for. -/
def decode (cs : List Char) : List Char :=
  decodeRun [] cs

/-- Whether an octet is written as its own character. -/
def isPlain (b : UInt8) : Bool :=
  let c := Char.ofNat b.toNat
  c.isAlphanum || c == '_' || c == '.' || c == '-' || c == '~'

/-- The written form of an octet. -/
def encodeOctet (b : UInt8) : List Char :=
  if isPlain b then [Char.ofNat b.toNat]
  else ['%', hexDigit (b.toNat / 16), hexDigit (b.toNat % 16)]

/-- The percent-encoded form of a text, in ASCII. -/
def encode (cs : List Char) : List Char :=
  (Utf8.encode cs).flatMap encodeOctet

end QueryFilter.Text.Percent
