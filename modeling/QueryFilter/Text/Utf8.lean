/-!
# UTF-8

The octets of a text, and the text of octets. Decoding never fails: octets that
are not the encoding of a character are replaced, one replacement character for
each maximal run of octets that begins some encoding and then goes wrong.

A decoder reads one octet at a time (`step`). Between two octets of one character
it remembers what the character needs (`Pending`): the bits so far, how many
octets are missing, and the range in which the next one must lie, which is how
overlong forms, surrogates and code points past the last one are ruled out at
the first octet that shows them.
-/

namespace QueryFilter.Text.Utf8

/-- Written for octets that do not encode a character. -/
def replacement : Char := '\uFFFD'

/-- The octets of a character. -/
def encodeChar (c : Char) : List UInt8 :=
  let n := c.toNat
  if n < 0x80 then [UInt8.ofNat n]
  else if n < 0x800 then [UInt8.ofNat (0xC0 + n / 64), UInt8.ofNat (0x80 + n % 64)]
  else if n < 0x10000 then
    [UInt8.ofNat (0xE0 + n / 4096), UInt8.ofNat (0x80 + n / 64 % 64), UInt8.ofNat (0x80 + n % 64)]
  else
    [UInt8.ofNat (0xF0 + n / 262144), UInt8.ofNat (0x80 + n / 4096 % 64),
      UInt8.ofNat (0x80 + n / 64 % 64), UInt8.ofNat (0x80 + n % 64)]

/-- The octets of a text. -/
def encode (cs : List Char) : List UInt8 :=
  cs.flatMap encodeChar

/-- A character whose first octets have been read: the bits they hold, how many
    octets are `missing` after the next one, and the range of the next one. -/
structure Pending where
  bits : Nat
  missing : Nat
  low : Nat
  high : Nat
deriving DecidableEq, Repr

/-- What the octet `b` starts: the characters written at once, and the character
    it leaves open. -/
def start (b : UInt8) : List Char × Option Pending :=
  let n := b.toNat
  if n < 0x80 then ([Char.ofNat n], none)
  else if n < 0xC2 then ([replacement], none)
  else if n < 0xE0 then ([], some ⟨n - 0xC0, 0, 0x80, 0xBF⟩)
  else if n = 0xE0 then ([], some ⟨0, 1, 0xA0, 0xBF⟩)
  else if n = 0xED then ([], some ⟨13, 1, 0x80, 0x9F⟩)
  else if n < 0xF0 then ([], some ⟨n - 0xE0, 1, 0x80, 0xBF⟩)
  else if n = 0xF0 then ([], some ⟨0, 2, 0x90, 0xBF⟩)
  else if n < 0xF4 then ([], some ⟨n - 0xF0, 2, 0x80, 0xBF⟩)
  else if n = 0xF4 then ([], some ⟨4, 2, 0x80, 0x8F⟩)
  else ([replacement], none)

/-- Reads one octet: the characters written, and the character left open. An octet
    that cannot continue the open character ends it and starts afresh. -/
def step (open? : Option Pending) (b : UInt8) : List Char × Option Pending :=
  match open? with
  | none => start b
  | some p =>
    if p.low ≤ b.toNat ∧ b.toNat ≤ p.high then
      let bits := p.bits * 64 + (b.toNat - 0x80)
      match p.missing with
      | 0 => ([Char.ofNat bits], none)
      | k + 1 => ([], some ⟨bits, k, 0x80, 0xBF⟩)
    else
      (replacement :: (start b).1, (start b).2)

/-- The characters of octets, after the first octets of a character. -/
def decodeFrom : Option Pending → List UInt8 → List Char
  | none, [] => []
  | some _, [] => [replacement]
  | open?, b :: bs => (step open? b).1 ++ decodeFrom (step open? b).2 bs

/-- The text of octets, with replacement characters for what encodes no character. -/
def decode (bs : List UInt8) : List Char :=
  decodeFrom none bs

end QueryFilter.Text.Utf8
