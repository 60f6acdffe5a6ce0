import QueryFilter.Pattern.Basic
import QueryFilter.Text.Percent

/-!
# Escapes and sets

The text of a pattern is read in pieces: a character, or a backslash together with the
character after it (`Piece`). This module reads what an escape stands for (`escape`), and
the sets of characters in brackets (`set`).

An escape may give a character by its name in Unicode. The names are not part of this
library; they are a table that is given to the reader (`CharNames`).
-/

namespace QueryFilter

/-- The characters that have a name, by their names, as far as these are written in any
    form that counts. -/
def CharNames := String → Option Char

/-- No names. -/
def CharNames.none : CharNames := fun _ => Option.none

namespace Pattern

/-! ## Pieces -/

/-- A piece of the text of a pattern. A backslash at the end of the text is left over. -/
inductive Piece where
  | plain (c : Char)
  | escaped (c : Char)
  | dangling
deriving DecidableEq, Repr

/-- The pieces of a text. -/
def pieces : List Char → List Piece
  | [] => []
  | ['\\'] => [.dangling]
  | '\\' :: c :: cs => .escaped c :: pieces cs
  | c :: cs => .plain c :: pieces cs

/-- The characters of a class at the start of pieces, up to `most` of them, and the pieces
    after them. -/
def takeIn (inClass : Char → Bool) : (most : Nat) → List Piece → List Char × List Piece
  | most + 1, .plain c :: ps =>
    if inClass c then
      let taken := takeIn inClass most ps
      (c :: taken.1, taken.2)
    else ([], .plain c :: ps)
  | _, ps => ([], ps)

/-- The digits at the start of pieces, and the pieces after them. -/
def takeDigits (ps : List Piece) : List Char × List Piece :=
  takeIn Char.isDigit ps.length ps

/-- The text before the first `stop`, which must be there, and the pieces after it. -/
def cutAt? (stop : Char) : List Piece → Option (List Char × List Piece)
  | [] => none
  | .dangling :: _ => none
  | .escaped c :: ps => (cutAt? stop ps).map fun (cs, rest) => ('\\' :: c :: cs, rest)
  | .plain c :: ps =>
    if c = stop then some ([], ps) else (cutAt? stop ps).map fun (cs, rest) => (c :: cs, rest)

/-! ## Escapes -/

/-- The marks for places in a text. -/
inductive PlaceMark where
  | caret
  | dollar
  | textStart
  | textEnd
  | wordEdge
  | notWordEdge
deriving DecidableEq, Repr

/-- What an escape stands for: something that a set may list, a place, or the text of a
    group. -/
inductive Escape where
  | item (i : SetItem)
  | place (m : PlaceMark)
  | group (number : Nat)
deriving DecidableEq, Repr

/-- Something that is read at the start of pieces, and the pieces after it. -/
abbrev Reading (α : Type) := Except PatternError (α × List Piece)

/-- Nothing can be read. -/
def refused {α : Type} : Reading α :=
  .error .invalid

/-- An error in front of pieces. A backslash that is left over is found before it. -/
def failBefore (e : PatternError) (rest : List Piece) : PatternError :=
  if rest = [.dangling] then .invalid else e

/-- The first number that is too large for a code point to be looked at. -/
def codeLimit : Nat := 0x80000000

/-- What a code point is as an item of a set. -/
def codeItem (n : Nat) : Except PatternError SetItem :=
  if n.isValidChar then .ok (.char (Char.ofNat n))
  else if n < 0x110000 then .ok (.surrogate n)
  else if n < codeLimit then .error .invalid
  else .error (.overflow .codePoint)

/-- Whether a character is an octal digit. -/
def isOctal (c : Char) : Bool :=
  decide ('0' ≤ c) && decide (c ≤ '7')

/-- The value of digits in a base, given the values of the digits. -/
def valueIn (base : Nat) (digits : List Nat) : Nat :=
  digits.foldl (fun n d => base * n + d) 0

/-- A code point given by exactly `count` hexadecimal digits. -/
def hexEscape (count : Nat) (ps : List Piece) : Reading Escape :=
  let taken := takeIn (fun c => (Text.Percent.hexValue? c).isSome) count ps
  if taken.1.length = count then
    match codeItem (valueIn 16 (taken.1.filterMap Text.Percent.hexValue?)) with
    | .ok i => .ok (.item i, taken.2)
    | .error e => .error (failBefore e taken.2)
  else refused

/-- A character given by octal digits. -/
def octalEscape (digits : List Char) (rest : List Piece) : Reading Escape :=
  let n := valueIn 8 (digits.map fun d => d.toNat - '0'.toNat)
  if n ≤ 0o377 then .ok (.item (.char (Char.ofNat n)), rest) else refused

/-- What an escape that begins with the digit `c` stands for. In a set it is a character
    given by up to three octal digits, and so it is after a zero. Elsewhere three octal
    digits give a character, and other digits, of which there are two at most, the number
    of a group. -/
def digitEscape (inSet : Bool) (c : Char) (ps : List Piece) : Reading Escape :=
  let octal := takeIn isOctal 2 ps
  let decimal := takeIn Char.isDigit 1 ps
  if inSet then if isOctal c then octalEscape (c :: octal.1) octal.2 else refused
  else if c = '0' ∨ isOctal c ∧ octal.1.length = 2 then octalEscape (c :: octal.1) octal.2
  else .ok (.group (valueOfDigits (c :: decimal.1)), decimal.2)

/-- The character that a name in braces gives. -/
def namedEscape (names : CharNames) : List Piece → Reading Escape
  | .plain '\x7b' :: ps =>
    match cutAt? '\x7d' ps with
    | some (name, rest) =>
      match if name = [] then none else names (String.ofList name) with
      | some c => .ok (.item (.char c), rest)
      | none => refused
    | none => refused
  | _ => refused

/-- What the escape of `c` stands for, and the pieces after it. Letters of ASCII without a
    meaning may not be escaped; any other character stands for itself. -/
def escape (names : CharNames) (inSet : Bool) (c : Char) (ps : List Piece) : Reading Escape :=
  let char (n : Nat) := .ok (.item (.char (Char.ofNat n)), ps)
  let named (name : CharClass) (negated : Bool) := .ok (.item (.named name negated), ps)
  let place (m : PlaceMark) := if inSet then refused else .ok (.place m, ps)
  match c with
  | 'd' => named .digit false
  | 'D' => named .digit true
  | 's' => named .blank false
  | 'S' => named .blank true
  | 'w' => named .word false
  | 'W' => named .word true
  | 'a' => char 7
  | 'f' => char 12
  | 'n' => char 10
  | 'r' => char 13
  | 't' => char 9
  | 'v' => char 11
  | 'x' => hexEscape 2 ps
  | 'u' => hexEscape 4 ps
  | 'U' => hexEscape 8 ps
  | 'N' => namedEscape names ps
  | 'b' => if inSet then char 8 else place .wordEdge
  | 'B' => place .notWordEdge
  | 'A' => place .textStart
  | 'Z' => place .textEnd
  | c =>
    if c.isDigit then digitEscape inSet c ps
    else if c.isAlpha then refused
    else .ok (.item (.char c), ps)

/-! ## Sets -/

/-- One member of a set, which is a code point or a named class. -/
def member (names : CharNames) : List Piece → Reading SetItem
  | .plain c :: ps => .ok (.char c, ps)
  | .escaped c :: ps =>
    match escape names true c ps with
    | .ok (.item i, rest) => .ok (i, rest)
    | .ok _ => refused
    | .error e => .error e
  | _ => refused

/-- The code point that a member is. -/
def code? : SetItem → Option Nat
  | .char c => some c.toNat
  | .surrogate n => some n
  | _ => none

/-- The range between two members, which must be code points in order. -/
def range? (first last : SetItem) : Option SetItem :=
  match code? first, code? last with
  | some first, some last => if first ≤ last then some (.range first last) else none
  | _, _ => none

/-- The items of a set up to its closing bracket, after the items `done` (the latest
    one first), and the pieces after the bracket. A bracket that comes first is a
    member, and a hyphen before the closing bracket is one. -/
def setItems (names : CharNames) :
    (fuel : Nat) → (done : List SetItem) → List Piece → Reading (List SetItem)
  | 0, _, _ => refused
  | fuel + 1, done, ps =>
    if ps.head? = some (.plain ']') ∧ done ≠ [] then .ok (done.reverse, ps.tail)
    else
      match member names ps with
      | .error e => .error e
      | .ok (i, .plain '-' :: .plain ']' :: rest) => .ok ((.char '-' :: i :: done).reverse, rest)
      | .ok (i, .plain '-' :: rest) =>
        match member names rest with
        | .error e => .error e
        | .ok (j, rest) =>
          match range? i j with
          | none => refused
          | some item => setItems names fuel (item :: done) rest
      | .ok (i, rest) => setItems names fuel (i :: done) rest

/-- What stands after an opening bracket, up to the closing one: whether the set is negated,
    and its items, each of them once. -/
def set (names : CharNames) (ps : List Piece) : Reading (Bool × List SetItem) :=
  let negated := decide (ps.head? = some (.plain '^'))
  let members := if negated then ps.tail else ps
  (setItems names members.length [] members).map fun (items, rest) =>
    ((negated, items.eraseDups), rest)

end Pattern

end QueryFilter
