import QueryFilter.Text.Table.Case
import QueryFilter.Text.Table.Digit
import QueryFilter.Text.Table.Identifier
import QueryFilter.Text.Table.Unprintable
import QueryFilter.Text.Table.Word

/-!
# Classes of characters

The classes of characters that the readers and printers of this library tell
apart, over all of Unicode where a text may come from a request: blanks, decimal
digits, word characters, the characters of identifiers, printable characters, and the
characters that differ in letter case alone (`variants`).

* `trim`: a text without the blanks around it;
* `isBlank_of_isAsciiBlank`: every blank of ASCII is a blank.
-/

namespace QueryFilter.Text

/-- Whether a code point lies in one of the ranges of a table. -/
def inRanges (table : List (Nat × Nat)) (n : Nat) : Bool :=
  table.any fun range => decide (range.1 ≤ n) && decide (n ≤ range.2)

/-- The blanks of ASCII: the space, and tab, line feed, vertical tab, form feed and
    carriage return. -/
def isAsciiBlank (c : Char) : Bool :=
  c == ' ' || (decide (9 ≤ c.toNat) && decide (c.toNat ≤ 13))

/-- The first and the last code point of each range of blanks. -/
def blankRanges : List (Nat × Nat) :=
  [(0x09, 0x0D), (0x1C, 0x20), (0x85, 0x85), (0xA0, 0xA0), (0x1680, 0x1680), (0x2000, 0x200A),
   (0x2028, 0x2029), (0x202F, 0x202F), (0x205F, 0x205F), (0x3000, 0x3000)]

/-- The blanks of Unicode, together with the four separators of ASCII. -/
def isBlank (c : Char) : Bool :=
  inRanges blankRanges c.toNat

/-- Every blank of ASCII is a blank. -/
theorem isBlank_of_isAsciiBlank {c : Char} (h : isAsciiBlank c = true) : isBlank c = true := by
  simp only [isAsciiBlank, Bool.or_eq_true, beq_iff_eq, Bool.and_eq_true, decide_eq_true_eq] at h
  rcases h with rfl | h
  · rfl
  · simp [isBlank, inRanges, blankRanges, h]

/-- The text without the characters around it that are in a class. -/
def trimBy (inClass : Char → Bool) (cs : List Char) : List Char :=
  ((cs.dropWhile inClass).reverse.dropWhile inClass).reverse

/-- The text without the blanks around it. -/
def trim (cs : List Char) : List Char :=
  trimBy isBlank cs

/-- Letters and numbers of any script, and the underscore. -/
def isWord (c : Char) : Bool :=
  if c.toNat < 128 then c.isAlphanum || c == '_' else inRanges Table.wordRanges c.toNat

/-- Whether an identifier may begin with a character. -/
def beginsIdentifier (c : Char) : Bool :=
  isWord c && !inRanges Table.numberRanges c.toNat || Table.identifierSigns.contains c.toNat

/-- Whether a text is an identifier. -/
def isIdentifier : List Char → Bool
  | [] => false
  | c :: cs =>
    beginsIdentifier c &&
      cs.all fun c => beginsIdentifier c || inRanges Table.identifierRanges c.toNat

/-- Whether a character has a printed form of its own. -/
def isPrintable (c : Char) : Bool :=
  if c.toNat < 127 then decide (32 ≤ c.toNat) else !inRanges Table.unprintableRanges c.toNat

/-- The value of a decimal digit of any script. -/
def digitValue? (c : Char) : Option Nat :=
  (Table.digitZeros.find? fun z => decide (z ≤ c.toNat) && decide (c.toNat < z + 10)).map
    (c.toNat - ·)

/-- The code point that a row of a table of shifts takes to `n`, if there is one. -/
def lowersTo (n : Nat) (row : Nat × Nat × Nat × Int) : Option Nat :=
  let source := ((n : Int) - row.2.2.2).toNat
  if row.1 ≤ source ∧ source ≤ row.2.1 ∧ (source - row.1) % row.2.2.1 = 0 then some source else none

/-- The code point that a row of a table of shifts takes `n` to, if `n` is in the row. -/
def lowersFrom (n : Nat) (row : Nat × Nat × Nat × Int) : Option Nat :=
  if row.1 ≤ n ∧ n ≤ row.2.1 ∧ (n - row.1) % row.2.2.1 = 0 then
    some ((n : Int) + row.2.2.2).toNat
  else none

/-- The lower-case form of a code point; one without letter case is its own. -/
def lowerCode (n : Nat) : Nat :=
  (Table.lowerings.findSome? (lowersFrom n)).getD n

/-- The lower-case form of a character. -/
def lower (c : Char) : Char :=
  Char.ofNat (lowerCode c.toNat)

/-- The capital form of a character, or the first character of it; one without letter
    case is its own. -/
def capital (c : Char) : Char :=
  let inverse := (Table.lowerings.findSome? (lowersTo c.toNat)).getD c.toNat
  Char.ofNat ((Table.capitals.lookup c.toNat).getD inverse)

/-- The characters that differ from `c` in letter case alone, and `c` itself. -/
def variants (c : Char) : List Char :=
  let low := lowerCode c.toNat
  let letters := (Table.sameLetters.find? (·.contains low)).getD [low]
  letters.flatMap fun letter =>
    (letter :: Table.lowerings.filterMap (lowersTo letter)).map Char.ofNat

end QueryFilter.Text
