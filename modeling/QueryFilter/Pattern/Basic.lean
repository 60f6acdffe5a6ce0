import QueryFilter.Number.Numeral

/-!
# Patterns

The patterns that field names are checked against and that characters are removed
by: sets of characters, anchors, sequences, choices, repetitions, looks around, and
groups whose text may be asked for again (`Node`), with the text they were written as
(`Pattern`).

A pattern that ignores letter case does so in its sets: such a set holds a character
if it lists one of the character's variants (`CharSet.listsVariant`). One case is kept
apart. A character beyond the basic plane that is in a set with other items is taken
as it is written, and what it is compared with is a lower-case form; so a capital letter
there lists nothing.
-/

namespace QueryFilter

/-! ## Sets of characters -/

/-- The named classes of characters. -/
inductive CharClass where
  | digit
  | blank
  | word
deriving DecidableEq, Repr

/-- Whether a character, perhaps only one of ASCII, belongs to a named class. -/
def CharClass.contains (ascii : Bool) : CharClass → Char → Bool
  | .digit, c => if ascii then c.isDigit else (Text.digitValue? c).isSome
  | .blank, c => if ascii then Text.isAsciiBlank c else Text.isBlank c
  | .word, c => Text.isWord c && (!ascii || decide (c.toNat < 128))

/-- What a set of characters lists: one character, a code point that is no character,
    all code points from `first` to `last`, or the characters inside or outside a named
    class. -/
inductive SetItem where
  | char (c : Char)
  | surrogate (code : Nat)
  | range (first last : Nat)
  | named (name : CharClass) (negated : Bool)
deriving DecidableEq, Repr

/-- The characters from `first` to `last`. -/
abbrev SetItem.chars (first last : Char) : SetItem :=
  .range first.toNat last.toNat

/-- Whether an item lists the character `c` itself. -/
def SetItem.lists (ascii : Bool) : SetItem → Char → Bool
  | .char d, c => c == d
  | .surrogate _, _ => false
  | .range first last, c => decide (first ≤ c.toNat) && decide (c.toNat ≤ last)
  | .named name negated, c => name.contains ascii c != negated

/-- How letters are compared: whether letter case is ignored, and whether only the
    characters of ASCII count as letters, digits and blanks. -/
structure Letters where
  ignoreCase : Bool
  ascii : Bool
deriving DecidableEq, Repr

namespace Letters

/-- Letter case is ignored, in all of Unicode. -/
def anyCase : Letters := ⟨true, false⟩

/-- The lower-case form of a character. -/
def lower (l : Letters) (c : Char) : Char :=
  if l.ascii then c.toLower else Text.lower c

/-- The characters that differ from `c` in letter case alone, and `c` itself. -/
def variants (l : Letters) (c : Char) : List Char :=
  if l.ascii then [c.toLower, c.toLower.toUpper] else Text.variants c

/-- Whether two characters count as the same in a text. -/
def same (l : Letters) (c d : Char) : Bool :=
  if l.ignoreCase then l.lower c == l.lower d else c == d

end Letters

/-- The first code point beyond the basic plane. -/
def basicPlaneEnd : Nat := 0x10000

/-- Whether an item, beside others, lists the character `c` or, unless it names a class,
    a variant of `c` in letter case. A character beyond the basic plane lists what it is
    the lower-case form of, and a range that ends there also lists by the capital form of
    the lower-case form. -/
def SetItem.listsVariant (l : Letters) (item : SetItem) (c : Char) : Bool :=
  match item with
  | .surrogate _ => false
  | .named _ _ => item.lists l.ascii c
  | .char d => if d.toNat < basicPlaneEnd then (l.variants c).contains d else l.lower c == d
  | .range _ last =>
    (l.variants c).any (item.lists l.ascii) ||
      decide (basicPlaneEnd ≤ last) && item.lists l.ascii (Text.capital (l.lower c))

/-- A set of characters: those that an item lists, or those that none does. -/
structure CharSet where
  items : List SetItem
  negated : Bool
  letters : Letters
deriving DecidableEq, Repr

/-- Whether a set lists the character `c` or a variant of it in letter case. A single
    character has all its variants. -/
def CharSet.listsVariant (s : CharSet) (c : Char) : Bool :=
  match s.items with
  | [.char d] => (s.letters.variants c).contains d
  | items => items.any fun item => item.listsVariant s.letters c

/-- Whether a character is in a set. -/
def CharSet.contains (s : CharSet) (c : Char) : Bool :=
  (if s.letters.ignoreCase then s.listsVariant c
    else s.items.any fun item => item.lists s.letters.ascii c) != s.negated

/-! ## Patterns -/

/-- Conditions on a place in a text. -/
inductive Anchor where
  | textStart
  | lineStart
  | textEnd
  | lastLineEnd
  | lineEnd
  | wordEdge (ascii : Bool)
  | notWordEdge (ascii : Bool)
deriving DecidableEq, Repr

/-- In which order the numbers of iterations of a repetition are tried: the largest
    first, the smallest first, or the largest that can be had and no other, where no
    iteration is tried in another way afterwards. -/
inductive Greed where
  | greedy
  | lazy
  | possessive
deriving DecidableEq, Repr

/-- The structure of a pattern. -/
inductive Node where
  /-- The empty text. -/
  | empty
  /-- One character of a set. -/
  | set (s : CharSet)
  /-- One character of any kind, or of any kind but a line feed. -/
  | any (lineFeed : Bool)
  /-- The empty text at certain places. -/
  | anchor (a : Anchor)
  /-- One pattern after another. -/
  | seq (first second : Node)
  /-- One of two patterns, the first one if possible. -/
  | alt (first second : Node)
  /-- Iterations of a pattern, from `least` on, up to `most` if it is given. -/
  | rep (body : Node) (least : Nat) (most : Option Nat) (greed : Greed)
  /-- The first match of a pattern and no other. -/
  | atomic (body : Node)
  /-- The empty text where a match of a pattern begins `back` characters before, or where
      none does. -/
  | look (body : Node) (back : Nat) (negated : Bool)
  /-- A pattern whose match is kept as the group with a number. -/
  | group (number : Nat) (body : Node)
  /-- The text of a group once more. -/
  | again (number : Nat) (letters : Letters)
  /-- One of two patterns, the first one exactly if a group has a match. -/
  | cond (number : Nat) (yes no : Node)
deriving DecidableEq, Repr

/-- A pattern with its text. -/
structure Pattern where
  text : String
  node : Node
deriving DecidableEq, Repr

/-- What can be too large to be read at all: a number of repetitions, or a code point. -/
inductive Overflow where
  | repetitions
  | codePoint
deriving DecidableEq, Repr

/-- The message of the error. -/
def Overflow.message : Overflow → String
  | .repetitions => "the repetition number is too large"
  | .codePoint => "Python int too large to convert to C int"

/-- Why a text is no pattern. Texts that are not written as patterns are `invalid`; a
    number of repetitions can also have too many digits to be converted, two options for
    the whole pattern can exclude each other, and a number can be too large. -/
inductive PatternError where
  | invalid
  | tooManyDigits (e : TooManyDigits)
  | asciiAndUnicode
  | overflow (o : Overflow)
deriving DecidableEq, Repr

end QueryFilter
