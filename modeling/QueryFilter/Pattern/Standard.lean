import QueryFilter.Pattern.Basic

/-!
# Standard patterns

The patterns that a parser uses unless it is told otherwise. Field names consist of
letters, digits and a few marks; the name of a field with several values may end in
a pair of brackets; and the bodies of pattern operators keep the same characters,
spaces and asterisks.
-/

namespace QueryFilter.Pattern

/-- The characters of field names: the letters `a` to `z`, `æ`, `ø` and `å` in either
    case, digits, the underscore, the point and the hyphen. -/
def nameItems : List SetItem :=
  [.chars 'a' 'z', .char 'æ', .char 'ø', .char 'å', .chars '0' '9', .char '_', .char '.', .char '-']

/-- The characters that stay in the body of a pattern operator. -/
def bodyItems : List SetItem :=
  [.chars 'a' 'z', .char 'æ', .char 'ø', .char 'å', .chars '0' '9', .char '_', .char '.', .char '*',
    .char ' ', .char '-']

/-- One or more characters of field names. -/
def nameNode : Node :=
  .rep (.set ⟨nameItems, false, .anyCase⟩) 1 none .greedy

/-- A pair of brackets. -/
def bracketsNode : Node :=
  .seq (.set ⟨[.char '['], false, .anyCase⟩) (.set ⟨[.char ']'], false, .anyCase⟩)

/-- The names of fields given once. -/
def key : Pattern where
  text := "^[a-zæøå0-9_.-]+\\Z"
  node := .seq (.anchor .textStart) (.seq nameNode (.anchor .textEnd))

/-- The names of fields given several times. Nothing asks for the group in the text, and so
    it is not kept. -/
def arrayKey : Pattern where
  text := "^[a-zæøå0-9_.-]+(\\[\\])?\\Z"
  node :=
    .seq (.anchor .textStart)
      (.seq nameNode (.seq (.rep bracketsNode 0 (some 1) .greedy) (.anchor .textEnd)))

/-- The characters removed from the bodies of pattern operators. -/
def unsafeChars : Pattern where
  text := "[^a-zæøå0-9_.* -]"
  node := .set ⟨bodyItems, true, .anyCase⟩

end QueryFilter.Pattern
