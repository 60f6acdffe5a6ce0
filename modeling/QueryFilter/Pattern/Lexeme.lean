import QueryFilter.Number.Integer
import QueryFilter.Pattern.Escape

/-!
# Lexemes of patterns

The text of a pattern is cut into lexemes before its structure is looked at: sets,
repetition marks, references to groups, and the openings of groups (`lexemes`). Escapes
and sets are read in full here, so that only groups are left to be matched up. What
cannot be read is a lexeme too, the last one (`Lexeme.failure`): the errors of a pattern
are found from left to right, and there may be another one before it.

A brace that does not begin a repetition mark stands for itself. Comments are left out,
and so are blanks where a pattern is laid out freely.
-/

namespace QueryFilter.Pattern

/-- The options that letters in a pattern switch on and off. -/
inductive Flag where
  | ignoreCase
  | multiLine
  | dotAll
  | verbose
  | ascii
  | unicode
  | template
deriving DecidableEq, Repr

/-- The group that is meant by a name or by a number. -/
inductive GroupRef where
  | name (name : List Char)
  | number (n : Nat)
deriving DecidableEq, Repr

/-- What opens a group: to hold alternatives together and no more, with options of its
    own, to be kept, to match in one way only, to look around, or to choose by whether
    another group has a match. -/
inductive Opening where
  | bare
  | options (on off : List Flag)
  | kept (name : Option (List Char))
  | atomic
  | look (behind negated : Bool)
  | cond (ref : GroupRef)
deriving DecidableEq, Repr

/-- The parts that the text of a pattern is cut into. -/
inductive Lexeme where
  | set (negated : Bool) (items : List SetItem)
  | dot
  | place (m : PlaceMark)
  | again (ref : GroupRef)
  | bar
  | repetition (least : Nat) (most : Option Nat) (greed : Greed)
  | options (on : List Flag)
  | opening (o : Opening)
  | closing
  | failure (e : PatternError)
deriving DecidableEq, Repr

namespace Lexeme

/-- One character. -/
def char (c : Char) : Lexeme :=
  .set false [.char c]

/-- What an escape stands for, as a lexeme. -/
def ofEscape : Escape → Lexeme
  | .item i => .set false [i]
  | .place m => .place m
  | .group n => .again (.number n)

end Lexeme

/-! ## Repetition marks -/

/-- A repetition mark with its way of trying, which the next character may say. -/
def repetition (least : Nat) (most : Option Nat) : List Piece → Lexeme × List Piece
  | .plain '?' :: ps => (.repetition least most .lazy, ps)
  | .plain '+' :: ps => (.repetition least most .possessive, ps)
  | ps => (.repetition least most .greedy, ps)

/-- Numbers of repetitions are below this limit. -/
def repetitionLimit : Nat := 4294967295

/-- The number of repetitions that digits say, or `none` without digits. -/
def count? (digits : List Char) : Except PatternError (Option Nat) :=
  if digits = [] then .ok none
  else if digitLimit < digits.length then .error (.tooManyDigits ⟨digits.length⟩)
  else if valueOfDigits digits < repetitionLimit then .ok (some (valueOfDigits digits))
  else .error (.overflow .repetitions)

/-- The bounds that the digits of a mark say, which must be in order. -/
def bounds? (low high : List Char) : Except PatternError (Nat × Option Nat) :=
  match count? low with
  | .error e => .error e
  | .ok least? =>
    match count? high with
    | .error e => .error e
    | .ok most =>
      let least := least?.getD 0
      if most.all fun m => decide (least ≤ m) then .ok (least, most) else .error .invalid

/-- The digits after a comma. Without a comma they are those that have been read before. -/
def highDigits (low : List Char × List Piece) : List Char × List Piece :=
  match low.2 with
  | .plain ',' :: rest => takeDigits rest
  | _ => low

/-- What an opening brace begins: a repetition mark with one or two counts, or itself. -/
def braces (ps : List Piece) : Lexeme × List Piece :=
  let low := takeDigits ps
  let high := highDigits low
  match high.2 with
  | .plain '\x7d' :: rest =>
    if ps.head? = some (.plain '\x7d') then (.char '\x7b', ps)
    else
      match bounds? low.1 high.1 with
      | .ok (least, most) => repetition least most rest
      | .error e => (.failure (failBefore e rest), [])
  | _ => (.char '\x7b', ps)

/-! ## Groups -/

/-- The option that a letter switches. -/
def Flag.ofChar? : Char → Option Flag
  | 'i' => some .ignoreCase
  | 'm' => some .multiLine
  | 's' => some .dotAll
  | 'x' => some .verbose
  | 'a' => some .ascii
  | 'u' => some .unicode
  | 't' => some .template
  | _ => none

/-- Whether an option concerns the whole pattern only, or the kind of its letters, so that
    it cannot be switched off. -/
def Flag.isPermanent (f : Flag) : Bool :=
  f == .template || f == .ascii || f == .unicode

/-- Whether options exclude each other. -/
def clash (on : List Flag) : Bool :=
  on.contains .ascii && on.contains .unicode

/-- The options at the start of pieces, and the pieces after them. -/
def takeFlags (ps : List Piece) : List Flag × List Piece :=
  let taken := takeIn (fun c => (Flag.ofChar? c).isSome) ps.length ps
  (taken.1.filterMap Flag.ofChar?, taken.2)

/-- The options of the whole pattern, or a group with options of its own. -/
def options (ps : List Piece) : Reading Lexeme :=
  let on := takeFlags ps
  if clash on.1 then refused
  else
    match on.2 with
    | .plain ')' :: rest => if on.1 = [] then refused else .ok (.options on.1, rest)
    | .plain ':' :: rest =>
      if on.1 = [] ∨ .template ∈ on.1 then refused else .ok (.opening (.options on.1 []), rest)
    | .plain '-' :: rest =>
      let off := takeFlags rest
      match off.2 with
      | .plain ':' :: rest =>
        if off.1 = [] ∨ .template ∈ on.1 ∨ off.1.any fun f => f.isPermanent || on.1.contains f then
          refused
        else .ok (.opening (.options on.1 off.1), rest)
      | _ => refused
    | _ => refused

/-- The numbers of groups are below this limit. -/
def groupLimit : Nat := 1073741823

/-- The group that a condition names. -/
def condRef? (name : List Char) : Option GroupRef :=
  if Text.isIdentifier name then some (.name name)
  else
    match readInteger? (String.ofList name) with
    | some (.ofNat n) => if 0 < n ∧ n < groupLimit then some (.number n) else none
    | _ => none

/-- The name before `stop`, and the pieces after it. -/
def name (stop : Char) (ps : List Piece) : Reading (List Char) :=
  match cutAt? stop ps with
  | some (name, rest) => if Text.isIdentifier name then .ok (name, rest) else refused
  | none => refused

/-- The group that a condition is about, and the pieces after its end. -/
def condition (ps : List Piece) : Reading GroupRef :=
  match cutAt? ')' ps with
  | some (name, rest) =>
    match condRef? name with
    | some ref => .ok (ref, rest)
    | none => refused
  | none => refused

/-- What an opening parenthesis and a question mark begin. Of a comment nothing is left. -/
def extension (ps : List Piece) : Reading (Option Lexeme) :=
  let opening (o : Opening) (ps : List Piece) : Reading (Option Lexeme) :=
    .ok (some (.opening o), ps)
  match ps with
  | .plain ':' :: ps => opening .bare ps
  | .plain '>' :: ps => opening .atomic ps
  | .plain '=' :: ps => opening (.look false false) ps
  | .plain '!' :: ps => opening (.look false true) ps
  | .plain '<' :: .plain '=' :: ps => opening (.look true false) ps
  | .plain '<' :: .plain '!' :: ps => opening (.look true true) ps
  | .plain '#' :: ps =>
    match cutAt? ')' ps with
    | some (_, rest) => .ok (none, rest)
    | none => refused
  | .plain 'P' :: .plain '<' :: ps =>
    (name '>' ps).map fun (name, rest) => (some (.opening (.kept (some name))), rest)
  | .plain 'P' :: .plain '=' :: ps =>
    (name ')' ps).map fun (name, rest) => (some (.again (.name name)), rest)
  | .plain '(' :: ps => (condition ps).map fun (ref, rest) => (some (.opening (.cond ref)), rest)
  | ps => (options ps).map fun (l, rest) => (some l, rest)

/-! ## Lexemes -/

/-- The lexeme of what was read, or the error. -/
def lexemeOf {α : Type} (lexeme : α → Option Lexeme) : Reading α → Option Lexeme × List Piece
  | .ok (a, rest) => (lexeme a, rest)
  | .error e => (some (.failure e), [])

/-- The lexeme that a piece begins, with `ps` after it, unless it begins a comment. -/
def lexeme (names : CharNames) (p : Piece) (ps : List Piece) : Option Lexeme × List Piece :=
  match p with
  | .dangling => (some (.failure .invalid), [])
  | .escaped c => lexemeOf (fun e => some (.ofEscape e)) (escape names false c ps)
  | .plain c =>
    match c with
    | '.' => (some .dot, ps)
    | '^' => (some (.place .caret), ps)
    | '$' => (some (.place .dollar), ps)
    | '|' => (some .bar, ps)
    | ')' => (some .closing, ps)
    | '[' => lexemeOf (fun s => some (.set s.1 s.2)) (set names ps)
    | '*' => (repetition 0 none ps).map some id
    | '+' => (repetition 1 none ps).map some id
    | '?' => (repetition 0 (some 1) ps).map some id
    | '\x7b' => (braces ps).map some id
    | '(' =>
      match ps with
      | .plain '?' :: ps => lexemeOf id (extension ps)
      | _ => (some (.opening (.kept none)), ps)
    | c => (some (.char c), ps)

/-- Whether a piece is a blank. -/
def Piece.isBlank : Piece → Bool
  | .plain c => Text.isAsciiBlank c
  | _ => false

/-- The pieces after the end of a line. -/
def dropLine : List Piece → List Piece
  | [] => []
  | [.dangling] => [.dangling]
  | .plain '\n' :: ps => ps
  | _ :: ps => dropLine ps

/-- Whether blanks are left out after a lexeme, in the innermost group and in those around
    it, which is so where a pattern is laid out freely. -/
def Lexeme.layouts : Lexeme → List Bool → List Bool
  | .opening (.options on off), free :: outer =>
    ((free || on.contains .verbose) && !off.contains .verbose) :: free :: outer
  | .opening _, free :: outer => free :: free :: outer
  | .closing, _ :: outer => outer
  | .options on, free :: outer => (free || on.contains .verbose) :: outer
  | _, layouts => layouts

/-- The lexemes of pieces; `fuel` is at least their number. -/
def lexemesUpTo (names : CharNames) :
    (fuel : Nat) → (layouts : List Bool) → List Piece → List Lexeme
  | _, _, [] => []
  | 0, _, _ => []
  | fuel + 1, layouts, p :: ps =>
    let free := layouts.head?.getD false
    if free && p.isBlank then lexemesUpTo names fuel layouts ps
    else if free && p == .plain '#' then lexemesUpTo names fuel layouts (dropLine ps)
    else
      match lexeme names p ps with
      | (none, rest) => lexemesUpTo names fuel layouts rest
      | (some l, rest) => l :: lexemesUpTo names fuel (l.layouts layouts) rest

/-- The lexemes of a text. -/
def lexemes (names : CharNames) (text : String) : List Lexeme :=
  let ps := pieces text.toList
  lexemesUpTo names ps.length [false] ps

end QueryFilter.Pattern
