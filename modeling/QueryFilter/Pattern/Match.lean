import QueryFilter.Pattern.Basic

/-!
# Matching

The matcher tries the ways in which a pattern can match at a place in the order
that the pattern prefers, and takes the first one after which the rest of the
search succeeds (`Node.run`); the rest of the search is a function from the place
where the match ends. A place knows the whole text around it, and where the groups
have begun and ended on the way there (`Spot`).

An iteration of a repetition that matches the empty text ends the repetition, so
that the places reached by further iterations are further on and, but for a last
one, there are at most as many of them as characters are left.

* `Pattern.finds`: whether a text has a match somewhere;
* `Pattern.remove`: a text without the characters of its matches.
-/

namespace QueryFilter

/-- A place in a text: the characters before it, the nearest one first, the characters
    after it, and the positions where groups have begun and ended, by the numbers of the
    groups, the latest ones first. -/
structure Spot where
  before : List Char
  rest : List Char
  starts : List (Nat × Nat)
  stops : List (Nat × Nat)
deriving DecidableEq, Repr

namespace Spot

/-- The place before the characters `rest` and after the characters `before`, the nearest
    one first. -/
def between (before rest : List Char) : Spot :=
  ⟨before, rest, [], []⟩

/-- The place before the first character of a text. -/
def start (cs : List Char) : Spot :=
  .between [] cs

/-- How many characters are before a place. -/
def position (s : Spot) : Nat :=
  s.before.length

/-- The place after the character `c`, with `rest` behind it. -/
def advance (s : Spot) (c : Char) (rest : List Char) : Spot :=
  { s with before := c :: s.before, rest := rest }

/-- The place so many characters before, if there are so many. -/
def back? (s : Spot) : Nat → Option Spot
  | 0 => some s
  | n + 1 =>
    match s.before with
    | [] => none
    | c :: before => back? { s with before := before, rest := c :: s.rest } n

/-- Whether exactly one of the characters around a place is a word character. -/
def atWordEdge (ascii : Bool) (s : Spot) : Bool :=
  s.before.head?.any (CharClass.word.contains ascii) !=
    s.rest.head?.any (CharClass.word.contains ascii)

/-- Whether a place meets a condition. No place of an empty text is a word edge or
    counts as another place. -/
def meets (s : Spot) : Anchor → Bool
  | .textStart => s.before.isEmpty
  | .lineStart => s.before.head?.all (· == '\n')
  | .textEnd => s.rest.isEmpty
  | .lastLineEnd => s.rest.isEmpty || s.rest == ['\n']
  | .lineEnd => s.rest.head?.all (· == '\n')
  | .wordEdge ascii => s.atWordEdge ascii
  | .notWordEdge ascii => !(s.before.isEmpty && s.rest.isEmpty) && !s.atWordEdge ascii

/-! ## Groups -/

/-- A place where a group begins. -/
def enter (s : Spot) (number : Nat) : Spot :=
  { s with starts := (number, s.position) :: s.starts }

/-- A place where a group ends. -/
def leave (s : Spot) (number : Nat) : Spot :=
  { s with stops := (number, s.position) :: s.stops }

/-- Where the match of a group begins and ends, if it has one. A group that has begun
    again after its latest match has none. -/
def span? (s : Spot) (number : Nat) : Option (Nat × Nat) :=
  match s.starts.lookup number, s.stops.lookup number with
  | some first, some last => if first ≤ last then some (first, last) else none
  | _, _ => none

/-- The text of a group, if it has a match. -/
def textOf? (s : Spot) (number : Nat) : Option (List Char) :=
  (s.span? number).map fun (first, last) =>
    ((s.before.reverse ++ s.rest).take last).drop first

/-- The place after a text, if it follows. -/
def skip? (letters : Letters) : List Char → Spot → Option Spot
  | [], s => some s
  | c :: cs, s =>
    match s.rest with
    | [] => none
    | d :: rest => if letters.same c d then skip? letters cs (s.advance d rest) else none

end Spot

/-! ## Matchers -/

/-- The rest of a search: where it ends if it succeeds after a match that ends at the
    given place. -/
abbrev Continuation := Spot → Option Spot

/-- The first way to match at a place after which the rest of the search succeeds. -/
abbrev Matcher := Spot → Continuation → Option Spot

namespace Matcher

/-- `count` iterations of `body`, and then `after`. -/
def times (body after : Matcher) : Nat → Matcher
  | 0 => after
  | count + 1 => fun s k => body s fun t => times body after count t k

/-- Up to `count` iterations of `body`. -/
def upTo (body : Matcher) (lazy : Bool) : Nat → Matcher
  | 0 => fun s k => k s
  | count + 1 => fun s k =>
    let more := fun (_ : Unit) =>
      body s fun t => if t.position = s.position then k t else upTo body lazy count t k
    if lazy then (k s).orElse more else (more ()).orElse fun _ => k s

/-- How many iterations there can be at a place, of which a last one may match the empty
    text, if there is a largest number of them or not. -/
def room (s : Spot) (most : Option Nat) : Nat :=
  most.getD (s.rest.length + 1)

/-- Any number of iterations of `body`, up to `most` if it is given. -/
def many (body : Matcher) (lazy : Bool) (most : Option Nat) : Matcher := fun s k =>
  upTo body lazy (room s most) s k

/-- The place after `count` first matches of `body`, one after another. -/
def firsts (body : Matcher) : Nat → Spot → Option Spot
  | 0, s => some s
  | count + 1, s => (body s some).bind (firsts body count)

/-- The place after as many first matches of `body` as there are, up to `count`. -/
def allFirsts (body : Matcher) : Nat → Spot → Spot
  | 0, s => s
  | count + 1, s =>
    match body s some with
    | none => s
    | some t => if t.position = s.position then t else allFirsts body count t

/-- Iterations of `body`, `least` of them and then as many as there are, up to `most` more
    if it is given. -/
def possessive (body : Matcher) (least : Nat) (most : Option Nat) : Matcher := fun s k =>
  (firsts body least s).bind fun t => k (allFirsts body (room t most) t)

end Matcher

/-- The first way in which a pattern matches at a place such that the rest of the
    search succeeds. -/
def Node.run : Node → Matcher
  | .empty => fun s k => k s
  | .set chars => fun s k =>
    match s.rest with
    | [] => none
    | c :: rest => if chars.contains c then k (s.advance c rest) else none
  | .any lineFeed => fun s k =>
    match s.rest with
    | [] => none
    | c :: rest => if lineFeed || c != '\n' then k (s.advance c rest) else none
  | .anchor a => fun s k => if s.meets a then k s else none
  | .seq first second => fun s k => first.run s fun t => second.run t k
  | .alt first second => fun s k => (first.run s k).orElse fun _ => second.run s k
  | .rep body least most greed =>
    let extra := most.map (· - least)
    match greed with
    | .possessive => Matcher.possessive body.run least extra
    | .lazy => Matcher.times body.run (Matcher.many body.run true extra) least
    | .greedy => Matcher.times body.run (Matcher.many body.run false extra) least
  | .atomic body => fun s k => (body.run s some).bind k
  | .look body back negated => fun s k =>
    match (s.back? back).bind fun t => body.run t some with
    | some t => if negated then none else k { s with starts := t.starts, stops := t.stops }
    | none => if negated then k s else none
  | .group number body => fun s k => body.run (s.enter number) fun t => k (t.leave number)
  | .again number letters => fun s k =>
    ((s.textOf? number).bind fun cs => s.skip? letters cs).bind k
  | .cond number yes no => fun s k =>
    if (s.span? number).isSome then yes.run s k else no.run s k

namespace Pattern

/-- Whether a pattern matches at a place or at a later one. -/
def findsFrom (node : Node) (before : List Char) : List Char → Bool
  | [] => (node.run (.between before []) some).isSome
  | c :: cs =>
    (node.run (.between before (c :: cs)) some).isSome || findsFrom node (c :: before) cs

/-- Whether a pattern matches somewhere in a text. -/
def finds (p : Pattern) (cs : List Char) : Bool :=
  findsFrom p.node [] cs

/-- Where the first match that is not empty ends. -/
def matchEnd? (node : Node) (s : Spot) : Option Nat :=
  (node.run s fun t => if t.position = s.position then none else some t).map Spot.position

/-- The characters after a place that are outside all matches; the next `skip`
    characters belong to a match found before. -/
def removeFrom (node : Node) : (skip : Nat) → (before : List Char) → List Char → List Char
  | _, _, [] => []
  | skip + 1, before, c :: cs => removeFrom node skip (c :: before) cs
  | 0, before, c :: cs =>
    match matchEnd? node (.between before (c :: cs)) with
    | some stop => removeFrom node (stop - (before.length + 1)) (c :: before) cs
    | none => c :: removeFrom node 0 (c :: before) cs

/-- A text without the characters of its matches, which are looked for from the left
    and do not overlap. -/
def remove (p : Pattern) (cs : List Char) : List Char :=
  removeFrom p.node 0 [] cs

end Pattern

end QueryFilter
