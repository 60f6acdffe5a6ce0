import QueryFilter.Pattern.Lexeme

/-!
# Reading patterns

The structure of a pattern is read from its lexemes one after another (`Reader.step`), with
a stack of the groups that are open (`Frame`); the end of a group makes it a part of the
group around it. A repetition mark needs something to repeat, which an anchor or another
repetition is not. Options for the whole pattern, such as `(?i)`, may stand at its start
only. A group can be asked for again once it has ended, and inside a look behind only if
it has ended before.

Alternatives that begin alike share their beginning, and those of one character each
are one set (`choice`). Neither changes which texts match, apart from the letters
beyond the basic plane that a set takes as they are written.

Some errors are noticed only when the whole text has been read (`Reader.finish`): a look
behind needs a pattern whose matches all have the same width, for example. How deep groups
may be nested is not limited here.
-/

namespace QueryFilter.Pattern

/-! ## Alternatives -/

/-- A part of a sequence, and whether it is a single one: a set, the dot, an anchor or the
    text of a group, which is neither repeated nor in a group of its own. -/
structure Part where
  node : Node
  single : Bool
deriving DecidableEq, Repr

/-- The node of parts, one after another. -/
def sequence : List Part → Node
  | [] => .empty
  | [part] => part.node
  | part :: parts => .seq part.node (sequence parts)

/-- The choice between sequences, the first one if possible. -/
def alternation : List (List Part) → Node
  | [] => .empty
  | [parts] => sequence parts
  | parts :: rest => .alt (sequence parts) (alternation rest)

/-- The items of a sequence that is a single set and not a negated one. -/
def soleItems? : List Part → Option (List SetItem)
  | [⟨.set s, true⟩] => if s.negated then none else some s.items
  | _ => none

/-- The set that a choice between single sets is, with each item once. -/
def mergedSet? (letters : Letters) (alternatives : List (List Part)) : Option CharSet :=
  (alternatives.mapM soleItems?).map fun items => ⟨items.flatten.eraseDups, false, letters⟩

/-- The parts of a choice between the sequence `first` and others. A single part with
    which all of them begin comes before the choice. A choice between single sets is one
    set, so that their items stand beside each other where letter case is ignored. -/
def choice (letters : Letters) : (first : List Part) → (others : List (List Part)) → List Part
  | first, [] => first
  | [], others => [⟨alternation ([] :: others), false⟩]
  | part :: first, others =>
    if part.single && others.all (fun parts => parts.head? == some part) then
      part :: choice letters first (others.map List.tail)
    else
      match mergedSet? letters ((part :: first) :: others) with
      | some s => [⟨.set s, true⟩]
      | none => [⟨alternation ((part :: first) :: others), false⟩]

/-! ## Widths -/

/-- How many characters the matches of a pattern have: at least, and at most if there is a
    bound. -/
structure Width where
  least : Nat
  most : Option Nat
deriving DecidableEq, Repr

namespace Width

/-- So many characters. -/
def exact (n : Nat) : Width := ⟨n, some n⟩

/-- The largest width that a look behind may have. -/
def limit : Nat := 4294967295

/-- Whether all matches have the same width, which is not too large to look behind. -/
def isFixed (w : Width) : Bool :=
  w.most == some w.least && decide (w.least ≤ limit)

/-- One match after another. -/
def add (v w : Width) : Width :=
  ⟨v.least + w.least, v.most.bind fun m => w.most.map (m + ·)⟩

/-- One of two matches. -/
def either (v w : Width) : Width :=
  ⟨min v.least w.least, v.most.bind fun m => w.most.map (max m)⟩

/-- Iterations of a match. -/
def times (w : Width) (least : Nat) (most : Option Nat) : Width :=
  let bound := w.most.bind fun m => most.map (m * ·)
  ⟨w.least * least, if w.most = some 0 ∨ most = some 0 then some 0 else bound⟩

end Width

/-- The width of a pattern, given the widths of groups. -/
def width (groups : Nat → Width) : Node → Width
  | .empty | .anchor _ | .look _ _ _ => .exact 0
  | .set _ | .any _ => .exact 1
  | .seq first second => (width groups first).add (width groups second)
  | .alt first second => (width groups first).either (width groups second)
  | .rep body least most _ => (width groups body).times least most
  | .atomic body => width groups body
  | .group _ body => width groups body
  | .again number _ => groups number
  | .cond _ yes no => (width groups yes).either (width groups no)

/-! ## Groups that are open -/

/-- The options that count inside a group. -/
structure Flags where
  ignoreCase : Bool
  multiLine : Bool
  dotAll : Bool
  ascii : Bool
deriving DecidableEq, Repr

namespace Flags

/-- No options. -/
def none : Flags := ⟨false, false, false, false⟩

/-- Options with some of them switched on and off. -/
def change (f : Flags) (on off : List Flag) : Flags where
  ignoreCase := (f.ignoreCase || on.contains .ignoreCase) && !off.contains .ignoreCase
  multiLine := (f.multiLine || on.contains .multiLine) && !off.contains .multiLine
  dotAll := (f.dotAll || on.contains .dotAll) && !off.contains .dotAll
  ascii := (f.ascii || on.contains .ascii) && !on.contains .unicode

/-- How letters are compared. -/
def letters (f : Flags) : Letters := ⟨f.ignoreCase, f.ascii⟩

end Flags

/-- The condition that a mark stands for. -/
def PlaceMark.anchor (f : Flags) : PlaceMark → Anchor
  | .caret => if f.multiLine then .lineStart else .textStart
  | .dollar => if f.multiLine then .lineEnd else .lastLineEnd
  | .textStart => .textStart
  | .textEnd => .textEnd
  | .wordEdge => .wordEdge f.ascii
  | .notWordEdge => .notWordEdge f.ascii

/-- What an open group is for; it has its number if it has one, and the number of the
    group that it depends on. -/
inductive GroupKind where
  | bare
  | plain
  | kept (number : Nat)
  | atomic
  | look (behind negated : Bool)
  | cond (number : Nat)
deriving DecidableEq, Repr

/-- An item of a sequence: its parts, of which there may be several if it is a group,
    and whether a repetition mark may follow it. -/
structure Item where
  parts : List Part
  repeatable : Bool

/-- A group that is open: what it is for, the options inside it, how many groups there
    were before the outermost look behind that it is in, its finished alternatives and
    the items of the current one, the latest first. -/
structure Frame where
  kind : GroupKind
  flags : Flags
  behind : Option Nat
  alternatives : List (List Part)
  items : List Item

namespace Frame

/-- A group with one more item. -/
def add (f : Frame) (parts : List Part) (repeatable : Bool) : Frame :=
  { f with items := ⟨parts, repeatable⟩ :: f.items }

/-- The parts of the current alternative. -/
def current (f : Frame) : List Part :=
  f.items.reverse.flatMap Item.parts

/-- A group with the current alternative finished. -/
def endAlternative (f : Frame) : Frame :=
  { f with alternatives := f.current :: f.alternatives, items := [] }

/-- The parts of the choice that a group holds. -/
def inside (f : Frame) : List Part :=
  match f.endAlternative.alternatives.reverse with
  | [] => []
  | first :: others => choice f.flags.letters first others

/-- The choice that a condition makes: the first alternative, or the second one, which may
    be missing. -/
def decided (f : Frame) (number : Nat) : Node :=
  match f.endAlternative.alternatives.reverse with
  | yes :: no :: _ => .cond number (sequence yes) (sequence no)
  | [yes] => .cond number (sequence yes) .empty
  | [] => .empty

/-- The parts of a group that looks back by `back` characters if it looks behind. Those of
    a bare group become parts of the group around it. -/
def parts (f : Frame) (back : Nat) : List Part :=
  match f.kind with
  | .bare => f.inside
  | .plain => [⟨sequence f.inside, false⟩]
  | .kept number => [⟨.group number (sequence f.inside), false⟩]
  | .atomic => [⟨.atomic (sequence f.inside), false⟩]
  | .look behind negated =>
    [⟨.look (sequence f.inside) (if behind then back else 0) negated, false⟩]
  | .cond number => [⟨f.decided number, false⟩]

end Frame

/-! ## Readers -/

/-- A group that is kept: its name if it has one, and its width once it has ended. -/
structure KeptGroup where
  name : Option (List Char)
  width : Option Width
deriving DecidableEq, Repr

/-- A pattern that has been read so far: the group that is open and those around it, all
    groups that are kept, the options of the whole pattern, the groups that conditions
    name by their numbers, and whether there is a repetition and a look behind that does
    not have a fixed width. -/
structure Reader where
  frame : Frame
  outer : List Frame
  groups : List KeptGroup
  flags : List Flag
  conditions : List Nat
  repeats : Bool
  unfixed : Bool

namespace Reader

variable (r : Reader)

/-- Nothing has been read. -/
def start : Reader :=
  ⟨⟨.plain, .none, none, [], []⟩, [], [], [], [], false, false⟩

/-- Adds an item of one single part. -/
def single (node : Node) (repeatable : Bool) : Reader :=
  { r with frame := r.frame.add [⟨node, true⟩] repeatable }

/-- The number of the group with a name. -/
def numberOf? (name : List Char) : Option Nat :=
  (r.groups.findIdx? fun g => g.name == some name).map (· + 1)

/-- The width of a group that has ended, if it has. -/
def widthOf? (number : Nat) : Option Width :=
  if number = 0 then none else r.groups[number - 1]?.bind KeptGroup.width

/-- The width of a node. -/
def width (node : Node) : Width :=
  Pattern.width (fun number => (r.widthOf? number).getD (.exact 0)) node

/-- Whether a group has ended, and before the outermost look behind. -/
def hasEnded (number : Nat) : Bool :=
  (r.widthOf? number).isSome && r.frame.behind.all fun count => decide (number ≤ count)

/-- The text of a group once more. -/
def again? (ref : GroupRef) : Except PatternError Reader :=
  let number? :=
    match ref with
    | .name name => r.numberOf? name
    | .number n => some n
  match number? with
  | none => .error .invalid
  | some n =>
    if r.hasEnded n then .ok (r.single (.again n r.frame.flags.letters) true) else .error .invalid

/-- The last item repeated. -/
def repeatLast? (least : Nat) (most : Option Nat) (greed : Greed) : Except PatternError Reader :=
  match r.frame.items with
  | [] => .error .invalid
  | item :: items =>
    if item.repeatable then
      let part : Part := ⟨.rep (sequence item.parts) least most greed, false⟩
      .ok { r with frame := { r.frame with items := ⟨[part], false⟩ :: items }, repeats := true }
    else .error .invalid

/-- The next alternative. A condition has two of them at most. -/
def next? : Except PatternError Reader :=
  match r.frame.kind, r.frame.alternatives with
  | .cond _, _ :: _ => .error .invalid
  | _, _ => .ok { r with frame := r.frame.endAlternative }

/-- Options of the whole pattern, before anything else. -/
def setOptions? (on : List Flag) : Except PatternError Reader :=
  if r.outer.isEmpty && r.frame.alternatives.isEmpty && r.frame.items.isEmpty then
    let frame := { r.frame with flags := r.frame.flags.change on [] }
    .ok { r with flags := r.flags ++ on, frame := frame }
  else .error .invalid

/-- A group inside the one that is open. -/
def push (kind : GroupKind) (flags : Flags) (behind : Option Nat) : Reader :=
  { r with frame := ⟨kind, flags, behind, [], []⟩, outer := r.frame :: r.outer }

/-- A group that is kept. No two of them have the same name. -/
def openKept? (name : Option (List Char)) : Except PatternError Reader :=
  if name.isSome && (name.bind r.numberOf?).isSome then .error .invalid
  else
    let pushed := r.push (.kept (r.groups.length + 1)) r.frame.flags r.frame.behind
    .ok { pushed with groups := r.groups ++ [⟨name, none⟩] }

/-- A group that depends on another one. A number may be that of a later group, but not
    inside a look behind. -/
def openCond? (ref : GroupRef) : Except PatternError Reader :=
  let opened (n : Nat) : Except PatternError Reader :=
    if r.frame.behind.isSome && !r.hasEnded n then .error .invalid
    else .ok (r.push (.cond n) r.frame.flags r.frame.behind)
  match ref with
  | .number n => (opened n).map fun r => { r with conditions := n :: r.conditions }
  | .name name =>
    match r.numberOf? name with
    | none => .error .invalid
    | some n => opened n

/-- The beginning of a group. -/
def open? (o : Opening) : Except PatternError Reader :=
  let f := r.frame
  match o with
  | .bare => .ok (r.push .bare f.flags f.behind)
  | .options on off => .ok (r.push .plain (f.flags.change on off) f.behind)
  | .atomic => .ok (r.push .atomic f.flags f.behind)
  | .look false negated => .ok (r.push (.look false negated) f.flags f.behind)
  | .look true negated =>
    .ok (r.push (.look true negated) f.flags (f.behind.or (some r.groups.length)))
  | .kept name => r.openKept? name
  | .cond ref => r.openCond? ref

/-- The error in the options of the whole pattern, or another one. -/
def flagsErrorOr (e : PatternError) : PatternError :=
  if clash r.flags then .asciiAndUnicode else e

/-- The end of a group. -/
def close? : Except PatternError Reader :=
  match r.outer with
  | [] => .error (r.flagsErrorOr .invalid)
  | g :: outer =>
    let w := r.width (sequence r.frame.inside)
    let closed := { r with frame := g.add (r.frame.parts w.least) true, outer := outer }
    match r.frame.kind with
    | .kept number =>
      .ok { closed with groups := r.groups.modify (number - 1) fun g => { g with width := some w } }
    | .look true _ => .ok { closed with unfixed := r.unfixed || !w.isFixed }
    | _ => .ok closed

/-- One more lexeme. -/
def step : Lexeme → Except PatternError Reader
  | .set negated items => .ok (r.single (.set ⟨items, negated, r.frame.flags.letters⟩) true)
  | .dot => .ok (r.single (.any r.frame.flags.dotAll) true)
  | .place m => .ok (r.single (.anchor (m.anchor r.frame.flags)) false)
  | .again ref => r.again? ref
  | .bar => r.next?
  | .repetition least most greed => r.repeatLast? least most greed
  | .options on => r.setOptions? on
  | .opening o => r.open? o
  | .closing => r.close?
  | .failure e => .error e

/-- The structure of a pattern whose text has been read to its end. -/
def finish : Except PatternError Node :=
  if !r.outer.isEmpty then .error .invalid
  else if clash r.flags then .error .asciiAndUnicode
  else if r.conditions.any fun n => decide (r.groups.length < n) then .error .invalid
  else if r.unfixed || r.repeats && r.flags.contains .template then .error .invalid
  else .ok (sequence r.frame.inside)

end Reader

/-- The pattern that a text denotes, if it denotes one. -/
def read (names : CharNames) (text : String) : Except PatternError Pattern :=
  match (lexemes names text).foldlM Reader.step .start with
  | .error e => .error e
  | .ok r => r.finish.map fun node => ⟨text, node⟩

end QueryFilter.Pattern
