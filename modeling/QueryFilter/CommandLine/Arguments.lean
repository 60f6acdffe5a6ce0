import QueryFilter.Number.Integer
import QueryFilter.Text.Quoted
import QueryFilter.Text.Split

/-!
# Command line arguments

A command line has one argument of its own, the query string, and options. A long
option may be cut short as long as it is the only one that begins so, and its value
may follow an equals sign or be the next argument. A negative number and a text with
a space in it are no options, nor is anything after the mark `--`.

Arguments are first told apart one by one (`Word.ofText`), and then gone through in
order (`Arguments.readWords`).
-/

namespace QueryFilter.CommandLine

/-- The options. -/
inductive OptionName where
  | help
  | alias
  | blacklist
  | whitelist
  | custom
  | noToBoolean
  | noToNumber
  | indent
deriving DecidableEq, Repr

namespace OptionName

/-- The spellings of all options, in their order. -/
def spellings : List (String × OptionName) :=
  [("-h", .help), ("--help", .help), ("--alias", .alias), ("--blacklist", .blacklist),
    ("--whitelist", .whitelist), ("--custom", .custom), ("--no-to-boolean", .noToBoolean),
    ("--no-to-number", .noToNumber), ("--indent", .indent)]

/-- The option that is spelled exactly so. -/
def ofSpelling? (s : List Char) : Option OptionName :=
  (spellings.find? fun entry => entry.1.toList == s).map Prod.snd

/-- The name of an option in messages, which has all its spellings. -/
def text (o : OptionName) : String :=
  String.intercalate "/" ((spellings.filter fun entry => entry.2 == o).map Prod.fst)

/-- Whether an option has a value. -/
def takesValue : OptionName → Bool
  | .help | .noToBoolean | .noToNumber => false
  | _ => true

end OptionName

/-- What can be wrong with a command line. -/
inductive UsageError where
  | ambiguous (option : String) (candidates : List String)
  | ignoredValue (option : OptionName) (value : String)
  | missingValue (option : OptionName)
  | notInteger (option : OptionName) (value : String)
  | missingQuery
  | unrecognized (args : List String)
deriving DecidableEq, Repr

/-- The message of an error. -/
def UsageError.message : UsageError → String
  | .ambiguous option candidates =>
    "ambiguous option: " ++ option ++ " could match " ++ String.intercalate ", " candidates
  | .ignoredValue option value =>
    "argument " ++ option.text ++ ": ignored explicit argument " ++ Text.quoted value
  | .missingValue option => "argument " ++ option.text ++ ": expected one argument"
  | .notInteger option value =>
    "argument " ++ option.text ++ ": invalid int value: " ++ Text.quoted value
  | .missingQuery => "the following arguments are required: query"
  | .unrecognized args => "unrecognized arguments: " ++ String.intercalate " " args

/-! ## Words -/

/-- What an argument is: a plain one, an option with the value attached to it, an option
    that does not exist, or the mark after which all arguments are plain. -/
inductive Word where
  | plain (s : String)
  | option (name : OptionName) (value : Option String)
  | unknown (s : String)
  | mark
deriving DecidableEq, Repr

/-- Whether a text is a minus sign and a number, with digits of any script. A line feed
    may follow. -/
def isNegativeNumber (cs : List Char) : Bool :=
  let isDigit (c : Char) : Bool := (Text.digitValue? c).isSome
  match cs with
  | '-' :: cs =>
    let body := if cs.getLast? = some '\n' then cs.dropLast else cs
    let whole := body.takeWhile isDigit
    match body.dropWhile isDigit with
    | [] => !whole.isEmpty
    | '.' :: fraction => !fraction.isEmpty && fraction.all isDigit
    | _ => false
  | _ => false

/-- The spellings of the options that begin like a long option cut short. -/
def candidates (cs : List Char) : List (String × OptionName) :=
  OptionName.spellings.filter fun entry => cs.isPrefixOf entry.1.toList

/-- What a long option is, with the value after its first equals sign. An option in full
    is the one it spells, whatever else begins like it. -/
def Word.ofLong (s : String) : Except UsageError Word :=
  let parts := Text.cut '=' s.toList
  let value := parts.2.map String.ofList
  match OptionName.ofSpelling? parts.1, candidates parts.1 with
  | some name, _ => .ok (.option name value)
  | none, [(_, name)] => .ok (.option name value)
  | none, [] => if s.toList.contains ' ' then .ok (.plain s) else .ok (.unknown s)
  | none, found => .error (.ambiguous s (found.map Prod.fst))

/-- What follows the short option for help: more of the same letter, which changes nothing,
    and then a value or a hyphen, for which it has no use. Other letters are not looked at. -/
def Word.ofHelpTail (cs : List Char) : Word :=
  match cs.dropWhile (· == 'h') with
  | '=' :: value => .option .help (some (String.ofList value))
  | '-' :: rest => .option .help (some (String.ofList ('-' :: rest)))
  | _ => .option .help none

/-- What an argument with a single hyphen before `cs` is. -/
def Word.ofShort (s : String) : List Char → Word
  | [] => .plain s
  | 'h' :: cs => .ofHelpTail cs
  | _ => if isNegativeNumber s.toList || s.toList.contains ' ' then .plain s else .unknown s

/-- What an argument before the mark is. -/
def Word.ofText (s : String) : Except UsageError Word :=
  match s.toList with
  | '-' :: '-' :: _ => Word.ofLong s
  | '-' :: cs => .ok (.ofShort s cs)
  | _ => .ok (.plain s)

/-- What the arguments of a command line are. -/
def Word.ofTexts : List String → Except UsageError (List Word)
  | [] => .ok []
  | s :: rest =>
    if s = "--" then .ok (.mark :: rest.map .plain)
    else
      match Word.ofText s with
      | .error e => .error e
      | .ok w => (Word.ofTexts rest).map (w :: ·)

/-! ## Arguments -/

/-- What a command line asks for. -/
structure Arguments where
  query : Option String
  aliases : List String
  blacklist : List String
  whitelist : List String
  custom : List String
  noToBoolean : Bool
  noToNumber : Bool
  indent : Int
  help : Bool
  extra : List String
deriving DecidableEq, Repr

namespace Arguments

/-- An empty command line. -/
def empty : Arguments :=
  ⟨none, [], [], [], [], false, false, 2, false, []⟩

/-- Takes an option that has a value. -/
def addValue (a : Arguments) (name : OptionName) (s : String) : Except UsageError Arguments :=
  match name with
  | .alias => .ok { a with aliases := a.aliases ++ [s] }
  | .blacklist => .ok { a with blacklist := a.blacklist ++ [s] }
  | .whitelist => .ok { a with whitelist := a.whitelist ++ [s] }
  | .custom => .ok { a with custom := a.custom ++ [s] }
  | .indent =>
    match readInteger? s with
    | some i => .ok { a with indent := i }
    | none => .error (.notInteger name s)
  | .help | .noToBoolean | .noToNumber => .ok a

/-- Takes an option that has no value. -/
def addSwitch (a : Arguments) (name : OptionName) : Arguments :=
  match name with
  | .noToBoolean => { a with noToBoolean := true }
  | .noToNumber => { a with noToNumber := true }
  | .help => { a with help := true }
  | _ => a

/-- Goes through the words of a command line. The first plain word is the query, and a
    mark next to it is skipped; nothing after a call for help counts. -/
def readWords (a : Arguments) : List Word → Except UsageError Arguments
  | [] => .ok a
  | .plain s :: .mark :: rest =>
    if a.query.isNone then readWords { a with query := some s } rest
    else readWords { a with extra := a.extra ++ [s, "--"] } rest
  | .plain s :: rest =>
    if a.query.isNone then readWords { a with query := some s } rest
    else readWords { a with extra := a.extra ++ [s] } rest
  | .mark :: rest =>
    if a.query.isNone ∧ rest ≠ [] then readWords a rest
    else readWords { a with extra := a.extra ++ ["--"] } rest
  | .unknown s :: rest => readWords { a with extra := a.extra ++ [s] } rest
  | .option name (some value) :: rest =>
    if name.takesValue then
      match a.addValue name value with
      | .error e => .error e
      | .ok a => readWords a rest
    else .error (.ignoredValue name value)
  | .option name none :: rest =>
    if name.takesValue then
      match rest with
      | .plain s :: rest =>
        match a.addValue name s with
        | .error e => .error e
        | .ok a => readWords a rest
      | _ => .error (.missingValue name)
    else
      let a := a.addSwitch name
      if a.help then .ok a else readWords a rest

/-- The arguments of a command line. -/
def read (args : List String) : Except UsageError Arguments :=
  match Word.ofTexts args with
  | .error e => .error e
  | .ok words =>
    match readWords empty words with
    | .error e => .error e
    | .ok a =>
      if a.help then .ok a
      else if a.query.isNone then .error .missingQuery
      else if a.extra ≠ [] then .error (.unrecognized a.extra)
      else .ok a

end Arguments

end QueryFilter.CommandLine
