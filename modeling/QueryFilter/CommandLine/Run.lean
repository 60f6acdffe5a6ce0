import QueryFilter.CommandLine.Arguments
import QueryFilter.Parser
import QueryFilter.Value.Json

/-!
# Running a command line

The parser that the options of a command line describe (`parserOf`), and the end of a
run: the filter of the query as a JSON text, a message about the configuration, or one
of the ways to break off (`Ending`).
-/

namespace QueryFilter.CommandLine

/-- How a run ends without a result or a message of its own: a builder failed, or something
    was too large to be read. -/
inductive Breakdown where
  | builder (e : BuilderError)
  | overflow (o : Overflow)
deriving DecidableEq, Repr

/-- The message of a breakdown. -/
def Breakdown.message : Breakdown → String
  | .builder e => e.message
  | .overflow o => o.message

/-- How a run ends. -/
inductive Ending where
  | usage (e : UsageError)
  | help
  | printed (code : Nat) (text : String)
  | broken (b : Breakdown)
deriving DecidableEq, Repr

/-- The failure of a pair that is not a name and a value. -/
def pairFailure (option item : String) : Failure :=
  ⟨.invalidConfig, "--" ++ option ++ " expects name=value", [("value", .str item)]⟩

/-- The name and the value of a pair, neither of them empty. -/
def pair? (item : String) : Option (String × String) :=
  match Text.cut '=' item.toList with
  | (name, some value) =>
    if name = [] ∨ value = [] then none else some (String.ofList name, String.ofList value)
  | _ => none

/-- The pairs that were given for an option, a later one overriding an earlier one of
    the same name. -/
def pairsFrom (option : String) (acc : Entries String) :
    List String → Except Failure (Entries String)
  | [] => .ok acc
  | item :: rest =>
    match pair? item with
    | some (name, value) => pairsFrom option (acc.assign name value) rest
    | none => .error (pairFailure option item)

/-- The pairs that were given for an option. -/
def pairs (option : String) (items : List String) : Except Failure (Entries String) :=
  pairsFrom option [] items

/-- A mapping as a value. -/
def mappingValue (es : Entries String) : Value :=
  .doc (es.map fun (name, s) => (name, .str s))

/-- Names as a value. -/
def namesValue (names : List String) : Value :=
  .list (names.map .str)

/-- The coercions that are switched off, as a value. -/
def coercionValue (a : Arguments) : Value :=
  .doc ((if a.noToBoolean then [("to_boolean", .bool false)] else []) ++
    (if a.noToNumber then [("to_number", .bool false)] else []))

/-- The options that arguments ask for, given the pairs in them. None of them is a
    pattern. -/
def optionsDocument (a : Arguments) (aliases custom : Entries String) : Entries RawOption :=
  [("alias", .plain (mappingValue aliases)), ("blacklist", .plain (namesValue a.blacklist)),
    ("whitelist", .plain (namesValue a.whitelist)), ("custom", .plain (mappingValue custom)),
    ("string", .plain (coercionValue a))]

/-- The parser that arguments describe. Names of characters, which only patterns have a use
    for, are not looked up. -/
def parserOf (settings : Settings) (a : Arguments) : Except Parser.MakeError Parser :=
  match pairs "alias" a.aliases with
  | .error f => .error (.failure f)
  | .ok aliases =>
    match pairs "custom" a.custom with
    | .error f => .error (.failure f)
    | .ok custom => Parser.make .none settings [] (optionsDocument a aliases custom)

/-- The end of a run with valid arguments. -/
def Ending.ofArguments (settings : Settings) (a : Arguments) : Ending :=
  match parserOf settings a with
  | .error (.failure f) => .printed 2 ("Configuration error: " ++ f.text ++ "\n")
  | .error (.overflow o) => .broken (.overflow o)
  | .ok p =>
    match p.parseQueryString (a.query.getD "") with
    | .error e => .broken (.builder e)
    | .ok filter => .printed 0 (Value.json a.indent.toNat (.doc filter) ++ "\n")

/-- The end of a run. -/
def run (settings : Settings) (args : List String) : Ending :=
  match Arguments.read args with
  | .error e => .usage e
  | .ok a => if a.help then .help else .ofArguments settings a

/-! ## Messages -/

/-- The name of the program in its messages. -/
def programName : String := "parse_query.py"

/-- How the program is called. -/
def usageText : String :=
  "usage: " ++ programName ++ " [-h] [--alias NAME=FIELD] [--blacklist NAME]\n" ++
    "                      [--whitelist NAME] [--custom BUILDER=FIELD]\n" ++
    "                      [--no-to-boolean] [--no-to-number] [--indent INDENT]\n" ++
    "                      query\n"

/-- The line about what is wrong with a command line. -/
def UsageError.line (e : UsageError) : String :=
  programName ++ ": error: " ++ e.message

/-- The text that a wrong command line is answered with. -/
def UsageError.text (e : UsageError) : String :=
  usageText ++ e.line ++ "\n"

/-- The text that a call for help is answered with, laid out for 80 columns. -/
def helpText : String :=
  usageText ++ "\n" ++
    "Compile a URL query string into a MongoDB filter\n\n" ++
    "positional arguments:\n" ++
    "  query                 URL query string, e.g. 'name=foo&age=>18'\n\n" ++
    "options:\n" ++
    "  -h, --help            show this help message and exit\n" ++
    "  --alias NAME=FIELD    Rename a field\n" ++
    "  --blacklist NAME      Always drop a field\n" ++
    "  --whitelist NAME      Only keep listed fields\n" ++
    "  --custom BUILDER=FIELD\n" ++
    "                        Enable a built-in builder (bbox, near, after, before,\n" ++
    "                        between) writing to FIELD\n" ++
    "  --no-to-boolean       Keep 'true'/'false' as strings\n" ++
    "  --no-to-number        Keep numerals as strings\n" ++
    "  --indent INDENT       JSON indentation (default: 2)\n"

end QueryFilter.CommandLine
