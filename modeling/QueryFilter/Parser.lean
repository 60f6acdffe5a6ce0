import QueryFilter.Failure
import QueryFilter.Log
import QueryFilter.Options
import QueryFilter.QueryString
import QueryFilter.Rules

/-!
# Parsers

A parser turns a query, which is a mapping from field names to request values, into a
filter. What becomes of a field is decided without looking at the filter
(`Parser.route`): it is dropped for a reason, its value is stored under an output
name, or it goes to a builder. A run goes through the fields in order and lets each
of them change the filter; it ends early only if a builder fails (`Parser.run`).

* `run_nil`, `run_cons_drop`, `run_cons_store`: one field of a run.
-/

namespace QueryFilter

/-- A request: values under field names. -/
abbrev Query := Entries Value

/-- Why a field is dropped. -/
inductive DropReason where
  | denied (reason : DenialReason)
  | invalidKey
  | emptyArray
  | unsupported (kind : String)
deriving DecidableEq, Repr

/-- The text of the reason. -/
def DropReason.text : DropReason → String
  | .denied reason => reason.text
  | .invalidKey => "invalid key"
  | .emptyArray => "empty or unsupported array"
  | .unsupported kind => "unsupported value " ++ kind

/-- A field that was dropped, under its name in the request. -/
structure Drop where
  name : String
  reason : DropReason
deriving DecidableEq, Repr

/-- What becomes of a field. -/
inductive Route where
  | drop (reason : DropReason)
  | build (builder : Builder)
  | store (key : String) (value : Value)

/-- How a run ends: the fields that were dropped up to its end, and the filter, unless
    a builder failed. -/
structure Outcome where
  drops : List Drop
  result : Except BuilderError Document

/-- An outcome with a drop before all others. -/
def Outcome.addDrop (o : Outcome) (d : Drop) : Outcome :=
  { o with drops := d :: o.drops }

/-- A parser: its options, and the rules of field names that follow from them. -/
structure Parser where
  options : Options
  rules : RuleTable

namespace Parser

/-! ## Making parsers -/

/-- What the rules of a parser are made from. -/
def ruleSource (o : Options) : RuleSource where
  aliases := o.aliases
  blacklist := o.blacklist
  whitelist := o.whitelist
  builders := o.custom.map fun (name, choice) => (name, choice.bind)

/-- The parser with the given options. -/
def ofOptions (o : Options) : Parser :=
  ⟨o, .ofSource (ruleSource o)⟩

/-- The failure of options that are not valid. -/
def invalidOptions (flaws : List Flaw) : Failure :=
  ⟨.invalidConfig, "Invalid parser options",
    [("errors", .list (flaws.map fun flaw => .str flaw.text))]⟩

/-- Why no parser is made: a failure, or a number in a pattern that is too large to be
    read, of which no failure is made. -/
inductive MakeError where
  | failure (f : Failure)
  | overflow (o : Overflow)

/-- The parser with the options of a document, which single options override. -/
def make (chars : CharNames) (settings : Settings) (doc overrides : Entries RawOption) :
    Except MakeError Parser :=
  match Options.check chars settings (doc.update overrides) with
  | .ok o => .ok (ofOptions o)
  | .error (.flaws fs) => .error (.failure (invalidOptions fs))
  | .error (.overflow o) => .error (.overflow o)

/-- The failure of single options beside options that are already made. -/
def mixedOptions (names : List String) : Failure :=
  ⟨.invalidConfig, "Pass either a ParserOptions instance or keyword options",
    [("options", .list ((names.mergeSort fun a b => decide (a ≤ b)).map .str))]⟩

/-- The parser with options that are already made, beside which there may be no single
    options. -/
def makeWith (o : Options) (overrides : Entries RawOption) : Except Failure Parser :=
  if overrides.isEmpty then .ok (ofOptions o) else .error (mixedOptions overrides.names)

/-! ## Values -/

variable (p : Parser)

/-- How the tokens of a request are read. -/
def grammar : Token.Grammar :=
  ⟨p.options.coercion, p.options.valuePattern⟩

/-- The token that a text is. -/
def readToken (array : Bool) (s : String) : Token :=
  .read p.grammar array s

/-- The value that a text without an operator stands for. -/
def readPlain (s : String) : Value :=
  (Scalar.read p.options.coercion s).toValue

/-- Whether the first character of a text is one of the parser's operators. -/
def hasOperator (s : String) : Bool :=
  match s.toList with
  | [] => false
  | c :: _ => p.options.operators.contains (String.singleton c)

/-- What is stored for a text: a condition, or the value that the field equals. -/
def readScalar (s : String) : Value :=
  if s = "" then .doc [(Tag.present.text, .bool true)]
  else if p.hasOperator s then .doc (p.readToken false s).fragment
  else p.readPlain s

/-- Adds a value to the list under a tag. -/
def appendUnder (tag : Tag) (v : Value) (fragment : Document) : Document :=
  fragment.modify tag.text (.list []) fun
    | .list items => .list (items ++ [v])
    | w => w

/-- Adds the condition of one text of a list: values that are sought, and values that
    are excluded, are collected, and another condition replaces an earlier one of its
    kind. -/
def addItem (fragment : Document) (s : String) : Document :=
  if p.hasOperator s then
    let token := p.readToken true s
    if token.filterKey = Tag.oneOf.text then appendUnder .oneOf token.value fragment
    else if token.filterKey = Tag.noneOf.text then appendUnder .noneOf token.value fragment
    else fragment.update token.fragment
  else appendUnder .oneOf (p.readPlain s) fragment

/-- The condition of a list, if lists are enabled and there is a text in it. Items that
    are not texts do not count. -/
def readList (items : List Value) : Option Document :=
  if p.options.operators.contains Tag.oneOf.text then
    let fragment := (items.filterMap Value.str?).foldl p.addItem []
    if fragment.isEmpty then none else some fragment
  else none

/-! ## Fields -/

/-- The name under which the rule of a field is looked up. -/
def fieldName (name : String) (raw : Value) : String :=
  match raw with
  | .list _ => QueryString.dropArraySuffix name
  | _ => name

/-- Whether an output name may be used for a value of the given kind. -/
def acceptsKey (key : String) (raw : Value) : Bool :=
  match raw with
  | .str _ => p.options.keyPattern.finds key.toList
  | .list _ => p.options.arrayPattern.finds key.toList
  | _ => true

/-- What becomes of a field without a builder that is read under the name `key`. -/
def routeValue (key : String) (raw : Value) : Route :=
  match raw with
  | .str s => .store key (p.readScalar s)
  | .list items =>
    match p.readList items with
    | some fragment => .store key (.doc fragment)
    | none => .drop .emptyArray
  | v => .drop (.unsupported v.kindName)

/-- What becomes of a field that has the output name `key`, and perhaps a builder. -/
def routeKey (key : String) (builder : Option Builder) (raw : Value) : Route :=
  if p.acceptsKey key raw then
    match builder with
    | some b => .build b
    | none => p.routeValue key raw
  else .drop .invalidKey

/-- What becomes of a field. -/
def route (name : String) (raw : Value) : Route :=
  match p.rules.lookup (fieldName name raw) with
  | .denied reason => .drop (.denied reason)
  | .custom key b => p.routeKey key (some b) raw
  | .renamed key => p.routeKey key none raw
  | .standard key => p.routeKey key none raw

/-! ## Runs -/

/-- Goes through the fields of a query, starting with the filter made so far. -/
def run (filter : Document) : Query → Outcome
  | [] => ⟨[], .ok filter⟩
  | (name, raw) :: rest =>
    match p.route name raw with
    | .drop reason => (run filter rest).addDrop ⟨name, reason⟩
    | .store key v => run (filter.assign key v) rest
    | .build b =>
      match b.run filter raw with
      | .ok filter => run filter rest
      | .error e => ⟨[], .error e⟩

/-- The outcome of a query. -/
def outcome (query : Query) : Outcome :=
  p.run [] query

/-- The filter of a query, unless a builder fails. -/
def parse (query : Query) : Except BuilderError Document :=
  (p.outcome query).result

/-- The filter of a query string, unless a builder fails. -/
def parseQueryString (query : String) : Except BuilderError Document :=
  p.parse (QueryString.decode query)

variable {p}

/-- A run over no fields leaves the filter as it is. -/
@[simp] theorem run_nil (filter : Document) : p.run filter [] = ⟨[], .ok filter⟩ := rfl

/-- A field that is dropped does not change the filter. -/
theorem run_cons_drop {filter : Document} {name : String} {raw : Value} {reason : DropReason}
    {rest : Query} (h : p.route name raw = .drop reason) :
    p.run filter ((name, raw) :: rest) = (p.run filter rest).addDrop ⟨name, reason⟩ := by
  simp [run, h]

/-- A field that is stored changes one entry of the filter. -/
theorem run_cons_store {filter : Document} {name key : String} {raw v : Value} {rest : Query}
    (h : p.route name raw = .store key v) :
    p.run filter ((name, raw) :: rest) = p.run (filter.assign key v) rest := by
  simp [run, h]

/-! ## Records -/

variable (p)

/-- The logger of all parsers. -/
def logger : Log.Logger := .named (some "MongoQS")

/-- The record of a new parser. -/
def greeting (settings : Settings) : Log.Record :=
  let single := p.options.operators.filter fun op => op.length == 1
  let names := p.options.custom.names.mergeSort fun a b => decide (a ≤ b)
  logger.record (.ofName (some settings.logLevel))
    ("MongoQS initialized: operators=" ++ String.join single ++ " rules=" ++
      toString p.rules.size ++ " custom=" ++ Value.literalTexts names) []

/-- The record of a field that was dropped. -/
def dropRecord (d : Drop) : Log.Record :=
  logger.record .debug "Dropping field %r: %s" [.str d.name, .str d.reason.text]

end Parser

end QueryFilter
