import QueryFilter.Builder
import QueryFilter.Pattern.Reader
import QueryFilter.Pattern.Standard
import QueryFilter.Settings
import QueryFilter.Token

/-!
# Options

The options of a parser (`Options`), and how they are read from a document in which
each of them may be left out (`Options.check`): an operator may be given alone or in
a list; names to drop or to keep may be given as nothing, one name, a list, or an
object that marks them; four options and both coercions have a second spelling, and
the second spelling counts if both are there. What is read is canonical: sets of names
are sorted and have no repetitions, and aliases to nothing are left out.

All flaws of a document are found, in the order of the options, and then the names
that are no options. A number in a pattern that is too large to be read ends the check
without them.
-/

namespace QueryFilter

/-- An entry of the table of builders as it is given: a builder, or a value that has
    yet to say one. -/
inductive BuilderSetting where
  | builder (b : Builder)
  | value (v : Value)

/-- An option as it is given: a value, a table of builders, which only the option `custom`
    reads as such, or a pattern that has been made before, which only the options for
    patterns take. -/
inductive RawOption where
  | plain (v : Value)
  | table (entries : Entries BuilderSetting)
  | pattern (p : Pattern)

namespace RawOption

/-- An option as a value. A builder in it counts as something that is set and that is
    neither a text nor a truth value, and a pattern as something that is no text, no list
    and no object. -/
def value : RawOption → Value
  | .plain v => v
  | .table entries => .doc <| entries.map fun
    | (name, .builder _) => (name, .list [.null])
    | (name, .value v) => (name, v)
  | .pattern _ => .bool true

end RawOption

/-- A builder that an option asks for: one that is given, or the built-in one whose name
    the entry has, for an output field. -/
inductive BuilderChoice where
  | given (b : Builder)
  | builtIn (kind : BuilderKind) (field : String)

namespace BuilderChoice

/-- The output field, of a built-in builder. -/
def field? : BuilderChoice → Option String
  | .given _ => none
  | .builtIn _ field => some field

/-- The builder, bound to the output field if it is a built-in one. -/
def bind : BuilderChoice → Builder
  | .given b => b
  | .builtIn kind field => .bound kind field

end BuilderChoice

/-- The options of a parser. -/
structure Options where
  operators : List String
  aliases : Entries String
  blacklist : List String
  whitelist : List String
  custom : Entries BuilderChoice
  coercion : Coercion
  keyPattern : Pattern
  valuePattern : Pattern
  arrayPattern : Pattern

namespace Options

/-- All operators: the sigils of tokens, and the operator of lists. -/
def standardOperators : List String :=
  [Sigil.not, .startsWith, .endsWith, .contains, .greater, .less].map Sigil.text ++ [Tag.oneOf.text]

/-- The options that are used where a document says nothing. -/
def standard (settings : Settings) : Options where
  operators := standardOperators
  aliases := []
  blacklist := []
  whitelist := []
  custom := []
  coercion := settings.coercion
  keyPattern := .key
  valuePattern := .unsafeChars
  arrayPattern := .arrayKey

/-! ## Parts of a document -/

/-- A list of texts, each with its place in the list. -/
def checkStrings (name : String) (items : List Value) : Checked (List String) :=
  Checked.collect (fun entry : Value × Nat =>
    match entry.1 with
    | .str s => .ok s
    | _ => .flaw [name, toString entry.2] .notString) items.zipIdx

/-- One operator, or a list of operators. -/
def checkOperators (name : String) (v : Value) : Checked (List String) :=
  match v with
  | .str s => .ok [s]
  | .list items => checkStrings name items
  | _ => .flaw [name] .notSequence

/-- A mapping from field names to output names. -/
def checkAliases (name : String) (v : Value) : Checked (Entries String) :=
  match v with
  | .doc entries =>
    (Checked.collect (fun entry : String × Value =>
      match entry.2 with
      | .str s => .ok (entry.1, s)
      | _ => .flaw [name, entry.1] .notString) entries).map (·.filter fun entry => entry.2 != "")
  | _ => .flaw [name] .notMapping

/-- A set of names, in the order of their code points. -/
def nameSet (names : List String) : List String :=
  (names.mergeSort fun a b => decide (a ≤ b)).eraseDups

/-- A set of names: none, one, those of a list, or those that an object marks. -/
def checkNames (name : String) (v : Value) : Checked (List String) :=
  match v with
  | .null => .ok []
  | .str s => .ok [s]
  | .doc entries => .ok (nameSet ((entries.filter fun entry => entry.2.isTruthy).map Prod.fst))
  | .list items => (checkStrings name items).map nameSet
  | _ => .flaw [name] .notNameSet

/-- The builder that an entry asks for: any builder, or, under the name of a built-in
    kind, that kind bound to an output field. -/
def choose (name : String) (s : BuilderSetting) : Except Problem BuilderChoice :=
  match s, BuilderKind.ofName? name with
  | .builder b, _ => .ok (.given b)
  | .value (.str field), some kind =>
    if field = "" then .error (.notBuilder name true) else .ok (.builtIn kind field)
  | .value _, some _ => .error (.notBuilder name true)
  | .value _, none => .error (.notBuilder name false)

/-- The builders that a table asks for, or the first problem. -/
def chooseAll : Entries BuilderSetting → Except Problem (Entries BuilderChoice)
  | [] => .ok []
  | (name, s) :: rest =>
    match choose name s with
    | .error p => .error p
    | .ok c => (chooseAll rest).map ((name, c) :: ·)

/-- A table of builders. Its entries are looked at one after another, so that it has at
    most one flaw. -/
def checkBuilders (name : String) (raw : RawOption) : Checked (Entries BuilderChoice) :=
  let choices (entries : Entries BuilderSetting) : Checked (Entries BuilderChoice) :=
    match chooseAll entries with
    | .ok cs => .ok cs
    | .error p => .flaw [name] p
  match raw with
  | .table entries => choices entries
  | .plain (.doc entries) => choices (entries.map fun (k, v) => (k, .value v))
  | _ => .flaw [name] .notMapping

/-- A pattern, which is given as such or as text. -/
def checkPattern (chars : CharNames) (name : String) (raw : RawOption) : Checked Pattern :=
  match raw with
  | .pattern p => .ok p
  | .plain (.str s) =>
    match Pattern.read chars s with
    | .ok p => .ok p
    | .error e => .flaw [name] (.invalidPattern e)
  | _ => .flaw [name] .notPattern

/-- A truth value. -/
def checkFlag (name : String) (v : Value) : Checked Bool :=
  match readBool v with
  | .ok b => .ok b
  | .error p => .flaw [name] p

/-! ## Documents -/

/-- The entry of an option that has one of the names given, the first of them that is
    there. -/
def find? {α : Type} (doc : Entries α) (names : List String) : Option (String × α) :=
  names.findSome? fun name => (doc.get? name).map fun a => (name, a)

/-- Checks the option with one of the names given; without it there is a default. -/
def checkField {α β : Type} (doc : Entries α) (names : List String) (default : β)
    (check : String → α → Checked β) : Checked β :=
  match find? doc names with
  | some (name, a) => check name a
  | none => .ok default

/-- The names of a document that no option has used, in order. -/
def unknownNames {α : Type} (doc : Entries α) (options : List (List String)) : List Flaw :=
  let used := options.filterMap fun names => (find? doc names).map Prod.fst
  (doc.names.filter fun name => !used.contains name).map fun name => ⟨[name], .unknownName⟩

/-- The names of the two coercion options, the preferred spelling first. -/
def coercionNames : List (List String) :=
  [["toBoolean", "to_boolean"], ["toNumber", "to_number"]]

/-- The coercions that a document asks for. -/
def checkCoercion (default : Coercion) (doc : Document) : Checked Coercion :=
  Checked.start Coercion.mk
    |>.and (checkField doc ["toBoolean", "to_boolean"] default.toBoolean checkFlag)
    |>.and (checkField doc ["toNumber", "to_number"] default.toNumber checkFlag)
    |>.andAlso (unknownNames doc coercionNames)

/-- The name of the record of coercions in messages. -/
def coercionRecord : String := "StringOptions"

/-- The coercions that a value asks for, which must be an object. -/
def checkCoercionValue (default : Coercion) (v : Value) : Checked Coercion :=
  match v with
  | .doc entries => checkCoercion default entries
  | _ => .flaw [] (.notRecord coercionRecord)

/-- The coercions that the option called `name` asks for. -/
def checkCoercionOption (default : Coercion) (name : String) (v : Value) : Checked Coercion :=
  match checkCoercionValue default v with
  | .ok c => .ok c
  | .error fs => .error (fs.map (·.within name))

/-- The names of the options in their order, the preferred spelling first. -/
def names : List (List String) :=
  [["ops", "operators"], ["alias"], ["blacklist"], ["whitelist"], ["custom"], ["string"],
    ["keyRegex", "key_regex"], ["valRegex", "val_regex"], ["arrRegex", "arr_regex"]]

/-- The options that a document asks for, or all its flaws. -/
def checkAll (chars : CharNames) (settings : Settings) (doc : Entries RawOption) :
    Checked Options :=
  let base := standard settings
  let onValue {β : Type} (f : String → Value → Checked β) (name : String) (raw : RawOption) :=
    f name raw.value
  Checked.start Options.mk
    |>.and (checkField doc ["ops", "operators"] base.operators (onValue checkOperators))
    |>.and (checkField doc ["alias"] base.aliases (onValue checkAliases))
    |>.and (checkField doc ["blacklist"] base.blacklist (onValue checkNames))
    |>.and (checkField doc ["whitelist"] base.whitelist (onValue checkNames))
    |>.and (checkField doc ["custom"] base.custom checkBuilders)
    |>.and (checkField doc ["string"] base.coercion (onValue (checkCoercionOption base.coercion)))
    |>.and (checkField doc ["keyRegex", "key_regex"] base.keyPattern (checkPattern chars))
    |>.and (checkField doc ["valRegex", "val_regex"] base.valuePattern (checkPattern chars))
    |>.and (checkField doc ["arrRegex", "arr_regex"] base.arrayPattern (checkPattern chars))
    |>.andAlso (unknownNames doc names)

/-- The options that a document asks for. -/
def check (chars : CharNames) (settings : Settings) (doc : Entries RawOption) :
    Except Refusal Options :=
  (checkAll chars settings doc).mapError .ofFlaws

end Options

end QueryFilter
