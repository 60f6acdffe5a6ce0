import QueryFilter.Value.Literal

/-!
# Log records

Records have a level, the name of a logger and a text. The loggers of the library
share a namespace (`Logger.named`), and their levels have names in any letter case
(`Level.ofName`). Logging is configured once, when the first logger is made: a later
configuration changes nothing (`Configuration.setUp`).
-/

namespace QueryFilter.Log

/-- The levels of records. -/
inductive Level where
  | debug
  | info
  | warning
  | error
  | critical
deriving DecidableEq, Repr

namespace Level

/-- All levels. -/
def all : List Level := [.debug, .info, .warning, .error, .critical]

/-- The name of a level. -/
def name : Level → String
  | .debug => "DEBUG"
  | .info => "INFO"
  | .warning => "WARNING"
  | .error => "ERROR"
  | .critical => "CRITICAL"

/-- The number of a level; the more urgent, the larger. -/
def number : Level → Nat
  | .debug => 10
  | .info => 20
  | .warning => 30
  | .error => 40
  | .critical => 50

/-- The upper-case form of a character of a level name. The dotless `ı` is the one
    letter outside ASCII with an upper-case form that level names have. -/
def upper (c : Char) : Char :=
  if c = 'ı' then 'I' else c.toUpper

/-- The level that a text names in any letter case; an unknown name, or none, means
    `info`. -/
def ofName (name : Option String) : Level :=
  let wanted := ((name.getD "").toList.map upper)
  (all.find? fun level => level.name.toList == wanted).getD .info

end Level

/-- A line of a log. -/
structure Record where
  level : Level
  logger : String
  text : String
deriving DecidableEq, Repr

/-- The namespace of all loggers of the library. -/
def root : String := "mongoqs"

/-- A logger, which is known by its name. -/
structure Logger where
  name : String
deriving DecidableEq, Repr

namespace Logger

/-- The logger of a name, which is put into the namespace unless it is in it. -/
def named (name : Option String) : Logger :=
  match name with
  | none => ⟨root⟩
  | some name =>
    if name = "" ∨ name = root then ⟨root⟩
    else if (root ++ ".").toList.isPrefixOf name.toList then ⟨name⟩
    else ⟨root ++ "." ++ name⟩

/-- A value where a message has `%s`: a text as it is, anything else as a literal. -/
def plainText : Value → String
  | .str s => s
  | v => v.literal

/-- Fills the places of a message, `%s` with a plain text and `%r` with a literal. -/
def fill : List Char → List Value → List Char
  | '%' :: 's' :: cs, v :: vs => (plainText v).toList ++ fill cs vs
  | '%' :: 'r' :: cs, v :: vs => v.literal.toList ++ fill cs vs
  | '%' :: '%' :: cs, vs => '%' :: fill cs vs
  | c :: cs, vs => c :: fill cs vs
  | [], _ => []

/-- A record of a message with arguments. A message without arguments is left as it
    is. -/
def record (l : Logger) (level : Level) (message : String) (args : List Value) : Record :=
  ⟨level, l.name, if args.isEmpty then message else String.ofList (fill message.toList args)⟩

end Logger

/-- Whether logging has been configured, and at which level. -/
structure Configuration where
  level : Option Level
deriving DecidableEq, Repr

namespace Configuration

/-- Nothing has been configured yet. -/
def none : Configuration := ⟨.none⟩

/-- Configures logging at a level, unless that has been done before; with the level
    if it is the first time. -/
def setUp (c : Configuration) (level : Level) : Configuration × Option Level :=
  match c.level with
  | .none => (⟨some level⟩, some level)
  | some _ => (c, .none)

/-- Makes a logger while the level of the settings is named `levelName`; the first
    logger configures logging. -/
def makeLogger (c : Configuration) (levelName : String) (name : Option String) :
    Configuration × Logger × Option Level :=
  let made := c.setUp (.ofName (some levelName))
  (made.1, .named name, made.2)

end Configuration

end QueryFilter.Log
