import QueryFilter.Scalar
import QueryFilter.Validation

/-!
# Settings

The defaults of all parsers of a process: the level of one-off log records, and which
texts are coerced. They come from environment variables, whose names count in any
letter case (`Settings.ofEnvironment`).
-/

namespace QueryFilter

/-- The defaults of a process. -/
structure Settings where
  logLevel : String
  coercion : Coercion
deriving DecidableEq, Repr

namespace Settings

/-- The settings without an environment. -/
def standard : Settings :=
  ⟨"INFO", ⟨true, true⟩⟩

instance : Inhabited Settings := ⟨standard⟩

/-- The value of the variable called `name`; of several that differ in letter case the
    last one. -/
def valueOf? (env : List (String × String)) (name : String) : Option String :=
  let low (s : String) := s.toList.map Char.toLower
  (env.reverse.find? fun entry => low entry.1 == low name).map Prod.snd

/-- A truth value from the environment. -/
def readFlag (env : List (String × String)) (name : String) (default : Bool) : Checked Bool :=
  match valueOf? env name with
  | none => .ok default
  | some s =>
    match readBool (.str s) with
    | .ok b => .ok b
    | .error p => .flaw [name] p

/-- The settings that environment variables make. -/
def ofEnvironment (env : List (String × String)) : Checked Settings :=
  let logLevel := (valueOf? env "LOG_LEVEL").getD standard.logLevel
  Checked.start (fun b n => ⟨logLevel, ⟨b, n⟩⟩)
    |>.and (readFlag env "STRING_TO_BOOLEAN" standard.coercion.toBoolean)
    |>.and (readFlag env "STRING_TO_NUMBER" standard.coercion.toNumber)

end Settings

end QueryFilter
