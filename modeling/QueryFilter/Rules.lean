import QueryFilter.Builder

/-!
# Field rules

What is done with a request field depends on its name alone: it is dropped, its value
goes to a builder, or it is read under an output name. The lists, the aliases and the
builders of a parser say which, in four steps (`RuleSource.resolve`). The rules of all
names that they mention are computed once and kept in a table (`RuleTable`); the rest
of the names share a rule for unknown ones.

* `RuleTable.size`: how many names have a rule of their own.
-/

namespace QueryFilter

/-- Why the rule of a field drops it. -/
inductive DenialReason where
  | notWhitelisted
  | blacklisted
deriving DecidableEq, Repr

/-- The text of the reason. -/
def DenialReason.text : DenialReason → String
  | .notWhitelisted => "not whitelisted"
  | .blacklisted => "blacklisted"

/-- What is done with a field: dropped, given to the builder registered for `target`,
    or read and stored under `target`. -/
inductive FieldRule where
  | denied (reason : DenialReason)
  | custom (target : String) (builder : Builder)
  | renamed (target : String)
  | standard (target : String)

namespace FieldRule

/-- The word for what is done. -/
def action : FieldRule → String
  | .denied _ => "denied"
  | .custom _ _ => "custom"
  | .renamed _ => "alias"
  | .standard _ => "default"

/-- The name that the field has after renaming; a field that is dropped has none. -/
def target? : FieldRule → Option String
  | .denied _ => none
  | .custom target _ => some target
  | .renamed target => some target
  | .standard target => some target

/-- The builder that the field's value is given to. -/
def builder? : FieldRule → Option Builder
  | .custom _ builder => some builder
  | _ => none

/-- Why the field is dropped. -/
def denial? : FieldRule → Option DenialReason
  | .denied reason => some reason
  | _ => none

end FieldRule

/-- What the rules are made from. -/
structure RuleSource where
  aliases : Entries String
  blacklist : List String
  whitelist : List String
  builders : Entries Builder

namespace RuleSource

/-- The output name of a field. Aliases are not chained. -/
def target (src : RuleSource) (name : String) : String :=
  (src.aliases.get? name).getD name

/-- The rule of a field that is not dropped. -/
def keep (src : RuleSource) (name : String) : FieldRule :=
  let target := src.target name
  match src.builders.get? target with
  | some b => .custom target b
  | none => if target = name then .standard name else .renamed target

/-- The rule of a field: it is dropped if there is a whitelist without it, or if it is
    in the blacklist; its builder is the one registered for its output name; and
    otherwise it is read under its output name. -/
def resolve (src : RuleSource) (name : String) : FieldRule :=
  if src.whitelist ≠ [] ∧ name ∉ src.whitelist then .denied .notWhitelisted
  else if name ∈ src.blacklist then .denied .blacklisted
  else src.keep name

/-- The names that are mentioned anywhere, each of them once. -/
def mentioned (src : RuleSource) : List String :=
  (src.aliases.names ++ src.blacklist ++ src.whitelist ++ src.builders.names).eraseDups

end RuleSource

/-- The rules of the names that are mentioned, and whether all others are dropped. -/
structure RuleTable where
  rules : Entries FieldRule
  dropsUnknown : Bool

namespace RuleTable

/-- The table of all rules. -/
def ofSource (src : RuleSource) : RuleTable where
  rules := src.mentioned.map fun name => (name, src.resolve name)
  dropsUnknown := !src.whitelist.isEmpty

/-- The rule of a field. -/
def lookup (t : RuleTable) (name : String) : FieldRule :=
  match t.rules.get? name with
  | some rule => rule
  | none => if t.dropsUnknown then .denied .notWhitelisted else .standard name

/-- How many names have a rule of their own. -/
def size (t : RuleTable) : Nat :=
  t.rules.length

end RuleTable

end QueryFilter
