import QueryFilter.Proofs.Parser.Effects
import QueryFilter.Proofs.Parser.Route
import QueryFilter.Proofs.QueryString.ArraySuffix
import Mathlib.Data.List.Basic

/-!
# Aliases

Aliases are new names and nothing else. If no list keeps fields out, then a parser does with a
query what it does without aliases with the query whose fields have their new names
(`Options.renamed`): patterns and builders know the new names only, and a new name is not looked
up again, even if it is another field's old one.

* `route_withoutAliases`: what becomes of a field under its new name;
* `parse_renamed`: the outcome of a query with new names.
-/

namespace QueryFilter

universe u

namespace Options

variable (o : Options)

/-- The options without aliases. -/
def withoutAliases : Options :=
  { o with aliases := [] }

/-- The new name of a field. The array suffix of a list is no part of its old name, and comes
    after the new one. -/
def newName (name : String) : Value → String
  | .list _ => o.outputName (QueryString.dropArraySuffix name) ++ "[]"
  | _ => o.outputName name

/-- The query whose fields have their new names. -/
def renamed (query : Query) : Query :=
  query.map fun field => (o.newName field.1 field.2, field.2)

/-- Without lists, no field is denied. -/
theorem not_denies_of_eq_nil {o : Options} (hblack : o.blacklist = []) (hwhite : o.whitelist = [])
    (name : String) (raw : Value) : ¬o.Denies name raw := by
  simp [Denies, hblack, hwhite]

end Options

namespace Parser

variable {o : Options}

/-- A field is read under its new name. -/
theorem fieldName_newName (o : Options) (name : String) (raw : Value) :
    fieldName (o.newName name raw) raw = o.outputName (fieldName name raw) := by
  cases raw with
  | list items => exact QueryString.dropArraySuffix_append _
  | _ => rfl

/-- Under its new name, the same becomes of a field without aliases. -/
theorem route_withoutAliases (hblack : o.blacklist = []) (hwhite : o.whitelist = [])
    (name : String) (raw : Value) :
    (ofOptions o.withoutAliases).route (o.newName name raw) raw = (ofOptions o).route name raw := by
  have hname : o.withoutAliases.outputName (fieldName (o.newName name raw) raw) =
      o.outputName (fieldName name raw) := fieldName_newName o name raw
  rw [route_of_not_denies (Options.not_denies_of_eq_nil hblack hwhite name raw),
    route_of_not_denies (o := o.withoutAliases) (Options.not_denies_of_eq_nil hblack hwhite _ raw),
    hname]
  rfl

/-- Without lists, a query has the same outcome as the query whose fields have their new names
    has without aliases: the same filter or the same error. This is so whatever the builders do,
    with whatever effects. -/
theorem parse_renamed (hblack : o.blacklist = []) (hwhite : o.whitelist = []) (query : Query) :
    (ofOptions o.withoutAliases).parse (o.renamed query) = (ofOptions o).parse query ∧
      ∀ (m : Type → Type u) [Monad m] (act : BuilderAction m),
        (ofOptions o.withoutAliases).parseIn act (o.renamed query) =
          (ofOptions o).parseIn act query :=
  parse_map o.newName fun field _ => route_withoutAliases hblack hwhite field.1 field.2

/-- Options in which an alias is another field's name, and one ends in brackets. -/
def chainedOptions : Options :=
  { Options.standard .standard with
    aliases := [("a", "b"), ("b", "tags[]"), ("when", "after")],
    custom := [("b", .given (.call fun filter raw => .ok (filter.assign "seen" raw))),
      ("after", .builtIn .after "date")] }

/-- A list, a field for a function and one for a built-in builder, under their new names. -/
theorem parse_renamed_chained :
    chainedOptions.blacklist = [] ∧ chainedOptions.whitelist = [] ∧
    (ofOptions chainedOptions.withoutAliases).parse
      [("tags[][]", .list [.str "x", .str "!y"]), ("b", .str "1"), ("after", .str "2014-01-01")] =
        .ok [("tags[]", .doc [("$in", .list [.str "x"]), ("$nin", .list [.str "y"])]),
          ("seen", .str "1"), ("date", .doc [("$gte", .str "2014-01-01T00:00:00.000Z")])] := by
  have hrenamed : chainedOptions.renamed
      [("b[]", .list [.str "x", .str "!y"]), ("a", .str "1"), ("when", .str "2014-01-01")] =
      [("tags[][]", .list [.str "x", .str "!y"]), ("b", .str "1"),
        ("after", .str "2014-01-01")] := by
    decide
  have hparse : (ofOptions chainedOptions).parse
      [("b[]", .list [.str "x", .str "!y"]), ("a", .str "1"), ("when", .str "2014-01-01")] =
        .ok [("tags[]", .doc [("$in", .list [.str "x"]), ("$nin", .list [.str "y"])]),
          ("seen", .str "1"), ("date", .doc [("$gte", .str "2014-01-01T00:00:00.000Z")])] := by
    decide +kernel
  refine ⟨rfl, rfl, ?_⟩
  rw [← hrenamed, (parse_renamed.{0} rfl rfl _).1, hparse]

end Parser

end QueryFilter
