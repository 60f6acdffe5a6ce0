import QueryFilter.Proofs.Parser.Effects
import QueryFilter.Proofs.Parser.Route
import Mathlib.Data.List.Basic

/-!
# Denied fields

A denied field has no part in a run: neither its value nor its alias nor a builder of that
name is looked at, whatever the builders of the parser do otherwise. What a query leads to is
decided by the fields that are kept (`Options.kept`).

* `runIn_kept`: denied fields may be left out of a run;
* `parse_eq_of_kept_eq`: queries that keep the same fields have the same outcome.
-/

namespace QueryFilter

universe u

/-- The fields of a query that are not denied, in order. -/
def Options.kept (o : Options) (query : Query) : Query :=
  query.filter fun field => ¬o.Denies field.1 field.2

namespace Parser

variable {m : Type → Type u} [Monad m] {o : Options}

/-- Denied fields may be left out of a run. -/
theorem runIn_kept (act : BuilderAction m) (filter : Document) (query : Query) :
    (ofOptions o).runIn act filter (o.kept query) = (ofOptions o).runIn act filter query := by
  refine runIn_filter _ (fun field _ hkeep => ?_) filter
  have hd : o.Denies field.1 field.2 := Decidable.not_not.1 (of_decide_eq_false hkeep)
  obtain ⟨reason, hr⟩ := route_of_denies hd
  exact ⟨_, hr⟩

/-- Queries that keep the same fields, in the same order, have the same outcome: the same
    filter or the same error. This is so whatever the builders do, with whatever effects. -/
theorem parse_eq_of_kept_eq (o : Options) {q₁ q₂ : Query} (h : o.kept q₁ = o.kept q₂) :
    (ofOptions o).parse q₁ = (ofOptions o).parse q₂ ∧
      ∀ (m : Type → Type u) [Monad m] (act : BuilderAction m),
        (ofOptions o).parseIn act q₁ = (ofOptions o).parseIn act q₂ := by
  have hrun : ∀ (m : Type → Type u) [Monad m] (act : BuilderAction m),
      (ofOptions o).parseIn act q₁ = (ofOptions o).parseIn act q₂ := by
    intro m _ act
    rw [parseIn, ← runIn_kept, h, runIn_kept, ← parseIn]
  refine ⟨?_, hrun⟩
  rw [parse_eq_parseIn, parse_eq_parseIn, parseIn, ← runIn_kept, h, runIn_kept, ← parseIn]

/-- Options whose blacklist has a field with an alias, where a builder always fails. -/
def secretOptions : Options :=
  { Options.standard .standard with
    blacklist := ["secret"], aliases := [("secret", "name")],
    custom := [("name", .given (.call fun _ _ => .error (.raised "no")))] }

/-- A denied field with two values at two places. -/
theorem parse_eq_of_kept_eq_secret :
    secretOptions.kept [("secret", .str "x"), ("size", .str ">1")] =
      secretOptions.kept [("size", .str ">1"), ("secret[]", .list [.str "y", .null])] ∧
    (ofOptions secretOptions).parse [("secret", .str "x"), ("size", .str ">1")] =
      (ofOptions secretOptions).parse
        [("size", .str ">1"), ("secret[]", .list [.str "y", .null])] := by
  have h : secretOptions.kept [("secret", .str "x"), ("size", .str ">1")] =
      secretOptions.kept [("size", .str ">1"), ("secret[]", .list [.str "y", .null])] := by
    decide +kernel
  exact ⟨h, (parse_eq_of_kept_eq.{0} secretOptions h).1⟩

end Parser

end QueryFilter
