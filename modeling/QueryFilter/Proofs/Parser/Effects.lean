import QueryFilter.Parser

/-!
# Runs with effects

Builders that are any functions may do more than a pure function says: they may keep a
state, write to a log, or fail with errors of their own. What they do is told by a monad and
an action for each builder (`Parser.runIn`); a run goes through the fields as before and
leaves everything about builders to the actions.

* `runIn_append`: two queries, one after the other;
* `runIn_related`: two monads, side by side;
* `runIn_filter`: fields that are dropped have no part in a run;
* `runIn_map`: nor have the names of fields, but for what becomes of them;
* `run_eq_runIn`, `parse_eq_parseIn`: pure builders that may fail are one such case;
* `parse_map`: so a query with other names has the same outcome, whatever builders do.
-/

namespace QueryFilter

universe u v

/-- What builders do with a filter and a request value in a monad. -/
abbrev BuilderAction (m : Type → Type u) := Builder → Document → Value → m Document

namespace Parser

variable {m : Type → Type u} [Monad m]

/-- Goes through the fields of a query, starting with the filter made so far, where
    builders act in a monad. -/
def runIn (p : Parser) (act : BuilderAction m) (filter : Document) : Query → m Document
  | [] => pure filter
  | (name, raw) :: rest =>
    match p.route name raw with
    | .drop _ => runIn p act filter rest
    | .store key v => runIn p act (filter.assign key v) rest
    | .build b => do runIn p act (← act b filter raw) rest

/-- The filter of a query, where builders act in a monad. -/
def parseIn (p : Parser) (act : BuilderAction m) (query : Query) : m Document :=
  p.runIn act [] query

variable {p : Parser} {act : BuilderAction m} {filter : Document} {name : String} {raw : Value}
  {rest : Query}

/-- Without fields nothing happens. -/
theorem runIn_nil : p.runIn act filter [] = pure filter := rfl

/-- A field that is dropped does nothing. -/
theorem runIn_cons_drop {reason : DropReason} (h : p.route name raw = .drop reason) :
    p.runIn act filter ((name, raw) :: rest) = p.runIn act filter rest := by
  rw [runIn, h]

/-- A field that is stored changes one entry of the filter. -/
theorem runIn_cons_store {key : String} {v : Value} (h : p.route name raw = .store key v) :
    p.runIn act filter ((name, raw) :: rest) = p.runIn act (filter.assign key v) rest := by
  rw [runIn, h]

/-- A field that goes to a builder does what the builder does. -/
theorem runIn_cons_build {b : Builder} (h : p.route name raw = .build b) :
    p.runIn act filter ((name, raw) :: rest) =
      act b filter raw >>= fun filter => p.runIn act filter rest := by
  rw [runIn, h]

/-- The fields of two queries, one after the other, are gone through in two runs. -/
theorem runIn_append [LawfulMonad m] (p : Parser) (act : BuilderAction m) (filter : Document)
    (q₁ q₂ : Query) : p.runIn act filter (q₁ ++ q₂) =
      p.runIn act filter q₁ >>= fun filter => p.runIn act filter q₂ := by
  induction q₁ generalizing filter with
  | nil => rw [List.nil_append, runIn_nil, pure_bind]
  | cons field q₁ ih =>
    obtain ⟨name, raw⟩ := field
    rw [List.cons_append]
    cases hr : p.route name raw with
    | drop reason => rw [runIn_cons_drop hr, runIn_cons_drop hr, ih]
    | store key v => rw [runIn_cons_store hr, runIn_cons_store hr, ih]
    | build b =>
      rw [runIn_cons_build hr, runIn_cons_build hr, bind_assoc]
      congr 1
      funext filter'
      exact ih filter'

/-- What holds of doing nothing, of one thing after another, and of what each builder does in two
    monads holds of runs in them. -/
theorem runIn_related {n : Type → Type v} [Monad n] {act' : BuilderAction n}
    (R : m Document → n Document → Prop) (hpure : ∀ filter, R (pure filter) (pure filter))
    (hbind : ∀ {x y f g}, R x y → (∀ filter, R (f filter) (g filter)) → R (x >>= f) (y >>= g))
    (hact : ∀ b filter raw, R (act b filter raw) (act' b filter raw)) (filter : Document)
    (query : Query) : R (p.runIn act filter query) (p.runIn act' filter query) := by
  induction query generalizing filter with
  | nil => exact hpure filter
  | cons field rest ih =>
    obtain ⟨name, raw⟩ := field
    cases hr : p.route name raw with
    | drop reason =>
      rw [runIn_cons_drop hr, runIn_cons_drop hr]
      exact ih filter
    | store key v =>
      rw [runIn_cons_store hr, runIn_cons_store hr]
      exact ih _
    | build b =>
      rw [runIn_cons_build hr, runIn_cons_build hr]
      exact hbind (hact b filter raw) ih

/-- Fields that are dropped may be left out of a run. -/
theorem runIn_filter (keep : String × Value → Bool) {query : Query}
    (h : ∀ field ∈ query, keep field = false → ∃ reason, p.route field.1 field.2 = .drop reason)
    (filter : Document) : p.runIn act filter (query.filter keep) = p.runIn act filter query := by
  induction query generalizing filter with
  | nil => rfl
  | cons field rest ih =>
    obtain ⟨name, raw⟩ := field
    obtain ⟨hfield, hrest⟩ := List.forall_mem_cons.1 h
    cases hkeep : keep (name, raw) with
    | false =>
      obtain ⟨reason, hr⟩ := hfield hkeep
      rw [List.filter_cons_of_neg (by simp [hkeep]), runIn_cons_drop hr, ih hrest]
    | true =>
      -- Both runs take the same step; what a builder makes of the filter is the same too.
      rw [List.filter_cons_of_pos hkeep]
      cases hr : p.route name raw with
      | drop reason => rw [runIn_cons_drop hr, runIn_cons_drop hr, ih hrest]
      | store key v => rw [runIn_cons_store hr, runIn_cons_store hr, ih hrest]
      | build b =>
        rw [runIn_cons_build hr, runIn_cons_build hr]
        congr 1
        funext filter'
        exact ih hrest filter'

/-- Fields may have other names, even for another parser, if the same becomes of their values
    under those names. -/
theorem runIn_map {p' : Parser} (rename : String → Value → String) {query : Query}
    (h : ∀ field ∈ query, p'.route (rename field.1 field.2) field.2 = p.route field.1 field.2)
    (filter : Document) :
    p'.runIn act filter (query.map fun field => (rename field.1 field.2, field.2)) =
      p.runIn act filter query := by
  induction query generalizing filter with
  | nil => rfl
  | cons field rest ih =>
    obtain ⟨name, raw⟩ := field
    obtain ⟨hfield, hrest⟩ := List.forall_mem_cons.1 h
    rw [List.map_cons]
    cases hr : p.route name raw with
    | drop reason => rw [runIn_cons_drop (hfield.trans hr), runIn_cons_drop hr, ih hrest]
    | store key v => rw [runIn_cons_store (hfield.trans hr), runIn_cons_store hr, ih hrest]
    | build b =>
      rw [runIn_cons_build (hfield.trans hr), runIn_cons_build hr]
      congr 1
      funext filter'
      exact ih hrest filter'

/-- A run is one in which the only effect of builders is that they may fail. -/
theorem run_eq_runIn (p : Parser) (filter : Document) (query : Query) :
    (p.run filter query).result = p.runIn Builder.run filter query := by
  induction query generalizing filter with
  | nil => rfl
  | cons field rest ih =>
    obtain ⟨name, raw⟩ := field
    cases h : p.route name raw with
    | drop reason =>
      rw [run_cons_drop h, runIn_cons_drop h, ← ih]
      rfl
    | store key v => rw [run_cons_store h, runIn_cons_store h, ih]
    | build b =>
      -- An error ends both runs, and a filter is what both go on with.
      rw [runIn_cons_build h]
      simp only [run, h]
      cases b.run filter raw with
      | error e => rfl
      | ok filter' => exact ih filter'

/-- The filter of a query is the one that builders make whose only effect is that they may
    fail. -/
theorem parse_eq_parseIn (p : Parser) (query : Query) : p.parse query = p.parseIn Builder.run query :=
  run_eq_runIn p [] query

/-- A field that is stored changes one entry of the filter of the fields before it. -/
theorem parse_append_cons_of_store {before : Query} {key : String} {v : Value}
    (h : p.parse before = .ok filter) (hr : p.route name raw = .store key v) (after : Query) :
    p.parse (before ++ (name, raw) :: after) = (p.run (filter.assign key v) after).result := by
  rw [parse_eq_parseIn, parseIn] at h ⊢
  rw [runIn_append, h, run_eq_runIn]
  exact runIn_cons_store hr

/-- A query whose fields have other names, even for another parser, has the same outcome if the
    same becomes of their values under those names. -/
theorem parse_map {p p' : Parser} (rename : String → Value → String) {query : Query}
    (h : ∀ field ∈ query, p'.route (rename field.1 field.2) field.2 = p.route field.1 field.2) :
    p'.parse (query.map fun field => (rename field.1 field.2, field.2)) = p.parse query ∧
      ∀ (m : Type → Type u) [Monad m] (act : BuilderAction m),
        p'.parseIn act (query.map fun field => (rename field.1 field.2, field.2)) =
          p.parseIn act query := by
  refine ⟨?_, fun m _ act => runIn_map rename h []⟩
  rw [parse_eq_parseIn, parse_eq_parseIn]
  exact runIn_map rename h []

end Parser

end QueryFilter
