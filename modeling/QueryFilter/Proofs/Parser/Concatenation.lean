import QueryFilter.Proofs.Entries
import QueryFilter.Proofs.Parser.OutputKeys
import Mathlib.Data.List.Basic

/-!
# Queries one after the other

The filter of two queries put together, if all builders are built-in ones: the filter of the
first query, updated by the filter of the second. Where both have a key, the second value
replaces the first, of which nothing is left but its place. The fields of the two queries may
have names in common or write under common keys; neither query knows about the other.

* `entriesOf_append`: what the fields of two queries write;
* `get?_parse_of_last`: the last field that writes under a key decides on the value there;
* `parse_append`: the filter of two queries.
-/

namespace QueryFilter.Parser

variable {p : Parser} {o : Options} {q₁ q₂ : Query}

/-- The fields of two queries write what they write in their own query, unless one fails. -/
theorem entriesOf_append (p : Parser) (q₁ q₂ : Query) : p.entriesOf (q₁ ++ q₂) =
    (p.entriesOf q₁).bind fun es₁ => (p.entriesOf q₂).map (es₁ ++ ·) := by
  induction q₁ with
  | nil =>
    rw [List.nil_append, entriesOf, Except.bind]
    cases p.entriesOf q₂ <;> rfl
  | cons field q₁ ih =>
    obtain ⟨name, raw⟩ := field
    rw [List.cons_append, entriesOf, entriesOf, ih]
    cases p.entryOf name raw with
    | error e => rfl
    | ok entry =>
      -- An error of either query is an error of both; else the lists are put together.
      cases p.entriesOf q₁ with
      | error e => rfl
      | ok es₁ =>
        cases p.entriesOf q₂ with
        | error e => rfl
        | ok es₂ => simp [Except.bind, Except.map]

/-- The last field that writes under a key says what is found there. -/
theorem get?_parse_of_last (ho : o.IsBuiltIn) {before after : Query} {name key : String}
    {raw v : Value} {filter : Document}
    (h : (ofOptions o).parse (before ++ (name, raw) :: after) = .ok filter)
    (he : (ofOptions o).entryOf name raw = .ok (some (key, v)))
    (hlast : ∀ field ∈ after, ¬o.Writes field.1 field.2 key) : filter.get? key = some v := by
  obtain ⟨es, hes, rfl⟩ := (parse_eq_ok_iff ho).1 h
  rw [entriesOf_append, entriesOf, he] at hes
  cases h₁ : (ofOptions o).entriesOf before with
  | error e => simp [h₁, Except.bind] at hes
  | ok es₁ =>
    cases h₂ : (ofOptions o).entriesOf after with
    | error e => simp [h₁, h₂, Except.bind, Except.map] at hes
    | ok es₂ =>
      have hnot : key ∉ Entries.names es₂ := by
        intro hmem
        obtain ⟨w, hw⟩ := Entries.mem_names.1 hmem
        obtain ⟨field, hf, hw⟩ := (mem_entriesOf_iff h₂).1 hw
        exact hlast field hf (exists_entryOf_iff.1 ⟨w, hw⟩)
      -- The entry is assigned, and no later one touches it.
      have hsplit : es = es₁ ++ (key, v) :: es₂ := by
        simpa [h₁, h₂, Except.bind, Except.map] using hes.symm
      rw [hsplit]
      exact Entries.get?_update_append_cons [] es₁ v hnot

/-- The filter of two queries is that of the first one, updated by that of the second one:
    the keys of the first come first, those that only the second has follow in their order,
    and a key that both have has the value of the second. -/
theorem parse_append (ho : o.IsBuiltIn) {f₁ f₂ : Document} (h₁ : (ofOptions o).parse q₁ = .ok f₁)
    (h₂ : (ofOptions o).parse q₂ = .ok f₂) :
    (ofOptions o).parse (q₁ ++ q₂) = .ok (f₁.update f₂) ∧
      (f₁.update f₂).names = f₁.names ++ f₂.names.filter (fun key => key ∉ f₁.names) ∧
        ∀ key, (f₁.update f₂).get? key = (f₂.get? key).or (f₁.get? key) := by
  have hnodup := nodup_names_parse ho h₂
  refine ⟨?_, Entries.names_update f₁ hnodup, Entries.get?_update f₁ hnodup⟩
  obtain ⟨es₁, hes₁, rfl⟩ := (parse_eq_ok_iff ho).1 h₁
  obtain ⟨es₂, hes₂, rfl⟩ := (parse_eq_ok_iff ho).1 h₂
  have hes : (ofOptions o).entriesOf (q₁ ++ q₂) = .ok (es₁ ++ es₂) := by
    rw [entriesOf_append, hes₁, hes₂]
    rfl
  exact (parse_eq_ok_iff ho).2 ⟨es₁ ++ es₂, hes, (Entries.ofPairs_append es₁ es₂).symm⟩

/-- Two queries that write under common keys: a list and a text, and a date and a text. -/
theorem parse_append_date :
    (ofOptions (.ofBuilder .after "date")).parse
      ([("tags[]", .list [.str "a"]), ("after", .str "2014-01-01")] ++
        [("date", .str "!"), ("tags", .str "!b"), ("lang", .str "is")]) =
      .ok [("tags", .doc [("$ne", .str "b")]), ("date", .doc [("$exists", .bool false)]),
        ("lang", .str "is")] := by
  have h₁ : (ofOptions (.ofBuilder .after "date")).parse
      [("tags[]", .list [.str "a"]), ("after", .str "2014-01-01")] =
        .ok [("tags", .doc [("$in", .list [.str "a"])]),
          ("date", .doc [("$gte", .str "2014-01-01T00:00:00.000Z")])] := by
    decide +kernel
  have h₂ : (ofOptions (.ofBuilder .after "date")).parse
      [("date", .str "!"), ("tags", .str "!b"), ("lang", .str "is")] =
        .ok [("date", .doc [("$exists", .bool false)]), ("tags", .doc [("$ne", .str "b")]),
          ("lang", .str "is")] := by
    decide +kernel
  exact (parse_append (Options.isBuiltIn_ofBuilder .after "date") h₁ h₂).1

end QueryFilter.Parser
