import QueryFilter.Proofs.Parser.Entries
import QueryFilter.Proofs.Parser.ListFragment
import Mathlib.Data.List.Basic

/-!
# The keys of filters

Which keys a filter has. A field writes under a key of its own, whatever the other fields do
(`Options.Writes`): under the field of the builder of its output name, if that builder
understands the value, or under its output name, if there is no builder. Another field with
the same key changes the value under it, but takes no key away.

* `exists_entryOf_iff`: the keys that one field writes under;
* `mem_names_parse_iff`: the keys of a filter are those of its fields.
-/

namespace QueryFilter

/-- Whether a field writes under `key`: it is let through under some output name, whose
    builder is bound to `key` and understands the value, or which is `key` and has no
    builder; in the latter case the value is a text, or a list with a text in it, and lists are
    enabled. -/
def Options.Writes (o : Options) (name : String) (raw : Value) (key : String) : Prop :=
  ∃ target, o.Admits name raw target ∧
    ((∃ kind, o.builder? target = some (.bound kind key) ∧ kind.Understands raw) ∨
      (o.builder? target = none ∧ key = target ∧
        ((∃ s, raw = .str s) ∨
          ∃ items, raw = .list items ∧ (∃ s, .str s ∈ items) ∧ "$in" ∈ o.operators)))

namespace Parser

variable {o : Options} {name key : String} {raw : Value}

/-- The fields that are stored under a key. -/
theorem exists_route_eq_store_iff : (∃ v, (ofOptions o).route name raw = .store key v) ↔
    o.Admits name raw key ∧ o.builder? key = none ∧ ((∃ s, raw = .str s) ∨
      ∃ items, raw = .list items ∧ (∃ s, .str s ∈ items) ∧ "$in" ∈ o.operators) := by
  simp only [route_eq_store_iff]
  constructor
  · rintro ⟨v, ha, hb, ⟨s, rfl, -⟩ | ⟨items, d, rfl, hd, -⟩⟩
    · exact ⟨ha, hb, .inl ⟨s, rfl⟩⟩
    · obtain ⟨hin, hs⟩ := exists_readList_iff.1 ⟨d, hd⟩
      exact ⟨ha, hb, .inr ⟨items, rfl, hs, hin⟩⟩
  · rintro ⟨ha, hb, ⟨s, rfl⟩ | ⟨items, rfl, hs, hin⟩⟩
    · exact ⟨_, ha, hb, .inl ⟨s, rfl, rfl⟩⟩
    · obtain ⟨d, hd⟩ := (exists_readList_iff (p := ofOptions o)).2 ⟨hin, hs⟩
      exact ⟨.doc d, ha, hb, .inr ⟨items, d, rfl, hd, rfl⟩⟩

/-- The keys that a field writes under. -/
theorem exists_entryOf_iff :
    (∃ v, (ofOptions o).entryOf name raw = .ok (some (key, v))) ↔ o.Writes name raw key := by
  constructor
  · rintro ⟨v, hv⟩
    rcases entryOf_eq_some_iff.1 hv with ⟨target, kind, c, ha, hb, hc, -⟩ | hstore
    · exact ⟨target, ha, .inl ⟨kind, hb, BuilderKind.exists_condition_iff.1 ⟨c, hc⟩⟩⟩
    · obtain ⟨ha, hb, hraw⟩ := exists_route_eq_store_iff.1 ⟨v, hstore⟩
      exact ⟨key, ha, .inr ⟨hb, rfl, hraw⟩⟩
  · rintro ⟨target, ha, ⟨kind, hb, hunderstands⟩ | ⟨hb, rfl, hraw⟩⟩
    · obtain ⟨c, hc⟩ := BuilderKind.exists_condition_iff.2 hunderstands
      exact ⟨.doc c, entryOf_eq_some_iff.2 (.inl ⟨target, kind, c, ha, hb, hc, rfl⟩)⟩
    · obtain ⟨v, hv⟩ := exists_route_eq_store_iff.2 ⟨ha, hb, hraw⟩
      exact ⟨v, entryOf_eq_some_iff.2 (.inr hv)⟩

/-- The keys of a filter are those that its fields write under, if all builders are built-in
    ones: no other key is there, and none is lost. -/
theorem mem_names_parse_iff (ho : o.IsBuiltIn) {query : Query} {filter : Document}
    (h : (ofOptions o).parse query = .ok filter) (key : String) :
    key ∈ filter.names ↔ ∃ field ∈ query, o.Writes field.1 field.2 key := by
  obtain ⟨es, hes, rfl⟩ := (parse_eq_ok_iff ho).1 h
  -- An entry with the key of an earlier one replaces its value, not the key.
  rw [Entries.mem_names_ofPairs, Entries.mem_names]
  constructor
  · rintro ⟨v, hv⟩
    obtain ⟨field, hf, hv⟩ := (mem_entriesOf_iff hes).1 hv
    exact ⟨field, hf, exists_entryOf_iff.1 ⟨v, hv⟩⟩
  · rintro ⟨field, hf, hwrites⟩
    obtain ⟨v, hv⟩ := exists_entryOf_iff.2 hwrites
    exact ⟨v, (mem_entriesOf_iff hes).2 ⟨field, hf, hv⟩⟩

/-- A filter has each key once. -/
theorem nodup_names_parse (ho : o.IsBuiltIn) {query : Query} {filter : Document}
    (h : (ofOptions o).parse query = .ok filter) : (Entries.names filter).Nodup := by
  obtain ⟨es, -, rfl⟩ := (parse_eq_ok_iff ho).1 h
  exact Entries.nodup_names_update es List.nodup_nil

/-- A field of a builder, and one of a kind that nothing is made from. -/
theorem mem_names_parse_iff_date :
    (∃ field ∈ [("lang", .str "is"), ("after", .str "2014-01-01"), ("size", .int 1)],
      (Options.ofBuilder .after "date").Writes field.1 field.2 "date") ∧
    ¬∃ field ∈ [("lang", .str "is"), ("after", .str "2014-01-01"), ("size", .int 1)],
      (Options.ofBuilder .after "date").Writes field.1 field.2 "size" := by
  have ho := Options.isBuiltIn_ofBuilder .after "date"
  have h : (ofOptions (.ofBuilder .after "date")).parse
      [("lang", .str "is"), ("after", .str "2014-01-01"), ("size", .int 1)] =
        .ok [("lang", .str "is"), ("date", .doc [("$gte", .str "2014-01-01T00:00:00.000Z")])] := by
    decide +kernel
  refine ⟨(mem_names_parse_iff ho h "date").1 (by decide), fun hwrites => ?_⟩
  exact absurd ((mem_names_parse_iff ho h "size").2 hwrites) (by decide)

end Parser

end QueryFilter
