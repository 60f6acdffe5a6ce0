import QueryFilter.Proofs.Parser.Entries
import QueryFilter.Proofs.Parser.ListFragment
import QueryFilter.Proofs.Pattern.FieldName
import Mathlib.Data.List.Basic

/-!
# The grammar of parsed filters

No part of a request gets into a filter but as a scalar or inside a condition. All that a
field can write is in the grammar of filters, whether it comes from a text, from a list, or
from a built-in builder, and a filter has nothing else in it.

* `isFilterValue_readScalar`: where values come from, besides builders
  (`BuilderKind.isCondition_of_condition`);
* `isFilterValue_of_entryOf`: what one field writes;
* `isFilterValue_of_parse`: what is in a filter, and how its keys begin.
-/

namespace QueryFilter

namespace Parser

variable {o : Options} {name key : String} {raw : Value}

/-! ## Fields -/

/-- What is stored for a text is in the grammar. -/
theorem isFilterValue_readScalar (p : Parser) (s : String) : IsFilterValue (p.readScalar s) := by
  rw [readScalar]
  split
  next => exact .condition (.present true)
  next hs =>
    split
    next => exact .condition (Token.read_form p.grammar false s).isCondition_fragment
    next =>
      rw [readPlain, Scalar.read]
      split
      next b hb => exact .bool b
      next =>
        split
        next x hx => exact .num x
        next => exact .str hs

/-- What a field writes is in the grammar. -/
theorem isFilterValue_of_entryOf {entry : String × Value}
    (h : (ofOptions o).entryOf name raw = .ok (some entry)) : IsFilterValue entry.2 := by
  rcases entryOf_eq_some_iff.1 h with ⟨_, kind, c, -, -, hc, hv⟩ | hstore
  · rw [hv]
    exact .condition (BuilderKind.isCondition_of_condition hc)
  · obtain ⟨-, -, ⟨s, -, hv⟩ | ⟨items, d, -, hd, hv⟩⟩ := route_eq_store_iff.1 hstore
    · rw [hv]
      exact isFilterValue_readScalar _ s
    · obtain ⟨hne, hfragment⟩ := isListFragment_readList hd
      rw [hv]
      exact .condition (.list hne hfragment)

/-- With the standard patterns, no value is stored under a name that looks like an
    operator. -/
theorem head_ne_dollar_of_route (hkey : o.keyPattern = .key) (harray : o.arrayPattern = .arrayKey)
    {v : Value} (h : (ofOptions o).route name raw = .store key v) :
    key.toList.head? ≠ some '$' := by
  obtain ⟨ha, -, ⟨s, hs, -⟩ | ⟨items, d, hitems, -⟩⟩ := route_eq_store_iff.1 h
  · exact Pattern.head_ne_dollar_of_key (hkey ▸ ha.key_matches s hs)
  · exact Pattern.head_ne_dollar_of_arrayKey (harray ▸ ha.array_matches items hitems)

/-! ## Filters -/

/-- All values of a filter are in the grammar and have finite numbers only, if all builders
    are built-in ones. With the standard patterns, a key that begins with a dollar sign is the
    output field of a builder. -/
theorem isFilterValue_of_parse (ho : o.IsBuiltIn) {query : Query} {filter : Document}
    (h : (ofOptions o).parse query = .ok filter) :
    (∀ entry ∈ filter, IsFilterValue entry.2 ∧ entry.2.IsFinite) ∧
      (o.keyPattern = .key → o.arrayPattern = .arrayKey → ∀ key ∈ filter.names,
        key.toList.head? = some '$' → ∃ name kind, o.builder? name = some (.bound kind key)) := by
  obtain ⟨es, hes, rfl⟩ := (parse_eq_ok_iff ho).1 h
  refine ⟨?_, ?_⟩
  · intro entry he
    obtain ⟨field, -, hf⟩ := (mem_entriesOf_iff hes).1 (Entries.mem_of_mem_ofPairs he)
    have hvalue := isFilterValue_of_entryOf hf
    exact ⟨hvalue, hvalue.isFinite⟩
  · intro hkey harray key hmem hdollar
    obtain ⟨v, hv⟩ := Entries.mem_names.1 (Entries.mem_names_ofPairs.1 hmem)
    obtain ⟨field, -, hf⟩ := (mem_entriesOf_iff hes).1 hv
    -- The key is the field of a builder, or a name that its pattern lets through.
    rcases entryOf_eq_some_iff.1 hf with ⟨name, kind, -, -, hb, -⟩ | hstore
    · exact ⟨name, kind, hb⟩
    · exact absurd hdollar (head_ne_dollar_of_route hkey harray hstore)

/-- A list with three kinds of conditions, and a date under a key that looks like an
    operator. -/
theorem isFilterValue_of_parse_dollar :
    (ofOptions (.ofBuilder .after "$date")).parse
      [("tags[]", .list [.str "!a", .null, .str ">b", .str "~c"]), ("after", .str "2014-01-01")] =
        .ok [("tags", .doc [("$nin", .list [.str "a"]), ("$gt", .str "b"), ("$regex", .str "c"),
            ("$options", .str "i")]),
          ("$date", .doc [("$gte", .str "2014-01-01T00:00:00.000Z")])] ∧
    IsFilterValue (.doc [("$nin", .list [.str "a"]), ("$gt", .str "b"), ("$regex", .str "c"),
      ("$options", .str "i")]) ∧
    ∃ name kind, (Options.ofBuilder .after "$date").builder? name = some (.bound kind "$date") := by
  have h : (ofOptions (.ofBuilder .after "$date")).parse
      [("tags[]", .list [.str "!a", .null, .str ">b", .str "~c"]), ("after", .str "2014-01-01")] =
        .ok [("tags", .doc [("$nin", .list [.str "a"]), ("$gt", .str "b"), ("$regex", .str "c"),
            ("$options", .str "i")]),
          ("$date", .doc [("$gte", .str "2014-01-01T00:00:00.000Z")])] := by
    decide +kernel
  obtain ⟨hvalues, hkeys⟩ :=
    isFilterValue_of_parse (Options.isBuiltIn_ofBuilder .after "$date") h
  exact ⟨h, (hvalues _ List.mem_cons_self).1, hkeys rfl rfl "$date" (by decide) (by decide)⟩

end Parser

end QueryFilter
