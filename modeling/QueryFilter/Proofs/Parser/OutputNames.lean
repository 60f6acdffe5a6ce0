import QueryFilter.Proofs.Parser.Failure
import QueryFilter.Proofs.Parser.OutputKeys
import QueryFilter.Proofs.Pattern.FieldName
import QueryFilter.Proofs.QueryString.ArraySuffix
import Mathlib.Data.List.Basic

/-!
# The names in filters

What the keys of a filter look like if the standard patterns let them through and there are
no builders: they are names of fields (`IsFieldName`), but for the brackets that a list may
leave after such a name (`Options.KeepsBrackets`). The array suffix is dropped from the name
of a list once, before aliases are looked up, and the pattern for lists lets through the
brackets that are there after that.

* `exists_entryOf_append_brackets_iff`: which fields write under a name with brackets;
* `exists_parse_names`: the keys of a filter, and where brackets in them come from.
-/

namespace QueryFilter

namespace Options

variable (o : Options)

/-- Whether a field leaves brackets after `stem`: it is a list with a text in it, lists are
    enabled and its name is not denied, and the alias of its name ends in brackets, or there is
    no alias and two pairs of brackets in the request, of which the array suffix is one. -/
def KeepsBrackets (name : String) (raw : Value) (stem : String) : Prop :=
  ¬o.Denies name raw ∧ "$in" ∈ o.operators ∧
    ∃ items, raw = .list items ∧ (∃ s, .str s ∈ items) ∧
      (o.aliases.get? (QueryString.dropArraySuffix name) = some (stem ++ "[]") ∨
        o.aliases.get? (QueryString.dropArraySuffix name) = none ∧ name = stem ++ "[][]")

/-- The output name of a field is its alias, or its own name without one. -/
theorem outputName_eq_iff {name key : String} : o.outputName name = key ↔
    o.aliases.get? name = some key ∨ o.aliases.get? name = none ∧ name = key := by
  rw [outputName]
  cases o.aliases.get? name <;> simp

end Options

namespace Parser

variable {o : Options} {name key stem : String} {raw : Value}

/-! ## One field -/

/-- A field writes under the name of a field, perhaps with brackets after it. -/
theorem isFieldName_of_entryOf (hc : o.custom = []) (hkey : o.keyPattern = .key)
    (harray : o.arrayPattern = .arrayKey) {v : Value}
    (h : (ofOptions o).entryOf name raw = .ok (some (key, v))) :
    IsFieldName key ∨ ∃ stem, IsFieldName stem ∧ key = stem ++ "[]" := by
  obtain ⟨ha, -, ⟨s, rfl⟩ | ⟨items, rfl, -⟩⟩ :=
    exists_route_eq_store_iff.1 ⟨v, (entryOf_eq_some_iff_of_custom_eq_nil hc).1 h⟩
  · exact .inl ((Pattern.finds_key_toList_iff key).1 (hkey ▸ ha.key_matches s rfl))
  · exact (Pattern.finds_arrayKey_toList_iff key).1 (harray ▸ ha.array_matches items rfl)

/-- The fields that write under a name with brackets after it. -/
theorem exists_entryOf_append_brackets_iff (hc : o.custom = []) (hkey : o.keyPattern = .key)
    (harray : o.arrayPattern = .arrayKey) (hstem : IsFieldName stem) :
    (∃ v, (ofOptions o).entryOf name raw = .ok (some (stem ++ "[]", v))) ↔
      o.KeepsBrackets name raw stem := by
  simp only [entryOf_eq_some_iff_of_custom_eq_nil hc, exists_route_eq_store_iff]
  constructor
  · rintro ⟨ha, -, ⟨s, rfl⟩ | ⟨items, rfl, hs, hin⟩⟩
    · -- The pattern for texts lets no brackets through.
      have hname := (Pattern.finds_key_toList_iff _).1 (hkey ▸ ha.key_matches s rfl)
      exact absurd hname (not_isFieldName_append_brackets stem)
    · refine ⟨(admits_iff.1 ha).1, hin, items, rfl, hs, ?_⟩
      rw [← QueryString.dropArraySuffix_eq_append_iff, ← Options.outputName_eq_iff]
      exact ha.key_eq.symm
  · rintro ⟨hd, hin, items, rfl, hs, hname⟩
    rw [← QueryString.dropArraySuffix_eq_append_iff, ← Options.outputName_eq_iff] at hname
    obtain ⟨hw, hb⟩ := not_denies_iff.1 hd
    have hfinds := (Pattern.finds_arrayKey_toList_iff _).2 (.inr ⟨stem, hstem, rfl⟩)
    exact ⟨⟨hw, hb, hname.symm, nofun, fun _ _ => harray ▸ hfinds⟩,
      Options.builder?_of_custom_eq_nil hc _, .inr ⟨items, rfl, hs, hin⟩⟩

/-! ## All fields -/

/-- Without builders and with the standard patterns, every query has a filter, and its keys are
    names of fields, and such names with brackets after them. Such brackets come from a list
    whose name in the request has two pairs of them, or whose alias has brackets. -/
theorem exists_parse_names (hc : o.custom = []) (hkey : o.keyPattern = .key)
    (harray : o.arrayPattern = .arrayKey) (query : Query) :
    ∃ filter, (ofOptions o).parse query = .ok filter ∧
      (∀ key ∈ filter.names, IsFieldName key ∨ ∃ stem, IsFieldName stem ∧ key = stem ++ "[]") ∧
      ∀ stem, IsFieldName stem → (stem ++ "[]" ∈ filter.names ↔
        ∃ field ∈ query, o.KeepsBrackets field.1 field.2 stem) := by
  obtain ⟨filter, hfilter⟩ := exists_parse_of_custom_eq_nil hc query
  have hnames := mem_names_iff_exists_entryOf (Options.isBuiltIn_of_custom_eq_nil hc) hfilter
  refine ⟨filter, hfilter, fun key hk => ?_, fun stem hstem => ?_⟩
  · obtain ⟨field, -, v, hv⟩ := (hnames key).1 hk
    exact isFieldName_of_entryOf hc hkey harray hv
  · simp only [hnames, exists_entryOf_append_brackets_iff hc hkey harray hstem]

/-- The array suffix is dropped, and other brackets are kept. -/
theorem exists_parse_names_hut : (Options.standard .standard).custom = [] ∧
    IsFieldName "hut" ∧ IsFieldName "tags" ∧ ∃ filter, (ofOptions (.standard .standard)).parse
      [("tags[]", .list [.str "a"]), ("hut[][]", .list [.str "b"])] = .ok filter ∧
    "hut[]" ∈ filter.names ∧ "tags[]" ∉ filter.names := by
  obtain ⟨filter, hfilter, -, hbrackets⟩ := exists_parse_names (o := .standard .standard) rfl rfl rfl
    [("tags[]", .list [.str "a"]), ("hut[][]", .list [.str "b"])]
  have hhut : IsFieldName "hut" := by decide
  have htags : IsFieldName "tags" := by decide
  refine ⟨rfl, hhut, htags, filter, hfilter, (hbrackets "hut" hhut).2 ?_, fun hmem => ?_⟩
  · exact ⟨_, List.mem_cons_of_mem _ List.mem_cons_self, by decide, by decide, _, rfl,
      ⟨"b", List.mem_cons_self⟩, .inr ⟨rfl, rfl⟩⟩
  · obtain ⟨field, hf, -, -, _, -, -, hname⟩ := (hbrackets "tags" htags).1 hmem
    have hnone : (Options.standard .standard).aliases = [] := rfl
    simp only [List.mem_cons, List.not_mem_nil, or_false] at hf
    rcases hf with rfl | rfl <;> simp [hnone, Entries.get?] at hname

/-- So brackets can be in a filter. -/
theorem parse_eq_brackets :
    (ofOptions (.standard .standard)).parse [("foo[][]", .list [.str "a"])] =
      .ok [("foo[]", .doc [("$in", .list [.str "a"])])] ∧ ¬IsFieldName "foo[]" := by
  decide +kernel

end Parser

end QueryFilter
