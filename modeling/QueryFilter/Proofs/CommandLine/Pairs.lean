import QueryFilter.CommandLine.Run
import QueryFilter.Proofs.Entries

/-!
# Pairs of a command line

An item of an option is a pair of a name and a value (`IsPair`), or it is malformed
(`IsMalformed`). If all items are pairs, they make a mapping, in which the last pair of a name
counts (`IsLastPair`). Otherwise the first item that is none fails (`firstMalformed?`).

* `pair?_eq_some_iff`, `pair?_eq_none_iff`: the pair of a text;
* `pairs_eq`: the pairs of an option, or its failure;
* `get?_mapping_eq_some_iff`: the value of a name.
-/

namespace QueryFilter.CommandLine

/-! ## Texts -/

/-- Whether a text is a pair of a name and a value, which the first equals sign separates. -/
structure IsPair (item name value : String) : Prop where
  item_eq : item = name ++ "=" ++ value
  not_mem : '=' ∉ name.toList
  name_ne_empty : name ≠ ""
  value_ne_empty : value ≠ ""

/-- Whether a text is no pair: it has no equals sign, or nothing before or after the first one. -/
inductive IsMalformed : String → Prop
  | unseparated {item : String} (h : '=' ∉ item.toList) : IsMalformed item
  | incomplete {name value : String} (hmem : '=' ∉ name.toList) (h : name = "" ∨ value = "") :
      IsMalformed (name ++ "=" ++ value)

variable {item name value : String}

/-- There is no pair in a text without an equals sign. -/
theorem pair?_of_not_mem (h : '=' ∉ item.toList) : pair? item = none := by
  rw [pair?, Text.cut_of_not_mem h]

/-- The first equals sign separates the parts of a pair, neither of which may be empty. -/
theorem pair?_append (h : '=' ∉ name.toList) :
    pair? (name ++ "=" ++ value) = if name = "" ∨ value = "" then none else some (name, value) := by
  have hcut : Text.cut '=' (name ++ "=" ++ value).toList = (name.toList, some value.toList) := by
    rw [← Text.cut_append h]
    simp
  rw [pair?, hcut]
  simp

/-- A text with an equals sign has a first one. -/
theorem exists_eq_append (h : '=' ∈ item.toList) :
    ∃ name value, item = name ++ "=" ++ value ∧ '=' ∉ name.toList := by
  obtain ⟨before, after, hitem, hbefore⟩ := List.eq_append_cons_of_mem h
  refine ⟨.ofList before, .ofList after, String.toList_inj.1 ?_, by simpa using hbefore⟩
  simp [hitem]

/-- The pair that a text is. -/
theorem pair?_eq_some_iff : pair? item = some (name, value) ↔ IsPair item name value := by
  constructor
  · intro h
    by_cases hmem : '=' ∈ item.toList
    · obtain ⟨name', value', rfl, hname⟩ := exists_eq_append hmem
      rw [pair?_append hname] at h
      split_ifs at h with hempty
      cases h
      exact ⟨rfl, hname, fun h => hempty (.inl h), fun h => hempty (.inr h)⟩
    · rw [pair?_of_not_mem hmem] at h
      cases h
  · rintro ⟨rfl, hmem, hname, hvalue⟩
    rw [pair?_append hmem, if_neg (not_or.2 ⟨hname, hvalue⟩)]

/-- A text without a pair is malformed. -/
theorem pair?_eq_none_iff : pair? item = none ↔ IsMalformed item := by
  constructor
  · intro h
    by_cases hmem : '=' ∈ item.toList
    · obtain ⟨name, value, rfl, hname⟩ := exists_eq_append hmem
      rw [pair?_append hname] at h
      exact .incomplete hname (by_contra fun hempty => by simp [if_neg hempty] at h)
    · exact .unseparated hmem
  · rintro (hmem | ⟨hmem, hempty⟩)
    · exact pair?_of_not_mem hmem
    · rw [pair?_append hmem, if_pos hempty]

/-! ## Items -/

/-- The mapping that the pairs in some items make. -/
def mapping (items : List String) : Entries String :=
  .ofPairs (items.filterMap pair?)

/-- The first item without a pair. -/
def firstMalformed? (items : List String) : Option String :=
  items.find? fun item => (pair? item).isNone

/-- Whether the last pair of a name has the value. -/
def IsLastPair (items : List String) (name value : String) : Prop :=
  ∃ before item after, items = before ++ item :: after ∧ IsPair item name value ∧
    ∀ later ∈ after, ∀ other, ¬IsPair later name other

variable {option : String} {acc : Entries String} {items : List String}

/-- The pairs of an option are added to earlier ones, unless an item has no pair. -/
theorem pairsFrom_eq : pairsFrom option acc items =
    match firstMalformed? items with
    | some item => .error (pairFailure option item)
    | none => .ok (acc.update (items.filterMap pair?)) := by
  induction items generalizing acc with
  | nil => rfl
  | cons item items ih =>
    rw [firstMalformed?] at ih ⊢
    cases hpair : pair? item with
    | none => simp [pairsFrom, hpair]
    | some p => simp [pairsFrom, hpair, ih, Entries.update_cons]

/-- The pairs of an option are those of its items, unless an item has no pair. -/
theorem pairs_eq : pairs option items =
    match firstMalformed? items with
    | some item => .error (pairFailure option item)
    | none => .ok (mapping items) :=
  pairsFrom_eq

/-- The first item without a pair is malformed. -/
theorem isMalformed_of_firstMalformed? (h : firstMalformed? items = some item) :
    item ∈ items ∧ IsMalformed item := by
  refine ⟨List.mem_of_find?_eq_some h, pair?_eq_none_iff.1 ?_⟩
  simpa using List.find?_some h

/-- If no item lacks a pair, then none is malformed. -/
theorem not_isMalformed_of_firstMalformed? (h : firstMalformed? items = none)
    (hitem : item ∈ items) : ¬IsMalformed item := by
  intro hmalformed
  have hpair := List.find?_eq_none.1 h _ hitem
  rw [pair?_eq_none_iff.2 hmalformed] at hpair
  exact hpair rfl

/-! ## Mappings -/

/-- The names of pairs. -/
theorem mem_names_filterMap_iff : name ∈ Entries.names (items.filterMap pair?) ↔
    ∃ item ∈ items, ∃ value, IsPair item name value := by
  simp only [Entries.mem_names, List.mem_filterMap, pair?_eq_some_iff]
  constructor
  · rintro ⟨value, item, hitem, hpair⟩
    exact ⟨item, hitem, value, hpair⟩
  · rintro ⟨item, hitem, value, hpair⟩
    exact ⟨value, item, hitem, hpair⟩

/-- The names in a mapping are those of all pairs. -/
theorem mem_names_mapping_iff : name ∈ (mapping items).names ↔
    ∃ item ∈ items, ∃ value, IsPair item name value := by
  rw [mapping, Entries.mem_names_ofPairs, mem_names_filterMap_iff]

/-- No value in a mapping is empty. -/
theorem ne_empty_of_mem_mapping {e : String × String} (he : e ∈ mapping items) : e.2 ≠ "" := by
  obtain ⟨item, -, hpair⟩ := List.mem_filterMap.1 (Entries.mem_of_mem_ofPairs he)
  exact (pair?_eq_some_iff.1 hpair).value_ne_empty

/-- The value of a name is the one in its last pair. -/
theorem get?_mapping_eq_some_iff :
    (mapping items).get? name = some value ↔ IsLastPair items name value := by
  rw [mapping, Entries.get?_ofPairs_eq_some_iff]
  constructor
  · rintro ⟨_, _, hitems, hlast⟩
    obtain ⟨before, _, rfl, -, hrest⟩ := List.filterMap_eq_append_iff.1 hitems
    obtain ⟨skipped, item, after, rfl, -, hitem, rfl⟩ := List.filterMap_eq_cons_iff.1 hrest
    refine ⟨before ++ skipped, item, after, (List.append_assoc ..).symm,
      pair?_eq_some_iff.1 hitem, fun later hlater other hother => ?_⟩
    exact hlast (mem_names_filterMap_iff.2 ⟨later, hlater, other, hother⟩)
  · rintro ⟨before, item, after, rfl, hpair, hlast⟩
    refine ⟨before.filterMap pair?, after.filterMap pair?, ?_, fun hname => ?_⟩
    · rw [List.filterMap_append, List.filterMap_cons_some (pair?_eq_some_iff.2 hpair)]
    · obtain ⟨later, hlater, other, hother⟩ := mem_names_filterMap_iff.1 hname
      exact hlast later hlater other hother

end QueryFilter.CommandLine
