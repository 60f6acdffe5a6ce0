import QueryFilter.Proofs.QueryString.Group
import QueryFilter.Proofs.QueryString.Pairs

/-!
# Reading mappings back

A well-shaped mapping is read back from the query string that it is written as, with its names
and their values in order. Other mappings are not, since whatever a query string looks like, it
stands for a well-shaped one.

* `pairs_encode`, `group_pairsOf`: the pairs of a mapping, written and brought together;
* `fieldValue_textsOf`, `isWellShapedField_fieldValue`: the value of a field and its texts;
* `decode_encode_eq_iff`: the mappings that are read back.
-/

namespace QueryFilter.QueryString

variable {fields : Document} {name : String} {value : Value} {texts : List String}

/-! ## Pairs -/

/-- The pairs that a mapping is written as. -/
def pairsOf (fields : Document) : List (String × String) :=
  fields.flatMap fun field => (textsOf field.2).map fun s => (field.1, s)

/-- A mapping is written as its pairs. -/
theorem pairs_encode (fields : Document) : pairs (encode fields).toList = pairsOf fields := by
  have hpieces : (fields.flatMap fun field => (textsOf field.2).map (encodePair field.1)) =
      (pairsOf fields).map fun p => encodePair p.1 p.2 := by
    rw [pairsOf, List.map_flatMap]
    simp only [List.map_map, Function.comp_def]
  rw [encode, String.toList_ofList]
  exact hpieces ▸ pairs_joinWith_encodePair (pairsOf fields)

/-- The names of the pairs are names of the mapping. -/
theorem mem_names_of_mem_pairsOf (h : name ∈ (pairsOf fields).map Prod.fst) :
    name ∈ fields.names := by
  obtain ⟨p, hp, rfl⟩ := List.mem_map.1 h
  obtain ⟨field, hfield, hp⟩ := List.mem_flatMap.1 hp
  obtain ⟨s, -, rfl⟩ := List.mem_map.1 hp
  exact List.mem_map.2 ⟨field, hfield, rfl⟩

/-- Pairs with one name. -/
theorem group_of_name (name : String) (h : texts ≠ []) :
    group (texts.map fun s => (name, s)) = [(name, texts)] := by
  have hnames : namesOf (texts.map fun s => (name, s)) = [name] := by
    obtain ⟨s, texts, rfl⟩ := List.exists_cons_of_ne_nil h
    simp [namesOf, List.eraseDups_cons, Function.comp_def]
  rw [group_eq, hnames, List.map_singleton]
  simp [valuesOf, List.filter_map, Function.comp_def]

/-- The pairs of a mapping are brought together to its names, with the texts of each. -/
theorem group_pairsOf (hnodup : fields.names.Nodup)
    (htexts : ∀ field ∈ fields, textsOf field.2 ≠ []) :
    group (pairsOf fields) = fields.map fun field => (field.1, textsOf field.2) := by
  induction fields with
  | nil => rfl
  | cons field fields ih =>
    obtain ⟨hname, hnodup⟩ := List.nodup_cons.1 hnodup
    obtain ⟨hfield, hfields⟩ := List.forall_mem_cons.1 htexts
    have hdisjoint : ∀ name ∈ ((textsOf field.2).map fun s => (field.1, s)).map Prod.fst,
        name ∉ (pairsOf fields).map Prod.fst := by
      intro name hleft hright
      obtain ⟨p, hp, rfl⟩ := List.mem_map.1 hleft
      obtain ⟨s, -, rfl⟩ := List.mem_map.1 hp
      exact hname (mem_names_of_mem_pairsOf hright)
    rw [pairsOf, List.flatMap_cons, ← pairsOf, group_append_of_disjoint hdisjoint,
      group_of_name _ hfield, ih hnodup hfields, List.map_cons, List.singleton_append]

/-! ## Values -/

/-- A list of texts. -/
theorem exists_map_str {items : List Value} (h : ∀ v ∈ items, ∃ s, v = .str s) :
    ∃ texts : List String, items = texts.map .str := by
  induction items with
  | nil => exact ⟨[], rfl⟩
  | cons v items ih =>
    obtain ⟨⟨s, rfl⟩, hitems⟩ := List.forall_mem_cons.1 h
    obtain ⟨texts, rfl⟩ := ih hitems
    exact ⟨s :: texts, rfl⟩

/-- The texts of a list of texts. -/
theorem textsOf_list (texts : List String) : textsOf (.list (texts.map .str)) = texts := by
  simp [textsOf, List.filterMap_map, Function.comp_def, Value.str?]

/-- A well-shaped field has a text. -/
theorem textsOf_ne_nil (h : IsWellShapedField name value) : textsOf value ≠ [] := by
  cases value with
  | str s => exact List.cons_ne_nil _ _
  | list items =>
    obtain ⟨htexts, hne, -⟩ := h
    obtain ⟨texts, rfl⟩ := exists_map_str htexts
    rw [textsOf_list]
    rintro rfl
    exact hne rfl
  | _ => exact h.elim

/-- A well-shaped field has the value that its texts make under its name. -/
theorem fieldValue_textsOf (h : IsWellShapedField name value) :
    fieldValue name (textsOf value) = value := by
  cases value with
  | str s => exact fieldValue_singleton h s
  | list items =>
    obtain ⟨htexts, -, hlist⟩ := h
    obtain ⟨texts, rfl⟩ := exists_map_str htexts
    rw [textsOf_list, fieldValue_of_list (hlist.imp_right fun h => ?_)]
    rw [List.length_map] at h
    omega
  | _ => exact h.elim

/-- Some texts make a value that is well shaped under the name. -/
theorem isWellShapedField_fieldValue (name : String) (h : texts ≠ []) :
    IsWellShapedField name (fieldValue name texts) := by
  by_cases hlist : hasArraySuffix name = true ∨ texts.length ≠ 1
  · rw [fieldValue_of_list hlist]
    have hlength : 0 < texts.length := List.length_pos_iff.2 h
    refine ⟨fun v hv => ?_, by simpa using h, hlist.imp_right fun h => ?_⟩
    · obtain ⟨s, -, rfl⟩ := List.mem_map.1 hv
      exact ⟨s, rfl⟩
    · rw [List.length_map]
      omega
  · -- Then there is a single text, and a name that asks for no list.
    obtain ⟨hname, hlength⟩ := not_or.1 hlist
    obtain ⟨s, rfl⟩ := List.length_eq_one_iff.1 (not_not.1 hlength)
    rw [fieldValue_singleton (by simpa using hname)]
    simpa [IsWellShapedField] using hname

/-! ## Mappings -/

/-- Every query string stands for a well-shaped mapping. -/
theorem isWellShaped_decode (query : String) : IsWellShaped (decode query) := by
  rw [decode_eq]
  refine ⟨?_, fun field hfield => ?_⟩
  · rw [Entries.names, List.map_map]
    exact (List.map_id _).symm ▸ nodup_namesOf _
  · obtain ⟨name, hname, rfl⟩ := List.mem_map.1 hfield
    refine isWellShapedField_fieldValue name fun h => ?_
    exact valuesOf_eq_nil_iff.1 h (mem_namesOf.1 hname)

/-- A well-shaped mapping is read back. -/
theorem decode_encode_of_isWellShaped (h : IsWellShaped fields) :
    decode (encode fields) = fields := by
  obtain ⟨hnodup, hfields⟩ := h
  rw [decode, pairs_encode, group_pairsOf hnodup fun field hf => textsOf_ne_nil (hfields field hf),
    List.map_map]
  refine (List.map_congr_left fun field hf => ?_).trans (List.map_id fields)
  exact Prod.ext rfl (fieldValue_textsOf (hfields field hf))

/-- The mappings that are read back from the query strings that they are written as are the
    well-shaped ones, and every query string stands for one of them. -/
theorem decode_encode_eq_iff : (∀ fields : Document,
    decode (encode fields) = fields ↔ IsWellShaped fields) ∧
      ∀ query, IsWellShaped (decode query) := by
  refine ⟨fun fields => ⟨fun h => ?_, decode_encode_of_isWellShaped⟩, isWellShaped_decode⟩
  rw [← h]
  exact isWellShaped_decode _

/-- A mapping with marks in names and values, and a list of one text. -/
example : encode
    [("?a&b", .str "1 + 1 = 2"), ("é[]", .list [.str ""]), ("", .list [.str "%", .str "!"])] =
    "%3Fa%26b=1%20%2B%201%20%3D%202&%C3%A9%5B%5D=&=%25&=%21" := by
  decide +kernel

end QueryFilter.QueryString
