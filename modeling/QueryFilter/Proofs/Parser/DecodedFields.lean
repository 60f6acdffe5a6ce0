import QueryFilter.Proofs.Parser.Failure
import QueryFilter.Proofs.Parser.Fates
import QueryFilter.Proofs.Parser.OutputKeys
import QueryFilter.Proofs.QueryString.ArraySuffix
import QueryFilter.Proofs.QueryString.RoundTrip

/-!
# Fields of query strings

The fields that a query string stands for are well shaped: their values are texts, or lists of
texts that are not empty, and a name that asks for a list has one. So no field is dropped because of
what its value is, and a list is dropped only if lists are not enabled; all other fields that the
lists of names and the patterns let through get to the filter.

* `not_dropsFor_unsupported`, `dropsFor_emptyArray_iff`: reasons to drop a well-shaped field;
* `writes_of_isWellShapedField`: a well-shaped field is written if it is let through;
* `parseQueryString_reaches`: what becomes of the fields of a query string.
-/

namespace QueryFilter

open QueryString

variable {o : Options} {name key : String} {raw : Value}

namespace Options

/-- The reason for a value of another kind is told from the others by its first letter. -/
theorem unsupported_append_ne {kind text : String} (h : text.toList.head? ≠ some 'u') :
    "unsupported value " ++ kind ≠ text := by
  rintro rfl
  exact h (by simp [String.toList_append])

/-- A well-shaped field is not dropped for the kind of its value. -/
theorem not_dropsFor_unsupported (h : IsWellShapedField name raw) (kind : String) :
    ¬o.DropsFor name raw ("unsupported value " ++ kind) := by
  generalize htext : "unsupported value " ++ kind = text
  intro hdrops
  cases hdrops with
  | notWhitelisted | blacklisted | invalidKey | invalidArrayKey | emptyArray =>
    exact absurd htext (unsupported_append_ne (by decide))
  | unsupported _ _ hraw =>
    -- A well-shaped field is a text or a list.
    cases raw with
    | str s => simp [Value.classOf] at hraw
    | list items => simp [Value.classOf] at hraw
    | _ => exact h.elim

/-- A well-shaped field is dropped as an empty list exactly if it is a list that would be read, and
    lists are not enabled. -/
theorem dropsFor_emptyArray_iff (h : IsWellShapedField name raw) :
    o.DropsFor name raw "empty or unsupported array" ↔ ∃ items key, raw = .list items ∧
      o.Admits name (.list items) key ∧ o.builder? key = none ∧ "$in" ∉ o.operators := by
  constructor
  · generalize htext : "empty or unsupported array" = text
    intro hdrops
    cases hdrops with
    | notWhitelisted | blacklisted | invalidKey | invalidArrayKey => simp at htext
    | @emptyArray items key ha hb hitems =>
      obtain ⟨htexts, hne, -⟩ := h
      obtain ⟨v, hv⟩ := List.exists_mem_of_ne_nil items hne
      obtain ⟨s, rfl⟩ := htexts v hv
      exact ⟨items, key, rfl, ha, hb, hitems.resolve_right fun hno => hno s hv⟩
    | unsupported => exact absurd htext.symm (unsupported_append_ne (by decide))
  · rintro ⟨items, key, rfl, ha, hb, hin⟩
    exact .emptyArray ha hb (.inl hin)

/-- A well-shaped field that is let through and has no builder is written, if lists are enabled. -/
theorem writes_of_isWellShapedField (h : IsWellShapedField name raw) (ha : o.Admits name raw key)
    (hb : o.builder? key = none) (hin : "$in" ∈ o.operators) : o.Writes name raw key := by
  refine ⟨key, ha, .inr ⟨hb, rfl, ?_⟩⟩
  cases raw with
  | str s => exact .inl ⟨s, rfl⟩
  | list items =>
    obtain ⟨htexts, hne, -⟩ := h
    obtain ⟨v, hv⟩ := List.exists_mem_of_ne_nil items hne
    obtain ⟨s, rfl⟩ := htexts v hv
    exact .inr ⟨items, rfl, ⟨s, hv⟩, hin⟩
  | _ => exact h.elim

end Options

namespace Parser

/-- No field of a query string comes to a dead end. If no builder fails, then none of them is
    dropped for the kind of its value; those that are dropped as empty lists are the lists that would
    be read if lists were enabled; no text has a name that asks for a list. And if lists are
    enabled, then every field that is let through and has no builder has its output name in the
    filter. -/
theorem parseQueryString_reaches (ho : o.IsBuiltIn) {text : String}
    (hfails : ∀ field ∈ decode text, ∀ n, ¬o.FailsOn field.1 field.2 n) :
    (∀ drop ∈ ((ofOptions o).outcome (decode text)).drops,
      ∀ kind, drop.reason.text ≠ "unsupported value " ++ kind) ∧
    (∀ name, (∃ drop ∈ ((ofOptions o).outcome (decode text)).drops,
        drop.name = name ∧ drop.reason.text = "empty or unsupported array") ↔
      ∃ items key, (name, .list items) ∈ decode text ∧ o.Admits name (.list items) key ∧
        o.builder? key = none ∧ "$in" ∉ o.operators) ∧
    (∀ stem s, (stem ++ "[]", Value.str s) ∉ decode text) ∧
    ∃ filter, (ofOptions o).parseQueryString text = .ok filter ∧
      ("$in" ∈ o.operators → ∀ name raw key, (name, raw) ∈ decode text →
        o.Admits name raw key → o.builder? key = none → key ∈ filter.names) := by
  obtain ⟨filter, hfilter⟩ := (exists_parse_iff ho).2 hfails
  have hshape : ∀ field ∈ decode text, IsWellShapedField field.1 field.2 :=
    (isWellShaped_decode text).2
  refine ⟨fun drop hdrop kind hkind => ?_, fun name => ?_, fun stem s hfield => ?_, filter, hfilter,
    fun hin name raw key hfield ha hb => ?_⟩
  · obtain ⟨raw, hfield, hdrops⟩ := (exists_drop_iff hfilter).1 ⟨drop, hdrop, rfl, hkind⟩
    exact Options.not_dropsFor_unsupported (hshape _ hfield) kind hdrops
  · rw [exists_drop_iff hfilter]
    constructor
    · rintro ⟨raw, hfield, hdrops⟩
      obtain ⟨items, key, rfl, hlist⟩ := (Options.dropsFor_emptyArray_iff (hshape _ hfield)).1 hdrops
      exact ⟨items, key, hfield, hlist⟩
    · rintro ⟨items, key, hfield, hlist⟩
      exact ⟨_, hfield,
        (Options.dropsFor_emptyArray_iff (hshape _ hfield)).2 ⟨items, key, rfl, hlist⟩⟩
  · have hsuffix : hasArraySuffix (stem ++ "[]") = false := hshape _ hfield
    exact Bool.eq_false_iff.1 hsuffix (hasArraySuffix_iff.2 ⟨stem, rfl⟩)
  · rw [mem_names_iff_exists_entryOf ho hfilter]
    exact ⟨(name, raw), hfield,
      exists_entryOf_iff.2 (Options.writes_of_isWellShapedField (hshape _ hfield) ha hb hin)⟩

/-- The standard options with a builder of points, for texts that may be negated, and without
    lists. -/
def textOptions : Options :=
  { Options.ofBuilder .near "place" with operators := ["!"] }

/-- A list beside a text and a point: it gets to the filter if lists are enabled, and otherwise it is
    dropped as an empty one. -/
theorem parseQueryString_reaches_tag :
    (∃ filter, (ofOptions (.ofBuilder .near "place")).parseQueryString "?tag[]=a&lang=is&near=1,2" =
      .ok filter ∧ "tag" ∈ filter.names ∧ "lang" ∈ filter.names) ∧
    ∃ drop ∈ ((ofOptions textOptions).outcome (decode "?tag[]=a&lang=is&near=1,2")).drops,
      drop.name = "tag[]" ∧ drop.reason.text = "empty or unsupported array" := by
  -- A builder of points fails on nothing.
  have hfails : ∀ o : Options, o.custom = [("near", .builtIn .near "place")] →
      ∀ field ∈ decode "?tag[]=a&lang=is&near=1,2", ∀ n, ¬o.FailsOn field.1 field.2 n := by
    rintro o hc ⟨name, raw⟩ - n ⟨key, kind, field, -, hb, hn⟩
    obtain ⟨choice, hchoice, hbind⟩ := mem_custom_of_builder? hb
    rw [hc, List.mem_singleton] at hchoice
    obtain ⟨rfl, rfl⟩ := Prod.mk.inj hchoice
    cases hbind
    cases raw <;> exact hn
  have hdecode : decode "?tag[]=a&lang=is&near=1,2" =
      [("tag[]", .list [.str "a"]), ("lang", .str "is"), ("near", .str "1,2")] := by decide +kernel
  have hlist : ("tag[]", .list [.str "a"]) ∈ decode "?tag[]=a&lang=is&near=1,2" :=
    hdecode ▸ List.mem_cons_self
  have htext : ("lang", .str "is") ∈ decode "?tag[]=a&lang=is&near=1,2" :=
    hdecode ▸ List.mem_cons_of_mem _ List.mem_cons_self
  have htag : Pattern.arrayKey.finds "tag".toList = true := by decide +kernel
  have hlang : Pattern.key.finds "lang".toList = true := by decide +kernel
  constructor
  · obtain ⟨-, -, -, filter, hfilter, hkeys⟩ := parseQueryString_reaches
      (Options.isBuiltIn_ofBuilder .near "place") (hfails (.ofBuilder .near "place") rfl)
    refine ⟨filter, hfilter, hkeys (by decide) "tag[]" (.list [.str "a"]) "tag" hlist
      ⟨.inl rfl, List.not_mem_nil, by decide, nofun, fun _ _ => htag⟩ rfl, ?_⟩
    exact hkeys (by decide) "lang" (.str "is") "lang" htext
      ⟨.inl rfl, List.not_mem_nil, by decide, fun _ _ => hlang, nofun⟩ rfl
  · obtain ⟨-, hdrops, -⟩ := parseQueryString_reaches (o := textOptions)
      (Options.isBuiltIn_ofBuilder .near "place") (hfails textOptions rfl)
    exact (hdrops "tag[]").2 ⟨[.str "a"], "tag", hlist,
      ⟨.inl rfl, List.not_mem_nil, by decide, nofun, fun _ _ => htag⟩, rfl, by decide⟩

end Parser

end QueryFilter
