import QueryFilter.Proofs.QueryString.ArraySuffix
import QueryFilter.Proofs.QueryString.Group
import QueryFilter.Proofs.QueryString.Pairs

/-!
# Query strings that are joined

A query string may be put together from two others, with `&` between them. The pairs of the second
one come after those of the first one, so that no value is lost or moved: under each name there are
the values of the first and then those of the second query string (`heldValues`), whether a single
value becomes a part of a list by that or not.

* `pairs_append_cons`: the pairs of joined query strings;
* `names_decode`, `heldValues_decode`: the mapping of a query string, told by its pairs;
* `decode_joined`: names and values of joined query strings.
-/

namespace QueryFilter.QueryString

variable {name : String} {value : Value}

/-- The values that a mapping holds for a name: the items of a list, another value alone, and none
    if the name is not there. -/
def heldValues (fields : Document) (name : String) : List Value :=
  match fields.get? name with
  | none => []
  | some (.list items) => items
  | some v => [v]

/-- The pairs of query strings that are joined, where the second one does not begin with a question
    mark that would have been skipped. -/
theorem pairs_append_cons (a : List Char) {b : List Char} (hb : b.head? ≠ some '?') :
    pairs (a ++ '&' :: b) = pairs a ++ pairs b := by
  have hmarks : (a ++ '&' :: b).dropWhile (· == '?') = a.dropWhile (· == '?') ++ '&' :: b := by
    rw [List.dropWhile_append]
    split_ifs with ha
    · rw [List.isEmpty_iff.1 ha]
      rfl
    · rfl
  have hrest : b.dropWhile (· == '?') = b := by
    cases b with
    | nil => rfl
    | cons c b => exact List.dropWhile_cons_of_neg fun hc => hb (by simpa using hc)
  rw [pairs, hmarks, Text.splitOn_append_cons, List.filter_append, List.map_append, pairs, pairs,
    hrest]

/-- The names of a mapping are those of the pairs. -/
theorem names_decode (query : String) : (decode query).names = namesOf (pairs query.toList) := by
  rw [decode_eq, Entries.names, List.map_map]
  exact List.map_id _

/-- The fields of a mapping are made of the values of its names. -/
theorem mem_decode {query : String} : (name, value) ∈ decode query ↔
    name ∈ namesOf (pairs query.toList) ∧
      value = fieldValue name (valuesOf (pairs query.toList) name) := by
  rw [decode_eq, List.mem_map]
  constructor
  · rintro ⟨name, hname, hfield⟩
    obtain ⟨rfl, rfl⟩ := Prod.mk.inj hfield
    exact ⟨hname, rfl⟩
  · rintro ⟨hname, rfl⟩
    exact ⟨name, hname, rfl⟩

/-- A mapping holds the values of the pairs. -/
theorem heldValues_decode (query name : String) :
    heldValues (decode query) name = (valuesOf (pairs query.toList) name).map .str := by
  rw [heldValues, decode_eq, Entries.get?_tabulate]
  by_cases hname : name ∈ namesOf (pairs query.toList)
  · rw [if_pos hname]
    generalize valuesOf (pairs query.toList) name = texts
    by_cases hlist : hasArraySuffix name = true ∨ texts.length ≠ 1
    · simp only [fieldValue_of_list hlist]
    · obtain ⟨hsuffix, hlength⟩ := not_or.1 hlist
      obtain ⟨s, rfl⟩ := List.length_eq_one_iff.1 (not_not.1 hlength)
      simp only [fieldValue_singleton (Bool.eq_false_iff.2 hsuffix), List.map_singleton]
  · rw [if_neg hname, valuesOf_eq_nil_iff.2 (mt mem_namesOf.2 hname), List.map_nil]

/-- A field is a list if its name asks for one, or if there are several values. -/
theorem exists_list_iff {query : String} (h : (name, value) ∈ decode query) :
    (∃ items, value = .list items) ↔
      (∃ stem, name = stem ++ "[]") ∨ 2 ≤ (heldValues (decode query) name).length := by
  obtain ⟨hname, rfl⟩ := mem_decode.1 h
  rw [← hasArraySuffix_iff, heldValues_decode, List.length_map]
  -- There is a value, since the name is that of a pair.
  have hne : valuesOf (pairs query.toList) name ≠ [] := fun hnil =>
    valuesOf_eq_nil_iff.1 hnil (mem_namesOf.1 hname)
  have hpos := List.length_pos_iff.2 hne
  generalize valuesOf (pairs query.toList) name = texts at hpos
  by_cases hlist : hasArraySuffix name = true ∨ texts.length ≠ 1
  · rw [fieldValue_of_list hlist]
    exact iff_of_true ⟨_, rfl⟩ (hlist.imp_right fun hlength => by omega)
  · obtain ⟨hsuffix, hlength⟩ := not_or.1 hlist
    obtain ⟨s, rfl⟩ := List.length_eq_one_iff.1 (not_not.1 hlength)
    rw [fieldValue_singleton (Bool.eq_false_iff.2 hsuffix)]
    simp [hsuffix]

/-- Query strings are brought together without loss. If two of them are joined, then under every
    name there are the values of the first one and after them those of the second one, and the names
    are those of the first one and after them the new ones of the second one, in order. A name occurs
    once, and its field is a list exactly if the name ends in brackets or has several values. Any
    number of question marks may stand before a query string. -/
theorem decode_joined :
    (∀ a b : String, b.toList.head? ≠ some '?' →
      (∀ name, heldValues (decode (a ++ "&" ++ b)) name =
        heldValues (decode a) name ++ heldValues (decode b) name) ∧
      (decode (a ++ "&" ++ b)).names =
        (decode a).names ++ (decode b).names.filter fun name => name ∉ (decode a).names) ∧
    (∀ query, (decode query).names.Nodup ∧ ∀ name value, (name, value) ∈ decode query →
      ((∃ items, value = .list items) ↔
        (∃ stem, name = stem ++ "[]") ∨ 2 ≤ (heldValues (decode query) name).length)) ∧
    ∀ marks query, decode (String.ofList (List.replicate marks '?') ++ query) = decode query := by
  refine ⟨fun a b hb => ?_, fun query => ⟨?_, fun _ _ => exists_list_iff⟩, fun marks query => ?_⟩
  · have hpairs : pairs (a ++ "&" ++ b).toList = pairs a.toList ++ pairs b.toList := by
      rw [← pairs_append_cons a.toList hb]
      simp [String.toList_append]
    refine ⟨fun name => ?_, ?_⟩
    · rw [heldValues_decode, hpairs, valuesOf_append, List.map_append, heldValues_decode,
        heldValues_decode]
    · rw [names_decode, names_decode, names_decode, hpairs, namesOf_append]
  · rw [names_decode]
    exact nodup_namesOf _
  · rw [decode, String.toList_append, String.toList_ofList,
      pairs_append_of_marks fun c hc => List.eq_of_mem_replicate hc, decode]

/-- A single value becomes a part of a list, and a name that is written in another way is the same
    one. -/
theorem decode_joined_tag :
    heldValues (decode "??tag=a&lang=is&t%61g=b&=%") "tag" = [.str "a", .str "b"] ∧
    (decode "??tag=a&lang=is&t%61g=b&=%").names = ["tag", "lang", ""] := by
  have hb : "t%61g=b&=%".toList.head? ≠ some '?' := by decide
  obtain ⟨hvalues, hnames⟩ := decode_joined.1 "??tag=a&lang=is" "t%61g=b&=%" hb
  have hquery : "??tag=a&lang=is" ++ "&" ++ "t%61g=b&=%" = "??tag=a&lang=is&t%61g=b&=%" := by decide
  rw [hquery] at hvalues hnames
  rw [hvalues, hnames]
  decide +kernel

end QueryFilter.QueryString
