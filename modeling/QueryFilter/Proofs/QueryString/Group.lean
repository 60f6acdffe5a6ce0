import QueryFilter.Proofs.Entries
import QueryFilter.Proofs.FirstOccurrences
import QueryFilter.QueryString

/-!
# Pairs brought together

What the pairs of a query string are brought together to: every name once, at the place of
its first pair (`namesOf`), and with it the values of all its pairs, in order (`valuesOf`).

* `group_eq`: the names and their values;
* `group_append_of_disjoint`: pairs without common names;
* `group_map_of_injective`: pairs under other names;
* `fieldValue_singleton`, `fieldValue_of_list`: the kind of value that some texts make;
* `decode_eq`: the mapping that a query string stands for.
-/

namespace QueryFilter

namespace QueryString

variable {ps qs : List (String × String)} {name : String}

/-! ## Names and values -/

/-- The names of pairs, each of them once, in the order of their first pairs. -/
def namesOf (ps : List (String × String)) : List String :=
  (ps.map Prod.fst).eraseDups

/-- The values of the pairs with a name, in order. -/
def valuesOf (ps : List (String × String)) (name : String) : List String :=
  (ps.filter fun p => p.1 = name).map Prod.snd

/-- No name is there twice. -/
theorem nodup_namesOf (ps : List (String × String)) : (namesOf ps).Nodup :=
  nodup_eraseDups _

/-- The names are those of the pairs. -/
theorem mem_namesOf : name ∈ namesOf ps ↔ name ∈ ps.map Prod.fst :=
  List.mem_eraseDups

/-- The name of a pair after others is added if it is a new one. -/
theorem namesOf_concat (ps : List (String × String)) (name v : String) :
    namesOf (ps ++ [(name, v)]) = namesOf ps ++ if name ∈ namesOf ps then [] else [name] := by
  rw [namesOf, namesOf, List.map_append, List.map_singleton, eraseDups_concat]
  simp only [List.mem_eraseDups]

/-- The names of pairs after others are added if they are new ones. -/
theorem namesOf_append (ps qs : List (String × String)) :
    namesOf (ps ++ qs) = namesOf ps ++ (namesOf qs).filter fun name => name ∉ namesOf ps := by
  have hnew : (qs.map Prod.fst).removeAll (ps.map Prod.fst) =
      (qs.map Prod.fst).filter fun name => name ∉ namesOf ps := by
    refine List.filter_congr fun name _ => ?_
    simp [mem_namesOf]
  rw [namesOf, List.map_append, List.eraseDups_append, hnew, eraseDups_filter, namesOf, namesOf]

/-- The values of pairs after others come after theirs. -/
theorem valuesOf_append (ps qs : List (String × String)) (name : String) :
    valuesOf (ps ++ qs) name = valuesOf ps name ++ valuesOf qs name := by
  rw [valuesOf, List.filter_append, List.map_append, valuesOf, valuesOf]

/-- A name has no values if no pair has it. -/
theorem valuesOf_eq_nil_iff : valuesOf ps name = [] ↔ name ∉ ps.map Prod.fst := by
  simp only [valuesOf, List.map_eq_nil_iff, List.filter_eq_nil_iff, decide_eq_true_eq, List.mem_map,
    not_exists, not_and]

/-- There are as many values as there are pairs with the name. -/
theorem length_valuesOf (ps : List (String × String)) (name : String) :
    (valuesOf ps name).length = (ps.map Prod.fst).count name := by
  rw [valuesOf, List.length_map, List.count, List.countP_map, List.countP_eq_length_filter]
  congr 2

/-! ## Groups -/

/-- Pairs may be brought together in two steps. -/
theorem groupFrom_append (acc : Entries (List String)) (ps qs : List (String × String)) :
    groupFrom acc (ps ++ qs) = groupFrom (groupFrom acc ps) qs := by
  induction ps generalizing acc with
  | nil => rfl
  | cons p ps ih => rw [List.cons_append, groupFrom, groupFrom, ih]

/-- Pairs are brought together to their names, with the values of each. -/
theorem group_eq (ps : List (String × String)) :
    group ps = (namesOf ps).map fun name => (name, valuesOf ps name) := by
  induction ps using List.reverseRecOn with
  | nil => rfl
  | append_singleton ps p ih =>
    obtain ⟨name, v⟩ := p
    have hold : ((group ps).get? name).getD [] = valuesOf ps name := by
      rw [ih, Entries.get?_tabulate]
      by_cases h : name ∈ namesOf ps
      · rw [if_pos h, Option.getD_some]
      · rw [if_neg h, Option.getD_none, valuesOf_eq_nil_iff.2 (mt mem_namesOf.2 h)]
    have hnew : valuesOf ps name ++ [v] = valuesOf (ps ++ [(name, v)]) name := by
      rw [valuesOf_append]
      simp [valuesOf]
    have hother : ∀ k, k ≠ name → valuesOf (ps ++ [(name, v)]) k = valuesOf ps k := by
      intro k hk
      rw [valuesOf_append]
      simp [valuesOf, Ne.symm hk]
    calc
      group (ps ++ [(name, v)]) = (group ps).assign name (valuesOf ps name ++ [v]) := by
        rw [group, groupFrom_append, ← group, groupFrom, groupFrom, Entries.modify, hold]
      _ = (namesOf ps ++ if name ∈ namesOf ps then [] else [name]).map
          fun k => (k, valuesOf (ps ++ [(name, v)]) k) := by
        rw [ih, hnew, Entries.assign_tabulate (nodup_namesOf ps) hother]
      _ = (namesOf (ps ++ [(name, v)])).map fun k => (k, valuesOf (ps ++ [(name, v)]) k) := by
        rw [namesOf_concat]

/-- Pairs without common names are brought together for themselves. -/
theorem group_append_of_disjoint (h : ∀ name ∈ ps.map Prod.fst, name ∉ qs.map Prod.fst) :
    group (ps ++ qs) = group ps ++ group qs := by
  have hnames : namesOf (ps ++ qs) = namesOf ps ++ namesOf qs := by
    rw [namesOf_append, List.filter_eq_self.2 fun name hq => ?_]
    exact decide_eq_true fun hp => h name (mem_namesOf.1 hp) (mem_namesOf.1 hq)
  rw [group_eq, hnames, List.map_append, group_eq ps, group_eq qs]
  congr 1
  · refine List.map_congr_left fun name hname => ?_
    rw [valuesOf_append, valuesOf_eq_nil_iff.2 (h name (mem_namesOf.1 hname)), List.append_nil]
  · refine List.map_congr_left fun name hname => ?_
    have hps : name ∉ ps.map Prod.fst := fun hp => h name hp (mem_namesOf.1 hname)
    rw [valuesOf_append, valuesOf_eq_nil_iff.2 hps, List.nil_append]

/-- Pairs under other names are brought together under those names, if different names stay
    different. -/
theorem group_map_of_injective {f : String → String} (hf : Function.Injective f)
    (ps : List (String × String)) :
    group (ps.map fun p => (f p.1, p.2)) = (group ps).map fun e => (f e.1, e.2) := by
  have hnames : namesOf (ps.map fun p => (f p.1, p.2)) = (namesOf ps).map f := by
    rw [namesOf, namesOf, ← eraseDups_map_of_injective hf, List.map_map, List.map_map]
    rfl
  rw [group_eq, group_eq, hnames, List.map_map, List.map_map]
  refine List.map_congr_left fun name _ => ?_
  simp [valuesOf, List.filter_map, Function.comp_def, hf.eq_iff]

/-! ## Mappings -/

/-- A single text is the value of a field whose name asks for no list. -/
theorem fieldValue_singleton (h : hasArraySuffix name = false) (s : String) :
    fieldValue name [s] = .str s := by
  simp [fieldValue, h]

/-- Texts are a list if the name asks for one, or if there is not just one of them. -/
theorem fieldValue_of_list {texts : List String}
    (h : hasArraySuffix name = true ∨ texts.length ≠ 1) :
    fieldValue name texts = .list (texts.map .str) := by
  match texts, h with
  | [], _ => rfl
  | [s], h => simp [fieldValue, h.resolve_right (by simp)]
  | _ :: _ :: _, _ => rfl

/-- A query string stands for the values of its names. -/
theorem decode_eq (query : String) : decode query = (namesOf (pairs query.toList)).map fun name =>
    (name, fieldValue name (valuesOf (pairs query.toList) name)) := by
  rw [decode, group_eq, List.map_map]
  rfl

end QueryString

end QueryFilter
