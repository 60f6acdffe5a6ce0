import QueryFilter.Options
import QueryFilter.Proofs.FirstOccurrences
import QueryFilter.Proofs.Validation
import Mathlib.Data.List.Sort

/-!
# Sets of names

What an option says that lists names to drop or to keep (`Listing`), whatever kind of value it
is, and the canonical form of the names (`IsSetOf`): they are in the order of their code points,
each of them once.

* `checkStrings_eq_ok_iff`: lists of texts;
* `nameSet_eq_iff`: a set of names is known by its members;
* `checkNames_eq_ok_iff`: the names that an option lists are read as a set.
-/

namespace QueryFilter.Options

variable {names listed : List String} {v : Value} {name : String}

/-! ## Texts -/

/-- A list is read as a list of texts exactly if it is one. -/
theorem checkStrings_eq_ok_iff {items : List Value} {texts : List String} :
    checkStrings name items = .ok texts ↔ items = texts.map .str := by
  rw [checkStrings, Checked.collect_eq_ok_iff (f := Prod.fst) (g := Value.str), List.zipIdx_map_fst]
  rintro ⟨v, place⟩ s
  cases v <;> simp [Checked.flaw]

/-! ## Sets -/

/-- Whether some names are the canonical form of a set: those listed, in the order of their code
    points, each of them once. -/
structure IsSetOf (listed names : List String) : Prop where
  sorted : names.Pairwise (· < ·)
  mem_iff : ∀ name, name ∈ names ↔ name ∈ listed

/-- The canonical form of a set is unique. -/
theorem IsSetOf.unique {names' : List String} (h : IsSetOf listed names)
    (h' : IsSetOf listed names') : names = names' :=
  h.sorted.eq_of_mem_iff h'.sorted fun name => (h.mem_iff name).trans (h'.mem_iff name).symm

/-- A set of names is made. -/
theorem isSetOf_nameSet (listed : List String) : IsSetOf listed (nameSet listed) where
  sorted := by
    have hle : (listed.mergeSort fun a b => decide (a ≤ b)).Pairwise (· ≤ ·) := by
      refine (List.pairwise_mergeSort (fun a b c hab hbc => ?_) (fun a b => ?_) listed).imp
        of_decide_eq_true
      · exact decide_eq_true (String.le_trans (of_decide_eq_true hab) (of_decide_eq_true hbc))
      · simpa using String.le_total a b
    -- The names that are left are in order, and no two of them are equal.
    exact ((hle.sublist (eraseDups_sublist _)).and (nodup_eraseDups _)).imp
      fun h => Std.lt_of_le_of_ne h.1 h.2
  mem_iff name := by rw [nameSet, List.mem_eraseDups, List.mem_mergeSort]

/-- A set of names is known by its members. -/
theorem nameSet_eq_iff : nameSet listed = names ↔ IsSetOf listed names :=
  ⟨fun h => h ▸ isSetOf_nameSet listed, (isSetOf_nameSet listed).unique⟩

/-! ## Names that are listed -/

/-- Whether a value lists some names: nothing lists none, a text lists itself, a list the texts in
    it, and an object the names of what counts as set. -/
inductive Listing : Value → List String → Prop
  | nothing : Listing .null []
  | one (name : String) : Listing (.str name) [name]
  | list (texts : List String) : Listing (.list (texts.map .str)) texts
  | marked (entries : Document) :
      Listing (.doc entries) (Entries.names (entries.filter fun e => e.2.isTruthy))

/-- A list lists the texts in it, as long as there is nothing else in it. -/
theorem listing_list_iff {items : List Value} :
    Listing (.list items) listed ↔ items = listed.map .str := by
  constructor
  · rintro ⟨⟩
    rfl
  · rintro rfl
    exact .list listed

/-- Names are read as the set of those that the value lists. -/
theorem checkNames_eq_ok_iff (name : String) (v : Value) :
    checkNames name v = .ok names ↔ ∃ listed, Listing v listed ∧ IsSetOf listed names := by
  have hnil : IsSetOf [] [] := ⟨.nil, fun _ => .rfl⟩
  have hone : ∀ s, IsSetOf [s] [s] := fun s => ⟨List.pairwise_singleton .., fun _ => .rfl⟩
  constructor
  · intro h
    match v with
    | .null =>
      cases h
      exact ⟨[], .nothing, hnil⟩
    | .str s =>
      cases h
      exact ⟨[s], .one s, hone s⟩
    | .doc entries =>
      cases h
      exact ⟨_, .marked entries, isSetOf_nameSet _⟩
    | .list items =>
      obtain ⟨texts, hitems, rfl⟩ := map_eq_ok_iff.1 h
      rw [checkStrings_eq_ok_iff.1 hitems]
      exact ⟨texts, .list texts, isSetOf_nameSet texts⟩
    | .bool _ | .int _ | .num _ => cases h
  · rintro ⟨listed, hlisting, hset⟩
    cases hlisting with
    | nothing => rw [hset.unique hnil, checkNames]
    | one s => rw [hset.unique (hone s), checkNames]
    | list =>
      exact map_eq_ok_iff.2 ⟨listed, checkStrings_eq_ok_iff.2 rfl, nameSet_eq_iff.2 hset⟩
    | marked =>
      rw [← nameSet_eq_iff.2 hset]
      rfl

end QueryFilter.Options
