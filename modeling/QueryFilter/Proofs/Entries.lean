import QueryFilter.Entries
import Mathlib.Data.List.Basic

/-!
# Updates of entries

What entries are after an update by others (`Entries.update`), where each of the others has a
name of its own: the values under all names, and the order of the names. An update may be made
in several rounds, and the entries of a later round may be collected before.

* `assigns_assign`: an assignment, as a change in one place;
* `get?_update`, `names_update`: an update, entry by entry;
* `update_update`: two updates are one by entries that were updated themselves;
* `ofPairs_append`: so pairs may be collected in parts;
* `get?_ofPairs_eq_some_iff`: and of several pairs with one name the last one counts;
* `assign_tabulate`: an assignment to a table of the values of some names.
-/

namespace QueryFilter.Entries

variable {α : Type} {es es' : Entries α}

/-! ## One assignment -/

/-- Whether entries come from others by giving one name a value: where the name is there its first
    entry has the new value and nothing else changes, and a new name goes last. -/
inductive Assigns (name : String) (v : α) : Entries α → Entries α → Prop
  | replace (before : Entries α) {after : Entries α} {w : α} (h : name ∉ names before) :
      Assigns name v (before ++ (name, w) :: after) (before ++ (name, v) :: after)
  | append {es : Entries α} (h : name ∉ names es) : Assigns name v es (es ++ [(name, v)])

/-- An assignment gives one name a value. -/
theorem assigns_assign (es : Entries α) (name : String) (v : α) :
    Assigns name v es (es.assign name v) := by
  induction es with
  | nil => exact .append List.not_mem_nil
  | cons e es ih =>
    obtain ⟨k, w⟩ := e
    rw [assign]
    split_ifs with hk
    · subst hk
      exact .replace [] List.not_mem_nil
    · -- The first entry comes before all that changes.
      have hcons : ∀ {before : Entries α}, name ∉ names before → name ∉ names ((k, w) :: before) :=
        fun h hmem => (List.mem_cons.1 hmem).elim (Ne.symm hk) h
      generalize assign es name v = es' at ih ⊢
      cases ih with
      | replace before h => exact .replace ((k, w) :: before) (hcons h)
      | append h => exact .append (hcons h)

/-! ## Two assignments -/

/-- Of two assignments to one name the later one counts. -/
theorem assign_assign (es : Entries α) (name : String) (v w : α) :
    (es.assign name v).assign name w = es.assign name w := by
  induction es with
  | nil => simp [assign]
  | cons e es ih =>
    obtain ⟨k, u⟩ := e
    by_cases h : k = name <;> simp [assign, h, ih]

/-- Assignments to two names can be exchanged if one of the names is there already: only the
    other one may be new, so that it goes last either way. -/
theorem assign_comm {k l : String} (v w : α) (hne : k ≠ l) (hk : k ∈ names es) :
    (es.assign l w).assign k v = (es.assign k v).assign l w := by
  induction es with
  | nil => exact absurd hk List.not_mem_nil
  | cons e es ih =>
    obtain ⟨m, u⟩ := e
    by_cases hm : m = k
    · subst hm
      simp [assign, hne]
    · have hk' : k ∈ names es := (List.mem_cons.1 hk).resolve_left (Ne.symm hm)
      by_cases hl : m = l
      · simp [assign, hl, Ne.symm hne]
      · simp [assign, hm, hl, ih hk']

/-! ## Tables -/

/-- Assigning to a name in a table of values, where `g` is the table afterwards. -/
theorem assign_tabulate {f g : String → α} {keys : List String} {name : String}
    (hkeys : keys.Nodup) (h : ∀ k, k ≠ name → g k = f k) :
    assign (keys.map fun k => (k, f k)) name (g name) =
      (keys ++ if name ∈ keys then [] else [name]).map fun k => (k, g k) := by
  induction keys with
  | nil => simp [assign]
  | cons k keys ih =>
    obtain ⟨hk, hnodup⟩ := List.nodup_cons.1 hkeys
    rw [List.map_cons, assign]
    split_ifs with hname hmem hmem
    · -- The name does not occur again, so the other values are those from before.
      subst hname
      rw [List.append_nil, List.map_cons]
      congr 1
      refine List.map_congr_left fun l hl => ?_
      rw [h l fun e => hk (e ▸ hl)]
    · exact absurd (hname ▸ List.mem_cons_self) hmem
    · have hmem' : name ∈ keys := (List.mem_cons.1 hmem).resolve_left (Ne.symm hname)
      rw [ih hnodup, if_pos hmem', List.append_nil, List.append_nil, List.map_cons, h k hname]
    · have hmem' : name ∉ keys := fun hk => hmem (List.mem_cons_of_mem _ hk)
      rw [ih hnodup, if_neg hmem', List.cons_append, List.map_cons, h k hname]

/-! ## Entries put together -/

/-- The names of entries after others. -/
theorem names_append (es es' : Entries α) : names (es ++ es') = names es ++ names es' :=
  List.map_append

/-- A value is found in the first entries, or else in the others. -/
theorem get?_append (es es' : Entries α) (name : String) :
    get? (es ++ es') name = (es.get? name).or (es'.get? name) := by
  induction es with
  | nil => rfl
  | cons e es ih =>
    obtain ⟨k, v⟩ := e
    rw [List.cons_append, get?, get?, ih]
    split_ifs <;> rfl

/-- A value is found among chosen names if its name is one of them. -/
theorem get?_filter_names (es : Entries α) {p : String → Bool} {name : String} (h : p name = true) :
    get? (es.filter fun e => p e.1) name = es.get? name := by
  induction es with
  | nil => rfl
  | cons e es ih =>
    obtain ⟨k, v⟩ := e
    by_cases hk : k = name
    · simp [get?, hk, h]
    · by_cases hp : p k <;> simp [get?, hk, hp, ih]

/-! ## One update -/

/-- The first entry of an update is assigned before the others. -/
theorem update_cons (es : Entries α) (e : String × α) (es' : Entries α) :
    es.update (e :: es') = (es.assign e.1 e.2).update es' := rfl

/-- An update may be made in two parts. -/
theorem update_append (es es' es'' : Entries α) :
    es.update (es' ++ es'') = (es.update es').update es'' :=
  List.foldl_append

/-- An update without a name leaves the value under it as it is. -/
theorem get?_update_of_not_mem (es : Entries α) {k : String} (h : k ∉ names es') :
    (es.update es').get? k = es.get? k := by
  induction es' generalizing es with
  | nil => rfl
  | cons e es' ih =>
    obtain ⟨hne, h⟩ := not_or.1 (mt List.mem_cons.2 h)
    rw [update_cons, ih _ h, get?_assign_of_ne es e.2 hne]

/-- The last value that an update has for a name counts. -/
theorem get?_update_append_cons (es before : Entries α) {after : Entries α} {k : String} (v : α)
    (h : k ∉ names after) : (es.update (before ++ (k, v) :: after)).get? k = some v := by
  rw [update_append, update_cons, get?_update_of_not_mem _ h, get?_assign_self]

/-- The value under a name is the new one, or the old one if there is no new one. -/
theorem get?_update (es : Entries α) (h : (names es').Nodup) (k : String) :
    (es.update es').get? k = (es'.get? k).or (es.get? k) := by
  induction es' generalizing es with
  | nil => rfl
  | cons e es' ih =>
    obtain ⟨l, w⟩ := e
    obtain ⟨hl, hnodup⟩ := List.nodup_cons.1 h
    rw [update_cons, ih _ hnodup, get?]
    by_cases hk : l = k
    · -- The name does not occur again, so its value is the one assigned first.
      subst hk
      rw [get?_eq_none_iff.2 hl, get?_assign_self, if_pos rfl]
      rfl
    · rw [get?_assign_of_ne _ _ (Ne.symm hk), if_neg hk]

/-- The names stay in their places, and those that are new follow in their order. -/
theorem names_update (es : Entries α) (h : (names es').Nodup) :
    names (es.update es') = names es ++ (names es').filter fun k => k ∉ names es := by
  induction es' generalizing es with
  | nil => exact (List.append_nil _).symm
  | cons e es' ih =>
    obtain ⟨l, w⟩ := e
    obtain ⟨hl, hnodup⟩ := List.nodup_cons.1 h
    rw [update_cons, ih _ hnodup, names_cons]
    by_cases hmem : l ∈ names es
    · rw [names_assign_of_mem w hmem, List.filter_cons_of_neg (by simpa using hmem)]
    · rw [names_assign_of_not_mem w hmem, List.filter_cons_of_pos (by simpa using hmem),
        List.append_assoc, List.singleton_append]
      -- None of the other names is the one that was just added.
      congr 2
      refine List.filter_congr fun k hk => ?_
      have hne : k ≠ l := fun e => hl (e ▸ hk)
      simp [hne]

/-! ## Two updates -/

/-- An assignment after an update can be made before it, if its name is there and the update
    does not touch it. -/
theorem assign_update_of_not_mem {k : String} (v : α) (hk : k ∈ names es) (h : k ∉ names es') :
    (es.update es').assign k v = (es.assign k v).update es' := by
  induction es' generalizing es with
  | nil => rfl
  | cons e es' ih =>
    obtain ⟨hne, h⟩ := not_or.1 (mt List.mem_cons.2 h)
    rw [update_cons, update_cons, ih (mem_names_assign.2 (.inr hk)) h, assign_comm v e.2 hne hk]

/-- Assigning to the new entries is assigning after the update. -/
theorem update_assign (es : Entries α) (h : (names es').Nodup) (k : String) (v : α) :
    es.update (es'.assign k v) = (es.update es').assign k v := by
  induction es' generalizing es with
  | nil => rfl
  | cons e es' ih =>
    obtain ⟨l, w⟩ := e
    obtain ⟨hl, hnodup⟩ := List.nodup_cons.1 h
    rw [assign]
    split
    next hk =>
      subst hk
      rw [update_cons, update_cons, assign_update_of_not_mem v (mem_names_assign.2 (.inl rfl)) hl,
        assign_assign]
    next => rw [update_cons, update_cons, ih _ hnodup]

/-- Two updates, one after the other, are one by entries that were updated themselves. -/
theorem update_update (es : Entries α) (h : (names es').Nodup) (es'' : Entries α) :
    es.update (es'.update es'') = (es.update es').update es'' := by
  induction es'' generalizing es' with
  | nil => rfl
  | cons e es'' ih =>
    rw [update_cons, update_cons, ih (nodup_names_assign e.1 e.2 h), update_assign es h]

/-- Pairs may be collected in two parts. -/
theorem ofPairs_append (ps ps' : List (String × α)) :
    ofPairs (ps ++ ps') = (ofPairs ps).update (ofPairs ps') := by
  have hnil : (names ([] : Entries α)).Nodup := List.nodup_nil
  calc
    ofPairs (ps ++ ps') = (ofPairs ps).update ps' := update_append [] ps ps'
    _ = (ofPairs ps).update (ofPairs ps') := (update_update (ofPairs ps) hnil ps').symm

/-! ## Lists of pairs -/

/-- Of the pairs with a name there is a last one. -/
theorem exists_last {ps : List (String × α)} {name : String} (h : name ∈ names ps) :
    ∃ before v after, ps = before ++ (name, v) :: after ∧ name ∉ names after := by
  induction ps with
  | nil => exact absurd h List.not_mem_nil
  | cons p ps ih =>
    by_cases hrest : name ∈ names ps
    · obtain ⟨before, v, after, rfl, hafter⟩ := ih hrest
      exact ⟨p :: before, v, after, rfl, hafter⟩
    · obtain rfl : name = p.1 := (List.mem_cons.1 h).resolve_right hrest
      exact ⟨[], p.2, ps, rfl, hrest⟩

/-- Of several pairs with a name the last one counts. -/
theorem get?_ofPairs_eq_some_iff {ps : List (String × α)} {name : String} {v : α} :
    (ofPairs ps).get? name = some v ↔
      ∃ before after, ps = before ++ (name, v) :: after ∧ name ∉ names after := by
  constructor
  · intro h
    have hmem : name ∈ names ps := mem_names_ofPairs.1 (mem_names.2 ⟨v, mem_of_get? h⟩)
    obtain ⟨before, w, after, rfl, hafter⟩ := exists_last hmem
    rw [ofPairs, get?_update_append_cons [] before w hafter] at h
    exact ⟨before, after, Option.some.inj h ▸ rfl, hafter⟩
  · rintro ⟨before, after, rfl, hafter⟩
    exact get?_update_append_cons [] before v hafter

end QueryFilter.Entries
