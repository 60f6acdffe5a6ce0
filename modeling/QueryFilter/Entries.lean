/-!
# Named entries

Lists of named entries (`Entries`), which documents and other tables are. The order of
the entries is part of them: assigning to a name that is there keeps its place, and a
new name goes last (`Entries.assign`).

* `Entries.get?_assign_self`, `Entries.get?_assign_of_ne`: assigning changes the
  value of one name;
* `Entries.names_assign_of_mem`, `Entries.names_assign_of_not_mem`: and the names
  only if it is a new one, which then goes last;
* `Entries.mem_names_update`, `Entries.mem_update`: what is there after several
  assignments.
-/

namespace QueryFilter

/-- Named entries in order. -/
abbrev Entries (α : Type) := List (String × α)

namespace Entries

variable {α : Type}

/-- The names of the entries, in order. -/
def names (es : Entries α) : List String :=
  es.map Prod.fst

/-- The value of the entry called `name`. -/
def get? : Entries α → String → Option α
  | [], _ => none
  | (k, v) :: es, name => if k = name then some v else get? es name

/-- Gives the entry called `name` the value `v`. It keeps its place; a new one goes
    last. -/
def assign : Entries α → String → α → Entries α
  | [], name, v => [(name, v)]
  | (k, w) :: es, name, v => if k = name then (k, v) :: es else (k, w) :: assign es name v

/-- Assigns every entry of `es'` in turn. -/
def update (es es' : Entries α) : Entries α :=
  es'.foldl (fun acc e => acc.assign e.1 e.2) es

/-- The entries of a list of pairs, a later pair overriding an earlier one of the
    same name. -/
def ofPairs (ps : List (String × α)) : Entries α :=
  update [] ps

/-- Changes the value of the entry called `name`; one that is not there counts as
    `empty` and goes last. -/
def modify (es : Entries α) (name : String) (empty : α) (f : α → α) : Entries α :=
  es.assign name (f ((es.get? name).getD empty))

/-- The value just assigned is found. -/
@[simp] theorem get?_assign_self (es : Entries α) (name : String) (v : α) :
    (es.assign name v).get? name = some v := by
  induction es with
  | nil => simp [assign, get?]
  | cons e es ih =>
    obtain ⟨k, w⟩ := e
    by_cases h : k = name <;> simp [assign, get?, h, ih]

/-- Assigning to another name changes nothing. -/
theorem get?_assign_of_ne (es : Entries α) {name other : String} (v : α) (h : other ≠ name) :
    (es.assign name v).get? other = es.get? other := by
  induction es with
  | nil => simp [assign, get?, Ne.symm h]
  | cons e es ih =>
    obtain ⟨k, w⟩ := e
    by_cases hk : k = name
    · subst hk
      simp [assign, get?, Ne.symm h]
    · simp [assign, get?, hk, ih]

/-- Assigning to a name that is there leaves the names as they are. -/
theorem names_assign_of_mem {es : Entries α} {name : String} (v : α) (h : name ∈ names es) :
    names (es.assign name v) = names es := by
  induction es with
  | nil => simp [names] at h
  | cons e es ih =>
    obtain ⟨k, w⟩ := e
    by_cases hk : k = name
    · simp [assign, names, hk]
    · have h' : name ∈ names es := by
        simp only [names, List.map_cons, List.mem_cons] at h
        exact h.resolve_left fun h => hk h.symm
      have := ih h'
      simp only [names] at this ⊢
      simp [assign, hk, this]

/-- A new name goes last. -/
theorem names_assign_of_not_mem {es : Entries α} {name : String} (v : α) (h : name ∉ names es) :
    names (es.assign name v) = names es ++ [name] := by
  induction es with
  | nil => rfl
  | cons e es ih =>
    obtain ⟨k, w⟩ := e
    simp only [names, List.map_cons, List.mem_cons, not_or] at h
    have := ih h.2
    simp only [names] at this ⊢
    simp [assign, Ne.symm h.1, this]

/-- The names after an assignment. -/
@[simp] theorem mem_names_assign {es : Entries α} {name k : String} {v : α} :
    k ∈ names (es.assign name v) ↔ k = name ∨ k ∈ names es := by
  by_cases h : name ∈ names es
  · rw [names_assign_of_mem v h]
    exact ⟨.inr, fun hk => hk.elim (fun e => e ▸ h) id⟩
  · rw [names_assign_of_not_mem v h, List.mem_append, List.mem_singleton, or_comm]

/-- After an assignment there is an entry. -/
theorem assign_ne_nil (es : Entries α) (name : String) (v : α) : es.assign name v ≠ [] := by
  intro h
  have hmem : name ∈ names (es.assign name v) := mem_names_assign.2 (.inl rfl)
  rw [h] at hmem
  exact absurd hmem List.not_mem_nil

/-- An entry after an assignment is the one assigned or was there before. -/
theorem mem_assign {es : Entries α} {name : String} {v : α} {e : String × α}
    (h : e ∈ es.assign name v) : e = (name, v) ∨ e ∈ es := by
  induction es with
  | nil => exact .inl (List.mem_singleton.1 h)
  | cons e' es ih =>
    obtain ⟨k, w⟩ := e'
    rw [assign] at h
    split at h
    next hk =>
      subst hk
      exact (List.mem_cons.1 h).imp_right (List.mem_cons_of_mem _)
    next =>
      rcases List.mem_cons.1 h with rfl | h
      · exact .inr List.mem_cons_self
      · exact (ih h).imp_right (List.mem_cons_of_mem _)

/-- An assignment does not make a name occur twice. -/
theorem nodup_names_assign {es : Entries α} (name : String) (v : α) (h : (names es).Nodup) :
    (names (es.assign name v)).Nodup := by
  by_cases hn : name ∈ names es
  · rwa [names_assign_of_mem v hn]
  · rw [names_assign_of_not_mem v hn, List.nodup_append]
    refine ⟨h, by simp, fun k hk l hl => ?_⟩
    rw [List.mem_singleton.1 hl]
    exact fun e => hn (e ▸ hk)

/-- There are no names among no entries. -/
@[simp] theorem names_nil : names ([] : Entries α) = [] := rfl

/-- The first name, and the names of the rest. -/
@[simp] theorem names_cons (e : String × α) (es : Entries α) :
    names (e :: es) = e.1 :: names es := rfl

/-- A name is the name of an entry. -/
theorem mem_names {es : Entries α} {k : String} : k ∈ names es ↔ ∃ v, (k, v) ∈ es := by
  simp [names]

/-- The names after several assignments. -/
theorem mem_names_update {es es' : Entries α} {k : String} :
    k ∈ names (es.update es') ↔ k ∈ names es ∨ k ∈ names es' := by
  induction es' generalizing es with
  | nil => simp [update]
  | cons e es' ih =>
    rw [update, List.foldl_cons, ← update, ih, mem_names_assign, names_cons, List.mem_cons,
      or_comm (a := k = e.1), or_assoc]

/-- An entry after several assignments was assigned or was there before. -/
theorem mem_update {es es' : Entries α} {e : String × α} (h : e ∈ es.update es') :
    e ∈ es ∨ e ∈ es' := by
  induction es' generalizing es with
  | nil => exact .inl h
  | cons e' es' ih =>
    rcases ih h with h | h
    · rcases mem_assign h with rfl | h
      · exact .inr List.mem_cons_self
      · exact .inl h
    · exact .inr (List.mem_cons_of_mem _ h)

/-- The names of a list of pairs. -/
theorem mem_names_ofPairs {ps : List (String × α)} {k : String} :
    k ∈ names (ofPairs ps) ↔ k ∈ names ps := by
  rw [ofPairs, mem_names_update]
  simp

/-- An entry of a list of pairs is one of the pairs. -/
theorem mem_of_mem_ofPairs {ps : List (String × α)} {e : String × α} (h : e ∈ ofPairs ps) :
    e ∈ ps :=
  (mem_update h).resolve_left List.not_mem_nil

/-- Several assignments do not make a name occur twice. -/
theorem nodup_names_update {es : Entries α} (es' : Entries α) (h : (names es).Nodup) :
    (names (es.update es')).Nodup := by
  induction es' generalizing es with
  | nil => exact h
  | cons e es' ih => exact ih (nodup_names_assign e.1 e.2 h)

/-- Nothing is found under a name that is not there. -/
theorem get?_eq_none_iff {es : Entries α} {name : String} :
    es.get? name = none ↔ name ∉ names es := by
  induction es with
  | nil => simp [get?]
  | cons e es ih =>
    obtain ⟨k, w⟩ := e
    by_cases h : k = name
    · simp [get?, h]
    · simp [get?, h, ih, Ne.symm h]

/-- What is found is an entry. -/
theorem mem_of_get? {es : Entries α} {name : String} {v : α} (h : es.get? name = some v) :
    (name, v) ∈ es := by
  induction es with
  | nil => simp [get?] at h
  | cons e es ih =>
    obtain ⟨k, w⟩ := e
    rw [get?] at h
    split at h
    next hk =>
      subst hk
      rw [Option.some.inj h]
      exact List.mem_cons_self
    next => exact List.mem_cons_of_mem _ (ih h)

/-- What is found in a table of the values of some names. -/
theorem get?_tabulate (f : String → α) (keys : List String) (name : String) :
    get? (keys.map fun k => (k, f k)) name = if name ∈ keys then some (f name) else none := by
  induction keys with
  | nil => rfl
  | cons k keys ih =>
    rw [List.map_cons, get?, ih]
    by_cases h : k = name
    · simp [h]
    · simp [h, Ne.symm h]

/-- What is found after all values have been changed. -/
theorem get?_map {β : Type} (f : α → β) (es : Entries α) (name : String) :
    get? (es.map fun e => (e.1, f e.2)) name = (es.get? name).map f := by
  induction es with
  | nil => rfl
  | cons e es ih =>
    obtain ⟨k, w⟩ := e
    by_cases h : k = name <;> simp [get?, h, ih]

end Entries

end QueryFilter
