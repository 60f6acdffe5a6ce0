import QueryFilter.Proofs.Builder
import QueryFilter.Proofs.Parser.Route

/-!
# What the fields of a query write

If all builders of a parser are built-in ones, then what a field writes into the filter does
not depend on the filter made so far: it is one entry, or none, or the run ends with an error
(`Parser.entryOf`). A run assigns the entries of its fields in turn.

* `run_eq_entriesOf`, `parse_eq_entriesOf`: a run is told by the entries that its fields
  write;
* `entriesOf_eq_error_iff`, `mem_entriesOf_iff`: the entries of a query, from those of its
  fields; `mem_names_iff_exists_entryOf`: the keys of its filter;
* `entriesOf_filter`: fields that write nothing have no part in a query;
* `entryOf_eq_error_iff`, `entryOf_eq_some_iff`: the entry of a field.
-/

namespace QueryFilter

/-- Whether a field makes a built-in builder fail: it is let through under the output name
    of a builder that fails on its value, because of a timestamp with `count` digits. -/
def Options.FailsOn (o : Options) (name : String) (raw : Value) (count : Nat) : Prop :=
  ∃ key kind field, o.Admits name raw key ∧ o.builder? key = some (.bound kind field) ∧
    kind.Fails raw count

namespace Parser

/-- What a field writes into any filter. -/
def entryOf (p : Parser) (name : String) (raw : Value) :
    Except BuilderError (Option (String × Value)) :=
  match p.route name raw with
  | .drop _ => .ok none
  | .store key v => .ok (some (key, v))
  | .build b => b.entryOf raw

/-- What the fields of a query write, up to the first error. -/
def entriesOf (p : Parser) : Query → Except BuilderError Document
  | [] => .ok []
  | (name, raw) :: rest =>
    match p.entryOf name raw with
    | .error e => .error e
    | .ok entry => (entriesOf p rest).map (entry.toList ++ ·)

variable {p : Parser} {o : Options} {name : String} {raw : Value} {query : Query}

/-! ## Runs -/

/-- The builders that fields go to are those of the options. -/
theorem isBound_of_route (ho : o.IsBuiltIn) {b : Builder}
    (h : (ofOptions o).route name raw = .build b) : b.IsBound := by
  obtain ⟨key, -, hb⟩ := route_eq_build_iff.1 h
  obtain ⟨choice, hc, rfl⟩ := mem_custom_of_builder? hb
  exact ho _ hc

/-- A run assigns the entries that its fields write. -/
theorem run_eq_entriesOf (ho : o.IsBuiltIn) (filter : Document) (query : Query) :
    ((ofOptions o).run filter query).result = ((ofOptions o).entriesOf query).map filter.update := by
  induction query generalizing filter with
  | nil => rfl
  | cons field rest ih =>
    obtain ⟨name, raw⟩ := field
    rw [entriesOf, entryOf]
    cases h : (ofOptions o).route name raw with
    | drop reason =>
      rw [run_cons_drop h, Outcome.addDrop]
      simp only [ih]
      cases (ofOptions o).entriesOf rest <;> rfl
    | store key v =>
      rw [run_cons_store h, ih]
      cases (ofOptions o).entriesOf rest <;> rfl
    | build b =>
      -- A built-in builder may fail, add nothing, or add one entry.
      simp only [run, h, Builder.run_of_isBound (isBound_of_route ho h)]
      cases b.entryOf raw with
      | error e => rfl
      | ok entry =>
        simp only [Except.map, ih]
        cases (ofOptions o).entriesOf rest with
        | error e => rfl
        | ok es => simp [Entries.update, List.foldl_append]

/-- The filter of a query has the entries that its fields write, each at the place of the
    first one with its key and with the value of the last one. -/
theorem parse_eq_entriesOf (ho : o.IsBuiltIn) (query : Query) :
    (ofOptions o).parse query = ((ofOptions o).entriesOf query).map Entries.ofPairs :=
  run_eq_entriesOf ho [] query

/-- The filters that a query can have. -/
theorem parse_eq_ok_iff (ho : o.IsBuiltIn) {filter : Document} :
    (ofOptions o).parse query = .ok filter ↔
      ∃ es, (ofOptions o).entriesOf query = .ok es ∧ filter = Entries.ofPairs es := by
  rw [parse_eq_entriesOf ho]
  cases (ofOptions o).entriesOf query with
  | error e => simp [Except.map]
  | ok es => simp [Except.map, eq_comm]

/-! ## The entries of a query -/

/-- A query fails at its first field that does. -/
theorem entriesOf_eq_error_iff {e : BuilderError} : p.entriesOf query = .error e ↔
    ∃ before name raw rest, query = before ++ (name, raw) :: rest ∧
      (∀ field ∈ before, ∀ e', p.entryOf field.1 field.2 ≠ .error e') ∧
        p.entryOf name raw = .error e := by
  induction query with
  | nil => simp [entriesOf]
  | cons field rest ih =>
    obtain ⟨name, raw⟩ := field
    rw [entriesOf]
    refine ⟨?_, ?_⟩
    · intro h
      split at h
      next e' he => exact ⟨[], name, raw, rest, rfl, by simp, by rw [he, Except.error.inj h]⟩
      next entry he =>
        have hrest : p.entriesOf rest = .error e := by
          cases hr : p.entriesOf rest with
          | error e' => rw [hr] at h; exact h
          | ok es => rw [hr] at h; simp [Except.map] at h
        obtain ⟨before, n, r, rest', rfl, hbefore, hn⟩ := ih.1 hrest
        refine ⟨(name, raw) :: before, n, r, rest', rfl, fun field hf => ?_, hn⟩
        rcases List.mem_cons.1 hf with rfl | hf
        · simp [he]
        · exact hbefore field hf
    · rintro ⟨before, n, r, rest', hq, hbefore, hn⟩
      -- The field that fails is the first one, or it is among the rest.
      cases before with
      | nil =>
        simp only [List.nil_append, List.cons.injEq, Prod.mk.injEq] at hq
        obtain ⟨⟨rfl, rfl⟩, -⟩ := hq
        simp only [hn]
      | cons field before =>
        obtain ⟨rfl, rfl⟩ := List.cons.inj hq
        have hrest := ih.2 ⟨before, n, r, rest', rfl,
          fun f hf => hbefore f (List.mem_cons_of_mem _ hf), hn⟩
        rw [hrest]
        split
        next e' he => exact absurd he (hbefore (name, raw) List.mem_cons_self e')
        next => rfl

/-- A query without a field that fails does not fail. -/
theorem exists_entriesOf_iff : (∃ es, p.entriesOf query = .ok es) ↔
    ∀ field ∈ query, ∀ e, p.entryOf field.1 field.2 ≠ .error e := by
  induction query with
  | nil => simp [entriesOf]
  | cons field rest ih =>
    obtain ⟨name, raw⟩ := field
    rw [entriesOf, List.forall_mem_cons, ← ih]
    cases p.entryOf name raw with
    | error e => simp
    | ok entry => cases p.entriesOf rest <;> simp [Except.map]

/-- The entries of a query are those that its fields write. -/
theorem mem_entriesOf_iff {es : Document} (h : p.entriesOf query = .ok es) {entry : String × Value} :
    entry ∈ es ↔ ∃ field ∈ query, p.entryOf field.1 field.2 = .ok (some entry) := by
  induction query generalizing es with
  | nil =>
    obtain rfl := Except.ok.inj h
    simp
  | cons field rest ih =>
    obtain ⟨name, raw⟩ := field
    rw [entriesOf] at h
    split at h
    next => simp at h
    next entry? he =>
      cases hr : p.entriesOf rest with
      | error e => simp [hr, Except.map] at h
      | ok es' =>
        rw [hr] at h
        obtain rfl := Except.ok.inj h
        simp only [List.mem_append, ih hr, List.mem_cons, exists_eq_or_imp, he, Except.ok.injEq,
          Option.mem_toList]

/-- Fields that write nothing may be left out. -/
theorem entriesOf_filter {p : Parser} (keep : String × Value → Bool)
    (h : ∀ field ∈ query, keep field = false → p.entryOf field.1 field.2 = .ok none) :
    p.entriesOf (query.filter keep) = p.entriesOf query := by
  induction query with
  | nil => rfl
  | cons field rest ih =>
    obtain ⟨name, raw⟩ := field
    obtain ⟨hfield, hrest⟩ := List.forall_mem_cons.1 h
    cases hkeep : keep (name, raw) with
    | false =>
      rw [List.filter_cons_of_neg (by simp [hkeep]), ih hrest, entriesOf, hfield hkeep]
      cases p.entriesOf rest <;> rfl
    | true => rw [List.filter_cons_of_pos hkeep, entriesOf, entriesOf, ih hrest]

/-- The keys of a filter are those of the entries that its fields write. -/
theorem mem_names_iff_exists_entryOf (ho : o.IsBuiltIn) {filter : Document}
    (h : (ofOptions o).parse query = .ok filter) (key : String) : key ∈ filter.names ↔
      ∃ field ∈ query, ∃ v, (ofOptions o).entryOf field.1 field.2 = .ok (some (key, v)) := by
  obtain ⟨es, hes, rfl⟩ := (parse_eq_ok_iff ho).1 h
  -- An entry with the key of an earlier one replaces its value, not the key.
  rw [Entries.mem_names_ofPairs, Entries.mem_names]
  simp only [mem_entriesOf_iff hes]
  constructor
  · rintro ⟨v, field, hf, hv⟩
    exact ⟨field, hf, v, hv⟩
  · rintro ⟨field, hf, v, hv⟩
    exact ⟨v, field, hf, hv⟩

/-! ## The entry of a field -/

/-- A field fails if its builder does. -/
theorem entryOf_eq_error_iff {e : BuilderError} : (ofOptions o).entryOf name raw = .error e ↔
    ∃ n, o.FailsOn name raw n ∧ e = .tooManyDigits ⟨n⟩ := by
  rw [entryOf]
  refine ⟨?_, ?_⟩
  · intro h
    split at h
    · simp at h
    · simp at h
    next b hb =>
      obtain ⟨key, ha, hkey⟩ := route_eq_build_iff.1 hb
      obtain ⟨kind, field, n, rfl, hn, rfl⟩ := Builder.entryOf_eq_error_iff.1 h
      exact ⟨n, ⟨key, kind, field, ha, hkey, hn⟩, rfl⟩
  · rintro ⟨n, ⟨key, kind, field, ha, hb, hn⟩, rfl⟩
    rw [route_eq_build_iff.2 ⟨key, ha, hb⟩]
    exact Builder.entryOf_eq_error_iff.2 ⟨kind, field, n, rfl, hn, rfl⟩

/-- A field writes an entry if it goes to a built-in builder that understands its value, or if
    its value is stored. -/
theorem entryOf_eq_some_iff {entry : String × Value} :
    (ofOptions o).entryOf name raw = .ok (some entry) ↔
      (∃ key kind c, o.Admits name raw key ∧ o.builder? key = some (.bound kind entry.1) ∧
        kind.condition raw = .ok (some c) ∧ entry.2 = .doc c) ∨
      (ofOptions o).route name raw = .store entry.1 entry.2 := by
  rw [entryOf]
  cases h : (ofOptions o).route name raw with
  | drop reason =>
    simp only [Except.ok.injEq, reduceCtorEq, or_false, false_iff]
    rintro ⟨key, kind, c, ha, hb, -⟩
    rw [route_eq_build_iff.2 ⟨key, ha, hb⟩] at h
    simp at h
  | store key v =>
    refine ⟨?_, ?_⟩
    · intro he
      obtain rfl := Option.some.inj (Except.ok.inj he)
      exact .inr rfl
    · rintro (⟨key', kind, c, ha, hb, -⟩ | he)
      · rw [route_eq_build_iff.2 ⟨key', ha, hb⟩] at h
        simp at h
      · obtain ⟨rfl, rfl⟩ := Route.store.inj he
        rfl
  | build b =>
    rw [Builder.entryOf_eq_some_iff]
    constructor
    · rintro ⟨kind, c, rfl, hc, hv⟩
      obtain ⟨key, ha, hb⟩ := route_eq_build_iff.1 h
      exact .inl ⟨key, kind, c, ha, hb, hc, hv⟩
    · rintro (⟨key, kind, c, ha, hb, hc, hv⟩ | he)
      · rw [route_eq_build_iff.2 ⟨key, ha, hb⟩] at h
        exact ⟨kind, c, (Route.build.inj h).symm, hc, hv⟩
      · simp at he

/-- Without builders, a field writes what is stored for it. -/
theorem entryOf_eq_some_iff_of_custom_eq_nil (hc : o.custom = []) {entry : String × Value} :
    (ofOptions o).entryOf name raw = .ok (some entry) ↔
      (ofOptions o).route name raw = .store entry.1 entry.2 := by
  rw [entryOf_eq_some_iff]
  refine ⟨fun h => h.resolve_left ?_, .inr⟩
  rintro ⟨key, kind, c, -, hb, -⟩
  simp [Options.builder?_of_custom_eq_nil hc] at hb

end Parser

end QueryFilter
