import QueryFilter.Proofs.Parser.Entries

/-!
# When parsing fails

A parser whose builders are all built-in ones makes a filter of almost every query. The one
thing that ends a run early is a timestamp with more digits than are converted, in a field
that reaches a builder of dates (`Options.FailsOn`): reading such a timestamp fails where
other texts that are no dates are left alone.

* `parse_eq_error_iff`: a query fails at its first field that does;
* `exists_parse_iff`: a query without such a field has a filter;
* `parse_ends_iff`: queries, query strings and builders, together.
-/

namespace QueryFilter

/-- A built-in builder ends normally on all values but those it fails on. -/
theorem Builder.exists_run_bound_iff {kind : BuilderKind} {field : String} {filter : Document}
    {raw : Value} : (∃ filter', (bound kind field).run filter raw = .ok filter') ↔
      ∀ n, ¬kind.Fails raw n := by
  rcases run_bound_cases kind field raw with ⟨n, hn, hrun⟩ | ⟨hfails, -, hrun⟩ | ⟨hfails, -, c, hrun⟩
  · rw [hrun filter]
    exact ⟨nofun, fun hfails => absurd hn (hfails n)⟩
  · exact ⟨fun _ => hfails, fun _ => ⟨filter, hrun filter⟩⟩
  · exact ⟨fun _ => hfails, fun _ => ⟨_, hrun filter⟩⟩

/-- A built-in builder leaves alone what it does not understand. -/
theorem Builder.run_bound_of_not_understands {kind : BuilderKind} {field : String}
    {filter : Document} {raw : Value} (hfails : ∀ n, ¬kind.Fails raw n)
    (h : ¬kind.Understands raw) : (bound kind field).run filter raw = .ok filter := by
  rcases run_bound_cases kind field raw with ⟨n, hn, -⟩ | ⟨-, -, hrun⟩ | ⟨-, hunderstands, -⟩
  · exact absurd hn (hfails n)
  · exact hrun filter
  · exact absurd hunderstands h

namespace Parser

variable {o : Options} {query : Query}

/-- The fields that do not fail are those whose builders do not. -/
theorem forall_entryOf_ne_error_iff {name : String} {raw : Value} :
    (∀ e, (ofOptions o).entryOf name raw ≠ .error e) ↔ ∀ n, ¬o.FailsOn name raw n := by
  refine ⟨?_, ?_⟩
  · intro h n hn
    exact h _ (entryOf_eq_error_iff.2 ⟨n, hn, rfl⟩)
  · intro h e he
    obtain ⟨n, hn, -⟩ := entryOf_eq_error_iff.1 he
    exact h n hn

/-- A query fails at its first field that does, and with its error. -/
theorem parse_eq_error_iff (ho : o.IsBuiltIn) {e : BuilderError} :
    (ofOptions o).parse query = .error e ↔ ∃ before name raw rest n,
      query = before ++ (name, raw) :: rest ∧
        (∀ field ∈ before, ∀ m, ¬o.FailsOn field.1 field.2 m) ∧ o.FailsOn name raw n ∧
          e = .tooManyDigits ⟨n⟩ := by
  have hentries : (ofOptions o).parse query = .error e ↔
      (ofOptions o).entriesOf query = .error e := by
    rw [parse_eq_entriesOf ho]
    cases (ofOptions o).entriesOf query <;> simp [Except.map]
  rw [hentries, entriesOf_eq_error_iff]
  simp only [forall_entryOf_ne_error_iff, entryOf_eq_error_iff]
  constructor
  · rintro ⟨before, name, raw, rest, hq, hbefore, n, hn, he⟩
    exact ⟨before, name, raw, rest, n, hq, hbefore, hn, he⟩
  · rintro ⟨before, name, raw, rest, n, hq, hbefore, hn, he⟩
    exact ⟨before, name, raw, rest, hq, hbefore, n, hn, he⟩

/-- A query has a filter if no field fails, and only then. -/
theorem exists_parse_iff (ho : o.IsBuiltIn) : (∃ filter, (ofOptions o).parse query = .ok filter) ↔
    ∀ field ∈ query, ∀ n, ¬o.FailsOn field.1 field.2 n := by
  simp only [← forall_entryOf_ne_error_iff, ← exists_entriesOf_iff, parse_eq_ok_iff ho]
  constructor
  · rintro ⟨_, es, hes, -⟩
    exact ⟨es, hes⟩
  · rintro ⟨es, hes⟩
    exact ⟨_, es, hes, rfl⟩

/-- Without builders, every query has a filter. -/
theorem exists_parse_of_custom_eq_nil (hc : o.custom = []) (query : Query) :
    ∃ filter, (ofOptions o).parse query = .ok filter := by
  refine (exists_parse_iff (Options.isBuiltIn_of_custom_eq_nil hc)).2 fun field hf n => ?_
  rintro ⟨key, kind, out, -, hb, -⟩
  simp [Options.builder?_of_custom_eq_nil hc] at hb

/-- A field with too many digits fails if its name is the one of a builder of dates. -/
theorem failsOn_ofBuilder_after {count : Nat} (hlimit : digitLimit < count) (field : String) :
    (Options.ofBuilder .after field).FailsOn "after"
      (.str (String.ofList (List.replicate count '1'))) count := by
  -- The name passes the standard pattern, and the standard lists are empty.
  have hkey : Pattern.key.finds "after".toList = true := by decide +kernel
  have hones : ∀ c ∈ List.replicate count '1', c.isDigit = true := by
    intro c hc
    rw [List.eq_of_mem_replicate hc]
    rfl
  have hlong : IsOverlong (String.ofList (List.replicate count '1')) count := by
    simpa using isOverlong_ofList hones (by simpa using hlimit)
  exact ⟨"after", .after, field, ⟨.inl rfl, List.not_mem_nil, rfl, fun _ _ => hkey, nofun⟩, rfl,
    hlong⟩

/-- Parsing ends with a filter unless a field holds a timestamp with too many digits that
    reaches a builder of dates. This is so for queries, which then fail at the first such
    field, and for query strings. A built-in builder fails on nothing else, and leaves alone
    what it does not understand. -/
theorem parse_ends_iff (ho : o.IsBuiltIn) :
    (∀ query, ((∃ filter, (ofOptions o).parse query = .ok filter) ↔
      ∀ field ∈ query, ∀ n, ¬o.FailsOn field.1 field.2 n) ∧
      ∀ e, (ofOptions o).parse query = .error e ↔ ∃ before name raw rest n,
        query = before ++ (name, raw) :: rest ∧
          (∀ field ∈ before, ∀ m, ¬o.FailsOn field.1 field.2 m) ∧ o.FailsOn name raw n ∧
            e = .tooManyDigits ⟨n⟩) ∧
    (∀ text, (∃ filter, (ofOptions o).parseQueryString text = .ok filter) ↔
      ∀ field ∈ QueryString.decode text, ∀ n, ¬o.FailsOn field.1 field.2 n) ∧
    ∀ kind field filter raw,
      ((∃ filter', (Builder.bound kind field).run filter raw = .ok filter') ↔
        ∀ n, ¬kind.Fails raw n) ∧
      ((∀ n, ¬kind.Fails raw n) → ¬kind.Understands raw →
        (Builder.bound kind field).run filter raw = .ok filter) :=
  ⟨fun _ => ⟨exists_parse_iff ho, fun _ => parse_eq_error_iff ho⟩, fun _ => exists_parse_iff ho,
    fun _ _ _ _ => ⟨Builder.exists_run_bound_iff, Builder.run_bound_of_not_understands⟩⟩

/-- A timestamp with too many digits has no filter; what is no point is left alone. -/
theorem parse_ends_iff_after :
    (¬∃ filter, (ofOptions (.ofBuilder .after "changed")).parse
      [("after", .str (String.ofList (List.replicate 4301 '1')))] = .ok filter) ∧
    (Builder.bound .near "place").run [] (.list []) = .ok [] := by
  obtain ⟨hqueries, -, hbuilders⟩ :=
    parse_ends_iff (Options.isBuiltIn_ofBuilder .after "changed")
  constructor
  · rw [(hqueries _).1]
    intro h
    exact h _ List.mem_cons_self _ (failsOn_ofBuilder_after (by decide) "changed")
  · exact (hbuilders .near "place" [] (.list [])).2 (fun n => id) id

/-- So parsing can fail. -/
theorem parse_eq_error_after :
    (ofOptions (.ofBuilder .after "changed")).parse
      [("after", .str (String.ofList (List.replicate 4301 '1')))] =
        .error (.tooManyDigits ⟨4301⟩) :=
  (parse_eq_error_iff (Options.isBuiltIn_ofBuilder .after "changed")).2
    ⟨[], "after", _, [], 4301, rfl, by simp, failsOn_ofBuilder_after (by decide) "changed", rfl⟩

end Parser

end QueryFilter
