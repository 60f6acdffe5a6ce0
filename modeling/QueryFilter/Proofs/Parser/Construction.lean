import QueryFilter.Proofs.Entries
import QueryFilter.Proofs.Options.Overflow
import QueryFilter.Parser

/-!
# Making parsers

A parser is made from a document and from single options that count over those of the document.
There are three ends: the options of the document are read, and the parser with these options is
made; or the document says no options, and the failure is that the options are not valid; or a
number in one of its patterns is too large to be read, and there is neither a parser nor a failure.

A builder is not looked for again when a parser is made. If it were, by the name of its entry alone,
the same builders would be found, and none would be missing.

* `make_of_isReading`, `exists_make_eq_failure_iff`, `make_eq_overflow_iff`: the three ends;
* `make_exact`: all ends, and the builders of a parser;
* `make_repetitions`: a pattern that is not valid and of which no failure is made.
-/

namespace QueryFilter.Parser

open Options

variable {chars : CharNames} {settings : Settings} {doc overrides : Entries RawOption}

/-- The parser with the options that a document says. -/
theorem make_of_isReading {o : Options} (h : IsReading chars settings (doc.update overrides) o) :
    make chars settings doc overrides = .ok (ofOptions o) := by
  rw [make, check_eq_ok_iff.2 h]

/-- A document says the options of the parser that is made. -/
theorem isReading_of_make {p : Parser} (h : make chars settings doc overrides = .ok p) :
    IsReading chars settings (doc.update overrides) p.options ∧ p = ofOptions p.options := by
  unfold make at h
  split at h
  next o hcheck =>
    cases h
    exact ⟨check_eq_ok_iff.1 hcheck, rfl⟩
  next => cases h
  next => cases h

/-- A document fails if it says no options, and no number in its patterns is too large. All flaws
    of its options are the failure. -/
theorem exists_make_eq_failure_iff :
    (∃ fs, make chars settings doc overrides = .error (.failure (invalidOptions fs))) ↔
      (¬∃ o, IsReading chars settings (doc.update overrides) o) ∧
        ¬∃ o, Overflows chars (doc.update overrides) o := by
  rw [← check_eq_flaws_iff, make]
  match check chars settings (doc.update overrides) with
  | .ok o => simp
  | .error (.flaws fs) => simp
  | .error (.overflow o) => simp

/-- No other failure is made. -/
theorem eq_invalidOptions_of_make {f : Failure}
    (h : make chars settings doc overrides = .error (.failure f)) :
    ∃ fs, f = invalidOptions fs := by
  unfold make at h
  split at h
  next => cases h
  next fs _ =>
    cases h
    exact ⟨fs, rfl⟩
  next => cases h

/-- A number that is too large is no failure. -/
theorem make_eq_overflow_iff {o : Overflow} :
    make chars settings doc overrides = .error (.overflow o) ↔
      Overflows chars (doc.update overrides) o := by
  rw [← check_eq_overflow_iff settings, make]
  match check chars settings (doc.update overrides) with
  | .ok o => simp
  | .error (.flaws fs) => simp
  | .error (.overflow o) => simp

/-- The builders of a parser are those of the option for them, if it is there. -/
theorem checkBuilders_of_isReading {doc : Entries RawOption} {raw : RawOption} {o : Options}
    (h : IsReading chars settings doc o) (hraw : doc.get? "custom" = some raw) :
    checkBuilders "custom" raw = .ok o.custom :=
  (checkBuilders_eq_ok_iff "custom" raw).2 (h.custom.of_get? hraw)

/-- Making a parser. The options of the document count unless there are single options of their
    names. If what is left says options, then the parser with these options is made. If it says
    none, then the failure is that the options are not valid, unless a number that is written in one
    of its patterns is too large; this ends the making without a failure, and nothing else does. A
    table of builders is sound if all its entries are builders, or under the names of built-in kinds
    texts that are not empty; then binding finds a kind for each text, and these are the builders of
    the parser. -/
theorem make_exact (chars : CharNames) (settings : Settings) (doc? : Option (Entries RawOption))
    (overrides : Entries RawOption) (hnames : overrides.names.Nodup) :
    let doc := (doc?.getD []).update overrides
    let made := make chars settings (doc?.getD []) overrides
    (∀ name, doc.get? name = (overrides.get? name).or ((doc?.getD []).get? name)) ∧
    ((∃ f, made = .error (.failure f) ∧ f.kind = .invalidConfig) ↔
      (¬∃ o, IsReading chars settings doc o) ∧ ¬∃ o, Overflows chars doc o) ∧
    (∀ f, made = .error (.failure f) → ∃ fs, f = invalidOptions fs) ∧
    (∀ o, made = .error (.overflow o) ↔ Overflows chars doc o) ∧
    (∀ o, Overflows chars doc o → ∃ spellings ∈ patternNames, ∃ name s,
      IsSpelling doc spellings name ∧ doc.get? name = some (.plain (.str s)) ∧
      Pattern.Writes o s.toList) ∧
    (∀ o, IsReading chars settings doc o → made = .ok (ofOptions o)) ∧
    ∀ raw entries, doc.get? "custom" = some raw → raw.settings? = some entries →
      ((∃ cs, checkBuilders "custom" raw = .ok cs) ↔ ∀ e ∈ entries, (∃ b, e.2 = .builder b) ∨
        (∃ field, field ≠ "" ∧ e.2 = .value (.str field)) ∧
          e.1 ∈ ["bbox", "near", "after", "before", "between"]) ∧
      ∀ cs, checkBuilders "custom" raw = .ok cs → ∃ builders,
        bindAll entries = .ok (builders.map fun b => (b.1, .builder b.2)) ∧
        List.Forall₂ (fun e b => b.1 = e.1 ∧ IsBound e.1 e.2 b.2) entries builders ∧
        ∀ p, made = .ok p → p.rules = .ofSource (ruleSource p.options) ∧
          (ruleSource p.options).builders = builders := by
  intro doc made
  refine ⟨fun name => Entries.get?_update _ hnames name, ⟨?_, fun h => ?_⟩,
    fun f => eq_invalidOptions_of_make, fun o => make_eq_overflow_iff,
    fun o => Overflows.exists_writes, fun o ho => make_of_isReading ho,
    fun raw entries hraw hentries => ⟨?_, fun cs hcs => ?_⟩⟩
  · rintro ⟨f, hf, -⟩
    obtain ⟨fs, rfl⟩ := eq_invalidOptions_of_make hf
    exact exists_make_eq_failure_iff.1 ⟨fs, hf⟩
  · obtain ⟨fs, herror⟩ := exists_make_eq_failure_iff.2 h
    exact ⟨_, herror, rfl⟩
  · rw [exists_checkBuilders_iff hentries]
    exact forall₂_congr fun e _ => exists_asksFor_iff
  · obtain ⟨hbind, hbound⟩ := bindAll_of_checkBuilders hentries hcs
    refine ⟨_, hbind, hbound, fun p hp => ?_⟩
    obtain ⟨hreading, hrules⟩ := isReading_of_make hp
    refine ⟨congrArg Parser.rules hrules, ?_⟩
    rw [ruleSource, Except.ok.inj (hcs.symm.trans (checkBuilders_of_isReading hreading hraw))]

/-- A table with the field of a built-in builder and with a builder. -/
def builderTable : Entries BuilderSetting :=
  [("near", .value (.str "point")), ("area", .builder (.bound .bbox "box"))]

/-- A single option that counts over the one of a document, and both builders. -/
theorem make_exact_near :
    (Entries.names [("blacklist", RawOption.plain (.str "secret"))]).Nodup ∧
    (∃ p, make .none .standard [("blacklist", .plain .null), ("custom", .table builderTable)]
        [("blacklist", .plain (.str "secret"))] = .ok p ∧ p.options.blacklist = ["secret"] ∧
      (ruleSource p.options).builders =
        [("near", .bound .near "point"), ("area", .bound .bbox "box")]) ∧
    bindAll builderTable =
      .ok [("near", .builder (.bound .near "point")), ("area", .builder (.bound .bbox "box"))] := by
  have hnames : (Entries.names [("blacklist", RawOption.plain (.str "secret"))]).Nodup := by decide
  obtain ⟨-, -, -, -, -, hmade, hcustom⟩ := make_exact .none .standard
    (some [("blacklist", .plain .null), ("custom", .table builderTable)]) _ hnames
  have hreading := hmade _ (check_eq_ok_iff.1 rfl)
  obtain ⟨-, hbound⟩ := hcustom _ _ rfl rfl
  obtain ⟨builders, hbind, -, hparser⟩ := hbound _ rfl
  obtain ⟨-, rfl⟩ := hparser _ hreading
  exact ⟨hnames, ⟨_, hreading, rfl, rfl⟩, hbind⟩

/-- A pattern with too many repetitions says no options, and no failure is made of it. -/
theorem make_repetitions :
    (¬∃ o, IsReading .none .standard
      (Entries.update [] [("key_regex", .plain (.str "a{4294967295}"))]) o) ∧
    ¬∃ f, make .none .standard [] [("key_regex", .plain (.str "a{4294967295}"))] =
      .error (.failure f) := by
  have hmade : make .none .standard [] [("key_regex", .plain (.str "a{4294967295}"))] =
    .error (.overflow .repetitions) := by rfl
  refine ⟨fun ⟨o, ho⟩ => ?_, fun ⟨f, hf⟩ => ?_⟩
  · cases hmade.symm.trans (make_of_isReading ho)
  · cases hmade.symm.trans hf

end QueryFilter.Parser
