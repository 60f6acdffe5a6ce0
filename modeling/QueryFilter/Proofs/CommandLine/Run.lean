import QueryFilter.Proofs.CommandLine.Setup
import QueryFilter.Proofs.CommandLine.Words

/-!
# Ends of a run

A run whose arguments are read makes the parser that they describe and prints the filter of the
query, or it reports that the configuration is wrong (`Ending.Reports`).

* `ofArguments_of_parserOf`: the ends with a parser;
* `reports_ofArguments_iff`: the ends without one;
* `run_exact`: all ends of a run.
-/

namespace QueryFilter.CommandLine

/-- Whether a run reports that the configuration is wrong. -/
def Ending.Reports (e : Ending) : Prop :=
  ∃ message, e = .printed 2 ("Configuration error: " ++ message ++ "\n")

variable {settings : Settings} {a : Arguments} {p : Parser}

/-- A run with a parser prints the filter of the query, unless a builder fails. -/
theorem ofArguments_of_parserOf (h : parserOf settings a = .ok p) :
    (∃ e, p.parseQueryString (a.query.getD "") = .error e ∧
      Ending.ofArguments settings a = .broken (.builder e)) ∨
    ∃ filter, p.parseQueryString (a.query.getD "") = .ok filter ∧
      Ending.ofArguments settings a =
        .printed 0 (Value.json a.indent.toNat (.doc filter) ++ "\n") := by
  rw [Ending.ofArguments, h]
  dsimp only
  cases p.parseQueryString (a.query.getD "") with
  | error e => exact .inl ⟨e, rfl, rfl⟩
  | ok filter => exact .inr ⟨filter, rfl, rfl⟩

/-- A run reports what is wrong with the arguments. -/
theorem reports_ofArguments_iff : (Ending.ofArguments settings a).Reports ↔ IsRejected a := by
  obtain ⟨hrejected, f, h⟩ | ⟨hrejected, p, h, -⟩ := parserOf_cases settings a
  · rw [iff_true_right hrejected, Ending.ofArguments, h]
    exact ⟨f.text, rfl⟩
  · rw [iff_false_right hrejected]
    rintro ⟨message, hend⟩
    obtain ⟨e, -, h⟩ | ⟨filter, -, h⟩ := ofArguments_of_parserOf h <;> cases h.symm.trans hend

/-- A run goes on with the arguments that are read. -/
theorem run_of_read {args : List String} (hread : Arguments.read args = .ok a)
    (hhelp : a.help = false) : run settings args = .ofArguments settings a := by
  rw [run, hread]
  simp [hhelp]

/-- All ends of a run whose arguments are read and are no call for help. The arguments hold what
    the words of the command line give to the options. The run reports that the configuration is
    wrong exactly if a pair is malformed or a builder is of no built-in kind. In all other cases the
    parser that the arguments describe is made, and the filter of the query is printed, unless a
    builder fails. -/
theorem run_exact (settings : Settings) {args : List String} {a : Arguments}
    (hread : Arguments.read args = .ok a) (hhelp : a.help = false) :
    (∃ words, Word.ofTexts args = .ok words ∧ a.Collects words) ∧
    ((run settings args).Reports ↔ (∃ item ∈ a.aliases ++ a.custom, IsMalformed item) ∨
      ∃ item ∈ a.custom, ∃ name field, IsPair item name field ∧
        name ∉ ["bbox", "near", "after", "before", "between"]) ∧
    (¬(run settings args).Reports →
      ∃ p query, parserOf settings a = .ok p ∧ Describes settings a p ∧ a.query = some query ∧
        ((∃ e, p.parseQueryString query = .error e ∧
          run settings args = .broken (.builder e)) ∨
        ∃ filter, p.parseQueryString query = .ok filter ∧
          run settings args =
            .printed 0 (Value.json a.indent.toNat (.doc filter) ++ "\n"))) := by
  obtain ⟨⟨query, hquery⟩, hwords⟩ := Arguments.collects_of_read hread hhelp
  rw [run_of_read hread hhelp, reports_ofArguments_iff]
  refine ⟨hwords, ?_, fun hreport => ?_⟩
  · constructor
    · rintro (⟨hitem, hmalformed⟩ | ⟨hitem, hpair, hname⟩)
      · exact .inl ⟨_, hitem, hmalformed⟩
      · exact .inr ⟨_, hitem, _, _, hpair, hname⟩
    · rintro (⟨item, hitem, hmalformed⟩ | ⟨item, hitem, name, field, hpair, hname⟩)
      · exact .malformed hitem hmalformed
      · exact .unknown hitem hpair hname
  · obtain ⟨hrejected, -⟩ | ⟨-, p, hp, hdescribes⟩ := parserOf_cases settings a
    · exact absurd hrejected hreport
    · have hend := ofArguments_of_parserOf hp
      rw [hquery, Option.getD_some] at hend
      exact ⟨p, query, hp, hdescribes, hquery, hend⟩

/-- Arguments with two aliases of one name. -/
def aliasedArgs : List String :=
  ["a=1&b=2", "--alias", "a=c", "--alias=a=x=y", "--custom", "near=point", "--bl=b", "--no-to-n"]

/-- What the arguments with two aliases ask for. -/
def aliasedArguments : Arguments :=
  { Arguments.empty with
    query := some "a=1&b=2", aliases := ["a=c", "a=x=y"], custom := ["near=point"]
    blacklist := ["b"], noToNumber := true }

/-- Of two aliases the last one counts, up to the end of its text. -/
theorem run_exact_aliased :
    Arguments.read aliasedArgs = .ok aliasedArguments ∧ aliasedArguments.help = false ∧
    ¬(run .standard aliasedArgs).Reports ∧
    ∃ p, parserOf .standard aliasedArguments = .ok p ∧
      p.options.aliases.get? "a" = some "x=y" ∧
      p.options.builder? "near" = some (.bound .near "point") ∧
      (∃ reason, p.rules.lookup "b" = .denied reason) ∧
      p.options.coercion.toBoolean = true ∧ p.options.coercion.toNumber = false := by
  have hwords : Word.ofTexts aliasedArgs = .ok [.plain "a=1&b=2", .option .alias none, .plain "a=c",
    .option .alias (some "a=x=y"), .option .custom none, .plain "near=point",
    .option .blacklist (some "b"), .option .noToNumber none] := by rfl
  have hread : Arguments.read aliasedArgs = .ok aliasedArguments := by
    simp [Arguments.read, hwords, Arguments.readWords, Arguments.empty, OptionName.takesValue,
      Arguments.addValue, Arguments.addSwitch, aliasedArguments]
  obtain ⟨-, hreports, hparser⟩ := run_exact .standard hread rfl
  have hfirst : pair? "a=c" = some ("a", "c") := by rfl
  have hlast : pair? "a=x=y" = some ("a", "x=y") := by rfl
  have hnear : pair? "near=point" = some ("near", "point") := by rfl
  have hquiet : ¬(run .standard aliasedArgs).Reports := by
    rw [hreports]
    rintro (⟨item, hitem, hmalformed⟩ | ⟨item, hitem, name, field, hpair, hname⟩)
    · rw [← pair?_eq_none_iff] at hmalformed
      simp only [aliasedArguments, List.cons_append, List.nil_append, List.mem_cons,
        List.not_mem_nil, or_false] at hitem
      rcases hitem with rfl | rfl | rfl
      · cases hfirst.symm.trans hmalformed
      · cases hlast.symm.trans hmalformed
      · cases hnear.symm.trans hmalformed
    · rw [← pair?_eq_some_iff] at hpair
      obtain rfl : item = "near=point" := by simpa [aliasedArguments] using hitem
      cases hnear.symm.trans hpair
      exact hname (by decide)
  obtain ⟨p, query, hp, hdescribes, -⟩ := hparser hquiet
  refine ⟨hread, rfl, hquiet, p, hp, (hdescribes.alias_iff _ _).2 ?_,
    (hdescribes.builder_iff _ _).2 ⟨.near, "point", rfl, rfl, ?_⟩,
    (hdescribes.denied_iff _).2 (.inl (by decide)), hdescribes.toBoolean, hdescribes.toNumber⟩
  · exact ⟨["a=c"], "a=x=y", [], rfl, pair?_eq_some_iff.1 hlast,
      fun _ => (absurd · List.not_mem_nil)⟩
  · exact ⟨[], "near=point", [], rfl, pair?_eq_some_iff.1 hnear,
      fun _ => (absurd · List.not_mem_nil)⟩

end QueryFilter.CommandLine
