import QueryFilter.Proofs.CommandLine.Pairs
import QueryFilter.Proofs.Options.Canonical
import QueryFilter.Proofs.Parser.Construction
import QueryFilter.Proofs.Parser.Route

/-!
# The parser of a command line

Arguments ask for options (`AskedBy`): those that are read from the document which is made of them.
The parser with these options is the one that the arguments describe (`Describes`). There is none if
the arguments are rejected (`IsRejected`).

* `isReading_optionsDocument_iff`: the options that are read;
* `exists_askedBy_iff`: whether there are any;
* `describes_of_askedBy`: the parser with these options;
* `parserOf_cases`: the two ends of making the parser.
-/

namespace QueryFilter.CommandLine

open Options

/-- Whether options are those that arguments ask for, given the pairs in them. -/
structure AskedBy (settings : Settings) (a : Arguments) (aliases custom : Entries String)
    (o : Options) : Prop where
  operators : o.operators = standardOperators
  aliases : o.aliases = aliases
  blacklist : IsSetOf a.blacklist o.blacklist
  whitelist : IsSetOf a.whitelist o.whitelist
  custom : List.Forall₂ (fun e c => c.1 = e.1 ∧ AsksFor e.1 (.value (.str e.2)) c.2) custom o.custom
  coercion : o.coercion = ⟨!a.noToBoolean && settings.coercion.toBoolean,
    !a.noToNumber && settings.coercion.toNumber⟩
  keyPattern : o.keyPattern = .key
  valuePattern : o.valuePattern = .unsafeChars
  arrayPattern : o.arrayPattern = .arrayKey

variable {chars : CharNames} {settings : Settings} {a : Arguments}
  {aliases custom : Entries String} {o : Options} {listed names : List String} {name : String}

/-! ## Values -/

/-- Names are read as the set of those that are given. -/
theorem exists_listing_iff :
    (∃ listed', Listing (namesValue listed) listed' ∧ IsSetOf listed' names) ↔
      IsSetOf listed names := by
  simp only [namesValue, listing_list_iff]
  constructor
  · rintro ⟨listed', hlisted, hset⟩
    rwa [List.map_injective_iff.2 (fun _ _ => Value.str.inj) hlisted]
  · exact fun hset => ⟨listed, rfl, hset⟩

/-- Aliases with targets are read as they are. -/
theorem isAliases_mappingValue_iff (h : ∀ e ∈ aliases, e.2 ≠ "") {aliases' : Entries String} :
    IsAliases (mappingValue aliases) aliases' ↔ aliases' = aliases := by
  have hread := (checkAliases_eq_ok_iff "alias" (mappingValue aliases)).2 (isAliases_doc h)
  rw [← checkAliases_eq_ok_iff "alias", hread, Except.ok.injEq, eq_comm]

/-- A mapping is a table of the fields that names are mapped to. -/
theorem settings?_mappingValue : (RawOption.plain (mappingValue custom)).settings? =
    some (custom.map fun e => (e.1, .value (.str e.2))) := by
  simp [RawOption.settings?, mappingValue]

/-- Builders are asked for by the fields that names are mapped to. -/
theorem exists_settings_iff {cs : Entries BuilderChoice} :
    (∃ entries, (RawOption.plain (mappingValue custom)).settings? = some entries ∧
      List.Forall₂ (fun e c => c.1 = e.1 ∧ AsksFor e.1 e.2 c.2) entries cs) ↔
      List.Forall₂ (fun e c => c.1 = e.1 ∧ AsksFor e.1 (.value (.str e.2)) c.2) custom cs := by
  simp [settings?_mappingValue]

/-- A coercion is off if its flag is given, and otherwise as it is set. -/
theorem isCoercion_coercionValue_iff {default c : Coercion} :
    IsCoercion default (coercionValue a) c ↔
      c = ⟨!a.noToBoolean && default.toBoolean, !a.noToNumber && default.toNumber⟩ := by
  have hread : checkCoercionOption default "string" (coercionValue a) =
      .ok ⟨!a.noToBoolean && default.toBoolean, !a.noToNumber && default.toNumber⟩ := by
    rw [coercionValue]
    cases a.noToBoolean <;> cases a.noToNumber <;> rfl
  rw [← checkCoercionOption_eq_ok_iff "string", hread, Except.ok.injEq, eq_comm]

/-! ## Options -/

/-- The options that arguments ask for are read from their document. -/
theorem isReading_optionsDocument_iff (haliases : ∀ e ∈ aliases, e.2 ≠ "") :
    IsReading chars settings (optionsDocument a aliases custom) o ↔
      AskedBy settings a aliases custom o := by
  let doc := optionsDocument a aliases custom
  have halias : doc.get? "alias" = some (.plain (mappingValue aliases)) := rfl
  have hblacklist : doc.get? "blacklist" = some (.plain (namesValue a.blacklist)) := rfl
  have hwhitelist : doc.get? "whitelist" = some (.plain (namesValue a.whitelist)) := rfl
  have hcustom : doc.get? "custom" = some (.plain (mappingValue custom)) := rfl
  have hcoercion : doc.get? "string" = some (.plain (coercionValue a)) := rfl
  constructor
  · intro h
    exact {
      operators := (reads_of_find?_eq_none rfl).1 h.operators
      aliases := (isAliases_mappingValue_iff haliases).1 ((reads_of_get? halias).1 h.aliases)
      blacklist := exists_listing_iff.1 ((reads_of_get? hblacklist).1 h.blacklist)
      whitelist := exists_listing_iff.1 ((reads_of_get? hwhitelist).1 h.whitelist)
      custom := exists_settings_iff.1 ((reads_of_get? hcustom).1 h.custom)
      coercion := isCoercion_coercionValue_iff.1 ((reads_of_get? hcoercion).1 h.coercion)
      keyPattern := (reads_of_find?_eq_none rfl).1 h.keyPattern
      valuePattern := (reads_of_find?_eq_none rfl).1 h.valuePattern
      arrayPattern := (reads_of_find?_eq_none rfl).1 h.arrayPattern
    }
  · intro h
    exact {
      operators := (reads_of_find?_eq_none rfl).2 h.operators
      aliases := (reads_of_get? halias).2 ((isAliases_mappingValue_iff haliases).2 h.aliases)
      blacklist := (reads_of_get? hblacklist).2 (exists_listing_iff.2 h.blacklist)
      whitelist := (reads_of_get? hwhitelist).2 (exists_listing_iff.2 h.whitelist)
      custom := (reads_of_get? hcustom).2 (exists_settings_iff.2 h.custom)
      coercion := (reads_of_get? hcoercion).2 (isCoercion_coercionValue_iff.2 h.coercion)
      keyPattern := (reads_of_find?_eq_none rfl).2 h.keyPattern
      valuePattern := (reads_of_find?_eq_none rfl).2 h.valuePattern
      arrayPattern := (reads_of_find?_eq_none rfl).2 h.arrayPattern
      known := fun name hname => ⟨[name], (by decide :
        ∀ name ∈ ["alias", "blacklist", "whitelist", "custom", "string"], [name] ∈ Options.names)
          name hname, isSpelling_singleton hname⟩
    }

/-- No text of a pattern is too large, as there is none. -/
theorem not_overflows_optionsDocument {b : Overflow} :
    ¬Overflows chars (optionsDocument a aliases custom) b := by
  have hnone : ∀ spellings ∈ patternNames,
      find? (optionsDocument a aliases custom) spellings = none := by
    intro spellings hspellings
    simp only [patternNames, List.mem_cons, List.not_mem_nil, or_false] at hspellings
    rcases hspellings with rfl | rfl | rfl <;> rfl
  rintro ⟨before, spellings, after, hnames, ⟨name, s, hname, hs, -⟩, -⟩
  have hmem : spellings ∈ patternNames := by simp [hnames]
  cases (hnone spellings hmem).symm.trans (find?_eq_some_iff.2 ⟨hname, hs⟩)

/-- Arguments ask for options unless one of their builders has the name of no built-in kind. -/
theorem exists_askedBy_iff (hcustom : ∀ e ∈ custom, e.2 ≠ "") :
    (∃ o, AskedBy settings a aliases custom o) ↔
      ∀ name ∈ custom.names, name ∈ ["bbox", "near", "after", "before", "between"] := by
  have hbuilders : (∃ cs : Entries BuilderChoice,
      List.Forall₂ (fun e c => c.1 = e.1 ∧ AsksFor e.1 (.value (.str e.2)) c.2) custom cs) ↔
      ∀ name ∈ custom.names, name ∈ ["bbox", "near", "after", "before", "between"] := by
    simp only [← exists_settings_iff, ← checkBuilders_eq_ok_iff "custom"]
    rw [exists_checkBuilders_iff settings?_mappingValue, List.forall_mem_map, Entries.names,
      List.forall_mem_map]
    refine forall₂_congr fun e he => ?_
    rw [exists_asksFor_iff]
    simp [hcustom e he]
  rw [← hbuilders]
  constructor
  · rintro ⟨o, h⟩
    exact ⟨o.custom, h.custom⟩
  · rintro ⟨cs, hcs⟩
    exact ⟨⟨standardOperators, aliases, nameSet a.blacklist, nameSet a.whitelist, cs,
      ⟨!a.noToBoolean && settings.coercion.toBoolean, !a.noToNumber && settings.coercion.toNumber⟩,
      .key, .unsafeChars, .arrayKey⟩, rfl, rfl, isSetOf_nameSet _, isSetOf_nameSet _, hcs, rfl,
      rfl, rfl, rfl⟩

/-- The builders that are asked for are bound to the fields that the names are mapped to. -/
theorem get?_of_asksFor {cs : Entries BuilderChoice} {b : Builder}
    (h : List.Forall₂ (fun e c => c.1 = e.1 ∧ AsksFor e.1 (.value (.str e.2)) c.2) custom cs) :
    (cs.get? name).map BuilderChoice.bind = some b ↔
      ∃ kind field, kind.name = name ∧ b = .bound kind field ∧ custom.get? name = some field := by
  induction h with
  | nil => simp [Entries.get?]
  | @cons e c custom cs hc _ ih =>
    obtain ⟨_, field⟩ := e
    obtain ⟨key, choice⟩ := c
    obtain ⟨rfl, hc : AsksFor key (.value (.str field)) choice⟩ := hc
    by_cases hname : key = name
    · subst hname
      cases hc with
      | @builtIn kind field hkind _ =>
        have hbound : some (Builder.bound kind field) = some b ↔
            ∃ kind' : BuilderKind, kind'.name = key ∧ b = .bound kind' field := by
          constructor
          · rintro ⟨⟩
            exact ⟨kind, hkind, rfl⟩
          · rintro ⟨kind', hkind', rfl⟩
            rw [← BuilderKind.ofName?_eq_some_iff] at hkind hkind'
            rw [Option.some.inj (hkind.symm.trans hkind')]
        simpa [Entries.get?, BuilderChoice.bind] using hbound
    · simp [Entries.get?, hname, ih]

/-! ## Parsers -/

/-- Whether a parser is the one that arguments describe: the last alias of a name and the last
    builder of a kind count, exactly the names in the lists are denied, a coercion is off if its
    flag is given and otherwise as it is set, and all other options are the standard ones. -/
structure Describes (settings : Settings) (a : Arguments) (p : Parser) : Prop where
  alias_iff : ∀ name field, p.options.aliases.get? name = some field ↔
    IsLastPair a.aliases name field
  builder_iff : ∀ name b, p.options.builder? name = some b ↔
    ∃ kind field, kind.name = name ∧ b = .bound kind field ∧ IsLastPair a.custom name field
  denied_iff : ∀ name, (∃ reason, p.rules.lookup name = .denied reason) ↔
    name ∈ a.blacklist ∨ a.whitelist ≠ [] ∧ name ∉ a.whitelist
  toBoolean : p.options.coercion.toBoolean =
    if a.noToBoolean then false else settings.coercion.toBoolean
  toNumber : p.options.coercion.toNumber =
    if a.noToNumber then false else settings.coercion.toNumber
  rest : p = .ofOptions { standard settings with
    aliases := p.options.aliases, blacklist := p.options.blacklist
    whitelist := p.options.whitelist, custom := p.options.custom, coercion := p.options.coercion }

/-- A list is empty if no names are given for it. -/
theorem eq_nil_iff (h : IsSetOf listed names) : names = [] ↔ listed = [] := by
  simp only [List.eq_nil_iff_forall_not_mem, h.mem_iff]

/-- The parser with the options that arguments ask for is the one that they describe. -/
theorem describes_of_askedBy (h : AskedBy settings a (mapping a.aliases) (mapping a.custom) o) :
    Describes settings a (.ofOptions o) where
  alias_iff name field := by
    rw [← get?_mapping_eq_some_iff, ← h.aliases]
    rfl
  builder_iff name b := by
    simp only [← get?_mapping_eq_some_iff]
    exact get?_of_asksFor h.custom
  denied_iff name := by
    rw [Parser.exists_lookup_eq_denied_iff, h.blacklist.mem_iff, h.whitelist.mem_iff, Ne,
      eq_nil_iff h.whitelist]
  toBoolean := by
    simp only [Parser.ofOptions, h.coercion]
    cases a.noToBoolean <;> rfl
  toNumber := by
    simp only [Parser.ofOptions, h.coercion]
    cases a.noToNumber <;> rfl
  rest := by
    simp only [Parser.ofOptions, standard, ← h.operators, ← h.keyPattern, ← h.valuePattern,
      ← h.arrayPattern]

/-! ## Making the parser -/

/-- Why arguments describe no parser: a pair is malformed, or a builder is of no built-in kind. -/
inductive IsRejected (a : Arguments) : Prop
  | malformed {item : String} (hitem : item ∈ a.aliases ++ a.custom) (h : IsMalformed item)
  | unknown {item name field : String} (hitem : item ∈ a.custom) (hpair : IsPair item name field)
      (hname : name ∉ ["bbox", "near", "after", "before", "between"])

/-- The first malformed item fails. -/
theorem parserOf_of_malformed (settings : Settings) {item : String}
    (h : firstMalformed? (a.aliases ++ a.custom) = some item) :
    ∃ option, parserOf settings a = .error (.failure (pairFailure option item)) := by
  rw [firstMalformed?, List.find?_append] at h
  rw [parserOf, pairs_eq, pairs_eq, firstMalformed?, firstMalformed?]
  cases haliases : a.aliases.find? fun item => (pair? item).isNone with
  | some other =>
    obtain rfl : other = item := by simpa [haliases] using h
    exact ⟨"alias", rfl⟩
  | none =>
    rw [haliases, Option.none_or] at h
    exact ⟨"custom", by rw [h]⟩

/-- Without such an item the parser is made from the two mappings. -/
theorem parserOf_of_paired (h : firstMalformed? (a.aliases ++ a.custom) = none) :
    parserOf settings a = Parser.make .none settings []
      (optionsDocument a (mapping a.aliases) (mapping a.custom)) := by
  rw [firstMalformed?, List.find?_append, Option.or_eq_none_iff] at h
  have haliases : pairs "alias" a.aliases = .ok (mapping a.aliases) := by
    rw [pairs_eq, firstMalformed?, h.1]
  have hcustom : pairs "custom" a.custom = .ok (mapping a.custom) := by
    rw [pairs_eq, firstMalformed?, h.2]
  simp only [parserOf, haliases, hcustom]

/-- The options that arguments ask for are read from what a parser is made from. -/
theorem isReading_mapping_iff : IsReading chars settings
    (Entries.update [] (optionsDocument a (mapping a.aliases) (mapping a.custom))) o ↔
      AskedBy settings a (mapping a.aliases) (mapping a.custom) o :=
  isReading_optionsDocument_iff fun _ he => ne_empty_of_mem_mapping he

/-- If all items are pairs, arguments ask for options unless they are rejected. -/
theorem exists_askedBy_mapping_iff (settings : Settings)
    (h : firstMalformed? (a.aliases ++ a.custom) = none) :
    (∃ o, AskedBy settings a (mapping a.aliases) (mapping a.custom) o) ↔ ¬IsRejected a := by
  rw [exists_askedBy_iff fun e => ne_empty_of_mem_mapping]
  constructor
  · rintro hnames (⟨hitem, hmalformed⟩ | ⟨hitem, hpair, hname⟩)
    · exact not_isMalformed_of_firstMalformed? h hitem hmalformed
    · exact hname (hnames _ (mem_names_mapping_iff.2 ⟨_, hitem, _, hpair⟩))
  · intro hrejected name hname
    obtain ⟨item, hitem, field, hpair⟩ := mem_names_mapping_iff.1 hname
    exact by_contra fun hname => hrejected (.unknown hitem hpair hname)

/-- If all items are pairs, then making the parser fails for arguments that are rejected. -/
theorem parserOf_of_isRejected (settings : Settings)
    (hpaired : firstMalformed? (a.aliases ++ a.custom) = none) (h : IsRejected a) :
    ∃ f, parserOf settings a = .error (.failure f) := by
  have hnone : ¬∃ o, IsReading .none settings
      (Entries.update [] (optionsDocument a (mapping a.aliases) (mapping a.custom))) o := by
    simp only [isReading_mapping_iff, exists_askedBy_mapping_iff settings hpaired, not_not]
    exact h
  obtain ⟨flaws, herror⟩ := Parser.exists_make_eq_failure_iff.2
    ⟨hnone, fun ⟨_, hoverflow⟩ => not_overflows_optionsDocument hoverflow⟩
  rw [parserOf_of_paired hpaired, herror]
  exact ⟨_, rfl⟩

/-- If all items are pairs, then the parser that is made for other arguments is the one that they
    describe. -/
theorem parserOf_of_not_isRejected (settings : Settings)
    (hpaired : firstMalformed? (a.aliases ++ a.custom) = none) (h : ¬IsRejected a) :
    ∃ p, parserOf settings a = .ok p ∧ Describes settings a p := by
  obtain ⟨o, ho⟩ := (exists_askedBy_mapping_iff settings hpaired).2 h
  rw [parserOf_of_paired hpaired, Parser.make_of_isReading (isReading_mapping_iff.2 ho)]
  exact ⟨.ofOptions o, rfl, describes_of_askedBy ho⟩

/-- The two ends of making the parser: it fails if arguments are rejected, and otherwise the parser
    is the one that they describe. -/
theorem parserOf_cases (settings : Settings) (a : Arguments) :
    IsRejected a ∧ (∃ f, parserOf settings a = .error (.failure f)) ∨
    ¬IsRejected a ∧ ∃ p, parserOf settings a = .ok p ∧ Describes settings a p := by
  cases hfirst : firstMalformed? (a.aliases ++ a.custom) with
  | some item =>
    obtain ⟨hitem, hmalformed⟩ := isMalformed_of_firstMalformed? hfirst
    obtain ⟨option, herror⟩ := parserOf_of_malformed settings hfirst
    exact .inl ⟨.malformed hitem hmalformed, _, herror⟩
  | none =>
    by_cases hrejected : IsRejected a
    · exact .inl ⟨hrejected, parserOf_of_isRejected settings hfirst hrejected⟩
    · exact .inr ⟨hrejected, parserOf_of_not_isRejected settings hfirst hrejected⟩

end QueryFilter.CommandLine
