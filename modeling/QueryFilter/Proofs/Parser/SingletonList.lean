import QueryFilter.Proofs.Parser.Effects
import QueryFilter.Proofs.Parser.ListAggregation
import QueryFilter.Proofs.QueryString.ArraySuffix

/-!
# Lists of one text

A text may be given alone or as a list of one. The two are read in different ways, but what is
stored says the same in two forms (`Options.Agree`): a bound and a pattern are the same
condition, a value that is excluded or sought is a list of one in the condition of the list, and
only the condition of the list has no form for a field that is there or not there.

* `readScalar_of_ne_not`: bounds and patterns;
* `agree_singleton`: the two forms of a text;
* `parse_singleton_list`: what a parser stores for them, and where.
-/

namespace QueryFilter

namespace Options

/-- Whether the first character of a text is one of the operators of the parser. -/
def ListsHead (o : Options) (s : String) : Prop :=
  ∃ c, s.toList.head? = some c ∧ String.singleton c ∈ o.operators

/-- How what is stored for a list of the one text `s` agrees with what is stored for the text
    alone. -/
structure Agree (o : Options) (s : String) (list : Document) (scalar : Value) : Prop where
  same : ∀ sigil ∈ [Sigil.greater, .less, .startsWith, .endsWith, .contains],
    o.BeginsWith s sigil → scalar = .doc list
  excluded : o.BeginsWith s .not → ∃ inclusive body, HasBody s inclusive body ∧
    (body ≠ "" → ∃ v, v = (Scalar.read o.coercion body).toValue ∧
      list = [("$nin", .list [v])] ∧ scalar = .doc [("$ne", v)]) ∧
    (body = "" → list = [("$nin", .list [.str ""])] ∧ scalar = .doc [("$exists", .bool false)])
  sought : s ≠ "" → (∀ sigil, ¬o.BeginsWith s sigil) →
    ∃ v, v = (Scalar.read o.coercion s).toValue ∧ list = [("$in", .list [v])] ∧
      (o.ListsHead s → scalar = .doc [("$eq", v)]) ∧ (¬o.ListsHead s → scalar = v)
  present : s = "" → list = [("$in", .list [.str ""])] ∧ scalar = .doc [("$exists", .bool true)]

end Options

/-- The empty text stands for itself. -/
theorem Scalar.read_empty (coercion : Coercion) : read coercion "" = .text "" := by
  obtain ⟨toBoolean, toNumber⟩ := coercion
  cases toBoolean <;> cases toNumber <;> decide

namespace Parser

variable {p : Parser} {o : Options} {s name : String} {sigil : Sigil}

/-! ## One text -/

/-- A bound or a pattern that stands alone has the condition that it has in a list. -/
theorem readScalar_of_ne_not (h : p.sigil? s = some sigil) (hne : sigil ≠ .not) :
    p.readScalar s = .doc (p.addItem [] s) := by
  rw [readScalar_of_sigil? h, addItem_of_sigil? h hne]
  cases sigil with
  | not => exact absurd rfl hne
  | greater | less => cases (afterSigil s).1 <;> rfl
  | startsWith | endsWith | contains => rfl

/-- What is stored for a text and for a list of it. -/
theorem agree_singleton (o : Options) (s : String) :
    o.Agree s ((ofOptions o).addItem [] s) ((ofOptions o).readScalar s) := by
  cases h : (ofOptions o).sigil? s with
  | none =>
    have hnot := not_beginsWith_of_sigil?_eq_none h
    rw [addItem_of_sigil?_eq_none h]
    refine ⟨fun sigil _ hs => absurd hs (hnot sigil), fun hs => absurd hs (hnot .not),
      fun hne _ => ⟨_, rfl, rfl, fun hlisted => ?_, fun hlisted => ?_⟩, ?_⟩
    · exact readScalar_of_hasOperator (hasOperator_iff.2 hlisted) h
    · exact readScalar_of_not_hasOperator hne (Bool.eq_false_iff.2 (mt hasOperator_iff.1 hlisted))
    · rintro rfl
      rw [readPlain, Scalar.read_empty]
      exact ⟨rfl, rfl⟩
  | some sigil =>
    have hbegins : o.BeginsWith s sigil := sigil?_eq_some_iff.1 h
    have hunique : ∀ sigil', o.BeginsWith s sigil' → sigil' = sigil := by
      intro sigil' hs
      have hs' : (ofOptions o).sigil? s = some sigil' := sigil?_eq_some_iff.2 hs
      exact Option.some.inj (hs'.symm.trans h)
    have hne : s ≠ "" := ne_empty_of_hasOperator (hasOperator_of_sigil? h)
    refine ⟨fun sigil' hsigil' hs => ?_, fun hs => ?_, fun _ hnot => absurd hbegins (hnot sigil),
      fun hs => absurd hs hne⟩
    · obtain rfl := hunique sigil' hs
      exact readScalar_of_ne_not h fun e => absurd (e ▸ hsigil') (by decide)
    · obtain rfl := hunique .not hs
      refine ⟨_, _, hasBody_afterSigil hs.1, fun hbody => ⟨_, rfl, ?_⟩, fun hbody => ?_⟩
      · rw [addItem_of_not h, readScalar_of_sigil? h, Token.ofSigil]
        simp only [Bool.false_eq_true, if_false, if_neg hbody]
        exact ⟨rfl, rfl⟩
      · rw [addItem_of_not h, readScalar_of_sigil? h, Token.ofSigil, hbody, readPlain,
          Scalar.read_empty]
        exact ⟨rfl, rfl⟩

/-- A list of one text has a condition, if lists are enabled. -/
theorem readList_singleton (hin : "$in" ∈ p.options.operators) (s : String) :
    p.readList [.str s] = some (p.addItem [] s) :=
  readList_eq_some_iff.2 ⟨hin, addItem_ne_nil p [] s, rfl⟩

/-! ## Queries -/

/-- The last field of a query that is stored. -/
theorem parse_concat_of_store {before : Query} {filter : Document} {raw v : Value} {key : String}
    (h : p.parse before = .ok filter) (hr : p.route name raw = .store key v) :
    p.parse (before ++ [(name, raw)]) = .ok (filter.assign key v) :=
  parse_append_cons_of_store h hr []

/-- If lists are enabled and there are no builders, then a list of one text and the text alone,
    under the name with the array suffix and the name without it, are stored under the same key,
    and what is stored agrees. The rest of the query does not matter. -/
theorem parse_singleton_list (hc : o.custom = []) (hin : "$in" ∈ o.operators)
    (hwhite : o.whitelist = [] ∨ name ∈ o.whitelist) (hblack : name ∉ o.blacklist)
    (hkey : o.keyPattern.finds (o.outputName name).toList = true)
    (harray : o.arrayPattern.finds (o.outputName name).toList = true) (s : String) :
    ∃ list scalar, o.Agree s list scalar ∧
      ∀ before filter, (ofOptions o).parse before = .ok filter →
        (ofOptions o).parse (before ++ [(name ++ "[]", .list [.str s])]) =
          .ok (filter.assign (o.outputName name) (.doc list)) ∧
        (ofOptions o).parse (before ++ [(name, .str s)]) =
          .ok (filter.assign (o.outputName name) scalar) := by
  have hname : fieldName (name ++ "[]") (.list [.str s]) = name :=
    QueryString.dropArraySuffix_append name
  have hb := Options.builder?_of_custom_eq_nil hc (o.outputName name)
  refine ⟨_, _, agree_singleton o s, fun before filter hbefore => ⟨?_, ?_⟩⟩
  · refine parse_concat_of_store hbefore (route_eq_store_iff.2 ⟨⟨?_, ?_, ?_, nofun, ?_⟩, hb, ?_⟩)
    · rwa [hname]
    · rwa [hname]
    · rw [hname]
    · exact fun _ _ => harray
    · exact .inr ⟨_, _, rfl, readList_singleton hin s, rfl⟩
  · refine parse_concat_of_store hbefore
      (route_eq_store_iff.2 ⟨⟨hwhite, hblack, rfl, ?_, nofun⟩, hb, ?_⟩)
    · exact fun _ _ => hkey
    · exact .inl ⟨s, rfl, rfl⟩

/-- Options with an alias, which list few sigils. -/
def aliasedOptions : Options :=
  { someOperators with aliases := [("tag", "label")], whitelist := ["tag", "lang"] }

/-- A value that is excluded, after another field, under the new name of the field. -/
theorem parse_singleton_list_not : ∃ list scalar, aliasedOptions.Agree "!=b" list scalar ∧
    (ofOptions aliasedOptions).parse
        ([("lang", .str "is")] ++ [("tag" ++ "[]", .list [.str "!=b"])]) =
      .ok (Entries.assign [("lang", .str "is")] (aliasedOptions.outputName "tag") (.doc list)) ∧
    (ofOptions aliasedOptions).parse ([("lang", .str "is")] ++ [("tag", .str "!=b")]) =
      .ok (Entries.assign [("lang", .str "is")] (aliasedOptions.outputName "tag") scalar) := by
  have hkey : aliasedOptions.keyPattern.finds (aliasedOptions.outputName "tag").toList = true := by
    decide +kernel
  have harray : aliasedOptions.arrayPattern.finds (aliasedOptions.outputName "tag").toList =
      true := by
    decide +kernel
  have hbefore : (ofOptions aliasedOptions).parse [("lang", .str "is")] =
      .ok [("lang", .str "is")] := by
    decide +kernel
  obtain ⟨list, scalar, hagree, hparse⟩ :=
    parse_singleton_list rfl (by decide) (by decide) (by decide) hkey harray "!=b"
  exact ⟨list, scalar, hagree, hparse [("lang", .str "is")] [("lang", .str "is")] hbefore⟩

end Parser

end QueryFilter
