import QueryFilter.Proofs.Options.Canonical
import QueryFilter.Proofs.Parser.Construction

/-!
# Parsers of canonical options

A parser is known by its options, and these have one canonical form. So it does not matter in which
form a document says them.

* `options_eq_of_saysTheSame`, `outcome_eq_of_saysTheSame`: parsers from documents that say the
  same;
* `check_canonical`: the canonical form is read as itself, and forms that say the same are read
  alike.
-/

namespace QueryFilter.Parser

open Options

variable {chars : CharNames} {settings : Settings}
  {doc doc' overrides overrides' : Entries RawOption} {p p' : Parser}

/-- Documents that say the same make parsers, or neither does. -/
theorem exists_make_iff_of_saysTheSame
    (h : SaysTheSame (doc.update overrides) (doc'.update overrides')) :
    (∃ p, make chars settings doc overrides = .ok p) ↔
      ∃ p', make chars settings doc' overrides' = .ok p' := by
  constructor
  · rintro ⟨p, hp⟩
    exact ⟨_, make_of_isReading (h.isReading_iff.1 (isReading_of_make hp).1)⟩
  · rintro ⟨p', hp'⟩
    exact ⟨_, make_of_isReading (h.isReading_iff.2 (isReading_of_make hp').1)⟩

/-- Parsers from documents that say the same have the same options. -/
theorem options_eq_of_saysTheSame
    (h : SaysTheSame (doc.update overrides) (doc'.update overrides'))
    (hp : make chars settings doc overrides = .ok p)
    (hp' : make chars settings doc' overrides' = .ok p') :
    p.options = p'.options :=
  (h.isReading_iff.1 (isReading_of_make hp).1).unique (isReading_of_make hp').1

/-- Parsers from documents that say the same have the same outcome for every query. -/
theorem outcome_eq_of_saysTheSame
    (h : SaysTheSame (doc.update overrides) (doc'.update overrides'))
    (hp : make chars settings doc overrides = .ok p)
    (hp' : make chars settings doc' overrides' = .ok p')
    (query : Query) : p.outcome query = p'.outcome query := by
  -- The rules follow from the options.
  rw [(isReading_of_make hp).2, (isReading_of_make hp').2, options_eq_of_saysTheSame h hp hp']

/-- Options have a canonical form. Whatever document options were read from, they are read again
    from their own document, with any defaults: with the standard patterns, or with the patterns of
    the first document if these are still there. Names are read as the same set from all values that
    list the same names. And documents that say the same make parsers of the same options, which
    have the same outcome for every query, unless neither of them makes a parser. -/
theorem check_canonical (chars : CharNames) (settings settings' : Settings) :
    (∀ doc o, check chars settings doc = .ok o →
      check chars settings' o.document = .ok o.withStandardPatterns ∧
      check chars settings' (o.document ++ patternEntries doc) = .ok o) ∧
    (∀ option v v' listed listed', Listing v listed → Listing v' listed' →
      (∀ name, name ∈ listed ↔ name ∈ listed') →
      ∃ names, checkNames option v = .ok names ∧ checkNames option v' = .ok names ∧
        IsSetOf listed names) ∧
    ∀ doc doc' overrides overrides' : Entries RawOption,
      SaysTheSame (doc.update overrides) (doc'.update overrides') →
      ((∃ p, make chars settings doc overrides = .ok p) ↔
        ∃ p', make chars settings doc' overrides' = .ok p') ∧
      ∀ p p', make chars settings doc overrides = .ok p →
        make chars settings doc' overrides' = .ok p' →
        p.options = p'.options ∧ (∀ query, p.outcome query = p'.outcome query) ∧
          ∀ text, p.parseQueryString text = p'.parseQueryString text := by
  refine ⟨fun doc o h => ⟨?_, ?_⟩, fun option v v' listed listed' h h' hmem =>
    exists_checkNames h h' hmem option option, fun doc doc' overrides overrides' h =>
    ⟨exists_make_iff_of_saysTheSame h, fun p p' hp hp' => ?_⟩⟩
  · have hcanonical : o.withStandardPatterns.IsCanonical :=
      let ⟨ha, hb, hw, hc⟩ := isCanonical_of_isReading (check_eq_ok_iff.1 h)
      ⟨ha, hb, hw, hc⟩
    have hreading : IsReading chars settings' (o.withStandardPatterns.document ++ []) _ :=
      isReading_document hcanonical (saysPatterns_nil o)
    rw [List.append_nil] at hreading
    exact check_eq_ok_iff.2 hreading
  · have hreading := check_eq_ok_iff.1 h
    exact check_eq_ok_iff.2 (isReading_document (isCanonical_of_isReading hreading)
      (saysPatterns_patternEntries hreading))
  · have houtcome := outcome_eq_of_saysTheSame h hp hp'
    exact ⟨options_eq_of_saysTheSame h hp hp', houtcome, fun text =>
      congrArg Outcome.result (houtcome (QueryString.decode text))⟩

/-- An object that marks two of three names. -/
def marks : Document :=
  [("b", .int 1), ("x", .bool true), ("y", .str "")]

/-- A document with names that an object marks, and with an alias to nothing. -/
def markedDocument : Entries RawOption :=
  [("ops", .plain (.str "!")), ("alias", .plain (.doc [("a", .str ""), ("b", .str "near")])),
    ("whitelist", .plain (.doc marks)), ("custom", .table [("near", .value (.str "point"))]),
    ("string", .plain (.doc [("toNumber", .str "off")])), ("keyRegex", .plain (.str "^[a-z]"))]

/-- A document that lists the same names in another order and with a repetition. -/
def listedDocument : Entries RawOption :=
  [("ops", .plain (.str "!")), ("alias", .plain (.doc [("b", .str "near")])),
    ("whitelist", .plain (.list [.str "x", .str "b", .str "x"])), ("blacklist", .plain .null),
    ("custom", .table [("near", .value (.str "point"))]),
    ("string", .plain (.doc [("toNumber", .str "off")])), ("keyRegex", .plain (.str "^[a-z]"))]

/-- The two documents say the same, and the options that are read are read again. -/
theorem check_canonical_marked :
    (∃ o, check .none .standard markedDocument = .ok o ∧ o.aliases = [("b", "near")] ∧
      check .none ⟨"INFO", ⟨false, false⟩⟩ (o.document ++ patternEntries markedDocument) = .ok o) ∧
    (∃ names, checkNames "whitelist" (.list [.str "x", .str "b", .str "x"]) = .ok names ∧
      checkNames "whitelist" (.doc marks) = .ok names) ∧
    SaysTheSame (markedDocument.update []) (listedDocument.update []) ∧
    ∃ p p', make .none .standard markedDocument [] = .ok p ∧
      make .none .standard listedDocument [] = .ok p' ∧
      ∀ query, p.outcome query = p'.outcome query := by
  obtain ⟨hread, hnames, hmake⟩ := check_canonical .none .standard ⟨"INFO", ⟨false, false⟩⟩
  have hmarked := Listing.marked marks
  have hlisted := Listing.list ["x", "b", "x"]
  have hmem : ∀ name, name ∈ ["x", "b", "x"] ↔
      name ∈ Entries.names (marks.filter fun e => e.2.isTruthy) := by
    intro name
    simpa [marks, Value.isTruthy, or_comm] using Or.inr
  obtain ⟨names, hlist, hmark, -⟩ := hnames "whitelist" _ _ _ _ hlisted hmarked hmem
  have hsame : SaysTheSame (markedDocument.update []) (listedDocument.update []) := by
    refine ⟨.mapped (.given rfl) (.given rfl) (by decide),
      .listed .absent (.given .nothing) fun _ => .rfl,
      .listed (.given hmarked) (.given hlisted) fun name => (hmem name).symm, fun name hname => ?_⟩
    obtain ⟨ha, hb, hw⟩ : "alias" ≠ name ∧ "blacklist" ≠ name ∧ "whitelist" ≠ name := by
      simpa [eq_comm] using hname
    simp [markedDocument, listedDocument, Entries.update, Entries.get?, ha, hb, hw]
  obtain ⟨-, houtcome⟩ := hmake _ _ _ _ hsame
  obtain ⟨o, ho, haliases⟩ : ∃ o, check .none .standard markedDocument = .ok o ∧
      o.aliases = [("b", "near")] := ⟨_, rfl, rfl⟩
  exact ⟨⟨o, ho, haliases, (hread _ o ho).2⟩, ⟨names, hlist, hmark⟩, hsame, _, _, rfl, rfl,
    (houtcome _ _ rfl rfl).2.1⟩

end QueryFilter.Parser
