import QueryFilter.Proofs.Parser.SingletonList

/-!
# Texts that stand alone and their tokens

What is stored for a text that stands alone is decided without its token where the text is empty
or has no operator. It agrees with the token all the same (`Options.AgreesWithToken`): it is the
condition of the token, or the value that the token says the field equals. Only a text with a
sigil that the parser does not list is not what its token says. It stands for itself, since no
sigil begins a numeral or a truth value.

* `Scalar.read_of_head`: texts that begin with a sigil stand for themselves;
* `agreesWithToken_readScalar`: what is stored for a text and its token;
* `parse_scalar_token`: what a field with such a text writes, in any query.
-/

namespace QueryFilter

/-- A text that begins with a sigil is neither a truth value nor a numeral. -/
theorem Scalar.read_of_head {s : String} {sigil : Sigil} (h : s.toList.head? = some sigil.char)
    (coercion : Coercion) : read coercion s = .text s := by
  obtain ⟨cs, hs⟩ := List.head?_eq_some_iff.1 h
  have hbool : bool? s = none := by
    rw [bool?, hs]
    cases sigil <;> rfl
  have hnumeral : FiniteDouble.ofNumeral? s.toList = none := by
    rw [hs]
    cases sigil <;> rfl
  rw [read, hbool, hnumeral, ite_self, ite_self]

/-- How what is stored for the text `s` agrees with the token of the text. -/
structure Options.AgreesWithToken (o : Options) (s : String) (x : Value) : Prop where
  listed : s = "" ∨ o.ListsHead s → x = .doc ((Parser.ofOptions o).readToken false s).fragment
  plain : s ≠ "" → ¬o.ListsHead s → (∀ sigil : Sigil, s.toList.head? ≠ some sigil.char) →
    ((Parser.ofOptions o).readToken false s).fragment = [("$eq", x)]
  unlisted : ∀ sigil : Sigil, s.toList.head? = some sigil.char → sigil.text ∉ o.operators →
    x = .str s

namespace Parser

variable {o : Options} {s name key : String}

/-- What is stored for a text agrees with its token. -/
theorem agreesWithToken_readScalar (o : Options) (s : String) :
    o.AgreesWithToken s ((ofOptions o).readScalar s) := by
  refine ⟨fun h => ?_, fun hne hlisted hsigil => ?_, fun sigil hsigil hlisted => ?_⟩
  · rcases h with rfl | h
    · rfl
    · have hop : (ofOptions o).hasOperator s = true := hasOperator_iff.2 h
      rw [readScalar, if_neg (ne_empty_of_hasOperator hop), if_pos hop]
  · have hop : (ofOptions o).hasOperator s = false :=
      Bool.eq_false_iff.2 (mt hasOperator_iff.1 hlisted)
    rw [readScalar_of_not_hasOperator hne hop, readToken, Token.read_of_not_head hsigil,
      Token.plain]
    simp only [Bool.false_eq_true, if_false, if_neg hne]
    rfl
  · have hop : (ofOptions o).hasOperator s = false := by
      rw [Bool.eq_false_iff, Ne, hasOperator_iff]
      rintro ⟨c, hc, hop⟩
      obtain rfl := Option.some.inj (hsigil.symm.trans hc)
      exact hlisted hop
    have hne : s ≠ "" := by
      rintro rfl
      simp at hsigil
    rw [readScalar_of_not_hasOperator hne hop, readPlain, Scalar.read_of_head hsigil]
    rfl

/-- A text that is let through and does not go to a builder is stored under the output name of its
    field, wherever it stands in a query, and what is stored agrees with the token that the parser
    makes of the text. -/
theorem parse_scalar_token (ha : o.Admits name (.str s) key) (hb : o.builder? key = none) :
    ∃ x, o.AgreesWithToken s x ∧ ∀ before filter after, (ofOptions o).parse before = .ok filter →
      (ofOptions o).parse (before ++ (name, .str s) :: after) =
        ((ofOptions o).run (filter.assign key x) after).result := by
  refine ⟨_, agreesWithToken_readScalar o s, fun before filter after hbefore => ?_⟩
  exact parse_append_cons_of_store hbefore
    (route_eq_store_iff.2 ⟨ha, hb, .inl ⟨s, rfl, rfl⟩⟩) after

/-- An upper bound whose sigil is not listed, between two other fields, under the new name of the
    field. -/
theorem parse_scalar_token_less : ∃ x, aliasedOptions.AgreesWithToken "<5" x ∧
    (ofOptions aliasedOptions).parse
        ([("lang", .str "is")] ++ ("tag", .str "<5") :: [("lang", .str "!")]) =
      ((ofOptions aliasedOptions).run (Entries.assign [("lang", .str "is")] "label" x)
        [("lang", .str "!")]).result := by
  have hkey : aliasedOptions.keyPattern.finds "label".toList = true := by decide +kernel
  have hbefore : (ofOptions aliasedOptions).parse [("lang", .str "is")] =
      .ok [("lang", .str "is")] := by
    decide +kernel
  obtain ⟨x, hagrees, hparse⟩ := parse_scalar_token
    (show aliasedOptions.Admits "tag" (.str "<5") "label" from
      ⟨.inr (by decide), by decide, by decide, fun _ _ => hkey, nofun⟩) rfl
  exact ⟨x, hagrees, hparse _ _ _ hbefore⟩

end Parser

end QueryFilter
