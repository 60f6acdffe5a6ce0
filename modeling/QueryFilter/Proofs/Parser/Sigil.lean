import QueryFilter.Parser
import QueryFilter.Proofs.Token.Decomposition

/-!
# Operators at the start of texts

A text is read with an operator if its first character is one of the operators of the parser
and is a sigil of tokens (`Parser.sigil?`). Both are needed: a sigil that the parser does not
list, and a listed character that is no sigil, leave the text a plain value. So what a text
says, alone or in a list, depends on its listed sigil and on what follows it.

* `readScalar_of_sigil?`, `readScalar_of_hasOperator`, `readScalar_of_not_hasOperator`: what
  is stored for a text;
* `addItem_of_sigil?_eq_none`, `addItem_of_not`, `addItem_of_sigil?`: what a text adds to the
  condition of a list; `addItem_eq_or`: the three together.
-/

namespace QueryFilter

namespace Parser

/-- The sigil that a text begins with, if it is one of the operators of the parser. -/
def sigil? (p : Parser) (s : String) : Option Sigil :=
  if p.hasOperator s then s.toList.head?.bind Sigil.ofChar? else none

/-- What follows the first character of a text: whether an equals sign, and the body. -/
def afterSigil (s : String) : Bool × String :=
  let rest := Token.takeInclusive s.toList.tail
  (rest.1, String.ofList rest.2)

variable {p : Parser} {s : String} {sigil : Sigil} {array : Bool} {d : Document}

/-- A text has an operator if its first character is one of the operators of the parser. -/
theorem hasOperator_iff : p.hasOperator s = true ↔
    ∃ c, s.toList.head? = some c ∧ String.singleton c ∈ p.options.operators := by
  rw [hasOperator]
  cases s.toList with
  | nil => simp
  | cons c cs => simp

/-- A text begins with a listed sigil if its first character is that sigil. -/
theorem sigil?_eq_some_iff : p.sigil? s = some sigil ↔
    s.toList.head? = some sigil.char ∧ sigil.text ∈ p.options.operators := by
  rw [sigil?, Option.ite_none_right_eq_some, hasOperator_iff, Option.bind_eq_some_iff]
  constructor
  · rintro ⟨⟨c, hc, hlisted⟩, c', hc', hsigil⟩
    obtain rfl := Option.some.inj (hc.symm.trans hc')
    obtain rfl := Sigil.ofChar?_eq_some_iff.1 hsigil
    exact ⟨hc, hlisted⟩
  · rintro ⟨hc, hlisted⟩
    exact ⟨⟨sigil.char, hc, hlisted⟩, sigil.char, hc, Sigil.ofChar?_char sigil⟩

/-- A text with a listed sigil has an operator. -/
theorem hasOperator_of_sigil? (h : p.sigil? s = some sigil) : p.hasOperator s = true :=
  (Option.ite_none_right_eq_some.1 h).1

/-- A text without an operator has no listed sigil. -/
theorem sigil?_of_not_hasOperator (h : p.hasOperator s = false) : p.sigil? s = none := by
  rw [sigil?, h]
  rfl

/-! ## Tokens -/

/-- The token of a text with a listed sigil. -/
theorem readToken_of_sigil? (h : p.sigil? s = some sigil) :
    p.readToken array s = .ofSigil p.grammar array sigil (afterSigil s).1 (afterSigil s).2 := by
  obtain ⟨hc, -⟩ := sigil?_eq_some_iff.1 h
  obtain ⟨cs, hs⟩ := List.head?_eq_some_iff.1 hc
  rw [readToken, Token.read_of_head hs, afterSigil, hs]
  rfl

/-- The token of a text whose operator is no sigil is a plain value. -/
theorem readToken_of_sigil?_eq_none (hop : p.hasOperator s = true) (h : p.sigil? s = none) :
    p.readToken array s = .plain p.grammar array s := by
  rw [sigil?, if_pos hop, Option.bind_eq_none_iff] at h
  refine Token.read_of_not_head fun sigil hc => ?_
  simpa using h sigil.char hc

/-! ## Texts that stand alone -/

/-- The empty text has no operator. -/
theorem ne_empty_of_hasOperator (h : p.hasOperator s = true) : s ≠ "" := by
  rintro rfl
  obtain ⟨c, hc, -⟩ := hasOperator_iff.1 h
  simp at hc

/-- What is stored for a text with a listed sigil. -/
theorem readScalar_of_sigil? (h : p.sigil? s = some sigil) : p.readScalar s =
    .doc (Token.ofSigil p.grammar false sigil (afterSigil s).1 (afterSigil s).2).fragment := by
  have hop := hasOperator_of_sigil? h
  rw [readScalar, if_neg (ne_empty_of_hasOperator hop), if_pos hop, readToken_of_sigil? h]

/-- What is stored for a text whose operator is no sigil: that the field equals it. -/
theorem readScalar_of_hasOperator (hop : p.hasOperator s = true) (h : p.sigil? s = none) :
    p.readScalar s = .doc [("$eq", p.readPlain s)] := by
  have hs := ne_empty_of_hasOperator hop
  rw [readScalar, if_neg hs, if_pos hop, readToken_of_sigil?_eq_none hop h, Token.plain]
  simp only [Bool.false_eq_true, if_false, if_neg hs]
  rfl

/-- What is stored for a text without an operator: the value that it stands for. -/
theorem readScalar_of_not_hasOperator (hs : s ≠ "") (hop : p.hasOperator s = false) :
    p.readScalar s = p.readPlain s := by
  rw [readScalar, if_neg hs, hop]
  rfl

/-! ## Texts of lists -/

/-- A text without a listed sigil is a value that is sought. -/
theorem addItem_of_sigil?_eq_none (h : p.sigil? s = none) :
    p.addItem d s = appendUnder .oneOf (p.readPlain s) d := by
  rw [addItem]
  split
  next hop =>
    simp only [readToken_of_sigil?_eq_none hop h]
    rfl
  next => rfl

/-- A text with a listed sign of negation is a value that is excluded. -/
theorem addItem_of_not (h : p.sigil? s = some .not) :
    p.addItem d s = appendUnder .noneOf (p.readPlain (afterSigil s).2) d := by
  rw [addItem, if_pos (hasOperator_of_sigil? h)]
  simp only [readToken_of_sigil? h]
  rfl

/-- A text with another listed sigil sets the condition of its token. -/
theorem addItem_of_sigil? (h : p.sigil? s = some sigil) (hne : sigil ≠ .not) : p.addItem d s =
    d.update (Token.ofSigil p.grammar true sigil (afterSigil s).1 (afterSigil s).2).fragment := by
  rw [addItem, if_pos (hasOperator_of_sigil? h)]
  simp only [readToken_of_sigil? h]
  cases sigil with
  | not => exact absurd rfl hne
  | greater | less => cases (afterSigil s).1 <;> rfl
  | startsWith | endsWith | contains => rfl

/-- What a text adds to the condition of a list, depending on its listed sigil. -/
theorem addItem_eq_or (p : Parser) (d : Document) (s : String) :
    (p.sigil? s = none ∧ p.addItem d s = appendUnder .oneOf (p.readPlain s) d) ∨
    (p.sigil? s = some .not ∧
      p.addItem d s = appendUnder .noneOf (p.readPlain (afterSigil s).2) d) ∨
    ∃ sigil, sigil ≠ .not ∧ p.sigil? s = some sigil ∧ p.addItem d s =
      d.update (Token.ofSigil p.grammar true sigil (afterSigil s).1 (afterSigil s).2).fragment := by
  cases h : p.sigil? s with
  | none => exact .inl ⟨rfl, addItem_of_sigil?_eq_none h⟩
  | some sigil =>
    by_cases hnot : sigil = .not
    · subst hnot
      exact .inr (.inl ⟨rfl, addItem_of_not h⟩)
    · exact .inr (.inr ⟨sigil, hnot, rfl, addItem_of_sigil? h hnot⟩)

end Parser

end QueryFilter
