import QueryFilter.Token
import QueryFilter.Proofs.Grammar

/-!
# Forms of tokens

Whatever the text, its token is a comparison with a scalar, a pattern, or, if it is no value
of a list, a condition that a field is there (`Token.Form`). Values of a list that are sought
or excluded are told apart from the others by their tags.

* `read_form`: every token has one of these forms;
* `names_fragment_ofSigil`: the operators that sigils ask for in a list;
* `Form.isCondition_fragment`: a token that stands alone puts a condition on its field.
-/

namespace QueryFilter

/-- The names of bounds. -/
theorem Tag.text_mem_of_bound {tag : Tag} (h : tag ∈ [.gt, .gte, .lt, .lte]) :
    tag.text ∈ ["$gt", "$gte", "$lt", "$lte"] := by
  have hkeys : ∀ tag ∈ [Tag.gt, .gte, .lt, .lte],
      tag.text ∈ ["$gt", "$gte", "$lt", "$lte"] := by decide
  exact hkeys tag h

/-- The names of collections of values. -/
theorem Tag.text_mem_of_member {tag : Tag} (h : tag ∈ [.oneOf, .noneOf]) :
    tag.text ∈ ["$in", "$nin"] := by
  have hkeys : ∀ tag ∈ [Tag.oneOf, .noneOf], tag.text ∈ ["$in", "$nin"] := by decide
  exact hkeys tag h

namespace Token

/-- What a token is; `array` says that it is one of the values of a list. -/
inductive Form : (array : Bool) → Token → Prop
  | bound {array : Bool} {operator body : String} {tag : Tag} {v : Value}
      (htag : tag ∈ [.gt, .gte, .lt, .lte]) (hv : v.IsScalar) :
      Form array (condition operator body tag v)
  | equality {operator body : String} {tag : Tag} {v : Value} (htag : tag ∈ [.eq, .ne])
      (hv : v.IsScalar) : Form false (condition operator body tag v)
  | member {operator body : String} {tag : Tag} {v : Value} (htag : tag ∈ [.oneOf, .noneOf])
      (hv : v.IsScalar) : Form true (condition operator body tag v)
  | present (operator body : String) (b : Bool) :
      Form false (condition operator body .present (.bool b))
  | pattern (array : Bool) (operator body p : String) : Form array (patternCondition operator body p)

variable {g : Grammar} {array : Bool}

/-! ## Reading -/

/-- A plain value has one of the forms. -/
theorem plain_form (s : String) : Form array (plain g array s) := by
  have hv := (Scalar.read g.coercion s).isScalar_toValue
  unfold plain
  cases array with
  | true => exact .member (by decide) hv
  | false =>
    by_cases hs : s = ""
    · simp only [if_pos hs]
      exact .present "" s true
    · simp only [if_neg hs]
      exact .equality (by decide) hv

/-- A body after a sigil has one of the forms. -/
theorem ofSigil_form (sigil : Sigil) (inclusive : Bool) (body : String) :
    Form array (ofSigil g array sigil inclusive body) := by
  have hv := (Scalar.read g.coercion body).isScalar_toValue
  cases sigil with
  | not =>
    cases array with
    | true => exact .member (by decide) hv
    | false =>
      rw [ofSigil]
      by_cases hb : body = ""
      · simp only [if_pos hb]
        exact .present _ body false
      · simp only [if_neg hb]
        exact .equality (by decide) hv
  | greater => exact .bound (by cases inclusive <;> decide) hv
  | less => exact .bound (by cases inclusive <;> decide) hv
  | startsWith | endsWith | contains => exact .pattern array _ body _

/-- Every token has one of the forms. -/
theorem read_form (g : Grammar) (array : Bool) (s : String) : Form array (read g array s) := by
  rw [read]
  split
  · exact plain_form s
  · split
    · exact plain_form s
    · exact ofSigil_form _ _ _

/-! ## Fragments -/

/-- The fragment of a comparison. -/
@[simp] theorem fragment_condition (operator body : String) (tag : Tag) (v : Value) :
    (condition operator body tag v).fragment = [(tag.text, v)] := rfl

/-- The fragment of a pattern. -/
@[simp] theorem fragment_patternCondition (operator body p : String) :
    (patternCondition operator body p).fragment =
      [("$regex", .str p), ("$options", .str "i")] := rfl

/-- The fragment of a lower bound. -/
theorem fragment_ofSigil_greater (inclusive : Bool) (body : String) :
    (ofSigil g array .greater inclusive body).fragment =
      [((if inclusive then Tag.gte else .gt).text, (Scalar.read g.coercion body).toValue)] := rfl

/-- The fragment of an upper bound. -/
theorem fragment_ofSigil_less (inclusive : Bool) (body : String) :
    (ofSigil g array .less inclusive body).fragment =
      [((if inclusive then Tag.lte else .lt).text, (Scalar.read g.coercion body).toValue)] := rfl

/-- The fragment of a sigil that asks for a pattern. -/
theorem fragment_ofSigil_pattern {sigil : Sigil}
    (hsigil : sigil ∈ [.startsWith, .endsWith, .contains]) (inclusive : Bool) (body : String) :
    (ofSigil g array sigil inclusive body).fragment =
      [("$regex", (ofSigil g array sigil inclusive body).value), ("$options", .str "i")] := by
  cases sigil with
  | startsWith | endsWith | contains => rfl
  | not | greater | less => exact absurd hsigil (by decide)

/-- A token with another sigil than that of negation is a bound or a pattern. -/
theorem names_fragment_ofSigil {sigil : Sigil} (hne : sigil ≠ .not) (inclusive : Bool)
    (body : String) : (ofSigil g array sigil inclusive body).fragment.names ⊆
      ["$gt", "$gte", "$lt", "$lte", "$regex", "$options"] := by
  cases sigil with
  | not => exact absurd rfl hne
  | greater =>
    have hkeys : ∀ b : Bool, [(if b then Tag.gte else .gt).text] ⊆
        ["$gt", "$gte", "$lt", "$lte", "$regex", "$options"] := by decide
    exact hkeys inclusive
  | less =>
    have hkeys : ∀ b : Bool, [(if b then Tag.lte else .lt).text] ⊆
        ["$gt", "$gte", "$lt", "$lte", "$regex", "$options"] := by decide
    exact hkeys inclusive
  | startsWith | endsWith | contains =>
    have hkeys : ["$regex", "$options"] ⊆
        ["$gt", "$gte", "$lt", "$lte", "$regex", "$options"] := by decide
    exact hkeys

/-- A token that stands alone puts a condition on its field. -/
theorem Form.isCondition_fragment {t : Token} (h : Form false t) : IsCondition t.fragment := by
  cases h with
  | bound htag hv =>
    rw [fragment_condition]
    exact .compare (List.mem_append_right ["$eq", "$ne"] (Tag.text_mem_of_bound htag)) hv
  | equality htag hv =>
    have hkeys : ∀ tag ∈ [Tag.eq, .ne],
        tag.text ∈ ["$eq", "$ne", "$gt", "$gte", "$lt", "$lte"] := by decide
    rw [fragment_condition]
    exact .compare (hkeys _ htag) hv
  | present operator body b =>
    rw [fragment_condition]
    exact .present b
  | pattern _ operator body p =>
    rw [fragment_patternCondition]
    exact .regex p

end Token

end QueryFilter
