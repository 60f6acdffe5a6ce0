import QueryFilter.Token

/-!
# Taking tokens apart

A text is made of a sigil, perhaps an equals sign, and a body, or it is a body as a whole
(`Token.IsMadeOf`). There is one way to see it so, and the token of the text shows it. The equals
sign counts in comparisons only, so that several texts read as the same token; a token is printed
with the sign where it is needed.

* `read_of_head`, `read_of_not_head`: the token of a text with a sigil, and without one;
* `isMadeOf_iff`: how a text is made of the operator and the body of its token;
* `read_print`: what a token is printed as reads as the token;
* `read_decomposes`: all of it together.
-/

namespace QueryFilter

namespace Sigil

/-- The sigil of a character is the one that is written so. -/
theorem ofChar?_eq_some_iff {c : Char} {sigil : Sigil} :
    ofChar? c = some sigil ↔ c = sigil.char := by
  refine ⟨fun h => ?_, fun h => h ▸ ofChar?_char sigil⟩
  unfold ofChar? at h
  split at h <;> cases h <;> rfl

/-- A sigil is one character. -/
@[simp] theorem toList_text (sigil : Sigil) : sigil.text.toList = [sigil.char] := by
  cases sigil <;> rfl

/-- The sigils are told apart by their texts. -/
theorem text_inj {sigil sigil' : Sigil} : sigil.text = sigil'.text ↔ sigil = sigil' := by
  refine ⟨fun h => ?_, fun h => h ▸ rfl⟩
  have hchar : sigil.char = sigil'.char := by
    simpa using congrArg String.toList h
  exact Option.some.inj ((ofChar?_char sigil).symm.trans (hchar ▸ ofChar?_char sigil'))

/-- No sigil is empty. -/
theorem text_ne_empty (sigil : Sigil) : sigil.text ≠ "" := by
  cases sigil <;> decide

end Sigil

/-- The sigils of comparisons, and the bounds that they are with an equals sign after them. -/
def inclusiveBounds : List (Sigil × Tag) :=
  [(.greater, .gte), (.less, .lte)]

theorem gte_mem_inclusiveBounds : (Sigil.greater, Tag.gte) ∈ inclusiveBounds :=
  List.mem_cons_self

theorem lte_mem_inclusiveBounds : (Sigil.less, Tag.lte) ∈ inclusiveBounds :=
  List.mem_cons_of_mem _ List.mem_cons_self

/-- The names of inclusive bounds are those of no other operators. -/
theorem Tag.text_eq_iff_of_mem {bound : Sigil × Tag} (h : bound ∈ inclusiveBounds) {tag : Tag} :
    tag.text = bound.2.text ↔ tag = bound.2 := by
  simp only [inclusiveBounds, List.mem_cons, List.not_mem_nil, or_false] at h
  rcases h with rfl | rfl <;> cases tag <;> decide

namespace Token

/-- The equals sign after the first character of a text, if there is one. -/
def mark (s : String) : String :=
  if s.toList[1]? = some '=' then "=" else ""

/-- How a text is made of an operator and a body: the operator is a sigil, and the body follows
    it, after an equals sign if there is one; or there is no operator, since the text does not
    begin with a sigil, and it is the body as a whole. -/
structure IsMadeOf (s operator body : String) : Prop where
  isOperator : operator = "" ∨ ∃ sigil : Sigil, operator = sigil.text
  spelled : operator ≠ "" → s = operator ++ mark s ++ body
  plain : operator = "" → (∀ sigil : Sigil, s.toList.head? ≠ some sigil.char) ∧ body = s

variable {g : Grammar} {array : Bool} {s : String} {sigil : Sigil} {cs : List Char}

/-! ## Reading -/

/-- Without an equals sign everything is body. -/
theorem takeInclusive_of_ne (h : cs.head? ≠ some '=') : takeInclusive cs = (false, cs) := by
  rw [takeInclusive.eq_def]
  split
  · exact absurd rfl h
  · rfl

/-- An equals sign is taken if there is one. -/
theorem fst_takeInclusive_iff : (takeInclusive cs).1 = true ↔ cs.head? = some '=' := by
  by_cases h : cs.head? = some '='
  · obtain ⟨cs, rfl⟩ := List.head?_eq_some_iff.1 h
    simp [takeInclusive]
  · simp [takeInclusive_of_ne h, h]

/-- The token of a text that begins with a sigil. -/
theorem read_of_head (h : s.toList = sigil.char :: cs) : read g array s =
    ofSigil g array sigil (takeInclusive cs).1 (String.ofList (takeInclusive cs).2) := by
  rw [read, h]
  simp only [Sigil.ofChar?_char]

/-- The token of a text that does not. -/
theorem read_of_not_head (h : ∀ sigil : Sigil, s.toList.head? ≠ some sigil.char) :
    read g array s = plain g array s := by
  rw [read]
  cases hs : s.toList with
  | nil => rfl
  | cons c cs =>
    have hc : Sigil.ofChar? c = none := by
      rw [Option.eq_none_iff_forall_ne_some]
      intro sigil hsigil
      exact h sigil (by rw [hs, Sigil.ofChar?_eq_some_iff.1 hsigil]; rfl)
    simp only [hc]

/-- A text begins with a sigil or with none. -/
theorem exists_head_or (s : String) : (∃ (sigil : Sigil) (cs : List Char),
    s.toList = sigil.char :: cs) ∨ ∀ sigil : Sigil, s.toList.head? ≠ some sigil.char := by
  by_cases h : ∃ sigil : Sigil, s.toList.head? = some sigil.char
  · obtain ⟨sigil, hsigil⟩ := h
    obtain ⟨cs, hs⟩ := List.head?_eq_some_iff.1 hsigil
    exact .inl ⟨sigil, cs, hs⟩
  · exact .inr fun sigil hsigil => h ⟨sigil, hsigil⟩

/-! ## Parts of tokens -/

/-- A plain value is its own body, and no bound. -/
theorem exists_plain_eq (g : Grammar) (array : Bool) (s : String) :
    ∃ (value : Value) (tag : Tag) (options : Option String),
    plain g array s = ⟨"", s, value, tag.text, options⟩ ∧
      ∀ bound ∈ inclusiveBounds, tag ≠ bound.2 := by
  rw [plain]
  cases array with
  | true => exact ⟨_, .oneOf, _, rfl, by decide⟩
  | false =>
    simp only [Bool.false_eq_true, if_false]
    split
    · exact ⟨_, .present, _, rfl, by decide⟩
    · exact ⟨_, .eq, _, rfl, by decide⟩

/-- The token of a sigil and a body shows both. It is an inclusive bound if the sigil is that of
    a comparison and an equals sign follows it. -/
theorem exists_ofSigil_eq (g : Grammar) (array : Bool) (sigil : Sigil) (inclusive : Bool)
    (body : String) : ∃ (value : Value) (tag : Tag) (options : Option String),
      ofSigil g array sigil inclusive body = ⟨sigil.text, body, value, tag.text, options⟩ ∧
        ∀ bound ∈ inclusiveBounds, tag = bound.2 ↔ sigil = bound.1 ∧ inclusive = true := by
  cases sigil with
  | not =>
    rw [ofSigil]
    cases array with
    | true => exact ⟨_, .noneOf, _, rfl, by simp [inclusiveBounds]⟩
    | false =>
      simp only [Bool.false_eq_true, if_false]
      split
      · exact ⟨_, .present, _, rfl, by simp [inclusiveBounds]⟩
      · exact ⟨_, .ne, _, rfl, by simp [inclusiveBounds]⟩
  | greater => exact ⟨_, if inclusive then .gte else .gt, _, rfl, by cases inclusive <;> decide⟩
  | less => exact ⟨_, if inclusive then .lte else .lt, _, rfl, by cases inclusive <;> decide⟩
  | startsWith | endsWith | contains => exact ⟨_, .regex, _, rfl, by simp [inclusiveBounds]⟩

@[simp] theorem operator_plain (s : String) : (plain g array s).operator = "" := by
  obtain ⟨value, tag, options, h, -⟩ := exists_plain_eq g array s
  rw [h]

@[simp] theorem body_plain (s : String) : (plain g array s).body = s := by
  obtain ⟨value, tag, options, h, -⟩ := exists_plain_eq g array s
  rw [h]

@[simp] theorem operator_ofSigil (sigil : Sigil) (inclusive : Bool) (body : String) :
    (ofSigil g array sigil inclusive body).operator = sigil.text := by
  obtain ⟨value, tag, options, h, -⟩ := exists_ofSigil_eq g array sigil inclusive body
  rw [h]

@[simp] theorem body_ofSigil (sigil : Sigil) (inclusive : Bool) (body : String) :
    (ofSigil g array sigil inclusive body).body = body := by
  obtain ⟨value, tag, options, h, -⟩ := exists_ofSigil_eq g array sigil inclusive body
  rw [h]

/-- A token with a sigil is an inclusive bound if its sigil and the equals sign say so. -/
theorem filterKey_ofSigil_eq_iff {bound : Sigil × Tag} (hbound : bound ∈ inclusiveBounds)
    {inclusive : Bool} {body : String} :
    (ofSigil g array sigil inclusive body).filterKey = bound.2.text ↔
      sigil = bound.1 ∧ inclusive = true := by
  obtain ⟨value, tag, options, h, htag⟩ := exists_ofSigil_eq g array sigil inclusive body
  rw [h, Tag.text_eq_iff_of_mem hbound, htag bound hbound]

/-- A plain value is no inclusive bound. -/
theorem filterKey_plain_ne {bound : Sigil × Tag} (hbound : bound ∈ inclusiveBounds) (s : String) :
    (plain g array s).filterKey ≠ bound.2.text := by
  obtain ⟨value, tag, options, h, htag⟩ := exists_plain_eq g array s
  rw [h, Ne, Tag.text_eq_iff_of_mem hbound]
  exact htag bound hbound

/-! ## Spelling -/

/-- The second character of a text is the first one of what follows the first character. -/
theorem getElem?_one_of_cons {c : Char} (h : s.toList = c :: cs) : s.toList[1]? = cs.head? := by
  rw [h, List.getElem?_cons_succ, List.head?_eq_getElem?]

/-- A text is its sigil, its mark and what the reader takes for the body. -/
theorem eq_append_of_head (h : s.toList = sigil.char :: cs) :
    s = sigil.text ++ mark s ++ String.ofList (takeInclusive cs).2 := by
  rw [mark, getElem?_one_of_cons h, ← String.toList_inj]
  by_cases hcs : cs.head? = some '='
  · obtain ⟨cs, rfl⟩ := List.head?_eq_some_iff.1 hcs
    simp [h, takeInclusive]
  · simp [h, hcs, takeInclusive_of_ne hcs]

/-- The operator and the body of a text are those of its token. -/
theorem isMadeOf_iff (g : Grammar) (array : Bool) {s operator body : String} :
    IsMadeOf s operator body ↔
      operator = (read g array s).operator ∧ body = (read g array s).body := by
  rcases exists_head_or s with ⟨sigil, cs, hs⟩ | hs
  · rw [read_of_head hs, operator_ofSigil, body_ofSigil]
    have hspelled := eq_append_of_head hs
    constructor
    · rintro ⟨hoperator, h, hplain⟩
      rcases hoperator with rfl | ⟨sigil', rfl⟩
      · exact absurd (by rw [hs]; rfl) ((hplain rfl).1 sigil)
      -- Both ways to see the text begin with its first character.
      have htext := hspelled.symm.trans (h sigil'.text_ne_empty)
      rw [← String.toList_inj] at htext
      simp only [String.toList_append, Sigil.toList_text, List.cons_append, List.nil_append,
        List.cons.injEq] at htext
      obtain ⟨hchar, htail⟩ := htext
      refine ⟨by rw [Sigil.text, Sigil.text, hchar], ?_⟩
      exact String.toList_inj.1 (List.append_cancel_left htail).symm
    · rintro ⟨rfl, rfl⟩
      exact ⟨.inr ⟨sigil, rfl⟩, fun _ => hspelled, fun h => absurd h sigil.text_ne_empty⟩
  · rw [read_of_not_head hs, operator_plain, body_plain]
    constructor
    · rintro ⟨hoperator, hspelled, hplain⟩
      rcases hoperator with rfl | ⟨sigil, rfl⟩
      · exact ⟨rfl, (hplain rfl).2⟩
      · refine absurd ?_ (hs sigil)
        rw [hspelled sigil.text_ne_empty]
        simp
    · rintro ⟨rfl, rfl⟩
      exact ⟨.inl rfl, absurd rfl, fun _ => ⟨hs, rfl⟩⟩

/-! ## Printing -/

/-- The token of a sigil and a body that does not begin with an equals sign. -/
theorem read_append {body : String} (h : body.toList.head? ≠ some '=') :
    read g array (sigil.text ++ body) = ofSigil g array sigil false body := by
  have hs : (sigil.text ++ body).toList = sigil.char :: body.toList := by simp
  rw [read_of_head hs, takeInclusive_of_ne h, String.ofList_toList]

/-- The token of a sigil, an equals sign, and a body. -/
theorem read_append_mark (body : String) :
    read g array (sigil.text ++ "=" ++ body) = ofSigil g array sigil true body := by
  have hs : (sigil.text ++ "=" ++ body).toList = sigil.char :: '=' :: body.toList := by simp
  rw [read_of_head hs, takeInclusive, String.ofList_toList]

/-- The equals sign counts in comparisons only. -/
theorem ofSigil_congr {inclusive inclusive' : Bool}
    (h : sigil = .greater ∨ sigil = .less → inclusive = inclusive') (body : String) :
    ofSigil g array sigil inclusive body = ofSigil g array sigil inclusive' body := by
  cases sigil with
  | greater => rw [h (.inl rfl)]
  | less => rw [h (.inr rfl)]
  | not | startsWith | endsWith | contains => rfl

/-- What the token of a sigil and a body is printed as reads as the token. Only after an equals
    sign can the body begin with one. -/
theorem read_print_ofSigil {inclusive : Bool} {body : String}
    (h : inclusive = true ∨ body.toList.head? ≠ some '=') :
    read g array (ofSigil g array sigil inclusive body).print =
      ofSigil g array sigil inclusive body := by
  rw [print, operator_ofSigil, body_ofSigil, if_neg sigil.text_ne_empty]
  split
  next hmark =>
    rw [read_append_mark]
    refine ofSigil_congr (fun hsigil => ?_) body
    rcases hmark with hkey | hkey | hbody
    · exact ((filterKey_ofSigil_eq_iff gte_mem_inclusiveBounds).1 hkey).2.symm
    · exact ((filterKey_ofSigil_eq_iff lte_mem_inclusiveBounds).1 hkey).2.symm
    · exact (h.resolve_right (absurd hbody)).symm
  next hmark =>
    obtain ⟨hgte, hlte, hbody⟩ : _ ∧ _ ∧ _ := by simpa only [not_or] using hmark
    rw [read_append hbody]
    refine ofSigil_congr (fun hsigil => ?_) body
    -- An inclusive bound would have been printed with the equals sign.
    cases inclusive with
    | false => rfl
    | true =>
      rcases hsigil with rfl | rfl
      · exact absurd ((filterKey_ofSigil_eq_iff gte_mem_inclusiveBounds).2 ⟨rfl, rfl⟩) hgte
      · exact absurd ((filterKey_ofSigil_eq_iff lte_mem_inclusiveBounds).2 ⟨rfl, rfl⟩) hlte

/-- What a token is printed as reads as the token. -/
theorem read_print (g : Grammar) (array : Bool) (s : String) :
    read g array (read g array s).print = read g array s := by
  rcases exists_head_or s with ⟨sigil, cs, hs⟩ | hs
  · rw [read_of_head hs]
    refine read_print_ofSigil ?_
    by_cases hcs : cs.head? = some '='
    · obtain ⟨cs, rfl⟩ := List.head?_eq_some_iff.1 hcs
      exact .inl rfl
    · rw [takeInclusive_of_ne hcs, String.toList_ofList]
      exact .inr hcs
  · rw [read_of_not_head hs, print, operator_plain, body_plain, if_pos rfl, read_of_not_head hs]

/-- A token is an inclusive bound if its operator is the sigil of a comparison and an equals sign
    follows it. -/
theorem filterKey_read_eq_iff {bound : Sigil × Tag} (hbound : bound ∈ inclusiveBounds)
    (g : Grammar) (array : Bool) (s : String) :
    (read g array s).filterKey = bound.2.text ↔
      (read g array s).operator = bound.1.text ∧ s.toList[1]? = some '=' := by
  rcases exists_head_or s with ⟨sigil, cs, hs⟩ | hs
  · rw [read_of_head hs, filterKey_ofSigil_eq_iff hbound, operator_ofSigil, fst_takeInclusive_iff,
      getElem?_one_of_cons hs, Sigil.text_inj]
  · rw [read_of_not_head hs, operator_plain]
    refine iff_of_false (filterKey_plain_ne hbound s) ?_
    exact fun h => bound.1.text_ne_empty h.1.symm

/-- Every text is made of the operator and the body of its token, and in no other way. The token
    is an inclusive bound if the sigil is that of a comparison and an equals sign follows it. What
    the token is printed as reads as the same token, whatever is coerced or removed. -/
theorem read_decomposes (g : Grammar) (array : Bool) (s : String) :
    (∀ operator body, IsMadeOf s operator body ↔
      operator = (read g array s).operator ∧ body = (read g array s).body) ∧
    ((read g array s).filterKey = "$gte" ↔
      (read g array s).operator = ">" ∧ s.toList[1]? = some '=') ∧
    ((read g array s).filterKey = "$lte" ↔
      (read g array s).operator = "<" ∧ s.toList[1]? = some '=') ∧
    read g array (read g array s).print = read g array s := by
  refine ⟨fun _ _ => isMadeOf_iff g array, ?_, ?_, read_print g array s⟩
  · exact filterKey_read_eq_iff gte_mem_inclusiveBounds g array s
  · exact filterKey_read_eq_iff lte_mem_inclusiveBounds g array s

/-- Only the second equals sign belongs to the body, and the first one is printed again. -/
example : (read ⟨⟨true, true⟩, ⟨"", .empty⟩⟩ false "!==x").print = "!==x" ∧
    (read ⟨⟨true, true⟩, ⟨"", .empty⟩⟩ false "!=x").print = "!x" := by
  decide +kernel

end Token

end QueryFilter
