import QueryFilter.Proofs.Pattern.FieldName
import QueryFilter.Proofs.Token
import QueryFilter.Proofs.Token.Decomposition

/-!
# Safe patterns

The patterns that tokens ask for are written by whoever makes the request. By default only the
characters of field names, asterisks and spaces are let through (`IsBodyChar`): what stays of a
body is its characters of this kind, in order, and the anchor of the sigil is put there
afterwards. So of the characters with a meaning in regular expressions, points and asterisks are
all that a body can bring in.

* `remove_set`: removing the characters of a set leaves the others;
* `toList_sanitize`: what stays of a body;
* `safe_of_sigil`: the patterns of tokens.
-/

namespace QueryFilter

/-- The characters that may stand in the body of a pattern: those of field names, the asterisk
    and the space. -/
def IsBodyChar (c : Char) : Prop :=
  IsNameChar c ∨ c = '*' ∨ c = ' '

instance (c : Char) : Decidable (IsBodyChar c) :=
  inferInstanceAs (Decidable (_ ∨ _))

/-- The characters with a meaning of their own in regular expressions. -/
def metaChars : List Char :=
  ['.', '^', '$', '*', '+', '?', '{', '}', '[', ']', '\\', '|', '(', ')']

/-- Of these, points and asterisks may stand in the body of a pattern. -/
theorem eq_of_isBodyChar_of_mem_metaChars {c : Char} (h : IsBodyChar c) (hmeta : c ∈ metaChars) :
    c = '.' ∨ c = '*' := by
  have hall : ∀ c ∈ metaChars, IsBodyChar c → c = '.' ∨ c = '*' := by
    simp [metaChars, IsBodyChar, IsNameChar]
  exact hall c hmeta h

namespace Pattern

/-! ## Removal -/

/-- A match of a set is one character of it. -/
theorem matchEnd?_set (chars : CharSet) (before : List Char) (c : Char) (cs : List Char) :
    matchEnd? (.set chars) (.between before (c :: cs)) =
      if chars.contains c then some (before.length + 1) else none := by
  cases h : chars.contains c <;>
    simp [matchEnd?, Node.run, Spot.between, Spot.advance, Spot.position, h]

/-- Removing the characters of a set leaves the others, wherever the text stands. -/
theorem removeFrom_set (chars : CharSet) (before cs : List Char) :
    removeFrom (.set chars) 0 before cs = cs.filter fun c => !chars.contains c := by
  induction cs generalizing before with
  | nil => rfl
  | cons c cs ih =>
    rw [removeFrom, matchEnd?_set]
    cases h : chars.contains c with
    | true =>
      -- The match is over with its one character.
      simp only [if_true, Nat.sub_self]
      rw [List.filter_cons_of_neg (by simp [h]), ih]
    | false =>
      simp only [Bool.false_eq_true, if_false]
      rw [List.filter_cons_of_pos (by simp [h]), ih]

/-- Removing the characters of a set leaves the others. -/
theorem remove_set {p : Pattern} {chars : CharSet} (hp : p.node = .set chars) (cs : List Char) :
    p.remove cs = cs.filter fun c => !chars.contains c := by
  rw [remove, hp, removeFrom_set]

/-! ## Characters of bodies -/

/-- The characters that stay in bodies, in any letter case. -/
def bodyChars : CharSet := ⟨bodyItems, false, .anyCase⟩

/-- The items are those of field names and two more characters. -/
theorem mem_bodyItems_iff (item : SetItem) :
    item ∈ bodyItems ↔ item ∈ nameItems ∨ item = .char '*' ∨ item = .char ' ' := by
  simp only [bodyItems, nameItems, List.mem_cons, List.not_mem_nil, or_false]
  grind

/-- The characters that stay in bodies. -/
theorem contains_bodyChars_iff (c : Char) : bodyChars.contains c = true ↔ IsBodyChar c := by
  have hasterisk := CharSet.contains_char_iff (d := '*') (by decide) (by decide)
    (by decide +kernel) (by decide +kernel) c
  have hspace := CharSet.contains_char_iff (d := ' ') (by decide) (by decide)
    (by decide +kernel) (by decide +kernel) c
  rw [IsBodyChar, ← contains_nameChars_iff, ← hasterisk, ← hspace, bodyChars, nameChars,
    CharSet.contains_iff (by decide), CharSet.contains_iff (by decide),
    CharSet.contains_iff (by decide), CharSet.contains_iff (by decide)]
  simp only [mem_bodyItems_iff, List.mem_singleton]
  grind

/-- By default the characters that may stand in bodies are the ones that stay. -/
theorem remove_unsafeChars (cs : List Char) :
    unsafeChars.remove cs = cs.filter fun c => decide (IsBodyChar c) := by
  have hset : unsafeChars.node = .set ⟨bodyItems, true, .anyCase⟩ := rfl
  rw [remove_set hset]
  refine List.filter_congr fun c _ => ?_
  have hnegated : (CharSet.mk bodyItems true .anyCase).contains c = !bodyChars.contains c := by
    simp [CharSet.contains, CharSet.listsVariant, bodyChars]
  rw [hnegated, Bool.not_not, Bool.eq_iff_iff, contains_bodyChars_iff, decide_eq_true_eq]

end Pattern

/-- What stands before the body of a sigil's pattern, and what after it. -/
def Sigil.anchors : Sigil → String × String
  | .startsWith => ("^", "")
  | .endsWith => ("", "$")
  | _ => ("", "")

namespace Token

/-! ## Tokens -/

/-- What stays of a body are its characters that may stand in bodies, in order. -/
theorem toList_sanitize (body : String) : (sanitize .unsafeChars body).toList =
    body.toList.filter fun c => decide (IsBodyChar c) := by
  rw [sanitize, String.toList_ofList, Pattern.remove_unsafeChars]

/-- What stays of a body stays as it is. -/
theorem sanitize_sanitize (body : String) :
    sanitize .unsafeChars (sanitize .unsafeChars body) = sanitize .unsafeChars body := by
  rw [← String.toList_inj, toList_sanitize, toList_sanitize, List.filter_filter]
  simp only [Bool.and_self]

/-- What stays of two texts, one after the other, is what stays of each. -/
theorem sanitize_append (a b : String) : sanitize .unsafeChars (a ++ b) =
    sanitize .unsafeChars a ++ sanitize .unsafeChars b := by
  rw [← String.toList_inj, String.toList_append, toList_sanitize, toList_sanitize,
    toList_sanitize, String.toList_append, List.filter_append]

/-- The pattern of a sigil is anchored around what stays of the body. -/
theorem value_ofSigil_pattern {g : Grammar} {array : Bool} {sigil : Sigil}
    (hsigil : sigil ∈ [.startsWith, .endsWith, .contains]) (inclusive : Bool) (body : String) :
    (ofSigil g array sigil inclusive body).value =
      .str (sigil.anchors.1 ++ sanitize g.unsafeChars body ++ sigil.anchors.2) := by
  cases sigil with
  | startsWith | endsWith | contains => simp [ofSigil, patternCondition, Sigil.anchors]
  | not | greater | less => exact absurd hsigil (by decide)

/-- A text that begins with the sigil of a pattern asks for the pattern that has the anchor of
    the sigil and, in order, the characters of the body that may stand there, whatever is
    coerced. So points and asterisks are all that has a meaning of its own there. What stays of a
    body does not change if it is treated again, and parts can be treated apart. -/
theorem safe_of_sigil :
    (∀ (coercion : Coercion) (array : Bool) (s : String) (sigil : Sigil),
      sigil ∈ [.startsWith, .endsWith, .contains] → s.toList.head? = some sigil.char →
        ∃ body w, IsMadeOf s sigil.text body ∧
          w.toList = body.toList.filter (fun c => decide (IsBodyChar c)) ∧
          (read ⟨coercion, .unsafeChars⟩ array s).fragment =
            [("$regex", .str (sigil.anchors.1 ++ w ++ sigil.anchors.2)),
              ("$options", .str "i")] ∧
          ∀ c ∈ w.toList, c ∈ metaChars → c = '.' ∨ c = '*') ∧
    (∀ body, sanitize .unsafeChars (sanitize .unsafeChars body) = sanitize .unsafeChars body) ∧
    ∀ a b, sanitize .unsafeChars (a ++ b) =
      sanitize .unsafeChars a ++ sanitize .unsafeChars b := by
  refine ⟨fun coercion array s sigil hsigil hs => ?_, sanitize_sanitize, sanitize_append⟩
  obtain ⟨cs, hs⟩ := List.head?_eq_some_iff.1 hs
  have htoken : read ⟨coercion, .unsafeChars⟩ array s = _ := read_of_head hs
  refine ⟨String.ofList (takeInclusive cs).2, _, ?_, toList_sanitize _, ?_, fun c hc => ?_⟩
  · rw [isMadeOf_iff ⟨coercion, .unsafeChars⟩ array, htoken, operator_ofSigil, body_ofSigil]
    exact ⟨rfl, rfl⟩
  · rw [htoken, fragment_ofSigil_pattern hsigil, value_ofSigil_pattern hsigil]
  · rw [toList_sanitize] at hc
    exact eq_of_isBodyChar_of_mem_metaChars (of_decide_eq_true (List.mem_filter.1 hc).2)

/-- A body with an equals sign, brackets, an anchor and a long s, in a list. -/
theorem safe_of_sigil_endsWith : ∃ body w, IsMadeOf "$=(Å.ſ*)^" Sigil.endsWith.text body ∧
    w.toList = body.toList.filter (fun c => decide (IsBodyChar c)) ∧
    (read ⟨⟨true, true⟩, .unsafeChars⟩ true "$=(Å.ſ*)^").fragment =
      [("$regex", .str (Sigil.endsWith.anchors.1 ++ w ++ Sigil.endsWith.anchors.2)),
        ("$options", .str "i")] ∧
    ∀ c ∈ w.toList, c ∈ metaChars → c = '.' ∨ c = '*' :=
  safe_of_sigil.1 ⟨true, true⟩ true "$=(Å.ſ*)^" .endsWith (by decide) (by decide)

end Token

end QueryFilter
