import QueryFilter.Pattern.Standard
import QueryFilter.Proofs.Pattern.Language
import QueryFilter.Proofs.Text.LetterCase

/-!
# The standard patterns of field names

What the standard patterns accept: names of one or more characters of a set, and, where
several values are given, perhaps two brackets after them. The patterns ignore letter case,
and so the set has a few characters more than one would name at first (`IsNameChar`).

* `contains_nameChars_iff`: the characters of field names;
* `finds_key_iff`, `finds_arrayKey_iff`: the names that are accepted, as characters, and
  `finds_key_toList_iff`, `finds_arrayKey_toList_iff`, as texts (`IsFieldName`);
* `head_ne_dollar_of_key`, `head_ne_dollar_of_arrayKey`: none of them looks like an
  operator.
-/

namespace QueryFilter

/-! ## Characters -/

/-- Whether an item of a set is a character of the basic plane, or a range that ends there. -/
def SetItem.isBasic : SetItem → Bool
  | .char d => decide (d.toNat < basicPlaneEnd)
  | .range _ last => decide (last < basicPlaneEnd)
  | .surrogate _ | .named _ _ => false

/-- Such an item lists a character beside others if it lists a variant of it. -/
theorem SetItem.listsVariant_iff {item : SetItem} (h : item.isBasic = true) (c : Char) :
    item.listsVariant .anyCase c = true ↔ ∃ d ∈ Text.variants c, item.lists false d = true := by
  have hvariants : Letters.anyCase.variants c = Text.variants c := rfl
  cases item with
  | char d =>
    have hd : d.toNat < basicPlaneEnd := of_decide_eq_true h
    simp [listsVariant, lists, hd, hvariants]
  | range first last =>
    have hlast : ¬basicPlaneEnd ≤ last := Nat.not_le.2 (of_decide_eq_true h)
    simp only [listsVariant, hlast, hvariants, decide_false, Bool.false_and, Bool.or_false,
      List.any_eq_true]
    exact Iff.rfl
  | surrogate code | named name negated => exact absurd h (by simp [isBasic])

/-- So does a set of such items that ignores letter case. -/
theorem CharSet.contains_iff {items : List SetItem} (h : ∀ item ∈ items, item.isBasic = true)
    (c : Char) : (CharSet.mk items false .anyCase).contains c = true ↔
      ∃ d ∈ Text.variants c, ∃ item ∈ items, item.lists false d = true := by
  have hany : (CharSet.mk items false .anyCase).contains c = true ↔
      ∃ item ∈ items, item.listsVariant .anyCase c = true := by
    have hvariant : (CharSet.mk items false .anyCase).contains c =
        (CharSet.mk items false .anyCase).listsVariant c := Bool.bne_false _
    rw [hvariant, listsVariant]
    split
    next d heq =>
      -- A single character is told apart in the definition only.
      obtain rfl : items = [.char d] := heq
      have hd : d.toNat < basicPlaneEnd := of_decide_eq_true (h _ List.mem_cons_self)
      simp [SetItem.listsVariant, hd]
    next => exact List.any_eq_true
  rw [hany]
  constructor
  · rintro ⟨item, hitem, hc⟩
    obtain ⟨d, hd, hlists⟩ := (SetItem.listsVariant_iff (h item hitem) c).1 hc
    exact ⟨d, hd, item, hitem, hlists⟩
  · rintro ⟨d, hd, item, hitem, hlists⟩
    exact ⟨item, hitem, (SetItem.listsVariant_iff (h item hitem) c).2 ⟨d, hd, hlists⟩⟩

/-- The code points of the characters that an item lists. -/
def SetItem.codes : SetItem → List Nat
  | .char d => [d.toNat]
  | .range first last => List.range' first (last + 1 - first)
  | .surrogate _ | .named _ _ => []

/-- Every character that an item lists has one of these code points. -/
theorem SetItem.mem_codes {item : SetItem} (h : item.isBasic = true) {d : Char}
    (hd : item.lists false d = true) : d.toNat ∈ item.codes := by
  cases item with
  | char d' => simp_all [lists, codes]
  | range first last =>
    simp only [lists, Bool.and_eq_true, decide_eq_true_eq] at hd
    rw [codes, List.mem_range'_1]
    omega
  | surrogate code | named name negated => exact absurd h (by simp [isBasic])

/-- The code points of the characters of which items list a variant. -/
def sourceCodes (items : List SetItem) : List Nat :=
  (items.flatMap SetItem.codes).flatMap Text.variantSources

/-- A property of the characters of a set that ignores letter case is one of the characters
    with these code points. -/
theorem CharSet.forall_of_sourceCodes {items : List SetItem} {P : Char → Prop}
    (hbasic : ∀ item ∈ items, item.isBasic = true) (hpos : ∀ n ∈ items.flatMap SetItem.codes, 0 < n)
    (hP : ∀ n ∈ sourceCodes items, P (Char.ofNat n)) {c : Char}
    (hc : (CharSet.mk items false .anyCase).contains c = true) : P c := by
  obtain ⟨d, hd, item, hitem, hlists⟩ := (CharSet.contains_iff hbasic c).1 hc
  have hcode : d.toNat ∈ items.flatMap SetItem.codes :=
    List.mem_flatMap.2 ⟨item, hitem, SetItem.mem_codes (hbasic item hitem) hlists⟩
  have hsource : c.toNat ∈ sourceCodes items :=
    List.mem_flatMap.2 ⟨d.toNat, hcode, Text.mem_variantSources hd (hpos _ hcode)⟩
  exact Char.ofNat_toNat c ▸ hP _ hsource

/-- A set of one character that has no other case holds that character alone. -/
theorem CharSet.contains_char_iff {d : Char} (hbasic : (SetItem.char d).isBasic = true)
    (hpos : 0 < d.toNat) (hsources : ∀ n ∈ sourceCodes [.char d], Char.ofNat n = d)
    (hself : (CharSet.mk [.char d] false .anyCase).contains d = true) (c : Char) :
    (CharSet.mk [.char d] false .anyCase).contains c = true ↔ c = d := by
  constructor
  · refine forall_of_sourceCodes (P := (· = d)) ?_ ?_ hsources
    · rwa [List.forall_mem_singleton]
    · simpa [SetItem.codes] using hpos
  · rintro rfl
    exact hself

/-- The characters of field names: letters and digits of ASCII, three marks, the letters `æ`,
    `ø` and `å` in either case, and the characters that differ from one of these in letter case
    alone: the capital dotted and the small dotless i, the long s, and the signs of the kelvin
    and the ångström. -/
def IsNameChar (c : Char) : Prop :=
  c.isAlphanum = true ∨ c ∈ ['_', '.', '-', 'æ', 'ø', 'å', 'Æ', 'Ø', 'Å'] ∨
    c ∈ ['\u0130', '\u0131', '\u017f', '\u212a', '\u212b']

instance (c : Char) : Decidable (IsNameChar c) :=
  inferInstanceAs (Decidable (_ ∨ _))

/-- A name of a field: one or more characters of field names. -/
def IsFieldName (name : String) : Prop :=
  name.toList ≠ [] ∧ ∀ c ∈ name.toList, IsNameChar c

-- The characters of the name are gone through, and not all characters that there are.
instance (name : String) : Decidable (IsFieldName name) :=
  @instDecidableAnd _ _ _ (List.decidableBAll IsNameChar name.toList)

/-- A name of a field does not end in brackets. -/
theorem not_isFieldName_append_brackets (name : String) : ¬IsFieldName (name ++ "[]") := by
  rintro ⟨-, hchars⟩
  have hmem : '[' ∈ (name ++ "[]").toList := by simp
  exact absurd (hchars _ hmem) (by decide)

end QueryFilter

namespace QueryFilter.Pattern

/-- The characters of field names, in any letter case. -/
def nameChars : CharSet := ⟨nameItems, false, .anyCase⟩

/-- The opening bracket. -/
def openBracket : CharSet := ⟨[.char '['], false, .anyCase⟩

/-- The closing bracket. -/
def closeBracket : CharSet := ⟨[.char ']'], false, .anyCase⟩

/-- The characters of field names. -/
theorem contains_nameChars_iff (c : Char) : nameChars.contains c = true ↔ IsNameChar c := by
  constructor
  · exact CharSet.forall_of_sourceCodes (by decide) (by decide) (by decide +kernel)
  · have hcodes : ∀ n ∈ List.range' 48 10 ++ List.range' 65 26 ++ List.range' 97 26,
        nameChars.contains (Char.ofNat n) = true := by decide +kernel
    have hothers : (['_', '.', '-', 'æ', 'ø', 'å', 'Æ', 'Ø', 'Å'] ++
        ['\u0130', '\u0131', '\u017f', '\u212a', '\u212b']).all nameChars.contains = true := by
      decide +kernel
    rintro (hc | hc | hc)
    · have h := hcodes _ (Text.toNat_mem_of_isAlphanum hc)
      rwa [Char.ofNat_toNat] at h
    · exact List.all_eq_true.1 hothers c (List.mem_append_left _ hc)
    · exact List.all_eq_true.1 hothers c (List.mem_append_right _ hc)

/-- The opening bracket has no other case. -/
theorem contains_openBracket_iff (c : Char) : openBracket.contains c = true ↔ c = '[' :=
  CharSet.contains_char_iff (by decide) (by decide) (by decide +kernel) (by decide +kernel) c

/-- Nor has the closing bracket. -/
theorem contains_closeBracket_iff (c : Char) : closeBracket.contains c = true ↔ c = ']' :=
  CharSet.contains_char_iff (by decide) (by decide) (by decide +kernel) (by decide +kernel) c

/-! ## Names -/

/-- Words of one character each, put together, are any word of such characters. -/
theorem exists_flatten_iff (chars : CharSet) (n : Nat) (w : List Char) :
    (∃ ws : List (List Char), ws.length ≤ n ∧ (∀ v ∈ ws, ∃ c, v = [c] ∧ chars.contains c = true) ∧
      ws.flatten = w) ↔ w.length ≤ n ∧ ∀ c ∈ w, chars.contains c = true := by
  constructor
  · rintro ⟨ws, hn, hws, rfl⟩
    have hone : ∀ v ∈ ws, v.length = 1 := by
      intro v hv
      obtain ⟨c, rfl, -⟩ := hws v hv
      rfl
    refine ⟨?_, fun c hc => ?_⟩
    · rwa [List.length_flatten, List.map_congr_left hone, List.map_const', List.sum_replicate_nat,
        Nat.mul_one]
    obtain ⟨v, hv, hc⟩ := List.mem_flatten.1 hc
    obtain ⟨d, rfl, hd⟩ := hws v hv
    exact List.mem_singleton.1 hc ▸ hd
  · rintro ⟨hn, hw⟩
    refine ⟨w.map fun c => [c], by simpa using hn, fun v hv => ?_, ?_⟩
    · obtain ⟨c, hc, rfl⟩ := List.mem_map.1 hv
      exact ⟨c, rfl, hw c hc⟩
    · rw [← List.flatMap_def, List.flatMap_singleton']

/-- One or more characters of field names. -/
theorem recognises_nameNode :
    nameNode.run.Recognises fun w => w ≠ [] ∧ ∀ c ∈ w, IsNameChar c := by
  intro s k
  simp only [← contains_nameChars_iff]
  -- One character is read before the others are iterated.
  have hset := recognises_set nameChars
  have hne : ¬∃ c, ([] : List Char) = [c] ∧ nameChars.contains c = true := by simp
  change ((Node.set nameChars).run s fun t =>
    Matcher.upTo (Node.set nameChars).run false (t.rest.length + 1) t k).isSome = true ↔ _
  rw [hset]
  constructor
  · rintro ⟨_, rest', hs, ⟨c, rfl, hc⟩, hk⟩
    obtain ⟨word, rest, hr, hw, hk⟩ := (hset.iterate hne _ _ _).1 hk
    rw [exists_flatten_iff] at hw
    refine ⟨c :: word, rest, ?_, ⟨by simp, ?_⟩, s.after_after [c] word rest rest' ▸ hk⟩
    · rw [hs, List.singleton_append, List.cons_append, ← hr]
      rfl
    · exact fun d hd => (List.mem_cons.1 hd).elim (fun e => e ▸ hc) (hw.2 d)
  · rintro ⟨word, rest, hs, ⟨hword, hw⟩, hk⟩
    obtain ⟨c, word, rfl⟩ := List.exists_cons_of_ne_nil hword
    refine ⟨[c], word ++ rest, hs, ⟨c, rfl, hw c List.mem_cons_self⟩,
      (hset.iterate hne _ _ _).2 ⟨word, rest, rfl, (exists_flatten_iff _ _ _).2 ⟨?_, ?_⟩, ?_⟩⟩
    · simp only [Spot.after, List.length_append]
      omega
    · exact fun d hd => hw d (List.mem_cons_of_mem _ hd)
    · rwa [Spot.after_after]

/-- A pair of brackets, or nothing. -/
theorem recognises_brackets : (Node.rep bracketsNode 0 (some 1) .greedy).run.Recognises fun w =>
    w = [] ∨ w = ['[', ']'] := by
  have hpair := (recognises_set openBracket).seq (recognises_set closeBracket)
  simp only [contains_openBracket_iff, contains_closeBracket_iff] at hpair
  refine (hpair.iterate (by simp) 1).congr fun w => ?_
  constructor
  · rintro ⟨ws, hn, hws, rfl⟩
    match ws, hn with
    | [], _ => exact .inl rfl
    | [v], _ =>
      obtain ⟨_, _, ⟨_, rfl, rfl⟩, ⟨_, rfl, rfl⟩, rfl⟩ := hws v List.mem_cons_self
      exact .inr rfl
  · rintro (rfl | rfl)
    · exact ⟨[], by simp, by simp, rfl⟩
    · refine ⟨[['[', ']']], by simp, fun v hv => ?_, rfl⟩
      rw [List.mem_singleton.1 hv]
      exact ⟨_, _, ⟨_, rfl, rfl⟩, ⟨_, rfl, rfl⟩, rfl⟩

/-- A pattern up to the end of a text is found if it recognises the text. -/
theorem isSome_run_textEnd (node : Node) {L : List Char → Prop} (h : node.run.Recognises L)
    (cs : List Char) :
    ((Node.seq node (.anchor .textEnd)).run (.start cs) some).isSome = true ↔ L cs := by
  simp only [Node.run]
  rw [h]
  constructor
  · rintro ⟨word, rest, hs, hw, hk⟩
    -- The end of the text is met only where nothing is left.
    cases rest with
    | nil =>
      rw [List.append_nil] at hs
      rwa [show cs = word from hs]
    | cons c rest => simp [Spot.meets, Spot.after] at hk
  · exact fun hw => ⟨cs, [], (List.append_nil cs).symm, hw, by simp [Spot.meets, Spot.after]⟩

/-- The names of fields given once: one or more characters. -/
theorem finds_key_iff (cs : List Char) :
    key.finds cs = true ↔ cs ≠ [] ∧ ∀ c ∈ cs, IsNameChar c := by
  rw [finds_textStart_iff rfl]
  exact isSome_run_textEnd nameNode recognises_nameNode cs

/-- The names of fields given several times: one or more characters, and perhaps a pair
    of brackets. -/
theorem finds_arrayKey_iff (cs : List Char) : arrayKey.finds cs = true ↔
    ∃ name, (name ≠ [] ∧ ∀ c ∈ name, IsNameChar c) ∧ (cs = name ∨ cs = name ++ ['[', ']']) := by
  rw [finds_textStart_iff rfl]
  -- The end of the text belongs to the brackets before it; here it follows both parts.
  have hrun := isSome_run_textEnd (.seq nameNode (.rep bracketsNode 0 (some 1) .greedy))
    (recognises_nameNode.seq recognises_brackets) cs
  refine Iff.trans Iff.rfl (hrun.trans ?_)
  constructor
  · rintro ⟨name, _, hname, rfl | rfl, rfl⟩
    · exact ⟨name, hname, .inl (List.append_nil name)⟩
    · exact ⟨name, hname, .inr rfl⟩
  · rintro ⟨name, hname, rfl | rfl⟩
    · exact ⟨cs, [], hname, .inl rfl, List.append_nil cs⟩
    · exact ⟨name, _, hname, .inr rfl, rfl⟩

/-- What is accepted for a single value is the name of a field. -/
theorem finds_key_toList_iff (name : String) : key.finds name.toList = true ↔ IsFieldName name :=
  finds_key_iff name.toList

/-- What is accepted for several values is the name of a field, or such a name with brackets
    after it. -/
theorem finds_arrayKey_toList_iff (key : String) : arrayKey.finds key.toList = true ↔
    IsFieldName key ∨ ∃ name, IsFieldName name ∧ key = name ++ "[]" := by
  rw [finds_arrayKey_iff]
  constructor
  · rintro ⟨cs, hcs, rfl | hkey⟩
    · exact .inl hcs
    · refine .inr ⟨.ofList cs, ?_, String.toList_inj.1 ?_⟩
      · rwa [IsFieldName, String.toList_ofList]
      · rw [hkey, String.toList_append, String.toList_ofList]
        rfl
  · rintro (hkey | ⟨name, hname, rfl⟩)
    · exact ⟨key.toList, hkey, .inl rfl⟩
    · exact ⟨name.toList, hname, .inr String.toList_append⟩

/-- No name that is accepted for a single value begins with a dollar sign. -/
theorem head_ne_dollar_of_key {cs : List Char} (h : key.finds cs = true) : cs.head? ≠ some '$' := by
  obtain ⟨hne, hchars⟩ := (finds_key_iff cs).1 h
  obtain ⟨c, cs, rfl⟩ := List.exists_cons_of_ne_nil hne
  rintro ⟨⟩
  exact absurd (hchars '$' List.mem_cons_self) (by decide)

/-- No name that is accepted for several values begins with a dollar sign. -/
theorem head_ne_dollar_of_arrayKey {cs : List Char} (h : arrayKey.finds cs = true) :
    cs.head? ≠ some '$' := by
  obtain ⟨name, hname, hcs⟩ := (finds_arrayKey_iff cs).1 h
  have hkey := head_ne_dollar_of_key ((finds_key_iff name).2 hname)
  rcases hcs with rfl | rfl
  · exact hkey
  · -- The brackets come after the first character.
    obtain ⟨c, name, rfl⟩ := List.exists_cons_of_ne_nil hname.1
    exact hkey

end QueryFilter.Pattern
