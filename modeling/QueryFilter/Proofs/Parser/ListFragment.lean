import QueryFilter.Parser
import QueryFilter.Proofs.Token

/-!
# Conditions of lists

How the condition of a list comes about: each text of the list adds a value that is sought or
excluded, or gives the list a bound or a pattern (`addItem_cases`). A text never takes an
entry away, and all entries stay what the grammar says of them.

* `isListFragment_addItem`, `isListFragment_readList`: one text, and then all of them;
* `readList_eq_some_iff`, `exists_readList_iff`, `readList_eq_none_iff`: the lists that have a
  condition are those with a text.
-/

namespace QueryFilter

/-! ## One more entry -/

/-- What is sought or excluded is always a list. -/
theorem IsListEntry.exists_items {key : String} {v : Value} (h : IsListEntry key v)
    (hkey : key ∈ ["$in", "$nin"]) : ∃ items, v = .list items ∧ ∀ w ∈ items, w.IsScalar := by
  cases h with
  | @collected key items hkey' hne hitems => exact ⟨items, rfl, hitems⟩
  | bound hkey' hv =>
    -- Bounds and patterns have other names.
    have hdisjoint : ∀ k ∈ ["$in", "$nin"], k ∉ ["$gt", "$gte", "$lt", "$lte"] := by decide
    exact absurd hkey' (hdisjoint _ hkey)
  | regex pattern => exact absurd hkey (by decide)
  | options => exact absurd hkey (by decide)

/-- An entry may be assigned that is no part of a pattern. -/
theorem IsListFragment.assign {d : Document} {key : String} {v : Value} (h : IsListFragment d)
    (hv : IsListEntry key v) (hkey : key ∈ ["$in", "$nin"] ++ ["$gt", "$gte", "$lt", "$lte"]) :
    IsListFragment (d.assign key v) := by
  have hnames : ∀ k ∈ ["$in", "$nin"] ++ ["$gt", "$gte", "$lt", "$lte"],
      "$regex" ≠ k ∧ "$options" ≠ k := by decide
  obtain ⟨hregex, hoptions⟩ := hnames key hkey
  refine ⟨Entries.nodup_names_assign key v h.nodup_names, fun e he => ?_, ?_⟩
  · rcases Entries.mem_assign he with rfl | he
    · exact hv
    · exact h.isListEntry e he
  · rw [Entries.mem_names_assign, Entries.mem_names_assign, h.options_iff]
    simp [hregex, hoptions]

/-- A pattern may be assigned together with its options. -/
theorem IsListFragment.assign_pattern {d : Document} (h : IsListFragment d) (pattern : String) :
    IsListFragment ((d.assign "$regex" (.str pattern)).assign "$options" (.str "i")) := by
  refine ⟨Entries.nodup_names_assign _ _ (Entries.nodup_names_assign _ _ h.nodup_names),
    fun e he => ?_, by simp⟩
  rcases Entries.mem_assign he with rfl | he
  · exact .options
  rcases Entries.mem_assign he with rfl | he
  · exact .regex pattern
  · exact h.isListEntry e he

namespace Parser

variable {p : Parser} {d : Document}

/-- A value that is sought or excluded goes to the others, if there are any. -/
theorem exists_appendUnder_eq (h : IsListFragment d) {tag : Tag} {v : Value}
    (htag : tag ∈ [.oneOf, .noneOf]) (hv : v.IsScalar) :
    ∃ items, items ≠ [] ∧ (∀ w ∈ items, w.IsScalar) ∧
      appendUnder tag v d = d.assign tag.text (.list items) := by
  rw [appendUnder, Entries.modify]
  cases hget : d.get? tag.text with
  | none => exact ⟨[v], by simp, by simpa using hv, rfl⟩
  | some w =>
    obtain ⟨items, rfl, hitems⟩ :=
      (h.isListEntry _ (Entries.mem_of_get? hget)).exists_items (Tag.text_mem_of_member htag)
    refine ⟨items ++ [v], by simp, fun w hw => ?_, rfl⟩
    rcases List.mem_append.1 hw with hw | hw
    · exact hitems w hw
    · rwa [List.mem_singleton.1 hw]

/-! ## One more text -/

/-- What a text does to the condition of a list. -/
theorem addItem_cases (p : Parser) (d : Document) (s : String) :
    (∃ tag v, tag ∈ [Tag.oneOf, .noneOf] ∧ v.IsScalar ∧ p.addItem d s = appendUnder tag v d) ∨
    (∃ tag v, tag ∈ [Tag.gt, .gte, .lt, .lte] ∧ v.IsScalar ∧
      p.addItem d s = d.assign tag.text v) ∨
    (∃ pattern, p.addItem d s =
      (d.assign "$regex" (.str pattern)).assign "$options" (.str "i")) := by
  rw [addItem]
  split
  next =>
    have hform := Token.read_form p.grammar true s
    rw [← readToken] at hform
    generalize p.readToken true s = t at hform ⊢
    -- A token of a list neither asks whether the field is there nor stands alone.
    cases hform with
    | @bound _ operator body tag v htag hv =>
      have hone : tag.text ≠ Tag.oneOf.text := by
        intro e
        exact absurd (e ▸ Tag.text_mem_of_bound htag) (by decide)
      have hnone : tag.text ≠ Tag.noneOf.text := by
        intro e
        exact absurd (e ▸ Tag.text_mem_of_bound htag) (by decide)
      refine .inr (.inl ⟨tag, v, htag, hv, ?_⟩)
      change (if tag.text = Tag.oneOf.text then _ else if tag.text = Tag.noneOf.text then _
        else d.assign tag.text v) = _
      rw [if_neg hone, if_neg hnone]
    | @member operator body tag v htag hv =>
      refine .inl ⟨tag, v, htag, hv, ?_⟩
      simp only [List.mem_cons, List.not_mem_nil, or_false] at htag
      rcases htag with rfl | rfl <;> rfl
    | pattern _ operator body pattern => exact .inr (.inr ⟨pattern, rfl⟩)
  next => exact .inl ⟨.oneOf, _, by decide, Scalar.isScalar_toValue _, rfl⟩

/-- A text keeps the condition of a list in the grammar. -/
theorem isListFragment_addItem (h : IsListFragment d) (s : String) :
    IsListFragment (p.addItem d s) := by
  rcases addItem_cases p d s with ⟨tag, v, htag, hv, he⟩ | ⟨tag, v, htag, hv, he⟩ | ⟨pattern, he⟩
  · obtain ⟨items, hne, hitems, happend⟩ := exists_appendUnder_eq h htag hv
    have hkey := Tag.text_mem_of_member htag
    rw [he, happend]
    exact h.assign (.collected hkey hne hitems) (List.mem_append_left _ hkey)
  · have hkey := Tag.text_mem_of_bound htag
    rw [he]
    exact h.assign (.bound hkey hv) (List.mem_append_right _ hkey)
  · rw [he]
    exact h.assign_pattern pattern

/-- After a text the condition is not empty. -/
theorem addItem_ne_nil (p : Parser) (d : Document) (s : String) : p.addItem d s ≠ [] := by
  -- All three ways end with an assignment.
  rcases addItem_cases p d s with ⟨tag, v, -, -, he⟩ | ⟨tag, v, -, -, he⟩ | ⟨pattern, he⟩
  · rw [he]
    exact Entries.assign_ne_nil d tag.text _
  · rw [he]
    exact Entries.assign_ne_nil d tag.text v
  · rw [he]
    exact Entries.assign_ne_nil _ "$options" _

/-! ## All texts -/

/-- So do all texts of a list. -/
theorem isListFragment_foldl (h : IsListFragment d) (texts : List String) :
    IsListFragment (texts.foldl p.addItem d) := by
  induction texts generalizing d with
  | nil => exact h
  | cons s texts ih => exact ih (isListFragment_addItem h s)

/-- The condition of texts is empty only if there are no texts. -/
theorem foldl_addItem_eq_nil_iff {texts : List String} :
    texts.foldl p.addItem [] = [] ↔ texts = [] := by
  -- One text is enough, since no later text empties the condition.
  have hne : ∀ (texts : List String) (d : Document), d ≠ [] → texts.foldl p.addItem d ≠ [] := by
    intro texts
    induction texts with
    | nil => exact fun d hd => hd
    | cons s texts ih => exact fun d _ => ih _ (addItem_ne_nil p d s)
  cases texts with
  | nil => simp
  | cons s texts => simpa using hne texts _ (addItem_ne_nil p [] s)

/-- A list has a condition if lists are enabled, and then that of its texts, which must not be
    empty. -/
theorem readList_eq_some_iff {items : List Value} : p.readList items = some d ↔
    "$in" ∈ p.options.operators ∧ d ≠ [] ∧ (items.filterMap Value.str?).foldl p.addItem [] = d := by
  rw [readList, Option.ite_none_right_eq_some, List.contains_iff_mem]
  simp only [Option.ite_none_left_eq_some, List.isEmpty_iff, Option.some.injEq]
  constructor
  · rintro ⟨hin, hne, rfl⟩
    exact ⟨hin, hne, rfl⟩
  · rintro ⟨hin, hne, rfl⟩
    exact ⟨hin, hne, rfl⟩

/-- The condition of a list is in the grammar. -/
theorem isListFragment_readList {items : List Value} (h : p.readList items = some d) :
    d ≠ [] ∧ IsListFragment d := by
  obtain ⟨-, hne, rfl⟩ := readList_eq_some_iff.1 h
  exact ⟨hne, isListFragment_foldl .nil _⟩

/-- Some item of a list is a text if and only if there are texts among the items. -/
theorem filterMap_str?_eq_nil_iff {items : List Value} :
    items.filterMap Value.str? = [] ↔ ¬∃ s, .str s ∈ items := by
  rw [List.filterMap_eq_nil_iff]
  constructor
  · rintro h ⟨s, hs⟩
    simpa [Value.str?] using h _ hs
  · intro h v hv
    cases v with
    | str s => exact absurd ⟨s, hv⟩ h
    | _ => rfl

/-- The lists that have a condition: lists are enabled, and a text is in it. -/
theorem exists_readList_iff {items : List Value} : (∃ d, p.readList items = some d) ↔
    "$in" ∈ p.options.operators ∧ ∃ s, .str s ∈ items := by
  have hnil : (items.filterMap Value.str?).foldl p.addItem [] = [] ↔ ¬∃ s, .str s ∈ items :=
    foldl_addItem_eq_nil_iff.trans filterMap_str?_eq_nil_iff
  simp only [readList_eq_some_iff]
  constructor
  · rintro ⟨d, hin, hne, rfl⟩
    exact ⟨hin, Classical.not_not.1 (mt hnil.2 hne)⟩
  · rintro ⟨hin, hs⟩
    exact ⟨_, hin, fun he => hnil.1 he hs, rfl⟩

/-- The lists that have no condition: lists are not enabled, or no text is in it. -/
theorem readList_eq_none_iff {items : List Value} : p.readList items = none ↔
    "$in" ∉ p.options.operators ∨ ∀ s, .str s ∉ items := by
  rw [Option.eq_none_iff_forall_ne_some, ← not_exists, exists_readList_iff,
    Decidable.not_and_iff_not_or_not, not_exists]

end Parser

end QueryFilter
