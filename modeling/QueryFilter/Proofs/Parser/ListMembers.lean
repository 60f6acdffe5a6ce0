import QueryFilter.Proofs.Entries
import QueryFilter.Proofs.Parser.ListFragment
import QueryFilter.Proofs.Parser.Sigil

/-!
# Values that lists collect

Under two tags the condition of a list collects values: those that are sought and those that
are excluded. A text adds to one of them at most (`Parser.member?`), at its end, and nothing
else changes what is collected. So what is found under such a tag are the values of the texts
that belong there, in the order of the texts, or nothing if there are none.

* `get?_addItem`, `get?_foldl_addItem`: one text, and then several;
* `get?_readList`: all texts of a list.
-/

namespace QueryFilter

/-- What is found where values are collected: a list of them, but nothing if there are none. -/
def collected (vs : List Value) : Option Value :=
  if vs = [] then none else some (.list vs)

/-- What is found where at least one value is collected. -/
@[simp] theorem collected_append_cons (vs : List Value) (v : Value) (ws : List Value) :
    collected (vs ++ v :: ws) = some (.list (vs ++ v :: ws)) := by
  simp [collected]

namespace Parser

variable {p : Parser} {tag : Tag} {s : String} {d : Document} {vs : List Value}

/-- The value that a text of a list adds to those under a tag. -/
def member? (p : Parser) (tag : Tag) (s : String) : Option Value :=
  match p.sigil? s with
  | none => if tag = .oneOf then some (p.readPlain s) else none
  | some .not => if tag = .noneOf then some (p.readPlain (afterSigil s).2) else none
  | some _ => none

/-- The values that the texts of a list add to those under a tag. -/
def members (p : Parser) (tag : Tag) (items : List Value) : List Value :=
  (items.filterMap Value.str?).filterMap (p.member? tag)

/-- A text without a listed sigil is a value that is sought. -/
theorem member?_of_sigil?_eq_none (h : p.sigil? s = none) :
    p.member? .oneOf s = some (p.readPlain s) := by
  rw [member?, h]
  rfl

/-- The values of a list in which a text stands that adds one. -/
theorem members_append_cons {v : Value} (h : p.member? tag s = some v) (pre post : List Value) :
    p.members tag (pre ++ .str s :: post) = p.members tag pre ++ v :: p.members tag post := by
  simp [members, Value.str?, h]

/-- A value goes to those that are collected under its tag. -/
theorem get?_appendUnder_self (v : Value) (h : d.get? tag.text = collected vs) :
    (appendUnder tag v d).get? tag.text = collected (vs ++ [v]) := by
  rw [appendUnder, Entries.modify, Entries.get?_assign_self, h, collected]
  by_cases hvs : vs = [] <;> simp [hvs, collected]

/-- It does not go to those under another tag. -/
theorem get?_appendUnder_of_ne {tag' : Tag} (v : Value) (h : tag.text ≠ tag'.text) :
    (appendUnder tag' v d).get? tag.text = d.get? tag.text := by
  rw [appendUnder, Entries.modify, Entries.get?_assign_of_ne d _ h]

/-- A text adds its value, if it has one, to those under a tag. -/
theorem get?_addItem (htag : tag ∈ [.oneOf, .noneOf]) (h : d.get? tag.text = collected vs)
    (s : String) : (p.addItem d s).get? tag.text = collected (vs ++ (p.member? tag s).toList) := by
  have htags : Tag.oneOf.text ≠ Tag.noneOf.text := by decide
  rcases addItem_eq_or p d s with ⟨hsigil, he⟩ | ⟨hsigil, he⟩ | ⟨sigil, hnot, hsigil, he⟩
  · rw [he, member?, hsigil]
    rcases List.mem_pair.1 htag with rfl | rfl
    · exact get?_appendUnder_self _ h
    · simpa using (get?_appendUnder_of_ne _ htags.symm).trans h
  · rw [he, member?, hsigil]
    rcases List.mem_pair.1 htag with rfl | rfl
    · simpa using (get?_appendUnder_of_ne _ htags).trans h
    · exact get?_appendUnder_self _ h
  · -- A bound or a pattern leaves alone what is collected.
    have hnone : p.member? tag s = none := by
      rw [member?, hsigil]
      cases sigil <;> first | rfl | exact absurd rfl hnot
    have hkeys : ∀ t ∈ [Tag.oneOf, .noneOf],
        t.text ∉ ["$gt", "$gte", "$lt", "$lte", "$regex", "$options"] := by decide
    have hmem : tag.text ∉ Entries.names (Token.ofSigil p.grammar true sigil (afterSigil s).1
        (afterSigil s).2).fragment :=
      fun hmem => hkeys tag htag (Token.names_fragment_ofSigil hnot _ _ hmem)
    rw [he, hnone, Entries.get?_update_of_not_mem d hmem, h]
    simp

/-- So do the texts of a list, one after the other. -/
theorem get?_foldl_addItem (htag : tag ∈ [.oneOf, .noneOf]) (h : d.get? tag.text = collected vs)
    (texts : List String) : (texts.foldl p.addItem d).get? tag.text =
      collected (vs ++ texts.filterMap (p.member? tag)) := by
  induction texts generalizing d vs with
  | nil => simpa using h
  | cons s texts ih =>
    have hs := get?_addItem (p := p) htag h s
    rw [List.foldl_cons, ih hs, List.append_assoc]
    cases hm : p.member? tag s <;> simp [hm]

/-- What a list collects under a tag are the values that its texts add there. -/
theorem get?_readList {items : List Value} (htag : tag ∈ [.oneOf, .noneOf])
    (h : p.readList items = some d) : d.get? tag.text = collected (p.members tag items) := by
  have hnil : Entries.get? ([] : Document) tag.text = collected [] := rfl
  obtain ⟨-, -, rfl⟩ := readList_eq_some_iff.1 h
  exact get?_foldl_addItem htag hnil _

end Parser

end QueryFilter
