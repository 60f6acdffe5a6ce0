import QueryFilter.Proofs.Parser.ListedOperators
import QueryFilter.Proofs.QueryString.Group

/-!
# What the texts of a list come to

Every text of a list says one thing (`Options.Says`): a value that is sought or excluded, a
bound, or a pattern. The condition of the list is made of these parts alone. Values are
collected under two tags, in order; of the bounds of one kind, and of the patterns, the last one
counts; and the tags stand in the order in which they come up first.

* `says_listPart`, `addItem_eq_addTo`: a text adds the part that it says, and nothing else;
* `names_foldl_addTo`, `get?_foldl_addTo`: the tags after several parts, and what they set;
* `aggregates_readList`: the condition of a list.
-/

namespace QueryFilter

/-- The kinds of bounds. -/
inductive Bound where
  | gt
  | gte
  | lt
  | lte
deriving DecidableEq

/-- The tag of a bound. -/
def Bound.tag : Bound → String
  | .gt => "$gt"
  | .gte => "$gte"
  | .lt => "$lt"
  | .lte => "$lte"

/-- What a text of a list says: a value that is sought, a value that is excluded, a bound, or a
    pattern. -/
inductive ListPart where
  | sought (v : Value)
  | excluded (v : Value)
  | bound (kind : Bound) (v : Value)
  | pattern (text : String)

namespace ListPart

/-- The value that is sought. -/
def sought? : ListPart → Option Value
  | .sought v => some v
  | _ => none

/-- The value that is excluded. -/
def excluded? : ListPart → Option Value
  | .excluded v => some v
  | _ => none

/-- The bound of a kind. -/
def bound? (kind : Bound) : ListPart → Option Value
  | .bound kind' v => if kind' = kind then some v else none
  | _ => none

/-- The pattern. -/
def pattern? : ListPart → Option String
  | .pattern text => some text
  | _ => none

/-- Whether a part is a bound or a pattern, which replaces an earlier one of its kind. -/
def replaces : ListPart → Bool
  | .bound _ _ => true
  | .pattern _ => true
  | _ => false

/-- What a bound or a pattern sets. -/
def entries : ListPart → Document
  | .bound kind v => [(kind.tag, v)]
  | .pattern text => [("$regex", .str text), ("$options", .str "i")]
  | _ => []

/-- The tags of a part. -/
def tags : ListPart → List String
  | .sought _ => ["$in"]
  | .excluded _ => ["$nin"]
  | part => part.entries.names

/-- The condition of a list with one more part. -/
def addTo (d : Document) : ListPart → Document
  | .sought v => Parser.appendUnder .oneOf v d
  | .excluded v => Parser.appendUnder .noneOf v d
  | part => d.update part.entries

end ListPart

/-- What follows the first character of a text: an equals sign if `inclusive`, and the body,
    which does not begin with an equals sign otherwise. -/
def HasBody (s : String) (inclusive : Bool) (body : String) : Prop :=
  ∃ c cs, s.toList = c :: cs ∧ if inclusive then cs = '=' :: body.toList
    else cs = body.toList ∧ cs.head? ≠ some '='

/-- What a text of a list says. Its first character counts if it is a sigil and one of the
    operators of the parser; otherwise the text as a whole is a value that is sought. -/
inductive Options.Says (o : Options) (s : String) : ListPart → Prop
  | sought (h : ∀ sigil, ¬o.BeginsWith s sigil) :
      Says o s (.sought (Scalar.read o.coercion s).toValue)
  | excluded {inclusive : Bool} {body : String} (h : o.BeginsWith s .not)
      (hbody : HasBody s inclusive body) :
      Says o s (.excluded (Scalar.read o.coercion body).toValue)
  | above {body : String} (h : o.BeginsWith s .greater) (hbody : HasBody s false body) :
      Says o s (.bound .gt (Scalar.read o.coercion body).toValue)
  | atLeast {body : String} (h : o.BeginsWith s .greater) (hbody : HasBody s true body) :
      Says o s (.bound .gte (Scalar.read o.coercion body).toValue)
  | below {body : String} (h : o.BeginsWith s .less) (hbody : HasBody s false body) :
      Says o s (.bound .lt (Scalar.read o.coercion body).toValue)
  | atMost {body : String} (h : o.BeginsWith s .less) (hbody : HasBody s true body) :
      Says o s (.bound .lte (Scalar.read o.coercion body).toValue)
  | startsWith {inclusive : Bool} {body : String} (h : o.BeginsWith s .startsWith)
      (hbody : HasBody s inclusive body) :
      Says o s (.pattern ("^" ++ Token.sanitize o.valuePattern body))
  | endsWith {inclusive : Bool} {body : String} (h : o.BeginsWith s .endsWith)
      (hbody : HasBody s inclusive body) :
      Says o s (.pattern (Token.sanitize o.valuePattern body ++ "$"))
  | contains {inclusive : Bool} {body : String} (h : o.BeginsWith s .contains)
      (hbody : HasBody s inclusive body) :
      Says o s (.pattern (Token.sanitize o.valuePattern body))

/-- How many values are collected under a tag. -/
def collectedCount (d : Document) (tag : String) : Nat :=
  match d.get? tag with
  | some (.list vs) => vs.length
  | _ => 0

/-- Whether a document is the condition of a list whose texts say the given parts. -/
structure Aggregates (parts : List ListPart) (d : Document) : Prop where
  sought : d.get? "$in" = collected (parts.filterMap ListPart.sought?)
  excluded : d.get? "$nin" = collected (parts.filterMap ListPart.excluded?)
  bound : ∀ kind : Bound, d.get? kind.tag = (parts.filterMap (ListPart.bound? kind)).getLast?
  pattern : d.get? "$regex" = (parts.filterMap ListPart.pattern?).getLast?.map .str
  options : d.get? "$options" = (parts.filterMap ListPart.pattern?).getLast?.map fun _ => .str "i"
  names : d.names = (parts.flatMap ListPart.tags).eraseDups
  names_subset : d.names ⊆ ["$in", "$nin", "$gt", "$gte", "$lt", "$lte", "$regex", "$options"]
  length : collectedCount d "$in" + collectedCount d "$nin" + parts.countP ListPart.replaces =
    parts.length

/-! ## Tags -/

/-- The names after an assignment, if they were the first occurrences in a list: those of the
    list with one more name. -/
theorem Entries.names_assign_eraseDups {α : Type} {es : Entries α} {names : List String}
    (h : es.names = names.eraseDups) (name : String) (v : α) :
    (es.assign name v).names = (names ++ [name]).eraseDups := by
  rw [eraseDups_concat]
  by_cases hmem : name ∈ names
  · rw [names_assign_of_mem v (h ▸ List.mem_eraseDups.2 hmem), if_pos hmem, List.append_nil, h]
  · rw [names_assign_of_not_mem v (h ▸ mt List.mem_eraseDups.1 hmem), if_neg hmem, h]

/-- So after an update. -/
theorem Entries.names_update_eraseDups {α : Type} {es : Entries α} {names : List String}
    (h : es.names = names.eraseDups) (es' : Entries α) :
    (es.update es').names = (names ++ es'.names).eraseDups := by
  induction es' generalizing es names with
  | nil => rwa [names_nil, List.append_nil]
  | cons e es' ih =>
    rw [update_cons, ih (names_assign_eraseDups h e.1 e.2), List.append_assoc]
    rfl

namespace ListPart

variable {d : Document} {names : List String}

/-- A part adds its tags after those that are there. -/
theorem names_addTo (h : d.names = names.eraseDups) (part : ListPart) :
    (part.addTo d).names = (names ++ part.tags).eraseDups := by
  cases part with
  | sought v => exact Entries.names_assign_eraseDups h "$in" _
  | excluded v => exact Entries.names_assign_eraseDups h "$nin" _
  | bound kind v => exact Entries.names_update_eraseDups h _
  | pattern text => exact Entries.names_update_eraseDups h _

/-- So do several parts, one after the other. -/
theorem names_foldl_addTo (h : d.names = names.eraseDups) (parts : List ListPart) :
    (parts.foldl addTo d).names = (names ++ parts.flatMap tags).eraseDups := by
  induction parts generalizing d names with
  | nil => rwa [List.flatMap_nil, List.append_nil]
  | cons part parts ih =>
    rw [List.foldl_cons, ih (names_addTo h part), List.flatMap_cons, List.append_assoc]

/-! ## Bounds and patterns -/

/-- What a part sets under a tag replaces what is there; values that are collected are not
    set. -/
theorem get?_addTo {tag : String} (htag : tag ∉ ["$in", "$nin"]) (part : ListPart) :
    (part.addTo d).get? tag = (part.entries.get? tag).or (d.get? tag) := by
  obtain ⟨hone, hnone⟩ : tag ≠ "$in" ∧ tag ≠ "$nin" := by simpa using htag
  cases part with
  | sought v => exact Entries.get?_assign_of_ne d _ hone
  | excluded v => exact Entries.get?_assign_of_ne d _ hnone
  | bound kind v => exact Entries.get?_update d (by simp [entries]) tag
  | pattern text => exact Entries.get?_update d (by simp [entries]) tag

/-- Of several parts that set something under a tag, the last one counts. -/
theorem get?_foldl_addTo {tag : String} (htag : tag ∉ ["$in", "$nin"]) (parts : List ListPart) :
    (parts.foldl addTo d).get? tag =
      ((parts.filterMap fun part => part.entries.get? tag).getLast?).or (d.get? tag) := by
  induction parts generalizing d with
  | nil => rfl
  | cons part parts ih =>
    rw [List.foldl_cons, ih, get?_addTo htag, List.filterMap_cons]
    cases part.entries.get? tag with
    | none => rfl
    | some v =>
      cases h : (parts.filterMap fun part => part.entries.get? tag).getLast? with
      | none => simp [List.getLast?_cons, h]
      | some w => simp [List.getLast?_cons, h]

/-- The bound that a part sets. -/
theorem get?_entries_bound (kind : Bound) (part : ListPart) :
    part.entries.get? kind.tag = part.bound? kind := by
  cases part with
  | sought v | excluded v => rfl
  | bound kind' v => cases kind' <;> cases kind <;> rfl
  | pattern text => cases kind <;> rfl

/-- The pattern that a part sets. -/
theorem get?_entries_regex (part : ListPart) :
    part.entries.get? "$regex" = part.pattern?.map .str := by
  cases part with
  | bound kind v => cases kind <;> rfl
  | sought v | excluded v | pattern text => rfl

/-- Its options. -/
theorem get?_entries_options (part : ListPart) :
    part.entries.get? "$options" = part.pattern?.map fun _ => .str "i" := by
  cases part with
  | bound kind v => cases kind <;> rfl
  | sought v | excluded v | pattern text => rfl

/-! ## All parts -/

/-- The tags of a part. -/
theorem tags_subset (part : ListPart) :
    part.tags ⊆ ["$in", "$nin", "$gt", "$gte", "$lt", "$lte", "$regex", "$options"] := by
  cases part with
  | bound kind v =>
    have hkinds : ∀ kind : Bound,
        kind.tag ∈ ["$in", "$nin", "$gt", "$gte", "$lt", "$lte", "$regex", "$options"] := by
      intro kind
      cases kind <;> decide
    exact List.cons_subset.2 ⟨hkinds kind, List.nil_subset _⟩
  | sought v | excluded v | pattern text => simp [tags, entries]

/-- Every part is collected, or it replaces an earlier one. -/
theorem length_sought_add_excluded_add (parts : List ListPart) :
    (parts.filterMap sought?).length + (parts.filterMap excluded?).length +
      parts.countP replaces = parts.length := by
  induction parts with
  | nil => rfl
  | cons part parts ih =>
    rw [List.filterMap_cons, List.filterMap_cons, List.countP_cons, List.length_cons]
    cases part <;> simp only [sought?, excluded?, replaces] <;> simp <;> omega

end ListPart

/-- How many values are collected. -/
theorem collectedCount_of_get? {d : Document} {tag : String} {vs : List Value}
    (h : d.get? tag = collected vs) : collectedCount d tag = vs.length := by
  rw [collectedCount, h, collected]
  cases vs <;> rfl

namespace Parser

variable {p : Parser} {d : Document}

/-- What a text of a list says, depending on its listed sigil. -/
def listPart (p : Parser) (s : String) : ListPart :=
  let inclusive := (afterSigil s).1
  let value := p.readPlain (afterSigil s).2
  let pattern := Token.sanitize p.options.valuePattern (afterSigil s).2
  match p.sigil? s with
  | none => .sought (p.readPlain s)
  | some .not => .excluded value
  | some .greater => .bound (if inclusive then .gte else .gt) value
  | some .less => .bound (if inclusive then .lte else .lt) value
  | some .startsWith => .pattern ("^" ++ pattern)
  | some .endsWith => .pattern (pattern ++ "$")
  | some .contains => .pattern pattern

/-- What follows the first character of a text. -/
theorem hasBody_afterSigil {s : String} {c : Char} (h : s.toList.head? = some c) :
    HasBody s (afterSigil s).1 (afterSigil s).2 := by
  obtain ⟨cs, hs⟩ := List.head?_eq_some_iff.1 h
  refine ⟨c, cs, hs, ?_⟩
  rw [afterSigil, hs, List.tail_cons, Token.takeInclusive.eq_def]
  split
  next => simp
  next hne =>
    simp only [Bool.false_eq_true, if_false, String.toList_ofList, true_and]
    intro he
    obtain ⟨rest, rfl⟩ := List.head?_eq_some_iff.1 he
    exact hne rest rfl

/-- A text without a listed sigil begins with none. -/
theorem not_beginsWith_of_sigil?_eq_none {s : String} (h : p.sigil? s = none) (sigil : Sigil) :
    ¬p.options.BeginsWith s sigil := by
  intro hbegins
  rw [sigil?_eq_some_iff.2 hbegins] at h
  simp at h

/-- A text says the part that its listed sigil asks for. -/
theorem says_listPart (p : Parser) (s : String) : p.options.Says s (p.listPart s) := by
  rw [listPart]
  cases h : p.sigil? s with
  | none => exact .sought (not_beginsWith_of_sigil?_eq_none h)
  | some sigil =>
    have hbegins : p.options.BeginsWith s sigil := sigil?_eq_some_iff.1 h
    have hbody := hasBody_afterSigil hbegins.1
    cases sigil with
    | not => exact .excluded hbegins hbody
    | greater =>
      cases hinclusive : (afterSigil s).1 with
      | false => exact .above hbegins (hinclusive ▸ hbody)
      | true => exact .atLeast hbegins (hinclusive ▸ hbody)
    | less =>
      cases hinclusive : (afterSigil s).1 with
      | false => exact .below hbegins (hinclusive ▸ hbody)
      | true => exact .atMost hbegins (hinclusive ▸ hbody)
    | startsWith => exact .startsWith hbegins hbody
    | endsWith => exact .endsWith hbegins hbody
    | contains => exact .contains hbegins hbody

/-- A text adds what it says to the condition of a list. -/
theorem addItem_eq_addTo (p : Parser) (d : Document) (s : String) :
    p.addItem d s = (p.listPart s).addTo d := by
  cases h : p.sigil? s with
  | none =>
    rw [addItem_of_sigil?_eq_none h, listPart, h]
    rfl
  | some sigil =>
    cases sigil with
    | not =>
      rw [addItem_of_not h, listPart, h]
      rfl
    | greater | less =>
      rw [addItem_of_sigil? h (by decide), listPart, h]
      cases (afterSigil s).1 <;> rfl
    | startsWith | endsWith | contains =>
      rw [addItem_of_sigil? h (by decide), listPart, h]
      rfl

/-- So do all texts. -/
theorem foldl_addItem_eq (p : Parser) (texts : List String) (d : Document) :
    texts.foldl p.addItem d = (texts.map p.listPart).foldl ListPart.addTo d := by
  induction texts generalizing d with
  | nil => rfl
  | cons s texts ih => rw [List.foldl_cons, ih, addItem_eq_addTo, List.map_cons, List.foldl_cons]

/-- The values that are sought are those of the texts that say so. -/
theorem members_oneOf (p : Parser) (items : List Value) : p.members .oneOf items =
    ((items.filterMap Value.str?).map p.listPart).filterMap ListPart.sought? := by
  rw [members, List.filterMap_map]
  congr 1
  funext s
  rw [Function.comp_apply, member?, listPart]
  cases p.sigil? s with
  | none => rfl
  | some sigil => cases sigil <;> rfl

/-- So are the values that are excluded. -/
theorem members_noneOf (p : Parser) (items : List Value) : p.members .noneOf items =
    ((items.filterMap Value.str?).map p.listPart).filterMap ListPart.excluded? := by
  rw [members, List.filterMap_map]
  congr 1
  funext s
  rw [Function.comp_apply, member?, listPart]
  cases p.sigil? s with
  | none => rfl
  | some sigil => cases sigil <;> rfl

/-! ## Lists -/

/-- The condition of several texts is what their parts come to. -/
theorem aggregates_foldl_addItem (p : Parser) (items : List Value) :
    Aggregates ((items.filterMap Value.str?).map p.listPart)
      ((items.filterMap Value.str?).foldl p.addItem []) := by
  have hnil : ∀ tag, Entries.get? ([] : Document) tag = none := fun _ => rfl
  have hone : Tag.oneOf ∈ [.oneOf, .noneOf] := by decide
  have hnone : Tag.noneOf ∈ [.oneOf, .noneOf] := by decide
  have hsought : ((items.filterMap Value.str?).foldl p.addItem []).get? "$in" =
      collected ([] ++ p.members .oneOf items) := get?_foldl_addItem hone (hnil _) _
  have hexcluded : ((items.filterMap Value.str?).foldl p.addItem []).get? "$nin" =
      collected ([] ++ p.members .noneOf items) := get?_foldl_addItem hnone (hnil _) _
  rw [members_oneOf, List.nil_append] at hsought
  rw [members_noneOf, List.nil_append] at hexcluded
  rw [foldl_addItem_eq] at hsought hexcluded ⊢
  generalize (items.filterMap Value.str?).map p.listPart = parts at hsought hexcluded ⊢
  have hnames : (parts.foldl ListPart.addTo []).names =
      ([] ++ parts.flatMap ListPart.tags).eraseDups := ListPart.names_foldl_addTo rfl parts
  refine ⟨hsought, hexcluded, fun kind => ?_, ?_, ?_, hnames, fun tag htag => ?_, ?_⟩
  · rw [ListPart.get?_foldl_addTo (by cases kind <;> decide), hnil, Option.or_none]
    simp only [ListPart.get?_entries_bound]
  · rw [ListPart.get?_foldl_addTo (by decide), hnil, Option.or_none, ← List.getLast?_map,
      List.map_filterMap]
    simp only [ListPart.get?_entries_regex]
  · rw [ListPart.get?_foldl_addTo (by decide), hnil, Option.or_none, ← List.getLast?_map,
      List.map_filterMap]
    simp only [ListPart.get?_entries_options]
  · rw [hnames, List.mem_eraseDups, List.nil_append, List.mem_flatMap] at htag
    obtain ⟨part, -, htag⟩ := htag
    exact part.tags_subset htag
  · rw [collectedCount_of_get? hsought, collectedCount_of_get? hexcluded]
    exact ListPart.length_sought_add_excluded_add parts

/-- If lists are enabled, then exactly the lists without a text have no condition. The texts of
    a list say one thing each; the condition of the list collects the values that are sought and
    those that are excluded, has the last bound of each kind and the last pattern, and nothing
    else, in the order in which the tags come up first. No text is lost. -/
theorem aggregates_readList (p : Parser) (hin : "$in" ∈ p.options.operators)
    (items : List Value) :
    ∃ parts, List.Forall₂ p.options.Says (items.filterMap Value.str?) parts ∧
      (p.readList items = none ↔ items.filterMap Value.str? = []) ∧
      ∀ d, p.readList items = some d → Aggregates parts d := by
  refine ⟨(items.filterMap Value.str?).map p.listPart, ?_, ?_, fun d hd => ?_⟩
  · rw [List.forall₂_map_right_iff, List.forall₂_same]
    exact fun s _ => p.says_listPart s
  · rw [filterMap_str?_eq_nil_iff, readList_eq_none_iff, or_iff_right (not_not_intro hin),
      not_exists]
  · obtain ⟨-, -, rfl⟩ := readList_eq_some_iff.1 hd
    exact aggregates_foldl_addItem p items

/-- Options that list some sigils, and a character that is none. -/
def someOperators : Options :=
  { Options.standard .standard with operators := ["!", "^", "$", ">", "x", "$in"] }

/-- Bounds and patterns that come up twice, empty bodies, a sigil that is not listed, a listed
    character that is no sigil, and items that are no texts. -/
def mixedItems : List Value :=
  [.str ">k", .null, .str "!b", .str "^c", .str "<d", .str "", .str "xe", .list [.str "!y"],
    .str ">=m", .str "!=", .str "$=f(", .str ">p"]

/-- The condition of such a list. -/
theorem aggregates_readList_mixed : "$in" ∈ someOperators.operators ∧ ∃ parts,
    List.Forall₂ someOperators.Says
      [">k", "!b", "^c", "<d", "", "xe", ">=m", "!=", "$=f(", ">p"] parts ∧
    Aggregates parts [("$gt", .str "p"), ("$nin", .list [.str "b", .str ""]),
      ("$regex", .str "f$"), ("$options", .str "i"),
      ("$in", .list [.str "<d", .str "", .str "xe"]), ("$gte", .str "m")] := by
  have hin : "$in" ∈ someOperators.operators := by decide
  have hread : (ofOptions someOperators).readList mixedItems =
      some [("$gt", .str "p"), ("$nin", .list [.str "b", .str ""]),
        ("$regex", .str "f$"), ("$options", .str "i"),
        ("$in", .list [.str "<d", .str "", .str "xe"]), ("$gte", .str "m")] := by
    decide +kernel
  obtain ⟨parts, hsays, -, haggregates⟩ :=
    aggregates_readList (ofOptions someOperators) hin mixedItems
  exact ⟨hin, parts, hsays, haggregates _ hread⟩

end Parser

end QueryFilter
