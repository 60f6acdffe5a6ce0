import QueryFilter.Proofs.Options.Custom
import QueryFilter.Proofs.Options.Names

/-!
# Documents of options

Which options a document says (`IsReading`), option by option: where none of the spellings of an
option is there it has its default, and otherwise it is what the document says under the first
spelling that is there (`Reads`). All names in the document must be spellings that are used.

* `check_eq_ok_iff`: options are read from a document exactly if the document says them;
* `IsReading.unique`: a document says one set of options at most.
-/

namespace QueryFilter.Options

/-! ## Fields -/

section Fields

variable {α β : Type} {doc : Entries α} {spellings : List String} {name : String} {a : α} {b : β}

/-- Whether a name is the spelling that an option has in a document: of its spellings the first
    one that is there. -/
def IsSpelling (doc : Entries α) (spellings : List String) (name : String) : Prop :=
  ∃ before after, spellings = before ++ name :: after ∧ name ∈ doc.names ∧
    ∀ other ∈ before, other ∉ doc.names

/-- What a document says of an option: a default, or what is said under its spelling. -/
inductive Reads (doc : Entries α) (spellings : List String) (default : β)
    (Says : α → β → Prop) : β → Prop
  | absent (h : ∀ name ∈ spellings, name ∉ doc.names) : Reads doc spellings default Says default
  | present {name : String} {a : α} {b : β} (hname : IsSpelling doc spellings name)
      (ha : doc.get? name = some a) (hb : Says a b) : Reads doc spellings default Says b

/-- Of an option with one spelling that is there a document says what it says under it. -/
theorem Reads.of_get? {default : β} {Says : α → β → Prop} (h : Reads doc [name] default Says b)
    (ha : doc.get? name = some a) : Says a b := by
  cases h with
  | absent habsent =>
    have hmem : name ∈ doc.names := Entries.mem_names.2 ⟨a, Entries.mem_of_get? ha⟩
    exact absurd hmem (habsent name List.mem_cons_self)
  | @present other _ _ hname ha' hb =>
    obtain ⟨before, after, hspellings, -⟩ := hname
    have hmem : other ∈ [name] := by simp [hspellings]
    obtain rfl := List.mem_singleton.1 hmem
    obtain rfl := Option.some.inj (ha.symm.trans ha')
    exact hb

/-- The entry of an option is the one under its spelling. -/
theorem find?_eq_some_iff : find? doc spellings = some (name, a) ↔
    IsSpelling doc spellings name ∧ doc.get? name = some a := by
  simp only [find?, List.findSome?_eq_some_iff, Option.map_eq_some_iff, Option.map_eq_none_iff,
    Prod.mk.injEq, Entries.get?_eq_none_iff]
  constructor
  · rintro ⟨before, _, after, rfl, ⟨a, ha, rfl, rfl⟩, hbefore⟩
    exact ⟨⟨before, after, rfl, Entries.mem_names.2 ⟨a, Entries.mem_of_get? ha⟩, hbefore⟩, ha⟩
  · rintro ⟨⟨before, after, rfl, -, hbefore⟩, ha⟩
    exact ⟨before, name, after, rfl, ⟨a, ha, rfl, rfl⟩, hbefore⟩

/-- An option has no entry if none of its spellings is there. -/
theorem find?_eq_none_iff :
    find? doc spellings = none ↔ ∀ name ∈ spellings, name ∉ doc.names := by
  simp only [find?, List.findSome?_eq_none_iff, Option.map_eq_none_iff, Entries.get?_eq_none_iff]

/-- A field is read as what the document says, if the check of its value reads what the value
    says. -/
theorem checkField_eq_ok_iff {default : β} {check : String → α → Checked β} {Says : α → β → Prop}
    (hcheck : ∀ name a b, check name a = .ok b ↔ Says a b) :
    checkField doc spellings default check = .ok b ↔ Reads doc spellings default Says b := by
  unfold checkField
  constructor
  · intro h
    split at h
    next name a hfind =>
      obtain ⟨hname, ha⟩ := find?_eq_some_iff.1 hfind
      exact .present hname ha ((hcheck name a b).1 h)
    next hfind =>
      cases h
      exact .absent (find?_eq_none_iff.1 hfind)
  · rintro (habsent | ⟨hname, ha, hb⟩)
    · rw [find?_eq_none_iff.2 habsent]
    · rw [find?_eq_some_iff.2 ⟨hname, ha⟩]
      exact (hcheck _ _ b).2 hb

/-- No name is unknown if each of them is the spelling of an option. -/
theorem unknownNames_eq_nil_iff {options : List (List String)} : unknownNames doc options = [] ↔
    ∀ name ∈ doc.names, ∃ spellings ∈ options, IsSpelling doc spellings name := by
  have hused : ∀ name ∈ doc.names, ∀ spellings, IsSpelling doc spellings name ↔
      (find? doc spellings).map Prod.fst = some name := by
    intro name hname spellings
    obtain ⟨a, ha⟩ := Option.ne_none_iff_exists'.1 (mt Entries.get?_eq_none_iff.1 (not_not.2 hname))
    simp [find?_eq_some_iff, ha]
  simp only [unknownNames, List.map_eq_nil_iff, List.filter_eq_nil_iff, Bool.not_eq_true',
    Bool.not_eq_false, List.contains_iff_mem, List.mem_filterMap]
  exact forall₂_congr fun name hname => by simp only [hused name hname]

end Fields

/-! ## Values of options -/

section Values

variable (name : String) (v : Value)

/-- Whether a value says some operators: one text, or a list of texts. -/
inductive IsOperators : Value → List String → Prop
  | one (op : String) : IsOperators (.str op) [op]
  | list (ops : List String) : IsOperators (.list (ops.map .str)) ops

/-- Operators are read from the values that say them. -/
theorem checkOperators_eq_ok_iff {ops : List String} :
    checkOperators name v = .ok ops ↔ IsOperators v ops := by
  constructor
  · intro h
    match v with
    | .str op =>
      cases h
      exact .one op
    | .list items =>
      rw [checkStrings_eq_ok_iff.1 h]
      exact .list ops
    | .null | .bool _ | .int _ | .num _ | .doc _ => cases h
  · rintro (op | ops)
    · rfl
    · exact checkStrings_eq_ok_iff.2 rfl

/-- Whether a value says some aliases: it is an object of texts, those that are empty left out. -/
inductive IsAliases : Value → Entries String → Prop
  | intro (targets : Entries String) :
      IsAliases (.doc (targets.map fun e => (e.1, .str e.2))) (targets.filter fun e => e.2 != "")

/-- Aliases are read from an object of texts. -/
theorem checkAliases_doc {entries : Document} {aliases : Entries String} :
    checkAliases name (.doc entries) = .ok aliases ↔ ∃ targets : Entries String,
      entries = targets.map (fun e => (e.1, .str e.2)) ∧
        targets.filter (fun e => e.2 != "") = aliases := by
  rw [checkAliases, map_eq_ok_iff]
  refine exists_congr fun targets => and_congr_left' ?_
  rw [Checked.collect_eq_ok_iff (f := id) (g := fun e => (e.1, .str e.2)), List.map_id]
  rintro ⟨k, v⟩ ⟨k', s⟩
  cases v <;> simp [Checked.flaw]

/-- Aliases are read from the values that say them. -/
theorem checkAliases_eq_ok_iff {aliases : Entries String} :
    checkAliases name v = .ok aliases ↔ IsAliases v aliases := by
  constructor
  · intro h
    match v with
    | .doc entries =>
      obtain ⟨targets, rfl, rfl⟩ := (checkAliases_doc name).1 h
      exact .intro targets
    | .null | .bool _ | .int _ | .num _ | .str _ | .list _ => cases h
  · rintro ⟨targets⟩
    exact (checkAliases_doc name).2 ⟨targets, rfl, rfl⟩

/-- Whether an option says a pattern: it is one, or the text of one. -/
inductive IsPattern (chars : CharNames) : RawOption → Pattern → Prop
  | made (p : Pattern) : IsPattern chars (.pattern p) p
  | text {s : String} {p : Pattern} (h : Pattern.read chars s = .ok p) :
      IsPattern chars (.plain (.str s)) p

/-- Patterns are read from the options that say them. -/
theorem checkPattern_eq_ok_iff (chars : CharNames) (raw : RawOption) {p : Pattern} :
    checkPattern chars name raw = .ok p ↔ IsPattern chars raw p := by
  constructor
  · intro h
    match raw with
    | .pattern p =>
      cases h
      exact .made p
    | .plain (.str s) =>
      rw [checkPattern] at h
      split at h
      next hread =>
        cases h
        exact .text hread
      next => cases h
    | .table _ | .plain .null | .plain (.bool _) | .plain (.int _) | .plain (.num _)
    | .plain (.list _) | .plain (.doc _) => cases h
  · rintro (_ | h)
    · rfl
    · rw [checkPattern, h]

/-- Flags are read from the values that say them. -/
theorem checkFlag_eq_ok_iff {b : Bool} : checkFlag name v = .ok b ↔ SaysBool v b := by
  rw [← readBool_eq_ok_iff, checkFlag]
  cases readBool v <;> simp [Checked.flaw]

/-- Whether a value says which texts are coerced: it is an object in which both flags may be set,
    and nothing else. -/
inductive IsCoercion (default : Coercion) : Value → Coercion → Prop
  | intro {entries : Document} {c : Coercion}
      (toBoolean : Reads entries ["toBoolean", "to_boolean"] default.toBoolean SaysBool c.toBoolean)
      (toNumber : Reads entries ["toNumber", "to_number"] default.toNumber SaysBool c.toNumber)
      (known : ∀ name ∈ entries.names, ∃ spellings ∈ coercionNames,
        IsSpelling entries spellings name) :
      IsCoercion default (.doc entries) c

/-- Coercions are read from the values that say them. -/
theorem checkCoercionOption_eq_ok_iff (default c : Coercion) :
    checkCoercionOption default name v = .ok c ↔ IsCoercion default v c := by
  have hdoc : ∀ entries, checkCoercion default entries = .ok c ↔
      IsCoercion default (.doc entries) c := by
    intro entries
    simp only [checkCoercion, Checked.andAlso_eq_ok_iff, Checked.and_eq_ok_iff, Checked.start,
      unknownNames_eq_nil_iff, checkField_eq_ok_iff fun name v _ => checkFlag_eq_ok_iff name v]
    constructor
    · rintro ⟨⟨_, n, ⟨_, b, ⟨⟩, hb, rfl⟩, hn, rfl⟩, hknown⟩
      exact .intro hb hn hknown
    · rintro ⟨hb, hn, hknown⟩
      exact ⟨⟨_, _, ⟨_, _, rfl, hb, rfl⟩, hn, rfl⟩, hknown⟩
  have hvalue :
      checkCoercionOption default name v = .ok c ↔ checkCoercionValue default v = .ok c := by
    rw [checkCoercionOption]
    cases checkCoercionValue default v <;> simp
  rw [hvalue]
  match v with
  | .doc entries => exact hdoc entries
  | .null | .bool _ | .int _ | .num _ | .str _ | .list _ =>
    exact ⟨nofun, nofun⟩

end Values

/-! ## Documents -/

/-- The names of the patterns, the preferred spelling first. -/
def patternNames : List (List String) :=
  [["keyRegex", "key_regex"], ["valRegex", "val_regex"], ["arrRegex", "arr_regex"]]

variable {chars : CharNames} {settings : Settings} {doc : Entries RawOption} {o : Options}

/-- Whether a document says some options: each of them is read under its spelling or has its
    default, and all names in the document are spellings of options. -/
structure IsReading (chars : CharNames) (settings : Settings) (doc : Entries RawOption)
    (o : Options) : Prop where
  operators : Reads doc ["ops", "operators"] standardOperators
    (fun raw => IsOperators raw.value) o.operators
  aliases : Reads doc ["alias"] [] (fun raw => IsAliases raw.value) o.aliases
  blacklist : Reads doc ["blacklist"] []
    (fun raw names => ∃ listed, Listing raw.value listed ∧ IsSetOf listed names) o.blacklist
  whitelist : Reads doc ["whitelist"] []
    (fun raw names => ∃ listed, Listing raw.value listed ∧ IsSetOf listed names) o.whitelist
  custom : Reads doc ["custom"] []
    (fun raw cs => ∃ entries, raw.settings? = some entries ∧
      List.Forall₂ (fun e c => c.1 = e.1 ∧ AsksFor e.1 e.2 c.2) entries cs) o.custom
  coercion : Reads doc ["string"] settings.coercion
    (fun raw => IsCoercion settings.coercion raw.value) o.coercion
  keyPattern : Reads doc ["keyRegex", "key_regex"] .key
    (IsPattern chars) o.keyPattern
  valuePattern : Reads doc ["valRegex", "val_regex"] .unsafeChars
    (IsPattern chars) o.valuePattern
  arrayPattern : Reads doc ["arrRegex", "arr_regex"] .arrayKey
    (IsPattern chars) o.arrayPattern
  known : ∀ name ∈ doc.names, ∃ spellings ∈ names, IsSpelling doc spellings name

/-- Options are read from a document exactly if the document says them. -/
theorem check_eq_ok_iff : check chars settings doc = .ok o ↔ IsReading chars settings doc o := by
  have hall : check chars settings doc = .ok o ↔ checkAll chars settings doc = .ok o := by
    rw [check]
    cases checkAll chars settings doc <;> simp [Except.mapError]
  rw [hall]
  simp only [checkAll, standard, Checked.andAlso_eq_ok_iff, Checked.and_eq_ok_iff, Checked.start,
    unknownNames_eq_nil_iff,
    checkField_eq_ok_iff fun name (raw : RawOption) _ => checkOperators_eq_ok_iff name raw.value,
    checkField_eq_ok_iff fun name (raw : RawOption) _ => checkAliases_eq_ok_iff name raw.value,
    checkField_eq_ok_iff fun name (raw : RawOption) _ => checkNames_eq_ok_iff name raw.value,
    checkField_eq_ok_iff fun name raw _ => checkBuilders_eq_ok_iff name raw,
    checkField_eq_ok_iff fun name (raw : RawOption) c =>
      checkCoercionOption_eq_ok_iff name raw.value settings.coercion c,
    checkField_eq_ok_iff fun name raw _ => checkPattern_eq_ok_iff name chars raw]
  constructor
  · rintro ⟨⟨_, _, ⟨_, _, ⟨_, _, ⟨_, _, ⟨_, _, ⟨_, _, ⟨_, _, ⟨_, _, ⟨_, _, ⟨⟩, hoperators, rfl⟩,
      haliases, rfl⟩, hblacklist, rfl⟩, hwhitelist, rfl⟩, hcustom, rfl⟩, hcoercion, rfl⟩, hkey, rfl⟩,
      hvalue, rfl⟩, harray, rfl⟩, hknown⟩
    exact ⟨hoperators, haliases, hblacklist, hwhitelist, hcustom, hcoercion, hkey, hvalue, harray,
      hknown⟩
  · rintro ⟨hoperators, haliases, hblacklist, hwhitelist, hcustom, hcoercion, hkey, hvalue, harray,
      hknown⟩
    exact ⟨⟨_, _, ⟨_, _, ⟨_, _, ⟨_, _, ⟨_, _, ⟨_, _, ⟨_, _, ⟨_, _, ⟨_, _, rfl, hoperators, rfl⟩,
      haliases, rfl⟩, hblacklist, rfl⟩, hwhitelist, rfl⟩, hcustom, rfl⟩, hcoercion, rfl⟩, hkey, rfl⟩,
      hvalue, rfl⟩, harray, rfl⟩, hknown⟩

/-- A document says one set of options at most. -/
theorem IsReading.unique {o' : Options} (h : IsReading chars settings doc o)
    (h' : IsReading chars settings doc o') : o = o' :=
  Except.ok.inj ((check_eq_ok_iff.2 h).symm.trans (check_eq_ok_iff.2 h'))

end QueryFilter.Options
