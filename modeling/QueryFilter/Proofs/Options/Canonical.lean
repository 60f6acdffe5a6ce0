import QueryFilter.Proofs.Entries
import QueryFilter.Proofs.Options.Reading
import Mathlib.Data.Set.List

/-!
# Canonical options

Options that were read have a canonical form (`IsCanonical`): no alias has an empty target, sets of
names are sorted, and a builder is one that the name of its entry may ask for. In this form they are
written to a document again (`Options.document`), from which the same options are read, whatever the
defaults are. Patterns are not written; they are those of the other entries of the document.

What is read does not depend on the form in which a document says it (`SaysTheSame`): on the kind
of value that lists some names, on their order and repetitions, or on aliases to nothing.

* `isCanonical_of_isReading`: what is read is canonical;
* `isReading_document`: canonical options are read from their document;
* `exists_checkNames`: the names that are listed decide what is read;
* `SaysTheSame.isReading_iff`: the same options are read from documents that say the same.
-/

namespace QueryFilter

/-- A builder as an entry of a table: itself, or the output field of a built-in one. -/
def BuilderChoice.setting : BuilderChoice → BuilderSetting
  | .given b => .builder b
  | .builtIn _ field => .value (.str field)

/-- The object that sets both coercions. -/
def Coercion.flags (c : Coercion) : Value :=
  .doc [("to_boolean", .bool c.toBoolean), ("to_number", .bool c.toNumber)]

namespace Options

/-! ## Entries of options -/

section Fields

variable {α β : Type} {doc doc' : Entries α} {spellings : List String} {name : String}
  {default b : β} {Says : α → β → Prop}

/-- What is said of an option that may be left out. -/
inductive Gives (default : β) (Says : α → β → Prop) : Option α → β → Prop
  | absent : Gives default Says none default
  | given {a : α} {b : β} (h : Says a b) : Gives default Says (some a) b

/-- Nothing is said of an option that is left out, and so it has its default. -/
@[simp] theorem gives_none_iff : Gives default Says none b ↔ b = default := by
  constructor
  · rintro ⟨⟩
    rfl
  · rintro rfl
    exact .absent

/-- What is said of an option that is there. -/
@[simp] theorem gives_some_iff {a : α} : Gives default Says (some a) b ↔ Says a b := by
  constructor
  · rintro (_ | h)
    exact h
  · exact .given

/-- An option is read from its entry. -/
theorem reads_iff_gives : Reads doc spellings default Says b ↔
    Gives default Says ((find? doc spellings).map Prod.snd) b := by
  constructor
  · rintro (habsent | ⟨hname, ha, hb⟩)
    · rw [find?_eq_none_iff.2 habsent]
      exact .absent
    · rw [find?_eq_some_iff.2 ⟨hname, ha⟩]
      exact .given hb
  · intro h
    cases hfind : find? doc spellings with
    | none =>
      rw [hfind] at h
      cases h
      exact .absent (find?_eq_none_iff.1 hfind)
    | some e =>
      obtain ⟨hname, ha⟩ := find?_eq_some_iff.1 hfind
      rw [hfind] at h
      cases h with
      | given hb => exact .present hname ha hb

/-- The entry of an option with one spelling is the one under it. -/
theorem reads_singleton_iff :
    Reads doc [name] default Says b ↔ Gives default Says (doc.get? name) b := by
  have hentry : (find? doc [name]).map Prod.snd = doc.get? name := by
    cases h : doc.get? name <;> simp [find?, h]
  rw [reads_iff_gives, hentry]

/-- An option with one spelling is read from the entry under it. -/
theorem reads_of_get? {a : α} (h : doc.get? name = some a) :
    Reads doc [name] default Says b ↔ Says a b := by
  rw [reads_singleton_iff, h, gives_some_iff]

/-- An option without an entry has its default. -/
theorem reads_of_find?_eq_none (h : find? doc spellings = none) :
    Reads doc spellings default Says b ↔ b = default := by
  rw [reads_iff_gives, h, Option.map_none, gives_none_iff]

/-- What is read of an option has the properties of its default and of all that can be said. -/
theorem Reads.induct {P : β → Prop} (h : Reads doc spellings default Says b) (hdefault : P default)
    (hgiven : ∀ a b, Says a b → P b) : P b := by
  cases h with
  | absent => exact hdefault
  | present _ _ hb => exact hgiven _ _ hb

/-- A name is in both of two documents that agree on it. -/
theorem mem_names_congr (h : doc.get? name = doc'.get? name) :
    name ∈ doc.names ↔ name ∈ doc'.names := by
  rw [← not_iff_not, ← Entries.get?_eq_none_iff, h, Entries.get?_eq_none_iff]

/-- Documents that agree on the spellings of an option have the same entry of it. -/
theorem find?_congr (h : ∀ other ∈ spellings, doc.get? other = doc'.get? other) :
    find? doc spellings = find? doc' spellings := by
  induction spellings with
  | nil => rfl
  | cons name others ih =>
    simp only [find?, List.findSome?_cons, h name List.mem_cons_self] at ih ⊢
    rw [ih fun other hother => h other (List.mem_cons_of_mem name hother)]

/-- The same is read of an option from documents that agree on its spellings. -/
theorem Reads.congr (h : ∀ other ∈ spellings, doc.get? other = doc'.get? other)
    (hread : Reads doc spellings default Says b) : Reads doc' spellings default Says b := by
  rw [reads_iff_gives, ← find?_congr h, ← reads_iff_gives]
  exact hread

/-- An option has the same spelling in documents that agree on all its spellings. -/
theorem IsSpelling.congr (h : ∀ other ∈ spellings, doc.get? other = doc'.get? other)
    (hname : IsSpelling doc spellings name) : IsSpelling doc' spellings name := by
  have hmem : name ∈ doc.names := by
    obtain ⟨-, -, -, hmem, -⟩ := hname
    exact hmem
  obtain ⟨a, ha⟩ := Option.ne_none_iff_exists'.1 (mt Entries.get?_eq_none_iff.1 (not_not.2 hmem))
  have hfind := find?_eq_some_iff.2 ⟨hname, ha⟩
  rw [find?_congr h] at hfind
  exact (find?_eq_some_iff.1 hfind).1

/-- A spelling is one of the spellings. -/
theorem IsSpelling.mem (hname : IsSpelling doc spellings name) : name ∈ spellings := by
  obtain ⟨before, after, rfl, -⟩ := hname
  simp

/-- An option with one spelling has it if it is there. -/
theorem isSpelling_singleton (h : name ∈ doc.names) : IsSpelling doc [name] name :=
  ⟨[], [], rfl, h, fun _ => (absurd · List.not_mem_nil)⟩

end Fields

/-! ## Canonical documents -/

/-- The entries of a document that say patterns. -/
def patternEntries (doc : Entries RawOption) : Entries RawOption :=
  doc.filter fun e => e.1 ∈ patternNames.flatten

/-- The document of some options, without their patterns. -/
def document (o : Options) : Entries RawOption :=
  [("operators", .plain (.list (o.operators.map .str))),
    ("alias", .plain (.doc (o.aliases.map fun e => (e.1, .str e.2)))),
    ("blacklist", .plain (.list (o.blacklist.map .str))),
    ("whitelist", .plain (.list (o.whitelist.map .str))),
    ("custom", .table (o.custom.map fun e => (e.1, e.2.setting))),
    ("string", .plain o.coercion.flags)]

/-- Options with the standard patterns. -/
def withStandardPatterns (o : Options) : Options :=
  { o with keyPattern := .key, valuePattern := .unsafeChars, arrayPattern := .arrayKey }

/-- Whether options are in canonical form. -/
structure IsCanonical (o : Options) : Prop where
  aliases : ∀ e ∈ o.aliases, e.2 ≠ ""
  blacklist : o.blacklist.Pairwise (· < ·)
  whitelist : o.whitelist.Pairwise (· < ·)
  custom : ∀ e ∈ o.custom, AsksFor e.1 e.2.setting e.2

/-- Whether a document says the patterns of some options, and nothing else. -/
structure SaysPatterns (chars : CharNames) (doc : Entries RawOption) (o : Options) : Prop where
  keyPattern : Reads doc ["keyRegex", "key_regex"] .key
    (IsPattern chars) o.keyPattern
  valuePattern : Reads doc ["valRegex", "val_regex"] .unsafeChars
    (IsPattern chars) o.valuePattern
  arrayPattern : Reads doc ["arrRegex", "arr_regex"] .arrayKey
    (IsPattern chars) o.arrayPattern
  known : ∀ name ∈ doc.names, ∃ spellings ∈ patternNames, IsSpelling doc spellings name

variable {chars : CharNames} {settings settings' : Settings} {doc doc' rest : Entries RawOption}
  {o : Options}

/-- A builder that an entry asks for is asked for again by its own entry. -/
theorem AsksFor.setting {name : String} {s : BuilderSetting} {c : BuilderChoice}
    (h : AsksFor name s c) : AsksFor name c.setting c := by
  cases h with
  | given b => exact .given b
  | builtIn hname hfield => exact .builtIn hname hfield

/-- All builders that a table asks for are asked for by their own entries. -/
theorem asksFor_setting_of_forall₂ {entries : Entries BuilderSetting} {cs : Entries BuilderChoice}
    (h : List.Forall₂ (fun e c => c.1 = e.1 ∧ AsksFor e.1 e.2 c.2) entries cs) :
    ∀ c ∈ cs, AsksFor c.1 c.2.setting c.2 := by
  induction h with
  | nil => exact fun _ => (absurd · List.not_mem_nil)
  | cons hc _ ih => exact List.forall_mem_cons.2 ⟨hc.1 ▸ hc.2.setting, ih⟩

/-- No alias that is read has an empty target. -/
theorem IsAliases.target_ne_empty {v : Value} {aliases : Entries String} (h : IsAliases v aliases) :
    ∀ e ∈ aliases, e.2 ≠ "" := by
  obtain ⟨targets⟩ := h
  intro e he
  simpa using (List.mem_filter.1 he).2

/-- What is read is in canonical form. -/
theorem isCanonical_of_isReading (h : IsReading chars settings doc o) : o.IsCanonical where
  aliases := h.aliases.induct (P := fun aliases => ∀ e ∈ aliases, e.2 ≠ "")
    (fun _ => (absurd · List.not_mem_nil)) fun _ _ => IsAliases.target_ne_empty
  blacklist := h.blacklist.induct .nil fun _ _ ⟨_, _, hset⟩ => hset.sorted
  whitelist := h.whitelist.induct .nil fun _ _ ⟨_, _, hset⟩ => hset.sorted
  custom := h.custom.induct (P := fun cs => ∀ c ∈ cs, AsksFor c.1 c.2.setting c.2)
    (fun _ => (absurd · List.not_mem_nil)) fun _ _ ⟨_, _, hall⟩ => asksFor_setting_of_forall₂ hall

/-- Both coercions are read from the object that sets them. -/
theorem isCoercion_flags (default c : Coercion) : IsCoercion default c.flags c :=
  (checkCoercionOption_eq_ok_iff "string" c.flags default c).1 rfl

/-- Aliases without empty targets are read from an object of them. -/
theorem isAliases_doc {aliases : Entries String} (h : ∀ e ∈ aliases, e.2 ≠ "") :
    IsAliases (.doc (aliases.map fun e => (e.1, .str e.2))) aliases := by
  have hfilter : aliases.filter (fun e => e.2 != "") = aliases :=
    List.filter_eq_self.2 fun e he => bne_iff_ne.2 (h e he)
  simpa only [hfilter] using IsAliases.intro aliases

/-- The document of options and the document of their patterns agree on the patterns. -/
theorem get?_document_append {name : String} (hname : name ∈ patternNames.flatten) :
    rest.get? name = Entries.get? (o.document ++ rest) name := by
  have hnone : o.document.get? name = none := by
    rw [Entries.get?_eq_none_iff]
    exact (by decide : ∀ name ∈ patternNames.flatten,
      name ∉ ["operators", "alias", "blacklist", "whitelist", "custom", "string"]) name hname
  rw [Entries.get?_append, hnone, Option.none_or]

/-- Options in canonical form are read from their document, together with their patterns. -/
theorem isReading_document (h : o.IsCanonical) (hrest : SaysPatterns chars rest o) :
    IsReading chars settings (o.document ++ rest) o := by
  have hmem : ∀ name ∈ o.document.names, name ∈ Entries.names (o.document ++ rest) := by
    intro name hname
    rw [Entries.names_append]
    exact List.mem_append_left _ hname
  have hpatterns : ∀ name ∈ rest.names, name ∈ patternNames.flatten := fun name hname => by
    obtain ⟨spellings, hspellings, hspelling⟩ := hrest.known name hname
    exact List.mem_flatten.2 ⟨spellings, hspellings, hspelling.mem⟩
  have hoperators : IsSpelling (o.document ++ rest) ["ops", "operators"] "operators" := by
    refine ⟨["ops"], [], rfl, hmem _ (by simp [document]), fun other hother => ?_⟩
    rw [List.mem_singleton.1 hother, Entries.names_append, List.mem_append, not_or]
    exact ⟨by simp [document], fun hops => absurd (hpatterns _ hops) (by decide)⟩
  refine ⟨.present hoperators rfl (.list o.operators), reads_singleton_iff.2 ?_,
    reads_singleton_iff.2 ?_, reads_singleton_iff.2 ?_, reads_singleton_iff.2 ?_,
    reads_singleton_iff.2 ?_, hrest.keyPattern.congr ?_, hrest.valuePattern.congr ?_,
    hrest.arrayPattern.congr ?_, ?_⟩
  · exact .given (isAliases_doc h.aliases)
  · exact .given ⟨_, .list o.blacklist, h.blacklist, fun _ => .rfl⟩
  · exact .given ⟨_, .list o.whitelist, h.whitelist, fun _ => .rfl⟩
  · refine .given ⟨_, rfl, List.forall₂_map_left_iff.2 (List.forall₂_same.2 fun c hc => ?_)⟩
    exact ⟨rfl, h.custom c hc⟩
  · exact .given (isCoercion_flags _ _)
  · exact fun name hname => get?_document_append (by revert name; decide)
  · exact fun name hname => get?_document_append (by revert name; decide)
  · exact fun name hname => get?_document_append (by revert name; decide)
  · intro name hname
    rw [Entries.names_append, List.mem_append] at hname
    rcases hname with hname | hname
    · by_cases hops : name = "operators"
      · exact ⟨_, List.mem_cons_self, hops ▸ hoperators⟩
      · have hsingle : [name] ∈ names :=
          (by decide : ∀ name ∈ ["operators", "alias", "blacklist", "whitelist", "custom",
            "string"], name ≠ "operators" → [name] ∈ names) name hname hops
        exact ⟨[name], hsingle, isSpelling_singleton (hmem name hname)⟩
    · obtain ⟨spellings, hspellings, hspelling⟩ := hrest.known name hname
      refine ⟨spellings, ?_, hspelling.congr fun other hother => get?_document_append ?_⟩
      · exact (by decide : ∀ spellings ∈ patternNames, spellings ∈ names) _ hspellings
      · exact List.mem_flatten.2 ⟨spellings, hspellings, hother⟩

/-- Without entries there are the standard patterns. -/
theorem saysPatterns_nil (o : Options) : SaysPatterns chars [] o.withStandardPatterns where
  keyPattern := .absent fun _ _ => List.not_mem_nil
  valuePattern := .absent fun _ _ => List.not_mem_nil
  arrayPattern := .absent fun _ _ => List.not_mem_nil
  known := fun _ => (absurd · List.not_mem_nil)

/-- The entries that say patterns say those that are read. -/
theorem saysPatterns_patternEntries (h : IsReading chars settings doc o) :
    SaysPatterns chars (patternEntries doc) o := by
  have hagree : ∀ spellings ∈ patternNames, ∀ name ∈ spellings,
      doc.get? name = (patternEntries doc).get? name := fun spellings hspellings name hname =>
    (Entries.get?_filter_names doc (p := fun k => decide (k ∈ patternNames.flatten))
      (decide_eq_true (List.mem_flatten.2 ⟨spellings, hspellings, hname⟩))).symm
  refine ⟨h.keyPattern.congr (hagree _ (by decide)), h.valuePattern.congr (hagree _ (by decide)),
    h.arrayPattern.congr (hagree _ (by decide)), fun name hname => ?_⟩
  obtain ⟨raw, hraw⟩ := Entries.mem_names.1 hname
  obtain ⟨hentry, hpattern⟩ := List.mem_filter.1 hraw
  obtain ⟨spellings, hspellings, hspelling⟩ := h.known name (Entries.mem_names.2 ⟨raw, hentry⟩)
  -- The option is one of the patterns, since one of its spellings is.
  have hmem : spellings ∈ patternNames :=
    (by decide : ∀ spellings ∈ names, ∀ name ∈ spellings, name ∈ patternNames.flatten →
      spellings ∈ patternNames) spellings hspellings name hspelling.mem (of_decide_eq_true hpattern)
  exact ⟨spellings, hmem, hspelling.congr (hagree spellings hmem)⟩

/-! ## Documents that say the same -/

/-- The names that an option lists which may be left out. -/
inductive Lists : Option RawOption → List String → Prop
  | absent : Lists none []
  | given {raw : RawOption} {listed : List String} (h : Listing raw.value listed) :
      Lists (some raw) listed

/-- Whether an option lists the same names in two documents, or is the same. -/
inductive SameNames : Option RawOption → Option RawOption → Prop
  | refl (given : Option RawOption) : SameNames given given
  | listed {given given' : Option RawOption} {listed listed' : List String}
      (h : Lists given listed) (h' : Lists given' listed')
      (hmem : ∀ name, name ∈ listed ↔ name ∈ listed') : SameNames given given'

/-- The entries of aliases, which may be left out. -/
inductive Maps : Option RawOption → Document → Prop
  | absent : Maps none []
  | given {raw : RawOption} {entries : Document} (h : raw.value = .doc entries) :
      Maps (some raw) entries

/-- Whether the aliases of two documents are the same but for those to nothing. -/
inductive SameAliases : Option RawOption → Option RawOption → Prop
  | refl (given : Option RawOption) : SameAliases given given
  | mapped {given given' : Option RawOption} {entries entries' : Document}
      (h : Maps given entries) (h' : Maps given' entries')
      (htargets : entries.filter (fun e => e.2 ≠ .str "") =
        entries'.filter (fun e => e.2 ≠ .str "")) :
      SameAliases given given'

/-- Whether two documents differ only in the form in which they list names, and in aliases to
    nothing. -/
structure SaysTheSame (doc doc' : Entries RawOption) : Prop where
  aliases : SameAliases (doc.get? "alias") (doc'.get? "alias")
  blacklist : SameNames (doc.get? "blacklist") (doc'.get? "blacklist")
  whitelist : SameNames (doc.get? "whitelist") (doc'.get? "whitelist")
  others : ∀ name, name ∉ ["alias", "blacklist", "whitelist"] → doc.get? name = doc'.get? name

variable {given given' : Option RawOption} {listed names : List String} {entries : Document}
  {aliases : Entries String}

/-- A set of names is read from an option that lists them. -/
theorem Lists.gives_iff (h : Lists given listed) :
    Gives [] (fun raw names => ∃ listed, Listing raw.value listed ∧ IsSetOf listed names)
      given names ↔
      IsSetOf listed names := by
  have hset := isSetOf_nameSet listed
  cases h with
  | absent =>
    constructor
    · rintro ⟨⟩
      exact ⟨.nil, fun _ => .rfl⟩
    · intro h
      rw [h.unique ⟨.nil, fun _ => .rfl⟩]
      exact .absent
  | @given raw _ h =>
    constructor
    · rintro (_ | hnames)
      -- What is read does not depend on how the value is taken to list names.
      have hread := (checkNames_eq_ok_iff "" raw.value).2 hnames
      rw [(checkNames_eq_ok_iff "" raw.value).2 ⟨listed, h, hset⟩] at hread
      exact Except.ok.inj hread ▸ hset
    · exact fun hnames => .given ⟨listed, h, hnames⟩

/-- The same set is read from options that list the same names. -/
theorem SameNames.gives (h : SameNames given given')
    (hnames : Gives [] (fun raw names => ∃ listed, Listing raw.value listed ∧ IsSetOf listed names)
      given names) :
    Gives [] (fun raw names => ∃ listed, Listing raw.value listed ∧ IsSetOf listed names)
      given' names := by
  cases h with
  | refl => exact hnames
  | listed h h' hmem =>
    obtain ⟨hsorted, hlisted⟩ := h.gives_iff.1 hnames
    exact h'.gives_iff.2 ⟨hsorted, fun name => (hlisted name).trans (hmem name)⟩

/-- An object of aliases is read by leaving out those to nothing. -/
theorem isAliases_doc_iff : IsAliases (.doc entries) aliases ↔
    entries.filter (fun e => e.2 ≠ .str "") = aliases.map fun e => (e.1, .str e.2) := by
  let entryOf (e : String × String) : String × Value := (e.1, .str e.2)
  have hinjective : Function.Injective entryOf := fun e e' h => by
    obtain ⟨hname, htarget⟩ := Prod.mk.inj h
    exact Prod.ext hname (Value.str.inj htarget)
  have hfilter : ∀ targets : Entries String, (targets.map entryOf).filter (fun e => e.2 ≠ .str "") =
      (targets.filter fun e => e.2 != "").map entryOf := fun targets => by
    rw [List.filter_map]
    congr 2
    funext e
    rw [Bool.eq_iff_iff]
    simp [entryOf]
  rw [← checkAliases_eq_ok_iff "", checkAliases_doc]
  constructor
  · rintro ⟨targets, rfl, rfl⟩
    exact hfilter targets
  · intro h
    -- An entry is a text: the empty one, or that of an alias.
    have htexts : entries ∈ Set.range (List.map entryOf) := by
      rw [Set.range_list_map]
      intro e he
      by_cases hempty : e.2 = .str ""
      · exact ⟨(e.1, ""), Prod.ext rfl hempty.symm⟩
      · have hmem : e ∈ entries.filter fun e => e.2 ≠ .str "" :=
          List.mem_filter.2 ⟨he, decide_eq_true hempty⟩
        rw [h] at hmem
        obtain ⟨target, -, rfl⟩ := List.mem_map.1 hmem
        exact ⟨target, rfl⟩
    obtain ⟨targets, rfl⟩ := htexts
    exact ⟨targets, rfl, List.map_injective_iff.2 hinjective ((hfilter targets).symm.trans h)⟩

/-- Aliases are read from an option that maps names to them. -/
theorem Maps.gives_iff (h : Maps given entries) :
    Gives [] (fun raw => IsAliases raw.value) given aliases ↔
      entries.filter (fun e => e.2 ≠ .str "") = aliases.map fun e => (e.1, .str e.2) := by
  cases h with
  | absent =>
    constructor
    · rintro ⟨⟩
      rfl
    · intro h
      rw [List.map_eq_nil_iff.1 h.symm]
      exact .absent
  | given h =>
    rw [← isAliases_doc_iff, ← h]
    exact ⟨fun | .given haliases => haliases, fun haliases => .given haliases⟩

/-- The same aliases are read from options that map the same names to something. -/
theorem SameAliases.gives (h : SameAliases given given')
    (haliases : Gives [] (fun raw => IsAliases raw.value) given aliases) :
    Gives [] (fun raw => IsAliases raw.value) given' aliases := by
  cases h with
  | refl => exact haliases
  | mapped h h' htargets => exact h'.gives_iff.2 (htargets ▸ h.gives_iff.1 haliases)

/-- Names are the same in both directions. -/
theorem SameNames.symm (h : SameNames given given') : SameNames given' given := by
  cases h with
  | refl => exact .refl given
  | listed h h' hmem => exact .listed h' h fun name => (hmem name).symm

/-- Aliases are the same in both directions. -/
theorem SameAliases.symm (h : SameAliases given given') : SameAliases given' given := by
  cases h with
  | refl => exact .refl given
  | mapped h h' htargets => exact .mapped h' h htargets.symm

namespace SaysTheSame

/-- Documents say the same in both directions. -/
theorem symm (h : SaysTheSame doc doc') : SaysTheSame doc' doc :=
  ⟨h.aliases.symm, h.blacklist.symm, h.whitelist.symm, fun name hname => (h.others name hname).symm⟩

/-- What is read from a document is read from one that says the same. -/
theorem isReading (h : SaysTheSame doc doc') (hread : IsReading chars settings doc o) :
    IsReading chars settings doc' o := by
  refine ⟨hread.operators.congr ?_, reads_singleton_iff.2 ?_, reads_singleton_iff.2 ?_,
    reads_singleton_iff.2 ?_, hread.custom.congr ?_, hread.coercion.congr ?_,
    hread.keyPattern.congr ?_, hread.valuePattern.congr ?_, hread.arrayPattern.congr ?_, ?_⟩
  · exact fun name hname => h.others name (by revert name; decide)
  · exact h.aliases.gives (reads_singleton_iff.1 hread.aliases)
  · exact h.blacklist.gives (reads_singleton_iff.1 hread.blacklist)
  · exact h.whitelist.gives (reads_singleton_iff.1 hread.whitelist)
  · exact fun name hname => h.others name (by revert name; decide)
  · exact fun name hname => h.others name (by revert name; decide)
  · exact fun name hname => h.others name (by revert name; decide)
  · exact fun name hname => h.others name (by revert name; decide)
  · exact fun name hname => h.others name (by revert name; decide)
  · intro name hname
    by_cases hform : name ∈ ["alias", "blacklist", "whitelist"]
    · have hsingle : [name] ∈ Options.names :=
        (by decide : ∀ name ∈ ["alias", "blacklist", "whitelist"],
          [name] ∈ Options.names) name hform
      exact ⟨[name], hsingle, isSpelling_singleton hname⟩
    · obtain ⟨spellings, hspellings, hspelling⟩ :=
        hread.known name ((mem_names_congr (h.others name hform)).2 hname)
      refine ⟨spellings, hspellings, hspelling.congr fun other hother => h.others other ?_⟩
      -- An option with a spelling of its own has no other spellings.
      exact (by decide : ∀ spellings ∈ Options.names, ∀ name ∈ spellings, ∀ other ∈ spellings,
        name ∉ ["alias", "blacklist", "whitelist"] → other ∉ ["alias", "blacklist", "whitelist"])
          spellings hspellings name hspelling.mem other hother hform

/-- The same options are read from documents that say the same. -/
theorem isReading_iff (h : SaysTheSame doc doc') :
    IsReading chars settings doc o ↔ IsReading chars settings doc' o :=
  ⟨h.isReading, h.symm.isReading⟩

end SaysTheSame

/-- The names that are listed decide which set is read, whatever kind of value lists them. -/
theorem exists_checkNames {v v' : Value} {listed' : List String} (h : Listing v listed)
    (h' : Listing v' listed') (hmem : ∀ name, name ∈ listed ↔ name ∈ listed')
    (option option' : String) :
    ∃ names, checkNames option v = .ok names ∧ checkNames option' v' = .ok names ∧
      IsSetOf listed names := by
  have hset := isSetOf_nameSet listed
  refine ⟨nameSet listed, (checkNames_eq_ok_iff option v).2 ⟨listed, h, hset⟩,
    (checkNames_eq_ok_iff option' v').2 ⟨listed', h', hset.sorted, fun name => ?_⟩, hset⟩
  exact (hset.mem_iff name).trans (hmem name)

end Options

end QueryFilter
