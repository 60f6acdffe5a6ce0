import QueryFilter.Options
import QueryFilter.Proofs.Validation
import Mathlib.Data.List.Forall2

/-!
# Tables of builders

Which entries of a table ask for a builder (`AsksFor`): builders themselves, and under the name of
a built-in kind a text, which is the field that the builder of this kind is bound to. A table is
sound if all its entries ask for builders.

An entry can also be bound without a check, by its kind alone (`bindSetting`). This fails at a text
under a name without a kind; and a table that was checked has no such text, so that its entries
are bound to the builders they ask for.

* `checkBuilders_eq_ok_iff`: the builders that a table asks for;
* `exists_checkBuilders_iff`: the tables that are sound;
* `bindAll_of_checkBuilders`: binding does not fail after a check.
-/

namespace QueryFilter

/-- The kind of a name has this name. -/
theorem BuilderKind.ofName?_eq_some_iff {name : String} {kind : BuilderKind} :
    ofName? name = some kind ↔ kind.name = name := by
  constructor
  · intro h
    simpa using List.find?_some h
  · rintro rfl
    exact ofName?_name kind

/-- The names of the kinds. -/
theorem BuilderKind.exists_name_eq_iff {name : String} : (∃ kind : BuilderKind, kind.name = name) ↔
    name ∈ ["bbox", "near", "after", "before", "between"] := by
  constructor
  · rintro ⟨kind, rfl⟩
    cases kind <;> simp [BuilderKind.name]
  · intro h
    simp only [List.mem_cons, List.not_mem_nil, or_false] at h
    rcases h with rfl | rfl | rfl | rfl | rfl
    · exact ⟨.bbox, rfl⟩
    · exact ⟨.near, rfl⟩
    · exact ⟨.after, rfl⟩
    · exact ⟨.before, rfl⟩
    · exact ⟨.between, rfl⟩

/-- The entries of an option that is a table of builders or an object. -/
def RawOption.settings? : RawOption → Option (Entries BuilderSetting)
  | .table entries => some entries
  | .plain (.doc entries) => some (entries.map fun e => (e.1, .value e.2))
  | _ => none

namespace Options

variable {name : String} {s : BuilderSetting} {c : BuilderChoice}
  {entries : Entries BuilderSetting} {cs : Entries BuilderChoice} {raw : RawOption}

/-! ## Checks -/

/-- Whether an entry asks for a builder: it is one, or it is a text that is not empty, under the
    name of a built-in kind. -/
inductive AsksFor (name : String) : BuilderSetting → BuilderChoice → Prop
  | given (b : Builder) : AsksFor name (.builder b) (.given b)
  | builtIn {kind : BuilderKind} {field : String} (hname : kind.name = name) (hfield : field ≠ "") :
      AsksFor name (.value (.str field)) (.builtIn kind field)

/-- The entries that ask for builders. -/
theorem exists_asksFor_iff : (∃ c, AsksFor name s c) ↔ (∃ b, s = .builder b) ∨
    (∃ field, field ≠ "" ∧ s = .value (.str field)) ∧
      name ∈ ["bbox", "near", "after", "before", "between"] := by
  rw [← BuilderKind.exists_name_eq_iff]
  constructor
  · rintro ⟨_, b | ⟨hname, hfield⟩⟩
    · exact .inl ⟨_, rfl⟩
    · exact .inr ⟨⟨_, hfield, rfl⟩, _, hname⟩
  · rintro (⟨b, rfl⟩ | ⟨⟨field, hfield, rfl⟩, kind, hname⟩)
    · exact ⟨_, .given b⟩
    · exact ⟨_, .builtIn hname hfield⟩

/-- A builder is chosen if an entry asks for it. -/
theorem choose_eq_ok_iff : choose name s = .ok c ↔ AsksFor name s c := by
  constructor
  · intro h
    unfold choose at h
    split at h
    next =>
      cases h
      exact .given _
    next field kind hkind =>
      split_ifs at h with hfield
      cases h
      exact .builtIn (BuilderKind.ofName?_eq_some_iff.1 hkind) hfield
    next => cases h
    next => cases h
  · rintro (_ | ⟨hname, hfield⟩)
    · rfl
    · simp [choose, BuilderKind.ofName?_eq_some_iff.2 hname, hfield]

/-- The builders of a table are chosen entry by entry. -/
theorem chooseAll_eq_ok_iff : chooseAll entries = .ok cs ↔
    List.Forall₂ (fun e c => c.1 = e.1 ∧ AsksFor e.1 e.2 c.2) entries cs := by
  induction entries generalizing cs with
  | nil => simp [chooseAll, eq_comm]
  | cons e rest ih =>
    obtain ⟨name, s⟩ := e
    rw [chooseAll, List.forall₂_cons_left_iff]
    constructor
    · intro h
      split at h
      next => cases h
      next c hc =>
        obtain ⟨cs', hrest, rfl⟩ := map_eq_ok_iff.1 h
        exact ⟨(name, c), cs', ⟨rfl, choose_eq_ok_iff.1 hc⟩, ih.1 hrest, rfl⟩
    · rintro ⟨⟨_, c⟩, cs', ⟨rfl, hc⟩, hrest, rfl⟩
      rw [choose_eq_ok_iff.2 hc]
      exact map_eq_ok_iff.2 ⟨cs', ih.2 hrest, rfl⟩

/-- The builders of an option that is a table are chosen. -/
theorem checkBuilders_of_settings? {option : String} (h : raw.settings? = some entries) :
    checkBuilders option raw = .ok cs ↔ chooseAll entries = .ok cs := by
  have htable : checkBuilders option raw = checkBuilders option (.table entries) := by
    match raw, h with
    | .table _, rfl => rfl
    | .plain (.doc _), rfl => rfl
  rw [htable]
  cases hentries : chooseAll entries <;> simp [checkBuilders, hentries, Checked.flaw]

/-- The builders that an option asks for are read from it if it is a table. -/
theorem checkBuilders_eq_ok_iff (option : String) (raw : RawOption) :
    checkBuilders option raw = .ok cs ↔ ∃ entries, raw.settings? = some entries ∧
      List.Forall₂ (fun e c => c.1 = e.1 ∧ AsksFor e.1 e.2 c.2) entries cs := by
  simp only [← chooseAll_eq_ok_iff]
  constructor
  · intro h
    match raw with
    | .table entries => exact ⟨entries, rfl, (checkBuilders_of_settings? rfl).1 h⟩
    | .plain (.doc entries) => exact ⟨_, rfl, (checkBuilders_of_settings? rfl).1 h⟩
    | .plain .null | .plain (.bool _) | .plain (.int _) | .plain (.num _) | .plain (.str _)
    | .plain (.list _) | .pattern _ => cases h
  · rintro ⟨entries, hraw, h⟩
    exact (checkBuilders_of_settings? hraw).2 h

/-- A table is sound if each of its entries asks for a builder. -/
theorem exists_checkBuilders_iff {option : String} (h : raw.settings? = some entries) :
    (∃ cs, checkBuilders option raw = .ok cs) ↔ ∀ e ∈ entries, ∃ c, AsksFor e.1 e.2 c := by
  simp only [checkBuilders_of_settings? h, chooseAll_eq_ok_iff]
  clear h
  induction entries with
  | nil => simp
  | cons e rest ih =>
    simp only [List.forall₂_cons_left_iff, List.forall_mem_cons, ← ih]
    constructor
    · rintro ⟨_, c, cs, ⟨-, hc⟩, hcs, rfl⟩
      exact ⟨⟨c.2, hc⟩, cs, hcs⟩
    · rintro ⟨⟨c, hc⟩, cs, hcs⟩
      exact ⟨_, (e.1, c), cs, ⟨rfl, hc⟩, hcs, rfl⟩

/-! ## Late binding -/

/-- Binds an entry by its kind alone: under its name a text stands for the built-in builder of
    that kind, and anything else for itself. -/
def bindSetting (name : String) : BuilderSetting → Except BuilderKind.Unknown BuilderSetting
  | .value (.str field) => (BuilderKind.ofValue (.str name)).map fun kind =>
      .builder (.bound kind field)
  | s => .ok s

/-- Binds all entries of a table. -/
def bindAll : Entries BuilderSetting → Except BuilderKind.Unknown (Entries BuilderSetting)
  | [] => .ok []
  | (name, s) :: rest =>
    match bindSetting name s with
    | .error e => .error e
    | .ok b => (bindAll rest).map ((name, b) :: ·)

/-- Whether a builder is the one that an entry is bound to: a builder that was given is kept, and a
    text becomes the field of the built-in builder whose name the entry has. -/
inductive IsBound (name : String) : BuilderSetting → Builder → Prop
  | kept (b : Builder) : IsBound name (.builder b) b
  | bound {kind : BuilderKind} (field : String) (hname : kind.name = name) :
      IsBound name (.value (.str field)) (.bound kind field)

/-- An entry is bound to the builder that it asks for. -/
theorem isBound_of_asksFor (h : AsksFor name s c) : IsBound name s c.bind := by
  cases h with
  | given b => exact .kept b
  | builtIn hname _ => exact .bound _ hname

/-- A builder that an entry is bound to is found by its kind. -/
theorem bindSetting_of_isBound {b : Builder} (h : IsBound name s b) :
    bindSetting name s = .ok (.builder b) := by
  cases h with
  | kept b => rfl
  | bound field hname =>
    simp [bindSetting, BuilderKind.ofValue, Value.str?, ← hname, Except.map]

/-- After a check binding does not fail: all entries are bound to the builders that they ask for. -/
theorem bindAll_of_checkBuilders {option : String} (hraw : raw.settings? = some entries)
    (h : checkBuilders option raw = .ok cs) :
    bindAll entries = .ok ((cs.map fun c => (c.1, c.2.bind)).map fun b => (b.1, .builder b.2)) ∧
      List.Forall₂ (fun e b => b.1 = e.1 ∧ IsBound e.1 e.2 b.2) entries
        (cs.map fun c => (c.1, c.2.bind)) := by
  have hbound : List.Forall₂ (fun e b => b.1 = e.1 ∧ IsBound e.1 e.2 b.2) entries
      (cs.map fun c => (c.1, c.2.bind)) := by
    rw [List.forall₂_map_right_iff]
    exact (chooseAll_eq_ok_iff.1 ((checkBuilders_of_settings? hraw).1 h)).imp
      fun _ _ hc => ⟨hc.1, isBound_of_asksFor hc.2⟩
  refine ⟨?_, hbound⟩
  clear hraw h
  generalize (cs.map fun c => (c.1, c.2.bind)) = builders at hbound
  induction hbound with
  | nil => rfl
  | @cons e b rest builders hb _ ih =>
    obtain ⟨name, s⟩ := e
    rw [bindAll, bindSetting_of_isBound hb.2, ih, List.map_cons, hb.1]
    rfl

end Options

end QueryFilter
