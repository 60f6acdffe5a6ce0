import QueryFilter.Parser
import QueryFilter.Proofs.Rules

/-!
# Routes of fields

What becomes of a field, told by the options of the parser alone. A field is denied by the
lists (`Options.Denies`) or admitted under an output name, which the lists and the pattern
for its kind of value let through (`Options.Admits`). An admitted field goes to the builder
of its output name; without one, a text or a list that says something is stored.

* `route_of_denies`: a denied field is dropped, whatever its value, alias or builder;
* `route_eq_build_iff`, `route_eq_store_iff`: which fields go to a builder, and which are
  stored.
-/

namespace QueryFilter

namespace Options

variable (o : Options)

/-- The name under which a field is read. -/
def outputName (name : String) : String :=
  (o.aliases.get? name).getD name

/-- The builder that is registered for an output name. -/
def builder? (key : String) : Option Builder :=
  (o.custom.get? key).map BuilderChoice.bind

/-- Whether the lists keep a field out: its name, without the array suffix if its value
    is a list, is missing from a whitelist that is not empty, or it is in the blacklist. -/
def Denies (name : String) (raw : Value) : Prop :=
  (o.whitelist ≠ [] ∧ Parser.fieldName name raw ∉ o.whitelist) ∨
    Parser.fieldName name raw ∈ o.blacklist

instance (name : String) (raw : Value) : Decidable (o.Denies name raw) :=
  inferInstanceAs (Decidable (_ ∨ _))

/-- Whether a field is let through under the output name `key`: by the lists, which look
    at the name in the request, and by the pattern for its kind of value, which looks at
    the output name. -/
structure Admits (name : String) (raw : Value) (key : String) : Prop where
  whitelisted : o.whitelist = [] ∨ Parser.fieldName name raw ∈ o.whitelist
  not_blacklisted : Parser.fieldName name raw ∉ o.blacklist
  key_eq : key = o.outputName (Parser.fieldName name raw)
  key_matches : ∀ s, raw = .str s → o.keyPattern.finds key.toList = true
  array_matches : ∀ items, raw = .list items → o.arrayPattern.finds key.toList = true

/-- Whether every builder of a parser is a built-in one. -/
def IsBuiltIn : Prop :=
  ∀ entry ∈ o.custom, entry.2.bind.IsBound

variable {o} in
/-- Without builders, all of them are built-in ones. -/
theorem isBuiltIn_of_custom_eq_nil (h : o.custom = []) : o.IsBuiltIn := by
  intro entry he
  rw [h] at he
  exact absurd he List.not_mem_nil

variable {o} in
/-- Without builders, no output name has one. -/
theorem builder?_of_custom_eq_nil (h : o.custom = []) (key : String) : o.builder? key = none := by
  rw [builder?, h]
  rfl

/-- The standard options with one built-in builder, bound to `field`. -/
def ofBuilder (kind : BuilderKind) (field : String) : Options :=
  { standard .standard with custom := [(kind.name, .builtIn kind field)] }

/-- The builder is a built-in one. -/
theorem isBuiltIn_ofBuilder (kind : BuilderKind) (field : String) :
    (ofBuilder kind field).IsBuiltIn := by
  intro entry he
  rw [List.mem_singleton.1 he]
  trivial

end Options

namespace Parser

variable {o : Options} {name key : String} {raw : Value}

/-- A field is denied unless the lists let it through. -/
theorem not_denies_iff : ¬o.Denies name raw ↔
    (o.whitelist = [] ∨ fieldName name raw ∈ o.whitelist) ∧ fieldName name raw ∉ o.blacklist := by
  rw [Options.Denies, not_or, Decidable.not_and_iff_not_or_not, Decidable.not_not,
    Decidable.not_not]

/-- The builder of an output name is found by its rules. -/
theorem get?_builders (o : Options) (key : String) :
    (ruleSource o).builders.get? key = o.builder? key :=
  Entries.get?_map BuilderChoice.bind o.custom key

/-- The rule of a field, told by the options. -/
theorem lookup_rules (o : Options) (n : String) : (ofOptions o).rules.lookup n =
    if o.whitelist ≠ [] ∧ n ∉ o.whitelist then .denied .notWhitelisted
    else if n ∈ o.blacklist then .denied .blacklisted
    else match o.builder? (o.outputName n) with
      | some b => .custom (o.outputName n) b
      | none => if o.outputName n = n then .standard n else .renamed (o.outputName n) := by
  rw [show (ofOptions o).rules = .ofSource (ruleSource o) from rfl, RuleTable.lookup_ofSource,
    ← get?_builders]
  rfl

/-- The rule of a name denies it if the lists do. -/
theorem exists_lookup_eq_denied_iff {n : String} :
    (∃ reason, (ofOptions o).rules.lookup n = .denied reason) ↔
      n ∈ o.blacklist ∨ o.whitelist ≠ [] ∧ n ∉ o.whitelist := by
  rw [lookup_rules]
  by_cases hw : o.whitelist ≠ [] ∧ n ∉ o.whitelist
  · simp [hw]
  · rw [if_neg hw, or_iff_left hw]
    by_cases hb : n ∈ o.blacklist
    · simp [hb]
    · rw [if_neg hb, iff_false_right hb]
      rintro ⟨reason, h⟩
      split at h
      · cases h
      · split at h <;> cases h

/-- A denied field is dropped. -/
theorem route_of_denies (h : o.Denies name raw) :
    ∃ reason, (ofOptions o).route name raw = .drop (.denied reason) := by
  rw [route, lookup_rules]
  by_cases hw : o.whitelist ≠ [] ∧ fieldName name raw ∉ o.whitelist
  · exact ⟨.notWhitelisted, by rw [if_pos hw]⟩
  · have hb : fieldName name raw ∈ o.blacklist := h.resolve_left hw
    exact ⟨.blacklisted, by rw [if_neg hw, if_pos hb]⟩

/-- A field that is not denied is read under its output name. -/
theorem route_of_not_denies (h : ¬o.Denies name raw) :
    (ofOptions o).route name raw =
      (ofOptions o).routeKey (o.outputName (fieldName name raw))
        (o.builder? (o.outputName (fieldName name raw))) raw := by
  obtain ⟨hw, hb⟩ := not_or.1 h
  rw [route, lookup_rules, if_neg hw, if_neg hb]
  cases o.builder? (o.outputName (fieldName name raw)) with
  | some b => rfl
  | none =>
    by_cases ht : o.outputName (fieldName name raw) = fieldName name raw
    · simp only [if_pos ht]
      rw [ht]
    · simp only [if_neg ht]

/-- Which output names are accepted for a value. -/
theorem acceptsKey_iff : (ofOptions o).acceptsKey key raw = true ↔
    (∀ s, raw = .str s → o.keyPattern.finds key.toList = true) ∧
      ∀ items, raw = .list items → o.arrayPattern.finds key.toList = true := by
  cases raw <;> simp [acceptsKey, ofOptions]

/-- A field is admitted under an output name if the lists and the patterns say so. -/
theorem admits_iff : o.Admits name raw key ↔ ¬o.Denies name raw ∧
    key = o.outputName (fieldName name raw) ∧ (ofOptions o).acceptsKey key raw = true := by
  rw [not_denies_iff, acceptsKey_iff]
  exact ⟨fun h => ⟨⟨h.whitelisted, h.not_blacklisted⟩, h.key_eq, h.key_matches, h.array_matches⟩,
    fun ⟨⟨hw, hb⟩, hk, hs, ha⟩ => ⟨hw, hb, hk, hs, ha⟩⟩

/-- A field that is not admitted is dropped. -/
theorem route_of_not_admits (h : ∀ key, ¬o.Admits name raw key) :
    ∃ reason, (ofOptions o).route name raw = .drop reason := by
  by_cases hd : o.Denies name raw
  · obtain ⟨reason, hr⟩ := route_of_denies hd
    exact ⟨_, hr⟩
  · -- The lists let the field through, so it is the pattern that does not.
    have hk : (ofOptions o).acceptsKey (o.outputName (fieldName name raw)) raw ≠ true :=
      fun hk => h _ (admits_iff.2 ⟨hd, rfl, hk⟩)
    exact ⟨.invalidKey, by simp only [route_of_not_denies hd, routeKey, if_neg hk]⟩

/-- An admitted field is read under its output name. -/
theorem route_of_admits (h : o.Admits name raw key) :
    (ofOptions o).route name raw =
      match o.builder? key with
      | some b => .build b
      | none => (ofOptions o).routeValue key raw := by
  obtain ⟨hd, rfl, hk⟩ := admits_iff.1 h
  rw [route_of_not_denies hd]
  exact if_pos hk

/-- The fields that go to a builder are the admitted ones with a builder for their output
    name. -/
theorem route_eq_build_iff {b : Builder} : (ofOptions o).route name raw = .build b ↔
    ∃ key, o.Admits name raw key ∧ o.builder? key = some b := by
  refine ⟨?_, ?_⟩
  · intro h
    by_cases ha : ∃ key, o.Admits name raw key
    · obtain ⟨key, ha⟩ := ha
      rw [route_of_admits ha] at h
      split at h
      next c hc =>
        rw [Route.build.inj h] at hc
        exact ⟨key, ha, hc⟩
      next =>
        -- Without a builder, a value is stored or dropped.
        cases raw with
        | list items =>
          rw [routeValue] at h
          split at h <;> simp at h
        | _ => simp [routeValue] at h
    · obtain ⟨reason, hr⟩ := route_of_not_admits fun key hk => ha ⟨key, hk⟩
      simp [hr] at h
  · rintro ⟨key, ha, hb⟩
    rw [route_of_admits ha, hb]

/-- The fields that are stored are the admitted ones without a builder whose value is a
    text, or a list that says something. -/
theorem route_eq_store_iff {v : Value} : (ofOptions o).route name raw = .store key v ↔
    o.Admits name raw key ∧ o.builder? key = none ∧
      ((∃ s, raw = .str s ∧ v = (ofOptions o).readScalar s) ∨
        ∃ items d, raw = .list items ∧ (ofOptions o).readList items = some d ∧ v = .doc d) := by
  refine ⟨?_, ?_⟩
  · intro h
    by_cases ha : ∃ key, o.Admits name raw key
    · obtain ⟨key', ha⟩ := ha
      rw [route_of_admits ha] at h
      split at h
      · simp at h
      next hb =>
        cases raw with
        | str s =>
          obtain ⟨rfl, rfl⟩ := Route.store.inj h
          exact ⟨ha, hb, .inl ⟨s, rfl, rfl⟩⟩
        | list items =>
          rw [routeValue] at h
          split at h
          next d hd =>
            obtain ⟨rfl, rfl⟩ := Route.store.inj h
            exact ⟨ha, hb, .inr ⟨items, d, rfl, hd, rfl⟩⟩
          · simp at h
        | _ => simp [routeValue] at h
    · obtain ⟨reason, hr⟩ := route_of_not_admits fun key hk => ha ⟨key, hk⟩
      simp [hr] at h
  · rintro ⟨ha, hb, ⟨s, rfl, rfl⟩ | ⟨items, d, rfl, hd, rfl⟩⟩
    · rw [route_of_admits ha, hb, routeValue]
    · rw [route_of_admits ha, hb, routeValue, hd]

/-- The builder of an output name is one of the options. -/
theorem mem_custom_of_builder? {b : Builder} (h : o.builder? key = some b) :
    ∃ choice, (key, choice) ∈ o.custom ∧ choice.bind = b := by
  obtain ⟨choice, hc, hb⟩ := Option.map_eq_some_iff.1 h
  exact ⟨choice, Entries.mem_of_get? hc, hb⟩

end Parser

end QueryFilter
