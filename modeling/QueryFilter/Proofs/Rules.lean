import QueryFilter.Rules

/-!
# The table of rules

The table of rules holds the rules of some names only; those of all other names follow
from whether there is a whitelist. Together they are the rules of the four steps, each of
which is for the fields that the ones before it leave (`RuleSource.Gives`).

* `RuleTable.lookup_ofSource`: the rule of every name;
* `RuleSource.gives_resolve`, `RuleSource.resolve_of_gives`: it is the one that the steps give;
* `RuleTable.lookup_ofSource_eq_iff`: and so is that of the table.
-/

namespace QueryFilter

/-- Reasons are told apart by their texts. -/
theorem DenialReason.text_injective {reason reason' : DenialReason}
    (h : reason.text = reason'.text) : reason = reason' := by
  cases reason <;> cases reason' <;> simp_all [text]

namespace RuleSource

variable {src : RuleSource} {name : String} {rule : FieldRule}

/-! ## Names that are not mentioned -/

/-- A name that is not mentioned is in no list and has neither an alias nor a builder. -/
theorem not_mem_mentioned : name ∉ src.mentioned ↔ src.aliases.get? name = none ∧
    name ∉ src.blacklist ∧ name ∉ src.whitelist ∧ src.builders.get? name = none := by
  simp only [mentioned, List.mem_eraseDups, List.mem_append, not_or, Entries.get?_eq_none_iff,
    and_assoc]

/-- The rule of a name that is not mentioned. -/
theorem resolve_of_not_mem_mentioned (h : name ∉ src.mentioned) :
    src.resolve name = if src.whitelist ≠ [] then .denied .notWhitelisted else .standard name := by
  obtain ⟨ha, hb, hw, hc⟩ := not_mem_mentioned.1 h
  have htarget : src.target name = name := by rw [target, ha, Option.getD_none]
  simp only [resolve, hw, not_false_eq_true, and_true, if_neg hb, keep, htarget, hc, if_true]

/-! ## The four steps -/

/-- Whether the lists let a field through. -/
structure Keeps (src : RuleSource) (name : String) : Prop where
  whitelisted : src.whitelist = [] ∨ name ∈ src.whitelist
  not_blacklisted : name ∉ src.blacklist

/-- Whether a field is read under the name `target`: its alias, or its own name without one.
    An alias of the alias does not count. -/
def IsTarget (src : RuleSource) (name target : String) : Prop :=
  src.aliases.get? name = some target ∨ src.aliases.get? name = none ∧ target = name

/-- The rule that the four steps give to a field. -/
inductive Gives (src : RuleSource) (name : String) : FieldRule → Prop
  | notWhitelisted {reason : DenialReason} (hne : src.whitelist ≠ []) (hw : name ∉ src.whitelist)
    (htext : reason.text = "not whitelisted") : Gives src name (.denied reason)
  | blacklisted {reason : DenialReason} (hw : src.whitelist = [] ∨ name ∈ src.whitelist)
    (hb : name ∈ src.blacklist) (htext : reason.text = "blacklisted") :
    Gives src name (.denied reason)
  | custom {target : String} {b : Builder} (hkeep : src.Keeps name)
    (htarget : src.IsTarget name target) (hb : src.builders.get? target = some b) :
    Gives src name (.custom target b)
  | renamed {target : String} (hkeep : src.Keeps name) (htarget : src.IsTarget name target)
    (hb : src.builders.get? target = none) (hne : target ≠ name) : Gives src name (.renamed target)
  | standard (hkeep : src.Keeps name) (htarget : src.IsTarget name name)
    (hb : src.builders.get? name = none) : Gives src name (.standard name)

/-- The name that a field is read under. -/
theorem isTarget_iff {target : String} : src.IsTarget name target ↔ src.target name = target := by
  rw [IsTarget, RuleSource.target]
  cases src.aliases.get? name <;> simp [eq_comm]

/-- The steps give the rule of a field. -/
theorem gives_resolve (src : RuleSource) (name : String) : src.Gives name (src.resolve name) := by
  rw [resolve]
  by_cases hlisted : src.whitelist = [] ∨ name ∈ src.whitelist
  · rw [if_neg fun h => hlisted.elim h.1 h.2]
    by_cases hb : name ∈ src.blacklist
    · rw [if_pos hb]
      exact .blacklisted hlisted hb rfl
    · have hkeep : src.Keeps name := ⟨hlisted, hb⟩
      have htarget : src.IsTarget name (src.target name) := isTarget_iff.2 rfl
      rw [if_neg hb, keep]
      cases hbuilder : src.builders.get? (src.target name) with
      | some b => exact .custom hkeep htarget hbuilder
      | none =>
        by_cases hname : src.target name = name
        · simp only [if_pos hname]
          rw [hname] at htarget hbuilder
          exact .standard hkeep htarget hbuilder
        · simp only [if_neg hname]
          exact .renamed hkeep htarget hbuilder hname
  · obtain ⟨hne, hw⟩ := not_or.1 hlisted
    rw [if_pos ⟨hne, hw⟩]
    exact .notWhitelisted hne hw rfl

/-- A field that the lists let through is kept. -/
theorem resolve_of_keeps (h : src.Keeps name) : src.resolve name = src.keep name := by
  rw [resolve, if_neg fun hw => h.whitelisted.elim hw.1 hw.2, if_neg h.not_blacklisted]

/-- What the steps give is the rule of the field. -/
theorem resolve_of_gives (h : src.Gives name rule) : src.resolve name = rule := by
  cases h with
  | notWhitelisted hne hw htext =>
    obtain rfl : _ = DenialReason.notWhitelisted := DenialReason.text_injective htext
    rw [resolve, if_pos ⟨hne, hw⟩]
  | blacklisted hw hb htext =>
    obtain rfl : _ = DenialReason.blacklisted := DenialReason.text_injective htext
    rw [resolve, if_neg fun h => hw.elim h.1 h.2, if_pos hb]
  | custom hkeep htarget hb =>
    obtain rfl := isTarget_iff.1 htarget
    simp only [resolve_of_keeps hkeep, keep, hb]
  | renamed hkeep htarget hb hne =>
    obtain rfl := isTarget_iff.1 htarget
    simp only [resolve_of_keeps hkeep, keep, hb, if_neg hne]
  | standard hkeep htarget hb =>
    have hname : src.target name = name := isTarget_iff.1 htarget
    simp only [resolve_of_keeps hkeep, keep, hname, hb, if_true]

end RuleSource

namespace RuleTable

/-- The rule of every name is the one that the four steps give. -/
theorem lookup_ofSource (src : RuleSource) (name : String) :
    (ofSource src).lookup name = src.resolve name := by
  rw [lookup, ofSource, Entries.get?_tabulate]
  by_cases h : name ∈ src.mentioned
  · simp only [if_pos h]
  · -- Such a name is in no list, so only an empty whitelist keeps it.
    rw [if_neg h, RuleSource.resolve_of_not_mem_mentioned h]
    cases src.whitelist <;> simp

/-- The table gives every name, whether it is mentioned or not, the rule that the four steps
    give, and no other. -/
theorem lookup_ofSource_eq_iff {src : RuleSource} {name : String} {rule : FieldRule} :
    (ofSource src).lookup name = rule ↔ src.Gives name rule := by
  rw [lookup_ofSource]
  constructor
  · rintro rfl
    exact src.gives_resolve name
  · exact RuleSource.resolve_of_gives

end RuleTable

end QueryFilter
