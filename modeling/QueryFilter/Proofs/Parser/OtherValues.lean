import QueryFilter.Proofs.Parser.Effects
import QueryFilter.Proofs.Parser.Entries
import Mathlib.Data.List.Basic

/-!
# Values that are neither a text nor a list

No filter is made from a request value that is neither a text nor a list: it is not read, and
no built-in builder understands it. But no pattern is asked about its field either, and a
builder that is any function is given all values. So such a field has a part in a run exactly
if the lists let it through and its output name has a builder (`Options.Calls`).

* `route_of_not_calls`, `route_of_calls`: what becomes of such a field;
* `parse_contributing`: which of these fields may be left out of a query;
* `parse_ne_of_call`: not all of them.
-/

namespace QueryFilter

universe u

namespace Options

variable (o : Options)

/-- Whether the lists let a field through and its output name has a builder. -/
def Calls (name : String) (raw : Value) : Prop :=
  ¬o.Denies name raw ∧ (o.builder? (o.outputName (Parser.fieldName name raw))).isSome = true

instance (name : String) (raw : Value) : Decidable (o.Calls name raw) :=
  inferInstanceAs (Decidable (_ ∧ _))

/-- The fields of a query whose value is a text or a list, or may go to a builder. -/
def contributing (query : Query) : Query :=
  query.filter fun field => field.2.classOf ≠ .other ∨ o.Calls field.1 field.2

end Options

/-- No built-in builder understands a value that is neither a text nor a list. -/
theorem BuilderKind.condition_of_other (kind : BuilderKind) {raw : Value}
    (h : raw.classOf = .other) : kind.condition raw = .ok none := by
  cases raw with
  | str s => simp [Value.classOf] at h
  | list items => simp [Value.classOf] at h
  | _ => cases kind <;> rfl

namespace Parser

variable {o : Options} {name : String} {raw : Value} {query : Query}

/-! ## One field -/

/-- Only the name of a list loses its array suffix. -/
theorem fieldName_of_other (name : String) (hraw : raw.classOf = .other) :
    fieldName name raw = name := by
  cases raw with
  | list items => simp [Value.classOf] at hraw
  | _ => rfl

/-- No pattern is asked about the output name of such a field: a builder takes the field, and
    without one it is dropped. -/
theorem routeKey_of_other (p : Parser) (key : String) (builder : Option Builder)
    (hraw : raw.classOf = .other) : p.routeKey key builder raw =
      builder.elim (.drop (.unsupported raw.kindName)) .build := by
  cases raw with
  | str s => simp [Value.classOf] at hraw
  | list items => simp [Value.classOf] at hraw
  | _ => cases builder <;> rfl

/-- Such a field is dropped if there is no builder for it. -/
theorem route_of_not_calls (hraw : raw.classOf = .other) (h : ¬o.Calls name raw) :
    ∃ reason, (ofOptions o).route name raw = .drop reason := by
  by_cases hd : o.Denies name raw
  · obtain ⟨reason, hr⟩ := route_of_denies hd
    exact ⟨_, hr⟩
  · have hb : o.builder? (o.outputName (fieldName name raw)) = none :=
      Option.not_isSome_iff_eq_none.1 fun hb => h ⟨hd, hb⟩
    rw [route_of_not_denies hd, hb, routeKey_of_other _ _ _ hraw]
    exact ⟨_, rfl⟩

/-- Otherwise it goes to the builder, whatever its output name looks like. -/
theorem route_of_calls (hraw : raw.classOf = .other) (h : o.Calls name raw) :
    ∃ b, o.builder? (o.outputName name) = some b ∧ (ofOptions o).route name raw = .build b := by
  obtain ⟨b, hb⟩ := Option.isSome_iff_exists.1 h.2
  rw [route_of_not_denies h.1, hb, routeKey_of_other _ _ _ hraw]
  rw [fieldName_of_other name hraw] at hb
  exact ⟨b, hb, rfl⟩

/-- If all builders are built-in ones, such a field writes nothing. -/
theorem entryOf_of_other (ho : o.IsBuiltIn) (hraw : raw.classOf = .other) :
    (ofOptions o).entryOf name raw = .ok none := by
  rw [entryOf]
  by_cases h : o.Calls name raw
  · obtain ⟨b, -, hr⟩ := route_of_calls hraw h
    have hbound := isBound_of_route ho hr
    rw [hr]
    cases b with
    | call run => exact hbound.elim
    | bound kind field => simp only [Builder.entryOf, kind.condition_of_other hraw]; rfl
  · obtain ⟨reason, hr⟩ := route_of_not_calls hraw h
    rw [hr]

/-! ## Queries -/

/-- Fields that no filter is made from may be left out of a run. -/
theorem runIn_contributing {m : Type → Type u} [Monad m] (act : BuilderAction m)
    (filter : Document) (query : Query) :
    (ofOptions o).runIn act filter (o.contributing query) = (ofOptions o).runIn act filter query := by
  refine runIn_filter _ (fun field _ hkeep => ?_) filter
  obtain ⟨hraw, hcalls⟩ := not_or.1 (of_decide_eq_false hkeep)
  exact route_of_not_calls (Decidable.not_not.1 hraw) hcalls

/-- A field whose value is neither a text nor a list may be left out of a query unless it goes
    to a builder, whatever the builders do; and if all builders are built-in ones, it may be
    left out in any case. A builder for such a field is called with the filter made so far and
    the value as it is. -/
theorem parse_contributing (o : Options) :
    (∀ query, (ofOptions o).parse (o.contributing query) = (ofOptions o).parse query) ∧
    (∀ (m : Type → Type u) [Monad m] (act : BuilderAction m) (query : Query),
      (ofOptions o).parseIn act (o.contributing query) = (ofOptions o).parseIn act query) ∧
    (o.IsBuiltIn → ∀ query : Query, (ofOptions o).parse
      (query.filter fun field => field.2.classOf ≠ .other) = (ofOptions o).parse query) ∧
    ∀ name raw, raw.classOf = .other → o.Calls name raw →
      ∃ b, o.builder? (o.outputName name) = some b ∧
        ∀ (m : Type → Type u) [Monad m] (act : BuilderAction m) (filter : Document) (rest : Query),
          (ofOptions o).runIn act filter ((name, raw) :: rest) =
            act b filter raw >>= fun filter => (ofOptions o).runIn act filter rest := by
  refine ⟨fun query => ?_, fun m _ act query => runIn_contributing act [] query,
    fun ho query => ?_, fun name raw hraw hcalls => ?_⟩
  · rw [parse_eq_parseIn, parse_eq_parseIn]
    exact runIn_contributing Builder.run [] query
  · rw [parse_eq_entriesOf ho, parse_eq_entriesOf ho, entriesOf_filter _ fun field _ hkeep => ?_]
    exact entryOf_of_other ho (Decidable.not_not.1 (of_decide_eq_false hkeep))
  · obtain ⟨b, hb, hr⟩ := route_of_calls hraw hcalls
    exact ⟨b, hb, fun m _ act filter rest => runIn_cons_build hr⟩

/-- Options with a builder that stores the value of its field as it is. -/
def copyingOptions : Options :=
  { Options.standard .standard with
    custom := [("raw", .given (.call fun filter raw => .ok (filter.assign "copy" raw)))] }

/-- A number that goes to a builder, and a null and an object that do not. -/
theorem parse_contributing_copy :
    (ofOptions copyingOptions).parse [("size", .str "!a"), ("raw", .int 5)] =
      (ofOptions copyingOptions).parse
        [("name", .null), ("size", .str "!a"), ("size", .doc []), ("raw", .int 5)] ∧
    copyingOptions.Calls "raw" (.int 5) ∧ ∃ b, copyingOptions.builder? "raw" = some b ∧
      ∀ (m : Type → Type) [Monad m] (act : BuilderAction m) (filter : Document) (rest : Query),
        (ofOptions copyingOptions).runIn act filter (("raw", .int 5) :: rest) =
          act b filter (.int 5) >>= fun filter =>
            (ofOptions copyingOptions).runIn act filter rest := by
  obtain ⟨hparse, -, -, hcalls⟩ := parse_contributing.{0} copyingOptions
  exact ⟨hparse [("name", .null), ("size", .str "!a"), ("size", .doc []), ("raw", .int 5)],
    by decide, hcalls "raw" (.int 5) rfl (by decide)⟩

/-- Not every field whose value is neither a text nor a list may be left out. -/
theorem parse_ne_of_call : (ofOptions copyingOptions).parse
    ([("raw", .int 5)].filter fun field => field.2.classOf ≠ .other) ≠
      (ofOptions copyingOptions).parse [("raw", .int 5)] := by
  have hall : (ofOptions copyingOptions).parse [("raw", .int 5)] = .ok [("copy", .int 5)] := by
    decide +kernel
  rw [hall]
  decide +kernel

end Parser

end QueryFilter
