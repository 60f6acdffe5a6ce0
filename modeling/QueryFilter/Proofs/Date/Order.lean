import QueryFilter.Proofs.Builder
import QueryFilter.Proofs.Date.Epoch
import QueryFilter.Proofs.Date.Print

/-!
# The order of printed dates

Filters compare dates by their texts. The texts of two instants compare like the instants, to the
millisecond, and so do the texts that the builders of dates put into filters for two timestamps
(`Instant.print_order`).

* `Builder.PrintsDate`: what the builders of one date make of a text;
* `SaysMillis`: the milliseconds that a text says.
-/

namespace QueryFilter

/-! ## What builders make of dates -/

section Builders

variable {s s' raw : String} {t t' : Instant} {rest : List (List Char)}

/-- Whether the builders of one date put the text `p` into a filter for the text `s`. -/
def Builder.PrintsDate (s p : String) : Prop :=
  ∀ (field : String) (filter : Document),
    (bound .after field).run filter (.str s) =
      .ok (filter.assign field (.doc [(Tag.gte.text, .str p)])) ∧
    (bound .before field).run filter (.str s) =
      .ok (filter.assign field (.doc [(Tag.lt.text, .str p)]))

/-- The builders of one date print it. -/
theorem Builder.printsDate_of_ofText (h : Instant.ofText s = .ok (some t)) :
    PrintsDate s t.print := by
  intro field filter
  simp only [run, BuilderKind.condition, Instant.ofValue, h, Except.map, Option.map_some,
    BuilderKind.dateCondition, and_self]

/-- The builder of two dates prints both. -/
theorem Builder.run_between_of_ofText
    (hparts : Text.splitOn '|' raw.toList = s.toList :: s'.toList :: rest)
    (h : Instant.ofText s = .ok (some t)) (h' : Instant.ofText s' = .ok (some t')) (field : String)
    (filter : Document) : (bound .between field).run filter (.str raw) =
      .ok (filter.assign field
        (.doc [(Tag.gte.text, .str t.print), (Tag.lt.text, .str t'.print)])) := by
  have hcondition : BuilderKind.betweenCondition raw =
      .ok (some [(Tag.gte.text, .str t.print), (Tag.lt.text, .str t'.print)]) :=
    BuilderKind.betweenCondition_eq_some_iff.2 ⟨s.toList, s'.toList, rest, t, t', hparts,
      by rwa [String.ofList_toList], by rwa [String.ofList_toList], rfl⟩
  simp only [run, BuilderKind.condition, hcondition]

end Builders

/-! ## Timestamps -/

/-- Whether a text is a timestamp, with blanks around it or not, that says a number of
    milliseconds and has no more digits than are converted. -/
def SaysMillis (s : String) (millis : ℤ) : Prop :=
  ∃ t : Timestamp, t.IsWritten (Text.trim s.toList) ∧ t.digits.length ≤ digitLimit ∧
    t.millis s.toList.length = millis

namespace Instant

variable {t u : Instant} {s : String} {millis : ℤ}

/-- A timestamp in the calendar is read as an instant in whole milliseconds. -/
theorem exists_ofText_of_saysMillis (h : SaysMillis s millis) (hstart : -62135596800000 ≤ millis)
    (hend : millis ≤ 253402300799999) :
    ∃ t, ofText s = .ok (some t) ∧ ((t.micros / 1000 : ℕ) : ℤ) = 62135596800000 + millis := by
  obtain ⟨t, hwritten, hlimit, rfl⟩ := h
  obtain ⟨i, hi⟩ := exists_ofEpochMillis?_iff.2 ⟨hstart, hend⟩
  refine ⟨i, by rw [ofText_of_isWritten hwritten hlimit, hi], ?_⟩
  have hmicros := ofEpochMillis?_eq_some_iff.1 hi
  have hepoch : epoch.micros = 62135596800000000 := by decide
  omega

/-! ## The order -/

/-- Instants of different milliseconds have different texts. -/
theorem micros_div_eq_of_print_eq (h : t.print = u.print) : t.micros / 1000 = u.micros / 1000 := by
  rcases Nat.lt_trichotomy (t.micros / 1000) (u.micros / 1000) with hlt | heq | hgt
  · exact absurd h (String.ne_of_lt (print_lt_print hlt))
  · exact heq
  · exact absurd h.symm (String.ne_of_lt (print_lt_print hgt))

/-- The texts of two instants are the same if the milliseconds are, and only then. -/
theorem print_eq_print_iff : t.print = u.print ↔ t.truncated = u.truncated := by
  refine ⟨fun h => truncated_eq_iff.2 (micros_div_eq_of_print_eq h), fun h => ?_⟩
  rw [← print_truncated t, h, print_truncated u]

/-- The texts of two instants compare like the instants, to the millisecond. -/
theorem print_lt_print_iff : t.print < u.print ↔ t.truncated < u.truncated := by
  rw [truncated_lt_iff]
  refine ⟨fun h => ?_, fun h => print_lt_print h⟩
  rcases Nat.lt_trichotomy (t.micros / 1000) (u.micros / 1000) with hlt | heq | hgt
  · exact hlt
  · exact absurd (print_eq_print_iff.2 (truncated_eq_iff.2 heq)) (String.ne_of_lt h)
  · exact absurd (print_lt_print hgt) (String.lt_asymm h)

/-- Printed dates are ordered like instants. The texts of two instants compare like the instants
    without what is beyond milliseconds; and the texts that the builders of dates put into filters
    for two timestamps compare like the numbers that the timestamps say. -/
theorem print_order :
    (∀ t u : Instant, (t.print < u.print ↔ t.truncated < u.truncated) ∧
      (t.print = u.print ↔ t.truncated = u.truncated)) ∧
    ∀ {s₁ s₂ : String} {k₁ k₂ : ℤ}, SaysMillis s₁ k₁ → SaysMillis s₂ k₂ →
      (∀ k ∈ [k₁, k₂], -62135596800000 ≤ k ∧ k ≤ 253402300799999) →
      ∃ p₁ p₂ : String, (p₁ < p₂ ↔ k₁ < k₂) ∧ (p₁ = p₂ ↔ k₁ = k₂) ∧
        Builder.PrintsDate s₁ p₁ ∧ Builder.PrintsDate s₂ p₂ ∧
        ∀ (raw : String) (rest : List (List Char)) (field : String) (filter : Document),
          Text.splitOn '|' raw.toList = s₁.toList :: s₂.toList :: rest →
          (Builder.bound .between field).run filter (.str raw) =
            .ok (filter.assign field (.doc [(Tag.gte.text, .str p₁), (Tag.lt.text, .str p₂)])) := by
  refine ⟨fun t u => ⟨print_lt_print_iff, print_eq_print_iff⟩, ?_⟩
  intro s₁ s₂ k₁ k₂ h₁ h₂ hrange
  obtain ⟨hstart₁, hend₁⟩ := hrange k₁ List.mem_cons_self
  obtain ⟨hstart₂, hend₂⟩ := hrange k₂ (List.mem_cons_of_mem _ List.mem_cons_self)
  obtain ⟨t, ht, hk₁⟩ := exists_ofText_of_saysMillis h₁ hstart₁ hend₁
  obtain ⟨u, hu, hk₂⟩ := exists_ofText_of_saysMillis h₂ hstart₂ hend₂
  refine ⟨t.print, u.print, ?_, ?_, Builder.printsDate_of_ofText ht,
    Builder.printsDate_of_ofText hu, ?_⟩
  · rw [print_lt_print_iff, truncated_lt_iff]
    omega
  · rw [print_eq_print_iff, truncated_eq_iff]
    omega
  · intro raw rest field filter hparts
    exact Builder.run_between_of_ofText hparts ht hu field filter

/-- The first and the last millisecond before the epoch. -/
theorem print_order_before_epoch :
    SaysMillis "-62135596800000" (-62135596800000) ∧ SaysMillis "-1" (-1) ∧
      ∃ p₁ p₂ : String, p₁ < p₂ ∧ ∀ filter,
        (Builder.bound .between "made").run filter (.str "-62135596800000|-1") =
          .ok (filter.assign "made" (.doc [(Tag.gte.text, .str p₁), (Tag.lt.text, .str p₂)])) := by
  have hfirst : SaysMillis "-62135596800000" (-62135596800000) :=
    ⟨⟨true, "62135596800000".toList, false⟩, Timestamp.read?_eq_some_iff.1 (by decide +kernel),
      by decide +kernel, by decide +kernel⟩
  have hlast : SaysMillis "-1" (-1) :=
    ⟨⟨true, "1".toList, false⟩, Timestamp.read?_eq_some_iff.1 (by decide +kernel),
      by decide +kernel, by decide +kernel⟩
  obtain ⟨p₁, p₂, hlt, -, -, -, hbetween⟩ := print_order.2 hfirst hlast (by decide)
  refine ⟨hfirst, hlast, p₁, p₂, hlt.2 (by decide), fun filter => ?_⟩
  exact hbetween "-62135596800000|-1" [] "made" filter (by decide +kernel)

end Instant

end QueryFilter
