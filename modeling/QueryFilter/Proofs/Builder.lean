import QueryFilter.Builder
import QueryFilter.Proofs.Date.Timestamp
import QueryFilter.Proofs.Geometry
import QueryFilter.Proofs.Grammar

/-!
# What built-in builders understand

The request values that each of the built-in builders understands
(`BuilderKind.Understands`), and those on which it fails, since they hold a timestamp with too
many digits (`BuilderKind.Fails`). What such a builder adds to a filter does not depend on the
filter (`Builder.entryOf`).

* `exists_condition_iff`, `condition_eq_error_iff`: what is understood, and what fails;
* `BuilderKind.isCondition_of_condition`: what is understood says a condition;
* `run_bound_cases`: the three ways in which a built-in builder can end;
* `run_of_isBound`: a built-in builder is told by what it adds.
-/

namespace QueryFilter

/-- Whether a text is a date. -/
def IsDate (s : String) : Prop :=
  ∃ t, Instant.ofText s = .ok (some t)

namespace BuilderKind

/-- Whether a builder of the kind understands a value: four numerals between commas; at
    least two of them; a date; or two dates with a bar between them, and perhaps after
    them. -/
def Understands : BuilderKind → Value → Prop
  | .bbox, .str s => ∃ p₀ p₁ p₂ p₃, Text.splitOn ',' s.toList = [p₀, p₁, p₂, p₃] ∧
      ∀ p ∈ [p₀, p₁, p₂, p₃], isNumeral (String.ofList p) = true
  | .near, .str s => ∃ p₀ p₁ rest, Text.splitOn ',' s.toList = p₀ :: p₁ :: rest ∧
      ∀ p ∈ [p₀, p₁], isNumeral (String.ofList p) = true
  | .after, .str s => IsDate s
  | .before, .str s => IsDate s
  | .between, .str s => ∃ p₀ p₁ rest, Text.splitOn '|' s.toList = p₀ :: p₁ :: rest ∧
      IsDate (String.ofList p₀) ∧ IsDate (String.ofList p₁)
  | _, _ => False

/-- Whether a builder of the kind fails on a value because of a timestamp that has `count`
    digits: a date, or the first of two dates that is such a timestamp. -/
def Fails : BuilderKind → Value → (count : Nat) → Prop
  | .after, .str s, count => IsOverlong s count
  | .before, .str s, count => IsOverlong s count
  | .between, .str s, count => ∃ p₀ p₁ rest, Text.splitOn '|' s.toList = p₀ :: p₁ :: rest ∧
      (IsOverlong (String.ofList p₀) count ∨
        (∀ n, ¬IsOverlong (String.ofList p₀) n) ∧ IsOverlong (String.ofList p₁) count)
  | _, _, _ => False

/-- What is said by one date has the date in it. -/
theorem exists_eq_dateCondition {tag : Tag} {raw : Value} {c : Document}
    (h : (Instant.ofValue raw).map (·.map (dateCondition tag)) = .ok (some c)) :
    ∃ t, c = dateCondition tag t := by
  cases hread : Instant.ofValue raw with
  | error e => simp [hread, Except.map] at h
  | ok t? =>
    rw [hread] at h
    obtain ⟨t, -, ht⟩ := Option.map_eq_some_iff.1 (Except.ok.inj h)
    exact ⟨t, ht.symm⟩

/-- What is understood of two dates with a bar between them. -/
theorem betweenCondition_eq_some_iff {s : String} {c : Document} :
    betweenCondition s = .ok (some c) ↔ ∃ p₀ p₁ rest start stop,
      Text.splitOn '|' s.toList = p₀ :: p₁ :: rest ∧
        Instant.ofText (String.ofList p₀) = .ok (some start) ∧
          Instant.ofText (String.ofList p₁) = .ok (some stop) ∧
            c = dateCondition .gte start ++ dateCondition .lt stop := by
  refine ⟨?_, ?_⟩
  · intro h
    rw [betweenCondition] at h
    split at h
    next p₀ p₁ rest hparts =>
      rcases h₀ : Instant.ofText (String.ofList p₀) with e | _ | start <;>
        rcases h₁ : Instant.ofText (String.ofList p₁) with e | _ | stop <;>
        simp only [h₀, h₁, bind, Except.bind, pure, Except.pure, Except.ok.injEq,
          Option.some.injEq, reduceCtorEq] at h
      exact ⟨p₀, p₁, rest, start, stop, hparts, h₀, h₁, h.symm⟩
    next => simp [pure, Except.pure] at h
  · rintro ⟨p₀, p₁, rest, start, stop, hparts, h₀, h₁, rfl⟩
    rw [betweenCondition, hparts]
    simp only [h₀, h₁]
    rfl

/-- When two dates with a bar between them are not read: reading the first one fails, or
    reading the second one does. -/
theorem betweenCondition_eq_error_iff {s : String} {e : TooManyDigits} :
    betweenCondition s = .error e ↔ ∃ p₀ p₁ rest,
      Text.splitOn '|' s.toList = p₀ :: p₁ :: rest ∧
        (Instant.ofText (String.ofList p₀) = .error e ∨
          (∀ e', Instant.ofText (String.ofList p₀) ≠ .error e') ∧
            Instant.ofText (String.ofList p₁) = .error e) := by
  refine ⟨?_, ?_⟩
  · intro h
    rw [betweenCondition] at h
    split at h
    next p₀ p₁ rest hparts =>
      refine ⟨p₀, p₁, rest, hparts, ?_⟩
      rcases h₀ : Instant.ofText (String.ofList p₀) with e' | start?
      · rw [h₀] at h
        exact .inl (congrArg _ (Except.error.inj h))
      rcases h₁ : Instant.ofText (String.ofList p₁) with e' | stop?
      · rw [h₀, h₁] at h
        exact .inr ⟨by simp, congrArg _ (Except.error.inj h)⟩
      · rcases start? with _ | start <;> rcases stop? with _ | stop <;>
          simp [h₀, h₁, bind, Except.bind, pure, Except.pure] at h
    next => simp [pure, Except.pure] at h
  · rintro ⟨p₀, p₁, rest, hparts, h⟩
    rw [betweenCondition, hparts]
    rcases h with h₀ | ⟨h₀, h₁⟩
    · simp only [h₀]
      rfl
    · rcases hd : Instant.ofText (String.ofList p₀) with e' | start?
      · exact absurd hd (h₀ e')
      · simp only [hd, h₁]
        rfl

/-- The values that a builder understands are those that say a condition. -/
theorem exists_condition_iff {kind : BuilderKind} {raw : Value} :
    (∃ c, kind.condition raw = .ok (some c)) ↔ kind.Understands raw := by
  cases raw with
  | str s =>
    cases kind with
    | bbox =>
      rw [Understands, ← BoundingBox.exists_read?_iff]
      cases h : BoundingBox.read? s <;> simp [condition, BoundingBox.ofValue?, Value.str?, h]
    | near =>
      rw [Understands, ← NearPoint.exists_read?_iff]
      cases h : NearPoint.read? s <;> simp [condition, NearPoint.ofValue?, Value.str?, h]
    | after | before =>
      rcases h : Instant.ofText s with e | _ | t <;>
        simp [condition, Instant.ofValue, Understands, IsDate, h, Except.map]
    | between =>
      simp only [condition, Understands, betweenCondition_eq_some_iff, IsDate]
      constructor
      · rintro ⟨_, p₀, p₁, rest, start, stop, hparts, h₀, h₁, -⟩
        exact ⟨p₀, p₁, rest, hparts, ⟨start, h₀⟩, ⟨stop, h₁⟩⟩
      · rintro ⟨p₀, p₁, rest, hparts, ⟨start, h₀⟩, ⟨stop, h₁⟩⟩
        exact ⟨_, p₀, p₁, rest, start, stop, hparts, h₀, h₁, rfl⟩
  | _ =>
    cases kind <;> simp [condition, BoundingBox.ofValue?, NearPoint.ofValue?, Value.str?,
      Instant.ofValue, Understands, Except.map]

/-- The values that a builder fails on. -/
theorem condition_eq_error_iff {kind : BuilderKind} {raw : Value} {e : TooManyDigits} :
    kind.condition raw = .error e ↔ kind.Fails raw e.count := by
  -- The two builders of one date differ in their tags only.
  have hdate : ∀ (s : String) (tag : Tag),
      (Instant.ofText s).map (·.map (dateCondition tag)) = .error e ↔ IsOverlong s e.count := by
    intro s tag
    rw [← Instant.ofText_eq_error_iff]
    cases Instant.ofText s <;> simp [Except.map]
  cases raw with
  | str s =>
    cases kind with
    | bbox | near => simp [condition, Fails]
    | after | before => exact hdate s _
    | between =>
      have hfree : ∀ p : List Char, (∀ e', Instant.ofText (String.ofList p) ≠ .error e') ↔
          ∀ n, ¬IsOverlong (String.ofList p) n := fun p =>
        ⟨fun h n hn => h ⟨n⟩ (Instant.ofText_eq_error_iff.2 hn),
          fun h e' he => h e'.count (Instant.ofText_eq_error_iff.1 he)⟩
      simp only [condition, Fails, betweenCondition_eq_error_iff, hfree, Instant.ofText_eq_error_iff]
  | _ =>
    cases kind <;> simp [condition, Instant.ofValue, Fails, Except.map]

/-- When a builder fails, by its error. -/
theorem fails_iff {kind : BuilderKind} {raw : Value} {n : Nat} :
    kind.Fails raw n ↔ kind.condition raw = .error ⟨n⟩ :=
  condition_eq_error_iff.symm

end BuilderKind

/-! ## Conditions -/

/-- To be in a rectangle is a condition. -/
theorem BoundingBox.isCondition_condition (b : BoundingBox) : IsCondition b.condition :=
  .within b.minLon b.minLat b.maxLon b.maxLat

/-- Bounds add the distances of a point. -/
theorem DistanceBounds.isDistances_entries (d : DistanceBounds) : IsDistances d.entries := by
  cases d with
  | unbounded => exact .unbounded
  | upTo most => exact .upTo most
  | between most least => exact .between most least

/-- To be near a point is a condition. -/
theorem NearPoint.isCondition_condition (p : NearPoint) : IsCondition p.condition :=
  .near p.lon p.lat p.distance.isDistances_entries

/-- What a built-in builder says is a condition. -/
theorem BuilderKind.isCondition_of_condition {kind : BuilderKind} {raw : Value} {c : Document}
    (h : kind.condition raw = .ok (some c)) : IsCondition c := by
  cases kind with
  | bbox =>
    obtain ⟨b, -, rfl⟩ := Option.map_eq_some_iff.1 (Except.ok.inj h)
    exact b.isCondition_condition
  | near =>
    obtain ⟨p, -, rfl⟩ := Option.map_eq_some_iff.1 (Except.ok.inj h)
    exact p.isCondition_condition
  | after =>
    obtain ⟨t, rfl⟩ := exists_eq_dateCondition h
    exact .since t
  | before =>
    obtain ⟨t, rfl⟩ := exists_eq_dateCondition h
    exact .before t
  | between =>
    cases raw with
    | str s =>
      obtain ⟨_, _, _, start, stop, -, -, -, rfl⟩ := betweenCondition_eq_some_iff.1 h
      exact .between start stop
    | _ => simp [condition] at h

/-! ## Runs -/

namespace Builder

/-- The three ways in which a built-in builder can end: it fails on a timestamp with too many
    digits, it leaves alone what it does not understand, or it gives its field a value of
    which the filter so far is no part. -/
theorem run_bound_cases (kind : BuilderKind) (field : String) (raw : Value) :
    (∃ n, kind.Fails raw n ∧ ∀ filter,
      (bound kind field).run filter raw = .error (.tooManyDigits ⟨n⟩)) ∨
    ((∀ n, ¬kind.Fails raw n) ∧ ¬kind.Understands raw ∧ ∀ filter,
      (bound kind field).run filter raw = .ok filter) ∨
    ((∀ n, ¬kind.Fails raw n) ∧ kind.Understands raw ∧ ∃ c, ∀ filter,
      (bound kind field).run filter raw = .ok (filter.assign field (.doc c))) := by
  simp only [BuilderKind.fails_iff, ← BuilderKind.exists_condition_iff]
  rcases h : kind.condition raw with e | _ | c
  · exact .inl ⟨e.count, rfl, fun filter => by simp only [run, h]⟩
  · exact .inr (.inl ⟨by simp, by simp, fun filter => by simp only [run, h]⟩)
  · exact .inr (.inr ⟨by simp, ⟨c, rfl⟩, c, fun filter => by simp only [run, h]⟩)

/-- What a builder adds to any filter, if it is a built-in one that understands the value.
    What other builders do cannot be told without the filter. -/
def entryOf (b : Builder) (raw : Value) : Except BuilderError (Option (String × Value)) :=
  match b with
  | .bound kind field =>
    match kind.condition raw with
    | .error e => .error (.tooManyDigits e)
    | .ok c => .ok (c.map fun c => (field, .doc c))
  | .call _ => .ok none

/-- A built-in builder assigns what it adds. -/
theorem run_of_isBound {b : Builder} (h : b.IsBound) (filter : Document) (raw : Value) :
    b.run filter raw = (b.entryOf raw).map fun entry => filter.update entry.toList := by
  cases b with
  | bound kind field =>
    rcases hc : kind.condition raw with e | _ | c <;>
      simp [run, entryOf, hc, Except.map, Entries.update]
  | call run => exact h.elim

/-- When a built-in builder fails. -/
theorem entryOf_eq_error_iff {b : Builder} {raw : Value} {e : BuilderError} :
    b.entryOf raw = .error e ↔
      ∃ kind field n, b = .bound kind field ∧ kind.Fails raw n ∧ e = .tooManyDigits ⟨n⟩ := by
  simp only [BuilderKind.fails_iff]
  refine ⟨?_, ?_⟩
  · intro h
    cases b with
    | bound kind field =>
      rw [entryOf] at h
      split at h
      next e' he => exact ⟨kind, field, e'.count, rfl, he, (Except.error.inj h).symm⟩
      next => simp at h
    | call run => simp [entryOf] at h
  · rintro ⟨kind, field, n, rfl, hn, rfl⟩
    simp only [entryOf, hn]

/-- What a built-in builder adds when it understands a value. -/
theorem entryOf_eq_some_iff {b : Builder} {raw : Value} {entry : String × Value} :
    b.entryOf raw = .ok (some entry) ↔ ∃ kind c, b = .bound kind entry.1 ∧
      kind.condition raw = .ok (some c) ∧ entry.2 = .doc c := by
  refine ⟨?_, ?_⟩
  · intro h
    cases b with
    | bound kind field =>
      rw [entryOf] at h
      split at h
      next => simp at h
      next c? hc =>
        obtain ⟨c, rfl, rfl⟩ := Option.map_eq_some_iff.1 (Except.ok.inj h)
        exact ⟨kind, c, rfl, hc, rfl⟩
    | call run => simp [entryOf] at h
  · rintro ⟨kind, c, rfl, hc, hv⟩
    simp only [entryOf, hc, ← hv, Option.map_some]

end Builder

end QueryFilter
