import QueryFilter.Geometry

/-!
# Reading areas and points

Which texts are rectangles and which are points, and what their numbers are.

* `BoundingBox.exists_read?_iff`: a rectangle is exactly four numerals between commas;
* `NearPoint.exists_read?_iff`: a point is at least two numerals between commas.
-/

namespace QueryFilter

/-- A numeral is a text that has a number. -/
theorem isNumeral_ofList_iff {cs : List Char} :
    isNumeral (String.ofList cs) = true ↔ ∃ x, FiniteDouble.ofNumeral? cs = some x := by
  rw [isNumeral, String.toList_ofList, Option.isSome_iff_exists]

/-- The rectangle of a text. -/
theorem BoundingBox.read?_eq_some_iff {s : String} {b : BoundingBox} :
    read? s = some b ↔ ∃ p₀ p₁ p₂ p₃, Text.splitOn ',' s.toList = [p₀, p₁, p₂, p₃] ∧
      FiniteDouble.ofNumeral? p₀ = some b.minLon ∧ FiniteDouble.ofNumeral? p₁ = some b.minLat ∧
        FiniteDouble.ofNumeral? p₂ = some b.maxLon ∧ FiniteDouble.ofNumeral? p₃ = some b.maxLat := by
  rw [read?]
  refine ⟨?_, ?_⟩
  · intro h
    split at h
    next w s' e n hparts =>
      obtain rfl := Option.some.inj h
      obtain ⟨p₀, _, hparts, h₀, htail⟩ := List.map_eq_cons_iff.1 hparts
      obtain ⟨p₁, _, rfl, h₁, htail⟩ := List.map_eq_cons_iff.1 htail
      obtain ⟨p₂, _, rfl, h₂, htail⟩ := List.map_eq_cons_iff.1 htail
      obtain ⟨p₃, _, rfl, h₃, htail⟩ := List.map_eq_cons_iff.1 htail
      obtain rfl := List.map_eq_nil_iff.1 htail
      exact ⟨p₀, p₁, p₂, p₃, hparts, h₀, h₁, h₂, h₃⟩
    · simp at h
  · rintro ⟨p₀, p₁, p₂, p₃, hparts, h₀, h₁, h₂, h₃⟩
    simp only [hparts, List.map_cons, List.map_nil, h₀, h₁, h₂, h₃]

/-- The texts that are rectangles. -/
theorem BoundingBox.exists_read?_iff {s : String} :
    (∃ b, read? s = some b) ↔ ∃ p₀ p₁ p₂ p₃, Text.splitOn ',' s.toList = [p₀, p₁, p₂, p₃] ∧
      ∀ p ∈ [p₀, p₁, p₂, p₃], isNumeral (String.ofList p) = true := by
  simp only [List.forall_mem_cons, isNumeral_ofList_iff]
  constructor
  · rintro ⟨b, hb⟩
    obtain ⟨p₀, p₁, p₂, p₃, hparts, h₀, h₁, h₂, h₃⟩ := read?_eq_some_iff.1 hb
    exact ⟨p₀, p₁, p₂, p₃, hparts, ⟨_, h₀⟩, ⟨_, h₁⟩, ⟨_, h₂⟩, ⟨_, h₃⟩, by simp⟩
  · rintro ⟨p₀, p₁, p₂, p₃, hparts, ⟨w, h₀⟩, ⟨s', h₁⟩, ⟨e, h₂⟩, ⟨n, h₃⟩, -⟩
    exact ⟨⟨w, s', e, n⟩, read?_eq_some_iff.2 ⟨p₀, p₁, p₂, p₃, hparts, h₀, h₁, h₂, h₃⟩⟩

/-- The point of a text. -/
theorem NearPoint.read?_eq_some_iff {s : String} {p : NearPoint} :
    read? s = some p ↔ ∃ p₀ p₁ rest, Text.splitOn ',' s.toList = p₀ :: p₁ :: rest ∧
      FiniteDouble.ofNumeral? p₀ = some p.lon ∧ FiniteDouble.ofNumeral? p₁ = some p.lat ∧
        p.distance = .read rest := by
  rw [read?]
  refine ⟨?_, ?_⟩
  · intro h
    split at h
    next p₀ p₁ rest hparts =>
      split at h
      next lon lat h₀ h₁ =>
        obtain rfl := Option.some.inj h
        exact ⟨p₀, p₁, rest, hparts, h₀, h₁, rfl⟩
      · simp at h
    · simp at h
  · rintro ⟨p₀, p₁, rest, hparts, h₀, h₁, hd⟩
    simp only [hparts, h₀, h₁, ← hd]

/-- The texts that are points. -/
theorem NearPoint.exists_read?_iff {s : String} :
    (∃ p, read? s = some p) ↔ ∃ p₀ p₁ rest, Text.splitOn ',' s.toList = p₀ :: p₁ :: rest ∧
      ∀ p ∈ [p₀, p₁], isNumeral (String.ofList p) = true := by
  simp only [List.forall_mem_cons, isNumeral_ofList_iff]
  constructor
  · rintro ⟨p, hp⟩
    obtain ⟨p₀, p₁, rest, hparts, h₀, h₁, -⟩ := read?_eq_some_iff.1 hp
    exact ⟨p₀, p₁, rest, hparts, ⟨_, h₀⟩, ⟨_, h₁⟩, by simp⟩
  · rintro ⟨p₀, p₁, rest, hparts, ⟨lon, h₀⟩, ⟨lat, h₁⟩, -⟩
    exact ⟨⟨lon, lat, .read rest⟩, read?_eq_some_iff.2 ⟨p₀, p₁, rest, hparts, h₀, h₁, rfl⟩⟩

end QueryFilter
