import QueryFilter.QueryString
import Mathlib.Data.List.Basic

/-!
# Array suffixes

The names that end in the array suffix, and what is left of a name without it. The suffix is
dropped once: a name with several of them keeps the others.

* `hasArraySuffix_iff`: the names with an array suffix;
* `dropArraySuffix_append`, `dropArraySuffix_of_not`: names without it;
* `dropArraySuffix_eq_append_iff`: which names end in brackets without their array suffix.
-/

namespace QueryFilter.QueryString

/-- A name with brackets after it, as characters. -/
theorem toList_append_brackets (stem : String) :
    (stem ++ "[]").toList = stem.toList ++ arraySuffix :=
  String.toList_append

/-- The names with an array suffix. -/
theorem hasArraySuffix_iff {name : String} :
    hasArraySuffix name = true ↔ ∃ stem, name = stem ++ "[]" := by
  rw [hasArraySuffix, List.isSuffixOf_iff_suffix]
  constructor
  · rintro ⟨cs, hcs⟩
    refine ⟨.ofList cs, String.toList_inj.1 ?_⟩
    rw [← hcs, toList_append_brackets, String.toList_ofList]
  · rintro ⟨stem, rfl⟩
    exact ⟨stem.toList, (toList_append_brackets stem).symm⟩

/-- One array suffix is dropped. -/
theorem dropArraySuffix_append (stem : String) : dropArraySuffix (stem ++ "[]") = stem := by
  rw [dropArraySuffix, if_pos (hasArraySuffix_iff.2 ⟨stem, rfl⟩), toList_append_brackets,
    List.length_append]
  simp [arraySuffix]

/-- A name without the suffix stays as it is. -/
theorem dropArraySuffix_of_not {name : String} (h : hasArraySuffix name = false) :
    dropArraySuffix name = name := by
  rw [dropArraySuffix, if_neg (by simp [h])]

/-- What is left ends in brackets if there were two pairs of them. -/
theorem dropArraySuffix_eq_append_iff {name stem : String} :
    dropArraySuffix name = stem ++ "[]" ↔ name = stem ++ "[][]" := by
  have hpairs : stem ++ "[][]" = stem ++ "[]" ++ "[]" := by rw [String.append_assoc]; rfl
  rw [hpairs]
  constructor
  · intro h
    by_cases hsuffix : hasArraySuffix name = true
    · obtain ⟨stem', rfl⟩ := hasArraySuffix_iff.1 hsuffix
      rw [← h, dropArraySuffix_append]
    · -- Without an array suffix nothing is dropped, and so there was one.
      rw [dropArraySuffix_of_not (by simpa using hsuffix)] at h
      exact absurd (hasArraySuffix_iff.2 ⟨stem, h⟩) hsuffix
  · rintro rfl
    exact dropArraySuffix_append _

end QueryFilter.QueryString
