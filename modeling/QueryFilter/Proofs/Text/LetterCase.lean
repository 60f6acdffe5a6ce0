import QueryFilter.Text.Class

/-!
# Letter case

The variants of a character are found through its lower-case form and the lower-case forms
that count as the same letter. This can be gone through backwards: the characters that have a
given variant are among a few that the tables name (`variantSources`), so that a statement
about all characters with such a variant is one about a short list.

* `toNat_mem_of_isAlphanum`: the letters and digits of ASCII;
* `mem_variantSources`: the characters with a given variant.
-/

namespace QueryFilter.Text

/-- The letters and digits of ASCII by their code points. -/
theorem toNat_mem_of_isAlphanum {c : Char} (h : c.isAlphanum = true) :
    c.toNat ∈ List.range' 48 10 ++ List.range' 65 26 ++ List.range' 97 26 := by
  delta Char.isAlphanum Char.isAlpha Char.isUpper Char.isLower Char.isDigit at h
  simp only [Bool.or_eq_true, Bool.and_eq_true, decide_eq_true_eq, UInt32.le_iff_toNat_le] at h
  simp only [List.mem_append, List.mem_range'_1]
  simp at h
  omega

/-- The code points that are or may be lower-case forms of `n`. -/
def lowerForms (n : Nat) : List Nat :=
  n :: Table.lowerings.filterMap (lowersFrom n)

/-- The code points that have `n` as their lower-case form, and `n` itself. -/
def upperForms (n : Nat) : List Nat :=
  n :: Table.lowerings.filterMap (lowersTo n)

/-- The code points that count as the same letter as `n`, and `n` itself. -/
def sameForms (n : Nat) : List Nat :=
  n :: (Table.sameLetters.filter (·.contains n)).flatten

/-- The code points of which `n` may be a variant. -/
def variantSources (n : Nat) : List Nat :=
  (lowerForms n).flatMap fun letter => (sameForms letter).flatMap upperForms

/-- No row of the table of shifts begins at zero or leads below it. -/
theorem shifts_nonneg : ∀ row ∈ Table.lowerings, 0 < row.1 ∧ 0 ≤ (row.1 : Int) + row.2.2.2 := by
  decide +kernel

/-- A row that takes some code point to `m` takes the one that it names there. -/
theorem lowersFrom_of_lowersTo {row : Nat × Nat × Nat × Int} (hrow : row ∈ Table.lowerings)
    {m n : Nat} (h : lowersTo m row = some n) : lowersFrom n row = some m := by
  have hpos := (shifts_nonneg row hrow).1
  simp only [lowersTo, Option.ite_none_right_eq_some, Option.some.injEq] at h
  obtain ⟨⟨hfirst, hlast, hstep⟩, rfl⟩ := h
  rw [lowersFrom, if_pos ⟨hfirst, hlast, hstep⟩]
  congr 1
  omega

/-- A row that takes `n` to `m` names `n` as the code point that is taken there. -/
theorem lowersTo_of_lowersFrom {row : Nat × Nat × Nat × Int} (hrow : row ∈ Table.lowerings)
    {m n : Nat} (h : lowersFrom n row = some m) : lowersTo m row = some n := by
  have hnonneg := (shifts_nonneg row hrow).2
  simp only [lowersFrom, Option.ite_none_right_eq_some, Option.some.injEq] at h
  obtain ⟨⟨hfirst, hlast, hstep⟩, rfl⟩ := h
  have hsource : ((((n : Int) + row.2.2.2).toNat : Int) - row.2.2.2).toNat = n := by omega
  rw [lowersTo, hsource, if_pos ⟨hfirst, hlast, hstep⟩]

/-- A code point has its lower-case form. -/
theorem mem_upperForms_lowerCode (n : Nat) : n ∈ upperForms (lowerCode n) := by
  rw [lowerCode]
  cases h : Table.lowerings.findSome? (lowersFrom n) with
  | none => exact List.mem_cons_self
  | some m =>
    obtain ⟨row, hrow, hm⟩ := List.exists_of_findSome?_eq_some h
    exact List.mem_cons_of_mem _ (List.mem_filterMap.2 ⟨row, hrow, lowersTo_of_lowersFrom hrow hm⟩)

/-- A code point is a lower-case form of those that it is the lower-case form of. -/
theorem mem_lowerForms {m n : Nat} (h : n ∈ upperForms m) : m ∈ lowerForms n := by
  rcases List.mem_cons.1 h with rfl | h
  · exact List.mem_cons_self
  · obtain ⟨row, hrow, hn⟩ := List.mem_filterMap.1 h
    exact List.mem_cons_of_mem _ (List.mem_filterMap.2 ⟨row, hrow, lowersFrom_of_lowersTo hrow hn⟩)

/-- A letter that a lower-case code point counts as counts as the same letter. -/
theorem mem_sameForms {letter low : Nat}
    (h : letter ∈ (Table.sameLetters.find? (·.contains low)).getD [low]) :
    low ∈ sameForms letter := by
  cases hfind : Table.sameLetters.find? (·.contains low) with
  | none =>
    rw [hfind] at h
    exact List.mem_singleton.1 h ▸ List.mem_cons_self
  | some group =>
    rw [hfind] at h
    have hlow : low ∈ group := by simpa using List.find?_some hfind
    have hgroup : group ∈ Table.sameLetters.filter (·.contains letter) :=
      List.mem_filter.2 ⟨List.mem_of_find?_eq_some hfind, List.contains_iff_mem.2 h⟩
    exact List.mem_cons_of_mem _ (List.mem_flatten.2 ⟨group, hgroup, hlow⟩)

/-- A code point is that of its character, unless it has none and counts as zero. -/
theorem toNat_ofNat_of_pos {n : Nat} (h : 0 < (Char.ofNat n).toNat) : (Char.ofNat n).toNat = n := by
  by_cases hn : n.isValidChar
  · rw [Char.ofNat, dif_pos hn]
    rfl
  · rw [Char.ofNat, dif_neg hn] at h
    exact absurd h (by decide)

/-- A character with the variant `d` is one of the sources of `d`. -/
theorem mem_variantSources {c d : Char} (h : d ∈ variants c) (hd : 0 < d.toNat) :
    c.toNat ∈ variantSources d.toNat := by
  rw [variants] at h
  obtain ⟨letter, hletter, h⟩ := List.mem_flatMap.1 h
  obtain ⟨n, hn, rfl⟩ := List.mem_map.1 h
  rw [toNat_ofNat_of_pos hd]
  exact List.mem_flatMap.2 ⟨letter, mem_lowerForms hn, List.mem_flatMap.2
    ⟨lowerCode c.toNat, mem_sameForms hletter, mem_upperForms_lowerCode c.toNat⟩⟩

end QueryFilter.Text
