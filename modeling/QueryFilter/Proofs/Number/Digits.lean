import QueryFilter.Number.Numeral

/-!
# Signs and runs of digits

How the readers of numerals and timestamps begin: a sign or none, and the longest run of
digits.

* `IsSign`: the written forms of a sign;
* `takeSign_append`: a sign before a digit is taken off;
* `takeWhile_append_of_head`, `dropWhile_append_of_head`: a run of digits, or of characters of
  another class, ends where something else begins;
* `isBlank_of_isDigit`: digits are no blanks.
-/

namespace QueryFilter

/-- The written forms of a sign: a minus, and a plus or nothing. -/
inductive IsSign : Bool → List Char → Prop
  | minus : IsSign true ['-']
  | plus : IsSign false ['+']
  | none : IsSign false []

/-- What is taken off a text is a sign. -/
theorem exists_isSign_append (cs : List Char) :
    ∃ sign, IsSign (takeSign cs).1 sign ∧ cs = sign ++ (takeSign cs).2 := by
  rw [takeSign.eq_def]
  split
  · exact ⟨['-'], .minus, rfl⟩
  · exact ⟨['+'], .plus, rfl⟩
  · exact ⟨[], .none, rfl⟩

/-- A sign before a digit is taken off. -/
theorem takeSign_append {negative : Bool} {sign cs : List Char} (h : IsSign negative sign)
    (hcs : cs.head?.any Char.isDigit = true) : takeSign (sign ++ cs) = (negative, cs) := by
  cases h with
  | minus => rfl
  | plus => rfl
  | none =>
    -- Nothing is taken off, because no sign is a digit.
    cases cs with
    | nil => simp at hcs
    | cons c cs =>
      rw [List.nil_append, takeSign.eq_def]
      split
      next e =>
        obtain ⟨rfl, -⟩ := List.cons.inj e
        simp [Char.isDigit] at hcs
      next e =>
        obtain ⟨rfl, -⟩ := List.cons.inj e
        simp [Char.isDigit] at hcs
      next => rfl

variable {p : Char → Bool} {run rest : List Char}

/-- The longest run of characters of a class, up to where another one stands. -/
theorem takeWhile_append_of_head (h : ∀ c ∈ run, p c = true) (hrest : rest.head?.any p = false) :
    (run ++ rest).takeWhile p = run := by
  rw [List.takeWhile_append_of_pos h]
  cases rest with
  | nil => simp
  | cons c rest =>
    rw [List.takeWhile_cons_of_neg (by simpa using hrest), List.append_nil]

/-- What follows the longest run of characters of a class. -/
theorem dropWhile_append_of_head (h : ∀ c ∈ run, p c = true) (hrest : rest.head?.any p = false) :
    (run ++ rest).dropWhile p = rest := by
  rw [List.dropWhile_append_of_pos h]
  cases rest with
  | nil => rfl
  | cons c rest => rw [List.dropWhile_cons_of_neg (by simpa using hrest)]

/-- The code points of digits. -/
theorem toNat_of_isDigit {c : Char} (h : c.isDigit = true) : 48 ≤ c.toNat ∧ c.toNat ≤ 57 := by
  simpa [Char.isDigit, UInt32.le_iff_toNat_le] using h

/-- Digits are no blanks. -/
theorem isBlank_of_isDigit {c : Char} (h : c.isDigit = true) : Text.isBlank c = false := by
  have hrange := toNat_of_isDigit h
  simp only [Text.isBlank, Text.inRanges, Text.blankRanges, List.any_cons, List.any_nil,
    Bool.or_eq_false_iff, Bool.and_eq_false_iff, decide_eq_false_iff_not, and_true]
  omega

end QueryFilter
