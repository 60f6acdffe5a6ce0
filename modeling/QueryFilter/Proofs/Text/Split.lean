import QueryFilter.Text.Split
import Mathlib.Data.List.Basic

/-!
# Splitting and joining

Splitting a text at a separator and joining texts with it are those of lists, and undo each
other: no part has the separator in it, and texts without it are the parts of what they are
joined to.

* `joinWith_splitOn`, `splitOn_joinWith`: one after the other;
* `splitOn_append_cons`, `not_mem_of_mem_splitOn`: the parts of a text;
* `head?_joinWith_iff`: how a text begins that was joined.
-/

namespace QueryFilter.Text

/-- Texts are split like lists. -/
theorem splitOn_eq (sep : Char) (cs : List Char) : splitOn sep cs = cs.splitOn sep := by
  induction cs with
  | nil => exact (List.splitOn_nil sep).symm
  | cons c cs ih =>
    rw [splitOn, List.splitOn_cons_eq_if_modifyHead, ih]
    by_cases hc : c = sep
    · rw [if_pos hc, if_pos (by simpa using hc)]
    · rw [if_neg hc, if_neg (by simpa using hc)]
      -- There is always a first part, to which the character is added.
      have hne : cs.splitOn sep ≠ [] := ih ▸ splitOn_ne_nil sep cs
      cases hparts : cs.splitOn sep with
      | nil => exact absurd hparts hne
      | cons p ps => rfl

/-- Texts are joined like lists. -/
theorem joinWith_eq (sep : List Char) (ps : List (List Char)) :
    joinWith sep ps = sep.intercalate ps := by
  induction ps with
  | nil => rfl
  | cons p ps ih =>
    cases ps with
    | nil => exact List.intercalate_singleton.symm
    | cons q ps => rw [joinWith, List.intercalate_cons_cons, ih]

variable {sep : Char}

/-- The parts of a text are joined to that text. -/
theorem joinWith_splitOn (cs : List Char) : joinWith [sep] (splitOn sep cs) = cs := by
  rw [joinWith_eq, splitOn_eq, List.intercalate_splitOn]

/-- Texts without the separator are the parts of the text that they are joined to. -/
theorem splitOn_joinWith {ps : List (List Char)} (hne : ps ≠ []) (h : ∀ p ∈ ps, sep ∉ p) :
    splitOn sep (joinWith [sep] ps) = ps := by
  rw [joinWith_eq, splitOn_eq, List.splitOn_intercalate sep h hne]

/-- A text without the separator is its only part. -/
theorem splitOn_of_not_mem {cs : List Char} (h : sep ∉ cs) : splitOn sep cs = [cs] :=
  splitOn_joinWith (List.cons_ne_nil cs []) (List.forall_mem_singleton.2 h)

/-- The parts of a text with a separator in it are those before it and those after it. -/
theorem splitOn_append_cons (cs rest : List Char) :
    splitOn sep (cs ++ sep :: rest) = splitOn sep cs ++ splitOn sep rest := by
  induction cs with
  | nil => simp [splitOn]
  | cons c cs ih =>
    rw [List.cons_append, splitOn, splitOn, ih]
    split_ifs with hc
    · rfl
    · -- The character goes to the first of the parts before the separator.
      cases hparts : splitOn sep cs with
      | nil => exact absurd hparts (splitOn_ne_nil sep cs)
      | cons p ps => rfl

/-- No part has the separator in it. -/
theorem not_mem_of_mem_splitOn {cs p : List Char} (h : p ∈ splitOn sep cs) : sep ∉ p := by
  induction cs generalizing p with
  | nil =>
    rw [List.mem_singleton.1 h]
    exact List.not_mem_nil
  | cons c cs ih =>
    rw [splitOn] at h
    split_ifs at h with hc
    · rcases List.mem_cons.1 h with rfl | h
      · exact List.not_mem_nil
      · exact ih h
    · cases hparts : splitOn sep cs with
      | nil => exact absurd hparts (splitOn_ne_nil sep cs)
      | cons q qs =>
        rw [hparts] at h ih
        rcases List.mem_cons.1 h with rfl | h
        · exact List.not_mem_cons_of_ne_of_not_mem (Ne.symm hc) (ih List.mem_cons_self)
        · exact ih (List.mem_cons_of_mem _ h)

/-- A text that was joined begins like the first of its parts, or with the separator. -/
theorem head?_joinWith_iff {c : Char} (hc : c ≠ sep) (ps : List (List Char)) :
    (joinWith [sep] ps).head? = some c ↔ ∃ p, ps.head? = some p ∧ p.head? = some c := by
  cases ps with
  | nil => simp [joinWith]
  | cons p ps =>
    cases ps with
    | nil => simp [joinWith]
    | cons q ps => cases p <;> simp [joinWith, Ne.symm hc]

end QueryFilter.Text
