import QueryFilter.Proofs.Text.Percent
import QueryFilter.Proofs.Text.Split
import QueryFilter.QueryString

/-!
# Pairs of query strings

The pairs of a query string that was put together from pieces, each of which stands for one
pair. Pieces that were encoded stand for the pairs they were made from, so that every list of
pairs can be written as a query string.

* `pairs_append_of_marks`, `pairs_joinWith`: the pairs of a query string, piece by piece;
* `decodePair_encodePair`, `pairs_joinWith_encodePair`: pairs are read back.
-/

namespace QueryFilter.QueryString

open Text

/-- Question marks before a query string are skipped. -/
theorem pairs_append_of_marks {marks : List Char} (h : ∀ c ∈ marks, c = '?') (query : List Char) :
    pairs (marks ++ query) = pairs query := by
  rw [pairs, pairs, List.dropWhile_append_of_pos fun c hc => by simp [h c hc]]

/-- The pairs of pieces that were joined, where no piece is cut and none begins with a
    question mark at the beginning of the query string. -/
theorem pairs_joinWith {pieces : List (List Char)} (hsep : ∀ piece ∈ pieces, '&' ∉ piece)
    (hhead : ∀ piece, pieces.head? = some piece → piece.head? ≠ some '?') :
    pairs (joinWith ['&'] pieces) = (pieces.filter (· ≠ [])).map decodePair := by
  have hmarks : (joinWith ['&'] pieces).dropWhile (· == '?') = joinWith ['&'] pieces := by
    cases hquery : joinWith ['&'] pieces with
    | nil => rfl
    | cons c query =>
      refine List.dropWhile_cons_of_neg fun hc => ?_
      -- A joined text begins like its first piece.
      have hmark : (joinWith ['&'] pieces).head? = some '?' := by
        rw [hquery, List.head?_cons, beq_iff_eq.1 hc]
      obtain ⟨piece, hfirst, hpiece⟩ := (head?_joinWith_iff (by decide) pieces).1 hmark
      exact hhead piece hfirst hpiece
  rw [pairs, hmarks]
  by_cases hnil : pieces = []
  · rw [hnil]
    rfl
  · rw [splitOn_joinWith hnil hsep]

/-- A part that was encoded is read back. -/
theorem decodePart_encode (s : String) : decodePart (Percent.encode s.toList) = s := by
  have hplus : ∀ c ∈ Percent.encode s.toList, (if c = '+' then ' ' else c) = c := by
    intro c hc
    have hne : c ≠ '+' := by
      rintro rfl
      exact absurd (Percent.isWritten_of_mem_encode hc) (by decide)
    rw [if_neg hne]
  rw [decodePart, List.map_congr_left hplus, List.map_id', Percent.decode_encode,
    String.ofList_toList]

/-- A pair that was encoded is read back. -/
theorem decodePair_encodePair (name value : String) :
    decodePair (encodePair name value) = (name, value) := by
  have heq : '=' ∉ Percent.encode name.toList := fun h =>
    absurd (Percent.isWritten_of_mem_encode h) (by decide)
  rw [decodePair, encodePair, cut_append heq, Option.getD_some, decodePart_encode,
    decodePart_encode]

/-- The array suffix after a part stands for itself, whatever the part ends in. -/
theorem decodePart_append_arraySuffix (cs : List Char) :
    decodePart (cs ++ arraySuffix) = decodePart cs ++ "[]" := by
  have hopen := Percent.decode_append_cons (c := '[') (by decide) (by decide) (by decide)
  have hclose := Percent.decode_append_cons (c := ']') (by decide) (by decide) (by decide)
  have hplus : (arraySuffix.map fun c => if c = '+' then ' ' else c) = ['[', ']'] := rfl
  have hlast : Percent.decode [']'] = [']'] := hclose [] []
  rw [decodePart, List.map_append, hplus, hopen, hlast, String.ofList_append, decodePart]

/-- The characters of a pair that was encoded. -/
theorem eq_or_isWritten_of_mem_encodePair {name value : String} {c : Char}
    (h : c ∈ encodePair name value) : c = '=' ∨ Percent.IsWritten c := by
  rcases List.mem_append.1 h with h | h
  · exact .inr (Percent.isWritten_of_mem_encode h)
  · exact (List.mem_cons.1 h).imp_right Percent.isWritten_of_mem_encode

/-- Pairs that were encoded and joined are read back. -/
theorem pairs_joinWith_encodePair (ps : List (String × String)) :
    pairs (joinWith ['&'] (ps.map fun p => encodePair p.1 p.2)) = ps := by
  have hsep : ∀ piece ∈ ps.map fun p => encodePair p.1 p.2, '&' ∉ piece := by
    intro piece hpiece h
    obtain ⟨p, -, rfl⟩ := List.mem_map.1 hpiece
    exact absurd (eq_or_isWritten_of_mem_encodePair h) (by decide)
  have hhead : ∀ piece, (ps.map fun p => encodePair p.1 p.2).head? = some piece →
      piece.head? ≠ some '?' := by
    intro piece hpiece h
    obtain ⟨p, -, rfl⟩ := List.mem_map.1 (List.mem_of_mem_head? hpiece)
    exact absurd (eq_or_isWritten_of_mem_encodePair (List.mem_of_mem_head? h)) (by decide)
  have hne : ∀ piece ∈ ps.map fun p => encodePair p.1 p.2, decide (piece ≠ []) = true := by
    intro piece hpiece
    obtain ⟨p, -, rfl⟩ := List.mem_map.1 hpiece
    simp [encodePair]
  rw [pairs_joinWith hsep hhead, List.filter_eq_self.2 hne, List.map_map]
  refine (List.map_congr_left fun p _ => ?_).trans (List.map_id ps)
  exact decodePair_encodePair p.1 p.2

end QueryFilter.QueryString
