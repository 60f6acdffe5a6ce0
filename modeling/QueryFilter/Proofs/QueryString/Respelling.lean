import QueryFilter.Proofs.QueryString.ArraySuffix
import QueryFilter.Proofs.QueryString.Group
import QueryFilter.Proofs.QueryString.Pairs
import Mathlib.Logic.Equiv.Basic

/-!
# Two spellings of lists

A list is written by repeating its name, with or without the array suffix after it. A query
string in which the suffix was written after every occurrence of a name (`IsRespelling`), such as
`respell` makes, has the same pairs but for this name; and if there were several, and none with
the suffix before, then the mapping is the same but for the name of the list.

* `isRespelling_respell`: the suffix can be written, whatever the query string looks like;
* `decode_of_isRespelling`: the mapping after that.
-/

namespace QueryFilter.QueryString

open Text

variable {name : String}

/-! ## Pairs -/

/-- The array suffix after one name, other names as they are. -/
def bracketName (name k : String) : String :=
  if k = name then name ++ "[]" else k

/-- The array suffix after the name of a pair, if that is `name`. -/
def bracketPair (name : String) (p : String × String) : String × String :=
  (bracketName name p.1, p.2)

/-- Whether the second query string has the pairs of the first one, with the array suffix after
    every occurrence of a name. How the suffix and the rest are escaped does not matter. -/
def IsRespelling (name query query' : String) : Prop :=
  pairs query'.toList = (pairs query.toList).map (bracketPair name)

instance (name query query' : String) : Decidable (IsRespelling name query query') :=
  inferInstanceAs (Decidable (_ = _))

/-! ## Pieces -/

/-- The pieces of a query string. -/
def pieces (query : List Char) : List (List Char) :=
  splitOn '&' (query.dropWhile (· == '?'))

/-- The array suffix after the name in a piece, which ends at the first equals sign. -/
def bracketPiece (piece : List Char) : List Char :=
  match cut '=' piece with
  | (raw, none) => raw ++ arraySuffix
  | (raw, some value) => raw ++ arraySuffix ++ '=' :: value

/-- A piece with the array suffix after its name, if that is `name`. An empty piece has no
    name. -/
def respellPiece (name : String) (piece : List Char) : List Char :=
  if piece ≠ [] ∧ (decodePair piece).1 = name then bracketPiece piece else piece

/-- A query string with the array suffix written after every occurrence of a name. Question
    marks before it are kept. -/
def respell (name query : String) : String :=
  String.ofList <| query.toList.takeWhile (· == '?') ++
    joinWith ['&'] ((pieces query.toList).map (respellPiece name))

/-- Only a part is put into a piece. -/
theorem exists_bracketPiece_eq (piece : List Char) :
    ∃ raw rest, piece = raw ++ rest ∧ bracketPiece piece = raw ++ arraySuffix ++ rest := by
  by_cases h : '=' ∈ piece
  · obtain ⟨raw, value, rfl, hraw⟩ := List.eq_append_cons_of_mem h
    exact ⟨raw, '=' :: value, rfl, by rw [bracketPiece, cut_append hraw]⟩
  · refine ⟨piece, [], (List.append_nil _).symm, ?_⟩
    rw [bracketPiece, cut_of_not_mem h, List.append_nil]

/-- The piece stands for the pair with the suffix. -/
theorem decodePair_bracketPiece (piece : List Char) :
    decodePair (bracketPiece piece) = ((decodePair piece).1 ++ "[]", (decodePair piece).2) := by
  have hsuffix : '=' ∉ arraySuffix := by decide
  by_cases h : '=' ∈ piece
  · obtain ⟨raw, value, rfl, hraw⟩ := List.eq_append_cons_of_mem h
    have hraw' : '=' ∉ raw ++ arraySuffix := fun h => (List.mem_append.1 h).elim hraw hsuffix
    rw [bracketPiece, cut_append hraw, decodePair, decodePair, cut_append hraw, cut_append hraw',
      decodePart_append_arraySuffix]
  · have hpiece : '=' ∉ piece ++ arraySuffix := fun h' => (List.mem_append.1 h').elim h hsuffix
    rw [bracketPiece, cut_of_not_mem h, decodePair, decodePair, cut_of_not_mem h,
      cut_of_not_mem hpiece, decodePart_append_arraySuffix]

/-- The suffix is put into a piece, or the piece is kept. -/
theorem respellPiece_cases (name : String) (piece : List Char) : respellPiece name piece = piece ∨
    ∃ raw rest, piece = raw ++ rest ∧ respellPiece name piece = raw ++ arraySuffix ++ rest := by
  rw [respellPiece]
  split_ifs with h
  · exact .inr (exists_bracketPiece_eq piece)
  · exact .inl rfl

/-- No piece becomes empty, and no empty one becomes another. -/
theorem respellPiece_eq_nil_iff {piece : List Char} : respellPiece name piece = [] ↔ piece = [] := by
  constructor
  · intro h
    rcases respellPiece_cases name piece with hkeep | ⟨raw, rest, -, hput⟩
    · rw [← hkeep, h]
    · rw [h] at hput
      simp [arraySuffix] at hput
  · rintro rfl
    rw [respellPiece, if_neg fun h => h.1 rfl]

/-- A piece has no other characters than before and those of the suffix. -/
theorem mem_of_mem_respellPiece {piece : List Char} {c : Char} (h : c ∈ respellPiece name piece) :
    c ∈ piece ∨ c ∈ arraySuffix := by
  rcases respellPiece_cases name piece with hkeep | ⟨raw, rest, rfl, hput⟩
  · exact .inl (hkeep ▸ h)
  · rw [hput] at h
    simp only [List.mem_append] at h ⊢
    tauto

/-- A piece begins as before, or with the suffix. -/
theorem head?_of_head?_respellPiece {piece : List Char} {c : Char} (hc : c ≠ '[')
    (h : (respellPiece name piece).head? = some c) : piece.head? = some c := by
  rcases respellPiece_cases name piece with hkeep | ⟨raw, rest, rfl, hput⟩
  · rwa [hkeep] at h
  · rw [hput] at h
    cases raw with
    | nil => exact absurd (Option.some.inj h).symm hc
    | cons d raw => exact h

/-- The piece stands for the pair that has the suffix, if it stands for one with the name. -/
theorem decodePair_respellPiece {piece : List Char} (hpiece : piece ≠ []) :
    decodePair (respellPiece name piece) = bracketPair name (decodePair piece) := by
  rw [respellPiece, bracketPair, bracketName]
  by_cases h : (decodePair piece).1 = name
  · rw [if_pos ⟨hpiece, h⟩, if_pos h, decodePair_bracketPiece, h]
  · rw [if_neg fun h' => h h'.2, if_neg h]

/-- The first piece does not begin with a question mark. -/
theorem head?_ne_of_head?_pieces {query piece : List Char} (h : (pieces query).head? = some piece) :
    piece.head? ≠ some '?' := by
  intro hpiece
  have hfirst : (joinWith ['&'] (pieces query)).head? = some '?' :=
    (head?_joinWith_iff (by decide) _).2 ⟨piece, h, hpiece⟩
  rw [pieces, joinWith_splitOn] at hfirst
  have hnot := List.head?_dropWhile_not (· == '?') query
  rw [hfirst] at hnot
  exact absurd hnot (by decide)

/-- The pairs of a query string after the suffix was written are those from before, with the
    suffix. -/
theorem isRespelling_respell (name query : String) : IsRespelling name query (respell name query) := by
  have hmarks : ∀ c ∈ query.toList.takeWhile (· == '?'), c = '?' :=
    fun c hc => by simpa using List.all_eq_true.1 List.all_takeWhile c hc
  have hsep : ∀ piece ∈ (pieces query.toList).map (respellPiece name), '&' ∉ piece := by
    intro piece hpiece h
    obtain ⟨old, hold, rfl⟩ := List.mem_map.1 hpiece
    rcases mem_of_mem_respellPiece h with h | h
    · exact not_mem_of_mem_splitOn hold h
    · exact absurd h (by decide)
  have hhead : ∀ piece, ((pieces query.toList).map (respellPiece name)).head? = some piece →
      piece.head? ≠ some '?' := by
    intro piece hpiece h
    rw [List.head?_map, Option.map_eq_some_iff] at hpiece
    obtain ⟨old, hold, rfl⟩ := hpiece
    exact head?_ne_of_head?_pieces hold (head?_of_head?_respellPiece (by decide) h)
  have hfilter : ((fun piece => decide (piece ≠ [])) ∘ respellPiece name) =
      fun piece => decide (piece ≠ []) := by
    funext piece
    simp only [Function.comp_apply, ne_eq, respellPiece_eq_nil_iff]
  rw [IsRespelling, respell, String.toList_ofList, pairs_append_of_marks hmarks,
    pairs_joinWith hsep hhead, pairs, List.filter_map, hfilter, List.map_map, List.map_map]
  refine List.map_congr_left fun piece hpiece => ?_
  exact decodePair_respellPiece (by simpa using (List.mem_filter.1 hpiece).2)

/-! ## Mappings -/

/-- The value of a name that occurs several times is a list. -/
theorem exists_list_of_mem_decode {query : String}
    (hmany : 2 ≤ ((pairs query.toList).map Prod.fst).count name) {raw : Value}
    (h : (name, raw) ∈ decode query) : ∃ items, raw = .list items := by
  rw [decode_eq] at h
  obtain ⟨k, -, hk⟩ := List.mem_map.1 h
  obtain ⟨rfl, rfl⟩ := Prod.mk.inj hk
  refine ⟨_, fieldValue_of_list (.inr ?_)⟩
  rw [length_valuesOf]
  exact Nat.ne_of_gt hmany

/-- The suffix makes no difference to the value of a name that does not have just one text. -/
theorem fieldValue_bracketName {k : String} {texts : List String}
    (h : k = name → texts.length ≠ 1) :
    fieldValue (bracketName name k) texts = fieldValue k texts := by
  rw [bracketName]
  split_ifs with hk
  · rw [fieldValue_of_list (.inl (hasArraySuffix_iff.2 ⟨name, rfl⟩)), fieldValue_of_list (.inr (h hk))]
  · rfl

/-- A list under another name is the same list. -/
theorem decode_of_isRespelling {query query' : String}
    (hmany : 2 ≤ ((pairs query.toList).map Prod.fst).count name)
    (hnew : name ++ "[]" ∉ (pairs query.toList).map Prod.fst) (h : IsRespelling name query query') :
    decode query' = (decode query).map fun field => (bracketName name field.1, field.2) := by
  -- Among the names that occur, the change is one that exchanges two names.
  have hswap : ∀ k ∈ (pairs query.toList).map Prod.fst,
      Equiv.swap name (name ++ "[]") k = bracketName name k := by
    intro k hk
    have hne : k ≠ name ++ "[]" := fun e => hnew (e ▸ hk)
    rw [bracketName]
    split_ifs with hkname
    · rw [hkname, Equiv.swap_apply_left]
    · rw [Equiv.swap_apply_of_ne_of_ne hkname hne]
  have hpairs : pairs query'.toList =
      (pairs query.toList).map fun p => (Equiv.swap name (name ++ "[]") p.1, p.2) := by
    rw [h]
    refine List.map_congr_left fun p hp => ?_
    rw [bracketPair, hswap p.1 (List.mem_map_of_mem hp)]
  rw [decode, hpairs, group_map_of_injective (Equiv.injective _), group_eq, decode_eq, List.map_map,
    List.map_map, List.map_map]
  refine List.map_congr_left fun k hk => ?_
  have hlength : k = name → (valuesOf (pairs query.toList) k).length ≠ 1 := by
    rintro rfl
    rw [length_valuesOf]
    exact Nat.ne_of_gt hmany
  simp only [Function.comp_apply, hswap k (mem_namesOf.1 hk), fieldValue_bracketName hlength]

end QueryFilter.QueryString
