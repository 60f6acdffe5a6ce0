import QueryFilter.Proofs.Pattern.Escape
import QueryFilter.Proofs.Validation

/-!
# Lexemes of patterns

A lexeme takes pieces of the text off the front, as its parts do, and is the end because of a number
that is too large only if the number stands in these pieces (`LexemeSound`). So this holds of all
lexemes of a text, by induction on the pieces that are left.

* `extension_sound`, `braces_sound`: what begins a group, and repetition marks;
* `lexeme_sound`: one lexeme;
* `writes_of_mem_lexemes`: all lexemes of a text.
-/

namespace QueryFilter.Pattern

variable {names : CharNames} {ps qs rest : List Piece} {o : Overflow} {e : PatternError}
  {α : Type} {r : Reading α}

/-! ## Groups -/

/-- What is left after options. -/
theorem takeFlags_suffix (ps : List Piece) : (takeFlags ps).2 <:+ ps :=
  takeIn_suffix _ _ ps

/-- Options are sound. -/
theorem options_sound : Sound ps (options ps) := by
  have hon := takeFlags_suffix ps
  rw [options]
  dsimp only
  split
  next => exact sound_refused
  next =>
    split
    next rest hrest =>
      rw [hrest] at hon
      split_ifs
      · exact sound_refused
      · exact .ok ((List.suffix_cons _ rest).trans hon)
    next rest hrest =>
      rw [hrest] at hon
      split_ifs
      · exact sound_refused
      · exact .ok ((List.suffix_cons _ rest).trans hon)
    next rest hrest =>
      rw [hrest] at hon
      have hoff := ((takeFlags_suffix rest).trans (List.suffix_cons _ rest)).trans hon
      split
      next rest' hrest' =>
        rw [hrest'] at hoff
        split_ifs
        · exact sound_refused
        · exact .ok ((List.suffix_cons _ rest').trans hoff)
      next => exact sound_refused
    next => exact sound_refused

/-- A name is sound. -/
theorem name_sound (stop : Char) : Sound ps (name stop ps) := by
  rw [name]
  split
  next name rest hcut =>
    split_ifs
    · exact .ok (cutAt?_suffix hcut)
    · exact sound_refused
  next => exact sound_refused

/-- A condition is sound. -/
theorem condition_sound : Sound ps (condition ps) := by
  rw [condition]
  split
  next name rest hcut =>
    split
    next => exact .ok (cutAt?_suffix hcut)
    next => exact sound_refused
  next => exact sound_refused

/-- What begins a group is sound. -/
theorem extension_sound : Sound ps (extension ps) := by
  unfold extension
  dsimp only
  have hskip : ∀ {p : Piece} {ps : List Piece}, ps <:+ p :: ps := List.suffix_cons _ _
  split
  case h_1 | h_2 | h_3 | h_4 => exact .ok hskip
  case h_5 | h_6 => exact .ok (hskip.trans hskip)
  case h_7 =>
    split
    next hcut => exact .ok ((cutAt?_suffix hcut).trans hskip)
    next => exact sound_refused
  case h_8 | h_9 => exact .of_suffix (.map (name_sound _) fun _ => rfl) (hskip.trans hskip)
  case h_10 => exact .of_suffix (.map condition_sound fun _ => rfl) hskip
  case h_11 => exact options_sound.map fun _ => rfl

/-- Options are no error. -/
theorem options_ne_failure {l : Lexeme} (h : options ps = .ok (l, rest)) : l ≠ .failure e := by
  rintro rfl
  grind [options, refused]

/-- What begins a group is no error. -/
theorem extension_ne_failure {l : Option Lexeme} (h : extension ps = .ok (l, rest)) :
    l ≠ some (.failure e) := by
  rintro rfl
  unfold extension at h
  dsimp only at h
  split at h
  case h_1 | h_2 | h_3 | h_4 | h_5 | h_6 => cases h
  case h_7 => split at h <;> cases h
  case h_8 | h_9 | h_10 =>
    obtain ⟨x, -, hx⟩ := map_eq_ok_iff.1 h
    cases hx
  case h_11 =>
    obtain ⟨⟨l, rest'⟩, hoptions, hl⟩ := map_eq_ok_iff.1 h
    cases hl
    exact options_ne_failure hoptions rfl

/-! ## Repetition marks -/

/-- A count that is too large. -/
theorem of_count? {digits : List Char} (h : count? digits = .error (.overflow o)) :
    o = .repetitions ∧ digits.length ≤ digitLimit ∧ repetitionLimit ≤ valueOfDigits digits := by
  unfold count? at h
  split_ifs at h with hempty hlength hlarge
  · cases h
  · cases h
    exact ⟨rfl, Nat.le_of_not_lt hlength, Nat.le_of_not_lt hlarge⟩

/-- One of two counts is too large. -/
theorem of_bounds? {low high : List Char} (h : bounds? low high = .error (.overflow o)) :
    o = .repetitions ∧ ∃ digits ∈ [low, high], digits.length ≤ digitLimit ∧
      repetitionLimit ≤ valueOfDigits digits := by
  unfold bounds? at h
  split at h
  next e hlow =>
    cases h
    obtain ⟨rfl, hlarge⟩ := of_count? hlow
    exact ⟨rfl, low, by simp, hlarge⟩
  next =>
    split at h
    next e hhigh =>
      cases h
      obtain ⟨rfl, hlarge⟩ := of_count? hhigh
      exact ⟨rfl, high, by simp, hlarge⟩
    next =>
      dsimp only at h
      split_ifs at h
      cases h

/-- A lexeme with what is left after it, if the lexeme takes pieces off the front, and is an end
    only because of a number that is written in the pieces. -/
structure LexemeSound (ps : List Piece) (x : Option Lexeme × List Piece) : Prop where
  suffix : x.2 <:+ ps
  writes : ∀ o, x.1 = some (.failure (.overflow o)) → Writes o (source ps)

/-- A lexeme that is no error. -/
theorem LexemeSound.of_ne {l : Lexeme} (h : rest <:+ ps) (hl : ∀ e, l ≠ .failure e) :
    LexemeSound ps (some l, rest) :=
  ⟨h, fun _ ho => absurd (Option.some.inj ho) (hl _)⟩

/-- The way of trying takes one piece at most. -/
theorem repetition_sound (least : ℕ) (most : Option ℕ) (h : rest <:+ ps) :
    LexemeSound ps ((repetition least most rest).map some id) := by
  unfold repetition
  split
  next => exact .of_ne ((List.suffix_cons _ _).trans h) nofun
  next => exact .of_ne ((List.suffix_cons _ _).trans h) nofun
  next => exact .of_ne h nofun

/-- The digits at the front. -/
theorem takeDigits_append (ps : List Piece) :
    (takeDigits ps).1.map .plain ++ (takeDigits ps).2 = ps :=
  takeIn_append _ _ ps

/-- Only digits are taken. -/
theorem isDigit_of_mem_takeDigits {d : Char} (h : d ∈ (takeDigits ps).1) : d.isDigit = true :=
  of_mem_takeIn h

/-- The counts at the front, of which the second is the first if there is no comma. -/
theorem exists_counts (ps : List Piece) :
    let low := takeDigits ps
    let high := highDigits low
    ∃ mark counts, Counts mark counts ∧ (∀ digits ∈ [low.1, high.1], digits ∈ counts) ∧
      (∀ count ∈ counts, ∀ d ∈ count, d.isDigit = true) ∧ mark.map .plain ++ high.2 = ps := by
  have hlow := takeDigits_append ps
  have hdigits : ∀ ps, ∀ d ∈ (takeDigits ps).1, d.isDigit = true :=
    fun ps d => isDigit_of_mem_takeDigits
  dsimp only
  unfold highDigits
  split
  next rest hrest =>
    refine ⟨_, _, .two (takeDigits ps).1 (takeDigits rest).1, fun _ h => h, ?_, ?_⟩
    · simpa using ⟨hdigits ps, hdigits rest⟩
    · rw [hrest, ← takeDigits_append rest] at hlow
      simpa using hlow
  next =>
    refine ⟨_, _, .one (takeDigits ps).1, by simp, ?_, hlow⟩
    simpa using hdigits ps

/-- Braces are sound. -/
theorem braces_sound : LexemeSound (.plain '\x7b' :: ps) ((braces ps).map some id) := by
  obtain ⟨mark, counts, hmark, hcounts, hdigits, hps⟩ := exists_counts ps
  unfold braces
  dsimp only at hcounts hps ⊢
  generalize highDigits (takeDigits ps) = high at hcounts hps ⊢
  have hplain : LexemeSound (.plain '\x7b' :: ps) (some (.char '\x7b'), ps) :=
    .of_ne (List.suffix_cons _ ps) nofun
  split
  next rest hrest =>
    rw [hrest] at hps
    split_ifs
    · exact hplain
    · split
      next least most hbounds =>
        exact repetition_sound least most ⟨.plain '\x7b' :: (mark.map .plain ++ [.plain '\x7d']),
          by simp [← hps]⟩
      next e hbounds =>
        refine ⟨List.nil_suffix, fun o ho => ?_⟩
        obtain rfl : e = .overflow o :=
          of_failBefore (Lexeme.failure.inj (Option.some.inj ho))
        obtain ⟨rfl, digits, hmem, hlength, hlarge⟩ := of_bounds? hbounds
        have hwrites := Writes.repetitions [] (source rest) hmark hdigits (hcounts digits hmem)
          hlength hlarge
        rw [← hps]
        simpa [Piece.source] using hwrites
  next => exact hplain

/-- A lexeme of something that is read is sound if that is, and if it is no error. -/
theorem lexemeOf_sound (hps : qs <:+ ps) (h : Sound qs r) {lexeme : α → Option Lexeme}
    (hl : ∀ a rest, r = .ok (a, rest) → ∀ e, lexeme a ≠ some (.failure e)) :
    LexemeSound ps (lexemeOf lexeme r) := by
  cases r with
  | error e =>
    refine ⟨List.nil_suffix, fun o ho => ?_⟩
    cases ho
    exact (h.writes o rfl).of_suffix hps
  | ok x =>
    obtain ⟨a, rest⟩ := x
    exact ⟨(h.suffix a rest rfl).trans hps, fun o ho => absurd ho (hl a rest rfl _)⟩

/-! ## Lexemes -/

/-- A lexeme is sound. -/
theorem lexeme_sound (p : Piece) (ps : List Piece) : LexemeSound (p :: ps) (lexeme names p ps) := by
  have hps : ps <:+ p :: ps := List.suffix_cons p ps
  cases p with
  | dangling => exact ⟨List.nil_suffix, nofun⟩
  | escaped c =>
    refine lexemeOf_sound List.suffix_rfl (escape_sound false c) fun e rest _ => ?_
    cases e <;> exact nofun
  | plain c =>
    unfold lexeme
    dsimp only
    split
    case h_6 => exact lexemeOf_sound hps set_sound fun _ _ _ => nofun
    case h_7 | h_8 | h_9 => exact repetition_sound _ _ hps
    case h_10 => exact braces_sound
    case h_11 =>
      split
      next ps =>
        exact lexemeOf_sound ((List.suffix_cons _ ps).trans hps) extension_sound
          fun _ _ h _ => extension_ne_failure h
      next => exact .of_ne hps nofun
    all_goals exact .of_ne hps nofun

/-- What is left after a line. -/
theorem dropLine_suffix (ps : List Piece) : dropLine ps <:+ ps := by
  fun_induction dropLine ps with
  | case1 => exact List.suffix_rfl
  | case2 => exact List.suffix_rfl
  | case3 ps => exact List.suffix_cons _ ps
  | case4 p ps _ _ ih => exact ih.trans (List.suffix_cons p ps)

/-- A number that ends the lexemes of pieces is written in them. -/
theorem writes_of_mem_lexemesUpTo {fuel : ℕ} {layouts : List Bool}
    (h : .failure (.overflow o) ∈ lexemesUpTo names fuel layouts ps) : Writes o (source ps) := by
  fun_induction lexemesUpTo names fuel layouts ps with
  | case1 => cases h
  | case2 => cases h
  | case3 fuel layouts p ps _ _ ih => exact (ih h).of_suffix (List.suffix_cons p ps)
  | case4 fuel layouts p ps _ _ _ ih =>
    exact (ih h).of_suffix ((dropLine_suffix ps).trans (List.suffix_cons p ps))
  | case5 fuel layouts p ps _ _ _ rest hlexeme ih =>
    have hsound : LexemeSound (p :: ps) (none, rest) := hlexeme ▸ lexeme_sound p ps
    exact (ih h).of_suffix hsound.suffix
  | case6 fuel layouts p ps _ _ _ l rest hlexeme ih =>
    have hsound : LexemeSound (p :: ps) (some l, rest) := hlexeme ▸ lexeme_sound p ps
    rcases List.mem_cons.1 h with rfl | h
    · exact hsound.writes o rfl
    · exact (ih h).of_suffix hsound.suffix

/-- A number that ends the lexemes of a text is written in it. -/
theorem writes_of_mem_lexemes {s : String} (h : .failure (.overflow o) ∈ lexemes names s) :
    Writes o s.toList := by
  simpa using writes_of_mem_lexemesUpTo h

end QueryFilter.Pattern
