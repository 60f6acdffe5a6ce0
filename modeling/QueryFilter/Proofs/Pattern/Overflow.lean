import QueryFilter.Pattern.Reader
import QueryFilter.Proofs.Pattern.Lexeme

/-!
# Numbers in patterns

The reading of a pattern is ended by a number that is too large only if this number stands in the
text. It is one of the lexemes then, since the structure of a pattern, which has no numbers of its
own, ends nothing: neither a step nor all of them.

* `Reader.eq_failure_of_step`, `Reader.failure_mem_of_foldlM`: the structure of a pattern;
* `writes_of_read`: where the reading of a pattern is ended;
* `read_eq_overflow_iff`: which counts after a character end it.
-/

namespace QueryFilter.Pattern

variable {names : CharNames} {rest : List Piece} {o : Overflow}

/-! ## Structure -/

namespace Reader

/-- The group that a condition is about has no number that is too large. -/
theorem openCond?_ne_overflow {r : Reader} {ref : GroupRef} :
    r.openCond? ref ≠ .error (.overflow o) := by
  unfold openCond?
  dsimp only
  split
  next n => split_ifs <;> simp [Except.map]
  next name =>
    split
    next => exact nofun
    next => split_ifs <;> exact nofun

/-- The structure of a pattern is ended only by an error in the text. -/
theorem eq_failure_of_step {r : Reader} {l : Lexeme} (h : r.step l = .error (.overflow o)) :
    l = .failure (.overflow o) := by
  cases l with
  | set negated items => cases h
  | dot => cases h
  | place m => cases h
  | again ref =>
    unfold step again? at h
    grind
  | bar =>
    unfold step next? at h
    grind
  | repetition least most greed =>
    unfold step repeatLast? at h
    grind
  | options on =>
    unfold step setOptions? at h
    grind
  | opening opening =>
    unfold step open? at h
    grind [openKept?, openCond?_ne_overflow]
  | closing =>
    unfold step close? at h
    grind [flagsErrorOr]
  | failure e =>
    cases h
    rfl

/-- A number that ends the structure of a pattern is one of its lexemes. -/
theorem failure_mem_of_foldlM {ls : List Lexeme} {r : Reader}
    (h : ls.foldlM step r = .error (.overflow o)) : .failure (.overflow o) ∈ ls := by
  induction ls generalizing r with
  | nil => cases h
  | cons l ls ih =>
    rw [List.foldlM_cons] at h
    cases hstep : r.step l with
    | error e =>
      rw [hstep] at h
      cases h
      exact eq_failure_of_step hstep ▸ List.mem_cons_self
    | ok r' =>
      rw [hstep] at h
      exact List.mem_cons_of_mem _ (ih h)

/-- The end of a pattern has no numbers. -/
theorem finish_ne_overflow {r : Reader} : r.finish ≠ .error (.overflow o) := by
  unfold finish
  split_ifs <;> exact nofun

end Reader

/-- A number that ends the reading of a pattern is written in its text. -/
theorem writes_of_read {s : String} (h : Pattern.read names s = .error (.overflow o)) :
    Writes o s.toList := by
  unfold Pattern.read at h
  split at h
  next e hfold =>
    cases h
    exact writes_of_mem_lexemes (Reader.failure_mem_of_foldlM hfold)
  next r hfold =>
    cases hfinish : r.finish with
    | ok node =>
      rw [hfinish] at h
      cases h
    | error e =>
      rw [hfinish] at h
      cases h
      exact absurd hfinish Reader.finish_ne_overflow

/-! ## Counts -/

/-- A text without backslashes is read character by character. -/
theorem pieces_eq_map_plain {cs : List Char} (h : '\\' ∉ cs) : pieces cs = cs.map .plain := by
  fun_induction pieces cs with
  | case1 => rfl
  | case2 => simp at h
  | case3 c cs ih => simp at h
  | case4 c cs _ _ ih => rw [ih (fun hmem => h (List.mem_cons_of_mem c hmem)), List.map_cons]

/-- All characters of a class are taken, up to one that is in another class. -/
theorem takeIn_map_append {inClass : Char → Bool} {cs : List Char} {most : ℕ}
    (hcs : ∀ c ∈ cs, inClass c = true)
    (hrest : ∀ c, rest.head? = some (.plain c) → inClass c = false) (hmost : cs.length ≤ most) :
    takeIn inClass most (cs.map .plain ++ rest) = (cs, rest) := by
  induction cs generalizing most with
  | nil =>
    rw [List.map_nil, List.nil_append]
    unfold takeIn
    split
    next c ps => rw [hrest c rfl, if_neg Bool.false_ne_true]
    next => rfl
  | cons c cs ih =>
    obtain ⟨hc, hcs⟩ := List.forall_mem_cons.1 hcs
    obtain ⟨most, rfl⟩ := Nat.exists_eq_add_of_le' (Nat.le_trans (Nat.le_add_left 1 _) hmost)
    simp [takeIn, hc, ih hcs (Nat.le_of_succ_le_succ hmost)]

section Counted

variable {digits : List Char} (hdigits : ∀ d ∈ digits, d.isDigit = true) (hne : digits ≠ [])
include hdigits

/-- The digits of a count are taken up to the closing brace. -/
theorem takeDigits_map_append :
    takeDigits (digits.map .plain ++ [.plain '\x7d']) = (digits, [.plain '\x7d']) := by
  refine takeIn_map_append hdigits ?_ (by simp)
  rintro c ⟨⟩
  rfl

/-- The lexemes of a character with a count. -/
theorem lexemes_counted {l : Lexeme}
    (h : braces (digits.map .plain ++ [.plain '\x7d']) = (l, [])) :
    lexemes names (String.ofList ('a' :: '\x7b' :: (digits ++ ['\x7d']))) = [.char 'a', l] := by
  have hplain : '\\' ∉ 'a' :: '\x7b' :: (digits ++ ['\x7d']) := by
    simp only [List.mem_cons, List.mem_append, List.not_mem_nil, not_or]
    exact ⟨by decide, by decide, fun h => absurd (hdigits _ h) (by decide), by decide, not_false⟩
  have hlayouts : (Lexeme.char 'a').layouts [false] = [false] := rfl
  rw [lexemes]
  simp only [String.toList_ofList, pieces_eq_map_plain hplain, List.map_cons, List.map_append,
    List.map_nil, List.length_cons]
  simp [lexemesUpTo, lexeme, h, hlayouts]

include hne

/-- A count in braces at the end of a text is a repetition mark, unless it cannot be read. -/
theorem braces_map_append : ∃ l, braces (digits.map .plain ++ [.plain '\x7d']) = (l, []) ∧
    ((∃ n, count? digits = .ok n ∧ l = .repetition (n.getD 0) n .greedy) ∨
      ∃ e, count? digits = .error e ∧ l = .failure e) := by
  have hhead : (digits.map Piece.plain ++ [Piece.plain '\x7d']).head? ≠ some (.plain '\x7d') := by
    cases digits with
    | nil => exact absurd rfl hne
    | cons d ds =>
      rintro ⟨⟩
      exact absurd (hdigits _ List.mem_cons_self) (by decide)
  unfold braces
  simp only [takeDigits_map_append hdigits, highDigits, if_neg hhead]
  cases hcount : count? digits with
  | error e => exact ⟨.failure e, by simp [bounds?, hcount, failBefore], .inr ⟨e, rfl, rfl⟩⟩
  | ok n =>
    refine ⟨.repetition (n.getD 0) n .greedy, ?_, .inl ⟨n, rfl, rfl⟩⟩
    cases n <;> simp [bounds?, hcount, repetition]

/-- A character with a count of repetitions is read unless the count is too large, or has too many
    digits to be looked at. -/
theorem read_eq_overflow_iff :
    Pattern.read names (String.ofList ('a' :: '\x7b' :: (digits ++ ['\x7d']))) =
        .error (.overflow .repetitions) ↔
      digits.length ≤ digitLimit ∧ repetitionLimit ≤ valueOfDigits digits := by
  obtain ⟨l, hbraces, hl⟩ := braces_map_append hdigits hne
  rw [Pattern.read, lexemes_counted hdigits hbraces]
  constructor
  · intro h
    rcases hl with ⟨n, hcount, rfl⟩ | ⟨e, hcount, rfl⟩
    · cases h
    · cases h
      exact (of_count? hcount).2
  · rintro ⟨hlength, hlarge⟩
    have hcount : count? digits = .error (.overflow .repetitions) := by
      rw [count?, if_neg hne, if_neg (Nat.not_lt.2 hlength), if_neg (Nat.not_lt.2 hlarge)]
    rcases hl with ⟨n, hn, -⟩ | ⟨e, he, rfl⟩
    · cases hcount.symm.trans hn
    · cases hcount.symm.trans he
      rfl

end Counted

end QueryFilter.Pattern
