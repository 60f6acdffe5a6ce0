import QueryFilter.Pattern.Lexeme
import Mathlib.Algebra.Group.Nat.Defs
import Mathlib.Data.List.Infix

/-!
# Escapes and sets of patterns

What is read of the text of a pattern takes pieces off the front, and is ended only by a number that
is too large and stands in these pieces (`Sound`). In an escape or a set such a number is a code
point given by eight digits; elsewhere it is a count in the braces of a repetition mark (`Writes`).

* `Writes.of_suffix`: what is written in the last pieces is written in all;
* `takeIn_append`, `cutAt?_suffix`: characters taken off the front;
* `hexEscape_sound`: the code points that are too large;
* `escape_sound`, `set_sound`: escapes and sets.
-/

namespace QueryFilter.Pattern

open Text.Percent (hexValue?)

/-! ## Texts -/

/-- The text of a piece. -/
def Piece.source : Piece → List Char
  | .plain c => [c]
  | .escaped c => ['\\', c]
  | .dangling => ['\\']

/-- The text of pieces. -/
def source (ps : List Piece) : List Char :=
  ps.flatMap Piece.source

/-- The text that pieces are made of. -/
@[simp] theorem source_pieces (cs : List Char) : source (pieces cs) = cs := by
  fun_induction pieces cs with
  | case1 => rfl
  | case2 => rfl
  | case3 c cs ih => simpa [source, Piece.source] using ih
  | case4 c cs _ _ ih => simpa [source, Piece.source] using ih

/-- The text of characters that are not escaped. -/
@[simp] theorem source_map_plain (cs : List Char) : source (cs.map .plain) = cs := by
  simp [source, List.flatMap_map, Piece.source]

/-- Pieces one after another. -/
@[simp] theorem source_append (ps qs : List Piece) : source (ps ++ qs) = source ps ++ source qs :=
  List.flatMap_append

/-- A piece before others. -/
@[simp] theorem source_cons (p : Piece) (ps : List Piece) :
    source (p :: ps) = p.source ++ source ps :=
  List.flatMap_cons

/-- The counts in the braces of a repetition mark: one, or two with a comma between them. -/
inductive Counts : List Char → List (List Char) → Prop
  | one (digits : List Char) : Counts digits [digits]
  | two (low high : List Char) : Counts (low ++ ',' :: high) [low, high]

/-- Whether a number that is too large is written in a text: a count in the braces of a repetition
    mark, of which the digits may be read, or a code point given by eight hexadecimal digits. -/
inductive Writes : Overflow → List Char → Prop
  | repetitions (before after : List Char) {mark digits : List Char} {counts : List (List Char)}
      (hmark : Counts mark counts) (hdigits : ∀ count ∈ counts, ∀ d ∈ count, d.isDigit = true)
      (hmem : digits ∈ counts) (hlength : digits.length ≤ digitLimit)
      (hlarge : repetitionLimit ≤ valueOfDigits digits) :
      Writes .repetitions (before ++ '\x7b' :: (mark ++ '\x7d' :: after))
  | codePoint (before after : List Char) {digits : List Char} (hlength : digits.length = 8)
      (hdigits : ∀ d ∈ digits, (hexValue? d).isSome = true)
      (hlarge : codeLimit ≤ valueIn 16 (digits.filterMap hexValue?)) :
      Writes .codePoint (before ++ '\\' :: 'U' :: (digits ++ after))

variable {names : CharNames} {ps qs rest : List Piece} {o : Overflow} {e : PatternError}
  {α β : Type} {r : Reading α}

/-- What is written in a text is written in longer ones. -/
theorem Writes.append {cs : List Char} (h : Writes o cs) (more : List Char) :
    Writes o (more ++ cs) := by
  cases h with
  | repetitions before after hmark hdigits hmem hlength hlarge =>
    rw [← List.append_assoc]
    exact .repetitions (more ++ before) after hmark hdigits hmem hlength hlarge
  | codePoint before after hlength hdigits hlarge =>
    rw [← List.append_assoc]
    exact .codePoint (more ++ before) after hlength hdigits hlarge

/-- What is written in the last pieces is written in all. -/
theorem Writes.of_suffix (h : Writes o (source qs)) (hqs : qs <:+ ps) : Writes o (source ps) := by
  obtain ⟨more, rfl⟩ := hqs
  rw [source_append]
  exact h.append (source more)

/-! ## Readings -/

/-- Whether a reading takes pieces off the front, and is ended only by a number that is written
    in the pieces. -/
structure Sound (ps : List Piece) (r : Reading α) : Prop where
  suffix : ∀ a rest, r = .ok (a, rest) → rest <:+ ps
  writes : ∀ o, r = .error (.overflow o) → Writes o (source ps)

/-- A reading that succeeds. -/
theorem Sound.ok {a : α} (h : rest <:+ ps) : Sound ps (.ok (a, rest) : Reading α) := by
  refine ⟨?_, nofun⟩
  rintro _ _ ⟨⟩
  exact h

/-- Nothing is read. -/
theorem sound_refused : Sound ps (refused : Reading α) :=
  ⟨nofun, nofun⟩

/-- More pieces may stand before. -/
theorem Sound.of_suffix (h : Sound qs r) (hqs : qs <:+ ps) : Sound ps r :=
  ⟨fun a rest hr => (h.suffix a rest hr).trans hqs, fun o hr => (h.writes o hr).of_suffix hqs⟩

/-- What is made of what was read does not matter. -/
theorem Sound.map (h : Sound ps r) {f : α × List Piece → β × List Piece}
    (hf : ∀ x, (f x).2 = x.2) : Sound ps (r.map f : Reading β) := by
  cases r with
  | error e => exact ⟨nofun, fun o ho => h.writes o (by simpa [Except.map] using ho)⟩
  | ok x => exact .ok (hf x ▸ h.suffix x.1 x.2 rfl)

/-- A reading with the error of another one. -/
theorem Sound.error (h : Sound ps r) (hr : r = .error e) : Sound ps (.error e : Reading β) :=
  ⟨nofun, fun o ho => h.writes o (by cases ho; exact hr)⟩

/-! ## Characters and digits -/

/-- The characters of a class are taken off the front. -/
theorem takeIn_append (inClass : Char → Bool) (most : ℕ) (ps : List Piece) :
    (takeIn inClass most ps).1.map .plain ++ (takeIn inClass most ps).2 = ps := by
  fun_induction takeIn inClass most ps with
  | case1 most c ps hc taken ih => simpa using ih
  | case2 most c ps hc => rfl
  | case3 most ps => rfl

/-- Only characters of the class are taken. -/
theorem of_mem_takeIn {inClass : Char → Bool} {most : ℕ} {c : Char}
    (hc : c ∈ (takeIn inClass most ps).1) : inClass c = true := by
  fun_induction takeIn inClass most ps with
  | case1 most d ps hd taken ih =>
    rcases List.mem_cons.1 hc with rfl | hc
    · exact hd
    · exact ih hc
  | case2 most d ps hd => cases hc
  | case3 most ps => cases hc

/-- What is left after the characters of a class. -/
theorem takeIn_suffix (inClass : Char → Bool) (most : ℕ) (ps : List Piece) :
    (takeIn inClass most ps).2 <:+ ps :=
  ⟨_, takeIn_append inClass most ps⟩

/-- What is left after a mark. -/
theorem cutAt?_suffix {stop : Char} {cs : List Char} (h : cutAt? stop ps = some (cs, rest)) :
    rest <:+ ps := by
  fun_induction cutAt? stop ps generalizing cs with
  | case1 => cases h
  | case2 => cases h
  | case3 c ps ih =>
    obtain ⟨⟨cs', rest'⟩, hcut, hpair⟩ := Option.map_eq_some_iff.1 h
    cases hpair
    exact (ih hcut).trans (List.suffix_cons _ _)
  | case4 ps =>
    cases h
    exact List.suffix_cons _ _
  | case5 c ps hc ih =>
    obtain ⟨⟨cs', rest'⟩, hcut, hpair⟩ := Option.map_eq_some_iff.1 h
    cases hpair
    exact (ih hcut).trans (List.suffix_cons _ _)

/-! ## Escapes -/

/-- A code point that is too large. -/
theorem of_codeItem {n : ℕ} (h : codeItem n = .error (.overflow o)) :
    o = .codePoint ∧ codeLimit ≤ n := by
  unfold codeItem at h
  split_ifs at h with hchar hsurrogate hlimit
  · cases h
  · cases h
    exact ⟨rfl, Nat.le_of_not_lt hlimit⟩

/-- The error in front of pieces, if it is no other one. -/
theorem of_failBefore (h : failBefore e rest = .overflow o) : e = .overflow o := by
  unfold failBefore at h
  split_ifs at h
  exact h

/-- Digits in a base are a number with as many digits. -/
theorem valueIn_lt {base : ℕ} {digits : List ℕ} (h : ∀ d ∈ digits, d < base) :
    valueIn base digits < base ^ digits.length := by
  induction digits using List.reverseRecOn with
  | nil => simp [valueIn]
  | append_singleton ds d ih =>
    have hd : d < base := h d (by simp)
    have hds : valueIn base ds < base ^ ds.length := ih fun d hd => h d (by simp [hd])
    have hvalue : valueIn base (ds ++ [d]) = base * valueIn base ds + d := by simp [valueIn]
    calc valueIn base (ds ++ [d]) = base * valueIn base ds + d := hvalue
      _ < base * (valueIn base ds + 1) := by rw [Nat.mul_succ]; omega
      _ ≤ base * base ^ ds.length := Nat.mul_le_mul_left _ hds
      _ = base ^ (ds ++ [d]).length := by
        rw [List.length_append, List.length_singleton, Nat.pow_succ']

/-- The value of a hexadecimal digit is below 16. -/
theorem hexValue?_lt {c : Char} {n : ℕ} (h : hexValue? c = some n) : n < 16 := by
  simp only [hexValue?, Char.le_def, UInt32.le_iff_toNat_le, Char.toNat] at h
  grind

/-- A code point that is too large needs eight digits. -/
theorem hexEscape_sound {count : ℕ} {p : Piece}
    (hcount : count ≤ 4 ∨ count = 8 ∧ p = .escaped 'U') :
    Sound (p :: ps) (hexEscape count ps) := by
  have hsplit := takeIn_append (fun c => (hexValue? c).isSome) count ps
  have hdigits := fun c => @of_mem_takeIn ps (fun c => (hexValue? c).isSome) count c
  rw [hexEscape]
  generalize takeIn (fun c => (hexValue? c).isSome) count ps = taken at hsplit hdigits ⊢
  obtain ⟨digits, rest⟩ := taken
  split_ifs with hlength
  · split
    next => exact .ok ⟨p :: digits.map .plain, by rw [← hsplit]; rfl⟩
    next e hitem =>
      refine ⟨nofun, fun o ho => ?_⟩
      obtain rfl : e = .overflow o := of_failBefore (Except.error.inj ho)
      obtain ⟨rfl, hlarge⟩ := of_codeItem hitem
      obtain hcount | ⟨rfl, rfl⟩ := hcount
      · -- Four digits are too few.
        have hvalue : valueIn 16 (digits.filterMap hexValue?) <
            16 ^ (digits.filterMap hexValue?).length := by
          refine valueIn_lt fun d hd => ?_
          obtain ⟨c, -, hc⟩ := List.mem_filterMap.1 hd
          exact hexValue?_lt hc
        have hpow : 16 ^ (digits.filterMap hexValue?).length ≤ 16 ^ 4 :=
          Nat.pow_le_pow_right (by decide)
            ((List.length_filterMap_le _ _).trans (hlength ▸ hcount))
        have hlimit : 16 ^ 4 ≤ codeLimit := by decide
        exact absurd ((hvalue.trans_le hpow).trans_le (hlimit.trans hlarge)) (lt_irrefl _)
      · have hwrites := Writes.codePoint [] (source rest) hlength hdigits hlarge
        rw [← hsplit]
        simpa [Piece.source] using hwrites
  · exact sound_refused

/-- Octal digits are never too large. -/
theorem octalEscape_sound {digits : List Char} (h : rest <:+ ps) :
    Sound ps (octalEscape digits rest) := by
  rw [octalEscape]
  split_ifs
  · exact .ok h
  · exact sound_refused

/-- Nor are the digits that name a group. -/
theorem digitEscape_sound (inSet : Bool) (c : Char) : Sound ps (digitEscape inSet c ps) := by
  rw [digitEscape]
  split_ifs
  · exact octalEscape_sound (takeIn_suffix _ _ _)
  · exact sound_refused
  · exact octalEscape_sound (takeIn_suffix _ _ _)
  · exact .ok (takeIn_suffix _ _ _)

/-- A name is no number. -/
theorem namedEscape_sound : Sound ps (namedEscape names ps) := by
  unfold namedEscape
  split
  next ps =>
    split
    next name rest hcut =>
      split
      next => exact .ok ((cutAt?_suffix hcut).trans (List.suffix_cons _ _))
      next => exact sound_refused
    next => exact sound_refused
  next => exact sound_refused

/-- An escape is sound. -/
theorem escape_sound (inSet : Bool) (c : Char) :
    Sound (.escaped c :: ps) (escape names inSet c ps) := by
  have hps : ps <:+ .escaped c :: ps := List.suffix_cons _ _
  have hplace : ∀ m : PlaceMark, Sound (.escaped c :: ps)
      (if inSet then refused else .ok (.place m, ps) : Reading Escape) := by
    intro m
    split_ifs
    · exact sound_refused
    · exact .ok hps
  unfold escape
  dsimp only
  split
  case h_13 => exact hexEscape_sound (.inl (by decide))
  case h_14 => exact hexEscape_sound (.inl (by decide))
  case h_15 => exact hexEscape_sound (.inr ⟨rfl, rfl⟩)
  case h_16 => exact namedEscape_sound.of_suffix hps
  case h_17 =>
    split_ifs
    · exact .ok hps
    · exact .ok hps
  case h_18 | h_19 | h_20 => exact hplace _
  case h_21 =>
    split_ifs
    · exact (digitEscape_sound inSet c).of_suffix hps
    · exact sound_refused
    · exact .ok hps
  all_goals exact .ok hps

/-! ## Sets -/

/-- A member of a set is sound. -/
theorem member_sound : Sound ps (member names ps) := by
  unfold member
  split
  next => exact .ok (List.suffix_cons _ _)
  next c ps =>
    have hescape : Sound (.escaped c :: ps) (escape names true c ps) := escape_sound true c
    split
    next i rest h => exact .ok (hescape.suffix _ _ h)
    next => exact sound_refused
    next e h => exact hescape.error h
  next => exact sound_refused

/-- What is left after a member. -/
theorem member_suffix {i : SetItem} (h : member names ps = .ok (i, rest)) : rest <:+ ps :=
  member_sound.suffix i rest h

/-- What is left after a member and a hyphen. -/
theorem member_cons_suffix {i : SetItem} {p : Piece} (h : member names ps = .ok (i, p :: rest)) :
    rest <:+ ps :=
  (List.suffix_cons p rest).trans (member_suffix h)

/-- The items of a set are sound. -/
theorem setItems_sound (fuel : ℕ) (done : List SetItem) :
    Sound ps (setItems names fuel done ps) := by
  fun_induction setItems names fuel done ps with
  | case1 => exact sound_refused
  | case2 => exact .ok (List.tail_suffix _)
  | case3 fuel done ps _ e h => exact member_sound.error h
  | case4 fuel done ps _ i rest h =>
    exact .ok ((List.suffix_cons _ rest).trans (member_cons_suffix h))
  | case5 fuel done ps _ i rest _ h e hlast =>
    exact (member_sound.error hlast).of_suffix (member_cons_suffix h)
  | case6 => exact sound_refused
  | case7 fuel done ps _ i rest _ h j rest' hlast item _ ih =>
    exact ih.of_suffix ((member_suffix hlast).trans (member_cons_suffix h))
  | case8 fuel done ps _ i rest _ _ h ih => exact ih.of_suffix (member_suffix h)

/-- A set is sound. -/
theorem set_sound : Sound ps (set names ps) := by
  rw [set]
  dsimp only
  split_ifs
  · exact .of_suffix (.map (setItems_sound _ _) fun _ => rfl) (List.tail_suffix ps)
  · exact (setItems_sound _ _).map fun _ => rfl

end QueryFilter.Pattern
