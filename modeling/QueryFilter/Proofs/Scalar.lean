import QueryFilter.Scalar
import QueryFilter.Proofs.Number.Numeral
import Mathlib

/-!
# Readings of texts

Which texts are read as truth values, which as numbers, and which stand for themselves.

A truth value is spelled in any mixture of letter case (`IsCaseVariant`); a number is said by a
numeral whose size is below the limit of the binary format. No text is both, because a numeral has
a digit.

* `Scalar.bool?_eq_some_iff`: the spellings of the truth values;
* `Scalar.read_exact`: the reading of every text, under every coercion.
-/

namespace QueryFilter

/-- Whether a text is a word in any mixture of letter case: each character is the letter of the
    word, or its capital. -/
def IsCaseVariant (s word : String) : Prop :=
  List.Forall₂ (fun c letter => c = letter ∨ c = letter.toUpper) s.toList word.toList

/-- The two forms of a small letter. -/
theorem toLower_eq_iff {c letter : Char} (h : letter.isLower = true) :
    c.toLower = letter ↔ c = letter ∨ c = letter.toUpper := by
  refine ⟨?_, ?_⟩
  · rintro rfl
    by_cases hc : c.isUpper
    · right
      rw [Char.toUpper_toLower_eq_toUpper, Char.toUpper_eq_of_not_isLower]
      exact Char.not_isLower_of_isUpper hc
    · left
      rw [Char.toLower_eq_of_not_isUpper hc]
  · have hletter : letter.toLower = letter :=
      Char.toLower_eq_of_not_isUpper (Char.not_isUpper_of_isLower h)
    rintro (rfl | rfl)
    · exact hletter
    · rw [Char.toLower_toUpper_eq_toLower, hletter]

/-- A text in small letters is a word of small letters if it is a variant of the word. -/
theorem map_toLower_eq_iff {cs letters : List Char} (h : ∀ c ∈ letters, c.isLower = true) :
    cs.map Char.toLower = letters ↔
      List.Forall₂ (fun c letter => c = letter ∨ c = letter.toUpper) cs letters := by
  induction letters generalizing cs with
  | nil => cases cs <;> simp
  | cons letter letters ih =>
    cases cs with
    | nil => simp
    | cons c cs =>
      rw [List.map_cons, List.cons.injEq, List.forall₂_cons,
        toLower_eq_iff (h letter List.mem_cons_self),
        ih fun c hc => h c (List.mem_cons_of_mem _ hc)]

/-- Letters are no digits. -/
theorem not_isDigit_of_isAlpha {c : Char} (h : c.isAlpha = true) : ¬ c.isDigit = true := by
  grind [Char.isDigit, Char.isAlpha, Char.isLower, Char.isUpper]

/-- A numeral has a digit. -/
theorem Numeral.IsWritten.exists_isDigit {n : Numeral} {cs : List Char} (h : n.IsWritten cs) :
    ∃ c ∈ cs, c.isDigit = true := by
  obtain ⟨hne, hwhole, before, sign, fraction, power, after, -, -, -, -, -, rfl⟩ := h
  obtain ⟨c, hc⟩ := List.exists_mem_of_ne_nil _ hne
  exact ⟨c, by simp [hc], hwhole c hc⟩

namespace Scalar

/-- The word of a truth value. -/
def boolWord (b : Bool) : String :=
  if b then "true" else "false"

/-- The letters of the words are small. -/
theorem isLower_of_mem_boolWord (b : Bool) : ∀ c ∈ (boolWord b).toList, c.isLower = true := by
  cases b <;> simp [boolWord]

/-- A text spells a truth value if in small letters it is the word of the value. -/
theorem isCaseVariant_boolWord_iff {s : String} {b : Bool} :
    IsCaseVariant s (boolWord b) ↔ s.toList.map Char.toLower = (boolWord b).toList :=
  (map_toLower_eq_iff (isLower_of_mem_boolWord b)).symm

/-- The spellings of the truth values. -/
theorem bool?_eq_some_iff {s : String} {b : Bool} :
    bool? s = some b ↔ IsCaseVariant s (boolWord b) := by
  have hne : (boolWord true).toList ≠ (boolWord false).toList := by decide +kernel
  have hbool : bool? s =
      if s.toList.map Char.toLower = (boolWord true).toList then some true
      else if s.toList.map Char.toLower = (boolWord false).toList then some false else none := rfl
  rw [isCaseVariant_boolWord_iff, hbool]
  split
  next htrue => cases b <;> simp [htrue, hne]
  next htrue =>
    split
    next hfalse => cases b <;> simp [hfalse, hne.symm]
    next hfalse => cases b <;> simp [htrue, hfalse]

/-- A spelling of a truth value is no numeral. -/
theorem not_isWritten_of_isCaseVariant {s : String} {b : Bool} (h : IsCaseVariant s (boolWord b))
    (n : Numeral) : ¬ n.IsWritten s.toList := by
  intro hn
  obtain ⟨c, hc, hdigit⟩ := hn.exists_isDigit
  have hmem : c.toLower ∈ (boolWord b).toList := by
    rw [← isCaseVariant_boolWord_iff.1 h]
    exact List.mem_map_of_mem hc
  have halpha := isLower_of_mem_boolWord b _ hmem
  rw [Char.isLower_toLower_eq_isAlpha] at halpha
  exact not_isDigit_of_isAlpha halpha hdigit

/-- What a text is read as: a truth value that it spells, the number of a numeral, or else itself,
    as far as truth values and numbers are looked for. -/
inductive IsReading (coercion : Coercion) (s : String) : Scalar → Prop
  | bool {b : Bool} (hcoercion : coercion.toBoolean = true)
      (hword : IsCaseVariant s (boolWord b)) : IsReading coercion s (.bool b)
  | num {n : Numeral} {x : FiniteDouble} (hcoercion : coercion.toNumber = true)
      (hwritten : n.IsWritten s.toList) (hnumber : n.IsNumber x) : IsReading coercion s (.num x)
  | text (hbool : coercion.toBoolean = true → ∀ b, ¬ IsCaseVariant s (boolWord b))
      (hnum : coercion.toNumber = true →
        ∀ n : Numeral, n.IsWritten s.toList → Double.limit ≤ |n.value|) :
      IsReading coercion s (.text s)

variable {coercion : Coercion} {s : String} {v : Scalar}

/-- The truth value of a text, if truth values are looked for. -/
theorem ite_bool?_eq_some_iff {b : Bool} :
    (if coercion.toBoolean then bool? s else none) = some b ↔
      coercion.toBoolean = true ∧ IsCaseVariant s (boolWord b) := by
  rw [Option.ite_none_right_eq_some, bool?_eq_some_iff]

/-- The number of a text, if numbers are looked for. -/
theorem ite_ofNumeral?_eq_some_iff {x : FiniteDouble} :
    (if coercion.toNumber then FiniteDouble.ofNumeral? s.toList else none) = some x ↔
      coercion.toNumber = true ∧ ∃ n : Numeral, n.IsWritten s.toList ∧ n.IsNumber x := by
  rw [Option.ite_none_right_eq_some, FiniteDouble.ofNumeral?_eq_some_iff]

/-- Whatever a text is read as is a reading of it. -/
theorem isReading_read (coercion : Coercion) (s : String) :
    IsReading coercion s (read coercion s) := by
  rw [read]
  split
  next b hbool =>
    obtain ⟨hcoercion, hword⟩ := ite_bool?_eq_some_iff.1 hbool
    exact .bool hcoercion hword
  next hbool =>
    split
    next x hnum =>
      obtain ⟨hcoercion, n, hwritten, hnumber⟩ := ite_ofNumeral?_eq_some_iff.1 hnum
      exact .num hcoercion hwritten hnumber
    next hnum =>
      rw [Option.eq_none_iff_forall_ne_some] at hbool hnum
      refine .text (fun hcoercion b hword => ?_) (fun hcoercion n hwritten => ?_)
      · exact hbool b (ite_bool?_eq_some_iff.2 ⟨hcoercion, hword⟩)
      · by_contra! hlt
        obtain ⟨x, hnumber⟩ := Numeral.exists_isNumber hlt
        exact hnum x (ite_ofNumeral?_eq_some_iff.2 ⟨hcoercion, n, hwritten, hnumber⟩)

/-- Every reading of a text is what it is read as. -/
theorem read_eq_of_isReading (h : IsReading coercion s v) : read coercion s = v := by
  cases h with
  | bool hcoercion hword => rw [read, ite_bool?_eq_some_iff.2 ⟨hcoercion, hword⟩]
  | @num n x hcoercion hwritten hnumber =>
    have hbool : (if coercion.toBoolean then bool? s else none) = none := by
      rw [Option.eq_none_iff_forall_ne_some]
      intro b hb
      exact not_isWritten_of_isCaseVariant (ite_bool?_eq_some_iff.1 hb).2 n hwritten
    rw [read, hbool, ite_ofNumeral?_eq_some_iff.2 ⟨hcoercion, n, hwritten, hnumber⟩]
  | text hbool hnum =>
    have hbool : (if coercion.toBoolean then bool? s else none) = none := by
      rw [Option.eq_none_iff_forall_ne_some]
      intro b hb
      obtain ⟨hcoercion, hword⟩ := ite_bool?_eq_some_iff.1 hb
      exact hbool hcoercion b hword
    have hnum : (if coercion.toNumber then FiniteDouble.ofNumeral? s.toList else none) = none := by
      rw [Option.eq_none_iff_forall_ne_some]
      intro x hx
      obtain ⟨hcoercion, n, hwritten, hnumber⟩ := ite_ofNumeral?_eq_some_iff.1 hx
      exact absurd hnumber.lt_limit (hnum hcoercion n hwritten).not_gt
    rw [read, hbool, hnum]

/-- The numerals are the texts that are written as numerals of a size below the limit. -/
theorem isNumeral_iff_isWritten :
    isNumeral s = true ↔ ∃ n : Numeral, n.IsWritten s.toList ∧ |n.value| < Double.limit := by
  rw [isNumeral, Option.isSome_iff_exists]
  refine ⟨?_, ?_⟩
  · rintro ⟨x, hx⟩
    obtain ⟨n, hwritten, hnumber⟩ := FiniteDouble.ofNumeral?_eq_some_iff.1 hx
    exact ⟨n, hwritten, hnumber.lt_limit⟩
  · rintro ⟨n, hwritten, hlt⟩
    obtain ⟨x, hnumber⟩ := Numeral.exists_isNumber hlt
    exact ⟨x, FiniteDouble.ofNumeral?_eq_some_iff.2 ⟨n, hwritten, hnumber⟩⟩

/-- The numerals are the texts that say a number below the limit of the binary format, which is one
    number however the text is taken apart. Every text has one reading: a truth value if it spells
    one, or the nearest number if it is a numeral, where these are looked for, and itself
    otherwise. -/
theorem read_exact (coercion : Coercion) (s : String) :
    (isNumeral s = true ↔ ∃ n : Numeral, n.IsWritten s.toList ∧ |n.value| < Double.limit) ∧
    (∀ n m : Numeral, n.IsWritten s.toList → m.IsWritten s.toList → n.value = m.value) ∧
    (∀ v, read coercion s = v ↔ IsReading coercion s v) ∧
    ((∃ x, read coercion s = .num x) ↔ coercion.toNumber = true ∧ isNumeral s = true) := by
  refine ⟨isNumeral_iff_isWritten, fun n m hn hm => hn.value_eq hm,
    fun v => ⟨?_, read_eq_of_isReading⟩, ?_, ?_⟩
  · rintro rfl
    exact isReading_read coercion s
  · rintro ⟨x, hx⟩
    have hreading := isReading_read coercion s
    rw [hx] at hreading
    cases hreading with
    | num hcoercion hwritten hnumber =>
      exact ⟨hcoercion, isNumeral_iff_isWritten.2 ⟨_, hwritten, hnumber.lt_limit⟩⟩
  · rintro ⟨hcoercion, hs⟩
    obtain ⟨n, hwritten, hlt⟩ := isNumeral_iff_isWritten.1 hs
    obtain ⟨x, hnumber⟩ := Numeral.exists_isNumber hlt
    exact ⟨x, read_eq_of_isReading (.num hcoercion hwritten hnumber)⟩

/-- A numeral with all parts is read as a number, and it says one. -/
theorem read_exact_all_parts : (∃ x, read ⟨true, true⟩ " -12.50e+1\n" = .num x) ∧
    ∀ m : Numeral, m.IsWritten " -12.50e+1\n".toList → m.value = -125 := by
  have hwritten : (Numeral.mk true ['1', '2'] ['5', '0'] 1).IsWritten " -12.50e+1\n".toList := by
    refine ⟨by simp, by simp, [' '], ['-'], ['.', '5', '0'], ['e', '+', '1'], ['\n'],
      by simp [Text.isAsciiBlank], .minus, .point (by simp), ?_, by simp [Text.isAsciiBlank], rfl⟩
    exact .power (.inl rfl) .plus (List.cons_ne_nil '1' []) (by simp)
  have hwhole : digitsValue ['1', '2'] = 12 := by decide +kernel
  have hfraction : digitsValue ['5', '0'] = 50 := by decide +kernel
  have hvalue : (Numeral.mk true ['1', '2'] ['5', '0'] 1).value = -125 := by
    rw [Numeral.value]
    norm_num [signFactor, hwhole, hfraction]
  refine ⟨((read_exact ⟨true, true⟩ " -12.50e+1\n").2.2.2).2 ⟨rfl, by decide +kernel⟩,
    fun m hm => ?_⟩
  exact ((read_exact ⟨true, true⟩ " -12.50e+1\n").2.1 m _ hm hwritten).trans hvalue

end Scalar

end QueryFilter
