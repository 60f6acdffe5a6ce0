import QueryFilter.Number.Numeral
import QueryFilter.Proofs.Number.Decimal
import QueryFilter.Proofs.Number.Digits
import Mathlib.Data.Nat.Digits.Defs

/-!
# The grammar of numerals

What a numeral is made of (`Numeral`), how it is written (`Numeral.IsWritten`), and the number that
it says (`Numeral.value`), apart from the reader: blanks, a sign or none, digits, a point with
digits or without, a power of ten, and blanks.

Each part is read off where the next one begins, because no two parts that may follow each other
begin alike.

* `Decimal.ofNumeral?_eq_some_iff`: the reader accepts what is written so, and reads its number;
* `FiniteDouble.ofNumeral?_eq_some_iff`: of these, the ones below the limit of the binary format
  have a finite number, the nearest one.
-/

namespace QueryFilter

/-- What may stand after the whole digits of a numeral: nothing, or a point and more digits or
    none. -/
inductive IsFraction : List Char → List Char → Prop
  | none : IsFraction [] []
  | point {ds : List Char} (h : ∀ c ∈ ds, c.isDigit = true) : IsFraction ds ('.' :: ds)

/-- The number that a run of digits says. -/
def digitsValue (ds : List Char) : ℕ :=
  Nat.ofDigits 10 (ds.reverse.map fun c => c.toNat - '0'.toNat)

/-- What may stand after the digits of a numeral: nothing, or a power of ten. -/
inductive IsPower : ℤ → List Char → Prop
  | none : IsPower 0 []
  | power {negative : Bool} {e : Char} {sign ds : List Char} (he : e = 'e' ∨ e = 'E')
      (hsign : IsSign negative sign) (hne : ds ≠ []) (hds : ∀ c ∈ ds, c.isDigit = true) :
      IsPower (signed negative (digitsValue ds)) (e :: (sign ++ ds))

/-- The parts of a numeral. -/
structure Numeral where
  negative : Bool
  whole : List Char
  fraction : List Char
  exponent : ℤ

namespace Numeral

/-- Whether a text is a numeral with the given parts. -/
def IsWritten (n : Numeral) (cs : List Char) : Prop :=
  n.whole ≠ [] ∧ (∀ c ∈ n.whole, c.isDigit = true) ∧ ∃ before sign fraction power after,
    (∀ c ∈ before, Text.isAsciiBlank c = true) ∧ IsSign n.negative sign ∧
    IsFraction n.fraction fraction ∧ IsPower n.exponent power ∧
    (∀ c ∈ after, Text.isAsciiBlank c = true) ∧
    cs = before ++ (sign ++ (n.whole ++ (fraction ++ (power ++ after))))

/-- The number that a numeral says. -/
def value (n : Numeral) : ℚ :=
  signFactor n.negative *
    ((digitsValue n.whole + digitsValue n.fraction / 10 ^ n.fraction.length) * 10 ^ n.exponent)

/-- The same in decimal notation. -/
def decimal (n : Numeral) : Decimal :=
  ⟨n.negative, digitsValue (n.whole ++ n.fraction), n.exponent - n.fraction.length⟩

end Numeral

/-! ## Numbers of digits -/

/-- The reader of digits computes their number. -/
theorem valueOfDigits_eq (ds : List Char) : valueOfDigits ds = digitsValue ds := by
  rw [valueOfDigits, digitsValue, Nat.ofDigits_eq_foldr, List.foldr_map,
    List.foldl_eq_foldr_reverse]
  simp only [Nat.cast_id, Nat.add_comm]

/-- Digits after others. -/
theorem digitsValue_append (as bs : List Char) :
    digitsValue (as ++ bs) = digitsValue as * 10 ^ bs.length + digitsValue bs := by
  rw [digitsValue, List.reverse_append, List.map_append, Nat.ofDigits_append, List.length_map,
    List.length_reverse, Nat.add_comm, Nat.mul_comm]
  rfl

/-- A numeral in decimal notation says the same number. -/
theorem Numeral.signFactor_mul_size (n : Numeral) :
    signFactor n.negative * n.decimal.size = n.value := by
  have hten : (10 : ℚ) ≠ 0 := by norm_num
  have hdigits : (digitsValue (n.whole ++ n.fraction) : ℚ) =
      (digitsValue n.whole + digitsValue n.fraction / 10 ^ n.fraction.length) *
        10 ^ n.fraction.length := by
    rw [digitsValue_append, add_mul, div_mul_cancel₀ _ (pow_ne_zero _ hten)]
    push_cast
    rfl
  rw [value, Decimal.size, decimal]
  simp only
  rw [hdigits, zpow_sub₀ hten, zpow_natCast, mul_assoc,
    mul_div_cancel₀ _ (pow_ne_zero _ hten)]

/-! ## Where the parts end -/

variable {cs after rest : List Char}

/-- Digits are no blanks of ASCII. -/
theorem isAsciiBlank_of_isDigit {c : Char} (h : c.isDigit = true) :
    Text.isAsciiBlank c = false := by
  refine Bool.eq_false_iff.2 fun hblank => ?_
  have hblank := Text.isBlank_of_isAsciiBlank hblank
  rw [isBlank_of_isDigit h] at hblank
  exact absurd hblank (by decide)

/-- Blanks begin with nothing else. -/
theorem head?_ne_of_isAsciiBlank (h : ∀ c ∈ after, Text.isAsciiBlank c = true) {c : Char}
    (hc : Text.isAsciiBlank c = false) : after.head? ≠ some c := by
  intro hhead
  have hblank := h c (List.mem_of_head? hhead)
  rw [hc] at hblank
  exact absurd hblank (by decide)

/-- Blanks do not begin with a digit. -/
theorem head?_isDigit_of_isAsciiBlank (h : ∀ c ∈ after, Text.isAsciiBlank c = true) :
    after.head?.any Char.isDigit = false := by
  rw [Option.any_eq_false]
  intro c hc
  refine Bool.eq_false_iff.2 fun hdigit => ?_
  exact head?_ne_of_isAsciiBlank h (isAsciiBlank_of_isDigit hdigit) hc

/-- A power of ten begins with neither a digit nor a point. -/
theorem IsPower.head? {exponent : ℤ} {power : List Char} (h : IsPower exponent power)
    (hdigit : after.head?.any Char.isDigit = false) (hpoint : after.head? ≠ some '.') :
    (power ++ after).head?.any Char.isDigit = false ∧ (power ++ after).head? ≠ some '.' := by
  cases h with
  | none => exact ⟨hdigit, hpoint⟩
  | power he hsign hne hds => rcases he with rfl | rfl <;> exact ⟨rfl, by simp⟩

/-- A fraction does not begin with a digit. -/
theorem IsFraction.head? {ds fraction : List Char} (h : IsFraction ds fraction)
    (hdigit : rest.head?.any Char.isDigit = false) :
    (fraction ++ rest).head?.any Char.isDigit = false := by
  cases h with
  | none => exact hdigit
  | point h => rfl

/-- A sign before a digit is no blank. -/
theorem IsSign.head? {negative : Bool} {sign : List Char} (h : IsSign negative sign)
    (hdigit : rest.head?.any Char.isDigit = true) :
    (sign ++ rest).head?.any Text.isAsciiBlank = false := by
  cases h with
  | minus => rfl
  | plus => rfl
  | none =>
    obtain ⟨c, hc, hdigit⟩ := (Option.any_eq_true _ _).1 hdigit
    rw [List.nil_append, hc]
    exact isAsciiBlank_of_isDigit hdigit

namespace Decimal

/-- A fraction ends where neither a digit nor a point stands. -/
theorem takeFraction_append {ds fraction : List Char} (h : IsFraction ds fraction)
    (hdigit : rest.head?.any Char.isDigit = false) (hpoint : rest.head? ≠ some '.') :
    takeFraction (fraction ++ rest) = (ds, rest) := by
  cases h with
  | none =>
    rw [List.nil_append, takeFraction.eq_def]
    split
    · simp at hpoint
    · rfl
  | point h =>
    rw [List.cons_append, takeFraction, takeWhile_append_of_head h hdigit,
      dropWhile_append_of_head h hdigit]

/-- What is taken off a text is a fraction. -/
theorem exists_isFraction_append (cs : List Char) :
    ∃ fraction, IsFraction (takeFraction cs).1 fraction ∧ cs = fraction ++ (takeFraction cs).2 := by
  rw [takeFraction.eq_def]
  split
  next cs =>
    refine ⟨'.' :: cs.takeWhile Char.isDigit, .point (List.all_eq_true.1 List.all_takeWhile), ?_⟩
    rw [List.cons_append, List.takeWhile_append_dropWhile]
  next => exact ⟨[], .none, rfl⟩

/-- A power of ten ends where no digit stands, and where there is none, no letter of one
    stands. -/
theorem takeExponent_append {exponent : ℤ} {power : List Char} (h : IsPower exponent power)
    (hdigit : rest.head?.any Char.isDigit = false)
    (hletter : rest.head? ≠ some 'e' ∧ rest.head? ≠ some 'E') :
    takeExponent (power ++ rest) = (exponent, rest) := by
  cases h with
  | none =>
    rw [List.nil_append]
    cases rest with
    | nil => rfl
    | cons c rest =>
      rw [takeExponent]
      simp only [List.head?_cons, ne_eq, Option.some.injEq] at hletter
      simp [hletter.1, hletter.2]
  | @power negative e sign ds he hsign hne hds =>
    have hhead : (ds ++ rest).head?.any Char.isDigit = true := by
      obtain ⟨c, ds, rfl⟩ := List.exists_cons_of_ne_nil hne
      exact hds c List.mem_cons_self
    rw [List.cons_append, List.append_assoc, takeExponent, takeSign_append hsign hhead]
    simp only [takeWhile_append_of_head hds hdigit, dropWhile_append_of_head hds hdigit]
    rw [if_pos ⟨he, hne⟩, valueOfDigits_eq]

/-- What is taken off a text is a power of ten. -/
theorem exists_isPower_append (cs : List Char) :
    ∃ power, IsPower (takeExponent cs).1 power ∧ cs = power ++ (takeExponent cs).2 := by
  cases cs with
  | nil => exact ⟨[], .none, rfl⟩
  | cons c cs =>
    rw [takeExponent]
    split
    next h =>
      obtain ⟨sign, hsign, hcs⟩ := exists_isSign_append cs
      rw [valueOfDigits_eq]
      refine ⟨_, .power h.1 hsign h.2 (List.all_eq_true.1 List.all_takeWhile), ?_⟩
      rw [List.cons_append, List.append_assoc, List.takeWhile_append_dropWhile, ← hcs]
    next => exact ⟨[], .none, rfl⟩

/-- What the reader makes of a numeral. -/
theorem ofNumeral?_of_isWritten {n : Numeral} (h : n.IsWritten cs) :
    ofNumeral? cs = some n.decimal := by
  obtain ⟨hne, hwhole, before, sign, fraction, power, after, hbefore, hsign, hfraction, hpower,
    hafter, rfl⟩ := h
  have hdigit : (n.whole ++ (fraction ++ (power ++ after))).head?.any Char.isDigit = true := by
    obtain ⟨c, ds, hds⟩ := List.exists_cons_of_ne_nil hne
    rw [hds]
    exact hwhole c (hds ▸ List.mem_cons_self)
  have hend := head?_isDigit_of_isAsciiBlank hafter
  obtain ⟨hpowerDigit, hpowerPoint⟩ :=
    hpower.head? hend (head?_ne_of_isAsciiBlank hafter (by decide))
  have hfractionDigit := hfraction.head? hpowerDigit
  have hletter := And.intro (head?_ne_of_isAsciiBlank hafter (c := 'e') (by decide))
    (head?_ne_of_isAsciiBlank hafter (c := 'E') (by decide))
  rw [ofNumeral?, dropWhile_append_of_head hbefore (hsign.head? hdigit),
    takeSign_append hsign hdigit]
  simp only [takeWhile_append_of_head hwhole hfractionDigit,
    dropWhile_append_of_head hwhole hfractionDigit,
    takeFraction_append hfraction hpowerDigit hpowerPoint,
    takeExponent_append hpower hend hletter]
  rw [if_pos ⟨hne, List.all_eq_true.2 hafter⟩, valueOfDigits_eq, Numeral.decimal]

/-- The numbers that the reader reads are those of numerals. -/
theorem ofNumeral?_eq_some_iff {d : Decimal} :
    ofNumeral? cs = some d ↔ ∃ n : Numeral, n.IsWritten cs ∧ n.decimal = d := by
  refine ⟨?_, ?_⟩
  · intro h
    rw [ofNumeral?] at h
    split at h
    next hall =>
      obtain rfl := Option.some.inj h
      obtain ⟨sign, hsign, hsignEq⟩ := exists_isSign_append (cs.dropWhile Text.isAsciiBlank)
      generalize takeSign (cs.dropWhile Text.isAsciiBlank) = afterSign at *
      obtain ⟨fraction, hfraction, hfractionEq⟩ :=
        exists_isFraction_append (afterSign.2.dropWhile Char.isDigit)
      generalize takeFraction (afterSign.2.dropWhile Char.isDigit) = afterFraction at *
      obtain ⟨power, hpower, hpowerEq⟩ := exists_isPower_append afterFraction.2
      generalize takeExponent afterFraction.2 = afterPower at *
      refine ⟨⟨afterSign.1, afterSign.2.takeWhile Char.isDigit, afterFraction.1, afterPower.1⟩,
        ⟨hall.1, List.all_eq_true.1 List.all_takeWhile, cs.takeWhile Text.isAsciiBlank, sign,
          fraction, power, afterPower.2, List.all_eq_true.1 List.all_takeWhile, hsign, hfraction,
          hpower, List.all_eq_true.1 hall.2, ?_⟩, ?_⟩
      · rw [← hpowerEq, ← hfractionEq, List.takeWhile_append_dropWhile, ← hsignEq,
          List.takeWhile_append_dropWhile]
      · rw [Numeral.decimal, valueOfDigits_eq]
    next => simp at h
  · rintro ⟨n, hn, rfl⟩
    exact ofNumeral?_of_isWritten hn

end Decimal

/-! ## Numbers of numerals -/

namespace Numeral

/-- The size of a numeral. -/
theorem abs_value (n : Numeral) : |n.value| = n.decimal.size := by
  rw [← n.signFactor_mul_size, abs_mul, abs_signFactor, one_mul,
    abs_of_nonneg n.decimal.size_nonneg]

/-- Whether a member of the binary format is the number of a numeral: its size is below the limit,
    and the member is nearest to it and has its sign. -/
structure IsNumber (n : Numeral) (x : FiniteDouble) : Prop where
  lt_limit : |n.value| < Double.limit
  negative_eq : x.negative = n.negative
  isNearest : x.IsNearest n.value

/-- The decimal notation of a numeral becomes the number of the numeral. -/
theorem isRounded (n : Numeral) : Double.IsRounded n.negative |n.value| n.decimal.toDouble := by
  rw [abs_value]
  exact n.decimal.isRounded_toDouble

/-- The number of a numeral, if it is finite. -/
theorem toDouble_eq_finite_iff {n : Numeral} {x : FiniteDouble} :
    n.decimal.toDouble = .finite x ↔ n.IsNumber x := by
  rw [n.isRounded.eq_finite_iff, n.abs_value, n.signFactor_mul_size, ← n.abs_value]
  refine ⟨?_, ?_⟩
  · rintro ⟨hlt, hsign, hnearest⟩
    exact ⟨hlt, hsign, hnearest⟩
  · rintro ⟨hlt, hsign, hnearest⟩
    exact ⟨hlt, hsign, hnearest⟩

/-- A numeral below the limit has a number. -/
theorem exists_isNumber {n : Numeral} (h : |n.value| < Double.limit) : ∃ x, n.IsNumber x := by
  obtain ⟨x, hx⟩ := n.isRounded.exists_eq_finite h
  exact ⟨x, toDouble_eq_finite_iff.1 hx⟩

/-- A text says one number. -/
theorem IsWritten.value_eq {n m : Numeral} {cs : List Char} (hn : n.IsWritten cs)
    (hm : m.IsWritten cs) : n.value = m.value := by
  have hdecimal : n.decimal = m.decimal := by
    have hread := Decimal.ofNumeral?_of_isWritten hn
    rw [Decimal.ofNumeral?_of_isWritten hm] at hread
    exact (Option.some.inj hread).symm
  have hnegative : n.negative = m.negative := congrArg Decimal.negative hdecimal
  rw [← n.signFactor_mul_size, ← m.signFactor_mul_size, hdecimal, hnegative]

end Numeral

/-- The numbers of the binary format that are read off numerals. -/
theorem FiniteDouble.ofNumeral?_eq_some_iff {cs : List Char} {x : FiniteDouble} :
    FiniteDouble.ofNumeral? cs = some x ↔ ∃ n : Numeral, n.IsWritten cs ∧ n.IsNumber x := by
  have hread : FiniteDouble.ofNumeral? cs = some x ↔
      ∃ d, Decimal.ofNumeral? cs = some d ∧ d.toDouble = .finite x := by
    rw [FiniteDouble.ofNumeral?]
    cases Decimal.ofNumeral? cs with
    | none => simp
    | some d => cases hd : d.toDouble <;> simp [hd]
  rw [hread]
  refine ⟨?_, ?_⟩
  · rintro ⟨d, hd, hx⟩
    obtain ⟨n, hn, rfl⟩ := Decimal.ofNumeral?_eq_some_iff.1 hd
    exact ⟨n, hn, Numeral.toDouble_eq_finite_iff.1 hx⟩
  · rintro ⟨n, hn, hx⟩
    exact ⟨n.decimal, Decimal.ofNumeral?_of_isWritten hn, Numeral.toDouble_eq_finite_iff.2 hx⟩

end QueryFilter
