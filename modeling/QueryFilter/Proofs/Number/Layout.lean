import QueryFilter.Proofs.Number.Shortest

/-!
# Layouts of decimal numbers

Both ways in which a decimal number is laid out, positional or with an exponent, are numerals, and
they say the number (`Decimal.exists_isWritten_text`): the digits are the significant ones, with
zeros where the decimal point is outside of them.

A layout has no sign of its own, so that what it says is its size whatever sign stands before it
(`SaysSize`).
-/

namespace QueryFilter

/-- Whether a text is a numeral of a size, after any sign. -/
def SaysSize (cs : List Char) (size : ℚ) : Prop :=
  ∀ (negative : Bool) (sign : List Char), IsSign negative sign →
    ∃ n : Numeral, n.IsWritten (sign ++ cs) ∧ n.negative = negative ∧ n.decimal.size = size

variable {ds whole fraction point power : List Char} {exponent : ℤ}

/-- Digits, a fraction and a power of ten say their number. -/
theorem saysSize_append (hne : whole ≠ []) (hwhole : ∀ c ∈ whole, c.isDigit = true)
    (hpoint : IsFraction fraction point) (hpower : IsPower exponent power) :
    SaysSize (whole ++ (point ++ power))
      (digitsValue (whole ++ fraction) * 10 ^ (exponent - fraction.length)) := by
  intro negative sign hsign
  exact ⟨⟨negative, whole, fraction, exponent⟩, ⟨hne, hwhole, [], sign, point, power, [], by simp,
    hsign, hpoint, hpower, by simp, by simp⟩, rfl, rfl⟩

/-- Digits on both sides of a point say their number. -/
theorem saysSize_point (hne : whole ≠ []) (hwhole : ∀ c ∈ whole, c.isDigit = true)
    (hfraction : ∀ c ∈ fraction, c.isDigit = true) :
    SaysSize (whole ++ '.' :: fraction)
      (digitsValue (whole ++ fraction) * 10 ^ (-(fraction.length : ℤ))) := by
  have hsays := saysSize_append hne hwhole (.point hfraction) .none
  rwa [List.append_nil, zero_sub] at hsays

namespace Decimal

/-- Positional notation says the digits, with the decimal point where it is. -/
theorem saysSize_positional (hds : ∀ c ∈ ds, c.isDigit = true) (p : ℤ) :
    SaysSize (positional ds p) (digitsValue ds * 10 ^ (p - ds.length)) := by
  have hten : (10 : ℚ) ≠ 0 := by norm_num
  have hzeros : ∀ {k : ℕ}, ∀ c ∈ List.replicate k '0', c.isDigit = true := fun c hc =>
    isDigit_of_mem_replicate_zero hc
  rcases Int.lt_or_le 0 p with hpos | hneg
  · obtain ⟨w, rfl⟩ : ∃ w : ℕ, p = w := ⟨p.toNat, by omega⟩
    have hpos : 0 < w := by omega
    rw [positional, if_neg (by omega)]
    simp only [Int.toNat_natCast]
    split
    next hlen =>
      -- Zeros fill up the places before the point, and one stands after it.
      obtain ⟨k, rfl⟩ := Nat.exists_eq_add_of_le hlen
      have hne : ds ++ List.replicate k '0' ≠ [] := by
        refine List.ne_nil_of_length_pos ?_
        rwa [List.length_append, List.length_replicate]
      have hsays := saysSize_point hne (List.forall_mem_append.2 ⟨hds, hzeros⟩) (hzeros (k := 1))
      have hsize : (digitsValue (ds ++ List.replicate k '0' ++ List.replicate 1 '0') : ℚ) *
          10 ^ (-((List.replicate 1 '0').length : ℤ)) =
            digitsValue ds * 10 ^ ((ds.length + k : ℕ) - ds.length : ℤ) := by
        rw [List.append_assoc, List.replicate_append_replicate, digitsValue_append_zeros,
          Nat.cast_mul, Nat.cast_pow, Nat.cast_ofNat, mul_assoc, ← zpow_natCast, ← zpow_add₀ hten]
        congr 2
        simp only [List.length_replicate]
        omega
      rw [hsize] at hsays
      rwa [Nat.add_sub_cancel_left]
    next hlen =>
      -- The point stands between the digits.
      have hne : ds.take w ≠ [] := by
        refine List.ne_nil_of_length_pos ?_
        rw [List.length_take]
        omega
      have hsays := saysSize_point hne (fun c hc => hds c (List.mem_of_mem_take hc))
        (fun c (hc : c ∈ ds.drop w) => hds c (List.mem_of_mem_drop hc))
      have hexponent : -((ds.drop w).length : ℤ) = w - ds.length := by
        rw [List.length_drop]
        omega
      rwa [List.take_append_drop, hexponent] at hsays
  · -- Zeros stand between the point and the digits.
    rw [positional, if_pos hneg]
    have hzero : ['0'] ≠ [] := List.cons_ne_nil _ _
    have hsays := saysSize_point hzero (by simp)
      (List.forall_mem_append.2 ⟨hzeros (k := (-p).toNat), hds⟩)
    have hvalue : digitsValue (['0'] ++ (List.replicate (-p).toNat '0' ++ ds)) = digitsValue ds :=
      (digitsValue_zeros_append 1 _).trans (digitsValue_zeros_append _ ds)
    have hexponent : -((List.replicate (-p).toNat '0' ++ ds).length : ℤ) = p - ds.length := by
      rw [List.length_append, List.length_replicate]
      omega
    rwa [hvalue, hexponent] at hsays

/-- A written exponent says the exponent. -/
theorem isPower_exponent (e : ℤ) (k : ℕ) :
    IsPower e ('e' :: ([if e < 0 then '-' else '+'] ++
      (List.replicate k '0' ++ Nat.toDigits 10 e.natAbs))) := by
  have hdigits : ∀ c ∈ List.replicate k '0' ++ Nat.toDigits 10 e.natAbs, c.isDigit = true :=
    List.forall_mem_append.2 ⟨fun c hc => isDigit_of_mem_replicate_zero hc, fun c hc =>
      Nat.isDigit_of_mem_toDigits (by decide) (by decide) hc⟩
  have hne : List.replicate k '0' ++ Nat.toDigits 10 e.natAbs ≠ [] :=
    List.append_ne_nil_of_right_ne_nil _ Nat.toDigits_ne_nil
  have hvalue : digitsValue (List.replicate k '0' ++ Nat.toDigits 10 e.natAbs) = e.natAbs := by
    rw [digitsValue_zeros_append, digitsValue_toDigits]
  split
  next hneg =>
    have hpower := IsPower.power (.inl rfl) .minus hne hdigits
    rw [hvalue] at hpower
    have hsigned : signed true e.natAbs = e := by
      rw [signed, if_pos rfl]
      omega
    rwa [hsigned] at hpower
  next hneg =>
    have hpower := IsPower.power (.inl rfl) .plus hne hdigits
    rw [hvalue] at hpower
    have hsigned : signed false e.natAbs = e := by
      rw [signed, if_neg Bool.false_ne_true]
      omega
    rwa [hsigned] at hpower

/-- Notation with an exponent is a digit, the other digits after a point if there are any, and the
    exponent. -/
theorem exists_scientific_eq (layout : NumberLayout) {d : Char} (hds : ∀ c ∈ ds, c.isDigit = true)
    (e : ℤ) : ∃ point power, IsFraction ds point ∧ IsPower e power ∧
      scientific layout (d :: ds) e = [d] ++ (point ++ power) := by
  have hpower := isPower_exponent e (layout.exponentDigits - (Nat.toDigits 10 e.natAbs).length)
  cases ds with
  | nil => exact ⟨_, _, .none, hpower, by simp [scientific]⟩
  | cons c ds => exact ⟨_, _, .point hds, hpower, by simp [scientific]⟩

/-- Notation with an exponent says the digits, with the decimal point after the first of them. -/
theorem saysSize_scientific (layout : NumberLayout) (hne : ds ≠ [])
    (hds : ∀ c ∈ ds, c.isDigit = true) (e : ℤ) :
    SaysSize (scientific layout ds e) (digitsValue ds * 10 ^ (e + 1 - ds.length)) := by
  obtain ⟨d, ds, rfl⟩ := List.exists_cons_of_ne_nil hne
  obtain ⟨hd, hds⟩ := List.forall_mem_cons.1 hds
  obtain ⟨point, power, hpoint, hpower, heq⟩ := exists_scientific_eq layout hds e
  have hsays := saysSize_append (List.cons_ne_nil d []) (by simpa using hd) hpoint hpower
  have hexponent : e - ds.length = e + 1 - (d :: ds).length := by
    rw [List.length_cons]
    omega
  rw [heq]
  rwa [hexponent] at hsays

/-- The text of a decimal number is a numeral that says the number. -/
theorem exists_isWritten_text (layout : NumberLayout) (d : Decimal) :
    ∃ n : Numeral, n.IsWritten (d.text layout) ∧ n.negative = d.negative ∧
      n.decimal.size = d.size := by
  have hbody : SaysSize
      (if d.digits = 0 then positional d.significant 1
        else if layout.least ≤ digitCount d.digits + d.exponent - 1 ∧
          digitCount d.digits + d.exponent - 1 < layout.limit then
            positional d.significant (digitCount d.digits + d.exponent)
        else scientific layout d.significant (digitCount d.digits + d.exponent - 1)) d.size := by
    split
    next hzero =>
      have hsays := saysSize_positional (isDigit_of_mem_significant (d := d)) 1
      have hvalue : digitsValue d.significant = 0 := by
        rw [significant, if_pos hzero, hzero]
        rfl
      rw [hvalue, Nat.cast_zero, zero_mul] at hsays
      rwa [size, hzero, Nat.cast_zero, zero_mul]
    next =>
      rw [d.size_eq_significant]
      split
      next => exact saysSize_positional isDigit_of_mem_significant _
      next =>
        have hsays := saysSize_scientific layout d.significant_ne_nil isDigit_of_mem_significant
          (digitCount d.digits + d.exponent - 1)
        rwa [sub_add_cancel] at hsays
  rw [text]
  split
  next hnegative =>
    obtain ⟨n, hn, hsign, hsize⟩ := hbody true ['-'] .minus
    exact ⟨n, hn, hsign.trans hnegative.symm, hsize⟩
  next hnegative =>
    obtain ⟨n, hn, hsign, hsize⟩ := hbody false [] .none
    exact ⟨n, hn, hsign.trans (Bool.eq_false_of_not_eq_true hnegative).symm, hsize⟩

end Decimal

end QueryFilter
