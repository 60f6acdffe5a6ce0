import QueryFilter.Proofs.Number.Nearest

/-!
# Rounding to the binary format

A ratio of natural numbers becomes the member of the binary format that is nearest to it, or
infinite if it is not below the limit of the finite ones.

The ratio is rounded to a natural number (`Rounds`) on a grid: in units, to a multiple of the power
of two that leaves a mantissa of full length. On a grid, nothing is nearer than what is at most a
half away, and what lies between the places of the grid is too small to be nearer.

* `rounds_roundQuotient`: a rounded quotient is at most a half away, and even if it is a half away;
* `Rounds.isNearestUnits`: what is rounded on a grid is nearest;
* `Double.isRoundedUnits_carry`, `Double.isRoundedUnits_ofParts`: what becomes of the rounded
  number, with the mantissa carried to the next power of two or not;
* `Double.isRounded_ofRatio`, `Double.isRounded_zero`: ratios, and numbers of less than half a
  unit.
-/

namespace QueryFilter

/-! ## Natural numbers -/

/-- Whether a natural number is nearest to a rational one: it is at most a half away, and even if it
    is so far away. -/
structure Rounds (m : ℕ) (t : ℚ) : Prop where
  le : |(m : ℚ) - t| ≤ 1 / 2
  even : |(m : ℚ) - t| = 1 / 2 → Even m

namespace Rounds

variable {m k : ℕ} {t : ℚ}

/-- What is less than a half away is nearest. -/
theorem of_lt_half (h : |(m : ℚ) - t| < 1 / 2) : Rounds m t :=
  ⟨h.le, fun htie => absurd htie h.ne⟩

/-- Any other natural number is farther away, unless both are a half away. -/
theorem lt_or_eq_half_of_ne (h : Rounds m t) (hk : k ≠ m) :
    |(m : ℚ) - t| < |(k : ℚ) - t| ∨ |(m : ℚ) - t| = 1 / 2 ∧ |(k : ℚ) - t| = 1 / 2 := by
  have hstep : (1 : ℚ) ≤ |(k : ℚ) - m| := by
    have hint : (1 : ℤ) ≤ |(k : ℤ) - m| := Int.one_le_abs (by omega)
    exact_mod_cast hint
  have hsum : |(k : ℚ) - m| ≤ |(k : ℚ) - t| + |(m : ℚ) - t| := by
    rw [abs_sub_comm (m : ℚ) t]
    exact abs_sub_le (k : ℚ) t m
  have hle := h.le
  rcases lt_or_ge |(m : ℚ) - t| |(k : ℚ) - t| with hlt | hge
  · exact .inl hlt
  · exact .inr ⟨by linarith, by linarith⟩

/-- Nothing is rounded down below a natural number. -/
theorem le_of_cast_le (h : Rounds m t) (hk : (k : ℚ) ≤ t) : k ≤ m := by
  have hlow := (abs_le.1 h.le).1
  have hlt : (k : ℚ) < m + 1 := by linarith
  have hlt : k < m + 1 := by exact_mod_cast hlt
  omega

/-- Nothing is rounded up beyond a natural number. -/
theorem le_of_lt_cast (h : Rounds m t) (hk : t < k) : m ≤ k := by
  have hhigh := (abs_le.1 h.le).2
  have hlt : (m : ℚ) < k + 1 := by linarith
  have hlt : m < k + 1 := by exact_mod_cast hlt
  omega

/-- What is rounded to an odd number or a smaller one is less than a half above it: from there, it
    would be rounded up. -/
theorem lt_add_half (h : Rounds m t) (hk : m ≤ k) (hodd : ¬ Even k) : t < k + 1 / 2 := by
  have hlow := (abs_le.1 h.le).1
  have hmk : (m : ℚ) ≤ k := by exact_mod_cast hk
  by_contra! hge
  have heq : (m : ℚ) = k := by linarith
  have htie : |(m : ℚ) - t| = 1 / 2 := by
    rw [abs_of_nonpos (by linarith)]
    linarith
  have heq : m = k := by exact_mod_cast heq
  exact hodd (heq ▸ h.even htie)

end Rounds

/-- What is less than a half is rounded to zero. -/
theorem rounds_zero {t : ℚ} (ht : 0 ≤ t) (h : t < 1 / 2) : Rounds 0 t := by
  refine .of_lt_half ?_
  rwa [Nat.cast_zero, zero_sub, abs_neg, abs_of_nonneg ht]

/-- The quotient of two natural numbers with its remainder. -/
theorem cast_div_eq (n : ℕ) {d : ℕ} (hd : 0 < d) :
    (n : ℚ) / d = (n / d : ℕ) + ((n % d : ℕ) : ℚ) / d := by
  have hd' : (d : ℚ) ≠ 0 := by exact_mod_cast hd.ne'
  have hn : (n : ℚ) = d * (n / d : ℕ) + (n % d : ℕ) := by exact_mod_cast (Nat.div_add_mod n d).symm
  field_simp
  linarith

/-- A rounded quotient is nearest to the quotient. -/
theorem rounds_roundQuotient (n : ℕ) {d : ℕ} (hd : 0 < d) : Rounds (roundQuotient n d) (n / d) := by
  have hd' : (0 : ℚ) < d := by exact_mod_cast hd
  have hpos : 0 ≤ ((n % d : ℕ) : ℚ) / d := by positivity
  have hsmall : ((n % d : ℕ) : ℚ) / d < 1 := by
    rw [div_lt_one hd']
    exact_mod_cast Nat.mod_lt n hd
  rw [cast_div_eq n hd, roundQuotient]
  split
  next hr =>
    have hr : ((n % d : ℕ) : ℚ) / d < 1 / 2 := by
      rw [div_lt_div_iff₀ hd' two_pos]
      exact_mod_cast by omega
    refine .of_lt_half ?_
    rwa [sub_add_cancel_left, abs_neg, abs_of_nonneg hpos]
  split
  next hr =>
    have hr : 1 / 2 < ((n % d : ℕ) : ℚ) / d := by
      rw [div_lt_div_iff₀ two_pos hd']
      exact_mod_cast by omega
    refine .of_lt_half ?_
    rw [Nat.cast_succ, add_sub_add_left_eq_sub, abs_of_pos (by linarith)]
    linarith
  next hlt hgt =>
    have hr : ((n % d : ℕ) : ℚ) / d = 1 / 2 := by
      rw [div_eq_div_iff hd'.ne' two_ne_zero]
      exact_mod_cast by omega
    have heven : Even (n / d + n / d % 2) := by
      rw [Nat.even_iff]
      omega
    refine ⟨?_, fun _ => heven⟩
    rw [hr, Nat.cast_add, add_sub_add_left_eq_sub]
    rcases Nat.mod_two_eq_zero_or_one (n / d) with h | h <;> rw [h] <;> norm_num

/-! ## The grid of a shift -/

/-- A number that is rounded on the grid of a shift is nearest, if mantissas have their full length
    there. Then the smaller numbers between the places of the grid do not matter. -/
theorem Rounds.isNearestUnits {x : FiniteDouble} {t : ℚ} {m shift : ℕ}
    (h : Rounds m (t / 2 ^ shift)) (hx : x.units = m * 2 ^ shift)
    (heven : Even m → Even x.mantissa) (hfull : shift = 0 ∨ 2 ^ 52 * 2 ^ shift ≤ t) :
    x.IsNearestUnits t := by
  have hpos : (0 : ℚ) < 2 ^ shift := by positivity
  -- Distances on the grid are those of quotients, times the width of the grid.
  have hdist : ∀ k : ℕ,
      |((k * 2 ^ shift : ℕ) : ℚ) - t| = |(k : ℚ) - t / 2 ^ shift| * 2 ^ shift := by
    intro k
    have hscale : ((k * 2 ^ shift : ℕ) : ℚ) - t = ((k : ℚ) - t / 2 ^ shift) * 2 ^ shift := by
      push_cast
      field_simp
    rw [hscale, abs_mul, abs_of_pos hpos]
  have hle : ∀ k : ℕ, |(x.units : ℚ) - t| ≤ |((k * 2 ^ shift : ℕ) : ℚ) - t| := by
    intro k
    rw [hx, hdist, hdist]
    refine mul_le_mul_of_nonneg_right ?_ hpos.le
    by_cases hk : k = m
    · rw [hk]
    · rcases h.lt_or_eq_half_of_ne hk with hlt | ⟨hm, hk⟩
      · exact hlt.le
      · rw [hm, hk]
  have hsmall : ∀ y : FiniteDouble, 0 < shift → y.units < 2 ^ 52 * 2 ^ shift →
      |(x.units : ℚ) - t| < |(y.units : ℚ) - t| := by
    intro y hshift hy
    have ht : 2 ^ 52 * 2 ^ shift ≤ t := hfull.resolve_left hshift.ne'
    have hy' : (y.units : ℚ) < 2 ^ 52 * 2 ^ shift := by exact_mod_cast hy
    refine lt_of_le_of_lt (hle (2 ^ 52)) ?_
    push_cast
    rw [abs_of_nonpos (by linarith), abs_of_nonpos (by linarith)]
    linarith
  refine ⟨fun y => ?_, fun y hne htie => ?_⟩
  · rcases y.units_grid shift with ⟨k, hk⟩ | ⟨hshift, hy⟩
    · rw [hk]
      exact hle (y.mantissa * k)
    · exact (hsmall y hshift hy).le
  · rcases y.units_grid shift with ⟨k, hk⟩ | ⟨hshift, hy⟩
    · have hkm : y.mantissa * k ≠ m := by
        intro hkm
        rw [hk, hx, hkm] at hne
        exact hne rfl
      rw [hk, hx, hdist, hdist] at htie
      have hequal := mul_right_cancel₀ hpos.ne' htie
      rcases h.lt_or_eq_half_of_ne hkm with hlt | ⟨hhalf, -⟩
      · exact absurd hequal hlt.ne'
      · exact heven (h.even hhalf)
    · exact absurd htie (hsmall y hshift hy).ne'

namespace Double

/-! ## Limits -/

/-- The limit of the finite numbers, in units: half a unit of the last place above the largest
    one. -/
def limitUnits : ℚ :=
  (2 ^ 53 - 1 / 2) * 2 ^ 2045

/-- Half a unit above the mantissas of a shift that fits is not above the limit. -/
theorem le_limitUnits {shift : ℕ} (h : shift ≤ 2045) :
    (2 ^ 53 - 1 / 2) * 2 ^ shift ≤ limitUnits :=
  mul_le_mul_of_nonneg_left (pow_le_pow_right₀ one_le_two h) (by norm_num)

/-- With a larger shift it is not below the limit. -/
theorem limitUnits_le {shift : ℕ} (h : 2045 ≤ shift) :
    limitUnits ≤ (2 ^ 53 - 1 / 2) * 2 ^ shift :=
  mul_le_mul_of_nonneg_left (pow_le_pow_right₀ one_le_two h) (by norm_num)

/-- The limit in units is the limit. -/
theorem limitUnits_eq : limitUnits = limit * 2 ^ 1074 := by
  have hpow : ∀ a b : ℕ, (2 : ℚ) ^ a * 2 ^ b = 2 ^ (a + b) := fun a b => (pow_add 2 a b).symm
  have hhalf : ∀ a : ℕ, (1 / 2 : ℚ) * 2 ^ (a + 1) = 2 ^ a := by
    intro a
    rw [pow_succ]
    ring
  rw [limitUnits, limit, sub_mul, sub_mul, hpow, hpow, hpow, hhalf 2044]

/-- What a number of units becomes: the nearest member of its sign, or an infinite one from the
    limit on. -/
inductive IsRoundedUnits (negative : Bool) (t : ℚ) : Double → Prop
  | finite {x : FiniteDouble} (hsign : x.negative = negative) (hnearest : x.IsNearestUnits t)
      (hlt : t < limitUnits) : IsRoundedUnits negative t (.finite x)
  | infinite (hle : limitUnits ≤ t) : IsRoundedUnits negative t (.infinite negative)

/-- What is rounded in units is rounded. -/
theorem IsRoundedUnits.isRounded {negative : Bool} {size : ℚ} {x : Double} (hsize : 0 ≤ size)
    (h : IsRoundedUnits negative (size * 2 ^ 1074) x) : IsRounded negative size x := by
  have hone : (0 : ℚ) < 2 ^ 1074 := by positivity
  cases h with
  | finite hsign hnearest hlt =>
    have hnearest := hnearest.isNearest (mul_nonneg hsize hone.le)
    rw [mul_div_cancel_right₀ _ hone.ne', hsign] at hnearest
    rw [limitUnits_eq, mul_lt_mul_iff_of_pos_right hone] at hlt
    exact .finite hsign hnearest hlt
  | infinite hle =>
    rw [limitUnits_eq, mul_le_mul_iff_of_pos_right hone] at hle
    exact .infinite hle

/-! ## Mantissas and shifts -/

/-- The number of a mantissa and a shift that fit. -/
theorem ofParts_eq_finite {negative : Bool} {mantissa shift : ℕ} (hm : mantissa < 2 ^ 53)
    (hshift : shift ≤ 2045) (hfull : 2 ^ 52 ≤ mantissa ∨ shift = 0) :
    ofParts negative mantissa shift =
      .finite ⟨negative, mantissa, shift, hm, hshift, hfull⟩ :=
  dif_pos ⟨hm, hshift, hfull⟩

/-- A shift that does not fit. -/
theorem ofParts_eq_infinite {negative : Bool} {mantissa shift : ℕ} (hshift : 2045 < shift) :
    ofParts negative mantissa shift = .infinite negative :=
  dif_neg fun h => absurd h.2.1 (by omega)

variable {t : ℚ} {m shift : ℕ}

/-- What is rounded to `2 ^ 53` has the next shift. -/
theorem isRoundedUnits_carry (negative : Bool) (h : Rounds (2 ^ 53) (t / 2 ^ shift))
    (hlt : t < 2 ^ 53 * 2 ^ shift) (hfull : shift = 0 ∨ 2 ^ 52 * 2 ^ shift ≤ t) :
    IsRoundedUnits negative t (ofParts negative (2 ^ 52) (shift + 1)) := by
  have hpos : (0 : ℚ) < 2 ^ shift := by positivity
  have hge : (2 ^ 53 - 1 / 2) * 2 ^ shift ≤ t := by
    have hhigh := (abs_le.1 h.le).2
    push_cast at hhigh
    rw [← le_div_iff₀ hpos]
    linarith
  rcases Nat.lt_or_ge shift 2045 with hshift | hshift
  · have hlimit := le_limitUnits (Nat.succ_le_of_lt hshift)
    rw [Nat.succ_eq_add_one, pow_succ (2 : ℚ) shift] at hlimit
    rw [ofParts_eq_finite (by decide) hshift (.inl le_rfl)]
    refine .finite rfl (h.isNearestUnits ?_ ?_ hfull) (by linarith)
    · change 2 ^ 52 * 2 ^ (shift + 1) = 2 ^ 53 * 2 ^ shift
      ring
    · exact fun _ => ⟨2 ^ 51, by ring⟩
  · rw [ofParts_eq_infinite (by omega)]
    exact .infinite ((limitUnits_le hshift).trans hge)

/-- What is rounded to a mantissa has its shift. -/
theorem isRoundedUnits_ofParts (negative : Bool) (h : Rounds m (t / 2 ^ shift)) (hm : m < 2 ^ 53)
    (hfull : shift = 0 ∨ 2 ^ 52 * 2 ^ shift ≤ t) :
    IsRoundedUnits negative t (ofParts negative m shift) := by
  have hpos : (0 : ℚ) < 2 ^ shift := by positivity
  have hmantissa : 2 ^ 52 ≤ m ∨ shift = 0 := by
    rcases hfull with hzero | hle
    · exact .inr hzero
    · rw [← le_div_iff₀ hpos] at hle
      exact .inl (h.le_of_cast_le (by exact_mod_cast hle))
  -- The largest mantissa is odd.
  have hlt : t < (2 ^ 53 - 1 / 2) * 2 ^ shift := by
    have hhalf := h.lt_add_half (Nat.le_sub_one_of_lt hm) (by decide)
    rw [← div_lt_iff₀ hpos]
    norm_num at hhalf ⊢
    linarith
  rcases Nat.lt_or_ge 2045 shift with hshift | hshift
  · rw [ofParts_eq_infinite hshift]
    refine .infinite ?_
    obtain ⟨shift, rfl⟩ := Nat.exists_eq_succ_of_ne_zero (show shift ≠ 0 by omega)
    have hlimit := limitUnits_le (Nat.le_of_lt_succ hshift)
    have hle := hfull.resolve_left (by omega)
    rw [Nat.succ_eq_add_one, pow_succ (2 : ℚ) shift] at hle
    have hnonneg : (0 : ℚ) ≤ 2 ^ shift := by positivity
    linarith
  · rw [ofParts_eq_finite hm hshift hmantissa]
    exact .finite rfl (h.isNearestUnits rfl id hfull) (hlt.trans_le (le_limitUnits hshift))

/-! ## Ratios -/

/-- The shift leaves a mantissa of full length, and no more. -/
theorem shift_bounds {units d : ℕ} (hd : 0 < d) (hshift : shift = (units / d).log2 - 52) :
    (units : ℚ) / d < 2 ^ 53 * 2 ^ shift ∧
      (shift = 0 ∨ 2 ^ 52 * 2 ^ shift ≤ (units : ℚ) / d) := by
  have hd' : (0 : ℚ) < d := by exact_mod_cast hd
  constructor
  · have hlt : units / d < 2 ^ 53 * 2 ^ shift := by
      calc units / d < 2 ^ ((units / d).log2 + 1) := Nat.lt_log2_self
        _ ≤ 2 ^ (53 + shift) := Nat.pow_le_pow_right two_pos (by omega)
        _ = 2 ^ 53 * 2 ^ shift := pow_add 2 53 shift
    rw [div_lt_iff₀ hd']
    exact_mod_cast (Nat.div_lt_iff_lt_mul hd).1 hlt
  · rcases Nat.eq_zero_or_pos shift with hzero | hpos
    · exact .inl hzero
    · right
      have hne : units / d ≠ 0 := by
        intro hzero
        rw [hzero, Nat.log2_zero] at hshift
        omega
      have hle : 2 ^ 52 * 2 ^ shift ≤ units / d := by
        calc 2 ^ 52 * 2 ^ shift = 2 ^ (52 + shift) := (pow_add 2 52 shift).symm
          _ = 2 ^ (units / d).log2 := by congr 1; omega
          _ ≤ units / d := Nat.log2_self_le hne
      rw [le_div_iff₀ hd']
      exact_mod_cast (Nat.le_div_iff_mul_le hd).1 hle

/-- A ratio is rounded in units. -/
theorem isRoundedUnits_ofRatio (negative : Bool) (n : ℕ) {d : ℕ} (hd : 0 < d) :
    IsRoundedUnits negative (n / d * 2 ^ 1074) (ofRatio negative n d) := by
  -- The power stays closed, so that no step computes it.
  have hscale : ∀ k, (n / d * 2 ^ k : ℚ) = ((n * Nat.pow 2 k : ℕ) : ℚ) / d := by
    intro k
    change (n / d * 2 ^ k : ℚ) = ((n * 2 ^ k : ℕ) : ℚ) / d
    rw [Nat.cast_mul, Nat.cast_pow, Nat.cast_ofNat, div_mul_eq_mul_div]
  rw [hscale 1074, ofRatio]
  generalize n * Nat.pow 2 1074 = units
  generalize hshift : (units / d).log2 - 52 = shift
  obtain ⟨hlt, hfull⟩ := shift_bounds hd hshift.symm
  have hround : Rounds (roundQuotient units (d * Nat.pow 2 shift)) (units / d / 2 ^ shift) := by
    have hround := rounds_roundQuotient units (Nat.mul_pos hd (Nat.two_pow_pos shift))
    rwa [Nat.cast_mul, Nat.cast_pow, Nat.cast_ofNat, ← div_div] at hround
  change IsRoundedUnits negative (units / d)
    (if roundQuotient units (d * Nat.pow 2 shift) = 2 ^ 53 then
      ofParts negative (2 ^ 52) (shift + 1)
    else ofParts negative (roundQuotient units (d * Nat.pow 2 shift)) shift)
  split
  next hcarry => exact isRoundedUnits_carry negative (hcarry ▸ hround) hlt hfull
  next hcarry =>
    have hle : roundQuotient units (d * Nat.pow 2 shift) ≤ 2 ^ 53 := by
      refine hround.le_of_lt_cast ?_
      rw [div_lt_iff₀ (by positivity)]
      exact_mod_cast hlt
    exact isRoundedUnits_ofParts negative hround (lt_of_le_of_ne hle hcarry) hfull

/-- A ratio is rounded. -/
theorem isRounded_ofRatio (negative : Bool) (n : ℕ) {d : ℕ} (hd : 0 < d) :
    IsRounded negative (n / d) (ofRatio negative n d) :=
  (isRoundedUnits_ofRatio negative n hd).isRounded (by positivity)

/-- What is less than half a unit becomes zero. -/
theorem isRounded_zero (negative : Bool) {size : ℚ} (hsize : 0 ≤ size)
    (h : size * 2 ^ 1074 < 1 / 2) : IsRounded negative size (.finite (.zero negative)) := by
  have hone : (0 : ℚ) < 2 ^ 1074 := by positivity
  have hround : ∀ t : ℚ, 0 ≤ t → t < 1 / 2 → Rounds 0 (t / 2 ^ 0) := by
    intro t ht hhalf
    rw [pow_zero, div_one]
    exact rounds_zero ht hhalf
  have hlimit : 1 / 2 < limitUnits := by
    calc (1 : ℚ) / 2 < (2 ^ 53 - 1 / 2) * 2 ^ 0 := by norm_num
      _ ≤ limitUnits := le_limitUnits (Nat.zero_le _)
  refine IsRoundedUnits.isRounded hsize (.finite rfl ?_ (h.trans hlimit))
  exact (hround _ (mul_nonneg hsize hone.le) h).isNearestUnits rfl id (.inl rfl)

end Double

end QueryFilter
