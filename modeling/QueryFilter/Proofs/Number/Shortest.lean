import QueryFilter.Proofs.Number.Grid
import QueryFilter.Proofs.Number.Written
import Mathlib.Data.List.DropRight

/-!
# Shortest decimal numbers

The decimal number that a member of the binary format is printed as is read back as that member; no
other one that is read back has fewer digits, and of those with as few digits none is nearer
(`Decimal.isShortest_shortest`).

The search goes through the grids of one digit, two digits and so on (`searchGrids_cases`). A
decimal number that is read back has, between itself and the member, a number on the grid of as many
digits (`exists_mem_uIcc_grid`), so that the search does not go beyond this grid.
-/

namespace QueryFilter

namespace Decimal

variable {x : FiniteDouble}

/-! ## Significant digits -/

/-- The zeros at the end of a decimal number are left out. -/
theorem exists_toDigits_eq (d : Decimal) :
    ∃ k, Nat.toDigits 10 d.digits = d.significant ++ List.replicate k '0' := by
  rw [significant]
  split
  next => exact ⟨0, (List.append_nil _).symm⟩
  next =>
    refine ⟨((Nat.toDigits 10 d.digits).rtakeWhile (· == '0')).length, ?_⟩
    have hzeros : (Nat.toDigits 10 d.digits).rtakeWhile (· == '0') =
        List.replicate ((Nat.toDigits 10 d.digits).rtakeWhile (· == '0')).length '0' :=
      List.eq_replicate_iff.2 ⟨rfl, fun c hc => by simpa using List.mem_rtakeWhile_imp hc⟩
    rw [← hzeros]
    exact List.rdropWhile_append_rtakeWhile.symm

/-- What is left is digits. -/
theorem isDigit_of_mem_significant {d : Decimal} : ∀ c ∈ d.significant, c.isDigit = true := by
  intro c hc
  obtain ⟨k, hk⟩ := d.exists_toDigits_eq
  refine Nat.isDigit_of_mem_toDigits (b := 10) (n := d.digits) (by decide) (by decide) ?_
  rw [hk]
  exact List.mem_append_left _ hc

/-- At least one digit is left. -/
theorem significant_ne_nil (d : Decimal) : d.significant ≠ [] := by
  intro hnil
  obtain ⟨k, hk⟩ := d.exists_toDigits_eq
  have hzero : d.digits = 0 := by
    rw [← digitsValue_toDigits d.digits, hk, hnil, List.nil_append, digitsValue_replicate_zero]
  rw [significant, if_pos hzero, hzero] at hnil
  exact List.cons_ne_nil _ _ hnil

/-- The significant digits and the decimal point say the size. -/
theorem size_eq_significant (d : Decimal) : d.size =
    digitsValue d.significant * 10 ^ (digitCount d.digits + d.exponent - d.significant.length) := by
  obtain ⟨k, hk⟩ := d.exists_toDigits_eq
  have hdigits : d.digits = digitsValue d.significant * 10 ^ k := by
    have hvalue := digitsValue_toDigits d.digits
    rw [hk, digitsValue_append, digitsValue_replicate_zero, List.length_replicate] at hvalue
    exact hvalue.symm
  have hcount : (digitCount d.digits : ℤ) = d.significant.length + k := by
    rw [digitCount, hk, List.length_append, List.length_replicate, Nat.cast_add]
  have hexponent : (digitCount d.digits : ℤ) + d.exponent - d.significant.length =
      k + d.exponent := by
    omega
  rw [hexponent, zpow_add₀ (by norm_num), zpow_natCast, ← mul_assoc, size]
  congr 1
  exact_mod_cast hdigits

/-- A number with powers of ten after it has no more significant digits than it has digits. -/
theorem length_significant_le {d : Decimal} {n k : ℕ} (h : d.digits = n * 10 ^ k) :
    d.significant.length ≤ digitCount n := by
  rcases Nat.eq_zero_or_pos n with rfl | hn
  · rw [Nat.zero_mul] at h
    rw [significant, if_pos h, h]
    rfl
  · have hne : d.digits ≠ 0 := by
      rw [h]
      exact (Nat.mul_pos hn (Nat.pow_pos (by decide))).ne'
    have hdrop : d.significant = (Nat.toDigits 10 d.digits).rdropWhile (· == '0') := by
      rw [significant, if_neg hne]
      rfl
    have hzeros : ∀ k, (Nat.toDigits 10 n ++ List.replicate k '0').rdropWhile (· == '0') =
        (Nat.toDigits 10 n).rdropWhile (· == '0') := by
      intro k
      induction k with
      | zero => rw [List.replicate_zero, List.append_nil]
      | succ k ih =>
        rw [List.replicate_succ', ← List.append_assoc, List.rdropWhile_concat_pos _ _ _ rfl, ih]
    rw [hdrop, h, toDigits_mul_pow hn, hzeros]
    exact (List.rdropWhile_prefix _ _).length_le

/-! ## The search -/

/-- The search ends on the first grid on which anything is found; if there is none, it ends with the
    expansion of the number. -/
theorem searchGrids_cases (x : FiniteDouble) (count : ℕ) (e : ℤ) :
    (∃ j < count, onGrid? x (e - (j + 1 : ℕ)) = some (searchGrids x count e) ∧
      ∀ i < j, onGrid? x (e - (i + 1 : ℕ)) = none) ∨
    ∀ j < count, onGrid? x (e - (j + 1 : ℕ)) = none := by
  induction count generalizing e with
  | zero => exact .inr fun j hj => absurd hj (Nat.not_lt_zero j)
  | succ count ih =>
    -- The grid that is tried next is the one of the exponent below.
    have hnext : ∀ i : ℕ, e - 1 - (i + 1 : ℕ) = e - (i + 1 + 1 : ℕ) := by
      intro i
      push_cast
      ring
    cases hfirst : onGrid? x (e - 1) with
    | some y =>
      refine .inl ⟨0, Nat.succ_pos count, ?_, fun i hi => absurd hi (Nat.not_lt_zero i)⟩
      rw [searchGrids, hfirst]
      exact hfirst
    | none =>
      have hbelow : ∀ {j : ℕ}, (∀ i < j, onGrid? x (e - 1 - (i + 1 : ℕ)) = none) →
          ∀ i < j + 1, onGrid? x (e - (i + 1 : ℕ)) = none := by
        intro j h i hi
        cases i with
        | zero => exact hfirst
        | succ i =>
          rw [← hnext]
          exact h i (Nat.lt_of_succ_lt_succ hi)
      rcases ih (e - 1) with ⟨j, hj, hfound, hnone⟩ | hnone
      · refine .inl ⟨j + 1, Nat.succ_lt_succ hj, ?_, hbelow hnone⟩
        rw [searchGrids, hfirst, ← hnext]
        exact hfound
      · exact .inr (hbelow hnone)

/-- A member of the binary format that is not zero is found on the grid of some number of digits,
    and nothing is found on a grid of fewer digits. -/
theorem exists_shortest_onGrid? (hx : x.units ≠ 0) :
    ∃ count : ℕ, 0 < count ∧ onGrid? x (point x - count) = some (shortest x) ∧
      ∀ k : ℕ, 0 < k → k < count → onGrid? x (point x - k) = none := by
  have heq : shortest x = searchGrids x 17 (point x) := by
    rw [shortest, if_neg hx]
    rfl
  rcases searchGrids_cases x 17 (point x) with ⟨j, -, hfound, hnone⟩ | hnone
  · refine ⟨j + 1, Nat.succ_pos j, heq ▸ hfound, fun k hpos hk => ?_⟩
    obtain ⟨i, rfl⟩ : ∃ i, k = i + 1 := ⟨k - 1, by omega⟩
    exact hnone i (Nat.lt_of_succ_lt_succ hk)
  · obtain ⟨y, hy⟩ := exists_onGrid?_seventeen hx
    have hlast : onGrid? x (point x - 17) = none := hnone 16 (by decide)
    rw [hlast] at hy
    exact absurd hy (by simp)

/-! ## The shortest number -/

/-- Whether a decimal number is a shortest one for a member of the binary format: it is read back as
    the member, none with fewer digits is, and none with as few digits that is, is nearer. -/
structure IsShortest (d : Decimal) (x : FiniteDouble) : Prop where
  readsBack : d.toDouble = .finite x
  least : ∀ c : Decimal, c.toDouble = .finite x → d.significant.length ≤ c.significant.length
  nearest : ∀ c : Decimal, c.toDouble = .finite x → c.significant.length = d.significant.length →
    |d.size - x.size| ≤ |c.size - x.size|

/-- Between a decimal number and a member of the binary format there is a number on the grid of as
    many digits: the decimal number itself, or else the power of ten before the member. -/
theorem exists_mem_uIcc_grid (c : Decimal) (hx : x.units ≠ 0) :
    ∃ m : ℕ, (m : ℚ) * 10 ^ (point x - c.significant.length) ∈ Set.uIcc c.size x.size := by
  have hten : (10 : ℚ) ≠ 0 := by norm_num
  have hlen : 0 < c.significant.length := List.length_pos_of_ne_nil c.significant_ne_nil
  have hsize := c.size_eq_significant
  have hlt := c.size_lt
  generalize (digitCount c.digits : ℤ) + c.exponent = top at hsize hlt
  generalize c.significant.length = len at hsize hlen
  rcases Int.lt_or_le top (point x) with hsmall | hle
  · refine ⟨10 ^ (len - 1), Set.mem_uIcc_of_le ?_ ?_⟩
    all_goals
      have hexponent : ((len - 1 : ℕ) : ℤ) + (point x - len) = point x - 1 := by omega
      rw [Nat.cast_pow, Nat.cast_ofNat, ← zpow_natCast, ← zpow_add₀ hten, hexponent]
    · exact hlt.le.trans (zpow_le_zpow_right₀ (by norm_num) (by omega))
    · exact (point_bounds hx).1
  · refine ⟨digitsValue c.significant * 10 ^ (top - point x).toNat, ?_⟩
    have hexponent : top - len = (top - point x).toNat + (point x - len) := by omega
    rw [hsize, hexponent, zpow_add₀ hten, zpow_natCast, ← mul_assoc, Nat.cast_mul, Nat.cast_pow]
    exact Set.left_mem_uIcc

/-- A number with at most as many digits as a power of ten has zeros has no more significant
    digits. -/
theorem length_significant_le_of_le {d : Decimal} {k : ℕ} (hk : 0 < k) (h : d.digits ≤ 10 ^ k) :
    d.significant.length ≤ k := by
  rcases Nat.lt_or_eq_of_le h with hlt | heq
  · have hone : d.digits = d.digits * 10 ^ 0 := by rw [pow_zero, mul_one]
    calc d.significant.length ≤ digitCount d.digits := length_significant_le hone
      _ ≤ k := (Nat.length_toDigits_le_iff (by decide) hk).2 hlt
  · calc d.significant.length ≤ digitCount 1 := length_significant_le (heq.trans (one_mul _).symm)
      _ ≤ k := hk

/-- The shortest decimal number of a member of the binary format that is not zero. -/
theorem isShortest_of_units_ne_zero (hx : x.units ≠ 0) : (shortest x).IsShortest x := by
  obtain ⟨count, hpos, hfound, hnone⟩ := exists_shortest_onGrid? hx
  have hlength : (shortest x).significant.length ≤ count := by
    refine length_significant_le_of_le hpos (digits_le_of_onGrid? hfound ?_)
    have hexponent : (count : ℤ) + (point x - count) = point x := by omega
    rw [Nat.cast_pow, Nat.cast_ofNat, ← zpow_natCast, ← zpow_add₀ (by norm_num), hexponent]
    exact (point_bounds hx).2
  -- Whatever is read back has something next to it on the grid of as many digits.
  have hgrid : ∀ c : Decimal, c.toDouble = .finite x →
      ∃ m : ℕ, (m : ℚ) * 10 ^ (point x - c.significant.length) ∈ Set.uIcc c.size x.size ∧
        x.IsReadFrom (m * 10 ^ (point x - c.significant.length)) := by
    intro c hc
    obtain ⟨m, hm⟩ := exists_mem_uIcc_grid c hx
    exact ⟨m, hm, (toDouble_eq_finite_iff.1 hc).2.between hm⟩
  have hleast : ∀ c : Decimal, c.toDouble = .finite x → count ≤ c.significant.length := by
    intro c hc
    by_contra! hlt
    obtain ⟨m, -, hm⟩ := hgrid c hc
    obtain ⟨y, hy⟩ := exists_onGrid? hm
    rw [hnone _ (List.length_pos_of_ne_nil c.significant_ne_nil) hlt] at hy
    exact absurd hy (by simp)
  refine ⟨toDouble_of_onGrid? hfound, fun c hc => hlength.trans (hleast c hc), fun c hc hlen => ?_⟩
  have hcount : c.significant.length = count := le_antisymm (hlen.trans_le hlength) (hleast c hc)
  obtain ⟨m, hmem, hm⟩ := hgrid c hc
  rw [hcount] at hmem hm
  calc |(shortest x).size - x.size| ≤ |m * 10 ^ (point x - count) - x.size| :=
        abs_size_sub_le_of_onGrid? hfound hm
    _ ≤ |c.size - x.size| := by
        rw [abs_sub_comm, abs_sub_comm c.size]
        exact Set.abs_sub_right_of_mem_uIcc hmem

/-- A member of the binary format is printed as a shortest decimal number. -/
theorem isShortest_shortest (x : FiniteDouble) : (shortest x).IsShortest x := by
  by_cases hx : x.units = 0
  · have hzero : x = .zero x.negative := x.units_eq_zero_iff.1 hx
    have hshortest : shortest x = ⟨x.negative, 0, 0⟩ := by rw [shortest, if_pos hx]
    have hread : (shortest x).toDouble = .finite x := by
      rw [hshortest, toDouble, if_pos (.inl rfl), ← hzero]
    refine ⟨hread, fun c _ => ?_, fun c _ _ => ?_⟩
    · have hdigits : (shortest x).digits = 0 * 10 ^ 0 := by rw [hshortest, zero_mul]
      calc (shortest x).significant.length ≤ digitCount 0 := length_significant_le hdigits
        _ ≤ c.significant.length := List.length_pos_of_ne_nil c.significant_ne_nil
    · have hsize : (shortest x).size = x.size := by
        rw [hshortest, size, FiniteDouble.size, hx, Nat.cast_zero, zero_mul, zero_div]
      rw [hsize, sub_self, abs_zero]
      exact abs_nonneg _
  · exact isShortest_of_units_ne_zero hx

end Decimal

end QueryFilter
