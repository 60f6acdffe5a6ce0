import QueryFilter.Number.Shortest
import QueryFilter.Proofs.Number.ReadBack
import Mathlib.Algebra.Order.Group.Pointwise.Interval

/-!
# Decimal numbers on a grid

The decimal numbers of one exponent form a grid, and of these only the two neighbours of a member of
the binary format have to be tried, if one is sought that is read back as the member: the sizes that
are read back are an interval around the member, and between it and any number of the grid is a
neighbour (`AreNeighbours.mem_uIcc`).

* `Decimal.point_bounds`: where the decimal point of a member is;
* `Decimal.exists_onGrid?`: if any number of the grid is read back, one is found;
* `Decimal.abs_size_sub_le_of_onGrid?`: no other one that is read back is nearer;
* `Decimal.exists_onGrid?_seventeen`: with seventeen digits, one is always found.
-/

namespace QueryFilter

/-! ## Neighbours on a grid -/

/-- Between a natural number and a rational one is the natural number below the rational one, or the
    next one. -/
theorem floor_mem_uIcc {q m : ℕ} {t : ℚ} (hle : (q : ℚ) ≤ t) (hlt : t < (q + 1 : ℕ)) :
    (q : ℚ) ∈ Set.uIcc (m : ℚ) t ∨ ((q + 1 : ℕ) : ℚ) ∈ Set.uIcc (m : ℚ) t := by
  rcases Nat.lt_or_ge q m with hm | hm
  · exact .inr (Set.mem_uIcc_of_ge hlt.le (Nat.cast_le.2 hm))
  · exact .inl (Set.mem_uIcc_of_le (Nat.cast_le.2 hm) hle)

/-- The natural numbers next to a rational one, the nearer one first. -/
structure AreNeighbours (near far : ℕ) (t : ℚ) : Prop where
  rounds : Rounds near t
  enclose : ∃ q : ℕ, (q : ℚ) ≤ t ∧ t < (q + 1 : ℕ) ∧
    (near = q ∧ far = q + 1 ∨ near = q + 1 ∧ far = q)

namespace AreNeighbours

variable {near far : ℕ} {t : ℚ}

/-- Between a natural number and a rational one is a neighbour of the rational one. -/
theorem mem_uIcc (h : AreNeighbours near far t) (m : ℕ) :
    (near : ℚ) ∈ Set.uIcc (m : ℚ) t ∨ (far : ℚ) ∈ Set.uIcc (m : ℚ) t := by
  obtain ⟨q, hle, hlt, ⟨rfl, rfl⟩ | ⟨rfl, rfl⟩⟩ := h.enclose
  · exact floor_mem_uIcc hle hlt
  · exact (floor_mem_uIcc hle hlt).symm

/-- No natural number is nearer than the first neighbour. -/
theorem abs_sub_le (h : AreNeighbours near far t) (m : ℕ) : |(near : ℚ) - t| ≤ |(m : ℚ) - t| := by
  by_cases hm : m = near
  · rw [hm]
  · rcases h.rounds.lt_or_eq_half_of_ne hm with hlt | ⟨hnear, hm⟩
    · exact hlt.le
    · rw [hnear, hm]

/-- Neighbours are not above a natural number that the rational one is below. -/
theorem le_of_lt_cast (h : AreNeighbours near far t) {m : ℕ} (hm : t < m) : near ≤ m ∧ far ≤ m := by
  obtain ⟨q, hle, -, hq⟩ := h.enclose
  have hlt : q < m := by exact_mod_cast hle.trans_lt hm
  omega

end AreNeighbours

/-- A quotient is between the natural number below it and the next one. -/
theorem enclose_div (n : ℕ) {d : ℕ} (hd : 0 < d) :
    ((n / d : ℕ) : ℚ) ≤ n / d ∧ (n / d : ℚ) < (n / d + 1 : ℕ) := by
  have hd' : (0 : ℚ) < d := by exact_mod_cast hd
  rw [le_div_iff₀ hd', div_lt_iff₀ hd']
  refine ⟨?_, ?_⟩
  · exact_mod_cast Nat.div_mul_le_self n d
  · exact_mod_cast (Nat.div_lt_iff_lt_mul hd).1 (Nat.lt_succ_self (n / d))

/-- The rounded quotient and its other neighbour. -/
theorem areNeighbours_roundQuotient (n : ℕ) {d : ℕ} (hd : 0 < d) :
    AreNeighbours (roundQuotient n d)
      (if roundQuotient n d = n / d then roundQuotient n d + 1 else roundQuotient n d - 1)
      (n / d) := by
  obtain ⟨hle, hlt⟩ := enclose_div n hd
  refine ⟨rounds_roundQuotient n hd, n / d, hle, hlt, ?_⟩
  rw [roundQuotient]
  generalize n / d = q
  generalize n % d = r
  split_ifs <;> omega

/-! ## The decimal point -/

/-- The ratio of two numbers is between powers of ten of the difference of their lengths. -/
theorem ten_zpow_digitCount_bounds {n d : ℕ} (hn : n ≠ 0) (hd : d ≠ 0) :
    (10 : ℚ) ^ (digitCount n - digitCount d - 1 : ℤ) ≤ n / d ∧
      (n : ℚ) / d < 10 ^ (digitCount n - digitCount d + 1 : ℤ) := by
  have hten : (10 : ℚ) ≠ 0 := by norm_num
  have hd' : (0 : ℚ) < d := by exact_mod_cast Nat.pos_of_ne_zero hd
  have hsub : ∀ m, ((digitCount m - 1 : ℕ) : ℤ) = digitCount m - 1 := fun m =>
    Nat.cast_pred (digitCount_pos m)
  have hlow : ∀ {m : ℕ}, m ≠ 0 → (10 : ℚ) ^ (digitCount m - 1 : ℤ) ≤ m := by
    intro m hm
    rw [← hsub, zpow_natCast]
    exact_mod_cast pow_digitCount_le hm
  have hhigh : ∀ m : ℕ, (m : ℚ) < 10 ^ (digitCount m : ℤ) := by
    intro m
    rw [zpow_natCast]
    exact_mod_cast lt_pow_digitCount m
  rw [le_div_iff₀ hd', div_lt_iff₀ hd']
  refine ⟨?_, ?_⟩
  · calc (10 : ℚ) ^ (digitCount n - digitCount d - 1 : ℤ) * d
        ≤ 10 ^ (digitCount n - digitCount d - 1 : ℤ) * 10 ^ (digitCount d : ℤ) :=
          mul_le_mul_of_nonneg_left (hhigh d).le (by positivity)
      _ = 10 ^ (digitCount n - 1 : ℤ) := by
          rw [← zpow_add₀ hten]
          congr 1
          ring
      _ ≤ n := hlow hn
  · calc (n : ℚ) < 10 ^ (digitCount n : ℤ) := hhigh n
      _ = 10 ^ (digitCount n - digitCount d + 1 : ℤ) * 10 ^ (digitCount d - 1 : ℤ) := by
          rw [← zpow_add₀ hten]
          congr 1
          ring
      _ ≤ 10 ^ (digitCount n - digitCount d + 1 : ℤ) * d :=
          mul_le_mul_of_nonneg_left (hlow hd) (by positivity)

namespace Decimal

/-- The position of the decimal point of a ratio. -/
theorem pointOf_bounds {n d : ℕ} (hn : n ≠ 0) (hd : d ≠ 0) :
    (10 : ℚ) ^ (pointOf n d - 1) ≤ n / d ∧ (n : ℚ) / d < 10 ^ pointOf n d := by
  have hd' : (0 : ℚ) < d := by exact_mod_cast Nat.pos_of_ne_zero hd
  obtain ⟨hlow, hhigh⟩ := ten_zpow_digitCount_bounds hn hd
  have htest : ∀ k : ℤ, d * Nat.pow 10 k.toNat ≤ n * Nat.pow 10 (-k).toNat ↔
      (10 : ℚ) ^ k ≤ n / d := by
    intro k
    rw [ten_zpow_eq_div, div_le_div_iff₀ (by positivity) hd', mul_comm (10 ^ k.toNat) (d : ℚ)]
    exact_mod_cast Iff.rfl
  rw [pointOf]
  generalize (digitCount n : ℤ) - digitCount d = k at hlow hhigh ⊢
  simp only [htest]
  split
  next hle =>
    rw [add_sub_cancel_right]
    exact ⟨hle, hhigh⟩
  next hlt => exact ⟨hlow, not_le.1 hlt⟩

/-- The position of the decimal point of a member of the binary format. -/
def point (x : FiniteDouble) : ℤ :=
  pointOf x.units (Nat.pow 2 1074)

/-- The size of a member is between the powers of ten before and after its decimal point. -/
theorem point_bounds {x : FiniteDouble} (hx : x.units ≠ 0) :
    (10 : ℚ) ^ (point x - 1) ≤ x.size ∧ x.size < 10 ^ point x := by
  rw [x.size_eq_div]
  exact pointOf_bounds hx FiniteDouble.units_of_one_pos.ne'

/-! ## Grids -/

variable {x : FiniteDouble} {y : Decimal} {e : ℤ}

/-- The first of two neighbours on the grid of an exponent is tried first. -/
theorem onGrid?_eq (x : FiniteDouble) (e : ℤ) :
    ∃ near far, AreNeighbours near far (x.size / 10 ^ e) ∧
      onGrid? x e = [⟨x.negative, near, e⟩, ⟨x.negative, far, e⟩].find? fun y : Decimal =>
        y.toDouble = .finite x := by
  have hone := FiniteDouble.units_of_one_pos
  rw [x.size_eq_div, onGrid?]
  generalize Nat.pow 2 1074 = one at hone ⊢
  have hratio : ((x.units * Nat.pow 10 (-e).toNat : ℕ) : ℚ) / (one * Nat.pow 10 e.toNat : ℕ) =
      x.units / one / 10 ^ e := by
    have hcast : ∀ k : ℕ, ((Nat.pow 10 k : ℕ) : ℚ) = 10 ^ k := fun k => Nat.cast_pow 10 k
    rw [ten_zpow_eq_div, Nat.cast_mul, Nat.cast_mul, hcast, hcast, div_div_div_eq]
  refine ⟨_, _, ?_, rfl⟩
  rw [← hratio]
  exact areNeighbours_roundQuotient _ (Nat.mul_pos hone (Nat.pow_pos (by decide)))

/-- The size of a number on a grid. -/
theorem size_mk (negative : Bool) (m : ℕ) (e : ℤ) : size ⟨negative, m, e⟩ = m * 10 ^ e := rfl

/-- A number on the grid is read back if it has one of the sizes that are. -/
theorem toDouble_mk_eq_finite_iff {m : ℕ} :
    (⟨x.negative, m, e⟩ : Decimal).toDouble = .finite x ↔ x.IsReadFrom (m * 10 ^ e) := by
  rw [toDouble_eq_finite_iff, size_mk]
  exact and_iff_right rfl

/-- What is between a natural number and a size on a grid. -/
theorem mul_ten_zpow_mem_uIcc {m k : ℕ} (h : (k : ℚ) ∈ Set.uIcc (m : ℚ) (x.size / 10 ^ e)) :
    (k : ℚ) * 10 ^ e ∈ Set.uIcc ((m : ℚ) * 10 ^ e) x.size := by
  have hten : (0 : ℚ) < 10 ^ e := by positivity
  rw [Set.mem_uIcc] at h ⊢
  rcases h with ⟨hlow, hhigh⟩ | ⟨hlow, hhigh⟩
  · exact .inl ⟨mul_le_mul_of_nonneg_right hlow hten.le, (le_div_iff₀ hten).1 hhigh⟩
  · exact .inr ⟨(div_le_iff₀ hten).1 hlow, mul_le_mul_of_nonneg_right hhigh hten.le⟩

/-- If any number on the grid is read back, one of the neighbours is. -/
theorem exists_onGrid? {m : ℕ} (h : x.IsReadFrom (m * 10 ^ e)) : ∃ y, onGrid? x e = some y := by
  obtain ⟨near, far, hneighbours, heq⟩ := onGrid?_eq x e
  rw [heq, ← Option.isSome_iff_exists, List.find?_isSome]
  rcases hneighbours.mem_uIcc m with hmem | hmem
  · refine ⟨_, List.mem_cons_self, decide_eq_true ?_⟩
    exact toDouble_mk_eq_finite_iff.2 (h.between (mul_ten_zpow_mem_uIcc hmem))
  · refine ⟨_, List.mem_cons_of_mem _ List.mem_cons_self, decide_eq_true ?_⟩
    exact toDouble_mk_eq_finite_iff.2 (h.between (mul_ten_zpow_mem_uIcc hmem))

/-- What is found on the grid is read back. -/
theorem toDouble_of_onGrid? (h : onGrid? x e = some y) : y.toDouble = .finite x := by
  obtain ⟨near, far, -, heq⟩ := onGrid?_eq x e
  rw [heq] at h
  have hread := List.find?_some h
  exact of_decide_eq_true hread

/-- It has no more digits than there are places before the decimal point. -/
theorem digits_le_of_onGrid? {m : ℕ} (h : onGrid? x e = some y) (hm : x.size < m * 10 ^ e) :
    y.digits ≤ m := by
  have hten : (0 : ℚ) < 10 ^ e := by positivity
  obtain ⟨near, far, hneighbours, heq⟩ := onGrid?_eq x e
  obtain ⟨hnear, hfar⟩ := hneighbours.le_of_lt_cast ((div_lt_iff₀ hten).2 hm)
  rw [heq] at h
  have hmem := List.mem_of_find?_eq_some h
  simp only [List.mem_cons, List.not_mem_nil, or_false] at hmem
  rcases hmem with rfl | rfl
  · exact hnear
  · exact hfar

/-- Distances on the grid are those of quotients, times the width of the grid. -/
theorem abs_mul_ten_zpow_sub (m : ℕ) (e : ℤ) :
    |(m : ℚ) * 10 ^ e - x.size| = |(m : ℚ) - x.size / 10 ^ e| * 10 ^ e := by
  have hten : (0 : ℚ) < 10 ^ e := by positivity
  rw [← abs_of_pos hten, ← abs_mul, abs_of_pos hten, sub_mul, div_mul_cancel₀ _ hten.ne']

/-- Nothing else on the grid that is read back is nearer. The second neighbour is only found if the
    first one is not read back, and then nothing on the side of the first one is. -/
theorem abs_size_sub_le_of_onGrid? {m : ℕ} (h : onGrid? x e = some y)
    (hm : x.IsReadFrom (m * 10 ^ e)) : |y.size - x.size| ≤ |m * 10 ^ e - x.size| := by
  have hten : (0 : ℚ) ≤ 10 ^ e := by positivity
  obtain ⟨near, far, hneighbours, heq⟩ := onGrid?_eq x e
  rw [heq, List.find?_cons] at h
  split at h
  next =>
    obtain rfl := Option.some.inj h
    rw [size_mk, abs_mul_ten_zpow_sub, abs_mul_ten_zpow_sub]
    exact mul_le_mul_of_nonneg_right (hneighbours.abs_sub_le m) hten
  next hnear =>
    have hmem : (far : ℚ) ∈ Set.uIcc (m : ℚ) (x.size / 10 ^ e) := by
      refine (hneighbours.mem_uIcc m).resolve_left fun hmem => ?_
      refine of_decide_eq_false hnear (toDouble_mk_eq_finite_iff.2 ?_)
      exact hm.between (mul_ten_zpow_mem_uIcc hmem)
    obtain rfl : y = ⟨x.negative, far, e⟩ := by
      simpa using List.mem_of_find?_eq_some h
    rw [size_mk, abs_sub_comm, abs_sub_comm _ x.size]
    exact Set.abs_sub_right_of_mem_uIcc (mul_ten_zpow_mem_uIcc hmem)

/-- On the grid of seventeen digits there is always something that is read back: a step of the grid
    is shorter than the part `2 ^ (-53)` of the number, because `2 ^ 53` is less than `10 ^ 16`. -/
theorem exists_onGrid?_seventeen (hx : x.units ≠ 0) : ∃ y, onGrid? x (point x - 17) = some y := by
  have hten : (0 : ℚ) < 10 ^ (point x - 17) := by positivity
  obtain ⟨near, far, hneighbours, -⟩ := onGrid?_eq x (point x - 17)
  refine exists_onGrid? (m := near) (FiniteDouble.isReadFrom_of_close ?_)
  have hstep : (10 : ℚ) ^ (point x - 17) * 10 ^ 16 ≤ x.size := by
    have hpoint : point x - 17 + (16 : ℕ) = point x - 1 := by
      push_cast
      ring
    rw [← zpow_natCast, ← zpow_add₀ (by norm_num), hpoint]
    exact (point_bounds hx).1
  have hhalf := mul_le_mul_of_nonneg_right hneighbours.rounds.le hten.le
  rw [abs_mul_ten_zpow_sub]
  linarith

end Decimal

end QueryFilter
