import QueryFilter.Date.Instant
import QueryFilter.Proofs.Number.Numeral
import Mathlib.Data.Nat.Digits.Lemmas

/-!
# Written numbers

How natural numbers are written in digits: the digits say the number again, zeros in front of
them say nothing, and zeros after them are factors of ten. Numbers written in one width are
ordered like their texts.

* `digitsValue_toDigits`, `digitsValue_padded`: what is written says the number;
* `toDigits_mul_pow`: a number with powers of ten after it;
* `length_padded`, `padded_append_lt`: numbers that fit into a width.
-/

namespace QueryFilter

/-! ## What digits say -/

/-- A digit and its value. -/
theorem sub_zero_lt_of_isDigit {c : Char} (h : c.isDigit = true) : c.toNat - '0'.toNat < 10 := by
  have hrange := toNat_of_isDigit h
  have hzero : '0'.toNat = 48 := rfl
  omega

/-- The first digit counts most. -/
theorem digitsValue_cons (c : Char) (ds : List Char) :
    digitsValue (c :: ds) = (c.toNat - '0'.toNat) * 10 ^ ds.length + digitsValue ds := by
  have hone : digitsValue [c] = c.toNat - '0'.toNat := by simp [digitsValue]
  rw [← List.singleton_append, digitsValue_append, hone]

/-- Digits say less than the power of ten of their number. -/
theorem digitsValue_lt {ds : List Char} (h : ∀ c ∈ ds, c.isDigit = true) :
    digitsValue ds < 10 ^ ds.length := by
  have hlt : digitsValue ds < 10 ^ (ds.reverse.map fun c => c.toNat - '0'.toNat).length := by
    refine Nat.ofDigits_lt_base_pow_length (by decide) fun n hn => ?_
    obtain ⟨c, hc, rfl⟩ := List.mem_map.1 hn
    exact sub_zero_lt_of_isDigit (h c (List.mem_reverse.1 hc))
  rwa [List.length_map, List.length_reverse] at hlt

/-- Zeros say nothing. -/
theorem digitsValue_replicate_zero (k : ℕ) : digitsValue (List.replicate k '0') = 0 := by
  induction k with
  | zero => rfl
  | succ k ih => rw [List.replicate_succ, digitsValue_cons, ih, Nat.sub_self, Nat.zero_mul]

/-- Zeros before digits say nothing. -/
theorem digitsValue_zeros_append (k : ℕ) (ds : List Char) :
    digitsValue (List.replicate k '0' ++ ds) = digitsValue ds := by
  rw [digitsValue_append, digitsValue_replicate_zero, Nat.zero_mul, Nat.zero_add]

/-- Zeros after digits are factors of ten. -/
theorem digitsValue_append_zeros (ds : List Char) (k : ℕ) :
    digitsValue (ds ++ List.replicate k '0') = digitsValue ds * 10 ^ k := by
  rw [digitsValue_append, digitsValue_replicate_zero, List.length_replicate, Nat.add_zero]

/-- The digits of a number say it. -/
theorem digitsValue_toDigits (n : ℕ) : digitsValue (Nat.toDigits 10 n) = n := by
  rw [← valueOfDigits_eq]
  exact Nat.ofDigitChars_toDigits (by decide) (by decide)

/-- Zeros are digits. -/
theorem isDigit_of_mem_replicate_zero {k : ℕ} {c : Char} (h : c ∈ List.replicate k '0') :
    c.isDigit = true := by
  rw [List.eq_of_mem_replicate h]
  rfl

/-- A power of ten after a number is as many zeros after its digits. -/
theorem toDigits_mul_pow {n : ℕ} (hn : 0 < n) (k : ℕ) :
    Nat.toDigits 10 (n * 10 ^ k) = Nat.toDigits 10 n ++ List.replicate k '0' := by
  induction k with
  | zero => rw [pow_zero, mul_one, List.replicate_zero, List.append_nil]
  | succ k ih =>
    have hstep : n * 10 ^ (k + 1) = 10 * (n * 10 ^ k) + 0 := by ring
    have hpos : 0 < n * 10 ^ k := Nat.mul_pos hn (Nat.pow_pos (by decide))
    rw [hstep, ← Nat.toDigits_append_toDigits (by decide) hpos (by decide), ih,
      List.replicate_succ', List.append_assoc]
    rfl

/-! ## Numbers of one width -/

open Instant (padded)

/-- A number that fits into a width is as long as the width. -/
theorem length_padded {width n : ℕ} (hpos : 0 < width) (h : n < 10 ^ width) :
    (padded width n).length = width := by
  have hle := (Nat.length_toDigits_le_iff (by decide) hpos).2 h
  rw [padded, List.length_append, List.length_replicate]
  omega

/-- What is written in a width is digits. -/
theorem isDigit_of_mem_padded {width n : ℕ} : ∀ c ∈ padded width n, c.isDigit = true := by
  intro c hc
  rcases List.mem_append.1 hc with hc | hc
  · exact isDigit_of_mem_replicate_zero hc
  · exact Nat.isDigit_of_mem_toDigits (by decide) (by decide) hc

/-- The digits of a number in a width say it. -/
theorem digitsValue_padded (width n : ℕ) : digitsValue (padded width n) = n := by
  rw [padded, digitsValue_zeros_append, digitsValue_toDigits]

/-- Of texts as long as each other, one that is smaller stays smaller before any others. -/
theorem append_lt_append {as bs cs ds : List Char} (hlen : as.length = bs.length) (h : as < bs) :
    as ++ cs < bs ++ ds := by
  induction as generalizing bs with
  | nil =>
    rw [List.length_nil] at hlen
    rw [List.length_eq_zero_iff.1 hlen.symm] at h
    exact absurd h (List.not_lt_nil _)
  | cons a as ih =>
    cases bs with
    | nil => simp at hlen
    | cons b bs =>
      rw [List.cons_append, List.cons_append, List.cons_lt_cons_iff]
      rw [List.cons_lt_cons_iff] at h
      refine h.imp_right fun ⟨heq, hlt⟩ => ⟨heq, ih ?_ hlt⟩
      simpa using hlen

/-- Digits of one length that say less are smaller. -/
theorem lt_of_digitsValue_lt {as bs : List Char} (has : ∀ c ∈ as, c.isDigit = true)
    (hbs : ∀ c ∈ bs, c.isDigit = true) (hlen : as.length = bs.length)
    (h : digitsValue as < digitsValue bs) : as < bs := by
  induction as generalizing bs with
  | nil =>
    rw [List.length_nil] at hlen
    rw [List.length_eq_zero_iff.1 hlen.symm] at h
    exact absurd h (Nat.lt_irrefl _)
  | cons a as ih =>
    cases bs with
    | nil => simp at hlen
    | cons b bs =>
      have hlen : as.length = bs.length := by simpa using hlen
      obtain ⟨ha, has⟩ := List.forall_mem_cons.1 has
      obtain ⟨hb, hbs⟩ := List.forall_mem_cons.1 hbs
      have hsmall := digitsValue_lt hbs
      rw [digitsValue_cons, digitsValue_cons, hlen] at h
      rw [List.cons_lt_cons_iff]
      rcases Nat.lt_trichotomy a.toNat b.toNat with hlt | heq | hgt
      · exact .inl hlt
      · refine .inr ⟨Char.toNat_inj.1 heq, ih has hbs hlen ?_⟩
        rw [heq] at h
        exact Nat.lt_of_add_lt_add_left h
      · -- A larger first digit says more than all that may follow a smaller one.
        have hfirst : b.toNat - '0'.toNat + 1 ≤ a.toNat - '0'.toNat := by
          have hrange := toNat_of_isDigit hb
          have hzero : '0'.toNat = 48 := rfl
          omega
        have hle := Nat.mul_le_mul_right (10 ^ bs.length) hfirst
        rw [Nat.add_mul, Nat.one_mul] at hle
        omega

/-- Numbers that fit into a width are ordered like their texts, also before other texts. -/
theorem padded_append_lt {width m n : ℕ} {cs ds : List Char} (hpos : 0 < width)
    (hn : n < 10 ^ width) (h : m < n ∨ m = n ∧ cs < ds) :
    padded width m ++ cs < padded width n ++ ds := by
  rcases h with hlt | ⟨rfl, hlt⟩
  · have hlen : (padded width m).length = (padded width n).length := by
      rw [length_padded hpos (hlt.trans hn), length_padded hpos hn]
    refine append_lt_append hlen ?_
    refine lt_of_digitsValue_lt isDigit_of_mem_padded isDigit_of_mem_padded hlen ?_
    rwa [digitsValue_padded, digitsValue_padded]
  · exact List.append_left_lt hlt

end QueryFilter
