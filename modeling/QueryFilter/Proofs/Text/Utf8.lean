import QueryFilter.Text.Utf8
import Mathlib.Data.List.Basic

/-!
# Reading octets as text

The decoder of octets reads every text back from its octets. It does so one character at a
time: the first octet of a character says how many octets follow and in which range the next
one lies, and the range never rules out an octet of the character. Octets of ASCII stand for
themselves wherever they are, so that the text of octets can be taken apart at each of them.

* `decode_encode`: the text of the octets of a text;
* `decode_append_of_ascii`: the text of octets among which there is one of ASCII.
-/

namespace QueryFilter.Text.Utf8

/-! ## One octet -/

/-- A number below 256 as an octet. -/
theorem toNat_octet {n : Nat} (h : n < 256) : (UInt8.ofNat n).toNat = n := by
  rw [UInt8.toNat_ofNat', Nat.mod_eq_of_lt h]

/-- Octets are read one after another. -/
theorem decodeFrom_cons (open? : Option Pending) (b : UInt8) (bs : List UInt8) :
    decodeFrom open? (b :: bs) = (step open? b).1 ++ decodeFrom (step open? b).2 bs := by
  rw [decodeFrom]

/-- Between two characters, an octet starts one. -/
theorem decodeFrom_none_cons (b : UInt8) (bs : List UInt8) :
    decodeFrom none (b :: bs) = (start b).1 ++ decodeFrom (start b).2 bs :=
  decodeFrom_cons none b bs

/-- An octet of ASCII is a character. -/
theorem start_of_ascii {b : UInt8} (h : b.toNat < 128) : start b = ([Char.ofNat b.toNat], none) := by
  rw [start, if_pos h]

/-- The first of two octets. -/
theorem start_two {n : Nat} (hlow : 0x80 ≤ n) (hhigh : n < 0x800) :
    start (UInt8.ofNat (0xC0 + n / 64)) = ([], some ⟨n / 64, 0, 0x80, 0xBF⟩) := by
  rw [start, toNat_octet (by omega)]
  simp only [if_neg (show ¬0xC0 + n / 64 < 0x80 by omega),
    if_neg (show ¬0xC0 + n / 64 < 0xC2 by omega), if_pos (show 0xC0 + n / 64 < 0xE0 by omega),
    Nat.add_sub_cancel_left]

/-- The first of three octets. The range of the second one leaves out numbers with shorter
    forms, and those that are no characters. -/
theorem start_three {n : Nat} (hlow : 0x800 ≤ n) (hhigh : n < 0x10000)
    (hvalid : n < 0xD800 ∨ 0xDFFF < n) : ∃ low high,
      start (UInt8.ofNat (0xE0 + n / 4096)) = ([], some ⟨n / 4096, 1, low, high⟩) ∧
        low ≤ 0x80 + n / 64 % 64 ∧ 0x80 + n / 64 % 64 ≤ high := by
  rw [start, toNat_octet (by omega)]
  simp only [if_neg (show ¬0xE0 + n / 4096 < 0x80 by omega),
    if_neg (show ¬0xE0 + n / 4096 < 0xC2 by omega), if_neg (show ¬0xE0 + n / 4096 < 0xE0 by omega),
    if_pos (show 0xE0 + n / 4096 < 0xF0 by omega), Nat.add_sub_cancel_left]
  by_cases hfirst : 0xE0 + n / 4096 = 0xE0
  · exact ⟨0xA0, 0xBF, by rw [if_pos hfirst, show n / 4096 = 0 by omega], by omega, by omega⟩
  · by_cases hsurrogate : 0xE0 + n / 4096 = 0xED
    · refine ⟨0x80, 0x9F, ?_, by omega, by omega⟩
      rw [if_neg hfirst, if_pos hsurrogate, show n / 4096 = 13 by omega]
    · exact ⟨0x80, 0xBF, by rw [if_neg hfirst, if_neg hsurrogate], by omega, by omega⟩

/-- The first of four octets. The range of the second one leaves out numbers with shorter
    forms, and those above the last character. -/
theorem start_four {n : Nat} (hlow : 0x10000 ≤ n) (hhigh : n < 0x110000) : ∃ low high,
    start (UInt8.ofNat (0xF0 + n / 262144)) = ([], some ⟨n / 262144, 2, low, high⟩) ∧
      low ≤ 0x80 + n / 4096 % 64 ∧ 0x80 + n / 4096 % 64 ≤ high := by
  rw [start, toNat_octet (by omega)]
  simp only [if_neg (show ¬0xF0 + n / 262144 < 0x80 by omega),
    if_neg (show ¬0xF0 + n / 262144 < 0xC2 by omega),
    if_neg (show ¬0xF0 + n / 262144 < 0xE0 by omega), if_neg (show 0xF0 + n / 262144 ≠ 0xE0 by omega),
    if_neg (show 0xF0 + n / 262144 ≠ 0xED by omega),
    if_neg (show ¬0xF0 + n / 262144 < 0xF0 by omega), Nat.add_sub_cancel_left]
  by_cases hfirst : 0xF0 + n / 262144 = 0xF0
  · exact ⟨0x90, 0xBF, by rw [if_pos hfirst, show n / 262144 = 0 by omega], by omega, by omega⟩
  · by_cases hlast : 0xF0 + n / 262144 < 0xF4
    · exact ⟨0x80, 0xBF, by rw [if_neg hfirst, if_pos hlast], by omega, by omega⟩
    · refine ⟨0x80, 0x8F, ?_, by omega, by omega⟩
      rw [if_neg hfirst, if_neg hlast, if_pos (show 0xF0 + n / 262144 = 0xF4 by omega),
        show n / 262144 = 4 by omega]

section Following

variable {bits low high n : Nat} (bs : List UInt8) (hn : n < 64) (hlow : low ≤ 0x80 + n)
  (hhigh : 0x80 + n ≤ high)

include hn hlow hhigh

/-- The last octet of a character ends it. -/
theorem decodeFrom_last :
    decodeFrom (some ⟨bits, 0, low, high⟩) (UInt8.ofNat (0x80 + n) :: bs) =
      Char.ofNat (bits * 64 + n) :: decodeFrom none bs := by
  have hb : (UInt8.ofNat (0x80 + n)).toNat = 0x80 + n := toNat_octet (by omega)
  rw [decodeFrom_cons, step, if_pos (by rw [hb]; exact ⟨hlow, hhigh⟩), hb, Nat.add_sub_cancel_left]
  rfl

/-- Another octet adds its bits. -/
theorem decodeFrom_next (missing : Nat) :
    decodeFrom (some ⟨bits, missing + 1, low, high⟩) (UInt8.ofNat (0x80 + n) :: bs) =
      decodeFrom (some ⟨bits * 64 + n, missing, 0x80, 0xBF⟩) bs := by
  have hb : (UInt8.ofNat (0x80 + n)).toNat = 0x80 + n := toNat_octet (by omega)
  rw [decodeFrom_cons, step, if_pos (by rw [hb]; exact ⟨hlow, hhigh⟩), hb, Nat.add_sub_cancel_left]
  rfl

end Following

/-! ## Texts -/

/-- The code points of characters. -/
theorem toNat_valid (c : Char) : c.toNat < 0xD800 ∨ 0xDFFF < c.toNat ∧ c.toNat < 0x110000 :=
  c.valid

/-- The octets of a character are read as that character. -/
theorem decodeFrom_encodeChar (c : Char) (bs : List UInt8) :
    decodeFrom none (encodeChar c ++ bs) = c :: decodeFrom none bs := by
  have hvalid := toNat_valid c
  rw [encodeChar]
  split_ifs with h₁ h₂ h₃
  · have hb : (UInt8.ofNat c.toNat).toNat = c.toNat := toNat_octet (by omega)
    rw [List.singleton_append, decodeFrom_none_cons, start_of_ascii (by omega), hb, Char.ofNat_toNat]
    rfl
  · rw [List.cons_append, List.singleton_append, decodeFrom_none_cons, start_two (by omega) h₂,
      List.nil_append, decodeFrom_last bs (by omega) (by omega) (by omega),
      show c.toNat / 64 * 64 + c.toNat % 64 = c.toNat by omega, Char.ofNat_toNat]
  · obtain ⟨low, high, hstart, hlow, hhigh⟩ := start_three (n := c.toNat) (by omega) h₃ (by omega)
    rw [List.cons_append, List.cons_append, List.singleton_append, decodeFrom_none_cons, hstart,
      List.nil_append, decodeFrom_next _ (by omega) hlow hhigh,
      decodeFrom_last bs (by omega) (by omega) (by omega),
      show (c.toNat / 4096 * 64 + c.toNat / 64 % 64) * 64 + c.toNat % 64 = c.toNat by omega,
      Char.ofNat_toNat]
  · obtain ⟨low, high, hstart, hlow, hhigh⟩ := start_four (n := c.toNat) (by omega) (by omega)
    rw [List.cons_append, List.cons_append, List.cons_append, List.singleton_append,
      decodeFrom_none_cons, hstart, List.nil_append, decodeFrom_next _ (by omega) hlow hhigh,
      decodeFrom_next _ (by omega) (by omega) (by omega),
      decodeFrom_last bs (by omega) (by omega) (by omega),
      show ((c.toNat / 262144 * 64 + c.toNat / 4096 % 64) * 64 + c.toNat / 64 % 64) * 64 +
        c.toNat % 64 = c.toNat by omega, Char.ofNat_toNat]

/-- The octets of a text are read as that text. -/
theorem decode_encode (cs : List Char) : decode (encode cs) = cs := by
  induction cs with
  | nil => rfl
  | cons c cs ih =>
    rw [decode] at ih ⊢
    rw [encode, List.flatMap_cons, decodeFrom_encodeChar, ← encode, ih]

/-! ## Octets of ASCII -/

/-- An octet that continues a character is none of ASCII: this is what the decoder waits for
    after any octet. -/
theorem le_low_of_step {open? : Option Pending} {b : UInt8} {p : Pending}
    (h : (step open? b).2 = some p) : 0x80 ≤ p.low := by
  have hstart : ∀ {q : Pending}, (start b).2 = some q → 0x80 ≤ q.low := by
    intro q hq
    rw [start] at hq
    split_ifs at hq <;> simp only [Option.some.injEq] at hq <;> simp [← hq]
  cases open? with
  | none => exact hstart h
  | some q =>
    rw [step] at h
    split_ifs at h with hq
    · cases hmissing : q.missing with
      | zero => simp [hmissing] at h
      | succ k =>
        simp only [hmissing, Option.some.injEq] at h
        simp [← h]
    · exact hstart h

/-- A character that is open when an octet of ASCII comes is replaced. -/
theorem step_some_of_ascii {p : Pending} (hp : 0x80 ≤ p.low) {b : UInt8} (hb : b.toNat < 128) :
    step (some p) b = ([replacement, Char.ofNat b.toNat], none) := by
  have hrange : ¬(p.low ≤ b.toNat ∧ b.toNat ≤ p.high) := by omega
  simp only [step, if_neg hrange, start_of_ascii hb]

/-- An octet of ASCII ends the character before it, and is one. -/
theorem decodeFrom_append_of_ascii {open? : Option Pending}
    (hopen : ∀ p, open? = some p → 0x80 ≤ p.low) (bs : List UInt8) {b : UInt8}
    (hb : b.toNat < 128) (bs' : List UInt8) : decodeFrom open? (bs ++ b :: bs') =
      decodeFrom open? bs ++ Char.ofNat b.toNat :: decodeFrom none bs' := by
  induction bs generalizing open? with
  | nil =>
    cases open? with
    | none =>
      rw [List.nil_append, decodeFrom_none_cons, start_of_ascii hb]
      rfl
    | some p =>
      rw [List.nil_append, decodeFrom_cons, step_some_of_ascii (hopen p rfl) hb]
      rfl
  | cons a bs ih =>
    rw [List.cons_append, decodeFrom_cons, decodeFrom_cons, ih fun p => le_low_of_step,
      List.append_assoc]

/-- Octets can be read up to one of ASCII and from there on. -/
theorem decode_append_of_ascii (bs : List UInt8) {b : UInt8} (hb : b.toNat < 128)
    (bs' : List UInt8) : decode (bs ++ b :: bs') = decode bs ++ Char.ofNat b.toNat :: decode bs' :=
  decodeFrom_append_of_ascii (by simp) bs hb bs'

end QueryFilter.Text.Utf8
