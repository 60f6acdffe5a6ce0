import QueryFilter.Proofs.Text.LetterCase
import QueryFilter.Proofs.Text.Utf8
import QueryFilter.Text.Percent

/-!
# Reading percent-encoded text

Every text is read back from its percent-encoded form, which is a single run of ASCII
characters, none of them one that separates the parts of a query string. Other texts may have
anything in them; where a character of ASCII stands that can be no part of an escape, they can
be read up to it and from there on.

* `isWritten_of_mem_encode`, `decode_encode`: the encoded form of a text;
* `decode_append_cons`: where a text may be taken apart.
-/

namespace QueryFilter.Text.Percent

/-! ## Escapes -/

/-- The digit of a number is read as that number. -/
theorem hexValue?_hexDigit : ∀ n < 16, hexValue? (hexDigit n) = some n := by
  decide

/-- The two digits of an octet are read as that octet. -/
theorem escaped?_hexDigit (b : UInt8) :
    escaped? (hexDigit (b.toNat / 16)) (hexDigit (b.toNat % 16)) = some b := by
  have hb : b.toNat < 256 := b.toNat_lt
  have hsum : 16 * (b.toNat / 16) + b.toNat % 16 = b.toNat := by omega
  rw [escaped?, hexValue?_hexDigit _ (by omega), hexValue?_hexDigit _ (by omega)]
  simp only [hsum, UInt8.ofNat_toNat]

/-- What is no digit cannot be the first one of an escape. -/
theorem escaped?_of_left {high : Char} (h : hexValue? high = none) (low : Char) :
    escaped? high low = none := by
  simp [escaped?, h]

/-- Nor can it be the second one. -/
theorem escaped?_of_right (high : Char) {low : Char} (h : hexValue? low = none) :
    escaped? high low = none := by
  cases hhigh : hexValue? high <;> simp [escaped?, h, hhigh]

/-! ## Runs of ASCII -/

/-- An escape is one octet. -/
theorem octets_escape {high low : Char} {b : UInt8} (h : escaped? high low = some b)
    (rest : List Char) : octets ('%' :: high :: low :: rest) = b :: octets rest := by
  rw [octets, h]

/-- A character that does not begin an escape is one octet. -/
theorem octets_cons {c : Char} {rest : List Char} (h : ∀ high low rest', c = '%' →
    rest = high :: low :: rest' → escaped? high low = none) :
    octets (c :: rest) = UInt8.ofNat c.toNat :: octets rest := by
  by_cases hescape : c = '%' ∧ ∃ high low rest', rest = high :: low :: rest'
  · obtain ⟨rfl, high, low, rest', rfl⟩ := hescape
    rw [octets, h high low rest' rfl rfl]
  · exact octets.eq_3 c rest fun high low rest' hc hrest => hescape ⟨hc, high, low, rest', hrest⟩

/-- A character that is no digit ends an escape before it. -/
theorem octets_append_cons (cs : List Char) {c : Char} (hc : hexValue? c = none)
    (rest : List Char) : octets (cs ++ c :: rest) = octets cs ++ octets (c :: rest) := by
  induction cs using octets.induct with
  | case1 => rfl
  | case2 high low cs b hb ih =>
    rw [List.cons_append, List.cons_append, List.cons_append, octets_escape hb, octets_escape hb, ih,
      List.cons_append]
  | case3 high low cs hnone ih =>
    have hescape : ∀ cs', octets ('%' :: high :: low :: cs') =
        UInt8.ofNat '%'.toNat :: octets (high :: low :: cs') := by
      intro cs'
      rw [octets, hnone]
    rw [List.cons_append, List.cons_append, List.cons_append, hescape, hescape, List.cons_append,
      ← ih, List.cons_append, List.cons_append]
  | case4 d cs hd ih =>
    have hleft : octets (d :: cs) = UInt8.ofNat d.toNat :: octets cs := octets.eq_3 d cs hd
    rw [List.cons_append, hleft, List.cons_append, ← ih]
    refine octets_cons fun high low rest' hpercent heq => ?_
    -- At most one character stands between a percent sign and the one that is no digit.
    match cs, heq with
    | [], heq =>
      rw [← (List.cons.inj heq).1]
      exact escaped?_of_left hc low
    | [_], heq =>
      rw [← (List.cons.inj (List.cons.inj heq).2).1]
      exact escaped?_of_right high hc
    | _ :: _ :: _, _ => exact (hd _ _ _ hpercent rfl).elim

/-- A character of ASCII goes on with the run. -/
theorem decodeRun_cons_of_ascii {c : Char} (h : c.toNat < 128) (run rest : List Char) :
    decodeRun run (c :: rest) = decodeRun (c :: run) rest := by
  rw [decodeRun, if_pos h]

/-- A run of ASCII is turned into octets as a whole. -/
theorem decodeRun_of_ascii {cs : List Char} (h : ∀ c ∈ cs, c.toNat < 128) (run : List Char) :
    decodeRun run cs = Utf8.decode (octets (run.reverse ++ cs)) := by
  induction cs generalizing run with
  | nil => rw [decodeRun, List.append_nil]
  | cons c cs ih =>
    obtain ⟨hc, hcs⟩ := List.forall_mem_cons.1 h
    rw [decodeRun_cons_of_ascii hc, ih hcs, List.reverse_cons, List.append_assoc,
      List.singleton_append]

/-! ## Encoded texts -/

/-- Whether a character may be in the encoded form of a text. Such a character is one of
    ASCII, and neither a mark that separates parts of a query string nor a written blank. -/
def IsWritten (c : Char) : Prop :=
  c.toNat < 128 ∧ c ∉ ['?', '&', '=', '+']

instance (c : Char) : Decidable (IsWritten c) :=
  inferInstanceAs (Decidable (_ ∧ _))

/-- The digits of escapes are such characters. -/
theorem isWritten_hexDigit : ∀ n < 16, IsWritten (hexDigit n) := by
  decide

/-- So are the characters of octets that are not escaped. -/
theorem isWritten_of_isPlain {b : UInt8} (h : isPlain b = true) : IsWritten (Char.ofNat b.toNat) := by
  simp only [isPlain, Bool.or_eq_true, beq_iff_eq] at h
  rcases h with (((h | h) | h) | h) | h
  · have hcode := toNat_mem_of_isAlphanum h
    simp only [List.mem_append, List.mem_range'_1] at hcode
    refine ⟨by omega, fun hmark => ?_⟩
    -- None of the marks is a letter or a digit.
    simp only [List.mem_cons, List.not_mem_nil, or_false] at hmark
    rcases hmark with hc | hc | hc | hc <;> exact absurd (hc ▸ h) (by decide)
  all_goals
    rw [h]
    decide

/-- An encoded octet has such characters only. -/
theorem isWritten_of_mem_encodeOctet {b : UInt8} {c : Char} (h : c ∈ encodeOctet b) :
    IsWritten c := by
  have hb : b.toNat < 256 := b.toNat_lt
  rw [encodeOctet] at h
  split_ifs at h with hplain
  · rw [List.mem_singleton.1 h]
    exact isWritten_of_isPlain hplain
  · simp only [List.mem_cons, List.not_mem_nil, or_false] at h
    rcases h with rfl | rfl | rfl
    · decide
    · exact isWritten_hexDigit _ (by omega)
    · exact isWritten_hexDigit _ (by omega)

/-- An encoded text has such characters only. -/
theorem isWritten_of_mem_encode {cs : List Char} {c : Char} (h : c ∈ encode cs) : IsWritten c := by
  obtain ⟨b, -, hc⟩ := List.mem_flatMap.1 h
  exact isWritten_of_mem_encodeOctet hc

/-- A character that stands for its octet. -/
theorem toNat_ofNat_octet (b : UInt8) : (Char.ofNat b.toNat).toNat = b.toNat := by
  have hvalid : b.toNat.isValidChar := .inl (by have := b.toNat_lt; omega)
  rw [Char.ofNat, dif_pos hvalid]
  rfl

/-- An encoded octet is read as that octet. -/
theorem octets_encodeOctet_append (b : UInt8) (rest : List Char) :
    octets (encodeOctet b ++ rest) = b :: octets rest := by
  rw [encodeOctet]
  split_ifs with hplain
  · -- No octet that stands for itself is the percent sign.
    have hne : Char.ofNat b.toNat ≠ '%' := by
      intro hc
      rw [isPlain, hc] at hplain
      exact absurd hplain (by decide)
    rw [List.singleton_append, octets_cons fun _ _ _ hc => absurd hc hne, toNat_ofNat_octet,
      UInt8.ofNat_toNat]
  · exact octets_escape (escaped?_hexDigit b) rest

/-- Encoded octets are read as those octets. -/
theorem octets_flatMap_encodeOctet (bs : List UInt8) : octets (bs.flatMap encodeOctet) = bs := by
  induction bs with
  | nil => rfl
  | cons b bs ih => rw [List.flatMap_cons, octets_encodeOctet_append, ih]

/-- An encoded text is read as that text. -/
theorem decode_encode (cs : List Char) : decode (encode cs) = cs := by
  have hascii : ∀ c ∈ encode cs, c.toNat < 128 := fun c hc => (isWritten_of_mem_encode hc).1
  rw [decode, decodeRun_of_ascii hascii, List.reverse_nil, List.nil_append, encode,
    octets_flatMap_encodeOctet, Utf8.decode_encode]

/-! ## Other texts -/

section Cut

variable {c : Char} (hascii : c.toNat < 128) (hpercent : c ≠ '%') (hhex : hexValue? c = none)

include hascii hpercent hhex

/-- A run can be read up to a character of ASCII that is in no escape, and from there on. -/
theorem decode_octets_append_cons (cs rest : List Char) : Utf8.decode (octets (cs ++ c :: rest)) =
    Utf8.decode (octets cs) ++ c :: Utf8.decode (octets rest) := by
  have hb : (UInt8.ofNat c.toNat).toNat = c.toNat := Utf8.toNat_octet (by omega)
  rw [octets_append_cons cs hhex, octets_cons fun _ _ _ hc => absurd hc hpercent,
    Utf8.decode_append_of_ascii _ (by omega), hb, Char.ofNat_toNat]

/-- Such a character in the run stands for itself. The characters of the run before it are
    `before`, and those after it are `after`, the latest ones first. -/
theorem decodeRun_append_cons (after before rest : List Char) :
    decodeRun (after ++ c :: before) rest =
      Utf8.decode (octets before.reverse) ++ c :: decodeRun after rest := by
  have hrun : ∀ after, Utf8.decode (octets (after ++ c :: before).reverse) =
      Utf8.decode (octets before.reverse) ++ c :: Utf8.decode (octets after.reverse) := by
    intro after
    rw [List.reverse_append, List.reverse_cons, List.append_assoc, List.singleton_append,
      decode_octets_append_cons hascii hpercent hhex]
  induction rest generalizing after with
  | nil => rw [decodeRun, decodeRun, hrun]
  | cons d rest ih =>
    rw [decodeRun, decodeRun]
    split_ifs with hd
    · exact ih (d :: after)
    · rw [hrun, List.append_assoc, List.cons_append]

/-- A text can be read up to such a character and from there on. -/
theorem decode_append_cons (cs rest : List Char) :
    decode (cs ++ c :: rest) = decode cs ++ c :: decode rest := by
  have hfrom : ∀ run, decodeRun run (cs ++ c :: rest) = decodeRun run cs ++ c :: decode rest := by
    induction cs with
    | nil =>
      intro run
      rw [List.nil_append, decodeRun_cons_of_ascii hascii, decodeRun]
      exact decodeRun_append_cons hascii hpercent hhex [] run rest
    | cons d cs ih =>
      intro run
      rw [List.cons_append, decodeRun, decodeRun]
      split_ifs with hd
      · exact ih (d :: run)
      · rw [ih [], List.append_assoc, List.cons_append]
  exact hfrom []

end Cut

end QueryFilter.Text.Percent
