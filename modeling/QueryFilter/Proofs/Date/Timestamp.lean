import QueryFilter.Date.Reader
import QueryFilter.Proofs.Number.Digits

/-!
# Timestamps

Which texts are timestamps, and when reading one fails. A timestamp is a sign or none,
digits, and perhaps a point with digits or without (`Timestamp.IsWritten`). Reading a date
fails for one reason only: the text is a timestamp with more digits before its point than are
converted (`IsOverlong`).

* `Timestamp.read?_eq_some_iff`: the timestamp that a text is;
* `Instant.ofText_eq_error_iff`: when reading a date fails, and with what error.
-/

namespace QueryFilter

/-- What may follow the digits of a timestamp: nothing, or a point with digits or
    without. -/
inductive IsTimestampEnd : Bool → List Char → Prop
  | none : IsTimestampEnd false []
  | point {ds : List Char} (h : ∀ c ∈ ds, c.isDigit = true) : IsTimestampEnd true ('.' :: ds)

/-- Whether a text without blanks around it is a timestamp: a sign, digits, and an end. -/
def Timestamp.IsWritten (t : Timestamp) (cs : List Char) : Prop :=
  t.digits ≠ [] ∧ (∀ c ∈ t.digits, c.isDigit = true) ∧ ∃ sign rest, IsSign t.negative sign ∧
    IsTimestampEnd t.hasPoint rest ∧ cs = sign ++ (t.digits ++ rest)

namespace Timestamp

/-- What follows the digits of a timestamp does not begin with a digit. -/
theorem head_isDigit_of_isTimestampEnd {hasPoint : Bool} {rest : List Char}
    (h : IsTimestampEnd hasPoint rest) : rest.head?.any Char.isDigit = false := by
  cases h <;> rfl

/-- What the reader makes of a text after a sign and digits. -/
theorem read?_append {negative hasPoint : Bool} {sign ds rest : List Char}
    (hsign : IsSign negative sign) (hne : ds ≠ []) (hds : ∀ c ∈ ds, c.isDigit = true)
    (hrest : IsTimestampEnd hasPoint rest) :
    read? (sign ++ (ds ++ rest)) = some ⟨negative, ds, hasPoint⟩ := by
  have hhead : (ds ++ rest).head?.any Char.isDigit = true := by
    obtain ⟨c, ds, rfl⟩ := List.exists_cons_of_ne_nil hne
    exact hds c List.mem_cons_self
  have hend := head_isDigit_of_isTimestampEnd hrest
  rw [read?, takeSign_append hsign hhead]
  simp only [takeWhile_append_of_head hds hend, dropWhile_append_of_head hds hend, if_neg hne]
  cases hrest with
  | none => rfl
  | point h => simpa using h

/-- Digits with something other than a point after them are no timestamp. -/
theorem read?_eq_none {ds rest : List Char} {c : Char} (hne : ds ≠ [])
    (hds : ∀ d ∈ ds, d.isDigit = true) (hdigit : c.isDigit = false) (hpoint : c ≠ '.') :
    read? (ds ++ c :: rest) = none := by
  have hhead : (ds ++ c :: rest).head?.any Char.isDigit = true := by
    obtain ⟨d, ds, rfl⟩ := List.exists_cons_of_ne_nil hne
    exact hds d List.mem_cons_self
  have hsign : takeSign (ds ++ c :: rest) = (false, ds ++ c :: rest) :=
    takeSign_append .none hhead
  have hend : (c :: rest).head?.any Char.isDigit = false := hdigit
  rw [read?, hsign]
  simp only [takeWhile_append_of_head hds hend, dropWhile_append_of_head hds hend, if_neg hne]
  split
  next h => exact absurd h (List.cons_ne_nil _ _)
  next h => exact absurd (List.cons.inj h).1 hpoint
  next => rfl

/-- The timestamp that a text is. -/
theorem read?_eq_some_iff {cs : List Char} {t : Timestamp} : read? cs = some t ↔ t.IsWritten cs := by
  refine ⟨?_, ?_⟩
  · intro h
    obtain ⟨sign, hsign, hcs⟩ := exists_isSign_append cs
    rw [read?] at h
    split at h
    · simp at h
    next hne =>
      have hds : ∀ c ∈ (takeSign cs).2.takeWhile Char.isDigit, c.isDigit = true :=
        List.all_eq_true.1 List.all_takeWhile
      split at h
      next hrest =>
        obtain rfl := Option.some.inj h
        refine ⟨hne, hds, sign, [], hsign, .none, ?_⟩
        rw [← hrest, List.takeWhile_append_dropWhile, ← hcs]
      next rest hrest =>
        split at h
        next hall =>
          obtain rfl := Option.some.inj h
          refine ⟨hne, hds, sign, '.' :: rest, hsign, .point (List.all_eq_true.1 hall), ?_⟩
          rw [← hrest, List.takeWhile_append_dropWhile, ← hcs]
        · simp at h
      · simp at h
  · rintro ⟨hne, hds, sign, rest, hsign, hrest, rfl⟩
    exact read?_append hsign hne hds hrest

end Timestamp

/-- Whether a text is a timestamp that has `count` digits before its point and these are more
    than are converted. -/
def IsOverlong (s : String) (count : Nat) : Prop :=
  ∃ t : Timestamp, t.IsWritten (Text.trim s.toList) ∧ t.digits.length = count ∧ digitLimit < count

/-- Nothing is taken from around a text without blanks. -/
theorem trim_of_isBlank_eq_false {cs : List Char} (h : ∀ c ∈ cs, Text.isBlank c = false) :
    Text.trim cs = cs := by
  have hdrop : ∀ l : List Char, (∀ c ∈ l, Text.isBlank c = false) →
      l.dropWhile Text.isBlank = l := by
    intro l hl
    cases l with
    | nil => rfl
    | cons c l => simp [hl c List.mem_cons_self]
  rw [Text.trim, Text.trimBy, hdrop cs h, hdrop _ fun c hc => h c (List.mem_reverse.1 hc),
    List.reverse_reverse]

/-- Blanks are taken from around a text without blanks. -/
theorem trim_append_append {before body after : List Char} (hne : body ≠ [])
    (hbefore : ∀ c ∈ before, Text.isBlank c = true) (hbody : ∀ c ∈ body, Text.isBlank c = false)
    (hafter : ∀ c ∈ after, Text.isBlank c = true) :
    Text.trim (before ++ (body ++ after)) = body := by
  have hfirst : (body ++ after).head?.any Text.isBlank = false := by
    obtain ⟨c, body, rfl⟩ := List.exists_cons_of_ne_nil hne
    exact hbody c List.mem_cons_self
  have hlast : body.reverse.head?.any Text.isBlank = false := by
    obtain ⟨c, rest, hrest⟩ := List.exists_cons_of_ne_nil (mt List.reverse_eq_nil_iff.1 hne)
    rw [hrest]
    exact hbody c (List.mem_reverse.1 (hrest ▸ List.mem_cons_self))
  rw [Text.trim, Text.trimBy, dropWhile_append_of_head hbefore hfirst, List.reverse_append,
    dropWhile_append_of_head (fun c hc => hafter c (List.mem_reverse.1 hc)) hlast,
    List.reverse_reverse]

/-- Nothing is taken from around digits. -/
theorem trim_of_isDigit {ds : List Char} (h : ∀ c ∈ ds, c.isDigit = true) : Text.trim ds = ds :=
  trim_of_isBlank_eq_false fun c hc => isBlank_of_isDigit (h c hc)

/-- Digits alone are a timestamp with too many digits if they are too many. -/
theorem isOverlong_ofList {ds : List Char} (h : ∀ c ∈ ds, c.isDigit = true)
    (hlimit : digitLimit < ds.length) : IsOverlong (String.ofList ds) ds.length := by
  refine ⟨⟨false, ds, false⟩, ⟨fun hnil => ?_, h, [], [], .none, .none, ?_⟩, rfl, hlimit⟩
  · simp only at hnil
    simp [hnil] at hlimit
  · rw [String.toList_ofList, trim_of_isDigit h, List.nil_append, List.append_nil]

namespace Instant

/-- A text is not longer for the blanks around it being left out. -/
theorem length_trim_le (cs : List Char) : (Text.trim cs).length ≤ cs.length := by
  have hdrop : ∀ l : List Char, (l.dropWhile Text.isBlank).length ≤ l.length := fun l =>
    (List.dropWhile_sublist _).length_le
  rw [Text.trim, Text.trimBy, List.length_reverse]
  calc ((cs.dropWhile Text.isBlank).reverse.dropWhile Text.isBlank).length
      ≤ (cs.dropWhile Text.isBlank).reverse.length := hdrop _
    _ ≤ cs.length := by rw [List.length_reverse]; exact hdrop _

/-- Zeros are put after the digits of short timestamps only, which they do not make too
    long. -/
theorem milliDigits_eq_digits {t : Timestamp} {s : String} (ht : t.IsWritten (Text.trim s.toList))
    (h : digitLimit < (t.milliDigits s.toList.length).length ∨ digitLimit < t.digits.length) :
    t.milliDigits s.toList.length = t.digits := by
  obtain ⟨-, -, sign, rest, -, -, hcs⟩ := ht
  have hlen : t.digits.length ≤ s.toList.length := by
    refine Nat.le_trans ?_ (length_trim_le s.toList)
    rw [hcs]
    simp only [List.length_append]
    omega
  rw [Timestamp.milliDigits] at h ⊢
  split at h
  next h10 =>
    -- Zeros are put after texts of ten characters, and thirteen digits are not too many.
    have h10 : s.toList.length = 10 := h10.1
    simp only [List.length_append, List.length_cons, List.length_nil, digitLimit] at h
    omega
  next h10 => rw [if_neg h10]

/-- Reading a date fails if the text is a timestamp with too many digits, and only then. -/
theorem ofText_eq_error_iff {s : String} {e : TooManyDigits} :
    ofText s = .error e ↔ IsOverlong s e.count := by
  rw [ofText]
  refine ⟨?_, ?_⟩
  · intro h
    split at h
    next t ht =>
      rw [Timestamp.read?_eq_some_iff] at ht
      rw [Timestamp.instant] at h
      split at h
      next hlt =>
        obtain rfl := Except.error.inj h
        have hdigits := milliDigits_eq_digits ht (.inl hlt)
        exact ⟨t, ht, by rw [hdigits], hlt⟩
      · simp at h
    · simp at h
  · rintro ⟨t, ht, hcount, hlt⟩
    have hdigits := milliDigits_eq_digits ht (.inr (hcount ▸ hlt))
    rw [Timestamp.read?_eq_some_iff.2 ht]
    simp only [Timestamp.instant, hdigits, hcount, if_pos hlt]

end Instant

end QueryFilter
