import QueryFilter.Proofs.Date.Timestamp
import QueryFilter.Proofs.Number.Written

/-!
# Instants of timestamps

A timestamp says a number of milliseconds (`Timestamp.millis`), and its instant is so long after the
epoch, or before it, if that is in the calendar (`Instant.ofText_timestamp`). Whether a timestamp is
one in seconds depends on the length of the whole text, with its blanks.
-/

namespace QueryFilter

namespace Instant

/-- The start of the year 1970. -/
def epoch : Instant where
  micros := epochDay * microsPerDay
  micros_lt := by decide

example : epoch.print = "1970-01-01T00:00:00.000Z" := by decide +kernel

variable {t : Instant} {micros millis : ℤ}

/-- The instant of a number of microseconds. -/
theorem ofMicros?_eq_some_iff : ofMicros? micros = some t ↔ (t.micros : ℤ) = micros := by
  rw [ofMicros?]
  split
  next h =>
    rw [Option.some.injEq, Instant.ext_iff]
    change micros.toNat = t.micros ↔ (t.micros : ℤ) = micros
    omega
  next h =>
    refine ⟨fun hnone => absurd hnone (by simp), ?_⟩
    rintro rfl
    exact absurd ⟨Int.natCast_nonneg _, t.micros_lt⟩ h

/-- An instant so many milliseconds after the epoch. -/
theorem ofEpochMillis?_eq_some_iff :
    ofEpochMillis? millis = some t ↔ (t.micros : ℤ) = epoch.micros + 1000 * millis := by
  rw [ofEpochMillis?, ofMicros?_eq_some_iff, Int.add_comm, Int.mul_comm]
  rfl

/-- The milliseconds that are in the calendar. -/
theorem exists_ofEpochMillis?_iff : (∃ t, ofEpochMillis? millis = some t) ↔
    -62135596800000 ≤ millis ∧ millis ≤ 253402300799999 := by
  have hepoch : epoch.micros = 62135596800000000 := by decide
  have hend : calendarDays * microsPerDay = 315537897600000000 := by decide
  simp only [ofEpochMillis?_eq_some_iff, hepoch]
  refine ⟨?_, fun h => ?_⟩
  · rintro ⟨t, ht⟩
    have hlt := t.micros_lt
    omega
  · exact ⟨⟨(62135596800000000 + 1000 * millis).toNat, by omega⟩, by simp only; omega⟩

end Instant

namespace Timestamp

/-- The integer before the point of a timestamp. -/
def number (t : Timestamp) : ℤ :=
  signed t.negative (digitsValue t.digits)

/-- The milliseconds that a timestamp says in a text of `length` characters: thousands if there are
    ten of them and none is a point. -/
def millis (t : Timestamp) (length : ℕ) : ℤ :=
  if length = 10 ∧ t.hasPoint = false then 1000 * t.number else t.number

/-- The digits that are converted say the milliseconds. -/
theorem signed_valueOfDigits_milliDigits (t : Timestamp) (length : ℕ) :
    signed t.negative (valueOfDigits (t.milliDigits length)) = t.millis length := by
  rw [milliDigits, millis, secondsLength]
  split
  next =>
    have hthousand : digitsValue (t.digits ++ ['0', '0', '0']) = digitsValue t.digits * 10 ^ 3 :=
      digitsValue_append_zeros t.digits 3
    rw [valueOfDigits_eq, hthousand, number, signed, signed]
    split <;> omega
  next => rw [valueOfDigits_eq, number]

end Timestamp

namespace Instant

variable {s : String} {t : Timestamp}

/-- The instant of a timestamp that does not have too many digits. -/
theorem ofText_of_isWritten (h : t.IsWritten (Text.trim s.toList))
    (hlimit : t.digits.length ≤ digitLimit) :
    ofText s = .ok (ofEpochMillis? (t.millis s.toList.length)) := by
  have hshort : ¬digitLimit < (t.milliDigits s.toList.length).length := by
    intro hlong
    rw [milliDigits_eq_digits h (.inl hlong)] at hlong
    omega
  rw [ofText, Timestamp.read?_eq_some_iff.2 h]
  simp only
  rw [Timestamp.instant, if_neg hshort, Timestamp.signed_valueOfDigits_milliDigits]

/-- A text that is a timestamp with blanks around it or not is read as the instant that is exactly
    as many milliseconds after the epoch as the timestamp says, if it is in the calendar, and as no
    date otherwise. It is an error if the timestamp has more digits than are converted, and only
    then. -/
theorem ofText_timestamp (h : t.IsWritten (Text.trim s.toList)) :
    (∀ e, ofText s = .error e ↔ digitLimit < t.digits.length ∧ e = ⟨t.digits.length⟩) ∧
    (t.digits.length ≤ digitLimit →
      (∀ i, ofText s = .ok (some i) ↔
        (i.micros : ℤ) = epoch.micros + 1000 * t.millis s.toList.length) ∧
      ((∃ i, ofText s = .ok (some i)) ↔ -62135596800000 ≤ t.millis s.toList.length ∧
        t.millis s.toList.length ≤ 253402300799999) ∧
      (ofText s = .ok none ↔ ¬(-62135596800000 ≤ t.millis s.toList.length ∧
        t.millis s.toList.length ≤ 253402300799999))) := by
  refine ⟨fun e => ?_, fun hlimit => ?_⟩
  · rw [ofText_eq_error_iff]
    refine ⟨?_, ?_⟩
    · rintro ⟨t', ht', hcount, hlt⟩
      -- The text is a timestamp in one way only.
      obtain rfl : t' = t := by
        rw [← Timestamp.read?_eq_some_iff] at h ht'
        rw [h] at ht'
        exact (Option.some.inj ht').symm
      exact ⟨hcount ▸ hlt, by rw [hcount]⟩
    · rintro ⟨hlt, rfl⟩
      exact ⟨t, h, rfl, hlt⟩
  · simp only [ofText_of_isWritten h hlimit, Except.ok.injEq]
    refine ⟨fun i => ofEpochMillis?_eq_some_iff, exists_ofEpochMillis?_iff, ?_⟩
    rw [← exists_ofEpochMillis?_iff, not_exists, Option.eq_none_iff_forall_ne_some]

/-- Nine digits and a blank before them are a timestamp in seconds. -/
theorem ofText_timestamp_blank :
    (Timestamp.mk false "141138663".toList false).IsWritten (Text.trim " 141138663".toList) ∧
      ∃ i, ofText " 141138663" = .ok (some i) ∧
        (i.micros : ℤ) = epoch.micros + 1000 * 141138663000 := by
  have hwritten : (Timestamp.mk false "141138663".toList false).IsWritten
      (Text.trim " 141138663".toList) :=
    Timestamp.read?_eq_some_iff.1 (by decide +kernel)
  have hmillis : (Timestamp.mk false "141138663".toList false).millis
      " 141138663".toList.length = 141138663000 := by decide +kernel
  obtain ⟨hinstant, hrange, -⟩ := (ofText_timestamp hwritten).2 (by decide +kernel)
  obtain ⟨i, hi⟩ := hrange.2 (by rw [hmillis]; decide)
  refine ⟨hwritten, i, hi, ?_⟩
  rw [(hinstant i).1 hi, hmillis]

end Instant

end QueryFilter
