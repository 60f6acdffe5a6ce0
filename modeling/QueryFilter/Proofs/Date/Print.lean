import QueryFilter.Proofs.Date.Calendar
import QueryFilter.Proofs.Number.Written

/-!
# Printed instants

An instant is printed to the millisecond, in 24 characters (`Instant.length_print`). Since the parts
stand in the order of their weight and each has a width of its own, printed instants are ordered
like the instants themselves (`Instant.print_lt_print`); what is beyond the milliseconds is not
shown (`Instant.print_truncated`).
-/

namespace QueryFilter

namespace Instant

/-- An instant is before another one if fewer microseconds are over. -/
instance : LT Instant where
  lt t u := t.micros < u.micros

/-- The instant without the microseconds beyond whole milliseconds. -/
def truncated (t : Instant) : Instant where
  micros := t.micros / 1000 * 1000
  micros_lt := (Nat.div_mul_le_self _ _).trans_lt t.micros_lt

variable {t u : Instant}

/-- The order of instants. -/
theorem lt_iff : t < u ↔ t.micros < u.micros :=
  Iff.rfl

/-- The order of the milliseconds. -/
theorem truncated_lt_iff : t.truncated < u.truncated ↔ t.micros / 1000 < u.micros / 1000 :=
  lt_iff.trans (Nat.mul_lt_mul_right (by decide))

/-- The milliseconds are the same. -/
theorem truncated_eq_iff : t.truncated = u.truncated ↔ t.micros / 1000 = u.micros / 1000 := by
  rw [Instant.ext_iff]
  exact Nat.mul_left_inj (by decide)

/-! ## The parts of an instant -/

/-- The day of an instant is in the calendar. -/
theorem day_lt (t : Instant) : t.micros / microsPerDay < calendarDays :=
  Nat.div_lt_of_lt_mul ((Nat.mul_comm _ _).symm ▸ t.micros_lt)

/-- The date of an instant exists. -/
theorem isValid_date (t : Instant) : t.date.IsValid :=
  CivilDate.isValid_ofDayNumber t.day_lt

/-- The day of an instant is over before it ends. -/
theorem microOfDay_lt (t : Instant) : t.microOfDay < microsPerDay :=
  Nat.mod_lt _ (by decide)

/-- An instant by its day and the microsecond of the day. -/
theorem micros_eq (t : Instant) : t.micros = t.date.dayNumber * microsPerDay + t.microOfDay := by
  rw [date, CivilDate.dayNumber_ofDayNumber, microOfDay, Nat.mul_comm, Nat.div_add_mod]

/-- Cutting off microseconds does not change the date. -/
theorem date_truncated (t : Instant) : t.truncated.date = t.date := by
  have hday : t.truncated.micros / microsPerDay = t.micros / microsPerDay := by
    simp only [truncated, microsPerDay]
    omega
  rw [date, date, hday]

/-- Cutting off microseconds cuts them off the time of day. -/
theorem microOfDay_truncated (t : Instant) :
    t.truncated.microOfDay = t.microOfDay / 1000 * 1000 := by
  simp only [microOfDay, truncated, microsPerDay]
  omega

/-! ## The text of an instant -/

/-- The characters of the text. -/
theorem toList_print (t : Instant) : t.print.toList =
    padded 4 t.date.year ++ '-' :: (padded 2 t.date.month ++ '-' :: (padded 2 t.date.day ++ 'T' ::
      (padded 2 (t.microOfDay / 1000000 / 3600) ++ ':' ::
        (padded 2 (t.microOfDay / 1000000 / 60 % 60) ++ ':' ::
          (padded 2 (t.microOfDay / 1000000 % 60) ++ '.' ::
            (padded 3 (t.microOfDay / 1000 % 1000) ++ ['Z'])))))) := by
  simp only [print, printSeconds, String.toList_ofList, List.append_assoc, List.cons_append]

/-- Each part of the text fits into its width. -/
theorem parts_lt (t : Instant) : (t.date.year < 10 ^ 4 ∧ t.date.month < 10 ^ 2 ∧
    t.date.day < 10 ^ 2) ∧ t.microOfDay / 1000000 / 3600 < 10 ^ 2 ∧
      t.microOfDay / 1000000 / 60 % 60 < 10 ^ 2 ∧ t.microOfDay / 1000000 % 60 < 10 ^ 2 ∧
        t.microOfDay / 1000 % 1000 < 10 ^ 3 := by
  have hyear := t.isValid_date.2.1
  have hmonth := t.isValid_date.month_le
  have hday : t.microOfDay < 86400000000 := t.microOfDay_lt
  omega

/-- The text has 24 characters. -/
theorem length_print (t : Instant) : t.print.length = 24 := by
  obtain ⟨⟨hyear, hmonth, hday⟩, hhour, hminute, hsecond, hmilli⟩ := t.parts_lt
  rw [← String.length_toList, toList_print]
  simp only [List.length_append, List.length_cons, List.length_nil,
    length_padded (by decide) hyear, length_padded (by decide) hmonth,
    length_padded (by decide) hday, length_padded (by decide) hhour,
    length_padded (by decide) hminute, length_padded (by decide) hsecond,
    length_padded (by decide) hmilli]

/-- The text does not show more than milliseconds. -/
theorem print_truncated (t : Instant) : t.truncated.print = t.print := by
  have hsecond : t.microOfDay / 1000 * 1000 / 1000000 = t.microOfDay / 1000000 := by omega
  rw [← String.toList_inj, toList_print, toList_print, date_truncated, microOfDay_truncated,
    hsecond, Nat.mul_div_cancel _ (by decide)]

/-- Texts that begin with a number of one width and the same character after it: if the numbers do
    not tell the order, what is known then tells it for the rest. -/
theorem padded_append_cons_lt {width m n : ℕ} {c : Char} {cs ds : List Char} {p : Prop}
    (hpos : 0 < width) (hn : n < 10 ^ width) (h : m < n ∨ m = n ∧ p) (hrest : p → cs < ds) :
    padded width m ++ c :: cs < padded width n ++ c :: ds :=
  padded_append_lt hpos hn (h.imp_right (And.imp_right fun hp => List.cons_lt_cons_self.2 (hrest hp)))

/-- An instant whose milliseconds are earlier than another one's has an earlier date, or the same
    date and earlier milliseconds in the day. -/
theorem before_or_of_lt (h : t.micros / 1000 < u.micros / 1000) :
    t.date.Before u.date ∨ t.date = u.date ∧ t.microOfDay / 1000 < u.microOfDay / 1000 := by
  rcases Nat.lt_trichotomy (t.micros / microsPerDay) (u.micros / microsPerDay) with hlt | heq | hgt
  · exact .inl (CivilDate.before_ofDayNumber hlt u.day_lt)
  · refine .inr ⟨by rw [date, date, heq], ?_⟩
    simp only [microOfDay, microsPerDay] at heq ⊢
    omega
  · simp only [microsPerDay] at hgt
    omega

/-- The text of the earlier one of two instants is smaller, if they are not in the same
    millisecond. -/
theorem print_lt_print (h : t.micros / 1000 < u.micros / 1000) : t.print < u.print := by
  obtain ⟨⟨hyear, hmonth, hday⟩, hhour, hminute, hsecond, hmilli⟩ := u.parts_lt
  rw [String.lt_iff, toList_print, toList_print]
  rcases before_or_of_lt h with hbefore | ⟨hdate, hlt⟩
  · refine padded_append_cons_lt (by decide) hyear hbefore fun hbefore => ?_
    refine padded_append_cons_lt (by decide) hmonth hbefore fun hlt => ?_
    exact padded_append_lt (by decide) hday (.inl hlt)
  · have hclock : t.microOfDay / 1000000 / 3600 < u.microOfDay / 1000000 / 3600 ∨
        t.microOfDay / 1000000 / 3600 = u.microOfDay / 1000000 / 3600 ∧
        (t.microOfDay / 1000000 / 60 % 60 < u.microOfDay / 1000000 / 60 % 60 ∨
          t.microOfDay / 1000000 / 60 % 60 = u.microOfDay / 1000000 / 60 % 60 ∧
          (t.microOfDay / 1000000 % 60 < u.microOfDay / 1000000 % 60 ∨
            t.microOfDay / 1000000 % 60 = u.microOfDay / 1000000 % 60 ∧
            t.microOfDay / 1000 % 1000 < u.microOfDay / 1000 % 1000)) := by
      omega
    rw [hdate]
    refine padded_append_cons_lt (by decide) hyear (.inr ⟨rfl, hclock⟩) fun hclock => ?_
    refine padded_append_cons_lt (by decide) hmonth (.inr ⟨rfl, hclock⟩) fun hclock => ?_
    refine padded_append_cons_lt (by decide) hday (.inr ⟨rfl, hclock⟩) fun hclock => ?_
    refine padded_append_cons_lt (by decide) hhour hclock fun hclock => ?_
    refine padded_append_cons_lt (by decide) hminute hclock fun hclock => ?_
    refine padded_append_cons_lt (by decide) hsecond hclock fun hlt => ?_
    exact padded_append_lt (by decide) hmilli (.inl hlt)

end Instant

end QueryFilter
