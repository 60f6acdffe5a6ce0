import QueryFilter.Date.Calendar
import Mathlib.Algebra.Order.BigOperators.Group.List
import Mathlib.Algebra.Order.Ring.Nat
import Mathlib.Order.Monotone.Basic

/-!
# Days and dates

Each day of the calendar has one date, and the date says the day: the date of a day exists
(`CivilDate.isValid_ofDayNumber`), and counting its days gives the day back
(`CivilDate.dayNumber_ofDayNumber`). Days follow each other like their dates
(`CivilDate.before_ofDayNumber`), where years count before months, and months before days; the day
after a date is the first one of the next month or year when there is none left in the month
(`CivilDate.IsValid.dayNumber_next`).
-/

namespace QueryFilter

/-! ## Years -/

/-- Years follow each other. -/
theorem monotone_daysInYears : Monotone daysInYears := by
  refine monotone_nat_of_le_succ fun years => ?_
  rw [daysInYears_succ]
  exact Nat.le_add_right _ _

/-- The number of days in some years is close to what it would be if all years were as long as they
    are in the mean, 146097 days in 400 years. -/
theorem daysInYears_mean (years : ℕ) :
    400 * daysInYears years ≤ 146097 * years + 396 ∧
      146097 * years ≤ 400 * daysInYears years + 699 := by
  have hle : years / 100 ≤ years / 4 := by omega
  rw [daysInYears]
  omega

namespace CivilDate

/-- The years that are over on a day are over, and the next one is not. -/
theorem daysInYears_yearsBefore (n : ℕ) :
    daysInYears (yearsBefore n) ≤ n ∧ n < daysInYears (yearsBefore n + 1) := by
  rw [yearsBefore]
  have hmean : 146097 * (400 * n / 146097) ≤ 400 * n ∧
      400 * n < 146097 * (400 * n / 146097 + 1) := by
    omega
  generalize 400 * n / 146097 = years at hmean
  have hbefore := daysInYears_mean (years - 1)
  have hafter := daysInYears_mean (years + 1 + 1)
  have hzero : daysInYears 0 = 0 := rfl
  split
  next hlt =>
    have hpos : years ≠ 0 := by
      rintro rfl
      omega
    rw [Nat.sub_add_cancel (Nat.pos_of_ne_zero hpos)]
    omega
  next hle =>
    split
    next hle' => omega
    next hlt' => omega

/-! ## Months -/

/-- The months that are over on a day of a year are over, and the next one is not. -/
theorem splitMonths_spec {lens : List ℕ} {n : ℕ} (h : n < lens.sum) :
    ∃ len, lens[(splitMonths lens n).1]? = some len ∧ (splitMonths lens n).2 < len ∧
      (lens.take (splitMonths lens n).1).sum + (splitMonths lens n).2 = n := by
  induction lens generalizing n with
  | nil => exact absurd h (Nat.not_lt_zero n)
  | cons len lens ih =>
    rw [splitMonths]
    split
    next hlt => exact ⟨len, rfl, hlt, by simp⟩
    next hle =>
      rw [List.sum_cons] at h
      obtain ⟨len', hget, hlt, hsum⟩ := ih (n := n - len) (by omega)
      refine ⟨len', ?_, hlt, ?_⟩
      · rwa [List.getElem?_cons_succ]
      · rw [List.take_succ_cons, List.sum_cons]
        omega

/-- A year has 365 or 366 days in its months. -/
theorem sum_monthLengths (leap : Bool) : (monthLengths leap).sum = if leap then 366 else 365 := by
  cases leap <;> rfl

/-! ## Days -/

/-- The day of the month of a date that is found is in the month, and the date says the day. -/
theorem ofDayNumber_spec (n : ℕ) :
    (ofDayNumber n).day ≤ (ofDayNumber n).monthLength ∧ (ofDayNumber n).dayNumber = n := by
  obtain ⟨hle, hlt⟩ := daysInYears_yearsBefore n
  rw [daysInYears_succ, ← sum_monthLengths] at hlt
  obtain ⟨len, hget, hday, hsum⟩ := splitMonths_spec (Nat.sub_lt_left_of_lt_add hle hlt)
  refine ⟨?_, ?_⟩
  · rw [ofDayNumber, monthLength, if_neg (Nat.succ_ne_zero _), Nat.add_sub_cancel, hget]
    exact hday
  · calc (ofDayNumber n).dayNumber
        = daysInYears (yearsBefore n) +
            ((monthLengths (isLeapYear (yearsBefore n + 1))).take
              (splitMonths (monthLengths (isLeapYear (yearsBefore n + 1)))
                (n - daysInYears (yearsBefore n))).1).sum +
            (splitMonths (monthLengths (isLeapYear (yearsBefore n + 1)))
                (n - daysInYears (yearsBefore n))).2 := rfl
      _ = daysInYears (yearsBefore n) + (n - daysInYears (yearsBefore n)) := by
          rw [Nat.add_assoc, hsum]
      _ = n := Nat.add_sub_of_le hle

/-- The date of a day says the day. -/
theorem dayNumber_ofDayNumber (n : ℕ) : (ofDayNumber n).dayNumber = n :=
  (ofDayNumber_spec n).2

/-- The date of a day exists. -/
theorem isValid_ofDayNumber {n : ℕ} (h : n < calendarDays) : (ofDayNumber n).IsValid := by
  refine ⟨Nat.succ_pos _, ?_, Nat.succ_pos _, (ofDayNumber_spec n).1⟩
  by_contra! hlate
  have hle : daysInYears 9999 ≤ daysInYears (yearsBefore n) :=
    monotone_daysInYears (Nat.le_of_lt_succ hlate)
  exact absurd (hle.trans (daysInYears_yearsBefore n).1) (not_le.2 h)

/-! ## The order of dates -/

/-- Whether a date comes before another one: by its year, or else by its month, or else by its
    day. -/
def Before (c d : CivilDate) : Prop :=
  c.year < d.year ∨ c.year = d.year ∧ (c.month < d.month ∨ c.month = d.month ∧ c.day < d.day)

/-- Of two different dates, one comes before the other. -/
theorem before_or_before {c d : CivilDate} (h : c ≠ d) : c.Before d ∨ d.Before c := by
  by_contra! hnot
  rw [Before, Before] at hnot
  refine h (CivilDate.ext ?_ ?_ ?_) <;> omega

variable {c d : CivilDate}

/-- The month of a date that exists is one of the twelve, and its days are over when the next one
    begins. -/
theorem IsValid.month_spec (h : d.IsValid) : 1 ≤ d.month ∧
    ((monthLengths (isLeapYear d.year)).take (d.month - 1)).sum + d.day ≤
      ((monthLengths (isLeapYear d.year)).take d.month).sum := by
  obtain ⟨-, -, hday, hle⟩ := h
  rw [monthLength] at hle
  split at hle
  next => omega
  next hmonth =>
    have hpos : 1 ≤ d.month := Nat.pos_of_ne_zero hmonth
    refine ⟨hpos, ?_⟩
    rcases hget : (monthLengths (isLeapYear d.year))[d.month - 1]? with _ | len
    · rw [hget, Option.getD_none] at hle
      omega
    · rw [hget, Option.getD_some] at hle
      obtain ⟨hlt, hget⟩ := List.getElem?_eq_some_iff.1 hget
      have hsucc := List.sum_take_succ _ _ hlt
      rw [Nat.sub_add_cancel hpos, hget] at hsucc
      omega

/-- There are twelve months, and none has more than 31 days. -/
theorem IsValid.month_le (h : d.IsValid) : d.month ≤ 12 ∧ d.day ≤ 31 := by
  obtain ⟨-, -, hday, hle⟩ := h
  rw [monthLength] at hle
  split at hle
  next => omega
  next =>
    rcases hget : (monthLengths (isLeapYear d.year))[d.month - 1]? with _ | len
    · rw [hget, Option.getD_none] at hle
      omega
    · rw [hget, Option.getD_some] at hle
      have hlong : ∀ leap, ∀ len ∈ monthLengths leap, len ≤ 31 := by decide
      have hmonth : d.month - 1 < 12 := (List.getElem?_eq_some_iff.1 hget).1
      exact ⟨by omega, hle.trans (hlong _ len (List.mem_of_getElem? hget))⟩

/-- A date that exists is before the end of its year. -/
theorem IsValid.dayNumber_lt (h : d.IsValid) : d.dayNumber < daysInYears d.year := by
  obtain ⟨-, hmonth⟩ := h.month_spec
  have hyear : daysInYears d.year = daysInYears (d.year - 1) +
      (monthLengths (isLeapYear d.year)).sum := by
    obtain ⟨years, hyears⟩ : ∃ years, d.year = years + 1 := ⟨d.year - 1, by have := h.1; omega⟩
    rw [hyears, daysInYears_succ, sum_monthLengths, Nat.add_sub_cancel]
  have hmonths := List.sum_take_add_sum_drop (monthLengths (isLeapYear d.year)) d.month
  have hnumber : d.dayNumber = daysInYears (d.year - 1) +
      ((monthLengths (isLeapYear d.year)).take (d.month - 1)).sum + (d.day - 1) := rfl
  have hday := h.2.2.1
  omega

/-- A date that exists is counted before all dates that it comes before. -/
theorem dayNumber_lt_of_before (hc : c.IsValid) (h : c.Before d) : c.dayNumber < d.dayNumber := by
  have hnumber : ∀ e : CivilDate, e.dayNumber = daysInYears (e.year - 1) +
      ((monthLengths (isLeapYear e.year)).take (e.month - 1)).sum + (e.day - 1) := fun _ => rfl
  rcases h with hyear | ⟨hyear, hmonth | ⟨hmonth, hday⟩⟩
  · calc c.dayNumber < daysInYears c.year := hc.dayNumber_lt
      _ ≤ daysInYears (d.year - 1) := monotone_daysInYears (Nat.le_pred_of_lt hyear)
      _ ≤ d.dayNumber := by
          rw [hnumber]
          omega
  · have hle : ((monthLengths (isLeapYear d.year)).take c.month).sum ≤
        ((monthLengths (isLeapYear d.year)).take (d.month - 1)).sum :=
      List.monotone_sum_take _ (Nat.le_pred_of_lt hmonth)
    have hspec := hc.month_spec.2
    have hday := hc.2.2.1
    rw [hnumber, hnumber]
    rw [hyear] at hspec ⊢
    omega
  · have hpos := hc.2.2.1
    rw [hnumber, hnumber, hyear, hmonth]
    omega

/-- Days follow each other like their dates. -/
theorem before_ofDayNumber {m n : ℕ} (h : m < n) (hn : n < calendarDays) :
    (ofDayNumber m).Before (ofDayNumber n) := by
  have hne : ofDayNumber m ≠ ofDayNumber n := by
    intro heq
    have hday := dayNumber_ofDayNumber m
    rw [heq, dayNumber_ofDayNumber] at hday
    omega
  refine (before_or_before hne).resolve_right fun hafter => ?_
  have hlt := dayNumber_lt_of_before (isValid_ofDayNumber hn) hafter
  rw [dayNumber_ofDayNumber, dayNumber_ofDayNumber] at hlt
  omega

/-- The day of a date that exists has this date. -/
theorem IsValid.ofDayNumber_dayNumber (h : d.IsValid) : ofDayNumber d.dayNumber = d := by
  have hlt : d.dayNumber < calendarDays :=
    h.dayNumber_lt.trans_le (monotone_daysInYears h.2.1)
  by_contra hne
  -- Of two dates that exist, the one that comes before the other has the smaller number.
  rcases before_or_before hne with hbefore | hafter
  · have hsmall := dayNumber_lt_of_before (isValid_ofDayNumber hlt) hbefore
    rw [dayNumber_ofDayNumber] at hsmall
    exact absurd hsmall (Nat.lt_irrefl _)
  · have hsmall := dayNumber_lt_of_before h hafter
    rw [dayNumber_ofDayNumber] at hsmall
    exact absurd hsmall (Nat.lt_irrefl _)

/-! ## The next day -/

/-- The date after a date: the next day of its month, or else the first day of the next month, or
    else of the next year. -/
def next (d : CivilDate) : CivilDate :=
  if d.day < d.monthLength then ⟨d.year, d.month, d.day + 1⟩
  else if d.month < 12 then ⟨d.year, d.month + 1, 1⟩
  else ⟨d.year + 1, 1, 1⟩

/-- The days of a year up to the end of a month. -/
theorem IsValid.sum_take_month (h : d.IsValid) :
    ((monthLengths (isLeapYear d.year)).take d.month).sum =
      ((monthLengths (isLeapYear d.year)).take (d.month - 1)).sum + d.monthLength := by
  have hpos := h.month_spec.1
  have hlt : d.month - 1 < (monthLengths (isLeapYear d.year)).length := by
    have hle := h.month_le.1
    have hlen : (monthLengths (isLeapYear d.year)).length = 12 := rfl
    omega
  have hsucc := List.sum_take_succ _ _ hlt
  rw [Nat.sub_add_cancel hpos] at hsucc
  rw [hsucc, monthLength, if_neg (Nat.pos_iff_ne_zero.1 hpos), List.getElem?_eq_getElem hlt,
    Option.getD_some]

/-- The days are counted in the order of the calendar: the next date has the next number. -/
theorem IsValid.dayNumber_next (h : d.IsValid) : d.next.dayNumber = d.dayNumber + 1 := by
  have hnumber : ∀ e : CivilDate, e.dayNumber = daysInYears (e.year - 1) +
      ((monthLengths (isLeapYear e.year)).take (e.month - 1)).sum + (e.day - 1) := fun _ => rfl
  have hday := h.2.2.1
  have hmonth := h.month_spec.1
  have hsum := h.sum_take_month
  rw [next]
  split_ifs with hlast hyear
  · simp only [hnumber]
    omega
  · simp only [hnumber, Nat.add_sub_cancel, hsum]
    have hle := h.2.2.2
    omega
  · have hdecember : d.month = 12 := by
      have hle := h.month_le.1
      omega
    have hfull : ((monthLengths (isLeapYear d.year)).take 12).sum =
        if isLeapYear d.year then 366 else 365 := sum_monthLengths _
    obtain ⟨years, hyears⟩ : ∃ years, d.year = years + 1 := ⟨d.year - 1, by have := h.1; omega⟩
    rw [hdecember] at hsum
    have hle := h.2.2.2
    simp only [hnumber, hdecember, hyears, Nat.add_sub_cancel, daysInYears_succ, Nat.sub_self,
      List.take_zero, List.sum_nil] at hsum hfull ⊢
    omega

end CivilDate

end QueryFilter
