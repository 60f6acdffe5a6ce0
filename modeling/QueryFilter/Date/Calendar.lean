/-!
# Calendar

Dates of the Gregorian calendar, extended backwards, from year 1 to year 9999. The
days are numbered from 0 on, which is the first of January of year 1, a Monday
(`CivilDate.dayNumber`); `CivilDate.ofDayNumber` finds the date of a day. Weeks begin
on Monday, and the first week of a year is the one with most of its days in the year
(`weekDay?`).

* `daysInYears_succ`: each year has 365 or 366 days.
-/

namespace QueryFilter

/-- Whether a year has a day more in February. -/
def isLeapYear (year : Nat) : Bool :=
  year % 4 == 0 && (year % 100 != 0 || year % 400 == 0)

/-- The lengths of the months. -/
def monthLengths (leap : Bool) : List Nat :=
  [31, if leap then 29 else 28, 31, 30, 31, 30, 31, 31, 30, 31, 30, 31]

/-- The number of days in `years` years from year 1 on. -/
def daysInYears (years : Nat) : Nat :=
  365 * years + years / 4 - years / 100 + years / 400

/-- A quotient grows by one at the multiples of the divisor. -/
theorem succ_div_eq (n d : Nat) :
    (n + 1) / d = n / d + (if (n + 1) % d = 0 then 1 else 0) := by
  rw [Nat.succ_div]
  simp only [Nat.dvd_iff_mod_eq_zero]

/-- Each year has 365 or 366 days. -/
theorem daysInYears_succ (years : Nat) :
    daysInYears (years + 1) = daysInYears years + (if isLeapYear (years + 1) then 366 else 365) := by
  have h₁ := succ_div_eq years 4
  have h₂ := succ_div_eq years 100
  have h₃ := succ_div_eq years 400
  have h₄ : (years + 1) % 400 = 0 → (years + 1) % 100 = 0 := by omega
  have h₅ : (years + 1) % 100 = 0 → (years + 1) % 4 = 0 := by omega
  have h₆ : years / 100 ≤ years / 4 := by omega
  simp only [daysInYears, isLeapYear, Bool.and_eq_true, Bool.or_eq_true, beq_iff_eq, bne_iff_ne, h₁,
    h₂, h₃]
  by_cases a : (years + 1) % 4 = 0 <;> by_cases b : (years + 1) % 100 = 0 <;>
    by_cases c : (years + 1) % 400 = 0 <;> simp_all <;> omega

/-- A year, a month and a day, each counted from 1. -/
@[ext]
structure CivilDate where
  year : Nat
  month : Nat
  day : Nat
deriving DecidableEq, Repr

namespace CivilDate

/-- The length of the month of a date, which is 0 for a month that does not exist. -/
def monthLength (d : CivilDate) : Nat :=
  if d.month = 0 then 0 else ((monthLengths (isLeapYear d.year))[d.month - 1]?).getD 0

/-- Whether a date exists and is in the years from 1 to 9999. -/
def IsValid (d : CivilDate) : Prop :=
  1 ≤ d.year ∧ d.year ≤ 9999 ∧ 1 ≤ d.day ∧ d.day ≤ d.monthLength

instance (d : CivilDate) : Decidable d.IsValid := by
  unfold IsValid
  infer_instance

/-- The number of days from the first of January of year 1 to a date. -/
def dayNumber (d : CivilDate) : Nat :=
  daysInYears (d.year - 1) +
    ((monthLengths (isLeapYear d.year)).take (d.month - 1)).foldr (· + ·) 0 + (d.day - 1)

/-- How many years are over on a day. The mean length of a year gives the number up
    to one. -/
def yearsBefore (n : Nat) : Nat :=
  let years := 400 * n / 146097
  if n < daysInYears years then years - 1
  else if daysInYears (years + 1) ≤ n then years + 1
  else years

/-- How many months of the given lengths are over on a day, and how many days of the
    month then are. -/
def splitMonths : List Nat → Nat → Nat × Nat
  | [], n => (0, n)
  | len :: lens, n =>
    if n < len then (0, n) else ((splitMonths lens (n - len)).1 + 1, (splitMonths lens (n - len)).2)

/-- The date of a day. -/
def ofDayNumber (n : Nat) : CivilDate :=
  let years := yearsBefore n
  let parts := splitMonths (monthLengths (isLeapYear (years + 1))) (n - daysInYears years)
  ⟨years + 1, parts.1 + 1, parts.2 + 1⟩

end CivilDate

/-- The number of days in the years from 1 to 9999. -/
def calendarDays : Nat := daysInYears 9999

/-- The Monday of the first week of a year, which is the week of the fourth of
    January. -/
def firstMonday (year : Nat) : Nat :=
  let first := daysInYears (year - 1)
  first - first % 7 + (if 3 < first % 7 then 7 else 0)

/-- The number of weeks of a year: 53 if it begins on a Thursday, or on a Wednesday in
    a leap year. -/
def weeksInYear (year : Nat) : Nat :=
  let weekday := daysInYears (year - 1) % 7
  if weekday = 3 ∨ weekday = 2 ∧ isLeapYear year then 53 else 52

/-- The day of a year given by its week and its place in the week, both counted from
    1, if it is in the calendar. -/
def weekDay? (year week day : Nat) : Option Nat :=
  let n := firstMonday year + 7 * (week - 1) + (day - 1)
  if 1 ≤ year ∧ 1 ≤ week ∧ week ≤ weeksInYear year ∧ 1 ≤ day ∧ day ≤ 7 ∧ n < calendarDays then some n
  else none

end QueryFilter
