import QueryFilter.Date.Calendar

/-!
# Instants

An instant is a number of microseconds from the start of year 1, in universal time,
within the years of the calendar. `Instant.print` shows it to the millisecond, with
every part in its full width; microseconds beyond are cut off.
-/

namespace QueryFilter

/-- The number of microseconds in a day. -/
def microsPerDay : Nat := 86400000000

/-- A point in time, in microseconds from the start of year 1. -/
@[ext]
structure Instant where
  micros : Nat
  micros_lt : micros < calendarDays * microsPerDay
deriving DecidableEq

namespace Instant

/-- The instant so many microseconds from the start of year 1, if it is in the
    calendar. -/
def ofMicros? (micros : Int) : Option Instant :=
  if h : 0 ≤ micros ∧ micros.toNat < calendarDays * microsPerDay then some ⟨micros.toNat, h.2⟩
  else none

/-- The day of the epoch, the first of January 1970. -/
def epochDay : Nat := (CivilDate.mk 1970 1 1).dayNumber

/-- The instant so many milliseconds after the epoch, if it is in the calendar. -/
def ofEpochMillis? (millis : Int) : Option Instant :=
  ofMicros? (millis * 1000 + (epochDay * microsPerDay : Nat))

/-- The date of an instant. -/
def date (t : Instant) : CivilDate :=
  .ofDayNumber (t.micros / microsPerDay)

/-- The microsecond of the day. -/
def microOfDay (t : Instant) : Nat :=
  t.micros % microsPerDay

/-- The digits of `n`, with zeros in front up to the width. -/
def padded (width n : Nat) : List Char :=
  let ds := Nat.toDigits 10 n
  List.replicate (width - ds.length) '0' ++ ds

/-- Date and time of day to the second, in full width. -/
def printSeconds (t : Instant) : List Char :=
  let d := t.date
  let seconds := t.microOfDay / 1000000
  padded 4 d.year ++ '-' :: padded 2 d.month ++ '-' :: padded 2 d.day ++ 'T' ::
    padded 2 (seconds / 3600) ++ ':' :: padded 2 (seconds / 60 % 60) ++ ':' ::
    padded 2 (seconds % 60)

/-- The text of an instant in filters, to the millisecond. -/
def print (t : Instant) : String :=
  String.ofList (t.printSeconds ++ '.' :: padded 3 (t.microOfDay / 1000 % 1000) ++ ['Z'])

/-- The text of an instant in full, to the microsecond, with its offset. -/
def printFull (t : Instant) : String :=
  String.ofList (t.printSeconds ++ '.' :: padded 6 (t.microOfDay % 1000000) ++ "+00:00".toList)

end Instant

end QueryFilter
