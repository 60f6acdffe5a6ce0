import QueryFilter.Proofs.Date.Iso
import QueryFilter.Proofs.Date.Order

/-!
# Local times and offsets

A date and a time of day say a point in time only together with their offset from universal time
(`IsOffset`), which is how far the clock that shows them is ahead. The reader of dates takes the
offset off exactly, across the ends of days, months and years (`Instant.ofText_offset`). So the same
instant can be written with many offsets, and it does not matter with which (`SameDate`).

* `IsRest.readTime?_offset`: what is read after the date;
* `Iso.read?_append`: what is read of a local time with an offset;
* `Instant.ofText_of_saysLocalTime`: with blanks around it.
-/

namespace QueryFilter

/-! ## Local times -/

/-- A date and a time of day, to the second. -/
structure LocalTime where
  date : CivilDate
  hour : ℕ
  minute : ℕ
  second : ℕ

namespace LocalTime

/-- Whether there is such a date, in the years from 1 to 9999, and such a time of day. -/
def IsValid (l : LocalTime) : Prop :=
  l.date.IsValid ∧ l.hour ≤ 23 ∧ l.minute ≤ 59 ∧ l.second ≤ 59

instance (l : LocalTime) : Decidable l.IsValid := by
  unfold IsValid
  infer_instance

/-- The microseconds from the start of year 1 on, by the clock that shows the time. The days are
    counted as they follow each other (`CivilDate.IsValid.dayNumber_next`). -/
def micros (l : LocalTime) : ℤ :=
  (((l.date.dayNumber * 24 + l.hour) * 60 + l.minute) * 60 + l.second : ℕ) * 1000000

/-- A local time by its day and the microsecond of the day. -/
theorem micros_eq (l : LocalTime) : l.micros = (l.date.dayNumber * microsPerDay +
    (l.hour * 3600 + l.minute * 60 + l.second) * 1000000 : ℕ) := by
  have hday : microsPerDay = 86400000000 := rfl
  rw [micros, hday]
  omega

open Iso (IsField)

/-- Whether a text is a local time in the form `YYYY-MM-DDTHH:MM:SS`. -/
inductive IsWritten : LocalTime → List Char → Prop
  | mk {years months days hours minutes seconds : List Char} (hyears : IsField 4 years)
      (hmonths : IsField 2 months) (hdays : IsField 2 days) (hhours : IsField 2 hours)
      (hminutes : IsField 2 minutes) (hseconds : IsField 2 seconds) :
      IsWritten ⟨⟨digitsValue years, digitsValue months, digitsValue days⟩, digitsValue hours,
          digitsValue minutes, digitsValue seconds⟩
        (years ++ '-' :: (months ++ '-' :: (days ++ 'T' ::
          (hours ++ ':' :: (minutes ++ ':' :: seconds)))))

end LocalTime

open Iso in
/-- Whether a text is an offset, of so many minutes ahead of universal time: nothing, a `Z`, or a
    sign before less than a day in the form `hh:mm`. -/
inductive IsOffset : ℤ → List Char → Prop
  | none : IsOffset 0 []
  | utc : IsOffset 0 ['Z']
  | clock {negative : Bool} {sign : Char} {hours minutes : List Char}
      (hsign : IsSign negative [sign]) (hhours : IsField 2 hours) (hminutes : IsField 2 minutes)
      (hhour : digitsValue hours ≤ 23) (hminute : digitsValue minutes ≤ 59) :
      IsOffset (signed negative (digitsValue hours * 60 + digitsValue minutes))
        (sign :: (hours ++ ':' :: minutes))

/-- Whether a text says a local time and its offset, with blanks around them or not. -/
def SaysLocalTime (s : String) (l : LocalTime) (ahead : ℤ) : Prop :=
  ∃ before time zone after, (∀ c ∈ before, Text.isBlank c = true) ∧ l.IsWritten time ∧
    IsOffset ahead zone ∧ (∀ c ∈ after, Text.isBlank c = true) ∧
    s.toList = before ++ ((time ++ zone) ++ after)

/-! ## How local times are written -/

open Instant (padded)

/-- A local time in full width. -/
def LocalTime.text (l : LocalTime) : List Char :=
  padded 4 l.date.year ++ '-' :: (padded 2 l.date.month ++ '-' :: (padded 2 l.date.day ++ 'T' ::
    (padded 2 l.hour ++ ':' :: (padded 2 l.minute ++ ':' :: padded 2 l.second))))

open Iso in
/-- Every local time can be written. -/
theorem LocalTime.IsValid.isWritten_text {l : LocalTime} (h : l.IsValid) : l.IsWritten l.text := by
  obtain ⟨hdate, hhour, hminute, hsecond⟩ := h
  have hyear := hdate.2.1
  have hmonth := hdate.month_le
  have hwritten := IsWritten.mk
    (isField_padded (by decide : 0 < 4) (by omega : l.date.year < 10 ^ 4))
    (isField_padded (by decide : 0 < 2) (by omega : l.date.month < 10 ^ 2))
    (isField_padded (by decide : 0 < 2) (by omega : l.date.day < 10 ^ 2))
    (isField_padded (by decide : 0 < 2) (by omega : l.hour < 10 ^ 2))
    (isField_padded (by decide : 0 < 2) (by omega : l.minute < 10 ^ 2))
    (isField_padded (by decide : 0 < 2) (by omega : l.second < 10 ^ 2))
  simp only [digitsValue_padded] at hwritten
  exact hwritten

open Iso in
/-- So can every offset of whole minutes that is less than a day. -/
theorem isOffset_padded {negative : Bool} {sign : Char} {hour minute : ℕ}
    (hsign : IsSign negative [sign]) (hhour : hour ≤ 23) (hminute : minute ≤ 59) :
    IsOffset (signed negative (hour * 60 + minute))
      (sign :: (padded 2 hour ++ ':' :: padded 2 minute)) := by
  have hwritten := IsOffset.clock hsign
    (isField_padded (by decide : 0 < 2) (by omega : hour < 10 ^ 2))
    (isField_padded (by decide : 0 < 2) (by omega : minute < 10 ^ 2))
    (by rwa [digitsValue_padded]) (by rwa [digitsValue_padded])
  simpa only [digitsValue_padded] using hwritten

/-! ## The characters of a local time -/

section Characters

variable {l : LocalTime} {ahead : ℤ} {time zone : List Char} {p : Char → Prop}

/-- What a local time is made of: digits and three marks. -/
theorem LocalTime.IsWritten.forall_mem (h : l.IsWritten time)
    (hdigit : ∀ c, c.isDigit = true → p c) (hmark : p '-' ∧ p 'T' ∧ p ':') : ∀ c ∈ time, p c := by
  obtain ⟨hyphen, htime, hcolon⟩ := hmark
  cases h with
  | mk hyears hmonths hdays hhours hminutes hseconds =>
    simp only [List.forall_mem_append, List.forall_mem_cons]
    exact ⟨fun c hc => hdigit c (hyears.2 c hc), hyphen, fun c hc => hdigit c (hmonths.2 c hc),
      hyphen, fun c hc => hdigit c (hdays.2 c hc), htime, fun c hc => hdigit c (hhours.2 c hc),
      hcolon, fun c hc => hdigit c (hminutes.2 c hc), hcolon,
      fun c hc => hdigit c (hseconds.2 c hc)⟩

/-- What an offset is made of: digits and four marks. -/
theorem IsOffset.forall_mem (h : IsOffset ahead zone) (hdigit : ∀ c, c.isDigit = true → p c)
    (hmark : p '+' ∧ p '-' ∧ p ':' ∧ p 'Z') : ∀ c ∈ zone, p c := by
  obtain ⟨hplus, hminus, hcolon, hutc⟩ := hmark
  cases h with
  | none => simp
  | utc => simpa using hutc
  | clock hsign hhours hminutes hhour hminute =>
    simp only [List.forall_mem_append, List.forall_mem_cons]
    refine ⟨?_, fun c hc => hdigit c (hhours.2 c hc), hcolon, fun c hc => hdigit c (hminutes.2 c hc)⟩
    cases hsign with
    | minus => exact hminus
    | plus => exact hplus

/-- An offset does not begin with anything that may stand in a time of day. -/
theorem IsOffset.head?_isInTime (h : IsOffset ahead zone) :
    zone.head?.any Iso.isInTime = false := by
  cases h with
  | none => rfl
  | utc => rfl
  | clock hsign => cases hsign <;> rfl

end Characters

/-! ## Reading -/

namespace Iso

namespace IsRest

variable {b : List UInt8} {p stop : ℕ} {c : Char} {ahead : ℤ} {zone : List Char}

/-- An offset is read. -/
theorem readOffset?_of_isOffset (h : IsRest b p zone) (hzone : IsOffset ahead zone) :
    readOffset? b p = some (60000000 * ahead) := by
  cases hzone with
  | none => rw [readOffset?, if_pos (h.length_le_iff.2 rfl), mul_zero]
  | utc => rw [h.readOffset?_eq, mul_zero]
  | @clock negative sign hours minutes hsign hhours hminutes hhour hminute =>
    have hlong : b.length = p + 6 := by
      rw [h.length_eq (List.cons_ne_nil _ _), List.length_cons, List.length_append,
        List.length_cons, hhours.1, hminutes.1]
    have hclocks : IsRest b (p + 1) (hours ++ ':' :: (minutes ++ [])) := by
      rw [List.append_nil]
      exact h.tail
    have hend : IsRest b (p + 6) [] := (hclocks.append hhours.1).tail.append hminutes.1
    have hclock : ∃ k, readClock? b (p + 1) b.length = some k ∧ k.goesOn = false ∧ k.micros = 0 ∧
        k.seconds = 60 * (digitsValue hours * 60 + digitsValue minutes) := by
      refine ⟨_, by rw [hlong, hclocks.readClock?_minutes hhours hminutes], ?_, rfl, ?_⟩
      · simp only [hend.charAt_nil, bne_self_eq_false]
      · simp only [Clock.seconds]
        omega
    obtain ⟨k, hclock, hgoes, hmicros, hseconds⟩ := hclock
    have hutc : sign ≠ 'Z' := by cases hsign <;> decide
    have hminus : sign = '-' ↔ negative = true := by cases hsign <;> simp
    -- An offset of no seconds counts as none, which is the same.
    have hwhole : (if k.seconds = 0 then 0 else k.seconds * 1000000 + k.micros) =
        60000000 * (digitsValue hours * 60 + digitsValue minutes) := by
      rw [hmicros, hseconds]
      split <;> omega
    have hday : ¬microsPerDay ≤ 60000000 * (digitsValue hours * 60 + digitsValue minutes) := by
      rw [microsPerDay]
      omega
    rw [readOffset?, if_neg (by omega), h.charAt_cons, if_neg hutc, hclock]
    simp only [hwhole, hgoes, hday, hminus, Bool.false_eq_true, or_self, if_false]
    rw [signed, Option.some.injEq]
    split <;> push_cast <;> ring

/-- After a date, a time of day and its offset are read. -/
theorem readTime?_offset {hours minutes seconds : List Char}
    (h : IsRest b stop (c :: ((hours ++ ':' :: (minutes ++ ':' :: seconds)) ++ zone)))
    (hhours : IsField 2 hours) (hminutes : IsField 2 minutes) (hseconds : IsField 2 seconds)
    (hzone : IsOffset ahead zone) : readTime? b stop =
      if digitsValue hours ≤ 23 ∧ digitsValue minutes ≤ 59 ∧ digitsValue seconds ≤ 59 then
        some ((digitsValue hours * 3600 + digitsValue minutes * 60 + digitsValue seconds) * 1000000,
          60000000 * ahead)
      else none := by
  have hlen : (hours ++ ':' :: (minutes ++ ':' :: seconds)).length = 8 := by
    simp only [List.length_append, List.length_cons, hhours.1, hminutes.1, hseconds.1]
  have htime : ∀ d ∈ hours ++ ':' :: (minutes ++ ':' :: seconds), isInTime d = true := by
    simp only [List.forall_mem_append, List.forall_mem_cons]
    exact ⟨fun d hd => isInTime_of_isDigit (hhours.2 d hd), rfl,
      fun d hd => isInTime_of_isDigit (hminutes.2 d hd), rfl,
      fun d hd => isInTime_of_isDigit (hseconds.2 d hd)⟩
  have hclocks : IsRest b (stop + 1) (hours ++ ':' :: (minutes ++ ':' :: (seconds ++ zone))) := by
    simpa only [List.append_assoc, List.cons_append] using h.tail
  have hoffset : IsRest b (stop + 1 + 8) zone := h.tail.append hlen
  have hclock := hclocks.readClock?_seconds hhours hminutes hseconds
  rw [← hlen] at hclock hoffset
  rw [h.readTime?_eq htime hzone.head?_isInTime hclock, hoffset.readOffset?_of_isOffset hzone]
  · simp only [Clock.IsTimeOfDay, Clock.seconds, Option.map_some, Nat.add_zero]
  · rintro rfl
    simp only [hoffset.charAt_nil, bne_self_eq_false]

end IsRest

variable {l : LocalTime} {ahead : ℤ} {time zone : List Char}

/-- A local time with an offset is read as the instant that is the offset earlier, if there is such
    a local time and the instant is in the calendar. -/
theorem read?_append (hl : l.IsWritten time) (hzone : IsOffset ahead zone) :
    read? (time ++ zone) =
      if l.IsValid then Instant.ofMicros? (l.micros - 60000000 * ahead) else none := by
  have hascii : ∀ c ∈ time ++ zone, c.toNat < 128 := by
    have hdigit : ∀ c : Char, c.isDigit = true → c.toNat < 128 := by
      intro c hc
      have hrange := toNat_of_isDigit hc
      omega
    rw [List.forall_mem_append]
    exact ⟨hl.forall_mem hdigit (by decide), hzone.forall_mem hdigit (by decide)⟩
  have hstart := isRest_encode hascii
  cases hl with
  | @mk years months days hours minutes seconds hyears hmonths hdays hhours hminutes hseconds =>
    have hlong : ¬((years ++ '-' :: (months ++ '-' :: (days ++ 'T' ::
        (hours ++ ':' :: (minutes ++ ':' :: seconds))))) ++ zone).length < 7 := by
      simp only [List.length_append, List.length_cons, hyears.1, hmonths.1, hdays.1]
      omega
    rw [read?, if_neg hlong]
    generalize Text.Utf8.encode _ = b at hstart
    simp only [List.append_assoc, List.cons_append] at hstart
    have hafter : IsRest b 10 ('T' :: ((hours ++ ':' :: (minutes ++ ':' :: seconds)) ++ zone)) := by
      simpa only [List.append_assoc, List.cons_append] using
        (((hstart.append hyears.1).tail.append hmonths.1).tail).append hdays.1
    rw [readOctets?, hstart.dateEnd?_eq hyears hmonths hdays]
    simp only
    rw [hstart.readDate?_eq hyears hmonths hdays,
      hafter.readTime?_offset hhours hminutes hseconds hzone]
    simp only [LocalTime.IsValid, LocalTime.micros_eq]
    by_cases hdate : (CivilDate.mk (digitsValue years) (digitsValue months)
        (digitsValue days)).IsValid
    · by_cases htime : digitsValue hours ≤ 23 ∧ digitsValue minutes ≤ 59 ∧ digitsValue seconds ≤ 59
      · rw [if_pos hdate, if_pos htime, if_pos ⟨hdate, htime⟩]
      · rw [if_pos hdate, if_neg htime, if_neg fun hvalid => htime hvalid.2]
    · simp only [hdate, false_and, if_false]

end Iso

/-- A local time is no timestamp. -/
theorem LocalTime.IsWritten.timestamp_read?_append {l : LocalTime} {time : List Char}
    (h : l.IsWritten time) (zone : List Char) : Timestamp.read? (time ++ zone) = none := by
  cases h with
  | mk hyears =>
    rw [List.append_assoc, List.cons_append]
    refine Timestamp.read?_eq_none ?_ hyears.2 (by decide) (by decide)
    exact List.ne_nil_of_length_eq_add_one hyears.1

namespace Instant

variable {s s' : String} {l : LocalTime} {ahead : ℤ}

/-- Whether so many microseconds from the start of year 1 on are in the years up to 9999. -/
def InCalendar (micros : ℤ) : Prop :=
  0 ≤ micros ∧ micros < (daysInYears 9999 * microsPerDay : ℕ)

instance (micros : ℤ) : Decidable (InCalendar micros) := by
  unfold InCalendar
  infer_instance

/-- The microseconds in the calendar are those of instants. -/
theorem exists_ofMicros?_iff {micros : ℤ} :
    (∃ t, ofMicros? micros = some t) ↔ InCalendar micros := by
  have hcalendar : calendarDays = daysInYears 9999 := rfl
  simp only [ofMicros?_eq_some_iff, InCalendar, ← hcalendar]
  refine ⟨?_, fun h => ⟨⟨micros.toNat, by omega⟩, by simp only; omega⟩⟩
  rintro ⟨t, rfl⟩
  exact ⟨Int.natCast_nonneg _, Int.ofNat_lt.2 t.micros_lt⟩

/-- What is read of a text that says a local time and its offset. -/
theorem ofText_of_saysLocalTime (h : SaysLocalTime s l ahead) :
    ofText s = .ok (if l.IsValid then ofMicros? (l.micros - 60000000 * ahead) else none) := by
  obtain ⟨before, time, zone, after, hbefore, hl, hzone, hafter, hs⟩ := h
  have hne : time ++ zone ≠ [] := by
    cases hl
    simp
  have hbody : ∀ c ∈ time ++ zone, Text.isBlank c = false := by
    rw [List.forall_mem_append]
    exact ⟨hl.forall_mem (fun _ => isBlank_of_isDigit) (by decide),
      hzone.forall_mem (fun _ => isBlank_of_isDigit) (by decide)⟩
  rw [ofText, hs]
  simp only [trim_append_append hne hbefore hbody hafter, hl.timestamp_read?_append,
    Iso.read?_append hl hzone]

/-- The instant of a local time in universal time has its date and its time of day. -/
theorem exists_date_eq (h : l.IsValid) : ∃ t : Instant, (t.micros : ℤ) = l.micros ∧
    t.date = l.date ∧ t.microOfDay = (l.hour * 3600 + l.minute * 60 + l.second) * 1000000 := by
  obtain ⟨hdate, hhour, hminute, hsecond⟩ := h
  have hday : microsPerDay = 86400000000 := rfl
  have hlt : l.date.dayNumber < calendarDays :=
    hdate.dayNumber_lt.trans_le (monotone_daysInYears hdate.2.1)
  have hmicros := l.micros_eq
  have hclock : (l.hour * 3600 + l.minute * 60 + l.second) * 1000000 < microsPerDay := by omega
  generalize (l.hour * 3600 + l.minute * 60 + l.second) * 1000000 = clock at hmicros hclock
  have hbound : l.date.dayNumber * microsPerDay + clock < calendarDays * microsPerDay := by
    calc l.date.dayNumber * microsPerDay + clock
        < (l.date.dayNumber + 1) * microsPerDay := by
          rw [Nat.add_one_mul]
          omega
      _ ≤ calendarDays * microsPerDay := Nat.mul_le_mul_right _ hlt
  refine ⟨⟨_, hbound⟩, hmicros.symm, ?_, ?_⟩
  · have hdiv : (l.date.dayNumber * microsPerDay + clock) / microsPerDay = l.date.dayNumber := by
      rw [hday] at hclock ⊢
      omega
    rw [date, hdiv, hdate.ofDayNumber_dayNumber]
  · show (l.date.dayNumber * microsPerDay + clock) % microsPerDay = clock
    rw [hday] at hclock ⊢
    omega

end Instant

/-! ## The same date -/

/-- Whether two texts are the same date wherever a date is looked for: when it is read, in the
    condition of one date, and before or after the bar in the condition of two. -/
structure SameDate (s s' : String) : Prop where
  ofText_eq : Instant.ofText s = Instant.ofText s'
  condition_eq : ∀ kind, kind = .after ∨ kind = .before →
    BuilderKind.condition kind (.str s) = BuilderKind.condition kind (.str s')
  start_eq : ∀ {raw raw' : String} {stop : List Char} {rest rest' : List (List Char)},
    Text.splitOn '|' raw.toList = s.toList :: stop :: rest →
    Text.splitOn '|' raw'.toList = s'.toList :: stop :: rest' →
    BuilderKind.between.condition (.str raw) = BuilderKind.between.condition (.str raw')
  stop_eq : ∀ {raw raw' : String} {start : List Char} {rest rest' : List (List Char)},
    Text.splitOn '|' raw.toList = start :: s.toList :: rest →
    Text.splitOn '|' raw'.toList = start :: s'.toList :: rest' →
    BuilderKind.between.condition (.str raw) = BuilderKind.between.condition (.str raw')

/-- The condition of two dates is told by what is read of them. -/
theorem BuilderKind.betweenCondition_congr {raw raw' : String} {p₀ p₁ q₀ q₁ : List Char}
    {rest rest' : List (List Char)} (h : Text.splitOn '|' raw.toList = p₀ :: p₁ :: rest)
    (h' : Text.splitOn '|' raw'.toList = q₀ :: q₁ :: rest')
    (h₀ : Instant.ofText (String.ofList p₀) = Instant.ofText (String.ofList q₀))
    (h₁ : Instant.ofText (String.ofList p₁) = Instant.ofText (String.ofList q₁)) :
    betweenCondition raw = betweenCondition raw' := by
  rw [betweenCondition, betweenCondition, h, h']
  simp only [h₀, h₁]

/-- Texts of which the same is read are the same date. -/
theorem sameDate_of_ofText_eq {s s' : String} (h : Instant.ofText s = Instant.ofText s') :
    SameDate s s' := by
  have hparts :
      Instant.ofText (String.ofList s.toList) = Instant.ofText (String.ofList s'.toList) := by
    rwa [String.ofList_toList, String.ofList_toList]
  refine ⟨h, ?_, fun hraw hraw' => ?_, fun hraw hraw' => ?_⟩
  · rintro kind (rfl | rfl) <;> simp only [BuilderKind.condition, Instant.ofValue, h]
  · exact BuilderKind.betweenCondition_congr hraw hraw' hparts rfl
  · exact BuilderKind.betweenCondition_congr hraw hraw' rfl hparts

namespace Instant

variable {s : String} {l : LocalTime} {ahead : ℤ}

/-- A text that says a local time and its offset is no date if there is no such local time.
    Otherwise it is read as the instant that is the offset earlier, exactly, if that is in the
    calendar, and as no date if it is not; it is never an error. Without an offset the instant has
    the date and the time of day that are written. Texts that say one instant with different offsets
    are the same date. -/
theorem ofText_offset (h : SaysLocalTime s l ahead) :
    (¬l.IsValid → ofText s = .ok none) ∧
    (l.IsValid →
      (∀ t, ofText s = .ok (some t) ↔ (t.micros : ℤ) = l.micros - 60000000 * ahead) ∧
      (ahead = 0 → ∃ t, ofText s = .ok (some t) ∧ t.date = l.date ∧
        t.microOfDay = (l.hour * 3600 + l.minute * 60 + l.second) * 1000000) ∧
      ((∃ t, ofText s = .ok (some t)) ↔ InCalendar (l.micros - 60000000 * ahead)) ∧
      (ofText s = .ok none ↔ ¬InCalendar (l.micros - 60000000 * ahead))) ∧
    ∀ {s' : String} {l' : LocalTime} {ahead' : ℤ}, SaysLocalTime s' l' ahead' → l.IsValid →
      l'.IsValid → l.micros - 60000000 * ahead = l'.micros - 60000000 * ahead' → SameDate s s' := by
  have hread := ofText_of_saysLocalTime h
  refine ⟨fun hl => ?_, fun hl => ?_, fun h' hl hl' heq => ?_⟩
  · rw [hread, if_neg hl]
  · rw [if_pos hl] at hread
    simp only [hread, Except.ok.injEq]
    refine ⟨fun t => ofMicros?_eq_some_iff, ?_, exists_ofMicros?_iff, ?_⟩
    · rintro rfl
      obtain ⟨t, ht, hfields⟩ := exists_date_eq hl
      exact ⟨t, ofMicros?_eq_some_iff.2 (by rw [ht, mul_zero, sub_zero]), hfields⟩
    · rw [← exists_ofMicros?_iff, not_exists, Option.eq_none_iff_forall_ne_some]
  · refine sameDate_of_ofText_eq ?_
    rw [hread, ofText_of_saysLocalTime h', if_pos hl, if_pos hl', heq]

/-- An instant at the end of a leap day, which is in March in universal time; and the first minute
    of year 1 by a clock that is ahead, which is no date. -/
theorem ofText_offset_leapDay :
    SaysLocalTime " 2024-02-29T23:30:00-01:30\n" ⟨⟨2024, 2, 29⟩, 23, 30, 0⟩ (-90) ∧
    SaysLocalTime "2024-03-01T01:00:00Z" ⟨⟨2024, 3, 1⟩, 1, 0, 0⟩ 0 ∧
    SaysLocalTime "0001-01-01T00:00:00+00:01" ⟨⟨1, 1, 1⟩, 0, 0, 0⟩ 1 ∧
    SameDate " 2024-02-29T23:30:00-01:30\n" "2024-03-01T01:00:00Z" ∧
    (∃ t, ofText " 2024-02-29T23:30:00-01:30\n" = .ok (some t)) ∧
    ofText "0001-01-01T00:00:00+00:01" = .ok none := by
  have hleap : SaysLocalTime " 2024-02-29T23:30:00-01:30\n" ⟨⟨2024, 2, 29⟩, 23, 30, 0⟩ (-90) :=
    ⟨[' '], _, _, ['\n'], List.forall_mem_singleton.2 (by decide),
      LocalTime.IsValid.isWritten_text (by decide),
      isOffset_padded .minus (by decide : 1 ≤ 23) (by decide : 30 ≤ 59),
      List.forall_mem_singleton.2 (by decide), by decide +kernel⟩
  have hmarch : SaysLocalTime "2024-03-01T01:00:00Z" ⟨⟨2024, 3, 1⟩, 1, 0, 0⟩ 0 :=
    ⟨[], _, _, [], List.forall_mem_nil _, LocalTime.IsValid.isWritten_text (by decide), .utc,
      List.forall_mem_nil _, by decide +kernel⟩
  have hfirst : SaysLocalTime "0001-01-01T00:00:00+00:01" ⟨⟨1, 1, 1⟩, 0, 0, 0⟩ 1 :=
    ⟨[], _, _, [], List.forall_mem_nil _, LocalTime.IsValid.isWritten_text (by decide),
      isOffset_padded .plus (by decide : 0 ≤ 23) (by decide : 1 ≤ 59), List.forall_mem_nil _,
      by decide +kernel⟩
  obtain ⟨-, hinstant, hsame⟩ := ofText_offset hleap
  refine ⟨hleap, hmarch, hfirst, hsame hmarch (by decide) (by decide) (by decide +kernel), ?_, ?_⟩
  · exact (hinstant (by decide)).2.2.1.2 (by decide +kernel)
  · exact ((ofText_offset hfirst).2.1 (by decide)).2.2.2.2 (by decide +kernel)

end Instant

end QueryFilter
