import QueryFilter.Date.Iso
import QueryFilter.Proofs.Number.Written
import QueryFilter.Proofs.Text.Utf8

/-!
# Reading ISO 8601 dates

What the reader of dates makes of texts in the extended format. It looks at octets by their
position, so each of its parts is told by the text that is left from a position on (`IsRest`), which
gets shorter as the position moves.

* `IsRest.append`, `IsRest.tail`: the position moves behind what has been read;
* `IsRest.digits?_eq`: a number of some width is read;
* `IsRest.dateEnd?_eq`, `IsRest.readDate?_eq`: the date;
* `IsRest.readClock?_eq`, `IsRest.readTime?_eq`: the time of day and the offset, which
  `IsRest.readTime?_utc` puts together for universal time;
* `IsRest.readClock?_minutes`, `IsRest.readClock?_seconds`: a time that ends with its minutes or its
  seconds.
-/

namespace QueryFilter.Iso

/-- Whether the octets from a position on are the text `cs`, which is in ASCII. -/
structure IsRest (b : List UInt8) (p : ℕ) (cs : List Char) : Prop where
  ascii : ∀ c ∈ cs, c.toNat < 128
  drop_eq : b.drop p = Text.Utf8.encode cs

/-- Whether a text is a number of some width. -/
def IsField (width : ℕ) (ds : List Char) : Prop :=
  ds.length = width ∧ ∀ c ∈ ds, c.isDigit = true

/-- A number in its width. -/
theorem isField_padded {width n : ℕ} (hpos : 0 < width) (h : n < 10 ^ width) :
    IsField width (Instant.padded width n) :=
  ⟨length_padded hpos h, isDigit_of_mem_padded⟩

/-- The octet of a character of ASCII. -/
theorem encode_cons_of_ascii {c : Char} (h : c.toNat < 128) (cs : List Char) :
    Text.Utf8.encode (c :: cs) = UInt8.ofNat c.toNat :: Text.Utf8.encode cs := by
  rw [Text.Utf8.encode, List.flatMap_cons, Text.Utf8.encodeChar, if_pos h, List.singleton_append]
  rfl

/-- There are as many octets as characters of ASCII. -/
theorem length_encode_of_ascii {cs : List Char} (h : ∀ c ∈ cs, c.toNat < 128) :
    (Text.Utf8.encode cs).length = cs.length := by
  induction cs with
  | nil => rfl
  | cons c cs ih =>
    obtain ⟨hc, hcs⟩ := List.forall_mem_cons.1 h
    rw [encode_cons_of_ascii hc, List.length_cons, List.length_cons, ih hcs]

/-- The character of an octet of ASCII. -/
theorem ofNat_octet {c : Char} (h : c.toNat < 128) :
    Char.ofNat (UInt8.ofNat c.toNat).toNat = c := by
  rw [Text.Utf8.toNat_octet (by omega), Char.ofNat_toNat]

/-- All of a text is left at its beginning. -/
theorem isRest_encode {cs : List Char} (h : ∀ c ∈ cs, c.toNat < 128) :
    IsRest (Text.Utf8.encode cs) 0 cs :=
  ⟨h, rfl⟩

/-- Whether a character may stand in a time of day. -/
def isInTime (c : Char) : Bool :=
  c != '+' && c != '-' && c != 'Z'

/-- Digits may stand in a time of day. -/
theorem isInTime_of_isDigit {c : Char} (h : c.isDigit = true) : isInTime c = true := by
  have hne : ∀ d : Char, d.isDigit = false → c ≠ d := by
    rintro d hd rfl
    exact absurd h (by simp [hd])
  simp [isInTime, hne '+' (by decide), hne '-' (by decide), hne 'Z' (by decide)]

namespace IsRest

variable {b : List UInt8} {p : ℕ} {c : Char} {cs part rest ds : List Char}

/-! ## Positions -/

/-- The octets that are left begin with the first character. -/
theorem drop_cons (h : IsRest b p (c :: rest)) :
    b.drop p = UInt8.ofNat c.toNat :: Text.Utf8.encode rest := by
  rw [h.drop_eq, encode_cons_of_ascii (h.ascii c List.mem_cons_self)]

/-- Behind the first character. -/
theorem tail (h : IsRest b p (c :: rest)) : IsRest b (p + 1) rest := by
  refine ⟨fun d hd => h.ascii d (List.mem_cons_of_mem _ hd), ?_⟩
  rw [← List.drop_drop, h.drop_cons, List.drop_succ_cons, List.drop_zero]

/-- Behind the first part. -/
theorem append (h : IsRest b p (part ++ rest)) {count : ℕ} (hlen : part.length = count) :
    IsRest b (p + count) rest := by
  subst hlen
  induction part generalizing p with
  | nil => exact h
  | cons c part ih =>
    rw [List.length_cons, Nat.add_comm part.length, ← Nat.add_assoc]
    exact ih h.tail

/-- The first character that is left. -/
theorem charAt_cons (h : IsRest b p (c :: rest)) : charAt b p = c := by
  rw [charAt, List.getD_eq_getElem?_getD, ← List.head?_drop, h.drop_cons, List.head?_cons,
    Option.getD_some, ofNat_octet (h.ascii c List.mem_cons_self)]

/-- Nothing is left at the end. -/
theorem length_le_iff (h : IsRest b p cs) : b.length ≤ p ↔ cs = [] := by
  rw [← List.drop_eq_nil_iff, h.drop_eq]
  cases cs with
  | nil => exact iff_of_true rfl rfl
  | cons c cs =>
    rw [encode_cons_of_ascii (h.ascii c List.mem_cons_self)]
    exact iff_of_false (List.cons_ne_nil _ _) (List.cons_ne_nil _ _)

/-- How many octets there are if some are left. -/
theorem length_eq (h : IsRest b p cs) (hne : cs ≠ []) : b.length = p + cs.length := by
  have hlen := congrArg List.length h.drop_eq
  rw [List.length_drop, length_encode_of_ascii h.ascii] at hlen
  have hpos := List.length_pos_iff.2 hne
  omega

/-- Behind the end stands a zero octet. -/
theorem charAt_nil (h : IsRest b p []) : charAt b p = '\x00' := by
  rw [charAt, List.getD_eq_getElem?_getD, List.getElem?_eq_none (h.length_le_iff.2 rfl),
    Option.getD_none]
  rfl

/-- A run of characters of a class. -/
theorem length_takeWhile (h : IsRest b p cs) (q : Char → Bool) :
    ((b.drop p).takeWhile fun o => q (Char.ofNat o.toNat)).length = (cs.takeWhile q).length := by
  induction cs generalizing p with
  | nil =>
    rw [h.drop_eq]
    rfl
  | cons c cs ih =>
    have htail := ih h.tail
    rw [← List.drop_drop, h.drop_cons, List.drop_succ_cons, List.drop_zero] at htail
    rw [h.drop_cons, List.takeWhile_cons, List.takeWhile_cons,
      ofNat_octet (h.ascii c List.mem_cons_self)]
    split
    next => rw [List.length_cons, List.length_cons, htail]
    next => rfl

/-! ## Numbers -/

/-- Digits are read, after others. -/
theorem digitsFrom?_eq (h : IsRest b p (ds ++ rest)) (hds : ∀ c ∈ ds, c.isDigit = true) (acc : ℕ) :
    digitsFrom? b acc p ds.length = some (acc * 10 ^ ds.length + digitsValue ds) := by
  induction ds generalizing p acc with
  | nil => simp [digitsFrom?, digitsValue]
  | cons c ds ih =>
    obtain ⟨hc, hds⟩ := List.forall_mem_cons.1 hds
    rw [List.length_cons, digitsFrom?, h.charAt_cons]
    simp only [hc, if_true]
    rw [ih h.tail hds, digitsValue_cons, pow_succ]
    congr 1
    ring

/-- A number of some width is read. -/
theorem digits?_eq (h : IsRest b p (ds ++ rest)) {width : ℕ} (hds : IsField width ds) :
    digits? b p width = some (digitsValue ds) := by
  rw [digits?, ← hds.1, h.digitsFrom?_eq hds.2, Nat.zero_mul, Nat.zero_add]

/-- A number begins with a digit. -/
theorem isDigit_charAt (h : IsRest b p (ds ++ rest)) {width : ℕ} (hds : IsField (width + 1) ds) :
    (charAt b p).isDigit = true := by
  obtain ⟨c, ds, rfl⟩ := List.exists_cons_of_length_eq_add_one hds.1
  rw [h.charAt_cons]
  exact hds.2 c List.mem_cons_self

/-! ## Dates -/

section Date

variable {years months days : List Char}
  (h : IsRest b 0 (years ++ '-' :: (months ++ '-' :: (days ++ rest))))
  (hyears : IsField 4 years) (hmonths : IsField 2 months) (hdays : IsField 2 days)

include h hyears hmonths

/-- After the year of a date with hyphens, there is no week. -/
theorem charAt_month_ne : charAt b 5 ≠ 'W' := by
  intro hweek
  have hdigit : (charAt b 5).isDigit = true := (h.append hyears.1).tail.isDigit_charAt hmonths
  rw [hweek] at hdigit
  exact absurd hdigit (by decide)

include hdays

/-- A date with hyphens ends after ten octets. -/
theorem dateEnd?_eq : dateEnd? b = some 10 := by
  have hhyphen : IsRest b 4 _ := h.append hyears.1
  have hday : IsRest b 8 _ := (hhyphen.tail.append hmonths.1).tail
  -- A day stands at the eighth octet, so there are more than seven.
  have hlong : ¬b.length ≤ 8 := by
    obtain ⟨c, ds, rfl⟩ := List.exists_cons_of_length_eq_add_one hdays.1
    rw [hday.length_le_iff]
    exact List.cons_ne_nil _ _
  rw [dateEnd?, if_neg (by omega), if_pos hhyphen.charAt_cons,
    if_neg (charAt_month_ne h hyears hmonths)]

/-- A date with hyphens is read if it exists. -/
theorem readDate?_eq : readDate? b 10 =
    if (CivilDate.mk (digitsValue years) (digitsValue months) (digitsValue days)).IsValid then
      some (CivilDate.mk (digitsValue years) (digitsValue months) (digitsValue days)).dayNumber
    else none := by
  have hhyphen : IsRest b 4 _ := h.append hyears.1
  have hmonth : IsRest b 5 _ := hhyphen.tail
  have hhyphen' : IsRest b 7 _ := hmonth.append hmonths.1
  have hday : IsRest b 8 _ := hhyphen'.tail
  rw [readDate?, h.digits?_eq hyears]
  simp only [hhyphen.charAt_cons, beq_self_eq_true, if_true,
    if_neg (charAt_month_ne h hyears hmonths)]
  rw [readMonthDate?, hmonth.digits?_eq hmonths]
  simp only [hhyphen'.charAt_cons, bne_self_eq_false, Bool.and_false, Bool.false_eq_true, if_false,
    if_true, hday.digits?_eq hdays, true_and]

end Date

/-! ## Times of day -/

section Clock

variable {stop more count : ℕ} {colons? : Option Bool} {fields : List ℕ} {zone : List Char}

/-- A number with a colon after it is read, and the next one has one too. -/
theorem readFields?_colon (h : IsRest b p (ds ++ ':' :: rest)) (hds : IsField 2 ds)
    (hstop : p + 3 < stop) (hcolons : colons? = none ∨ colons? = some true) :
    readFields? b stop (more + 1) colons? fields p =
      readFields? b stop more (some true) (fields ++ [digitsValue ds]) (p + 3) := by
  have hcolon : IsRest b (p + 2) _ := h.append hds.1
  have htrue : colons?.getD (':' == ':') = true := by rcases hcolons with rfl | rfl <;> rfl
  have hmark : ¬(':' = '.' ∨ ':' = ',') := by decide
  rw [readFields?.eq_def]
  simp only [h.digits?_eq hds, hcolon.charAt_cons, htrue, if_neg (Nat.not_le.2 hstop), if_neg hmark,
    bne_self_eq_false, Bool.and_false, Bool.false_eq_true, if_false, if_true]

/-- A number with a point after it is read, and then the fraction. -/
theorem readFields?_point (h : IsRest b p (ds ++ '.' :: rest)) (hds : IsField 2 ds)
    (hstop : p + 3 < stop) : readFields? b stop more colons? fields p =
      readFraction? b (fields ++ [digitsValue ds]) (p + 3) stop := by
  have hpoint : IsRest b (p + 2) _ := h.append hds.1
  rw [readFields?.eq_def]
  simp only [h.digits?_eq hds, hpoint.charAt_cons, if_neg (Nat.not_le.2 hstop), true_or, if_true]

/-- A number at the end is read, and then nothing more. -/
theorem readFields?_last (h : IsRest b p (ds ++ zone)) (hds : IsField 2 ds) :
    readFields? b (p + 2) more colons? fields p =
      some (.ofFields (fields ++ [digitsValue ds]) 0 (charAt b (p + 2) != '\x00')) := by
  rw [readFields?.eq_def]
  simp only [h.digits?_eq hds, if_pos (Nat.le_succ (p + 2))]

/-- A fraction of up to six digits is read. -/
theorem readFraction?_eq (h : IsRest b p (ds ++ zone)) (hds : IsField count ds) (hcount : count ≤ 6)
    (hzone : zone.head?.any Char.isDigit = false) : readFraction? b fields p (p + count) =
      some (.ofFields fields (digitsValue ds * 10 ^ (6 - count))
        (charAt b (p + count) != '\x00')) := by
  have hrun : digitRun b (p + count) = 0 := by
    rw [digitRun, (h.append hds.1).length_takeWhile Char.isDigit, ← List.nil_append zone,
      takeWhile_append_of_head (by simp) hzone, List.length_nil]
  rw [readFraction?, Nat.add_sub_cancel_left, Nat.min_eq_right hcount, h.digits?_eq hds,
    Option.map_some, hrun]
  rfl

/-- Hours, minutes and seconds with colons between them and a fraction after them are read. -/
theorem readClock?_eq {hours minutes seconds : List Char}
    (h : IsRest b p (hours ++ ':' :: (minutes ++ ':' :: (seconds ++ '.' :: (ds ++ zone)))))
    (hhours : IsField 2 hours) (hminutes : IsField 2 minutes) (hseconds : IsField 2 seconds)
    (hds : IsField count ds) (hpos : 0 < count) (hcount : count ≤ 6)
    (hzone : zone.head?.any Char.isDigit = false) : readClock? b p (p + 9 + count) =
      some ⟨digitsValue hours, digitsValue minutes, digitsValue seconds,
        digitsValue ds * 10 ^ (6 - count), charAt b (p + 9 + count) != '\x00'⟩ := by
  have hminute : IsRest b (p + 3) _ := (h.append hhours.1).tail
  have hsecond : IsRest b (p + 6) _ := (hminute.append hminutes.1).tail
  have hfraction : IsRest b (p + 9) _ := (hsecond.append hseconds.1).tail
  rw [readClock?, h.readFields?_colon hhours (by omega) (.inl rfl),
    hminute.readFields?_colon hminutes (by omega) (.inr rfl),
    hsecond.readFields?_point hseconds (by omega), hfraction.readFraction?_eq hds hcount hzone]
  rfl

/-- Hours and minutes with a colon between them are read. -/
theorem readClock?_minutes {hours minutes : List Char}
    (h : IsRest b p (hours ++ ':' :: (minutes ++ zone))) (hhours : IsField 2 hours)
    (hminutes : IsField 2 minutes) : readClock? b p (p + 5) =
      some ⟨digitsValue hours, digitsValue minutes, 0, 0, charAt b (p + 5) != '\x00'⟩ := by
  have hminute : IsRest b (p + 3) _ := (h.append hhours.1).tail
  rw [readClock?, h.readFields?_colon hhours (by omega) (.inl rfl),
    hminute.readFields?_last hminutes]
  rfl

/-- Hours, minutes and seconds with colons between them are read. -/
theorem readClock?_seconds {hours minutes seconds : List Char}
    (h : IsRest b p (hours ++ ':' :: (minutes ++ ':' :: (seconds ++ zone))))
    (hhours : IsField 2 hours) (hminutes : IsField 2 minutes) (hseconds : IsField 2 seconds) :
    readClock? b p (p + 8) =
      some ⟨digitsValue hours, digitsValue minutes, digitsValue seconds, 0,
        charAt b (p + 8) != '\x00'⟩ := by
  have hminute : IsRest b (p + 3) _ := (h.append hhours.1).tail
  have hsecond : IsRest b (p + 6) _ := (hminute.append hminutes.1).tail
  rw [readClock?, h.readFields?_colon hhours (by omega) (.inl rfl),
    hminute.readFields?_colon hminutes (by omega) (.inr rfl), hsecond.readFields?_last hseconds]
  rfl

/-- A time of day ends at a sign, at a `Z`, or at the end. -/
theorem timeEnd_eq {time : List Char} (h : IsRest b p (time ++ zone))
    (htime : ∀ c ∈ time, isInTime c = true) (hzone : zone.head?.any isInTime = false) :
    timeEnd b p = p + time.length := by
  rw [timeEnd]
  congr 1
  exact (h.length_takeWhile isInTime).trans
    (congrArg List.length (takeWhile_append_of_head htime hzone))

/-- After a date and a separator of one octet, a time of day and an offset are read. Without an
    offset, nothing may follow the time of day. -/
theorem readTime?_eq {time : List Char} {k : Clock} (h : IsRest b stop (c :: (time ++ zone)))
    (htime : ∀ c ∈ time, isInTime c = true) (hzone : zone.head?.any isInTime = false)
    (hclock : readClock? b (stop + 1) (stop + 1 + time.length) = some k)
    (hend : zone = [] → k.goesOn = false) : readTime? b stop =
      if k.IsTimeOfDay then
        (readOffset? b (stop + 1 + time.length)).map fun offset =>
          (k.seconds * 1000000 + k.micros, offset)
      else none := by
  have hwidth : charWidth b stop = 1 := by
    have hoctet : (b.getD stop 0).toNat = c.toNat := by
      rw [List.getD_eq_getElem?_getD, ← List.head?_drop, h.drop_cons, List.head?_cons,
        Option.getD_some, Text.Utf8.toNat_octet (by have := h.ascii c List.mem_cons_self; omega)]
    rw [charWidth, hoctet, if_pos (h.ascii c List.mem_cons_self)]
  have hlong : ¬b.length ≤ stop := by
    rw [h.length_le_iff]
    exact List.cons_ne_nil _ _
  have hmore : ¬(b.length ≤ stop + 1 + time.length ∧ k.goesOn = true) := by
    rintro ⟨hle, hgoes⟩
    rw [(h.tail.append rfl).length_le_iff] at hle
    rw [hend hle] at hgoes
    exact absurd hgoes (by decide)
  rw [readTime?, if_neg hlong, hwidth]
  simp only [h.tail.timeEnd_eq htime hzone, hclock, hmore, not_false_eq_true, and_true]

/-- Universal time has no offset. -/
theorem readOffset?_eq (h : IsRest b p ['Z']) : readOffset? b p = some 0 := by
  have hlong : ¬b.length ≤ p := by
    rw [h.length_le_iff]
    exact List.cons_ne_nil _ _
  rw [readOffset?, if_neg hlong, if_pos h.charAt_cons, if_pos h.tail.charAt_nil]

/-- After a date and a separator, a time of day with a fraction is read, in universal time. -/
theorem readTime?_utc {hours minutes seconds : List Char}
    (h : IsRest b stop
      (c :: (hours ++ ':' :: (minutes ++ ':' :: (seconds ++ '.' :: (ds ++ ['Z']))))))
    (hhours : IsField 2 hours) (hminutes : IsField 2 minutes) (hseconds : IsField 2 seconds)
    (hds : IsField count ds) (hpos : 0 < count) (hcount : count ≤ 6)
    (hhour : digitsValue hours ≤ 23) (hminute : digitsValue minutes ≤ 59)
    (hsecond : digitsValue seconds ≤ 59) : readTime? b stop =
      some ((digitsValue hours * 3600 + digitsValue minutes * 60 + digitsValue seconds) * 1000000 +
        digitsValue ds * 10 ^ (6 - count), 0) := by
  have hclock := h.tail.readClock?_eq hhours hminutes hseconds hds hpos hcount rfl
  rw [Nat.add_assoc (stop + 1)] at hclock
  have hregroup : IsRest b stop
      (c :: ((hours ++ ':' :: (minutes ++ ':' :: (seconds ++ '.' :: ds))) ++ ['Z'])) := by
    simpa only [List.append_assoc, List.cons_append] using h
  have hlen : (hours ++ ':' :: (minutes ++ ':' :: (seconds ++ '.' :: ds))).length = 9 + count := by
    simp only [List.length_append, List.length_cons, hhours.1, hminutes.1, hseconds.1, hds.1]
    omega
  have htime : ∀ d ∈ hours ++ ':' :: (minutes ++ ':' :: (seconds ++ '.' :: ds)),
      isInTime d = true := by
    simp only [List.forall_mem_append, List.forall_mem_cons]
    exact ⟨fun d hd => isInTime_of_isDigit (hhours.2 d hd), rfl,
      fun d hd => isInTime_of_isDigit (hminutes.2 d hd), rfl,
      fun d hd => isInTime_of_isDigit (hseconds.2 d hd), rfl,
      fun d hd => isInTime_of_isDigit (hds.2 d hd)⟩
  have hzone : IsRest b (stop + 1 + (9 + count)) ['Z'] := hregroup.tail.append hlen
  rw [← hlen] at hclock
  rw [hregroup.readTime?_eq htime rfl hclock fun hnil => absurd hnil (List.cons_ne_nil _ _),
    if_pos ⟨hhour, hminute, hsecond⟩, hlen, hzone.readOffset?_eq]
  rfl

end Clock

end IsRest

end QueryFilter.Iso
