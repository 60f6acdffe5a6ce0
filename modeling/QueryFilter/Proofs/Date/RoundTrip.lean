import QueryFilter.Proofs.Date.Iso
import QueryFilter.Proofs.Date.Order

/-!
# Printed dates read back

The text of an instant is an ISO 8601 date and no timestamp, and it is read as the instant, to the
millisecond (`Instant.ofText_print`). So the date in a condition that a builder of one date has made
makes the same condition again (`Instant.print_roundTrip`).
-/

namespace QueryFilter

namespace Instant

variable (t : Instant)

/-- What the text of an instant is made of: digits and five marks. -/
theorem forall_mem_print {p : Char → Prop} (hdigit : ∀ c, c.isDigit = true → p c)
    (hmark : p '-' ∧ p 'T' ∧ p ':' ∧ p '.' ∧ p 'Z') : ∀ c ∈ t.print.toList, p c := by
  have hpadded : ∀ width n, ∀ c ∈ padded width n, p c := fun width n c hc =>
    hdigit c (isDigit_of_mem_padded c hc)
  obtain ⟨hhyphen, htime, hcolon, hpoint, hutc⟩ := hmark
  simp only [toList_print, List.forall_mem_append, List.forall_mem_cons]
  exact ⟨hpadded _ _, hhyphen, hpadded _ _, hhyphen, hpadded _ _, htime, hpadded _ _, hcolon,
    hpadded _ _, hcolon, hpadded _ _, hpoint, hpadded _ _, hutc, by simp⟩

/-- The text of an instant is in ASCII. -/
theorem ascii_print : ∀ c ∈ t.print.toList, c.toNat < 128 := by
  refine t.forall_mem_print (fun c hc => ?_) (by decide)
  have hrange := toNat_of_isDigit hc
  omega

/-- The text of an instant has no blanks around it. -/
theorem trim_print : Text.trim t.print.toList = t.print.toList :=
  trim_of_isBlank_eq_false
    (t.forall_mem_print (fun _ hc => isBlank_of_isDigit hc) (by decide))

/-- The text of an instant is no timestamp. -/
theorem timestamp_read?_print : Timestamp.read? t.print.toList = none := by
  have hyear := length_padded (by decide) t.parts_lt.1.1
  rw [toList_print]
  refine Timestamp.read?_eq_none ?_ isDigit_of_mem_padded (by decide) (by decide)
  exact List.ne_nil_of_length_eq_add_one hyear

open Iso

/-- The text of an instant is read as an ISO 8601 date. -/
theorem iso_read?_print : Iso.read? t.print.toList = some t.truncated := by
  obtain ⟨⟨hyear, hmonth, hday⟩, hhour, hminute, hsecond, hmilli⟩ := t.parts_lt
  have hyears := isField_padded (by decide) hyear
  have hmonths := isField_padded (by decide) hmonth
  have hdays := isField_padded (by decide) hday
  have hlong : ¬t.print.toList.length < 7 := by
    rw [String.length_toList, t.length_print]
    decide
  have hmicros : t.microOfDay < 86400000000 := t.microOfDay_lt
  rw [Iso.read?, if_neg hlong]
  have hstart := isRest_encode t.ascii_print
  generalize Text.Utf8.encode t.print.toList = b at hstart
  rw [toList_print] at hstart
  have hdate : readDate? b 10 = some t.date.dayNumber := by
    rw [hstart.readDate?_eq hyears hmonths hdays]
    simp only [digitsValue_padded]
    exact if_pos t.isValid_date
  have hafter : IsRest b 10 _ :=
    (((hstart.append hyears.1).tail.append hmonths.1).tail).append hdays.1
  have htime : readTime? b 10 = some (t.microOfDay / 1000 * 1000, 0) := by
    rw [hafter.readTime?_utc (isField_padded (by decide) hhour)
      (isField_padded (by decide) hminute) (isField_padded (by decide) hsecond)
      (isField_padded (by decide) hmilli) (by decide) (by decide)] <;>
      simp only [digitsValue_padded, Option.some.injEq, Prod.mk.injEq, and_true]
    · omega
    · omega
    · omega
    · omega
  rw [readOctets?, hstart.dateEnd?_eq hyears hmonths hdays]
  simp only [hdate, htime]
  rw [ofMicros?_eq_some_iff, ← date_truncated, ← microOfDay_truncated, ← micros_eq, sub_zero]

/-- The text of an instant is read as the instant, to the millisecond. -/
theorem ofText_print : ofText t.print = .ok (some t.truncated) := by
  rw [ofText]
  simp only [trim_print, timestamp_read?_print, iso_read?_print]

end Instant

/-- A condition that a builder of one date has made is made again from the date in it. -/
theorem BuilderKind.exists_condition_print {kind : BuilderKind} {raw : Value} {c : Document}
    (hkind : kind = .after ∨ kind = .before) (h : kind.condition raw = .ok (some c)) :
    ∃ tag p, c = [(tag, .str p)] ∧ kind.condition (.str p) = .ok (some c) := by
  have hagain : ∀ (tag : Tag) (t : Instant),
      (Instant.ofValue (.str t.print)).map (·.map (dateCondition tag)) =
        .ok (some (dateCondition tag t)) := by
    intro tag t
    rw [Instant.ofValue, Instant.ofText_print]
    simp only [Except.map, Option.map_some, dateCondition, Instant.print_truncated]
  rcases hkind with rfl | rfl <;> obtain ⟨t, rfl⟩ := exists_eq_dateCondition h
  · exact ⟨_, _, rfl, hagain .gte t⟩
  · exact ⟨_, _, rfl, hagain .lt t⟩

/-- Dates go round through their texts. The text of an instant has 24 characters and is read as the
    instant without what is beyond milliseconds. What is read as a date is printed the same when its
    text is read and printed again; and the date in what a builder of one date has put into a
    filter makes the builder put in the same again. -/
theorem Instant.print_roundTrip :
    (∀ t : Instant, t.print.length = 24 ∧ ofText t.print = .ok (some t.truncated)) ∧
    (∀ (raw : Value) (p : String), (ofValue raw).map (·.map print) = .ok (some p) →
      (ofValue (.str p)).map (·.map print) = .ok (some p)) ∧
    ∀ (kind : BuilderKind) (raw : Value) (c : Document), kind = .after ∨ kind = .before →
      kind.condition raw = .ok (some c) → ∃ tag p, c = [(tag, .str p)] ∧
        ∀ (field : String) (filter : Document),
          (Builder.bound kind field).run filter raw = .ok (filter.assign field (.doc c)) ∧
          (Builder.bound kind field).run filter (.str p) = .ok (filter.assign field (.doc c)) := by
  refine ⟨fun t => ⟨t.length_print, t.ofText_print⟩, ?_, ?_⟩
  · intro raw p h
    rcases hraw : ofValue raw with e | _ | t <;>
      simp only [hraw, Except.map, Option.map_none, Option.map_some, Except.ok.injEq,
        Option.some.injEq, reduceCtorEq] at h
    rw [← h, ofValue, ofText_print]
    simp only [Except.map, Option.map_some, print_truncated]
  · intro kind raw c hkind h
    obtain ⟨tag, p, hc, hagain⟩ := BuilderKind.exists_condition_print hkind h
    refine ⟨tag, p, hc, fun field filter => ?_⟩
    simp only [Builder.run, h, hagain, and_self]

/-- A date with an offset, to the microsecond. -/
theorem Instant.print_roundTrip_offset :
    (ofValue (.str "2014-09-22T13:50:37.843657+02:00")).map (·.map print) =
      .ok (some "2014-09-22T11:50:37.843Z") ∧
    (ofValue (.str "2014-09-22T11:50:37.843Z")).map (·.map print) =
      .ok (some "2014-09-22T11:50:37.843Z") ∧
    ∃ c, BuilderKind.after.condition (.str "2014-09-22T13:50:37.843657+02:00") = .ok (some c) ∧
      ∃ tag p, c = [(tag, .str p)] ∧ ∀ filter,
        (Builder.bound .after "made").run filter (.str p) =
          .ok (filter.assign "made" (.doc c)) := by
  have hread : (ofValue (.str "2014-09-22T13:50:37.843657+02:00")).map (·.map print) =
      .ok (some "2014-09-22T11:50:37.843Z") := by decide +kernel
  have hdate : IsDate "2014-09-22T13:50:37.843657+02:00" :=
    ⟨⟨63546983437843657, by decide⟩, by decide +kernel⟩
  obtain ⟨c, hc⟩ := BuilderKind.exists_condition_iff.2
    (show BuilderKind.after.Understands (.str "2014-09-22T13:50:37.843657+02:00") from hdate)
  obtain ⟨-, hagain, hbuilder⟩ := print_roundTrip
  obtain ⟨tag, p, hp, hrun⟩ := hbuilder _ _ c (.inl rfl) hc
  exact ⟨hread, hagain _ _ hread, c, hc, tag, p, hp, fun filter => (hrun "made" filter).2⟩

end QueryFilter
