import QueryFilter.Proofs.Builder.Places
import QueryFilter.Proofs.Text.Split
import Mathlib.Data.Option.NAry

/-!
# Ranges of dates

The builder of two dates is that of a date from which on something holds and that of a date
before which it does, together: each of the two dates is what the text has on its side of the
bar, with all its blanks, and both must be dates.

* `exists_splitOn_range`: the two sides of a bar;
* `condition_range`: what is said by two dates, from what each of them says;
* `between_exact`: when a range is written, and that nothing is written otherwise.
-/

namespace QueryFilter.BuilderKind

variable {a b c : String}

/-- The parts of a text that begins with two parts without a bar. -/
theorem exists_splitOn_range (ha : '|' ∉ a.toList) (hb : '|' ∉ b.toList)
    (hc : c = "" ∨ ∃ more, c = "|" ++ more) :
    ∃ rest, Text.splitOn '|' (a ++ "|" ++ b ++ c).toList = a.toList :: b.toList :: rest := by
  have htext : (a ++ "|" ++ b ++ c).toList = a.toList ++ '|' :: (b.toList ++ c.toList) := by
    simp [String.toList_append]
  rw [htext, Text.splitOn_append_cons, Text.splitOn_of_not_mem ha]
  rcases hc with rfl | ⟨more, rfl⟩
  · refine ⟨[], ?_⟩
    rw [String.toList_empty, List.append_nil, Text.splitOn_of_not_mem hb]
    rfl
  · refine ⟨Text.splitOn '|' more.toList, ?_⟩
    have hmore : ("|" ++ more).toList = '|' :: more.toList := String.toList_append
    rw [hmore, Text.splitOn_append_cons, Text.splitOn_of_not_mem hb]
    rfl

/-- The bounds of a range are those of its two dates, and it fails if reading one of them does. -/
theorem condition_range (ha : '|' ∉ a.toList) (hb : '|' ∉ b.toList)
    (hc : c = "" ∨ ∃ more, c = "|" ++ more) :
    between.condition (.str (a ++ "|" ++ b ++ c)) = (do
      let lower? ← after.condition (.str a)
      let upper? ← before.condition (.str b)
      return Option.map₂ Entries.update lower? upper?) := by
  obtain ⟨rest, hparts⟩ := exists_splitOn_range ha hb hc
  simp only [condition, betweenCondition, hparts, String.ofList_toList, Instant.ofValue]
  rcases Instant.ofText a with e | _ | start
  · rfl
  · rcases Instant.ofText b with e | _ | stop <;> rfl
  · rcases Instant.ofText b with e | _ | stop <;> rfl

/-- A text without a bar says no range. -/
theorem condition_between_of_not_mem {s : String} (h : '|' ∉ s.toList) :
    between.condition (.str s) = .ok none := by
  rw [condition, betweenCondition, Text.splitOn_of_not_mem h]
  rfl

/-- A builder of one date does not fail on a text that can be read. -/
theorem exists_dateCondition (tag : Tag) {s : String} (h : ∀ e, Instant.ofText s ≠ .error e) :
    ∃ d?, (Instant.ofValue (.str s)).map (·.map (dateCondition tag)) = .ok d? := by
  rw [Instant.ofValue]
  cases hs : Instant.ofText s with
  | error e => exact absurd hs (h e)
  | ok t? => exact ⟨_, rfl⟩

/-- The builder of two dates writes exactly if the builder of a first date writes for what is before
    the bar, and the builder of a last date for what is between it and the next bar or the end. It
    writes both bounds then, the lower one first, and otherwise leaves all filters alone. It also
    leaves them alone if the text has no bar or the value is no text. -/
theorem between_exact :
    (∀ a b c : String, '|' ∉ a.toList → '|' ∉ b.toList → (c = "" ∨ ∃ more, c = "|" ++ more) →
      (∀ e, Instant.ofText a ≠ .error e) → (∀ e, Instant.ofText b ≠ .error e) →
      ((∃ d, between.Writes (.str (a ++ "|" ++ b ++ c)) d) ↔
        (∃ d, after.Writes (.str a) d) ∧ ∃ d, before.Writes (.str b) d) ∧
      (∀ d₁ d₂, after.Writes (.str a) d₁ → before.Writes (.str b) d₂ →
        between.Writes (.str (a ++ "|" ++ b ++ c)) (d₁.update d₂) ∧
          Entries.names d₁ = ["$gte"] ∧ Entries.names d₂ = ["$lt"] ∧ d₁.update d₂ = d₁ ++ d₂) ∧
      ((∀ d, ¬between.Writes (.str (a ++ "|" ++ b ++ c)) d) →
        between.Ignores (.str (a ++ "|" ++ b ++ c)))) ∧
    (∀ s : String, '|' ∉ s.toList → between.Ignores (.str s)) ∧
    ∀ raw : Value, (∀ s, raw ≠ .str s) → between.Ignores raw := by
  refine ⟨fun a b c ha hb hc hread₁ hread₂ => ?_, fun s h _ _ => ?_, fun raw h _ _ => ?_⟩
  · obtain ⟨lower?, hlower : after.condition (.str a) = .ok lower?⟩ :=
      exists_dateCondition .gte hread₁
    obtain ⟨upper?, hupper : before.condition (.str b) = .ok upper?⟩ :=
      exists_dateCondition .lt hread₂
    have hrange : between.condition (.str (a ++ "|" ++ b ++ c)) =
        .ok (Option.map₂ Entries.update lower? upper?) := by
      rw [condition_range ha hb hc, hlower, hupper]
      rfl
    refine ⟨?_, fun d₁ d₂ h₁ h₂ => ⟨?_, ?_⟩, ignores_of_forall_not_writes hrange⟩
    · simp only [writes_iff, hrange, hlower, hupper, Except.ok.injEq]
      cases lower? <;> cases upper? <;> simp
    · rw [writes_iff, hlower, Except.ok.injEq] at h₁
      rw [writes_iff, hupper, Except.ok.injEq] at h₂
      rw [writes_iff, hrange, h₁, h₂]
      rfl
    · obtain ⟨t, rfl⟩ := exists_eq_dateCondition (writes_iff.1 h₁)
      obtain ⟨u, rfl⟩ := exists_eq_dateCondition (writes_iff.1 h₂)
      exact ⟨rfl, rfl, rfl⟩
  · exact Builder.run_bound_of_none (condition_between_of_not_mem h)
  · refine Builder.run_bound_of_none ?_
    cases raw with
    | str s => exact absurd rfl (h s)
    | _ => rfl

/-- A date with blanks around it and a timestamp in seconds, with something after a second bar; and
    a date whose range has no end. -/
theorem between_exact_padded :
    between.Writes (.str " 2014-01-01 |1411386637|x")
      [("$gte", .str "2014-01-01T00:00:00.000Z"), ("$lt", .str "2014-09-22T11:50:37.000Z")] ∧
    between.Ignores (.str "2014-01-01|") := by
  have hread : ∀ s ∈ [" 2014-01-01 ", "1411386637", "2014-01-01", ""],
      ∀ e, Instant.ofText s ≠ .error e := by
    intro s hs e he
    have hok : ∀ s ∈ [" 2014-01-01 ", "1411386637", "2014-01-01", ""],
        (Instant.ofText s).isOk = true := by decide +kernel
    simpa [he, Except.isOk, Except.toBool] using hok s hs
  obtain ⟨hranges, -⟩ := between_exact
  constructor
  · obtain ⟨-, hwrites, -⟩ := hranges " 2014-01-01 " "1411386637" "|x" (by decide) (by decide)
      (.inr ⟨"x", rfl⟩) (hread _ (by simp)) (hread _ (by simp))
    exact (hwrites [("$gte", .str "2014-01-01T00:00:00.000Z")]
      [("$lt", .str "2014-09-22T11:50:37.000Z")] (writes_iff.2 (by decide +kernel))
      (writes_iff.2 (by decide +kernel))).1
  · obtain ⟨hboth, -, hignores⟩ := hranges "2014-01-01" "" "" (by decide) (by decide) (.inl rfl)
      (hread _ (by simp)) (hread _ (by simp))
    refine hignores fun d hd => ?_
    obtain ⟨-, d₂, hd₂⟩ := hboth.1 ⟨d, hd⟩
    rw [writes_iff] at hd₂
    have hnone : before.condition (.str "") = .ok none := by decide +kernel
    simp [hnone] at hd₂

end QueryFilter.BuilderKind
