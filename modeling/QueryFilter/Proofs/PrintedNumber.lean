import QueryFilter.Proofs.Geometry
import QueryFilter.Proofs.Number.Layout
import QueryFilter.Proofs.Scalar
import QueryFilter.Proofs.Text.Split

/-!
# Printed numbers

A member of the binary format is printed as a shortest decimal number, in one of two layouts, and
the printed text is read as that member again, wherever numbers are read: as a scalar, and as a
coordinate between commas (`FiniteDouble.text_readsBack`).
-/

namespace QueryFilter

namespace FiniteDouble

/-- A printed number is a numeral, and the number of the numeral. -/
theorem exists_isWritten_text (x : FiniteDouble) :
    ∃ n : Numeral, n.IsWritten x.text ∧ n.IsNumber x := by
  obtain ⟨n, hn, hsign, hsize⟩ := Decimal.exists_isWritten_text numberLayout (Decimal.shortest x)
  obtain ⟨hnegative, hread⟩ :=
    Decimal.toDouble_eq_finite_iff.1 (Decimal.isShortest_shortest x).readsBack
  refine ⟨n, hn, Numeral.toDouble_eq_finite_iff.1 (Decimal.toDouble_eq_finite_iff.2 ⟨?_, ?_⟩)⟩
  · exact hsign.trans hnegative
  · rwa [hsize]

/-- A printed number is read as the number. -/
theorem ofNumeral?_text (x : FiniteDouble) : ofNumeral? x.text = some x :=
  ofNumeral?_eq_some_iff.2 x.exists_isWritten_text

end FiniteDouble

/-- There is no comma in a numeral. -/
theorem Numeral.IsWritten.comma_not_mem {n : Numeral} {cs : List Char} (h : n.IsWritten cs) :
    ',' ∉ cs := by
  obtain ⟨negative, whole, ds, exponent⟩ := n
  obtain ⟨-, hwhole, before, sign, fraction, power, after, hbefore, hsign, hfraction, hpower,
    hafter, rfl⟩ := h
  have hdigits : ∀ {ds : List Char}, (∀ c ∈ ds, c.isDigit = true) → ',' ∉ ds := fun hds hmem =>
    absurd (hds _ hmem) (by decide)
  have hblanks : ∀ {bs : List Char}, (∀ c ∈ bs, Text.isAsciiBlank c = true) → ',' ∉ bs :=
    fun hbs hmem => absurd (hbs _ hmem) (by decide)
  have hsigns : ∀ {negative : Bool} {sign : List Char}, IsSign negative sign → ',' ∉ sign := by
    intro negative sign hsign
    cases hsign <;> simp
  have hpoint : ',' ∉ fraction := by
    cases hfraction with
    | none => exact List.not_mem_nil
    | point hds => exact List.not_mem_cons_of_ne_of_not_mem (by decide) (hdigits hds)
  have hexponent : ',' ∉ power := by
    cases hpower with
    | none => exact List.not_mem_nil
    | power he hpowerSign hne hds =>
      refine List.not_mem_cons_of_ne_of_not_mem ?_ ?_
      · rcases he with rfl | rfl <;> decide
      · exact fun hmem => (List.mem_append.1 hmem).elim (hsigns hpowerSign) (hdigits hds)
  simp only [List.mem_append, not_or]
  exact ⟨hblanks hbefore, hsigns hsign, hdigits hwhole, hpoint, hexponent, hblanks hafter⟩

namespace BoundingBox

/-- The four numbers of a rectangle, printed between commas. -/
def text (b : BoundingBox) : String :=
  String.ofList (Text.joinWith [','] [b.minLon.text, b.minLat.text, b.maxLon.text, b.maxLat.text])

/-- A printed rectangle is read as the rectangle. -/
theorem read?_text (b : BoundingBox) : read? b.text = some b := by
  have hcomma : ∀ x : FiniteDouble, ',' ∉ x.text := by
    intro x
    obtain ⟨n, hn, -⟩ := x.exists_isWritten_text
    exact hn.comma_not_mem
  refine read?_eq_some_iff.2 ⟨_, _, _, _, ?_, b.minLon.ofNumeral?_text, b.minLat.ofNumeral?_text,
    b.maxLon.ofNumeral?_text, b.maxLat.ofNumeral?_text⟩
  rw [text, String.toList_ofList, Text.splitOn_joinWith (List.cons_ne_nil _ _)]
  simp [hcomma]

end BoundingBox

namespace FiniteDouble

/-- A printed number is a scalar, and it is read as the number if numbers are looked for. -/
theorem read_text {coercion : Coercion} (h : coercion.toNumber = true) (x : FiniteDouble) :
    Scalar.read coercion (String.ofList x.text) = .num x := by
  obtain ⟨n, hn, hnumber⟩ := x.exists_isWritten_text
  refine Scalar.read_eq_of_isReading (.num h ?_ hnumber)
  rwa [String.toList_ofList]

/-- Every member of the binary format is printed as a shortest decimal number for it; the text is a
    numeral, and it is read as the member again. So a text that was read as a number can be replaced
    by the printed number, and four numbers printed between commas are the rectangle of these
    numbers. -/
theorem text_readsBack :
    (∀ x : FiniteDouble, (∃ d : Decimal, d.IsShortest x ∧ x.text = d.text numberLayout) ∧
      isNumeral (String.ofList x.text) = true ∧
      ∀ coercion : Coercion, coercion.toNumber = true →
        Scalar.read coercion (String.ofList x.text) = .num x) ∧
    (∀ (coercion : Coercion) (s : String) (x : FiniteDouble), Scalar.read coercion s = .num x →
      Scalar.read coercion (String.ofList x.text) = .num x) ∧
    ∀ b : BoundingBox, BoundingBox.read? b.text = some b := by
  refine ⟨fun x => ⟨⟨Decimal.shortest x, Decimal.isShortest_shortest x, rfl⟩, ?_, fun coercion h =>
    read_text h x⟩, fun coercion s x h => ?_, BoundingBox.read?_text⟩
  · exact isNumeral_ofList_iff.2 ⟨x, x.ofNumeral?_text⟩
  · -- Only where numbers are looked for, a text is read as one.
    have hreading := Scalar.isReading_read coercion s
    rw [h] at hreading
    cases hreading with
    | num hcoercion hwritten hnumber => exact read_text hcoercion x

/-- A numeral of many digits is read as a number with a shorter text. -/
theorem text_readsBack_long :
    ∃ x : FiniteDouble, Scalar.read ⟨true, true⟩ " 99999999999999991611392" = .num x ∧
      String.ofList x.text = "1e+23" ∧ Scalar.read ⟨true, true⟩ "1e+23" = .num x := by
  let x : FiniteDouble := ⟨false, 5960464477539062, 1098, by decide, by decide, by decide⟩
  have hread : Scalar.read ⟨true, true⟩ " 99999999999999991611392" = .num x := by decide +kernel
  have htext : String.ofList x.text = "1e+23" := by decide +kernel
  refine ⟨x, hread, htext, ?_⟩
  rw [← htext]
  exact text_readsBack.2.1 _ _ _ hread

example : (FiniteDouble.zero true).text = "-0.0".toList := by decide +kernel

end FiniteDouble

end QueryFilter
