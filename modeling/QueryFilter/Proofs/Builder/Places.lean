import QueryFilter.Proofs.Builder
import QueryFilter.Proofs.Grammar
import QueryFilter.Proofs.Scalar

/-!
# What is written for places

The builders of points and of rectangles, told by the parts that a text has between commas
(`HasNumber`). A builder writes a condition on any field of any filter (`BuilderKind.Writes`) or it
leaves all filters alone (`BuilderKind.Ignores`).

* `DistanceBounds.most?_read`, `DistanceBounds.least?_read_eq_some_iff`: the distances that are read;
* `NearPoint.near_exact`: when a point is written, and with which distances;
* `BoundingBox.bbox_exact`: when a rectangle is written, and with which corners.
-/

namespace QueryFilter

/-! ## Writing and ignoring -/

namespace BuilderKind

variable {kind : BuilderKind} {raw : Value} {c : Document}

/-- Whether the builder of a kind puts a condition on its field for a value, whatever the field and
    the filter. -/
def Writes (kind : BuilderKind) (raw : Value) (c : Document) : Prop :=
  ∀ field filter, (Builder.bound kind field).run filter raw = .ok (filter.assign field (.doc c))

/-- Whether it leaves all filters as they are. -/
def Ignores (kind : BuilderKind) (raw : Value) : Prop :=
  ∀ field filter, (Builder.bound kind field).run filter raw = .ok filter

/-- What is written is the condition of the value. -/
theorem writes_iff : kind.Writes raw c ↔ kind.condition raw = .ok (some c) := by
  constructor
  · intro h
    have hrun := h "" []
    rw [Builder.run] at hrun
    split at hrun
    next => simp at hrun
    next => exact absurd (Except.ok.inj hrun).symm (Entries.assign_ne_nil [] "" _)
    next c' hc =>
      simp only [Entries.assign, Except.ok.injEq, List.cons.injEq, Prod.mk.injEq, Value.doc.injEq,
        true_and, and_true] at hrun
      rw [hc, hrun]
  · intro h field filter
    rw [Builder.run, h]

/-- A builder that does not fail on a value writes a condition or leaves all filters alone. -/
theorem ignores_of_forall_not_writes {c? : Option Document} (h : kind.condition raw = .ok c?)
    (hwrites : ∀ c, ¬kind.Writes raw c) : kind.Ignores raw := by
  cases c? with
  | none => exact fun _ _ => Builder.run_bound_of_none h
  | some c => exact absurd (writes_iff.2 h) (hwrites c)

end BuilderKind

/-! ## Parts that are numbers -/

/-- Whether a text is a numeral for a number. -/
def SaysNumber (cs : List Char) (x : FiniteDouble) : Prop :=
  ∃ n : Numeral, n.IsWritten cs ∧ n.IsNumber x

/-- Whether the part of a text at some place between commas is a numeral for a number. -/
def HasNumber (raw : String) (i : ℕ) (x : FiniteDouble) : Prop :=
  ∃ part, (Text.splitOn ',' raw.toList)[i]? = some part ∧ SaysNumber part x

variable {raw : String} {i : ℕ} {cs : List Char} {x : FiniteDouble}

/-- The number of a numeral is what is read of it. -/
theorem ofNumeral?_eq_some_iff_saysNumber :
    FiniteDouble.ofNumeral? cs = some x ↔ SaysNumber cs x :=
  FiniteDouble.ofNumeral?_eq_some_iff

/-- The number of a part is what is read of it. -/
theorem hasNumber_iff : HasNumber raw i x ↔
    (Text.splitOn ',' raw.toList)[i]?.bind FiniteDouble.ofNumeral? = some x := by
  simp only [HasNumber, Option.bind_eq_some_iff, ofNumeral?_eq_some_iff_saysNumber]

/-- A part that has a number is there. -/
theorem HasNumber.lt_length (h : HasNumber raw i x) : i < (Text.splitOn ',' raw.toList).length := by
  obtain ⟨part, hpart, -⟩ := h
  exact (List.getElem?_eq_some_iff.1 hpart).1

/-- The numerals are the texts that are read as numbers wherever numbers are looked for, and the
    numbers are the same. -/
theorem saysNumber_iff_read {coercion : Coercion} (h : coercion.toNumber = true) :
    SaysNumber cs x ↔ Scalar.read coercion (String.ofList cs) = .num x := by
  have hcs : (String.ofList cs).toList = cs := String.toList_ofList
  constructor
  · rintro ⟨n, hwritten, hnumber⟩
    exact Scalar.read_eq_of_isReading (.num h (hcs.symm ▸ hwritten) hnumber)
  · intro hread
    have hreading := Scalar.isReading_read coercion (String.ofList cs)
    rw [hread] at hreading
    cases hreading with
    | num hcoercion hwritten hnumber => exact ⟨_, hcs ▸ hwritten, hnumber⟩

/-- The numerals are the texts that are read as numbers in general, and they say the same numbers. -/
theorem isNumeral_iff_saysNumber (cs : List Char) :
    (isNumeral (String.ofList cs) = true ↔ ∃ x, SaysNumber cs x) ∧
      ∀ coercion x, coercion.toNumber = true →
        (SaysNumber cs x ↔ Scalar.read coercion (String.ofList cs) = .num x) := by
  refine ⟨?_, fun coercion x h => saysNumber_iff_read h⟩
  simp only [isNumeral_ofList_iff, ofNumeral?_eq_some_iff_saysNumber]

/-! ## Distances -/

namespace DistanceBounds

/-- The largest distance is the first part. -/
theorem most?_read (parts : List (List Char)) :
    (read parts).most? = parts[0]?.bind FiniteDouble.ofNumeral? := by
  cases parts with
  | nil => rfl
  | cons most rest =>
    rw [read, List.getElem?_cons_zero, Option.bind_some]
    cases FiniteDouble.ofNumeral? most with
    | none => rfl
    | some x => cases rest.head?.bind FiniteDouble.ofNumeral? <;> rfl

/-- The smallest distance is the second part, if there is a largest distance. -/
theorem least?_read_eq_some_iff {parts : List (List Char)} : (read parts).least? = some x ↔
    (∃ y, parts[0]?.bind FiniteDouble.ofNumeral? = some y) ∧
      parts[1]?.bind FiniteDouble.ofNumeral? = some x := by
  cases parts with
  | nil => simp [read, least?]
  | cons most rest =>
    rw [read, List.getElem?_cons_zero, Option.bind_some, List.getElem?_cons_succ,
      ← List.head?_eq_getElem?]
    cases FiniteDouble.ofNumeral? most with
    | none => simp [least?]
    | some y => cases rest.head?.bind FiniteDouble.ofNumeral? <;> simp [least?]

/-- The entries of distances: the largest one, and after it the smallest one. -/
theorem names_entries (d : DistanceBounds) :
    d.entries.names <+: ["$maxDistance", "$minDistance"] := by
  cases d with
  | unbounded => exact List.nil_prefix
  | upTo most => exact ⟨["$minDistance"], rfl⟩
  | between most least => exact ⟨[], rfl⟩

/-- Bounds are told by the two distances. -/
theorem eq_of_most?_of_least? {d e : DistanceBounds} (hmost : d.most? = e.most?)
    (hleast : d.least? = e.least?) : d = e := by
  cases d <;> cases e <;> simp_all [most?, least?]

end DistanceBounds

/-! ## Points -/

namespace NearPoint

/-- The point of a text, by the parts of the text. -/
theorem read?_eq_some_iff_hasNumber {p : NearPoint} : read? raw = some p ↔
    HasNumber raw 0 p.lon ∧ HasNumber raw 1 p.lat ∧
      (∀ x, p.distance.most? = some x ↔ HasNumber raw 2 x) ∧
        ∀ x, p.distance.least? = some x ↔ (∃ y, HasNumber raw 2 y) ∧ HasNumber raw 3 x := by
  rw [read?_eq_some_iff]
  constructor
  · rintro ⟨p₀, p₁, rest, hparts, h₀, h₁, hd⟩
    simp only [hasNumber_iff, hparts, hd, DistanceBounds.most?_read,
      DistanceBounds.least?_read_eq_some_iff]
    exact ⟨h₀, h₁, fun x => Iff.rfl, fun x => Iff.rfl⟩
  · rintro ⟨h₀, h₁, hmost, hleast⟩
    simp only [hasNumber_iff] at h₀ h₁ hmost hleast
    rcases hparts : Text.splitOn ',' raw.toList with _ | ⟨p₀, _ | ⟨p₁, rest⟩⟩
    · simp [hparts] at h₀
    · simp [hparts] at h₁
    · rw [hparts] at h₀ h₁ hmost hleast
      have hdistance : p.distance = .read rest := by
        refine DistanceBounds.eq_of_most?_of_least? ?_ ?_
        · rw [DistanceBounds.most?_read]
          exact Option.ext hmost
        · exact Option.ext fun x =>
            (hleast x).trans DistanceBounds.least?_read_eq_some_iff.symm
      exact ⟨p₀, p₁, rest, rfl, h₀, h₁, hdistance⟩

/-- The texts that are points: there are two parts, and they are numerals. -/
theorem exists_read?_iff_hasNumber : (∃ p, read? raw = some p) ↔
    (∃ lon, HasNumber raw 0 lon) ∧ ∃ lat, HasNumber raw 1 lat := by
  simp only [exists_read?_iff, List.forall_mem_cons, isNumeral_ofList_iff, hasNumber_iff]
  rcases Text.splitOn ',' raw.toList with _ | ⟨p₀, _ | ⟨p₁, rest⟩⟩ <;> simp

/-- The condition of a point, entry by entry. -/
theorem condition_eq (p : NearPoint) : p.condition =
    [("$near", .doc (("$geometry", point p.lon p.lat) :: p.distance.entries))] := rfl

/-- The values in the condition of a point. -/
theorem get?_condition (p : NearPoint) :
    Entries.get? (("$geometry", point p.lon p.lat) :: p.distance.entries) "$geometry" =
        some (point p.lon p.lat) ∧
      Entries.get? (("$geometry", point p.lon p.lat) :: p.distance.entries) "$maxDistance" =
        p.distance.most?.map (fun x => .num (.finite x)) ∧
      Entries.get? (("$geometry", point p.lon p.lat) :: p.distance.entries) "$minDistance" =
        p.distance.least?.map (fun x => .num (.finite x)) := by
  cases p.distance <;> exact ⟨rfl, rfl, rfl⟩

/-- The builder of points writes what is read. -/
theorem writes_iff {c : Document} : BuilderKind.near.Writes (.str raw) c ↔
    ∃ p, read? raw = some p ∧ p.condition = c := by
  rw [BuilderKind.writes_iff, BuilderKind.condition, ofValue?, Value.str?, Option.bind_some,
    Except.ok.injEq, Option.map_eq_some_iff]

/-- The point of a text is read of its first four parts. -/
theorem read?_eq_of_take_eq {raw' : String}
    (h : (Text.splitOn ',' raw'.toList).take 4 = (Text.splitOn ',' raw.toList).take 4) :
    read? raw' = read? raw := by
  have hpart : ∀ i < 4, ∀ x, HasNumber raw' i x ↔ HasNumber raw i x := by
    intro i hi x
    rw [hasNumber_iff, hasNumber_iff, ← List.getElem?_take_of_lt hi, h, List.getElem?_take_of_lt hi]
  refine Option.ext fun p => ?_
  simp only [read?_eq_some_iff_hasNumber, hpart 0 (by decide), hpart 1 (by decide),
    hpart 2 (by decide), hpart 3 (by decide)]

/-- The builder of points writes exactly if the first two of the parts between commas are numerals,
    and otherwise leaves all filters alone. It writes the point that they say; a largest distance
    exactly if the third part is a numeral, which it says; and a smallest one exactly if the fourth
    part is a numeral as well. Nothing else is in the condition, all numbers in it are finite, and
    what comes after the fourth part has no part in it. The numerals are the texts that are read as
    numbers in general, and they say the same numbers. -/
theorem near_exact (raw : String) :
    ((∃ c, BuilderKind.near.Writes (.str raw) c) ↔
      2 ≤ (Text.splitOn ',' raw.toList).length ∧
        (∃ lon, HasNumber raw 0 lon) ∧ ∃ lat, HasNumber raw 1 lat) ∧
    ((∀ c, ¬BuilderKind.near.Writes (.str raw) c) → BuilderKind.near.Ignores (.str raw)) ∧
    (∀ c, BuilderKind.near.Writes (.str raw) c → ∃ lon lat d,
      HasNumber raw 0 lon ∧ HasNumber raw 1 lat ∧ c = [("$near", .doc d)] ∧
      Entries.names d <+: ["$geometry", "$maxDistance", "$minDistance"] ∧
      Entries.get? d "$geometry" = some (point lon lat) ∧
      (∀ v, Entries.get? d "$maxDistance" = some v ↔
        ∃ most, HasNumber raw 2 most ∧ v = .num (.finite most)) ∧
      (∀ v, Entries.get? d "$minDistance" = some v ↔
        ∃ most least, HasNumber raw 2 most ∧ HasNumber raw 3 least ∧ v = .num (.finite least)) ∧
      (Value.doc c).IsFinite) ∧
    (∀ raw' : String,
      (Text.splitOn ',' raw'.toList).take 4 = (Text.splitOn ',' raw.toList).take 4 →
        ∀ field filter, (Builder.bound .near field).run filter (.str raw') =
          (Builder.bound .near field).run filter (.str raw)) ∧
    ∀ cs, (isNumeral (String.ofList cs) = true ↔ ∃ x, SaysNumber cs x) ∧
      ∀ coercion x, coercion.toNumber = true →
        (SaysNumber cs x ↔ Scalar.read coercion (String.ofList cs) = .num x) := by
  refine ⟨?_, BuilderKind.ignores_of_forall_not_writes rfl, fun c h => ?_,
    fun raw' h field filter => ?_, isNumeral_iff_saysNumber⟩
  · have hwrites : (∃ c, BuilderKind.near.Writes (.str raw) c) ↔ ∃ p, read? raw = some p := by
      simp only [writes_iff]
      exact ⟨fun ⟨_, p, hp, _⟩ => ⟨p, hp⟩, fun ⟨p, hp⟩ => ⟨_, p, hp, rfl⟩⟩
    rw [hwrites, exists_read?_iff_hasNumber]
    exact ⟨fun h => ⟨h.2.choose_spec.lt_length, h⟩, fun h => h.2⟩
  · obtain ⟨p, hp, rfl⟩ := writes_iff.1 h
    obtain ⟨hlon, hlat, hmost, hleast⟩ := read?_eq_some_iff_hasNumber.1 hp
    obtain ⟨hgeometry, hmax, hmin⟩ := p.get?_condition
    refine ⟨p.lon, p.lat, _, hlon, hlat, p.condition_eq, ?_, hgeometry, fun v => ?_, fun v => ?_,
      p.isCondition_condition.isFinite⟩
    · exact (List.prefix_cons_inj _).2 p.distance.names_entries
    · simp only [hmax, Option.map_eq_some_iff, hmost, @eq_comm _ v]
    · simp only [hmin, Option.map_eq_some_iff, hleast, @eq_comm _ v]
      exact ⟨fun ⟨least, ⟨⟨most, h₂⟩, h₃⟩, hv⟩ => ⟨most, least, h₂, h₃, hv⟩,
        fun ⟨most, least, h₂, h₃, hv⟩ => ⟨least, ⟨⟨most, h₂⟩, h₃⟩, hv⟩⟩
  · simp only [Builder.run, BuilderKind.condition, ofValue?, Value.str?, Option.bind_some,
      read?_eq_of_take_eq h]

/-- A smallest distance alone does not count, but a largest one that is nothing does. -/
example : (read? "1,2,x,3").map (·.distance) = some .unbounded ∧
    (read? "1,2,0").any (·.distance.most?.isSome) = true := by
  decide +kernel

end NearPoint

/-! ## Rectangles -/

/-- A polygon with one ring of points, each with its longitude and its latitude. -/
def polygon (ring : List (FiniteDouble × FiniteDouble)) : Value :=
  .doc [("type", .str "Polygon"),
    ("coordinates", .list [.list (ring.map fun p => position p.1 p.2)])]

/-- Whether a path goes along a parallel first, then along a meridian, and so on in turn: only the
    longitude changes, and then only the latitude. -/
def Alternates (path : List (FiniteDouble × FiniteDouble)) : Prop :=
  ∀ i p q, path[i]? = some p → path[i + 1]? = some q → if i % 2 = 0 then p.2 = q.2 else p.1 = q.1

namespace BoundingBox

/-- The corners of a rectangle, around from the first one and back to it. -/
def corners (b : BoundingBox) : List (FiniteDouble × FiniteDouble) :=
  [(b.minLon, b.minLat), (b.maxLon, b.minLat), (b.maxLon, b.maxLat), (b.minLon, b.maxLat),
    (b.minLon, b.minLat)]

/-- The condition of a rectangle is the polygon of its corners. -/
theorem condition_eq (b : BoundingBox) :
    b.condition = [("$geoWithin", .doc [("$geometry", polygon b.corners)])] := rfl

/-- Along the corners longitude and latitude change in turn. -/
theorem alternates_corners (b : BoundingBox) : Alternates b.corners := by
  intro i p q hp hq
  match i with
  | 0 | 1 | 2 | 3 =>
    obtain rfl := Option.some.inj hp
    obtain rfl := Option.some.inj hq
    rfl
  | i + 4 => simp [corners] at hq

/-- The corners are the points with one of the two longitudes and one of the two latitudes. -/
theorem mem_corners {b : BoundingBox} {p : FiniteDouble × FiniteDouble} : p ∈ b.corners ↔
    (p.1 = b.minLon ∨ p.1 = b.maxLon) ∧ (p.2 = b.minLat ∨ p.2 = b.maxLat) := by
  simp only [corners, List.mem_cons, Prod.ext_iff, List.not_mem_nil, or_false]
  tauto

/-- The rectangle of a text, by the parts of the text. -/
theorem read?_eq_some_iff_hasNumber {b : BoundingBox} : read? raw = some b ↔
    (Text.splitOn ',' raw.toList).length = 4 ∧ HasNumber raw 0 b.minLon ∧ HasNumber raw 1 b.minLat ∧
      HasNumber raw 2 b.maxLon ∧ HasNumber raw 3 b.maxLat := by
  rw [read?_eq_some_iff]
  simp only [hasNumber_iff]
  rcases Text.splitOn ',' raw.toList with
    _ | ⟨p₀, _ | ⟨p₁, _ | ⟨p₂, _ | ⟨p₃, _ | ⟨p₄, rest⟩⟩⟩⟩⟩ <;> simp

/-- The builder of rectangles writes what is read. -/
theorem writes_iff {c : Document} : BuilderKind.bbox.Writes (.str raw) c ↔
    ∃ b, read? raw = some b ∧ b.condition = c := by
  rw [BuilderKind.writes_iff, BuilderKind.condition, ofValue?, Value.str?, Option.bind_some,
    Except.ok.injEq, Option.map_eq_some_iff]

/-- The builder of rectangles writes exactly if there are four parts between commas and all of them
    are numerals, and otherwise leaves all filters alone. It writes a polygon whose ring has five
    points and ends where it begins: from the point that the first two parts say along the parallel
    to the longitude of the third part, along the meridian to the latitude of the fourth, and back in
    the same way. All its numbers are finite. The numerals are the texts that are read as numbers in
    general, and they say the same numbers. -/
theorem bbox_exact (raw : String) :
    ((∃ c, BuilderKind.bbox.Writes (.str raw) c) ↔
      (Text.splitOn ',' raw.toList).length = 4 ∧ ∀ i < 4, ∃ x, HasNumber raw i x) ∧
    ((∀ c, ¬BuilderKind.bbox.Writes (.str raw) c) → BuilderKind.bbox.Ignores (.str raw)) ∧
    (∀ c, BuilderKind.bbox.Writes (.str raw) c → ∃ w s e n ring,
      HasNumber raw 0 w ∧ HasNumber raw 1 s ∧ HasNumber raw 2 e ∧ HasNumber raw 3 n ∧
      c = [("$geoWithin", .doc [("$geometry", polygon ring)])] ∧
      ring = [(w, s), (e, s), (e, n), (w, n), (w, s)] ∧ ring.length = 5 ∧
      ring.getLast? = ring.head? ∧ Alternates ring ∧
      (∀ p, p ∈ ring ↔ (p.1 = w ∨ p.1 = e) ∧ (p.2 = s ∨ p.2 = n)) ∧
      (Value.doc c).IsFinite) ∧
    ∀ cs, (isNumeral (String.ofList cs) = true ↔ ∃ x, SaysNumber cs x) ∧
      ∀ coercion x, coercion.toNumber = true →
        (SaysNumber cs x ↔ Scalar.read coercion (String.ofList cs) = .num x) := by
  refine ⟨?_, BuilderKind.ignores_of_forall_not_writes rfl, fun c h => ?_, isNumeral_iff_saysNumber⟩
  · simp only [writes_iff, read?_eq_some_iff_hasNumber]
    constructor
    · rintro ⟨-, b, ⟨hlen, h₀, h₁, h₂, h₃⟩, -⟩
      refine ⟨hlen, fun i hi => ?_⟩
      match i with
      | 0 => exact ⟨_, h₀⟩
      | 1 => exact ⟨_, h₁⟩
      | 2 => exact ⟨_, h₂⟩
      | 3 => exact ⟨_, h₃⟩
    · rintro ⟨hlen, h⟩
      obtain ⟨w, h₀⟩ := h 0 (by decide)
      obtain ⟨s, h₁⟩ := h 1 (by decide)
      obtain ⟨e, h₂⟩ := h 2 (by decide)
      obtain ⟨n, h₃⟩ := h 3 (by decide)
      exact ⟨_, ⟨w, s, e, n⟩, ⟨hlen, h₀, h₁, h₂, h₃⟩, rfl⟩
  · obtain ⟨b, hb, rfl⟩ := writes_iff.1 h
    obtain ⟨-, h₀, h₁, h₂, h₃⟩ := read?_eq_some_iff_hasNumber.1 hb
    exact ⟨b.minLon, b.minLat, b.maxLon, b.maxLat, b.corners, h₀, h₁, h₂, h₃, b.condition_eq, rfl,
      rfl, rfl, b.alternates_corners, fun p => mem_corners, b.isCondition_condition.isFinite⟩

end BoundingBox

end QueryFilter
