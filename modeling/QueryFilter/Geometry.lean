import QueryFilter.Number.Numeral
import QueryFilter.Tag
import QueryFilter.Text.Split
import QueryFilter.Value

/-!
# Geometry

Areas and points that a field can be compared with, written as numerals between
commas: the bounding box `minLon,minLat,maxLon,maxLat`, and the point `lon,lat` with
a largest and a smallest distance that may follow it. The conditions they put on a
field are documents with a GeoJSON geometry.
-/

namespace QueryFilter

/-- A list of numbers as a value. -/
def coordinates (xs : List FiniteDouble) : Value :=
  .list (xs.map fun x => .num (.finite x))

/-- A rectangle. -/
structure BoundingBox where
  minLon : FiniteDouble
  minLat : FiniteDouble
  maxLon : FiniteDouble
  maxLat : FiniteDouble
deriving DecidableEq

namespace BoundingBox

/-- The rectangle of a text of exactly four numerals. -/
def read? (s : String) : Option BoundingBox :=
  match (Text.splitOn ',' s.toList).map FiniteDouble.ofNumeral? with
  | [some minLon, some minLat, some maxLon, some maxLat] => some ⟨minLon, minLat, maxLon, maxLat⟩
  | _ => none

/-- The rectangle of a value. Only texts are rectangles. -/
def ofValue? (v : Value) : Option BoundingBox :=
  v.str?.bind read?

/-- The corners in order, from the least one around and back to it. -/
def ring (b : BoundingBox) : List (List FiniteDouble) :=
  [[b.minLon, b.minLat], [b.maxLon, b.minLat], [b.maxLon, b.maxLat], [b.minLon, b.maxLat],
    [b.minLon, b.minLat]]

/-- The condition that a place is in the rectangle. -/
def condition (b : BoundingBox) : Document :=
  [(Tag.geoWithin.text, .doc [(Tag.geometry.text, .doc
    [("type", .str "Polygon"), ("coordinates", .list [.list (b.ring.map coordinates)])])])]

end BoundingBox

/-- The bounds of a distance. There is no smallest distance without a largest one. -/
inductive DistanceBounds where
  | unbounded
  | upTo (most : FiniteDouble)
  | between (most least : FiniteDouble)
deriving DecidableEq

namespace DistanceBounds

/-- The largest distance. -/
def most? : DistanceBounds → Option FiniteDouble
  | .unbounded => none
  | .upTo most => some most
  | .between most _ => some most

/-- The smallest distance. -/
def least? : DistanceBounds → Option FiniteDouble
  | .between _ least => some least
  | _ => none

/-- The bounds that follow a point: a numeral for the largest distance, and then one
    for the smallest; what comes after the first that is no numeral does not count. -/
def read : List (List Char) → DistanceBounds
  | [] => .unbounded
  | most :: rest =>
    match FiniteDouble.ofNumeral? most with
    | none => .unbounded
    | some most =>
      match rest.head?.bind FiniteDouble.ofNumeral? with
      | none => .upTo most
      | some least => .between most least

/-- The entries that bounds add to the condition of a point. -/
def entries (d : DistanceBounds) : Document :=
  let entry (tag : Tag) (x : Option FiniteDouble) : Document :=
    (x.map fun x => (tag.text, Value.num (.finite x))).toList
  entry .maxDistance d.most? ++ entry .minDistance d.least?

end DistanceBounds

/-- A point, with bounds of the distance from it. -/
structure NearPoint where
  lon : FiniteDouble
  lat : FiniteDouble
  distance : DistanceBounds
deriving DecidableEq

namespace NearPoint

/-- The point of a text that begins with two numerals. -/
def read? (s : String) : Option NearPoint :=
  match Text.splitOn ',' s.toList with
  | lon :: lat :: rest =>
    match FiniteDouble.ofNumeral? lon, FiniteDouble.ofNumeral? lat with
    | some lon, some lat => some ⟨lon, lat, .read rest⟩
    | _, _ => none
  | _ => none

/-- The point of a value. Only texts are points. -/
def ofValue? (v : Value) : Option NearPoint :=
  v.str?.bind read?

/-- The condition that a place is near the point, within the bounds. -/
def condition (p : NearPoint) : Document :=
  [(Tag.near.text, .doc ((Tag.geometry.text, .doc
    [("type", .str "Point"), ("coordinates", coordinates [p.lon, p.lat])]) :: p.distance.entries))]

end NearPoint

end QueryFilter
