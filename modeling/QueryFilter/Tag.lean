/-!
# Tags

The names of the operators that filter documents are made of.
-/

namespace QueryFilter

/-- The operators of filter documents. -/
inductive Tag where
  | eq
  | ne
  | gt
  | gte
  | lt
  | lte
  | oneOf
  | noneOf
  | present
  | regex
  | options
  | geoWithin
  | geometry
  | near
  | maxDistance
  | minDistance
deriving DecidableEq, Repr

/-- The name of an operator. -/
def Tag.text : Tag → String
  | .eq => "$eq"
  | .ne => "$ne"
  | .gt => "$gt"
  | .gte => "$gte"
  | .lt => "$lt"
  | .lte => "$lte"
  | .oneOf => "$in"
  | .noneOf => "$nin"
  | .present => "$exists"
  | .regex => "$regex"
  | .options => "$options"
  | .geoWithin => "$geoWithin"
  | .geometry => "$geometry"
  | .near => "$near"
  | .maxDistance => "$maxDistance"
  | .minDistance => "$minDistance"

end QueryFilter
