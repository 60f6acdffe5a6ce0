import QueryFilter.Date.Instant
import QueryFilter.Scalar

/-!
# The grammar of filters

The values that a filter may hold, written down without regard to where they come from: a
scalar that a field is equal to, or a condition (`IsFilterValue`). Conditions have one of a
few shapes (`IsCondition`); only what the values of a list ask for can have several operators
in any order (`IsListFragment`).

* `IsFilterValue.isFinite`: all numbers in such a value are finite.
-/

namespace QueryFilter

/-! ## Scalars and lists -/

/-- A value that a text can stand for: a truth value, a finite number, or a text. -/
inductive Value.IsScalar : Value → Prop
  | bool (b : Bool) : IsScalar (.bool b)
  | num (x : FiniteDouble) : IsScalar (.num (.finite x))
  | str (s : String) : IsScalar (.str s)

/-- Scalars stand for such values. -/
theorem Scalar.isScalar_toValue (x : Scalar) : x.toValue.IsScalar := by
  cases x with
  | bool b => exact .bool b
  | num x => exact .num x
  | text s => exact .str s

/-- An entry of the condition of a list: values that are sought or excluded, a bound, or a
    pattern and its options. -/
inductive IsListEntry : String → Value → Prop
  | collected {key : String} {items : List Value} (hkey : key ∈ ["$in", "$nin"])
      (hne : items ≠ []) (hitems : ∀ v ∈ items, v.IsScalar) : IsListEntry key (.list items)
  | bound {key : String} {v : Value} (hkey : key ∈ ["$gt", "$gte", "$lt", "$lte"])
      (hv : v.IsScalar) : IsListEntry key v
  | regex (pattern : String) : IsListEntry "$regex" (.str pattern)
  | options : IsListEntry "$options" (.str "i")

/-- A condition of a list, which may be empty: entries with different names, where a pattern
    and its options come together. -/
structure IsListFragment (d : Document) : Prop where
  nodup_names : d.names.Nodup
  isListEntry : ∀ e ∈ d, IsListEntry e.1 e.2
  options_iff : "$options" ∈ d.names ↔ "$regex" ∈ d.names

/-- The condition of no values. -/
theorem IsListFragment.nil : IsListFragment [] :=
  ⟨List.nodup_nil, by simp, by simp⟩

/-! ## Conditions -/

/-- The position of a place. -/
def position (lon lat : FiniteDouble) : Value :=
  .list [.num (.finite lon), .num (.finite lat)]

/-- A point. -/
def point (lon lat : FiniteDouble) : Value :=
  .doc [("type", .str "Point"), ("coordinates", position lon lat)]

/-- A rectangle, as a polygon whose ring ends where it begins. -/
def rectangle (w s e n : FiniteDouble) : Value :=
  .doc [("type", .str "Polygon"), ("coordinates",
    .list [.list [position w s, position e s, position e n, position w n, position w s]])]

/-- The distances that may stand beside a point: none, a largest one, or that and a smallest
    one. -/
inductive IsDistances : Document → Prop
  | unbounded : IsDistances []
  | upTo (most : FiniteDouble) : IsDistances [("$maxDistance", .num (.finite most))]
  | between (most least : FiniteDouble) : IsDistances
      [("$maxDistance", .num (.finite most)), ("$minDistance", .num (.finite least))]

/-- A condition on a field. -/
inductive IsCondition : Document → Prop
  | present (b : Bool) : IsCondition [("$exists", .bool b)]
  | compare {key : String} {v : Value} (hkey : key ∈ ["$eq", "$ne", "$gt", "$gte", "$lt", "$lte"])
      (hv : v.IsScalar) : IsCondition [(key, v)]
  | regex (pattern : String) : IsCondition [("$regex", .str pattern), ("$options", .str "i")]
  | list {d : Document} (hne : d ≠ []) (h : IsListFragment d) : IsCondition d
  | within (w s e n : FiniteDouble) :
      IsCondition [("$geoWithin", .doc [("$geometry", rectangle w s e n)])]
  | near (lon lat : FiniteDouble) {d : Document} (h : IsDistances d) :
      IsCondition [("$near", .doc (("$geometry", point lon lat) :: d))]
  | since (t : Instant) : IsCondition [("$gte", .str t.print)]
  | before (t : Instant) : IsCondition [("$lt", .str t.print)]
  | between (t u : Instant) : IsCondition [("$gte", .str t.print), ("$lt", .str u.print)]

/-- A value of a filter. -/
inductive IsFilterValue : Value → Prop
  | bool (b : Bool) : IsFilterValue (.bool b)
  | num (x : FiniteDouble) : IsFilterValue (.num (.finite x))
  | str {s : String} (hne : s ≠ "") : IsFilterValue (.str s)
  | condition {d : Document} (h : IsCondition d) : IsFilterValue (.doc d)

/-! ## Numbers in values -/

namespace Value

/-- A value occurs in itself, and wherever it occurs in an item of a list or in an entry of a
    document. -/
inductive Occurs (v : Value) : Value → Prop
  | here : Occurs v v
  | item {items : List Value} {w : Value} (hw : w ∈ items) (h : Occurs v w) : Occurs v (.list items)
  | entry {entries : Document} {e : String × Value} (he : e ∈ entries) (h : Occurs v e.2) :
      Occurs v (.doc entries)

/-- Whether all numbers that occur in a value are finite. -/
def IsFinite (v : Value) : Prop :=
  ∀ x, Occurs (.num x) v → ∃ y, x = .finite y

@[simp] theorem isFinite_bool (b : Bool) : (Value.bool b).IsFinite := nofun

@[simp] theorem isFinite_str (s : String) : (Value.str s).IsFinite := nofun

@[simp] theorem isFinite_num {x : Double} : (Value.num x).IsFinite ↔ ∃ y, x = .finite y := by
  refine ⟨fun h => h x .here, fun h y hy => ?_⟩
  cases hy
  exact h

@[simp] theorem isFinite_list {items : List Value} :
    (Value.list items).IsFinite ↔ ∀ v ∈ items, v.IsFinite := by
  refine ⟨fun h v hv x hx => h x (.item hv hx), fun h x hx => ?_⟩
  cases hx with
  | item hw hx => exact h _ hw x hx

@[simp] theorem isFinite_doc {entries : Document} :
    (Value.doc entries).IsFinite ↔ ∀ e ∈ entries, e.2.IsFinite := by
  refine ⟨fun h e he x hx => h x (.entry he hx), fun h x hx => ?_⟩
  cases hx with
  | entry he hx => exact h _ he x hx

/-- Scalars have finite numbers only. -/
theorem IsScalar.isFinite {v : Value} (h : v.IsScalar) : v.IsFinite := by
  cases h with
  | bool b => exact isFinite_bool b
  | num x => exact isFinite_num.2 ⟨x, rfl⟩
  | str s => exact isFinite_str s

end Value

/-- So do the entries of the condition of a list. -/
theorem IsListEntry.isFinite {key : String} {v : Value} (h : IsListEntry key v) : v.IsFinite := by
  cases h with
  | collected hkey hne hitems => exact Value.isFinite_list.2 fun v hv => (hitems v hv).isFinite
  | bound hkey hv => exact hv.isFinite
  | regex pattern => exact Value.isFinite_str pattern
  | options => exact Value.isFinite_str "i"

/-- So do the distances beside a point. -/
theorem IsDistances.isFinite {d : Document} (h : IsDistances d) : (Value.doc d).IsFinite := by
  cases h <;> simp

/-- All conditions have finite numbers only. -/
theorem IsCondition.isFinite {d : Document} (h : IsCondition d) : (Value.doc d).IsFinite := by
  cases h with
  | present b => simp
  | compare hkey hv => simpa using hv.isFinite
  | regex pattern => simp
  | list hne h => exact Value.isFinite_doc.2 fun e he => (h.isListEntry e he).isFinite
  | within w s e n => simp [rectangle, position]
  | near lon lat h =>
    have hd := Value.isFinite_doc.1 h.isFinite
    simpa [point, position] using hd
  | since t => simp
  | before t => simp
  | between t u => simp

/-- All values of filters have finite numbers only. -/
theorem IsFilterValue.isFinite {v : Value} (h : IsFilterValue v) : v.IsFinite := by
  cases h with
  | bool b => exact Value.isFinite_bool b
  | num x => exact Value.isFinite_num.2 ⟨x, rfl⟩
  | str hne => exact Value.isFinite_str _
  | condition h => exact h.isFinite

end QueryFilter
