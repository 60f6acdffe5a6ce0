import QueryFilter.Date.Reader
import QueryFilter.Geometry
import QueryFilter.Value.Literal

/-!
# Builders

A builder makes a part of a filter from the value of a request field in its own way.
The built-in kinds read a rectangle, a point, a date, or two dates, and store a
condition under the field they are bound to; what such a builder stores depends on
its kind and the value alone (`BuilderKind.condition`), and a value it does not
understand leaves the filter as it is. A builder may also be any function on filters
(`Builder.call`).

* `Builder.run_bound_of_none`: nothing happens for a value that is not understood;
* `Builder.attempt_of_error`: nor does it if the builder fails, where failing is
  allowed.
-/

namespace QueryFilter

/-- Why a builder fails: a timestamp is too long, or the builder itself says so. -/
inductive BuilderError where
  | tooManyDigits (e : TooManyDigits)
  | raised (message : String)
deriving DecidableEq, Repr

/-- The message of the error. -/
def BuilderError.message : BuilderError → String
  | .tooManyDigits e => e.message
  | .raised message => message

/-- The built-in builders, each named like the request field that calls it. -/
inductive BuilderKind where
  | bbox
  | near
  | after
  | before
  | between
deriving DecidableEq, Repr

namespace BuilderKind

/-- All kinds. -/
def all : List BuilderKind := [.bbox, .near, .after, .before, .between]

/-- The name of a kind. -/
def name : BuilderKind → String
  | .bbox => "bbox"
  | .near => "near"
  | .after => "after"
  | .before => "before"
  | .between => "between"

/-- The kind of a name. -/
def ofName? (s : String) : Option BuilderKind :=
  all.find? fun kind => kind.name == s

/-- A kind is found by its name. -/
@[simp] theorem ofName?_name (kind : BuilderKind) : ofName? kind.name = some kind := by
  cases kind <;> decide

/-- A value is not the name of a kind. -/
structure Unknown where
  given : Value

/-- The message of the error. -/
def Unknown.message (e : Unknown) : String :=
  e.given.literal ++ " is not a valid BuilderKind"

/-- The kind that a value names. -/
def ofValue (v : Value) : Except Unknown BuilderKind :=
  match v.str?.bind ofName? with
  | some kind => .ok kind
  | none => .error ⟨v⟩

/-- The condition that a date puts on a field. -/
def dateCondition (tag : Tag) (t : Instant) : Document :=
  [(tag.text, .str t.print)]

/-- The condition of two dates between which a bar stands. Both are read before either
    is looked at. -/
def betweenCondition (s : String) : Except TooManyDigits (Option Document) :=
  match Text.splitOn '|' s.toList with
  | from? :: to? :: _ => do
    let start? ← Instant.ofText (String.ofList from?)
    let stop? ← Instant.ofText (String.ofList to?)
    match start?, stop? with
    | some start, some stop => pure (some (dateCondition .gte start ++ dateCondition .lt stop))
    | _, _ => pure none
  | _ => pure none

/-- The condition that a value says, if a builder of this kind understands it. -/
def condition (kind : BuilderKind) (raw : Value) : Except TooManyDigits (Option Document) :=
  match kind with
  | .bbox => .ok ((BoundingBox.ofValue? raw).map BoundingBox.condition)
  | .near => .ok ((NearPoint.ofValue? raw).map NearPoint.condition)
  | .after => (Instant.ofValue raw).map (·.map (dateCondition .gte))
  | .before => (Instant.ofValue raw).map (·.map (dateCondition .lt))
  | .between =>
    match raw with
    | .str s => betweenCondition s
    | _ => .ok none

end BuilderKind

/-- A builder: of a built-in kind and bound to an output field, or any function that
    takes a filter and a request value to a filter or fails. -/
inductive Builder where
  | bound (kind : BuilderKind) (field : String)
  | call (run : Document → Value → Except BuilderError Document)

namespace Builder

/-- Applies a builder to a filter and the value of a request field. -/
def run (b : Builder) (filter : Document) (raw : Value) : Except BuilderError Document :=
  match b with
  | .bound kind field =>
    match kind.condition raw with
    | .error e => .error (.tooManyDigits e)
    | .ok none => .ok filter
    | .ok (some c) => .ok (filter.assign field (.doc c))
  | .call run => run filter raw

/-- A value that is not understood leaves the filter as it is. -/
theorem run_bound_of_none {kind : BuilderKind} {field : String} {filter : Document} {raw : Value}
    (h : kind.condition raw = .ok none) : (bound kind field).run filter raw = .ok filter := by
  simp [run, h]

/-- The filter after a builder has been tried, which may fail. -/
def attempt (b : Builder) (filter : Document) (raw : Value) : Document :=
  match b.run filter raw with
  | .ok filter => filter
  | .error _ => filter

/-- The filter that a builder makes, if it does not fail. -/
theorem attempt_of_ok {b : Builder} {filter filter' : Document} {raw : Value}
    (h : b.run filter raw = .ok filter') : b.attempt filter raw = filter' := by
  simp [attempt, h]

/-- A builder that fails leaves the filter as it is. -/
theorem attempt_of_error {b : Builder} {filter : Document} {raw : Value} {e : BuilderError}
    (h : b.run filter raw = .error e) : b.attempt filter raw = filter := by
  simp [attempt, h]

/-- Whether a builder is of a built-in kind. -/
def IsBound : Builder → Prop
  | .bound _ _ => True
  | .call _ => False

end Builder

end QueryFilter
