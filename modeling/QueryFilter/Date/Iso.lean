import QueryFilter.Date.Instant
import QueryFilter.Text.Utf8

/-!
# ISO 8601 dates

Dates with or without a time of day, in the basic and in the extended format: year,
month and day, or year, week and day of the week; after any one separator character
hours, or hours and minutes, or hours, minutes and seconds with or without a
fraction; after that `Z` or an offset from universal time. A date without an offset
is in universal time.

The reader looks at octets by their position. A position after the end holds a zero
octet. Where the date ends is found first, from the form of its beginning
(`dateEnd?`); the rest depends on it.
-/

namespace QueryFilter.Iso

/-- The octet at a position, as the character of its number. -/
def charAt (b : List UInt8) (p : Nat) : Char :=
  Char.ofNat (b.getD p 0).toNat

/-- The number of ASCII digits from a position on. -/
def digitRun (b : List UInt8) (p : Nat) : Nat :=
  ((b.drop p).takeWhile fun o => (Char.ofNat o.toNat).isDigit).length

/-- The value of exactly `count` ASCII digits at a position, after digits of the value
    `acc`. -/
def digitsFrom? (b : List UInt8) (acc : Nat) (p : Nat) : (count : Nat) → Option Nat
  | 0 => some acc
  | count + 1 =>
    let c := charAt b p
    if c.isDigit then digitsFrom? b (10 * acc + (c.toNat - '0'.toNat)) (p + 1) count else none

/-- The value of exactly `count` ASCII digits at a position. -/
def digits? (b : List UInt8) (p count : Nat) : Option Nat :=
  digitsFrom? b 0 p count

/-! ## Dates -/

/-- Where the date ends. -/
def dateEnd? (b : List UInt8) : Option Nat :=
  let n := b.length
  if n = 7 then some 7
  else if charAt b 4 = '-' then
    if charAt b 5 = 'W' then
      if 8 < n ∧ charAt b 8 = '-' then
        if n = 9 then none else if (charAt b 10).isDigit then some 8 else some 10
      else some 8
    else some 10
  else if charAt b 4 = 'W' then
    let stop := 7 + digitRun b 7
    if stop < 9 then some stop else if stop % 2 = 0 then some 7 else some 8
  else some 8

/-- The day of a date given by its week. The week number stands at `p`; the day of
    the week is Monday if the date ends before it. -/
def readWeekDate? (b : List UInt8) (year p stop : Nat) (hyphens : Bool) : Option Nat :=
  match digits? b p 2 with
  | none => none
  | some week =>
    let p := p + 2
    if p < stop then
      if hyphens && charAt b p != '-' then none
      else
        match digits? b (if hyphens then p + 1 else p) 1 with
        | some day => weekDay? year week day
        | none => none
    else weekDay? year week 1

/-- The day of a date given by its month, which stands at `p`. -/
def readMonthDate? (b : List UInt8) (year p stop : Nat) (hyphens : Bool) : Option Nat :=
  match digits? b p 2 with
  | none => none
  | some month =>
    let p := p + 2
    if hyphens && charAt b p != '-' then none
    else
      let p := if hyphens then p + 1 else p
      match digits? b p 2 with
      | none => none
      | some day =>
        let d : CivilDate := ⟨year, month, day⟩
        if p + 2 = stop ∧ d.IsValid then some d.dayNumber else none

/-- The day of the date that ends at `stop`. -/
def readDate? (b : List UInt8) (stop : Nat) : Option Nat :=
  match digits? b 0 4 with
  | none => none
  | some year =>
    let hyphens := charAt b 4 == '-'
    let p := if hyphens then 5 else 4
    if charAt b p = 'W' then readWeekDate? b year (p + 1) stop hyphens
    else readMonthDate? b year p stop hyphens

/-! ## Times -/

/-- Hours, minutes, seconds and microseconds as they are written, and whether anything
    but the end of the text comes after them. -/
structure Clock where
  hour : Nat
  minute : Nat
  second : Nat
  micros : Nat
  goesOn : Bool
deriving DecidableEq, Repr

namespace Clock

/-- The clock that shows up to three numbers, and microseconds. -/
def ofFields (fields : List Nat) (micros : Nat) (goesOn : Bool) : Clock :=
  ⟨fields.getD 0 0, fields.getD 1 0, fields.getD 2 0, micros, goesOn⟩

/-- The whole seconds that a clock shows. -/
def seconds (c : Clock) : Nat :=
  c.hour * 3600 + c.minute * 60 + c.second

/-- Whether a clock shows a time of day. -/
def IsTimeOfDay (c : Clock) : Prop :=
  c.hour ≤ 23 ∧ c.minute ≤ 59 ∧ c.second ≤ 59

instance (c : Clock) : Decidable c.IsTimeOfDay := by
  unfold IsTimeOfDay
  infer_instance

end Clock

/-- The fraction of a second at `p`, after the numbers `fields`. Digits after the
    sixth are skipped. -/
def readFraction? (b : List UInt8) (fields : List Nat) (p stop : Nat) : Option Clock :=
  let count := min 6 (stop - p)
  (digits? b p count).map fun v =>
    let next := p + count + digitRun b (p + count)
    .ofFields fields (v * Nat.pow 10 (6 - count)) (charAt b next != '\x00')

/-- The numbers of a clock from `p` on, up to `stop`, after the numbers `fields`; there
    are `more + 1` to come. A colon after the first number asks for colons between
    all of them, which is `colons?` once it is known. -/
def readFields? (b : List UInt8) (stop : Nat) :
    (more : Nat) → (colons? : Option Bool) → (fields : List Nat) → (p : Nat) → Option Clock
  | more, colons?, fields, p =>
    match digits? b p 2 with
    | none => none
    | some v =>
      let fields := fields ++ [v]
      let c := charAt b (p + 2)
      let colons := colons?.getD (c == ':')
      if stop ≤ p + 3 then some (.ofFields fields 0 (c != '\x00'))
      else if c = '.' ∨ c = ',' then readFraction? b fields (p + 3) stop
      else if colons && c != ':' then none
      else
        let next := if colons then p + 3 else p + 2
        match more with
        | 0 => readFraction? b fields next stop
        | more + 1 => readFields? b stop more (some colons) fields next

/-- The clock between two positions. -/
def readClock? (b : List UInt8) (p stop : Nat) : Option Clock :=
  readFields? b stop 2 none [] p

/-- Where the time of day that begins at `p` ends: at a sign, at a `Z`, or at the end. -/
def timeEnd (b : List UInt8) (p : Nat) : Nat :=
  p + ((b.drop p).takeWhile fun o =>
    let c := Char.ofNat o.toNat
    c != '+' && c != '-' && c != 'Z').length

/-- The offset from universal time in microseconds, at the position `z`: nothing, `Z`
    before a zero octet, or a sign and a clock of less than a day. A fraction counts
    only if there are whole seconds too. -/
def readOffset? (b : List UInt8) (z : Nat) : Option Int :=
  if b.length ≤ z then some 0
  else if charAt b z = 'Z' then if charAt b (z + 1) = '\x00' then some 0 else none
  else
    match readClock? b (z + 1) b.length with
    | none => none
    | some c =>
      let micros := if c.seconds = 0 then 0 else c.seconds * 1000000 + c.micros
      if c.goesOn ∨ microsPerDay ≤ micros then none
      else some (if charAt b z = '-' then -(micros : Int) else micros)

/-- The number of octets of the character that begins with the octet at a position. -/
def charWidth (b : List UInt8) (p : Nat) : Nat :=
  let o := (b.getD p 0).toNat
  if o < 0x80 then 1
  else if o / 16 = 14 then 3
  else if o / 16 = 15 then 4
  else 2

/-- The microsecond of the day and the offset that come after the date, which ends at
    `stop`. -/
def readTime? (b : List UInt8) (stop : Nat) : Option (Nat × Int) :=
  if b.length ≤ stop then some (0, 0)
  else
    let p := stop + charWidth b stop
    let z := timeEnd b p
    match readClock? b p z with
    | none => none
    | some c =>
      if c.IsTimeOfDay ∧ ¬(b.length ≤ z ∧ c.goesOn) then
        (readOffset? b z).map fun offset => (c.seconds * 1000000 + c.micros, offset)
      else none

/-- The instant of a date, in octets. -/
def readOctets? (b : List UInt8) : Option Instant :=
  match dateEnd? b with
  | none => none
  | some stop =>
    match readDate? b stop, readTime? b stop with
    | some day, some (micros, offset) =>
      Instant.ofMicros? ((day * microsPerDay + micros : Nat) - offset)
    | _, _ => none

/-- The instant of a date of at least seven characters. -/
def read? (cs : List Char) : Option Instant :=
  if cs.length < 7 then none else readOctets? (Text.Utf8.encode cs)

end QueryFilter.Iso
