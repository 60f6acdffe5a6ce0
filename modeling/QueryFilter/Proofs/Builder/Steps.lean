import QueryFilter.Proofs.Builder
import QueryFilter.Proofs.Entries
import QueryFilter.Proofs.QueryString.Group

/-!
# Built-in builders one after the other

A built-in builder changes a filter in place, and it may fail on the way. As a program that does so
(`BuilderKind.apply`) it could leave a filter behind that is changed in part. It does not: when it
ends, it has put all of a condition on its field or nothing (`BuilderKind.outcome_apply`).

So several steps, one after the other on one filter (`BuilderStep.filterAfter`), are assignments of
the conditions that are understood, of which the last one for a field counts.

* `BuilderStep.outcome_of_understood`, `BuilderStep.outcome_of_not_understood`: what one step does;
* `BuilderStep.filterAfter_eq_update`: what several steps do, as one update;
* `BuilderStep.filterAfter_exact`: both, value by value and key by key.
-/

namespace QueryFilter

/-! ## New names -/

/-- The names after an update: those that are there, and then the new ones by their first
    occurrences. -/
theorem Entries.names_update_eq_append {α : Type} (es es' : Entries α) :
    (es.update es').names = es.names ++ (names es').eraseDups.filter fun k => k ∉ es.names := by
  induction es' using List.reverseRecOn with
  | nil => simp [update]
  | append_singleton es' e ih =>
    have hupdate : es.update (es' ++ [e]) = (es.update es').assign e.1 e.2 := by
      rw [update_append]
      rfl
    have hnames : names (es' ++ [e]) = names es' ++ [e.1] := by simp [names]
    rw [hupdate, hnames, eraseDups_concat, List.filter_append, ← List.append_assoc, ← ih]
    by_cases hmem : e.1 ∈ names (es.update es')
    · have hold := mem_names_update.1 hmem
      rw [names_assign_of_mem _ hmem]
      split_ifs with hnew
      · simp
      · simp [hold.resolve_right hnew]
    · obtain ⟨hold, hnew⟩ := not_or.1 (mt mem_names_update.2 hmem)
      rw [names_assign_of_not_mem _ hmem, if_neg hnew]
      simp [hold]

/-! ## Builders in place -/

/-- Programs that change a filter and may fail. What they have changed before they fail stays. -/
abbrev InPlace := ExceptT BuilderError (StateM Document)

/-- How a program ends on a filter, and what is in its place then. -/
def InPlace.outcome {α : Type} (x : InPlace α) (filter : Document) :
    Except BuilderError α × Document :=
  (x.run.run filter).run

namespace BuilderKind

/-- Reads a date. -/
def readDate (raw : Value) : InPlace (Option Instant) :=
  match Instant.ofValue raw with
  | .ok t? => pure t?
  | .error e => throw (.tooManyDigits e)

/-- Puts a condition on a field, if there is one. -/
def assignIfSome (field : String) (c? : Option Document) : InPlace Unit :=
  match c? with
  | some c => modify (·.assign field (.doc c))
  | none => pure ()

/-- A built-in builder as a program that changes the filter. -/
def apply (kind : BuilderKind) (field : String) (raw : Value) : InPlace Unit :=
  match kind with
  | .bbox => assignIfSome field ((BoundingBox.ofValue? raw).map BoundingBox.condition)
  | .near => assignIfSome field ((NearPoint.ofValue? raw).map NearPoint.condition)
  | .after => do
    let date? ← readDate raw
    assignIfSome field (date?.map (dateCondition .gte))
  | .before => do
    let date? ← readDate raw
    assignIfSome field (date?.map (dateCondition .lt))
  | .between =>
    match raw.str?.map fun s => Text.splitOn '|' s.toList with
    | some (from? :: to? :: _) => do
      let start? ← readDate (.str (String.ofList from?))
      let stop? ← readDate (.str (String.ofList to?))
      match start?, stop? with
      | some start, some stop =>
        assignIfSome field (some (dateCondition .gte start ++ dateCondition .lt stop))
      | _, _ => pure ()
    | _ => pure ()

variable {α : Type} {raw : Value}

/-- A program that begins with reading a date fails there, or it goes on with the date; the filter
    has not changed so far. -/
theorem outcome_readDate_bind (raw : Value) (next : Option Instant → InPlace α)
    (filter : Document) : InPlace.outcome (readDate raw >>= next) filter =
      match Instant.ofValue raw with
      | .ok t? => (next t?).outcome filter
      | .error e => (.error (.tooManyDigits e), filter) := by
  rw [readDate]
  cases Instant.ofValue raw <;> rfl

/-- In place, a builder ends as it does on a copy of the filter, and what it leaves behind is the
    filter after it has been tried, also when it fails. -/
theorem outcome_apply (kind : BuilderKind) (field : String) (raw : Value) (filter : Document) :
    (kind.apply field raw).outcome filter =
      (((Builder.bound kind field).run filter raw).map fun _ => (),
        (Builder.bound kind field).attempt filter raw) := by
  rw [Builder.attempt, Builder.run]
  cases kind with
  | bbox =>
    rw [apply, condition]
    cases BoundingBox.ofValue? raw <;> rfl
  | near =>
    rw [apply, condition]
    cases NearPoint.ofValue? raw <;> rfl
  | after | before =>
    rw [apply, outcome_readDate_bind, condition]
    rcases Instant.ofValue raw with e | _ | t <;> rfl
  | between =>
    cases raw with
    | str s =>
      have hvalue : ∀ p : List Char, Instant.ofValue (.str (String.ofList p)) =
          Instant.ofText (String.ofList p) := fun _ => rfl
      simp only [apply, condition, betweenCondition, Value.str?, Option.map_some]
      -- Each of the two dates is read as it is without a filter.
      rcases Text.splitOn '|' s.toList with _ | ⟨p₀, _ | ⟨p₁, rest⟩⟩
      · rfl
      · rfl
      · simp only [outcome_readDate_bind, hvalue]
        rcases Instant.ofText (String.ofList p₀) with e | start?
        · rfl
        · rcases Instant.ofText (String.ofList p₁) with e | stop?
          · rfl
          · rcases start? with _ | start <;> rcases stop? with _ | stop <;> rfl
    | _ => rfl

/-- The condition that a builder of the kind makes of a value that it understands. -/
def condition? (kind : BuilderKind) (raw : Value) : Option Document :=
  match kind.condition raw with
  | .ok c? => c?
  | .error _ => none

/-- There is a condition for the values that are understood. -/
theorem exists_condition?_iff {kind : BuilderKind} {raw : Value} :
    (∃ c, kind.condition? raw = some c) ↔ kind.Understands raw := by
  rw [← exists_condition_iff, condition?]
  cases kind.condition raw <;> simp

end BuilderKind

/-! ## Steps -/

/-- One use of a built-in builder, for an output field and with a request value. -/
structure BuilderStep where
  kind : BuilderKind
  field : String
  raw : Value

namespace BuilderStep

/-- Whether the builder understands the value. -/
def Understood (s : BuilderStep) : Prop :=
  s.kind.Understands s.raw

/-- How a step ends on a filter, and what is in the place of the filter then. -/
def outcome (s : BuilderStep) (filter : Document) : Except BuilderError Unit × Document :=
  (s.kind.apply s.field s.raw).outcome filter

/-- The filter after several steps. A step that fails does not keep the next ones from being
    tried. -/
def filterAfter (filter : Document) (steps : List BuilderStep) : Document :=
  steps.foldl (fun filter s => (Builder.bound s.kind s.field).attempt filter s.raw) filter

/-- Whether a step is the last one that is understood and for a field. -/
def IsLastFor (key : String) (steps : List BuilderStep) (s : BuilderStep) : Prop :=
  ∃ before rest, steps = before ++ s :: rest ∧ s.field = key ∧ s.Understood ∧
    ∀ t ∈ rest, t.field = key → ¬t.Understood

/-- The entry that a step assigns, if there is one. -/
def entries (s : BuilderStep) : Document :=
  ((s.kind.condition? s.raw).map fun c => (s.field, Value.doc c)).toList

variable {s : BuilderStep} {steps : List BuilderStep} {filter : Document} {key : String}

/-! ### One step -/

/-- A step that is understood assigns a condition that does not depend on the filter. -/
theorem outcome_of_understood (h : s.Understood) : ∃ c, s.kind.condition? s.raw = some c ∧
    ∀ filter, s.outcome filter = (.ok (), filter.assign s.field (.doc c)) := by
  obtain ⟨c, hc⟩ := BuilderKind.exists_condition_iff.2 h
  refine ⟨c, by rw [BuilderKind.condition?, hc], fun filter => ?_⟩
  rw [outcome, BuilderKind.outcome_apply, Builder.attempt, Builder.run, hc]
  rfl

/-- A step that is not understood leaves the filter as it is, whether it fails or not. -/
theorem outcome_of_not_understood (h : ¬s.Understood) (filter : Document) :
    (s.outcome filter).2 = filter := by
  rw [outcome, BuilderKind.outcome_apply]
  obtain ⟨n, -, hrun⟩ | ⟨-, -, hrun⟩ | ⟨-, hs, -⟩ := Builder.run_bound_cases s.kind s.field s.raw
  · exact Builder.attempt_of_error (hrun filter)
  · exact Builder.attempt_of_ok (hrun filter)
  · exact absurd hs h

/-- A step fails on a timestamp with too many digits. -/
theorem outcome_eq_error_iff {e : BuilderError} : (s.outcome filter).1 = .error e ↔
    ∃ n, s.kind.Fails s.raw n ∧ e = .tooManyDigits ⟨n⟩ := by
  simp only [outcome, BuilderKind.outcome_apply, Builder.run, BuilderKind.fails_iff]
  rcases s.kind.condition s.raw with e' | _ | c
  · simp only [Except.map, Except.error.injEq]
    refine ⟨fun h => ⟨e'.count, rfl, h.symm⟩, ?_⟩
    rintro ⟨n, rfl, rfl⟩
    rfl
  · simp [Except.map]
  · simp [Except.map]

/-! ### Several steps -/

/-- What a step assigns, as an update. -/
theorem attempt_eq_update (s : BuilderStep) (filter : Document) :
    (Builder.bound s.kind s.field).attempt filter s.raw = filter.update s.entries := by
  rw [Builder.attempt, Builder.run, entries, BuilderKind.condition?]
  rcases s.kind.condition s.raw with e | _ | c <;> rfl

/-- The steps that are understood are one update together. -/
theorem filterAfter_eq_update (filter : Document) (steps : List BuilderStep) :
    filterAfter filter steps = filter.update (steps.flatMap entries) := by
  induction steps generalizing filter with
  | nil => rfl
  | cons s steps ih =>
    rw [filterAfter, List.foldl_cons, ← filterAfter, ih, attempt_eq_update, List.flatMap_cons,
      Entries.update_append]

/-- One more step. -/
theorem filterAfter_concat (filter : Document) (steps : List BuilderStep) (s : BuilderStep) :
    filterAfter filter (steps ++ [s]) = (s.outcome (filterAfter filter steps)).2 := by
  rw [filterAfter, List.foldl_append, ← filterAfter, outcome, BuilderKind.outcome_apply]
  rfl

/-- Steps assign to the fields of those that are understood. -/
theorem mem_names_flatMap_entries :
    key ∈ Entries.names (steps.flatMap entries) ↔ ∃ s ∈ steps, s.field = key ∧ s.Understood := by
  simp only [Entries.mem_names, List.mem_flatMap, entries, Option.mem_toList,
    Option.map_eq_some_iff, Prod.mk.injEq, Understood, ← BuilderKind.exists_condition?_iff]
  constructor
  · rintro ⟨v, s, hs, c, hc, hfield, -⟩
    exact ⟨s, hs, hfield, c, hc⟩
  · rintro ⟨s, hs, hfield, c, hc⟩
    exact ⟨.doc c, s, hs, c, hc, hfield, rfl⟩

/-- If there are steps for a field that are understood, one of them is the last one. -/
theorem exists_isLastFor (h : ∃ s ∈ steps, s.field = key ∧ s.Understood) :
    ∃ s, IsLastFor key steps s := by
  induction steps with
  | nil => simp at h
  | cons s steps ih =>
    by_cases hrest : ∃ t ∈ steps, t.field = key ∧ t.Understood
    · obtain ⟨t, before, rest, rfl, ht⟩ := ih hrest
      exact ⟨t, s :: before, rest, rfl, ht⟩
    · obtain ⟨t, ht, hkey, hunderstood⟩ := h
      rcases List.mem_cons.1 ht with rfl | ht
      · exact ⟨t, [], steps, rfl, hkey, hunderstood, fun u hu hk hs => hrest ⟨u, hu, hk, hs⟩⟩
      · exact absurd ⟨t, ht, hkey, hunderstood⟩ hrest

/-- The value that several steps leave under a key: the condition of the last step for it that is
    understood, or the one from before. -/
theorem get?_filterAfter (filter : Document) (steps : List BuilderStep) (key : String) :
    (∃ s c, IsLastFor key steps s ∧ s.kind.condition? s.raw = some c ∧
      (filterAfter filter steps).get? key = some (.doc c)) ∨
    ((∀ s ∈ steps, s.field = key → ¬s.Understood) ∧
      (filterAfter filter steps).get? key = filter.get? key) := by
  rw [filterAfter_eq_update]
  by_cases h : ∃ s ∈ steps, s.field = key ∧ s.Understood
  · obtain ⟨s, hlast⟩ := exists_isLastFor h
    obtain ⟨before, rest, rfl, rfl, hs, hrest⟩ := id hlast
    obtain ⟨c, hc⟩ := BuilderKind.exists_condition?_iff.2 hs
    refine .inl ⟨s, c, hlast, hc, ?_⟩
    have hentries : s.entries = [(s.field, .doc c)] := by rw [entries, hc]; rfl
    have hkey : s.field ∉ Entries.names (rest.flatMap entries) := by
      rw [mem_names_flatMap_entries]
      rintro ⟨t, ht, hfield, hunderstood⟩
      exact hrest t ht hfield hunderstood
    rw [List.flatMap_append, List.flatMap_cons, hentries]
    exact Entries.get?_update_append_cons _ _ _ hkey
  · have hkey := mt mem_names_flatMap_entries.1 h
    refine .inr ⟨fun s hs hfield hunderstood => h ⟨s, hs, hfield, hunderstood⟩, ?_⟩
    exact Entries.get?_update_of_not_mem _ hkey

/-- Built-in builders that are tried one after the other on a filter are assignments. In place, a
    step makes of the filter what it is taken to make of it; it leaves the filter exactly as it is
    if it fails, which it does on a timestamp with too many digits, or does not understand its
    value, and otherwise changes its field only, to a condition that its kind and its value say. So
    each key has the condition of the last step for it that is understood, or its value from before;
    and the keys that are new come last, in the order in which they are first assigned. -/
theorem filterAfter_exact (filter : Document) (steps : List BuilderStep) :
    (∀ before s rest, steps = before ++ s :: rest →
      filterAfter filter (before ++ [s]) = (s.outcome (filterAfter filter before)).2 ∧
      (∀ e, (s.outcome (filterAfter filter before)).1 = .error e ↔
        ∃ n, s.kind.Fails s.raw n ∧ e = .tooManyDigits ⟨n⟩) ∧
      (∀ e, (s.outcome (filterAfter filter before)).1 = .error e →
        filterAfter filter (before ++ [s]) = filterAfter filter before) ∧
      (¬s.Understood → filterAfter filter (before ++ [s]) = filterAfter filter before) ∧
      (s.Understood → ∃ c, s.kind.condition? s.raw = some c ∧
        (s.outcome (filterAfter filter before)).1 = .ok () ∧
        Entries.Assigns s.field (.doc c) (filterAfter filter before)
          (filterAfter filter (before ++ [s])))) ∧
    (∀ key, (∃ s c, IsLastFor key steps s ∧ s.kind.condition? s.raw = some c ∧
        (filterAfter filter steps).get? key = some (.doc c)) ∨
      ((∀ s ∈ steps, s.field = key → ¬s.Understood) ∧
        (filterAfter filter steps).get? key = filter.get? key)) ∧
    (filterAfter filter steps).names = filter.names ++
      (Entries.names (steps.flatMap entries)).eraseDups.filter fun key => key ∉ filter.names := by
  refine ⟨fun before s rest _ => ?_, get?_filterAfter filter steps, ?_⟩
  · rw [filterAfter_concat]
    generalize filterAfter filter before = filter
    refine ⟨rfl, fun e => outcome_eq_error_iff, fun e he => ?_,
      fun h => outcome_of_not_understood h filter, fun h => ?_⟩
    · refine outcome_of_not_understood (fun hs => ?_) filter
      obtain ⟨c, -, hok⟩ := outcome_of_understood hs
      simp [hok] at he
    · obtain ⟨c, hc, hok⟩ := outcome_of_understood h
      refine ⟨c, hc, by rw [hok], ?_⟩
      rw [hok]
      exact Entries.assigns_assign filter s.field (.doc c)
  · rw [filterAfter_eq_update, Entries.names_update_eq_append]

/-- Of two dates only the first one is read, so the condition of the step before stays. -/
example : filterAfter [] [⟨.before, "date", .str "0"⟩, ⟨.between, "date", .str "0|now"⟩] =
    [("date", .doc [("$lt", .str "1970-01-01T00:00:00.000Z")])] := by
  rfl

end BuilderStep

end QueryFilter
