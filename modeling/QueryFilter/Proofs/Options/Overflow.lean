import QueryFilter.Proofs.Options.Reading
import QueryFilter.Proofs.Pattern.Overflow

/-!
# Numbers that are too large

A number in the text of a pattern may be too large to be read (`OverflowsIn`). This ends the check
of the document, whatever else there is in it, and nothing but a pattern can end it so. Of several
such patterns the first one counts (`Overflows`).

* `Overflows.exists_writes`: the text with the number;
* `check_eq_overflow_iff`: where a check is ended;
* `check_eq_flaws_iff`: where it finds flaws.
-/

namespace QueryFilter

/-! ## Checks of parts -/

namespace Checked

variable {α β : Type}

/-- What was too large to be read, in the first flaw of a check that is of this kind. -/
def overflow? (x : Checked α) : Option Overflow :=
  x.flaws.findSome? fun f => f.problem.overflow?

/-- Nothing is wrong with a part that is sound. -/
@[simp] theorem overflow?_ok (a : α) : overflow? (.ok a : Checked α) = none := rfl

/-- Nor with what is made of parts that have yet to be checked. -/
@[simp] theorem overflow?_start (a : α) : (start a).overflow? = none := rfl

/-- A part with one flaw. -/
@[simp] theorem overflow?_flaw (path : List String) (problem : Problem) :
    (flaw path problem : Checked α).overflow? = problem.overflow? := by
  cases h : problem.overflow? <;> simp [overflow?, flaw, flaws, h]

/-- What a part is made into does not matter. -/
@[simp] theorem overflow?_map (x : Checked α) (f : α → β) :
    overflow? (x.map f : Checked β) = x.overflow? := by
  cases x <;> rfl

/-- Of two parts the first one counts first. -/
@[simp] theorem overflow?_and (f : Checked (α → β)) (x : Checked α) :
    (f.and x).overflow? = f.overflow?.or x.overflow? := by
  have hflaws : (f.and x).flaws = f.flaws ++ x.flaws := by cases f <;> cases x <;> simp [and, flaws]
  rw [overflow?, hflaws, List.findSome?_append]
  rfl

/-- Flaws that belong to no part come last. -/
theorem overflow?_andAlso {more : List Flaw} (h : ∀ f ∈ more, f.problem.overflow? = none)
    (x : Checked α) : (x.andAlso more).overflow? = x.overflow? := by
  have hmore : more.findSome? (fun f => f.problem.overflow?) = none :=
    List.findSome?_eq_none_iff.2 h
  rw [andAlso]
  split
  · rfl
  · simp only [overflow?, flaws, List.findSome?_append] at hmore ⊢
    cases x <;> simp [hmore]

/-- In a list nothing is too large if it is not in a part. -/
theorem overflow?_collect {check : α → Checked β} {as : List α}
    (h : ∀ a ∈ as, (check a).overflow? = none) : (collect check as).overflow? = none := by
  induction as with
  | nil => rfl
  | cons a as ih =>
    obtain ⟨ha, has⟩ := List.forall_mem_cons.1 h
    simp [collect, ha, ih has]

end Checked

namespace Options

open Checked

/-! ## Options -/

section Fields

variable {α β : Type} {doc : Entries α}

/-- No name that is unknown is a number that is too large. -/
theorem overflow?_unknownNames {options : List (List String)} :
    ∀ f ∈ unknownNames doc options, f.problem.overflow? = none := by
  intro f hf
  obtain ⟨name, -, rfl⟩ := List.mem_map.1 hf
  rfl

/-- An option that is not there is not checked. -/
theorem overflow?_checkField {spellings : List String} {default : β}
    {check : String → α → Checked β} : (checkField doc spellings default check).overflow? =
      (find? doc spellings).bind fun e => (check e.1 e.2).overflow? := by
  rw [checkField]
  split
  next h => rw [h, Option.bind_some]
  next h => rw [h, Option.bind_none, overflow?_ok]

end Fields

/-- Lists of texts are not too large. -/
theorem overflow?_checkStrings (name : String) (items : List Value) :
    (checkStrings name items).overflow? = none := by
  refine overflow?_collect fun e _ => ?_
  split <;> simp [Problem.overflow?]

/-- Nor are operators. -/
theorem overflow?_checkOperators (name : String) (v : Value) :
    (checkOperators name v).overflow? = none := by
  cases v <;> simp [checkOperators, overflow?_checkStrings, Problem.overflow?]

/-- Nor are aliases. -/
theorem overflow?_checkAliases (name : String) (v : Value) :
    (checkAliases name v).overflow? = none := by
  cases v with
  | doc entries =>
    rw [checkAliases, overflow?_map]
    refine overflow?_collect fun e _ => ?_
    split <;> simp [Problem.overflow?]
  | null | bool | int | num | str | list => simp [checkAliases, Problem.overflow?]

/-- Nor are sets of names. -/
theorem overflow?_checkNames (name : String) (v : Value) :
    (checkNames name v).overflow? = none := by
  cases v <;> simp [checkNames, overflow?_checkStrings, Problem.overflow?]

/-- Nor is a problem with a builder. -/
theorem overflow?_of_choose {name : String} {s : BuilderSetting} {problem : Problem}
    (h : choose name s = .error problem) : problem.overflow? = none := by
  unfold choose at h
  split at h
  next => cases h
  next =>
    split_ifs at h
    cases h
    rfl
  next =>
    cases h
    rfl
  next =>
    cases h
    rfl

/-- Nor are the problems of a table of them. -/
theorem overflow?_of_chooseAll {entries : Entries BuilderSetting} {problem : Problem}
    (h : chooseAll entries = .error problem) : problem.overflow? = none := by
  induction entries with
  | nil => cases h
  | cons e rest ih =>
    obtain ⟨name, s⟩ := e
    rw [chooseAll] at h
    split at h
    next hchoose =>
      cases h
      exact overflow?_of_choose hchoose
    next =>
      cases hrest : chooseAll rest with
      | ok cs =>
        rw [hrest] at h
        cases h
      | error p =>
        rw [hrest] at h
        cases h
        exact ih hrest

/-- Nor are tables of builders. -/
theorem overflow?_checkBuilders (name : String) (raw : RawOption) :
    (checkBuilders name raw).overflow? = none := by
  have hchoices : ∀ entries, (checkBuilders name (.table entries)).overflow? = none := by
    intro entries
    cases h : chooseAll entries with
    | ok cs => simp [checkBuilders, h]
    | error problem => simp [checkBuilders, h, overflow?_of_chooseAll h]
  cases raw with
  | table entries => exact hchoices entries
  | pattern p => rfl
  | plain v =>
    cases v with
    | doc entries => exact hchoices _
    | null | bool | int | num | str | list => rfl

/-- What is no truth value is not too large. -/
theorem overflow?_of_readBool {v : Value} {problem : Problem} (h : readBool v = .error problem) :
    problem.overflow? = none := by
  have hproblem : problem = .notBool ∨ problem = .unclearBool := by
    unfold readBool at h
    grind
  rcases hproblem with rfl | rfl <;> rfl

/-- Flags are not too large. -/
theorem overflow?_checkFlag (name : String) (v : Value) : (checkFlag name v).overflow? = none := by
  rw [checkFlag]
  cases h : readBool v with
  | ok b => rfl
  | error problem => simp [overflow?_of_readBool h]

/-- Nor are coercions. -/
theorem overflow?_checkCoercionOption (default : Coercion) (name : String) (v : Value) :
    (checkCoercionOption default name v).overflow? = none := by
  have hdoc : ∀ entries, (checkCoercion default entries).overflow? = none := by
    intro entries
    simp [checkCoercion, overflow?_andAlso overflow?_unknownNames, overflow?_checkField,
      overflow?_checkFlag]
  have hvalue : (checkCoercionValue default v).overflow? = none := by
    cases v with
    | doc entries => exact hdoc entries
    | null | bool | int | num | str | list => simp [checkCoercionValue, Problem.overflow?]
  rw [checkCoercionOption]
  cases h : checkCoercionValue default v with
  | ok c => rfl
  | error fs =>
    -- A flaw inside the option is of the same kind.
    rw [h] at hvalue
    simpa [overflow?, flaws, List.findSome?_map, Function.comp_def, Flaw.within] using hvalue

/-! ## Patterns -/

variable {chars : CharNames} {settings : Settings} {doc : Entries RawOption} {o : Overflow}

/-- Whether an option is the text of a pattern with a number that is too large. -/
def OverflowsIn (chars : CharNames) (doc : Entries RawOption) (spellings : List String)
    (o : Overflow) : Prop :=
  ∃ name s, IsSpelling doc spellings name ∧ doc.get? name = some (.plain (.str s)) ∧
    Pattern.read chars s = .error (.overflow o)

/-- Whether a document has such an option, and what is too large in the first one. -/
def Overflows (chars : CharNames) (doc : Entries RawOption) (o : Overflow) : Prop :=
  ∃ before spellings after, patternNames = before ++ spellings :: after ∧
    OverflowsIn chars doc spellings o ∧ ∀ other ∈ before, ∀ o', ¬OverflowsIn chars doc other o'

/-- The number is written in the text of one of the patterns. -/
theorem Overflows.exists_writes (h : Overflows chars doc o) :
    ∃ spellings ∈ patternNames, ∃ name s, IsSpelling doc spellings name ∧
      doc.get? name = some (.plain (.str s)) ∧ Pattern.Writes o s.toList := by
  obtain ⟨before, spellings, after, hnames, ⟨name, s, hname, hs, hread⟩, -⟩ := h
  exact ⟨spellings, by simp [hnames], name, s, hname, hs, Pattern.writes_of_read hread⟩

/-- A pattern is too large to be read if it is a text that is. -/
theorem overflow?_checkPattern_eq_some_iff {name : String} {raw : RawOption} :
    (checkPattern chars name raw).overflow? = some o ↔
      ∃ s, raw = .plain (.str s) ∧ Pattern.read chars s = .error (.overflow o) := by
  match raw with
  | .plain (.str s) =>
    rw [checkPattern]
    cases h : Pattern.read chars s with
    | ok p => simp [h]
    | error e => cases e <;> simp [h, Problem.overflow?]
  | .pattern _ | .table _ | .plain .null | .plain (.bool _) | .plain (.int _) | .plain (.num _)
  | .plain (.list _) | .plain (.doc _) => simp [checkPattern, Problem.overflow?]

/-- Whether the entry of an option is such a text. -/
theorem bind_find?_eq_some_iff {spellings : List String} :
    ((find? doc spellings).bind fun e => (checkPattern chars e.1 e.2).overflow?) = some o ↔
      OverflowsIn chars doc spellings o := by
  rw [Option.bind_eq_some_iff]
  constructor
  · rintro ⟨⟨name, raw⟩, hfind, hcheck⟩
    obtain ⟨s, rfl, hread⟩ := overflow?_checkPattern_eq_some_iff.1 hcheck
    obtain ⟨hname, hs⟩ := find?_eq_some_iff.1 hfind
    exact ⟨name, s, hname, hs, hread⟩
  · rintro ⟨name, s, hname, hs, hread⟩
    exact ⟨(name, .plain (.str s)), find?_eq_some_iff.2 ⟨hname, hs⟩,
      overflow?_checkPattern_eq_some_iff.2 ⟨s, rfl, hread⟩⟩

/-! ## Documents -/

/-- Of a document the three patterns count, in their order. -/
theorem overflow?_checkAll : (checkAll chars settings doc).overflow? =
    patternNames.findSome? fun spellings =>
      (find? doc spellings).bind fun e => (checkPattern chars e.1 e.2).overflow? := by
  have hcons : ∀ (f : List String → Option Overflow) spellings rest,
      List.findSome? f (spellings :: rest) = (f spellings).or (rest.findSome? f) := by
    intro f spellings rest
    rw [List.findSome?_cons]
    cases f spellings <;> rfl
  simp [checkAll, patternNames, hcons, Option.or_assoc, overflow?_andAlso overflow?_unknownNames,
    overflow?_checkField, overflow?_checkOperators, overflow?_checkAliases, overflow?_checkNames,
    overflow?_checkBuilders, overflow?_checkCoercionOption]

/-- The first pattern with a number that is too large. -/
theorem overflow?_checkAll_eq_some_iff (settings : Settings) :
    (checkAll chars settings doc).overflow? = some o ↔ Overflows chars doc o := by
  simp only [overflow?_checkAll, List.findSome?_eq_some_iff, bind_find?_eq_some_iff,
    Option.eq_none_iff_forall_not_mem, Option.mem_def, Overflows]

/-- A number that is too large ends the check of a document, and nothing else does. -/
theorem check_eq_overflow_iff (settings : Settings) :
    check chars settings doc = .error (.overflow o) ↔ Overflows chars doc o := by
  rw [← overflow?_checkAll_eq_some_iff settings, check]
  cases checkAll chars settings doc with
  | ok options => simp [Except.mapError]
  | error fs =>
    cases h : fs.findSome? fun f => f.problem.overflow? <;>
      simp [Except.mapError, Refusal.ofFlaws, overflow?, flaws, h]

/-- Flaws are found in a document that says no options, unless the check is ended before. -/
theorem check_eq_flaws_iff : (∃ fs, check chars settings doc = .error (.flaws fs)) ↔
    (¬∃ o, IsReading chars settings doc o) ∧ ¬∃ o, Overflows chars doc o := by
  simp only [← check_eq_ok_iff, ← check_eq_overflow_iff settings]
  match check chars settings doc with
  | .ok o => simp
  | .error (.flaws fs) => simp
  | .error (.overflow o) => simp

end Options

end QueryFilter
