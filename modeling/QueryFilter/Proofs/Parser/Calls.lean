import QueryFilter.Proofs.Parser.Fates
import Mathlib.Data.List.ReduceOption
import Mathlib.Data.List.Induction

/-!
# Calls of builders

Builders that are any functions may read, clear or overwrite the filter made so far, keep a
state of their own, and fail. To see which of them are called, when and with what, their actions
are made to note each call before it is made (`BuilderAction.noting`). A run that is watched in
this way (`Parser.watch`) does what the run itself does, and it goes through the fields one by
one: what happens at a field depends on the fields before it only (`watch_concat`).

* `watch_concat`: one more field;
* `outcome_watch`, `parse_eq_watch`: watching changes nothing;
* `exists_places`: the fields for which there are calls, in order;
* `result_watch_eq_error_iff`: how a run fails;
* `gatesCalls_watch`: when builders are called, with what, and what comes of it.
-/

namespace QueryFilter

variable {σ ε : Type}

/-- A call of a builder, with the filter made so far and the value of a field. -/
structure Call where
  builder : Builder
  filter : Document
  raw : Value

/-- The actions of builders that keep a state and may fail, but each call is noted as well. -/
def BuilderAction.noting (act : BuilderAction (ExceptT ε (StateM σ))) :
    BuilderAction (ExceptT ε (StateM (σ × List Call))) := fun b filter raw => ExceptT.mk do
  let (s, calls) ← get
  let (result, s) := (act b filter raw).run.run s
  set (s, calls ++ [⟨b, filter, raw⟩])
  pure result

/-- The call that a field makes. -/
def Fate.call? (filter : Document) : Fate → Option Call
  | .built b raw => some ⟨b, filter, raw⟩
  | _ => none

/-- The fields that make a call are those that are given to a builder. -/
theorem Fate.call?_eq_some_iff {fate : Fate} {filter : Document} {c : Call} :
    fate.call? filter = some c ↔ fate = .built c.builder c.raw ∧ filter = c.filter := by
  obtain ⟨b, filter', raw⟩ := c
  cases fate with
  | built b' raw' =>
    simp only [call?, Option.some.injEq, Call.mk.injEq, built.injEq]
    tauto
  | dropped record => simp [call?]
  | assigned key v => simp [call?]

/-- The action of a builder that does no more than to make a filter or to fail. -/
def Builder.stateless : BuilderAction (ExceptT BuilderError (StateM Unit)) := fun b filter raw =>
  ExceptT.mk (pure (b.run filter raw))

/-- How a run ends: with a filter or an error, in some state of the builders, and after some
    calls. -/
structure Ending (σ ε : Type) where
  result : Except ε Document
  state : σ
  calls : List Call

namespace Ending

/-- How a run ends that is not watched. -/
def outcome (e : Ending σ ε) : Except ε Document × σ :=
  (e.result, e.state)

/-- The call that is made for a field, unless the run has failed before. -/
def call? (e : Ending σ ε) (fate : Fate) : Option Call :=
  match e.result with
  | .error _ => none
  | .ok filter => fate.call? filter

/-- What one more field makes of a run. -/
def step (act : BuilderAction (ExceptT ε (StateM σ))) (e : Ending σ ε) (fate : Fate) :
    Ending σ ε :=
  match e.result with
  | .error _ => e
  | .ok filter =>
    let ended := (fate.perform act filter).run.run e.state
    ⟨ended.1, ended.2, e.calls ++ (fate.call? filter).toList⟩

end Ending

namespace Parser

/-- The run of a query in which the calls of builders are noted. -/
def watch (p : Parser) (act : BuilderAction (ExceptT ε (StateM σ))) (s : σ) (query : Query) :
    Ending σ ε :=
  let ended := (p.parseIn act.noting query).run.run (s, [])
  ⟨ended.1, ended.2.1, ended.2.2⟩

end Parser

namespace Options

/-- Whether a call is made for a field after the fields of `before`: none of these has made the
    run fail, the lists and the pattern for its kind of value let the field through, and its
    output name has a builder. The builder gets the filter of the fields before and the value as
    it is. -/
structure IsCall (o : Options) (act : BuilderAction (ExceptT ε (StateM σ))) (s : σ)
    (before : Query) (name : String) (raw : Value) (c : Call) : Prop where
  result_eq : ((Parser.ofOptions o).watch act s before).result = .ok c.filter
  admitted : ∃ key, o.Admits name raw key ∧ o.builder? key = some c.builder
  raw_eq : c.raw = raw

/-- How the run of a query goes with its builders. It is the same when it is not watched. Calls
    are made in the order of the fields, one for each field that they are made for, and nothing
    else is done for such a field. The run fails exactly if one of the calls does, with its
    error, after which there are no more. Otherwise the filter is what the last field makes of
    the filter of those before it. -/
structure GatesCalls (o : Options) (act : BuilderAction (ExceptT ε (StateM σ))) (s : σ)
    (query : Query) : Prop where
  unwatched : ((Parser.ofOptions o).watch act s query).outcome =
    ((Parser.ofOptions o).parseIn act query).run.run s
  called : ∃ places : List (Option Call), places.length = query.length ∧
    ((Parser.ofOptions o).watch act s query).calls = places.reduceOption ∧
    ∀ before name raw after, query = before ++ (name, raw) :: after →
      ∀ c, places[before.length]? = some (some c) ↔ o.IsCall act s before name raw c
  alone : ∀ before name raw c, query = before ++ [(name, raw)] →
    o.IsCall act s before name raw c →
    ((Parser.ofOptions o).watch act s query).outcome =
      (act c.builder c.filter c.raw).run.run ((Parser.ofOptions o).watch act s before).state
  failed : ∀ e, ((Parser.ofOptions o).watch act s query).result = .error e ↔
    ∃ before name raw after c, query = before ++ (name, raw) :: after ∧
      o.IsCall act s before name raw c ∧
      ((act c.builder c.filter c.raw).run.run
        ((Parser.ofOptions o).watch act s before).state).1 = .error e
  empty : query = [] → ((Parser.ofOptions o).watch act s query).result = .ok []
  last : ∀ before field filter fate, query = before ++ [field] →
    ((Parser.ofOptions o).watch act s before).result = .ok filter → o.HasFate field fate →
    ((Parser.ofOptions o).watch act s query).outcome =
      (fate.perform act filter).run.run ((Parser.ofOptions o).watch act s before).state

end Options

namespace Ending

variable {act : BuilderAction (ExceptT ε (StateM σ))} {e : Ending σ ε} {fate : Fate}

/-- One call is noted at most. -/
theorem calls_step (act : BuilderAction (ExceptT ε (StateM σ))) (e : Ending σ ε) (fate : Fate) :
    (e.step act fate).calls = e.calls ++ (e.call? fate).toList := by
  cases h : e.result with
  | error err => simp only [step, call?, h, Option.toList_none, List.append_nil]
  | ok filter => simp only [step, call?, h]

/-- A field does what its fate does. -/
theorem outcome_step {filter : Document} (h : e.result = .ok filter) :
    (e.step act fate).outcome = (fate.perform act filter).run.run e.state := by
  rw [step, h]
  rfl

/-- A field makes a run fail if its call fails. -/
theorem result_step_eq_error_iff {err : ε} : (e.step act fate).result = .error err ↔
    e.result = .error err ∨ ∃ c, e.call? fate = some c ∧
      ((act c.builder c.filter c.raw).run.run e.state).1 = .error err := by
  cases h : e.result with
  | error err' => simp [step, call?, h]
  | ok filter =>
    have hresult : (e.step act fate).result = ((fate.perform act filter).run.run e.state).1 := by
      simp only [step, h]
    rw [hresult, call?, h]
    cases fate with
    | built b raw => simp [Fate.perform, Fate.call?]
    | dropped record => simp [Fate.perform, Fate.call?]
    | assigned key v => simp [Fate.perform, Fate.call?]

end Ending

/-- An item of a list with one more item is the last one or one of the others. -/
theorem eq_or_exists_of_concat_eq {α : Type} {l before after : List α} {a b : α}
    (h : l ++ [a] = before ++ b :: after) : (l = before ∧ a = b ∧ after = []) ∨
      ∃ rest, after = rest ++ [a] ∧ l = before ++ b :: rest := by
  rcases List.eq_nil_or_concat after with rfl | ⟨rest, z, rfl⟩
  · obtain ⟨hl, hab⟩ := List.append_inj' h rfl
    exact .inl ⟨hl, List.singleton_inj.1 hab, rfl⟩
  · have h' : l ++ [a] = (before ++ b :: rest) ++ [z] := by simpa using h
    obtain ⟨hl, haz⟩ := List.append_inj' h' rfl
    obtain rfl := List.singleton_inj.1 haz
    exact .inr ⟨rest, by simp, hl⟩

namespace Parser

variable {p : Parser} {o : Options} {act : BuilderAction (ExceptT ε (StateM σ))} {s : σ}
  {before query : Query} {name : String} {raw : Value} {c : Call}

/-! ## One more field -/

/-- Without fields nothing happens. -/
theorem watch_nil (p : Parser) (act : BuilderAction (ExceptT ε (StateM σ))) (s : σ) :
    p.watch act s [] = ⟨.ok [], s, []⟩ := rfl

/-- One field alone, for which a call is noted if there is one. -/
theorem runIn_noting_singleton (field : String × Value) (filter : Document) (s : σ)
    (calls : List Call) : (p.runIn act.noting filter [field]).run.run (s, calls) =
      let ended := ((p.fate field).perform act filter).run.run s
      (ended.1, ended.2, calls ++ ((p.fate field).call? filter).toList) := by
  obtain ⟨name, raw⟩ := field
  cases hr : p.route name raw with
  | drop reason =>
    simp only [runIn_cons_drop hr, fate_of_drop hr, Fate.call?, Option.toList_none, List.append_nil]
    rfl
  | store key v =>
    simp only [runIn_cons_store hr, fate_of_store hr, Fate.call?, Option.toList_none,
      List.append_nil]
    rfl
  | build b =>
    rw [runIn_cons_build hr, fate_of_build hr]
    simp only [runIn_nil, bind_pure]
    rfl

/-- The last field comes after what the others have done. -/
theorem watch_concat (p : Parser) (act : BuilderAction (ExceptT ε (StateM σ))) (s : σ)
    (before : Query) (field : String × Value) :
    p.watch act s (before ++ [field]) = (p.watch act s before).step act (p.fate field) := by
  rw [watch, watch, parseIn, parseIn, runIn_append, ExceptT.run_bind, StateT.run_bind]
  generalize (p.runIn act.noting [] before).run.run (s, []) = ended
  obtain ⟨result, state, calls⟩ := ended
  cases result with
  | error e => rfl
  | ok filter =>
    exact congrArg (fun ended : Except ε Document × σ × List Call =>
      (⟨ended.1, ended.2.1, ended.2.2⟩ : Ending σ ε)) (runIn_noting_singleton field filter state calls)

/-- The fields that calls are made for. -/
theorem isCall_iff : o.IsCall act s before name raw c ↔
    ((ofOptions o).watch act s before).call? ((ofOptions o).fate (name, raw)) = some c := by
  refine ⟨?_, fun h => ?_⟩
  · rintro ⟨hresult, ⟨key, hadmits, hb⟩, rfl⟩
    rw [Ending.call?, hresult]
    exact Fate.call?_eq_some_iff.2 ⟨hasFate_iff.1 (.built hadmits hb), rfl⟩
  · rw [Ending.call?] at h
    cases hresult : ((ofOptions o).watch act s before).result with
    | error e => simp [hresult] at h
    | ok filter =>
      rw [hresult] at h
      obtain ⟨hfate, rfl⟩ := Fate.call?_eq_some_iff.1 h
      cases hasFate_iff.2 hfate with
      | built hadmits hb => exact ⟨hresult, ⟨_, hadmits, hb⟩, rfl⟩

/-! ## Runs -/

/-- Whether two computations are the same but for the calls that the second one notes. -/
def SameButCalls (x : ExceptT ε (StateM σ) Document)
    (y : ExceptT ε (StateM (σ × List Call)) Document) : Prop :=
  ∀ s calls, ((y.run.run (s, calls)).1, (y.run.run (s, calls)).2.1) = x.run.run s

/-- Noting calls does not change a run. -/
theorem outcome_watch (p : Parser) (act : BuilderAction (ExceptT ε (StateM σ))) (s : σ)
    (query : Query) : (p.watch act s query).outcome = (p.parseIn act query).run.run s := by
  have hrun : SameButCalls (p.runIn act [] query) (p.runIn act.noting [] query) := by
    refine runIn_related SameButCalls (fun filter s calls => rfl) ?_
      (fun b filter raw s calls => rfl) [] query
    intro x y f g hxy hfg s calls
    rw [ExceptT.run_bind, ExceptT.run_bind, StateT.run_bind, StateT.run_bind, ← hxy s calls]
    generalize y.run.run (s, calls) = ended
    obtain ⟨result, state, calls'⟩ := ended
    cases result with
    | error e => rfl
    | ok filter => exact hfg filter state calls'
  exact hrun s []

/-- The calls of a run, field by field. -/
theorem exists_places (p : Parser) (act : BuilderAction (ExceptT ε (StateM σ))) (s : σ)
    (query : Query) : ∃ places : List (Option Call), places.length = query.length ∧
      (p.watch act s query).calls = places.reduceOption ∧
      ∀ before field after, query = before ++ field :: after →
        places[before.length]? = some ((p.watch act s before).call? (p.fate field)) := by
  -- From the end, since a call depends on all fields before it.
  induction query using List.reverseRecOn with
  | nil => exact ⟨[], rfl, rfl, fun before field after h => by simp at h⟩
  | append_singleton query field ih =>
    obtain ⟨places, hlength, hcalls, hplaces⟩ := ih
    refine ⟨places ++ [(p.watch act s query).call? (p.fate field)], ?_, ?_, ?_⟩
    · rw [List.length_append, List.length_append, hlength]
      rfl
    · rw [watch_concat, Ending.calls_step, hcalls, List.reduceOption_append]
      cases (p.watch act s query).call? (p.fate field) <;> rfl
    · intro before field' after h
      rcases eq_or_exists_of_concat_eq h with ⟨rfl, rfl, rfl⟩ | ⟨rest, rfl, rfl⟩
      · rw [← hlength, List.getElem?_concat_length]
      · rw [List.getElem?_append_left (by simp [hlength])]
        exact hplaces before field' rest rfl

/-- A run fails if and only if one of its calls does. -/
theorem result_watch_eq_error_iff {e : ε} : (p.watch act s query).result = .error e ↔
    ∃ before field after c, query = before ++ field :: after ∧
      (p.watch act s before).call? (p.fate field) = some c ∧
      ((act c.builder c.filter c.raw).run.run (p.watch act s before).state).1 = .error e := by
  induction query using List.reverseRecOn with
  | nil => simp [watch_nil]
  | append_singleton query field ih =>
    rw [watch_concat, Ending.result_step_eq_error_iff, ih]
    constructor
    · rintro (⟨before, field', rest, c, rfl, hc, he⟩ | ⟨c, hc, he⟩)
      · exact ⟨before, field', rest ++ [field], c, by simp, hc, he⟩
      · exact ⟨query, field, [], c, rfl, hc, he⟩
    · rintro ⟨before, field', after, c, h, hc, he⟩
      rcases eq_or_exists_of_concat_eq h with ⟨rfl, rfl, rfl⟩ | ⟨rest, rfl, rfl⟩
      · exact .inr ⟨c, hc, he⟩
      · exact .inl ⟨before, field', rest, c, rfl, hc, he⟩

/-- Whether a computation without a state has the given result. -/
def SameResult (x : Except BuilderError Document)
    (y : ExceptT BuilderError (StateM Unit) Document) : Prop :=
  x = (y.run.run ()).1

/-- Builders without a state are a case of those with one. -/
theorem parse_eq_watch (p : Parser) (query : Query) :
    p.parse query = (p.watch Builder.stateless () query).result := by
  have hrun : SameResult (p.runIn Builder.run [] query) (p.runIn Builder.stateless [] query) := by
    refine runIn_related SameResult (fun filter => rfl) ?_ ?_ [] query
    · rintro x y f g rfl hfg
      rw [SameResult, ExceptT.run_bind, StateT.run_bind]
      generalize y.run.run () = ended
      obtain ⟨result, _⟩ := ended
      cases result with
      | error e => rfl
      | ok filter => exact hfg filter
    · exact fun b filter raw => rfl
  rw [parse_eq_parseIn]
  exact hrun.trans (congrArg Prod.fst (outcome_watch p Builder.stateless () query)).symm

/-- Whatever builders do, they are called for the fields that are let through, with the filter of
    the fields before, and the first error of a call is that of the run. The builders of a parser
    are among them. -/
theorem gatesCalls_watch (o : Options) :
    (∀ {σ ε : Type} (act : BuilderAction (ExceptT ε (StateM σ))) (s : σ) (query : Query),
      o.GatesCalls act s query) ∧
    ∀ query, (ofOptions o).parse query =
      ((ofOptions o).watch Builder.stateless () query).result := by
  refine ⟨fun {σ ε} act s query => ⟨outcome_watch _ act s query, ?_, ?_, ?_, ?_, ?_⟩,
    parse_eq_watch _⟩
  · obtain ⟨places, hlength, hcalls, hplaces⟩ := exists_places (ofOptions o) act s query
    refine ⟨places, hlength, hcalls, fun before name raw after h c => ?_⟩
    rw [hplaces before (name, raw) after h, Option.some.injEq, isCall_iff]
  · rintro before name raw c rfl hc
    obtain ⟨key, h, hb⟩ := hc.admitted
    rw [watch_concat, Ending.outcome_step hc.result_eq,
      fate_of_build (route_eq_build_iff.2 ⟨key, h, hb⟩), Fate.perform, hc.raw_eq]
  · intro e
    simp only [result_watch_eq_error_iff, isCall_iff, Prod.exists]
  · rintro rfl
    rw [watch_nil]
  · rintro before field filter fate rfl hresult hfate
    rw [watch_concat, Ending.outcome_step hresult, hasFate_iff.1 hfate]

/-- Options with two builders. -/
def twoBuilders : Options :=
  { Options.standard .standard with
    aliases := [("from", "after")]
    custom := [("near", .builtIn .near "place"), ("after", .builtIn .after "time")] }

/-- One builder empties the filter, and the other one fails; calls are counted. -/
def emptyOrFail : BuilderAction (ExceptT String (StateM Nat)) := fun b _ _ => do
  modify (· + 1)
  match b with
  | .bound .near _ => pure []
  | _ => throw "no time"

/-- The list goes to the builder of its new name, whose error ends the run. -/
example :
    let ending := (ofOptions twoBuilders).watch emptyOrFail 0
      [("a", .str "x"), ("near", .str "!y"), ("b", .str "z"), ("from[]", .list [.str ""]),
        ("near", .str "w")]
    ending.outcome = (.error "no time", 2) ∧ (ending.calls.map fun c => (c.filter, c.raw)) =
      [([("a", .str "x")], .str "!y"), ([("b", .str "z")], .list [.str ""])] := by
  decide +kernel

end Parser

end QueryFilter
