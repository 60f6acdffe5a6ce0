import QueryFilter.Proofs.Parser.Effects
import QueryFilter.Proofs.Parser.ListFragment
import QueryFilter.Proofs.Parser.Route
import Mathlib.Data.List.Forall2

/-!
# What becomes of every field

A run leaves nothing out: each field of a query is dropped with one record in the log, or is
given to one builder, or is assigned once (`Options.HasFate`). Which of these it is, and what
the record says, follows from the options of the parser and from the field alone.

* `dropsFor_iff`: the fields that are dropped, and the first reason that applies;
* `hasFate_iff`: every field has exactly one fate;
* `runIn_eq_foldlM`: a run is what the fates of the fields do, one after the other;
* `exists_drop_iff`: the drops of a run, field by field;
* `parse_accounts`: the log and the filter of a query, field by field.
-/

namespace QueryFilter

universe u

/-- What becomes of a field in a run: it is dropped and a record is made of it, its value is
    given to a builder as it is, or a value is assigned to an output name. -/
inductive Fate where
  | dropped (record : Log.Record)
  | built (builder : Builder) (raw : Value)
  | assigned (key : String) (v : Value)

namespace Fate

/-- The record of a field that is dropped. -/
def record? : Fate → Option Log.Record
  | .dropped record => some record
  | _ => none

/-- What a field does to the filter made so far, where builders act in a monad. -/
def perform {m : Type → Type u} [Monad m] (act : BuilderAction m) (filter : Document) :
    Fate → m Document
  | .dropped _ => pure filter
  | .built b raw => act b filter raw
  | .assigned key v => pure (filter.assign key v)

end Fate

namespace Options

/-- Why a field is dropped, in the words of the log. The lists come first, then the pattern for
    the kind of value, and only without a builder does it matter what the value is. -/
inductive DropsFor (o : Options) (name : String) : Value → String → Prop where
  | notWhitelisted {raw : Value} (h : o.whitelist ≠ [])
      (hname : Parser.fieldName name raw ∉ o.whitelist) : DropsFor o name raw "not whitelisted"
  | blacklisted {raw : Value} (h : o.whitelist = [] ∨ Parser.fieldName name raw ∈ o.whitelist)
      (hname : Parser.fieldName name raw ∈ o.blacklist) : DropsFor o name raw "blacklisted"
  | invalidKey {s : String} (h : ¬o.Denies name (.str s))
      (hkey : o.keyPattern.finds (o.outputName (Parser.fieldName name (.str s))).toList = false) :
      DropsFor o name (.str s) "invalid key"
  | invalidArrayKey {items : List Value} (h : ¬o.Denies name (.list items))
      (hkey : o.arrayPattern.finds
        (o.outputName (Parser.fieldName name (.list items))).toList = false) :
      DropsFor o name (.list items) "invalid key"
  | emptyArray {items : List Value} {key : String} (h : o.Admits name (.list items) key)
      (hb : o.builder? key = none) (hitems : "$in" ∉ o.operators ∨ ∀ s, Value.str s ∉ items) :
      DropsFor o name (.list items) "empty or unsupported array"
  | unsupported {raw : Value} {key : String} (h : o.Admits name raw key)
      (hb : o.builder? key = none) (hraw : raw.classOf = .other) :
      DropsFor o name raw ("unsupported value " ++ raw.kindName)

/-- The fate of a field. Records are made by the parser, and name the field as the request
    does. -/
inductive HasFate (o : Options) : String × Value → Fate → Prop where
  | dropped {name reason : String} {raw : Value} (h : o.DropsFor name raw reason) :
      HasFate o (name, raw) (.dropped ⟨.debug, "mongoqs.MongoQS",
        "Dropping field " ++ Text.quoted name ++ ": " ++ reason⟩)
  | built {name key : String} {raw : Value} {b : Builder} (h : o.Admits name raw key)
      (hb : o.builder? key = some b) : HasFate o (name, raw) (.built b raw)
  | text {name key s : String} (h : o.Admits name (.str s) key) (hb : o.builder? key = none) :
      HasFate o (name, .str s) (.assigned key ((Parser.ofOptions o).readScalar s))
  | list {name key : String} {items : List Value} {d : Document}
      (h : o.Admits name (.list items) key) (hb : o.builder? key = none)
      (hd : (Parser.ofOptions o).readList items = some d) :
      HasFate o (name, .list items) (.assigned key (.doc d))

end Options

namespace Parser

variable {o : Options} {name : String} {raw : Value} {query : Query} {filter : Document}

/-! ## Reasons -/

/-- A field that the lists keep out is dropped for the first of them that does. -/
theorem dropsFor_of_route_of_denies (hd : o.Denies name raw) {reason : DropReason}
    (h : (ofOptions o).route name raw = .drop reason) : o.DropsFor name raw reason.text := by
  rw [route, lookup_rules] at h
  by_cases hw : o.whitelist ≠ [] ∧ fieldName name raw ∉ o.whitelist
  · rw [if_pos hw] at h
    obtain rfl := Route.drop.inj h
    exact .notWhitelisted hw.1 hw.2
  · have hb : fieldName name raw ∈ o.blacklist := hd.resolve_left hw
    rw [if_neg hw, if_pos hb] at h
    obtain rfl := Route.drop.inj h
    exact .blacklisted (by rwa [Decidable.not_and_iff_not_or_not, Decidable.not_not,
      Decidable.not_not] at hw) hb

/-- A field that the lists let through is dropped because of its output name. -/
theorem dropsFor_of_acceptsKey_eq_false (hd : ¬o.Denies name raw)
    (h : (ofOptions o).acceptsKey (o.outputName (fieldName name raw)) raw = false) :
    o.DropsFor name raw "invalid key" := by
  cases raw with
  | str s => exact .invalidKey hd h
  | list items => exact .invalidArrayKey hd h
  | _ => simp [acceptsKey] at h

/-- An admitted field is dropped because of its value. -/
theorem dropsFor_of_route_of_admits {key : String} (ha : o.Admits name raw key)
    {reason : DropReason} (h : (ofOptions o).route name raw = .drop reason) :
    o.DropsFor name raw reason.text := by
  rw [route_of_admits ha] at h
  cases hb : o.builder? key with
  | some b => simp [hb] at h
  | none =>
    simp only [hb] at h
    cases raw with
    | str s => simp [routeValue] at h
    | list items =>
      rw [routeValue] at h
      split at h
      · simp at h
      next hnone =>
        obtain rfl := Route.drop.inj h
        exact .emptyArray ha hb (readList_eq_none_iff.1 hnone)
    | _ =>
      obtain rfl := Route.drop.inj h
      exact .unsupported ha hb rfl

/-- The fields that are dropped, and for which reason. -/
theorem dropsFor_iff {text : String} : o.DropsFor name raw text ↔
    ∃ reason, (ofOptions o).route name raw = .drop reason ∧ reason.text = text := by
  refine ⟨fun h => ?_, ?_⟩
  · cases h with
    | notWhitelisted h hname =>
      exact ⟨.denied .notWhitelisted, by rw [route, lookup_rules, if_pos ⟨h, hname⟩], rfl⟩
    | blacklisted h hname =>
      refine ⟨.denied .blacklisted, ?_, rfl⟩
      rw [route, lookup_rules, if_neg fun hw => h.elim hw.1 hw.2, if_pos hname]
    | invalidKey h hkey | invalidArrayKey h hkey =>
      refine ⟨.invalidKey, ?_, rfl⟩
      rw [route_of_not_denies h]
      exact if_neg (Bool.eq_false_iff.1 hkey)
    | @emptyArray items key h hb hitems =>
      have hnone : (ofOptions o).readList items = none := readList_eq_none_iff.2 hitems
      exact ⟨.emptyArray, by rw [route_of_admits h, hb, routeValue, hnone], rfl⟩
    | @unsupported raw key h hb hraw =>
      refine ⟨.unsupported raw.kindName, ?_, rfl⟩
      rw [route_of_admits h, hb]
      cases raw with
      | str s => simp [Value.classOf] at hraw
      | list items => simp [Value.classOf] at hraw
      | _ => rfl
  · rintro ⟨reason, h, rfl⟩
    by_cases hd : o.Denies name raw
    · exact dropsFor_of_route_of_denies hd h
    cases hk : (ofOptions o).acceptsKey (o.outputName (fieldName name raw)) raw with
    | false =>
      rw [route_of_not_denies hd] at h
      simp only [routeKey, hk, Bool.false_eq_true, if_false] at h
      obtain rfl := Route.drop.inj h
      exact dropsFor_of_acceptsKey_eq_false hd hk
    | true => exact dropsFor_of_route_of_admits (admits_iff.2 ⟨hd, rfl, hk⟩) h

/-! ## Fates -/

/-- The fate of a field, from its route. -/
def fate (p : Parser) (field : String × Value) : Fate :=
  match p.route field.1 field.2 with
  | .drop reason => .dropped (dropRecord ⟨field.1, reason⟩)
  | .build b => .built b field.2
  | .store key v => .assigned key v

section

variable {p : Parser}

/-- A field that is dropped leaves a record. -/
theorem fate_of_drop {reason : DropReason} (h : p.route name raw = .drop reason) :
    p.fate (name, raw) = .dropped (dropRecord ⟨name, reason⟩) := by
  simp only [fate, h]

/-- A builder is given the value as it is. -/
theorem fate_of_build {b : Builder} (h : p.route name raw = .build b) :
    p.fate (name, raw) = .built b raw := by
  simp only [fate, h]

/-- A field that is stored is assigned. -/
theorem fate_of_store {key : String} {v : Value} (h : p.route name raw = .store key v) :
    p.fate (name, raw) = .assigned key v := by
  simp only [fate, h]

end

/-- What the record of a field says that was dropped. -/
theorem dropRecord_eq (d : Drop) : dropRecord d = ⟨.debug, "mongoqs.MongoQS",
    "Dropping field " ++ Text.quoted d.name ++ ": " ++ d.reason.text⟩ := by
  have htext : String.ofList (Log.Logger.fill "Dropping field %r: %s".toList
      [.str d.name, .str d.reason.text]) =
      "Dropping field " ++ Text.quoted d.name ++ ": " ++ d.reason.text := by
    refine String.toList_inj.1 ?_
    simp [Log.Logger.fill, Log.Logger.plainText, Value.literal]
  have hlogger : logger.name = "mongoqs.MongoQS" := by decide
  rw [← htext, ← hlogger]
  rfl

/-- Every field has exactly one fate. -/
theorem hasFate_iff {field : String × Value} {fate : Fate} :
    o.HasFate field fate ↔ (ofOptions o).fate field = fate := by
  refine ⟨fun h => ?_, ?_⟩
  · cases h with
    | dropped h =>
      obtain ⟨reason, hr, rfl⟩ := dropsFor_iff.1 h
      rw [fate_of_drop hr, dropRecord_eq]
    | built h hb => exact fate_of_build (route_eq_build_iff.2 ⟨_, h, hb⟩)
    | text h hb => exact fate_of_store (route_eq_store_iff.2 ⟨h, hb, .inl ⟨_, rfl, rfl⟩⟩)
    | list h hb hd =>
      exact fate_of_store (route_eq_store_iff.2 ⟨h, hb, .inr ⟨_, _, rfl, hd, rfl⟩⟩)
  · rintro rfl
    obtain ⟨name, raw⟩ := field
    cases hr : (ofOptions o).route name raw with
    | drop reason =>
      rw [fate_of_drop hr, dropRecord_eq]
      exact .dropped (dropsFor_iff.2 ⟨reason, hr, rfl⟩)
    | build b =>
      obtain ⟨key, h, hb⟩ := route_eq_build_iff.1 hr
      rw [fate_of_build hr]
      exact .built h hb
    | store key v =>
      obtain ⟨h, hb, hv⟩ := route_eq_store_iff.1 hr
      rw [fate_of_store hr]
      rcases hv with ⟨s, rfl, rfl⟩ | ⟨items, d, rfl, hd, rfl⟩
      · exact .text h hb
      · exact .list h hb hd

/-! ## Runs -/

/-- A run is what the fates of the fields do, one after the other. -/
theorem runIn_eq_foldlM {m : Type → Type u} [Monad m] [LawfulMonad m] (p : Parser)
    (act : BuilderAction m) (filter : Document) (query : Query) :
    p.runIn act filter query = (query.map p.fate).foldlM (Fate.perform act) filter := by
  induction query generalizing filter with
  | nil => rfl
  | cons field query ih =>
    obtain ⟨name, raw⟩ := field
    rw [List.map_cons, List.foldlM_cons]
    cases hr : p.route name raw with
    | drop reason => rw [runIn_cons_drop hr, fate_of_drop hr, Fate.perform, pure_bind, ih]
    | store key v => rw [runIn_cons_store hr, fate_of_store hr, Fate.perform, pure_bind, ih]
    | build b =>
      rw [runIn_cons_build hr, fate_of_build hr, Fate.perform]
      simp only [ih]

/-- The drop of a field, if it is dropped. -/
def drop? (p : Parser) (field : String × Value) : Option Drop :=
  match p.route field.1 field.2 with
  | .drop reason => some ⟨field.1, reason⟩
  | _ => none

/-- The drops of a run that no builder ends are those of its fields. -/
theorem drops_run_eq {p : Parser} {filter filter' : Document}
    (h : (p.run filter query).result = .ok filter') :
    (p.run filter query).drops = query.filterMap p.drop? := by
  induction query generalizing filter with
  | nil => rfl
  | cons field query ih =>
    obtain ⟨name, raw⟩ := field
    cases hr : p.route name raw with
    | drop reason =>
      have hdrop : p.drop? (name, raw) = some ⟨name, reason⟩ := by simp only [drop?, hr]
      rw [run_cons_drop hr] at h ⊢
      rw [List.filterMap_cons_some hdrop]
      exact congrArg (List.cons ⟨name, reason⟩) (ih h)
    | store key v =>
      have hdrop : p.drop? (name, raw) = none := by simp only [drop?, hr]
      rw [run_cons_store hr] at h ⊢
      rw [List.filterMap_cons_none hdrop]
      exact ih h
    | build b =>
      have hdrop : p.drop? (name, raw) = none := by simp only [drop?, hr]
      rw [List.filterMap_cons_none hdrop]
      simp only [run, hr] at h ⊢
      cases hb : b.run filter raw with
      | error e => simp [hb] at h
      | ok filter₁ =>
        simp only [hb] at h ⊢
        exact ih h

/-- The records of a run that no builder ends are those of the fields that are dropped. -/
theorem drops_run {p : Parser} {filter filter' : Document}
    (h : (p.run filter query).result = .ok filter') :
    (p.run filter query).drops.map dropRecord = (query.map p.fate).filterMap Fate.record? := by
  rw [drops_run_eq h, List.map_filterMap, List.filterMap_map]
  congr 1
  funext field
  simp only [drop?, fate, Function.comp_apply]
  cases p.route field.1 field.2 <;> rfl

/-- The fields of a query that are dropped, and for which reasons, if no builder fails. -/
theorem exists_drop_iff {text : String} (h : (ofOptions o).parse query = .ok filter) :
    (∃ drop ∈ ((ofOptions o).outcome query).drops,
      drop.name = name ∧ drop.reason.text = text) ↔
    ∃ raw, (name, raw) ∈ query ∧ o.DropsFor name raw text := by
  rw [outcome, drops_run_eq h]
  simp only [List.mem_filterMap, dropsFor_iff]
  constructor
  · rintro ⟨drop, ⟨⟨name', raw⟩, hfield, hdrop⟩, rfl, rfl⟩
    rw [drop?] at hdrop
    split at hdrop
    next reason hr =>
      obtain rfl := Option.some.inj hdrop
      exact ⟨raw, hfield, reason, hr, rfl⟩
    next => simp at hdrop
  · rintro ⟨raw, hfield, reason, hr, rfl⟩
    exact ⟨⟨name, reason⟩, ⟨(name, raw), hfield, by simp only [drop?, hr]⟩, rfl, rfl⟩

/-- Every field of a query is accounted for. If no builder fails, then each field has one fate,
    the records are those of the dropped fields in the order of the query, and the filter is
    what is left when the other fates have been performed in that order, each of them once. The
    same is done whatever else builders do. -/
theorem parse_accounts (h : (ofOptions o).parse query = .ok filter) :
    ∃ fates, List.Forall₂ o.HasFate query fates ∧
      (∀ field ∈ query, ∃! fate, o.HasFate field fate) ∧
      ((ofOptions o).outcome query).drops.map dropRecord = fates.filterMap Fate.record? ∧
      fates.foldlM (Fate.perform Builder.run) [] = .ok filter ∧
      ∀ (m : Type → Type u) [Monad m] [LawfulMonad m] (act : BuilderAction m),
        (ofOptions o).parseIn act query = fates.foldlM (Fate.perform act) [] := by
  refine ⟨query.map (ofOptions o).fate, ?_, fun field _ => ?_, drops_run h, ?_, fun m _ _ act => ?_⟩
  · rw [List.forall₂_map_right_iff]
    exact List.forall₂_same.2 fun field _ => hasFate_iff.2 rfl
  · exact ⟨_, hasFate_iff.2 rfl, fun fate hf => (hasFate_iff.1 hf).symm⟩
  · rw [← runIn_eq_foldlM, ← h, parse_eq_parseIn, parseIn]
  · exact runIn_eq_foldlM _ act [] query

/-- Options under which fields are dropped, copied and renamed. -/
def recordingOptions : Options :=
  { Options.standard .standard with
    aliases := [("tag", "label")]
    blacklist := ["secret"]
    custom := [("raw", .given (.call fun filter raw => .ok (filter.assign "copy" raw)))] }

/-- A query in which some fields are dropped, each for another reason. -/
def mixedQuery : Query :=
  [("secret[]", .list []), ("tag[]", .list [.str "a"]), ("h4xor$", .str "x"), ("none[]", .list []),
    ("raw", .str "!b"), ("size", .int 5)]

/-- Four records, an assignment under the new name of a field, and a builder. -/
theorem parse_accounts_mixed : ∃ fates, List.Forall₂ recordingOptions.HasFate mixedQuery fates ∧
    fates.filterMap Fate.record? =
      ["'secret[]': blacklisted", "'h4xor$': invalid key",
        "'none[]': empty or unsupported array", "'size': unsupported value int"].map
        (fun s => ⟨.debug, "mongoqs.MongoQS", "Dropping field " ++ s⟩) ∧
    fates.foldlM (Fate.perform Builder.run) [] =
      .ok [("label", .doc [("$in", .list [.str "a"])]), ("copy", .str "!b")] := by
  have hparse : (ofOptions recordingOptions).parse mixedQuery =
      .ok [("label", .doc [("$in", .list [.str "a"])]), ("copy", .str "!b")] := by
    decide +kernel
  obtain ⟨fates, hfates, -, hrecords, hfilter, -⟩ := parse_accounts.{0} hparse
  refine ⟨fates, hfates, ?_, hfilter⟩
  rw [← hrecords]
  decide +kernel

end Parser

end QueryFilter
