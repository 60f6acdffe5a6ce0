import QueryFilter.Proofs.Parser.Concatenation
import QueryFilter.Proofs.Parser.Failure
import QueryFilter.Proofs.Parser.ListMembers
import Mathlib.Data.List.Basic

/-!
# Operators that a parser lists

The operators that are options of a parser are all that its filters are made with. An entry of
a condition is there because of an operator that is listed and, but for plain values, because
a text of the field begins with it (`Options.Permits`). A text whose first character is not
listed stands for itself as a whole, alone as well as in a list.

* `permits_fragment`, `permits_readScalar`, `permits_readList`: the conditions of tokens, of
  texts and of lists;
* `exists_parse_permits`: all conditions of a filter, and the texts without a listed operator.
-/

namespace QueryFilter

namespace Options

/-- Whether a text begins with a sigil that is one of the operators of the parser. -/
def BeginsWith (o : Options) (s : String) (sigil : Sigil) : Prop :=
  s.toList.head? = some sigil.char ∧ sigil.text ∈ o.operators

/-- The entries of conditions that the operators of a parser permit, if `texts` are the texts
    of the field. -/
inductive Permits (o : Options) (texts : List String) : String → Value → Prop
  | eq (v : Value) : Permits o texts "$eq" v
  | present : Permits o texts "$exists" (.bool true)
  | absent {s : String} (hs : s ∈ texts) (h : o.BeginsWith s .not) :
      Permits o texts "$exists" (.bool false)
  | ne {s : String} (hs : s ∈ texts) (h : o.BeginsWith s .not) (v : Value) :
      Permits o texts "$ne" v
  | greater {s key : String} (hs : s ∈ texts) (h : o.BeginsWith s .greater)
      (hkey : key ∈ ["$gt", "$gte"]) (v : Value) : Permits o texts key v
  | less {s key : String} (hs : s ∈ texts) (h : o.BeginsWith s .less)
      (hkey : key ∈ ["$lt", "$lte"]) (v : Value) : Permits o texts key v
  | regex {s : String} {sigil : Sigil} (hs : s ∈ texts) (h : o.BeginsWith s sigil)
      (hsigil : sigil ∈ [.startsWith, .endsWith, .contains]) (array : Bool) :
      Permits o texts "$regex" ((Parser.ofOptions o).readToken array s).value
  | options {s : String} {sigil : Sigil} (hs : s ∈ texts) (h : o.BeginsWith s sigil)
      (hsigil : sigil ∈ [.startsWith, .endsWith, .contains]) : Permits o texts "$options" (.str "i")
  | oneOf (hin : "$in" ∈ o.operators) (v : Value) : Permits o texts "$in" v
  | noneOf {s : String} (hin : "$in" ∈ o.operators) (hs : s ∈ texts) (h : o.BeginsWith s .not)
      (v : Value) : Permits o texts "$nin" v

end Options

namespace Parser

variable {o : Options} {texts : List String} {s : String} {sigil : Sigil} {d : Document}

/-! ## Conditions -/

/-- The condition of a text with a listed sigil. In a list, this needs that lists are enabled. -/
theorem permits_fragment {array : Bool} (h : (ofOptions o).sigil? s = some sigil) (hs : s ∈ texts)
    (hin : array = true → "$in" ∈ o.operators) :
    ∀ e ∈ ((ofOptions o).readToken array s).fragment, o.Permits texts e.1 e.2 := by
  have hbegins : o.BeginsWith s sigil := sigil?_eq_some_iff.1 h
  have htoken : (ofOptions o).readToken array s = _ := readToken_of_sigil? h
  cases sigil with
  | not =>
    rw [htoken, Token.ofSigil]
    -- In a list the value is excluded; alone, it is unequal, or the field is not there.
    cases array with
    | true =>
      simp only [if_true, Token.fragment_condition, List.forall_mem_singleton]
      exact .noneOf (hin rfl) hs hbegins _
    | false =>
      simp only [Bool.false_eq_true, if_false]
      split <;> simp only [Token.fragment_condition, List.forall_mem_singleton]
      · exact .absent hs hbegins
      · exact .ne hs hbegins _
  | greater =>
    have hkeys : ∀ b : Bool, (if b then Tag.gte else .gt).text ∈ ["$gt", "$gte"] := by decide
    rw [htoken, Token.fragment_ofSigil_greater, List.forall_mem_singleton]
    exact .greater hs hbegins (hkeys _) _
  | less =>
    have hkeys : ∀ b : Bool, (if b then Tag.lte else .lt).text ∈ ["$lt", "$lte"] := by decide
    rw [htoken, Token.fragment_ofSigil_less, List.forall_mem_singleton]
    exact .less hs hbegins (hkeys _) _
  | startsWith | endsWith | contains =>
    rw [htoken, Token.fragment_ofSigil_pattern (by decide), ← htoken, List.forall_mem_cons,
      List.forall_mem_singleton]
    exact ⟨.regex hs hbegins (by decide) array, .options hs hbegins (by decide)⟩

/-- The condition that is stored for a text. -/
theorem permits_readScalar (hs : s ∈ texts) (h : (ofOptions o).readScalar s = .doc d) :
    ∀ e ∈ d, o.Permits texts e.1 e.2 := by
  rw [readScalar] at h
  split at h
  next =>
    obtain rfl := Value.doc.inj h
    rw [List.forall_mem_singleton]
    exact .present
  next hne =>
    split at h
    next hop =>
      obtain rfl := Value.doc.inj h
      cases hsigil : (ofOptions o).sigil? s with
      | some sigil => exact permits_fragment hsigil hs fun h => absurd h Bool.false_ne_true
      | none =>
        -- A listed character that is no sigil stands for itself.
        rw [readToken_of_sigil?_eq_none hop hsigil, Token.plain]
        simp only [Bool.false_eq_true, if_false, if_neg hne, Token.fragment_condition,
          List.forall_mem_singleton]
        exact .eq _
    next =>
      -- A plain value is no condition.
      have hscalar := (Scalar.read (ofOptions o).options.coercion s).isScalar_toValue
      rw [← readPlain, h] at hscalar
      cases hscalar

/-- One more text keeps the condition of a list within what is permitted. -/
theorem permits_addItem (hin : "$in" ∈ o.operators) (hd : ∀ e ∈ d, o.Permits texts e.1 e.2)
    (hs : s ∈ texts) : ∀ e ∈ (ofOptions o).addItem d s, o.Permits texts e.1 e.2 := by
  intro e he
  rcases addItem_eq_or (ofOptions o) d s with
    ⟨-, hadd⟩ | ⟨hsigil, hadd⟩ | ⟨sigil, -, hsigil, hadd⟩
  · rw [hadd, appendUnder, Entries.modify] at he
    rcases Entries.mem_assign he with rfl | he
    · exact .oneOf hin _
    · exact hd e he
  · rw [hadd, appendUnder, Entries.modify] at he
    rcases Entries.mem_assign he with rfl | he
    · exact .noneOf hin hs (sigil?_eq_some_iff.1 hsigil) _
    · exact hd e he
  · rw [hadd, ← readToken_of_sigil? hsigil] at he
    rcases Entries.mem_update he with he | he
    · exact hd e he
    · exact permits_fragment hsigil hs (fun _ => hin) e he

/-- So do several texts. -/
theorem permits_foldl (hin : "$in" ∈ o.operators) (hd : ∀ e ∈ d, o.Permits texts e.1 e.2)
    {ss : List String} (hss : ∀ s ∈ ss, s ∈ texts) :
    ∀ e ∈ ss.foldl (ofOptions o).addItem d, o.Permits texts e.1 e.2 := by
  induction ss generalizing d with
  | nil => exact hd
  | cons s ss ih =>
    obtain ⟨hs, hss⟩ := List.forall_mem_cons.1 hss
    exact ih (permits_addItem hin hd hs) hss

/-- The condition of a list. -/
theorem permits_readList {items : List Value} (h : (ofOptions o).readList items = some d) :
    ∀ e ∈ d, o.Permits (items.filterMap Value.str?) e.1 e.2 := by
  obtain ⟨hin, -, rfl⟩ := readList_eq_some_iff.1 h
  exact permits_foldl hin (by simp) fun s hs => hs

/-! ## Filters -/

/-- A condition that a field writes has what the operators permit. -/
theorem permits_of_entryOf (hc : o.custom = []) {name key : String} {raw : Value}
    (h : (ofOptions o).entryOf name raw = .ok (some (key, .doc d))) :
    o.Admits name raw key ∧ ∀ e ∈ d, o.Permits (QueryString.textsOf raw) e.1 e.2 := by
  obtain ⟨ha, -, ⟨s, rfl, hd⟩ | ⟨items, d', rfl, hd', hd⟩⟩ :=
    route_eq_store_iff.1 ((entryOf_eq_some_iff_of_custom_eq_nil hc).1 h)
  · exact ⟨ha, permits_readScalar (List.mem_singleton.2 rfl) hd.symm⟩
  · obtain rfl := Value.doc.inj hd
    exact ⟨ha, permits_readList hd'⟩

/-- A parser without builders makes a filter of every query, and its conditions have only what
    the operators that it lists permit: each is the condition of a field, of which a text begins
    with the operator that an entry is made with. A text whose first character is not listed is
    stored as the value that it stands for as a whole, and in a list it is one of the values
    that are sought, in its place; this is what the filter has unless a later field writes under
    the same key. -/
theorem exists_parse_permits (hc : o.custom = []) (query : Query) :
    ∃ filter, (ofOptions o).parse query = .ok filter ∧
      (∀ key d, (key, .doc d) ∈ filter → ∃ field ∈ query, o.Admits field.1 field.2 key ∧
        ∀ e ∈ d, o.Permits (QueryString.textsOf field.2) e.1 e.2) ∧
      (∀ before name s after key, query = before ++ (name, .str s) :: after →
        o.Admits name (.str s) key → (∀ field ∈ after, ¬o.Writes field.1 field.2 key) →
          s ≠ "" → (ofOptions o).hasOperator s = false →
            filter.get? key = some (Scalar.read o.coercion s).toValue) ∧
      ∀ before name items after key, query = before ++ (name, .list items) :: after →
        o.Admits name (.list items) key → (∀ field ∈ after, ¬o.Writes field.1 field.2 key) →
          ∀ d, (ofOptions o).readList items = some d → filter.get? key = some (.doc d) ∧
            ∀ pre s post, items = pre ++ .str s :: post → (ofOptions o).hasOperator s = false →
              d.get? "$in" = some (.list ((ofOptions o).members .oneOf pre ++
                (Scalar.read o.coercion s).toValue :: (ofOptions o).members .oneOf post)) := by
  have ho := Options.isBuiltIn_of_custom_eq_nil hc
  obtain ⟨filter, hfilter⟩ := exists_parse_of_custom_eq_nil hc query
  refine ⟨filter, hfilter, ?_, ?_, ?_⟩
  · intro key d hmem
    obtain ⟨es, hes, rfl⟩ := (parse_eq_ok_iff ho).1 hfilter
    obtain ⟨field, hf, hentry⟩ := (mem_entriesOf_iff hes).1 (Entries.mem_of_mem_ofPairs hmem)
    exact ⟨field, hf, permits_of_entryOf hc hentry⟩
  · rintro before name s after key rfl ha hlast hs hop
    refine get?_parse_of_last ho hfilter ?_ hlast
    rw [entryOf_eq_some_iff_of_custom_eq_nil hc, route_eq_store_iff]
    exact ⟨ha, Options.builder?_of_custom_eq_nil hc key,
      .inl ⟨s, rfl, (readScalar_of_not_hasOperator hs hop).symm⟩⟩
  · rintro before name items after key rfl ha hlast d hd
    refine ⟨get?_parse_of_last ho hfilter ?_ hlast, ?_⟩
    · rw [entryOf_eq_some_iff_of_custom_eq_nil hc, route_eq_store_iff]
      exact ⟨ha, Options.builder?_of_custom_eq_nil hc key, .inr ⟨items, d, rfl, hd, rfl⟩⟩
    · rintro pre s post rfl hop
      have hmember := member?_of_sigil?_eq_none (sigil?_of_not_hasOperator hop)
      have hget : d.get? Tag.oneOf.text = _ := get?_readList (by decide) hd
      rwa [members_append_cons hmember, collected_append_cons] at hget

/-- Options that list one sigil, and texts that are none. -/
def fewOperators : Options :=
  { Options.standard .standard with operators := ["!", "x", "", ">=", "$in"] }

/-- A list and a text with a sigil that is not listed. -/
theorem exists_parse_permits_few : fewOperators.custom = [] ∧ ∃ filter,
    (ofOptions fewOperators).parse
      [("tags[]", .list [.str "!b", .null, .str ">c", .str "xd"]), ("size", .str ">5")] =
        .ok filter ∧
    filter.get? "size" = some (.str ">5") ∧ ∃ d : Document, filter.get? "tags" = some (.doc d) ∧
      d.get? "$in" = some (.list [.str ">c", .str "xd"]) := by
  obtain ⟨filter, hfilter, -, hscalar, hlist⟩ := exists_parse_permits (o := fewOperators) rfl
    [("tags[]", .list [.str "!b", .null, .str ">c", .str "xd"]), ("size", .str ">5")]
  have hd : (ofOptions fewOperators).readList [.str "!b", .null, .str ">c", .str "xd"] =
      some [("$nin", .list [.str "b"]), ("$in", .list [.str ">c", .str "xd"])] := by
    decide +kernel
  have hsize : Pattern.key.finds "size".toList = true := by decide +kernel
  have htags : Pattern.arrayKey.finds "tags".toList = true := by decide +kernel
  have hplain : (Scalar.read fewOperators.coercion ">5").toValue = .str ">5" := by decide +kernel
  -- The field after the list has another name.
  have hlast : ∀ field ∈ [("size", Value.str ">5")],
      ¬fewOperators.Writes field.1 field.2 "tags" := by
    rw [List.forall_mem_singleton]
    rintro ⟨target, ha, ⟨kind, hb, -⟩ | ⟨-, hkey, -⟩⟩
    · simp [Options.builder?_of_custom_eq_nil (o := fewOperators) rfl] at hb
    · exact absurd (hkey.trans ha.key_eq) (by decide +kernel)
  obtain ⟨hget, hin⟩ := hlist [] "tags[]" _ _ "tags" rfl
    ⟨.inl rfl, List.not_mem_nil, by decide +kernel, nofun, fun _ _ => htags⟩ hlast _ hd
  refine ⟨rfl, filter, hfilter, ?_, _, hget, ?_⟩
  · rw [← hplain]
    exact hscalar [_] "size" ">5" [] "size" rfl
      ⟨.inl rfl, List.not_mem_nil, rfl, fun _ _ => hsize, nofun⟩ (by simp) (by decide)
      (by decide +kernel)
  · exact (hin [.str "!b", .null] ">c" [.str "xd"] rfl (by decide +kernel)).trans (by decide +kernel)

end Parser

end QueryFilter
