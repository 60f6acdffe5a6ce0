import QueryFilter.Validation
import QueryFilter.Proofs.Number.ReadBack

/-!
# Checks of parts

When a list of parts is read, and which values say a truth value (`SaysBool`): the truth values
themselves, the numbers 0 and 1, and some words.

* `Checked.collect_eq_ok_iff`: what is read of a list of parts;
* `readBool_eq_ok_iff`: a truth value is read exactly from what says it.
-/

namespace QueryFilter

/-! ## Parts -/

/-- A result that is made from another one. -/
theorem map_eq_ok_iff {ε α β : Type} {x : Except ε α} {f : α → β} {b : β} :
    x.map f = .ok b ↔ ∃ a, x = .ok a ∧ f a = b := by
  cases x <;> simp [Except.map]

/-- A list of parts is read if each part is, where what is read of a part is known by what it is
    and by what the part is. -/
theorem Checked.collect_eq_ok_iff {α β γ : Type} {check : α → Checked β} {f : α → γ} {g : β → γ}
    (hcheck : ∀ a b, check a = .ok b ↔ f a = g b) {as : List α} {bs : List β} :
    collect check as = .ok bs ↔ as.map f = bs.map g := by
  induction as generalizing bs with
  | nil => cases bs <;> simp [collect]
  | cons a as ih =>
    rw [collect, and_eq_ok_iff, List.map_cons]
    constructor
    · rintro ⟨_, rest, hfirst, hrest, rfl⟩
      obtain ⟨_, b, hstart, hb, rfl⟩ := and_eq_ok_iff.1 hfirst
      cases hstart
      rw [List.map_cons, (hcheck a b).1 hb, ih.1 hrest]
    · intro h
      match bs with
      | b :: rest =>
        obtain ⟨hb, hrest⟩ := List.cons.inj h
        exact ⟨List.cons b, rest, and_eq_ok_iff.2 ⟨List.cons, b, rfl, (hcheck a b).2 hb, rfl⟩,
          ih.2 hrest, rfl⟩

/-! ## Truth values -/

/-- Whether a value says a truth value: it is one, it is the number 1 or 0, or it is a word for
    one in any letter case. -/
inductive SaysBool : Value → Bool → Prop
  | bool (b : Bool) : SaysBool (.bool b) b
  | int (b : Bool) : SaysBool (.int (if b then 1 else 0)) b
  | num {x : FiniteDouble} {b : Bool} (h : x.value = if b then 1 else 0) :
      SaysBool (.num (.finite x)) b
  | word {s word : String} {b : Bool} (h : (word, b) ∈ boolWords)
      (hs : s.toList.map Char.toLower = word.toList) : SaysBool (.str s) b

/-- No word stands for both truth values. -/
theorem boolWords_functional :
    ∀ e ∈ boolWords, ∀ e' ∈ boolWords, e.1 = e'.1 → e.2 = e'.2 := by
  decide

/-- The truth value of a word. -/
theorem boolOfWord?_eq_some_iff {s : String} {b : Bool} :
    boolOfWord? s = some b ↔
      ∃ word, (word, b) ∈ boolWords ∧ s.toList.map Char.toLower = word.toList := by
  simp only [boolOfWord?, Option.map_eq_some_iff]
  constructor
  · rintro ⟨⟨word, b⟩, hfind, rfl⟩
    have hlow : word = String.ofList (s.toList.map Char.toLower) := by
      simpa using List.find?_some hfind
    exact ⟨word, List.mem_of_find?_eq_some hfind, by rw [hlow, String.toList_ofList]⟩
  · rintro ⟨word, hmem, hlow⟩
    rw [hlow, String.ofList_toList]
    -- The word is in the table, so one with the same truth value is found.
    obtain ⟨e, he⟩ : ∃ e, boolWords.find? (fun entry => entry.1 == word) = some e :=
      Option.isSome_iff_exists.1 (List.find?_isSome.2 ⟨_, hmem, beq_self_eq_true word⟩)
    refine ⟨e, he, ?_⟩
    have hname : e.1 = word := by simpa using List.find?_some he
    exact boolWords_functional e (List.mem_of_find?_eq_some he) _ hmem hname

/-- The truth value of an integer. -/
theorem boolOfInt?_eq_some_iff {i : Int} {b : Bool} :
    boolOfInt? i = some b ↔ i = if b then 1 else 0 := by
  unfold boolOfInt?
  split_ifs <;> cases b <;> simp_all

namespace FiniteDouble

variable {x : FiniteDouble} {b : Bool}

/-- A number is 0 if it has no units. -/
theorem value_eq_zero_iff : x.value = 0 ↔ x.units = 0 := by
  cases hsign : x.negative <;> simp [value, signFactor, hsign]

/-- A number is 1 if it has no sign and the units of one. -/
theorem value_eq_one_iff : x.value = 1 ↔ x.negative = false ∧ x.units = Nat.pow 2 1074 := by
  have hsize : x.size = 1 ↔ x.units = Nat.pow 2 1074 := by
    have hone := units_of_one_pos
    rw [size_eq_div]
    generalize Nat.pow 2 1074 = one at hone ⊢
    rw [div_eq_one_iff_eq (Nat.cast_ne_zero.2 hone.ne'), Nat.cast_inj]
  have hnonneg := x.size_nonneg
  rw [value_eq, ← hsize]
  cases x.negative with
  | false => simp [signFactor]
  | true =>
    have hne : -x.size ≠ 1 := by linarith
    simp [signFactor, hne]

/-- The truth value of a number. -/
theorem boolOfNumber?_eq_some_iff : boolOfNumber? x = some b ↔ x.value = if b then 1 else 0 := by
  have hone := units_of_one_pos
  have htrue := value_eq_one_iff (x := x)
  unfold boolOfNumber?
  generalize Nat.pow 2 1074 = one at hone htrue ⊢
  cases b with
  | false =>
    rw [if_neg Bool.false_ne_true, value_eq_zero_iff]
    split_ifs <;> simp_all
  | true =>
    rw [if_pos rfl, htrue]
    split_ifs with h₀ h₁
    · simp [h₀, hone.ne]
    · simp [h₁]
    · simp [h₁]

/-- A number with a truth value is a whole number. -/
theorem isWholeNumber_of_boolOfNumber? (h : boolOfNumber? x = some b) : isWholeNumber x = true := by
  have hone := units_of_one_pos
  have hlimit : 1 < wordLimit := by decide
  unfold boolOfNumber? at h
  rw [isWholeNumber, isIntegral]
  generalize Nat.pow 2 1074 = one at hone h ⊢
  have hunits : x.units = 0 ∨ x.units = one := by
    split_ifs at h with h₀ h₁
    · exact .inl h₀
    · exact .inr h₁.2
  rcases hunits with h | h <;> rw [h]
  · simp [hone, Nat.zero_lt_of_lt hlimit]
  · simp [hone, hlimit]

end FiniteDouble

/-- A word with a truth value is read. -/
theorem readBool_str {s : String} {b : Bool} :
    readBool (.str s) = .ok b ↔ boolOfWord? s = some b := by
  rw [readBool]
  cases boolOfWord? s <;> simp

/-- An integer with a truth value is read, for it is a small one. -/
theorem readBool_int {i : Int} {b : Bool} :
    readBool (.int i) = .ok b ↔ boolOfInt? i = some b := by
  have hword : boolOfInt? i = some b → isWord i = true := by
    rw [boolOfInt?_eq_some_iff]
    rintro rfl
    cases b <;> decide
  rw [readBool]
  split_ifs with h
  · cases boolOfInt? i <;> simp
  · simpa using mt hword h

/-- A number with a truth value is read, for it is a whole one. -/
theorem readBool_num {x : FiniteDouble} {b : Bool} :
    readBool (.num (.finite x)) = .ok b ↔ boolOfNumber? x = some b := by
  rw [readBool]
  split_ifs with h
  · cases boolOfNumber? x <;> simp
  · simpa using mt FiniteDouble.isWholeNumber_of_boolOfNumber? h

/-- A truth value is read exactly from a value that says it. -/
theorem readBool_eq_ok_iff {v : Value} {b : Bool} : readBool v = .ok b ↔ SaysBool v b := by
  constructor
  · intro h
    match v with
    | .bool c =>
      cases h
      exact .bool b
    | .str s =>
      obtain ⟨word, hmem, hlow⟩ := boolOfWord?_eq_some_iff.1 (readBool_str.1 h)
      exact .word hmem hlow
    | .int i =>
      rw [boolOfInt?_eq_some_iff.1 (readBool_int.1 h)]
      exact .int b
    | .num (.finite x) => exact .num (FiniteDouble.boolOfNumber?_eq_some_iff.1 (readBool_num.1 h))
    | .null | .num (.infinite _) | .num .nan | .list _ | .doc _ => simp [readBool] at h
  · rintro (_ | _ | h | ⟨hmem, hlow⟩)
    · rfl
    · exact readBool_int.2 (boolOfInt?_eq_some_iff.2 rfl)
    · exact readBool_num.2 (FiniteDouble.boolOfNumber?_eq_some_iff.2 h)
    · exact readBool_str.2 (boolOfWord?_eq_some_iff.2 ⟨_, hmem, hlow⟩)

end QueryFilter
